import GB28181.Base.CString
import GB28181.Base.SendLoop

/-!
# Sending over TCP (`RTSPCom/TCPClient.cpp`, `GB28181.Lib/SmartSocket.cpp`)

`CTCPClient::SendData` and `CSmartSocket::SendData` count the bytes that are left, but every call
of `send` is handed the start of the message again.  The results of the calls are an input of the
functions below.

* `sendData_correct_iff` — the bytes accepted are those of the message, in order, exactly when
  **every piece after the first repeats the start of the message**.
-/

set_option autoImplicit false

namespace GB28181.Lib

open GB28181.Base

/-- The loop of both functions: `send(sock, buf, msgleft, 0)`, with `buf` as it was handed in. -/
def sendAll (buf : CStr) (datalength : Nat) (results : List SendResult) : SendRun UInt8 :=
  sendLoop (fun msgleft => buf.take msgleft) datalength results

def CTCPClient.sendData (buf : CStr) (results : List SendResult) : SendRun UInt8 :=
  sendAll buf buf.length results

def CTCPClient.sendString (buf : CStr) (results : List SendResult) : SendRun UInt8 :=
  CTCPClient.sendData buf results

/-- `CSmartSocket`, of which `SendData` resets the package under construction. -/
structure CSmartSocket where
  pIncompleteData : Option CStr
  deriving DecidableEq

def CSmartSocket.sendData (_socket : CSmartSocket) (buf : CStr) (results : List SendResult) :
    SendRun UInt8 × CSmartSocket :=
  (sendAll buf buf.length results, { pIncompleteData := none })

/-- The result tells whether a call failed, and what was accepted is the message or, after a
failure, a prefix of it. -/
structure SendCorrect (buf : CStr) (results : List SendResult) (r : SendRun UInt8) : Prop where
  complete : ¬ Fails results → r.ret = some true ∧ r.sent = buf
  failed : Fails results → r.ret = some false ∧ r.sent <+: buf

/-- Every piece accepted repeats the start of the message. -/
def RepeatsStart (buf : CStr) (results : List SendResult) : Prop :=
  ∀ p ∈ pieces 0 results, buf.take p.2 = (buf.drop p.1).take p.2

theorem pieces_le (results : List SendResult) :
    ∀ start left : Nat, Answers results left → ∀ p ∈ pieces start results,
      p.1 + p.2 ≤ start + left := by
  induction results with
  | nil =>
    intro start left _ p hp
    cases hp
  | cons r results ih =>
    intro start left h p hp
    match r, h with
    | .error, _ => cases hp
    | .sent 0, _ => cases hp
    | .sent (n + 1), h =>
      have hle := h.1
      rcases List.mem_cons.mp hp with rfl | hp
      · dsimp only
        omega
      · have hrest := ih (start + (n + 1)) (left - (n + 1)) h.2 p hp
        omega

theorem sendAll_correct_iff (buf : CStr) (results : List SendResult)
    (h : Answers results buf.length) :
    SendCorrect buf results (sendAll buf buf.length results) ↔ RepeatsStart buf results := by
  have hoffer : ∀ left, left ≤ buf.length → (buf.take left).length = left := fun left hl => by
    rw [List.length_take, Nat.min_eq_left hl]
  have hret := sendLoop_ret (fun msgleft => buf.take msgleft) results buf.length h
  have hprefix := sent_prefix_iff buf _ hoffer results 0 buf.length (Nat.zero_add _) h
  -- what `send` is offered starts like the message, however much of it is left
  have hstart : (∀ p ∈ pieces 0 results,
      (buf.take (buf.length - p.1)).take p.2 = (buf.drop p.1).take p.2) ↔
        RepeatsStart buf results := by
    apply forall₂_congr
    intro p hp
    have hle := pieces_le results 0 buf.length h p hp
    rw [List.take_take, Nat.min_eq_left (by omega)]
  rw [List.drop_zero, hstart] at hprefix
  constructor
  · intro hc
    apply hprefix.mp
    by_cases hf : Fails results
    · exact (hc.failed hf).2
    · have hsent := (hc.complete hf).2
      exact ⟨[], (List.append_nil _).trans hsent⟩
  · intro hr
    have hpre := hprefix.mpr hr
    constructor
    · intro hf
      have hlen := sent_length _ results buf.length hoffer h hf
      refine ⟨by rw [sendAll, hret, decide_eq_true hf], ?_⟩
      exact hpre.eq_of_length hlen
    · intro hf
      exact ⟨by rw [sendAll, hret, decide_eq_false (not_not.mpr hf)], hpre⟩

/-- **What is sent after a partial `send`.**  For every message and all results of the calls of
`send`, each of the functions does what it is to do exactly when every piece accepted repeats the
start of the message. -/
theorem sendData_correct_iff (buf : CStr) (results : List SendResult)
    (h : Answers results buf.length) :
    (SendCorrect buf results (CTCPClient.sendData buf results) ↔ RepeatsStart buf results) ∧
      (SendCorrect buf results (CTCPClient.sendString buf results) ↔ RepeatsStart buf results) ∧
      ∀ socket : CSmartSocket,
        SendCorrect buf results (socket.sendData buf results).1 ↔ RepeatsStart buf results :=
  ⟨sendAll_correct_iff buf results h, sendAll_correct_iff buf results h,
    fun _ => sendAll_correct_iff buf results h⟩

/-- The text `abab`, taken two bytes at a time. -/
theorem sendData_correct_abab :
    SendCorrect (str "abab") [.sent 2, .sent 2]
      (CTCPClient.sendData (str "abab") [.sent 2, .sent 2]) := by
  apply (sendData_correct_iff (str "abab") [.sent 2, .sent 2] (by decide)).1.mpr
  unfold RepeatsStart
  decide

/-- Of the text `abcd`, taken two bytes at a time, the first half is sent twice. -/
theorem sendData_abcd :
    Answers [.sent 2, .sent 2] (str "abcd").length ∧ ¬ Fails [.sent 2, .sent 2] ∧
      CTCPClient.sendData (str "abcd") [.sent 2, .sent 2] = ⟨some true, str "abab"⟩ ∧
      ¬ SendCorrect (str "abcd") [.sent 2, .sent 2]
        (CTCPClient.sendData (str "abcd") [.sent 2, .sent 2]) := by
  have hsent : CTCPClient.sendData (str "abcd") [.sent 2, .sent 2] = ⟨some true, str "abab"⟩ := by
    decide
  refine ⟨by decide, by decide, hsent, fun hc => ?_⟩
  have habcd := (hc.complete (by decide)).2
  rw [hsent] at habcd
  revert habcd
  decide

end GB28181.Lib
