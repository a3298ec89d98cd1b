import Mathlib.Data.Finset.Sort
import GB28181.Base.CString
import GB28181.Base.Map
import GB28181.Base.Run

/-!
# Expiring subscriptions (`SIPCom/SIPUnit.cpp`, `SIPCom/SIPCom.cpp`)

`AddSubscribeExpires` enters the expiry time of a call, `CheckSubExpiry` moves the expired calls
into a second table, and `SubscribeTimerProc` reports that table to `DEVINFO`.

* `table` — the table after any sequence of calls; `Due` — what is due, from the sequence alone;
* `subscribeTimerProc_eq` — no poll sends a message;
* `reports_iff` — every poll reports what is due exactly when nothing is due at any of them.

The locks are left out.
-/

set_option autoImplicit false

namespace GB28181.Platform.SIPUnit

open GB28181.Base

/-- `MExpiry_t`: the expiry times by call. -/
abbrev MExpiry := Map Int Int

/-- A message of `SubscribeTimerProc` to `DEVINFO`. -/
structure SubscribeMessage where
  nCallDialogID : Int
  szSubExpires : CStr
deriving DecidableEq

/-! ## The functions -/

/-- `AddSubscribeExpires`; an interval of zero cancels. -/
def addSubscribeExpires (tmCur nCallID nSubExpiryInterval : Int) (m_tmSubExpiry : MExpiry) :
    MExpiry :=
  let m_tmSubExpiry := m_tmSubExpiry.erase nCallID
  if nSubExpiryInterval ≠ 0 then m_tmSubExpiry.insert nCallID (tmCur + nSubExpiryInterval)
  else m_tmSubExpiry

/-- What `CheckSubExpiry` returns and leaves. -/
structure SubExpiry where
  ret : Int
  szTimeOut : MExpiry
  m_tmSubExpiry : MExpiry

/-- The loop of `CheckSubExpiry` over the calls of the table `m`. -/
def checkCalls (tmCur : Int) (m : MExpiry) : List Int → SubExpiry → SubExpiry
  | [], r => r
  | it :: calls, r =>
    if m.index it 0 ≤ tmCur then
      checkCalls tmCur m calls
        { r with
          szTimeOut := r.szTimeOut.insert it (m.index it 0)
          m_tmSubExpiry := r.m_tmSubExpiry.erase it }
    else checkCalls tmCur m calls r

/-- The keys of a `std::map` in the order of an iterator. -/
def inOrder (m : MExpiry) : List Int := m.keys.sort

/-- `CheckSubExpiry`: the return value is zero on every path. -/
def checkSubExpiry (tmCur : Int) (m_tmSubExpiry : MExpiry) : SubExpiry :=
  checkCalls tmCur m_tmSubExpiry (inOrder m_tmSubExpiry)
    { ret := 0, szTimeOut := ∅, m_tmSubExpiry := m_tmSubExpiry }

def timeout (nCallID : Int) : SubscribeMessage := ⟨nCallID, str "Timeout"⟩

/-- The loop of `SubscribeTimerProc`, followed for some turns: the header does not advance the
iterator and the body does not either. -/
def pushTimeouts : Nat → List Int → Option (List SubscribeMessage)
  | _, [] => some []
  | 0, _ :: _ => none
  | turns + 1, it :: calls => do
    let rest ← pushTimeouts turns (it :: calls)
    return timeout it :: rest

/-- `SubscribeTimerProc`, with its loop followed for some turns: the table left and the messages
pushed to `DEVINFO`. -/
def subscribeTimerProc (turns : Nat) (tmCur : Int) (m_tmSubExpiry : MExpiry) :
    Option (MExpiry × List SubscribeMessage) := do
  let r := checkSubExpiry tmCur m_tmSubExpiry
  let messages ← if r.ret ≠ 0 then pushTimeouts turns (inOrder r.szTimeOut) else some []
  return (r.m_tmSubExpiry, messages)

/-! ## What a check moves -/

theorem checkCalls_ret (tmCur : Int) (m : MExpiry) (calls : List Int) (r : SubExpiry) :
    (checkCalls tmCur m calls r).ret = r.ret := by
  induction calls generalizing r with
  | nil => rfl
  | cons it calls ih =>
    unfold checkCalls
    split
    · exact ih _
    · exact ih _

/-- **The return value decides**: no poll enters the loop. -/
theorem subscribeTimerProc_eq (turns : Nat) (tmCur : Int) (m : MExpiry) :
    subscribeTimerProc turns tmCur m = some ((checkSubExpiry tmCur m).m_tmSubExpiry, []) := by
  have h : (checkSubExpiry tmCur m).ret = 0 := checkCalls_ret _ _ _ _
  simp [subscribeTimerProc, h]

/-! ## Runs -/

inductive TimerInput where
  | subscribe (nCallID nSubExpiryInterval : Int)
  | poll
deriving DecidableEq

def timerStep (m : MExpiry) (i : Int × TimerInput) : MExpiry :=
  match i.2 with
  | .subscribe nCallID nSubExpiryInterval =>
    addSubscribeExpires i.1 nCallID nSubExpiryInterval m
  | .poll => (checkSubExpiry i.1 m).m_tmSubExpiry

def table (history : List (Int × TimerInput)) : MExpiry := run timerStep ∅ history

/-- A subscription of the history to the call `c` runs until the time `e`: nothing refreshed or
cancelled it, and every poll since came before its end. -/
def Awaits (history : List (Int × TimerInput)) (c e : Int) : Prop :=
  ∃ pre t n post, history = pre ++ (t, .subscribe c n) :: post ∧ n ≠ 0 ∧ e = t + n ∧
    (∀ t' n', (t', TimerInput.subscribe c n') ∉ post) ∧ ∀ t', (t', .poll) ∈ post → t' < e

/-- The subscription to the call `c` has ended by `now` and no poll has met its end. -/
def Due (history : List (Int × TimerInput)) (now c : Int) : Prop :=
  ∃ e ≤ now, Awaits history c e

/-- A poll reports a history: it comes to an end, and its messages are one for each call that is
due. -/
def Reports (history : List (Int × TimerInput)) (now : Int) : Prop :=
  ∃ turns left messages, subscribeTimerProc turns now (table history) = some (left, messages) ∧
    (∀ c, Due history now c → messages.count (timeout c) = 1) ∧
    ∀ message ∈ messages, ∃ c, Due history now c ∧ message = timeout c

/-- A poll reports a history **exactly when nothing is due**. -/
theorem reports_iff_not_due {history : List (Int × TimerInput)} {now : Int} :
    Reports history now ↔ ∀ c, ¬ Due history now c := by
  constructor
  · rintro ⟨turns, left, messages, hproc, hdue, -⟩ c hc
    rw [subscribeTimerProc_eq] at hproc
    cases hproc
    exact absurd (hdue c hc) (by simp)
  · intro h
    refine ⟨0, _, [], subscribeTimerProc_eq 0 now _, ?_, ?_⟩
    · exact fun c hc => absurd hc (h c)
    · exact fun _ hm => by cases hm

/-- **Every poll of a run reports what is due if and only if none finds anything due.** -/
theorem reports_iff (inputs : List (Int × TimerInput)) :
    (∀ pre now post, inputs = pre ++ (now, .poll) :: post → Reports pre now) ↔
      ∀ pre now post, inputs = pre ++ (now, .poll) :: post → ∀ c, ¬ Due pre now c := by
  refine forall_congr' fun pre => forall_congr' fun now => forall_congr' fun post => ?_
  exact forall_congr' fun _ => reports_iff_not_due

/-- The call 7 is subscribed for five seconds and polled for five seconds later. -/
theorem timeout_not_reported :
    ¬ ∀ pre now post,
      [(100, TimerInput.subscribe 7 5), (105, .poll)] = pre ++ (now, .poll) :: post →
        Reports pre now := by
  intro h
  have hreports : Reports [(100, .subscribe 7 5)] 105 := h [(100, .subscribe 7 5)] 105 [] rfl
  refine reports_iff_not_due.mp hreports 7 ⟨105, le_refl _, [], 100, 5, [], rfl, ?_, rfl, ?_, ?_⟩
  · decide
  · exact fun _ _ h => by cases h
  · exact fun _ h => by cases h

end GB28181.Platform.SIPUnit
