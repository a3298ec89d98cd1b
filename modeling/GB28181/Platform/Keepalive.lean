import GB28181.Platform.HandleShared

/-!
# Keep-alives and their answers (`SIPCom/SIPCom.cpp`, `SIPCom/SIPUnit.cpp`, `SIPService.cpp`)

The platform process numbers a keep-alive, writes it to the SIP process and waits for its answer;
the SIP process sends the request and reports the answer in a block of its own.  `Step` is one
action of either process; requests and answers carry the position of the request among those
written, which neither process sees.

* `sendDataToShared_nSeq` — the block that reports an answer has the number that **was in the
  memory of the block**: nothing writes it;
* `handleShared_answersKeepalive_iff` — what one turn of `HandleShared` does for an answer;
* `answersKeepalive_run_iff` — the same for every answer of every run.

`HandleShared` gives the memory of a block back before it looks at its type and its number; what the
SIP process may have written there by then is an input of the turn.  The other times of the
registration are left out.
-/

set_option autoImplicit false

namespace GB28181.Platform.Keepalive

open GB28181.Base GB28181.SipCom
open GB28181.Platform.SIPCom (Config PlatformStatus)

/-! ## `CSIPUnit` -/

/-- `CSIPUnit`, as far as requests and their answers go. -/
structure CSIPUnit where
  m_unSeq : BitVec 32
  m_tmResponse : Int
  m_nLastKeepaliveSeq : Int
  m_ePlatformStatus : PlatformStatus

def responseTime : Int := 10

namespace CSIPUnit

/-- `GenerateCSeq`: the number as an `int`. -/
def generateCSeq (u : CSIPUnit) : Int × CSIPUnit :=
  let m_unSeq := u.m_unSeq + 1
  let m_unSeq := if 1 > m_unSeq.toNat then 1 else m_unSeq
  (m_unSeq.toInt, { u with m_unSeq := m_unSeq })

def setResponseTime (tmCur : Int) (u : CSIPUnit) : CSIPUnit :=
  { u with m_tmResponse := tmCur + responseTime }

def resetResponseTime (u : CSIPUnit) : CSIPUnit := { u with m_tmResponse := 0 }

def checkResponseTime (tmCur : Int) (u : CSIPUnit) : Int × CSIPUnit :=
  if 0 < u.m_tmResponse ∧ u.m_tmResponse < tmCur then (1, u.setResponseTime tmCur) else (0, u)

def isLastKeepaliveRes (nSeq : Int) (u : CSIPUnit) : Bool := nSeq == u.m_nLastKeepaliveSeq

def setLastKeepaliveCSeq (nSeq : Int) (u : CSIPUnit) : CSIPUnit :=
  { u with m_nLastKeepaliveSeq := nSeq }

end CSIPUnit

/-! ## The two processes -/

/-- A request to the SIP process: its place among those written and its `nSeq`. -/
structure Request where
  id : Nat
  nSeq : Int

/-- A block that reports an answer: the request that was answered, what `nSeq` held before the
block was filled, and the block. -/
structure Answer where
  id : Nat
  nSeq₀ : Int
  block : IpcSipBlock

/-- Both processes, the shared memory between them and the requests on the network. -/
structure System where
  unit : CSIPUnit
  /-- The number of requests written. -/
  written : Nat
  /-- The last keep-alive among them. -/
  keepalive : Option Nat
  toSip : List Request
  sent : List Request
  toPlatform : List Answer

/-- `CSIPCom::SendShared` of a block whose `nSeq` holds `nSeq₀`; without `room` the write fails. -/
def sendShared (cfg : Config) (nSeq nSeq₀ : Int) (room : Bool) (s : System) : System :=
  let nCSeq := if nSeq > 0 then (nSeq, s.unit) else s.unit.generateCSeq
  let block : Request :=
    { id := s.written, nSeq := if cfg.nSipComMode ≠ 1 then nCSeq.1 else nSeq₀ }
  { s with
    unit := nCSeq.2
    written := s.written + 1
    toSip := if room then s.toSip ++ [block] else s.toSip }

/-- `CSIPCom::Keepalive`. -/
def keepalive (cfg : Config) (tmCur nSeq₀ : Int) (room : Bool) (s : System) : System :=
  let nSeq := s.unit.generateCSeq
  let s' := sendShared cfg nSeq.1 nSeq₀ room { s with unit := nSeq.2 }
  { s' with
    unit := (s'.unit.setResponseTime tmCur).setLastKeepaliveCSeq nSeq.1
    keepalive := some s.written }

/-- The SIP process takes a request out of the shared memory and sends it. -/
def transmit (s : System) : System :=
  match s.toSip with
  | [] => s
  | request :: rest => { s with toSip := rest, sent := s.sent ++ [request] }

/-- The blocks among what the SIP service does. -/
def sharedBlocks (out : List SipEffect) : List IpcSipBlock :=
  out.filterMap fun
    | .shared block _ => some block
    | _ => none

/-- The block of `EXOSIP_MESSAGE_ANSWERED`, in memory that held `fresh`. -/
def messageAnswered (fresh : IpcSipBlock) : IpcSipBlock :=
  { fresh with eWorkType := .default_message, cmd_type := .messageResponse }

/-- The SIP process reports the answer to the request `n`. -/
def answered (n : Nat) (svc : CSIPService) (ev : EXosipEvent) (msg : SipMessage)
    (fresh : IpcSipBlock) (room : Bool) (s : System) : System :=
  let blocks := sharedBlocks (sendDataToShared ev msg (messageAnswered fresh) svc).out
  if s.sent.any (·.id == n) && room then
    { s with toPlatform := s.toPlatform ++ blocks.map (⟨n, fresh.nSeq, ·⟩) }
  else s

/-- What happens to the memory of a block behind `PopDone`: nothing up to read `n`, or what the SIP
process has written there by then.  The guard is read 0, the `switch` read 1 and the comparison of
the number read 2; the rest is for a keep-alive, should the turn send one. -/
structure Later where
  overwritten : Nat → Option IpcSipBlock
  tmCur : Int
  nSeq₀ : Int
  room : Bool

def Later.cmd_type (l : Later) (a : Answer) (n : Nat) : SipCmd :=
  ((l.overwritten n).getD a.block).cmd_type

/-- The number that the comparison finds. -/
def Later.nSeq (l : Later) (a : Answer) : Int := ((l.overwritten 2).getD a.block).nSeq

/-- The guard of `HandleShared` leaves a block of this type. -/
def Discards (cfg : Config) (u : CSIPUnit) (cmd_type : SipCmd) : Prop :=
  cfg.WIN_SERVICE = true ∧ cfg.nSipComMode = 0 ∧ u.m_ePlatformStatus ≠ .REGISTERED ∧
    cmd_type ≠ .registerSuccess ∧ cmd_type ≠ .registerFail

instance (cfg : Config) (u : CSIPUnit) (cmd_type : SipCmd) :
    Decidable (Discards cfg u cmd_type) := inferInstanceAs (Decidable (_ ∧ _))

/-- What a turn of `HandleShared` does with the unit. -/
inductive Reaction where
  /-- It is an answer to the last keep-alive: `ResetResponseTime`. -/
  | reset
  /-- A registration: `ResetResponseTime` and a keep-alive. -/
  | registered
  | unregistered
  | nothing
deriving DecidableEq

/-- The guard and the `switch`, as far as they touch the unit. -/
def reaction (cfg : Config) (u : CSIPUnit) (a : Answer) (l : Later) : Reaction :=
  if Discards cfg u (l.cmd_type a 0) then .nothing
  else
    match l.cmd_type a 1 with
    | .messageResponse => if u.isLastKeepaliveRes (l.nSeq a) then .reset else .nothing
    | .registerSuccess => .registered
    | .registerFail => .unregistered
    | _ => .nothing

/-- One turn of `HandleShared`. -/
def handleShared (cfg : Config) (l : Later) (s : System) : System :=
  match s.toPlatform with
  | [] => s
  | a :: rest =>
    let s := { s with toPlatform := rest }
    match reaction cfg s.unit a l with
    | .reset => { s with unit := s.unit.resetResponseTime }
    | .registered =>
      let u := { s.unit with m_ePlatformStatus := .REGISTERED }
      keepalive cfg l.tmCur l.nSeq₀ l.room { s with unit := u.resetResponseTime }
    | .unregistered => { s with unit := { s.unit with m_ePlatformStatus := .UNREGISTERED } }
    | .nothing => s

inductive Step where
  | keepalive (tmCur nSeq₀ : Int) (room : Bool)
  /-- Any other request, which `SendShared` numbers itself. -/
  | sendShared (nSeq₀ : Int) (room : Bool)
  | setPlatformStatus (st : PlatformStatus)
  | setResponseTime (tmCur : Int)
  | checkResponseTime (tmCur : Int)
  | transmit
  | answered (n : Nat) (svc : CSIPService) (ev : EXosipEvent) (msg : SipMessage)
      (fresh : IpcSipBlock) (room : Bool)
  | handleShared (l : Later)

def step (cfg : Config) (s : System) : Step → System
  | .keepalive tmCur nSeq₀ room => keepalive cfg tmCur nSeq₀ room s
  | .sendShared nSeq₀ room => sendShared cfg 0 nSeq₀ room s
  | .setPlatformStatus st => { s with unit := { s.unit with m_ePlatformStatus := st } }
  | .setResponseTime tmCur => { s with unit := s.unit.setResponseTime tmCur }
  | .checkResponseTime tmCur => { s with unit := (s.unit.checkResponseTime tmCur).2 }
  | .transmit => transmit s
  | .answered n svc ev msg fresh room => answered n svc ev msg fresh room s
  | .handleShared l => handleShared cfg l s

/-- Both processes before the first request. -/
def start (u : CSIPUnit) : System :=
  { unit := u, written := 0, keepalive := none, toSip := [], sent := [], toPlatform := [] }

/-! ## The number of an answer -/

theorem fillSipBlockBaseInfo_nSeq {msg : SipMessage} {block b : IpcSipBlock}
    (h : fillSipBlockBaseInfo msg block = .ok b) : b.nSeq = block.nSeq := by
  unfold fillSipBlockBaseInfo at h
  cases hu : msg.psz_req_uri_id with
  | none => rw [hu] at h; cases h
  | some req_uri_id =>
    cases hf : msg.psz_from_id with
    | none => rw [hu, hf] at h; cases h
    | some from_id =>
      cases ht : msg.psz_to_id with
      | none => rw [hu, hf, ht] at h; cases h
      | some to_id => rw [hu, hf, ht] at h; cases h; rfl

theorem fillSipBlockFromEvent_nSeq {ev : EXosipEvent} {block b : IpcSipBlock}
    (h : fillSipBlockFromEvent ev block = .ok b) : b.nSeq = block.nSeq := by
  unfold fillSipBlockFromEvent at h
  cases hr : ev.response with
  | none => rw [hr] at h; cases h
  | some status_code => rw [hr] at h; cases h; rfl

/-- **No code writes the number of an answer**: both fill steps leave it. -/
theorem fillSipBlock_nSeq {ev : EXosipEvent} {msg : SipMessage} {block b : IpcSipBlock}
    (h : fillSipBlock ev msg block = .ok b) : b.nSeq = block.nSeq := by
  unfold fillSipBlock at h
  cases hbase : fillSipBlockBaseInfo msg block with
  | error e => rw [hbase] at h; cases h
  | ok b' =>
    rw [hbase] at h
    rw [fillSipBlockFromEvent_nSeq h, fillSipBlockBaseInfo_nSeq hbase]

/-- The block that `SendDataToShared` hands to the platform has the number it was given. -/
theorem sendDataToShared_nSeq {ev : EXosipEvent} {msg : SipMessage} {block b : IpcSipBlock}
    {svc : CSIPService} (h : b ∈ sharedBlocks (sendDataToShared ev msg block svc).out) :
    b.nSeq = block.nSeq := by
  unfold sendDataToShared at h
  cases hfill : fillSipBlock ev msg block with
  | error e => rw [hfill] at h; cases h
  | ok b' =>
    rw [hfill, Proc.run_lift_bind_ok] at h
    unfold sendSharedBody at h
    cases hbody : msg.psz_body with
    | none => rw [hbody] at h; cases h
    | some body =>
      rw [hbody] at h
      obtain rfl := List.mem_singleton.mp h
      rw [← fillSipBlock_nSeq hfill]
      split <;> rfl

/-! ## Runs -/

theorem handleShared_toPlatform (cfg : Config) (l : Later) (s : System) :
    (handleShared cfg l s).toPlatform = s.toPlatform.tail := by
  unfold handleShared
  split
  · rename_i h
    rw [h]
    rfl
  · rename_i a rest h
    rw [h]
    dsimp only
    split <;> rfl

/-- Every answer in the shared memory has the number that its block held before it was filled. -/
def Unwritten (s : System) : Prop := ∀ a ∈ s.toPlatform, a.block.nSeq = a.nSeq₀

theorem Unwritten.step {s : System} (h : Unwritten s) (cfg : Config) (i : Step) :
    Unwritten (step cfg s i) := by
  cases i with
  | transmit =>
    show Unwritten (transmit s)
    unfold transmit
    split
    · exact h
    · exact h
  | answered n svc ev msg fresh room =>
    show Unwritten (answered n svc ev msg fresh room s)
    unfold answered
    split
    · intro a ha
      rcases List.mem_append.mp ha with ha | ha
      · exact h a ha
      · obtain ⟨block, hblock, rfl⟩ := List.mem_map.mp ha
        have hnum : block.nSeq = (messageAnswered fresh).nSeq := sendDataToShared_nSeq hblock
        exact hnum
    · exact h
  | handleShared l =>
    show Unwritten (handleShared cfg l s)
    intro b hb
    rw [handleShared_toPlatform] at hb
    exact h b (List.mem_of_mem_tail hb)
  | _ => exact h

/-- What a turn of `HandleShared` is for: the answer to the last keep-alive is recognised, and
then no response time runs out; any other answer leaves the response time. -/
def AnswersKeepalive (cfg : Config) (s : System) : Step → Prop
  | .handleShared l =>
    ∀ a rest, s.toPlatform = a :: rest →
      (s.keepalive = some a.id →
        reaction cfg s.unit a l = .reset ∧
          ∀ tmCur, ((handleShared cfg l s).unit.checkResponseTime tmCur).1 = 0) ∧
      (s.keepalive ≠ some a.id →
        reaction cfg s.unit a l ≠ .reset ∧ reaction cfg s.unit a l ≠ .registered ∧
          (handleShared cfg l s).unit.m_tmResponse = s.unit.m_tmResponse)
  | _ => True

/-- At a turn of `HandleShared` with the answer to the last keep-alive, the guard lets the block
pass, the `switch` still finds an answer, and the number in the memory is that of the keep-alive:
the one that was there before the block was filled, if nothing was written since.  With any other
answer, the guard leaves the block, or the `switch` finds no registration and, if it finds an answer,
the number is another one. -/
def Matches (cfg : Config) (s : System) : Step → Prop
  | .handleShared l =>
    ∀ a rest, s.toPlatform = a :: rest →
      let nSeq := (l.overwritten 2).elim a.nSeq₀ (·.nSeq)
      if s.keepalive = some a.id then
        ¬ Discards cfg s.unit (l.cmd_type a 0) ∧ l.cmd_type a 1 = .messageResponse ∧
          nSeq = s.unit.m_nLastKeepaliveSeq
      else
        Discards cfg s.unit (l.cmd_type a 0) ∨
          l.cmd_type a 1 ≠ .registerSuccess ∧
            (l.cmd_type a 1 = .messageResponse → nSeq ≠ s.unit.m_nLastKeepaliveSeq)
  | _ => True

section turn

variable {cfg : Config} {u : CSIPUnit} {a : Answer} {l : Later}

theorem reaction_eq_reset_iff :
    reaction cfg u a l = .reset ↔
      ¬ Discards cfg u (l.cmd_type a 0) ∧ l.cmd_type a 1 = .messageResponse ∧
        l.nSeq a = u.m_nLastKeepaliveSeq := by
  unfold reaction CSIPUnit.isLastKeepaliveRes
  by_cases hd : Discards cfg u (l.cmd_type a 0)
  · simp [hd]
  · cases l.cmd_type a 1 <;> simp [hd]

theorem reaction_eq_registered_iff :
    reaction cfg u a l = .registered ↔
      ¬ Discards cfg u (l.cmd_type a 0) ∧ l.cmd_type a 1 = .registerSuccess := by
  unfold reaction
  by_cases hd : Discards cfg u (l.cmd_type a 0)
  · simp [hd]
  · cases l.cmd_type a 1 with
    | messageResponse =>
      simp only [if_neg hd]
      split <;> simp
    | _ => simp [hd]

/-- The number that the comparison finds in a block whose number nothing wrote. -/
theorem Later.nSeq_eq (h : a.block.nSeq = a.nSeq₀) :
    l.nSeq a = (l.overwritten 2).elim a.nSeq₀ (·.nSeq) := by
  unfold Later.nSeq
  cases l.overwritten 2 with
  | none => exact h
  | some block => rfl

theorem checkResponseTime_reset (tmCur : Int) (u : CSIPUnit) :
    (u.resetResponseTime.checkResponseTime tmCur).1 = 0 := by
  simp [CSIPUnit.checkResponseTime, CSIPUnit.resetResponseTime]

variable {s : System} {rest : List Answer}

theorem handleShared_unit_of_reset (h : s.toPlatform = a :: rest)
    (hr : reaction cfg s.unit a l = .reset) :
    (handleShared cfg l s).unit = s.unit.resetResponseTime := by
  simp only [handleShared, h, hr]

theorem handleShared_tmResponse (h : s.toPlatform = a :: rest)
    (hreset : reaction cfg s.unit a l ≠ .reset) (hreg : reaction cfg s.unit a l ≠ .registered) :
    (handleShared cfg l s).unit.m_tmResponse = s.unit.m_tmResponse := by
  simp only [handleShared, h]
  cases hr : reaction cfg s.unit a l with
  | reset => exact absurd hr hreset
  | registered => exact absurd hr hreg
  | unregistered => rfl
  | nothing => rfl

end turn

/-- **A turn of `HandleShared`** treats an answer as it should exactly when what it finds in the
memory matches. -/
theorem handleShared_answersKeepalive_iff {cfg : Config} {s : System} (h : Unwritten s)
    (i : Step) : AnswersKeepalive cfg s i ↔ Matches cfg s i := by
  cases i with
  | handleShared l =>
    refine forall_congr' fun a => forall_congr' fun rest => forall_congr' fun heq => ?_
    have hnum : l.nSeq a = (l.overwritten 2).elim a.nSeq₀ (·.nSeq) :=
      Later.nSeq_eq (h a (heq ▸ List.mem_cons_self))
    dsimp only
    rw [← hnum]
    by_cases hk : s.keepalive = some a.id
    · rw [if_pos hk, ← reaction_eq_reset_iff]
      constructor
      · exact fun hanswers => (hanswers.1 hk).1
      · refine fun hr => ⟨fun _ => ⟨hr, fun tmCur => ?_⟩, fun hne => absurd hk hne⟩
        rw [handleShared_unit_of_reset heq hr]
        exact checkResponseTime_reset tmCur s.unit
    · have hnone : (Discards cfg s.unit (l.cmd_type a 0) ∨
            l.cmd_type a 1 ≠ .registerSuccess ∧
              (l.cmd_type a 1 = .messageResponse → l.nSeq a ≠ s.unit.m_nLastKeepaliveSeq)) ↔
          reaction cfg s.unit a l ≠ .reset ∧ reaction cfg s.unit a l ≠ .registered := by
        simp only [ne_eq, reaction_eq_reset_iff, reaction_eq_registered_iff]
        tauto
      rw [if_neg hk, hnone]
      constructor
      · exact fun hanswers => ⟨(hanswers.2 hk).1, (hanswers.2 hk).2.1⟩
      · exact fun hr => ⟨fun hlast => absurd hlast hk,
          fun _ => ⟨hr.1, hr.2, handleShared_tmResponse heq hr.1 hr.2⟩⟩
  | _ => exact Iff.rfl

/-- **In every run of the two processes**, every answer is treated as it should **if and only if**
what `HandleShared` finds in the memory matches at every turn. -/
theorem answersKeepalive_run_iff (cfg : Config) (u : CSIPUnit) (steps : List Step) :
    (∀ p ∈ calls (step cfg) (start u) steps, AnswersKeepalive cfg p.1 p.2) ↔
      ∀ p ∈ calls (step cfg) (start u) steps, Matches cfg p.1 p.2 := by
  have hstart : Unwritten (start u) := fun a ha => by cases ha
  exact forall_calls_congr (fun _ i _ h => h.step cfg i)
    (fun _ i _ h => handleShared_answersKeepalive_iff h i) hstart

/-! ## A keep-alive and its answer -/

def gatewayService : CSIPService where
  m_nAppWorkMode := 0
  m_RegManager := ⟨∅, nanjingRelay.currentDomain.toSipRegisterObject, []⟩
  relay := nanjingRelay.mgr
  m_RemoteDomains := ∅
  upperDomain := nanjingRelay.upperDomain
  M_SeqIDToCallID := ∅
  M_UniqueIDToCallID := ∅
  m_callIdSenderMap := ∅

/-- The answer of the upper domain to the first request. -/
def okEvent : EXosipEvent where
  type := .messageAnswered
  request := none
  response := some 200
  ack := none
  tid := 1
  did := 0
  rid := 0
  cid := 0

def keepaliveMessage : SipMessage where
  psz_req_uri_id := some (str "11010500002000000002")
  psz_cseq := str "1"
  psz_from_id := some (str "11010500002000000001")
  psz_to_id := some (str "11010500002000000002")
  psz_call_id := str "1001"
  psz_subject := none
  psz_expires := none
  psz_body := some (str "<Notify/>")

/-- Nothing is written to the memory of the block until the turn is over. -/
def untouched : Later := ⟨fun _ => none, 100, 0, true⟩

/-- A registered gateway sends its first keep-alive at 100 and is answered. -/
def keepaliveRun : List Step :=
  [.keepalive 100 0 true, .transmit,
    .answered 0 gatewayService okEvent keepaliveMessage
      { eWorkType := .default_message, cmd_type := .messageResponse } true,
    .handleShared untouched]

/-- The answer is not recognised where a new block has the number zero. -/
theorem keepalive_not_recognised :
    ¬ ∀ p ∈ calls (step ⟨true, 0⟩) (start ⟨0, 0, 0, .REGISTERED⟩) keepaliveRun,
      AnswersKeepalive ⟨true, 0⟩ p.1 p.2 := by
  intro h
  have hcall := h (run (step ⟨true, 0⟩) (start ⟨0, 0, 0, .REGISTERED⟩) (keepaliveRun.take 3),
    .handleShared untouched) (mem_calls_iff.mpr ⟨keepaliveRun.take 3, [], rfl, rfl⟩)
  obtain ⟨hreset, -⟩ := (hcall _ [] rfl).1 rfl
  have hnothing : reaction ⟨true, 0⟩ ⟨1, 110, 1, .REGISTERED⟩
      ⟨0, 0, { eWorkType := .default_message, cmd_type := .messageResponse }⟩ untouched =
        .nothing := by decide
  cases hreset.symm.trans hnothing

end GB28181.Platform.Keepalive
