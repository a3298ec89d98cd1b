import Mathlib.Data.Fintype.Basic
import Mathlib.Logic.Function.Basic
import GB28181.Base.Map
import GB28181.Lib.AdapterHandlers

/-!
# Invites and their responses (`GB28181.Lib/UACTCP.cpp`, `MapStreamerSipID.cpp`)

`SendInvite` sends a request, appends a wait message to a list and fills in its fields; the message
thread looks up the wait message of each response by its number, binds the streamer and frees the
message.  The number is a member that every call reads twice and then increments, and nothing is
locked but the list and the map.

* `senderStep`, `responseStep`, `threadStep` — one access to shared memory by a caller, and by the
  message thread;
* `Orderly` — the steps that do not race;
* `Inv`, `inv_step` — what such steps keep: each number belongs to one request that waits, and the
  wait messages in the list are those of the requests;
* `invites_bound` — **a run of orderly steps binds every streamer to the answer to its own
  request**, frees each wait message once and leaves no response unmatched.
-/

set_option autoImplicit false

namespace GB28181.Lib.Invite

open GB28181.Base

/-! ## The map of streamers -/

/-- A `float` is given by its bits. -/
structure SIPID where
  nCid : Int
  nDid : Int
  fSpeed : UInt32
  m_nState : Int
  deriving DecidableEq

/-- `CMapStreamerSipID`; a streamer is its address. -/
abbrev MapID := Map Nat SIPID

def getPlayBackID (m : MapID) (pStreamer : Nat) : Bool × Int × Int :=
  match m.lookup pStreamer with
  | some sipID => (true, sipID.nCid, sipID.nDid)
  | none => (false, -1, -1)

def setPlayBackID (m : MapID) (pStreamer : Nat) (nCid nDid : Int) : MapID :=
  match m.lookup pStreamer with
  | none => m.insert pStreamer { nCid := nCid, nDid := nDid, fSpeed := 0, m_nState := 0 }
  | some sipID => m.insert pStreamer { sipID with nCid := nCid, nDid := nDid }

theorem getPlayBackID_set (m : MapID) (pStreamer : Nat) (nCid nDid : Int) :
    getPlayBackID (setPlayBackID m pStreamer nCid nDid) pStreamer = (true, nCid, nDid) := by
  unfold setPlayBackID
  cases m.lookup pStreamer with
  | none => simp [getPlayBackID]
  | some sipID => simp [getPlayBackID]

theorem getPlayBackID_set_of_ne (m : MapID) {pStreamer k : Nat} (nCid nDid : Int)
    (h : k ≠ pStreamer) :
    getPlayBackID (setPlayBackID m pStreamer nCid nDid) k = getPlayBackID m k := by
  unfold setPlayBackID
  cases m.lookup pStreamer with
  | none => simp [getPlayBackID, h]
  | some sipID => simp [getPlayBackID, h]

/-! ## Wait messages -/

/-- `INVITE_PARAM_T`, the fields that `SendInvite` and `OnInviteRes` use. -/
structure InviteParam where
  nCmdID : Int
  unSeq : UInt32
  strDstID : CStr
  pStreamer : Nat
  nRecvPort : Option Int × Option Int
  nOperate : Int

/-- `new INVITE_PARAM_T`; the constructor leaves the ports as the memory has them. -/
def InviteParam.new : InviteParam :=
  { nCmdID := -1
    unSeq := 0
    strDstID := []
    pStreamer := 0
    nRecvPort := (none, none)
    nOperate := 0 }

/-- The arguments of `SendInvite` that go into the wait message. -/
structure InviteCall where
  pstrDeviceID : CStr
  nRecvPort : Int × Int
  pStreamer : Nat
  nOperate : Int

/-- The fields `SendInvite` fills in. -/
inductive Field where
  | nCmdID
  | unSeq
  | strDstID
  | pStreamer
  | nRecvPort0
  | nRecvPort1
  | nOperate
  deriving DecidableEq

/-- The fields in the order in which they are filled in. -/
def Field.order : List Field :=
  [.nCmdID, .unSeq, .strDstID, .pStreamer, .nRecvPort0, .nRecvPort1, .nOperate]

/-- One assignment to `*lMsg`. -/
def InviteParam.fill (a : InviteCall) (m_unSeq : UInt32) (lMsg : InviteParam) :
    Field → InviteParam
  | .nCmdID => { lMsg with nCmdID := INVITERES_CMD }
  | .unSeq => { lMsg with unSeq := m_unSeq }
  | .strDstID => { lMsg with strDstID := a.pstrDeviceID }
  | .pStreamer => { lMsg with pStreamer := a.pStreamer }
  | .nRecvPort0 => { lMsg with nRecvPort := (some a.nRecvPort.1, lMsg.nRecvPort.2) }
  | .nRecvPort1 => { lMsg with nRecvPort := (lMsg.nRecvPort.1, some a.nRecvPort.2) }
  | .nOperate => { lMsg with nOperate := a.nOperate }

/-! ## The callers and the message thread -/

/-- What a call of `SendInvite` does next: read `m_unSeq` into the request, send it, append the
wait message, fill in the fields that are left and then read `m_unSeq` to increment it, write it
back. -/
inductive Pc where
  | build
  | send
  | newWaitMsg
  | fill (todo : List Field)
  | store (unSeq : UInt32)
  | returned (nRet : Int)
  deriving DecidableEq

/-- A call of `SendInvite`: where it stands, the number in its request, its wait message. -/
structure Sending where
  pc : Pc
  unSeq : UInt32
  lMsg : InviteParam

/-- A response, as far as `OnInviteRes` uses it beyond its number. -/
structure InviteRes where
  nCid : Int
  nDid : Int
  nStatus : Int
  strData : CStr
  deriving DecidableEq

variable {ι : Type}

/-- What the message thread does next: take a response, bind the streamer of the wait message it
has found, call back, free the message, send the acknowledgement, increment the number. -/
inductive Thread (ι : Type) where
  | idle
  | found (res : InviteRes) (pWaitMsg : ι)
  | bound (res : InviteRes) (pWaitMsg : ι)
  | called (res : InviteRes) (pWaitMsg : ι)
  | ack (nDid : Int)
  | acked
  | store (unSeq : UInt32)
  deriving DecidableEq

/-- The calls are named by `ι`, and a wait message by the call that allocated it.  `responses`,
`unmatched`, `notified` and `freed` list what the message thread has taken, found no wait message
for, passed to the callback and freed; `stale` tells that a freed message was written to. -/
structure State (ι : Type) where
  m_unSeq : UInt32
  m_objInviteList : List ι
  m_mapStreamerID : MapID
  sends : ι → Sending
  thread : Thread ι
  responses : List (ι × InviteRes)
  unmatched : List ι
  notified : List (CStr × Nat)
  freed : List ι
  stale : Bool

def State.init (m_unSeq : UInt32) (m : MapID) : State ι :=
  { m_unSeq := m_unSeq
    m_objInviteList := []
    m_mapStreamerID := m
    sends := fun _ => { pc := .build, unSeq := 0, lMsg := .new }
    thread := .idle
    responses := []
    unmatched := []
    notified := []
    freed := []
    stale := false }

def Pc.isSent : Pc → Bool
  | .build => false
  | .send => false
  | .newWaitMsg => true
  | .fill _ => true
  | .store _ => true
  | .returned nRet => nRet == 0

/-- The fields still to be filled in, once there is a wait message. -/
def Pc.todo : Pc → Option (List Field)
  | .fill todo => some todo
  | .store _ => some []
  | .returned nRet => if nRet = 0 then some [] else none
  | _ => none

/-- The wait message is there and the field filled in. -/
def Pc.Filled (pc : Pc) (f : Field) : Prop := ∃ todo, pc.todo = some todo ∧ f ∉ todo

instance (pc : Pc) (f : Field) : Decidable (pc.Filled f) :=
  decidable_of_iff ((pc.todo.any fun todo => decide (f ∉ todo)) = true) (by
    simp [Pc.Filled, Option.any_eq_true])

def Pc.next (pc : Pc) : Option Field := pc.todo.bind List.head?

/-- The calls whose response was taken. -/
def State.answered (s : State ι) : List ι := s.responses.map Prod.fst

variable [DecidableEq ι]

def State.setSend (s : State ι) (i : ι) (x : Sending) : State ι :=
  { s with sends := Function.update s.sends i x }

section steps

variable (args : ι → InviteCall)

/-- The next step of a call; `sent` is what `SendData` returns. -/
def senderStep (i : ι) (sent : Bool) (s : State ι) : State ι :=
  match (s.sends i).pc with
  | .build => s.setSend i { s.sends i with pc := .send, unSeq := s.m_unSeq }
  | .send => s.setSend i { s.sends i with pc := if sent then .newWaitMsg else .returned (-1) }
  | .newWaitMsg =>
    { s.setSend i { s.sends i with pc := .fill Field.order, lMsg := .new } with
      m_objInviteList := s.m_objInviteList ++ [i] }
  | .fill [] => s.setSend i { s.sends i with pc := .store s.m_unSeq }
  | .fill (f :: todo) =>
    { s.setSend i { s.sends i with
        pc := .fill todo
        lMsg := (s.sends i).lMsg.fill (args i) s.m_unSeq f } with
      stale := s.stale || decide (i ∈ s.freed) }
  | .store unSeq =>
    { s.setSend i { s.sends i with pc := .returned 0 } with m_unSeq := unSeq + 1 }
  | .returned _ => s

/-- `mCmdID == (*itr)->nCmdID && unSeq == (*itr)->unSeq`. -/
def State.isWaitMsg (s : State ι) (mCmdID : Int) (unSeq : UInt32) (i : ι) : Bool :=
  mCmdID == (s.sends i).lMsg.nCmdID && unSeq == (s.sends i).lMsg.unSeq

/-- `WaitList::GetWaitMsg`. -/
def State.getWaitMsg (s : State ι) (mCmdID : Int) (unSeq : UInt32) : Option ι × List ι :=
  (s.m_objInviteList.find? (s.isWaitMsg mCmdID unSeq),
    s.m_objInviteList.eraseP (s.isWaitMsg mCmdID unSeq))

/-- The message thread is free, and the response to the call's request can be there. -/
def State.Takes (s : State ι) (i : ι) : Prop :=
  s.thread = .idle ∧ (s.sends i).pc.isSent = true ∧ i ∉ s.answered

instance (s : State ι) (i : ι) : Decidable (s.Takes i) :=
  inferInstanceAs (Decidable (_ ∧ _ ∧ _))

/-- `OnInviteRes` with the response to the call's request, up to `GetWaitMsg`. -/
def responseStep (i : ι) (res : InviteRes) (s : State ι) : State ι :=
  if s.Takes i then
    match s.getWaitMsg INVITERES_CMD (s.sends i).unSeq with
    | (some pWaitMsg, list) =>
      { s with
        m_objInviteList := list
        responses := s.responses ++ [(i, res)]
        thread := .found res pWaitMsg }
    | (none, _) =>
      { s with
        responses := s.responses ++ [(i, res)]
        unmatched := s.unmatched ++ [i]
        thread := .ack res.nDid }
  else s

/-- The next step of `OnInviteRes` behind `GetWaitMsg`, and of `SendCallAck`. -/
def threadStep (m_fpInviteResponsed : Bool) (s : State ι) : State ι :=
  match s.thread with
  | .idle => s
  | .found res pWaitMsg =>
    { s with
      m_mapStreamerID :=
        if 200 = res.nStatus then
          setPlayBackID s.m_mapStreamerID (s.sends pWaitMsg).lMsg.pStreamer res.nCid res.nDid
        else s.m_mapStreamerID
      thread := .bound res pWaitMsg }
  | .bound res pWaitMsg =>
    { s with
      notified :=
        if m_fpInviteResponsed then
          s.notified ++ [(res.strData, (s.sends pWaitMsg).lMsg.pStreamer)]
        else s.notified
      thread := .called res pWaitMsg }
  | .called res pWaitMsg =>
    { s with freed := s.freed ++ [pWaitMsg], thread := .ack res.nDid }
  | .ack _ => { s with thread := .acked }
  | .acked => { s with thread := .store s.m_unSeq }
  | .store unSeq => { s with m_unSeq := unSeq + 1, thread := .idle }

inductive Step (ι : Type) where
  | sender (i : ι) (sent : Bool)
  | response (i : ι) (res : InviteRes)
  | thread

def step (m_fpInviteResponsed : Bool) (s : State ι) : Step ι → State ι
  | .sender i sent => senderStep args i sent s
  | .response i res => responseStep i res s
  | .thread => threadStep m_fpInviteResponsed s

end steps

/-! ## Steps that do not race -/

/-- The request was built and did not fail. -/
def Pc.requested : Pc → Bool
  | .build => false
  | .returned nRet => nRet == 0
  | _ => true

/-- The call has a request whose response was not taken. -/
def State.Waiting (s : State ι) (i : ι) : Prop :=
  (s.sends i).pc.requested = true ∧ i ∉ s.answered

/-- The response that is not bound yet. -/
def Thread.unbound : Thread ι → List (ι × InviteRes)
  | .found res j => [(j, res)]
  | _ => []

/-- The wait message that is freed next. -/
def Thread.toFree : Thread ι → List ι
  | .called _ j => [j]
  | _ => []

instance (s : State ι) (i : ι) : Decidable (s.Waiting i) := inferInstanceAs (Decidable (_ ∧ _))

/-- No race: a call reads a number that no waiting request has, and it is still the same when it
goes into the wait message; a response comes when the number of its wait message is filled in (and
that of no other one is missing, if it is the number of a new wait message); the streamer is there
when it is bound, and the call is done with the wait message when it is freed. -/
def Orderly (s : State ι) : Step ι → Prop
  | .sender i _ =>
    ((s.sends i).pc = .build → ∀ j, s.Waiting j → (s.sends j).unSeq ≠ s.m_unSeq) ∧
      ((s.sends i).pc.next = some .unSeq → s.m_unSeq = (s.sends i).unSeq)
  | .response i _ => s.Takes i →
    (s.sends i).pc.Filled .nCmdID ∧ (s.sends i).pc.Filled .unSeq ∧
      ((s.sends i).unSeq = 0 → ∀ j ∈ s.m_objInviteList,
        (s.sends j).pc.Filled .nCmdID → (s.sends j).pc.Filled .unSeq)
  | .thread =>
    (∀ p ∈ s.thread.unbound, p.2.nStatus = 200 → (s.sends p.1).pc.Filled .pStreamer) ∧
      (∀ j ∈ s.thread.toFree, (s.sends j).pc.todo = some [])

instance [Fintype ι] (s : State ι) : (x : Step ι) → Decidable (Orderly s x)
  | .sender _ _ => inferInstanceAs (Decidable ((_ → ∀ _, _ → _) ∧ (_ → _)))
  | .response _ _ => inferInstanceAs (Decidable (_ → _ ∧ _ ∧ (_ → ∀ j ∈ _, _ → _)))
  | .thread => inferInstanceAs (Decidable ((∀ p ∈ _, _ → _) ∧ ∀ j ∈ _, _))

/-! ## What they keep -/

/-- The fields of a wait message by where its call stands. -/
structure Written (a : InviteCall) (x : Sending) : Prop where
  order : ∀ todo, x.pc.todo = some todo → todo ∈ Field.order.tails
  nCmdID : x.pc.Filled .nCmdID → x.lMsg.nCmdID = INVITERES_CMD
  newCmdID : x.pc.todo.isSome = true → ¬ x.pc.Filled .nCmdID → x.lMsg.nCmdID = -1
  unSeq : x.pc.Filled .unSeq → x.lMsg.unSeq = x.unSeq
  newSeq : x.pc.todo.isSome = true → ¬ x.pc.Filled .unSeq → x.lMsg.unSeq = 0
  pStreamer : x.pc.Filled .pStreamer → x.lMsg.pStreamer = a.pStreamer

/-- The wait message that the message thread holds. -/
def Thread.held : Thread ι → List ι
  | .found _ j => [j]
  | .bound _ j => [j]
  | .called _ j => [j]
  | _ => []

def bind (args : ι → InviteCall) (m : MapID) (p : ι × InviteRes) : MapID :=
  if 200 = p.2.nStatus then setPlayBackID m (args p.1).pStreamer p.2.nCid p.2.nDid else m

structure Inv (args : ι → InviteCall) (m : MapID) (s : State ι) : Prop where
  written : ∀ i, Written (args i) (s.sends i)
  mem_list : ∀ i, i ∈ s.m_objInviteList ↔ (s.sends i).pc.todo.isSome = true ∧ i ∉ s.answered
  list_nodup : s.m_objInviteList.Nodup
  distinct : ∀ i j, s.Waiting i → s.Waiting j → (s.sends i).unSeq = (s.sends j).unSeq → i = j
  answered_todo : ∀ i ∈ s.answered, (s.sends i).pc.todo.isSome = true
  answered_nodup : s.answered.Nodup
  freed : s.freed ++ s.thread.held = s.answered
  released : ∀ i ∈ s.freed, (s.sends i).pc.todo = some []
  bindings : ∃ pre, s.responses = pre ++ s.thread.unbound ∧
    s.m_mapStreamerID = pre.foldl (bind args) m
  unmatched : s.unmatched = []
  stale : s.stale = false

section inv

variable {args : ι → InviteCall} {m : MapID} {s : State ι} {i : ι}

omit [DecidableEq ι] in
theorem inv_init (m_unSeq : UInt32) (m : MapID) : Inv args m (State.init m_unSeq m : State ι) where
  written i := by
    have htodo : ¬ ∃ todo, Pc.todo .build = some todo := fun ⟨_, h⟩ => by cases h
    constructor
    · exact fun todo h => absurd ⟨todo, h⟩ htodo
    · exact fun ⟨todo, h, _⟩ => absurd ⟨todo, h⟩ htodo
    · exact fun _ _ => rfl
    · exact fun ⟨todo, h, _⟩ => absurd ⟨todo, h⟩ htodo
    · exact fun _ _ => rfl
    · exact fun ⟨todo, h, _⟩ => absurd ⟨todo, h⟩ htodo
  mem_list i := by simp [State.init, Pc.todo]
  list_nodup := List.nodup_nil
  distinct := fun i j hi => by cases hi.1
  answered_todo := fun i hi => by cases hi
  answered_nodup := List.nodup_nil
  freed := rfl
  released := fun i hi => by cases hi
  bindings := ⟨[], rfl, rfl⟩
  unmatched := rfl
  stale := rfl

@[simp] theorem setSend_self (s : State ι) (i : ι) (x : Sending) : (s.setSend i x).sends i = x := by
  show Function.update s.sends i x i = x
  rw [Function.update_self]

@[simp] theorem setSend_of_ne {j : ι} (h : j ≠ i) (x : Sending) :
    (s.setSend i x).sends j = s.sends j := by
  show Function.update s.sends i x j = s.sends j
  rw [Function.update_of_ne h]

theorem todo_requested {pc : Pc} (h : pc.todo.isSome = true) : pc.requested = true := by
  cases pc with
  | returned nRet =>
    by_cases h0 : nRet = 0
    · rw [h0]
      rfl
    · rw [Pc.todo, if_neg h0] at h
      cases h
  | build => cases h
  | _ => rfl

/-- A change of one call that keeps its number, or takes one that is free, and goes on with its
fields; its wait message may be appended. -/
theorem Inv.setSend (h : Inv args m s) {x : Sending} {list : List ι}
    (hwritten : Written (args i) x)
    (hsome : (s.sends i).pc.todo.isSome = true → x.pc.todo.isSome = true)
    (hdone : (s.sends i).pc.todo = some [] → x.pc.todo = some [])
    (hseq : x.pc.requested = true → i ∉ s.answered → ∀ j, j ≠ i → s.Waiting j →
      (s.sends j).unSeq ≠ x.unSeq)
    (hmem : i ∈ list ↔ x.pc.todo.isSome = true ∧ i ∉ s.answered)
    (hother : ∀ j, j ≠ i → (j ∈ list ↔ j ∈ s.m_objInviteList)) (hnodup : list.Nodup) :
    Inv args m { s.setSend i x with m_objInviteList := list } where
  written j := by
    show Written (args j) ((s.setSend i x).sends j)
    by_cases hj : j = i
    · subst hj
      rwa [setSend_self]
    · rw [setSend_of_ne hj]
      exact h.written j
  mem_list j := by
    show j ∈ list ↔ ((s.setSend i x).sends j).pc.todo.isSome = true ∧ j ∉ s.answered
    by_cases hj : j = i
    · subst hj
      rw [setSend_self]
      exact hmem
    · rw [setSend_of_ne hj, hother j hj]
      exact h.mem_list j
  list_nodup := hnodup
  distinct j k hj hk heq := by
    change (s.setSend i x).Waiting j at hj
    change (s.setSend i x).Waiting k at hk
    change ((s.setSend i x).sends j).unSeq = ((s.setSend i x).sends k).unSeq at heq
    by_cases hji : j = i
    · by_cases hki : k = i
      · rw [hji, hki]
      · subst hji
        rw [State.Waiting, setSend_of_ne hki] at hk
        rw [State.Waiting, setSend_self] at hj
        rw [setSend_self, setSend_of_ne hki] at heq
        exact absurd heq.symm (hseq hj.1 hj.2 k hki hk)
    · rw [State.Waiting, setSend_of_ne hji] at hj
      by_cases hki : k = i
      · subst hki
        rw [State.Waiting, setSend_self] at hk
        rw [setSend_self, setSend_of_ne hji] at heq
        exact absurd heq (hseq hk.1 hk.2 j hji hj)
      · rw [State.Waiting, setSend_of_ne hki] at hk
        rw [setSend_of_ne hji, setSend_of_ne hki] at heq
        exact h.distinct j k hj hk heq
  answered_todo j hj := by
    show ((s.setSend i x).sends j).pc.todo.isSome = true
    by_cases hji : j = i
    · subst hji
      rw [setSend_self]
      exact hsome (h.answered_todo j hj)
    · rw [setSend_of_ne hji]
      exact h.answered_todo j hj
  answered_nodup := h.answered_nodup
  freed := h.freed
  released j hj := by
    show ((s.setSend i x).sends j).pc.todo = some []
    by_cases hji : j = i
    · subst hji
      rw [setSend_self]
      exact hdone (h.released j hj)
    · rw [setSend_of_ne hji]
      exact h.released j hj
  bindings := h.bindings
  unmatched := h.unmatched
  stale := h.stale

omit [DecidableEq ι] in
theorem Inv.own_number (h : Inv args m s) (hreq : (s.sends i).pc.requested = true)
    (hi : i ∉ s.answered) (j : ι) (hj : j ≠ i) (hw : s.Waiting j) :
    (s.sends j).unSeq ≠ (s.sends i).unSeq :=
  fun heq => hj (h.distinct j i hw ⟨hreq, hi⟩ heq)

theorem filled_of_todo {pc : Pc} {todo : List Field} (h : pc.todo = some todo) (f : Field) :
    pc.Filled f ↔ f ∉ todo := by
  rw [Pc.Filled, h]
  simp

theorem Written.of_todo_none {a : InviteCall} {x : Sending} (h : x.pc.todo = none) :
    Written a x where
  order todo ht := by rw [h] at ht; cases ht
  nCmdID hf := by obtain ⟨todo, ht, -⟩ := hf; rw [h] at ht; cases ht
  newCmdID hs := by rw [h] at hs; cases hs
  unSeq hf := by obtain ⟨todo, ht, -⟩ := hf; rw [h] at ht; cases ht
  newSeq hs := by rw [h] at hs; cases hs
  pStreamer hf := by obtain ⟨todo, ht, -⟩ := hf; rw [h] at ht; cases ht

theorem Written.new {a : InviteCall} {unSeq : UInt32} :
    Written a { pc := .fill Field.order, unSeq := unSeq, lMsg := .new } := by
  have htodo : (Pc.fill Field.order).todo = some Field.order := rfl
  constructor
  · intro todo ht
    cases ht
    exact List.mem_cons_self
  all_goals
    simp only [filled_of_todo htodo, htodo]
    simp [Field.order, InviteParam.new]

theorem Written.congr {a : InviteCall} {x y : Sending} (h : Written a x)
    (htodo : y.pc.todo = x.pc.todo) (hseq : y.unSeq = x.unSeq) (hmsg : y.lMsg = x.lMsg) :
    Written a y := by
  obtain ⟨order, nCmdID, newCmdID, unSeq, newSeq, pStreamer⟩ := h
  constructor
  all_goals
    simp only [Pc.Filled, htodo, hseq, hmsg] at *
    assumption

theorem Written.fill {a : InviteCall} {x : Sending} {f : Field} {todo : List Field}
    (h : Written a x) (hpc : x.pc = .fill (f :: todo)) (m_unSeq : UInt32)
    (hseq : f = .unSeq → m_unSeq = x.unSeq) :
    Written a { x with pc := .fill todo, lMsg := x.lMsg.fill a m_unSeq f } := by
  have htodo : x.pc.todo = some (f :: todo) := by rw [hpc]; rfl
  obtain ⟨order, nCmdID, newCmdID, unSeq, newSeq, pStreamer⟩ := h
  have hmem := order _ htodo
  simp only [filled_of_todo htodo, htodo, Option.isSome_some, forall_const] at *
  have hnew : (Pc.fill todo).todo = some todo := rfl
  simp only [Field.order, List.tails, List.mem_cons, List.cons.injEq, List.not_mem_nil,
    or_false, reduceCtorEq] at hmem
  rcases hmem with ⟨rfl, rfl⟩ | ⟨rfl, rfl⟩ | ⟨rfl, rfl⟩ | ⟨rfl, rfl⟩ | ⟨rfl, rfl⟩ | ⟨rfl, rfl⟩ |
    ⟨rfl, rfl⟩
  all_goals
    constructor
    all_goals
      simp only [filled_of_todo hnew, hnew, InviteParam.fill]
      simp_all [Field.order]

/-- A step of a call that goes on with its number and leaves the list alone. -/
theorem Inv.goOn (h : Inv args m s) {x : Sending} (hwritten : Written (args i) x)
    (hsome : x.pc.todo.isSome = (s.sends i).pc.todo.isSome)
    (hdone : (s.sends i).pc.todo = some [] → x.pc.todo = some [])
    (hreq : (s.sends i).pc.requested = true) (hseq : x.unSeq = (s.sends i).unSeq) :
    Inv args m (s.setSend i x) := by
  refine h.setSend hwritten (fun h' => by rwa [hsome]) hdone ?_ ?_ (fun _ _ => Iff.rfl)
    h.list_nodup
  · intro _ hi j hj hw
    rw [hseq]
    exact h.own_number hreq hi j hj hw
  · rw [hsome]
    exact h.mem_list i

omit [DecidableEq ι] in
theorem Inv.of_shared (h : Inv args m s) (m_unSeq : UInt32) (notified : List (CStr × Nat)) :
    Inv args m { s with m_unSeq := m_unSeq, notified := notified } :=
  { h with }

theorem inv_senderStep (h : Inv args m s) {sent : Bool} (hok : Orderly s (.sender i sent)) :
    Inv args m (senderStep args i sent s) := by
  obtain ⟨hbuild, hfill⟩ := hok
  unfold senderStep
  split
  case h_1 hpc =>
    have hnone : (s.sends i).pc.todo = none := by rw [hpc]; rfl
    refine h.setSend (.of_todo_none rfl) (by simp [hnone]) (by simp [hnone]) ?_ ?_
      (fun _ _ => Iff.rfl) h.list_nodup
    · exact fun _ _ j _ hw => hbuild hpc j hw
    · rw [h.mem_list i, hnone]
      simp [Pc.todo]
  case h_2 hpc =>
    have hnone : (s.sends i).pc.todo = none := by rw [hpc]; rfl
    refine h.goOn (.of_todo_none ?_) ?_ (by simp [hnone]) (by rw [hpc]; rfl) rfl
    · cases sent <;> rfl
    · rw [hnone]
      cases sent <;> rfl
  case h_3 hpc =>
    have hnone : (s.sends i).pc.todo = none := by rw [hpc]; rfl
    have hi : i ∉ s.m_objInviteList := fun hmem => by
      have := ((h.mem_list i).mp hmem).1
      rw [hnone] at this
      cases this
    have hanswered : i ∉ s.answered := fun hmem => by
      have := h.answered_todo i hmem
      rw [hnone] at this
      cases this
    refine h.setSend ?_ (by simp [hnone]) (by simp [hnone]) ?_ ?_ ?_ ?_
    · exact .new
    · exact fun _ hi => h.own_number (by rw [hpc]; rfl) hi
    · simp [Pc.todo, hanswered]
    · intro j hj
      rw [List.mem_append, List.mem_singleton, or_iff_left hj]
    · exact List.nodup_append_comm.mp (List.nodup_cons.mpr ⟨hi, h.list_nodup⟩)
  case h_4 hpc =>
    have hdone : (s.sends i).pc.todo = some [] := by rw [hpc]; rfl
    exact h.goOn ((h.written i).congr hdone.symm rfl rfl) (by rw [hdone]; rfl) (fun _ => rfl)
      (by rw [hpc]; rfl) rfl
  case h_5 f todo hpc =>
    have htodo : (s.sends i).pc.todo = some (f :: todo) := by rw [hpc]; rfl
    have hkept : i ∉ s.freed := fun hmem => by
      have := h.released i hmem
      rw [htodo] at this
      cases this
    have hwritten := (h.written i).fill hpc s.m_unSeq fun hf => by
      refine hfill ?_
      rw [Pc.next, htodo, hf]
      rfl
    have hnext := h.goOn hwritten (by rw [htodo]; rfl) (by simp [htodo]) (by rw [hpc]; rfl) rfl
    have hstale : (s.stale || decide (i ∈ s.freed)) = s.stale := by
      rw [decide_eq_false hkept, Bool.or_false]
    rw [hstale]
    exact hnext
  case h_6 unSeq hpc =>
    have hdone : (s.sends i).pc.todo = some [] := by rw [hpc]; rfl
    have hnext : Inv args m (s.setSend i { s.sends i with pc := .returned 0 }) :=
      h.goOn ((h.written i).congr hdone.symm rfl rfl) (by rw [hdone]; rfl) (fun _ => rfl)
        (by rw [hpc]; rfl) rfl
    exact hnext.of_shared _ _
  case h_7 => exact h

omit [DecidableEq ι] in
theorem find?_of_sole {l : List ι} {p : ι → Bool} {a : ι} (ha : a ∈ l)
    (hp : ∀ b ∈ l, p b = true ↔ b = a) : l.find? p = some a := by
  cases hf : l.find? p with
  | none => exact absurd ((hp a ha).mpr rfl) (List.find?_eq_none.mp hf a ha)
  | some b => rw [(hp b (List.mem_of_find?_eq_some hf)).mp (List.find?_some hf)]

theorem eraseP_of_sole {l : List ι} {p : ι → Bool} {a : ι} (hp : ∀ b ∈ l, p b = true ↔ b = a) :
    l.eraseP p = l.erase a := by
  induction l with
  | nil => rfl
  | cons b l ih =>
    obtain ⟨hb, hl⟩ := List.forall_mem_cons.mp hp
    by_cases h : b = a
    · rw [List.eraseP_cons_of_pos (hb.mpr h), h, List.erase_cons_head]
    · rw [List.eraseP_cons_of_neg (mt hb.mp h), List.erase_cons_tail (by simpa using h), ih hl]

theorem Inv.getWaitMsg (h : Inv args m s) (hi : s.Takes i)
    (hcmd : (s.sends i).pc.Filled .nCmdID) (hseq : (s.sends i).pc.Filled .unSeq)
    (hzero : (s.sends i).unSeq = 0 → ∀ j ∈ s.m_objInviteList,
      (s.sends j).pc.Filled .nCmdID → (s.sends j).pc.Filled .unSeq) :
    s.getWaitMsg INVITERES_CMD (s.sends i).unSeq = (some i, s.m_objInviteList.erase i) := by
  have hmem : i ∈ s.m_objInviteList := by
    obtain ⟨todo, htodo, -⟩ := hcmd
    exact (h.mem_list i).mpr ⟨by rw [htodo]; rfl, hi.2.2⟩
  have hwaits : ∀ j ∈ s.m_objInviteList, s.Waiting j := fun j hj =>
    ⟨todo_requested ((h.mem_list j).mp hj).1, ((h.mem_list j).mp hj).2⟩
  have hsole : ∀ j ∈ s.m_objInviteList,
      s.isWaitMsg INVITERES_CMD (s.sends i).unSeq j = true ↔ j = i := by
    intro j hj
    rw [State.isWaitMsg, Bool.and_eq_true, beq_iff_eq, beq_iff_eq]
    constructor
    · rintro ⟨hcmd', hseq'⟩
      have hsome := ((h.mem_list j).mp hj).1
      have hnumber : (s.sends j).pc.Filled .nCmdID := by
        by_contra hnot
        rw [(h.written j).newCmdID hsome hnot] at hcmd'
        cases hcmd'
      by_cases hfilled : (s.sends j).pc.Filled .unSeq
      · rw [(h.written j).unSeq hfilled] at hseq'
        exact h.distinct j i (hwaits j hj) (hwaits i hmem) hseq'.symm
      · rw [(h.written j).newSeq hsome hfilled] at hseq'
        exact absurd (hzero hseq' j hj hnumber) hfilled
    · rintro rfl
      exact ⟨((h.written j).nCmdID hcmd).symm, ((h.written j).unSeq hseq).symm⟩
  rw [State.getWaitMsg, find?_of_sole hmem hsole, eraseP_of_sole hsole]

theorem inv_responseStep (h : Inv args m s) {res : InviteRes} (hok : Orderly s (.response i res)) :
    Inv args m (responseStep i res s) := by
  unfold responseStep
  split
  case isFalse => exact h
  case isTrue hi =>
    obtain ⟨hcmd, hseq, hzero⟩ := hok hi
    rw [h.getWaitMsg hi hcmd hseq hzero]
    have hsome : (s.sends i).pc.todo.isSome = true := by
      obtain ⟨todo, htodo, -⟩ := hcmd
      rw [htodo]
      rfl
    have hanswered : (s.responses ++ [(i, res)]).map Prod.fst = s.answered ++ [i] := by
      rw [List.map_append]
      rfl
    have hheld : s.freed = s.answered := by
      have hfreed := h.freed
      rw [hi.1] at hfreed
      exact (List.append_nil _).symm.trans hfreed
    constructor
    case written => exact h.written
    case mem_list =>
      intro j
      show j ∈ s.m_objInviteList.erase i ↔ _ ∧ j ∉ (s.responses ++ [(i, res)]).map Prod.fst
      rw [h.list_nodup.mem_erase_iff, h.mem_list j, hanswered, List.mem_append,
        List.mem_singleton, not_or]
      exact ⟨fun ⟨hne, hs, hnot⟩ => ⟨hs, hnot, hne⟩, fun ⟨hs, hnot, hne⟩ => ⟨hne, hs, hnot⟩⟩
    case list_nodup => exact h.list_nodup.erase i
    case distinct =>
      have hw : ∀ j, (s.sends j).pc.requested = true ∧ j ∉ (s.responses ++ [(i, res)]).map Prod.fst
          → s.Waiting j := fun j hj =>
        ⟨hj.1, fun hmem => hj.2 (by rw [hanswered]; exact List.mem_append_left _ hmem)⟩
      exact fun j k hj hk heq => h.distinct j k (hw j hj) (hw k hk) heq
    case answered_todo =>
      intro j hj
      rw [State.answered, hanswered, List.mem_append, List.mem_singleton] at hj
      rcases hj with hj | rfl
      · exact h.answered_todo j hj
      · exact hsome
    case answered_nodup =>
      rw [State.answered, hanswered]
      exact List.nodup_append_comm.mp (List.nodup_cons.mpr ⟨hi.2.2, h.answered_nodup⟩)
    case freed =>
      show s.freed ++ [i] = (s.responses ++ [(i, res)]).map Prod.fst
      rw [hanswered, hheld]
    case released => exact h.released
    case bindings =>
      obtain ⟨pre, hpre, hmap⟩ := h.bindings
      rw [hi.1] at hpre
      refine ⟨s.responses, rfl, ?_⟩
      rw [hpre]
      exact hmap.trans (by rw [show (Thread.idle : Thread ι).unbound = [] from rfl,
        List.append_nil])
    case unmatched => exact h.unmatched
    case stale => exact h.stale

omit [DecidableEq ι] in
theorem Inv.setThread (h : Inv args m s) {thread : Thread ι} {map : MapID} {freed : List ι}
    (hfreed : freed ++ thread.held = s.answered)
    (hreleased : ∀ i ∈ freed, (s.sends i).pc.todo = some [])
    (hbind : ∃ pre, s.responses = pre ++ thread.unbound ∧ map = pre.foldl (bind args) m) :
    Inv args m { s with thread := thread, m_mapStreamerID := map, freed := freed } :=
  { h with
    freed := hfreed
    released := hreleased
    bindings := hbind }

omit [DecidableEq ι] in
theorem inv_threadStep (h : Inv args m s) (m_fpInviteResponsed : Bool)
    (hok : Orderly s (.thread)) : Inv args m (threadStep m_fpInviteResponsed s) := by
  obtain ⟨hbind, hfree⟩ := hok
  have hfreed := h.freed
  obtain ⟨pre, hpre, hmap⟩ := h.bindings
  unfold threadStep
  split
  case h_1 => exact h
  case h_2 res j ht =>
    rw [ht] at hfreed hpre hbind
    refine h.setThread hfreed h.released ⟨s.responses, (List.append_nil _).symm, ?_⟩
    have hstep : (pre ++ [(j, res)]).foldl (bind args) m =
        bind args s.m_mapStreamerID (j, res) := by
      rw [List.foldl_append, ← hmap]
      rfl
    rw [hpre]
    refine Eq.trans ?_ hstep.symm
    unfold bind
    split_ifs with h200
    · rw [(h.written j).pStreamer (hbind (j, res) List.mem_cons_self h200.symm)]
    · rfl
  case h_3 res j ht =>
    rw [ht] at hfreed hpre
    have hcalled : Inv args m { s with thread := .called res j } :=
      h.setThread hfreed h.released ⟨pre, hpre, hmap⟩
    exact hcalled.of_shared _ _
  case h_4 res j ht =>
    rw [ht] at hfreed hpre hfree
    refine h.setThread ?_ ?_ ⟨pre, hpre, hmap⟩
    · rw [← hfreed]
      exact List.append_nil _
    · intro k hk
      rcases List.mem_append.mp hk with hk | hk
      · exact h.released k hk
      · exact hfree k hk
  case h_5 ht =>
    rw [ht] at hfreed hpre
    exact h.setThread hfreed h.released ⟨pre, hpre, hmap⟩
  case h_6 ht =>
    rw [ht] at hfreed hpre
    exact h.setThread hfreed h.released ⟨pre, hpre, hmap⟩
  case h_7 unSeq ht =>
    rw [ht] at hfreed hpre
    have hidle : Inv args m { s with thread := .idle } :=
      h.setThread hfreed h.released ⟨pre, hpre, hmap⟩
    exact hidle.of_shared _ _

theorem inv_step (m_fpInviteResponsed : Bool) (x : Step ι) (hok : Orderly s x)
    (h : Inv args m s) : Inv args m (step args m_fpInviteResponsed s x) := by
  cases x with
  | sender i sent => exact inv_senderStep h hok
  | response i res => exact inv_responseStep h hok
  | thread => exact inv_threadStep h m_fpInviteResponsed hok

end inv

/-! ## Runs -/

/-- All calls have returned, and the response to every request was dealt with. -/
structure Finished (s : State ι) : Prop where
  returned : ∀ i, (s.sends i).pc = .build ∨ ∃ nRet, (s.sends i).pc = .returned nRet
  answered : ∀ i, (s.sends i).pc.isSent = true → i ∈ s.answered
  idle : s.thread = .idle

/-- Streamers are bound to the last answer to their own requests, the wait message of every request
is freed once, by the message thread and when its caller is done with it, and there is one for each
response. -/
structure Bound (args : ι → InviteCall) (s : State ι) : Prop where
  bound : ∀ pre post i res, s.responses = pre ++ (i, res) :: post → res.nStatus = 200 →
    (∀ p ∈ post, p.2.nStatus = 200 → (args p.1).pStreamer ≠ (args i).pStreamer) →
    getPlayBackID s.m_mapStreamerID (args i).pStreamer = (true, res.nCid, res.nDid)
  freed : ∀ i, (s.sends i).pc.isSent = true → s.freed.count i = 1
  matched : s.unmatched = []
  kept : s.stale = false

omit [DecidableEq ι] in
/-- Answers to requests of other streamers, and refusals, leave a binding alone. -/
theorem getPlayBackID_foldl {args : ι → InviteCall} {pStreamer : Nat}
    {responses : List (ι × InviteRes)}
    (h : ∀ p ∈ responses, p.2.nStatus = 200 → (args p.1).pStreamer ≠ pStreamer) (m : MapID) :
    getPlayBackID (responses.foldl (bind args) m) pStreamer = getPlayBackID m pStreamer := by
  induction responses generalizing m with
  | nil => rfl
  | cons p responses ih =>
    obtain ⟨hp, hrest⟩ := List.forall_mem_cons.mp h
    rw [List.foldl_cons, ih hrest]
    unfold bind
    split_ifs with h200
    · exact getPlayBackID_set_of_ne m _ _ (hp h200.symm).symm
    · rfl

/-- **A run without races binds every streamer to the answer to its own request.** -/
theorem invites_bound (args : ι → InviteCall) (m_fpInviteResponsed : Bool) (m_unSeq : UInt32)
    (m : MapID) {steps : List (Step ι)}
    (hok : ∀ p ∈ calls (step args m_fpInviteResponsed) (State.init m_unSeq m) steps,
      Orderly p.1 p.2)
    (hfin : Finished (run (step args m_fpInviteResponsed) (State.init m_unSeq m) steps)) :
    Bound args (run (step args m_fpInviteResponsed) (State.init m_unSeq m) steps) := by
  have h : Inv args m (run (step args m_fpInviteResponsed) (State.init m_unSeq m) steps) :=
    run_invariant (fun _ x hx hs => inv_step m_fpInviteResponsed x hx hs) (inv_init m_unSeq m) hok
  obtain ⟨hreturned, hanswered, hidle⟩ := hfin
  have hfreed := h.freed
  obtain ⟨pre, hpre, hmap⟩ := h.bindings
  rw [hidle] at hfreed hpre
  constructor
  case bound =>
    intro before after i res hsplit h200 hlast
    have hall : pre = before ++ (i, res) :: after := by
      rw [← hsplit, hpre]
      exact (List.append_nil pre).symm
    rw [hmap, hall, List.foldl_append, List.foldl_cons, getPlayBackID_foldl hlast, bind,
      if_pos h200.symm]
    exact getPlayBackID_set _ _ _ _
  case freed =>
    intro i hi
    have hall := (List.append_nil _).symm.trans hfreed
    rw [hall]
    exact List.count_eq_one_of_mem h.answered_nodup (hanswered i hi)
  case matched => exact h.unmatched
  case kept => exact h.stale

/-! ## One call -/

/-- A call for the streamer at address 4096. -/
def liveView : Unit → InviteCall := fun _ =>
  { pstrDeviceID := str "34020000001320000001"
    nRecvPort := (6000, 6002)
    pStreamer := 4096
    nOperate := 0 }

/-- The caller's steps from `NewWaitMsg` on. -/
def waitSteps : List (Step Unit) := List.replicate 10 (.sender () true)

def accepted : InviteRes := { nCid := 3, nDid := 5, nStatus := 200, strData := [] }

/-- The response is taken when the wait message is complete. -/
theorem invites_bound_liveView :
    Bound liveView (run (step liveView false) (State.init 0 ∅)
      (.sender () true :: .sender () true :: waitSteps ++
        .response () accepted :: List.replicate 6 .thread)) := by
  refine invites_bound liveView false 0 ∅ (by decide) ⟨?_, ?_, rfl⟩
  · exact fun _ => Or.inr ⟨0, rfl⟩
  · exact fun _ _ => List.mem_cons_self

/-- The response is there before the wait message is: the streamer of an accepted invite stays
without its IDs, and the wait message is left. -/
theorem early_response_unmatched :
    Finished (run (step liveView false) (State.init 0 ∅)
      (.sender () true :: .sender () true :: .response () accepted :: List.replicate 3 .thread ++
        waitSteps)) ∧
    ¬ Bound liveView (run (step liveView false) (State.init 0 ∅)
      (.sender () true :: .sender () true :: .response () accepted :: List.replicate 3 .thread ++
        waitSteps)) := by
  refine ⟨⟨fun _ => Or.inr ⟨0, rfl⟩, fun _ _ => List.mem_cons_self, rfl⟩, fun h => ?_⟩
  cases h.matched

end GB28181.Lib.Invite
