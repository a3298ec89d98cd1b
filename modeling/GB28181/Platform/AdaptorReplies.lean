import Mathlib.Data.BitVec
import GB28181.Base.CString
import GB28181.Base.Map
import GB28181.Base.Run

/-!
# Replies to the adaptor's clients (`GBAdaptorCom/UASTCP.cpp`)

`RawDataHandleProc` numbers a request, pushes it to SIPCOM and then saves the client's session
under the number that it reads from the message again.  Later the reply is sent on the socket that
is saved under the message's number, or under the client's own sequence number.

* `step` — a request, `SaveSession`, the message freed by SIPCOM, the two replies;
* `Directed`, `Untouched` — replies go to the client that asked; no message is read after its push;
* `Aims` — the session last saved under the number that is looked up is one of this client;
* `directed_step`, `untouched_step` — what a step does to both;
* `replies_exact` — **replies are directed exactly when they aim, and messages are untouched exactly
  when no session is saved**.
-/

set_option autoImplicit false

namespace GB28181.Platform.UASTCP

open GB28181.Base

abbrev SOCKET := UInt32

def INVALID_SOCKET : SOCKET := 0xffffffff

/-- `raw_data_t`, with the sequence number that is parsed from it.  A client has a socket. -/
structure RawData where
  socketClient : SOCKET
  nSeq : BitVec 32
  valid : socketClient ≠ INVALID_SOCKET

/-- `pack_cmd_t`, as far as it is looked at. -/
inductive PackCmd where
  | ST_REGISTER
  | other (n : Nat)
  deriving DecidableEq

/-- The package that is made for the client; its texts are those the message points at. -/
inductive Package where
  | inviteAnswer (nSeq : BitVec 32) (nCid nDid nMsgStatus : Int) (pExtendData : CStr)
  | registerAnswer (nSeq : BitVec 32) (nStatus nRegStatus : Int)
  | catalogInfo (nSeq : BitVec 32) (nStatus : Int)

/-- The fields of the answer that come from elsewhere than the request. -/
structure Res where
  cmd_type : PackCmd
  nExpired : Int
  nStatus : Int
  nCID : Int
  nDID : Int
  strBody : CStr

/-- A message that was pushed: its request, the number it got, whether SIPCOM has freed it. -/
structure Pushed where
  raw : RawData
  nUniqueID : BitVec 32
  freed : Bool

/-- What was sent, the request it answers, the socket it was sent on. -/
structure Reply where
  request : Nat
  socketClient : SOCKET
  package : Package

/-- Requests are named by their position in `pushed`.  `toSave` is the request whose session comes
next, `saved` lists the sessions in order, `touched` the messages that were read after their push.
-/
structure State where
  nUniqueID : BitVec 32
  pushed : List Pushed
  toSave : Option Nat
  sessions : Map (BitVec 32) SOCKET
  saved : List (BitVec 32 × Nat)
  touched : List Nat
  replies : List Reply
  crashed : Bool

def State.init : State :=
  { nUniqueID := 0
    pushed := []
    toSave := none
    sessions := ∅
    saved := []
    touched := []
    replies := []
    crashed := false }

/-! ## The handlers -/

/-- `RawDataHandleProc` up to the push; it has returned from the request before. -/
def State.receive (s : State) (pData : RawData) : State :=
  if s.toSave.isSome then s
  else
    { s with
      nUniqueID := s.nUniqueID + 1
      pushed := s.pushed ++ [{ raw := pData, nUniqueID := s.nUniqueID + 1, freed := false }]
      toSave := some s.pushed.length }

/-- The number that the message holds; `unit` is what the unit of the pool holds once it was given
back. -/
def Pushed.readUniqueID (m : Pushed) (unit : BitVec 32) : BitVec 32 :=
  if m.freed then unit else m.nUniqueID

/-- `m_pSocketSession->SaveSession(pData, pUnifiedMsg->nUniqueID)`. -/
def State.save (s : State) (unit : BitVec 32) : State :=
  match s.toSave with
  | none => s
  | some i =>
    match s.pushed[i]? with
    | none => s
    | some m =>
      { s with
        toSave := none
        sessions := s.sessions.insert (m.readUniqueID unit) m.raw.socketClient
        saved := s.saved ++ [(m.readUniqueID unit, i)]
        touched := s.touched ++ [i] }

def State.free (s : State) (i : Nat) : State :=
  { s with pushed := s.pushed.modify i fun m => { m with freed := true } }

def State.matchRequest (s : State) (nCseq : BitVec 32) : SOCKET :=
  (s.sessions.lookup nCseq).getD INVALID_SOCKET

def State.sendSocketMessage (s : State) (i : Nat) (socket : SOCKET) (pData : Package) : State :=
  { s with replies := s.replies ++ [{ request := i, socketClient := socket, package := pData }] }

def State.replyHusInvite (s : State) (i : Nat) (nUniqueID nSeq : BitVec 32)
    (nCid nDid nMsgStatus : Int) (pExtendData : CStr) : State :=
  s.sendSocketMessage i (s.matchRequest nUniqueID)
    (.inviteAnswer nSeq nCid nDid nMsgStatus pExtendData)

def State.replyHusRegister (s : State) (i : Nat) (nSeq : BitVec 32) (nStatus nRegStatus : Int) :
    State :=
  if s.matchRequest nSeq = INVALID_SOCKET then s
  else s.sendSocketMessage i (s.matchRequest nSeq) (.registerAnswer nSeq nStatus nRegStatus)

/-- The log line reads `*pCount`. -/
def State.replyHusCatalogQuery (s : State) (i : Nat) (nSeq : BitVec 32) (nStatus : Int)
    (pCount : Option Int) : State :=
  if s.matchRequest nSeq = INVALID_SOCKET then s
  else
    match pCount with
    | none => { s with crashed := true }
    | some _ => s.sendSocketMessage i (s.matchRequest nSeq) (.catalogInfo nSeq nStatus)

/-- `OnHusInviteRes` with a message that carries the numbers of request `i`. -/
def State.onHusInviteRes (s : State) (i : Nat) (res : Res) : State :=
  match s.pushed[i]? with
  | none => s
  | some m => s.replyHusInvite i m.nUniqueID m.raw.nSeq res.nCID res.nDID res.nStatus res.strBody

/-- `OnRegisterRes` with a message that carries the numbers of request `i`. -/
def State.onRegisterRes (s : State) (i : Nat) (res : Res) : State :=
  match s.pushed[i]? with
  | none => s
  | some m =>
    let s :=
      if res.cmd_type = .ST_REGISTER ∧ res.nExpired = 0 then
        s.replyHusRegister i m.raw.nSeq res.nStatus 200
      else s
    s.replyHusCatalogQuery i m.raw.nSeq res.nStatus none

inductive Step where
  | receive (pData : RawData)
  | save (unit : BitVec 32)
  | free (i : Nat)
  | inviteRes (i : Nat) (res : Res)
  | registerRes (i : Nat) (res : Res)

def step (s : State) (x : Step) : State :=
  if s.crashed then s
  else
    match x with
    | .receive pData => s.receive pData
    | .save unit => s.save unit
    | .free i => s.free i
    | .inviteRes i res => s.onHusInviteRes i res
    | .registerRes i res => s.onRegisterRes i res

/-! ## Where the replies go -/

def State.client (s : State) (i : Nat) : Option SOCKET :=
  (s.pushed[i]?).map fun m => m.raw.socketClient

/-- Every reply went out on the socket of its request. -/
def Directed (s : State) : Prop :=
  ∀ r ∈ s.replies, s.client r.request = some r.socketClient

/-- No message was read after its push. -/
def Untouched (s : State) : Prop := s.touched = []

/-- The request whose session was last saved under a number. -/
def State.lastSaved (s : State) (nCseq : BitVec 32) : Option Nat :=
  (s.saved.reverse.find? fun p => p.1 == nCseq).map Prod.snd

/-- The session last saved under the number that is looked up is one of the same client; where
there is none, an invite must not be answered, and a registration is not. -/
def Aims (s : State) : Step → Prop
  | .inviteRes i _ => s.crashed = false → ∀ m ∈ s.pushed[i]?,
    ∃ j ∈ s.lastSaved m.nUniqueID, s.client j = some m.raw.socketClient
  | .registerRes i res => s.crashed = false → res.cmd_type = .ST_REGISTER → res.nExpired = 0 →
    ∀ m ∈ s.pushed[i]?, ∀ j ∈ s.lastSaved m.raw.nSeq, s.client j = some m.raw.socketClient
  | _ => True

def Saves (s : State) : Step → Prop
  | .save _ => s.crashed = false ∧ s.toSave.isSome = true
  | _ => False

/-! ## Sessions -/

/-- The table is what was saved, the requests that are named were pushed. -/
structure Inv (s : State) : Prop where
  lookup : ∀ n, s.sessions.lookup n = (s.lastSaved n).bind s.client
  saved : ∀ p ∈ s.saved, p.2 < s.pushed.length
  toSave : ∀ i ∈ s.toSave, i < s.pushed.length
  replies : ∀ r ∈ s.replies, r.request < s.pushed.length

theorem inv_init : Inv State.init where
  lookup _ := rfl
  saved _ h := by cases h
  toSave _ h := by cases h
  replies _ h := by cases h

section sessions

variable {s : State} {i j : Nat} {n : BitVec 32}

theorem client_of_pushed {m : Pushed} (h : s.pushed[i]? = some m) :
    s.client i = some m.raw.socketClient := by
  rw [State.client, h]
  rfl

theorem client_valid {socket : SOCKET} (h : s.client i = some socket) :
    socket ≠ INVALID_SOCKET := by
  obtain ⟨m, -, rfl⟩ := Option.map_eq_some_iff.mp h
  exact m.raw.valid

theorem client_append {m : Pushed} (h : i < s.pushed.length) :
    ({ s with pushed := s.pushed ++ [m] } : State).client i = s.client i := by
  unfold State.client
  rw [List.getElem?_append_left h]

theorem client_free : (s.free i).client j = s.client j := by
  unfold State.client State.free
  rw [List.getElem?_modify]
  cases s.pushed[j]? with
  | none => rfl
  | some m =>
    show some (if i = j then { m with freed := true } else m).raw.socketClient = _
    split_ifs
    · rfl
    · rfl

theorem mem_saved (h : j ∈ s.lastSaved n) : (n, j) ∈ s.saved := by
  obtain ⟨⟨n', j'⟩, hfind, rfl⟩ := Option.map_eq_some_iff.mp h
  have hp := List.find?_some hfind
  have hn : n' = n := beq_iff_eq.mp hp
  rw [← hn]
  exact List.mem_reverse.mp (List.mem_of_find?_eq_some hfind)

theorem Inv.matchRequest_eq_iff (h : Inv s) {socket : SOCKET} (hvalid : socket ≠ INVALID_SOCKET) :
    s.matchRequest n = socket ↔ ∃ j ∈ s.lastSaved n, s.client j = some socket := by
  unfold State.matchRequest
  rw [h.lookup n]
  cases hlast : s.lastSaved n with
  | none => exact ⟨fun hno => absurd hno.symm hvalid, fun ⟨_, hj, _⟩ => by cases hj⟩
  | some j =>
    show (s.client j).getD INVALID_SOCKET = socket ↔ _
    constructor
    · intro hj
      refine ⟨j, rfl, ?_⟩
      cases hclient : s.client j with
      | none =>
        rw [hclient] at hj
        exact absurd hj.symm hvalid
      | some x =>
        rw [hclient] at hj
        exact congrArg some hj
    · rintro ⟨j', hj', hclient⟩
      cases hj'
      rw [hclient]
      rfl

theorem Inv.matchRequest_invalid_iff (h : Inv s) :
    s.matchRequest n = INVALID_SOCKET ↔ s.lastSaved n = none := by
  cases hlast : s.lastSaved n with
  | none =>
    refine iff_of_true ?_ rfl
    rw [State.matchRequest, h.lookup n, hlast]
    rfl
  | some j =>
    have hj : j < s.pushed.length := h.saved _ (mem_saved hlast)
    have hclient : s.client j = some (s.pushed[j]).raw.socketClient :=
      client_of_pushed (List.getElem?_eq_getElem hj)
    refine iff_of_false (fun hno => ?_) (by simp)
    exact client_valid hclient
      (((h.matchRequest_eq_iff (client_valid hclient)).mpr ⟨j, hlast, hclient⟩).symm.trans hno)

end sessions

/-! ## Steps -/

section steps

variable {s : State} {i : Nat}

theorem Inv.append (h : Inv s) (m : Pushed) :
    Inv { s with pushed := s.pushed ++ [m] } := by
  have hlt : ∀ k, k < s.pushed.length → k < (s.pushed ++ [m]).length := fun k hk => by
    rw [List.length_append]
    exact Nat.lt_add_right _ hk
  constructor
  case lookup =>
    intro n
    refine (h.lookup n).trans ?_
    show (s.lastSaved n).bind _ = (s.lastSaved n).bind _
    cases hlast : s.lastSaved n with
    | none => rfl
    | some j => exact (client_append (h.saved _ (mem_saved hlast))).symm
  case saved => exact fun p hp => hlt _ (h.saved p hp)
  case toSave => exact fun k hk => hlt _ (h.toSave k hk)
  case replies => exact fun r hr => hlt _ (h.replies r hr)

theorem inv_receive (h : Inv s) (pData : RawData) : Inv (s.receive pData) := by
  unfold State.receive
  split_ifs
  · exact h
  · refine { h.append _ with toSave := ?_ }
    intro k hk
    cases hk
    rw [List.length_append]
    exact Nat.lt_succ_self _

theorem inv_free (h : Inv s) (i : Nat) : Inv (s.free i) := by
  have hlength : (s.free i).pushed.length = s.pushed.length := List.length_modify _ _ _
  have hclient : (s.free i).client = s.client := funext fun _ => client_free
  constructor
  case lookup =>
    intro n
    rw [hclient]
    exact h.lookup n
  case saved =>
    rw [hlength]
    exact h.saved
  case toSave =>
    rw [hlength]
    exact h.toSave
  case replies =>
    rw [hlength]
    exact h.replies

theorem inv_save (h : Inv s) (unit : BitVec 32) : Inv (s.save unit) := by
  unfold State.save
  split
  case h_1 => exact h
  case h_2 i _ =>
    split
    case h_1 => exact h
    case h_2 m hm =>
      constructor
      case lookup =>
        intro n
        show (s.sessions.insert _ _).lookup n =
          (((s.saved ++ [(m.readUniqueID unit, i)]).reverse.find? _).map Prod.snd).bind s.client
        rw [Map.lookup_insert_ite, List.reverse_append, List.reverse_singleton,
          List.singleton_append, List.find?_cons]
        by_cases hn : n = m.readUniqueID unit
        · rw [if_pos hn, hn, beq_self_eq_true]
          exact (client_of_pushed hm).symm
        · rw [if_neg hn, beq_false_of_ne (Ne.symm hn)]
          exact h.lookup n
      case saved =>
        intro p hp
        rcases List.mem_append.mp hp with hp | hp
        · exact h.saved p hp
        · rw [List.mem_singleton.mp hp]
          exact (List.getElem?_eq_some_iff.mp hm).1
      case toSave =>
        intro k hk
        cases hk
      case replies => exact h.replies

theorem Inv.send (h : Inv s) (hi : i < s.pushed.length) (socket : SOCKET) (pData : Package) :
    Inv (s.sendSocketMessage i socket pData) where
  lookup := h.lookup
  saved := h.saved
  toSave := h.toSave
  replies r hr := by
    rcases List.mem_append.mp hr with hr | hr
    · exact h.replies r hr
    · rw [List.mem_singleton.mp hr]
      exact hi

theorem directed_send {socket : SOCKET} {pData : Package} :
    Directed (s.sendSocketMessage i socket pData) ↔ Directed s ∧ s.client i = some socket := by
  show (∀ r ∈ s.replies ++ [_], _) ↔ _
  rw [List.forall_mem_append, List.forall_mem_singleton]
  rfl

theorem onHusInviteRes_eq (res : Res) {m : Pushed} (hm : s.pushed[i]? = some m) :
    s.onHusInviteRes i res = s.sendSocketMessage i (s.matchRequest m.nUniqueID)
      (.inviteAnswer m.raw.nSeq res.nCID res.nDID res.nStatus res.strBody) := by
  rw [State.onHusInviteRes, hm]
  rfl

/-- The registration is answered, then the process reads the count that is not there. -/
theorem onRegisterRes_eq (res : Res) {m : Pushed} (hm : s.pushed[i]? = some m) :
    s.onRegisterRes i res =
      if s.matchRequest m.raw.nSeq = INVALID_SOCKET then s
      else if res.cmd_type = .ST_REGISTER ∧ res.nExpired = 0 then
        { s.sendSocketMessage i (s.matchRequest m.raw.nSeq)
            (.registerAnswer m.raw.nSeq res.nStatus 200) with crashed := true }
      else { s with crashed := true } := by
  unfold State.onRegisterRes
  rw [hm]
  dsimp only
  by_cases hsocket : s.matchRequest m.raw.nSeq = INVALID_SOCKET
  · rw [if_pos hsocket, State.replyHusRegister, if_pos hsocket, ite_self,
      State.replyHusCatalogQuery, if_pos hsocket]
  · rw [if_neg hsocket, State.replyHusRegister, if_neg hsocket]
    split_ifs
    · exact if_neg hsocket
    · exact if_neg hsocket

theorem Inv.crash (h : Inv s) : Inv { s with crashed := true } :=
  ⟨h.lookup, h.saved, h.toSave, h.replies⟩

theorem inv_step (h : Inv s) (x : Step) : Inv (step s x) := by
  unfold step
  split_ifs
  · exact h
  · cases x with
    | receive pData => exact inv_receive h pData
    | save unit => exact inv_save h unit
    | free i => exact inv_free h i
    | inviteRes i res =>
      show Inv (s.onHusInviteRes i res)
      cases hm : s.pushed[i]? with
      | none =>
        rw [State.onHusInviteRes, hm]
        exact h
      | some m =>
        rw [onHusInviteRes_eq res hm]
        exact h.send (List.getElem?_eq_some_iff.mp hm).1 _ _
    | registerRes i res =>
      show Inv (s.onRegisterRes i res)
      cases hm : s.pushed[i]? with
      | none =>
        rw [State.onRegisterRes, hm]
        exact h
      | some m =>
        rw [onRegisterRes_eq res hm]
        split_ifs
        · exact h
        · exact (h.send (List.getElem?_eq_some_iff.mp hm).1 _ _).crash
        · exact h.crash

theorem directed_append (h : Inv s) (m : Pushed) :
    Directed { s with pushed := s.pushed ++ [m] } ↔ Directed s :=
  forall₂_congr fun r hr => by rw [client_append (h.replies r hr)]

theorem directed_inviteRes (h : Inv s) (res : Res) :
    Directed (s.onHusInviteRes i res) ↔ Directed s ∧ ∀ m ∈ s.pushed[i]?,
      ∃ j ∈ s.lastSaved m.nUniqueID, s.client j = some m.raw.socketClient := by
  cases hm : s.pushed[i]? with
  | none =>
    rw [State.onHusInviteRes, hm]
    exact ⟨fun hs => ⟨hs, fun _ hno => by cases hno⟩, And.left⟩
  | some m =>
    have hsome : (∀ m' ∈ some m, ∃ j ∈ s.lastSaved m'.nUniqueID,
        s.client j = some m'.raw.socketClient) ↔
        ∃ j ∈ s.lastSaved m.nUniqueID, s.client j = some m.raw.socketClient :=
      ⟨fun hall => hall m rfl, fun hj m' hm' => by cases hm'; exact hj⟩
    rw [onHusInviteRes_eq res hm, directed_send, client_of_pushed hm, hsome,
      ← h.matchRequest_eq_iff m.raw.valid, Option.some.injEq, eq_comm (a := s.matchRequest _)]

theorem directed_registerRes (h : Inv s) (res : Res) :
    Directed (s.onRegisterRes i res) ↔ Directed s ∧
      (res.cmd_type = .ST_REGISTER → res.nExpired = 0 → ∀ m ∈ s.pushed[i]?,
        ∀ j ∈ s.lastSaved m.raw.nSeq, s.client j = some m.raw.socketClient) := by
  cases hm : s.pushed[i]? with
  | none =>
    rw [State.onRegisterRes, hm]
    exact ⟨fun hs => ⟨hs, fun _ _ _ hno => by cases hno⟩, And.left⟩
  | some m =>
    rw [onRegisterRes_eq res hm]
    split_ifs with hsocket hregister
    · have hnone : s.lastSaved m.raw.nSeq = none := h.matchRequest_invalid_iff.mp hsocket
      refine (and_iff_left fun _ _ m' hm' j hj => ?_).symm
      cases hm'
      rw [hnone] at hj
      cases hj
    · obtain ⟨j, hj⟩ : ∃ j, s.lastSaved m.raw.nSeq = some j :=
        Option.ne_none_iff_exists'.mp fun hno => hsocket (h.matchRequest_invalid_iff.mpr hno)
      have hown : s.matchRequest m.raw.nSeq = m.raw.socketClient ↔
          s.client j = some m.raw.socketClient := by
        rw [h.matchRequest_eq_iff m.raw.valid, hj]
        refine ⟨fun ⟨j', hj', hclient⟩ => ?_, fun hclient => ⟨j, rfl, hclient⟩⟩
        cases hj'
        exact hclient
      refine (directed_send (s := s)).trans (and_congr_right fun _ => ?_)
      rw [client_of_pushed hm, Option.some.injEq, eq_comm, hown]
      constructor
      · intro hclient _ _ m' hm' j' hj'
        cases hm'
        rw [hj] at hj'
        cases hj'
        exact hclient
      · exact fun hall => hall hregister.1 hregister.2 m rfl j hj
    · exact (and_iff_left fun hcmd hexpired => absurd ⟨hcmd, hexpired⟩ hregister).symm

theorem directed_receive (h : Inv s) (pData : RawData) :
    Directed (s.receive pData) ↔ Directed s := by
  unfold State.receive
  split_ifs
  · rfl
  · exact directed_append h _

theorem directed_free (i : Nat) : Directed (s.free i) ↔ Directed s :=
  forall₂_congr fun r _ => by rw [client_free]

theorem directed_save (unit : BitVec 32) : Directed (s.save unit) ↔ Directed s := by
  unfold State.save
  split
  · rfl
  · split
    · rfl
    · rfl

/-- **A step keeps replies directed exactly when it aims.** -/
theorem directed_step (h : Inv s) (x : Step) : Directed (step s x) ↔ Directed s ∧ Aims s x := by
  unfold step
  split_ifs with hcrashed
  · refine (and_iff_left ?_).symm
    cases x with
    | inviteRes i res => exact fun hno => absurd (hcrashed.symm.trans hno) (by decide)
    | registerRes i res => exact fun hno => absurd (hcrashed.symm.trans hno) (by decide)
    | _ => trivial
  · have hruns : s.crashed = false := Bool.eq_false_iff.mpr hcrashed
    cases x with
    | receive pData => exact (directed_receive h pData).trans (and_iff_left trivial).symm
    | save unit => exact (directed_save unit).trans (and_iff_left trivial).symm
    | free i => exact (directed_free i).trans (and_iff_left trivial).symm
    | inviteRes i res =>
      refine (directed_inviteRes h res).trans (and_congr_right fun _ => ?_)
      exact ⟨fun haims _ => haims, fun haims => haims hruns⟩
    | registerRes i res =>
      refine (directed_registerRes h res).trans (and_congr_right fun _ => ?_)
      exact ⟨fun haims _ => haims, fun haims => haims hruns⟩

theorem untouched_save (h : Inv s) (unit : BitVec 32) :
    Untouched (s.save unit) ↔ Untouched s ∧ s.toSave = none := by
  unfold State.save
  split
  case h_1 hnone => exact (and_iff_left hnone).symm
  case h_2 i hsome =>
    have hlt : i < s.pushed.length := h.toSave i hsome
    rw [List.getElem?_eq_getElem hlt]
    refine iff_of_false (fun hempty => ?_) (fun hboth => ?_)
    · exact List.append_ne_nil_of_right_ne_nil _ (List.cons_ne_nil _ _) hempty
    · rw [hsome] at hboth
      cases hboth.2

theorem untouched_onRegisterRes (res : Res) : Untouched (s.onRegisterRes i res) ↔ Untouched s := by
  cases hm : s.pushed[i]? with
  | none => rw [State.onRegisterRes, hm]
  | some m =>
    rw [onRegisterRes_eq res hm]
    split_ifs
    · rfl
    · rfl
    · rfl

/-- **A step leaves the messages that were pushed alone exactly when it saves no session.** -/
theorem untouched_step (h : Inv s) (x : Step) :
    Untouched (step s x) ↔ Untouched s ∧ ¬ Saves s x := by
  unfold step
  split_ifs with hcrashed
  · refine (and_iff_left ?_).symm
    cases x with
    | save unit => exact fun hsaves => absurd (hcrashed.symm.trans hsaves.1) (by decide)
    | _ => exact id
  · have hruns : s.crashed = false := Bool.eq_false_iff.mpr hcrashed
    cases x with
    | receive pData =>
      refine Iff.trans ?_ (and_iff_left id).symm
      show Untouched (s.receive pData) ↔ _
      unfold State.receive
      split_ifs
      · rfl
      · rfl
    | save unit =>
      refine (untouched_save h unit).trans (and_congr_right fun _ => ?_)
      rw [Saves, and_iff_right hruns, Option.not_isSome_iff_eq_none]
    | free i => exact (and_iff_left id).symm
    | inviteRes i res =>
      refine Iff.trans ?_ (and_iff_left id).symm
      show Untouched (s.onHusInviteRes i res) ↔ _
      unfold State.onHusInviteRes
      split
      · rfl
      · rfl
    | registerRes i res => exact (untouched_onRegisterRes res).trans (and_iff_left id).symm

end steps

/-! ## Runs -/

/-- **Replies go to the client that asked exactly when each one aims, and no message is read after
its push exactly when no session is saved.** -/
theorem replies_exact (steps : List Step) :
    (Directed (run step .init steps) ↔ ∀ c ∈ calls step .init steps, Aims c.1 c.2) ∧
      (Untouched (run step .init steps) ↔ ∀ c ∈ calls step .init steps, ¬ Saves c.1 c.2) := by
  have hdirected : Directed .init := fun _ hr => by cases hr
  constructor
  · exact (run_iff_of_step (fun _ x h => inv_step h x) (fun _ x h => directed_step h x)
      inv_init).trans (and_iff_right hdirected)
  · exact (run_iff_of_step (fun _ x h => inv_step h x) (fun _ x h => untouched_step h x)
      inv_init).trans (and_iff_right rfl)

/-! ## Two clients -/

/-- A client on socket 8 whose message has the sequence number 5. -/
def viewer : RawData := { socketClient := 8, nSeq := 5, valid := by decide }

/-- A client on socket 9 that logs out with sequence number 1. -/
def leaver : RawData := { socketClient := 9, nSeq := 1, valid := by decide }

def loggedOut : Res :=
  { cmd_type := .ST_REGISTER
    nExpired := 0
    nStatus := 200
    nCID := 0
    nDID := 0
    strBody := [] }

/-- Both requests are saved, then freed, and the second is answered. -/
def logout : List Step :=
  [.receive viewer, .save 0, .receive leaver, .save 0, .free 0, .free 1, .registerRes 1 loggedOut]

/-- The logout is confirmed to the first client, whose session has the number 1. -/
theorem logout_misdirected :
    ¬ Directed (run step .init logout) ∧ ¬ Untouched (run step .init logout) := by
  constructor
  · intro h
    have hsent := h ⟨1, 8, .registerAnswer 1 200 200⟩ (List.mem_singleton_self _)
    cases hsent
  · intro h
    cases h

end GB28181.Platform.UASTCP
