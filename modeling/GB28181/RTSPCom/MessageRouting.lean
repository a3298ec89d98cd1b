import GB28181.Base.Map
import GB28181.Base.Run
import GB28181.RTSPCom.SessionRelease

/-!
# Where a message of the RTSP module goes (`RTSPCom/RTSPCom.cpp`)

`HandleMsg` looks up the devices of play requests, finds the manager of a call in
`m_oMapCidSessionMgr` and leaves the message to its `ProcessOperation`, which finds the thread of
the session in a map of its own.  A message that is not put in a queue has to be freed.

* `handleMsg` — the effects of a message;
* `passedOn_iff` — it is put in one queue or freed, once and for good, **exactly when** it does
  not fall into one of the branches that forget it or push it twice;
* `passedOn_run_iff` — the same over every sequence of messages.
-/

set_option autoImplicit false

namespace GB28181.RTSPCom.Routing

open GB28181.Base GB28181.Base.Own
open GB28181.RTSPCom.Release (OtRtsp)

/-! ## Data -/

/-- The managers that `m_oMapCidSessionMgr` leads to. -/
inductive SessionMgr where
  | sessionMgrLocal
  | thirdCallSessionMgr
  | broadCastCallSessionMgr
deriving DecidableEq

/-- `CModMessage`. -/
structure ModMessage where
  action_rtsp : OtRtsp
  nCallDialogID : BitVec 64
  strDeviceID : CStr
  /-- `GetCallSender`: a thread. -/
  callSender : Nat

/-- A message: the one that `HandleMsg` is given, or one that it allocates. -/
inductive Msg where
  | handled
  | fresh (n : Nat)
deriving DecidableEq

/-- The queue of a thread, or of another module. -/
inductive Queue where
  | session (manager : SessionMgr) (thread : Nat)
  | record (thread : Nat)
  | sipcom
  | sdkcom
deriving DecidableEq

/-- `SetModAction`. -/
inductive Action where
  | rtsp (action : OtRtsp)
  | notify_reponse
  | decoder_bye
deriving DecidableEq

inductive Effect where
  | alloc (x : Msg)
  /-- The message is read or written. -/
  | use (x : Msg)
  | push (queue : Queue) (x : Msg) (action : Action)
  | free (x : Msg)
  /-- The thread is told to end. -/
  | setEvent (thread : Nat)
deriving DecidableEq

/-- `linked` of a `DeviceObject`. -/
structure Linked where
  strNVRIP : CStr
  strStreamerGUID : CStr

/-- `CRTSPCom`: the managers with the threads of their `m_oThreadQueueMap`. -/
structure CRTSPCom where
  m_oMapCidSessionMgr : Map (BitVec 64) SessionMgr := ∅
  m_oSessionMgrLocal : Map (BitVec 64) Nat := ∅
  m_oThirdCallSessionMgr : Map (BitVec 64) Nat := ∅
  m_oBroadCastCallSessionMgr : Map (BitVec 64) Nat := ∅
  m_oRecordMgr : Map CStr Nat := ∅
  /-- Threads are numbered in the order in which they are started. -/
  threads : Nat := 0

/-- What comes with a message: the device that `LookupDevice` finds, and the threads that a walk
over the map of the local manager meets. -/
structure Around where
  linked : Option Linked
  walk : List Nat

/-! ## The managers -/

/-- The branch of `play_ctrl_stop` and its siblings, which the managers share. -/
def sessionOperation (manager : SessionMgr) (m_oThreadQueueMap : Map (BitVec 64) Nat)
    (pMsg : ModMessage) : List Effect :=
  match m_oThreadQueueMap.lookup pMsg.nCallDialogID with
  | some n => [.use .handled, .push (.session manager n) .handled (.rtsp pMsg.action_rtsp)]
  | none =>
    if pMsg.action_rtsp = .play_ctrl_stop then
      [.use .handled, .use .handled, .push .sdkcom .handled .decoder_bye]
    else [.use .handled, .free .handled]

/-- `stop_all_play`: a message of its own for each thread. -/
def stopAllPlay (i : Nat) : List Nat → List Effect
  | [] => []
  | n :: walk =>
    [.alloc (.fresh i), .use (.fresh i),
      .push (.session .sessionMgrLocal n) (.fresh i) (.rtsp .stop_all_play)] ++
    stopAllPlay (i + 1) walk

/-- A thread is started; the message is the first in its queue. -/
def startThread (queue : Nat → Queue) (s : CRTSPCom) (pMsg : ModMessage) : List Effect :=
  [.use .handled, .push (queue s.threads) .handled (.rtsp pMsg.action_rtsp)]

/-- The thread that is found is told to end. -/
def endThread : Option Nat → List Effect
  | some n => [.setEvent n]
  | none => []

/-- `CRTSPTransSessionMgr::ProcessOperation`. -/
def localOperation (s : CRTSPCom) (pMsg : ModMessage) (walk : List Nat) :
    CRTSPCom × List Effect :=
  match pMsg.action_rtsp with
  | .play_with_sdp =>
    ({ s with
        m_oSessionMgrLocal := s.m_oSessionMgrLocal.insert pMsg.nCallDialogID s.threads
        threads := s.threads + 1 },
      endThread (s.m_oSessionMgrLocal.lookup pMsg.nCallDialogID) ++
        startThread (.session .sessionMgrLocal) s pMsg)
  | .stop_all_play =>
    -- there is no `break` behind the walk
    (s, stopAllPlay 0 walk ++ sessionOperation .sessionMgrLocal s.m_oSessionMgrLocal pMsg)
  | .play_ctrl_start | .play_ctrl_stop | .play_ctrl =>
    (s, sessionOperation .sessionMgrLocal s.m_oSessionMgrLocal pMsg)
  | _ => (s, [.use .handled, .free .handled])

/-- `CRTSPTransSessionMgrThird::ProcessOperation`. -/
def thirdOperation (s : CRTSPCom) (pMsg : ModMessage) : CRTSPCom × List Effect :=
  match pMsg.action_rtsp with
  | .play_no_sdp =>
    ({ s with
        m_oThirdCallSessionMgr := s.m_oThirdCallSessionMgr.insert pMsg.nCallDialogID s.threads
        threads := s.threads + 1 },
      endThread (s.m_oThirdCallSessionMgr.lookup pMsg.nCallDialogID) ++
        startThread (.session .thirdCallSessionMgr) s pMsg)
  | .play_ctrl_start | .play_ctrl_stop | .play_ctrl =>
    (s, sessionOperation .thirdCallSessionMgr s.m_oThirdCallSessionMgr pMsg)
  | _ => (s, [.use .handled, .free .handled])

/-- `CRTSPTransSessionMgrBroadcast::ProcessOperation`, which enters no thread in its map. -/
def broadcastOperation (s : CRTSPCom) (pMsg : ModMessage) : CRTSPCom × List Effect :=
  match pMsg.action_rtsp with
  | .play_broadcast =>
    ({ s with threads := s.threads + 1 }, startThread (.session .broadCastCallSessionMgr) s pMsg)
  | .play_ctrl_start_broadcast =>
    (s, [.use .handled, .push (.session .broadCastCallSessionMgr pMsg.callSender) .handled
      (.rtsp .play_ctrl_start_broadcast)])
  | .play_ctrl_stop | .play_ctrl =>
    (s, sessionOperation .broadCastCallSessionMgr s.m_oBroadCastCallSessionMgr pMsg)
  | _ => (s, [.use .handled, .free .handled])

/-- `CRTSPTransSessionRecMgr::ProcessOperation`. -/
def recordOperation (s : CRTSPCom) (pMsg : ModMessage) : CRTSPCom × List Effect :=
  match pMsg.action_rtsp, s.m_oRecordMgr.lookup pMsg.strDeviceID with
  | .record_start, none =>
    ({ s with
        m_oRecordMgr := s.m_oRecordMgr.insert pMsg.strDeviceID s.threads
        threads := s.threads + 1 },
      startThread .record s pMsg)
  | .record_stop, some n =>
    (s, [.use .handled, .push (.record n) .handled (.rtsp .record_stop)])
  | _, _ => (s, [.use .handled])

/-! ## The module -/

/-- `SearchGUIDForPlay`: whether the request can be played. -/
def searchGUIDForPlay (linked : Option Linked) (eOperateType : OtRtsp) : Bool × List Effect :=
  match linked with
  | none => (false, [.use .handled, .free .handled])
  | some l =>
    if l.strNVRIP = [] ∨ l.strStreamerGUID = [] then (false, [.use .handled, .free .handled])
    else
      (true, [.use .handled] ++
        if eOperateType = .play_broadcast then
          -- the message is pushed, and then written and handed on
          [.use .handled, .push .sipcom .handled .notify_reponse, .use .handled]
        else [])

def startPlaySession (s : CRTSPCom) (pUnifiedMsg : ModMessage) (eOperateType : OtRtsp)
    (walk : List Nat) : CRTSPCom × List Effect :=
  let enter (mgr : SessionMgr) : CRTSPCom :=
    { s with m_oMapCidSessionMgr := s.m_oMapCidSessionMgr.insert pUnifiedMsg.nCallDialogID mgr }
  match eOperateType with
  | .play_with_sdp => localOperation (enter .sessionMgrLocal) pUnifiedMsg walk
  | .play_no_sdp => thirdOperation (enter .thirdCallSessionMgr) pUnifiedMsg
  | .play_broadcast => broadcastOperation (enter .broadCastCallSessionMgr) pUnifiedMsg
  | _ => (s, [])

def processVideoSession (s : CRTSPCom) (pMsg : ModMessage) (walk : List Nat) :
    CRTSPCom × List Effect :=
  match s.m_oMapCidSessionMgr.lookup pMsg.nCallDialogID with
  | some .sessionMgrLocal => localOperation s pMsg walk
  | some .thirdCallSessionMgr => thirdOperation s pMsg
  | some .broadCastCallSessionMgr => broadcastOperation s pMsg
  | none => (s, [.use .handled])

def handleMsg (s : CRTSPCom) (around : Around) (pUnifiedMsg : ModMessage) :
    CRTSPCom × List Effect :=
  match pUnifiedMsg.action_rtsp with
  | .play_no_sdp | .play_broadcast | .play_with_sdp =>
    let (retSearch, out) := searchGUIDForPlay around.linked pUnifiedMsg.action_rtsp
    if retSearch then
      let (s', out') := startPlaySession s pUnifiedMsg pUnifiedMsg.action_rtsp around.walk
      (s', out ++ out')
    else (s, out)
  | .stop_all_play => localOperation s pUnifiedMsg around.walk
  | .play_ctrl_start | .play_ctrl_stop | .play_ctrl =>
    processVideoSession s pUnifiedMsg around.walk
  | .record_start | .record_stop => recordOperation s pUnifiedMsg
  | _ => (s, [.use .handled])

/-- What happens to the module: a message, or the end of a thread, which takes the key of its
session out of a map. -/
inductive Step where
  | msg (around : Around) (pMsg : ModMessage)
  | removeKey (manager : SessionMgr) (nCallDialogID : BitVec 64)
  | removeRecord (strDeviceID : CStr)

def removeKey (s : CRTSPCom) (nCallDialogID : BitVec 64) : SessionMgr → CRTSPCom
  | .sessionMgrLocal =>
    { s with m_oSessionMgrLocal := s.m_oSessionMgrLocal.erase nCallDialogID }
  | .thirdCallSessionMgr =>
    { s with m_oThirdCallSessionMgr := s.m_oThirdCallSessionMgr.erase nCallDialogID }
  | .broadCastCallSessionMgr =>
    { s with m_oBroadCastCallSessionMgr := s.m_oBroadCastCallSessionMgr.erase nCallDialogID }

def step (s : CRTSPCom) : Step → CRTSPCom
  | .msg around pMsg => (handleMsg s around pMsg).1
  | .removeKey manager nCallDialogID => removeKey s nCallDialogID manager
  | .removeRecord strDeviceID =>
    { s with m_oRecordMgr := s.m_oRecordMgr.erase strDeviceID }

/-! ## What should hold -/

/-- What an effect is for the messages. -/
def Effect.accesses : Effect → List (Event Msg)
  | .alloc x => [.take x]
  | .use x => [.use x]
  | .push _ x _ => [.give x]
  | .free x => [.give x]
  | .setEvent _ => []

/-- What a handler does with the messages, in order. -/
def trace (out : List Effect) : List (Event Msg) := out.flatMap Effect.accesses

/-- A manager knows a thread for the call. -/
def HasSession (s : CRTSPCom) (nCallDialogID : BitVec 64) : Prop :=
  nCallDialogID ∈ s.m_oSessionMgrLocal ∨ nCallDialogID ∈ s.m_oThirdCallSessionMgr ∨
    nCallDialogID ∈ s.m_oBroadCastCallSessionMgr

/-- The message is put in one queue or freed, once, and left alone then; the messages allocated on
the way too; and the stop of a call without a session goes to the SDK module. -/
structure PassedOn (s : CRTSPCom) (pMsg : ModMessage) (out : List Effect) : Prop where
  once : GivenOnce .handled (trace out)
  balanced : Balanced (trace out)
  bye : pMsg.action_rtsp = .play_ctrl_stop → ¬ HasSession s pMsg.nCallDialogID →
    .push .sdkcom .handled .decoder_bye ∈ out

def StepPassesOn (s : CRTSPCom) : Step → Prop
  | .msg around pMsg => PassedOn s pMsg (handleMsg s around pMsg).2
  | _ => True

/-- The device of a play request is unknown, or has no address or no stream. -/
def Unplayable (linked : Option Linked) : Prop :=
  ∀ l ∈ linked, l.strNVRIP = [] ∨ l.strStreamerGUID = []

/-- The message does not fall into a branch that forgets it or pushes it twice. -/
def Cared (s : CRTSPCom) (around : Around) (pMsg : ModMessage) : Prop :=
  match pMsg.action_rtsp with
  | .play_no_sdp | .play_with_sdp | .stop_all_play => True
  | .play_broadcast => Unplayable around.linked
  | .play_ctrl_start | .play_ctrl_stop | .play_ctrl => pMsg.nCallDialogID ∈ s.m_oMapCidSessionMgr
  | .record_start => pMsg.strDeviceID ∉ s.m_oRecordMgr
  | .record_stop => pMsg.strDeviceID ∈ s.m_oRecordMgr
  | .play_ctrl_start_broadcast | .default_none => False

def StepCares (s : CRTSPCom) : Step → Prop
  | .msg around pMsg => Cared s around pMsg
  | _ => True

/-! ## One message -/

/-- The message ends up in one queue or freed, and no other one is allocated. -/
structure GivenAway (out : List Effect) : Prop where
  gone : life .handled .live (trace out) = .gone
  noAlloc : ∀ x, .take x ∉ trace out

theorem trace_append (out out' : List Effect) : trace (out ++ out') = trace out ++ trace out' :=
  List.flatMap_append

theorem givenAway_push (queue : Queue) (action : Action) :
    GivenAway [.use .handled, .push queue .handled action] where
  gone := rfl
  noAlloc := by simp [trace, Effect.accesses]

theorem givenAway_free : GivenAway [.use .handled, .free .handled] where
  gone := rfl
  noAlloc := by simp [trace, Effect.accesses]

theorem givenAway_sessionOperation (manager : SessionMgr) (m : Map (BitVec 64) Nat)
    (pMsg : ModMessage) : GivenAway (sessionOperation manager m pMsg) := by
  unfold sessionOperation
  split
  · exact givenAway_push _ _
  · split
    · exact ⟨rfl, by simp [trace, Effect.accesses]⟩
    · exact givenAway_free

theorem GivenAway.endThread {out : List Effect} (h : GivenAway out) (n : Option Nat) :
    GivenAway (endThread n ++ out) := by
  have htrace : trace (Routing.endThread n ++ out) = trace out := by
    cases n <;> rfl
  exact ⟨htrace ▸ h.gone, htrace ▸ h.noAlloc⟩

theorem GivenAway.use {out : List Effect} (h : GivenAway out) :
    GivenAway (.use .handled :: out) where
  gone := (life_live_use _ _).trans h.gone
  noAlloc x hx := by
    rcases List.mem_cons.mp hx with hx | hx
    · cases hx
    · exact h.noAlloc x hx

theorem GivenAway.passedOn {s : CRTSPCom} {pMsg : ModMessage} {out : List Effect}
    (h : GivenAway out) (hstop : pMsg.action_rtsp ≠ .play_ctrl_stop) : PassedOn s pMsg out where
  once := life_live_iff.mp h.gone
  balanced x hx := absurd hx (h.noAlloc x)
  bye hbye := absurd hbye hstop

theorem not_passedOn_use {s : CRTSPCom} {pMsg : ModMessage} :
    ¬ PassedOn s pMsg [.use .handled] := fun h => by
  have hlive := life_live_iff.mpr h.once
  cases hlive

/-! ## `stop_all_play` -/

theorem on_of_mem_stopAllPlay {i : Nat} {walk : List Nat} {e : Event Msg}
    (h : e ∈ trace (stopAllPlay i walk)) :
    ∃ k, i ≤ k ∧ k < i + walk.length ∧ e.on = .fresh k := by
  induction walk generalizing i with
  | nil => cases h
  | cons n walk ih =>
    rw [List.length_cons]
    rw [stopAllPlay, trace_append] at h
    rcases List.mem_append.mp h with h | h
    · refine ⟨i, Nat.le_refl i, by omega, ?_⟩
      simp only [trace, Effect.accesses, List.flatMap_cons, List.flatMap_nil, List.append_nil,
        List.cons_append, List.nil_append, List.mem_cons, List.not_mem_nil, or_false] at h
      rcases h with rfl | rfl | rfl <;> rfl
    · obtain ⟨k, hle, hlt, hon⟩ := ih h
      exact ⟨k, by omega, by omega, hon⟩

theorem life_stopAllPlay_handled (i : Nat) (walk : List Nat) (l : Life) :
    life .handled l (trace (stopAllPlay i walk)) = l := by
  refine life_eq_self (fun e he hon => ?_) l
  obtain ⟨k, -, -, hk⟩ := on_of_mem_stopAllPlay he
  rw [hon] at hk
  cases hk

theorem life_stopAllPlay_fresh {i k : Nat} {walk : List Nat} (hle : i ≤ k)
    (hlt : k < i + walk.length) :
    life (.fresh k) .absent (trace (stopAllPlay i walk)) = .gone := by
  induction walk generalizing i with
  | nil =>
    rw [List.length_nil] at hlt
    omega
  | cons n walk ih =>
    rw [List.length_cons] at hlt
    rw [stopAllPlay, trace_append, life_append]
    by_cases hk : k = i
    · subst hk
      -- the messages behind it have larger numbers
      have hlater : ∀ e ∈ trace (stopAllPlay (k + 1) walk), e.on ≠ .fresh k := by
        intro e he hon
        obtain ⟨j, hj, -, hon'⟩ := on_of_mem_stopAllPlay he
        rw [hon] at hon'
        cases hon'
        omega
      rw [life_eq_self hlater]
      simp [trace, Effect.accesses, life, Life.step, Event.on, Life.next]
    · have hother : Msg.fresh i ≠ .fresh k := fun h => hk (Msg.fresh.inj h).symm
      have hearlier : ∀ e ∈ trace [.alloc (.fresh i), .use (.fresh i),
            .push (.session .sessionMgrLocal n) (.fresh i) (.rtsp .stop_all_play)],
          e.on ≠ .fresh k := by
        simp [trace, Effect.accesses, Event.on, hother]
      rw [life_eq_self hearlier]
      exact ih (by omega) (by omega)

theorem passedOn_stopAllPlay {s : CRTSPCom} {pMsg : ModMessage} {out : List Effect}
    (h : GivenAway out) (hother : ∀ e ∈ trace out, e.on = .handled) (walk : List Nat)
    (hstop : pMsg.action_rtsp ≠ .play_ctrl_stop) :
    PassedOn s pMsg (stopAllPlay 0 walk ++ out) where
  once := by
    rw [← life_live_iff, trace_append, life_append, life_stopAllPlay_handled]
    exact h.gone
  balanced x hx := by
    rw [trace_append] at hx ⊢
    rcases List.mem_append.mp hx with hx | hx
    · obtain ⟨k, hle, hlt, hon⟩ := on_of_mem_stopAllPlay hx
      have hfresh : x = .fresh k := hon
      subst hfresh
      rw [life_append, life_stopAllPlay_fresh hle hlt]
      refine life_eq_self (fun e he hon => ?_) _
      rw [hother e he] at hon
      cases hon
    · exact absurd hx (h.noAlloc x)
  bye hbye := absurd hbye hstop

theorem on_sessionOperation (manager : SessionMgr) (m : Map (BitVec 64) Nat) (pMsg : ModMessage) :
    ∀ e ∈ trace (sessionOperation manager m pMsg), e.on = .handled := by
  unfold sessionOperation
  split
  · simp [trace, Effect.accesses, Event.on]
  · split <;> simp [trace, Effect.accesses, Event.on]

/-! ## All messages -/

/-- A call that a manager is in charge of: its control messages find a thread, or are freed, or
are a stop for the SDK module. -/
theorem passedOn_sessionOperation {s : CRTSPCom} {pMsg : ModMessage} (manager : SessionMgr)
    {m : Map (BitVec 64) Nat}
    (hm : pMsg.nCallDialogID ∈ m → HasSession s pMsg.nCallDialogID) :
    PassedOn s pMsg (sessionOperation manager m pMsg) where
  once := life_live_iff.mp (givenAway_sessionOperation manager m pMsg).gone
  balanced x hx := absurd hx ((givenAway_sessionOperation manager m pMsg).noAlloc x)
  bye hbye hnone := by
    have hlookup : m.lookup pMsg.nCallDialogID = none :=
      Finmap.lookup_eq_none.mpr fun hmem => hnone (hm hmem)
    rw [sessionOperation, hlookup, if_pos hbye]
    simp

theorem passedOn_processVideoSession_iff {s : CRTSPCom} {pMsg : ModMessage} {walk : List Nat}
    (h : pMsg.action_rtsp = .play_ctrl_start ∨ pMsg.action_rtsp = .play_ctrl_stop ∨
      pMsg.action_rtsp = .play_ctrl) :
    PassedOn s pMsg (processVideoSession s pMsg walk).2 ↔
      pMsg.nCallDialogID ∈ s.m_oMapCidSessionMgr := by
  rw [← Finmap.lookup_isSome]
  unfold processVideoSession
  split
  case h_1 hmgr =>
    rw [hmgr]
    refine iff_of_true ?_ rfl
    have hout := @passedOn_sessionOperation s pMsg .sessionMgrLocal
      s.m_oSessionMgrLocal Or.inl
    rcases h with h | h | h <;> simpa only [localOperation, h] using hout
  case h_2 hmgr =>
    rw [hmgr]
    refine iff_of_true ?_ rfl
    have hout := @passedOn_sessionOperation s pMsg .thirdCallSessionMgr
      s.m_oThirdCallSessionMgr fun hmem => Or.inr (Or.inl hmem)
    rcases h with h | h | h <;> simpa only [thirdOperation, h] using hout
  case h_3 hmgr =>
    rw [hmgr]
    refine iff_of_true ?_ rfl
    have hout := @passedOn_sessionOperation s pMsg .broadCastCallSessionMgr
      s.m_oBroadCastCallSessionMgr fun hmem => Or.inr (Or.inr hmem)
    rcases h with h | h | h
    · -- a start is none of this manager's
      have hfree : PassedOn s pMsg _ := givenAway_free.passedOn (by rw [h]; decide)
      simpa only [broadcastOperation, h] using hfree
    · simpa only [broadcastOperation, h] using hout
    · simpa only [broadcastOperation, h] using hout
  case h_4 hmgr =>
    rw [hmgr]
    exact iff_of_false not_passedOn_use Bool.false_ne_true

theorem searchGUIDForPlay_eq (linked : Option Linked) (eOperateType : OtRtsp) :
    (Unplayable linked ∧
        searchGUIDForPlay linked eOperateType = (false, [.use .handled, .free .handled])) ∨
      ¬ Unplayable linked ∧ searchGUIDForPlay linked eOperateType =
        (true, [.use .handled] ++ if eOperateType = .play_broadcast then
          [.use .handled, .push .sipcom .handled .notify_reponse, .use .handled] else []) := by
  unfold searchGUIDForPlay Unplayable
  cases linked with
  | none => exact Or.inl ⟨nofun, rfl⟩
  | some l =>
    by_cases h : l.strNVRIP = [] ∨ l.strStreamerGUID = []
    · exact Or.inl ⟨fun l' hl => Option.some.inj hl ▸ h, if_pos h⟩
    · exact Or.inr ⟨fun hall => h (hall l rfl), if_neg h⟩

theorem passedOn_play_iff {s : CRTSPCom} {around : Around} {pMsg : ModMessage}
    (h : pMsg.action_rtsp = .play_no_sdp ∨ pMsg.action_rtsp = .play_broadcast ∨
      pMsg.action_rtsp = .play_with_sdp) :
    PassedOn s pMsg (handleMsg s around pMsg).2 ↔
      (pMsg.action_rtsp = .play_broadcast → Unplayable around.linked) := by
  have hout : (handleMsg s around pMsg).2 =
      let search := searchGUIDForPlay around.linked pMsg.action_rtsp
      search.2 ++ if search.1 then
        (startPlaySession s pMsg pMsg.action_rtsp around.walk).2 else [] := by
    rcases h with h | h | h
    all_goals
      simp only [handleMsg, h]
      split
      · rfl
      · exact (List.append_nil _).symm
  have hstop : pMsg.action_rtsp ≠ .play_ctrl_stop := by
    rcases h with h | h | h <;> rw [h] <;> decide
  rcases searchGUIDForPlay_eq around.linked pMsg.action_rtsp with
    ⟨hnone, hsearch⟩ | ⟨hsome, hsearch⟩
  · rw [hout, hsearch]
    exact iff_of_true (givenAway_free.passedOn hstop) fun _ => hnone
  · rw [hout, hsearch]
    rcases h with h | h | h
    · refine iff_of_true ?_ fun hb => by rw [h] at hb; cases hb
      have hstart := ((givenAway_push (.session .thirdCallSessionMgr s.threads)
        (.rtsp .play_no_sdp)).endThread
          (s.m_oThirdCallSessionMgr.lookup pMsg.nCallDialogID)).use.passedOn (s := s) hstop
      simpa [h, startPlaySession, thirdOperation, startThread] using hstart
    · -- the message goes to the SIP module and to the thread
      refine iff_of_false (fun hpassed => ?_) fun hb => hsome (hb h)
      have hgone := life_live_iff.mpr hpassed.once
      simp [h, startPlaySession, broadcastOperation, startThread, trace, Effect.accesses, life,
        Life.step, Event.on, Life.next] at hgone
    · refine iff_of_true ?_ fun hb => by rw [h] at hb; cases hb
      have hstart := ((givenAway_push (.session .sessionMgrLocal s.threads)
        (.rtsp .play_with_sdp)).endThread
          (s.m_oSessionMgrLocal.lookup pMsg.nCallDialogID)).use.passedOn (s := s) hstop
      simpa [h, startPlaySession, localOperation, startThread] using hstart

/-- **A message is put in one queue or freed exactly when it does not fall into one of the branches
that forget it or push it twice.** -/
theorem passedOn_iff (s : CRTSPCom) (around : Around) (pMsg : ModMessage) :
    PassedOn s pMsg (handleMsg s around pMsg).2 ↔ Cared s around pMsg := by
  cases h : pMsg.action_rtsp with
  | default_none => simpa [handleMsg, Cared, h] using not_passedOn_use
  | play_ctrl_start =>
    simpa [handleMsg, Cared, h] using passedOn_processVideoSession_iff (Or.inl h)
  | play_ctrl_start_broadcast => simpa [handleMsg, Cared, h] using not_passedOn_use
  | play_broadcast =>
    simpa [Cared, h] using @passedOn_play_iff s around pMsg (Or.inr (Or.inl h))
  | play_ctrl =>
    simpa [handleMsg, Cared, h] using passedOn_processVideoSession_iff (Or.inr (Or.inr h))
  | play_ctrl_stop =>
    simpa [handleMsg, Cared, h] using passedOn_processVideoSession_iff (Or.inr (Or.inl h))
  | play_no_sdp =>
    simpa [Cared, h] using @passedOn_play_iff s around pMsg (Or.inl h)
  | play_with_sdp =>
    simpa [Cared, h] using @passedOn_play_iff s around pMsg (Or.inr (Or.inr h))
  | record_start =>
    have hstop : pMsg.action_rtsp ≠ .play_ctrl_stop := by rw [h]; decide
    simp only [handleMsg, Cared, h, recordOperation, ← Finmap.lookup_eq_none]
    split
    case h_1 hlookup =>
      exact iff_of_true ((givenAway_push (.record s.threads) _).passedOn hstop) hlookup
    case h_2 hstop' _ => cases hstop'
    case h_3 hnone _ => exact iff_of_false not_passedOn_use fun hlookup => hnone rfl hlookup
  | record_stop =>
    have hstop : pMsg.action_rtsp ≠ .play_ctrl_stop := by rw [h]; decide
    simp only [handleMsg, Cared, h, recordOperation, ← Finmap.lookup_isSome]
    split
    case h_1 hstart _ => cases hstart
    case h_2 hlookup =>
      refine iff_of_true ((givenAway_push (.record _) _).passedOn hstop) ?_
      rw [hlookup]
      rfl
    case h_3 _ hnone =>
      refine iff_of_false not_passedOn_use fun hsome => ?_
      obtain ⟨n, hn⟩ := Option.isSome_iff_exists.mp hsome
      exact hnone n rfl hn
  | stop_all_play =>
    have hstop : pMsg.action_rtsp ≠ .play_ctrl_stop := by rw [h]; decide
    simp only [handleMsg, Cared, h, localOperation, iff_true]
    exact passedOn_stopAllPlay (givenAway_sessionOperation _ _ pMsg) (on_sessionOperation _ _ pMsg)
      around.walk hstop

theorem stepPassesOn_iff (s : CRTSPCom) (i : Step) : StepPassesOn s i ↔ StepCares s i := by
  cases i with
  | msg around pMsg => exact passedOn_iff s around pMsg
  | removeKey => exact Iff.rfl
  | removeRecord => exact Iff.rfl

/-- **Every message of a run is passed on exactly when none falls into such a branch.** -/
theorem passedOn_run_iff (s : CRTSPCom) (is : List Step) :
    (∀ c ∈ calls step s is, StepPassesOn c.1 c.2) ↔ ∀ c ∈ calls step s is, StepCares c.1 c.2 :=
  forall₂_congr fun c _ => stepPassesOn_iff c.1 c.2

/-- A stop for a call that was never started. -/
theorem unknown_stop_lost : ¬ ∀ c ∈ calls step {}
    [.msg ⟨none, []⟩ ⟨.play_ctrl_stop, 7, str "34020000001320000001", 0⟩],
    StepPassesOn c.1 c.2 := by
  intro h
  have hpassed := (passedOn_iff {} _ _).mp (h _ List.mem_cons_self)
  exact Finmap.notMem_empty hpassed

end GB28181.RTSPCom.Routing
