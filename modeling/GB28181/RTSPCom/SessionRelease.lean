import GB28181.Base.Ownership
import GB28181.RTSPCom.RTSPSession

/-!
# The release of a session (`RTSPCom/RTSPSessionBuilder.cpp`, `RTSPCom/RTSPTransMgrBase.cpp`)

The thread of a session has it created, runs the event loop and destroys it.  Its trace lists the
accesses to the blocks of the pool, and those through a null pointer; of a session the fields that
the loop looks at are kept.  The pool and the decoder of SDP texts are not part of the program.

* `threadProc` — a thread, from the message it is started for to `ThreadDestroy`;
* `life_threadEventLoop` — the loop leaves the block alone but for a stop message, which frees it;
* `released_iff` — **every thread uses a null session**, and one that had a session would free it
  once exactly when no stop message is handled.
-/

set_option autoImplicit false

namespace GB28181.RTSPCom.Release

open GB28181.Base GB28181.RTSPCom

/-! ## Data -/

/-- A `CRTSPSession *`: a block of the pool, or null. -/
abbrev SessionPtr := Option Nat

inductive Fault where
  /-- A null session is read or written. -/
  | nullSession
  /-- `front` of an empty `media_list`. -/
  | noMedia
  | header (e : HeaderFault)
deriving DecidableEq

/-- What a thread does; the state holds the fields of its session. -/
abbrev Thread (α : Type) := Proc TransSessionMgr (Own.Event SessionPtr) Fault α

/-- `mod_op_t::ot_rtsp`. -/
inductive OtRtsp where
  | default_none
  | play_ctrl_start
  | play_ctrl_start_broadcast
  | play_broadcast
  | play_ctrl
  | play_ctrl_stop
  | play_no_sdp
  | play_with_sdp
  | record_start
  | record_stop
  | stop_all_play
deriving DecidableEq

def OtRtsp.number : OtRtsp → Nat
  | .default_none => 0
  | .play_ctrl_start => 400
  | .play_ctrl_start_broadcast => 401
  | .play_broadcast => 402
  | .play_ctrl => 403
  | .play_ctrl_stop => 404
  | .play_no_sdp => 405
  | .play_with_sdp => 406
  | .record_start => 407
  | .record_stop => 408
  | .stop_all_play => 409

/-- The `CModMessage` a thread is started for: its action and the text in its play data. -/
structure ModMessage where
  action_rtsp : OtRtsp
  playData : Option CStr

/-- What `decode_sdp` leaves: the session name, and port and transport of each media line. -/
structure SDPStack where
  session_name : CStr
  media_list : List (CStr × CStr)

/-- What `CreateLocalCall` uses from outside of the program. -/
structure Env where
  /-- The block `alloc` takes from the pool, if one is left. -/
  block : Option Nat
  /-- `alloc` writes to the address it is given. -/
  writes : Bool
  decode_sdp : CStr → SDPStack

/-! ## Creation -/

def access (pSession : SessionPtr) : Thread Unit := do
  Proc.emit (.use pSession)
  if pSession = none then Proc.lift (.error .nullSession) else pure ()

/-- The session is read or written under a condition. -/
def accessIf (c : Bool) (pSession : SessionPtr) : Thread Unit :=
  if c then access pSession else pure ()

/-- The accesses of an effect: `Free` gives the block back. -/
def effectOn (pSession : SessionPtr) : Effect → Except Fault (List (Own.Event SessionPtr))
  | .free => .ok [.give pSession]
  | _ => .ok []

/-- A function is called on the session. -/
def callOn {α : Type} (pSession : SessionPtr) (f : Call α) : Thread α := do
  access pSession
  Proc.embed id (fun _ m => m) (fun _ => effectOn pSession) Fault.header f

def takeBlock : Option Nat → Thread Unit
  | some b => Proc.emit (.take (some b))
  | none => pure ()

/-- `m_oSessionMemMgr.alloc`; the block it takes goes to the address `ppUnit`. -/
def alloc (env : Env) (ppUnit : SessionPtr) : Thread Unit := do
  takeBlock env.block
  accessIf env.writes ppUnit

/-- `CreateRealRTSPSession`, which hands the pool not the address of the pointer but the pointer
itself. -/
def createRealRTSPSession (env : Env) (pSession : SessionPtr) : Thread SessionPtr := do
  alloc env pSession
  if pSession = none then pure none
  else do
    callOn pSession (setStatus .rs_null)
    pure pSession

def mediaNames : List CStr := [str "play", str "playback", str "Download", str "talk"]

def createLocalCall (env : Env) (pUnifiedMsg : ModMessage) : Thread SessionPtr := do
  let pSession ← createRealRTSPSession env none
  if OtRtsp.record_start.number > pUnifiedMsg.action_rtsp.number then
    match pUnifiedMsg.playData with
    | none => pure none
    | some szBuf => do
      let sdpStack := env.decode_sdp szBuf
      -- `eMediaActionT`
      accessIf (mediaNames.any (stricmpEq sdpStack.session_name)) pSession
      -- `szStartTime`, `szEndTime`, `szClientIP`
      access pSession
      match sdpStack.media_list with
      | [] => Proc.lift (.error .noMedia)
      | _ :: _ => do
        -- `szClientPort` and what follows
        access pSession
        pure pSession
  else pure pSession

/-- A creation that begins with a line of the log. -/
def createLogged (env : Env) : Thread SessionPtr := do
  let pSession : SessionPtr := none
  access pSession
  let pSession ← createRealRTSPSession env pSession
  -- `szURL`
  access pSession
  pure pSession

def createThirdCall (env : Env) : Thread SessionPtr := createLogged env

def createBroadcast (env : Env) : Thread SessionPtr := createLogged env

def create (env : Env) (pUnifiedMsg : ModMessage) : Thread SessionPtr :=
  if pUnifiedMsg.action_rtsp = .play_no_sdp then createThirdCall env
  else if pUnifiedMsg.action_rtsp = .play_broadcast then createBroadcast env
  else createLocalCall env pUnifiedMsg

def destroy (pSession : SessionPtr) : Thread Unit :=
  if pSession ≠ none then do
    -- `DestroyRtspClient`
    access pSession
    Proc.emit (.give pSession)
  else pure ()

/-! ## The event loop -/

def stopsSession : CtrlMsg → Bool
  | .play_ctrl_stop => true
  | .stop_all_play => true
  | _ => false

inductive Wait where
  /-- The text of a read; another network event has none. -/
  | network (szBuf : Option CStr)
  /-- A message of the queue, if it is still there. -/
  | queue (pMsg : Option CtrlMsg)
  | timeout

def Wait.stops : Wait → Bool
  | .queue (some pMsg) => stopsSession pMsg
  | _ => false

/-- One turn of the loop: the numbers other sessions took before, the time of the poll, what the
wait brings, and when. -/
structure Turn where
  others : Nat
  poll : Nat
  now : Nat
  wait : Wait

/-- `ProcessNetworkEvent` or `ProcessMsgQueueEvent`, of which no result ends the loop. -/
def processEvent (pSession : SessionPtr) (now : Nat) : Wait → Thread Unit
  | .network none => access pSession
  | .network (some szBuf) => callOn pSession (processNetworkEvent now szBuf)
  | .queue none => pure ()
  | .queue (some pMsg) => do
    callOn pSession (processMsgQueueEvent now pMsg)
    -- `eStatus` is written again, and the log reads the session
    accessIf (stopsSession pMsg) pSession
  | .timeout => pure ()

/-- The turns of `ThreadEventLoop` up to the poll that ends it; if none does, the exit event or a
failed wait ends the turn after the last. -/
def threadEventLoop (pSession : SessionPtr) (last : Nat) : List Turn → Thread Unit
  | [] => do
    let _ ← callOn pSession (timeOutProc last)
    pure ()
  | t :: turns => do
    Proc.update (takeCSeq t.others)
    let nResult ← callOn pSession (timeOutProc t.poll)
    if nResult ≠ 0 then pure ()
    else do
      processEvent pSession t.now t.wait
      threadEventLoop pSession last turns

/-- What a thread meets once it has a session. -/
structure Run where
  start : Nat
  turns : List Turn
  last : Nat

/-- `ThreadDestroy`; `pThreadInfo` is there. -/
def threadDestroy (pSession : SessionPtr) : Thread Unit := do
  -- two lines of the log
  access pSession
  access pSession
  destroy pSession

/-- What `ThreadProc` does with a session, if it has one. -/
def serve (pSession : SessionPtr) (run : Run) : Thread Unit :=
  if pSession ≠ none then do
    callOn pSession (options run.start)
    -- a line of the log, and `GetNetworkEventHandle`
    access pSession
    access pSession
    threadEventLoop pSession run.last run.turns
  else pure ()

/-- `ThreadProc` behind `Create`. -/
def threadMain (pSession : SessionPtr) (run : Run) : Thread Unit := do
  serve pSession run
  threadDestroy pSession

/-- The session for the message; it may not have come within a second. -/
def createFor (env : Env) : Option ModMessage → Thread SessionPtr
  | some pMsg => create env pMsg
  | none => pure none

def threadProc (env : Env) (pMsg : Option ModMessage) (run : Run) : Thread Unit := do
  let pSession ← createFor env pMsg
  threadMain pSession run

/-! ## What should hold -/

/-- No null session is used, and a block that was taken is given back once and left alone then. -/
structure Released (tr : List (Own.Event SessionPtr)) : Prop where
  notNull : ∀ e ∈ tr, e.on ≠ none
  balanced : Own.Balanced tr

/-- The turns whose event the loop comes to, from a state of the session. -/
def handled (pSession : SessionPtr) (m : TransSessionMgr) : List Turn → List Turn
  | [] => []
  | t :: turns =>
    let polled := callOn pSession (timeOutProc t.poll) (takeCSeq t.others m)
    if polled.val = .ok 0 then
      let event := processEvent pSession t.now t.wait polled.state
      t :: if event.val = .ok () then handled pSession event.state turns else []
    else []

/-! ## Creation fails -/

/-- A thread uses a null session, or goes on with a value as `P` says. -/
def Yields {α : Type} (P : α → Prop) (x : Thread α) : Prop :=
  ∀ m, .use none ∈ (x m).out ∨ ∃ a, (x m).val = .ok a ∧ P a

section Yields

variable {α β : Type} {P : α → Prop} {Q : β → Prop}

theorem yields_pure {a : α} (h : P a) : Yields P (pure a) := fun _ => Or.inr ⟨a, rfl, h⟩

theorem yields_emit (e : Own.Event SessionPtr) :
    Yields (fun _ => True) (Proc.emit e : Thread Unit) := fun _ => Or.inr ⟨(), rfl, trivial⟩

theorem yields_access_none (P : Unit → Prop) : Yields P (access none) :=
  fun _ => Or.inl List.mem_cons_self

theorem yields_accessIf_none (c : Bool) : Yields (fun _ => True) (accessIf c none) := by
  unfold accessIf
  split
  · exact yields_access_none _
  · exact yields_pure trivial

theorem yields_bind {x : Thread α} {f : α → Thread β} (hx : Yields P x)
    (hf : ∀ a, P a → Yields Q (f a)) : Yields Q (x >>= f) := by
  intro m
  rcases hx m with h | ⟨a, hval, ha⟩
  · left
    rw [Proc.run_bind]
    generalize x m = outcome at h
    obtain ⟨out, m', v⟩ := outcome
    cases v with
    | error e => exact h
    | ok a => exact List.mem_append_left _ h
  · rw [Proc.run_bind_of_ok hval]
    rcases hf a ha (x m).state with h | h
    · exact Or.inl (List.mem_append_right _ h)
    · exact Or.inr h

end Yields

theorem yields_alloc (env : Env) : Yields (fun _ => True) (alloc env none) := by
  refine yields_bind (P := fun _ => True) ?_ fun _ _ => yields_accessIf_none _
  cases env.block with
  | none => exact yields_pure trivial
  | some b => exact yields_emit _

theorem yields_createRealRTSPSession (env : Env) :
    Yields (· = none) (createRealRTSPSession env none) := by
  refine yields_bind (yields_alloc env) fun _ _ => ?_
  rw [if_pos rfl]
  exact yields_pure rfl

theorem yields_createLocalCall (env : Env) (pUnifiedMsg : ModMessage) :
    Yields (· = none) (createLocalCall env pUnifiedMsg) := by
  refine yields_bind (yields_createRealRTSPSession env) ?_
  rintro pSession rfl
  split
  swap
  · exact yields_pure rfl
  cases pUnifiedMsg.playData with
  | none => exact yields_pure rfl
  | some szBuf =>
    refine yields_bind (yields_accessIf_none _) fun _ _ => ?_
    exact yields_bind (yields_access_none fun _ => False) fun _ h => h.elim

theorem yields_createLogged (env : Env) : Yields (· = none) (createLogged env) :=
  yields_bind (yields_access_none fun _ => False) fun _ h => h.elim

/-- **No message brings a session.** -/
theorem yields_create (env : Env) (pUnifiedMsg : ModMessage) :
    Yields (· = none) (create env pUnifiedMsg) := by
  unfold create
  split
  · exact yields_createLogged env
  · split
    · exact yields_createLogged env
    · exact yields_createLocalCall env pUnifiedMsg

/-- **Every thread comes to use a null session.** -/
theorem null_used (env : Env) (pMsg : Option ModMessage) (run : Run) (m : TransSessionMgr) :
    .use none ∈ (threadProc env pMsg run m).out := by
  have h : Yields (fun _ => False) (threadProc env pMsg run) := by
    refine yields_bind (P := (· = none)) ?_ ?_
    · cases pMsg with
      | none => exact yields_pure rfl
      | some pMsg => exact yields_create env pMsg
    · rintro pSession rfl
      refine yields_bind (P := fun _ => True) (yields_pure trivial) fun _ _ => ?_
      exact yields_bind (yields_access_none fun _ => False) fun _ h => h.elim
  exact (h m).resolve_right fun ⟨_, _, h⟩ => h

/-! ## What the loop does to a session -/

/-- The session has not been torn down. -/
def Alive (m : TransSessionMgr) : Prop := m.session.eStatus ≠ .rs_null

/-- The call frees nothing, and a session that lives goes on living. -/
structure Calm {α : Type} (f : Call α) : Prop where
  emits : Proc.Emits (· ≠ .free) f
  keeps : Proc.Preserves Alive f

section Calm

variable {α β : Type}

theorem calm_pure (a : α) : Calm (pure a : Call α) :=
  ⟨Proc.emits_pure a, Proc.preserves_pure a⟩

theorem calm_get : Calm (Proc.get : Call TransSessionMgr) := ⟨Proc.emits_get, Proc.preserves_get⟩

theorem calm_lift (x : Except HeaderFault α) : Calm (Proc.lift x : Call α) :=
  ⟨Proc.emits_lift x, Proc.preserves_lift x⟩

theorem calm_emit {e : Effect} (h : e ≠ .free) : Calm (Proc.emit e : Call Unit) :=
  ⟨Proc.emits_emit h, Proc.preserves_emit e⟩

theorem calm_send (r : Request) : Calm (Proc.emit (.send r) : Call Unit) :=
  calm_emit fun h => by cases h

theorem calm_update {f : TransSessionMgr → TransSessionMgr} (h : ∀ m, Alive m → Alive (f m)) :
    Calm (Proc.update f : Call Unit) := ⟨Proc.emits_update f, Proc.preserves_update h⟩

theorem calm_write {f : CRTSPSession → CRTSPSession}
    (h : ∀ s : CRTSPSession, s.eStatus ≠ .rs_null → (f s).eStatus ≠ .rs_null) :
    Calm (write f) := calm_update fun m => h m.session

theorem calm_setStatus {eStatus : RTSPStatus} (h : eStatus ≠ .rs_null) :
    Calm (setStatus eStatus) := calm_write fun _ _ => h

theorem calm_bind {f : Call α} {g : α → Call β} (hf : Calm f) (hg : ∀ a, Calm (g a)) :
    Calm (f >>= g) :=
  ⟨Proc.emits_bind hf.emits fun a => (hg a).emits,
    Proc.preserves_bind hf.keeps fun a => (hg a).keeps⟩

theorem calm_ite {c : Prop} [Decidable c] {f g : Call α} (hf : Calm f) (hg : Calm g) :
    Calm (if c then f else g) := by
  split
  · exact hf
  · exact hg

theorem calm_guarded {c : Prop} [Decidable c] {f : Call Unit} {g : Call α} (hf : Calm f)
    (hg : Calm g) : Calm (if c then f >>= fun _ => g else g) :=
  calm_ite (calm_bind hf fun _ => hg) hg

end Calm

theorem calm_generateCSeq : Calm generateCSeq :=
  calm_bind (calm_update fun _ h => h) fun _ => calm_bind calm_get fun _ => calm_pure _

theorem calm_setTimeout (now : Nat) : Calm (setTimeout now) := calm_write fun _ h => h

theorem calm_request (now : Nat) {method : CStr} {eStatus : RTSPStatus} (h : eStatus ≠ .rs_null) :
    Calm (do
      let strCSeq ← generateCSeq
      setTimeout now
      Proc.emit (.send ⟨method, strCSeq, true⟩)
      setStatus eStatus) :=
  calm_bind calm_generateCSeq fun _ => calm_bind (calm_setTimeout now) fun _ =>
    calm_bind (calm_send _) fun _ => calm_setStatus h

theorem calm_playCtrl (timed : Bool) : Calm (playCtrl timed) :=
  calm_bind calm_generateCSeq fun _ => calm_bind (calm_write fun _ h => h) fun _ => calm_send _

theorem calm_play (now : Nat) : Calm (play now) :=
  calm_bind (calm_setTimeout now) fun _ => calm_bind (calm_playCtrl true) fun _ =>
    calm_bind (calm_setStatus (by decide)) fun _ => calm_write fun _ h => h

theorem calm_pause : Calm pause :=
  calm_bind calm_generateCSeq fun _ => calm_bind (calm_send _) fun _ =>
    calm_setStatus (by decide)

theorem calm_startKeepalive (now : Nat) : Calm (startKeepalive now) := by
  have hget : Calm (getParameter now) :=
    calm_bind calm_generateCSeq fun _ => calm_bind (calm_write fun _ h => h) fun _ =>
      calm_bind (calm_send _) fun _ => calm_setTimeout now
  exact calm_bind hget fun _ => calm_bind (calm_write fun _ h => h) fun _ =>
    calm_setStatus (by decide)

theorem calm_sdpResponse : Calm sdpResponse :=
  calm_bind calm_get fun _ => calm_ite (calm_emit (by decide)) (calm_pure ())

theorem calm_handler (now : Nat) (h : Handler) : Calm (handler now h) := by
  cases h with
  | Describe => exact calm_request now (by decide)
  | Setup => exact calm_request now (by decide)
  | SDPResponse => exact calm_sdpResponse
  | StartKeepalive => exact calm_startKeepalive now
  | SetParameter => exact calm_emit (by decide)

theorem calm_handleMessage (now : Nat) (eMsgType : RTSPMsgType) (msg : RTSPUnknownMsg) :
    Calm (handleMessage now eMsgType msg) := by
  unfold handleMessage
  refine calm_ite (calm_pure ()) (calm_ite (calm_emit (by decide)) ?_)
  refine calm_guarded (calm_write fun s h => by rwa [matchCSeq_eStatus]) ?_
  -- the session ID is stored, and a function of the table is called
  refine calm_bind (calm_write fun _ h => h) fun _ => calm_bind calm_get fun m => ?_
  cases pfnRTSPProc eMsgType m.session.eStatus with
  | none => exact calm_pure ()
  | some h => exact calm_bind (calm_emit fun h => by cases h) fun _ => calm_handler now h

theorem calm_processNetworkEvent (now : Nat) (szBuf : CStr) :
    Calm (processNetworkEvent now szBuf) :=
  calm_bind (calm_lift _) fun _ => calm_handleMessage now _ _

theorem alive_takeCSeq (n : Nat) (m : TransSessionMgr) (h : Alive m) : Alive (takeCSeq n m) := h

theorem calm_playControl (c : Control) : Calm (playControl c) := by
  cases c with
  | pause => exact calm_pause
  | play range others =>
    refine calm_bind (calm_playCtrl false) fun _ => calm_ite ?_ (calm_pure ())
    exact calm_bind (calm_update (alive_takeCSeq others)) fun _ => calm_playCtrl false
  | other => exact calm_pure ()

/-- Of the messages of the queue only the stop messages tear the session down. -/
theorem calm_processMsgQueueEvent (now : Nat) {pMsg : CtrlMsg} (h : stopsSession pMsg = false) :
    Calm (processMsgQueueEvent now pMsg) := by
  refine calm_bind calm_get fun m => ?_
  cases pMsg with
  | play_ctrl_start => exact calm_ite (calm_play now) (calm_pure ())
  | play_ctrl_stop => cases h
  | stop_all_play => cases h
  | play_ctrl c => exact calm_playControl c
  | other => exact calm_pure ()

theorem calm_timeOutProc (now : Nat) : Calm (timeOutProc now) := by
  refine calm_bind calm_get fun m => calm_ite (calm_pure 0) (calm_ite (calm_pure 1) ?_)
  exact calm_ite (calm_bind (calm_startKeepalive now) fun _ => calm_pure 0) (calm_pure 0)

theorem timeOutProc_returns (now : Nat) (m : TransSessionMgr) :
    ∃ n, (timeOutProc now m).val = .ok n := by
  unfold timeOutProc
  rw [Proc.run_get_bind]
  split
  · exact ⟨0, rfl⟩
  · split
    · exact ⟨1, rfl⟩
    · split
      · exact ⟨0, rfl⟩
      · exact ⟨0, rfl⟩

/-! ## Calls on a session -/

theorem translate_effectOn (pSession : SessionPtr) {out : List Effect}
    (h : ∀ e ∈ out, e ≠ .free) : Proc.translate (effectOn pSession) out = ([], none) := by
  induction out with
  | nil => rfl
  | cons e out ih =>
    rw [List.forall_mem_cons] at h
    have he : effectOn pSession e = .ok [] := by
      cases e <;> first | rfl | exact absurd rfl h.1
    rw [Proc.translate, he]
    dsimp only
    rw [ih h.2]
    rfl

theorem run_callOn {α : Type} {f : Call α} (hf : Calm f) (b : Nat) (m : TransSessionMgr) :
    callOn (some b) f m =
      ⟨[.use (some b)], (f m).state, (f m).val.mapError Fault.header⟩ := by
  have hout := translate_effectOn (some b) (hf.emits m)
  have haccess : access (some b) m = ⟨[.use (some b)], m, .ok ()⟩ := rfl
  rw [callOn, Proc.run_bind, haccess]
  simp only [Proc.embed, id_eq, hout, List.append_nil]

theorem Wait.stops_iff {w : Wait} :
    w.stops = true ↔ ∃ pMsg, w = .queue (some pMsg) ∧ stopsSession pMsg = true := by
  constructor
  · intro h
    rcases w with szBuf | (_ | pMsg) | _
    · cases h
    · cases h
    · exact ⟨pMsg, rfl, h⟩
    · cases h
  · rintro ⟨pMsg, rfl, h⟩
    exact h

theorem run_processEvent_stop {pMsg : CtrlMsg} (h : stopsSession pMsg = true) (b now : Nat)
    {m : TransSessionMgr} (hm : Alive m) :
    (processEvent (some b) now (.queue (some pMsg)) m).out =
      [.use (some b), .give (some b), .use (some b)] := by
  obtain ⟨n, eStatus, szSessionID, szCSeq, keepalive, timeout⟩ := m
  cases pMsg with
  | play_ctrl_start => cases h
  | play_ctrl_stop =>
    cases eStatus <;> first | rfl | exact absurd rfl hm
  | stop_all_play =>
    cases eStatus <;> first | rfl | exact absurd rfl hm
  | play_ctrl c => cases h
  | other => cases h

theorem life_processEvent_stop {w : Wait} (hw : w.stops = true) (b now : Nat)
    {m : TransSessionMgr} (hm : Alive m) :
    Own.life (some b) .live (processEvent (some b) now w m).out = .broken := by
  obtain ⟨pMsg, rfl, hpMsg⟩ := Wait.stops_iff.mp hw
  rw [run_processEvent_stop hpMsg b now hm, Own.life_live_use, Own.life_live_give,
    Own.life_gone_use]

theorem life_processEvent {w : Wait} (hw : w.stops = false) (b now : Nat) {m : TransSessionMgr}
    (hm : Alive m) :
    Own.life (some b) .live (processEvent (some b) now w m).out = .live ∧
      Alive (processEvent (some b) now w m).state := by
  cases w with
  | network szBuf =>
    cases szBuf with
    | none => exact ⟨Own.life_live_use _ _, hm⟩
    | some szBuf =>
      have hcalm := calm_processNetworkEvent now szBuf
      rw [processEvent, run_callOn hcalm]
      exact ⟨Own.life_live_use _ _, hcalm.keeps m hm⟩
  | queue pMsg =>
    cases pMsg with
    | none => exact ⟨rfl, hm⟩
    | some pMsg =>
      have hstop : stopsSession pMsg = false := hw
      have hcalm := calm_processMsgQueueEvent now hstop
      rw [processEvent, hstop, Proc.run_bind, run_callOn hcalm]
      cases (processMsgQueueEvent now pMsg m).val with
      | error e => exact ⟨Own.life_live_use _ _, hcalm.keeps m hm⟩
      | ok a => exact ⟨Own.life_live_use _ _, hcalm.keeps m hm⟩
  | timeout => exact ⟨rfl, hm⟩

/-- One turn: the poll, and the event if the poll does not end the loop. -/
theorem run_threadEventLoop_cons {b : Nat} {t : Turn} {m : TransSessionMgr} {n : Int}
    (hn : (timeOutProc t.poll (takeCSeq t.others m)).val = .ok n) (last : Nat)
    (turns : List Turn) :
    (threadEventLoop (some b) last (t :: turns) m).out =
      .use (some b) :: if n ≠ 0 then [] else
        ((processEvent (some b) t.now t.wait >>= fun _ => threadEventLoop (some b) last turns)
          (timeOutProc t.poll (takeCSeq t.others m)).state).out := by
  have hloop : threadEventLoop (some b) last (t :: turns) m =
      (callOn (some b) (timeOutProc t.poll) >>= fun nResult =>
        if nResult ≠ 0 then pure ()
        else do
          processEvent (some b) t.now t.wait
          threadEventLoop (some b) last turns) (takeCSeq t.others m) := rfl
  rw [hloop, Proc.run_bind, run_callOn (calm_timeOutProc t.poll), hn]
  by_cases hzero : n ≠ 0
  · simp only [Except.mapError, if_pos hzero]
    rfl
  · simp only [Except.mapError, if_neg hzero]
    rfl

theorem handled_cons {b : Nat} {t : Turn} {m : TransSessionMgr} {n : Int}
    (hn : (timeOutProc t.poll (takeCSeq t.others m)).val = .ok n) (turns : List Turn) :
    handled (some b) m (t :: turns) =
      if n ≠ 0 then [] else
        let event := processEvent (some b) t.now t.wait
          (timeOutProc t.poll (takeCSeq t.others m)).state
        t :: if event.val = .ok () then handled (some b) event.state turns else [] := by
  rw [handled, run_callOn (calm_timeOutProc t.poll), hn]
  by_cases hzero : n = 0
  · rw [if_neg (not_not_intro hzero), hzero]
    exact if_pos rfl
  · have hval : (Except.ok n : Except HeaderFault Int).mapError Fault.header ≠ .ok 0 :=
      fun h => hzero (Except.ok.inj h)
    rw [if_pos hzero]
    exact if_neg hval

/-- **The loop leaves the block alone** but for a stop message, after which it is lost. -/
theorem life_threadEventLoop (b last : Nat) {m : TransSessionMgr} (hm : Alive m)
    (turns : List Turn) :
    Own.life (some b) .live (threadEventLoop (some b) last turns m).out =
      if (handled (some b) m turns).any (·.wait.stops) then .broken else .live := by
  induction turns generalizing m with
  | nil =>
    obtain ⟨n, hn⟩ := timeOutProc_returns last m
    rw [threadEventLoop, Proc.run_bind, run_callOn (calm_timeOutProc last), hn]
    exact Own.life_live_use _ _
  | cons t turns ih =>
    obtain ⟨n, hn⟩ := timeOutProc_returns t.poll (takeCSeq t.others m)
    have halive : Alive (timeOutProc t.poll (takeCSeq t.others m)).state :=
      (calm_timeOutProc t.poll).keeps _ (alive_takeCSeq t.others m hm)
    rw [run_threadEventLoop_cons hn, handled_cons hn, Own.life_live_use]
    by_cases hzero : n ≠ 0
    · -- the poll ends the loop
      rw [if_pos hzero, if_pos hzero]
      rfl
    rw [if_neg hzero, if_neg hzero]
    dsimp only
    generalize (timeOutProc t.poll (takeCSeq t.others m)).state = polled at halive
    rw [List.any_cons, Proc.run_bind]
    cases hstops : t.wait.stops with
    | true =>
      -- the block is freed, and used at once
      have hevent := life_processEvent_stop hstops b t.now halive
      generalize processEvent (some b) t.now t.wait polled = event at hevent
      obtain ⟨out, polled', v⟩ := event
      have hlife : Own.life (some b) .live out = .broken := hevent
      rw [Bool.true_or, if_pos rfl]
      cases v with
      | error e => exact hlife
      | ok u =>
        dsimp only
        rw [Own.life_append, hlife, Own.life_broken]
    | false =>
      have hevent := life_processEvent hstops b t.now halive
      generalize processEvent (some b) t.now t.wait polled = event at hevent
      obtain ⟨out, polled', v⟩ := event
      obtain ⟨hlife, halive'⟩ : Own.life (some b) .live out = .live ∧ Alive polled' := hevent
      rw [Bool.false_or]
      cases v with
      | error e => exact hlife
      | ok u =>
        dsimp only
        rw [Own.life_append, hlife, ih halive']
        rfl

/-! ## The whole thread -/

/-- Before the loop the session is only used, and its first request gives it a status. -/
theorem run_serve (b : Nat) (run : Run) (m : TransSessionMgr) :
    serve (some b) run m =
      let loop := threadEventLoop (some b) run.last run.turns (options run.start m).state
      ⟨.use (some b) :: .use (some b) :: .use (some b) :: loop.out, loop.state, loop.val⟩ := by
  rw [serve, if_pos (Option.some_ne_none b)]
  rfl

/-- A thread with a session; one that ends in the loop does not come to `ThreadDestroy`. -/
theorem run_threadMain (b : Nat) (run : Run) (m : TransSessionMgr) :
    threadMain (some b) run m =
      let loop := threadEventLoop (some b) run.last run.turns (options run.start m).state
      ⟨[.use (some b), .use (some b), .use (some b)] ++ loop.out ++
        if loop.val = .ok () then
          [.use (some b), .use (some b), .use (some b), .give (some b)] else [],
        loop.state, loop.val⟩ := by
  rw [threadMain, Proc.run_bind, run_serve]
  dsimp only
  generalize threadEventLoop (some b) run.last run.turns (options run.start m).state = loop
  obtain ⟨out, m', v⟩ := loop
  cases v with
  | error e => simp
  | ok u => rfl

/-- **The release of a session.**  Every thread uses a null session; with a session in hand a
thread frees the block once, and leaves it alone then, exactly when it comes to its end and the
loop handles no stop message. -/
theorem released_iff (run : Run) (m : TransSessionMgr) :
    (∀ (env : Env) (pMsg : Option ModMessage), ¬ Released (threadProc env pMsg run m).out) ∧
    ∀ b : Nat,
      Own.GivenOnce (some b) (threadMain (some b) run m).out ↔
        Proc.Returns (threadMain (some b) run) m ∧
          ∀ t ∈ handled (some b) (options run.start m).state run.turns, t.wait.stops = false := by
  constructor
  · intro env pMsg h
    exact h.notNull _ (null_used env pMsg run m) rfl
  intro b
  have halive : Alive (options run.start m).state := fun h => by cases h
  have hlife := life_threadEventLoop b run.last halive run.turns
  have hstops : (∀ t ∈ handled (some b) (options run.start m).state run.turns,
      t.wait.stops = false) ↔
      (handled (some b) (options run.start m).state run.turns).any (·.wait.stops) = false := by
    rw [List.any_eq_false]
    simp
  rw [← Own.life_live_iff, hstops, Proc.Returns, run_threadMain]
  generalize threadEventLoop (some b) run.last run.turns (options run.start m).state = loop at hlife
  obtain ⟨out, m', v⟩ := loop
  have hlife : Own.life (some b) .live ([.use (some b), .use (some b), .use (some b)] ++ out) =
      if (handled (some b) (options run.start m).state run.turns).any (·.wait.stops) then .broken
      else .live := by
    rw [List.cons_append, List.cons_append, List.cons_append, Own.life_live_use,
      Own.life_live_use, Own.life_live_use]
    exact hlife
  dsimp only
  rw [Own.life_append, hlife]
  cases (handled (some b) (options run.start m).state run.turns).any (·.wait.stops) with
  | true =>
    rw [if_pos rfl, Own.life_broken]
    refine iff_of_false (by decide) fun h => ?_
    cases h.2
  | false =>
    rw [if_neg Bool.false_ne_true]
    cases v with
    | error e =>
      -- a message that cannot be decoded ends the thread before the block is freed
      refine iff_of_false (fun h => by cases h) ?_
      rintro ⟨⟨_, h⟩, -⟩
      cases h
    | ok u =>
      rw [if_pos rfl, Own.life_live_use, Own.life_live_use, Own.life_live_use,
        Own.life_live_give]
      exact iff_of_true rfl ⟨⟨(), rfl⟩, rfl⟩

/-- A play request with an SDP text, for which the pool has a block. -/
theorem play_uses_null : ¬ ∀ (env : Env) (pMsg : Option ModMessage) (run : Run)
    (m : TransSessionMgr), Released (threadProc env pMsg run m).out := by
  intro h
  let env : Env := ⟨some 0, false, fun _ => ⟨str "Play", [(str "6000", str "RTP/AVP")]⟩⟩
  let szBuf := str "v=0\r\ns=Play\r\nm=video 6000 RTP/AVP 96\r\n"
  have hreleased := h env (some ⟨.play_with_sdp, some szBuf⟩) ⟨0, [], 1⟩
    ⟨0, ⟨.rs_null, [], [], 0, 0⟩⟩
  have hnull : .use none ∈ (threadProc env (some ⟨.play_with_sdp, some szBuf⟩) ⟨0, [], 1⟩
      ⟨0, ⟨.rs_null, [], [], 0, 0⟩⟩).out := by decide
  exact hreleased.notNull _ hnull rfl

end GB28181.RTSPCom.Release
