import GB28181.Base.Decimal
import GB28181.Base.Proc
import GB28181.RTSPCom.RTSPParser

/-!
# A play session (`RTSPCom/RTSPTransMgrBase.cpp`, `RTSPCom/RTSPTransSessionMgr.cpp`)

The functions a session's thread calls: the requests, the table of handlers, the reading of a
message, the controls and the timer.  Of a request the method and the number are kept; the rest of
its text comes from fields of the session that nothing here looks at.

* `handleMessage`, `processNetworkEvent` — a message, and the text of one read;
* `processMsgQueueEvent` — a control of the module's queue;
* `timeOutProc` — the timer.

The `run_` lemmas say what each function does to the session, and what it sends.
-/

set_option autoImplicit false

namespace GB28181.RTSPCom

open GB28181.Base

/-! ## Data -/

/-- `RTSPStatus`, without the bound `rs_maxstatus` that stands before the last one. -/
inductive RTSPStatus where
  | rs_null
  | rs_options
  | rs_describe
  | rs_setup
  | rs_play
  | rs_playing
  | rs_pause
  | rs_record
  | rs_recording
  | rs_third_200_ret
deriving DecidableEq

/-- `eStatus < rs_playing`. -/
def RTSPStatus.beforePlaying : RTSPStatus → Bool
  | .rs_null => true
  | .rs_options => true
  | .rs_describe => true
  | .rs_setup => true
  | .rs_play => true
  | _ => false

structure CRTSPSession where
  eStatus : RTSPStatus
  szSessionID : CStr
  szCSeq : CStr
  tmPoint_Keepalive : Int
  tmPoint_Timeout : Int

/-- `CRTSPTransSessionMgr`, as the thread of one session meets it. -/
structure TransSessionMgr where
  m_nCSeq : Nat
  session : CRTSPSession

/-- A request that goes out; `timed` when `tmPoint_Timeout` is set for its answer. -/
structure Request where
  method : CStr
  sequence : CStr
  timed : Bool
deriving DecidableEq

/-- The functions in `m_pfnRTSPProc`. -/
inductive Handler where
  | Describe
  | Setup
  | SDPResponse
  | StartKeepalive
  | SetParameter
deriving DecidableEq

inductive SipAction where
  | invite_reponse
  | video_finished
  | video_excepion_bye
deriving DecidableEq

/-- What a function does outside of the session. -/
inductive Effect where
  /-- A function of the table is called. -/
  | call (h : Handler)
  | send (r : Request)
  | push (a : SipAction)
  /-- `m_oThreadQueueMap.RemoveKey`. -/
  | removeKey
  /-- `pSession->Free`. -/
  | free
  /-- `pThreadInfo->oEvent.SetEvent`. -/
  | setEvent
deriving DecidableEq

/-- Functions of `CRTSPTransSessionMgr` on a session. -/
abbrev Call (α : Type) := Proc TransSessionMgr Effect HeaderFault α

def RES_TIMEOUT : Nat := 10

def KEEPAVLIE_TIME : Nat := 15

/-! ## Requests -/

/-- `m_nCSeq++`, and back to 0 from the largest `int`. -/
def nextCSeq (m_nCSeq : Nat) : Nat := (m_nCSeq + 1) % 2 ^ 31

def generateCSeq : Call CStr := do
  Proc.update fun m => { m with m_nCSeq := nextCSeq m.m_nCSeq }
  let m ← Proc.get
  pure (toText m.m_nCSeq)

def write (f : CRTSPSession → CRTSPSession) : Call Unit :=
  Proc.update fun m => { m with session := f m.session }

/-- `tmPoint_Timeout` for an answer to a request sent now. -/
def setTimeout (now : Nat) : Call Unit :=
  write ({ · with tmPoint_Timeout := now + RES_TIMEOUT })

def setStatus (eStatus : RTSPStatus) : Call Unit := write ({ · with eStatus := eStatus })

def options (now : Nat) : Call Unit := do
  let strCSeq ← generateCSeq
  setTimeout now
  Proc.emit (.send ⟨str "OPTIONS", strCSeq, true⟩)
  setStatus .rs_options

def describe (now : Nat) : Call Unit := do
  let strCSeq ← generateCSeq
  setTimeout now
  Proc.emit (.send ⟨str "DESCRIBE", strCSeq, true⟩)
  setStatus .rs_describe

def setup (now : Nat) : Call Unit := do
  let strCSeq ← generateCSeq
  setTimeout now
  Proc.emit (.send ⟨str "SETUP", strCSeq, true⟩)
  setStatus .rs_setup

def sdpResponse : Call Unit := do
  let m ← Proc.get
  if m.session.szSessionID ≠ [] then Proc.emit (.push .invite_reponse) else pure ()

/-- `PlayCtrl`; it leaves `tmPoint_Timeout` to its caller. -/
def playCtrl (timed : Bool) : Call Unit := do
  let strCSeq ← generateCSeq
  write ({ · with szCSeq := strCSeq })
  Proc.emit (.send ⟨str "PLAY", strCSeq, timed⟩)

def play (now : Nat) : Call Unit := do
  setTimeout now
  playCtrl true
  setStatus .rs_play
  write ({ · with szCSeq := [] })

/-- `Pause`, which does not store its number. -/
def pause : Call Unit := do
  let strCSeq ← generateCSeq
  Proc.emit (.send ⟨str "PAUSE", strCSeq, false⟩)
  setStatus .rs_pause

def getParameter (now : Nat) : Call Unit := do
  let strCSeq ← generateCSeq
  write ({ · with szCSeq := strCSeq })
  Proc.emit (.send ⟨str "GET_PARAMETER", strCSeq, true⟩)
  setTimeout now

def startKeepalive (now : Nat) : Call Unit := do
  getParameter now
  write fun s => { s with tmPoint_Timeout := now + RES_TIMEOUT, tmPoint_Keepalive := 0 }
  setStatus .rs_playing

/-- `SetParameter`; the answer it sends is an empty text. -/
def setParameter : Call Unit := Proc.emit (.push .video_finished)

def teardown : Call Unit := do
  setStatus .rs_null
  let strCSeq ← generateCSeq
  Proc.emit (.send ⟨str "TEARDOWN", strCSeq, false⟩)
  Proc.emit .free

def sendBye : Call Unit := Proc.emit (.push .video_excepion_bye)

/-! ## Messages -/

/-- `m_pfnRTSPProc`; it has no column for `rs_third_200_ret`, which no function here sets. -/
def pfnRTSPProc : RTSPMsgType → RTSPStatus → Option Handler
  | .rmt_response, .rs_options => some .Describe
  | .rmt_response, .rs_describe => some .Setup
  | .rmt_response, .rs_setup => some .SDPResponse
  | .rmt_response, .rs_play => some .StartKeepalive
  | .rmt_setparameter, .rs_playing => some .SetParameter
  | .rmt_setparameter, .rs_pause => some .SetParameter
  | _, _ => none

theorem pfnRTSPProc_response {eStatus : RTSPStatus} {h : Handler}
    (hp : pfnRTSPProc .rmt_response eStatus = some h) :
    (eStatus = .rs_options ∧ h = .Describe) ∨ (eStatus = .rs_describe ∧ h = .Setup) ∨
      (eStatus = .rs_setup ∧ h = .SDPResponse) ∨ (eStatus = .rs_play ∧ h = .StartKeepalive) := by
  cases eStatus <;> cases hp <;> simp

/-- A function of the table; all of them return 0. -/
def handler (now : Nat) : Handler → Call Unit
  | .Describe => describe now
  | .Setup => setup now
  | .SDPResponse => sdpResponse
  | .StartKeepalive => startKeepalive now
  | .SetParameter => setParameter

/-- `0 == strncmp("200", GetStatus(), 3)`. -/
def RTSPUnknownMsg.is200 (msg : RTSPUnknownMsg) : Bool := msg.m_strStatus.take 3 = str "200"

theorem RTSPUnknownMsg.is200_status {msg : RTSPUnknownMsg} (h : msg.is200 = true) :
    msg.m_strStatus ≠ [] := by
  intro he
  have hfalse : ((([] : CStr).take 3 = str "200") : Bool) = false := by decide
  rw [is200, he, hfalse] at h
  cases h

/-- The number of a message is that of the last keep-alive or control: the timer for its answer is
stopped and the next keep-alive is due later. -/
def matchCSeq (now : Nat) (msg : RTSPUnknownMsg) (s : CRTSPSession) : CRTSPSession :=
  if msg.fieldValue (str "CSeq") = s.szCSeq then
    { s with tmPoint_Timeout := 0, tmPoint_Keepalive := now + KEEPAVLIE_TIME }
  else s

/-- `ProcessNetworkEvent` behind the decoder. -/
def handleMessage (now : Nat) (eMsgType : RTSPMsgType) (msg : RTSPUnknownMsg) : Call Unit :=
  if eMsgType = .rmt_unknown then pure ()
  else if msg.is200 = false ∧ eMsgType ≠ .rmt_setparameter then Proc.emit .removeKey
  else do
    if eMsgType ≠ .rmt_setparameter then write (matchCSeq now msg) else pure ()
    write ({ · with szSessionID := msg.fieldValue (str "Session") })
    let m ← Proc.get
    match pfnRTSPProc eMsgType m.session.eStatus with
    | some h => do
      Proc.emit (.call h)
      handler now h
    | none => pure ()

/-- `ProcessNetworkEvent` on the text of one read. -/
def processNetworkEvent (now : Nat) (szBuf : CStr) : Call Unit := do
  let (eMsgType, msg) ← Proc.lift (decodeUnknowMsg szBuf {})
  handleMessage now eMsgType msg

/-! ## Controls -/

/-- What the text of a `play_ctrl` asks for.  The scale of a `PLAY` is read behind the end of
`m_strHeader`; it only goes into the text of the request.  Between the two requests of a `PLAY`
with a range other sessions take some numbers. -/
inductive Control where
  | pause
  | play (range : CStr) (others : Nat)
  | other

def takeCSeq (n : Nat) (m : TransSessionMgr) : TransSessionMgr :=
  { m with m_nCSeq := nextCSeq^[n] m.m_nCSeq }

/-- The branch `play_ctrl` of `ProcessMsgQueueEvent`. -/
def playControl : Control → Call Unit
  | .pause => pause
  | .play range others => do
    playCtrl false
    -- what `PlayCtrl` cuts off the range leaves its first character
    if range ≠ [] then do
      Proc.update (takeCSeq others)
      playCtrl false
    else pure ()
  | .other => pure ()

inductive CtrlMsg where
  | play_ctrl_start
  | play_ctrl_stop
  | stop_all_play
  | play_ctrl (c : Control)
  | other

def processMsgQueueEvent (now : Nat) (msg : CtrlMsg) : Call Unit := do
  let m ← Proc.get
  match msg with
  | .play_ctrl_start => if m.session.eStatus = .rs_setup then play now else pure ()
  | .play_ctrl_stop =>
    if m.session.eStatus ≠ .rs_null then do
      teardown
      setStatus .rs_null
      Proc.emit .setEvent
    else pure ()
  | .stop_all_play =>
    if m.session.eStatus ≠ .rs_null then do
      sendBye
      teardown
      setStatus .rs_null
      Proc.emit .setEvent
    else pure ()
  | .play_ctrl c => playControl c
  | .other => pure ()

/-! ## The timer -/

def timeOutProc (now : Nat) : Call Int := do
  let m ← Proc.get
  if m.session.eStatus.beforePlaying then pure 0
  else if 0 < m.session.tmPoint_Timeout ∧ now > m.session.tmPoint_Timeout then pure 1
  else if 0 < m.session.tmPoint_Keepalive ∧ now ≥ m.session.tmPoint_Keepalive then do
    startKeepalive now
    pure 0
  else pure 0

/-! ## What the functions do -/

/-- What a message with a number and a session leaves, before a handler is called. -/
def CRTSPSession.received (s : CRTSPSession) (now : Nat) (msg : RTSPUnknownMsg) : CRTSPSession :=
  { matchCSeq now msg s with szSessionID := msg.fieldValue (str "Session") }

theorem matchCSeq_eStatus (now : Nat) (msg : RTSPUnknownMsg) (s : CRTSPSession) :
    (matchCSeq now msg s).eStatus = s.eStatus := by
  unfold matchCSeq
  split <;> rfl

@[simp] theorem received_eStatus (s : CRTSPSession) (now : Nat) (msg : RTSPUnknownMsg) :
    (s.received now msg).eStatus = s.eStatus := matchCSeq_eStatus now msg s

theorem run_options (now : Nat) (m : TransSessionMgr) :
    options now m = ⟨[.send ⟨str "OPTIONS", toText (nextCSeq m.m_nCSeq), true⟩],
      ⟨nextCSeq m.m_nCSeq,
        { m.session with tmPoint_Timeout := now + RES_TIMEOUT, eStatus := .rs_options }⟩,
      .ok ()⟩ := rfl

theorem run_sdpResponse (m : TransSessionMgr) :
    sdpResponse m =
      ⟨if m.session.szSessionID ≠ [] then [.push .invite_reponse] else [], m, .ok ()⟩ := by
  unfold sdpResponse
  rw [Proc.run_get_bind]
  split <;> rfl

theorem run_play (now : Nat) (m : TransSessionMgr) :
    play now m = ⟨[.send ⟨str "PLAY", toText (nextCSeq m.m_nCSeq), true⟩],
      ⟨nextCSeq m.m_nCSeq,
        { m.session with
          tmPoint_Timeout := now + RES_TIMEOUT, eStatus := .rs_play, szCSeq := [] }⟩,
      .ok ()⟩ := rfl

theorem run_pause (m : TransSessionMgr) :
    pause m = ⟨[.send ⟨str "PAUSE", toText (nextCSeq m.m_nCSeq), false⟩],
      ⟨nextCSeq m.m_nCSeq, { m.session with eStatus := .rs_pause }⟩, .ok ()⟩ := rfl

theorem run_handleMessage_refused {eMsgType : RTSPMsgType} {msg : RTSPUnknownMsg}
    (hknown : eMsgType ≠ .rmt_unknown) (hset : eMsgType ≠ .rmt_setparameter)
    (h : msg.is200 = false) (now : Nat) (m : TransSessionMgr) :
    handleMessage now eMsgType msg m = ⟨[.removeKey], m, .ok ()⟩ := by
  rw [handleMessage, if_neg hknown, if_pos ⟨h, hset⟩]
  rfl

theorem run_handleMessage_setparameter (now : Nat) (msg : RTSPUnknownMsg) (m : TransSessionMgr) :
    handleMessage now .rmt_setparameter msg m =
      ⟨if pfnRTSPProc .rmt_setparameter m.session.eStatus = some .SetParameter then
          [.call .SetParameter, .push .video_finished] else [],
        { m with session := { m.session with szSessionID := msg.fieldValue (str "Session") } },
        .ok ()⟩ := by
  obtain ⟨n, eStatus, szSessionID, szCSeq, keepalive, timeout⟩ := m
  rw [handleMessage, if_neg (by decide), if_neg (fun h => h.2 rfl)]
  cases eStatus <;> rfl

/-- The session that an answer `200` leaves to the handler. -/
def TransSessionMgr.received (m : TransSessionMgr) (now : Nat) (msg : RTSPUnknownMsg) :
    TransSessionMgr :=
  { m with session := m.session.received now msg }

/-- An answer `200` is compared with the number waited for, and calls the handler. -/
theorem run_handleMessage_response {msg : RTSPUnknownMsg} (h : msg.is200 = true) (now : Nat)
    (m : TransSessionMgr) :
    handleMessage now .rmt_response msg m =
      match pfnRTSPProc .rmt_response m.session.eStatus with
      | some h =>
        ⟨.call h :: (handler now h (m.received now msg)).out,
          (handler now h (m.received now msg)).state, (handler now h (m.received now msg)).val⟩
      | none => ⟨[], m.received now msg, .ok ()⟩ := by
  have hok : ¬ (msg.is200 = false ∧ RTSPMsgType.rmt_response ≠ .rmt_setparameter) := by simp [h]
  rw [handleMessage, if_neg (by decide), if_neg hok, if_pos (by decide)]
  show (match pfnRTSPProc .rmt_response (m.session.received now msg).eStatus with
    | some h => (do
      Proc.emit (.call h)
      handler now h : Call Unit)
    | none => pure ()) (m.received now msg) = _
  rw [received_eStatus]
  cases pfnRTSPProc .rmt_response m.session.eStatus with
  | none => rfl
  | some h =>
    show (Proc.emit (.call h) >>= fun _ => handler now h) (m.received now msg) = _
    rw [Proc.run_bind, Proc.run_emit]
    generalize handler now h (m.received now msg) = outcome
    rfl

theorem run_timeOutProc_before {now : Nat} {m : TransSessionMgr}
    (h : m.session.eStatus.beforePlaying = true) : timeOutProc now m = ⟨[], m, .ok 0⟩ := by
  rw [timeOutProc, Proc.run_get_bind, if_pos h]
  rfl

theorem run_timeOutProc_timeout {now : Nat} {m : TransSessionMgr}
    (h : m.session.eStatus.beforePlaying = false)
    (ht : 0 < m.session.tmPoint_Timeout ∧ now > m.session.tmPoint_Timeout) :
    timeOutProc now m = ⟨[], m, .ok 1⟩ := by
  rw [timeOutProc, Proc.run_get_bind, h, if_neg Bool.false_ne_true, if_pos ht]
  rfl

theorem run_timeOutProc_keepalive {now : Nat} {m : TransSessionMgr}
    (h : m.session.eStatus.beforePlaying = false)
    (ht : ¬ (0 < m.session.tmPoint_Timeout ∧ now > m.session.tmPoint_Timeout))
    (hk : 0 < m.session.tmPoint_Keepalive ∧ now ≥ m.session.tmPoint_Keepalive) :
    timeOutProc now m = ⟨(startKeepalive now m).out, (startKeepalive now m).state, .ok 0⟩ := by
  rw [timeOutProc, Proc.run_get_bind, h, if_neg Bool.false_ne_true, if_neg ht, if_pos hk]
  rfl

theorem run_timeOutProc_idle {now : Nat} {m : TransSessionMgr}
    (h : m.session.eStatus.beforePlaying = false)
    (ht : ¬ (0 < m.session.tmPoint_Timeout ∧ now > m.session.tmPoint_Timeout))
    (hk : ¬ (0 < m.session.tmPoint_Keepalive ∧ now ≥ m.session.tmPoint_Keepalive)) :
    timeOutProc now m = ⟨[], m, .ok 0⟩ := by
  rw [timeOutProc, Proc.run_get_bind, h, if_neg Bool.false_ne_true, if_neg ht, if_neg hk]
  rfl

end GB28181.RTSPCom
