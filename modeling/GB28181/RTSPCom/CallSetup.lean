import GB28181.GBUtils.Utils
import GB28181.RTSPCom.MessageRouting

/-!
# Call set-up (`RTSPCom/RTSPTransSessionMgr.cpp`, `…MgrThird.cpp`, `…MgrBroadcast.cpp`)

The three managers share the table of handlers and the functions of `RTSPTransMgrBase`; each has
its own start message, and the local one its own `Setup`.  The parser of session descriptions is
not part of the repository: a message stands with the stack it leaves.

* `handleMessage`, `processMsgQueueEvent` — an answer and a message of the queue, by manager;
* `Reacts` — what a call of a function shows outside; the `reacts_` lemmas say it for an answer in
  each status.
-/

set_option autoImplicit false

namespace GB28181.RTSPCom.CallSetup

open GB28181.Base
open GB28181.GBUtils
open GB28181.RTSPCom.Routing (SessionMgr)

/-! ## Data -/

structure MediaInfo where
  media : CStr
  transport : CStr
  port : CStr

structure SessionAttribute where
  attributeName : CStr
  value : CStr

structure SDPStack where
  session_name : CStr := []
  /-- `connect_info.address`. -/
  address : CStr := []
  media_list : List MediaInfo := []
  attribute_list : List SessionAttribute := []

/-- An answer, with what `GetSDPStack` gives. -/
structure Answer where
  msg : RTSPUnknownMsg
  sdpStack : SDPStack

inductive TransProto where
  | tt_udp
  | tt_tcp
deriving DecidableEq

/-- A manager and one session of it, with the fields that a `SETUP` is made of.  `pRTSPMsg` points
to a variable of `ProcessNetworkEvent`: to nothing once that has returned. -/
structure CallMgr extends TransSessionMgr where
  szClientIP : CStr
  szClientPort : CStr
  m_szDownLoadSpeed : CStr
  m_transProto : TransProto
  pRTSPMsg : Option Answer

/-- The effects of the functions on a session; a `SETUP` and the answer to a broadcast are told
apart. -/
inductive CallEffect where
  | base (e : Effect)
  | setup (info : SetupInfo)
  | broadcast_ack

inductive CallFault where
  | header (e : HeaderFault)
  /-- `front` of an empty list. -/
  | noMedia
  /-- `pRTSPMsg` is used after the message is gone. -/
  | dangling

abbrev CallProc (α : Type) := Proc CallMgr CallEffect CallFault α

/-- A function of `RTSPTransMgrBase` on the session. -/
def onSession {α : Type} (c : Call α) : CallProc α :=
  Proc.embed CallMgr.toTransSessionMgr (fun s m => { s with toTransSessionMgr := m })
    (fun _ e => .ok [.base e]) .header c

/-- Lengths of buffers, from the headers of `Common`. -/
structure BufLens where
  IP_BUF_LEN : Nat
  PORT_BUF_LEN : Nat

/-! ## Descriptions -/

/-- The loop for `downloadspeed`: the last one stays. -/
def downloadSpeed (attribute_list : List SessionAttribute) (m_szDownLoadSpeed : CStr) : CStr :=
  attribute_list.foldl
    (fun speed attr => if attr.attributeName = str "downloadspeed" then attr.value else speed)
    m_szDownLoadSpeed

/-- What all three readers of a description take from it; they differ in how they compare the name
of the session and in where they look for the transport. -/
def readSdp (lens : BufLens) (isDownload : CStr → Bool) (isTcp : CStr → Bool) (sdpStack : SDPStack)
    (s : CallMgr) : Except CallFault CallMgr :=
  match sdpStack.media_list with
  | [] => .error .noMedia
  | front :: _ => .ok
    { s with
      m_szDownLoadSpeed :=
        if isDownload sdpStack.session_name then
          downloadSpeed sdpStack.attribute_list s.m_szDownLoadSpeed
        else s.m_szDownLoadSpeed
      szClientIP := stringCpy_s lens.IP_BUF_LEN sdpStack.address
      szClientPort := stringCpy_s lens.PORT_BUF_LEN front.port
      m_transProto := if isTcp front.transport then .tt_tcp else .tt_udp }

/-- `CreateRealRTSPSession`.  It is supposed that the pool has given a session. -/
def createRealRTSPSession (s : CallMgr) : CallMgr :=
  { s with
    session := { s.session with eStatus := .rs_null }
    m_szDownLoadSpeed := []
    m_transProto := .tt_udp }

def createLocalCall (lens : BufLens) (sdpStack : SDPStack) (s : CallMgr) :
    Except CallFault CallMgr :=
  readSdp lens (stricmpEq · (str "Download"))
    (fun transport => decide (find (str "TCP") transport ≥ 0 ∨ find (str "tcp") transport ≥ 0))
    sdpStack (createRealRTSPSession s)

/-- `parseThirdSdp`, and `parseBroadcastSdp`, which is the same text. -/
def parseThirdSdp (lens : BufLens) (sdpStack : SDPStack) (s : CallMgr) : Except CallFault CallMgr :=
  readSdp lens (· = str "Download")
    (fun transport => decide (find (str "TCP") transport > 0 ∨ find (str "tcp") transport > 0))
    sdpStack s

/-- `Create`; a third-party call and a broadcast bring no description. -/
def create (lens : BufLens) (k : SessionMgr) (sdpStack : SDPStack) (s : CallMgr) :
    Except CallFault CallMgr :=
  match k with
  | .sessionMgrLocal => createLocalCall lens sdpStack s
  | _ => .ok (createRealRTSPSession s)

/-! ## `SETUP` -/

/-- The first loop of `GetVideoTrack`: the position of the video, or of the last medium. -/
def videoIndex : Int → List MediaInfo → Int
  | i, [] => i
  | i, m :: ms => if str "video" = m.media then i + 1 else videoIndex (i + 1) ms

def controlAt : Int → List SessionAttribute → Option CStr
  | _, [] => none
  | i, a :: as =>
    if str "control" = a.attributeName then
      if 0 = i then some a.value else controlAt (i - 1) as
    else controlAt i as

def getVideoTrack (sdpStack : SDPStack) : CStr :=
  (controlAt (videoIndex (-1) sdpStack.media_list) sdpStack.attribute_list).getD (str "trackID=0")

/-- `RTSP_STRING_UDPTRANSPORT` and `RTSP_STRING_TCPTRANSPORT`. -/
def TransProto.transport : TransProto → CStr
  | .tt_udp => str "RTP/AVP"
  | .tt_tcp => str "RTP/AVP/TCP"

/-- `tSetupInfo.transport`. -/
def setupTransport (s : CallMgr) : CStr :=
  s.m_transProto.transport ++
  str ";unicast;destination=" ++ s.szClientIP ++ str ";client_port=" ++ s.szClientPort ++ str "-" ++
  zeroPadInt 0 (atoi s.szClientPort + 1) ++
  (if s.m_szDownLoadSpeed.length > 0 then str ";downloadspeed=" ++ s.m_szDownLoadSpeed else [])

/-- The part that `Setup`, `SetupThird` and `SetupBroadcast` share.  The `Content-Base` is taken
whole, as if `URL_BUF_LEN` never cut it. -/
def sendSetup (now : Nat) : CallProc Unit := do
  let s ← Proc.get
  match s.pRTSPMsg with
  | none => Proc.lift (.error .dangling)
  | some answer => do
    let url := answer.msg.fieldValue (str "Content-Base") ++ getVideoTrack answer.sdpStack
    let strCSeq ← onSession generateCSeq
    onSession (setTimeout now)
    Proc.emit (.setup { url := url, transport := setupTransport s, sequence := strCSeq })
    onSession (setStatus .rs_setup)

/-- A description is read into the session. -/
def parseSdp (parse : SDPStack → CallMgr → Except CallFault CallMgr) :
    Option SDPStack → CallProc Unit
  | none => pure ()
  | some sdpStack => do
    let s ← Proc.get
    let s ← Proc.lift (parse sdpStack s)
    Proc.update fun _ => s

def setupThird (lens : BufLens) (now : Nat) (sdpStack : Option SDPStack) : CallProc Unit := do
  parseSdp (parseThirdSdp lens) sdpStack
  sendSetup now

def setupBroadcast (lens : BufLens) (now : Nat) (sdpStack : Option SDPStack) : CallProc Unit := do
  parseSdp (parseThirdSdp lens) sdpStack
  sendSetup now

/-! ## Virtual functions -/

def play (k : SessionMgr) (now : Nat) : CallProc Unit :=
  match k with
  | .broadCastCallSessionMgr => do
    onSession (setStatus .rs_play)
    onSession (write ({ · with szCSeq := [] }))
    Proc.emit .broadcast_ack
    onSession (RTSPCom.play now)
  | _ => onSession (RTSPCom.play now)

def setup (k : SessionMgr) (now : Nat) : CallProc Unit :=
  match k with
  | .sessionMgrLocal => sendSetup now
  | _ => do
    let s ← Proc.get
    if s.session.szSessionID ≠ [] then play k now else pure ()

/-- A function of the table; the two `Describe` differ in what is not kept of the request. -/
def handler (k : SessionMgr) (now : Nat) : Handler → CallProc Unit
  | .Describe => onSession (describe now)
  | .Setup => setup k now
  | .SDPResponse => onSession sdpResponse
  | .StartKeepalive => onSession (startKeepalive now)
  | .SetParameter => onSession setParameter

/-! ## Events -/

/-- `ProcessNetworkEvent` behind the decoder, as far as its last statement. -/
def handleMessage (k : SessionMgr) (now : Nat) (eMsgType : RTSPMsgType) (answer : Answer) :
    CallProc Unit :=
  if eMsgType = .rmt_unknown then pure ()
  else if answer.msg.is200 = false ∧ eMsgType ≠ .rmt_setparameter then
    Proc.emit (.base .removeKey)
  else do
    if eMsgType ≠ .rmt_setparameter then onSession (write (matchCSeq now answer.msg)) else pure ()
    onSession (write ({ · with szSessionID := answer.msg.fieldValue (str "Session") }))
    Proc.update ({ · with pRTSPMsg := some answer })
    let s ← Proc.get
    match pfnRTSPProc eMsgType s.session.eStatus with
    | some h => do
      Proc.emit (.base (.call h))
      handler k now h
    | none => pure ()

/-- `ProcessNetworkEvent` behind the decoder; the message is gone when it returns. -/
def processNetworkEvent (k : SessionMgr) (now : Nat) (eMsgType : RTSPMsgType) (answer : Answer) :
    CallProc Unit := fun s =>
  let outcome := handleMessage k now eMsgType answer s
  { outcome with state := { outcome.state with pRTSPMsg := none } }

/-- The messages of the queue; the start messages come with `GetPlayData`. -/
inductive QueueMsg where
  | play_ctrl_start (sdpStack : Option SDPStack)
  | play_ctrl_start_broadcast (sdpStack : Option SDPStack)
  | play_ctrl_stop
  | stop_all_play
  | play_ctrl (c : Control)
  | other

/-- The same message for a local session, which reads no description at its start. -/
def QueueMsg.ctrlMsg : QueueMsg → CtrlMsg
  | .play_ctrl_start _ => .play_ctrl_start
  | .play_ctrl_start_broadcast _ => .other
  | .play_ctrl_stop => .play_ctrl_stop
  | .stop_all_play => .stop_all_play
  | .play_ctrl c => .play_ctrl c
  | .other => .other

/-- `ProcessMsgQueueEvent` of a third-party call and of a broadcast: each with its own start. -/
def processCallEvent (start : QueueMsg → Option (CallProc Unit)) (msg : QueueMsg) :
    CallProc Unit := do
  let s ← Proc.get
  match start msg, msg with
  | some setup, _ => if .rs_third_200_ret = s.session.eStatus then setup else pure ()
  | none, .play_ctrl_stop => do
    onSession teardown
    onSession (setStatus .rs_null)
    Proc.emit (.base .setEvent)
  | none, .play_ctrl .pause => onSession pause
  | none, .play_ctrl (.play _ _) => onSession (playCtrl false)
  | none, _ => pure ()

def processMsgQueueEvent (lens : BufLens) (k : SessionMgr) (now : Nat) (msg : QueueMsg) :
    CallProc Unit :=
  match k with
  | .sessionMgrLocal => onSession (RTSPCom.processMsgQueueEvent now msg.ctrlMsg)
  | .thirdCallSessionMgr =>
    processCallEvent
      (fun | .play_ctrl_start sdpStack => some (setupThird lens now sdpStack) | _ => none) msg
  | .broadCastCallSessionMgr =>
    processCallEvent
      (fun
        | .play_ctrl_start_broadcast sdpStack => some (setupBroadcast lens now sdpStack)
        | _ => none) msg

def startMsg (k : SessionMgr) (sdpStack : Option SDPStack) : QueueMsg :=
  match k with
  | .broadCastCallSessionMgr => .play_ctrl_start_broadcast sdpStack
  | _ => .play_ctrl_start sdpStack

/-! ## What happens -/

/-- What happens between a session, its server and the SIP module. -/
inductive Event where
  | sent (method : CStr)
  | setup (info : SetupInfo)
  /-- The server answers a request of this method. -/
  | answered (method : CStr) (answer : Answer)
  | invite_reponse
  | broadcast_ack
  /-- A start message is processed. -/
  | started (sdpStack : Option SDPStack)

/-- The method of a request that goes out. -/
def Event.method : Event → Option CStr
  | .sent method => some method
  | .setup info => some info.method
  | _ => none

def CallEffect.event : CallEffect → Option Event
  | .base (.send r) => some (.sent r.method)
  | .base (.push .invite_reponse) => some .invite_reponse
  | .setup info => some (.setup info)
  | .broadcast_ack => some .broadcast_ack
  | _ => none

/-! ## What the functions do -/

/-- A function of `RTSPTransMgrBase` leaves the other fields as they are. -/
theorem run_onSession {α : Type} (c : Call α) (s : CallMgr) :
    onSession c s = ⟨(c s.toTransSessionMgr).out.map .base,
      { s with toTransSessionMgr := (c s.toTransSessionMgr).state },
      (c s.toTransSessionMgr).val.mapError .header⟩ := by
  have htranslate : ∀ out : List Effect, Proc.translate
      (fun e => (.ok [.base e] : Except CallFault (List CallEffect))) out =
        (out.map .base, none) := by
    intro out
    induction out with
    | nil => rfl
    | cons e out ih =>
      rw [Proc.translate, ih]
      rfl
  simp only [onSession, Proc.embed, htranslate]

/-- The session that an answer leaves to the handler. -/
def CallMgr.received (s : CallMgr) (now : Nat) (answer : Answer) : CallMgr :=
  { s with
    toTransSessionMgr := s.toTransSessionMgr.received now answer.msg
    pRTSPMsg := some answer }

theorem run_processNetworkEvent {answer : Answer} (h : answer.msg.is200 = true) (k : SessionMgr)
    (now : Nat) (s : CallMgr) :
    processNetworkEvent k now .rmt_response answer s =
      match pfnRTSPProc .rmt_response s.session.eStatus with
      | some hd =>
        ⟨.base (.call hd) :: (handler k now hd (s.received now answer)).out,
          { (handler k now hd (s.received now answer)).state with pRTSPMsg := none },
          (handler k now hd (s.received now answer)).val⟩
      | none => ⟨[], { s.received now answer with pRTSPMsg := none }, .ok ()⟩ := by
  have hok : ¬ (answer.msg.is200 = false ∧ RTSPMsgType.rmt_response ≠ .rmt_setparameter) := by
    simp [h]
  have hrun : handleMessage k now .rmt_response answer s =
      match pfnRTSPProc .rmt_response s.session.eStatus with
      | some hd =>
        ⟨.base (.call hd) :: (handler k now hd (s.received now answer)).out,
          (handler k now hd (s.received now answer)).state,
          (handler k now hd (s.received now answer)).val⟩
      | none => ⟨[], s.received now answer, .ok ()⟩ := by
    rw [handleMessage, if_neg (by decide), if_neg hok, if_pos (by decide)]
    show (match pfnRTSPProc .rmt_response (s.session.received now answer.msg).eStatus with
      | some hd => (do
        Proc.emit (.base (.call hd))
        handler k now hd : CallProc Unit)
      | none => pure ()) (s.received now answer) = _
    rw [received_eStatus]
    cases pfnRTSPProc .rmt_response s.session.eStatus with
    | none => rfl
    | some hd =>
      show (Proc.emit (.base (.call hd)) >>= fun _ => handler k now hd) (s.received now answer) = _
      rw [Proc.run_bind, Proc.run_emit]
      generalize handler k now hd (s.received now answer) = outcome
      rfl
  simp only [processNetworkEvent]
  rw [hrun]
  cases pfnRTSPProc .rmt_response s.session.eStatus <;> rfl

theorem run_setup {k : SessionMgr} (hk : k ≠ .sessionMgrLocal) (now : Nat) (s : CallMgr) :
    setup k now s = if s.session.szSessionID ≠ [] then play k now s else ⟨[], s, .ok ()⟩ := by
  cases k with
  | sessionMgrLocal => exact absurd rfl hk
  | thirdCallSessionMgr =>
    show (Proc.get >>= _) s = _
    rw [Proc.run_get_bind]
    split <;> rfl
  | broadCastCallSessionMgr =>
    show (Proc.get >>= _) s = _
    rw [Proc.run_get_bind]
    split <;> rfl

/-- What a call does: the events, the status it leaves, and the client it keeps. -/
structure Reacts (s : CallMgr) (outcome : Outcome CallMgr CallEffect CallFault Unit)
    (events : List Event) (eStatus : RTSPStatus) : Prop where
  events : outcome.out.filterMap CallEffect.event = events
  val : outcome.val = .ok ()
  status : outcome.state.session.eStatus = eStatus
  ip : outcome.state.szClientIP = s.szClientIP
  port : outcome.state.szClientPort = s.szClientPort

section Answers

variable {answer : Answer} (h200 : answer.msg.is200 = true) {k : SessionMgr} {now : Nat}
  {s : CallMgr}
include h200

theorem reacts_options (hst : s.session.eStatus = .rs_options) :
    Reacts s (processNetworkEvent k now .rmt_response answer s) [.sent (str "DESCRIBE")]
      .rs_describe := by
  rw [run_processNetworkEvent h200, hst]
  show Reacts s ⟨_ :: (onSession (describe now) _).out, _, _⟩ _ _
  exact ⟨rfl, rfl, rfl, rfl, rfl⟩

theorem reacts_describe_local (hst : s.session.eStatus = .rs_describe) :
    Reacts s (processNetworkEvent .sessionMgrLocal now .rmt_response answer s)
      [.setup
        { url := answer.msg.fieldValue (str "Content-Base") ++ getVideoTrack answer.sdpStack
          transport := setupTransport s
          sequence := toText (nextCSeq s.m_nCSeq) }]
      .rs_setup := by
  rw [run_processNetworkEvent h200, hst]
  exact ⟨rfl, rfl, rfl, rfl, rfl⟩

/-- The answer to `DESCRIBE`, for the others: without a session it is not even noted. -/
theorem reacts_describe (hk : k ≠ .sessionMgrLocal) (hst : s.session.eStatus = .rs_describe) :
    if answer.msg.fieldValue (str "Session") = [] then
      Reacts s (processNetworkEvent k now .rmt_response answer s) [] .rs_describe
    else ∃ events, Reacts s (processNetworkEvent k now .rmt_response answer s)
      (events ++ [.sent (str "PLAY")]) .rs_play ∧ ∀ e ∈ events, e = .broadcast_ack := by
  rw [run_processNetworkEvent h200, hst]
  have hid : (s.received now answer).session.szSessionID =
      answer.msg.fieldValue (str "Session") := rfl
  split
  · next hnone =>
    have hrun : setup k now (s.received now answer) = ⟨[], s.received now answer, .ok ()⟩ := by
      rw [run_setup hk, if_neg (by rw [hid, hnone]; exact not_not.mpr rfl)]
    simp only [handler, pfnRTSPProc, hrun]
    refine ⟨rfl, rfl, ?_, rfl, rfl⟩
    exact (matchCSeq_eStatus now answer.msg s.session).trans hst
  · next hsome =>
    have hrun : setup k now (s.received now answer) = play k now (s.received now answer) := by
      rw [run_setup hk, if_pos (by rw [hid]; exact hsome)]
    simp only [handler, pfnRTSPProc, hrun]
    cases k with
    | sessionMgrLocal => exact absurd rfl hk
    | thirdCallSessionMgr => exact ⟨[], ⟨rfl, rfl, rfl, rfl, rfl⟩, nofun⟩
    | broadCastCallSessionMgr =>
      exact ⟨[.broadcast_ack], ⟨rfl, rfl, rfl, rfl, rfl⟩, fun _ => List.mem_singleton.mp⟩

theorem reacts_setup (hst : s.session.eStatus = .rs_setup)
    (hid : answer.msg.fieldValue (str "Session") ≠ []) :
    Reacts s (processNetworkEvent k now .rmt_response answer s) [.invite_reponse] .rs_setup := by
  have hrun : onSession sdpResponse (s.received now answer) =
      ⟨[.base (.push .invite_reponse)], s.received now answer, .ok ()⟩ := by
    have hsession : (s.received now answer).session.szSessionID ≠ [] := hid
    rw [run_onSession, run_sdpResponse, if_pos hsession]
    rfl
  rw [run_processNetworkEvent h200, hst]
  simp only [handler, pfnRTSPProc, hrun]
  refine ⟨rfl, rfl, ?_, rfl, rfl⟩
  exact (matchCSeq_eStatus now answer.msg s.session).trans hst

theorem reacts_play (hst : s.session.eStatus = .rs_play) :
    Reacts s (processNetworkEvent k now .rmt_response answer s) [.sent (str "GET_PARAMETER")]
      .rs_playing := by
  rw [run_processNetworkEvent h200, hst]
  exact ⟨rfl, rfl, rfl, rfl, rfl⟩

theorem reacts_playing (hst : s.session.eStatus = .rs_playing) :
    Reacts s (processNetworkEvent k now .rmt_response answer s) [] .rs_playing := by
  rw [run_processNetworkEvent h200, hst]
  refine ⟨rfl, rfl, ?_, rfl, rfl⟩
  exact (matchCSeq_eStatus now answer.msg s.session).trans hst

end Answers

end GB28181.RTSPCom.CallSetup
