import GB28181.SipCom.CallDialog
import GB28181.SipCom.SipMsgBody
import GB28181.SipCom.SipServiceRelay

/-!
# The SIP front end (`SipServiceCom/SIPService.cpp`)

`HandleSIP` as a call on the state of `CSIPService`: what it does with one event of the SIP
stack, with every handler it dispatches to.  The handlers of the registration manager are those
of `RegMgr`, on the `m_RegManager` of the service.

* `SipEffect` — what the service sends, hands to the platform process and releases;
* `relayMessageNew` … `relaySubscription` — the relay functions;
* `handleInvite` … `handleSubscribe` — the handlers of the gateway;
* `handleSIP` — the dispatch and the release of the event.

The copies of a fixed number of bytes into a packet are copies of the text here.
-/

set_option autoImplicit false

namespace GB28181.SipCom

open GB28181.Base

/-! ## The packet to the platform process -/

/-- `work_kinds`, as far as they are received. -/
inductive WorkKind where
  | register_info
  | default_message
  | subscription
  | event_notify
  | video_call
  deriving DecidableEq

/-- The `ST_` commands of received packets. -/
inductive SipCmd where
  | registerSuccess
  | registerFail
  | message
  | messageResponse
  | subscribe
  | subscribeNotify
  | callInvite
  | callInviteResponse
  | callAck
  | callInfo
  | callBye
  deriving DecidableEq

/-- `ipc_sip_block_t`; a member that is not written is empty here. -/
structure IpcSipBlock where
  eWorkType : WorkKind
  cmd_type : SipCmd
  nCallDialogID : BitVec 64 := 0
  nTID : Int := 0
  nStatus : Int := 0
  nCID : BitVec 32 := 0
  nDID : BitVec 32 := 0
  nSeq : Int := 0
  nUniqueID : Int := 0
  szToDeviceID : CStr := []
  szFromDeviceID : CStr := []
  szExpiresReason : CStr := []
  szSN : CStr := []
  szSubjectID : CStr := []
  szSubjectContent : CStr := []
  szRecvIP : CStr := []
  sender_parms : Option Nat := none
  cmd_body : BodyCmd := .unset
  deriving DecidableEq

/-! ## The service -/

/-- `CSIPService`: the work mode, the registration manager in the parts the handlers use, and the
tables of the calls sent, by the number of their Call-ID and by the Call-ID. -/
structure CSIPService where
  m_nAppWorkMode : Int
  m_RegManager : SipRegMgr
  relay : RelayRegMgr
  m_RemoteDomains : Map CStr CSipDomain
  upperDomain : CSipDomain
  M_SeqIDToCallID : Map Int Int
  M_UniqueIDToCallID : Map Int Int
  m_callIdSenderMap : Map CStr Nat

/-- What the service does outside itself. -/
inductive SipEffect where
  /-- `eXosip_default_action` -/
  | defaultAction (tid : Int)
  /-- `eXosip_event_free` -/
  | eventFree (tid : Int)
  /-- `SendAnsweredByCode` -/
  | answer (tid nCode : Int)
  /-- `SendRegAnsweredByCode` -/
  | regAnswer (tid nCode : Int) (strContact : CStr) (nExpires : Int)
  /-- `WritePrivateProfileString` -/
  | writeProfile (appName keyName value fileName : CStr)
  /-- `SendShared` -/
  | shared (pSipPacket : IpcSipBlock) (pszBody : Option CStr)
  /-- `eXosip_message_send_request` -/
  | request (method sip_to sip_from cseq : CStr) (body : Option CStr)
  /-- `eXosip_call_send_request` of an INFO request -/
  | info (did : BitVec 32) (body : Option CStr)
  /-- `eXosip_call_send_answer` -/
  | callAnswer (tid status : Int) (body : Option CStr)
  /-- `eXosip_call_terminate` -/
  | terminate (cid did : BitVec 32)
  /-- `eXosip_register_send_register` -/
  | register (nRegisterID : Int) (strCSeq : CStr)
  deriving DecidableEq

/-- What the service uses from outside: the parameters of the registration manager and of the
body parsers, the SIP stack, the SDP parser, and the constructors of types that are not part of
the repository. -/
structure ServiceEnv extends Env, XmlEnv where
  /-- `eXosip_message_build_request` with a method, a To and a From text makes a message -/
  buildsRequest : CStr → CStr → CStr → Bool
  /-- `eXosip_call_build_info` makes a message -/
  buildsInfo : BitVec 32 → Bool
  /-- `eXosip_call_build_answer` makes a message -/
  buildsCallAnswer : Int → Int → Bool
  /-- `eXosip_register_build_register` makes a message -/
  buildsRegister : Int → Int → Bool
  /-- `connect_info.address` of a session description -/
  sdpAddress : CStr → CStr
  /-- `u_cases.e_config == modify_password` of a union that was written with a command -/
  readsModifyPassword : BodyCmd → Bool
  /-- `szFromDeviceID`, `pPlatform` and `nSeq` of a default-constructed `sip_packet_t` -/
  defaultPacket : CStr × Option CSipDomain × Int
  /-- the default-constructed `CSipDomain` -/
  freshDomain : CSipDomain

abbrev Service := Proc CSIPService SipEffect SipFault

variable (E : ServiceEnv)

/-- A message that was not built is a null pointer, and the next step writes to it. -/
def built (b : Bool) : Except SipFault Unit := if b then .ok () else .error .nullPointer

/-! ## The registration manager of the service -/

/-- The Contact text of `SendRegAnsweredByCode`, from the From header of the answer, which is
that of the request. -/
def regContact (pFrom : Option (Option Uri)) : Except SipFault CStr := do
  let url ← deref pFrom.join
  let username ← stdString url.username
  let host ← stdString url.host
  return str "<sip:" ++ username ++ str "@" ++ host ++ str ">"

/-- What an effect of the manager is for the service.  Below mode 1 the manager has no SIP
context, and `SendRegAnsweredByCode` returns at once.  The manager gets the requests of
`EXOSIP_MESSAGE_NEW` only, which are in `j_transactions`. -/
def regMgrEffect (pFrom : Option (Option Uri)) (svc : CSIPService) :
    Effect → Except SipFault (List SipEffect)
  | .answer tid nCode => .ok [.answer tid nCode]
  | .writeProfile appName keyName value fileName =>
    .ok [.writeProfile appName keyName value fileName]
  | .regAnswer tid nCode nExpires =>
    if 0 < svc.m_nAppWorkMode then do
      return [.regAnswer tid nCode (← regContact pFrom) nExpires]
    else .ok []

/-- A call of a handler of `m_RegManager`, for a request. -/
def regMgrCall {α : Type} (request : OsipMessage) (m : Handler α) : Service α :=
  Proc.embed (·.m_RegManager) (fun svc mgr => { svc with m_RegManager := mgr })
    (regMgrEffect request.from_) .regMgr m

/-! ### The body of a password change -/

/-- The loop of `ParseModifyuserPassword` over the first child elements. -/
def parsePasswordElements : List XmlElement → SipObjectPasswd → Except SipFault SipObjectPasswd
  | [], passWordInfo => .ok passWordInfo
  | pElement :: rest, passWordInfo => do
    if pElement.name = str "CmdType" then
      let cmdType ← stdString pElement.getText
      parsePasswordElements rest { passWordInfo with cmdType := cmdType }
    else if pElement.name = str "SN" then
      let sn ← stdString pElement.getText
      parsePasswordElements rest { passWordInfo with sn := sn }
    else if pElement.name = str "DeviceID" then
      let deviceId ← stdString pElement.getText
      parsePasswordElements rest { passWordInfo with deviceId := deviceId }
    else parsePasswordElements rest passWordInfo

/-- The text of a child that may be absent. -/
def childText (node : XmlElement) (name : String) : Except SipFault CStr :=
  match node.firstChildElement (str name) with
  | none => .ok []
  | some child => stdString child.getText

def parseModifyuserPassword (X : XmlEnv) (xml : CStr) : Except SipFault SipObjectPasswd :=
  let passWordInfo : SipObjectPasswd := ⟨[], [], [], [], [], [], []⟩
  match (X.xmlParse xml).rootElement with
  | none => .ok passWordInfo
  | some pRootElement =>
    if pRootElement.children = [] then .ok passWordInfo
    else do
      let passWordInfo ← parsePasswordElements (pRootElement.children.take 3) passWordInfo
      let node ← deref (pRootElement.firstChildElement (str "Info"))
      let nonce ← childText node "nonce"
      let nonce1 ← childText node "nonce1"
      let algorithm ← childText node "algorithm"
      return { passWordInfo with nonce := nonce, nonce1 := nonce1, algorithm := algorithm }

/-- `OnModifyPassword` with its body.  The checks before the body is parsed change nothing that
`onModifyPassword`, which makes them again, reads. -/
def onModifyPasswordBody (ev : EXosipEvent) (request : OsipMessage) (psz_body : Option CStr) :
    Service Unit := do
  let xml ← Proc.lift (stdString psz_body)
  let event := request.toEvent ev.tid
  match ← Proc.lift ((checkMsgHeader event E.fresh true).mapError .regMgr) with
  | none => pure ()
  | some localCacheObject =>
    match ← regMgrCall request (getRegisterObjectInfo E.toEnv localCacheObject.strDeviceID) with
    | none => pure ()
    | some _ =>
      let passWordInfo ← Proc.lift (parseModifyuserPassword E.toXmlEnv xml)
      let _ ← regMgrCall request (onModifyPassword E.toEnv event passWordInfo)

def onRegisterToSucess (request : OsipMessage) : Service Unit := do
  let pRequstUri ← Proc.lift (deref request.req_uri)
  let username ← Proc.lift (stdString pRequstUri.username)
  Proc.update fun svc =>
    { svc with
      m_RemoteDomains :=
        Map.modify svc.m_RemoteDomains username E.freshDomain fun d =>
          { d with nStatus := .registerSuccess } }

/-! ## Sending -/

def buildNewRequestMessageSend (maker : SipMessageMaker) (psz_Seq : CStr) (psz_body : Option CStr)
    (psz_method : String) : Service Unit := do
  Proc.lift (built (E.buildsRequest (str psz_method) maker.m_str_sip_to maker.m_str_sip_from))
  Proc.emit (.request (str psz_method) maker.m_str_sip_to maker.m_str_sip_from psz_Seq
    (maker.setMessageBody psz_body))

/-- `SendRequestMessage` with a default-constructed packet and a body. -/
def sendRequestMessage (strBody : CStr) : Service Unit := do
  let svc ← Proc.get
  let (szFromDeviceID, pPlatform, nSeq) := E.defaultPacket
  let targetDomain ← Proc.lift (deref pPlatform)
  let maker ← Proc.lift (SipMessageMaker.initFromTo svc.relay szFromDeviceID targetDomain)
  buildNewRequestMessageSend E maker (str (toString nSeq)) (some strBody) "MESSAGE"

/-- `SendAnsweredByCode` for the transaction of an event; without the answer it does nothing. -/
def CSIPService.sendAnsweredByCode (ev : EXosipEvent) (nCode : Int) : Service Unit :=
  if ev.Answerable ∧ 200 ≤ nCode ∧ nCode ≤ 699 then Proc.emit (.answer ev.tid nCode) else pure ()

/-! ## The relay (`SipRoute/SipServiceRelay.cpp`) -/

/-- A relay function: nothing without a route, else `send`. -/
def relayWith (request : OsipMessage) (send : SipMessage → SipMessageMaker → Service Unit) :
    Service Unit := do
  let svc ← Proc.get
  let in_msg := parserMessage request
  match ← Proc.lift (relayMaker svc.relay in_msg) with
  | none => pure ()
  | some maker => send in_msg maker

def relayMessageInfo (ev : EXosipEvent) (request : OsipMessage) : Service Unit :=
  relayWith request fun in_msg maker =>
    if E.buildsInfo ev.did then Proc.emit (.info ev.did (maker.setMessageBody in_msg.psz_body))
    else pure ()

def relayMessageNew (ev : EXosipEvent) (request : OsipMessage) : Service Unit :=
  if request.isMethod "INFO" then relayMessageInfo E ev request
  else relayWith request fun in_msg maker =>
    buildNewRequestMessageSend E maker in_msg.psz_cseq in_msg.psz_body "MESSAGE"

def relayMessageAnswered (request : OsipMessage) : Service Unit :=
  relayWith request fun in_msg maker =>
    buildNewRequestMessageSend E maker in_msg.psz_cseq in_msg.psz_body "MESSAGE"

/-- `relay_call_invite`.  `build_call_invite_send` sets the Contact of `m_pmessage`, which nothing
has built. -/
def relayCallInvite (request : OsipMessage) : Service Unit :=
  relayWith request fun _ _ => Proc.lift (built false)

def relayCallAck (ev : EXosipEvent) (request : OsipMessage) : Service Unit :=
  relayWith request fun in_msg maker => do
    let status_code ← Proc.lift (deref ev.ack)
    Proc.lift (built (E.buildsCallAnswer ev.tid status_code))
    Proc.emit (.callAnswer ev.tid status_code (maker.setMessageBody in_msg.psz_body))

def relayCallClosed (ev : EXosipEvent) (request : OsipMessage) : Service Unit :=
  relayWith request fun _ _ => Proc.emit (.terminate ev.cid ev.did)

def relaySubscription (request : OsipMessage) : Service Unit :=
  relayWith request fun in_msg maker =>
    buildNewRequestMessageSend E maker in_msg.psz_cseq in_msg.psz_body "SUBSCRIBE"

/-! ## The gateway -/

def fillSipBlockBaseInfo (msg : SipMessage) (block : IpcSipBlock) :
    Except SipFault IpcSipBlock := do
  let req_uri_id ← deref msg.psz_req_uri_id
  let from_id ← deref msg.psz_from_id
  let to_id ← deref msg.psz_to_id
  return { block with
    szToDeviceID := req_uri_id
    szExpiresReason := msg.psz_expires.getD block.szExpiresReason
    szFromDeviceID := from_id
    szSubjectID := to_id
    szSubjectContent := msg.psz_subject.getD block.szSubjectContent }

def fillSipBlockFromEvent (ev : EXosipEvent) (block : IpcSipBlock) :
    Except SipFault IpcSipBlock := do
  let status_code ← deref ev.response
  return { block with
    nCallDialogID := getCallDialogID ev
    nTID := ev.tid
    nStatus := status_code }

/-- The two fill steps every handler begins with. -/
def fillSipBlock (ev : EXosipEvent) (msg : SipMessage) (block : IpcSipBlock) :
    Except SipFault IpcSipBlock := do
  fillSipBlockFromEvent ev (← fillSipBlockBaseInfo msg block)

/-- `SendShared` with the body and the length of the body part. -/
def sendSharedBody (msg : SipMessage) (block : IpcSipBlock) : Service Unit := do
  let body ← Proc.lift (deref msg.psz_body)
  Proc.emit (.shared block (some body))

def sendDataToShared (ev : EXosipEvent) (msg : SipMessage) (block : IpcSipBlock) :
    Service Unit := do
  let block ← Proc.lift (fillSipBlock ev msg block)
  sendSharedBody msg <|
    if block.cmd_type = .registerFail ∨ block.cmd_type = .registerSuccess then
      { block with eWorkType := .register_info }
    else block

/-- What a body parser leaves in a packet. -/
def IpcSipBlock.withBody (block : IpcSipBlock) : Option BodyFields → IpcSipBlock
  | none => block
  | some fields =>
    { block with
      cmd_body := fields.cmd_body
      szToDeviceID := fields.szToDeviceID
      szSN := fields.szSN }

def parseMessageBody (msg : SipMessage) (block : IpcSipBlock) : Except SipFault IpcSipBlock :=
  match block.eWorkType with
  | .subscription | .event_notify => do
    return block.withBody (← parserSubscriptionBody E.toXmlEnv msg.psz_body)
  | .default_message => do
    return block.withBody (← parserMessageBody E.toXmlEnv msg.psz_body)
  | _ => .ok block

def handleMessage (ev : EXosipEvent) (request : OsipMessage) (msg : SipMessage)
    (block : IpcSipBlock) : Service Unit := do
  CSIPService.sendAnsweredByCode ev 200
  if E.readsModifyPassword block.cmd_body then
    onModifyPasswordBody E ev request msg.psz_body
    let strBody ← Proc.lift (stdString msg.psz_body)
    sendRequestMessage E strBody
  else
    let svc ← Proc.get
    if svc.m_nAppWorkMode = 2 then pure () else sendDataToShared ev msg block

def handleInvite (ev : EXosipEvent) (msg : SipMessage) : Service Unit := do
  let block ← Proc.lift (fillSipBlock ev msg { eWorkType := .video_call, cmd_type := .callInvite })
  let subjectid ← Proc.lift msg.getidFromSubject
  sendSharedBody msg { block with
    szRecvIP := E.sdpAddress (msg.psz_body.getD [])
    szSubjectID := subjectid }

/-- `atoi`: a sign and digits after white space, 0 for anything else. -/
def atoi (s : CStr) : Int := (stoi s).getD 0

def handleInviteResponse (ev : EXosipEvent) (msg : SipMessage) : Service Unit := do
  let block ← Proc.lift
    (fillSipBlock ev msg { eWorkType := .video_call, cmd_type := .callInviteResponse })
  let svc ← Proc.get
  let number := atoi msg.psz_call_id
  Proc.update fun svc =>
    { svc with
      M_SeqIDToCallID := Map.touch svc.M_SeqIDToCallID number 0
      M_UniqueIDToCallID := Map.touch svc.M_UniqueIDToCallID number 0 }
  sendSharedBody msg { block with
    nCID := ev.cid
    nDID := ev.did
    nSeq := Map.index svc.M_SeqIDToCallID number 0
    nUniqueID := Map.index svc.M_UniqueIDToCallID number 0
    sender_parms := svc.m_callIdSenderMap.lookup msg.psz_call_id }

def handleACK (ev : EXosipEvent) (msg : SipMessage) : Service Unit := do
  let block ← Proc.lift (fillSipBlock ev msg { eWorkType := .video_call, cmd_type := .callAck })
  sendSharedBody msg block

/-- `HandleInfo`, which measures the body itself. -/
def handleInfo (ev : EXosipEvent) (msg : SipMessage) : Service Unit := do
  let block ← Proc.lift (fillSipBlock ev msg { eWorkType := .video_call, cmd_type := .callInfo })
  Proc.emit (.shared block msg.psz_body)

/-- `HandleBye`, which sends no body. -/
def handleBye (ev : EXosipEvent) (msg : SipMessage) : Service Unit := do
  let block ← Proc.lift (fillSipBlock ev msg { eWorkType := .video_call, cmd_type := .callBye })
  Proc.emit (.shared block none)

def handleSubscribe (ev : EXosipEvent) (msg : SipMessage) (block : IpcSipBlock) :
    Service Unit := do
  let block ← Proc.lift (fillSipBlock ev msg block)
  sendSharedBody msg { block with eWorkType := .subscription, cmd_type := .subscribe }

def handleRegSuccess (ev : EXosipEvent) (msg : SipMessage) : Service Unit :=
  sendDataToShared ev msg { eWorkType := .register_info, cmd_type := .registerSuccess }

def handleRegFail (ev : EXosipEvent) (msg : SipMessage) : Service Unit := do
  let svc ← Proc.get
  let status_code ← Proc.lift (deref ev.response)
  if status_code = 401 then
    if E.buildsRegister ev.rid svc.upperDomain.nExpires then
      let (strCSeq, upperDomain) := svc.upperDomain.getStrCSeq
      Proc.update fun svc => { svc with upperDomain := upperDomain }
      Proc.emit (.register upperDomain.m_nRegisterID strCSeq)
    else pure ()
  else if svc.m_nAppWorkMode = 2 then pure ()
  else sendDataToShared ev msg { eWorkType := .register_info, cmd_type := .registerFail }

/-! ## The dispatch -/

/-- `EXOSIP_IN_SUBSCRIPTION_NEW`. -/
def caseInSubscriptionNew (ev : EXosipEvent) (request : OsipMessage) (msg : SipMessage) :
    Service Unit := do
  CSIPService.sendAnsweredByCode ev 200
  if request.isMethod "SUBSCRIBE" then
    let svc ← Proc.get
    if svc.m_nAppWorkMode = 2 then relaySubscription E request
    else
      let sip_block ← Proc.lift
        (parseMessageBody E msg { eWorkType := .subscription, cmd_type := .subscribe })
      handleSubscribe ev msg sip_block
  else pure ()

/-- `EXOSIP_SUBSCRIPTION_NOTIFY`. -/
def caseSubscriptionNotify (ev : EXosipEvent) (request : OsipMessage) (msg : SipMessage) :
    Service Unit := do
  if request.isMethod "NOTIFY" then CSIPService.sendAnsweredByCode ev 200 else pure ()
  let _ ← Proc.lift
    (parseMessageBody E msg { eWorkType := .event_notify, cmd_type := .subscribeNotify })

/-- `EXOSIP_MESSAGE_NEW` at the time `timCurrent`; a value is one `HandleSIP` returns at once. -/
def caseMessageNew (timCurrent : Int) (ev : EXosipEvent) (request : OsipMessage)
    (msg : SipMessage) : Service (Option RetCode) := do
  if request.isMethod "REGISTER" then
    let _ ← regMgrCall request (onRegister E.toEnv (request.toEvent ev.tid))
    return none
  else if ← Proc.lift (isKeepAlive E.toXmlEnv msg.psz_body) then
    let nRet ← regMgrCall request (onKeepAlive E.toEnv timCurrent (request.toEvent ev.tid))
    return some nRet
  else
    let svc ← Proc.get
    if svc.m_nAppWorkMode = 2 then relayMessageNew E ev request
    else
      let sip_block ← Proc.lift
        (parseMessageBody E msg { eWorkType := .default_message, cmd_type := .message })
      handleMessage E ev request msg sip_block
    return none

/-- `EXOSIP_MESSAGE_ANSWERED`. -/
def caseMessageAnswered (ev : EXosipEvent) (request : OsipMessage) (msg : SipMessage) :
    Service Unit := do
  let svc ← Proc.get
  if svc.m_nAppWorkMode = 2 then
    if ← Proc.lift (isKeepAlive E.toXmlEnv msg.psz_body) then pure ()
    else relayMessageAnswered E request
  else sendDataToShared ev msg { eWorkType := .default_message, cmd_type := .messageResponse }

/-- A case with a relay function and a handler. -/
def relayOr (relay handler : Service Unit) : Service Unit := do
  let svc ← Proc.get
  if svc.m_nAppWorkMode = 2 then relay else handler

/-- `EXOSIP_CALL_MESSAGE_NEW`. -/
def caseCallMessageNew (ev : EXosipEvent) (request : OsipMessage) (msg : SipMessage) :
    Service Unit := do
  CSIPService.sendAnsweredByCode ev 200
  if request.isMethod "INFO" then relayOr (relayMessageNew E ev request) (handleInfo ev msg)
  else pure ()

/-- `EXOSIP_REGISTRATION_SUCCESS`. -/
def caseRegistrationSuccess (ev : EXosipEvent) (request : OsipMessage) (msg : SipMessage) :
    Service (Option RetCode) := do
  onRegisterToSucess E request
  let svc ← Proc.get
  if svc.m_nAppWorkMode = 2 then return some (.value 0)
  else
    handleRegSuccess ev msg
    return none

/-- A case that ends with `break`. -/
def thenBreak (m : Service Unit) : Service (Option RetCode) := do
  m
  return none

/-- The switch of `HandleSIP`: the value it returns from inside, `none` after a `break`. -/
def handleRequest (timCurrent : Int) (ev : EXosipEvent) (request : OsipMessage) :
    Service (Option RetCode) :=
  let sip_msg_reqst := parserMessage request
  match ev.type with
  | .inSubscriptionNew => thenBreak (caseInSubscriptionNew E ev request sip_msg_reqst)
  | .subscriptionNotify => thenBreak (caseSubscriptionNotify E ev request sip_msg_reqst)
  | .messageNew => caseMessageNew E timCurrent ev request sip_msg_reqst
  | .messageAnswered => thenBreak (caseMessageAnswered E ev request sip_msg_reqst)
  | .callInvite =>
    thenBreak (relayOr (relayCallInvite request) (handleInvite E ev sip_msg_reqst))
  | .callAnswered => thenBreak (handleInviteResponse ev sip_msg_reqst)
  | .callAck => thenBreak (relayOr (relayCallAck E ev request) (handleACK ev sip_msg_reqst))
  | .callMessageNew => thenBreak (caseCallMessageNew E ev request sip_msg_reqst)
  | .callClosed =>
    if request.isMethod "BYE" then
      thenBreak (relayOr (relayCallClosed ev request) (handleBye ev sip_msg_reqst))
    else return none
  | .registrationSuccess => caseRegistrationSuccess E ev request sip_msg_reqst
  | .registrationFailure => thenBreak (handleRegFail E ev sip_msg_reqst)
  | _ => return none

/-- The rest of `HandleSIP` behind the switch, which a `return` inside it skips. -/
def afterSwitch (ev : EXosipEvent) : Option RetCode → Service RetCode
  | some nRet => return nRet
  | none => do
    Proc.emit (.eventFree ev.tid)
    return .value 0

/-- `HandleSIP`, with the event `eXosip_event_wait` returned. -/
def handleSIP (timCurrent : Int) (m_pEvent : Option EXosipEvent) : Service RetCode := do
  match m_pEvent with
  | none => return .value 0
  | some ev =>
    match ev.request with
    | none => afterSwitch ev none
    | some request =>
      Proc.emit (.defaultAction ev.tid)
      afterSwitch ev (← handleRequest E timCurrent ev request)

end GB28181.SipCom
