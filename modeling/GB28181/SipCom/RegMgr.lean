import GB28181.Base.Map
import GB28181.Base.Proc
import GB28181.SipCom.Digest
import GB28181.SipCom.RegisterObject
import GB28181.GBUtils.Base64

/-!
# The registration manager (`RegMgrCom/UASSipRegMgr.cpp`)

The request handlers of `SipRegMgr` as calls on its state: the register table, the record of the
current platform and the path of the configuration file.  A response is recorded by the call
that sends it.

* `onRegister` with `checkRegMsgHeader`, `getRegisteringStatus` and the `dealStatus_` handlers;
* `onKeepAlive`;
* `onModifyPassword`, on the fields `ParseModifyuserPassword` took from the body.

`m_RegisterObjects[id]` inserts a record where there is none; a record pointer is the key of the
record it points to.
-/

set_option autoImplicit false

namespace GB28181.SipCom

open GB28181.Base GB28181.GBUtils

/-- `eXosip_event_t` with its request: transaction, From and Contact addresses, the headers
without a parser of their own and the Authorization headers. -/
structure Event where
  tid : Int
  pFrom : Option (Option Uri)
  contacts : List (Option Uri)
  headers : List Header
  authorizations : List Authorization
  deriving DecidableEq

structure SipRegMgr where
  m_RegisterObjects : Map CStr SipRegisterObject
  m_CurPlatform : SipRegisterObject
  m_strConfigpath : CStr
  deriving DecidableEq

/-- What a handler does outside the manager. -/
inductive Effect where
  /-- `SendRegAnsweredByCode` -/
  | regAnswer (tid nCode nExpires : Int)
  /-- `SendAnsweredByCode` -/
  | answer (tid nCode : Int)
  /-- `WritePrivateProfileString` -/
  | writeProfile (appName keyName value fileName : CStr)
  deriving DecidableEq

/-- How a handler can end other than by returning. -/
inductive Fault where
  /-- the null `hvalue` of a header is read as a number -/
  | nullHeaderValue
  /-- the exception of `std::stoi` -/
  | badNumber
  /-- the null record pointer is read -/
  | nullRecord
  /-- `Base64Decode` writes behind the array of `BASE64Cryptor::Decode` -/
  | bufferOverflow
  /-- `sprintf_s` aborts on a text that does not fit -/
  | invalidParameter
  deriving DecidableEq

inductive RetCode where
  | value (n : Int)
  | usermanagerInitError
  | notfindContactError
  deriving DecidableEq

abbrev Handler := Proc SipRegMgr Effect Fault

/-- What the handlers use from outside the repository: the two MD5 implementations as arbitrary
functions and the default-constructed record, which has no ID and is not `STATUS_REGISTER_EXIT`. -/
structure Env where
  md5 : Md5
  osipMd5 : Md5
  fresh : SipRegisterObject
  fresh_id : fresh.strDeviceID = []
  fresh_status : fresh.nStatus ≠ .registerExit

variable (E : Env)

/-! ## The table -/

/-- `m_RegisterObjects[id]`. -/
def registerObject (id : CStr) : Handler SipRegisterObject := do
  let mgr ← Proc.get
  Proc.update fun mgr =>
    { mgr with m_RegisterObjects := Map.touch mgr.m_RegisterObjects id E.fresh }
  return Map.index mgr.m_RegisterObjects id E.fresh

/-- The manager after an assignment to a member of `m_RegisterObjects[id]`. -/
def SipRegMgr.setObject (mgr : SipRegMgr) (id : CStr)
    (f : SipRegisterObject → SipRegisterObject) : SipRegMgr :=
  { mgr with m_RegisterObjects := Map.modify mgr.m_RegisterObjects id E.fresh f }

/-- `GetRegisterObjectInfo`; `none` is the result `false`, the pointer then stays null. -/
def getRegisterObjectInfo (id : CStr) : Handler (Option CStr) := do
  let object ← registerObject E id
  return if object.strDeviceID.isEmpty then none else some id

def readObject (p : Option CStr) : Handler SipRegisterObject :=
  match p with
  | none => Proc.lift (.error .nullRecord)
  | some id => registerObject E id

def modifyDomainPasswdById (id newPassWord : CStr) : Handler Bool := do
  let object ← registerObject E id
  if object.strDeviceID.isEmpty then return false
  Proc.update (·.setObject E id fun object => { object with strPassWord := newPassWord })
  return true

def sendRegAnsweredByCode (tid nCode nExpires : Int) : Handler Unit :=
  Proc.emit (.regAnswer tid nCode nExpires)

def sendAnsweredByCode (tid nCode : Int) : Handler Unit := Proc.emit (.answer tid nCode)

/-! ## Header checks

`none` is the result `false`.  Of a record that was refused only `nExpires` is read afterwards,
which no check has changed by then. -/

def checkMsgHeader_FromTo (ev : Event) (o : SipRegisterObject) : Option SipRegisterObject :=
  match ev.pFrom with
  | some (some url) => url.username.map fun username => { o with strDeviceID := username }
  | _ => none

/-- `std::stoi`, with the exception it throws. -/
def stoiE (s : CStr) : Except Fault Int :=
  match stoi s with
  | some n => .ok n
  | none => .error .badNumber

def checkMsgHeader_Contact (ev : Event) (o : SipRegisterObject) :
    Except Fault (Option SipRegisterObject) :=
  match ev.contacts.head? with
  | some (some ⟨some username, some host, some port⟩) => do
    let nPort ← stoiE port
    return some { o with strDeviceID := username, strIP := host, nPort := nPort }
  | _ => .ok none

def checkMsgHeader (ev : Event) (o : SipRegisterObject) (with_contact : Bool) :
    Except Fault (Option SipRegisterObject) :=
  match checkMsgHeader_FromTo ev o with
  | none => .ok none
  | some o => if with_contact then checkMsgHeader_Contact ev o else .ok (some o)

/-- The part of `CheckRegMsgHeader` after `CheckMsgHeader`: the first header named `expires`. -/
def checkExpires (ev : Event) (o : SipRegisterObject) : Except Fault (Option SipRegisterObject) :=
  match ev.headers.find? (fun h => h.hname = str "expires") with
  | none => .ok none
  | some ⟨_, none⟩ => .error .nullHeaderValue
  | some ⟨_, some hvalue⟩ => do
    let nExpires ← stoiE hvalue
    let o := { o with nExpires := nExpires }
    return some (if nExpires = 0 then { o with nStatus := .registerExit } else o)

def checkRegMsgHeader (ev : Event) (o : SipRegisterObject) :
    Handler (Option SipRegisterObject) := do
  match ← Proc.lift (checkMsgHeader ev o true) with
  | none =>
    sendAnsweredByCode ev.tid 403
    return none
  | some o => Proc.lift (checkExpires ev o)

/-! ## REGISTER -/

/-- `CheckRegAuthentication`.  The text it compares is the digest itself, copied into a string. -/
def checkRegAuthentication (ev : Event) (o : SipRegisterObject) : Handler Bool := do
  match ev.authorizations.head? with
  | none =>
    sendRegAnsweredByCode ev.tid 401 o.nExpires
    return false
  | some pAuthInfo =>
    let Response := authorizationDigest E.md5 pAuthInfo o.strPassWord
    let strResponse := Response
    return strResponse == Response

/-- `DealStatus_Send401`; it returns the caller's record as it leaves it. -/
def dealStatus_Send401 (ev : Event) (o : SipRegisterObject) : Handler SipRegisterObject := do
  let o := { o with nStatus := .sent401Unauthorized }
  sendRegAnsweredByCode ev.tid 401 o.nExpires
  return o

def dealStatus_Sent401 (ev : Event) (o : SipRegisterObject) : Handler Unit := do
  if ← checkRegAuthentication E ev o then
    Proc.update (·.setObject E o.strDeviceID fun r => { r with nStatus := .registerSuccess })
    Proc.update ({ · with m_CurPlatform := o })
    sendRegAnsweredByCode ev.tid 200 o.nExpires
  else
    Proc.update (·.setObject E o.strDeviceID fun r => { r with nStatus := .sendt403Forbidden })
    sendRegAnsweredByCode ev.tid 403 o.nExpires

def dealStatus_DefaultRegister (ev : Event) (o : SipRegisterObject) : Handler Unit := do
  let final_status :=
    if o.nStatus = .registerExit then RegStatus.registerExit else .registerSuccess
  Proc.update (·.setObject E o.strDeviceID fun r => { r with nStatus := final_status })
  Proc.update ({ · with m_CurPlatform := o })
  sendRegAnsweredByCode ev.tid 200 o.nExpires

/-- `DealStatus_Send403`; it returns the caller's record as it leaves it. -/
def dealStatus_Send403 (ev : Event) (o : SipRegisterObject) : Handler SipRegisterObject := do
  let o := { o with nStatus := .notRegister }
  sendRegAnsweredByCode ev.tid 403 o.nExpires
  return o

/-- The switch of `GetRegisteringStatus` for a record found in the table. -/
def registeringStatus (o localCheckObject : SipRegisterObject) : RegStatus :=
  match localCheckObject.nStatus with
  | .notRegister =>
    -- the second `if` overwrites the choice of the first
    if o.nStatus = .registerExit then .send403Forbidden
    else if localCheckObject.nNeedAuth ≠ 0 then .send401Unauthorized
    else .registerDefault
  | .registerSuccess =>
    if localCheckObject.nNeedAuth ≠ 0 then .send401Unauthorized else .registerDefault
  | s => s

def getRegisteringStatus (o : SipRegisterObject) : Handler RegStatus := do
  match ← getRegisterObjectInfo E o.strDeviceID with
  | none => return .send403Forbidden
  | some p => return registeringStatus o (← readObject E (some p))

def onRegister (ev : Event) : Handler RetCode := do
  match ← checkRegMsgHeader ev E.fresh with
  | none =>
    sendRegAnsweredByCode ev.tid 403 E.fresh.nExpires
    return .value 0
  | some o =>
    match ← getRegisteringStatus E o with
    | .send401Unauthorized => let _ ← dealStatus_Send401 ev o
    | .sent401Unauthorized => dealStatus_Sent401 E ev o
    | .send403Forbidden => let _ ← dealStatus_Send403 ev o
    | .registerSuccess | .registerDefault => dealStatus_DefaultRegister E ev o
    | _ => pure ()
    return .value 0

/-! ## Keep-alive -/

/-- `OnKeepAlive` at the time `timCurrent`. -/
def onKeepAlive (timCurrent : Int) (ev : Event) : Handler RetCode := do
  match ← Proc.lift (checkMsgHeader ev E.fresh false) with
  | none =>
    sendAnsweredByCode ev.tid 403
    return .usermanagerInitError
  | some o =>
    let localCacheObject ← getRegisterObjectInfo E o.strDeviceID
    -- the log line prints `localCacheObject->strDeviceID` before `ret` is tested
    let _ ← readObject E localCacheObject
    match localCacheObject with
    | none =>
      sendAnsweredByCode ev.tid 403
      return .value 0
    | some id =>
      Proc.update (·.setObject E id fun r => { r with timLastKeepAlive := timCurrent })
      sendAnsweredByCode ev.tid 200
      return .value 0

/-! ## Password change -/

/-- `SIP_OBJECT_PASSWD_T`. -/
structure SipObjectPasswd where
  cmdType : CStr
  sn : CStr
  deviceId : CStr
  nonce : CStr
  nonce1 : CStr
  algorithm : CStr
  result : CStr
  deriving DecidableEq

def getMd5String (input : CStr) : CStr := (E.osipMd5 input).bytes.flatMap fmt02x

/-- The loop of `ParseDataByDelimit` with the piece read so far. -/
def parseDataByDelimit (delimit : UInt8) : CStr → CStr → List CStr
  | str1, [] => [str1]
  | str1, c :: fromInfo =>
    if c = delimit then str1 :: parseDataByDelimit delimit [] fromInfo
    else parseDataByDelimit delimit (str1 ++ [c]) fromInfo

/-- `PackModifyPasswordRet`, with its buffer of 512 bytes. -/
def packModifyPasswordRet (info : SipObjectPasswd) : Except Fault CStr :=
  let tmpBuf := str "<?xml version=\"1.0\" ?><Response><CmdType>DeviceControl</CmdType><SN>" ++
    cStr info.sn ++ str "</SN><DeviceID>" ++ cStr info.deviceId ++ str "</DeviceID><Result>" ++
    cStr info.result ++ str "</Result></Response>"
  if tmpBuf.length < 512 then .ok tmpBuf else .error .invalidParameter

/-- `BASE64Cryptor().Decode` on a whole string. -/
def decodeE (s : CStr) : Except Fault CStr :=
  match decode s s.length with
  | some t => .ok t
  | none => .error .bufferOverflow

def modifyPassword (password : CStr) : Handler Unit := do
  let mgr ← Proc.get
  Proc.emit (.writeProfile (str "GATEWAY_INFO") (str "Password") (cStr password)
    mgr.m_strConfigpath)

def onModifyPassword (ev : Event) (passWordInfo : SipObjectPasswd) : Handler RetCode := do
  match ← Proc.lift (checkMsgHeader ev E.fresh true) with
  | none => return .notfindContactError
  | some localCacheObject =>
    match ← getRegisterObjectInfo E localCacheObject.strDeviceID with
    | none => return .value 0
    | some _ =>
      let passWordInfo := { passWordInfo with result := str "OK" }
      let inputStr := passWordInfo.nonce ++ str ":" ++ localCacheObject.strPassWord
      let md5Str := getMd5String E inputStr
      let nonce1 ← Proc.lift (decodeE passWordInfo.nonce1)
      if md5Str ≠ nonce1 then
        let _ ← Proc.lift (packModifyPasswordRet { passWordInfo with result := str "NGN" })
        return .value 0
      let fromInfo ← Proc.lift (decodeE passWordInfo.nonce)
      let newPassWord := (parseDataByDelimit 0x3a [] fromInfo).getLastD []
      let _ ← modifyDomainPasswdById E localCacheObject.strDeviceID newPassWord
      modifyPassword newPassWord
      let _ ← Proc.lift (packModifyPasswordRet passWordInfo)
      return .value 1

/-! ## Requests -/

inductive Request where
  | register (ev : Event)
  | keepAlive (timCurrent : Int) (ev : Event)
  | modifyPassword (ev : Event) (passWordInfo : SipObjectPasswd)

def handle : Request → Handler RetCode
  | .register ev => onRegister E ev
  | .keepAlive timCurrent ev => onKeepAlive E timCurrent ev
  | .modifyPassword ev passWordInfo => onModifyPassword E ev passWordInfo

def serve (mgr : SipRegMgr) (req : Request) : SipRegMgr := (handle E req mgr).state

end GB28181.SipCom
