import GB28181.Base.CString
import GB28181.Base.Token
import GB28181.Base.Trim
import Mathlib.Data.List.Infix

/-!
# RTSP messages (`RTSPCom/RTSPParser.h`, `RTSPCom/RTSPParser.cpp`)

The infos of the eight requests, their `Encode` functions and `DecodeUnknowMsg`.  A text is the
list of its bytes.  `SDPParser` is not part of the repository; of a message with a session
description the text given to it is kept.

* `encodeRequest` — the text the encoders write: the first line, a line for every header field that
  is not empty, an empty line;
* `decodeFirstLine`, `headerLoop` — the two parts of the decoder; a header field is stored at the
  position its name has in `m_oHeadMap`, and the last name has one that `m_strHeader` does not.
-/

set_option autoImplicit false

namespace GB28181.RTSPCom

open GB28181.Base

/-- `RTSP_STRING_ENTER`. -/
def enter : CStr := [0x0d, 0x0a]

/-- `RTSP_STRING_BLANK`. -/
def blank : UInt8 := 0x20

/-- `RTSP_STRING_COLON`. -/
def colon : UInt8 := 0x3a

/-! ## Infos -/

/-- `RTSP_INFO_BASE`. -/
structure InfoBase where
  method : CStr := []
  url : CStr := []
  version : CStr := str "RTSP/1.0"
  sequence : CStr := []
  user_agent : CStr := []

structure OptionInfo extends InfoBase where
  method := str "OPTIONS"

structure DescribeInfo extends InfoBase where
  method := str "DESCRIBE"
  token : CStr := []
  accept : CStr := str "application/sdp"
  require : CStr := []

structure SetupInfo extends InfoBase where
  method := str "SETUP"
  transport : CStr := []
  session : CStr := []

structure PlayInfo extends InfoBase where
  method := str "PLAY"
  session : CStr := []
  range : CStr := []
  scale : CStr := []
  speed : CStr := []

structure PauseInfo extends InfoBase where
  method := str "PAUSE"
  session : CStr := []
  range : CStr := []

structure GetParameterInfo extends InfoBase where
  method := str "GET_PARAMETER"
  session : CStr := []

/-- `RECORD_INFO`; its own `user_agent` hides the inherited one. -/
structure RecordInfo extends InfoBase where
  method := str "RECORD"
  user_agent := str "None"
  range : CStr := []

structure TeardownInfo extends InfoBase where
  method := str "TEARDOWN"
  session : CStr := []

/-! ## Encoding -/

def requestLine (info : InfoBase) : CStr :=
  info.method ++ blank :: (info.url ++ blank :: info.version)

/-- A header line, without its line end. -/
def headerLine (h : CStr × CStr) : CStr := h.1 ++ colon :: blank :: h.2

/-- The line of a header field, if there is something to write. -/
def encodeHeader (h : CStr × CStr) : CStr := if h.2 = [] then [] else headerLine h ++ enter

/-- The text of a request with the given header fields. -/
def encodeRequest (info : InfoBase) (headers : List (CStr × CStr)) : CStr :=
  requestLine info ++ enter ++ headers.flatMap encodeHeader ++ enter

/-- The header fields `EncodeOption` writes. -/
def OptionInfo.headers (info : OptionInfo) : List (CStr × CStr) :=
  [(str "CSeq", info.sequence), (str "User-Agent", info.user_agent)]

/-- `EncodeOption`, which appends to the text it is given. -/
def encodeOption (info : OptionInfo) (pstrValue : CStr) : CStr :=
  pstrValue ++ encodeRequest info.toInfoBase info.headers

def DescribeInfo.headers (info : DescribeInfo) : List (CStr × CStr) :=
  [(str "CSeq", info.sequence), (str "Token", info.token), (str "Require", info.require),
    (str "Accept", info.accept), (str "User-Agent", info.user_agent)]

def encodeDescribe (info : DescribeInfo) : CStr := encodeRequest info.toInfoBase info.headers

def SetupInfo.headers (info : SetupInfo) : List (CStr × CStr) :=
  [(str "CSeq", info.sequence), (str "Transport", info.transport), (str "Session", info.session),
    (str "User-Agent", info.user_agent)]

def encodeSetup (info : SetupInfo) : CStr := encodeRequest info.toInfoBase info.headers

/-- The speed goes out under the name of the range. -/
def PlayInfo.headers (info : PlayInfo) : List (CStr × CStr) :=
  [(str "CSeq", info.sequence), (str "Session", info.session), (str "Scale", info.scale),
    (str "Range", info.speed), (str "Range", info.range), (str "User-Agent", info.user_agent)]

def encodePlay (info : PlayInfo) : CStr := encodeRequest info.toInfoBase info.headers

def PauseInfo.headers (info : PauseInfo) : List (CStr × CStr) :=
  [(str "CSeq", info.sequence), (str "Session", info.session), (str "Range", info.range),
    (str "User-Agent", info.user_agent)]

def encodePause (info : PauseInfo) : CStr := encodeRequest info.toInfoBase info.headers

-- the last three leave the user agent out

def GetParameterInfo.headers (info : GetParameterInfo) : List (CStr × CStr) :=
  [(str "CSeq", info.sequence), (str "Session", info.session)]

def encodeGetParameter (info : GetParameterInfo) : CStr :=
  encodeRequest info.toInfoBase info.headers

def RecordInfo.headers (info : RecordInfo) : List (CStr × CStr) :=
  [(str "CSeq", info.sequence), (str "Range", info.range)]

def encodeRecord (info : RecordInfo) : CStr := encodeRequest info.toInfoBase info.headers

def TeardownInfo.headers (info : TeardownInfo) : List (CStr × CStr) :=
  [(str "CSeq", info.sequence), (str "Session", info.session)]

def encodeTeardown (info : TeardownInfo) : CStr := encodeRequest info.toInfoBase info.headers

/-! ## Decoded messages -/

inductive RTSPMsgType where
  | rmt_unknown
  | rmt_response
  | rmt_announce
  | rmt_setparameter
deriving DecidableEq

/-- The names in `m_oHeadMap`, in lower case and in the order of their positions. -/
def headNames : List CStr :=
  [str "server", str "cseq", str "public", str "content-length", str "content-type",
    str "content-base", str "last-modified", str "cache-control", str "date", str "expires",
    str "transport", str "session", str "range", str "rtp-info", str "user-agent", str "token",
    str "accept", str "require", str "scale"]

/-- `m_oHeadMap.Lookup` of a name in any case. -/
def headIndex (strName : CStr) : Option Nat := headNames.idxOf? (strName.map toLower)

/-- `RTSP_Unknown_Msg`; `m_oSdpStack` is the text it was decoded from. -/
structure RTSPUnknownMsg where
  m_strVersion : CStr := []
  m_strStatus : CStr := []
  m_strMethod : CStr := []
  m_strURL : CStr := []
  m_eMsgType : RTSPMsgType := .rmt_unknown
  m_strHeader : Vector CStr 18 := Vector.replicate 18 []
  m_oSdpStack : Option CStr := none

/-- An access outside of `m_strHeader`. -/
inductive HeaderFault where
  | outOfRange
deriving DecidableEq

namespace RTSPUnknownMsg

def setVersion (msg : RTSPUnknownMsg) (strVersion : CStr) : RTSPUnknownMsg :=
  { msg with m_strVersion := trim isSpace strVersion }

def setStatus (msg : RTSPUnknownMsg) (strStatus : CStr) : RTSPUnknownMsg :=
  { msg with m_strStatus := trim isSpace strStatus }

def setMsgType (msg : RTSPUnknownMsg) (eMsgType : RTSPMsgType) : RTSPUnknownMsg :=
  { msg with m_eMsgType := eMsgType }

def setMethod (msg : RTSPUnknownMsg) (strMethod : CStr) : RTSPUnknownMsg :=
  let msg := { msg with m_strMethod := strMethod }
  if stricmpEq strMethod (str "SET_PARAMETER") then msg.setMsgType .rmt_setparameter
  else if stricmpEq strMethod (str "ANNOUNCE") then msg.setMsgType .rmt_announce
  else msg

def setURL (msg : RTSPUnknownMsg) (strURL : CStr) : RTSPUnknownMsg :=
  { msg with m_strURL := strURL }

def setFieldValue (msg : RTSPUnknownMsg) (h : CStr × CStr) : Except HeaderFault RTSPUnknownMsg :=
  match headIndex h.1 with
  | none => .ok msg
  | some nIdx =>
    if hn : nIdx < 18 then .ok { msg with m_strHeader := msg.m_strHeader.set nIdx h.2 }
    else .error .outOfRange

/-- `GetFieldValue`; `none` for a name that is not in the map. -/
def getFieldValue (msg : RTSPUnknownMsg) (strFieldName : CStr) : Except HeaderFault (Option CStr) :=
  match headIndex strFieldName with
  | none => .ok none
  | some nIdx =>
    if hn : nIdx < 18 then .ok (some msg.m_strHeader[nIdx]) else .error .outOfRange

def fieldValue (msg : RTSPUnknownMsg) (strFieldName : CStr) : CStr :=
  match msg.getFieldValue strFieldName with
  | .ok (some strFieldValue) => strFieldValue
  | _ => []

end RTSPUnknownMsg

/-! ## Decoding -/

/-- `CString::Find`: where the text first occurs, `-1` if it does not. -/
def find (strSub s : CStr) : Int :=
  match breakOn strSub s with
  | some p => p.1.length
  | none => -1

/-- The characters `Trim(" \r\n")` takes off. -/
def isBlankOrEnter (c : UInt8) : Bool := c == blank || enter.contains c

/-- The first line, and whether header lines are read behind it; `none` for a request without a
blank. -/
def decodeFirstLine (strFirstLine : CStr) (msg : RTSPUnknownMsg) : Option (RTSPUnknownMsg × Bool) :=
  if str "RTSP" <+: strFirstLine then
    match breakOn [blank] strFirstLine with
    | none => some (msg.setStatus strFirstLine, false)
    | some (strVersion, strStatus) => some ((msg.setVersion strVersion).setStatus strStatus, true)
  else
    match breakOn [blank] strFirstLine with
    | none => none
    | some (strMethod, strFirstLine) =>
      match breakOn [blank] strFirstLine with
      | none => some ((msg.setMethod strMethod).setVersion strFirstLine, true)
      | some (strURL, strVersion) =>
        some (((msg.setMethod strMethod).setURL strURL).setVersion strVersion, true)

/-- What follows an empty line.  A text of 260 characters or more is not one of the two that
`szContentType` is compared with, cut or not. -/
def decodeBody (strBody : CStr) (msg : RTSPUnknownMsg) : RTSPMsgType × RTSPUnknownMsg :=
  let szContentType := cStr (msg.fieldValue (str "Content-Type"))
  if szContentType = str "application/sdp" then
    (msg.m_eMsgType, { msg with m_oSdpStack := some strBody })
  else if szContentType = str "application/json" then
    let nSSPos := find (str "stream-state") strBody
    let nEndPos := find (str "end") strBody
    if 0 ≥ nSSPos ∨ 0 ≥ nEndPos ∨ nSSPos > nEndPos then (.rmt_unknown, msg)
    else (msg.m_eMsgType, msg)
  else (.rmt_unknown, msg)

def headerLoop (strTempContext : CStr) (msg : RTSPUnknownMsg) :
    Except HeaderFault (RTSPMsgType × RTSPUnknownMsg) :=
  match _h : breakOn enter strTempContext with
  | none => .ok (msg.m_eMsgType, msg)
  | some ([], strBody) => .ok (decodeBody strBody msg)
  | some (strSegment, strTail) =>
    match breakOn [colon] strSegment with
    | none => .ok (.rmt_unknown, msg)
    | some (strFieldName, strFieldValue) =>
      match msg.setFieldValue (strFieldName, trim isSpace strFieldValue) with
      | .ok msg => headerLoop strTail msg
      | .error e => .error e
  termination_by strTempContext.length
  decreasing_by exact breakOn_length_lt _h (Or.inl (List.cons_ne_nil _ _))

def decodeUnknowMsg (pszContext : CStr) (msg : RTSPUnknownMsg) :
    Except HeaderFault (RTSPMsgType × RTSPUnknownMsg) :=
  let strTempContext := trim isBlankOrEnter (cStr pszContext) ++ enter
  let msg := msg.setMsgType .rmt_response
  match breakOn enter strTempContext with
  | none => .ok (.rmt_unknown, msg)
  | some (strFirstLine, strTempContext) =>
    match decodeFirstLine strFirstLine msg with
    | none => .ok (.rmt_unknown, msg)
    | some (msg, false) => .ok (msg.m_eMsgType, msg)
    | some (msg, true) => headerLoop strTempContext msg

end GB28181.RTSPCom
