import GB28181.Base.Decimal
import GB28181.Base.Placement
import GB28181.Platform.XMLBodyBuilder

/-!
# The body builders (`SIPCom/BodyBuilder.cpp`)

A builder sums up lengths, refuses a buffer that is too small, and copies its tags and texts one
behind the other.  Each function of `CBodyBuilder` that is given a buffer and its length is the
record of these: its test, its pieces in the order of the copies, whether it writes a terminator
and what it sets `nBufLen` to.

* `Builder`, `Builder.run` — a builder and what a call of it does to the buffer;
* one definition for each function, under its name.
-/

set_option autoImplicit false

namespace GB28181.Platform.BodyBuilder

open GB28181.Base

def szRcordType : Fin 4 → CStr
  | 0 => str "all"
  | 1 => str "manual"
  | 2 => str "alarm"
  | 3 => str "time"

/-- The lengths that come from `Common`: a buffer for a type of record holds every one. -/
structure Lengths where
  ID_LEN : Nat
  TIME_LEN : Nat
  RECORD_TYPE_BUF_LEN : Nat
  holdsType : ∀ nRecordType, (szRcordType nRecordType).length < RECORD_TYPE_BUF_LEN

def Lengths.ID_BUF_LEN (l : Lengths) : Nat := l.ID_LEN + 1

def Lengths.TIME_BUF_LEN (l : Lengths) : Nat := l.TIME_LEN + 1

/-- `n` bytes from where a text begins; zeros stand for what is behind a shorter one. -/
def bytesAt (n : Nat) (s : CStr) : CStr := (s ++ List.replicate n 0).take n

/-- `Format("%d")`. -/
def formatInt (n : Int) : CStr := str (toString n)

/-- A pointer to a text that is not empty. -/
def given (s : Option CStr) : Bool := s.any (· ≠ [])

/-- What `nBufLen` is compared with: it is refused below a length, or up to it. -/
inductive Test where
  | below (n : Nat)
  | upTo (n : Nat)

/-- The least length that is not refused. -/
def Test.need : Test → Nat
  | .below n => n
  | .upTo n => n + 1

/-- A function of `CBodyBuilder`, with its arguments. -/
structure Builder where
  test : Test
  pieces : List Piece
  /-- The last copy takes the terminator along. -/
  terminated : Bool
  /-- What `nBufLen` is set to, where it is an output. -/
  nBufLen : Option Nat := none
  /-- The texts that are formatted on the way fit their buffers. -/
  formats : Bool := true

inductive Outcome where
  /-- `ERROR_NOACCESS`. -/
  | refused
  /-- `sprintf_s` ends the process. -/
  | aborted
  | written (copies : List Copy) (terminator : Option Nat) (nBufLen : Option Nat)

def Builder.run (b : Builder) (nBufLen : Int) : Outcome :=
  if nBufLen < b.test.need then .refused
  else if b.formats = false then .aborted
  else .written (place 0 b.pieces) (if b.terminated then some (advance b.pieces) else none)
    b.nBufLen

section builders

variable (l : Lengths)

def createKeepaliveBody (pszSN pszDevID : CStr) : Builder :=
  let strVersion := str "<?xml version=\"1.0\" encoding=\"gb2312\"?>\r\n" ++
    str "<Notify>\r\n<CmdType>Keepalive</CmdType>\r\n<SN>"
  let strSNTag := str "</SN>\r\n<DeviceID>"
  let strEndTag := str "</DeviceID>\r\n<Status>OK</Status>\r\n</Notify>\r\n"
  { test := .below (strVersion.length + strSNTag.length + strEndTag.length + pszSN.length +
      l.ID_BUF_LEN)
    pieces := [.text strVersion, .text pszSN, .text strSNTag, .text (bytesAt l.ID_LEN pszDevID),
      .text strEndTag]
    terminated := true }

/-- `CreateAlarmBodyNew`: the test leaves out every text. -/
def createAlarmBodyNew (pszSN pszDeviceID alarmPriority alarmMethod alarmTime alarmDescription
    longitude latitude alarmType alarmStatus : Option CStr) : Builder :=
  let strVersion :=
    str "<?xml version=\"1.0\"?>\r\n<Notify>\r\n<CmdType>Alarm</CmdType>\r\n<SN>"
  let strSNTag := str "</SN>\r\n<DeviceID>"
  let strDeviceTag := str "</DeviceID>\r\n"
  let strAlarmPriorityTagS := str "<AlarmPriority>"
  let strAlarmPriorityTagE := str "</AlarmPriority>\r\n"
  let strAlarmMethodTagS := str "<AlarmMethod>"
  let strAlarmMethodTagE := str "</AlarmMethod>\r\n"
  let strAlarmTimeTagS := str "<AlarmTime>"
  let strAlarmTimeTagE := str "</AlarmTime>\r\n"
  let strAlarmDescriptionTagS := str "<AlarmDescription>"
  let strAlarmDescriptionTagE := str "</AlarmDescription>\r\n<Longitude>"
  let strLongitudeTag := str "</Longitude>\r\n<Latitude>"
  let strLatitudeTag := str "</Latitude>\r\n<AlarmType>"
  let strAlarmTypeTag := str "</AlarmType>\r\n<AlarmStatus>"
  let strAlarmStatusTag := str "</AlarmStatus>\r\n</Notify>\r\n"
  { test := .upTo (strVersion.length + strSNTag.length + strDeviceTag.length +
      strAlarmPriorityTagS.length + strAlarmPriorityTagE.length + strAlarmMethodTagS.length +
      strAlarmMethodTagE.length + strAlarmTimeTagS.length + strAlarmTimeTagE.length +
      strAlarmDescriptionTagS.length + strAlarmDescriptionTagE.length + strLatitudeTag.length +
      strLongitudeTag.length + strAlarmTypeTag.length + strAlarmStatusTag.length)
    pieces := [Piece.text strVersion, .text (pszSN.getD []), .text strSNTag] ++
      pieceIf (given pszDeviceID) [.buf (bytesAt l.ID_BUF_LEN (pszDeviceID.getD []))] ++
      [Piece.text strDeviceTag, .text strAlarmPriorityTagS, .text (alarmPriority.getD []),
        .text strAlarmPriorityTagE, .text strAlarmMethodTagS, .text (alarmMethod.getD []),
        .text strAlarmMethodTagE, .text strAlarmTimeTagS, .text (alarmTime.getD []),
        .text strAlarmTimeTagE, .text strAlarmDescriptionTagS, .text (alarmDescription.getD []),
        .text strAlarmDescriptionTagE, .text (longitude.getD []), .text strLongitudeTag,
        .text (latitude.getD []), .text strLatitudeTag, .text (alarmType.getD []),
        .text strAlarmTypeTag, .text (alarmStatus.getD []), .text strAlarmStatusTag]
    terminated := true }

/-- The text of `createSubscribeResponse`. -/
def subscribeResponseText (pszSn pszDeviceId cmdType result : CStr) : CStr :=
  str "<?xml version=\"1.0\" ?><Response>\r\n<CmdType>" ++ cmdType ++ str "</CmdType>\r\n<SN>" ++
    pszSn ++ str "</SN>\r\n<DeviceID>" ++ pszDeviceId ++ str "</DeviceID>\r\n<Result>" ++ result ++
    str "</Result>\r\n</Response>\r\n"

/-- `createSubscribeResponse`: `sprintf_s` compares the length, as a number without a sign. -/
def createSubscribeResponse (pszSn pszDeviceId cmdType result : CStr) (nBufLen : Int) : Outcome :=
  let text := subscribeResponseText pszSn pszDeviceId cmdType result
  if 0 ≤ nBufLen ∧ nBufLen ≤ text.length then .aborted
  else .written [⟨0, text⟩] (some text.length) none

/-- `CreateAlarmBody`: the test leaves out `strDeviceIDTag` and the time. -/
def createAlarmBody (pszSN pszDevID pszDescription : CStr) (nLevel : UInt8) (pszTime : CStr) :
    Builder :=
  let strVersion := str "<?xml version=\"1.0\" encoding=\"gb2312\"?>\r\n" ++
    str "<Notify>\r\n<CmdType>Alarm</CmdType>\r\n<SN>"
  let strSNTag := str "</SN>\r\n<DeviceID>"
  let strDeviceIDTag := str "</DeviceID>\r\n<AlarmPriority>"
  let strPriorityTag :=
    str "</AlarmPriority>\r\n<AlarmMethod>2</AlarmMethod>\r\n<AlarmDescription>"
  let strDescriptionTag := str "</AlarmDescription>\r\n<AlarmTime>"
  let strEndTag := str "</AlarmTime>\r\n</Notify>\r\n"
  let szGrade := toText nLevel.toNat
  { test := .below (strVersion.length + strSNTag.length + strDescriptionTag.length +
      strPriorityTag.length + strEndTag.length + pszSN.length + l.ID_BUF_LEN + szGrade.length +
      pszDescription.length)
    pieces := [.text strVersion, .text pszSN, .text strSNTag, .text (bytesAt l.ID_LEN pszDevID),
      .text strDeviceIDTag, .text szGrade, .text strPriorityTag, .text pszDescription,
      .text strDescriptionTag, .text pszTime, .text strEndTag]
    terminated := true }

/-- `AddStatusReportBody`: the test counts `ID_BUF_LEN` for the ID, and leaves out the tags of
the name, the parent and the end of the item. -/
def addStatusReportBody (pszDevID : CStr) (pszName pszParentID pszStatus : Option CStr) :
    Builder :=
  let strItemTag := str "<Item>\r\n<DeviceID>"
  let strDeviceIDTag := str "</DeviceID>\r\n"
  let strNameTag := str "<Name>"
  let strNameEndTag := str "</Name>\r\n"
  let strEventTag := str "<Event>"
  let strEventEndTag := str "</Event>\r\n"
  let strItemEndTag := str "</Item>\r\n"
  let strParentIDTag := str "<ParentID>"
  let strParentIDEndTag := str "</ParentID>\r\n"
  let name := pszName.getD []
  let parent := pszParentID.getD []
  let event := pszStatus.getD []
  let pieces := [Piece.text strItemTag, .text pszDevID, .text strDeviceIDTag] ++
    pieceIf (0 < name.length) [.text strNameTag, .text name, .text strNameEndTag] ++
    pieceIf (0 < event.length) [.text strEventTag, .text event, .text strEventEndTag] ++
    pieceIf (0 < parent.length) [.text strParentIDTag, .text parent, .text strParentIDEndTag] ++
    [Piece.text strItemEndTag]
  { test := .below (strItemTag.length + strDeviceIDTag.length + strEventTag.length +
      strEventEndTag.length + l.ID_BUF_LEN + name.length + event.length)
    pieces := pieces
    terminated := false
    nBufLen := some (advance pieces) }

/-- `CreateInviteAnswerBody`: the test leaves out both IDs and the second address. -/
def createInviteAnswerBody (pszIP pszPort pszOperateType pszActiveType pszStartTime pszEndTime
    pszID : CStr) (pszPassWord pszSSRC : Option CStr) : Builder :=
  let strID := str "v=0\r\no="
  let strIP := str " 0 0 IN IP4 "
  let strDevType := str "\r\ns="
  let strIP2 := str "\r\nc=IN IP4 "
  let strTime := str "\r\nt="
  let strPort := str "\r\nm=video "
  let strActiveType := str " RTP/AVP 96\r\na="
  let strName := str "\r\na=rtpmap:96 PS/90000\r\na=username:"
  let strPassword := str "\r\na=password:"
  let strSSRC := str "\r\ny="
  let strEnd := str "\r\nf=\r\n"
  let pw := pszPassWord.getD []
  let ssrc := pszSSRC.getD []
  { test := .upTo (strID.length + strIP.length + strDevType.length + strIP2.length +
      strTime.length + 1 + strPort.length + strActiveType.length + strName.length +
      strPassword.length + strSSRC.length + strEnd.length + pszIP.length + pszPort.length +
      pszOperateType.length + pszActiveType.length + pszStartTime.length + pszEndTime.length +
      pw.length + ssrc.length)
    pieces := [Piece.text strID, .text (bytesAt l.ID_LEN pszID), .text strIP, .text pszIP,
        .text strDevType, .text pszOperateType, .text strIP2, .text pszIP, .text strTime,
        .text pszStartTime, .text (str " "), .text pszEndTime, .text strPort, .text pszPort,
        .text strActiveType, .text pszActiveType, .text strName,
        .text (bytesAt l.ID_LEN pszID)] ++
      pieceIf (0 < pw.length) [.text strPassword, .text pw] ++
      pieceIf (0 < ssrc.length) [.text strSSRC, .text ssrc] ++ [Piece.text strEnd]
    terminated := true }

/-- The media line that `CreateInviteAnswerBody` formats into a buffer of 512 bytes. -/
def mediaLine (transType mediaType : Int) (pszPort pszActiveType : CStr) : CStr :=
  str "\r\nm=" ++ (if mediaType = 1 then str "audio" else str "video") ++ str " " ++ pszPort ++
    str " " ++ (if transType = 1 then str "TCP/RTP/AVP" else str "RTP/AVP") ++
    str " 96\r\na=" ++ pszActiveType

/-- `CreateInviteAnswerBody` with the kinds of transport and media and the size of a file. -/
def createInviteAnswerBodyMedia (pszIP pszPort pszOperateType pszActiveType pszStartTime pszEndTime
    pszID : CStr) (pszPassWord pszSSRC : Option CStr) (transType mediaType : Int)
    (pszFileSize : CStr) : Builder :=
  let strID := str "v=0\r\no="
  let strIP := str " 0 0 IN IP4 "
  let strDevType := str "\r\ns="
  let strIP2 := str "\r\nc=IN IP4 "
  let strTime := str "\r\nt="
  let strPort := str "\r\nm=video "
  let strActiveType := str " RTP/AVP 96\r\na="
  let strPakageType := str "\r\na=rtpmap:96 PS/90000"
  let strName := str "\r\na=username:"
  let strPassword := str "\r\na=password:"
  let strSSRC := str "\r\ny="
  let strEnd := str "\r\nf=\r\n"
  let strFileSize := str "\r\na=filesize:"
  let pw := pszPassWord.getD []
  let ssrc := pszSSRC.getD []
  let tmpBuf := mediaLine transType mediaType pszPort pszActiveType
  { test := .upTo (strID.length + strIP.length + strDevType.length + strIP2.length +
      strTime.length + 1 + strPort.length + strActiveType.length + strName.length +
      strPassword.length + strSSRC.length + strEnd.length + strPakageType.length + pszIP.length +
      pszPort.length + pszOperateType.length + pszActiveType.length + pszStartTime.length +
      pszEndTime.length + pw.length + ssrc.length)
    pieces := [Piece.text strID, .text (bytesAt l.ID_LEN pszID), .text strIP, .text pszIP,
        .text strDevType, .text pszOperateType, .text strIP2, .text pszIP, .text strTime,
        .text pszStartTime, .text (str " "), .text pszEndTime, .text tmpBuf, .text strPakageType,
        .text strName, .text (bytesAt l.ID_LEN pszID)] ++
      pieceIf (0 < pw.length) [.text strPassword, .text pw] ++
      pieceIf (0 < pszFileSize.length) [.text strFileSize, .text pszFileSize] ++
      pieceIf (0 < ssrc.length) [.text strSSRC, .text ssrc] ++ [Piece.text strEnd]
    terminated := true
    formats := tmpBuf.length < 512 }

/-- The text that `CreateRecordHead` and its siblings put around serial number, device, one more
text and the two numbers. -/
structure HeadTags where
  strVersionTag : CStr
  strSNTag : CStr
  strDeviceIDTag : CStr
  strNameTag : CStr
  strSumNumTag : CStr
  strEnterTag : CStr

/-- `CreateRecordHead` and `CreateAlarmRecordHead`: the test leaves out `strEnterTag`. -/
def recordHead (t : HeadTags) (pstrSN pstrDeviceID pstrDeviceName : CStr) (nSumNum nListNum : Int) :
    Builder :=
  let strSumNum := formatInt nSumNum
  let strListNum := formatInt nListNum
  let pieces := [Piece.text t.strVersionTag, .text pstrSN, .text t.strSNTag,
    .text (bytesAt l.ID_LEN pstrDeviceID), .text t.strDeviceIDTag, .text pstrDeviceName,
    .text t.strNameTag, .text strSumNum, .text t.strSumNumTag, .text strListNum,
    .text t.strEnterTag]
  { test := .upTo (t.strVersionTag.length + t.strSNTag.length + t.strDeviceIDTag.length +
      t.strNameTag.length + t.strSumNumTag.length + strSumNum.length + strListNum.length +
      pstrSN.length + l.ID_BUF_LEN + pstrDeviceName.length)
    pieces := pieces
    terminated := false
    nBufLen := some (advance pieces) }

def recordHeadTags : HeadTags where
  strVersionTag := str "<?xml version=\"1.0\" encoding=\"gb2312\"?>\r\n" ++
    str "<Response>\r\n<CmdType>RecordInfo</CmdType>\r\n<SN>"
  strSNTag := str "</SN>\r\n<DeviceID>"
  strDeviceIDTag := str "</DeviceID>\r\n<Name>"
  strNameTag := str "</Name>\r\n<SumNum>"
  strSumNumTag := str "</SumNum>\r\n<RecordList Num=\""
  strEnterTag := str "\">\r\n"

def createRecordHead (pstrSN pstrDeviceID pstrDeviceName : CStr) (nSumNum nListNum : Int) :
    Builder :=
  recordHead l recordHeadTags pstrSN pstrDeviceID pstrDeviceName nSumNum nListNum

/-- An optional element: its tags and its text, if that is given. -/
def optional (strTagS : CStr) (s : Option CStr) (strTagE : CStr) : List Piece :=
  pieceIf (given s) [.text strTagS, .text (s.getD []), .text strTagE]

def addRecordBody (pszDeviceID pstrName pszStartTime pszEndTime pszAddress pszFilePath :
    Option CStr) (nRecordType : Fin 4) (nSecrecy : Int) : Builder :=
  let strItemTag := str "<Item>\r\n<DeviceID>"
  let strDeviceTag := str "</DeviceID>\r\n"
  let strNameTagS := str "<Name>"
  let strNameTagE := str "</Name>\r\n"
  let strFilePathTagS := str "<FilePath>"
  let strFilePathTagE := str "</FilePath>\r\n"
  let strAddressTagS := str "<Address>"
  let strAddressTagE := str "</Address>\r\n"
  let strStartTimeTagS := str "<StartTime>"
  let strStartTimeTagE := str "</StartTime>\r\n<EndTime>"
  let strEndTimeTag := str "</EndTime>\r\n<Secrecy>"
  let strSecrecyTag := str "</Secrecy>\r\n<Type>"
  let strTypeTag := str "</Type>\r\n</Item>\r\n"
  let pieces := [Piece.text strItemTag] ++
    pieceIf (given pszDeviceID)
      [.buf (bytesAt l.ID_BUF_LEN (pszDeviceID.getD [])), .text strDeviceTag] ++
    optional strNameTagS pstrName strNameTagE ++
    optional strFilePathTagS pszFilePath strFilePathTagE ++
    optional strAddressTagS pszAddress strAddressTagE ++
    pieceIf (given pszStartTime) [.text strStartTimeTagS,
      .buf (bytesAt l.TIME_BUF_LEN (pszStartTime.getD [])), .text strStartTimeTagE] ++
    pieceIf (given pszEndTime)
      [.buf (bytesAt l.TIME_BUF_LEN (pszEndTime.getD [])), .text strEndTimeTag] ++
    [Piece.text [UInt8.ofInt (nSecrecy + 48)], .text strSecrecyTag, .text (szRcordType nRecordType),
      .text strTypeTag]
  { test := .upTo (strItemTag.length + strDeviceTag.length + strNameTagS.length +
      strNameTagE.length + strFilePathTagS.length + strFilePathTagE.length +
      strAddressTagS.length + strAddressTagE.length + strStartTimeTagS.length +
      strStartTimeTagE.length + strEndTimeTag.length + strSecrecyTag.length + strTypeTag.length +
      l.ID_BUF_LEN + (pstrName.getD []).length + l.TIME_BUF_LEN * 2 +
      (pszAddress.getD []).length + (pszFilePath.getD []).length + l.RECORD_TYPE_BUF_LEN + 1)
    pieces := pieces
    terminated := false
    nBufLen := some (advance pieces) }

/-- `AddRecordBodyShengtong`: the elements are there also without a text. -/
def addRecordBodyShengtong (pszDeviceID pstrName pszStartTime pszEndTime pszAddress pszFilePath
    pszFileSize pszRecorderID : Option CStr) (nRecordType : Fin 4) (nSecrecy : Int) : Builder :=
  let strItemTag := str "<Item>\r\n<DeviceID>"
  let strDeviceTag := str "</DeviceID>\r\n"
  let strNameTagS := str "<Name>"
  let strNameTagE := str "</Name>\r\n"
  let strFilePathTagS := str "<FilePath>"
  let strFilePathTagE := str "</FilePath>\r\n"
  let strFileSizeTagS := str "<FileSize>"
  let strFileSizeTagE := str "</FileSize>\r\n"
  let strRecorderIDTagS := str "<RecorderID>"
  let strRecorderIDTagE := str "</RecorderID>\r\n"
  let strAddressTagS := str "<Address>"
  let strAddressTagE := str "</Address>\r\n"
  let strStartTimeTagS := str "<StartTime>"
  let strStartTimeTagE := str "</StartTime>\r\n<EndTime>"
  let strEndTimeTag := str "</EndTime>\r\n<Secrecy>"
  let strSecrecyTag := str "</Secrecy>\r\n<Type>"
  let strTypeTag := str "</Type>\r\n</Item>\r\n"
  let pieces := [Piece.text strItemTag] ++
    pieceIf (given pszDeviceID)
      [.buf (bytesAt l.ID_BUF_LEN (pszDeviceID.getD [])), .text strDeviceTag] ++
    [Piece.text strNameTagS, .text (pstrName.getD []), .text strNameTagE,
      .text strFilePathTagS, .text (pszFilePath.getD []), .text strFilePathTagE,
      .text strFileSizeTagS, .text (pszFileSize.getD []), .text strFileSizeTagE,
      .text strRecorderIDTagS, .text (pszRecorderID.getD []), .text strRecorderIDTagE,
      .text strAddressTagS, .text (pszAddress.getD []), .text strAddressTagE] ++
    pieceIf (given pszStartTime) [.text strStartTimeTagS,
      .buf (bytesAt l.TIME_BUF_LEN (pszStartTime.getD [])), .text strStartTimeTagE] ++
    pieceIf (given pszEndTime)
      [.buf (bytesAt l.TIME_BUF_LEN (pszEndTime.getD [])), .text strEndTimeTag] ++
    [Piece.text [UInt8.ofInt (nSecrecy + 48)], .text strSecrecyTag, .text (szRcordType nRecordType),
      .text strTypeTag]
  { test := .upTo (strItemTag.length + strDeviceTag.length + strNameTagS.length +
      strNameTagE.length + strFilePathTagS.length + strFilePathTagE.length +
      strFileSizeTagS.length + strFileSizeTagE.length + strRecorderIDTagS.length +
      strRecorderIDTagE.length + strAddressTagS.length + strAddressTagE.length +
      strStartTimeTagS.length + strStartTimeTagE.length + strEndTimeTag.length +
      strSecrecyTag.length + strTypeTag.length + l.ID_BUF_LEN + (pstrName.getD []).length +
      l.TIME_BUF_LEN * 2 + (pszAddress.getD []).length + (pszFilePath.getD []).length +
      (pszFileSize.getD []).length + (pszRecorderID.getD []).length + l.RECORD_TYPE_BUF_LEN + 1)
    pieces := pieces
    terminated := false
    nBufLen := some (advance pieces) }

def alarmRecordHeadTags : HeadTags where
  strVersionTag :=
    str "<?xml version=\"1.0\" ?>\r\n<Response>\r\n<CmdType>Alarm</CmdType>\r\n<SN>"
  strSNTag := str "</SN>\r\n<DeviceID>"
  strDeviceIDTag := str "</DeviceID>\r\n<Result>"
  strNameTag := str "</Result>\r\n<SumNum>"
  strSumNumTag := str "</SumNum>\r\n<AlarmList Num=\""
  strEnterTag := str "\">\r\n"

def createAlarmRecordHead (pstrSN pstrDeviceID pstrDeviceName : CStr) (nSumNum nListNum : Int) :
    Builder :=
  recordHead l alarmRecordHeadTags pstrSN pstrDeviceID pstrDeviceName nSumNum nListNum

/-- `AddAlarmRecordBody`: the test leaves out every text; the longitude stands behind the tag that
closes it, and so does the latitude. -/
def addAlarmRecordBody (pszDeviceID alarmPriority alarmMethod alarmTime alarmDescription :
    Option CStr) (longitude latitude : CStr) (alarmType alarmStatus : Option CStr) : Builder :=
  let strItemTag := str "<Item>\r\n<DeviceID>"
  let strDeviceTag := str "</DeviceID>\r\n"
  let strAlarmPriorityTagS := str "<AlarmPriority>"
  let strAlarmPriorityTagE := str "</AlarmPriority>\r\n"
  let strAlarmMethodTagS := str "<AlarmMethod>"
  let strAlarmMethodTagE := str "</AlarmMethod>\r\n"
  let strAlarmTimeTagS := str "<AlarmTime>"
  let strAlarmTimeTagE := str "</AlarmTime>\r\n"
  let strAlarmDescriptionTagS := str "<AlarmDescription>"
  let strAlarmDescriptionTagE := str "</AlarmDescription>\r\n<Longitude>"
  let strLongitudeTag := str "</Longitude>\r\n<Latitude>"
  let strLatitudeTag := str "</Latitude>\r\n"
  let strAlarmTypeTagS := str "<AlarmType>"
  let strAlarmTypeTagE := str "</AlarmType>\r\n"
  let strAlarmStatusTagS := str "<AlarmStatus>"
  let strAlarmStatusTagE := str "</AlarmStatus>\r\n"
  let strEnd := str "</Item>\r\n"
  let pieces := [Piece.text strItemTag] ++
    pieceIf (given pszDeviceID)
      [.buf (bytesAt l.ID_BUF_LEN (pszDeviceID.getD [])), .text strDeviceTag] ++
    [Piece.text strAlarmPriorityTagS, .text (alarmPriority.getD []), .text strAlarmPriorityTagE,
      .text strAlarmMethodTagS, .text (alarmMethod.getD []), .text strAlarmMethodTagE,
      .text strAlarmTimeTagS, .text (alarmTime.getD []), .text strAlarmTimeTagE,
      .text strAlarmDescriptionTagS, .text (alarmDescription.getD []),
      .text strAlarmDescriptionTagE, .text strLongitudeTag, .text longitude, .text strLatitudeTag,
      .text latitude] ++
    optional strAlarmTypeTagS alarmType strAlarmTypeTagE ++
    pieceIf (given alarmStatus) ([.text strAlarmStatusTagS] ++
      -- the type is tested here
      pieceIf alarmType.isSome [.text (alarmStatus.getD [])] ++ [.text strAlarmStatusTagE]) ++
    [Piece.text strEnd]
  { test := .upTo (strItemTag.length + strDeviceTag.length + strAlarmPriorityTagS.length +
      strAlarmPriorityTagE.length + strAlarmMethodTagS.length + strAlarmMethodTagE.length +
      strAlarmTimeTagS.length + strAlarmTimeTagE.length + strAlarmDescriptionTagS.length +
      strAlarmDescriptionTagE.length + strLatitudeTag.length + strLongitudeTag.length +
      strAlarmTypeTagS.length + strAlarmTypeTagE.length + strAlarmStatusTagS.length +
      strAlarmStatusTagE.length + strEnd.length)
    pieces := pieces
    terminated := false
    nBufLen := some (advance pieces) }

/-- The last tags, with the terminator. -/
def closing (strEndTag : CStr) : Builder where
  test := .upTo strEndTag.length
  pieces := [Piece.text strEndTag]
  terminated := true

def completeAlarmRecord : Builder := closing (str "</AlarmList>\r\n</Response>\r\n")

def completeRecord : Builder := closing (str "</RecordList>\r\n</Response>\r\n")

/-- `CreateCatalogHead` and its siblings: `nTestedLen` is what the test counts for the first tags
and the device; it leaves out `strEnterTag`. -/
def catalogHead (strVersionTag pstrSN pstrDeviceID : CStr) (nSumNum nListNum : Int)
    (nTestedLen : Nat) : Builder :=
  let strSNTag := str "</SN>\r\n<DeviceID>"
  let strDeviceIDTag := str "</DeviceID>\r\n<SumNum>"
  let strSumNumTag := str "</SumNum>\r\n<DeviceList Num=\""
  let strEnterTag := str "\">\r\n"
  let strSumNum := formatInt nSumNum
  let strListNum := formatInt nListNum
  let pieces := [Piece.text strVersionTag, .text pstrSN, .text strSNTag, .text pstrDeviceID,
    .text strDeviceIDTag, .text strSumNum, .text strSumNumTag, .text strListNum, .text strEnterTag]
  { test := .upTo (nTestedLen + strSNTag.length + strDeviceIDTag.length + strSumNumTag.length +
      strSumNum.length + strListNum.length + pstrSN.length)
    pieces := pieces
    terminated := true
    nBufLen := some (advance pieces) }

def createCatalogHead (pstrSN pstrDeviceID : CStr) (nSumNum nListNum : Int) : Builder :=
  let strVersionTag := str "<?xml version=\"1.0\" encoding=\"gb2312\"?>\r\n" ++
    str "<Response>\r\n<CmdType>Catalog</CmdType>\r\n<SN>"
  catalogHead strVersionTag pstrSN (bytesAt l.ID_LEN pstrDeviceID) nSumNum nListNum
    (strVersionTag.length + l.ID_BUF_LEN)

/-- The first tags with the name of the element around them. -/
def catalogVersionTag (pszDataType : CStr) : CStr :=
  str "<?xml version=\"1.0\" ?>\r\n<" ++ pszDataType ++
    str ">\r\n<CmdType>Catalog</CmdType>\r\n<SN>"

/-- `CreateCatalogHead` with the name of the element: the length of its tags is kept from the
first call (`pszFirstDataType`). -/
def createCatalogHeadOf (pszFirstDataType pszDataType pstrSN pstrDeviceID : CStr)
    (nSumNum nListNum : Int) : Builder :=
  catalogHead (catalogVersionTag pszDataType) pstrSN pstrDeviceID nSumNum nListNum
    ((catalogVersionTag pszFirstDataType).length + pstrDeviceID.length)

def createNotifyCatalogHead (pstrSN pstrDeviceID : CStr) (nSumNum nListNum : Int) : Builder :=
  let strVersionTag :=
    str "<?xml version=\"1.0\" ?>\r\n<Notify>\r\n<CmdType>Catalog</CmdType>\r\n<SN>"
  catalogHead strVersionTag pstrSN (bytesAt l.ID_LEN pstrDeviceID) nSumNum nListNum
    (strVersionTag.length + l.ID_BUF_LEN)

/-- `CatalogItem` with the fields that only these builders read. -/
structure CatalogFields extends CatalogItem where
  m_strOperateType : CStr
  m_strInfoPositionType : CStr
  m_strCertNum : CStr
  m_strEndTime : CStr
  m_strIPAddress : CStr
  m_strPort : CStr
  m_strPassword : CStr
  m_strRecLocation : CStr
  m_strChnNum : CStr

/-- A document of one `Item`: its elements, and those of its `Info`. -/
structure ItemDocument where
  nodes : List (CStr × CStr)
  info : Option (List (CStr × CStr))

/-- A document that is printed: `CStrSize` counts the terminator. -/
def printed (text : CStr) : Builder where
  test := .upTo (text.length + 1)
  pieces := [Piece.text text]
  terminated := true
  nBufLen := some (text.length + 1)

/-- The document of `AddCatalogBody`. -/
def catalogDocument (catalog : CatalogFields) : ItemDocument where
  nodes := updateNodes catalog.toCatalogItem ++ [(str "OperateType", catalog.m_strOperateType)]
  info := some [(str "PTZType", catalog.m_strInfoPTZType),
    (str "PositionType", catalog.m_strInfoPositionType)]

/-- `AddCatalogBody` of a `CatalogItem`; there is no builder for a null pointer. -/
def addCatalogBodyItem (printer : ItemDocument → CStr) (pszCatalog : Option CatalogFields) :
    Option Builder :=
  pszCatalog.map fun catalog => printed (printer (catalogDocument catalog))

/-- The document of `AddNotifyCatalogBody`. -/
def notifyDocument (catalog : CatalogFields) : ItemDocument where
  nodes :=
    [(str "DeviceID", catalog.m_strDeviceID), (str "Name", catalog.m_strName),
      (str "Manufacturer", catalog.m_strManufacturer), (str "Model", catalog.m_strModel),
      (str "Owner", catalog.m_strOwner), (str "CivilCode", catalog.m_strCivilCode),
      (str "Block", catalog.m_strBlock), (str "Address", catalog.m_strAddress),
      (str "Parental", catalog.m_strParental), (str "ParentID", catalog.m_strParentID),
      (str "SafetyWay", catalog.m_strSafetyWay), (str "RegisterWay", catalog.m_strRegisterWay),
      (str "CertNum", catalog.m_strCertNum), (str "Certifiable", catalog.m_strCertifiable),
      (str "ErrCode", catalog.m_strErrCode), (str "EndTime", catalog.m_strEndTime),
      (str "Secrecy", catalog.m_strSecrecy), (str "IPAddress", catalog.m_strIPAddress),
      (str "Port", catalog.m_strPort), (str "Password", catalog.m_strPassword),
      (str "Status", catalog.m_strStatus), (str "Longitude", catalog.m_strLongitude),
      (str "Latitude", catalog.m_strLatitude), (str "RecLocation", catalog.m_strRecLocation),
      (str "Operatetype", catalog.m_strOperateType), (str "ChannelNum", catalog.m_strChnNum)]
  info := none

def addNotifyCatalogBody (printer : ItemDocument → CStr) (pszCatalog : Option CatalogFields) :
    Option Builder :=
  pszCatalog.map fun catalog => printed (printer (notifyDocument catalog))

/-- `AddCatalogBody` of texts: the test leaves out `strStatusTag`, and counts `nAllocLength` for
`strCivilCodeTag`; `charAt` is the first byte of a text. -/
def addCatalogBody (nAllocLength : Nat) (pszDeviceID : CStr) (pszEvent : Option CStr)
    (pstrName pszManufacturer pszModel pszOwner pszCivilCode pszAddress pszParental pszSafetyWay
      pszRegisterWay pszSecrecy pszStatus pszParentID pszPTZType : CStr) : Builder :=
  let strItemTag := str "<Item>\r\n<DeviceID>"
  let strDeviceTag := str "</DeviceID>\r\n"
  let strEventTag := str "<Event>"
  let strEventEndTag := str "</Event>\r\n"
  let strNameTag := str "<Name>"
  let strNameEndTag := str "</Name>\r\n<Manufacturer>"
  let strManufacturerTag := str "</Manufacturer>\r\n<Model>"
  let strModelTag := str "</Model>\r\n<Owner>"
  let strOwnerTag := str "</Owner>\r\n<CivilCode>"
  let strCivilCodeTag := str "</CivilCode>\r\n<Address>"
  let strAddressTag := str "</Address>\r\n<ParentID>"
  let strParentIDTag := str "</ParentID>\r\n<Parental>"
  let strParentalTag := str "</Parental>\r\n<SafetyWay>"
  let strSafetyWayTag := str "</SafetyWay>\r\n<RegisterWay>"
  let strRegisterWayTag := str "</RegisterWay>\r\n<Secrecy>"
  let strSecrecyTag := str "</Secrecy>\r\n<Status>"
  let strStatusTag := str "</Status>\r\n"
  let strInforTag := str "<Info>\r\n<PTZType>"
  let strPTZTypeTag := str "</PTZType>\r\n</Info>\r\n"
  let strItemEndTag := str "</Item>\r\n"
  let event := pszEvent.getD []
  let charAt (s : CStr) : CStr := [s.headD 0]
  let pieces := [Piece.text strItemTag, .text (bytesAt l.ID_LEN pszDeviceID), .text strDeviceTag] ++
    pieceIf (0 < event.length) [.text strEventTag, .text event, .text strEventEndTag] ++
    [Piece.text strNameTag, .text pstrName, .text strNameEndTag, .text pszManufacturer,
      .text strManufacturerTag, .text pszModel, .text strModelTag, .text pszOwner,
      .text strOwnerTag, .text pszCivilCode, .text strCivilCodeTag, .text pszAddress,
      .text strAddressTag, .text pszParentID, .text strParentIDTag,
      .text (if pszParental.headD 0 = 0 then str "0" else charAt pszParental),
      .text strParentalTag, .text (charAt pszSafetyWay), .text strSafetyWayTag,
      .text (charAt pszRegisterWay), .text strRegisterWayTag, .text (charAt pszSecrecy),
      .text strSecrecyTag, .text pszStatus, .text strStatusTag] ++
    pieceIf (pszPTZType.headD 0 ≠ 0 ∧ pszPTZType.headD 0 ≠ 0x30)
      [Piece.text strInforTag, .text (charAt pszPTZType), .text strPTZTypeTag] ++
    [Piece.text strItemEndTag]
  { test := .upTo (strItemTag.length + strDeviceTag.length + strEventTag.length +
      strEventEndTag.length + strNameTag.length + strNameEndTag.length +
      strManufacturerTag.length + strModelTag.length + strOwnerTag.length + nAllocLength +
      strAddressTag.length + strParentalTag.length + strSafetyWayTag.length +
      strRegisterWayTag.length + strSecrecyTag.length + strParentIDTag.length +
      strInforTag.length + strPTZTypeTag.length + strItemEndTag.length + l.ID_BUF_LEN +
      event.length + pstrName.length + pszManufacturer.length + pszModel.length +
      pszOwner.length + pszCivilCode.length + pszAddress.length + pszStatus.length +
      pszParentID.length + 5)
    pieces := pieces
    terminated := false
    nBufLen := some (advance pieces) }

/-- `CompleteCatalog` with the name of the element. -/
def completeCatalogOf (pszDataType : CStr) : Builder :=
  closing (str "</DeviceList>\r\n</" ++ pszDataType ++ str ">\r\n")

def completeCatalog : Builder := closing (str "</DeviceList>\r\n</Response>\r\n")

def completeNotifyCatalog : Builder := closing (str "</DeviceList>\r\n</Notify>")

def createStatusBody (pszSN pszDeviceID pszResult pszOnlien pszStatus pszEncode pszRecord
    pszTime : CStr) (nAlarmSum : Int) (bIsEncoder : Bool) : Builder :=
  let strVersionTag := str "<?xml version=\"1.0\" encoding=\"gb2312\"?>\r\n" ++
    str "<Response>\r\n<CmdType>DeviceStatus</CmdType>\r\n<SN>"
  let strSNTag := str "</SN>\r\n<DeviceID>"
  let strDeviceIDTag := str "</DeviceID>\r\n<Result>"
  let strResultTag := str "</Result>\r\n<Online>"
  let strOnlienTag := str "</Online>\r\n<Status>"
  let strStatusTag := str "</Status>\r\n"
  let strEncodeTag1 := str "<Encode>"
  let strEncodeTag2 := str "</Encode>\r\n<Record>"
  let strRecordTag := str "</Record>\r\n"
  let strTime := str "<DeviceTime>"
  let strTimeTag := str "</DeviceTime>\r\n"
  let strNum := str "<Alarmstatus Num=\""
  let strNumTag := str "\">\r\n"
  let strResponseTag := str "</Response>\r\n"
  let strAlarmNum := formatInt nAlarmSum
  let nHeadTagLen := strVersionTag.length + strSNTag.length + strDeviceIDTag.length +
    strResultTag.length + strOnlienTag.length + strStatusTag.length + strTimeTag.length
  let pieces := [Piece.text strVersionTag, .text pszSN, .text strSNTag,
      .text (bytesAt l.ID_LEN pszDeviceID), .text strDeviceIDTag, .text pszResult,
      .text strResultTag, .text pszOnlien, .text strOnlienTag, .text pszStatus,
      .text strStatusTag] ++
    pieceIf bIsEncoder [.text strEncodeTag1, .text pszEncode, .text strEncodeTag2, .text pszRecord,
      .text strRecordTag] ++
    [Piece.text strTime, .text (bytesAt l.TIME_LEN pszTime), .text strTimeTag] ++
    if bIsEncoder then [Piece.text strNum, .text strAlarmNum, .text strNumTag]
    else [Piece.text strResponseTag]
  { test := .upTo
      (if bIsEncoder then nHeadTagLen + strEncodeTag1.length + strEncodeTag2.length +
        strRecordTag.length + strTime.length + strTimeTag.length + strNum.length +
        strNumTag.length + strAlarmNum.length + pszSN.length + pszResult.length +
        pszOnlien.length + pszStatus.length + pszEncode.length + pszRecord.length + l.ID_LEN +
        l.TIME_LEN
      else nHeadTagLen + strTime.length + strTimeTag.length + strResponseTag.length +
        pszSN.length + pszResult.length + pszOnlien.length + pszStatus.length + l.ID_LEN +
        l.TIME_LEN)
    pieces := pieces
    terminated := true
    nBufLen := some (advance pieces) }

def addAlarmToStatusBody (pszAlarmID pszDutyStatus : CStr) : Builder :=
  let strItem := str "<Item>\r\n<DeviceID>"
  let strAlarmIDTag := str "</DeviceID>\r\n<DutyStatus>"
  let strDutyTag := str "</DutyStatus>\r\n</Item>\r\n"
  let pieces := [Piece.text strItem, .text pszAlarmID, .text strAlarmIDTag, .text pszDutyStatus,
    .text strDutyTag]
  { test := .upTo (strItem.length + strAlarmIDTag.length + strDutyTag.length + pszAlarmID.length +
      pszDutyStatus.length)
    pieces := pieces
    terminated := false
    nBufLen := some (advance pieces) }

def complateStatusBody : Builder :=
  let strAlarmTag := str "</Alarmstatus>\r\n"
  let strResponseTag := str "</Response>\r\n"
  { test := .upTo (strAlarmTag.length + strResponseTag.length)
    pieces := [Piece.text strAlarmTag, .text strResponseTag]
    terminated := true }

def createPropertyBody (pszSN pszID pszResult pszDevType pszManufacturer pszModel pszFirmware
    pszMaxCamera pszMaxAlarm : CStr) (bIsEncoder : Bool) : Builder :=
  let strVersion := str "<?xml version=\"1.0\" encoding=\"gb2312\"?>\r\n" ++
    str "<Response>\r\n<CmdType>DeviceInfo</CmdType>\r\n<SN>"
  let strSNTag := str "</SN>\r\n<DeviceID>"
  let strIDTag := str "</DeviceID>\r\n<Result>"
  let strResultTag := str "</Result>\r\n<DeviceType>"
  let strDevTypeTag := str "</DeviceType>\r\n<Manufacturer>"
  let strManufacturerTag := str "</Manufacturer>\r\n<Model>"
  let strModelTag := str "</Model>\r\n<Firmware>"
  let strFirmwareTag := str "</Firmware>\r\n"
  let strMaxCameraTag := str "<MaxCamera>"
  let strMaxCameraTag2 := str "</MaxCamera>\r\n<MaxAlarm>"
  let strMaxAlarmTag := str "</MaxAlarm>\r\n</Response>\r\n"
  let strMaxOutTag := str "<MaxOut>"
  let strMaxOutTag2 := str "</MaxOut>\r\n</Response>\r\n"
  let nTagLen := strVersion.length + strSNTag.length + strIDTag.length + strResultTag.length +
    strDevTypeTag.length + strManufacturerTag.length + strModelTag.length + strFirmwareTag.length
  { test := .upTo
      (if bIsEncoder then nTagLen + pszMaxCamera.length + strMaxCameraTag.length +
        strMaxAlarmTag.length + pszSN.length + pszResult.length + pszDevType.length +
        pszManufacturer.length + pszModel.length + pszFirmware.length + l.ID_LEN +
        strMaxCameraTag2.length + pszMaxAlarm.length
      else nTagLen + pszMaxCamera.length + strMaxOutTag.length + strMaxOutTag2.length +
        pszSN.length + pszResult.length + pszDevType.length + pszManufacturer.length +
        pszModel.length + pszFirmware.length + l.ID_LEN + pszMaxAlarm.length)
    pieces := [Piece.text strVersion, .text pszSN, .text strSNTag, .text (bytesAt l.ID_LEN pszID),
        .text strIDTag, .text pszResult, .text strResultTag, .text pszDevType, .text strDevTypeTag,
        .text pszManufacturer, .text strManufacturerTag, .text pszModel, .text strModelTag,
        .text pszFirmware, .text strFirmwareTag] ++
      if bIsEncoder then [Piece.text strMaxCameraTag, .text pszMaxCamera, .text strMaxCameraTag2,
        .text pszMaxAlarm, .text strMaxAlarmTag]
      else [Piece.text strMaxOutTag, .text pszMaxCamera, .text strMaxOutTag2]
    terminated := true }

def createMediaStatusBody (pszSN pszID : CStr) : Builder :=
  let strVersion := str "<?xml version=\"1.0\" encoding=\"gb2312\"?>\r\n" ++
    str "<Notify>\r\n<CmdType>MediaStatus</CmdType>\r\n<SN>"
  let strSNTag := str "</SN>\r\n<DeviceID>"
  let strDeviceIDTag := str "</DeviceID>\r\n<NotifyType>121</ NotifyType>\r\n</Notify>\r\n"
  { test := .upTo (strVersion.length + strSNTag.length + strDeviceIDTag.length + pszSN.length +
      pszID.length)
    pieces := [.text strVersion, .text pszSN, .text strSNTag, .text pszID, .text strDeviceIDTag]
    terminated := true }

/-- The responses that tell a result: `strVersion` names the command. -/
def resultResponse (strVersion pszSN pszDevID pszResult : CStr) : Builder :=
  let strSNTag := str "</SN>\r\n<DeviceID>"
  let strDeviceTag := str "</DeviceID>\r\n<Result>"
  let strEndTag := str "</Result>\r\n</Response>\r\n"
  { test := .below (strVersion.length + strSNTag.length + strDeviceTag.length + strEndTag.length +
      pszSN.length + pszResult.length + l.ID_BUF_LEN)
    pieces := [.text strVersion, .text pszSN, .text strSNTag, .text (bytesAt l.ID_LEN pszDevID),
      .text strDeviceTag, .text pszResult, .text strEndTag]
    terminated := true }

def createControlResponseBody (pszSN pszDevID pszResult : CStr) : Builder :=
  resultResponse l (str "<?xml version=\"1.0\" encoding=\"gb2312\"?>\r\n" ++
    str "<Response>\r\n<CmdType>DeviceControl</CmdType>\r\n<SN>") pszSN pszDevID pszResult

def createDecoderDivisonResponseBody (pszSN pszDevID pszResult : CStr) : Builder :=
  resultResponse l (str "<?xml version=\"1.0\"?>\r\n" ++
    str "<Response>\r\n<CmdType>DecoderDivision</CmdType>\r\n<SN>") pszSN pszDevID pszResult

def createStopPlayUrlResponseBody (pszSN pszDevID pszResult : CStr) : Builder :=
  resultResponse l (str "<?xml version=\"1.0\"?>\r\n" ++
    str "<Response>\r\n<CmdType>StopPlayUrl</CmdType>\r\n<SN>") pszSN pszDevID pszResult

def createDeviceConfigResponse (pszSN pszDevID pszResult : CStr) : Builder :=
  resultResponse l (str "<?xml version=\"1.0\" encoding=\"gb2312\"?>\r\n" ++
    str "<Response>\r\n<CmdType>DeviceConfig</CmdType>\r\n<SN>") pszSN pszDevID pszResult

def createConfigSearchHead (pszSN pszDeviceID pszResult : CStr) : Builder :=
  let strVersion := str "<?xml version=\"1.0\" encoding=\"gb2312\"?>\r\n" ++
    str "<Response>\r\n<CmdType>ConfigDownload</CmdType>\r\n<SN>"
  let strSNTag := str "</SN>\r\n<DeviceID>"
  let strDeviceTag := str "</DeviceID>\r\n<Result>"
  let strEndTag := str "</Result>\r\n"
  let pieces := [Piece.text strVersion, .text pszSN, .text strSNTag,
    .text (bytesAt l.ID_LEN pszDeviceID), .text strDeviceTag, .text pszResult, .text strEndTag]
  { test := .below (strVersion.length + strSNTag.length + strDeviceTag.length + strEndTag.length +
      pszSN.length + pszResult.length + l.ID_BUF_LEN)
    pieces := pieces
    terminated := true
    nBufLen := some (advance pieces) }

/-- The functions of a configuration: tags and texts in turns, the last tag behind them.  The test
counts `nTested` besides the tags. -/
def paramConfig (tags : List (CStr × CStr)) (strEndTag : CStr) (nTested : Nat) : Builder :=
  let pieces := (tags.flatMap fun t => [.text t.1, .text t.2]) ++ [Piece.text strEndTag]
  { test := .below ((tags.map fun t => t.1.length).sum + strEndTag.length + nTested)
    pieces := pieces
    terminated := false
    nBufLen := some (advance pieces) }

def addBasicParamConfig (pName pDeviceID pServerID pServerIP pServerPort pDomainName pExpiration
    pPasswd pHeartBeat pHeartBeatCount : CStr) : Builder :=
  paramConfig
    [(str "<BasicParam>\r\n<Name>\r\n", pName),
      (str "</Name>\r\n<DeviceID>\r\n", bytesAt l.ID_LEN pDeviceID),
      (str "</DeviceID>\r\n<SIPServerID>\r\n", bytesAt l.ID_LEN pServerID),
      (str "</SIPServerID>\r\n<SIPServerIP>\r\n", pServerIP),
      (str "</SIPServerIP>\r\n<SIPServerPort>\r\n", pServerPort),
      (str "</SIPServerPort>\r\n<DomainName>\r\n", pDomainName),
      (str "</DomainName>\r\n<Expiration>\r\n", pExpiration),
      (str "</Expiration>\r\n<Password>\r\n", pPasswd),
      (str "</Password>\r\n<HeartBeatInterval>\r\n", pHeartBeat),
      (str "</HeartBeatInterval>\r\n<HeartBeatCount>\r\n", pHeartBeatCount)]
    (str "</HeartBeatCount>\r\n</BasicParam>\r\n")
    (pName.length + l.ID_BUF_LEN + l.ID_BUF_LEN + pServerIP.length + pServerPort.length +
      pDomainName.length + pExpiration.length + pPasswd.length + pHeartBeat.length +
      pHeartBeatCount.length)

def addVideoParanOpt (pVideoFormat pResolution pFramRate pBitRateType pVideoBitRate
    pDownloadSpeed : CStr) : Builder :=
  paramConfig
    [(str "<VideoParamOpt>\r\n<VideoFormatOpt>\r\n", pVideoFormat),
      (str "</VideoFormatOpt>\r\n<ResolutionOpt>\r\n", pResolution),
      (str "</ResolutionOpt>\r\n<FrameRateOpt>\r\n", pFramRate),
      (str "</FrameRateOpt>\r\n<BitRateTypeOpt>\r\n", pBitRateType),
      (str "</BitRateTypeOpt>\r\n<VideoBitRateOpt>\r\n", pVideoBitRate),
      (str "</VideoBitRateOpt>\r\n<DownloadSpeedOpt>\r\n", pDownloadSpeed)]
    (str "</DownloadSpeedOpt>\r\n</VideoParamOpt>\r\n")
    (pVideoFormat.length + pResolution.length + pFramRate.length + pBitRateType.length +
      pVideoBitRate.length + pDownloadSpeed.length)

/-- `AddVideoParamConfigHead` and `AddAudioParamConfigHead`. -/
def paramConfigHead (strHeadTag : CStr) (nNum : Int) : Builder :=
  let strEndTag := str "\">\r\n"
  let strNum := formatInt nNum
  let pieces := [Piece.text strHeadTag, .text strNum, .text strEndTag]
  { test := .below (strNum.length + strHeadTag.length + strEndTag.length)
    pieces := pieces
    terminated := false
    nBufLen := some (advance pieces) }

def addVideoParamConfigHead (nNum : Int) : Builder :=
  paramConfigHead (str "<VideoParamConfig Num=\"") nNum

/-- The items of a configuration: the tag behind the name of the stream is copied to the front of
the buffer. -/
def paramConfigItem (strStreamNameTag pStreamName strFormatTag pFormat : CStr)
    (tags : List (CStr × CStr)) (strEndTag : CStr) : Builder :=
  let pieces := [Piece.text strStreamNameTag, .text pStreamName, .front strFormatTag,
      .text pFormat] ++
    (tags.flatMap fun t => [.text t.1, .text t.2]) ++ [Piece.text strEndTag]
  { test := .below (strStreamNameTag.length + strFormatTag.length +
      (tags.map fun t => t.1.length).sum + strEndTag.length + pStreamName.length + pFormat.length +
      (tags.map fun t => t.2.length).sum)
    pieces := pieces
    terminated := false
    nBufLen := some (advance pieces) }

def addVideoParamConfig (pStreamName pVideoFormat pResolution pFrameRate pBitRateType
    pVideoBitRate : CStr) : Builder :=
  paramConfigItem (str "<Item>\r\n<StreamName>\r\n") pStreamName
    (str "</StreamName>\r\n<VideoFormat>\r\n") pVideoFormat
    [(str "</VideoFormat>\r\n<Resolution>\r\n", pResolution),
      (str "</Resolution>\r\n<FrameRate>\r\n", pFrameRate),
      (str "</FrameRate>\r\n<BitRateType>\r\n", pBitRateType),
      (str "</BitRateType>\r\n<VideoBitRate>\r\n", pVideoBitRate)]
    (str "</VideoBitRate>\r\n</Item>\r\n")

/-- The end of a list in a configuration. -/
def paramConfigEnd (strResponseTag : CStr) : Builder where
  test := .upTo strResponseTag.length
  pieces := [Piece.text strResponseTag]
  terminated := false
  nBufLen := some strResponseTag.length

def completeVideoParamConfig : Builder := paramConfigEnd (str "</VideoParamConfig>\r\n")

def addAudioParamOpt (pAudioFormat pAudioBitRate pSamplingRate : CStr) : Builder :=
  paramConfig
    [(str "<Item>\r\n<AudioFormatOpt>\r\n", pAudioFormat),
      (str "</AudioFormatOpt>\r\n<AudioBitRateOpt>\r\n", pAudioBitRate),
      (str "</AudioBitRateOpt>\r\n<SamplingRateOpt>\r\n", pSamplingRate)]
    (str "</SamplingRateOpt>\r\n</Item>\r\n")
    (pAudioFormat.length + pAudioBitRate.length + pSamplingRate.length)

def addAudioParamConfigHead (nNum : Int) : Builder :=
  paramConfigHead (str "<AudioParamConfig Num=\"") nNum

def addAudioParamConfig (pStreamName pAudioFormat pAudioBitRate pSamplingRate : CStr) : Builder :=
  paramConfigItem (str "<Item>\r\n<StreamName>\r\n") pStreamName
    (str "</StreamName>\r\n<AudioFormat>\r\n") pAudioFormat
    [(str "</AudioFormat>\r\n<SamplingRate>\r\n", pSamplingRate),
      (str "</SamplingRate>\r\n<AudioBitRate>\r\n", pAudioBitRate)]
    (str "</AudioBitRate>\r\n</Item>\r\n")

def completeAudioParamConfig : Builder := paramConfigEnd (str "</AudioParamConfig>\r\n")

def completeConfigSearch : Builder := closing (str "</Response>\r\n")

def createRealPlayUrlResponse (pszSN pszID pszChannelID pszPlayUrl : CStr) : Builder :=
  let strVersion := str "<?xml version=\"1.0\" encoding=\"gb2312\"?>\r\n" ++
    str "<Response>\r\n<CmdType>RealPlayUrl</CmdType>\r\n<SN>"
  let strSNTag := str "</SN>\r\n<DeviceID>"
  let strDeviceIDTag := str "</DeviceID>\r\n<DecoderChannelID>"
  let strChanIDTag := str "</DecoderChannelID><PlayUrl>"
  let strEndTag := str "</PlayUrl>\r\n</Response>\r\n"
  { test := .upTo (strVersion.length + strSNTag.length + strDeviceIDTag.length +
      strChanIDTag.length + strEndTag.length + pszSN.length + pszID.length + pszPlayUrl.length +
      pszChannelID.length)
    pieces := [.text strVersion, .text pszSN, .text strSNTag, .text pszID, .text strDeviceIDTag,
      .text pszChannelID, .text strChanIDTag, .text pszPlayUrl, .text strEndTag]
    terminated := true }

/-- `CreateRealPlayUrlResponseByContrl`: the test leaves out the result. -/
def createRealPlayUrlResponseByContrl (pszSN pszID pszChannelID pszPlayUrl pszResult : CStr) :
    Builder :=
  let strVersion :=
    str "<?xml version=\"1.0\"?>\r\n<Response>\r\n<CmdType>RealPlayUrl</CmdType>\r\n<SN>"
  let strSNTag := str "</SN>\r\n<DeviceID>"
  let strDeviceIDTag := str "</DeviceID>\r\n<DecoderChannelID>"
  let strChanIDTag := str "</DecoderChannelID><PlayUrl>"
  let strResultTag := str "</PlayUrl>\r\n<Result>"
  let strEndTag := str "</Result>\r\n</Response>\r\n"
  { test := .upTo (strVersion.length + strSNTag.length + strDeviceIDTag.length +
      strChanIDTag.length + strResultTag.length + strEndTag.length + pszSN.length + pszID.length +
      pszPlayUrl.length + pszChannelID.length)
    pieces := [.text strVersion, .text pszSN, .text strSNTag, .text pszID, .text strDeviceIDTag,
      .text pszChannelID, .text strChanIDTag, .text pszPlayUrl, .text strResultTag,
      .text pszResult, .text strEndTag]
    terminated := true }

def createPlayBackUrlResponse (pszSN pszID pszPlayUrl : CStr) : Builder :=
  let strVersion := str "<?xml version=\"1.0\" encoding=\"gb2312\"?>\r\n" ++
    str "<Response>\r\n<CmdType>PlayBackUrl</CmdType>\r\n<SN>"
  let strSNTag := str "</SN>\r\n<DeviceID>"
  let strDeviceIDTag := str "</DeviceID>\r\n<PlayUrl>"
  let strEndTag := str "</PlayUrl>\r\n</Response>\r\n"
  { test := .upTo (strVersion.length + strSNTag.length + strDeviceIDTag.length +
      strEndTag.length + pszSN.length + pszID.length + pszPlayUrl.length)
    pieces := [.text strVersion, .text pszSN, .text strSNTag, .text pszID, .text strDeviceIDTag,
      .text pszPlayUrl, .text strEndTag]
    terminated := true }

/-- `CreatePlayBackUrlResponseByControl`: the test leaves out the result. -/
def createPlayBackUrlResponseByControl (pszSN pszID pszPlayUrl pszResult : CStr) : Builder :=
  let strVersion :=
    str "<?xml version=\"1.0\"?>\r\n<Response>\r\n<CmdType>PlayBackUrl</CmdType>\r\n<SN>"
  let strSNTag := str "</SN>\r\n<DeviceID>"
  let strDeviceIDTag := str "</DeviceID>\r\n<PlayUrl>"
  let strResultTag := str "</PlayUrl>\r\n<Result>"
  let strEndTag := str "</Result>\r\n</Response>\r\n"
  { test := .upTo (strVersion.length + strSNTag.length + strDeviceIDTag.length +
      strResultTag.length + strEndTag.length + pszSN.length + pszID.length + pszPlayUrl.length)
    pieces := [.text strVersion, .text pszSN, .text strSNTag, .text pszID, .text strDeviceIDTag,
      .text pszPlayUrl, .text strResultTag, .text pszResult, .text strEndTag]
    terminated := true }

/-- `CreateSubscribeResBody`: the terminator is not copied. -/
def createSubscribeResBody (pszSN pszDevID pszResult : CStr) : Builder :=
  let strVersion :=
    str "<?xml version=\"1.0\"?>\r\n<Response>\r\n<CmdType>Catalog</CmdType>\r\n<SN>"
  let strSNTag := str "</SN>\r\n<DeviceID>"
  let strResultTag := str "</DeviceID>\r\n<Result>"
  let strEndTag := str "</Result>\r\n</Response>\r\n"
  { test := .upTo (strVersion.length + strSNTag.length + strEndTag.length + strResultTag.length +
      pszSN.length + pszDevID.length + pszResult.length)
    pieces := [.text strVersion, .text pszSN, .text strSNTag, .text pszDevID, .text strResultTag,
      .text pszResult, .text strEndTag]
    terminated := false }

end builders

end GB28181.Platform.BodyBuilder
