import GB28181.Lib.AdapterFrames
import GB28181.Lib.CDataStream

/-!
# Requests to the adapter (`GB28181.Lib/UACTCP.cpp`)

Every `Send...` function of `CUACTCP` chooses a buffer and hands fields of fixed and variable size
to a `CDataStream` over it.

* `Request.fits_iff` — the copies stay inside the buffer and the bytes sent are the frame **exactly
  when the frame is not larger than the buffer**;
* `requests_fit_iff` — so for every function and all its arguments: two functions have a buffer
  that is too small for any request, one has it for every request with basic parameters, and three
  have it for long texts.
-/

set_option autoImplicit false

namespace GB28181.Lib

open GB28181.Base

/-- What a `Send...` function of `CUACTCP` puts into a buffer: it tells the stream `nBufSize` bytes
of a buffer of `allocated` bytes, and hands it the command, the sequence number, the fields and the
finish symbol. -/
structure Request where
  allocated : Nat
  nBufSize : Nat
  nCmdID : Int
  fields : List CStr
  deriving DecidableEq

namespace Request

variable (r : Request) (m_unSeq : UInt32) (junk : Nat → UInt8)

def stream : CDataStream := .new (uninitialised junk r.allocated) r.nBufSize

/-- The calls of `InputData`. -/
def inputs : List (Int × CStr) :=
  (4, int32Bytes r.nCmdID) ::
    CDataStream.appends ([int32Bytes m_unSeq.toNat] ++ r.fields ++ [[0x23]])

/-- What `SendData(buf, dataStream.GetLastPos())` is handed. -/
def sent : Except StreamFault CStr :=
  (tryRun CDataStream.inputData (r.stream junk) (r.inputs m_unSeq)).map fun s =>
    s.m_pBuf.take s.m_pLastPos

/-- The bytes of the frame: length, command, sequence number, fields, finish symbol. -/
def size : Nat := 4 + 4 + 4 + r.fields.flatten.length + 1

def frame : CStr :=
  int32Bytes (r.size - 4) ++
    (int32Bytes r.nCmdID ++ int32Bytes m_unSeq.toNat ++ r.fields.flatten ++ [0x23])

structure Fits : Prop where
  inside : ∀ p ∈ tryCalls CDataStream.inputData (r.stream junk) (r.inputs m_unSeq),
    p.1.Inside p.2
  declared : r.nBufSize ≤ r.allocated
  exact : r.sent m_unSeq junk = .ok (r.frame m_unSeq)

variable {r m_unSeq junk}

theorem frame_length : (r.frame m_unSeq).length = r.size := by
  simp [frame, size]
  omega

theorem inputData_command (hroom : r.nBufSize ≤ r.allocated)
    (hinside : (r.stream junk).Inside (4, int32Bytes r.nCmdID)) :
    ∃ s, CDataStream.inputData (r.stream junk) (4, int32Bytes r.nCmdID) = .ok s ∧
      s.Content (int32Bytes r.nCmdID) ∧ s.m_nBufSize = r.nBufSize := by
  have h8 : 8 ≤ r.nBufSize := Int.ofNat_le.mp hinside
  have hlen : (r.stream junk).m_pBuf.length = r.allocated := uninitialised_length _ _
  have htake : ((r.stream junk).m_pBuf.take 4).length = 4 := by
    rw [List.length_take, hlen]
    omega
  have hbuf : overwrite (r.stream junk).m_pBuf 4 (int32Bytes r.nCmdID) =
      (r.stream junk).m_pBuf.take 4 ++ int32Bytes r.nCmdID ++
        ((r.stream junk).m_pBuf.drop 4).drop 4 := by
    have h := overwrite_append ((r.stream junk).m_pBuf.take 4) ((r.stream junk).m_pBuf.drop 4)
      (int32Bytes r.nCmdID)
    rwa [List.take_append_drop, htake, int32Bytes_length] at h
  have hcopy := CDataStream.copyIn_ok hinside (by
    rw [hlen]
    exact Int.ofNat_le.mpr hroom)
  refine ⟨_, (if_neg (by omega)).trans hcopy, ⟨rfl, rfl, ?_, _, _, htake, hbuf⟩, rfl⟩
  show (r.nBufSize : Int) ≤ (overwrite (r.stream junk).m_pBuf 4 (int32Bytes r.nCmdID)).length
  rw [overwrite_length (by rw [hlen, int32Bytes_length]; omega), hlen]
  exact Int.ofNat_le.mpr hroom

theorem flatten_length : ([int32Bytes m_unSeq.toNat] ++ r.fields ++ [[0x23]]).flatten.length =
    4 + r.fields.flatten.length + 1 := by
  simp [Nat.add_assoc]

theorem inside_iff (hroom : r.nBufSize ≤ r.allocated) :
    (∀ p ∈ tryCalls CDataStream.inputData (r.stream junk) (r.inputs m_unSeq), p.1.Inside p.2) ↔
      r.size ≤ r.nBufSize := by
  by_cases hinside : (r.stream junk).Inside (4, int32Bytes r.nCmdID)
  · have h8 : 8 ≤ r.nBufSize := Int.ofNat_le.mp hinside
    obtain ⟨s, hstep, hcontent, hsize⟩ := inputData_command hroom hinside
    rw [inputs, tryCalls_cons_ok hstep, List.forall_mem_cons, and_iff_right hinside,
      CDataStream.appends_inside_iff _ hcontent (by rw [hsize, int32Bytes_length]; omega), hsize,
      int32Bytes_length, flatten_length, size]
    omega
  · refine iff_of_false (fun h => hinside (h _ List.mem_cons_self)) fun h => hinside ?_
    rw [size] at h
    exact Int.ofNat_le.mpr (by omega : 4 + 4 ≤ r.nBufSize)

theorem sent_eq (hroom : r.nBufSize ≤ r.allocated) (hle : r.size ≤ r.nBufSize) :
    r.sent m_unSeq junk = .ok (r.frame m_unSeq) := by
  have hall : ∀ p ∈ tryCalls CDataStream.inputData (r.stream junk) (r.inputs m_unSeq),
      p.1.Inside p.2 := (inside_iff hroom).mpr hle
  obtain ⟨s, hstep, hcontent, hsize⟩ := inputData_command hroom (hall _ List.mem_cons_self)
  rw [size] at hle
  have hfields : ([int32Bytes m_unSeq.toNat] ++ r.fields).flatten.length =
      4 + r.fields.flatten.length := by simp
  obtain ⟨s', hrun, hcontent', hsize'⟩ := CDataStream.tryRun_appends
    ([int32Bytes m_unSeq.toNat] ++ r.fields) hcontent (by
      rw [hsize, int32Bytes_length, hfields]
      omega)
  obtain ⟨s'', hfinish, htake⟩ := CDataStream.inputData_finish hcontent' (by
    rw [hcontent'.inside_iff, hsize', hsize, List.length_append, int32Bytes_length, hfields,
      List.length_singleton]
    omega)
  have happends : r.inputs m_unSeq = (4, int32Bytes r.nCmdID) ::
      (CDataStream.appends ([int32Bytes m_unSeq.toNat] ++ r.fields) ++ [(-1, [0x23])]) := by
    rw [inputs, CDataStream.appends, List.map_append]
    rfl
  rw [sent, happends, tryRun_cons_ok hstep, tryRun_append_ok _ hrun, tryRun_cons_ok hfinish]
  have hlength : ((int32Bytes r.nCmdID ++ ([int32Bytes m_unSeq.toNat] ++ r.fields).flatten).length
      + 1 : Int) = r.size - 4 := by
    rw [List.length_append, int32Bytes_length, hfields, size]
    omega
  show Except.ok (s''.m_pBuf.take s''.m_pLastPos) = _
  rw [htake, hlength, frame, List.singleton_append, List.flatten_cons]
  simp only [List.append_assoc]

/-- **A request fits its buffer exactly when its frame does.** -/
theorem fits_iff :
    (∀ junk, r.Fits m_unSeq junk) ↔ r.size ≤ r.nBufSize ∧ r.nBufSize ≤ r.allocated := by
  constructor
  · intro h
    obtain ⟨hinside, hroom, -⟩ := h fun _ => 0
    exact ⟨(inside_iff hroom).mp hinside, hroom⟩
  · rintro ⟨hle, hroom⟩ junk
    exact ⟨(inside_iff hroom).mpr hle, hroom, sent_eq hroom hle⟩

end Request

/-! ### Constants of `SipInterface.h`, under the names that `UACTCP.cpp` has for them -/

def ID_LEN : Nat := 20
def ID_BUFFER_SIZE : Nat := ID_LEN + 1
def IP_LEN : Nat := 15
def IP_BUFFER_SIZE : Nat := IP_LEN + 1
def PORT_LEN : Nat := 5
def PASS_LEN : Nat := 32
def TIME_LEN : Nat := 32
def LOGIN_MSG_SIZE : Nat := 128
def ACK_MSG_SIZE : Nat := 128
def INVITE_MSG_SIZE : Nat := 512
def SEARCH_MSG_SIZE : Nat := 512
def CTRL_MSG_SIZE : Nat := 129

def INVITE_CMD : Int := 2
def MESSAGE_CMD : Int := 3
def LOGIN_CMD : Int := 4
def SUBSCRIBE_CMD : Int := 5
def INFO_CMD : Int := 7
def BYE_CMD : Int := 8
def DECODERPLAY_CMD : Int := 10
def CALLACK_CMD : Int := 0x10
def RESETALARM_CMD : Int := 0x11
def PRIVATE_CMD : Int := 0xff

def DEVICE_CTRL_TYPE : Int := 1
def INFO_INQUIRE_TYPE : Int := 3
def STATUS_INQUIRE_TYPE : Int := 5
def RECORD_INQUIRE_TYPE : Int := 7
def CATALOG_INQUIRE_TYPE : Int := 9
def SET_RECORD_TYPE : Int := 11
def SET_GUARD_TYPE : Int := 13
def REMOTE_STARTUP_TYPE : Int := 17
def DEVICE_CONFIG_TYPE : Int := 21
def PRESET_QUERY_TYPE : Int := 22
def CONFIG_DOWNLOAD_TYPE : Int := 23
def CATALOG_SUBSCRIBE_TYPE : Int := 24
def REAL_PLAY_URL_TYPE : Int := 25
def PLAY_BACK_URL_TYPE : Int := 26
def DECODER_STATUS_TYPE : Int := 27
def SUBSCRIBE_ALARM_TYPE : Int := 28
def ALARM_QUERY_TYPE : Int := 29
def SEND_EVENT_SUBSCRIBE : Int := 31
def STOP_PLAY_URL_TYPE : Int := 32
def DECODER_DIVISION_TYPE : Int := 33

def SIP_CLIENT_LOGIN_TYPE : Int := 1
def SIP_CLIENT_LOGOUT_TYPE : Int := 3
def SIP_CLIENT_CHANGEPASSWORD_TYPE : Int := 5

/-! ### Arguments -/

/-- What a `const char *` points at: the text, its terminator and the memory behind.  The length of
a text is an `int`. -/
structure CharPtr where
  chars : CStr
  behind : Nat → UInt8
  nonzero : 0 ∉ chars
  short : chars.length < 2147483647

theorem CharPtr.nil_nonzero : 0 ∉ ([] : CStr) := List.not_mem_nil

theorem CharPtr.nil_short : ([] : CStr).length < 2147483647 := by decide

def CharPtr.nil : CharPtr :=
  { chars := [], behind := fun _ => 0, nonzero := nil_nonzero, short := nil_short }

def CharPtr.strlen (t : CharPtr) : Nat := t.chars.length

/-- The `n` bytes from the pointer on. -/
def CharPtr.bytes (t : CharPtr) (n : Nat) : CStr :=
  (t.chars ++ 0 :: (List.range n).map t.behind).take n

@[simp] theorem CharPtr.bytes_length (t : CharPtr) (n : Nat) : (t.bytes n).length = n := by
  simp [CharPtr.bytes]
  omega

/-- An `std::string` as it is sent: its length with the terminator, then `c_str()`. -/
def stringFields (s : CStr) : List CStr := [int32Bytes (s.length + 1), s ++ [0]]

/-- A text that may be missing: its length with the terminator, then the text. -/
def textFields : Option CharPtr → List CStr
  | none => [int32Bytes 0]
  | some t => [int32Bytes (t.strlen + 1), t.bytes (t.strlen + 1)]

/-- The bytes of a text with its terminator, if there is one. -/
def textSize : Option CharPtr → Nat
  | none => 0
  | some t => t.strlen + 1

structure BasicParam where
  strDeviceID : CharPtr
  strName : CStr
  strSIPServerId : CharPtr
  strSIPServerIp : CharPtr
  nSIPServerPort : Int
  strDomainName : CStr
  nExpiration : Int
  strPassword : CStr
  nHeartBeatInternal : Int
  nHeartBeatCount : Int

structure VideoParamAttribute where
  strStreamName : CStr
  strVideoFormat : CStr
  strResolution : CStr
  strFrameRate : CStr
  strBitRateType : CStr
  strVideoBitRate : CStr

structure AudioParamAttribute where
  strStreamName : CStr
  strAudioFormat : CStr
  strAudioBitRate : CStr
  strSamplingRate : CStr

structure ROIParamAttribute where
  nROISeq : Int
  nTopLeft : Int
  nBottomRight : Int
  nROIQP : Int

structure ROIParam where
  cFlag : UInt8
  nROIFlag : Int
  nROINumber : Int
  lpROIParamAttribute : Nat → ROIParamAttribute
  nBackGroundQP : Int
  nBackGroundSkipFlag : Int

/-- `cFlag` is sent as four bytes once: itself and the three bytes of padding behind it. -/
structure SVCParam where
  cFlag : UInt8
  padding : UInt8 × UInt8 × UInt8
  nSVCFlag : Int
  nSVCSTMMode : Int
  nSVCSpaceDomainMode : Int
  nSVCTimeDomainMode : Int

structure SurveillanceParam where
  cFlag : UInt8
  nTimeFlag : Int
  nEventFlag : Int
  nAlertFlag : Int

structure EncryptParam where
  cFlag : UInt8
  nEncryptionFlag : Int
  nAuthenticationFlag : Int

structure AudioParam where
  cFlag : UInt8
  nAudioRecognitionFlag : Int

structure SVACEncodeConfig where
  cFlag : UInt8
  rOIParam : ROIParam
  sVCParam : SVCParam
  surveillanceParam : SurveillanceParam
  encryptParam : EncryptParam
  audioParam : AudioParam

structure DecodeSVCParam where
  cFlag : UInt8
  nSVCSTMMode : Int

structure DecodeSurveillanceParam where
  cFlag : UInt8
  nTimeShowFlag : Int
  nEventShowFlag : Int
  nAlertShowFlag : Int

structure SVACDecodeConfig where
  cFlag : UInt8
  sVCParam : DecodeSVCParam
  surveillanceParam : DecodeSurveillanceParam

/-- `deviceConfig_info_t`, as far as it is sent. -/
structure DeviceConfigInfo where
  cBasicParam : UInt8
  lpBasicParam : BasicParam
  nVideoParamConfigNum : Int
  lpVideoParamAttribute : Nat → VideoParamAttribute
  nAudioParamConfigNum : Int
  lpAudioParamAttribute : Nat → AudioParamAttribute
  sVACEncodeConfig : SVACEncodeConfig
  sVACDecodeConfig : SVACDecodeConfig

/-! ### The fields of `SendDeviceConfig` -/

def flagged (cFlag : UInt8) (fields : List CStr) : List CStr :=
  [cFlag] :: if cFlag = 0 then [] else fields

/-- The records of a loop `for(int i = 0; i < nNum; i++)`. -/
def records {α : Type} (nNum : Int) (lpRecords : Nat → α) (fields : α → List CStr) : List CStr :=
  (List.range nNum.toNat).flatMap fun i => fields (lpRecords i)

def BasicParam.fields (p : BasicParam) : List CStr :=
  stringFields p.strName ++
    [p.strDeviceID.bytes (ID_LEN + 1), p.strSIPServerId.bytes (ID_LEN + 1),
      p.strSIPServerIp.bytes (IP_LEN + 1), int32Bytes p.nSIPServerPort] ++
    stringFields p.strDomainName ++ [int32Bytes p.nExpiration] ++
    stringFields p.strPassword ++
    [int32Bytes p.nHeartBeatInternal, int32Bytes p.nHeartBeatCount]

def VideoParamAttribute.fields (p : VideoParamAttribute) : List CStr :=
  stringFields p.strStreamName ++ stringFields p.strVideoFormat ++
    stringFields p.strResolution ++ stringFields p.strFrameRate ++
    stringFields p.strBitRateType ++ stringFields p.strVideoBitRate

def AudioParamAttribute.fields (p : AudioParamAttribute) : List CStr :=
  stringFields p.strStreamName ++ stringFields p.strAudioFormat ++
    stringFields p.strAudioBitRate ++ stringFields p.strSamplingRate

def ROIParamAttribute.fields (p : ROIParamAttribute) : List CStr :=
  [int32Bytes p.nROISeq, int32Bytes p.nTopLeft, int32Bytes p.nBottomRight, int32Bytes p.nROIQP]

def ROIParam.fields (p : ROIParam) : List CStr :=
  flagged p.cFlag ([int32Bytes p.nROIFlag, int32Bytes p.nROINumber] ++
    records p.nROINumber p.lpROIParamAttribute ROIParamAttribute.fields ++
    [int32Bytes p.nBackGroundQP, int32Bytes p.nBackGroundSkipFlag])

def SVCParam.fields (p : SVCParam) : List CStr :=
  flagged p.cFlag [[p.cFlag, p.padding.1, p.padding.2.1, p.padding.2.2], int32Bytes p.nSVCFlag,
    int32Bytes p.nSVCSTMMode, int32Bytes p.nSVCSpaceDomainMode, int32Bytes p.nSVCTimeDomainMode]

def SurveillanceParam.fields (p : SurveillanceParam) : List CStr :=
  flagged p.cFlag [int32Bytes p.nTimeFlag, int32Bytes p.nEventFlag, int32Bytes p.nAlertFlag]

def EncryptParam.fields (p : EncryptParam) : List CStr :=
  flagged p.cFlag [int32Bytes p.nEncryptionFlag, int32Bytes p.nAuthenticationFlag]

def AudioParam.fields (p : AudioParam) : List CStr :=
  flagged p.cFlag [int32Bytes p.nAudioRecognitionFlag]

def SVACEncodeConfig.fields (p : SVACEncodeConfig) : List CStr :=
  flagged p.cFlag (p.rOIParam.fields ++ p.sVCParam.fields ++ p.surveillanceParam.fields ++
    p.encryptParam.fields ++ p.audioParam.fields)

def DecodeSVCParam.fields (p : DecodeSVCParam) : List CStr :=
  flagged p.cFlag [int32Bytes p.nSVCSTMMode]

def DecodeSurveillanceParam.fields (p : DecodeSurveillanceParam) : List CStr :=
  flagged p.cFlag [int32Bytes p.nTimeShowFlag, int32Bytes p.nEventShowFlag,
    int32Bytes p.nAlertShowFlag]

def SVACDecodeConfig.fields (p : SVACDecodeConfig) : List CStr :=
  flagged p.cFlag (p.sVCParam.fields ++ p.surveillanceParam.fields)

def DeviceConfigInfo.fields (p : DeviceConfigInfo) : List CStr :=
  flagged p.cBasicParam (p.lpBasicParam.fields ++
    int32Bytes p.nVideoParamConfigNum ::
      records p.nVideoParamConfigNum p.lpVideoParamAttribute VideoParamAttribute.fields ++
    int32Bytes p.nAudioParamConfigNum ::
      records p.nAudioParamConfigNum p.lpAudioParamAttribute AudioParamAttribute.fields ++
    p.sVACEncodeConfig.fields ++ p.sVACDecodeConfig.fields)

theorem textFields_length (t : Option CharPtr) :
    (textFields t).flatten.length = 4 + textSize t := by
  cases t with
  | none => rfl
  | some t => simp [textFields, textSize]

theorem stringFields_length (t : CStr) : (stringFields t).flatten.length = 4 + (t.length + 1) := by
  simp [stringFields]

theorem flagged_length (cFlag : UInt8) (fields : List CStr) :
    1 ≤ (flagged cFlag fields).flatten.length := by
  simp [flagged]

theorem BasicParam.fields_length (p : BasicParam) : 89 ≤ p.fields.flatten.length := by
  simp only [BasicParam.fields, List.flatten_append, List.length_append, stringFields_length,
    List.flatten_cons, List.flatten_nil, List.length_nil, CharPtr.bytes_length, int32Bytes_length,
    ID_LEN, IP_LEN]
  omega

/-- Basic parameters alone need more than the 89 bytes that are left behind the device ID. -/
theorem DeviceConfigInfo.fields_length (p : DeviceConfigInfo) (h : p.cBasicParam ≠ 0) :
    100 ≤ p.fields.flatten.length := by
  have hbasic := p.lpBasicParam.fields_length
  have hencode : 1 ≤ p.sVACEncodeConfig.fields.flatten.length := flagged_length _ _
  have hdecode : 1 ≤ p.sVACDecodeConfig.fields.flatten.length := flagged_length _ _
  simp only [DeviceConfigInfo.fields, flagged, if_neg h, List.flatten_append, List.length_append,
    List.flatten_cons, List.length_cons, List.length_nil, int32Bytes_length]
  omega

/-! ### The functions of `CUACTCP` -/

/-- A buffer of which the stream is told the size. -/
def request (nBufSize : Nat) (nCmdID : Int) (fields : List CStr) : Request :=
  { allocated := nBufSize, nBufSize := nBufSize, nCmdID := nCmdID, fields := fields }

theorem fits_request_iff {nBufSize : Nat} {nCmdID : Int} {fields : List CStr} {m_unSeq : UInt32} :
    (∀ junk, (request nBufSize nCmdID fields).Fits m_unSeq junk) ↔
      13 + fields.flatten.length ≤ nBufSize := by
  rw [Request.fits_iff, Request.size]
  show (4 + 4 + 4 + fields.flatten.length + 1 ≤ nBufSize ∧ nBufSize ≤ nBufSize) ↔ _
  omega

structure CUACTCP where
  m_unSeq : UInt32
  m_strOwnID : CharPtr
  m_strSipClientID : CharPtr

namespace CUACTCP

def sendLogin (s : CUACTCP) : Option Request :=
  if s.m_strOwnID.chars = str "EC" then
    some (request LOGIN_MSG_SIZE LOGIN_CMD [s.m_strOwnID.bytes ID_BUFFER_SIZE])
  else none

/-- `SendLogin` of the SIP client. -/
def sendClientLogin (pstrLocalSipID pstrLocalIp pstrLocalPort pstrPltSipID pstrPltIp pstrPltPort
    pstrPltPassword : CharPtr) : Request :=
  request 150 PRIVATE_CMD [int32Bytes SIP_CLIENT_LOGIN_TYPE, pstrLocalSipID.bytes (ID_LEN + 1),
    pstrLocalIp.bytes (IP_LEN + 1), pstrLocalPort.bytes (PORT_LEN + 1),
    pstrPltSipID.bytes (ID_LEN + 1), pstrPltIp.bytes (IP_LEN + 1),
    pstrPltPort.bytes (PORT_LEN + 1), pstrPltPassword.bytes (PASS_LEN + 1)]

def sendDecorder (pstrDecorderID pstrCameraID : CharPtr) (nOption : Int) : Request :=
  request INVITE_MSG_SIZE DECODERPLAY_CMD [pstrDecorderID.bytes ID_BUFFER_SIZE,
    pstrCameraID.bytes ID_BUFFER_SIZE, int32Bytes nOption]

def sendInvite (nOperate nProType : Int) (pstrDeviceID pstrChannelID pstrRecvIP : CharPtr)
    (nRecvPort : Int × Int) (ptmStart ptmEnd : CharPtr) : Request :=
  request INVITE_MSG_SIZE INVITE_CMD [int32Bytes nOperate, pstrDeviceID.bytes ID_BUFFER_SIZE,
    pstrChannelID.bytes ID_BUFFER_SIZE, int32Bytes nProType, pstrRecvIP.bytes IP_BUFFER_SIZE,
    int32Bytes nRecvPort.1, int32Bytes nRecvPort.2, ptmStart.bytes (TIME_LEN + 1),
    ptmEnd.bytes (TIME_LEN + 1)]

def sendDeviceControl (pstrDeviceID pstrChannelID : CharPtr)
    (bCmdType bData1 bData2 bData3 cZoom : UInt8)
    (nLength nWidth nMidPointX nMidPointY nLengthX nLengthY : Int) : Request :=
  request CTRL_MSG_SIZE MESSAGE_CMD [int32Bytes DEVICE_CTRL_TYPE, [bCmdType],
    pstrDeviceID.bytes ID_BUFFER_SIZE, pstrChannelID.bytes ID_BUFFER_SIZE, [bData1], [bData2],
    [bData3], [cZoom], int32Bytes nLength, int32Bytes nWidth, int32Bytes nMidPointX,
    int32Bytes nMidPointY, int32Bytes nLengthX, int32Bytes nLengthY]

/-- The requests that name a device and nothing else. -/
def inquiry (nOperate : Int) (pstrDeviceID : CharPtr) : Request :=
  request CTRL_MSG_SIZE MESSAGE_CMD [int32Bytes nOperate, pstrDeviceID.bytes ID_BUFFER_SIZE]

def sendRemoteStartup : CharPtr → Request := inquiry REMOTE_STARTUP_TYPE
def sendDeviceCatalogInquiry : CharPtr → Request := inquiry CATALOG_INQUIRE_TYPE
def sendDeviceInfoInquiry : CharPtr → Request := inquiry INFO_INQUIRE_TYPE
def sendDeviceStatusInquiry : CharPtr → Request := inquiry STATUS_INQUIRE_TYPE
def sendDevicePersetQuery : CharPtr → Request := inquiry PRESET_QUERY_TYPE

def setActive (nOperate : Int) (pstrDeviceID pstrChannelID : CharPtr) (nActive : Int) : Request :=
  request CTRL_MSG_SIZE MESSAGE_CMD [int32Bytes nOperate, int32Bytes nActive,
    pstrDeviceID.bytes (ID_LEN + 1), pstrChannelID.bytes (ID_LEN + 1)]

def sendRecord : CharPtr → CharPtr → Int → Request := setActive SET_RECORD_TYPE
def sendGuard : CharPtr → CharPtr → Int → Request := setActive SET_GUARD_TYPE

def sendEventSubscribe (nStratPriority nEndPriority nMethod : Int)
    (pstrStartTime pstrEndTime : CharPtr) : Request :=
  request CTRL_MSG_SIZE MESSAGE_CMD [int32Bytes SEND_EVENT_SUBSCRIBE, int32Bytes nStratPriority,
    int32Bytes nEndPriority, int32Bytes nMethod, pstrStartTime.bytes (TIME_LEN + 1),
    pstrEndTime.bytes (TIME_LEN + 1)]

def sendCatalogSubscribe (pstrDeviceID pstrChannelID : CharPtr) (nExpires : Int)
    (pstrStartTime pstrEndTime : CharPtr) : Request :=
  request CTRL_MSG_SIZE SUBSCRIBE_CMD [int32Bytes CATALOG_SUBSCRIBE_TYPE,
    pstrDeviceID.bytes (ID_LEN + 1), pstrChannelID.bytes (ID_LEN + 1), int32Bytes nExpires,
    pstrStartTime.bytes (TIME_LEN + 1), pstrEndTime.bytes (TIME_LEN + 1)]

/-- `SendBye` with the call's IDs; the other one looks them up. -/
def sendBye (pstrDeviceID pstrChannelID : CharPtr) (nCid nDid : Int) : Option Request :=
  if nCid ≠ -1 ∧ nDid ≠ -1 then
    some (request CTRL_MSG_SIZE BYE_CMD [pstrDeviceID.bytes ID_BUFFER_SIZE,
      pstrChannelID.bytes ID_BUFFER_SIZE, int32Bytes nCid, int32Bytes nDid])
  else none

/-- `SendPlayBackCtrl`; `nDid` and `fSpeed` are looked up, a `float` is given by its bits. -/
def sendPlayBackCtrl (pstrDeviceID : CharPtr) (nOperate nDid fValue fSpeed : Int) : Request :=
  request CTRL_MSG_SIZE INFO_CMD [int32Bytes nOperate, pstrDeviceID.bytes ID_BUFFER_SIZE,
    int32Bytes nDid, int32Bytes fValue, int32Bytes fSpeed]

def sendRecordInfoInquiry (pstrDeviceID pstrChannelID : CharPtr) (nType : Int)
    (strSTime strETime : CharPtr) (pstrFilePath pstrAddress : Option CharPtr) (bSecrecy : UInt8)
    (pstrRecorderID : Option CharPtr) (indistinctQuery : UInt8) : Request :=
  request SEARCH_MSG_SIZE MESSAGE_CMD ([int32Bytes RECORD_INQUIRE_TYPE,
    pstrDeviceID.bytes (ID_LEN + 1), pstrChannelID.bytes (ID_LEN + 1), int32Bytes nType,
    strSTime.bytes (TIME_LEN + 1), strETime.bytes (TIME_LEN + 1)] ++ textFields pstrFilePath ++
    textFields pstrAddress ++ [[bSecrecy]] ++ textFields pstrRecorderID ++ [[indistinctQuery]])

def sendCallAck (nDID : Int) : Request :=
  { allocated := ACK_MSG_SIZE
    nBufSize := LOGIN_MSG_SIZE
    nCmdID := CALLACK_CMD
    fields := [int32Bytes nDID] }

def sendResetAlarm (pstrDeviceID pstrChannelID : CharPtr) : Request :=
  { allocated := ACK_MSG_SIZE
    nBufSize := LOGIN_MSG_SIZE
    nCmdID := RESETALARM_CMD
    fields := [pstrDeviceID.bytes (ID_LEN + 1), pstrChannelID.bytes (ID_LEN + 1)] }

def sendDeviceConfig (pstrDeviceID : CharPtr) (pDeviceConfig : DeviceConfigInfo) : Request :=
  { allocated := 1024
    nBufSize := LOGIN_MSG_SIZE
    nCmdID := MESSAGE_CMD
    fields := int32Bytes DEVICE_CONFIG_TYPE :: pstrDeviceID.bytes (ID_LEN + 1) ::
      pDeviceConfig.fields }

/-- `SendConfigDownload`; `sizeof(strConfigType)` is the size of a pointer. -/
def sendConfigDownload (pstrDeviceID strConfigType : Option CharPtr) : Option Request := do
  let pstrDeviceID ← pstrDeviceID
  let strConfigType ← strConfigType
  return request CTRL_MSG_SIZE MESSAGE_CMD [int32Bytes CONFIG_DOWNLOAD_TYPE,
    pstrDeviceID.bytes ID_BUFFER_SIZE, int32Bytes 4, strConfigType.bytes 4]

def sendRealPlayUrl (pstrChannelID : CharPtr) (nWndNum : Int) (pstrDeviceId : CharPtr) : Request :=
  request 56 MESSAGE_CMD [int32Bytes REAL_PLAY_URL_TYPE, pstrChannelID.bytes (ID_LEN + 1),
    int32Bytes nWndNum, pstrDeviceId.bytes (ID_LEN + 1)]

def sendPlayBackUrl (pstrDeviceID pstrChannelID strSTime strETime pstrLocation : CharPtr) :
    Option Request :=
  if 19 < strSTime.strlen ∨ 19 < strETime.strlen then none
  else
    some (request SEARCH_MSG_SIZE MESSAGE_CMD [int32Bytes PLAY_BACK_URL_TYPE,
      pstrDeviceID.bytes (ID_LEN + 1), pstrChannelID.bytes (ID_LEN + 1),
      strSTime.bytes (TIME_LEN + 1), strETime.bytes (TIME_LEN + 1),
      int32Bytes (pstrLocation.strlen + 1), pstrLocation.bytes (pstrLocation.strlen + 1)])

def sendDecoderStatus (pstrDeviceID pstrChannelID : CharPtr) : Request :=
  request 56 MESSAGE_CMD [int32Bytes DECODER_STATUS_TYPE, pstrDeviceID.bytes (ID_LEN + 1),
    pstrChannelID.bytes (ID_LEN + 1)]

def sendAlarmSubScribe (pstrDeviceID pstrChannelID : CharPtr)
    (nExpires nStartAlarmPriority nEndAlarmPriority nAlarmMethod : Int)
    (pstrSTime pstrETime : CharPtr) : Request :=
  request 256 SUBSCRIBE_CMD [int32Bytes SUBSCRIBE_ALARM_TYPE, pstrDeviceID.bytes (ID_LEN + 1),
    pstrChannelID.bytes (ID_LEN + 1), int32Bytes nExpires, int32Bytes nStartAlarmPriority,
    int32Bytes nEndAlarmPriority, int32Bytes nAlarmMethod, pstrSTime.bytes (TIME_LEN + 1),
    pstrETime.bytes (TIME_LEN + 1)]

def sendAlarmQuery (pstrDeviceID pstrChannelID : CharPtr)
    (nStartAlarmPriority nEndAlarmPriority nAlarmMethod : Int)
    (pstrSTime pstrETime pstrAlarmType : CharPtr) : Request :=
  request 256 SUBSCRIBE_CMD [int32Bytes ALARM_QUERY_TYPE, pstrDeviceID.bytes (ID_LEN + 1),
    pstrChannelID.bytes (ID_LEN + 1), int32Bytes nStartAlarmPriority,
    int32Bytes nEndAlarmPriority, int32Bytes nAlarmMethod, pstrSTime.bytes (TIME_LEN + 1),
    pstrETime.bytes (TIME_LEN + 1), int32Bytes (pstrAlarmType.strlen + 1),
    pstrAlarmType.bytes (pstrAlarmType.strlen + 1)]

def sendLogout (s : CUACTCP) : Request :=
  request 128 PRIVATE_CMD [int32Bytes SIP_CLIENT_LOGOUT_TYPE,
    s.m_strSipClientID.bytes (ID_LEN + 1)]

def sendChangePassword (s : CUACTCP) (pstrOldPassword pstrNewPassword : CharPtr) : Request :=
  request 256 PRIVATE_CMD [int32Bytes SIP_CLIENT_CHANGEPASSWORD_TYPE,
    s.m_strSipClientID.bytes (ID_LEN + 1), pstrOldPassword.bytes (PASS_LEN + 1),
    pstrNewPassword.bytes (PASS_LEN + 1)]

def sendStopPlayUrl (pstrChannelID : CharPtr) (nWndNum : Int) : Request :=
  request 128 MESSAGE_CMD [int32Bytes STOP_PLAY_URL_TYPE, pstrChannelID.bytes (ID_LEN + 1),
    int32Bytes nWndNum]

def sendDecoderDivision (pstrDeviceID pstrChannelID : CharPtr) (nDivision : Int) : Request :=
  request 128 MESSAGE_CMD [int32Bytes DECODER_DIVISION_TYPE, pstrDeviceID.bytes (ID_LEN + 1),
    pstrChannelID.bytes (ID_LEN + 1), int32Bytes nDivision]

/-- A call of a function that builds a request, with its arguments. -/
inductive Call where
  | sendLogin
  | sendClientLogin (pstrLocalSipID pstrLocalIp pstrLocalPort pstrPltSipID pstrPltIp pstrPltPort
      pstrPltPassword : CharPtr)
  | sendDecorder (pstrDecorderID pstrCameraID : CharPtr) (nOption : Int)
  | sendInvite (nOperate nProType : Int) (pstrDeviceID pstrChannelID pstrRecvIP : CharPtr)
      (nRecvPort : Int × Int) (ptmStart ptmEnd : CharPtr)
  | sendDeviceControl (pstrDeviceID pstrChannelID : CharPtr)
      (bCmdType bData1 bData2 bData3 cZoom : UInt8)
      (nLength nWidth nMidPointX nMidPointY nLengthX nLengthY : Int)
  | sendRemoteStartup (pstrDeviceID : CharPtr)
  | sendDeviceCatalogInquiry (pstrDeviceID : CharPtr)
  | sendDeviceInfoInquiry (pstrDeviceID : CharPtr)
  | sendDeviceStatusInquiry (pstrDeviceID : CharPtr)
  | sendDevicePersetQuery (pstrDeviceID : CharPtr)
  | sendRecord (pstrDeviceID pstrChannelID : CharPtr) (nActive : Int)
  | sendGuard (pstrDeviceID pstrChannelID : CharPtr) (nActive : Int)
  | sendEventSubscribe (nStratPriority nEndPriority nMethod : Int)
      (pstrStartTime pstrEndTime : CharPtr)
  | sendCatalogSubscribe (pstrDeviceID pstrChannelID : CharPtr) (nExpires : Int)
      (pstrStartTime pstrEndTime : CharPtr)
  | sendBye (pstrDeviceID pstrChannelID : CharPtr) (nCid nDid : Int)
  | sendPlayBackCtrl (pstrDeviceID : CharPtr) (nOperate nDid fValue fSpeed : Int)
  | sendRecordInfoInquiry (pstrDeviceID pstrChannelID : CharPtr) (nType : Int)
      (strSTime strETime : CharPtr) (pstrFilePath pstrAddress : Option CharPtr) (bSecrecy : UInt8)
      (pstrRecorderID : Option CharPtr) (indistinctQuery : UInt8)
  | sendCallAck (nDID : Int)
  | sendResetAlarm (pstrDeviceID pstrChannelID : CharPtr)
  | sendDeviceConfig (pstrDeviceID : CharPtr) (pDeviceConfig : DeviceConfigInfo)
  | sendConfigDownload (pstrDeviceID strConfigType : Option CharPtr)
  | sendRealPlayUrl (pstrChannelID : CharPtr) (nWndNum : Int) (pstrDeviceId : CharPtr)
  | sendPlayBackUrl (pstrDeviceID pstrChannelID strSTime strETime pstrLocation : CharPtr)
  | sendDecoderStatus (pstrDeviceID pstrChannelID : CharPtr)
  | sendAlarmSubScribe (pstrDeviceID pstrChannelID : CharPtr)
      (nExpires nStartAlarmPriority nEndAlarmPriority nAlarmMethod : Int)
      (pstrSTime pstrETime : CharPtr)
  | sendAlarmQuery (pstrDeviceID pstrChannelID : CharPtr)
      (nStartAlarmPriority nEndAlarmPriority nAlarmMethod : Int)
      (pstrSTime pstrETime pstrAlarmType : CharPtr)
  | sendLogout
  | sendChangePassword (pstrOldPassword pstrNewPassword : CharPtr)
  | sendStopPlayUrl (pstrChannelID : CharPtr) (nWndNum : Int)
  | sendDecoderDivision (pstrDeviceID pstrChannelID : CharPtr) (nDivision : Int)

/-- The request of a call, if it builds one. -/
def Call.request (s : CUACTCP) : Call → Option Request
  | .sendLogin => s.sendLogin
  | .sendClientLogin id ip port pltId pltIp pltPort password =>
    some (CUACTCP.sendClientLogin id ip port pltId pltIp pltPort password)
  | .sendDecorder decorder camera nOption =>
    some (CUACTCP.sendDecorder decorder camera nOption)
  | .sendInvite nOperate nProType device channel ip ports tmStart tmEnd =>
    some (CUACTCP.sendInvite nOperate nProType device channel ip ports tmStart tmEnd)
  | .sendDeviceControl device channel cmd data1 data2 data3 zoom length width midX midY lenX lenY =>
    some (CUACTCP.sendDeviceControl device channel cmd data1 data2 data3 zoom length width midX
      midY lenX lenY)
  | .sendRemoteStartup device => some (CUACTCP.sendRemoteStartup device)
  | .sendDeviceCatalogInquiry device => some (CUACTCP.sendDeviceCatalogInquiry device)
  | .sendDeviceInfoInquiry device => some (CUACTCP.sendDeviceInfoInquiry device)
  | .sendDeviceStatusInquiry device => some (CUACTCP.sendDeviceStatusInquiry device)
  | .sendDevicePersetQuery device => some (CUACTCP.sendDevicePersetQuery device)
  | .sendRecord device channel nActive => some (CUACTCP.sendRecord device channel nActive)
  | .sendGuard device channel nActive => some (CUACTCP.sendGuard device channel nActive)
  | .sendEventSubscribe low high nMethod tmStart tmEnd =>
    some (CUACTCP.sendEventSubscribe low high nMethod tmStart tmEnd)
  | .sendCatalogSubscribe device channel nExpires tmStart tmEnd =>
    some (CUACTCP.sendCatalogSubscribe device channel nExpires tmStart tmEnd)
  | .sendBye device channel nCid nDid => CUACTCP.sendBye device channel nCid nDid
  | .sendPlayBackCtrl device nOperate nDid fValue fSpeed =>
    some (CUACTCP.sendPlayBackCtrl device nOperate nDid fValue fSpeed)
  | .sendRecordInfoInquiry device channel nType tmStart tmEnd path address bSecrecy recorder
      indistinct =>
    some (CUACTCP.sendRecordInfoInquiry device channel nType tmStart tmEnd path address bSecrecy
      recorder indistinct)
  | .sendCallAck nDID => some (CUACTCP.sendCallAck nDID)
  | .sendResetAlarm device channel => some (CUACTCP.sendResetAlarm device channel)
  | .sendDeviceConfig device config => some (CUACTCP.sendDeviceConfig device config)
  | .sendConfigDownload device type => CUACTCP.sendConfigDownload device type
  | .sendRealPlayUrl channel nWndNum device =>
    some (CUACTCP.sendRealPlayUrl channel nWndNum device)
  | .sendPlayBackUrl device channel tmStart tmEnd location =>
    CUACTCP.sendPlayBackUrl device channel tmStart tmEnd location
  | .sendDecoderStatus device channel => some (CUACTCP.sendDecoderStatus device channel)
  | .sendAlarmSubScribe device channel nExpires low high nMethod tmStart tmEnd =>
    some (CUACTCP.sendAlarmSubScribe device channel nExpires low high nMethod tmStart tmEnd)
  | .sendAlarmQuery device channel low high nMethod tmStart tmEnd type =>
    some (CUACTCP.sendAlarmQuery device channel low high nMethod tmStart tmEnd type)
  | .sendLogout => some s.sendLogout
  | .sendChangePassword old new => some (s.sendChangePassword old new)
  | .sendStopPlayUrl channel nWndNum => some (CUACTCP.sendStopPlayUrl channel nWndNum)
  | .sendDecoderDivision device channel nDivision =>
    some (CUACTCP.sendDecoderDivision device channel nDivision)

/-- The request of the call fits its buffer, whatever the buffer held before. -/
def Call.Correct (s : CUACTCP) (call : Call) : Prop :=
  ∀ r, call.request s = some r → ∀ junk, r.Fits s.m_unSeq junk

/-- The buffers of two functions are too small, and that of `SendDeviceConfig` is for basic
parameters; the others take texts up to a length. -/
def Call.Small : Call → Prop
  | .sendRealPlayUrl .. => False
  | .sendDecoderStatus .. => False
  | .sendDeviceConfig _ config => config.cBasicParam = 0
  | .sendRecordInfoInquiry _ _ _ _ _ path address _ recorder _ =>
    textSize path + textSize address + textSize recorder ≤ 369
  | .sendPlayBackUrl _ _ tmStart tmEnd location =>
    19 < tmStart.strlen ∨ 19 < tmEnd.strlen ∨ location.strlen ≤ 382
  | .sendAlarmQuery _ _ _ _ _ _ _ type => type.strlen ≤ 114
  | _ => True

theorem correct_some {s : CUACTCP} {call : Call} {r : Request} (h : call.request s = some r) :
    call.Correct s ↔ ∀ junk, r.Fits s.m_unSeq junk := by
  rw [Call.Correct, h]
  constructor
  · exact fun hall => hall r rfl
  · intro hfits r' hr'
    cases hr'
    exact hfits

theorem correct_none {s : CUACTCP} {call : Call} (h : call.request s = none) : call.Correct s := by
  intro r hr
  rw [h] at hr
  cases hr

theorem correct_guarded {s : CUACTCP} {call : Call} {r : Request} {c : Prop} [Decidable c]
    (h : call.request s = if c then some r else none) :
    call.Correct s ↔ (c → ∀ junk, r.Fits s.m_unSeq junk) := by
  by_cases hc : c
  · rw [if_pos hc] at h
    rw [correct_some h]
    exact (imp_iff_right hc).symm
  · rw [if_neg hc] at h
    exact iff_of_true (correct_none h) fun h' => absurd h' hc

theorem sendDeviceConfig_fits_iff {pstrDeviceID : CharPtr} {config : DeviceConfigInfo}
    {m_unSeq : UInt32} :
    (∀ junk, (sendDeviceConfig pstrDeviceID config).Fits m_unSeq junk) ↔
      config.cBasicParam = 0 := by
  rw [Request.fits_iff, Request.size]
  show (4 + 4 + 4 + (int32Bytes DEVICE_CONFIG_TYPE :: pstrDeviceID.bytes (ID_LEN + 1) ::
    config.fields).flatten.length + 1 ≤ 128 ∧ 128 ≤ 1024) ↔ _
  rw [List.flatten_cons, List.flatten_cons, List.length_append, List.length_append,
    int32Bytes_length, CharPtr.bytes_length]
  by_cases h : config.cBasicParam = 0
  · have hfields : config.fields = [[config.cBasicParam]] := by
      rw [DeviceConfigInfo.fields, flagged, if_pos h]
    rw [hfields]
    exact iff_of_true (by simp [ID_LEN]) h
  · have hlength := config.fields_length h
    refine iff_of_false (fun hle => ?_) h
    rw [ID_LEN] at hle
    omega

theorem sendRecordInfoInquiry_fits_iff {device channel tmStart tmEnd : CharPtr} {nType : Int}
    {path address recorder : Option CharPtr} {bSecrecy indistinct : UInt8} {m_unSeq : UInt32} :
    (∀ junk, (sendRecordInfoInquiry device channel nType tmStart tmEnd path address bSecrecy
      recorder indistinct).Fits m_unSeq junk) ↔
      textSize path + textSize address + textSize recorder ≤ 369 := by
  rw [sendRecordInfoInquiry, fits_request_iff]
  simp only [List.flatten_append, List.length_append, textFields_length]
  simp [ID_LEN, TIME_LEN, SEARCH_MSG_SIZE]
  omega

theorem sendAlarmQuery_fits_iff {device channel tmStart tmEnd type : CharPtr}
    {low high nMethod : Int} {m_unSeq : UInt32} :
    (∀ junk, (sendAlarmQuery device channel low high nMethod tmStart tmEnd type).Fits m_unSeq
      junk) ↔ type.strlen ≤ 114 := by
  rw [sendAlarmQuery, fits_request_iff]
  simp [ID_LEN, TIME_LEN]
  omega

/-- **Every request fits its buffer exactly when it is small.** -/
theorem requests_fit_iff (s : CUACTCP) (call : Call) : call.Correct s ↔ call.Small := by
  cases call with
  | sendLogin =>
    have hr : Call.request s .sendLogin = if s.m_strOwnID.chars = str "EC" then some _ else none :=
      rfl
    rw [correct_guarded hr, fits_request_iff]
    simp [Call.Small, ID_BUFFER_SIZE, ID_LEN, LOGIN_MSG_SIZE]
  | sendBye device channel nCid nDid =>
    have hr : Call.request s (.sendBye device channel nCid nDid) =
        if nCid ≠ -1 ∧ nDid ≠ -1 then some _ else none := rfl
    rw [correct_guarded hr, fits_request_iff]
    simp [Call.Small, ID_BUFFER_SIZE, ID_LEN, CTRL_MSG_SIZE]
  | sendPlayBackUrl device channel tmStart tmEnd location =>
    have hr : Call.request s (.sendPlayBackUrl device channel tmStart tmEnd location) =
        if ¬ (19 < tmStart.strlen ∨ 19 < tmEnd.strlen) then some _ else none := (ite_not _ _ _).symm
    rw [correct_guarded hr, fits_request_iff]
    simp [Call.Small, ID_LEN, TIME_LEN, SEARCH_MSG_SIZE]
    omega
  | sendConfigDownload device type =>
    cases device with
    | none => exact iff_of_true (correct_none rfl) trivial
    | some device =>
      cases type with
      | none => exact iff_of_true (correct_none rfl) trivial
      | some type =>
        have hr : Call.request s (.sendConfigDownload (some device) (some type)) = some _ := rfl
        rw [correct_some hr, fits_request_iff]
        simp [Call.Small, ID_BUFFER_SIZE, ID_LEN, CTRL_MSG_SIZE]
  | sendDeviceConfig device config =>
    rw [correct_some rfl, sendDeviceConfig_fits_iff]
    exact Iff.rfl
  | sendRecordInfoInquiry device channel nType tmStart tmEnd path address bSecrecy recorder
      indistinct =>
    rw [correct_some rfl, sendRecordInfoInquiry_fits_iff]
    exact Iff.rfl
  | sendAlarmQuery device channel low high nMethod tmStart tmEnd type =>
    rw [correct_some rfl, sendAlarmQuery_fits_iff]
    exact Iff.rfl
  | sendRealPlayUrl channel nWndNum device =>
    rw [correct_some rfl, sendRealPlayUrl, fits_request_iff]
    simp [Call.Small, ID_LEN]
  | sendDecoderStatus device channel =>
    rw [correct_some rfl, sendDecoderStatus, fits_request_iff]
    simp [Call.Small, ID_LEN]
  -- the others have room for every request
  | _ =>
    rw [correct_some rfl, Request.fits_iff]
    simp [Call.Small, Request.size, request, inquiry, setActive, sendClientLogin, sendDecorder,
      sendInvite, sendDeviceControl, sendRemoteStartup, sendDeviceCatalogInquiry,
      sendDeviceInfoInquiry, sendDeviceStatusInquiry, sendDevicePersetQuery, sendRecord, sendGuard,
      sendEventSubscribe, sendCatalogSubscribe, sendPlayBackCtrl, sendCallAck, sendResetAlarm,
      sendAlarmSubScribe, sendLogout, sendChangePassword, sendStopPlayUrl, sendDecoderDivision,
      ID_BUFFER_SIZE, ID_LEN, IP_BUFFER_SIZE, IP_LEN, PORT_LEN, PASS_LEN, TIME_LEN, LOGIN_MSG_SIZE,
      ACK_MSG_SIZE, INVITE_MSG_SIZE, CTRL_MSG_SIZE]

def decoderID : CharPtr :=
  { chars := str "34020000001320000001"
    behind := fun _ => 0
    nonzero := by decide
    short := by decide }

/-- The request of `SendDecoderStatus` has 59 bytes, its buffer has 56. -/
theorem decoderStatus_too_large :
    ¬ Call.Correct { m_unSeq := 1, m_strOwnID := decoderID, m_strSipClientID := decoderID }
      (.sendDecoderStatus decoderID decoderID) := by
  rw [correct_some rfl, sendDecoderStatus, fits_request_iff]
  simp [ID_LEN]

end CUACTCP

end GB28181.Lib
