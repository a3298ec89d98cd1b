import GB28181.Base.Token
import GB28181.Lib.AdapterRequests

/-!
# Handlers of adapter frames (`GB28181.Lib/UACTCP.cpp`)

`UACTCPProc` selects a handler by the command of a frame, which copies with the counts and sizes
that the frame contains.  A copy that leaves the frame or a buffer of the handler, and a text that
does not end in its buffer, is a `StreamFault`.  Log lines are left out, and so is what the
handlers do with a text once they have it as a string.

* `copyHeader_bind`, `onInquiryRes_succeeds_iff`, `parseAlarmData_succeeds_iff` — the parts;
* `handler_inBounds_iff` — the handler of a frame stays in bounds **exactly when the sizes in the
  frame fit the frame and the buffers**, which nothing in the handlers checks.
-/

set_option autoImplicit false

namespace GB28181.Lib

open GB28181.Base CUACTCP

/-! ### Constants of `SipInterface.h`, under the names that `UACTCP.cpp` has for them -/

def EXTERND_DATA_SIZE : Nat := 20000
def XML_LEN : Nat := 65535
def TYPE_LEN : Nat := 2
def PRIORITY_LEN : Nat := 1
def METHOD_LEN : Nat := 7

def NOTIFY_CMD : Int := 6
def LOGOUT_CMD : Int := 9
def INVITERES_CMD : Int := 0x80000002 - 0x100000000
def MESSAGERES_CMD : Int := 0x80000003 - 0x100000000
def LOGINRES_CMD : Int := 0x80000004 - 0x100000000

def INFO_INQUIRE_RES_TYPE : Int := 4
def STATUS_INQUIRE_RES_TYPE : Int := 6
def RECORD_INQUIRE_RES_TYPE : Int := 8
def CATALOG_INQUIRE_RES_TYPE : Int := 10
def SET_RECORD_RES_TYPE : Int := 12
def SET_GUARD_RES_TYPE : Int := 14
def ALARM_NOTIFY_TYPE : Int := 15
def FILE_TOEND_TYPE : Int := 19
def ALARM_QUERY_RES_TYPE : Int := 30

def AC_DEVICE_STATUS_NONE : Int := 0
def AC_DEVICE_STATUS_ONLINE : Int := 1
def AC_DEVICE_STATUS_OFFLINE : Int := 2

/-! ### Reads and writes -/

/-- What a handler finds: the memory of its own buffer, and whether a callback is set. -/
structure Env where
  junk : Nat → UInt8
  m_fpDeviceStaustAlarm : Bool

/-- `memcpy(&n, pDataBuf+i, 4)`. -/
def frameInt (pDataBuf : CStr) (i : Nat) : Except StreamFault Int :=
  if i + 4 ≤ pDataBuf.length then .ok (int32Value (pDataBuf.drop i)) else .error .readPastBuffer

/-- The `n` bytes from `pDataBuf+i` on, for a callee that copies them. -/
def frameBytes (pDataBuf : CStr) (i n : Nat) : Except StreamFault CStr :=
  if i + n ≤ pDataBuf.length then .ok ((pDataBuf.drop i).take n) else .error .readPastBuffer

/-- The text in a buffer, for a callee that reads up to its terminator. -/
def cString (buf : CStr) : Except StreamFault CStr :=
  if buf.contains 0 then .ok (cStr buf) else .error .readPastBuffer

/-- A buffer of the handler that `data` was copied into. -/
def localBuffer (junk : Nat → UInt8) (nSize : Nat) (data : CStr) : CStr :=
  overwrite (uninitialised junk nSize) 0 data

/-- `strcpy_s(dst, nDestSize, src)` where `dst` has `nActual` bytes: characters are copied until
there is a terminator or the size is used up. -/
def strcpyS (nActual nDestSize : Nat) (src : CStr) : Except StreamFault CStr :=
  if nActual < min (src.length + 1) nDestSize then .error .writePastBuffer
  else .ok (if src.length < nDestSize then src else [])

/-- `GetStringBetween` without the marks.  The loop over the blanks on the right does nothing. -/
def getStringBetween (strData strFront strBack : CStr) : CStr :=
  match breakOn strFront strData, breakOn strBack strData with
  | some (l, _), some (r, _) =>
    if l.length = 0 ∨ r.length ≤ l.length then []
    else ((strData.drop (l.length + strFront.length)).take
      (r.length + 1 - l.length - strBack.length)).dropWhile (· == 0x20)
  | _, _ => []

/-! ### The handlers -/

/-- What `ParseAlarmData` finds. -/
structure Alarm where
  strSrcAlarmID : CStr
  strAlarmPriority : CStr
  strAlarmTime : CStr
  strAlarmMethod : CStr
  strSrcAlarmType : CStr

/-- What a handler has taken out of a frame. -/
inductive Handled where
  | other
  | register (inquiries : List CStr) (statuses : List (CStr × Int))
  | invite (nCid nDid nStatus : Int) (strData : CStr)
  | alarm (strSrcID : Option CStr) (alarm : Alarm)
  | finished (strDeviceID strSubDeviceID : CStr) (nCid nDid : Int)
  | data (nOperate : Int) (strExterndData : CStr)
  | catalog (strExterndData : CStr)

/-- The fields that most handlers start with: command, sequence number, status, operation. -/
def copyHeader (pDataBuf : CStr) : Except StreamFault (Int × CDataStream) := do
  let (_, dataStream) ← (CDataStream.new pDataBuf 0).outputInt 4
  let (_, dataStream) ← dataStream.outputInt (-1)
  let (_, dataStream) ← dataStream.outputInt (-1)
  dataStream.outputInt (-1)

/-- `if(0 < nSize) dataStream.OutputData(-1, buf, nSize)`. -/
def outputText (dataStream : CDataStream) (nDestSize : Nat) (nSize : Int) :
    Except StreamFault CStr :=
  if 0 < nSize then (dataStream.outputData (-1) nDestSize nSize).map Prod.fst else .ok []

/-- The handlers that copy `nExterndSize` bytes into `strExterndData`. -/
def outputExternd (pDataBuf : CStr) (nDestSize : Nat) : Except StreamFault (Int × CStr) := do
  let (nOperate, dataStream) ← copyHeader pDataBuf
  let (nExterndSize, dataStream) ← dataStream.outputInt (-1)
  let (strExterndData, _) ← dataStream.outputData (-1) nDestSize nExterndSize
  return (nOperate, strExterndData)

def onDeviceCatalogInquiryRes (_env : Env) (pDataBuf : CStr) : Except StreamFault Handled := do
  let (nOperate, data) ← outputExternd pDataBuf (EXTERND_DATA_SIZE * 3)
  let strExterndData ← cString (localBuffer (fun _ => 0) (EXTERND_DATA_SIZE * 3) data)
  return .data nOperate strExterndData

/-- The handlers that keep `strExterndData` as a string. -/
def onInquiryRes (env : Env) (pDataBuf : CStr) : Except StreamFault Handled := do
  let (nOperate, data) ← outputExternd pDataBuf EXTERND_DATA_SIZE
  let strExterndData ← cString (localBuffer env.junk EXTERND_DATA_SIZE data)
  return .data nOperate strExterndData

def onDeviceStatusInquiryRes : Env → CStr → Except StreamFault Handled := onInquiryRes
def onDeviceInfoInquiryRes : Env → CStr → Except StreamFault Handled := onInquiryRes
def onRecordInfoInquiryRes : Env → CStr → Except StreamFault Handled := onInquiryRes
def onDevicePersetQueryRes : Env → CStr → Except StreamFault Handled := onInquiryRes
def onConfigDownloadRes : Env → CStr → Except StreamFault Handled := onInquiryRes
def onRealPlayUrlRes : Env → CStr → Except StreamFault Handled := onInquiryRes
def onPlayBackUrlRes : Env → CStr → Except StreamFault Handled := onInquiryRes
def onAlarmQueryRes : Env → CStr → Except StreamFault Handled := onInquiryRes

/-- The handlers that only log `strExterndData`. -/
def onSetRes (_env : Env) (pDataBuf : CStr) : Except StreamFault Handled := do
  let (nOperate, data) ← outputExternd pDataBuf EXTERND_DATA_SIZE
  return .data nOperate data

def onSetRecordRes : Env → CStr → Except StreamFault Handled := onSetRes
def onSetGuardRes : Env → CStr → Except StreamFault Handled := onSetRes

def onPlayBackFinished (_env : Env) (pDataBuf : CStr) : Except StreamFault Handled := do
  let (_, dataStream) ← (CDataStream.new pDataBuf 0).outputInt 12
  let (_, dataStream) ← dataStream.outputInt (-1)
  let (strDeviceID, dataStream) ← dataStream.outputData (-1) (ID_LEN + 1) (ID_LEN + 1)
  let (strSubDeviceID, dataStream) ← dataStream.outputData (-1) (ID_LEN + 1) (ID_LEN + 1)
  let (nCid, dataStream) ← dataStream.outputInt (-1)
  let (nDid, _) ← dataStream.outputInt (-1)
  return .finished strDeviceID strSubDeviceID nCid nDid

def onInviteRes (env : Env) (pDataBuf : CStr) : Except StreamFault Handled := do
  let (_, dataStream) ← (CDataStream.new pDataBuf 0).outputInt 4
  let (_, dataStream) ← dataStream.outputInt (-1)
  let (nCid, dataStream) ← dataStream.outputInt (-1)
  let (nDid, dataStream) ← dataStream.outputInt (-1)
  let (nStatus, dataStream) ← dataStream.outputInt (-1)
  let (nDataSize, dataStream) ← dataStream.outputInt (-1)
  let data ← outputText dataStream XML_LEN nDataSize
  let strData ← cString (localBuffer env.junk XML_LEN data)
  return .invite nCid nDid nStatus strData

/-- A field of `ParseAlarmData`: a text whose length is not from `low` to `high` is left out. -/
def alarmField (strBody : CStr) (element : String) (low high nActual nDestSize : Nat) :
    Except StreamFault CStr :=
  let strField := getStringBetween strBody (str "<" ++ str element ++ str ">")
    (str "</" ++ str element ++ str ">")
  if strField.length < low ∨ high < strField.length then .ok []
  else strcpyS nActual nDestSize strField

/-- The type is copied with the size of the method, whatever its length. -/
def alarmType (strBody : CStr) : Except StreamFault CStr :=
  let strType := getStringBetween strBody (str "<AlarmType>") (str "</AlarmType>")
  if 1 > strType.length then .ok [] else strcpyS (TYPE_LEN + 1) (METHOD_LEN + 1) strType

def parseAlarmData (strBody : CStr) : Except StreamFault Alarm := do
  let strSrcAlarmID ← alarmField strBody "DeviceID" ID_LEN ID_LEN (ID_LEN + 1) (ID_LEN + 1)
  let strAlarmPriority ← alarmField strBody "AlarmPriority" PRIORITY_LEN PRIORITY_LEN
    (PRIORITY_LEN + 1) (PRIORITY_LEN + 1)
  let strAlarmTime ← alarmField strBody "AlarmTime" 14 19 (TIME_LEN + 1) (TIME_LEN + 1)
  let strAlarmMethod ← alarmField strBody "AlarmMethod" 1 METHOD_LEN (METHOD_LEN + 1)
    (METHOD_LEN + 1)
  let strSrcAlarmType ← alarmType strBody
  return { strSrcAlarmID, strAlarmPriority, strAlarmTime, strAlarmMethod, strSrcAlarmType }

/-- The ID for the callback, if there is one. -/
def alarmSrcID (env : Env) (strSrcID : CStr) : Except StreamFault (Option CStr) :=
  if env.m_fpDeviceStaustAlarm then (cString strSrcID).map some else .ok none

def onAlarm (env : Env) (pDataBuf : CStr) : Except StreamFault Handled := do
  let (_, dataStream) ← copyHeader pDataBuf
  let (strSrcID, dataStream) ← dataStream.outputData (-1) (ID_LEN + 1) (ID_LEN + 1)
  let (nSize, dataStream) ← dataStream.outputInt (-1)
  let data ← outputText dataStream EXTERND_DATA_SIZE nSize
  let strBody ← cString (localBuffer env.junk EXTERND_DATA_SIZE data)
  let alarm ← parseAlarmData strBody
  let srcID ← alarmSrcID env strSrcID
  return .alarm srcID alarm

def onCatalogNotify (env : Env) (pDataBuf : CStr) : Except StreamFault Handled := do
  let (_, dataStream) ← copyHeader pDataBuf
  let (nSize, dataStream) ← dataStream.outputInt (-1)
  let data ← outputText dataStream EXTERND_DATA_SIZE nSize
  let strExterndData ← cString (localBuffer env.junk EXTERND_DATA_SIZE data)
  return .catalog strExterndData

/-- The device records behind the count: an ID and its status each. -/
def record (i : Nat) : Nat := 20 + i * (ID_LEN + 1 + 4)

/-- `OnRegister` sends a catalog inquiry for each device. -/
def loginInquiries (pDataBuf : CStr) : Except StreamFault (List CStr) := do
  let nDataSize ← frameInt pDataBuf 0
  if 17 < nDataSize then do
    let nLoginSum ← frameInt pDataBuf 16
    (List.range nLoginSum.toNat).mapM fun i => frameBytes pDataBuf (record i) ID_BUFFER_SIZE
  else return []

/-- The status of a device: its own in an answer to a login, else that of the message. -/
def recordStatus (pDataBuf : CStr) (nStatusType : Int) (i : Nat) : Except StreamFault Int :=
  if AC_DEVICE_STATUS_NONE = nStatusType then frameInt pDataBuf (record i + (ID_LEN + 1))
  else .ok nStatusType

def onHandleRegister (env : Env) (pDataBuf : CStr) (nStatusType : Int) :
    Except StreamFault (List (CStr × Int)) := do
  let nDataSize ← frameInt pDataBuf 0
  let _ ← frameInt pDataBuf 12
  if 17 < nDataSize ∧ env.m_fpDeviceStaustAlarm = true then do
    let nLoginSum ← frameInt pDataBuf 16
    (List.range nLoginSum.toNat).mapM fun i => do
      let nMsgType ← recordStatus pDataBuf nStatusType i
      let strDeviceID ← cString (pDataBuf.drop (record i))
      return (strDeviceID, nMsgType)
  else return []

def onRegister (env : Env) (pDataBuf : CStr) : Except StreamFault Handled := do
  let inquiries ← loginInquiries pDataBuf
  let statuses ← onHandleRegister env pDataBuf AC_DEVICE_STATUS_ONLINE
  return .register inquiries statuses

def onRegisterRes (env : Env) (pDataBuf : CStr) : Except StreamFault Handled := do
  let statuses ← onHandleRegister env pDataBuf AC_DEVICE_STATUS_NONE
  return .register [] statuses

def onLogout (env : Env) (pDataBuf : CStr) : Except StreamFault Handled := do
  let statuses ← onHandleRegister env pDataBuf AC_DEVICE_STATUS_OFFLINE
  return .register [] statuses

def getMsgType (pMsgData : CStr) : Except StreamFault Int := frameInt pMsgData 4
def getMsgOperate (pMsgData : CStr) : Except StreamFault Int := frameInt pMsgData 16
def getMsgStatus (pMsgData : CStr) : Except StreamFault Int := frameInt pMsgData 12

/-- The cases of `OnMessageRes`. -/
inductive ResHandler where
  | onDeviceCatalogInquiryRes
  | onRecordInfoInquiryRes
  | onDeviceStatusInquiryRes
  | onDeviceInfoInquiryRes
  | onSetGuardRes
  | onSetRecordRes
  | onPlayBackFinished
  | onDevicePersetQueryRes
  | onConfigDownloadRes
  | onRealPlayUrlRes
  | onPlayBackUrlRes
  | onAlarmQueryRes
  | default

def selectRes (nOperate : Int) : ResHandler :=
  if nOperate = CATALOG_INQUIRE_RES_TYPE then .onDeviceCatalogInquiryRes
  else if nOperate = RECORD_INQUIRE_RES_TYPE then .onRecordInfoInquiryRes
  else if nOperate = STATUS_INQUIRE_RES_TYPE then .onDeviceStatusInquiryRes
  else if nOperate = INFO_INQUIRE_RES_TYPE then .onDeviceInfoInquiryRes
  else if nOperate = SET_GUARD_RES_TYPE then .onSetGuardRes
  else if nOperate = SET_RECORD_RES_TYPE then .onSetRecordRes
  else if nOperate = FILE_TOEND_TYPE then .onPlayBackFinished
  else if nOperate = PRESET_QUERY_TYPE then .onDevicePersetQueryRes
  else if nOperate = CONFIG_DOWNLOAD_TYPE then .onConfigDownloadRes
  else if nOperate = REAL_PLAY_URL_TYPE then .onRealPlayUrlRes
  else if nOperate = PLAY_BACK_URL_TYPE then .onPlayBackUrlRes
  else if nOperate = ALARM_QUERY_RES_TYPE then .onAlarmQueryRes
  else .default

def ResHandler.run (env : Env) (pDataBuf : CStr) : ResHandler → Except StreamFault Handled
  | .onDeviceCatalogInquiryRes => Lib.onDeviceCatalogInquiryRes env pDataBuf
  | .onRecordInfoInquiryRes => Lib.onRecordInfoInquiryRes env pDataBuf
  | .onDeviceStatusInquiryRes => Lib.onDeviceStatusInquiryRes env pDataBuf
  | .onDeviceInfoInquiryRes => Lib.onDeviceInfoInquiryRes env pDataBuf
  | .onSetGuardRes => Lib.onSetGuardRes env pDataBuf
  | .onSetRecordRes => Lib.onSetRecordRes env pDataBuf
  | .onPlayBackFinished => Lib.onPlayBackFinished env pDataBuf
  | .onDevicePersetQueryRes => Lib.onDevicePersetQueryRes env pDataBuf
  | .onConfigDownloadRes => Lib.onConfigDownloadRes env pDataBuf
  | .onRealPlayUrlRes => Lib.onRealPlayUrlRes env pDataBuf
  | .onPlayBackUrlRes => Lib.onPlayBackUrlRes env pDataBuf
  | .onAlarmQueryRes => Lib.onAlarmQueryRes env pDataBuf
  | .default => .ok .other

def onMessageRes (env : Env) (pDataBuf : CStr) : Except StreamFault Handled := do
  let nOperate ← getMsgOperate pDataBuf
  let handled ← (selectRes nOperate).run env pDataBuf
  let _ ← getMsgStatus pDataBuf
  return handled

def onMessage (env : Env) (pDataBuf : CStr) : Except StreamFault Handled := do
  let nOperate ← getMsgOperate pDataBuf
  if nOperate = ALARM_NOTIFY_TYPE then onAlarm env pDataBuf
  else if nOperate = FILE_TOEND_TYPE then onPlayBackFinished env pDataBuf
  else return .other

def onNotify (env : Env) (pDataBuf : CStr) : Except StreamFault Handled := do
  let nOperate ← getMsgOperate pDataBuf
  if nOperate = CATALOG_SUBSCRIBE_TYPE then onCatalogNotify env pDataBuf
  else return .other

/-- The cases of `UACTCPProc`. -/
inductive Handler where
  | onRegister
  | onRegisterRes
  | onLogout
  | onInviteRes
  | onMessage
  | onMessageRes
  | onNotify
  | onOther

def select (nMsgType : Int) : Handler :=
  if nMsgType = LOGIN_CMD then .onRegister
  else if nMsgType = LOGINRES_CMD then .onRegisterRes
  else if nMsgType = LOGOUT_CMD then .onLogout
  else if nMsgType = INVITERES_CMD then .onInviteRes
  else if nMsgType = MESSAGE_CMD then .onMessage
  else if nMsgType = MESSAGERES_CMD then .onMessageRes
  else if nMsgType = NOTIFY_CMD then .onNotify
  else .onOther

def Handler.run (env : Env) (pDataBuf : CStr) : Handler → Except StreamFault Handled
  | .onRegister => Lib.onRegister env pDataBuf
  | .onRegisterRes => Lib.onRegisterRes env pDataBuf
  | .onLogout => Lib.onLogout env pDataBuf
  | .onInviteRes => Lib.onInviteRes env pDataBuf
  | .onMessage => Lib.onMessage env pDataBuf
  | .onMessageRes => Lib.onMessageRes env pDataBuf
  | .onNotify => Lib.onNotify env pDataBuf
  | .onOther => .ok .other

/-- One round of `UACTCPProc` with a frame. -/
def uactcpProc (env : Env) (pDataBuf : CStr) : Except StreamFault Handled := do
  let nMsgType ← getMsgType pDataBuf
  (select nMsgType).run env pDataBuf

/-! ### What the parts need -/

/-- The stream over a frame with its cursor at `pos`. -/
def cursor (f : CStr) (pos : Nat) : CDataStream := (CDataStream.new f 0).moved pos

section

variable {f : CStr} {pos : Nat} {α : Type}

theorem cursor_moved {pos' : Nat} (h : pos ≤ pos') : (cursor f pos).moved pos' = cursor f pos' := by
  simp only [cursor, CDataStream.moved, CDataStream.new]
  congr 1
  omega

theorem first_int_bind (nPos : Nat) {g : Int × CDataStream → Except StreamFault α} :
    Succeeds ((CDataStream.new f 0).outputInt nPos >>= g) ↔
      nPos + 4 ≤ f.length ∧ Succeeds (g (int32Value (f.drop nPos), cursor f (nPos + 4))) :=
  CDataStream.succeeds_outputInt_bind

theorem next_int_bind {g : Int × CDataStream → Except StreamFault α} :
    Succeeds ((cursor f pos).outputInt (-1) >>= g) ↔
      pos + 4 ≤ f.length ∧ Succeeds (g (int32Value (f.drop pos), cursor f (pos + 4))) := by
  rw [CDataStream.succeeds_outputInt_bind, ← cursor_moved (Nat.le_add_right pos 4)]
  exact Iff.rfl

/-- A copy of `nCount` bytes from `pos` on stays inside the frame and the destination. -/
structure CopyFits (f : CStr) (pos : Nat) (nDestSize : Nat) (nCount : Int) : Prop where
  count : 0 ≤ nCount
  source : pos + nCount ≤ f.length
  dest : nCount ≤ nDestSize

theorem next_data_bind {nDestSize : Nat} {nCount : Int}
    {g : CStr × CDataStream → Except StreamFault α} :
    Succeeds ((cursor f pos).outputData (-1) nDestSize nCount >>= g) ↔
      CopyFits f pos nDestSize nCount ∧
        Succeeds (g ((f.drop pos).take nCount.toNat, cursor f (pos + nCount.toNat))) := by
  rw [CDataStream.succeeds_outputData_bind,
    ← cursor_moved (Nat.le_add_right pos nCount.toNat)]
  exact and_congr_left fun _ => ⟨fun h => ⟨h.1, h.2.1, h.2.2⟩, fun h => ⟨h.1, h.2, h.3⟩⟩

theorem copyHeader_bind {g : Int × CDataStream → Except StreamFault α} :
    Succeeds (copyHeader f >>= g) ↔
      20 ≤ f.length ∧ Succeeds (g (int32Value (f.drop 16), cursor f 20)) := by
  unfold copyHeader
  rw [bind_assoc]
  refine (first_int_bind 4).trans ?_
  simp only [bind_assoc, next_int_bind]
  constructor
  · rintro ⟨-, -, -, hlen, h⟩
    exact ⟨hlen, h⟩
  · rintro ⟨hlen, h⟩
    exact ⟨by omega, by omega, by omega, hlen, h⟩

theorem frameInt_bind {g : Int → Except StreamFault α} :
    Succeeds (frameInt f pos >>= g) ↔
      pos + 4 ≤ f.length ∧ Succeeds (g (int32Value (f.drop pos))) := by
  unfold frameInt
  by_cases h : pos + 4 ≤ f.length
  · rw [if_pos h, and_iff_right h]
    exact Iff.rfl
  · rw [if_neg h]
    exact iff_of_false error_not_ok fun hg => h hg.1

theorem cString_bind {buf : CStr} {g : CStr → Except StreamFault α} :
    Succeeds (cString buf >>= g) ↔ 0 ∈ buf ∧ Succeeds (g (cStr buf)) := by
  unfold cString
  by_cases h : buf.contains 0 = true
  · rw [if_pos h, and_iff_right (List.contains_iff_mem.mp h)]
    exact Iff.rfl
  · rw [if_neg h]
    exact iff_of_false error_not_ok fun hg => h (List.contains_iff_mem.mpr hg.1)

theorem outputText_bind {nDestSize : Nat} {nSize : Int} {g : CStr → Except StreamFault α} :
    Succeeds (outputText (cursor f pos) nDestSize nSize >>= g) ↔
      (0 < nSize → CopyFits f pos nDestSize nSize) ∧
        Succeeds (g ((f.drop pos).take nSize.toNat)) := by
  unfold outputText
  by_cases h : 0 < nSize
  · have hmap : (CDataStream.outputData (cursor f pos) (-1) nDestSize nSize).map Prod.fst >>= g =
        CDataStream.outputData (cursor f pos) (-1) nDestSize nSize >>= fun p => g p.1 := by
      cases CDataStream.outputData (cursor f pos) (-1) nDestSize nSize <;> rfl
    rw [if_pos h, hmap, next_data_bind, forall_prop_of_true h]
  · rw [if_neg h, Int.toNat_of_nonpos (by omega)]
    exact (and_iff_right fun hpos => absurd hpos h).symm

end

/-! ### What the handlers need -/

/-- The size of the data behind the header. -/
def externdSize (f : CStr) : Int := int32Value (f.drop 20)

def externdData (f : CStr) : CStr := (f.drop 24).take (externdSize f).toNat

def ExterndFits (nDestSize : Nat) (f : CStr) : Prop :=
  24 ≤ f.length ∧ CopyFits f 24 nDestSize (externdSize f)

theorem outputExternd_bind {f : CStr} {nDestSize : Nat} {α : Type}
    {g : Int × CStr → Except StreamFault α} :
    Succeeds (outputExternd f nDestSize >>= g) ↔
      ExterndFits nDestSize f ∧ Succeeds (g (int32Value (f.drop 16), externdData f)) := by
  unfold outputExternd
  rw [bind_assoc, copyHeader_bind]
  simp only [bind_assoc, next_int_bind, next_data_bind, pure_bind]
  constructor
  · rintro ⟨-, hlen, hfits, h⟩
    exact ⟨⟨hlen, hfits⟩, h⟩
  · rintro ⟨⟨hlen, hfits⟩, h⟩
    exact ⟨by omega, hlen, hfits, h⟩

/-- Data that fits its buffer and ends in it. -/
def CatalogFits (f : CStr) : Prop :=
  ExterndFits (EXTERND_DATA_SIZE * 3) f ∧
    0 ∈ localBuffer (fun _ => 0) (EXTERND_DATA_SIZE * 3) (externdData f)

def InquiryFits (env : Env) (f : CStr) : Prop :=
  ExterndFits EXTERND_DATA_SIZE f ∧ 0 ∈ localBuffer env.junk EXTERND_DATA_SIZE (externdData f)

/-- The last byte that `OnPlayBackFinished` reads. -/
def FinishedFits (f : CStr) : Prop := 70 ≤ f.length

/-- The answer to an invitation: the data behind its fields. -/
def InviteFits (env : Env) (f : CStr) : Prop :=
  28 ≤ f.length ∧
    (0 < int32Value (f.drop 24) → CopyFits f 28 XML_LEN (int32Value (f.drop 24))) ∧
    0 ∈ localBuffer env.junk XML_LEN ((f.drop 28).take (int32Value (f.drop 24)).toNat)

/-- The buffer that an alarm is parsed from. -/
def alarmBuffer (env : Env) (f : CStr) : CStr :=
  localBuffer env.junk EXTERND_DATA_SIZE ((f.drop 45).take (int32Value (f.drop 41)).toNat)

/-- An alarm whose text fits its buffer, whose type has two characters at most, and whose source ID
ends in its buffer, if the callback asks for it. -/
def AlarmFits (env : Env) (f : CStr) : Prop :=
  45 ≤ f.length ∧
    (0 < int32Value (f.drop 41) → CopyFits f 45 EXTERND_DATA_SIZE (int32Value (f.drop 41))) ∧
    0 ∈ alarmBuffer env f ∧
    (getStringBetween (cStr (alarmBuffer env f)) (str "<AlarmType>")
      (str "</AlarmType>")).length ≤ TYPE_LEN ∧
    (env.m_fpDeviceStaustAlarm = true → 0 ∈ (f.drop 20).take (ID_LEN + 1))

def CatalogNotifyFits (env : Env) (f : CStr) : Prop :=
  24 ≤ f.length ∧ (0 < externdSize f → CopyFits f 24 EXTERND_DATA_SIZE (externdSize f)) ∧
    0 ∈ localBuffer env.junk EXTERND_DATA_SIZE (externdData f)

/-- The frame has the IDs of all the devices it counts. -/
def InquiriesFit (f : CStr) : Prop :=
  17 < int32Value f → ∀ i < (int32Value (f.drop 16)).toNat, record i + ID_BUFFER_SIZE ≤ f.length

/-- The frame has the records of all the devices it counts, and each ID ends in the frame. -/
def StatusesFit (env : Env) (f : CStr) (nStatusType : Int) : Prop :=
  16 ≤ f.length ∧
    (17 < int32Value f ∧ env.m_fpDeviceStaustAlarm = true →
      ∀ i < (int32Value (f.drop 16)).toNat,
        (AC_DEVICE_STATUS_NONE = nStatusType → record i + (ID_LEN + 1) + 4 ≤ f.length) ∧
          0 ∈ f.drop (record i))

def ResHandler.Fits (env : Env) (f : CStr) : ResHandler → Prop
  | .onDeviceCatalogInquiryRes => CatalogFits f
  | .onSetGuardRes => ExterndFits EXTERND_DATA_SIZE f
  | .onSetRecordRes => ExterndFits EXTERND_DATA_SIZE f
  | .onPlayBackFinished => FinishedFits f
  | .default => True
  | _ => InquiryFits env f

def Handler.Fits (env : Env) (f : CStr) : Handler → Prop
  | .onRegister => InquiriesFit f ∧ StatusesFit env f AC_DEVICE_STATUS_ONLINE
  | .onRegisterRes => StatusesFit env f AC_DEVICE_STATUS_NONE
  | .onLogout => StatusesFit env f AC_DEVICE_STATUS_OFFLINE
  | .onInviteRes => InviteFits env f
  | .onMessage =>
    20 ≤ f.length ∧ (int32Value (f.drop 16) = ALARM_NOTIFY_TYPE → AlarmFits env f) ∧
      (int32Value (f.drop 16) = FILE_TOEND_TYPE → FinishedFits f)
  | .onMessageRes => 20 ≤ f.length ∧ (selectRes (int32Value (f.drop 16))).Fits env f
  | .onNotify =>
    20 ≤ f.length ∧ (int32Value (f.drop 16) = CATALOG_SUBSCRIBE_TYPE → CatalogNotifyFits env f)
  | .onOther => True

section

variable {env : Env} {f : CStr}

theorem onDeviceCatalogInquiryRes_succeeds_iff (env : Env) :
    Succeeds (onDeviceCatalogInquiryRes env f) ↔ CatalogFits f := by
  unfold onDeviceCatalogInquiryRes
  rw [outputExternd_bind]
  exact and_congr_right fun _ => cString_bind.trans (and_iff_left (succeeds_ok _))

theorem onInquiryRes_succeeds_iff : Succeeds (onInquiryRes env f) ↔ InquiryFits env f := by
  unfold onInquiryRes
  rw [outputExternd_bind]
  exact and_congr_right fun _ => cString_bind.trans (and_iff_left (succeeds_ok _))

theorem onSetRes_succeeds_iff (env : Env) :
    Succeeds (onSetRes env f) ↔ ExterndFits EXTERND_DATA_SIZE f := by
  unfold onSetRes
  rw [outputExternd_bind]
  exact and_iff_left (succeeds_ok _)

theorem onPlayBackFinished_succeeds_iff (env : Env) :
    Succeeds (onPlayBackFinished env f) ↔ FinishedFits f := by
  unfold onPlayBackFinished FinishedFits
  refine (first_int_bind 12).trans ?_
  simp only [next_int_bind, next_data_bind, ID_LEN]
  constructor
  · rintro ⟨-, -, -, -, -, hlen, -⟩
    exact hlen
  · intro hlen
    refine ⟨by omega, by omega, ⟨by omega, by push_cast; omega, by omega⟩,
      ⟨by omega, by push_cast; omega, by omega⟩, ?_, hlen, succeeds_ok _⟩
    show 62 + 4 ≤ f.length
    omega

theorem onInviteRes_succeeds_iff : Succeeds (onInviteRes env f) ↔ InviteFits env f := by
  unfold onInviteRes InviteFits
  refine (first_int_bind 4).trans ?_
  simp only [next_int_bind, outputText_bind, cString_bind]
  constructor
  · rintro ⟨-, -, -, -, -, hlen, hfits, hzero, -⟩
    exact ⟨hlen, hfits, hzero⟩
  · rintro ⟨hlen, hfits, hzero⟩
    exact ⟨by omega, by omega, by omega, by omega, by omega, hlen, hfits, hzero, succeeds_ok _⟩

theorem onCatalogNotify_succeeds_iff :
    Succeeds (onCatalogNotify env f) ↔ CatalogNotifyFits env f := by
  unfold onCatalogNotify CatalogNotifyFits
  rw [copyHeader_bind]
  simp only [next_int_bind, outputText_bind, cString_bind]
  constructor
  · rintro ⟨-, hlen, hfits, hzero, -⟩
    exact ⟨hlen, hfits, hzero⟩
  · rintro ⟨hlen, hfits, hzero⟩
    exact ⟨by omega, hlen, hfits, hzero, succeeds_ok _⟩

theorem strcpyS_succeeds_iff {nActual nDestSize : Nat} {src : CStr} :
    Succeeds (strcpyS nActual nDestSize src) ↔ min (src.length + 1) nDestSize ≤ nActual := by
  unfold strcpyS
  by_cases h : nActual < min (src.length + 1) nDestSize
  · rw [if_pos h]
    exact iff_of_false error_not_ok (Nat.not_le.mpr h)
  · rw [if_neg h]
    exact iff_of_true (succeeds_ok _) (Nat.not_lt.mp h)

theorem alarmField_succeeds {strBody : CStr} {element : String} {low high nSize : Nat} :
    Succeeds (alarmField strBody element low high nSize nSize) := by
  unfold alarmField
  dsimp only
  split
  · exact succeeds_ok _
  · exact strcpyS_succeeds_iff.mpr (Nat.min_le_right _ _)

theorem alarmType_succeeds_iff {strBody : CStr} :
    Succeeds (alarmType strBody) ↔
      (getStringBetween strBody (str "<AlarmType>") (str "</AlarmType>")).length ≤ TYPE_LEN := by
  unfold alarmType
  dsimp only
  split
  · rename_i h
    exact iff_of_true (succeeds_ok _) (by rw [TYPE_LEN]; omega)
  · rw [strcpyS_succeeds_iff, TYPE_LEN, METHOD_LEN]
    omega

theorem parseAlarmData_succeeds_iff {strBody : CStr} :
    Succeeds (parseAlarmData strBody) ↔
      (getStringBetween strBody (str "<AlarmType>") (str "</AlarmType>")).length ≤ TYPE_LEN := by
  unfold parseAlarmData
  refine succeeds_bind_of_left alarmField_succeeds fun _ => ?_
  refine succeeds_bind_of_left alarmField_succeeds fun _ => ?_
  refine succeeds_bind_of_left alarmField_succeeds fun _ => ?_
  refine succeeds_bind_of_left alarmField_succeeds fun _ => ?_
  exact (succeeds_bind_const fun _ => iff_true_intro (succeeds_ok _)).trans
    ((and_iff_left trivial).trans alarmType_succeeds_iff)

theorem alarmSrcID_succeeds_iff {strSrcID : CStr} :
    Succeeds (alarmSrcID env strSrcID) ↔ (env.m_fpDeviceStaustAlarm = true → 0 ∈ strSrcID) := by
  unfold alarmSrcID
  by_cases h : env.m_fpDeviceStaustAlarm = true
  · have hmap : (cString strSrcID).map some = cString strSrcID >>= fun t => .ok (some t) := by
      cases cString strSrcID <;> rfl
    rw [if_pos h, hmap, cString_bind, forall_prop_of_true h]
    exact and_iff_left (succeeds_ok _)
  · rw [if_neg h]
    exact iff_of_true (succeeds_ok _) fun h' => absurd h' h

theorem onAlarm_succeeds_iff : Succeeds (onAlarm env f) ↔ AlarmFits env f := by
  unfold onAlarm AlarmFits
  rw [copyHeader_bind]
  simp only [next_int_bind, next_data_bind, outputText_bind, cString_bind]
  have htail : ∀ strBody strSrcID : CStr,
      Succeeds (do
        let alarm ← parseAlarmData strBody
        let srcID ← alarmSrcID env strSrcID
        return Handled.alarm srcID alarm) ↔
        (getStringBetween strBody (str "<AlarmType>") (str "</AlarmType>")).length ≤ TYPE_LEN ∧
          (env.m_fpDeviceStaustAlarm = true → 0 ∈ strSrcID) := by
    intro strBody strSrcID
    rw [← parseAlarmData_succeeds_iff, ← alarmSrcID_succeeds_iff]
    exact succeeds_bind_const fun _ =>
      (succeeds_bind_const fun _ => iff_true_intro (succeeds_ok _)).trans (and_iff_left trivial)
  have h21 : ((20 : Nat) + 1 : Int).toNat = 21 := rfl
  simp only [ID_LEN, htail, h21]
  constructor
  · rintro ⟨-, -, hlen, h⟩
    exact ⟨hlen, h⟩
  · rintro ⟨hlen, h⟩
    exact ⟨by omega, ⟨by omega, by push_cast; omega, by omega⟩, hlen, h⟩

theorem records_succeeds_iff {α : Type} {g : Nat → Except StreamFault α} {p : Nat → Prop} {n : Nat}
    (h : ∀ i, Succeeds (g i) ↔ p i) : Succeeds ((List.range n).mapM g) ↔ ∀ i < n, p i := by
  rw [succeeds_mapM_iff]
  simp only [List.mem_range, h]

theorem recordStatus_succeeds_iff {nStatusType : Int} {i : Nat} :
    Succeeds (recordStatus f nStatusType i) ↔
      (AC_DEVICE_STATUS_NONE = nStatusType → record i + (ID_LEN + 1) + 4 ≤ f.length) := by
  unfold recordStatus frameInt
  by_cases h : AC_DEVICE_STATUS_NONE = nStatusType
  · rw [if_pos h, forall_prop_of_true h]
    by_cases hlen : record i + (ID_LEN + 1) + 4 ≤ f.length
    · rw [if_pos hlen]
      exact iff_of_true (succeeds_ok _) hlen
    · rw [if_neg hlen]
      exact iff_of_false error_not_ok hlen
  · rw [if_neg h]
    exact iff_of_true (succeeds_ok _) fun h' => absurd h' h

theorem onHandleRegister_succeeds_iff {nStatusType : Int} (hf : IsFrame f) :
    Succeeds (onHandleRegister env f nStatusType) ↔ StatusesFit env f nStatusType := by
  obtain ⟨hsize, hlow, -, -⟩ := hf
  unfold onHandleRegister StatusesFit
  rw [frameInt_bind, and_iff_right (by omega), frameInt_bind, List.drop_zero]
  refine and_congr_right fun _ => ?_
  by_cases h : 17 < int32Value f ∧ env.m_fpDeviceStaustAlarm = true
  · rw [if_pos h, forall_prop_of_true h, frameInt_bind, and_iff_right (by omega)]
    refine records_succeeds_iff fun i => ?_
    rw [← recordStatus_succeeds_iff]
    exact succeeds_bind_const fun _ => cString_bind.trans (and_iff_left (succeeds_ok _))
  · rw [if_neg h]
    exact iff_of_true (succeeds_ok _) fun h' => absurd h' h

theorem loginInquiries_succeeds_iff (hf : IsFrame f) :
    Succeeds (loginInquiries f) ↔ InquiriesFit f := by
  obtain ⟨hsize, hlow, -, -⟩ := hf
  unfold loginInquiries InquiriesFit
  rw [frameInt_bind, and_iff_right (by omega), List.drop_zero]
  by_cases h : 17 < int32Value f
  · rw [if_pos h, forall_prop_of_true h, frameInt_bind, and_iff_right (by omega)]
    refine records_succeeds_iff fun i => ?_
    unfold frameBytes
    by_cases hlen : record i + ID_BUFFER_SIZE ≤ f.length
    · rw [if_pos hlen]
      exact iff_of_true (succeeds_ok _) hlen
    · rw [if_neg hlen]
      exact iff_of_false error_not_ok hlen
  · rw [if_neg h]
    exact iff_of_true (succeeds_ok _) fun h' => absurd h' h

theorem ResHandler.run_succeeds_iff (h : ResHandler) : Succeeds (h.run env f) ↔ h.Fits env f := by
  cases h with
  | onDeviceCatalogInquiryRes => exact onDeviceCatalogInquiryRes_succeeds_iff env
  | onSetGuardRes => exact onSetRes_succeeds_iff env
  | onSetRecordRes => exact onSetRes_succeeds_iff env
  | onPlayBackFinished => exact onPlayBackFinished_succeeds_iff env
  | default => exact iff_true_intro (succeeds_ok _)
  | _ => exact onInquiryRes_succeeds_iff

theorem onMessageRes_succeeds_iff :
    Succeeds (onMessageRes env f) ↔ Handler.onMessageRes.Fits env f := by
  unfold onMessageRes getMsgOperate
  rw [frameInt_bind]
  refine and_congr_right fun hlen => ?_
  rw [← ResHandler.run_succeeds_iff]
  refine (succeeds_bind_const fun _ => ?_).trans (and_iff_left trivial)
  unfold getMsgStatus
  rw [frameInt_bind]
  exact iff_true_intro ⟨by omega, succeeds_ok _⟩

theorem onMessage_succeeds_iff : Succeeds (onMessage env f) ↔ Handler.onMessage.Fits env f := by
  unfold onMessage getMsgOperate
  rw [frameInt_bind]
  refine and_congr_right fun _ => ?_
  by_cases halarm : int32Value (f.drop 16) = ALARM_NOTIFY_TYPE
  · have hend : ¬ int32Value (f.drop 16) = FILE_TOEND_TYPE := by
      rw [halarm]
      decide
    rw [if_pos halarm, forall_prop_of_true halarm, onAlarm_succeeds_iff]
    exact (and_iff_left fun h => absurd h hend).symm
  · rw [if_neg halarm, and_iff_right fun h => absurd h halarm]
    by_cases hend : int32Value (f.drop 16) = FILE_TOEND_TYPE
    · rw [if_pos hend, forall_prop_of_true hend, onPlayBackFinished_succeeds_iff]
    · rw [if_neg hend]
      exact iff_of_true (succeeds_ok _) fun h => absurd h hend

theorem onNotify_succeeds_iff : Succeeds (onNotify env f) ↔ Handler.onNotify.Fits env f := by
  unfold onNotify getMsgOperate
  rw [frameInt_bind]
  refine and_congr_right fun _ => ?_
  by_cases h : int32Value (f.drop 16) = CATALOG_SUBSCRIBE_TYPE
  · rw [if_pos h, forall_prop_of_true h, onCatalogNotify_succeeds_iff]
  · rw [if_neg h]
    exact iff_of_true (succeeds_ok _) fun h' => absurd h' h

theorem Handler.run_succeeds_iff (hf : IsFrame f) (h : Handler) :
    Succeeds (h.run env f) ↔ h.Fits env f := by
  have hret : ∀ {α : Type} {x : Except StreamFault α} {g : α → Handled},
      (Succeeds (x >>= fun a => .ok (g a)) ↔ Succeeds x) := fun {_ _ _} =>
    (succeeds_bind_const fun _ => iff_true_intro (succeeds_ok _)).trans (and_iff_left trivial)
  cases h with
  | onRegister =>
    refine (succeeds_bind_const fun _ => ?_).trans
      (and_congr_left fun _ => loginInquiries_succeeds_iff hf)
    exact hret.trans (onHandleRegister_succeeds_iff hf)
  | onRegisterRes => exact hret.trans (onHandleRegister_succeeds_iff hf)
  | onLogout => exact hret.trans (onHandleRegister_succeeds_iff hf)
  | onInviteRes => exact onInviteRes_succeeds_iff
  | onMessage => exact onMessage_succeeds_iff
  | onMessageRes => exact onMessageRes_succeeds_iff
  | onNotify => exact onNotify_succeeds_iff
  | onOther => exact iff_true_intro (succeeds_ok _)

end

/-- **The handler of a frame stays in bounds exactly when the sizes in the frame fit.** -/
theorem handler_inBounds_iff {f : CStr} (hf : IsFrame f) (env : Env) :
    Succeeds (uactcpProc env f) ↔ (select (int32Value (f.drop 4))).Fits env f := by
  have hlen : 4 + 4 ≤ f.length := by
    obtain ⟨hsize, hlow, -, -⟩ := hf
    omega
  unfold uactcpProc getMsgType
  rw [frameInt_bind, and_iff_right hlen]
  exact Handler.run_succeeds_iff hf _

/-- A login of one device, which is online. -/
def loginOfOne : CStr :=
  [42, 0, 0, 0, 4, 0, 0, 0, 1, 0, 0, 0, 200, 0, 0, 0, 1, 0, 0, 0] ++
    str "34020000001320000001" ++ [0, 1, 0, 0, 0, 0x23]

theorem handler_inBounds_oneRecord :
    Succeeds (uactcpProc { junk := fun _ => 0, m_fpDeviceStaustAlarm := true } loginOfOne) := by
  have hf : IsFrame loginOfOne := ⟨by decide, by decide, by decide, rfl⟩
  refine (handler_inBounds_iff hf _).mpr ⟨fun _ i hi => ?_, by decide, fun _ i hi => ?_⟩
  · obtain rfl : i = 0 := Nat.lt_one_iff.mp hi
    decide
  · obtain rfl : i = 0 := Nat.lt_one_iff.mp hi
    decide

/-- A login that counts a device and has no record of it: the ID is read behind the frame. -/
theorem login_reads_past_frame :
    IsFrame [18, 0, 0, 0, 4, 0, 0, 0, 1, 0, 0, 0, 200, 0, 0, 0, 1, 0, 0, 0, 0, 0x23] ∧
      ¬ Succeeds (uactcpProc { junk := fun _ => 0, m_fpDeviceStaustAlarm := true }
        [18, 0, 0, 0, 4, 0, 0, 0, 1, 0, 0, 0, 200, 0, 0, 0, 1, 0, 0, 0, 0, 0x23]) := by
  refine ⟨⟨by decide, by decide, by decide, rfl⟩, ?_⟩
  have hfault : uactcpProc { junk := fun _ => 0, m_fpDeviceStaustAlarm := true }
      [18, 0, 0, 0, 4, 0, 0, 0, 1, 0, 0, 0, 200, 0, 0, 0, 1, 0, 0, 0, 0, 0x23] =
      .error .readPastBuffer := rfl
  rw [hfault]
  exact error_not_ok

end GB28181.Lib
