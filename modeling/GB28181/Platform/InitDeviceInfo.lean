import Mathlib.Data.List.Infix
import GB28181.Base.Cells
import GB28181.Platform.CatalogLock
import GB28181.Platform.DataStore

/-!
# Reading a device in (`CDevInfo::InitSigleDeviceInfo`, `ReadCatalog`)

The catalogue entry of a stored device comes from the section `CATALOG` of the configuration file
that has its GUID for a name.  `InitSigleDeviceInfo` reads it, fills the description of the device,
and lists the entry in `m_CatalogCollections` under the ID that the **object** has, which is not
always the ID in the entry.

* `readCatalog`, `changeCode` — the entry in a file, and what it says of the changes;
* `SubDeviceObjects.subDeviceTurn` — the loop over the sub-devices, for objects that share
  descriptions;
* `initSigleDeviceInfo` — a device and its sub-devices; `initAllDeviceInfo` — all of them;
* `initSigleDeviceInfo_of_found` — what a call does for a device without sub-devices.

The copies of a `DeviceObject` share its description, so that the loop over the sub-devices is about
objects that have the address of it.  Nothing writes `oSubStrGUIDSecNameMap`, and no device of the
program comes to the loop.
-/

set_option autoImplicit false

namespace GB28181.Platform

open GB28181.Base GB28181.GBUtils

/-! ## Texts and files -/

def toUpper (c : UInt8) : UInt8 := if 0x61 ≤ c ∧ c ≤ 0x7a then c - 0x20 else c

def makeUpper (s : CStr) : CStr := s.map toUpper

def makeLower (s : CStr) : CStr := s.map toLower

/-- What the configuration files have under a file name, a section and a key. -/
abbrev Profile := CStr → CStr → CStr → Option CStr

/-- `GetPrivateProfileString` into a buffer of `MAX_PATH` bytes. -/
def getPrivateProfileString (conf : Profile) (lpAppName lpKeyName lpDefault lpFileName : CStr) :
    CStr :=
  ((conf lpFileName lpAppName lpKeyName).getD lpDefault).take 259

/-! ## Catalogue entries -/

/-- The fields that `ReadCatalog` compares, besides the device ID. -/
def comparedFields : List (CatalogEntry → CStr) :=
  [fun c => c.m_strName, fun c => c.m_strModel, fun c => c.m_strCivilCode,
    fun c => c.m_VirtualDirID, fun c => c.m_strSafetyWay, fun c => c.m_strRegisterWay,
    fun c => c.m_strCertifiable, fun c => c.m_strErrCode, fun c => c.m_strEndTime,
    fun c => c.m_strSecrecy, fun c => c.m_strLongitude, fun c => c.m_strLatitude,
    fun c => c.m_strInfoPTZType, fun c => c.m_strPlayUrl]

/-- `nRet` of `ReadCatalog`: every field is compared before it is set. -/
def changeCode (before after : CatalogEntry) : Nat :=
  comparedFields.foldl (fun nRet field => if field before ≠ field after then nRet ||| 2 else nRet)
    (if before.m_strDeviceID ≠ after.m_strDeviceID then 0 ||| 1 else 0)

def ReadableID (szInfo : CStr) : Prop := ¬ (stricmpEq [] szInfo ∨ stricmpEq (str "NaN") szInfo)

instance (szInfo : CStr) : Decidable (ReadableID szInfo) := inferInstanceAs (Decidable (¬ _))

/-- `ReadCatalog` without a parent, as it is called. -/
def readCatalog (conf : Profile) (strFileName strSectionName : CStr) (pCatalog : CatalogEntry) :
    Int × CatalogEntry :=
  let read := fun key default =>
    getPrivateProfileString conf strSectionName key default strFileName
  let strDeviceID := read (str "DeviceID") (str "NaN")
  if ¬ ReadableID strDeviceID then (-1, pCatalog)
  else
    let szInfo := read (str "CivilCode") (str "CivilCode")
    let szInfo := if szInfo.take 3 = str "Civ" then stringCpy_s 260 (strDeviceID.take 6) else szInfo
    let after := { pCatalog with
      m_strDeviceID := strDeviceID
      m_strName := read (str "Name") (str "Name")
      m_strManufacturer := str "Honeywell"
      m_strModel := read (str "Model") (str "Model")
      m_strOwner := str "Owner"
      m_strCivilCode := szInfo
      m_strBlock := szInfo
      m_strAddress := str "Address"
      m_VirtualDirID := read (str "VirtualDirID") []
      m_strParentID := read (str "VirtualDirID") []
      m_strSafetyWay := read (str "SafetyWay") (str "0")
      m_strRegisterWay := read (str "RegisterWay") (str "1")
      m_strCertNum := str "0"
      m_strCertifiable := read (str "Certifiable") (str "0")
      m_strErrCode := read (str "ErrCode") (str "0")
      m_strEndTime := read (str "EndTime") (str "now")
      m_strSecrecy := read (str "Secrecy") (str "0")
      m_strIPAddress := str "0.0.0.0"
      m_strPort := str "0"
      m_strPassword := str "12345678"
      m_strLongitude := read (str "Longitude") (str "0")
      m_strLatitude := read (str "Latitude") (str "0")
      m_strInfoPTZType := read (str "PTZType") (str "1")
      m_strPlayUrl := read (str "PlayUrl") (str "PlayUrl") }
    (changeCode pCatalog after, after)

/-- `ChangInfo_t`. -/
structure ChangInfo where
  oBefore : CatalogEntry
  oAfter : CatalogEntry
  nChangeType : Int
  deriving DecidableEq

/-! ## A device -/

def CDevProperty.setDeviceType (pszDevType : CStr) (p : CDevProperty) : CDevProperty :=
  { p with
    m_strDeviceType := pszDevType
    m_bIsEncoder := p.m_bIsEncoder || decide (str "ENCODER" <:+: makeUpper pszDevType)
    m_bIsDecoder := p.m_bIsDecoder || decide (str "DECODER" <:+: makeUpper pszDevType) }

/-- `m_catalogMap` of a `CatalogCollections`. -/
abbrev CatalogMap := Map CStr CatalogEntry

/-- `CatalogCollections::AddCatalog`. -/
def CatalogMap.addCatalog (m_catalogMap : CatalogMap) (pszDeviceID : CStr)
    (catalog : CatalogEntry) : CatalogMap :=
  if pszDeviceID.length = 0 then m_catalogMap else m_catalogMap.insert pszDeviceID catalog

/-- What the functions below write: the store, and the entries that are listed to the outside. -/
structure DeviceCatalogs where
  store : CDataStore := {}
  m_CatalogCollections : CatalogMap := ∅
  g_decoderCatalogInfo : List CatalogEntry := []

/-- The entries of the decoders with the one of this decoder. -/
def setDecoderCatalog (pCatalog : CatalogEntry) (g_decoderCatalogInfo : List CatalogEntry) :
    List CatalogEntry :=
  let replaced := g_decoderCatalogInfo.map fun c =>
    if c.m_strDeviceID = pCatalog.m_strDeviceID then pCatalog else c
  if ∃ c ∈ g_decoderCatalogInfo, c.m_strDeviceID = pCatalog.m_strDeviceID then replaced
  else replaced ++ [pCatalog]

variable (str_ID : CStr)

/-- The entry of a device, read in and completed, and what `ReadCatalog` returned. -/
def initCatalog (conf : Profile) (strFileAllName strGuid : CStr) (husDevObject : DeviceObject) :
    Int × CatalogEntry :=
  let pCatalog := { husDevObject.getGBDescription.m_devCatalog with
    m_strGUID := strGuid, eGBDeviceType := husDevObject.m_eGBDevType }
  let (nRet, pCatalog) := readCatalog conf strFileAllName (str "CATALOG") pCatalog
  let pCatalog :=
    if pCatalog.m_strParental = [] then { pCatalog with m_strParental := str "0" } else pCatalog
  let pCatalog :=
    if pCatalog.m_strParentID = [] then { pCatalog with m_strParentID := str_ID } else pCatalog
  (nRet, pCatalog)

/-- What goes into the list of changes; the entry before is taken when the file has been read. -/
def listChange (nRet : Int) (pCatalog : CatalogEntry) : List ChangInfo :=
  let oBefore := pCatalog
  if 0 ≠ nRet ∧ (¬ oBefore.m_strDeviceID = [] ∨ ¬ pCatalog.m_strDeviceID = []) then
    [{ oBefore := oBefore, oAfter := pCatalog, nChangeType := nRet }]
  else []

def initProperty (strDeviceTyeMark strDeviceID : CStr) (pDevProperty : CDevProperty) :
    CDevProperty :=
  let pDevProperty := pDevProperty.setDeviceType strDeviceTyeMark
  { pDevProperty with
    m_strManufacturer := str "Honeywell"
    m_strModel := pDevProperty.m_strDeviceType
    m_strFirmware := str "Honeywell Firmware"
    m_strDeviceID := strDeviceID }

/-- The description of a device from its entry, up to the sub-devices.  `MakeLower` works in place
on the model and on the type. -/
def initDescription (strGuid : CStr) (pCatalog : CatalogEntry) (husDevObject : DeviceObject) :
    GBDevInfoDescribe :=
  let pGBDevdes := husDevObject.getGBDescription
  let pDevProperty :=
    initProperty husDevObject.strDeviceTyeMark pCatalog.m_strDeviceID pGBDevdes.m_devInfo
  let strModel := makeLower pCatalog.m_strModel
  let pCatalog := { pCatalog with
    m_strModel := if strModel = str "model" then pDevProperty.m_strDeviceType else strModel }
  let devicetypestr := makeLower pDevProperty.m_strDeviceType
  let pCatalog :=
    if str "dvr" <:+: devicetypestr ∨ str "encoder" <:+: devicetypestr then
      { pCatalog with m_strParental := str "1" }
    else pCatalog
  let pCatalog :=
    if devicetypestr = str "decoder" then { pCatalog with m_strParental := str "1" } else pCatalog
  { pGBDevdes with
    m_devInfo := { pDevProperty with m_strDeviceType := devicetypestr }
    m_devCatalog := pCatalog
    m_strDeviceID := pCatalog.m_strDeviceID
    m_strGUID := strGuid }

/-! ## Configuration -/

/-- What the functions below read besides the store. -/
structure InitConfig where
  /-- `appConf.m_Current.str_ID` -/
  str_ID : CStr
  /-- `appConf.strDevConfDir` -/
  strDevConfDir : CStr
  /-- the files in that directory -/
  conf : Profile
  /-- `CString::Format` with one number -/
  format : CStr → Nat → CStr

variable (c : InitConfig)

def InitConfig.fileOf (strGuid : CStr) : CStr := c.strDevConfDir ++ str "\\" ++ strGuid

/-! ## Sub-devices -/

namespace SubDeviceObjects

/-- A `DeviceObject`: what it has for itself, and the address of its description. -/
structure SharedObject where
  object : DeviceObject
  p_GBDevDesInfo : Option Nat := none
  /-- the description is not in it -/
  apart : object.p_GBDevDesInfo = none

/-- `DeviceObject` as it is constructed. -/
def SharedObject.new : SharedObject where
  object := { m_eGBDevType := 0 }
  apart := rfl

abbrev DescriptionHeap := Cells GBDevInfoDescribe

/-- The object with its description in it. -/
def SharedObject.view (obj : SharedObject) (heap : DescriptionHeap) : DeviceObject :=
  { obj.object with p_GBDevDesInfo := obj.p_GBDevDesInfo.map heap.get }

/-- `GetGBDescription` of an object that stays: it is created if need be. -/
def SharedObject.getGBDescription (obj : SharedObject) (heap : DescriptionHeap) :
    Nat × SharedObject × DescriptionHeap :=
  match obj.p_GBDevDesInfo with
  | some p => (p, obj, heap)
  | none =>
    let (p, heap) := heap.alloc {}
    (p, { obj with p_GBDevDesInfo := some p }, heap)

structure State where
  heap : DescriptionHeap
  m_ObjectMap : Map CStr SharedObject
  m_CatalogCollections : CatalogMap
  g_decoderCatalogInfo : List CatalogEntry

namespace State

variable (s : State)

def lookupDeviceByGUID (pszGUID : CStr) : Option SharedObject :=
  if pszGUID = [] then none else s.m_ObjectMap.lookup pszGUID

end State

structure Loop where
  videoChannel : Nat := 1
  alarmChannel : Nat := 1
  state : State

/-- A sub-device without a name gets that of its parent, its model and a number. -/
def setName (c : InitConfig) (namestr : CStr) (videoChannel alarmChannel : Nat)
    (childCatalog : CatalogEntry) : CatalogEntry × Nat × Nat :=
  let devieModelTypeName := makeLower childCatalog.m_strModel
  if childCatalog.m_strName = str "name" then
    let pattern := namestr ++ str "_" ++ devieModelTypeName ++ str "_%d"
    if devieModelTypeName = str "camera" then
      ({ childCatalog with m_strName := c.format pattern videoChannel }, videoChannel + 1,
        alarmChannel)
    else if devieModelTypeName = str "viralarm" then
      ({ childCatalog with m_strName := c.format pattern alarmChannel }, videoChannel,
        alarmChannel + 1)
    else ({ childCatalog with m_strName := [] }, videoChannel, alarmChannel)
  else (childCatalog, videoChannel, alarmChannel)

def initSubProperty (childCatalog : CatalogEntry) (strManufacturer : CStr)
    (pSubDevProp : CDevProperty) : CDevProperty :=
  { pSubDevProp.setDeviceType childCatalog.m_strModel with
    m_strManufacturer := strManufacturer
    m_strModel := childCatalog.m_strModel
    m_strFirmware := str "Honeywell Firmware"
    m_strDeviceID := childCatalog.m_strDeviceID }

/-- A turn of the loop over the sub-devices. -/
def subDeviceTurn (c : InitConfig) (strFileAllName parentID : CStr) (husDevObject : SharedObject)
    (pGBDevdes : Nat) (l : Loop) (item : CStr × CStr) : Loop :=
  let subhusobject := (l.state.lookupDeviceByGUID item.1).getD .new
  -- a description that is created here goes with `subhusobject`
  let pSubDevObj := subhusobject.p_GBDevDesInfo
  let des := (subhusobject.view l.state.heap).getGBDescription
  let childCatalog := { des.m_devCatalog with
    eGBDeviceType := subhusobject.object.m_eGBDevType }
  let (ret, childCatalog) := readCatalog c.conf strFileAllName item.2 childCatalog
  let heap := l.state.heap.put pSubDevObj { des with m_devCatalog := childCatalog }
  if ret < 0 then { l with state := { l.state with heap := heap } }
  else
    let childCatalog := { childCatalog with
      m_strParentID := parentID
      m_strParental := str "0"
      m_strStatus := (heap.get pGBDevdes).m_devCatalog.m_strStatus
      m_strName := makeLower childCatalog.m_strName }
    let heap := heap.put pSubDevObj { des with m_devCatalog := childCatalog }
    let (childCatalog, videoChannel, alarmChannel) := setName c
      (heap.get pGBDevdes).m_devCatalog.m_strName l.videoChannel l.alarmChannel childCatalog
    let subDeviceID := childCatalog.m_strDeviceID
    let heap := heap.put pSubDevObj { des with
      m_devCatalog := childCatalog
      m_devInfo := initSubProperty childCatalog (heap.get pGBDevdes).m_devInfo.m_strManufacturer
        des.m_devInfo
      m_strDeviceID := subDeviceID
      m_strGUID := item.1 }
    let heap := heap.modify pGBDevdes fun pGBDevdes => { pGBDevdes with
      m_CatalogCollections :=
        CatalogMap.addCatalog pGBDevdes.m_CatalogCollections subDeviceID childCatalog }
    { videoChannel := videoChannel
      alarmChannel := alarmChannel
      state := { l.state with
        heap := heap
        -- the object of the parent
        m_ObjectMap := l.state.m_ObjectMap.insert item.1 husDevObject
        m_CatalogCollections :=
          l.state.m_CatalogCollections.addCatalog subDeviceID childCatalog } }

/-- An object whose description, if there is one, is at the address. -/
def SharedObject.at (obj : DeviceObject) (p : Nat) : SharedObject where
  object := { obj with p_GBDevDesInfo := none }
  p_GBDevDesInfo := obj.p_GBDevDesInfo.map fun _ => p
  apart := rfl

/-- The objects that are stored under some GUIDs, none of which shares its description. -/
def share (store : CDataStore) (guids : List CStr) : DescriptionHeap × Map CStr SharedObject :=
  guids.foldl (fun (heap, m_ObjectMap) g =>
    match store.m_ObjectMap.lookup g with
    | none => (heap, m_ObjectMap)
    | some obj =>
      let (p, heap) := heap.alloc obj.getGBDescription
      (heap, m_ObjectMap.insert g (.at obj p))) (⟨fun _ => {}, 0⟩, ∅)

end SubDeviceObjects

open SubDeviceObjects in
/-- The loop for a device that has been stored.  Its description and those of the sub-devices are
shared with no other object before it, and apart after it. -/
def initSubDevices (strFileAllName strGuid : CStr) (husDevObject : DeviceObject)
    (s : DeviceCatalogs) : DeviceCatalogs :=
  let pGBDevdes := husDevObject.getGBDescription
  let guids := husDevObject.oSubStrGUIDSecNameMap.map Prod.fst
  let (heap, m_ObjectMap) := share s.store (guids.filter (· ≠ strGuid))
  let (p, heap) := heap.alloc { pGBDevdes with m_CatalogCollections := ∅ }
  let state := (husDevObject.oSubStrGUIDSecNameMap.foldl
    (subDeviceTurn c strFileAllName pGBDevdes.m_devCatalog.m_strDeviceID (.at husDevObject p) p)
    { state :=
      { heap := heap
        m_ObjectMap := m_ObjectMap.insert strGuid (.at husDevObject p)
        m_CatalogCollections := s.m_CatalogCollections
        g_decoderCatalogInfo := s.g_decoderCatalogInfo } }).state
  { store := (strGuid :: guids).foldl (fun store g =>
      match state.m_ObjectMap.lookup g with
      | none => store
      | some obj => store.addDeviceObjectByGUID g (obj.view state.heap)) s.store
    m_CatalogCollections := state.m_CatalogCollections
    g_decoderCatalogInfo := state.g_decoderCatalogInfo }

/-! ## The functions -/

/-- The entry of a device, from its file. -/
def InitConfig.catalogOf (strGuid : CStr) (husDevObject : DeviceObject) : Int × CatalogEntry :=
  initCatalog c.str_ID c.conf (c.fileOf strGuid) strGuid husDevObject

/-- `InitSigleDeviceInfo` for the object given with it or the one in the store; `pChangeList` is
the list it fills, if it was given one. -/
def initSigleDeviceInfo (strGuid : CStr) (pChangeList : Option (List ChangInfo))
    (pDeviceObject : Option DeviceObject) (s : DeviceCatalogs) :
    Int × Option (List ChangInfo) × DeviceCatalogs :=
  let strGuid := withBraces strGuid
  match pDeviceObject <|> s.store.lookupDeviceByGUID strGuid with
  | none => (-1, pChangeList, s)
  | some husDevObject =>
    let strFileAllName := c.fileOf strGuid
    let (nRet, pCatalog) := c.catalogOf strGuid husDevObject
    let pChangeList := pChangeList.map fun changes => changes ++ listChange nRet pCatalog
    let pGBDevdes := initDescription strGuid pCatalog husDevObject
    let husDevObject := { husDevObject with p_GBDevDesInfo := some pGBDevdes }
    let s :=
      { store := s.store.addDeviceObjectByGUID strGuid husDevObject
        m_CatalogCollections :=
          s.m_CatalogCollections.addCatalog husDevObject.m_strDeviceID pGBDevdes.m_devCatalog
        g_decoderCatalogInfo :=
          if pGBDevdes.m_devInfo.m_strDeviceType = str "decoder" then
            setDecoderCatalog pGBDevdes.m_devCatalog s.g_decoderCatalogInfo
          else s.g_decoderCatalogInfo }
    if husDevObject.oSubStrGUIDSecNameMap.length > 0 then
      (0, pChangeList, initSubDevices c strFileAllName strGuid husDevObject s)
    else (0, pChangeList, s)

/-- `InitAllDeviceInfo`, the devices in the order `O`. -/
def initAllDeviceInfo (O : MapOrder) (s : DeviceCatalogs) : DeviceCatalogs :=
  (O.keys s.store.m_ObjectMap).foldl
    (fun s strGUID =>
      match s.store.m_ObjectMap.lookup strGUID with
      | none => s
      | some deviceInfo => (initSigleDeviceInfo c strGUID none (some deviceInfo) s).2.2) s

def addDeviceInfo (pszGUID : CStr) (s : DeviceCatalogs) : Int × DeviceCatalogs :=
  let (ret, _, s) := initSigleDeviceInfo c pszGUID none none s
  (ret, s)

/-! ## The code of the changes -/

/-- Neither the GUID and the type nor what is completed after reading is compared. -/
theorem comparedFields_apply (pCatalog : CatalogEntry) (strGuid parental parentID : CStr)
    (type : GBDevice_T) :
    ∀ field ∈ comparedFields,
      field { pCatalog with m_strGUID := strGuid, eGBDeviceType := type } = field pCatalog ∧
      field { pCatalog with m_strParental := parental } = field pCatalog ∧
      field { pCatalog with m_strParentID := parentID } = field pCatalog := by
  simp [comparedFields]

/-! ## What a file says -/

def fileID (conf : Profile) (strFileName strSectionName : CStr) : CStr :=
  getPrivateProfileString conf strSectionName (str "DeviceID") (str "NaN") strFileName

section Read

variable (conf : Profile) (strFileName strSectionName : CStr) (pCatalog : CatalogEntry)

theorem readCatalog_unreadable (h : ¬ ReadableID (fileID conf strFileName strSectionName)) :
    readCatalog conf strFileName strSectionName pCatalog = (-1, pCatalog) := by
  rw [fileID] at h
  unfold readCatalog
  dsimp only
  rw [if_pos h]

/-- **What is returned for a readable entry** compares it with the entry before. -/
theorem readCatalog_readable (h : ReadableID (fileID conf strFileName strSectionName)) :
    ∃ after, readCatalog conf strFileName strSectionName pCatalog =
        ((changeCode pCatalog after : Int), after) ∧
      after.m_strDeviceID = fileID conf strFileName strSectionName := by
  rw [fileID] at h
  unfold readCatalog
  dsimp only
  rw [if_neg (not_not.mpr h)]
  exact ⟨_, rfl, rfl⟩

end Read

/-- What the section `CATALOG` of a file makes of the device ID of an entry. -/
def InitConfig.idOf (strGuid id : CStr) : CStr :=
  let szInfo := fileID c.conf (c.fileOf strGuid) (str "CATALOG")
  if ReadableID szInfo then szInfo else id

theorem id_catalogOf (strGuid : CStr) (obj : DeviceObject) :
    (c.catalogOf strGuid obj).2.m_strDeviceID =
      c.idOf strGuid obj.getGBDescription.m_devCatalog.m_strDeviceID := by
  unfold InitConfig.catalogOf initCatalog InitConfig.idOf
  dsimp only
  by_cases h : ReadableID (fileID c.conf (c.fileOf strGuid) (str "CATALOG"))
  · obtain ⟨after, hread, hid⟩ := readCatalog_readable c.conf (c.fileOf strGuid) (str "CATALOG")
      { obj.getGBDescription.m_devCatalog with
        m_strGUID := strGuid, eGBDeviceType := obj.m_eGBDevType } h
    rw [if_pos h, hread]
    dsimp only
    split <;> split <;> exact hid
  · rw [if_neg h, readCatalog_unreadable _ _ _ _ h]
    dsimp only
    split <;> split <;> rfl

theorem id_initDescription (strGuid : CStr) (pCatalog : CatalogEntry) (obj : DeviceObject) :
    (initDescription strGuid pCatalog obj).m_strDeviceID = pCatalog.m_strDeviceID ∧
      (initDescription strGuid pCatalog obj).m_devCatalog.m_strDeviceID =
        pCatalog.m_strDeviceID := by
  unfold initDescription
  dsimp only
  split <;> split <;> exact ⟨rfl, rfl⟩

/-! ## A call -/

section Call

variable {c} {strGuid : CStr} {pChangeList : Option (List ChangInfo)}
  {pDeviceObject : Option DeviceObject} {s : DeviceCatalogs}

theorem initSigleDeviceInfo_of_not_found
    (h : (pDeviceObject <|> s.store.lookupDeviceByGUID (withBraces strGuid)) = none) :
    initSigleDeviceInfo c strGuid pChangeList pDeviceObject s = (-1, pChangeList, s) := by
  unfold initSigleDeviceInfo
  dsimp only
  rw [h]

/-- The object of a device after a call. -/
def InitConfig.objectOf (c : InitConfig) (strGuid : CStr) (obj : DeviceObject) : DeviceObject :=
  { obj with
    p_GBDevDesInfo := some (initDescription strGuid (c.catalogOf strGuid obj).2 obj) }

/-- **Success is zero.** -/
theorem initSigleDeviceInfo_ret {obj : DeviceObject}
    (h : (pDeviceObject <|> s.store.lookupDeviceByGUID (withBraces strGuid)) = some obj) :
    (initSigleDeviceInfo c strGuid pChangeList pDeviceObject s).1 = 0 := by
  unfold initSigleDeviceInfo
  dsimp only
  rw [h]
  dsimp only
  split <;> rfl

/-- **A device without sub-devices** goes into the store, and into the list under its own ID. -/
theorem initSigleDeviceInfo_of_found {obj : DeviceObject}
    (h : (pDeviceObject <|> s.store.lookupDeviceByGUID (withBraces strGuid)) = some obj)
    (hsub : obj.oSubStrGUIDSecNameMap = []) :
    ∃ decoders, (initSigleDeviceInfo c strGuid pChangeList pDeviceObject s).2.2 =
      { store := s.store.addDeviceObjectByGUID (withBraces strGuid)
          (c.objectOf (withBraces strGuid) obj)
        m_CatalogCollections := s.m_CatalogCollections.addCatalog obj.m_strDeviceID
          (c.objectOf (withBraces strGuid) obj).getGBDescription.m_devCatalog
        g_decoderCatalogInfo := decoders } := by
  unfold initSigleDeviceInfo
  dsimp only
  rw [h]
  dsimp only
  rw [if_neg (by rw [hsub]; decide)]
  exact ⟨_, rfl⟩

end Call

end GB28181.Platform
