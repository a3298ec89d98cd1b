import GB28181.Base.Map
import GB28181.Platform.XMLBodyBuilder

/-!
# The store of devices (`DataManager/DataStore.cpp`)

`CDataStore` keeps the devices of the site by their GUID, a table from 20-character device IDs to
GUIDs, the reverse table, and a cache of alarms.

* `DeviceObject`, `DeviceAlarmInfo` — a device with its descriptions and its alarm;
* `addDeviceID` … `removeDeviceByGUID` — what writes the tables;
* `lookupGUID` … `lookupDevice` — what reads them; a read through `operator[]` writes, too;
* `addAlarmInfo`, `removeAlarming` — the cache.

A `DeviceObject` holds its descriptions through pointers that its copies share.  No two entries of
the store come from one object, so an entry has its descriptions to itself and the model keeps them
inside it.
-/

set_option autoImplicit false

namespace GB28181.Platform

open GB28181.Base

/-! ## Devices -/

abbrev GUID := BitVec 128

def withBraces (strGUID : CStr) : CStr :=
  if strGUID.take 1 ≠ str "\x7b" then str "\x7b" ++ strGUID ++ str "\x7d" else strGUID

/-- `DeviceAlarmInfo::DutyStatus`. -/
inductive DutyStatus
  | ONDUTY | OFFDUTY | ALARM
  deriving DecidableEq

/-- `DeviceAlarmInfo`, with the values of its default constructor. -/
structure DeviceAlarmInfo where
  eStatus : DutyStatus := .OFFDUTY
  szAlarmID : CStr := []
  m_nAlarmMethord : Int := 0
  m_nAlarmType : Int := 0
  m_strAlarmStatus : CStr := []
  strDeviceID : CStr := []
  m_Description : CStr := []
  m_strPriority : CStr := []
  m_strTime : CStr := []
  m_StrGUID : CStr := []
  m_strDeviceName : CStr := []
  deriving DecidableEq

/-- The constructor with the data of an alarm. -/
def DeviceAlarmInfo.ofAlarm (pszGBID : CStr) (nAlarmMethord nAlarmType : Int)
    (pszAlarmStatus pszDescribe pszLevel pszTime : CStr) : DeviceAlarmInfo where
  m_nAlarmMethord := nAlarmMethord
  m_nAlarmType := nAlarmType
  strDeviceID := pszGBID
  m_strAlarmStatus := pszAlarmStatus
  m_Description := pszDescribe
  m_strPriority := pszLevel
  m_strTime := pszTime
  szAlarmID := pszGBID
  eStatus := .ONDUTY

def DeviceAlarmInfo.clear (info : DeviceAlarmInfo) : DeviceAlarmInfo :=
  { info with
    m_nAlarmType := 0, m_nAlarmMethord := 0, m_Description := [], m_strPriority := [],
    m_strTime := [] }

/-- `CatalogItem` with the fields that no body shows. -/
structure CatalogEntry extends CatalogItem where
  m_strGUID : CStr
  m_strCertNum : CStr
  m_strEndTime : CStr
  m_strIPAddress : CStr
  m_strPort : CStr
  m_strPassword : CStr
  m_strPlayUrl : CStr
  m_VirtualDirID : CStr
  deriving DecidableEq

/-- What the constructor of `CatalogItem` leaves; it sets no type. -/
def CatalogEntry.empty : CatalogEntry where
  m_strDeviceID := []
  m_strName := []
  m_strManufacturer := []
  m_strModel := []
  m_strOwner := []
  m_strCivilCode := []
  m_strBlock := []
  m_strAddress := []
  m_strParental := []
  m_strParentID := []
  m_strSafetyWay := []
  m_strRegisterWay := []
  m_strCertifiable := []
  m_strErrCode := []
  m_strSecrecy := []
  m_strStatus := []
  m_strLongitude := []
  m_strLatitude := []
  m_strInfoPTZType := []
  eGBDeviceType := 0
  m_strGUID := []
  m_strCertNum := []
  m_strEndTime := []
  m_strIPAddress := []
  m_strPort := []
  m_strPassword := []
  m_strPlayUrl := []
  m_VirtualDirID := []

structure CDevProperty where
  m_strDeviceType : CStr := []
  m_strManufacturer : CStr := []
  m_strModel : CStr := []
  m_strFirmware : CStr := []
  m_strDeviceID : CStr := []
  m_bIsEncoder : Bool := false
  m_bIsDecoder : Bool := false
  deriving DecidableEq

/-- `GBDevInfoDescribe_T`. -/
structure GBDevInfoDescribe where
  m_devInfo : CDevProperty := {}
  m_devCatalog : CatalogEntry := .empty
  m_CatalogCollections : Map CStr CatalogEntry := ∅
  m_AlarmInfo : DeviceAlarmInfo := {}
  m_strDeviceID : CStr := []
  m_strGUID : CStr := []
  deriving DecidableEq

/-- `HUSDeviceDescribe_T`: the sub-devices, in the order in which a loop over them meets them. -/
structure HUSDeviceDescribe where
  subDevStrGUIDMap : List (CStr × GUID) := []
  deriving DecidableEq

/-- `DeviceObject`; a description that no one has asked for is not there yet. -/
structure DeviceObject where
  m_strDeviceID : CStr := []
  m_eGBDevType : GBDevice_T
  strParentGUID : CStr := []
  strDeviceTyeMark : CStr := []
  oSubStrGUIDSecNameMap : List (CStr × CStr) := []
  guidDevice : GUID := 0
  strDeviceGUID : CStr := []
  p_GBDevDesInfo : Option GBDevInfoDescribe := none
  p_HUSDevDesInfo : Option HUSDeviceDescribe := none
  /-- the keys of `oSubStrGUIDSecNameMap` -/
  nodup : (oSubStrGUIDSecNameMap.map Prod.fst).Nodup := by exact List.nodup_nil
  deriving DecidableEq

namespace DeviceObject

def getGBDescription (obj : DeviceObject) : GBDevInfoDescribe := obj.p_GBDevDesInfo.getD {}

def getVMSDescription (obj : DeviceObject) : HUSDeviceDescribe := obj.p_HUSDevDesInfo.getD {}

def getAlarmInfo (obj : DeviceObject) : DeviceAlarmInfo := obj.getGBDescription.m_AlarmInfo

/-- `*obj.GetAlarmInfo() = alarminfo`. -/
def setAlarmInfo (obj : DeviceObject) (alarminfo : DeviceAlarmInfo) : DeviceObject :=
  { obj with p_GBDevDesInfo := some { obj.getGBDescription with m_AlarmInfo := alarminfo } }

@[simp] theorem getAlarmInfo_setAlarmInfo (obj : DeviceObject) (alarminfo : DeviceAlarmInfo) :
    (obj.setAlarmInfo alarminfo).getAlarmInfo = alarminfo := rfl

/-- The keys of `subDevStrGUIDMap`. -/
def subDevStrGUIDs (obj : DeviceObject) : List CStr :=
  obj.getVMSDescription.subDevStrGUIDMap.map Prod.fst

/-- `subDevStrGUIDMap.emplace`. -/
def emplaceSubDev (obj : DeviceObject) (strGUID : CStr) (guid : GUID) : DeviceObject :=
  if strGUID ∈ obj.subDevStrGUIDs then
    { obj with p_HUSDevDesInfo := some obj.getVMSDescription }
  else
    { obj with
      p_HUSDevDesInfo := some ⟨obj.getVMSDescription.subDevStrGUIDMap ++ [(strGUID, guid)]⟩ }

/-- `subDevStrGUIDMap.erase`. -/
def eraseSubDev (obj : DeviceObject) (strGUID : CStr) : DeviceObject :=
  { obj with
    p_HUSDevDesInfo :=
      some ⟨obj.getVMSDescription.subDevStrGUIDMap.filter fun item => item.1 ≠ strGUID⟩ }

end DeviceObject

/-! ## The store -/

structure CDataStore where
  m_ObjectMap : Map CStr DeviceObject := ∅
  m_DeviceIDMap : Map CStr CStr := ∅
  m_GUIDMap : Map CStr CStr := ∅
  m_oAlarmingDeviceMap : Map CStr (List DeviceAlarmInfo) := ∅

namespace CDataStore

def addDeviceObjectByGUID (pszGUID : CStr) (pDevObj : DeviceObject) (s : CDataStore) :
    CDataStore :=
  { s with m_ObjectMap := s.m_ObjectMap.insert pszGUID pDevObj }

def addDeviceID (pszDeviceID pszGUID : CStr) (s : CDataStore) : CDataStore :=
  { s with
    m_DeviceIDMap := s.m_DeviceIDMap.insert pszDeviceID pszGUID
    m_GUIDMap := s.m_GUIDMap.insert pszGUID pszDeviceID }

def addGUID (pszGUID pszDeviceID : CStr) (s : CDataStore) : CDataStore :=
  { s with
    m_GUIDMap := s.m_GUIDMap.insert pszGUID pszDeviceID
    m_DeviceIDMap := s.m_DeviceIDMap.insert pszDeviceID pszGUID }

/-- `RemoveDevice`: the reverse table keeps its entry. -/
def removeDevice (pszDeviceID : CStr) (s : CDataStore) : CDataStore :=
  match s.m_DeviceIDMap.lookup pszDeviceID with
  | none => s
  | some _ => { s with m_DeviceIDMap := s.m_DeviceIDMap.erase pszDeviceID }

def removeDeviceChildLinkByGUID (pszChildGUID pszParentGUID : CStr) (s : CDataStore) :
    CDataStore :=
  match s.m_ObjectMap.lookup pszParentGUID with
  | none => s
  | some tmpDevinfo =>
    { s with
      m_ObjectMap := s.m_ObjectMap.insert pszParentGUID (tmpDevinfo.eraseSubDev pszChildGUID) }

/-- `RemoveDeviceItemByGUID`: the table of device IDs keeps its entry. -/
def removeDeviceItemByGUID (pszGUID : CStr) (s : CDataStore) : CDataStore :=
  match s.m_GUIDMap.lookup pszGUID with
  | none => s
  | some _ =>
    { s with m_GUIDMap := s.m_GUIDMap.erase pszGUID, m_ObjectMap := s.m_ObjectMap.erase pszGUID }

def removeDeviceByGUID (pszGUID : CStr) (s : CDataStore) : CDataStore :=
  match s.m_ObjectMap.lookup pszGUID with
  | none => s
  | some tmpDevinfo =>
    let s := tmpDevinfo.subDevStrGUIDs.foldl (fun s item => s.removeDeviceItemByGUID item) s
    let s := s.removeDeviceItemByGUID pszGUID
    if tmpDevinfo.strParentGUID = [] then s
    else s.removeDeviceChildLinkByGUID pszGUID tmpDevinfo.strParentGUID

/-! ## Lookups -/

def lookupGUID (s : CDataStore) (pszDeviceID : CStr) : Option CStr :=
  if pszDeviceID.length ≠ 20 then none else s.m_DeviceIDMap.lookup pszDeviceID

def lookupDeviceID (s : CDataStore) (pszGUID : CStr) : Option CStr := s.m_GUIDMap.lookup pszGUID

def lookupDeviceByGUID (s : CDataStore) (pszGUID : CStr) : Option DeviceObject :=
  if pszGUID = [] then none else s.m_ObjectMap.lookup pszGUID

/-- What `m_DeviceIDMap[pszDeviceID]` leaves behind. -/
def touchDeviceID (s : CDataStore) (pszDeviceID : CStr) : CDataStore :=
  { s with m_DeviceIDMap := s.m_DeviceIDMap.touch pszDeviceID [] }

def lookupDevice (pszDeviceID : CStr) (s : CDataStore) : Option DeviceObject × CDataStore :=
  (s.lookupDeviceByGUID (s.m_DeviceIDMap.index pszDeviceID []), s.touchDeviceID pszDeviceID)

/-! ## Alarms -/

def setDeviceAlarmStatus (pszGUID : CStr) (alarminfo : DeviceAlarmInfo) (s : CDataStore) :
    CDataStore :=
  match s.m_ObjectMap.lookup pszGUID with
  | none => s
  | some tmpdevinfo =>
    { s with m_ObjectMap := s.m_ObjectMap.insert pszGUID (tmpdevinfo.setAlarmInfo alarminfo) }

def removeDeviceAlarmStatus (pszGUID : CStr) (s : CDataStore) : CDataStore :=
  match s.m_ObjectMap.lookup pszGUID with
  | none => s
  | some tmpdevinfo =>
    { s with
      m_ObjectMap :=
        s.m_ObjectMap.insert pszGUID (tmpdevinfo.setAlarmInfo tmpdevinfo.getAlarmInfo.clear) }

def lookupDeviceAlarmStatus (pszDeviceID : CStr) (s : CDataStore) :
    Option DeviceAlarmInfo × CDataStore :=
  ((s.lookupDeviceByGUID (s.m_DeviceIDMap.index pszDeviceID [])).map DeviceObject.getAlarmInfo,
    s.touchDeviceID pszDeviceID)

/-- `AddAlarmInfo`: the cache takes 200 alarms of a device. -/
def addAlarmInfo (pszDeviceID : CStr) (alarminfo : DeviceAlarmInfo) (s : CDataStore) :
    CDataStore :=
  let strGUID := s.m_DeviceIDMap.index pszDeviceID []
  let s := s.touchDeviceID pszDeviceID
  let alarms := s.m_oAlarmingDeviceMap.index strGUID []
  if alarms.length ≥ 200 then s
  else
    let s :=
      { s with
        m_oAlarmingDeviceMap := s.m_oAlarmingDeviceMap.insert strGUID (alarms ++ [alarminfo]) }
    if strGUID = [] then s else s.setDeviceAlarmStatus strGUID alarminfo

/-- `RemoveAlarming`: the alarms of all devices go when the device has one. -/
def removeAlarming (pszDeviceID : CStr) (s : CDataStore) : CDataStore :=
  let strGUID := s.m_DeviceIDMap.index pszDeviceID []
  let s := s.touchDeviceID pszDeviceID
  if (s.m_oAlarmingDeviceMap.index strGUID []).length = 0 then
    { s with m_oAlarmingDeviceMap := s.m_oAlarmingDeviceMap.touch strGUID [] }
  else { s with m_oAlarmingDeviceMap := ∅ }

/-! ## What an operation leaves of the tables -/

theorem tables_removeDeviceChildLinkByGUID (pszChildGUID pszParentGUID : CStr) (s : CDataStore) :
    (s.removeDeviceChildLinkByGUID pszChildGUID pszParentGUID).m_DeviceIDMap = s.m_DeviceIDMap ∧
      (s.removeDeviceChildLinkByGUID pszChildGUID pszParentGUID).m_GUIDMap = s.m_GUIDMap := by
  unfold removeDeviceChildLinkByGUID
  split
  · exact ⟨rfl, rfl⟩
  · exact ⟨rfl, rfl⟩

theorem tables_setDeviceAlarmStatus (pszGUID : CStr) (alarminfo : DeviceAlarmInfo)
    (s : CDataStore) :
    (s.setDeviceAlarmStatus pszGUID alarminfo).m_DeviceIDMap = s.m_DeviceIDMap ∧
      (s.setDeviceAlarmStatus pszGUID alarminfo).m_GUIDMap = s.m_GUIDMap := by
  unfold setDeviceAlarmStatus
  split
  · exact ⟨rfl, rfl⟩
  · exact ⟨rfl, rfl⟩

/-- An alarm reads the table of device IDs through `operator[]` and writes no table else. -/
theorem tables_addAlarmInfo (pszDeviceID : CStr) (alarminfo : DeviceAlarmInfo) (s : CDataStore) :
    (s.addAlarmInfo pszDeviceID alarminfo).m_DeviceIDMap = s.m_DeviceIDMap.touch pszDeviceID [] ∧
      (s.addAlarmInfo pszDeviceID alarminfo).m_GUIDMap = s.m_GUIDMap := by
  unfold addAlarmInfo
  dsimp only
  split
  · exact ⟨rfl, rfl⟩
  · split
    · exact ⟨rfl, rfl⟩
    · exact tables_setDeviceAlarmStatus _ _ _

theorem tables_removeAlarming (pszDeviceID : CStr) (s : CDataStore) :
    (s.removeAlarming pszDeviceID).m_DeviceIDMap = s.m_DeviceIDMap.touch pszDeviceID [] ∧
      (s.removeAlarming pszDeviceID).m_GUIDMap = s.m_GUIDMap := by
  unfold removeAlarming
  dsimp only
  split
  · exact ⟨rfl, rfl⟩
  · exact ⟨rfl, rfl⟩

theorem m_DeviceIDMap_removeDevice (pszDeviceID : CStr) (s : CDataStore) :
    (s.removeDevice pszDeviceID).m_DeviceIDMap = s.m_DeviceIDMap.erase pszDeviceID := by
  unfold removeDevice
  split
  · rename_i h
    refine (Finmap.ext_lookup fun x => ?_).symm
    rw [Map.lookup_erase_ite]
    split
    · rename_i hx
      rw [hx, h]
    · rfl
  · rfl

theorem m_GUIDMap_removeDevice (pszDeviceID : CStr) (s : CDataStore) :
    (s.removeDevice pszDeviceID).m_GUIDMap = s.m_GUIDMap := by
  unfold removeDevice
  split
  · rfl
  · rfl

theorem m_DeviceIDMap_removeDeviceItemByGUID (pszGUID : CStr) (s : CDataStore) :
    (s.removeDeviceItemByGUID pszGUID).m_DeviceIDMap = s.m_DeviceIDMap := by
  unfold removeDeviceItemByGUID
  split
  · rfl
  · rfl

theorem lookupDeviceID_removeDeviceItemByGUID (pszGUID x : CStr) (s : CDataStore) :
    (s.removeDeviceItemByGUID pszGUID).lookupDeviceID x =
      if x = pszGUID then none else s.lookupDeviceID x := by
  unfold removeDeviceItemByGUID lookupDeviceID
  split
  · rename_i h
    split
    · rename_i hx
      rw [hx, h]
    · rfl
  · exact Map.lookup_erase_ite _ _ _

theorem tables_foldl_removeDeviceItemByGUID (items : List CStr) (s : CDataStore) :
    (items.foldl (fun s item => s.removeDeviceItemByGUID item) s).m_DeviceIDMap =
        s.m_DeviceIDMap ∧
      ∀ x, (items.foldl (fun s item => s.removeDeviceItemByGUID item) s).lookupDeviceID x =
        if x ∈ items then none else s.lookupDeviceID x := by
  induction items generalizing s with
  | nil => exact ⟨rfl, fun x => (if_neg List.not_mem_nil).symm⟩
  | cons item items ih =>
    obtain ⟨hids, hguids⟩ := ih (s.removeDeviceItemByGUID item)
    refine ⟨hids.trans (m_DeviceIDMap_removeDeviceItemByGUID item s), fun x => ?_⟩
    rw [List.foldl_cons, hguids, lookupDeviceID_removeDeviceItemByGUID]
    by_cases hitem : x = item
    · simp [hitem]
    · simp [hitem]

/-- **A device taken out with its sub-devices** leaves the table of device IDs as it was. -/
theorem tables_removeDeviceByGUID {pszGUID : CStr} {s : CDataStore} {tmpDevinfo : DeviceObject}
    (h : s.m_ObjectMap.lookup pszGUID = some tmpDevinfo) :
    (s.removeDeviceByGUID pszGUID).m_DeviceIDMap = s.m_DeviceIDMap ∧
      ∀ x, (s.removeDeviceByGUID pszGUID).lookupDeviceID x =
        if x = pszGUID ∨ x ∈ tmpDevinfo.subDevStrGUIDs then none else s.lookupDeviceID x := by
  obtain ⟨hids, hguids⟩ := tables_foldl_removeDeviceItemByGUID tmpDevinfo.subDevStrGUIDs s
  have hguids' : ∀ x,
      ((tmpDevinfo.subDevStrGUIDs.foldl (fun s item => s.removeDeviceItemByGUID item)
        s).removeDeviceItemByGUID pszGUID).lookupDeviceID x =
        if x = pszGUID ∨ x ∈ tmpDevinfo.subDevStrGUIDs then none else s.lookupDeviceID x := by
    intro x
    rw [lookupDeviceID_removeDeviceItemByGUID, hguids]
    by_cases hx : x = pszGUID
    · simp [hx]
    · simp [hx]
  have hids' := (m_DeviceIDMap_removeDeviceItemByGUID pszGUID
    (tmpDevinfo.subDevStrGUIDs.foldl (fun s item => s.removeDeviceItemByGUID item) s)).trans hids
  unfold removeDeviceByGUID
  rw [h]
  dsimp only
  split
  · exact ⟨hids', hguids'⟩
  · obtain ⟨hlink, hlink'⟩ := tables_removeDeviceChildLinkByGUID pszGUID tmpDevinfo.strParentGUID
      ((tmpDevinfo.subDevStrGUIDs.foldl (fun s item => s.removeDeviceItemByGUID item)
        s).removeDeviceItemByGUID pszGUID)
    refine ⟨hlink.trans hids', fun x => ?_⟩
    rw [lookupDeviceID, hlink', ← lookupDeviceID]
    exact hguids' x

/-! ## What a removal leaves of the devices -/

theorem objects_removeDeviceItemByGUID (pszGUID x : CStr) (s : CDataStore) :
    (s.removeDeviceItemByGUID pszGUID).m_ObjectMap.lookup x =
      if x = pszGUID ∧ (s.lookupDeviceID x).isSome then none else s.m_ObjectMap.lookup x := by
  unfold removeDeviceItemByGUID lookupDeviceID
  split
  · rename_i hnone
    rw [if_neg]
    rintro ⟨rfl, hsome⟩
    rw [hnone] at hsome
    cases hsome
  · rename_i hsome
    dsimp only
    rw [Map.lookup_erase_ite]
    by_cases hx : x = pszGUID
    · rw [if_pos hx, if_pos ⟨hx, by rw [hx, hsome]; rfl⟩]
    · rw [if_neg hx, if_neg fun hand => hx hand.1]

theorem objects_foldl_removeDeviceItemByGUID (items : List CStr) (x : CStr) (s : CDataStore) :
    (items.foldl (fun s item => s.removeDeviceItemByGUID item) s).m_ObjectMap.lookup x =
      if x ∈ items ∧ (s.lookupDeviceID x).isSome then none else s.m_ObjectMap.lookup x := by
  induction items generalizing s with
  | nil => exact (if_neg fun hand => List.not_mem_nil hand.1).symm
  | cons item items ih =>
    rw [List.foldl_cons, ih, lookupDeviceID_removeDeviceItemByGUID,
      objects_removeDeviceItemByGUID]
    by_cases hx : x = item
    · simp [hx]
    · simp [hx]

theorem described_removeDeviceChildLinkByGUID (pszChildGUID pszParentGUID x : CStr)
    (s : CDataStore) :
    ((s.removeDeviceChildLinkByGUID pszChildGUID pszParentGUID).m_ObjectMap.lookup x).map
        DeviceObject.getGBDescription =
      (s.m_ObjectMap.lookup x).map DeviceObject.getGBDescription := by
  unfold removeDeviceChildLinkByGUID
  split
  · rfl
  · rename_i hparent
    dsimp only
    rw [Map.lookup_insert_ite]
    split
    · rename_i hx
      rw [hx, hparent]
      rfl
    · rfl

/-- `RemoveDeviceByGUID` takes the device `x` out of the store. -/
def Removes (s : CDataStore) (pszGUID x : CStr) : Prop :=
  ∃ obj, s.m_ObjectMap.lookup pszGUID = some obj ∧ (x = pszGUID ∨ x ∈ obj.subDevStrGUIDs) ∧
    (s.lookupDeviceID x).isSome

/-- **The devices that stay** keep their descriptions. -/
theorem described_removeDeviceByGUID {s : CDataStore} {pszGUID x : CStr} :
    (s.Removes pszGUID x → (s.removeDeviceByGUID pszGUID).m_ObjectMap.lookup x = none) ∧
      (¬ s.Removes pszGUID x →
        ((s.removeDeviceByGUID pszGUID).m_ObjectMap.lookup x).map DeviceObject.getGBDescription =
          (s.m_ObjectMap.lookup x).map DeviceObject.getGBDescription) := by
  unfold removeDeviceByGUID
  cases hobj : s.m_ObjectMap.lookup pszGUID with
  | none =>
    refine ⟨?_, fun _ => rfl⟩
    rintro ⟨obj, hsome, -⟩
    rw [hobj] at hsome
    cases hsome
  | some obj =>
    have hremoves : s.Removes pszGUID x ↔
        (x = pszGUID ∨ x ∈ obj.subDevStrGUIDs) ∧ (s.lookupDeviceID x).isSome := by
      simp [Removes, hobj]
    have hlookup : ((obj.subDevStrGUIDs.foldl (fun s item => s.removeDeviceItemByGUID item)
        s).removeDeviceItemByGUID pszGUID).m_ObjectMap.lookup x =
          if (x = pszGUID ∨ x ∈ obj.subDevStrGUIDs) ∧ (s.lookupDeviceID x).isSome then none
          else s.m_ObjectMap.lookup x := by
      rw [objects_removeDeviceItemByGUID, objects_foldl_removeDeviceItemByGUID,
        (tables_foldl_removeDeviceItemByGUID obj.subDevStrGUIDs s).2]
      by_cases hsub : x ∈ obj.subDevStrGUIDs
      · simp [hsub]
      · simp [hsub]
    dsimp only
    rw [hremoves]
    split
    · rw [hlookup]
      exact ⟨fun h => if_pos h, fun h => by rw [if_neg h]⟩
    · rw [← Option.map_eq_none_iff (f := DeviceObject.getGBDescription),
        described_removeDeviceChildLinkByGUID, hlookup]
      exact ⟨fun h => by rw [if_pos h]; rfl, fun h => by rw [if_neg h]⟩

end CDataStore

end GB28181.Platform
