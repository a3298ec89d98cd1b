import GB28181.Platform.DataStore
import GB28181.Platform.GBIDCreator

/-!
# Deleting a device (`SDKCom/SDKDevInfo.cpp`)

`WriteDeviceInfoConfig` stores the channels of a device and then the device.  `AddToDataStore` notes
under the parent **the parent's own GUID** for every channel.  `DeleteDeviceObject` takes the device
out of the tables first, looks it up again, and returns because it is gone.

* `addSiteDevice`, `buildStore` — a device of the site, and the store of a list of them;
* `Listed` — every stored device has its ID in the tables (`listed_buildStore`);
* `deleteDeviceObject` — the deletion with its loop; `deleteDeviceObject_eq` — **it returns before
  the loop, and only one entry of each table goes**;
* `Deleted` — a device and its channels are gone and all others are found as before;
* `deleteDeviceObject_deletes_iff` — the deletion achieves this **exactly when the device has no
  channels and shares no ID**.
-/

set_option autoImplicit false

namespace GB28181.Platform

open GB28181.Base

variable (E : GBDeviceNames)

/-! ## Storing a device -/

/-- `AddToDataStore`; it returns the parent as it is afterwards. -/
def addToDataStore (objec2add : DeviceObject) (parentObject : Option DeviceObject)
    (s : CDataStore) : Option DeviceObject × CDataStore :=
  (parentObject.map fun parent => parent.emplaceSubDev parent.strDeviceGUID parent.guidDevice,
    (s.addDeviceObjectByGUID objec2add.strDeviceGUID objec2add).addGUID objec2add.strDeviceGUID
      objec2add.m_strDeviceID)

/-- A device of the site as `WriteDeviceInfoConfig` meets it.  `channels` has an entry for each of
its sub-elements: the object that is stored for it, if one is.  The GUIDs are texts that
`GUIDToCString` made. -/
structure SiteDevice where
  newDvrObject : DeviceObject
  channels : List (Option DeviceObject)
  guid_ne : ∀ obj ∈ newDvrObject :: channels.filterMap id, obj.strDeviceGUID ≠ []

def addChannels (channels : List (Option DeviceObject)) (newDvrObject : DeviceObject)
    (s : CDataStore) : DeviceObject × CDataStore :=
  channels.foldl
    (fun p channel =>
      match channel with
      | none => p
      | some subChannelObject =>
        let added := addToDataStore subChannelObject (some p.1) p.2
        (added.1.getD p.1, added.2))
    (newDvrObject, s)

/-- What `WriteDeviceInfoConfig` stores: a device without sub-elements, or the channels and, unless
it is an NVR, the device. -/
def addSiteDevice (s : CDataStore) (d : SiteDevice) : CDataStore :=
  if d.channels = [] then (addToDataStore d.newDvrObject none s).2
  else
    let added := addChannels d.channels d.newDvrObject s
    if added.1.m_eGBDevType ≠ E.NVR then (addToDataStore added.1 none added.2).2 else added.2

def buildStore (ds : List SiteDevice) : CDataStore := ds.foldl (addSiteDevice E) {}

/-- The channels that were stored for a device, by their GUIDs. -/
def childrenOf (ds : List SiteDevice) (pszGUID : CStr) : List CStr :=
  ds.flatMap fun d =>
    if d.newDvrObject.strDeviceGUID = pszGUID then
      (d.channels.filterMap id).map DeviceObject.strDeviceGUID
    else []

/-! ## Deleting a device -/

/-- `DevicesInfoMgr`: the store and the IDs in `m_oDecoderMap`. -/
structure DevicesInfoMgr where
  store : CDataStore
  m_oDecoderMap : Finset CStr

/-- A turn of the loop over the sub-devices; `strGUID` is the first of them. -/
def deleteSubDevice (deviceToDelete : DeviceObject) (strGUID : CStr) (m : DevicesInfoMgr) :
    DevicesInfoMgr :=
  match m.store.lookupDeviceByGUID strGUID with
  | none => m
  | some subDeviceToDelete =>
    if E.CAMERA = subDeviceToDelete.m_eGBDevType then
      match m.store.lookupGUID subDeviceToDelete.m_strDeviceID with
      | none => m
      | some strGUIDtoDelete =>
        { m with
          store := (m.store.removeDevice deviceToDelete.m_strDeviceID).removeDeviceItemByGUID
            strGUIDtoDelete }
    else if E.ALARM = deviceToDelete.m_eGBDevType then
      { m with store := m.store.removeDeviceAlarmStatus deviceToDelete.m_strDeviceID }
    else if E.DECODER = deviceToDelete.m_eGBDevType then
      { m with m_oDecoderMap := m.m_oDecoderMap.erase deviceToDelete.m_strDeviceID }
    else m

/-- The loop over the sub-devices.  No turn takes one away, so it ends only if there are none. -/
def deleteSubDevices (deviceToDelete : DeviceObject) :
    Nat → DevicesInfoMgr → Option DevicesInfoMgr
  | 0, _ => none
  | fuel + 1, m =>
    match deviceToDelete.subDevStrGUIDs with
    | [] => some m
    | strGUID :: _ =>
      deleteSubDevices deviceToDelete fuel (deleteSubDevice E deviceToDelete strGUID m)

/-- `DeleteDeviceObject` with a bound on the turns of its loop. -/
def deleteDeviceObject (fuel : Nat) (pszGUID : CStr) (m : DevicesInfoMgr) :
    Option DevicesInfoMgr :=
  match m.store.lookupDeviceID pszGUID with
  | none => some m
  | some deviceGBID =>
    let m := { m with store := (m.store.removeDeviceItemByGUID pszGUID).removeDevice deviceGBID }
    match m.store.lookupDeviceByGUID pszGUID with
    | none => some m
    | some deviceToDelete =>
      let m := { m with store := m.store.removeDeviceByGUID pszGUID }
      if deviceToDelete.m_eGBDevType = E.DEVICE then deleteSubDevices E deviceToDelete fuel m
      else some m

/-! ## What is in the store of a site -/

/-- Every stored device has its ID in the tables, and the IDs lead to stored devices. -/
structure Listed (s : CDataStore) : Prop where
  id_eq : ∀ h, s.lookupDeviceID h = (s.m_ObjectMap.lookup h).map DeviceObject.m_strDeviceID
  known : ∀ h id, s.lookupDeviceID h = some id → id ∈ s.m_DeviceIDMap
  stored : ∀ id h, s.m_DeviceIDMap.lookup id = some h → h ∈ s.m_ObjectMap
  guid_ne : ∀ h ∈ s.m_ObjectMap, h ≠ []

theorem listed_empty : Listed {} where
  id_eq _ := rfl
  known _ _ h := nomatch h
  stored _ _ h := nomatch h
  guid_ne _ hmem := absurd hmem Finmap.notMem_empty

theorem listed_addToDataStore {s : CDataStore} (hs : Listed s) {obj : DeviceObject}
    (hne : obj.strDeviceGUID ≠ []) (parentObject : Option DeviceObject) :
    Listed (addToDataStore obj parentObject s).2 where
  id_eq h := by
    have hrest := hs.id_eq h
    simp only [CDataStore.lookupDeviceID, addToDataStore, CDataStore.addGUID,
      CDataStore.addDeviceObjectByGUID, Map.lookup_insert_ite] at hrest ⊢
    split
    · rfl
    · exact hrest
  known h id hid := by
    simp only [CDataStore.lookupDeviceID, addToDataStore, CDataStore.addGUID,
      CDataStore.addDeviceObjectByGUID, Map.lookup_insert_ite] at hid ⊢
    rw [Finmap.mem_insert]
    split at hid
    · exact Or.inl (Option.some.inj hid).symm
    · exact Or.inr (hs.known h id hid)
  stored id h hid := by
    simp only [addToDataStore, CDataStore.addGUID, CDataStore.addDeviceObjectByGUID,
      Map.lookup_insert_ite] at hid ⊢
    rw [Finmap.mem_insert]
    split at hid
    · exact Or.inl (Option.some.inj hid).symm
    · exact Or.inr (hs.stored id h hid)
  guid_ne h hmem := by
    rcases Finmap.mem_insert.mp hmem with rfl | hmem
    · exact hne
    · exact hs.guid_ne h hmem

/-- The store of `s'` has the devices of `s` and those of the list. -/
def Gains (s s' : CDataStore) (objs : List DeviceObject) : Prop :=
  (∀ h ∈ s.m_ObjectMap, h ∈ s'.m_ObjectMap) ∧ ∀ obj ∈ objs, obj.strDeviceGUID ∈ s'.m_ObjectMap

theorem gains_addToDataStore (s : CDataStore) (obj : DeviceObject)
    (parentObject : Option DeviceObject) :
    Gains s (addToDataStore obj parentObject s).2 [obj] := by
  constructor
  · intro h hmem
    exact Finmap.mem_insert.mpr (Or.inr hmem)
  · intro obj' hmem
    rw [List.mem_singleton.mp hmem]
    exact Finmap.mem_insert.mpr (Or.inl rfl)

/-- The loop over the channels stores them all and leaves the parent its GUID. -/
theorem addChannels_spec (channels : List (Option DeviceObject)) (parent : DeviceObject)
    {s : CDataStore} (hs : Listed s)
    (hne : ∀ obj ∈ channels.filterMap id, obj.strDeviceGUID ≠ []) :
    (addChannels channels parent s).1.strDeviceGUID = parent.strDeviceGUID ∧
      Listed (addChannels channels parent s).2 ∧
      Gains s (addChannels channels parent s).2 (channels.filterMap id) := by
  induction channels generalizing parent s with
  | nil => exact ⟨rfl, hs, fun _ hmem => hmem, fun _ hmem => nomatch hmem⟩
  | cons channel channels ih =>
    cases channel with
    | none => exact ih parent hs hne
    | some sub =>
      rw [List.filterMap_cons_some (rfl : id (some sub) = some sub)] at hne ⊢
      rw [List.forall_mem_cons] at hne
      obtain ⟨hold, hnew⟩ := gains_addToDataStore s sub (some parent)
      obtain ⟨hguid, hlisted, hgrow, hsubs⟩ := ih
        (parent.emplaceSubDev parent.strDeviceGUID parent.guidDevice)
        (listed_addToDataStore hs hne.1 (some parent)) hne.2
      have hparent : (parent.emplaceSubDev parent.strDeviceGUID parent.guidDevice).strDeviceGUID =
          parent.strDeviceGUID := by
        unfold DeviceObject.emplaceSubDev
        split <;> rfl
      refine ⟨hguid.trans hparent, hlisted, fun h hmem => hgrow h (hold h hmem), ?_⟩
      rw [List.forall_mem_cons]
      exact ⟨hgrow _ (hnew sub List.mem_cons_self), hsubs⟩

theorem addSiteDevice_spec {s : CDataStore} (hs : Listed s) (d : SiteDevice) :
    Listed (addSiteDevice E s d) ∧ Gains s (addSiteDevice E s d) (d.channels.filterMap id) := by
  have hne := List.forall_mem_cons.mp d.guid_ne
  unfold addSiteDevice
  split
  · rename_i hnil
    refine ⟨listed_addToDataStore hs hne.1 none, (gains_addToDataStore s _ none).1, ?_⟩
    rw [hnil]
    exact fun _ hmem => nomatch hmem
  · obtain ⟨hguid, hlisted, hgrow, hsubs⟩ := addChannels_spec d.channels d.newDvrObject hs hne.2
    dsimp only
    split
    · have hold := (gains_addToDataStore (addChannels d.channels d.newDvrObject s).2
        (addChannels d.channels d.newDvrObject s).1 none).1
      refine ⟨listed_addToDataStore hlisted (hguid ▸ hne.1) none, ?_, ?_⟩
      · exact fun h hmem => hold h (hgrow h hmem)
      · exact fun obj hmem => hold _ (hsubs obj hmem)
    · exact ⟨hlisted, hgrow, hsubs⟩

theorem foldl_addSiteDevice_spec (ds : List SiteDevice) {s : CDataStore} (hs : Listed s) :
    Listed (ds.foldl (addSiteDevice E) s) ∧
      Gains s (ds.foldl (addSiteDevice E) s) (ds.flatMap fun d => d.channels.filterMap id) := by
  induction ds generalizing s with
  | nil => exact ⟨hs, fun _ hmem => hmem, fun _ hmem => nomatch hmem⟩
  | cons d ds ih =>
    obtain ⟨hlisted, hold, hnew⟩ := addSiteDevice_spec E hs d
    obtain ⟨hlisted', hold', hnew'⟩ := ih hlisted
    refine ⟨hlisted', fun h hmem => hold' h (hold h hmem), ?_⟩
    rw [List.flatMap_cons, List.forall_mem_append]
    exact ⟨fun obj hmem => hold' _ (hnew obj hmem), hnew'⟩

/-- **The store of a site** lists its devices. -/
theorem listed_buildStore (ds : List SiteDevice) : Listed (buildStore E ds) :=
  (foldl_addSiteDevice_spec E ds listed_empty).1

theorem mem_buildStore_of_child {ds : List SiteDevice} {pszGUID c : CStr}
    (hc : c ∈ childrenOf ds pszGUID) : c ∈ (buildStore E ds).m_ObjectMap := by
  obtain ⟨-, -, hsubs⟩ := foldl_addSiteDevice_spec E ds listed_empty
  obtain ⟨d, hd, hc⟩ := List.mem_flatMap.mp hc
  split at hc
  · obtain ⟨obj, hobj, rfl⟩ := List.mem_map.mp hc
    exact hsubs obj (List.mem_flatMap.mpr ⟨d, hd, hobj⟩)
  · cases hc

/-! ## What a deletion does -/

/-- The store without the entries of a device in the three tables. -/
def CDataStore.without (s : CDataStore) (pszGUID deviceGBID : CStr) : CDataStore :=
  (s.removeDeviceItemByGUID pszGUID).removeDevice deviceGBID

namespace CDataStore

variable {s : CDataStore} {pszGUID deviceGBID : CStr}

theorem lookupDeviceByGUID_without (hid : s.lookupDeviceID pszGUID = some deviceGBID) (h : CStr) :
    (s.without pszGUID deviceGBID).lookupDeviceByGUID h =
      if h = pszGUID then none else s.lookupDeviceByGUID h := by
  have hobjects : (s.without pszGUID deviceGBID).m_ObjectMap = s.m_ObjectMap.erase pszGUID := by
    have hlookup : s.m_GUIDMap.lookup pszGUID = some deviceGBID := hid
    unfold without removeDevice removeDeviceItemByGUID
    rw [hlookup]
    split <;> rfl
  rw [lookupDeviceByGUID, hobjects, Map.lookup_erase_ite, lookupDeviceByGUID]
  by_cases hempty : h = []
  · simp [hempty]
  · simp [hempty]

theorem m_DeviceIDMap_without (s : CDataStore) (pszGUID deviceGBID : CStr) :
    (s.without pszGUID deviceGBID).m_DeviceIDMap = s.m_DeviceIDMap.erase deviceGBID := by
  rw [without, m_DeviceIDMap_removeDevice, m_DeviceIDMap_removeDeviceItemByGUID]

theorem lookupDevice_of_lookup {id h : CStr} (hid : s.m_DeviceIDMap.lookup id = some h) :
    (s.lookupDevice id).1 = s.lookupDeviceByGUID h := by
  rw [lookupDevice, Map.index_of_lookup hid]

theorem lookupDevice_of_not_mem {id : CStr} (hid : id ∉ s.m_DeviceIDMap) :
    (s.lookupDevice id).1 = none := by
  rw [lookupDevice, Map.index_of_not_mem hid]
  rfl

theorem lookupDeviceByGUID_isSome (hs : Listed s) {h : CStr} (hmem : h ∈ s.m_ObjectMap) :
    (s.lookupDeviceByGUID h).isSome = true := by
  rw [lookupDeviceByGUID, if_neg (hs.guid_ne h hmem)]
  exact Finmap.lookup_isSome.mpr hmem

theorem lookupDevice_isSome (hs : Listed s) {h id : CStr} (hid : s.lookupDeviceID h = some id) :
    (s.lookupDevice id).1.isSome = true := by
  obtain ⟨g, hg⟩ := Finmap.mem_iff.mp (hs.known h id hid)
  rw [lookupDevice_of_lookup hg]
  exact lookupDeviceByGUID_isSome hs (hs.stored id g hg)

/-- The IDs that are lost: the one that was removed, and those that lead to the device. -/
theorem lookupDevice_without (hid : s.lookupDeviceID pszGUID = some deviceGBID) (id : CStr) :
    ((s.without pszGUID deviceGBID).lookupDevice id).1 =
      if id = deviceGBID ∨ s.m_DeviceIDMap.lookup id = some pszGUID then none
      else (s.lookupDevice id).1 := by
  have hids : (s.without pszGUID deviceGBID).m_DeviceIDMap.lookup id =
      if id = deviceGBID then none else s.m_DeviceIDMap.lookup id := by
    rw [m_DeviceIDMap_without]
    exact Map.lookup_erase_ite _ _ _
  by_cases hne : id = deviceGBID
  · rw [if_pos hne] at hids
    rw [if_pos (Or.inl hne), lookupDevice_of_not_mem (Finmap.lookup_eq_none.mp hids)]
  · rw [if_neg hne] at hids
    cases hg : s.m_DeviceIDMap.lookup id with
    | none =>
      rw [hg] at hids
      rw [lookupDevice_of_not_mem (Finmap.lookup_eq_none.mp hids),
        lookupDevice_of_not_mem (Finmap.lookup_eq_none.mp hg)]
      split <;> rfl
    | some g =>
      rw [hg] at hids
      rw [lookupDevice_of_lookup hids, lookupDevice_of_lookup hg,
        lookupDeviceByGUID_without hid]
      simp only [hne, false_or, Option.some_inj]

end CDataStore

/-- **The deletion returns before its loop**: the second lookup finds nothing, whatever the bound
on the turns. -/
theorem deleteDeviceObject_eq (fuel : Nat) (pszGUID : CStr) (m : DevicesInfoMgr) :
    deleteDeviceObject E fuel pszGUID m =
      some ((m.store.lookupDeviceID pszGUID).elim m fun deviceGBID =>
        { m with store := m.store.without pszGUID deviceGBID }) := by
  unfold deleteDeviceObject
  cases hid : m.store.lookupDeviceID pszGUID with
  | none => rfl
  | some deviceGBID =>
    have hgone := CDataStore.lookupDeviceByGUID_without hid pszGUID
    rw [if_pos rfl, CDataStore.without] at hgone
    simp only [hgone]
    rfl

/-- The devices in `gone` are found neither by GUID nor by device ID, and all others are found as
before. -/
structure Deleted (s s' : CDataStore) (gone : List CStr) : Prop where
  guid_gone : ∀ h ∈ gone, s'.lookupDeviceByGUID h = none
  id_gone : ∀ h ∈ gone, ∀ id, s.lookupDeviceID h = some id → (s'.lookupDevice id).1 = none
  guid_kept : ∀ h, h ∉ gone → s'.lookupDeviceByGUID h = s.lookupDeviceByGUID h
  id_kept : ∀ h, h ∉ gone → ∀ id, s.lookupDeviceID h = some id →
    (s'.lookupDevice id).1 = (s.lookupDevice id).1

/-- No other device has the device's ID, or an ID that leads to the device. -/
def OwnID (s : CDataStore) (pszGUID : CStr) : Prop :=
  ∀ deviceGBID, s.lookupDeviceID pszGUID = some deviceGBID →
    ∀ h, h ≠ pszGUID → ∀ id, s.lookupDeviceID h = some id →
      id ≠ deviceGBID ∧ s.m_DeviceIDMap.lookup id ≠ some pszGUID

theorem deleted_without_iff {s : CDataStore} (hs : Listed s) {pszGUID deviceGBID : CStr}
    (hid : s.lookupDeviceID pszGUID = some deviceGBID) {children : List CStr}
    (hchildren : ∀ c ∈ children, c ∈ s.m_ObjectMap) :
    Deleted s (s.without pszGUID deviceGBID) (pszGUID :: children) ↔
      (∀ c ∈ children, c = pszGUID) ∧ OwnID s pszGUID := by
  have hguid := CDataStore.lookupDeviceByGUID_without hid
  have hids := CDataStore.lookupDevice_without hid
  constructor
  · intro hdel
    have hself : ∀ c ∈ children, c = pszGUID := by
      intro c hc
      by_contra hne
      have hfound := CDataStore.lookupDeviceByGUID_isSome hs (hchildren c hc)
      have hnone := hdel.guid_gone c (List.mem_cons_of_mem _ hc)
      rw [hguid, if_neg hne] at hnone
      rw [hnone] at hfound
      cases hfound
    refine ⟨hself, fun deviceGBID' hid' h hne id hidh => ?_⟩
    obtain rfl : deviceGBID = deviceGBID' := Option.some.inj (hid.symm.trans hid')
    have hout : h ∉ pszGUID :: children := by
      rintro (_ | ⟨_, hmem⟩)
      · exact hne rfl
      · exact hne (hself h hmem)
    -- the ID leads to a device that is found, before and therefore after
    have hfound := CDataStore.lookupDevice_isSome hs hidh
    rw [← hdel.id_kept h hout id hidh, hids] at hfound
    split at hfound
    · cases hfound
    · rename_i hkept
      exact not_or.mp hkept
  · rintro ⟨hself, hown⟩
    have hmem : ∀ h, h ∈ pszGUID :: children → h = pszGUID := by
      rintro h (_ | ⟨_, hc⟩)
      · rfl
      · exact hself h hc
    refine ⟨fun h hh => ?_, fun h hh id hidh => ?_, fun h hh => ?_, fun h hh id hidh => ?_⟩
    · rw [hguid, if_pos (hmem h hh)]
    · obtain rfl := hmem h hh
      obtain rfl : deviceGBID = id := Option.some.inj (hid.symm.trans hidh)
      rw [hids, if_pos (Or.inl rfl)]
    · rw [hguid, if_neg]
      rintro rfl
      exact hh List.mem_cons_self
    · have hne : h ≠ pszGUID := by
        rintro rfl
        exact hh List.mem_cons_self
      rw [hids, if_neg (not_or.mpr (hown deviceGBID hid h hne id hidh))]

/-- **The deletion of a device** of the site achieves what it should exactly when the device has no
channels and its ID to itself. -/
theorem deleteDeviceObject_deletes_iff (ds : List SiteDevice) (decoders : Finset CStr)
    (pszGUID : CStr) :
    (∃ fuel m', deleteDeviceObject E fuel pszGUID ⟨buildStore E ds, decoders⟩ = some m' ∧
        Deleted (buildStore E ds) m'.store (pszGUID :: childrenOf ds pszGUID)) ↔
      (∀ c ∈ childrenOf ds pszGUID, c = pszGUID) ∧ OwnID (buildStore E ds) pszGUID := by
  have hs := listed_buildStore E ds
  have hchildren : ∀ c ∈ childrenOf ds pszGUID, c ∈ (buildStore E ds).m_ObjectMap :=
    fun c hc => mem_buildStore_of_child E hc
  simp only [deleteDeviceObject_eq, Option.some.injEq, exists_const, exists_eq_left']
  cases hid : (buildStore E ds).lookupDeviceID pszGUID with
  | some deviceGBID => exact deleted_without_iff hs hid hchildren
  | none =>
    have hnot : pszGUID ∉ (buildStore E ds).m_ObjectMap := by
      have hnone := hs.id_eq pszGUID
      rw [hid] at hnone
      exact Finmap.lookup_eq_none.mp (Option.map_eq_none_iff.mp hnone.symm)
    have hown : OwnID (buildStore E ds) pszGUID := by
      intro deviceGBID hid'
      rw [hid] at hid'
      cases hid'
    rw [and_iff_left hown]
    constructor
    · intro hdel c hc
      have hfound := CDataStore.lookupDeviceByGUID_isSome hs (hchildren c hc)
      have hnone : (buildStore E ds).lookupDeviceByGUID c = none :=
        hdel.guid_gone c (List.mem_cons_of_mem _ hc)
      rw [hnone] at hfound
      cases hfound
    · intro hself
      have hempty : childrenOf ds pszGUID = [] := by
        refine List.eq_nil_iff_forall_not_mem.mpr fun c hc => hnot ?_
        exact hself c hc ▸ hchildren c hc
      rw [hempty]
      refine ⟨fun h hh => ?_, fun h hh id hidh => ?_, fun _ _ => rfl, fun _ _ _ _ => rfl⟩
      · obtain rfl := List.mem_singleton.mp hh
        show (buildStore E ds).lookupDeviceByGUID h = none
        rw [CDataStore.lookupDeviceByGUID]
        split
        · rfl
        · exact Finmap.lookup_eq_none.mpr hnot
      · obtain rfl := List.mem_singleton.mp hh
        rw [hid] at hidh
        cases hidh

def sampleRecorder : SiteDevice where
  newDvrObject :=
    { m_strDeviceID := str "34020000001110000001", m_eGBDevType := sampleNames.DVR,
      strDeviceGUID := str "{A}" }
  channels :=
    [some { m_strDeviceID := str "34020000001310000001", m_eGBDevType := sampleNames.CAMERA,
            strDeviceGUID := str "{B}" }]
  guid_ne := by decide

/-- When the recorder is deleted, its camera stays in the store. -/
theorem deletion_leaves_channel :
    ¬ (∃ fuel m', deleteDeviceObject sampleNames fuel (str "{A}")
          ⟨buildStore sampleNames [sampleRecorder], ∅⟩ = some m' ∧
        Deleted (buildStore sampleNames [sampleRecorder]) m'.store
          (str "{A}" :: childrenOf [sampleRecorder] (str "{A}"))) := by
  rintro ⟨fuel, m', hm, hdel⟩
  rw [deleteDeviceObject_eq] at hm
  obtain rfl := Option.some.inj hm
  have hnone := hdel.guid_gone (str "{B}") (by decide)
  revert hnone
  decide

end GB28181.Platform
