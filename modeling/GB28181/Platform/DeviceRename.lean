import GB28181.Base.KeyMoves
import GB28181.Platform.DeviceIDMaps
import GB28181.Platform.GBIDCreator
import GB28181.Platform.InitDeviceInfo

/-!
# A device gets another ID (`DevicesInfoMgr::UpdateGBDeviceIDByGUID`)

The configuration of a device has its ID and those of its channels.  Every one of them that is in
the store gets the ID that is there.  What else changes depends on the type: a device or a camera
that had an ID of 20 characters is moved in the ID tables, an alarm device has its status moved, a
decoder its link.

* `deviceIDMap` — the IDs in the configuration;
* `updateEntry`, `updateGBDeviceIDByGUID` — one of the devices, and all, in the order of the map;
* `changeOf` — what an entry does to the ID tables of the store the call meets;
* `renamed_iff` — **the device is found under its new ID and no other device has moved, in every
  order**, exactly when an entry moves the old ID to the new one and the others change no table.
-/

set_option autoImplicit false

namespace GB28181.Platform

open GB28181.Base GB28181.GBUtils

/-! ## The IDs in the configuration -/

section Configuration

variable (conf : Profile)

/-- The loop over the channels; the first channel of an IPC has the ID of the device. -/
def channelIDs (strConfigName strDeviceType strDeviceID : CStr) :
    List Nat → Map CStr CStr → Map CStr CStr
  | [], strDeviceIDMap => strDeviceIDMap
  | j :: js, strDeviceIDMap =>
    let strSection := str "CHANNEL_CATALOG" ++ toText j
    let strChannelID :=
      getPrivateProfileString conf strSection (str "DeviceID") (str "NaN") strConfigName
    let szData := getPrivateProfileString conf strSection (str "GUID") (str "NaN") strConfigName
    if szData = str "NaN" then strDeviceIDMap
    else
      let strGUID := makeLower szData
      if j = 0 ∧ stricmpEq strDeviceType (str "ipc") then
        channelIDs strConfigName strDeviceType strDeviceID js
          (strDeviceIDMap.insert strGUID strDeviceID)
      else
        channelIDs strConfigName strDeviceType strDeviceID js
          (strDeviceIDMap.insert strGUID strChannelID)

/-- `strConfigName`. -/
def configName (strDevConfDir pszGUID : CStr) : CStr := strDevConfDir ++ str "\\" ++ pszGUID

def configuredID (strDevConfDir pszGUID : CStr) : CStr :=
  getPrivateProfileString conf (str "CATALOG") (str "DeviceID") (str "NaN")
    (configName strDevConfDir pszGUID)

/-- `strDeviceIDMap`. -/
def deviceIDMap (strDevConfDir pszGUID : CStr) : Map CStr CStr :=
  let strConfigName := configName strDevConfDir pszGUID
  let strDeviceID := configuredID conf strDevConfDir pszGUID
  let strDeviceType :=
    getPrivateProfileString conf (str "INFO") (str "DeviceType") (str "DeviceType") strConfigName
  channelIDs conf strConfigName strDeviceType strDeviceID (List.range 64)
    ((∅ : Map CStr CStr).insert pszGUID strDeviceID)

end Configuration

/-! ## The update -/

/-- The store and the links of the decoders (`HUSDeviceConnect_T *`). -/
structure LinkedDevices (Link : Type) where
  store : CDataStore
  m_oDecoderMap : Map CStr Link

section Update

variable {Link : Type} (E : GBDeviceNames)

/-- What was kept under the old ID is kept under the new one. -/
def replaceInfo (strGUID strDeviceID oldstrDeviceID : CStr) (eGBDevType : GBDevice_T)
    (m : LinkedDevices Link) : LinkedDevices Link :=
  let szData := stringCpy_s 260 strDeviceID
  if E.DEVICE = eGBDevType ∨ E.CAMERA = eGBDevType then
    match m.store.lookupGUID oldstrDeviceID with
    | none => m
    | some husDeviceGUID =>
      { m with
        store := (m.store.removeDevice oldstrDeviceID).addDeviceID strDeviceID husDeviceGUID }
  else if E.ALARM = eGBDevType then
    let (tServiceInfo, store) := m.store.lookupDeviceAlarmStatus oldstrDeviceID
    match tServiceInfo with
    | none => { m with store := store }
    | some tServiceInfo =>
      let store := store.removeDeviceAlarmStatus oldstrDeviceID
      if szData.length ≠ 20 then
        { m with store := store.setDeviceAlarmStatus strGUID tServiceInfo }
      else { m with store := store.setDeviceAlarmStatus szData tServiceInfo }
  else if E.DECODER = eGBDevType then
    match m.m_oDecoderMap.lookup oldstrDeviceID with
    | none => m
    | some deviceLinkInfo =>
      let links := m.m_oDecoderMap.erase oldstrDeviceID
      if szData.length ≠ 20 then
        { m with m_oDecoderMap := links.insert strGUID deviceLinkInfo }
      else { m with m_oDecoderMap := links.insert szData deviceLinkInfo }
  else m

/-- The key under which a device was kept: its ID, or its GUID if it had none. -/
def oldKey (strGUID oldstrDeviceID : CStr) : CStr :=
  if oldstrDeviceID.length ≠ 20 then strGUID else oldstrDeviceID

def updateEntry (strGUID strDeviceID : CStr) (m : LinkedDevices Link) : LinkedDevices Link :=
  match m.store.lookupDeviceByGUID strGUID with
  | none => m
  | some tOldInfo =>
    let tNewInfo := { tOldInfo with m_strDeviceID := strDeviceID }
    let m := { m with store := m.store.addDeviceObjectByGUID strGUID tNewInfo }
    if tOldInfo.m_strDeviceID = stringCpy_s 260 strDeviceID then m
    else
      replaceInfo E strGUID strDeviceID (oldKey strGUID tOldInfo.m_strDeviceID)
        tOldInfo.m_eGBDevType m

/-- The loop over the IDs, in the order in which it meets them. -/
def updateEntries (strDeviceIDMap : Map CStr CStr) (order : List CStr)
    (m : LinkedDevices Link) : LinkedDevices Link :=
  order.foldl (fun m strGUID => updateEntry E strGUID (strDeviceIDMap.index strGUID []) m) m

def updateGBDeviceIDByGUID (conf : Profile) (strDevConfDir : CStr) (order : List CStr)
    (pszGUID : CStr) (m : LinkedDevices Link) : LinkedDevices Link :=
  updateEntries E (deviceIDMap conf strDevConfDir pszGUID) order m

structure Enumerates (ids : Map CStr CStr) (order : List CStr) : Prop where
  nodup : order.Nodup
  mem_iff : ∀ x, x ∈ order ↔ x ∈ ids

/-! ## What should hold -/

def CDataStore.tables (s : CDataStore) : Tables CStr CStr := ⟨s.m_DeviceIDMap, s.m_GUIDMap⟩

/-- The device is found under its new ID, and no other device has moved. -/
structure Renamed (s s' : CDataStore) (strGUID old new : CStr) : Prop where
  new_id : s'.lookupGUID new = some strGUID
  new_guid : s'.lookupDeviceID strGUID = some new
  old_gone : s'.lookupGUID old = none
  object : ∃ obj, s'.lookupDeviceByGUID strGUID = some obj ∧ obj.m_strDeviceID = new
  ids_other : ∀ id, id ≠ old → id ≠ new → s'.m_DeviceIDMap.lookup id = s.m_DeviceIDMap.lookup id
  guids_other : ∀ x, x ≠ strGUID → x ≠ [] → s'.m_GUIDMap.lookup x = s.m_GUIDMap.lookup x

/-- What `replaceInfo` does to the ID tables. -/
def changeFor (strDeviceID key : CStr) (eGBDevType : GBDevice_T) : KeyChange CStr :=
  if E.DEVICE = eGBDevType ∨ E.CAMERA = eGBDevType then
    if key.length ≠ 20 then .stay else .move key strDeviceID
  else if E.ALARM = eGBDevType then .touch key
  else .stay

/-- The ID and the type of a stored device. -/
def CDataStore.identity (s : CDataStore) (strGUID : CStr) : Option (CStr × GBDevice_T) :=
  (s.lookupDeviceByGUID strGUID).map fun obj => (obj.m_strDeviceID, obj.m_eGBDevType)

/-- What the turn for `strGUID` does to the ID tables: nothing unless the device is stored and its
ID is another one than in the configuration. -/
def changeOf (s : CDataStore) (strDeviceIDMap : Map CStr CStr) (strGUID : CStr) : KeyChange CStr :=
  match s.identity strGUID with
  | none => .stay
  | some (oldstrDeviceID, eGBDevType) =>
    let strDeviceID := strDeviceIDMap.index strGUID []
    if oldstrDeviceID = stringCpy_s 260 strDeviceID then .stay
    else changeFor E strDeviceID (oldKey strGUID oldstrDeviceID) eGBDevType

end Update

/-! ## Objects and tables -/

namespace CDataStore

theorem identity_addDeviceObjectByGUID {pszGUID : CStr} (hne : pszGUID ≠ []) (obj : DeviceObject)
    (s : CDataStore) (x : CStr) :
    (s.addDeviceObjectByGUID pszGUID obj).identity x =
      if x = pszGUID then some (obj.m_strDeviceID, obj.m_eGBDevType) else s.identity x := by
  unfold identity lookupDeviceByGUID addDeviceObjectByGUID
  dsimp only
  rw [Map.lookup_insert_ite]
  by_cases hx : x = pszGUID
  · rw [if_pos hx, if_pos hx, if_neg (hx ▸ hne)]
    rfl
  · rw [if_neg hx, if_neg hx]

theorem identity_insert {s : CDataStore} {pszGUID : CStr} {obj obj' : DeviceObject}
    (h : s.m_ObjectMap.lookup pszGUID = some obj) (hid : obj'.m_strDeviceID = obj.m_strDeviceID)
    (htype : obj'.m_eGBDevType = obj.m_eGBDevType) :
    identity { s with m_ObjectMap := s.m_ObjectMap.insert pszGUID obj' } = s.identity := by
  funext x
  unfold identity lookupDeviceByGUID
  dsimp only
  rw [Map.lookup_insert_ite]
  by_cases hx : x = pszGUID
  · rw [if_pos hx, hx, h]
    split
    · rfl
    · rw [Option.map_some, Option.map_some, hid, htype]
  · rw [if_neg hx]

theorem identity_setDeviceAlarmStatus (pszGUID : CStr) (alarminfo : DeviceAlarmInfo)
    (s : CDataStore) : (s.setDeviceAlarmStatus pszGUID alarminfo).identity = s.identity := by
  unfold setDeviceAlarmStatus
  split
  · rfl
  · rename_i h
    exact identity_insert h rfl rfl

theorem identity_removeDeviceAlarmStatus (pszGUID : CStr) (s : CDataStore) :
    (s.removeDeviceAlarmStatus pszGUID).identity = s.identity := by
  unfold removeDeviceAlarmStatus
  split
  · rfl
  · rename_i h
    exact identity_insert h rfl rfl

theorem identity_removeDevice (pszDeviceID : CStr) (s : CDataStore) :
    (s.removeDevice pszDeviceID).identity = s.identity := by
  unfold removeDevice
  split
  · rfl
  · rfl

theorem tables_of_setDeviceAlarmStatus (pszGUID : CStr) (alarminfo : DeviceAlarmInfo)
    (s : CDataStore) : (s.setDeviceAlarmStatus pszGUID alarminfo).tables = s.tables := by
  obtain ⟨hids, hguids⟩ := tables_setDeviceAlarmStatus pszGUID alarminfo s
  rw [tables, hids, hguids, tables]

theorem tables_removeDeviceAlarmStatus (pszGUID : CStr) (s : CDataStore) :
    (s.removeDeviceAlarmStatus pszGUID).tables = s.tables := by
  unfold removeDeviceAlarmStatus
  split
  · rfl
  · rfl

theorem tables_move {s : CDataStore} {key g : CStr} (v : CStr) (h : s.lookupGUID key = some g) :
    ((s.removeDevice key).addDeviceID v g).tables = (KeyChange.move key v).apply [] s.tables := by
  have hkey : s.m_DeviceIDMap.lookup key = some g := by
    rw [lookupGUID] at h
    split at h
    · cases h
    · exact h
  rw [apply_move_of_some [] v hkey]
  unfold addDeviceID tables
  dsimp only
  rw [m_DeviceIDMap_removeDevice, m_GUIDMap_removeDevice]

end CDataStore

/-! ## One device -/

section Turn

variable {Link : Type} {E : GBDeviceNames} {m : LinkedDevices Link}

theorem identity_replaceInfo (strGUID strDeviceID key : CStr) (eGBDevType : GBDevice_T)
    (m : LinkedDevices Link) :
    (replaceInfo E strGUID strDeviceID key eGBDevType m).store.identity = m.store.identity := by
  unfold replaceInfo
  dsimp only
  split
  · split
    · rfl
    · exact CDataStore.identity_removeDevice key m.store
  · split
    · split
      · rfl
      · split
        · exact (CDataStore.identity_setDeviceAlarmStatus _ _ _).trans
            (CDataStore.identity_removeDeviceAlarmStatus _ _)
        · exact (CDataStore.identity_setDeviceAlarmStatus _ _ _).trans
            (CDataStore.identity_removeDeviceAlarmStatus _ _)
    · split
      · split
        · rfl
        · split
          · rfl
          · rfl
      · rfl

theorem tables_replaceInfo (strGUID strDeviceID key : CStr) (eGBDevType : GBDevice_T)
    (m : LinkedDevices Link) :
    (replaceInfo E strGUID strDeviceID key eGBDevType m).store.tables =
      (changeFor E strDeviceID key eGBDevType).apply [] m.store.tables := by
  unfold replaceInfo changeFor
  dsimp only
  split
  · split
    · rename_i hnone
      rw [CDataStore.lookupGUID] at hnone
      split
      · rfl
      · rename_i hlen
        rw [if_neg hlen] at hnone
        exact (apply_move_of_none [] strDeviceID hnone).symm
    · rename_i g hg
      have hlen : ¬ key.length ≠ 20 := by
        intro hlen
        rw [CDataStore.lookupGUID, if_pos hlen] at hg
        cases hg
      rw [if_neg hlen]
      exact CDataStore.tables_move strDeviceID hg
  · split
    · split
      · rfl
      · split
        · exact (CDataStore.tables_of_setDeviceAlarmStatus _ _ _).trans
            (CDataStore.tables_removeDeviceAlarmStatus _ _)
        · exact (CDataStore.tables_of_setDeviceAlarmStatus _ _ _).trans
            (CDataStore.tables_removeDeviceAlarmStatus _ _)
    · split
      · split
        · rfl
        · split
          · rfl
          · rfl
      · rfl

theorem ne_nil_of_lookup {s : CDataStore} {x : CStr} {obj : DeviceObject}
    (h : s.lookupDeviceByGUID x = some obj) : x ≠ [] := by
  rintro rfl
  cases h

/-- The object of the device has the ID of the configuration, and the others are as they were. -/
theorem identity_updateEntry (strGUID strDeviceID x : CStr) (m : LinkedDevices Link) :
    (updateEntry E strGUID strDeviceID m).store.identity x =
      if x = strGUID then (m.store.identity x).map fun p => (strDeviceID, p.2)
      else m.store.identity x := by
  unfold updateEntry
  split
  · rename_i hnone
    split
    · rename_i hx
      rw [CDataStore.identity, hx, hnone]
      rfl
    · rfl
  · rename_i obj hobj
    have hadd := CDataStore.identity_addDeviceObjectByGUID (ne_nil_of_lookup hobj)
      { obj with m_strDeviceID := strDeviceID } m.store x
    have hsame : (if x = strGUID then some (strDeviceID, obj.m_eGBDevType)
        else m.store.identity x) =
          if x = strGUID then (m.store.identity x).map fun p => (strDeviceID, p.2)
          else m.store.identity x := by
      split
      · rename_i hx
        rw [CDataStore.identity, hx, hobj]
        rfl
      · rfl
    dsimp only
    split
    · exact hadd.trans hsame
    · rw [identity_replaceInfo]
      exact hadd.trans hsame

theorem tables_updateEntry (strDeviceIDMap : Map CStr CStr) (strGUID : CStr)
    (m : LinkedDevices Link) :
    (updateEntry E strGUID (strDeviceIDMap.index strGUID []) m).store.tables =
      (changeOf E m.store strDeviceIDMap strGUID).apply [] m.store.tables := by
  unfold updateEntry changeOf CDataStore.identity
  cases hobj : m.store.lookupDeviceByGUID strGUID with
  | none => rfl
  | some obj =>
    dsimp only [Option.map_some]
    split
    · rfl
    · exact tables_replaceInfo _ _ _ _ _

/-! ## All of them -/

theorem tables_updateEntries {s : CDataStore} (strDeviceIDMap : Map CStr CStr)
    {order : List CStr} (hnodup : order.Nodup) (m : LinkedDevices Link)
    (hsame : ∀ x ∈ order, m.store.identity x = s.identity x) :
    (updateEntries E strDeviceIDMap order m).store.tables =
      applyAll [] (changeOf E s strDeviceIDMap) order m.store.tables := by
  induction order generalizing m with
  | nil => rfl
  | cons x order ih =>
    obtain ⟨hx, horder⟩ := List.nodup_cons.mp hnodup
    obtain ⟨hsamex, hsame⟩ := List.forall_mem_cons.mp hsame
    have hchange : changeOf E m.store strDeviceIDMap x = changeOf E s strDeviceIDMap x := by
      unfold changeOf
      rw [hsamex]
    refine (ih horder _ fun y hy => ?_).trans ?_
    · -- the devices behind are as they were
      have hne : y ≠ x := fun he => hx (he ▸ hy)
      rw [identity_updateEntry, if_neg hne]
      exact hsame y hy
    · rw [tables_updateEntry, hchange]
      rfl

theorem identity_updateEntries (strDeviceIDMap : Map CStr CStr) {order : List CStr}
    (hnodup : order.Nodup) (m : LinkedDevices Link) (x : CStr) :
    (updateEntries E strDeviceIDMap order m).store.identity x =
      if x ∈ order then (m.store.identity x).map fun p => (strDeviceIDMap.index x [], p.2)
      else m.store.identity x := by
  induction order generalizing m with
  | nil => exact (if_neg List.not_mem_nil).symm
  | cons y order ih =>
    obtain ⟨hy, horder⟩ := List.nodup_cons.mp hnodup
    refine (ih horder _).trans ?_
    rw [identity_updateEntry]
    by_cases hxy : x = y
    · subst hxy
      simp [hy]
    · simp [hxy]

end Turn

/-! ## Every order -/

section EveryOrder

variable {Link : Type} {E : GBDeviceNames} {ids : Map CStr CStr} {m : LinkedDevices Link}
  {strGUID old new : CStr}

theorem renamed_iff_moved {s s' : CDataStore} (hlen : new.length = 20) :
    Renamed s s' strGUID old new ↔
      Moved (fun id => id.length = 20) [] strGUID old new s.tables s'.tables ∧
        ∃ p, s'.identity strGUID = some p ∧ p.1 = new := by
  have hnew : s'.lookupGUID new = s'.m_DeviceIDMap.lookup new := by
    rw [CDataStore.lookupGUID, if_neg (not_not.mpr hlen)]
  have hold : s'.lookupGUID old = none ↔
      (old.length = 20 → s'.m_DeviceIDMap.lookup old = none) := by
    rw [CDataStore.lookupGUID]
    split
    · rename_i hne
      exact iff_of_true rfl fun he => absurd he hne
    · rename_i he
      exact ⟨fun hnone _ => hnone, fun hnone => hnone (not_not.mp he)⟩
  have hobject : (∃ obj, s'.lookupDeviceByGUID strGUID = some obj ∧ obj.m_strDeviceID = new) ↔
      ∃ p, s'.identity strGUID = some p ∧ p.1 = new := by
    rw [CDataStore.identity]
    cases s'.lookupDeviceByGUID strGUID with
    | none => simp
    | some obj => simp
  constructor
  · intro h
    exact ⟨⟨hnew.symm.trans h.new_id, h.new_guid, hold.mp h.old_gone, h.ids_other,
      h.guids_other⟩, hobject.mp h.object⟩
  · rintro ⟨h, hobj⟩
    exact ⟨hnew.trans h.new_fwd, h.new_bwd, hold.mpr h.old_fwd, hobject.mpr hobj, h.fwd_other,
      h.bwd_other⟩

theorem length_of_changeOf {s : CDataStore} {x k v : CStr}
    (h : changeOf E s ids x = .move k v) : k.length = 20 := by
  unfold changeOf at h
  split at h
  · cases h
  · dsimp only at h
    split at h
    · cases h
    · unfold changeFor at h
      split at h
      · split at h
        · cases h
        · rename_i hlen
          injection h with hk
          exact hk ▸ not_not.mp hlen
      · split at h
        · cases h
        · cases h

theorem enumerates_iff (order : List CStr) :
    Enumerates ids order ↔ order.Perm ids.keys.toList := by
  constructor
  · intro h
    refine (List.perm_ext_iff_of_nodup h.nodup ids.keys.nodup_toList).mpr fun x => ?_
    rw [h.mem_iff, Finset.mem_toList, Finmap.mem_keys]
  · intro h
    refine ⟨h.nodup_iff.mpr ids.keys.nodup_toList, fun x => ?_⟩
    rw [h.mem_iff, Finset.mem_toList, Finmap.mem_keys]

theorem renamed_updateEntries_iff (hinv : m.store.Inverse) {obj : DeviceObject}
    (hobj : m.store.lookupDeviceByGUID strGUID = some obj) (hlen : new.length = 20)
    (hfree : m.store.lookupGUID new = none) (hmem : strGUID ∈ ids) :
    (∀ order, Enumerates ids order →
        Renamed m.store (updateEntries E ids order m).store strGUID old new) ↔
      ids.lookup strGUID = some new ∧
        MoveFits (fun id => id.length = 20) strGUID old new m.store.tables
          (changeOf E m.store ids) (· ∈ ids) := by
  have hnew : m.store.tables.fwd.lookup new = none := by
    rw [CDataStore.lookupGUID, if_neg (not_not.mpr hlen)] at hfree
    exact hfree
  have hmoved := @moved_iff _ _ _ _ _ (fun id : CStr => id.length = 20) [] strGUID old new
    m.store.tables (changeOf E m.store ids) ids.keys.toList ((CDataStore.inverse_iff _).mp hinv)
    hlen hnew (ne_nil_of_lookup hobj) fun _ _ _ h => length_of_changeOf h
  simp only [Finset.mem_toList, Finmap.mem_keys, ← enumerates_iff] at hmoved
  -- the object has the ID of the configuration in every order
  have hturn : ∀ order, Enumerates ids order →
      (Renamed m.store (updateEntries E ids order m).store strGUID old new ↔
        ids.lookup strGUID = some new ∧
          Moved (fun id => id.length = 20) [] strGUID old new m.store.tables
            (applyAll [] (changeOf E m.store ids) order m.store.tables)) := by
    intro order horder
    have hid : (∃ p, (updateEntries E ids order m).store.identity strGUID = some p ∧ p.1 = new) ↔
        ids.lookup strGUID = some new := by
      obtain ⟨v, hv⟩ := Finmap.mem_iff.mp hmem
      rw [identity_updateEntries ids horder.nodup, if_pos ((horder.mem_iff _).mpr hmem),
        CDataStore.identity, hobj, Map.index_of_lookup hv, hv]
      simp
    rw [renamed_iff_moved hlen, tables_updateEntries ids horder.nodup m fun _ _ => rfl, hid,
      and_comm]
  rw [← hmoved]
  constructor
  · intro h
    obtain ⟨order, horder⟩ : ∃ order, Enumerates ids order :=
      ⟨ids.keys.toList, (enumerates_iff _).mpr (List.Perm.refl _)⟩
    exact ⟨((hturn order horder).mp (h order horder)).1,
      fun order horder => ((hturn order horder).mp (h order horder)).2⟩
  · rintro ⟨hid, h⟩ order horder
    exact (hturn order horder).mpr ⟨hid, h order horder⟩

end EveryOrder

theorem mem_channelIDs (conf : Profile) (strConfigName strDeviceType strDeviceID x : CStr)
    (js : List Nat) (ids : Map CStr CStr) (h : x ∈ ids) :
    x ∈ channelIDs conf strConfigName strDeviceType strDeviceID js ids := by
  induction js generalizing ids with
  | nil => exact h
  | cons j js ih =>
    unfold channelIDs
    dsimp only
    split
    · exact h
    · split
      · exact ih _ (Finmap.mem_insert.mpr (Or.inr h))
      · exact ih _ (Finmap.mem_insert.mpr (Or.inr h))

theorem mem_deviceIDMap (conf : Profile) (strDevConfDir pszGUID : CStr) :
    pszGUID ∈ deviceIDMap conf strDevConfDir pszGUID :=
  mem_channelIDs _ _ _ _ _ _ _ (Finmap.mem_insert.mpr (Or.inl rfl))

/-- **A stored device whose configuration has a free ID is found under it, and no other device has
moved, whatever the order of the map**, exactly when the turn of a device moves its old ID to the
new one and the others change no table. -/
theorem renamed_iff {Link : Type} (E : GBDeviceNames) (conf : Profile) (strDevConfDir : CStr)
    (m : LinkedDevices Link) (pszGUID : CStr) (obj : DeviceObject) (hinv : m.store.Inverse)
    (hobj : m.store.lookupDeviceByGUID pszGUID = some obj)
    (hlen : (configuredID conf strDevConfDir pszGUID).length = 20)
    (hfree : m.store.lookupGUID (configuredID conf strDevConfDir pszGUID) = none) :
    (∀ order, Enumerates (deviceIDMap conf strDevConfDir pszGUID) order →
        Renamed m.store (updateGBDeviceIDByGUID E conf strDevConfDir order pszGUID m).store pszGUID
          obj.m_strDeviceID (configuredID conf strDevConfDir pszGUID)) ↔
      (deviceIDMap conf strDevConfDir pszGUID).lookup pszGUID =
          some (configuredID conf strDevConfDir pszGUID) ∧
        MoveFits (fun id => id.length = 20) pszGUID obj.m_strDeviceID
          (configuredID conf strDevConfDir pszGUID) m.store.tables
          (changeOf E m.store (deviceIDMap conf strDevConfDir pszGUID))
          (· ∈ deviceIDMap conf strDevConfDir pszGUID) :=
  renamed_updateEntries_iff hinv hobj hlen hfree (mem_deviceIDMap _ _ _)

/-! ## A camera and an alarm device -/

/-- The device `{a}` of the type, with an ID. -/
def sampleDevice (eGBDevType : GBDevice_T) : DeviceObject where
  m_strDeviceID := str "34020000001320000001"
  m_eGBDevType := eGBDevType

def sampleStore (eGBDevType : GBDevice_T) : LinkedDevices Unit where
  store :=
    (({} : CDataStore).addDeviceObjectByGUID (str "{a}") (sampleDevice eGBDevType)).addDeviceID
      (str "34020000001320000001") (str "{a}")
  m_oDecoderMap := ∅

/-- Its configuration has another ID and no channels. -/
def sampleConf : Profile := fun lpFileName lpAppName lpKeyName =>
  if lpFileName = str "conf\\{a}" ∧ lpAppName = str "CATALOG" ∧ lpKeyName = str "DeviceID" then
    some (str "34020000001320000002")
  else none

theorem sampleStore_inverse (eGBDevType : GBDevice_T) : (sampleStore eGBDevType).store.Inverse := by
  have hempty : (({} : CDataStore).addDeviceObjectByGUID (str "{a}")
      (sampleDevice eGBDevType)).Inverse :=
    (CDataStore.inverse_of_tables rfl rfl).mpr CDataStore.inverse_empty
  refine (CDataStore.inverse_add_iff hempty _ _).mpr ⟨fun g hg => ?_, fun id _ hid => ?_⟩
  · cases hg
  · cases hid

theorem sampleStore_lookup (eGBDevType : GBDevice_T) :
    (sampleStore eGBDevType).store.lookupDeviceByGUID (str "{a}") =
      some (sampleDevice eGBDevType) := rfl

theorem mem_sampleIDs (x : CStr) :
    x ∈ deviceIDMap sampleConf (str "conf") (str "{a}") ↔ x = str "{a}" := by
  have hids : deviceIDMap sampleConf (str "conf") (str "{a}") =
      (∅ : Map CStr CStr).insert (str "{a}") (str "34020000001320000002") := rfl
  rw [hids, Finmap.mem_insert]
  simp [Finmap.notMem_empty]

theorem sample_enumerates :
    Enumerates (deviceIDMap sampleConf (str "conf") (str "{a}")) [str "{a}"] :=
  ⟨List.nodup_singleton _, fun x => by rw [mem_sampleIDs, List.mem_singleton]⟩

/-- The camera. -/
theorem renamed_camera :
    Renamed (sampleStore sampleNames.CAMERA).store
      (updateGBDeviceIDByGUID sampleNames sampleConf (str "conf") [str "{a}"] (str "{a}")
        (sampleStore sampleNames.CAMERA)).store (str "{a}") (str "34020000001320000001")
      (str "34020000001320000002") :=
  (renamed_iff sampleNames sampleConf (str "conf") (sampleStore sampleNames.CAMERA) (str "{a}")
    (sampleDevice sampleNames.CAMERA) (sampleStore_inverse _) (sampleStore_lookup _) (by decide)
    (by decide)).mpr
    ⟨by decide, by decide, by decide, ⟨str "{a}", (mem_sampleIDs _).mpr rfl, by decide⟩,
      fun x hx => by
        rw [(mem_sampleIDs x).mp hx]
        exact Or.inr (Or.inl ⟨by decide, by decide⟩)⟩
    [str "{a}"] sample_enumerates

/-- An alarm device keeps its old ID in the tables. -/
theorem renamed_alarm :
    ¬ ∀ (E : GBDeviceNames) (conf : Profile) (strDevConfDir : CStr) (m : LinkedDevices Unit)
      (pszGUID : CStr) (obj : DeviceObject), m.store.Inverse →
      m.store.lookupDeviceByGUID pszGUID = some obj →
      (configuredID conf strDevConfDir pszGUID).length = 20 →
      m.store.lookupGUID (configuredID conf strDevConfDir pszGUID) = none →
      ∀ order, Enumerates (deviceIDMap conf strDevConfDir pszGUID) order →
        Renamed m.store (updateGBDeviceIDByGUID E conf strDevConfDir order pszGUID m).store pszGUID
          obj.m_strDeviceID (configuredID conf strDevConfDir pszGUID) := by
  intro h
  have hgone := (h sampleNames sampleConf (str "conf") (sampleStore sampleNames.ALARM) (str "{a}")
    (sampleDevice sampleNames.ALARM) (sampleStore_inverse _) (sampleStore_lookup _) (by decide)
    (by decide) [str "{a}"] sample_enumerates).old_gone
  revert hgone
  decide

end GB28181.Platform
