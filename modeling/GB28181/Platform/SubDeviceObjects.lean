import GB28181.Platform.InitDeviceInfo

/-!
# The objects of sub-devices (`CDevInfo::InitSigleDeviceInfo`)

The loop over the sub-devices fills the description of the sub-device and stores the object of the
**parent** under the GUID of the sub-device.

* `initSigleDeviceInfo` — the function for objects that share descriptions;
* `views_initSigleDeviceInfo` — a device without sub-devices is read in as in `InitDeviceInfo`, if
  no other object has its description;
* `ownObjects_iff` — the objects are their own **exactly when** no section of a sub-device can be
  read, but for one under the GUID and with the ID of the device itself.
-/

set_option autoImplicit false

namespace GB28181.Platform.SubDeviceObjects

open GB28181.Base

/-! ## The function -/

namespace State

variable (s : State)

/-- The description of the object that is stored under a GUID. -/
def descriptionOf (pszGUID : CStr) : Option GBDevInfoDescribe :=
  (s.m_ObjectMap.lookup pszGUID).map fun obj => (obj.view s.heap).getGBDescription

structure Views (d : DeviceCatalogs) : Prop where
  object : ∀ g, d.store.m_ObjectMap.lookup g = (s.m_ObjectMap.lookup g).map fun obj =>
    obj.view s.heap
  list : d.m_CatalogCollections = s.m_CatalogCollections
  decoders : d.g_decoderCatalogInfo = s.g_decoderCatalogInfo

end State

def initSigleDeviceInfo (c : InitConfig) (strGuid : CStr) (pChangeList : Option (List ChangInfo))
    (pDeviceObject : Option SharedObject) (s : State) : Int × Option (List ChangInfo) × State :=
  let strGuid := withBraces strGuid
  match pDeviceObject <|> s.lookupDeviceByGUID strGuid with
  | none => (-1, pChangeList, s)
  | some husDevObject =>
    let (pGBDevdes, husDevObject, heap) := husDevObject.getGBDescription s.heap
    let strFileAllName := c.fileOf strGuid
    let (nRet, pCatalog) := c.catalogOf strGuid (husDevObject.view heap)
    let pChangeList := pChangeList.map fun changes => changes ++ listChange nRet pCatalog
    let des := initDescription strGuid pCatalog (husDevObject.view heap)
    let s : State :=
      { heap := heap.set pGBDevdes des
        m_ObjectMap := s.m_ObjectMap.insert strGuid husDevObject
        m_CatalogCollections :=
          s.m_CatalogCollections.addCatalog husDevObject.object.m_strDeviceID des.m_devCatalog
        g_decoderCatalogInfo :=
          if des.m_devInfo.m_strDeviceType = str "decoder" then
            setDecoderCatalog des.m_devCatalog s.g_decoderCatalogInfo
          else s.g_decoderCatalogInfo }
    if husDevObject.object.oSubStrGUIDSecNameMap.length > 0 then
      let s := { s with
        heap := s.heap.modify pGBDevdes fun des => { des with m_CatalogCollections := ∅ } }
      let parentID := des.m_devCatalog.m_strDeviceID
      (0, pChangeList, (husDevObject.object.oSubStrGUIDSecNameMap.foldl
        (subDeviceTurn c strFileAllName parentID husDevObject pGBDevdes) { state := s }).state)
    else (0, pChangeList, s)

/-! ## What the objects should be -/

/-- The entry is as read from its section, with this parent; the name is set anew. -/
structure EntryOf (c : InitConfig) (strFileAllName parentID strSection : CStr)
    (entry : CatalogEntry) : Prop where
  id : entry.m_strDeviceID = fileID c.conf strFileAllName strSection
  parent : entry.m_strParentID = parentID
  read : ∀ field ∈ comparedFields.tail,
    field entry = field (readCatalog c.conf strFileAllName strSection .empty).2

/-- The device ID of a device, once its file is read. -/
def ownID (c : InitConfig) (strGuid : CStr) (husDevObject : SharedObject) (s : State) : CStr :=
  c.idOf strGuid (husDevObject.view s.heap).getGBDescription.m_devCatalog.m_strDeviceID

/-- **The objects of the sub-devices are their own.** -/
structure OwnObjects (c : InitConfig) (strGuid parentID : CStr) (items : List (CStr × CStr))
    (s : State) : Prop where
  /-- what is stored under the GUID of a sub-device that could be read -/
  sub : ∀ item ∈ items, ReadableID (fileID c.conf (c.fileOf strGuid) item.2) →
    ∃ des, s.descriptionOf item.1 = some des ∧
      des.m_strDeviceID = fileID c.conf (c.fileOf strGuid) item.2 ∧ des.m_strGUID = item.1 ∧
      EntryOf c (c.fileOf strGuid) parentID item.2 des.m_devCatalog
  /-- its entry in the list -/
  listed : ∀ item ∈ items, ReadableID (fileID c.conf (c.fileOf strGuid) item.2) →
    ∃ entry, s.m_CatalogCollections.lookup (fileID c.conf (c.fileOf strGuid) item.2) =
      some entry ∧ EntryOf c (c.fileOf strGuid) parentID item.2 entry
  /-- what is stored under the GUID of the device -/
  parent : ∃ des, s.descriptionOf strGuid = some des ∧ des.m_strDeviceID = parentID ∧
    des.m_strGUID = strGuid ∧ des.m_devCatalog.m_strDeviceID = parentID

/-! ## A turn -/

section turn

variable {c : InitConfig} {strFileAllName parentID : CStr} {husDevObject : SharedObject}
  {pGBDevdes : Nat} {l : Loop} {item : CStr × CStr}

theorem readCatalog_fields {conf : Profile} {strFileName strSection : CStr}
    (h : ReadableID (fileID conf strFileName strSection)) (before : CatalogEntry) :
    ∀ field ∈ comparedFields, field (readCatalog conf strFileName strSection before).2 =
      field (readCatalog conf strFileName strSection .empty).2 := by
  rw [fileID] at h
  unfold readCatalog
  dsimp only
  rw [if_neg (not_not.mpr h), if_neg (not_not.mpr h)]
  simp [comparedFields]

theorem entryOf_of_read {strSection : CStr} {entry : CatalogEntry}
    (hid : entry.m_strDeviceID = fileID c.conf strFileAllName strSection)
    (hread : ∀ field ∈ comparedFields,
      field entry = field (readCatalog c.conf strFileAllName strSection .empty).2)
    (parental status name : CStr) :
    EntryOf c strFileAllName parentID strSection { entry with
      m_strParentID := parentID
      m_strParental := parental
      m_strStatus := status
      m_strName := name } := by
  refine ⟨hid, rfl, fun field hfield => ?_⟩
  rw [← hread field (List.mem_of_mem_tail hfield)]
  revert field
  simp [comparedFields]

theorem EntryOf.setName {strSection namestr : CStr} {entry : CatalogEntry}
    (h : EntryOf c strFileAllName parentID strSection entry) (v a : Nat) :
    EntryOf c strFileAllName parentID strSection (setName c namestr v a entry).1 := by
  have hnamed : ∀ name, EntryOf c strFileAllName parentID strSection
      { entry with m_strName := name } := by
    intro name
    refine ⟨h.id, h.parent, fun field hfield => ?_⟩
    rw [← h.read field hfield]
    revert field
    simp [comparedFields]
  unfold SubDeviceObjects.setName
  dsimp only
  split
  · split
    · exact hnamed _
    · split
      · exact hnamed _
      · exact hnamed _
  · exact h

structure SameButType (des des' : GBDevInfoDescribe) : Prop where
  id : des'.m_strDeviceID = des.m_strDeviceID
  guid : des'.m_strGUID = des.m_strGUID
  entry : des'.m_devCatalog = { des.m_devCatalog with
    eGBDeviceType := des'.m_devCatalog.eGBDeviceType }

theorem SameButType.refl (des : GBDevInfoDescribe) : SameButType des des := ⟨rfl, rfl, rfl⟩

theorem SameButType.trans {a b d : GBDevInfoDescribe} (h : SameButType a b)
    (h' : SameButType b d) : SameButType a d := by
  refine ⟨h'.id.trans h.id, h'.guid.trans h.guid, h'.entry.trans ?_⟩
  rw [h.entry]

theorem SameButType.entryOf {des des' : GBDevInfoDescribe} (h : SameButType des des')
    {strSection : CStr} (hentry : EntryOf c strFileAllName parentID strSection des.m_devCatalog) :
    EntryOf c strFileAllName parentID strSection des'.m_devCatalog := by
  rw [h.entry]
  refine ⟨hentry.id, hentry.parent, fun field hfield => ?_⟩
  rw [← hentry.read field hfield]
  have hsame := (comparedFields_apply des.m_devCatalog des.m_devCatalog.m_strGUID [] []
    des'.m_devCatalog.eGBDeviceType field (List.mem_of_mem_tail hfield)).1
  exact hsame

theorem subDeviceTurn_unreadable (h : ¬ ReadableID (fileID c.conf strFileAllName item.2)) :
    (subDeviceTurn c strFileAllName parentID husDevObject pGBDevdes l item).state.m_ObjectMap =
        l.state.m_ObjectMap ∧
      (subDeviceTurn c strFileAllName parentID husDevObject pGBDevdes l
        item).state.m_CatalogCollections = l.state.m_CatalogCollections ∧
      ∀ p, SameButType (l.state.heap.get p)
        ((subDeviceTurn c strFileAllName parentID husDevObject pGBDevdes l item).state.heap.get
          p) := by
  unfold subDeviceTurn
  dsimp only
  rw [readCatalog_unreadable _ _ _ _ h]
  refine ⟨rfl, rfl, fun p => ?_⟩
  dsimp only
  rw [if_pos (by decide), Cells.get_put]
  split
  · rename_i hp
    unfold SharedObject.view DeviceObject.getGBDescription
    rw [hp]
    exact ⟨rfl, rfl, rfl⟩
  · exact .refl _

/-- **A section that is read**: the object of the parent goes under the GUID, and the description
of the sub-device, if it is that of the parent, gets the GUID and the entry. -/
theorem subDeviceTurn_readable (h : ReadableID (fileID c.conf strFileAllName item.2)) :
    ∃ entry heap videoChannel alarmChannel,
      subDeviceTurn c strFileAllName parentID husDevObject pGBDevdes l item =
        ⟨videoChannel, alarmChannel, { l.state with
          heap := heap
          m_ObjectMap := l.state.m_ObjectMap.insert item.1 husDevObject
          m_CatalogCollections :=
            l.state.m_CatalogCollections.addCatalog entry.m_strDeviceID entry }⟩ ∧
      EntryOf c strFileAllName parentID item.2 entry ∧
      (((l.state.lookupDeviceByGUID item.1).getD .new).p_GBDevDesInfo = some pGBDevdes →
        (heap.get pGBDevdes).m_strDeviceID = entry.m_strDeviceID ∧
          (heap.get pGBDevdes).m_strGUID = item.1 ∧
          (heap.get pGBDevdes).m_devCatalog = entry) := by
  unfold subDeviceTurn
  dsimp only
  generalize (l.state.lookupDeviceByGUID item.1).getD .new = subhusobject
  generalize (subhusobject.view l.state.heap).getGBDescription = des
  obtain ⟨after, hread, hid⟩ := readCatalog_readable c.conf strFileAllName item.2
    { des.m_devCatalog with eGBDeviceType := subhusobject.object.m_eGBDevType } h
  have hfields := readCatalog_fields h
    { des.m_devCatalog with eGBDeviceType := subhusobject.object.m_eGBDevType }
  rw [hread] at hfields ⊢
  have hret : ¬ ((changeCode { des.m_devCatalog with
      eGBDeviceType := subhusobject.object.m_eGBDevType } after : Nat) : Int) < 0 :=
    Int.not_lt.mpr (Int.natCast_nonneg _)
  dsimp only
  rw [if_neg hret]
  refine ⟨_, _, _, _, rfl, (entryOf_of_read hid hfields _ _ _).setName _ _, fun hshared => ?_⟩
  rw [hshared, Cells.get_modify_self, Cells.put, Cells.get_set_self]
  exact ⟨rfl, rfl, rfl⟩

end turn

theorem ne_nil_of_readable {szInfo : CStr} (h : ReadableID szInfo) : szInfo ≠ [] := by
  rintro rfl
  exact h (.inl rfl)

theorem lookup_addCatalog {m : CatalogMap} {id : CStr} (hne : id ≠ []) (entry : CatalogEntry) :
    (m.addCatalog id entry).lookup id = some entry := by
  have hlen : ¬ id.length = 0 := fun h => hne (List.length_eq_zero_iff.mp h)
  rw [CatalogMap.addCatalog, if_neg hlen]
  exact Finmap.lookup_insert _

/-! ## All turns -/

section run

variable {c : InitConfig} {strFileAllName parentID : CStr} {husDevObject : SharedObject}
  {pGBDevdes : Nat} {l : Loop} {item : CStr × CStr} {items : List (CStr × CStr)} {g : CStr}

abbrev run (c : InitConfig) (strFileAllName parentID : CStr) (husDevObject : SharedObject)
    (pGBDevdes : Nat) (items : List (CStr × CStr)) (l : Loop) : Loop :=
  items.foldl (subDeviceTurn c strFileAllName parentID husDevObject pGBDevdes) l

theorem stored_subDeviceTurn (h : l.state.m_ObjectMap.lookup g = some husDevObject) :
    (subDeviceTurn c strFileAllName parentID husDevObject pGBDevdes l
      item).state.m_ObjectMap.lookup g = some husDevObject := by
  by_cases hread : ReadableID (fileID c.conf strFileAllName item.2)
  · obtain ⟨entry, heap, v, a, hturn, -, -⟩ := subDeviceTurn_readable hread
    rw [hturn]
    dsimp only
    rw [Map.lookup_insert_ite]
    split
    · rfl
    · exact h
  · rw [(subDeviceTurn_unreadable hread).1]
    exact h

theorem stored_run (h : l.state.m_ObjectMap.lookup g = some husDevObject) :
    (run c strFileAllName parentID husDevObject pGBDevdes items l).state.m_ObjectMap.lookup g =
      some husDevObject := by
  induction items generalizing l with
  | nil => exact h
  | cons item items ih => exact ih (stored_subDeviceTurn h)

/-- **Every sub-device that is read has the object of its parent.** -/
theorem stored_run_of_mem (hmem : item ∈ items)
    (hread : ReadableID (fileID c.conf strFileAllName item.2)) :
    (run c strFileAllName parentID husDevObject pGBDevdes items l).state.m_ObjectMap.lookup
      item.1 = some husDevObject := by
  obtain ⟨before, after, rfl⟩ := List.append_of_mem hmem
  obtain ⟨entry, heap, v, a, hturn, -, -⟩ := @subDeviceTurn_readable c strFileAllName parentID
    husDevObject pGBDevdes (run c strFileAllName parentID husDevObject pGBDevdes before l) item
    hread
  rw [run, List.foldl_append, List.foldl_cons]
  refine stored_run ?_
  rw [hturn]
  exact Finmap.lookup_insert _

theorem run_unreadable
    (h : ∀ item ∈ items, ¬ ReadableID (fileID c.conf strFileAllName item.2)) :
    (run c strFileAllName parentID husDevObject pGBDevdes items l).state.m_ObjectMap =
        l.state.m_ObjectMap ∧
      (run c strFileAllName parentID husDevObject pGBDevdes items l).state.m_CatalogCollections =
        l.state.m_CatalogCollections ∧
      ∀ p, SameButType (l.state.heap.get p)
        ((run c strFileAllName parentID husDevObject pGBDevdes items l).state.heap.get p) := by
  induction items generalizing l with
  | nil => exact ⟨rfl, rfl, fun p => .refl _⟩
  | cons item items ih =>
    obtain ⟨hitem, hrest⟩ := List.forall_mem_cons.mp h
    obtain ⟨hstore, hlist, hsame⟩ := @subDeviceTurn_unreadable c strFileAllName parentID
      husDevObject pGBDevdes l item hitem
    obtain ⟨hstore', hlist', hsame'⟩ := ih
      (l := subDeviceTurn c strFileAllName parentID husDevObject pGBDevdes l item) hrest
    exact ⟨hstore'.trans hstore, hlist'.trans hlist, fun p => (hsame p).trans (hsame' p)⟩

/-- **The device itself** among its sub-devices is read into its own description. -/
theorem run_itself (hp : husDevObject.p_GBDevDesInfo = some pGBDevdes)
    (hstored : l.state.m_ObjectMap.lookup g = some husDevObject) (hg : g ≠ [])
    (hnodup : (items.map Prod.fst).Nodup) (hmem : item ∈ items) (hitem : item.1 = g)
    (hread : ReadableID (fileID c.conf strFileAllName item.2))
    (hothers : ∀ x ∈ items, ReadableID (fileID c.conf strFileAllName x.2) → x.1 = g) :
    ∃ entry, EntryOf c strFileAllName parentID item.2 entry ∧
      (run c strFileAllName parentID husDevObject pGBDevdes items
        l).state.m_CatalogCollections.lookup (fileID c.conf strFileAllName item.2) = some entry ∧
      SameButType
        { m_devCatalog := entry
          m_strDeviceID := fileID c.conf strFileAllName item.2
          m_strGUID := g }
        ((run c strFileAllName parentID husDevObject pGBDevdes items l).state.heap.get
          pGBDevdes) := by
  subst hitem
  obtain ⟨before, after, rfl⟩ := List.append_of_mem hmem
  -- no other one is read, the keys being different
  rw [List.map_append, List.map_cons, List.nodup_middle, List.nodup_cons, List.mem_append,
    not_or] at hnodup
  obtain ⟨⟨hbefore, hafter⟩, -⟩ := hnodup
  have hnot : ∀ x ∈ before, ¬ ReadableID (fileID c.conf strFileAllName x.2) := fun x hx hreadx =>
    hbefore (hothers x (List.mem_append_left _ hx) hreadx ▸ List.mem_map_of_mem hx)
  have hnot' : ∀ x ∈ after, ¬ ReadableID (fileID c.conf strFileAllName x.2) := fun x hx hreadx =>
    hafter (hothers x (List.mem_append_right _ (List.mem_cons_of_mem _ hx)) hreadx ▸
      List.mem_map_of_mem hx)
  rw [run, List.foldl_append, List.foldl_cons]
  obtain ⟨hstore, -, -⟩ := @run_unreadable c strFileAllName parentID husDevObject pGBDevdes l
    before hnot
  obtain ⟨entry, heap, v, a, hturn, hentry, hshared⟩ := @subDeviceTurn_readable c strFileAllName
    parentID husDevObject pGBDevdes
    (run c strFileAllName parentID husDevObject pGBDevdes before l) item hread
  obtain ⟨-, hlist, hsame⟩ := @run_unreadable c strFileAllName parentID husDevObject pGBDevdes
    (subDeviceTurn c strFileAllName parentID husDevObject pGBDevdes
      (run c strFileAllName parentID husDevObject pGBDevdes before l) item) after hnot'
  have hlookup : ((run c strFileAllName parentID husDevObject pGBDevdes before
      l).state.lookupDeviceByGUID item.1).getD .new = husDevObject := by
    rw [State.lookupDeviceByGUID, if_neg hg, hstore, hstored]
    rfl
  obtain ⟨hid, hguid, hcatalog⟩ := hshared (by rw [hlookup]; exact hp)
  refine ⟨entry, hentry, ?_, ?_⟩
  · rw [hlist, hturn, ← hentry.id]
    exact lookup_addCatalog (hentry.id ▸ ne_nil_of_readable hread) entry
  · refine SameButType.trans ?_ (hsame pGBDevdes)
    rw [hturn]
    exact ⟨hid.trans hentry.id, hguid, by dsimp only; rw [hcatalog]⟩

end run

/-! ## The call -/

section call

variable {c : InitConfig} {strGuid : CStr} {pChangeList : Option (List ChangInfo)}
  {pDeviceObject : Option SharedObject} {s : State} {husDevObject : SharedObject}

theorem getGBDescription_spec (obj : SharedObject) (heap : DescriptionHeap) :
    (obj.getGBDescription heap).2.1.p_GBDevDesInfo = some (obj.getGBDescription heap).1 ∧
      (obj.getGBDescription heap).2.1.object = obj.object ∧
      ((obj.getGBDescription heap).2.1.view (obj.getGBDescription heap).2.2).getGBDescription =
        (obj.view heap).getGBDescription := by
  unfold SharedObject.getGBDescription
  rcases hp : obj.p_GBDevDesInfo with _ | p
  · refine ⟨rfl, rfl, ?_⟩
    unfold SharedObject.view DeviceObject.getGBDescription
    rw [hp]
    simp [Cells.alloc]
  · exact ⟨hp, rfl, rfl⟩

theorem descriptionOf_eq {obj : SharedObject} {p : Nat} {g : CStr}
    (hobj : s.m_ObjectMap.lookup g = some obj) (hp : obj.p_GBDevDesInfo = some p) :
    s.descriptionOf g = some (s.heap.get p) := by
  unfold State.descriptionOf SharedObject.view DeviceObject.getGBDescription
  rw [hobj, Option.map_some, hp]
  rfl

/-- **A device is read in**, and then its sub-devices. -/
theorem exists_run
    (hfound : (pDeviceObject <|> s.lookupDeviceByGUID (withBraces strGuid)) = some husDevObject) :
    ∃ obj p before, obj.p_GBDevDesInfo = some p ∧
      before.m_ObjectMap.lookup (withBraces strGuid) = some obj ∧
      (before.heap.get p).m_strDeviceID = ownID c (withBraces strGuid) husDevObject s ∧
      (before.heap.get p).m_strGUID = withBraces strGuid ∧
      (before.heap.get p).m_devCatalog.m_strDeviceID =
        ownID c (withBraces strGuid) husDevObject s ∧
      (initSigleDeviceInfo c strGuid pChangeList pDeviceObject s).2.2 =
        (run c (c.fileOf (withBraces strGuid)) (ownID c (withBraces strGuid) husDevObject s) obj p
          husDevObject.object.oSubStrGUIDSecNameMap { state := before }).state := by
  obtain ⟨hp, hobject, hview⟩ := getGBDescription_spec husDevObject s.heap
  unfold initSigleDeviceInfo
  dsimp only
  rw [hfound]
  dsimp only
  generalize hget : husDevObject.getGBDescription s.heap = got at hp hobject hview ⊢
  obtain ⟨p, obj, heap⟩ := got
  dsimp only at hp hobject hview ⊢
  obtain ⟨hid, hentry⟩ := id_initDescription (withBraces strGuid)
    (c.catalogOf (withBraces strGuid) (obj.view heap)).2 (obj.view heap)
  have hown : (c.catalogOf (withBraces strGuid) (obj.view heap)).2.m_strDeviceID =
      ownID c (withBraces strGuid) husDevObject s := by
    rw [id_catalogOf, hview]
    rfl
  rw [hown] at hid hentry
  rw [hobject, hentry]
  split
  · refine ⟨obj, p, _, hp, Finmap.lookup_insert _, ?_, ?_, ?_, rfl⟩
    · rw [Cells.get_modify_self, Cells.get_set_self]
      exact hid
    · rw [Cells.get_modify_self, Cells.get_set_self]
      rfl
    · rw [Cells.get_modify_self, Cells.get_set_self]
      exact hentry
  · rename_i hnone
    have hnil : husDevObject.object.oSubStrGUIDSecNameMap = [] :=
      List.eq_nil_of_length_eq_zero (Nat.eq_zero_of_not_pos hnone)
    refine ⟨obj, p, _, hp, Finmap.lookup_insert _, ?_, ?_, ?_, by rw [hnil]; rfl⟩
    · rw [Cells.get_set_self]
      exact hid
    · rw [Cells.get_set_self]
      rfl
    · rw [Cells.get_set_self]
      exact hentry

/-- The sub-devices that can be read are the device itself. -/
def OnlyItself (c : InitConfig) (strGuid parentID : CStr) (items : List (CStr × CStr)) : Prop :=
  ∀ item ∈ items, ReadableID (fileID c.conf (c.fileOf strGuid) item.2) →
    item.1 = strGuid ∧ fileID c.conf (c.fileOf strGuid) item.2 = parentID

/-- **One object under both GUIDs** is not that of two devices. -/
theorem onlyItself_of_ownObjects
    (hfound : (pDeviceObject <|> s.lookupDeviceByGUID (withBraces strGuid)) = some husDevObject)
    (h : OwnObjects c (withBraces strGuid) (ownID c (withBraces strGuid) husDevObject s)
      husDevObject.object.oSubStrGUIDSecNameMap
      (initSigleDeviceInfo c strGuid pChangeList pDeviceObject s).2.2) :
    OnlyItself c (withBraces strGuid) (ownID c (withBraces strGuid) husDevObject s)
      husDevObject.object.oSubStrGUIDSecNameMap := by
  obtain ⟨obj, p, before, hp, hstored, -, -, -, hrun⟩ :=
    @exists_run c strGuid pChangeList pDeviceObject s husDevObject hfound
  intro item hitem hread
  obtain ⟨des, hdes, hid, hguid, -⟩ := h.sub item hitem hread
  obtain ⟨des', hdes', hid', hguid', -⟩ := h.parent
  rw [hrun, descriptionOf_eq (stored_run_of_mem hitem hread) hp] at hdes
  rw [hrun, descriptionOf_eq (stored_run hstored) hp] at hdes'
  obtain rfl : des = des' := Option.some.inj (hdes.symm.trans hdes')
  exact ⟨hguid.symm.trans hguid', hid.symm.trans hid'⟩

theorem withBraces_ne_nil (strGUID : CStr) : withBraces strGUID ≠ [] := by
  unfold withBraces
  split
  · exact fun h => List.cons_ne_nil _ _ h
  · rename_i h
    rintro rfl
    exact h (by decide)

theorem ownObjects_of_onlyItself
    (hfound : (pDeviceObject <|> s.lookupDeviceByGUID (withBraces strGuid)) = some husDevObject)
    (h : OnlyItself c (withBraces strGuid) (ownID c (withBraces strGuid) husDevObject s)
      husDevObject.object.oSubStrGUIDSecNameMap) :
    OwnObjects c (withBraces strGuid) (ownID c (withBraces strGuid) husDevObject s)
      husDevObject.object.oSubStrGUIDSecNameMap
      (initSigleDeviceInfo c strGuid pChangeList pDeviceObject s).2.2 := by
  obtain ⟨obj, p, before, hp, hstored, hid, hguid, hentry, hrun⟩ :=
    @exists_run c strGuid pChangeList pDeviceObject s husDevObject hfound
  rw [hrun]
  have hnodup := husDevObject.object.nodup
  generalize husDevObject.object.oSubStrGUIDSecNameMap = items at h hnodup ⊢
  generalize ownID c (withBraces strGuid) husDevObject s = parentID at h hid hentry ⊢
  have hparent := descriptionOf_eq (@stored_run c (c.fileOf (withBraces strGuid)) parentID obj p
    { state := before } items (withBraces strGuid) hstored) hp
  by_cases hnone :
      ∀ item ∈ items, ¬ ReadableID (fileID c.conf (c.fileOf (withBraces strGuid)) item.2)
  · -- nothing is read
    obtain ⟨-, -, hsame⟩ := @run_unreadable c (c.fileOf (withBraces strGuid)) parentID obj p
      { state := before } items hnone
    refine ⟨fun item hitem hread => absurd hread (hnone item hitem),
      fun item hitem hread => absurd hread (hnone item hitem), _, hparent, ?_, ?_, ?_⟩
    · exact (hsame p).id.trans hid
    · exact (hsame p).guid.trans hguid
    · rw [(hsame p).entry]
      exact hentry
  · -- the device itself is
    push Not at hnone
    obtain ⟨item, hitem, hread⟩ := hnone
    obtain ⟨hself, hselfID⟩ := h item hitem hread
    obtain ⟨entry, hof, hlisted, hsame⟩ := run_itself hp
      (l := { state := before }) hstored (withBraces_ne_nil strGuid) hnodup hitem hself hread
      fun x hx hreadx => (h x hx hreadx).1
    -- it is the only one
    have honly : ∀ x ∈ items, ReadableID (fileID c.conf (c.fileOf (withBraces strGuid)) x.2) →
        x = item := fun x hx hreadx =>
      List.inj_on_of_nodup_map hnodup hx hitem ((h x hx hreadx).1.trans hself.symm)
    refine ⟨fun x hx hreadx => ?_, fun x hx hreadx => ?_, _, hparent, ?_, ?_, ?_⟩
    · obtain rfl := honly x hx hreadx
      rw [hself]
      exact ⟨_, hparent, hsame.id, hsame.guid, hsame.entryOf hof⟩
    · obtain rfl := honly x hx hreadx
      exact ⟨entry, hlisted, hof⟩
    · exact hsame.id.trans hselfID
    · exact hsame.guid
    · rw [hsame.entry]
      exact hof.id.trans hselfID

/-- **The objects are their own** exactly when no section of a sub-device can be read, but for one
under the GUID and with the ID of the device itself. -/
theorem ownObjects_iff (c : InitConfig) (strGuid : CStr) (pChangeList : Option (List ChangInfo))
    (pDeviceObject : Option SharedObject) (s : State) (husDevObject : SharedObject)
    (hfound : (pDeviceObject <|> s.lookupDeviceByGUID (withBraces strGuid)) =
      some husDevObject) :
    OwnObjects c (withBraces strGuid) (ownID c (withBraces strGuid) husDevObject s)
        husDevObject.object.oSubStrGUIDSecNameMap
        (initSigleDeviceInfo c strGuid pChangeList pDeviceObject s).2.2 ↔
      OnlyItself c (withBraces strGuid) (ownID c (withBraces strGuid) husDevObject s)
        husDevObject.object.oSubStrGUIDSecNameMap :=
  ⟨onlyItself_of_ownObjects hfound, ownObjects_of_onlyItself hfound⟩

def recorder : SharedObject where
  object :=
    { m_eGBDevType := 0, oSubStrGUIDSecNameMap := [(str "{C}", str "CAMERA1")],
      nodup := List.nodup_singleton _ }
  p_GBDevDesInfo := some 0
  apart := rfl

def camera : SharedObject := { SharedObject.new with p_GBDevDesInfo := some 1 }

def recorderStore : State where
  heap := { get := fun _ => {}, next := 2 }
  m_ObjectMap := ((∅ : Map CStr SharedObject).insert (str "{C}") camera).insert (str "{R}")
    recorder
  m_CatalogCollections := ∅
  g_decoderCatalogInfo := []

def recorderFiles (conf : Profile) : InitConfig where
  str_ID := str "34020000002000000001"
  strDevConfDir := str "conf"
  conf := conf
  format := fun pattern _ => pattern

theorem recorder_found :
    (none <|> recorderStore.lookupDeviceByGUID (withBraces (str "{R}"))) = some recorder := by
  have hbraces : withBraces (str "{R}") = str "{R}" := by decide
  change recorderStore.lookupDeviceByGUID (withBraces (str "{R}")) = some recorder
  rw [hbraces, State.lookupDeviceByGUID, if_neg (by decide)]
  exact Finmap.lookup_insert _

/-- The section of the camera is not there. -/
theorem ownObjects_iff_recorder :
    OwnObjects (recorderFiles fun _ _ _ => none) (withBraces (str "{R}"))
      (ownID (recorderFiles fun _ _ _ => none) (withBraces (str "{R}")) recorder recorderStore)
      recorder.object.oSubStrGUIDSecNameMap
      (initSigleDeviceInfo (recorderFiles fun _ _ _ => none) (str "{R}") none none
        recorderStore).2.2 := by
  refine (ownObjects_iff _ _ none none recorderStore recorder recorder_found).mpr ?_
  intro item hitem hread
  obtain rfl : item = (str "{C}", str "CAMERA1") := List.mem_singleton.mp hitem
  exact absurd hread (by decide)

def recorderConf : Profile := fun _ lpAppName lpKeyName =>
  if lpKeyName ≠ str "DeviceID" then none
  else if lpAppName = str "CAMERA1" then some (str "34020000001310000001")
  else some (str "34020000001180000001")

/-- The section of the camera is read. -/
theorem recorder_not_ownObjects :
    ¬ OwnObjects (recorderFiles recorderConf) (withBraces (str "{R}"))
      (ownID (recorderFiles recorderConf) (withBraces (str "{R}")) recorder recorderStore)
      recorder.object.oSubStrGUIDSecNameMap
      (initSigleDeviceInfo (recorderFiles recorderConf) (str "{R}") none none
        recorderStore).2.2 := by
  intro h
  have hguid := (onlyItself_of_ownObjects recorder_found h (str "{C}", str "CAMERA1")
    (List.mem_singleton_self _) (by decide +kernel)).1
  exact absurd hguid (by decide)

/-! ### Without sub-devices -/

theorem view_set {obj : SharedObject} {p : Nat} (h : obj.p_GBDevDesInfo ≠ some p)
    (heap : DescriptionHeap) (des : GBDevInfoDescribe) :
    obj.view (heap.set p des) = obj.view heap := by
  unfold SharedObject.view
  rcases hobj : obj.p_GBDevDesInfo with _ | q
  · rfl
  · have hne : q ≠ p := fun heq => h (hobj.trans (congrArg some heq))
    rw [Option.map_some, Option.map_some, Cells.get_set, if_neg hne]

theorem view_getGBDescription {obj other : SharedObject} {heap : DescriptionHeap}
    (h : other.p_GBDevDesInfo ≠ some (obj.getGBDescription heap).1) :
    other.view (obj.getGBDescription heap).2.2 = other.view heap := by
  unfold SharedObject.getGBDescription at h ⊢
  rcases hp : obj.p_GBDevDesInfo with _ | p
  · rw [hp] at h
    exact view_set h heap {}
  · rfl

theorem catalogOf_described (obj : DeviceObject) :
    c.catalogOf strGuid { obj with p_GBDevDesInfo := some obj.getGBDescription } =
      c.catalogOf strGuid obj := rfl

theorem initDescription_described (obj : DeviceObject) (pCatalog : CatalogEntry) :
    initDescription strGuid pCatalog
        { obj with p_GBDevDesInfo := some obj.getGBDescription } =
      initDescription strGuid pCatalog obj := rfl

theorem found_view {d : DeviceCatalogs} (h : s.Views d)
    (hfound : (pDeviceObject <|> s.lookupDeviceByGUID (withBraces strGuid)) =
      some husDevObject) :
    ((pDeviceObject.map fun obj => obj.view s.heap) <|>
      d.store.lookupDeviceByGUID (withBraces strGuid)) = some (husDevObject.view s.heap) := by
  cases pDeviceObject with
  | some obj =>
    obtain rfl : obj = husDevObject := Option.some.inj hfound
    rfl
  | none =>
    have hlookup : s.lookupDeviceByGUID (withBraces strGuid) = some husDevObject := hfound
    rw [State.lookupDeviceByGUID, if_neg (withBraces_ne_nil strGuid)] at hlookup
    change d.store.lookupDeviceByGUID (withBraces strGuid) = some (husDevObject.view s.heap)
    rw [CDataStore.lookupDeviceByGUID, if_neg (withBraces_ne_nil strGuid), h.object, hlookup,
      Option.map_some]

/-- **Nothing is shared, and nothing differs** from what is read in without addresses. -/
theorem views_initSigleDeviceInfo {d : DeviceCatalogs} (h : s.Views d)
    (hfound : (pDeviceObject <|> s.lookupDeviceByGUID (withBraces strGuid)) = some husDevObject)
    (hsub : husDevObject.object.oSubStrGUIDSecNameMap = [])
    (hunshared : ∀ g obj, g ≠ withBraces strGuid → s.m_ObjectMap.lookup g = some obj →
      obj.p_GBDevDesInfo ≠ some (husDevObject.getGBDescription s.heap).1) :
    let got := initSigleDeviceInfo c strGuid pChangeList pDeviceObject s
    let plain := Platform.initSigleDeviceInfo c strGuid pChangeList
      (pDeviceObject.map fun obj => obj.view s.heap) d
    plain.1 = got.1 ∧ plain.2.1 = got.2.1 ∧ got.2.2.Views plain.2.2 := by
  obtain ⟨hp, hobject, hview⟩ := getGBDescription_spec husDevObject s.heap
  have hothers : ∀ g obj, g ≠ withBraces strGuid → s.m_ObjectMap.lookup g = some obj →
      obj.view (husDevObject.getGBDescription s.heap).2.2 = obj.view s.heap :=
    fun g obj hg hobj => view_getGBDescription (hunshared g obj hg hobj)
  unfold initSigleDeviceInfo Platform.initSigleDeviceInfo
  dsimp only
  rw [found_view h hfound, hfound]
  dsimp only
  generalize hget : husDevObject.getGBDescription s.heap = got at *
  obtain ⟨p, obj, heap⟩ := got
  dsimp only at hp hobject hview hothers ⊢
  -- the object once its description is there
  have hself : obj.view heap = { husDevObject.view s.heap with
      p_GBDevDesInfo := some (husDevObject.view s.heap).getGBDescription } := by
    rw [← hview]
    unfold SharedObject.view DeviceObject.getGBDescription
    rw [hp, hobject]
    rfl
  have hnone : ¬ husDevObject.object.oSubStrGUIDSecNameMap.length > 0 := by
    rw [hsub]
    decide
  have hnoneView : ¬ (husDevObject.view s.heap).oSubStrGUIDSecNameMap.length > 0 := hnone
  rw [hself, hobject, if_neg hnone, if_neg hnoneView, catalogOf_described,
    initDescription_described]
  refine ⟨rfl, rfl, fun g => ?_, ?_, ?_⟩
  · dsimp only
    rw [CDataStore.addDeviceObjectByGUID]
    dsimp only
    rw [Map.lookup_insert_ite, Map.lookup_insert_ite]
    split
    · rw [Option.map_some]
      unfold SharedObject.view
      rw [hp, hobject, Option.map_some, Cells.get_set_self]
    · rename_i hg
      rw [h.object]
      rcases hlookup : s.m_ObjectMap.lookup g with _ | other
      · rfl
      · rw [Option.map_some, Option.map_some, view_set, hothers g other hg hlookup]
        exact hunshared g other hg hlookup
  · dsimp only
    rw [h.list]
    rfl
  · dsimp only
    rw [h.decoders]

end call

end GB28181.Platform.SubDeviceObjects
