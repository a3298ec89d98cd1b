import GB28181.Platform.DeviceUpdates

/-!
# The catalogue against the store (`CDevInfo::HandleUpdateData`)

`m_CatalogCollections` should list the devices of the store by their IDs.  A device is listed under
the ID of its object when it is read in, and nothing is ever taken out of the list.

* `handleUpdateData` — one message, on the store and the files as they are when it is handled;
* `ListsStored` — the keys of the list are the device IDs in the descriptions of the stored devices;
* `ReadIn` — what reading in a list of devices does, built up one device after the other
  (`ReadIn.step`);
* `UpdateEvent.Fits` — a message that keeps the list right: what it reads in has its own ID in its
  file, keeps it, and nothing listed goes;
* `listsStored_of_fits` — **after every message of a run of such messages the list is right**.
-/

set_option autoImplicit false

namespace GB28181.Platform

open GB28181.Base

/-! ## Messages -/

/-- `event_notify_t`, as far as the store is updated; `ut_alarm` changes neither store nor list. -/
inductive UpdateType
  | ut_init | ut_add | ut_mod | ut_del
  deriving DecidableEq

/-- A message to `HandleUpdateData`, with the store as the other modules have left it, the files and
the subscriptions at that time. -/
structure UpdateEvent where
  store : CDataStore
  config : InitConfig
  m_oSubscribeMap : SubscribeMap
  eUpdateType : UpdateType
  strGUID : CStr

def removeDeviceInfo (pszGUID : CStr) (s : DeviceCatalogs) : DeviceCatalogs :=
  { s with store := s.store.removeDeviceByGUID (withBraces pszGUID) }

variable (O : MapOrder) (P : SubscribeOrder)

/-- `HandleUpdateData`, unless the process ends over the text of a notice. -/
def handleUpdateData (e : UpdateEvent) (s : DeviceCatalogs) : Option DeviceCatalogs :=
  let s := { s with store := e.store }
  match e.eUpdateType with
  | .ut_add => some (addDeviceInfo e.config e.strGUID s).2
  | .ut_mod =>
    (updateDeviceInfo e.config P e.m_oSubscribeMap e.strGUID s).map fun updated => updated.2.2
  | .ut_del => some (removeDeviceInfo e.strGUID s)
  | .ut_init => some (initAllDeviceInfo e.config O s)

def updateStep (s : DeviceCatalogs) (e : UpdateEvent) : DeviceCatalogs :=
  (handleUpdateData O P e s).getD s

/-! ## What the list should say -/

/-- The device ID in the description of a device. -/
def DeviceObject.currentID (obj : DeviceObject) : CStr := obj.getGBDescription.m_strDeviceID

/-- The list has the current IDs of the stored devices. -/
def ListsStored (s : DeviceCatalogs) : Prop :=
  ∀ id, id ∈ s.m_CatalogCollections ↔
    ∃ g obj, s.store.m_ObjectMap.lookup g = some obj ∧ obj.currentID = id

/-- A device that is read in right: it has an ID, which is the one its file leads to, and no
sub-devices are read from the file. -/
structure DeviceObject.InLine (obj : DeviceObject) (c : InitConfig) (g : CStr) : Prop where
  braces : withBraces g = g
  noSub : obj.oSubStrGUIDSecNameMap = []
  hasID : obj.m_strDeviceID ≠ []
  fileID : c.idOf g obj.getGBDescription.m_devCatalog.m_strDeviceID = obj.m_strDeviceID

namespace UpdateEvent

variable (e : UpdateEvent)

def Reads (g : CStr) : Prop :=
  match e.eUpdateType with
  | .ut_init => True
  | .ut_add => g = withBraces e.strGUID
  | .ut_mod => g = withBraces e.strGUID
  | .ut_del => False

/-- The message takes the device out of the store. -/
def TakesOut (g : CStr) : Prop :=
  e.eUpdateType = .ut_del ∧ e.store.Removes (withBraces e.strGUID) g

/-- The message keeps a list right that agrees with the store `before`. -/
structure Fits (before : CDataStore) : Prop where
  /-- what is read in is in line -/
  read : ∀ g obj, e.store.m_ObjectMap.lookup g = some obj → e.Reads g → obj.InLine e.config g
  /-- what is not read in was there before, with the same ID -/
  old : ∀ g obj, e.store.m_ObjectMap.lookup g = some obj → ¬ e.Reads g →
    ∃ obj', before.m_ObjectMap.lookup g = some obj' ∧ obj'.currentID = obj.currentID
  /-- what was there before is still there, with its ID -/
  same : ∀ g obj, before.m_ObjectMap.lookup g = some obj →
    ∃ obj', e.store.m_ObjectMap.lookup g = some obj' ∧
      (e.Reads g → obj'.m_strDeviceID = obj.currentID) ∧
      (¬ e.Reads g → obj'.currentID = obj.currentID)
  /-- what is taken out shares its ID with a device that stays -/
  out : ∀ g obj, e.store.m_ObjectMap.lookup g = some obj → e.TakesOut g →
    ∃ g' obj', e.store.m_ObjectMap.lookup g' = some obj' ∧ ¬ e.TakesOut g' ∧
      obj'.currentID = obj.currentID

end UpdateEvent

/-! ## Reading devices in -/

section ReadIn

variable {c : InitConfig} {e : CDataStore} {listed : CatalogMap} {done : List CStr}
  {s s' : DeviceCatalogs} {g : CStr} {obj : DeviceObject}

theorem mem_addCatalog {m : CatalogMap} {pszDeviceID : CStr} (hne : pszDeviceID ≠ [])
    (catalog : CatalogEntry) (id : CStr) :
    id ∈ m.addCatalog pszDeviceID catalog ↔ id = pszDeviceID ∨ id ∈ m := by
  have hlen : ¬ pszDeviceID.length = 0 := fun h => hne (List.length_eq_zero_iff.mp h)
  rw [CatalogMap.addCatalog, if_neg hlen, Finmap.mem_insert]

theorem idOf_idOf (c : InitConfig) (g id : CStr) : c.idOf g (c.idOf g id) = c.idOf g id := by
  unfold InitConfig.idOf
  dsimp only
  split
  · rfl
  · rfl

theorem currentID_objectOf (c : InitConfig) (g : CStr) (obj : DeviceObject) :
    (c.objectOf g obj).currentID =
        c.idOf g obj.getGBDescription.m_devCatalog.m_strDeviceID ∧
      (c.objectOf g obj).getGBDescription.m_devCatalog.m_strDeviceID =
        c.idOf g obj.getGBDescription.m_devCatalog.m_strDeviceID := by
  obtain ⟨hcurrent, hentry⟩ := id_initDescription g (c.catalogOf g obj).2 obj
  rw [← id_catalogOf]
  exact ⟨hcurrent, hentry⟩

/-- A device in line has its own ID when it has been read in, and stays in line. -/
theorem DeviceObject.InLine.objectOf (h : obj.InLine c g) :
    (c.objectOf g obj).currentID = obj.m_strDeviceID ∧ (c.objectOf g obj).InLine c g := by
  obtain ⟨hcurrent, hentry⟩ := currentID_objectOf c g obj
  refine ⟨hcurrent.trans h.fileID, h.braces, h.noSub, h.hasID, ?_⟩
  rw [hentry, idOf_idOf]
  exact h.fileID

/-- The devices of the store `e` in the list `done` have been read in, and the IDs `listed` were
listed before. -/
structure ReadIn (c : InitConfig) (e : CDataStore) (listed : CatalogMap) (done : List CStr)
    (s : DeviceCatalogs) : Prop where
  stored : ∀ g obj, e.m_ObjectMap.lookup g = some obj →
    ∃ obj', s.store.m_ObjectMap.lookup g = some obj' ∧ obj'.m_strDeviceID = obj.m_strDeviceID ∧
      (obj.InLine c g → obj'.InLine c g) ∧
      (g ∈ done → obj'.currentID = obj.m_strDeviceID) ∧
      (g ∉ done → obj'.currentID = obj.currentID)
  only : ∀ g, g ∈ s.store.m_ObjectMap → g ∈ e.m_ObjectMap
  keys : ∀ id, id ∈ s.m_CatalogCollections ↔ id ∈ listed ∨
    ∃ g ∈ done, ∃ obj, e.m_ObjectMap.lookup g = some obj ∧ obj.m_strDeviceID = id

theorem ReadIn.start (hstore : s.store = e) : ReadIn c e s.m_CatalogCollections [] s where
  stored g obj hobj := ⟨obj, by rw [hstore]; exact hobj, rfl, id, nofun, fun _ => rfl⟩
  only g hg := hstore ▸ hg
  keys id := by simp

/-- **One device in line** is read in. -/
theorem ReadIn.step (h : ReadIn c e listed done s) (hobj : e.m_ObjectMap.lookup g = some obj)
    (hline : obj.InLine c g) {obj' : DeviceObject}
    (hobj' : s.store.m_ObjectMap.lookup g = some obj')
    (hstore : s'.store = s.store.addDeviceObjectByGUID g (c.objectOf g obj'))
    (hlist : s'.m_CatalogCollections = s.m_CatalogCollections.addCatalog obj'.m_strDeviceID
      (c.objectOf g obj').getGBDescription.m_devCatalog) :
    ReadIn c e listed (g :: done) s' := by
  obtain ⟨obj₀, hobj₀, hid, hkeep, -⟩ := h.stored g obj hobj
  obtain rfl : obj₀ = obj' := Option.some.inj (hobj₀.symm.trans hobj')
  have hlookup : ∀ x, s'.store.m_ObjectMap.lookup x =
      if x = g then some (c.objectOf g obj₀) else s.store.m_ObjectMap.lookup x := by
    intro x
    rw [hstore]
    exact Map.lookup_insert_ite _ _ _ _
  constructor
  · intro x objx hx
    rw [hlookup x]
    by_cases hxg : x = g
    · subst hxg
      obtain rfl : obj = objx := Option.some.inj (hobj.symm.trans hx)
      obtain ⟨hcurrent, hstays⟩ := (hkeep hline).objectOf
      rw [if_pos rfl]
      refine ⟨_, rfl, hid, fun _ => hstays, fun _ => hcurrent.trans hid, fun hnot => ?_⟩
      exact absurd List.mem_cons_self hnot
    · rw [if_neg hxg]
      obtain ⟨objx', hobjx', hidx, hkeepx, hin, hout⟩ := h.stored x objx hx
      refine ⟨objx', hobjx', hidx, hkeepx, fun hmem => ?_, fun hnot => ?_⟩
      · exact hin ((List.mem_cons.mp hmem).resolve_left hxg)
      · exact hout fun hmem => hnot (List.mem_cons_of_mem _ hmem)
  · intro x hx
    rw [← Finmap.lookup_isSome, hlookup x] at hx
    by_cases hxg : x = g
    · rw [hxg]
      exact Finmap.mem_of_lookup_eq_some hobj
    · rw [if_neg hxg, Finmap.lookup_isSome] at hx
      exact h.only x hx
  · intro id
    have hne : obj₀.m_strDeviceID ≠ [] := by
      rw [hid]
      exact hline.hasID
    rw [hlist, mem_addCatalog hne, h.keys id, hid]
    constructor
    · rintro (rfl | hlisted | ⟨x, hx, objx, hobjx, hidx⟩)
      · exact Or.inr ⟨g, List.mem_cons_self, obj, hobj, rfl⟩
      · exact Or.inl hlisted
      · exact Or.inr ⟨x, List.mem_cons_of_mem _ hx, objx, hobjx, hidx⟩
    · rintro (hlisted | ⟨x, hx, objx, hobjx, hidx⟩)
      · exact Or.inr (Or.inl hlisted)
      · rcases List.mem_cons.mp hx with rfl | hx
        · obtain rfl : obj = objx := Option.some.inj (hobj.symm.trans hobjx)
          exact Or.inl hidx.symm
        · exact Or.inr (Or.inr ⟨x, hx, objx, hobjx, hidx⟩)

theorem lookupDeviceByGUID_withBraces (s : CDataStore) (strGUID : CStr) :
    s.lookupDeviceByGUID (withBraces strGUID) = s.m_ObjectMap.lookup (withBraces strGUID) := by
  unfold CDataStore.lookupDeviceByGUID
  apply if_neg
  unfold withBraces
  split
  · exact fun hnil => absurd (List.append_eq_nil_iff.mp hnil).2 (by decide)
  · rename_i hbrace
    rintro rfl
    exact hbrace (by decide)

theorem ReadIn.initSigle (h : ReadIn c e listed done s) {strGuid : CStr}
    (hobj : e.m_ObjectMap.lookup (withBraces strGuid) = some obj)
    (hline : obj.InLine c (withBraces strGuid)) (pChangeList : Option (List ChangInfo))
    {pDeviceObject : Option DeviceObject}
    (hgiven : pDeviceObject = none ∨
      pDeviceObject = s.store.m_ObjectMap.lookup (withBraces strGuid)) :
    ReadIn c e listed (withBraces strGuid :: done)
      (initSigleDeviceInfo c strGuid pChangeList pDeviceObject s).2.2 := by
  obtain ⟨obj', hobj', -, hkeep, -⟩ := h.stored _ obj hobj
  have hfound : (pDeviceObject <|> s.store.lookupDeviceByGUID (withBraces strGuid)) =
      some obj' := by
    rcases hgiven with rfl | rfl
    · rw [lookupDeviceByGUID_withBraces, hobj']
      rfl
    · rw [hobj']
      rfl
  obtain ⟨decoders, heq⟩ := @initSigleDeviceInfo_of_found c strGuid pChangeList pDeviceObject s
    obj' hfound (hkeep hline).noSub
  rw [heq]
  exact h.step hobj hline hobj' rfl rfl

theorem ReadIn.initAll (keys : List CStr) (h : ReadIn c e listed done s)
    (hkeys : ∀ g ∈ keys, g ∈ e.m_ObjectMap)
    (hline : ∀ g obj, e.m_ObjectMap.lookup g = some obj → obj.InLine c g) :
    ∃ done', (∀ g, g ∈ done' ↔ g ∈ done ∨ g ∈ keys) ∧
      ReadIn c e listed done' (keys.foldl
        (fun s strGUID =>
          match s.store.m_ObjectMap.lookup strGUID with
          | none => s
          | some deviceInfo =>
            (initSigleDeviceInfo c strGUID none (some deviceInfo) s).2.2) s) := by
  induction keys generalizing done s with
  | nil => exact ⟨done, by simp, h⟩
  | cons g keys ih =>
    obtain ⟨obj, hobj⟩ := Option.isSome_iff_exists.mp
      (Finmap.lookup_isSome.mpr (hkeys g List.mem_cons_self))
    obtain ⟨obj', hobj', -⟩ := h.stored g obj hobj
    have hbraces := (hline g obj hobj).braces
    have hobj₁ : e.m_ObjectMap.lookup (withBraces g) = some obj := by
      rw [hbraces]
      exact hobj
    have hgiven : some obj' = s.store.m_ObjectMap.lookup (withBraces g) := by
      rw [hbraces]
      exact hobj'.symm
    have hturn := h.initSigle hobj₁ (hline _ obj hobj₁) none (Or.inr hgiven)
    rw [hbraces] at hturn
    obtain ⟨done', hdone', hread⟩ := ih hturn fun x hx => hkeys x (List.mem_cons_of_mem _ hx)
    refine ⟨done', fun x => ?_, ?_⟩
    · rw [hdone' x, List.mem_cons, List.mem_cons, or_assoc, or_left_comm]
    · rw [List.foldl_cons, hobj']
      exact hread

end ReadIn

/-! ## A message -/

section Message

variable {O P} {s : DeviceCatalogs} {e : UpdateEvent}

/-- **What a message reads in** leaves the list right. -/
theorem listsStored_of_readIn {done : List CStr} {s' : DeviceCatalogs} (h : ListsStored s)
    (hfits : e.Fits s.store)
    (hdone : ∀ g obj, e.store.m_ObjectMap.lookup g = some obj → (g ∈ done ↔ e.Reads g))
    (hread : ReadIn e.config e.store s.m_CatalogCollections done s') : ListsStored s' := by
  intro id
  rw [hread.keys id, h id]
  constructor
  · rintro (⟨g, obj, hobj, rfl⟩ | ⟨g, hg, obj, hobj, rfl⟩)
    · obtain ⟨obj', hobj', hsame, hsame'⟩ := hfits.same g obj hobj
      obtain ⟨obj'', hobj'', -, -, hin, hout⟩ := hread.stored g obj' hobj'
      refine ⟨g, obj'', hobj'', ?_⟩
      by_cases hreads : e.Reads g
      · exact (hin ((hdone g obj' hobj').mpr hreads)).trans (hsame hreads)
      · exact (hout fun hmem => hreads ((hdone g obj' hobj').mp hmem)).trans (hsame' hreads)
    · obtain ⟨obj', hobj', -, -, hin, -⟩ := hread.stored g obj hobj
      exact ⟨g, obj', hobj', hin hg⟩
  · rintro ⟨g, obj', hobj', rfl⟩
    obtain ⟨obj, hobj⟩ := Option.isSome_iff_exists.mp
      (Finmap.lookup_isSome.mpr (hread.only g (Finmap.mem_of_lookup_eq_some hobj')))
    obtain ⟨obj'', hobj'', -, -, hin, hout⟩ := hread.stored g obj hobj
    obtain rfl : obj'' = obj' := Option.some.inj (hobj''.symm.trans hobj')
    by_cases hmem : g ∈ done
    · exact Or.inr ⟨g, hmem, obj, hobj, (hin hmem).symm⟩
    · have hnot : ¬ e.Reads g := fun hreads => hmem ((hdone g obj hobj).mpr hreads)
      obtain ⟨obj₀, hobj₀, hid⟩ := hfits.old g obj hobj hnot
      exact Or.inl ⟨g, obj₀, hobj₀, hid.trans (hout hmem).symm⟩

theorem listsStored_single (h : ListsStored s) (hfits : e.Fits s.store)
    (hreads : ∀ g, e.Reads g ↔ g = withBraces e.strGUID) (pChangeList : Option (List ChangInfo)) :
    ListsStored (initSigleDeviceInfo e.config e.strGUID pChangeList none
      { s with store := e.store }).2.2 := by
  have hstart : ReadIn e.config e.store s.m_CatalogCollections [] { s with store := e.store } :=
    @ReadIn.start e.config e.store { s with store := e.store } rfl
  cases hobj : e.store.m_ObjectMap.lookup (withBraces e.strGUID) with
  | none =>
    rw [initSigleDeviceInfo_of_not_found (by
      rw [lookupDeviceByGUID_withBraces]
      exact hobj)]
    refine listsStored_of_readIn h hfits (fun g obj hg => ?_) hstart
    refine iff_of_false List.not_mem_nil fun hreads' => ?_
    rw [(hreads g).mp hreads', hobj] at hg
    cases hg
  | some obj =>
    have hread := hstart.initSigle hobj (hfits.read _ obj hobj ((hreads _).mpr rfl)) pChangeList
      (Or.inl rfl)
    refine listsStored_of_readIn h hfits (fun g obj hg => ?_) hread
    rw [List.mem_singleton, hreads g]

theorem listsStored_all (h : ListsStored s) (hfits : e.Fits s.store) (hreads : ∀ g, e.Reads g) :
    ListsStored (initAllDeviceInfo e.config O { s with store := e.store }) := by
  have hstart : ReadIn e.config e.store s.m_CatalogCollections [] { s with store := e.store } :=
    @ReadIn.start e.config e.store { s with store := e.store } rfl
  obtain ⟨done, hdone, hread⟩ := hstart.initAll (O.keys e.store.m_ObjectMap)
    (fun g hg => (O.mem_keys _ g).mp hg) fun g obj hobj => hfits.read g obj hobj (hreads g)
  refine listsStored_of_readIn h hfits (fun g obj hobj => ?_) hread
  refine iff_of_true ((hdone g).mpr (Or.inr ?_)) (hreads g)
  exact (O.mem_keys _ g).mpr (Finmap.mem_of_lookup_eq_some hobj)

theorem currentID_removeDeviceByGUID {s : CDataStore} {pszGUID g : CStr}
    (hstays : ¬ s.Removes pszGUID g) :
    ((s.removeDeviceByGUID pszGUID).m_ObjectMap.lookup g).map DeviceObject.currentID =
      (s.m_ObjectMap.lookup g).map DeviceObject.currentID := by
  have hsame := CDataStore.described_removeDeviceByGUID.2 hstays
  have hids := congrArg (Option.map GBDevInfoDescribe.m_strDeviceID) hsame
  rw [Option.map_map, Option.map_map] at hids
  exact hids

theorem listsStored_removed (h : ListsStored s) (hfits : e.Fits s.store)
    (htype : e.eUpdateType = .ut_del) :
    ListsStored (removeDeviceInfo e.strGUID { s with store := e.store }) := by
  have hreads : ∀ g, ¬ e.Reads g := by
    intro g
    rw [UpdateEvent.Reads, htype]
    exact not_false
  have htakes : ∀ g, e.TakesOut g ↔ e.store.Removes (withBraces e.strGUID) g := fun g =>
    and_iff_right htype
  have hstays : ∀ g, ¬ e.TakesOut g →
      ((e.store.removeDeviceByGUID (withBraces e.strGUID)).m_ObjectMap.lookup g).map
        DeviceObject.currentID = (e.store.m_ObjectMap.lookup g).map DeviceObject.currentID :=
    fun g hg => currentID_removeDeviceByGUID fun hremoves => hg ((htakes g).mpr hremoves)
  intro id
  refine (h id).trans ?_
  constructor
  · rintro ⟨g, obj, hobj, rfl⟩
    obtain ⟨obj', hobj', -, hsame⟩ := hfits.same g obj hobj
    have hid := hsame (hreads g)
    obtain ⟨g', obj'', hobj'', hnot, hid'⟩ : ∃ g' obj'', e.store.m_ObjectMap.lookup g' =
        some obj'' ∧ ¬ e.TakesOut g' ∧ obj''.currentID = obj'.currentID := by
      by_cases hout : e.TakesOut g
      · exact hfits.out g obj' hobj' hout
      · exact ⟨g, obj', hobj', hout, rfl⟩
    have hleft := hstays g' hnot
    rw [hobj'', Option.map_some] at hleft
    obtain ⟨obj₁, hobj₁, hid₁⟩ := Option.map_eq_some_iff.mp hleft
    exact ⟨g', obj₁, hobj₁, hid₁.trans (hid'.trans hid)⟩
  · rintro ⟨g, obj₁, hobj₁, rfl⟩
    have hnot : ¬ e.TakesOut g := by
      intro hout
      have hnone := CDataStore.described_removeDeviceByGUID.1 ((htakes g).mp hout)
      exact absurd (hobj₁.symm.trans hnone) nofun
    have hleft := hstays g hnot
    rw [show (e.store.removeDeviceByGUID (withBraces e.strGUID)).m_ObjectMap.lookup g = some obj₁
      from hobj₁, Option.map_some] at hleft
    obtain ⟨obj, hobj, hid⟩ := Option.map_eq_some_iff.mp hleft.symm
    obtain ⟨obj₀, hobj₀, hid₀⟩ := hfits.old g obj hobj (hreads g)
    exact ⟨g, obj₀, hobj₀, hid₀.trans hid⟩

/-- **One message** that fits. -/
theorem listsStored_step (s : DeviceCatalogs) (e : UpdateEvent) (h : ListsStored s)
    (hfits : e.Fits s.store) : ListsStored (updateStep O P s e) := by
  unfold updateStep handleUpdateData
  dsimp only
  cases htype : e.eUpdateType with
  | ut_init =>
    refine listsStored_all h hfits fun g => ?_
    rw [UpdateEvent.Reads, htype]
    exact trivial
  | ut_add =>
    refine listsStored_single h hfits (fun g => ?_) none
    rw [UpdateEvent.Reads, htype]
  | ut_mod =>
    obtain ⟨ret, heq⟩ := @updateDeviceInfo_sends_nothing e.config P e.m_oSubscribeMap e.strGUID
      { s with store := e.store }
    dsimp only
    rw [heq]
    refine listsStored_single h hfits (fun g => ?_) (some [])
    rw [UpdateEvent.Reads, htype]
  | ut_del => exact listsStored_removed h hfits htype

end Message

/-! ## Runs -/

theorem listsStored_empty : ListsStored {} := by
  intro id
  refine iff_of_false Finmap.notMem_empty ?_
  rintro ⟨g, obj, hobj, -⟩
  cases hobj

/-- **After every message of a run the list is right** when every message keeps it right. -/
theorem listsStored_of_fits (es : List UpdateEvent)
    (hfits : ∀ p ∈ calls (updateStep O P) {} es, p.2.Fits p.1.store) :
    ∀ p ∈ calls (updateStep O P) {} es, ListsStored (updateStep O P p.1 p.2) :=
  forall_calls
    (fun s e h hfits => ⟨listsStored_step s e h hfits, listsStored_step s e h hfits⟩)
    listsStored_empty hfits

/-- The camera, which was stored before, is added. -/
def sampleAdd : UpdateEvent where
  store := sampleDevices.store
  config := sampleInitConfig
  m_oSubscribeMap := ∅
  eUpdateType := .ut_add
  strGUID := str "{A}"

def sampleDel : UpdateEvent where
  store := (addDeviceInfo sampleInitConfig (str "{A}") sampleDevices).2.store
  config := sampleInitConfig
  m_oSubscribeMap := ∅
  eUpdateType := .ut_del
  strGUID := str "{A}"

theorem sampleAdd_fits : sampleAdd.Fits {} := by
  have hlookup : ∀ g obj, sampleAdd.store.m_ObjectMap.lookup g = some obj →
      g = str "{A}" ∧ obj = sampleCamera := by
    intro g obj hobj
    rw [show sampleAdd.store.m_ObjectMap = (∅ : Map CStr DeviceObject).insert (str "{A}")
      sampleCamera from rfl, Map.lookup_insert_ite] at hobj
    split at hobj
    · rename_i hg
      exact ⟨hg, (Option.some.inj hobj).symm⟩
    · cases hobj
  constructor
  · intro g obj hobj hreads
    obtain ⟨rfl, rfl⟩ := hlookup g obj hobj
    exact ⟨by decide, rfl, by decide, by decide⟩
  · intro g obj hobj hnot
    obtain ⟨rfl, rfl⟩ := hlookup g obj hobj
    exact absurd (show sampleAdd.Reads (str "{A}") by
      show str "{A}" = withBraces (str "{A}")
      decide) hnot
  · intro g obj hobj
    cases hobj
  · intro g obj hobj hout
    exact absurd hout.1 (by decide)

/-- Adding the camera lists it. -/
theorem listsStored_sample :
    str "34020000001320000001" ∈
        (updateStep MapOrder.some SubscribeOrder.some {} sampleAdd).m_CatalogCollections ∧
      ListsStored (updateStep MapOrder.some SubscribeOrder.some {} sampleAdd) := by
  refine ⟨by decide, ?_⟩
  exact listsStored_of_fits MapOrder.some SubscribeOrder.some [sampleAdd]
    (List.forall_mem_singleton.mpr sampleAdd_fits) _ List.mem_cons_self

/-- The camera is still listed when it has been deleted. -/
theorem deleted_still_listed :
    ¬ ∀ (O : MapOrder) (P : SubscribeOrder) (es : List UpdateEvent),
      ∀ p ∈ calls (updateStep O P) {} es, ListsStored (updateStep O P p.1 p.2) := by
  intro h
  have hlast := h MapOrder.some SubscribeOrder.some [sampleAdd, sampleDel] _
    (List.mem_cons_of_mem _ List.mem_cons_self) (str "34020000001320000001")
  obtain ⟨g, obj, hobj, -⟩ := hlast.mp (by decide)
  have hempty : (sampleDel.store.removeDeviceByGUID (withBraces (str "{A}"))).m_ObjectMap = ∅ := by
    decide
  rw [show (updateStep MapOrder.some SubscribeOrder.some
    (updateStep MapOrder.some SubscribeOrder.some {} sampleAdd) sampleDel).store.m_ObjectMap =
      (sampleDel.store.removeDeviceByGUID (withBraces (str "{A}"))).m_ObjectMap from rfl,
    hempty] at hobj
  cases hobj

end GB28181.Platform
