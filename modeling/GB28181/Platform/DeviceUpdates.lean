import GB28181.Platform.CatalogSubscribe
import GB28181.Platform.InitDeviceInfo

/-!
# Changes of a device (`CDevInfo::UpdateDeviceInfo`)

An update reads the device in again and should tell the subscribers what has changed.  It takes the
zero that `InitSigleDeviceInfo` returns for a device it has read in for a failure, and goes no
further.

* `updateDeviceInfo` — the update with the loop over the changes;
* `updateDeviceInfo_sends_nothing` — **no update sends a notice**;
* `ChangeNotified` — what an update should achieve;
* `changeNotified_iff` — an update of a stored device achieves it **exactly when no one is to be
  told**.
-/

set_option autoImplicit false

namespace GB28181.Platform

open GB28181.Base

variable (c : InitConfig) (O : SubscribeOrder) (m_oSubscribeMap : SubscribeMap)

/-! ## The update -/

/-- A turn of the loop of `UpdateDeviceInfo`. -/
def notifyChange (store : CDataStore) (pChangeInfo : ChangInfo) : Option (List SubscribeNotify) :=
  if pChangeInfo.nChangeType > 0 then
    if pChangeInfo.nChangeType.toNat &&& 1 ≠ 0 then do
      let removed ← removeDeviceInfoNotify c.str_ID O store m_oSubscribeMap
        pChangeInfo.oBefore.toCatalogItem
      let added ← updateDeviceInfoNotify c.str_ID O store m_oSubscribeMap
        pChangeInfo.oAfter.toCatalogItem true
      some (removed.2 ++ added.2)
    else do
      let updated ← updateDeviceInfoNotify c.str_ID O store m_oSubscribeMap
        pChangeInfo.oAfter.toCatalogItem false
      some updated.2
  else some []

/-- `UpdateDeviceInfo`: what it returns, sends and leaves, unless the process ends over a text. -/
def updateDeviceInfo (pszGUID : CStr) (s : DeviceCatalogs) :
    Option (Int × List SubscribeNotify × DeviceCatalogs) :=
  let (ret, oInfoChanged, s) := initSigleDeviceInfo c pszGUID (some []) none s
  if ret = 0 then some (-1, [], s)
  else do
    let sent ← (oInfoChanged.getD []).mapM (notifyChange c O m_oSubscribeMap s.store)
    some (0, sent.flatten, s)

/-! ## What an update should achieve -/

section Spec

variable (str_ID : CStr) (m : SubscribeMap)

/-- A notice about the entry goes to every subscription on the platform or the device, once. -/
structure Reaches (entry : CatalogItem) (eveType : CatalogEventType)
    (sent : List SubscribeNotify) : Prop where
  complete : ∀ c i, m.lookup c = some i → i.Covers str_ID entry.m_strDeviceID →
    ∃ msg ∈ sent, sendCatalogSubscribeNotify entry eveType i = some msg
  sound : ∀ msg ∈ sent, ∃ c i, m.lookup c = some i ∧ i.Covers str_ID entry.m_strDeviceID ∧
    sendCatalogSubscribeNotify entry eveType i = some msg
  once : (sent.map SubscribeNotify.nCallDialogID).Nodup

/-- A compared field other than the device ID differs. -/
def FieldsDiffer (before after : CatalogEntry) : Prop :=
  ∃ field ∈ comparedFields, field before ≠ field after

/-- Another device ID is told as the end of the old entry and a new one, any other change as an
update, and no change is not told. -/
structure ChangeNotified (before after : CatalogEntry) (sent : List SubscribeNotify) : Prop where
  renamed : before.m_strDeviceID ≠ after.m_strDeviceID → ∃ dels adds, sent = dels ++ adds ∧
    Reaches str_ID m before.toCatalogItem .del dels ∧
    Reaches str_ID m after.toCatalogItem .add adds
  modified : before.m_strDeviceID = after.m_strDeviceID → FieldsDiffer before after →
    Reaches str_ID m after.toCatalogItem .update sent
  unchanged : before.m_strDeviceID = after.m_strDeviceID → ¬ FieldsDiffer before after → sent = []

/-- No subscription is on the platform or on the device ID `d`. -/
def NoneCovers (d : CStr) : Prop := ∀ c i, m.lookup c = some i → ¬ i.Covers str_ID d

/-- Nothing has changed, or no one has subscribed to what has. -/
structure NoOneToTell (before after : CatalogEntry) : Prop where
  renamed : before.m_strDeviceID ≠ after.m_strDeviceID →
    NoneCovers str_ID m before.m_strDeviceID ∧ NoneCovers str_ID m after.m_strDeviceID
  modified : before.m_strDeviceID = after.m_strDeviceID → FieldsDiffer before after →
    NoneCovers str_ID m after.m_strDeviceID

variable {str_ID m}

theorem reaches_nil_iff {entry : CatalogItem} {eveType : CatalogEventType} :
    Reaches str_ID m entry eveType [] ↔ NoneCovers str_ID m entry.m_strDeviceID := by
  constructor
  · intro h c i hi hcovers
    obtain ⟨msg, hmsg, -⟩ := h.complete c i hi hcovers
    cases hmsg
  · intro hnone
    refine ⟨fun c i hi hcovers => absurd hcovers (hnone c i hi), nofun, List.nodup_nil⟩

theorem changeNotified_nil_iff {before after : CatalogEntry} :
    ChangeNotified str_ID m before after [] ↔ NoOneToTell str_ID m before after := by
  constructor
  · intro h
    refine ⟨fun hid => ?_, fun hid hfields => reaches_nil_iff.mp (h.modified hid hfields)⟩
    obtain ⟨dels, adds, hsent, hdel, hadd⟩ := h.renamed hid
    obtain ⟨rfl, rfl⟩ := List.append_eq_nil_iff.mp hsent.symm
    exact ⟨reaches_nil_iff.mp hdel, reaches_nil_iff.mp hadd⟩
  · intro h
    refine ⟨fun hid => ?_, fun hid hfields => reaches_nil_iff.mpr (h.modified hid hfields),
      fun _ _ => rfl⟩
    obtain ⟨hdel, hadd⟩ := h.renamed hid
    exact ⟨[], [], rfl, reaches_nil_iff.mpr hdel, reaches_nil_iff.mpr hadd⟩

end Spec

/-! ## What it does -/

section Update

variable {c O m_oSubscribeMap} {pszGUID : CStr} {s : DeviceCatalogs}

theorem updateDeviceInfo_of_stored {obj : DeviceObject}
    (hobj : s.store.lookupDeviceByGUID (withBraces pszGUID) = some obj) :
    updateDeviceInfo c O m_oSubscribeMap pszGUID s =
      some (-1, [], (initSigleDeviceInfo c pszGUID (some []) none s).2.2) := by
  have hret : (initSigleDeviceInfo c pszGUID (some []) none s).1 = 0 :=
    initSigleDeviceInfo_ret hobj
  unfold updateDeviceInfo
  dsimp only
  rw [if_pos hret]

theorem updateDeviceInfo_of_unknown
    (hobj : s.store.lookupDeviceByGUID (withBraces pszGUID) = none) :
    updateDeviceInfo c O m_oSubscribeMap pszGUID s = some (0, [], s) := by
  unfold updateDeviceInfo
  rw [initSigleDeviceInfo_of_not_found hobj]
  rfl

/-- **No update sends a notice**, and the device is read in. -/
theorem updateDeviceInfo_sends_nothing :
    ∃ ret, updateDeviceInfo c O m_oSubscribeMap pszGUID s =
      some (ret, [], (initSigleDeviceInfo c pszGUID (some []) none s).2.2) := by
  cases hobj : s.store.lookupDeviceByGUID (withBraces pszGUID) with
  | none =>
    rw [updateDeviceInfo_of_unknown hobj, initSigleDeviceInfo_of_not_found hobj]
    exact ⟨0, rfl⟩
  | some obj => exact ⟨-1, updateDeviceInfo_of_stored hobj⟩

/-- **An update of a stored device** tells what has changed exactly when no one is to be told. -/
theorem changeNotified_iff {obj : DeviceObject}
    (hobj : s.store.lookupDeviceByGUID (withBraces pszGUID) = some obj) :
    (∃ ret sent s', updateDeviceInfo c O m_oSubscribeMap pszGUID s = some (ret, sent, s') ∧
        ChangeNotified c.str_ID m_oSubscribeMap obj.getGBDescription.m_devCatalog
          (c.catalogOf (withBraces pszGUID) obj).2 sent) ↔
      NoOneToTell c.str_ID m_oSubscribeMap obj.getGBDescription.m_devCatalog
        (c.catalogOf (withBraces pszGUID) obj).2 := by
  rw [← changeNotified_nil_iff, updateDeviceInfo_of_stored hobj]
  constructor
  · rintro ⟨ret, sent, s', hsent, hnotified⟩
    obtain ⟨-, hpair⟩ := Prod.mk.inj (Option.some.inj hsent)
    rw [(Prod.mk.inj hpair).1]
    exact hnotified
  · intro hnotified
    exact ⟨-1, [], _, rfl, hnotified⟩

end Update

/-- A platform whose files name one camera `door`. -/
def sampleInitConfig : InitConfig where
  str_ID := str "34020000002000000001"
  strDevConfDir := str "C:"
  conf _ _ key :=
    if key = str "DeviceID" then some (str "34020000001320000001")
    else if key = str "Name" then some (str "door")
    else none
  format pattern _ := pattern

/-- The camera, which had the name `gate` until now. -/
def sampleCamera : DeviceObject where
  m_strDeviceID := str "34020000001320000001"
  m_eGBDevType := 0
  strDeviceGUID := str "{A}"
  p_GBDevDesInfo := some
    { m_devCatalog :=
        { CatalogEntry.empty with
          m_strDeviceID := str "34020000001320000001", m_strName := str "gate" } }

def sampleDevices : DeviceCatalogs where
  store :=
    (({} : CDataStore).addDeviceObjectByGUID (str "{A}") sampleCamera).addGUID (str "{A}")
      (str "34020000001320000001")

def sampleNewEntry : CatalogEntry :=
  (sampleInitConfig.catalogOf (withBraces (str "{A}")) sampleCamera).2

theorem sampleCamera_stored :
    sampleDevices.store.lookupDeviceByGUID (withBraces (str "{A}")) = some sampleCamera := by
  decide

def otherSubscription : SubscribeMap :=
  (handleSubscribe sampleInitConfig.str_ID
    { sampleRequest with
      szSubID := str "34020000001320000002"
      store := sampleRequest.store.addGUID (str "{B}") (str "34020000001320000002") } ∅).2.2

/-- It has nothing to be told of the new name of this one. -/
theorem changeNotified_sample :
    (otherSubscription.lookup 1).isSome ∧
      ∃ ret sent s', updateDeviceInfo sampleInitConfig SubscribeOrder.some otherSubscription
          (str "{A}") sampleDevices = some (ret, sent, s') ∧
        ChangeNotified sampleInitConfig.str_ID otherSubscription
          sampleCamera.getGBDescription.m_devCatalog sampleNewEntry sent := by
  obtain ⟨i, hmap, -, htarget, -⟩ := @handleSubscribe_known sampleInitConfig.str_ID
    { sampleRequest with
      szSubID := str "34020000001320000002"
      store := sampleRequest.store.addGUID (str "{B}") (str "34020000001320000002") } ∅
    (by decide) (by decide) (.of_none rfl) fun i hi => absurd hi (by simp)
  have hlookup : ∀ c, otherSubscription.lookup c = if c = 1 then some i else none := by
    intro c
    rw [otherSubscription, hmap, Map.lookup_insert_ite]
    rfl
  have hnone : NoneCovers sampleInitConfig.str_ID otherSubscription
      sampleNewEntry.m_strDeviceID := by
    intro c j hj hcovers
    rw [hlookup] at hj
    split at hj
    · cases hj
      rw [SubInfoStruct.Covers, htarget] at hcovers
      exact absurd hcovers (by decide)
    · cases hj
  have hsame : sampleCamera.getGBDescription.m_devCatalog.m_strDeviceID =
      sampleNewEntry.m_strDeviceID := by decide
  refine ⟨by rw [hlookup, if_pos rfl]; rfl, (changeNotified_iff sampleCamera_stored).mpr ?_⟩
  exact ⟨fun hid => absurd hsame hid, fun _ _ => hnone⟩

/-- A subscription on the camera is not told of its new name. -/
theorem new_name_not_told :
    ¬ ∃ ret sent s', updateDeviceInfo sampleInitConfig SubscribeOrder.some
        (handleSubscribe sampleInitConfig.str_ID sampleRequest ∅).2.2 (str "{A}") sampleDevices =
          some (ret, sent, s') ∧
      ChangeNotified sampleInitConfig.str_ID
        (handleSubscribe sampleInitConfig.str_ID sampleRequest ∅).2.2
        sampleCamera.getGBDescription.m_devCatalog sampleNewEntry sent := by
  rintro ⟨ret, sent, s', hsent, hnotified⟩
  rw [updateDeviceInfo_of_stored sampleCamera_stored] at hsent
  obtain ⟨-, hpair⟩ := Prod.mk.inj (Option.some.inj hsent)
  obtain rfl := (Prod.mk.inj hpair).1
  obtain ⟨i, hmap, htarget, -⟩ := sampleRequest_record
  have hname : FieldsDiffer sampleCamera.getGBDescription.m_devCatalog sampleNewEntry :=
    ⟨fun c => c.m_strName, List.mem_cons_self, by decide⟩
  have hreaches := hnotified.modified (by decide) hname
  have hlookup : (handleSubscribe sampleInitConfig.str_ID sampleRequest ∅).2.2.lookup 1 = some i :=
    by rw [show sampleInitConfig.str_ID = str "34020000002000000001" from rfl, hmap,
      Map.lookup_insert_ite, if_pos rfl]
  obtain ⟨msg, hmsg, -⟩ := hreaches.complete 1 i hlookup (Or.inr (htarget.trans (by decide)))
  cases hmsg

end GB28181.Platform
