import GB28181.Base.InverseMaps
import GB28181.Base.Run
import GB28181.Platform.DataStore

/-!
# The ID tables of the store

`m_DeviceIDMap` leads from device IDs to GUIDs and `m_GUIDMap` back.  The operations that add write
both; those that remove write one of them; and a lookup through `operator[]` inserts an empty GUID.

* `Inverse` — the tables agree on device IDs of 20 characters;
* `StoreCall` — an operation of the store, `storeStep` — what it does;
* `StoreCall.Fits` — the operation does not part the tables of the store it meets;
* `step_inverse_iff` — one operation; `inverse_iff_fits` — **every state of a run has inverse
  tables, and its lookups of unknown IDs change nothing, exactly when all its operations fit**.
-/

set_option autoImplicit false

namespace GB28181.Platform

open GB28181.Base

/-- `LookupGUID(id) = g` if and only if `LookupDeviceID(g) = id`. -/
def CDataStore.Inverse (s : CDataStore) : Prop :=
  ∀ id : CStr, id.length = 20 → ∀ g, s.lookupGUID id = some g ↔ s.lookupDeviceID g = some id

theorem CDataStore.inverse_iff (s : CDataStore) :
    s.Inverse ↔ InverseOn (fun id : CStr => id.length = 20) s.m_DeviceIDMap s.m_GUIDMap := by
  refine forall_congr' fun id => forall_congr' fun hlen => forall_congr' fun g => ?_
  rw [CDataStore.lookupGUID, if_neg (not_not.mpr hlen), CDataStore.lookupDeviceID]

/-! ## Operations -/

/-- The operations of the store that touch the tables, with their arguments. -/
inductive StoreCall
  | addDeviceID (pszDeviceID pszGUID : CStr)
  | addGUID (pszGUID pszDeviceID : CStr)
  | addDeviceObjectByGUID (pszGUID : CStr) (pDevObj : DeviceObject)
  | removeDevice (pszDeviceID : CStr)
  | removeDeviceItemByGUID (pszGUID : CStr)
  | removeDeviceByGUID (pszGUID : CStr)
  | lookupDevice (pszDeviceID : CStr)
  | lookupDeviceAlarmStatus (pszDeviceID : CStr)
  | addAlarmInfo (pszDeviceID : CStr) (alarminfo : DeviceAlarmInfo)
  | removeAlarming (pszDeviceID : CStr)
  deriving DecidableEq

def storeStep (s : CDataStore) : StoreCall → CDataStore
  | .addDeviceID pszDeviceID pszGUID => s.addDeviceID pszDeviceID pszGUID
  | .addGUID pszGUID pszDeviceID => s.addGUID pszGUID pszDeviceID
  | .addDeviceObjectByGUID pszGUID pDevObj => s.addDeviceObjectByGUID pszGUID pDevObj
  | .removeDevice pszDeviceID => s.removeDevice pszDeviceID
  | .removeDeviceItemByGUID pszGUID => s.removeDeviceItemByGUID pszGUID
  | .removeDeviceByGUID pszGUID => s.removeDeviceByGUID pszGUID
  | .lookupDevice pszDeviceID => (s.lookupDevice pszDeviceID).2
  | .lookupDeviceAlarmStatus pszDeviceID => (s.lookupDeviceAlarmStatus pszDeviceID).2
  | .addAlarmInfo pszDeviceID alarminfo => s.addAlarmInfo pszDeviceID alarminfo
  | .removeAlarming pszDeviceID => s.removeAlarming pszDeviceID

/-- The device ID an operation looks up. -/
def StoreCall.lookedUp : StoreCall → Option CStr
  | .lookupDevice pszDeviceID => some pszDeviceID
  | .lookupDeviceAlarmStatus pszDeviceID => some pszDeviceID
  | _ => none

/-- A lookup of an unknown ID changes neither table. -/
def UnknownUnchanged (s : CDataStore) (c : StoreCall) : Prop :=
  ∀ id, c.lookedUp = some id → id ∉ s.m_DeviceIDMap →
    (storeStep s c).m_DeviceIDMap = s.m_DeviceIDMap ∧ (storeStep s c).m_GUIDMap = s.m_GUIDMap

/-- The ID and the GUID are paired with nothing else. -/
def CDataStore.FreeFor (s : CDataStore) (pszDeviceID pszGUID : CStr) : Prop :=
  (∀ g, s.lookupGUID pszDeviceID = some g → g = pszGUID) ∧
    ∀ id : CStr, id.length = 20 → s.lookupDeviceID pszGUID = some id → id = pszDeviceID

/-- The GUID is paired with no 20-character ID. -/
def CDataStore.NoID (s : CDataStore) (pszGUID : CStr) : Prop :=
  ∀ id : CStr, id.length = 20 → s.lookupDeviceID pszGUID ≠ some id

/-- The operation does not part the tables: it adds no pair over another one, removes by either key
only what has no partner, and reads through `operator[]` only what is there. -/
def StoreCall.Fits (s : CDataStore) : StoreCall → Prop
  | .addDeviceID pszDeviceID pszGUID => s.FreeFor pszDeviceID pszGUID
  | .addGUID pszGUID pszDeviceID => s.FreeFor pszDeviceID pszGUID
  | .addDeviceObjectByGUID _ _ => True
  | .removeDevice pszDeviceID => s.lookupGUID pszDeviceID = none
  | .removeDeviceItemByGUID pszGUID => s.NoID pszGUID
  | .removeDeviceByGUID pszGUID =>
    ∀ obj, s.m_ObjectMap.lookup pszGUID = some obj →
      ∀ g, g = pszGUID ∨ g ∈ obj.subDevStrGUIDs → s.NoID g
  | .lookupDevice pszDeviceID => pszDeviceID ∈ s.m_DeviceIDMap
  | .lookupDeviceAlarmStatus pszDeviceID => pszDeviceID ∈ s.m_DeviceIDMap
  | .addAlarmInfo pszDeviceID _ => pszDeviceID.length = 20 → pszDeviceID ∈ s.m_DeviceIDMap
  | .removeAlarming pszDeviceID => pszDeviceID.length = 20 → pszDeviceID ∈ s.m_DeviceIDMap

/-! ## One operation -/

namespace CDataStore

variable {s : CDataStore}

theorem inverse_of_tables {s' : CDataStore} (hids : s'.m_DeviceIDMap = s.m_DeviceIDMap)
    (hguids : s'.m_GUIDMap = s.m_GUIDMap) : s'.Inverse ↔ s.Inverse := by
  rw [inverse_iff, inverse_iff, hids, hguids]

theorem inverse_add_iff (h : s.Inverse) (pszDeviceID pszGUID : CStr) :
    (s.addDeviceID pszDeviceID pszGUID).Inverse ↔ s.FreeFor pszDeviceID pszGUID := by
  rw [inverse_iff] at h
  rw [inverse_iff, addDeviceID, h.insert_iff, FreeFor]
  refine and_congr ?_ Iff.rfl
  rw [lookupGUID]
  split
  · rename_i hlen
    exact iff_of_true (fun hid => absurd hid hlen) nofun
  · rename_i hlen
    exact forall_prop_of_true (not_not.mp hlen)

theorem inverse_removeDevice_iff (h : s.Inverse) (pszDeviceID : CStr) :
    (s.removeDevice pszDeviceID).Inverse ↔ s.lookupGUID pszDeviceID = none := by
  rw [inverse_iff] at h
  rw [inverse_iff, m_DeviceIDMap_removeDevice, m_GUIDMap_removeDevice, h.erase_fwd_iff, lookupGUID]
  split
  · rename_i hlen
    exact iff_of_true (fun hid => absurd hid hlen) rfl
  · rename_i hlen
    exact forall_prop_of_true (not_not.mp hlen)

theorem inverse_remove_iff (h : s.Inverse) {s' : CDataStore} (out : CStr → Prop)
    [DecidablePred out] (hids : s'.m_DeviceIDMap = s.m_DeviceIDMap)
    (hguids : ∀ x, s'.lookupDeviceID x = if out x then none else s.lookupDeviceID x) :
    s'.Inverse ↔ ∀ g, out g → s.NoID g := by
  rw [inverse_iff] at h
  rw [inverse_iff, hids]
  exact h.erase_bwd_iff out hguids

theorem inverse_removeDeviceByGUID_iff (h : s.Inverse) (pszGUID : CStr) :
    (s.removeDeviceByGUID pszGUID).Inverse ↔
      ∀ obj, s.m_ObjectMap.lookup pszGUID = some obj →
        ∀ g, g = pszGUID ∨ g ∈ obj.subDevStrGUIDs → s.NoID g := by
  cases hobj : s.m_ObjectMap.lookup pszGUID with
  | none =>
    have hsame : s.removeDeviceByGUID pszGUID = s := by
      unfold removeDeviceByGUID
      rw [hobj]
    rw [hsame]
    refine iff_of_true h fun obj hsome => ?_
    cases hsome
  | some obj =>
    obtain ⟨hids, hguids⟩ := tables_removeDeviceByGUID hobj
    rw [inverse_remove_iff h (fun g => g = pszGUID ∨ g ∈ obj.subDevStrGUIDs) hids hguids]
    simp only [Option.some.injEq, forall_eq']

theorem inverse_touch_iff (h : s.Inverse) {s' : CDataStore} {pszDeviceID : CStr}
    (hids : s'.m_DeviceIDMap = s.m_DeviceIDMap.touch pszDeviceID [])
    (hguids : s'.m_GUIDMap = s.m_GUIDMap) :
    s'.Inverse ↔ (pszDeviceID.length = 20 → pszDeviceID ∈ s.m_DeviceIDMap) := by
  rw [inverse_iff] at h
  rw [inverse_iff, hids, hguids]
  exact h.touch_fwd_iff pszDeviceID []

theorem lookup_exact_iff (h : s.Inverse) {c : StoreCall} {pszDeviceID : CStr}
    (hc : c.lookedUp = some pszDeviceID) (hstep : storeStep s c = s.touchDeviceID pszDeviceID) :
    ((storeStep s c).Inverse ∧ UnknownUnchanged s c) ↔ pszDeviceID ∈ s.m_DeviceIDMap := by
  have htouch : (s.touchDeviceID pszDeviceID).Inverse ↔
      (pszDeviceID.length = 20 → pszDeviceID ∈ s.m_DeviceIDMap) :=
    inverse_touch_iff h rfl rfl
  rw [UnknownUnchanged, hstep, htouch]
  constructor
  · rintro ⟨-, hsame⟩
    by_contra hnot
    have hin : pszDeviceID ∈ (s.touchDeviceID pszDeviceID).m_DeviceIDMap := Map.mem_touch _ _ _
    rw [(hsame pszDeviceID hc hnot).1] at hin
    exact hnot hin
  · intro hmem
    refine ⟨fun _ => hmem, fun id hid hnot => ?_⟩
    rw [hc] at hid
    exact absurd (Option.some.inj hid ▸ hmem) hnot

end CDataStore

/-- **One operation** on a store with inverse tables. -/
theorem step_inverse_iff (s : CDataStore) (c : StoreCall) (h : s.Inverse) :
    ((storeStep s c).Inverse ∧ UnknownUnchanged s c) ↔ c.Fits s := by
  -- an operation that is no lookup has nothing to leave unchanged
  have hother : c.lookedUp = none → UnknownUnchanged s c := by
    intro hnone id hid
    rw [hnone] at hid
    cases hid
  cases c with
  | addDeviceID pszDeviceID pszGUID =>
    rw [and_iff_left (hother rfl)]
    exact CDataStore.inverse_add_iff h pszDeviceID pszGUID
  | addGUID pszGUID pszDeviceID =>
    rw [and_iff_left (hother rfl)]
    exact CDataStore.inverse_add_iff h pszDeviceID pszGUID
  | addDeviceObjectByGUID pszGUID pDevObj =>
    rw [and_iff_left (hother rfl)]
    exact iff_of_true ((CDataStore.inverse_of_tables rfl rfl).mpr h) trivial
  | removeDevice pszDeviceID =>
    rw [and_iff_left (hother rfl)]
    exact CDataStore.inverse_removeDevice_iff h pszDeviceID
  | removeDeviceItemByGUID pszGUID =>
    rw [and_iff_left (hother rfl), StoreCall.Fits, storeStep,
      CDataStore.inverse_remove_iff h (fun g => g = pszGUID)
        (CDataStore.m_DeviceIDMap_removeDeviceItemByGUID pszGUID s)
        (fun x => CDataStore.lookupDeviceID_removeDeviceItemByGUID pszGUID x s)]
    exact forall_eq
  | removeDeviceByGUID pszGUID =>
    rw [and_iff_left (hother rfl)]
    exact CDataStore.inverse_removeDeviceByGUID_iff h pszGUID
  | lookupDevice pszDeviceID => exact CDataStore.lookup_exact_iff h rfl rfl
  | lookupDeviceAlarmStatus pszDeviceID => exact CDataStore.lookup_exact_iff h rfl rfl
  | addAlarmInfo pszDeviceID alarminfo =>
    obtain ⟨hids, hguids⟩ := CDataStore.tables_addAlarmInfo pszDeviceID alarminfo s
    rw [and_iff_left (hother rfl)]
    exact CDataStore.inverse_touch_iff h hids hguids
  | removeAlarming pszDeviceID =>
    obtain ⟨hids, hguids⟩ := CDataStore.tables_removeAlarming pszDeviceID s
    rw [and_iff_left (hother rfl)]
    exact CDataStore.inverse_touch_iff h hids hguids

/-! ## Runs -/

theorem CDataStore.inverse_empty : ({} : CDataStore).Inverse :=
  (CDataStore.inverse_iff {}).mpr InverseOn.empty

/-- **Every state reached from the empty store has inverse tables, and no lookup of an unknown ID
changes them**, exactly when every operation fits the store it meets. -/
theorem inverse_iff_fits (cs : List StoreCall) :
    (∀ p ∈ calls storeStep {} cs, (storeStep p.1 p.2).Inverse ∧ UnknownUnchanged p.1 p.2) ↔
      ∀ p ∈ calls storeStep {} cs, p.2.Fits p.1 :=
  @forall_calls_iff _ _ storeStep (fun s c => c.Fits s) UnknownUnchanged CDataStore.Inverse
    step_inverse_iff {} cs CDataStore.inverse_empty

/-- A lookup of an unknown ID in the empty store leaves it paired with the empty GUID, and an ID
given to a second device leaves the first one with an ID that leads to the second. -/
theorem lookup_parts_tables :
    ¬ (∀ p ∈ calls storeStep {} [StoreCall.lookupDevice (str "34020000001320000001")],
        (storeStep p.1 p.2).Inverse ∧ UnknownUnchanged p.1 p.2) ∧
      ¬ (∀ p ∈ calls storeStep {} [StoreCall.addGUID (str "{A}") (str "34020000001320000001"),
          StoreCall.addGUID (str "{B}") (str "34020000001320000001")],
        (storeStep p.1 p.2).Inverse ∧ UnknownUnchanged p.1 p.2) := by
  constructor
  · intro h
    have hinv := (h _ List.mem_cons_self).1 (str "34020000001320000001") (by decide) []
    revert hinv
    decide
  · intro h
    have hinv := (h _ (List.mem_cons_of_mem _ List.mem_cons_self)).1
      (str "34020000001320000001") (by decide) (str "{A}")
    revert hinv
    decide

end GB28181.Platform
