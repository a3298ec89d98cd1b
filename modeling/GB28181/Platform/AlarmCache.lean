import GB28181.Platform.CatalogTraversal
import GB28181.Platform.DataStore

/-!
# The cache of alarms (`CDataStore` in `DataManager/DataStore.cpp`)

`AddAlarmInfo` puts an alarm at the end of the list of its device, `GetRecentAlarmAll` reads the
front of every list, and `RemoveAlarming` empties the cache for one device.  Devices without a GUID
share a list.

* `AlarmRun` — the store in a run of calls, with the device and the alarm of every call that led to
  what is cached;
* `CacheInv` — the lists as they are while every call fits;
* `recentAlarms_iff` — the cache does what it should **exactly when no device is given a second
  alarm that differs from its last one, and alarms are only removed while no other device has any**.
-/

set_option autoImplicit false

namespace GB28181.Platform

open GB28181.Base

/-! ## Runs of calls -/

/-- `GetRecentAlarmAll`: `item.second[0]` of every list, none where a list is empty. -/
def CDataStore.getRecentAlarmAll (O : MapOrder) (s : CDataStore) : Option (List DeviceAlarmInfo) :=
  collect (fun k => (s.m_oAlarmingDeviceMap.index k []).head?.map fun item => [item])
    (O.keys s.m_oAlarmingDeviceMap)

/-- A device of an alarm: a GUID, or a device ID that the store knows no GUID for. -/
inductive AlarmDevice
  | ofGUID (strGUID : CStr)
  | ofID (pszDeviceID : CStr)
  deriving DecidableEq

def AlarmDevice.key : AlarmDevice → CStr
  | .ofGUID strGUID => strGUID
  | .ofID _ => []

def deviceOf (s : CDataStore) (pszDeviceID : CStr) : AlarmDevice :=
  let strGUID := s.m_DeviceIDMap.index pszDeviceID []
  if strGUID = [] then .ofID pszDeviceID else .ofGUID strGUID

inductive AlarmCall
  | addAlarmInfo (pszDeviceID : CStr) (alarminfo : DeviceAlarmInfo)
  | removeAlarming (pszDeviceID : Option CStr)
  | getRecentAlarmAll

/-- The store in a run of calls; `cached` has the device of every alarm in the cache, `last` the
alarm that a device was given last. -/
structure AlarmRun where
  store : CDataStore
  cached : Map CStr (List (AlarmDevice × DeviceAlarmInfo)) := ∅
  last : AlarmDevice → Option DeviceAlarmInfo := fun _ => none

def AlarmRun.alarmsOf (r : AlarmRun) (dev : AlarmDevice) : List DeviceAlarmInfo :=
  ((r.cached.index dev.key []).filter fun item => item.1 = dev).map Prod.snd

def alarmStep (r : AlarmRun) : AlarmCall → AlarmRun
  | .addAlarmInfo pszDeviceID alarminfo =>
    let dev := deviceOf r.store pszDeviceID
    let items := r.cached.index dev.key []
    { store := r.store.addAlarmInfo pszDeviceID alarminfo
      cached :=
        if items.length ≥ 200 then r.cached
        else r.cached.insert dev.key (items ++ [(dev, alarminfo)])
      last := Function.update r.last dev (some alarminfo) }
  | .removeAlarming none => r
  | .removeAlarming (some pszDeviceID) =>
    let dev := deviceOf r.store pszDeviceID
    { r with
      store := r.store.removeAlarming pszDeviceID
      cached := if (r.cached.index dev.key []).length = 0 then r.cached.touch dev.key [] else ∅ }
  | .getRecentAlarmAll => r

def startAlarms (s : CDataStore) : AlarmRun := { store := { s with m_oAlarmingDeviceMap := ∅ } }

/-! ## What should hold -/

/-- `GetRecentAlarmAll` returns, in some order, the last alarm of every device with alarms. -/
def RecentReturned (O : MapOrder) (r : AlarmRun) : Prop :=
  ∃ (alarms : List DeviceAlarmInfo) (devs : List AlarmDevice),
    r.store.getRecentAlarmAll O = some alarms ∧
    devs.Nodup ∧ (∀ dev, dev ∈ devs ↔ r.alarmsOf dev ≠ []) ∧
    (alarms.map some).Perm (devs.map r.last)

/-- What a call does: an alarm of a device that the store knows is its status, and the alarms that
go are those of the device. -/
def AlarmCallRight (r : AlarmRun) (call : AlarmCall) : Prop :=
  match call with
  | .addAlarmInfo pszDeviceID alarminfo =>
    (r.store.lookupDevice pszDeviceID).1.isSome →
      ((alarmStep r call).store.lookupDeviceAlarmStatus pszDeviceID).1 = some alarminfo
  | .removeAlarming (some pszDeviceID) =>
    ∀ dev, (alarmStep r call).alarmsOf dev =
      if dev = deviceOf r.store pszDeviceID then [] else r.alarmsOf dev
  | _ => True

def AlarmCallFits (r : AlarmRun) : AlarmCall → Prop
  | .addAlarmInfo pszDeviceID alarminfo =>
    let dev := deviceOf r.store pszDeviceID
    let ncount := (r.store.m_oAlarmingDeviceMap.index dev.key []).length
    if r.alarmsOf dev = [] then ncount = 0 ∨ 200 ≤ ncount else r.last dev = some alarminfo
  | .removeAlarming (some pszDeviceID) =>
    let dev := deviceOf r.store pszDeviceID
    r.alarmsOf dev ≠ [] ∧ ∀ dev', r.alarmsOf dev' ≠ [] → dev' = dev
  | _ => True

/-! ## What the calls do to the store -/

namespace CDataStore

theorem setDeviceAlarmStatus_cache (pszGUID : CStr) (alarminfo : DeviceAlarmInfo)
    (s : CDataStore) :
    (s.setDeviceAlarmStatus pszGUID alarminfo).m_oAlarmingDeviceMap = s.m_oAlarmingDeviceMap := by
  unfold setDeviceAlarmStatus
  split
  · rfl
  · rfl

theorem setDeviceAlarmStatus_lookup (pszGUID : CStr) (alarminfo : DeviceAlarmInfo)
    (s : CDataStore) (g : CStr) :
    (s.setDeviceAlarmStatus pszGUID alarminfo).m_ObjectMap.lookup g =
      (s.m_ObjectMap.lookup g).map fun obj =>
        if g = pszGUID then obj.setAlarmInfo alarminfo else obj := by
  unfold setDeviceAlarmStatus
  by_cases hg : g = pszGUID
  · subst hg
    cases hobj : s.m_ObjectMap.lookup g with
    | none =>
      dsimp only
      rw [hobj]
      rfl
    | some obj =>
      dsimp only
      rw [Map.lookup_insert_ite, if_pos rfl, Option.map_some, if_pos rfl]
  · have hid : (s.m_ObjectMap.lookup g).map
        (fun obj => if g = pszGUID then obj.setAlarmInfo alarminfo else obj) =
        s.m_ObjectMap.lookup g := by
      simp only [if_neg hg, Option.map_id']
    rw [hid]
    split
    · rfl
    · exact (Map.lookup_insert_ite _ _ _ _).trans (if_neg hg)

/-- A list that is full stays as it is, and the status of its device, too. -/
theorem addAlarmInfo_full {s : CDataStore} {pszDeviceID : CStr} (alarminfo : DeviceAlarmInfo)
    (h : 200 ≤ (s.m_oAlarmingDeviceMap.index (s.m_DeviceIDMap.index pszDeviceID []) []).length) :
    s.addAlarmInfo pszDeviceID alarminfo = s.touchDeviceID pszDeviceID :=
  if_pos h

theorem addAlarmInfo_room {s : CDataStore} {pszDeviceID : CStr} (alarminfo : DeviceAlarmInfo)
    (h : ¬ 200 ≤ (s.m_oAlarmingDeviceMap.index (s.m_DeviceIDMap.index pszDeviceID []) []).length) :
    let strGUID := s.m_DeviceIDMap.index pszDeviceID []
    let cached :=
      { s.touchDeviceID pszDeviceID with
        m_oAlarmingDeviceMap := s.m_oAlarmingDeviceMap.insert strGUID
          (s.m_oAlarmingDeviceMap.index strGUID [] ++ [alarminfo]) }
    s.addAlarmInfo pszDeviceID alarminfo =
      if strGUID = [] then cached else cached.setDeviceAlarmStatus strGUID alarminfo :=
  if_neg h

theorem addAlarmInfo_cache {s : CDataStore} {pszDeviceID : CStr} (alarminfo : DeviceAlarmInfo)
    (h : ¬ 200 ≤ (s.m_oAlarmingDeviceMap.index (s.m_DeviceIDMap.index pszDeviceID []) []).length) :
    let strGUID := s.m_DeviceIDMap.index pszDeviceID []
    (s.addAlarmInfo pszDeviceID alarminfo).m_oAlarmingDeviceMap =
      s.m_oAlarmingDeviceMap.insert strGUID
        (s.m_oAlarmingDeviceMap.index strGUID [] ++ [alarminfo]) := by
  intro strGUID
  rw [addAlarmInfo_room alarminfo h]
  split
  · rfl
  · exact setDeviceAlarmStatus_cache _ _ _

theorem addAlarmInfo_lookup {s : CDataStore} {pszDeviceID : CStr} (alarminfo : DeviceAlarmInfo)
    (h : ¬ 200 ≤ (s.m_oAlarmingDeviceMap.index (s.m_DeviceIDMap.index pszDeviceID []) []).length)
    {g : CStr} (hg : g ≠ []) :
    (s.addAlarmInfo pszDeviceID alarminfo).m_ObjectMap.lookup g =
      (s.m_ObjectMap.lookup g).map fun obj =>
        if g = s.m_DeviceIDMap.index pszDeviceID [] then obj.setAlarmInfo alarminfo else obj := by
  rw [addAlarmInfo_room alarminfo h]
  split
  · rename_i hempty
    have hne : g ≠ s.m_DeviceIDMap.index pszDeviceID [] := fun he => hg (he.trans hempty)
    simp only [if_neg hne, Option.map_id']
    rfl
  · exact setDeviceAlarmStatus_lookup _ _ _ _

theorem removeAlarming_cache (pszDeviceID : CStr) (s : CDataStore) :
    let strGUID := s.m_DeviceIDMap.index pszDeviceID []
    (s.removeAlarming pszDeviceID).m_oAlarmingDeviceMap =
      if (s.m_oAlarmingDeviceMap.index strGUID []).length = 0
      then s.m_oAlarmingDeviceMap.touch strGUID [] else ∅ := by
  intro strGUID
  unfold removeAlarming
  dsimp only
  split
  · rename_i h
    exact (if_pos h).symm
  · rename_i h
    exact (if_neg h).symm

end CDataStore

theorem key_deviceOf (s : CDataStore) (pszDeviceID : CStr) :
    (deviceOf s pszDeviceID).key = s.m_DeviceIDMap.index pszDeviceID [] := by
  unfold deviceOf
  dsimp only
  split
  · rename_i h
    exact h.symm
  · rfl

theorem eq_deviceOf {s : CDataStore} {pszDeviceID : CStr} {dev : AlarmDevice}
    (hkey : dev.key = (deviceOf s pszDeviceID).key)
    (hne : s.m_DeviceIDMap.index pszDeviceID [] ≠ []) : dev = deviceOf s pszDeviceID := by
  rw [key_deviceOf] at hkey
  unfold deviceOf
  dsimp only
  rw [if_neg hne]
  cases dev with
  | ofGUID g => exact congrArg AlarmDevice.ofGUID hkey
  | ofID d => exact absurd hkey.symm hne

/-! ## The cache with its devices -/

/-- The cache is what stands in it for each device, under the key of the device. -/
structure CacheKept (r : AlarmRun) : Prop where
  cache : ∀ k, r.store.m_oAlarmingDeviceMap.lookup k = (r.cached.lookup k).map (List.map Prod.snd)
  keyed : ∀ k items, r.cached.lookup k = some items → ∀ item ∈ items, item.1.key = k

theorem CacheKept.index {r : AlarmRun} (h : CacheKept r) (k : CStr) :
    r.store.m_oAlarmingDeviceMap.index k [] = (r.cached.index k []).map Prod.snd := by
  unfold Map.index
  rw [h.cache]
  cases r.cached.lookup k with
  | none => rfl
  | some items => rfl

theorem CacheKept.index_keyed {r : AlarmRun} (h : CacheKept r) {k : CStr}
    {item : AlarmDevice × DeviceAlarmInfo} (hmem : item ∈ r.cached.index k []) :
    item.1.key = k := by
  cases hk : r.cached.lookup k with
  | none =>
    rw [Map.index, hk] at hmem
    exact absurd hmem List.not_mem_nil
  | some items =>
    rw [Map.index_of_lookup hk] at hmem
    exact h.keyed k items hk item hmem

theorem CacheKept.length_index {r : AlarmRun} (h : CacheKept r) (pszDeviceID : CStr) :
    (r.store.m_oAlarmingDeviceMap.index (r.store.m_DeviceIDMap.index pszDeviceID []) []).length =
      (r.cached.index (deviceOf r.store pszDeviceID).key []).length := by
  rw [← key_deviceOf, h.index, List.length_map]

theorem CacheKept.remove {r : AlarmRun} (h : CacheKept r) (pszDeviceID : CStr) :
    CacheKept (alarmStep r (.removeAlarming (some pszDeviceID))) := by
  have hcache := CDataStore.removeAlarming_cache pszDeviceID r.store
  dsimp only at hcache
  rw [h.length_index, ← key_deviceOf] at hcache
  constructor
  · intro k
    show (r.store.removeAlarming pszDeviceID).m_oAlarmingDeviceMap.lookup k = _
    rw [hcache]
    dsimp only [alarmStep]
    split
    · rw [Map.lookup_touch, Map.lookup_touch, h.index, h.cache]
      split
      · rfl
      · rfl
    · rw [Finmap.lookup_empty, Finmap.lookup_empty]
      rfl
  · intro k items hk
    dsimp only [alarmStep] at hk
    split at hk
    · rename_i hlen
      rw [Map.lookup_touch] at hk
      split at hk
      · obtain rfl := Option.some.inj hk
        rw [List.eq_nil_of_length_eq_zero hlen]
        exact fun _ hmem => absurd hmem List.not_mem_nil
      · exact h.keyed k items hk
    · rw [Finmap.lookup_empty] at hk
      cases hk

theorem CacheKept.add {r : AlarmRun} (h : CacheKept r) (pszDeviceID : CStr)
    (alarminfo : DeviceAlarmInfo) :
    CacheKept (alarmStep r (.addAlarmInfo pszDeviceID alarminfo)) := by
  have hlen := h.length_index pszDeviceID
  by_cases hfull : 200 ≤ (r.cached.index (deviceOf r.store pszDeviceID).key []).length
  · constructor
    · intro k
      dsimp only [alarmStep]
      rw [CDataStore.addAlarmInfo_full alarminfo (hlen ▸ hfull), if_pos hfull]
      exact h.cache k
    · intro k items hk
      dsimp only [alarmStep] at hk
      rw [if_pos hfull] at hk
      exact h.keyed k items hk
  · constructor
    · intro k
      dsimp only [alarmStep]
      rw [CDataStore.addAlarmInfo_cache alarminfo (hlen ▸ hfull), if_neg hfull, ← key_deviceOf,
        h.index, Map.lookup_insert_ite, Map.lookup_insert_ite, h.cache]
      split
      · simp
      · rfl
    · intro k items hk
      dsimp only [alarmStep] at hk
      rw [if_neg hfull, Map.lookup_insert_ite] at hk
      split at hk
      · rename_i hkey
        obtain rfl := Option.some.inj hk
        intro item hmem
        rcases List.mem_append.mp hmem with hmem | hmem
        · exact (h.index_keyed hmem).trans hkey.symm
        · rw [List.mem_singleton.mp hmem, hkey]
      · exact h.keyed k items hk

/-- **The cache in every run.** -/
theorem alarmStep_cacheKept {r : AlarmRun} (h : CacheKept r) (call : AlarmCall) :
    CacheKept (alarmStep r call) := by
  match call with
  | .getRecentAlarmAll => exact h
  | .removeAlarming none => exact h
  | .removeAlarming (some pszDeviceID) => exact h.remove pszDeviceID
  | .addAlarmInfo pszDeviceID alarminfo => exact h.add pszDeviceID alarminfo

theorem mem_alarmsOf {r : AlarmRun} {dev : AlarmDevice} {a : DeviceAlarmInfo} :
    a ∈ r.alarmsOf dev ↔ (dev, a) ∈ r.cached.index dev.key [] := by
  unfold AlarmRun.alarmsOf
  constructor
  · intro h
    obtain ⟨item, hitem, rfl⟩ := List.mem_map.mp h
    obtain ⟨hmem, hdev⟩ := List.mem_filter.mp hitem
    obtain rfl := of_decide_eq_true hdev
    exact hmem
  · intro h
    exact List.mem_map.mpr ⟨(dev, a), List.mem_filter.mpr ⟨h, decide_eq_true rfl⟩, rfl⟩

theorem alarmsOf_ne_nil_iff {r : AlarmRun} {dev : AlarmDevice} :
    r.alarmsOf dev ≠ [] ↔ ∃ a, (dev, a) ∈ r.cached.index dev.key [] := by
  constructor
  · intro h
    obtain ⟨a, ha⟩ := List.exists_mem_of_ne_nil _ h
    exact ⟨a, mem_alarmsOf.mp ha⟩
  · rintro ⟨a, ha⟩
    exact List.ne_nil_of_mem (mem_alarmsOf.mpr ha)

/-! ## What `GetRecentAlarmAll` reads -/

def AlarmRun.fronts (O : MapOrder) (r : AlarmRun) : List (AlarmDevice × DeviceAlarmInfo) :=
  (O.keys r.store.m_oAlarmingDeviceMap).filterMap fun k => (r.cached.index k []).head?

section Fronts

variable {r : AlarmRun}

theorem CacheKept.mem_cache_iff (h : CacheKept r) {k : CStr} :
    k ∈ r.store.m_oAlarmingDeviceMap ↔ ∃ items, r.cached.lookup k = some items := by
  rw [Finmap.mem_iff, h.cache]
  constructor
  · rintro ⟨alarms, halarms⟩
    obtain ⟨items, hitems, -⟩ := Option.map_eq_some_iff.mp halarms
    exact ⟨items, hitems⟩
  · rintro ⟨items, hitems⟩
    exact ⟨items.map Prod.snd, by rw [hitems, Option.map_some]⟩

theorem CacheKept.mem_fronts (h : CacheKept r) {O : MapOrder}
    {item : AlarmDevice × DeviceAlarmInfo} :
    item ∈ r.fronts O ↔ (r.cached.index item.1.key []).head? = some item := by
  unfold AlarmRun.fronts
  rw [List.mem_filterMap]
  constructor
  · rintro ⟨k, -, hhead⟩
    rwa [h.index_keyed (List.mem_of_head? hhead)]
  · intro hhead
    refine ⟨item.1.key, (O.mem_keys _ _).mpr (h.mem_cache_iff.mpr ?_), hhead⟩
    cases hk : r.cached.lookup item.1.key with
    | none =>
      rw [Map.index, hk] at hhead
      cases hhead
    | some items => exact ⟨items, rfl⟩

theorem CacheKept.nodup_fronts (h : CacheKept r) (O : KeyOrder) :
    ((r.fronts O.toMapOrder).map Prod.fst).Nodup := by
  unfold AlarmRun.fronts
  rw [List.map_filterMap]
  refine (O.nodup_keys _).filterMap fun k k' dev hk hk' => ?_
  obtain ⟨item, hitem, rfl⟩ := Option.map_eq_some_iff.mp hk
  obtain ⟨item', hitem', hdev⟩ := Option.map_eq_some_iff.mp hk'
  rw [← h.index_keyed (List.mem_of_head? hitem), ← h.index_keyed (List.mem_of_head? hitem'), hdev]

/-- **The fronts are read** where no list is empty. -/
theorem CacheKept.getRecentAlarmAll_eq (h : CacheKept r)
    (hne : ∀ k items, r.cached.lookup k = some items → items ≠ []) (O : MapOrder) :
    r.store.getRecentAlarmAll O = some ((r.fronts O).map Prod.snd) := by
  unfold CDataStore.getRecentAlarmAll AlarmRun.fronts
  rw [List.map_filterMap]
  simp only [h.index, List.head?_map]
  refine collect_head fun k hk => ?_
  obtain ⟨items, hitems⟩ := h.mem_cache_iff.mp ((O.mem_keys _ _).mp hk)
  rw [Map.index_of_lookup hitems, Option.isSome_map, List.isSome_head?]
  exact hne k items hitems

theorem CacheKept.not_returned_of_empty (h : CacheKept r) {k : CStr}
    (hk : r.cached.lookup k = some []) (O : MapOrder) : ¬ RecentReturned O r := by
  rintro ⟨alarms, devs, hget, -⟩
  have hsome := (collect_isSome_iff _ _).mp (Option.isSome_of_eq_some hget) k
    ((O.mem_keys _ _).mpr (h.mem_cache_iff.mpr ⟨[], hk⟩))
  rw [h.index, Map.index_of_lookup hk] at hsome
  cases hsome

/-- A device whose alarms stand behind those of another one is left out. -/
theorem CacheKept.not_returned_of_behind (h : CacheKept r)
    (hne : ∀ k items, r.cached.lookup k = some items → items ≠ []) {dev : AlarmDevice}
    (hdev : r.alarmsOf dev ≠ []) (O : KeyOrder)
    (hbehind : dev ∉ (r.fronts O.toMapOrder).map Prod.fst) :
    ¬ RecentReturned O.toMapOrder r := by
  rintro ⟨alarms, devs, hget, hnodup, hmem, hperm⟩
  have halarms := h.getRecentAlarmAll_eq hne O.toMapOrder
  rw [hget] at halarms
  obtain rfl := Option.some.inj halarms
  have hlen := hperm.length_eq
  simp only [List.length_map] at hlen
  -- the device and those of the fronts are more than the alarms returned
  have hcons : (dev :: (r.fronts O.toMapOrder).map Prod.fst).Nodup :=
    List.nodup_cons.mpr ⟨hbehind, h.nodup_fronts O⟩
  have hsub : dev :: (r.fronts O.toMapOrder).map Prod.fst ⊆ devs := by
    intro x hx
    rw [hmem]
    rcases List.mem_cons.mp hx with rfl | hx
    · exact hdev
    · obtain ⟨item, hitem, rfl⟩ := List.mem_map.mp hx
      exact alarmsOf_ne_nil_iff.mpr ⟨item.2, List.mem_of_head? (h.mem_fronts.mp hitem)⟩
  have hle := (hcons.subperm hsub).length_le
  rw [List.length_cons, List.length_map] at hle
  omega

end Fronts

/-! ## The cache while every call fits -/

/-- No list is empty, and none has alarms of two devices. -/
def OneDevice (r : AlarmRun) : Prop :=
  ∀ k items, r.cached.lookup k = some items →
    items ≠ [] ∧ ∀ x ∈ items, ∀ y ∈ items, x.1 = y.1

/-- Every cached alarm is the last one of its device, and its status. -/
structure CacheInv (r : AlarmRun) : Prop extends CacheKept r where
  recent : ∀ k items, r.cached.lookup k = some items →
    items ≠ [] ∧ ∀ x ∈ items, r.last x.1 = some x.2 ∧ ∀ y ∈ items, x = y
  status : ∀ k items obj, r.cached.lookup k = some items → k ≠ [] →
    r.store.m_ObjectMap.lookup k = some obj → ∀ x ∈ items, obj.getAlarmInfo = x.2

theorem CacheInv.oneDevice {r : AlarmRun} (h : CacheInv r) : OneDevice r := fun k items hk =>
  ⟨(h.recent k items hk).1, fun x hx y hy =>
    congrArg Prod.fst (((h.recent k items hk).2 x hx).2 y hy)⟩

theorem OneDevice.eq_of_mem {r : AlarmRun} (h : OneDevice r) {k : CStr}
    {x y : AlarmDevice × DeviceAlarmInfo} (hx : x ∈ r.cached.index k [])
    (hy : y ∈ r.cached.index k []) : x.1 = y.1 := by
  cases hk : r.cached.lookup k with
  | none =>
    rw [Map.index, hk] at hx
    exact absurd hx List.not_mem_nil
  | some items =>
    rw [Map.index_of_lookup hk] at hx hy
    exact (h k items hk).2 x hx y hy

theorem OneDevice.mem_fronts_iff {r : AlarmRun} (h : OneDevice r) (hkept : CacheKept r)
    (O : MapOrder) (dev : AlarmDevice) :
    dev ∈ (r.fronts O).map Prod.fst ↔ r.alarmsOf dev ≠ [] := by
  constructor
  · intro hdev
    obtain ⟨item, hitem, rfl⟩ := List.mem_map.mp hdev
    exact alarmsOf_ne_nil_iff.mpr ⟨item.2, List.mem_of_head? (hkept.mem_fronts.mp hitem)⟩
  · intro hdev
    obtain ⟨a, ha⟩ := alarmsOf_ne_nil_iff.mp hdev
    obtain ⟨item, hitem⟩ := Option.isSome_iff_exists.mp
      (List.isSome_head?.mpr (List.ne_nil_of_mem ha))
    have hfst : item.1 = dev := h.eq_of_mem (List.mem_of_head? hitem) ha
    refine List.mem_map.mpr ⟨item, hkept.mem_fronts.mpr ?_, hfst⟩
    rwa [hfst]

/-- **What is returned**, where every list is of one device. -/
theorem OneDevice.recentReturned_iff {r : AlarmRun} (h : OneDevice r) (hkept : CacheKept r)
    (O : KeyOrder) :
    RecentReturned O.toMapOrder r ↔
      ((r.fronts O.toMapOrder).map fun item => some item.2).Perm
        ((r.fronts O.toMapOrder).map fun item => r.last item.1) := by
  have hget := hkept.getRecentAlarmAll_eq (fun k items hk => (h k items hk).1) O.toMapOrder
  have hnodup := hkept.nodup_fronts O
  have hmem := h.mem_fronts_iff hkept O.toMapOrder
  have hsnd : ((r.fronts O.toMapOrder).map Prod.snd).map some =
      (r.fronts O.toMapOrder).map fun item => some item.2 := List.map_map
  have hfst : ((r.fronts O.toMapOrder).map Prod.fst).map r.last =
      (r.fronts O.toMapOrder).map fun item => r.last item.1 := List.map_map
  constructor
  · rintro ⟨alarms, devs, hget', hnodup', hmem', hperm⟩
    rw [hget] at hget'
    obtain rfl := Option.some.inj hget'
    have hdevs : devs.Perm ((r.fronts O.toMapOrder).map Prod.fst) :=
      (List.perm_ext_iff_of_nodup hnodup' hnodup).mpr fun dev => (hmem' dev).trans (hmem dev).symm
    rw [← hsnd, ← hfst]
    exact hperm.trans (hdevs.map r.last)
  · intro hperm
    refine ⟨_, _, hget, hnodup, hmem, ?_⟩
    rw [hsnd, hfst]
    exact hperm

/-- Two functions with the same values on a list, where they differ at one member at most. -/
theorem eq_of_perm_map {α β : Type} {f g : α → β} {l : List α} {x : α} (hx : x ∈ l)
    (hnodup : l.Nodup) (hother : ∀ y ∈ l, y ≠ x → f y = g y)
    (hperm : (l.map f).Perm (l.map g)) : f x = g x := by
  classical
  have hsplit := List.perm_cons_erase hx
  have hrest : (l.erase x).map f = (l.erase x).map g :=
    List.map_congr_left fun y hy =>
      hother y (List.mem_of_mem_erase hy) ((hnodup.mem_erase_iff.mp hy).1)
  have hcons : (f x :: (l.erase x).map g).Perm (g x :: (l.erase x).map g) := by
    rw [← hrest]
    exact (hsplit.map f).symm.trans (hperm.trans (hrest ▸ hsplit.map g))
  exact (Multiset.cons_inj_left (s := ((l.erase x).map g : Multiset β))).mp
    (Multiset.coe_eq_coe.mpr hcons)

theorem CacheInv.of_mem {r : AlarmRun} (h : CacheInv r) {k : CStr}
    {x : AlarmDevice × DeviceAlarmInfo} (hx : x ∈ r.cached.index k []) :
    r.last x.1 = some x.2 ∧ ∀ y ∈ r.cached.index k [], x = y := by
  cases hk : r.cached.lookup k with
  | none =>
    rw [Map.index, hk] at hx
    exact absurd hx List.not_mem_nil
  | some items =>
    rw [Map.index_of_lookup hk] at hx ⊢
    exact (h.recent k items hk).2 x hx

theorem CacheInv.returned {r : AlarmRun} (h : CacheInv r) (O : KeyOrder) :
    RecentReturned O.toMapOrder r := by
  rw [h.oneDevice.recentReturned_iff h.toCacheKept]
  refine List.Perm.of_eq (List.map_congr_left fun item hitem => ?_)
  exact ((h.of_mem (List.mem_of_head? (h.mem_fronts.mp hitem))).1).symm

/-! ## Adding an alarm -/

section Add

variable (r : AlarmRun) (pszDeviceID : CStr) (alarminfo : DeviceAlarmInfo)

theorem lookup_added (k : CStr) :
    let dev := deviceOf r.store pszDeviceID
    let items := r.cached.index dev.key []
    (alarmStep r (.addAlarmInfo pszDeviceID alarminfo)).cached.lookup k =
      if k = dev.key ∧ items.length < 200 then some (items ++ [(dev, alarminfo)])
      else r.cached.lookup k := by
  intro dev items
  dsimp only [alarmStep]
  by_cases hfull : 200 ≤ items.length
  · rw [if_pos hfull, if_neg fun h => absurd h.2 (by omega)]
  · rw [if_neg hfull, Map.lookup_insert_ite]
    simp only [show items.length < 200 by omega, and_true]
    rfl

theorem index_added (k : CStr) :
    let dev := deviceOf r.store pszDeviceID
    let items := r.cached.index dev.key []
    (alarmStep r (.addAlarmInfo pszDeviceID alarminfo)).cached.index k [] =
      if k = dev.key ∧ items.length < 200 then items ++ [(dev, alarminfo)]
      else r.cached.index k [] := by
  intro dev items
  unfold Map.index
  rw [lookup_added]
  split
  · rfl
  · rfl

variable {r pszDeviceID alarminfo}

theorem CacheInv.eq_of_fits (h : CacheInv r)
    (hfits : AlarmCallFits r (.addAlarmInfo pszDeviceID alarminfo))
    {x : AlarmDevice × DeviceAlarmInfo}
    (hx : x ∈ r.cached.index (deviceOf r.store pszDeviceID).key [])
    (hdev : x.1 = deviceOf r.store pszDeviceID ∨
      (r.cached.index (deviceOf r.store pszDeviceID).key []).length < 200) :
    x = (deviceOf r.store pszDeviceID, alarminfo) := by
  dsimp only [AlarmCallFits] at hfits
  rw [h.index, List.length_map] at hfits
  have hlength := List.length_pos_of_mem hx
  split at hfits
  · rename_i hempty
    have hx1 := hdev.resolve_right (by omega)
    exact absurd hempty (alarmsOf_ne_nil_iff.mpr ⟨x.2, by rwa [← hx1] at hx ⊢⟩)
  · rename_i hsome
    obtain ⟨a, ha⟩ := alarmsOf_ne_nil_iff.mp hsome
    have hlast := (h.of_mem ha).1
    rw [hfits] at hlast
    rw [Option.some.inj hlast]
    exact ((h.of_mem ha).2 x hx).symm

/-- **A call that fits** keeps the cache. -/
theorem CacheInv.add (h : CacheInv r)
    (hfits : AlarmCallFits r (.addAlarmInfo pszDeviceID alarminfo)) :
    CacheInv (alarmStep r (.addAlarmInfo pszDeviceID alarminfo)) := by
  refine { alarmStep_cacheKept h.toCacheKept _ with recent := ?_, status := ?_ }
  · intro k items' hk
    rw [lookup_added] at hk
    split at hk
    · rename_i hroom
      obtain rfl := Option.some.inj hk
      have hall : ∀ x ∈ r.cached.index (deviceOf r.store pszDeviceID).key [] ++
          [(deviceOf r.store pszDeviceID, alarminfo)],
          x = (deviceOf r.store pszDeviceID, alarminfo) := by
        intro x hx
        rcases List.mem_append.mp hx with hx | hx
        · exact h.eq_of_fits hfits hx (Or.inr hroom.2)
        · exact List.mem_singleton.mp hx
      refine ⟨List.append_ne_nil_of_right_ne_nil _ (List.cons_ne_nil _ _), fun x hx => ?_⟩
      obtain rfl := hall x hx
      exact ⟨Function.update_self _ _ _, fun y hy => (hall y hy).symm⟩
    · refine ⟨(h.recent k items' hk).1, fun x hx => ⟨?_, ((h.recent k items' hk).2 x hx).2⟩⟩
      by_cases hdev : x.1 = deviceOf r.store pszDeviceID
      · have hmem : x ∈ r.cached.index (deviceOf r.store pszDeviceID).key [] := by
          rw [← hdev, h.keyed k items' hk x hx, Map.index_of_lookup hk]
          exact hx
        rw [h.eq_of_fits hfits hmem (Or.inl hdev)]
        exact Function.update_self _ _ _
      · exact (Function.update_of_ne hdev _ _).trans ((h.recent k items' hk).2 x hx).1
  · intro k items' obj hk hne hobj x hx
    have hlen := h.length_index pszDeviceID
    dsimp only [alarmStep] at hobj
    rw [lookup_added] at hk
    by_cases hfull : 200 ≤ (r.cached.index (deviceOf r.store pszDeviceID).key []).length
    · rw [CDataStore.addAlarmInfo_full alarminfo (hlen ▸ hfull)] at hobj
      rw [if_neg fun hroom => absurd hroom.2 (by omega)] at hk
      exact h.status k items' obj hk hne hobj x hx
    · rw [CDataStore.addAlarmInfo_lookup alarminfo (hlen ▸ hfull) hne, ← key_deviceOf] at hobj
      obtain ⟨old, hold, rfl⟩ := Option.map_eq_some_iff.mp hobj
      by_cases hkey : k = (deviceOf r.store pszDeviceID).key
      · rw [if_pos ⟨hkey, by omega⟩] at hk
        obtain rfl := Option.some.inj hk
        rw [if_pos hkey, DeviceObject.getAlarmInfo_setAlarmInfo]
        rcases List.mem_append.mp hx with hx | hx
        · exact (congrArg Prod.snd (h.eq_of_fits hfits hx (Or.inr (by omega)))).symm
        · exact (congrArg Prod.snd (List.mem_singleton.mp hx)).symm
      · rw [if_neg fun hroom => hkey hroom.1] at hk
        rw [if_neg hkey]
        exact h.status k items' old hk hne hold x hx

/-- The alarm is in the list of its device, which is full only of this alarm. -/
theorem CacheInv.mem_added (h : CacheInv r)
    (hfits : AlarmCallFits r (.addAlarmInfo pszDeviceID alarminfo))
    (hne : r.store.m_DeviceIDMap.index pszDeviceID [] ≠ []) :
    (deviceOf r.store pszDeviceID, alarminfo) ∈
      (alarmStep r (.addAlarmInfo pszDeviceID alarminfo)).cached.index
        (deviceOf r.store pszDeviceID).key [] := by
  rw [index_added]
  split
  · exact List.mem_append_right _ List.mem_cons_self
  · rename_i hfull
    have hlength : ¬ (r.cached.index (deviceOf r.store pszDeviceID).key []).length < 200 :=
      fun hlt => hfull ⟨rfl, hlt⟩
    obtain ⟨x, hx⟩ := List.exists_mem_of_length_pos
      (show 0 < (r.cached.index (deviceOf r.store pszDeviceID).key []).length by omega)
    have hdev : x.1 = deviceOf r.store pszDeviceID := eq_deviceOf (h.index_keyed hx) hne
    rwa [h.eq_of_fits hfits hx (Or.inl hdev)] at hx

theorem CacheInv.add_right (h : CacheInv r)
    (hfits : AlarmCallFits r (.addAlarmInfo pszDeviceID alarminfo)) :
    AlarmCallRight r (.addAlarmInfo pszDeviceID alarminfo) := by
  intro hknown
  let s' := r.store.addAlarmInfo pszDeviceID alarminfo
  have hkey := key_deviceOf r.store pszDeviceID
  have hids : s'.m_DeviceIDMap.index pszDeviceID [] =
      r.store.m_DeviceIDMap.index pszDeviceID [] := by
    rw [(CDataStore.tables_addAlarmInfo pszDeviceID alarminfo r.store).1, Map.index_touch]
  -- the object is there before and after the call
  have hne : r.store.m_DeviceIDMap.index pszDeviceID [] ≠ [] := by
    intro hempty
    rw [CDataStore.lookupDevice, CDataStore.lookupDeviceByGUID, if_pos hempty] at hknown
    cases hknown
  rw [CDataStore.lookupDevice, CDataStore.lookupDeviceByGUID, if_neg hne] at hknown
  obtain ⟨obj, hobj⟩ := Option.isSome_iff_exists.mp hknown
  have hstored : ∃ obj',
      s'.m_ObjectMap.lookup (r.store.m_DeviceIDMap.index pszDeviceID []) = some obj' := by
    by_cases hfull : 200 ≤ (r.store.m_oAlarmingDeviceMap.index
        (r.store.m_DeviceIDMap.index pszDeviceID []) []).length
    · have hsame : s' = r.store.touchDeviceID pszDeviceID :=
        CDataStore.addAlarmInfo_full alarminfo hfull
      exact ⟨obj, hsame ▸ hobj⟩
    · have hset := CDataStore.addAlarmInfo_lookup alarminfo hfull hne
      rw [show r.store.m_ObjectMap.lookup _ = some obj from hobj, Option.map_some] at hset
      exact ⟨_, hset⟩
  obtain ⟨obj', hobj'⟩ := hstored
  have hmem := h.mem_added hfits hne
  have hinv := h.add hfits
  show ((s'.lookupDeviceByGUID (s'.m_DeviceIDMap.index pszDeviceID [])).map
    DeviceObject.getAlarmInfo) = some alarminfo
  rw [hids, CDataStore.lookupDeviceByGUID, if_neg hne, hobj', Option.map_some]
  cases hlookup : (alarmStep r (.addAlarmInfo pszDeviceID alarminfo)).cached.lookup
      (deviceOf r.store pszDeviceID).key with
  | none =>
    rw [Map.index, hlookup] at hmem
    exact absurd hmem List.not_mem_nil
  | some items =>
    rw [Map.index_of_lookup hlookup] at hmem
    exact congrArg some
      (hinv.status _ items obj' hlookup (hkey ▸ hne) (hkey ▸ hobj') _ hmem)

theorem head?_added
    (hne : r.cached.index (deviceOf r.store pszDeviceID).key [] ≠ []) (k : CStr) :
    ((alarmStep r (.addAlarmInfo pszDeviceID alarminfo)).cached.index k []).head? =
      (r.cached.index k []).head? := by
  rw [index_added]
  split
  · rename_i hroom
    rw [hroom.1, List.head?_append_of_ne_nil _ hne]
  · rfl

theorem CacheInv.lists_ne_nil_added (h : CacheInv r) :
    ∀ k items, (alarmStep r (.addAlarmInfo pszDeviceID alarminfo)).cached.lookup k = some items →
      items ≠ [] := by
  intro k items hk
  rw [lookup_added] at hk
  split at hk
  · obtain rfl := Option.some.inj hk
    exact List.append_ne_nil_of_right_ne_nil _ (List.cons_ne_nil _ _)
  · exact (h.recent k items hk).1

/-- **A call that does not fit** leaves an alarm out. -/
theorem CacheInv.fits_of_returned (h : CacheInv r) (O : KeyOrder)
    (hreturned : RecentReturned O.toMapOrder
      (alarmStep r (.addAlarmInfo pszDeviceID alarminfo))) :
    AlarmCallFits r (.addAlarmInfo pszDeviceID alarminfo) := by
  let r' := alarmStep r (.addAlarmInfo pszDeviceID alarminfo)
  let dev := deviceOf r.store pszDeviceID
  have hkept : CacheKept r' := alarmStep_cacheKept h.toCacheKept _
  have hlists : ∀ k items, r'.cached.lookup k = some items → items ≠ [] := h.lists_ne_nil_added
  dsimp only [AlarmCallFits]
  rw [h.index, List.length_map]
  split
  · rename_i hempty
    by_contra hroom
    have hne : r.cached.index dev.key [] ≠ [] := fun he => hroom (Or.inl (by
      show (r.cached.index dev.key []).length = 0
      rw [he, List.length_nil]))
    -- the alarm of the device stands behind those of another one
    have hadded : (dev, alarminfo) ∈ r'.cached.index dev.key [] := by
      rw [index_added, if_pos ⟨rfl, by omega⟩]
      exact List.mem_append_right _ List.mem_cons_self
    refine hkept.not_returned_of_behind hlists (alarmsOf_ne_nil_iff.mpr ⟨alarminfo, hadded⟩) O
      (fun hmem => ?_) hreturned
    obtain ⟨item, hitem, hdev⟩ := List.mem_map.mp hmem
    have hhead := hkept.mem_fronts.mp hitem
    rw [head?_added hne, show item = (dev, item.2) from Prod.ext hdev rfl] at hhead
    exact alarmsOf_ne_nil_iff.mpr ⟨item.2, List.mem_of_head? hhead⟩ hempty
  · rename_i hsome
    obtain ⟨a, ha⟩ := alarmsOf_ne_nil_iff.mp hsome
    have hne : r.cached.index dev.key [] ≠ [] := List.ne_nil_of_mem ha
    have hone : OneDevice r' := by
      refine fun k items hk => ⟨hlists k items hk, fun x hx y hy => ?_⟩
      have hk' := hk
      rw [lookup_added] at hk'
      split at hk'
      · obtain rfl := Option.some.inj hk'
        have hall : ∀ x ∈ r.cached.index dev.key [] ++ [(dev, alarminfo)], x.1 = dev := by
          intro x hx
          rcases List.mem_append.mp hx with hx | hx
          · exact h.oneDevice.eq_of_mem hx ha
          · rw [List.mem_singleton.mp hx]
        exact (hall x hx).trans (hall y hy).symm
      · exact (h.oneDevice k items hk').2 x hx y hy
    have hperm := (hone.recentReturned_iff hkept O).mp hreturned
    -- the front of the device's list is the alarm of before
    have hhead : (r.cached.index dev.key []).head? = some (dev, a) := by
      obtain ⟨x, hx⟩ := Option.isSome_iff_exists.mp (List.isSome_head?.mpr hne)
      rw [hx, (h.of_mem ha).2 x (List.mem_of_head? hx)]
    have hfront : (dev, a) ∈ r'.fronts O.toMapOrder := by
      rw [hkept.mem_fronts, head?_added hne]
      exact hhead
    have hlast := eq_of_perm_map hfront (hkept.nodup_fronts O).of_map (fun y hy hyx => ?_) hperm
    · rw [(h.of_mem ha).1, hlast]
      exact Function.update_self _ _ _
    · have hy' := hkept.mem_fronts.mp hy
      rw [head?_added hne] at hy'
      have hmem := List.mem_of_head? hy'
      have hyd : y.1 ≠ dev := fun hd => by
        rw [hd] at hmem
        exact hyx ((h.of_mem ha).2 y hmem).symm
      rw [← (h.of_mem hmem).1]
      exact (Function.update_of_ne hyd _ _).symm

end Add

/-! ## Removing alarms -/

section Remove

variable {r : AlarmRun} {pszDeviceID : CStr}

/-- The cache is emptied, or a list without alarms is made for the device. -/
theorem alarmsOf_removed (dev : AlarmDevice) :
    (alarmStep r (.removeAlarming (some pszDeviceID))).alarmsOf dev =
      if (r.cached.index (deviceOf r.store pszDeviceID).key []).length = 0 then r.alarmsOf dev
      else [] := by
  unfold AlarmRun.alarmsOf
  dsimp only [alarmStep]
  split
  · rw [Map.index_touch_other]
  · rfl

/-- **A call that fits** empties the cache of the alarms of its device, which are all it has. -/
theorem CacheInv.remove (h : CacheInv r)
    (hfits : AlarmCallFits r (.removeAlarming (some pszDeviceID))) :
    CacheInv (alarmStep r (.removeAlarming (some pszDeviceID))) ∧
      AlarmCallRight r (.removeAlarming (some pszDeviceID)) := by
  obtain ⟨hsome, hall⟩ := hfits
  obtain ⟨a, ha⟩ := alarmsOf_ne_nil_iff.mp hsome
  have hlength : (r.cached.index (deviceOf r.store pszDeviceID).key []).length ≠ 0 :=
    (List.length_pos_of_mem ha).ne'
  have hcached : (alarmStep r (.removeAlarming (some pszDeviceID))).cached = ∅ :=
    if_neg hlength
  refine ⟨{ alarmStep_cacheKept h.toCacheKept _ with recent := ?_, status := ?_ }, fun dev => ?_⟩
  · intro k items hk
    rw [hcached, Finmap.lookup_empty] at hk
    cases hk
  · intro k items obj hk
    rw [hcached, Finmap.lookup_empty] at hk
    cases hk
  · rw [alarmsOf_removed, if_neg hlength]
    split
    · rfl
    · rename_i hdev
      by_contra hne
      exact hdev (hall dev (Ne.symm hne))

theorem CacheKept.not_returned_of_removed (h : CacheKept r) (O : MapOrder)
    (hempty : r.cached.index (deviceOf r.store pszDeviceID).key [] = []) :
    ¬ RecentReturned O (alarmStep r (.removeAlarming (some pszDeviceID))) := by
  have hlookup : (alarmStep r (.removeAlarming (some pszDeviceID))).cached.lookup
      (deviceOf r.store pszDeviceID).key = some [] := by
    dsimp only [alarmStep]
    rw [if_pos (List.length_eq_zero_iff.mpr hempty), Map.lookup_touch, if_pos rfl, hempty]
  exact (alarmStep_cacheKept h _).not_returned_of_empty hlookup O

/-- **A call that does not fit** leaves a list without alarms, or removes those of others. -/
theorem CacheInv.fits_of_removed (h : CacheInv r) (O : KeyOrder)
    (hreturned : RecentReturned O.toMapOrder (alarmStep r (.removeAlarming (some pszDeviceID))))
    (hright : AlarmCallRight r (.removeAlarming (some pszDeviceID))) :
    AlarmCallFits r (.removeAlarming (some pszDeviceID)) := by
  by_cases hlength : (r.cached.index (deviceOf r.store pszDeviceID).key []).length = 0
  · exact absurd hreturned
      (h.not_returned_of_removed O.toMapOrder (List.eq_nil_of_length_eq_zero hlength))
  · have hone : ∀ dev, r.alarmsOf dev ≠ [] → dev = deviceOf r.store pszDeviceID := by
      intro dev hdev
      by_contra hne
      have := hright dev
      rw [alarmsOf_removed, if_neg hlength, if_neg hne] at this
      exact hdev this.symm
    refine ⟨?_, hone⟩
    obtain ⟨x, hx⟩ := List.exists_mem_of_length_pos (Nat.pos_of_ne_zero hlength)
    have hsome : r.alarmsOf x.1 ≠ [] := by
      refine alarmsOf_ne_nil_iff.mpr ⟨x.2, ?_⟩
      rwa [h.index_keyed hx]
    rwa [← hone x.1 hsome]

end Remove

/-! ## Every run -/

theorem startAlarms_inv (s : CDataStore) : CacheInv (startAlarms s) where
  cache k := by
    show (∅ : Map CStr (List DeviceAlarmInfo)).lookup k = _
    rw [Finmap.lookup_empty]
    rfl
  keyed k items hk := absurd hk (by rw [startAlarms, Finmap.lookup_empty]; exact nofun)
  recent k items hk := absurd hk (by rw [startAlarms, Finmap.lookup_empty]; exact nofun)
  status k items obj hk := absurd hk (by rw [startAlarms, Finmap.lookup_empty]; exact nofun)

/-- **Every sequence of calls.**  After every call the last alarms are returned and the call did
what it should, exactly when every call fits what is cached when it is made. -/
theorem recentAlarms_iff (O : KeyOrder) (s : CDataStore) (is : List AlarmCall) :
    (RecentReturned O.toMapOrder (startAlarms s) ∧
      ∀ p ∈ calls alarmStep (startAlarms s) is,
        RecentReturned O.toMapOrder (alarmStep p.1 p.2) ∧ AlarmCallRight p.1 p.2) ↔
      ∀ p ∈ calls alarmStep (startAlarms s) is, AlarmCallFits p.1 p.2 := by
  have hstart := startAlarms_inv s
  rw [and_iff_right (hstart.returned O)]
  refine @forall_calls_iff_of_keep _ _ alarmStep AlarmCallFits
    (fun r call => RecentReturned O.toMapOrder (alarmStep r call) ∧ AlarmCallRight r call) CacheInv
    ?_ ?_ (startAlarms s) is hstart
  · intro r call h hfits
    match call with
    | .addAlarmInfo d a => exact h.add hfits
    | .removeAlarming (some d) => exact (h.remove hfits).1
    | .removeAlarming none => exact h
    | .getRecentAlarmAll => exact h
  · intro r call h
    match call with
    | .addAlarmInfo d a =>
      exact ⟨fun hq => h.fits_of_returned O hq.1,
        fun hfits => ⟨(h.add hfits).returned O, h.add_right hfits⟩⟩
    | .removeAlarming (some d) =>
      exact ⟨fun hq => h.fits_of_removed O hq.1 hq.2,
        fun hfits => ⟨(h.remove hfits).1.returned O, (h.remove hfits).2⟩⟩
    | .removeAlarming none => exact iff_of_true ⟨h.returned O, trivial⟩ trivial
    | .getRecentAlarmAll => exact iff_of_true ⟨h.returned O, trivial⟩ trivial

/-- The alarms of a device that has none are removed: its list is there then, and empty. -/
theorem recentAlarms_behind_end :
    ¬ ∀ (O : KeyOrder) (s : CDataStore) (is : List AlarmCall),
      ∀ p ∈ calls alarmStep (startAlarms s) is,
        RecentReturned O.toMapOrder (alarmStep p.1 p.2) ∧ AlarmCallRight p.1 p.2 := by
  intro h
  have hcall := h KeyOrder.some {} [.removeAlarming (some (str "34020000001340000001"))] _
    List.mem_cons_self
  refine (startAlarms_inv {}).not_returned_of_removed KeyOrder.some.toMapOrder ?_ hcall.1
  rw [startAlarms, Map.index, Finmap.lookup_empty, Option.getD_none]

end GB28181.Platform
