import GB28181.Platform.CatalogLayer

/-!
# Deleting undoes adding (`DevInfo/CatalogLayer.cpp`)

In a tree the five maps are determined by the devices, as maps of keys to sets of keys.  So is the
number of levels an operation creates or removes.

* `sameCatalog_of_tree` — two trees over the same devices agree;
* `addDevice_layers`, `delDevice_layers` — `AddDevice` creates the codes no device has yet,
  `DelDevice` removes those no other device has;
* `delDevice_undoes_addDevice` — **after every run, deleting a device just added restores the maps
  and returns the same number of levels**.
-/

set_option autoImplicit false

namespace GB28181.Platform

open GB28181.Base GB28181.GBUtils

/-! ## The maps as sets of keys -/

/-- A map as the set of keys under each key. -/
def keySets (m : CounterMap) (k : CStr) : Option (Finset CStr) := (m.lookup k).map Finmap.keys

/-- The five maps agree as maps of keys to sets of keys. -/
structure SameCatalog (c c' : CCatalogLayer) : Prop where
  province : keySets c.m_oProvinceCount = keySets c'.m_oProvinceCount
  city : keySets c.m_oCityCount = keySets c'.m_oCityCount
  district : keySets c.m_oDistrictCount = keySets c'.m_oDistrictCount
  station : keySets c.m_oStationCount = keySets c'.m_oStationCount
  device : c.m_oDeviceQueue.keys = c'.m_oDeviceQueue.keys

theorem keySets_eq_of_groups {f : CStr → CStr} {S : CStr → Prop} {m m' : CounterMap}
    (h : Groups f S m) (h' : Groups f S m') : keySets m = keySets m' := by
  funext k
  unfold keySets
  have hmem : k ∈ m ↔ k ∈ m' := by rw [h.mem_iff, h'.mem_iff]
  cases hl : m.lookup k with
  | none =>
    have hk' : k ∉ m' := fun hk' => Finmap.lookup_eq_none.mp hl (hmem.mpr hk')
    rw [Finmap.lookup_eq_none.mpr hk']
  | some l =>
    obtain ⟨l', hl'⟩ := Finmap.mem_iff.mp (hmem.mp (Finmap.mem_iff.mpr ⟨l, hl⟩))
    rw [hl', Option.map_some, Option.map_some]
    congr 1
    ext x
    rw [Finmap.mem_keys, Finmap.mem_keys, h.list_iff hl, h'.list_iff hl']

theorem sameCatalog_of_tree {c c' : CCatalogLayer} (h : Tree c) (h' : Tree c')
    (hq : ∀ d, d ∈ c'.m_oDeviceQueue ↔ d ∈ c.m_oDeviceQueue) : SameCatalog c c' := by
  have station' := h'.station.congr hq
  have hs : ∀ x, x ∈ c'.m_oStationCount ↔ x ∈ c.m_oStationCount := fun x => by
    rw [station'.mem_iff, h.station.mem_iff]
  have district' := h'.district.congr hs
  have hd : ∀ x, x ∈ c'.m_oDistrictCount ↔ x ∈ c.m_oDistrictCount := fun x => by
    rw [district'.mem_iff, h.district.mem_iff]
  have city' := h'.city.congr hd
  have hc : ∀ x, x ∈ c'.m_oCityCount ↔ x ∈ c.m_oCityCount := fun x => by
    rw [city'.mem_iff, h.city.mem_iff]
  have province' := h'.province.congr hc
  exact
    { province := keySets_eq_of_groups h.province province'
      city := keySets_eq_of_groups h.city city'
      district := keySets_eq_of_groups h.district district'
      station := keySets_eq_of_groups h.station station'
      device := by
        ext d
        rw [Finmap.mem_keys, Finmap.mem_keys, hq] }

/-! ## The number of levels -/

/-- Some device has the first `n` characters of `id`. -/
def Known (S : CStr → Prop) (n : Nat) (id : CStr) : Prop := ∃ d, S d ∧ d.take n = id.take n

theorem Known.mono {S : CStr → Prop} {m n : Nat} {id : CStr} (h : Known S n id) (hmn : m ≤ n) :
    Known S m id := by
  obtain ⟨d, hd, hn⟩ := h
  refine ⟨d, hd, ?_⟩
  calc d.take m = (d.take n).take m := by rw [List.take_take, Nat.min_eq_left hmn]
    _ = (id.take n).take m := by rw [hn]
    _ = id.take m := by rw [List.take_take, Nat.min_eq_left hmn]

theorem known_level {S T : CStr → Prop} {m n : Nat} (hmn : m ≤ n)
    (hT : ∀ x, T x ↔ ∃ d, S d ∧ d.take n = x) (k : CStr) :
    (∃ x, T x ∧ x.take m = k) ↔ ∃ d, S d ∧ d.take m = k := by
  constructor
  · rintro ⟨x, hx, hk⟩
    obtain ⟨d, hd, rfl⟩ := (hT x).mp hx
    exact ⟨d, hd, by rw [← hk, List.take_take, Nat.min_eq_left hmn]⟩
  · rintro ⟨d, hd, hk⟩
    refine ⟨d.take n, (hT _).mpr ⟨d, hd, rfl⟩, ?_⟩
    rw [← hk, List.take_take, Nat.min_eq_left hmn]

/-- The codes of a tree are those of its devices. -/
structure Codes (c : CCatalogLayer) : Prop where
  station : ∀ k, k ∈ c.m_oStationCount ↔ ∃ d, d ∈ c.m_oDeviceQueue ∧ d.take 8 = k
  district : ∀ k, k ∈ c.m_oDistrictCount ↔ ∃ d, d ∈ c.m_oDeviceQueue ∧ d.take 6 = k
  city : ∀ k, k ∈ c.m_oCityCount ↔ ∃ d, d ∈ c.m_oDeviceQueue ∧ d.take 4 = k
  province : ∀ k, k ∈ c.m_oProvinceCount ↔ ∃ d, d ∈ c.m_oDeviceQueue ∧ d.take 2 = k

theorem Tree.codes {c : CCatalogLayer} (h : Tree c) : Codes c := by
  have station := h.station.mem_iff
  have district : ∀ k, k ∈ c.m_oDistrictCount ↔ ∃ d, d ∈ c.m_oDeviceQueue ∧ d.take 6 = k :=
    fun k => (h.district.mem_iff k).trans (known_level (by decide) station k)
  have city : ∀ k, k ∈ c.m_oCityCount ↔ ∃ d, d ∈ c.m_oDeviceQueue ∧ d.take 4 = k :=
    fun k => (h.city.mem_iff k).trans (known_level (by decide) district k)
  have province : ∀ k, k ∈ c.m_oProvinceCount ↔ ∃ d, d ∈ c.m_oDeviceQueue ∧ d.take 2 = k :=
    fun k => (h.province.mem_iff k).trans (known_level (by decide) city k)
  exact ⟨station, district, city, province⟩

open scoped Classical in
/-- The number of the levels in which no thing of `S` has the code of `id`. -/
noncomputable def missingLevels (S : CStr → Prop) (id : CStr) : Int :=
  if Known S 8 id then 0
  else if Known S 6 id then 1
  else if Known S 4 id then 2
  else if Known S 2 id then 3
  else 4

theorem addCatalog_nLayer (nLayer : Int) (szParent szID : CStr) (up down : CounterMap) :
    (addCatalog nLayer szParent szID up down).nLayer =
      nLayer + if szID ∈ down then 0 else 1 := by
  unfold addCatalog
  split
  · rw [Int.add_zero]
  · rfl

theorem addDevice_nLayer {c : CCatalogLayer} {id : CStr} (hid : id ∉ c.m_oDeviceQueue) :
    (addDevice c id).1 =
      (if id.take 2 ∈ c.m_oProvinceCount then 0 else 1) +
        (if id.take 4 ∈ c.m_oCityCount then 0 else 1) +
        (if id.take 6 ∈ c.m_oDistrictCount then 0 else 1) +
        (if id.take 8 ∈ c.m_oStationCount then 0 else 1) := by
  simp only [← stringCpy_s_succ]
  rw [show addDevice c id = _ from if_neg hid]
  dsimp only
  rw [addCatalog_nLayer, addCatalog_nLayer, addCatalog_nLayer]
  rfl

/-- **Adding creates the codes no device has yet.** -/
theorem addDevice_layers {c : CCatalogLayer} (h : Tree c) {id : CStr}
    (hid : id ∉ c.m_oDeviceQueue) :
    (addDevice c id).1 = missingLevels (· ∈ c.m_oDeviceQueue) id := by
  have codes := h.codes
  have station : id.take 8 ∈ c.m_oStationCount ↔ Known (· ∈ c.m_oDeviceQueue) 8 id :=
    codes.station _
  have district : id.take 6 ∈ c.m_oDistrictCount ↔ Known (· ∈ c.m_oDeviceQueue) 6 id :=
    codes.district _
  have city : id.take 4 ∈ c.m_oCityCount ↔ Known (· ∈ c.m_oDeviceQueue) 4 id := codes.city _
  have province : id.take 2 ∈ c.m_oProvinceCount ↔ Known (· ∈ c.m_oDeviceQueue) 2 id :=
    codes.province _
  rw [addDevice_nLayer hid]
  unfold missingLevels
  by_cases h8 : Known (· ∈ c.m_oDeviceQueue) 8 id
  · have h6 := h8.mono (by decide : 6 ≤ 8)
    have h4 := h8.mono (by decide : 4 ≤ 8)
    have h2 := h8.mono (by decide : 2 ≤ 8)
    rw [if_pos h8, if_pos (station.mpr h8), if_pos (district.mpr h6), if_pos (city.mpr h4),
      if_pos (province.mpr h2)]
    rfl
  rw [if_neg h8, if_neg (mt station.mp h8)]
  by_cases h6 : Known (· ∈ c.m_oDeviceQueue) 6 id
  · have h4 := h6.mono (by decide : 4 ≤ 6)
    have h2 := h6.mono (by decide : 2 ≤ 6)
    rw [if_pos h6, if_pos (district.mpr h6), if_pos (city.mpr h4), if_pos (province.mpr h2)]
    rfl
  rw [if_neg h6, if_neg (mt district.mp h6)]
  by_cases h4 : Known (· ∈ c.m_oDeviceQueue) 4 id
  · have h2 := h4.mono (by decide : 2 ≤ 4)
    rw [if_pos h4, if_pos (city.mpr h4), if_pos (province.mpr h2)]
    rfl
  rw [if_neg h4, if_neg (mt city.mp h4)]
  by_cases h2 : Known (· ∈ c.m_oDeviceQueue) 2 id
  · rw [if_pos h2, if_pos (province.mpr h2)]
    rfl
  · rw [if_neg h2, if_neg (mt province.mp h2)]
    rfl

/-- A block of `DelDevice` keeps its list exactly when something else is in it; otherwise the codes
left are those of the things left. -/
theorem removeCatalog_known {n : Nat} {S : CStr → Prop} {m : CounterMap}
    (h : Groups (·.take n) S m) {szID child : CStr} (hc : S child) (hk : child.take n = szID) :
    ((∃ x, (S x ∧ x ≠ child) ∧ x.take n = szID) ∧ ∃ m', removeCatalog szID child m = .kept m') ∨
      ((¬ ∃ x, (S x ∧ x ≠ child) ∧ x.take n = szID) ∧
        ∃ m', removeCatalog szID child m = .emptied m' ∧
          ∀ x, (x ∈ m ∧ x ≠ szID) ↔ ∃ y, (S y ∧ y ≠ child) ∧ y.take n = x) := by
  have hszID : szID ∈ m := hk ▸ h.mem hc
  rcases removeCatalog_groups h hc hk (fun _ => Iff.rfl) with
    ⟨m', hr, hgroups, hkeys⟩ | ⟨m', hr, hgroups, hkeys⟩
  · refine Or.inl ⟨?_, m', hr⟩
    exact (hgroups.mem_iff szID).mp ((hkeys szID).mpr hszID)
  · refine Or.inr ⟨fun hx => ?_, m', hr, fun x => (hkeys x).symm.trans (hgroups.mem_iff x)⟩
    exact ((hkeys szID).mp ((hgroups.mem_iff szID).mpr hx)).2 rfl

/-- **Deleting removes the codes no other device has.** -/
theorem delDevice_layers {c : CCatalogLayer} (h : Tree c) {id : CStr}
    (hid : id ∈ c.m_oDeviceQueue) :
    (delDevice c id).1 = missingLevels (fun d => d ∈ c.m_oDeviceQueue ∧ d ≠ id) id := by
  have take_take : ∀ m n : Nat, m ≤ n → (id.take n).take m = id.take m := fun m n hmn => by
    rw [List.take_take, Nat.min_eq_left hmn]
  have hstation₀ := h.station.mem hid
  have hdistrict₀ : id.take 6 ∈ c.m_oDistrictCount :=
    take_take 6 8 (by decide) ▸ h.district.mem hstation₀
  have hcity₀ : id.take 4 ∈ c.m_oCityCount := take_take 4 6 (by decide) ▸ h.city.mem hdistrict₀
  rw [show delDevice c id = _ from if_neg (not_not.mpr hid)]
  simp only [CCatalogLayer.lock, CCatalogLayer.unlock, stringCpy_s_succ]
  unfold missingLevels Known
  -- level by level: the call ends at the first list that another device keeps from being empty
  rcases removeCatalog_known h.station hid rfl with ⟨hk, m, hr⟩ | ⟨hk, m, hr, station⟩ <;> rw [hr]
  · exact (if_pos hk).symm
  rw [if_neg hk]
  have known₆ := known_level (by decide : 6 ≤ 8) station
  rcases removeCatalog_known h.district hstation₀ (take_take 6 8 (by decide)) with
    ⟨hk, m, hr⟩ | ⟨hk, m, hr, district⟩ <;> simp only [hr]
  · exact (if_pos ((known₆ _).mp hk)).symm
  rw [if_neg (mt (known₆ _).mpr hk)]
  have known₄ := known_level (by decide : 4 ≤ 6) fun x => (district x).trans (known₆ x)
  rcases removeCatalog_known h.city hdistrict₀ (take_take 4 6 (by decide)) with
    ⟨hk, m, hr⟩ | ⟨hk, m, hr, city⟩ <;> simp only [hr]
  · exact (if_pos ((known₄ _).mp hk)).symm
  rw [if_neg (mt (known₄ _).mpr hk)]
  have known₂ := known_level (by decide : 2 ≤ 4) fun x => (city x).trans (known₄ x)
  rcases removeCatalog_known h.province hcity₀ (take_take 2 4 (by decide)) with
    ⟨hk, m, hr⟩ | ⟨hk, m, hr, -⟩ <;> simp only [hr]
  · exact (if_pos ((known₂ _).mp hk)).symm
  · exact (if_neg (mt (known₂ _).mpr hk)).symm

/-! ## Adding and deleting -/

theorem addDevice_queue_iff {c : CCatalogLayer} {id : CStr} (hid : id ∉ c.m_oDeviceQueue)
    (x : CStr) :
    x ∈ (addDevice c id).2.m_oDeviceQueue ↔ x = id ∨ x ∈ c.m_oDeviceQueue := by
  rw [show addDevice c id = _ from if_neg hid]
  exact Finmap.mem_insert

theorem delDevice_queue_iff {c : CCatalogLayer} {id : CStr} (hid : id ∈ c.m_oDeviceQueue)
    (x : CStr) :
    x ∈ (delDevice c id).2.m_oDeviceQueue ↔ x ≠ id ∧ x ∈ c.m_oDeviceQueue := by
  have hqueue : (delDevice c id).2.m_oDeviceQueue = c.m_oDeviceQueue.erase id := by
    rw [show delDevice c id = _ from if_neg (not_not.mpr hid)]
    dsimp only
    repeat' split
    all_goals rfl
  rw [hqueue, Finmap.mem_erase]

/-- **Deleting undoes adding.**  After every run of calls on device IDs, adding a device that is
not there and deleting it restores the five maps, and both calls return the same number. -/
theorem delDevice_undoes_addDevice (calls : List CatalogCall) (id : DeviceID)
    (hid : id.val ∉ (run catalogStep {} calls).m_oDeviceQueue) :
    SameCatalog (run catalogStep {} calls)
        (delDevice (addDevice (run catalogStep {} calls) id).2 id).2 ∧
      (delDevice (addDevice (run catalogStep {} calls) id).2 id).1 =
        (addDevice (run catalogStep {} calls) id).1 := by
  have htree := (run_catalogInv calls).tree
  generalize run catalogStep {} calls = c at *
  have hadded := addDevice_tree htree id
  have hqueue := addDevice_queue_iff hid
  have hmem : id.val ∈ (addDevice c id).2.m_oDeviceQueue := (hqueue id).mpr (Or.inl rfl)
  -- the devices other than the one added are those there were
  have hothers : ∀ d, (d ∈ (addDevice c id).2.m_oDeviceQueue ∧ d ≠ id) ↔ d ∈ c.m_oDeviceQueue := by
    intro d
    rw [hqueue]
    constructor
    · rintro ⟨rfl | hd, hne⟩
      · exact absurd rfl hne
      · exact hd
    · intro hd
      exact ⟨Or.inr hd, fun he => hid (he ▸ hd)⟩
  constructor
  · apply sameCatalog_of_tree htree (delDevice_tree hadded id).1
    intro d
    rw [delDevice_queue_iff hmem, and_comm, hothers]
  · rw [delDevice_layers hadded hmem, addDevice_layers htree hid]
    congr 1
    funext d
    exact propext (hothers d)

/-- A camera of a province in which there is none yet. -/
theorem delDevice_undoes_addDevice_first :
    SameCatalog {} (delDevice (addDevice {} (str "34020000001320000001")).2
        (str "34020000001320000001")).2 ∧
      (delDevice (addDevice {} (str "34020000001320000001")).2 (str "34020000001320000001")).1 =
        (addDevice {} (str "34020000001320000001")).1 :=
  delDevice_undoes_addDevice [] ⟨str "34020000001320000001", by decide⟩ Finmap.notMem_empty

end GB28181.Platform
