import GB28181.Base.Fibre
import GB28181.Base.Run
import GB28181.GBUtils.Utils

/-!
# The catalogue tree (`GB28181.Platform/DevInfo/CatalogLayer.cpp`)

`CCatalogLayer` counts, for every province, city, district and station code, the codes or devices
below it.  `m_oLock` is the depth to which the section is entered.

* `Tree` — **every level indexes the level below it by prefix**;
* `addDevice_tree`, `delDevice_tree` — both operations keep the tree;
* `catalogue_agrees` — what the tree says of each map in terms of the stored devices, after every
  run of operations; no run meets an error branch of `DelDevice`.
-/

set_option autoImplicit false

namespace GB28181.Platform

open GB28181.Base GB28181.GBUtils

/-- `CCatalogList`. -/
abbrev CatalogList := Map CStr Int

/-- `CounterMap`; every pointer stored in it is the only one to its list. -/
abbrev CounterMap := Map CStr CatalogList

structure CCatalogLayer where
  m_oProvinceCount : CounterMap := ∅
  m_oCityCount : CounterMap := ∅
  m_oDistrictCount : CounterMap := ∅
  m_oStationCount : CounterMap := ∅
  m_oDeviceQueue : Map CStr Int := ∅
  m_oLock : Int := 0
  deriving DecidableEq

namespace CCatalogLayer

def lock (c : CCatalogLayer) : CCatalogLayer := { c with m_oLock := c.m_oLock + 1 }

def unlock (c : CCatalogLayer) : CCatalogLayer := { c with m_oLock := c.m_oLock - 1 }

end CCatalogLayer

/-! ## Adding -/

/-- The maps of a level and the level below it, with the count of the levels created. -/
structure Added where
  nLayer : Int
  up : CounterMap
  down : CounterMap

/-- One of the three blocks of `AddDevice` for a code `szID` below `szParent`: where the code is
new it gets a list of its own and is entered into `pListTmp`, the list of `szParent`. -/
def addCatalog (nLayer : Int) (szParent szID : CStr) (up down : CounterMap) : Added :=
  if szID ∈ down then ⟨nLayer, up, down⟩
  else ⟨nLayer + 1, Map.modify up szParent ∅ (·.insert szID nLayer), down.insert szID ∅⟩

def addDevice (c : CCatalogLayer) (pszDeviceID : CStr) : Int × CCatalogLayer :=
  let c := c.lock
  if pszDeviceID ∈ c.m_oDeviceQueue then (-1, c.unlock)
  else
    let szProvince := stringCpy_s 3 pszDeviceID
    let szCity := stringCpy_s 5 pszDeviceID
    let szDistrict := stringCpy_s 7 pszDeviceID
    let szStation := stringCpy_s 9 pszDeviceID
    let province :=
      if szProvince ∈ c.m_oProvinceCount then c.m_oProvinceCount
      else c.m_oProvinceCount.insert szProvince ∅
    let nLayer := if szProvince ∈ c.m_oProvinceCount then 0 else 1
    let city := addCatalog nLayer szProvince szCity province c.m_oCityCount
    let district := addCatalog city.nLayer szCity szDistrict city.down c.m_oDistrictCount
    let station := addCatalog district.nLayer szDistrict szStation district.down c.m_oStationCount
    (station.nLayer,
      { c with
        m_oDeviceQueue := c.m_oDeviceQueue.insert pszDeviceID 0
        m_oProvinceCount := city.up
        m_oCityCount := district.up
        m_oDistrictCount := station.up
        m_oStationCount :=
          Map.modify station.down szStation ∅ (·.insert pszDeviceID station.nLayer) }.unlock)

/-! ## Deleting -/

/-- What taking an entry out of a list does to its map. -/
inductive Removal where
  | missing
  | kept (m : CounterMap)
  | emptied (m : CounterMap)

/-- One of the four blocks of `DelDevice`: `child` is taken out of the list of `szID`, and an
empty list out of the map. -/
def removeCatalog (szID child : CStr) (m : CounterMap) : Removal :=
  match m.lookup szID with
  | none => .missing
  | some pList =>
    let pList := pList.erase child
    if Map.isEmpty pList then .emptied (m.erase szID) else .kept (m.insert szID pList)

/-- `DelDevice`.  It returns from inside a list that keeps entries, without `Unlock`. -/
def delDevice (c : CCatalogLayer) (pszDeviceID : CStr) : Int × CCatalogLayer :=
  let c := c.lock
  if pszDeviceID ∉ c.m_oDeviceQueue then (-1, c.unlock)
  else
    let c := { c with m_oDeviceQueue := c.m_oDeviceQueue.erase pszDeviceID }
    let szProvince := stringCpy_s 3 pszDeviceID
    let szCity := stringCpy_s 5 pszDeviceID
    let szDistrict := stringCpy_s 7 pszDeviceID
    let szStation := stringCpy_s 9 pszDeviceID
    match removeCatalog szStation pszDeviceID c.m_oStationCount with
    | .missing => (-5, c.unlock)
    | .kept m => (0, { c with m_oStationCount := m })
    | .emptied m =>
      let c := { c with m_oStationCount := m }
      match removeCatalog szDistrict szStation c.m_oDistrictCount with
      | .missing => (-4, c.unlock)
      | .kept m => (1, { c with m_oDistrictCount := m })
      | .emptied m =>
        let c := { c with m_oDistrictCount := m }
        match removeCatalog szCity szDistrict c.m_oCityCount with
        | .missing => (-3, c.unlock)
        | .kept m => (2, { c with m_oCityCount := m })
        | .emptied m =>
          let c := { c with m_oCityCount := m }
          match removeCatalog szProvince szCity c.m_oProvinceCount with
          | .missing => (-2, c.unlock)
          | .kept m => (3, { c with m_oProvinceCount := m })
          | .emptied m => (4, { c with m_oProvinceCount := m }.unlock)

/-! ## The tree -/

/-- Every level indexes the level below it by the prefix of its own length. -/
structure Tree (c : CCatalogLayer) : Prop where
  station : Groups (·.take 8) (· ∈ c.m_oDeviceQueue) c.m_oStationCount
  district : Groups (·.take 6) (· ∈ c.m_oStationCount) c.m_oDistrictCount
  city : Groups (·.take 4) (· ∈ c.m_oDistrictCount) c.m_oCityCount
  province : Groups (·.take 2) (· ∈ c.m_oCityCount) c.m_oProvinceCount

theorem tree_empty : Tree {} := by
  constructor <;> exact Groups.empty.congr fun c => by simp [Finmap.notMem_empty]

theorem touch_eq_ite (m : CounterMap) (k : CStr) :
    Map.touch m k ∅ = if k ∈ m then m else m.insert k ∅ := by
  split
  · rename_i h; exact Map.touch_of_mem h ∅
  · rename_i h; rw [Map.touch, Map.index_of_not_mem h]

/-- What a block of `AddDevice` leaves: a list for the code, the codes it found in the level
above, and that level an index. -/
theorem addCatalog_groups {n : Nat} {up down : CounterMap}
    (h : Groups (·.take n) (· ∈ down) up) (nLayer : Int) {szParent szID : CStr}
    (hp : szID.take n = szParent) :
    (addCatalog nLayer szParent szID (Map.touch up szParent ∅) down).down =
        Map.touch down szID ∅ ∧
      (∀ x, x ∈ (addCatalog nLayer szParent szID (Map.touch up szParent ∅) down).up ↔
        x ∈ Map.touch up szParent ∅) ∧
      Groups (·.take n) (· ∈ Map.touch down szID ∅)
        (addCatalog nLayer szParent szID (Map.touch up szParent ∅) down).up := by
  subst hp
  unfold addCatalog
  split
  · rename_i hmem
    rw [Map.touch_of_mem hmem, Map.touch_of_mem (h.mem hmem)]
    exact ⟨rfl, fun x => Iff.rfl, h⟩
  · rename_i hmem
    rw [Map.modify_touch]
    refine ⟨by rw [touch_eq_ite, if_neg hmem], fun x => ?_, ?_⟩
    · rw [Map.modify, Map.touch, Finmap.mem_insert, Finmap.mem_insert]
    · exact (h.add szID nLayer).congr fun c => by rw [Map.touch, Finmap.mem_insert]

/-- **Adding keeps the tree.** -/
theorem addDevice_tree {c : CCatalogLayer} (h : Tree c) (pszDeviceID : CStr) :
    Tree (addDevice c pszDeviceID).2 := by
  have take_take : ∀ m n : Nat, m ≤ n →
      (pszDeviceID.take n).take m = pszDeviceID.take m := fun m n hmn => by
    rw [List.take_take, Nat.min_eq_left hmn]
  unfold addDevice
  simp only [CCatalogLayer.lock, CCatalogLayer.unlock, stringCpy_s_succ, ← touch_eq_ite]
  split
  · exact ⟨h.station, h.district, h.city, h.province⟩
  · generalize (if pszDeviceID.take 2 ∈ c.m_oProvinceCount then (0 : Int) else 1) = nLayer
    obtain ⟨hdown₁, -, hprovince⟩ :=
      addCatalog_groups h.province nLayer (take_take 2 4 (by decide))
    rw [hdown₁]
    generalize addCatalog nLayer (pszDeviceID.take 2) (pszDeviceID.take 4)
      (Map.touch c.m_oProvinceCount (pszDeviceID.take 2) ∅) c.m_oCityCount = city at *
    obtain ⟨hdown₂, hkeys₂, hcity⟩ :=
      addCatalog_groups h.city city.nLayer (take_take 4 6 (by decide))
    rw [hdown₂]
    generalize addCatalog city.nLayer (pszDeviceID.take 4) (pszDeviceID.take 6)
      (Map.touch c.m_oCityCount (pszDeviceID.take 4) ∅) c.m_oDistrictCount = district at *
    obtain ⟨hdown₃, hkeys₃, hdistrict⟩ :=
      addCatalog_groups h.district district.nLayer (take_take 6 8 (by decide))
    rw [hdown₃, Map.modify_touch]
    generalize addCatalog district.nLayer (pszDeviceID.take 6) (pszDeviceID.take 8)
      (Map.touch c.m_oDistrictCount (pszDeviceID.take 6) ∅) c.m_oStationCount = station at *
    exact
      { station := (h.station.add pszDeviceID station.nLayer).congr fun x => by
          rw [Finmap.mem_insert]
        district := hdistrict.congr fun x => by
          rw [Map.touch, Map.modify, Finmap.mem_insert, Finmap.mem_insert]
        city := hcity.congr fun x => (hkeys₃ x).symm
        province := hprovince.congr fun x => (hkeys₂ x).symm }

/-- A block of `DelDevice` finds its list; it leaves the level above an index of what is left. -/
theorem removeCatalog_groups {n : Nat} {S S' : CStr → Prop} {m : CounterMap}
    (h : Groups (·.take n) S m) {szID child : CStr} (hc : S child) (hk : child.take n = szID)
    (hS' : ∀ x, S' x ↔ S x ∧ x ≠ child) :
    (∃ m', removeCatalog szID child m = .kept m' ∧ Groups (·.take n) S' m' ∧
      ∀ x, x ∈ m' ↔ x ∈ m) ∨
    (∃ m', removeCatalog szID child m = .emptied m' ∧ Groups (·.take n) S' m' ∧
      ∀ x, x ∈ m' ↔ x ∈ m ∧ x ≠ szID) := by
  subst hk
  obtain ⟨pList, hl⟩ := Finmap.mem_iff.mp (h.mem hc)
  have left : ∀ x, S x ∧ x ≠ child ↔ S' x := fun x => (hS' x).symm
  unfold removeCatalog
  simp only [hl]
  cases he : Map.isEmpty (pList.erase child) with
  | true =>
    have hnone : ∀ x, x ∉ pList.erase child := fun x =>
      Finmap.lookup_eq_none.mp ((Map.isEmpty_iff _).mp he x)
    refine Or.inr ⟨_, rfl, (h.erase_emptied hl hnone).congr left, fun x => ?_⟩
    rw [Finmap.mem_erase, and_comm]
  | false =>
    have hsome := (Map.isEmpty_eq_false_iff _).mp he
    refine Or.inl ⟨_, rfl, (h.erase_kept hl hsome).congr left, fun x => ?_⟩
    rw [Finmap.mem_insert]
    exact ⟨fun hx => hx.elim (fun e => e ▸ h.mem hc) id, Or.inr⟩

/-- **Deleting keeps the tree** and meets no missing list. -/
theorem delDevice_tree {c : CCatalogLayer} (h : Tree c) (pszDeviceID : CStr) :
    Tree (delDevice c pszDeviceID).2 ∧ -1 ≤ (delDevice c pszDeviceID).1 := by
  have take_take : ∀ m n : Nat, m ≤ n →
      (pszDeviceID.take n).take m = pszDeviceID.take m := fun m n hmn => by
    rw [List.take_take, Nat.min_eq_left hmn]
  have queue : ∀ x, x ∈ c.m_oDeviceQueue.erase pszDeviceID ↔
      x ∈ c.m_oDeviceQueue ∧ x ≠ pszDeviceID := fun x => by rw [Finmap.mem_erase, and_comm]
  unfold delDevice
  simp only [CCatalogLayer.lock, CCatalogLayer.unlock, stringCpy_s_succ]
  split
  · exact ⟨⟨h.station, h.district, h.city, h.province⟩, by simp⟩
  · rename_i hmem
    have hdev := not_not.mp hmem
    have hstation₀ := h.station.mem hdev
    have hdistrict₀ : pszDeviceID.take 6 ∈ c.m_oDistrictCount :=
      take_take 6 8 (by decide) ▸ h.district.mem hstation₀
    have hcity₀ : pszDeviceID.take 4 ∈ c.m_oCityCount :=
      take_take 4 6 (by decide) ▸ h.city.mem hdistrict₀
    -- a list that keeps entries ends the call, the level above it keeps its keys
    rcases removeCatalog_groups h.station hdev rfl queue with
      ⟨station, hr₁, hstation, hkeys₁⟩ | ⟨station, hr₁, hstation, hkeys₁⟩ <;> rw [hr₁]
    · have hdistrict := h.district.congr fun x => (hkeys₁ x).symm
      exact ⟨⟨hstation, hdistrict, h.city, h.province⟩, by simp⟩
    rcases removeCatalog_groups h.district hstation₀ (take_take 6 8 (by decide)) hkeys₁ with
      ⟨district, hr₂, hdistrict, hkeys₂⟩ | ⟨district, hr₂, hdistrict, hkeys₂⟩ <;> simp only [hr₂]
    · have hcity := h.city.congr fun x => (hkeys₂ x).symm
      exact ⟨⟨hstation, hdistrict, hcity, h.province⟩, by simp⟩
    rcases removeCatalog_groups h.city hdistrict₀ (take_take 4 6 (by decide)) hkeys₂ with
      ⟨city, hr₃, hcity, hkeys₃⟩ | ⟨city, hr₃, hcity, hkeys₃⟩ <;> simp only [hr₃]
    · have hprovince := h.province.congr fun x => (hkeys₃ x).symm
      exact ⟨⟨hstation, hdistrict, hcity, hprovince⟩, by simp⟩
    rcases removeCatalog_groups h.province hcity₀ (take_take 2 4 (by decide)) hkeys₃ with
      ⟨province, hr₄, hprovince, -⟩ | ⟨province, hr₄, hprovince, -⟩ <;> simp only [hr₄]
    · exact ⟨⟨hstation, hdistrict, hcity, hprovince⟩, by simp⟩
    · exact ⟨⟨hstation, hdistrict, hcity, hprovince⟩, by simp⟩

/-! ## Runs -/

abbrev DeviceID := {id : CStr // id.length = 20}

inductive CatalogCall where
  | addDevice (id : DeviceID)
  | delDevice (id : DeviceID)

def catalogStep (c : CCatalogLayer) : CatalogCall → CCatalogLayer
  | .addDevice id => (addDevice c id).2
  | .delDevice id => (delDevice c id).2

theorem addDevice_queue {c : CCatalogLayer} {pszDeviceID x : CStr}
    (h : x ∈ (addDevice c pszDeviceID).2.m_oDeviceQueue) :
    x = pszDeviceID ∨ x ∈ c.m_oDeviceQueue := by
  by_cases hmem : pszDeviceID ∈ c.m_oDeviceQueue
  · rw [show addDevice c pszDeviceID = _ from if_pos hmem] at h
    exact Or.inr h
  · rw [show addDevice c pszDeviceID = _ from if_neg hmem] at h
    exact Finmap.mem_insert.mp h

theorem delDevice_queue {c : CCatalogLayer} {pszDeviceID x : CStr}
    (h : x ∈ (delDevice c pszDeviceID).2.m_oDeviceQueue) : x ∈ c.m_oDeviceQueue := by
  by_cases hmem : pszDeviceID ∈ c.m_oDeviceQueue
  · rw [show delDevice c pszDeviceID = _ from if_neg (not_not.mpr hmem)] at h
    have herase : x ∈ c.m_oDeviceQueue.erase pszDeviceID := by
      dsimp only at h
      repeat' split at h
      all_goals exact h
    exact (Finmap.mem_erase.mp herase).2
  · rw [show delDevice c pszDeviceID = _ from if_pos hmem] at h
    exact h

/-- The state is a tree over devices with IDs of 20 characters. -/
structure CatalogInv (c : CCatalogLayer) : Prop where
  tree : Tree c
  length : ∀ d ∈ c.m_oDeviceQueue, d.length = 20

theorem catalogStep_inv {c : CCatalogLayer} (call : CatalogCall) (h : CatalogInv c) :
    CatalogInv (catalogStep c call) := by
  cases call with
  | addDevice id =>
    refine ⟨addDevice_tree h.tree id, fun d hd => ?_⟩
    rcases addDevice_queue hd with rfl | hd
    · exact id.2
    · exact h.length d hd
  | delDevice id =>
    exact ⟨(delDevice_tree h.tree id).1, fun d hd => h.length d (delDevice_queue hd)⟩

theorem run_catalogInv (calls : List CatalogCall) : CatalogInv (run catalogStep {} calls) :=
  run_induct (fun _ call h => catalogStep_inv call h)
    ⟨tree_empty, fun _ hd => absurd hd Finmap.notMem_empty⟩ calls

/-! ## What the maps say of the devices -/

/-- `k` is the code of `n` characters of some device. -/
def IsCode (c : CCatalogLayer) (n : Nat) (k : CStr) : Prop :=
  k.length = n ∧ ∃ d ∈ c.m_oDeviceQueue, k <+: d

/-- `m` has the codes of `n` characters for keys, and under each key the entries that extend it,
of which there is at least one. -/
structure LevelAgrees (c : CCatalogLayer) (n : Nat) (entry : CStr → Prop) (m : CounterMap) :
    Prop where
  mem_iff : ∀ k, k ∈ m ↔ IsCode c n k
  list_iff : ∀ k l, m.lookup k = some l → ∀ x, x ∈ l ↔ entry x ∧ k <+: x
  nonempty : ∀ k l, m.lookup k = some l → ∃ x, x ∈ l

structure CatalogAgrees (c : CCatalogLayer) : Prop where
  province : LevelAgrees c 2 (IsCode c 4) c.m_oProvinceCount
  city : LevelAgrees c 4 (IsCode c 6) c.m_oCityCount
  district : LevelAgrees c 6 (IsCode c 8) c.m_oDistrictCount
  station : LevelAgrees c 8 (· ∈ c.m_oDeviceQueue) c.m_oStationCount

theorem take_eq_iff_code {n : Nat} {x k : CStr} (hx : n ≤ x.length) :
    x.take n = k ↔ k.length = n ∧ k <+: x := by
  constructor
  · rintro rfl
    exact ⟨by rw [List.length_take, Nat.min_eq_left hx], List.take_prefix n x⟩
  · rintro ⟨hk, hp⟩
    rw [← hk, ← List.prefix_iff_eq_take.mp hp]

/-- An index by prefixes of `n` characters over entries that are at least as long. -/
theorem levelAgrees_of_groups {c : CCatalogLayer} {n : Nat} {entry : CStr → Prop}
    {m : CounterMap} (h : Groups (·.take n) entry m) (hlen : ∀ x, entry x → n ≤ x.length)
    (hcode : ∀ k, k.length = n → ((∃ x, entry x ∧ k <+: x) ↔ ∃ d ∈ c.m_oDeviceQueue, k <+: d)) :
    LevelAgrees c n entry m where
  mem_iff k := by
    rw [h.mem_iff]
    constructor
    · rintro ⟨x, hx, hk⟩
      obtain ⟨hkn, hp⟩ := (take_eq_iff_code (hlen x hx)).mp hk
      exact ⟨hkn, (hcode k hkn).mp ⟨x, hx, hp⟩⟩
    · rintro ⟨hkn, hd⟩
      obtain ⟨x, hx, hp⟩ := (hcode k hkn).mpr hd
      exact ⟨x, hx, (take_eq_iff_code (hlen x hx)).mpr ⟨hkn, hp⟩⟩
  list_iff k l hl x := by
    obtain ⟨y, hy, hky⟩ := (h.mem_iff k).mp (Finmap.mem_iff.mpr ⟨l, hl⟩)
    have hkn := ((take_eq_iff_code (hlen y hy)).mp hky).1
    rw [h.list_iff hl]
    constructor
    · rintro ⟨hx, hk⟩
      exact ⟨hx, ((take_eq_iff_code (hlen x hx)).mp hk).2⟩
    · rintro ⟨hx, hp⟩
      exact ⟨hx, (take_eq_iff_code (hlen x hx)).mpr ⟨hkn, hp⟩⟩
  nonempty _ _ hl := h.nonempty hl

theorem levelAgrees_over {c : CCatalogLayer} {n n' : Nat} (hn : n ≤ n')
    (hlong : ∀ d ∈ c.m_oDeviceQueue, n' ≤ d.length) {entry : CStr → Prop} {up down : CounterMap}
    (hdown : LevelAgrees c n' entry down) (h : Groups (·.take n) (· ∈ down) up) :
    LevelAgrees c n (IsCode c n') up := by
  refine levelAgrees_of_groups (h.congr hdown.mem_iff) (fun x hx => by rw [hx.1]; exact hn) ?_
  intro k hk
  constructor
  · rintro ⟨x, ⟨-, d, hd, hxd⟩, hkx⟩
    exact ⟨d, hd, hkx.trans hxd⟩
  · rintro ⟨d, hd, hkd⟩
    have hlen := hlong d hd
    refine ⟨d.take n', ⟨⟨by rw [List.length_take, Nat.min_eq_left hlen], d, hd,
      List.take_prefix n' d⟩, ?_⟩⟩
    exact List.prefix_of_prefix_length_le hkd (List.take_prefix n' d)
      (by rw [hk, List.length_take, Nat.min_eq_left hlen]; exact hn)

theorem catalogAgrees_of_inv {c : CCatalogLayer} (h : CatalogInv c) : CatalogAgrees c := by
  have hlong : ∀ n ≤ 20, ∀ d ∈ c.m_oDeviceQueue, n ≤ d.length := fun n hn d hd => by
    rw [h.length d hd]; exact hn
  have station : LevelAgrees c 8 (· ∈ c.m_oDeviceQueue) c.m_oStationCount :=
    levelAgrees_of_groups h.tree.station (hlong 8 (by decide)) fun _ _ => Iff.rfl
  have district := levelAgrees_over (by decide) (hlong 8 (by decide)) station h.tree.district
  have city := levelAgrees_over (by decide) (hlong 6 (by decide)) district h.tree.city
  have province := levelAgrees_over (by decide) (hlong 4 (by decide)) city h.tree.province
  exact ⟨province, city, district, station⟩

/-- **The catalogue tree.**  After every run of calls on device IDs the five maps agree, and
`DelDevice` of any ID ends in none of its error branches. -/
theorem catalogue_agrees (calls : List CatalogCall) :
    CatalogAgrees (run catalogStep {} calls) ∧
      ∀ id : DeviceID,
        (delDevice (run catalogStep {} calls) id).1 ∉ [(-2 : Int), -3, -4, -5] := by
  have hinv := run_catalogInv calls
  refine ⟨catalogAgrees_of_inv hinv, fun id hmem => ?_⟩
  have hle := (delDevice_tree hinv.tree id).2
  simp only [List.mem_cons, List.not_mem_nil, or_false] at hmem
  omega

end GB28181.Platform
