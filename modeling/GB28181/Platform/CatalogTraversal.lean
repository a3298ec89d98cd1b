import Mathlib.Data.List.Nodup
import GB28181.Platform.CatalogLock

/-!
# Listing the catalogue tree (`DevInfo/CatalogLayer.cpp`)

What `FindDeviceLayer` finds in a tree of devices, and on which IDs a tree can be built that it
finds no end of.

* `findDeviceLayer_lists` — for devices with IDs of 20 characters the lists are complete, without
  duplicates, and every code stands before what extends it;
* `findDeviceLayer_ends_iff` — on IDs of any length, every search ends **exactly when no device
  was added whose ID has the length of a code above the last level**: such a device is listed
  under itself.
-/

set_option autoImplicit false

namespace GB28181.Platform

open GB28181.Base GB28181.GBUtils

/-! ## Devices with IDs of any length -/

/-- One call of `AddDevice`. -/
def addStep (c : CCatalogLayer) (pszDeviceID : CStr) : CCatalogLayer := (addDevice c pszDeviceID).2

/-- The tree after the calls of `AddDevice`. -/
def addAll (ids : List CStr) : CCatalogLayer := run addStep {} ids

theorem addStep_tree (c : CCatalogLayer) (id : CStr) (h : Tree c) : Tree (addStep c id) :=
  addDevice_tree h id

theorem addAll_tree (ids : List CStr) : Tree (addAll ids) :=
  run_induct addStep_tree tree_empty ids

theorem mem_addDevice_queue {c : CCatalogLayer} {pszDeviceID x : CStr} :
    x ∈ (addDevice c pszDeviceID).2.m_oDeviceQueue ↔ x = pszDeviceID ∨ x ∈ c.m_oDeviceQueue := by
  refine ⟨addDevice_queue, fun h => ?_⟩
  by_cases hmem : pszDeviceID ∈ c.m_oDeviceQueue
  · rw [show addDevice c pszDeviceID = _ from if_pos hmem]
    rcases h with rfl | h
    · exact hmem
    · exact h
  · rw [show addDevice c pszDeviceID = _ from if_neg hmem]
    exact Finmap.mem_insert.mpr h

theorem mem_run_addDevice {c : CCatalogLayer} {ids : List CStr} {x : CStr} :
    x ∈ (run addStep c ids).m_oDeviceQueue ↔ x ∈ ids ∨ x ∈ c.m_oDeviceQueue := by
  induction ids generalizing c with
  | nil => simp [run]
  | cons id ids ih =>
    rw [run_cons, ih, addStep, mem_addDevice_queue, List.mem_cons]
    constructor
    · rintro (h | rfl | h)
      · exact Or.inl (Or.inr h)
      · exact Or.inl (Or.inl rfl)
      · exact Or.inr h
    · rintro ((rfl | h) | h)
      · exact Or.inr (Or.inl rfl)
      · exact Or.inl h
      · exact Or.inr (Or.inr h)

theorem mem_addAll {ids : List CStr} {x : CStr} :
    x ∈ (addAll ids).m_oDeviceQueue ↔ x ∈ ids := by
  unfold addAll
  rw [mem_run_addDevice]
  exact ⟨fun h => h.resolve_right Finmap.notMem_empty, Or.inl⟩

/-- A device with the length of a code above the last level is listed under itself. -/
theorem listedUnder_self {c : CCatalogLayer} (h : Tree c) {d : CStr} (hd : d ∈ c.m_oDeviceQueue)
    {i : Nat} (hi : i < 3) (hlen : d.length = 2 * i + 2) : ListedUnder c d d := by
  have hlayer : layerOf d = i := by
    unfold layerOf
    omega
  have hentry : entryAt i d = d := by
    rw [entryAt, if_pos hi]
    exact List.take_of_length_le (by omega)
  have hself : d.take (2 * i + 2) = d := List.take_of_length_le (by omega)
  have hgroups := tree_groups h hi.le
  obtain ⟨l, hl⟩ := Finmap.mem_iff.mp ((hgroups.mem_iff d).mpr ⟨d, ⟨d, hd, hentry⟩, hself⟩)
  refine ⟨by omega, by omega, l, ?_, (hgroups.list_iff hl d).mpr ⟨⟨d, hd, hentry⟩, hself⟩⟩
  rw [hlayer]
  exact hl

theorem not_ends_of_self {c : CCatalogLayer} {code : CStr} (h : ListedUnder c code code) :
    ¬ Ends c code := by
  intro hends
  induction hends with
  | intro code _ ih => exact ih code h h

/-- **When every search of the tree ends.** -/
theorem findDeviceLayer_ends_iff (O : MapOrder) (ids : List CStr) :
    (∀ pszCivilCode pszGWID,
        ∃ depth, (findDeviceLayer O depth (addAll ids) pszCivilCode pszGWID).isSome) ↔
      ∀ id ∈ ids, id.length ≠ 2 ∧ id.length ≠ 4 ∧ id.length ≠ 6 := by
  simp only [findDeviceLayer_returns_iff]
  have htree := addAll_tree ids
  constructor
  · intro h id hid
    -- the search for the ID itself would have to end
    have hends : id.length ≠ 20 → Ends (addAll ids) id := fun hne => by
      have := h id []
      rwa [ListsEnd, if_neg hne.symm] at this
    have hself : ∀ i < 3, id.length ≠ 2 * i + 2 := fun i hi hlen =>
      not_ends_of_self (listedUnder_self htree (mem_addAll.mpr hid) hi hlen)
        (hends (by omega))
    exact ⟨hself 0 (by decide), hself 1 (by decide), hself 2 (by decide)⟩
  · intro h civil gw
    have hends : ∀ code, Ends (addAll ids) code :=
      tree_ends htree fun d hd => h d (mem_addAll.mp hd)
    unfold ListsEnd
    split
    · exact fun _ p _ => hends p
    · exact hends civil

/-- A device with an ID of two characters, and a search for it. -/
theorem findDeviceLayer_endless :
    ¬ ∀ (O : MapOrder) (ids : List CStr) (pszCivilCode pszGWID : CStr),
      ∃ depth, (findDeviceLayer O depth (addAll ids) pszCivilCode pszGWID).isSome := by
  intro h
  have hreturns := (findDeviceLayer_returns_iff _ _ _ _).mp
    (h MapOrder.some [str "34"] (str "34") (str "34020000002000000001"))
  have hself : ListedUnder (addAll [str "34"]) (str "34") (str "34") :=
    listedUnder_self (addAll_tree _) (mem_addAll.mpr (List.mem_singleton.mpr rfl))
      (i := 0) (by decide) (by decide)
  rw [ListsEnd, if_neg (by decide)] at hreturns
  exact not_ends_of_self hself hreturns

/-! ## Devices with IDs of 20 characters -/

/-- An order that visits each key once. -/
structure KeyOrder extends MapOrder where
  nodup_keys : ∀ {V : Type} (m : Map CStr V), (keys m).Nodup

/-- Some order. -/
noncomputable def KeyOrder.some : KeyOrder where
  toMapOrder := MapOrder.some
  nodup_keys m := m.keys.nodup_toList

/-- A stored device, or one of its four codes. -/
def IsEntry (c : CCatalogLayer) (x : CStr) : Prop :=
  x ∈ c.m_oDeviceQueue ∨ IsCode c 2 x ∨ IsCode c 4 x ∨ IsCode c 6 x ∨ IsCode c 8 x

/-- `x` properly extends `code`. -/
def Extends (code x : CStr) : Prop := code <+: x ∧ code ≠ x

/-- The list has each of the things once, and none before one it begins with. -/
structure Listing (S : CStr → Prop) (l : List CStr) : Prop where
  mem_iff : ∀ x, x ∈ l ↔ S x
  nodup : l.Nodup
  ordered : l.Pairwise fun x y => ¬ y <+: x

theorem Listing.of_ordered {S : CStr → Prop} {l : List CStr} (hmem : ∀ x, x ∈ l ↔ S x)
    (h : l.Pairwise fun x y => ¬ y <+: x) : Listing S l where
  mem_iff := hmem
  nodup := h.imp fun hxy => fun | rfl => hxy List.prefix_rfl
  ordered := h

theorem Listing.congr {S S' : CStr → Prop} {l : List CStr} (h : Listing S l)
    (hS : ∀ x, S x ↔ S' x) : Listing S' l where
  mem_iff x := (h.mem_iff x).trans (hS x)
  nodup := h.nodup
  ordered := h.ordered

theorem Extends.length_lt {code x : CStr} (h : Extends code x) : code.length < x.length := by
  refine lt_of_le_of_ne h.1.length_le fun e => h.2 (h.1.eq_of_length e)

theorem isCode_of_isEntry {c : CCatalogLayer} {x : CStr} (h : IsEntry c x) :
    IsCode c x.length x := by
  rcases h with h | ⟨-, h⟩ | ⟨-, h⟩ | ⟨-, h⟩ | ⟨-, h⟩
  · exact ⟨rfl, x, h, List.prefix_rfl⟩
  all_goals exact ⟨rfl, h⟩

theorem isEntry_length {c : CCatalogLayer} (h : CatalogInv c) {x : CStr} (hx : IsEntry c x) :
    x.length = 2 ∨ x.length = 4 ∨ x.length = 6 ∨ x.length = 8 ∨ x.length = 20 := by
  rcases hx with hx | ⟨hx, -⟩ | ⟨hx, -⟩ | ⟨hx, -⟩ | ⟨hx, -⟩
  · have := h.length x hx
    omega
  all_goals omega

/-- **One level.**  The codes of the next level, each followed by what extends it, are what
extends the code, where nothing has a length in between. -/
theorem listing_level {c : CCatalogLayer} {n : Nat} {code : CStr} {ys : List CStr}
    {below : CStr → List CStr} (hshort : code.length < n)
    (hgap : ∀ x, IsEntry c x → Extends code x → n ≤ x.length)
    (hentry : ∀ y, IsCode c n y → IsEntry c y) (hys : ys.Nodup)
    (hmem : ∀ y, y ∈ ys ↔ IsCode c n y ∧ code <+: y)
    (hbelow : ∀ y ∈ ys, Listing (fun x => IsEntry c x ∧ Extends y x) (below y)) :
    Listing (fun x => IsEntry c x ∧ Extends code x) (ys.flatMap fun y => y :: below y) := by
  have hlen : ∀ y ∈ ys, y.length = n := fun y hy => ((hmem y).mp hy).1.1
  -- what stands in the part of `y` begins with it
  have hpart : ∀ y ∈ ys, ∀ x ∈ y :: below y, y <+: x := by
    intro y hy x hx
    rcases List.mem_cons.mp hx with rfl | hx
    · exact List.prefix_rfl
    · exact (((hbelow y hy).mem_iff x).mp hx).2.1
  refine Listing.of_ordered (fun x => ?_) (List.pairwise_flatMap.mpr ⟨fun y hy => ?_, ?_⟩)
  · rw [List.mem_flatMap]
    constructor
    · rintro ⟨y, hy, hx⟩
      obtain ⟨hcode, hpre⟩ := (hmem y).mp hy
      have hyx := hpart y hy x hx
      refine ⟨?_, hpre.trans hyx, fun e => ?_⟩
      · rcases List.mem_cons.mp hx with rfl | hx
        · exact hentry _ hcode
        · exact (((hbelow y hy).mem_iff x).mp hx).1
      · have := hyx.length_le
        rw [hlen y hy, ← e] at this
        omega
    · rintro ⟨hx, hext⟩
      have hnx := hgap x hx hext
      obtain ⟨-, d, hd, hxd⟩ := isCode_of_isEntry hx
      have hylen : (x.take n).length = n := by rw [List.length_take, Nat.min_eq_left hnx]
      have hy : x.take n ∈ ys := (hmem _).mpr
        ⟨⟨hylen, d, hd, (List.take_prefix n x).trans hxd⟩,
          List.prefix_of_prefix_length_le hext.1 (List.take_prefix n x) (by omega)⟩
      refine ⟨x.take n, hy, ?_⟩
      by_cases he : x.take n = x
      · rw [he]
        exact List.mem_cons_self
      · exact List.mem_cons_of_mem _
          (((hbelow _ hy).mem_iff x).mpr ⟨hx, List.take_prefix n x, he⟩)
  · refine List.pairwise_cons.mpr ⟨fun x hx hxy => ?_, (hbelow y hy).ordered⟩
    have hext := (((hbelow y hy).mem_iff x).mp hx).2
    have := hext.length_lt
    have := hxy.length_le
    omega
  · refine hys.imp_of_mem fun {y z} hy hz hne x hx w hw hwx => hne ?_
    have hyx := hpart y hy x hx
    have hzx := (hpart z hz w hw).trans hwx
    have hlength : y.length = z.length := (hlen y hy).trans (hlen z hz).symm
    exact (List.prefix_of_prefix_length_le hyx hzx hlength.le).eq_of_length hlength

theorem layerOf_eq {code : CStr} {i : Nat} (hlen : code.length = 2 * i + 2) :
    layerOf code = i := by
  unfold layerOf
  omega

theorem isCode_iff_take {c : CCatalogLayer} (h : CatalogInv c) {n : Nat} (hn : n ≤ 20)
    (y : CStr) : (∃ d ∈ c.m_oDeviceQueue, d.take n = y) ↔ IsCode c n y := by
  constructor
  · rintro ⟨d, hd, rfl⟩
    have hlen := h.length d hd
    exact ⟨by rw [List.length_take]; omega, d, hd, List.take_prefix n d⟩
  · rintro ⟨hy, d, hd, hyd⟩
    refine ⟨d, hd, ?_⟩
    rw [← hy, ← List.prefix_iff_eq_take.mp hyd]

/-- The length of the codes a level lists. -/
def nextLength (i : Nat) : Nat := if i < 3 then 2 * i + 4 else 20

theorem exists_entryAt_iff {c : CCatalogLayer} (h : CatalogInv c) {i : Nat} (y : CStr) :
    (∃ d ∈ c.m_oDeviceQueue, entryAt i d = y) ↔ IsCode c (nextLength i) y := by
  unfold entryAt nextLength
  split
  · rename_i hi
    exact isCode_iff_take h (by omega) y
  · rw [← isCode_iff_take h (Nat.le_refl 20) y]
    refine exists_congr fun d => and_congr_right fun hd => ?_
    rw [List.take_of_length_le (h.length d hd).le]

theorem mem_listedBelow (O : MapOrder) {c : CCatalogLayer} (h : CatalogInv c) {code : CStr}
    {i : Nat} (hi : i ≤ 3) (hlen : code.length = 2 * i + 2) (y : CStr) :
    y ∈ listedBelow O c code ↔ IsCode c (nextLength i) y ∧ code <+: y := by
  have hgroups := tree_groups h.tree hi
  have hlong : IsCode c (nextLength i) y → 2 * i + 2 ≤ y.length := fun hy => by
    rw [hy.1]
    unfold nextLength
    split <;> omega
  rw [listedBelow, layerOf_eq hlen]
  rw [if_neg (by omega), Int.toNat_natCast]
  have hindex : y ∈ Map.index (c.pCivilMaps i) code ∅ ↔
      IsCode c (nextLength i) y ∧ code <+: y := by
    rw [hgroups.mem_index, exists_entryAt_iff h]
    refine and_congr_right fun hy => ?_
    rw [take_eq_iff_code (hlong hy)]
    exact and_iff_right hlen
  rw [← hindex]
  cases hl : (c.pCivilMaps i).lookup code with
  | none =>
    rw [Map.index_of_not_mem (Finmap.lookup_eq_none.mp hl)]
    exact iff_of_false List.not_mem_nil Finmap.notMem_empty
  | some l =>
    rw [Map.index_of_lookup hl]
    exact O.mem_keys l y

theorem nodup_listedBelow (O : KeyOrder) (c : CCatalogLayer) (code : CStr) :
    (listedBelow O.toMapOrder c code).Nodup := by
  unfold listedBelow
  dsimp only
  split
  · exact List.nodup_nil
  · split
    · exact List.nodup_nil
    · exact O.nodup_keys _

theorem ergodicRead_succ (O : MapOrder) (c : CCatalogLayer) (depth : Nat) (code : CStr) :
    ergodicRead O c (depth + 1) code =
      collect (fun y => if 3 > layerOf code then (ergodicRead O c depth y).map (y :: ·)
        else some [y]) (listedBelow O c code) := by
  simp only [ergodicRead, walk, decide_eq_true_iff]

/-- **What is read below a code**, by induction on the depth of the calls. -/
theorem ergodicRead_listing (O : KeyOrder) {c : CCatalogLayer} (h : CatalogInv c) {depth : Nat}
    {code : CStr} {l : List CStr} {i : Nat} (hi : i ≤ 3) (hlen : code.length = 2 * i + 2)
    (hread : ergodicRead O.toMapOrder c depth code = some l) :
    Listing (fun x => IsEntry c x ∧ Extends code x) l := by
  induction depth generalizing code l i with
  | zero => cases hread
  | succ depth ih =>
    have hgap : ∀ x, IsEntry c x → Extends code x → nextLength i ≤ x.length := by
      intro x hx hext
      have := isEntry_length h hx
      have := hext.length_lt
      unfold nextLength
      split <;> omega
    have hentry : ∀ y, IsCode c (nextLength i) y → IsEntry c y := by
      intro y hy
      obtain rfl | rfl | rfl | rfl : i = 0 ∨ i = 1 ∨ i = 2 ∨ i = 3 := by omega
      · exact Or.inr (Or.inr (Or.inl hy))
      · exact Or.inr (Or.inr (Or.inr (Or.inl hy)))
      · exact Or.inr (Or.inr (Or.inr (Or.inr hy)))
      · obtain ⟨hy20, d, hd, hyd⟩ := hy
        rw [hyd.eq_of_length (hy20.trans (h.length d hd).symm)]
        exact Or.inl hd
    have hshort : code.length < nextLength i := by
      unfold nextLength
      split <;> omega
    have hmem := mem_listedBelow O.toMapOrder h hi hlen
    rw [ergodicRead_succ] at hread
    obtain ⟨hall, rfl⟩ := collect_eq_some hread
    -- every code is followed by what is read below it, up to the stations
    let below := fun y => if i < 3 then (ergodicRead O.toMapOrder c depth y).getD [] else []
    have hparts : ∀ y ∈ listedBelow O.toMapOrder c code,
        (if 3 > layerOf code then (ergodicRead O.toMapOrder c depth y).map (y :: ·)
          else some [y]).getD [] = y :: below y ∧
        Listing (fun x => IsEntry c x ∧ Extends y x) (below y) := by
      intro y hy
      have hread := hall y hy
      have hy := ((hmem y).mp hy).1.1
      rw [layerOf_eq hlen] at hread ⊢
      by_cases hi3 : i < 3
      · rw [nextLength, if_pos hi3] at hy
        rw [if_pos (by omega)] at hread ⊢
        obtain ⟨r, hr, -⟩ := Option.map_eq_some_iff.mp hread
        have hbelow : below y = r := by
          dsimp only [below]
          rw [if_pos hi3, hr, Option.getD_some]
        rw [hbelow, hr]
        exact ⟨rfl, ih (show i + 1 ≤ 3 by omega) (by omega) hr⟩
      · rw [nextLength, if_neg hi3] at hy
        have hbelow : below y = [] := if_neg hi3
        rw [if_neg (by omega), hbelow]
        refine ⟨rfl, Listing.of_ordered (fun x => ?_) List.Pairwise.nil⟩
        refine iff_of_false List.not_mem_nil fun ⟨hx, hext⟩ => ?_
        have := isEntry_length h hx
        have := hext.length_lt
        omega
    rw [List.flatMap_congr fun y hy => (hparts y hy).1]
    exact listing_level hshort hgap hentry (nodup_listedBelow O c code) hmem
      fun y hy => (hparts y hy).2

/-! ## Searches -/

theorem provinces_listing (O : KeyOrder) {c : CCatalogLayer} (h : CatalogInv c) {depth : Nat}
    {l : List CStr}
    (hread : collect (fun strProvinceID => (ergodicRead O.toMapOrder c depth strProvinceID).map
      ([strProvinceID] ++ ·)) (O.keys c.m_oProvinceCount) = some l) :
    Listing (IsEntry c) l := by
  obtain ⟨hall, rfl⟩ := collect_eq_some hread
  have hmem : ∀ y, y ∈ O.keys c.m_oProvinceCount ↔ IsCode c 2 y ∧ [] <+: y := fun y => by
    rw [O.mem_keys, (catalogAgrees_of_inv h).province.mem_iff]
    exact (and_iff_left List.nil_prefix).symm
  have hparts : ∀ y ∈ O.keys c.m_oProvinceCount,
      ((ergodicRead O.toMapOrder c depth y).map ([y] ++ ·)).getD [] =
        y :: (ergodicRead O.toMapOrder c depth y).getD [] ∧
      Listing (fun x => IsEntry c x ∧ Extends y x)
        ((ergodicRead O.toMapOrder c depth y).getD []) := by
    intro y hy
    obtain ⟨r, hr, -⟩ := Option.map_eq_some_iff.mp (hall y hy)
    rw [hr]
    exact ⟨rfl, ergodicRead_listing O h (show 0 ≤ 3 by decide) ((hmem y).mp hy).1.1 hr⟩
  have hlong : ∀ x, IsEntry c x → 2 ≤ x.length := fun x hx => by
    have := isEntry_length h hx
    omega
  rw [List.flatMap_congr fun y hy => (hparts y hy).1]
  refine (listing_level (show ([] : CStr).length < 2 by decide) (fun x hx _ => hlong x hx)
    (fun y hy => Or.inr (Or.inl hy)) (O.nodup_keys _) hmem
    fun y hy => (hparts y hy).2).congr fun x => ?_
  refine and_iff_left_of_imp fun hx => ⟨List.nil_prefix, ?_⟩
  rintro rfl
  exact absurd (hlong [] hx) (by decide)

theorem findDeviceLayer_own (O : KeyOrder) {c c' : CCatalogLayer} (h : CatalogInv c)
    {depth : Nat} {civil gw : CStr} {l : List CStr} (hlen : civil.length = 20)
    (hgw : stricmpEq gw civil = true)
    (hfind : findDeviceLayer O.toMapOrder depth c civil gw = some (l, c')) :
    Listing (IsEntry c) l := by
  obtain ⟨l', hl', he⟩ := Option.map_eq_some_iff.mp hfind
  obtain rfl : l' = l := congrArg Prod.fst he
  rw [if_pos hlen.symm, if_pos hgw] at hl'
  have hinv : CatalogInv c.lock :=
    ⟨⟨h.tree.station, h.tree.district, h.tree.city, h.tree.province⟩, h.length⟩
  exact provinces_listing O hinv hl'

theorem findDeviceLayer_code (O : KeyOrder) {c c' : CCatalogLayer} (h : CatalogInv c)
    {depth : Nat} {civil gw : CStr} {l : List CStr} (hlen : civil.length ∈ [2, 4, 6, 8])
    (hfind : findDeviceLayer O.toMapOrder depth c civil gw = some (l, c')) :
    Listing (fun x => IsEntry c x ∧ Extends civil x) l := by
  obtain ⟨l', hl', he⟩ := Option.map_eq_some_iff.mp hfind
  obtain rfl : l' = l := congrArg Prod.fst he
  simp only [List.mem_cons, List.not_mem_nil, or_false] at hlen
  rw [if_neg (by omega)] at hl'
  have hinv : CatalogInv c.lock :=
    ⟨⟨h.tree.station, h.tree.district, h.tree.city, h.tree.province⟩, h.length⟩
  obtain ⟨i, hi, hlen⟩ : ∃ i : Nat, i ≤ 3 ∧ civil.length = 2 * i + 2 :=
    ⟨civil.length / 2 - 1, by omega, by omega⟩
  exact ergodicRead_listing O hinv hi hlen hl'

theorem findDeviceLayer_device (O : MapOrder) {c c' : CCatalogLayer} {depth : Nat}
    {civil gw : CStr} {l : List CStr} (hlen : civil.length = 20)
    (hgw : stricmpEq gw civil = false)
    (hfind : findDeviceLayer O depth c civil gw = some (l, c')) :
    l = if civil ∈ c.m_oDeviceQueue then [civil] else [] := by
  obtain ⟨l', hl', he⟩ := Option.map_eq_some_iff.mp hfind
  obtain rfl : l' = l := congrArg Prod.fst he
  rw [if_pos hlen.symm, hgw, if_neg Bool.false_ne_true] at hl'
  exact (Option.some.inj hl').symm

theorem findDeviceLayer_returns (O : MapOrder) {c : CCatalogLayer} (h : CatalogInv c)
    (civil gw : CStr) : ∃ depth, (findDeviceLayer O depth c civil gw).isSome := by
  rw [findDeviceLayer_returns_iff, ListsEnd]
  split
  · exact fun _ p _ => catalogInv_ends h p
  · exact catalogInv_ends h civil

theorem length_of_stricmpEq {s t : CStr} (h : stricmpEq s t = true) : s.length = t.length := by
  have := congrArg List.length (eq_of_beq h)
  rwa [List.length_map, List.length_map] at this

/-- **What a search finds**, in every tree of devices: the search ends, and with the platform's
own ID it lists every entry, with a code what extends it, with another ID the ID if it is stored.
The own ID is told without regard to case. -/
theorem findDeviceLayer_lists (O : KeyOrder) (calls : List CatalogCall) (pszGWID : DeviceID)
    (pszCivilCode : CStr) :
    let c := run catalogStep {} calls
    (∃ depth, (findDeviceLayer O.toMapOrder depth c pszCivilCode pszGWID).isSome) ∧
    ∀ depth oCivilList c',
      findDeviceLayer O.toMapOrder depth c pszCivilCode pszGWID = some (oCivilList, c') →
      (stricmpEq pszGWID pszCivilCode = true → Listing (IsEntry c) oCivilList) ∧
      (pszCivilCode.length ∈ [2, 4, 6, 8] →
        Listing (fun x => IsEntry c x ∧ Extends pszCivilCode x) oCivilList) ∧
      (pszCivilCode.length = 20 → stricmpEq pszGWID pszCivilCode = false →
        oCivilList = if pszCivilCode ∈ c.m_oDeviceQueue then [pszCivilCode] else []) := by
  intro c
  have h : CatalogInv c := run_catalogInv calls
  refine ⟨findDeviceLayer_returns O.toMapOrder h _ _, fun depth l c' hfind => ⟨?_, ?_, ?_⟩⟩
  · intro hgw
    have hlen : pszCivilCode.length = 20 := (length_of_stricmpEq hgw).symm.trans pszGWID.2
    exact findDeviceLayer_own O h hlen hgw hfind
  · intro hlen
    exact findDeviceLayer_code O h hlen hfind
  · intro hlen hgw
    exact findDeviceLayer_device O.toMapOrder hlen hgw hfind

/-- The own ID in capitals is another ID, with which the whole tree is listed. -/
theorem findDeviceLayer_other_case :
    ¬ ∀ (O : KeyOrder) (calls : List CatalogCall) (pszGWID pszCivilCode : DeviceID),
      pszCivilCode ≠ pszGWID → ∀ depth oCivilList c',
        findDeviceLayer O.toMapOrder depth (run catalogStep {} calls) pszCivilCode pszGWID =
            some (oCivilList, c') →
          oCivilList = if pszCivilCode.1 ∈ (run catalogStep {} calls).m_oDeviceQueue
            then [pszCivilCode.1] else [] := by
  intro h
  let id : DeviceID := ⟨str "34020000001320000001", by decide⟩
  let own : DeviceID := ⟨str "3402000000200000000a", by decide⟩
  let other : DeviceID := ⟨str "3402000000200000000A", by decide⟩
  have hinv : CatalogInv (run catalogStep {} [.addDevice id]) := run_catalogInv _
  obtain ⟨depth, hsome⟩ := findDeviceLayer_returns KeyOrder.some.toMapOrder hinv other own
  obtain ⟨⟨l, c'⟩, hfind⟩ := Option.isSome_iff_exists.mp hsome
  have hlist := findDeviceLayer_own KeyOrder.some hinv (by decide) (by decide) hfind
  have hmem : id.1 ∈ l := (hlist.mem_iff _).mpr (Or.inl (by decide))
  have hempty := h KeyOrder.some [.addDevice id] own other (by decide) depth l c' hfind
  rw [if_neg (by decide)] at hempty
  rw [hempty] at hmem
  exact List.not_mem_nil hmem

end GB28181.Platform
