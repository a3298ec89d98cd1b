import Mathlib.Tactic.Tauto
import GB28181.Base.Walk
import GB28181.Platform.CatalogLayer

/-!
# The lock of the catalogue tree (`DevInfo/CatalogLayer.cpp`)

The three calls of `CCatalogLayer` enter `m_oLock` and are to leave it again.  The maps of a state
are arbitrary here, and a call need not return: `ErgodicRead` follows the lists wherever they lead.

* `delDevice_lock` — `DelDevice` keeps the lock **exactly when it leaves an entry in one of the
  lists it goes through**;
* `findDeviceLayer_returns_iff` — `FindDeviceLayer` returns exactly when the lists below the code
  have an end, as they do in a tree of devices (`catalogInv_ends`);
* `lock_balanced_iff` — the runs in which every call returns and leaves the lock as it was.
-/

set_option autoImplicit false

namespace GB28181.Platform

open GB28181.Base GB28181.GBUtils

/-! ## Reading -/

/-- The order in which the maps enumerate their keys. -/
structure MapOrder where
  keys : ∀ {V : Type}, Map CStr V → List CStr
  mem_keys : ∀ {V : Type} (m : Map CStr V) (k : CStr), k ∈ keys m ↔ k ∈ m

/-- Some order. -/
noncomputable def MapOrder.some : MapOrder where
  keys m := m.keys.toList
  mem_keys m k := by rw [Finset.mem_toList, Finmap.mem_keys]

variable (O : MapOrder)

/-- `pCivilMaps[nLayer]`. -/
def CCatalogLayer.pCivilMaps (c : CCatalogLayer) : Nat → CounterMap
  | 0 => c.m_oProvinceCount
  | 1 => c.m_oCityCount
  | 2 => c.m_oDistrictCount
  | _ => c.m_oStationCount

/-- `nLayer` of a code. -/
def layerOf (pszCivilCode : CStr) : Int := (pszCivilCode.length / 2 : Nat) - 1

def listedBelow (c : CCatalogLayer) (pszCivilCode : CStr) : List CStr :=
  let nLayer := layerOf pszCivilCode
  if 0 > nLayer ∨ 3 < nLayer then []
  else
    match (c.pCivilMaps nLayer.toNat).lookup pszCivilCode with
    | none => []
    | some pList => O.keys pList

/-- `ErgodicRead`: what it adds to `oCivilList`, with a bound on the depth of its calls. -/
def ergodicRead (c : CCatalogLayer) : Nat → CStr → Option (List CStr) :=
  walk (listedBelow O c) fun pszCivilCode => decide (3 > layerOf pszCivilCode)

/-- `FindDeviceLayer`: the list it fills and the state it leaves. -/
def findDeviceLayer (depth : Nat) (c : CCatalogLayer) (pszCivilCode pszGWID : CStr) :
    Option (List CStr × CCatalogLayer) :=
  let c := c.lock
  let oCivilList :=
    if 20 = pszCivilCode.length then
      if stricmpEq pszGWID pszCivilCode then
        collect (fun strProvinceID => (ergodicRead O c depth strProvinceID).map
          ([strProvinceID] ++ ·)) (O.keys c.m_oProvinceCount)
      else some (if pszCivilCode ∈ c.m_oDeviceQueue then [pszCivilCode] else [])
    else ergodicRead O c depth pszCivilCode
  oCivilList.map fun oCivilList => (oCivilList, c.unlock)

/-- `x` is followed from the list of `code`. -/
def ListedUnder (c : CCatalogLayer) (x code : CStr) : Prop :=
  0 ≤ layerOf code ∧ layerOf code < 3 ∧
    ∃ l, (c.pCivilMaps (layerOf code).toNat).lookup code = some l ∧ x ∈ l

/-- The lists below a code have an end. -/
def Ends (c : CCatalogLayer) (code : CStr) : Prop := Acc (ListedUnder c) code

theorem below_iff_listedUnder (c : CCatalogLayer) (x code : CStr) :
    Below (listedBelow O c) (fun code => decide (3 > layerOf code)) x code ↔
      ListedUnder c x code := by
  unfold Below listedBelow ListedUnder
  dsimp only
  rw [decide_eq_true_iff]
  by_cases hl : 0 > layerOf code ∨ 3 < layerOf code
  · rw [if_pos hl]
    constructor
    · rintro ⟨_, hx⟩
      cases hx
    · rintro ⟨h0, h3, _⟩
      omega
  · rw [if_neg hl]
    cases hlook : (c.pCivilMaps (layerOf code).toNat).lookup code with
    | none => simp
    | some l =>
      rw [O.mem_keys]
      constructor
      · rintro ⟨h3, hx⟩
        exact ⟨by omega, by omega, l, rfl, hx⟩
      · rintro ⟨_, h3, l', hl', hx⟩
        obtain rfl := Option.some.inj hl'
        exact ⟨by omega, hx⟩

theorem acc_below_iff (c : CCatalogLayer) (code : CStr) :
    Acc (Below (listedBelow O c) fun code => decide (3 > layerOf code)) code ↔ Ends c code := by
  have hrel : Below (listedBelow O c) (fun code => decide (3 > layerOf code)) = ListedUnder c := by
    funext x code
    exact propext (below_iff_listedUnder O c x code)
  rw [hrel, Ends]

/-- The lists `FindDeviceLayer` goes through have an end. -/
def ListsEnd (c : CCatalogLayer) (pszCivilCode pszGWID : CStr) : Prop :=
  if 20 = pszCivilCode.length then
    stricmpEq pszGWID pszCivilCode = true → ∀ p ∈ c.m_oProvinceCount, Ends c p
  else Ends c pszCivilCode

theorem findDeviceLayer_state {depth : Nat} {c c' : CCatalogLayer} {civil gw : CStr}
    {l : List CStr} (h : findDeviceLayer O depth c civil gw = some (l, c')) : c' = c := by
  obtain ⟨l', -, he⟩ := Option.map_eq_some_iff.mp h
  have hc : c.lock.unlock = c' := congrArg Prod.snd he
  rw [← hc, CCatalogLayer.lock, CCatalogLayer.unlock, Int.add_sub_cancel]

/-- **When a search returns.** -/
theorem findDeviceLayer_returns_iff (c : CCatalogLayer) (civil gw : CStr) :
    (∃ depth, (findDeviceLayer O depth c civil gw).isSome) ↔ ListsEnd c civil gw := by
  have hlock : ∀ code, Ends c.lock code ↔ Ends c code := fun code => Iff.rfl
  unfold findDeviceLayer ListsEnd
  simp only [Option.isSome_map]
  by_cases hlen : 20 = civil.length
  · rw [if_pos hlen]
    by_cases hgw : stricmpEq gw civil = true
    · simp only [if_pos hlen, if_pos hgw, ergodicRead]
      rw [collect_returns_iff (fun strProvinceID => [strProvinceID])]
      simp only [O.mem_keys, acc_below_iff, hlock]
      exact ⟨fun h _ => h, fun h => h hgw⟩
    · simp only [if_pos hlen, if_neg hgw]
      exact ⟨fun _ h => absurd h hgw, fun _ => ⟨0, rfl⟩⟩
  · simp only [if_neg hlen, ergodicRead]
    rw [walk_returns_iff, acc_below_iff, hlock]

/-- The entry a device makes at a level of the tree. -/
def entryAt (i : Nat) (d : CStr) : CStr := if i < 3 then d.take (2 * i + 4) else d

theorem tree_groups {c : CCatalogLayer} (h : Tree c) {i : Nat} (hi : i ≤ 3) :
    Groups (·.take (2 * i + 2)) (fun x => ∃ d ∈ c.m_oDeviceQueue, entryAt i d = x)
      (c.pCivilMaps i) := by
  have cut : ∀ (d : CStr) (m n : Nat), m ≤ n → (d.take n).take m = d.take m := fun d m n hmn => by
    rw [List.take_take, Nat.min_eq_left hmn]
  have station : ∀ x, x ∈ c.m_oStationCount ↔ ∃ d ∈ c.m_oDeviceQueue, d.take 8 = x :=
    h.station.mem_iff
  have district : ∀ x, x ∈ c.m_oDistrictCount ↔ ∃ d ∈ c.m_oDeviceQueue, d.take 6 = x := by
    intro x
    rw [h.district.mem_iff]
    constructor
    · rintro ⟨s, hs, rfl⟩
      obtain ⟨d, hd, rfl⟩ := (station s).mp hs
      exact ⟨d, hd, (cut d 6 8 (by decide)).symm⟩
    · rintro ⟨d, hd, rfl⟩
      exact ⟨d.take 8, (station _).mpr ⟨d, hd, rfl⟩, cut d 6 8 (by decide)⟩
  have city : ∀ x, x ∈ c.m_oCityCount ↔ ∃ d ∈ c.m_oDeviceQueue, d.take 4 = x := by
    intro x
    rw [h.city.mem_iff]
    constructor
    · rintro ⟨s, hs, rfl⟩
      obtain ⟨d, hd, rfl⟩ := (district s).mp hs
      exact ⟨d, hd, (cut d 4 6 (by decide)).symm⟩
    · rintro ⟨d, hd, rfl⟩
      exact ⟨d.take 6, (district _).mpr ⟨d, hd, rfl⟩, cut d 4 6 (by decide)⟩
  obtain rfl | rfl | rfl | rfl : i = 0 ∨ i = 1 ∨ i = 2 ∨ i = 3 := by omega
  · exact h.province.congr city
  · exact h.city.congr district
  · exact h.district.congr station
  · exact h.station.congr fun x => by simp [entryAt]

/-- What is followed from a code is longer, where no device has the length of a code that is
followed; and codes of 8 characters are not followed. -/
theorem listedUnder_longer {c : CCatalogLayer} (h : Tree c)
    (hlen : ∀ d ∈ c.m_oDeviceQueue, d.length ≠ 2 ∧ d.length ≠ 4 ∧ d.length ≠ 6) {x code : CStr}
    (hx : ListedUnder c x code) : code.length < x.length ∧ code.length < 8 := by
  obtain ⟨h0, h3, l, hl, hx⟩ := hx
  obtain ⟨i, hi⟩ : ∃ i : Nat, layerOf code = i := ⟨(layerOf code).toNat, by omega⟩
  rw [hi] at hl h3
  have hi3 : i < 3 := by omega
  obtain ⟨⟨d, hd, rfl⟩, hcode⟩ := ((tree_groups h hi3.le).list_iff hl x).mp hx
  rw [entryAt, if_pos hi3] at hcode ⊢
  have hne := hlen d hd
  have hlayer : ((code.length / 2 : Nat) : Int) - 1 = i := hi
  have hlength := congrArg List.length hcode
  rw [List.take_take, List.length_take] at hlength
  rw [List.length_take]
  omega

/-- **Where the lists of a tree have an end**: no device has 2, 4 or 6 characters. -/
theorem tree_ends {c : CCatalogLayer} (h : Tree c)
    (hlen : ∀ d ∈ c.m_oDeviceQueue, d.length ≠ 2 ∧ d.length ≠ 4 ∧ d.length ≠ 6) (code : CStr) :
    Ends c code := by
  -- the codes grow from list to list
  have hends : ∀ n code, 8 - code.length ≤ n → Ends c code := by
    intro n
    induction n with
    | zero =>
      intro code hn
      constructor
      intro x hx
      have := (listedUnder_longer h hlen hx).2
      omega
    | succ n ih =>
      intro code hn
      constructor
      intro x hx
      have := listedUnder_longer h hlen hx
      exact ih x (by omega)
  exact hends (8 - code.length) code (Nat.le_refl _)

theorem catalogInv_ends {c : CCatalogLayer} (h : CatalogInv c) (code : CStr) : Ends c code :=
  tree_ends h.tree (fun d hd => by rw [h.length d hd]; decide) code

/-! ## Deleting -/

/-- The list of `szID` has an entry other than `child`. -/
def HasOther (m : CounterMap) (szID child : CStr) : Prop :=
  ∃ l, m.lookup szID = some l ∧ ∃ x ∈ l, x ≠ child

/-- There is a list of `szID`, and nothing but `child` in it. -/
def HasOnly (m : CounterMap) (szID child : CStr) : Prop :=
  ∃ l, m.lookup szID = some l ∧ ∀ x ∈ l, x = child

/-- Going up from the station code of a device that is there, the first list with something else
in it is met before a code without a list. -/
def KeepsEntry (c : CCatalogLayer) (id : CStr) : Prop :=
  id ∈ c.m_oDeviceQueue ∧
    (HasOther c.m_oStationCount (id.take 8) id ∨
      HasOnly c.m_oStationCount (id.take 8) id ∧
        (HasOther c.m_oDistrictCount (id.take 6) (id.take 8) ∨
          HasOnly c.m_oDistrictCount (id.take 6) (id.take 8) ∧
            (HasOther c.m_oCityCount (id.take 4) (id.take 6) ∨
              HasOnly c.m_oCityCount (id.take 4) (id.take 6) ∧
                HasOther c.m_oProvinceCount (id.take 2) (id.take 4))))

theorem HasOnly.not_hasOther {m : CounterMap} {szID child : CStr} (h : HasOnly m szID child) :
    ¬ HasOther m szID child := by
  obtain ⟨l, hl, hall⟩ := h
  rintro ⟨l', hl', x, hx, hne⟩
  obtain rfl := Option.some.inj (hl.symm.trans hl')
  exact hne (hall x hx)

theorem removeCatalog_split (szID child : CStr) (m : CounterMap) :
    (removeCatalog szID child m = .missing ∧ ¬ HasOther m szID child ∧ ¬ HasOnly m szID child) ∨
      ((∃ m', removeCatalog szID child m = .kept m') ∧ HasOther m szID child) ∨
      (∃ m', removeCatalog szID child m = .emptied m') ∧ HasOnly m szID child := by
  unfold removeCatalog
  cases hl : m.lookup szID with
  | none =>
    refine Or.inl ⟨rfl, ?_, ?_⟩ <;>
    · rintro ⟨l, hl', -⟩
      rw [hl] at hl'
      cases hl'
  | some l =>
    dsimp only
    cases he : Map.isEmpty (l.erase child) with
    | true =>
      refine Or.inr (Or.inr ⟨⟨_, rfl⟩, l, hl, fun x hx => ?_⟩)
      by_contra hne
      have hnone := (Map.isEmpty_iff _).mp he x
      exact Finmap.lookup_eq_none.mp hnone (Finmap.mem_erase.mpr ⟨hne, hx⟩)
    | false =>
      obtain ⟨x, hx⟩ := (Map.isEmpty_eq_false_iff _).mp he
      obtain ⟨hne, hx⟩ := Finmap.mem_erase.mp hx
      exact Or.inr (Or.inl ⟨⟨_, rfl⟩, l, hl, x, hx, hne⟩)

theorem addDevice_lock (c : CCatalogLayer) (id : CStr) :
    (addDevice c id).2.m_oLock = c.m_oLock := by
  have hdepth : c.m_oLock + 1 - 1 = c.m_oLock := Int.add_sub_cancel _ _
  by_cases hid : id ∈ c.m_oDeviceQueue
  · rw [show addDevice c id = _ from if_pos hid]
    exact hdepth
  · rw [show addDevice c id = _ from if_neg hid]
    exact hdepth

/-- **`DelDevice` keeps the lock** exactly when it leaves an entry in a list it goes through. -/
theorem delDevice_lock (c : CCatalogLayer) (id : CStr) :
    (delDevice c id).2.m_oLock = c.m_oLock ↔ ¬ KeepsEntry c id := by
  have hleft : c.m_oLock + 1 - 1 = c.m_oLock := Int.add_sub_cancel _ _
  have hheld : ¬ c.m_oLock + 1 = c.m_oLock := by omega
  by_cases hid : id ∈ c.m_oDeviceQueue
  swap
  · rw [show delDevice c id = _ from if_pos hid]
    exact iff_of_true hleft fun h => hid h.1
  rw [show delDevice c id = _ from if_neg (not_not.mpr hid)]
  simp only [CCatalogLayer.lock, CCatalogLayer.unlock, stringCpy_s_succ]
  unfold KeepsEntry
  rcases removeCatalog_split (id.take 8) id c.m_oStationCount with
    ⟨hr, hno, hon⟩ | ⟨⟨m, hr⟩, ho⟩ | ⟨⟨m, hr⟩, hon⟩ <;> simp only [hr]
  · exact iff_of_true hleft (by tauto)
  · exact iff_of_false hheld (by tauto)
  have hno := hon.not_hasOther
  rcases removeCatalog_split (id.take 6) (id.take 8) c.m_oDistrictCount with
    ⟨hr, hno', hon'⟩ | ⟨⟨m, hr⟩, ho'⟩ | ⟨⟨m, hr⟩, hon'⟩ <;> simp only [hr]
  · exact iff_of_true hleft (by tauto)
  · exact iff_of_false hheld (by tauto)
  have hno' := hon'.not_hasOther
  rcases removeCatalog_split (id.take 4) (id.take 6) c.m_oCityCount with
    ⟨hr, hno'', hon''⟩ | ⟨⟨m, hr⟩, ho''⟩ | ⟨⟨m, hr⟩, hon''⟩ <;> simp only [hr]
  · exact iff_of_true hleft (by tauto)
  · exact iff_of_false hheld (by tauto)
  have hno'' := hon''.not_hasOther
  rcases removeCatalog_split (id.take 2) (id.take 4) c.m_oProvinceCount with
    ⟨hr, hno₃, hon₃⟩ | ⟨⟨m, hr⟩, ho₃⟩ | ⟨⟨m, hr⟩, hon₃⟩ <;> simp only [hr]
  · exact iff_of_true hleft (by tauto)
  · exact iff_of_false hheld (by tauto)
  · have hno₃ := hon₃.not_hasOther
    exact iff_of_true hleft (by tauto)

/-! ## Runs -/

/-- The calls of a thread, on texts of any length. -/
inductive LockCall where
  | addDevice (pszDeviceID : CStr)
  | delDevice (pszDeviceID : CStr)
  | findDeviceLayer (pszCivilCode pszGWID : CStr)

/-- The state a call leaves when it returns. -/
def Returns (c : CCatalogLayer) (call : LockCall) (c' : CCatalogLayer) : Prop :=
  match call with
  | .addDevice id => c' = (addDevice c id).2
  | .delDevice id => c' = (delDevice c id).2
  | .findDeviceLayer civil gw => ∃ depth l, findDeviceLayer O depth c civil gw = some (l, c')

/-- The state the next call of the thread meets; a search changes nothing. -/
def lockStep (c : CCatalogLayer) : LockCall → CCatalogLayer
  | .addDevice id => (addDevice c id).2
  | .delDevice id => (delDevice c id).2
  | .findDeviceLayer _ _ => c

/-- The call returns, with the lock as deep as before. -/
def Balanced (c : CCatalogLayer) (call : LockCall) : Prop :=
  ∃ c', Returns O c call c' ∧ c'.m_oLock = c.m_oLock

/-- A deletion leaves no list with entries; a search goes through lists that have an end. -/
def LeavesLock (c : CCatalogLayer) : LockCall → Prop
  | .addDevice _ => True
  | .delDevice id => ¬ KeepsEntry c id
  | .findDeviceLayer civil gw => ListsEnd c civil gw

theorem balanced_iff (c : CCatalogLayer) (call : LockCall) :
    Balanced O c call ↔ LeavesLock c call := by
  cases call with
  | addDevice id => exact iff_of_true ⟨_, rfl, addDevice_lock c id⟩ trivial
  | delDevice id =>
    refine Iff.trans ?_ (delDevice_lock c id)
    constructor
    · rintro ⟨c', rfl, hlock⟩
      exact hlock
    · intro hlock
      exact ⟨_, rfl, hlock⟩
  | findDeviceLayer civil gw =>
    refine Iff.trans ?_ (findDeviceLayer_returns_iff O c civil gw)
    constructor
    · rintro ⟨c', ⟨depth, l, hfind⟩, -⟩
      exact ⟨depth, by rw [hfind]; rfl⟩
    · rintro ⟨depth, hsome⟩
      obtain ⟨⟨l, c'⟩, hfind⟩ := Option.isSome_iff_exists.mp hsome
      exact ⟨c', ⟨depth, l, hfind⟩, by rw [findDeviceLayer_state O hfind]⟩

/-- **The lock over a run.**  From every state, every call of a sequence returns with the lock as
deep as before exactly when every deletion leaves no list with entries and every search goes
through lists that have an end. -/
theorem lock_balanced_iff (c : CCatalogLayer) (is : List LockCall) :
    (∀ p ∈ calls lockStep c is, Balanced O p.1 p.2) ↔
      ∀ p ∈ calls lockStep c is, LeavesLock p.1 p.2 :=
  forall₂_congr fun p _ => balanced_iff O p.1 p.2

/-- Two cameras of one station, one of them deleted: the lock stays entered. -/
theorem delDevice_holds_lock :
    ¬ ∀ (O : MapOrder) (c : CCatalogLayer) (is : List LockCall),
      ∀ p ∈ calls lockStep c is, Balanced O p.1 p.2 := by
  intro h
  let id₁ := str "34020000001320000001"
  let id₂ := str "34020000001320000002"
  let c := (addDevice (addDevice {} id₁).2 id₂).2
  have hmem : (c, LockCall.delDevice id₂) ∈
      calls lockStep {} [.addDevice id₁, .addDevice id₂, .delDevice id₂] :=
    mem_calls_iff.mpr ⟨[.addDevice id₁, .addDevice id₂], [], rfl, rfl⟩
  obtain ⟨c', rfl, hlock⟩ := h MapOrder.some {} _ _ hmem
  revert hlock
  decide

end GB28181.Platform
