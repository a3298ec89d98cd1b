import GB28181.Base.CString
import GB28181.Base.Run
import GB28181.Base.SortedLists
import GB28181.Base.Trim

/-!
# Administrative divisions (`DevInfo/CivilCode.cpp`)

`CCivilCode` knows the divisions by their codes of 8 characters: for every province its cities,
for every city its counties, for every county its stations, and for every code its place.  Codes
may be given shorter, and are filled up with zeros.

* `DivisionTree` — **every level lists the level below it by prefix, in order**;
* `addCode_tree` — `AddCode` enters a code into the tree;
* `divisions_listed` — the lists after every sequence of calls.
-/

set_option autoImplicit false

namespace GB28181.Platform

open GB28181.Base

/-- `PlaceInfo_t`. -/
structure PlaceInfo where
  strName : CStr := []
  strLongitude : CStr := []
  strLatitude : CStr := []
  deriving DecidableEq

/-- `GradeMap`; every pointer stored in it is the only one to its list. -/
abbrev GradeMap := Map CStr (List CStr)

/-- `CCivilCode`, without the name of the file. -/
structure CCivilCode where
  m_oProvinceToCityMap : GradeMap := ∅
  m_oCityToCountyMap : GradeMap := ∅
  m_oCountyToStationMap : GradeMap := ∅
  m_oPlaceInfoMap : Map CStr PlaceInfo := ∅

def formatLength (strData : CStr) (cCharset : UInt8) (nDigit : Nat) : CStr :=
  if strData.length < nDigit then
    strData ++ List.replicate (nDigit - strData.length) cCharset
  else if strData.length > nDigit then strData.take nDigit
  else strData

/-- `CString::TrimRight`. -/
def trimRightSpace (s : CStr) : CStr := s.rdropWhile isSpace

/-- One of the first two blocks of `AddCode`: the list of `szParent`, made where there is none,
takes `szID`. -/
def enterCode (m : GradeMap) (szParent szID : CStr) : GradeMap :=
  Map.modify m szParent [] (insertSort · szID)

/-- The last block of `AddCode`: a list that begins with `"00"` takes nothing. -/
def enterStation (m : GradeMap) (strCounty strStation : CStr) : GradeMap :=
  Map.modify m strCounty [] fun pTmp =>
    if pTmp.length = 0 ∨ pTmp.head? ≠ some (str "00") then insertSort pTmp strStation else pTmp

def addCode (c : CCivilCode) (pszCode pszPlaceName pszLongitude pszLatitude : Option CStr) :
    Int × CCivilCode :=
  match pszCode, pszPlaceName with
  | some pszCode, some pszPlaceName =>
    if 8 < pszCode.length then (-1, c)
    else
      let strCode := formatLength pszCode 0x30 8
      let tPlaceInfo : PlaceInfo :=
        { strName := trimRightSpace pszPlaceName
          strLongitude := pszLongitude.getD []
          strLatitude := pszLatitude.getD [] }
      let strProvince := strCode.take 2
      let strCity := strCode.take 4
      let strCounty := strCode.take 6
      let strStation := strCode
      (0,
        { m_oProvinceToCityMap := enterCode c.m_oProvinceToCityMap strProvince strCity
          m_oCityToCountyMap := enterCode c.m_oCityToCountyMap strCity strCounty
          m_oCountyToStationMap := enterStation c.m_oCountyToStationMap strCounty strStation
          m_oPlaceInfoMap := c.m_oPlaceInfoMap.insert pszCode tPlaceInfo })
  | _, _ => (-1, c)

/-- `AddCode` with a `PlaceInfo_t`. -/
def addPlaceInfo (c : CCivilCode) (pszCode : Option CStr) (ptPlaceInfo : Option PlaceInfo) :
    Int × CCivilCode :=
  match ptPlaceInfo with
  | none => (-1, c)
  | some t => addCode c pszCode (some t.strName) (some t.strLongitude) (some t.strLatitude)

/-- `GetPlaceInfo`: what it finds. -/
def getPlaceInfo (c : CCivilCode) (pszCode : Option CStr) : Option PlaceInfo :=
  match pszCode with
  | none => none
  | some pszCode =>
    if 8 < pszCode.length then none else c.m_oPlaceInfoMap.lookup (formatLength pszCode 0x30 8)

/-! ## Formatting -/

theorem length_formatLength (s : CStr) (cCharset : UInt8) (n : Nat) :
    (formatLength s cCharset n).length = n := by
  unfold formatLength
  split
  · rw [List.length_append, List.length_replicate]
    omega
  split
  · rw [List.length_take]
    omega
  · omega

theorem formatLength_of_length {s : CStr} {n : Nat} (h : s.length = n) (cCharset : UInt8) :
    formatLength s cCharset n = s := by
  unfold formatLength
  rw [if_neg (by omega), if_neg (by omega)]

theorem formatLength_of_le {s : CStr} {n : Nat} (h : s.length ≤ n) (cCharset : UInt8) :
    formatLength s cCharset n = s ++ List.replicate (n - s.length) cCharset := by
  unfold formatLength
  split
  · rfl
  · rw [if_neg (by omega), show n - s.length = 0 by omega, List.replicate_zero, List.append_nil]

/-! ## The tree -/

/-- Every level lists, in order, the level below it by the prefix of its own length; `added` are
the codes of 8 characters. -/
structure DivisionTree (added : CStr → Prop) (c : CCivilCode) : Prop where
  station : SortedGroups (·.take 6) added c.m_oCountyToStationMap
  county : SortedGroups (·.take 4) (· ∈ c.m_oCountyToStationMap) c.m_oCityToCountyMap
  city : SortedGroups (·.take 2) (· ∈ c.m_oCityToCountyMap) c.m_oProvinceToCityMap
  length : ∀ s, added s → s.length = 8

theorem divisionTree_empty : DivisionTree (fun _ => False) {} where
  station := SortedGroups.empty
  county := SortedGroups.empty.congr fun _ => by simp [Finmap.notMem_empty]
  city := SortedGroups.empty.congr fun _ => by simp [Finmap.notMem_empty]
  length _ h := h.elim

/-- A list of stations takes every code: it does not begin with `"00"`. -/
theorem enterStation_eq {added : CStr → Prop} {m : GradeMap}
    (h : SortedGroups (·.take 6) added m) (hlen : ∀ s, added s → s.length = 8)
    (strCounty strStation : CStr) :
    enterStation m strCounty strStation = enterCode m strCounty strStation := by
  have hhead : (Map.index m strCounty []).head? ≠ some (str "00") := by
    intro hhead
    have hmem := List.mem_of_head? hhead
    have := hlen _ ((h.mem_index strCounty _).mp hmem).1
    revert this
    decide
  unfold enterStation enterCode Map.modify
  dsimp only
  rw [if_pos (Or.inr hhead)]

/-- **Adding keeps the tree**, and enters the code filled up with zeros. -/
theorem addCode_tree {added : CStr → Prop} {c : CCivilCode} (h : DivisionTree added c)
    {pszCode : CStr} (hlen : ¬ 8 < pszCode.length) (pszPlaceName : CStr)
    (pszLongitude pszLatitude : Option CStr) :
    DivisionTree (fun s => s = formatLength pszCode 0x30 8 ∨ added s)
      (addCode c (some pszCode) (some pszPlaceName) pszLongitude pszLatitude).2 := by
  have cut : ∀ (s : CStr) (m n : Nat), m ≤ n → (s.take n).take m = s.take m := fun s m n hmn => by
    rw [List.take_take, Nat.min_eq_left hmn]
  simp only [addCode, if_neg hlen, enterStation_eq h.station h.length, enterCode]
  generalize hform : formatLength pszCode 0x30 8 = strCode
  have hcounty := h.county.add (strCode.take 6)
  have hcity := h.city.add (strCode.take 4)
  rw [cut strCode 4 6 (by decide)] at hcounty
  rw [cut strCode 2 4 (by decide)] at hcity
  exact
    { station := h.station.add strCode
      county := hcounty.congr fun x => Finmap.mem_insert.symm
      city := hcity.congr fun x => Finmap.mem_insert.symm
      length := by
        rintro s (rfl | hs)
        · rw [← hform, length_formatLength]
        · exact h.length s hs }

/-! ## Runs -/

/-- A call of one of the two functions. -/
inductive AddCall where
  | addCode (pszCode pszPlaceName pszLongitude pszLatitude : Option CStr)
  | addPlaceInfo (pszCode : Option CStr) (ptPlaceInfo : Option PlaceInfo)

def AddCall.pszCode : AddCall → Option CStr
  | .addCode pszCode _ _ _ => pszCode
  | .addPlaceInfo pszCode _ => pszCode

def addCall (c : CCivilCode) : AddCall → Int × CCivilCode
  | .addCode code name lon lat => addCode c code name lon lat
  | .addPlaceInfo code t => addPlaceInfo c code t

def divisionStep (c : CCivilCode) (call : AddCall) : CCivilCode := (addCall c call).2

theorem addCode_cases (c : CCivilCode) (pszCode name lon lat : Option CStr) :
    (∃ code nm, pszCode = some code ∧ name = some nm ∧ ¬ 8 < code.length ∧
        (addCode c pszCode name lon lat).1 = 0) ∨
      addCode c pszCode name lon lat = (-1, c) := by
  cases pszCode with
  | none => exact Or.inr rfl
  | some code =>
    cases name with
    | none => exact Or.inr rfl
    | some nm =>
      by_cases hlen : 8 < code.length
      · exact Or.inr (if_pos hlen)
      · refine Or.inl ⟨code, nm, rfl, rfl, hlen, ?_⟩
        simp only [addCode, if_neg hlen]

theorem addCall_eq (c : CCivilCode) (call : AddCall) :
    ∃ name lon lat, addCall c call = addCode c call.pszCode name lon lat := by
  cases call with
  | addCode code name lon lat => exact ⟨name, lon, lat, rfl⟩
  | addPlaceInfo code t =>
    cases t with
    | none => exact ⟨none, none, none, by cases code <;> rfl⟩
    | some t => exact ⟨some t.strName, some t.strLongitude, some t.strLatitude, rfl⟩

theorem DivisionTree.congr {added added' : CStr → Prop} {c : CCivilCode}
    (h : DivisionTree added c) (hadded : ∀ s, added s ↔ added' s) : DivisionTree added' c where
  station := h.station.congr hadded
  county := h.county
  city := h.city
  length s hs := h.length s ((hadded s).mpr hs)

/-- The code of 8 characters that a call adds. -/
def AddsCode (c : CCivilCode) (call : AddCall) (s : CStr) : Prop :=
  (addCall c call).1 = 0 ∧ ∃ pszCode, call.pszCode = some pszCode ∧ s = formatLength pszCode 0x30 8

/-- **Every call keeps the tree**, with the code it adds. -/
theorem divisionStep_tree {added : CStr → Prop} {c : CCivilCode} (h : DivisionTree added c)
    (call : AddCall) :
    DivisionTree (fun s => AddsCode c call s ∨ added s) (divisionStep c call) := by
  obtain ⟨name, lon, lat, hcall⟩ := addCall_eq c call
  unfold divisionStep AddsCode
  rw [hcall]
  rcases addCode_cases c call.pszCode name lon lat with ⟨code, nm, hcode, rfl, hlen, hret⟩ | hnone
  · rw [hret, hcode]
    refine (addCode_tree h hlen nm lon lat).congr fun s => or_congr_left ⟨fun hs => ?_, ?_⟩
    · exact ⟨rfl, code, rfl, hs⟩
    · rintro ⟨-, _, he, hs⟩
      obtain rfl := Option.some.inj he
      exact hs
  · rw [hnone]
    refine h.congr fun s => (or_iff_right ?_).symm
    rintro ⟨hret, -⟩
    exact absurd hret (show ¬ (-1 : Int) = 0 by decide)

/-- The codes of 8 characters that the calls of a run added. -/
def CodeAdded (cs : List AddCall) (s : CStr) : Prop :=
  ∃ p ∈ calls divisionStep {} cs, AddsCode p.1 p.2 s

theorem run_divisionTree {added : CStr → Prop} {c : CCivilCode} (h : DivisionTree added c)
    (cs : List AddCall) :
    DivisionTree (fun s => (∃ p ∈ calls divisionStep c cs, AddsCode p.1 p.2 s) ∨ added s)
      (run divisionStep c cs) := by
  induction cs generalizing c added with
  | nil => exact h.congr fun s => (or_iff_right fun ⟨_, hp, _⟩ => List.not_mem_nil hp).symm
  | cons call cs ih =>
    refine (ih (divisionStep_tree h call)).congr fun s => ?_
    rw [calls, List.exists_mem_cons_iff, or_left_comm, or_assoc]

/-! ## The lists -/

/-- Every list is in strictly increasing order and extends its key by two characters. -/
structure GradeListed (m : GradeMap) : Prop where
  sorted : ∀ k l, m.lookup k = some l → l.Pairwise (· < ·)
  extended : ∀ k l, m.lookup k = some l → ∀ x ∈ l, k <+: x ∧ x.length = k.length + 2

theorem gradeListed_of_groups {n : Nat} {S : CStr → Prop} {m : GradeMap}
    (h : SortedGroups (·.take n) S m) (hlen : ∀ x, S x → x.length = n + 2) : GradeListed m where
  sorted _ _ hl := h.sorted hl
  extended k l hl x hx := by
    obtain ⟨hS, rfl⟩ := (h.list_iff hl x).mp hx
    have := hlen x hS
    refine ⟨List.take_prefix n x, ?_⟩
    rw [List.length_take]
    omega

theorem length_of_mem_groups {n : Nat} {S : CStr → Prop} {m : GradeMap}
    (h : SortedGroups (·.take n) S m) (hlen : ∀ x, S x → n ≤ x.length) {k : CStr} (hk : k ∈ m) :
    k.length = n := by
  obtain ⟨x, hS, rfl⟩ := (h.mem_iff k).mp hk
  rw [List.length_take, Nat.min_eq_left (hlen x hS)]

/-- **The divisions.**  After every sequence of calls the lists are in order, the members of a
list have a list of their own in the level below, and every code that was added stands, filled up
with zeros, in the list of one county. -/
theorem divisions_listed (cs : List AddCall) :
    let c := run divisionStep {} cs
    (GradeListed c.m_oProvinceToCityMap ∧ GradeListed c.m_oCityToCountyMap ∧
      GradeListed c.m_oCountyToStationMap) ∧
    (∀ k l, c.m_oProvinceToCityMap.lookup k = some l → ∀ x ∈ l, x ∈ c.m_oCityToCountyMap) ∧
    (∀ k l, c.m_oCityToCountyMap.lookup k = some l → ∀ x ∈ l, x ∈ c.m_oCountyToStationMap) ∧
    ∀ s, CodeAdded cs s → ∃! k, ∃ l, c.m_oCountyToStationMap.lookup k = some l ∧ s ∈ l := by
  intro c
  have h : DivisionTree (CodeAdded cs) c :=
    (run_divisionTree divisionTree_empty cs).congr fun s => or_iff_left id
  have hcounty : ∀ k ∈ c.m_oCountyToStationMap, k.length = 6 := fun k hk =>
    length_of_mem_groups h.station (fun x hx => by rw [h.length x hx]; decide) hk
  have hcity : ∀ k ∈ c.m_oCityToCountyMap, k.length = 4 := fun k hk =>
    length_of_mem_groups h.county (fun x hx => by rw [hcounty x hx]; decide) hk
  refine ⟨⟨gradeListed_of_groups h.city hcity, gradeListed_of_groups h.county hcounty,
    gradeListed_of_groups h.station h.length⟩, ?_, ?_, fun s hs => ?_⟩
  · intro k l hl x hx
    exact ((h.city.list_iff hl x).mp hx).1
  · intro k l hl x hx
    exact ((h.county.list_iff hl x).mp hx).1
  · obtain ⟨l, hl⟩ := Finmap.mem_iff.mp ((h.station.mem_iff (s.take 6)).mpr ⟨s, hs, rfl⟩)
    refine ⟨s.take 6, ⟨l, hl, (h.station.list_iff hl s).mpr ⟨hs, rfl⟩⟩, ?_⟩
    rintro k ⟨l', hl', hmem⟩
    exact ((h.station.list_iff hl' s).mp hmem).2.symm

end GB28181.Platform
