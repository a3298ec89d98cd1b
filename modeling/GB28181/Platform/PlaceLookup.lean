import GB28181.Platform.CivilCodeFile

/-!
# Looking a division up (`DevInfo/CivilCode.cpp`)

`GetPlaceInfo` looks a place up under the code filled up with zeros; `AddCode` and
`ModifyPlaceInfo` store it under the code as they were given it.

* `givenStep` — what is given for a division, whichever way its code is spelled;
* `found_iff` — one call leaves every division to be found as it was given **exactly when the code
  is spelled out** and nothing that was given is lost;
* `getPlaceInfo_last_iff` — the same for every sequence of calls.
-/

set_option autoImplicit false

namespace GB28181.Platform

open GB28181.Base

/-- A coordinate of `ModifyPlaceInfo`: what is stored stays where nothing is given. -/
def keptCoordinate (pszGiven : Option CStr) (strStored : CStr) : CStr :=
  if 0 < (pszGiven.getD []).length then pszGiven.getD [] else strStored

/-- The first part of `ModifyPlaceInfo`: the place that is stored under the code takes what is
given. -/
def modifyStored (c : CCivilCode) (pszCode : CStr)
    (pszPlaceName pszLongitude pszLatitude : Option CStr) : CCivilCode × PlaceInfo :=
  match c.m_oPlaceInfoMap.lookup pszCode with
  | none => (c, {})
  | some t =>
    let tPlaceInfo : PlaceInfo :=
      { strName := pszPlaceName.getD []
        strLongitude := keptCoordinate pszLongitude t.strLongitude
        strLatitude := keptCoordinate pszLatitude t.strLatitude }
    ({ c with m_oPlaceInfoMap := c.m_oPlaceInfoMap.insert pszCode tPlaceInfo }, tPlaceInfo)

/-- `ModifyPlaceInfo` with the file as it finds it, and the file it leaves; there is none after a
file that cannot be opened. -/
def modifyPlaceInfo (c : CCivilCode) (file : Option CStr) (pszCode : CStr)
    (pszPlaceName pszLongitude pszLatitude : Option CStr) : Option (CCivilCode × CStr) :=
  let stored := modifyStored c pszCode pszPlaceName pszLongitude pszLatitude
  (writeInfo file pszCode pszPlaceName (some stored.2.strLongitude)
    (some stored.2.strLatitude)).map fun r =>
      (if 0 = r.1 then (addCode stored.1 (some pszCode) pszPlaceName pszLongitude pszLatitude).2
        else stored.1, r.2)

/-! ## What is given -/

/-- The place a call gives for a division, over what was given for it before: a name without white
space behind it, and the coordinates that are not left out. -/
def placeGiven (old : PlaceInfo) (pszPlaceName pszLongitude pszLatitude : Option CStr) :
    PlaceInfo where
  strName := trimRightSpace (pszPlaceName.getD [])
  strLongitude := keptCoordinate pszLongitude old.strLongitude
  strLatitude := keptCoordinate pszLatitude old.strLatitude

/-- `WriteInfo` with the code returns 0. -/
def WritesCode (file : Option CStr) (pszCode : CStr) : Prop :=
  (writeInfo file pszCode none none none).map Prod.fst = some 0

instance (file : Option CStr) (pszCode : CStr) : Decidable (WritesCode file pszCode) :=
  inferInstanceAs (Decidable (_ = _))

/-- The calls of a run; a call of `ModifyPlaceInfo` with the file as it finds it. -/
inductive PlaceCall where
  | addCode (pszCode pszPlaceName pszLongitude pszLatitude : Option CStr)
  | addPlaceInfo (pszCode : Option CStr) (ptPlaceInfo : Option PlaceInfo)
  | modifyPlaceInfo (file : Option CStr) (pszCode : CStr)
      (pszPlaceName pszLongitude pszLatitude : Option CStr)

def placeCall (c : CCivilCode) : PlaceCall → Option CCivilCode
  | .addCode code name lon lat => some (addCode c code name lon lat).2
  | .addPlaceInfo code t => some (addPlaceInfo c code t).2
  | .modifyPlaceInfo file code name lon lat =>
    (modifyPlaceInfo c file code name lon lat).map Prod.fst

/-- The places given for the divisions, under their codes of 8 characters. -/
abbrev GivenPlaces := Map CStr PlaceInfo

/-- What `AddCode` gives. -/
def givenByAdd (g : GivenPlaces) (pszCode pszPlaceName pszLongitude pszLatitude : Option CStr) :
    GivenPlaces :=
  match pszCode, pszPlaceName with
  | some pszCode, some pszPlaceName =>
    if 8 < pszCode.length then g
    else g.insert (formatLength pszCode 0x30 8)
      (placeGiven {} (some pszPlaceName) pszLongitude pszLatitude)
  | _, _ => g

/-- `ModifyPlaceInfo` gives a place for a division that was added, or that it adds. -/
def ModifiesPlace (g : GivenPlaces) (file : Option CStr) (pszCode : CStr)
    (pszPlaceName : Option CStr) : Prop :=
  ¬ 8 < pszCode.length ∧
    (formatLength pszCode 0x30 8 ∈ g ∨ pszPlaceName.isSome ∧ WritesCode file pszCode)

instance (g : GivenPlaces) (file : Option CStr) (pszCode : CStr) (pszPlaceName : Option CStr) :
    Decidable (ModifiesPlace g file pszCode pszPlaceName) := inferInstanceAs (Decidable (_ ∧ _))

/-- What `ModifyPlaceInfo` gives. -/
def givenByModify (g : GivenPlaces) (file : Option CStr) (pszCode : CStr)
    (pszPlaceName pszLongitude pszLatitude : Option CStr) : GivenPlaces :=
  let strCode := formatLength pszCode 0x30 8
  if ModifiesPlace g file pszCode pszPlaceName then
    g.insert strCode
      (placeGiven (Map.index g strCode {}) pszPlaceName pszLongitude pszLatitude)
  else g

def givenStep (g : GivenPlaces) : PlaceCall → GivenPlaces
  | .addCode code name lon lat => givenByAdd g code name lon lat
  | .addPlaceInfo code t =>
    givenByAdd g code (t.map (·.strName)) (t.map (·.strLongitude)) (t.map (·.strLatitude))
  | .modifyPlaceInfo file code name lon lat => givenByModify g file code name lon lat

/-! ## What is stored -/

theorem writeInfoIn_fst (file code : CStr) (name lon lat name' lon' lat' : Option CStr) :
    (writeInfoIn file code name lon lat).1 = (writeInfoIn file code name' lon' lat').1 := by
  unfold writeInfoIn
  dsimp only
  cases searchCode code (file.length + 1) [] file <;> rfl

theorem addCode_lookup (c : CCivilCode) {code : CStr} (hlen : ¬ 8 < code.length) (name : CStr)
    (lon lat : Option CStr) (p : CStr) :
    (addCode c (some code) (some name) lon lat).2.m_oPlaceInfoMap.lookup p =
      if p = code then some (placeGiven {} (some name) lon lat)
      else c.m_oPlaceInfoMap.lookup p := by
  have hkept : ∀ s : Option CStr, keptCoordinate s [] = s.getD [] := fun s => by
    unfold keptCoordinate
    split
    · rfl
    · rename_i hempty
      exact (List.length_eq_zero_iff.mp (Nat.eq_zero_of_not_pos hempty)).symm
  have hgiven : placeGiven {} (some name) lon lat =
      { strName := trimRightSpace name
        strLongitude := lon.getD []
        strLatitude := lat.getD [] } := by
    unfold placeGiven
    rw [hkept, hkept]
    rfl
  rw [hgiven]
  simp only [addCode, if_neg hlen]
  exact Map.lookup_insert_ite _ code p _

theorem modifyStored_lookup (c : CCivilCode) (code : CStr) (name lon lat : Option CStr)
    (p : CStr) :
    (modifyStored c code name lon lat).1.m_oPlaceInfoMap.lookup p =
      if p = code then
        (c.m_oPlaceInfoMap.lookup code).map fun t =>
          { strName := name.getD []
            strLongitude := keptCoordinate lon t.strLongitude
            strLatitude := keptCoordinate lat t.strLatitude }
      else c.m_oPlaceInfoMap.lookup p := by
  unfold modifyStored
  cases hl : c.m_oPlaceInfoMap.lookup code with
  | none =>
    dsimp only
    by_cases hp : p = code
    · rw [if_pos hp, hp, hl]
      rfl
    · rw [if_neg hp]
  | some t => exact Map.lookup_insert_ite _ code p _

theorem modifyPlaceInfo_isSome (c : CCivilCode) (file : Option CStr) (code : CStr)
    (name lon lat : Option CStr) :
    (modifyPlaceInfo c file code name lon lat).isSome = file.isSome := by
  unfold modifyPlaceInfo writeInfo
  rw [Option.isSome_map, Option.isSome_map]

theorem modifyPlaceInfo_lookup {c c' : CCivilCode} {file : Option CStr} {code file' : CStr}
    {name lon lat : Option CStr}
    (h : modifyPlaceInfo c file code name lon lat = some (c', file')) {p : CStr}
    (hp : p.length = 8) :
    c'.m_oPlaceInfoMap.lookup p =
      if p = code then
        if name.isSome ∧ WritesCode file code then some (placeGiven {} name lon lat)
        else (c.m_oPlaceInfoMap.lookup code).map fun t =>
          { strName := name.getD []
            strLongitude := keptCoordinate lon t.strLongitude
            strLatitude := keptCoordinate lat t.strLatitude }
      else c.m_oPlaceInfoMap.lookup p := by
  obtain ⟨⟨nRet, file''⟩, hwrite, he⟩ := Option.map_eq_some_iff.mp h
  obtain ⟨bytes, rfl, hin⟩ := Option.map_eq_some_iff.mp hwrite
  have hret : WritesCode (some bytes) code ↔ nRet = 0 := by
    have hfst : (writeInfoIn bytes code none none none).1 = nRet :=
      (writeInfoIn_fst bytes code _ _ _ _ _ _).trans (congrArg Prod.fst hin)
    rw [WritesCode, writeInfo, Option.map_map, Option.map_some, Option.some.injEq]
    exact Eq.congr_left hfst
  have hc' := congrArg Prod.fst he
  dsimp only at hc'
  have hstored := modifyStored_lookup c code name lon lat p
  simp only [hret]
  cases name with
  | none =>
    have hsame : c' = (modifyStored c code none lon lat).1 := by
      rw [← hc']
      split <;> rfl
    rw [hsame, hstored]
    simp
  | some name =>
    by_cases hzero : nRet = 0
    · rw [if_pos hzero.symm] at hc'
      rw [← hc']
      simp only [Option.isSome_some, hzero, and_self, if_true]
      by_cases hlen : 8 < code.length
      · have hne : p ≠ code := by
          rintro rfl
          omega
        have hnot : addCode (modifyStored c code (some name) lon lat).1 (some code) (some name)
            lon lat = (-1, (modifyStored c code (some name) lon lat).1) := if_pos hlen
        rw [hnot, hstored, if_neg hne, if_neg hne]
      · rw [addCode_lookup _ hlen]
        by_cases hne : p = code
        · rw [if_pos hne, if_pos hne]
        · rw [if_neg hne, if_neg hne, hstored, if_neg hne]
    · rw [if_neg (Ne.symm hzero)] at hc'
      rw [← hc', hstored]
      simp only [hzero, and_false, if_false]

/-! ## One call -/

/-- The object with what was given for its divisions. -/
structure Places where
  c : CCivilCode := {}
  given : GivenPlaces := ∅

/-- A call, after which there is no object any more where it cannot open the file. -/
def placesStep (s : Option Places) (call : PlaceCall) : Option Places :=
  s.bind fun s => (placeCall s.c call).map fun c => { c := c, given := givenStep s.given call }

/-- Every division that was added is found, as it was given last. -/
def DivisionsFound (s : Option Places) : Prop :=
  ∃ s', s = some s' ∧ ∀ pszCode : CStr, pszCode.length ≤ 8 → ∀ t,
    s'.given.lookup (formatLength pszCode 0x30 8) = some t →
      getPlaceInfo s'.c (some pszCode) = some t

/-- The code is spelled out, or the place is stored under it as it is. -/
def StoresPlace (c : CCivilCode) (pszCode : CStr) (t : PlaceInfo) : Prop :=
  pszCode.length = 8 ∨ c.m_oPlaceInfoMap.lookup (formatLength pszCode 0x30 8) = some t

/-- A coordinate is left out only where none is stored. -/
def LeavesOutNothing (pszGiven : Option CStr) (strStored : CStr) : Prop :=
  0 < (pszGiven.getD []).length ∨ strStored = []

/-- When a call of `AddCode` fits what is stored. -/
def AddFits (c : CCivilCode) (pszCode pszPlaceName pszLongitude pszLatitude : Option CStr) : Prop :=
  ∀ code name, pszCode = some code → pszPlaceName = some name → ¬ 8 < code.length →
    StoresPlace c code (placeGiven {} (some name) pszLongitude pszLatitude)

/-- When a call of `ModifyPlaceInfo` fits what is stored: the code is spelled out; where `AddCode`
follows, it leaves out no coordinate that is stored, and where it does not, the name has no white
space behind it. -/
def ModifyFits (c : CCivilCode) (file : Option CStr) (pszCode : CStr)
    (pszPlaceName pszLongitude pszLatitude : Option CStr) : Prop :=
  let old := Map.index c.m_oPlaceInfoMap (formatLength pszCode 0x30 8) {}
  file.isSome ∧
    (ModifiesPlace c.m_oPlaceInfoMap file pszCode pszPlaceName →
      StoresPlace c pszCode (placeGiven old pszPlaceName pszLongitude pszLatitude) ∧
      (pszCode.length = 8 →
        if pszPlaceName.isSome ∧ WritesCode file pszCode then
          LeavesOutNothing pszLongitude old.strLongitude ∧
            LeavesOutNothing pszLatitude old.strLatitude
        else trimRightSpace (pszPlaceName.getD []) = pszPlaceName.getD []))

def PlaceCallFits (c : CCivilCode) : PlaceCall → Prop
  | .addCode code name lon lat => AddFits c code name lon lat
  | .addPlaceInfo code t =>
    AddFits c code (t.map (·.strName)) (t.map (·.strLongitude)) (t.map (·.strLatitude))
  | .modifyPlaceInfo file code name lon lat => ModifyFits c file code name lon lat

/-- A place is given for every code of 8 characters that is stored, and for no other. -/
structure GivenStored (s : Places) : Prop where
  stored : ∀ p, p.length = 8 → p ∈ s.c.m_oPlaceInfoMap → p ∈ s.given
  length : ∀ p ∈ s.given, p.length = 8

/-- What is stored for the divisions is what was given. -/
def SameAsGiven (s : Places) : Prop :=
  ∀ p t, s.given.lookup p = some t → s.c.m_oPlaceInfoMap.lookup p = some t

theorem divisionsFound_iff {s : Places} (h : GivenStored s) :
    DivisionsFound (some s) ↔ SameAsGiven s := by
  constructor
  · rintro ⟨s', he, hfound⟩ p t hp
    obtain rfl := Option.some.inj he
    have hlen := h.length p (Finmap.mem_iff.mpr ⟨t, hp⟩)
    have := hfound p hlen.le t (by rwa [formatLength_of_length hlen])
    rwa [getPlaceInfo, if_neg (by omega), formatLength_of_length hlen] at this
  · intro hsame
    refine ⟨s, rfl, fun pszCode hlen t ht => ?_⟩
    rw [getPlaceInfo, if_neg (by omega)]
    exact hsame _ t ht

theorem lookup_same {s : Places} (h : GivenStored s) (hsame : SameAsGiven s) {p : CStr}
    (hp : p.length = 8) : s.c.m_oPlaceInfoMap.lookup p = s.given.lookup p := by
  cases hg : s.given.lookup p with
  | some t => exact hsame p t hg
  | none =>
    refine Finmap.lookup_eq_none.mpr fun hmem => ?_
    exact Finmap.lookup_eq_none.mp hg (h.stored p hp hmem)

/-- **One place is given.**  What is stored is what was given exactly when it is for that one. -/
theorem sameAsGiven_insert_iff {s : Places} (h : GivenStored s) (hsame : SameAsGiven s)
    {c : CCivilCode} {q : CStr} {t : PlaceInfo}
    (hrest : ∀ p, p.length = 8 → p ≠ q →
      c.m_oPlaceInfoMap.lookup p = s.c.m_oPlaceInfoMap.lookup p) :
    SameAsGiven { c := c, given := s.given.insert q t } ↔
      c.m_oPlaceInfoMap.lookup q = some t := by
  constructor
  · intro hs
    exact hs q t (Finmap.lookup_insert _)
  · intro hq p t' ht'
    have ht' : (s.given.insert q t).lookup p = some t' := ht'
    rw [Map.lookup_insert_ite] at ht'
    by_cases hp : p = q
    · rw [if_pos hp] at ht'
      rw [hp, ← ht']
      exact hq
    · rw [if_neg hp] at ht'
      have hlen := h.length p (Finmap.mem_iff.mpr ⟨t', ht'⟩)
      exact (hrest p hlen hp).trans (hsame p t' ht')

theorem sameAsGiven_of_same {s : Places} (h : GivenStored s) (hsame : SameAsGiven s)
    {c : CCivilCode}
    (hrest : ∀ p, p.length = 8 → c.m_oPlaceInfoMap.lookup p = s.c.m_oPlaceInfoMap.lookup p) :
    SameAsGiven { c := c, given := s.given } := by
  intro p t ht
  exact (hrest p (h.length p (Finmap.mem_iff.mpr ⟨t, ht⟩))).trans (hsame p t ht)

theorem sameAsGiven_add_iff {s : Places} (h : GivenStored s) (hsame : SameAsGiven s)
    (code name lon lat : Option CStr) :
    SameAsGiven { c := (addCode s.c code name lon lat).2,
                  given := givenByAdd s.given code name lon lat } ↔
      AddFits s.c code name lon lat := by
  rcases addCode_cases s.c code name lon lat with ⟨code, name, rfl, rfl, hlen, -⟩ | hnone
  · have hlookup := addCode_lookup s.c hlen name lon lat
    have hgiven : givenByAdd s.given (some code) (some name) lon lat =
        s.given.insert (formatLength code 0x30 8) (placeGiven {} (some name) lon lat) :=
      if_neg hlen
    have hform := length_formatLength code 0x30 8
    -- a code that is spelled out is stored under itself
    have hspelled : formatLength code 0x30 8 = code ↔ code.length = 8 :=
      ⟨fun he => he ▸ hform, fun he => formatLength_of_length he _⟩
    rw [hgiven, sameAsGiven_insert_iff h hsame]
    · rw [hlookup]
      have hfits : AddFits s.c (some code) (some name) lon lat ↔
          StoresPlace s.c code (placeGiven {} (some name) lon lat) :=
        ⟨fun hf => hf code name rfl rfl hlen, fun hf _ _ hc hn _ => by
          obtain rfl := Option.some.inj hc
          obtain rfl := Option.some.inj hn
          exact hf⟩
      rw [hfits, StoresPlace, ← hspelled]
      by_cases he : formatLength code 0x30 8 = code
      · rw [if_pos he]
        exact iff_of_true rfl (Or.inl he)
      · rw [if_neg he]
        exact (or_iff_right he).symm
    · intro p hp hne
      refine (hlookup p).trans (if_neg ?_)
      rintro rfl
      exact hne (formatLength_of_length hp _).symm
  · have hgiven : givenByAdd s.given code name lon lat = s.given ∧
        AddFits s.c code name lon lat := by
      cases code with
      | none => exact ⟨rfl, fun _ _ hc => nomatch hc⟩
      | some code =>
        cases name with
        | none => exact ⟨rfl, fun _ _ _ hn => nomatch hn⟩
        | some name =>
          have hlen : 8 < code.length := by
            by_contra hlen
            have := congrArg Prod.fst hnone
            simp only [addCode, if_neg hlen] at this
            exact absurd this (by decide)
          refine ⟨if_pos hlen, fun code' _ hc _ hnot => absurd ?_ hnot⟩
          rwa [← Option.some.inj hc]
    rw [hnone, hgiven.1]
    exact iff_of_true (sameAsGiven_of_same h hsame fun _ _ => rfl) hgiven.2

theorem keptCoordinate_eq_iff (pszGiven : Option CStr) (strStored : CStr) :
    keptCoordinate pszGiven [] = keptCoordinate pszGiven strStored ↔
      LeavesOutNothing pszGiven strStored := by
  unfold keptCoordinate LeavesOutNothing
  by_cases hgiven : 0 < (pszGiven.getD []).length
  · rw [if_pos hgiven, if_pos hgiven]
    exact iff_of_true rfl (Or.inl hgiven)
  · rw [if_neg hgiven, if_neg hgiven, or_iff_right hgiven]
    exact eq_comm

theorem modified_eq_iff {c : CCivilCode} {file : Option CStr} {code : CStr}
    {name lon lat : Option CStr} (hlen : code.length = 8)
    (hmodifies : ModifiesPlace c.m_oPlaceInfoMap file code name) :
    (if name.isSome ∧ WritesCode file code then some (placeGiven {} name lon lat)
      else (c.m_oPlaceInfoMap.lookup code).map fun t =>
        { strName := name.getD []
          strLongitude := keptCoordinate lon t.strLongitude
          strLatitude := keptCoordinate lat t.strLatitude }) =
        some (placeGiven (Map.index c.m_oPlaceInfoMap code {}) name lon lat) ↔
      if name.isSome ∧ WritesCode file code then
        LeavesOutNothing lon (Map.index c.m_oPlaceInfoMap code {}).strLongitude ∧
          LeavesOutNothing lat (Map.index c.m_oPlaceInfoMap code {}).strLatitude
      else trimRightSpace (name.getD []) = name.getD [] := by
  by_cases hadds : name.isSome ∧ WritesCode file code
  · rw [if_pos hadds, if_pos hadds, Option.some.injEq, placeGiven, placeGiven,
      PlaceInfo.mk.injEq, and_iff_right rfl, keptCoordinate_eq_iff, keptCoordinate_eq_iff]
  · have hmem : code ∈ c.m_oPlaceInfoMap := by
      have := hmodifies.2.resolve_right hadds
      rwa [formatLength_of_length hlen] at this
    obtain ⟨t, ht⟩ := Finmap.mem_iff.mp hmem
    rw [if_neg hadds, if_neg hadds, Map.index_of_lookup ht, ht, Option.map_some,
      Option.some.injEq, placeGiven, PlaceInfo.mk.injEq, and_iff_left ⟨rfl, rfl⟩]
    exact eq_comm

theorem sameAsGiven_modify_iff {s : Places} (h : GivenStored s) (hsame : SameAsGiven s)
    {file : Option CStr} {code file' : CStr} {name lon lat : Option CStr} {c : CCivilCode}
    (hmodify : modifyPlaceInfo s.c file code name lon lat = some (c, file')) :
    SameAsGiven { c := c, given := givenByModify s.given file code name lon lat } ↔
      ModifyFits s.c file code name lon lat := by
  have hlookup := fun (p : CStr) (hp : p.length = 8) => modifyPlaceInfo_lookup hmodify hp
  have hfile : file.isSome := by
    rw [← modifyPlaceInfo_isSome s.c file code name lon lat, hmodify]
    rfl
  have hform := length_formatLength code 0x30 8
  have heq := lookup_same h hsame hform
  have hmem : formatLength code 0x30 8 ∈ s.given ↔
      formatLength code 0x30 8 ∈ s.c.m_oPlaceInfoMap := by
    rw [Finmap.mem_iff, Finmap.mem_iff, heq]
  have hindex : Map.index s.given (formatLength code 0x30 8) {} =
      Map.index s.c.m_oPlaceInfoMap (formatLength code 0x30 8) {} := by
    rw [Map.index, Map.index, heq]
  have hmodifies : ModifiesPlace s.given file code name ↔
      ModifiesPlace s.c.m_oPlaceInfoMap file code name := by
    rw [ModifiesPlace, ModifiesPlace, hmem]
  -- away from the code nothing is changed
  have hrest : ∀ p, p.length = 8 → p ≠ code →
      c.m_oPlaceInfoMap.lookup p = s.c.m_oPlaceInfoMap.lookup p := fun p hp hne =>
    (hlookup p hp).trans (if_neg hne)
  unfold ModifyFits givenByModify
  rw [and_iff_right hfile]
  dsimp only
  by_cases hm : ModifiesPlace s.given file code name
  · rw [if_pos hm, hindex, sameAsGiven_insert_iff h hsame]
    · have hm' := hmodifies.mp hm
      rw [imp_iff_right hm', StoresPlace]
      by_cases hlen : code.length = 8
      · rw [imp_iff_right hlen, and_iff_right (Or.inl hlen)]
        have hcode := formatLength_of_length hlen 0x30
        rw [hcode, hlookup code hlen, if_pos rfl]
        exact modified_eq_iff hlen hm'
      · have hne : formatLength code 0x30 8 ≠ code := fun he => hlen (he ▸ hform)
        rw [or_iff_right hlen, and_iff_left (fun he => absurd he hlen), hrest _ hform hne]
    · intro p hp hne
      refine hrest p hp ?_
      rintro rfl
      exact hne (formatLength_of_length hp _).symm
  · rw [if_neg hm]
    refine iff_of_true (sameAsGiven_of_same h hsame fun p hp => ?_)
      fun hm' => absurd (hmodifies.mpr hm') hm
    by_cases hne : p = code
    · subst hne
      have hcode := formatLength_of_length hp 0x30
      rw [ModifiesPlace, hcode, not_and_or] at hm
      have hnot := not_or.mp (hm.resolve_left (fun hlong => hlong (by omega)))
      have hnone : s.c.m_oPlaceInfoMap.lookup p = none := by
        refine Finmap.lookup_eq_none.mpr fun hp' => hnot.1 ?_
        rw [hcode] at hmem
        exact hmem.mpr hp'
      rw [hlookup p hp, if_pos rfl, if_neg hnot.2, hnone]
      rfl
    · exact hrest p hp hne

/-! ## Runs -/

theorem givenStep_cases (g : GivenPlaces) (call : PlaceCall) :
    givenStep g call = g ∨ ∃ code t, givenStep g call = g.insert (formatLength code 0x30 8) t := by
  have hadd : ∀ code name lon lat : Option CStr, givenByAdd g code name lon lat = g ∨
      ∃ code' t, givenByAdd g code name lon lat = g.insert (formatLength code' 0x30 8) t := by
    intro code name lon lat
    unfold givenByAdd
    split
    · split
      · exact Or.inl rfl
      · exact Or.inr ⟨_, _, rfl⟩
    · exact Or.inl rfl
  cases call with
  | addCode code name lon lat => exact hadd code name lon lat
  | addPlaceInfo code t =>
    exact hadd code (t.map (·.strName)) (t.map (·.strLongitude)) (t.map (·.strLatitude))
  | modifyPlaceInfo file code name lon lat =>
    unfold givenStep givenByModify
    dsimp only
    split
    · exact Or.inr ⟨code, _, rfl⟩
    · exact Or.inl rfl

theorem mem_givenStep {g : GivenPlaces} {p : CStr} (h : p ∈ g) (call : PlaceCall) :
    p ∈ givenStep g call := by
  rcases givenStep_cases g call with he | ⟨code, t, he⟩ <;> rw [he]
  · exact h
  · exact Finmap.mem_insert.mpr (Or.inr h)

theorem length_givenStep {g : GivenPlaces} (h : ∀ p ∈ g, p.length = 8) (call : PlaceCall) :
    ∀ p ∈ givenStep g call, p.length = 8 := by
  intro p hp
  rcases givenStep_cases g call with he | ⟨code, t, he⟩ <;> rw [he] at hp
  · exact h p hp
  · rcases Finmap.mem_insert.mp hp with rfl | hp
    · exact length_formatLength code 0x30 8
    · exact h p hp

/-- `AddCode` stores nothing under a code of 8 characters that it does not give. -/
theorem mem_of_addCode {c : CCivilCode} {g : GivenPlaces} {code name lon lat : Option CStr}
    {p : CStr} (hp : p.length = 8) (hmem : p ∈ (addCode c code name lon lat).2.m_oPlaceInfoMap) :
    p ∈ c.m_oPlaceInfoMap ∨ p ∈ givenByAdd g code name lon lat := by
  rcases addCode_cases c code name lon lat with ⟨code, name, rfl, rfl, hlen, -⟩ | hnone
  · obtain ⟨t, ht⟩ := Finmap.mem_iff.mp hmem
    rw [addCode_lookup c hlen] at ht
    by_cases hcode : p = code
    · refine Or.inr ?_
      rw [givenByAdd, if_neg hlen, ← hcode, formatLength_of_length hp]
      exact Finmap.mem_insert.mpr (Or.inl rfl)
    · rw [if_neg hcode] at ht
      exact Or.inl (Finmap.mem_iff.mpr ⟨t, ht⟩)
  · rw [hnone] at hmem
    exact Or.inl hmem

theorem placesStep_givenStored {s s' : Places} (h : GivenStored s) (call : PlaceCall)
    (hstep : placesStep (some s) call = some s') : GivenStored s' := by
  obtain ⟨c, hcall, rfl⟩ := Option.map_eq_some_iff.mp hstep
  refine ⟨fun p hp hmem => ?_, length_givenStep h.length call⟩
  have hold : p ∈ s.c.m_oPlaceInfoMap → p ∈ givenStep s.given call := fun hmem =>
    mem_givenStep (h.stored p hp hmem) call
  cases call with
  | addCode code name lon lat =>
    obtain rfl := Option.some.inj hcall
    exact (mem_of_addCode hp hmem).elim hold id
  | addPlaceInfo code t =>
    obtain rfl := Option.some.inj hcall
    cases t with
    | none => exact hold hmem
    | some t => exact (mem_of_addCode hp hmem).elim hold id
  | modifyPlaceInfo file code name lon lat =>
    obtain ⟨⟨c', file'⟩, hmodify, rfl⟩ := Option.map_eq_some_iff.mp hcall
    obtain ⟨t, ht⟩ := Finmap.mem_iff.mp hmem
    have ht : c'.m_oPlaceInfoMap.lookup p = some t := ht
    rw [modifyPlaceInfo_lookup hmodify hp] at ht
    by_cases hcode : p = code
    · subst hcode
      by_cases hadds : name.isSome ∧ WritesCode file p
      · have hmodifies : ModifiesPlace s.given file p name := ⟨by omega, Or.inr hadds⟩
        have hgiven : givenByModify s.given file p name lon lat = _ := if_pos hmodifies
        show p ∈ givenByModify s.given file p name lon lat
        rw [hgiven, formatLength_of_length hp]
        exact Finmap.mem_insert.mpr (Or.inl rfl)
      · rw [if_pos rfl, if_neg hadds] at ht
        obtain ⟨t', ht', -⟩ := Option.map_eq_some_iff.mp ht
        exact hold (Finmap.mem_iff.mpr ⟨t', ht'⟩)
    · rw [if_neg hcode] at ht
      exact hold (Finmap.mem_iff.mpr ⟨t, ht⟩)

/-- **One call** leaves every division to be found as it was given exactly when it fits. -/
theorem found_iff {s : Places} (h : GivenStored s) (hfound : DivisionsFound (some s))
    (call : PlaceCall) :
    DivisionsFound (placesStep (some s) call) ↔ PlaceCallFits s.c call := by
  have hsame := (divisionsFound_iff h).mp hfound
  -- what a call that returns leaves
  have hreturns : ∀ c, placeCall s.c call = some c →
      (DivisionsFound (placesStep (some s) call) ↔
        SameAsGiven { c := c, given := givenStep s.given call }) := by
    intro c hcall
    have hstep : placesStep (some s) call =
        some { c := c, given := givenStep s.given call } := by
      rw [placesStep, Option.bind_some, hcall, Option.map_some]
    rw [hstep, divisionsFound_iff (placesStep_givenStored h call hstep)]
  cases call with
  | addCode code name lon lat =>
    rw [hreturns _ rfl]
    exact sameAsGiven_add_iff h hsame code name lon lat
  | addPlaceInfo code t =>
    rw [hreturns _ rfl]
    have hadd : (addPlaceInfo s.c code t).2 = (addCode s.c code (t.map (·.strName))
        (t.map (·.strLongitude)) (t.map (·.strLatitude))).2 := by
      cases t with
      | none => cases code <;> rfl
      | some t => rfl
    rw [hadd]
    exact sameAsGiven_add_iff h hsame code _ _ _
  | modifyPlaceInfo file code name lon lat =>
    cases hmodify : modifyPlaceInfo s.c file code name lon lat with
    | some r =>
      obtain ⟨c, file'⟩ := r
      rw [hreturns c (by rw [placeCall, hmodify]; rfl)]
      exact sameAsGiven_modify_iff h hsame hmodify
    | none =>
      refine iff_of_false ?_ fun hfits => ?_
      · have hstep : placesStep (some s) (.modifyPlaceInfo file code name lon lat) = none := by
          rw [placesStep, Option.bind_some, placeCall, hmodify]
          rfl
        rw [hstep]
        rintro ⟨s', he, -⟩
        cases he
      · have := modifyPlaceInfo_isSome s.c file code name lon lat
        rw [hmodify, hfits.1] at this
        cases this

/-- The state a call meets is one with an object, in which the call fits. -/
def StepFits (s : Option Places) (call : PlaceCall) : Prop :=
  ∃ s', s = some s' ∧ PlaceCallFits s'.c call

/-- **Every sequence of calls.**  Every division that was added is found as it was given last, after
every call of the sequence, exactly when every call fits what the calls before it stored. -/
theorem getPlaceInfo_last_iff (is : List PlaceCall) :
    (∀ p ∈ calls placesStep (some {}) is, DivisionsFound (placesStep p.1 p.2)) ↔
      ∀ p ∈ calls placesStep (some {}) is, StepFits p.1 p.2 := by
  -- what is stored and what is given are together in every state of the run
  let Kept := fun s : Option Places => ∀ s', s = some s' → GivenStored s'
  have hkeep : ∀ s call, Kept s → Kept (placesStep s call) := by
    intro s call hs s' hstep
    cases s with
    | none => cases hstep
    | some s => exact placesStep_givenStored (hs s rfl) call hstep
  have hempty : GivenStored {} :=
    ⟨fun p _ hp => absurd hp Finmap.notMem_empty, fun p hp => absurd hp Finmap.notMem_empty⟩
  have hinit : Kept (some {}) ∧ DivisionsFound (some {}) := by
    refine ⟨fun s' he => Option.some.inj he ▸ hempty, ?_⟩
    refine (divisionsFound_iff hempty).mpr fun p t ht => ?_
    have hmem : p ∈ (∅ : GivenPlaces) := Finmap.mem_iff.mpr ⟨t, ht⟩
    exact absurd hmem Finmap.notMem_empty
  have hexact : ∀ s call, Kept s ∧ DivisionsFound s →
      (((Kept (placesStep s call) ∧ DivisionsFound (placesStep s call)) ∧ True) ↔
        StepFits s call) := by
    rintro s call ⟨hkept, hfound⟩
    obtain ⟨s', rfl, -⟩ := id hfound
    rw [and_true, and_iff_right (hkeep _ call hkept), found_iff (hkept s' rfl) hfound call]
    exact ⟨fun hf => ⟨s', rfl, hf⟩, fun ⟨_, he, hf⟩ => Option.some.inj he ▸ hf⟩
  rw [← forall_calls_iff hexact hinit]
  refine forall₂_congr fun p hp => ?_
  obtain ⟨pre, -, -, hpre⟩ := mem_calls_iff.mp hp
  have hkept : Kept (placesStep p.1 p.2) := by
    rw [hpre]
    exact hkeep _ _ (run_induct hkeep hinit.1 pre)
  rw [and_true, and_iff_right hkept]

/-- A province added under its two digits is not found. -/
theorem getPlaceInfo_misses_province :
    ¬ ∀ is : List PlaceCall,
      ∀ p ∈ calls placesStep (some {}) is, DivisionsFound (placesStep p.1 p.2) := by
  intro h
  have hfound := h [.addCode (some (str "11")) (some (str "AB")) none none] _ List.mem_cons_self
  obtain ⟨s', hs', hget⟩ := hfound
  obtain rfl := Option.some.inj hs'
  exact absurd (hget (str "11") (by decide) { strName := str "AB" } (by decide)) (by decide)

end GB28181.Platform
