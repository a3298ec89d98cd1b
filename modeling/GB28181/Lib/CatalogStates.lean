import GB28181.Base.Decimal
import GB28181.Base.Marks
import GB28181.Lib.CDataStream
import GB28181.Lib.ExtractXML

/-!
# States of catalogue items (`GB28181.Lib/UACTCP.cpp`)

`OnDeviceCatalogInquiryRes` and `OnCatalogNotify` go over the items of a catalogue.  The values of
an item are looked for from its mark on, without an end, and the cursor moves four characters
behind the mark.

* `getStringBetween_textOf` — a search finds the value of the first element of the name;
* `itemLoop_run` — so an item is reported with the first state from it on, its own or a later one's;
* `right_iff` — which is right exactly when what is read fits the arrays and the reports are those
  of the items with a state;
* `states_iff` — **exactly when the states stand in order**: for a response at the first items, for
  a notification at all of them, as many as `SumNum` says at most.
-/

set_option autoImplicit false

namespace GB28181.Lib.CatalogStates

open GB28181.Base GB28181.Base.Marks GB28181.Lib.ExternalInterface

/-! ## The handlers -/

def MAX_PATH : Nat := 260

def AC_DEVICE_STATUS_ONLINE : Int := 1

def AC_DEVICE_STATUS_OFFLINE : Int := 2

inductive Handler where
  | response
  | notify
deriving DecidableEq

/-- The element that says the state of an item. -/
def Handler.element : Handler → CStr
  | .response => str "Status"
  | .notify => str "Event"

/-- `opening name` and `closing name` are the marks of an element. -/
def opening (name : CStr) : CStr := 0x3c :: (name ++ [0x3e])

def closing (name : CStr) : CStr := 0x3c :: (0x2f :: name ++ [0x3e])

/-- A call of `m_fpDeviceStaustAlarm` of the type `AT_DEVICE_STATUS`. -/
structure StatusCall where
  strDeviceID : List WChar
  nContent : Int
deriving DecidableEq

structure State where
  m_strCatalogInfoListXml : CStr
  m_listDowmPLDDevices : List CStr
  calls : List StatusCall

/-- The content the callback is handed, where it is called; the text is in lower case. -/
def Handler.content : Handler → CStr → Option Int
  | .response, stringEvent =>
    if stringEvent = str "off" then some AC_DEVICE_STATUS_OFFLINE
    else if stringEvent = str "on" then some AC_DEVICE_STATUS_ONLINE
    else none
  | .notify, stringEvent =>
    if stringEvent = str "off" then some AC_DEVICE_STATUS_OFFLINE
    else some AC_DEVICE_STATUS_ONLINE

/-- The response keeps a list of the devices it has seen with a state. -/
def Handler.remember (h : Handler) (deviceID stringEvent : CStr) (s : State) : State :=
  match h with
  | .response =>
    if !s.m_listDowmPLDDevices.contains deviceID && !stringEvent.isEmpty then
      { s with m_listDowmPLDDevices := s.m_listDowmPLDDevices ++ [deviceID] }
    else s
  | .notify => s

/-- What is read of an item: its ID and its state. -/
def Handler.call (h : Handler) (cp : CodePage) (item : CStr × CStr) : Option StatusCall :=
  (h.content (item.2.map toLower)).map fun nContent => ⟨cp.ansiToUnicode item.1, nContent⟩

def Handler.report (h : Handler) (cp : CodePage) (deviceID stringEvent : CStr) (s : State) :
    State :=
  let s := h.remember deviceID (stringEvent.map toLower) s
  { s with calls := s.calls ++ (h.call cp (deviceID, stringEvent)).toList }

/-- `WideCharToMultiByte` of a text, as a `std::string`. -/
def narrow (cp : CodePage) (text : List WChar) : CStr := cStr (cp.wideCharToMultiByte text)

/-- `_ttoi`; a character that is not ASCII ends the number. -/
def ttoi (text : List WChar) : Int :=
  atoi (text.map fun c => if c < 0x80 then c.toUInt8 else 0x80)

/-- An array of `MAX_PATH` characters on the stack. -/
def fresh (junk : Nat → WChar) : List WChar := (List.range MAX_PATH).map junk

/-- The text in an array after `ExtractXML`. -/
def readArray (e : Extracted) (array : List WChar) : Except StreamFault (List WChar) :=
  if ∃ copy ∈ e.copies, array.length < copy.length then .error .writePastBuffer
  else if 0 ∈ stored e.copies array then .ok ((stored e.copies array).takeWhile (· ≠ 0))
  else .error .readPastBuffer

/-- `pCurPos += nOffset`. -/
def advance (pCurPos : CStr) (nOffset : Int) : Except StreamFault CStr :=
  if 0 ≤ nOffset ∧ nOffset ≤ pCurPos.length then .ok (pCurPos.drop nOffset.toNat)
  else .error .readPastBuffer

section

variable (h : Handler) (cp : CodePage) (junk : Nat → Nat → WChar)

/-- The loop over the items, with the turns that are left and those that are done. -/
def itemLoop : Nat → Nat → CStr → State → Except StreamFault State
  | 0, _, _, s => .ok s
  | n + 1, nCurCnt, pCurPos, s => do
    let e := extractXML cp pCurPos (opening (str "Item")) (opening (str "DeviceID"))
      (closing (str "DeviceID")) MAX_PATH
    let strDeviceID ← readArray e (fresh (junk (2 * nCurCnt + 1)))
    let deviceID := narrow cp strDeviceID
    if deviceID = [] then .ok s
    else
      let e := extractXML cp pCurPos (opening (str "Item")) (opening h.element)
        (closing h.element) MAX_PATH
      let pCurPos ← advance pCurPos e.ret
      let strEvent ← readArray e (fresh (junk (2 * nCurCnt + 2)))
      itemLoop n (nCurCnt + 1) pCurPos (h.report cp deviceID (narrow cp strEvent) s)

/-- What both handlers do with the text of a frame. -/
def handle (strExterndData : CStr) (s : State) : Except StreamFault State := do
  let e := extractXML cp strExterndData (str "Catalog") (opening (str "SumNum"))
    (closing (str "SumNum")) MAX_PATH
  let pCurPos ← advance strExterndData e.ret
  let strSumNum ← readArray e (fresh (junk 0))
  itemLoop h cp junk (ttoi strSumNum).toNat 0 pCurPos s

end

/-- `OnDeviceCatalogInquiryRes`, from the text of the frame on. -/
def onDeviceCatalogInquiryRes (cp : CodePage) (junk : Nat → Nat → WChar) (strExterndData : CStr)
    (s : State) : Except StreamFault State :=
  handle .response cp junk strExterndData
    { s with m_strCatalogInfoListXml := s.m_strCatalogInfoListXml ++ strExterndData }

/-- `OnCatalogNotify`, from the text of the frame on. -/
def onCatalogNotify (cp : CodePage) (junk : Nat → Nat → WChar) (strExterndData : CStr)
    (s : State) : Except StreamFault State :=
  handle .notify cp junk strExterndData s

def Handler.run : Handler → CodePage → (Nat → Nat → WChar) → CStr → State →
    Except StreamFault State
  | .response => onDeviceCatalogInquiryRes
  | .notify => onCatalogNotify

/-! ## Searches -/

/-- The marks of the element stand in the part only where it is one, and its value has no
bracket. -/
def Searchable (name : CStr) (p : Part) : Prop :=
  match p.value? name with
  | some value => 0x3c ∉ value
  | none => p.Passes (name ++ [0x3e]) ∧ p.Passes (0x2f :: name ++ [0x3e])

theorem searchable_piece {name s : CStr} (hs : 0x3c ∉ s) (hopening : ¬ name ++ [0x3e] <+: s)
    (hclosing : ¬ 0x2f :: name ++ [0x3e] <+: s) : Searchable name (.piece s) :=
  ⟨fun _ h => List.mem_singleton.mp h ▸ ⟨hs, hopening⟩,
    fun _ h => List.mem_singleton.mp h ▸ ⟨hs, hclosing⟩⟩

theorem searchable_element {name n value gap : CStr} (hname : IsName name) (hn : IsName n)
    (hvalue : 0x3c ∉ value) (hgap : 0x3c ∉ gap) : Searchable name (.element n value gap) := by
  by_cases heq : n = name
  · have hfound : (Part.element n value gap).value? name = some value := if_pos heq
    rw [Searchable, hfound]
    exact hvalue
  · have hnone : (Part.element n value gap).value? name = none := if_neg heq
    rw [Searchable, hnone]
    exact passes_element hname hn hvalue hgap heq

theorem getStringBetween_element {name value gap pre : CStr} {l r : List Part}
    (hname : IsName name) (hpre : 0x3c ∉ pre) (hvalue : 0x3c ∉ value)
    (hl : ∀ p ∈ l, p.Passes (name ++ [0x3e]) ∧ p.Passes (0x2f :: name ++ [0x3e])) :
    getStringBetween (pre ++ textOf (l ++ .element name value gap :: r)) (opening name)
      (closing name) false = value := by
  have hfront := breakOn_opening hname (fun p hp => (hl p hp).1) value gap r
  have hback := breakOn_closing hname hvalue (fun p hp => (hl p hp).2) gap r
  have htext : pre ++ textOf (l ++ .element name value gap :: r) =
      (pre ++ textOf l ++ opening name) ++
        (value ++ (joined [0x2f :: name ++ [0x3e] ++ gap] ++ textOf r)) := by
    rw [breakOn_eq_some hfront]
    simp [opening]
  have hposL : find (pre ++ textOf (l ++ .element name value gap :: r)) (opening name) =
      some (pre ++ textOf l).length := by
    rw [find, opening, breakOn_skip hpre, hfront]
    rfl
  have hposR : find (pre ++ textOf (l ++ .element name value gap :: r)) (closing name) =
      some ((pre ++ textOf l).length + (name.length + 2 + value.length)) := by
    rw [find, closing, breakOn_skip hpre, hback]
    simp [joined_cons]
    omega
  have hlenL : (opening name).length = name.length + 2 := by simp [opening]
  have hlenR : (closing name).length = name.length + 3 := by simp [closing]
  rw [getStringBetween, hposL, hposR]
  dsimp only
  rw [if_neg (by omega), if_pos rfl, hlenL, hlenR, substr, if_neg (by omega), htext,
    show (pre ++ textOf l).length + (name.length + 2) =
      (pre ++ textOf l ++ opening name).length by simp only [List.length_append, hlenL],
    List.drop_left, List.take_left' (by omega)]

/-- **A search finds the value of the first element of the name**, or nothing. -/
theorem getStringBetween_textOf {name pre : CStr} {parts : List Part} (hname : IsName name)
    (hpre : 0x3c ∉ pre) (hparts : ∀ p ∈ parts, Searchable name p) :
    getStringBetween (pre ++ textOf parts) (opening name) (closing name) false =
      (parts.findSome? (Part.value? name)).getD [] := by
  have hpasses : ∀ p ∈ parts, p.value? name = none →
      p.Passes (name ++ [0x3e]) ∧ p.Passes (0x2f :: name ++ [0x3e]) := by
    intro p hp hnone
    have hsearch := hparts p hp
    rwa [Searchable, hnone] at hsearch
  cases hfound : parts.findSome? (Part.value? name) with
  | none =>
    have hnone := List.findSome?_eq_none_iff.mp hfound
    have hfind : find (pre ++ textOf parts) (opening name) = none := by
      rw [find, opening, breakOn_skip hpre,
        breakOn_eq_none (by simp [hname.1]) fun p hp => (hpasses p hp (hnone p hp)).1]
      rfl
    rw [getStringBetween, hfind]
    rfl
  | some value =>
    obtain ⟨l, p, r, rfl, hvalue, hl⟩ := List.findSome?_eq_some_iff.mp hfound
    have hsearch := hparts p (by simp)
    rw [Searchable, hvalue] at hsearch
    cases p with
    | piece s => cases hvalue
    | element n v gap =>
      obtain ⟨rfl, rfl⟩ : n = name ∧ v = value := by
        simpa [Part.value?] using hvalue
      exact getStringBetween_element hname hpre hsearch fun p hp =>
        hpasses p (List.mem_append_left _ hp) (hl p hp)

theorem getStringBetween_parts {name : CStr} {parts : List Part} (hname : IsName name)
    (hparts : ∀ p ∈ parts, Searchable name p) :
    getStringBetween (textOf parts) (opening name) (closing name) false =
      (parts.findSome? (Part.value? name)).getD [] :=
  getStringBetween_textOf hname (List.not_mem_nil : 0x3c ∉ ([] : CStr)) hparts

/-! ## Arrays -/

/-- The text of a value after it was put into an array and read back needs no more characters than
the array has, whatever was there before. -/
def Short (cp : CodePage) (value : CStr) : Prop :=
  let size := (cp.ansiToUnicode value).length
  (MAX_PATH < (cStr value).length ∧ size + 1 ≤ MAX_PATH) ∨
    ((cStr value).length ≤ MAX_PATH ∧ size + 2 ≤ MAX_PATH)

instance (cp : CodePage) (value : CStr) : Decidable (Short cp value) :=
  inferInstanceAs (Decidable (_ ∨ _))

/-- The copies of a value, of which an empty one needs none. -/
def valueCopies (cp : CodePage) (value : CStr) : List (List WChar) :=
  if value = [] then [[0]] else copyValue cp value MAX_PATH

section

variable {cp : CodePage} {value : CStr}

theorem length_fresh (junk : Nat → WChar) : (fresh junk).length = MAX_PATH := by
  rw [fresh, List.length_map, List.length_range]

theorem zero_not_mem_wide : 0 ∉ cp.ansiToUnicode value := by
  intro h
  rw [CodePage.ansiToUnicode] at h
  have hne := List.mem_takeWhile_imp h
  simp at hne

theorem short_nil : Short cp [] := by
  refine Or.inr ⟨Nat.zero_le _, ?_⟩
  rw [ansiToUnicode_nil]
  decide

theorem readArray_short (hshort : Short cp value) (ret : Int) (junk : Nat → WChar) :
    readArray ⟨ret, valueCopies cp value⟩ (fresh junk) = .ok (cp.ansiToUnicode value) := by
  have hfresh := length_fresh junk
  have hok : ∀ (copies : List (List WChar)) (rest : List WChar),
      (∀ copy ∈ copies, copy.length ≤ MAX_PATH) →
      stored copies (fresh junk) = cp.ansiToUnicode value ++ 0 :: rest →
      readArray ⟨ret, copies⟩ (fresh junk) = .ok (cp.ansiToUnicode value) := by
    intro copies rest hcopies hstored
    have hwritten : ¬ ∃ copy ∈ copies, (fresh junk).length < copy.length := by
      rintro ⟨copy, hcopy, hlt⟩
      have hle := hcopies copy hcopy
      omega
    rw [readArray, if_neg hwritten, hstored, if_pos (by simp), takeWhile_ne_append_cons zero_not_mem_wide]
  by_cases hempty : value = []
  · rw [valueCopies, if_pos hempty]
    apply hok _ ((fresh junk).drop 1)
    · simp [MAX_PATH]
    · rw [hempty, ansiToUnicode_nil]
      rfl
  · rw [valueCopies, if_neg hempty, copyValue]
    rcases hshort with ⟨hlong, hsize⟩ | ⟨hlen, hsize⟩
    · rw [if_pos hlong]
      apply hok _ ((0 :: (fresh junk).drop 1).drop (cp.ansiToUnicode value ++ [0]).length)
      · simpa [MAX_PATH] using hsize
      · rw [stored_two]
        simp
    · rw [if_neg (by omega)]
      obtain ⟨k, hk⟩ : ∃ k, MAX_PATH - 1 - (cp.ansiToUnicode value).length = k + 1 :=
        ⟨MAX_PATH - 1 - (cp.ansiToUnicode value).length - 1, by omega⟩
      apply hok _ (List.replicate k 0 ++ (0 :: (fresh junk).drop 1).drop (MAX_PATH - 1))
      · intro copy hcopy
        rcases List.mem_cons.mp hcopy with rfl | hcopy
        · decide
        · rw [List.mem_singleton.mp hcopy, length_tcsncpy]
          decide
      · rw [stored_two, length_tcsncpy, tcsncpy, List.take_of_length_le (by omega), hk,
          List.replicate_succ, List.append_assoc, List.cons_append]

/-- A value that is not short is not read back out of an array without a zero in it. -/
theorem readArray_long (hlong : ¬ Short cp value) (ret : Int) :
    ∃ fault, readArray ⟨ret, valueCopies cp value⟩ (fresh fun _ => 1) = .error fault := by
  have hempty : value ≠ [] := by
    rintro rfl
    exact hlong short_nil
  have hfresh := length_fresh fun _ => 1
  rw [valueCopies, if_neg hempty, copyValue]
  by_cases hlen : MAX_PATH < (cStr value).length
  · have hsize : MAX_PATH < (cp.ansiToUnicode value ++ [0]).length := by
      rw [List.length_append, List.length_singleton]
      by_contra hle
      exact hlong (Or.inl ⟨hlen, by omega⟩)
    refine ⟨.writePastBuffer, ?_⟩
    rw [if_pos hlen, readArray,
      if_pos ⟨cp.ansiToUnicode value ++ [0], by simp, by omega⟩]
  · have hsize : MAX_PATH - 1 ≤ (cp.ansiToUnicode value).length := by
      by_contra hlt
      exact hlong (Or.inr ⟨by omega, by omega⟩)
    have hcopy : tcsncpy (cp.ansiToUnicode value) (MAX_PATH - 1) =
        (cp.ansiToUnicode value).take (MAX_PATH - 1) := by
      rw [tcsncpy, Nat.sub_eq_zero_of_le hsize, List.replicate_zero, List.append_nil]
    have hrest : (0 :: (fresh fun _ => 1).drop 1).drop (MAX_PATH - 1) = [1] := by decide
    refine ⟨.readPastBuffer, ?_⟩
    rw [if_neg hlen, readArray, if_neg, if_neg]
    · rw [stored_two, length_tcsncpy, hrest, hcopy, List.mem_append, not_or]
      exact ⟨fun h => zero_not_mem_wide (List.mem_of_mem_take h), by decide⟩
    · rintro ⟨copy, hmem, hlt⟩
      rcases List.mem_cons.mp hmem with rfl | hmem
      · exact absurd hlt (by rw [hfresh]; decide)
      · rw [List.mem_singleton.mp hmem, length_tcsncpy, hfresh] at hlt
        omega

end

/-! ## Catalogue texts -/

/-- A part of an item: an ID, a state, or a piece that begins with none of the marks. -/
def IsItemPart (h : Handler) : Part → Prop
  | .piece s => 0x3c ∉ s ∧ ¬ str "Item>" <+: s ∧ ∀ name ∈ [str "DeviceID", h.element],
    ¬ name ++ [0x3e] <+: s ∧ ¬ 0x2f :: name ++ [0x3e] <+: s
  | .element name value gap => name ∈ [str "DeviceID", h.element] ∧ 0x3c ∉ value ∧ 0x3c ∉ gap

instance (h : Handler) : (p : Part) → Decidable (IsItemPart h p)
  | .piece _ => inferInstanceAs (Decidable (_ ∧ _ ∧ ∀ name ∈ [str "DeviceID", h.element], _))
  | .element _ _ _ => inferInstanceAs (Decidable (_ ∧ _ ∧ _))

/-- An item with one ID, which is not empty, and at most one state, both texts of the code page. -/
structure Item (cp : CodePage) (h : Handler) where
  gap : CStr
  parts : List Part
  id : CStr
  state : Option CStr
  gap_plain : 0x3c ∉ gap
  isParts : ∀ p ∈ parts, IsItemPart h p
  ids : parts.filterMap (Part.value? (str "DeviceID")) = [id]
  states : parts.filterMap (Part.value? h.element) = state.toList
  nonempty : id ≠ []
  id_carried : narrow cp (cp.ansiToUnicode id) = id
  state_carried : ∀ s ∈ state, narrow cp (cp.ansiToUnicode s) = s

/-- The parts of an item with its mark in front. -/
def Item.all {cp : CodePage} {h : Handler} (i : Item cp h) : List Part :=
  .piece (str "Item>" ++ i.gap) :: i.parts

/-- The text of a catalogue: up to its kind, on to the count, on to the items. -/
structure CatalogText (cp : CodePage) (h : Handler) where
  head : CStr
  gap : CStr
  ahead : List Part
  sum : CStr
  sumGap : CStr
  behind : List Part
  items : List (Item cp h)
  kind_first : ¬ str "Catalog" <:+: head ++ (str "Catalog").dropLast
  gap_plain : 0x3c ∉ gap
  sum_plain : 0x3c ∉ sum ∧ 0x3c ∉ sumGap
  ahead_searchable : ∀ p ∈ ahead, p.Passes (str "SumNum" ++ [0x3e]) ∧
    p.Passes (0x2f :: str "SumNum" ++ [0x3e]) ∧ p.Passes (str "Item>")
  behind_passes : ∀ p ∈ behind, p.Passes (str "Item>")
  nonzero : 0 ∉ head ++ str "Catalog" ++ gap ++ textOf (ahead ++
    .element (str "SumNum") sum sumGap :: (behind ++ items.flatMap Item.all))

section

variable {cp : CodePage} {h : Handler}

namespace CatalogText

variable (T : CatalogText cp h)

def front : List Part := T.ahead ++ .element (str "SumNum") T.sum T.sumGap :: T.behind

def text : CStr :=
  T.head ++ str "Catalog" ++ T.gap ++ textOf (T.ahead ++
    .element (str "SumNum") T.sum T.sumGap :: (T.behind ++ T.items.flatMap Item.all))

def count : Nat := (ttoi (cp.ansiToUnicode T.sum)).toNat

end CatalogText

/-! ## The values of items -/

theorem isName_element : IsName h.element := by
  cases h <;> decide

theorem isName_of_mem {name : CStr} (hname : name ∈ [str "DeviceID", h.element]) : IsName name := by
  rcases List.mem_cons.mp hname with rfl | hname
  · decide
  · rw [List.mem_singleton.mp hname]
    exact isName_element

theorem head?_of_mem {name : CStr} (hname : name ∈ [str "DeviceID", h.element]) :
    name.head? ≠ some 0x49 := by
  rcases List.mem_cons.mp hname with rfl | hname
  · decide
  · rw [List.mem_singleton.mp hname]
    cases h <;> decide

theorem item_ne_name {name : CStr} (hname : name ∈ [str "DeviceID", h.element]) :
    name ≠ str "Item" := by
  rintro rfl
  exact head?_of_mem hname (by decide)

theorem IsItemPart.passes {p : Part} (hp : IsItemPart h p) : p.Passes (str "Item>") := by
  cases p with
  | piece s =>
    intro t ht
    rw [List.mem_singleton.mp ht]
    exact ⟨hp.1, hp.2.1⟩
  | element name value gap =>
    exact (passes_element (m := str "Item") (by decide) (isName_of_mem hp.1) hp.2.1 hp.2.2
      (item_ne_name hp.1)).1

theorem IsItemPart.searchable {p : Part} (hp : IsItemPart h p) {name : CStr}
    (hname : name ∈ [str "DeviceID", h.element]) : Searchable name p := by
  cases p with
  | piece s =>
    obtain ⟨hs, -, hmarks⟩ := hp
    exact searchable_piece hs (hmarks name hname).1 (hmarks name hname).2
  | element n value gap =>
    exact searchable_element (isName_of_mem hname) (isName_of_mem hp.1) hp.2.1 hp.2.2

theorem searchable_mark {name gap : CStr} (hname : name ∈ [str "DeviceID", h.element])
    (hgap : 0x3c ∉ gap) : Searchable name (.piece (str "Item>" ++ gap)) := by
  apply searchable_piece
  · simp [hgap]
    decide
  · intro hpre
    cases name with
    | nil => exact absurd (List.cons_prefix_cons.mp hpre).1 (by decide)
    | cons c rest => exact head?_of_mem hname (congrArg some (List.cons_prefix_cons.mp hpre).1)
  · intro hpre
    exact absurd (List.cons_prefix_cons.mp hpre).1 (by decide)

theorem searchable_items {name : CStr} (hname : name ∈ [str "DeviceID", h.element])
    (items : List (Item cp h)) : ∀ p ∈ items.flatMap Item.all, Searchable name p := by
  intro p hp
  obtain ⟨i, -, hp⟩ := List.mem_flatMap.mp hp
  rcases List.mem_cons.mp hp with rfl | hp
  · exact searchable_mark hname i.gap_plain
  · exact (i.isParts p hp).searchable hname

/-- The first state from here on, empty if there is none. -/
def nextState (items : List (Item cp h)) : CStr := ((items.filterMap Item.state).head?).getD []

theorem values_items {name : CStr} (items : List (Item cp h)) :
    (items.flatMap Item.all).filterMap (Part.value? name) =
      items.flatMap fun i => i.parts.filterMap (Part.value? name) := by
  rw [List.filterMap_flatMap]
  rfl

theorem id_found (i : Item cp h) (items : List (Item cp h)) :
    getStringBetween (textOf ((i :: items).flatMap Item.all)) (opening (str "DeviceID"))
      (closing (str "DeviceID")) false = i.id := by
  rw [getStringBetween_parts (by decide)
    (searchable_items (h := h) List.mem_cons_self (i :: items)), ← List.head?_filterMap, values_items, List.flatMap_cons, i.ids]
  rfl

theorem state_found (items : List (Item cp h)) :
    getStringBetween (textOf (items.flatMap Item.all)) (opening h.element)
      (closing h.element) false = nextState items := by
  have hvalues : (items.flatMap fun i => i.parts.filterMap (Part.value? h.element)) =
      items.filterMap Item.state := by
    induction items with
    | nil => rfl
    | cons i items ih =>
      rw [List.flatMap_cons, ih, i.states]
      cases hstate : i.state <;> simp [hstate]
  rw [getStringBetween_parts isName_element
    (searchable_items (h := h) (List.mem_cons_of_mem _ List.mem_cons_self) items), ← List.head?_filterMap, values_items, hvalues]
  rfl

/-! ## The cursor -/

/-- The cursor stands before the items, and behind the mark of the one before. -/
def Cursor (items : List (Item cp h)) (pCurPos : CStr) : Prop :=
  0 ∉ pCurPos ∧ ∃ pre l, 0x3c ∉ pre ∧ (∀ p ∈ l, p.Passes (str "Item>")) ∧
    pCurPos = pre ++ textOf (l ++ items.flatMap Item.all)

theorem opening_item : opening (str "Item") = 0x3c :: str "Item>" := by decide

theorem Cursor.extract_nil {pCurPos : CStr} (hcur : Cursor ([] : List (Item cp h)) pCurPos)
    (name : CStr) : extractXML cp pCurPos (opening (str "Item")) (opening name) (closing name)
      MAX_PATH = ⟨RECORD_INFO_ERROR, valueCopies cp []⟩ := by
  obtain ⟨hzero, pre, l, hpre, hl, rfl⟩ := hcur
  have hfind : find (pre ++ textOf (l ++ [])) (opening (str "Item")) = none := by
    rw [find, opening_item, breakOn_skip hpre, List.append_nil, breakOn_eq_none (by decide) hl]
    rfl
  rw [extractXML, cStr_eq_self hzero]
  dsimp only
  rw [List.flatMap_nil, hfind]
  rfl

/-- What is extracted is looked for from the mark of the first item on, and the cursor moves behind
that mark. -/
theorem Cursor.extract_cons {i : Item cp h} {items : List (Item cp h)} {pCurPos : CStr}
    (hcur : Cursor (i :: items) pCurPos) :
    ∃ nPos : Nat, nPos + 4 ≤ pCurPos.length ∧ Cursor items (pCurPos.drop (nPos + 4)) ∧
      ∀ name, extractXML cp pCurPos (opening (str "Item")) (opening name) (closing name) MAX_PATH =
        ⟨nPos + 4, valueCopies cp (getStringBetween (textOf ((i :: items).flatMap Item.all))
          (opening name) (closing name) false)⟩ := by
  obtain ⟨hzero, pre, l, hpre, hl, hcur⟩ := hcur
  have hitems : textOf ((i :: items).flatMap Item.all) =
      joined ((str "Item>" ++ i.gap) :: (i.parts ++ items.flatMap Item.all).flatMap Part.pieces) :=
    rfl
  have hhead : breakOn (0x3c :: str "Item>") (textOf ((i :: items).flatMap Item.all)) =
      some ([], i.gap ++ joined ((i.parts ++ items.flatMap Item.all).flatMap Part.pieces)) := by
    rw [hitems, breakOn_head]
  have hfind : find pCurPos (opening (str "Item")) = some (pre ++ textOf l).length := by
    rw [find, opening_item, hcur, breakOn_skip hpre, breakOn_passes (by decide) hl, hhead]
    simp
  have htext : pCurPos = (pre ++ textOf l) ++ textOf ((i :: items).flatMap Item.all) := by
    rw [hcur, textOf_append, List.append_assoc]
  have hdrop : pCurPos.drop ((pre ++ textOf l).length + 4) = (str "m>" ++ i.gap) ++
      textOf (i.parts ++ items.flatMap Item.all) := by
    rw [htext, ← List.drop_drop, List.drop_left, hitems, joined_cons]
    rfl
  refine ⟨(pre ++ textOf l).length, ?_, ?_, ?_⟩
  · have hlength := congrArg List.length htext
    rw [@List.length_append _ (pre ++ textOf l), hitems, joined_cons] at hlength
    simp only [List.length_cons, @List.length_append _ (str "Item>" ++ i.gap),
      @List.length_append _ (str "Item>"), show (str "Item>").length = 5 from rfl] at hlength
    omega
  · refine ⟨fun hmem => hzero (List.mem_of_mem_drop hmem), str "m>" ++ i.gap, i.parts, ?_, ?_,
      hdrop⟩
    · rw [List.mem_append, not_or]
      exact ⟨by decide, i.gap_plain⟩
    · intro p hp
      exact (i.isParts p hp).passes
  · intro name
    rw [extractXML, cStr_eq_self hzero, hfind]
    dsimp only
    have hbehind : pCurPos.drop (pre ++ textOf l).length =
        textOf ((i :: items).flatMap Item.all) := by
      rw [htext, List.drop_left]
    rw [hbehind, valueCopies]
    split <;> rfl

theorem narrow_nil : narrow cp (cp.ansiToUnicode []) = [] := by
  rw [ansiToUnicode_nil, narrow, cp.empty_wide]
  rfl

theorem nextState_carried (items : List (Item cp h)) :
    narrow cp (cp.ansiToUnicode (nextState items)) = nextState items := by
  unfold nextState
  cases hhead : (items.filterMap Item.state).head? with
  | none => exact narrow_nil
  | some s =>
    obtain ⟨i, -, hstate⟩ := List.mem_filterMap.mp (List.mem_of_mem_head? hhead)
    exact i.state_carried s hstate

/-- **One turn of the loop.** -/
theorem Cursor.turn {i : Item cp h} {items : List (Item cp h)} {pCurPos : CStr}
    (hcur : Cursor (i :: items) pCurPos) (junk : Nat → Nat → WChar) (n k : Nat) (s : State) :
    ∃ nPos : Nat, Cursor items (pCurPos.drop (nPos + 4)) ∧
      itemLoop h cp junk (n + 1) k pCurPos s = (do
        let strDeviceID ← readArray ⟨nPos + 4, valueCopies cp i.id⟩ (fresh (junk (2 * k + 1)))
        if narrow cp strDeviceID = [] then .ok s
        else
          let strEvent ← readArray ⟨nPos + 4, valueCopies cp (nextState (i :: items))⟩
            (fresh (junk (2 * k + 2)))
          itemLoop h cp junk n (k + 1) (pCurPos.drop (nPos + 4))
            (h.report cp (narrow cp strDeviceID) (narrow cp strEvent) s)) := by
  obtain ⟨nPos, hle, hnext, hextract⟩ := hcur.extract_cons
  have hadvance : advance pCurPos (nPos + 4) = .ok (pCurPos.drop (nPos + 4)) :=
    if_pos ⟨by omega, by omega⟩
  refine ⟨nPos, hnext, ?_⟩
  rw [itemLoop]
  dsimp only
  rw [hextract, hextract, id_found, state_found, hadvance]
  rfl

/-! ## The loop -/

/-- What is read of the items in `n` turns: of each its ID and the first state from it on. -/
def readings : Nat → List (Item cp h) → List (CStr × CStr)
  | n + 1, i :: items => (i.id, nextState (i :: items)) :: readings n items
  | _, _ => []

def AllShort (cp : CodePage) (read : List (CStr × CStr)) : Prop :=
  ∀ r ∈ read, Short cp r.1 ∧ Short cp r.2

theorem Cursor.stop {pCurPos : CStr} (hcur : Cursor ([] : List (Item cp h)) pCurPos)
    (junk : Nat → Nat → WChar) (n k : Nat) (s : State) :
    itemLoop h cp junk (n + 1) k pCurPos s = .ok s := by
  have hread := readArray_short (short_nil : Short cp []) RECORD_INFO_ERROR (junk (2 * k + 1))
  rw [itemLoop]
  dsimp only
  rw [hcur.extract_nil, hread]
  exact if_pos narrow_nil

/-- **An item is reported with the first state from it on.** -/
theorem itemLoop_run (junk : Nat → Nat → WChar) (n : Nat) : ∀ (k : Nat) {items : List (Item cp h)}
    {pCurPos : CStr} (s : State), Cursor items pCurPos → AllShort cp (readings n items) →
    ∃ s', itemLoop h cp junk n k pCurPos s = .ok s' ∧
      s'.calls = s.calls ++ (readings n items).filterMap (h.call cp) := by
  induction n with
  | zero =>
    intro k items pCurPos s _ _
    exact ⟨s, rfl, by simp [readings]⟩
  | succ n ih =>
    intro k items pCurPos s hcur hshort
    cases items with
    | nil => exact ⟨s, hcur.stop junk n k s, by simp [readings]⟩
    | cons i items =>
      obtain ⟨hhead, htail⟩ := List.forall_mem_cons.mp hshort
      obtain ⟨nPos, hnext, hturn⟩ := hcur.turn junk n k s
      obtain ⟨s', hrun, hcalls⟩ := ih (k + 1)
        (h.report cp i.id (nextState (i :: items)) s) hnext htail
      refine ⟨s', ?_, ?_⟩
      · rw [hturn, readArray_short hhead.1]
        show (if narrow cp (cp.ansiToUnicode i.id) = [] then _ else _) = _
        rw [i.id_carried, if_neg i.nonempty, readArray_short hhead.2, ← hrun]
        show itemLoop h cp junk n (k + 1) _
          (h.report cp i.id (narrow cp (cp.ansiToUnicode (nextState (i :: items)))) s) = _
        rw [nextState_carried]
      · have hreport : ∀ (deviceID stringEvent : CStr) (s : State),
            (h.report cp deviceID stringEvent s).calls =
              s.calls ++ (h.call cp (deviceID, stringEvent)).toList := by
          intro deviceID stringEvent s
          cases h with
          | response =>
            unfold Handler.report Handler.remember
            dsimp only
            split <;> rfl
          | notify => rfl
        rw [hcalls, hreport, List.append_assoc, readings]
        congr 1
        cases hcall : h.call cp (i.id, nextState (i :: items)) <;> simp [hcall]

theorem itemLoop_fails (n : Nat) : ∀ (k : Nat) {items : List (Item cp h)} {pCurPos : CStr}
    (s : State), Cursor items pCurPos → ¬ AllShort cp (readings n items) →
    ∃ fault, itemLoop h cp (fun _ _ => 1) n k pCurPos s = .error fault := by
  induction n with
  | zero =>
    intro k items pCurPos s _ hlong
    exact absurd (fun r hr => by cases hr) hlong
  | succ n ih =>
    intro k items pCurPos s hcur hlong
    cases items with
    | nil => exact absurd (fun r hr => by cases hr) hlong
    | cons i items =>
      obtain ⟨nPos, hnext, hturn⟩ := hcur.turn (fun _ _ => 1) n k s
      rw [hturn]
      by_cases hid : Short cp i.id
      · rw [readArray_short hid]
        show ∃ fault, (if narrow cp (cp.ansiToUnicode i.id) = [] then _ else _) = _
        rw [i.id_carried, if_neg i.nonempty]
        by_cases hstate : Short cp (nextState (i :: items))
        · rw [readArray_short hstate]
          refine ih (k + 1) _ hnext fun htail => hlong ?_
          exact List.forall_mem_cons.mpr ⟨⟨hid, hstate⟩, htail⟩
        · obtain ⟨fault, hfault⟩ := readArray_long hstate (nPos + 4)
          rw [hfault]
          exact ⟨fault, rfl⟩
      · obtain ⟨fault, hfault⟩ := readArray_long hid (nPos + 4)
        rw [hfault]
        exact ⟨fault, rfl⟩

/-! ## The whole text -/

theorem CatalogText.text_split (T : CatalogText cp h) :
    T.text = T.head ++ str "Catalog" ++ (T.gap ++ textOf (T.ahead ++
      .element (str "SumNum") T.sum T.sumGap :: (T.behind ++ T.items.flatMap Item.all))) := by
  rw [CatalogText.text]
  simp only [List.append_assoc]

theorem CatalogText.find_kind (T : CatalogText cp h) :
    find T.text (str "Catalog") = some T.head.length := by
  rw [find, T.text_split, breakOn_append (by decide) T.kind_first]
  rfl

theorem CatalogText.drop_kind (T : CatalogText cp h) :
    T.text.drop T.head.length = str "Catalog" ++ T.gap ++ textOf (T.ahead ++
      .element (str "SumNum") T.sum T.sumGap :: (T.behind ++ T.items.flatMap Item.all)) := by
  rw [T.text_split, List.append_assoc, List.drop_left, List.append_assoc]

theorem sum_found (T : CatalogText cp h) :
    getStringBetween (T.text.drop T.head.length) (opening (str "SumNum"))
      (closing (str "SumNum")) false = T.sum := by
  have hplain : 0x3c ∉ str "Catalog" ++ T.gap := by
    rw [List.mem_append, not_or]
    exact ⟨by decide, T.gap_plain⟩
  rw [T.drop_kind]
  refine getStringBetween_element (by decide) hplain T.sum_plain.1 fun p hp => ?_
  obtain ⟨hopening, hclosing, -⟩ := T.ahead_searchable p hp
  exact ⟨hopening, hclosing⟩

/-- Behind the fourth character of the kind, the items are still to come. -/
theorem Cursor.start (T : CatalogText cp h) :
    Cursor T.items (T.text.drop (T.head.length + 4)) := by
  have hfront : T.front ++ T.items.flatMap Item.all = T.ahead ++
      .element (str "SumNum") T.sum T.sumGap :: (T.behind ++ T.items.flatMap Item.all) := by
    rw [CatalogText.front, List.append_assoc, List.cons_append]
  have hdrop : T.text.drop (T.head.length + 4) =
      (str "log" ++ T.gap) ++ textOf (T.front ++ T.items.flatMap Item.all) := by
    rw [← List.drop_drop, T.drop_kind, hfront]
    rfl
  refine ⟨fun hmem => T.nonzero (List.mem_of_mem_drop hmem), str "log" ++ T.gap, T.front, ?_, ?_,
    hdrop⟩
  · rw [List.mem_append, not_or]
    exact ⟨by decide, T.gap_plain⟩
  · intro p hp
    rcases List.mem_append.mp hp with hp | hp
    · exact (T.ahead_searchable p hp).2.2
    · rcases List.mem_cons.mp hp with rfl | hp
      · exact (passes_element (m := str "Item") (by decide) (by decide) T.sum_plain.1
          T.sum_plain.2 (by decide)).1
      · exact T.behind_passes p hp

theorem handle_eq (T : CatalogText cp h) (junk : Nat → Nat → WChar) (s : State) :
    ∃ (pCurPos : CStr) (ret : Int), Cursor T.items pCurPos ∧
      handle h cp junk T.text s =
        readArray ⟨ret, valueCopies cp T.sum⟩ (fresh (junk 0)) >>= fun strSumNum =>
          itemLoop h cp junk (ttoi strSumNum).toNat 0 pCurPos s := by
  have hextract : extractXML cp T.text (str "Catalog") (opening (str "SumNum"))
      (closing (str "SumNum")) MAX_PATH =
        ⟨T.head.length + 4, valueCopies cp T.sum⟩ := by
    rw [extractXML, cStr_eq_self (s := T.text) T.nonzero, T.find_kind]
    dsimp only
    rw [sum_found, valueCopies]
    split <;> rfl
  have hlength : T.head.length + 7 ≤ T.text.length := find_le T.find_kind
  have hadvance : advance T.text (T.head.length + 4) = .ok (T.text.drop (T.head.length + 4)) :=
    if_pos ⟨by omega, by omega⟩
  refine ⟨T.text.drop (T.head.length + 4), T.head.length + 4, Cursor.start T, ?_⟩
  rw [handle, hextract, hadvance]
  rfl

/-- The items that have a state, each with its own. -/
def own (items : List (Item cp h)) : List (CStr × CStr) :=
  items.filterMap fun i => i.state.map fun s => (i.id, s)

/-- **Every item that has a state is reported with it, once and in order, and nothing else is**,
whatever the arrays on the stack held. -/
def Right (T : CatalogText cp h) : Prop :=
  ∃ calls, (own T.items).mapM (h.call cp) = some calls ∧
    ∀ junk s, ∃ s', h.run cp junk T.text s = .ok s' ∧ s'.calls = s.calls ++ calls

theorem run_eq (h : Handler) (cp : CodePage) (junk : Nat → Nat → WChar) (text : CStr) (s : State) :
    ∃ s₀ : State, s₀.calls = s.calls ∧ h.run cp junk text s = handle h cp junk text s₀ := by
  cases h with
  | response =>
    exact ⟨{ s with m_strCatalogInfoListXml := s.m_strCatalogInfoListXml ++ text }, rfl, rfl⟩
  | notify => exact ⟨s, rfl, rfl⟩

theorem right_iff (T : CatalogText cp h) : Right T ↔
    (Short cp T.sum ∧ AllShort cp (readings T.count T.items)) ∧
      (∀ r ∈ own T.items, (h.call cp r).isSome) ∧
      (readings T.count T.items).filterMap (h.call cp) = (own T.items).filterMap (h.call cp) := by
  constructor
  · rintro ⟨calls, hcalls, hrun⟩
    have hall : ∀ r ∈ own T.items, (h.call cp r).isSome :=
      mapM_isSome_iff.mp (by rw [hcalls]; rfl)
    obtain rfl : (own T.items).filterMap (h.call cp) = calls :=
      Option.some.inj ((mapM_eq_filterMap hall).symm.trans hcalls)
    obtain ⟨s', hones, hreported⟩ := hrun (fun _ _ => 1) ⟨[], [], []⟩
    obtain ⟨s₀, hs₀, hstart⟩ := run_eq h cp (fun _ _ => 1) T.text ⟨[], [], []⟩
    obtain ⟨pCurPos, ret, hcur, hhandle⟩ := handle_eq T (fun _ _ => 1) s₀
    rw [hstart, hhandle] at hones
    have hsum : Short cp T.sum := by
      by_contra hlong
      obtain ⟨fault, hfault⟩ := readArray_long hlong ret
      rw [hfault] at hones
      cases hones
    rw [readArray_short hsum] at hones
    have hshort : AllShort cp (readings T.count T.items) := by
      by_contra hlong
      obtain ⟨fault, hfault⟩ := itemLoop_fails T.count 0 s₀ hcur hlong
      cases hfault.symm.trans hones
    obtain ⟨s'', hloop, hmade⟩ := itemLoop_run (fun _ _ => 1) T.count 0 s₀ hcur hshort
    obtain rfl : s'' = s' := Except.ok.inj (hloop.symm.trans hones)
    rw [hmade, hs₀] at hreported
    exact ⟨⟨hsum, hshort⟩, hall, hreported⟩
  · rintro ⟨⟨hsum, hshort⟩, hall, hreported⟩
    refine ⟨_, mapM_eq_filterMap hall, fun junk s => ?_⟩
    obtain ⟨s₀, hs₀, hstart⟩ := run_eq h cp junk T.text s
    obtain ⟨pCurPos, ret, hcur, hhandle⟩ := handle_eq T junk s₀
    obtain ⟨s', hloop, hmade⟩ := itemLoop_run junk T.count 0 s₀ hcur hshort
    refine ⟨s', ?_, ?_⟩
    · rw [hstart, hhandle, readArray_short hsum]
      exact hloop
    · rw [hmade, hs₀, hreported]

/-! ## The order of the states -/

def NoStates (items : List (Item cp h)) : Prop := ∀ i ∈ items, i.state = none

/-- A response may have items without a state behind those that have one, a notification only
behind those that the loop reaches; neither has a state the loop does not reach. -/
def InOrder (n : Nat) (items : List (Item cp h)) : Prop :=
  (match h with
    | .response => items.Pairwise fun i j => i.state = none → j.state = none
    | .notify => ∀ i ∈ items.take n, i.state ≠ none) ∧ NoStates (items.drop n)

theorem own_cons_some {i : Item cp h} {s : CStr} (hstate : i.state = some s)
    (items : List (Item cp h)) : own (i :: items) = (i.id, s) :: own items := by
  simp [own, hstate]

theorem own_cons_none {i : Item cp h} (hstate : i.state = none) (items : List (Item cp h)) :
    own (i :: items) = own items := by
  simp [own, hstate]

theorem own_eq_nil_iff {items : List (Item cp h)} : own items = [] ↔ NoStates items := by
  simp [own, NoStates]

theorem mem_own {items : List (Item cp h)} {r : CStr × CStr} (hr : r ∈ own items) :
    ∃ i ∈ items, i.id = r.1 := by
  obtain ⟨i, hi, hstate⟩ := List.mem_filterMap.mp hr
  obtain ⟨s, -, rfl⟩ := Option.map_eq_some_iff.mp hstate
  exact ⟨i, hi, rfl⟩

theorem nextState_eq (items : List (Item cp h)) :
    nextState items = ((own items).head?.map Prod.snd).getD [] := by
  have hstates : (own items).map Prod.snd = items.filterMap Item.state := by
    rw [own, List.map_filterMap]
    congr 1
    funext i
    cases i.state <;> rfl
  rw [nextState, ← hstates, List.head?_map]

theorem nextState_cons_some {i : Item cp h} {s : CStr} (hstate : i.state = some s)
    (items : List (Item cp h)) : nextState (i :: items) = s := by
  rw [nextState_eq, own_cons_some hstate]
  rfl

theorem nextState_cons_none {i : Item cp h} (hstate : i.state = none) (items : List (Item cp h)) :
    nextState (i :: items) = nextState items := by
  rw [nextState_eq, own_cons_none hstate, ← nextState_eq]

theorem call_isSome (r : CStr × CStr) :
    (h.call cp r).isSome = (h.content (r.2.map toLower)).isSome := Option.isSome_map

theorem notify_isSome (stringEvent : CStr) : (Handler.notify.content stringEvent).isSome := by
  show Option.isSome (if stringEvent = str "off" then some _ else some _) = true
  split <;> rfl

theorem id_of_call {r r' : CStr × CStr} {call : StatusCall} (hr : h.call cp r = some call)
    (hr' : h.call cp r' = some call) (hid : narrow cp (cp.ansiToUnicode r.1) = r.1)
    (hid' : narrow cp (cp.ansiToUnicode r'.1) = r'.1) : r.1 = r'.1 := by
  obtain ⟨c, -, hc⟩ := Option.map_eq_some_iff.mp hr
  obtain ⟨c', -, hc'⟩ := Option.map_eq_some_iff.mp hr'
  have hwide := congrArg StatusCall.strDeviceID (hc.trans hc'.symm)
  rw [← hid, ← hid']
  exact congrArg (narrow cp) hwide

theorem inOrder_zero {items : List (Item cp h)} : InOrder 0 items ↔ NoStates items := by
  constructor
  · intro horder
    exact horder.2
  · intro hnone
    refine ⟨?_, hnone⟩
    cases h with
    | response =>
      refine List.pairwise_of_forall_mem_list fun i _ j hj _ => ?_
      exact hnone j hj
    | notify => exact fun i hi => by cases hi

theorem inOrder_cons_some {n : Nat} {i : Item cp h} {items : List (Item cp h)} {s : CStr}
    (hstate : i.state = some s) : InOrder (n + 1) (i :: items) ↔ InOrder n items := by
  unfold InOrder
  rw [List.drop_succ_cons]
  refine and_congr_left fun _ => ?_
  cases h with
  | response => simp [hstate]
  | notify => simp [hstate]

theorem readings_noStates {cp : CodePage} (n : Nat) {items : List (Item cp .response)}
    (hnone : NoStates items) : (readings n items).filterMap (Handler.response.call cp) = [] := by
  induction n generalizing items with
  | zero => rfl
  | succ n ih =>
    cases items with
    | nil => rfl
    | cons i items =>
      have hstate : nextState (i :: items) = [] := by
        rw [nextState_eq, own_eq_nil_iff.mpr hnone]
        rfl
      rw [readings, hstate, List.filterMap_cons_none rfl]
      exact ih fun j hj => hnone j (List.mem_cons_of_mem i hj)

/-- **States in order are reported right.** -/
theorem reported_of_inOrder (n : Nat) {items : List (Item cp h)} (horder : InOrder n items) :
    (readings n items).filterMap (h.call cp) = (own items).filterMap (h.call cp) := by
  induction n generalizing items with
  | zero =>
    rw [own_eq_nil_iff.mpr (inOrder_zero.mp horder)]
    rfl
  | succ n ih =>
    cases items with
    | nil => rfl
    | cons i items =>
      cases hstate : i.state with
      | some s =>
        rw [readings, nextState_cons_some hstate, own_cons_some hstate, List.filterMap_cons,
          List.filterMap_cons, ih ((inOrder_cons_some hstate).mp horder)]
      | none =>
        cases h with
        | response =>
          have hnone : NoStates (i :: items) := by
            intro j hj
            rcases List.mem_cons.mp hj with rfl | hj
            · exact hstate
            · exact (List.pairwise_cons.mp horder.1).1 j hj hstate
          rw [readings_noStates (n + 1) hnone, own_eq_nil_iff.mpr hnone]
          rfl
        | notify => exact absurd hstate (horder.1 i List.mem_cons_self)

/-- Where the next state is none the callback knows, there is no next one. -/
theorem noStates_of_quiet {items : List (Item cp h)}
    (hall : ∀ r ∈ own items, (h.call cp r).isSome)
    (hquiet : ¬ (h.content ((nextState items).map toLower)).isSome) : NoStates items := by
  rw [← own_eq_nil_iff]
  by_contra hne
  obtain ⟨r, rest, hcons⟩ := List.exists_cons_of_ne_nil hne
  have hstate : nextState items = r.2 := by
    rw [nextState_eq, hcons]
    rfl
  rw [hstate, ← call_isSome] at hquiet
  exact hquiet (hall r (hcons ▸ List.mem_cons_self))

/-- **Where no ID is there twice, only states in order are reported right.** -/
theorem inOrder_of_reported (n : Nat) {items : List (Item cp h)}
    (hnodup : (items.map Item.id).Nodup) (hall : ∀ r ∈ own items, (h.call cp r).isSome)
    (hreported : (readings n items).filterMap (h.call cp) = (own items).filterMap (h.call cp)) :
    InOrder n items := by
  induction n generalizing items with
  | zero =>
    rw [inOrder_zero, ← own_eq_nil_iff]
    by_contra hne
    obtain ⟨r, rest, hown⟩ := List.exists_cons_of_ne_nil hne
    obtain ⟨call, hcall⟩ := Option.isSome_iff_exists.mp (hall r (hown ▸ List.mem_cons_self))
    rw [hown, List.filterMap_cons_some hcall] at hreported
    cases hreported
  | succ n ih =>
    cases items with
    | nil =>
      refine ⟨?_, fun i hi => by cases hi⟩
      cases h with
      | response => exact List.Pairwise.nil
      | notify => exact fun i hi => by cases hi
    | cons i items =>
      obtain ⟨hfresh, hnodup⟩ := List.nodup_cons.mp hnodup
      cases hstate : i.state with
      | some s =>
        rw [own_cons_some hstate] at hall hreported
        obtain ⟨hhead, htail⟩ := List.forall_mem_cons.mp hall
        obtain ⟨call, hcall⟩ := Option.isSome_iff_exists.mp hhead
        rw [readings, nextState_cons_some hstate, List.filterMap_cons_some hcall,
          List.filterMap_cons_some hcall] at hreported
        exact (inOrder_cons_some hstate).mpr (ih hnodup htail (List.cons.inj hreported).2)
      | none =>
        rw [own_cons_none hstate] at hall hreported
        cases hcall : h.call cp (i.id, nextState items) with
        | some call =>
          -- the call would be one for another item with this ID
          rw [readings, nextState_cons_none hstate, List.filterMap_cons_some hcall] at hreported
          have hmem : call ∈ (own items).filterMap (h.call cp) := hreported ▸ List.mem_cons_self
          obtain ⟨r, hr, hcall'⟩ := List.mem_filterMap.mp hmem
          obtain ⟨j, hj, hid⟩ := mem_own hr
          have heq := id_of_call hcall hcall' i.id_carried (by rw [← hid]; exact j.id_carried)
          refine absurd ?_ hfresh
          exact List.mem_map.mpr ⟨j, hj, hid.trans heq.symm⟩
        | none =>
          have hquiet : ¬ (h.content ((nextState items).map toLower)).isSome := by
            rw [← call_isSome (i.id, nextState items), hcall]
            simp
          have hnone : NoStates items := noStates_of_quiet hall hquiet
          cases h with
          | response =>
            refine ⟨List.pairwise_cons.mpr ⟨fun j hj _ => hnone j hj, ?_⟩, ?_⟩
            · exact (inOrder_zero.mpr hnone).1
            · intro j hj
              exact hnone j (List.mem_of_mem_drop hj)
          | notify => exact absurd (notify_isSome _) hquiet

/-- Two items have one DeviceID, and their states mean the same to the callback. -/
def SameReport (h : Handler) (r r' : CStr × CStr) : Prop :=
  r.1 = r'.1 ∧ h.content (r.2.map toLower) = h.content (r'.2.map toLower)

/-- The items that are read with a state that the callback knows have, one after the other, the
DeviceIDs of the items with a state, and states that mean the same as theirs. -/
def Coincide (n : Nat) (items : List (Item cp h)) : Prop :=
  List.Forall₂ (SameReport h)
    ((readings n items).filter fun r => (h.content (r.2.map toLower)).isSome) (own items)

def Carried (cp : CodePage) (r : CStr × CStr) : Prop := narrow cp (cp.ansiToUnicode r.1) = r.1

theorem mem_readings {n : Nat} {items : List (Item cp h)} {r : CStr × CStr}
    (hr : r ∈ readings n items) : ∃ i ∈ items, i.id = r.1 := by
  fun_induction readings n items with
  | case1 n i items ih =>
    rcases List.mem_cons.mp hr with rfl | hr
    · exact ⟨i, List.mem_cons_self, rfl⟩
    · obtain ⟨j, hj, hid⟩ := ih hr
      exact ⟨j, List.mem_cons_of_mem _ hj, hid⟩
  | case2 => cases hr

/-- The calls for some items are those for others exactly when the items report the same. -/
theorem filterMap_call_eq_iff {l l' : List (CStr × CStr)} (hl : ∀ r ∈ l, Carried cp r)
    (hl' : ∀ r ∈ l', Carried cp r) (hall : ∀ r ∈ l', (h.content (r.2.map toLower)).isSome) :
    l.filterMap (h.call cp) = l'.filterMap (h.call cp) ↔
      List.Forall₂ (SameReport h)
        (l.filter fun r => (h.content (r.2.map toLower)).isSome) l' := by
  have hcall : ∀ {r : CStr × CStr} {c : Int}, h.content (r.2.map toLower) = some c →
      h.call cp r = some ⟨cp.ansiToUnicode r.1, c⟩ := fun hc => by rw [Handler.call, hc]; rfl
  induction l generalizing l' with
  | nil =>
    cases l' with
    | nil => simp
    | cons r' l' =>
      obtain ⟨c', hc'⟩ := Option.isSome_iff_exists.mp (hall r' List.mem_cons_self)
      rw [List.filterMap_cons_some (hcall hc')]
      exact iff_of_false (by simp) fun hrest => by cases hrest
  | cons r l ih =>
    obtain ⟨hr, hl⟩ := List.forall_mem_cons.mp hl
    cases hc : h.content (r.2.map toLower) with
    | none =>
      have hnone : h.call cp r = none := by rw [Handler.call, hc]; rfl
      rw [List.filterMap_cons_none hnone, List.filter_cons_of_neg (by simp [hc])]
      exact ih hl hl' hall
    | some c =>
      rw [List.filterMap_cons_some (hcall hc), List.filter_cons_of_pos (by simp [hc])]
      cases l' with
      | nil => exact iff_of_false (by simp) fun hrest => by cases hrest
      | cons r' l' =>
        obtain ⟨hr', hl'⟩ := List.forall_mem_cons.mp hl'
        obtain ⟨hsome, hall⟩ := List.forall_mem_cons.mp hall
        obtain ⟨c', hc'⟩ := Option.isSome_iff_exists.mp hsome
        rw [List.filterMap_cons_some (hcall hc'), List.cons_eq_cons, List.forall₂_cons]
        refine and_congr ?_ (ih hl hl' hall)
        rw [StatusCall.mk.injEq, SameReport, hc, hc', Option.some.injEq]
        refine and_congr_left fun _ => ⟨fun hwide => ?_, fun hid => by rw [hid]⟩
        rw [← hr, ← hr', hwide]

/-- **The states are reported right exactly when** the texts that are read fit the arrays, every
state is one the callback knows, and the states stand in order, or two items have one ID and the
items that are read coincide with those that have a state.  The log call of the notification that
passes a `std::string` through `...` (`UACTCP.cpp`, line 2249) is left out. -/
theorem states_iff (cp : CodePage) (h : Handler) (T : CatalogText cp h) : Right T ↔
    (Short cp T.sum ∧ AllShort cp (readings T.count T.items)) ∧
      (∀ r ∈ own T.items, (h.content (r.2.map toLower)).isSome) ∧
      (InOrder T.count T.items ∨
        (¬ (T.items.map Item.id).Nodup ∧ Coincide T.count T.items)) := by
  have hcarried : ∀ r : CStr × CStr, (∃ i ∈ T.items, i.id = r.1) → Carried cp r := by
    rintro r ⟨i, -, hid⟩
    rw [Carried, ← hid]
    exact i.id_carried
  rw [right_iff]
  refine and_congr_right fun _ => ?_
  simp only [call_isSome]
  refine and_congr_right fun hall => ?_
  rw [Coincide, ← filterMap_call_eq_iff (fun r hr => hcarried r (mem_readings hr))
    (fun r hr => hcarried r (mem_own hr)) hall]
  constructor
  · intro hreported
    by_cases hnodup : (T.items.map Item.id).Nodup
    · refine Or.inl (inOrder_of_reported _ hnodup (fun r hr => ?_) hreported)
      rw [call_isSome]
      exact hall r hr
    · exact Or.inr ⟨hnodup, hreported⟩
  · rintro (horder | ⟨-, hreported⟩)
    · exact reported_of_inOrder _ horder
    · exact hreported

end

/-! ## A state that is borrowed -/

def silentItem : Item latinPage .response where
  gap := []
  parts := [.element (str "DeviceID") (str "1") [], .piece (str "/Item>")]
  id := str "1"
  state := none
  gap_plain := by decide
  isParts := by decide
  ids := by decide
  states := by decide
  nonempty := by decide
  id_carried := by decide
  state_carried := by decide

def onlineItem : Item latinPage .response where
  gap := []
  parts := [.element (str "DeviceID") (str "2") [], .element (str "Status") (str "ON") [],
    .piece (str "/Item>")]
  id := str "2"
  state := some (str "ON")
  gap_plain := by decide
  isParts := by decide
  ids := by decide
  states := by decide
  nonempty := by decide
  id_carried := by decide
  state_carried := by decide

/-- A response about a device without a state and one that is online. -/
def borrowingText : CatalogText latinPage .response where
  head := str "<CmdType>"
  gap := []
  ahead := [.piece (str "/CmdType>")]
  sum := str "2"
  sumGap := []
  behind := [.piece (str "DeviceList>")]
  items := [silentItem, onlineItem]
  kind_first := by decide
  gap_plain := by decide
  sum_plain := by decide
  ahead_searchable := by decide
  behind_passes := by decide
  nonzero := by decide

/-- The device without a state is reported to be online. -/
theorem state_is_borrowed :
    ¬ ∀ (cp : CodePage) (h : Handler) (T : CatalogText cp h), Right T := by
  intro hall
  obtain ⟨-, -, hreported⟩ := (right_iff borrowingText).mp (hall _ _ borrowingText)
  exact absurd hreported (by decide)

end GB28181.Lib.CatalogStates
