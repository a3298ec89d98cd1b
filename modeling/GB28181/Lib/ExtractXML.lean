import GB28181.Base.CString
import GB28181.Base.Token

/-!
# Values out of a text (`GB28181.Lib/ExternalInterface.cpp`)

`ExtractXML` and `ExtractDeviceID` look for a value between two marks and put it, converted, into a
buffer of the caller.  Which of the two runtime functions copies it depends on the length of the
value before its conversion.

* `held_iff` — what a copy leaves in the buffer is the value as far as it fits **exactly when** the
  copy is the one without a limit and the converted value has room, or the other one and the value
  is shorter than its limit or the last character of the buffer was zero;
* `OffsetInside` — the offset is the fourth character of the key, which is inside the text unless a
  shorter key stands at the end of it;
* `extraction_bounded_iff` — both together, for each of the three functions.
-/

set_option autoImplicit false

namespace GB28181.Lib.ExternalInterface

open GB28181.Base

/-! ## Texts -/

abbrev WChar := UInt16

/-- The conversions of the code page, each of a text without its terminator. -/
structure CodePage where
  multiByteToWideChar : CStr → List WChar
  wideCharToMultiByte : List WChar → CStr
  empty : multiByteToWideChar [] = []
  empty_wide : wideCharToMultiByte [] = []

/-- `CLog::ANSIToUnicode`. -/
def CodePage.ansiToUnicode (cp : CodePage) (str : CStr) : List WChar :=
  (cp.multiByteToWideChar (cStr str)).takeWhile (· ≠ 0)

def RECORD_INFO_ERROR : Int := -103

/-- `find`; `none` is `npos`. -/
def find (strData strSub : CStr) : Option Nat := (breakOn strSub strData).map fun p => p.1.length

/-- `substr`; a negative length is a very large one. -/
def substr (strData : CStr) (nPos : Nat) (nLength : Int) : CStr :=
  if nLength < 0 then strData.drop nPos else (strData.drop nPos).take nLength.toNat

def getStringBetween (strData strFront strBack : CStr) (bIsInclude : Bool) : CStr :=
  match find strData strFront, find strData strBack with
  | some nPos_L, some nPos_R =>
    if nPos_L ≥ nPos_R then []
    else if bIsInclude = false then
      substr strData (nPos_L + strFront.length) (nPos_R - nPos_L - strBack.length + 1)
    else substr strData nPos_L (nPos_R - nPos_L + strBack.length)
  | _, _ => []

/-! ## The three functions -/

/-- What a call does: its return value, and the characters it stores at `strValue`, one copy after
the other. -/
structure Extracted where
  ret : Int
  copies : List (List WChar)
deriving DecidableEq

def tcsncpy (source : List WChar) (n : Nat) : List WChar :=
  source.take n ++ List.replicate (n - source.length) 0

/-- The copy of the value behind the first `strValue[0] = 0`. -/
def copyValue (cp : CodePage) (strElementValue : CStr) (nStrBufLen : Nat) : List (List WChar) :=
  if nStrBufLen < (cStr strElementValue).length then
    [[0], cp.ansiToUnicode strElementValue ++ [0]]
  else [[0], tcsncpy (cp.ansiToUnicode strElementValue) (nStrBufLen - 1)]

section

variable (cp : CodePage) (pXml : CStr)

/-- `ExtractXML` of the value of an element behind the key. -/
def extractXML (pKey pElementL elementR : CStr) (nStrBufLen : Nat) : Extracted :=
  let strFileInfo := cStr pXml
  match find strFileInfo pKey with
  | none => ⟨RECORD_INFO_ERROR, [[0]]⟩
  | some nPos =>
    let strElementValue := getStringBetween (strFileInfo.drop nPos) pElementL elementR false
    if strElementValue = [] then ⟨nPos + 4, [[0]]⟩
    else ⟨nPos + 4, copyValue cp strElementValue nStrBufLen⟩

/-- What stands between the first equals sign and the first bracket. -/
def attributeText (strFileInfo : CStr) : CStr :=
  match find strFileInfo [0x3d], find strFileInfo [0x3e] with
  | some nLPos, some nRPos =>
    if nLPos < nRPos then (strFileInfo.drop (nLPos + 1)).take (nRPos - nLPos - 1) else []
  | _, _ => []

/-- `ExtractXML` of the text behind the key and an equals sign. -/
def extractAttribute (pKey : CStr) (nStrBufLen : Nat) : Extracted :=
  let strFileInfo := cStr pXml
  match find strFileInfo pKey with
  | none => ⟨RECORD_INFO_ERROR, [[0]]⟩
  | some nPos =>
    ⟨nPos + 4, copyValue cp (attributeText (strFileInfo.drop nPos)) nStrBufLen⟩

def extractDeviceID (nStrBufLen : Nat) : Extracted :=
  let strFileInfo := cStr pXml
  let strElementValue :=
    getStringBetween strFileInfo (str "<DeviceID>") (str "</DeviceID>") false
  if strElementValue = [] then ⟨-1, [[0]]⟩
  else
    match find strFileInfo (str "</DeviceID>") with
    | none => ⟨-1 + (str "</DeviceID>").length, copyValue cp strElementValue nStrBufLen⟩
    | some nPos =>
      ⟨nPos + (str "</DeviceID>").length, copyValue cp strElementValue nStrBufLen⟩

end

/-! ## The buffer -/

/-- The buffer of the caller, as it was before the call. -/
structure Buffer where
  chars : List WChar
  nonempty : chars ≠ []

/-- What is in memory from `strValue` on after the copies. -/
def stored (copies : List (List WChar)) (chars : List WChar) : List WChar :=
  copies.foldl (fun m copy => copy ++ m.drop copy.length) chars

/-- No copy leaves the buffer, and then it holds the longest prefix of the value that fits, with
its terminator. -/
structure Held (cp : CodePage) (value : CStr) (before : Buffer) (copies : List (List WChar)) :
    Prop where
  written : ∀ copy ∈ copies, copy.length ≤ before.chars.length
  held : (cp.ansiToUnicode value).take (before.chars.length - 1) ++ [0] <+:
    stored copies before.chars

structure Bounded (cp : CodePage) (pXml value : CStr) (before : Buffer) (e : Extracted) :
    Prop where
  held : Held cp value before e.copies
  inside : 0 ≤ e.ret → e.ret ≤ (cStr pXml).length

/-- The value is longer than the buffer, and its conversion is not; or it is not longer, and its
conversion leaves room for two characters, or the buffer has a terminator at its end already. -/
def Fits (cp : CodePage) (value : CStr) (before : Buffer) : Prop :=
  let n := before.chars.length
  let size := (cp.ansiToUnicode value).length
  (n < (cStr value).length ∧ size + 1 ≤ n) ∨
    ((cStr value).length ≤ n ∧ (size + 2 ≤ n ∨ n = 1 ∨ before.chars.getLast? = some 0))

section

variable {cp : CodePage} {value : CStr} {before : Buffer}

theorem Buffer.length_pos (before : Buffer) : 0 < before.chars.length :=
  List.length_pos_of_ne_nil before.nonempty

theorem length_tcsncpy (source : List WChar) (n : Nat) : (tcsncpy source n).length = n := by
  simp [tcsncpy]
  omega

theorem ansiToUnicode_nil : cp.ansiToUnicode [] = [] := by
  rw [CodePage.ansiToUnicode, show cStr [] = [] from rfl, cp.empty]
  rfl

theorem held_nil : Held cp [] before [[0]] := by
  have hpos := before.length_pos
  constructor
  · intro copy hcopy
    rw [List.mem_singleton.mp hcopy]
    exact hpos
  · rw [ansiToUnicode_nil, List.take_nil]
    exact List.prefix_append _ _

theorem fits_nil : Fits cp [] before := by
  have hpos := before.length_pos
  refine Or.inr ⟨Nat.zero_le _, ?_⟩
  rw [ansiToUnicode_nil, List.length_nil]
  omega

theorem stored_two (copy chars : List WChar) :
    stored [[0], copy] chars = copy ++ (0 :: chars.drop 1).drop copy.length := rfl

/-- Without a limit the whole value is copied, and so are its terminator and all that has no
room. -/
theorem held_tcscpy (wide : List WChar) (hwide : cp.ansiToUnicode value = wide) :
    Held cp value before [[0], wide ++ [0]] ↔ wide.length + 1 ≤ before.chars.length := by
  have hpos := before.length_pos
  constructor
  · intro h
    have hcopy := h.written (wide ++ [0]) (List.mem_cons_of_mem _ List.mem_cons_self)
    rwa [List.length_append] at hcopy
  · intro h
    constructor
    · simpa using ⟨hpos, h⟩
    · rw [stored_two, hwide, List.take_of_length_le (by omega)]
      exact List.prefix_append _ _

/-- A copy with a limit has a terminator behind it when it is padded, or one follows. -/
theorem take_prefix_tcsncpy {wide : List WChar} {m : Nat} {c : WChar} :
    wide.take m ++ [0] <+: tcsncpy wide m ++ [c] ↔ wide.length < m ∨ c = 0 := by
  rw [tcsncpy, List.append_assoc, List.prefix_append_right_inj]
  by_cases hlt : wide.length < m
  · obtain ⟨k, hk⟩ : ∃ k, m - wide.length = k + 1 := ⟨m - wide.length - 1, by omega⟩
    rw [hk, List.replicate_succ, List.cons_append, List.cons_prefix_cons]
    simp [hlt]
  · rw [Nat.sub_eq_zero_of_le (by omega), List.replicate_zero, List.nil_append,
      List.cons_prefix_cons]
    simp [hlt, eq_comm]

/-- With the limit a value that does not leave room for two characters has the terminator the
buffer had at its end. -/
theorem held_tcsncpy (wide : List WChar) (hwide : cp.ansiToUnicode value = wide) :
    Held cp value before [[0], tcsncpy wide (before.chars.length - 1)] ↔
      wide.length + 2 ≤ before.chars.length ∨ before.chars.length = 1 ∨
        before.chars.getLast? = some 0 := by
  have hpos := before.length_pos
  have hwritten : ∀ copy ∈ [[0], tcsncpy wide (before.chars.length - 1)],
      copy.length ≤ before.chars.length := by
    intro copy hcopy
    rcases List.mem_cons.mp hcopy with rfl | hcopy
    · exact hpos
    · rw [List.mem_singleton.mp hcopy, length_tcsncpy]
      omega
  have hheld : Held cp value before [[0], tcsncpy wide (before.chars.length - 1)] ↔
      wide.take (before.chars.length - 1) ++ [0] <+:
        stored [[0], tcsncpy wide (before.chars.length - 1)] before.chars := by
    rw [← hwide]
    exact ⟨fun h => h.held, fun h => ⟨hwide ▸ hwritten, h⟩⟩
  rw [hheld, stored_two, length_tcsncpy]
  obtain ⟨init, last, hchars⟩ :=
    (List.eq_nil_or_concat before.chars).resolve_left before.nonempty
  rw [List.concat_eq_append] at hchars
  rw [hchars, List.length_append, List.length_singleton, Nat.add_sub_cancel]
  cases init with
  | nil =>
    rw [List.nil_append, List.length_nil]
    refine iff_of_true ?_ (Or.inr (Or.inl rfl))
    exact take_prefix_tcsncpy.mpr (Or.inr rfl)
  | cons first rest =>
    have hdrop : (0 :: (first :: rest ++ [last]).drop 1).drop (first :: rest).length = [last] := by
      simp
    have hlong : ¬ rest.length + 1 + 1 = 1 := by omega
    rw [hdrop, take_prefix_tcsncpy, List.getLast?_concat, List.length_cons, Option.some.injEq,
      or_iff_right hlong]
    exact or_congr (by omega) Iff.rfl

/-- **What is left in the buffer.** -/
theorem held_iff : Held cp value before (copyValue cp value before.chars.length) ↔
    Fits cp value before := by
  unfold copyValue Fits
  dsimp only
  split
  next hlong =>
    have hnot : ¬ (cStr value).length ≤ before.chars.length := Nat.not_le_of_lt hlong
    rw [held_tcscpy _ rfl, or_iff_left fun h => hnot h.1, and_iff_right hlong]
  next hshort =>
    rw [held_tcsncpy _ rfl]
    constructor
    · intro h
      exact Or.inr ⟨Nat.le_of_not_lt hshort, h⟩
    · rintro (h | h)
      · exact absurd h.1 hshort
      · exact h.2

end

/-! ## The offset -/

theorem find_le {strData strSub : CStr} {nPos : Nat} (h : find strData strSub = some nPos) :
    nPos + strSub.length ≤ strData.length := by
  obtain ⟨p, hp, rfl⟩ := Option.map_eq_some_iff.mp h
  have htext := congrArg List.length (breakOn_eq_some (l := p.1) (r := p.2) hp)
  simp only [List.length_append] at htext
  omega

/-- The fourth character behind the beginning of the key is inside the text. -/
def OffsetInside (pXml pKey : CStr) : Prop :=
  ∀ nPos, find (cStr pXml) pKey = some nPos → nPos + 4 ≤ (cStr pXml).length

theorem offsetInside_of_none {pXml pKey : CStr} (h : find (cStr pXml) pKey = none) :
    OffsetInside pXml pKey := by
  intro nPos hfind
  rw [h] at hfind
  cases hfind

section

variable {cp : CodePage} {pXml pKey : CStr} {before : Buffer}

/-- The value between the marks, behind the key. -/
def elementValue (pXml pKey pElementL elementR : CStr) : CStr :=
  match find (cStr pXml) pKey with
  | none => []
  | some nPos => getStringBetween ((cStr pXml).drop nPos) pElementL elementR false

theorem bounded_offset_iff {value : CStr} {nPos : Nat} {copies : List (List WChar)}
    (hfind : find (cStr pXml) pKey = some nPos) :
    Bounded cp pXml value before ⟨nPos + 4, copies⟩ ↔
      Held cp value before copies ∧ OffsetInside pXml pKey := by
  have hoffset : OffsetInside pXml pKey ↔ nPos + 4 ≤ (cStr pXml).length := by
    simp [OffsetInside, hfind]
  rw [hoffset]
  constructor
  · intro h
    have hinside := h.inside (Int.natCast_nonneg (nPos + 4))
    exact ⟨h.held, Int.ofNat_le.mp hinside⟩
  · rintro ⟨hheld, hinside⟩
    exact ⟨hheld, fun _ => Int.ofNat_le.mpr hinside⟩

theorem bounded_negative {ret : Int} (h : ret < 0) : Bounded cp pXml [] before ⟨ret, [[0]]⟩ :=
  ⟨held_nil, fun hret => absurd h (Int.not_lt.mpr hret)⟩

theorem extractXML_bounded_iff {pElementL elementR : CStr} :
    Bounded cp pXml (elementValue pXml pKey pElementL elementR) before
        (extractXML cp pXml pKey pElementL elementR before.chars.length) ↔
      Fits cp (elementValue pXml pKey pElementL elementR) before ∧ OffsetInside pXml pKey := by
  unfold extractXML elementValue
  dsimp only
  cases hfind : find (cStr pXml) pKey with
  | none =>
    exact iff_of_true (bounded_negative (by decide)) ⟨fits_nil, offsetInside_of_none hfind⟩
  | some nPos =>
    dsimp only
    split
    next hempty => rw [bounded_offset_iff hfind, hempty, iff_true_intro held_nil,
      iff_true_intro fits_nil]
    next hvalue => rw [bounded_offset_iff hfind, held_iff]

/-- The text behind the key, up to the bracket. -/
def attributeValue (pXml pKey : CStr) : CStr :=
  match find (cStr pXml) pKey with
  | none => []
  | some nPos => attributeText ((cStr pXml).drop nPos)

theorem extractAttribute_bounded_iff :
    Bounded cp pXml (attributeValue pXml pKey) before
        (extractAttribute cp pXml pKey before.chars.length) ↔
      Fits cp (attributeValue pXml pKey) before ∧ OffsetInside pXml pKey := by
  unfold extractAttribute attributeValue
  dsimp only
  cases hfind : find (cStr pXml) pKey with
  | none =>
    exact iff_of_true (bounded_negative (by decide)) ⟨fits_nil, offsetInside_of_none hfind⟩
  | some nPos =>
    dsimp only
    rw [bounded_offset_iff hfind, held_iff]

/-- The ID of the first device of the text. -/
def deviceIDValue (pXml : CStr) : CStr :=
  getStringBetween (cStr pXml) (str "<DeviceID>") (str "</DeviceID>") false

theorem extractDeviceID_bounded_iff :
    Bounded cp pXml (deviceIDValue pXml) before
        (extractDeviceID cp pXml before.chars.length) ↔
      Fits cp (deviceIDValue pXml) before := by
  unfold extractDeviceID
  dsimp only
  rw [show getStringBetween (cStr pXml) (str "<DeviceID>") (str "</DeviceID>") false =
    deviceIDValue pXml from rfl]
  split
  next hempty =>
    rw [hempty]
    exact iff_of_true (bounded_negative (by decide)) fits_nil
  next hvalue =>
    cases hfind : find (cStr pXml) (str "</DeviceID>") with
    | none =>
      -- a value stands between both marks
      refine absurd ?_ hvalue
      unfold deviceIDValue getStringBetween
      rw [hfind]
      split <;> simp_all
    | some nPos =>
      dsimp only
      rw [← held_iff]
      constructor
      · intro h
        exact h.held
      · intro h
        exact ⟨h, fun _ => Int.ofNat_le.mpr (find_le hfind)⟩

end

/-- **Each extraction is bounded exactly when its value fits the buffer and the offset is inside
the text.** -/
theorem extraction_bounded_iff (cp : CodePage) (pXml pKey pElementL elementR : CStr)
    (before : Buffer) :
    (Bounded cp pXml (elementValue pXml pKey pElementL elementR) before
        (extractXML cp pXml pKey pElementL elementR before.chars.length) ↔
      Fits cp (elementValue pXml pKey pElementL elementR) before ∧ OffsetInside pXml pKey) ∧
    (Bounded cp pXml (attributeValue pXml pKey) before
        (extractAttribute cp pXml pKey before.chars.length) ↔
      Fits cp (attributeValue pXml pKey) before ∧ OffsetInside pXml pKey) ∧
    (Bounded cp pXml (deviceIDValue pXml) before
        (extractDeviceID cp pXml before.chars.length) ↔
      Fits cp (deviceIDValue pXml) before) :=
  ⟨extractXML_bounded_iff, extractAttribute_bounded_iff, extractDeviceID_bounded_iff⟩

/-- A code page in which every byte is the character of that number. -/
def latinPage : CodePage where
  multiByteToWideChar s := s.map fun c => c.toUInt16
  wideCharToMultiByte w := w.map fun c => c.toUInt8
  empty := rfl
  empty_wide := rfl

/-- Four characters are copied without a limit into a buffer of three. -/
theorem long_value_overruns : ¬ ∀ (cp : CodePage) (pXml pKey pElementL elementR : CStr)
    (before : Buffer), Bounded cp pXml (elementValue pXml pKey pElementL elementR) before
      (extractXML cp pXml pKey pElementL elementR before.chars.length) := by
  intro h
  have hbounded := h latinPage (str "<Item><ID>1234</ID>") (str "<Item>") (str "<ID>")
    (str "</ID>") ⟨[1, 1, 1], by decide⟩
  have hcopy := hbounded.held.written [0x31, 0x32, 0x33, 0x34, 0] (by decide)
  exact absurd hcopy (by decide)

end GB28181.Lib.ExternalInterface
