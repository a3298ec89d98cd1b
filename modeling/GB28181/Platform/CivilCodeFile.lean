import GB28181.Base.DecimalNumber
import GB28181.Base.TextFile
import GB28181.Platform.CivilCode

/-!
# The file of the divisions (`DevInfo/CivilCode.cpp`)

The file holds a record of 132 characters for every division: its code of 8 characters, the name,
the longitude and the latitude.  `WriteInfo` looks for the record of a code and writes over it, or
writes a new record at the end.

* `writeInfo_found`, `writeInfo_appends` — what `WriteInfo` leaves of a file of records;
* `readPlaceInfo_records` — what `ReadPlaceInfo` reads from it;
* `writeInfo_updates_iff` — the file is updated, and nothing else in it, **exactly when the code,
  cut to the length it was given with, is met first at its own record, and the coordinates are not
  changed by the zeros behind them**.
-/

set_option autoImplicit false

namespace GB28181.Platform

open GB28181.Base

/-! ## Writing -/

/-- `strData.Find(",")`. -/
def findComma (strData : CStr) : Int := ((strData.idxOf? 0x2c).map Int.ofNat).getD (-1)

/-- The code of a record is compared in the length of `pszCode`, filled up with zeros. -/
def codeMatches (pszCode strCurCode : CStr) : Bool :=
  formatLength (trimRightSpace strCurCode) 0x30 pszCode.length = pszCode

/-- How the loop of `WriteInfo` ends, with what was read last and the rest of the file. -/
inductive Search where
  | found (strData rest : CStr)
  | malformed (strData rest : CStr)
  | ended (strData : CStr)

/-- The loop of `WriteInfo`, with a bound on its turns. -/
def searchCode (pszCode : CStr) : Nat → CStr → CStr → Search
  | 0, strData, _ => .ended strData
  | fuel + 1, strData, rest =>
    match readText 132 rest with
    | none => .ended strData
    | some (szData, rest) =>
      let strData := cStr szData
      let nPos := findComma strData
      if 8 > nPos then .malformed strData rest
      else if codeMatches pszCode (strData.take nPos.toNat) then .found strData rest
      else searchCode pszCode fuel strData rest

/-- `strOutput`. -/
def outputRecord (pszCode : CStr) (pszPlaceName pszLongitude pszLatitude : Option CStr) : CStr :=
  pszCode ++ List.replicate (8 - pszCode.length) 0x30 ++ [0x2c] ++
    (formatLength (pszPlaceName.getD []) 0x20 100 ++ [0x2c]) ++
    (formatLength (pszLongitude.getD []) 0x30 10 ++ [0x2c]) ++
    formatLength (pszLatitude.getD []) 0x30 10 ++ [0x0a]

/-- A record written at the end of a file: a line end is added where the one before was read
without it. -/
def appendedRecord (strData strOutput : CStr) : CStr :=
  if 131 = strData.length then 0x0a :: strOutput else strOutput

/-- `WriteInfo` on the file it opened: what it returns and the file it leaves.  A read without a
seek before the write is followed by it in place. -/
def writeInfoIn (file pszCode : CStr) (pszPlaceName pszLongitude pszLatitude : Option CStr) :
    Int × CStr :=
  let strOutput := outputRecord pszCode pszPlaceName pszLongitude pszLatitude
  match searchCode pszCode (file.length + 1) [] file with
  | .found strData rest =>
    let pos := file.length - rest.length
    let nBack := strData.length + 1
    -- a seek before the beginning of the file fails
    (0, writeAt file (if nBack ≤ pos then pos - nBack else pos) (textBytes strOutput))
  | .malformed strData rest =>
    (-1, writeAt file (file.length - rest.length) (textBytes (appendedRecord strData strOutput)))
  | .ended strData => (0, file ++ textBytes (appendedRecord strData strOutput))

/-- `WriteInfo`; a file that cannot be opened is closed all the same. -/
def writeInfo (file : Option CStr) (pszCode : CStr)
    (pszPlaceName pszLongitude pszLatitude : Option CStr) : Option (Int × CStr) :=
  file.map fun file => writeInfoIn file pszCode pszPlaceName pszLongitude pszLatitude

/-! ## Reading -/

/-- What `ReadPlaceInfo` reads behind the code of its record, and whether it got to the end. -/
def readFields (strData : CStr) (tPlaceInfo : PlaceInfo) : PlaceInfo × Bool :=
  let nPos := findComma strData
  if 2 > nPos then (tPlaceInfo, false)
  else
    let tPlaceInfo :=
      { tPlaceInfo with strName := trimRightSpace (strData.take nPos.toNat) }
    let strData := strData.drop (nPos.toNat + 1)
    let strData := if strData.head? = some 0x22 then strData.tail else strData
    let strData := if strData.getLast? = some 0x22 then strData.dropLast else strData
    let nPos := findComma strData
    if 2 > nPos then (tPlaceInfo, false)
    else
      ({ tPlaceInfo with
          strLongitude := strData.take nPos.toNat
          strLatitude := strData.drop (nPos.toNat + 1) }, true)

/-- The loop of `ReadPlaceInfo`, with a bound on its turns. -/
def readCode (strReadCode : CStr) : Nat → CStr → PlaceInfo → PlaceInfo × Bool
  | 0, _, tPlaceInfo => (tPlaceInfo, false)
  | fuel + 1, rest, tPlaceInfo =>
    match readText 132 rest with
    | none => (tPlaceInfo, false)
    | some (szData, rest) =>
      let strData := cStr szData
      if 8 ≠ findComma strData then (tPlaceInfo, false)
      else if strData.take 8 ≠ strReadCode then readCode strReadCode fuel rest tPlaceInfo
      else
        match readFields (strData.drop 9) tPlaceInfo with
        | (tPlaceInfo, true) => (tPlaceInfo, true)
        | (tPlaceInfo, false) => readCode strReadCode fuel rest tPlaceInfo

/-- `ReadPlaceInfo`: what it leaves in `tPlaceInfo`; a place read to the end is added. -/
def readPlaceInfo (c : CCivilCode) (file : Option CStr) (pszCode : CStr)
    (tPlaceInfo : PlaceInfo) : PlaceInfo × CCivilCode :=
  let strReadCode := formatLength pszCode 0x30 8
  match file with
  | none => (tPlaceInfo, c)
  | some file =>
    match readCode strReadCode (file.length + 1) file tPlaceInfo with
    | (tPlaceInfo, true) =>
      (tPlaceInfo, (addPlaceInfo c (some strReadCode) (some tPlaceInfo)).2)
    | (tPlaceInfo, false) => (tPlaceInfo, c)

/-! ## Records -/

/-- A character of a line: neither its end nor that of the text or of the file. -/
def IsLineChar (c : UInt8) : Prop := c ≠ 0 ∧ c ≠ 0x0a ∧ c ≠ 0x1a

instance (c : UInt8) : Decidable (IsLineChar c) := inferInstanceAs (Decidable (_ ∧ _))

/-- A record without its line end: the code ends with the first comma. -/
structure IsRecord (r : CStr) : Prop where
  length : r.length = 131
  chars : ∀ c ∈ r, IsLineChar c
  comma : r[8]? = some 0x2c
  code : 0x2c ∉ r.take 8

/-- A file of records with different codes. -/
structure DivisionFile where
  records : List CStr
  isRecord : ∀ r ∈ records, IsRecord r
  nodup : (records.map (·.take 8)).Nodup

def DivisionFile.bytes (f : DivisionFile) : CStr := linesFile f.records

/-- A code of digits, a name that fits its field, and two numbers. -/
structure EntryValid (pszCode pszPlaceName pszLongitude pszLatitude : CStr) : Prop where
  length_code : 2 ≤ pszCode.length ∧ pszCode.length ≤ 8
  digits : ∀ c ∈ pszCode, isDigit c = true
  length_name : pszPlaceName.length ≤ 100
  comma_name : 0x2c ∉ pszPlaceName
  blank_name : pszPlaceName.getLast? ≠ some 0x20
  length_longitude : pszLongitude.length ≤ 10
  number_longitude : IsNumber pszLongitude
  length_latitude : pszLatitude.length ≤ 10
  number_latitude : IsNumber pszLatitude

/-- The arguments of a call of `WriteInfo`. -/
structure DivisionEntry where
  pszCode : CStr
  pszPlaceName : CStr
  pszLongitude : CStr
  pszLatitude : CStr
  valid : EntryValid pszCode pszPlaceName pszLongitude pszLatitude

/-! ## What the functions see of a record -/

theorem findComma_split {a b : CStr} (ha : 0x2c ∉ a) : findComma (a ++ 0x2c :: b) = a.length := by
  have hidx : (a ++ 0x2c :: b).idxOf? 0x2c = some a.length := by
    induction a with
    | nil => rfl
    | cons c a ih =>
      obtain ⟨hc, ha⟩ := not_or.mp (fun h => ha (List.mem_cons.mpr h))
      rw [List.cons_append, List.idxOf?_cons, if_neg, ih ha]
      · rfl
      · exact fun h => hc (eq_of_beq h).symm
  rw [findComma, hidx]
  rfl

theorem drop_split (a b : CStr) : (a ++ 0x2c :: b).drop (a.length + 1) = b := by
  rw [← List.drop_drop, List.drop_left]
  rfl

theorem readFields_split {a b d : CStr} (ha : 0x2c ∉ a) (hlen : 2 ≤ a.length) (hb : 0x2c ∉ b)
    (hlen' : 2 ≤ b.length) (hfirst : b.head? ≠ some 0x22) (hlast : d.getLast? ≠ some 0x22)
    (t : PlaceInfo) :
    readFields (a ++ 0x2c :: (b ++ 0x2c :: d)) t =
      ({ strName := trimRightSpace a, strLongitude := b, strLatitude := d }, true) := by
  have hhead : (b ++ 0x2c :: d).head? ≠ some 0x22 := by
    rwa [List.head?_append_of_ne_nil _ (List.ne_nil_of_length_pos (by omega))]
  have hend : (b ++ 0x2c :: d).getLast? ≠ some 0x22 := by
    rw [List.getLast?_append, List.getLast?_cons]
    cases hd : d.getLast? with
    | none => simp
    | some c =>
      rw [hd] at hlast
      simpa using hlast
  unfold readFields
  rw [findComma_split ha, if_neg (by omega)]
  simp only [Int.toNat_natCast, drop_split, List.take_left]
  rw [if_neg hhead, if_neg hend, findComma_split hb, if_neg (by omega), Int.toNat_natCast,
    drop_split, List.take_left]

theorem cStr_line {t : CStr} (h : ∀ c ∈ t, c ≠ 0) : cStr (line t) = line t := by
  apply cStr_eq_self
  intro hmem
  rcases List.mem_append.mp hmem with hc | hc
  · exact h 0 hc rfl
  · exact absurd (List.mem_singleton.mp hc) (by decide)

namespace IsRecord

variable {r : CStr}

theorem split (h : IsRecord r) : r = r.take 8 ++ 0x2c :: r.drop 9 := by
  have hlt : 8 < r.length := by rw [h.length]; decide
  have hget : r[8] = 0x2c := by
    have := h.comma
    rwa [List.getElem?_eq_getElem hlt, Option.some.injEq] at this
  conv_lhs => rw [← List.take_append_drop 8 r, List.drop_eq_getElem_cons hlt, hget]

theorem length_code (h : IsRecord r) : (r.take 8).length = 8 := by
  rw [List.length_take, h.length]
  rfl

theorem findComma_line (h : IsRecord r) : findComma (line r) = 8 := by
  have hline : line r = r.take 8 ++ 0x2c :: (r.drop 9 ++ [0x0a]) := by
    conv_lhs => rw [line, h.split]
    rw [List.append_assoc, List.cons_append]
  rw [hline, findComma_split h.code, h.length_code]
  rfl

theorem take_line (h : IsRecord r) : (line r).take 8 = r.take 8 :=
  List.take_append_of_le_length (by rw [h.length]; decide)

theorem drop_line (h : IsRecord r) : (line r).drop 9 = line (r.drop 9) :=
  List.drop_append_of_le_length (by rw [h.length]; decide)

theorem cStr_line (h : IsRecord r) : cStr (line r) = line r :=
  Platform.cStr_line fun c hc => (h.chars c hc).1

theorem readText_line (h : IsRecord r) (rest : CStr) :
    readText 132 (textBytes (line r) ++ rest) = some (line r, rest) := by
  have hend : 0x1a ∉ r := fun hmem => (h.chars _ hmem).2.2 rfl
  have := Base.readText_line hend rest
  rwa [h.length] at this

end IsRecord

/-- The record is met by the search for a code. -/
def Meets (pszCode r : CStr) : Bool := codeMatches pszCode (r.take 8)

theorem searchCode_record {r : CStr} (h : IsRecord r) (pszCode strData rest : CStr) (fuel : Nat) :
    searchCode pszCode (fuel + 1) strData (textBytes (line r) ++ rest) =
      if Meets pszCode r then .found (line r) rest
      else searchCode pszCode fuel (line r) rest := by
  rw [searchCode, h.readText_line]
  dsimp only
  rw [h.cStr_line, h.findComma_line, if_neg (by decide)]
  rw [show (8 : Int).toNat = 8 from rfl, h.take_line, Meets]

theorem readCode_record {r : CStr} (h : IsRecord r) (code rest : CStr) (fuel : Nat)
    (t : PlaceInfo) :
    readCode code (fuel + 1) (textBytes (line r) ++ rest) t =
      if r.take 8 ≠ code then readCode code fuel rest t
      else
        match readFields (line (r.drop 9)) t with
        | (t, true) => (t, true)
        | (t, false) => readCode code fuel rest t := by
  rw [readCode, h.readText_line]
  dsimp only
  rw [h.cStr_line, h.findComma_line, if_neg (by decide), h.take_line, h.drop_line]

/-! ## The loops over a file of records -/

theorem searchCode_found {pszCode : CStr} {pre post : List CStr} {r : CStr}
    (hpre : ∀ x ∈ pre, IsRecord x ∧ Meets pszCode x = false) (hr : IsRecord r)
    (hmeets : Meets pszCode r = true) {fuel : Nat} (hfuel : pre.length < fuel) (strData : CStr) :
    searchCode pszCode fuel strData (linesFile (pre ++ r :: post)) =
      .found (line r) (linesFile post) := by
  induction pre generalizing fuel strData with
  | nil =>
    obtain ⟨fuel, rfl⟩ := Nat.exists_eq_succ_of_ne_zero (Nat.ne_of_gt hfuel)
    rw [List.nil_append, linesFile_cons, searchCode_record hr, if_pos hmeets]
  | cons x pre ih =>
    obtain ⟨fuel, rfl⟩ := Nat.exists_eq_succ_of_ne_zero (Nat.ne_of_gt (Nat.zero_lt_of_lt hfuel))
    obtain ⟨hx, hpre⟩ := List.forall_mem_cons.mp hpre
    rw [List.cons_append, linesFile_cons, searchCode_record hx.1, hx.2]
    rw [if_neg Bool.false_ne_true]
    exact ih hpre (Nat.lt_of_succ_lt_succ hfuel) (line x)

/-- The search that finds nothing ends at the end; what it read last has its line end. -/
theorem searchCode_ended {pszCode : CStr} {rs : List CStr}
    (hrs : ∀ x ∈ rs, IsRecord x ∧ Meets pszCode x = false) {fuel : Nat} (hfuel : rs.length < fuel)
    {strData : CStr} (hlast : 131 ≠ strData.length) :
    ∃ strData', searchCode pszCode fuel strData (linesFile rs) = .ended strData' ∧
      131 ≠ strData'.length := by
  induction rs generalizing fuel strData with
  | nil =>
    obtain ⟨fuel, rfl⟩ := Nat.exists_eq_succ_of_ne_zero (Nat.ne_of_gt hfuel)
    exact ⟨strData, rfl, hlast⟩
  | cons x rs ih =>
    obtain ⟨fuel, rfl⟩ := Nat.exists_eq_succ_of_ne_zero (Nat.ne_of_gt (Nat.zero_lt_of_lt hfuel))
    obtain ⟨hx, hrs⟩ := List.forall_mem_cons.mp hrs
    rw [linesFile_cons, searchCode_record hx.1, hx.2, if_neg Bool.false_ne_true]
    refine ih hrs (Nat.lt_of_succ_lt_succ hfuel) ?_
    rw [length_line, hx.1.length]
    decide

theorem readCode_none {code : CStr} {rs : List CStr}
    (hrs : ∀ x ∈ rs, IsRecord x ∧ x.take 8 ≠ code) (fuel : Nat) (t : PlaceInfo) :
    readCode code fuel (linesFile rs) t = (t, false) := by
  induction rs generalizing fuel with
  | nil => cases fuel <;> rfl
  | cons x rs ih =>
    obtain ⟨hx, hrs⟩ := List.forall_mem_cons.mp hrs
    cases fuel with
    | zero => rfl
    | succ fuel =>
      rw [linesFile_cons, readCode_record hx.1, if_pos hx.2]
      exact ih hrs fuel

/-- **What is read** from a file of records with different codes: the fields of the one record. -/
theorem readCode_records {code : CStr} {rs : List CStr} (hrs : ∀ x ∈ rs, IsRecord x)
    (hnodup : (rs.map (·.take 8)).Nodup) {fuel : Nat} (hfuel : rs.length < fuel) (t : PlaceInfo) :
    (readCode code fuel (linesFile rs) t).1 =
      match rs.find? (·.take 8 = code) with
      | none => t
      | some r => (readFields (line (r.drop 9)) t).1 := by
  induction rs generalizing fuel with
  | nil => cases fuel <;> rfl
  | cons x rs ih =>
    obtain ⟨fuel, rfl⟩ := Nat.exists_eq_succ_of_ne_zero (Nat.ne_of_gt (Nat.zero_lt_of_lt hfuel))
    obtain ⟨hx, hrs⟩ := List.forall_mem_cons.mp hrs
    rw [List.map_cons, List.nodup_cons] at hnodup
    rw [linesFile_cons, readCode_record hx, List.find?_cons]
    by_cases hcode : x.take 8 = code
    · rw [if_neg (not_not.mpr hcode), decide_eq_true hcode]
      dsimp only
      split
      · rename_i heq
        rw [heq]
      · rename_i heq
        rw [heq, readCode_none]
        intro y hy
        refine ⟨hrs y hy, fun he => hnodup.1 ?_⟩
        exact List.mem_map.mpr ⟨y, hy, he.trans hcode.symm⟩
    · rw [if_pos hcode, decide_eq_false hcode]
      exact ih hrs hnodup.2 (Nat.lt_of_succ_lt_succ hfuel)

theorem readPlaceInfo_records {rs : List CStr} (hrs : ∀ x ∈ rs, IsRecord x)
    (hnodup : (rs.map (·.take 8)).Nodup) (c : CCivilCode) (pszCode : CStr) (t : PlaceInfo) :
    (readPlaceInfo c (some (linesFile rs)) pszCode t).1 =
      match rs.find? (·.take 8 = formatLength pszCode 0x30 8) with
      | none => t
      | some r => (readFields (line (r.drop 9)) t).1 := by
  rw [← readCode_records hrs hnodup (Nat.lt_succ_of_le (length_le_linesFile rs)) t]
  unfold readPlaceInfo
  dsimp only
  split <;> (rename_i heq; rw [heq])

/-! ## The record that is written -/

/-- The record of an entry, without its line end. -/
def DivisionEntry.record (e : DivisionEntry) : CStr :=
  formatLength e.pszCode 0x30 8 ++ 0x2c :: (formatLength e.pszPlaceName 0x20 100 ++
    0x2c :: (formatLength e.pszLongitude 0x30 10 ++
      0x2c :: formatLength e.pszLatitude 0x30 10))

theorem mem_formatLength {s : CStr} {cCharset c : UInt8} {n : Nat}
    (h : c ∈ formatLength s cCharset n) : c ∈ s ∨ c = cCharset := by
  unfold formatLength at h
  split at h
  · exact (List.mem_append.mp h).imp_right List.eq_of_mem_replicate
  split at h
  · exact Or.inl (List.mem_of_mem_take h)
  · exact Or.inl h

theorem subset_formatLength {s : CStr} {n : Nat} (h : s.length ≤ n) (cCharset : UInt8) :
    s ⊆ formatLength s cCharset n := by
  rw [formatLength_of_le h]
  exact List.subset_append_left s _

theorem isLineChar_of_isDigit {c : UInt8} (h : isDigit c = true) : IsLineChar c ∧ c ≠ 0x2c := by
  refine ⟨⟨?_, ?_, ?_⟩, ?_⟩ <;>
  · rintro rfl
    exact absurd h (by decide)

theorem mem_coordinate {s : CStr} (hs : IsNumber s) {c : UInt8} (hc : c ∈ formatLength s 0x30 10) :
    IsLineChar c ∧ c ≠ 0x2c ∧ c ≠ 0x22 := by
  rcases mem_formatLength hc with hc | rfl
  · rcases mem_of_isNumber hs hc with hc | rfl | rfl | rfl
    · refine ⟨(isLineChar_of_isDigit hc).1, (isLineChar_of_isDigit hc).2, ?_⟩
      rintro rfl
      exact absurd hc (by decide)
    all_goals decide
  · decide

namespace DivisionEntry

variable (e : DivisionEntry)

theorem outputRecord_eq :
    outputRecord e.pszCode (some e.pszPlaceName) (some e.pszLongitude) (some e.pszLatitude) =
      line e.record := by
  unfold outputRecord DivisionEntry.record line
  rw [formatLength_of_le e.valid.length_code.2]
  simp only [Option.getD_some, List.append_assoc, List.cons_append, List.nil_append]

theorem length_record : e.record.length = 131 := by
  unfold DivisionEntry.record
  simp only [List.length_append, List.length_cons, length_formatLength]

theorem take_record : e.record.take 8 = formatLength e.pszCode 0x30 8 := by
  have := length_formatLength e.pszCode 0x30 8
  unfold DivisionEntry.record
  exact List.take_left' this

theorem drop_record :
    e.record.drop 9 = formatLength e.pszPlaceName 0x20 100 ++
      0x2c :: (formatLength e.pszLongitude 0x30 10 ++
        0x2c :: formatLength e.pszLatitude 0x30 10) := by
  have hdrop := drop_split (formatLength e.pszCode 0x30 8)
    (formatLength e.pszPlaceName 0x20 100 ++ 0x2c ::
      (formatLength e.pszLongitude 0x30 10 ++ 0x2c :: formatLength e.pszLatitude 0x30 10))
  rwa [length_formatLength] at hdrop

theorem isDigit_code {c : UInt8} (hc : c ∈ formatLength e.pszCode 0x30 8) : isDigit c = true := by
  rcases mem_formatLength hc with hc | rfl
  · exact e.valid.digits c hc
  · decide

/-- **What is written is a record** when no character of the name ends the line. -/
theorem isRecord_record_iff : IsRecord e.record ↔ ∀ c ∈ e.pszPlaceName, IsLineChar c := by
  constructor
  · intro h c hc
    refine h.chars c ?_
    have hname := subset_formatLength e.valid.length_name 0x20 hc
    unfold DivisionEntry.record
    exact List.mem_append_right _ (List.mem_cons_of_mem _ (List.mem_append_left _ hname))
  · intro h
    refine ⟨e.length_record, fun c hc => ?_, ?_, ?_⟩
    · simp only [DivisionEntry.record, List.mem_append, List.mem_cons] at hc
      rcases hc with hc | rfl | hc | rfl | hc | rfl | hc
      · exact (isLineChar_of_isDigit (e.isDigit_code hc)).1
      · decide
      · rcases mem_formatLength hc with hc | rfl
        · exact h c hc
        · decide
      · decide
      · exact (mem_coordinate e.valid.number_longitude hc).1
      · decide
      · exact (mem_coordinate e.valid.number_latitude hc).1
    · have hlen := length_formatLength e.pszCode 0x30 8
      unfold DivisionEntry.record
      rw [List.getElem?_append_right hlen.le, hlen]
      rfl
    · rw [e.take_record]
      intro hc
      exact absurd (e.isDigit_code hc) (by decide)

/-- The blanks behind a name are cut off again, with what else is white space. -/
theorem trimRightSpace_name :
    trimRightSpace (formatLength e.pszPlaceName 0x20 100) = trimRightSpace e.pszPlaceName := by
  rw [formatLength_of_le e.valid.length_name, trimRightSpace, trimRightSpace, List.rdropWhile,
    List.reverse_append, List.dropWhile_append_of_pos]
  · rfl
  · intro c hc
    rw [List.eq_of_mem_replicate (List.mem_reverse.mp hc)]
    decide

/-- **What is read of the record.**  The latitude is read with the line end. -/
theorem readFields_record (t : PlaceInfo) :
    readFields (line (e.record.drop 9)) t =
      ({ strName := trimRightSpace e.pszPlaceName
         strLongitude := formatLength e.pszLongitude 0x30 10
         strLatitude := formatLength e.pszLatitude 0x30 10 ++ [0x0a] }, true) := by
  have hname : 0x2c ∉ formatLength e.pszPlaceName 0x20 100 := fun hc =>
    (mem_formatLength hc).elim e.valid.comma_name (by decide)
  have hlongitude : ∀ c ∈ formatLength e.pszLongitude 0x30 10, c ≠ 0x2c ∧ c ≠ 0x22 := fun c hc =>
    (mem_coordinate e.valid.number_longitude hc).2
  have hlen := length_formatLength e.pszLongitude 0x30 10
  have hlen' := length_formatLength e.pszPlaceName 0x20 100
  rw [line, e.drop_record, List.append_assoc, List.cons_append, List.append_assoc,
    List.cons_append, readFields_split hname (by rw [hlen']; decide)
      (fun hc => (hlongitude _ hc).1 rfl) (by rw [hlen]; decide) ?_ ?_, e.trimRightSpace_name]
  · intro hc
    exact (hlongitude _ (List.mem_of_head? hc)).2 rfl
  · rw [List.getLast?_concat]
    decide

end DivisionEntry

/-! ## The file afterwards -/

theorem length_textBytes_record {r : CStr} (h : IsRecord r) :
    (textBytes (line r)).length = 133 := by
  rw [length_textBytes_line fun c hc => (h.chars c hc).2.1, h.length]

theorem writeInfo_found (e : DivisionEntry) {pre post : List CStr} {r : CStr}
    (hpre : ∀ x ∈ pre, IsRecord x ∧ Meets e.pszCode x = false) (hr : IsRecord r)
    (hmeets : Meets e.pszCode r = true) :
    writeInfoIn (linesFile (pre ++ r :: post)) e.pszCode (some e.pszPlaceName)
        (some e.pszLongitude) (some e.pszLatitude) =
      (0, writeAt (linesFile pre ++ (textBytes (line r) ++ linesFile post)) (linesFile pre).length
        (textBytes (line e.record))) := by
  have hfuel := Nat.lt_succ_of_le (length_le_linesFile (pre ++ r :: post))
  rw [List.length_append] at hfuel
  have hfound := @searchCode_found e.pszCode pre post r hpre hr hmeets
    ((linesFile (pre ++ r :: post)).length + 1) (by omega) []
  unfold writeInfoIn
  rw [hfound]
  dsimp only
  rw [e.outputRecord_eq]
  have hbytes := length_textBytes_record hr
  have hfile : linesFile (pre ++ r :: post) =
      linesFile pre ++ (textBytes (line r) ++ linesFile post) := by
    rw [linesFile_append, linesFile_cons]
  have hlen : (linesFile (pre ++ r :: post)).length - (linesFile post).length =
      (linesFile pre).length + 133 := by
    rw [hfile, List.length_append, List.length_append, hbytes]
    omega
  rw [hlen, length_line, hr.length, if_pos (by omega), hfile,
    show (linesFile pre).length + 133 - (131 + 1 + 1) = (linesFile pre).length by omega]

theorem writeInfo_appends (e : DivisionEntry) {rs : List CStr}
    (hrs : ∀ x ∈ rs, IsRecord x ∧ Meets e.pszCode x = false) :
    writeInfoIn (linesFile rs) e.pszCode (some e.pszPlaceName) (some e.pszLongitude)
        (some e.pszLatitude) =
      (0, linesFile rs ++ textBytes (line e.record)) := by
  obtain ⟨strData, hended, hlast⟩ := searchCode_ended hrs
    (Nat.lt_succ_of_le (length_le_linesFile rs)) (show 131 ≠ ([] : CStr).length by decide)
  unfold writeInfoIn
  rw [hended]
  dsimp only
  rw [appendedRecord, if_neg hlast, e.outputRecord_eq]

theorem meets_own (e : DivisionEntry) {r : CStr} (hr : r.take 8 = formatLength e.pszCode 0x30 8) :
    Meets e.pszCode r = true := by
  have htrim : trimRightSpace (formatLength e.pszCode 0x30 8) = formatLength e.pszCode 0x30 8 := by
    rw [trimRightSpace, List.rdropWhile_eq_self_iff]
    intro hne hspace
    obtain ⟨d, hd, hc⟩ := digitByte_of_isDigit (e.isDigit_code (List.getLast_mem hne))
    have hdigit : ∀ d < 10, isSpace (digitByte d) ≠ true := by decide
    rw [hc] at hspace
    exact hdigit d hd hspace
  have hlen := e.valid.length_code.2
  rw [Meets, codeMatches, hr, htrim, formatLength_of_le hlen]
  refine decide_eq_true ?_
  unfold formatLength
  rw [if_neg (by rw [List.length_append]; omega)]
  split
  · exact List.take_left
  · rename_i hnot
    have hzero : 8 - e.pszCode.length = 0 := by
      rw [List.length_append, List.length_replicate] at hnot
      omega
    rw [hzero, List.replicate_zero, List.append_nil]

/-- **What `WriteInfo` does to a file of records**: the entry comes in the place of the first record
it meets, or at the end. -/
theorem writeInfo_records (f : DivisionFile) (e : DivisionEntry) :
    ∃ pre post rest, f.records = pre ++ (f.records.find? (Meets e.pszCode)).toList ++ post ∧
      writeInfoIn f.bytes e.pszCode (some e.pszPlaceName) (some e.pszLongitude)
          (some e.pszLatitude) =
        (0, linesFile pre ++ (textBytes (line e.record) ++ rest)) ∧
      (IsRecord e.record → rest = linesFile post) := by
  cases hfind : f.records.find? (Meets e.pszCode) with
  | none =>
    have hrs : ∀ x ∈ f.records, IsRecord x ∧ Meets e.pszCode x = false := fun x hx =>
      ⟨f.isRecord x hx, by simpa using List.find?_eq_none.mp hfind x hx⟩
    refine ⟨f.records, [], [], by simp, ?_, fun _ => rfl⟩
    rw [DivisionFile.bytes, writeInfo_appends e hrs, List.append_nil]
  | some r =>
    obtain ⟨hmeets, pre, post, hsplit, hpre⟩ := List.find?_eq_some_iff_append.mp hfind
    have hmem : ∀ x ∈ pre ++ r :: post, IsRecord x := fun x hx => f.isRecord x (hsplit ▸ hx)
    have hrs : ∀ x ∈ pre, IsRecord x ∧ Meets e.pszCode x = false := fun x hx =>
      ⟨hmem x (List.mem_append_left _ hx), by simpa using hpre x hx⟩
    have hr := hmem r (List.mem_append_right _ List.mem_cons_self)
    refine ⟨pre, post, (textBytes (line r) ++ linesFile post).drop
      (textBytes (line e.record)).length, by simp [hsplit], ?_, fun hx => ?_⟩
    · rw [DivisionFile.bytes, hsplit, writeInfo_found e hrs hr hmeets, writeAt_append]
    · rw [length_textBytes_record hx, ← length_textBytes_record hr, List.drop_left]

/-! ## When the file is updated -/

/-- A coordinate that keeps its value with zeros behind it. -/
def KeepsNumber (s : CStr) : Prop := s.length = 10 ∨ 0x2e ∈ s ∨ numberOf s = 0

/-- A record whose name is too short to be read. -/
def Nameless (r : CStr) : Prop := findComma (line (r.drop 9)) < 2

/-- The entry fits the file: nothing in its name ends the line or is cut off, its coordinates keep
their values, and the first record it meets is its own, or one that nobody can read. -/
structure EntryFits (f : DivisionFile) (e : DivisionEntry) : Prop where
  chars : ∀ c ∈ e.pszPlaceName, IsLineChar c
  name : trimRightSpace e.pszPlaceName = e.pszPlaceName
  longitude : KeepsNumber e.pszLongitude
  latitude : KeepsNumber e.pszLatitude
  met : ∀ r, f.records.find? (Meets e.pszCode) = some r →
    r.take 8 = formatLength e.pszCode 0x30 8 ∨
      Nameless r ∧ ∀ r' ∈ f.records, r'.take 8 ≠ formatLength e.pszCode 0x30 8

/-- The file is one of records again, the entry is read from it, and what is read for other codes
is what was read before. -/
structure Updated (f : DivisionFile) (e : DivisionEntry) (file : CStr) : Prop where
  isFile : ∃ f' : DivisionFile, file = f'.bytes
  name : ∀ c t, (readPlaceInfo c (some file) e.pszCode t).1.strName = e.pszPlaceName
  longitude : ∀ c t, numberOf (readPlaceInfo c (some file) e.pszCode t).1.strLongitude =
    numberOf e.pszLongitude
  latitude : ∀ c t, numberOf (readPlaceInfo c (some file) e.pszCode t).1.strLatitude =
    numberOf e.pszLatitude
  others : ∀ pszCode, formatLength pszCode 0x30 8 ≠ formatLength e.pszCode 0x30 8 →
    ∀ c t, (readPlaceInfo c (some file) pszCode t).1 =
      (readPlaceInfo c (some f.bytes) pszCode t).1

theorem numberOf_formatLength_iff {s tail : CStr} (hs : IsNumber s) (hlen : s.length ≤ 10)
    (htail : ∀ c ∈ tail.head?, isDigit c = false ∧ c ≠ 0x2e) :
    numberOf (formatLength s 0x30 10 ++ tail) = numberOf s ↔ KeepsNumber s := by
  rw [formatLength_of_le hlen, List.append_assoc, numberOf_zeros_iff hs _ htail, KeepsNumber]
  exact or_congr_left ⟨fun h => by omega, fun h => by omega⟩

theorem nameless_iff (r : CStr) :
    (∀ t, (readFields (line (r.drop 9)) t).1 = t) ↔ Nameless r := by
  unfold Nameless
  generalize line (r.drop 9) = strData
  constructor
  · intro h
    by_contra hlong
    let name := trimRightSpace (strData.take (findComma strData).toNat)
    have hname : (readFields strData { strName := name ++ [0x41] }).1.strName = name := by
      unfold readFields
      rw [if_neg hlong]
      dsimp only
      rw [apply_ite Prod.fst, apply_ite PlaceInfo.strName, ite_self]
    rw [h] at hname
    have hlonger : name ++ [0x41] = name := hname
    exact List.cons_ne_nil _ _ (List.append_right_eq_self.mp hlonger)
  · intro h t
    unfold readFields
    rw [if_pos h]

theorem find?_code_insert {pre post : List CStr} {x q : CStr} (hq : x.take 8 ≠ q) :
    (pre ++ x :: post).find? (·.take 8 = q) = (pre ++ post).find? (·.take 8 = q) := by
  rw [List.find?_append, List.find?_append, List.find?_cons_of_neg (by simpa using hq)]

theorem find?_code_own {pre post : List CStr} {x : CStr} (h : ∀ y ∈ pre, y.take 8 ≠ x.take 8) :
    (pre ++ x :: post).find? (·.take 8 = x.take 8) = some x := by
  rw [List.find?_append, List.find?_eq_none.mpr (by simpa using h), Option.none_or,
    List.find?_cons_of_pos (by simp)]

theorem nodup_codes_middle {pre post : List CStr} {x : CStr} :
    ((pre ++ x :: post).map (·.take 8)).Nodup ↔
      (∀ y ∈ pre ++ post, y.take 8 ≠ x.take 8) ∧ ((pre ++ post).map (·.take 8)).Nodup := by
  rw [List.map_append, List.map_cons, List.nodup_middle, List.nodup_cons, ← List.map_append,
    List.mem_map]
  push Not
  rfl

/-- What is read for the code of the entry from records with the entry among them. -/
theorem readPlaceInfo_entry (e : DivisionEntry) {pre post : List CStr}
    (hrs : ∀ x ∈ pre ++ e.record :: post, IsRecord x)
    (hnodup : ((pre ++ e.record :: post).map (·.take 8)).Nodup) (c : CCivilCode) (t : PlaceInfo) :
    (readPlaceInfo c (some (linesFile (pre ++ e.record :: post))) e.pszCode t).1 =
      { strName := trimRightSpace e.pszPlaceName
        strLongitude := formatLength e.pszLongitude 0x30 10
        strLatitude := formatLength e.pszLatitude 0x30 10 ++ [0x0a] } := by
  have hpre : ∀ y ∈ pre, y.take 8 ≠ e.record.take 8 := fun y hy =>
    (nodup_codes_middle.mp hnodup).1 y (List.mem_append_left _ hy)
  rw [readPlaceInfo_records hrs hnodup, ← e.take_record, find?_code_own hpre]
  dsimp only
  rw [e.readFields_record]

/-- A record that is written over is read as it was for no code exactly when it has no name. -/
theorem find?_others_iff {pre post : List CStr} {r : CStr} {p : CStr}
    (hnodup : ((pre ++ r :: post).map (·.take 8)).Nodup) :
    (∀ q, q.length = 8 → q ≠ p → ∀ t,
      (match (pre ++ post).find? (·.take 8 = q) with
        | none => t
        | some r => (readFields (line (r.drop 9)) t).1) =
      (match (pre ++ r :: post).find? (·.take 8 = q) with
        | none => t
        | some r => (readFields (line (r.drop 9)) t).1)) ↔
    ((r.take 8).length = 8 → r.take 8 = p ∨ Nameless r) := by
  obtain ⟨hother, -⟩ := nodup_codes_middle.mp hnodup
  have hnone : (pre ++ post).find? (·.take 8 = r.take 8) = none :=
    List.find?_eq_none.mpr (by simpa using hother)
  have hown : (pre ++ r :: post).find? (·.take 8 = r.take 8) = some r :=
    find?_code_own fun y hy => hother y (List.mem_append_left _ hy)
  constructor
  · intro h hlen
    by_cases hp : r.take 8 = p
    · exact Or.inl hp
    · refine Or.inr ((nameless_iff r).mp fun t => ?_)
      have := h (r.take 8) hlen hp t
      rw [hnone, hown] at this
      exact this.symm
  · intro h q hlen hq t
    by_cases hr : r.take 8 = q
    · subst hr
      rw [hnone, hown]
      exact ((nameless_iff r).mpr ((h hlen).resolve_left hq) t).symm
    · rw [find?_code_insert hr]

section Split

variable {f : DivisionFile} {e : DivisionEntry} {pre post : List CStr} {met : Option CStr}

theorem sublist_of_split (hsplit : f.records = pre ++ met.toList ++ post) :
    (pre ++ post).Sublist f.records := by
  rw [hsplit]
  exact (List.sublist_append_left pre met.toList).append_right post

theorem isRecord_of_split (hsplit : f.records = pre ++ met.toList ++ post)
    (hx : IsRecord e.record) : ∀ x ∈ pre ++ e.record :: post, IsRecord x := by
  have hsub := sublist_of_split hsplit
  intro x hmem
  rcases List.mem_append.mp hmem with hmem | hmem
  · exact f.isRecord x (hsub.subset (List.mem_append_left _ hmem))
  · rcases List.mem_cons.mp hmem with rfl | hmem
    · exact hx
    · exact f.isRecord x (hsub.subset (List.mem_append_right _ hmem))

theorem nodup_codes_of_split (hsplit : f.records = pre ++ met.toList ++ post) :
    ((pre ++ e.record :: post).map (·.take 8)).Nodup ↔
      ∀ y ∈ pre ++ post, y.take 8 ≠ formatLength e.pszCode 0x30 8 := by
  have hsub := sublist_of_split hsplit
  rw [nodup_codes_middle, e.take_record]
  exact and_iff_left ((hsub.map _).nodup f.nodup)

theorem isFile_iff_of_split (hsplit : f.records = pre ++ met.toList ++ post)
    (hx : IsRecord e.record) :
    (∃ f' : DivisionFile, linesFile (pre ++ e.record :: post) = f'.bytes) ↔
      ∀ y ∈ pre ++ post, y.take 8 ≠ formatLength e.pszCode 0x30 8 := by
  have hrs := isRecord_of_split hsplit hx
  rw [← nodup_codes_of_split hsplit]
  constructor
  · rintro ⟨f', hf'⟩
    have hrecords : pre ++ e.record :: post = f'.records :=
      linesFile_inj (fun x hmem => (f'.isRecord x hmem).length)
        (fun x hmem => (hrs x hmem).length) hf'
    rw [hrecords]
    exact f'.nodup
  · intro hnodup
    exact ⟨⟨_, hrs, hnodup⟩, rfl⟩

theorem others_iff_of_split (hsplit : f.records = pre ++ met.toList ++ post)
    (hx : IsRecord e.record)
    (hother : ∀ y ∈ pre ++ post, y.take 8 ≠ formatLength e.pszCode 0x30 8) :
    (∀ pszCode, formatLength pszCode 0x30 8 ≠ formatLength e.pszCode 0x30 8 → ∀ c t,
      (readPlaceInfo c (some (linesFile (pre ++ e.record :: post))) pszCode t).1 =
        (readPlaceInfo c (some f.bytes) pszCode t).1) ↔
    ∀ r, met = some r → r.take 8 = formatLength e.pszCode 0x30 8 ∨ Nameless r := by
  simp only [readPlaceInfo_records (isRecord_of_split hsplit hx)
    ((nodup_codes_of_split hsplit).mpr hother), DivisionFile.bytes,
    readPlaceInfo_records f.isRecord f.nodup]
  have hentry : ∀ q, q ≠ formatLength e.pszCode 0x30 8 →
      (pre ++ e.record :: post).find? (·.take 8 = q) = (pre ++ post).find? (·.take 8 = q) :=
    fun q hq => find?_code_insert (by rw [e.take_record]; exact hq.symm)
  cases met with
  | none =>
    have hsame : f.records = pre ++ post := by rw [hsplit, Option.toList_none, List.append_nil]
    refine iff_of_true (fun pszCode hq _ t => ?_) (fun r hr => nomatch hr)
    rw [hentry _ hq, hsame]
  | some r =>
    have hmiddle : f.records = pre ++ r :: post := by
      rw [hsplit, Option.toList_some, List.append_assoc, List.singleton_append]
    have hr : IsRecord r :=
      f.isRecord r (hmiddle ▸ List.mem_append_right _ List.mem_cons_self)
    have hnodup := f.nodup
    rw [hmiddle] at hnodup
    have hiff := @find?_others_iff pre post r (formatLength e.pszCode 0x30 8) hnodup
    constructor
    · intro h r' hr'
      obtain rfl := Option.some.inj hr'
      refine hiff.mp (fun q hlen hq t => ?_) hr.length_code
      have := h q (by rwa [formatLength_of_length hlen]) {} t
      rwa [formatLength_of_length hlen, hentry q hq, hmiddle] at this
    · intro h pszCode hq _ t
      rw [hentry _ hq, hmiddle]
      exact hiff.mpr (fun _ => h r rfl) _ (length_formatLength _ _ _) hq t

/-- The file with the entry between the records that were there, or in the place of one. -/
theorem updated_iff_of_records (hsplit : f.records = pre ++ met.toList ++ post)
    (hx : IsRecord e.record) :
    Updated f e (linesFile (pre ++ e.record :: post)) ↔
      (∀ y ∈ pre ++ post, y.take 8 ≠ formatLength e.pszCode 0x30 8) ∧
      trimRightSpace e.pszPlaceName = e.pszPlaceName ∧ KeepsNumber e.pszLongitude ∧
      KeepsNumber e.pszLatitude ∧
      ∀ r, met = some r → r.take 8 = formatLength e.pszCode 0x30 8 ∨ Nameless r := by
  -- what is read of the entry, in a file of records
  have hread : (∀ y ∈ pre ++ post, y.take 8 ≠ formatLength e.pszCode 0x30 8) → ∀ c t,
      (readPlaceInfo c (some (linesFile (pre ++ e.record :: post))) e.pszCode t).1 = _ :=
    fun hother c t => readPlaceInfo_entry e (isRecord_of_split hsplit hx)
      ((nodup_codes_of_split hsplit).mpr hother) c t
  have hlongitude := @numberOf_formatLength_iff e.pszLongitude [] e.valid.number_longitude
    e.valid.length_longitude (fun c hc => nomatch hc)
  have hlatitude := @numberOf_formatLength_iff e.pszLatitude [0x0a] e.valid.number_latitude
    e.valid.length_latitude (fun c hc => by rw [← Option.some.inj hc]; decide)
  rw [List.append_nil] at hlongitude
  constructor
  · intro h
    have hother := (isFile_iff_of_split hsplit hx).mp h.isFile
    have hentry := hread hother {} {}
    refine ⟨hother, ?_, ?_, ?_, (others_iff_of_split hsplit hx hother).mp h.others⟩
    · have := h.name {} {}
      rwa [hentry] at this
    · have := h.longitude {} {}
      rw [hentry] at this
      exact hlongitude.mp this
    · have := h.latitude {} {}
      rw [hentry] at this
      exact hlatitude.mp this
  · rintro ⟨hother, hname, hlon, hlat, hmet⟩
    have hentry := hread hother
    refine ⟨(isFile_iff_of_split hsplit hx).mpr hother, fun c t => ?_, fun c t => ?_,
      fun c t => ?_, (others_iff_of_split hsplit hx hother).mpr hmet⟩
    · rw [hentry]
      exact hname
    · rw [hentry]
      exact hlongitude.mpr hlon
    · rw [hentry]
      exact hlatitude.mpr hlat

end Split

/-- Where the entry meets no record but its own, no record but that has its code. -/
theorem others_ne_code (f : DivisionFile) (e : DivisionEntry) {pre post : List CStr}
    (hsplit : f.records = pre ++ (f.records.find? (Meets e.pszCode)).toList ++ post)
    (hmet : ∀ r, f.records.find? (Meets e.pszCode) = some r →
      r.take 8 = formatLength e.pszCode 0x30 8 ∨
        Nameless r ∧ ∀ r' ∈ f.records, r'.take 8 ≠ formatLength e.pszCode 0x30 8) :
    ∀ y ∈ pre ++ post, y.take 8 ≠ formatLength e.pszCode 0x30 8 := by
  intro y hy
  cases hfind : f.records.find? (Meets e.pszCode) with
  | none =>
    rw [hfind, Option.toList_none, List.append_nil] at hsplit
    intro hcode
    have hnot := List.find?_eq_none.mp hfind y (hsplit ▸ hy)
    exact hnot (meets_own e hcode)
  | some r =>
    rw [hfind, Option.toList_some, List.append_assoc, List.singleton_append] at hsplit
    have hnodup := f.nodup
    rw [hsplit] at hnodup
    rcases hmet r hfind with hr | ⟨-, hnone⟩
    · rw [← hr]
      exact (nodup_codes_middle.mp hnodup).1 y hy
    · refine hnone y ?_
      rw [hsplit]
      exact (List.mem_append.mp hy).elim (List.mem_append_left _)
        fun h => List.mem_append_right _ (List.mem_cons_of_mem _ h)

theorem updated_iff_entryFits (f : DivisionFile) (e : DivisionEntry) :
    ∃ file, writeInfoIn f.bytes e.pszCode (some e.pszPlaceName) (some e.pszLongitude)
        (some e.pszLatitude) = (0, file) ∧
      (Updated f e file ↔ EntryFits f e) := by
  obtain ⟨pre, post, rest, hsplit, hwrite, hrest⟩ := writeInfo_records f e
  refine ⟨_, hwrite, ?_⟩
  have hpre : ∀ x ∈ pre, x.length = 131 := by
    intro x hx
    refine (f.isRecord x ?_).length
    rw [hsplit, List.append_assoc]
    exact List.mem_append_left _ hx
  have hfile : IsRecord e.record →
      linesFile pre ++ (textBytes (line e.record) ++ rest) =
        linesFile (pre ++ e.record :: post) := fun hx => by
    rw [hrest hx, linesFile_append, linesFile_cons]
  constructor
  · intro h
    -- the line that was written is one of the records of the file
    have hx : IsRecord e.record := by
      obtain ⟨f', hf'⟩ := h.isFile
      have hlen : ∀ x ∈ f'.records, x.length = 131 := fun x hx => (f'.isRecord x hx).length
      obtain ⟨vs, hvs, hvs'⟩ := linesFile_split_append hpre hlen hf'.symm
      have hlen' : ∀ x ∈ vs, x.length = 131 := fun x hx =>
        hlen x (hvs ▸ List.mem_append_right _ hx)
      obtain ⟨ws, rfl, -⟩ := linesFile_split e.length_record hlen' hvs'
      exact f'.isRecord _ (hvs ▸ List.mem_append_right _ List.mem_cons_self)
    rw [hfile hx, updated_iff_of_records hsplit hx] at h
    obtain ⟨hother, hname, hlon, hlat, hmet⟩ := h
    refine ⟨e.isRecord_record_iff.mp hx, hname, hlon, hlat, fun r hr => ?_⟩
    by_cases hown : r.take 8 = formatLength e.pszCode 0x30 8
    · exact Or.inl hown
    · refine Or.inr ⟨(hmet r hr).resolve_left hown, fun r' hr' => ?_⟩
      rw [hsplit, hr, Option.toList_some, List.append_assoc, List.singleton_append] at hr'
      rcases List.mem_append.mp hr' with hmem | hmem
      · exact hother r' (List.mem_append_left _ hmem)
      · rcases List.mem_cons.mp hmem with rfl | hmem
        · exact hown
        · exact hother r' (List.mem_append_right _ hmem)
  · intro h
    have hx := e.isRecord_record_iff.mpr h.chars
    rw [hfile hx, updated_iff_of_records hsplit hx]
    exact ⟨others_ne_code f e hsplit h.met, h.name, h.longitude, h.latitude,
      fun r hr => (h.met r hr).imp_right And.left⟩

/-- **The file is updated exactly when the entry fits it.**  `WriteInfo` returns 0. -/
theorem writeInfo_updates_iff (f : DivisionFile) (e : DivisionEntry) :
    ∃ file, writeInfo (some f.bytes) e.pszCode (some e.pszPlaceName) (some e.pszLongitude)
        (some e.pszLatitude) = some (0, file) ∧
      (Updated f e file ↔ EntryFits f e) := by
  obtain ⟨file, hwrite, hiff⟩ := updated_iff_entryFits f e
  exact ⟨file, congrArg some hwrite, hiff⟩

theorem sampleNumber : IsNumber (str "116.4") :=
  IsUnsigned.point (str "116") (str "4") (by decide) (List.all_eq_true.mp rfl)
    (List.all_eq_true.mp rfl)

theorem sampleCounty_valid :
    EntryValid (str "11010000") (str "AB") (str "116.4") (str "116.4") := by
  refine ⟨?_, List.all_eq_true.mp rfl, ?_, ?_, ?_, ?_, sampleNumber, ?_, sampleNumber⟩ <;> decide

theorem sampleProvince_valid : EntryValid (str "11") (str "AB") (str "116.4") (str "116.4") :=
  { sampleCounty_valid with
    length_code := by decide
    digits := List.all_eq_true.mp rfl }

def sampleCounty : DivisionEntry := ⟨_, _, _, _, sampleCounty_valid⟩

def sampleProvince : DivisionEntry := ⟨_, _, _, _, sampleProvince_valid⟩

theorem sampleFile_isRecord : ∀ r ∈ [sampleCounty.record], IsRecord r := by
  intro r hr
  rw [List.mem_singleton.mp hr]
  exact sampleCounty.isRecord_record_iff.mpr fun c hc =>
    of_decide_eq_true (List.all_eq_true.mp (rfl : (str "AB").all fun c => IsLineChar c) c hc)

theorem sampleFile_nodup : ([sampleCounty.record].map (·.take 8)).Nodup := List.nodup_singleton _

def sampleFile : DivisionFile := ⟨_, sampleFile_isRecord, sampleFile_nodup⟩

/-- A province written into a file with one of its counties takes the place of the county. -/
theorem writeInfo_loses_county :
    ¬ ∀ (f : DivisionFile) (e : DivisionEntry) (file : CStr),
      writeInfo (some f.bytes) e.pszCode (some e.pszPlaceName) (some e.pszLongitude)
        (some e.pszLatitude) = some (0, file) → Updated f e file := by
  intro h
  obtain ⟨file, hwrite, hiff⟩ := updated_iff_entryFits sampleFile sampleProvince
  have hfits := hiff.mp (h sampleFile sampleProvince file (congrArg some hwrite))
  have hmeets : Meets sampleProvince.pszCode sampleCounty.record = true := by
    rw [Meets, sampleCounty.take_record]
    decide
  have hfind : sampleFile.records.find? (Meets sampleProvince.pszCode) =
      some sampleCounty.record := List.find?_cons_of_pos hmeets
  rcases hfits.met _ hfind with hcode | ⟨hnameless, -⟩
  · rw [sampleCounty.take_record] at hcode
    exact absurd hcode (by decide)
  · have hread := (nameless_iff _).mpr hnameless {}
    rw [sampleCounty.readFields_record] at hread
    have hname : trimRightSpace sampleCounty.pszPlaceName = [] := congrArg PlaceInfo.strName hread
    exact absurd hname (by decide)

end GB28181.Platform
