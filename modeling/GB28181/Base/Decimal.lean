import Mathlib.Data.List.Induction
import Mathlib.Data.List.TakeWhile
import Mathlib.Tactic.IntervalCases
import GB28181.Base.CString

/-!
# Decimal numbers of fixed width

* `toText` — `std::to_string` of an unsigned number: its last digit comes off the end
  (`toText_eq`);
* `zeroPad` — a text filled up with leading zeros; it fails on a text that is longer than the
  field, as `string(width - text.size(), '0')` does;
* `zeroPadInt` — `printf("%0*d")` of an `int`;
* `atoi` — `atoi`, which stops at the ends of its range;
* `stoul` — `std::stoul` with a 32-bit `unsigned long`.

Principal results: `digits_ext` (texts of digits of one length are equal when their values are),
`zeroPad_toText_inj` (numbers of fixed width are told apart), `zeroPad_append_eq_iff` (a number of
fixed width with one more digit behind it is a number of the next width), `zeroPadInt_inj` (so are
all numbers in the form of `printf`).
-/

set_option autoImplicit false

namespace GB28181.Base

def digitByte (d : Nat) : UInt8 := UInt8.ofNat (0x30 + d)

/-- `std::to_string` of an unsigned number. -/
def toText (n : Nat) : CStr := (Nat.toDigits 10 n).map fun c => UInt8.ofNat c.toNat

/-- `string(width - text.size(), '0') + text`; `none` stands for the exception of the constructor
when the difference wraps around. -/
def zeroPad (width : Nat) (text : CStr) : Option CStr :=
  if text.length ≤ width then some (List.replicate (width - text.length) 0x30 ++ text) else none

/-- `printf("%0*d")`: zeros fill the field behind the sign, and a longer number takes the place it
needs. -/
def zeroPadInt (width : Nat) (n : Int) : CStr :=
  let digits := toText n.natAbs
  if n < 0 then 0x2d :: (List.replicate (width - 1 - digits.length) 0x30 ++ digits)
  else List.replicate (width - digits.length) 0x30 ++ digits

/-- `std::stoul`: it takes a sign as `strtoul` does; `none` stands for the exception it throws. -/
def stoul (s : CStr) : Option Nat :=
  let s := s.dropWhile isSpace
  let ds := (if s.head? = some 0x2b ∨ s.head? = some 0x2d then s.tail else s).takeWhile isDigit
  let n := digitsValue ds
  if ds.isEmpty ∨ 2 ^ 32 ≤ n then none
  else some (if s.head? = some 0x2d then (2 ^ 32 - n) % 2 ^ 32 else n)

/-- `atoi` with a 32-bit `int`: a sign and digits after white space, 0 for anything else; a number
out of range is the nearest one in it. -/
def atoi (s : CStr) : Int :=
  let s := s.dropWhile isSpace
  let ds := (if s.head? = some 0x2b ∨ s.head? = some 0x2d then s.tail else s).takeWhile isDigit
  let n : Int := if s.head? = some 0x2d then -digitsValue ds else digitsValue ds
  max (-2147483648) (min 2147483647 n)

/-! ## Digits -/

theorem isDigit_digitByte {d : Nat} (h : d < 10) : isDigit (digitByte d) = true := by
  interval_cases d <;> rfl

theorem toNat_digitByte {d : Nat} (h : d < 10) : (digitByte d).toNat - 0x30 = d := by
  interval_cases d <;> rfl

theorem digitByte_of_isDigit {c : UInt8} (h : isDigit c = true) :
    ∃ d, d < 10 ∧ c = digitByte d := by
  have hb : 0x30 ≤ c ∧ c ≤ 0x39 := by simpa [isDigit] using h
  have hlo : 0x30 ≤ c.toNat := hb.1
  have hhi : c.toNat ≤ 0x39 := hb.2
  refine ⟨c.toNat - 0x30, by omega, ?_⟩
  rw [digitByte, Nat.add_sub_cancel' hlo, UInt8.ofNat_toNat]

theorem ofNat_digitChar {d : Nat} (h : d < 10) :
    UInt8.ofNat (Nat.digitChar d).toNat = digitByte d := by
  interval_cases d <;> rfl

theorem toText_eq (n : Nat) :
    toText n = (if n < 10 then [] else toText (n / 10)) ++ [digitByte (n % 10)] := by
  unfold toText
  rw [Nat.toDigits_eq_if (by decide)]
  split
  · rename_i h
    simp [ofNat_digitChar h, Nat.mod_eq_of_lt h]
  · simp [ofNat_digitChar (Nat.mod_lt n (by decide : 10 > 0))]

theorem length_toText_le_iff {n k : Nat} (hk : 0 < k) : (toText n).length ≤ k ↔ n < 10 ^ k := by
  rw [toText, List.length_map, Nat.length_toDigits_le_iff (by decide) hk]

theorem isDigit_of_mem_toText (n : Nat) : ∀ c ∈ toText n, isDigit c = true := by
  induction n using Nat.strongRecOn with
  | ind n ih =>
    rw [toText_eq]
    intro c hc
    rcases List.mem_append.mp hc with hc | hc
    · split at hc
      · cases hc
      · exact ih (n / 10) (by omega) c hc
    · rw [List.mem_singleton.mp hc]
      exact isDigit_digitByte (Nat.mod_lt n (by decide))

theorem str_append (s t : String) : str (s ++ t) = str s ++ str t := by
  unfold str
  rw [String.toUTF8_eq_toByteArray, String.toUTF8_eq_toByteArray, String.toUTF8_eq_toByteArray,
    String.toByteArray_append, ByteArray.data_append, Array.toList_append]

theorem str_toString (n : Nat) : str (toString n) = toText n := by
  have hascii : ∀ c ∈ Nat.toDigits 10 n, String.utf8EncodeChar c = [UInt8.ofNat c.toNat] := by
    intro c hc
    have hdigit := Nat.isDigit_of_mem_toDigits (by decide) (by decide) hc
    have hle : c.val ≤ 127 := by
      simp only [Char.isDigit, Bool.and_eq_true, decide_eq_true_eq,
        UInt32.le_iff_toNat_le] at hdigit
      have hnine : c.val.toNat ≤ 57 := hdigit.2
      exact UInt32.le_iff_toNat_le.mpr (le_trans hnine (by decide))
    rw [String.utf8EncodeChar_eq_singleton (Char.utf8Size_eq_one_iff.mpr hle)]
    rfl
  have hrepr : toString n = String.ofList (Nat.toDigits 10 n) := rfl
  rw [str, hrepr, String.toUTF8_eq_toByteArray, String.toByteArray_ofList, List.utf8Encode,
    List.data_toByteArray, toText, List.map_eq_flatMap]
  exact List.flatMap_congr hascii

/-! ## Values -/

theorem digitsValue_concat (ds : CStr) (c : UInt8) :
    digitsValue (ds ++ [c]) = 10 * digitsValue ds + (c.toNat - 0x30) := by
  rw [digitsValue, List.foldl_append]
  rfl

theorem digitsValue_toText (n : Nat) : digitsValue (toText n) = n := by
  induction n using Nat.strongRecOn with
  | ind n ih =>
    rw [toText_eq, digitsValue_concat, toNat_digitByte (Nat.mod_lt n (by decide))]
    split
    · rename_i h
      rw [Nat.mod_eq_of_lt h]
      exact Nat.zero_add n
    · rw [ih (n / 10) (by omega)]
      omega

theorem digitsValue_zeros (k : Nat) (ds : CStr) :
    digitsValue (List.replicate k 0x30 ++ ds) = digitsValue ds := by
  induction k with
  | zero => rfl
  | succ k ih => exact ih

/-- **Texts of digits of one length are equal when their values are.** -/
theorem digits_ext {ds es : CStr} (hds : ∀ c ∈ ds, isDigit c = true)
    (hes : ∀ c ∈ es, isDigit c = true) (hlen : ds.length = es.length)
    (hvalue : digitsValue ds = digitsValue es) : ds = es := by
  induction ds using List.reverseRecOn generalizing es with
  | nil => exact (List.length_eq_zero_iff.mp hlen.symm).symm
  | append_singleton ds c ih =>
    rcases List.eq_nil_or_concat' es with rfl | ⟨es, e, rfl⟩
    · simp at hlen
    · rw [List.forall_mem_append, List.forall_mem_singleton] at hds hes
      obtain ⟨d, hd, rfl⟩ := digitByte_of_isDigit hds.2
      obtain ⟨d', hd', rfl⟩ := digitByte_of_isDigit hes.2
      rw [digitsValue_concat, digitsValue_concat, toNat_digitByte hd, toNat_digitByte hd'] at hvalue
      have hrest : digitsValue ds = digitsValue es := by omega
      have hlast : d = d' := by omega
      have hlen' : ds.length = es.length := by simpa using hlen
      rw [ih hds.1 hes.1 hlen' hrest, hlast]

theorem isDigit_zeros_toText (k n : Nat) :
    ∀ c ∈ List.replicate k (0x30 : UInt8) ++ toText n, isDigit c = true := by
  rw [List.forall_mem_append]
  refine ⟨fun c hc => ?_, isDigit_of_mem_toText n⟩
  rw [List.eq_of_mem_replicate hc]
  rfl

theorem zeros_toText_inj {j k n m : Nat}
    (h : List.replicate j (0x30 : UInt8) ++ toText n = List.replicate k 0x30 ++ toText m) :
    n = m := by
  have hvalue := congrArg digitsValue h
  rwa [digitsValue_zeros, digitsValue_zeros, digitsValue_toText, digitsValue_toText] at hvalue

/-- **Numbers in the form of `printf` are told apart.** -/
theorem zeroPadInt_inj {width : Nat} {n m : Int} (h : zeroPadInt width n = zeroPadInt width m) :
    n = m := by
  have hsign : ∀ (ds : CStr) (j k : Nat),
      0x2d :: ds ≠ List.replicate j (0x30 : UInt8) ++ toText k := by
    intro ds j k heq
    have hmem : (0x2d : UInt8) ∈ List.replicate j (0x30 : UInt8) ++ toText k :=
      heq ▸ List.mem_cons_self
    exact absurd (isDigit_zeros_toText j k _ hmem) (by decide)
  unfold zeroPadInt at h
  by_cases hn : n < 0 <;> by_cases hm : m < 0
  · rw [if_pos hn, if_pos hm] at h
    have habs := zeros_toText_inj (List.cons.inj h).2
    omega
  · rw [if_pos hn, if_neg hm] at h
    exact absurd h (hsign _ _ _)
  · rw [if_neg hn, if_pos hm] at h
    exact absurd h.symm (hsign _ _ _)
  · rw [if_neg hn, if_neg hm] at h
    have habs := zeros_toText_inj h
    omega

theorem zeroPadInt_natCast (width n : Nat) :
    zeroPadInt width (n : Int) =
      List.replicate (width - (toText n).length) 0x30 ++ toText n := by
  have hpos : ¬ (n : Int) < 0 := by omega
  rw [zeroPadInt, if_neg hpos, Int.natAbs_natCast]

theorem length_zeroPadInt {width n : Nat} (hw : 0 < width) (h : n < 10 ^ width) :
    (zeroPadInt width (n : Int)).length = width := by
  have hle := (length_toText_le_iff hw).mpr h
  rw [zeroPadInt_natCast, List.length_append, List.length_replicate]
  omega

theorem isDigit_zeroPadInt (width n : Nat) :
    ∀ c ∈ zeroPadInt width (n : Int), isDigit c = true := by
  rw [zeroPadInt_natCast]
  exact isDigit_zeros_toText _ n

/-! ## Fields of fixed width -/

theorem zeroPad_eq_some_iff {width : Nat} {text field : CStr} :
    zeroPad width text = some field ↔
      text.length ≤ width ∧ field = List.replicate (width - text.length) 0x30 ++ text := by
  unfold zeroPad
  split
  · rename_i h
    rw [Option.some.injEq, and_iff_right h, eq_comm]
  · rename_i h
    exact iff_of_false nofun fun hf => h hf.1

theorem length_of_zeroPad {width : Nat} {text field : CStr} (h : zeroPad width text = some field) :
    field.length = width := by
  obtain ⟨hle, rfl⟩ := zeroPad_eq_some_iff.mp h
  rw [List.length_append, List.length_replicate, Nat.sub_add_cancel hle]

theorem zeroPad_toText {width n : Nat} {field : CStr} (h : zeroPad width (toText n) = some field) :
    (∀ c ∈ field, isDigit c = true) ∧ digitsValue field = n := by
  obtain ⟨-, rfl⟩ := zeroPad_eq_some_iff.mp h
  refine ⟨isDigit_zeros_toText _ n, ?_⟩
  rw [digitsValue_zeros, digitsValue_toText]

/-- **Numbers of fixed width are told apart.** -/
theorem zeroPad_toText_inj {width n m : Nat} {field : CStr}
    (hn : zeroPad width (toText n) = some field) (hm : zeroPad width (toText m) = some field) :
    n = m := by
  rw [← (zeroPad_toText hn).2, (zeroPad_toText hm).2]

theorem zeroPad_toText_isSome_iff {width n : Nat} (hw : 0 < width) :
    (zeroPad width (toText n)).isSome = true ↔ n < 10 ^ width := by
  rw [← length_toText_le_iff hw]
  unfold zeroPad
  split
  · rename_i h
    exact iff_of_true rfl h
  · rename_i h
    exact iff_of_false Bool.false_ne_true h

/-- **A digit behind a number** of fixed width makes a number of the next width. -/
theorem zeroPad_append_eq_iff {width i n : Nat} {field field' : CStr} {c : UInt8}
    (hi : zeroPad width (toText i) = some field)
    (hn : zeroPad (width + 1) (toText n) = some field') :
    field ++ [c] = field' ↔ ∃ d, d < 10 ∧ c = digitByte d ∧ n = 10 * i + d := by
  obtain ⟨hdigits, hvalue⟩ := zeroPad_toText hi
  obtain ⟨hdigits', hvalue'⟩ := zeroPad_toText hn
  constructor
  · rintro rfl
    rw [List.forall_mem_append, List.forall_mem_singleton] at hdigits'
    obtain ⟨d, hd, rfl⟩ := digitByte_of_isDigit hdigits'.2
    refine ⟨d, hd, rfl, ?_⟩
    rw [← hvalue', digitsValue_concat, hvalue, toNat_digitByte hd]
  · rintro ⟨d, hd, rfl, rfl⟩
    apply digits_ext _ hdigits'
    · rw [List.length_append, length_of_zeroPad hi, length_of_zeroPad hn, List.length_singleton]
    · rw [digitsValue_concat, hvalue, hvalue', toNat_digitByte hd]
    · rw [List.forall_mem_append, List.forall_mem_singleton]
      exact ⟨hdigits, isDigit_digitByte hd⟩

/-! ## Reading back -/

theorem head_of_digits {ds : CStr} (hds : ∀ c ∈ ds, isDigit c = true) :
    ∀ c ∈ ds, isSpace c = false ∧ c ≠ 0x2b ∧ c ≠ 0x2d := by
  intro c hc
  obtain ⟨d, hd, rfl⟩ := digitByte_of_isDigit (hds c hc)
  interval_cases d <;> decide

theorem atoi_of_digits {ds : CStr} (hds : ∀ c ∈ ds, isDigit c = true)
    (hlt : digitsValue ds < 2 ^ 31) : atoi ds = digitsValue ds := by
  cases ds with
  | nil => rfl
  | cons c rest =>
    obtain ⟨hspace, hplus, hminus⟩ := head_of_digits hds c List.mem_cons_self
    have htake : (c :: rest).takeWhile isDigit = c :: rest := List.takeWhile_eq_self_iff.mpr hds
    simp only [atoi, List.dropWhile_cons_of_neg (by simp [hspace] : ¬ isSpace c = true),
      List.head?_cons, Option.some.injEq, hplus, hminus, or_self, if_false, htake]
    omega

end GB28181.Base
