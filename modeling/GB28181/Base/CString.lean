import Mathlib.Data.List.Basic

/-!
# C strings and the runtime functions on them

A `char` string is the list of its bytes, without the terminator.

* `str` — the bytes of a string literal;
* `cStr` — what a callee that stops at the first zero byte sees of a buffer; `cStr_text`,
  `cStr_eq_self_iff`;
* `stoi` — `std::stoi`: leading white space, an optional sign, digits, the rest ignored;
  `none` stands for the exception it throws;
* `stricmpEq` — equality without case;
* `fmt02x` — `printf("%02x")` of one byte.
-/

set_option autoImplicit false

namespace GB28181.Base

abbrev CStr := List UInt8

def str (s : String) : CStr := s.toUTF8.data.toList

/-- The bytes before the first zero byte. -/
def cStr (s : CStr) : CStr := s.takeWhile (· ≠ 0)

def isSpace (c : UInt8) : Bool := c == 0x20 || (0x09 ≤ c && c ≤ 0x0d)

def isDigit (c : UInt8) : Bool := 0x30 ≤ c && c ≤ 0x39

def digitsValue (ds : CStr) : Nat := ds.foldl (fun n c => 10 * n + (c.toNat - 0x30)) 0

/-- `std::stoi` with a 32-bit `int`. -/
def stoi (s : CStr) : Option Int :=
  let s := s.dropWhile isSpace
  let ds := (if s.head? = some 0x2b ∨ s.head? = some 0x2d then s.tail else s).takeWhile isDigit
  let n : Int := if s.head? = some 0x2d then -digitsValue ds else digitsValue ds
  if ds.isEmpty then none
  else if -2147483648 ≤ n ∧ n ≤ 2147483647 then some n else none

/-- `tolower` in the C locale. -/
def toLower (c : UInt8) : UInt8 := if 0x41 ≤ c ∧ c ≤ 0x5a then c + 0x20 else c

/-- `0 == _stricmp(s, t)`. -/
def stricmpEq (s t : CStr) : Bool := s.map toLower == t.map toLower

def hexDigit (n : UInt8) : UInt8 := if n ≤ 9 then n + 0x30 else n + 0x61 - 10

def fmt02x (b : UInt8) : CStr := [hexDigit (b >>> 4), hexDigit (b &&& 0xf)]

example : stoi (str " -36x") = some (-36) := by decide

theorem hexDigit_ne_quote : ∀ n : UInt8, n < 16 → hexDigit n ≠ 0x22 := by
  intro n hn
  have hlt : n.toNat < 16 := hn
  obtain ⟨k, hk⟩ : ∃ k : Fin 16, n = UInt8.ofNat k.val := ⟨⟨n.toNat, hlt⟩, by simp⟩
  subst hk
  revert k
  decide

theorem cStr_eq_self_iff {s : CStr} : cStr s = s ↔ 0 ∉ s := by
  induction s with
  | nil => simp [cStr]
  | cons c s ih =>
    rw [cStr, List.takeWhile_cons, List.mem_cons, not_or, ← ih]
    by_cases hc : c = 0
    · simp [hc]
    · simp [hc, cStr, Ne.symm hc]

theorem cStr_eq_self {s : CStr} (h : 0 ∉ s) : cStr s = s := cStr_eq_self_iff.mpr h

theorem cStr_append_zero (s rest : CStr) : cStr (s ++ 0 :: rest) = cStr s := by
  induction s with
  | nil => rfl
  | cons c s ih =>
    simp only [cStr] at ih
    simp only [cStr, List.cons_append, List.takeWhile_cons, ih]

theorem cStr_text {chars : CStr} (h : 0 ∉ chars) (rest : CStr) :
    cStr (chars ++ 0 :: rest) = chars := (cStr_append_zero chars rest).trans (cStr_eq_self h)

end GB28181.Base
