import GB28181.Base.CString

/-!
# Bytes in hexadecimal

* `fmt02X` — `printf("%02X")` of one byte;
* `hexByte` — the byte that the first two digits of a text stand for, in either case;
* `hexByte_drop` — in a text of bytes every byte is read back at twice its place.
-/

set_option autoImplicit false

namespace GB28181.Base

def upperHexDigit (n : Nat) : UInt8 := UInt8.ofNat (if n < 10 then n + 0x30 else n + 0x37)

/-- `printf("%02X")`. -/
def fmt02X (b : UInt8) : CStr := [upperHexDigit (b.toNat / 16), upperHexDigit (b.toNat % 16)]

def isHexDigit (c : UInt8) : Bool :=
  isDigit c || (0x61 ≤ c && c ≤ 0x66) || (0x41 ≤ c && c ≤ 0x46)

def hexValue (c : UInt8) : Nat :=
  if isDigit c then c.toNat - 0x30
  else if 0x61 ≤ c ∧ c ≤ 0x66 then c.toNat - 0x57
  else if 0x41 ≤ c ∧ c ≤ 0x46 then c.toNat - 0x37
  else 0

def hexByte : CStr → Nat
  | a :: b :: _ => 16 * hexValue a + hexValue b
  | _ => 0

theorem upperHexDigit_spec : ∀ n < 16,
    isHexDigit (upperHexDigit n) = true ∧ hexValue (upperHexDigit n) = n := by
  decide

theorem hexValue_toLower (c : UInt8) : hexValue (toLower c) = hexValue c := by
  by_cases h : 0x41 ≤ c ∧ c ≤ 0x5a
  · have hupper : ∀ n < 26,
        hexValue (toLower (UInt8.ofNat (n + 0x41))) = hexValue (UInt8.ofNat (n + 0x41)) := by
      decide
    have hlow : 0x41 ≤ c.toNat := UInt8.le_iff_toNat_le.mp h.1
    have hhigh : c.toNat ≤ 0x5a := UInt8.le_iff_toNat_le.mp h.2
    have := hupper (c.toNat - 0x41) (by omega)
    rwa [Nat.sub_add_cancel hlow, UInt8.ofNat_toNat] at this
  · rw [toLower, if_neg h]

theorem hexByte_map_toLower (s : CStr) : hexByte (s.map toLower) = hexByte s := by
  match s with
  | [] => rfl
  | [_] => rfl
  | a :: b :: _ => simp only [List.map_cons, hexByte, hexValue_toLower]

theorem hexByte_fmt02X (b : UInt8) (rest : CStr) : hexByte (fmt02X b ++ rest) = b.toNat := by
  have hlt := b.toNat_lt
  simp only [fmt02X, List.cons_append, hexByte,
    (upperHexDigit_spec (b.toNat / 16) (by omega)).2,
    (upperHexDigit_spec (b.toNat % 16) (by omega)).2]
  omega

theorem length_flatMap_fmt02X (bs : List UInt8) : (bs.flatMap fmt02X).length = 2 * bs.length := by
  induction bs with
  | nil => rfl
  | cons b bs ih =>
    rw [List.flatMap_cons, List.length_append, ih, List.length_cons]
    show 2 + 2 * bs.length = 2 * (bs.length + 1)
    omega

theorem isHexDigit_flatMap_fmt02X (bs : List UInt8) :
    ∀ c ∈ bs.flatMap fmt02X, isHexDigit c = true := by
  intro c hc
  obtain ⟨b, -, hb⟩ := List.mem_flatMap.mp hc
  have hlt := b.toNat_lt
  rcases List.mem_cons.mp hb with rfl | hb
  · exact (upperHexDigit_spec _ (by omega)).1
  · rw [List.mem_singleton.mp hb]
    exact (upperHexDigit_spec _ (by omega)).1

theorem drop_flatMap_fmt02X (bs : List UInt8) (k : Nat) :
    (bs.flatMap fmt02X).drop (2 * k) = (bs.drop k).flatMap fmt02X := by
  induction k generalizing bs with
  | zero => rfl
  | succ k ih =>
    cases bs with
    | nil => rw [List.drop_nil, List.flatMap_nil, List.drop_nil]
    | cons b bs => exact ih bs

/-- **The bytes of a text** at twice their places. -/
theorem hexByte_drop (bs : List UInt8) {k : Nat} {b : UInt8} (h : bs[k]? = some b) :
    hexByte ((bs.flatMap fmt02X).drop (2 * k)) = b.toNat := by
  rw [drop_flatMap_fmt02X]
  obtain ⟨hk, rfl⟩ := List.getElem?_eq_some_iff.mp h
  rw [List.drop_eq_getElem_cons hk, List.flatMap_cons]
  exact hexByte_fmt02X _ _

end GB28181.Base
