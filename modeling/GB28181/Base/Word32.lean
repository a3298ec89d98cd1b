import GB28181.Base.CString
import Mathlib.Algebra.GroupWithZero.Nat

/-!
# Words of 32 bits in memory

An `unsigned long` that is read from and written to a `char` buffer, the least byte first.

* `toNat_byteOfWord_word` — the bytes of a word are those it was read from;
* `wordBytes_pack` — bytes that are shifted into a word are written in order;
* `toNat_or_shiftLeft` — where nothing overlaps, `|` is `+`.
-/

set_option autoImplicit false

namespace GB28181.Base

def word (b0 b1 b2 b3 : UInt8) : BitVec 32 :=
  .ofNat 32 (b0.toNat + 256 * b1.toNat + 65536 * b2.toNat + 16777216 * b3.toNat)

/-- `a >> 8 * k & 0xFF`. -/
def byteOfWord (k : Nat) (a : BitVec 32) : BitVec 32 := a >>> (8 * k) &&& 0xff

def wordBytes (a : BitVec 32) : CStr :=
  [UInt8.ofNat a.toNat, UInt8.ofNat (a >>> 8).toNat, UInt8.ofNat (a >>> 16).toNat,
    UInt8.ofNat (a >>> 24).toNat]

/-- `b0 | b1 << 8 | b2 << 16 | b3 << 24`. -/
def packWord (b0 b1 b2 b3 : BitVec 32) : BitVec 32 :=
  b0 ||| b1 <<< 8 ||| b2 <<< 16 ||| b3 <<< 24

theorem toNat_word (b0 b1 b2 b3 : UInt8) : (word b0 b1 b2 b3).toNat =
    b0.toNat + 256 * b1.toNat + 65536 * b2.toNat + 16777216 * b3.toNat := by
  have h0 := b0.toNat_lt
  have h1 := b1.toNat_lt
  have h2 := b2.toNat_lt
  have h3 := b3.toNat_lt
  rw [word, BitVec.toNat_ofNat]
  omega

theorem toNat_byteOfWord (k : Nat) (a : BitVec 32) :
    (byteOfWord k a).toNat = a.toNat / 2 ^ (8 * k) % 256 := by
  rw [byteOfWord, BitVec.toNat_and, BitVec.toNat_ushiftRight, Nat.shiftRight_eq_div_pow]
  exact Nat.and_two_pow_sub_one_eq_mod _ 8

section

variable (b0 b1 b2 b3 : UInt8)

theorem toNat_byteOfWord_word :
    (byteOfWord 0 (word b0 b1 b2 b3)).toNat = b0.toNat ∧
      (byteOfWord 1 (word b0 b1 b2 b3)).toNat = b1.toNat ∧
      (byteOfWord 2 (word b0 b1 b2 b3)).toNat = b2.toNat ∧
      (byteOfWord 3 (word b0 b1 b2 b3)).toNat = b3.toNat := by
  have h0 := b0.toNat_lt
  have h1 := b1.toNat_lt
  have h2 := b2.toNat_lt
  have h3 := b3.toNat_lt
  simp only [toNat_byteOfWord, toNat_word]
  omega

end

theorem toNat_or_shiftLeft {a b : BitVec 32} {k : Nat} (ha : a.toNat < 2 ^ k)
    (hb : 2 ^ k * b.toNat < 2 ^ 32) : (a ||| b <<< k).toNat = 2 ^ k * b.toNat + a.toNat := by
  rw [BitVec.toNat_or, BitVec.toNat_shiftLeft, Nat.shiftLeft_eq, Nat.mul_comm b.toNat,
    Nat.mod_eq_of_lt hb, Nat.or_comm, Nat.two_pow_add_eq_or_of_lt ha]

theorem toNat_shift_or_shift {a b : BitVec 32} {s k : Nat} (ha : 2 ^ (s + 2) * a.toNat < 2 ^ 32)
    (hb : b.toNat / 2 ^ k < 2 ^ s) :
    (a <<< (s + 2) >>> 2 ||| b >>> k).toNat = 2 ^ s * a.toNat + b.toNat / 2 ^ k := by
  have hup : 2 ^ (s + 2) * a.toNat / 2 ^ 2 = 2 ^ s * a.toNat := by
    rw [Nat.pow_add, Nat.mul_right_comm, Nat.mul_div_cancel _ (by decide)]
  rw [BitVec.toNat_or, BitVec.toNat_ushiftRight, BitVec.toNat_shiftLeft, BitVec.toNat_ushiftRight,
    Nat.shiftLeft_eq, Nat.shiftRight_eq_div_pow, Nat.shiftRight_eq_div_pow, Nat.mul_comm a.toNat,
    Nat.mod_eq_of_lt ha, hup, Nat.two_pow_add_eq_or_of_lt hb]

theorem wordBytes_pack {b0 b1 b2 b3 : BitVec 32} (h0 : b0.toNat < 256) (h1 : b1.toNat < 256)
    (h2 : b2.toNat < 256) (h3 : b3.toNat < 256) :
    wordBytes (packWord b0 b1 b2 b3) =
      [UInt8.ofNat b0.toNat, UInt8.ofNat b1.toNat, UInt8.ofNat b2.toNat, UInt8.ofNat b3.toNat] := by
  have h01 : (b0 ||| b1 <<< 8).toNat = 2 ^ 8 * b1.toNat + b0.toNat :=
    toNat_or_shiftLeft h0 (by omega)
  have h012 : (b0 ||| b1 <<< 8 ||| b2 <<< 16).toNat =
      2 ^ 16 * b2.toNat + (b0 ||| b1 <<< 8).toNat := toNat_or_shiftLeft (by omega) (by omega)
  have hall : (packWord b0 b1 b2 b3).toNat =
      2 ^ 24 * b3.toNat + (b0 ||| b1 <<< 8 ||| b2 <<< 16).toNat :=
    toNat_or_shiftLeft (by omega) (by omega)
  have hbyte : ∀ {n m : Nat}, n % 256 = m % 256 → UInt8.ofNat n = UInt8.ofNat m := fun h =>
    UInt8.toNat_inj.mp (by rw [UInt8.toNat_ofNat', UInt8.toNat_ofNat']; exact h)
  simp only [wordBytes, BitVec.toNat_ushiftRight, Nat.shiftRight_eq_div_pow, List.cons.injEq]
  exact ⟨hbyte (by omega), hbyte (by omega), hbyte (by omega), hbyte (by omega), trivial⟩

end GB28181.Base
