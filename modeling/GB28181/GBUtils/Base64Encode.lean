import GB28181.Base.Base64Text
import GB28181.Base.Store
import GB28181.Base.Word32

/-!
# Base64 encoding (`GBUtils/Algorithm/base64.cpp`)

`GetB64Char` and `Base64Encode`.  The loop reads words of four bytes, of which it uses three, and
writes words of four characters; the last one to three bytes are treated apart.  Buffers are
written where they have room: `none` is a write behind them.

* `encodeB0_word` … `encodeB3_word` — the characters of a group are its digits;
* `base64Encode_eq` — the buffer holds the Base64 text and a terminator **exactly when it has room
  for both**.
-/

set_option autoImplicit false

namespace GB28181.GBUtils

open GB28181.Base

def szBase64Table : CStr := str "ABCDEFGHIJKLMNOPQRSTUVWXYZabcdefghijklmnopqrstuvwxyz0123456789+/"

def getB64Char (index : BitVec 32) : UInt8 :=
  if 0 ≤ index.toInt ∧ index.toInt < 64 then szBase64Table.getD index.toNat 0x3d else 0x3d

/-- A `char` in an `int`. -/
def charInt (ch : UInt8) : BitVec 32 := ch.toBitVec.signExtend 32

def encodeB0 (ulTmp : BitVec 32) : UInt8 := getB64Char (byteOfWord 0 ulTmp >>> 2 &&& 0x3f)

def encodeB1 (ulTmp : BitVec 32) : UInt8 :=
  getB64Char ((byteOfWord 0 ulTmp <<< 6 >>> 2 ||| byteOfWord 1 ulTmp >>> 4) &&& 0x3f)

def encodeB2 (ulTmp : BitVec 32) : UInt8 :=
  getB64Char ((byteOfWord 1 ulTmp <<< 4 >>> 2 ||| byteOfWord 2 ulTmp >>> 6) &&& 0x3f)

def encodeB3 (ulTmp : BitVec 32) : UInt8 := getB64Char (byteOfWord 2 ulTmp <<< 2 >>> 2 &&& 0x3f)

/-- The loop over `i < src_len - 3`; it leaves one to three bytes. -/
def encodeLoop (base64code : CStr) (p64 : Nat) : CStr → Option (CStr × Nat × CStr)
  | c0 :: c1 :: c2 :: c3 :: src => do
    let ulTmp := word c0 c1 c2 c3
    let base64code ← store base64code p64 (wordBytes (packWord (charInt (encodeB0 ulTmp))
      (charInt (encodeB1 ulTmp)) (charInt (encodeB2 ulTmp)) (charInt (encodeB3 ulTmp))))
    encodeLoop base64code (p64 + 4) (c3 :: src)
  | src => some (base64code, p64, src)

/-- The four characters of the last one to three bytes, which are put into a zeroed word. -/
def encodeRest (src : CStr) : CStr :=
  let ulTmp := word (src.getD 0 0) (src.getD 1 0) (src.getD 2 0) 0
  [encodeB0 ulTmp, encodeB1 ulTmp, if src.length > 1 then encodeB2 ulTmp else 0x3d,
    if src.length > 2 then encodeB3 ulTmp else 0x3d]

/-- The bytes that are encoded: those before the terminator where `src_len` is 0, and otherwise
`src_len` of them, of which the source must have as many. -/
def sourceBytes (src : CStr) (src_len : Nat) : CStr :=
  if src_len = 0 then cStr src else src.take src_len

/-- `Base64Encode`; the buffer afterwards and the length of the text. -/
def base64Encode (base64code src : CStr) (src_len : Nat) : Option (CStr × Nat) := do
  let (base64code, p64, rest) ← encodeLoop base64code 0 (sourceBytes src src_len)
  storeEnd base64code p64 (if rest.isEmpty then [] else encodeRest rest)

/-! ## Digits -/

theorem getB64Char_eq {index : BitVec 32} {n : Nat} (h : index.toNat = n % 64) :
    getB64Char index = digit64 n := by
  have hlt : index.toNat < 64 := by omega
  have hint : index.toInt = index.toNat := BitVec.toInt_eq_toNat_of_lt (by omega)
  rw [getB64Char, if_pos (by omega), h]
  rfl

theorem toNat_and_63 (a : BitVec 32) : (a &&& 0x3f).toNat = a.toNat % 64 := by
  rw [BitVec.toNat_and]
  exact Nat.and_two_pow_sub_one_eq_mod _ 6

section

variable (c0 c1 c2 c3 : UInt8)

theorem encodeB0_word : encodeB0 (word c0 c1 c2 c3) = digit64 (groupValue c0 c1 c2 / 262144) := by
  obtain ⟨h0, -⟩ := toNat_byteOfWord_word c0 c1 c2 c3
  apply getB64Char_eq
  rw [toNat_and_63, BitVec.toNat_ushiftRight, Nat.shiftRight_eq_div_pow, h0, groupValue]
  have := c1.toNat_lt
  have := c2.toNat_lt
  omega

theorem encodeB1_word : encodeB1 (word c0 c1 c2 c3) = digit64 (groupValue c0 c1 c2 / 4096) := by
  obtain ⟨h0, h1, -⟩ := toNat_byteOfWord_word c0 c1 c2 c3
  have hlt0 := c0.toNat_lt
  have hlt1 := c1.toNat_lt
  have hlt2 := c2.toNat_lt
  have hindex : (byteOfWord 0 (word c0 c1 c2 c3) <<< 6 >>> 2 |||
      byteOfWord 1 (word c0 c1 c2 c3) >>> 4).toNat = 2 ^ 4 * c0.toNat + c1.toNat / 2 ^ 4 := by
    rw [← h0, ← h1]
    exact toNat_shift_or_shift (by omega) (by omega)
  apply getB64Char_eq
  rw [toNat_and_63, hindex, groupValue]
  omega

theorem encodeB2_word : encodeB2 (word c0 c1 c2 c3) = digit64 (groupValue c0 c1 c2 / 64) := by
  obtain ⟨-, h1, h2, -⟩ := toNat_byteOfWord_word c0 c1 c2 c3
  have hlt1 := c1.toNat_lt
  have hlt2 := c2.toNat_lt
  have hindex : (byteOfWord 1 (word c0 c1 c2 c3) <<< 4 >>> 2 |||
      byteOfWord 2 (word c0 c1 c2 c3) >>> 6).toNat = 2 ^ 2 * c1.toNat + c2.toNat / 2 ^ 6 := by
    rw [← h1, ← h2]
    exact toNat_shift_or_shift (by omega) (by omega)
  apply getB64Char_eq
  rw [toNat_and_63, hindex, groupValue]
  omega

theorem encodeB3_word : encodeB3 (word c0 c1 c2 c3) = digit64 (groupValue c0 c1 c2) := by
  obtain ⟨-, -, h2, -⟩ := toNat_byteOfWord_word c0 c1 c2 c3
  have hlt2 := c2.toNat_lt
  apply getB64Char_eq
  rw [toNat_and_63, BitVec.toNat_ushiftRight, BitVec.toNat_shiftLeft, h2, Nat.shiftLeft_eq,
    Nat.shiftRight_eq_div_pow, groupValue]
  omega

end

theorem charInt_digit64 (n : Nat) : (charInt (digit64 n)).toNat = (digit64 n).toNat := by
  have hlt : ∀ k : Fin 64, (alphabet.getD k 0x3d).toNat < 128 := by decide
  have hdigit : (digit64 n).toNat < 128 := hlt ⟨n % 64, Nat.mod_lt n (by decide)⟩
  have hmsb : (digit64 n).toBitVec.msb = false := by
    rw [BitVec.msb_eq_false_iff_two_mul_lt]
    have : (digit64 n).toBitVec.toNat = (digit64 n).toNat := rfl
    omega
  rw [charInt, BitVec.signExtend_eq_setWidth_of_msb_false hmsb, BitVec.toNat_setWidth]
  exact Nat.mod_eq_of_lt (by have := (digit64 n).toNat_lt; omega)

theorem wordBytes_digits (n0 n1 n2 n3 : Nat) :
    wordBytes (packWord (charInt (digit64 n0)) (charInt (digit64 n1)) (charInt (digit64 n2))
      (charInt (digit64 n3))) = [digit64 n0, digit64 n1, digit64 n2, digit64 n3] := by
  have hlt : ∀ n, (charInt (digit64 n)).toNat < 256 := fun n => by
    rw [charInt_digit64]
    exact (digit64 n).toNat_lt
  rw [wordBytes_pack (hlt _) (hlt _) (hlt _) (hlt _)]
  simp only [charInt_digit64, UInt8.ofNat_toNat]

/-! ## Texts -/

theorem encodeRest_eq : ∀ {src : CStr}, src ≠ [] → src.length ≤ 3 →
    encodeRest src = base64Text src
  | [], hne, _ => absurd rfl hne
  | [c0], _, _ => by simp [encodeRest, base64Text, encodeB0_word, encodeB1_word]
  | [c0, c1], _, _ => by simp [encodeRest, base64Text, encodeB0_word, encodeB1_word, encodeB2_word]
  | [c0, c1, c2], _, _ => by
    simp [encodeRest, base64Text, encodeB0_word, encodeB1_word, encodeB2_word, encodeB3_word]
  | _ :: _ :: _ :: _ :: _, _, hlen => by
    simp only [List.length_cons] at hlen
    omega

/-- The loop and what follows it write the text from where the loop begins. -/
theorem encodeLoop_storeEnd (base64code : CStr) (p64 : Nat) (src : CStr) :
    ((encodeLoop base64code p64 src).bind fun (base64code, p64, rest) =>
      storeEnd base64code p64 (if rest.isEmpty then [] else encodeRest rest)) =
      storeEnd base64code p64 (base64Text src) := by
  match src with
  | [] => rfl
  | [c0] =>
    show storeEnd base64code p64 (encodeRest [c0]) = _
    rw [encodeRest_eq (List.cons_ne_nil _ _) (by simp)]
  | [c0, c1] =>
    show storeEnd base64code p64 (encodeRest [c0, c1]) = _
    rw [encodeRest_eq (List.cons_ne_nil _ _) (by simp)]
  | [c0, c1, c2] =>
    show storeEnd base64code p64 (encodeRest [c0, c1, c2]) = _
    rw [encodeRest_eq (List.cons_ne_nil _ _) (by simp)]
  | c0 :: c1 :: c2 :: c3 :: src =>
    have ih := fun base64code => encodeLoop_storeEnd base64code (p64 + 4) (c3 :: src)
    have hword : wordBytes (packWord (charInt (encodeB0 (word c0 c1 c2 c3)))
        (charInt (encodeB1 (word c0 c1 c2 c3))) (charInt (encodeB2 (word c0 c1 c2 c3)))
        (charInt (encodeB3 (word c0 c1 c2 c3)))) = base64Text [c0, c1, c2] := by
      rw [encodeB0_word, encodeB1_word, encodeB2_word, encodeB3_word, wordBytes_digits]
      simp [base64Text]
    have htext : base64Text (c0 :: c1 :: c2 :: c3 :: src) =
        base64Text [c0, c1, c2] ++ base64Text (c3 :: src) := by simp [base64Text]
    rw [encodeLoop, hword, htext, Option.bind_eq_bind, Option.bind_assoc]
    calc (store base64code p64 (base64Text [c0, c1, c2])).bind _
        = (store base64code p64 (base64Text [c0, c1, c2] ++ [])).bind fun base64code =>
            storeEnd base64code (p64 + (base64Text [c0, c1, c2]).length)
              (base64Text (c3 :: src)) := by
          rw [List.append_nil]
          exact congrArg _ (funext ih)
      _ = storeEnd base64code p64 (base64Text [c0, c1, c2] ++ base64Text (c3 :: src)) :=
          store_bind_storeEnd (Nat.zero_le _)
termination_by src.length

/-- **The buffer holds the text and a terminator exactly when it has room for both.** -/
theorem base64Encode_eq (base64code src : CStr) (src_len : Nat) :
    base64Encode base64code src src_len =
      if (base64Text (sourceBytes src src_len)).length + 1 ≤ base64code.length then
        some (overwrite base64code 0 (base64Text (sourceBytes src src_len) ++ [0]),
          (base64Text (sourceBytes src src_len)).length)
      else none := by
  have hloop := encodeLoop_storeEnd base64code 0 (sourceBytes src src_len)
  rw [storeEnd_eq, Nat.zero_add] at hloop
  exact hloop

end GB28181.GBUtils
