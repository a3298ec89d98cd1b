import GB28181.Base.Bitset
import GB28181.Base.Feistel

/-!
# `DESCryptoPrivoder` (`GBUtils/Algorithm/des.cpp`)

A block cipher on bit sets.  Bit `i` of a set is the bit that a table calls `i + 1`; the bytes of a
text are put into a block with their upper bit first.  The loops over the bits of a set are taken as
they stand, those that write a set in place step by step.

* `ip_rip`, `rip_ip` — the two permutations undo each other, halves included;
* `desTurn_desTurn` — a round undoes itself, whatever its subkey;
* `des_encrypt_eq`, `des_decrypt_eq` — both loops are one network, the subkeys in opposite order;
* `des_decrypt_encrypt`, `des_encrypt_decrypt` — decryption undoes encryption, and the reverse;
* `strFromBlock_blockFromStr`, `blockFromStr_strFromBlock` — texts of 8 bytes are blocks;
* `des_roundtrip` — both together.
-/

set_option autoImplicit false

namespace GB28181.GBUtils

open GB28181.Base

abbrev Block := BitVec 64

abbrev Key := BitVec 56

abbrev Code := BitVec 48

abbrev HBlock := BitVec 32

inductive Action where
  | encrypt
  | decrypt
  deriving DecidableEq

/-! ## Tables -/

def ip_table : List Nat :=
  [58, 50, 42, 34, 26, 18, 10, 2, 60, 52, 44, 36, 28, 20, 12, 4,
   62, 54, 46, 38, 30, 22, 14, 6, 64, 56, 48, 40, 32, 24, 16, 8,
   57, 49, 41, 33, 25, 17, 9, 1, 59, 51, 43, 35, 27, 19, 11, 3,
   61, 53, 45, 37, 29, 21, 13, 5, 63, 55, 47, 39, 31, 23, 15, 7]

def expa_perm : List Nat :=
  [32, 1, 2, 3, 4, 5, 4, 5, 6, 7, 8, 9, 8, 9, 10, 11,
   12, 13, 12, 13, 14, 15, 16, 17, 16, 17, 18, 19, 20, 21, 20, 21,
   22, 23, 24, 25, 24, 25, 26, 27, 28, 29, 28, 29, 30, 31, 32, 1]

def sbox : List (List Nat) :=
  [[14, 4, 13, 1, 2, 15, 11, 8, 3, 10, 6, 12, 5, 9, 0, 7,
    0, 15, 7, 4, 14, 2, 13, 1, 10, 6, 12, 11, 9, 5, 3, 8,
    4, 1, 14, 8, 13, 6, 2, 11, 15, 12, 9, 7, 3, 10, 5, 0,
    15, 12, 8, 2, 4, 9, 1, 7, 5, 11, 3, 14, 10, 0, 6, 13],
   [15, 1, 8, 14, 6, 11, 3, 4, 9, 7, 2, 13, 12, 0, 5, 10,
    3, 13, 4, 7, 15, 2, 8, 14, 12, 0, 1, 10, 6, 9, 11, 5,
    0, 14, 7, 11, 10, 4, 13, 1, 5, 8, 12, 6, 9, 3, 2, 15,
    13, 8, 10, 1, 3, 15, 4, 2, 11, 6, 7, 12, 0, 5, 14, 9],
   [10, 0, 9, 14, 6, 3, 15, 5, 1, 13, 12, 7, 11, 4, 2, 8,
    13, 7, 0, 9, 3, 4, 6, 10, 2, 8, 5, 14, 12, 11, 15, 1,
    13, 6, 4, 9, 8, 15, 3, 0, 11, 1, 2, 12, 5, 10, 14, 7,
    1, 10, 13, 0, 6, 9, 8, 7, 4, 15, 14, 3, 11, 5, 2, 12],
   [7, 13, 14, 3, 0, 6, 9, 10, 1, 2, 8, 5, 11, 12, 4, 15,
    13, 8, 11, 5, 6, 15, 0, 3, 4, 7, 2, 12, 1, 10, 14, 9,
    10, 6, 9, 0, 12, 11, 7, 13, 15, 1, 3, 14, 5, 2, 8, 4,
    3, 15, 0, 6, 10, 1, 13, 8, 9, 4, 5, 11, 12, 7, 2, 14],
   [2, 12, 4, 1, 7, 10, 11, 6, 8, 5, 3, 15, 13, 0, 14, 9,
    14, 11, 2, 12, 4, 7, 13, 1, 5, 0, 15, 10, 3, 9, 8, 6,
    4, 2, 1, 11, 10, 13, 7, 8, 15, 9, 12, 5, 6, 3, 0, 14,
    11, 8, 12, 7, 1, 14, 2, 13, 6, 15, 0, 9, 10, 4, 5, 3],
   [12, 1, 10, 15, 9, 2, 6, 8, 0, 13, 3, 4, 14, 7, 5, 11,
    10, 15, 4, 2, 7, 12, 9, 5, 6, 1, 13, 14, 0, 11, 3, 8,
    9, 14, 15, 5, 2, 8, 12, 3, 7, 0, 4, 10, 1, 13, 11, 6,
    4, 3, 2, 12, 9, 5, 15, 10, 11, 14, 1, 7, 6, 0, 8, 13],
   [4, 11, 2, 14, 15, 0, 8, 13, 3, 12, 9, 7, 5, 10, 6, 1,
    13, 0, 11, 7, 4, 9, 1, 10, 14, 3, 5, 12, 2, 15, 8, 6,
    1, 4, 11, 13, 12, 3, 7, 14, 10, 15, 6, 8, 0, 5, 9, 2,
    6, 11, 13, 8, 1, 4, 10, 7, 9, 5, 0, 15, 14, 2, 3, 12],
   [13, 2, 8, 4, 6, 15, 11, 1, 10, 9, 3, 14, 5, 0, 12, 7,
    1, 15, 13, 8, 10, 3, 7, 4, 12, 5, 6, 11, 0, 14, 9, 2,
    7, 11, 4, 1, 9, 12, 14, 2, 0, 6, 10, 13, 15, 3, 5, 8,
    2, 1, 14, 7, 4, 10, 8, 13, 15, 12, 9, 0, 3, 5, 6, 11]]

def p_table : List Nat :=
  [16, 7, 20, 21, 29, 12, 28, 17, 1, 15, 23, 26, 5, 18, 31, 10,
   2, 8, 24, 14, 32, 27, 3, 9, 19, 13, 30, 6, 22, 11, 4, 25]

def ipr_table : List Nat :=
  [40, 8, 48, 16, 56, 24, 64, 32, 39, 7, 47, 15, 55, 23, 63, 31,
   38, 6, 46, 14, 54, 22, 62, 30, 37, 5, 45, 13, 53, 21, 61, 29,
   36, 4, 44, 12, 52, 20, 60, 28, 35, 3, 43, 11, 51, 19, 59, 27,
   34, 2, 42, 10, 50, 18, 58, 26, 33, 1, 41, 9, 49, 17, 57, 25]

def key_table : List Nat :=
  [57, 49, 41, 33, 25, 17, 9, 1,
   58, 50, 42, 34, 26, 18, 10, 2,
   59, 51, 43, 35, 27, 19, 11, 3,
   60, 52, 44, 36, 63, 55, 47, 39,
   31, 23, 15, 7, 62, 54, 46, 38,
   30, 22, 14, 6, 61, 53, 45, 37,
   29, 21, 13, 5, 28, 20, 12, 4]

def bit_shift : List Nat :=
  [1, 1, 2, 2, 2, 2, 2, 2, 1, 2, 2, 2, 2, 2, 2, 1]

def comp_perm : List Nat :=
  [14, 17, 11, 24, 1, 5, 3, 28,
   15, 6, 21, 10, 23, 19, 12, 4,
   26, 8, 16, 7, 27, 20, 13, 2,
   41, 52, 31, 37, 47, 55, 30, 40,
   51, 45, 33, 48, 44, 49, 39, 56,
   34, 53, 46, 42, 50, 36, 29, 32]

/-- The bit that entry `i` of a table names, counted from zero. -/
def bitAt (table : List Nat) (i : Nat) : Nat := table.getD i 0 - 1

namespace DESCryptoPrivoder

/-! ## The cipher -/

/-- `DESCryptoPrivoder::ip`: the left and the right half. -/
def ip (block : Block) : HBlock × HBlock :=
  (bits 32 fun i => block.getLsbD (bitAt ip_table (i + 32)),
    bits 32 fun i => block.getLsbD (bitAt ip_table i))

/-- One of the eight boxes.  Its four bits go into the front of `code`, where no later box reads. -/
def box (code : Code) (i : Nat) : Code :=
  let row : BitVec 2 := bits 2 fun k => code.getLsbD (if k = 0 then 6 * i else 6 * i + 5)
  let col : BitVec 4 := bits 4 fun k => code.getLsbD (6 * i + k + 1)
  let temp := BitVec.ofNat 4 ((sbox.getD i []).getD (row.toNat * 16 + col.toNat) 0)
  (List.range 4).foldl (fun code j => setBit code (4 * i + j) (temp.getLsbD j)) code

/-- What a round adds to the left half. -/
def pcode (right : HBlock) (subkey : Code) : HBlock :=
  let code : Code := (bits 48 fun i => right.getLsbD (bitAt expa_perm i)) ^^^ subkey
  let code := (List.range 8).foldl box code
  bits 32 fun i => code.getLsbD (bitAt p_table i)

/-- `DESCryptoPrivoder::des_turn`. -/
def desTurn (subkey : Code) (s : HBlock × HBlock) : HBlock × HBlock :=
  (s.1 ^^^ pcode s.2 subkey, s.2)

/-- `DESCryptoPrivoder::exchange`. -/
def exchange (s : HBlock × HBlock) : HBlock × HBlock := (s.2, s.1)

/-- `DESCryptoPrivoder::rip`. -/
def rip (s : HBlock × HBlock) : Block :=
  bits 64 fun i =>
    if ipr_table.getD i 0 ≤ 32 then s.2.getLsbD (bitAt ipr_table i)
    else s.1.getLsbD (bitAt ipr_table i - 32)

/-- One turn of the loop of `getkey`: the last bits of both halves are kept in `result`, and are
the first ones after the shift. -/
def shiftKey (s : Key × Code) (i : Nat) : Key × Code :=
  let n := bit_shift.getD i 0
  let result := (List.range n).foldl (fun result j =>
    setBit (setBit result (48 - n + j) (s.1.getLsbD (56 - n + j))) (24 - n + j)
      (s.1.getLsbD (28 - n + j))) s.2
  let key := (List.range n).foldl (fun key j =>
    setBit (setBit key (28 + j) (result.getLsbD (48 - n + j))) j (result.getLsbD (24 - n + j)))
    (s.1 <<< n)
  (key, result)

/-- `DESCryptoPrivoder::getkey`. -/
def getkey (n : Nat) (bkey : Block) : Code :=
  let key : Key := bits 56 fun i => bkey.getLsbD (bitAt key_table i)
  let s := (List.range (n + 1)).foldl shiftKey (key, 0)
  bits 48 fun i => s.1.getLsbD (bitAt comp_perm i)

/-- `DESCryptoPrivoder::des` with the key of the object. -/
def des (bkey block : Block) : Action → Block
  | .encrypt =>
    rip ((List.range 16).foldl (fun s i =>
      let s := desTurn (getkey i bkey) s
      if i ≠ 15 then exchange s else s) (ip block))
  | .decrypt =>
    rip ((List.range 16).reverse.foldl (fun s i =>
      let s := desTurn (getkey i bkey) s
      if i ≠ 0 then exchange s else s) (ip block))

/-- The bit of its byte that bit `i` of a block is. -/
def charBit (i : Nat) : UInt8 := byteBit (7 - i % 8)

/-- `DESCryptoPrivoder::StrFromBlock`. -/
def strFromBlock (block : Block) : Vector UInt8 8 :=
  (List.range 64).foldl (fun str i =>
    if block.getLsbD i then str.setIfInBounds (i / 8) (str[i / 8]?.getD 0 ||| charBit i) else str)
    (Vector.replicate 8 0)

/-- `DESCryptoPrivoder::BlockFromStr`. -/
def blockFromStr (str : Vector UInt8 8) : Block :=
  bits 64 fun i => decide (str[i / 8]?.getD 0 &&& charBit i ≠ 0)

/-! ## Permutations -/

theorem ip_table_ipr_table {i : Nat} (hi : i < 64) :
    bitAt ipr_table i < 64 ∧ bitAt ip_table (bitAt ipr_table i) = i ∧ ipr_table.getD i 0 ≠ 0 := by
  have hall : ∀ i : Fin 64, bitAt ipr_table i < 64 ∧ bitAt ip_table (bitAt ipr_table i) = i ∧
      ipr_table.getD i 0 ≠ 0 := by decide
  exact hall ⟨i, hi⟩

theorem ipr_table_ip_table {i : Nat} (hi : i < 64) :
    bitAt ip_table i < 64 ∧ bitAt ipr_table (bitAt ip_table i) = i ∧
      ipr_table.getD (bitAt ip_table i) 0 = i + 1 := by
  have hall : ∀ i : Fin 64, bitAt ip_table i < 64 ∧ bitAt ipr_table (bitAt ip_table i) = i ∧
      ipr_table.getD (bitAt ip_table i) 0 = i + 1 := by decide
  exact hall ⟨i, hi⟩

theorem rip_ip (block : Block) : rip (ip block) = block := by
  apply bitset_ext
  intro i hi
  obtain ⟨hlt, hinv, hpos⟩ := ip_table_ipr_table hi
  have hentry : ipr_table.getD i 0 = bitAt ipr_table i + 1 := by
    rw [bitAt]
    omega
  rw [rip, getLsbD_bits hi, hentry]
  split
  · rw [ip, getLsbD_bits (by omega), hinv]
  · rw [ip, getLsbD_bits (by omega), Nat.sub_add_cancel (by omega), hinv]

theorem ip_rip (s : HBlock × HBlock) : ip (rip s) = s := by
  apply Prod.ext
  · apply bitset_ext
    intro i hi
    obtain ⟨hlt, hinv, hentry⟩ := ipr_table_ip_table (show i + 32 < 64 by omega)
    rw [ip, getLsbD_bits hi, rip, getLsbD_bits hlt, if_neg (by omega), hinv,
      Nat.add_sub_cancel]
  · apply bitset_ext
    intro i hi
    obtain ⟨hlt, hinv, hentry⟩ := ipr_table_ip_table (show i < 64 by omega)
    rw [ip, getLsbD_bits hi, rip, getLsbD_bits hlt, if_pos (by omega), hinv]

/-! ## Rounds -/

/-- **A round undoes itself, whatever its subkey.** -/
theorem desTurn_desTurn (subkey : Code) (s : HBlock × HBlock) :
    desTurn subkey (desTurn subkey s) = s := by
  rw [desTurn, desTurn, BitVec.xor_assoc, BitVec.xor_self, BitVec.xor_zero]

theorem exchange_exchange (s : HBlock × HBlock) : exchange (exchange s) = s := rfl

/-- The subkeys in the order of encryption. -/
def subkeys (bkey : Block) : List Code := (List.range 16).map fun i => getkey i bkey

/-- The halves of a block after all rounds with the subkeys. -/
def network (keys : List Code) (block : Block) : Block :=
  rip (rounds desTurn exchange keys (ip block))

theorem des_encrypt_eq (bkey block : Block) :
    des bkey block .encrypt = network (subkeys bkey) block := by
  rfl

theorem des_decrypt_eq (bkey block : Block) :
    des bkey block .decrypt = network (subkeys bkey).reverse block := by
  rfl

/-- **Decryption undoes encryption.** -/
theorem des_decrypt_encrypt (bkey block : Block) :
    des bkey (des bkey block .encrypt) .decrypt = block := by
  rw [des_encrypt_eq, des_decrypt_eq, network, network, ip_rip,
    rounds_reverse desTurn_desTurn exchange_exchange, rip_ip]

theorem des_encrypt_decrypt (bkey block : Block) :
    des bkey (des bkey block .decrypt) .encrypt = block := by
  have hback := rounds_reverse desTurn_desTurn exchange_exchange (subkeys bkey).reverse (ip block)
  rw [List.reverse_reverse] at hback
  rw [des_encrypt_eq, des_decrypt_eq, network, network, ip_rip, hback, rip_ip]

/-! ## Texts -/

/-- The text after the first `n` bits of the block. -/
def strUpTo (block : Block) (n : Nat) : Vector UInt8 8 :=
  (List.range n).foldl (fun str i =>
    if block.getLsbD i then str.setIfInBounds (i / 8) (str[i / 8]?.getD 0 ||| charBit i) else str)
    (Vector.replicate 8 0)

theorem strUpTo_succ (block : Block) (n : Nat) : strUpTo block (n + 1) =
    if block.getLsbD n then
      (strUpTo block n).setIfInBounds (n / 8) ((strUpTo block n)[n / 8]?.getD 0 ||| charBit n)
    else strUpTo block n := by
  rw [strUpTo, List.range_succ, List.foldl_append]
  rfl

/-- The bits of the first `n` positions are those of the block, the others zero. -/
theorem getLsbD_strUpTo (block : Block) {n : Nat} (hn : n ≤ 64) {k j : Nat} (hk : k < 8)
    (hj : j < 8) : ((strUpTo block n)[k]).toBitVec.getLsbD (7 - j) =
      (decide (8 * k + j < n) && block.getLsbD (8 * k + j)) := by
  induction n with
  | zero =>
    rw [strUpTo, List.range_zero, List.foldl_nil, Vector.getElem_replicate]
    simp
  | succ n ih =>
    have ih := ih (by omega)
    -- the bit that is added is the one at `8 * (n / 8) + n % 8`
    have hpos : decide (8 * k + j < n + 1) =
        (decide (8 * k + j < n) || decide (8 * k + j = n)) := by
      rw [← Bool.decide_or]
      congr 1
      exact propext Nat.lt_succ_iff_lt_or_eq
    rw [strUpTo_succ, hpos]
    by_cases hbit : block.getLsbD n = true
    · rw [if_pos hbit, Vector.getElem_setIfInBounds]
      by_cases hbyte : n / 8 = k
      · have hsame : decide (7 - j = 7 - n % 8) = decide (8 * k + j = n) := by
          congr 1
          exact propext ⟨fun h => by omega, fun h => by omega⟩
        rw [if_pos hbyte, hbyte, Vector.getElem?_eq_getElem hk, Option.getD_some, charBit,
          getLsbD_or_byteBit _ (by omega), ih, hsame]
        by_cases heq : 8 * k + j = n
        · simp [heq, hbit]
        · simp [heq]
      · rw [if_neg hbyte, ih, decide_eq_false (show ¬ 8 * k + j = n by omega), Bool.or_false]
    · rw [if_neg hbit, ih]
      by_cases heq : 8 * k + j = n
      · simp [heq, hbit]
      · simp [heq]

theorem strFromBlock_eq (block : Block) : strFromBlock block = strUpTo block 64 := rfl

theorem blockFromStr_strFromBlock (block : Block) : blockFromStr (strFromBlock block) = block := by
  apply bitset_ext
  intro i hi
  have hk : i / 8 < 8 := by omega
  have hbit := getLsbD_strUpTo block (Nat.le_refl 64) hk (show i % 8 < 8 by omega)
  rw [Nat.div_add_mod, decide_eq_true hi, Bool.true_and] at hbit
  rw [blockFromStr, getLsbD_bits hi, strFromBlock_eq, Vector.getElem?_eq_getElem hk,
    Option.getD_some, charBit, ← hbit]
  simp [and_byteBit_ne_zero_iff _ (show 7 - i % 8 < 8 by omega)]

theorem strFromBlock_blockFromStr (str : Vector UInt8 8) :
    strFromBlock (blockFromStr str) = str := by
  apply Vector.ext
  intro k hk
  apply byte_ext
  intro j hj
  have hbit := getLsbD_strUpTo (blockFromStr str) (Nat.le_refl 64) hk (show 7 - j < 8 by omega)
  have hsub : 7 - (7 - j) = j := by omega
  rw [hsub, decide_eq_true (by omega), Bool.true_and, blockFromStr, getLsbD_bits (by omega)] at hbit
  have hk' : (8 * k + (7 - j)) / 8 = k := by omega
  have hj' : 7 - (8 * k + (7 - j)) % 8 = j := by omega
  rw [strFromBlock_eq, blockFromStr, hbit, hk', Vector.getElem?_eq_getElem hk, Option.getD_some,
    charBit, hj']
  simp [and_byteBit_ne_zero_iff _ hj]

/-- **The block cipher and its texts.** -/
theorem des_roundtrip (bkey block : Block) (str : Vector UInt8 8) :
    des bkey (des bkey block .encrypt) .decrypt = block ∧
      strFromBlock (blockFromStr str) = str ∧ blockFromStr (strFromBlock block) = block :=
  ⟨des_decrypt_encrypt bkey block, strFromBlock_blockFromStr str, blockFromStr_strFromBlock block⟩

end DESCryptoPrivoder

end GB28181.GBUtils
