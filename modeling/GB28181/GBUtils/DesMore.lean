import GB28181.GBUtils.DesNetwork
import Mathlib.Data.List.GetD

/-!
# `DES` (`GBUtils/Algorithm/des_more.cpp`)

The other block cipher, on 64-bit words whose highest bit is the one that a table calls 1.

* `fromFirst_permute` — the loop behind every table selects what the table names;
* `fromFirst_keygen`, `fromFirst_f` — the key schedule and the function of a round;
* `encrypt_eq_cipher` — **`DES::encrypt` is the network with the standard conventions**;
* `fromFirst_bigEndian`, `agree_of_mirrors` — **where both ciphers agree** on texts of 8 bytes.
-/

set_option autoImplicit false

namespace GB28181.GBUtils

open GB28181.Base

namespace DES

open DesNetwork (select rotate subkey shiftTotal boxBit substitute turn halves join cipher standard
  mirrored Mirrors cipher_of_mirrors)

/-! ## Tables -/

def PC1 : List Nat :=
  [57, 49, 41, 33, 25, 17, 9,
   1, 58, 50, 42, 34, 26, 18,
   10, 2, 59, 51, 43, 35, 27,
   19, 11, 3, 60, 52, 44, 36,
   63, 55, 47, 39, 31, 23, 15,
   7, 62, 54, 46, 38, 30, 22,
   14, 6, 61, 53, 45, 37, 29,
   21, 13, 5, 28, 20, 12, 4]

def PC2 : List Nat :=
  [14, 17, 11, 24, 1, 5,
   3, 28, 15, 6, 21, 10,
   23, 19, 12, 4, 26, 8,
   16, 7, 27, 20, 13, 2,
   41, 52, 31, 37, 47, 55,
   30, 40, 51, 45, 33, 48,
   44, 49, 39, 56, 34, 53,
   46, 42, 50, 36, 29, 32]

def ITERATION_SHIFT : List Nat :=
  [1, 1, 2, 2, 2, 2, 2, 2, 1, 2, 2, 2, 2, 2, 2, 1]

def IP : List Nat :=
  [58, 50, 42, 34, 26, 18, 10, 2,
   60, 52, 44, 36, 28, 20, 12, 4,
   62, 54, 46, 38, 30, 22, 14, 6,
   64, 56, 48, 40, 32, 24, 16, 8,
   57, 49, 41, 33, 25, 17, 9, 1,
   59, 51, 43, 35, 27, 19, 11, 3,
   61, 53, 45, 37, 29, 21, 13, 5,
   63, 55, 47, 39, 31, 23, 15, 7]

def FP : List Nat :=
  [40, 8, 48, 16, 56, 24, 64, 32,
   39, 7, 47, 15, 55, 23, 63, 31,
   38, 6, 46, 14, 54, 22, 62, 30,
   37, 5, 45, 13, 53, 21, 61, 29,
   36, 4, 44, 12, 52, 20, 60, 28,
   35, 3, 43, 11, 51, 19, 59, 27,
   34, 2, 42, 10, 50, 18, 58, 26,
   33, 1, 41, 9, 49, 17, 57, 25]

def EXPANSION : List Nat :=
  [32, 1, 2, 3, 4, 5,
   4, 5, 6, 7, 8, 9,
   8, 9, 10, 11, 12, 13,
   12, 13, 14, 15, 16, 17,
   16, 17, 18, 19, 20, 21,
   20, 21, 22, 23, 24, 25,
   24, 25, 26, 27, 28, 29,
   28, 29, 30, 31, 32, 1]

def SBOX : List (List Nat) :=
  [[14, 4, 13, 1, 2, 15, 11, 8, 3, 10, 6, 12, 5, 9, 0, 7,
    0, 15, 7, 4, 14, 2, 13, 1, 10, 6, 12, 11, 9, 5, 3, 8,
    4, 1, 14, 8, 13, 6, 2, 11, 15, 12, 9, 7, 3, 10, 5, 0,
    15, 12, 8, 2, 4, 9, 1, 7, 5, 11, 3, 14, 10, 0, 6, 13],
   [15, 1, 8, 14, 6, 11, 3, 4, 9, 7, 2, 13, 12, 0, 5, 10,
    3, 13, 4, 7, 15, 2, 8, 14, 12, 0, 1, 10, 6, 9, 11, 5,
    0, 14, 7, 11, 10, 4, 13, 1, 5, 8, 12, 6, 9, 3, 2, 15,
    13, 8, 10, 1, 3, 15, 4, 2, 11, 6, 7, 12, 0, 5, 14, 9],
   [10, 0, 9, 14, 6, 3, 15, 5, 1, 13, 12, 7, 11, 4, 2, 8,
    13, 7, 0, 9, 3, 4, 6, 10, 2, 8, 5, 14, 12, 11, 15, 1,
    13, 6, 4, 9, 8, 15, 3, 0, 11, 1, 2, 12, 5, 10, 14, 7,
    1, 10, 13, 0, 6, 9, 8, 7, 4, 15, 14, 3, 11, 5, 2, 12],
   [7, 13, 14, 3, 0, 6, 9, 10, 1, 2, 8, 5, 11, 12, 4, 15,
    13, 8, 11, 5, 6, 15, 0, 3, 4, 7, 2, 12, 1, 10, 14, 9,
    10, 6, 9, 0, 12, 11, 7, 13, 15, 1, 3, 14, 5, 2, 8, 4,
    3, 15, 0, 6, 10, 1, 13, 8, 9, 4, 5, 11, 12, 7, 2, 14],
   [2, 12, 4, 1, 7, 10, 11, 6, 8, 5, 3, 15, 13, 0, 14, 9,
    14, 11, 2, 12, 4, 7, 13, 1, 5, 0, 15, 10, 3, 9, 8, 6,
    4, 2, 1, 11, 10, 13, 7, 8, 15, 9, 12, 5, 6, 3, 0, 14,
    11, 8, 12, 7, 1, 14, 2, 13, 6, 15, 0, 9, 10, 4, 5, 3],
   [12, 1, 10, 15, 9, 2, 6, 8, 0, 13, 3, 4, 14, 7, 5, 11,
    10, 15, 4, 2, 7, 12, 9, 5, 6, 1, 13, 14, 0, 11, 3, 8,
    9, 14, 15, 5, 2, 8, 12, 3, 7, 0, 4, 10, 1, 13, 11, 6,
    4, 3, 2, 12, 9, 5, 15, 10, 11, 14, 1, 7, 6, 0, 8, 13],
   [4, 11, 2, 14, 15, 0, 8, 13, 3, 12, 9, 7, 5, 10, 6, 1,
    13, 0, 11, 7, 4, 9, 1, 10, 14, 3, 5, 12, 2, 15, 8, 6,
    1, 4, 11, 13, 12, 3, 7, 14, 10, 15, 6, 8, 0, 5, 9, 2,
    6, 11, 13, 8, 1, 4, 10, 7, 9, 5, 0, 15, 14, 2, 3, 12],
   [13, 2, 8, 4, 6, 15, 11, 1, 10, 9, 3, 14, 5, 0, 12, 7,
    1, 15, 13, 8, 10, 3, 7, 4, 12, 5, 6, 11, 0, 14, 9, 2,
    7, 11, 4, 1, 9, 12, 14, 2, 0, 6, 10, 13, 15, 3, 5, 8,
    2, 1, 14, 7, 4, 10, 8, 13, 15, 12, 9, 0, 3, 5, 6, 11]]

def PBOX : List Nat :=
  [16, 7, 20, 21,
   29, 12, 28, 17,
   1, 15, 23, 26,
   5, 18, 31, 10,
   2, 8, 24, 14,
   32, 27, 3, 9,
   19, 13, 30, 6,
   22, 11, 4, 25]

/-! ## The cipher -/

/-- `result <<= 1; result |= (word >> (n - table[i])) & 1` for every entry of a table. -/
def permute {m : Nat} (n r : Nat) (table : List Nat) (word : BitVec m) : BitVec r :=
  table.foldl (fun result t => result <<< 1 ||| ((word >>> (n - t)) &&& 1#m).setWidth r) 0#r

/-- One step of the shift of `C` or `D`. -/
def shiftHalf (C : BitVec 32) : BitVec 32 :=
  (0x0fffffff#32 &&& (C <<< 1)) ||| (0x00000001#32 &&& (C >>> 27))

/-- `permuted_choice_2` -/
def choice (C D : BitVec 32) : BitVec 64 := C.setWidth 64 <<< 28 ||| D.setWidth 64

/-- One turn of the loop of `keygen`: `C`, `D` and the keys so far. -/
def keyTurn (s : (BitVec 32 × BitVec 32) × List (BitVec 64)) (i : Nat) :
    (BitVec 32 × BitVec 32) × List (BitVec 64) :=
  let (C, D) := (List.range (ITERATION_SHIFT.getD i 0)).foldl
    (fun CD _ => (shiftHalf CD.1, shiftHalf CD.2)) s.1
  ((C, D), s.2 ++ [permute 56 64 PC2 (choice C D)])

/-- `DES::keygen`: the array `sub_key`. -/
def keygen (key : BitVec 64) : List (BitVec 64) :=
  let permuted_choice_1 : BitVec 64 := permute 64 64 PC1 key
  let C := ((permuted_choice_1 >>> 28) &&& 0x000000000fffffff#64).setWidth 32
  let D := (permuted_choice_1 &&& 0x000000000fffffff#64).setWidth 32
  ((List.range 16).foldl keyTurn ((C, D), [])).2

def ip (block : BitVec 64) : BitVec 64 := permute 64 64 IP block

def fp (block : BitVec 64) : BitVec 64 := permute 64 64 FP block

/-- `DES::feistel` -/
def feistel (s : BitVec 32 × BitVec 32) (F : BitVec 32) : BitVec 32 × BitVec 32 := (s.2, s.1 ^^^ F)

/-- The outer bits of box `i`.  A `char` holds at most 0x21 here, so that its sign plays no part. -/
def boxRow (s_input : BitVec 64) (i : Nat) : BitVec 8 :=
  let row := ((s_input &&& (0x0000840000000000#64 >>> (6 * i))) >>> (42 - 6 * i)).setWidth 8
  (row >>> 4) ||| (row &&& 0x01#8)

/-- The middle four bits of box `i`. -/
def boxColumn (s_input : BitVec 64) (i : Nat) : BitVec 8 :=
  ((s_input &&& (0x0000780000000000#64 >>> (6 * i))) >>> (43 - 6 * i)).setWidth 8

/-- What box `i` gives. -/
def boxValue (s_input : BitVec 64) (i : Nat) : BitVec 32 :=
  BitVec.ofNat 32 ((SBOX.getD i []).getD (16 * (boxRow s_input i).toNat +
    (boxColumn s_input i).toNat) 0) &&& 0x0f#32

/-- `DES::f` -/
def f (R : BitVec 32) (k : BitVec 64) : BitVec 32 :=
  let s_input : BitVec 64 := permute 32 64 EXPANSION R ^^^ k
  let s_output : BitVec 32 :=
    (List.range 8).foldl (fun s_output i => s_output <<< 4 ||| boxValue s_input i) 0
  permute 32 32 PBOX s_output

/-- `DES::des` -/
def des (sub_key : List (BitVec 64)) (block : BitVec 64) (mode : Bool) : BitVec 64 :=
  let block := ip block
  let L : BitVec 32 := ((block >>> 32) &&& 0x00000000ffffffff#64).setWidth 32
  let R : BitVec 32 := (block &&& 0x00000000ffffffff#64).setWidth 32
  let (L, R) := (List.range 16).foldl (fun s i =>
    feistel s (if mode then f s.2 (sub_key.getD (15 - i) 0) else f s.2 (sub_key.getD i 0))) (L, R)
  fp ((R.setWidth 64 <<< 32) ||| L.setWidth 64)

/-- `DES::encrypt` with a key. -/
def encrypt (block key : BitVec 64) : BitVec 64 := des (keygen key) block false

/-! ## Tables on bit sets -/

section

variable {m n r : Nat}

theorem getLsbD_permute_bit (hm : 0 < m) (word : BitVec m) (t : Nat) (hr : 0 < r) {j : Nat} :
    (((word >>> (n - t)) &&& 1#m).setWidth r).getLsbD j = (decide (j = 0) && word.getLsbD (n - t)) := by
  rw [BitVec.getLsbD_setWidth, BitVec.getLsbD_and, BitVec.getLsbD_ushiftRight, BitVec.getLsbD_one]
  by_cases hj : j = 0
  · subst hj
    simp [hm, hr]
  · simp [hj]

/-- The bits of a word that the loop over a table leaves, from the last one. -/
theorem getLsbD_permute (hm : 0 < m) (word : BitVec m) (hr : 0 < r) (table : List Nat) {j : Nat}
    (hj : j < r) : (permute n r table word).getLsbD j =
      (decide (j < table.length) && word.getLsbD (n - table.getD (table.length - 1 - j) 0)) := by
  induction table using List.reverseRecOn generalizing j with
  | nil => simp [permute]
  | append_singleton table t ih =>
    have hfold : permute n r (table ++ [t]) word =
        permute n r table word <<< 1 ||| ((word >>> (n - t)) &&& 1#m).setWidth r := by
      rw [permute, List.foldl_append]
      rfl
    rw [hfold, BitVec.getLsbD_or, getLsbD_permute_bit hm word t hr, BitVec.getLsbD_shiftLeft,
      List.length_append, List.length_singleton]
    cases j with
    | zero => simp
    | succ j =>
      have hlast : table.length + 1 - 1 - (j + 1) = table.length - 1 - j := by omega
      rw [Nat.add_sub_cancel, ih (by omega), hlast]
      by_cases hin : j < table.length
      · rw [List.getD_append _ _ _ _ (by omega)]
        simp [hj, hin]
      · simp [hj, hin]

/-- **A table** selects the bits it names. -/
theorem fromFirst_permute {l : Nat} (hm : 0 < m) (word : BitVec m) {table : List Nat}
    (hlen : table.length = l) (hle : l ≤ r) (ht : ∀ t ∈ table, 0 < t ∧ t ≤ n) :
    fromFirst l (permute n r table word) = select table l (fromFirst n word) := by
  subst hlen
  apply bitset_ext
  intro i hi
  have hmem : table.getD i 0 ∈ table := by
    rw [List.getD_eq_getElem _ _ hi]
    exact List.getElem_mem hi
  obtain ⟨hpos, hbound⟩ := ht _ hmem
  have hback : table.length - 1 - (table.length - 1 - i) = i := by omega
  have hbit : n - 1 - bitAt table i = n - table.getD i 0 := by
    rw [bitAt]
    omega
  rw [getLsbD_fromFirst _ hi, getLsbD_permute hm word (by omega) table (by omega), hback,
    decide_eq_true (by omega), Bool.true_and, select, getLsbD_bits hi, getLsbD_fromFirst, hbit]
  rw [bitAt]
  omega

end

/-! ## The key -/

/-- Both halves of a key are the last 28 bits of `C` and `D`, and nothing else is. -/
structure Holds (CD : BitVec 32 × BitVec 32) (key : Key) : Prop where
  front : ∀ j < 32, CD.1.getLsbD j = (decide (j < 28) && key.getLsbD (27 - j))
  back : ∀ j < 32, CD.2.getLsbD j = (decide (j < 28) && key.getLsbD (55 - j))

theorem getLsbD_shiftHalf (C : BitVec 32) {j : Nat} (hj : j < 32) : (shiftHalf C).getLsbD j =
    (decide (j < 28) && C.getLsbD (if j = 0 then 27 else j - 1)) := by
  rw [shiftHalf, BitVec.getLsbD_or, BitVec.getLsbD_and, BitVec.getLsbD_and,
    @getLsbD_mask 32 28 0x0fffffff#32 (by decide) j hj,
    BitVec.getLsbD_shiftLeft, BitVec.getLsbD_ushiftRight, BitVec.getLsbD_one]
  by_cases h0 : j = 0
  · subst h0
    simp
  · simp [h0, hj, show ¬ j < 1 by omega]

/-- A half that is shifted holds a half of the rotated key, whose first bit is bit `base`. -/
theorem getLsbD_shiftHalf_of_holds {C : BitVec 32} {key : Key} {base : Nat}
    (hbase : base = 0 ∨ base = 28)
    (h : ∀ j < 32, C.getLsbD j = (decide (j < 28) && key.getLsbD (base + 27 - j))) {j : Nat}
    (hj : j < 32) : (shiftHalf C).getLsbD j =
      (decide (j < 28) && (rotate true key).getLsbD (base + 27 - j)) := by
  rw [getLsbD_shiftHalf C hj]
  by_cases hlt : j < 28
  · rw [h _ (by split <;> omega), rotate, getLsbD_bits (by omega), if_pos rfl,
      decide_eq_true (show (if j = 0 then 27 else j - 1) < 28 by split <;> omega), Bool.true_and]
    congr 2
    split <;> omega
  · rw [decide_eq_false hlt, Bool.false_and, Bool.false_and]

/-- **A shift of both halves** rotates the key. -/
theorem Holds.shift {CD : BitVec 32 × BitVec 32} {key : Key} (h : Holds CD key) :
    Holds (shiftHalf CD.1, shiftHalf CD.2) (rotate true key) where
  front j hj := by
    have hfront := @getLsbD_shiftHalf_of_holds CD.1 key 0 (Or.inl rfl) (by simpa using h.front) j hj
    simpa using hfront
  back j hj := getLsbD_shiftHalf_of_holds (Or.inr rfl) h.back hj

theorem Holds.shifts {CD : BitVec 32 × BitVec 32} {key : Key} (h : Holds CD key) (n : Nat) :
    Holds ((List.range n).foldl (fun CD _ => (shiftHalf CD.1, shiftHalf CD.2)) CD)
      ((rotate true)^[n] key) := by
  induction n with
  | zero => exact h
  | succ n ih =>
    rw [List.range_succ, List.foldl_append, Function.iterate_succ_apply']
    exact ih.shift

theorem Holds.fromFirst_choice {CD : BitVec 32 × BitVec 32} {key : Key} (h : Holds CD key) :
    fromFirst 56 (choice CD.1 CD.2) = key := by
  apply bitset_ext
  intro i hi
  rw [getLsbD_fromFirst _ hi, choice, BitVec.getLsbD_or, BitVec.getLsbD_shiftLeft,
    BitVec.getLsbD_setWidth, BitVec.getLsbD_setWidth]
  by_cases hlt : i < 28
  · have hback : CD.2.getLsbD (56 - 1 - i) = false := by
      by_cases hword : 56 - 1 - i < 32
      · rw [h.back _ hword, decide_eq_false (by omega), Bool.false_and]
      · exact BitVec.getLsbD_of_ge _ _ (by omega)
    have hfront : 27 - (56 - 1 - i - 28) = i := by omega
    rw [hback, h.front _ (by omega), hfront]
    simp [show 56 - 1 - i < 64 by omega, show ¬ 56 - 1 - i < 28 by omega,
      show 56 - 1 - i - 28 < 64 by omega, show 56 - 1 - i - 28 < 28 by omega]
  · have hback : 55 - (56 - 1 - i) = i := by omega
    rw [h.back _ (by omega), hback]
    simp [show 56 - 1 - i < 64 by omega, show 56 - 1 - i < 28 by omega]

theorem PC1_eq : PC1 = key_table := by decide
theorem PC2_eq : PC2 = comp_perm := by decide
theorem IP_eq : IP = ip_table := by decide
theorem FP_eq : FP = ipr_table := by decide
theorem EXPANSION_eq : EXPANSION = expa_perm := by decide
theorem SBOX_eq : SBOX = sbox := by decide
theorem PBOX_eq : PBOX = p_table := by decide

theorem holds_start (key : BitVec 64) :
    Holds ((((permute 64 64 PC1 key : BitVec 64) >>> 28) &&& 0x000000000fffffff#64).setWidth 32,
        ((permute 64 64 PC1 key : BitVec 64) &&& 0x000000000fffffff#64).setWidth 32)
      (select key_table 56 (fromFirst 64 key)) := by
  have hmask : ∀ j < 64, (0x000000000fffffff#64).getLsbD j = decide (j < 28) :=
    fun j hj => getLsbD_mask (by decide) hj
  have hchoice : fromFirst 56 (permute 64 64 PC1 key : BitVec 64) =
      select key_table 56 (fromFirst 64 key) := by
    rw [@fromFirst_permute 64 64 64 56 (by decide) key PC1 (by decide) (by decide) (by decide),
      PC1_eq]
  have hbit : ∀ j < 56, (permute 64 64 PC1 key : BitVec 64).getLsbD j =
      (select key_table 56 (fromFirst 64 key)).getLsbD (55 - j) := by
    intro j hj
    have hback : 56 - 1 - (55 - j) = j := by omega
    rw [← hchoice, getLsbD_fromFirst _ (by omega), hback]
  constructor
  · intro j hj
    dsimp only
    rw [BitVec.getLsbD_setWidth, BitVec.getLsbD_and, hmask j (by omega), BitVec.getLsbD_ushiftRight]
    by_cases hlt : j < 28
    · rw [hbit _ (by omega)]
      simp [hlt, hj, show 55 - (28 + j) = 27 - j by omega]
    · simp [hlt]
  · intro j hj
    dsimp only
    rw [BitVec.getLsbD_setWidth, BitVec.getLsbD_and, hmask j (by omega)]
    by_cases hlt : j < 28
    · rw [hbit _ (by omega)]
      simp [hlt, hj]
    · simp [hlt]

theorem Holds.fromFirst_subKey {CD : BitVec 32 × BitVec 32} {key : Key} (h : Holds CD key) :
    fromFirst 48 (permute 56 64 PC2 (choice CD.1 CD.2) : BitVec 64) = select comp_perm 48 key := by
  rw [@fromFirst_permute 64 56 64 48 (by decide) (choice CD.1 CD.2) PC2 (by decide) (by decide)
    (by decide), h.fromFirst_choice, PC2_eq]

/-- The shifts of the first `n` turns. -/
def shiftSum (n : Nat) : Nat := ((List.range n).map fun i => ITERATION_SHIFT.getD i 0).sum

theorem shiftSum_succ (n : Nat) : shiftSum (n + 1) = ITERATION_SHIFT.getD n 0 + shiftSum n := by
  rw [shiftSum, List.range_succ, List.map_append, List.sum_append, Nat.add_comm]
  rfl

theorem keyTurns {CD : BitVec 32 × BitVec 32} {key : Key} (h : Holds CD key) (n : Nat) :
    Holds ((List.range n).foldl keyTurn (CD, [])).1 ((rotate true)^[shiftSum n] key) ∧
      ((List.range n).foldl keyTurn (CD, [])).2.map (fromFirst 48) =
        (List.range n).map fun i =>
          select comp_perm 48 ((rotate true)^[shiftSum (i + 1)] key) := by
  induction n with
  | zero => exact ⟨h, rfl⟩
  | succ n ih =>
    obtain ⟨hholds, hkeys⟩ := ih
    have hnext := hholds.shifts (ITERATION_SHIFT.getD n 0)
    rw [← Function.iterate_add_apply, ← shiftSum_succ] at hnext
    have hkey := hnext.fromFirst_subKey
    rw [List.range_succ, List.foldl_append, List.foldl_cons, List.foldl_nil, keyTurn]
    refine ⟨hnext, ?_⟩
    rw [List.map_append, hkeys, List.map_append, List.map_singleton, List.map_singleton, hkey]

/-- **The subkeys** are those of the network that rotates to the front. -/
theorem fromFirst_keygen (key : BitVec 64) :
    (keygen key).map (fromFirst 48) = (List.range 16).map (subkey true (fromFirst 64 key)) := by
  have htotal : ∀ n < 16, shiftSum (n + 1) = shiftTotal n := by decide
  rw [keygen, (keyTurns (holds_start key) 16).2]
  apply List.map_congr_left
  intro n hn
  rw [subkey, htotal n (List.mem_range.mp hn)]

theorem length_keygen (key : BitVec 64) : (keygen key).length = 16 := by
  have hlen := congrArg List.length (fromFirst_keygen key)
  rwa [List.length_map, List.length_map, List.length_range] at hlen

/-! ## Rounds -/

theorem getLsbD_masked (s_input mask : BitVec 64) (a b : Nat) {j : Nat} (hj : j < 8) :
    (((s_input &&& (mask >>> a)) >>> b).setWidth 8).getLsbD j =
      (s_input.getLsbD (b + j) && mask.getLsbD (a + (b + j))) := by
  rw [BitVec.getLsbD_setWidth, BitVec.getLsbD_ushiftRight, BitVec.getLsbD_and,
    BitVec.getLsbD_ushiftRight, decide_eq_true hj, Bool.true_and]

theorem boxRow_eq (s_input : BitVec 64) {i : Nat} (hi : i < 8) :
    boxRow s_input i =
      (bits 2 fun k => (fromFirst 48 s_input).getLsbD (6 * i + (5 - 5 * k))).setWidth 8 := by
  have hmask : ∀ j < 8, (0x0000840000000000#64).getLsbD (42 + j) = decide (j = 0 ∨ j = 5) := by
    decide
  have hbit : ∀ j < 8, (((s_input &&& (0x0000840000000000#64 >>> (6 * i))) >>>
      (42 - 6 * i)).setWidth 8).getLsbD j =
        (s_input.getLsbD (42 - 6 * i + j) && decide (j = 0 ∨ j = 5)) := by
    intro j hj
    rw [getLsbD_masked _ _ _ _ hj, ← hmask j hj]
    congr 2
    omega
  rw [boxRow]
  generalize ((s_input &&& (0x0000840000000000#64 >>> (6 * i))) >>> (42 - 6 * i)).setWidth 8 =
    row at hbit ⊢
  apply bitset_ext
  intro j hj
  rw [BitVec.getLsbD_or, BitVec.getLsbD_and, BitVec.getLsbD_ushiftRight, BitVec.getLsbD_one,
    BitVec.getLsbD_setWidth, decide_eq_true hj, Bool.true_and]
  rcases Nat.lt_or_ge j 2 with hlt | hge
  · rw [getLsbD_bits hlt, getLsbD_fromFirst _ (by omega), hbit _ (by omega), hbit _ (by omega)]
    obtain rfl | rfl : j = 0 ∨ j = 1 := by omega
    · have hword : 48 - 1 - (6 * i + (5 - 5 * 0)) = 42 - 6 * i + 0 := by omega
      rw [hword]
      simp
    · have hword : 48 - 1 - (6 * i + (5 - 5 * 1)) = 42 - 6 * i + (4 + 1) := by omega
      rw [hword]
      simp
  · have hhigh : row.getLsbD (4 + j) = false := by
      by_cases hin : 4 + j < 8
      · rw [hbit _ hin, decide_eq_false (by omega), Bool.and_false]
      · exact BitVec.getLsbD_of_ge _ _ (by omega)
    rw [hhigh, BitVec.getLsbD_of_ge (bits 2 _) _ (by omega)]
    simp [show j ≠ 0 by omega]

theorem boxColumn_eq (s_input : BitVec 64) {i : Nat} (hi : i < 8) :
    boxColumn s_input i =
      (bits 4 fun k => (fromFirst 48 s_input).getLsbD (6 * i + (4 - k))).setWidth 8 := by
  have hmask : ∀ j < 8, (0x0000780000000000#64).getLsbD (43 + j) = decide (j < 4) := by decide
  apply bitset_ext
  intro j hj
  have hpos : 6 * i + (43 - 6 * i + j) = 43 + j := by omega
  rw [boxColumn, getLsbD_masked _ _ _ _ hj, hpos, hmask j hj, BitVec.getLsbD_setWidth,
    decide_eq_true hj, Bool.true_and]
  by_cases hlt : j < 4
  · have hword : 48 - 1 - (6 * i + (4 - j)) = 43 - 6 * i + j := by omega
    rw [getLsbD_bits hlt, getLsbD_fromFirst _ (by omega), hword, decide_eq_true hlt, Bool.and_true]
  · rw [decide_eq_false hlt, Bool.and_false, BitVec.getLsbD_of_ge _ _ (by omega)]

theorem getLsbD_boxValue_of_ge (s_input : BitVec 64) (i : Nat) :
    ∀ j < 32, 4 ≤ j → (boxValue s_input i).getLsbD j = false := by
  intro j hj hge
  rw [boxValue, BitVec.getLsbD_and, @getLsbD_mask 32 4 0x0f#32 (by decide) j hj,
    decide_eq_false (by omega), Bool.and_false]

/-- **A box** on a word, the first of its bits the highest one. -/
theorem getLsbD_boxValue (s_input : BitVec 64) {i : Nat} (hi : i < 8) {j : Nat} (hj : j < 4) :
    (boxValue s_input i).getLsbD j =
      boxBit true i (fun k => (fromFirst 48 s_input).getLsbD (6 * i + k)) (3 - j) := by
  have hback : 3 - (3 - j) = j := by omega
  rw [boxValue, BitVec.getLsbD_and, @getLsbD_mask 32 4 0x0f#32 (by decide) j (by omega),
    decide_eq_true hj, Bool.and_true, boxRow_eq s_input hi, boxColumn_eq s_input hi, BitVec.toNat_setWidth_of_le (by decide),
    BitVec.toNat_setWidth_of_le (by decide), SBOX_eq, Nat.mul_comm 16, BitVec.getLsbD_ofNat,
    boxBit]
  simp only [if_true, hback]
  rw [BitVec.getLsbD_ofNat, decide_eq_true (by omega), decide_eq_true hj]

/-- **The function of a round.** -/
theorem fromFirst_f (R : BitVec 32) (k : BitVec 64) :
    fromFirst 32 (f R k) = DesNetwork.f true (fromFirst 32 R) (fromFirst 48 k) := by
  have hexpand := @fromFirst_permute 32 32 64 48 (by decide) R EXPANSION (by decide) (by decide)
    (by decide)
  rw [f]
  generalize hinput : (permute 32 64 EXPANSION R ^^^ k : BitVec 64) = s_input
  have hcode : fromFirst 48 s_input = select expa_perm 48 (fromFirst 32 R) ^^^ fromFirst 48 k := by
    rw [← hinput, fromFirst_xor, hexpand, EXPANSION_eq]
  have hboxes : fromFirst 32 ((List.range 8).foldl
      (fun (s_output : BitVec 32) i => s_output <<< 4 ||| boxValue s_input i) 0) =
        substitute true (fromFirst 48 s_input) := by
    apply bits_congr
    intro m hm
    have hbox : 8 - 1 - (32 - 1 - m) / 4 = m / 4 := by omega
    have hbit : 3 - (32 - 1 - m) % 4 = m % 4 := by omega
    rw [getLsbD_foldl_groups (by decide) _ (getLsbD_boxValue_of_ge s_input) (by omega), hbox,
      getLsbD_boxValue s_input (by omega) (by omega), hbit, decide_eq_true (by omega),
      Bool.true_and]
  rw [@fromFirst_permute 32 32 32 32 (by decide) _ PBOX (by decide) (by decide) (by decide), hboxes,
    hcode, PBOX_eq, DesNetwork.f]

/-! ## The cipher -/

theorem fromFirst_ip (block : BitVec 64) :
    fromFirst 64 (ip block) = select ip_table 64 (fromFirst 64 block) := by
  rw [ip, @fromFirst_permute 64 64 64 64 (by decide) _ IP (by decide) (by decide) (by decide),
    IP_eq]

theorem fromFirst_fp (block : BitVec 64) :
    fromFirst 64 (fp block) = select ipr_table 64 (fromFirst 64 block) := by
  rw [fp, @fromFirst_permute 64 64 64 64 (by decide) _ FP (by decide) (by decide) (by decide),
    FP_eq]

theorem halves_eq (block : BitVec 64) :
    (fromFirst 32 (((block >>> 32) &&& 0x00000000ffffffff#64).setWidth 32 : BitVec 32),
        fromFirst 32 ((block &&& 0x00000000ffffffff#64).setWidth 32 : BitVec 32)) =
      halves true (fromFirst 64 block) := by
  have hmask : ∀ j < 32, (0x00000000ffffffff#64).getLsbD j = true := fun j hj =>
    (@getLsbD_mask 64 32 0x00000000ffffffff#64 (by decide) j (by omega)).trans (decide_eq_true hj)
  rw [halves, if_pos rfl, Prod.mk.injEq]
  constructor
  · apply bits_congr
    intro i hi
    have hword : 32 + (32 - 1 - i) = 64 - 1 - i := by omega
    rw [BitVec.getLsbD_setWidth, BitVec.getLsbD_and, hmask _ (by omega), BitVec.getLsbD_ushiftRight,
      hword, getLsbD_fromFirst _ (by omega), decide_eq_true (by omega), Bool.true_and, Bool.and_true]
  · apply bits_congr
    intro i hi
    have hword : 64 - 1 - (i + 32) = 32 - 1 - i := by omega
    rw [BitVec.getLsbD_setWidth, BitVec.getLsbD_and, hmask _ (by omega),
      getLsbD_fromFirst _ (by omega), hword, decide_eq_true (by omega), Bool.true_and, Bool.and_true]

theorem join_eq (s : BitVec 32 × BitVec 32) :
    fromFirst 64 (s.1.setWidth 64 <<< 32 ||| s.2.setWidth 64) =
      join true (fromFirst 32 s.1, fromFirst 32 s.2) := by
  apply bits_congr
  intro i hi
  rw [BitVec.getLsbD_or, BitVec.getLsbD_shiftLeft, BitVec.getLsbD_setWidth, BitVec.getLsbD_setWidth]
  by_cases hlt : i < 32
  · have hword : 64 - 1 - i - 32 = 32 - 1 - i := by omega
    rw [if_pos hlt, if_pos rfl, getLsbD_fromFirst _ hlt, hword,
      BitVec.getLsbD_of_ge s.2 _ (by omega)]
    simp [show 64 - 1 - i < 64 by omega, show ¬ 64 - 1 - i < 32 by omega,
      show 32 - 1 - i < 64 by omega]
  · have hword : 32 - 1 - (i - 32) = 64 - 1 - i := by omega
    rw [if_neg hlt, if_pos rfl, getLsbD_fromFirst _ (by omega), hword]
    simp [show 64 - 1 - i < 64 by omega, show 64 - 1 - i < 32 by omega]

def round (k : BitVec 64) (s : BitVec 32 × BitVec 32) : BitVec 32 × BitVec 32 :=
  (s.1 ^^^ f s.2 k, s.2)

/-- The loop makes one exchange more than the network, and the halves are swapped behind it. -/
theorem des_encrypt_eq {sub_key : List (BitVec 64)} (hlen : sub_key.length = 16)
    (block : BitVec 64) :
    let b := ip block
    let s := rounds round Prod.swap sub_key (((b >>> 32) &&& 0x00000000ffffffff#64).setWidth 32,
      (b &&& 0x00000000ffffffff#64).setWidth 32)
    des sub_key block false = fp (s.1.setWidth 64 <<< 32 ||| s.2.setWidth 64) := by
  have hkeys : (List.range 16).map (fun i => sub_key.getD i 0) = sub_key := by
    apply List.ext_getElem
    · rw [List.length_map, List.length_range, hlen]
    · intro i hi hi'
      rw [List.getElem_map, List.getElem_range, List.getD_eq_getElem _ _ hi']
  have hne : sub_key ≠ [] := by
    rintro rfl
    cases hlen
  have hloop : ∀ s, (List.range 16).foldl (fun s i => feistel s (f s.2 (sub_key.getD i 0))) s =
      (rounds round Prod.swap sub_key s).swap := by
    intro s
    have hexchange := @foldl_exchange _ _ round Prod.swap sub_key hne s
    have hindices := @List.foldl_map Nat (BitVec 64) _ (fun i => sub_key.getD i 0)
      (fun s k => Prod.swap (round k s)) (List.range 16) s
    rw [hkeys] at hindices
    exact hindices.symm.trans hexchange
  rw [des]
  simp only [Bool.false_eq_true, if_false, hloop]
  rfl

/-- **`DES::encrypt`** is the network with the standard conventions. -/
theorem encrypt_eq_cipher (block key : BitVec 64) :
    fromFirst 64 (encrypt block key) = cipher standard (fromFirst 64 key) (fromFirst 64 block) := by
  have hturn : ∀ k s, Prod.map (fromFirst 32) (fromFirst 32) (round k s) =
      turn true (fromFirst 48 k) (Prod.map (fromFirst 32) (fromFirst 32) s) := by
    intro k s
    rw [round, turn, Prod.map_fst, Prod.map_snd, ← fromFirst_f, ← fromFirst_xor]
    rfl
  have hswap : ∀ s : BitVec 32 × BitVec 32,
      Prod.map (fromFirst 32) (fromFirst 32) s.swap =
        (Prod.map (fromFirst 32) (fromFirst 32) s).swap := fun s => rfl
  have hnetwork := rounds_map hturn hswap (keygen key)
  have hstart : Prod.map (fromFirst 32) (fromFirst 32)
      ((((ip block) >>> 32) &&& 0x00000000ffffffff#64).setWidth 32,
        ((ip block) &&& 0x00000000ffffffff#64).setWidth 32) =
      halves true (select ip_table 64 (fromFirst 64 block)) :=
    (halves_eq (ip block)).trans (congrArg (halves true) (fromFirst_ip block))
  have hrounds := (hnetwork _).trans
    (congrArg₂ (rounds (turn true) Prod.swap) (fromFirst_keygen key) hstart)
  rw [encrypt, des_encrypt_eq (length_keygen key), fromFirst_fp, join_eq, cipher]
  exact congrArg (fun s => select ipr_table 64 (join true s)) hrounds

/-! ## Both ciphers -/

/-- A text of 8 bytes as a number, its first byte the highest one. -/
def bigEndian (str : Vector UInt8 8) : BitVec 64 :=
  (List.range 8).foldl (fun (word : BitVec 64) i =>
    word <<< 8 ||| (str[i]?.getD 0).toBitVec.setWidth 64) 0

theorem fromFirst_bigEndian (str : Vector UInt8 8) :
    fromFirst 64 (bigEndian str) = DESCryptoPrivoder.blockFromStr str := by
  have hbyte : ∀ i : Nat, ∀ j < 64, 8 ≤ j →
      ((str[i]?.getD 0).toBitVec.setWidth 64).getLsbD j = false := by
    intro i j hj hge
    rw [BitVec.getLsbD_setWidth, BitVec.getLsbD_of_ge _ _ hge, Bool.and_false]
  apply bits_congr
  intro i hi
  have hindex : 8 - 1 - (64 - 1 - i) / 8 = i / 8 := by omega
  have hbit : (64 - 1 - i) % 8 = 7 - i % 8 := by omega
  rw [bigEndian, getLsbD_foldl_groups (by decide) _ hbyte (by omega), hindex, hbit,
    decide_eq_true (by omega), Bool.true_and, BitVec.getLsbD_setWidth, decide_eq_true (by omega),
    Bool.true_and, DESCryptoPrivoder.charBit]
  generalize str[i / 8]?.getD 0 = byte
  rw [Bool.eq_iff_iff, decide_eq_true_iff, and_byteBit_ne_zero_iff _ (by omega)]

/-- **Where both ciphers agree.**  `DES` starts the rounds with the first half, rotates the key to
the front and reads the boxes from the highest bit; `DESCryptoPrivoder` does the opposite of each.
A key and a block that are symmetric either way are the same to both. -/
theorem agree_of_mirrors (key block : Vector UInt8 8) (c : Bool)
    (hfront : Mirrors standard (DESCryptoPrivoder.blockFromStr key)
      (DESCryptoPrivoder.blockFromStr block) c)
    (hback : Mirrors mirrored (DESCryptoPrivoder.blockFromStr key)
      (DESCryptoPrivoder.blockFromStr block) c) :
    bigEndian (DESCryptoPrivoder.strFromBlock (DESCryptoPrivoder.des
        (DESCryptoPrivoder.blockFromStr key) (DESCryptoPrivoder.blockFromStr block) .encrypt)) =
      encrypt (bigEndian block) (bigEndian key) := by
  rw [← fromFirst_inj, fromFirst_bigEndian, DESCryptoPrivoder.blockFromStr_strFromBlock,
    DESCryptoPrivoder.des_eq_cipher, encrypt_eq_cipher, fromFirst_bigEndian, fromFirst_bigEndian,
    cipher_of_mirrors hfront, cipher_of_mirrors hback]

/-- A block that the key of zeros returns as it is, both ways. -/
def fixedBlock : Vector UInt8 8 := #v[0xe2, 0x7c, 0x01, 0x98, 0xae, 0xb5, 0x81, 0xac]

theorem agree_fixedBlock :
    bigEndian (DESCryptoPrivoder.strFromBlock (DESCryptoPrivoder.des
        (DESCryptoPrivoder.blockFromStr (Vector.replicate 8 0))
        (DESCryptoPrivoder.blockFromStr fixedBlock) .encrypt)) =
      encrypt (bigEndian fixedBlock) (bigEndian (Vector.replicate 8 0)) :=
  agree_of_mirrors (Vector.replicate 8 0) fixedBlock false
    ⟨by decide +kernel, by decide +kernel⟩ ⟨by decide +kernel, by decide +kernel⟩

/-- With zeros, one gives `d2b71bf209a71585` and the other `8ca64de9c1b123a7`. -/
theorem agree_wrong :
    ¬ ∀ key block : Vector UInt8 8,
      bigEndian (DESCryptoPrivoder.strFromBlock (DESCryptoPrivoder.des
          (DESCryptoPrivoder.blockFromStr key) (DESCryptoPrivoder.blockFromStr block) .encrypt)) =
        encrypt (bigEndian block) (bigEndian key) := by
  intro h
  have hzero := h (Vector.replicate 8 0) (Vector.replicate 8 0)
  revert hzero
  decide +kernel

end DES

end GB28181.GBUtils
