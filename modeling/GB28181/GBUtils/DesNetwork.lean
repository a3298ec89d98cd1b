import GB28181.GBUtils.Des
import Mathlib.Algebra.GroupWithZero.Nat
import Mathlib.Data.List.Induction
import Mathlib.Logic.Function.Iterate

/-!
# The DES network

The cipher over the tables of `GBUtils/Algorithm/des.cpp`, with bits counted from the first one.  The
tables leave three things open: which half a round changes, which way the halves of the key are
rotated, and which end of the six bits is the higher one for a box.

* `cipher` — the network under a convention;
* `pcode_eq`, `getkey_eq` — the loops of `DESCryptoPrivoder` over the boxes and the key;
* `des_eq_cipher` — **`DESCryptoPrivoder::des` is the network with all three mirrored**;
* `Mirrors` — key and block are symmetric in the middle of the rounds; `cipher_of_mirrors` — such
  a block is returned as it is, or as its complement, **under every convention**.
-/

set_option autoImplicit false

namespace GB28181.GBUtils

open GB28181.Base

namespace DesNetwork

/-! ## The network -/

structure Convention where
  /-- A round changes the first half and reads the second one. -/
  readsSecond : Bool
  /-- The halves of the key are rotated to the front. -/
  toFront : Bool
  /-- The first bit is the highest one for a box. -/
  highFirst : Bool

def standard : Convention := ⟨true, true, true⟩

def mirrored : Convention := ⟨false, false, false⟩

def select {m : Nat} (table : List Nat) (n : Nat) (b : BitVec m) : BitVec n :=
  bits n fun i => b.getLsbD (bitAt table i)

/-- The half that a round changes and the half that it reads. -/
def halves (readsSecond : Bool) (block : Block) : HBlock × HBlock :=
  let first := bits 32 fun i => block.getLsbD i
  let second := bits 32 fun i => block.getLsbD (i + 32)
  if readsSecond then (first, second) else (second, first)

def join (readsSecond : Bool) (s : HBlock × HBlock) : Block :=
  bits 64 fun i =>
    if i < 32 then (if readsSecond then s.1 else s.2).getLsbD i
    else (if readsSecond then s.2 else s.1).getLsbD (i - 32)

/-- Both halves of the key, rotated by one bit. -/
def rotate (toFront : Bool) (key : Key) : Key :=
  bits 56 fun m => key.getLsbD (28 * (m / 28) + (m % 28 + if toFront then 1 else 27) % 28)

/-- By how many bits the key is rotated for subkey `n`. -/
def shiftTotal (n : Nat) : Nat := (bit_shift.take (n + 1)).sum

def subkey (toFront : Bool) (bkey : Block) (n : Nat) : Code :=
  select comp_perm 48 ((rotate toFront)^[shiftTotal n] (select key_table 56 bkey))

/-- The four bits of box `i` for six bits. -/
def boxBit (highFirst : Bool) (i : Nat) (x : Nat → Bool) (j : Nat) : Bool :=
  let row : BitVec 2 := bits 2 fun k => x (if highFirst then 5 - 5 * k else 5 * k)
  let col : BitVec 4 := bits 4 fun k => x (if highFirst then 4 - k else k + 1)
  let temp := BitVec.ofNat 4 ((sbox.getD i []).getD (row.toNat * 16 + col.toNat) 0)
  temp.getLsbD (if highFirst then 3 - j else j)

theorem boxBit_congr {highFirst : Bool} {i : Nat} {x y : Nat → Bool} (h : ∀ k < 6, x k = y k)
    (j : Nat) : boxBit highFirst i x j = boxBit highFirst i y j := by
  have hrow : (bits 2 fun k => x (if highFirst then 5 - 5 * k else 5 * k)) =
      bits 2 fun k => y (if highFirst then 5 - 5 * k else 5 * k) := by
    apply bits_congr
    intro k hk
    exact h _ (by split <;> omega)
  have hcol : (bits 4 fun k => x (if highFirst then 4 - k else k + 1)) =
      bits 4 fun k => y (if highFirst then 4 - k else k + 1) := by
    apply bits_congr
    intro k hk
    exact h _ (by split <;> omega)
  rw [boxBit, hrow, hcol]
  rfl

def substitute (highFirst : Bool) (code : Code) : HBlock :=
  bits 32 fun m => boxBit highFirst (m / 4) (fun k => code.getLsbD (6 * (m / 4) + k)) (m % 4)

def f (highFirst : Bool) (half : HBlock) (subkey : Code) : HBlock :=
  select p_table 32 (substitute highFirst (select expa_perm 48 half ^^^ subkey))

def turn (highFirst : Bool) (subkey : Code) (s : HBlock × HBlock) : HBlock × HBlock :=
  (s.1 ^^^ f highFirst s.2 subkey, s.2)

/-- Sixteen rounds between the first and the last permutation. -/
def cipher (cv : Convention) (bkey block : Block) : Block :=
  let keys := (List.range 16).map (subkey cv.toFront bkey)
  let s := halves cv.readsSecond (select ip_table 64 block)
  select ipr_table 64 (join cv.readsSecond (rounds (turn cv.highFirst) Prod.swap keys s))

/-! ## Symmetric keys and blocks -/

theorem halves_join (readsSecond : Bool) (s : HBlock × HBlock) :
    halves readsSecond (join readsSecond s) = s := by
  have hfirst : (bits 32 fun i => (join readsSecond s).getLsbD i) =
      if readsSecond then s.1 else s.2 := by
    apply bitset_ext
    intro i hi
    rw [getLsbD_bits hi, join, getLsbD_bits (by omega), if_pos hi]
  have hsecond : (bits 32 fun i => (join readsSecond s).getLsbD (i + 32)) =
      if readsSecond then s.2 else s.1 := by
    apply bitset_ext
    intro i hi
    rw [getLsbD_bits hi, join, getLsbD_bits (by omega), if_neg (by omega), Nat.add_sub_cancel]
  rw [halves, hfirst, hsecond]
  cases readsSecond <;> rfl

theorem join_halves (readsSecond : Bool) (block : Block) :
    join readsSecond (halves readsSecond block) = block := by
  apply bitset_ext
  intro i hi
  have hfirst : (bits 32 fun i => block.getLsbD i).getLsbD i =
      if i < 32 then block.getLsbD i else false := by
    split_ifs with hlt
    · exact getLsbD_bits hlt _
    · exact BitVec.getLsbD_of_ge _ _ (by omega)
  have hsecond : 32 ≤ i → (bits 32 fun i => block.getLsbD (i + 32)).getLsbD (i - 32) =
      block.getLsbD i := fun hle => by
    rw [getLsbD_bits (by omega), Nat.sub_add_cancel hle]
  rw [join, getLsbD_bits hi]
  by_cases hlt : i < 32
  · rw [if_pos hlt] at hfirst ⊢
    cases readsSecond <;> exact hfirst
  · rw [if_neg hlt]
    cases readsSecond <;> exact hsecond (by omega)

def flip (c : Bool) {w : Nat} (x : BitVec w) : BitVec w := if c then ~~~x else x

theorem getLsbD_flip (c : Bool) {w : Nat} (x : BitVec w) {i : Nat} (hi : i < w) :
    (flip c x).getLsbD i = (c ^^ x.getLsbD i) := by
  cases c <;> simp [flip, hi]

theorem flip_flip (c : Bool) {w : Nat} (x : BitVec w) : flip c (flip c x) = x := by
  cases c <;> simp [flip]

theorem flip_xor (c : Bool) {w : Nat} (x y : BitVec w) : flip c (x ^^^ y) = flip c x ^^^ y := by
  cases c
  · rfl
  · exact BitVec.not_xor_left

theorem flip_xor_flip (c : Bool) {w : Nat} (x y : BitVec w) : flip c x ^^^ flip c y = x ^^^ y := by
  rw [← flip_xor, BitVec.xor_comm, ← flip_xor, flip_flip, BitVec.xor_comm]

theorem select_flip {m n : Nat} {table : List Nat} (h : ∀ i < n, bitAt table i < m) (c : Bool)
    (b : BitVec m) : select table n (flip c b) = flip c (select table n b) := by
  apply bitset_ext
  intro i hi
  rw [getLsbD_flip c _ hi, select, select, getLsbD_bits hi, getLsbD_bits hi,
    getLsbD_flip c b (h i hi)]

theorem turn_flip (highFirst c : Bool) (subkey : Code) (s : HBlock × HBlock) :
    Prod.map (flip c) (flip c) (turn highFirst subkey s) =
      turn highFirst (flip c subkey) (Prod.map (flip c) (flip c) s) := by
  have hexpand : ∀ i < 48, bitAt expa_perm i < 32 := by decide
  have hf : f highFirst (flip c s.2) (flip c subkey) = f highFirst s.2 subkey := by
    rw [f, select_flip hexpand, flip_xor_flip, f]
  rw [turn, turn, Prod.map_fst, Prod.map_snd, hf, ← flip_xor]
  rfl

theorem join_flip (readsSecond c : Bool) (s : HBlock × HBlock) :
    join readsSecond (Prod.map (flip c) (flip c) s) = flip c (join readsSecond s) := by
  apply bitset_ext
  intro i hi
  rw [getLsbD_flip c _ hi, join, join, getLsbD_bits hi, getLsbD_bits hi]
  split_ifs
  · exact getLsbD_flip c _ (by omega)
  · exact getLsbD_flip c _ (by omega)
  · exact getLsbD_flip c _ (by omega)
  · exact getLsbD_flip c _ (by omega)

/-- The subkeys read the same backwards, or as their complements, and after eight rounds so do the
halves. -/
structure Mirrors (cv : Convention) (bkey block : Block) (c : Bool) : Prop where
  keys : ∀ n < 8, subkey cv.toFront bkey (15 - n) = flip c (subkey cv.toFront bkey n)
  middle :
    let s := rounds (turn cv.highFirst) Prod.swap ((List.range 8).map (subkey cv.toFront bkey))
      (halves cv.readsSecond (select ip_table 64 block))
    s.1 = flip c s.2

/-- **The second eight rounds undo the first ones.** -/
theorem cipher_of_mirrors {cv : Convention} {bkey block : Block} {c : Bool}
    (h : Mirrors cv bkey block c) : cipher cv bkey block = flip c block := by
  have hkeys : (List.range 16).map (subkey cv.toFront bkey) =
      (List.range 8).map (subkey cv.toFront bkey) ++
        (((List.range 8).map (subkey cv.toFront bkey)).map (flip c)).reverse := by
    have hback : ((List.range 8).map (subkey cv.toFront bkey)).map (flip c) =
        (List.range 8).map fun n => subkey cv.toFront bkey (15 - n) := by
      rw [List.map_map]
      exact List.map_congr_left fun n hn => (h.keys n (List.mem_range.mp hn)).symm
    rw [hback]
    rfl
  have hturn : ∀ k s, turn cv.highFirst k (turn cv.highFirst k s) = s := fun k s => by
    rw [turn, turn, BitVec.xor_assoc, BitVec.xor_self, BitVec.xor_zero]
  have hmiddle := h.middle
  dsimp only at hmiddle
  have hswap : ∀ t : HBlock × HBlock, t.1 = flip c t.2 →
      t.swap = Prod.map (flip c) (flip c) t := by
    rintro ⟨a, b⟩ h
    obtain rfl : a = flip c b := h
    rw [Prod.map_apply, flip_flip]
    rfl
  have hinverse : select ipr_table 64 (select ip_table 64 block) = block := by
    apply bitset_ext
    intro i hi
    obtain ⟨hlt, hinv, -⟩ := DESCryptoPrivoder.ip_table_ipr_table hi
    rw [select, getLsbD_bits hi, select, getLsbD_bits hlt, hinv]
  have hfinal : ∀ i < 64, bitAt ipr_table i < 64 := by decide
  have hnonempty : (List.range 8).map (subkey cv.toFront bkey) ≠ [] := List.cons_ne_nil _ _
  rw [cipher, hkeys, rounds_palindrome hturn (fun s => Prod.swap_swap s) (turn_flip cv.highFirst c)
    (fun s => rfl) hnonempty (hswap _ hmiddle), join_flip, join_halves, select_flip hfinal,
    hinverse]

end DesNetwork

namespace DESCryptoPrivoder

open DesNetwork

/-! ## The boxes -/

theorem getLsbD_box (code : Code) (i : Nat) {m : Nat} (hm : m < 48) :
    (box code i).getLsbD m =
      if 4 * i ≤ m ∧ m < 4 * i + 4 then
        boxBit false i (fun k => code.getLsbD (6 * i + k)) (m - 4 * i)
      else code.getLsbD m := by
  rw [box, getLsbD_foldl_setBit _ _ _ _ hm]
  have hrow : (bits 2 fun k => code.getLsbD (if k = 0 then 6 * i else 6 * i + 5)) =
      bits 2 fun k => code.getLsbD (6 * i + 5 * k) := by
    apply bits_congr
    intro k hk
    congr 1
    split <;> omega
  rw [hrow]
  rfl

/-- The bits after the first `n` boxes: a box reads bits that no box before it wrote. -/
theorem getLsbD_boxes (code : Code) {n : Nat} (hn : n ≤ 8) {m : Nat} (hm : m < 48) :
    ((List.range n).foldl box code).getLsbD m =
      if m < 4 * n then boxBit false (m / 4) (fun k => code.getLsbD (6 * (m / 4) + k)) (m % 4)
      else code.getLsbD m := by
  induction n generalizing m with
  | zero => rfl
  | succ n ih =>
    rw [List.range_succ, List.foldl_append, List.foldl_cons, List.foldl_nil, getLsbD_box _ _ hm]
    by_cases hbox : 4 * n ≤ m ∧ m < 4 * n + 4
    · have hdiv : m / 4 = n := by omega
      have hmod : m % 4 = m - 4 * n := by omega
      rw [if_pos hbox, if_pos (by omega), hdiv, hmod]
      apply boxBit_congr
      intro k hk
      rw [ih (by omega) (show 6 * n + k < 48 by omega), if_neg (by omega)]
    · rw [if_neg hbox, ih (by omega) hm]
      by_cases hlt : m < 4 * n
      · rw [if_pos hlt, if_pos (by omega)]
      · rw [if_neg hlt, if_neg (by omega)]

theorem bitAt_p_table : ∀ i < 32, bitAt p_table i < 32 := by decide

/-- **What a round adds.** -/
theorem pcode_eq (right : HBlock) (subkey : Code) : pcode right subkey = f false right subkey := by
  apply bitset_ext
  intro i hi
  have hlt := bitAt_p_table i hi
  rw [pcode, getLsbD_bits hi, getLsbD_boxes _ (Nat.le_refl 8) (by omega), if_pos hlt, f, select,
    getLsbD_bits hi, substitute, getLsbD_bits hlt]
  rfl

/-! ## The key -/

theorem getLsbD_rotate_iterate (key : Key) (n : Nat) {m : Nat} (hm : m < 56) :
    ((rotate false)^[n] key).getLsbD m = key.getLsbD (28 * (m / 28) + (m % 28 + 27 * n) % 28) := by
  induction n generalizing m with
  | zero =>
    rw [Function.iterate_zero, id_eq]
    congr 1
    omega
  | succ n ih =>
    rw [Function.iterate_succ_apply', rotate, getLsbD_bits hm, if_neg (by decide), ih (by omega)]
    congr 1
    omega

theorem shiftKey_eq (s : Key × Code) (i : Nat) (hi : i < 16) :
    (shiftKey s i).1 = (rotate false)^[bit_shift.getD i 0] s.1 := by
  have hshift : ∀ i < 16, bit_shift.getD i 0 ≤ 2 := by decide
  have hn := hshift i hi
  generalize hcount : bit_shift.getD i 0 = n at hn
  have hkept := fun (k : Nat) (hk : k < 48) => getLsbD_foldl_setBit_setBit (24 - n) (48 - n) n
    (by omega) (fun j => s.1.getLsbD (28 - n + j)) (fun j => s.1.getLsbD (56 - n + j)) s.2 hk
  rw [shiftKey, hcount]
  dsimp only
  generalize (List.range n).foldl (fun result j =>
    setBit (setBit result (48 - n + j) (s.1.getLsbD (56 - n + j))) (24 - n + j)
      (s.1.getLsbD (28 - n + j))) s.2 = result at hkept ⊢
  apply bitset_ext
  intro m hm
  have hback := getLsbD_foldl_setBit_setBit 0 28 n (by omega)
    (fun j => result.getLsbD (24 - n + j)) (fun j => result.getLsbD (48 - n + j)) (s.1 <<< n) hm
  simp only [Nat.zero_add] at hback
  rw [getLsbD_rotate_iterate _ _ hm, hback]
  by_cases hlow : m < n
  · rw [if_pos (by omega), hkept _ (by omega), if_pos (by omega)]
    congr 1
    omega
  · rw [if_neg (by omega)]
    by_cases hhigh : 28 ≤ m ∧ m < 28 + n
    · rw [if_pos hhigh, hkept _ (by omega), if_neg (by omega), if_pos (by omega)]
      congr 1
      omega
    · rw [if_neg hhigh, BitVec.getLsbD_shiftLeft, decide_eq_true hm, decide_eq_false hlow]
      rw [Bool.not_false, Bool.and_true, Bool.true_and]
      congr 1
      omega

/-- **The subkeys.** -/
theorem getkey_eq {n : Nat} (hn : n < 16) (bkey : Block) : getkey n bkey = subkey false bkey n := by
  have hkey : ∀ (key : Key) (code : Code) (l : List Nat), (∀ i ∈ l, i < 16) →
      (l.foldl shiftKey (key, code)).1 =
        (rotate false)^[(l.map fun i => bit_shift.getD i 0).sum] key := by
    intro key code l hl
    induction l using List.reverseRecOn with
    | nil => rfl
    | append_singleton l i ih =>
      rw [List.foldl_append, List.foldl_cons, List.foldl_nil, shiftKey_eq _ _ (hl i (by simp)),
        ih fun k hk => hl k (by simp [hk]), List.map_append, List.sum_append, Nat.add_comm,
        Function.iterate_add_apply]
      rfl
  have htotal : ∀ n < 16, ((List.range (n + 1)).map fun i => bit_shift.getD i 0).sum =
      shiftTotal n := by decide
  rw [getkey, subkey, select, ← htotal n hn]
  apply bits_congr
  intro i hi
  rw [hkey _ _ _ fun k hk => by have := List.mem_range.mp hk; omega]
  rfl

/-! ## The cipher -/

theorem ip_eq (block : Block) : ip block = halves false (select ip_table 64 block) := by
  have hbit : ∀ i < 64, (select ip_table 64 block).getLsbD i = block.getLsbD (bitAt ip_table i) :=
    fun i hi => getLsbD_bits hi _
  rw [ip, halves]
  simp only [Bool.false_eq_true, if_false, Prod.mk.injEq]
  constructor
  · exact bits_congr fun i hi => (hbit (i + 32) (by omega)).symm
  · exact bits_congr fun i hi => (hbit i (by omega)).symm

theorem rip_eq (s : HBlock × HBlock) : rip s = select ipr_table 64 (join false s) := by
  apply bits_congr
  intro i hi
  obtain ⟨hlt, -, hpos⟩ := ip_table_ipr_table hi
  rw [join, getLsbD_bits hlt]
  rw [bitAt] at hlt ⊢
  by_cases hle : ipr_table.getD i 0 ≤ 32
  · rw [if_pos hle, if_pos (by omega)]
    rfl
  · rw [if_neg hle, if_neg (by omega)]
    rfl

/-- **The cipher** is the network with every convention mirrored. -/
theorem des_eq_cipher (bkey block : Block) :
    des bkey block .encrypt = cipher mirrored bkey block := by
  have hkeys : subkeys bkey = (List.range 16).map (subkey false bkey) :=
    List.map_congr_left fun n hn => getkey_eq (List.mem_range.mp hn) bkey
  have hturn : desTurn = turn false := by
    funext key s
    rw [desTurn, pcode_eq, turn]
  rw [des_encrypt_eq, network, hkeys, hturn, ip_eq, rip_eq]
  rfl

end DESCryptoPrivoder

end GB28181.GBUtils
