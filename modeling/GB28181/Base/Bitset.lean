import Mathlib.Data.List.Basic

/-!
# Bit sets

A `std::bitset<n>` is a `BitVec n`; its bit `i` is `getLsbD i`.  A loop over the bits that assigns
each of them is `bits`.

* `getLsbD_bits`, `bitset_ext` — a set is its bits;
* `bits_eq_xor` — a set that is combined bit by bit;
* `getLsbD_setBit`, `getLsbD_foldl_setBit` — what assignments to bits change;
* `fromFirst` — the bits of a word from its other end; `getLsbD_foldl_groups` — a word that is put
  together from groups of bits;
* `and_byteBit_ne_zero_iff`, `getLsbD_or_byteBit` — bits of a `char`.
-/

set_option autoImplicit false

namespace GB28181.Base

/-- The set whose bit `i` is `f i`. -/
def bits : (n : Nat) → (Nat → Bool) → BitVec n
  | 0, _ => 0#0
  | n + 1, f => BitVec.cons (f n) (bits n f)

@[simp] theorem getLsbD_bits {n i : Nat} (h : i < n) (f : Nat → Bool) :
    (bits n f).getLsbD i = f i := by
  induction n with
  | zero => exact absurd h (Nat.not_lt_zero i)
  | succ n ih =>
    rw [bits, BitVec.getLsbD_cons]
    split
    · rename_i hi
      rw [hi]
    · rename_i hi
      exact ih (by omega)

theorem bitset_ext {n : Nat} {a b : BitVec n} (h : ∀ i < n, a.getLsbD i = b.getLsbD i) : a = b :=
  BitVec.eq_of_getLsbD_eq fun i hi => h i hi

theorem bits_congr {n : Nat} {f g : Nat → Bool} (h : ∀ i < n, f i = g i) : bits n f = bits n g :=
  bitset_ext fun i hi => by rw [getLsbD_bits hi, getLsbD_bits hi, h i hi]

theorem bits_eq_xor {n : Nat} (a b : BitVec n) :
    bits n (fun i => a.getLsbD i ^^ b.getLsbD i) = a ^^^ b :=
  bitset_ext fun i hi => by rw [getLsbD_bits hi, BitVec.getLsbD_xor]

/-- `b[i] = v`. -/
def setBit {n : Nat} (b : BitVec n) (i : Nat) (v : Bool) : BitVec n :=
  b &&& ~~~(BitVec.twoPow n i) ||| if v then BitVec.twoPow n i else 0#n

theorem getLsbD_setBit {n : Nat} (b : BitVec n) {i : Nat} (v : Bool) {k : Nat} (hk : k < n) :
    (setBit b i v).getLsbD k = if k = i then v else b.getLsbD k := by
  rw [setBit, BitVec.getLsbD_or, BitVec.getLsbD_and, BitVec.getLsbD_not, BitVec.getLsbD_twoPow]
  by_cases hki : k = i
  · subst hki
    cases v <;> simp [hk]
  · have hne : ¬ i = k := fun h => hki h.symm
    cases v <;> simp [hk, hki, hne]

theorem getLsbD_foldl_setBit {n : Nat} (base count : Nat) (v : Nat → Bool) (b : BitVec n) {k : Nat}
    (hk : k < n) : ((List.range count).foldl (fun b j => setBit b (base + j) (v j)) b).getLsbD k =
      if base ≤ k ∧ k < base + count then v (k - base) else b.getLsbD k := by
  induction count with
  | zero => rw [List.range_zero, List.foldl_nil, if_neg (by omega)]
  | succ count ih =>
    rw [List.range_succ, List.foldl_append, List.foldl_cons, List.foldl_nil, getLsbD_setBit _ _ hk,
      ih]
    by_cases hlast : k = base + count
    · rw [if_pos hlast, if_pos (by omega), hlast, Nat.add_sub_cancel_left]
    · rw [if_neg hlast]
      by_cases hin : base ≤ k ∧ k < base + count
      · rw [if_pos hin, if_pos (by omega)]
      · rw [if_neg hin, if_neg (by omega)]

theorem getLsbD_foldl_setBit_setBit {n : Nat} (low high count : Nat) (hle : low + count ≤ high)
    (v w : Nat → Bool) (b : BitVec n) {k : Nat} (hk : k < n) :
    ((List.range count).foldl (fun b j => setBit (setBit b (high + j) (w j)) (low + j) (v j))
        b).getLsbD k =
      if low ≤ k ∧ k < low + count then v (k - low)
      else if high ≤ k ∧ k < high + count then w (k - high) else b.getLsbD k := by
  induction count with
  | zero => rw [List.range_zero, List.foldl_nil, if_neg (by omega), if_neg (by omega)]
  | succ count ih =>
    rw [List.range_succ, List.foldl_append, List.foldl_cons, List.foldl_nil, getLsbD_setBit _ _ hk,
      getLsbD_setBit _ _ hk, ih (by omega)]
    by_cases hlow : k = low + count
    · rw [if_pos hlow, if_pos (by omega), hlow, Nat.add_sub_cancel_left]
    · rw [if_neg hlow]
      by_cases hhigh : k = high + count
      · rw [if_pos hhigh, if_neg (by omega), if_pos (by omega), hhigh, Nat.add_sub_cancel_left]
      · have hl : (low ≤ k ∧ k < low + (count + 1)) ↔ (low ≤ k ∧ k < low + count) := by omega
        have hh : (high ≤ k ∧ k < high + (count + 1)) ↔ (high ≤ k ∧ k < high + count) := by omega
        rw [if_neg hhigh]
        simp only [hl, hh]

/-! ## Bits of a word -/

/-- The last `n` bits of a word, counted from the first of them. -/
def fromFirst {m : Nat} (n : Nat) (w : BitVec m) : BitVec n := bits n fun i => w.getLsbD (n - 1 - i)

theorem getLsbD_fromFirst {m n i : Nat} (w : BitVec m) (hi : i < n) :
    (fromFirst n w).getLsbD i = w.getLsbD (n - 1 - i) := getLsbD_bits hi _

theorem getLsbD_mask {w k : Nat} {mask : BitVec w} (hmask : mask = (BitVec.allOnes k).setWidth w)
    {j : Nat} (hj : j < w) : mask.getLsbD j = decide (j < k) := by
  rw [hmask, BitVec.getLsbD_setWidth, BitVec.getLsbD_allOnes, decide_eq_true hj, Bool.true_and]

/-- The bits of a word into which groups of `g` bits are put one after another. -/
theorem getLsbD_foldl_groups {w g : Nat} (hg : 0 < g) (v : Nat → BitVec w)
    (hv : ∀ i, ∀ j < w, g ≤ j → (v i).getLsbD j = false) {n j : Nat} (hj : j < w) :
    ((List.range n).foldl (fun (word : BitVec w) i => word <<< g ||| v i) 0).getLsbD j =
      (decide (j < g * n) && (v (n - 1 - j / g)).getLsbD (j % g)) := by
  induction n generalizing j with
  | zero => simp
  | succ n ih =>
    rw [List.range_succ, List.foldl_append, List.foldl_cons, List.foldl_nil, BitVec.getLsbD_or,
      BitVec.getLsbD_shiftLeft, Nat.mul_succ]
    by_cases hlow : j < g
    · rw [Nat.div_eq_of_lt hlow, Nat.mod_eq_of_lt hlow]
      simp [hlow, show j < g * n + g by omega]
    · have hge : g ≤ j := Nat.le_of_not_lt hlow
      have hdiv : n + 1 - 1 - j / g = n - 1 - (j - g) / g := by
        rw [Nat.div_eq_sub_div hg hge]
        omega
      have hlt : decide (j < g * n + g) = decide (j - g < g * n) := by
        congr 1
        exact propext ⟨fun h => by omega, fun h => by omega⟩
      rw [hv n j hj hge, ih (by omega), hdiv, Nat.mod_eq_sub_mod hge, hlt]
      simp [hj, hlow]

theorem fromFirst_xor {m : Nat} (n : Nat) (v w : BitVec m) :
    fromFirst n (v ^^^ w) = fromFirst n v ^^^ fromFirst n w := by
  apply bitset_ext
  intro i hi
  rw [BitVec.getLsbD_xor, getLsbD_fromFirst _ hi, getLsbD_fromFirst _ hi, getLsbD_fromFirst _ hi,
    BitVec.getLsbD_xor]

theorem fromFirst_inj {n : Nat} {v w : BitVec n} : fromFirst n v = fromFirst n w ↔ v = w := by
  constructor
  · intro h
    apply bitset_ext
    intro i hi
    have hbit := congrArg (fun b => b.getLsbD (n - 1 - i)) h
    simp only [getLsbD_fromFirst _ (show n - 1 - i < n by omega)] at hbit
    have hback : n - 1 - (n - 1 - i) = i := by omega
    rwa [hback] at hbit
  · rintro rfl
    rfl

/-! ## Bits of a byte -/

/-- `1 << k`. -/
def byteBit (k : Nat) : UInt8 := ⟨BitVec.twoPow 8 k⟩

theorem byte_ext {a b : UInt8} (h : ∀ j < 8, a.toBitVec.getLsbD j = b.toBitVec.getLsbD j) : a = b :=
  UInt8.toBitVec_inj.mp (bitset_ext h)

/-- A byte that is masked with one of its bits is zero exactly when the bit is. -/
theorem and_byteBit_ne_zero_iff (a : UInt8) {k : Nat} (hk : k < 8) :
    a &&& byteBit k ≠ 0 ↔ a.toBitVec.getLsbD k = true := by
  rw [← UInt8.toBitVec_inj.ne]
  show a.toBitVec &&& BitVec.twoPow 8 k ≠ 0#8 ↔ _
  rw [BitVec.and_twoPow]
  cases a.toBitVec.getLsbD k with
  | false => simp
  | true =>
    have hbit : (BitVec.twoPow 8 k).getLsbD k = true := by simp [hk]
    simp only [if_true, iff_true]
    intro hzero
    rw [hzero] at hbit
    simp at hbit

theorem getLsbD_or_byteBit (a : UInt8) {k j : Nat} (hk : k < 8) :
    (a ||| byteBit k).toBitVec.getLsbD j = (a.toBitVec.getLsbD j || decide (j = k)) := by
  show (a.toBitVec ||| BitVec.twoPow 8 k).getLsbD j = _
  rw [BitVec.getLsbD_or, BitVec.getLsbD_twoPow]
  simp [hk, eq_comm]

end GB28181.Base
