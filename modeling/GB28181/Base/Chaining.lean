import Mathlib.Data.List.Basic

/-!
# Chaining of blocks

Each block is combined with the one that came out before it and then put through a permutation.

* `unchain_chain` — what comes out gives the blocks again; `unchain_chain_cons` from another first
  value;
* `forall_dropLast_chain_iff` — a chain that stays at its first value;
* `map_eq_chain_iff`, `map_chain_eq_iff` — combining every block with the first value only comes to
  the same **exactly where every block but the last leads back to that value**.
-/

set_option autoImplicit false

namespace GB28181.Base

variable {n : Nat}

/-- What comes out, from the value `c` on. -/
def chain (E : BitVec n → BitVec n) : BitVec n → List (BitVec n) → List (BitVec n)
  | _, [] => []
  | c, p :: ps => E (p ^^^ c) :: chain E (E (p ^^^ c)) ps

/-- The blocks again, with the inverse permutation. -/
def unchain (D : BitVec n → BitVec n) : BitVec n → List (BitVec n) → List (BitVec n)
  | _, [] => []
  | c, b :: bs => (D b ^^^ c) :: unchain D b bs

theorem xor_xor_cancel (p c : BitVec n) : p ^^^ c ^^^ c = p := by
  rw [BitVec.xor_assoc, BitVec.xor_self, BitVec.xor_zero]

theorem xor_right_inj_iff {p b c : BitVec n} : p ^^^ b = p ^^^ c ↔ b = c := by
  constructor
  · intro h
    have hcancel : p ^^^ (p ^^^ b) = p ^^^ (p ^^^ c) := congrArg _ h
    rwa [← BitVec.xor_assoc, ← BitVec.xor_assoc, BitVec.xor_self, BitVec.zero_xor,
      BitVec.zero_xor] at hcancel
  · exact congrArg _

theorem map_eq_unchain_iff (D : BitVec n → BitVec n) (c : BitVec n) (bs : List (BitVec n)) :
    (bs.map fun b => D b ^^^ c) = unchain D c bs ↔ ∀ b ∈ bs.dropLast, b = c := by
  induction bs with
  | nil => simp [unchain]
  | cons b bs ih =>
    rw [List.map_cons, unchain, List.cons_inj_right]
    cases bs with
    | nil => simp [unchain]
    | cons b' bs =>
      rw [List.dropLast_cons_cons, List.forall_mem_cons, ← ih]
      constructor
      · intro h
        have hb : b = c := (xor_right_inj_iff.mp (List.cons.inj h).1).symm
        rw [hb] at h
        exact ⟨hb, h⟩
      · rintro ⟨hb, h⟩
        rw [hb]
        exact h

/-- A chain stays at its first value as long as every block leads back to it. -/
theorem forall_dropLast_chain_iff (E : BitVec n → BitVec n) (c : BitVec n) (ps : List (BitVec n)) :
    (∀ b ∈ (chain E c ps).dropLast, b = c) ↔ ∀ p ∈ ps.dropLast, E (p ^^^ c) = c := by
  induction ps with
  | nil => simp [chain]
  | cons p ps ih =>
    cases ps with
    | nil => simp [chain]
    | cons q ps =>
      rw [List.dropLast_cons_cons, List.forall_mem_cons, ← ih, chain, chain,
        List.dropLast_cons_cons, List.forall_mem_cons]
      constructor
      · rintro ⟨hc, h⟩
        rw [hc] at h
        exact ⟨hc, h⟩
      · rintro ⟨hc, h⟩
        rw [hc]
        exact ⟨rfl, h⟩

section

variable {E D : BitVec n → BitVec n} (hDE : ∀ x, D (E x) = x)

include hDE

theorem unchain_chain (c : BitVec n) (ps : List (BitVec n)) : unchain D c (chain E c ps) = ps := by
  induction ps generalizing c with
  | nil => rfl
  | cons p ps ih => rw [chain, unchain, hDE, xor_xor_cancel, ih]

theorem unchain_chain_cons (c c' p : BitVec n) (ps : List (BitVec n)) :
    unchain D c' (chain E c (p :: ps)) = (p ^^^ c ^^^ c') :: ps := by
  rw [chain, unchain, hDE, unchain_chain hDE]

theorem permutation_inj {x y : BitVec n} : E x = E y ↔ x = y := by
  constructor
  · intro h
    rw [← hDE x, h, hDE]
  · exact congrArg E

/-- Combining with the first value only comes to the same exactly where that value comes back. -/
theorem map_eq_chain_iff (c : BitVec n) (ps : List (BitVec n)) :
    (ps.map fun p => E (p ^^^ c)) = chain E c ps ↔ ∀ p ∈ ps.dropLast, E (p ^^^ c) = c := by
  induction ps with
  | nil => simp [chain]
  | cons p ps ih =>
    rw [List.map_cons, chain, List.cons_inj_right]
    cases ps with
    | nil => simp [chain]
    | cons q ps =>
      rw [List.dropLast_cons_cons, List.forall_mem_cons, ← ih]
      constructor
      · intro h
        have hhead : E (q ^^^ c) = E (q ^^^ E (p ^^^ c)) := (List.cons.inj h).1
        have hc : E (p ^^^ c) = c := (xor_right_inj_iff.mp ((permutation_inj hDE).mp hhead)).symm
        rw [hc] at h
        exact ⟨hc, h⟩
      · rintro ⟨hc, h⟩
        rw [hc]
        exact h

theorem map_chain_eq_iff (c : BitVec n) (ps : List (BitVec n)) :
    ((chain E c ps).map fun b => D b ^^^ c) = ps ↔ ∀ p ∈ ps.dropLast, E (p ^^^ c) = c := by
  have hback := unchain_chain hDE c ps
  rw [← forall_dropLast_chain_iff, ← map_eq_unchain_iff D, hback]

end

end GB28181.Base
