import Mathlib.Data.List.TakeWhile
import Mathlib.Tactic.FieldSimp
import Mathlib.Tactic.Ring
import GB28181.Base.Decimal

/-!
# Decimal numbers as texts

* `numberOf` — the number at the beginning of a text: a sign, digits, a point and digits;
* `IsNumber` — the text of a number;
* `numberOf_zeros_iff` — **zeros written behind the text of a number keep its value exactly when
  there is a point in it, or nothing to keep**.
-/

set_option autoImplicit false

namespace GB28181.Base

def unsignedText (s : CStr) : CStr :=
  if s.head? = some 0x2b ∨ s.head? = some 0x2d then s.tail else s

/-- The digits before and behind the point. -/
def numberDigits (s : CStr) : CStr × CStr :=
  let ip := s.takeWhile isDigit
  let rest := s.dropWhile isDigit
  (ip, if rest.head? = some 0x2e then rest.tail.takeWhile isDigit else [])

/-- The number at the beginning of a text; 0 where there is none. -/
def numberOf (s : CStr) : ℚ :=
  let ds := numberDigits (unsignedText s)
  (if s.head? = some 0x2d then -1 else 1) * (digitsValue (ds.1 ++ ds.2) / 10 ^ ds.2.length)

inductive IsUnsigned : CStr → Prop
  | whole (ip : CStr) (hne : ip ≠ []) (hip : ∀ c ∈ ip, isDigit c = true) : IsUnsigned ip
  | point (ip fp : CStr) (hne : ip ++ fp ≠ []) (hip : ∀ c ∈ ip, isDigit c = true)
      (hfp : ∀ c ∈ fp, isDigit c = true) : IsUnsigned (ip ++ 0x2e :: fp)

def IsNumber (s : CStr) : Prop := IsUnsigned (unsignedText s)

theorem digitsValue_append_zeros (ds : CStr) (k : Nat) :
    digitsValue (ds ++ List.replicate k 0x30) = digitsValue ds * 10 ^ k := by
  induction k with
  | zero => simp
  | succ k ih =>
    rw [List.replicate_succ', ← List.append_assoc, digitsValue_concat, ih]
    simp only [UInt8.reduceToNat, Nat.sub_self, Nat.add_zero]
    ring

theorem numberDigits_whole {ip tail : CStr} (hip : ∀ c ∈ ip, isDigit c = true)
    (htail : ∀ c ∈ tail.head?, isDigit c = false ∧ c ≠ 0x2e) :
    numberDigits (ip ++ tail) = (ip, []) := by
  have hstop : tail.takeWhile isDigit = [] ∧ tail.dropWhile isDigit = tail := by
    cases tail with
    | nil => exact ⟨rfl, rfl⟩
    | cons c tail =>
      have hc : ¬ isDigit c = true := by rw [(htail c rfl).1]; decide
      exact ⟨List.takeWhile_cons_of_neg hc, List.dropWhile_cons_of_neg hc⟩
  unfold numberDigits
  rw [List.takeWhile_append_of_pos hip, List.dropWhile_append_of_pos hip, hstop.1, hstop.2,
    List.append_nil]
  dsimp only
  rw [if_neg]
  intro hpoint
  exact (htail _ hpoint).2 rfl

theorem numberDigits_point {ip fp tail : CStr} (hip : ∀ c ∈ ip, isDigit c = true)
    (hfp : ∀ c ∈ fp, isDigit c = true) (htail : ∀ c ∈ tail.head?, isDigit c = false) :
    numberDigits (ip ++ 0x2e :: (fp ++ tail)) = (ip, fp) := by
  have hpoint : ¬ isDigit 0x2e = true := by decide
  have hstop : tail.takeWhile isDigit = [] := by
    cases tail with
    | nil => rfl
    | cons c tail => exact List.takeWhile_cons_of_neg (by rw [htail c rfl]; decide)
  unfold numberDigits
  rw [List.takeWhile_append_of_pos hip, List.dropWhile_append_of_pos hip,
    List.takeWhile_cons_of_neg hpoint, List.dropWhile_cons_of_neg hpoint, List.append_nil]
  dsimp only
  rw [List.head?_cons, if_pos rfl, List.tail_cons, List.takeWhile_append_of_pos hfp, hstop,
    List.append_nil]

theorem IsUnsigned.ne_nil {u : CStr} (h : IsUnsigned u) : u ≠ [] := by
  cases h with
  | whole _ hne => exact hne
  | point ip fp => exact List.append_ne_nil_of_right_ne_nil ip (List.cons_ne_nil _ fp)

theorem unsignedText_append {s : CStr} (hs : IsNumber s) (tail : CStr) :
    unsignedText (s ++ tail) = unsignedText s ++ tail ∧ (s ++ tail).head? = s.head? := by
  cases s with
  | nil => exact absurd rfl hs.ne_nil
  | cons c s =>
    refine ⟨?_, rfl⟩
    unfold unsignedText
    by_cases hc : some c = some (0x2b : UInt8) ∨ some c = some 0x2d
    · rw [List.cons_append, List.head?_cons, List.head?_cons, if_pos hc, if_pos hc]
      rfl
    · rw [List.cons_append, List.head?_cons, List.head?_cons, if_neg hc, if_neg hc]
      rfl

theorem point_mem_unsignedText {s : CStr} : 0x2e ∈ unsignedText s ↔ 0x2e ∈ s := by
  unfold unsignedText
  split
  · rename_i hsign
    cases s with
    | nil => rfl
    | cons c s =>
      rw [List.tail_cons, List.mem_cons]
      refine (or_iff_right ?_).symm
      rintro rfl
      rw [List.head?_cons] at hsign
      exact absurd hsign (by decide)
  · rfl

theorem mem_of_isNumber {s : CStr} (hs : IsNumber s) {c : UInt8} (hc : c ∈ s) :
    isDigit c = true ∨ c = 0x2e ∨ c = 0x2b ∨ c = 0x2d := by
  have hunsigned : ∀ c ∈ unsignedText s, isDigit c = true ∨ c = 0x2e := by
    unfold IsNumber at hs
    generalize unsignedText s = u at hs
    intro c hc
    cases hs with
    | whole _ _ hip => exact Or.inl (hip c hc)
    | point ip fp _ hip hfp =>
      rcases List.mem_append.mp hc with hc | hc
      · exact Or.inl (hip c hc)
      · rcases List.mem_cons.mp hc with rfl | hc
        · exact Or.inr rfl
        · exact Or.inl (hfp c hc)
  by_cases hsign : s.head? = some 0x2b ∨ s.head? = some 0x2d
  · rw [unsignedText, if_pos hsign] at hunsigned
    cases s with
    | nil => cases hc
    | cons d s =>
      rcases List.mem_cons.mp hc with rfl | hc
      · exact Or.inr (Or.inr (hsign.imp Option.some.inj Option.some.inj))
      · exact (hunsigned c hc).imp_right Or.inl
  · rw [unsignedText, if_neg hsign] at hunsigned
    exact (hunsigned c hc).imp_right Or.inl

/-- **Zeros behind a number.**  They are followed by nothing that would belong to it. -/
theorem numberOf_zeros_iff {s tail : CStr} (hs : IsNumber s) (k : Nat)
    (htail : ∀ c ∈ tail.head?, isDigit c = false ∧ c ≠ 0x2e) :
    numberOf (s ++ (List.replicate k 0x30 ++ tail)) = numberOf s ↔
      k = 0 ∨ 0x2e ∈ s ∨ numberOf s = 0 := by
  have hzeros : ∀ c ∈ List.replicate k (0x30 : UInt8), isDigit c = true := fun c hc => by
    rw [List.eq_of_mem_replicate hc]
    decide
  obtain ⟨hunsigned, hhead⟩ := unsignedText_append hs (List.replicate k 0x30 ++ tail)
  have hsign : (if s.head? = some 0x2d then -1 else 1 : ℚ) ≠ 0 := by split <;> decide
  rw [← point_mem_unsignedText]
  unfold numberOf
  rw [hunsigned, hhead]
  generalize (if s.head? = some 0x2d then -1 else 1 : ℚ) = sign at hsign ⊢
  rw [mul_right_inj' hsign, mul_eq_zero, or_iff_right hsign]
  unfold IsNumber at hs
  generalize unsignedText s = u at hs ⊢
  cases hs with
  | whole _ hne hip =>
    have hdigits : numberDigits (u ++ (List.replicate k 0x30 ++ tail)) =
        (u ++ List.replicate k 0x30, []) := by
      rw [← List.append_assoc]
      exact numberDigits_whole (List.forall_mem_append.mpr ⟨hip, hzeros⟩) htail
    have hdigits' : numberDigits u = (u, []) := by
      have := @numberDigits_whole u [] hip (fun c hc => nomatch hc)
      rwa [List.append_nil] at this
    have hpoint : 0x2e ∉ u := fun h => absurd (hip _ h) (by decide)
    rw [hdigits, hdigits', or_iff_right hpoint]
    simp only [List.append_nil, List.length_nil, pow_zero, div_one]
    rw [digitsValue_append_zeros]
    push_cast
    have hpow : (10 : ℚ) ^ k = 1 ↔ k = 0 := by
      constructor
      · intro hone
        by_contra hk
        exact (one_lt_pow₀ (by decide : (1 : ℚ) < 10) hk).ne' hone
      · rintro rfl
        exact pow_zero 10
    rw [mul_right_eq_self₀, hpow]
  | point ip fp hne hip hfp =>
    refine iff_of_true ?_ (Or.inr (Or.inl (List.mem_append_right _ List.mem_cons_self)))
    have hdigits : numberDigits (ip ++ 0x2e :: fp ++ (List.replicate k 0x30 ++ tail)) =
        (ip, fp ++ List.replicate k 0x30) := by
      have := @numberDigits_point ip (fp ++ List.replicate k 0x30) tail hip
        (List.forall_mem_append.mpr ⟨hfp, hzeros⟩) (fun c hc => (htail c hc).1)
      rwa [List.append_assoc, ← List.cons_append, ← List.append_assoc] at this
    have hdigits' : numberDigits (ip ++ 0x2e :: fp) = (ip, fp) := by
      have := @numberDigits_point ip fp [] hip hfp (fun c hc => nomatch hc)
      rwa [List.append_nil] at this
    rw [hdigits, hdigits']
    dsimp only
    rw [← List.append_assoc, digitsValue_append_zeros, List.length_append, List.length_replicate]
    push_cast
    rw [pow_add]
    field_simp

end GB28181.Base
