import GB28181.Base.Map

/-!
# Two maps that are inverse to each other

A table and its reverse table, filled by the same operations.  `InverseOn P` says that they agree
on the keys that meet `P`; other keys of the forward table are not looked at.

Principal results, each an equivalence for tables that agree: `insert_iff` (an entry in both),
`erase_fwd_iff` and `erase_bwd_iff` (an entry taken out of one of them), `touch_fwd_iff` (a read
through `operator[]`).
-/

set_option autoImplicit false

namespace GB28181.Base

variable {A B : Type} [DecidableEq A] [DecidableEq B]

/-- Each table has exactly the entries of the other one, read backwards. -/
def InverseOn (P : A → Prop) (fwd : Map A B) (bwd : Map B A) : Prop :=
  ∀ a, P a → ∀ b, fwd.lookup a = some b ↔ bwd.lookup b = some a

namespace InverseOn

variable {P : A → Prop} {fwd : Map A B} {bwd : Map B A}

theorem empty : InverseOn P (∅ : Map A B) (∅ : Map B A) := by
  intro a _ b
  rw [Finmap.lookup_empty, Finmap.lookup_empty]
  exact iff_of_false nofun nofun

/-- **An entry in both tables** keeps them inverse exactly when it replaces no other pair. -/
theorem insert_iff (h : InverseOn P fwd bwd) (a : A) (b : B) :
    InverseOn P (fwd.insert a b) (bwd.insert b a) ↔
      (P a → ∀ b', fwd.lookup a = some b' → b' = b) ∧
        ∀ a', P a' → bwd.lookup b = some a' → a' = a := by
  constructor
  · intro h'
    constructor
    · intro ha b' hb'
      by_contra hne
      -- the reverse table still has the pair that the forward table lost
      have hold : (bwd.insert b a).lookup b' = some a := by
        rw [Map.lookup_insert_ite, if_neg hne]
        exact (h a ha b').mp hb'
      have hnew := (h' a ha b').mpr hold
      rw [Map.lookup_insert_ite, if_pos rfl] at hnew
      exact hne (Option.some.inj hnew).symm
    · intro a' ha' hb
      by_contra hne
      have hold : (fwd.insert a b).lookup a' = some b := by
        rw [Map.lookup_insert_ite, if_neg hne]
        exact (h a' ha' b).mpr hb
      have hnew := (h' a' ha' b).mp hold
      rw [Map.lookup_insert_ite, if_pos rfl] at hnew
      exact hne (Option.some.inj hnew).symm
  · rintro ⟨hfwd, hbwd⟩ x hx y
    rw [Map.lookup_insert_ite, Map.lookup_insert_ite]
    by_cases hxa : x = a
    · subst hxa
      by_cases hyb : y = b
      · simp [hyb]
      · rw [if_pos rfl, if_neg hyb, ← h x hx y]
        refine iff_of_false (fun he => hyb (Option.some.inj he).symm) fun he => ?_
        exact hyb (hfwd hx y he)
    · by_cases hyb : y = b
      · subst hyb
        rw [if_neg hxa, if_pos rfl, h x hx y]
        refine iff_of_false (fun he => ?_) fun he => hxa (Option.some.inj he).symm
        exact hxa (hbwd x hx he)
      · rw [if_neg hxa, if_neg hyb]
        exact h x hx y

/-- **An entry out of the forward table** was none that is looked at. -/
theorem erase_fwd_iff (h : InverseOn P fwd bwd) (a : A) :
    InverseOn P (fwd.erase a) bwd ↔ (P a → fwd.lookup a = none) := by
  constructor
  · intro h' ha
    by_contra hsome
    obtain ⟨b, hb⟩ := Option.ne_none_iff_exists'.mp hsome
    have hgone := (h' a ha b).mpr ((h a ha b).mp hb)
    rw [Map.lookup_erase_ite, if_pos rfl] at hgone
    cases hgone
  · intro hnone x hx y
    rw [Map.lookup_erase_ite]
    split
    · rename_i hxa
      subst hxa
      rw [← h x hx y, hnone hx]
    · exact h x hx y

/-- **Entries out of the reverse table** were for none of the keys that are looked at. -/
theorem erase_bwd_iff (h : InverseOn P fwd bwd) {bwd' : Map B A} (out : B → Prop)
    [DecidablePred out]
    (hout : ∀ b, bwd'.lookup b = if out b then none else bwd.lookup b) :
    InverseOn P fwd bwd' ↔ ∀ b, out b → ∀ a, P a → bwd.lookup b ≠ some a := by
  constructor
  · intro h' b hb a ha hsome
    have hgone := (h' a ha b).mp ((h a ha b).mpr hsome)
    rw [hout, if_pos hb] at hgone
    cases hgone
  · intro hnot x hx y
    rw [hout, h x hx y]
    split
    · rename_i hy
      exact iff_of_false (hnot y hy x hx) nofun
    · exact Iff.rfl

/-- **A read through `operator[]`** keeps the tables inverse exactly when the key is there. -/
theorem touch_fwd_iff (h : InverseOn P fwd bwd) (a : A) (d : B) :
    InverseOn P (Map.touch fwd a d) bwd ↔ (P a → a ∈ fwd) := by
  constructor
  · intro h' ha
    by_contra hnot
    have hnone := Finmap.lookup_eq_none.mpr hnot
    have hnew : (Map.touch fwd a d).lookup a = some d := by
      rw [Map.lookup_touch, if_pos rfl, Map.index_of_not_mem hnot]
    have hold := (h a ha d).mpr ((h' a ha d).mp hnew)
    rw [hnone] at hold
    cases hold
  · intro hmem
    by_cases ha : P a
    · rw [Map.touch_of_mem (hmem ha)]
      exact h
    · intro x hx y
      have hne : x ≠ a := fun he => ha (he ▸ hx)
      rw [Map.lookup_touch, if_neg hne]
      exact h x hx y

end InverseOn

end GB28181.Base
