import Mathlib.Data.List.Basic

/-!
# Objects taken, used and given away

A call takes objects from a pool, uses them and gives each away: frees it or hands it to somebody
else.  Its trace lists these events in order.

* `life` — what an object has gone through, `broken` from the first event out of order;
* `life_append`, `life_eq_self`, `life_broken` — traces one after another, traces about other
  objects, and that an error is for good;
* `life_live_iff` — an object the caller owns ends up given away **exactly when** the trace gives
  it away once, neither takes it again before nor touches it afterwards;
* `Balanced` — whatever the trace takes it gives away once.
-/

set_option autoImplicit false

namespace GB28181.Base.Own

variable {X : Type}

inductive Event (X : Type) where
  /-- The object comes from the pool. -/
  | take (x : X)
  /-- It is read or written. -/
  | use (x : X)
  /-- It is freed, or another owner gets it. -/
  | give (x : X)
deriving DecidableEq

def Event.on : Event X → X
  | .take x => x
  | .use x => x
  | .give x => x

inductive Life where
  | absent
  | live
  | gone
  | broken
deriving DecidableEq

def Life.next : Life → Event X → Life
  | .absent, .take _ => .live
  | .live, .use _ => .live
  | .live, .give _ => .gone
  | _, _ => .broken

/-- The trace gives `x` away once, after uses of it only, and does not come back to it. -/
def GivenOnce (x : X) (tr : List (Event X)) : Prop :=
  ∃ before after, tr = before ++ .give x :: after ∧ (∀ e ∈ before, e.on = x → e = .use x) ∧
    ∀ e ∈ after, e.on ≠ x

theorem givenOnce_cons {x : X} {e : Event X} {tr : List (Event X)} : GivenOnce x (e :: tr) ↔
    (e = .give x ∧ ∀ e ∈ tr, e.on ≠ x) ∨ (e.on = x → e = .use x) ∧ GivenOnce x tr := by
  constructor
  · rintro ⟨before, after, h, hb, ha⟩
    cases before with
    | nil =>
      obtain ⟨rfl, rfl⟩ := List.cons.inj h
      exact Or.inl ⟨rfl, ha⟩
    | cons e' before =>
      obtain ⟨rfl, rfl⟩ := List.cons.inj h
      rw [List.forall_mem_cons] at hb
      exact Or.inr ⟨hb.1, before, after, rfl, hb.2, ha⟩
  · rintro (⟨rfl, ha⟩ | ⟨he, before, after, rfl, hb, ha⟩)
    · exact ⟨[], tr, rfl, fun _ h => (by cases h), ha⟩
    · exact ⟨e :: before, after, rfl, List.forall_mem_cons.mpr ⟨he, hb⟩, ha⟩

section Life

variable [DecidableEq X]

def Life.step (x : X) (l : Life) (e : Event X) : Life := if e.on = x then l.next e else l

/-- What the object `x` has gone through after a trace. -/
def life (x : X) (l : Life) (tr : List (Event X)) : Life := tr.foldl (Life.step x) l

@[simp] theorem life_nil (x : X) (l : Life) : life x l [] = l := rfl

theorem life_cons (x : X) (l : Life) (e : Event X) (tr : List (Event X)) :
    life x l (e :: tr) = life x (Life.step x l e) tr := rfl

theorem life_append (x : X) (l : Life) (tr tr' : List (Event X)) :
    life x l (tr ++ tr') = life x (life x l tr) tr' := List.foldl_append

theorem life_eq_self {x : X} {tr : List (Event X)} (h : ∀ e ∈ tr, e.on ≠ x) (l : Life) :
    life x l tr = l := by
  induction tr with
  | nil => rfl
  | cons e tr ih =>
    rw [List.forall_mem_cons] at h
    rw [life_cons, Life.step, if_neg h.1]
    exact ih h.2

theorem life_broken (x : X) (tr : List (Event X)) : life x .broken tr = .broken := by
  induction tr with
  | nil => rfl
  | cons e tr ih =>
    have hstep : Life.step x .broken e = .broken := by
      unfold Life.step
      split <;> rfl
    rw [life_cons, hstep, ih]

theorem life_live_use (x : X) (tr : List (Event X)) :
    life x .live (.use x :: tr) = life x .live tr := by
  rw [life_cons, Life.step, if_pos (show (Event.use x).on = x from rfl)]
  rfl

theorem life_live_give (x : X) (tr : List (Event X)) :
    life x .live (.give x :: tr) = life x .gone tr := by
  rw [life_cons, Life.step, if_pos (show (Event.give x).on = x from rfl)]
  rfl

theorem life_gone_use (x : X) (tr : List (Event X)) :
    life x .gone (.use x :: tr) = .broken := by
  rw [life_cons, Life.step, if_pos (show (Event.use x).on = x from rfl)]
  exact life_broken x tr

/-- What is gone stays as it is exactly under accesses to other objects. -/
theorem life_gone_iff {x : X} {tr : List (Event X)} :
    life x .gone tr = .gone ↔ ∀ e ∈ tr, e.on ≠ x := by
  constructor
  · intro h
    induction tr with
    | nil =>
      intro e he
      cases he
    | cons e tr ih =>
      rw [life_cons, Life.step] at h
      by_cases he : e.on = x
      · have hbroken : Life.gone.next e = .broken := by cases e <;> rfl
        rw [if_pos he, hbroken, life_broken] at h
        cases h
      · rw [if_neg he] at h
        exact List.forall_mem_cons.mpr ⟨he, ih h⟩
  · exact fun h => life_eq_self h _

/-- **An owned object is given away once**, and not touched any more. -/
theorem life_live_iff {x : X} {tr : List (Event X)} :
    life x .live tr = .gone ↔ GivenOnce x tr := by
  induction tr with
  | nil =>
    constructor
    · intro h
      cases h
    · rintro ⟨before, after, h, -⟩
      cases before <;> cases h
  | cons e tr ih =>
    rw [life_cons, Life.step, givenOnce_cons]
    by_cases he : e.on = x
    swap
    · rw [if_neg he, ih]
      constructor
      · exact fun h => Or.inr ⟨fun h' => absurd h' he, h⟩
      · rintro (⟨rfl, -⟩ | ⟨-, h⟩)
        · exact absurd rfl he
        · exact h
    · rw [if_pos he]
      cases e with
      | take y =>
        have hbroken : life x (Life.live.next (.take y)) tr = .broken := life_broken x tr
        rw [hbroken]
        refine iff_of_false (by decide) ?_
        rintro (⟨h, -⟩ | ⟨h, -⟩)
        · cases h
        · cases h he
      | use y =>
        obtain rfl : y = x := he
        show life y .live tr = .gone ↔ _
        rw [ih]
        constructor
        · exact fun h => Or.inr ⟨fun _ => rfl, h⟩
        · rintro (⟨h, -⟩ | ⟨-, h⟩)
          · cases h
          · exact h
      | give y =>
        obtain rfl : y = x := he
        show life y .gone tr = .gone ↔ _
        rw [life_gone_iff]
        constructor
        · exact fun h => Or.inl ⟨rfl, h⟩
        · rintro (⟨-, h⟩ | ⟨h, -⟩)
          · exact h
          · cases h rfl

/-- Whatever the trace takes it gives away once, and leaves alone afterwards. -/
def Balanced (tr : List (Event X)) : Prop := ∀ x, .take x ∈ tr → life x .absent tr = .gone

end Life

end GB28181.Base.Own
