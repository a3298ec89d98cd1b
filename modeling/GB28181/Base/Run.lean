import Mathlib.Data.List.Basic

/-!
# Runs of a step function

A run folds a step function over a list of inputs.  `calls` lists the inputs of the run, each
with the state it meets, so that a condition on the steps of a run is a condition on its calls.

Principal results:

* `mem_calls_iff` — the calls of a run are its prefixes followed by one more input;
* `run_invariant` — an invariant kept by every step that meets a condition holds after every run
  whose calls all meet it;
* `run_iff_of_trap` — where a step that breaks the condition leads into a trap, the calls of a
  run meet the condition *exactly* when its last state is a good one
  (`run_iff_of_trap_of_valid`: where only some calls are possible);
* `run_iff_of_step` — the same for a property that a good step keeps and nothing brings back;
* `forall_calls` — the same with what each step does from a state in the invariant;
* `forall_calls_iff`, `forall_calls_iff_of_keep`, `forall_calls_congr` — where a step does what it
  should *exactly* when it meets the condition, all calls of a run do so exactly when all meet it;
* `Fitting` — a history whose every event fits what came before it;
* `clocked_calls_le` — in a run over time stamped inputs with non-decreasing stamps no call comes
  before the clock.
-/

set_option autoImplicit false

namespace GB28181.Base

variable {σ ι : Type}

def run (step : σ → ι → σ) (s : σ) (is : List ι) : σ := is.foldl step s

/-- The inputs of a run, each with the state it meets. -/
def calls (step : σ → ι → σ) : σ → List ι → List (σ × ι)
  | _, [] => []
  | s, i :: is => (s, i) :: calls step (step s i) is

@[simp] theorem run_nil (step : σ → ι → σ) (s : σ) : run step s [] = s := rfl

@[simp] theorem run_cons (step : σ → ι → σ) (s : σ) (i : ι) (is : List ι) :
    run step s (i :: is) = run step (step s i) is := rfl

theorem run_append (step : σ → ι → σ) (s : σ) (is js : List ι) :
    run step s (is ++ js) = run step (run step s is) js := List.foldl_append

theorem mem_calls_iff {step : σ → ι → σ} {p : σ × ι} {s : σ} {is : List ι} :
    p ∈ calls step s is ↔ ∃ pre post, is = pre ++ p.2 :: post ∧ p.1 = run step s pre := by
  induction is generalizing s with
  | nil => simp [calls]
  | cons i is ih =>
    rw [calls, List.mem_cons, ih]
    constructor
    · rintro (rfl | ⟨pre, post, rfl, h⟩)
      · exact ⟨[], is, rfl, rfl⟩
      · exact ⟨i :: pre, post, rfl, h⟩
    · rintro ⟨pre, post, he, h⟩
      cases pre with
      | nil =>
        obtain ⟨rfl, rfl⟩ := List.cons.inj he
        exact Or.inl (Prod.ext h rfl)
      | cons j pre =>
        obtain ⟨rfl, rfl⟩ := List.cons.inj he
        exact Or.inr ⟨pre, post, rfl, h⟩

theorem filterMap_cons_append {α β : Type} (f : α → Option β) (a : α) (l : List α) :
    (a :: l).filterMap f = (f a).toList ++ l.filterMap f := by
  rw [List.filterMap_cons]
  cases f a <;> rfl

/-- What the calls of a run give out, in order. -/
def outputs {β : Type} (step : σ → ι → σ) (out : σ → ι → Option β) (s : σ) (is : List ι) :
    List β := (calls step s is).filterMap fun p => out p.1 p.2

theorem outputs_cons {β : Type} (step : σ → ι → σ) (out : σ → ι → Option β) (s : σ) (i : ι)
    (is : List ι) :
    outputs step out s (i :: is) = (out s i).toList ++ outputs step out (step s i) is :=
  filterMap_cons_append _ _ _

theorem calls_concat (step : σ → ι → σ) (s : σ) (is : List ι) (i : ι) :
    calls step s (is ++ [i]) = calls step s is ++ [(run step s is, i)] := by
  induction is generalizing s with
  | nil => rfl
  | cons j is ih =>
    rw [List.cons_append, calls, ih]
    rfl

theorem outputs_concat {β : Type} (step : σ → ι → σ) (out : σ → ι → Option β) (s : σ) (is : List ι)
    (i : ι) : outputs step out s (is ++ [i]) =
      outputs step out s is ++ (out (run step s is) i).toList := by
  rw [outputs, calls_concat, List.filterMap_append]
  cases h : out (run step s is) i <;> simp [outputs, h]

/-- An invariant kept by every step that meets `ok` holds after a run whose calls all meet it. -/
theorem run_invariant {step : σ → ι → σ} {ok : σ → ι → Prop} {Inv : σ → Prop}
    (keep : ∀ s i, ok s i → Inv s → Inv (step s i)) {s : σ} {is : List ι} (hs : Inv s)
    (hc : ∀ p ∈ calls step s is, ok p.1 p.2) : Inv (run step s is) := by
  induction is generalizing s with
  | nil => exact hs
  | cons i is ih =>
    have hstep : Inv (step s i) := keep s i (hc (s, i) List.mem_cons_self) hs
    apply ih hstep
    intro p hp
    exact hc p (List.mem_cons_of_mem _ hp)

theorem run_induct {step : σ → ι → σ} {Inv : σ → Prop} (keep : ∀ s i, Inv s → Inv (step s i))
    {s : σ} (hs : Inv s) : ∀ is : List ι, Inv (run step s is) :=
  fun is => List.foldlRecOn is step hs (fun s h i _ => keep s i h)

/-- **Exact condition of a run.**  If good steps keep `Inv`, a bad step leads from `Inv` into
`Trap`, and no step leaves `Trap`, then a run from `Inv` ends well if and only if all its steps
were good.  Only steps that are `valid` where they are taken are looked at. -/
theorem run_iff_of_trap_of_valid {step : σ → ι → σ} {valid ok : σ → ι → Prop}
    {Inv Trap Good : σ → Prop}
    (keep : ∀ s i, valid s i → ok s i → Inv s → Inv (step s i))
    (fall : ∀ s i, valid s i → ¬ ok s i → Inv s → Trap (step s i))
    (trap : ∀ s i, Trap s → Trap (step s i))
    (good : ∀ s, Inv s → Good s) (bad : ∀ s, Trap s → ¬ Good s) {s : σ} {is : List ι}
    (hs : Inv s) (hv : ∀ p ∈ calls step s is, valid p.1 p.2) :
    Good (run step s is) ↔ ∀ p ∈ calls step s is, ok p.1 p.2 := by
  induction is generalizing s with
  | nil => simp [calls, good s hs]
  | cons i is ih =>
    rw [calls, List.forall_mem_cons] at hv
    rw [run_cons, calls, List.forall_mem_cons]
    by_cases h : ok s i
    · rw [ih (keep s i hv.1 h hs) hv.2]
      exact ⟨fun hr => ⟨h, hr⟩, fun hr => hr.2⟩
    · have ht : Trap (run step (step s i) is) := run_induct trap (fall s i hv.1 h hs) is
      exact ⟨fun hg => absurd hg (bad _ ht), fun hr => absurd hr.1 h⟩

theorem run_iff_of_trap {step : σ → ι → σ} {ok : σ → ι → Prop} {Inv Trap Good : σ → Prop}
    (keep : ∀ s i, ok s i → Inv s → Inv (step s i))
    (fall : ∀ s i, ¬ ok s i → Inv s → Trap (step s i))
    (trap : ∀ s i, Trap s → Trap (step s i))
    (good : ∀ s, Inv s → Good s) (bad : ∀ s, Trap s → ¬ Good s) {s : σ} {is : List ι}
    (hs : Inv s) : Good (run step s is) ↔ ∀ p ∈ calls step s is, ok p.1 p.2 :=
  @run_iff_of_trap_of_valid σ ι step (fun _ _ => True) ok Inv Trap Good
    (fun s i _ => keep s i) (fun s i _ => fall s i) trap good bad s is hs (fun _ _ => trivial)

/-- **Exact condition of a run, for a property that lasts.**  If after a step the property holds
exactly when it held before and the step was good, then it holds after a run exactly when it held
at the beginning and all steps were good. -/
theorem run_iff_of_step {step : σ → ι → σ} {ok : σ → ι → Prop} {Inv Good : σ → Prop}
    (keep : ∀ s i, Inv s → Inv (step s i))
    (exact : ∀ s i, Inv s → (Good (step s i) ↔ Good s ∧ ok s i)) {s : σ} {is : List ι}
    (hs : Inv s) :
    Good (run step s is) ↔ Good s ∧ ∀ p ∈ calls step s is, ok p.1 p.2 := by
  induction is generalizing s with
  | nil => simp [calls]
  | cons i is ih =>
    rw [run_cons, calls, List.forall_mem_cons, ih (keep s i hs), exact s i hs, and_assoc]

/-- The same with what a step that meets `ok` does from a state in the invariant. -/
theorem forall_calls {step : σ → ι → σ} {ok Q : σ → ι → Prop} {Inv : σ → Prop}
    (keep : ∀ s i, Inv s → ok s i → Inv (step s i) ∧ Q s i) {s : σ} {is : List ι} (hs : Inv s)
    (hc : ∀ p ∈ calls step s is, ok p.1 p.2) : ∀ p ∈ calls step s is, Q p.1 p.2 := by
  induction is generalizing s with
  | nil =>
    intro p hp
    cases hp
  | cons i is ih =>
    rw [calls, List.forall_mem_cons] at hc ⊢
    obtain ⟨hok, hrest⟩ := hc
    obtain ⟨hstep, hq⟩ := keep s i hs hok
    exact ⟨hq, ih hstep hrest⟩

/-- **Exact condition of a run, call by call.**  If from every state in `Inv` a step ends in `Inv`
and does what `Q` says exactly when it is good, then all calls do so exactly when all are good. -/
theorem forall_calls_iff {step : σ → ι → σ} {ok Q : σ → ι → Prop} {Inv : σ → Prop}
    (exact : ∀ s i, Inv s → ((Inv (step s i) ∧ Q s i) ↔ ok s i)) {s : σ} {is : List ι}
    (hs : Inv s) :
    (∀ p ∈ calls step s is, Inv (step p.1 p.2) ∧ Q p.1 p.2) ↔
      ∀ p ∈ calls step s is, ok p.1 p.2 := by
  induction is generalizing s with
  | nil => simp [calls]
  | cons i is ih =>
    rw [calls, List.forall_mem_cons, List.forall_mem_cons, exact s i hs]
    refine and_congr_right fun hok => ih ?_
    exact ((exact s i hs).mpr hok).1

theorem forall_calls_iff_of_keep {step : σ → ι → σ} {ok Q : σ → ι → Prop} {Inv : σ → Prop}
    (keep : ∀ s i, Inv s → ok s i → Inv (step s i)) (exact : ∀ s i, Inv s → (Q s i ↔ ok s i))
    {s : σ} {is : List ι} (hs : Inv s) :
    (∀ p ∈ calls step s is, Q p.1 p.2) ↔ ∀ p ∈ calls step s is, ok p.1 p.2 := by
  induction is generalizing s with
  | nil => simp [calls]
  | cons i is ih =>
    rw [calls, List.forall_mem_cons, List.forall_mem_cons, exact s i hs]
    exact and_congr_right fun hok => ih (keep s i hs hok)

/-- The same where every step keeps the invariant and only inputs of the run are looked at. -/
theorem forall_calls_congr {step : σ → ι → σ} {ok Q : σ → ι → Prop} {Inv : σ → Prop} {s : σ}
    {is : List ι} (keep : ∀ s, ∀ i ∈ is, Inv s → Inv (step s i))
    (exact : ∀ s, ∀ i ∈ is, Inv s → (Q s i ↔ ok s i)) (hs : Inv s) :
    (∀ p ∈ calls step s is, Q p.1 p.2) ↔ ∀ p ∈ calls step s is, ok p.1 p.2 := by
  induction is generalizing s with
  | nil => simp [calls]
  | cons i is ih =>
    rw [calls, List.forall_mem_cons, List.forall_mem_cons, exact s i List.mem_cons_self hs]
    refine and_congr_right fun _ => ih ?_ ?_ (keep s i List.mem_cons_self hs)
    · exact fun s j hj => keep s j (List.mem_cons_of_mem _ hj)
    · exact fun s j hj => exact s j (List.mem_cons_of_mem _ hj)

/-! ## Histories -/

/-- Every event of a history is as it should be after what came before. -/
def Fitting {α : Type} (R : List α → α → Prop) (history : List α) : Prop :=
  ∀ past e future, history = past ++ e :: future → R past e

theorem fitting_nil {α : Type} (R : List α → α → Prop) : Fitting R [] := by
  intro past e future h
  cases past <;> cases h

theorem fitting_concat {α : Type} {R : List α → α → Prop} {history : List α} {e : α} :
    Fitting R (history ++ [e]) ↔ Fitting R history ∧ R history e := by
  constructor
  · intro h
    refine ⟨fun past x future hx => h past x (future ++ [e]) ?_, h history e [] rfl⟩
    rw [hx, List.append_assoc, List.cons_append]
  · rintro ⟨h, he⟩ past x future hx
    rcases List.eq_nil_or_concat future with rfl | ⟨future, y, rfl⟩
    · obtain ⟨rfl, hxe⟩ := List.append_inj' hx rfl
      cases hxe
      exact he
    · rw [List.concat_eq_append, ← List.cons_append, ← List.append_assoc] at hx
      exact h past x future (List.append_inj' hx rfl).1

theorem Fitting.of_append {α : Type} {R : List α → α → Prop} {l l' : List α}
    (h : Fitting R (l ++ l')) : Fitting R l := by
  intro past x future hx
  refine h past x (future ++ l') ?_
  rw [hx, List.append_assoc, List.cons_append]

/-! ## Time stamped inputs -/

/-- A step at a time, on a state that carries the time of the last step. -/
def clocked (step : ℕ → σ → ι → σ) (s : ℕ × σ) (i : ℕ × ι) : ℕ × σ := (i.1, step i.1 s.2 i.2)

/-- Non-decreasing time stamps, none of them before `t`. -/
def TimesFrom (t : ℕ) (is : List (ℕ × ι)) : Prop := (t :: is.map Prod.fst).IsChain (· ≤ ·)

theorem clocked_calls_le {step : ℕ → σ → ι → σ} {s : ℕ × σ} {is : List (ℕ × ι)}
    (h : TimesFrom s.1 is) : ∀ p ∈ calls (clocked step) s is, p.1.1 ≤ p.2.1 := by
  induction is generalizing s with
  | nil =>
    intro p hp
    cases hp
  | cons i is ih =>
    intro p hp
    obtain ⟨hle, hrest⟩ := List.isChain_cons_cons.mp h
    rcases List.mem_cons.mp hp with rfl | hp
    · exact hle
    · exact ih (s := clocked step s i) hrest p hp

end GB28181.Base
