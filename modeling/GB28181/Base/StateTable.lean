import Mathlib.Data.List.Basic

/-!
# Table-driven machines

A machine looks up what to do in a table of transitions, and reports what it did.

* `Transition`, `findMethod` — a row of the table and the first row for a state and a kind of
  event; `findMethod_mem`: what was found stands in the table;
* `runLog` — a run of a step function with its reports, in order; `runLog_append`, `runLog_flatMap`;
* `runLog_rule` — an invariant of the state together with what was reported so far;
* `Expires` — a machine that dies once: it says so with its last report and is silent from then
  on; `Expires.runLog_alive`, `Expires.runLog_dead`, `Expires.runLog_last`;
* `EndsOnce` — a machine that reports its end once and may go on; `EndsOnce.runLog_count`.
-/

set_option autoImplicit false

namespace GB28181.Base

section Table

variable {σ ε μ : Type} [DecidableEq σ] [DecidableEq ε]

/-- A row: in the state, an event of the kind calls the method. -/
structure Transition (σ ε μ : Type) where
  state : σ
  type : ε
  method : μ

/-- The method of the first row for the state and the kind of event. -/
def findMethod (table : List (Transition σ ε μ)) (type : ε) (state : σ) : Option μ :=
  (table.find? fun t => t.type = type ∧ t.state = state).map Transition.method

theorem findMethod_mem {table : List (Transition σ ε μ)} {type : ε} {state : σ} {m : μ}
    (h : findMethod table type state = some m) : ⟨state, type, m⟩ ∈ table := by
  obtain ⟨t, ht, rfl⟩ := Option.map_eq_some_iff.mp h
  have hrow : t.type = type ∧ t.state = state := by simpa using List.find?_some ht
  obtain ⟨rfl, rfl⟩ := hrow
  exact List.mem_of_find?_eq_some ht

end Table

section RunLog

variable {σ ι ο : Type}

def runLog (step : σ → ι → σ × List ο) : σ → List ι → σ × List ο
  | s, [] => (s, [])
  | s, i :: is => ((runLog step (step s i).1 is).1, (step s i).2 ++ (runLog step (step s i).1 is).2)

variable {step : σ → ι → σ × List ο}

@[simp] theorem runLog_nil (s : σ) : runLog step s [] = (s, []) := rfl

@[simp] theorem runLog_cons (s : σ) (i : ι) (is : List ι) :
    runLog step s (i :: is) =
      ((runLog step (step s i).1 is).1, (step s i).2 ++ (runLog step (step s i).1 is).2) := rfl

theorem runLog_append (s : σ) (is js : List ι) :
    runLog step s (is ++ js) =
      ((runLog step (runLog step s is).1 js).1,
        (runLog step s is).2 ++ (runLog step (runLog step s is).1 js).2) := by
  induction is generalizing s with
  | nil => rfl
  | cons i is ih => simp only [List.cons_append, runLog_cons, ih, List.append_assoc]

/-- A run whose inputs are runs of a smaller machine is a run of the smaller one. -/
theorem runLog_flatMap {κ : Type} (inner : κ → List ι) (s : σ) (ks : List κ) :
    runLog step s (ks.flatMap inner) = runLog (fun s k => runLog step s (inner k)) s ks := by
  induction ks generalizing s with
  | nil => rfl
  | cons k ks ih => rw [List.flatMap_cons, runLog_append, runLog_cons, ih]

theorem runLog_rule {Inv : σ → List ο → Prop}
    (hstep : ∀ s i log, Inv s log → Inv (step s i).1 (log ++ (step s i).2)) {s : σ}
    {log : List ο} (hs : Inv s log) (is : List ι) :
    Inv (runLog step s is).1 (log ++ (runLog step s is).2) := by
  induction is generalizing s log with
  | nil => simpa using hs
  | cons i is ih =>
    rw [runLog_cons, ← List.append_assoc]
    exact ih (hstep s i log hs)

/-- A machine that dies once: the step that kills it reports so last, and it is silent from then
on. -/
structure Expires (step : σ → ι → σ × List ο) (Alive : σ → Prop) (final : ο → Prop) : Prop where
  alive : ∀ s i, Alive s → Alive (step s i).1 → ∀ o ∈ (step s i).2, ¬ final o
  dies : ∀ s i, Alive s → ¬ Alive (step s i).1 →
    ∃ os o, (step s i).2 = os ++ [o] ∧ final o ∧ ∀ o ∈ os, ¬ final o
  silent : ∀ s i, ¬ Alive s → ¬ Alive (step s i).1 ∧ (step s i).2 = []

namespace Expires

variable {Alive : σ → Prop} {final : ο → Prop}

theorem runLog_dead (h : Expires step Alive final) {s : σ} (hs : ¬ Alive s) (is : List ι) :
    ¬ Alive (runLog step s is).1 ∧ (runLog step s is).2 = [] := by
  induction is generalizing s with
  | nil => exact ⟨hs, rfl⟩
  | cons i is ih =>
    obtain ⟨hdead, hlog⟩ := h.silent s i hs
    obtain ⟨hrest, hlog'⟩ := ih hdead
    exact ⟨hrest, by rw [runLog_cons, hlog, hlog', List.nil_append]⟩

theorem runLog_alive (h : Expires step Alive final) {s : σ} {is : List ι}
    (hend : Alive (runLog step s is).1) : ∀ o ∈ (runLog step s is).2, ¬ final o := by
  induction is generalizing s with
  | nil => simp
  | cons i is ih =>
    have hnext : Alive (step s i).1 := by
      by_contra hdead
      exact (h.runLog_dead hdead is).1 hend
    have hs : Alive s := by
      by_contra hdead
      exact (h.silent s i hdead).1 hnext
    intro o ho
    rcases List.mem_append.mp ho with ho | ho
    · exact h.alive s i hs hnext o ho
    · exact ih hend o ho

/-- A machine that died on the way reported its end once, with the last thing it said. -/
theorem runLog_last (h : Expires step Alive final) {s : σ} {is : List ι} (hs : Alive s)
    (hend : ¬ Alive (runLog step s is).1) :
    ∃ os o, (runLog step s is).2 = os ++ [o] ∧ final o ∧ ∀ o ∈ os, ¬ final o := by
  induction is generalizing s with
  | nil => exact absurd hs hend
  | cons i is ih =>
    by_cases hnext : Alive (step s i).1
    · obtain ⟨os, o, hlog, hfinal, hos⟩ := ih hnext hend
      refine ⟨(step s i).2 ++ os, o, by rw [runLog_cons, hlog, List.append_assoc], hfinal, ?_⟩
      intro o' ho'
      rcases List.mem_append.mp ho' with ho' | ho'
      · exact h.alive s i hs hnext o' ho'
      · exact hos o' ho'
    · obtain ⟨os, o, hlog, hfinal, hos⟩ := h.dies s i hs hnext
      refine ⟨os, o, ?_, hfinal, hos⟩
      rw [runLog_cons, (h.runLog_dead hnext is).2, List.append_nil, hlog]

end Expires

/-- A machine that reports its end once: with the step that ends it, and at no other time. -/
structure EndsOnce (step : σ → ι → σ × List ο) (Alive : σ → Prop) (final : ο → Bool) : Prop where
  alive : ∀ s i, Alive s → Alive (step s i).1 → (step s i).2.countP final = 0
  ends : ∀ s i, Alive s → ¬ Alive (step s i).1 → (step s i).2.countP final = 1
  ended : ∀ s i, ¬ Alive s → ¬ Alive (step s i).1 ∧ (step s i).2.countP final = 0

namespace EndsOnce

variable {Alive : σ → Prop} {final : ο → Bool}

theorem runLog_over (h : EndsOnce step Alive final) {s : σ} (hs : ¬ Alive s) (is : List ι) :
    ¬ Alive (runLog step s is).1 ∧ (runLog step s is).2.countP final = 0 := by
  induction is generalizing s with
  | nil => exact ⟨hs, rfl⟩
  | cons i is ih =>
    obtain ⟨hover, hcount⟩ := h.ended s i hs
    obtain ⟨hrest, hcount'⟩ := ih hover
    exact ⟨hrest, by rw [runLog_cons, List.countP_append, hcount, hcount']⟩

theorem runLog_count [DecidablePred Alive] (h : EndsOnce step Alive final) {s : σ} (hs : Alive s)
    (is : List ι) :
    (runLog step s is).2.countP final = if Alive (runLog step s is).1 then 0 else 1 := by
  induction is generalizing s with
  | nil => simp [hs]
  | cons i is ih =>
    rw [runLog_cons, List.countP_append]
    by_cases hnext : Alive (step s i).1
    · rw [h.alive s i hs hnext, Nat.zero_add, ih hnext]
    · obtain ⟨hover, hcount⟩ := h.runLog_over hnext is
      rw [h.ends s i hs hnext, hcount, if_neg hover]

end EndsOnce

end RunLog

end GB28181.Base
