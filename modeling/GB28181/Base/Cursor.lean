import GB28181.Base.Proc

/-!
# Loops over a cursor

A C++ loop `while (cur) { … cur = next(ctx); }` ends when its body reads the next item on every
path through it.  The loop runs with a bound on its turns; running out of them is a fault.

* `Lists` — the cursor gives the items of a list in order, then none;
* `visit` — the loop, whose body tells whether it has read the next item;
* `Acts` — what the body does is settled by the item, on the states that matter;
* `visit_returns` — a loop that reads on at every item ends, with the effects of all items;
* `visit_returned` — **a loop that ended has read on at every item**: one item at which it does
  not keeps it there for ever (`visit_stays`).
-/

set_option autoImplicit false

namespace GB28181.Base

namespace Proc

variable {γ β σ ε φ : Type}

/-- From `c` the cursor gives the items of the list, then none. -/
inductive Lists (next : γ → Option β × γ) : γ → List β → Prop
  | done {c : γ} (h : (next c).1 = none) : Lists next c []
  | item {c : γ} {b : β} {l : List β} (h : (next c).1 = some b) (rest : Lists next (next c).2 l) :
      Lists next c (b :: l)

/-- The loop over the item that was read last. -/
def visit (next : γ → Option β × γ) (stuck : φ) (body : β → Proc σ ε φ Bool) :
    Nat → Option β × γ → Proc σ ε φ Unit
  | _, (none, _) => pure ()
  | 0, (some _, _) => lift (.error stuck)
  | fuel + 1, (some cur, c) => do
    let advanced ← body cur
    visit next stuck body fuel (if advanced then next c else (some cur, c))

/-- On the states with `P` the effects and the result of the body are those of the item, and the
state it leaves has `P` again. -/
structure Acts (P : σ → Prop) (body : β → Proc σ ε φ Bool) (out : β → List ε)
    (val : β → Except φ Bool) : Prop where
  out_eq : ∀ b s, P s → (body b s).out = out b
  val_eq : ∀ b s, P s → (body b s).val = val b
  keeps : ∀ b s, P s → P (body b s).state

variable {next : γ → Option β × γ} {stuck : φ} {body : β → Proc σ ε φ Bool} {P : σ → Prop}
  {out : β → List ε} {val : β → Except φ Bool}

theorem visit_none (fuel : Nat) {r : Option β × γ} (h : r.1 = none) (s : σ) :
    visit next stuck body fuel r s = ⟨[], s, .ok ()⟩ := by
  obtain ⟨_, c⟩ := r
  cases h
  cases fuel <;> rfl

theorem visit_advances (h : Acts P body out val) {b : β} (hb : val b = .ok true) (fuel : Nat)
    (c : γ) {s : σ} (hs : P s) :
    visit next stuck body (fuel + 1) (some b, c) s =
      let rest := visit next stuck body fuel (next c) (body b s).state
      ⟨out b ++ rest.out, rest.state, rest.val⟩ := by
  have hout := h.out_eq b s hs
  have hval := h.val_eq b s hs
  rw [visit, run_bind]
  generalize body b s = outcome at hout hval
  obtain ⟨o, s', v⟩ := outcome
  obtain rfl : o = out b := hout
  obtain rfl : v = .ok true := hval.trans hb
  rfl

theorem visit_stays (h : Acts P body out val) {b : β} (hb : val b = .ok false) (c : γ) (fuel : Nat)
    {s : σ} (hs : P s) : ¬ Returns (visit next stuck body fuel (some b, c)) s := by
  induction fuel generalizing s with
  | zero =>
    rintro ⟨_, he⟩
    cases he
  | succ fuel ih =>
    intro hr
    rw [visit, returns_bind] at hr
    obtain ⟨advanced, ha, hrest⟩ := hr
    rw [h.val_eq b s hs, hb, Except.ok.injEq] at ha
    subst ha
    exact ih (h.keeps b s hs) hrest

theorem visit_returns (h : Acts P body out val) {c : γ} {l : List β} (hl : Lists next c l)
    (hok : ∀ b ∈ l, val b = .ok true) {fuel : Nat} (hfuel : l.length ≤ fuel) {s : σ} (hs : P s) :
    Returns (visit next stuck body fuel (next c)) s := by
  induction hl generalizing fuel s with
  | done hnone => exact ⟨(), by rw [visit_none _ hnone]⟩
  | @item c b l hsome _ ih =>
    rw [List.forall_mem_cons] at hok
    rw [List.length_cons] at hfuel
    obtain ⟨fuel, rfl⟩ : ∃ n, fuel = n + 1 := ⟨fuel - 1, by omega⟩
    have hnext : next c = (some b, (next c).2) := Prod.ext hsome rfl
    have hrest : l.length ≤ fuel := by omega
    obtain ⟨u, hu⟩ := ih hok.2 hrest (h.keeps b s hs)
    refine ⟨u, ?_⟩
    rw [hnext, visit_advances h hok.1 _ _ hs]
    exact hu

/-- **A loop that ended** has left every item; its effects are those of the items. -/
theorem visit_returned (h : Acts P body out val) {c : γ} {l : List β} (hl : Lists next c l)
    {fuel : Nat} {s : σ} (hs : P s) (hr : Returns (visit next stuck body fuel (next c)) s) :
    (∀ b ∈ l, val b = .ok true) ∧
      (visit next stuck body fuel (next c) s).out = l.flatMap out ∧
      P (visit next stuck body fuel (next c) s).state := by
  induction hl generalizing fuel s with
  | done hnone =>
    rw [visit_none _ hnone]
    exact ⟨fun b hb => (nomatch hb), rfl, hs⟩
  | @item c b l hsome _ ih =>
    have hnext : next c = (some b, (next c).2) := Prod.ext hsome rfl
    rw [hnext] at hr ⊢
    cases fuel with
    | zero =>
      obtain ⟨_, he⟩ := hr
      cases he
    | succ fuel =>
      have hb : val b = .ok true := by
        have hfirst := hr
        rw [visit, returns_bind] at hfirst
        obtain ⟨advanced, ha, _⟩ := hfirst
        rw [h.val_eq b s hs] at ha
        cases advanced with
        | true => exact ha
        | false => exact absurd hr (visit_stays h ha _ _ hs)
      have hrest : Returns (visit next stuck body fuel (next (next c).2)) (body b s).state := by
        obtain ⟨u, hu⟩ := hr
        rw [visit_advances h hb _ _ hs] at hu
        exact ⟨u, hu⟩
      obtain ⟨hall, hout, hstate⟩ := ih (h.keeps b s hs) hrest
      rw [visit_advances h hb _ _ hs]
      refine ⟨List.forall_mem_cons.mpr ⟨hb, hall⟩, ?_, hstate⟩
      rw [List.flatMap_cons, ← hout]

end Proc

end GB28181.Base
