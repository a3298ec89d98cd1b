import GB28181.Base.Run

/-!
# Runs of a step function that can fail

A run stops at the first step that fails.  `tryCalls` lists the inputs it comes to, each with the
state it meets, as `calls` does for steps that cannot fail.

* `bind_eq_ok_iff` — a sequence of two calls that succeeds; `succeeds_mapM_iff`,
  `mapM_eq_some_iff` — a list of them;
* `succeeds_tryRun_iff` — a run fails where a step of it does;
* `forall_tryCalls_iff`, `forall_tryCalls_iff_forall` — where a step succeeds **exactly when it
  meets a condition**, all calls of a run do so exactly when all meet it;
* `tryRun_of_rel` — a run keeps a relation between the state and the inputs to come.
-/

set_option autoImplicit false

namespace GB28181.Base

variable {σ ι φ : Type}

theorem bind_eq_ok_iff {α β : Type} {x : Except φ α} {f : α → Except φ β} {b : β} :
    (x >>= f) = .ok b ↔ ∃ a, x = .ok a ∧ f a = .ok b := by
  cases x with
  | error e =>
    constructor
    · intro h
      cases h
    · rintro ⟨a, h, -⟩
      cases h
  | ok a =>
    constructor
    · exact fun h => ⟨a, rfl, h⟩
    · rintro ⟨a', h, hf⟩
      cases h
      exact hf

theorem error_not_ok {α : Type} {e : φ} : ¬ ∃ a : α, (Except.error e : Except φ α) = .ok a := by
  rintro ⟨a, h⟩
  cases h

def Succeeds {α : Type} (x : Except φ α) : Prop := ∃ a, x = .ok a

@[simp] theorem succeeds_ok {α : Type} (a : α) : Succeeds (Except.ok a : Except φ α) := ⟨a, rfl⟩

theorem succeeds_bind_iff {α β : Type} {x : Except φ α} {f : α → Except φ β} :
    Succeeds (x >>= f) ↔ ∃ a, x = .ok a ∧ Succeeds (f a) := by
  simp only [Succeeds, bind_eq_ok_iff]
  constructor
  · rintro ⟨b, a, ha, hb⟩
    exact ⟨a, ha, b, hb⟩
  · rintro ⟨a, ha, b, hb⟩
    exact ⟨b, a, ha, hb⟩

theorem succeeds_bind_of_left {α β : Type} {x : Except φ α} {f : α → Except φ β} {p : Prop}
    (hx : Succeeds x) (hf : ∀ a, Succeeds (f a) ↔ p) : Succeeds (x >>= f) ↔ p := by
  obtain ⟨a, rfl⟩ := hx
  exact hf a

theorem succeeds_bind_const {α β : Type} {x : Except φ α} {f : α → Except φ β} {q : Prop}
    (hf : ∀ a, Succeeds (f a) ↔ q) : Succeeds (x >>= f) ↔ Succeeds x ∧ q := by
  rw [succeeds_bind_iff]
  exact ⟨fun ⟨a, ha, h⟩ => ⟨⟨a, ha⟩, (hf a).mp h⟩, fun ⟨⟨a, ha⟩, h⟩ => ⟨a, ha, (hf a).mpr h⟩⟩

theorem mapM_eq_ok {α β : Type} {f : α → Except φ β} {g : α → β} {l : List α}
    (h : ∀ a ∈ l, f a = .ok (g a)) : l.mapM f = .ok (l.map g) := by
  induction l with
  | nil => rfl
  | cons a l ih =>
    obtain ⟨ha, hl⟩ := List.forall_mem_cons.mp h
    rw [List.mapM_cons, ha, ih hl]
    rfl

theorem mem_of_mapM_ok {α β : Type} {f : α → Except φ β} {l : List α} {bs : List β}
    (h : l.mapM f = .ok bs) {a : α} (ha : a ∈ l) : ∃ b ∈ bs, f a = .ok b := by
  induction l generalizing bs with
  | nil => cases ha
  | cons a' l ih =>
    rw [List.mapM_cons] at h
    obtain ⟨b, hb, h⟩ := bind_eq_ok_iff.mp h
    obtain ⟨bs', hbs', hcons⟩ := bind_eq_ok_iff.mp h
    cases hcons
    rcases List.mem_cons.mp ha with rfl | ha
    · exact ⟨b, List.mem_cons_self, hb⟩
    · obtain ⟨b', hmem, hb'⟩ := ih hbs' ha
      exact ⟨b', List.mem_cons_of_mem _ hmem, hb'⟩

/-- A loop over a list does not fail exactly when none of its rounds does. -/
theorem succeeds_mapM_iff {α β : Type} {f : α → Except φ β} : ∀ {l : List α},
    Succeeds (l.mapM f) ↔ ∀ a ∈ l, Succeeds (f a)
  | [] => by simp [pure, Except.pure]
  | a :: l => by
    rw [List.mapM_cons, succeeds_bind_iff, List.forall_mem_cons]
    constructor
    · rintro ⟨b, hb, h⟩
      obtain ⟨bs, hbs, -⟩ := succeeds_bind_iff.mp h
      exact ⟨⟨b, hb⟩, succeeds_mapM_iff.mp ⟨bs, hbs⟩⟩
    · rintro ⟨⟨b, hb⟩, h⟩
      obtain ⟨bs, hbs⟩ := succeeds_mapM_iff.mpr h
      exact ⟨b, hb, succeeds_bind_iff.mpr ⟨bs, hbs, succeeds_ok _⟩⟩

/-! ## Lists of calls that may give nothing -/

theorem mapM_isSome_iff {α β : Type} {f : α → Option β} {l : List α} :
    (l.mapM f).isSome ↔ ∀ a ∈ l, (f a).isSome := by
  induction l with
  | nil => simp
  | cons a l ih =>
    rw [List.mapM_cons, List.forall_mem_cons, ← ih]
    cases f a with
    | none => simp
    | some b => cases l.mapM f <;> simp

theorem mapM_eq_filterMap {α β : Type} {f : α → Option β} {l : List α}
    (h : ∀ a ∈ l, (f a).isSome) : l.mapM f = some (l.filterMap f) := by
  induction l with
  | nil => rfl
  | cons a l ih =>
    obtain ⟨ha, hl⟩ := List.forall_mem_cons.mp h
    obtain ⟨b, hb⟩ := Option.isSome_iff_exists.mp ha
    rw [List.mapM_cons, hb, ih hl, List.filterMap_cons_some hb]
    rfl

theorem mem_of_mapM {α β : Type} {f : α → Option β} {l : List α} {out : List β}
    (h : l.mapM f = some out) (b : β) :
    b ∈ out ↔ ∃ a ∈ l, f a = some b := by
  induction l generalizing out with
  | nil =>
    obtain rfl : [] = out := Option.some.inj h
    simp
  | cons a l ih =>
    rw [List.mapM_cons] at h
    obtain ⟨b₀, hb₀, h⟩ := Option.bind_eq_some_iff.mp h
    obtain ⟨out', hout, h⟩ := Option.bind_eq_some_iff.mp h
    obtain rfl : b₀ :: out' = out := Option.some.inj h
    rw [List.mem_cons, ih hout]
    simp [hb₀, eq_comm]

theorem mapM_eq_some_iff {α β : Type} {f : α → Option β} {g : α → β} {p : α → Prop}
    (h : ∀ x y, f x = some y ↔ p x ∧ y = g x) (xs : List α) (ys : List β) :
    xs.mapM f = some ys ↔ (∀ x ∈ xs, p x) ∧ ys = xs.map g := by
  induction xs generalizing ys with
  | nil =>
    rw [List.mapM_nil, List.map_nil, and_iff_right (fun x hx => by cases hx)]
    exact ⟨fun hys => (Option.some.inj hys).symm, fun hys => congrArg some hys.symm⟩
  | cons x xs ih =>
    rw [List.mapM_cons, List.forall_mem_cons, List.map_cons]
    constructor
    · intro hmap
      obtain ⟨y, hy, hmap⟩ := Option.bind_eq_some_iff.mp hmap
      obtain ⟨rest, hrest, hmap⟩ := Option.bind_eq_some_iff.mp hmap
      obtain ⟨hp, rfl⟩ := (h x y).mp hy
      obtain ⟨hall, rfl⟩ := (ih rest).mp hrest
      exact ⟨⟨hp, hall⟩, (Option.some.inj hmap).symm⟩
    · rintro ⟨⟨hp, hall⟩, rfl⟩
      rw [(h x (g x)).mpr ⟨hp, rfl⟩, (ih _).mpr ⟨hall, rfl⟩]
      rfl

theorem mapM_map_some {α β γ : Type} {f : β → Option γ} {g : α → β} {h : α → γ} {l : List α}
    (hf : ∀ a ∈ l, f (g a) = some (h a)) : (l.map g).mapM f = some (l.map h) := by
  induction l with
  | nil => rfl
  | cons a l ih =>
    obtain ⟨ha, hl⟩ := List.forall_mem_cons.mp hf
    rw [List.map_cons, List.mapM_cons, ha, ih hl]
    rfl

/-! ## Runs -/

/-- The state after a list of inputs, unless a step fails. -/
def tryRun (step : σ → ι → Except φ σ) : σ → List ι → Except φ σ
  | s, [] => .ok s
  | s, i :: is => do
    let s' ← step s i
    tryRun step s' is

/-- The inputs a run comes to, each with the state it meets. -/
def tryCalls (step : σ → ι → Except φ σ) : σ → List ι → List (σ × ι)
  | _, [] => []
  | s, i :: is =>
    (s, i) :: match step s i with
      | .error _ => []
      | .ok s' => tryCalls step s' is

theorem tryCalls_cons_ok {step : σ → ι → Except φ σ} {s s' : σ} {i : ι} {is : List ι}
    (h : step s i = .ok s') : tryCalls step s (i :: is) = (s, i) :: tryCalls step s' is := by
  simp only [tryCalls, h]

theorem tryRun_cons_ok {step : σ → ι → Except φ σ} {s s' : σ} {i : ι} {is : List ι}
    (h : step s i = .ok s') : tryRun step s (i :: is) = tryRun step s' is := by
  rw [tryRun, h]
  rfl

theorem tryRun_append_ok {step : σ → ι → Except φ σ} {s s' : σ} {is : List ι} (js : List ι)
    (h : tryRun step s is = .ok s') : tryRun step s (is ++ js) = tryRun step s' js := by
  induction is generalizing s with
  | nil =>
    cases h
    rfl
  | cons i is ih =>
    obtain ⟨s₁, hstep, hrun⟩ := bind_eq_ok_iff.mp h
    rw [List.cons_append, tryRun_cons_ok hstep]
    exact ih hrun

theorem succeeds_tryRun_iff {step : σ → ι → Except φ σ} {s : σ} {is : List ι} :
    Succeeds (tryRun step s is) ↔ ∀ p ∈ tryCalls step s is, Succeeds (step p.1 p.2) := by
  induction is generalizing s with
  | nil => simp [tryRun, tryCalls]
  | cons i is ih =>
    cases hstep : step s i with
    | error e =>
      have hrun : tryRun step s (i :: is) = .error e := by
        rw [tryRun, hstep]
        rfl
      rw [hrun]
      refine iff_of_false error_not_ok fun h => ?_
      have hfirst : Succeeds (step s i) := h (s, i) List.mem_cons_self
      rw [hstep] at hfirst
      exact error_not_ok hfirst
    | ok s' =>
      rw [tryRun_cons_ok hstep, tryCalls_cons_ok hstep, List.forall_mem_cons, ih, hstep]
      simp

/-- **Exact condition of a run**, where steps that succeed keep an invariant. -/
theorem forall_tryCalls_iff {step : σ → ι → Except φ σ} {ok : σ → ι → Prop} (Inv : σ → Prop)
    (keep : ∀ s i s', Inv s → step s i = .ok s' → Inv s')
    (exact : ∀ s i, Inv s → ((∃ s', step s i = .ok s') ↔ ok s i)) {s : σ} (hs : Inv s)
    (is : List ι) :
    (∀ p ∈ tryCalls step s is, ∃ s', step p.1 p.2 = .ok s') ↔
      ∀ p ∈ tryCalls step s is, ok p.1 p.2 := by
  induction is generalizing s with
  | nil => simp [tryCalls]
  | cons i is ih =>
    have hexact := exact s i hs
    cases hstep : step s i with
    | error e => simpa [tryCalls, hstep] using hexact
    | ok s' =>
      rw [tryCalls_cons_ok hstep, List.forall_mem_cons, List.forall_mem_cons, hexact]
      exact and_congr_right fun _ => ih (keep s i s' hs hstep)

/-- **Exact condition of a run on its inputs alone**, where steps that succeed keep an
invariant. -/
theorem forall_tryCalls_iff_forall {step : σ → ι → Except φ σ} {ok : ι → Prop}
    (Inv Good : σ → Prop) {s : σ} {is : List ι}
    (keep : ∀ s i s', Inv s → step s i = .ok s' → Inv s')
    (exact : ∀ s, ∀ i ∈ is, Inv s → Good s → ((∃ s', step s i = .ok s' ∧ Good s') ↔ ok i))
    (hinv : Inv s) (hs : Good s) :
    (∀ p ∈ tryCalls step s is, ∃ s', step p.1 p.2 = .ok s' ∧ Good s') ↔ ∀ i ∈ is, ok i := by
  induction is generalizing s with
  | nil => simp [tryCalls]
  | cons i is ih =>
    have hexact := exact s i List.mem_cons_self hinv hs
    have rest : ∀ s, ∀ j ∈ is, Inv s → Good s → ((∃ s', step s j = .ok s' ∧ Good s') ↔ ok j) :=
      fun s j hj => exact s j (List.mem_cons_of_mem _ hj)
    cases hstep : step s i with
    | error e =>
      have hno : ¬ ok i := by
        rw [← hexact, hstep]
        rintro ⟨s', h, -⟩
        cases h
      constructor
      · intro h
        exact absurd (hexact.mp (h (s, i) List.mem_cons_self)) hno
      · intro h
        exact absurd (h i List.mem_cons_self) hno
    | ok s' =>
      rw [tryCalls_cons_ok hstep, List.forall_mem_cons, List.forall_mem_cons, hexact]
      refine and_congr_right fun hok => ?_
      obtain ⟨s'', h'', hgood⟩ := hexact.mpr hok
      obtain rfl : s' = s'' := Except.ok.inj (hstep.symm.trans h'')
      exact ih rest (keep s i s' hinv hstep) hgood

/-- **A run whose calls all meet a condition**, where a step that meets it succeeds and keeps a
relation between the state and the inputs to come. -/
theorem tryRun_of_rel {step : σ → ι → Except φ σ} {ok : σ → ι → Prop} (Rel : σ → List ι → Prop)
    (keep : ∀ s i is, Rel s (i :: is) → ok s i → ∃ s', step s i = .ok s' ∧ Rel s' is) {s : σ}
    {is : List ι} (hs : Rel s is) (hok : ∀ p ∈ tryCalls step s is, ok p.1 p.2) :
    ∃ s', tryRun step s is = .ok s' ∧ Rel s' [] := by
  induction is generalizing s with
  | nil => exact ⟨s, rfl, hs⟩
  | cons i is ih =>
    obtain ⟨s', hstep, hrel⟩ := keep s i is hs (hok (s, i) List.mem_cons_self)
    rw [tryCalls_cons_ok hstep, List.forall_mem_cons] at hok
    rw [tryRun_cons_ok hstep]
    exact ih hrel hok.2

end GB28181.Base
