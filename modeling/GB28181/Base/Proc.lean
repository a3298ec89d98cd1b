import Mathlib.Data.List.Basic

/-!
# Calls with effects and faults

A C++ member function reads and writes the object it belongs to, performs effects on the outside
world (a message sent, a file written) and returns, or ends in a fault: an uncaught exception or
a step the language leaves undefined.  `Proc` is the monad of such calls.  What was done before a
fault stays done.

The simp set evaluates a call on a state: `run_bind` and the `run_` lemma of each primitive.

* `Returns` — the call ends without a fault; the `returns_` lemmas reduce it to the computations
  that may fault;
* `Emits` — every effect of the call has a property, on every state;
* `Keeps` — the call leaves a part of the object as it is;
* `Preserves` — the call leaves a property of the object true;
* `embed` — a call on a part of an object as a call on the whole.
-/

set_option autoImplicit false

namespace GB28181.Base

/-- What a call did: its effects in order, the state it left and its result or fault. -/
structure Outcome (σ ε φ α : Type) where
  out : List ε
  state : σ
  val : Except φ α
  deriving DecidableEq

/-- A call on an object of type `σ`. -/
def Proc (σ ε φ α : Type) : Type := σ → Outcome σ ε φ α

namespace Proc

variable {σ ε φ α β : Type}

/-- Continue after a call, unless it ended in a fault. -/
def bind (m : Proc σ ε φ α) (f : α → Proc σ ε φ β) : Proc σ ε φ β := fun s =>
  match m s with
  | ⟨out, s', .ok a⟩ => ⟨out ++ (f a s').out, (f a s').state, (f a s').val⟩
  | ⟨out, s', .error e⟩ => ⟨out, s', .error e⟩

instance : Monad (Proc σ ε φ) where
  pure a := fun s => ⟨[], s, .ok a⟩
  bind := bind

def get : Proc σ ε φ σ := fun s => ⟨[], s, .ok s⟩

def update (f : σ → σ) : Proc σ ε φ Unit := fun s => ⟨[], f s, .ok ()⟩

def emit (e : ε) : Proc σ ε φ Unit := fun s => ⟨[e], s, .ok ()⟩

/-- A computation that may fault and touches neither the object nor the world. -/
def lift (x : Except φ α) : Proc σ ε φ α := fun s => ⟨[], s, x⟩

@[simp] theorem run_pure (a : α) (s : σ) : (pure a : Proc σ ε φ α) s = ⟨[], s, .ok a⟩ := rfl

@[simp] theorem run_get (s : σ) : (get : Proc σ ε φ σ) s = ⟨[], s, .ok s⟩ := rfl

@[simp] theorem run_update (f : σ → σ) (s : σ) :
    (update f : Proc σ ε φ Unit) s = ⟨[], f s, .ok ()⟩ := rfl

@[simp] theorem run_emit (e : ε) (s : σ) : (emit e : Proc σ ε φ Unit) s = ⟨[e], s, .ok ()⟩ := rfl

@[simp] theorem run_lift (x : Except φ α) (s : σ) : (lift x : Proc σ ε φ α) s = ⟨[], s, x⟩ := rfl

@[simp] theorem run_bind (m : Proc σ ε φ α) (f : α → Proc σ ε φ β) (s : σ) :
    (m >>= f) s = match m s with
      | ⟨out, s', .ok a⟩ => ⟨out ++ (f a s').out, (f a s').state, (f a s').val⟩
      | ⟨out, s', .error e⟩ => ⟨out, s', .error e⟩ := rfl

theorem run_get_bind (f : σ → Proc σ ε φ β) (s : σ) : (get >>= f) s = f s s := rfl

theorem run_lift_bind_ok (a : α) (f : α → Proc σ ε φ β) (s : σ) :
    ((lift (.ok a) : Proc σ ε φ α) >>= f) s = f a s := rfl

theorem run_bind_of_ok {m : Proc σ ε φ α} {s : σ} {a : α} (h : (m s).val = .ok a)
    (f : α → Proc σ ε φ β) :
    (m >>= f) s = ⟨(m s).out ++ (f a (m s).state).out, (f a (m s).state).state,
      (f a (m s).state).val⟩ := by
  rw [run_bind]
  generalize m s = outcome at h
  obtain ⟨out, s', v⟩ := outcome
  obtain rfl : v = .ok a := h
  rfl

/-! ## Calls that return -/

def Returns (m : Proc σ ε φ α) (s : σ) : Prop := ∃ a, (m s).val = .ok a

theorem returns_pure (a : α) (s : σ) : Returns (pure a : Proc σ ε φ α) s := ⟨a, rfl⟩

theorem returns_emit (e : ε) (s : σ) : Returns (emit e : Proc σ ε φ Unit) s := ⟨(), rfl⟩

theorem returns_lift (x : Except φ α) (s : σ) :
    Returns (lift x : Proc σ ε φ α) s ↔ ∃ a, x = .ok a := Iff.rfl

theorem returns_bind (m : Proc σ ε φ α) (f : α → Proc σ ε φ β) (s : σ) :
    Returns (m >>= f) s ↔ ∃ a, (m s).val = .ok a ∧ Returns (f a) (m s).state := by
  unfold Returns
  rw [run_bind]
  rcases m s with ⟨out, s', _ | a⟩
  · simp
  · simp

theorem returns_lift_bind (x : Except φ α) (f : α → Proc σ ε φ β) (s : σ) :
    Returns (lift x >>= f) s ↔ ∃ a, x = .ok a ∧ Returns (f a) s := returns_bind _ _ _

theorem returns_emit_bind (e : ε) (f : Unit → Proc σ ε φ β) (s : σ) :
    Returns (emit e >>= f) s ↔ Returns (f ()) s := by
  rw [returns_bind]
  exact ⟨fun ⟨_, _, h⟩ => h, fun h => ⟨(), rfl, h⟩⟩

theorem returns_get_bind (f : σ → Proc σ ε φ β) (s : σ) :
    Returns (get >>= f) s ↔ Returns (f s) s := by
  rw [returns_bind]
  simp

theorem returns_update_bind (g : σ → σ) (f : Unit → Proc σ ε φ β) (s : σ) :
    Returns (update g >>= f) s ↔ Returns (f ()) (g s) := by
  rw [returns_bind]
  exact ⟨fun ⟨_, _, h⟩ => h, fun h => ⟨(), rfl, h⟩⟩

/-! ## What a call emits -/

/-- Every effect of the call has the property. -/
def Emits (P : ε → Prop) (m : Proc σ ε φ α) : Prop := ∀ s, ∀ e ∈ (m s).out, P e

section Emits

variable {P : ε → Prop}

theorem emits_pure (a : α) : Emits P (pure a : Proc σ ε φ α) := fun _ _ he => nomatch he

theorem emits_get : Emits P (get : Proc σ ε φ σ) := fun _ _ he => nomatch he

theorem emits_update (f : σ → σ) : Emits P (update f : Proc σ ε φ Unit) :=
  fun _ _ he => nomatch he

theorem emits_lift (x : Except φ α) : Emits P (lift x : Proc σ ε φ α) := fun _ _ he => nomatch he

theorem emits_emit {e : ε} (h : P e) : Emits P (emit e : Proc σ ε φ Unit) := by
  intro s e' he'
  rw [run_emit, List.mem_singleton] at he'
  rw [he']
  exact h

theorem Emits.mono {Q : ε → Prop} {m : Proc σ ε φ α} (hm : Emits P m) (h : ∀ e, P e → Q e) :
    Emits Q m := fun s e he => h e (hm s e he)

theorem emits_bind {m : Proc σ ε φ α} {f : α → Proc σ ε φ β} (hm : Emits P m)
    (hf : ∀ a, Emits P (f a)) : Emits P (m >>= f) := by
  intro s e he
  have hms := hm s
  rw [run_bind] at he
  generalize m s = outcome at he hms
  rcases outcome with ⟨out, s', _ | a⟩
  · exact hms e he
  · rcases List.mem_append.mp he with he | he
    · exact hms e he
    · exact hf a s' e he

end Emits

/-! ## What a call leaves -/

/-- The call does not change the part `part` of the object. -/
def Keeps {τ : Type} (part : σ → τ) (m : Proc σ ε φ α) : Prop := ∀ s, part (m s).state = part s

section Keeps

variable {τ : Type} {part : σ → τ}

theorem keeps_pure (a : α) : Keeps part (pure a : Proc σ ε φ α) := fun _ => rfl

theorem keeps_lift (x : Except φ α) : Keeps part (lift x : Proc σ ε φ α) := fun _ => rfl

theorem keeps_update {f : σ → σ} (h : ∀ s, part (f s) = part s) :
    Keeps part (update f : Proc σ ε φ Unit) := h

theorem keeps_bind {m : Proc σ ε φ α} {f : α → Proc σ ε φ β} (hm : Keeps part m)
    (hf : ∀ a, Keeps part (f a)) : Keeps part (m >>= f) := by
  intro s
  have hms := hm s
  rw [run_bind]
  generalize m s = outcome at hms
  rcases outcome with ⟨out, s', _ | a⟩
  · exact hms
  · exact (hf a s').trans hms

end Keeps

/-- The call leaves the property `I` of the object true. -/
def Preserves (I : σ → Prop) (m : Proc σ ε φ α) : Prop := ∀ s, I s → I (m s).state

section Preserves

variable {I : σ → Prop}

theorem preserves_pure (a : α) : Preserves I (pure a : Proc σ ε φ α) := fun _ h => h

theorem preserves_get : Preserves I (get : Proc σ ε φ σ) := fun _ h => h

theorem preserves_lift (x : Except φ α) : Preserves I (lift x : Proc σ ε φ α) := fun _ h => h

theorem preserves_emit (e : ε) : Preserves I (emit e : Proc σ ε φ Unit) := fun _ h => h

theorem preserves_update {f : σ → σ} (h : ∀ s, I s → I (f s)) :
    Preserves I (update f : Proc σ ε φ Unit) := h

theorem preserves_bind {m : Proc σ ε φ α} {f : α → Proc σ ε φ β} (hm : Preserves I m)
    (hf : ∀ a, Preserves I (f a)) : Preserves I (m >>= f) := by
  intro s hs
  have hms := hm s hs
  rw [run_bind]
  generalize m s = outcome at hms
  rcases outcome with ⟨out, s', _ | a⟩
  · exact hms
  · exact hf a s' hms

end Preserves

/-! ## Calls on a part -/

section Embed

variable {σ' ε' φ' : Type}

/-- The effects a list of effects has outside, up to the first that ends in a fault. -/
def translate (effect : ε → Except φ' (List ε')) : List ε → List ε' × Option φ'
  | [] => ([], none)
  | e :: out =>
    match effect e with
    | .error fault => ([], some fault)
    | .ok outside => (outside ++ (translate effect out).1, (translate effect out).2)

/-- A call on the part `get s` of an object, each effect of which is an effect outside or a
fault.  A fault of an effect leaves the state open; here it is the one the call leaves. -/
def embed (get : σ' → σ) (set : σ' → σ → σ') (effect : σ' → ε → Except φ' (List ε'))
    (fault : φ → φ') (m : Proc σ ε φ α) : Proc σ' ε' φ' α := fun s =>
  let inner := m (get s)
  let outer := translate (effect s) inner.out
  ⟨outer.1, set s inner.state,
    match outer.2 with
    | some f => .error f
    | none => inner.val.mapError fault⟩

theorem translate_eq_none_iff (effect : ε → Except φ' (List ε')) :
    ∀ out : List ε, (translate effect out).2 = none ↔ ∀ e ∈ out, ∃ outside, effect e = .ok outside
  | [] => by simp [translate]
  | e :: out => by
    rw [translate, List.forall_mem_cons]
    cases effect e with
    | error fault => simp
    | ok outside =>
      rw [translate_eq_none_iff effect out]
      simp

theorem embed_val (get : σ' → σ) (set : σ' → σ → σ') (effect : σ' → ε → Except φ' (List ε'))
    (fault : φ → φ') (m : Proc σ ε φ α) (s : σ') :
    (embed get set effect fault m s).val =
      match (translate (effect s) (m (get s)).out).2 with
      | some f => .error f
      | none => (m (get s)).val.mapError fault := rfl

theorem returns_embed (get : σ' → σ) (set : σ' → σ → σ') (effect : σ' → ε → Except φ' (List ε'))
    (fault : φ → φ') (m : Proc σ ε φ α) (s : σ') :
    Returns (embed get set effect fault m) s ↔
      (∀ e ∈ (m (get s)).out, ∃ outside, effect s e = .ok outside) ∧ Returns m (get s) := by
  rw [← translate_eq_none_iff]
  unfold Returns
  rw [embed_val]
  cases (translate (effect s) (m (get s)).out).2 with
  | some f => simp
  | none =>
    cases (m (get s)).val with
    | error f => simp [Except.mapError]
    | ok a => simp [Except.mapError]

theorem emits_embed {get : σ' → σ} {set : σ' → σ → σ'} {effect : σ' → ε → Except φ' (List ε')}
    {fault : φ → φ'} {m : Proc σ ε φ α} {P : ε → Prop} {P' : ε' → Prop} (hm : Emits P m)
    (h : ∀ s e outside, P e → effect s e = .ok outside → ∀ e' ∈ outside, P' e') :
    Emits P' (embed get set effect fault m) := by
  intro s
  have hout := hm (get s)
  suffices ∀ out : List ε, (∀ e ∈ out, P e) → ∀ e' ∈ (translate (effect s) out).1, P' e' from
    this _ hout
  intro out
  induction out with
  | nil => exact fun _ _ he' => nomatch he'
  | cons e out ih =>
    intro hP e' he'
    rw [List.forall_mem_cons] at hP
    rw [translate] at he'
    cases heff : effect s e with
    | error fault => simp [heff] at he'
    | ok outside =>
      simp only [heff] at he'
      rcases List.mem_append.mp he' with he' | he'
      · exact h s e outside hP.1 heff e' he'
      · exact ih hP.2 e' he'

theorem keeps_embed {τ : Type} {part : σ' → τ} {get : σ' → σ} {set : σ' → σ → σ'}
    {effect : σ' → ε → Except φ' (List ε')} {fault : φ → φ'} {m : Proc σ ε φ α}
    (h : ∀ s a, part (set s a) = part s) : Keeps part (embed get set effect fault m) :=
  fun s => h s _

end Embed

end Proc

end GB28181.Base
