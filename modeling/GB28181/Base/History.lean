import Mathlib.Data.List.Induction

/-!
# Histories

A history lists inputs, the oldest one first.

* `latest` — the value that the last input with one gives; `latest_concat`, `latest_append`,
  `latest_concat_eq_some_iff`;
* `since` — the inputs behind the last one with a property; `since_concat`;
* `settled` — the first good value, or else the last one; `settled_concat`;
* `latest_repeated`, `filterMap_repeated`, `settled_repeated` — the same history several times over.
-/

set_option autoImplicit false

namespace GB28181.Base

variable {ι α : Type}

/-- The value that the last input with one gives. -/
def latest (f : ι → Option α) (h : List ι) : Option α := h.reverse.findSome? f

@[simp] theorem latest_nil (f : ι → Option α) : latest f [] = none := rfl

theorem latest_append (f : ι → Option α) (h h' : List ι) :
    latest f (h ++ h') = (latest f h').or (latest f h) := by
  simp [latest, List.findSome?_append]

@[simp] theorem latest_concat (f : ι → Option α) (h : List ι) (i : ι) :
    latest f (h ++ [i]) = (f i).or (latest f h) := by
  rw [latest_append]
  simp [latest]

theorem latest_concat_eq_some_iff {f : ι → Option α} {h : List ι} {i : ι} {a : α} :
    latest f (h ++ [i]) = some a ↔ f i = some a ∨ f i = none ∧ latest f h = some a := by
  rw [latest_concat, Option.or_eq_some_iff]

theorem latest_eq_none_iff {f : ι → Option α} {h : List ι} :
    latest f h = none ↔ ∀ i ∈ h, f i = none := by
  simp [latest]

/-- The inputs behind the last one with the property. -/
def since (stop : ι → Bool) : List ι → List ι := fun h =>
  h.foldl (fun l i => if stop i then [] else l ++ [i]) []

@[simp] theorem since_nil (stop : ι → Bool) : since stop [] = [] := rfl

@[simp] theorem since_concat (stop : ι → Bool) (h : List ι) (i : ι) :
    since stop (h ++ [i]) = if stop i then [] else since stop h ++ [i] := by
  simp [since]

/-! ## First good values -/

/-- The first value that is good, or else the last one. -/
def settled (good : α → Bool) (l : List α) : Option α := (l.find? good).or l.getLast?

theorem settled_append (good : α → Bool) (l l' : List α) :
    settled good (l ++ l') = (l.find? good).or ((settled good l').or l.getLast?) := by
  rw [settled, settled, List.find?_append, List.getLast?_append, Option.or_assoc, Option.or_assoc]

theorem settled_of_find?_eq_none {good : α → Bool} {l : List α} (h : l.find? good = none) :
    settled good l = l.getLast? := by
  rw [settled, h, Option.none_or]

/-- **What is settled does not change any more.** -/
theorem settled_concat (good : α → Bool) (l : List α) (a : α) :
    settled good (l ++ [a]) = if (settled good l).any good then settled good l else some a := by
  have hlast : settled good [a] = some a := by
    cases hgood : good a <;> simp [settled, hgood]
  rw [settled_append, hlast, Option.some_or]
  cases hf : l.find? good with
  | some b =>
    have hgood : good b = true := List.find?_some hf
    simp [settled, hf, hgood]
  | none =>
    have hbad := List.find?_eq_none.mp hf
    have hany : (l.getLast?).any good = false := by
      cases hl : l.getLast? with
      | none => rfl
      | some b => simpa using hbad b (List.mem_of_getLast? hl)
    rw [settled_of_find?_eq_none hf, hany]
    rfl

/-! ## Repeated histories -/

/-- The history, `n` times. -/
def repeated (n : Nat) (h : List ι) : List ι := (List.replicate n h).flatten

@[simp] theorem repeated_zero (h : List ι) : repeated 0 h = [] := rfl

theorem repeated_succ (n : Nat) (h : List ι) : repeated (n + 1) h = h ++ repeated n h := by
  simp [repeated, List.replicate_succ]

theorem repeated_append (n : Nat) (h : List ι) : repeated n h ++ h = repeated (n + 1) h := by
  rw [repeated, repeated, List.replicate_succ', List.flatten_append, List.flatten_singleton]

theorem length_repeated (n : Nat) (h : List ι) : (repeated n h).length = n * h.length := by
  induction n with
  | zero => simp
  | succ n ih => rw [repeated_succ, List.length_append, ih, Nat.succ_mul, Nat.add_comm]

theorem latest_repeated (f : ι → Option α) (n : Nat) (h : List ι) :
    latest f (repeated (n + 1) h) = latest f h := by
  induction n with
  | zero => simp [repeated_succ]
  | succ n ih =>
    rw [repeated_succ, latest_append, ih]
    cases latest f h <;> rfl

theorem filterMap_repeated (f : ι → Option α) (n : Nat) (h : List ι) :
    (repeated n h).filterMap f = repeated n (h.filterMap f) := by
  induction n with
  | zero => rfl
  | succ n ih => rw [repeated_succ, repeated_succ, List.filterMap_append, ih]

theorem map_repeated {β : Type} (g : α → β) (n : Nat) (l : List α) :
    (repeated n l).map g = repeated n (l.map g) := by
  rw [repeated, repeated, List.map_flatten, List.map_replicate]

theorem settled_repeated (good : α → Bool) (n : Nat) (l : List α) :
    settled good (repeated (n + 1) l) = settled good l := by
  induction n with
  | zero => simp [repeated_succ]
  | succ n ih =>
    rw [repeated_succ, settled_append, ih]
    cases hf : l.find? good with
    | some b => rw [settled, hf, Option.some_or, Option.some_or]
    | none => rw [settled_of_find?_eq_none hf, Option.none_or, Option.or_self]

end GB28181.Base
