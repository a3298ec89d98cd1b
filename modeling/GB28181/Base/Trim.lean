import Mathlib.Data.List.DropRight

/-!
# Trimming a text

`trim p s` is `CString::Trim` with the characters that satisfy `p`.

* `trimmed_trim`, `Trimmed.trim_eq` — what is left starts and ends with another character, and such
  a text stays as it is;
* `trim_append` — what is written behind such a text and trimmed away leaves the text;
* `trim_append_cons` — nothing is trimmed away before a character that stays.
-/

set_option autoImplicit false

namespace GB28181.Base

variable {α : Type} {p : α → Bool}

/-- The text without the characters at its ends that satisfy `p`. -/
def trim (p : α → Bool) (s : List α) : List α := (s.dropWhile p).rdropWhile p

def Trimmed (p : α → Bool) (s : List α) : Prop :=
  (∀ c ∈ s.head?, p c = false) ∧ ∀ c ∈ s.getLast?, p c = false

instance (p : α → Bool) (s : List α) : Decidable (Trimmed p s) :=
  inferInstanceAs (Decidable (_ ∧ _))

theorem trimmed_nil (p : α → Bool) : Trimmed p [] := by
  constructor <;> intro c hc <;> cases hc

theorem trim_subset (p : α → Bool) (s : List α) : trim p s ⊆ s :=
  List.Subset.trans (List.rdropWhile_prefix p _).subset (List.dropWhile_suffix p).subset

theorem trim_cons_of_pos {c : α} (h : p c = true) (s : List α) : trim p (c :: s) = trim p s := by
  rw [trim, List.dropWhile_cons_of_pos h]
  rfl

theorem dropWhile_eq_self_of_head {s : List α} (h : ∀ c ∈ s.head?, p c = false) :
    s.dropWhile p = s := by
  cases s with
  | nil => rfl
  | cons c s => exact List.dropWhile_cons_of_neg (by simp [h c rfl])

theorem rdropWhile_eq_self_of_getLast {s : List α} (h : ∀ c ∈ s.getLast?, p c = false) :
    s.rdropWhile p = s := by
  rw [List.rdropWhile, dropWhile_eq_self_of_head (by simpa using h), List.reverse_reverse]

theorem trimmed_trim (p : α → Bool) (s : List α) : Trimmed p (trim p s) := by
  constructor
  · intro c hc
    -- the first character is that of what the left end leaves
    obtain ⟨t, ht⟩ := List.rdropWhile_prefix p (s.dropWhile p)
    have hhead : (s.dropWhile p).head? = some c := by
      rw [← ht, List.head?_append]
      exact congrArg (Option.or · t.head?) hc
    have := List.head?_dropWhile_not p s
    rw [hhead] at this
    simpa using this
  · intro c hc
    have hne : trim p s ≠ [] := by
      intro he
      rw [he] at hc
      cases hc
    have hlast := List.rdropWhile_last_not p (s.dropWhile p) hne
    rw [Option.mem_def, List.getLast?_eq_some_getLast hne, Option.some.injEq] at hc
    rw [← hc]
    exact Bool.not_eq_true _ ▸ hlast

theorem Trimmed.trim_eq {s : List α} (h : Trimmed p s) : trim p s = s := by
  rw [trim, dropWhile_eq_self_of_head h.1, rdropWhile_eq_self_of_getLast h.2]

/-- **Trimmed away.**  What follows a trimmed text and is to be trimmed goes, and nothing else. -/
theorem trim_append {core tail : List α} (hc : Trimmed p core) (ht : ∀ c ∈ tail, p c = true) :
    trim p (core ++ tail) = core := by
  have hright : (core ++ tail).rdropWhile p = core := by
    rw [List.rdropWhile, List.reverse_append, List.dropWhile_append_of_pos (by simpa using ht)]
    exact rdropWhile_eq_self_of_getLast hc.2
  cases core with
  | nil =>
    rw [List.nil_append, trim, List.dropWhile_eq_nil_iff.mpr ht, List.rdropWhile_nil]
  | cons c core =>
    have hleft : (c :: core ++ tail).dropWhile p = c :: core ++ tail :=
      dropWhile_eq_self_of_head fun d hd => hc.1 d hd
    rw [trim, hleft, hright]

theorem trim_append_cons {l r : List α} {c : α} (hl : ∀ d ∈ l.head?, p d = false)
    (hc : p c = false) : trim p (l ++ c :: r) = l ++ c :: r.rdropWhile p := by
  have hhead : ∀ d ∈ (l ++ c :: r).head?, p d = false := by
    cases l with
    | nil =>
      intro d hd
      obtain rfl := Option.some.inj hd
      exact hc
    | cons x l => exact hl
  have hleft : (c :: l.reverse).dropWhile p = c :: l.reverse :=
    List.dropWhile_cons_of_neg (by simp [hc])
  rw [trim, dropWhile_eq_self_of_head hhead, List.rdropWhile, List.reverse_append,
    List.reverse_cons, List.append_assoc, List.singleton_append, List.dropWhile_append, hleft]
  split
  · rename_i hempty
    rw [List.rdropWhile, List.isEmpty_iff.mp hempty]
    simp
  · simp [List.rdropWhile]

end GB28181.Base
