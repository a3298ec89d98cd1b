import GB28181.Base.Fibre

/-!
# Maps of sorted lists

A list in strictly increasing order takes a thing once, at its place; an index keeps such a list
under every key.

* `insertSort` — the insertion; `mem_insertSort`, `sorted_insertSort` — it adds the one thing and
  keeps the order;
* `SortedGroups f S m` — the lists of `m` are the fibres of `f` over the things in `S`, in order,
  the keys of `m` the values of `f` on `S`;
* `SortedGroups.add` — an index stays one when a thing is entered.
-/

set_option autoImplicit false

namespace GB28181.Base

section Insertion

variable {C : Type} [LT C] [DecidableLT C] [DecidableEq C]

/-- The list with `x` before the first greater member, unless it is there. -/
def insertSort : List C → C → List C
  | [], x => [x]
  | y :: ys, x => if x < y then x :: y :: ys else if y = x then y :: ys else y :: insertSort ys x

theorem mem_insertSort (l : List C) (x z : C) : z ∈ insertSort l x ↔ z = x ∨ z ∈ l := by
  induction l with
  | nil => simp [insertSort]
  | cons y ys ih =>
    rw [insertSort]
    split
    · exact List.mem_cons
    split
    · rename_i hyx
      rw [← hyx, List.mem_cons]
      exact ⟨Or.inr, fun h => h.elim Or.inl id⟩
    · rw [List.mem_cons, ih, List.mem_cons]
      exact or_left_comm

/-- **The order is kept**, where `<` is the strict part of a linear order. -/
theorem sorted_insertSort [Std.Trichotomous fun x y : C => x < y] [IsTrans C (· < ·)]
    {l : List C} (h : l.Pairwise (· < ·)) (x : C) : (insertSort l x).Pairwise (· < ·) := by
  induction l with
  | nil => exact List.pairwise_singleton _ x
  | cons y ys ih =>
    obtain ⟨hy, hys⟩ := List.pairwise_cons.mp h
    rw [insertSort]
    split
    · rename_i hxy
      refine List.pairwise_cons.mpr ⟨fun z hz => ?_, h⟩
      rcases List.mem_cons.mp hz with rfl | hz
      · exact hxy
      · exact Trans.trans hxy (hy z hz)
    split
    · exact h
    · rename_i hxy hyx
      have hlt : y < x := by
        by_contra hn
        exact hyx (Std.Trichotomous.trichotomous y x hn hxy)
      refine List.pairwise_cons.mpr ⟨fun z hz => ?_, ih hys⟩
      rcases (mem_insertSort ys x z).mp hz with rfl | hz
      · exact hlt
      · exact hy z hz

end Insertion

variable {C K : Type} [LT C] [DecidableEq K]

/-- `m` groups the things in `S` by `f`, each group in order. -/
structure SortedGroups (f : C → K) (S : C → Prop) (m : Map K (List C)) : Prop where
  mem_iff : ∀ k, k ∈ m ↔ ∃ c, S c ∧ f c = k
  list_iff : ∀ {k l}, m.lookup k = some l → ∀ c, c ∈ l ↔ S c ∧ f c = k
  sorted : ∀ {k l}, m.lookup k = some l → l.Pairwise (· < ·)

namespace SortedGroups

variable {f : C → K} {S S' : C → Prop} {m : Map K (List C)}

theorem congr (h : SortedGroups f S m) (hS : ∀ c, S c ↔ S' c) : SortedGroups f S' m where
  mem_iff k := by simp only [h.mem_iff, hS]
  list_iff hl c := by rw [h.list_iff hl, hS]
  sorted := h.sorted

theorem empty : SortedGroups f (fun _ => False) (∅ : Map K (List C)) where
  mem_iff k := by simp [Finmap.notMem_empty]
  list_iff hl := by rw [Finmap.lookup_empty] at hl; cases hl
  sorted hl := by rw [Finmap.lookup_empty] at hl; cases hl

theorem mem_index (h : SortedGroups f S m) (k : K) (c : C) :
    c ∈ Map.index m k [] ↔ S c ∧ f c = k := by
  cases hl : m.lookup k with
  | some l => rw [Map.index_of_lookup hl, h.list_iff hl]
  | none =>
    have hk : k ∉ m := Finmap.lookup_eq_none.mp hl
    rw [Map.index_of_not_mem hk]
    exact iff_of_false List.not_mem_nil fun hc => hk ((h.mem_iff k).mpr ⟨c, hc⟩)

theorem sorted_index (h : SortedGroups f S m) (k : K) : (Map.index m k []).Pairwise (· < ·) := by
  cases hl : m.lookup k with
  | some l =>
    rw [Map.index_of_lookup hl]
    exact h.sorted hl
  | none =>
    rw [Map.index_of_not_mem (Finmap.lookup_eq_none.mp hl)]
    exact List.Pairwise.nil

/-- **Entering a thing.** -/
theorem add [DecidableLT C] [DecidableEq C] [Std.Trichotomous fun x y : C => x < y]
    [IsTrans C (· < ·)] (h : SortedGroups f S m) (c : C) :
    SortedGroups f (fun x => x = c ∨ S x) (Map.modify m (f c) [] (insertSort · c)) where
  mem_iff := keys_entered h.mem_iff c [] _
  list_iff hl x := lists_entered h.list_iff
    (fun x => by rw [mem_insertSort, h.mem_index]) hl x
  sorted {k l} hl := by
    rw [Map.lookup_modify] at hl
    split at hl
    · obtain rfl := Option.some.inj hl
      exact sorted_insertSort (h.sorted_index _) c
    · exact h.sorted hl

end SortedGroups

end GB28181.Base
