import Mathlib.Data.Finmap

/-!
# Finite maps with C++ access

Maps are Mathlib's `Finmap` at a constant value type, so two maps are equal when every lookup
agrees and the order of the entries is not observable.  This file adds the accesses a C++
`operator[]` makes:

* `Map.index` — `m[k]` read: the entry at `k`, a fresh value when there is none;
* `Map.touch` — what that read leaves behind: an entry at `k`, inserted when there was none;
* `Map.modify` — `m[k].field = …`.

Principal results: `lookup_modify`, `lookup_touch` (only the entry at `k` is affected),
`touch_of_mem` (a read of a present key leaves the map as it is), `mem_touch` (a read of an
absent key inserts it).
-/

set_option autoImplicit false

namespace GB28181.Base

/-- A finite map from `K` to `V`. -/
abbrev Map (K V : Type) := Finmap (fun _ : K => V)

namespace Map

variable {K V : Type} [DecidableEq K]

/-- The value `m[k]` denotes; `d` is the value-initialised entry. -/
def index (m : Map K V) (k : K) (d : V) : V := (m.lookup k).getD d

/-- The map after `m[k]` was evaluated. -/
def touch (m : Map K V) (k : K) (d : V) : Map K V := m.insert k (index m k d)

/-- The map after the entry `m[k]` was changed by `f`. -/
def modify (m : Map K V) (k : K) (d : V) (f : V → V) : Map K V := m.insert k (f (index m k d))

def isEmpty (m : Map K V) : Bool := decide (Multiset.card m.entries = 0)

theorem lookup_insert_ite (m : Map K V) (k k' : K) (v : V) :
    (m.insert k v).lookup k' = if k' = k then some v else m.lookup k' := by
  split
  · rename_i h; subst h; exact Finmap.lookup_insert m
  · rename_i h; exact Finmap.lookup_insert_of_ne m h

theorem lookup_erase_ite (m : Map K V) (k k' : K) :
    (m.erase k).lookup k' = if k' = k then none else m.lookup k' := by
  split
  · rename_i h; subst h; exact Finmap.lookup_erase k' m
  · rename_i h; exact Finmap.lookup_erase_ne h

theorem lookup_modify (m : Map K V) (k k' : K) (d : V) (f : V → V) :
    (modify m k d f).lookup k' = if k' = k then some (f (index m k d)) else m.lookup k' :=
  lookup_insert_ite m k k' _

theorem lookup_touch (m : Map K V) (k k' : K) (d : V) :
    (touch m k d).lookup k' = if k' = k then some (index m k d) else m.lookup k' :=
  lookup_insert_ite m k k' _

theorem index_of_lookup {m : Map K V} {k : K} {v : V} (h : m.lookup k = some v) (d : V) :
    index m k d = v := by simp [index, h]

theorem index_of_not_mem {m : Map K V} {k : K} (h : k ∉ m) (d : V) : index m k d = d := by
  simp [index, Finmap.lookup_eq_none.mpr h]

theorem index_modify (m : Map K V) (k : K) (d : V) (f : V → V) :
    index (modify m k d f) k d = f (index m k d) := by
  rw [index, lookup_modify, if_pos rfl, Option.getD_some]

theorem index_touch (m : Map K V) (k : K) (d : V) : index (touch m k d) k d = index m k d := by
  simp [index, lookup_touch]

theorem index_touch_other (m : Map K V) (k k' : K) (d : V) :
    index (touch m k d) k' d = index m k' d := by
  by_cases h : k' = k
  · rw [h, index_touch]
  · simp [index, lookup_touch, h]

theorem modify_touch (m : Map K V) (k : K) (d : V) (f : V → V) :
    modify (touch m k d) k d f = modify m k d f := by
  refine Finmap.ext_lookup fun x => ?_
  rw [lookup_modify, index_touch, lookup_modify, lookup_touch]
  split <;> rfl

theorem mem_touch (m : Map K V) (k : K) (d : V) : k ∈ touch m k d :=
  Finmap.mem_insert.mpr (Or.inl rfl)

theorem lookup_foldl_insert (f : K → V) (keys : List K) (m : Map K V) (x : K) :
    (keys.foldl (fun m k => m.insert k (f k)) m).lookup x =
      if x ∈ keys then some (f x) else m.lookup x := by
  induction keys generalizing m with
  | nil => simp
  | cons k keys ih =>
    rw [List.foldl_cons, ih, lookup_insert_ite]
    by_cases hx : x = k
    · subst hx
      simp
    · simp [hx]

theorem insert_of_lookup {m : Map K V} {k : K} {v : V} (h : m.lookup k = some v) :
    m.insert k v = m := by
  refine Finmap.ext_lookup fun x => ?_
  rw [lookup_insert_ite]
  split
  · rename_i hx; rw [hx, h]
  · rfl

theorem touch_of_mem {m : Map K V} {k : K} (h : k ∈ m) (d : V) : touch m k d = m := by
  obtain ⟨v, hv⟩ := Finmap.mem_iff.mp h
  rw [touch, index_of_lookup hv, insert_of_lookup hv]

theorem isEmpty_iff (m : Map K V) : isEmpty m = true ↔ ∀ k, m.lookup k = none := by
  constructor
  · intro h k
    have h0 : m.entries = 0 := by simpa [isEmpty] using h
    have : m = ∅ := Finmap.ext h0
    rw [this, Finmap.lookup_empty]
  · intro h
    have : m = ∅ := Finmap.ext_lookup fun x => by rw [h x, Finmap.lookup_empty]
    subst this
    rfl

theorem isEmpty_eq_false_iff (m : Map K V) : isEmpty m = false ↔ ∃ k, k ∈ m := by
  rw [← Bool.not_eq_true, isEmpty_iff]
  simp [Finmap.lookup_eq_none]

end Map

end GB28181.Base
