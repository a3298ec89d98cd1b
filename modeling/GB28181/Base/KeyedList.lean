import Mathlib.Data.List.Basic

/-!
# Lists of entries with keys

Some entries of a list have a key, and no two of them have the same one.

* `KeysDiffer` — the entries with a key differ in it; `KeysDiffer.sublist`, `KeysDiffer.concat`,
  `keysDiffer_congr`: it depends on the keys only;
* `KeysDiffer.ne` — an entry before the one with a key does not have that key.
-/

set_option autoImplicit false

namespace GB28181.Base

variable {α κ : Type} {key : α → Option κ}

def KeysDiffer (key : α → Option κ) (l : List α) : Prop :=
  l.Pairwise fun a b => ∀ k, key a = some k → key b ≠ some k

theorem KeysDiffer.sublist {l l' : List α} (h : KeysDiffer key l) (hl : l'.Sublist l) :
    KeysDiffer key l' :=
  List.Pairwise.sublist hl h

theorem KeysDiffer.concat {l : List α} {a : α} (h : KeysDiffer key l)
    (ha : ∀ k, key a = some k → ∀ b ∈ l, key b ≠ some k) : KeysDiffer key (l ++ [a]) := by
  refine List.pairwise_append.mpr ⟨h, List.pairwise_singleton _ _, fun b hb a' ha' k hk hk' => ?_⟩
  obtain rfl := List.mem_singleton.mp ha'
  exact ha k hk' b hb hk

theorem keysDiffer_congr {l l' : List α} (h : l'.map key = l.map key) :
    KeysDiffer key l' ↔ KeysDiffer key l := by
  have hmap : ∀ l : List α, KeysDiffer key l ↔
      (l.map key).Pairwise fun x y => ∀ k, x = some k → y ≠ some k := fun l => by
    rw [KeysDiffer, List.pairwise_map]
  rw [hmap, hmap, h]

theorem KeysDiffer.ne {before behind : List α} {a b : α} {k : κ}
    (h : KeysDiffer key (before ++ a :: behind)) (hb : b ∈ before) (hk : key a = some k) :
    key b ≠ some k := fun hk' =>
  (List.pairwise_append.mp h).2.2 b hb a (by simp) k hk' hk

theorem map_set_of_key {l : List α} {i : Nat} {a a' : α} (hat : l[i]? = some a)
    (hkey : key a' = key a) : (l.set i a').map key = l.map key := by
  rw [List.map_set, hkey]
  refine List.ext_getElem? fun j => ?_
  rw [List.getElem?_set]
  split
  · next hij =>
    subst hij
    obtain ⟨hlt, -⟩ := List.getElem?_eq_some_iff.mp hat
    rw [List.length_map, if_pos hlt, List.getElem?_map, hat, Option.map_some]
  · rfl

end GB28181.Base
