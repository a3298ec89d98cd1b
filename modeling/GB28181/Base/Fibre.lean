import GB28181.Base.Map

/-!
# Maps that group a set by a function

An index over a set of things: under every key the things that lie over it, and no key without
things.

* `Groups f S m` — the lists of `m` are the fibres of `f` over the things in `S`, the keys of `m`
  the values of `f` on `S`;
* `Groups.add`, `Groups.erase_kept`, `Groups.erase_emptied` — an index stays one when a thing is
  entered, and when one is taken out and its key is dropped with the last thing under it;
* `Groups.nonempty` — no list of an index is empty;
* `keys_entered`, `lists_entered` — the keys and the lists after a thing is entered, whatever the
  lists are.
-/

set_option autoImplicit false

namespace GB28181.Base

variable {C K V : Type} [DecidableEq K]

section

variable {L : Type} {f : C → K} {S : C → Prop} {m : Map K L}

theorem keys_entered (h : ∀ k, k ∈ m ↔ ∃ c, S c ∧ f c = k) (c : C) (d : L) (enter : L → L) (k : K) :
    k ∈ Map.modify m (f c) d enter ↔ ∃ x, (x = c ∨ S x) ∧ f x = k := by
  rw [Map.modify, Finmap.mem_insert, h]
  constructor
  · rintro (rfl | ⟨x, hx, hk⟩)
    · exact ⟨c, Or.inl rfl, rfl⟩
    · exact ⟨x, Or.inr hx, hk⟩
  · rintro ⟨x, rfl | hx, hk⟩
    · exact Or.inl hk.symm
    · exact Or.inr ⟨x, hx, hk⟩

theorem lists_entered [Membership C L]
    (h : ∀ {k l}, m.lookup k = some l → ∀ x, x ∈ l ↔ S x ∧ f x = k) {c : C} {d : L} {enter : L → L}
    (henter : ∀ x, x ∈ enter (Map.index m (f c) d) ↔ x = c ∨ S x ∧ f x = f c) {k : K} {l : L}
    (hl : (Map.modify m (f c) d enter).lookup k = some l) (x : C) :
    x ∈ l ↔ (x = c ∨ S x) ∧ f x = k := by
  rw [Map.lookup_modify] at hl
  split at hl
  · rename_i hk
    obtain rfl := Option.some.inj hl
    rw [henter, hk]
    constructor
    · rintro (rfl | ⟨hx, hf⟩)
      · exact ⟨Or.inl rfl, rfl⟩
      · exact ⟨Or.inr hx, hf⟩
    · rintro ⟨rfl | hx, hf⟩
      · exact Or.inl rfl
      · exact Or.inr ⟨hx, hf⟩
  · rename_i hk
    rw [h hl]
    constructor
    · rintro ⟨hx, hf⟩
      exact ⟨Or.inr hx, hf⟩
    · rintro ⟨rfl | hx, hf⟩
      · exact absurd hf.symm hk
      · exact ⟨hx, hf⟩

end

/-- `m` groups the things in `S` by `f`. -/
structure Groups (f : C → K) (S : C → Prop) (m : Map K (Map C V)) : Prop where
  mem_iff : ∀ k, k ∈ m ↔ ∃ c, S c ∧ f c = k
  list_iff : ∀ {k l}, m.lookup k = some l → ∀ c, c ∈ l ↔ S c ∧ f c = k

namespace Groups

variable {f : C → K} {S S' : C → Prop} {m : Map K (Map C V)}

theorem congr (h : Groups f S m) (hS : ∀ c, S c ↔ S' c) : Groups f S' m where
  mem_iff k := by simp only [h.mem_iff, hS]
  list_iff hl c := by rw [h.list_iff hl, hS]

theorem empty : Groups f (fun _ => False) (∅ : Map K (Map C V)) where
  mem_iff k := by simp [Finmap.notMem_empty]
  list_iff hl := by rw [Finmap.lookup_empty] at hl; cases hl

theorem mem (h : Groups f S m) {c : C} (hc : S c) : f c ∈ m := (h.mem_iff _).mpr ⟨c, hc, rfl⟩

theorem nonempty (h : Groups f S m) {k : K} {l : Map C V} (hl : m.lookup k = some l) :
    ∃ c, c ∈ l := by
  obtain ⟨c, hc⟩ := (h.mem_iff k).mp (Finmap.mem_iff.mpr ⟨l, hl⟩)
  exact ⟨c, (h.list_iff hl c).mpr hc⟩

theorem mem_index (h : Groups f S m) (k : K) (c : C) :
    c ∈ Map.index m k ∅ ↔ S c ∧ f c = k := by
  cases hl : m.lookup k with
  | some l => rw [Map.index_of_lookup hl, h.list_iff hl]
  | none =>
    have hk : k ∉ m := Finmap.lookup_eq_none.mp hl
    rw [Map.index_of_not_mem hk]
    constructor
    · intro hc; exact absurd hc (Finmap.notMem_empty)
    · intro hc; exact absurd ((h.mem_iff k).mpr ⟨c, hc⟩) hk

variable [DecidableEq C]

/-- **Entering a thing.** -/
theorem add (h : Groups f S m) (c : C) (v : V) :
    Groups f (fun x => x = c ∨ S x) (Map.modify m (f c) ∅ (·.insert c v)) where
  mem_iff := keys_entered h.mem_iff c ∅ _
  list_iff hl x := lists_entered h.list_iff
    (fun x => by rw [Finmap.mem_insert, h.mem_index]) hl x

/-- **Taking a thing out** that is not the last under its key. -/
theorem erase_kept (h : Groups f S m) {c : C} {l : Map C V} (hl : m.lookup (f c) = some l)
    (hne : ∃ x, x ∈ l.erase c) :
    Groups f (fun x => S x ∧ x ≠ c) (m.insert (f c) (l.erase c)) where
  mem_iff k := by
    obtain ⟨x, hx⟩ := hne
    obtain ⟨hxc, hxl⟩ := Finmap.mem_erase.mp hx
    obtain ⟨hxS, hxf⟩ := (h.list_iff hl x).mp hxl
    rw [Finmap.mem_insert, h.mem_iff]
    constructor
    · rintro (rfl | ⟨y, hy, rfl⟩)
      · exact ⟨x, ⟨hxS, hxc⟩, hxf⟩
      · by_cases hyc : y = c
        · rw [hyc]; exact ⟨x, ⟨hxS, hxc⟩, hxf⟩
        · exact ⟨y, ⟨hy, hyc⟩, rfl⟩
    · rintro ⟨y, ⟨hy, -⟩, hk⟩
      exact Or.inr ⟨y, hy, hk⟩
  list_iff {k l'} hl' x := by
    rw [Map.lookup_insert_ite] at hl'
    split at hl'
    · rename_i hk
      obtain rfl := Option.some.inj hl'
      rw [Finmap.mem_erase, h.list_iff hl, hk]
      exact ⟨fun ⟨hxc, hx, hf⟩ => ⟨⟨hx, hxc⟩, hf⟩, fun ⟨⟨hx, hxc⟩, hf⟩ => ⟨hxc, hx, hf⟩⟩
    · rename_i hk
      rw [h.list_iff hl']
      exact ⟨fun ⟨hx, hf⟩ => ⟨⟨hx, fun e => hk (by rw [← hf, e])⟩, hf⟩,
        fun ⟨⟨hx, _⟩, hf⟩ => ⟨hx, hf⟩⟩

/-- **Taking the last thing out** under its key. -/
theorem erase_emptied (h : Groups f S m) {c : C} {l : Map C V} (hl : m.lookup (f c) = some l)
    (he : ∀ x, x ∉ l.erase c) : Groups f (fun x => S x ∧ x ≠ c) (m.erase (f c)) := by
  have hlast : ∀ x, S x → f x = f c → x = c := by
    intro x hx hf
    by_contra hxc
    exact he x (Finmap.mem_erase.mpr ⟨hxc, (h.list_iff hl x).mpr ⟨hx, hf⟩⟩)
  constructor
  · intro k
    rw [Finmap.mem_erase, h.mem_iff]
    constructor
    · rintro ⟨hk, y, hy, rfl⟩
      exact ⟨y, ⟨hy, fun e => hk (by rw [e])⟩, rfl⟩
    · rintro ⟨y, ⟨hy, hyc⟩, rfl⟩
      exact ⟨fun hf => hyc (hlast y hy hf), y, hy, rfl⟩
  · intro k l' hl' x
    rw [Map.lookup_erase_ite] at hl'
    split at hl'
    · cases hl'
    · rename_i hk
      rw [h.list_iff hl']
      exact ⟨fun ⟨hx, hf⟩ => ⟨⟨hx, fun e => hk (by rw [← hf, e])⟩, hf⟩,
        fun ⟨⟨hx, _⟩, hf⟩ => ⟨hx, hf⟩⟩

end Groups

end GB28181.Base
