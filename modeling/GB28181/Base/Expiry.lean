import GB28181.Base.Map

/-!
# Entries that expire

Two stores of entries with deadlines may differ in their expired entries and still answer every
question about live ones alike, now and later.

* `liveAt` — an entry unless it has expired; `liveAt_mono` — what agrees now agrees later;
* `LiveAgree` — maps with the same live entries, kept by entering and by erasing in both
  (`LiveAgree.insert`, `LiveAgree.erase`) and by **erasing an expired entry in one**
  (`LiveAgree.erase_dead`).
-/

set_option autoImplicit false

namespace GB28181.Base

variable {K V : Type} (deadline : V → Int)

/-- The entry, if it lives at the time `t`. -/
def liveAt (t : Int) (o : Option V) : Option V := o.filter fun v => t < deadline v

theorem liveAt_eq_some {t : Int} {o : Option V} {v : V} :
    liveAt deadline t o = some v ↔ o = some v ∧ t < deadline v := by
  simp [liveAt, Option.filter_eq_some_iff]

theorem liveAt_liveAt {t t' : Int} (h : t ≤ t') (o : Option V) :
    liveAt deadline t' (liveAt deadline t o) = liveAt deadline t' o := by
  refine Option.ext fun v => ?_
  rw [liveAt_eq_some, liveAt_eq_some, liveAt_eq_some]
  constructor
  · rintro ⟨⟨ho, -⟩, ht'⟩; exact ⟨ho, ht'⟩
  · rintro ⟨ho, ht'⟩; exact ⟨⟨ho, by omega⟩, ht'⟩

theorem liveAt_mono {t t' : Int} (h : t ≤ t') {o o' : Option V}
    (ho : liveAt deadline t o = liveAt deadline t o') :
    liveAt deadline t' o = liveAt deadline t' o' := by
  rw [← liveAt_liveAt deadline h o, ho, liveAt_liveAt deadline h]

variable [DecidableEq K]

/-- The maps have the same live entries. -/
def LiveAgree (t : Int) (m m' : Map K V) : Prop :=
  ∀ k, liveAt deadline t (m.lookup k) = liveAt deadline t (m'.lookup k)

namespace LiveAgree

variable {deadline} {t t' : Int} {m m' : Map K V}

theorem mono (h : LiveAgree deadline t m m') (ht : t ≤ t') : LiveAgree deadline t' m m' :=
  fun k => liveAt_mono deadline ht (h k)

theorem insert (h : LiveAgree deadline t m m') (k : K) (v : V) :
    LiveAgree deadline t (m.insert k v) (m'.insert k v) := by
  intro x
  rw [Map.lookup_insert_ite, Map.lookup_insert_ite]
  split
  · rfl
  · exact h x

theorem erase (h : LiveAgree deadline t m m') (k : K) :
    LiveAgree deadline t (m.erase k) (m'.erase k) := by
  intro x
  rw [Map.lookup_erase_ite, Map.lookup_erase_ite]
  split
  · rfl
  · exact h x

/-- **Erasing an expired entry** is not noticed. -/
theorem erase_dead (h : LiveAgree deadline t m m') {k : K}
    (hk : liveAt deadline t (m.lookup k) = none) : LiveAgree deadline t (m.erase k) m' := by
  intro x
  rw [← h x, Map.lookup_erase_ite]
  split
  · rename_i hx; rw [hx, hk]; rfl
  · rfl

end LiveAgree

end GB28181.Base
