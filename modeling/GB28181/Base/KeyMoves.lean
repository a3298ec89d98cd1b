import Mathlib.Data.List.Perm.Basic
import GB28181.Base.InverseMaps

/-!
# Moving an entry of two inverse tables to a new key

A list of changes is applied to a table and its reverse table in an order nobody knows: entries are
moved from one key to another, and keys are read through `operator[]`.

* `KeyChange.apply`, `applyAll` — one change, and all of them in an order;
* `Moved` — the value of the old key has the new one, and every other entry is as before;
* `AtMost` — the keys a value can have come to;
* `moved_iff` — **in every order the entry has moved exactly when** one of the changes moves it and
  the others find nothing to change.
-/

set_option autoImplicit false

namespace GB28181.Base

variable {A B ι : Type} [DecidableEq A] [DecidableEq B]

structure Tables (A B : Type) where
  fwd : Map A B
  bwd : Map B A

/-- A change: none, an entry that gets another key, a read of `fwd[k]`. -/
inductive KeyChange (A : Type)
  | stay
  | move (k v : A)
  | touch (k : A)
  deriving DecidableEq

/-- The tables after a change; `d` is the value-initialised entry. -/
def KeyChange.apply (d : B) (c : KeyChange A) (t : Tables A B) : Tables A B :=
  match c with
  | .stay => t
  | .move k v =>
    match t.fwd.lookup k with
    | none => t
    | some b => ⟨(t.fwd.erase k).insert v b, t.bwd.insert b v⟩
  | .touch k => { t with fwd := t.fwd.touch k d }

/-- The change moves the entry of `v` away. -/
def KeyChange.movesFrom (v : A) : KeyChange A → Bool
  | .move k _ => decide (k = v)
  | _ => false

/-- The tables after the changes `xs`, in this order. -/
def applyAll (d : B) (change : ι → KeyChange A) (xs : List ι) (t : Tables A B) : Tables A B :=
  xs.foldl (fun t x => (change x).apply d t) t

/-- The entry of `b` has moved from `old` to `new`; `P` are the keys that are looked at. -/
structure Moved (P : A → Prop) (d b : B) (old new : A) (t t' : Tables A B) : Prop where
  new_fwd : t'.fwd.lookup new = some b
  new_bwd : t'.bwd.lookup b = some new
  old_fwd : P old → t'.fwd.lookup old = none
  fwd_other : ∀ k, k ≠ old → k ≠ new → t'.fwd.lookup k = t.fwd.lookup k
  bwd_other : ∀ x, x ≠ b → x ≠ d → t'.bwd.lookup x = t.bwd.lookup x

/-- The change is the move, or finds nothing to change. -/
def KeyChange.Fits (t : Tables A B) (old new : A) : KeyChange A → Prop
  | .stay => True
  | .move k v => k = v ∨ k = old ∧ v = new ∨ t.fwd.lookup k = none ∧ k ≠ new
  | .touch k => k = new ∨ k ∈ t.fwd ∧ k ≠ old

/-- One of the changes in `S` is the move of the entry, and all of them fit. -/
structure MoveFits (P : A → Prop) (b : B) (old new : A) (t : Tables A B)
    (change : ι → KeyChange A) (S : ι → Prop) : Prop where
  old_key : P old
  old_fwd : t.fwd.lookup old = some b
  mover : ∃ x, S x ∧ change x = .move old new
  fits : ∀ x, S x → (change x).Fits t old new

/-! ## One change -/

theorem apply_move_of_none (d : B) {k : A} (v : A) {t : Tables A B} (h : t.fwd.lookup k = none) :
    (KeyChange.move k v).apply d t = t := by
  rw [KeyChange.apply, h]

theorem apply_move_of_some (d : B) {k : A} (v : A) {t : Tables A B} {b : B}
    (h : t.fwd.lookup k = some b) :
    (KeyChange.move k v).apply d t = ⟨(t.fwd.erase k).insert v b, t.bwd.insert b v⟩ := by
  rw [KeyChange.apply, h]

theorem apply_touch_of_mem (d : B) {k : A} {t : Tables A B} (h : k ∈ t.fwd) :
    (KeyChange.touch k).apply d t = t := by
  rw [KeyChange.apply, Map.touch_of_mem h]

theorem apply_move_self (d : B) (k x : A) (t : Tables A B) :
    ((KeyChange.move k k).apply d t).fwd.lookup x = t.fwd.lookup x := by
  cases h : t.fwd.lookup k with
  | none => rw [apply_move_of_none d k h]
  | some b =>
    rw [apply_move_of_some d k h, Map.lookup_insert_ite, Map.lookup_erase_ite]
    split
    · rename_i hx
      rw [hx, h]
    · rfl

theorem lookup_move_self (d : B) {k v : A} (hne : k ≠ v) (t : Tables A B) :
    ((KeyChange.move k v).apply d t).fwd.lookup k = none := by
  cases h : t.fwd.lookup k with
  | none => rw [apply_move_of_none d v h, h]
  | some b =>
    rw [apply_move_of_some d v h, Map.lookup_insert_ite, if_neg hne, Map.lookup_erase_ite,
      if_pos rfl]

/-! ## Where a value can have come to -/

section AtMost

variable (P : A → Prop) (b : B)

/-- The value has no key that is looked at but those in `Q`. -/
def AtMost (Q : A → Prop) (t : Tables A B) : Prop := ∀ k, P k → t.fwd.lookup k = some b → Q k

variable {P b} {d : B} {Q Q' : A → Prop} {t : Tables A B}

theorem AtMost.move (h : AtMost P b Q t) {k v : A} (hk : P k) (hv : Q k → Q' v)
    (hother : ∀ x, x ≠ k → Q x → Q' x) : AtMost P b Q' ((KeyChange.move k v).apply d t) := by
  intro x hx hlookup
  cases hkey : t.fwd.lookup k with
  | none =>
    rw [apply_move_of_none d v hkey] at hlookup
    have hne : x ≠ k := fun he => by
      rw [he, hkey] at hlookup
      cases hlookup
    exact hother x hne (h x hx hlookup)
  | some b' =>
    rw [apply_move_of_some d v hkey, Map.lookup_insert_ite] at hlookup
    split at hlookup
    · rename_i hxv
      obtain rfl := Option.some.inj hlookup
      rw [hxv]
      exact hv (h k hk hkey)
    · rw [Map.lookup_erase_ite] at hlookup
      split at hlookup
      · cases hlookup
      · rename_i hxk
        exact hother x hxk (h x hx hlookup)

/-- A change keeps the value where it can be, if it moves nothing away from there. -/
theorem AtMost.apply (h : AtMost P b Q t) (hb : b ≠ d) {c : KeyChange A}
    (hP : ∀ k v, c = .move k v → P k) (hQ : ∀ k v, c = .move k v → Q k → Q v) :
    AtMost P b Q (c.apply d t) := by
  cases c with
  | stay => exact h
  | move k v => exact h.move (hP k v rfl) (hQ k v rfl) fun x _ hx => hx
  | touch k =>
    intro x hx hlookup
    refine h x hx ?_
    rw [KeyChange.apply, Map.lookup_touch] at hlookup
    split at hlookup
    · rename_i hxk
      have hindex := Option.some.inj hlookup
      rw [Map.index, ← hxk] at hindex
      cases hkey : t.fwd.lookup x with
      | none =>
        rw [hkey] at hindex
        exact absurd hindex.symm hb
      | some b' =>
        rw [hkey] at hindex
        exact congrArg some hindex
    · exact hlookup

variable {change : ι → KeyChange A}

theorem AtMost.applyAll (h : AtMost P b Q t) (hb : b ≠ d)
    (hP : ∀ x k v, change x = .move k v → P k) {xs : List ι}
    (hQ : ∀ x ∈ xs, ∀ k v, change x = .move k v → Q k → Q v) :
    AtMost P b Q (applyAll d change xs t) := by
  induction xs generalizing t with
  | nil => exact h
  | cons x xs ih =>
    obtain ⟨hx, hxs⟩ := List.forall_mem_cons.mp hQ
    exact ih (h.apply hb (hP x) hx) hxs

theorem exists_atMost_applyAll {c : A} (h : AtMost P b (· = c) t) (hb : b ≠ d)
    (hP : ∀ x k v, change x = .move k v → P k) (xs : List ι) :
    ∃ c', AtMost P b (· = c') (applyAll d change xs t) := by
  induction xs generalizing t c with
  | nil => exact ⟨c, h⟩
  | cons x xs ih =>
    rcases hx : change x with _ | ⟨k, v⟩ | k
    · refine ih (t := (change x).apply d t) (c := c) ?_
      rw [hx]
      exact h
    · by_cases hkc : k = c
      · refine ih (t := (change x).apply d t) (c := v) ?_
        rw [hx]
        exact h.move (hP x k v hx) (fun _ => rfl) fun y hy hyc => absurd (hyc.trans hkc.symm) hy
      · refine ih (t := (change x).apply d t) (c := c) ?_
        rw [hx]
        exact h.move (hP x k v hx) (fun hk => absurd hk hkc) fun y _ hyc => hyc
    · refine ih (t := (change x).apply d t) (c := c) ?_
      rw [hx]
      exact h.apply hb (fun k v hc => nomatch hc) fun k v hc => nomatch hc

end AtMost

/-! ## Every order -/

section EveryOrder

variable {P : A → Prop} {d b : B} {old new : A} {t t' : Tables A B}

/-- The entry has not moved yet; the new key may have been read. -/
structure Waiting (d : B) (new : A) (t t' : Tables A B) : Prop where
  new_fwd : ∀ x, t'.fwd.lookup new = some x → x = d
  fwd_other : ∀ k, k ≠ new → t'.fwd.lookup k = t.fwd.lookup k
  bwd_other : ∀ x, x ≠ d → t'.bwd.lookup x = t.bwd.lookup x

theorem bwd_apply_move_self (d : B) {k : A} {x : B}
    (h : t.fwd.lookup k = some x → t.bwd.lookup x = some k) :
    ((KeyChange.move k k).apply d t).bwd.lookup x = t.bwd.lookup x := by
  cases hk : t.fwd.lookup k with
  | none => rw [apply_move_of_none d k hk]
  | some b' =>
    rw [apply_move_of_some d k hk, Map.lookup_insert_ite]
    split
    · rename_i hx
      rw [hx] at h ⊢
      exact (h hk).symm
    · rfl

omit [DecidableEq B] in
theorem ne_of_free (hold : t.fwd.lookup old = some b) (hnew : t.fwd.lookup new = none) :
    old ≠ new := by
  intro he
  rw [he, hnew] at hold
  cases hold

theorem Waiting.apply (hinv : InverseOn P t.fwd t.bwd) (hnew : t.fwd.lookup new = none)
    (h : Waiting d new t t') {c : KeyChange A} (hP : ∀ k v, c = .move k v → P k)
    (hfits : c.Fits t old new) (hc : c ≠ .move old new) : Waiting d new t (c.apply d t') := by
  cases c with
  | stay => exact h
  | move k v =>
    have hfree : t'.fwd.lookup k = none → Waiting d new t ((KeyChange.move k v).apply d t') := by
      intro hnone
      rw [apply_move_of_none d v hnone]
      exact h
    rcases hfits with rfl | ⟨rfl, rfl⟩ | ⟨hnone, hne⟩
    · refine ⟨?_, ?_, ?_⟩
      · intro x hx
        rw [apply_move_self] at hx
        exact h.new_fwd x hx
      · intro x hx
        rw [apply_move_self]
        exact h.fwd_other x hx
      · intro x hx
        rw [bwd_apply_move_self d ?_]
        · exact h.bwd_other x hx
        · -- an entry that is there has its key in the reverse table
          intro hk
          by_cases hkn : k = new
          · rw [hkn] at hk
            exact absurd (h.new_fwd x hk) hx
          · rw [h.fwd_other k hkn] at hk
            rw [h.bwd_other x hx]
            exact (hinv k (hP k k rfl) x).mp hk
    · exact absurd rfl hc
    · exact hfree ((h.fwd_other k hne).trans hnone)
  | touch k =>
    rcases hfits with rfl | ⟨hmem, -⟩
    · refine ⟨?_, ?_, h.bwd_other⟩
      · intro x hx
        rw [KeyChange.apply, Map.lookup_touch, if_pos rfl, Map.index] at hx
        have hx' := Option.some.inj hx
        cases hk : t'.fwd.lookup k with
        | none =>
          rw [hk] at hx'
          exact hx'.symm
        | some y =>
          rw [hk] at hx'
          exact hx' ▸ h.new_fwd y hk
      · intro x hx
        rw [KeyChange.apply, Map.lookup_touch, if_neg hx]
        exact h.fwd_other x hx
    · have hne : k ≠ new := fun he => Finmap.lookup_eq_none.mp hnew (he ▸ hmem)
      obtain ⟨x, hx⟩ := Finmap.mem_iff.mp hmem
      rw [apply_touch_of_mem d (Finmap.mem_of_lookup_eq_some ((h.fwd_other k hne).trans hx))]
      exact h

theorem Waiting.move (hold : t.fwd.lookup old = some b) (hnew : t.fwd.lookup new = none)
    (h : Waiting d new t t') : Moved P d b old new t ((KeyChange.move old new).apply d t') := by
  have hne := ne_of_free hold hnew
  rw [apply_move_of_some d new ((h.fwd_other old hne).trans hold)]
  refine ⟨?_, ?_, fun _ => ?_, fun k hko hkn => ?_, fun x hxb hxd => ?_⟩
  · rw [Map.lookup_insert_ite, if_pos rfl]
  · rw [Map.lookup_insert_ite, if_pos rfl]
  · rw [Map.lookup_insert_ite, if_neg hne, Map.lookup_erase_ite, if_pos rfl]
  · rw [Map.lookup_insert_ite, if_neg hkn, Map.lookup_erase_ite, if_neg hko]
    exact h.fwd_other k hkn
  · rw [Map.lookup_insert_ite, if_neg hxb]
    exact h.bwd_other x hxd

theorem Moved.apply (hinv : InverseOn P t.fwd t.bwd) (hP : P old)
    (hold : t.fwd.lookup old = some b) (hnew : t.fwd.lookup new = none)
    (h : Moved P d b old new t t') {c : KeyChange A} (hPc : ∀ k v, c = .move k v → P k)
    (hfits : c.Fits t old new) : Moved P d b old new t (c.apply d t') := by
  cases c with
  | stay => exact h
  | move k v =>
    have hfree : t'.fwd.lookup k = none →
        Moved P d b old new t ((KeyChange.move k v).apply d t') := by
      intro hnone
      rw [apply_move_of_none d v hnone]
      exact h
    rcases hfits with rfl | ⟨rfl, rfl⟩ | ⟨hnone, hne⟩
    · -- an entry that is there has its key in the reverse table
      have hbwd : ∀ x, x = b ∨ x ≠ d → t'.fwd.lookup k = some x →
          t'.bwd.lookup x = some k := by
        intro x hx hk
        by_cases hko : k = old
        · rw [hko, h.old_fwd hP] at hk
          cases hk
        by_cases hkn : k = new
        · rw [hkn, h.new_fwd] at hk
          rw [hkn, ← Option.some.inj hk]
          exact h.new_bwd
        rw [h.fwd_other k hko hkn] at hk
        have hxk := (hinv k (hPc k k rfl) x).mp hk
        have hxb : x ≠ b := by
          intro he
          rw [he, (hinv old hP b).mp hold] at hxk
          exact hko (Option.some.inj hxk).symm
        rw [h.bwd_other x hxb (hx.resolve_left hxb)]
        exact hxk
      refine ⟨?_, ?_, fun ho => ?_, fun x hxo hxn => ?_, fun x hxb hxd => ?_⟩
      · rw [apply_move_self]
        exact h.new_fwd
      · rw [bwd_apply_move_self d (hbwd b (Or.inl rfl))]
        exact h.new_bwd
      · rw [apply_move_self]
        exact h.old_fwd ho
      · rw [apply_move_self]
        exact h.fwd_other x hxo hxn
      · rw [bwd_apply_move_self d (hbwd x (Or.inr hxd))]
        exact h.bwd_other x hxb hxd
    · exact hfree (h.old_fwd hP)
    · have hko : k ≠ old := by
        intro he
        rw [he, hold] at hnone
        cases hnone
      exact hfree ((h.fwd_other k hko hne).trans hnone)
  | touch k =>
    have hin : k ∈ t'.fwd := by
      rcases hfits with rfl | ⟨hmem, hko⟩
      · exact Finmap.mem_of_lookup_eq_some h.new_fwd
      · have hne : k ≠ new := fun he => Finmap.lookup_eq_none.mp hnew (he ▸ hmem)
        obtain ⟨x, hx⟩ := Finmap.mem_iff.mp hmem
        exact Finmap.mem_of_lookup_eq_some ((h.fwd_other k hko hne).trans hx)
    rw [apply_touch_of_mem d hin]
    exact h

variable {change : ι → KeyChange A}

theorem Moved.applyAll (hinv : InverseOn P t.fwd t.bwd) (hP : P old)
    (hold : t.fwd.lookup old = some b) (hnew : t.fwd.lookup new = none)
    (h : Moved P d b old new t t') (hPc : ∀ x k v, change x = .move k v → P k) {xs : List ι}
    (hfits : ∀ x ∈ xs, (change x).Fits t old new) :
    Moved P d b old new t (applyAll d change xs t') := by
  induction xs generalizing t' with
  | nil => exact h
  | cons x xs ih =>
    obtain ⟨hx, hxs⟩ := List.forall_mem_cons.mp hfits
    exact ih (h.apply hinv hP hold hnew (hPc x) hx) hxs

theorem Waiting.applyAll (hinv : InverseOn P t.fwd t.bwd) (hP : P old)
    (hold : t.fwd.lookup old = some b) (hnew : t.fwd.lookup new = none)
    (h : Waiting d new t t') (hPc : ∀ x k v, change x = .move k v → P k) {xs : List ι}
    (hmover : ∃ x ∈ xs, change x = .move old new)
    (hfits : ∀ x ∈ xs, (change x).Fits t old new) :
    Moved P d b old new t (applyAll d change xs t') := by
  induction xs generalizing t' with
  | nil =>
    obtain ⟨x, hx, -⟩ := hmover
    cases hx
  | cons x xs ih =>
    obtain ⟨hx, hxs⟩ := List.forall_mem_cons.mp hfits
    by_cases hmove : change x = .move old new
    · have hmoved : Moved P d b old new t ((change x).apply d t') := by
        rw [hmove]
        exact h.move hold hnew
      exact hmoved.applyAll hinv hP hold hnew hPc hxs
    · refine ih (h.apply hinv hnew (hPc x) hx hmove) ?_ hxs
      obtain ⟨y, hy, hchange⟩ := hmover
      rcases List.mem_cons.mp hy with rfl | hy
      · exact absurd hchange hmove
      · exact ⟨y, hy, hchange⟩

/-- **In every order** the changes that fit move the entry. -/
theorem MoveFits.moved {xs0 : List ι} (h : MoveFits P b old new t change (· ∈ xs0))
    (hinv : InverseOn P t.fwd t.bwd) (hnew : t.fwd.lookup new = none)
    (hPc : ∀ x k v, change x = .move k v → P k) {xs : List ι} (hperm : xs.Perm xs0) :
    Moved P d b old new t (applyAll d change xs t) := by
  have hwaiting : Waiting d new t t := by
    refine ⟨fun x hx => ?_, fun _ _ => rfl, fun _ _ => rfl⟩
    rw [hnew] at hx
    cases hx
  obtain ⟨x, hx, hchange⟩ := h.mover
  exact hwaiting.applyAll hinv h.old_key h.old_fwd hnew hPc ⟨x, hperm.mem_iff.mpr hx, hchange⟩
    fun y hy => h.fits y (hperm.mem_iff.mp hy)

/-! ## What every order tells -/

theorem atMost_of_inverse (hinv : InverseOn P t.fwd t.bwd) {o : A} (ho : P o)
    (h : t.fwd.lookup o = some b) : AtMost P b (· = o) t := by
  intro k hk hkb
  rw [hinv k hk b, (hinv o ho b).mp h] at hkb
  exact (Option.some.inj hkb).symm

theorem exists_last {x : ι} {xs0 : List ι} (hx : x ∈ xs0) :
    ∃ xs, (xs ++ [x]).Perm xs0 := by
  obtain ⟨l, r, rfl⟩ := List.append_of_mem hx
  refine ⟨l ++ r, ?_⟩
  rw [List.append_assoc]
  exact (List.perm_append_comm).append_left l

theorem applyAll_append_singleton (d : B) (xs : List ι) (x : ι) (t : Tables A B) :
    applyAll d change (xs ++ [x]) t = (change x).apply d (applyAll d change xs t) :=
  List.foldl_concat ..

variable {xs0 : List ι}

theorem old_of_moved (hinv : InverseOn P t.fwd t.bwd) (hPn : P new)
    (hnew : t.fwd.lookup new = none) (hb : b ≠ d) (hPc : ∀ x k v, change x = .move k v → P k)
    (h : Moved P d b old new t (applyAll d change xs0 t)) :
    P old ∧ t.fwd.lookup old = some b := by
  -- it had a key, or it would have none
  have hsome : ∃ o, P o ∧ t.fwd.lookup o = some b := by
    by_contra hnone
    have hempty : AtMost P b (fun _ => False) t := fun k hk hlookup =>
      hnone ⟨k, hk, hlookup⟩
    exact hempty.applyAll hb hPc (fun _ _ _ _ _ => id) new hPn h.new_fwd
  obtain ⟨o, ho, hlookup⟩ := hsome
  have hone := atMost_of_inverse hinv ho hlookup
  obtain ⟨c, hc⟩ := exists_atMost_applyAll hone hb hPc xs0
  have hoo : o = old := by
    by_contra hne
    have hon := ne_of_free hlookup hnew
    -- the other key still has it, and the new one has it, too
    have hstill := (h.fwd_other o hne hon).trans hlookup
    exact hon ((hc o ho hstill).trans (hc new hPn h.new_fwd).symm)
  exact ⟨hoo ▸ ho, hoo ▸ hlookup⟩

theorem move_of_moved (hinv : InverseOn P t.fwd t.bwd) (hPn : P new) (hP : P old)
    (hold : t.fwd.lookup old = some b) (hb : b ≠ d)
    (hPc : ∀ x k v, change x = .move k v → P k)
    (h : ∀ xs : List ι, xs.Perm xs0 → Moved P d b old new t (applyAll d change xs t)) {x : ι}
    (hx : x ∈ xs0) {v : A} (hchange : change x = .move old v) (hv : v ≠ old) : v = new := by
  have hone := atMost_of_inverse hinv hP hold
  -- what moves something away from `v` goes first
  have hxrest : x ∈ xs0.filter fun y => !(change y).movesFrom v := by
    rw [List.mem_filter, hchange]
    exact ⟨hx, by simpa [KeyChange.movesFrom] using Ne.symm hv⟩
  obtain ⟨l, r, hsplit⟩ := List.append_of_mem hxrest
  have hperm :
      ((xs0.filter fun y => (change y).movesFrom v) ++ x :: (l ++ r)).Perm xs0 := by
    have hmiddle : (x :: (l ++ r)).Perm (xs0.filter fun y => !(change y).movesFrom v) := by
      rw [hsplit]
      exact List.perm_middle.symm
    exact (hmiddle.append_left _).trans
      (List.filter_append_perm (fun y => (change y).movesFrom v) xs0)
  have hmoved := h _ hperm
  rw [applyAll, List.foldl_append, List.foldl_cons] at hmoved
  have hfirst : AtMost P b (· = old)
      (applyAll d change (xs0.filter fun y => (change y).movesFrom v) t) := by
    refine hone.applyAll hb hPc fun y hy k w hyc hk => ?_
    have hfrom := (List.mem_filter.mp hy).2
    rw [hyc] at hfrom
    exact absurd ((of_decide_eq_true hfrom).symm.trans hk) hv
  have hthen : AtMost P b (· = v) ((change x).apply d
      (applyAll d change (xs0.filter fun y => (change y).movesFrom v) t)) := by
    rw [hchange]
    exact hfirst.move hP (fun _ => rfl) fun y hy hyo => absurd hyo hy
  have hstays : ∀ y ∈ l ++ r, ∀ k w, change y = .move k w → k = v → w = v := by
    intro y hy k w hyc hk
    have hmem : y ∈ xs0.filter fun y => !(change y).movesFrom v := by
      rw [hsplit]
      rcases List.mem_append.mp hy with hy | hy
      · exact List.mem_append_left _ hy
      · exact List.mem_append_right _ (List.mem_cons_of_mem _ hy)
    have hnot := (List.mem_filter.mp hmem).2
    rw [hyc, hk] at hnot
    simp [KeyChange.movesFrom] at hnot
  exact (hthen.applyAll hb hPc hstays new hPn hmoved.new_fwd).symm

theorem fits_of_moved (hinv : InverseOn P t.fwd t.bwd) (hPn : P new) (hP : P old)
    (hold : t.fwd.lookup old = some b) (hb : b ≠ d)
    (hPc : ∀ x k v, change x = .move k v → P k)
    (h : ∀ xs : List ι, xs.Perm xs0 → Moved P d b old new t (applyAll d change xs t)) {x : ι}
    (hx : x ∈ xs0) : (change x).Fits t old new := by
  obtain ⟨xs, hperm⟩ := exists_last hx
  have hmoved := h _ hperm
  rw [applyAll_append_singleton] at hmoved
  rcases hchange : change x with _ | ⟨k, v⟩ | k
  · trivial
  · rw [hchange] at hmoved
    by_cases hkv : k = v
    · exact Or.inl hkv
    -- nothing has the key that was moved last
    have hgone := lookup_move_self d hkv (applyAll d change xs t)
    have hkn : k ≠ new := by
      intro he
      rw [he] at hgone hmoved
      rw [hmoved.new_fwd] at hgone
      cases hgone
    by_cases hko : k = old
    · rw [hko] at hchange hkv
      have hvn := move_of_moved hinv hPn hP hold hb hPc h hx hchange (Ne.symm hkv)
      exact Or.inr (Or.inl ⟨hko, hvn⟩)
    · exact Or.inr (Or.inr ⟨(hmoved.fwd_other k hko hkn).symm.trans hgone, hkn⟩)
  · rw [hchange] at hmoved
    by_cases hkn : k = new
    · exact Or.inl hkn
    have hin : k ∈ ((KeyChange.touch k).apply d (applyAll d change xs t)).fwd :=
      Map.mem_touch _ _ _
    obtain ⟨y, hy⟩ := Finmap.mem_iff.mp hin
    have hko : k ≠ old := by
      intro he
      rw [he] at hmoved hy
      rw [hmoved.old_fwd hP] at hy
      cases hy
    rw [hmoved.fwd_other k hko hkn] at hy
    exact Or.inr ⟨Finmap.mem_of_lookup_eq_some hy, hko⟩

/-- **In every order the entry of `b` moves from `old` to `new` and nothing else changes** exactly
when one of the changes is the move and the others find nothing to change. -/
theorem moved_iff (hinv : InverseOn P t.fwd t.bwd) (hPn : P new)
    (hnew : t.fwd.lookup new = none) (hb : b ≠ d)
    (hPc : ∀ x k v, change x = .move k v → P k) :
    (∀ xs : List ι, xs.Perm xs0 → Moved P d b old new t (applyAll d change xs t)) ↔
      MoveFits P b old new t change (· ∈ xs0) := by
  constructor
  · intro h
    obtain ⟨hP, hold⟩ := old_of_moved hinv hPn hnew hb hPc (h xs0 (List.Perm.refl xs0))
    refine ⟨hP, hold, ?_, fun x hx => fits_of_moved hinv hPn hP hold hb hPc h hx⟩
    -- a change that leaves the entry where it is moves nothing away from there
    by_contra hnone
    have hone := atMost_of_inverse hinv hP hold
    have hstays : ∀ x ∈ xs0, ∀ k v, change x = .move k v → k = old → v = old := by
      intro x hx k v hchange hk
      by_contra hv
      rw [hk] at hchange
      have hvn := move_of_moved hinv hPn hP hold hb hPc h hx hchange hv
      exact hnone ⟨x, hx, hvn ▸ hchange⟩
    have hsame := hone.applyAll hb hPc hstays new hPn (h xs0 (List.Perm.refl xs0)).new_fwd
    exact ne_of_free hold hnew hsame.symm
  · intro h xs hperm
    exact h.moved hinv hnew hPc hperm

end EveryOrder

end GB28181.Base
