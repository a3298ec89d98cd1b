import Mathlib.Data.List.Basic
import Mathlib.Data.Nat.Basic

/-!
# Pages of a list, and a function called for each

A list is cut into pages of `n` elements, the last one with what is left; the empty list is one
page.  A function that makes a page a call is called until its result is not positive.

* `pages` — the pages of a list;
* `paged_iff` — **they are the only way** to cut a list into `⌈l.length / n⌉` pages, one at least,
  of which all but the last are full;
* `CallsEnd` — the calls end with these pages;
* `ends_pages` — they do if each call makes the next page and a positive result says that there
  are more;
* `ends_of_countdown` — they do if something counts down with every positive result.
-/

set_option autoImplicit false

namespace GB28181.Base

variable {ι σ π : Type}

/-- The first `k` pages and what is left. -/
def cut (n : Nat) : Nat → List ι → List (List ι)
  | 0, l => [l]
  | k + 1, l => l.take n :: cut n k (l.drop n)

def pages (n : Nat) (l : List ι) : List (List ι) := cut n ((l.length - 1) / n) l

structure Paged (n : Nat) (l : List ι) (parts : List (List ι)) : Prop where
  flatten : parts.flatten = l
  length : parts.length = max 1 ((l.length + n - 1) / n)
  full : ∀ part ∈ parts.dropLast, part.length = n

section pages

variable {n k : Nat} {l : List ι} {parts : List (List ι)}

theorem cut_ne_nil : cut n k l ≠ [] := by
  cases k <;> exact List.cons_ne_nil _ _

theorem length_cut : (cut n k l).length = k + 1 := by
  induction k generalizing l with
  | zero => rfl
  | succ k ih => rw [cut, List.length_cons, ih]

theorem flatten_cut : (cut n k l).flatten = l := by
  induction k generalizing l with
  | zero => exact List.append_nil l
  | succ k ih => rw [cut, List.flatten_cons, ih, List.take_append_drop]

theorem full_cut (h : n * k ≤ l.length) : ∀ part ∈ (cut n k l).dropLast, part.length = n := by
  induction k generalizing l with
  | zero => exact List.forall_mem_nil _
  | succ k ih =>
    rw [Nat.mul_succ] at h
    rw [cut, List.dropLast_cons_of_ne_nil cut_ne_nil, List.forall_mem_cons]
    refine ⟨?_, ih ?_⟩
    · rw [List.length_take]
      omega
    · rw [List.length_drop]
      omega

theorem max_one_ceil (hn : 0 < n) (m : Nat) : max 1 ((m + n - 1) / n) = (m - 1) / n + 1 := by
  cases m with
  | zero =>
    rw [Nat.zero_add, Nat.zero_sub, Nat.zero_div, Nat.div_eq_of_lt (Nat.sub_lt hn Nat.one_pos)]
    rfl
  | succ m =>
    have hsum : m + 1 + n - 1 = m + n := by omega
    rw [hsum, Nat.add_sub_cancel, Nat.add_div_right _ hn]
    exact Nat.max_eq_right (Nat.succ_le_succ (Nat.zero_le _))

theorem paged_pages (hn : 0 < n) : Paged n l (pages n l) where
  flatten := flatten_cut
  length := by rw [pages, length_cut, max_one_ceil hn]
  full := by
    refine full_cut ?_
    have hle := Nat.mul_div_le (l.length - 1) n
    omega

theorem pages_of_le (hn : 0 < n) (h : l.length ≤ n) : pages n l = [l] := by
  have hzero : (l.length - 1) / n = 0 := Nat.div_eq_of_lt (by omega)
  rw [pages, hzero]
  rfl

theorem pages_of_lt (hn : 0 < n) (h : n < l.length) :
    pages n l = l.take n :: pages n (l.drop n) := by
  have hsucc : (l.length - 1) / n = (l.length - n - 1) / n + 1 := by
    have hsum : l.length - 1 = l.length - n - 1 + n := by omega
    rw [hsum, Nat.add_div_right _ hn]
  rw [pages, hsucc, cut, pages, List.length_drop]

/-- Full pages with one more behind them are the first pages of the list. -/
theorem eq_cut (hlen : parts.length = k + 1) (hfull : ∀ part ∈ parts.dropLast, part.length = n) :
    parts = cut n k parts.flatten := by
  induction k generalizing parts with
  | zero =>
    obtain ⟨part, rfl⟩ := List.length_eq_one_iff.mp hlen
    rw [cut, List.flatten_singleton]
  | succ k ih =>
    obtain ⟨part, rest, rfl⟩ := List.exists_cons_of_length_eq_add_one hlen
    have hrest : rest.length = k + 1 := Nat.succ.inj hlen
    have hne : rest ≠ [] := List.ne_nil_of_length_eq_add_one hrest
    rw [List.dropLast_cons_of_ne_nil hne, List.forall_mem_cons] at hfull
    rw [cut, List.flatten_cons, List.take_left' hfull.1, List.drop_left' hfull.1,
      ← ih hrest hfull.2]

/-- **The pages of a list** are the only ones. -/
theorem paged_iff (hn : 0 < n) : Paged n l parts ↔ parts = pages n l := by
  constructor
  · rintro ⟨hflatten, hlength, hfull⟩
    rw [max_one_ceil hn] at hlength
    rw [pages, ← hflatten]
    rw [← hflatten] at hlength
    exact eq_cut hlength hfull
  · rintro rfl
    exact paged_pages hn

theorem forall₂_iff_of_forall₂ {P Q : ι → π → Prop} {C : ι → Prop} {l : List ι} {ps : List π}
    (h : List.Forall₂ P l ps) (hiff : ∀ a p, P a p → (Q a p ↔ C a)) :
    List.Forall₂ Q l ps ↔ ∀ a ∈ l, C a := by
  induction h with
  | nil => exact iff_of_true .nil (List.forall_mem_nil _)
  | cons hp _ ih => rw [List.forall₂_cons, List.forall_mem_cons, ih, hiff _ _ hp]

end pages

/-! ## Calls -/

/-- The function is called until its result is not positive. -/
def untilDone (f : σ → Option (Int × π × σ)) : Nat → σ → Option (List π × σ)
  | 0, _ => none
  | fuel + 1, s =>
    match f s with
    | none => none
    | some (r, p, s') =>
      if 0 < r then (untilDone f fuel s').map fun ends => (p :: ends.1, ends.2)
      else some ([p], s')

/-- The calls end with these pages in this state. -/
def CallsEnd (f : σ → Option (Int × π × σ)) (s : σ) (ps : List π) (s' : σ) : Prop :=
  ∃ fuel, untilDone f fuel s = some (ps, s')

section ends

variable {f : σ → Option (Int × π × σ)} {s s' s'' : σ} {r : Int} {p : π} {ps : List π}

theorem CallsEnd.last (hf : f s = some (r, p, s')) (hr : r ≤ 0) : CallsEnd f s [p] s' := by
  refine ⟨1, ?_⟩
  rw [untilDone, hf]
  exact if_neg (Int.not_lt.mpr hr)

theorem CallsEnd.more (hf : f s = some (r, p, s')) (hr : 0 < r) (h : CallsEnd f s' ps s'') :
    CallsEnd f s (p :: ps) s'' := by
  obtain ⟨fuel, hfuel⟩ := h
  refine ⟨fuel + 1, ?_⟩
  rw [untilDone, hf]
  refine (if_pos hr).trans ?_
  rw [hfuel]
  rfl

/-- The calls end in one way: the other number of calls is found by comparing the fuel. -/
theorem CallsEnd.unique {qs : List π} {t : σ} (h : CallsEnd f s ps s') (h' : CallsEnd f s qs t) :
    ps = qs ∧ s' = t := by
  obtain ⟨fuel, hfuel⟩ := h
  obtain ⟨fuel', hfuel'⟩ := h'
  induction fuel generalizing s ps qs fuel' with
  | zero => cases hfuel
  | succ fuel ih =>
    cases fuel' with
    | zero => cases hfuel'
    | succ fuel' =>
      rw [untilDone] at hfuel hfuel'
      rcases hf : f s with _ | ⟨r, p, s₁⟩
      · rw [hf] at hfuel
        cases hfuel
      · rw [hf] at hfuel hfuel'
        by_cases hr : 0 < r
        · obtain ⟨⟨ps₁, t₁⟩, hps, heq⟩ :=
            Option.map_eq_some_iff.mp ((if_pos hr).symm.trans hfuel)
          obtain ⟨⟨qs₁, u₁⟩, hqs, heq'⟩ :=
            Option.map_eq_some_iff.mp ((if_pos hr).symm.trans hfuel')
          cases heq
          cases heq'
          obtain ⟨rfl, rfl⟩ := ih hps fuel' hqs
          exact ⟨rfl, rfl⟩
        · have hone := (if_neg hr).symm.trans hfuel
          have htwo := (if_neg hr).symm.trans hfuel'
          cases hone
          cases htwo
          exact ⟨rfl, rfl⟩

/-- **Page by page.**  Every call makes the next page, and its result says whether that is the
last. -/
theorem ends_pages {n : Nat} (hn : 0 < n) {Ready : List ι → σ → Prop} {Holds : List ι → π → Prop}
    (hlast : ∀ l s, Ready l s → l.length ≤ n →
      ∃ r p s', f s = some (r, p, s') ∧ r ≤ 0 ∧ Holds l p)
    (hmore : ∀ l s, Ready l s → n < l.length →
      ∃ r p s', f s = some (r, p, s') ∧ 0 < r ∧ Holds (l.take n) p ∧ Ready (l.drop n) s')
    {l : List ι} (h : Ready l s) :
    ∃ ps s', CallsEnd f s ps s' ∧ List.Forall₂ Holds (pages n l) ps := by
  obtain ⟨k, hk⟩ : ∃ k, l.length ≤ k := ⟨_, Nat.le_refl _⟩
  induction k generalizing l s with
  | zero =>
    obtain ⟨r, p, s', hf, hr, hp⟩ := hlast l s h (by omega)
    rw [pages_of_le hn (by omega)]
    exact ⟨[p], s', .last hf hr, .cons hp .nil⟩
  | succ k ih =>
    by_cases hle : l.length ≤ n
    · obtain ⟨r, p, s', hf, hr, hp⟩ := hlast l s h hle
      rw [pages_of_le hn hle]
      exact ⟨[p], s', .last hf hr, .cons hp .nil⟩
    · have hlt : n < l.length := Nat.lt_of_not_le hle
      obtain ⟨r, p, s', hf, hr, hp, hready⟩ := hmore l s h hlt
      have hshorter : (l.drop n).length ≤ k := by
        rw [List.length_drop]
        omega
      obtain ⟨ps, s'', hends, hall⟩ := ih hready hshorter
      rw [pages_of_lt hn hlt]
      exact ⟨p :: ps, s'', .more hf hr hends, .cons hp hall⟩

/-- **The calls end** if something counts down with every positive result. -/
theorem ends_of_countdown {Inv : Nat → σ → Prop} {Done : σ → Prop}
    (hcall : ∀ k s, Inv k s → ∃ r p s', f s = some (r, p, s') ∧
      (r ≤ 0 ∧ Done s' ∨ 0 < r ∧ ∃ k' < k, Inv k' s')) {k : Nat} (h : Inv k s) :
    ∃ ps s', CallsEnd f s ps s' ∧ Done s' := by
  induction k using Nat.strong_induction_on generalizing s with
  | _ k ih =>
    obtain ⟨r, p, s', hf, ⟨hr, hdone⟩ | ⟨hr, k', hlt, hinv⟩⟩ := hcall k s h
    · exact ⟨[p], s', .last hf hr, hdone⟩
    · obtain ⟨ps, s'', hends, hdone⟩ := ih k' hlt hinv
      exact ⟨p :: ps, s'', .more hf hr hends, hdone⟩

end ends

end GB28181.Base
