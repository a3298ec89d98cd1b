import Mathlib.Data.List.Basic
import Mathlib.Data.List.Infix
import Mathlib.Data.List.TakeWhile

/-!
# Cutting a text at a token

`breakOn token s` is `find` with the two `substr` calls around it: the text before the first
occurrence of the token and the text behind it.

* `breakOn_eq_some`, `breakOn_eq_none_iff` — what a cut and a failed search say about the text;
* `breakOn_append` — **the first token of `l ++ token ++ r` is the one written there**, if none
  begins earlier;
* `breakOn_singleton` — the same for a token of one character;
* `breakOn_length_le`, `breakOn_behind` — where the first token is, seen from another place;
* `breakOn_append_of_some`, `breakOn_append_cons` — a text that is continued;
* `takeWhile_ne_eq_self_iff`, `takeWhile_ne_append_cons` — a text up to a character.
-/

set_option autoImplicit false

namespace GB28181.Base

variable {α : Type}

/-- A token at the head of `l ++ token ++ r` lies in `l ++ token` without its last character, if
`l` is not empty. -/
theorem prefix_dropLast {token l r : List α} (hl : l ≠ []) (h : token <+: l ++ token ++ r) :
    token <+: l ++ token.dropLast := by
  have hlen : token.length ≤ (l ++ token.dropLast).length := by
    have := List.length_pos_of_ne_nil hl
    rw [List.length_append, List.length_dropLast]
    omega
  have hpre : l ++ token.dropLast <+: l ++ token ++ r := by
    rw [List.append_assoc]
    exact (List.prefix_append_right_inj l).mpr
      ((List.dropLast_prefix token).trans (List.prefix_append token r))
  exact List.prefix_of_prefix_length_le h hpre hlen

theorem prefix_append_cons {token l r : List α} {c : α} (hc : c ∉ token)
    (h : token <+: l ++ c :: r) : token <+: l := by
  have hl : l ++ [c] <+: l ++ c :: r := ⟨r, by simp⟩
  rcases List.prefix_or_prefix_of_prefix h hl with h' | h'
  · rcases List.prefix_concat_iff.mp h' with rfl | h''
    · exact absurd (by simp) hc
    · exact h''
  · exact absurd (h'.subset (by simp)) hc

theorem not_infix_append_cons {token : List α} {c : α} {r : List α} (ht : token ≠ [])
    (hc : c ∉ token) (hr : ¬ token <:+: r) : ∀ {l : List α}, ¬ token <:+: l →
      ¬ token <:+: l ++ c :: r
  | [], _, h => by
    rcases List.infix_cons_iff.mp h with h | h
    · have : token <+: [] := prefix_append_cons (l := []) hc h
      exact ht (List.prefix_nil.mp this)
    · exact hr h
  | x :: l, hl, h => by
    rcases List.infix_cons_iff.mp h with h | h
    · exact hl (prefix_append_cons (l := x :: l) hc h).isInfix
    · exact not_infix_append_cons ht hc hr (fun hi => hl (List.infix_cons hi)) h

variable [DecidableEq α]

/-- The text before and behind the first occurrence of the token. -/
def breakOn (token : List α) : List α → Option (List α × List α)
  | [] => if token = [] then some ([], []) else none
  | c :: s =>
    if token <+: c :: s then some ([], (c :: s).drop token.length)
    else (breakOn token s).map fun p => (c :: p.1, p.2)

theorem breakOn_eq_some {token : List α} : ∀ {s l r : List α},
    breakOn token s = some (l, r) → s = l ++ token ++ r
  | [], l, r, h => by
    unfold breakOn at h
    split at h
    · rename_i ht
      cases h
      simp [ht]
    · cases h
  | c :: s, l, r, h => by
    unfold breakOn at h
    split at h
    · rename_i hp
      obtain ⟨t, ht⟩ := hp
      cases h
      rw [← ht]
      simp
    · obtain ⟨⟨l', r'⟩, hb, he⟩ := Option.map_eq_some_iff.mp h
      cases he
      rw [breakOn_eq_some hb]
      simp

theorem breakOn_eq_none_iff {token : List α} : ∀ {s : List α},
    breakOn token s = none ↔ ¬ token <:+: s
  | [] => by simp [breakOn]
  | c :: s => by
    have hstep : breakOn token (c :: s) =
        if token <+: c :: s then some ([], (c :: s).drop token.length)
        else (breakOn token s).map fun p => (c :: p.1, p.2) := rfl
    rw [List.infix_cons_iff, not_or, ← breakOn_eq_none_iff, hstep]
    split
    · rename_i hp; simp [hp]
    · rename_i hp; simp [hp]

theorem breakOn_length_lt {token s l r : List α} (h : breakOn token s = some (l, r))
    (hne : token ≠ [] ∨ l ≠ []) : r.length < s.length := by
  rw [breakOn_eq_some h]
  rcases hne with hne | hne
  · have := List.length_pos_of_ne_nil hne
    simp only [List.length_append]
    omega
  · have := List.length_pos_of_ne_nil hne
    simp only [List.length_append]
    omega

/-- **The first token.** -/
theorem breakOn_append {token : List α} (ht : token ≠ []) : ∀ {l r : List α},
    ¬ token <:+: l ++ token.dropLast → breakOn token (l ++ token ++ r) = some (l, r)
  | [], r, _ => by
    obtain ⟨c, t, rfl⟩ := List.exists_cons_of_ne_nil ht
    simp only [List.nil_append, List.cons_append, breakOn]
    rw [if_pos ⟨r, rfl⟩]
    simp
  | c :: l, r, h => by
    have hhead : ¬ token <+: c :: (l ++ token ++ r) := fun hp =>
      h (prefix_dropLast (List.cons_ne_nil c l) (by simpa using hp)).isInfix
    have htail : ¬ token <:+: l ++ token.dropLast := fun hi =>
      h (List.infix_cons hi)
    simp only [List.cons_append, breakOn]
    rw [if_neg (by simpa using hhead), breakOn_append ht htail]
    rfl

theorem breakOn_singleton {c : α} {l r : List α} (h : c ∉ l) :
    breakOn [c] (l ++ c :: r) = some (l, r) := by
  have hfirst : ¬ [c] <:+: l ++ [c].dropLast := by
    simpa [List.singleton_infix_iff] using h
  have hcut : breakOn [c] (l ++ [c] ++ r) = some (l, r) :=
    breakOn_append (List.cons_ne_nil c []) hfirst
  simpa using hcut

theorem breakOn_length_le {token : List α} : ∀ {s l r : List α} {k : Nat},
    breakOn token s = some (l, r) → token <+: s.drop k → l.length ≤ k
  | [], l, r, _, h, _ => by
    have hs := breakOn_eq_some h
    have hlen := congrArg List.length hs
    rw [List.length_append, List.length_append, List.length_nil] at hlen
    omega
  | c :: s, l, r, k, h, hp => by
    unfold breakOn at h
    split at h
    · cases h
      exact Nat.zero_le k
    · rename_i hno
      obtain ⟨⟨l', r'⟩, hb, he⟩ := Option.map_eq_some_iff.mp h
      cases he
      cases k with
      | zero => exact absurd hp hno
      | succ k => exact Nat.succ_le_succ (breakOn_length_le hb hp)

/-- A token that is first found behind `x` is found there in what follows `x`. -/
theorem breakOn_behind {token : List α} : ∀ {x y l r : List α},
    breakOn token (x ++ y) = some (l, r) → x.length ≤ l.length →
      breakOn token y = some (l.drop x.length, r)
  | [], _, _, _, h, _ => h
  | c :: x, y, l, r, h, hle => by
    rw [List.cons_append] at h
    unfold breakOn at h
    split at h
    · cases h
      exact absurd hle (Nat.not_succ_le_zero _)
    · obtain ⟨⟨l', r'⟩, hb, he⟩ := Option.map_eq_some_iff.mp h
      cases he
      have hle' : x.length ≤ l'.length := Nat.le_of_succ_le_succ hle
      exact @breakOn_behind _ x y l' r' hb hle'

/-- The first token of a text is the first one of what it is continued to. -/
theorem breakOn_append_of_some {token : List α} : ∀ {s l r : List α},
    breakOn token s = some (l, r) → ∀ t, breakOn token (s ++ t) = some (l, r ++ t)
  | [], l, r, h, t => by
    unfold breakOn at h
    split at h
    · rename_i ht
      cases h
      subst ht
      cases t with
      | nil => rfl
      | cons c t => simp [breakOn]
    · cases h
  | c :: s, l, r, h, t => by
    unfold breakOn at h
    rw [List.cons_append, breakOn]
    split at h
    · rename_i hp
      cases h
      have hpre : token <+: c :: (s ++ t) := hp.trans (List.prefix_append (c :: s) t)
      rw [if_pos hpre, ← List.cons_append, List.drop_append_of_le_length hp.length_le]
    · rename_i hp
      obtain ⟨⟨l', r'⟩, hb, he⟩ := Option.map_eq_some_iff.mp h
      cases he
      have hno : ¬ token <+: c :: (s ++ t) := fun hpre => by
        have hs : token.length ≤ (c :: s).length := by
          rw [breakOn_eq_some hb]
          simp only [List.length_cons, List.length_append]
          omega
        exact hp (List.prefix_of_prefix_length_le hpre (List.prefix_append (c :: s) t) hs)
      rw [if_neg hno, breakOn_append_of_some hb t]
      rfl

/-- A text without the token, and a character behind it that the token does not hold: the token is
looked for in what follows. -/
theorem breakOn_append_cons {token : List α} {c : α} (ht : token ≠ []) (hc : c ∉ token) :
    ∀ {s : List α}, breakOn token s = none → ∀ r, breakOn token (s ++ c :: r) =
      (breakOn token r).map fun p => (s ++ c :: p.1, p.2)
  | [], _, r => by
    have hno : ¬ token <+: c :: r := fun hp =>
      ht (List.prefix_nil.mp (@prefix_append_cons _ token [] r c hc hp))
    rw [List.nil_append, breakOn, if_neg hno]
    rfl
  | d :: s, h, r => by
    unfold breakOn at h
    split at h
    · cases h
    · rename_i hp
      have hno : ¬ token <+: d :: (s ++ c :: r) := fun hpre =>
        hp (@prefix_append_cons _ token (d :: s) r c hc hpre)
      rw [List.cons_append, breakOn, if_neg hno,
        breakOn_append_cons ht hc (Option.map_eq_none_iff.mp h) r, Option.map_map]
      rfl

theorem breakOn_append_eq_none {token x y : List α} (h : breakOn token (x ++ y) = none) :
    breakOn token y = none := by
  rw [breakOn_eq_none_iff] at h ⊢
  exact fun hy => h (hy.trans (List.suffix_append x y).isInfix)

/-! ## Up to a character -/

section

variable {t : List α} {c : α}

theorem decide_ne_of_notMem (h : c ∉ t) : ∀ d ∈ t, decide (d ≠ c) = true := by
  intro d hd
  exact decide_eq_true (ne_of_mem_of_not_mem hd h)

theorem not_mem_takeWhile_ne (c : α) (t : List α) : c ∉ t.takeWhile (· ≠ c) := by
  intro h
  have hne : decide (c ≠ c) = true := @List.mem_takeWhile_imp _ (fun d => decide (d ≠ c)) t c h
  exact of_decide_eq_true hne rfl

theorem takeWhile_ne_eq_self_iff : t.takeWhile (· ≠ c) = t ↔ c ∉ t := by
  constructor
  · intro h hmem
    rw [← h] at hmem
    exact not_mem_takeWhile_ne c t hmem
  · intro h
    exact List.takeWhile_eq_self_iff.mpr (decide_ne_of_notMem h)

theorem takeWhile_ne_append_cons (h : c ∉ t) (rest : List α) :
    (t ++ c :: rest).takeWhile (· ≠ c) = t := by
  rw [List.takeWhile_append_of_pos (decide_ne_of_notMem h), List.takeWhile_cons_of_neg (by simp),
    List.append_nil]

end

end GB28181.Base
