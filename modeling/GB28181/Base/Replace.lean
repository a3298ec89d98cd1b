import GB28181.Base.Token

/-!
# Replacing all occurrences of a text

`replaceAll a b s` goes through `s` from left to right and writes `b` for every `a` it meets.

* `replaceAll_same_length` — in a text as long as `a`;
* `breakOn_replaceAll` — **replacing commutes with cutting at a token** that can neither overlap
  what is replaced nor come about by replacing.
-/

set_option autoImplicit false

namespace GB28181.Base

variable {α : Type} [DecidableEq α]

/-- The rest of a replacement, of which `skip` more characters are replaced already. -/
def replaceFrom (a b : List α) : Nat → List α → List α
  | _, [] => []
  | skip + 1, _ :: s => replaceFrom a b skip s
  | 0, c :: s =>
    if a <+: c :: s then b ++ replaceFrom a b (a.length - 1) s else c :: replaceFrom a b 0 s

/-- `b` for every `a`. -/
def replaceAll (a b s : List α) : List α := if a = [] then s else replaceFrom a b 0 s

theorem replaceFrom_skip (a b : List α) (skip : Nat) :
    ∀ s : List α, replaceFrom a b skip s = replaceFrom a b 0 (s.drop skip) := by
  induction skip with
  | zero => intro s; rfl
  | succ skip ih =>
    intro s
    cases s with
    | nil => rfl
    | cons c s => exact ih s

section Steps

variable {a b : List α}

@[simp] theorem replaceAll_nil : replaceAll a b [] = [] := by
  unfold replaceAll
  split <;> rfl

theorem replaceAll_append (ha : a ≠ []) (s : List α) :
    replaceAll a b (a ++ s) = b ++ replaceAll a b s := by
  obtain ⟨c, t, rfl⟩ := List.exists_cons_of_ne_nil ha
  unfold replaceAll
  rw [if_neg ha, if_neg ha, List.cons_append, replaceFrom, if_pos ⟨s, rfl⟩, replaceFrom_skip]
  congr 2
  simp

theorem replaceAll_cons {c : α} {s : List α} (h : ¬ a <+: c :: s) :
    replaceAll a b (c :: s) = c :: replaceAll a b s := by
  have ha : a ≠ [] := by
    rintro rfl
    exact h List.nil_prefix
  unfold replaceAll
  rw [if_neg ha, if_neg ha, replaceFrom, if_neg h]

theorem replaceAll_of_length_lt : ∀ {s : List α}, s.length < a.length → replaceAll a b s = s
  | [], _ => replaceAll_nil
  | c :: s, h => by
    have hno : ¬ a <+: c :: s := fun hp => by
      have := hp.length_le
      omega
    have hs : s.length < a.length := by
      rw [List.length_cons] at h
      omega
    rw [replaceAll_cons hno, replaceAll_of_length_lt hs]

theorem replaceAll_same_length (ha : a ≠ []) {s : List α} (h : s.length = a.length) :
    replaceAll a b s = if s = a then b else s := by
  split
  · rename_i he
    have hall := replaceAll_append (b := b) ha []
    rw [List.append_nil, replaceAll_nil, List.append_nil] at hall
    rw [he, hall]
  · rename_i hne
    cases s with
    | nil => exact replaceAll_nil
    | cons c s =>
      have hno : ¬ a <+: c :: s := fun hp => hne (hp.eq_of_length h.symm).symm
      have hs : s.length < a.length := by
        rw [← h, List.length_cons]
        omega
      rw [replaceAll_cons hno, replaceAll_of_length_lt hs]

end Steps

/-! ## Replacing around a token -/

/-- The token is not longer than the text, which holds neither its first nor its last
character. -/
structure Foreign (token a : List α) : Prop where
  ne_nil : token ≠ []
  length_le : token.length ≤ a.length
  head : ∀ c, token.head? = some c → c ∉ a
  last : ∀ c, token.getLast? = some c → c ∉ a

omit [DecidableEq α] in
theorem Foreign.ne_nil' {token a : List α} (h : Foreign token a) : a ≠ [] := by
  rintro rfl
  have hpos := List.length_pos_of_ne_nil h.ne_nil
  have hle := h.length_le
  rw [List.length_nil] at hle
  omega

theorem breakOn_append_self {token : List α} (hne : token ≠ []) (r : List α) :
    breakOn token (token ++ r) = some ([], r) := by
  obtain ⟨o, t, rfl⟩ := List.exists_cons_of_ne_nil hne
  rw [List.cons_append, breakOn, if_pos ⟨r, rfl⟩]
  simp

theorem breakOn_append_of_head {token a : List α} (h : Foreign token a) (r : List α) :
    breakOn token (a ++ r) = (breakOn token r).map fun p => (a ++ p.1, p.2) := by
  have hhead := h.head
  obtain ⟨o, t, ht⟩ := List.exists_cons_of_ne_nil h.ne_nil
  have ho : o ∉ a := hhead o (by rw [ht, List.head?_cons])
  clear h hhead
  induction a with
  | nil =>
    rw [List.nil_append]
    cases breakOn token r <;> rfl
  | cons c a ih =>
    have hoa : o ∉ a := fun h => ho (List.mem_cons_of_mem _ h)
    have hno : ¬ token <+: c :: (a ++ r) := fun hp => by
      rw [ht, List.cons_prefix_cons] at hp
      apply ho
      rw [hp.1]
      exact List.mem_cons_self
    rw [List.cons_append, breakOn, if_neg hno, ih hoa, Option.map_map]
    rfl

section Token

variable {token a b : List α} (ha : Foreign token a) (hb : Foreign token b)

include ha in
theorem replaceAll_suffix {u : List α} (hu : u <:+ token) (r : List α) :
    replaceAll a b (u ++ r) = u ++ replaceAll a b r := by
  induction u with
  | nil => rfl
  | cons c u ih =>
    have hno : ¬ a <+: c :: (u ++ r) := by
      intro hp
      have hle : (c :: u).length ≤ a.length := Nat.le_trans hu.length_le ha.length_le
      have hpre : c :: u <+: a :=
        List.prefix_of_prefix_length_le (List.prefix_append (c :: u) r) hp hle
      have hlast := (c :: u).getLast_mem (List.cons_ne_nil c u)
      apply ha.last _ _ (hpre.subset hlast)
      obtain ⟨t, rfl⟩ := hu
      rw [List.getLast?_append, List.getLast?_eq_some_getLast (List.cons_ne_nil c u)]
      rfl
    have hsuffix : u <:+ token := (List.suffix_cons c u).trans hu
    rw [List.cons_append, replaceAll_cons hno, ih hsuffix]
    rfl

include ha hb in
/-- A rest of the token at the head of a text with replacements was there before. -/
theorem suffix_prefix_replaceAll {u : List α} (hu : u <:+ token) :
    ∀ r : List α, u <+: replaceAll a b r → u <+: r := by
  induction u with
  | nil => intro r _; exact List.nil_prefix
  | cons c u ih =>
    intro r hp
    by_cases har : a <+: r
    · obtain ⟨r, rfl⟩ := har
      rw [replaceAll_append ha.ne_nil'] at hp
      have hle : (c :: u).length ≤ b.length := Nat.le_trans hu.length_le hb.length_le
      have hpre : c :: u <+: b := List.prefix_of_prefix_length_le hp (List.prefix_append b _) hle
      have hlast := (c :: u).getLast_mem (List.cons_ne_nil c u)
      refine absurd (hpre.subset hlast) (hb.last _ ?_)
      obtain ⟨t, rfl⟩ := hu
      rw [List.getLast?_append, List.getLast?_eq_some_getLast (List.cons_ne_nil c u)]
      rfl
    · cases r with
      | nil =>
        rw [replaceAll_nil] at hp
        exact hp
      | cons d r =>
        rw [replaceAll_cons har, List.cons_prefix_cons] at hp
        rw [List.cons_prefix_cons]
        exact ⟨hp.1, ih ((List.suffix_cons c u).trans hu) r hp.2⟩

include ha hb in
/-- **Replacing commutes with cutting** at a token foreign to both texts. -/
theorem breakOn_replaceAll : ∀ s : List α,
    breakOn token (replaceAll a b s) =
      (breakOn token s).map fun p => (replaceAll a b p.1, replaceAll a b p.2) := by
  suffices ∀ (n : Nat) (s : List α), s.length ≤ n →
      breakOn token (replaceAll a b s) =
        (breakOn token s).map fun p => (replaceAll a b p.1, replaceAll a b p.2) from
    fun s => this s.length s (Nat.le_refl _)
  intro n
  induction n with
  | zero =>
    intro s hs
    obtain rfl := List.length_eq_zero_iff.mp (Nat.le_zero.mp hs)
    rw [replaceAll_nil, breakOn, if_neg ha.ne_nil]
    rfl
  | succ n ih =>
    intro s hs
    by_cases has : a <+: s
    · obtain ⟨r, rfl⟩ := has
      have hr : r.length ≤ n := by
        have := List.length_pos_of_ne_nil ha.ne_nil'
        rw [List.length_append] at hs
        omega
      rw [replaceAll_append ha.ne_nil', breakOn_append_of_head hb, breakOn_append_of_head ha,
        ih r hr, Option.map_map, Option.map_map]
      congr 1
      funext p
      simp only [Function.comp, replaceAll_append ha.ne_nil']
    · cases s with
      | nil =>
        rw [replaceAll_nil, breakOn, if_neg ha.ne_nil]
        rfl
      | cons c s =>
        by_cases htok : token <+: c :: s
        · -- the token itself: nothing in it is replaced
          obtain ⟨r, hr⟩ := htok
          rw [← hr, replaceAll_suffix ha List.suffix_rfl, breakOn_append_self ha.ne_nil,
            breakOn_append_self ha.ne_nil, Option.map_some, replaceAll_nil]
        · have hno : ¬ token <+: c :: replaceAll a b s := by
            intro hp
            apply htok
            rw [← replaceAll_cons (b := b) has] at hp
            exact suffix_prefix_replaceAll ha hb List.suffix_rfl _ hp
          rw [List.length_cons] at hs
          rw [replaceAll_cons has, breakOn, if_neg hno, breakOn, if_neg htok, ih s (by omega),
            Option.map_map, Option.map_map]
          cases hbr : breakOn token s with
          | none => rfl
          | some p =>
            have hpre : c :: p.1 <+: c :: s := by
              rw [breakOn_eq_some (l := p.1) (r := p.2) hbr, List.append_assoc]
              exact List.prefix_append (c :: p.1) _
            have hnop : ¬ a <+: c :: p.1 := fun hp => has (hp.trans hpre)
            simp only [Option.map_some, Function.comp, replaceAll_cons hnop]

end Token

end GB28181.Base
