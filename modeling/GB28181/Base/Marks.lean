import GB28181.Base.CString
import GB28181.Base.Token

/-!
# Texts cut at their brackets

A text whose pieces each begin with an opening bracket, and the search for a mark in it.

* `breakOn_skip`, `breakOn_passes` — a mark is not found before the first bracket, nor in pieces
  that do not begin with it;
* `Part` — a piece, or an element with its two marks; `breakOn_opening`, `breakOn_closing` — **the
  marks that are found are those of the first element of the name**;
* `breakOn_eq_none` — without such an element none is found.
-/

set_option autoImplicit false

namespace GB28181.Base.Marks

open GB28181.Base

/-! ## Pieces -/

def joined (pieces : List CStr) : CStr := pieces.flatMap (0x3c :: ·)

@[simp] theorem joined_nil : joined [] = [] := rfl

theorem joined_cons (s : CStr) (pieces : List CStr) :
    joined (s :: pieces) = 0x3c :: (s ++ joined pieces) := rfl

@[simp] theorem joined_append (l r : List CStr) : joined (l ++ r) = joined l ++ joined r :=
  List.flatMap_append

/-- A mark that begins with a bracket is not found before the first one. -/
theorem breakOn_skip {m pre : CStr} (hpre : 0x3c ∉ pre) (t : CStr) :
    breakOn (0x3c :: m) (pre ++ t) = (breakOn (0x3c :: m) t).map fun p => (pre ++ p.1, p.2) := by
  induction pre with
  | nil => simp
  | cons c pre ih =>
    rw [List.mem_cons, not_or] at hpre
    have hno : ¬ 0x3c :: m <+: c :: (pre ++ t) := by
      intro h
      exact hpre.1 (List.cons_prefix_cons.mp h).1
    rw [List.cons_append, breakOn, if_neg hno, ih hpre.2, Option.map_map]
    rfl

theorem prefix_piece {m s : CStr} (hm : 0x3c ∉ m) (pieces : List CStr) :
    m <+: s ++ joined pieces ↔ m <+: s := by
  constructor
  · intro h
    cases pieces with
    | nil => simpa using h
    | cons s' pieces => exact prefix_append_cons hm h
  · intro h
    exact h.trans (List.prefix_append _ _)

theorem breakOn_piece {m s : CStr} (hm : 0x3c ∉ m) (hs : 0x3c ∉ s) (hno : ¬ m <+: s)
    (pieces : List CStr) : breakOn (0x3c :: m) (joined (s :: pieces)) =
      (breakOn (0x3c :: m) (joined pieces)).map fun p => (joined [s] ++ p.1, p.2) := by
  have hhead : ¬ 0x3c :: m <+: 0x3c :: (s ++ joined pieces) := by
    intro h
    exact hno ((prefix_piece hm pieces).mp (List.cons_prefix_cons.mp h).2)
  rw [joined_cons, breakOn, if_neg hhead, breakOn_skip hs, Option.map_map]
  congr 1
  funext p
  simp [joined_cons]

theorem breakOn_head (m s : CStr) (pieces : List CStr) :
    breakOn (0x3c :: m) (joined ((m ++ s) :: pieces)) = some ([], s ++ joined pieces) := by
  have hhead : 0x3c :: m <+: 0x3c :: (m ++ s ++ joined pieces) := by
    rw [List.append_assoc]
    exact List.prefix_append (0x3c :: m) _
  rw [joined_cons, breakOn, if_pos hhead, List.length_cons, List.drop_succ_cons,
    List.append_assoc, List.drop_left]

/-! ## Elements -/

/-- A piece of a text, or an element: both its marks, its value, and what stands behind it. -/
inductive Part where
  | piece (s : CStr)
  | element (name value gap : CStr)

namespace Part

def pieces : Part → List CStr
  | piece s => [s]
  | element name value gap => [name ++ [0x3e] ++ value, 0x2f :: name ++ [0x3e] ++ gap]

/-- The value of an element of the name. -/
def value? (name : CStr) : Part → Option CStr
  | piece _ => none
  | element n value _ => if n = name then some value else none

/-- No piece of the part holds a bracket or begins with the mark. -/
def Passes (m : CStr) (p : Part) : Prop := ∀ s ∈ p.pieces, 0x3c ∉ s ∧ ¬ m <+: s

instance (m : CStr) (p : Part) : Decidable (p.Passes m) :=
  inferInstanceAs (Decidable (∀ s ∈ p.pieces, _))

end Part

def textOf (parts : List Part) : CStr := joined (parts.flatMap Part.pieces)

@[simp] theorem textOf_nil : textOf [] = [] := rfl

@[simp] theorem textOf_append (l r : List Part) : textOf (l ++ r) = textOf l ++ textOf r := by
  rw [textOf, List.flatMap_append, joined_append]
  rfl

theorem textOf_cons (p : Part) (parts : List Part) :
    textOf (p :: parts) = joined p.pieces ++ textOf parts := by
  rw [textOf, List.flatMap_cons, joined_append]
  rfl

def IsName (name : CStr) : Prop := 0x3c ∉ name ∧ 0x3e ∉ name ∧ 0x2f ∉ name

instance (name : CStr) : Decidable (IsName name) := inferInstanceAs (Decidable (_ ∧ _ ∧ _))

/-- A text begins with a name and its bracket only if that is the name it begins with. -/
theorem name_eq_of_startsWith {m name rest : CStr} (hm : 0x3e ∉ m) (hname : 0x3e ∉ name)
    (h : m ++ [0x3e] <+: name ++ [0x3e] ++ rest) : m = name := by
  obtain ⟨t, ht⟩ := h
  rw [List.append_assoc, List.append_assoc, List.singleton_append, List.singleton_append] at ht
  have hcut := congrArg (List.takeWhile (· ≠ 0x3e)) ht
  have hplain : ∀ {l : CStr}, 0x3e ∉ l → ∀ c ∈ l, decide (c ≠ 0x3e) = true := by
    intro l hl c hc
    simp only [decide_eq_true_eq]
    rintro rfl
    exact hl hc
  rwa [List.takeWhile_append_of_pos (hplain hm), List.takeWhile_append_of_pos (hplain hname),
    List.takeWhile_cons_of_neg (by simp), List.takeWhile_cons_of_neg (by simp), List.append_nil,
    List.append_nil] at hcut

theorem closing_not_startsWith {m name rest : CStr} (hname : 0x2f ∉ name) :
    ¬ 0x2f :: m <+: name ++ [0x3e] ++ rest := by
  intro h
  cases name with
  | nil => exact absurd (List.cons_prefix_cons.mp h).1 (by decide)
  | cons c name =>
    have heq := (List.cons_prefix_cons.mp h).1
    exact hname (heq ▸ List.mem_cons_self)

theorem not_prefix_closing {m rest : CStr} (hm : 0x2f ∉ m) :
    ¬ m ++ [0x3e] <+: 0x2f :: rest := by
  intro h
  cases m with
  | nil => exact absurd (List.cons_prefix_cons.mp h).1 (by decide)
  | cons c m =>
    have heq := (List.cons_prefix_cons.mp h).1
    exact hm (heq ▸ List.mem_cons_self)

theorem passes_element {m name value gap : CStr} (hm : IsName m) (hname : IsName name)
    (hvalue : 0x3c ∉ value) (hgap : 0x3c ∉ gap) (hne : name ≠ m) :
    (Part.element name value gap).Passes (m ++ [0x3e]) ∧
      (Part.element name value gap).Passes (0x2f :: m ++ [0x3e]) := by
  have hopening : 0x3c ∉ name ++ [0x3e] ++ value := by
    simp [hname.1, hvalue]
  have hclosing : 0x3c ∉ 0x2f :: name ++ [0x3e] ++ gap := by
    simp [hname.1, hgap]
  constructor
  · intro s hs
    rcases List.mem_cons.mp hs with rfl | hs
    · exact ⟨hopening, fun h => hne (name_eq_of_startsWith hm.2.1 hname.2.1 h).symm⟩
    · rw [List.mem_singleton.mp hs]
      exact ⟨hclosing, not_prefix_closing hm.2.2⟩
  · intro s hs
    rcases List.mem_cons.mp hs with rfl | hs
    · exact ⟨hopening, closing_not_startsWith hname.2.2⟩
    · rw [List.mem_singleton.mp hs]
      refine ⟨hclosing, fun h => hne ?_⟩
      exact (name_eq_of_startsWith hm.2.1 hname.2.1 (List.cons_prefix_cons.mp h).2).symm

/-- **A mark is not found in parts that pass it.** -/
theorem breakOn_passes {m : CStr} (hm : 0x3c ∉ m) {l : List Part} (hl : ∀ p ∈ l, p.Passes m)
    (r : List Part) : breakOn (0x3c :: m) (textOf (l ++ r)) =
      (breakOn (0x3c :: m) (textOf r)).map fun p => (textOf l ++ p.1, p.2) := by
  have hpieces : ∀ (pieces rest : List CStr), (∀ s ∈ pieces, 0x3c ∉ s ∧ ¬ m <+: s) →
      breakOn (0x3c :: m) (joined (pieces ++ rest)) =
        (breakOn (0x3c :: m) (joined rest)).map fun p => (joined pieces ++ p.1, p.2) := by
    intro pieces rest h
    induction pieces with
    | nil => simp
    | cons s pieces ih =>
      obtain ⟨hs, hpieces⟩ := List.forall_mem_cons.mp h
      rw [List.cons_append, breakOn_piece hm hs.1 hs.2, ih hpieces, Option.map_map]
      congr 1
      funext p
      simp [joined_cons]
  rw [textOf, List.flatMap_append, hpieces]
  · rfl
  · intro s hs
    obtain ⟨p, hp, hsp⟩ := List.mem_flatMap.mp hs
    exact hl p hp s hsp

theorem breakOn_eq_none {m : CStr} (hm : 0x3c ∉ m) {l : List Part} (hl : ∀ p ∈ l, p.Passes m) :
    breakOn (0x3c :: m) (textOf l) = none := by
  have h := breakOn_passes hm hl []
  rwa [List.append_nil] at h

section

variable {name value : CStr} {l : List Part}

theorem breakOn_opening (hname : IsName name) (hl : ∀ p ∈ l, p.Passes (name ++ [0x3e]))
    (value gap : CStr) (r : List Part) :
    breakOn (0x3c :: (name ++ [0x3e])) (textOf (l ++ .element name value gap :: r)) =
      some (textOf l, value ++ joined [0x2f :: name ++ [0x3e] ++ gap] ++ textOf r) := by
  have hm : 0x3c ∉ name ++ [0x3e] := by simp [hname.1]
  have hhead : breakOn (0x3c :: (name ++ [0x3e])) (textOf (.element name value gap :: r)) =
      some ([], value ++ joined [0x2f :: name ++ [0x3e] ++ gap] ++ textOf r) := by
    rw [textOf_cons, Part.pieces]
    have h := breakOn_head (name ++ [0x3e]) value
      ((0x2f :: name ++ [0x3e] ++ gap) :: r.flatMap Part.pieces)
    simpa [joined_cons, textOf] using h
  rw [breakOn_passes hm hl, hhead]
  simp

theorem breakOn_closing (hname : IsName name) (hvalue : 0x3c ∉ value)
    (hl : ∀ p ∈ l, p.Passes (0x2f :: name ++ [0x3e])) (gap : CStr) (r : List Part) :
    breakOn (0x3c :: (0x2f :: name ++ [0x3e])) (textOf (l ++ .element name value gap :: r)) =
      some (textOf l ++ joined [name ++ [0x3e] ++ value], gap ++ textOf r) := by
  have hm : 0x3c ∉ 0x2f :: name ++ [0x3e] := by simp [hname.1]
  have hopening : 0x3c ∉ name ++ [0x3e] ++ value := by simp [hname.1, hvalue]
  have hhead : breakOn (0x3c :: (0x2f :: name ++ [0x3e]))
      (textOf (.element name value gap :: r)) =
        some (joined [name ++ [0x3e] ++ value], gap ++ textOf r) := by
    have hclosing := breakOn_head (0x2f :: name ++ [0x3e]) gap (r.flatMap Part.pieces)
    have hskip := breakOn_piece hm hopening (closing_not_startsWith hname.2.2)
      ((0x2f :: name ++ [0x3e] ++ gap) :: r.flatMap Part.pieces)
    rw [hclosing] at hskip
    refine hskip.trans ?_
    simp [textOf]
  rw [breakOn_passes hm hl, hhead]
  rfl

end

end GB28181.Base.Marks
