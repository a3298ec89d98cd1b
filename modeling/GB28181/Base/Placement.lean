import Mathlib.Algebra.BigOperators.Group.List.Basic
import Mathlib.Algebra.GroupWithZero.Nat
import Mathlib.Data.List.GetD
import GB28181.Base.CString

/-!
# Pieces of text copied into a buffer

A writer goes over a buffer with a cursor: it copies a piece to where the cursor stands and moves
the cursor on.  Some pieces are copied with one byte more than the cursor moves, and a piece can
be copied to the front of the buffer by mistake.

* `place` — the copies that are made of a list of pieces;
* `covered_place` — **which bytes these copies write**, when the pieces follow one another;
* `writes_place` — what is then in the buffer;
* `TextAt` — the zero-terminated text at the front of a buffer.
-/

set_option autoImplicit false

namespace GB28181.Base

/-- Bytes copied to a place in a buffer. -/
structure Copy where
  offset : Nat
  bytes : CStr

/-- The copy writes the byte at `i`. -/
def Copy.Covers (c : Copy) (i : Nat) : Prop := c.offset ≤ i ∧ i < c.offset + c.bytes.length

inductive Piece where
  /-- Copied at the cursor, which moves behind it. -/
  | text (bytes : CStr)
  /-- Copied at the cursor, which moves to the last of its bytes. -/
  | buf (bytes : CStr)
  /-- Copied to the front of the buffer; the cursor moves on as if it were not. -/
  | front (bytes : CStr)

def Piece.advance : Piece → Nat
  | .text bytes => bytes.length
  | .buf bytes => bytes.length - 1
  | .front bytes => bytes.length

def Piece.copy (cursor : Nat) : Piece → Copy
  | .text bytes => ⟨cursor, bytes⟩
  | .buf bytes => ⟨cursor, bytes⟩
  | .front bytes => ⟨0, bytes⟩

/-- The copies of the pieces, from where the cursor stands. -/
def place (cursor : Nat) : List Piece → List Copy
  | [] => []
  | p :: ps => p.copy cursor :: place (cursor + p.advance) ps

/-- How far the cursor moves over all pieces. -/
def advance (ps : List Piece) : Nat := (ps.map Piece.advance).sum

/-- The pieces that are copied if a condition holds. -/
def pieceIf (c : Prop) [Decidable c] (ps : List Piece) : List Piece := if c then ps else []

/-- The pieces follow one another: a byte copied too many is written over by the next piece. -/
def Laid : List Piece → Prop
  | [] => True
  | .text _ :: ps => Laid ps
  | .buf _ :: .text t :: ps => t ≠ [] ∧ Laid ps
  | .buf _ :: _ => False
  | .front _ :: _ => False

section place

variable {ps qs : List Piece} {cursor i n : Nat}

@[simp] theorem advance_nil : advance [] = 0 := rfl

@[simp] theorem advance_cons (p : Piece) (ps : List Piece) :
    advance (p :: ps) = p.advance + advance ps := by
  rw [advance, List.map_cons, List.sum_cons]
  rfl

@[simp] theorem advance_append (ps qs : List Piece) :
    advance (ps ++ qs) = advance ps + advance qs := by
  rw [advance, List.map_append, List.sum_append]
  rfl

theorem advance_pieceIf (c : Prop) [Decidable c] (ps : List Piece) :
    advance (pieceIf c ps) = if c then advance ps else 0 := by
  unfold pieceIf
  split <;> rfl

theorem advance_pieceIf_le (c : Prop) [Decidable c] (ps : List Piece) :
    advance (pieceIf c ps) ≤ advance ps := by
  rw [advance_pieceIf]
  split
  · exact Nat.le_refl _
  · exact Nat.zero_le _

theorem laid_append (hp : Laid ps) (hq : Laid qs) : Laid (ps ++ qs) := by
  fun_induction Laid ps with
  | case1 => exact hq
  | case2 _ ps ih => exact ih hp
  | case3 _ t ps ih => exact ⟨hp.1, ih hp.2⟩
  | case4 => exact hp.elim
  | case5 => exact hp.elim

theorem laid_pieceIf (c : Prop) [Decidable c] (h : Laid ps) : Laid (pieceIf c ps) := by
  unfold pieceIf
  split
  · exact h
  · trivial

/-- **The bytes that are written are those the cursor moves over.** -/
theorem covered_place (h : Laid ps) :
    (∃ c ∈ place cursor ps, c.Covers i) ↔ cursor ≤ i ∧ i < cursor + advance ps := by
  fun_induction Laid ps generalizing cursor with
  | case1 =>
    simp only [place, advance_nil, List.not_mem_nil, false_and, exists_false, false_iff]
    omega
  | case2 t ps ih =>
    simp only [place, List.mem_cons, exists_eq_or_imp, ih h, advance_cons]
    simp only [Piece.copy, Copy.Covers, Piece.advance]
    omega
  | case3 b t ps ih =>
    have hpos := List.length_pos_of_ne_nil h.1
    simp only [place, List.mem_cons, exists_eq_or_imp, ih h.2, advance_cons]
    simp only [Piece.copy, Copy.Covers, Piece.advance]
    omega
  | case4 => exact h.elim
  | case5 => exact h.elim

/-- The copies stay among the first `n` bytes exactly when the cursor does. -/
theorem within_iff (h : Laid ps) :
    (∀ c ∈ place 0 ps, ∀ i, c.Covers i → i < n) ↔ advance ps ≤ n := by
  have hall : (∀ c ∈ place 0 ps, ∀ i, c.Covers i → i < n) ↔
      ∀ i, (∃ c ∈ place 0 ps, c.Covers i) → i < n :=
    ⟨fun hw i ⟨c, hc, hi⟩ => hw c hc i hi, fun hw c hc i hi => hw i ⟨c, hc, hi⟩⟩
  rw [hall]
  simp only [covered_place h]
  constructor
  · intro hw
    by_contra hlt
    have := hw (advance ps - 1) (by omega)
    omega
  · intro hle i hi
    omega

end place

/-! ## What is in the buffer -/

abbrev Buffer := Nat → UInt8

def Copy.write (m : Buffer) (c : Copy) : Buffer :=
  fun i =>
    if c.offset ≤ i ∧ i < c.offset + c.bytes.length then c.bytes.getD (i - c.offset) 0 else m i

def writes (m : Buffer) (cs : List Copy) : Buffer := cs.foldl Copy.write m

def Piece.bytes : Piece → CStr
  | .text bytes => bytes
  | .buf bytes => bytes.dropLast
  | .front _ => []

def bytes (ps : List Piece) : CStr := ps.flatMap Piece.bytes

/-- The bytes from `i` on are those of `s`. -/
def Reads (m : Buffer) (i : Nat) (s : CStr) : Prop := ∀ k, k < s.length → m (i + k) = s.getD k 0

/-- The zero-terminated text at the front. -/
def TextAt (m : Buffer) (s : CStr) : Prop := Reads m 0 (s ++ [0]) ∧ 0 ∉ s

section reads

variable {m m' : Buffer} {ps : List Piece} {s t : CStr} {i cursor : Nat}

theorem bytes_append (ps qs : List Piece) : bytes (ps ++ qs) = bytes ps ++ bytes qs :=
  List.flatMap_append

theorem bytes_pieceIf (c : Prop) [Decidable c] (ps : List Piece) :
    bytes (pieceIf c ps) = if c then bytes ps else [] := by
  unfold pieceIf
  split <;> rfl

theorem length_bytes (h : Laid ps) : (bytes ps).length = advance ps := by
  fun_induction Laid ps with
  | case1 => rfl
  | case2 t ps ih =>
    show (t ++ bytes ps).length = _
    rw [List.length_append, ih h, advance_cons]
    rfl
  | case3 b t ps ih =>
    show (b.dropLast ++ (t ++ bytes ps)).length = _
    rw [List.length_append, List.length_append, ih h.2, List.length_dropLast, advance_cons,
      advance_cons]
    rfl
  | case4 => exact h.elim
  | case5 => exact h.elim

theorem reads_nil : Reads m i [] := by
  intro k hk
  cases hk

theorem reads_append : Reads m i (s ++ t) ↔ Reads m i s ∧ Reads m (i + s.length) t := by
  constructor
  · intro h
    refine ⟨fun k hk => ?_, fun k hk => ?_⟩
    · have hlt : k < (s ++ t).length := by
        rw [List.length_append]
        omega
      rw [h k hlt, List.getD_append _ _ _ _ hk]
    · have hlt : s.length + k < (s ++ t).length := by
        rw [List.length_append]
        omega
      have hat := h (s.length + k) hlt
      rw [← Nat.add_assoc, List.getD_append_right _ _ _ _ (Nat.le_add_right _ _),
        Nat.add_sub_cancel_left] at hat
      exact hat
  · rintro ⟨hs, ht⟩ k hk
    rw [List.length_append] at hk
    by_cases hlt : k < s.length
    · rw [List.getD_append _ _ _ _ hlt]
      exact hs k hlt
    · have hge : s.length ≤ k := Nat.le_of_not_lt hlt
      have hat := ht (k - s.length) (by omega)
      rw [List.getD_append_right _ _ _ _ hge, ← hat]
      congr 1
      omega

theorem Reads.congr (h : Reads m i s) (heq : ∀ k, i ≤ k → k < i + s.length → m' k = m k) :
    Reads m' i s := by
  intro k hk
  rw [heq (i + k) (Nat.le_add_right _ _) (by omega)]
  exact h k hk

theorem reads_write (m : Buffer) (c : Copy) : Reads (c.write m) c.offset c.bytes := by
  intro k hk
  unfold Copy.write
  rw [if_pos (by omega), Nat.add_sub_cancel_left]

theorem write_of_not_covers {c : Copy} (h : ¬ c.Covers i) : c.write m i = m i := if_neg h

theorem writes_place_of_lt (h : Laid ps) (hi : i < cursor) :
    writes m (place cursor ps) i = m i := by
  have hnone : ¬ ∃ c ∈ place cursor ps, c.Covers i := by
    rw [covered_place h]
    omega
  have hall : ∀ cs : List Copy, (∀ c ∈ cs, ¬ c.Covers i) → ∀ m : Buffer, writes m cs i = m i := by
    intro cs
    induction cs with
    | nil => exact fun _ _ => rfl
    | cons c cs ih =>
      intro hcs m
      obtain ⟨hc, hrest⟩ := List.forall_mem_cons.mp hcs
      exact (ih hrest _).trans (write_of_not_covers hc)
  exact hall _ (fun c hc hcov => hnone ⟨c, hc, hcov⟩) m

/-- **The bytes of the pieces are in the buffer** when all of them were copied. -/
theorem writes_place (h : Laid ps) (m : Buffer) :
    Reads (writes m (place cursor ps)) cursor (bytes ps) := by
  fun_induction Laid ps generalizing cursor m with
  | case1 => exact reads_nil
  | case2 t ps ih =>
    show Reads (writes (Copy.write m ⟨cursor, t⟩) (place (cursor + t.length) ps)) cursor
      (t ++ bytes ps)
    rw [reads_append]
    refine ⟨?_, ih h _⟩
    refine (reads_write m ⟨cursor, t⟩).congr fun k _ hk => ?_
    exact writes_place_of_lt h hk
  | case3 b t ps ih =>
    -- the last byte of the buffer is written over by the text behind it
    have hlaid : Laid (.text t :: ps) := h.2
    show Reads (writes (Copy.write m ⟨cursor, b⟩) (place (cursor + (b.length - 1)) (.text t :: ps)))
      cursor (b.dropLast ++ bytes (.text t :: ps))
    rw [reads_append, List.length_dropLast]
    constructor
    · have hfirst : Reads (Copy.write m ⟨cursor, b⟩) cursor b.dropLast := by
        intro k hk
        rw [List.length_dropLast] at hk
        have hat : Copy.write m ⟨cursor, b⟩ (cursor + k) = b.getD k 0 :=
          reads_write m ⟨cursor, b⟩ k (by show k < b.length; omega)
        rw [hat, List.getD_eq_getElem?_getD, List.getD_eq_getElem?_getD, List.getElem?_dropLast,
          if_pos hk]
      refine hfirst.congr fun k _ hk => ?_
      rw [List.length_dropLast] at hk
      exact writes_place_of_lt hlaid hk
    · show Reads (writes (Copy.write (Copy.write m ⟨cursor, b⟩) ⟨cursor + (b.length - 1), t⟩)
        (place (cursor + (b.length - 1) + t.length) ps)) _ (t ++ bytes ps)
      rw [reads_append]
      refine ⟨?_, ih h.2 _⟩
      refine (reads_write (Copy.write m ⟨cursor, b⟩) ⟨cursor + (b.length - 1), t⟩).congr
        fun k _ hk => ?_
      exact writes_place_of_lt h.2 hk
  | case4 => exact h.elim
  | case5 => exact h.elim

theorem reads_singleton {c : UInt8} : Reads m i [c] ↔ m i = c := by
  constructor
  · intro h
    exact h 0 (Nat.zero_lt_one)
  · intro h k hk
    obtain rfl : k = 0 := by
      rw [List.length_singleton] at hk
      omega
    exact h

theorem TextAt.ne_zero (h : TextAt m s) (hi : i < s.length) : m i ≠ 0 := by
  have hread := (reads_append.mp h.1).1 i hi
  rw [Nat.zero_add, List.getD_eq_getElem _ _ hi] at hread
  rw [hread]
  intro hzero
  exact h.2 (hzero ▸ List.getElem_mem hi)

end reads

end GB28181.Base
