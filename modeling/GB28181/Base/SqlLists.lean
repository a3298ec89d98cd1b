import GB28181.Base.SqlLexer

/-!
# Lists between brackets

`parts` reads what follows an opening bracket: the pieces between the commas up to the bracket that
closes it, and the tokens after that one.  The commas and brackets of a piece in brackets of its own
belong to the piece.

* `Whole` — a piece that is read as one at some depth of brackets;
* `parts_comma`, `parts_close` — a whole piece before a comma, and before the bracket that closes.
-/

set_option autoImplicit false

namespace GB28181.Base.Sql

/-- The pieces up to the bracket that closes, and what follows it: `depth` brackets more are open,
and `cur` has been read of the piece. -/
def parts : Nat → List Token → List Token → Option (List (List Token) × List Token)
  | _, _, [] => none
  | depth, cur, t :: ts =>
    if t = .op 0x28 then parts (depth + 1) (cur ++ [t]) ts
    else if t = .op 0x29 then
      if depth = 0 then some ([cur], ts) else parts (depth - 1) (cur ++ [t]) ts
    else if t = .op 0x2c ∧ depth = 0 then
      (parts 0 [] ts).map fun r => (cur :: r.1, r.2)
    else parts depth (cur ++ [t]) ts

def Whole (depth : Nat) (item : List Token) : Prop :=
  ∀ cur rest, parts depth cur (item ++ rest) = parts depth (cur ++ item) rest

/-- A token that neither opens, closes nor separates. -/
def plainToken (t : Token) : Bool := t ≠ .op 0x28 && t ≠ .op 0x29 && t ≠ .op 0x2c

theorem Whole.nil (depth : Nat) : Whole depth [] := by
  intro cur rest
  rw [List.append_nil]
  rfl

theorem Whole.append {depth : Nat} {item item' : List Token} (h : Whole depth item)
    (h' : Whole depth item') : Whole depth (item ++ item') := by
  intro cur rest
  rw [List.append_assoc, h, h', List.append_assoc]

theorem whole_singleton {t : Token} (h : plainToken t = true) (depth : Nat) :
    Whole depth [t] := by
  unfold plainToken at h
  simp only [Bool.and_eq_true, decide_eq_true_eq] at h
  obtain ⟨⟨hopen, hclose⟩, hcomma⟩ := h
  intro cur rest
  rw [List.singleton_append, parts, if_neg hopen, if_neg hclose, if_neg (fun h => hcomma h.1)]

theorem whole_of_plain {item : List Token} (h : ∀ t ∈ item, plainToken t = true) (depth : Nat) :
    Whole depth item := by
  induction item with
  | nil => exact Whole.nil depth
  | cons t item ih =>
    obtain ⟨ht, hitem⟩ := List.forall_mem_cons.mp h
    exact (whole_singleton ht depth).append (ih hitem)

theorem whole_comma (depth : Nat) : Whole (depth + 1) [.op 0x2c] := by
  intro cur rest
  rw [List.singleton_append, parts, if_neg (by decide), if_neg (by decide),
    if_neg fun h => Nat.succ_ne_zero depth h.2]

theorem Whole.bracketed {depth : Nat} {item : List Token} (h : Whole (depth + 1) item) :
    Whole depth (.op 0x28 :: item ++ [.op 0x29]) := by
  intro cur rest
  rw [List.append_assoc, List.cons_append, parts, if_pos rfl, h, List.singleton_append, parts,
    if_neg (by decide), if_pos rfl, if_neg (Nat.succ_ne_zero depth), Nat.add_sub_cancel]
  simp only [List.append_assoc, List.cons_append, List.nil_append]

theorem parts_comma {item : List Token} (h : Whole 0 item) (rest : List Token) :
    parts 0 [] (item ++ .op 0x2c :: rest) = (parts 0 [] rest).map fun r => (item :: r.1, r.2) := by
  rw [h, List.nil_append, parts, if_neg (by decide), if_neg (by decide), if_pos ⟨rfl, rfl⟩]

theorem parts_close {item : List Token} (h : Whole 0 item) (rest : List Token) :
    parts 0 [] (item ++ .op 0x29 :: rest) = some ([item], rest) := by
  rw [h, List.nil_append, parts, if_neg (by decide), if_pos rfl, if_pos rfl]

end GB28181.Base.Sql
