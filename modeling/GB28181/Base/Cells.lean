import Mathlib.Logic.Function.Basic

/-!
# Values behind shared pointers

Copies of an object share what a pointer in it leads to.  `Cells` has the value at each address;
a pointer may be null.

* `Cells.alloc` — a value at a new address;
* `Cells.put` — a write through a pointer, none through the null pointer;
* `get_set`, `get_put` — what is read afterwards.
-/

set_option autoImplicit false

namespace GB28181.Base

/-- The values by their addresses; `next` is the next free one. -/
structure Cells (V : Type) where
  get : Nat → V
  next : Nat

namespace Cells

variable {V : Type} (h : Cells V) (p q : Nat) (v : V) (f : V → V)

def set : Cells V := { h with get := Function.update h.get p v }

def alloc : Nat × Cells V := (h.next, { get := Function.update h.get h.next v, next := h.next + 1 })

def modify : Cells V := h.set p (f (h.get p))

def put : Option Nat → V → Cells V
  | none, _ => h
  | some p, v => h.set p v

theorem get_set : (h.set p v).get q = if q = p then v else h.get q :=
  Function.update_apply h.get p v q

@[simp] theorem get_set_self : (h.set p v).get p = v := by rw [get_set, if_pos rfl]

@[simp] theorem get_modify_self : (h.modify p f).get p = f (h.get p) := get_set_self ..

theorem get_put (ptr : Option Nat) :
    (h.put ptr v).get q = if ptr = some q then v else h.get q := by
  cases ptr with
  | none => exact (if_neg nofun).symm
  | some p =>
    rw [put, get_set]
    simp only [Option.some.injEq, eq_comm]

end Cells

end GB28181.Base
