import Mathlib.Data.List.Basic

/-!
# Hashing block by block

A message is cut into blocks of one size, and each block changes the value kept; what is left over
waits for more of the message.

* `run_append`, `rest_append` — it makes no difference where a message is cut into pieces;
* `Kept.append` — the rule for a hash that is handed one piece after the other.
-/

set_option autoImplicit false

namespace GB28181.Base

/-- The size of a block, and what a block does to the value kept. -/
structure Compression (σ α : Type) where
  size : Nat
  size_pos : 0 < size
  step : σ → List α → σ

namespace Compression

variable {σ α : Type} (C : Compression σ α)

/-- The first `k` blocks of a message. -/
def blocks : Nat → σ → List α → σ
  | 0, s, _ => s
  | k + 1, s, msg => blocks k (C.step s (msg.take C.size)) (msg.drop C.size)

def run (s : σ) (msg : List α) : σ := C.blocks (msg.length / C.size) s msg

def rest (msg : List α) : List α := msg.drop (C.size * (msg.length / C.size))

theorem length_rest (msg : List α) : (C.rest msg).length = msg.length % C.size := by
  rw [rest, List.length_drop, Nat.mod_eq_sub_mul_div]

theorem run_of_lt {msg : List α} (h : msg.length < C.size) (s : σ) : C.run s msg = s := by
  rw [run, Nat.div_eq_of_lt h]
  rfl

theorem rest_of_lt {msg : List α} (h : msg.length < C.size) : C.rest msg = msg := by
  rw [rest, Nat.div_eq_of_lt h, Nat.mul_zero, List.drop_zero]

/-- A message with a whole block has one block more than what follows it. -/
theorem div_of_le {msg : List α} (h : C.size ≤ msg.length) :
    msg.length / C.size = (msg.drop C.size).length / C.size + 1 := by
  rw [List.length_drop, Nat.div_eq_sub_div C.size_pos h]

theorem run_of_le {msg : List α} (h : C.size ≤ msg.length) (s : σ) :
    C.run s msg = C.run (C.step s (msg.take C.size)) (msg.drop C.size) := by
  rw [run, C.div_of_le h]
  rfl

theorem rest_of_le {msg : List α} (h : C.size ≤ msg.length) :
    C.rest msg = C.rest (msg.drop C.size) := by
  rw [rest, C.div_of_le h, rest, List.drop_drop, Nat.mul_succ, Nat.add_comm]

theorem run_block {b : List α} (h : b.length = C.size) (s : σ) (msg : List α) :
    C.run s (b ++ msg) = C.run (C.step s b) msg := by
  rw [C.run_of_le (by rw [List.length_append]; omega), ← h, List.take_left, List.drop_left]

theorem rest_block {b : List α} (h : b.length = C.size) (msg : List α) :
    C.rest (b ++ msg) = C.rest msg := by
  rw [C.rest_of_le (by rw [List.length_append]; omega), ← h, List.drop_left]

/-- **What comes behind continues from what is kept.** -/
theorem run_append (s : σ) (a b : List α) :
    C.run s (a ++ b) = C.run (C.run s a) (C.rest a ++ b) := by
  by_cases hlt : a.length < C.size
  · rw [C.run_of_lt hlt, C.rest_of_lt hlt]
  · have hle : C.size ≤ a.length := Nat.le_of_not_lt hlt
    have hpos := C.size_pos
    rw [C.run_of_le hle, C.rest_of_le hle, C.run_of_le (by rw [List.length_append]; omega),
      List.take_append_of_le_length hle, List.drop_append_of_le_length hle]
    exact run_append _ (a.drop C.size) b
termination_by a.length
decreasing_by rw [List.length_drop]; omega

theorem rest_append (a b : List α) : C.rest (a ++ b) = C.rest (C.rest a ++ b) := by
  by_cases hlt : a.length < C.size
  · rw [C.rest_of_lt hlt]
  · have hle : C.size ≤ a.length := Nat.le_of_not_lt hlt
    have hpos := C.size_pos
    rw [C.rest_of_le hle, C.rest_of_le (by rw [List.length_append]; omega),
      List.drop_append_of_le_length hle]
    exact rest_append (a.drop C.size) b
termination_by a.length
decreasing_by rw [List.length_drop]; omega

/-- What a hash that starts at `s₀` keeps when `msg` has been handed to it. -/
structure Kept (s₀ : σ) (msg : List α) (s : σ) (buffered : List α) : Prop where
  value : s = C.run s₀ msg
  leftover : buffered = C.rest msg

variable {C}

theorem Kept.nil (s₀ : σ) : C.Kept s₀ [] s₀ [] := by
  have hlt : ([] : List α).length < C.size := C.size_pos
  exact ⟨(C.run_of_lt hlt s₀).symm, (C.rest_of_lt hlt).symm⟩

/-- **One piece more.** -/
theorem Kept.append {s₀ s : σ} {msg buffered : List α} (h : C.Kept s₀ msg s buffered)
    (piece : List α) :
    C.Kept s₀ (msg ++ piece) (C.run s (buffered ++ piece)) (C.rest (buffered ++ piece)) where
  value := by rw [h.value, h.leftover, C.run_append s₀ msg piece]
  leftover := by rw [h.leftover, C.rest_append msg piece]

theorem Kept.length {s₀ s : σ} {msg buffered : List α} (h : C.Kept s₀ msg s buffered) :
    buffered.length = msg.length % C.size := by
  rw [h.leftover, C.length_rest]

end Compression

end GB28181.Base
