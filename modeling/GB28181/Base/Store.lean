import GB28181.Base.Memory

/-!
# Writes that stay inside

`store` is a write to a buffer; `none` is one that leaves it.

* `storeEnd` — a write with a terminator behind it: `storeEnd_eq`;
* `store_bind_storeEnd` — a write that the next one continues, over what the first one left behind
  its end.
-/

set_option autoImplicit false

namespace GB28181.Base

def store (dst : CStr) (i : Nat) (src : CStr) : Option CStr :=
  if i + src.length ≤ dst.length then some (overwrite dst i src) else none

theorem store_eq_some {dst src : CStr} {i : Nat} (h : i + src.length ≤ dst.length) :
    store dst i src = some (overwrite dst i src) := if_pos h

theorem store_eq_none {dst src : CStr} {i : Nat} (h : ¬ i + src.length ≤ dst.length) :
    store dst i src = none := if_neg h

theorem overwrite_overwrite {dst a b c : CStr} {i : Nat} (hi : i + (a ++ b).length ≤ dst.length)
    (hle : b.length ≤ c.length) :
    overwrite (overwrite dst i (a ++ b)) (i + a.length) c = overwrite dst i (a ++ c) := by
  have hlen : (dst.take i ++ a).length = i + a.length := by
    rw [List.length_append, List.length_take]
    rw [List.length_append] at hi
    omega
  have hsplit : overwrite dst i (a ++ b) =
      (dst.take i ++ a) ++ (b ++ dst.drop (i + (a.length + b.length))) := by
    rw [overwrite, List.length_append]
    simp
  have hdrop : (b ++ dst.drop (i + (a.length + b.length))).drop c.length =
      dst.drop (i + (a.length + c.length)) := by
    rw [List.drop_append, List.drop_of_length_le hle, List.nil_append, List.drop_drop]
    congr 1
    omega
  rw [hsplit, ← hlen, overwrite_append, hdrop, overwrite, List.length_append]
  simp

/-- A write and a terminator behind it; where the terminator stands. -/
def storeEnd (dst : CStr) (i : Nat) (src : CStr) : Option (CStr × Nat) := do
  let dst ← store dst i src
  let dst ← store dst (i + src.length) [0]
  return (dst, i + src.length)

theorem storeEnd_eq (dst : CStr) (i : Nat) (src : CStr) :
    storeEnd dst i src = if i + src.length + 1 ≤ dst.length then
      some (overwrite dst i (src ++ [0]), i + src.length) else none := by
  unfold storeEnd
  by_cases hsrc : i + src.length ≤ dst.length
  · have hlen : (overwrite dst i src).length = dst.length := overwrite_length hsrc
    rw [store_eq_some hsrc]
    show (store (overwrite dst i src) (i + src.length) [0]).bind _ = _
    by_cases hend : i + src.length + 1 ≤ dst.length
    · have happend : overwrite (overwrite dst i src) (i + src.length) [0] =
          overwrite dst i (src ++ [0]) := by
        have hover := @overwrite_overwrite dst src [] [0] i (by simpa using hsrc) (by simp)
        rwa [List.append_nil] at hover
      rw [store_eq_some (by rw [hlen]; exact hend), if_pos hend, happend]
      rfl
    · rw [store_eq_none (by rw [hlen]; exact hend), if_neg hend]
      rfl
  · rw [store_eq_none hsrc, if_neg (by omega)]
    rfl

/-- A write that the next one continues, over what the first one left behind its end. -/
theorem store_bind_storeEnd {dst a b c : CStr} {i : Nat} (hle : b.length ≤ c.length) :
    ((store dst i (a ++ b)).bind fun dst => storeEnd dst (i + a.length) c) =
      storeEnd dst i (a ++ c) := by
  rw [storeEnd_eq, List.length_append]
  by_cases hfirst : i + (a ++ b).length ≤ dst.length
  · rw [store_eq_some hfirst, Option.bind_some, storeEnd_eq, overwrite_length hfirst,
      overwrite_overwrite hfirst (by rw [List.length_append]; omega), Nat.add_assoc i,
      List.append_assoc]
  · rw [store_eq_none hfirst, if_neg]
    · rfl
    · rw [List.length_append] at hfirst
      omega

end GB28181.Base
