import GB28181.Base.CString

/-!
# Bytes in memory

A piece of memory is the list of its bytes; a 32-bit `int` is kept as four of them, the least one
first.

* `int32Value_bytes` — an integer that was written is read again;
* `int32Value_append` — its value depends on the first four bytes only;
* `overwrite_length`, `overwrite_getElem?_of_lt`, `overwrite_getElem?_of_ge`, `overwrite_append` —
  what a copy into a buffer changes.
-/

set_option autoImplicit false

namespace GB28181.Base

/-- The four bytes of an `int`. -/
def int32Bytes (n : Int) : CStr :=
  let m := (n % 4294967296).toNat
  [UInt8.ofNat m, UInt8.ofNat (m / 256), UInt8.ofNat (m / 65536), UInt8.ofNat (m / 16777216)]

/-- The `int` that the first four bytes are; a caller checks that there are four. -/
def int32Value : CStr → Int
  | b0 :: b1 :: b2 :: b3 :: _ =>
    let m := b0.toNat + 256 * b1.toNat + 65536 * b2.toNat + 16777216 * b3.toNat
    if m < 2147483648 then m else m - 4294967296
  | _ => 0

/-- Memory that nothing has been written to. -/
def uninitialised (junk : Nat → UInt8) (n : Nat) : CStr := (List.range n).map junk

/-- `memcpy(&dst[i], src, n)` where `dst` has room. -/
def overwrite (dst : CStr) (i : Nat) (src : CStr) : CStr :=
  dst.take i ++ src ++ dst.drop (i + src.length)

@[simp] theorem int32Bytes_length (n : Int) : (int32Bytes n).length = 4 := rfl

theorem int32Value_append {b : CStr} (h : 4 ≤ b.length) (c : CStr) :
    int32Value (b ++ c) = int32Value b := by
  match b, h with
  | _ :: _ :: _ :: _ :: _, _ => rfl

/-- **What was written is read again.** -/
theorem int32Value_bytes {n : Int} (hlo : -2147483648 ≤ n) (hhi : n ≤ 2147483647) (c : CStr) :
    int32Value (int32Bytes n ++ c) = n := by
  have hpos : 0 ≤ n % 4294967296 := Int.emod_nonneg n (by omega)
  rw [int32Value_append (Nat.le_of_eq (int32Bytes_length n).symm)]
  unfold int32Bytes int32Value
  dsimp only
  simp only [UInt8.toNat_ofNat']
  split <;> omega

/-! ### Copies -/

theorem uninitialised_length (junk : Nat → UInt8) (n : Nat) :
    (uninitialised junk n).length = n := by
  rw [uninitialised, List.length_map, List.length_range]

theorem uninitialised_getElem? {junk : Nat → UInt8} {n j : Nat} (h : j < n) :
    (uninitialised junk n)[j]? = some (junk j) := by
  rw [uninitialised, List.getElem?_map, List.getElem?_range h]
  rfl

theorem overwrite_length {dst src : CStr} {i : Nat} (h : i + src.length ≤ dst.length) :
    (overwrite dst i src).length = dst.length := by
  simp only [overwrite, List.length_append, List.length_take, List.length_drop]
  omega

theorem overwrite_getElem?_of_ge {dst src : CStr} {i j : Nat} (hi : i ≤ dst.length)
    (hj : i + src.length ≤ j) : (overwrite dst i src)[j]? = dst[j]? := by
  have hlen : (dst.take i ++ src).length = i + src.length := by
    rw [List.length_append, List.length_take, Nat.min_eq_left hi]
  rw [overwrite, List.getElem?_append_right (by omega), List.getElem?_drop, hlen]
  congr 1
  omega

theorem overwrite_getElem?_of_lt {dst src : CStr} {i j : Nat} (hi : i ≤ dst.length) (hij : i ≤ j)
    (hj : j < i + src.length) : (overwrite dst i src)[j]? = src[j - i]? := by
  have hlen : (dst.take i).length = i := by rw [List.length_take, Nat.min_eq_left hi]
  rw [overwrite, List.getElem?_append_left (by rw [List.length_append]; omega),
    List.getElem?_append_right (by omega), hlen]

theorem overwrite_zero (dst src : CStr) : overwrite dst 0 src = src ++ dst.drop src.length := by
  simp [overwrite]

theorem int32Value_overwrite {dst src : CStr} {i : Nat} (h4 : 4 ≤ i) (hi : i ≤ dst.length) :
    int32Value (overwrite dst i src) = int32Value dst := by
  have hlen : 4 ≤ (dst.take i).length := by rw [List.length_take]; omega
  calc int32Value (overwrite dst i src)
      = int32Value (dst.take i) := by rw [overwrite, List.append_assoc, int32Value_append hlen]
    _ = int32Value (dst.take i ++ dst.drop i) := (int32Value_append hlen _).symm
    _ = int32Value dst := by rw [List.take_append_drop]

theorem overwrite_append (head rest src : CStr) :
    overwrite (head ++ rest) head.length src = head ++ src ++ rest.drop src.length := by
  rw [overwrite, List.take_left, List.drop_append, Nat.add_sub_cancel_left,
    List.drop_of_length_le (by omega), List.nil_append]

end GB28181.Base
