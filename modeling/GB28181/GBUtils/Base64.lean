import GB28181.Base.CString

/-!
# Base64 (`GBUtils/Algorithm/base64.cpp`)

`GetB64Index`, `Base64Decode` and `BASE64Cryptor::Decode`.  The index arithmetic is that of the
32-bit `int` the code computes in, so a character outside the alphabet contributes the bits of
`-1`.  `Decode` works in a local array of 260 bytes: `none` is a write behind that array.

* `base64DecodeBytes_length_le` — three bytes at most for every four characters begun.
-/

set_option autoImplicit false

namespace GB28181.GBUtils

open GB28181.Base

def getB64Index (ch : UInt8) : BitVec 32 :=
  if 0x41 ≤ ch ∧ ch ≤ 0x5a then .ofNat 32 (ch.toNat - 0x41)
  else if 0x61 ≤ ch ∧ ch ≤ 0x7a then .ofNat 32 (ch.toNat - 0x61 + 26)
  else if 0x30 ≤ ch ∧ ch ≤ 0x39 then .ofNat 32 (ch.toNat - 0x30 + 52)
  else if ch = 0x2b then 62
  else if ch = 0x2f then 63
  else -1

/-- `b0` of a group: all bits of the first index, the upper two of the second. -/
def decodeB0 (c0 c1 : UInt8) : UInt8 :=
  (getB64Index c0 <<< 2 ||| (getB64Index c1 <<< 2).sshiftRight 6).toNat.toUInt8

def decodeB1 (c1 c2 : UInt8) : UInt8 :=
  (getB64Index c1 <<< 4 ||| (getB64Index c2 <<< 2).sshiftRight 4).toNat.toUInt8

def decodeB2 (c2 c3 : UInt8) : UInt8 :=
  (getB64Index c2 <<< 6 ||| (getB64Index c3 <<< 2).sshiftRight 2).toNat.toUInt8

/-- The last group of one to four characters, read from a zeroed word. -/
def decodeRest (src : CStr) : CStr :=
  let c1 := src.getD 1 0
  let c2 := src.getD 2 0
  let c3 := src.getD 3 0
  decodeB0 (src.getD 0 0) c1 ::
    ((if c1 ≠ 0x3d ∧ c2 ≠ 0x3d then [decodeB1 c1 c2] else []) ++
     (if c2 ≠ 0x3d ∧ c3 ≠ 0x3d then [decodeB2 c2 c3] else []))

/-- The bytes `Base64Decode` writes before the terminator. -/
def base64DecodeBytes : CStr → CStr
  | c0 :: c1 :: c2 :: c3 :: c4 :: src =>
    decodeB0 c0 c1 :: decodeB1 c1 c2 :: decodeB2 c2 c3 :: base64DecodeBytes (c4 :: src)
  | [] => []
  | src => decodeRest src

/-- `Base64Decode` on a terminated text; a `src_len` of 0 stands for the length of the text. -/
def base64Decode (base64code : CStr) (src_len : Nat) : CStr :=
  base64DecodeBytes (if src_len = 0 then cStr base64code else base64code.take src_len)

/-- `BASE64Cryptor::Decode`. -/
def decode (src_bytes : CStr) (src_len : Nat) : Option CStr :=
  let written := base64Decode src_bytes src_len
  if written.length + 1 ≤ 260 then some (cStr written) else none

example : decode (str "YTE6Yg==") 8 = some (str "a1:b") := by decide

theorem decodeRest_length_le (src : CStr) : (decodeRest src).length ≤ 3 := by
  simp only [decodeRest, List.length_cons, List.length_append]
  split <;> split <;> simp

theorem base64DecodeBytes_length_le : ∀ src : CStr,
    (base64DecodeBytes src).length ≤ 3 * ((src.length + 3) / 4)
  | c0 :: c1 :: c2 :: c3 :: c4 :: src => by
    have := base64DecodeBytes_length_le (c4 :: src)
    simp only [base64DecodeBytes, List.length_cons] at this ⊢
    omega
  | [] => by simp [base64DecodeBytes]
  | [c0] => by simpa [base64DecodeBytes] using decodeRest_length_le [c0]
  | [c0, c1] => by simpa [base64DecodeBytes] using decodeRest_length_le [c0, c1]
  | [c0, c1, c2] => by simpa [base64DecodeBytes] using decodeRest_length_le [c0, c1, c2]
  | [c0, c1, c2, c3] => by simpa [base64DecodeBytes] using decodeRest_length_le [c0, c1, c2, c3]

end GB28181.GBUtils
