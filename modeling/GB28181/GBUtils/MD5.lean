import GB28181.Base.BlockHash
import GB28181.Base.Store
import GB28181.Base.Word32

/-!
# `MD5CryptoPrivoder` (`GBUtils/Algorithm/md5.cpp`)

A context takes a message in pieces of any length, transforms every block of 64 bytes and keeps the
bytes that no block is made of yet; `MD5Final` pads, appends the number of bits and writes the
state out.

* `md5Update_spec` — one call carries the invariant `Holds` from a message to the longer one;
* `md5Final_spec` — the digest of the message a context holds;
* `md5Pieces_eq` — **the digest of a message, however it is cut into pieces**.
-/

set_option autoImplicit false

namespace GB28181.GBUtils

open GB28181.Base

namespace MD5CryptoPrivoder

abbrev DWORD32 := BitVec 32

def S11 : Nat := 7
def S12 : Nat := 12
def S13 : Nat := 17
def S14 : Nat := 22
def S21 : Nat := 5
def S22 : Nat := 9
def S23 : Nat := 14
def S24 : Nat := 20
def S31 : Nat := 4
def S32 : Nat := 11
def S33 : Nat := 16
def S34 : Nat := 23
def S41 : Nat := 6
def S42 : Nat := 10
def S43 : Nat := 15
def S44 : Nat := 21

def PADDING : CStr := 0x80 :: List.replicate 63 0

def F (x y z : DWORD32) : DWORD32 := (x &&& y) ||| (~~~x &&& z)

def G (x y z : DWORD32) : DWORD32 := (x &&& z) ||| (y &&& ~~~z)

def H (x y z : DWORD32) : DWORD32 := x ^^^ y ^^^ z

def I (x y z : DWORD32) : DWORD32 := y ^^^ (x ||| ~~~z)

def rotateLeft (x : DWORD32) (n : Nat) : DWORD32 := (x <<< n) ||| (x >>> (32 - n))

/-- The common body of `FF`, `GG`, `HH` and `II`; `a` afterwards. -/
def operation (f : DWORD32 → DWORD32 → DWORD32 → DWORD32) (a b c d x : DWORD32) (s : Nat)
    (ac : DWORD32) : DWORD32 := rotateLeft (a + (f b c d + x + ac)) s + b

def FF := operation F

def GG := operation G

def HH := operation H

def II := operation I

/-- `state[4]`. -/
structure State where
  s0 : DWORD32
  s1 : DWORD32
  s2 : DWORD32
  s3 : DWORD32
  deriving DecidableEq

structure MD5_CTX where
  state : State
  count0 : DWORD32
  count1 : DWORD32
  buffer : CStr

/-- `Encode` of two and of four words. -/
def encode (input : List DWORD32) : CStr := input.flatMap wordBytes

/-- `Decode`; the word `output[i]`. -/
def decode (input : CStr) (i : Nat) : DWORD32 :=
  let byte (j : Nat) : DWORD32 := .ofNat 32 (input.getD j 0).toNat
  packWord (byte (4 * i)) (byte (4 * i + 1)) (byte (4 * i + 2)) (byte (4 * i + 3))

/-- `MD5CryptoPrivoder::MD5Transform`. -/
def md5Transform (state : State) (block : CStr) : State :=
  let a := state.s0
  let b := state.s1
  let c := state.s2
  let d := state.s3
  let x := decode block
  -- round 1
  let a := FF a b c d (x 0) S11 0xd76aa478
  let d := FF d a b c (x 1) S12 0xe8c7b756
  let c := FF c d a b (x 2) S13 0x242070db
  let b := FF b c d a (x 3) S14 0xc1bdceee
  let a := FF a b c d (x 4) S11 0xf57c0faf
  let d := FF d a b c (x 5) S12 0x4787c62a
  let c := FF c d a b (x 6) S13 0xa8304613
  let b := FF b c d a (x 7) S14 0xfd469501
  let a := FF a b c d (x 8) S11 0x698098d8
  let d := FF d a b c (x 9) S12 0x8b44f7af
  let c := FF c d a b (x 10) S13 0xffff5bb1
  let b := FF b c d a (x 11) S14 0x895cd7be
  let a := FF a b c d (x 12) S11 0x6b901122
  let d := FF d a b c (x 13) S12 0xfd987193
  let c := FF c d a b (x 14) S13 0xa679438e
  let b := FF b c d a (x 15) S14 0x49b40821
  -- round 2
  let a := GG a b c d (x 1) S21 0xf61e2562
  let d := GG d a b c (x 6) S22 0xc040b340
  let c := GG c d a b (x 11) S23 0x265e5a51
  let b := GG b c d a (x 0) S24 0xe9b6c7aa
  let a := GG a b c d (x 5) S21 0xd62f105d
  let d := GG d a b c (x 10) S22 0x2441453
  let c := GG c d a b (x 15) S23 0xd8a1e681
  let b := GG b c d a (x 4) S24 0xe7d3fbc8
  let a := GG a b c d (x 9) S21 0x21e1cde6
  let d := GG d a b c (x 14) S22 0xc33707d6
  let c := GG c d a b (x 3) S23 0xf4d50d87
  let b := GG b c d a (x 8) S24 0x455a14ed
  let a := GG a b c d (x 13) S21 0xa9e3e905
  let d := GG d a b c (x 2) S22 0xfcefa3f8
  let c := GG c d a b (x 7) S23 0x676f02d9
  let b := GG b c d a (x 12) S24 0x8d2a4c8a
  -- round 3
  let a := HH a b c d (x 5) S31 0xfffa3942
  let d := HH d a b c (x 8) S32 0x8771f681
  let c := HH c d a b (x 11) S33 0x6d9d6122
  let b := HH b c d a (x 14) S34 0xfde5380c
  let a := HH a b c d (x 1) S31 0xa4beea44
  let d := HH d a b c (x 4) S32 0x4bdecfa9
  let c := HH c d a b (x 7) S33 0xf6bb4b60
  let b := HH b c d a (x 10) S34 0xbebfbc70
  let a := HH a b c d (x 13) S31 0x289b7ec6
  let d := HH d a b c (x 0) S32 0xeaa127fa
  let c := HH c d a b (x 3) S33 0xd4ef3085
  let b := HH b c d a (x 6) S34 0x4881d05
  let a := HH a b c d (x 9) S31 0xd9d4d039
  let d := HH d a b c (x 12) S32 0xe6db99e5
  let c := HH c d a b (x 15) S33 0x1fa27cf8
  let b := HH b c d a (x 2) S34 0xc4ac5665
  -- round 4
  let a := II a b c d (x 0) S41 0xf4292244
  let d := II d a b c (x 7) S42 0x432aff97
  let c := II c d a b (x 14) S43 0xab9423a7
  let b := II b c d a (x 5) S44 0xfc93a039
  let a := II a b c d (x 12) S41 0x655b59c3
  let d := II d a b c (x 3) S42 0x8f0ccc92
  let c := II c d a b (x 10) S43 0xffeff47d
  let b := II b c d a (x 1) S44 0x85845dd1
  let a := II a b c d (x 8) S41 0x6fa87e4f
  let d := II d a b c (x 15) S42 0xfe2ce6e0
  let c := II c d a b (x 6) S43 0xa3014314
  let b := II b c d a (x 13) S44 0x4e0811a1
  let a := II a b c d (x 4) S41 0xf7537e82
  let d := II d a b c (x 11) S42 0xbd3af235
  let c := II c d a b (x 2) S43 0x2ad7d2bb
  let b := II b c d a (x 9) S44 0xeb86d391
  ⟨state.s0 + a, state.s1 + b, state.s2 + c, state.s3 + d⟩

/-- The magic initialization constants. -/
def State.magic : State := ⟨0x67452301, 0xefcdab89, 0x98badcfe, 0x10325476⟩

/-- `MD5CryptoPrivoder::MD5Init`; the buffer keeps what is in it. -/
def md5Init (context : MD5_CTX) : MD5_CTX :=
  { context with count0 := 0, count1 := 0, state := State.magic }

/-- `n` bytes from the index `i` on; `none` is a read past the end. -/
def fetch (input : CStr) (i n : Nat) : Option CStr :=
  if i + n ≤ input.length then some ((input.drop i).take n) else none

/-- `for (i = partLen; i + 63 < inputLen; i += 64)`; the state and `i` afterwards.  The sum wraps
around.  Without a read past the end the loop has no more turns than there are bytes. -/
def transformLoop (input : CStr) (inputLen : DWORD32) : Nat → State → DWORD32 →
    Option (State × DWORD32)
  | 0, _, _ => none
  | turns + 1, state, i =>
    if i + 63 < inputLen then do
      let block ← fetch input i.toNat 64
      transformLoop input inputLen turns (md5Transform state block) (i + 64)
    else some (state, i)

/-- `MD5CryptoPrivoder::MD5Update`; `none` is a read or a write past the end of an array. -/
def md5Update (context : MD5_CTX) (input : CStr) (inputLen : DWORD32) : Option MD5_CTX := do
  let index := context.count0 >>> 3 &&& 0x3F
  let count0 := context.count0 + inputLen <<< 3
  let count1 := if count0 < inputLen <<< 3 then context.count1 + 1 else context.count1
  let count1 := count1 + inputLen >>> 29
  let partLen := 64 - index
  if partLen ≤ inputLen then
    let buffer ← store context.buffer index.toNat (← fetch input 0 partLen.toNat)
    let state := md5Transform context.state buffer
    let (state, i) ← transformLoop input inputLen (inputLen.toNat + 1) state partLen
    let buffer ← store buffer 0 (← fetch input i.toNat (inputLen - i).toNat)
    return { state, count0, count1, buffer }
  else
    let buffer ← store context.buffer index.toNat (← fetch input 0 inputLen.toNat)
    return { state := context.state, count0, count1, buffer }

/-- `MD5CryptoPrivoder::MD5Final`; the digest, and the context, which is all zero bytes. -/
def md5Final (context : MD5_CTX) : Option (CStr × MD5_CTX) := do
  let bits := encode [context.count0, context.count1]
  let index := context.count0 >>> 3 &&& 0x3f
  let padLen := if index < 56 then 56 - index else 120 - index
  let context ← md5Update context PADDING padLen
  let context ← md5Update context bits 8
  let digest := encode [context.state.s0, context.state.s1, context.state.s2, context.state.s3]
  return (digest, ⟨⟨0, 0, 0, 0⟩, 0, 0, List.replicate 64 0⟩)

def md5Pieces (context : MD5_CTX) (pieces : List CStr) : Option CStr := do
  let context ←
    pieces.foldlM (fun context piece => md5Update context piece (.ofNat 32 piece.length))
      (md5Init context)
  let (digest, _) ← md5Final context
  return digest

/-! ## The digest of a message -/

/-- `MD5Transform` over a whole message. -/
def compression : Compression State UInt8 := ⟨64, by decide, md5Transform⟩

/-- The number of bits of `n` bytes, modulo `2 ^ 64`, the least byte first. -/
def lengthBits (n : Nat) : CStr := (List.range 8).map fun k => UInt8.ofNat (8 * n / 256 ^ k)

/-- A message, a bit that is set, zero bits up to eight bytes before the end of a block, and the
number of bits of the message. -/
def padded (msg : CStr) : CStr :=
  msg ++ ([0x80] ++ List.replicate ((119 - msg.length % 64) % 64) 0) ++ lengthBits msg.length

def md5 (msg : CStr) : CStr :=
  let s := compression.run State.magic (padded msg)
  encode [s.s0, s.s1, s.s2, s.s3]

theorem encode_length (input : List DWORD32) : (encode input).length = 4 * input.length := by
  induction input with
  | nil => rfl
  | cons w input ih =>
    rw [encode, List.flatMap_cons, List.length_append, List.length_cons, ← encode, ih]
    exact (by omega : 4 + 4 * input.length = 4 * (input.length + 1))

theorem length_md5 (msg : CStr) : (md5 msg).length = 16 := encode_length _

theorem lengthBits_length (n : Nat) : (lengthBits n).length = 8 := by
  rw [lengthBits, List.length_map, List.length_range]

/-! ### Words and counts -/

theorem index_eq (count0 : DWORD32) : (count0 >>> 3 &&& 0x3F).toNat = count0.toNat / 8 % 64 := by
  rw [BitVec.toNat_and, BitVec.toNat_ushiftRight, Nat.shiftRight_eq_div_pow]
  exact Nat.and_two_pow_sub_one_eq_mod _ 6

/-- The number of bits in the two words. -/
def bitCount (count0 count1 : DWORD32) : Nat := count0.toNat + 2 ^ 32 * count1.toNat

/-- The two words afterwards hold the bits that were added, with the carry. -/
theorem bitCount_add (count0 count1 inputLen : DWORD32) :
    bitCount (count0 + inputLen <<< 3)
        ((if count0 + inputLen <<< 3 < inputLen <<< 3 then count1 + 1 else count1) +
          inputLen >>> 29) =
      (bitCount count0 count1 + 8 * inputLen.toNat) % 2 ^ 64 := by
  have h0 := count0.isLt
  have h1 := count1.isLt
  have hl := inputLen.isLt
  have hlow : (inputLen <<< 3).toNat = 8 * inputLen.toNat % 2 ^ 32 := by
    rw [BitVec.toNat_shiftLeft, Nat.shiftLeft_eq, Nat.mul_comm]
  have hhigh : (inputLen >>> 29).toNat = inputLen.toNat / 2 ^ 29 := by
    rw [BitVec.toNat_ushiftRight, Nat.shiftRight_eq_div_pow]
  have hone : (1 : DWORD32).toNat = 1 := rfl
  simp only [bitCount, BitVec.lt_def, BitVec.toNat_add, hlow, hhigh]
  split
  · rw [BitVec.toNat_add, hone]
    omega
  · omega

/-! ### One piece more -/

section

variable {msg piece behind : CStr} {context : MD5_CTX} {inputLen : DWORD32}

theorem fetch_eq {i n : Nat} (h : i + n ≤ piece.length) :
    fetch (piece ++ behind) i n = some ((piece.drop i).take n) := by
  rw [fetch, if_pos (by rw [List.length_append]; omega),
    List.drop_append_of_le_length (by omega),
    List.take_append_of_le_length (by rw [List.length_drop]; omega)]

theorem transformLoop_eq (hlen : inputLen.toNat = piece.length)
    (hwrap : piece.length + 63 < 2 ^ 32) {turns : Nat} {i : DWORD32} (hi : i.toNat ≤ piece.length)
    (hturns : piece.length - i.toNat < turns) (state : State) :
    ∃ j : DWORD32, transformLoop (piece ++ behind) inputLen turns state i =
        some (compression.run state (piece.drop i.toNat), j) ∧
      j.toNat ≤ piece.length ∧ piece.drop j.toNat = compression.rest (piece.drop i.toNat) := by
  induction turns generalizing i state with
  | zero => omega
  | succ turns ih =>
    have hsize : compression.size = 64 := rfl
    have hdrop : (piece.drop i.toNat).length = piece.length - i.toNat := List.length_drop
    have hsum : (i + 63).toNat = i.toNat + 63 := by
      rw [BitVec.toNat_add]
      exact Nat.mod_eq_of_lt (Nat.lt_of_le_of_lt (Nat.add_le_add_right hi 63) hwrap)
    rw [transformLoop]
    by_cases hmore : i + 63 < inputLen
    · have hle : i.toNat + 64 ≤ piece.length := by
        rw [BitVec.lt_def, hsum, hlen] at hmore
        exact hmore
      have hnext : (i + 64).toNat = i.toNat + 64 := by
        rw [BitVec.toNat_add]
        exact Nat.mod_eq_of_lt (Nat.lt_of_le_of_lt hle (by omega))
      have hblock : compression.size ≤ (piece.drop i.toNat).length := by omega
      have hturn := @ih (i + 64) (by omega) (by omega)
        (md5Transform state ((piece.drop i.toNat).take 64))
      rw [hnext] at hturn
      rw [if_pos hmore, fetch_eq hle, Option.bind_eq_bind, Option.bind_some,
        compression.run_of_le hblock, compression.rest_of_le hblock, hsize, List.drop_drop]
      exact hturn
    · have hlt : (piece.drop i.toNat).length < compression.size := by
        rw [BitVec.lt_def, hsum, hlen] at hmore
        omega
      refine ⟨i, ?_, hi, (compression.rest_of_lt hlt).symm⟩
      rw [if_neg hmore, compression.run_of_lt hlt]

/-- What a context holds of the message it has been handed. -/
structure Holds (msg : CStr) (context : MD5_CTX) : Prop where
  kept : compression.Kept State.magic msg context.state (context.buffer.take (msg.length % 64))
  buffer_length : context.buffer.length = 64
  count : bitCount context.count0 context.count1 = 8 * msg.length % 2 ^ 64

theorem Holds.init (h : context.buffer.length = 64) : Holds [] (md5Init context) where
  kept := Compression.Kept.nil State.magic
  buffer_length := h
  count := rfl

theorem Holds.of_rest {rest buffer : CStr} {state : State} {count0 count1 : DWORD32}
    (hkept : compression.Kept State.magic msg state rest)
    (htake : buffer.take rest.length = rest) (hlen : buffer.length = 64)
    (hcount : bitCount count0 count1 = 8 * msg.length % 2 ^ 64) :
    Holds msg ⟨state, count0, count1, buffer⟩ where
  kept := by
    have hrest : rest.length = msg.length % 64 := hkept.length
    rw [← hrest]
    exact htake.symm ▸ hkept
  buffer_length := hlen
  count := hcount

theorem Holds.index (h : Holds msg context) :
    (context.count0 >>> 3 &&& 0x3F).toNat = msg.length % 64 := by
  have hcount := h.count
  have h0 := context.count0.isLt
  rw [bitCount] at hcount
  rw [index_eq]
  omega

theorem Holds.partLen (h : Holds msg context) :
    ((64 : DWORD32) - (context.count0 >>> 3 &&& 0x3F)).toNat = 64 - msg.length % 64 := by
  have hindex := h.index
  have hmod : msg.length % 64 < 64 := Nat.mod_lt _ (by decide)
  rw [BitVec.toNat_sub_of_le, hindex]
  · rfl
  · rw [BitVec.le_def, hindex]
    exact Nat.le_of_lt hmod

theorem Holds.bitCount_update (h : Holds msg context) (hlen : inputLen.toNat = piece.length) :
    bitCount (context.count0 + inputLen <<< 3)
        ((if context.count0 + inputLen <<< 3 < inputLen <<< 3 then context.count1 + 1
          else context.count1) + inputLen >>> 29) =
      8 * (msg ++ piece).length % 2 ^ 64 := by
  rw [bitCount_add, h.count, hlen, List.length_append, Nat.mod_add_mod, Nat.mul_add]

theorem overwrite_kept {buffer : CStr} {k : Nat} (h : k + piece.length ≤ buffer.length) :
    (overwrite buffer k piece).take (k + piece.length) = buffer.take k ++ piece := by
  have hlen : (buffer.take k ++ piece).length = k + piece.length := by
    rw [List.length_append, List.length_take]
    omega
  rw [overwrite, ← hlen, List.take_left]

theorem md5Update_short (h : Holds msg context) (hlen : inputLen.toNat = piece.length)
    (hshort : msg.length % 64 + piece.length < 64) :
    ∃ context', md5Update context (piece ++ behind) inputLen = some context' ∧
      Holds (msg ++ piece) context' := by
  have hbuffer := h.buffer_length
  have hroom : msg.length % 64 + piece.length ≤ context.buffer.length := by omega
  have hbelow : ¬ (64 : DWORD32) - (context.count0 >>> 3 &&& 0x3F) ≤ inputLen := by
    rw [BitVec.le_def, h.partLen]
    omega
  have hlt : (context.buffer.take (msg.length % 64) ++ piece).length < compression.size := by
    rw [List.length_append, List.length_take]
    exact (by omega : min (msg.length % 64) context.buffer.length + piece.length < 64)
  have hkept := h.kept.append piece
  rw [compression.run_of_lt hlt, compression.rest_of_lt hlt] at hkept
  have htake : (overwrite context.buffer (msg.length % 64) piece).take
      (context.buffer.take (msg.length % 64) ++ piece).length =
      context.buffer.take (msg.length % 64) ++ piece := by
    rw [← overwrite_kept hroom, List.length_take, overwrite_length hroom, Nat.min_eq_left hroom]
  refine ⟨_, ?_, Holds.of_rest hkept htake ((overwrite_length hroom).trans hbuffer)
    (h.bitCount_update hlen)⟩
  rw [md5Update, if_neg hbelow, fetch_eq (by omega), h.index, hlen, List.drop_zero,
    List.take_length, Option.bind_eq_bind, Option.bind_some, store_eq_some hroom]
  rfl

theorem md5Update_full (h : Holds msg context) (hlen : inputLen.toNat = piece.length)
    (hwrap : piece.length + 63 < 2 ^ 32) (hfull : 64 ≤ msg.length % 64 + piece.length) :
    ∃ context', md5Update context (piece ++ behind) inputLen = some context' ∧
      Holds (msg ++ piece) context' := by
  have hbuffer := h.buffer_length
  have hmod : msg.length % 64 < 64 := Nat.mod_lt _ (by decide)
  have hpart := h.partLen
  have habove : (64 : DWORD32) - (context.count0 >>> 3 &&& 0x3F) ≤ inputLen := by
    rw [BitVec.le_def, hpart]
    omega
  -- the first block is made of what was kept and the head of the piece
  have hhead : (piece.take (64 - msg.length % 64)).length = 64 - msg.length % 64 := by
    rw [List.length_take]
    omega
  have hroom : msg.length % 64 + (piece.take (64 - msg.length % 64)).length ≤
      context.buffer.length := by
    omega
  have hblock : overwrite context.buffer (msg.length % 64) (piece.take (64 - msg.length % 64)) =
      context.buffer.take (msg.length % 64) ++ piece.take (64 - msg.length % 64) := by
    have hle : (overwrite context.buffer (msg.length % 64)
        (piece.take (64 - msg.length % 64))).length ≤
        msg.length % 64 + (piece.take (64 - msg.length % 64)).length := by
      rw [overwrite_length hroom]
      omega
    exact (List.take_of_length_le hle).symm.trans (overwrite_kept hroom)
  have hblocklen : (context.buffer.take (msg.length % 64) ++
      piece.take (64 - msg.length % 64)).length = 64 := by
    rw [List.length_append, List.length_take, hhead]
    omega
  -- the loop takes the other blocks, and the rest goes to the front of the buffer
  obtain ⟨j, hloop, hj, hrest⟩ := @transformLoop_eq piece behind inputLen hlen hwrap
    (inputLen.toNat + 1) ((64 : DWORD32) - (context.count0 >>> 3 &&& 0x3F)) (by omega) (by omega)
    (md5Transform context.state (context.buffer.take (msg.length % 64) ++
      piece.take (64 - msg.length % 64)))
  rw [hpart] at hloop hrest
  have hkept := h.kept.append piece
  have hsplit : context.buffer.take (msg.length % 64) ++ piece =
      (context.buffer.take (msg.length % 64) ++ piece.take (64 - msg.length % 64)) ++
        piece.drop (64 - msg.length % 64) := by
    rw [List.append_assoc, List.take_append_drop]
  rw [hsplit, compression.run_block hblocklen, compression.rest_block hblocklen, ← hrest] at hkept
  have hback : (inputLen - j).toNat = (piece.drop j.toNat).length := by
    rw [BitVec.toNat_sub_of_le (by rw [BitVec.le_def]; omega), hlen, List.length_drop]
  have hshort : (piece.drop j.toNat).length < 64 := by
    rw [hkept.length]
    exact Nat.mod_lt _ (by decide)
  have hfront : 0 + (piece.drop j.toNat).length ≤ (context.buffer.take (msg.length % 64) ++
      piece.take (64 - msg.length % 64)).length := by
    omega
  have htake := overwrite_kept hfront
  rw [Nat.zero_add, List.take_zero, List.nil_append] at htake
  refine ⟨_, ?_, Holds.of_rest hkept htake ((overwrite_length hfront).trans hblocklen)
    (h.bitCount_update hlen)⟩
  rw [md5Update, if_pos habove, fetch_eq (by omega), hpart, h.index, List.drop_zero,
    Option.bind_eq_bind, Option.bind_some, store_eq_some hroom, hblock, Option.bind_eq_bind,
    Option.bind_some]
  dsimp only
  have hfetch : fetch (piece ++ behind) j.toNat (inputLen - j).toNat =
      some (piece.drop j.toNat) := by
    rw [fetch_eq (by rw [hback, List.length_drop]; omega), hback, List.take_length]
  rw [hloop, Option.bind_some]
  dsimp only
  rw [hfetch, Option.bind_some, store_eq_some hfront]
  rfl

/-- **One call.** -/
theorem md5Update_spec (h : Holds msg context) (hlen : inputLen.toNat = piece.length)
    (hwrap : piece.length + 63 < 2 ^ 32) :
    ∃ context', md5Update context (piece ++ behind) inputLen = some context' ∧
      Holds (msg ++ piece) context' := by
  by_cases hfull : 64 ≤ msg.length % 64 + piece.length
  · exact md5Update_full h hlen hwrap hfull
  · exact md5Update_short h hlen (Nat.lt_of_not_le hfull)

theorem encode_bitCount {count0 count1 : DWORD32} {n : Nat}
    (h : bitCount count0 count1 = 8 * n % 2 ^ 64) : encode [count0, count1] = lengthBits n := by
  have h0 := count0.isLt
  have h1 := count1.isLt
  rw [bitCount] at h
  have hbyte : ∀ {a b : Nat}, a % 256 = b % 256 → UInt8.ofNat a = UInt8.ofNat b := fun h =>
    UInt8.toNat_inj.mp (by rw [UInt8.toNat_ofNat', UInt8.toNat_ofNat']; exact h)
  have hbits : lengthBits n = [UInt8.ofNat (8 * n / 256 ^ 0), UInt8.ofNat (8 * n / 256 ^ 1),
      UInt8.ofNat (8 * n / 256 ^ 2), UInt8.ofNat (8 * n / 256 ^ 3), UInt8.ofNat (8 * n / 256 ^ 4),
      UInt8.ofNat (8 * n / 256 ^ 5), UInt8.ofNat (8 * n / 256 ^ 6),
      UInt8.ofNat (8 * n / 256 ^ 7)] := rfl
  simp only [encode, List.flatMap_cons, List.flatMap_nil, wordBytes, List.cons_append,
    List.nil_append, hbits, BitVec.toNat_ushiftRight, Nat.shiftRight_eq_div_pow, List.cons.injEq]
  exact ⟨hbyte (by omega), hbyte (by omega), hbyte (by omega), hbyte (by omega), hbyte (by omega),
    hbyte (by omega), hbyte (by omega), hbyte (by omega), trivial⟩

theorem Holds.padLen (h : Holds msg context) :
    (if context.count0 >>> 3 &&& 0x3f < 56 then (56 : DWORD32) - (context.count0 >>> 3 &&& 0x3f)
      else (120 : DWORD32) - (context.count0 >>> 3 &&& 0x3f)).toNat =
      (119 - msg.length % 64) % 64 + 1 := by
  have hindex := h.index
  have hmod : msg.length % 64 < 64 := Nat.mod_lt _ (by decide)
  have h56 : (56 : DWORD32).toNat = 56 := rfl
  have h120 : (120 : DWORD32).toNat = 120 := rfl
  split
  · rename_i hlt
    rw [BitVec.lt_def, hindex, h56] at hlt
    rw [BitVec.toNat_sub_of_le (by rw [BitVec.le_def]; omega), hindex, h56]
    omega
  · rename_i hge
    rw [BitVec.lt_def, hindex, h56] at hge
    rw [BitVec.toNat_sub_of_le (by rw [BitVec.le_def]; omega), hindex, h120]
    omega

/-- **The digest of the message a context holds**; nothing of it is left in the context. -/
theorem md5Final_spec (h : Holds msg context) :
    md5Final context = some (md5 msg, ⟨⟨0, 0, 0, 0⟩, 0, 0, List.replicate 64 0⟩) := by
  have hbits := encode_bitCount h.count
  have hzeros : (119 - msg.length % 64) % 64 < 64 := Nat.mod_lt _ (by decide)
  have hpadding : PADDING = ([0x80] ++ List.replicate ((119 - msg.length % 64) % 64) 0) ++
      List.replicate (63 - (119 - msg.length % 64) % 64) 0 := by
    rw [List.append_assoc, List.replicate_append_replicate,
      show (119 - msg.length % 64) % 64 + (63 - (119 - msg.length % 64) % 64) = 63 by omega]
    rfl
  have hpadLen : ([0x80] ++ List.replicate ((119 - msg.length % 64) % 64) 0 : CStr).length =
      (119 - msg.length % 64) % 64 + 1 := by
    rw [List.length_append, List.length_replicate, Nat.add_comm]
    rfl
  obtain ⟨mid, hmid, hmidHolds⟩ := md5Update_spec h (h.padLen.trans hpadLen.symm) (by omega)
  obtain ⟨last, hlast, hlastHolds⟩ := @md5Update_spec _ (lengthBits msg.length) [] _ 8 hmidHolds
    (lengthBits_length msg.length).symm (by rw [lengthBits_length]; decide)
  rw [List.append_nil] at hlast
  have hrun : last.state = compression.run State.magic (padded msg) := by
    rw [hlastHolds.kept.value, padded]
  rw [md5Final]
  dsimp only
  rw [hpadding, hmid, hbits, Option.bind_eq_bind, Option.bind_some, hlast]
  rw [md5, ← hrun]
  rfl

end

theorem foldlM_md5Update {pieces : List CStr} (hwrap : ∀ p ∈ pieces, p.length + 63 < 2 ^ 32)
    {msg : CStr} {context : MD5_CTX} (h : Holds msg context) :
    ∃ context', pieces.foldlM (fun context piece =>
        md5Update context piece (.ofNat 32 piece.length)) context = some context' ∧
      Holds (msg ++ pieces.flatten) context' := by
  induction pieces generalizing msg context with
  | nil => exact ⟨context, rfl, by rwa [List.flatten_nil, List.append_nil]⟩
  | cons piece pieces ih =>
    obtain ⟨hpiece, hrest⟩ := List.forall_mem_cons.mp hwrap
    have hlen : (BitVec.ofNat 32 piece.length).toNat = piece.length := by
      rw [BitVec.toNat_ofNat]
      exact Nat.mod_eq_of_lt (by omega)
    obtain ⟨context', hstep, hholds⟩ := @md5Update_spec _ piece [] _ _ h hlen hpiece
    rw [List.append_nil] at hstep
    obtain ⟨last, hlast, hlastHolds⟩ := ih hrest hholds
    refine ⟨last, ?_, ?_⟩
    · rw [List.foldlM_cons, hstep]
      exact hlast
    · rw [List.flatten_cons, ← List.append_assoc]
      exact hlastHolds

/-- **The digest of a message, however it is cut into pieces.**  A piece must be short enough for
`i + 63` not to wrap around. -/
theorem md5Pieces_eq (context : MD5_CTX) (hbuffer : context.buffer.length = 64)
    (pieces : List CStr) (hwrap : ∀ p ∈ pieces, p.length + 63 < 2 ^ 32) :
    md5Pieces context pieces = some (md5 pieces.flatten) := by
  obtain ⟨last, hlast, hholds⟩ := foldlM_md5Update hwrap (Holds.init hbuffer)
  rw [md5Pieces, hlast, Option.bind_eq_bind, Option.bind_some, md5Final_spec hholds]
  rfl

/-- The digest of `abc` in three pieces. -/
theorem md5Pieces_abc : md5Pieces ⟨State.magic, 0, 0, List.replicate 64 0⟩
    [str "a", [], str "bc"] = some (md5 (str "abc")) := by
  have hsmall : ∀ p ∈ [str "a", [], str "bc"], p.length + 63 < 2 ^ 32 := by decide
  exact md5Pieces_eq _ (List.length_replicate ..) [str "a", [], str "bc"] hsmall

example : (md5 (str "abc")).flatMap fmt02x = str "900150983cd24fb0d6963f7d28e17f72" := by
  decide +kernel

end MD5CryptoPrivoder

end GB28181.GBUtils
