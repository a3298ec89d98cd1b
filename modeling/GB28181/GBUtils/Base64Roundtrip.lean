import GB28181.GBUtils.Base64
import GB28181.GBUtils.Base64Encode

/-!
# Base64 there and back (`GBUtils/Algorithm/base64.cpp`)

`Base64Decode` on memory.  Its loop writes words of four bytes and goes on three bytes further, so
the fourth byte of a word is overwritten by the next one; the last one to four characters are
treated apart.  `BASE64Cryptor::Encode` and `Decode` work in local arrays of 260 bytes and hand
them back as terminated texts.

* `base64DecodeInto_eq` — the buffer holds the bytes of `base64Decode` and a terminator **exactly
  when it has room for both**;
* `base64DecodeBytes_base64Text` — the bytes of a Base64 text are those it was made of;
* `base64_roundtrip` — both on buffers that are large enough;
* `encode_isSome_iff`, `decode_isSome_iff` — which texts the local arrays have room for;
* `roundtrip_iff` — what a terminated text brings back.
-/

set_option autoImplicit false

namespace GB28181.GBUtils

open GB28181.Base

/-! ## Decoding on memory -/

/-- `static_cast<char>` of a byte of the word. -/
def wordChar (k : Nat) (ulTmp : BitVec 32) : UInt8 := UInt8.ofNat (byteOfWord k ulTmp).toNat

/-- A byte in an `int`. -/
def byteInt (b : UInt8) : BitVec 32 := b.toBitVec.setWidth 32

/-- The loop over `i < src_len - 4`; it leaves one to four characters. -/
def decodeLoop (buf : CStr) (pbuf : Nat) : CStr → Option (CStr × Nat × CStr)
  | c0 :: c1 :: c2 :: c3 :: c4 :: src => do
    let ulTmp := word c0 c1 c2 c3
    let b0 := decodeB0 (wordChar 0 ulTmp) (wordChar 1 ulTmp)
    let b1 := decodeB1 (wordChar 1 ulTmp) (wordChar 2 ulTmp)
    let b2 := decodeB2 (wordChar 2 ulTmp) (wordChar 3 ulTmp)
    let buf ← store buf pbuf (wordBytes (packWord (byteInt b0) (byteInt b1) (byteInt b2) 0))
    decodeLoop buf (pbuf + 3) (c4 :: src)
  | src => some (buf, pbuf, src)

/-- `Base64Decode`; the buffer afterwards and the number of bytes. -/
def base64DecodeInto (buf base64code : CStr) (src_len : Nat) : Option (CStr × Nat) := do
  let (buf, pbuf, rest) ← decodeLoop buf 0 (sourceBytes base64code src_len)
  storeEnd buf pbuf (if rest.isEmpty then [] else decodeRest rest)

theorem wordChar_word (c0 c1 c2 c3 : UInt8) :
    wordChar 0 (word c0 c1 c2 c3) = c0 ∧ wordChar 1 (word c0 c1 c2 c3) = c1 ∧
      wordChar 2 (word c0 c1 c2 c3) = c2 ∧ wordChar 3 (word c0 c1 c2 c3) = c3 := by
  obtain ⟨h0, h1, h2, h3⟩ := toNat_byteOfWord_word c0 c1 c2 c3
  simp only [wordChar, h0, h1, h2, h3, UInt8.ofNat_toNat, and_self]

theorem toNat_byteInt (b : UInt8) : (byteInt b).toNat = b.toNat := by
  rw [byteInt, BitVec.toNat_setWidth]
  exact Nat.mod_eq_of_lt (by have := b.toNat_lt; omega)

theorem wordBytes_bytes (b0 b1 b2 : UInt8) :
    wordBytes (packWord (byteInt b0) (byteInt b1) (byteInt b2) 0) = [b0, b1, b2] ++ [0] := by
  have hlt : ∀ b, (byteInt b).toNat < 256 := fun b => by
    rw [toNat_byteInt]
    exact b.toNat_lt
  rw [wordBytes_pack (hlt _) (hlt _) (hlt _) (by decide)]
  simp [toNat_byteInt]

theorem base64DecodeBytes_ne_nil : ∀ {src : CStr}, src ≠ [] → base64DecodeBytes src ≠ []
  | [], h => absurd rfl h
  | [_], _ => by simp [base64DecodeBytes, decodeRest]
  | [_, _], _ => by simp [base64DecodeBytes, decodeRest]
  | [_, _, _], _ => by simp [base64DecodeBytes, decodeRest]
  | [_, _, _, _], _ => by simp [base64DecodeBytes, decodeRest]
  | _ :: _ :: _ :: _ :: _ :: _, _ => by simp [base64DecodeBytes]

/-- The loop and what follows it write the bytes from where the loop begins. -/
theorem decodeLoop_storeEnd (buf : CStr) (pbuf : Nat) (src : CStr) :
    ((decodeLoop buf pbuf src).bind fun (buf, pbuf, rest) =>
      storeEnd buf pbuf (if rest.isEmpty then [] else decodeRest rest)) =
      storeEnd buf pbuf (base64DecodeBytes src) := by
  fun_induction decodeLoop buf pbuf src with
  | case1 buf pbuf c0 c1 c2 c3 c4 src ulTmp b0 b1 b2 ih =>
    obtain ⟨h0, h1, h2, h3⟩ := wordChar_word c0 c1 c2 c3
    have hbytes : base64DecodeBytes (c0 :: c1 :: c2 :: c3 :: c4 :: src) =
        [b0, b1, b2] ++ base64DecodeBytes (c4 :: src) := by
      simp only [base64DecodeBytes, b0, b1, b2, ulTmp, h0, h1, h2, h3]
      rfl
    have hnext : 1 ≤ (base64DecodeBytes (c4 :: src)).length :=
      List.length_pos_iff.mpr (base64DecodeBytes_ne_nil (List.cons_ne_nil c4 src))
    rw [wordBytes_bytes, hbytes, Option.bind_eq_bind, Option.bind_assoc]
    calc (store buf pbuf ([b0, b1, b2] ++ [0])).bind _
        = (store buf pbuf ([b0, b1, b2] ++ [0])).bind fun buf =>
            storeEnd buf (pbuf + [b0, b1, b2].length) (base64DecodeBytes (c4 :: src)) :=
          congrArg _ (funext fun buf => ih buf)
      _ = storeEnd buf pbuf ([b0, b1, b2] ++ base64DecodeBytes (c4 :: src)) :=
          store_bind_storeEnd hnext
  | case2 buf pbuf src hshort =>
    rw [Option.bind_some]
    rcases src with _ | ⟨c0, _ | ⟨c1, _ | ⟨c2, _ | ⟨c3, _ | ⟨c4, src⟩⟩⟩⟩⟩
    · rfl
    · rfl
    · rfl
    · rfl
    · rfl
    · exact absurd rfl (hshort c0 c1 c2 c3 c4 src)

/-- **The buffer holds the bytes and a terminator exactly when it has room for both.** -/
theorem base64DecodeInto_eq (buf base64code : CStr) (src_len : Nat) :
    base64DecodeInto buf base64code src_len =
      if (base64Decode base64code src_len).length + 1 ≤ buf.length then
        some (overwrite buf 0 (base64Decode base64code src_len ++ [0]),
          (base64Decode base64code src_len).length)
      else none := by
  have hloop := decodeLoop_storeEnd buf 0 (sourceBytes base64code src_len)
  rw [storeEnd_eq, Nat.zero_add] at hloop
  exact hloop

/-! ## Digits read again -/

theorem getB64Index_digit64 (n : Nat) : getB64Index (digit64 n) = .ofNat 32 (n % 64) := by
  have hall : ∀ k : Fin 64, getB64Index (alphabet.getD k 0x3d) = .ofNat 32 k := by decide +kernel
  exact hall ⟨n % 64, Nat.mod_lt n (by decide)⟩

theorem digit64_ne_pad (n : Nat) : digit64 n ≠ 0x3d := by
  have hall : ∀ k : Fin 64, alphabet.getD k 0x3d ≠ 0x3d := by decide
  exact hall ⟨n % 64, Nat.mod_lt n (by decide)⟩

theorem toNat_index_or_index {a b s k : Nat} (ha : a < 64) (hb : b < 64) (hs : s ≤ 6)
    (hlt : 4 * b / 2 ^ k < 2 ^ s) :
    (BitVec.ofNat 32 a <<< s ||| (BitVec.ofNat 32 b <<< 2).sshiftRight k).toNat =
      2 ^ s * a + 4 * b / 2 ^ k := by
  have hpow : 2 ^ s ≤ 2 ^ 6 := Nat.pow_le_pow_right (by decide) hs
  have hbits : 2 ^ s * a ≤ 2 ^ 6 * 64 := Nat.mul_le_mul hpow (by omega)
  have hshift : (BitVec.ofNat 32 b <<< 2).toNat = 4 * b := by
    rw [BitVec.toNat_shiftLeft, BitVec.toNat_ofNat, Nat.shiftLeft_eq]
    omega
  have hmsb : (BitVec.ofNat 32 b <<< 2).msb = false := by
    rw [BitVec.msb_eq_false_iff_two_mul_lt, hshift]
    omega
  have hright : ((BitVec.ofNat 32 b <<< 2).sshiftRight k).toNat = 4 * b / 2 ^ k := by
    rw [BitVec.sshiftRight_eq_of_msb_false hmsb, BitVec.toNat_ushiftRight, hshift,
      Nat.shiftRight_eq_div_pow]
  have hleft : (BitVec.ofNat 32 a).toNat = a := by
    rw [BitVec.toNat_ofNat]
    omega
  rw [BitVec.or_comm, toNat_or_shiftLeft (by rw [hright]; exact hlt) (by rw [hleft]; omega),
    hleft, hright]

section

variable (n m : Nat)

theorem decodeB0_digits :
    decodeB0 (digit64 n) (digit64 m) = UInt8.ofNat (4 * (n % 64) + m % 64 / 16) := by
  rw [decodeB0, getB64Index_digit64, getB64Index_digit64,
    toNat_index_or_index (by omega) (by omega) (by decide) (by omega)]
  show UInt8.ofNat _ = _
  congr 1
  omega

theorem decodeB1_digits :
    decodeB1 (digit64 n) (digit64 m) = UInt8.ofNat (16 * (n % 64) + m % 64 / 4) := by
  rw [decodeB1, getB64Index_digit64, getB64Index_digit64,
    toNat_index_or_index (by omega) (by omega) (by decide) (by omega)]
  show UInt8.ofNat _ = _
  congr 1
  omega

theorem decodeB2_digits :
    decodeB2 (digit64 n) (digit64 m) = UInt8.ofNat (64 * (n % 64) + m % 64) := by
  rw [decodeB2, getB64Index_digit64, getB64Index_digit64,
    toNat_index_or_index (by omega) (by omega) (by decide) (by omega)]
  show UInt8.ofNat _ = _
  congr 1
  omega

end

theorem decode_group (c0 c1 c2 : UInt8) :
    decodeB0 (digit64 (groupValue c0 c1 c2 / 262144)) (digit64 (groupValue c0 c1 c2 / 4096)) = c0 ∧
      decodeB1 (digit64 (groupValue c0 c1 c2 / 4096)) (digit64 (groupValue c0 c1 c2 / 64)) = c1 ∧
      decodeB2 (digit64 (groupValue c0 c1 c2 / 64)) (digit64 (groupValue c0 c1 c2)) = c2 := by
  have h0 := c0.toNat_lt
  have h1 := c1.toNat_lt
  have h2 := c2.toNat_lt
  have hbyte : ∀ {k : Nat} {c : UInt8}, k % 256 = c.toNat → UInt8.ofNat k = c := fun h =>
    UInt8.toNat_inj.mp (by rw [UInt8.toNat_ofNat', ← h])
  rw [decodeB0_digits, decodeB1_digits, decodeB2_digits, groupValue]
  exact ⟨hbyte (by omega), hbyte (by omega), hbyte (by omega)⟩

/-- **The bytes of a Base64 text are those it was made of.** -/
theorem base64DecodeBytes_base64Text : ∀ src : CStr, base64DecodeBytes (base64Text src) = src
  | [] => by simp [base64Text, base64DecodeBytes]
  | [c0] => by
    obtain ⟨h0, -⟩ := decode_group c0 0 0
    simp [base64Text, base64DecodeBytes, decodeRest, h0]
  | [c0, c1] => by
    obtain ⟨h0, h1, -⟩ := decode_group c0 c1 0
    simp [base64Text, base64DecodeBytes, decodeRest, h0, h1, digit64_ne_pad]
  | [c0, c1, c2] => by
    obtain ⟨h0, h1, h2⟩ := decode_group c0 c1 c2
    simp [base64Text, base64DecodeBytes, decodeRest, h0, h1, h2, digit64_ne_pad]
  | c0 :: c1 :: c2 :: c3 :: src => by
    obtain ⟨h0, h1, h2⟩ := decode_group c0 c1 c2
    have ih := base64DecodeBytes_base64Text (c3 :: src)
    have hlen : (base64Text (c3 :: src)).length ≠ 0 := by
      rw [base64Text_length, List.length_cons]
      omega
    cases htext : base64Text (c3 :: src) with
    | nil => rw [htext] at hlen; exact absurd rfl hlen
    | cons ch text =>
      rw [htext] at ih
      simp [base64Text, htext, base64DecodeBytes, h0, h1, h2, ih]

theorem sourceBytes_length {x : CStr} (hne : x ≠ []) : sourceBytes x x.length = x := by
  rw [sourceBytes, if_neg (fun h => hne (List.length_eq_zero_iff.mp h)), List.take_length]

/-- A terminated text is read whole, by its length or up to the terminator. -/
theorem base64Decode_text {x : CStr} (hne : x ≠ []) (rest : CStr) :
    base64Decode (base64Text x ++ 0 :: rest) (base64Text x).length = x ∧
      base64Decode (base64Text x ++ 0 :: rest) 0 = x := by
  have hlen : (base64Text x).length ≠ 0 := by
    rw [base64Text_length]
    have := List.length_pos_iff.mpr hne
    omega
  constructor
  · rw [base64Decode, if_neg hlen, List.take_left, base64DecodeBytes_base64Text]
  · rw [base64Decode, if_pos rfl, cStr_base64Text, base64DecodeBytes_base64Text]

/-- **Round trip on buffers that are large enough.**  What stands in them behind the terminators
stays.  The lengths are `int`s in the source, and that of the text is supposed to fit one. -/
theorem base64_roundtrip (x base64code buf : CStr) (hne : x ≠ [])
    (hcode : 4 * ((x.length + 2) / 3) + 1 ≤ base64code.length)
    (hbuf : x.length + 1 ≤ buf.length) :
    ∃ text rest, base64Encode base64code x x.length = some (text ++ 0 :: rest, text.length) ∧
      text = base64Text x ∧ text.length = 4 * ((x.length + 2) / 3) ∧
      (∀ ch ∈ text, ch ∈ alphabet ∨ ch = 0x3d) ∧ rest = base64code.drop (text.length + 1) ∧
      (∀ src_len, src_len = text.length ∨ src_len = 0 →
        base64DecodeInto buf (text ++ 0 :: rest) src_len =
          some (x ++ 0 :: buf.drop (x.length + 1), x.length)) := by
  have hover : ∀ mem w : CStr, overwrite mem 0 (w ++ [0]) = w ++ 0 :: mem.drop (w.length + 1) := by
    intro mem w
    rw [overwrite_zero, List.append_assoc, List.length_append]
    rfl
  refine ⟨base64Text x, base64code.drop ((base64Text x).length + 1), ?_, rfl,
    base64Text_length x, mem_base64Text x, rfl, ?_⟩
  · rw [base64Encode_eq, sourceBytes_length hne, if_pos (by rw [base64Text_length]; exact hcode),
      hover]
  · intro src_len hsrc
    have hbytes : base64Decode (base64Text x ++ 0 ::
        base64code.drop ((base64Text x).length + 1)) src_len = x := by
      obtain ⟨hbyLength, hbyEnd⟩ := base64Decode_text hne
        (base64code.drop ((base64Text x).length + 1))
      rcases hsrc with rfl | rfl
      · exact hbyLength
      · exact hbyEnd
    rw [base64DecodeInto_eq, hbytes, if_pos hbuf, hover]

/-- Two groups, the second one padded. -/
theorem base64_roundtrip_padded :
    ∃ text rest, base64Encode (List.replicate 9 7) [0x61, 0x31, 0x3a, 0x62] 4 =
        some (text ++ 0 :: rest, text.length) ∧
      text = base64Text [0x61, 0x31, 0x3a, 0x62] ∧ text.length = 4 * ((4 + 2) / 3) ∧
      (∀ ch ∈ text, ch ∈ alphabet ∨ ch = 0x3d) ∧
      rest = (List.replicate 9 7).drop (text.length + 1) ∧
      (∀ src_len, src_len = text.length ∨ src_len = 0 →
        base64DecodeInto (List.replicate 5 7) (text ++ 0 :: rest) src_len =
          some ([0x61, 0x31, 0x3a, 0x62] ++ 0 :: (List.replicate 5 7).drop 5, 4)) :=
  base64_roundtrip [0x61, 0x31, 0x3a, 0x62] (List.replicate 9 7) (List.replicate 5 7) (by decide)
    (by decide) (by decide)

/-! ## The local arrays -/

/-- `BASE64Cryptor::Encode`. -/
def encode (src_bytes : CStr) (src_len : Nat) : Option CStr :=
  (base64Encode (List.replicate 260 0) src_bytes src_len).map fun p => cStr p.1

theorem cStr_overwrite (mem w : CStr) : cStr (overwrite mem 0 (w ++ [0])) = cStr w := by
  rw [overwrite_zero, List.append_assoc, List.singleton_append, cStr_append_zero]

theorem encode_eq (src_bytes : CStr) (src_len : Nat) :
    encode src_bytes src_len = if (sourceBytes src_bytes src_len).length ≤ 192 then
      some (base64Text (sourceBytes src_bytes src_len)) else none := by
  rw [encode, base64Encode_eq, List.length_replicate, base64Text_length]
  by_cases h : (sourceBytes src_bytes src_len).length ≤ 192
  · rw [if_pos (by omega), if_pos h, Option.map_some, cStr_overwrite,
      cStr_eq_self fun hmem => base64Text_ne_zero hmem rfl]
  · rw [if_neg (by omega), if_neg h]
    rfl

/-- **The array of `Encode` has room exactly for 192 bytes.** -/
theorem encode_isSome_iff (src_bytes : CStr) (src_len : Nat) :
    (encode src_bytes src_len).isSome ↔ (sourceBytes src_bytes src_len).length ≤ 192 := by
  rw [encode_eq]
  split
  · rename_i h
    exact iff_of_true rfl h
  · rename_i h
    exact iff_of_false (by simp) h

/-- The text decodes to at most 259 bytes.  Its 87th group may give one byte. -/
def DecodeFits (src : CStr) : Prop :=
  src.length ≤ 344 ∨ src.length ≤ 348 ∧
    (src[346]? = some 0x3d ∨ src[345]? = some 0x3d ∧ src[347]? = some 0x3d)

theorem getD_eq_pad {src : CStr} {i : Nat} : src.getD i 0 = 0x3d ↔ src[i]? = some 0x3d := by
  rw [List.getD_eq_getElem?_getD]
  cases src[i]? with
  | none => decide
  | some ch => simp

theorem decodeRest_length_eq_one_iff (src : CStr) : (decodeRest src).length = 1 ↔
    src[2]? = some 0x3d ∨ src[1]? = some 0x3d ∧ src[3]? = some 0x3d := by
  simp only [decodeRest, List.length_cons, List.length_append, ← getD_eq_pad]
  generalize src.getD 1 0 = c1
  generalize src.getD 2 0 = c2
  generalize src.getD 3 0 = c3
  by_cases h1 : c1 = 0x3d <;> by_cases h2 : c2 = 0x3d <;> by_cases h3 : c3 = 0x3d <;>
    simp [h1, h2, h3]

theorem base64DecodeBytes_length_add (n : Nat) : ∀ {src : CStr}, 4 * n < src.length →
    (base64DecodeBytes src).length = 3 * n + (base64DecodeBytes (src.drop (4 * n))).length := by
  induction n with
  | zero =>
    intro src _
    simp
  | succ n ih =>
    intro src h
    match src, h with
    | c0 :: c1 :: c2 :: c3 :: c4 :: src, h =>
      have hrest : 4 * n < (c4 :: src).length := by
        simp only [List.length_cons] at h ⊢
        omega
      have hdrop : (c0 :: c1 :: c2 :: c3 :: c4 :: src).drop (4 * (n + 1)) =
          (c4 :: src).drop (4 * n) := rfl
      rw [hdrop, base64DecodeBytes, List.length_cons, List.length_cons, List.length_cons,
        ih hrest]
      omega

theorem base64DecodeBytes_last : ∀ {src : CStr}, src ≠ [] → src.length ≤ 4 →
    base64DecodeBytes src = decodeRest src
  | [], h, _ => absurd rfl h
  | [_], _, _ => by simp [base64DecodeBytes]
  | [_, _], _, _ => by simp [base64DecodeBytes]
  | [_, _, _], _, _ => by simp [base64DecodeBytes]
  | [_, _, _, _], _, _ => by simp [base64DecodeBytes]
  | _ :: _ :: _ :: _ :: _ :: _, _, h => by
    simp only [List.length_cons] at h
    omega

theorem decodeFits_iff (src : CStr) : (base64DecodeBytes src).length + 1 ≤ 260 ↔ DecodeFits src := by
  have hbound := base64DecodeBytes_length_le src
  by_cases hshort : src.length ≤ 344
  · exact iff_of_true (by omega) (Or.inl hshort)
  rw [DecodeFits, or_iff_right hshort]
  by_cases hlast : src.length ≤ 348
  · -- 86 full groups, and a last one
    have hne : src.drop 344 ≠ [] := by
      rw [← List.length_pos_iff, List.length_drop]
      omega
    have hsplit : (base64DecodeBytes src).length = 258 + (base64DecodeBytes (src.drop 344)).length :=
      base64DecodeBytes_length_add 86 (by omega)
    rw [base64DecodeBytes_last hne (by rw [List.length_drop]; omega)] at hsplit
    have hone := decodeRest_length_eq_one_iff (src.drop 344)
    have hpos : 0 < (decodeRest (src.drop 344)).length := by simp [decodeRest]
    simp only [List.getElem?_drop, Nat.reduceAdd] at hone
    rw [hsplit, and_iff_right hlast, ← hone]
    omega
  · have hsplit := base64DecodeBytes_length_add 87 (show 4 * 87 < src.length by omega)
    exact iff_of_false (by omega) fun h => hlast h.1

/-- **The array of `Decode` has room exactly for what decodes to 259 bytes.** -/
theorem decode_isSome_iff (src_bytes : CStr) (src_len : Nat) :
    (decode src_bytes src_len).isSome ↔ DecodeFits (sourceBytes src_bytes src_len) := by
  rw [← decodeFits_iff]
  show (decode src_bytes src_len).isSome ↔ (base64Decode src_bytes src_len).length + 1 ≤ 260
  rw [decode]
  split
  · rename_i h
    exact iff_of_true rfl h
  · rename_i h
    exact iff_of_false (by simp) h

/-- **What comes back**: texts of at most 192 bytes, none of which is zero. -/
theorem roundtrip_iff (x : CStr) :
    ((encode x x.length).bind fun text => decode text text.length) = some x ↔
      x.length ≤ 192 ∧ 0 ∉ x := by
  rcases eq_or_ne x [] with rfl | hne
  · simp [encode_eq, sourceBytes, decode, base64Decode, base64DecodeBytes, base64Text, cStr]
  rw [encode_eq, sourceBytes_length hne]
  by_cases hlen : x.length ≤ 192
  · have htext : base64Text x ≠ [] := by
      rw [← List.length_pos_iff, base64Text_length]
      have := List.length_pos_iff.mpr hne
      omega
    have hbytes : base64Decode (base64Text x) (base64Text x).length = x := by
      show base64DecodeBytes (sourceBytes (base64Text x) (base64Text x).length) = x
      rw [sourceBytes_length htext, base64DecodeBytes_base64Text]
    rw [if_pos hlen, and_iff_right hlen, Option.bind_some, decode, hbytes, if_pos (by omega),
      Option.some_inj, cStr_eq_self_iff]
  · rw [if_neg hlen]
    exact iff_of_false (fun h => by cases h) fun h => hlen h.1

/-- **Local arrays and what they bring back.** -/
theorem base64Cryptor_iff (src_bytes : CStr) (src_len : Nat) (x : CStr) :
    ((encode src_bytes src_len).isSome ↔ (sourceBytes src_bytes src_len).length ≤ 192) ∧
      ((decode src_bytes src_len).isSome ↔ DecodeFits (sourceBytes src_bytes src_len)) ∧
      (((encode x x.length).bind fun text => decode text text.length) = some x ↔
        x.length ≤ 192 ∧ 0 ∉ x) :=
  ⟨encode_isSome_iff src_bytes src_len, decode_isSome_iff src_bytes src_len, roundtrip_iff x⟩

/-- 193 bytes leave the array of `Encode`, 349 characters that of `Decode`, and a text with a zero
byte does not come back. -/
theorem base64Cryptor_overflows :
    ¬ (encode (List.replicate 193 0x41) 193).isSome ∧
      ¬ (decode (List.replicate 349 0x41) 349).isSome ∧
      ((encode [0x41, 0, 0x42] 3).bind fun text => decode text text.length) ≠
        some [0x41, 0, 0x42] := by
  have hlen : ∀ n, (sourceBytes (List.replicate (n + 1) 0x41) (n + 1)).length = n + 1 := by
    intro n
    rw [sourceBytes, if_neg (Nat.succ_ne_zero n), List.length_take, List.length_replicate,
      Nat.min_self]
  refine ⟨?_, ?_, ?_⟩
  · rw [encode_isSome_iff, hlen]
    decide
  · rw [decode_isSome_iff, DecodeFits, hlen]
    omega
  · exact fun h => ((roundtrip_iff [0x41, 0, 0x42]).mp h).2 (by decide)

end GB28181.GBUtils
