import GB28181.Base.CString
import GB28181.Base.Chaining
import GB28181.Base.Run
import GB28181.GBUtils.Des

/-!
# `DESCBCCryptor` (`GBUtils/Algorithm/des.cpp`)

The object combines every block with `block_LAST`, which the constructor and `reset` set and no
call changes, and hands its `char buffer[8]` back as a `std::string`.  The array has no terminator:
the string ends at a zero byte, and without one the bytes behind the array are read, which is not
defined.

* `stdString_ne_toList` — all eight bytes never come back;
* `encrypt_buffers`, `decrypt_buffers` — what the calls of a run leave in the buffer;
* `cbc_returned_iff` — the chained blocks come back **exactly from no call at all**;
* `cbc_buffers_iff` — they stand in the buffer **exactly where the chain stays at the initial
  vector**; `cbc_iff`.
-/

set_option autoImplicit false

namespace GB28181.GBUtils

open GB28181.Base DESCryptoPrivoder

/-- `return buffer`; `none` where the array is read past its end. -/
def stdString (buffer : Vector UInt8 8) : Option CStr :=
  if buffer.toList.contains 0 then some (cStr buffer.toList) else none

structure DESCBCCryptor where
  block_KEY : Block
  block_IN : Block
  block_IV : Block
  block_LAST : Block
  buffer : Vector UInt8 8

namespace DESCBCCryptor

/-- `DESCBCCryptor::DESCBCCryptor`. -/
def new (rgbKey rgbIV : Vector UInt8 8) : DESCBCCryptor :=
  { block_KEY := blockFromStr rgbKey
    block_IN := 0
    block_IV := blockFromStr rgbIV
    block_LAST := blockFromStr rgbIV
    buffer := Vector.replicate 8 0 }

/-- `DESCBCCryptor::reset`. -/
def reset (s : DESCBCCryptor) : DESCBCCryptor := { s with block_LAST := s.block_IV }

/-- `DESCBCCryptor::XORBlock`; the second block afterwards. -/
def xorBlock (in_block out_block : Block) : Block :=
  bits 64 fun i => out_block.getLsbD i ^^ in_block.getLsbD i

/-- `DESCBCCryptor::Encrypt`. -/
def encrypt (s : DESCBCCryptor) (in_str : Vector UInt8 8) : DESCBCCryptor × Option CStr :=
  let block_IN := xorBlock s.block_LAST (blockFromStr in_str)
  let block_IN := des s.block_KEY block_IN .encrypt
  let buffer := strFromBlock block_IN
  ({ s with block_IN, buffer }, stdString buffer)

/-- `DESCBCCryptor::Decrypt`. -/
def decrypt (s : DESCBCCryptor) (in_str : Vector UInt8 8) : DESCBCCryptor × Option CStr :=
  let block_IN := des s.block_KEY (blockFromStr in_str) .decrypt
  let block_IN := xorBlock s.block_LAST block_IN
  let buffer := strFromBlock block_IN
  ({ s with block_IN, buffer }, stdString buffer)

def returned (call : DESCBCCryptor → Vector UInt8 8 → DESCBCCryptor × Option CStr)
    (s : DESCBCCryptor) (strs : List (Vector UInt8 8)) : List (Option CStr) :=
  (calls (fun s str => (call s str).1) s strs).map fun p => (call p.1 p.2).2

def buffers (call : DESCBCCryptor → Vector UInt8 8 → DESCBCCryptor × Option CStr)
    (s : DESCBCCryptor) (strs : List (Vector UInt8 8)) : List (Vector UInt8 8) :=
  (calls (fun s str => (call s str).1) s strs).map fun p => (call p.1 p.2).1.buffer

/-- The chained blocks of the texts, as texts. -/
def chained (s : DESCBCCryptor) (strs : List (Vector UInt8 8)) : List (Vector UInt8 8) :=
  (chain (fun block => des s.block_KEY block .encrypt) s.block_IV (strs.map blockFromStr)).map
    strFromBlock

/-! ## Returned texts -/

/-- **All eight bytes never come back.** -/
theorem stdString_ne_toList (buffer str : Vector UInt8 8) : stdString buffer ≠ some str.toList := by
  unfold stdString
  split
  · rename_i hzero
    rw [ne_eq, Option.some_inj]
    intro h
    have hlen : (cStr buffer.toList).length = buffer.toList.length := by
      rw [h, Vector.length_toList, Vector.length_toList]
    have hall : cStr buffer.toList = buffer.toList :=
      (List.takeWhile_prefix _).eq_of_length hlen
    exact cStr_eq_self_iff.mp hall (List.contains_iff_mem.mp hzero)
  · intro h
    cases h

theorem xorBlock_eq (in_block out_block : Block) :
    xorBlock in_block out_block = out_block ^^^ in_block := bits_eq_xor out_block in_block

theorem encrypt_buffer (s : DESCBCCryptor) (str : Vector UInt8 8) : (s.encrypt str).1.buffer =
    strFromBlock (des s.block_KEY (blockFromStr str ^^^ s.block_LAST) .encrypt) := by
  rw [← xorBlock_eq]
  rfl

theorem decrypt_buffer (s : DESCBCCryptor) (str : Vector UInt8 8) : (s.decrypt str).1.buffer =
    strFromBlock (des s.block_KEY (blockFromStr str) .decrypt ^^^ s.block_LAST) := by
  rw [← xorBlock_eq]
  rfl

/-- **What was combined with `block_LAST` stays combined with it**, call after call. -/
theorem buffers_eq_map {call : DESCBCCryptor → Vector UInt8 8 → DESCBCCryptor × Option CStr}
    {g : Block → Block → Vector UInt8 8 → Vector UInt8 8}
    (hkeep : ∀ s str, (call s str).1.block_KEY = s.block_KEY ∧
      (call s str).1.block_LAST = s.block_LAST ∧
      (call s str).1.buffer = g s.block_KEY s.block_LAST str)
    (s : DESCBCCryptor) (strs : List (Vector UInt8 8)) :
    buffers call s strs = strs.map (g s.block_KEY s.block_LAST) := by
  induction strs generalizing s with
  | nil => rfl
  | cons str strs ih =>
    obtain ⟨hkey, hlast, hbuffer⟩ := hkeep s str
    have hrest := ih (call s str).1
    rw [hkey, hlast] at hrest
    rw [List.map_cons, ← hbuffer, ← hrest]
    rfl

theorem encrypt_buffers (s : DESCBCCryptor) (strs : List (Vector UInt8 8)) :
    buffers encrypt s strs = strs.map fun str =>
      strFromBlock (des s.block_KEY (blockFromStr str ^^^ s.block_LAST) .encrypt) :=
  @buffers_eq_map encrypt (fun key last str =>
    strFromBlock (des key (blockFromStr str ^^^ last) .encrypt))
    (fun s str => ⟨rfl, rfl, encrypt_buffer s str⟩) s strs

theorem decrypt_buffers (s : DESCBCCryptor) (strs : List (Vector UInt8 8)) :
    buffers decrypt s strs = strs.map fun str =>
      strFromBlock (des s.block_KEY (blockFromStr str) .decrypt ^^^ s.block_LAST) :=
  @buffers_eq_map decrypt (fun key last str =>
    strFromBlock (des key (blockFromStr str) .decrypt ^^^ last))
    (fun s str => ⟨rfl, rfl, decrypt_buffer s str⟩) s strs

/-! ## Chains -/

theorem strFromBlock_inj {b c : Block} (h : strFromBlock b = strFromBlock c) : b = c := by
  rw [← blockFromStr_strFromBlock b, h, blockFromStr_strFromBlock]

theorem des_encrypt_eq_iff (bkey p c : Block) :
    des bkey (p ^^^ c) .encrypt = c ↔ p = des bkey c .decrypt ^^^ c := by
  constructor
  · intro h
    rw [← xor_xor_cancel p c]
    congr 1
    rw [← h, des_decrypt_encrypt, h]
  · intro h
    rw [h, xor_xor_cancel, des_encrypt_decrypt]

variable (s : DESCBCCryptor) (strs : List (Vector UInt8 8))

theorem forall_dropLast_iff :
    (∀ p ∈ (strs.map blockFromStr).dropLast,
        des s.block_KEY (p ^^^ s.block_IV) .encrypt = s.block_IV) ↔
      ∀ str ∈ strs.dropLast,
        blockFromStr str = des s.block_KEY s.block_IV .decrypt ^^^ s.block_IV := by
  rw [← List.map_dropLast, List.forall_mem_map]
  simp only [des_encrypt_eq_iff]

/-- **The chained blocks come back exactly from no call at all.** -/
theorem cbc_returned_iff :
    (returned encrypt s.reset strs = (chained s strs).map (fun str => some str.toList) ∧
      returned decrypt s.reset (chained s strs) = strs.map (fun str => some str.toList)) ↔
      strs = [] := by
  cases strs with
  | nil => exact iff_of_true ⟨rfl, rfl⟩ rfl
  | cons str strs =>
    refine iff_of_false (fun h => ?_) (List.cons_ne_nil str strs)
    exact stdString_ne_toList _ _ (List.cons.inj h.1).1

/-- **They stand in the buffer exactly where the chain stays at the initial vector.** -/
theorem cbc_buffers_iff :
    (buffers encrypt s.reset strs = chained s strs ∧
      buffers decrypt s.reset (chained s strs) = strs) ↔
      ∀ str ∈ strs.dropLast,
        blockFromStr str = des s.block_KEY s.block_IV .decrypt ^^^ s.block_IV := by
  let E : Block → Block := fun block => des s.block_KEY block .encrypt
  let D : Block → Block := fun block => des s.block_KEY block .decrypt
  have hinv : ∀ block, D (E block) = block := des_decrypt_encrypt s.block_KEY
  rw [← forall_dropLast_iff]
  have hencrypt : buffers encrypt s.reset strs = chained s strs ↔
      ∀ p ∈ (strs.map blockFromStr).dropLast,
        des s.block_KEY (p ^^^ s.block_IV) .encrypt = s.block_IV := by
    have htexts : buffers encrypt s.reset strs =
        ((strs.map blockFromStr).map fun p => E (p ^^^ s.block_IV)).map strFromBlock := by
      rw [encrypt_buffers, List.map_map, List.map_map]
      rfl
    rw [htexts, chained, List.map_inj_right fun _ _ => strFromBlock_inj]
    exact map_eq_chain_iff hinv s.block_IV (strs.map blockFromStr)
  have hdecrypt : buffers decrypt s.reset (chained s strs) = strs ↔
      ∀ p ∈ (strs.map blockFromStr).dropLast,
        des s.block_KEY (p ^^^ s.block_IV) .encrypt = s.block_IV := by
    have htexts : buffers decrypt s.reset (chained s strs) =
        ((chain E s.block_IV (strs.map blockFromStr)).map fun b =>
          D b ^^^ s.block_IV).map strFromBlock := by
      rw [decrypt_buffers, chained, List.map_map, List.map_map]
      refine List.map_congr_left fun b _ => ?_
      simp only [Function.comp_apply, blockFromStr_strFromBlock]
      rfl
    have hstrs : (strs.map blockFromStr).map strFromBlock = strs := by
      rw [List.map_map]
      exact (List.map_congr_left fun str _ => strFromBlock_blockFromStr str).trans (List.map_id strs)
    conv_lhs => rw [htexts, ← hstrs]
    rw [List.map_inj_right fun _ _ => strFromBlock_inj, hstrs]
    exact map_chain_eq_iff hinv s.block_IV (strs.map blockFromStr)
  rw [hencrypt, hdecrypt, and_self]

/-- **Chained blocks**: from no call do they come back, and they stand in the buffer exactly where
every block but the last leads back to the initial vector. -/
theorem cbc_iff :
    ((returned encrypt s.reset strs = (chained s strs).map (fun str => some str.toList) ∧
      returned decrypt s.reset (chained s strs) = strs.map (fun str => some str.toList)) ↔
      strs = []) ∧
    ((buffers encrypt s.reset strs = chained s strs ∧
      buffers decrypt s.reset (chained s strs) = strs) ↔
      ∀ str ∈ strs.dropLast,
        blockFromStr str = des s.block_KEY s.block_IV .decrypt ^^^ s.block_IV) :=
  ⟨cbc_returned_iff s strs, cbc_buffers_iff s strs⟩

/-- The second of two blocks is not chained, and what is returned of the first ends early or is read
behind the buffer. -/
theorem cbc_unchained :
    let s := new #v[0x61, 0x62, 0x63, 0x64, 0x65, 0x66, 0x67, 0x68] (Vector.replicate 8 0)
    let str : Vector UInt8 8 := #v[0x70, 0x6c, 0x61, 0x69, 0x6e, 0x74, 0x78, 0x74]
    returned encrypt s.reset [str] ≠ (chained s [str]).map (fun str => some str.toList) ∧
      buffers encrypt s.reset [str, str] ≠ chained s [str, str] := by
  decide +kernel

end DESCBCCryptor

end GB28181.GBUtils
