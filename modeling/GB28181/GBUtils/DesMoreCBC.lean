import GB28181.Base.Chaining
import GB28181.Base.Run
import GB28181.GBUtils.DesMore

/-!
# `DES::decrypt` and `DESCBC` (`GBUtils/Algorithm/des_more.cpp`)

* `des_decrypt_eq` — the rounds of decryption take the subkeys in opposite order;
* `inverse` — **either direction undoes the other**;
* `encryptAll_eq`, `decryptAll_eq` — the calls of a `DESCBC` chain the blocks;
* `stretch` — **a stretch of blocks that arrives is read again but for its first block**, and
  that one too where both sides are at the same block.
-/

set_option autoImplicit false

namespace GB28181.GBUtils

open GB28181.Base

namespace DES

open DesNetwork (select halves join halves_join)

/-- `DES::decrypt` with a key. -/
def decrypt (block key : BitVec 64) : BitVec 64 := des (keygen key) block true

/-! ## Permutations -/

theorem ip_fp (block : BitVec 64) : ip (fp block) = block := by
  rw [← fromFirst_inj, fromFirst_ip, fromFirst_fp]
  apply bitset_ext
  intro i hi
  obtain ⟨hlt, hinv, -⟩ := DESCryptoPrivoder.ipr_table_ip_table hi
  rw [select, getLsbD_bits hi, select, getLsbD_bits hlt, hinv]

theorem fp_ip (block : BitVec 64) : fp (ip block) = block := by
  rw [← fromFirst_inj, fromFirst_fp, fromFirst_ip]
  apply bitset_ext
  intro i hi
  obtain ⟨hlt, hinv, -⟩ := DESCryptoPrivoder.ip_table_ipr_table hi
  rw [select, getLsbD_bits hi, select, getLsbD_bits hlt, hinv]

/-- `L` and `R` of a block. -/
def split (block : BitVec 64) : BitVec 32 × BitVec 32 :=
  (((block >>> 32) &&& 0x00000000ffffffff#64).setWidth 32,
    (block &&& 0x00000000ffffffff#64).setWidth 32)

/-- `(((ui64)s.1) << 32) | (ui64)s.2` -/
def merge (s : BitVec 32 × BitVec 32) : BitVec 64 := s.1.setWidth 64 <<< 32 ||| s.2.setWidth 64

theorem split_merge (s : BitVec 32 × BitVec 32) : split (merge s) = s := by
  have hhalves := halves_eq (merge s)
  rw [merge, join_eq, halves_join, Prod.mk.injEq, fromFirst_inj, fromFirst_inj] at hhalves
  exact Prod.ext hhalves.1 hhalves.2

theorem merge_split (block : BitVec 64) : merge (split block) = block := by
  have hhalves := halves_eq block
  rw [← fromFirst_inj, merge, join_eq]
  have hjoin : join true (halves true (fromFirst 64 block)) = fromFirst 64 block := by
    apply bitset_ext
    intro i hi
    rw [join, getLsbD_bits hi, halves]
    by_cases hlt : i < 32
    · rw [if_pos hlt, if_pos rfl, if_pos rfl, getLsbD_bits hlt]
    · rw [if_neg hlt, if_pos rfl, if_pos rfl, getLsbD_bits (by omega),
        Nat.sub_add_cancel (by omega)]
  rw [← hjoin, ← hhalves]
  rfl

/-! ## Decryption -/

/-- The rounds between both permutations. -/
def network (keys : List (BitVec 64)) (block : BitVec 64) : BitVec 64 :=
  fp (merge (rounds round Prod.swap keys (split (ip block))))

theorem des_encrypt_network {sub_key : List (BitVec 64)} (hlen : sub_key.length = 16)
    (block : BitVec 64) : des sub_key block false = network sub_key block :=
  des_encrypt_eq hlen block

theorem des_decrypt_eq {sub_key : List (BitVec 64)} (hlen : sub_key.length = 16)
    (block : BitVec 64) : des sub_key block true = network sub_key.reverse block := by
  have hrev : sub_key.reverse.length = 16 := by rw [List.length_reverse, hlen]
  have hsame : des sub_key block true = des sub_key.reverse block false := by
    have hkey : ∀ i < 16, sub_key.reverse.getD i 0 = sub_key.getD (15 - i) 0 := by
      intro i hi
      rw [List.getD_eq_getElem _ _ (by omega), List.getD_eq_getElem _ _ (by omega),
        List.getElem_reverse]
      congr 1
      omega
    have hloop : ∀ s,
        (List.range 16).foldl (fun s i => feistel s (f s.2 (sub_key.getD (15 - i) 0))) s =
        (List.range 16).foldl (fun s i => feistel s (f s.2 (sub_key.reverse.getD i 0))) s := by
      intro s
      refine List.foldl_ext _ _ _ fun s i hi => ?_
      rw [hkey i (List.mem_range.mp hi)]
    rw [des, des]
    simp only [Bool.false_eq_true, if_false, if_true, hloop]
  rw [hsame, des_encrypt_network hrev]

theorem round_round (k : BitVec 64) (s : BitVec 32 × BitVec 32) : round k (round k s) = s := by
  rw [round, round, BitVec.xor_assoc, BitVec.xor_self, BitVec.xor_zero]

theorem network_reverse (keys : List (BitVec 64)) (block : BitVec 64) :
    network keys.reverse (network keys block) = block := by
  rw [network, network, ip_fp, split_merge,
    rounds_reverse round_round (fun s => Prod.swap_swap s), merge_split, fp_ip]

theorem decrypt_encrypt {sub_key : List (BitVec 64)} (hlen : sub_key.length = 16)
    (block : BitVec 64) : des sub_key (des sub_key block false) true = block := by
  rw [des_encrypt_network hlen, des_decrypt_eq hlen, network_reverse]

theorem encrypt_decrypt {sub_key : List (BitVec 64)} (hlen : sub_key.length = 16)
    (block : BitVec 64) : des sub_key (des sub_key block true) false = block := by
  have hback := network_reverse sub_key.reverse block
  rw [List.reverse_reverse] at hback
  rw [des_encrypt_network hlen, des_decrypt_eq hlen, hback]

/-- **Either direction undoes the other**, for every key. -/
theorem inverse (key block : BitVec 64) :
    decrypt (encrypt block key) key = block ∧ encrypt (decrypt block key) key = block :=
  ⟨decrypt_encrypt (length_keygen key) block, encrypt_decrypt (length_keygen key) block⟩

end DES

/-! ## Chained blocks -/

/-- `DESCBC`; `des` is its array of subkeys. -/
structure DESCBC where
  des : List (BitVec 64)
  iv : BitVec 64
  last_block : BitVec 64
  length_des : des.length = 16

namespace DESCBC

/-- `DESCBC::DESCBC`. -/
def new (key iv : BitVec 64) : DESCBC := ⟨DES.keygen key, iv, iv, DES.length_keygen key⟩

/-- `DESCBC::encrypt`. -/
def encrypt (s : DESCBC) (block : BitVec 64) : DESCBC × BitVec 64 :=
  let last_block := DES.des s.des (block ^^^ s.last_block) false
  ({ s with last_block }, last_block)

/-- `DESCBC::decrypt`. -/
def decrypt (s : DESCBC) (block : BitVec 64) : DESCBC × BitVec 64 :=
  let result := DES.des s.des block true ^^^ s.last_block
  ({ s with last_block := block }, result)

/-- `DESCBC::reset`. -/
def reset (s : DESCBC) : DESCBC := { s with last_block := s.iv }

/-- A call for each block; what the calls return. -/
def calls (call : DESCBC → BitVec 64 → DESCBC × BitVec 64) : DESCBC → List (BitVec 64) →
    DESCBC × List (BitVec 64)
  | s, [] => (s, [])
  | s, block :: blocks =>
    let (s, out) := call s block
    let (s, outs) := calls call s blocks
    (s, out :: outs)

/-- **What is encrypted** is chained, from the last block on. -/
theorem encryptAll_eq (s : DESCBC) (blocks : List (BitVec 64)) :
    (calls encrypt s blocks).2 =
      chain (fun b => DES.des s.des b false) s.last_block blocks := by
  induction blocks generalizing s with
  | nil => rfl
  | cons block blocks ih =>
    rw [chain]
    exact congrArg _ (ih (s.encrypt block).1)

/-- **What is decrypted.** -/
theorem decryptAll_eq (s : DESCBC) (blocks : List (BitVec 64)) :
    (calls decrypt s blocks).2 =
      unchain (fun b => DES.des s.des b true) s.last_block blocks := by
  induction blocks generalizing s with
  | nil => rfl
  | cons block blocks ih =>
    rw [unchain]
    exact congrArg _ (ih (s.decrypt block).1)

theorem encryptAll_last (s : DESCBC) (blocks : List (BitVec 64)) :
    (calls encrypt s blocks).1.last_block =
      (calls encrypt s blocks).2.getLastD s.last_block := by
  induction blocks generalizing s with
  | nil => rfl
  | cons block blocks ih =>
    rw [calls, List.getLastD_cons]
    exact ih (s.encrypt block).1

theorem decryptAll_last (s : DESCBC) (blocks : List (BitVec 64)) :
    (calls decrypt s blocks).1.last_block = blocks.getLastD s.last_block := by
  induction blocks generalizing s with
  | nil => rfl
  | cons block blocks ih =>
    rw [calls, List.getLastD_cons]
    exact ih (s.decrypt block).1

/-- What a program can do with an object. -/
inductive Call where
  | encrypt (block : BitVec 64)
  | decrypt (block : BitVec 64)
  | reset

def step (s : DESCBC) : Call → DESCBC
  | .encrypt block => (s.encrypt block).1
  | .decrypt block => (s.decrypt block).1
  | .reset => s.reset

theorem run_keeps (s : DESCBC) (before : List Call) :
    (run step s before).des = s.des ∧ (run step s before).iv = s.iv := by
  induction before generalizing s with
  | nil => exact ⟨rfl, rfl⟩
  | cons call before ih =>
    have hstep : (step s call).des = s.des ∧ (step s call).iv = s.iv := by
      cases call <;> exact ⟨rfl, rfl⟩
    rw [run_cons, (ih (step s call)).1, (ih (step s call)).2]
    exact hstep

theorem decryptAll_encryptAll {s r : DESCBC} (hdes : r.des = s.des) (p : BitVec 64)
    (ps : List (BitVec 64)) :
    (calls decrypt r (calls encrypt s (p :: ps)).2).2 =
      (p ^^^ s.last_block ^^^ r.last_block) :: ps := by
  rw [decryptAll_eq, encryptAll_eq, hdes]
  exact unchain_chain_cons (DES.decrypt_encrypt s.length_des) _ _ p ps

/-- **A stretch of blocks** that one end encrypts and the other one decrypts, whatever both have
been called with before: every block but the first is read again, the first one too where both
were at the same block, and both are at the same block afterwards.  After a `reset` of both ends the
difference is that of the initial vectors. -/
theorem stretch (key iv iv' : BitVec 64) (before before' : List Call) (p : BitVec 64)
    (ps : List (BitVec 64)) :
    let s := run step (new key iv) before
    let r := run step (new key iv') before'
    let sent := calls encrypt s (p :: ps)
    (calls decrypt r sent.2).2 = (p ^^^ s.last_block ^^^ r.last_block) :: ps ∧
      (calls decrypt r sent.2).1.last_block = sent.1.last_block ∧
      (calls decrypt r.reset (calls encrypt s.reset (p :: ps)).2).2 = (p ^^^ iv ^^^ iv') :: ps := by
  intro s r sent
  have hs := run_keeps (new key iv) before
  have hr := run_keeps (new key iv') before'
  have hdes : r.des = s.des := hr.1.trans hs.1.symm
  refine ⟨decryptAll_encryptAll hdes p ps, ?_, ?_⟩
  · rw [decryptAll_last, encryptAll_last]
    rfl
  · have hreset := @decryptAll_encryptAll s.reset r.reset hdes p ps
    rw [hreset]
    exact congrArg₂ (fun a b => (p ^^^ a ^^^ b) :: ps) hs.2 hr.2

end DESCBC

end GB28181.GBUtils
