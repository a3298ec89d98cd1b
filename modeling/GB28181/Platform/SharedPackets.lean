import GB28181.Lib.AdapterRequests
import GB28181.Platform.Keepalive

/-!
# Packets in the shared memory (`SipServiceCom/SIPService.cpp`, `SIPCom/SIPCom.cpp`)

A packet is a block and, behind it, a body with its terminator.  Both processes compute what they
ask `PushAlloc` for, what they announce in `nPackSize` and what they copy.

* `CSIPService.fits_iff` — the SIP process asks for the block only, so its packet fits what it
  asked for **exactly when** it has no body bytes at all;
* `CSIPCom.fits_iff` — the platform asks for the whole packet, which fits **as long as its size is
  an `int`**;
* `packets_fit_iff` — both, for every block, body and announced size.
-/

set_option autoImplicit false

namespace GB28181.Platform.SharedPacket

open GB28181.Base GB28181.Lib
open GB28181.Platform.SIPCom (Config)
open GB28181.Platform.Keepalive (CSIPUnit)

/-- A value as an `int` keeps it. -/
def toInt (n : Int) : Int := Int.bmod n 4294967296

theorem toInt_of_range {n : Int} (hlo : -2147483648 ≤ n) (hhi : n < 2147483648) : toInt n = n := by
  rw [toInt, Int.bmod_def]
  omega

theorem toInt_range (n : Int) : -2147483648 ≤ toInt n ∧ toInt n < 2147483648 := by
  rw [toInt, Int.bmod_def]
  omega

theorem toInt_add_eq_self {n m : Int} (hn : -2147483648 ≤ n ∧ n < 2147483648)
    (hm : -2147483648 ≤ m ∧ m < 2147483648) : toInt (n + m) = n ↔ m = 0 := by
  rw [toInt, Int.bmod_def]
  omega

theorem le_toInt_iff {n : Nat} : (n : Int) ≤ toInt n ↔ n < 2147483648 := by
  constructor
  · intro h
    have hrange := toInt_range n
    omega
  · intro h
    rw [toInt_of_range (by omega) (by omega)]

inductive PackKind where
  | received
  | tosend
deriving DecidableEq

/-- `ipc_sip_block_t`: what the writers set, and its other bytes. -/
structure SipBlock where
  ePackType : PackKind
  nPackSize : Int
  nExtBodySize : Int
  nSeq : Int
  others : CStr

structure Layout where
  /-- `sizeof(ipc_sip_block_t)`, which both writers keep in an `int`. -/
  size : Nat
  image : SipBlock → CStr
  image_length : ∀ b, (image b).length = size
  isInt : size < 2147483648

/-- What a writer did: the block as it left it, the size it asked `PushAlloc` for, its copies by
their distance from the address it got, and the number of body bytes it read. -/
structure Written where
  block : SipBlock
  asked : Int
  copies : List (Nat × CStr)
  bodyRead : Nat

structure Fits (body : Option CharPtr) (w : Written) : Prop where
  written : ∀ c ∈ w.copies, (c.1 + c.2.length : Int) ≤ w.asked
  announced : w.asked = w.block.nPackSize
  read : w.bodyRead ≤ textSize body

/-- What `memcpy_s(dst, nDestSize, src, n)` puts at `dst`: what is larger than the destination is
refused and the destination cleared; a negative size is a very large one. -/
def memcpyS (nDestSize : Int) (src : CStr) : CStr :=
  if 0 ≤ nDestSize ∧ nDestSize < src.length then List.replicate nDestSize.toNat 0 else src

theorem memcpyS_of_length {n : Nat} {src : CStr} (h : src.length = n) : memcpyS n src = src := by
  rw [memcpyS, if_neg (by omega)]

/-- The bytes that are copied behind the block. -/
def bodyCopies (L : Layout) (body : Option CharPtr) (n : Int) (put : CStr → CStr) :
    List (Nat × CStr) :=
  match body with
  | some t => if 0 < n then [(L.size, put (t.bytes n.toNat))] else []
  | none => []

variable (L : Layout) (pushAlloc : Int → Bool)

/-! ## The writer of the SIP process -/

namespace CSIPService

/-- `nExtBodyDataSize`. -/
def extBodySize (pszBody : Option CharPtr) (nBodySize : UInt32) : Int :=
  match pszBody with
  | none => 0
  | some t => toInt (if nBodySize = 0 then t.strlen + 1 else (nBodySize + 1).toNat)

/-- `CSIPService::SendShared`; `pushAlloc` is whether the queue has that much room. -/
def sendShared (pSipPacket : SipBlock) (pszBody : Option CharPtr) (nBodySize : UInt32) : Written :=
  let nBlockSize : Int := L.size
  let nExtBodyDataSize := extBodySize pszBody nBodySize
  let nPacketTotalSize := toInt (nBlockSize + nExtBodyDataSize)
  let block := { pSipPacket with
    ePackType := .received
    nExtBodySize := nExtBodyDataSize
    nPackSize := nPacketTotalSize }
  if pushAlloc nBlockSize then
    { block := block
      asked := nBlockSize
      copies := (0, memcpyS nPacketTotalSize (L.image block)) ::
        bodyCopies L pszBody nExtBodyDataSize (memcpyS nExtBodyDataSize)
      bodyRead := nExtBodyDataSize.toNat }
  else { block := block, asked := nBlockSize, copies := [], bodyRead := 0 }

/-- The body counts for nothing when there is none, or its announced size overflows. -/
theorem extBodySize_eq_zero_iff {pszBody : Option CharPtr} {nBodySize : UInt32} :
    extBodySize pszBody nBodySize = 0 ↔ pszBody = none ∨ nBodySize = 0xffffffff := by
  cases pszBody with
  | none => exact iff_of_true rfl (Or.inl rfl)
  | some t =>
    have hshort := t.short
    rw [or_iff_right (by simp), extBodySize]
    by_cases h0 : nBodySize = 0
    · rw [if_pos h0, CharPtr.strlen, toInt_of_range (by omega) (by omega)]
      refine iff_of_false (by omega) fun h => ?_
      rw [h0] at h
      exact absurd h (by decide)
    · rw [if_neg h0]
      have hlt : nBodySize.toNat < 4294967296 := nBodySize.toNat_lt
      have hsucc : (nBodySize + 1).toNat = (nBodySize.toNat + 1) % 4294967296 := UInt32.toNat_add _ _
      have hmax : nBodySize = 0xffffffff ↔ nBodySize.toNat = 4294967295 :=
        UInt32.toNat_inj.symm
      rw [hmax, hsucc, toInt, Int.bmod_def]
      omega

variable {L pushAlloc}
variable {pSipPacket : SipBlock} {pszBody : Option CharPtr} {nBodySize : UInt32}

theorem sendShared_asked :
    (sendShared L pushAlloc pSipPacket pszBody nBodySize).asked = L.size := by
  rw [sendShared]
  split <;> rfl

theorem sendShared_block :
    (sendShared L pushAlloc pSipPacket pszBody nBodySize).block = { pSipPacket with
      ePackType := .received
      nExtBodySize := extBodySize pszBody nBodySize
      nPackSize := toInt (L.size + extBodySize pszBody nBodySize) } := by
  rw [sendShared]
  split <;> rfl

theorem extBodySize_range :
    -2147483648 ≤ extBodySize pszBody nBodySize ∧ extBodySize pszBody nBodySize < 2147483648 := by
  unfold extBodySize
  split
  · omega
  · exact toInt_range _

/-- **The packet fits exactly when it consists of its block.** -/
theorem fits_iff :
    Fits pszBody (sendShared L pushAlloc pSipPacket pszBody nBodySize) ↔
      pszBody = none ∨ nBodySize = 0xffffffff := by
  have hsize := L.isInt
  have hannounced : (L.size : Int) = toInt (L.size + extBodySize pszBody nBodySize) ↔
      extBodySize pszBody nBodySize = 0 :=
    eq_comm.trans (toInt_add_eq_self ⟨by omega, by omega⟩ extBodySize_range)
  rw [← extBodySize_eq_zero_iff]
  constructor
  · intro h
    apply hannounced.mp
    have heq := h.announced
    rwa [sendShared_asked, sendShared_block] at heq
  · intro h0
    have htotal := hannounced.mpr h0
    constructor
    · intro c hc
      rw [sendShared_asked]
      unfold sendShared at hc
      dsimp only at hc
      split at hc
      · have hnone : bodyCopies L pszBody (extBodySize pszBody nBodySize)
            (memcpyS (extBodySize pszBody nBodySize)) = [] := by
          unfold bodyCopies
          split
          · exact if_neg (by omega)
          · rfl
        rw [hnone, List.mem_singleton] at hc
        subst hc
        dsimp only
        rw [← htotal, memcpyS_of_length (L.image_length _), L.image_length]
        omega
      · cases hc
    · rw [sendShared_asked, sendShared_block]
      exact htotal
    · unfold sendShared
      dsimp only
      split <;> simp [h0]

end CSIPService

/-! ## The writer of the platform -/

namespace CSIPCom

/-- `nBodyDataSize`. -/
def bodyDataSize (pszData : Option CharPtr) : Int :=
  match pszData with
  | none => 0
  | some t => toInt (t.strlen + 1)

/-- `CSIPCom::SendShared`, with the number it returns. -/
def sendShared (cfg : Config) (unit : CSIPUnit) (pExPortHeader : SipBlock)
    (pszData : Option CharPtr) (nSeq : Int) : Written × Int × CSIPUnit :=
  let nHeadSize : Int := L.size
  let nBodyDataSize := bodyDataSize pszData
  let (nCSeq, unit) := if nSeq > 0 then (nSeq, unit) else unit.generateCSeq
  let block := { pExPortHeader with
    ePackType := .tosend
    nPackSize := toInt (nHeadSize + nBodyDataSize)
    nExtBodySize := nBodyDataSize
    nSeq := if cfg.nSipComMode ≠ 1 then nCSeq else pExPortHeader.nSeq }
  let written : Written :=
    if pushAlloc block.nPackSize then
      { block := block
        asked := block.nPackSize
        copies := (0, L.image block) :: bodyCopies L pszData nBodyDataSize id
        bodyRead := nBodyDataSize.toNat }
    else { block := block, asked := block.nPackSize, copies := [], bodyRead := 0 }
  (written, nCSeq, unit)

theorem bodyDataSize_eq (pszData : Option CharPtr) : bodyDataSize pszData = textSize pszData := by
  cases pszData with
  | none => rfl
  | some t =>
    have hshort := t.short
    rw [bodyDataSize, textSize, CharPtr.strlen, toInt_of_range (by omega) (by omega)]
    omega

variable {L pushAlloc}
variable {cfg : Config} {unit : CSIPUnit} {pExPortHeader : SipBlock} {pszData : Option CharPtr}
  {nSeq : Int}

theorem copies_le_iff {block : SipBlock} {asked : Int} :
    (∀ c ∈ (0, L.image block) :: bodyCopies L pszData (textSize pszData) id,
      (c.1 + c.2.length : Int) ≤ asked) ↔ L.size + textSize pszData ≤ asked := by
  rw [List.forall_mem_cons, L.image_length]
  cases pszData with
  | none => simp [bodyCopies, textSize]
  | some t =>
    have hpos : (0 : Int) < textSize (some t) := Int.natCast_pos.mpr (Nat.succ_pos _)
    rw [bodyCopies, if_pos hpos, List.forall_mem_singleton, id_eq, CharPtr.bytes_length,
      Int.toNat_natCast]
    dsimp only
    omega

/-- **The packet fits as long as the queue grants no size that an `int` does not keep.** -/
theorem fits_iff :
    Fits pszData (sendShared L pushAlloc cfg unit pExPortHeader pszData nSeq).1 ↔
      (pushAlloc (toInt (L.size + textSize pszData)) = true →
        L.size + textSize pszData < 2147483648) := by
  unfold sendShared
  dsimp only
  rw [bodyDataSize_eq]
  split
  next hgranted =>
    rw [forall_prop_of_true hgranted, ← le_toInt_iff, Int.natCast_add]
    constructor
    · intro h
      have hwritten := h.written
      dsimp only at hwritten
      rwa [copies_le_iff] at hwritten
    · intro h
      refine ⟨?_, rfl, Nat.le_refl _⟩
      dsimp only
      rwa [copies_le_iff]
  next hrefused =>
    refine iff_of_true ⟨fun c hc => ?_, rfl, Nat.zero_le _⟩ fun h => absurd h hrefused
    cases hc

end CSIPCom

/-! ## Both writers, and the reader -/

/-- **Exactly the packets without body bytes fit what the SIP process asks for, and all packets
whose size is an `int` fit what the platform asks for.** -/
theorem packets_fit_iff (L : Layout) (pushAlloc : Int → Bool) (block : SipBlock)
    (body : Option CharPtr) (nBodySize : UInt32) (cfg : Config) (unit : CSIPUnit) (nSeq : Int) :
    (Fits body (CSIPService.sendShared L pushAlloc block body nBodySize) ↔
      body = none ∨ nBodySize = 0xffffffff) ∧
    (Fits body (CSIPCom.sendShared L pushAlloc cfg unit block body nSeq).1 ↔
      (pushAlloc (toInt (L.size + textSize body)) = true →
        L.size + textSize body < 2147483648)) :=
  ⟨CSIPService.fits_iff, CSIPCom.fits_iff⟩

def smallLayout : Layout where
  size := 8
  image b := int32Bytes b.nPackSize ++ int32Bytes b.nExtBodySize
  image_length _ := rfl
  isInt := by decide

/-- The terminator of an empty body is put behind the eight bytes that were asked for. -/
theorem empty_body_overruns : ¬ ∀ (L : Layout) (block : SipBlock) (body : Option CharPtr)
    (nBodySize : UInt32), Fits body (CSIPService.sendShared L (fun _ => true) block body nBodySize) := by
  intro h
  have hfits := h smallLayout ⟨.tosend, 0, 0, 0, []⟩ (some .nil) 0
  have hwritten := hfits.written (8, [0]) (by decide)
  exact absurd hwritten (by decide)

end GB28181.Platform.SharedPacket
