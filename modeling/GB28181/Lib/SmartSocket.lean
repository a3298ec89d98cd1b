import GB28181.Base.Fallible
import GB28181.Base.Memory
import GB28181.Lib.TcpSend

/-!
# Frames of the adapter (`GB28181.Lib/SmartSocket.cpp`)

A frame is a four byte length `n`, then `n` bytes, the last of them `#`.  `ProRawData` is handed
one read of the socket; a frame that a read cuts is kept in `pIncompleteData` with the number of
bytes that are missing.  What is undefined in the source is a `Fault` here.

Principal results:

* `proRawData_none`, `proRawData_overflow`, `proRawData_unmarked`, `proRawData_marked` — what a
  call does, by the frame it finds incomplete;
* `reads_harmless_iff` — no read of a run does harm **exactly when every read is `Safe`**, which
  arbitrary bytes need not be.
-/

set_option autoImplicit false

namespace GB28181.Lib

open GB28181.Base

/-- What the bytes of a read must not lead to. -/
inductive Fault where
  | readPastRead
  | writePastBuffer
  | badIndex
  | negativeSize
  | queuedIncomplete
  deriving DecidableEq

/-- `CSmartSocket` with what receiving needs. -/
structure RawReceiver extends CSmartSocket where
  nSurplus : Int
  m_vecRawDataPkgList : List CStr
  deriving DecidableEq

/-- `CSmartSocket::CSmartSocket`. -/
def RawReceiver.init : RawReceiver :=
  { pIncompleteData := none, nSurplus := 0, m_vecRawDataPkgList := [] }

/-- `CSmartSocket::AddDataToList`. -/
def RawReceiver.addDataToList (s : RawReceiver) (pData : CStr) : RawReceiver :=
  { s with m_vecRawDataPkgList := s.m_vecRawDataPkgList ++ [pData] }

/-- `raw_data_t(nSize)`: `new char[nSize]` leaves the memory as it was. -/
def rawData (junk : Nat → UInt8) (nSize : Nat) : CStr := uninitialised junk nSize

/-- `'#' == pDataBuf[nDataSize+3]`. -/
def marked (pDataBuf : CStr) (nDataSize : Int) : Bool :=
  pDataBuf[(nDataSize + 3).toNat]? == some 0x23

/-- The loop of `ProRawData`; `b` is what is left of the read, `junk` the memory that `new` gives
out. -/
def frameLoop (junk : Nat → UInt8) (s : RawReceiver) (b : CStr) :
    Except Fault (Int × RawReceiver) :=
  if b = [] then .ok (0, s)
  else if b.length < 4 then .error .readPastRead
  else if int32Value b + 4 < 0 ∨ 2147483647 < int32Value b + 4 then .error .negativeSize
  else if b.length < int32Value b + 4 then
    if marked (overwrite (rawData junk (int32Value b + 4).toNat) 0 b) (int32Value b) then
      .error .queuedIncomplete
    else
      .ok (-1, { s with
        pIncompleteData := some (overwrite (rawData junk (int32Value b + 4).toNat) 0 b)
        nSurplus := int32Value b + 4 - b.length })
  -- the marker is looked up before the buffer
  else if int32Value b + 4 = 0 then .error .badIndex
  else if marked (b.take (int32Value b + 4).toNat) (int32Value b) then
    frameLoop junk
      ({ s with pIncompleteData := none, nSurplus := 0 }.addDataToList
        (b.take (int32Value b + 4).toNat))
      (b.drop (int32Value b + 4).toNat)
  else .ok (-1, { s with pIncompleteData := none, nSurplus := 0 })
termination_by b.length
decreasing_by
  rw [List.length_drop]
  omega

/-- `ProRawData` from the check of the first length on. -/
def proFrames (junk : Nat → UInt8) (s : RawReceiver) (pBuf : CStr) :
    Except Fault (Int × RawReceiver) :=
  if pBuf.length < 4 then .error .readPastRead
  else if 50000 < int32Value pBuf ∨ 8 > int32Value pBuf then .ok (-1, s)
  else frameLoop junk s pBuf

/-- `CSmartSocket::ProRawData`. -/
def proRawData (junk : Nat → UInt8) (s : RawReceiver) (pBuf : CStr) :
    Except Fault (Int × RawReceiver) :=
  match s.pIncompleteData with
  | none => proFrames junk s pBuf
  | some pDataBuf =>
    if pDataBuf.length < 4 then .error .readPastRead
    else if int32Value pDataBuf - s.nSurplus + 4 < 0 ∨
        pDataBuf.length < int32Value pDataBuf - s.nSurplus + 4 + pBuf.length then
      .error .writePastBuffer
    else if int32Value pDataBuf + 3 < 0 ∨ pDataBuf.length ≤ int32Value pDataBuf + 3 then
      .error .badIndex
    else if ! marked (overwrite pDataBuf (int32Value pDataBuf - s.nSurplus + 4).toNat pBuf)
        (int32Value pDataBuf) then
      .ok (-1, { s with
        pIncompleteData :=
          if 0 > s.nSurplus - pBuf.length then none
          else some (overwrite pDataBuf (int32Value pDataBuf - s.nSurplus + 4).toNat pBuf)
        nSurplus := s.nSurplus - pBuf.length })
    else if pBuf.length < s.nSurplus then .error .queuedIncomplete
    else
      proFrames junk
        { s.addDataToList
            (overwrite pDataBuf (int32Value pDataBuf - s.nSurplus + 4).toNat pBuf) with
          pIncompleteData := none }
        pBuf

/-- A call of `ProRawData` with one read, or of `SendData`. -/
inductive Input where
  | read (pBuf : CStr) (junk : Nat → UInt8)
  | send (buf : CStr) (results : List SendResult)

def step (s : RawReceiver) : Input → Except Fault RawReceiver
  | .read pBuf junk => (proRawData junk s pBuf).map Prod.snd
  | .send buf results =>
    .ok { s with toCSmartSocket := (s.toCSmartSocket.sendData buf results).2 }

/-! ### Buffers -/

theorem rawData_length (junk : Nat → UInt8) (n : Nat) : (rawData junk n).length = n :=
  uninitialised_length junk n

/-- The buffer of a frame that a read has begun. -/
structure Partial (nSurplus : Int) (pDataBuf : CStr) : Prop where
  size : (pDataBuf.length : Int) = int32Value pDataBuf + 4
  missing : 0 ≤ nSurplus
  begun : nSurplus + 4 ≤ pDataBuf.length
  unmarked : marked pDataBuf (int32Value pDataBuf) = false

section

variable {nSurplus : Int} {buf pBuf : CStr}

theorem Partial.index (h : Partial nSurplus buf) :
    ((int32Value buf - nSurplus + 4).toNat : Int) = buf.length - nSurplus := by
  obtain ⟨hsize, hmissing, hbegun, -⟩ := h
  omega

/-- The marker is in place as soon as a read brings the missing bytes and ends with it. -/
theorem Partial.marked_iff (h : Partial nSurplus buf) (hle : pBuf.length ≤ nSurplus) :
    marked (overwrite buf (int32Value buf - nSurplus + 4).toNat pBuf) (int32Value buf) = true ↔
      (pBuf.length : Int) = nSurplus ∧ pBuf.getLast? = some 0x23 := by
  have hindex := h.index
  obtain ⟨hsize, hmissing, hbegun, hunmarked⟩ := h
  have hlast : (int32Value buf + 3).toNat = buf.length - 1 := by omega
  rw [marked, hlast] at hunmarked ⊢
  rw [List.getLast?_eq_getElem?]
  by_cases hfull : (pBuf.length : Int) = nSurplus ∧ pBuf ≠ []
  · have hpos := List.length_pos_of_ne_nil hfull.2
    rw [overwrite_getElem?_of_lt (by omega) (by omega) (by omega),
      show buf.length - 1 - (int32Value buf - nSurplus + 4).toNat = pBuf.length - 1 by omega,
      beq_iff_eq]
    exact (and_iff_right hfull.1).symm
  · have hkeep : (overwrite buf (int32Value buf - nSurplus + 4).toNat pBuf)[buf.length - 1]? =
        buf[buf.length - 1]? := by
      cases pBuf with
      | nil => simp [overwrite]
      | cons c cs =>
        have hne : (List.length (c :: cs) : Int) ≠ nSurplus := fun he =>
          hfull ⟨he, List.cons_ne_nil c cs⟩
        exact overwrite_getElem?_of_ge (by omega) (by omega)
    rw [hkeep, hunmarked]
    constructor
    · intro hfalse
      cases hfalse
    · rintro ⟨heq, hmark⟩
      have hnil : pBuf = [] := Decidable.byContradiction fun hne => hfull ⟨heq, hne⟩
      rw [hnil] at hmark
      cases hmark

theorem Partial.extend (h : Partial nSurplus buf) (hle : pBuf.length ≤ nSurplus)
    (hmark : ¬ marked (overwrite buf (int32Value buf - nSurplus + 4).toNat pBuf)
      (int32Value buf) = true) :
    Partial (nSurplus - pBuf.length)
      (overwrite buf (int32Value buf - nSurplus + 4).toNat pBuf) := by
  have hindex := h.index
  obtain ⟨hsize, hmissing, hbegun, -⟩ := h
  have hlen : (overwrite buf (int32Value buf - nSurplus + 4).toNat pBuf).length =
      buf.length := overwrite_length (by omega)
  have hvalue : int32Value (overwrite buf (int32Value buf - nSurplus + 4).toNat pBuf) =
      int32Value buf := int32Value_overwrite (by omega) (by omega)
  constructor
  · rw [hlen, hvalue, hsize]
  · omega
  · rw [hlen]
    omega
  · rw [hvalue]
    exact Bool.not_eq_true _ ▸ hmark

end

theorem marked_cut {junk : Nat → UInt8} {b : CStr} (hcut : b.length < int32Value b + 4) :
    marked (overwrite (rawData junk (int32Value b + 4).toNat) 0 b) (int32Value b) = true ↔
      junk (int32Value b + 3).toNat = 0x23 := by
  rw [marked, overwrite_getElem?_of_ge (Nat.zero_le _) (by omega), rawData,
    uninitialised_getElem? (by omega), beq_iff_eq, Option.some.injEq]

theorem partial_cut {junk : Nat → UInt8} {b : CStr} (h4 : 4 ≤ b.length)
    (hcut : b.length < int32Value b + 4)
    (hmark : ¬ marked (overwrite (rawData junk (int32Value b + 4).toNat) 0 b)
      (int32Value b) = true) :
    Partial (int32Value b + 4 - b.length)
      (overwrite (rawData junk (int32Value b + 4).toNat) 0 b) := by
  have hlen : (overwrite (rawData junk (int32Value b + 4).toNat) 0 b).length =
      (int32Value b + 4).toNat := by
    rw [overwrite_length (by rw [rawData_length]; omega), rawData_length]
  have hvalue : int32Value (overwrite (rawData junk (int32Value b + 4).toNat) 0 b) =
      int32Value b := by rw [overwrite_zero, int32Value_append h4]
  constructor
  · rw [hlen, hvalue]
    omega
  · omega
  · rw [hlen]
    omega
  · rw [hvalue]
    exact Bool.not_eq_true _ ▸ hmark

/-! ### Harmless reads -/

/-- Between two calls a frame that is kept is a frame that has been begun. -/
def Good (s : RawReceiver) : Prop :=
  ∀ buf, s.pIncompleteData = some buf → Partial s.nSurplus buf

theorem good_of_none {s : RawReceiver} (h : s.pIncompleteData = none) : Good s := by
  intro buf hbuf
  rw [h] at hbuf
  cases hbuf

/-- The rest of a read is a sequence of frames of at least one byte, up to one whose marker is
missing or one that is cut after its length.  In the last case the byte of the memory where the
marker will come is not one. -/
inductive LoopSafe (junk : Nat → UInt8) : CStr → Prop
  | done : LoopSafe junk []
  | cut {b : CStr} : 4 ≤ b.length → b.length < int32Value b + 4 →
      int32Value b + 4 ≤ 2147483647 → junk (int32Value b + 3).toNat ≠ 0x23 → LoopSafe junk b
  | whole {b : CStr} : 4 ≤ b.length → int32Value b + 4 ≤ b.length → 0 < int32Value b + 4 →
      int32Value b + 4 ≤ 2147483647 →
      (marked (b.take (int32Value b + 4).toNat) (int32Value b) = true →
        LoopSafe junk (b.drop (int32Value b + 4).toNat)) →
      LoopSafe junk b

/-- A read that is looked at from its start. -/
def FirstSafe (junk : Nat → UInt8) (pBuf : CStr) : Prop :=
  4 ≤ pBuf.length ∧ (8 ≤ int32Value pBuf ∧ int32Value pBuf ≤ 50000 → LoopSafe junk pBuf)

/-- While a frame is kept, a read has at most the bytes it misses; one that finishes it is looked
at from its start as well. -/
def Safe (s : RawReceiver) : Input → Prop
  | .send _ _ => True
  | .read pBuf junk =>
    (s.pIncompleteData = none → FirstSafe junk pBuf) ∧
      (s.pIncompleteData ≠ none → pBuf.length ≤ s.nSurplus ∧
        ((pBuf.length : Int) = s.nSurplus → pBuf.getLast? = some 0x23 → FirstSafe junk pBuf))

theorem frameLoop_ok_iff {junk : Nat → UInt8} {s : RawReceiver} {b : CStr} :
    (∃ r, frameLoop junk s b = .ok r) ↔ LoopSafe junk b := by
  fun_induction frameLoop junk s b with
  | case1 s => exact ⟨fun _ => .done, fun _ => ⟨_, rfl⟩⟩
  | case2 s b hne hshort =>
    refine iff_of_false error_not_ok fun h => ?_
    cases h with
    | done => exact absurd rfl hne
    | cut h4 => omega
    | whole h4 => omega
  | case3 s b hne hshort hneg =>
    refine iff_of_false error_not_ok fun h => ?_
    cases h with
    | done => exact absurd rfl hne
    | cut h4 hcut hmax => omega
    | whole h4 hwhole hpos hmax => omega
  | case4 s b hne hshort hneg hcut hmark =>
    refine iff_of_false error_not_ok fun h => ?_
    cases h with
    | done => exact absurd rfl hne
    | cut h4 _ hmax hjunk => exact absurd ((marked_cut hcut).mp hmark) hjunk
    | whole h4 hwhole hpos hmax => omega
  | case5 s b hne hshort hneg hcut hmark =>
    refine ⟨fun _ => .cut (by omega) hcut (by omega) ?_, fun _ => ⟨_, rfl⟩⟩
    exact fun hjunk => hmark ((marked_cut hcut).mpr hjunk)
  | case6 s b hne hshort hneg hcut hzero =>
    refine iff_of_false error_not_ok fun h => ?_
    cases h with
    | done => exact absurd rfl hne
    | cut h4 hcut' => omega
    | whole h4 hwhole hpos => omega
  | case7 s b hne hshort hneg hcut hzero hmark ih =>
    rw [ih]
    constructor
    · exact fun h => .whole (by omega) (by omega) (by omega) (by omega) fun _ => h
    · intro h
      cases h with
      | done => exact absurd rfl hne
      | cut h4 hcut' => omega
      | whole h4 hwhole hpos hmax hrest => exact hrest hmark
  | case8 s b hne hshort hneg hcut hzero hmark =>
    exact ⟨fun _ => .whole (by omega) (by omega) (by omega) (by omega) fun h => absurd h hmark,
      fun _ => ⟨_, rfl⟩⟩

theorem frameLoop_good {junk : Nat → UInt8} {s : RawReceiver} {b : CStr} {r : Int × RawReceiver}
    (hs : Good s) (h : frameLoop junk s b = .ok r) : Good r.2 := by
  fun_induction frameLoop junk s b with
  | case1 s =>
    cases h
    exact hs
  | case5 s b hne hshort hneg hcut hmark =>
    cases h
    intro buf hbuf
    cases hbuf
    exact partial_cut (by omega) hcut hmark
  | case7 s b hne hshort hneg hcut hzero hmark ih => exact ih (good_of_none rfl) h
  | case8 s b hne hshort hneg hcut hzero hmark =>
    cases h
    exact good_of_none rfl
  | _ => cases h

theorem proFrames_ok_iff {junk : Nat → UInt8} {s : RawReceiver} {pBuf : CStr} :
    (∃ r, proFrames junk s pBuf = .ok r) ↔ FirstSafe junk pBuf := by
  unfold proFrames FirstSafe
  by_cases h4 : pBuf.length < 4
  · rw [if_pos h4]
    exact iff_of_false error_not_ok fun h => absurd h.1 (by omega)
  · rw [if_neg h4]
    by_cases hrange : 50000 < int32Value pBuf ∨ 8 > int32Value pBuf
    · rw [if_pos hrange]
      exact ⟨fun _ => ⟨by omega, fun h => by omega⟩, fun _ => ⟨_, rfl⟩⟩
    · rw [if_neg hrange, frameLoop_ok_iff]
      exact ⟨fun h => ⟨by omega, fun _ => h⟩, fun h => h.2 (by omega)⟩

theorem proFrames_good {junk : Nat → UInt8} {s : RawReceiver} {pBuf : CStr}
    {r : Int × RawReceiver} (hs : Good s) (h : proFrames junk s pBuf = .ok r) : Good r.2 := by
  unfold proFrames at h
  split at h
  · cases h
  · split at h
    · cases h
      exact hs
    · exact frameLoop_good hs h

section

variable {junk : Nat → UInt8} {s : RawReceiver} {buf pBuf : CStr}

theorem proRawData_none (h : s.pIncompleteData = none) :
    proRawData junk s pBuf = proFrames junk s pBuf := by
  unfold proRawData
  rw [h]

theorem proRawData_overflow (h : s.pIncompleteData = some buf) (hp : Partial s.nSurplus buf)
    (hlt : s.nSurplus < pBuf.length) : proRawData junk s pBuf = .error .writePastBuffer := by
  obtain ⟨hsize, hmissing, hbegun, -⟩ := hp
  unfold proRawData
  rw [h]
  dsimp only
  rw [if_neg (by omega), if_pos (by omega)]

theorem proRawData_unmarked (h : s.pIncompleteData = some buf) (hp : Partial s.nSurplus buf)
    (hle : pBuf.length ≤ s.nSurplus)
    (hmark : ¬ marked (overwrite buf (int32Value buf - s.nSurplus + 4).toNat pBuf)
      (int32Value buf) = true) :
    proRawData junk s pBuf = .ok (-1, { s with
      pIncompleteData := some (overwrite buf (int32Value buf - s.nSurplus + 4).toNat pBuf)
      nSurplus := s.nSurplus - pBuf.length }) := by
  obtain ⟨hsize, hmissing, hbegun, -⟩ := hp
  rw [Bool.not_eq_true] at hmark
  unfold proRawData
  rw [h]
  dsimp only
  rw [if_neg (by omega), if_neg (by omega), if_neg (by omega), if_pos (by rw [hmark]; rfl),
    if_neg (by omega)]

theorem proRawData_marked (h : s.pIncompleteData = some buf) (hp : Partial s.nSurplus buf)
    (hle : pBuf.length ≤ s.nSurplus)
    (hmark : marked (overwrite buf (int32Value buf - s.nSurplus + 4).toNat pBuf)
      (int32Value buf) = true) :
    proRawData junk s pBuf =
      proFrames junk
        { s.addDataToList (overwrite buf (int32Value buf - s.nSurplus + 4).toNat pBuf) with
          pIncompleteData := none }
        pBuf := by
  have hfull := ((hp.marked_iff hle).mp hmark).1
  obtain ⟨hsize, hmissing, hbegun, -⟩ := hp
  unfold proRawData
  rw [h]
  dsimp only
  rw [if_neg (by omega), if_neg (by omega), if_neg (by omega), if_neg (by rw [hmark]; simp),
    if_neg (by omega)]

end

theorem map_snd_ok_iff {φ α β : Type} {x : Except φ (α × β)} {b : β} :
    x.map Prod.snd = .ok b ↔ ∃ a, x = .ok (a, b) := by
  cases x with
  | error e =>
    constructor
    · intro h
      cases h
    · rintro ⟨a, h⟩
      cases h
  | ok p =>
    constructor
    · intro h
      cases h
      exact ⟨p.1, rfl⟩
    · rintro ⟨a, h⟩
      cases h
      rfl

theorem step_read_ok_iff {s : RawReceiver} {pBuf : CStr} {junk : Nat → UInt8} :
    (∃ s', step s (.read pBuf junk) = .ok s') ↔ ∃ r, proRawData junk s pBuf = .ok r := by
  simp only [step, map_snd_ok_iff]
  exact ⟨fun ⟨s', a, h⟩ => ⟨(a, s'), h⟩, fun ⟨r, h⟩ => ⟨r.2, r.1, h⟩⟩

theorem step_ok_iff {s : RawReceiver} {i : Input} (hs : Good s) :
    (∃ s', step s i = .ok s') ↔ Safe s i := by
  cases i with
  | send buf results => exact iff_of_true ⟨_, rfl⟩ trivial
  | read pBuf junk =>
    rw [step_read_ok_iff]
    cases hinc : s.pIncompleteData with
    | none =>
      rw [proRawData_none hinc, proFrames_ok_iff]
      exact ⟨fun h => ⟨fun _ => h, fun hne => absurd hinc hne⟩, fun h => h.1 hinc⟩
    | some buf =>
      have hp := hs buf hinc
      have hne : s.pIncompleteData ≠ none := by
        rw [hinc]
        exact Option.some_ne_none buf
      rw [Safe, and_iff_right (fun h => absurd h hne), forall_prop_of_true hne]
      by_cases hle : pBuf.length ≤ s.nSurplus
      · have hiff := hp.marked_iff hle
        rw [and_iff_right hle]
        by_cases hmark : marked (overwrite buf (int32Value buf - s.nSurplus + 4).toNat pBuf)
            (int32Value buf) = true
        · obtain ⟨hfull, hlast⟩ := hiff.mp hmark
          rw [proRawData_marked hinc hp hle hmark, proFrames_ok_iff]
          exact ⟨fun h _ _ => h, fun h => h hfull hlast⟩
        · rw [proRawData_unmarked hinc hp hle hmark]
          exact iff_of_true ⟨_, rfl⟩ fun hfull hlast => absurd (hiff.mpr ⟨hfull, hlast⟩) hmark
      · rw [proRawData_overflow hinc hp (by omega)]
        exact iff_of_false error_not_ok fun h => hle h.1

theorem step_good {s s' : RawReceiver} {i : Input} (hs : Good s) (h : step s i = .ok s') :
    Good s' := by
  cases i with
  | send buf results =>
    cases h
    exact good_of_none rfl
  | read pBuf junk =>
    obtain ⟨a, h⟩ := map_snd_ok_iff.mp h
    cases hinc : s.pIncompleteData with
    | none => exact proFrames_good hs (proRawData_none hinc ▸ h)
    | some buf =>
      have hp := hs buf hinc
      by_cases hle : pBuf.length ≤ s.nSurplus
      · by_cases hmark : marked (overwrite buf (int32Value buf - s.nSurplus + 4).toNat pBuf)
            (int32Value buf) = true
        · rw [proRawData_marked hinc hp hle hmark] at h
          exact proFrames_good (good_of_none rfl) h
        · rw [proRawData_unmarked hinc hp hle hmark] at h
          cases h
          intro buf' hbuf'
          cases hbuf'
          exact hp.extend hle hmark
      · rw [proRawData_overflow hinc hp (by omega)] at h
        cases h

/-- **Received bytes are harmless exactly when every read of the run is safe.** -/
theorem reads_harmless_iff (inputs : List Input) :
    (∀ p ∈ tryCalls step RawReceiver.init inputs, ∃ s', step p.1 p.2 = .ok s') ↔
      ∀ p ∈ tryCalls step RawReceiver.init inputs, Safe p.1 p.2 := by
  exact forall_tryCalls_iff Good (fun _ _ _ => step_good) (fun _ _ => step_ok_iff)
    (good_of_none rfl) inputs

theorem first_read_cut :
    step RawReceiver.init (.read [8, 0, 0, 0, 1, 2, 3, 4] fun _ => 0) = .ok
      { pIncompleteData := some [8, 0, 0, 0, 1, 2, 3, 4, 0, 0, 0, 0]
        nSurplus := 4
        m_vecRawDataPkgList := [] } := by
  have hloop : frameLoop (fun _ => 0) RawReceiver.init [8, 0, 0, 0, 1, 2, 3, 4] = .ok (-1,
      { pIncompleteData := some [8, 0, 0, 0, 1, 2, 3, 4, 0, 0, 0, 0]
        nSurplus := 4
        m_vecRawDataPkgList := [] }) := by
    rw [frameLoop]
    decide
  show (frameLoop (fun _ => 0) RawReceiver.init [8, 0, 0, 0, 1, 2, 3, 4]).map Prod.snd = _
  rw [hloop]
  rfl

/-- Five more bytes are one too many. -/
theorem long_read_overflows :
    ¬ ∀ p ∈ tryCalls step RawReceiver.init
      [.read [8, 0, 0, 0, 1, 2, 3, 4] fun _ => 0, .read [5, 6, 7, 0x23, 9] fun _ => 0],
      ∃ s', step p.1 p.2 = .ok s' := by
  rw [tryCalls_cons_ok first_read_cut]
  intro h
  obtain ⟨s', hs'⟩ := h _ (List.mem_cons_of_mem _ List.mem_cons_self)
  have hfault : step
      { pIncompleteData := some [8, 0, 0, 0, 1, 2, 3, 4, 0, 0, 0, 0]
        nSurplus := 4
        m_vecRawDataPkgList := [] } (.read [5, 6, 7, 0x23, 9] fun _ => 0) =
      .error .writePastBuffer := rfl
  rw [hfault] at hs'
  cases hs'

end GB28181.Lib
