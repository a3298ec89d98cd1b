import GB28181.Base.Fallible
import GB28181.Base.Memory

/-!
# `CDataStream` (`GB28181.Lib/UACTCP.h`)

A cursor over a buffer.  `InputData` copies into the buffer, `OutputData` out of it.  The memory of
the buffer and its size as the stream was told it are kept apart, since nothing makes them agree.
What is undefined in the source is a `StreamFault` here.

* `inputData_content` — a copy that stays inside the declared size appends to what was written;
* `inputData_finish` — the finish symbol puts the length in front;
* `appends_inside_iff` — all copies of a list stay inside **exactly when their total does**;
* `succeeds_outputData_bind` — a copy out of the buffer is defined **exactly when source and
  destination have the bytes**.
-/

set_option autoImplicit false

namespace GB28181.Lib

open GB28181.Base

inductive StreamFault where
  | readPastBuffer
  | writePastBuffer
  deriving DecidableEq

structure CDataStream where
  m_pBuf : CStr
  m_pCurPos : Nat
  m_pLastPos : Nat
  m_nBufSize : Int
  deriving DecidableEq

/-- `CDataStream::CDataStream`. -/
def CDataStream.new (pBuf : CStr) (nBufSize : Int) : CDataStream :=
  { m_pBuf := pBuf, m_pCurPos := 0, m_pLastPos := 0, m_nBufSize := nBufSize }

/-- `memcpy_s(&mem[i], nDestSize, pSrcBuf, nCount)`: what is larger than the destination is refused
and the destination is cleared.  A negative size is a very large one to the callee. -/
def memcpyS (mem : CStr) (i : Nat) (nDestSize : Int) (src : CStr) : Except StreamFault CStr :=
  if 0 ≤ nDestSize ∧ nDestSize < src.length then
    if i + nDestSize ≤ mem.length then
      .ok (overwrite mem i (List.replicate nDestSize.toNat 0))
    else .error .writePastBuffer
  else if i + src.length ≤ mem.length then .ok (overwrite mem i src)
  else .error .writePastBuffer

theorem memcpyS_ok {mem src : CStr} {i : Nat} {nDestSize : Int} (hdest : src.length ≤ nDestSize)
    (hmem : i + src.length ≤ mem.length) :
    memcpyS mem i nDestSize src = .ok (overwrite mem i src) := by
  rw [memcpyS, if_neg (by omega), if_pos hmem]

namespace CDataStream

/-- Where a copy goes to or comes from. -/
def offset (s : CDataStream) (nPos : Int) : Nat := if 0 > nPos then s.m_pCurPos else nPos.toNat

def moved (s : CDataStream) (pos : Nat) : CDataStream :=
  { s with m_pCurPos := pos, m_pLastPos := max s.m_pLastPos pos }

def copyIn (s : CDataStream) (nPos : Int) (src : CStr) : Except StreamFault CDataStream :=
  (memcpyS s.m_pBuf (s.offset nPos) (s.m_nBufSize - s.offset nPos) src).map fun pBuf =>
    { s with m_pBuf := pBuf }.moved (s.offset nPos + src.length)

/-- The length of what stands behind it; the cursor counts what was refused as well. -/
def putLength (s : CDataStream) : Except StreamFault CDataStream :=
  (memcpyS s.m_pBuf 0 4 (int32Bytes (s.m_pLastPos - 4))).map fun pBuf => { s with m_pBuf := pBuf }

/-- `CDataStream::InputData(nPos, pSrcBuf, nCount)`; the second part of the input are the bytes at
`pSrcBuf`. -/
def inputData (s : CDataStream) (input : Int × CStr) : Except StreamFault CDataStream :=
  if 0 > input.1 ∧ input.2 = [0x23] then s.copyIn input.1 input.2 >>= putLength
  else s.copyIn input.1 input.2

/-- `CDataStream::OutputData(nPos, pSrcBuf, nCount)` into a buffer of `nDestSize` bytes. -/
def outputData (s : CDataStream) (nPos : Int) (nDestSize : Nat) (nCount : Int) :
    Except StreamFault (CStr × CDataStream) :=
  if nCount < 0 ∨ s.m_pBuf.length < s.offset nPos + nCount then .error .readPastBuffer
  else if nDestSize < nCount then .error .writePastBuffer
  else .ok ((s.m_pBuf.drop (s.offset nPos)).take nCount.toNat,
    s.moved (s.offset nPos + nCount.toNat))

/-- The copy stays inside the declared size. -/
def Inside (s : CDataStream) (input : Int × CStr) : Prop :=
  s.offset input.1 + input.2.length ≤ s.m_nBufSize

/-- Behind the four bytes of the length stands `body`, and the cursor stands behind it. -/
structure Content (s : CDataStream) (body : CStr) : Prop where
  cur : s.m_pCurPos = 4 + body.length
  last : s.m_pLastPos = 4 + body.length
  room : s.m_nBufSize ≤ s.m_pBuf.length
  bytes : ∃ head rest, head.length = 4 ∧ s.m_pBuf = head ++ body ++ rest

theorem copyIn_ok {s : CDataStream} {nPos : Int} {src : CStr}
    (hinside : s.Inside (nPos, src)) (hroom : s.m_nBufSize ≤ s.m_pBuf.length) :
    s.copyIn nPos src = .ok
      ({ s with m_pBuf := overwrite s.m_pBuf (s.offset nPos) src }.moved
        (s.offset nPos + src.length)) := by
  have hle : (s.offset nPos + src.length : Int) ≤ s.m_nBufSize := hinside
  rw [copyIn, memcpyS_ok (by omega) (by omega)]
  rfl

theorem putLength_ok {s : CDataStream} (h4 : 4 ≤ s.m_pBuf.length) :
    s.putLength = .ok
      { s with m_pBuf := overwrite s.m_pBuf 0 (int32Bytes (s.m_pLastPos - 4)) } := by
  rw [putLength, memcpyS_ok (by rw [int32Bytes_length]; omega) (by rw [int32Bytes_length]; omega)]
  rfl

section

variable {s : CDataStream} {body src : CStr}

theorem Content.inside_iff (h : Content s body) :
    s.Inside (-1, src) ↔ 4 + body.length + src.length ≤ s.m_nBufSize := by
  rw [Inside, show s.offset (-1) = s.m_pCurPos from rfl, h.cur]
  push_cast
  exact Iff.rfl

theorem Content.copyIn (h : Content s body) (hinside : s.Inside (-1, src)) :
    ∃ s', s.copyIn (-1) src = .ok s' ∧ Content s' (body ++ src) ∧
      s'.m_nBufSize = s.m_nBufSize := by
  have hle := h.inside_iff.mp hinside
  refine ⟨_, copyIn_ok hinside h.room, ?_, rfl⟩
  obtain ⟨hcur, hlast, hroom, head, rest, hhead, hbytes⟩ := h
  have hoff : s.offset (-1) = (head ++ body).length := by
    rw [List.length_append, hhead]
    exact hcur
  have hbuf : overwrite s.m_pBuf (s.offset (-1)) src =
      head ++ (body ++ src) ++ rest.drop src.length := by
    rw [hbytes, hoff, overwrite_append, List.append_assoc head]
  have hlen : (overwrite s.m_pBuf (s.offset (-1)) src).length = s.m_pBuf.length :=
    overwrite_length (by rw [hoff, List.length_append]; omega)
  rw [List.length_append, hhead] at hoff
  constructor
  · show s.offset (-1) + src.length = _
    rw [hoff, List.length_append]
    omega
  · show max s.m_pLastPos (s.offset (-1) + src.length) = _
    rw [hoff, hlast, List.length_append]
    omega
  · show s.m_nBufSize ≤ (overwrite s.m_pBuf (s.offset (-1)) src).length
    rw [hlen]
    exact hroom
  · exact ⟨head, _, hhead, hbuf⟩

theorem Content.putLength (h : Content s body) :
    ∃ s', s.putLength = .ok s' ∧ Content s' body ∧ s'.m_nBufSize = s.m_nBufSize ∧
      s'.m_pBuf.take s'.m_pLastPos = int32Bytes body.length ++ body := by
  obtain ⟨hcur, hlast, hroom, head, rest, hhead, hbytes⟩ := h
  have hlen : 4 ≤ s.m_pBuf.length := by
    rw [hbytes, List.length_append, List.length_append]
    omega
  have hbuf : overwrite s.m_pBuf 0 (int32Bytes (s.m_pLastPos - 4)) =
      int32Bytes body.length ++ body ++ rest := by
    rw [overwrite_zero, hbytes, int32Bytes_length, List.append_assoc, ← hhead, List.drop_left,
      hlast, List.append_assoc]
    congr 2
    omega
  refine ⟨_, putLength_ok hlen, ⟨hcur, hlast, ?_, _, rest, int32Bytes_length _, hbuf⟩, rfl, ?_⟩
  · show s.m_nBufSize ≤ (overwrite s.m_pBuf 0 (int32Bytes (s.m_pLastPos - 4))).length
    rw [overwrite_length (by rw [int32Bytes_length]; omega)]
    exact hroom
  · show (overwrite s.m_pBuf 0 (int32Bytes (s.m_pLastPos - 4))).take s.m_pLastPos = _
    rw [hbuf, hlast]
    exact List.take_left' (by rw [List.length_append, int32Bytes_length])

theorem inputData_content (h : Content s body) (hinside : s.Inside (-1, src)) :
    ∃ s', inputData s (-1, src) = .ok s' ∧ Content s' (body ++ src) ∧
      s'.m_nBufSize = s.m_nBufSize := by
  obtain ⟨s', hcopy, hcontent, hsize⟩ := h.copyIn hinside
  unfold inputData
  dsimp only
  rw [hcopy]
  split
  · obtain ⟨s'', hput, hcontent', hsize', -⟩ := hcontent.putLength
    exact ⟨s'', hput, hcontent', hsize'.trans hsize⟩
  · exact ⟨s', rfl, hcontent, hsize⟩

theorem inputData_finish (h : Content s body) (hinside : s.Inside (-1, [0x23])) :
    ∃ s', inputData s (-1, [0x23]) = .ok s' ∧
      s'.m_pBuf.take s'.m_pLastPos = int32Bytes (body.length + 1) ++ (body ++ [0x23]) := by
  obtain ⟨s', hcopy, hcontent, -⟩ := h.copyIn hinside
  obtain ⟨s'', hput, -, -, htake⟩ := hcontent.putLength
  refine ⟨s'', ?_, ?_⟩
  · unfold inputData
    dsimp only
    rw [hcopy, if_pos ⟨by decide, rfl⟩]
    exact hput
  · rw [htake, List.length_append]
    rfl

end

def appends (fields : List CStr) : List (Int × CStr) := fields.map fun src => (-1, src)

theorem tryRun_appends (fields : List CStr) : ∀ {s : CDataStream} {body : CStr}, Content s body →
    4 + body.length + fields.flatten.length ≤ s.m_nBufSize →
    ∃ s', tryRun inputData s (appends fields) = .ok s' ∧ Content s' (body ++ fields.flatten) ∧
      s'.m_nBufSize = s.m_nBufSize := by
  induction fields with
  | nil =>
    intro s body h _
    exact ⟨s, rfl, by rwa [List.flatten_nil, List.append_nil], rfl⟩
  | cons src fields ih =>
    intro s body h hle
    rw [List.flatten_cons, List.length_append] at hle
    have hinside : s.Inside (-1, src) := h.inside_iff.mpr (by omega)
    obtain ⟨s', hstep, hcontent, hsize⟩ := inputData_content h hinside
    obtain ⟨s'', hrun, hcontent', hsize'⟩ := ih hcontent (by
      rw [List.length_append, hsize]
      omega)
    refine ⟨s'', ?_, ?_, hsize'.trans hsize⟩
    · rw [appends, List.map_cons, tryRun_cons_ok hstep]
      exact hrun
    · rwa [List.flatten_cons, ← List.append_assoc]

/-- **All copies stay inside exactly when their total does.** -/
theorem appends_inside_iff (fields : List CStr) : ∀ {s : CDataStream} {body : CStr},
    Content s body → 4 + body.length ≤ s.m_nBufSize →
    ((∀ p ∈ tryCalls inputData s (appends fields), p.1.Inside p.2) ↔
      4 + body.length + fields.flatten.length ≤ s.m_nBufSize) := by
  induction fields with
  | nil =>
    intro s body _ hle
    exact iff_of_true (fun p hp => by cases hp) hle
  | cons src fields ih =>
    intro s body h hle
    rw [appends, List.map_cons, List.flatten_cons, List.length_append]
    by_cases hinside : s.Inside (-1, src)
    · obtain ⟨s', hstep, hcontent, hsize⟩ := inputData_content h hinside
      rw [tryCalls_cons_ok hstep, List.forall_mem_cons, and_iff_right hinside]
      have hnext := h.inside_iff.mp hinside
      rw [← appends, ih hcontent (by rw [List.length_append, hsize]; omega), List.length_append,
        hsize]
      omega
    · refine iff_of_false (fun hall => hinside (hall _ List.mem_cons_self)) fun hle' => ?_
      exact hinside (h.inside_iff.mpr (by omega))

/-- `OutputData` of an `int`. -/
def outputInt (s : CDataStream) (nPos : Int) : Except StreamFault (Int × CDataStream) :=
  (s.outputData nPos 4 4).map fun p => (int32Value p.1, p.2)

variable {α : Type}

/-- **A copy out of the buffer is defined exactly when source and destination have the bytes.** -/
theorem succeeds_outputData_bind {s : CDataStream} {nPos : Int} {nDestSize : Nat} {nCount : Int}
    {f : CStr × CDataStream → Except StreamFault α} :
    Succeeds (s.outputData nPos nDestSize nCount >>= f) ↔
      (0 ≤ nCount ∧ s.offset nPos + nCount ≤ s.m_pBuf.length ∧ nCount ≤ nDestSize) ∧
        Succeeds (f ((s.m_pBuf.drop (s.offset nPos)).take nCount.toNat,
          s.moved (s.offset nPos + nCount.toNat))) := by
  unfold outputData
  by_cases hsrc : nCount < 0 ∨ s.m_pBuf.length < s.offset nPos + nCount
  · rw [if_pos hsrc]
    exact iff_of_false error_not_ok fun h => by omega
  · rw [if_neg hsrc]
    by_cases hdest : nDestSize < nCount
    · rw [if_pos hdest]
      exact iff_of_false error_not_ok fun h => by omega
    · rw [if_neg hdest]
      exact (and_iff_right (by omega)).symm

theorem succeeds_outputInt_bind {s : CDataStream} {nPos : Int}
    {f : Int × CDataStream → Except StreamFault α} :
    Succeeds (s.outputInt nPos >>= f) ↔
      s.offset nPos + 4 ≤ s.m_pBuf.length ∧
        Succeeds (f (int32Value (s.m_pBuf.drop (s.offset nPos)),
          s.moved (s.offset nPos + 4))) := by
  have hmap : s.outputInt nPos >>= f =
      s.outputData nPos 4 4 >>= fun p => f (int32Value p.1, p.2) := by
    unfold outputInt
    cases s.outputData nPos 4 4 <;> rfl
  rw [hmap, succeeds_outputData_bind]
  by_cases hlen : s.offset nPos + 4 ≤ s.m_pBuf.length
  · have hvalue : int32Value ((s.m_pBuf.drop (s.offset nPos)).take 4) =
        int32Value (s.m_pBuf.drop (s.offset nPos)) := by
      have h4 : 4 ≤ ((s.m_pBuf.drop (s.offset nPos)).take 4).length := by
        rw [List.length_take, List.length_drop]
        omega
      rw [← int32Value_append h4 ((s.m_pBuf.drop (s.offset nPos)).drop 4), List.take_append_drop]
    rw [and_iff_right (by omega), and_iff_right hlen]
    show Succeeds (f (int32Value ((s.m_pBuf.drop (s.offset nPos)).take 4), _)) ↔ _
    rw [hvalue]
    exact Iff.rfl
  · exact iff_of_false (fun h => by omega) fun h => hlen h.1

end CDataStream

end GB28181.Lib
