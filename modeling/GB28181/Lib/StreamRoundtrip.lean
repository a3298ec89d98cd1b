import GB28181.Lib.CDataStream

/-!
# Messages through `CDataStream`

A message is written behind four bytes that are left free for its length: the command at position
4, the other fields behind each other, the finish symbol last.  A reader takes the fields out again
by their lengths.  A data field that is the finish symbol itself puts a length in front too early,
which the last copy puts right.

* `outputFields_eq` — what stands at the cursor is read field by field;
* `message_written` — a message that fits is written, its length in front;
* `message_roundtrip` — and its fields are read again, by whoever has the buffer.
-/

set_option autoImplicit false

namespace GB28181.Lib

open GB28181.Base

namespace CDataStream

/-- `CDataStream::GetLastPos`. -/
def getLastPos (s : CDataStream) : Int := s.m_pLastPos

/-- Copies out of the buffer one after another, each to a place of its size. -/
def outputFields (s : CDataStream) :
    List (Int × Nat) → Except StreamFault (List CStr × CDataStream)
  | [] => .ok ([], s)
  | (nPos, nCount) :: reads => do
    let p ← s.outputData nPos nCount nCount
    let q ← outputFields p.2 reads
    return (p.1 :: q.1, q.2)

def message (command : CStr) (fields : List CStr) : List (Int × CStr) :=
  (4, command) :: appends (fields ++ [[0x23]])

def messageReads (command : CStr) (fields : List CStr) : List (Int × Nat) :=
  (4, command.length) :: fields.map fun field => (-1, field.length)

theorem outputData_ok {s : CDataStream} {nPos : Int} {pre src rest : CStr}
    (hpos : s.offset nPos = pre.length) (hbuf : s.m_pBuf = pre ++ (src ++ rest)) :
    s.outputData nPos src.length src.length = .ok (src, s.moved (s.offset nPos + src.length)) := by
  have hlen : s.m_pBuf.length = pre.length + (src.length + rest.length) := by
    rw [hbuf, List.length_append, List.length_append]
  have htake : (s.m_pBuf.drop (s.offset nPos)).take src.length = src := by
    rw [hbuf, hpos, List.drop_left, List.take_left]
  unfold outputData
  rw [if_neg (by omega), if_neg (by omega), Int.toNat_natCast, htake]

theorem outputFields_cons_ok {s s' : CDataStream} {nPos : Int} {nCount : Nat} {src : CStr}
    {reads : List (Int × Nat)} {p : List CStr × CDataStream}
    (h : s.outputData nPos nCount nCount = .ok (src, s'))
    (hrest : s'.outputFields reads = .ok p) :
    s.outputFields ((nPos, nCount) :: reads) = .ok (src :: p.1, p.2) := by
  rw [outputFields, h]
  show (s'.outputFields reads >>= _) = _
  rw [hrest]
  rfl

/-- Fields that stand behind each other at the cursor are read in order. -/
theorem outputFields_eq (fields : List CStr) (rest : CStr) : ∀ {s : CDataStream} {pre : CStr},
    s.m_pCurPos = pre.length → s.m_pBuf = pre ++ (fields.flatten ++ rest) →
    ∃ s', s.outputFields (fields.map fun field => (-1, field.length)) = .ok (fields, s') := by
  induction fields with
  | nil =>
    intro s pre _ _
    exact ⟨s, rfl⟩
  | cons field fields ih =>
    intro s pre hpos hbuf
    rw [List.flatten_cons, List.append_assoc] at hbuf
    have hread := outputData_ok (show s.offset (-1) = pre.length from hpos) hbuf
    have hpos' : s.m_pCurPos + field.length = (pre ++ field).length := by
      rw [List.length_append, hpos]
    rw [← List.append_assoc] at hbuf
    obtain ⟨s', hs'⟩ := @ih (s.moved (s.m_pCurPos + field.length)) (pre ++ field) hpos' hbuf
    exact ⟨s', outputFields_cons_ok hread hs'⟩

section

variable {pBuf command : CStr} {fields : List CStr} {nBufSize : Int}

theorem inputData_command (hroom : nBufSize ≤ pBuf.length)
    (hsize : 4 + command.length ≤ nBufSize) :
    ∃ s, inputData (CDataStream.new pBuf nBufSize) (4, command) = .ok s ∧ Content s command ∧
      s.m_nBufSize = nBufSize := by
  have hinside : (CDataStream.new pBuf nBufSize).Inside (4, command) := by
    show ((4 : Nat) + command.length : Int) ≤ nBufSize
    exact hsize
  have hlen : 4 + command.length ≤ pBuf.length := by omega
  have hwrite : inputData (CDataStream.new pBuf nBufSize) (4, command) =
      .ok ({ CDataStream.new pBuf nBufSize with m_pBuf := overwrite pBuf 4 command }.moved
        (4 + command.length)) := by
    unfold inputData
    rw [if_neg (by simp), copyIn_ok hinside hroom]
    rfl
  refine ⟨_, hwrite, ⟨rfl, ?_, ?_, pBuf.take 4, pBuf.drop (4 + command.length), ?_, rfl⟩, rfl⟩
  · show max 0 (4 + command.length) = _
    omega
  · show nBufSize ≤ (overwrite pBuf 4 command).length
    rwa [overwrite_length hlen]
  · rw [List.length_take]
    omega

/-- **A message that fits is written, its length in front.** -/
theorem message_written (hroom : nBufSize ≤ pBuf.length)
    (hsize : 5 + (command :: fields).flatten.length ≤ nBufSize) :
    ∃ s rest, tryRun inputData (CDataStream.new pBuf nBufSize) (message command fields) = .ok s ∧
      s.getLastPos = 5 + (command :: fields).flatten.length ∧
      s.m_pBuf = int32Bytes ((command :: fields).flatten.length + 1) ++
        (command :: fields).flatten ++ 0x23 :: rest := by
  rw [List.flatten_cons, List.length_append] at hsize ⊢
  have hsize₀ : 4 + command.length ≤ nBufSize := by omega
  obtain ⟨s₁, hcommand, hcontent₁, hsize₁⟩ := inputData_command hroom hsize₀
  obtain ⟨s₂, hfields, hcontent₂, hsize₂⟩ := tryRun_appends fields hcontent₁ (by
    rw [hsize₁]
    push_cast at hsize ⊢
    omega)
  have hinside : s₂.Inside (-1, [0x23]) := hcontent₂.inside_iff.mpr (by
    rw [List.length_append, hsize₂, hsize₁, List.length_singleton]
    push_cast at hsize ⊢
    omega)
  obtain ⟨s₃, hcopy, hcontent₃, -⟩ := hcontent₂.copyIn hinside
  obtain ⟨s, hput, hcontent, -, htake⟩ := hcontent₃.putLength
  have hfinish : inputData s₂ (-1, [0x23]) = .ok s := by
    unfold inputData
    rw [if_pos ⟨by decide, rfl⟩, hcopy]
    exact hput
  refine ⟨s, s.m_pBuf.drop s.m_pLastPos, ?_, ?_, ?_⟩
  · have hlast : appends (fields ++ [[0x23]]) = appends fields ++ [(-1, [0x23])] := List.map_append
    rw [message, tryRun_cons_ok hcommand, hlast, tryRun_append_ok _ hfields,
      tryRun_cons_ok hfinish]
    rfl
  · rw [getLastPos, hcontent.last, List.length_append, List.length_append, List.length_singleton]
    push_cast
    omega
  · conv_lhs => rw [← List.take_append_drop s.m_pLastPos s.m_pBuf, htake]
    simp [Int.add_assoc]

/-- **Messages round trip**: the length in front is that of what stands behind it, and whoever has
the buffer reads the fields by their lengths. -/
theorem message_roundtrip (hint : nBufSize ≤ 2147483647) (hroom : nBufSize ≤ pBuf.length)
    (hsize : 5 + (command :: fields).flatten.length ≤ nBufSize) :
    ∃ s, tryRun inputData (CDataStream.new pBuf nBufSize) (message command fields) = .ok s ∧
      s.getLastPos = 5 + (command :: fields).flatten.length ∧
      int32Value (s.m_pBuf.take 4) = s.getLastPos - 4 ∧
      ∀ r : CDataStream, r.m_pBuf = s.m_pBuf →
        ∃ r', r.outputFields (messageReads command fields) = .ok (command :: fields, r') := by
  obtain ⟨s, rest, hrun, hlast, hbuf⟩ := message_written hroom hsize
  refine ⟨s, hrun, hlast, ?_, ?_⟩
  · rw [hbuf, List.append_assoc, List.take_left' (int32Bytes_length _), hlast,
      ← List.append_nil (int32Bytes _), int32Value_bytes (by omega) (by omega)]
    omega
  · intro r hr
    generalize hhead : int32Bytes ((command :: fields).flatten.length + 1) = head at hbuf
    have hlen : head.length = 4 := by rw [← hhead, int32Bytes_length]
    have hr' : r.m_pBuf = head ++ (command ++ (fields.flatten ++ 0x23 :: rest)) := by
      rw [hr, hbuf, List.flatten_cons, List.append_assoc, List.append_assoc]
    have hread : r.outputData 4 command.length command.length =
        .ok (command, r.moved (4 + command.length)) := outputData_ok hlen.symm hr'
    rw [← List.append_assoc] at hr'
    have hpos : (r.moved (4 + command.length)).m_pCurPos = (head ++ command).length := by
      rw [List.length_append, hlen]
      rfl
    obtain ⟨r', hfields⟩ := outputFields_eq fields (0x23 :: rest) hpos hr'
    exact ⟨r', outputFields_cons_ok hread hfields⟩

/-- A field that is the finish symbol itself, in a buffer that just fits. -/
theorem message_roundtrip_marker :
    ∃ s, tryRun inputData (CDataStream.new (List.replicate 11 0) 11)
        (message [1, 0, 0, 0] [[0x23], [7]]) = .ok s ∧
      s.getLastPos = 5 + ([[1, 0, 0, 0], [0x23], [7]] : List CStr).flatten.length ∧
      int32Value (s.m_pBuf.take 4) = s.getLastPos - 4 ∧
      ∀ r : CDataStream, r.m_pBuf = s.m_pBuf →
        ∃ r', r.outputFields (messageReads [1, 0, 0, 0] [[0x23], [7]]) =
          .ok ([[1, 0, 0, 0], [0x23], [7]], r') :=
  message_roundtrip (by decide) (by decide) (by decide)

end

end CDataStream

end GB28181.Lib
