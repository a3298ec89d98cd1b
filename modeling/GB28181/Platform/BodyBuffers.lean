import Mathlib.Tactic.SplitIfs
import GB28181.Platform.BodyBuilder

/-!
# Body builders and their buffers (`SIPCom/BodyBuilder.cpp`)

A builder keeps to its buffer if it refuses it, or writes within the first `nBufLen` bytes and
reports the bytes of the text.  What its test does not count decides that.

* `Keeps` — what is asked of a call;
* `Counted` — the test of a builder leaves out a number of bytes;
* `Counted.keeps_iff_or` — such a builder keeps to its buffer **exactly when it refuses it or these
  bytes fit as well**;
* `keeps_iff` — the builders one by one.
-/

set_option autoImplicit false

namespace GB28181.Platform.BodyBuilder

open GB28181.Base

/-- The call refuses the buffer, or every byte it writes, the terminator too, is among the first
`nBufLen`; and what it reports are the bytes of the text. -/
def Keeps (nBufLen : Int) : Outcome → Prop
  | .refused => True
  | .aborted => False
  | .written copies terminator reported =>
    (∀ c ∈ copies, ∀ i, c.Covers i → (i : Int) < nBufLen) ∧
      (∀ p ∈ terminator, (p : Int) < nBufLen) ∧
      ∀ n ∈ reported, ∀ i, (∃ c ∈ copies, c.Covers i) ↔ i < n

def Builder.size (b : Builder) : Nat := advance b.pieces + if b.terminated then 1 else 0

/-- The test of the builder leaves out `n` bytes of what it writes. -/
structure Counted (b : Builder) (n : Nat) : Prop where
  laid : Laid b.pieces
  reports : ∀ m ∈ b.nBufLen, m = advance b.pieces
  formats : b.formats = true
  le : b.size ≤ b.test.need + n
  exact : n = 0 ∨ b.size = b.test.need + n

section counted

variable {b : Builder} {n : Nat} {nBufLen : Int}

theorem keeps_of_refused (h : nBufLen < b.test.need) : Keeps nBufLen (b.run nBufLen) := by
  rw [Builder.run, if_pos h]
  trivial

theorem run_of_not_refused (hformats : b.formats = true) (h : ¬ nBufLen < b.test.need) :
    b.run nBufLen = .written (place 0 b.pieces)
      (if b.terminated then some (advance b.pieces) else none) b.nBufLen := by
  rw [Builder.run, if_neg h, hformats, if_neg Bool.noConfusion]

/-- A builder that fails to format a text keeps to its buffer only if it refuses it first. -/
theorem keeps_iff_of_aborts (hformats : b.formats = false) :
    Keeps nBufLen (b.run nBufLen) ↔ nBufLen < b.test.need := by
  refine ⟨fun h => ?_, keeps_of_refused⟩
  by_contra hrefused
  rw [Builder.run, if_neg hrefused, if_pos hformats] at h
  exact h

theorem keeps_written_iff (hlaid : Laid b.pieces)
    (hreports : ∀ m ∈ b.nBufLen, m = advance b.pieces) (m : Nat) :
    Keeps m (.written (place 0 b.pieces)
      (if b.terminated then some (advance b.pieces) else none) b.nBufLen) ↔ b.size ≤ m := by
  have hreported : ∀ n ∈ b.nBufLen, ∀ i, (∃ c ∈ place 0 b.pieces, c.Covers i) ↔ i < n := by
    intro n hn i
    rw [covered_place hlaid, hreports n hn]
    omega
  simp only [Keeps, Nat.cast_lt, within_iff hlaid, and_iff_left hreported, Builder.size]
  cases b.terminated with
  | false =>
    simp only [Bool.false_eq_true, if_false, Nat.add_zero]
    exact and_iff_left fun p hp => by cases hp
  | true =>
    simp only [if_true]
    constructor
    · exact fun h => h.2 _ rfl
    · exact fun h => ⟨by omega, fun p hp => by cases hp; omega⟩

/-- **Such a builder keeps to its buffer exactly when it refuses it or what is left out fits as
well.** -/
theorem Counted.keeps_iff_or (h : Counted b n) :
    Keeps nBufLen (b.run nBufLen) ↔ nBufLen < b.test.need ∨ b.test.need + n ≤ nBufLen := by
  by_cases hrefused : nBufLen < b.test.need
  · exact iff_of_true (keeps_of_refused hrefused) (Or.inl hrefused)
  · obtain ⟨m, rfl⟩ := Int.eq_ofNat_of_zero_le (by omega : 0 ≤ nBufLen)
    rw [run_of_not_refused h.formats hrefused, keeps_written_iff h.laid h.reports,
      or_iff_right hrefused]
    have hle := h.le
    rcases h.exact with hzero | hexact
    · subst hzero
      omega
    · rw [hexact]
      omega

theorem Counted.keeps (h : Counted b 0) : Keeps nBufLen (b.run nBufLen) := by
  rw [h.keeps_iff_or]
  omega

end counted

/-- What is written beyond the tested length is what the test leaves out. -/
theorem counted_of_max {b : Builder} {n : Nat} (hlaid : Laid b.pieces)
    (hreports : ∀ m ∈ b.nBufLen, m = advance b.pieces) (hformats : b.formats = true)
    (h : max b.size b.test.need = b.test.need + n) : Counted b n :=
  ⟨hlaid, hreports, hformats, by omega, by omega⟩

@[simp] theorem length_bytesAt (n : Nat) (s : CStr) : (bytesAt n s).length = n := by
  rw [bytesAt, List.length_take, List.length_append, List.length_replicate]
  omega

/-! ## What the tests leave out -/

section builders

variable (l : Lengths)

theorem laid_optional (strTagS : CStr) (s : Option CStr) (strTagE : CStr) :
    Laid (optional strTagS s strTagE) := laid_pieceIf _ trivial

theorem counted_createKeepaliveBody (pszSN pszDevID : CStr) :
    Counted (createKeepaliveBody l pszSN pszDevID) 0 where
  laid := trivial
  reports m hm := by cases hm
  formats := rfl
  le := by
    simp only [createKeepaliveBody, Builder.size, Test.need, advance_cons, advance_nil,
      Piece.advance, length_bytesAt, Lengths.ID_BUF_LEN, if_true]
    omega
  exact := Or.inl rfl

theorem counted_createAlarmBodyNew (pszSN pszDeviceID alarmPriority alarmMethod alarmTime
    alarmDescription longitude latitude alarmType alarmStatus : Option CStr) :
    Counted (createAlarmBodyNew l pszSN pszDeviceID alarmPriority alarmMethod alarmTime
        alarmDescription longitude latitude alarmType alarmStatus)
      ((pszSN.getD []).length + (if given pszDeviceID then l.ID_LEN else 0) +
        (alarmPriority.getD []).length + (alarmMethod.getD []).length + (alarmTime.getD []).length +
        (alarmDescription.getD []).length + (longitude.getD []).length + (latitude.getD []).length +
        (alarmType.getD []).length + (alarmStatus.getD []).length) := by
  refine counted_of_max ?_ (fun m hm => by cases hm) rfl ?_
  · by_cases hdevice : given pszDeviceID = true
    · rw [createAlarmBodyNew, pieceIf, if_pos hdevice]
      exact ⟨by decide, trivial⟩
    · rw [createAlarmBodyNew, pieceIf, if_neg hdevice]
      trivial
  · simp only [createAlarmBodyNew, Builder.size, Test.need, advance_cons, advance_append,
      advance_pieceIf, advance_nil, Piece.advance, length_bytesAt, Lengths.ID_BUF_LEN, if_true]
    split_ifs <;> omega

theorem counted_createAlarmBody (pszSN pszDevID pszDescription : CStr) (nLevel : UInt8)
    (pszTime : CStr) :
    Counted (createAlarmBody l pszSN pszDevID pszDescription nLevel pszTime)
      ((str "</DeviceID>\r\n<AlarmPriority>").length + pszTime.length) := by
  refine counted_of_max trivial (fun m hm => by cases hm) rfl ?_
  simp only [createAlarmBody, Builder.size, Test.need, advance_cons, advance_nil, Piece.advance,
    length_bytesAt, Lengths.ID_BUF_LEN, if_true]
  omega

/-- What `AddStatusReportBody` writes without counting it, less what it counts in vain. -/
def statusReportUncounted (pszDevID : CStr) (pszName pszParentID pszStatus : Option CStr) : Nat :=
  (pszDevID.length +
      (if 0 < (pszName.getD []).length then
        (str "<Name>").length + (str "</Name>\r\n").length else 0) +
      (if 0 < (pszParentID.getD []).length then
        (str "<ParentID>").length + (pszParentID.getD []).length + (str "</ParentID>\r\n").length
        else 0) +
      (str "</Item>\r\n").length) -
    (l.ID_BUF_LEN + if 0 < (pszStatus.getD []).length then 0 else
      (str "<Event>").length + (str "</Event>\r\n").length)

theorem counted_addStatusReportBody (pszDevID : CStr)
    (pszName pszParentID pszStatus : Option CStr) :
    Counted (addStatusReportBody l pszDevID pszName pszParentID pszStatus)
      (statusReportUncounted l pszDevID pszName pszParentID pszStatus) := by
  refine counted_of_max ?_ (fun m hm => (Option.some.inj hm).symm) rfl ?_
  · exact laid_append (laid_append (laid_append (laid_append trivial (laid_pieceIf _ trivial))
      (laid_pieceIf _ trivial)) (laid_pieceIf _ trivial)) trivial
  · simp only [addStatusReportBody, statusReportUncounted, Builder.size, Test.need, advance_cons,
      advance_append, advance_pieceIf, advance_nil, Piece.advance, Bool.false_eq_true, if_false]
    split_ifs <;> omega

/-- What `CreateInviteAnswerBody` writes without counting it. -/
def inviteUncounted (pszIP : CStr) (pszPassWord pszSSRC : Option CStr) : Nat :=
  (2 * l.ID_LEN + pszIP.length) -
    ((if 0 < (pszPassWord.getD []).length then 0 else (str "\r\na=password:").length) +
      if 0 < (pszSSRC.getD []).length then 0 else (str "\r\ny=").length)

theorem counted_createInviteAnswerBody (pszIP pszPort pszOperateType pszActiveType pszStartTime
    pszEndTime pszID : CStr) (pszPassWord pszSSRC : Option CStr) :
    Counted (createInviteAnswerBody l pszIP pszPort pszOperateType pszActiveType pszStartTime
      pszEndTime pszID pszPassWord pszSSRC) (inviteUncounted l pszIP pszPassWord pszSSRC) := by
  have hblank : (str " ").length = 1 := rfl
  refine counted_of_max ?_ (fun m hm => by cases hm) rfl ?_
  · exact laid_append (laid_append (laid_append trivial (laid_pieceIf _ trivial))
      (laid_pieceIf _ trivial)) trivial
  · simp only [createInviteAnswerBody, inviteUncounted, Builder.size, Test.need, advance_cons,
      advance_append, advance_pieceIf, advance_nil, Piece.advance, length_bytesAt, hblank, if_true]
    split_ifs <;> omega

/-- What the other `CreateInviteAnswerBody` writes without counting it: it counts the media line as
it was. -/
def inviteMediaUncounted (pszIP pszPort pszActiveType : CStr) (pszPassWord pszSSRC : Option CStr)
    (transType mediaType : Int) (pszFileSize : CStr) : Nat :=
  (2 * l.ID_LEN + pszIP.length + (mediaLine transType mediaType pszPort pszActiveType).length +
      if 0 < pszFileSize.length then (str "\r\na=filesize:").length + pszFileSize.length else 0) -
    ((str "\r\nm=video ").length + pszPort.length + (str " RTP/AVP 96\r\na=").length +
      pszActiveType.length +
      (if 0 < (pszPassWord.getD []).length then 0 else (str "\r\na=password:").length) +
      if 0 < (pszSSRC.getD []).length then 0 else (str "\r\ny=").length)

theorem counted_createInviteAnswerBodyMedia (pszIP pszPort pszOperateType pszActiveType
    pszStartTime pszEndTime pszID : CStr) (pszPassWord pszSSRC : Option CStr)
    (transType mediaType : Int) (pszFileSize : CStr)
    (h : (mediaLine transType mediaType pszPort pszActiveType).length < 512) :
    Counted (createInviteAnswerBodyMedia l pszIP pszPort pszOperateType pszActiveType pszStartTime
        pszEndTime pszID pszPassWord pszSSRC transType mediaType pszFileSize)
      (inviteMediaUncounted l pszIP pszPort pszActiveType pszPassWord pszSSRC transType mediaType
        pszFileSize) := by
  have hblank : (str " ").length = 1 := rfl
  refine counted_of_max ?_ (fun m hm => by cases hm) (decide_eq_true h) ?_
  · exact laid_append (laid_append (laid_append (laid_append trivial (laid_pieceIf _ trivial))
      (laid_pieceIf _ trivial)) (laid_pieceIf _ trivial)) trivial
  · simp only [createInviteAnswerBodyMedia, inviteMediaUncounted, Builder.size, Test.need,
      advance_cons, advance_append, advance_pieceIf, advance_nil, Piece.advance, length_bytesAt,
      hblank, if_true]
    split_ifs <;> omega

theorem counted_recordHead (t : HeadTags) (pstrSN pstrDeviceID pstrDeviceName : CStr)
    (nSumNum nListNum : Int) :
    Counted (recordHead l t pstrSN pstrDeviceID pstrDeviceName nSumNum nListNum)
      (t.strEnterTag.length - 2) := by
  refine counted_of_max trivial (fun m hm => (Option.some.inj hm).symm) rfl ?_
  simp only [recordHead, Builder.size, Test.need, advance_cons, advance_nil, Piece.advance,
    length_bytesAt, Lengths.ID_BUF_LEN, Bool.false_eq_true, if_false]
  omega

theorem advance_optional_le (strTagS : CStr) (s : Option CStr) (strTagE : CStr) :
    advance (optional strTagS s strTagE) ≤
      strTagS.length + (s.getD []).length + strTagE.length := by
  refine le_trans (advance_pieceIf_le _ _) ?_
  simp only [advance_cons, advance_nil, Piece.advance]
  omega

theorem advance_buf_le (c : Prop) [Decidable c] (strTagS : List Piece) (n : Nat)
    (s strTagE : CStr) :
    advance (pieceIf c (strTagS ++ [.buf (bytesAt (n + 1) s), .text strTagE])) ≤
      advance strTagS + n + strTagE.length := by
  refine le_trans (advance_pieceIf_le _ _) ?_
  simp only [advance_append, advance_cons, advance_nil, Piece.advance, length_bytesAt]
  omega

theorem counted_addRecordBody (pszDeviceID pstrName pszStartTime pszEndTime pszAddress
    pszFilePath : Option CStr) (nRecordType : Fin 4) (nSecrecy : Int) :
    Counted (addRecordBody l pszDeviceID pstrName pszStartTime pszEndTime pszAddress pszFilePath
      nRecordType nSecrecy) 0 where
  laid := by
    refine laid_append (laid_append (laid_append (laid_append (laid_append (laid_append
      (laid_append trivial (laid_pieceIf _ ?_)) (laid_optional _ _ _)) (laid_optional _ _ _))
      (laid_optional _ _ _)) (laid_pieceIf _ ?_)) (laid_pieceIf _ ?_)) trivial
    · exact ⟨by decide, trivial⟩
    · exact ⟨by decide, trivial⟩
    · exact ⟨by decide, trivial⟩
  reports m hm := (Option.some.inj hm).symm
  formats := rfl
  le := by
    have htype := l.holdsType nRecordType
    have hdevice := advance_buf_le (given pszDeviceID = true) [] l.ID_LEN (pszDeviceID.getD [])
      (str "</DeviceID>\r\n")
    have hname := advance_optional_le (str "<Name>") pstrName (str "</Name>\r\n")
    have hpath := advance_optional_le (str "<FilePath>") pszFilePath (str "</FilePath>\r\n")
    have haddress := advance_optional_le (str "<Address>") pszAddress (str "</Address>\r\n")
    have hstart := advance_buf_le (given pszStartTime = true) [.text (str "<StartTime>")]
      l.TIME_LEN (pszStartTime.getD []) (str "</StartTime>\r\n<EndTime>")
    have hend := advance_buf_le (given pszEndTime = true) [] l.TIME_LEN (pszEndTime.getD [])
      (str "</EndTime>\r\n<Secrecy>")
    simp only [List.nil_append, List.cons_append, advance_cons, advance_nil,
      Piece.advance] at hdevice hstart hend
    simp only [addRecordBody, Builder.size, Test.need, advance_cons, advance_append, advance_nil,
      Piece.advance, Lengths.ID_BUF_LEN, Lengths.TIME_BUF_LEN, List.length_cons, List.length_nil,
      Bool.false_eq_true, if_false]
    omega
  exact := Or.inl rfl

theorem counted_addRecordBodyShengtong (pszDeviceID pstrName pszStartTime pszEndTime pszAddress
    pszFilePath pszFileSize pszRecorderID : Option CStr) (nRecordType : Fin 4) (nSecrecy : Int) :
    Counted (addRecordBodyShengtong l pszDeviceID pstrName pszStartTime pszEndTime pszAddress
      pszFilePath pszFileSize pszRecorderID nRecordType nSecrecy) 0 where
  laid := by
    refine laid_append (laid_append (laid_append (laid_append (laid_append trivial
      (laid_pieceIf _ ?_)) trivial) (laid_pieceIf _ ?_)) (laid_pieceIf _ ?_)) trivial
    · exact ⟨by decide, trivial⟩
    · exact ⟨by decide, trivial⟩
    · exact ⟨by decide, trivial⟩
  reports m hm := (Option.some.inj hm).symm
  formats := rfl
  le := by
    have htype := l.holdsType nRecordType
    have hdevice := advance_buf_le (given pszDeviceID = true) [] l.ID_LEN (pszDeviceID.getD [])
      (str "</DeviceID>\r\n")
    have hstart := advance_buf_le (given pszStartTime = true) [.text (str "<StartTime>")]
      l.TIME_LEN (pszStartTime.getD []) (str "</StartTime>\r\n<EndTime>")
    have hend := advance_buf_le (given pszEndTime = true) [] l.TIME_LEN (pszEndTime.getD [])
      (str "</EndTime>\r\n<Secrecy>")
    simp only [List.nil_append, List.cons_append, advance_cons, advance_nil,
      Piece.advance] at hdevice hstart hend
    simp only [addRecordBodyShengtong, Builder.size, Test.need, advance_cons, advance_append,
      advance_nil, Piece.advance, Lengths.ID_BUF_LEN, Lengths.TIME_BUF_LEN, List.length_cons,
      List.length_nil, Bool.false_eq_true, if_false]
    omega
  exact := Or.inl rfl

/-- What `AddAlarmRecordBody` writes without counting it, less the tags that it counts in vain. -/
def alarmRecordUncounted (pszDeviceID alarmPriority alarmMethod alarmTime alarmDescription :
    Option CStr) (longitude latitude : CStr) (alarmType alarmStatus : Option CStr) : Nat :=
  ((if given pszDeviceID then l.ID_LEN else 0) + (alarmPriority.getD []).length +
      (alarmMethod.getD []).length + (alarmTime.getD []).length +
      (alarmDescription.getD []).length + longitude.length + latitude.length +
      (if given alarmType then (alarmType.getD []).length else 0) +
      if given alarmStatus ∧ alarmType.isSome then (alarmStatus.getD []).length else 0) -
    (1 + (if given pszDeviceID then 0 else (str "</DeviceID>\r\n").length) +
      (if given alarmType then 0 else
        (str "<AlarmType>").length + (str "</AlarmType>\r\n").length) +
      if given alarmStatus then 0 else
        (str "<AlarmStatus>").length + (str "</AlarmStatus>\r\n").length)

theorem counted_addAlarmRecordBody (pszDeviceID alarmPriority alarmMethod alarmTime
    alarmDescription : Option CStr) (longitude latitude : CStr)
    (alarmType alarmStatus : Option CStr) :
    Counted (addAlarmRecordBody l pszDeviceID alarmPriority alarmMethod alarmTime alarmDescription
        longitude latitude alarmType alarmStatus)
      (alarmRecordUncounted l pszDeviceID alarmPriority alarmMethod alarmTime alarmDescription
        longitude latitude alarmType alarmStatus) := by
  refine counted_of_max ?_ (fun m hm => (Option.some.inj hm).symm) rfl ?_
  · refine laid_append (laid_append (laid_append (laid_append (laid_append trivial
      (laid_pieceIf _ ⟨by decide, trivial⟩)) trivial) (laid_optional _ _ _))
      (laid_pieceIf _ ?_)) trivial
    exact laid_append (laid_append trivial (laid_pieceIf _ trivial)) trivial
  · simp only [addAlarmRecordBody, alarmRecordUncounted, optional, Builder.size, Test.need,
      advance_cons, advance_append, advance_pieceIf, advance_nil, Piece.advance, length_bytesAt,
      Lengths.ID_BUF_LEN, Bool.false_eq_true, if_false]
    by_cases hstatus : given alarmStatus = true
    · simp only [hstatus, true_and, if_true]
      split_ifs <;> omega
    · simp only [hstatus, Bool.false_eq_true, false_and, if_false]
      split_ifs <;> omega

theorem counted_closing (strEndTag : CStr) : Counted (closing strEndTag) 0 where
  laid := trivial
  reports m hm := by cases hm
  formats := rfl
  le := by
    simp only [closing, Builder.size, Test.need, advance_cons, advance_nil, Piece.advance, if_true]
    omega
  exact := Or.inl rfl

theorem counted_catalogHead (strVersionTag pstrSN pstrDeviceID : CStr) (nSumNum nListNum : Int)
    (nTestedLen : Nat) :
    Counted (catalogHead strVersionTag pstrSN pstrDeviceID nSumNum nListNum nTestedLen)
      (strVersionTag.length + pstrDeviceID.length + (str "\">\r\n").length - nTestedLen) := by
  refine counted_of_max trivial (fun m hm => (Option.some.inj hm).symm) rfl ?_
  simp only [catalogHead, Builder.size, Test.need, advance_cons, advance_nil, Piece.advance,
    if_true]
  omega

/-- What `AddCatalogBody` writes without counting it, less what it counts in vain. -/
def catalogUncounted (nAllocLength : Nat) (pszEvent : Option CStr) (pszPTZType : CStr) : Nat :=
  ((str "</CivilCode>\r\n<Address>").length + (str "</Status>\r\n").length) -
    (nAllocLength + 2 +
      (if 0 < (pszEvent.getD []).length then 0 else
        (str "<Event>").length + (str "</Event>\r\n").length) +
      if pszPTZType.headD 0 ≠ 0 ∧ pszPTZType.headD 0 ≠ 0x30 then 0 else
        (str "<Info>\r\n<PTZType>").length + (str "</PTZType>\r\n</Info>\r\n").length + 1)

theorem counted_addCatalogBody (nAllocLength : Nat) (pszDeviceID : CStr) (pszEvent : Option CStr)
    (pstrName pszManufacturer pszModel pszOwner pszCivilCode pszAddress pszParental pszSafetyWay
      pszRegisterWay pszSecrecy pszStatus pszParentID pszPTZType : CStr) :
    Counted (addCatalogBody l nAllocLength pszDeviceID pszEvent pstrName pszManufacturer pszModel
        pszOwner pszCivilCode pszAddress pszParental pszSafetyWay pszRegisterWay pszSecrecy
        pszStatus pszParentID pszPTZType)
      (catalogUncounted nAllocLength pszEvent pszPTZType) := by
  have hparental : (if pszParental.headD 0 = 0 then str "0" else [pszParental.headD 0]).length =
      1 := by
    split <;> rfl
  refine counted_of_max ?_ (fun m hm => (Option.some.inj hm).symm) rfl ?_
  · exact laid_append (laid_append (laid_append (laid_append trivial (laid_pieceIf _ trivial))
      trivial) (laid_pieceIf _ trivial)) trivial
  · simp only [addCatalogBody, catalogUncounted, Builder.size, Test.need, advance_cons,
      advance_append, advance_pieceIf, advance_nil, Piece.advance, length_bytesAt,
      Lengths.ID_BUF_LEN, hparental, List.length_cons, List.length_nil, Bool.false_eq_true,
      if_false]
    split_ifs <;> omega

theorem counted_createStatusBody (pszSN pszDeviceID pszResult pszOnlien pszStatus pszEncode
    pszRecord pszTime : CStr) (nAlarmSum : Int) (bIsEncoder : Bool) :
    Counted (createStatusBody l pszSN pszDeviceID pszResult pszOnlien pszStatus pszEncode pszRecord
      pszTime nAlarmSum bIsEncoder) 0 := by
  refine counted_of_max ?_ (fun m hm => (Option.some.inj hm).symm) rfl ?_
  · refine laid_append (laid_append (laid_append trivial (laid_pieceIf _ trivial)) trivial) ?_
    cases bIsEncoder <;> trivial
  · simp only [createStatusBody, Builder.size, Test.need, advance_append, advance_pieceIf,
      if_true]
    cases bIsEncoder with
    | false =>
      simp only [Bool.false_eq_true, if_false, advance_cons, advance_nil, Piece.advance,
        length_bytesAt]
      omega
    | true =>
      simp only [if_true, advance_cons, advance_nil, Piece.advance, length_bytesAt]
      omega

theorem counted_addAlarmToStatusBody (pszAlarmID pszDutyStatus : CStr) :
    Counted (addAlarmToStatusBody pszAlarmID pszDutyStatus) 0 := by
  refine counted_of_max trivial (fun m hm => (Option.some.inj hm).symm) rfl ?_
  simp only [addAlarmToStatusBody, Builder.size, Test.need, advance_cons, advance_nil,
    Piece.advance, Bool.false_eq_true, if_false]
  omega

theorem counted_complateStatusBody : Counted complateStatusBody 0 :=
  counted_of_max trivial (fun m hm => by cases hm) rfl (by decide)

theorem counted_createPropertyBody (pszSN pszID pszResult pszDevType pszManufacturer pszModel
    pszFirmware pszMaxCamera pszMaxAlarm : CStr) (bIsEncoder : Bool) :
    Counted (createPropertyBody l pszSN pszID pszResult pszDevType pszManufacturer pszModel
      pszFirmware pszMaxCamera pszMaxAlarm bIsEncoder) 0 := by
  refine counted_of_max ?_ (fun m hm => by cases hm) rfl ?_
  · cases bIsEncoder <;> trivial
  · simp only [createPropertyBody, Builder.size, Test.need, advance_append, if_true]
    cases bIsEncoder with
    | false =>
      simp only [Bool.false_eq_true, if_false, advance_cons, advance_nil, Piece.advance,
        length_bytesAt]
      omega
    | true =>
      simp only [if_true, advance_cons, advance_nil, Piece.advance, length_bytesAt]
      omega

theorem counted_createMediaStatusBody (pszSN pszID : CStr) :
    Counted (createMediaStatusBody pszSN pszID) 0 := by
  refine counted_of_max trivial (fun m hm => by cases hm) rfl ?_
  simp only [createMediaStatusBody, Builder.size, Test.need, advance_cons, advance_nil,
    Piece.advance, if_true]
  omega

theorem counted_resultResponse (strVersion pszSN pszDevID pszResult : CStr) :
    Counted (resultResponse l strVersion pszSN pszDevID pszResult) 0 := by
  refine counted_of_max trivial (fun m hm => by cases hm) rfl ?_
  simp only [resultResponse, Builder.size, Test.need, advance_cons, advance_nil, Piece.advance,
    length_bytesAt, Lengths.ID_BUF_LEN, if_true]
  omega

theorem counted_createConfigSearchHead (pszSN pszDeviceID pszResult : CStr) :
    Counted (createConfigSearchHead l pszSN pszDeviceID pszResult) 0 := by
  refine counted_of_max trivial (fun m hm => (Option.some.inj hm).symm) rfl ?_
  simp only [createConfigSearchHead, Builder.size, Test.need, advance_cons, advance_nil,
    Piece.advance, length_bytesAt, Lengths.ID_BUF_LEN, if_true]
  omega

theorem laid_turns (tags : List (CStr × CStr)) :
    Laid (tags.flatMap fun t => [Piece.text t.1, .text t.2]) := by
  induction tags with
  | nil => trivial
  | cons t tags ih => exact ih

theorem advance_turns (tags : List (CStr × CStr)) :
    advance (tags.flatMap fun t => [Piece.text t.1, .text t.2]) =
      (tags.map fun t => t.1.length).sum + (tags.map fun t => t.2.length).sum := by
  induction tags with
  | nil => rfl
  | cons t tags ih =>
    rw [List.flatMap_cons, advance_append, ih, List.map_cons, List.map_cons, List.sum_cons,
      List.sum_cons, advance_cons, advance_cons, advance_nil, Piece.advance, Piece.advance]
    omega

theorem counted_paramConfig {tags : List (CStr × CStr)} (strEndTag : CStr) {nTested : Nat}
    (h : (tags.map fun t => t.2.length).sum ≤ nTested) :
    Counted (paramConfig tags strEndTag nTested) 0 := by
  refine counted_of_max (laid_append (laid_turns tags) trivial)
    (fun m hm => (Option.some.inj hm).symm) rfl ?_
  simp only [paramConfig, Builder.size, Test.need, advance_append, advance_turns, advance_cons,
    advance_nil, Piece.advance, Bool.false_eq_true, if_false]
  omega

theorem counted_addBasicParamConfig (pName pDeviceID pServerID pServerIP pServerPort pDomainName
    pExpiration pPasswd pHeartBeat pHeartBeatCount : CStr) :
    Counted (addBasicParamConfig l pName pDeviceID pServerID pServerIP pServerPort pDomainName
      pExpiration pPasswd pHeartBeat pHeartBeatCount) 0 := by
  refine counted_paramConfig _ ?_
  simp only [List.map_cons, List.map_nil, List.sum_cons, List.sum_nil, length_bytesAt,
    Lengths.ID_BUF_LEN]
  omega

theorem counted_addVideoParanOpt (pVideoFormat pResolution pFramRate pBitRateType pVideoBitRate
    pDownloadSpeed : CStr) :
    Counted (addVideoParanOpt pVideoFormat pResolution pFramRate pBitRateType pVideoBitRate
      pDownloadSpeed) 0 := by
  refine counted_paramConfig _ ?_
  simp only [List.map_cons, List.map_nil, List.sum_cons, List.sum_nil]
  omega

theorem counted_addAudioParamOpt (pAudioFormat pAudioBitRate pSamplingRate : CStr) :
    Counted (addAudioParamOpt pAudioFormat pAudioBitRate pSamplingRate) 0 := by
  refine counted_paramConfig _ ?_
  simp only [List.map_cons, List.map_nil, List.sum_cons, List.sum_nil]
  omega

theorem counted_createCatalogHead (pstrSN pstrDeviceID : CStr) (nSumNum nListNum : Int) :
    Counted (createCatalogHead l pstrSN pstrDeviceID nSumNum nListNum)
      ((str "\">\r\n").length - 1) := by
  unfold createCatalogHead
  convert counted_catalogHead _ pstrSN (bytesAt l.ID_LEN pstrDeviceID) nSumNum nListNum _ using 1
  rw [length_bytesAt, Lengths.ID_BUF_LEN]
  omega

theorem counted_createNotifyCatalogHead (pstrSN pstrDeviceID : CStr) (nSumNum nListNum : Int) :
    Counted (createNotifyCatalogHead l pstrSN pstrDeviceID nSumNum nListNum)
      ((str "\">\r\n").length - 1) := by
  unfold createNotifyCatalogHead
  convert counted_catalogHead _ pstrSN (bytesAt l.ID_LEN pstrDeviceID) nSumNum nListNum _ using 1
  rw [length_bytesAt, Lengths.ID_BUF_LEN]
  omega

theorem counted_createCatalogHeadOf (pszFirstDataType pszDataType pstrSN pstrDeviceID : CStr)
    (nSumNum nListNum : Int) :
    Counted (createCatalogHeadOf pszFirstDataType pszDataType pstrSN pstrDeviceID nSumNum nListNum)
      ((str "\">\r\n").length + pszDataType.length - pszFirstDataType.length) := by
  unfold createCatalogHeadOf
  convert counted_catalogHead _ pstrSN pstrDeviceID nSumNum nListNum _ using 1
  simp only [catalogVersionTag, List.length_append]
  omega

theorem counted_paramConfigHead (strHeadTag : CStr) (nNum : Int) :
    Counted (paramConfigHead strHeadTag nNum) 0 := by
  refine counted_of_max trivial (fun m hm => (Option.some.inj hm).symm) rfl ?_
  simp only [paramConfigHead, Builder.size, Test.need, advance_cons, advance_nil, Piece.advance,
    Bool.false_eq_true, if_false]
  omega

theorem counted_paramConfigEnd (strResponseTag : CStr) :
    Counted (paramConfigEnd strResponseTag) 0 := by
  refine counted_of_max trivial (fun m hm => (Option.some.inj hm).symm) rfl ?_
  simp only [paramConfigEnd, Builder.size, Test.need, advance_cons, advance_nil, Piece.advance,
    Bool.false_eq_true, if_false]
  omega

theorem counted_createRealPlayUrlResponse (pszSN pszID pszChannelID pszPlayUrl : CStr) :
    Counted (createRealPlayUrlResponse pszSN pszID pszChannelID pszPlayUrl) 0 := by
  refine counted_of_max trivial (fun m hm => by cases hm) rfl ?_
  simp only [createRealPlayUrlResponse, Builder.size, Test.need, advance_cons, advance_nil,
    Piece.advance, if_true]
  omega

theorem counted_createRealPlayUrlResponseByContrl (pszSN pszID pszChannelID pszPlayUrl
    pszResult : CStr) :
    Counted (createRealPlayUrlResponseByContrl pszSN pszID pszChannelID pszPlayUrl pszResult)
      pszResult.length := by
  refine counted_of_max trivial (fun m hm => by cases hm) rfl ?_
  simp only [createRealPlayUrlResponseByContrl, Builder.size, Test.need, advance_cons,
    advance_nil, Piece.advance, if_true]
  omega

theorem counted_createPlayBackUrlResponse (pszSN pszID pszPlayUrl : CStr) :
    Counted (createPlayBackUrlResponse pszSN pszID pszPlayUrl) 0 := by
  refine counted_of_max trivial (fun m hm => by cases hm) rfl ?_
  simp only [createPlayBackUrlResponse, Builder.size, Test.need, advance_cons, advance_nil,
    Piece.advance, if_true]
  omega

theorem counted_createPlayBackUrlResponseByControl (pszSN pszID pszPlayUrl pszResult : CStr) :
    Counted (createPlayBackUrlResponseByControl pszSN pszID pszPlayUrl pszResult)
      pszResult.length := by
  refine counted_of_max trivial (fun m hm => by cases hm) rfl ?_
  simp only [createPlayBackUrlResponseByControl, Builder.size, Test.need, advance_cons,
    advance_nil, Piece.advance, if_true]
  omega

theorem counted_createSubscribeResBody (pszSN pszDevID pszResult : CStr) :
    Counted (createSubscribeResBody pszSN pszDevID pszResult) 0 := by
  refine counted_of_max trivial (fun m hm => by cases hm) rfl ?_
  simp only [createSubscribeResBody, Builder.size, Test.need, advance_cons, advance_nil,
    Piece.advance, Bool.false_eq_true, if_false]
  omega

end builders

/-! ## Builders that report another length -/

section misreports

variable {nBufLen : Int}

/-- A builder that reports a length whose last byte it does not write keeps to its buffer only if
it refuses it. -/
theorem keeps_iff_refused {b : Builder} (hformats : b.formats = true) {n i : Nat}
    (hn : n ∈ b.nBufLen) (hi : i < n) (hgap : ¬ ∃ c ∈ place 0 b.pieces, c.Covers i) :
    Keeps nBufLen (b.run nBufLen) ↔ nBufLen < b.test.need := by
  refine ⟨fun h => ?_, keeps_of_refused⟩
  by_contra hrefused
  rw [run_of_not_refused hformats hrefused] at h
  exact hgap ((h.2.2 n hn i).mpr hi)

theorem keeps_printed_iff (text : CStr) :
    Keeps nBufLen ((printed text).run nBufLen) ↔ nBufLen < (printed text).test.need := by
  have hlaid : Laid [Piece.text text] := trivial
  refine keeps_iff_refused (i := text.length) rfl rfl (Nat.lt_succ_self _) ?_
  show ¬ ∃ c ∈ place 0 [Piece.text text], c.Covers text.length
  rw [covered_place hlaid]
  simp only [advance_cons, advance_nil, Piece.advance]
  omega

theorem keeps_paramConfigItem_iff {strStreamNameTag pStreamName strFormatTag pFormat : CStr}
    (tags : List (CStr × CStr)) (strEndTag : CStr) (hstream : strStreamNameTag ≠ [])
    (hformat : strFormatTag ≠ []) :
    Keeps nBufLen ((paramConfigItem strStreamNameTag pStreamName strFormatTag pFormat tags
        strEndTag).run nBufLen) ↔
      nBufLen < (paramConfigItem strStreamNameTag pStreamName strFormatTag pFormat tags
        strEndTag).test.need := by
  have hpos := List.length_pos_of_ne_nil hstream
  have hpos' := List.length_pos_of_ne_nil hformat
  -- the last byte that the tag should have been copied to
  refine keeps_iff_refused
    (i := strStreamNameTag.length + pStreamName.length + strFormatTag.length - 1) rfl rfl ?_ ?_
  · simp only [advance_append, advance_cons, advance_nil, Piece.advance]
    omega
  · have hrest : Laid ([Piece.text pFormat] ++
        (tags.flatMap fun t => [Piece.text t.1, .text t.2]) ++ [.text strEndTag]) :=
      laid_append (laid_append trivial (laid_turns tags)) trivial
    have hpieces : (paramConfigItem strStreamNameTag pStreamName strFormatTag pFormat tags
        strEndTag).pieces = .text strStreamNameTag :: .text pStreamName :: .front strFormatTag ::
          ([Piece.text pFormat] ++ (tags.flatMap fun t => [Piece.text t.1, .text t.2]) ++
            [.text strEndTag]) := rfl
    rw [hpieces]
    simp only [place, List.mem_cons, exists_eq_or_imp, covered_place hrest]
    simp only [Piece.copy, Copy.Covers, Piece.advance]
    omega

theorem keeps_createSubscribeResponse_iff (pszSn pszDeviceId cmdType result : CStr) :
    Keeps nBufLen (createSubscribeResponse pszSn pszDeviceId cmdType result nBufLen) ↔
      (subscribeResponseText pszSn pszDeviceId cmdType result).length < nBufLen := by
  unfold createSubscribeResponse
  simp only
  split_ifs with haborted
  · exact iff_of_false (fun h => h) (by omega)
  · simp only [Keeps, List.mem_singleton, forall_eq, Option.mem_def, Option.some.injEq,
      forall_eq', Copy.Covers, reduceCtorEq, false_imp_iff, implies_true, and_true]
    constructor
    · exact fun h => h.2
    · exact fun h => ⟨fun i hi => by omega, h⟩

end misreports

/-! ## All builders -/

inductive Call where
  | createKeepaliveBody (pszSN pszDevID : CStr)
  | createAlarmBodyNew (pszSN pszDeviceID alarmPriority alarmMethod alarmTime alarmDescription
      longitude latitude alarmType alarmStatus : Option CStr)
  | createSubscribeResponse (pszSn pszDeviceId cmdType result : CStr)
  | createAlarmBody (pszSN pszDevID pszDescription : CStr) (nLevel : UInt8) (pszTime : CStr)
  | addStatusReportBody (pszDevID : CStr) (pszName pszParentID pszStatus : Option CStr)
  | createInviteAnswerBody (pszIP pszPort pszOperateType pszActiveType pszStartTime pszEndTime
      pszID : CStr) (pszPassWord pszSSRC : Option CStr)
  | createInviteAnswerBodyMedia (pszIP pszPort pszOperateType pszActiveType pszStartTime
      pszEndTime pszID : CStr) (pszPassWord pszSSRC : Option CStr) (transType mediaType : Int)
      (pszFileSize : CStr)
  | createRecordHead (pstrSN pstrDeviceID pstrDeviceName : CStr) (nSumNum nListNum : Int)
  | addRecordBody (pszDeviceID pstrName pszStartTime pszEndTime pszAddress pszFilePath :
      Option CStr) (nRecordType : Fin 4) (nSecrecy : Int)
  | addRecordBodyShengtong (pszDeviceID pstrName pszStartTime pszEndTime pszAddress pszFilePath
      pszFileSize pszRecorderID : Option CStr) (nRecordType : Fin 4) (nSecrecy : Int)
  | createAlarmRecordHead (pstrSN pstrDeviceID pstrDeviceName : CStr) (nSumNum nListNum : Int)
  | addAlarmRecordBody (pszDeviceID alarmPriority alarmMethod alarmTime alarmDescription :
      Option CStr) (longitude latitude : CStr) (alarmType alarmStatus : Option CStr)
  | completeAlarmRecord
  | completeRecord
  | createCatalogHead (pstrSN pstrDeviceID : CStr) (nSumNum nListNum : Int)
  | createCatalogHeadOf (pszFirstDataType pszDataType pstrSN pstrDeviceID : CStr)
      (nSumNum nListNum : Int)
  | addCatalogBodyItem (pszCatalog : Option CatalogFields)
  | addCatalogBody (nAllocLength : Nat) (pszDeviceID : CStr) (pszEvent : Option CStr)
      (pstrName pszManufacturer pszModel pszOwner pszCivilCode pszAddress pszParental pszSafetyWay
        pszRegisterWay pszSecrecy pszStatus pszParentID pszPTZType : CStr)
  | completeCatalogOf (pszDataType : CStr)
  | completeCatalog
  | createNotifyCatalogHead (pstrSN pstrDeviceID : CStr) (nSumNum nListNum : Int)
  | addNotifyCatalogBody (pszCatalog : Option CatalogFields)
  | completeNotifyCatalog
  | createStatusBody (pszSN pszDeviceID pszResult pszOnlien pszStatus pszEncode pszRecord
      pszTime : CStr) (nAlarmSum : Int) (bIsEncoder : Bool)
  | addAlarmToStatusBody (pszAlarmID pszDutyStatus : CStr)
  | complateStatusBody
  | createPropertyBody (pszSN pszID pszResult pszDevType pszManufacturer pszModel pszFirmware
      pszMaxCamera pszMaxAlarm : CStr) (bIsEncoder : Bool)
  | createMediaStatusBody (pszSN pszID : CStr)
  | createControlResponseBody (pszSN pszDevID pszResult : CStr)
  | createDecoderDivisonResponseBody (pszSN pszDevID pszResult : CStr)
  | createStopPlayUrlResponseBody (pszSN pszDevID pszResult : CStr)
  | createDeviceConfigResponse (pszSN pszDevID pszResult : CStr)
  | createConfigSearchHead (pszSN pszDeviceID pszResult : CStr)
  | addBasicParamConfig (pName pDeviceID pServerID pServerIP pServerPort pDomainName pExpiration
      pPasswd pHeartBeat pHeartBeatCount : CStr)
  | addVideoParanOpt (pVideoFormat pResolution pFramRate pBitRateType pVideoBitRate
      pDownloadSpeed : CStr)
  | addVideoParamConfigHead (nNum : Int)
  | addVideoParamConfig (pStreamName pVideoFormat pResolution pFrameRate pBitRateType
      pVideoBitRate : CStr)
  | completeVideoParamConfig
  | addAudioParamOpt (pAudioFormat pAudioBitRate pSamplingRate : CStr)
  | addAudioParamConfigHead (nNum : Int)
  | addAudioParamConfig (pStreamName pAudioFormat pAudioBitRate pSamplingRate : CStr)
  | completeAudioParamConfig
  | completeConfigSearch
  | createRealPlayUrlResponse (pszSN pszID pszChannelID pszPlayUrl : CStr)
  | createRealPlayUrlResponseByContrl (pszSN pszID pszChannelID pszPlayUrl pszResult : CStr)
  | createPlayBackUrlResponse (pszSN pszID pszPlayUrl : CStr)
  | createPlayBackUrlResponseByControl (pszSN pszID pszPlayUrl pszResult : CStr)
  | createSubscribeResBody (pszSN pszDevID pszResult : CStr)

/-- Where there is no document to print, the buffer is refused. -/
def runPrinted (b : Option Builder) (nBufLen : Int) : Outcome :=
  b.elim .refused fun b => b.run nBufLen

section calls

variable (l : Lengths) (printer : ItemDocument → CStr)

def runCall : Call → Int → Outcome
  | .createKeepaliveBody sn id => (createKeepaliveBody l sn id).run
  | .createAlarmBodyNew sn id priority method time description longitude latitude type status =>
    (createAlarmBodyNew l sn id priority method time description longitude latitude type
      status).run
  | .createSubscribeResponse sn id cmdType result =>
    createSubscribeResponse sn id cmdType result
  | .createAlarmBody sn id description level time =>
    (createAlarmBody l sn id description level time).run
  | .addStatusReportBody id name parent status =>
    (addStatusReportBody l id name parent status).run
  | .createInviteAnswerBody ip port operate active start stop id pw ssrc =>
    (createInviteAnswerBody l ip port operate active start stop id pw ssrc).run
  | .createInviteAnswerBodyMedia ip port operate active start stop id pw ssrc transport media
      size =>
    (createInviteAnswerBodyMedia l ip port operate active start stop id pw ssrc transport media
      size).run
  | .createRecordHead sn id name sum list => (createRecordHead l sn id name sum list).run
  | .addRecordBody id name start stop address path type secrecy =>
    (addRecordBody l id name start stop address path type secrecy).run
  | .addRecordBodyShengtong id name start stop address path size recorder type secrecy =>
    (addRecordBodyShengtong l id name start stop address path size recorder type secrecy).run
  | .createAlarmRecordHead sn id name sum list =>
    (createAlarmRecordHead l sn id name sum list).run
  | .addAlarmRecordBody id priority method time description longitude latitude type status =>
    (addAlarmRecordBody l id priority method time description longitude latitude type status).run
  | .completeAlarmRecord => completeAlarmRecord.run
  | .completeRecord => completeRecord.run
  | .createCatalogHead sn id sum list => (createCatalogHead l sn id sum list).run
  | .createCatalogHeadOf first type sn id sum list =>
    (createCatalogHeadOf first type sn id sum list).run
  | .addCatalogBodyItem catalog => runPrinted (addCatalogBodyItem printer catalog)
  | .addCatalogBody alloc id event name manufacturer model owner civil address parental safety
      register secrecy status parent ptz =>
    (addCatalogBody l alloc id event name manufacturer model owner civil address parental safety
      register secrecy status parent ptz).run
  | .completeCatalogOf type => (completeCatalogOf type).run
  | .completeCatalog => completeCatalog.run
  | .createNotifyCatalogHead sn id sum list => (createNotifyCatalogHead l sn id sum list).run
  | .addNotifyCatalogBody catalog => runPrinted (addNotifyCatalogBody printer catalog)
  | .completeNotifyCatalog => completeNotifyCatalog.run
  | .createStatusBody sn id result online status encode record time sum encoder =>
    (createStatusBody l sn id result online status encode record time sum encoder).run
  | .addAlarmToStatusBody id duty => (addAlarmToStatusBody id duty).run
  | .complateStatusBody => complateStatusBody.run
  | .createPropertyBody sn id result type manufacturer model firmware camera alarm encoder =>
    (createPropertyBody l sn id result type manufacturer model firmware camera alarm encoder).run
  | .createMediaStatusBody sn id => (createMediaStatusBody sn id).run
  | .createControlResponseBody sn id result => (createControlResponseBody l sn id result).run
  | .createDecoderDivisonResponseBody sn id result =>
    (createDecoderDivisonResponseBody l sn id result).run
  | .createStopPlayUrlResponseBody sn id result =>
    (createStopPlayUrlResponseBody l sn id result).run
  | .createDeviceConfigResponse sn id result => (createDeviceConfigResponse l sn id result).run
  | .createConfigSearchHead sn id result => (createConfigSearchHead l sn id result).run
  | .addBasicParamConfig name id server ip port domain expiration passwd beat count =>
    (addBasicParamConfig l name id server ip port domain expiration passwd beat count).run
  | .addVideoParanOpt format resolution rate type bitRate speed =>
    (addVideoParanOpt format resolution rate type bitRate speed).run
  | .addVideoParamConfigHead num => (addVideoParamConfigHead num).run
  | .addVideoParamConfig name format resolution rate type bitRate =>
    (addVideoParamConfig name format resolution rate type bitRate).run
  | .completeVideoParamConfig => completeVideoParamConfig.run
  | .addAudioParamOpt format bitRate sampling =>
    (addAudioParamOpt format bitRate sampling).run
  | .addAudioParamConfigHead num => (addAudioParamConfigHead num).run
  | .addAudioParamConfig name format bitRate sampling =>
    (addAudioParamConfig name format bitRate sampling).run
  | .completeAudioParamConfig => completeAudioParamConfig.run
  | .completeConfigSearch => completeConfigSearch.run
  | .createRealPlayUrlResponse sn id channel url =>
    (createRealPlayUrlResponse sn id channel url).run
  | .createRealPlayUrlResponseByContrl sn id channel url result =>
    (createRealPlayUrlResponseByContrl sn id channel url result).run
  | .createPlayBackUrlResponse sn id url =>
    (createPlayBackUrlResponse sn id url).run
  | .createPlayBackUrlResponseByControl sn id url result =>
    (createPlayBackUrlResponseByControl sn id url result).run
  | .createSubscribeResBody sn id result =>
    (createSubscribeResBody sn id result).run

/-- The test refuses the length, or `n` bytes more than it asks for fit as well. -/
def Builder.Room (b : Builder) (n : Nat) (nBufLen : Int) : Prop :=
  nBufLen < b.test.need ∨ b.test.need + n ≤ nBufLen

def Builder.Refuses (b : Builder) (nBufLen : Int) : Prop := nBufLen < b.test.need

/-- What a length must be for the builders that leave something out of their test, report another
length or format a text on the way; the others keep to every buffer. -/
def Suits : Call → Int → Prop
  | .createAlarmBodyNew sn id priority method time description longitude latitude type status =>
    (createAlarmBodyNew l sn id priority method time description longitude latitude type
      status).Room
      ((sn.getD []).length + (if given id then l.ID_LEN else 0) + (priority.getD []).length +
        (method.getD []).length + (time.getD []).length + (description.getD []).length +
        (longitude.getD []).length + (latitude.getD []).length + (type.getD []).length +
        (status.getD []).length)
  | .createSubscribeResponse sn id cmdType result => fun nBufLen =>
    (subscribeResponseText sn id cmdType result).length < nBufLen
  | .createAlarmBody sn id description level time =>
    (createAlarmBody l sn id description level time).Room
      ((str "</DeviceID>\r\n<AlarmPriority>").length + time.length)
  | .addStatusReportBody id name parent status =>
    (addStatusReportBody l id name parent status).Room
      (statusReportUncounted l id name parent status)
  | .createInviteAnswerBody ip port operate active start stop id pw ssrc =>
    (createInviteAnswerBody l ip port operate active start stop id pw ssrc).Room
      (inviteUncounted l ip pw ssrc)
  | .createInviteAnswerBodyMedia ip port operate active start stop id pw ssrc transport media
      size => fun nBufLen =>
      let b := createInviteAnswerBodyMedia l ip port operate active start stop id pw ssrc transport
        media size
      b.Refuses nBufLen ∨ (mediaLine transport media port active).length < 512 ∧
        b.Room (inviteMediaUncounted l ip port active pw ssrc transport media size) nBufLen
  | .createRecordHead sn id name sum list =>
    (createRecordHead l sn id name sum list).Room ((str "\">\r\n").length - 2)
  | .createAlarmRecordHead sn id name sum list =>
    (createAlarmRecordHead l sn id name sum list).Room ((str "\">\r\n").length - 2)
  | .addAlarmRecordBody id priority method time description longitude latitude type status =>
    (addAlarmRecordBody l id priority method time description longitude latitude type status).Room
      (alarmRecordUncounted l id priority method time description longitude latitude type status)
  | .createCatalogHead sn id sum list =>
    (createCatalogHead l sn id sum list).Room ((str "\">\r\n").length - 1)
  | .createCatalogHeadOf first type sn id sum list =>
    (createCatalogHeadOf first type sn id sum list).Room
      ((str "\">\r\n").length + type.length - first.length)
  | .addCatalogBodyItem catalog => fun nBufLen =>
    ∀ b ∈ addCatalogBodyItem printer catalog, b.Refuses nBufLen
  | .addCatalogBody alloc id event name manufacturer model owner civil address parental safety
      register secrecy status parent ptz =>
    (addCatalogBody l alloc id event name manufacturer model owner civil address parental safety
      register secrecy status parent ptz).Room (catalogUncounted alloc event ptz)
  | .createNotifyCatalogHead sn id sum list =>
    (createNotifyCatalogHead l sn id sum list).Room ((str "\">\r\n").length - 1)
  | .addNotifyCatalogBody catalog => fun nBufLen =>
    ∀ b ∈ addNotifyCatalogBody printer catalog, b.Refuses nBufLen
  | .addVideoParamConfig name format resolution rate type bitRate =>
    (addVideoParamConfig name format resolution rate type bitRate).Refuses
  | .addAudioParamConfig name format bitRate sampling =>
    (addAudioParamConfig name format bitRate sampling).Refuses
  | .createRealPlayUrlResponseByContrl sn id channel url result =>
    (createRealPlayUrlResponseByContrl sn id channel url result).Room result.length
  | .createPlayBackUrlResponseByControl sn id url result =>
    (createPlayBackUrlResponseByControl sn id url result).Room result.length
  | _ => fun _ => True

variable {l printer}

theorem keeps_runPrinted_iff (b : Option Builder) (nBufLen : Int)
    (h : ∀ c ∈ b, ∃ text, c = printed text) :
    Keeps nBufLen (runPrinted b nBufLen) ↔ ∀ c ∈ b, c.Refuses nBufLen := by
  cases b with
  | none => exact iff_of_true trivial fun c hc => by cases hc
  | some b =>
    obtain ⟨text, rfl⟩ := h b rfl
    refine (keeps_printed_iff text).trans ?_
    exact ⟨fun h c hc => by cases hc; exact h, fun h => h _ rfl⟩

theorem keeps_createInviteAnswerBodyMedia_iff (ip port operate active start stop id : CStr)
    (pw ssrc : Option CStr) (transport media : Int) (size : CStr) (nBufLen : Int) :
    Keeps nBufLen ((createInviteAnswerBodyMedia l ip port operate active start stop id pw ssrc
        transport media size).run nBufLen) ↔
      (createInviteAnswerBodyMedia l ip port operate active start stop id pw ssrc transport media
          size).Refuses nBufLen ∨
        (mediaLine transport media port active).length < 512 ∧
        (createInviteAnswerBodyMedia l ip port operate active start stop id pw ssrc transport media
          size).Room (inviteMediaUncounted l ip port active pw ssrc transport media size)
          nBufLen := by
  by_cases hline : (mediaLine transport media port active).length < 512
  · rw [(counted_createInviteAnswerBodyMedia l ip port operate active start stop id pw ssrc
      transport media size hline).keeps_iff_or, and_iff_right hline]
    exact ⟨Or.inr, fun h => h.elim Or.inl fun hroom => hroom⟩
  · rw [or_iff_left fun h => hline h.1]
    exact keeps_iff_of_aborts (decide_eq_false hline)

/-- **A builder keeps to every buffer, except for those that leave a part of what they write out of
their test, report another length or format a text on the way.** -/
theorem keeps_iff (l : Lengths) (printer : ItemDocument → CStr) (c : Call) (nBufLen : Int) :
    Keeps nBufLen (runCall l printer c nBufLen) ↔ Suits l printer c nBufLen := by
  cases c with
  | createKeepaliveBody => exact iff_of_true (counted_createKeepaliveBody l _ _).keeps trivial
  | createAlarmBodyNew => exact (counted_createAlarmBodyNew l _ _ _ _ _ _ _ _ _ _).keeps_iff_or
  | createSubscribeResponse => exact keeps_createSubscribeResponse_iff _ _ _ _
  | createAlarmBody => exact (counted_createAlarmBody l _ _ _ _ _).keeps_iff_or
  | addStatusReportBody => exact (counted_addStatusReportBody l _ _ _ _).keeps_iff_or
  | createInviteAnswerBody =>
    exact (counted_createInviteAnswerBody l _ _ _ _ _ _ _ _ _).keeps_iff_or
  | createInviteAnswerBodyMedia =>
    exact keeps_createInviteAnswerBodyMedia_iff _ _ _ _ _ _ _ _ _ _ _ _ _
  | createRecordHead => exact (counted_recordHead l recordHeadTags _ _ _ _ _).keeps_iff_or
  | addRecordBody => exact iff_of_true (counted_addRecordBody l _ _ _ _ _ _ _ _).keeps trivial
  | addRecordBodyShengtong =>
    exact iff_of_true (counted_addRecordBodyShengtong l _ _ _ _ _ _ _ _ _ _).keeps trivial
  | createAlarmRecordHead => exact (counted_recordHead l alarmRecordHeadTags _ _ _ _ _).keeps_iff_or
  | addAlarmRecordBody => exact (counted_addAlarmRecordBody l _ _ _ _ _ _ _ _ _).keeps_iff_or
  | completeAlarmRecord => exact iff_of_true (counted_closing _).keeps trivial
  | completeRecord => exact iff_of_true (counted_closing _).keeps trivial
  | createCatalogHead => exact (counted_createCatalogHead l _ _ _ _).keeps_iff_or
  | createCatalogHeadOf => exact (counted_createCatalogHeadOf _ _ _ _ _ _).keeps_iff_or
  | addCatalogBodyItem catalog =>
    refine keeps_runPrinted_iff _ _ fun c hc => ?_
    obtain ⟨fields, -, rfl⟩ := Option.map_eq_some_iff.mp hc
    exact ⟨_, rfl⟩
  | addCatalogBody => exact (counted_addCatalogBody l _ _ _ _ _ _ _ _ _ _ _ _ _ _ _ _).keeps_iff_or
  | completeCatalogOf => exact iff_of_true (counted_closing _).keeps trivial
  | completeCatalog => exact iff_of_true (counted_closing _).keeps trivial
  | createNotifyCatalogHead => exact (counted_createNotifyCatalogHead l _ _ _ _).keeps_iff_or
  | addNotifyCatalogBody catalog =>
    refine keeps_runPrinted_iff _ _ fun c hc => ?_
    obtain ⟨fields, -, rfl⟩ := Option.map_eq_some_iff.mp hc
    exact ⟨_, rfl⟩
  | completeNotifyCatalog => exact iff_of_true (counted_closing _).keeps trivial
  | createStatusBody =>
    exact iff_of_true (counted_createStatusBody l _ _ _ _ _ _ _ _ _ _).keeps trivial
  | addAlarmToStatusBody => exact iff_of_true (counted_addAlarmToStatusBody _ _).keeps trivial
  | complateStatusBody => exact iff_of_true counted_complateStatusBody.keeps trivial
  | createPropertyBody =>
    exact iff_of_true (counted_createPropertyBody l _ _ _ _ _ _ _ _ _ _).keeps trivial
  | createMediaStatusBody => exact iff_of_true (counted_createMediaStatusBody _ _).keeps trivial
  | createControlResponseBody => exact iff_of_true (counted_resultResponse l _ _ _ _).keeps trivial
  | createDecoderDivisonResponseBody =>
    exact iff_of_true (counted_resultResponse l _ _ _ _).keeps trivial
  | createStopPlayUrlResponseBody =>
    exact iff_of_true (counted_resultResponse l _ _ _ _).keeps trivial
  | createDeviceConfigResponse => exact iff_of_true (counted_resultResponse l _ _ _ _).keeps trivial
  | createConfigSearchHead =>
    exact iff_of_true (counted_createConfigSearchHead l _ _ _).keeps trivial
  | addBasicParamConfig =>
    exact iff_of_true (counted_addBasicParamConfig l _ _ _ _ _ _ _ _ _ _).keeps trivial
  | addVideoParanOpt => exact iff_of_true (counted_addVideoParanOpt _ _ _ _ _ _).keeps trivial
  | addVideoParamConfigHead => exact iff_of_true (counted_paramConfigHead _ _).keeps trivial
  | addVideoParamConfig => exact keeps_paramConfigItem_iff _ _ (by decide) (by decide)
  | completeVideoParamConfig => exact iff_of_true (counted_paramConfigEnd _).keeps trivial
  | addAudioParamOpt => exact iff_of_true (counted_addAudioParamOpt _ _ _).keeps trivial
  | addAudioParamConfigHead => exact iff_of_true (counted_paramConfigHead _ _).keeps trivial
  | addAudioParamConfig => exact keeps_paramConfigItem_iff _ _ (by decide) (by decide)
  | completeAudioParamConfig => exact iff_of_true (counted_paramConfigEnd _).keeps trivial
  | completeConfigSearch => exact iff_of_true (counted_closing _).keeps trivial
  | createRealPlayUrlResponse =>
    exact iff_of_true (counted_createRealPlayUrlResponse _ _ _ _).keeps trivial
  | createRealPlayUrlResponseByContrl =>
    exact (counted_createRealPlayUrlResponseByContrl _ _ _ _ _).keeps_iff_or
  | createPlayBackUrlResponse =>
    exact iff_of_true (counted_createPlayBackUrlResponse _ _ _).keeps trivial
  | createPlayBackUrlResponseByControl =>
    exact (counted_createPlayBackUrlResponseByControl _ _ _ _).keeps_iff_or
  | createSubscribeResBody => exact iff_of_true (counted_createSubscribeResBody _ _ _).keeps trivial

end calls

/-- Lengths as they are with device IDs of 20 digits. -/
def usualLengths : Lengths where
  ID_LEN := 20
  TIME_LEN := 19
  RECORD_TYPE_BUF_LEN := 8
  holdsType := by decide

/-- A buffer of 280 bytes passes the test of an alarm that takes more. -/
theorem alarm_overruns : ¬ Keeps 280 (runCall usualLengths (fun _ => [])
    (.createAlarmBody (str "17430") (str "34020000001340000001") (str "Gate opened") 1
      (str "2020-03-01T08:00:00")) 280) := by
  show ¬ Keeps 280 (Builder.run _ 280)
  rw [(counted_createAlarmBody _ _ _ _ _ _).keeps_iff_or]
  decide

end GB28181.Platform.BodyBuilder
