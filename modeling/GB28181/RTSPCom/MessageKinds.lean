import GB28181.RTSPCom.RTSPRoundtrip

/-!
# What an RTSP message is taken for (`RTSPCom/RTSPParser.cpp`)

`DecodeUnknowMsg` presets the type of a message, replaces it for two methods, and returns it or a
constant.  A request with another method keeps the preset type, that of a response; where the
constant is returned, the preset type stays in the message.

* `Parts` — first line, header lines and body of a text;
* `Classified` — what the type that is returned should say about them;
* `headerLoop_keeps_iff` — when the loop over the header lines returns the type in the message;
* `classified_iff` — a message is classified **exactly when its first line is a status line or a
  request of the two, its header lines can be stored and its body is one of the two kinds**.
-/

set_option autoImplicit false

namespace GB28181.RTSPCom.MessageKinds

open GB28181.Base GB28181.RTSPCom
open GB28181.RTSPCom.RequestInfo (toLower_eq_of_headIndex)

/-! ## Parts of a text -/

/-- The lines up to an empty one, and what stands behind that. -/
def headerPart (t : CStr) : List CStr × Option CStr :=
  match _h : breakOn enter t with
  | none => ([], none)
  | some ([], body) => ([], some body)
  | some (line, tail) => (line :: (headerPart tail).1, (headerPart tail).2)
  termination_by t.length
  decreasing_by
    all_goals exact breakOn_length_lt _h (Or.inl (List.cons_ne_nil _ _))

structure Parts where
  firstLine : CStr
  headerLines : List CStr
  body : Option CStr

/-- The parts of a text: blanks and line ends around it are left out. -/
def parts (pszContext : CStr) : Parts :=
  match breakOn enter (trim isBlankOrEnter (cStr pszContext) ++ enter) with
  | none => ⟨[], [], none⟩
  | some (line, tail) => ⟨line, (headerPart tail).1, (headerPart tail).2⟩

/-! ## Kinds of messages -/

def StatusLine (line : CStr) : Prop := str "RTSP" <+: line

def RequestOf (method line : CStr) : Prop :=
  ¬ StatusLine line ∧
    ∃ strMethod rest, line = strMethod ++ blank :: rest ∧ blank ∉ strMethod ∧
      stricmpEq strMethod method = true

/-- What a type should say about a message. -/
structure Right (p : Parts) (eMsgType : RTSPMsgType) : Prop where
  response : eMsgType = .rmt_response → StatusLine p.firstLine
  setparameter : eMsgType = .rmt_setparameter → RequestOf (str "SET_PARAMETER") p.firstLine
  announce : eMsgType = .rmt_announce → RequestOf (str "ANNOUNCE") p.firstLine
  other : ¬ StatusLine p.firstLine → ¬ RequestOf (str "SET_PARAMETER") p.firstLine →
    ¬ RequestOf (str "ANNOUNCE") p.firstLine → eMsgType = .rmt_unknown
  noColon : ∀ l ∈ p.headerLines, colon ∉ l → eMsgType = .rmt_unknown

/-- The decoder returns, and it returns a right type, the one that it stores. -/
def Classified (p : Parts) (r : Except HeaderFault (RTSPMsgType × RTSPUnknownMsg)) : Prop :=
  ∃ eMsgType msg, r = .ok (eMsgType, msg) ∧ Right p eMsgType ∧ eMsgType = msg.m_eMsgType

def lineName (line : CStr) : CStr := line.takeWhile (· ≠ colon)

def lineValue (line : CStr) : CStr := trim isSpace (line.dropWhile (· ≠ colon)).tail

/-- A header line with a colon, and with a name whose place is in `m_strHeader`. -/
def Storable (line : CStr) : Prop :=
  colon ∈ line ∧ (lineName line).map toLower ≠ str "scale"

/-- The type of the body: the last one in the lines, or the one there was before. -/
def contentType (old : CStr) (lines : List CStr) : CStr :=
  lines.foldl
    (fun v l => if (lineName l).map toLower = str "content-type" then lineValue l else v) old

def Readable (szContentType strBody : CStr) : Prop :=
  cStr szContentType = str "application/sdp" ∨
    cStr szContentType = str "application/json" ∧
      0 < find (str "stream-state") strBody ∧ 0 < find (str "end") strBody ∧
      find (str "stream-state") strBody ≤ find (str "end") strBody

/-- The header lines can be stored, and the body read. -/
def Regular (p : Parts) (msg : RTSPUnknownMsg) : Prop :=
  (∀ l ∈ p.headerLines, Storable l) ∧
    ∀ strBody ∈ p.body,
      Readable (contentType (msg.fieldValue (str "Content-Type")) p.headerLines) strBody

/-- A status line without a blank, behind which nothing is read; or a first line of one of the
kinds, with a regular rest. -/
def Classifiable (p : Parts) (msg : RTSPUnknownMsg) : Prop :=
  StatusLine p.firstLine ∧ blank ∉ p.firstLine ∧ (∀ l ∈ p.headerLines, colon ∈ l) ∨
    (StatusLine p.firstLine ∧ blank ∈ p.firstLine ∨
      RequestOf (str "SET_PARAMETER") p.firstLine ∨ RequestOf (str "ANNOUNCE") p.firstLine) ∧
      Regular p msg

/-! ## The loop over the header lines -/

section loop

variable {t line : CStr} {msg : RTSPUnknownMsg}

theorem headerPart_line {tail : CStr} (h : breakOn enter t = some (line, tail)) (hne : line ≠ []) :
    headerPart t = (line :: (headerPart tail).1, (headerPart tail).2) := by
  rw [headerPart, h]
  cases line with
  | nil => exact absurd rfl hne
  | cons c line => rfl

theorem breakOn_colon (h : colon ∈ line) :
    breakOn [colon] line = some (lineName line, (line.dropWhile (· ≠ colon)).tail) := by
  obtain ⟨l, r, rfl, hl⟩ := List.eq_append_cons_of_mem h
  have hall : ∀ c ∈ l, decide (c ≠ colon) = true := by
    intro c hc
    apply decide_eq_true
    intro he
    exact hl (he ▸ hc)
  rw [breakOn_singleton hl, lineName, List.takeWhile_append_of_pos hall,
    List.dropWhile_append_of_pos hall]
  simp

theorem headIndex_congr {name name' : CStr} (h : name.map toLower = name'.map toLower) :
    headIndex name = headIndex name' := by
  rw [headIndex, headIndex, h]

theorem headIndex_content_type : headIndex (str "Content-Type") = some 4 := by decide

theorem headIndex_outOfRange {name : CStr} {n : Nat} (h : headIndex name = some n)
    (hn : ¬ n < 18) : name.map toLower = str "scale" := by
  have hlt : n < 19 := (List.idxOf?_eq_some_iff.mp h).1
  obtain rfl : n = 18 := by omega
  exact toLower_eq_of_headIndex h headIndex_scale

theorem setFieldValue_isOk_iff (h : CStr × CStr) (msg : RTSPUnknownMsg) :
    (∃ msg', msg.setFieldValue h = .ok msg') ↔ h.1.map toLower ≠ str "scale" := by
  unfold RTSPUnknownMsg.setFieldValue
  split
  case h_1 hnone =>
    refine iff_of_true ⟨msg, rfl⟩ ?_
    intro hscale
    have hplace : headIndex h.1 = headIndex (str "Scale") := headIndex_congr hscale
    rw [hnone, headIndex_scale] at hplace
    cases hplace
  case h_2 n hn =>
    by_cases hlt : n < 18
    · refine iff_of_true ⟨_, dif_pos hlt⟩ ?_
      intro hscale
      have hplace : headIndex h.1 = headIndex (str "Scale") := headIndex_congr hscale
      rw [hn, headIndex_scale] at hplace
      cases hplace
      omega
    · refine iff_of_false ?_ ?_
      · rintro ⟨msg', hset⟩
        rw [dif_neg hlt] at hset
        cases hset
      · intro hne
        exact hne (headIndex_outOfRange hn hlt)

theorem fieldValue_content_type {h : CStr × CStr} {msg' : RTSPUnknownMsg}
    (hset : msg.setFieldValue h = .ok msg') :
    msg'.fieldValue (str "Content-Type") =
      if h.1.map toLower = str "content-type" then h.2
      else msg.fieldValue (str "Content-Type") := by
  by_cases hname : h.1.map toLower = str "content-type"
  · rw [if_pos hname]
    have hplace : headIndex h.1 = headIndex (str "Content-Type") := headIndex_congr hname
    rw [headIndex_content_type] at hplace
    rw [setFieldValue_ok hplace (by decide)] at hset
    cases hset
    rw [fieldValue_eq headIndex_content_type (by decide)]
    exact Vector.getElem_set_self _
  · rw [if_neg hname]
    rcases fieldValue_setFieldValue hset (str "Content-Type") with ⟨-, hplace⟩ | hkept
    · rw [headIndex_content_type] at hplace
      exact absurd (toLower_eq_of_headIndex hplace headIndex_content_type) hname
    · exact hkept

theorem decodeBody_keeps_iff (strBody : CStr) (h : msg.m_eMsgType ≠ .rmt_unknown) :
    (decodeBody strBody msg).1 = msg.m_eMsgType ↔
      Readable (msg.fieldValue (str "Content-Type")) strBody := by
  unfold decodeBody Readable
  dsimp only
  split
  case isTrue hsdp => exact iff_of_true rfl (Or.inl hsdp)
  case isFalse hsdp =>
    rw [or_iff_right hsdp]
    split
    case isTrue hjson =>
      rw [and_iff_right hjson]
      split
      case isTrue hbad =>
        refine iff_of_false (Ne.symm h) ?_
        omega
      case isFalse hgood =>
        refine iff_of_true rfl ?_
        omega
    case isFalse hjson => exact iff_of_false (Ne.symm h) fun hread => hjson hread.1

/-- **The loop returns the type in the message exactly when the lines can be stored and the body
read.** -/
theorem headerLoop_keeps_iff (t : CStr) (h : msg.m_eMsgType ≠ .rmt_unknown) :
    (∃ msg', headerLoop t msg = .ok (msg.m_eMsgType, msg')) ↔
      (∀ l ∈ (headerPart t).1, Storable l) ∧
        ∀ strBody ∈ (headerPart t).2,
          Readable (contentType (msg.fieldValue (str "Content-Type")) (headerPart t).1)
            strBody := by
  fun_induction headerLoop t msg with
  | case1 t msg hcut =>
    rw [headerPart, hcut]
    refine iff_of_true ⟨msg, rfl⟩ ?_
    simp
  | case2 t msg strBody hcut =>
    rw [headerPart, hcut]
    have hbody := decodeBody_keeps_iff strBody h
    simp only [List.not_mem_nil, false_imp_iff, implies_true, true_and, Option.mem_some_iff,
      forall_eq', contentType, List.foldl_nil]
    rw [← hbody]
    constructor
    · rintro ⟨msg', hdec⟩
      rw [Except.ok.inj hdec]
    · intro htype
      exact ⟨_, congrArg Except.ok (Prod.ext htype rfl)⟩
  | case3 t msg line tail hne hcut hcolon =>
    rw [headerPart_line hcut hne]
    refine iff_of_false ?_ ?_
    · rintro ⟨msg', hdec⟩
      exact h (congrArg Prod.fst (Except.ok.inj hdec)).symm
    · rintro ⟨hlines, -⟩
      have hmem := (hlines line List.mem_cons_self).1
      rw [breakOn_colon hmem] at hcolon
      cases hcolon
  | case4 t msg line tail hne hcut strFieldName strFieldValue hcolon mid hset ih =>
    rw [headerPart_line hcut hne]
    have hmem : colon ∈ line := by
      rw [breakOn_eq_some hcolon]
      simp
    rw [breakOn_colon hmem] at hcolon
    cases hcolon
    have htype : mid.m_eMsgType = msg.m_eMsgType := by rw [setFieldValue_rest hset]
    rw [← htype] at h ⊢
    rw [ih h, fieldValue_content_type hset, List.forall_mem_cons]
    have hscale : (lineName line).map toLower ≠ str "scale" :=
      (setFieldValue_isOk_iff _ msg).mp ⟨mid, hset⟩
    have hline : Storable line := ⟨hmem, hscale⟩
    rw [and_iff_right hline]
    rfl
  | case5 t msg line tail hne hcut strFieldName strFieldValue hcolon e hset =>
    rw [headerPart_line hcut hne]
    refine iff_of_false ?_ ?_
    · rintro ⟨msg', hdec⟩
      cases hdec
    · rintro ⟨hlines, -⟩
      obtain ⟨hmem, hscale⟩ := hlines line List.mem_cons_self
      rw [breakOn_colon hmem] at hcolon
      cases hcolon
      have hstored := setFieldValue_isOk_iff (lineName line, lineValue line) msg
      obtain ⟨mid, hok⟩ := hstored.mpr hscale
      rw [lineValue] at hok
      rw [hok] at hset
      cases hset

theorem headerLoop_stored {eMsgType : RTSPMsgType} {msg' : RTSPUnknownMsg}
    (h : headerLoop t msg = .ok (eMsgType, msg')) : msg'.m_eMsgType = msg.m_eMsgType := by
  fun_induction headerLoop t msg with
  | case1 => cases h; rfl
  | case2 t msg strBody hcut =>
    have hbody : msg' = (decodeBody strBody msg).2 := by rw [Except.ok.inj h]
    rw [hbody]
    unfold decodeBody
    dsimp only
    split
    · rfl
    · split
      · split <;> rfl
      · rfl
  | case3 => cases h; rfl
  | case4 t msg line tail hne hcut strFieldName strFieldValue hcolon mid hset ih =>
    rw [ih h, setFieldValue_rest hset]
  | case5 => cases h

end loop

/-! ## The first line -/

section firstLine

variable {line : CStr} {msg : RTSPUnknownMsg}

theorem setMethod_type (strMethod : CStr) :
    (msg.setMethod strMethod).m_eMsgType =
      if stricmpEq strMethod (str "SET_PARAMETER") then .rmt_setparameter
      else if stricmpEq strMethod (str "ANNOUNCE") then .rmt_announce
      else msg.m_eMsgType := by
  unfold RTSPUnknownMsg.setMethod
  dsimp only
  split
  · rfl
  · split <;> rfl

theorem setMethod_header (strMethod : CStr) :
    (msg.setMethod strMethod).m_strHeader = msg.m_strHeader := by
  obtain ⟨eMsgType, h⟩ := setMethod_eq msg strMethod
  rw [h]

theorem fieldValue_header {msg' : RTSPUnknownMsg} (h : msg'.m_strHeader = msg.m_strHeader)
    (name : CStr) : msg'.fieldValue name = msg.fieldValue name := by
  rw [RTSPUnknownMsg.fieldValue, RTSPUnknownMsg.fieldValue, RTSPUnknownMsg.getFieldValue,
    RTSPUnknownMsg.getFieldValue, h]

theorem decodeFirstLine_status (msg : RTSPUnknownMsg) (h : StatusLine line) :
    ∃ mid, decodeFirstLine line msg = some (mid, decide (blank ∈ line)) ∧
      mid.m_eMsgType = msg.m_eMsgType ∧ mid.m_strHeader = msg.m_strHeader := by
  have hstatus : str "RTSP" <+: line := h
  rw [decodeFirstLine, if_pos hstatus]
  by_cases hblank : blank ∈ line
  · obtain ⟨l, r, rfl, hl⟩ := List.eq_append_cons_of_mem hblank
    rw [breakOn_singleton hl, decide_eq_true hblank]
    exact ⟨_, rfl, rfl, rfl⟩
  · have hnone : breakOn [blank] line = none := by
      rw [breakOn_eq_none_iff, List.singleton_infix_iff]
      exact hblank
    rw [hnone, decide_eq_false hblank]
    exact ⟨_, rfl, rfl, rfl⟩

theorem requestOf_iff {method l r : CStr} (h : ¬ StatusLine (l ++ blank :: r))
    (hl : blank ∉ l) : RequestOf method (l ++ blank :: r) ↔ stricmpEq l method = true := by
  constructor
  · rintro ⟨-, l', r', hsplit, hl', hmethod⟩
    have hcut := breakOn_singleton (r := r) hl
    rw [hsplit, breakOn_singleton hl'] at hcut
    cases hcut
    exact hmethod
  · intro hmethod
    exact ⟨h, l, r, rfl, hl, hmethod⟩

theorem decodeFirstLine_request (msg : RTSPUnknownMsg) (h : ¬ StatusLine line)
    (hblank : blank ∈ line) :
    ∃ mid, decodeFirstLine line msg = some (mid, true) ∧ mid.m_strHeader = msg.m_strHeader ∧
      (mid.m_eMsgType = .rmt_setparameter ∧ RequestOf (str "SET_PARAMETER") line ∨
        mid.m_eMsgType = .rmt_announce ∧ RequestOf (str "ANNOUNCE") line ∨
        mid.m_eMsgType = msg.m_eMsgType ∧ ¬ RequestOf (str "SET_PARAMETER") line ∧
          ¬ RequestOf (str "ANNOUNCE") line) := by
  obtain ⟨l, r, rfl, hl⟩ := List.eq_append_cons_of_mem hblank
  have hrequest : ¬ str "RTSP" <+: l ++ blank :: r := h
  have hmid : ∃ mid, decodeFirstLine (l ++ blank :: r) msg = some (mid, true) ∧
      mid.m_strHeader = msg.m_strHeader ∧ mid.m_eMsgType = (msg.setMethod l).m_eMsgType := by
    rw [decodeFirstLine, if_neg hrequest, breakOn_singleton hl]
    dsimp only
    cases breakOn [blank] r with
    | none => exact ⟨_, rfl, setMethod_header l, rfl⟩
    | some cut => exact ⟨_, rfl, setMethod_header l, rfl⟩
  obtain ⟨mid, hdec, hheader, htype⟩ := hmid
  refine ⟨mid, hdec, hheader, ?_⟩
  rw [htype, setMethod_type, requestOf_iff h hl, requestOf_iff h hl]
  by_cases hset : stricmpEq l (str "SET_PARAMETER") = true
  · simp [hset]
  · by_cases hann : stricmpEq l (str "ANNOUNCE") = true
    · simp [hset, hann]
    · simp [hset, hann]

end firstLine

/-! ## The decoder -/

theorem breakOn_text (pszContext : CStr) :
    ∃ line tail, breakOn enter (trim isBlankOrEnter (cStr pszContext) ++ enter) =
      some (line, tail) := by
  cases h : breakOn enter (trim isBlankOrEnter (cStr pszContext) ++ enter) with
  | none => exact absurd (List.infix_append' _ enter []) (by simpa using breakOn_eq_none_iff.mp h)
  | some cut => exact ⟨cut.1, cut.2, rfl⟩

/-- A first line of one of the kinds that a type stands for. -/
def Kind (line : CStr) (eMsgType : RTSPMsgType) : Prop :=
  eMsgType = .rmt_response ∧ StatusLine line ∨
    eMsgType = .rmt_setparameter ∧ RequestOf (str "SET_PARAMETER") line ∨
    eMsgType = .rmt_announce ∧ RequestOf (str "ANNOUNCE") line

theorem Kind.right {p : Parts} {eMsgType : RTSPMsgType} (h : Kind p.firstLine eMsgType)
    (hlines : ∀ l ∈ p.headerLines, colon ∈ l) : Right p eMsgType := by
  have hcolon : ∀ l ∈ p.headerLines, colon ∉ l → eMsgType = .rmt_unknown := by
    intro l hl hno
    exact absurd (hlines l hl) hno
  rcases h with ⟨rfl, hline⟩ | ⟨rfl, hline⟩ | ⟨rfl, hline⟩
  · exact ⟨fun _ => hline, nofun, nofun, fun hno _ _ => absurd hline hno, hcolon⟩
  · exact ⟨nofun, fun _ => hline, nofun, fun _ hno _ => absurd hline hno, hcolon⟩
  · exact ⟨nofun, nofun, fun _ => hline, fun _ _ hno => absurd hline hno, hcolon⟩

theorem classified_loop_iff {line tail : CStr} {msg mid : RTSPUnknownMsg}
    (hkind : Kind line mid.m_eMsgType) (hheader : mid.m_strHeader = msg.m_strHeader) :
    Classified ⟨line, (headerPart tail).1, (headerPart tail).2⟩ (headerLoop tail mid) ↔
      Regular ⟨line, (headerPart tail).1, (headerPart tail).2⟩ msg := by
  have hne : mid.m_eMsgType ≠ .rmt_unknown := by
    rcases hkind with ⟨h, -⟩ | ⟨h, -⟩ | ⟨h, -⟩ <;> rw [h] <;> decide
  have hkeeps := headerLoop_keeps_iff tail hne
  rw [fieldValue_header hheader] at hkeeps
  rw [Regular, ← hkeeps]
  constructor
  · rintro ⟨eMsgType, msg', hdec, -, hstored⟩
    rw [headerLoop_stored hdec] at hstored
    rw [hdec, hstored]
    exact ⟨msg', rfl⟩
  · rintro ⟨msg', hdec⟩
    refine ⟨_, msg', hdec, ?_, (headerLoop_stored hdec).symm⟩
    apply Kind.right hkind
    intro l hl
    exact ((hkeeps.mp ⟨msg', hdec⟩).1 l hl).1

/-- **A message is classified exactly when its parts are those of a message that can be
decoded.** -/
theorem classified_iff (pszContext : CStr) (msg : RTSPUnknownMsg) :
    Classified (parts pszContext) (decodeUnknowMsg pszContext msg) ↔
      Classifiable (parts pszContext) msg := by
  obtain ⟨line, tail, hcut⟩ := breakOn_text pszContext
  rw [parts, decodeUnknowMsg, hcut]
  dsimp only
  by_cases hstatus : StatusLine line
  · have hnone : ∀ method, ¬ RequestOf method line := fun method h => h.1 hstatus
    obtain ⟨mid, hdec, htype, hheader⟩ :=
      decodeFirstLine_status (msg.setMsgType .rmt_response) hstatus
    have hheader : mid.m_strHeader = msg.m_strHeader := hheader
    rw [hdec]
    by_cases hblank : blank ∈ line
    · rw [decide_eq_true hblank]
      refine (classified_loop_iff (Or.inl ⟨htype, hstatus⟩) hheader).trans ?_
      simp [Classifiable, hstatus, hblank]
    · -- nothing is read behind the line
      rw [decide_eq_false hblank]
      simp only [Classifiable, hstatus, hblank, hnone, true_and, not_false_eq_true, and_false,
        or_self, false_and, or_false]
      constructor
      · rintro ⟨eMsgType, msg', hret, hright, -⟩ l hl
        by_contra hno
        have hunknown := hright.noColon l hl hno
        cases hret
        have hpreset : RTSPMsgType.rmt_response = .rmt_unknown := htype.symm.trans hunknown
        cases hpreset
      · intro hlines
        exact ⟨_, mid, rfl, Kind.right (Or.inl ⟨htype, hstatus⟩) hlines, rfl⟩
  · by_cases hblank : blank ∈ line
    · obtain ⟨mid, hdec, hheader, hkind⟩ :=
        decodeFirstLine_request (msg.setMsgType .rmt_response) hstatus hblank
      have hheader : mid.m_strHeader = msg.m_strHeader := hheader
      rw [hdec]
      rcases hkind with ⟨htype, hmethod⟩ | ⟨htype, hmethod⟩ | ⟨htype, hset, hann⟩
      · refine (classified_loop_iff (Or.inr (Or.inl ⟨htype, hmethod⟩)) hheader).trans ?_
        simp [Classifiable, hstatus, hmethod]
      · refine (classified_loop_iff (Or.inr (Or.inr ⟨htype, hmethod⟩)) hheader).trans ?_
        simp [Classifiable, hstatus, hmethod]
      · -- the type of a response stays in the message
        refine iff_of_false ?_ ?_
        · rintro ⟨eMsgType, msg', hret, hright, hstored⟩
          rw [headerLoop_stored hret, htype] at hstored
          exact hstatus (hright.response hstored)
        · simp [Classifiable, hstatus, hset, hann]
    · have hnone : ∀ method, ¬ RequestOf method line := by
        rintro method ⟨-, l, r, rfl, -, -⟩
        simp at hblank
      have hdec : decodeFirstLine line (msg.setMsgType .rmt_response) = none := by
        have hrequest : ¬ str "RTSP" <+: line := hstatus
        have hcut : breakOn [blank] line = none := by
          rw [breakOn_eq_none_iff, List.singleton_infix_iff]
          exact hblank
        rw [decodeFirstLine, if_neg hrequest, hcut]
      rw [hdec]
      refine iff_of_false ?_ ?_
      · rintro ⟨eMsgType, msg', hret, -, hstored⟩
        cases hret
        cases hstored
      · simp [Classifiable, hstatus, hnone]

def optionsText : CStr := str "OPTIONS rtsp://10.0.0.1:554/ RTSP/1.0\r\nCSeq: 1\r\n\r\n"

/-- It is taken for a response. -/
theorem options_taken_for_response :
    ¬ ∀ pszContext, Classified (parts pszContext) (decodeUnknowMsg pszContext {}) := by
  intro h
  have hclass := (classified_iff optionsText {}).mp (h optionsText)
  have hline : (parts optionsText).firstLine =
      str "OPTIONS" ++ blank :: str "rtsp://10.0.0.1:554/ RTSP/1.0" := by decide +kernel
  have hstatus : ¬ StatusLine (str "OPTIONS" ++ blank :: str "rtsp://10.0.0.1:554/ RTSP/1.0") :=
    fun hp => absurd (List.cons_prefix_cons.mp hp).1 (by decide)
  have hblank : blank ∉ str "OPTIONS" := by decide
  rw [Classifiable, hline, requestOf_iff hstatus hblank, requestOf_iff hstatus hblank] at hclass
  rcases hclass with ⟨h, -⟩ | ⟨⟨h, -⟩ | h | h, -⟩
  · exact hstatus h
  · exact hstatus h
  · exact absurd h (by decide)
  · exact absurd h (by decide)

end GB28181.RTSPCom.MessageKinds
