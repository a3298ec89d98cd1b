import GB28181.RTSPCom.MessageKinds
import GB28181.RTSPCom.RTSPSession

/-!
# Reads of a stream of messages (`RTSPCom/RTSPTransSessionMgr.cpp`)

`ProcessNetworkEvent` decodes what one `recv` brought and keeps nothing for the next one.  The
messages of the server come as a stream of bytes that TCP cuts anywhere.

* `kind` — what the bytes of a read are for the session: an answer `200`, a `SET_PARAMETER`,
  anything else, or the end of the process;
* `readAll_eq` — the handlers that are called depend on the kinds of the reads only;
* `whole_messages` — cuts between the messages are harmless;
* `segments_iff` — **a way to cut the stream calls the handlers that the messages one by one call
  exactly when, for the status of the session, as many of the texts that were cut as of the
  messages read as a whole answer `200` and as a whole `SET_PARAMETER`**.
-/

set_option autoImplicit false

namespace GB28181.RTSPCom.Segments

open GB28181.Base GB28181.RTSPCom
open GB28181.RTSPCom.MessageKinds (Parts parts headerPart StatusLine RequestOf Regular lineName)

/-! ## Streams -/

/-- A complete message: a response or a `SET_PARAMETER`, with the body it announces. -/
structure CompleteMessage where
  firstLine : CStr
  headers : List (CStr × CStr)
  body : CStr
  first : str "RTSP/1.0 " <+: firstLine ∨ str "SET_PARAMETER " <+: firstLine
  line : NoEnter firstLine
  fields : ∀ h ∈ headers, PlainName h.1 ∧ NoEnter h.2
  announced : body = [] ∨
    ∃ h ∈ headers, headIndex h.1 = headIndex (str "Content-Length") ∧ h.2 = toText body.length

def CompleteMessage.text (m : CompleteMessage) : CStr :=
  joinLines (m.firstLine :: m.headers.map headerLine) ++ enter ++ m.body

/-- What one `recv` brings, when, and what the memory behind `szBuf` holds. -/
structure Read where
  now : Nat
  bytes : CStr
  behind : CStr

/-- The text in `szBuf`, which is zero where nothing was received. -/
def Read.szBuf (BIG_FILE_BUF_LEN : Nat) (r : Read) : CStr :=
  if r.bytes.length < BIG_FILE_BUF_LEN then r.bytes else r.bytes ++ r.behind

/-- Messages read one by one, and a way to cut their stream. -/
structure Segmentation (BIG_FILE_BUF_LEN : Nat) where
  messages : List CompleteMessage
  single : List Read
  single_bytes : single.map Read.bytes = messages.map CompleteMessage.text
  reads : List Read
  reads_bytes : (reads.map Read.bytes).flatten = (messages.map CompleteMessage.text).flatten
  reads_length : ∀ r ∈ reads, 0 < r.bytes.length ∧ r.bytes.length ≤ BIG_FILE_BUF_LEN

def Effect.handler : Effect → Option Handler
  | .call h => some h
  | _ => none

/-- The handlers that the reads call, up to a fault. -/
def readAll (BIG_FILE_BUF_LEN : Nat) : TransSessionMgr → List Read → List Handler
  | _, [] => []
  | m, r :: rs =>
    let outcome := processNetworkEvent r.now (r.szBuf BIG_FILE_BUF_LEN) m
    outcome.out.filterMap Effect.handler ++
      match outcome.val with
      | .ok _ => readAll BIG_FILE_BUF_LEN outcome.state rs
      | .error _ => []

/-! ## Kinds of reads -/

inductive Kind where
  /-- An answer `200`. -/
  | answer
  | setparameter
  | other
  /-- The process ends. -/
  | fault
deriving DecidableEq

/-- Header lines that end the process: in front of the first one without a colon stands a `Scale`,
whose place is outside of `m_strHeader`. -/
def Ends (headerLines : List CStr) : Prop :=
  ∃ l ∈ headerLines.takeWhile (colon ∈ ·), (lineName l).map toLower = str "scale"

instance (headerLines : List CStr) : Decidable (Ends headerLines) :=
  inferInstanceAs (Decidable (∃ l ∈ headerLines.takeWhile (colon ∈ ·),
    (lineName l).map toLower = str "scale"))

instance (line : CStr) : Decidable (StatusLine line) :=
  inferInstanceAs (Decidable (str "RTSP" <+: line))

/-- What stands behind the first blank of a line. -/
def behindBlank (line : CStr) : CStr := (line.dropWhile (· ≠ blank)).tail

def Status200 (line : CStr) : Prop :=
  StatusLine line ∧ blank ∈ line ∧ (trim isSpace (behindBlank line)).take 3 = str "200"

instance (line : CStr) : Decidable (Status200 line) :=
  inferInstanceAs (Decidable (_ ∧ _ ∧ _ = _))

theorem forall_ne_blank {l : CStr} (h : blank ∉ l) : ∀ c ∈ l, decide (c ≠ blank) = true := by
  intro c hc
  apply decide_eq_true
  rintro rfl
  exact h hc

theorem takeWhile_blank {l : CStr} (h : blank ∉ l) (r : CStr) :
    (l ++ blank :: r).takeWhile (· ≠ blank) = l := by
  rw [List.takeWhile_append_of_pos (forall_ne_blank h), List.takeWhile_cons_of_neg (by simp),
    List.append_nil]

theorem behindBlank_append {l : CStr} (h : blank ∉ l) (r : CStr) :
    behindBlank (l ++ blank :: r) = r := by
  rw [behindBlank, List.dropWhile_append_of_pos (forall_ne_blank h),
    List.dropWhile_cons_of_neg (by simp), List.tail_cons]

theorem requestOf_iff_takeWhile (method line : CStr) : RequestOf method line ↔
    ¬ StatusLine line ∧ blank ∈ line ∧
      stricmpEq (line.takeWhile (· ≠ blank)) method = true := by
  constructor
  · rintro ⟨hstatus, strMethod, rest, rfl, hblank, hmethod⟩
    refine ⟨hstatus, by simp, ?_⟩
    rwa [takeWhile_blank hblank]
  · rintro ⟨hstatus, hblank, hmethod⟩
    obtain ⟨l, r, rfl, hl⟩ := List.eq_append_cons_of_mem hblank
    rw [takeWhile_blank hl] at hmethod
    exact ⟨hstatus, l, r, rfl, hl, hmethod⟩

instance (method line : CStr) : Decidable (RequestOf method line) :=
  decidable_of_iff _ (requestOf_iff_takeWhile method line).symm

instance (line : CStr) : Decidable (MessageKinds.Storable line) :=
  inferInstanceAs (Decidable (_ ∧ _ ≠ _))

instance (szContentType strBody : CStr) :
    Decidable (MessageKinds.Readable szContentType strBody) :=
  inferInstanceAs (Decidable (_ = _ ∨ _ = _ ∧ _ < _ ∧ _ < _ ∧ _ ≤ _))

instance (p : Parts) (msg : RTSPUnknownMsg) : Decidable (Regular p msg) :=
  inferInstanceAs (Decidable ((∀ l ∈ p.headerLines, _) ∧ ∀ strBody ∈ p.body, _))

/-- The kind of a text, by its first line, its header lines and its body. -/
def kind (szBuf : CStr) : Kind :=
  let p := parts szBuf
  if blank ∈ p.firstLine ∧ Ends p.headerLines then .fault
  else if Status200 p.firstLine ∧ Regular p {} then .answer
  else if RequestOf (str "SET_PARAMETER") p.firstLine ∧ Regular p {} then .setparameter
  else .other

/-- The kinds of reads before the process ends. -/
def kinds (BIG_FILE_BUF_LEN : Nat) (rs : List Read) : List Kind :=
  (rs.map fun r => kind (r.szBuf BIG_FILE_BUF_LEN)).takeWhile (· ≠ .fault)

def afterAnswer (ks : List Kind) : List Kind := (ks.dropWhile (· ≠ .answer)).tail

/-- The same for a session of this status: as many answers before it plays, as many
`SET_PARAMETER`s while it plays, and in between the first answer and as many `SET_PARAMETER`s
behind it. -/
def SameKinds (eStatus : RTSPStatus) (ks ks' : List Kind) : Prop :=
  match eStatus with
  | .rs_options => ks.count .answer = ks'.count .answer
  | .rs_describe => ks.count .answer = ks'.count .answer
  | .rs_setup => ks.count .answer = ks'.count .answer
  | .rs_play =>
    (.answer ∈ ks ↔ .answer ∈ ks') ∧
      (afterAnswer ks).count .setparameter = (afterAnswer ks').count .setparameter
  | .rs_playing => ks.count .setparameter = ks'.count .setparameter
  | .rs_pause => ks.count .setparameter = ks'.count .setparameter
  | _ => True

/-! ## Handlers of a list of kinds -/

def nextStatus : Handler → RTSPStatus → RTSPStatus
  | .Describe, _ => .rs_describe
  | .Setup, _ => .rs_setup
  | .StartKeepalive, _ => .rs_playing
  | .SDPResponse, eStatus => eStatus
  | .SetParameter, eStatus => eStatus

theorem handler_outcome (now : Nat) (h : Handler) (m : TransSessionMgr) :
    (handler now h m).out.filterMap Effect.handler = [] ∧
      (handler now h m).state.session.eStatus = nextStatus h m.session.eStatus ∧
        (handler now h m).val = .ok () := by
  cases h with
  | Describe => exact ⟨rfl, rfl, rfl⟩
  | Setup => exact ⟨rfl, rfl, rfl⟩
  | SDPResponse =>
    show (sdpResponse m).out.filterMap _ = [] ∧ _
    rw [handler, run_sdpResponse]
    refine ⟨?_, rfl, rfl⟩
    split <;> rfl
  | StartKeepalive => exact ⟨rfl, rfl, rfl⟩
  | SetParameter => exact ⟨rfl, rfl, rfl⟩

/-- The handler that a read of this kind calls. -/
def handlerOf : Kind → RTSPStatus → Option Handler
  | .answer => pfnRTSPProc .rmt_response
  | .setparameter => pfnRTSPProc .rmt_setparameter
  | _ => fun _ => none

def handlersOf : RTSPStatus → List Kind → List Handler
  | _, [] => []
  | eStatus, k :: ks =>
    match handlerOf k eStatus with
    | some h => h :: handlersOf (nextStatus h eStatus) ks
    | none => handlersOf eStatus ks

/-- A read of this kind calls its handler, leaves the status of that and returns. -/
structure Drives (k : Kind) (m : TransSessionMgr)
    (outcome : Outcome TransSessionMgr Effect HeaderFault Unit) : Prop where
  calls : outcome.out.filterMap Effect.handler = (handlerOf k m.session.eStatus).toList
  status : outcome.state.session.eStatus =
    (handlerOf k m.session.eStatus).elim m.session.eStatus fun h => nextStatus h m.session.eStatus
  returns : outcome.val = .ok ()

theorem drives_setparameter (now : Nat) (msg : RTSPUnknownMsg) (m : TransSessionMgr) :
    Drives .setparameter m (handleMessage now .rmt_setparameter msg m) := by
  rw [run_handleMessage_setparameter]
  refine ⟨?_, ?_, rfl⟩
  · rw [handlerOf]
    cases m.session.eStatus <;> rfl
  · rw [handlerOf]
    cases m.session.eStatus <;> rfl

theorem drives_answer {msg : RTSPUnknownMsg} (h200 : msg.is200 = true) (now : Nat)
    (m : TransSessionMgr) : Drives .answer m (handleMessage now .rmt_response msg m) := by
  rw [run_handleMessage_response h200]
  cases hp : pfnRTSPProc .rmt_response m.session.eStatus with
  | none =>
    refine ⟨?_, ?_, rfl⟩
    · rw [handlerOf, hp]
      rfl
    · rw [handlerOf, hp]
      exact received_eStatus _ _ _
  | some h =>
    obtain ⟨hout, hstatus, hval⟩ := handler_outcome now h (m.received now msg)
    refine ⟨?_, ?_, hval⟩
    · rw [handlerOf, hp, List.filterMap_cons, Effect.handler, hout]
      rfl
    · rw [handlerOf, hp, hstatus, TransSessionMgr.received, received_eStatus]
      rfl

def decodedKind : Except HeaderFault (RTSPMsgType × RTSPUnknownMsg) → Kind
  | .error _ => .fault
  | .ok (.rmt_unknown, _) => .other
  | .ok (.rmt_setparameter, _) => .setparameter
  | .ok (_, msg) => if msg.is200 then .answer else .other

theorem decodedKind_congr {msg msg' : RTSPUnknownMsg} (h : msg'.m_strStatus = msg.m_strStatus)
    (eMsgType : RTSPMsgType) : decodedKind (.ok (eMsgType, msg')) =
      decodedKind (.ok (eMsgType, msg)) := by
  have h200 : msg'.is200 = msg.is200 := by rw [RTSPUnknownMsg.is200, RTSPUnknownMsg.is200, h]
  cases eMsgType <;> simp [decodedKind, h200]

theorem ends_cons {line : CStr} (h : colon ∈ line) (lines : List CStr) :
    Ends (line :: lines) ↔ (lineName line).map toLower = str "scale" ∨ Ends lines := by
  rw [Ends, List.takeWhile_cons_of_pos (by simp [h]), List.exists_mem_cons_iff, Ends]

theorem not_ends_cons {line : CStr} (h : colon ∉ line) (lines : List CStr) :
    ¬ Ends (line :: lines) := by
  rw [Ends, List.takeWhile_cons_of_neg (by simp [h])]
  simp

theorem headerLoop_error_iff (t : CStr) (msg : RTSPUnknownMsg) :
    (∃ e, headerLoop t msg = .error e) ↔ Ends (headerPart t).1 := by
  fun_induction headerLoop t msg with
  | case1 t msg hcut =>
    rw [headerPart, hcut]
    exact iff_of_false (by rintro ⟨e, he⟩; cases he) (by simp [Ends])
  | case2 t msg strBody hcut =>
    rw [headerPart, hcut]
    exact iff_of_false (by rintro ⟨e, he⟩; cases he) (by simp [Ends])
  | case3 t msg line tail hne hcut hcolon =>
    rw [MessageKinds.headerPart_line hcut hne]
    refine iff_of_false (by rintro ⟨e, he⟩; cases he) (not_ends_cons ?_ _)
    intro hmem
    rw [MessageKinds.breakOn_colon hmem] at hcolon
    cases hcolon
  | case4 t msg line tail hne hcut strFieldName strFieldValue hcolon mid hset ih =>
    have hmem : colon ∈ line := by
      rw [breakOn_eq_some hcolon]
      simp
    rw [MessageKinds.breakOn_colon hmem] at hcolon
    cases hcolon
    have hscale : (lineName line).map toLower ≠ str "scale" :=
      (MessageKinds.setFieldValue_isOk_iff _ msg).mp ⟨mid, hset⟩
    rw [MessageKinds.headerPart_line hcut hne, ih, ends_cons hmem, or_iff_right hscale]
  | case5 t msg line tail hne hcut strFieldName strFieldValue hcolon e hset =>
    have hmem : colon ∈ line := by
      rw [breakOn_eq_some hcolon]
      simp
    rw [MessageKinds.breakOn_colon hmem] at hcolon
    cases hcolon
    rw [MessageKinds.headerPart_line hcut hne, ends_cons hmem]
    refine iff_of_true ⟨e, rfl⟩ (Or.inl ?_)
    by_contra hscale
    obtain ⟨mid, hok⟩ := (MessageKinds.setFieldValue_isOk_iff
      (lineName line, trim isSpace (line.dropWhile (· ≠ colon)).tail) msg).mpr hscale
    rw [hok] at hset
    cases hset

theorem decodedKind_headerLoop (line tail : CStr) {mid : RTSPUnknownMsg}
    (hne : mid.m_eMsgType ≠ .rmt_unknown)
    (hheader : mid.m_strHeader = ({} : RTSPUnknownMsg).m_strHeader) :
    decodedKind (headerLoop tail mid) =
      if Ends (headerPart tail).1 then .fault
      else if Regular ⟨line, (headerPart tail).1, (headerPart tail).2⟩ {} then
        decodedKind (.ok (mid.m_eMsgType, mid))
      else .other := by
  have hkeeps := MessageKinds.headerLoop_keeps_iff tail hne
  rw [MessageKinds.fieldValue_header hheader] at hkeeps
  by_cases hends : Ends (headerPart tail).1
  · obtain ⟨e, he⟩ := (headerLoop_error_iff tail mid).mpr hends
    rw [if_pos hends, he]
    rfl
  · rw [if_neg hends]
    cases hloop : headerLoop tail mid with
    | error e => exact absurd ((headerLoop_error_iff tail mid).mp ⟨e, hloop⟩) hends
    | ok p =>
      obtain ⟨eMsgType, msg'⟩ := p
      obtain ⟨htype, hstatus⟩ := headerLoop_type hloop
      split
      case isTrue hregular =>
        obtain ⟨msg'', hdec⟩ := hkeeps.mpr hregular
        rw [hloop] at hdec
        cases hdec
        exact decodedKind_congr hstatus _
      case isFalse hregular =>
        rcases htype with rfl | rfl
        · rfl
        · exact absurd (hkeeps.mp ⟨msg', hloop⟩) hregular

theorem decodeFirstLine_request_status {line : CStr} {msg mid : RTSPUnknownMsg} {more : Bool}
    (hstatus : ¬ StatusLine line) (h : decodeFirstLine line msg = some (mid, more)) :
    mid.m_strStatus = msg.m_strStatus := by
  have hrequest : ¬ str "RTSP" <+: line := hstatus
  rw [decodeFirstLine, if_neg hrequest] at h
  split at h
  · cases h
  · rename_i strMethod _ _
    obtain ⟨t, hset⟩ := setMethod_eq msg strMethod
    rw [hset] at h
    split at h <;> cases h <;> rfl

theorem decodeFirstLine_kind {line : CStr} (h : blank ∈ line) :
    ∃ mid, decodeFirstLine line (({} : RTSPUnknownMsg).setMsgType .rmt_response) =
        some (mid, true) ∧
      mid.m_eMsgType ≠ .rmt_unknown ∧ mid.m_strHeader = ({} : RTSPUnknownMsg).m_strHeader ∧
      decodedKind (.ok (mid.m_eMsgType, mid)) =
        if Status200 line then .answer
        else if RequestOf (str "SET_PARAMETER") line then .setparameter
        else .other := by
  by_cases hstatus : StatusLine line
  · obtain ⟨l, r, rfl, hl⟩ := List.eq_append_cons_of_mem h
    have hprefix : str "RTSP" <+: l ++ blank :: r := hstatus
    have hnone : ¬ RequestOf (str "SET_PARAMETER") (l ++ blank :: r) := fun hreq =>
      hreq.1 hstatus
    refine ⟨((({} : RTSPUnknownMsg).setMsgType .rmt_response).setVersion l).setStatus r, ?_,
      fun he => (by cases he), rfl, ?_⟩
    · rw [decodeFirstLine, if_pos hprefix, breakOn_singleton hl]
    · have h200 : Status200 (l ++ blank :: r) ↔ (trim isSpace r).take 3 = str "200" := by
        rw [Status200, behindBlank_append hl, and_iff_right hstatus, and_iff_right h]
      rw [if_neg hnone]
      exact if_congr (decide_eq_true_iff.trans h200.symm) rfl rfl
  · have hnot : ¬ Status200 line := fun h200 => hstatus h200.1
    obtain ⟨mid, hdec, hheader, hmethod⟩ := MessageKinds.decodeFirstLine_request
      (({} : RTSPUnknownMsg).setMsgType .rmt_response) hstatus h
    have h200 : mid.is200 = false := by
      rw [RTSPUnknownMsg.is200, decodeFirstLine_request_status hstatus hdec]
      rfl
    refine ⟨mid, hdec, ?_, hheader, ?_⟩
    · rcases hmethod with ⟨htype, -⟩ | ⟨htype, -⟩ | ⟨htype, -⟩ <;> rw [htype] <;>
        exact fun he => by cases he
    · rw [if_neg hnot]
      rcases hmethod with ⟨htype, hset⟩ | ⟨htype, hann⟩ | ⟨htype, hset, -⟩
      · rw [htype, if_pos hset]
        rfl
      · have hset : ¬ RequestOf (str "SET_PARAMETER") line := by
          obtain ⟨-, l, r, rfl, hl, hmethod⟩ := hann
          rw [MessageKinds.requestOf_iff hstatus hl]
          intro hset
          have hsame : (str "ANNOUNCE").map toLower = (str "SET_PARAMETER").map toLower :=
            (beq_iff_eq.mp hmethod).symm.trans (beq_iff_eq.mp hset)
          exact absurd hsame (by decide)
        rw [htype, if_neg hset]
        exact if_neg (by simp [h200])
      · rw [htype, if_neg hset]
        exact if_neg (by simp [h200])

theorem decodeFirstLine_noBlank {line : CStr} (h : blank ∉ line) :
    decodeFirstLine line (({} : RTSPUnknownMsg).setMsgType .rmt_response) = none ∨
      ∃ mid, decodeFirstLine line (({} : RTSPUnknownMsg).setMsgType .rmt_response) =
        some (mid, false) ∧ decodedKind (.ok (mid.m_eMsgType, mid)) = .other := by
  have hcut : breakOn [blank] line = none := by
    rw [breakOn_eq_none_iff, List.singleton_infix_iff]
    exact h
  by_cases hstatus : str "RTSP" <+: line
  · right
    rw [decodeFirstLine, if_pos hstatus, hcut]
    obtain ⟨r, rfl⟩ := hstatus
    -- the status is the line, and that starts with a letter
    have hletter : trim isSpace (str "RTSP" ++ r) =
        [] ++ 0x52 :: (str "TSP" ++ r).rdropWhile isSpace :=
      trim_append_cons (l := []) (fun d hd => by cases hd) (by decide)
    refine ⟨_, rfl, if_neg fun h200 => ?_⟩
    have htake := decide_eq_true_iff.mp h200
    rw [RTSPUnknownMsg.setStatus, hletter] at htake
    exact absurd (List.cons.inj htake).1 (by decide)
  · left
    rw [decodeFirstLine, if_neg hstatus, hcut]

/-- **The kind of a text is what the decoder makes of it.** -/
theorem kind_eq (szBuf : CStr) : kind szBuf = decodedKind (decodeUnknowMsg szBuf {}) := by
  obtain ⟨line, tail, hcut⟩ := MessageKinds.breakOn_text szBuf
  rw [kind, parts, decodeUnknowMsg, hcut]
  dsimp only
  by_cases hblank : blank ∈ line
  · obtain ⟨mid, hdec, hne, hheader, hkind⟩ := decodeFirstLine_kind hblank
    rw [hdec]
    dsimp only
    rw [decodedKind_headerLoop line tail hne hheader, hkind]
    split_ifs <;> simp_all
  · have hanswer : ¬ Status200 line := fun h => hblank h.2.1
    have hset : ¬ RequestOf (str "SET_PARAMETER") line := by
      rw [requestOf_iff_takeWhile]
      exact fun h => hblank h.2.1
    rw [if_neg fun h => hblank h.1, if_neg fun h => hanswer h.1, if_neg fun h => hset h.1]
    rcases decodeFirstLine_noBlank hblank with hdec | ⟨mid, hdec, hkind⟩
    · rw [hdec]
      rfl
    · rw [hdec]
      exact hkind.symm

theorem kind_of_decode {szBuf : CStr} {eMsgType : RTSPMsgType} {msg : RTSPUnknownMsg}
    (h : decodeUnknowMsg szBuf {} = .ok (eMsgType, msg)) (now : Nat) (m : TransSessionMgr) :
    kind szBuf ≠ .fault ∧ Drives (kind szBuf) m (handleMessage now eMsgType msg m) := by
  cases hk : eMsgType with
  | rmt_unknown =>
    have hkind : kind szBuf = .other := by rw [kind_eq, h, hk, decodedKind]
    rw [hkind]
    exact ⟨by decide, ⟨rfl, rfl, rfl⟩⟩
  | rmt_setparameter =>
    have hkind : kind szBuf = .setparameter := by rw [kind_eq, h, hk, decodedKind]
    rw [hkind]
    exact ⟨by decide, drives_setparameter now msg m⟩
  | rmt_response =>
    have hkind : kind szBuf = if msg.is200 then .answer else .other := by
      rw [kind_eq, h, hk]
      rfl
    rw [hkind]
    cases h200 : msg.is200 with
    | true => exact ⟨by decide, drives_answer h200 now m⟩
    | false =>
      rw [run_handleMessage_refused (by decide) (by decide) h200]
      exact ⟨by decide, ⟨rfl, rfl, rfl⟩⟩
  | rmt_announce =>
    have h200 : msg.is200 = false := by
      rw [← Bool.not_eq_true]
      intro h200
      have hstatus := RTSPUnknownMsg.is200_status h200
      rw [hk] at h
      rcases decode_status h with h | h | h
      · cases h
      · cases h
      · exact hstatus h
    have hkind : kind szBuf = .other := by
      rw [kind_eq, h, hk]
      exact if_neg (by simp [h200])
    rw [hkind, run_handleMessage_refused (by decide) (by decide) h200]
    exact ⟨by decide, ⟨rfl, rfl, rfl⟩⟩

/-- **The handlers depend on the kinds of the reads only.** -/
theorem readAll_eq (BIG_FILE_BUF_LEN : Nat) (m : TransSessionMgr) (rs : List Read) :
    readAll BIG_FILE_BUF_LEN m rs =
      handlersOf m.session.eStatus (kinds BIG_FILE_BUF_LEN rs) := by
  induction rs generalizing m with
  | nil => rfl
  | cons r rs ih =>
    rw [readAll, kinds, List.map_cons, processNetworkEvent]
    cases hdec : decodeUnknowMsg (r.szBuf BIG_FILE_BUF_LEN) {} with
    | error e =>
      have hkind : kind (r.szBuf BIG_FILE_BUF_LEN) = .fault := by
        rw [kind_eq, hdec, decodedKind]
      rw [hkind, List.takeWhile_cons_of_neg (by decide)]
      rfl
    | ok p =>
      obtain ⟨eMsgType, msg⟩ := p
      obtain ⟨hkind, hdrives⟩ := kind_of_decode hdec r.now m
      rw [List.takeWhile_cons_of_pos (by simp [hkind]), Proc.run_lift_bind_ok, handlersOf]
      dsimp only
      rw [hdrives.calls, hdrives.returns]
      dsimp only
      rw [ih, hdrives.status]
      cases handlerOf (kind (r.szBuf BIG_FILE_BUF_LEN)) m.session.eStatus <;> rfl

/-! ## Counting -/

/-- The handlers of `n` answers before the session plays. -/
def answerHandlers : RTSPStatus → Nat → List Handler
  | _, 0 => []
  | .rs_options, n + 1 => .Describe :: answerHandlers .rs_describe n
  | .rs_describe, n + 1 => .Setup :: answerHandlers .rs_setup n
  | _, n + 1 => .SDPResponse :: answerHandlers .rs_setup n

theorem answerHandlers_length (eStatus : RTSPStatus) (n : Nat) :
    (answerHandlers eStatus n).length = n := by
  induction n generalizing eStatus with
  | zero => cases eStatus <;> rfl
  | succ n ih => cases eStatus <;> simp [answerHandlers, ih]

theorem answerHandlers_inj {eStatus : RTSPStatus} {n n' : Nat} :
    answerHandlers eStatus n = answerHandlers eStatus n' ↔ n = n' := by
  constructor
  · intro h
    rw [← answerHandlers_length eStatus n, h, answerHandlers_length]
  · exact congrArg _

theorem handlersOf_answers {eStatus : RTSPStatus}
    (h : eStatus = .rs_options ∨ eStatus = .rs_describe ∨ eStatus = .rs_setup) (ks : List Kind) :
    handlersOf eStatus ks = answerHandlers eStatus (ks.count .answer) := by
  induction ks generalizing eStatus with
  | nil => rcases h with rfl | rfl | rfl <;> rfl
  | cons k ks ih =>
    rw [handlersOf, List.count_cons]
    cases k with
    | answer =>
      rcases h with rfl | rfl | rfl
      · exact congrArg _ (ih (Or.inr (Or.inl rfl)))
      · exact congrArg _ (ih (Or.inr (Or.inr rfl)))
      · exact congrArg _ (ih (Or.inr (Or.inr rfl)))
    | setparameter => rcases h with rfl | rfl | rfl <;> exact ih (by decide)
    | other => rcases h with rfl | rfl | rfl <;> exact ih (by decide)
    | fault => rcases h with rfl | rfl | rfl <;> exact ih (by decide)

theorem handlersOf_setparameters {eStatus : RTSPStatus}
    (h : eStatus = .rs_playing ∨ eStatus = .rs_pause) (ks : List Kind) :
    handlersOf eStatus ks = List.replicate (ks.count .setparameter) .SetParameter := by
  induction ks with
  | nil => rfl
  | cons k ks ih =>
    rw [handlersOf, List.count_cons]
    cases k with
    | setparameter => rcases h with rfl | rfl <;> exact congrArg _ ih
    | answer => rcases h with rfl | rfl <;> exact ih
    | other => rcases h with rfl | rfl <;> exact ih
    | fault => rcases h with rfl | rfl <;> exact ih

theorem handlersOf_play (ks : List Kind) :
    handlersOf .rs_play ks = if .answer ∈ ks then
      .StartKeepalive :: List.replicate ((afterAnswer ks).count .setparameter) .SetParameter
      else [] := by
  induction ks with
  | nil => rfl
  | cons k ks ih =>
    by_cases hk : k = .answer
    · subst hk
      rw [if_pos List.mem_cons_self]
      exact congrArg _ (handlersOf_setparameters (Or.inl rfl) ks)
    · have hmem : Kind.answer ∈ k :: ks ↔ Kind.answer ∈ ks := by
        rw [List.mem_cons, or_iff_right (Ne.symm hk)]
      have hafter : afterAnswer (k :: ks) = afterAnswer ks := by
        rw [afterAnswer, List.dropWhile_cons_of_pos (by simp [hk]), afterAnswer]
      have hnone : handlerOf k .rs_play = none := by
        cases k with
        | answer => exact absurd rfl hk
        | setparameter => rfl
        | other => rfl
        | fault => rfl
      rw [handlersOf, hnone, hafter]
      simp only [hmem]
      exact ih

theorem handlersOf_none {eStatus : RTSPStatus} (h : ∀ k, handlerOf k eStatus = none)
    (ks : List Kind) : handlersOf eStatus ks = [] := by
  induction ks with
  | nil => rfl
  | cons k ks ih =>
    rw [handlersOf, h k]
    exact ih

theorem replicate_inj_iff {n n' : Nat} :
    List.replicate n Handler.SetParameter = List.replicate n' Handler.SetParameter ↔ n = n' := by
  constructor
  · intro h
    have hlen := congrArg List.length h
    rwa [List.length_replicate, List.length_replicate] at hlen
  · intro h
    rw [h]

/-- Two lists of kinds call the same handlers exactly when they are the same for the status. -/
theorem handlersOf_eq_iff (eStatus : RTSPStatus) (ks ks' : List Kind) :
    handlersOf eStatus ks = handlersOf eStatus ks' ↔ SameKinds eStatus ks ks' := by
  have hnone : (∀ k, handlerOf k eStatus = none) →
      (handlersOf eStatus ks = handlersOf eStatus ks' ↔ True) := fun h =>
    iff_of_true ((handlersOf_none h ks).trans (handlersOf_none h ks').symm) trivial
  cases eStatus with
  | rs_options =>
    rw [handlersOf_answers (by decide), handlersOf_answers (by decide), answerHandlers_inj]
    rfl
  | rs_describe =>
    rw [handlersOf_answers (by decide), handlersOf_answers (by decide), answerHandlers_inj]
    rfl
  | rs_setup =>
    rw [handlersOf_answers (by decide), handlersOf_answers (by decide), answerHandlers_inj]
    rfl
  | rs_play =>
    show _ ↔ (.answer ∈ ks ↔ .answer ∈ ks') ∧ _
    rw [handlersOf_play, handlersOf_play]
    have hnot : ∀ l : List Kind, Kind.answer ∉ l → afterAnswer l = [] := by
      intro l hl
      have hdrop : l.dropWhile (· ≠ .answer) = [] :=
        List.dropWhile_eq_nil_iff.mpr fun k hk => decide_eq_true fun e => hl (e ▸ hk)
      rw [afterAnswer, hdrop, List.tail_nil]
    by_cases h : Kind.answer ∈ ks
    · by_cases h' : Kind.answer ∈ ks'
      · rw [if_pos h, if_pos h', List.cons_eq_cons, and_iff_right rfl, replicate_inj_iff,
          and_iff_right (iff_of_true h h')]
      · rw [if_pos h, if_neg h']
        exact iff_of_false (by simp) fun hs => h' (hs.1.mp h)
    · by_cases h' : Kind.answer ∈ ks'
      · rw [if_neg h, if_pos h']
        exact iff_of_false (by simp) fun hs => h (hs.1.mpr h')
      · rw [if_neg h, if_neg h', hnot ks h, hnot ks' h']
        exact iff_of_true rfl ⟨iff_of_false h h', rfl⟩
  | rs_playing =>
    rw [handlersOf_setparameters (Or.inl rfl), handlersOf_setparameters (Or.inl rfl),
      replicate_inj_iff]
    rfl
  | rs_pause =>
    rw [handlersOf_setparameters (Or.inr rfl), handlersOf_setparameters (Or.inr rfl),
      replicate_inj_iff]
    rfl
  | rs_null => exact hnone fun k => by cases k <;> rfl
  | rs_record => exact hnone fun k => by cases k <;> rfl
  | rs_recording => exact hnone fun k => by cases k <;> rfl
  | rs_third_200_ret => exact hnone fun k => by cases k <;> rfl

/-! ## Segments -/

/-- **Reading and segments.**  Whatever the status of the session, the reads of a stream call the
handlers that its messages one by one call exactly when the bytes of the reads and those of the
messages are, for the status, as many answers `200` and as many `SET_PARAMETER`s. -/
theorem segments_iff {BIG_FILE_BUF_LEN : Nat} (S : Segmentation BIG_FILE_BUF_LEN)
    (m : TransSessionMgr) :
    readAll BIG_FILE_BUF_LEN m S.reads = readAll BIG_FILE_BUF_LEN m S.single ↔
      SameKinds m.session.eStatus (kinds BIG_FILE_BUF_LEN S.reads)
        (kinds BIG_FILE_BUF_LEN S.single) := by
  rw [readAll_eq, readAll_eq, handlersOf_eq_iff]

theorem szBuf_short {BIG_FILE_BUF_LEN : Nat} {r : Read} (h : r.bytes.length < BIG_FILE_BUF_LEN) :
    r.szBuf BIG_FILE_BUF_LEN = r.bytes := if_pos h

theorem kinds_short {BIG_FILE_BUF_LEN : Nat} {rs : List Read}
    (h : ∀ r ∈ rs, r.bytes.length < BIG_FILE_BUF_LEN) :
    kinds BIG_FILE_BUF_LEN rs = ((rs.map Read.bytes).map kind).takeWhile (· ≠ .fault) := by
  have hmap : (rs.map fun r => kind (r.szBuf BIG_FILE_BUF_LEN)) =
      (rs.map Read.bytes).map kind := by
    rw [List.map_map]
    exact List.map_congr_left fun r hr => congrArg kind (szBuf_short (h r hr))
  rw [kinds, hmap]

/-- **A cut between the messages** is harmless, if none of them fills the buffer. -/
theorem whole_messages {BIG_FILE_BUF_LEN : Nat} (S : Segmentation BIG_FILE_BUF_LEN)
    (hwhole : S.reads.map Read.bytes = S.messages.map CompleteMessage.text)
    (hshort : ∀ a ∈ S.messages, a.text.length < BIG_FILE_BUF_LEN) (m : TransSessionMgr) :
    readAll BIG_FILE_BUF_LEN m S.reads = readAll BIG_FILE_BUF_LEN m S.single := by
  have hlen : ∀ rs : List Read, rs.map Read.bytes = S.messages.map CompleteMessage.text →
      ∀ r ∈ rs, r.bytes.length < BIG_FILE_BUF_LEN := by
    intro rs hrs r hr
    have hmem : r.bytes ∈ S.messages.map CompleteMessage.text := by
      rw [← hrs]
      exact List.mem_map_of_mem hr
    obtain ⟨a, ha, htext⟩ := List.mem_map.mp hmem
    rw [← htext]
    exact hshort a ha
  rw [readAll_eq, readAll_eq, kinds_short (hlen _ hwhole), kinds_short (hlen _ S.single_bytes),
    hwhole, S.single_bytes]

/-- The answer `200` with a number. -/
def okMessage (v : CStr) (hv : CleanValue v) : CompleteMessage where
  firstLine := str "RTSP/1.0 200 OK"
  headers := [(str "CSeq", v)]
  body := []
  first := Or.inl (by decide)
  line := by decide
  fields := by
    have hname : PlainName (str "CSeq") := by decide
    rw [List.forall_mem_singleton]
    exact ⟨hname, hv.1⟩
  announced := Or.inl rfl

/-- Two answers in one read: the session is not described. -/
theorem two_answers_lost : ¬ ∀ (BIG_FILE_BUF_LEN : Nat) (S : Segmentation BIG_FILE_BUF_LEN)
    (m : TransSessionMgr),
    readAll BIG_FILE_BUF_LEN m S.reads = readAll BIG_FILE_BUF_LEN m S.single := by
  intro h
  let a := okMessage (str "1") (by decide)
  let b := okMessage (str "2") (by decide)
  let S : Segmentation 1000 :=
    { messages := [a, b]
      single := [⟨0, a.text, []⟩, ⟨0, b.text, []⟩]
      single_bytes := rfl
      reads := [⟨0, a.text ++ b.text, []⟩]
      reads_bytes := by simp
      reads_length := by decide }
  have hread := h 1000 S ⟨1, ⟨.rs_options, [], [], 0, 0⟩⟩
  rw [readAll_eq, readAll_eq, handlersOf_eq_iff] at hread
  -- no answer is read, where there are two
  have hcount : (kinds 1000 S.reads).count .answer = (kinds 1000 S.single).count .answer := hread
  have hnone : (kinds 1000 S.reads).count .answer = 0 := by decide +kernel
  have htwo : (kinds 1000 S.single).count .answer = 2 := by decide +kernel
  rw [hnone, htwo] at hcount
  cases hcount

end GB28181.RTSPCom.Segments
