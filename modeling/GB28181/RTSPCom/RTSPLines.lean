import GB28181.RTSPCom.RTSPParser

/-!
# Lines of an RTSP message (`RTSPCom/RTSPParser.cpp`)

The decoder on the texts the encoders write, and on any text.

* `fieldValue_storeAll`, `storeAll_outOfRange` — what header fields stored one after another leave;
* `decode_encodeRequest` — **the decoder stores the first line and the header fields that were
  written**;
* `decode_fromText` — whatever it is given, what it stores are parts of the text, trimmed;
* `decode_status` — only a message that is taken for a response has a status.
-/

set_option autoImplicit false

namespace GB28181.RTSPCom

open GB28181.Base

/-! ## Lines -/

def NoEnter (t : CStr) : Prop := ¬ enter <:+: t

instance (t : CStr) : Decidable (NoEnter t) := inferInstanceAs (Decidable (¬ enter <:+: t))

def joinLines (lines : List CStr) : CStr := lines.flatMap (· ++ enter)

theorem joinLines_cons (l : CStr) (ls : List CStr) :
    joinLines (l :: ls) = l ++ enter ++ joinLines ls := List.flatMap_cons

theorem joinLines_concat (ls : List CStr) (l : CStr) :
    joinLines (ls ++ [l]) = joinLines ls ++ l ++ enter := by
  simp [joinLines]

theorem noEnter_nil : NoEnter [] := by decide

theorem noEnter_of_notMem {t : CStr} (h : 0x0d ∉ t) : NoEnter t :=
  fun hi => h (hi.subset List.mem_cons_self)

theorem NoEnter.append_cons {l r : CStr} {c : UInt8} (hc : c ∉ enter) (hl : NoEnter l)
    (hr : NoEnter r) : NoEnter (l ++ c :: r) :=
  not_infix_append_cons (List.cons_ne_nil _ _) hc hr hl

theorem breakOn_enter {l : CStr} (h : NoEnter l) (r : CStr) :
    breakOn enter (l ++ enter ++ r) = some (l, r) := by
  refine breakOn_append (List.cons_ne_nil _ _) ?_
  show ¬ enter <:+: l ++ [0x0d]
  rw [List.infix_concat_iff, not_or]
  refine ⟨?_, h⟩
  rintro ⟨t, ht⟩
  have hlast := congrArg List.getLast? ht
  simp [enter] at hlast

theorem isSpace_of_isBlankOrEnter {c : UInt8} (h : isBlankOrEnter c = true) :
    isSpace c = true := by
  have hc : c = 0x20 ∨ c = 0x0d ∨ c = 0x0a := by
    simpa [isBlankOrEnter, blank, enter] using h
  rcases hc with rfl | rfl | rfl <;> rfl

theorem isBlankOrEnter_of_not_isSpace {c : UInt8} (h : isSpace c = false) :
    isBlankOrEnter c = false := by
  rw [← Bool.not_eq_true] at h ⊢
  exact fun hc => h (isSpace_of_isBlankOrEnter hc)

theorem trim_joinLines {l : CStr} {ls : List CStr} (hhead : ∀ c ∈ l.head?, isBlankOrEnter c = false)
    (hne : ∀ k ∈ l :: ls, k ≠ [])
    (hlast : ∀ k ∈ l :: ls, ∀ c ∈ k.getLast?, isBlankOrEnter c = false) :
    trim isBlankOrEnter (joinLines (l :: ls) ++ enter) ++ enter = joinLines (l :: ls) := by
  obtain ⟨init, last, he⟩ : ∃ init last, l :: ls = init ++ [last] :=
    ⟨_, _, (List.dropLast_concat_getLast (List.cons_ne_nil l ls)).symm⟩
  have hmem : last ∈ l :: ls := by
    rw [he]
    exact List.mem_append_right _ List.mem_cons_self
  have hcore : Trimmed isBlankOrEnter (joinLines init ++ last) := by
    constructor
    · have hfirst : (joinLines init ++ last).head? = l.head? := by
        cases init with
        | nil =>
          obtain ⟨rfl, -⟩ := List.cons.inj he
          rfl
        | cons k init =>
          obtain ⟨rfl, -⟩ := List.cons.inj he
          obtain ⟨c, k, rfl⟩ := List.exists_cons_of_ne_nil (hne l List.mem_cons_self)
          rfl
      rw [hfirst]
      exact hhead
    · intro c hc
      rw [List.getLast?_append_of_ne_nil _ (hne last hmem)] at hc
      exact hlast last hmem c hc
  have htail : ∀ c ∈ enter ++ enter, isBlankOrEnter c = true := List.all_eq_true.mp rfl
  rw [he, joinLines_concat, List.append_assoc _ enter, trim_append hcore htail]

/-! ## Storing header fields -/

/-- Header fields stored one after another. -/
def storeAll : List (CStr × CStr) → RTSPUnknownMsg → Except HeaderFault RTSPUnknownMsg
  | [], msg => .ok msg
  | h :: hs, msg =>
    match msg.setFieldValue h with
    | .ok msg => storeAll hs msg
    | .error e => .error e

theorem setFieldValue_ok {h : CStr × CStr} {n : Nat} (hn : headIndex h.1 = some n) (hlt : n < 18)
    (msg : RTSPUnknownMsg) :
    msg.setFieldValue h = .ok { msg with m_strHeader := msg.m_strHeader.set n h.2 } := by
  rw [RTSPUnknownMsg.setFieldValue, hn]
  exact dif_pos hlt

theorem fieldValue_eq {name : CStr} {n : Nat} (hn : headIndex name = some n) (hlt : n < 18)
    (msg : RTSPUnknownMsg) : msg.fieldValue name = msg.m_strHeader[n] := by
  rw [RTSPUnknownMsg.fieldValue, RTSPUnknownMsg.getFieldValue, hn]
  simp [hlt]

/-- Nothing is stored under a name without a position in `m_strHeader`. -/
theorem fieldValue_eq_nil {name : CStr} (h : ∀ n, headIndex name = some n → 18 ≤ n)
    (msg : RTSPUnknownMsg) : msg.fieldValue name = [] := by
  rw [RTSPUnknownMsg.fieldValue, RTSPUnknownMsg.getFieldValue]
  cases hn : headIndex name with
  | none => rfl
  | some n => simp [Nat.not_lt.mpr (h n hn)]

theorem fieldValue_congr {name name' : CStr} (h : headIndex name = headIndex name')
    (msg : RTSPUnknownMsg) : msg.fieldValue name = msg.fieldValue name' := by
  rw [RTSPUnknownMsg.fieldValue, RTSPUnknownMsg.getFieldValue, h]
  rfl

theorem fieldValue_setFieldValue {h : CStr × CStr} {msg msg' : RTSPUnknownMsg}
    (hset : msg.setFieldValue h = .ok msg') (name : CStr) :
    msg'.fieldValue name = h.2 ∧ headIndex h.1 = headIndex name ∨
      msg'.fieldValue name = msg.fieldValue name := by
  by_cases hname : ∃ n, headIndex name = some n ∧ n < 18
  swap
  · -- nothing is ever stored there
    have hnil : ∀ n, headIndex name = some n → 18 ≤ n := fun n hn =>
      Nat.not_lt.mp fun hlt => hname ⟨n, hn, hlt⟩
    exact Or.inr ((fieldValue_eq_nil hnil msg').trans (fieldValue_eq_nil hnil msg).symm)
  obtain ⟨n, hn, hlt⟩ := hname
  rw [RTSPUnknownMsg.setFieldValue] at hset
  split at hset
  · cases hset
    exact Or.inr rfl
  · rename_i m hm
    split at hset
    · rename_i hm'
      cases hset
      rw [fieldValue_eq hn hlt, fieldValue_eq hn hlt]
      by_cases he : m = n
      · subst he
        exact Or.inl ⟨Vector.getElem_set_self _, hm.trans hn.symm⟩
      · exact Or.inr (Vector.getElem_set_ne hm' hlt he)
    · cases hset

theorem setFieldValue_rest {h : CStr × CStr} {msg msg' : RTSPUnknownMsg}
    (hset : msg.setFieldValue h = .ok msg') :
    msg' = { msg with m_strHeader := msg'.m_strHeader } := by
  rw [RTSPUnknownMsg.setFieldValue] at hset
  split at hset
  · cases hset
    rfl
  · split at hset
    · cases hset
      rfl
    · cases hset

theorem storeAll_rest {hs : List (CStr × CStr)} {msg msg' : RTSPUnknownMsg}
    (h : storeAll hs msg = .ok msg') : msg' = { msg with m_strHeader := msg'.m_strHeader } := by
  induction hs generalizing msg with
  | nil =>
    cases h
    rfl
  | cons x hs ih =>
    rw [storeAll] at h
    split at h
    · rename_i mid hmid
      rw [ih h, setFieldValue_rest hmid]
    · cases h

theorem fieldValue_storeAll_other {hs : List (CStr × CStr)} {msg msg' : RTSPUnknownMsg}
    (h : storeAll hs msg = .ok msg') {name : CStr}
    (hname : ∀ x ∈ hs, headIndex x.1 ≠ headIndex name) :
    msg'.fieldValue name = msg.fieldValue name := by
  induction hs generalizing msg with
  | nil =>
    cases h
    rfl
  | cons x hs ih =>
    rw [List.forall_mem_cons] at hname
    rw [storeAll] at h
    split at h
    · rename_i mid hmid
      rw [ih h hname.2]
      exact (fieldValue_setFieldValue hmid name).resolve_left fun hx => hname.1 hx.2
    · cases h

/-- Every field has its value in the end, if fields with one position have one value. -/
theorem fieldValue_storeAll {hs : List (CStr × CStr)} {msg msg' : RTSPUnknownMsg}
    (h : storeAll hs msg = .ok msg') (hknown : ∀ x ∈ hs, ∃ n, headIndex x.1 = some n ∧ n < 18)
    (hone : ∀ x ∈ hs, ∀ y ∈ hs, headIndex x.1 = headIndex y.1 → x.2 = y.2) :
    ∀ x ∈ hs, msg'.fieldValue x.1 = x.2 := by
  induction hs generalizing msg with
  | nil =>
    intro x hx
    cases hx
  | cons x hs ih =>
    rw [storeAll] at h
    split at h
    swap
    · cases h
    rename_i mid hmid
    have hrest := ih h (fun y hy => hknown y (List.mem_cons_of_mem x hy))
      fun y hy z hz => hone y (List.mem_cons_of_mem x hy) z (List.mem_cons_of_mem x hz)
    rw [List.forall_mem_cons]
    refine ⟨?_, hrest⟩
    by_cases hlater : ∃ y ∈ hs, headIndex x.1 = headIndex y.1
    · obtain ⟨y, hy, hxy⟩ := hlater
      rw [fieldValue_congr hxy, hrest y hy]
      exact (hone x List.mem_cons_self y (List.mem_cons_of_mem x hy) hxy).symm
    · rw [fieldValue_storeAll_other h fun y hy hxy => hlater ⟨y, hy, hxy.symm⟩]
      obtain ⟨n, hn, hlt⟩ := hknown x List.mem_cons_self
      rw [setFieldValue_ok hn hlt] at hmid
      cases hmid
      rw [fieldValue_eq hn hlt]
      exact Vector.getElem_set_self _

theorem storeAll_ok {hs : List (CStr × CStr)}
    (hknown : ∀ x ∈ hs, ∃ n, headIndex x.1 = some n ∧ n < 18) (msg : RTSPUnknownMsg) :
    ∃ msg', storeAll hs msg = .ok msg' := by
  induction hs generalizing msg with
  | nil => exact ⟨msg, rfl⟩
  | cons x hs ih =>
    rw [List.forall_mem_cons] at hknown
    obtain ⟨n, hn, hlt⟩ := hknown.1
    rw [storeAll, setFieldValue_ok hn hlt]
    exact ih hknown.2 _

theorem storeAll_outOfRange {hs : List (CStr × CStr)} {x : CStr × CStr} {n : Nat} (hx : x ∈ hs)
    (hn : headIndex x.1 = some n) (hout : 18 ≤ n) (msg msg' : RTSPUnknownMsg) :
    storeAll hs msg ≠ .ok msg' := by
  induction hs generalizing msg with
  | nil => cases hx
  | cons y hs ih =>
    rw [storeAll]
    rcases List.mem_cons.mp hx with rfl | hx
    · have hset : msg.setFieldValue x = .error .outOfRange := by
        rw [RTSPUnknownMsg.setFieldValue, hn]
        exact dif_neg (Nat.not_lt.mpr hout)
      rw [hset]
      intro h
      cases h
    · split
      · exact ih hx _
      · intro h
        cases h

/-! ## Decoding what was encoded -/

/-- A header name without a terminator, a colon or the start of a line end. -/
def PlainName (name : CStr) : Prop := 0 ∉ name ∧ colon ∉ name ∧ 0x0d ∉ name

instance (name : CStr) : Decidable (PlainName name) := inferInstanceAs (Decidable (_ ∧ _))

/-- A value that a header line gives back. -/
def CleanValue (v : CStr) : Prop := NoEnter v ∧ Trimmed isSpace v ∧ 0 ∉ v

instance (v : CStr) : Decidable (CleanValue v) := inferInstanceAs (Decidable (_ ∧ _))

/-- The fields of a request that are written. -/
def written (headers : List (CStr × CStr)) : List (CStr × CStr) := headers.filter (·.2 ≠ [])

theorem mem_written {headers : List (CStr × CStr)} {h : CStr × CStr} :
    h ∈ written headers ↔ h ∈ headers ∧ h.2 ≠ [] := by
  rw [written, List.mem_filter, decide_eq_true_iff]

theorem flatMap_encodeHeader (headers : List (CStr × CStr)) :
    headers.flatMap encodeHeader = joinLines ((written headers).map headerLine) := by
  induction headers with
  | nil => rfl
  | cons h hs ih =>
    rw [List.flatMap_cons, ih, encodeHeader]
    by_cases hv : h.2 = []
    · simp [hv, written]
    · simp [hv, written, joinLines_cons]

theorem noEnter_headerLine {h : CStr × CStr} (hn : PlainName h.1) (hv : NoEnter h.2) :
    NoEnter (headerLine h) := by
  refine (noEnter_of_notMem hn.2.2).append_cons (by decide) ?_
  exact noEnter_nil.append_cons (l := []) (by decide) hv

theorem headerLoop_line {h : CStr × CStr} (hn : PlainName h.1) (hv : NoEnter h.2) (rest : CStr)
    (msg : RTSPUnknownMsg) :
    headerLoop (headerLine h ++ enter ++ rest) msg =
      match msg.setFieldValue (h.1, trim isSpace h.2) with
      | .ok msg => headerLoop rest msg
      | .error e => .error e := by
  have hline : breakOn enter (headerLine h ++ enter ++ rest) = some (headerLine h, rest) :=
    breakOn_enter (noEnter_headerLine hn hv) rest
  have hcolon : breakOn [colon] (headerLine h) = some (h.1, blank :: h.2) :=
    breakOn_singleton hn.2.1
  have hvalue : trim isSpace (blank :: h.2) = trim isSpace h.2 := trim_cons_of_pos (by decide) h.2
  rw [headerLoop]
  split
  · rename_i hb
    rw [hb] at hline
    cases hline
  · rename_i hb
    rw [hb] at hline
    -- the line of a header field has a colon
    have := congrArg List.length (Prod.mk.inj (Option.some.inj hline)).1
    simp [headerLine] at this
  · rename_i strSegment strTail _ hb
    obtain ⟨rfl, rfl⟩ := Prod.mk.inj (Option.some.inj (hb.symm.trans hline))
    rw [hcolon]
    cases hset : msg.setFieldValue (h.1, trim isSpace h.2) with
    | ok msg' => simp only [hvalue, hset]
    | error e => simp only [hvalue, hset]

theorem headerLoop_joinLines {hs : List (CStr × CStr)}
    (h : ∀ x ∈ hs, PlainName x.1 ∧ CleanValue x.2) (msg : RTSPUnknownMsg) :
    headerLoop (joinLines (hs.map headerLine)) msg =
      (storeAll hs msg).map fun msg => (msg.m_eMsgType, msg) := by
  induction hs generalizing msg with
  | nil =>
    rw [headerLoop]
    rfl
  | cons x hs ih =>
    rw [List.forall_mem_cons] at h
    rw [List.map_cons, joinLines_cons, headerLoop_line h.1.1 h.1.2.1, h.1.2.2.1.trim_eq, storeAll]
    cases msg.setFieldValue x with
    | error e => rfl
    | ok msg => exact ih h.2 msg

/-- A first line that a request gives back. -/
structure CleanLine (info : InfoBase) : Prop where
  nonempty : info.method ≠ [] ∧ info.version ≠ []
  noBlank : blank ∉ info.method ∧ blank ∉ info.url
  noEnter : NoEnter info.method ∧ NoEnter info.url ∧ NoEnter info.version
  noNul : 0 ∉ info.method ∧ 0 ∉ info.url ∧ 0 ∉ info.version
  method_head : ∀ c ∈ info.method.head?, isBlankOrEnter c = false
  method_request : ¬ str "RTSP" <+: info.method
  version : Trimmed isSpace info.version

/-- The message with the texts of the first line. -/
def requestMsg (info : InfoBase) : RTSPUnknownMsg :=
  ((((({} : RTSPUnknownMsg).setMsgType .rmt_response).setMethod info.method).setURL
    info.url).setVersion info.version)

theorem setMethod_eq (msg : RTSPUnknownMsg) (strMethod : CStr) :
    ∃ eMsgType, msg.setMethod strMethod =
      { msg with m_strMethod := strMethod, m_eMsgType := eMsgType } := by
  unfold RTSPUnknownMsg.setMethod
  dsimp only
  split
  · exact ⟨_, rfl⟩
  · split
    · exact ⟨_, rfl⟩
    · exact ⟨_, rfl⟩

theorem requestMsg_eq (info : InfoBase) : ∃ eMsgType, requestMsg info =
    { m_strMethod := info.method
      m_strURL := info.url
      m_strVersion := trim isSpace info.version
      m_eMsgType := eMsgType } := by
  obtain ⟨eMsgType, h⟩ := setMethod_eq (({} : RTSPUnknownMsg).setMsgType .rmt_response) info.method
  refine ⟨eMsgType, ?_⟩
  rw [requestMsg, h]
  rfl

theorem decodeFirstLine_requestLine {info : InfoBase} (h : CleanLine info) :
    decodeFirstLine (requestLine info) (({} : RTSPUnknownMsg).setMsgType .rmt_response) =
      some (requestMsg info, true) := by
  have hreq : ¬ str "RTSP" <+: requestLine info := fun hp =>
    h.method_request (prefix_append_cons (by decide) hp)
  have hmethod : breakOn [blank] (requestLine info) =
      some (info.method, info.url ++ blank :: info.version) := breakOn_singleton h.noBlank.1
  have hurl : breakOn [blank] (info.url ++ blank :: info.version) =
      some (info.url, info.version) := breakOn_singleton h.noBlank.2
  rw [decodeFirstLine, if_neg hreq, hmethod]
  dsimp only
  rw [hurl]
  rfl

theorem head?_requestLine {info : InfoBase} (h : CleanLine info) :
    (requestLine info).head? = info.method.head? := by
  obtain ⟨c, m, hm⟩ := List.exists_cons_of_ne_nil h.nonempty.1
  rw [requestLine, hm]
  rfl

theorem getLast?_requestLine {info : InfoBase} (h : CleanLine info) :
    (requestLine info).getLast? = info.version.getLast? := by
  have hassoc : requestLine info =
      (info.method ++ blank :: (info.url ++ [blank])) ++ info.version := by
    simp [requestLine]
  rw [hassoc, List.getLast?_append_of_ne_nil _ h.nonempty.2]

theorem getLast?_headerLine {h : CStr × CStr} (hv : h.2 ≠ []) :
    (headerLine h).getLast? = h.2.getLast? := by
  have hassoc : headerLine h = (h.1 ++ [colon, blank]) ++ h.2 := by simp [headerLine]
  rw [hassoc, List.getLast?_append_of_ne_nil _ hv]

theorem notMem_joinLines {c : UInt8} (hc : c ∉ enter) {lines : List CStr}
    (h : ∀ l ∈ lines, c ∉ l) : c ∉ joinLines lines := by
  intro hmem
  obtain ⟨l, hl, hcl⟩ := List.mem_flatMap.mp hmem
  rcases List.mem_append.mp hcl with hcl | hcl
  · exact h l hl hcl
  · exact hc hcl

theorem decode_lines {l : CStr} {ls : List CStr} (hl : NoEnter l) (hnul : ∀ k ∈ l :: ls, 0 ∉ k)
    (hhead : ∀ c ∈ l.head?, isBlankOrEnter c = false) (hne : ∀ k ∈ l :: ls, k ≠ [])
    (hlast : ∀ k ∈ l :: ls, ∀ c ∈ k.getLast?, isBlankOrEnter c = false) :
    decodeUnknowMsg (joinLines (l :: ls) ++ enter) {} =
      match decodeFirstLine l (({} : RTSPUnknownMsg).setMsgType .rmt_response) with
      | none => .ok (.rmt_unknown, ({} : RTSPUnknownMsg).setMsgType .rmt_response)
      | some (msg, false) => .ok (msg.m_eMsgType, msg)
      | some (msg, true) => headerLoop (joinLines ls) msg := by
  have hcStr : cStr (joinLines (l :: ls) ++ enter) = joinLines (l :: ls) ++ enter := by
    refine cStr_eq_self ?_
    rw [List.mem_append, not_or]
    exact ⟨notMem_joinLines (by decide) hnul, by decide⟩
  rw [decodeUnknowMsg, hcStr, trim_joinLines hhead hne hlast, joinLines_cons]
  have hcut : breakOn enter (l ++ enter ++ joinLines ls) = some (l, joinLines ls) :=
    breakOn_enter hl (joinLines ls)
  rcases hfirst : decodeFirstLine l (({} : RTSPUnknownMsg).setMsgType .rmt_response) with
    _ | ⟨msg, _ | _⟩
  · simp only [hcut, hfirst]
  · simp only [hcut, hfirst]
  · simp only [hcut, hfirst]

/-- **A request is decoded from what was written**: its first line, and the header fields that are
not empty. -/
theorem decode_encodeRequest {info : InfoBase} {headers : List (CStr × CStr)}
    (hline : CleanLine info) (hheaders : ∀ h ∈ headers, PlainName h.1 ∧ CleanValue h.2) :
    decodeUnknowMsg (encodeRequest info headers) {} =
      (storeAll (written headers) (requestMsg info)).map fun msg => (msg.m_eMsgType, msg) := by
  have hw : ∀ h ∈ written headers, PlainName h.1 ∧ CleanValue h.2 := fun h hh =>
    hheaders h (mem_written.mp hh).1
  have hfirst : NoEnter (requestLine info) :=
    hline.noEnter.1.append_cons (by decide) (hline.noEnter.2.1.append_cons (by decide)
      hline.noEnter.2.2)
  rw [encodeRequest, flatMap_encodeHeader, ← joinLines_cons, decode_lines hfirst]
  · rw [decodeFirstLine_requestLine hline]
    exact headerLoop_joinLines hw _
  · rw [List.forall_mem_cons, List.forall_mem_map]
    refine ⟨?_, fun h hh => ?_⟩
    · simp [requestLine, hline.noNul.1, hline.noNul.2.1, hline.noNul.2.2, blank]
    · simp [headerLine, (hw h hh).1.1, (hw h hh).2.2.2, blank, colon]
  · rw [head?_requestLine hline]
    exact hline.method_head
  · rw [List.forall_mem_cons, List.forall_mem_map]
    refine ⟨by simp [requestLine], fun h _ => ?_⟩
    simp [headerLine]
  · rw [List.forall_mem_cons, getLast?_requestLine hline, List.forall_mem_map]
    refine ⟨fun c hc => isBlankOrEnter_of_not_isSpace (hline.version.2 c hc), fun h hh c hc => ?_⟩
    rw [getLast?_headerLine (mem_written.mp hh).2] at hc
    exact isBlankOrEnter_of_not_isSpace ((hw h hh).2.2.1.2 c hc)

/-! ## What the decoder stores -/

/-- What is stored are parts of the text: the method from its start, the version and the header
fields trimmed. -/
structure FromText (t : CStr) (msg : RTSPUnknownMsg) : Prop where
  method : msg.m_strMethod ⊆ t
  method_head : ∀ c ∈ msg.m_strMethod.head?, isBlankOrEnter c = false
  method_request : ¬ str "RTSP" <+: msg.m_strMethod
  url : msg.m_strURL ⊆ t
  version : msg.m_strVersion ⊆ t ∧ Trimmed isSpace msg.m_strVersion
  fields : ∀ name, msg.fieldValue name ⊆ t ∧ Trimmed isSpace (msg.fieldValue name)

theorem breakOn_subset {token s l r : CStr} (h : breakOn token s = some (l, r)) :
    l ⊆ s ∧ r ⊆ s := by
  rw [breakOn_eq_some h]
  constructor
  · rw [List.append_assoc]
    exact List.subset_append_left _ _
  · exact List.subset_append_right _ _

theorem decodeBody_fromText {t strBody : CStr} {msg : RTSPUnknownMsg} (h : FromText t msg) :
    FromText t (decodeBody strBody msg).2 := by
  unfold decodeBody
  dsimp only
  split
  · exact ⟨h.method, h.method_head, h.method_request, h.url, h.version, h.fields⟩
  · split
    · split <;> exact h
    · exact h

theorem headerLoop_fromText {t strTempContext : CStr} {msg msg' : RTSPUnknownMsg}
    {eMsgType : RTSPMsgType} (hsub : strTempContext ⊆ t) (h : FromText t msg)
    (hdec : headerLoop strTempContext msg = .ok (eMsgType, msg')) : FromText t msg' := by
  fun_induction headerLoop strTempContext msg with
  | case1 => cases hdec; exact h
  | case2 =>
    obtain rfl := congrArg Prod.snd (Except.ok.inj hdec)
    exact decodeBody_fromText h
  | case3 => cases hdec; exact h
  | case4 ctx msg strSegment strTail hne hcut strFieldName strFieldValue hcolon mid hset ih =>
    have hparts := breakOn_subset hcut
    refine ih (List.Subset.trans hparts.2 hsub) ?_ hdec
    have hrest := setFieldValue_rest hset
    have hvalue : strFieldValue ⊆ t :=
      List.Subset.trans (breakOn_subset hcolon).2 (List.Subset.trans hparts.1 hsub)
    rw [hrest]
    refine ⟨h.method, h.method_head, h.method_request, h.url, h.version, fun name => ?_⟩
    rw [← hrest]
    rcases fieldValue_setFieldValue hset name with ⟨he, -⟩ | he
    · rw [he]
      exact ⟨List.Subset.trans (trim_subset _ _) hvalue, trimmed_trim _ _⟩
    · rw [he]
      exact h.fields name
  | case5 => cases hdec

/-- A method stands at the start of its line, which is not that of a response. -/
theorem decodeFirstLine_fromText {t strFirstLine : CStr} {msg msg' : RTSPUnknownMsg} {more : Bool}
    (hsub : strFirstLine ⊆ t) (hhead : ∀ c ∈ strFirstLine.head?, isBlankOrEnter c = false)
    (h : FromText t msg) (hdec : decodeFirstLine strFirstLine msg = some (msg', more)) :
    FromText t msg' := by
  have htrim : ∀ {v : CStr}, v ⊆ t → trim isSpace v ⊆ t ∧ Trimmed isSpace (trim isSpace v) :=
    fun hv => ⟨List.Subset.trans (trim_subset _ _) hv, trimmed_trim _ _⟩
  unfold decodeFirstLine at hdec
  split at hdec
  · split at hdec
    · cases hdec
      exact ⟨h.method, h.method_head, h.method_request, h.url, h.version, h.fields⟩
    · rename_i hcut
      cases hdec
      exact ⟨h.method, h.method_head, h.method_request, h.url,
        htrim (List.Subset.trans (breakOn_subset hcut).1 hsub), h.fields⟩
  · rename_i hreq
    split at hdec
    · cases hdec
    · rename_i strMethod strRest hcut
      have hline := breakOn_eq_some hcut
      have hparts := breakOn_subset hcut
      have hm : strMethod ⊆ t := List.Subset.trans hparts.1 hsub
      have hmhead : ∀ c ∈ strMethod.head?, isBlankOrEnter c = false := by
        cases strMethod with
        | nil =>
          intro c hc
          cases hc
        | cons c m =>
          rw [hline] at hhead
          exact hhead
      have hmreq : ¬ str "RTSP" <+: strMethod := by
        rintro hp
        refine hreq (hp.trans ?_)
        rw [hline, List.append_assoc]
        exact List.prefix_append _ _
      obtain ⟨eMsgType, hset⟩ := setMethod_eq msg strMethod
      rw [hset] at hdec
      split at hdec
      · cases hdec
        exact ⟨hm, hmhead, hmreq, h.url, htrim (List.Subset.trans hparts.2 hsub), h.fields⟩
      · rename_i hcut'
        have hparts' := breakOn_subset hcut'
        cases hdec
        exact ⟨hm, hmhead, hmreq, List.Subset.trans hparts'.1 (List.Subset.trans hparts.2 hsub),
          htrim (List.Subset.trans hparts'.2 (List.Subset.trans hparts.2 hsub)), h.fields⟩

theorem fieldValue_replicate {msg : RTSPUnknownMsg}
    (h : msg.m_strHeader = Vector.replicate 18 []) (name : CStr) : msg.fieldValue name = [] := by
  by_cases hn : ∃ n, headIndex name = some n ∧ n < 18
  · obtain ⟨n, hn, hlt⟩ := hn
    rw [fieldValue_eq hn hlt]
    simp only [h]
    exact Vector.getElem_replicate _
  · exact fieldValue_eq_nil (fun n h => Nat.not_lt.mp fun hlt => hn ⟨n, h, hlt⟩) _

theorem emptyMsg_fromText (t : CStr) (eMsgType : RTSPMsgType) :
    FromText t (({} : RTSPUnknownMsg).setMsgType eMsgType) := by
  have hreq : ¬ str "RTSP" <+: [] := by decide
  refine ⟨List.nil_subset t, ?_, hreq, List.nil_subset t, ⟨List.nil_subset t, trimmed_nil _⟩, ?_⟩
  · intro c hc
    cases hc
  · intro name
    rw [fieldValue_replicate rfl]
    exact ⟨List.nil_subset t, trimmed_nil _⟩

/-- **What the decoder stores are parts of the text**, which ends at its first terminator. -/
theorem decode_fromText {s : CStr} {eMsgType : RTSPMsgType} {msg : RTSPUnknownMsg}
    (h : decodeUnknowMsg s {} = .ok (eMsgType, msg)) : FromText (cStr s ++ enter) msg := by
  have hctx : trim isBlankOrEnter (cStr s) ++ enter ⊆ cStr s ++ enter := fun c hc => by
    rcases List.mem_append.mp hc with hc | hc
    · exact List.mem_append_left _ (trim_subset _ _ hc)
    · exact List.mem_append_right _ hc
  have hempty := emptyMsg_fromText (cStr s ++ enter) .rmt_response
  unfold decodeUnknowMsg at h
  dsimp only at h
  split at h
  · cases h
    exact hempty
  · rename_i strFirstLine strTail hcut
    have hparts := breakOn_subset hcut
    have hhead : ∀ c ∈ strFirstLine.head?, isBlankOrEnter c = false := by
      cases strFirstLine with
      | nil =>
        intro c hc
        cases hc
      | cons c l =>
        have hline := breakOn_eq_some hcut
        cases htrim : trim isBlankOrEnter (cStr s) with
        | nil =>
          -- then nothing but the appended line end is there
          have hlen := congrArg List.length hline
          rw [htrim] at hlen
          simp [enter] at hlen
          omega
        | cons d r =>
          have hfirst := (trimmed_trim isBlankOrEnter (cStr s)).1
          rw [htrim] at hline hfirst
          obtain ⟨rfl, -⟩ := List.cons.inj hline
          exact hfirst
    split at h
    · cases h
      exact hempty
    · rename_i hfirst
      cases h
      exact decodeFirstLine_fromText (List.Subset.trans hparts.1 hctx) hhead hempty hfirst
    · rename_i hfirst
      exact headerLoop_fromText (List.Subset.trans hparts.2 hctx)
        (decodeFirstLine_fromText (List.Subset.trans hparts.1 hctx) hhead hempty hfirst) h

/-! ## Types -/

theorem decodeBody_type (strBody : CStr) (msg : RTSPUnknownMsg) :
    ((decodeBody strBody msg).1 = .rmt_unknown ∨ (decodeBody strBody msg).1 = msg.m_eMsgType) ∧
      (decodeBody strBody msg).2.m_strStatus = msg.m_strStatus := by
  unfold decodeBody
  dsimp only
  split
  · exact ⟨Or.inr rfl, rfl⟩
  · split
    · split
      · exact ⟨Or.inl rfl, rfl⟩
      · exact ⟨Or.inr rfl, rfl⟩
    · exact ⟨Or.inl rfl, rfl⟩

theorem headerLoop_type {strTempContext : CStr} {msg msg' : RTSPUnknownMsg}
    {eMsgType : RTSPMsgType} (h : headerLoop strTempContext msg = .ok (eMsgType, msg')) :
    (eMsgType = .rmt_unknown ∨ eMsgType = msg.m_eMsgType) ∧ msg'.m_strStatus = msg.m_strStatus := by
  fun_induction headerLoop strTempContext msg with
  | case1 => cases h; exact ⟨Or.inr rfl, rfl⟩
  | case2 ctx msg strBody hcut =>
    have hbody := decodeBody_type strBody msg
    rw [Except.ok.inj h] at hbody
    exact hbody
  | case3 => cases h; exact ⟨Or.inl rfl, rfl⟩
  | case4 ctx msg strSegment strTail hne hcut strFieldName strFieldValue hcolon mid hset ih =>
    obtain ⟨htype, hstatus⟩ := ih h
    rw [setFieldValue_rest hset] at htype hstatus
    exact ⟨htype, hstatus⟩
  | case5 => cases h

theorem decode_status {s : CStr} {eMsgType : RTSPMsgType} {msg : RTSPUnknownMsg}
    (h : decodeUnknowMsg s {} = .ok (eMsgType, msg)) :
    eMsgType = .rmt_unknown ∨ eMsgType = .rmt_response ∨ msg.m_strStatus = [] := by
  have hline : ∀ {line : CStr} {mid : RTSPUnknownMsg} {more : Bool},
      decodeFirstLine line (({} : RTSPUnknownMsg).setMsgType .rmt_response) = some (mid, more) →
        mid.m_eMsgType = .rmt_response ∨ mid.m_strStatus = [] := by
    intro line mid more hdec
    unfold decodeFirstLine at hdec
    split at hdec
    · split at hdec <;> cases hdec <;> exact Or.inl rfl
    · split at hdec
      · cases hdec
      · rename_i strMethod _ _
        obtain ⟨t, hset⟩ := setMethod_eq (({} : RTSPUnknownMsg).setMsgType .rmt_response) strMethod
        rw [hset] at hdec
        split at hdec <;> cases hdec <;> exact Or.inr rfl
  unfold decodeUnknowMsg at h
  dsimp only at h
  split at h
  · cases h
    exact Or.inl rfl
  · split at h
    · cases h
      exact Or.inl rfl
    · rename_i hfirst
      cases h
      exact Or.inr (hline hfirst)
    · rename_i hfirst
      obtain ⟨htype, hstatus⟩ := headerLoop_type h
      rcases htype with htype | htype
      · exact Or.inl htype
      · rw [htype, hstatus]
        exact Or.inr (hline hfirst)

end GB28181.RTSPCom
