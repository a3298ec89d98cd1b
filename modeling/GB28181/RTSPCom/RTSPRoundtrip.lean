import GB28181.RTSPCom.RTSPLines

/-!
# Requests read back (`RTSPCom/RTSPParser.h`, `RTSPCom/RTSPParser.cpp`)

An info of any of the eight requests, encoded by its `Encode` function and decoded by
`DecodeUnknowMsg`.

* `RequestInfo.carried` — the header fields an info carries, by their names in RTSP;
* `GivesBack` — the decoded message has its method, URL, version and header fields, and no others;
* `Fits` — no text starts or ends with white space or holds a terminator, the method is not taken
  for a response, and what the info carries is written to a place of its own;
* `request_roundTrip` — **an info comes back exactly when it fits**.
-/

set_option autoImplicit false

namespace GB28181.RTSPCom

open GB28181.Base

inductive RequestInfo where
  | option (info : OptionInfo)
  | describe (info : DescribeInfo)
  | setup (info : SetupInfo)
  | play (info : PlayInfo)
  | pause (info : PauseInfo)
  | getParameter (info : GetParameterInfo)
  | record (info : RecordInfo)
  | teardown (info : TeardownInfo)

namespace RequestInfo

def toInfoBase : RequestInfo → InfoBase
  | option info => info.toInfoBase
  | describe info => info.toInfoBase
  | setup info => info.toInfoBase
  | play info => info.toInfoBase
  | pause info => info.toInfoBase
  | getParameter info => info.toInfoBase
  | record info => info.toInfoBase
  | teardown info => info.toInfoBase

/-- The text of the matching `Encode` function. -/
def encode : RequestInfo → CStr
  | option info => encodeOption info []
  | describe info => encodeDescribe info
  | setup info => encodeSetup info
  | play info => encodePlay info
  | pause info => encodePause info
  | getParameter info => encodeGetParameter info
  | record info => encodeRecord info
  | teardown info => encodeTeardown info

/-- The header fields that only this kind of info has. -/
def own : RequestInfo → List (CStr × CStr)
  | option _ => []
  | describe info =>
    [(str "Token", info.token), (str "Accept", info.accept), (str "Require", info.require)]
  | setup info => [(str "Transport", info.transport), (str "Session", info.session)]
  | play info =>
    [(str "Session", info.session), (str "Range", info.range), (str "Scale", info.scale),
      (str "Speed", info.speed)]
  | pause info => [(str "Session", info.session), (str "Range", info.range)]
  | getParameter info => [(str "Session", info.session)]
  | record info => [(str "Range", info.range)]
  | teardown info => [(str "Session", info.session)]

/-- The header fields the info carries. -/
def carried (i : RequestInfo) : List (CStr × CStr) :=
  (str "CSeq", i.toInfoBase.sequence) :: (str "User-Agent", i.toInfoBase.user_agent) :: i.own

def lineTexts (i : RequestInfo) : List CStr :=
  [i.toInfoBase.method, i.toInfoBase.url, i.toInfoBase.version]

/-- The texts of the first line are not empty and hold neither blanks nor line ends; the header
fields hold no line end and neither start nor end with a blank. -/
structure WellFormed (i : RequestInfo) : Prop where
  line : ∀ t ∈ i.lineTexts, t ≠ [] ∧ blank ∉ t ∧ NoEnter t
  fields : ∀ h ∈ i.carried, NoEnter h.2 ∧ h.2.head? ≠ some blank ∧ h.2.getLast? ≠ some blank

/-- The message has what the info has, and no other header field. -/
structure GivenBack (i : RequestInfo) (msg : RTSPUnknownMsg) : Prop where
  method : msg.m_strMethod = i.toInfoBase.method
  url : msg.m_strURL = i.toInfoBase.url
  version : msg.m_strVersion = i.toInfoBase.version
  carried : ∀ h ∈ i.carried, msg.fieldValue h.1 = h.2
  others : ∀ name : CStr, (∀ h ∈ i.carried, h.1.map toLower ≠ name.map toLower) →
    msg.fieldValue name = []

/-- Decoding the encoded info stores nothing outside of `m_strHeader` and gives the info back. -/
def GivesBack (i : RequestInfo) : Prop :=
  ∃ eMsgType msg, decodeUnknowMsg i.encode {} = .ok (eMsgType, msg) ∧ i.GivenBack msg

/-- Every header field the info carries is written under its name, and the name has a position. -/
def Placed : RequestInfo → Prop
  | play info => info.scale = [] ∧ info.speed = []
  | getParameter info => info.user_agent = []
  | record info => info.user_agent = []
  | teardown info => info.user_agent = []
  | _ => True

/-- No text of the info is changed on the way. -/
structure Clean (i : RequestInfo) : Prop where
  method_request : ¬ str "RTSP" <+: i.toInfoBase.method
  method_head : ∀ c ∈ i.toInfoBase.method.head?, isBlankOrEnter c = false
  version : Trimmed isSpace i.toInfoBase.version
  fields : ∀ h ∈ i.carried, Trimmed isSpace h.2
  noNul : (∀ t ∈ i.lineTexts, 0 ∉ t) ∧ ∀ h ∈ i.carried, 0 ∉ h.2

structure Fits (i : RequestInfo) : Prop where
  clean : i.Clean
  placed : i.Placed

/-! ## What the encoders write -/

/-- The header fields the `Encode` function writes, empty ones left out. -/
def headers : RequestInfo → List (CStr × CStr)
  | option info => info.headers
  | describe info => info.headers
  | setup info => info.headers
  | play info => info.headers
  | pause info => info.headers
  | getParameter info => info.headers
  | record info => info.headers
  | teardown info => info.headers

theorem encode_eq (i : RequestInfo) : i.encode = encodeRequest i.toInfoBase i.headers := by
  cases i <;> rfl

end RequestInfo

/-! ### Positions -/

theorem headIndex_cseq : headIndex (str "CSeq") = some 1 := by decide

theorem headIndex_transport : headIndex (str "Transport") = some 10 := by decide

theorem headIndex_session : headIndex (str "Session") = some 11 := by decide

theorem headIndex_range : headIndex (str "Range") = some 12 := by decide

theorem headIndex_user_agent : headIndex (str "User-Agent") = some 14 := by decide

theorem headIndex_token : headIndex (str "Token") = some 15 := by decide

theorem headIndex_accept : headIndex (str "Accept") = some 16 := by decide

theorem headIndex_require : headIndex (str "Require") = some 17 := by decide

theorem headIndex_scale : headIndex (str "Scale") = some 18 := by decide

theorem headIndex_speed : headIndex (str "Speed") = none := by decide

namespace RequestInfo

theorem plainName_headers (i : RequestInfo) : ∀ h ∈ i.headers, PlainName h.1 := by
  have hcseq : PlainName (str "CSeq") := by decide
  have hagent : PlainName (str "User-Agent") := by decide
  have hsession : PlainName (str "Session") := by decide
  have hrange : PlainName (str "Range") := by decide
  have hscale : PlainName (str "Scale") := by decide
  have htransport : PlainName (str "Transport") := by decide
  have htoken : PlainName (str "Token") := by decide
  have haccept : PlainName (str "Accept") := by decide
  have hrequire : PlainName (str "Require") := by decide
  cases i <;>
    simp [headers, OptionInfo.headers, DescribeInfo.headers, SetupInfo.headers, PlayInfo.headers,
      PauseInfo.headers, GetParameterInfo.headers, RecordInfo.headers, TeardownInfo.headers, *]

theorem headers_carried (i : RequestInfo) : ∀ h ∈ i.headers, ∃ k ∈ i.carried, k.2 = h.2 := by
  cases i <;>
    simp [headers, carried, own, toInfoBase, OptionInfo.headers, DescribeInfo.headers,
      SetupInfo.headers, PlayInfo.headers, PauseInfo.headers, GetParameterInfo.headers,
      RecordInfo.headers, TeardownInfo.headers]

theorem carried_position (i : RequestInfo) :
    ∀ h ∈ i.carried, ∀ k ∈ i.carried, headIndex h.1 = headIndex k.1 → h = k := by
  cases i <;>
    simp [carried, own, toInfoBase, headIndex_cseq, headIndex_transport, headIndex_session,
      headIndex_range, headIndex_user_agent, headIndex_token, headIndex_accept, headIndex_require,
      headIndex_scale, headIndex_speed]

/-- Where every field has its place, the fields written are those carried, and each has a position
in `m_strHeader`. -/
theorem headers_of_placed {i : RequestInfo} (hp : i.Placed) :
    (∀ h ∈ i.headers, h.2 ≠ [] → h ∈ i.carried) ∧
      ∀ h ∈ i.carried, h.2 ≠ [] → h ∈ i.headers ∧ ∃ n, headIndex h.1 = some n ∧ n < 18 := by
  cases i <;>
    simp_all [Placed, headers, carried, own, toInfoBase, OptionInfo.headers,
      DescribeInfo.headers, SetupInfo.headers, PlayInfo.headers, PauseInfo.headers,
      GetParameterInfo.headers, RecordInfo.headers, TeardownInfo.headers, headIndex_cseq,
      headIndex_transport, headIndex_session, headIndex_range, headIndex_user_agent,
      headIndex_token, headIndex_accept, headIndex_require]

/-! ## Requests that come back -/

theorem cleanLine {i : RequestInfo} (hw : i.WellFormed) (hc : i.Clean) :
    CleanLine i.toInfoBase := by
  have hmethod := hw.line i.toInfoBase.method (by simp [lineTexts])
  have hurl := hw.line i.toInfoBase.url (by simp [lineTexts])
  have hversion := hw.line i.toInfoBase.version (by simp [lineTexts])
  exact
    { nonempty := ⟨hmethod.1, hversion.1⟩
      noBlank := ⟨hmethod.2.1, hurl.2.1⟩
      noEnter := ⟨hmethod.2.2, hurl.2.2, hversion.2.2⟩
      noNul := by simpa [lineTexts] using hc.noNul.1
      method_head := hc.method_head
      method_request := hc.method_request
      version := hc.version }

theorem decode_encode {i : RequestInfo} (hw : i.WellFormed) (hc : i.Clean) :
    decodeUnknowMsg i.encode {} =
      (storeAll (written i.headers) (requestMsg i.toInfoBase)).map
        fun msg => (msg.m_eMsgType, msg) := by
  rw [encode_eq]
  refine decode_encodeRequest (cleanLine hw hc) fun h hh => ⟨i.plainName_headers h hh, ?_⟩
  obtain ⟨k, hk, he⟩ := i.headers_carried h hh
  rw [← he]
  exact ⟨(hw.fields k hk).1, hc.fields k hk, hc.noNul.2 k hk⟩

theorem requestMsg_fieldValue (info : InfoBase) (name : CStr) :
    (requestMsg info).fieldValue name = [] := by
  obtain ⟨eMsgType, h⟩ := requestMsg_eq info
  rw [h]
  exact fieldValue_replicate rfl name

theorem toLower_eq_of_headIndex {name name' : CStr} {n : Nat} (h : headIndex name = some n)
    (h' : headIndex name' = some n) : name.map toLower = name'.map toLower := by
  obtain ⟨hlt, he, -⟩ := List.idxOf?_eq_some_iff.mp h
  obtain ⟨hlt', he', -⟩ := List.idxOf?_eq_some_iff.mp h'
  exact he.symm.trans he'

theorem givesBack_of_fits {i : RequestInfo} (hw : i.WellFormed) (hf : i.Fits) : i.GivesBack := by
  obtain ⟨hwritten, hcarried⟩ := headers_of_placed hf.placed
  have hmem : ∀ h ∈ written i.headers, h ∈ i.carried ∧ h.2 ≠ [] := fun h hh =>
    ⟨hwritten h (mem_written.mp hh).1 (mem_written.mp hh).2, (mem_written.mp hh).2⟩
  have hknown : ∀ h ∈ written i.headers, ∃ n, headIndex h.1 = some n ∧ n < 18 := fun h hh =>
    (hcarried h (hmem h hh).1 (hmem h hh).2).2
  obtain ⟨msg, hmsg⟩ := storeAll_ok hknown (requestMsg i.toInfoBase)
  obtain ⟨eMsgType, hreq⟩ := requestMsg_eq i.toInfoBase
  have hrest := storeAll_rest hmsg
  rw [hreq] at hrest
  refine ⟨msg.m_eMsgType, msg, by rw [decode_encode hw hf.clean, hmsg]; rfl, ?_⟩
  constructor
  · rw [hrest]
  · rw [hrest]
  · rw [hrest]
    exact hf.clean.version.trim_eq
  · intro h hh
    by_cases hv : h.2 = []
    · -- a field that is empty is not written, and none with its name is
      rw [hv, fieldValue_storeAll_other hmsg, requestMsg_fieldValue]
      intro x hx he
      rw [i.carried_position x (hmem x hx).1 h hh he] at hx
      exact (mem_written.mp hx).2 hv
    · refine fieldValue_storeAll hmsg hknown ?_ h (mem_written.mpr ⟨(hcarried h hh hv).1, hv⟩)
      intro x hx y hy he
      rw [i.carried_position x (hmem x hx).1 y (hmem y hy).1 he]
  · intro name hname
    rw [fieldValue_storeAll_other hmsg, requestMsg_fieldValue]
    intro x hx he
    obtain ⟨n, hn, -⟩ := hknown x hx
    exact hname x (hmem x hx).1 (toLower_eq_of_headIndex hn (he.symm.trans hn))

theorem clean_of_givesBack {i : RequestInfo} (h : i.GivesBack) : i.Clean := by
  obtain ⟨eMsgType, msg, hdec, hmsg⟩ := h
  have hfrom := decode_fromText hdec
  have hnul : 0 ∉ cStr i.encode ++ enter := by
    rw [List.mem_append, not_or]
    refine ⟨fun h => ?_, by decide⟩
    simpa using List.mem_takeWhile_imp h
  constructor
  · rw [← hmsg.method]
    exact hfrom.method_request
  · rw [← hmsg.method]
    exact hfrom.method_head
  · rw [← hmsg.version]
    exact hfrom.version.2
  · intro h hh
    rw [← hmsg.carried h hh]
    exact (hfrom.fields h.1).2
  · constructor
    · have hm : 0 ∉ msg.m_strMethod := fun h => hnul (hfrom.method h)
      have hu : 0 ∉ msg.m_strURL := fun h => hnul (hfrom.url h)
      have hv : 0 ∉ msg.m_strVersion := fun h => hnul (hfrom.version.1 h)
      rw [hmsg.method] at hm
      rw [hmsg.url] at hu
      rw [hmsg.version] at hv
      simpa [lineTexts] using ⟨hm, hu, hv⟩
    · intro h hh h0
      rw [← hmsg.carried h hh] at h0
      exact hnul ((hfrom.fields h.1).1 h0)

theorem eq_nil_of_not_written {i : RequestInfo} (hw : i.WellFormed) (h : i.GivesBack)
    {x : CStr × CStr} (hx : x ∈ i.carried)
    (hnot : ∀ k ∈ i.headers, headIndex k.1 ≠ headIndex x.1) : x.2 = [] := by
  have hc := clean_of_givesBack h
  obtain ⟨eMsgType, msg, hdec, hmsg⟩ := h
  rw [decode_encode hw hc] at hdec
  cases hstore : storeAll (written i.headers) (requestMsg i.toInfoBase) with
  | error e =>
    rw [hstore] at hdec
    cases hdec
  | ok msg' =>
    rw [hstore] at hdec
    cases hdec
    rw [← hmsg.carried x hx,
      fieldValue_storeAll_other hstore fun k hk => hnot k (mem_written.mp hk).1,
      requestMsg_fieldValue]

theorem placed_of_givesBack {i : RequestInfo} (hw : i.WellFormed) (h : i.GivesBack) :
    i.Placed := by
  have hc := clean_of_givesBack h
  have hagent : ∀ j : RequestInfo, (str "User-Agent", j.toInfoBase.user_agent) ∈ j.carried :=
    fun j => List.mem_cons_of_mem _ List.mem_cons_self
  cases i with
  | option info => trivial
  | describe info => trivial
  | setup info => trivial
  | pause info => trivial
  | getParameter info =>
    refine eq_nil_of_not_written hw h (hagent _) ?_
    simp [headers, GetParameterInfo.headers, headIndex_cseq, headIndex_session,
      headIndex_user_agent]
  | record info =>
    refine eq_nil_of_not_written hw h (hagent _) ?_
    simp [headers, RecordInfo.headers, headIndex_cseq, headIndex_range, headIndex_user_agent]
  | teardown info =>
    refine eq_nil_of_not_written hw h (hagent _) ?_
    simp [headers, TeardownInfo.headers, headIndex_cseq, headIndex_session, headIndex_user_agent]
  | play info =>
    constructor
    · -- a scale is stored behind the end of the array
      by_contra hscale
      obtain ⟨eMsgType, msg, hdec, -⟩ := h
      rw [decode_encode hw hc] at hdec
      have hmem : (str "Scale", info.scale) ∈ written (play info).headers :=
        mem_written.mpr ⟨by simp [headers, PlayInfo.headers], hscale⟩
      have hfault := storeAll_outOfRange hmem headIndex_scale (Nat.le_refl 18)
        (requestMsg (play info).toInfoBase)
      cases hstore : storeAll (written (play info).headers) (requestMsg (play info).toInfoBase) with
      | error e =>
        rw [hstore] at hdec
        cases hdec
      | ok msg' => exact hfault msg' hstore
    · -- a speed has no name in the map
      have hmem : (str "Speed", info.speed) ∈ (play info).carried := by simp [carried, own]
      obtain ⟨eMsgType, msg, -, hmsg⟩ := h
      have hspeed : msg.fieldValue (str "Speed") = info.speed := hmsg.carried _ hmem
      rw [← hspeed]
      exact fieldValue_eq_nil (fun n hn => by rw [headIndex_speed] at hn; cases hn) msg

end RequestInfo

/-- **RTSP round trip.**  A well formed info of any request comes back exactly when it fits. -/
theorem request_roundTrip (i : RequestInfo) (hw : i.WellFormed) : i.GivesBack ↔ i.Fits :=
  ⟨fun h => ⟨RequestInfo.clean_of_givesBack h, RequestInfo.placed_of_givesBack hw h⟩,
    RequestInfo.givesBack_of_fits hw⟩

/-- The first request of a session comes back. -/
theorem request_roundTrip_option :
    RequestInfo.GivesBack
      (.option { url := str "rtsp://10.0.0.1:554/", sequence := str "1" }) :=
  (request_roundTrip _ ⟨by decide, by decide⟩).mpr
    ⟨⟨by decide, fun c h => (by cases h; rfl), by decide, by decide, by decide⟩, trivial⟩

/-- The request that starts a stream has a scale, which has no place. -/
theorem play_not_given_back : ¬ ∀ i : RequestInfo, i.WellFormed → i.GivesBack := by
  intro h
  let i : RequestInfo := .play
    { url := str "rtsp://10.0.0.1:554/", sequence := str "4", session := str "77",
      scale := str "1.0", user_agent := str "HUS-GB-Agent" }
  have hw : i.WellFormed := ⟨by decide, by decide⟩
  have hplaced := RequestInfo.placed_of_givesBack hw (h i hw)
  exact absurd hplaced.1 (by decide)

end GB28181.RTSPCom
