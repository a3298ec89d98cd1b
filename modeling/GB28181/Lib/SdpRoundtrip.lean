import GB28181.Lib.SdpLines

/-!
# Encoding and decoding a session description

What the decoder of `SdpParser` makes of the text `encode_sdp` produces.

* `decode_encodeText` — where the line of adjustments has a line end, the stack comes back with
  incomplete infos dropped and format lists cut (`SdpStack.readBack`);
* `entries_swallowed` — where it has none, the key, attribute or media line behind it is lost;
* `decodeLoop_within` — every field read is made of characters of the text;
* `roundTrips_iff` — **the stacks that come back as they were**.
-/

set_option autoImplicit false

namespace GB28181.Lib

open GB28181.Base

/-! ## The lines of a stack -/

def EncryptionKey.lines (i : EncryptionKey) : List Text :=
  if i.method = [] then []
  else if i.key ≠ [] then ['k' :: '=' :: i.method ++ colon :: i.key]
  else ['k' :: '=' :: i.method]

/-- Type, separator and fields of the infos before the adjustments. -/
def SdpStack.head (s : SdpStack) : List (Char × Char × List Text) :=
  [('v', blank, s.version_info.fields), ('o', blank, s.owner_info.fields),
    ('s', blank, s.session_name.fields), ('i', blank, s.session_desp.fields),
    ('u', blank, s.url_info.fields), ('e', blank, s.email_info.fields),
    ('p', blank, s.phone_info.fields), ('c', blank, s.connect_info.fields),
    ('b', colon, s.bandwidth_info.fields), ('t', blank, s.active_time.fields),
    ('r', blank, s.repeat_time.fields)]

def SdpStack.headLines (s : SdpStack) : List Text := s.head.flatMap fun i => lineOf i.1 i.2.1 i.2.2

def SdpStack.tailLines (s : SdpStack) : List Text :=
  s.encryption_key_list.flatMap EncryptionKey.lines ++
    s.attribute_list.flatMap (fun i => lineOf 'a' colon i.fields) ++
    s.media_list.flatMap (fun i => lineOf 'm' blank i.fields)

theorem joinLines_append (l l' : List Text) :
    joinLines (l ++ l') = joinLines l ++ joinLines l' := List.flatMap_append

theorem joinLines_flatMap {α : Type} (f : α → List Text) (xs : List α) :
    joinLines (xs.flatMap f) = xs.flatMap fun x => joinLines (f x) := List.flatMap_assoc

theorem EncryptionKey.encode_eq (i : EncryptionKey) : i.encode = joinLines i.lines := by
  unfold EncryptionKey.encode EncryptionKey.lines
  split
  · rfl
  · split <;> simp [joinLines]

theorem encodeText_eq (s : SdpStack) :
    s.encodeText = joinLines s.headLines ++
      ('z' :: '=' :: encodeAdjustments s.adjustment_time_list) ++ joinLines s.tailLines := by
  have hkey : s.encryption_key_list.flatMap EncryptionKey.encode =
      joinLines (s.encryption_key_list.flatMap EncryptionKey.lines) := by
    rw [joinLines_flatMap]
    exact List.flatMap_congr fun i _ => i.encode_eq
  have hhead : joinLines s.headLines =
      s.version_info.encode ++ s.owner_info.encode ++ s.session_name.encode ++
        s.session_desp.encode ++ s.url_info.encode ++ s.email_info.encode ++ s.phone_info.encode ++
        s.connect_info.encode ++ s.bandwidth_info.encode ++ s.active_time.encode ++
        s.repeat_time.encode := by
    rw [SdpStack.headLines, joinLines_flatMap]
    simp only [SdpStack.head, List.flatMap_cons, List.flatMap_nil, List.append_nil,
      List.append_assoc]
    rfl
  rw [SdpStack.tailLines, joinLines_append, joinLines_append, ← hkey, joinLines_flatMap,
    joinLines_flatMap, hhead]
  simp only [SdpStack.encodeText, List.append_assoc]
  rfl

/-- The text `encode_sdp` leaves in a buffer that holds it. -/
def SdpStack.produced (s : SdpStack) : Text := cText s.encodeText

/-! ## Well formed stacks -/

/-- No field holds a line end or the separator of its own line, except the blanks of a format
list; adjustments are complete; a connection and an owner are complete or empty. -/
structure SdpStack.WellFormed (s : SdpStack) : Prop where
  noEnter : ∀ f ∈ s.fields, NoEnter f
  owner_info : ∀ f ∈ s.owner_info.fields, blank ∉ f
  owner_complete : [] ∉ s.owner_info.fields ∨ s.owner_info = {}
  connect_info : ∀ f ∈ s.connect_info.fields, blank ∉ f
  connect_complete : [] ∉ s.connect_info.fields ∨ s.connect_info = {}
  bandwidth_info : ∀ f ∈ s.bandwidth_info.fields, colon ∉ f
  active_time : ∀ f ∈ s.active_time.fields, blank ∉ f
  repeat_time : ∀ f ∈ s.repeat_time.fields, blank ∉ f
  adjustment_time_list : ∀ i ∈ s.adjustment_time_list, i.Complete
  encryption_key_list : ∀ i ∈ s.encryption_key_list, ∀ f ∈ i.fields, colon ∉ f
  attribute_list : ∀ i ∈ s.attribute_list, ∀ f ∈ i.fields, colon ∉ f
  media_list : ∀ i ∈ s.media_list, blank ∉ i.media ∧ blank ∉ i.port ∧ blank ∉ i.transport

/-- An info with an empty field comes back as an empty one. -/
def settle {α : Type} (fields : List Text) (empty i : α) : α := if [] ∈ fields then empty else i

theorem settle_eq_self_iff {α : Type} {fields : List Text} {empty i : α} :
    settle fields empty i = i ↔ [] ∉ fields ∨ i = empty := by
  unfold settle
  split
  · rename_i h; simpa [h] using eq_comm
  · rename_i h; simp [h]

def EncryptionKey.readBack (i : EncryptionKey) : Option EncryptionKey :=
  if i.method = [] then none else some i

def SessionAttribute.readBack (i : SessionAttribute) : Option SessionAttribute :=
  if [] ∈ i.fields then none else some i

def MediaInfo.readBack (i : MediaInfo) : Option MediaInfo :=
  if [] ∈ i.fields then none else some i.cut

/-- The stack read back, if the line of adjustments has a line end. -/
def SdpStack.readBack (s : SdpStack) : SdpStack :=
  { s with
    bandwidth_info := settle s.bandwidth_info.fields {} s.bandwidth_info
    active_time := settle s.active_time.fields {} s.active_time
    repeat_time := settle s.repeat_time.fields {} s.repeat_time
    encryption_key_list := s.encryption_key_list.filterMap EncryptionKey.readBack
    attribute_list := s.attribute_list.filterMap SessionAttribute.readBack
    media_list := s.media_list.filterMap MediaInfo.readBack }

/-! ## Reading the lines -/

theorem foldl_info {t separator : Char} {fields : List Text} {s s' : SdpStack} (ht : t ≠ '=')
    (hnone : [] ∈ fields → s = s')
    (hsome : [] ∉ fields → classifyType (some t) ([separator].intercalate fields) s = s') :
    (lineOf t separator fields).foldl classify s = s' := by
  rw [foldl_lineOf ht]
  split
  · rename_i h; exact hnone h
  · rename_i h; exact hsome h

theorem foldl_single {t : Char} (ht : t ≠ '=') {field : Text} {s : SdpStack}
    (read : Text → SdpStack) (hread : ∀ text, classifyType (some t) text s = read text)
    (hnil : s = read []) : (lineOf t blank [field]).foldl classify s = read field := by
  refine foldl_info ht (fun he => ?_) (fun _ => ?_)
  · rw [← List.mem_singleton.mp he]
    exact hnil
  · rw [List.intercalate_singleton]
    exact hread field

/-- The line of an info of several fields, if `put` stores what is read from it. -/
theorem foldl_settle {α : Type} {t separator : Char} {fields : List Text} {empty i : α}
    {s : SdpStack} (put : α → SdpStack) (ht : t ≠ '=') (hempty : s = put empty)
    (hread : [] ∉ fields → classifyType (some t) ([separator].intercalate fields) s = put i) :
    (lineOf t separator fields).foldl classify s = put (settle fields empty i) := by
  refine foldl_info ht (fun he => ?_) (fun hne => ?_)
  · rw [settle, if_pos he]
    exact hempty
  · rw [settle, if_neg hne]
    exact hread hne

section Head

variable {s : SdpStack}

theorem foldl_version (i : VersionInfo) (h : s.version_info = {}) :
    (lineOf 'v' blank i.fields).foldl classify s = { s with version_info := i } :=
  foldl_single (by decide) (fun x => { s with version_info := ⟨x⟩ }) (fun _ => rfl) (by rw [← h])

theorem foldl_sessionName (i : SessionName) (h : s.session_name = {}) :
    (lineOf 's' blank i.fields).foldl classify s = { s with session_name := i } :=
  foldl_single (by decide) (fun x => { s with session_name := ⟨x⟩ }) (fun _ => rfl) (by rw [← h])

theorem foldl_sessionDesp (i : SessionDesp) (h : s.session_desp = {}) :
    (lineOf 'i' blank i.fields).foldl classify s = { s with session_desp := i } :=
  foldl_single (by decide) (fun x => { s with session_desp := ⟨x⟩ }) (fun _ => rfl) (by rw [← h])

theorem foldl_url (i : UrlInfo) (h : s.url_info = {}) :
    (lineOf 'u' blank i.fields).foldl classify s = { s with url_info := i } :=
  foldl_single (by decide) (fun x => { s with url_info := ⟨x⟩ }) (fun _ => rfl) (by rw [← h])

theorem foldl_email (i : EmailInfo) (h : s.email_info = {}) :
    (lineOf 'e' blank i.fields).foldl classify s = { s with email_info := i } :=
  foldl_single (by decide) (fun x => { s with email_info := ⟨x⟩ }) (fun _ => rfl) (by rw [← h])

theorem foldl_phone (i : PhoneInfo) (h : s.phone_info = {}) :
    (lineOf 'p' blank i.fields).foldl classify s = { s with phone_info := i } :=
  foldl_single (by decide) (fun x => { s with phone_info := ⟨x⟩ }) (fun _ => rfl) (by rw [← h])

theorem foldl_owner {i : OwnerInfo} (hc : ∀ f ∈ i.fields, blank ∉ f)
    (hcomplete : [] ∉ i.fields ∨ i = {}) (h : s.owner_info = {}) :
    (lineOf 'o' blank i.fields).foldl classify s = { s with owner_info := i } := by
  have hread : (lineOf 'o' blank i.fields).foldl classify s =
      { s with owner_info := settle i.fields {} i } := by
    refine foldl_settle (fun x => { s with owner_info := x }) (by decide) (by rw [← h])
      fun hne => ?_
    show { s with owner_info := getOwner _ } = _
    rw [getOwner_fields hne hc]
  rw [hread, settle_eq_self_iff.mpr hcomplete]

theorem foldl_connect {i : ConnectInfo} (hc : ∀ f ∈ i.fields, blank ∉ f)
    (hcomplete : [] ∉ i.fields ∨ i = {}) (h : s.connect_info = {}) :
    (lineOf 'c' blank i.fields).foldl classify s = { s with connect_info := i } := by
  have hread : (lineOf 'c' blank i.fields).foldl classify s =
      { s with connect_info := settle i.fields {} i } := by
    refine foldl_settle (fun x => { s with connect_info := x }) (by decide) (by rw [← h])
      fun hne => ?_
    show (if s.connect_info.address = [] then { s with connect_info := getConnect _ } else s) = _
    rw [h, if_pos rfl, getConnect_fields hne hc]
  rw [hread, settle_eq_self_iff.mpr hcomplete]

theorem foldl_bandwidth {i : BandwidthInfo} (hc : ∀ f ∈ i.fields, colon ∉ f)
    (h : s.bandwidth_info = {}) :
    (lineOf 'b' colon i.fields).foldl classify s =
      { s with bandwidth_info := settle i.fields {} i } := by
  refine foldl_settle (fun x => { s with bandwidth_info := x }) (by decide) (by rw [← h])
    fun hne => ?_
  show { s with bandwidth_info := getBandWidth _ } = _
  rw [getBandWidth_fields hne hc]

theorem foldl_activeTime {i : ActiveTime} (hc : ∀ f ∈ i.fields, blank ∉ f)
    (h : s.active_time = {}) :
    (lineOf 't' blank i.fields).foldl classify s =
      { s with active_time := settle i.fields {} i } := by
  refine foldl_settle (fun x => { s with active_time := x }) (by decide) (by rw [← h])
    fun hne => ?_
  show { s with active_time := getActiveTime _ } = _
  rw [getActiveTime_fields hne hc]

theorem foldl_repeatTime {i : RepeatTime} (hc : ∀ f ∈ i.fields, blank ∉ f)
    (h : s.repeat_time = {}) :
    (lineOf 'r' blank i.fields).foldl classify s =
      { s with repeat_time := settle i.fields {} i } := by
  refine foldl_settle (fun x => { s with repeat_time := x }) (by decide) (by rw [← h])
    fun hne => ?_
  show { s with repeat_time := getRepeatTime _ } = _
  rw [getRepeatTime_fields hne hc]

end Head

def SdpStack.readHead (s : SdpStack) : SdpStack :=
  { s.readBack with
    adjustment_time_list := []
    encryption_key_list := []
    attribute_list := []
    media_list := [] }

theorem foldl_headLines {s : SdpStack} (h : s.WellFormed) :
    s.headLines.foldl classify {} = s.readHead := by
  simp only [SdpStack.headLines, SdpStack.head, List.flatMap_cons, List.flatMap_nil,
    List.append_nil, List.foldl_append]
  rw [foldl_version _ rfl, foldl_owner h.owner_info h.owner_complete rfl, foldl_sessionName _ rfl,
    foldl_sessionDesp _ rfl, foldl_url _ rfl, foldl_email _ rfl, foldl_phone _ rfl,
    foldl_connect h.connect_info h.connect_complete rfl, foldl_bandwidth h.bandwidth_info rfl,
    foldl_activeTime h.active_time rfl, foldl_repeatTime h.repeat_time rfl]
  rfl

theorem foldl_entries {α : Type} {lines : α → List Text} {read : α → Option α}
    (push : SdpStack → List α → SdpStack) (hnil : ∀ s, push s [] = s)
    (happ : ∀ s a b, push (push s a) b = push s (a ++ b)) {xs : List α}
    (h : ∀ x ∈ xs, ∀ s, (lines x).foldl classify s = push s (read x).toList) (s : SdpStack) :
    (xs.flatMap lines).foldl classify s = push s (xs.filterMap read) := by
  induction xs generalizing s with
  | nil => exact (hnil s).symm
  | cons x xs ih =>
    have htoList : (x :: xs).filterMap read = (read x).toList ++ xs.filterMap read := by
      rw [List.filterMap_cons]
      cases read x <;> rfl
    rw [List.flatMap_cons, List.foldl_append, h x List.mem_cons_self, htoList, ← happ]
    apply ih
    intro y hy
    exact h y (List.mem_cons_of_mem x hy)

theorem foldl_keys {keys : List EncryptionKey} (h : ∀ i ∈ keys, ∀ f ∈ i.fields, colon ∉ f)
    (s : SdpStack) :
    (keys.flatMap EncryptionKey.lines).foldl classify s =
      { s with encryption_key_list :=
        s.encryption_key_list ++ keys.filterMap EncryptionKey.readBack } := by
  refine foldl_entries (fun s l =>
      { s with encryption_key_list := s.encryption_key_list ++ l })
    (fun s => by rw [List.append_nil]) (fun s a b => by simp [List.append_assoc]) ?_ s
  intro i hi s
  have hmethod := h i hi i.method (by simp [EncryptionKey.fields])
  unfold EncryptionKey.lines EncryptionKey.readBack
  by_cases hm : i.method = []
  · simp [hm]
  · by_cases hk : i.key = []
    · simp only [hm, hk, if_false, ne_eq, not_true_eq_false, List.foldl_cons, List.foldl_nil,
        Option.toList_some]
      rw [classify_line (by decide), classifyType, getEncryptionKey_method hm hmethod hk]
    · have hne : [] ∉ i.fields := by simp [EncryptionKey.fields, eq_comm, hm, hk]
      have hline : i.method ++ colon :: i.key = [colon].intercalate i.fields := by
        simp [EncryptionKey.fields, List.intercalate_cons_cons, List.intercalate_singleton]
      simp only [hm, hk, if_false, ne_eq, not_false_eq_true, if_true, List.foldl_cons,
        List.foldl_nil, Option.toList_some, List.cons_append]
      rw [classify_line (by decide), hline, classifyType, getEncryptionKey_fields hne (h i hi)]

theorem foldl_attributes {attributes : List SessionAttribute}
    (h : ∀ i ∈ attributes, ∀ f ∈ i.fields, colon ∉ f) (s : SdpStack) :
    (attributes.flatMap fun i => lineOf 'a' colon i.fields).foldl classify s =
      { s with attribute_list :=
        s.attribute_list ++ attributes.filterMap SessionAttribute.readBack } := by
  refine foldl_entries (fun s l => { s with attribute_list := s.attribute_list ++ l })
    (fun s => by rw [List.append_nil]) (fun s a b => by simp [List.append_assoc]) ?_ s
  intro i hi s
  unfold SessionAttribute.readBack
  refine foldl_info (by decide) (fun he => ?_) (fun hne => ?_)
  · simp [he]
  · rw [if_neg hne]
    show { s with attribute_list := s.attribute_list ++ [getSessionAttribute _] } = _
    rw [getSessionAttribute_fields hne (h i hi)]
    rfl

theorem foldl_media {media : List MediaInfo}
    (h : ∀ i ∈ media, blank ∉ i.media ∧ blank ∉ i.port ∧ blank ∉ i.transport) (s : SdpStack) :
    (media.flatMap fun i => lineOf 'm' blank i.fields).foldl classify s =
      { s with media_list := s.media_list ++ media.filterMap MediaInfo.readBack } := by
  refine foldl_entries (fun s l => { s with media_list := s.media_list ++ l })
    (fun s => by rw [List.append_nil]) (fun s a b => by simp [List.append_assoc]) ?_ s
  intro i hi s
  unfold MediaInfo.readBack
  obtain ⟨hmedia, hport, htransport⟩ := h i hi
  refine foldl_info (by decide) (fun he => ?_) (fun hne => ?_)
  · simp [he]
  · rw [if_neg hne]
    show { s with media_list := s.media_list ++ [getMedia _] } = _
    rw [getMedia_fields hne hmedia hport htransport]
    rfl

theorem foldl_tailLines {s : SdpStack} (h : s.WellFormed) :
    s.tailLines.foldl classify
      { s.readHead with adjustment_time_list := s.adjustment_time_list } = s.readBack := by
  rw [SdpStack.tailLines, List.foldl_append, List.foldl_append, foldl_keys h.encryption_key_list,
    foldl_attributes h.attribute_list, foldl_media h.media_list]
  rfl

/-! ## The whole text -/

section Joinable

variable {P : Text → Prop} {s : SdpStack}

theorem headLines_joinable (hP : Joinable P) (h : ∀ f ∈ s.fields, P f) :
    ∀ l ∈ s.headLines, P l := by
  intro l hl
  obtain ⟨i, hi, hl⟩ := List.mem_flatMap.mp hl
  have hinfo : (Plain i.1 ∧ Plain i.2.1) ∧ ∀ f ∈ i.2.2, f ∈ s.fields := by
    simp only [SdpStack.head, List.mem_cons, List.not_mem_nil, or_false] at hi
    rcases hi with rfl | rfl | rfl | rfl | rfl | rfl | rfl | rfl | rfl | rfl | rfl <;>
      exact ⟨by simp [Plain, enter, blank, colon], fun f hf => by simp [SdpStack.fields, hf]⟩
  exact hP.lineOf hinfo.1.1 hinfo.1.2 (fun f hf => h f (hinfo.2 f hf)) l hl

theorem keyLines_joinable (hP : Joinable P) {i : EncryptionKey} (h : ∀ f ∈ i.fields, P f) :
    ∀ l ∈ i.lines, P l := by
  intro l hl
  have hm := h i.method (by simp [EncryptionKey.fields])
  have hk := h i.key (by simp [EncryptionKey.fields])
  unfold EncryptionKey.lines at hl
  split at hl
  · cases hl
  · split at hl
    · obtain rfl := List.mem_singleton.mp hl
      exact hP.cons (hP.cons (hP.join hm hk (by decide)) (by decide)) (by decide)
    · obtain rfl := List.mem_singleton.mp hl
      exact hP.cons (hP.cons hm (by decide)) (by decide)

theorem tailLines_joinable (hP : Joinable P) (h : ∀ f ∈ s.fields, P f) :
    ∀ l ∈ s.tailLines, P l := by
  intro l hl
  simp only [SdpStack.tailLines, List.mem_append, List.mem_flatMap] at hl
  rcases hl with (⟨i, hi, hl⟩ | ⟨i, hi, hl⟩) | ⟨i, hi, hl⟩
  · refine keyLines_joinable hP (fun f hf => h f ?_) l hl
    simp only [SdpStack.fields, List.mem_append, List.mem_flatMap]
    exact Or.inl (Or.inl (Or.inr ⟨i, hi, hf⟩))
  · refine hP.lineOf (by decide) (by decide) (fun f hf => h f ?_) l hl
    simp only [SdpStack.fields, List.mem_append, List.mem_flatMap]
    exact Or.inl (Or.inr ⟨i, hi, hf⟩)
  · refine hP.lineOf (by decide) (by decide) (fun f hf => h f ?_) l hl
    simp only [SdpStack.fields, List.mem_append, List.mem_flatMap]
    exact Or.inr ⟨i, hi, hf⟩

theorem adjustmentLine_joinable (hP : Joinable P) : ∀ {times : List AdjustmentTime},
    (∀ t ∈ times, P t.time ∧ P t.offset) → P (adjustmentLine times)
  | [], _ => hP.nil
  | t :: times, h => by
    have ht : P t.encode := by
      unfold AdjustmentTime.encode
      split
      · exact hP.nil
      · exact hP.join (h t (by simp)).1 (h t (by simp)).2 (by decide)
    have hrest : P (adjustmentLine times) :=
      adjustmentLine_joinable hP fun x hx => h x (List.mem_cons_of_mem t hx)
    cases times with
    | nil => exact ht
    | cons t' times => exact hP.join ht hrest (by decide)

theorem adjustments_joinable (hP : Joinable P) (h : ∀ f ∈ s.fields, P f) :
    P ('z' :: '=' :: adjustmentLine s.adjustment_time_list) := by
  have hline : P (adjustmentLine s.adjustment_time_list) :=
    adjustmentLine_joinable hP fun t ht => by
      have hmem : ∀ f ∈ t.fields, f ∈ s.fields := fun f hf => by
        simp only [SdpStack.fields, List.mem_append, List.mem_flatMap]
        exact Or.inl (Or.inl (Or.inl (Or.inr ⟨t, ht, hf⟩)))
      exact ⟨h _ (hmem _ (by simp [AdjustmentTime.fields])),
        h _ (hmem _ (by simp [AdjustmentTime.fields]))⟩
  exact hP.cons (hP.cons hline (by decide)) (by decide)

end Joinable

theorem classify_adjustments {s : SdpStack} (h : s.WellFormed) (s' : SdpStack) :
    classify s' ('z' :: '=' :: adjustmentLine s.adjustment_time_list) =
      { s' with adjustment_time_list := s.adjustment_time_list } := by
  rw [classify_line (by decide)]
  show { s' with adjustment_time_list := getAdjustmentTime _ } = _
  rw [getAdjustmentTime_line h.adjustment_time_list]

/-- **The stack that comes back**, if the adjustments have a line of their own. -/
theorem decode_encodeText {s : SdpStack} (h : s.WellFormed)
    (hline : s.adjustment_time_list ≠ [] ∨ s.tailLines = []) :
    decodeLoop s.encodeText {} = s.readBack := by
  have hz := adjustments_joinable noEnter_joinable h.noEnter
  rw [encodeText_eq, List.append_assoc,
    decodeLoop_joinLines (headLines_joinable noEnter_joinable h.noEnter),
    foldl_headLines h]
  by_cases hadj : s.adjustment_time_list = []
  · have htail : s.tailLines = [] := hline.resolve_left (not_not_intro hadj)
    have hread := foldl_tailLines h
    have hclass := classify_adjustments h s.readHead
    rw [hadj] at hz hclass
    rw [htail, hadj] at hread
    rw [htail, hadj]
    show decodeLoop ('z' :: '=' :: adjustmentLine []) s.readHead = s.readBack
    rw [decodeLoop_last hz]
    exact hclass.trans hread
  · have htext : 'z' :: '=' :: encodeAdjustments s.adjustment_time_list ++ joinLines s.tailLines =
        ('z' :: '=' :: adjustmentLine s.adjustment_time_list) ++ enter ++
          (joinLines s.tailLines ++ []) := by
      rw [encodeAdjustments_eq hadj]
      simp
    rw [htext, decodeLoop_line hz, classify_adjustments h,
      decodeLoop_joinLines (tailLines_joinable noEnter_joinable h.noEnter), foldl_tailLines h,
      decodeLoop_last noEnter_nil, classify_nil]

/-! ## The swallowed line -/

/-- Number of keys, attributes and media infos. -/
def SdpStack.entries (s : SdpStack) : Nat :=
  s.encryption_key_list.length + s.attribute_list.length + s.media_list.length

theorem lineOf_length_le (t separator : Char) (fields : List Text) :
    (lineOf t separator fields).length ≤ 1 := by
  unfold lineOf
  split <;> simp

theorem keyLines_length_le (i : EncryptionKey) : i.lines.length ≤ 1 := by
  unfold EncryptionKey.lines
  split
  · simp
  · split <;> simp

theorem flatMap_length_le {α β : Type} {f : α → List β} (h : ∀ x, (f x).length ≤ 1)
    (xs : List α) : (xs.flatMap f).length ≤ xs.length := by
  induction xs with
  | nil => exact Nat.le_refl 0
  | cons x xs ih =>
    have := h x
    simp only [List.flatMap_cons, List.length_append, List.length_cons]
    omega

theorem tailLines_length_le (s : SdpStack) : s.tailLines.length ≤ s.entries := by
  have := flatMap_length_le keyLines_length_le s.encryption_key_list
  have := flatMap_length_le (fun i : SessionAttribute => lineOf_length_le 'a' colon i.fields)
    s.attribute_list
  have := flatMap_length_le (fun i : MediaInfo => lineOf_length_le 'm' blank i.fields) s.media_list
  simp only [SdpStack.tailLines, SdpStack.entries, List.length_append]
  omega

theorem tailLines_entries {s : SdpStack} {l : Text} (hl : l ∈ s.tailLines) (s' : SdpStack) :
    (classify s' l).entries = s'.entries + 1 := by
  have hshape : ∃ t text, l = t :: '=' :: text ∧ (t = 'k' ∨ t = 'a' ∨ t = 'm') := by
    simp only [SdpStack.tailLines, List.mem_append, List.mem_flatMap] at hl
    rcases hl with (⟨i, -, hl⟩ | ⟨i, -, hl⟩) | ⟨i, -, hl⟩
    · unfold EncryptionKey.lines at hl
      split at hl
      · cases hl
      · split at hl
        · exact ⟨_, _, List.mem_singleton.mp hl, Or.inl rfl⟩
        · exact ⟨_, _, List.mem_singleton.mp hl, Or.inl rfl⟩
    · unfold lineOf at hl
      split at hl
      · cases hl
      · exact ⟨_, _, List.mem_singleton.mp hl, Or.inr (Or.inl rfl)⟩
    · unfold lineOf at hl
      split at hl
      · cases hl
      · exact ⟨_, _, List.mem_singleton.mp hl, Or.inr (Or.inr rfl)⟩
  obtain ⟨t, text, rfl, ht⟩ := hshape
  have hne : t ≠ '=' := by
    rintro rfl
    simp at ht
  rw [classify_line hne]
  rcases ht with rfl | rfl | rfl <;>
    simp only [classifyType, SdpStack.entries, List.length_append, List.length_singleton] <;>
    omega

theorem foldl_entries_eq {s : SdpStack} {lines : List Text} (h : ∀ l ∈ lines, l ∈ s.tailLines)
    (s' : SdpStack) : (lines.foldl classify s').entries = s'.entries + lines.length := by
  induction lines generalizing s' with
  | nil => rfl
  | cons l lines ih =>
    have hl := tailLines_entries (h l List.mem_cons_self) s'
    rw [List.foldl_cons, ih fun x hx => h x (List.mem_cons_of_mem l hx), List.length_cons]
    omega

/-- **An empty list of adjustments swallows the line behind it.** -/
theorem entries_swallowed {s : SdpStack} (h : s.WellFormed) (hadj : s.adjustment_time_list = [])
    (htail : s.tailLines ≠ []) : (decodeLoop s.encodeText {}).entries < s.entries := by
  obtain ⟨l, lines, htl⟩ := List.exists_cons_of_ne_nil htail
  have hno := tailLines_joinable noEnter_joinable h.noEnter
  rw [htl] at hno
  have hl : NoEnter ('z' :: '=' :: l) :=
    noEnter_joinable.cons (noEnter_joinable.cons (hno l (by simp)) (by decide)) (by decide)
  have htext : 'z' :: '=' :: encodeAdjustments s.adjustment_time_list ++ joinLines s.tailLines =
      ('z' :: '=' :: l) ++ enter ++ (joinLines lines ++ []) := by
    rw [hadj, htl]
    simp [encodeAdjustments, joinLines]
  rw [encodeText_eq, List.append_assoc,
    decodeLoop_joinLines (headLines_joinable noEnter_joinable h.noEnter),
    foldl_headLines h, htext, decodeLoop_line hl,
    decodeLoop_joinLines (fun x hx => hno x (List.mem_cons_of_mem l hx)),
    decodeLoop_last noEnter_nil, classify_nil,
    foldl_entries_eq (fun x hx => by rw [htl]; exact List.mem_cons_of_mem l hx),
    classify_line (by decide)]
  have hcount := tailLines_length_le s
  rw [htl, List.length_cons] at hcount
  have hhead : (classifyType (some 'z') l s.readHead).entries = 0 := rfl
  omega

/-! ## Terminators -/

theorem noNul_append {a b : Text} (ha : NoNul a) (hb : NoNul b) : NoNul (a ++ b) := by
  simp_all [NoNul]

theorem noNul_enter : NoNul enter := by unfold NoNul; decide

theorem noNul_joinLines {lines : List Text} (h : ∀ l ∈ lines, NoNul l) :
    NoNul (joinLines lines) := by
  intro hm
  obtain ⟨l, hl, hm⟩ := List.mem_flatMap.mp hm
  exact noNul_append (h l hl) noNul_enter hm

theorem produced_eq {s : SdpStack} (h : ∀ f ∈ s.fields, NoNul f) : s.produced = s.encodeText := by
  have hz : NoNul ('z' :: '=' :: encodeAdjustments s.adjustment_time_list) := by
    by_cases hadj : s.adjustment_time_list = []
    · rw [hadj]
      unfold NoNul
      decide
    · rw [encodeAdjustments_eq hadj]
      exact noNul_append (adjustments_joinable noNul_joinable h) noNul_enter
  have htext : NoNul s.encodeText := by
    rw [encodeText_eq]
    exact noNul_append
      (noNul_append (noNul_joinLines (headLines_joinable noNul_joinable h)) hz)
      (noNul_joinLines (tailLines_joinable noNul_joinable h))
  exact takeWhile_ne_eq_self_iff.mpr htext

theorem produced_noNul (s : SdpStack) : NoNul s.produced := by
  intro hm
  have := List.mem_takeWhile_imp hm
  simp at this

/-- Every field of the stack is made of characters of the text. -/
def Within (t : Text) (s : SdpStack) : Prop := ∀ f ∈ s.fields, f ⊆ t

/-- Every field of the info is made of characters of the text. -/
def FieldsIn (t : Text) (fields : List Text) : Prop := ∀ f ∈ fields, f ⊆ t

theorem fieldsIn_append {t : Text} {a b : List Text} :
    FieldsIn t (a ++ b) ↔ FieldsIn t a ∧ FieldsIn t b := List.forall_mem_append

section Within

variable {t line : Text}

/-- Where the `switch` stores tokens in fields, all the fields are parts of the line. -/
theorem tokenLoop_fieldsIn {σ : Type} {set : Nat → Text → σ → σ} {fields : σ → List Text}
    (hset : ∀ i v x, fields (set i v x) ⊆ v :: fields x) {empty : σ}
    (hempty : ∀ f ∈ fields empty, f = []) (strToken : Text) (h : line ⊆ t) :
    FieldsIn t (fields (tokenLoop strToken set 0 line empty)) := by
  refine tokenLoop_invariant (P := fun x => FieldsIn t (fields x)) ?_ 0 line empty h ?_
  · intro i v x hv hx f hf
    rcases List.mem_cons.mp (hset i v x hf) with rfl | hf
    · exact hv
    · exact hx f hf
  · intro f hf
    rw [hempty f hf]
    exact List.nil_subset t

theorem getOwner_in (h : line ⊆ t) : FieldsIn t (getOwner line).fields := by
  refine tokenLoop_fieldsIn (fun i v x => ?_) (by decide) [blank] h
  unfold setOwner
  split <;> simp [OwnerInfo.fields, ConnectInfo.fields]

theorem getConnect_in (h : line ⊆ t) : FieldsIn t (getConnect line).fields := by
  refine tokenLoop_fieldsIn (fun i v x => ?_) (by decide) [blank] h
  unfold setConnect
  split <;> simp [ConnectInfo.fields]

theorem getBandWidth_in (h : line ⊆ t) : FieldsIn t (getBandWidth line).fields := by
  refine tokenLoop_fieldsIn (fun i v x => ?_) (by decide) [colon] h
  unfold setBandWidth
  split <;> simp [BandwidthInfo.fields]

theorem getActiveTime_in (h : line ⊆ t) : FieldsIn t (getActiveTime line).fields := by
  refine tokenLoop_fieldsIn (fun i v x => ?_) (by decide) [blank] h
  unfold setActiveTime
  split <;> simp [ActiveTime.fields]

theorem getRepeatTime_in (h : line ⊆ t) : FieldsIn t (getRepeatTime line).fields := by
  refine tokenLoop_fieldsIn (fun i v x => ?_) (by decide) [blank] h
  unfold setRepeatTime
  split <;> simp [RepeatTime.fields]

theorem getEncryptionKey_in (h : line ⊆ t) : FieldsIn t (getEncryptionKey line).fields := by
  refine tokenLoop_fieldsIn (fun i v x => ?_) (by decide) [colon] h
  unfold setEncryptionKey
  split <;> simp [EncryptionKey.fields]

theorem getSessionAttribute_in (h : line ⊆ t) : FieldsIn t (getSessionAttribute line).fields := by
  refine tokenLoop_fieldsIn (fun i v x => ?_) (by decide) [colon] h
  unfold setSessionAttribute
  split <;> simp [SessionAttribute.fields]

theorem getMedia_in (h : line ⊆ t) : FieldsIn t (getMedia line).fields := by
  refine tokenLoop_fieldsIn (fun i v x => ?_) (by decide) [blank] h
  unfold setMedia
  split <;> simp [MediaInfo.fields]

theorem getAdjustmentTime_in (h : line ⊆ t) :
    FieldsIn t ((getAdjustmentTime line).flatMap AdjustmentTime.fields) := by
  have hset : ∀ i v (x : AdjustmentTime × List AdjustmentTime), v ⊆ t →
      (FieldsIn t x.1.fields ∧ FieldsIn t (x.2.flatMap AdjustmentTime.fields)) →
      FieldsIn t (setAdjustmentTime i v x).1.fields ∧
        FieldsIn t ((setAdjustmentTime i v x).2.flatMap AdjustmentTime.fields) := by
    rintro i v ⟨adjustment, list⟩ hv ⟨hx, hlist⟩
    simp only [FieldsIn, AdjustmentTime.fields, List.forall_mem_cons] at hx
    unfold setAdjustmentTime
    split
    · exact ⟨by simp [FieldsIn, AdjustmentTime.fields, hv, hx.2.1], hlist⟩
    · have hnew : FieldsIn t ({ adjustment with offset := v } : AdjustmentTime).fields := by
        simp [FieldsIn, AdjustmentTime.fields, hv, hx.1]
      refine ⟨hnew, ?_⟩
      rw [List.flatMap_append, fieldsIn_append]
      exact ⟨hlist, by simpa using hnew⟩
  exact (tokenLoop_invariant hset 0 line ({}, []) h
    (by simp [FieldsIn, AdjustmentTime.fields])).2

theorem within_iff (s : SdpStack) :
    Within t s ↔ FieldsIn t s.version_info.fields ∧ FieldsIn t s.owner_info.fields ∧
      FieldsIn t s.session_name.fields ∧ FieldsIn t s.session_desp.fields ∧
      FieldsIn t s.url_info.fields ∧ FieldsIn t s.email_info.fields ∧
      FieldsIn t s.phone_info.fields ∧ FieldsIn t s.connect_info.fields ∧
      FieldsIn t s.bandwidth_info.fields ∧ FieldsIn t s.active_time.fields ∧
      FieldsIn t s.repeat_time.fields ∧
      FieldsIn t (s.adjustment_time_list.flatMap AdjustmentTime.fields) ∧
      FieldsIn t (s.encryption_key_list.flatMap EncryptionKey.fields) ∧
      FieldsIn t (s.attribute_list.flatMap SessionAttribute.fields) ∧
      FieldsIn t (s.media_list.flatMap MediaInfo.fields) := by
  show FieldsIn t s.fields ↔ _
  simp only [SdpStack.fields, fieldsIn_append, and_assoc]

theorem within_empty : Within t {} := by
  have hempty : ∀ f : Text, f = [] → f ⊆ t := fun f hf => hf ▸ List.nil_subset t
  rw [within_iff]
  simp [FieldsIn, VersionInfo.fields, OwnerInfo.fields, SessionName.fields, SessionDesp.fields,
    UrlInfo.fields, EmailInfo.fields, PhoneInfo.fields, ConnectInfo.fields, BandwidthInfo.fields,
    ActiveTime.fields, RepeatTime.fields]

theorem classifyType_within {s : SdpStack} (hline : line ⊆ t) (h : Within t s) (c : Option Char) :
    Within t (classifyType c line s) := by
  have hfield : FieldsIn t [line] := fun f hf => by rwa [List.mem_singleton.mp hf]
  rw [within_iff] at h ⊢
  obtain ⟨h1, h2, h3, h4, h5, h6, h7, h8, h9, h10, h11, h12, h13, h14, h15⟩ := h
  unfold classifyType
  split
  · exact ⟨hfield, h2, h3, h4, h5, h6, h7, h8, h9, h10, h11, h12, h13, h14, h15⟩
  · exact ⟨h1, getOwner_in hline, h3, h4, h5, h6, h7, h8, h9, h10, h11, h12, h13, h14, h15⟩
  · exact ⟨h1, h2, hfield, h4, h5, h6, h7, h8, h9, h10, h11, h12, h13, h14, h15⟩
  · exact ⟨h1, h2, h3, hfield, h5, h6, h7, h8, h9, h10, h11, h12, h13, h14, h15⟩
  · exact ⟨h1, h2, h3, h4, hfield, h6, h7, h8, h9, h10, h11, h12, h13, h14, h15⟩
  · exact ⟨h1, h2, h3, h4, h5, hfield, h7, h8, h9, h10, h11, h12, h13, h14, h15⟩
  · exact ⟨h1, h2, h3, h4, h5, h6, hfield, h8, h9, h10, h11, h12, h13, h14, h15⟩
  · split
    · exact ⟨h1, h2, h3, h4, h5, h6, h7, getConnect_in hline, h9, h10, h11, h12, h13, h14, h15⟩
    · exact ⟨h1, h2, h3, h4, h5, h6, h7, h8, h9, h10, h11, h12, h13, h14, h15⟩
  · exact ⟨h1, h2, h3, h4, h5, h6, h7, h8, getBandWidth_in hline, h10, h11, h12, h13, h14, h15⟩
  · exact ⟨h1, h2, h3, h4, h5, h6, h7, h8, h9, getActiveTime_in hline, h11, h12, h13, h14, h15⟩
  · exact ⟨h1, h2, h3, h4, h5, h6, h7, h8, h9, h10, getRepeatTime_in hline, h12, h13, h14, h15⟩
  · exact ⟨h1, h2, h3, h4, h5, h6, h7, h8, h9, h10, h11, getAdjustmentTime_in hline, h13, h14,
      h15⟩
  · refine ⟨h1, h2, h3, h4, h5, h6, h7, h8, h9, h10, h11, h12, ?_, h14, h15⟩
    rw [List.flatMap_append, fieldsIn_append]
    exact ⟨h13, by simpa using getEncryptionKey_in hline⟩
  · refine ⟨h1, h2, h3, h4, h5, h6, h7, h8, h9, h10, h11, h12, h13, ?_, h15⟩
    rw [List.flatMap_append, fieldsIn_append]
    exact ⟨h14, by simpa using getSessionAttribute_in hline⟩
  · refine ⟨h1, h2, h3, h4, h5, h6, h7, h8, h9, h10, h11, h12, h13, h14, ?_⟩
    rw [List.flatMap_append, fieldsIn_append]
    exact ⟨h15, by simpa using getMedia_in hline⟩
  · exact ⟨h1, h2, h3, h4, h5, h6, h7, h8, h9, h10, h11, h12, h13, h14, h15⟩

theorem classify_within {s : SdpStack} (hline : line ⊆ t) (h : Within t s) :
    Within t (classify s line) := by
  unfold classify
  split
  · exact h
  · rename_i l strTempLine hb
    have htail : strTempLine ⊆ line := by
      rw [breakOn_eq_some hb]
      exact List.subset_append_right _ _
    exact classifyType_within (List.Subset.trans htail hline) h _

/-- **Every field read is made of characters of the text.** -/
theorem decodeLoop_within {text : Text} {s : SdpStack} (htext : text ⊆ t) (h : Within t s) :
    Within t (decodeLoop text s) := by
  fun_induction decodeLoop text s with
  | case1 text s strLine strTail hb ih =>
    have hparts := breakOn_eq_some hb
    refine ih ?_ (classify_within ?_ h)
    · exact fun c hc => htext (by rw [hparts]; simp [hc])
    · exact fun c hc => htext (by rw [hparts]; simp [hc])
  | case2 text s hb => exact classify_within htext h

end Within

/-! ## The round trip -/

/-- Decoding the text `encode_sdp` produced gives the stack back. -/
def RoundTrips (s : SdpStack) : Prop := (SdpParser.ofBuffer s.produced).decodeSdp = s

/-- What a well formed stack has to fulfil to come back: no terminator in a field, the infos
`encode_sdp` knows only whole are whole, no blank in a format list, and some adjustment if
anything stands behind the adjustments. -/
structure SdpStack.Encodable (s : SdpStack) : Prop where
  noNul : ∀ f ∈ s.fields, NoNul f
  bandwidth_info : [] ∉ s.bandwidth_info.fields ∨ s.bandwidth_info = {}
  active_time : [] ∉ s.active_time.fields ∨ s.active_time = {}
  repeat_time : [] ∉ s.repeat_time.fields ∨ s.repeat_time = {}
  adjustment_time_list : s.adjustment_time_list ≠ [] ∨
    (s.encryption_key_list = [] ∧ s.attribute_list = [] ∧ s.media_list = [])
  encryption_key_list : ∀ i ∈ s.encryption_key_list, i.method ≠ []
  attribute_list : ∀ i ∈ s.attribute_list, [] ∉ i.fields
  media_list : ∀ i ∈ s.media_list, [] ∉ i.fields ∧ blank ∉ i.fmtlist

theorem filterMap_eq_self_iff {α : Type} {f : α → Option α} {xs : List α} :
    xs.filterMap f = xs ↔ ∀ x ∈ xs, f x = some x := by
  induction xs with
  | nil => simp
  | cons x xs ih =>
    rw [List.forall_mem_cons, ← ih, List.filterMap_cons]
    cases hx : f x with
    | none =>
      have hlen := List.length_filterMap_le f xs
      constructor
      · intro h
        have hcons : xs.filterMap f = x :: xs := h
        have := congrArg List.length hcons
        rw [List.length_cons] at this
        omega
      · rintro ⟨h, -⟩; cases h
    | some y => simp

theorem EncryptionKey.readBack_eq_iff {i : EncryptionKey} :
    i.readBack = some i ↔ i.method ≠ [] := by
  unfold EncryptionKey.readBack
  split <;> simp_all

theorem SessionAttribute.readBack_eq_iff {i : SessionAttribute} :
    i.readBack = some i ↔ [] ∉ i.fields := by
  unfold SessionAttribute.readBack
  split <;> simp_all

theorem MediaInfo.cut_eq_iff {i : MediaInfo} : i.cut = i ↔ blank ∉ i.fmtlist := by
  constructor
  · intro h hm
    have hcut : i.fmtlist.takeWhile (· ≠ blank) = i.fmtlist := congrArg MediaInfo.fmtlist h
    exact takeWhile_ne_eq_self_iff.mp hcut hm
  · intro h
    rw [MediaInfo.cut, takeWhile_ne_eq_self_iff.mpr h]

theorem MediaInfo.readBack_eq_iff {i : MediaInfo} :
    i.readBack = some i ↔ [] ∉ i.fields ∧ blank ∉ i.fmtlist := by
  unfold MediaInfo.readBack
  split
  · simp_all
  · rename_i h
    rw [Option.some.injEq, MediaInfo.cut_eq_iff]
    exact ⟨fun hc => ⟨h, hc⟩, fun hc => hc.2⟩

theorem readBack_eq_iff (s : SdpStack) :
    s.readBack = s ↔
      ([] ∉ s.bandwidth_info.fields ∨ s.bandwidth_info = {}) ∧
      ([] ∉ s.active_time.fields ∨ s.active_time = {}) ∧
      ([] ∉ s.repeat_time.fields ∨ s.repeat_time = {}) ∧
      (∀ i ∈ s.encryption_key_list, i.method ≠ []) ∧
      (∀ i ∈ s.attribute_list, [] ∉ i.fields) ∧
      (∀ i ∈ s.media_list, [] ∉ i.fields ∧ blank ∉ i.fmtlist) := by
  have hparts : s.readBack = s ↔
      settle s.bandwidth_info.fields {} s.bandwidth_info = s.bandwidth_info ∧
      settle s.active_time.fields {} s.active_time = s.active_time ∧
      settle s.repeat_time.fields {} s.repeat_time = s.repeat_time ∧
      s.encryption_key_list.filterMap EncryptionKey.readBack = s.encryption_key_list ∧
      s.attribute_list.filterMap SessionAttribute.readBack = s.attribute_list ∧
      s.media_list.filterMap MediaInfo.readBack = s.media_list := by
    obtain ⟨_, _, _, _, _, _, _, _, _, _, _, _, _, _, _⟩ := s
    simp [SdpStack.readBack]
  rw [hparts, settle_eq_self_iff, settle_eq_self_iff, settle_eq_self_iff, filterMap_eq_self_iff,
    filterMap_eq_self_iff, filterMap_eq_self_iff]
  simp only [EncryptionKey.readBack_eq_iff, SessionAttribute.readBack_eq_iff,
    MediaInfo.readBack_eq_iff]

theorem eq_nil_of_flatMap_eq_nil {α β : Type} {f : α → List β} {xs : List α}
    (h : xs.flatMap f = []) (hf : ∀ x ∈ xs, f x ≠ []) : xs = [] :=
  List.eq_nil_iff_forall_not_mem.mpr fun x hx => hf x hx (List.flatMap_eq_nil_iff.mp h x hx)

theorem lineOf_ne_nil {t separator : Char} {fields : List Text} (h : [] ∉ fields) :
    lineOf t separator fields ≠ [] := by
  rw [lineOf, if_neg h]
  exact List.cons_ne_nil _ _

theorem keyLines_ne_nil {i : EncryptionKey} (h : i.method ≠ []) : i.lines ≠ [] := by
  rw [EncryptionKey.lines, if_neg h]
  split
  · exact List.cons_ne_nil _ _
  · exact List.cons_ne_nil _ _

theorem lists_nil_of_tailLines_nil {s : SdpStack} (h : s.tailLines = [])
    (hback : s.readBack = s) :
    s.encryption_key_list = [] ∧ s.attribute_list = [] ∧ s.media_list = [] := by
  obtain ⟨-, -, -, hkeys, hattributes, hmedia⟩ := (readBack_eq_iff s).mp hback
  simp only [SdpStack.tailLines, List.append_eq_nil_iff] at h
  obtain ⟨⟨h1, h2⟩, h3⟩ := h
  exact ⟨eq_nil_of_flatMap_eq_nil h1 fun i hi => keyLines_ne_nil (hkeys i hi),
    eq_nil_of_flatMap_eq_nil h2 fun i hi => lineOf_ne_nil (hattributes i hi),
    eq_nil_of_flatMap_eq_nil h3 fun i hi => lineOf_ne_nil (hmedia i hi).1⟩

/-- **The round trip.**  A well formed stack comes back from its text if and only if it is
`Encodable`. -/
theorem roundTrips_iff {s : SdpStack} (h : s.WellFormed) : RoundTrips s ↔ s.Encodable := by
  simp only [RoundTrips, SdpParser.ofBuffer, SdpParser.decode, SdpParser.decodeSdp]
  by_cases hnul : ∀ f ∈ s.fields, NoNul f
  · rw [produced_eq hnul]
    by_cases hline : s.adjustment_time_list ≠ [] ∨ s.tailLines = []
    · rw [decode_encodeText h hline]
      constructor
      · intro hback
        obtain ⟨hb, ht, hr, hkeys, hattributes, hmedia⟩ := (readBack_eq_iff s).mp hback
        exact ⟨hnul, hb, ht, hr,
          hline.imp_right fun htail => lists_nil_of_tailLines_nil htail hback,
          hkeys, hattributes, hmedia⟩
      · intro he
        exact (readBack_eq_iff s).mpr ⟨he.bandwidth_info, he.active_time, he.repeat_time,
          he.encryption_key_list, he.attribute_list, he.media_list⟩
    · obtain ⟨hadj, htail⟩ := not_or.mp hline
      constructor
      · intro hback
        have := entries_swallowed h (not_not.mp hadj) htail
        rw [hback] at this
        exact absurd this (Nat.lt_irrefl _)
      · intro he
        obtain ⟨hkeys, hattributes, hmedia⟩ := he.adjustment_time_list.resolve_left hadj
        exact absurd (by simp [SdpStack.tailLines, hkeys, hattributes, hmedia]) htail
  · constructor
    · intro hback
      have hwithin : Within s.produced (decodeLoop s.produced {}) :=
        decodeLoop_within (List.Subset.refl _) within_empty
      rw [hback] at hwithin
      exact absurd (fun f hf hm => produced_noNul s (hwithin f hf hm)) hnul
    · intro he
      exact absurd he.noNul hnul

/-- A description of one video stream, with two adjustments and a key. -/
def sampleStack : SdpStack where
  version_info := ⟨"0".toList⟩
  owner_info := ⟨"-".toList, "0".toList, "0".toList, ⟨"IN".toList, "IP4".toList, "10.0.0.1".toList⟩⟩
  session_name := ⟨"Play".toList⟩
  connect_info := ⟨"IN".toList, "IP4".toList, "10.0.0.1".toList⟩
  active_time := ⟨"0".toList, "0".toList⟩
  adjustment_time_list := [⟨"28".toList, "-1h".toList⟩, ⟨"70".toList, "0".toList⟩]
  encryption_key_list := [⟨"prompt".toList, []⟩]
  attribute_list := [⟨"rtpmap".toList, "96 PS/90000".toList⟩]
  media_list := [⟨"video".toList, "6000".toList, "RTP/AVP".toList, "96".toList⟩]

theorem sampleStack_wellFormed : sampleStack.WellFormed := by
  constructor <;> decide

theorem sampleStack_encodable : sampleStack.Encodable := by
  constructor <;> decide

/-- It comes back. -/
theorem sampleStack_roundTrips : RoundTrips sampleStack :=
  (roundTrips_iff sampleStack_wellFormed).mpr sampleStack_encodable

/-- The same description without adjustments. -/
def plainStack : SdpStack := { sampleStack with adjustment_time_list := [] }

theorem plainStack_wellFormed : plainStack.WellFormed := by
  constructor <;> decide

/-- Its key is lost. -/
theorem plainStack_lost : ¬ (∀ s : SdpStack, s.WellFormed → RoundTrips s) := by
  intro h
  have hback := h plainStack plainStack_wellFormed
  simp only [RoundTrips, SdpParser.ofBuffer, SdpParser.decode, SdpParser.decodeSdp] at hback
  rw [produced_eq (by decide)] at hback
  have hlt := entries_swallowed plainStack_wellFormed rfl (by decide)
  rw [hback] at hlt
  exact absurd hlt (Nat.lt_irrefl _)

end GB28181.Lib
