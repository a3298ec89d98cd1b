import GB28181.Platform.PageCalls
import GB28181.Platform.RecordRelease

/-!
# The pages of a listing (`DevInfo/ChannelInfo.h`, `SDKCom/SDKInfoSearcherMgr.h`, `.cpp`)

A page is the text in the buffer after a call of `GetCatalogBodyContent` or `GetNotifyCatalogInfo`:
what stands before the terminator, which is what is sent.

* `Lawful` — the paging law;
* `lawful_iff_parts` — pages that hold what their builders fill in keep it **exactly when** none of
  the texts has a zero in it, and there are no items or nothing is filled in behind them;
* `paging_iff` — for the four listings: the ID of the device is long enough, the times of a video
  record are, and a catalogue has no items, because each of its items is followed by a terminator.
-/

set_option autoImplicit false

namespace GB28181.Platform.PageLoops

open GB28181.Base BodyBuilder

variable {ι : Type}

/-- The text of a page: the head with both numbers, the items in order, the tail. -/
def PageBuilders.text (b : PageBuilders ι) (nSumNum : Int) (part : List ι) : CStr :=
  bytes (b.head nSumNum part.length).pieces ++
    ((part.flatMap fun item => bytes (b.item item).pieces) ++ bytes b.tail.pieces)

/-- **The paging law**: the list is cut into pages, and these are their texts. -/
def Lawful (MAX_LIST_LEN : Nat) (b : PageBuilders ι) (nSumNum : Int) (list : List ι)
    (ps : List Buffer) : Prop :=
  ∃ parts, Paged MAX_LIST_LEN list parts ∧
    List.Forall₂ (fun part page => TextAt page (b.text nSumNum part)) parts ps

/-- The buffer is large enough for every page. -/
def Large (MAX_LIST_LEN : Nat) (b : PageBuilders ι) (nSumNum nBufLen : Int) (list : List ι) :
    Prop :=
  ∀ part ∈ pages MAX_LIST_LEN list, Roomy nBufLen (b.all nSumNum part) 0

/-! ## What the builders fill in -/

/-- A builder fills in its text, and a few bytes behind it. -/
structure Fills (b : Builder) (gap : CStr) : Prop extends Appends b where
  fills : filled b = bytes b.pieces ++ gap

theorem fills_of_counted {b : Builder} {n : Nat} (h : Counted b n) (hsome : b.nBufLen.isSome) :
    Fills b [] := by
  obtain ⟨m, hm⟩ := Option.isSome_iff_exists.mp hsome
  have hlen : m = (bytes b.pieces).length := (h.reports m hm).trans (length_bytes h.laid).symm
  refine ⟨⟨h.laid, h.formats, ?_⟩, ?_⟩
  · rw [hm, Option.getD_some, hlen, written, List.length_append]
    exact Nat.le_add_right _ _
  · rw [filled, hm, Option.getD_some, hlen, written, List.take_left, List.append_nil]

theorem fills_printed (text : CStr) : Fills (printed text) [0] := by
  have hwritten : written (printed text) = text ++ [0] := by
    show text ++ [] ++ [0] = _
    rw [List.append_nil]
  have hbytes : bytes (printed text).pieces = text := List.append_nil text
  have hlen : (text ++ [0]).length = text.length + 1 := List.length_append
  refine ⟨⟨trivial, rfl, ?_⟩, ?_⟩
  · rw [hwritten, hlen]
    exact Nat.le_refl _
  · rw [filled, hwritten, hbytes]
    exact List.take_of_length_le (Nat.le_of_eq hlen)

/-- The builders of a listing, with what is filled in behind an item. -/
structure FillsPages (b : PageBuilders ι) (gap : CStr) : Prop where
  terminator : gap = [] ∨ gap = [0]
  head : ∀ nSumNum nListNum, Fills (b.head nSumNum nListNum) []
  item : ∀ item, Fills (b.item item) gap
  tail : ∃ strEndTag, b.tail = closing strEndTag ∧ strEndTag ≠ [] ∧ 0 ∉ strEndTag

section law

variable {MAX_LIST_LEN : Nat} {b : PageBuilders ι} {gap : CStr} {nSumNum nBufLen : Int}
  {list part : List ι} {page : Buffer} {ps : List Buffer}

def PageBuilders.raw (b : PageBuilders ι) (gap : CStr) (nSumNum : Int) (part : List ι) : CStr :=
  bytes (b.head nSumNum part.length).pieces ++
    ((part.flatMap fun item => bytes (b.item item).pieces ++ gap) ++ (bytes b.tail.pieces ++ [0]))

theorem FillsPages.reads (h : FillsPages b gap) (hroom : Roomy nBufLen (b.all nSumNum part) 0)
    (pszInfo : Buffer) :
    ∃ page, callAll callBuilder nBufLen (b.all nSumNum part) 0 pszInfo = some page ∧
      Reads page 0 (b.raw gap nSumNum part) := by
  obtain ⟨strEndTag, htail, -, -⟩ := h.tail
  have hall : ∀ c ∈ b.head nSumNum part.length :: part.map b.item, Appends c := by
    rw [List.forall_mem_cons, List.forall_mem_map]
    exact ⟨(h.head _ _).toAppends, fun i _ => (h.item i).toAppends⟩
  have hclosing : Laid b.tail.pieces ∧ b.tail.formats = true := by
    rw [htail]
    exact ⟨trivial, rfl⟩
  obtain ⟨page, hcall, hread, -⟩ := callAll_reads hall hclosing hroom pszInfo
  refine ⟨page, hcall, ?_⟩
  have hfilled : (part.map b.item).flatMap filled =
      part.flatMap fun item => bytes (b.item item).pieces ++ gap := by
    rw [List.flatMap_map]
    exact List.flatMap_congr fun i _ => (h.item i).fills
  have hwritten : written b.tail = bytes b.tail.pieces ++ [0] := by
    rw [htail]
    rfl
  rw [List.flatMap_cons, (h.head _ _).fills, List.append_nil, hfilled, hwritten,
    List.append_assoc] at hread
  exact hread

/-- **The text of one page.** -/
theorem FillsPages.textAt_iff (h : FillsPages b gap)
    (hread : Reads page 0 (b.raw gap nSumNum part)) :
    TextAt page (b.text nSumNum part) ↔ 0 ∉ b.text nSumNum part ∧ (gap = [] ∨ part = []) := by
  constructor
  · intro htext
    refine ⟨htext.2, ?_⟩
    by_contra hgap
    obtain ⟨hne, hpart⟩ := not_or.mp hgap
    have hzero : gap = [0] := h.terminator.resolve_left hne
    obtain ⟨strEndTag, htail, hend, -⟩ := h.tail
    obtain ⟨i, rest, rfl⟩ := List.exists_cons_of_ne_nil hpart
    -- the first item ends where its terminator is, and the text goes on there
    obtain ⟨first, hfirst⟩ : ∃ first, first =
      bytes (b.head nSumNum (i :: rest).length).pieces ++ bytes (b.item i).pieces := ⟨_, rfl⟩
    have hraw : b.raw gap nSumNum (i :: rest) = first ++ ([0] ++
        ((rest.flatMap fun item => bytes (b.item item).pieces ++ gap) ++
          (bytes b.tail.pieces ++ [0]))) := by
      simp only [PageBuilders.raw, hfirst, hzero, List.flatMap_cons, List.append_assoc]
    have hgoes : b.text nSumNum (i :: rest) = first ++
        ((rest.flatMap fun item => bytes (b.item item).pieces) ++ bytes b.tail.pieces) := by
      simp only [PageBuilders.text, hfirst, List.flatMap_cons, List.append_assoc]
    have hpos : 0 < (bytes b.tail.pieces).length := by
      rw [htail]
      show 0 < (strEndTag ++ []).length
      rw [List.append_nil]
      exact List.length_pos_of_ne_nil hend
    have hlt : first.length < (b.text nSumNum (i :: rest)).length := by
      rw [hgoes, List.length_append, List.length_append]
      omega
    rw [hraw, reads_append, Nat.zero_add] at hread
    have hbehind := (reads_append.mp hread.2).1
    exact htext.ne_zero hlt (reads_singleton.mp hbehind)
  · rintro ⟨hclean, hgap⟩
    refine ⟨?_, hclean⟩
    have hraw : b.raw gap nSumNum part = b.text nSumNum part ++ [0] := by
      unfold PageBuilders.raw PageBuilders.text
      rcases hgap with rfl | rfl
      · simp only [List.append_nil, List.append_assoc]
      · simp only [List.flatMap_nil, List.nil_append, List.append_assoc]
    rw [← hraw]
    exact hread

theorem lawful_iff_parts (hMAX : 0 < MAX_LIST_LEN) (h : FillsPages b gap)
    (hread : List.Forall₂ (fun part page => Reads page 0 (b.raw gap nSumNum part))
      (pages MAX_LIST_LEN list) ps) :
    Lawful MAX_LIST_LEN b nSumNum list ps ↔ ∀ part ∈ pages MAX_LIST_LEN list,
      0 ∉ b.text nSumNum part ∧ (gap = [] ∨ part = []) := by
  unfold Lawful
  simp only [paged_iff hMAX, exists_eq_left]
  exact forall₂_iff_of_forall₂ hread fun part page hpage => h.textAt_iff hpage

/-- **The law**, for builders whose head has no zero exactly when `C` holds. -/
theorem lawful_iff_of_head (hMAX : 0 < MAX_LIST_LEN) (h : FillsPages b gap) {C : Prop}
    (hhead : ∀ nSumNum nListNum, 0 ∉ bytes (b.head nSumNum nListNum).pieces ↔ C)
    (hread : List.Forall₂ (fun part page => Reads page 0 (b.raw gap nSumNum part))
      (pages MAX_LIST_LEN list) ps) :
    Lawful MAX_LIST_LEN b nSumNum list ps ↔
      C ∧ (∀ item ∈ list, 0 ∉ bytes (b.item item).pieces) ∧ (gap = [] ∨ list = []) := by
  have hflatten : (pages MAX_LIST_LEN list).flatten = list := (paged_pages hMAX).flatten
  have htail : 0 ∉ bytes b.tail.pieces := by
    obtain ⟨strEndTag, htail, -, hend⟩ := h.tail
    rw [htail]
    show 0 ∉ strEndTag ++ []
    rw [List.append_nil]
    exact hend
  have htext : ∀ part, 0 ∉ b.text nSumNum part ↔
      C ∧ ∀ item ∈ part, 0 ∉ bytes (b.item item).pieces := by
    intro part
    rw [PageBuilders.text, List.mem_append, List.mem_append, not_or, not_or, hhead,
      and_iff_left htail, List.mem_flatMap]
    simp only [not_exists, not_and]
  rw [lawful_iff_parts hMAX h hread]
  simp only [htext]
  constructor
  · intro hparts
    refine ⟨?_, fun item hitem => ?_, ?_⟩
    · have hne : pages MAX_LIST_LEN list ≠ [] := cut_ne_nil
      obtain ⟨part, hpart⟩ := List.exists_mem_of_ne_nil _ hne
      exact (hparts part hpart).1.1
    · rw [← hflatten, List.mem_flatten] at hitem
      obtain ⟨part, hpart, hitem⟩ := hitem
      exact (hparts part hpart).1.2 item hitem
    · by_cases hgap : gap = []
      · exact .inl hgap
      · rw [← hflatten, List.flatten_eq_nil_iff]
        exact .inr fun part hpart => (hparts part hpart).2.resolve_left hgap
  · rintro ⟨hC, hitems, hgap⟩ part hpart
    refine ⟨⟨hC, fun item hitem => hitems item ?_⟩, hgap.imp_right fun hnil => ?_⟩
    · rw [← hflatten]
      exact List.mem_flatten_of_mem hpart hitem
    · rw [hnil, List.flatten_eq_nil_iff] at hflatten
      rw [hnil] at hpart
      exact hflatten part hpart

end law

/-! ## Zeros -/

section zeros

variable {l : Lengths} {p : Piece} {ps qs : List Piece} {n : Nat} {s : CStr}

theorem zero_notMem_cons : 0 ∉ bytes (p :: ps) ↔ 0 ∉ p.bytes ∧ 0 ∉ bytes ps := by
  show 0 ∉ p.bytes ++ bytes ps ↔ _
  rw [List.mem_append, not_or]

theorem zero_notMem_append : 0 ∉ bytes (ps ++ qs) ↔ 0 ∉ bytes ps ∧ 0 ∉ bytes qs := by
  rw [bytes_append, List.mem_append, not_or]

theorem zero_notMem_pieceIf {c : Prop} [Decidable c] :
    0 ∉ bytes (pieceIf c ps) ↔ (c → 0 ∉ bytes ps) := by
  rw [bytes_pieceIf]
  split_ifs with hc
  · exact ⟨fun h _ => h, fun h => h hc⟩
  · exact iff_of_true List.not_mem_nil fun h => absurd h hc

theorem zero_notMem_bytesAt (hs : 0 ∉ s) : 0 ∉ bytesAt n s ↔ n ≤ s.length := by
  unfold bytesAt
  constructor
  · intro hzero
    by_contra hlt
    refine hzero ?_
    obtain ⟨k, rfl⟩ : ∃ k, n = s.length + (k + 1) := ⟨n - s.length - 1, by omega⟩
    rw [List.take_length_add_append, List.mem_append, List.take_replicate, List.mem_replicate]
    exact .inr ⟨by omega, rfl⟩
  · intro hle
    rw [List.take_append_of_le_length hle]
    exact fun hmem => hs (List.mem_of_mem_take hmem)

theorem dropLast_bytesAt : (bytesAt (n + 1) s).dropLast = bytesAt n s := by
  have hlong : (s ++ List.replicate n 0).length = s.length + n := by
    rw [List.length_append, List.length_replicate]
  unfold bytesAt
  rw [List.dropLast_eq_take, List.take_take, List.length_take, List.length_append,
    List.length_replicate, List.replicate_succ', ← List.append_assoc]
  have hmin : min (min (n + 1) (s.length + (n + 1)) - 1) (n + 1) = n := by omega
  rw [hmin, List.take_append_of_le_length (by omega)]

theorem zero_notMem_digits (n : Nat) : 0 ∉ str (toString n) := by
  rw [str_toString]
  intro hzero
  exact absurd (isDigit_of_mem_toText n 0 hzero) (by decide)

theorem zero_notMem_formatInt (n : Int) : 0 ∉ formatInt n := by
  cases n with
  | ofNat n => exact zero_notMem_digits n
  | negSucc n =>
    have htext : formatInt (Int.negSucc n) = str "-" ++ str (toString (n + 1)) :=
      str_append "-" (toString (n + 1))
    rw [htext, List.mem_append, not_or]
    exact ⟨by decide, zero_notMem_digits _⟩

theorem zero_notMem_nil : 0 ∉ bytes [] := List.not_mem_nil

def headTags (t : HeadTags) : List CStr :=
  [t.strVersionTag, t.strSNTag, t.strDeviceIDTag, t.strNameTag, t.strSumNumTag, t.strEnterTag]

theorem zero_notMem_recordHead {t : HeadTags} (ht : ∀ tag ∈ headTags t, 0 ∉ tag)
    (pstrSN pstrDeviceID pstrDeviceName : CText) (nSumNum nListNum : Int) :
    0 ∉ bytes (recordHead l t pstrSN pstrDeviceID pstrDeviceName nSumNum nListNum).pieces ↔
      l.ID_LEN ≤ pstrDeviceID.val.length := by
  simp only [headTags, List.forall_mem_cons] at ht
  simp only [recordHead, zero_notMem_cons, Piece.bytes, zero_notMem_nil, not_false_eq_true,
    pstrSN.property, pstrDeviceName.property, zero_notMem_formatInt, ht,
    zero_notMem_bytesAt pstrDeviceID.property, true_and, and_true]

theorem zero_notMem_catalogHead {strVersionTag : CStr} (hversion : 0 ∉ strVersionTag)
    (pstrSN pstrDeviceID : CText) (nSumNum nListNum : Int) (nTestedLen : Nat) :
    0 ∉ bytes (catalogHead strVersionTag pstrSN (bytesAt l.ID_LEN pstrDeviceID) nSumNum nListNum
      nTestedLen).pieces ↔ l.ID_LEN ≤ pstrDeviceID.val.length := by
  have htags : ∀ tag ∈ [str "</SN>\r\n<DeviceID>", str "</DeviceID>\r\n<SumNum>",
      str "</SumNum>\r\n<DeviceList Num=\"", str "\">\r\n"], 0 ∉ tag := by decide
  simp only [List.forall_mem_cons] at htags
  simp only [catalogHead, zero_notMem_cons, Piece.bytes, zero_notMem_nil, not_false_eq_true,
    pstrSN.property, zero_notMem_formatInt, hversion, htags,
    zero_notMem_bytesAt pstrDeviceID.property, true_and, and_true]

theorem zero_notMem_optional {strTagS strTagE : CStr} {s : Option CStr} (hopen : 0 ∉ strTagS)
    (htext : 0 ∉ s.getD []) (hclose : 0 ∉ strTagE) : 0 ∉ bytes (optional strTagS s strTagE) := by
  rw [BodyBuilder.optional, zero_notMem_pieceIf]
  intro _
  simp only [zero_notMem_cons, Piece.bytes, zero_notMem_nil, not_false_eq_true, hopen, htext,
    hclose, and_self]

theorem zero_notMem_buf {s : CStr} (hs : 0 ∉ s) {tags : List Piece} (htags : 0 ∉ bytes tags)
    {strTagE : CStr} (hclose : 0 ∉ strTagE) :
    0 ∉ bytes (pieceIf (given (some s) = true)
        (tags ++ [.buf (bytesAt (n + 1) s), .text strTagE])) ↔
      s = [] ∨ n ≤ s.length := by
  have hgiven : given (some s) = true ↔ s ≠ [] := by simp [given]
  rw [zero_notMem_pieceIf, zero_notMem_append, and_iff_right htags]
  simp only [zero_notMem_cons, Piece.bytes, zero_notMem_nil, dropLast_bytesAt,
    zero_notMem_bytesAt hs, hclose, hgiven, not_false_eq_true, and_true]
  exact ⟨fun h => or_iff_not_imp_left.mpr h, fun h hne => h.resolve_left hne⟩

theorem zero_notMem_szRcordType : ∀ nRecordType : Fin 4, 0 ∉ szRcordType nRecordType := by decide

theorem zero_notMem_addRecordBodyShengtong (l : Lengths) (pszDeviceID pstrName pszStartTime
    pszEndTime pszAddress pszFilePath pszFileSize pszRecorderID : CText) (nRecordType : Fin 4) :
    0 ∉ bytes (addRecordBodyShengtong l (some pszDeviceID.val) (some pstrName.val)
        (some pszStartTime.val) (some pszEndTime.val) (some pszAddress.val) (some pszFilePath.val)
        (some pszFileSize.val) (some pszRecorderID.val) nRecordType 0).pieces ↔
      (pszDeviceID.val = [] ∨ l.ID_LEN ≤ pszDeviceID.val.length) ∧
        (pszStartTime.val = [] ∨ l.TIME_LEN ≤ pszStartTime.val.length) ∧
          (pszEndTime.val = [] ∨ l.TIME_LEN ≤ pszEndTime.val.length) := by
  have htags : ∀ tag ∈ [str "<Item>\r\n<DeviceID>", str "<Name>", str "</Name>\r\n",
      str "<FilePath>", str "</FilePath>\r\n", str "<FileSize>", str "</FileSize>\r\n",
      str "<RecorderID>", str "</RecorderID>\r\n", str "<Address>", str "</Address>\r\n",
      str "</Secrecy>\r\n<Type>", str "</Type>\r\n</Item>\r\n", [UInt8.ofInt (0 + 48)]],
      0 ∉ tag := by decide
  have hID : 0 ∉ bytes (pieceIf _ ([] ++ _)) ↔ _ :=
    zero_notMem_buf (n := l.ID_LEN) pszDeviceID.property zero_notMem_nil
      (by decide : 0 ∉ str "</DeviceID>\r\n")
  have hstart := zero_notMem_buf (n := l.TIME_LEN) pszStartTime.property
    (by decide : 0 ∉ bytes [.text (str "<StartTime>")])
    (by decide : 0 ∉ str "</StartTime>\r\n<EndTime>")
  have hstop : 0 ∉ bytes (pieceIf _ ([] ++ _)) ↔ _ :=
    zero_notMem_buf (n := l.TIME_LEN) pszEndTime.property zero_notMem_nil
      (by decide : 0 ∉ str "</EndTime>\r\n<Secrecy>")
  simp only [List.forall_mem_cons] at htags
  simp only [List.nil_append, List.cons_append] at hID hstart hstop
  simp only [addRecordBodyShengtong, Lengths.ID_BUF_LEN, Lengths.TIME_BUF_LEN, zero_notMem_append,
    Option.getD_some, hID, hstart, hstop]
  simp only [zero_notMem_cons, Piece.bytes, zero_notMem_nil, htags, pstrName.property,
    pszFilePath.property, pszFileSize.property, pszRecorderID.property, pszAddress.property,
    zero_notMem_szRcordType, not_false_eq_true, true_and, and_true, and_assoc]

theorem zero_notMem_addAlarmRecordBody (l : Lengths) (pszDeviceID alarmPriority alarmTime
    alarmDescription longitude latitude alarmStatus : CText) (alarmMethod alarmType : Int) :
    0 ∉ bytes (addAlarmRecordBody l (some pszDeviceID.val) (some alarmPriority.val)
        (some (formatInt alarmMethod)) (some alarmTime.val) (some alarmDescription.val)
        longitude.val latitude.val (some (formatInt alarmType)) (some alarmStatus.val)).pieces ↔
      pszDeviceID.val = [] ∨ l.ID_LEN ≤ pszDeviceID.val.length := by
  have htags : ∀ tag ∈ [str "<Item>\r\n<DeviceID>", str "<AlarmPriority>",
      str "</AlarmPriority>\r\n", str "<AlarmMethod>", str "</AlarmMethod>\r\n",
      str "<AlarmTime>", str "</AlarmTime>\r\n", str "<AlarmDescription>",
      str "</AlarmDescription>\r\n<Longitude>", str "</Longitude>\r\n<Latitude>",
      str "</Latitude>\r\n", str "<AlarmStatus>", str "</AlarmStatus>\r\n", str "</Item>\r\n"],
      0 ∉ tag := by decide
  have hID : 0 ∉ bytes (pieceIf _ ([] ++ _)) ↔ _ :=
    zero_notMem_buf (n := l.ID_LEN) pszDeviceID.property zero_notMem_nil
      (by decide : 0 ∉ str "</DeviceID>\r\n")
  have htype : 0 ∉ bytes (BodyBuilder.optional (str "<AlarmType>") (some (formatInt alarmType))
      (str "</AlarmType>\r\n")) :=
    zero_notMem_optional (by decide) (zero_notMem_formatInt alarmType) (by decide)
  simp only [List.forall_mem_cons] at htags
  simp only [List.nil_append] at hID
  simp only [addAlarmRecordBody, Lengths.ID_BUF_LEN, zero_notMem_append, Option.getD_some, hID,
    htype]
  simp only [zero_notMem_pieceIf, zero_notMem_append, zero_notMem_cons, Piece.bytes,
    zero_notMem_nil, htags, alarmPriority.property, alarmTime.property, alarmDescription.property,
    longitude.property, latitude.property, alarmStatus.property, zero_notMem_formatInt,
    not_false_eq_true, true_and, and_true, implies_true]

end zeros

/-! ## The four listings -/

/-- What is listed: the catalogues of a device, or the records of a search. -/
inductive Listing where
  /-- `CatalogCollections::GetCatalogBodyContent`. -/
  | catalog (c : CatalogCollections)
  /-- `CatalogCollections::GetNotifyCatalogInfo`. -/
  | notify (c : CatalogCollections) (type : CStr)
  /-- `AlarmRecordsMgr::GetCatalogBodyContent`. -/
  | alarm (mgr : AlarmRecordsMgr) (m_oRecordList : List AlarmRecordItem)
  /-- `VideoRecordsSeachMgr::GetCatalogBodyContent`. -/
  | video (mgr : VideoRecordsSeachMgr) (m_oRecordList : List VideoRecordItem)

namespace Listing

variable (l : Lengths) (printer : ItemDocument → CStr) (pstrSN : CText) (MAX_LIST_LEN : Nat)
  (nBufLen : Int)

/-- The buffer is large enough for every page of it. -/
def Large : Listing → Prop
  | .catalog c => PageLoops.Large MAX_LIST_LEN (c.catalogBuilders l printer pstrSN)
      (c.m_catalogMap.length + c.needAddRecordCount) nBufLen c.m_catalogMap
  | .notify c type => PageLoops.Large MAX_LIST_LEN (c.notifyBuilders l printer pstrSN type)
      c.m_catalogMap.length nBufLen c.m_catalogMap
  | .alarm mgr m_oRecordList => PageLoops.Large MAX_LIST_LEN (mgr.builders l pstrSN)
      m_oRecordList.length nBufLen m_oRecordList
  | .video mgr m_oRecordList => PageLoops.Large MAX_LIST_LEN (mgr.builders l pstrSN id)
      m_oRecordList.length nBufLen m_oRecordList

/-- The calls with one context end with these pages; `next` makes the buffer of the next call. -/
def Writes (next : Buffer → Buffer) (pszInfo : Buffer) (ps : List Buffer) : Listing → Prop
  | .catalog c => ∃ s', CallsEnd (catalogCall
      (c.GetCatalogBodyContent l printer pstrSN MAX_LIST_LEN callBuilder nBufLen) next)
      ({}, pszInfo) ps s'
  | .notify c type => ∃ s', CallsEnd (catalogCall
      (c.GetNotifyCatalogInfo l printer pstrSN type MAX_LIST_LEN callBuilder nBufLen) next)
      ({}, pszInfo) ps s'
  | .alarm mgr m_oRecordList => ∃ s', CallsEnd (alarmCall
      (mgr.GetCatalogBodyContent l pstrSN MAX_LIST_LEN callBuilder nBufLen) next)
      { m_oRecordList := m_oRecordList, pszInfo := pszInfo } ps s'
  | .video mgr m_oRecordList => ∃ s', CallsEnd (videoCall
      (mgr.GetCatalogBodyContent l pstrSN id MAX_LIST_LEN callBuilder nBufLen) next)
      { m_oRecordList := m_oRecordList, pszInfo := pszInfo } ps s'

def Lawful (ps : List Buffer) : Listing → Prop
  | .catalog c => PageLoops.Lawful MAX_LIST_LEN (c.catalogBuilders l printer pstrSN)
      (c.m_catalogMap.length + c.needAddRecordCount) c.m_catalogMap ps
  | .notify c type => PageLoops.Lawful MAX_LIST_LEN (c.notifyBuilders l printer pstrSN type)
      c.m_catalogMap.length c.m_catalogMap ps
  | .alarm mgr m_oRecordList => PageLoops.Lawful MAX_LIST_LEN (mgr.builders l pstrSN)
      m_oRecordList.length m_oRecordList ps
  | .video mgr m_oRecordList => PageLoops.Lawful MAX_LIST_LEN (mgr.builders l pstrSN id)
      m_oRecordList.length m_oRecordList ps

/-- The ID of the device is long enough, and so are the times of a video record that has them; a
catalogue has no items. -/
def Suits : Listing → Prop
  | .catalog c => l.ID_LEN ≤ c.m_strDeviceID.val.length ∧ c.m_catalogMap = []
  | .notify c _ => l.ID_LEN ≤ c.m_strDeviceID.val.length ∧ c.m_catalogMap = []
  | .alarm mgr _ => l.ID_LEN ≤ mgr.m_strDeviceID.val.length
  | .video mgr m_oRecordList => l.ID_LEN ≤ mgr.m_strDeviceID.val.length ∧
      ∀ r ∈ m_oRecordList,
        (r.m_szStartTime.val = [] ∨ l.TIME_LEN ≤ r.m_szStartTime.val.length) ∧
          (r.m_szEndTime.val = [] ∨ l.TIME_LEN ≤ r.m_szEndTime.val.length)

end Listing

section listings

variable {l : Lengths} {printer : ItemDocument → CStr} {pstrSN : CText} {MAX_LIST_LEN : Nat}
  {nBufLen : Int}

theorem fills_catalogBuilders (c : CatalogCollections) :
    FillsPages (c.catalogBuilders l printer pstrSN) [0] where
  terminator := .inr rfl
  head _ _ := fills_of_counted (counted_createCatalogHead _ _ _ _ _) rfl
  item _ := fills_printed _
  tail := ⟨_, rfl, by decide, by decide⟩

theorem fills_notifyBuilders (c : CatalogCollections) (type : CStr) :
    FillsPages (c.notifyBuilders l printer pstrSN type) [0] where
  terminator := .inr rfl
  head _ _ := fills_of_counted (counted_createNotifyCatalogHead _ _ _ _ _) rfl
  item _ := fills_printed _
  tail := ⟨_, rfl, by decide, by decide⟩

theorem fills_alarmBuilders (mgr : AlarmRecordsMgr) : FillsPages (mgr.builders l pstrSN) [] where
  terminator := .inl rfl
  head _ _ := fills_of_counted (counted_recordHead _ _ _ _ _ _ _) rfl
  item _ := fills_of_counted (counted_addAlarmRecordBody _ _ _ _ _ _ _ _ _ _) rfl
  tail := ⟨_, rfl, by decide, by decide⟩

theorem fills_videoBuilders (mgr : VideoRecordsSeachMgr) (record : ι → VideoRecordItem) :
    FillsPages (mgr.builders l pstrSN record) [] where
  terminator := .inl rfl
  head _ _ := fills_of_counted (counted_recordHead _ _ _ _ _ _ _) rfl
  item _ := fills_of_counted (counted_addRecordBodyShengtong _ _ _ _ _ _ _ _ _ _ _) rfl
  tail := ⟨_, rfl, by decide, by decide⟩

theorem items_iff {C : ι → Prop} {list : List ι} :
    ((∀ item ∈ list, C item) ∧ (([0] : CStr) = [] ∨ list = [])) ↔ list = [] := by
  constructor
  · exact fun h => h.2.resolve_left (List.cons_ne_nil 0 [])
  · rintro rfl
    exact ⟨List.forall_mem_nil _, .inr rfl⟩

/-- **The calls end**, and their pages keep the law exactly when the listing suits it. -/
theorem listing_law (hMAX : 0 < MAX_LIST_LEN) (x : Listing)
    (hlarge : x.Large l printer pstrSN MAX_LIST_LEN nBufLen) (next : Buffer → Buffer)
    (pszInfo : Buffer) :
    ∃ ps, x.Writes l printer pstrSN MAX_LIST_LEN nBufLen next pszInfo ps ∧
      (x.Lawful l printer pstrSN MAX_LIST_LEN ps ↔ x.Suits l) := by
  cases x with
  | catalog c =>
    have hfills : FillsPages (c.catalogBuilders l printer pstrSN) [0] := fills_catalogBuilders c
    obtain ⟨ps, s', hends, hread⟩ := catalog_ends hMAX
      (fun part hpart pszInfo => hfills.reads (hlarge part hpart) pszInfo) next pszInfo
    refine ⟨ps, ⟨s', hends⟩, ?_⟩
    refine (lawful_iff_of_head hMAX hfills (fun _ _ => ?_) hread).trans (and_congr_right' items_iff)
    exact zero_notMem_catalogHead (by decide) _ _ _ _ _
  | notify c type =>
    have hfills : FillsPages (c.notifyBuilders l printer pstrSN type) [0] :=
      fills_notifyBuilders c type
    obtain ⟨ps, s', hends, hread⟩ := catalog_ends hMAX
      (fun part hpart pszInfo => hfills.reads (hlarge part hpart) pszInfo) next pszInfo
    refine ⟨ps, ⟨s', hends⟩, ?_⟩
    refine (lawful_iff_of_head hMAX hfills (fun _ _ => ?_) hread).trans (and_congr_right' items_iff)
    exact zero_notMem_catalogHead (by decide) _ _ _ _ _
  | alarm mgr m_oRecordList =>
    have hfills : FillsPages (mgr.builders l pstrSN) [] := fills_alarmBuilders mgr
    obtain ⟨ps, s', hends, hread⟩ := alarm_ends hMAX
      (fun part hpart pszInfo => hfills.reads (hlarge part hpart) pszInfo) next pszInfo
    refine ⟨ps, ⟨s', hends⟩, ?_⟩
    have hOK : 0 ∉ str "OK" := by decide
    have hhead : ∀ nSumNum nListNum,
        0 ∉ bytes ((mgr.builders l pstrSN).head nSumNum nListNum).pieces ↔
          l.ID_LEN ≤ mgr.m_strDeviceID.val.length := fun _ _ =>
      zero_notMem_recordHead (by decide) pstrSN mgr.m_strDeviceID ⟨str "OK", hOK⟩ _ _
    refine (lawful_iff_of_head hMAX hfills hhead hread).trans ?_
    refine and_iff_left_of_imp fun hID => ⟨fun r _ => ?_, .inl rfl⟩
    exact (zero_notMem_addAlarmRecordBody ..).mpr (.inr hID)
  | video mgr m_oRecordList =>
    have hfills : FillsPages (mgr.builders l pstrSN id) [] := fills_videoBuilders mgr id
    obtain ⟨ps, s', hends, hread⟩ := video_ends hMAX
      (fun part hpart pszInfo => hfills.reads (hlarge part hpart) pszInfo) next pszInfo
    refine ⟨ps, ⟨s', hends⟩, ?_⟩
    have hhead : ∀ nSumNum nListNum,
        0 ∉ bytes ((mgr.builders l pstrSN id).head nSumNum nListNum).pieces ↔
          l.ID_LEN ≤ mgr.m_strDeviceID.val.length := fun _ _ =>
      zero_notMem_recordHead (by decide) pstrSN mgr.m_strDeviceID mgr.m_strDeviceName _ _
    refine (lawful_iff_of_head hMAX hfills hhead hread).trans (and_congr_right fun hID => ?_)
    rw [and_iff_left (.inl rfl)]
    refine forall₂_congr fun r _ => ?_
    refine (zero_notMem_addRecordBodyShengtong ..).trans ?_
    exact and_iff_right (.inr hID)

theorem Listing.Writes.unique {x : Listing} {next : Buffer → Buffer} {pszInfo : Buffer}
    {ps qs : List Buffer} (h : x.Writes l printer pstrSN MAX_LIST_LEN nBufLen next pszInfo ps)
    (h' : x.Writes l printer pstrSN MAX_LIST_LEN nBufLen next pszInfo qs) : ps = qs := by
  cases x <;>
  · obtain ⟨s, hs⟩ := h
    obtain ⟨t, ht⟩ := h'
    exact (hs.unique ht).1

end listings

/-- **The paging law.**  With a buffer that is large enough, the calls with one context write the
pages of a listing, each with its numbers, its items in order and its tail, exactly when the
listing suits it. -/
theorem paging_iff (l : Lengths) (printer : ItemDocument → CStr) (pstrSN : CText)
    {MAX_LIST_LEN : Nat} (hMAX : 0 < MAX_LIST_LEN) (nBufLen : Int) (x : Listing)
    (hlarge : x.Large l printer pstrSN MAX_LIST_LEN nBufLen) (next : Buffer → Buffer)
    (pszInfo : Buffer) :
    (∃ ps, x.Writes l printer pstrSN MAX_LIST_LEN nBufLen next pszInfo ps ∧
      x.Lawful l printer pstrSN MAX_LIST_LEN ps) ↔ x.Suits l := by
  obtain ⟨ps, hwrites, hiff⟩ := listing_law hMAX x hlarge next pszInfo
  constructor
  · rintro ⟨qs, hqs, hlawful⟩
    rw [hwrites.unique hqs] at hiff
    exact hiff.mp hlawful
  · exact fun hsuits => ⟨ps, hwrites, hiff.mpr hsuits⟩

/-- The document as it is printed, where no text has to be escaped. -/
def printItem (document : ItemDocument) : CStr :=
  let line (indent : CStr) (node : CStr × CStr) : CStr :=
    indent ++ str "<" ++ node.1 ++ str ">" ++ node.2 ++ str "</" ++ node.1 ++ str ">\n"
  str "<Item>\n" ++ document.nodes.flatMap (line (str "    ")) ++
    (match document.info with
    | none => []
    | some nodes => str "    <Info>\n" ++ nodes.flatMap (line (str "        ")) ++
        str "    </Info>\n") ++ str "</Item>\n"

instance decidableRoomy (nBufLen : Int) : ∀ bs nCountUsed, Decidable (Roomy nBufLen bs nCountUsed)
  | [], _ => inferInstanceAs (Decidable True)
  | b :: rest, nCountUsed =>
    have := decidableRoomy nBufLen rest (nCountUsed + b.nBufLen.getD 0)
    inferInstanceAs (Decidable (_ ∧ _ ∧ _))

def deviceID : CText := ⟨str "34020000001110000001", by decide +kernel⟩

def serialNumber : CText := ⟨str "17430", by decide⟩

def dayListing : Listing :=
  .video ⟨deviceID, ⟨str "NVR", by decide⟩⟩ [
    { emptyRecord with m_szStartTime := ⟨str "2020-03-01T08:00:00", by decide +kernel⟩ },
    { emptyRecord with m_szStartTime := ⟨str "2020-03-01T09:00:00", by decide +kernel⟩ },
    emptyRecord]

/-- Three records on two pages. -/
theorem paging_iff_day :
    dayListing.Large usualLengths printItem serialNumber 2 2000 ∧
      ∃ ps, dayListing.Writes usualLengths printItem serialNumber 2 2000 id (fun _ => 0) ps ∧
        dayListing.Lawful usualLengths printItem serialNumber 2 ps := by
  have hlarge : dayListing.Large usualLengths printItem serialNumber 2 2000 := by
    unfold dayListing Listing.Large Large
    decide +kernel
  have hsuits : dayListing.Suits usualLengths := by
    unfold dayListing Listing.Suits
    decide +kernel
  exact ⟨hlarge, (paging_iff usualLengths printItem serialNumber Nat.two_pos 2000 dayListing hlarge
    id fun _ => 0).mpr hsuits⟩

def camera : CatalogFields where
  m_strDeviceID := str "34020000001310000001"
  m_strName := str "Dock"
  m_strManufacturer := []
  m_strModel := []
  m_strOwner := []
  m_strCivilCode := str "340200"
  m_strBlock := []
  m_strAddress := []
  m_strParental := str "0"
  m_strParentID := str "34020000001110000001"
  m_strSafetyWay := str "0"
  m_strRegisterWay := str "1"
  m_strCertifiable := []
  m_strErrCode := []
  m_strSecrecy := str "0"
  m_strStatus := str "ON"
  m_strLongitude := []
  m_strLatitude := []
  m_strInfoPTZType := []
  eGBDeviceType := 131
  m_strOperateType := str "ADD"
  m_strInfoPositionType := []
  m_strCertNum := []
  m_strEndTime := []
  m_strIPAddress := []
  m_strPort := []
  m_strPassword := []
  m_strRecLocation := []
  m_strChnNum := str "0"

def cameraListing : Listing := .catalog ⟨deviceID, 0, [camera]⟩

/-- Its page ends behind the camera, without the tail. -/
theorem camera_not_paged :
    cameraListing.Large usualLengths printItem serialNumber 10 4096 ∧
      ¬ ∃ ps, cameraListing.Writes usualLengths printItem serialNumber 10 4096 id (fun _ => 0) ps ∧
        cameraListing.Lawful usualLengths printItem serialNumber 10 ps := by
  have hlarge : cameraListing.Large usualLengths printItem serialNumber 10 4096 := by
    unfold cameraListing Listing.Large Large
    decide +kernel
  refine ⟨hlarge, ?_⟩
  rintro ⟨qs, hqs, hlawful⟩
  obtain ⟨ps, hps, hiff⟩ := listing_law (by decide) cameraListing hlarge id fun _ => 0
  rw [hps.unique hqs] at hiff
  exact List.cons_ne_nil _ _ (hiff.mp hlawful).2

end GB28181.Platform.PageLoops
