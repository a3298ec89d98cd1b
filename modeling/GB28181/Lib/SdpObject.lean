import GB28181.Base.History
import GB28181.Lib.SdpLines

/-!
# `SdpParser` objects and the caller's buffer (`GB28181.Lib/SdpParser.cpp`)

`decode_sdp` of a text decodes the text the object was built with once more, into the stack that is
there already; `encode_sdp` leaves the check of the buffer to `_tcscpy_s`.

* `foldl_classify` — the stack in terms of the lines: the last line of most types, the first
  connection with an address, all keys, attributes and media;
* `decodes_given_iff` — so `decode_sdp` decodes what it is given **exactly when** the two texts
  agree, type by type;
* `encode_calls` — the size that is reported is **never** enough, and a call keeps to the buffer
  **exactly when** it asks for the size or the text is shorter than the buffer and has no zero
  character.
-/

set_option autoImplicit false

namespace GB28181.Lib

open GB28181.Base

/-! ## The stack by its lines -/

/-- The lines of a text, as the loop of `Decode` cuts it. -/
def linesOf (strSdpTemp : Text) : List Text :=
  match _h : breakOn enter strSdpTemp with
  | some (strLine, strTail) => strLine :: linesOf strTail
  | none => [strSdpTemp]
  termination_by strSdpTemp.length
  decreasing_by exact breakOn_length_lt _h (Or.inl (List.cons_ne_nil _ _))

theorem linesOf_cons {text strLine strTail : Text}
    (h : breakOn enter text = some (strLine, strTail)) :
    linesOf text = strLine :: linesOf strTail := by
  rw [linesOf]
  split
  · rename_i h'
    obtain ⟨rfl, rfl⟩ := Prod.mk.inj (Option.some.inj (h'.symm.trans h))
    rfl
  · rename_i h'
    rw [h] at h'
    cases h'

theorem linesOf_last {text : Text} (h : breakOn enter text = none) : linesOf text = [text] := by
  rw [linesOf]
  split
  · rename_i h'
    rw [h] at h'
    cases h'
  · rfl

theorem decodeLoop_eq (text : Text) (s : SdpStack) :
    decodeLoop text s = (linesOf text).foldl classify s := by
  fun_induction decodeLoop text s with
  | case1 text s strLine strTail hb ih => rw [ih, linesOf_cons hb, List.foldl_cons]
  | case2 text s hb =>
    rw [linesOf_last hb]
    rfl

/-- What stands behind the first equals sign of a line of the type. -/
def valueOf (cType : Char) (strLine : Text) : Option Text :=
  if strLine.head? = some cType then (breakOn ['='] strLine).map Prod.snd else none

def values (cType : Char) (lines : List Text) : List Text := lines.filterMap (valueOf cType)

/-- What the last line of a type says, where `empty` stands for no such line. -/
def lastInfo {α : Type} (cType : Char) (get : Text → α) (empty : α) (lines : List Text) : α :=
  ((latest (valueOf cType) lines).map get).getD empty

/-- The connection: the first one with an address, or else the last one. -/
def firstConnect (lines : List Text) : ConnectInfo :=
  (settled (fun i : ConnectInfo => !i.address.isEmpty)
    ((values 'c' lines).map getConnect)).getD {}

def stackOf (lines : List Text) : SdpStack where
  version_info := lastInfo 'v' VersionInfo.mk {} lines
  owner_info := lastInfo 'o' getOwner {} lines
  session_name := lastInfo 's' SessionName.mk {} lines
  session_desp := lastInfo 'i' SessionDesp.mk {} lines
  url_info := lastInfo 'u' UrlInfo.mk {} lines
  email_info := lastInfo 'e' EmailInfo.mk {} lines
  phone_info := lastInfo 'p' PhoneInfo.mk {} lines
  connect_info := firstConnect lines
  bandwidth_info := lastInfo 'b' getBandWidth {} lines
  active_time := lastInfo 't' getActiveTime {} lines
  repeat_time := lastInfo 'r' getRepeatTime {} lines
  adjustment_time_list := lastInfo 'z' getAdjustmentTime [] lines
  encryption_key_list := (values 'k' lines).map getEncryptionKey
  attribute_list := (values 'a' lines).map getSessionAttribute
  media_list := (values 'm' lines).map getMedia

section Concat

variable {α : Type} {cType : Char} {get : Text → α} {empty : α} {lines : List Text} {line : Text}

theorem lastInfo_concat : lastInfo cType get empty (lines ++ [line]) =
    ((valueOf cType line).map get).getD (lastInfo cType get empty lines) := by
  rw [lastInfo, latest_concat]
  cases valueOf cType line <;> rfl

theorem values_concat :
    values cType (lines ++ [line]) = values cType lines ++ (valueOf cType line).toList := by
  rw [values, List.filterMap_append]
  cases h : valueOf cType line <;> simp [values, h]

theorem firstConnect_concat : firstConnect (lines ++ [line]) =
    match valueOf 'c' line with
    | none => firstConnect lines
    | some strTempLine =>
      if (firstConnect lines).address = [] then getConnect strTempLine else firstConnect lines := by
  rw [firstConnect, values_concat]
  cases valueOf 'c' line with
  | none => simp [firstConnect]
  | some strTempLine =>
    rw [Option.toList_some, List.map_append, List.map_singleton, settled_concat]
    unfold firstConnect
    cases hs : settled (fun i : ConnectInfo => !i.address.isEmpty)
        ((values 'c' lines).map getConnect) with
    | none => rfl
    | some i => cases ha : i.address <;> simp [ha]

theorem stackOf_concat : stackOf (lines ++ [line]) = classify (stackOf lines) line := by
  unfold classify
  cases hb : breakOn ['='] line with
  | none =>
    have hnone : ∀ c, valueOf c line = none := by
      intro c
      simp [valueOf, hb]
    simp [stackOf, lastInfo_concat, values_concat, firstConnect_concat, hnone]
  | some p =>
    have hvalue : ∀ c, valueOf c line = if line.head? = some c then some p.2 else none := by
      intro c
      simp [valueOf, hb]
    simp only [stackOf, lastInfo_concat, values_concat, firstConnect_concat, hvalue]
    generalize line.head? = cType
    symm
    unfold classifyType
    split
    case h_8 => by_cases ha : (firstConnect lines).address = [] <;> simp [ha]
    case h_16 => simp_all
    all_goals simp

end Concat

/-- **The stack by the lines.** -/
theorem foldl_classify (lines : List Text) : lines.foldl classify {} = stackOf lines := by
  induction lines using List.reverseRecOn with
  | nil => rfl
  | append_singleton lines line ih =>
    rw [List.foldl_append, ih, stackOf_concat]
    rfl

/-- Lines that are classified several times over: what is kept of the last ones stays, what is
listed is listed again. -/
theorem stackOf_repeated (n : Nat) (lines : List Text) :
    stackOf (repeated (n + 1) lines) = { stackOf lines with
      encryption_key_list := repeated (n + 1) (stackOf lines).encryption_key_list
      attribute_list := repeated (n + 1) (stackOf lines).attribute_list
      media_list := repeated (n + 1) (stackOf lines).media_list } := by
  simp only [stackOf, lastInfo, values, firstConnect, latest_repeated, filterMap_repeated,
    map_repeated, settled_repeated]

/-! ## Objects -/

/-- A new object, built with a text or without one. -/
def SdpParser.new (sdp_buffer : Option Text) : SdpParser := (sdp_buffer.map SdpParser.ofBuffer).getD {}

/-- What `decode_sdp` returns with a text or without one, and the object it leaves. -/
def SdpParser.call (p : SdpParser) (sdp_buffer : Option Text) : SdpStack × SdpParser :=
  match sdp_buffer with
  | some text => p.decodeSdpBuffer text
  | none => (p.decodeSdp, p)

/-- An object built with `first`, after the calls. -/
def SdpParser.after (first : Option Text) (calls : List (Option Text)) : SdpParser :=
  calls.foldl (fun p call => (p.call call).2) (SdpParser.new first)

def decodes (first : Option Text) (calls : List (Option Text)) : Nat :=
  (first :: calls).countP Option.isSome

/-- The stack of an object is that of the lines of its text, once for every time it was decoded. -/
theorem after_eq (first : Option Text) (calls : List (Option Text)) :
    SdpParser.after first calls =
      ⟨first.getD [], stackOf (repeated (decodes first calls) (linesOf (first.getD [])))⟩ := by
  induction calls using List.reverseRecOn with
  | nil =>
    cases first with
    | none => rfl
    | some text =>
      show SdpParser.decode { m_strSdpBuffer := text } = _
      rw [SdpParser.decode, decodeLoop_eq, foldl_classify]
      simp [decodes, repeated_succ]
  | append_singleton calls call ih =>
    have hstep : SdpParser.after first (calls ++ [call]) =
        ((SdpParser.after first calls).call call).2 := by
      simp [SdpParser.after]
    have hcount : decodes first (calls ++ [call]) =
        decodes first calls + if call.isSome then 1 else 0 := by
      simp [decodes, List.countP_cons, List.countP_append]
      omega
    rw [hstep, ih, hcount]
    cases call with
    | none => rfl
    | some text =>
      rw [SdpParser.call, SdpParser.decodeSdpBuffer, SdpParser.decode]
      dsimp only
      rw [decodeLoop_eq, ← foldl_classify, ← List.foldl_append, repeated_append, foldl_classify]
      rfl

/-- The lines of two texts agree, type by type, where the first text was decoded `n` times. -/
structure Agree (n : Nat) (had given : List Text) : Prop where
  version_info : lastInfo 'v' VersionInfo.mk {} had = lastInfo 'v' VersionInfo.mk {} given
  owner_info : lastInfo 'o' getOwner {} had = lastInfo 'o' getOwner {} given
  session_name : lastInfo 's' SessionName.mk {} had = lastInfo 's' SessionName.mk {} given
  session_desp : lastInfo 'i' SessionDesp.mk {} had = lastInfo 'i' SessionDesp.mk {} given
  url_info : lastInfo 'u' UrlInfo.mk {} had = lastInfo 'u' UrlInfo.mk {} given
  email_info : lastInfo 'e' EmailInfo.mk {} had = lastInfo 'e' EmailInfo.mk {} given
  phone_info : lastInfo 'p' PhoneInfo.mk {} had = lastInfo 'p' PhoneInfo.mk {} given
  connect_info : firstConnect had = firstConnect given
  bandwidth_info : lastInfo 'b' getBandWidth {} had = lastInfo 'b' getBandWidth {} given
  active_time : lastInfo 't' getActiveTime {} had = lastInfo 't' getActiveTime {} given
  repeat_time : lastInfo 'r' getRepeatTime {} had = lastInfo 'r' getRepeatTime {} given
  adjustment_time_list :
    lastInfo 'z' getAdjustmentTime [] had = lastInfo 'z' getAdjustmentTime [] given
  encryption_key_list : repeated n ((values 'k' had).map getEncryptionKey) =
    (values 'k' given).map getEncryptionKey
  attribute_list : repeated n ((values 'a' had).map getSessionAttribute) =
    (values 'a' given).map getSessionAttribute
  media_list : repeated n ((values 'm' had).map getMedia) = (values 'm' given).map getMedia

theorem stackOf_repeated_eq_iff {n : Nat} {had given : List Text} :
    stackOf (repeated (n + 1) had) = stackOf given ↔ Agree (n + 1) had given := by
  rw [stackOf_repeated]
  simp only [stackOf, SdpStack.mk.injEq]
  constructor
  · rintro ⟨h1, h2, h3, h4, h5, h6, h7, h8, h9, h10, h11, h12, h13, h14, h15⟩
    exact ⟨h1, h2, h3, h4, h5, h6, h7, h8, h9, h10, h11, h12, h13, h14, h15⟩
  · rintro ⟨h1, h2, h3, h4, h5, h6, h7, h8, h9, h10, h11, h12, h13, h14, h15⟩
    exact ⟨h1, h2, h3, h4, h5, h6, h7, h8, h9, h10, h11, h12, h13, h14, h15⟩

theorem ofBuffer_eq (text : Text) : (SdpParser.ofBuffer text).decodeSdp = stackOf (linesOf text) := by
  show decodeLoop text {} = _
  rw [decodeLoop_eq, foldl_classify]

theorem decodeSdpBuffer_eq (first : Option Text) (calls : List (Option Text)) (text : Text) :
    ((SdpParser.after first calls).decodeSdpBuffer text).1 =
      stackOf (repeated (decodes first calls + 1) (linesOf (first.getD []))) := by
  rw [after_eq, SdpParser.decodeSdpBuffer, SdpParser.decode]
  dsimp only
  rw [decodeLoop_eq, ← foldl_classify, ← List.foldl_append, repeated_append, foldl_classify]

/-- **`decode_sdp` decodes what it is given exactly when that agrees with the text the object was
built with**, where this counts as often as it was decoded. -/
theorem decodes_given_iff (first : Option Text) (calls : List (Option Text)) (text : Text) :
    ((SdpParser.after first calls).decodeSdpBuffer text).1 =
        (SdpParser.ofBuffer text).decodeSdp ↔
      Agree (decodes first calls + 1) (linesOf (first.getD [])) (linesOf text) := by
  rw [decodeSdpBuffer_eq, ofBuffer_eq, stackOf_repeated_eq_iff]

/-- An attribute that is decoded again is listed twice. -/
theorem attribute_listed_twice : ¬ ∀ (first : Option Text) (calls : List (Option Text))
    (text : Text), ((SdpParser.after first calls).decodeSdpBuffer text).1 =
      (SdpParser.ofBuffer text).decodeSdp := by
  intro h
  have hlines : linesOf ['a', '=', 'x'] = [['a', '=', 'x']] := linesOf_last (by decide)
  have hsame := congrArg SdpStack.attribute_list (h (some ['a', '=', 'x']) [] ['a', '=', 'x'])
  rw [decodeSdpBuffer_eq, ofBuffer_eq, stackOf_repeated, Option.getD_some, hlines] at hsame
  have hlength := congrArg List.length hsame
  dsimp only at hlength
  rw [length_repeated] at hlength
  exact absurd hlength (by decide)

/-! ## The caller's buffer -/

/-- The size that `encode_sdp` reports when it is asked for it is one with which a second call
writes the whole text, the terminator behind it. -/
def TwoCalls (sdp_stack : SdpStack) : Prop :=
  ∀ asked, encodeSdp sdp_stack 0 = some asked →
    ∃ r, encodeSdp sdp_stack asked.buffer_size = some r ∧
      r.sdp_buffer = some sdp_stack.encodeText

/-- The call does not abort, what it writes is the whole text, and with the terminator that is not
more than `buffer_size` characters; or it writes nothing and reports the size. -/
def KeepsToBuffer (sdp_stack : SdpStack) (buffer_size : Int) : Prop :=
  ∃ r, encodeSdp sdp_stack buffer_size = some r ∧
    match r.sdp_buffer with
    | some t => t = sdp_stack.encodeText ∧ t.length + 1 ≤ buffer_size
    | none => r.buffer_size = sdp_stack.encodeText.length

theorem cText_eq_self_iff {t : Text} : cText t = t ↔ '\x00' ∉ t := takeWhile_ne_eq_self_iff

theorem tcscpy_s_eq_some {n : Nat} {source t : Text} :
    tcscpy_s n source = some t ↔ (cText source).length < n ∧ cText source = t := by
  rw [tcscpy_s]
  split
  next h => simp [h]
  next h => simp [h]

theorem encodeText_ne_nil (s : SdpStack) : s.encodeText ≠ [] := by
  simp [SdpStack.encodeText]

theorem encodeSdp_eq_some {s : SdpStack} {buffer_size : Int} {r : EncodeResult}
    (h0 : buffer_size ≠ 0) : encodeSdp s buffer_size = some r ↔
      (cText s.encodeText).length < buffer_size % 2 ^ 32 ∧
        r = ⟨s.encodeText.length, buffer_size, some (cText s.encodeText)⟩ := by
  have hpos : 0 ≤ buffer_size % 2 ^ 32 := Int.emod_nonneg _ (by decide)
  simp only [encodeSdp]
  rw [if_neg h0, Option.map_eq_some_iff]
  constructor
  · rintro ⟨t, ht, rfl⟩
    obtain ⟨hlt, rfl⟩ := tcscpy_s_eq_some.mp ht
    exact ⟨by omega, rfl⟩
  · rintro ⟨hlt, rfl⟩
    exact ⟨_, tcscpy_s_eq_some.mpr ⟨by omega, rfl⟩, rfl⟩

/-- **The reported size has no room for the terminator**, so the second call aborts, or stops at a
zero character before the end. -/
theorem not_twoCalls (s : SdpStack) : ¬ TwoCalls s := by
  intro h
  have hlen : s.encodeText.length ≠ 0 := mt List.length_eq_zero_iff.mp (encodeText_ne_nil s)
  obtain ⟨r, hr, hwhole⟩ := h ⟨s.encodeText.length, s.encodeText.length, none⟩ rfl
  obtain ⟨hlt, rfl⟩ := (encodeSdp_eq_some (by dsimp only; omega)).mp hr
  dsimp only at hlt hwhole
  rw [Option.some.inj hwhole] at hlt
  omega

/-- **A call keeps to the buffer exactly when it asks for the size, or the text is shorter than the
buffer and has no zero character.** -/
theorem keepsToBuffer_iff (s : SdpStack) (buffer_size : Int32) :
    KeepsToBuffer s buffer_size.toInt ↔
      buffer_size = 0 ∨ (s.encodeText.length < buffer_size.toInt ∧ '\x00' ∉ s.encodeText) := by
  have hlow := Int32.le_toInt buffer_size
  have hhigh := Int32.toInt_lt buffer_size
  have hzero : buffer_size = 0 ↔ buffer_size.toInt = 0 := Int32.toInt_inj.symm
  rw [hzero]
  by_cases h0 : buffer_size.toInt = 0
  · rw [h0]
    exact iff_of_true ⟨_, rfl, rfl⟩ (Or.inl rfl)
  · rw [or_iff_right h0, ← cText_eq_self_iff]
    constructor
    · rintro ⟨r, hr, hkept⟩
      obtain ⟨hlt, rfl⟩ := (encodeSdp_eq_some h0).mp hr
      obtain ⟨hwhole, hroom⟩ := hkept
      rw [hwhole] at hroom
      exact ⟨by omega, hwhole⟩
    · rintro ⟨hroom, hwhole⟩
      refine ⟨_, (encodeSdp_eq_some h0).mpr ⟨?_, rfl⟩, hwhole, ?_⟩
      · rw [hwhole]
        omega
      · rw [hwhole]
        omega

/-- **The two calls never work, and one call keeps to the buffer exactly when the text has room in
it.** -/
theorem encode_calls (sdp_stack : SdpStack) :
    ¬ TwoCalls sdp_stack ∧ ∀ buffer_size : Int32,
      (KeepsToBuffer sdp_stack buffer_size.toInt ↔
        buffer_size = 0 ∨
          (sdp_stack.encodeText.length < buffer_size.toInt ∧ '\x00' ∉ sdp_stack.encodeText)) :=
  ⟨not_twoCalls sdp_stack, keepsToBuffer_iff sdp_stack⟩

/-- The text of an empty stack has two characters, and the call with that size aborts. -/
theorem reported_size_aborts : encodeSdp {} 0 = some ⟨2, 2, none⟩ ∧ encodeSdp {} 2 = none ∧
    ¬ ∀ s : SdpStack, TwoCalls s ∧ ∀ buffer_size : Int32, KeepsToBuffer s buffer_size.toInt := by
  have haborts : encodeSdp {} 2 = none := by decide
  refine ⟨by decide, haborts, fun h => ?_⟩
  obtain ⟨r, hr, -⟩ := (h {}).1 ⟨2, 2, none⟩ (by decide)
  cases haborts.symm.trans hr

end GB28181.Lib
