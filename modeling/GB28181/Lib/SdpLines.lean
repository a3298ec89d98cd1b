import GB28181.Lib.SdpParser
import Mathlib.Data.List.TakeWhile

/-!
# Lines and tokens of a session description

The decoder on the texts the encoder writes.

* `tokenLoop_intercalate` — the loop over the tokens of a line hands its `switch` the fields the
  line was written from;
* `getOwner_fields`, … — so an info is read back from its fields, a media info with its format
  list cut at the first blank (`getMedia_fields`);
* `decodeLoop_joinLines` — the loop over the lines hands `Classify` the lines the text was written
  from.
-/

set_option autoImplicit false

namespace GB28181.Lib

open GB28181.Base

/-! ## Tokens -/

section Tokens

variable {σ : Type} {c : Char} {set : Nat → Text → σ → σ}

theorem getStringByToken_cons {v : Text} (hc : c ∉ v) (rest : Text) :
    getStringByToken (v ++ c :: rest) [c] = (v, rest) := by
  rw [getStringByToken, breakOn_singleton hc]

theorem getStringByToken_last {v : Text} (hc : c ∉ v) : getStringByToken v [c] = (v, []) := by
  have hb : breakOn [c] v = none :=
    breakOn_eq_none_iff.mpr (by simpa [List.singleton_infix_iff] using hc)
  rw [getStringByToken, hb]

/-- The first token of a line is what stands before the first separator. -/
theorem getStringByToken_fst (v : Text) : (getStringByToken v [c]).1 = v.takeWhile (· ≠ c) := by
  by_cases hc : c ∈ v
  · obtain ⟨l, r, rfl, hl⟩ := List.eq_append_cons_of_mem hc
    rw [getStringByToken_cons hl, takeWhile_ne_append_cons hl]
  · rw [getStringByToken_last hc, takeWhile_ne_eq_self_iff.mpr hc]

theorem tokenLoop_nil (i : Nat) (info : σ) : tokenLoop [c] set i [] info = info := by
  rw [tokenLoop, dif_pos (by rw [getStringByToken_last (by simp)])]

theorem tokenLoop_cons {v : Text} (hv : v ≠ []) (hc : c ∉ v) (rest : Text) (i : Nat) (info : σ) :
    tokenLoop [c] set i (v ++ c :: rest) info = tokenLoop [c] set (i + 1) rest (set i v info) := by
  rw [tokenLoop, getStringByToken_cons hc, dif_neg hv]

theorem tokenLoop_last {v : Text} (hv : v ≠ []) (hc : c ∉ v) (i : Nat) (info : σ) :
    tokenLoop [c] set i v info = set i v info := by
  rw [tokenLoop, getStringByToken_last hc, dif_neg hv, tokenLoop_nil]

theorem tokenLoop_ignored {strToken : Text} {i : Nat} (h : ∀ j, i ≤ j → ∀ v x, set j v x = x)
    (line : Text) (info : σ) : tokenLoop strToken set i line info = info := by
  fun_induction tokenLoop strToken set i line info with
  | case1 => rfl
  | case2 i line info _ ih =>
    rw [ih (fun j hj => h j (by omega)), h i (Nat.le_refl i)]

/-- **The tokens of a line are the fields it was written from.** -/
theorem tokenLoop_intercalate : ∀ {fields : List Text} (i : Nat) (info : σ), [] ∉ fields →
    (∀ f ∈ fields, c ∉ f) →
    tokenLoop [c] set i ([c].intercalate fields) info =
      (fields.zipIdx i).foldl (fun info p => set p.2 p.1 info) info
  | [], i, info, _, _ => tokenLoop_nil i info
  | [f], i, info, hne, hc => by
    rw [List.intercalate_singleton, tokenLoop_last (fun e => hne (by simp [e])) (hc f (by simp))]
    rfl
  | f :: g :: fields, i, info, hne, hc => by
    rw [List.intercalate_cons_cons, List.append_assoc, List.singleton_append,
      tokenLoop_cons (fun e => hne (by simp [e])) (hc f (by simp)),
      tokenLoop_intercalate (i + 1) _ (fun h => hne (List.mem_cons_of_mem f h))
        (fun x hx => hc x (List.mem_cons_of_mem f hx))]
    rfl

/-- What the `switch` keeps, the loop keeps; it sees parts of the line only. -/
theorem tokenLoop_invariant {P : σ → Prop} {t strToken : Text}
    (hset : ∀ i v x, v ⊆ t → P x → P (set i v x)) (i : Nat) (line : Text) (info : σ)
    (hline : line ⊆ t) (h : P info) : P (tokenLoop strToken set i line info) := by
  fun_induction tokenLoop strToken set i line info with
  | case1 => exact h
  | case2 i line info _ ih =>
    have hparts : (getStringByToken line strToken).1 ⊆ line ∧
        (getStringByToken line strToken).2 ⊆ line := by
      unfold getStringByToken
      cases hb : breakOn strToken line with
      | none => exact ⟨List.Subset.refl line, List.nil_subset line⟩
      | some p =>
        rw [breakOn_eq_some hb]
        exact ⟨by simp [List.append_assoc], by simp⟩
    exact ih (List.Subset.trans hparts.2 hline)
      (hset i _ info (List.Subset.trans hparts.1 hline) h)

end Tokens

/-! ## Infos -/

theorem getOwner_fields {i : OwnerInfo} (hne : [] ∉ i.fields) (hc : ∀ f ∈ i.fields, blank ∉ f) :
    getOwner ([blank].intercalate i.fields) = i := by
  rw [getOwner, tokenLoop_intercalate 0 _ hne hc]
  rfl

theorem getConnect_fields {i : ConnectInfo} (hne : [] ∉ i.fields)
    (hc : ∀ f ∈ i.fields, blank ∉ f) : getConnect ([blank].intercalate i.fields) = i := by
  rw [getConnect, tokenLoop_intercalate 0 _ hne hc]
  rfl

theorem getBandWidth_fields {i : BandwidthInfo} (hne : [] ∉ i.fields)
    (hc : ∀ f ∈ i.fields, colon ∉ f) : getBandWidth ([colon].intercalate i.fields) = i := by
  rw [getBandWidth, tokenLoop_intercalate 0 _ hne hc]
  rfl

theorem getActiveTime_fields {i : ActiveTime} (hne : [] ∉ i.fields)
    (hc : ∀ f ∈ i.fields, blank ∉ f) : getActiveTime ([blank].intercalate i.fields) = i := by
  rw [getActiveTime, tokenLoop_intercalate 0 _ hne hc]
  rfl

theorem getRepeatTime_fields {i : RepeatTime} (hne : [] ∉ i.fields)
    (hc : ∀ f ∈ i.fields, blank ∉ f) : getRepeatTime ([blank].intercalate i.fields) = i := by
  rw [getRepeatTime, tokenLoop_intercalate 0 _ hne hc]
  rfl

theorem getSessionAttribute_fields {i : SessionAttribute} (hne : [] ∉ i.fields)
    (hc : ∀ f ∈ i.fields, colon ∉ f) :
    getSessionAttribute ([colon].intercalate i.fields) = i := by
  rw [getSessionAttribute, tokenLoop_intercalate 0 _ hne hc]
  rfl

theorem getEncryptionKey_fields {i : EncryptionKey} (hne : [] ∉ i.fields)
    (hc : ∀ f ∈ i.fields, colon ∉ f) : getEncryptionKey ([colon].intercalate i.fields) = i := by
  rw [getEncryptionKey, tokenLoop_intercalate 0 _ hne hc]
  rfl

theorem getEncryptionKey_method {i : EncryptionKey} (hm : i.method ≠ []) (hc : colon ∉ i.method)
    (hk : i.key = []) : getEncryptionKey i.method = i := by
  rw [getEncryptionKey, tokenLoop_last hm hc]
  show ({ method := i.method, key := [] } : EncryptionKey) = i
  rw [← hk]

/-- The media info a line gives back: the format list goes through the `switch` for one token. -/
def MediaInfo.cut (i : MediaInfo) : MediaInfo :=
  { i with fmtlist := i.fmtlist.takeWhile (· ≠ blank) }

theorem getMedia_fields {i : MediaInfo} (hne : [] ∉ i.fields) (hmedia : blank ∉ i.media)
    (hport : blank ∉ i.port) (htransport : blank ∉ i.transport) :
    getMedia ([blank].intercalate i.fields) = i.cut := by
  obtain ⟨media, port, transport, fmtlist⟩ := i
  simp only [MediaInfo.fields, List.mem_cons, List.not_mem_nil, or_false, not_or] at hne
  obtain ⟨hne0, hne1, hne2, -⟩ := hne
  have hline : [blank].intercalate [media, port, transport, fmtlist] =
      media ++ blank :: (port ++ blank :: (transport ++ blank :: fmtlist)) := by
    simp [List.intercalate_cons_cons, List.intercalate_singleton]
  rw [MediaInfo.fields, hline, getMedia, tokenLoop_cons (Ne.symm hne0) hmedia,
    tokenLoop_cons (Ne.symm hne1) hport, tokenLoop_cons (Ne.symm hne2) htransport, tokenLoop]
  rw [getStringByToken_fst]
  split
  · rename_i hnil
    rw [MediaInfo.cut, hnil]
    rfl
  · exact tokenLoop_ignored (fun j hj v x => by
      rcases j with _ | _ | _ | _ | j
      · omega
      · omega
      · omega
      · omega
      · rfl) _ _

/-- The text of a list of adjustments without its line end. -/
def adjustmentLine : List AdjustmentTime → Text
  | [] => []
  | [time] => time.encode
  | time :: times => time.encode ++ blank :: adjustmentLine times

theorem encodeAdjustments_eq : ∀ {times : List AdjustmentTime}, times ≠ [] →
    encodeAdjustments times = adjustmentLine times ++ enter
  | [], h => absurd rfl h
  | [time], _ => rfl
  | time :: time' :: times, _ => by
    have hrest := encodeAdjustments_eq (List.cons_ne_nil time' times)
    show time.encode ++ blank :: encodeAdjustments (time' :: times) =
      time.encode ++ blank :: adjustmentLine (time' :: times) ++ enter
    rw [hrest, List.append_assoc, List.cons_append]

/-- An adjustment with both its fields, neither with a blank. -/
def AdjustmentTime.Complete (i : AdjustmentTime) : Prop :=
  (i.time ≠ [] ∧ i.offset ≠ []) ∧ blank ∉ i.time ∧ blank ∉ i.offset

instance (i : AdjustmentTime) : Decidable i.Complete := inferInstanceAs (Decidable (_ ∧ _))

theorem tokenLoop_adjustmentLine : ∀ {times : List AdjustmentTime} (k : Nat)
    (p : AdjustmentTime × List AdjustmentTime), (∀ t ∈ times, t.Complete) →
    (tokenLoop [blank] setAdjustmentTime (2 * k) (adjustmentLine times) p).2 = p.2 ++ times
  | [], k, p, _ => by rw [adjustmentLine, tokenLoop_nil, List.append_nil]
  | [t], k, p, h => by
    obtain ⟨⟨ht, ho⟩, htb, hob⟩ := h t (by simp)
    rw [adjustmentLine, AdjustmentTime.encode, if_neg (by simp [ht, ho]), tokenLoop_cons ht htb,
      tokenLoop_last ho hob]
    simp [setAdjustmentTime, Nat.add_mod]
  | t :: t' :: times, k, p, h => by
    obtain ⟨⟨ht, ho⟩, htb, hob⟩ := h t (by simp)
    have hline : adjustmentLine (t :: t' :: times) =
        t.time ++ blank :: (t.offset ++ blank :: adjustmentLine (t' :: times)) := by
      simp [adjustmentLine, AdjustmentTime.encode, ht, ho]
    rw [hline, tokenLoop_cons ht htb, tokenLoop_cons ho hob,
      show 2 * k + 1 + 1 = 2 * (k + 1) by omega,
      tokenLoop_adjustmentLine (k + 1) _ (fun x hx => h x (List.mem_cons_of_mem t hx))]
    simp [setAdjustmentTime, Nat.add_mod]

theorem getAdjustmentTime_line {times : List AdjustmentTime} (h : ∀ t ∈ times, t.Complete) :
    getAdjustmentTime (adjustmentLine times) = times :=
  tokenLoop_adjustmentLine 0 _ h

/-! ## Lines -/

/-- Neither a character of the line end nor the terminator. -/
def Plain (c : Char) : Prop := c ∉ enter ∧ c ≠ '\x00'

instance (c : Char) : Decidable (Plain c) := inferInstanceAs (Decidable (_ ∧ _))

/-- A property of texts that they keep when they are put together with plain characters between
them, as the lines of a session description are. -/
structure Joinable (P : Text → Prop) : Prop where
  nil : P []
  join : ∀ {l r : Text} {c : Char}, P l → P r → Plain c → P (l ++ c :: r)

namespace Joinable

variable {P : Text → Prop}

theorem cons (hP : Joinable P) {r : Text} {c : Char} (hr : P r) (hc : Plain c) : P (c :: r) :=
  hP.join (l := []) hP.nil hr hc

theorem intercalate (hP : Joinable P) {c : Char} (hc : Plain c) : ∀ {fields : List Text},
    (∀ f ∈ fields, P f) → P ([c].intercalate fields)
  | [], _ => hP.nil
  | [f], h => by rw [List.intercalate_singleton]; exact h f (by simp)
  | f :: g :: fields, h => by
    rw [List.intercalate_cons_cons, List.append_assoc, List.singleton_append]
    exact hP.join (h f (by simp))
      (hP.intercalate hc fun x hx => h x (List.mem_cons_of_mem f hx)) hc

theorem lineOf (hP : Joinable P) {t separator : Char} {fields : List Text} (ht : Plain t)
    (hsep : Plain separator) (h : ∀ f ∈ fields, P f) : ∀ l ∈ lineOf t separator fields, P l := by
  intro l hl
  unfold Lib.lineOf at hl
  split at hl
  · cases hl
  · obtain rfl := List.mem_singleton.mp hl
    exact hP.cons (hP.cons (hP.intercalate hsep h) (by decide)) ht

end Joinable

def NoEnter (t : Text) : Prop := ¬ enter <:+: t

instance (t : Text) : Decidable (NoEnter t) := inferInstanceAs (Decidable (¬ enter <:+: t))

theorem noEnter_nil : NoEnter [] := by
  intro h
  have := h.length_le
  simp [enter] at this

theorem noEnter_joinable : Joinable NoEnter where
  nil := noEnter_nil
  join hl hr hc := not_infix_append_cons (List.cons_ne_nil _ _) hc.1 hr hl

def NoNul (t : Text) : Prop := '\x00' ∉ t

instance (t : Text) : Decidable (NoNul t) := inferInstanceAs (Decidable (¬ _))

theorem noNul_joinable : Joinable NoNul where
  nil := by simp [NoNul]
  join hl hr hc := by simp_all [NoNul, Plain, eq_comm]

theorem NoEnter.dropLast {t : Text} (h : NoEnter t) : ¬ enter <:+: t ++ enter.dropLast := by
  rintro ⟨l, r, he⟩
  rcases List.eq_nil_or_concat r with rfl | ⟨r, x, rfl⟩
  · have hlast := congrArg List.getLast? he
    simp [enter] at hlast
  · have he' : (l ++ enter ++ r) ++ [x] = t ++ ['\r'] := by simpa [enter] using he
    exact h ⟨l, r, (List.append_inj' he' rfl).1⟩

/-- A line of the text is classified, and the loop goes on behind its line end. -/
theorem decodeLoop_line {line : Text} (h : NoEnter line) (rest : Text) (s : SdpStack) :
    decodeLoop (line ++ enter ++ rest) s = decodeLoop rest (classify s line) := by
  have hne : enter ≠ [] := List.cons_ne_nil _ _
  have hb := breakOn_append (r := rest) hne h.dropLast
  rw [decodeLoop]
  split
  · rename_i strLine strTail hb'
    obtain ⟨rfl, rfl⟩ := Prod.mk.inj (Option.some.inj (hb'.symm.trans hb))
    rfl
  · rename_i hb'
    rw [hb] at hb'
    cases hb'

theorem decodeLoop_last {line : Text} (h : NoEnter line) (s : SdpStack) :
    decodeLoop line s = classify s line := by
  rw [decodeLoop]
  have hb : breakOn enter line = none := breakOn_eq_none_iff.mpr h
  split
  · rename_i hb'
    rw [hb] at hb'
    cases hb'
  · rfl

/-- **The lines of a text are those it was written from.** -/
theorem decodeLoop_joinLines {lines : List Text} (h : ∀ l ∈ lines, NoEnter l) (rest : Text)
    (s : SdpStack) :
    decodeLoop (joinLines lines ++ rest) s = decodeLoop rest (lines.foldl classify s) := by
  induction lines generalizing s with
  | nil => rfl
  | cons line lines ih =>
    have hjoin : joinLines (line :: lines) ++ rest =
        line ++ enter ++ (joinLines lines ++ rest) := by
      simp [joinLines]
    rw [hjoin, decodeLoop_line (h line List.mem_cons_self),
      ih fun l hl => h l (List.mem_cons_of_mem line hl)]
    rfl

theorem classify_line {t : Char} (ht : t ≠ '=') (text : Text) (s : SdpStack) :
    classify s (t :: '=' :: text) = classifyType (some t) text s := by
  have hb : breakOn ['='] ([t] ++ '=' :: text) = some ([t], text) :=
    breakOn_singleton (by simpa using Ne.symm ht)
  rw [classify]
  simp only [List.singleton_append] at hb
  rw [hb]
  rfl

theorem classify_nil (s : SdpStack) : classify s [] = s := rfl

/-- An info with an empty field has no line; the line of any other is classified by its type. -/
theorem foldl_lineOf {t : Char} (ht : t ≠ '=') (separator : Char) (fields : List Text)
    (s : SdpStack) :
    (lineOf t separator fields).foldl classify s =
      if [] ∈ fields then s else classifyType (some t) ([separator].intercalate fields) s := by
  unfold lineOf
  split
  · rfl
  · simp [classify_line ht]

end GB28181.Lib
