import Mathlib.Data.List.DropRight
import Mathlib.Data.List.Infix
import GB28181.Base.CString

/-!
# Reading XML

A reader of XML documents without a document type.  It goes over the bytes of a document once and
reports the pieces of it in order: tags, character data with the references replaced, CDATA
sections, comments, processing instructions.  A byte from 0x80 on stands for a character of the
document's encoding; a character reference is read below 128 only.

* `unescape`, `charData` — character data as a reader reports it;
* `interpret` — what stands between `<` and `>`;
* `Reader.step`, `read` — the pieces of a document, if it is well-formed;
* `charData_eq_self_iff` — data is reported as it stands **exactly when it needs no escape**;
* `scan_append`, `scan_data`, `scan_markup` — how the reader goes over a part of a document.
-/

set_option autoImplicit false

namespace GB28181.Base.Xml

/-! ## Characters -/

/-- The bytes that may stand in a document. -/
def isChar (c : UInt8) : Bool := 0x20 ≤ c || c == 0x09 || c == 0x0a || c == 0x0d

def isBlank (c : UInt8) : Bool := c == 0x20 || c == 0x09 || c == 0x0a || c == 0x0d

def isNameStart (c : UInt8) : Bool :=
  (0x41 ≤ c && c ≤ 0x5a) || (0x61 ≤ c && c ≤ 0x7a) || c == 0x5f || c == 0x3a || 0x80 ≤ c

def isNameChar (c : UInt8) : Bool := isNameStart c || isDigit c || c == 0x2d || c == 0x2e

def isName (s : CStr) : Bool := s.head?.any isNameStart && s.all isNameChar

/-- Line ends are passed on as line feeds. -/
def lineEnds : CStr → CStr
  | [] => []
  | c :: s =>
    if c = 0x0d then
      if s.head? = some 0x0a then lineEnds s else 0x0a :: lineEnds s
    else c :: lineEnds s

/-! ## References -/

def hexValue (c : UInt8) : Option Nat :=
  if isDigit c then some (c.toNat - 0x30)
  else if 0x61 ≤ toLower c && toLower c ≤ 0x66 then some ((toLower c).toNat - 0x61 + 10)
  else none

def charRef (n : Nat) : Option CStr :=
  if n < 128 ∧ isChar (UInt8.ofNat n) = true then some [UInt8.ofNat n] else none

/-- The character a reference stands for: what is between `&` and `;`. -/
def reference (name : CStr) : Option CStr :=
  if name = str "lt" then some [0x3c]
  else if name = str "gt" then some [0x3e]
  else if name = str "amp" then some [0x26]
  else if name = str "quot" then some [0x22]
  else if name = str "apos" then some [0x27]
  else
    match name with
    | 0x23 :: 0x78 :: ds =>
      if ds.isEmpty then none
      else (ds.mapM hexValue).bind fun vs => charRef (vs.foldl (fun n v => 16 * n + v) 0)
    | 0x23 :: ds => if ds.isEmpty || !ds.all isDigit then none else charRef (digitsValue ds)
    | _ => none

/-- The text so far, and the reference that is being read. -/
abbrev Unescaping := CStr × Option CStr

def unescapeStep : Unescaping → UInt8 → Option Unescaping
  | (out, none), c => if c = 0x26 then some (out, some []) else some (out ++ [c], none)
  | (out, some name), c =>
    if c = 0x3b then (reference name).map fun r => (out ++ r, none)
    else some (out, some (name ++ [c]))

/-- The text with its references replaced. -/
def unescape (raw : CStr) : Option CStr :=
  match raw.foldlM unescapeStep ([], none) with
  | some (out, none) => some out
  | _ => none

/-- The character data that a reader reports. -/
def charData (raw : CStr) : Option CStr :=
  if str "]]>" <:+: raw then none else unescape (lineEnds raw)

/-! ## Markup -/

inductive Token where
  | text (data : CStr)
  | start (name : CStr) (attributes : List (CStr × CStr))
  | stop (name : CStr)
  | cdata (data : CStr)
  | comment (data : CStr)
  | instruction (data : CStr)
  deriving DecidableEq

/-- Where the reader is among the attributes of a tag: between two, in a name, behind a name,
behind the `=`, in a value. -/
inductive AttributeState where
  | gap (blank : Bool)
  | name (name : CStr)
  | named (name : CStr)
  | equals (name : CStr)
  | value (name : CStr) (quote : UInt8) (raw : CStr)

def attributeStep (s : List (CStr × CStr) × AttributeState) (c : UInt8) :
    Option (List (CStr × CStr) × AttributeState) :=
  match s with
  | (as, .gap blank) =>
    if isBlank c then some (as, .gap true)
    else if blank && isNameStart c then some (as, .name [c])
    else none
  | (as, .name n) =>
    if c = 0x3d then some (as, .equals n)
    else if isBlank c then some (as, .named n)
    else if isNameChar c then some (as, .name (n ++ [c]))
    else none
  | (as, .named n) =>
    if c = 0x3d then some (as, .equals n) else if isBlank c then some (as, .named n) else none
  | (as, .equals n) =>
    if c = 0x22 ∨ c = 0x27 then some (as, .value n c [])
    else if isBlank c then some (as, .equals n)
    else none
  | (as, .value n quote raw) =>
    if c = quote then (unescape raw).map fun v => (as ++ [(n, v)], .gap false)
    else if c = 0x3c then none
    else some (as, .value n quote (raw ++ [if isBlank c then 0x20 else c]))

/-- The attributes of a tag, no name twice. -/
def parseAttributes (s : CStr) : Option (List (CStr × CStr)) :=
  match s.foldlM attributeStep ([], .gap false) with
  | some (as, .gap _) => if (as.map Prod.fst).Nodup then some as else none
  | _ => none

def trimEnd (s : CStr) : CStr := s.rdropWhile isBlank

/-- A start tag, or an element without content. -/
def interpretTag (m : CStr) : Option (List Token) :=
  let empty := m.getLast? == some 0x2f
  let tag := if empty then m.dropLast else m
  let name := tag.takeWhile fun c => !isBlank c
  if isName name then
    (parseAttributes (tag.drop name.length)).map fun as =>
      .start name as :: if empty then [.stop name] else []
  else none

/-- What stands between `<` and `>`. -/
def interpret (m : CStr) : Option (List Token) :=
  if str "!--" <+: m then
    let body := (m.drop 3).dropLast.dropLast
    if str "--" <:+: body ∨ body.getLast? = some 0x2d then none else some [.comment body]
  else if str "![CDATA[" <+: m then some [.cdata ((m.drop 8).dropLast.dropLast)]
  else if str "?" <+: m then
    let body := m.tail.dropLast
    if isName (body.takeWhile fun c => !isBlank c) then some [.instruction body] else none
  else if str "/" <+: m then
    if isName (trimEnd m.tail) then some [.stop (trimEnd m.tail)] else none
  else interpretTag m

def quoteStep (quote : Option UInt8) (c : UInt8) : Option UInt8 :=
  match quote with
  | none => if c = 0x22 ∨ c = 0x27 then some c else none
  | some q => if c = q then none else some q

/-- The quotation mark that is open at the end of a text. -/
def openQuote (m : CStr) : Option UInt8 := m.foldl quoteStep none

/-- A `>` closes the markup read so far. -/
def closes (m : CStr) : Bool :=
  if str "!--" <+: m then str "--" <:+ m && 5 ≤ m.length
  else if str "![CDATA[" <+: m then str "]]" <:+ m && 10 ≤ m.length
  else if str "?" <+: m then str "?" <:+ m && 2 ≤ m.length
  else openQuote m == none

/-! ## Documents -/

/-- What was reported, the character data since the last markup, the markup that is being read. -/
structure Reader where
  tokens : List Token
  data : CStr
  markup : Option CStr

def textToken (data : CStr) : List Token := if data = [] then [] else [.text data]

/-- The character data and then the markup are reported. -/
def Reader.emit (r : Reader) (m : CStr) : Option Reader := do
  let data ← charData r.data
  let markup ← interpret m
  some { tokens := r.tokens ++ textToken data ++ markup, data := [], markup := none }

def Reader.step (r : Reader) (c : UInt8) : Option Reader :=
  match r.markup with
  | none =>
    if c = 0x3c then some { r with markup := some [] } else some { r with data := r.data ++ [c] }
  | some m =>
    if c = 0x3e ∧ closes m = true then r.emit m else some { r with markup := some (m ++ [c]) }

def scan (r : Reader) (s : CStr) : Option Reader := s.foldlM Reader.step r

/-- The elements that are open, and whether there was one. -/
abbrev Nesting := List CStr × Bool

def nest : Nesting → Token → Option Nesting
  | (stack, seen), .start n _ => if stack.isEmpty && seen then none else some (n :: stack, true)
  | (m :: stack, seen), .stop n => if m = n then some (stack, seen) else none
  | ([], _), .stop _ => none
  | (stack, seen), .text data =>
    if stack.isEmpty && !data.all isBlank then none else some (stack, seen)
  | (stack, seen), .cdata _ => if stack.isEmpty then none else some (stack, seen)
  | n, .comment _ => some n
  | n, .instruction _ => some n

/-- Tags are closed in order, and everything is in one element. -/
def nested (tokens : List Token) : Bool :=
  match tokens.foldlM nest ([], false) with
  | some ([], true) => true
  | _ => false

def isDeclaration : Token → Bool
  | .instruction data => data.takeWhile (fun c => !isBlank c) == str "xml"
  | _ => false

/-- A declaration begins with the version. -/
def declares : Token → Bool
  | .instruction data =>
    match parseAttributes (data.drop 3) with
    | some (a :: _) => a.1 == str "version"
    | _ => false
  | _ => false

/-- A declaration stands at the very beginning. -/
def declared (tokens : List Token) : Bool :=
  match tokens with
  | t :: rest => (!isDeclaration t || declares t) && !rest.any isDeclaration
  | [] => true

/-- The pieces of a document, if it is well-formed. -/
def read (s : CStr) : Option (List Token) :=
  if s.all isChar then
    (scan { tokens := [], data := [], markup := none } s).bind fun r =>
      if r.markup.isNone && r.data.all isBlank && nested r.tokens && declared r.tokens then
        some r.tokens
      else none
  else none

example : read (str "<?xml version=\"1.0\"?><a b='1'>x &lt; y<c/></a>\n") =
    some [.instruction (str "xml version=\"1.0\""), .start (str "a") [(str "b", str "1")],
      .text (str "x < y"), .start (str "c") [], .stop (str "c"), .stop (str "a")] := by decide

/-! ## Character data -/

/-- The text stands for itself where data is expected. -/
structure Literal (v : CStr) : Prop where
  noMarkup : 0x3c ∉ v
  noReference : 0x26 ∉ v
  noReturn : 0x0d ∉ v
  noEnd : ¬ str "]]>" <:+: v

theorem lineEnds_eq_self {s : CStr} (h : 0x0d ∉ s) : lineEnds s = s := by
  induction s with
  | nil => rfl
  | cons c s ih =>
    rw [List.mem_cons, not_or] at h
    rw [lineEnds, if_neg (Ne.symm h.1), ih h.2]

theorem lineEnds_length_le (s : CStr) : (lineEnds s).length ≤ s.length := by
  induction s with
  | nil => exact le_refl _
  | cons c s ih =>
    rw [lineEnds]
    split_ifs
    · exact Nat.le_succ_of_le ih
    · exact Nat.succ_le_succ ih
    · exact Nat.succ_le_succ ih

theorem not_mem_lineEnds (s : CStr) : 0x0d ∉ lineEnds s := by
  induction s with
  | nil => exact List.not_mem_nil
  | cons c s ih =>
    rw [lineEnds]
    split_ifs with hc
    · exact ih
    · exact List.not_mem_cons_of_ne_of_not_mem (by decide) ih
    · exact List.not_mem_cons_of_ne_of_not_mem (Ne.symm hc) ih

theorem mem_lineEnds {s : CStr} {c : UInt8} (hc : c ≠ 0x0d) (h : c ∈ s) : c ∈ lineEnds s := by
  induction s with
  | nil => exact h
  | cons d s ih =>
    rw [lineEnds]
    rcases List.mem_cons.mp h with rfl | h
    · rw [if_neg hc]
      exact List.mem_cons_self
    · split_ifs
      · exact ih h
      · exact List.mem_cons_of_mem _ (ih h)
      · exact List.mem_cons_of_mem _ (ih h)

theorem reference_length {name r : CStr} (h : reference name = some r) : r.length = 1 := by
  have hchar : ∀ {n : Nat} {r : CStr}, charRef n = some r → r.length = 1 := by
    intro n r hr
    unfold charRef at hr
    split_ifs at hr
    cases hr
    rfl
  unfold reference at h
  split_ifs at h
  all_goals try (cases h; rfl)
  split at h
  · split_ifs at h
    obtain ⟨vs, -, hvs⟩ := Option.bind_eq_some_iff.mp h
    exact hchar hvs
  · split_ifs at h
    exact hchar h
  · cases h

/-- The least number of bytes that are read by now. -/
def Unescaping.size : Unescaping → Nat
  | (out, none) => out.length
  | (out, some name) => out.length + 1 + name.length

theorem unescapeStep_size {u u' : Unescaping} {c : UInt8} (h : unescapeStep u c = some u') :
    u'.size ≤ u.size + 1 ∧ (u.2.isSome = true → u'.2 = none → u'.size < u.size + 1) := by
  obtain ⟨out, name⟩ := u
  cases name with
  | none =>
    rw [unescapeStep] at h
    split_ifs at h
    · cases h
      exact ⟨by simp [Unescaping.size], fun hno => by cases hno⟩
    · cases h
      exact ⟨by simp [Unescaping.size], fun hno => by cases hno⟩
  | some name =>
    rw [unescapeStep] at h
    split_ifs at h
    · obtain ⟨r, hr, rfl⟩ := Option.map_eq_some_iff.mp h
      have hone := reference_length hr
      simp only [Unescaping.size, List.length_append, hone]
      exact ⟨by omega, fun _ _ => by omega⟩
    · cases h
      exact ⟨by simp [Unescaping.size]; omega, fun _ hno => by cases hno⟩

theorem unescaping_size {raw : CStr} {u u' : Unescaping}
    (h : raw.foldlM unescapeStep u = some u') (hclosed : u'.2 = none) :
    u'.size ≤ u.size + raw.length ∧
      (u.2.isSome = true ∨ 0x26 ∈ raw → u'.size < u.size + raw.length) := by
  induction raw generalizing u with
  | nil =>
    cases h
    refine ⟨le_refl _, ?_⟩
    rintro (hopen | hmem)
    · rw [hclosed] at hopen
      cases hopen
    · cases hmem
  | cons c raw ih =>
    rw [List.foldlM_cons] at h
    obtain ⟨w, hw, hrest⟩ := Option.bind_eq_some_iff.mp h
    obtain ⟨hle, hlt⟩ := unescapeStep_size hw
    obtain ⟨hle', hlt'⟩ := ih hrest
    rw [List.length_cons]
    refine ⟨by omega, fun hor => ?_⟩
    by_cases hopen : w.2.isSome = true
    · have := hlt' (Or.inl hopen)
      omega
    · have hnone : w.2 = none := Option.not_isSome_iff_eq_none.mp hopen
      rcases hor with hor | hor
      · have := hlt hor hnone
        omega
      · rcases List.mem_cons.mp hor with rfl | hmem
        · obtain ⟨out, name⟩ := u
          cases name with
          | none =>
            cases hw
            cases hnone
          | some name =>
            have := hlt rfl hnone
            omega
        · have := hlt' (Or.inr hmem)
          omega

theorem unescape_length {raw t : CStr} (h : unescape raw = some t) :
    t.length ≤ raw.length ∧ (0x26 ∈ raw → t.length < raw.length) := by
  unfold unescape at h
  split at h
  case h_1 out hfold =>
    cases h
    obtain ⟨hle, hlt⟩ := unescaping_size hfold rfl
    simp only [Unescaping.size, List.length_nil, Nat.zero_add] at hle hlt
    exact ⟨hle, fun hmem => hlt (Or.inr hmem)⟩
  case h_2 => cases h

theorem unescape_eq_self {raw : CStr} (h : 0x26 ∉ raw) : unescape raw = some raw := by
  have hfold : ∀ (raw out : CStr), 0x26 ∉ raw →
      raw.foldlM unescapeStep (out, none) = some (out ++ raw, none) := by
    intro raw
    induction raw with
    | nil => exact fun out _ => by rw [List.append_nil]; rfl
    | cons c raw ih =>
      intro out hno
      rw [List.mem_cons, not_or] at hno
      rw [List.foldlM_cons, unescapeStep, if_neg (Ne.symm hno.1)]
      show raw.foldlM unescapeStep (out ++ [c], none) = _
      rw [ih _ hno.2, List.append_assoc, List.singleton_append]
  rw [unescape, hfold raw [] h]
  rfl

theorem charData_length {raw t : CStr} (h : charData raw = some t) : t.length ≤ raw.length := by
  unfold charData at h
  split_ifs at h
  exact (unescape_length h).1.trans (lineEnds_length_le raw)

/-- **Data is reported as it stands exactly when it needs no escape.** -/
theorem charData_eq_self_iff {v : CStr} :
    charData v = some v ↔ 0x26 ∉ v ∧ 0x0d ∉ v ∧ ¬ str "]]>" <:+: v := by
  constructor
  · intro h
    unfold charData at h
    split_ifs at h with hend
    have hreference : 0x26 ∉ v := fun hmem => by
      have hlt := (unescape_length h).2 (mem_lineEnds (by decide) hmem)
      exact absurd (lineEnds_length_le v) (Nat.not_le.mpr hlt)
    refine ⟨hreference, fun hmem => ?_, hend⟩
    have hkept : 0x26 ∉ lineEnds v := fun hamp => by
      have hlt := (unescape_length h).2 hamp
      exact absurd (lineEnds_length_le v) (Nat.not_le.mpr hlt)
    rw [unescape_eq_self hkept, Option.some.injEq] at h
    rw [← h] at hmem
    exact not_mem_lineEnds v hmem
  · rintro ⟨hreference, hreturn, hend⟩
    rw [charData, if_neg hend, lineEnds_eq_self hreturn, unescape_eq_self hreference]

/-! ## Going over a part of a document -/

section scanning

variable {tokens : List Token} {data m : CStr}

theorem scan_append (r : Reader) (s t : CStr) : scan r (s ++ t) = (scan r s).bind (scan · t) :=
  List.foldlM_append

theorem scan_cons (r : Reader) (c : UInt8) (s : CStr) :
    scan r (c :: s) = (r.step c).bind (scan · s) := List.foldlM_cons

theorem scan_data {t : CStr} (h : 0x3c ∉ t) :
    scan ⟨tokens, data, none⟩ t = some ⟨tokens, data ++ t, none⟩ := by
  induction t generalizing data with
  | nil => rw [List.append_nil]; rfl
  | cons c t ih =>
    rw [List.mem_cons, not_or] at h
    rw [scan_cons, Reader.step]
    simp only [if_neg (Ne.symm h.1), Option.bind_some]
    rw [ih h.2, List.append_assoc, List.singleton_append]

theorem scan_inside {p : CStr} (h : 0x3e ∉ m) :
    scan ⟨tokens, data, some p⟩ m = some ⟨tokens, data, some (p ++ m)⟩ := by
  induction m generalizing p with
  | nil => rw [List.append_nil]; rfl
  | cons c m ih =>
    rw [List.mem_cons, not_or] at h
    rw [scan_cons, Reader.step]
    simp only [Ne.symm h.1, false_and, if_false, Option.bind_some]
    rw [ih h.2, List.append_assoc, List.singleton_append]

/-- Markup that holds no `>` and is closed by one. -/
structure Closed (m : CStr) : Prop where
  noEnd : 0x3e ∉ m
  closes : closes m = true

theorem scan_markup (h : Closed m) :
    scan ⟨tokens, data, none⟩ (0x3c :: m ++ [0x3e]) = (Reader.emit ⟨tokens, data, some m⟩ m) := by
  have hopen : Reader.step ⟨tokens, data, none⟩ 0x3c = some ⟨tokens, data, some []⟩ := rfl
  rw [List.cons_append, scan_cons, hopen, Option.bind_some, scan_append, scan_inside h.noEnd,
    List.nil_append, Option.bind_some, scan_cons, Reader.step]
  simp only [h.closes, and_self, if_true]
  cases Reader.emit ⟨tokens, data, some m⟩ m <;> rfl

theorem emit_tokens {r r' : Reader} (h : r.emit m = some r') : r.tokens <+: r'.tokens := by
  obtain ⟨data, -, h⟩ := Option.bind_eq_some_iff.mp h
  obtain ⟨markup, -, h⟩ := Option.bind_eq_some_iff.mp h
  cases h
  rw [List.append_assoc]
  exact List.prefix_append _ _

theorem scan_tokens {s : CStr} {r r' : Reader} (h : scan r s = some r') :
    r.tokens <+: r'.tokens := by
  induction s generalizing r with
  | nil =>
    cases h
    exact List.prefix_refl _
  | cons c s ih =>
    rw [scan_cons] at h
    obtain ⟨w, hw, hrest⟩ := Option.bind_eq_some_iff.mp h
    refine List.IsPrefix.trans ?_ (ih hrest)
    unfold Reader.step at hw
    split at hw
    · split_ifs at hw
      · cases hw
        exact List.prefix_refl _
      · cases hw
        exact List.prefix_refl _
    · split_ifs at hw
      · exact emit_tokens hw
      · cases hw
        exact List.prefix_refl _

theorem interpret_head {ts : List Token} (h : interpret m = some ts) :
    ∃ t rest, ts = t :: rest ∧ ∀ v, t ≠ .text v := by
  unfold interpret at h
  dsimp only at h
  split_ifs at h
  · cases h
    exact ⟨_, _, rfl, nofun⟩
  · cases h
    exact ⟨_, _, rfl, nofun⟩
  · cases h
    exact ⟨_, _, rfl, nofun⟩
  · cases h
    exact ⟨_, _, rfl, nofun⟩
  · unfold interpretTag at h
    dsimp only at h
    split_ifs at h
    all_goals
      obtain ⟨as, -, rfl⟩ := Option.map_eq_some_iff.mp h
      exact ⟨_, _, rfl, nofun⟩

theorem scan_of_open {s p : CStr} {r : Reader} (h : scan ⟨tokens, data, some p⟩ s = some r)
    (hclosed : r.markup = none) :
    ∃ m ts v, charData data = some v ∧ interpret m = some ts ∧
      tokens ++ textToken v ++ ts <+: r.tokens := by
  induction s generalizing p with
  | nil =>
    cases h
    cases hclosed
  | cons c s ih =>
    rw [scan_cons] at h
    obtain ⟨w, hw, hrest⟩ := Option.bind_eq_some_iff.mp h
    unfold Reader.step at hw
    dsimp only at hw
    split_ifs at hw
    · have hw' := hw
      obtain ⟨v, hv, hw⟩ := Option.bind_eq_some_iff.mp hw
      obtain ⟨ts, hts, hw⟩ := Option.bind_eq_some_iff.mp hw
      cases hw
      exact ⟨p, ts, v, hv, hts, scan_tokens hrest⟩
    · cases hw
      exact ih hrest

end scanning

end GB28181.Base.Xml
