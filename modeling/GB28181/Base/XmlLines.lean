import Mathlib.Algebra.GroupWithZero.Nat
import Mathlib.Data.List.TakeWhile
import GB28181.Base.Xml

/-!
# Documents written line by line

A document whose tags and texts are put together without an escape, one line each: a declaration,
then lines that open an element, close it, or hold a whole element with a text in it.

* `Line`, `document` — the lines and the bytes they make;
* `Line.tokens`, `report` — what a reader should report of them;
* `interpret_start`, `interpret_stop` — tags are read as they were written;
* `scan_line`, `reads_of_scan` — a line is reported as it was meant **exactly when its text needs
  no escape**;
* `read_document`, `clean_of_reads` — the same for a document: it is read back **when none of its
  texts needs an escape**, and none does when the data behind each start tag tells the text.
-/

set_option autoImplicit false

namespace GB28181.Base.Xml

/-! ## Names -/

section names

variable {n : CStr} {c d : UInt8}

theorem isName_all (h : isName n = true) : ∀ c ∈ n, isNameChar c = true :=
  List.all_eq_true.mp ((Bool.and_eq_true _ _).mp h).2

theorem not_mem_name (h : isName n = true) (hd : isNameChar d = false) : d ∉ n := fun hmem => by
  have hchar := isName_all h d hmem
  rw [hd] at hchar
  cases hchar

theorem isNameChar_of_isBlank (h : isBlank c = true) : isNameChar c = false := by
  simp only [isBlank, Bool.or_eq_true, beq_iff_eq] at h
  rcases h with ((rfl | rfl) | rfl) | rfl <;> rfl

theorem not_isBlank_of_mem (h : isName n = true) (hc : c ∈ n) : isBlank c = false := by
  cases hblank : isBlank c with
  | false => rfl
  | true => exact absurd hc (not_mem_name h (isNameChar_of_isBlank hblank))

theorem isName_cons (h : isName n = true) : ∃ c s, n = c :: s ∧ isNameStart c = true := by
  cases n with
  | nil => cases h
  | cons c s => exact ⟨c, s, rfl, ((Bool.and_eq_true _ _).mp h).1⟩

theorem not_prefix_name {mark rest : CStr} (h : isName n = true) (hd : isNameChar d = false) :
    ¬ (d :: mark) <+: n ++ rest := by
  obtain ⟨c, s, rfl, -⟩ := isName_cons h
  intro hpre
  have hhead : d = c := (List.cons_prefix_cons.mp hpre).1
  exact not_mem_name h hd (hhead ▸ List.mem_cons_self)

theorem trimEnd_name (h : isName n = true) : trimEnd n = n := by
  rw [trimEnd, List.rdropWhile_eq_self_iff]
  intro hne
  rw [not_isBlank_of_mem h (List.getLast_mem hne)]
  exact Bool.false_ne_true

theorem closes_of_no_mark {m : CStr} (hcomment : ¬ str "!--" <+: m)
    (hcdata : ¬ str "![CDATA[" <+: m) (hinstruction : ¬ str "?" <+: m)
    (hquote : openQuote m = none) : closes m = true := by
  rw [closes, if_neg hcomment, if_neg hcdata, if_neg hinstruction, hquote]
  rfl

theorem quoteStep_none {s : CStr} (h : 0x22 ∉ s) (h' : 0x27 ∉ s) :
    s.foldl quoteStep none = none := by
  induction s with
  | nil => rfl
  | cons c s ih =>
    rw [List.mem_cons, not_or] at h h'
    rw [List.foldl_cons, quoteStep, if_neg (not_or.mpr ⟨Ne.symm h.1, Ne.symm h'.1⟩), ih h.2 h'.2]

theorem quoteStep_some {s : CStr} {q : UInt8} (h : q ∉ s) :
    s.foldl quoteStep (some q) = some q := by
  induction s with
  | nil => rfl
  | cons c s ih =>
    rw [List.mem_cons, not_or] at h
    rw [List.foldl_cons, quoteStep, if_neg (Ne.symm h.1), ih h.2]

theorem quoteStep_name (h : isName n = true) : n.foldl quoteStep none = none :=
  quoteStep_none (not_mem_name h rfl) (not_mem_name h rfl)

theorem interpret_stop (h : isName n = true) : interpret (0x2f :: n) = some [.stop n] := by
  have hcomment : ¬ str "!--" <+: 0x2f :: n := fun hp =>
    absurd (List.cons_prefix_cons.mp hp).1 (by decide)
  have hcdata : ¬ str "![CDATA[" <+: 0x2f :: n := fun hp =>
    absurd (List.cons_prefix_cons.mp hp).1 (by decide)
  have hinstruction : ¬ str "?" <+: 0x2f :: n := fun hp =>
    absurd (List.cons_prefix_cons.mp hp).1 (by decide)
  rw [interpret, if_neg hcomment, if_neg hcdata, if_neg hinstruction, if_pos ⟨n, rfl⟩,
    List.tail_cons, trimEnd_name h, if_pos h]

theorem closed_stop (h : isName n = true) : Closed (0x2f :: n) := by
  refine ⟨List.not_mem_cons_of_ne_of_not_mem (by decide) (not_mem_name h rfl), ?_⟩
  refine closes_of_no_mark ?_ ?_ ?_ ?_
  · exact fun hp => absurd (List.cons_prefix_cons.mp hp).1 (by decide)
  · exact fun hp => absurd (List.cons_prefix_cons.mp hp).1 (by decide)
  · exact fun hp => absurd (List.cons_prefix_cons.mp hp).1 (by decide)
  · show n.foldl quoteStep none = none
    exact quoteStep_name h

end names

/-! ## Start tags -/

/-- The value may stand between quotation marks as it is. -/
structure PlainValue (v : CStr) : Prop where
  noQuote : 0x22 ∉ v
  noMarkup : 0x3c ∉ v
  noReference : 0x26 ∉ v
  noEnd : 0x3e ∉ v
  blanks : ∀ c ∈ v, isBlank c = true → c = 0x20
  chars : v.all isChar = true

/-- The attributes of a tag, as they are written. -/
def attributeText (attributes : List (CStr × CStr)) : CStr :=
  attributes.flatMap fun a => 0x20 :: a.1 ++ (0x3d :: 0x22 :: a.2 ++ [0x22])

/-- A tag with attributes that can be written. -/
structure WellNamed (n : CStr) (attributes : List (CStr × CStr)) : Prop where
  name : isName n = true
  names : ∀ a ∈ attributes, isName a.1 = true
  values : ∀ a ∈ attributes, PlainValue a.2
  distinct : (attributes.map Prod.fst).Nodup

section attributes

variable {n v : CStr} {attributes : List (CStr × CStr)}

theorem attributeStep_name (as : List (CStr × CStr)) (p : CStr) (h : ∀ c ∈ n, isNameChar c = true) :
    n.foldlM attributeStep (as, .name p) = some (as, .name (p ++ n)) := by
  induction n generalizing p with
  | nil => rw [List.append_nil]; rfl
  | cons c n ih =>
    obtain ⟨hc, hn⟩ := List.forall_mem_cons.mp h
    have hequals : c ≠ 0x3d := fun heq => by
      rw [heq] at hc
      cases hc
    have hblank : isBlank c = false := by
      cases hblank : isBlank c with
      | false => rfl
      | true =>
        rw [isNameChar_of_isBlank hblank] at hc
        cases hc
    have hstep : attributeStep (as, .name p) c = some (as, .name (p ++ [c])) := by
      rw [attributeStep, if_neg hequals, hblank, if_neg Bool.false_ne_true, if_pos hc]
    rw [List.foldlM_cons, hstep]
    show n.foldlM attributeStep (as, .name (p ++ [c])) = _
    rw [ih _ hn, List.append_assoc, List.singleton_append]

theorem attributeStep_value (as : List (CStr × CStr)) (p : CStr) (hquote : 0x22 ∉ v)
    (hmarkup : 0x3c ∉ v) (hblanks : ∀ c ∈ v, isBlank c = true → c = 0x20) :
    v.foldlM attributeStep (as, .value n 0x22 p) = some (as, .value n 0x22 (p ++ v)) := by
  induction v generalizing p with
  | nil => rw [List.append_nil]; rfl
  | cons c v ih =>
    rw [List.mem_cons, not_or] at hquote hmarkup
    obtain ⟨hc, hv⟩ := List.forall_mem_cons.mp hblanks
    have hkept : (if isBlank c then (0x20 : UInt8) else c) = c := by
      split_ifs with hblank
      · exact (hc hblank).symm
      · rfl
    have hstep : attributeStep (as, .value n 0x22 p) c = some (as, .value n 0x22 (p ++ [c])) := by
      rw [attributeStep, if_neg (Ne.symm hquote.1), if_neg (Ne.symm hmarkup.1), hkept]
    rw [List.foldlM_cons, hstep]
    show v.foldlM attributeStep (as, .value n 0x22 (p ++ [c])) = _
    rw [ih _ hquote.2 hmarkup.2 hv, List.append_assoc, List.singleton_append]

theorem attributeStep_attribute (as : List (CStr × CStr)) (hn : isName n = true)
    (hv : PlainValue v) (s : CStr) :
    (0x20 :: n ++ (0x3d :: 0x22 :: v ++ [0x22]) ++ s).foldlM attributeStep (as, .gap false) =
      s.foldlM attributeStep (as ++ [(n, v)], .gap false) := by
  obtain ⟨c, n', rfl, hstart⟩ := isName_cons hn
  have hblank : isBlank c = false := not_isBlank_of_mem hn List.mem_cons_self
  have hfirst : attributeStep (as, .gap true) c = some (as, .name [c]) := by
    rw [attributeStep, hblank, if_neg Bool.false_ne_true, hstart]
    rfl
  have hname := attributeStep_name as [c] (List.forall_mem_cons.mp (isName_all hn)).2
  have hvalue := attributeStep_value (n := c :: n') as [] hv.noQuote hv.noMarkup hv.blanks
  have hlast : attributeStep (as, .value (c :: n') 0x22 v) 0x22 =
      some (as ++ [(c :: n', v)], .gap false) := by
    rw [attributeStep, if_pos rfl, unescape_eq_self hv.noReference]
    rfl
  simp only [List.cons_append, List.append_assoc, List.foldlM_cons, List.foldlM_append,
    List.nil_append]
  show ((attributeStep (as, .gap true) c).bind _) = _
  rw [hfirst, Option.bind_some, hname]
  show ((v.foldlM attributeStep (as, .value (c :: n') 0x22 [])).bind _) = _
  rw [hvalue, List.nil_append, Option.bind_some, hlast]
  rfl

theorem parseAttributes_text (h : WellNamed n attributes) :
    parseAttributes (attributeText attributes) = some attributes := by
  have hfold : ∀ (attributes as : List (CStr × CStr)), (∀ a ∈ attributes, isName a.1 = true) →
      (∀ a ∈ attributes, PlainValue a.2) →
      (attributeText attributes).foldlM attributeStep (as, .gap false) =
        some (as ++ attributes, .gap false) := by
    intro attributes
    induction attributes with
    | nil =>
      intro as _ _
      rw [List.append_nil]
      rfl
    | cons a attributes ih =>
      intro as hnames hvalues
      obtain ⟨hn, hnames⟩ := List.forall_mem_cons.mp hnames
      obtain ⟨hv, hvalues⟩ := List.forall_mem_cons.mp hvalues
      rw [attributeText, List.flatMap_cons, attributeStep_attribute as hn hv]
      show (attributeText attributes).foldlM _ _ = _
      rw [ih _ hnames hvalues, List.append_assoc, List.singleton_append]
  rw [parseAttributes, hfold attributes [] h.names h.values]
  exact if_pos h.distinct

theorem takeWhile_attributeText (attributes : List (CStr × CStr)) :
    (attributeText attributes).takeWhile (fun c => !isBlank c) = [] := by
  cases attributes with
  | nil => rfl
  | cons a attributes => rfl

theorem getLast_startTag (h : WellNamed n attributes) :
    (n ++ attributeText attributes).getLast? ≠ some 0x2f := by
  rcases List.eq_nil_or_concat attributes with rfl | ⟨as, a, rfl⟩
  · rw [attributeText, List.flatMap_nil, List.append_nil]
    exact fun hlast => not_mem_name h.name rfl (List.mem_of_getLast? hlast)
  · rw [attributeText, List.concat_eq_append, List.flatMap_append, List.flatMap_singleton,
      ← List.append_assoc, ← List.append_assoc, ← List.append_assoc, List.getLast?_concat]
    decide

theorem interpret_start (h : WellNamed n attributes) :
    interpret (n ++ attributeText attributes) = some [.start n attributes] := by
  have hempty : ((n ++ attributeText attributes).getLast? == some 0x2f) = false :=
    beq_false_of_ne (getLast_startTag h)
  have hname : (n ++ attributeText attributes).takeWhile (fun c => !isBlank c) = n := by
    rw [List.takeWhile_append_of_pos fun c hc => by rw [not_isBlank_of_mem h.name hc]; rfl,
      takeWhile_attributeText, List.append_nil]
  have hcomment : ¬ str "!--" <+: n ++ attributeText attributes := not_prefix_name h.name rfl
  have hcdata : ¬ str "![CDATA[" <+: n ++ attributeText attributes := not_prefix_name h.name rfl
  have hinstruction : ¬ str "?" <+: n ++ attributeText attributes := not_prefix_name h.name rfl
  have hstop : ¬ str "/" <+: n ++ attributeText attributes := not_prefix_name h.name rfl
  rw [interpret, if_neg hcomment, if_neg hcdata, if_neg hinstruction, if_neg hstop, interpretTag]
  simp only [hempty, Bool.false_eq_true, if_false, hname, h.name, if_true, List.drop_left,
    parseAttributes_text h, Option.map_some]

theorem quoteStep_attributeText (h : ∀ a ∈ attributes, isName a.1 = true)
    (h' : ∀ a ∈ attributes, PlainValue a.2) :
    (attributeText attributes).foldl quoteStep none = none := by
  induction attributes with
  | nil => rfl
  | cons a attributes ih =>
    obtain ⟨hn, hnames⟩ := List.forall_mem_cons.mp h
    obtain ⟨hv, hvalues⟩ := List.forall_mem_cons.mp h'
    have hname : a.1.foldl quoteStep (quoteStep none 0x20) = none := quoteStep_name hn
    have hvalue : a.2.foldl quoteStep (quoteStep (quoteStep none 0x3d) 0x22) = some 0x22 :=
      quoteStep_some hv.noQuote
    rw [attributeText, List.flatMap_cons, List.foldl_append, List.foldl_append, List.foldl_cons,
      hname, List.cons_append, List.cons_append, List.foldl_cons, List.foldl_cons,
      List.foldl_append, hvalue]
    exact ih hnames hvalues

theorem closed_start (h : WellNamed n attributes) : Closed (n ++ attributeText attributes) := by
  constructor
  case noEnd =>
    rw [List.mem_append, not_or]
    refine ⟨not_mem_name h.name rfl, fun hmem => ?_⟩
    obtain ⟨a, ha, hmem⟩ := List.mem_flatMap.mp hmem
    have hname := not_mem_name (h.names a ha) (d := 0x3e) rfl
    have hvalue := (h.values a ha).noEnd
    simp [hname, hvalue] at hmem
  case closes =>
    refine closes_of_no_mark ?_ ?_ ?_ ?_
    · exact not_prefix_name h.name rfl
    · exact not_prefix_name h.name rfl
    · exact not_prefix_name h.name rfl
    · rw [openQuote, List.foldl_append, quoteStep_name h.name]
      exact quoteStep_attributeText h.names h.values

end attributes

/-! ## Lines -/

inductive Line where
  | leaf (name value : CStr)
  | start (name : CStr) (attributes : List (CStr × CStr))
  | stop (name : CStr)

def tag (m : CStr) : CStr := 0x3c :: m ++ [0x3e]

def lineBreak : CStr := [0x0d, 0x0a]

def Line.print : Line → CStr
  | .leaf n v => tag n ++ v ++ tag (0x2f :: n)
  | .start n attributes => tag (n ++ attributeText attributes)
  | .stop n => tag (0x2f :: n)

def Line.tokens : Line → List Token
  | .leaf n v => .start n [] :: textToken v ++ [.stop n]
  | .start n attributes => [.start n attributes]
  | .stop n => [.stop n]

def Line.Named : Line → Prop
  | .leaf n _ => isName n = true
  | .start n attributes => WellNamed n attributes
  | .stop n => isName n = true

/-- The text of the line, if it has one. -/
def Line.value : Line → Option CStr
  | .leaf _ v => some v
  | _ => none

/-- The bytes the line takes with its line break. -/
def Line.size : Line → Nat
  | .leaf n v => 2 * n.length + v.length + 7
  | .start n attributes => n.length + (attributes.map fun a => a.1.length + a.2.length + 4).sum + 4
  | .stop n => n.length + 5

def element (n : CStr) (attributes : List (CStr × CStr)) (lines : List Line) : List Line :=
  .start n attributes :: lines ++ [.stop n]

theorem forall_mem_element {p : Line → Prop} {n : CStr} {attributes : List (CStr × CStr)}
    {lines : List Line} :
    (∀ l ∈ element n attributes lines, p l) ↔
      p (.start n attributes) ∧ (∀ l ∈ lines, p l) ∧ p (.stop n) := by
  rw [element, List.cons_append, List.forall_mem_cons, List.forall_mem_append,
    List.forall_mem_singleton]

theorem Line.length_print (l : Line) : (l.print ++ lineBreak).length = l.size := by
  cases l with
  | leaf n v =>
    simp only [Line.print, Line.size, tag, lineBreak, List.length_append, List.length_cons,
      List.length_nil]
    omega
  | start n attributes =>
    simp only [Line.print, Line.size, tag, lineBreak, attributeText, List.length_append,
      List.length_cons, List.length_nil, List.length_flatMap, List.cons_append]
    have hattribute : (attributes.map fun a => a.1.length + (a.2.length + (0 + 1) + 1 + 1) + 1) =
        attributes.map fun a => a.1.length + a.2.length + 4 :=
      List.map_congr_left fun a _ => by omega
    rw [hattribute]
  | stop n =>
    simp only [Line.print, Line.size, tag, lineBreak, List.length_append, List.length_cons,
      List.length_nil]

section lines

variable {ts : List Token} {n v data : CStr}

theorem wellNamed_nil (h : isName n = true) : WellNamed n [] where
  name := h
  names _ ha := by cases ha
  values _ ha := by cases ha
  distinct := List.nodup_nil

theorem scan_tag {m : CStr} {us : List Token} (hclosed : Closed m) (hm : interpret m = some us)
    (hdata : charData data = some v) :
    scan ⟨ts, data, none⟩ (tag m) = some ⟨ts ++ textToken v ++ us, [], none⟩ := by
  rw [tag, scan_markup hclosed, Reader.emit, hdata, hm]
  rfl

theorem scan_startTag (h : isName n = true) (hdata : charData data = some v) :
    scan ⟨ts, data, none⟩ (tag n) = some ⟨ts ++ textToken v ++ [.start n []], [], none⟩ := by
  have hclosed := closed_start (wellNamed_nil h)
  have hread := interpret_start (wellNamed_nil h)
  rw [attributeText, List.flatMap_nil, List.append_nil] at hclosed hread
  exact scan_tag hclosed hread hdata

theorem scan_stopTag (h : isName n = true) (hdata : charData data = some v) :
    scan ⟨ts, data, none⟩ (tag (0x2f :: n)) = some ⟨ts ++ textToken v ++ [.stop n], [], none⟩ :=
  scan_tag (closed_stop h) (interpret_stop h) hdata

/-- A line whose text needs no escape is reported behind the line break before it. -/
theorem scan_line {l : Line} (h : l.Named) (hv : ∀ v ∈ l.value, Literal v) :
    scan ⟨ts, lineBreak, none⟩ (l.print ++ lineBreak) =
      some ⟨ts ++ .text [0x0a] :: l.tokens, lineBreak, none⟩ := by
  have hbreak : charData lineBreak = some [0x0a] := rfl
  have htoken : textToken [0x0a] = [.text [0x0a]] := rfl
  have hend : ∀ ts, scan ⟨ts, [], none⟩ lineBreak = some ⟨ts, lineBreak, none⟩ := fun ts => by
    rw [scan_data (by decide)]
    rfl
  rw [scan_append]
  cases l with
  | leaf n v =>
    obtain ⟨hmarkup, hreference, hreturn, hnoend⟩ := hv v rfl
    have hdata : charData v = some v :=
      charData_eq_self_iff.mpr ⟨hreference, hreturn, hnoend⟩
    rw [Line.print, scan_append, scan_append, scan_startTag h hbreak, Option.bind_some,
      scan_data hmarkup, List.nil_append, Option.bind_some, scan_stopTag h hdata, Option.bind_some,
      hend, htoken]
    simp only [Line.tokens, List.append_assoc, List.cons_append, List.nil_append]
  | start n attributes =>
    rw [Line.print, scan_tag (closed_start h) (interpret_start h) hbreak, Option.bind_some, hend,
      htoken, List.append_assoc]
    rfl
  | stop n =>
    rw [Line.print, scan_stopTag h hbreak, Option.bind_some, hend, htoken, List.append_assoc]
    rfl

/-- Behind the start of an element a reader reports the data up to the next markup.  If that is the
text of the line, it needs no escape. -/
theorem reads_of_scan {rest : CStr} {r : Reader} (hn : isName n = true)
    (h : scan ⟨ts, lineBreak, none⟩ ((Line.leaf n v).print ++ rest) = some r)
    (hclosed : r.markup = none) :
    ∃ u t more, r.tokens = ts ++ .text [0x0a] :: .start n [] :: (textToken u ++ t :: more) ∧
      (∀ w, t ≠ .text w) ∧ (u = v → Literal v) := by
  have hbreak : charData lineBreak = some [0x0a] := rfl
  have hstart := @scan_startTag ts n [0x0a] lineBreak hn hbreak
  rw [Line.print, List.append_assoc, List.append_assoc, scan_append, hstart, Option.bind_some] at h
  -- What is reported goes on with some data and the markup behind it.
  have hgoesOn : ∀ {u us}, (∃ t more, us = t :: more ∧ ∀ w, t ≠ Token.text w) →
      ts ++ textToken [0x0a] ++ [.start n []] ++ textToken u ++ us <+: r.tokens →
      (u = v → Literal v) →
      ∃ u t more, r.tokens = ts ++ .text [0x0a] :: .start n [] :: (textToken u ++ t :: more) ∧
        (∀ w, t ≠ .text w) ∧ (u = v → Literal v) := by
    rintro u us ⟨t, more, rfl, ht⟩ ⟨behind, htokens⟩ hu
    refine ⟨u, t, more ++ behind, ?_, ht, hu⟩
    have htoken : textToken [0x0a] = [.text [0x0a]] := rfl
    rw [← htokens, htoken]
    simp only [List.append_assoc, List.cons_append, List.nil_append]
  by_cases hmarkup : 0x3c ∈ v
  · obtain ⟨w, v', rfl, hw⟩ := List.eq_append_cons_of_mem hmarkup
    have hsplit : w ++ 0x3c :: v' ++ (tag (0x2f :: n) ++ rest) =
        w ++ 0x3c :: (v' ++ (tag (0x2f :: n) ++ rest)) := by simp
    rw [hsplit, scan_append, scan_data hw, List.nil_append, Option.bind_some, scan_cons] at h
    obtain ⟨m, us, u, hu, hm, hreported⟩ := scan_of_open h hclosed
    refine hgoesOn (interpret_head hm) hreported fun heq => ?_
    have hle : (w ++ 0x3c :: v').length ≤ w.length := heq ▸ charData_length hu
    rw [List.length_append, List.length_cons] at hle
    omega
  · rw [scan_append, scan_data hmarkup, List.nil_append, Option.bind_some, scan_append] at h
    obtain ⟨r', hr', hrest⟩ := Option.bind_eq_some_iff.mp h
    rw [tag, scan_markup (closed_stop hn)] at hr'
    obtain ⟨u, hu, hr'⟩ := Option.bind_eq_some_iff.mp hr'
    rw [interpret_stop hn] at hr'
    cases hr'
    refine hgoesOn (interpret_head (interpret_stop hn)) (scan_tokens hrest) fun heq => ?_
    rw [heq] at hu
    obtain ⟨hreference, hreturn, hend⟩ := charData_eq_self_iff.mp hu
    exact ⟨hmarkup, hreference, hreturn, hend⟩

/-! ## Documents -/

/-- The lines of a document, each with its line break. -/
def printLines (lines : List Line) : CStr := lines.flatMap fun l => l.print ++ lineBreak

/-- What the lines say, each behind the line break of the one before. -/
def lineTokens (lines : List Line) : List Token :=
  lines.flatMap fun l => .text [0x0a] :: l.tokens

theorem scan_lines {lines : List Line} (h : ∀ l ∈ lines, l.Named)
    (hv : ∀ l ∈ lines, ∀ v ∈ l.value, Literal v) :
    scan ⟨ts, lineBreak, none⟩ (printLines lines) =
      some ⟨ts ++ lineTokens lines, lineBreak, none⟩ := by
  induction lines generalizing ts with
  | nil =>
    rw [lineTokens, List.flatMap_nil, List.append_nil]
    rfl
  | cons l lines ih =>
    obtain ⟨hl, hlines⟩ := List.forall_mem_cons.mp h
    obtain ⟨hlv, hlinesv⟩ := List.forall_mem_cons.mp hv
    rw [printLines, List.flatMap_cons, scan_append, scan_line hl hlv, Option.bind_some]
    refine (ih hlines hlinesv).trans ?_
    rw [lineTokens, lineTokens, List.flatMap_cons, ← List.append_assoc]

/-- **Lines that are read as they were meant have texts that need no escape**: it is enough that the
data behind the start of an element tells its text, when the lines before have such texts. -/
theorem literal_of_reads {lines : List Line} {r : Reader} (h : ∀ l ∈ lines, l.Named)
    (hr : scan ⟨ts, lineBreak, none⟩ (printLines lines) = some r) (hclosed : r.markup = none)
    (hreads : ∀ pre n v post, lines = pre ++ .leaf n v :: post →
      (∀ l ∈ pre, ∀ w ∈ l.value, Literal w) → ∀ u t more,
      r.tokens = ts ++ lineTokens pre ++ .text [0x0a] :: .start n [] :: (textToken u ++ t :: more) →
      (∀ w, t ≠ .text w) → u = v ∨ Literal v) :
    ∀ l ∈ lines, ∀ v ∈ l.value, Literal v := by
  induction lines generalizing ts with
  | nil => exact fun _ hl => by cases hl
  | cons l lines ih =>
    obtain ⟨hl, hlines⟩ := List.forall_mem_cons.mp h
    rw [printLines, List.flatMap_cons] at hr
    have hv : ∀ v ∈ l.value, Literal v := by
      intro v hmem
      cases l with
      | leaf n w =>
        cases hmem
        rw [List.append_assoc] at hr
        obtain ⟨u, t, more, htokens, ht, hliteral⟩ := reads_of_scan hl hr hclosed
        have hfirst := hreads [] n v lines rfl (fun _ hpre => by cases hpre) u t more
          (by rw [htokens, lineTokens, List.flatMap_nil, List.append_nil]) ht
        exact hfirst.elim hliteral id
      | start n attributes => cases hmem
      | stop n => cases hmem
    rw [scan_append, scan_line hl hv, Option.bind_some] at hr
    refine List.forall_mem_cons.mpr
      ⟨hv, ih hlines hr fun pre n v post hsplit hpre u t more heq => ?_⟩
    refine hreads (l :: pre) n v post (by rw [hsplit, List.cons_append])
      (List.forall_mem_cons.mpr ⟨hv, hpre⟩) u t more ?_
    rw [heq, lineTokens, lineTokens, List.flatMap_cons]
    simp only [List.append_assoc, List.cons_append]

end lines

/-- A declaration, as it is written between `<?` and `?>`. -/
structure Declaration (data : CStr) : Prop where
  chars : data.all isChar = true
  closed : Closed (0x3f :: data ++ [0x3f])
  read : interpret (0x3f :: data ++ [0x3f]) = some [.instruction data]
  declares : declares (.instruction data) = true

def document (declaration : CStr) (lines : List Line) : CStr :=
  tag (0x3f :: declaration ++ [0x3f]) ++ lineBreak ++ printLines lines

def documentSize (declaration : CStr) (lines : List Line) : Nat :=
  declaration.length + 6 + (lines.map Line.size).sum

def report (declaration : CStr) (lines : List Line) : List Token :=
  .instruction declaration :: lineTokens lines

section documents

variable {declaration : CStr} {lines : List Line}

theorem printLines_append (lines lines' : List Line) :
    printLines (lines ++ lines') = printLines lines ++ printLines lines' := List.flatMap_append

theorem printLines_element (n : CStr) (attributes : List (CStr × CStr)) (lines : List Line) :
    printLines (element n attributes lines) =
      tag (n ++ attributeText attributes) ++ lineBreak ++ printLines lines ++
        (tag (0x2f :: n) ++ lineBreak) := by
  rw [element, List.cons_append, printLines, List.flatMap_cons, List.flatMap_append,
    List.flatMap_singleton, ← List.append_assoc]
  rfl

theorem length_printLines (lines : List Line) :
    (printLines lines).length = (lines.map Line.size).sum := by
  rw [printLines, List.length_flatMap]
  exact congrArg List.sum (List.map_congr_left fun l _ => l.length_print)

theorem length_document (declaration : CStr) (lines : List Line) :
    (document declaration lines).length = documentSize declaration lines := by
  simp only [document, documentSize, List.length_append, length_printLines, tag, lineBreak,
    List.length_cons, List.length_nil]

theorem not_isDeclaration_lineTokens (lines : List Line) :
    (lineTokens lines).any isDeclaration = false := by
  rw [List.any_eq_false]
  intro t ht
  obtain ⟨l, -, ht⟩ := List.mem_flatMap.mp ht
  have hkind : ∀ t ∈ l.tokens, isDeclaration t = false := by
    intro t ht
    cases l with
    | leaf n v =>
      rcases List.mem_cons.mp ht with rfl | ht
      · rfl
      · rcases List.mem_append.mp ht with ht | ht
        · unfold textToken at ht
          split_ifs at ht
          · cases ht
          · rw [List.mem_singleton.mp ht]
            rfl
        · rw [List.mem_singleton.mp ht]
          rfl
    | start n attributes =>
      rw [List.mem_singleton.mp ht]
      rfl
    | stop n =>
      rw [List.mem_singleton.mp ht]
      rfl
  rcases List.mem_cons.mp ht with rfl | ht
  · exact Bool.false_ne_true
  · rw [hkind t ht]
    exact Bool.false_ne_true

theorem declared_report (h : Declaration declaration) (lines : List Line) :
    declared (report declaration lines) = true := by
  rw [report, declared, h.declares, not_isDeclaration_lineTokens, Bool.or_true]
  rfl

/-- The text may stand in a document as it is. -/
structure Clean (v : CStr) : Prop where
  literal : Literal v
  chars : v.all isChar = true

theorem PlainValue.clean {v : CStr} (h : PlainValue v) : Clean v where
  chars := h.chars
  literal :=
    { noMarkup := h.noMarkup
      noReference := h.noReference
      noReturn := fun hmem => absurd (h.blanks 0x0d hmem rfl) (by decide)
      noEnd := fun hin => h.noEnd (hin.subset (by decide)) }

theorem isChar_of_isNameChar {c : UInt8} (h : isNameChar c = true) : isChar c = true := by
  have hle : 0x20 ≤ c.toNat := by
    simp only [isNameChar, isNameStart, isDigit, Bool.or_eq_true, Bool.and_eq_true,
      decide_eq_true_eq, beq_iff_eq, UInt8.le_iff_toNat_le, ← UInt8.toNat_inj,
      UInt8.reduceToNat] at h
    omega
  have hprintable : decide (0x20 ≤ c) = true := decide_eq_true (UInt8.le_iff_toNat_le.mpr hle)
  rw [isChar, hprintable]
  rfl

theorem plainValue_of_isNameChar {v : CStr} (h : ∀ c ∈ v, isNameChar c = true) : PlainValue v where
  noQuote hmem := absurd (h _ hmem) (by decide)
  noMarkup hmem := absurd (h _ hmem) (by decide)
  noReference hmem := absurd (h _ hmem) (by decide)
  noEnd hmem := absurd (h _ hmem) (by decide)
  blanks c hmem hblank := by
    have hchar := h c hmem
    rw [isNameChar_of_isBlank hblank] at hchar
    cases hchar
  chars := List.all_eq_true.mpr fun c hc => isChar_of_isNameChar (h c hc)

theorem name_chars {n : CStr} (h : isName n = true) : n.all isChar = true :=
  List.all_eq_true.mpr fun c hc => isChar_of_isNameChar (isName_all h c hc)

theorem tag_chars {m : CStr} (h : m.all isChar = true) : (tag m).all isChar = true := by
  rw [tag, List.cons_append, List.all_cons, List.all_append, h]
  rfl

theorem stop_chars {n : CStr} (h : isName n = true) : (tag (0x2f :: n)).all isChar = true := by
  refine tag_chars ?_
  rw [List.all_cons, name_chars h]
  rfl

theorem start_chars {n : CStr} {attributes : List (CStr × CStr)} (h : WellNamed n attributes) :
    (tag (n ++ attributeText attributes)).all isChar = true := by
  have hattributes : (attributeText attributes).all isChar = true := by
    rw [attributeText, List.all_flatMap, List.all_eq_true]
    intro a ha
    simp only [List.cons_append, List.all_cons, List.all_append, name_chars (h.names a ha),
      (h.values a ha).chars]
    rfl
  refine tag_chars ?_
  rw [List.all_append, name_chars h.name, hattributes]
  rfl

theorem line_chars {l : Line} (h : l.Named) :
    (l.print ++ lineBreak).all isChar = true ↔ ∀ v ∈ l.value, v.all isChar = true := by
  have hbreak : lineBreak.all isChar = true := rfl
  rw [List.all_append, hbreak, Bool.and_true]
  cases l with
  | leaf n v =>
    have hstart := start_chars (wellNamed_nil h)
    rw [attributeText, List.flatMap_nil, List.append_nil] at hstart
    rw [Line.print, List.all_append, List.all_append, hstart, stop_chars h, Bool.and_true,
      Bool.true_and]
    exact ⟨fun hv w hw => by cases hw; exact hv, fun hall => hall v rfl⟩
  | start n attributes => exact iff_of_true (start_chars h) fun _ hv => by cases hv
  | stop n => exact iff_of_true (stop_chars h) fun _ hv => by cases hv

theorem document_chars (hdecl : Declaration declaration) (h : ∀ l ∈ lines, l.Named) :
    (document declaration lines).all isChar = true ↔
      ∀ l ∈ lines, ∀ v ∈ l.value, v.all isChar = true := by
  have hbegin : (tag (0x3f :: declaration ++ [0x3f]) ++ lineBreak).all isChar = true := by
    rw [List.all_append, tag_chars (by
      rw [List.cons_append, List.all_cons, List.all_append, hdecl.chars]
      rfl)]
    rfl
  rw [document, List.all_append, hbegin, Bool.true_and, printLines, List.all_flatMap,
    List.all_eq_true]
  exact forall₂_congr fun l hl => line_chars (h l hl)

theorem scan_document (hdecl : Declaration declaration) (lines : List Line) :
    scan ⟨[], [], none⟩ (document declaration lines) =
      scan ⟨[.instruction declaration], lineBreak, none⟩ (printLines lines) := by
  have hempty : charData [] = some [] := rfl
  rw [document, scan_append, scan_append, scan_tag hdecl.closed hdecl.read hempty,
    Option.bind_some, scan_data (by decide)]
  rfl

/-- **A document none of whose texts needs an escape is read back.** -/
theorem read_document (hdecl : Declaration declaration) (h : ∀ l ∈ lines, l.Named)
    (hnested : nested (report declaration lines) = true)
    (hclean : ∀ l ∈ lines, ∀ v ∈ l.value, Clean v) :
    read (document declaration lines) = some (report declaration lines) := by
  unfold read
  rw [scan_document hdecl,
    if_pos ((document_chars hdecl h).mpr fun l hl v hv => (hclean l hl v hv).chars),
    scan_lines h fun l hl v hv => (hclean l hl v hv).literal, Option.bind_some]
  have hblank : lineBreak.all isBlank = true := rfl
  have hreport : [.instruction declaration] ++ lineTokens lines = report declaration lines := rfl
  rw [hreport, hnested, declared_report hdecl, hblank]
  rfl

/-- **A document that is read as it was meant has no text that needs an escape.** -/
theorem clean_of_reads {tokens : List Token} (hdecl : Declaration declaration)
    (h : ∀ l ∈ lines, l.Named) (hread : read (document declaration lines) = some tokens)
    (hreads : ∀ pre n v post, lines = pre ++ .leaf n v :: post →
      (∀ l ∈ pre, ∀ w ∈ l.value, Literal w) → ∀ u t more,
      tokens = report declaration pre ++ .text [0x0a] :: .start n [] :: (textToken u ++ t :: more) →
      (∀ w, t ≠ .text w) → u = v ∨ Literal v) :
    ∀ l ∈ lines, ∀ v ∈ l.value, Clean v := by
  unfold read at hread
  rw [scan_document hdecl] at hread
  split_ifs at hread with hchars
  obtain ⟨r, hr, hread⟩ := Option.bind_eq_some_iff.mp hread
  split_ifs at hread with hgood
  simp only [Bool.and_eq_true, Option.isNone_iff_eq_none] at hgood
  obtain ⟨⟨⟨hclosed, -⟩, -⟩, -⟩ := hgood
  cases hread
  intro l hl v hv
  exact ⟨literal_of_reads h hr hclosed hreads l hl v hv,
    (document_chars hdecl h).mp hchars l hl v hv⟩

/-! ## Nesting -/

/-- Within an element, the lines close what they open. -/
def Balanced (lines : List Line) : Prop :=
  ∀ stack : List CStr, stack ≠ [] →
    (lineTokens lines).foldlM nest (stack, true) = some (stack, true)

theorem balanced_nil : Balanced [] := fun _ _ => rfl

theorem Balanced.append {lines' : List Line} (h : Balanced lines) (h' : Balanced lines') :
    Balanced (lines ++ lines') := by
  intro stack hne
  rw [lineTokens, List.flatMap_append, List.foldlM_append]
  have hfirst := h stack hne
  rw [lineTokens] at hfirst
  rw [hfirst]
  exact h' stack hne

theorem Balanced.flatMap {α : Type} {xs : List α} {f : α → List Line}
    (h : ∀ x ∈ xs, Balanced (f x)) : Balanced (xs.flatMap f) := by
  induction xs with
  | nil => exact balanced_nil
  | cons x xs ih =>
    obtain ⟨hx, hxs⟩ := List.forall_mem_cons.mp h
    rw [List.flatMap_cons]
    exact hx.append (ih hxs)

theorem balanced_leaf (n v : CStr) : Balanced [.leaf n v] := by
  intro stack hne
  obtain ⟨m, stack, rfl⟩ := List.exists_cons_of_ne_nil hne
  by_cases hv : v = []
  · simp [lineTokens, Line.tokens, textToken, hv, nest]
  · simp [lineTokens, Line.tokens, textToken, hv, nest]

theorem lineTokens_element (n : CStr) (attributes : List (CStr × CStr)) (lines : List Line) :
    lineTokens (element n attributes lines) =
      [.text [0x0a], .start n attributes] ++ (lineTokens lines ++ [.text [0x0a], .stop n]) := by
  rw [lineTokens, lineTokens, element, List.cons_append, List.flatMap_cons, List.flatMap_append]
  rfl

theorem nest_stop (n : CStr) (stack : List CStr) :
    [.text [0x0a], .stop n].foldlM nest (n :: stack, true) = some (stack, true) := by
  simp [nest]

theorem balanced_element (h : Balanced lines) (n : CStr) (attributes : List (CStr × CStr)) :
    Balanced (element n attributes lines) := by
  intro stack hne
  obtain ⟨m, stack, rfl⟩ := List.exists_cons_of_ne_nil hne
  have hstart : [.text [0x0a], .start n attributes].foldlM nest (m :: stack, true) =
      some (n :: m :: stack, true) := rfl
  rw [lineTokens_element, List.foldlM_append, hstart]
  show (lineTokens lines ++ _).foldlM nest (n :: m :: stack, true) = _
  rw [List.foldlM_append, h _ (List.cons_ne_nil _ _)]
  exact nest_stop n (m :: stack)

theorem Balanced.nested (h : Balanced lines) (declaration n : CStr)
    (attributes : List (CStr × CStr)) :
    nested (report declaration (element n attributes lines)) = true := by
  have hstart : [Token.instruction declaration, .text [0x0a], .start n attributes].foldlM nest
      ([], false) = some ([n], true) := rfl
  have hall : (report declaration (element n attributes lines)).foldlM nest
      ([], false) = some ([], true) := by
    rw [report, lineTokens_element, ← List.cons_append, List.foldlM_append, hstart]
    show (lineTokens lines ++ _).foldlM nest ([n], true) = _
    rw [List.foldlM_append, h _ (List.cons_ne_nil _ _)]
    exact nest_stop n []
  rw [Xml.nested, hall]

end documents

end GB28181.Base.Xml
