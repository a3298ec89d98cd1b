import GB28181.Base.SqlLexer
import GB28181.Platform.SQLTextMaker

/-!
# The tokens of SQL texts

What a maker puts between single quotes it puts there as it is.

* `Statement` — a call of one of the four statement makers, `Statement.quoted` — what it puts
  between quotes;
* `Statement.reads_text` — where none of these has a quote or a NUL, the text has the tokens of
  `Statement.tokens`;
* `Statement.ends_tokens` — the literals of these tokens are what is put between quotes, and they
  are one statement;
* `Statement.quoting_text` — whatever the values, the text has them between quotes.
-/

set_option autoImplicit false

namespace GB28181.Platform.SQLTextMaker

open GB28181.Base
open GB28181.Base.Sql

/-! ## Calls -/

inductive Statement where
  | insert (_table_name : CStr) (field_info_list : FieldInfoList)
  | select (_table_name : CStr) (field_info_list : FieldInfoList)
      (limit_row_count sort_field_name : CStr)
  | update (_table_name : CStr) (field_info_list : FieldInfoList)
      (p_Con_Lst : Option ConditionList)
  | delete (_table_name : CStr) (field_info_list : FieldInfoList)
      (p_Con_Lst : Option ConditionList)

def Statement.text : Statement → Except CStr CStr
  | insert t fields => MakeInserSql t fields
  | select t fields limit sort => MakeSelectSql t fields limit sort
  | update t fields conds => MakeUpdateSql t fields conds
  | delete t fields conds => MakeDeleteSql t fields conds

structure IsName (w : CStr) : Prop where
  ne_nil : w ≠ []
  bytes : ∀ b ∈ w, wordByte b = true

/-- The bytes of a comparison: those of words, blanks and `<`, `=`, `>`, `!`. -/
def opByte (b : UInt8) : Bool :=
  wordByte b || b == 0x20 || b == 0x3c || b == 0x3d || b == 0x3e || b == 0x21

def FieldsNamed (fields : FieldInfoList) : Prop := ∀ item ∈ fields, IsName item.1

/-- The names and comparisons of a condition list. -/
def ConditionsNamed (conds : ConditionList) : Prop :=
  ∀ item ∈ conds, IsName item._columName ∧ ∀ b ∈ item._conditon, opByte b = true

def Statement.Named : Statement → Prop
  | insert t fields => IsName t ∧ FieldsNamed fields
  | select t fields limit sort => IsName t ∧ FieldsNamed fields ∧
      (∀ b ∈ limit, wordByte b = true) ∧ ∀ b ∈ sort, wordByte b = true
  | update t fields conds => IsName t ∧ FieldsNamed fields ∧ ∀ l ∈ conds, ConditionsNamed l
  | delete t fields conds => IsName t ∧ FieldsNamed fields ∧ ∀ l ∈ conds, ConditionsNamed l

/-! ## What stands between quotes -/

/-- The values that an entry has between quotes. -/
def fieldQuoted (field : FieldInfoT) : List CStr :=
  match field.GetType with
  | .kText => [field.GetValue]
  | _ => []

/-- A `select` looks for a name anywhere in the column. -/
def selectQuoted (item : CStr × FieldInfoT) : List CStr :=
  match item.2.GetType with
  | .kText =>
    if findLower item.1 (str "name") then
      [cstring_percent ++ item.2.GetValue ++ cstring_percent]
    else [item.2.GetValue]
  | _ => []

def updateQuoted (item : CStr × FieldInfoT) : List CStr :=
  if isKey item then [] else fieldQuoted item.2

def conditonQuoted (item : FieldCondT) : List CStr :=
  if item._b_Str then [item._fieldValue] else []

/-- The values in the where clause of an `update`: the key's, or those of the conditions. -/
def whereQuoted (fields : FieldInfoList) : Option ConditionList → List CStr
  | none => [(primirykey fields ([], [])).2]
  | some conldtion_list => conldtion_list.flatMap conditonQuoted

/-- What a call puts between quotes, in this order. -/
def Statement.quoted : Statement → List CStr
  | insert _ fields => (validFields fields).flatMap fun item => fieldQuoted item.2
  | select _ fields _ _ => (validFields fields).flatMap selectQuoted
  | update _ fields conds =>
    let fields := validFields fields
    if fields.isEmpty then []
    else
      fields.flatMap updateQuoted ++ whereQuoted fields conds
  | delete _ fields _ => (validFields fields).flatMap fun item => fieldQuoted item.2

/-- A value that can stand between quotes as it is. -/
def Plain (v : CStr) : Prop := quote ∉ v ∧ (0 : UInt8) ∉ v

/-! ## Loops -/

section turns

variable {α β : Type} {body next last : α → CStr} {tbody tnext tlast : α → List Token}

theorem reads_turns {l : List α}
    (hnext : ∀ item ∈ l, Reads (body item ++ next item) (tbody item ++ tnext item))
    (hlast : ∀ item ∈ l, Reads (body item ++ last item) (tbody item ++ tlast item)) :
    Reads (turns body next last l) (turns tbody tnext tlast l) := by
  induction l with
  | nil => exact Reads.nil
  | cons item rest ih =>
    obtain ⟨hn, hnext'⟩ := List.forall_mem_cons.mp hnext
    obtain ⟨hl, hlast'⟩ := List.forall_mem_cons.mp hlast
    have hrest := ih hnext' hlast'
    cases rest with
    | nil => exact hl.append Reads.nil
    | cons item' rest => exact hn.append hrest

theorem quoting_turns {l : List α} {quoted : α → List CStr}
    (hbody : ∀ item ∈ l, Quoting (body item) (quoted item))
    (hnext : ∀ item ∈ l, quote ∉ next item) (hlast : ∀ item ∈ l, quote ∉ last item) :
    Quoting (turns body next last l) (l.flatMap quoted) := by
  induction l with
  | nil => exact .raw List.not_mem_nil
  | cons item rest ih =>
    obtain ⟨hb, hbody'⟩ := List.forall_mem_cons.mp hbody
    obtain ⟨hn, hnext'⟩ := List.forall_mem_cons.mp hnext
    obtain ⟨hl, hlast'⟩ := List.forall_mem_cons.mp hlast
    have hrest := ih hbody' hnext' hlast'
    have hsep : quote ∉ if rest.isEmpty then last item else next item := by
      cases rest with
      | nil => exact hl
      | cons item' rest => exact hn
    have h := (hb.append (.raw hsep)).append hrest
    rw [List.append_nil] at h
    exact h

theorem turns_map (f : β → α) (body next last : α → List Token) (l : List β) :
    turns body next last (l.map f) = turns (body ∘ f) (next ∘ f) (last ∘ f) l := by
  induction l with
  | nil => rfl
  | cons item rest ih =>
    show _ ++ turns body next last (rest.map f) = _ ++ turns _ _ _ rest
    rw [ih, List.isEmpty_map]
    rfl

theorem skeleton_turns (l : List α) (body next last : α → List Token) :
    skeleton (turns body next last l) =
      turns (fun a => skeleton (body a)) (fun a => skeleton (next a)) (fun a => skeleton (last a)) l
    := by
  induction l with
  | nil => rfl
  | cons item rest ih =>
    show skeleton (_ ++ turns body next last rest) = _
    rw [skeleton_append, skeleton_append, ih]
    cases rest with
    | nil => rfl
    | cons item' rest => rfl

end turns

/-! ## The tokens of a call -/

def keyword (s : String) : Token := .word (str s)

def comma : Token := .op 0x2c
def semicolon : Token := .op 0x3b
def equal : Token := .op 0x3d

def valueTokens (field : FieldInfoT) : List Token :=
  match field.GetType with
  | .kText => [.literal field.GetValue]
  | _ => lex (.code []) field.GetValue

def conditonTokens (item : FieldCondT) : List Token :=
  let head := item._columName ++ cstring_space ++ item._conditon
  if item._b_Str then lex (.code []) head ++ [.literal item._fieldValue]
  else if findLower item._conditon (str "between") then
    lex (.code []) (head ++ item._lowerBound) ++
      keyword "and" :: lex (.code []) item._upperBound
  else lex (.code []) head ++ lex (.code []) item._fieldValue

def conditionTokens (conds : ConditionList) : List Token :=
  turns conditonTokens (fun item => if item._b_and_next then [keyword "and"] else [keyword "or"])
    (fun _ => [semicolon]) conds

def insertTokens (fields : FieldInfoList) : List Token :=
  .op 0x28 :: turns (fun item => [.word item.1]) (fun _ => [comma]) (fun _ => [.op 0x29]) fields ++
    keyword "values" :: .op 0x28 ::
      turns (fun item => valueTokens item.2) (fun _ => [comma]) (fun _ => [.op 0x29, semicolon])
        fields

def selectFieldTokens (item : CStr × FieldInfoT) : List Token :=
  match item.2.GetType with
  | .kText =>
    if findLower item.1 (str "name") then
      [.word (item.1 ++ str "like"),
        .literal (cstring_percent ++ item.2.GetValue ++ cstring_percent)]
    else [.word item.1, equal, .literal item.2.GetValue]
  | _ => .word item.1 :: equal :: lex (.code []) item.2.GetValue

def selectTokens (fields : FieldInfoList) : List Token :=
  keyword "where" :: turns selectFieldTokens (fun _ => [keyword "and"]) (fun _ => []) fields

def equalTokens (item : CStr × FieldInfoT) : List Token :=
  .word item.1 :: equal :: valueTokens item.2

def setTokens (fields : FieldInfoList) : List Token :=
  turns (fun item => if isKey item then [] else equalTokens item)
    (fun item => if isKey item then [] else [comma]) (fun _ => []) fields

/-- The name of the key is missing where there is none. -/
def keyTokens (key : CStr × CStr) : List Token :=
  flush key.1 ++ [equal, .literal key.2, semicolon]

/-- The where clause of an `update`. -/
def whereTokens (fields : FieldInfoList) : Option ConditionList → List Token
  | none => keyTokens (primirykey fields ([], []))
  | some conldtion_list => conditionTokens conldtion_list

def updateTokens (fields : FieldInfoList) (conds : Option ConditionList) : List Token :=
  keyword "set" :: (setTokens fields ++ keyword "where" :: whereTokens fields conds)

def deleteTokens (fields : FieldInfoList) : List Token :=
  keyword "where" :: turns equalTokens (fun _ => [keyword "and"]) (fun _ => [semicolon]) fields

/-- The tokens of a body, where there is one. -/
def bodyTokens (fields : FieldInfoList) (body : FieldInfoList → List Token) : List Token :=
  if (validFields fields).isEmpty then [] else body (validFields fields)

/-- **The tokens of a call.** -/
def Statement.tokens : Statement → List Token
  | insert t fields =>
    keyword "insert" :: keyword "into" :: .word t :: bodyTokens fields insertTokens
  | select t fields limit sort =>
    keyword "select" :: .op 0x2a :: keyword "from" :: .word t :: bodyTokens fields selectTokens ++
      (if sort.isEmpty then [] else [keyword "order", keyword "by", .word sort]) ++
      (if limit.isEmpty then [] else [keyword "limit", .word limit]) ++ [semicolon]
  | update t fields conds =>
    keyword "update" :: .word t :: bodyTokens fields fun fields => updateTokens fields conds
  | delete t fields _ =>
    keyword "delete" :: keyword "from" :: .word t :: bodyTokens fields deleteTokens

/-! ## Reading the text -/

theorem reads_semicolon : Reads cstring_semicolon [semicolon] := Reads.op (by decide) rfl

theorem reads_op_blank {b : UInt8} (hb : b ≠ 0) (hstep : step (.code []) b = ([.op b], .code [])) :
    Reads [b, 0x20] [.op b] := (Reads.op hb hstep).append Reads.blank

theorem reads_word_blank {w : CStr} (hw : IsName w) : Reads (w ++ cstring_space) [.word w] :=
  Reads.word hw.ne_nil hw.bytes rfl Reads.blank

theorem isName_str {s : String} (hne : str s ≠ []) (hb : (str s).all wordByte = true) :
    IsName (str s) := ⟨hne, List.all_eq_true.mp hb⟩

theorem reads_keyword {s : String} {c : CStr} (hne : str s ≠ [])
    (hb : (str s).all wordByte = true) (hc : c = str s ++ cstring_space) :
    Reads c [keyword s] := by
  rw [hc]
  exact reads_word_blank (isName_str hne hb)

theorem reads_insert : Reads cstring_insert [keyword "insert"] := reads_keyword (by decide) rfl rfl
theorem reads_into : Reads cstring_into [keyword "into"] := reads_keyword (by decide) rfl rfl
theorem reads_select : Reads cstring_select [keyword "select"] := reads_keyword (by decide) rfl rfl
theorem reads_from : Reads cstring_from [keyword "from"] := reads_keyword (by decide) rfl rfl
theorem reads_update : Reads cstring_update [keyword "update"] := reads_keyword (by decide) rfl rfl
theorem reads_delete : Reads cstring_delete [keyword "delete"] := reads_keyword (by decide) rfl rfl
theorem reads_where : Reads cstring_where [keyword "where"] := reads_keyword (by decide) rfl rfl
theorem reads_set : Reads cstring_set [keyword "set"] := reads_keyword (by decide) rfl rfl
theorem reads_values : Reads cstring_values [keyword "values"] := reads_keyword (by decide) rfl rfl
theorem reads_and : Reads cstring_and [keyword "and"] := reads_keyword (by decide) rfl rfl
theorem reads_or : Reads cstring_or [keyword "or"] := reads_keyword (by decide) rfl rfl
theorem reads_limit : Reads cstring_limit [keyword "limit"] := reads_keyword (by decide) rfl rfl

theorem reads_order_by : Reads cstring_order_by [keyword "order", keyword "by"] :=
  Reads.append (c := str "order ") (reads_keyword (by decide) rfl rfl)
    (reads_keyword (by decide) rfl rfl)

theorem reads_star : Reads cstring_star [.op 0x2a] := reads_op_blank (by decide) rfl
theorem reads_left_bracket : Reads cstring_left_bracket [.op 0x28] :=
  reads_op_blank (by decide) rfl
theorem reads_right_bracket : Reads cstring_right_bracket [.op 0x29] :=
  reads_op_blank (by decide) rfl
theorem reads_comma : Reads cstring_comma [comma] := reads_op_blank (by decide) rfl
theorem reads_equal : Reads cstring_equal [equal] := Reads.op (by decide) rfl

/-! ## Pieces that hold no value -/

/-- A piece without quotes, NUL and semicolons that ends in a word or between tokens. -/
structure IsRaw (r : CStr) : Prop where
  opens : Open r
  no_nul : (0 : UInt8) ∉ r
  no_quote : quote ∉ r
  no_semicolon : (0x3b : UInt8) ∉ r

theorem IsRaw.append {r r' : CStr} (h : IsRaw r) (h' : IsRaw r') : IsRaw (r ++ r') where
  opens := h.opens.append h'.opens
  no_nul := List.not_mem_append h.no_nul h'.no_nul
  no_quote := List.not_mem_append h.no_quote h'.no_quote
  no_semicolon := List.not_mem_append h.no_semicolon h'.no_semicolon

theorem isRaw_nil : IsRaw [] :=
  ⟨fun cur => ⟨cur, rfl⟩, List.not_mem_nil, List.not_mem_nil, List.not_mem_nil⟩

theorem isRaw_word {w : CStr} (hw : ∀ b ∈ w, wordByte b = true) : IsRaw w where
  opens := open_of_forall fun b hb => .inl (hw b hb)
  no_nul := not_mem_of_wordByte hw rfl
  no_quote := not_mem_of_wordByte hw rfl
  no_semicolon := not_mem_of_wordByte hw rfl

theorem IsName.isRaw {w : CStr} (h : IsName w) : IsRaw w := isRaw_word h.bytes

theorem plainByte_of_opByte {b : UInt8} (h : opByte b = true) : PlainByte b := by
  unfold opByte at h
  simp only [Bool.or_eq_true, beq_iff_eq] at h
  rcases h with ((((h | rfl) | rfl) | rfl) | rfl) | rfl
  · exact .inl h
  all_goals exact .inr rfl

theorem isRaw_op {c : CStr} (hc : ∀ b ∈ c, opByte b = true) : IsRaw c where
  opens := open_of_forall fun b hb => plainByte_of_opByte (hc b hb)
  no_nul := fun h => absurd (hc 0 h) (by decide)
  no_quote := fun h => absurd (hc quote h) (by decide)
  no_semicolon := fun h => absurd (hc 0x3b h) (by decide)

theorem isRaw_space : IsRaw cstring_space := isRaw_op (List.all_eq_true.mp rfl)

theorem wordByte_of_isDigit {b : UInt8} (h : isDigit b = true) : wordByte b = true := by
  unfold wordByte
  rw [h]
  rfl

theorem isRaw_toText (n : Nat) : IsRaw (toText n) :=
  isRaw_word fun b hb => wordByte_of_isDigit (isDigit_of_mem_toText n b hb)

theorem zeroPadInt_zero (n : Int) :
    zeroPadInt 0 n = if n < 0 then 0x2d :: toText n.natAbs else toText n.natAbs := by
  simp [zeroPadInt]

theorem toText_eq_cons (n : Nat) : ∃ d ds, toText n = d :: ds ∧ isDigit d = true := by
  cases h : toText n with
  | nil =>
    rw [toText_eq] at h
    exact absurd (List.append_eq_nil_iff.mp h).2 (List.cons_ne_nil _ _)
  | cons d ds => exact ⟨d, ds, rfl, isDigit_of_mem_toText n d (h ▸ List.mem_cons_self)⟩

theorem isRaw_number (n : Int) : IsRaw (zeroPadInt 0 n) := by
  rw [zeroPadInt_zero]
  by_cases hn : n < 0
  · rw [if_pos hn]
    have hdigits := isRaw_toText n.natAbs
    refine ⟨fun cur => ?_, ?_, ?_, ?_⟩
    · obtain ⟨d, ds, hd, hdigit⟩ := toText_eq_cons n.natAbs
      have hd' : d ≠ 0x2d := fun h => by rw [h] at hdigit; cases hdigit
      have hminus : step (.code cur) 0x2d = (flush cur ++ [], .minus) := rfl
      have hafter : step .minus d = after (.op 0x2d) d := if_neg hd'
      have hcode : (step .minus d).2 = (step (.code []) d).2 := by rw [hafter]; rfl
      obtain ⟨cur', hcur'⟩ := hdigits.opens []
      refine ⟨cur', ?_⟩
      rw [hd] at hcur' ⊢
      rw [modeAfter, hminus, modeAfter, hcode]
      exact hcur'
    · exact fun h => (List.mem_cons.mp h).elim (fun h => by cases h) hdigits.no_nul
    · exact fun h => (List.mem_cons.mp h).elim (fun h => by cases h) hdigits.no_quote
    · exact fun h => (List.mem_cons.mp h).elim (fun h => by cases h) hdigits.no_semicolon
  · rw [if_neg hn]
    exact isRaw_toText _

theorem IsRaw.reads {r c : CStr} {d : UInt8} {ts : List Token} (h : IsRaw r)
    (hd : wordByte d = false) (hc : Reads (d :: c) ts) :
    Reads (r ++ d :: c) (lex (.code []) r ++ ts) := Reads.raw h.opens h.no_nul hd hc

theorem IsRaw.reads_blank {r : CStr} (h : IsRaw r) :
    Reads (r ++ cstring_space) (lex (.code []) r) := by
  have hreads := h.reads rfl Reads.blank
  rwa [List.append_nil] at hreads

theorem IsRaw.quoting {r : CStr} (h : IsRaw r) : Quoting r [] := .raw h.no_quote

/-! ## Reading the bodies -/

theorem semicolon_eq : cstring_semicolon = [0x3b] := rfl
theorem space_eq : cstring_space = [0x20] := rfl
theorem equal_eq : cstring_equal = [0x3d] := rfl
theorem quote_eq : cstring_quote = [quote] := rfl

theorem valid_cases {field : FieldInfoT} (h : field.IsValid = true) :
    (field.GetType = .kText) ∨
      ((field.GetType = .kInteger ∨ field.GetType = .kBoolean) ∧ IsRaw field.GetValue) := by
  cases field with
  | ofType t => cases h
  | ofInt n c => exact .inr ⟨.inl rfl, isRaw_number n⟩
  | ofBool b c => exact .inr ⟨.inr rfl, isRaw_word (List.all_eq_true.mp rfl)⟩
  | ofText v c => exact .inl rfl

section fields

variable {field : FieldInfoT} {item : CStr × FieldInfoT} {c : CStr} {d : UInt8} {ts : List Token}

theorem reads_quoted {v : CStr} (hv : Plain v) (hd : d ≠ quote) (h : Reads (d :: c) ts) :
    Reads (cstring_quote ++ v ++ cstring_quote ++ d :: c) (.literal v :: ts) := by
  have hreads := Reads.literal hv.1 hv.2 hd h
  have htext : cstring_quote ++ v ++ cstring_quote ++ d :: c = quote :: v ++ quote :: d :: c := by
    simp [quote_eq]
  rw [htext]
  exact hreads

theorem reads_value (hvalid : field.IsValid = true) (hplain : ∀ v ∈ fieldQuoted field, Plain v)
    (hword : wordByte d = false) (hd : d ≠ quote) (h : Reads (d :: c) ts) :
    Reads (valueText field ++ d :: c) (valueTokens field ++ ts) := by
  rcases valid_cases hvalid with htype | ⟨htype, hraw⟩
  · have hv : Plain field.GetValue := by
      unfold fieldQuoted at hplain
      rw [htype] at hplain
      exact hplain _ (List.mem_singleton.mpr rfl)
    unfold valueText valueTokens
    rw [htype]
    exact reads_quoted hv hd h
  · unfold valueText valueTokens
    rcases htype with htype | htype
    · rw [htype]
      exact hraw.reads hword h
    · rw [htype]
      exact hraw.reads hword h

theorem reads_name_equal {name : CStr} (hname : IsName name) (h : Reads c ts) :
    Reads (name ++ (cstring_equal ++ c)) (.word name :: equal :: ts) := by
  rw [equal_eq]
  exact Reads.word hname.ne_nil hname.bytes rfl (reads_equal.append h)

theorem reads_equal_value (hname : IsName item.1) (hvalid : item.2.IsValid = true)
    (hplain : ∀ v ∈ fieldQuoted item.2, Plain v) (hword : wordByte d = false) (hd : d ≠ quote)
    (h : Reads (d :: c) ts) :
    Reads (item.1 ++ updateText item ++ d :: c) (equalTokens item ++ ts) := by
  have hreads := reads_name_equal hname (reads_value hvalid hplain hword hd h)
  unfold updateText
  rw [List.append_assoc, List.append_assoc]
  exact hreads

theorem deleteText_eq (hvalid : item.2.IsValid = true) :
    deleteText item = updateText item ++ cstring_space := by
  unfold deleteText updateText valueText
  rcases valid_cases hvalid with htype | ⟨htype | htype, -⟩
  all_goals
    rw [htype]
    simp only [List.append_assoc]

theorem reads_selectField (hname : IsName item.1) (hvalid : item.2.IsValid = true)
    (hplain : ∀ v ∈ selectQuoted item, Plain v) :
    Reads (item.1 ++ selectText item) (selectFieldTokens item) := by
  rcases valid_cases hvalid with htype | ⟨htype, hraw⟩
  · unfold selectText selectFieldTokens
    unfold selectQuoted at hplain
    rw [htype] at hplain ⊢
    by_cases hfind : findLower item.1 (str "name") = true
    · have hv := hplain _ (by simp only [hfind, if_true]; exact List.mem_singleton.mpr rfl)
      have hlike : IsName (item.1 ++ str "like") :=
        ⟨fun h => hname.ne_nil (List.append_eq_nil_iff.mp h).1,
          List.forall_mem_append.mpr ⟨hname.bytes, List.all_eq_true.mp rfl⟩⟩
      have hreads := (reads_word_blank hlike).append
        (reads_quoted hv (by decide) Reads.blank)
      simp only [hfind, if_true]
      have htext : item.1 ++ (cstring_like ++ (cstring_quote ++ cstring_percent) ++
          item.2.GetValue ++ (cstring_percent ++ cstring_quote) ++ cstring_space) =
          item.1 ++ str "like" ++ cstring_space ++ (cstring_quote ++
            (cstring_percent ++ item.2.GetValue ++ cstring_percent) ++ cstring_quote ++
              [0x20]) := by
        have hlike' : cstring_like = str "like" ++ cstring_space := rfl
        rw [hlike', space_eq]
        simp only [List.append_assoc]
      rw [htext]
      exact hreads
    · have hv := hplain _ (by simp only [hfind]; exact List.mem_singleton.mpr rfl)
      have hreads := reads_name_equal hname (reads_quoted hv (by decide) Reads.blank)
      simp only [hfind, Bool.false_eq_true, if_false]
      have htext : item.1 ++ (cstring_equal ++ (cstring_quote ++ item.2.GetValue ++
          cstring_quote) ++ cstring_space) = item.1 ++ (cstring_equal ++
            (cstring_quote ++ item.2.GetValue ++ cstring_quote ++ [0x20])) := by
        rw [space_eq]
        simp only [List.append_assoc]
      rw [htext]
      exact hreads
  · have hreads := reads_name_equal hname hraw.reads_blank
    unfold selectText selectFieldTokens
    rcases htype with htype | htype
    all_goals
      rw [htype]
      rw [← List.append_assoc] at hreads
      simp only [List.append_assoc] at hreads ⊢
      exact hreads

theorem reads_conditon {item : FieldCondT} (hname : IsName item._columName)
    (hop : ∀ b ∈ item._conditon, opByte b = true) (hplain : ∀ v ∈ conditonQuoted item, Plain v) :
    Reads (conditonText item) (conditonTokens item) := by
  have hhead : IsRaw (item._columName ++ cstring_space ++ item._conditon) :=
    (hname.isRaw.append isRaw_space).append (isRaw_op hop)
  unfold conditonText conditonTokens
  unfold conditonQuoted at hplain
  by_cases hstr : item._b_Str = true
  · rw [if_pos hstr] at hplain
    have hreads := hhead.reads_blank.append (reads_quoted (hplain _ List.mem_cons_self)
      (by decide) Reads.blank)
    simp only [hstr, if_true]
    have htext : item._columName ++ cstring_space ++ item._conditon ++ (cstring_space ++
        cstring_quote ++ item._fieldValue ++ (cstring_quote ++ cstring_space)) =
        item._columName ++ cstring_space ++ item._conditon ++ cstring_space ++
          (cstring_quote ++ item._fieldValue ++ cstring_quote ++ [0x20]) := by
      rw [space_eq]
      simp only [List.append_assoc]
    rw [htext]
    exact hreads
  · have hnumber : IsRaw item._fieldValue ∧ IsRaw item._lowerBound ∧ IsRaw item._upperBound := by
      cases item with
      | ofText name op v next => exact absurd rfl hstr
      | ofInt name op n next => exact ⟨isRaw_number n, isRaw_nil, isRaw_nil⟩
      | ofRange name op lo hi next => exact ⟨isRaw_nil, isRaw_number lo, isRaw_number hi⟩
    by_cases hbetween : findLower item._conditon (str "between") = true
    · have hreads := ((hhead.append hnumber.2.1).reads_blank.append reads_and).append
        hnumber.2.2.reads_blank
      simp only [hstr, hbetween, if_true]
      simp only [List.append_assoc] at hreads ⊢
      exact hreads
    · have hreads := hhead.reads_blank.append hnumber.1.reads_blank
      simp only [hstr, hbetween]
      simp only [List.append_assoc] at hreads ⊢
      exact hreads

end fields

section bodies

variable {fields : FieldInfoList} {conds : Option ConditionList}

theorem reads_insertBody (hvalid : ∀ item ∈ fields, item.2.IsValid = true)
    (hnamed : FieldsNamed fields)
    (hplain : ∀ v ∈ fields.flatMap fun item => fieldQuoted item.2, Plain v) :
    Reads (MakeInsertTextBody fields none) (insertTokens fields) := by
  rw [List.forall_mem_flatMap] at hplain
  have hcolumns : Reads (insertColumns fields) (turns (fun item => [.word item.1])
      (fun _ => [comma]) (fun _ => [.op 0x29]) fields) := by
    refine reads_turns (fun item hitem => ?_) (fun item hitem => ?_)
    · exact Reads.word (hnamed item hitem).ne_nil (hnamed item hitem).bytes rfl reads_comma
    · exact Reads.word (hnamed item hitem).ne_nil (hnamed item hitem).bytes rfl reads_right_bracket
  have hvalues : Reads (insertValues fields) (turns (fun item => valueTokens item.2)
      (fun _ => [comma]) (fun _ => [.op 0x29, semicolon]) fields) := by
    refine reads_turns (fun item hitem => ?_) (fun item hitem => ?_)
    · exact reads_value (hvalid item hitem) (hplain item hitem) rfl (by decide) reads_comma
    · exact reads_value (hvalid item hitem) (hplain item hitem) rfl (by decide)
        (reads_right_bracket.append reads_semicolon)
  have hreads := (reads_left_bracket.append hcolumns).append
    ((reads_values.append reads_left_bracket).append hvalues)
  have htext : MakeInsertTextBody fields none = cstring_left_bracket ++ insertColumns fields ++
      (cstring_values ++ cstring_left_bracket ++ insertValues fields) := List.append_nil _
  rw [htext]
  exact hreads

theorem reads_selectBody (hvalid : ∀ item ∈ fields, item.2.IsValid = true)
    (hnamed : FieldsNamed fields) (hplain : ∀ v ∈ fields.flatMap selectQuoted, Plain v) :
    Reads (MakeSelectTextBody fields none) (selectTokens fields) := by
  rw [List.forall_mem_flatMap] at hplain
  have hfields : Reads (selectFields fields) (turns selectFieldTokens (fun _ => [keyword "and"])
      (fun _ => []) fields) := by
    refine reads_turns (fun item hitem => ?_) (fun item hitem => ?_)
    · exact (reads_selectField (hnamed item hitem) (hvalid item hitem)
        (hplain item hitem)).append reads_and
    · exact (reads_selectField (hnamed item hitem) (hvalid item hitem)
        (hplain item hitem)).append Reads.nil
  have htext : MakeSelectTextBody fields none = cstring_where ++ selectFields fields :=
    List.append_nil _
  rw [htext]
  exact reads_where.append hfields

theorem reads_deleteBody (hvalid : ∀ item ∈ fields, item.2.IsValid = true)
    (hnamed : FieldsNamed fields)
    (hplain : ∀ v ∈ fields.flatMap fun item => fieldQuoted item.2, Plain v) :
    Reads (MakeDeleteTextBody fields none) (deleteTokens fields) := by
  rw [List.forall_mem_flatMap] at hplain
  have hitems : ∀ item ∈ fields, Reads (item.1 ++ deleteText item) (equalTokens item) := by
    intro item hitem
    have hreads := reads_equal_value (hnamed item hitem) (hvalid item hitem) (hplain item hitem)
      rfl (by decide) Reads.blank
    rw [List.append_nil] at hreads
    rw [deleteText_eq (hvalid item hitem), ← List.append_assoc]
    exact hreads
  have hfields : Reads (deleteFields fields) (turns equalTokens (fun _ => [keyword "and"])
      (fun _ => [semicolon]) fields) :=
    reads_turns (fun item hitem => (hitems item hitem).append reads_and)
      (fun item hitem => (hitems item hitem).append reads_semicolon)
  have htext : MakeDeleteTextBody fields none = cstring_where ++ deleteFields fields :=
    List.append_nil _
  rw [htext]
  exact reads_where.append hfields

theorem reads_conditions {conds : ConditionList} (hnamed : ConditionsNamed conds)
    (hplain : ∀ v ∈ conds.flatMap conditonQuoted, Plain v) :
    Reads (GetConditonSql conds) (conditionTokens conds) := by
  rw [List.forall_mem_flatMap] at hplain
  have hitems : ∀ item ∈ conds, Reads (conditonText item) (conditonTokens item) :=
    fun item hitem => reads_conditon (hnamed item hitem).1 (hnamed item hitem).2
      (hplain item hitem)
  refine reads_turns (fun item hitem => (hitems item hitem).append ?_)
    (fun item hitem => (hitems item hitem).append reads_semicolon)
  by_cases hnext : item._b_and_next = true
  · rw [if_pos hnext, if_pos hnext]
    exact reads_and
  · rw [if_neg hnext, if_neg hnext]
    exact reads_or

theorem primirykey_name (hnamed : FieldsNamed fields) {key : CStr × CStr}
    (hkey : key.1 = [] ∨ IsName key.1) :
    (primirykey fields key).1 = [] ∨ IsName (primirykey fields key).1 := by
  induction fields generalizing key with
  | nil => exact hkey
  | cons item rest ih =>
    obtain ⟨hitem, hrest⟩ := List.forall_mem_cons.mp hnamed
    unfold primirykey
    split_ifs
    · exact ih hrest (.inr hitem)
    · exact ih hrest hkey

theorem reads_key {key : CStr × CStr} (hname : key.1 = [] ∨ IsName key.1) (hplain : Plain key.2) :
    Reads (key.1 ++ cstring_equal ++ (cstring_quote ++ key.2 ++ cstring_quote) ++
      cstring_semicolon) (keyTokens key) := by
  have hvalue := reads_quoted hplain (by decide) reads_semicolon
  have htext : key.1 ++ cstring_equal ++ (cstring_quote ++ key.2 ++ cstring_quote) ++
      cstring_semicolon = key.1 ++ (cstring_equal ++ (cstring_quote ++ key.2 ++ cstring_quote ++
        [0x3b])) := by
    rw [semicolon_eq]
    simp only [List.append_assoc]
  rw [htext]
  unfold keyTokens
  rcases hname with hname | hname
  · rw [hname]
    exact reads_equal.append hvalue
  · rw [flush_of_ne_nil hname.ne_nil]
    exact reads_name_equal hname hvalue

theorem reads_updateBody (hvalid : ∀ item ∈ fields, item.2.IsValid = true)
    (hnamed : FieldsNamed fields) (hconds : ∀ l ∈ conds, ConditionsNamed l)
    (hplain : ∀ v ∈ fields.flatMap updateQuoted, Plain v)
    (hwhere : ∀ v ∈ whereQuoted fields conds, Plain v) :
    Reads (MakeUpdateTextBody fields conds) (updateTokens fields conds) := by
  rw [List.forall_mem_flatMap] at hplain
  have hset : Reads (updateFields fields) (setTokens fields) := by
    refine reads_turns (fun item hitem => ?_) (fun item hitem => ?_)
    all_goals
      have hquoted := hplain item hitem
      unfold updateQuoted at hquoted
      by_cases hkey : isKey item = true
      · simp only [hkey, if_true]
        exact Reads.nil
      · simp only [hkey] at hquoted ⊢
        first
          | exact reads_equal_value (hnamed item hitem) (hvalid item hitem) hquoted rfl
              (by decide) reads_comma
          | exact reads_equal_value (hnamed item hitem) (hvalid item hitem) hquoted rfl
              (by decide) Reads.blank
  unfold MakeUpdateTextBody updateTokens
  cases conds with
  | none =>
    have hkey := reads_key (primirykey_name hnamed (.inl rfl)) (hwhere _ List.mem_cons_self)
    exact (reads_set.append hset).append (reads_where.append hkey)
  | some l =>
    exact (reads_set.append hset).append
      (reads_where.append (reads_conditions (hconds l rfl) hwhere))

end bodies

/-! ## Reading a call -/

theorem validFields_valid (fields : FieldInfoList) :
    ∀ item ∈ validFields fields, item.2.IsValid = true :=
  fun _ hitem => (List.mem_filter.mp hitem).2

theorem validFields_named {fields : FieldInfoList} (h : FieldsNamed fields) :
    FieldsNamed (validFields fields) :=
  fun item hitem => h item (List.mem_of_mem_filter hitem)

theorem isSpace_of_wordByte {b : UInt8} (h : wordByte b = true) : isSpace b = false := by
  by_contra hs
  simp only [Bool.not_eq_false, isSpace, Bool.or_eq_true, beq_iff_eq, Bool.and_eq_true,
    decide_eq_true_eq, UInt8.le_iff_toNat_le] at hs
  have hbound : b.toNat ≤ 0x20 := by
    rcases hs with rfl | ⟨-, hs⟩
    · exact Nat.le_refl _
    · exact Nat.le_trans hs (by decide)
  simp only [wordByte, isDigit, Bool.or_eq_true, beq_iff_eq, Bool.and_eq_true, decide_eq_true_eq,
    UInt8.le_iff_toNat_le] at h
  rcases h with ((((⟨h, -⟩ | ⟨h, -⟩) | ⟨h, -⟩) | rfl) | rfl) | h
  all_goals
    first
      | exact absurd (Nat.le_trans h hbound) (by decide)
      | exact absurd hbound (by decide)

theorem IsName.trim_eq {w : CStr} (h : IsName w) : trim isSpace w = w := by
  have hspace : ∀ b ∈ w, isSpace b = false := fun b hb => isSpace_of_wordByte (h.bytes b hb)
  refine Trimmed.trim_eq ⟨fun c hc => hspace c ?_, fun c hc => hspace c ?_⟩
  · exact List.mem_of_mem_head? hc
  · exact List.mem_of_mem_getLast? hc

theorem isEmpty_of_isName {w : CStr} (h : IsName w) : w.isEmpty = false := by
  cases w with
  | nil => exact absurd rfl h.ne_nil
  | cons b w => rfl

section format

variable {fields : FieldInfoList} {conds : Option ConditionList}

theorem FormatSQL_of_isEmpty (h : (validFields fields).isEmpty = true) (op : OpType) :
    FormatSQL fields op conds = [] := if_pos h

theorem format_insert (h : ¬ (validFields fields).isEmpty = true) :
    FormatSQL fields ._INSERT conds = MakeInsertTextBody (validFields fields) none := if_neg h

theorem format_select (h : ¬ (validFields fields).isEmpty = true) :
    FormatSQL fields ._SELECT conds = MakeSelectTextBody (validFields fields) none := if_neg h

theorem format_update (h : ¬ (validFields fields).isEmpty = true) :
    FormatSQL fields ._UPDATE conds = MakeUpdateTextBody (validFields fields) conds := if_neg h

theorem format_delete (h : ¬ (validFields fields).isEmpty = true) :
    FormatSQL fields ._DELETE conds = MakeDeleteTextBody (validFields fields) none := if_neg h

theorem bodyTokens_of_isEmpty (h : (validFields fields).isEmpty = true)
    (body : FieldInfoList → List Token) : bodyTokens fields body = [] := if_pos h

theorem bodyTokens_of_not_isEmpty (h : ¬ (validFields fields).isEmpty = true)
    (body : FieldInfoList → List Token) : bodyTokens fields body = body (validFields fields) :=
  if_neg h

theorem reads_formatInsert (hnamed : FieldsNamed fields)
    (hplain : ∀ v ∈ (validFields fields).flatMap fun item => fieldQuoted item.2, Plain v) :
    Reads (FormatSQL fields ._INSERT none) (bodyTokens fields insertTokens) := by
  by_cases h : (validFields fields).isEmpty = true
  · rw [FormatSQL_of_isEmpty h, bodyTokens_of_isEmpty h]
    exact Reads.nil
  · rw [format_insert h, bodyTokens_of_not_isEmpty h]
    exact reads_insertBody (validFields_valid fields) (validFields_named hnamed) hplain

theorem reads_formatSelect (hnamed : FieldsNamed fields)
    (hplain : ∀ v ∈ (validFields fields).flatMap selectQuoted, Plain v) :
    Reads (FormatSQL fields ._SELECT none) (bodyTokens fields selectTokens) := by
  by_cases h : (validFields fields).isEmpty = true
  · rw [FormatSQL_of_isEmpty h, bodyTokens_of_isEmpty h]
    exact Reads.nil
  · rw [format_select h, bodyTokens_of_not_isEmpty h]
    exact reads_selectBody (validFields_valid fields) (validFields_named hnamed) hplain

theorem reads_formatDelete (conds : Option ConditionList) (hnamed : FieldsNamed fields)
    (hplain : ∀ v ∈ (validFields fields).flatMap fun item => fieldQuoted item.2, Plain v) :
    Reads (FormatSQL fields ._DELETE conds) (bodyTokens fields deleteTokens) := by
  by_cases h : (validFields fields).isEmpty = true
  · rw [FormatSQL_of_isEmpty h, bodyTokens_of_isEmpty h]
    exact Reads.nil
  · rw [format_delete h, bodyTokens_of_not_isEmpty h]
    exact reads_deleteBody (validFields_valid fields) (validFields_named hnamed) hplain

theorem reads_formatUpdate (hnamed : FieldsNamed fields) (hconds : ∀ l ∈ conds, ConditionsNamed l)
    (hplain : ∀ v ∈ (Statement.update [] fields conds).quoted, Plain v) :
    Reads (FormatSQL fields ._UPDATE conds)
      (bodyTokens fields fun fields => updateTokens fields conds) := by
  by_cases h : (validFields fields).isEmpty = true
  · rw [FormatSQL_of_isEmpty h, bodyTokens_of_isEmpty h]
    exact Reads.nil
  · have hquoted : (Statement.update [] fields conds).quoted =
        (validFields fields).flatMap updateQuoted ++ whereQuoted (validFields fields) conds :=
      if_neg h
    rw [hquoted, List.forall_mem_append] at hplain
    rw [format_update h, bodyTokens_of_not_isEmpty h]
    exact reads_updateBody (validFields_valid fields) (validFields_named hnamed) hconds hplain.1
      hplain.2

end format

/-! The texts of the four makers, for a table with a name. -/

section text

variable {t limit sort sql : CStr} {fields : FieldInfoList} {conds : Option ConditionList}

theorem insert_text (h : MakeInserSql t fields = .ok sql) :
    sql = cstring_insert ++ cstring_into ++ t ++ cstring_space ++
      FormatSQL fields ._INSERT none := by
  unfold MakeInserSql at h
  by_cases hempty : (FormatSQL fields ._INSERT none).isEmpty = true
  · simp only [hempty, if_true] at h
    cases h
  · simp only [hempty] at h
    cases h
    rfl

/-- The order and the limit of a `select`, with the semicolon. -/
def selectTail (limit sort : CStr) : CStr :=
  (if sort.isEmpty then [] else cstring_order_by ++ sort ++ cstring_space) ++
    ((if limit.isEmpty then [] else cstring_limit ++ limit) ++ cstring_semicolon)

theorem select_text (ht : IsName t) : MakeSelectSql t fields limit sort =
    .ok (cstring_select ++ cstring_star ++ cstring_from ++ t ++ cstring_space ++
      FormatSQL fields ._SELECT none ++ selectTail limit sort) := by
  unfold MakeSelectSql selectTail
  rw [ht.trim_eq]
  simp only [isEmpty_of_isName ht, Bool.false_eq_true, if_false, List.append_assoc]

theorem update_text (ht : IsName t) : MakeUpdateSql t fields conds =
    .ok (cstring_update ++ t ++ cstring_space ++ FormatSQL fields ._UPDATE conds) := by
  unfold MakeUpdateSql
  rw [ht.trim_eq]
  simp only [isEmpty_of_isName ht, Bool.false_eq_true, if_false]

theorem delete_text (ht : IsName t) : MakeDeleteSql t fields conds =
    .ok (cstring_delete ++ cstring_from ++ t ++ cstring_space ++
      FormatSQL fields ._DELETE conds) := by
  unfold MakeDeleteSql
  rw [ht.trim_eq]
  simp only [isEmpty_of_isName ht, Bool.false_eq_true, if_false]

theorem reads_selectTail (hlimit : ∀ b ∈ limit, wordByte b = true)
    (hsort : ∀ b ∈ sort, wordByte b = true) :
    Reads (selectTail limit sort)
      ((if sort.isEmpty then [] else [keyword "order", keyword "by", .word sort]) ++
        ((if limit.isEmpty then [] else [keyword "limit", .word limit]) ++ [semicolon])) := by
  have hname : ∀ {w : CStr}, (∀ b ∈ w, wordByte b = true) → ¬ w.isEmpty = true → IsName w :=
    fun hw hne => ⟨fun h => hne (h ▸ rfl), hw⟩
  refine Reads.append ?_ ?_
  · by_cases hempty : sort.isEmpty = true
    · rw [if_pos hempty, if_pos hempty]
      exact Reads.nil
    · rw [if_neg hempty, if_neg hempty]
      have hreads := reads_order_by.append (reads_word_blank (hname hsort hempty))
      rw [← List.append_assoc] at hreads
      exact hreads
  · by_cases hempty : limit.isEmpty = true
    · rw [if_pos hempty, if_pos hempty]
      exact reads_semicolon
    · rw [if_neg hempty, if_neg hempty, List.append_assoc]
      have hlim := hname hlimit hempty
      exact reads_limit.append (Reads.word hlim.ne_nil hlim.bytes rfl reads_semicolon)

end text

/-- **The tokens of the text** of a call whose values are plain. -/
theorem Statement.reads_text {s : Statement} (hnamed : s.Named) (hplain : ∀ v ∈ s.quoted, Plain v)
    {sql : CStr} (h : s.text = .ok sql) : Reads sql s.tokens := by
  cases s with
  | insert t fields =>
    obtain ⟨ht, hfields⟩ := hnamed
    rw [insert_text h]
    have hreads := ((reads_insert.append reads_into).append (reads_word_blank ht)).append
      (reads_formatInsert hfields hplain)
    rw [← List.append_assoc] at hreads
    exact hreads
  | select t fields limit sort =>
    obtain ⟨ht, hfields, hlimit, hsort⟩ := hnamed
    cases (select_text ht).symm.trans h
    have hreads := ((((reads_select.append reads_star).append reads_from).append
      (reads_word_blank ht)).append (reads_formatSelect hfields hplain)).append
        (reads_selectTail hlimit hsort)
    unfold Statement.tokens
    simp only [List.append_assoc, List.cons_append, List.nil_append] at hreads ⊢
    exact hreads
  | update t fields conds =>
    obtain ⟨ht, hfields, hconds⟩ := hnamed
    cases (update_text ht).symm.trans h
    have hreads := (reads_update.append (reads_word_blank ht)).append
      (reads_formatUpdate hfields hconds hplain)
    simp only [List.append_assoc] at hreads ⊢
    exact hreads
  | delete t fields conds =>
    obtain ⟨ht, hfields, -⟩ := hnamed
    cases (delete_text ht).symm.trans h
    have hreads := ((reads_delete.append reads_from).append (reads_word_blank ht)).append
      (reads_formatDelete conds hfields hplain)
    simp only [List.append_assoc] at hreads ⊢
    exact hreads

/-! ## Literals and semicolons of the tokens -/

/-- Tokens with these literals and no semicolon. -/
structure Carries (ts : List Token) (vs : List CStr) : Prop where
  literals_eq : literals ts = vs
  no_semicolon : semicolon ∉ ts

/-- Tokens with these literals and at most one semicolon, at the end. -/
structure Ends (ts : List Token) (vs : List CStr) : Prop where
  literals_eq : literals ts = vs
  single : semicolon ∉ ts.dropLast

theorem Carries.append {ts us : List Token} {vs ws : List CStr} (ht : Carries ts vs)
    (hu : Carries us ws) : Carries (ts ++ us) (vs ++ ws) where
  literals_eq := by rw [literals_append, ht.literals_eq, hu.literals_eq]
  no_semicolon := List.not_mem_append ht.no_semicolon hu.no_semicolon

theorem Carries.ends {ts : List Token} {vs : List CStr} (h : Carries ts vs) : Ends ts vs where
  literals_eq := h.literals_eq
  single := fun hmem => h.no_semicolon (List.mem_of_mem_dropLast hmem)

theorem Carries.append_ends {ts us : List Token} {vs ws : List CStr} (ht : Carries ts vs)
    (hu : Ends us ws) : Ends (ts ++ us) (vs ++ ws) where
  literals_eq := by rw [literals_append, ht.literals_eq, hu.literals_eq]
  single := by
    cases us with
    | nil =>
      rw [List.append_nil]
      exact ht.ends.single
    | cons u us =>
      rw [List.dropLast_append_cons]
      exact List.not_mem_append ht.no_semicolon hu.single

theorem carries_nil : Carries [] [] := ⟨rfl, List.not_mem_nil⟩

theorem carries_cons {t : Token} {ts : List Token} {vs : List CStr}
    (hlit : literals [t] = []) (ht : t ≠ semicolon) (h : Carries ts vs) : Carries (t :: ts) vs :=
  Carries.append ⟨hlit, fun hmem => ht (List.mem_singleton.mp hmem).symm⟩ h

theorem ends_cons {t : Token} {ts : List Token} {vs : List CStr}
    (hlit : literals [t] = []) (ht : t ≠ semicolon) (h : Ends ts vs) : Ends (t :: ts) vs :=
  Carries.append_ends ⟨hlit, fun hmem => ht (List.mem_singleton.mp hmem).symm⟩ h

theorem carries_word {w : CStr} {ts : List Token} {vs : List CStr} (h : Carries ts vs) :
    Carries (.word w :: ts) vs := carries_cons rfl (fun h => by cases h) h

theorem ends_word {w : CStr} {ts : List Token} {vs : List CStr} (h : Ends ts vs) :
    Ends (.word w :: ts) vs := ends_cons rfl (fun h => by cases h) h

theorem carries_literal (v : CStr) : Carries [.literal v] [v] :=
  ⟨rfl, fun h => by cases List.mem_singleton.mp h⟩

theorem ends_semicolon : Ends [semicolon] [] := ⟨rfl, List.not_mem_nil⟩

theorem IsRaw.carries {r : CStr} (h : IsRaw r) : Carries (lex (.code []) r) [] where
  literals_eq := literals_lex_eq_nil h.no_quote []
  no_semicolon := fun hmem => (mem_of_op_mem hmem).elim (fun h => by cases h) h.no_semicolon

section turns

variable {α : Type} {tbody tnext tlast : α → List Token} {quoted : α → List CStr}

theorem carries_turns {l : List α} (hbody : ∀ item ∈ l, Carries (tbody item) (quoted item))
    (hnext : ∀ item ∈ l, Carries (tnext item) []) (hlast : ∀ item ∈ l, Carries (tlast item) []) :
    Carries (turns tbody tnext tlast l) (l.flatMap quoted) := by
  induction l with
  | nil => exact carries_nil
  | cons item rest ih =>
    obtain ⟨hb, hbody'⟩ := List.forall_mem_cons.mp hbody
    obtain ⟨hn, hnext'⟩ := List.forall_mem_cons.mp hnext
    obtain ⟨hl, hlast'⟩ := List.forall_mem_cons.mp hlast
    have hsep : Carries (if rest.isEmpty then tlast item else tnext item) [] := by
      cases rest with
      | nil => exact hl
      | cons item' rest => exact hn
    have h := (hb.append hsep).append (ih hbody' hnext' hlast')
    rw [List.append_nil] at h
    exact h

theorem ends_turns {l : List α} (hbody : ∀ item ∈ l, Carries (tbody item) (quoted item))
    (hnext : ∀ item ∈ l, Carries (tnext item) []) (hlast : ∀ item ∈ l, Ends (tlast item) []) :
    Ends (turns tbody tnext tlast l) (l.flatMap quoted) := by
  induction l with
  | nil => exact carries_nil.ends
  | cons item rest ih =>
    obtain ⟨hb, hbody'⟩ := List.forall_mem_cons.mp hbody
    obtain ⟨hn, hnext'⟩ := List.forall_mem_cons.mp hnext
    obtain ⟨hl, hlast'⟩ := List.forall_mem_cons.mp hlast
    cases rest with
    | nil =>
      have h := hb.append_ends hl
      show Ends (tbody item ++ tlast item ++ []) _
      rw [List.append_nil]
      exact h
    | cons item' rest =>
      have h := (hb.append hn).append_ends (ih hbody' hnext' hlast')
      rw [List.append_nil] at h
      exact h

end turns

theorem carries_value {field : FieldInfoT} (h : field.IsValid = true) :
    Carries (valueTokens field) (fieldQuoted field) := by
  unfold valueTokens fieldQuoted
  rcases valid_cases h with htype | ⟨htype | htype, hraw⟩
  · rw [htype]
    exact carries_literal _
  all_goals
    rw [htype]
    exact hraw.carries

theorem carries_equal {item : CStr × FieldInfoT} (h : item.2.IsValid = true) :
    Carries (equalTokens item) (fieldQuoted item.2) :=
  carries_word (carries_cons rfl (fun h => by cases h) (carries_value h))

theorem carries_selectField {item : CStr × FieldInfoT} (h : item.2.IsValid = true) :
    Carries (selectFieldTokens item) (selectQuoted item) := by
  unfold selectFieldTokens selectQuoted
  rcases valid_cases h with htype | ⟨htype | htype, hraw⟩
  · rw [htype]
    by_cases hfind : findLower item.1 (str "name") = true
    · simp only [hfind, if_true]
      exact carries_word (carries_literal _)
    · simp only [hfind, Bool.false_eq_true, if_false]
      exact carries_word (carries_cons rfl (fun h => by cases h) (carries_literal _))
  all_goals
    rw [htype]
    exact carries_word (carries_cons rfl (fun h => by cases h) hraw.carries)

theorem conditon_raw {item : FieldCondT} (hstr : ¬ item._b_Str = true) :
    IsRaw item._fieldValue ∧ IsRaw item._lowerBound ∧ IsRaw item._upperBound := by
  cases item with
  | ofText name op v next => exact absurd rfl hstr
  | ofInt name op n next => exact ⟨isRaw_number n, isRaw_nil, isRaw_nil⟩
  | ofRange name op lo hi next => exact ⟨isRaw_nil, isRaw_number lo, isRaw_number hi⟩

theorem carries_conditon {item : FieldCondT} (hname : IsName item._columName)
    (hop : ∀ b ∈ item._conditon, opByte b = true) :
    Carries (conditonTokens item) (conditonQuoted item) := by
  have hhead : IsRaw (item._columName ++ cstring_space ++ item._conditon) :=
    (hname.isRaw.append isRaw_space).append (isRaw_op hop)
  unfold conditonTokens conditonQuoted
  by_cases hstr : item._b_Str = true
  · simp only [hstr, if_true]
    exact hhead.carries.append (carries_literal _)
  · obtain ⟨hvalue, hlower, hupper⟩ := conditon_raw hstr
    by_cases hbetween : findLower item._conditon (str "between") = true
    · simp only [hstr, hbetween, Bool.false_eq_true, if_false, if_true]
      exact (hhead.append hlower).carries.append (carries_word hupper.carries)
    · simp only [hstr, hbetween, Bool.false_eq_true, if_false]
      exact hhead.carries.append hvalue.carries

section statements

variable {fields : FieldInfoList} {conds : Option ConditionList}

theorem ends_insert (hvalid : ∀ item ∈ fields, item.2.IsValid = true) :
    Ends (insertTokens fields) (fields.flatMap fun item => fieldQuoted item.2) := by
  have hcolumns : Carries (turns (fun item => [.word item.1]) (fun _ => [comma])
      (fun _ => [.op 0x29]) fields) (fields.flatMap fun _ => []) :=
    carries_turns (fun _ _ => carries_word carries_nil)
      (fun _ _ => carries_cons rfl (fun h => by cases h) carries_nil)
      (fun _ _ => carries_cons rfl (fun h => by cases h) carries_nil)
  have hvalues : Ends (turns (fun item => valueTokens item.2) (fun _ => [comma])
      (fun _ => [.op 0x29, semicolon]) fields) (fields.flatMap fun item => fieldQuoted item.2) :=
    ends_turns (fun item hitem => carries_value (hvalid item hitem))
      (fun _ _ => carries_cons rfl (fun h => by cases h) carries_nil)
      (fun _ _ => ends_cons rfl (fun h => by cases h) ends_semicolon)
  have hnone : (fields.flatMap fun _ => ([] : List CStr)) = [] :=
    List.flatMap_eq_nil_iff.mpr fun _ _ => rfl
  rw [hnone] at hcolumns
  exact (carries_cons rfl (fun h => by cases h) hcolumns).append_ends
    (ends_word (ends_cons rfl (fun h => by cases h) hvalues))

theorem carries_select (hvalid : ∀ item ∈ fields, item.2.IsValid = true) :
    Carries (selectTokens fields) (fields.flatMap selectQuoted) :=
  carries_word (carries_turns (fun item hitem => carries_selectField (hvalid item hitem))
    (fun _ _ => carries_word carries_nil) (fun _ _ => carries_nil))

theorem ends_delete (hvalid : ∀ item ∈ fields, item.2.IsValid = true) :
    Ends (deleteTokens fields) (fields.flatMap fun item => fieldQuoted item.2) :=
  ends_word (ends_turns (fun item hitem => carries_equal (hvalid item hitem))
    (fun _ _ => carries_word carries_nil) (fun _ _ => ends_semicolon))

theorem ends_conditions {conds : ConditionList} (hnamed : ConditionsNamed conds) :
    Ends (conditionTokens conds) (conds.flatMap conditonQuoted) := by
  refine ends_turns (fun item hitem => carries_conditon (hnamed item hitem).1 (hnamed item hitem).2)
    (fun item _ => ?_) (fun _ _ => ends_semicolon)
  by_cases hnext : item._b_and_next = true
  · rw [if_pos hnext]
    exact carries_word carries_nil
  · rw [if_neg hnext]
    exact carries_word carries_nil

theorem carries_set (hvalid : ∀ item ∈ fields, item.2.IsValid = true) :
    Carries (setTokens fields) (fields.flatMap updateQuoted) := by
  refine carries_turns (fun item hitem => ?_) (fun item _ => ?_) (fun _ _ => carries_nil)
  · unfold updateQuoted
    by_cases hkey : isKey item = true
    · simp only [hkey, if_true]
      exact carries_nil
    · simp only [hkey, Bool.false_eq_true, if_false]
      exact carries_equal (hvalid item hitem)
  · by_cases hkey : isKey item = true
    · simp only [hkey, if_true]
      exact carries_nil
    · simp only [hkey, Bool.false_eq_true, if_false]
      exact carries_cons rfl (fun h => by cases h) carries_nil

theorem ends_key (key : CStr × CStr) : Ends (keyTokens key) [key.2] := by
  have hname : Carries (flush key.1) [] := by
    cases key.1 with
    | nil => exact carries_nil
    | cons b w => exact carries_word carries_nil
  have hvalue := (carries_literal key.2).append_ends ends_semicolon
  exact hname.append_ends (ends_cons rfl (fun h => by cases h) hvalue)

theorem ends_update (hvalid : ∀ item ∈ fields, item.2.IsValid = true)
    (hconds : ∀ l ∈ conds, ConditionsNamed l) :
    Ends (updateTokens fields conds) (fields.flatMap updateQuoted ++ whereQuoted fields conds) := by
  refine (carries_word (carries_set hvalid)).append_ends (ends_word ?_)
  cases conds with
  | none => exact ends_key _
  | some l => exact ends_conditions (hconds l rfl)

end statements

theorem ends_body {fields : FieldInfoList} {body : FieldInfoList → List Token}
    (vs : FieldInfoList → List CStr) (hnil : vs [] = [])
    (h : Ends (body (validFields fields)) (vs (validFields fields))) :
    Ends (bodyTokens fields body) (vs (validFields fields)) := by
  by_cases hempty : (validFields fields).isEmpty = true
  · rw [bodyTokens_of_isEmpty hempty, List.isEmpty_iff.mp hempty, hnil]
    exact carries_nil.ends
  · rw [bodyTokens_of_not_isEmpty hempty]
    exact h

theorem ends_selectTail (limit sort : CStr) :
    Ends ((if sort.isEmpty then [] else [keyword "order", keyword "by", .word sort]) ++
      ((if limit.isEmpty then [] else [keyword "limit", .word limit]) ++ [semicolon])) [] := by
  have hsort : Carries (if sort.isEmpty then [] else
      [keyword "order", keyword "by", .word sort]) [] := by
    split_ifs
    · exact carries_nil
    · exact carries_word (carries_word (carries_word carries_nil))
  have hlimit : Carries (if limit.isEmpty then [] else [keyword "limit", .word limit]) [] := by
    split_ifs
    · exact carries_nil
    · exact carries_word (carries_word carries_nil)
  exact hsort.append_ends (hlimit.append_ends ends_semicolon)

/-- **The literals of the tokens** are what stands between quotes, and there is one statement. -/
theorem Statement.ends_tokens {s : Statement} (hnamed : s.Named) : Ends s.tokens s.quoted := by
  cases s with
  | insert t fields =>
    exact ends_word (ends_word (ends_word (ends_body
      (fun fields => fields.flatMap fun item => fieldQuoted item.2) rfl
      (ends_insert (validFields_valid fields)))))
  | select t fields limit sort =>
    have hbody : Carries (bodyTokens fields selectTokens)
        ((validFields fields).flatMap selectQuoted) := by
      by_cases hempty : (validFields fields).isEmpty = true
      · rw [bodyTokens_of_isEmpty hempty, List.isEmpty_iff.mp hempty]
        exact carries_nil
      · rw [bodyTokens_of_not_isEmpty hempty]
        exact carries_select (validFields_valid fields)
    have h := hbody.append_ends (ends_selectTail limit sort)
    rw [List.append_nil] at h
    unfold Statement.tokens
    simp only [List.append_assoc, List.cons_append]
    exact ends_word (ends_cons rfl (fun h => by cases h) (ends_word (ends_word h)))
  | update t fields conds =>
    obtain ⟨-, -, hconds⟩ := hnamed
    refine ends_word (ends_word ?_)
    by_cases hempty : (validFields fields).isEmpty = true
    · have hquoted : (Statement.update t fields conds).quoted = [] := if_pos hempty
      rw [bodyTokens_of_isEmpty hempty, hquoted]
      exact carries_nil.ends
    · have hquoted : (Statement.update t fields conds).quoted =
          (validFields fields).flatMap updateQuoted ++ whereQuoted (validFields fields) conds :=
        if_neg hempty
      rw [bodyTokens_of_not_isEmpty hempty, hquoted]
      exact ends_update (validFields_valid fields) hconds
  | delete t fields conds =>
    exact ends_word (ends_word (ends_word (ends_body
      (fun fields => fields.flatMap fun item => fieldQuoted item.2) rfl
      (ends_delete (validFields_valid fields)))))

/-! ## Quotes of the text -/

section quoting

variable {fields : FieldInfoList} {conds : Option ConditionList}

theorem quoting_raw_append {c d : CStr} {vs : List CStr} (hc : quote ∉ c) (hd : Quoting d vs) :
    Quoting (c ++ d) vs := Quoting.append (.raw hc) hd

theorem quoting_append_raw {c d : CStr} {vs : List CStr} (hc : Quoting c vs) (hd : quote ∉ d) :
    Quoting (c ++ d) vs := by
  have h := hc.append (.raw hd)
  rwa [List.append_nil] at h

theorem quoting_quoted (v : CStr) : Quoting (cstring_quote ++ v ++ cstring_quote) [v] :=
  Quoting.value v

theorem quoting_value {field : FieldInfoT} (h : field.IsValid = true) :
    Quoting (valueText field) (fieldQuoted field) := by
  unfold valueText fieldQuoted
  rcases valid_cases h with htype | ⟨htype | htype, hraw⟩
  · rw [htype]
    exact quoting_quoted _
  all_goals
    rw [htype]
    exact hraw.quoting

theorem quoting_update {item : CStr × FieldInfoT} (hname : IsName item.1)
    (h : item.2.IsValid = true) : Quoting (item.1 ++ updateText item) (fieldQuoted item.2) :=
  quoting_raw_append hname.isRaw.no_quote (quoting_raw_append (by decide) (quoting_value h))

theorem quoting_selectField {item : CStr × FieldInfoT} (hname : IsName item.1)
    (h : item.2.IsValid = true) : Quoting (item.1 ++ selectText item) (selectQuoted item) := by
  refine quoting_raw_append hname.isRaw.no_quote ?_
  unfold selectText selectQuoted
  rcases valid_cases h with htype | ⟨htype | htype, hraw⟩
  · rw [htype]
    by_cases hfind : findLower item.1 (str "name") = true
    · simp only [hfind, if_true]
      have hvalue := quoting_quoted (cstring_percent ++ item.2.GetValue ++ cstring_percent)
      have hlike : quote ∉ cstring_like := by decide
      have hspace : quote ∉ cstring_space := by decide
      have hquoting := quoting_append_raw (quoting_raw_append hlike hvalue) hspace
      simp only [List.append_assoc] at hquoting ⊢
      exact hquoting
    · simp only [hfind, Bool.false_eq_true, if_false]
      exact quoting_append_raw (quoting_raw_append (by decide) (quoting_quoted _)) (by decide)
  all_goals
    rw [htype]
    exact quoting_append_raw (quoting_raw_append (by decide) hraw.quoting) (by decide)

theorem quoting_conditon {item : FieldCondT} (hname : IsName item._columName)
    (hop : ∀ b ∈ item._conditon, opByte b = true) :
    Quoting (conditonText item) (conditonQuoted item) := by
  have hhead : IsRaw (item._columName ++ cstring_space ++ item._conditon) :=
    (hname.isRaw.append isRaw_space).append (isRaw_op hop)
  refine quoting_raw_append hhead.no_quote ?_
  unfold conditonQuoted
  by_cases hstr : item._b_Str = true
  · simp only [hstr, if_true]
    have hspace : quote ∉ cstring_space := by decide
    have hquoting := quoting_append_raw
      (quoting_raw_append hspace (quoting_quoted item._fieldValue)) hspace
    simp only [List.append_assoc] at hquoting ⊢
    exact hquoting
  · obtain ⟨hvalue, hlower, hupper⟩ := conditon_raw hstr
    have hand : IsRaw cstring_and := isRaw_op (List.all_eq_true.mp rfl)
    simp only [hstr, Bool.false_eq_true, if_false]
    split_ifs
    · exact (((hlower.append isRaw_space).append hand).append (hupper.append isRaw_space)).quoting
    · exact ((isRaw_space.append hvalue).append isRaw_space).quoting

theorem quoting_conditions {conds : ConditionList} (hnamed : ConditionsNamed conds) :
    Quoting (GetConditonSql conds) (conds.flatMap conditonQuoted) := by
  refine quoting_turns (fun item hitem => quoting_conditon (hnamed item hitem).1
    (hnamed item hitem).2) (fun item _ => ?_) (fun _ _ => by decide)
  split_ifs <;> decide

theorem quoting_key {key : CStr × CStr} (hname : key.1 = [] ∨ IsName key.1) :
    Quoting (key.1 ++ cstring_equal ++ (cstring_quote ++ key.2 ++ cstring_quote) ++
      cstring_semicolon) [key.2] := by
  have hkey : quote ∉ key.1 ++ cstring_equal := by
    refine List.not_mem_append ?_ (by decide)
    rcases hname with h | h
    · rw [h]
      exact List.not_mem_nil
    · exact h.isRaw.no_quote
  exact quoting_append_raw (quoting_raw_append hkey (quoting_quoted _)) (by decide)

theorem quoting_updateBody (hvalid : ∀ item ∈ fields, item.2.IsValid = true)
    (hnamed : FieldsNamed fields) (hconds : ∀ l ∈ conds, ConditionsNamed l) :
    Quoting (MakeUpdateTextBody fields conds)
      (fields.flatMap updateQuoted ++ whereQuoted fields conds) := by
  have hset : Quoting (cstring_set ++ updateFields fields) (fields.flatMap updateQuoted) := by
    refine quoting_raw_append (by decide) (quoting_turns (fun item hitem => ?_)
      (fun item _ => ?_) (fun item _ => ?_))
    · unfold updateQuoted
      by_cases hkey : isKey item = true
      · simp only [hkey, if_true]
        exact .raw List.not_mem_nil
      · simp only [hkey, Bool.false_eq_true, if_false]
        exact quoting_update (hnamed item hitem) (hvalid item hitem)
    all_goals split_ifs <;> decide
  unfold MakeUpdateTextBody
  refine hset.append (quoting_raw_append (by decide) ?_)
  cases conds with
  | none => exact quoting_key (primirykey_name hnamed (.inl rfl))
  | some l => exact quoting_conditions (hconds l rfl)

theorem quoting_insertBody (hvalid : ∀ item ∈ fields, item.2.IsValid = true)
    (hnamed : FieldsNamed fields) : Quoting (MakeInsertTextBody fields none)
      (fields.flatMap fun item => fieldQuoted item.2) := by
  have hcolumns : Quoting (insertColumns fields) (fields.flatMap fun _ => []) :=
    quoting_turns (fun item hitem => (hnamed item hitem).isRaw.quoting) (fun _ _ => by decide)
      (fun _ _ => by decide)
  have hnone : (fields.flatMap fun _ => ([] : List CStr)) = [] :=
    List.flatMap_eq_nil_iff.mpr fun _ _ => rfl
  have hvalues : Quoting (insertValues fields) (fields.flatMap fun item => fieldQuoted item.2) :=
    quoting_turns (fun item hitem => quoting_value (hvalid item hitem)) (fun _ _ => by decide)
      (fun _ _ => by decide)
  rw [hnone] at hcolumns
  exact quoting_append_raw ((quoting_raw_append (by decide) hcolumns).append
    (quoting_raw_append (by decide) hvalues)) List.not_mem_nil

theorem quoting_selectBody (hvalid : ∀ item ∈ fields, item.2.IsValid = true)
    (hnamed : FieldsNamed fields) :
    Quoting (MakeSelectTextBody fields none) (fields.flatMap selectQuoted) :=
  quoting_append_raw (quoting_raw_append (by decide) (quoting_turns
    (fun item hitem => quoting_selectField (hnamed item hitem) (hvalid item hitem))
    (fun _ _ => by decide) (fun _ _ => List.not_mem_nil))) List.not_mem_nil

theorem quoting_deleteBody (hvalid : ∀ item ∈ fields, item.2.IsValid = true)
    (hnamed : FieldsNamed fields) : Quoting (MakeDeleteTextBody fields none)
      (fields.flatMap fun item => fieldQuoted item.2) := by
  refine quoting_append_raw (quoting_raw_append (by decide) (quoting_turns
    (fun item hitem => ?_) (fun _ _ => by decide) (fun _ _ => by decide))) List.not_mem_nil
  rw [deleteText_eq (hvalid item hitem), ← List.append_assoc]
  exact quoting_append_raw (quoting_update (hnamed item hitem) (hvalid item hitem)) (by decide)

theorem quoting_format {op : OpType} {body : CStr} {vs : List CStr}
    (hempty : (validFields fields).isEmpty = true → vs = [])
    (hformat : ¬ (validFields fields).isEmpty = true → FormatSQL fields op conds = body)
    (h : ¬ (validFields fields).isEmpty = true → Quoting body vs) :
    Quoting (FormatSQL fields op conds) vs := by
  by_cases hnil : (validFields fields).isEmpty = true
  · rw [FormatSQL_of_isEmpty hnil, hempty hnil]
    exact .raw List.not_mem_nil
  · rw [hformat hnil]
    exact h hnil

theorem flatMap_of_isEmpty {α β : Type} {l : List α} (h : l.isEmpty = true) (f : α → List β) :
    l.flatMap f = [] := by
  rw [List.isEmpty_iff.mp h]
  rfl

end quoting

/-- **A text** has between quotes what `Statement.quoted` says. -/
theorem Statement.quoting_text {s : Statement} (hnamed : s.Named) {sql : CStr}
    (h : s.text = .ok sql) : Quoting sql s.quoted := by
  cases s with
  | insert t fields =>
    obtain ⟨ht, hfields⟩ := hnamed
    have hbody := quoting_insertBody (validFields_valid fields) (validFields_named hfields)
    rw [insert_text h]
    refine quoting_raw_append ?_ (quoting_format (fun hnil => flatMap_of_isEmpty hnil _)
      format_insert fun _ => hbody)
    exact List.not_mem_append (List.not_mem_append (by decide) ht.isRaw.no_quote) (by decide)
  | select t fields limit sort =>
    obtain ⟨ht, hfields, hlimit, hsort⟩ := hnamed
    cases (select_text ht).symm.trans h
    have hbody := quoting_selectBody (validFields_valid fields) (validFields_named hfields)
    refine quoting_append_raw (quoting_raw_append ?_
      (quoting_format (fun hnil => flatMap_of_isEmpty hnil _) format_select fun _ => hbody)) ?_
    · exact List.not_mem_append (List.not_mem_append (by decide) ht.isRaw.no_quote) (by decide)
    · unfold selectTail
      refine List.not_mem_append ?_ (List.not_mem_append ?_ (by decide))
      · split_ifs
        · exact List.not_mem_nil
        · exact List.not_mem_append (List.not_mem_append (by decide) (isRaw_word hsort).no_quote)
            (by decide)
      · split_ifs
        · exact List.not_mem_nil
        · exact List.not_mem_append (by decide) (isRaw_word hlimit).no_quote
  | update t fields conds =>
    obtain ⟨ht, hfields, hconds⟩ := hnamed
    cases (update_text ht).symm.trans h
    have hbody := quoting_updateBody (validFields_valid fields) (validFields_named hfields) hconds
    refine quoting_raw_append ?_ (quoting_format (fun hnil => if_pos hnil) format_update
      fun hnil => ?_)
    · exact List.not_mem_append (List.not_mem_append (by decide) ht.isRaw.no_quote) (by decide)
    · have hquoted : (Statement.update t fields conds).quoted =
          (validFields fields).flatMap updateQuoted ++ whereQuoted (validFields fields) conds :=
        if_neg hnil
      rw [hquoted]
      exact hbody
  | delete t fields conds =>
    obtain ⟨ht, hfields, -⟩ := hnamed
    cases (delete_text ht).symm.trans h
    have hbody := quoting_deleteBody (validFields_valid fields) (validFields_named hfields)
    refine quoting_raw_append ?_ (quoting_format (fun hnil => flatMap_of_isEmpty hnil _)
      format_delete fun _ => hbody)
    exact List.not_mem_append (List.not_mem_append (by decide) ht.isRaw.no_quote) (by decide)

end GB28181.Platform.SQLTextMaker
