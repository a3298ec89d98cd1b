import GB28181.Base.Fallible
import GB28181.Base.SqlLists
import GB28181.Platform.SQLScope

/-!
# The grammar of the four statements

`SQLScope` reads a `delete` and an `update`.  Here are the other two: an `insert` is read to its
row, a `select` to its where clause, its order and its limit.

* `parse_insert` — the row of an `insert` is the valid fields with their values;
* `parse_select` — the where clause of a `select` is read where no text field has `name` in its
  name: otherwise its first such field is one word with `like`;
* `grammatical_iff` — a call gives a statement of its grammar, with one value for each column,
  **exactly when** it is no `select` with such a field and no `update` whose last field is a key.
-/

set_option autoImplicit false

namespace GB28181.Platform.SQLTextMaker

open GB28181.Base
open GB28181.Base.Sql

/-! ## The grammar of an insert -/

def parseColumn : List Token → Option CStr
  | [.word w] => if isColumn w then some w else none
  | _ => none

def parseValue : List Token → Option Operand
  | [.literal v] => some (.text v)
  | [.word n] => if isNumber n then some (.number n) else none
  | [.op b, .word n] => if b = 0x2d ∧ isNumber n then some (.number (0x2d :: n)) else none
  | _ => none

/-- The end of a statement; it can go without its semicolon. -/
def isEnd (ts : List Token) : Bool := ts.isEmpty || ts = [semicolon]

/-- A row with one value for each column. -/
def rowOf (columns : List CStr) (pieces : List (List Token)) (rest : List Token) :
    Option (List (CStr × Operand)) :=
  (pieces.mapM parseValue).bind fun values =>
    if columns.length = values.length ∧ isEnd rest then some (columns.zip values) else none

def parseRow (columns : List CStr) : List Token → Option (List (CStr × Operand))
  | .word w :: .op b :: ts =>
    if w = str "values" ∧ b = 0x28 then (parts 0 [] ts).bind fun r => rowOf columns r.1 r.2
    else none
  | _ => none

/-- What follows the opening bracket of the columns. -/
def parseColumns (ts : List Token) : Option (List (CStr × Operand)) :=
  (parts 0 [] ts).bind fun r => (r.1.mapM parseColumn).bind fun columns => parseRow columns r.2

/-- An `insert`, by the row it adds. -/
def parseInsert : List Token → Option (List (CStr × Operand))
  | .word verb :: .word w :: .word t :: .op b :: ts =>
    if verb = str "insert" ∧ w = str "into" ∧ isColumn t ∧ b = 0x28 then parseColumns ts else none
  | _ => none

/-! ## The grammar of a select -/

/-- What a `select` asks for. -/
structure Query where
  scope : Scope
  order : Option CStr
  limit : Option CStr
  deriving DecidableEq

/-- A token that ends the where clause. -/
def endsWhere (t : Token) : Bool := t = keyword "order" || t = keyword "limit" || t = semicolon

def parseLimit (scope : Scope) (order : Option CStr) : List Token → Option Query
  | .word w :: .word n :: ts =>
    if w = str "limit" ∧ isNumber n ∧ isEnd ts then some ⟨scope, order, some n⟩ else none
  | ts => if isEnd ts then some ⟨scope, order, none⟩ else none

def parseOrder (scope : Scope) : List Token → Option Query
  | .word w :: .word w' :: .word c :: ts =>
    if w = str "order" ∧ w' = str "by" ∧ isColumn c then parseLimit scope (some c) ts else none
  | ts => parseLimit scope none ts

/-- What follows the table of a `select`. -/
def parseQuery (ts : List Token) : Option Query :=
  (scan ⟨.table, [], []⟩ (ts.takeWhile fun t => !endsWhere t)).bind fun s =>
    s.scope.bind fun scope => parseOrder scope (ts.dropWhile fun t => !endsWhere t)

/-- A `select` of all columns. -/
def parseSelect : List Token → Option Query
  | .word verb :: .op b :: .word w :: .word t :: ts =>
    if verb = str "select" ∧ b = 0x2a ∧ w = str "from" ∧ isColumn t then parseQuery ts else none
  | _ => none

/-! ## Lists of values -/

section turns

variable {α : Type} {body : α → List Token}

theorem parts_turns {l : List α} (hne : l ≠ []) (hbody : ∀ item ∈ l, Whole 0 (body item))
    (last rest : List Token) :
    parts 0 [] (turns body (fun _ => [comma]) (fun _ => .op 0x29 :: last) l ++ rest) =
      some (l.map body, last ++ rest) := by
  induction l with
  | nil => exact absurd rfl hne
  | cons item l ih =>
    obtain ⟨hitem, hbody'⟩ := List.forall_mem_cons.mp hbody
    cases l with
    | nil =>
      show parts 0 [] (body item ++ (.op 0x29 :: last) ++ [] ++ rest) = _
      rw [List.append_nil, List.append_assoc, List.cons_append]
      exact parts_close hitem _
    | cons item' l =>
      show parts 0 [] (body item ++ [comma] ++ turns body _ _ (item' :: l) ++ rest) = _
      rw [List.append_assoc, List.append_assoc, List.singleton_append]
      have hcomma := parts_comma hitem
        (turns body (fun _ => [comma]) (fun _ => .op 0x29 :: last) (item' :: l) ++ rest)
      rw [ih (List.cons_ne_nil _ _) hbody'] at hcomma
      exact hcomma

end turns

theorem parseValue_valueTokens {field : FieldInfoT} (hvalid : field.IsValid = true) :
    parseValue (valueTokens field) = some (operand field) := by
  unfold valueTokens operand
  rcases valid_number hvalid with htype | ⟨htype | htype, n, hn⟩
  · rw [htype]
    rfl
  all_goals
    have hnumber := isNumber_toText n.natAbs
    rw [htype, hn]
    show parseValue (lex (.code []) (zeroPadInt 0 n)) = some (.number (zeroPadInt 0 n))
    rw [lex_number, zeroPadInt_zero]
    split_ifs
    · exact if_pos ⟨rfl, hnumber⟩
    · exact if_pos hnumber

theorem whole_valueTokens {field : FieldInfoT} (hvalid : field.IsValid = true) (depth : Nat) :
    Whole depth (valueTokens field) := by
  unfold valueTokens
  rcases valid_number hvalid with htype | ⟨htype | htype, n, hn⟩
  · rw [htype]
    exact whole_singleton rfl depth
  all_goals
    rw [htype, hn]
    show Whole depth (lex (.code []) (zeroPadInt 0 n))
    rw [lex_number]
    split_ifs
    · exact (whole_singleton (t := .op 0x2d) rfl depth).append (whole_singleton rfl depth)
    · exact whole_singleton rfl depth

/-! ## Reading an insert -/

/-- What stands in an `insert` for each valid field. -/
def fieldRow (fields : FieldInfoList) : List (CStr × Operand) :=
  fields.map fun item => (item.1, operand item.2)

theorem parseRow_values (columns : List CStr) (ts : List Token) :
    parseRow columns (keyword "values" :: .op 0x28 :: ts) =
      (parts 0 [] ts).bind fun r => rowOf columns r.1 r.2 := by
  have hhead : str "values" = str "values" ∧ (0x28 : UInt8) = 0x28 := ⟨rfl, rfl⟩
  unfold parseRow keyword
  exact if_pos hhead

theorem parseRow_tokens {fields : FieldInfoList} (hne : fields ≠ [])
    (hvalid : ∀ item ∈ fields, item.2.IsValid = true) :
    parseRow (fields.map (·.1)) (keyword "values" :: .op 0x28 ::
      turns (fun item => valueTokens item.2) (fun _ => [comma]) (fun _ => [.op 0x29, semicolon])
        fields) = some (fieldRow fields) := by
  have hparts := parts_turns hne (fun item hitem => whole_valueTokens (hvalid item hitem) 0)
    [semicolon] []
  rw [List.append_nil, List.append_nil] at hparts
  have hvalues : (fields.map fun item => valueTokens item.2).mapM parseValue =
      some (fields.map fun item => operand item.2) :=
    mapM_map_some fun item hitem => parseValue_valueTokens (hvalid item hitem)
  have hrow : (fields.map (·.1)).length = (fields.map fun item => operand item.2).length ∧
      isEnd [semicolon] = true :=
    ⟨by rw [List.length_map, List.length_map], rfl⟩
  have hof : rowOf (fields.map (·.1)) (fields.map fun item => valueTokens item.2) [semicolon] =
      some ((fields.map (·.1)).zip (fields.map fun item => operand item.2)) := by
    unfold rowOf
    rw [hvalues]
    exact if_pos hrow
  rw [parseRow_values, hparts, Option.bind_some, hof, List.zip_map']
  rfl

theorem parseColumns_tokens {fields : FieldInfoList} (hne : fields ≠ [])
    (hvalid : ∀ item ∈ fields, item.2.IsValid = true)
    (hcolumn : ∀ item ∈ fields, isColumn item.1 = true) :
    parseColumns (turns (fun item => [.word item.1]) (fun _ => [comma]) (fun _ => [.op 0x29])
        fields ++ keyword "values" :: .op 0x28 ::
          turns (fun item => valueTokens item.2) (fun _ => [comma])
            (fun _ => [.op 0x29, semicolon]) fields) = some (fieldRow fields) := by
  have hcolumns : (fields.map fun item => [Token.word item.1]).mapM parseColumn =
      some (fields.map (·.1)) :=
    mapM_map_some fun item hitem => if_pos (hcolumn item hitem)
  unfold parseColumns
  rw [parts_turns hne (fun item _ => whole_singleton rfl 0) [], Option.bind_some, hcolumns]
  exact parseRow_tokens hne hvalid

/-- **The row of an `insert`**: a value for each column, those of the valid fields. -/
theorem parse_insert {t : CStr} {fields : FieldInfoList} (ht : isColumn t = true)
    (hfields : FieldsOk fields) (hne : validFields fields ≠ []) :
    parseInsert (Statement.insert t fields).tokens = some (fieldRow (validFields fields)) := by
  have hempty : ¬ (validFields fields).isEmpty = true := fun h => hne (List.isEmpty_iff.mp h)
  have htokens : (Statement.insert t fields).tokens =
      keyword "insert" :: keyword "into" :: .word t :: insertTokens (validFields fields) :=
    congrArg (fun ts => keyword "insert" :: keyword "into" :: .word t :: ts)
      (bodyTokens_of_not_isEmpty hempty _)
  have hhead : str "insert" = str "insert" ∧ str "into" = str "into" ∧ isColumn t = true ∧
      (0x28 : UInt8) = 0x28 := ⟨rfl, rfl, ht, rfl⟩
  rw [htokens]
  refine (if_pos hhead).trans ?_
  exact parseColumns_tokens hne (validFields_valid fields) hfields.valid.column

/-! ## Reading a select -/

/-- A field that a `select` looks for anywhere in its column. -/
def isSearched (item : CStr × FieldInfoT) : Bool :=
  item.2.GetType = .kText && findLower item.1 (str "name")

section fields

variable {item : CStr × FieldInfoT} {k : List Atom}

theorem selectFieldTokens_eq (hvalid : item.2.IsValid = true) (h : isSearched item = false) :
    selectFieldTokens item = equalTokens item := by
  unfold selectFieldTokens equalTokens valueTokens
  unfold isSearched at h
  rcases valid_cases hvalid with htype | ⟨htype | htype, -⟩
  · rw [htype] at h ⊢
    have hfind : findLower item.1 (str "name") = false := h
    simp only [hfind, Bool.false_eq_true, if_false]
  all_goals rw [htype]

theorem selectFieldTokens_searched (h : isSearched item = true) :
    selectFieldTokens item = [.word (item.1 ++ str "like"),
      .literal (cstring_percent ++ item.2.GetValue ++ cstring_percent)] := by
  obtain ⟨htype, hfind⟩ := Bool.and_eq_true_iff.mp h
  have htype' : item.2.GetType = .kText := decide_eq_true_eq.mp htype
  unfold selectFieldTokens
  rw [htype']
  exact if_pos hfind

theorem scan_searched (h : isSearched item = true) (ts : List Token) :
    scan ⟨.column, [], k⟩ (selectFieldTokens item ++ ts) = none := by
  have hhead : scan ⟨.column, [], k⟩ (selectFieldTokens item) = none := by
    rw [selectFieldTokens_searched h]
    by_cases hcolumn : isColumn (item.1 ++ str "like") = true
    · rw [scan_cons_of_eq (scanStep_column hcolumn [] k)]
      rfl
    · have hstep : scanStep ⟨.column, [], k⟩ (.word (item.1 ++ str "like")) = none :=
        if_neg hcolumn
      show (scanStep _ _).bind _ = none
      rw [hstep]
      rfl
  rw [scan_append, hhead]
  rfl

end fields

/-- The fields of a `select` are read as one group where none is searched for. -/
theorem scan_selectFields {fields : FieldInfoList} (hne : fields ≠ [])
    (hvalid : ∀ item ∈ fields, item.2.IsValid = true)
    (hcolumn : ∀ item ∈ fields, isColumn item.1 = true) (k : List Atom) :
    scan ⟨.column, [], k⟩
        (turns selectFieldTokens (fun _ => [keyword "and"]) (fun _ => []) fields) =
      if fields.any isSearched then none
      else some ⟨.joiner, [], k ++ fields.map fieldAtom⟩ := by
  induction fields generalizing k with
  | nil => exact absurd rfl hne
  | cons item rest ih =>
    obtain ⟨hv, hvalid'⟩ := List.forall_mem_cons.mp hvalid
    obtain ⟨hc, hcolumn'⟩ := List.forall_mem_cons.mp hcolumn
    show scan _ (selectFieldTokens item ++ _ ++ _) = _
    rw [List.any_cons, List.append_assoc]
    cases hsearched : isSearched item with
    | true => rw [scan_searched hsearched, Bool.true_or, if_pos rfl]
    | false =>
      have hhead := scan_equal (g := []) (k := k) hv hc
      rw [selectFieldTokens_eq hv hsearched, scan_append_of_eq hhead, Bool.false_or]
      cases rest with
      | nil => rfl
      | cons item' rest =>
        have hand : scanStep ⟨.joiner, [], k ++ [fieldAtom item]⟩ (keyword "and") =
            some ⟨.column, [], k ++ [fieldAtom item]⟩ := rfl
        have hrest := ih (List.cons_ne_nil _ _) hvalid' hcolumn' (k ++ [fieldAtom item])
        rw [List.append_assoc] at hrest
        show scan _ ([keyword "and"] ++ turns _ _ _ (item' :: rest)) = _
        rw [List.singleton_append, scan_cons_of_eq hand]
        exact hrest

/-! The where clause has no token that ends it. -/

theorem endsWhere_word {w : CStr} (horder : w ≠ str "order") (hlimit : w ≠ str "limit") :
    endsWhere (.word w) = false := by
  unfold endsWhere keyword semicolon
  simp [horder, hlimit]

theorem endsWhere_column {w : CStr} (h : isColumn w = true) : endsWhere (.word w) = false :=
  endsWhere_word (fun hw => by rw [hw] at h; cases h) (fun hw => by rw [hw] at h; cases h)

theorem endsWhere_number {w : CStr} (h : isNumber w = true) : endsWhere (.word w) = false :=
  endsWhere_word (fun hw => by rw [hw] at h; cases h) (fun hw => by rw [hw] at h; cases h)

theorem endsWhere_like (w : CStr) : endsWhere (.word (w ++ str "like")) = false := by
  have hlast : (w ++ str "like").getLast? = (str "like").getLast? :=
    List.getLast?_append_of_ne_nil w (List.cons_ne_nil _ _)
  refine endsWhere_word (fun hw => ?_) (fun hw => ?_)
  · rw [hw] at hlast
    exact absurd hlast (by decide)
  · rw [hw] at hlast
    exact absurd hlast (by decide)

theorem endsWhere_value {field : FieldInfoT} (hvalid : field.IsValid = true) :
    ∀ t ∈ valueTokens field, endsWhere t = false := by
  unfold valueTokens
  rcases valid_number hvalid with htype | ⟨htype | htype, n, hn⟩
  · rw [htype]
    exact List.forall_mem_singleton.mpr rfl
  all_goals
    have hnumber := endsWhere_number (isNumber_toText n.natAbs)
    rw [htype, hn]
    show ∀ t ∈ lex (.code []) (zeroPadInt 0 n), endsWhere t = false
    rw [lex_number]
    split_ifs
    · exact List.forall_mem_cons.mpr ⟨rfl, List.forall_mem_singleton.mpr hnumber⟩
    · exact List.forall_mem_singleton.mpr hnumber

theorem endsWhere_field {item : CStr × FieldInfoT} (hvalid : item.2.IsValid = true)
    (hcolumn : isColumn item.1 = true) : ∀ t ∈ selectFieldTokens item, endsWhere t = false := by
  cases hsearched : isSearched item with
  | true =>
    rw [selectFieldTokens_searched hsearched]
    exact List.forall_mem_cons.mpr ⟨endsWhere_like item.1, List.forall_mem_singleton.mpr rfl⟩
  | false =>
    rw [selectFieldTokens_eq hvalid hsearched]
    exact List.forall_mem_cons.mpr ⟨endsWhere_column hcolumn,
      List.forall_mem_cons.mpr ⟨rfl, endsWhere_value hvalid⟩⟩

theorem endsWhere_fields {fields : FieldInfoList} (hvalid : ∀ item ∈ fields, item.2.IsValid = true)
    (hcolumn : ∀ item ∈ fields, isColumn item.1 = true) :
    ∀ t ∈ selectTokens fields, endsWhere t = false := by
  refine List.forall_mem_cons.mpr ⟨rfl, ?_⟩
  induction fields with
  | nil => exact List.forall_mem_nil _
  | cons item rest ih =>
    obtain ⟨hv, hvalid'⟩ := List.forall_mem_cons.mp hvalid
    obtain ⟨hc, hcolumn'⟩ := List.forall_mem_cons.mp hcolumn
    have hsep : ∀ t ∈ (if rest.isEmpty then [] else [keyword "and"]), endsWhere t = false := by
      cases rest with
      | nil => exact List.forall_mem_nil _
      | cons item' rest => exact List.forall_mem_singleton.mpr rfl
    exact List.forall_mem_append.mpr
      ⟨List.forall_mem_append.mpr ⟨endsWhere_field hv hc, hsep⟩, ih hvalid' hcolumn'⟩

/-- The order and the limit, with the semicolon. -/
def tailTokens (limit sort : CStr) : List Token :=
  (if sort.isEmpty then [] else [keyword "order", keyword "by", .word sort]) ++
    ((if limit.isEmpty then [] else [keyword "limit", .word limit]) ++ [semicolon])

/-- A text that is given where it is not empty. -/
def given (w : CStr) : Option CStr := if w.isEmpty then none else some w

theorem takeWhile_tail (limit sort : CStr) :
    (tailTokens limit sort).takeWhile (fun t => !endsWhere t) = [] := by
  cases sort <;> cases limit <;> rfl

theorem dropWhile_tail (limit sort : CStr) :
    (tailTokens limit sort).dropWhile (fun t => !endsWhere t) = tailTokens limit sort := by
  cases sort <;> cases limit <;> rfl

theorem parseOrder_tail {limit sort : CStr} (hlimit : limit = [] ∨ isNumber limit = true)
    (hsort : sort = [] ∨ isColumn sort = true) (scope : Scope) :
    parseOrder scope (tailTokens limit sort) = some ⟨scope, given sort, given limit⟩ := by
  have hend : ∀ order, parseLimit scope order
      ((if limit.isEmpty then [] else [keyword "limit", .word limit]) ++ [semicolon]) =
      some ⟨scope, order, given limit⟩ := by
    intro order
    cases limit with
    | nil => rfl
    | cons b w =>
      have hnumber : isNumber (b :: w) = true := hlimit.resolve_left (List.cons_ne_nil _ _)
      exact if_pos ⟨rfl, hnumber, rfl⟩
  cases sort with
  | nil =>
    refine Eq.trans ?_ (hend none)
    cases limit <;> rfl
  | cons b w =>
    have hcolumn : isColumn (b :: w) = true := hsort.resolve_left (List.cons_ne_nil _ _)
    exact (if_pos ⟨rfl, rfl, hcolumn⟩).trans (hend _)

/-- **A `select`** is read to the values of its fields, unless one of them is searched for. -/
theorem parse_select {t limit sort : CStr} {fields : FieldInfoList} (ht : isColumn t = true)
    (hfields : FieldsOk fields) (hne : validFields fields ≠ [])
    (hlimit : limit = [] ∨ isNumber limit = true) (hsort : sort = [] ∨ isColumn sort = true) :
    parseSelect (Statement.select t fields limit sort).tokens =
      if (validFields fields).any isSearched then none
      else some ⟨.filter [(validFields fields).map fieldAtom], given sort, given limit⟩ := by
  have hempty : ¬ (validFields fields).isEmpty = true := fun h => hne (List.isEmpty_iff.mp h)
  have hvalid := validFields_valid fields
  have hbody : ∀ t ∈ selectTokens (validFields fields), (!endsWhere t) = true :=
    fun t ht => by rw [endsWhere_fields hvalid hfields.valid.column t ht]; rfl
  have htokens : (Statement.select t fields limit sort).tokens =
      keyword "select" :: .op 0x2a :: keyword "from" :: .word t ::
        (selectTokens (validFields fields) ++ tailTokens limit sort) := by
    show keyword "select" :: .op 0x2a :: keyword "from" :: .word t ::
      bodyTokens fields selectTokens ++ _ ++ _ ++ [semicolon] = _
    unfold tailTokens
    rw [bodyTokens_of_not_isEmpty hempty]
    simp only [List.append_assoc, List.cons_append]
  have hwhere : scanStep ⟨.table, [], []⟩ (keyword "where") = some ⟨.column, [], []⟩ := rfl
  have hscan : scan ⟨.table, [], []⟩ (selectTokens (validFields fields)) =
      if (validFields fields).any isSearched then none
      else some ⟨.joiner, [], (validFields fields).map fieldAtom⟩ := by
    unfold selectTokens
    rw [scan_cons_of_eq hwhere, scan_selectFields hne hvalid hfields.valid.column []]
    rfl
  have hquery : parseQuery (selectTokens (validFields fields) ++ tailTokens limit sort) =
      (scan ⟨.table, [], []⟩ (selectTokens (validFields fields))).bind fun s =>
        s.scope.bind fun scope => parseOrder scope (tailTokens limit sort) := by
    unfold parseQuery
    rw [List.takeWhile_append_of_pos hbody, List.dropWhile_append_of_pos hbody, takeWhile_tail,
      dropWhile_tail, List.append_nil]
  have hhead : str "select" = str "select" ∧ (0x2a : UInt8) = 0x2a ∧ str "from" = str "from" ∧
      isColumn t = true := ⟨rfl, rfl, rfl, ht⟩
  rw [htokens]
  refine (if_pos hhead).trans ?_
  rw [hquery, hscan]
  split_ifs
  · rfl
  · exact parseOrder_tail hlimit hsort _

/-! ## Calls -/

namespace Statement

def table : Statement → CStr
  | insert t _ => t
  | select t _ _ _ => t
  | update t _ _ => t
  | delete t _ _ => t

def fields : Statement → FieldInfoList
  | insert _ fields => fields
  | select _ fields _ _ => fields
  | update _ fields _ => fields
  | delete _ fields _ => fields

def conds : Statement → Option ConditionList
  | insert _ _ => none
  | select _ _ _ _ => none
  | update _ _ conds => conds
  | delete _ _ conds => conds

/-- A `select` has no limit or a number, and no order or a column. -/
def TailOk : Statement → Prop
  | select _ _ limit sort => (limit = [] ∨ limit ≠ [] ∧ ∀ b ∈ limit, isDigit b = true) ∧
      (sort = [] ∨ IsName sort ∧ isColumn sort = true)
  | _ => True

/-- An `update` has a condition list or a key. -/
def NamesRows : Statement → Prop
  | update _ fields none => ∃ item ∈ validFields fields, isKey item = true
  | _ => True

/-- Names like identifiers, values without quotes, a field with a value, and conditions where there
is a condition list. -/
structure Ok (call : Statement) : Prop where
  table : IsName call.table ∧ isColumn call.table = true
  fields : FieldsOk call.fields
  valid : validFields call.fields ≠ []
  conds : ∀ l ∈ call.conds, l ≠ [] ∧ ConditionsOk l
  tail : call.TailOk
  rows : call.NamesRows
  plain : ∀ v ∈ call.quoted, Plain v

/-- The tokens are a statement of the kind the call makes.  The row of an `insert` has one value
for each of the fields. -/
def Accepts (ts : List Token) : Statement → Prop
  | insert _ fields => ∃ row, parseInsert ts = some row ∧
      row.map (·.1) = (validFields fields).map (·.1)
  | select _ _ _ _ => ∃ query, parseSelect ts = some query
  | update _ _ _ => ts.head? = some (keyword "update") ∧ ∃ scope, parse ts = some scope
  | delete _ _ _ => ts.head? = some (keyword "delete") ∧ ∃ scope, parse ts = some scope

/-- The call gives a text, and the text is a statement. -/
def Grammatical (call : Statement) : Prop :=
  ∃ sql, call.text = .ok sql ∧ call.Accepts (Sql.tokens sql)

/-- A `select` searches no field, and the last field of an `update` is no key. -/
def Separated : Statement → Prop
  | select _ fields _ _ => ∀ item ∈ validFields fields, isSearched item = false
  | update _ fields _ => lastIsSet (validFields fields) = true
  | _ => True

section

variable {call : Statement} {t : CStr} {fields : FieldInfoList} {conds : Option ConditionList}

theorem isNumber_of_digits {w : CStr} (hne : w ≠ []) (h : ∀ b ∈ w, isDigit b = true) :
    isNumber w = true := by
  cases w with
  | nil => exact absurd rfl hne
  | cons b w => exact h b List.mem_cons_self

theorem Ok.named (h : call.Ok) : call.Named := by
  cases call with
  | insert t fields => exact ⟨h.table.1, h.fields.named⟩
  | select t fields limit sort =>
    obtain ⟨hlimit, hsort⟩ := h.tail
    refine ⟨h.table.1, h.fields.named, fun b hb => ?_, fun b hb => ?_⟩
    · rcases hlimit with rfl | ⟨-, hdigits⟩
      · cases hb
      · exact wordByte_of_isDigit (hdigits b hb)
    · rcases hsort with rfl | ⟨hname, -⟩
      · cases hb
      · exact hname.bytes b hb
  | update t fields conds =>
    exact ⟨h.table.1, h.fields.named, fun l hl => Change.conditionsNamed (h.conds l hl).2⟩
  | delete t fields conds =>
    exact ⟨h.table.1, h.fields.named, fun l hl => Change.conditionsNamed (h.conds l hl).2⟩

theorem Ok.text (h : call.Ok) : ∃ sql, call.text = .ok sql := by
  cases call with
  | insert t fields =>
    have hempty : ¬ (validFields fields).isEmpty = true :=
      fun hempty => h.valid (List.isEmpty_iff.mp hempty)
    have hbody : ¬ (FormatSQL fields ._INSERT none).isEmpty = true := by
      rw [format_insert hempty]
      exact Bool.false_ne_true
    exact ⟨_, if_neg hbody⟩
  | select t fields limit sort => exact ⟨_, select_text h.table.1⟩
  | update t fields conds => exact ⟨_, update_text h.table.1⟩
  | delete t fields conds => exact ⟨_, delete_text h.table.1⟩

theorem primirykey_ne_nil {fields : FieldInfoList} (hnamed : FieldsNamed fields)
    {key : CStr × CStr} (hkey : key.1 ≠ [] ∨ ∃ item ∈ fields, isKey item = true) :
    (primirykey fields key).1 ≠ [] := by
  induction fields generalizing key with
  | nil => exact hkey.resolve_right fun ⟨_, hitem, _⟩ => absurd hitem List.not_mem_nil
  | cons item rest ih =>
    obtain ⟨hitem, hrest⟩ := List.forall_mem_cons.mp hnamed
    unfold primirykey
    split_ifs with hcase
    · exact ih hrest (.inl hitem.ne_nil)
    · apply ih hrest
      rcases hkey with hkey | ⟨item', hmem, hkey⟩
      · exact .inl hkey
      · rcases List.mem_cons.mp hmem with rfl | hmem
        · exact absurd hkey hcase
        · exact .inr ⟨item', hmem, hkey⟩

/-- Where an `update` ends with a field that it sets, it is a statement. -/
theorem updateScope_isSome (h : (update t fields conds).Ok) :
    (updateScope (validFields fields) conds).isSome = lastIsSet (validFields fields) := by
  unfold updateScope
  cases lastIsSet (validFields fields) with
  | false => rfl
  | true =>
    cases conds with
    | none =>
      have hfields : FieldsOk fields := h.fields
      have hkey : (primirykey (validFields fields) ([], [])).1 ≠ [] :=
        primirykey_ne_nil hfields.valid.named (.inr h.rows)
      rw [if_pos rfl]
      show (if _ then none else some _ : Option Scope).isSome = true
      rw [if_neg hkey]
      rfl
    | some l =>
      have hne : ¬ l.isEmpty = true := fun hl => (h.conds l rfl).1 (List.isEmpty_iff.mp hl)
      rw [if_pos rfl]
      show (if _ then none else some _ : Option Scope).isSome = true
      rw [if_neg hne]
      rfl

/-- **Grammatical statements.**  A call gives a statement of its kind, with one value for each
column, exactly when it is no `select` that searches a field and no `update` whose last field is a
key. -/
theorem grammatical_iff (h : call.Ok) : call.Grammatical ↔ call.Separated := by
  obtain ⟨sql, hsql⟩ := h.text
  have htokens : Sql.tokens sql = call.tokens :=
    (Statement.reads_text h.named h.plain hsql).tokens_eq
  have hiff : call.Grammatical ↔ call.Accepts call.tokens := by
    constructor
    · rintro ⟨sql', hsql', haccepts⟩
      cases hsql.symm.trans hsql'
      rwa [← htokens]
    · intro haccepts
      exact ⟨sql, hsql, by rwa [htokens]⟩
  rw [hiff]
  cases call with
  | insert t fields =>
    have hparse := parse_insert h.table.2 h.fields h.valid
    refine ⟨fun _ => trivial, fun _ => ⟨_, hparse, ?_⟩⟩
    unfold fieldRow
    rw [List.map_map]
    rfl
  | select t fields limit sort =>
    obtain ⟨hlimit, hsort⟩ := h.tail
    have hfields : FieldsOk fields := h.fields
    have hparse := parse_select (t := t) h.table.2 hfields h.valid
      (hlimit.imp_right fun hl => isNumber_of_digits hl.1 hl.2) (hsort.imp_right And.right)
    have hnone : (∀ item ∈ validFields fields, isSearched item = false) ↔
        (validFields fields).any isSearched = false := by
      rw [List.any_eq_false]
      simp only [Bool.not_eq_true]
    show (∃ query, parseSelect _ = some query) ↔ ∀ item ∈ validFields fields, _
    rw [← Option.isSome_iff_exists, hparse, hnone]
    cases (validFields fields).any isSearched <;> simp
  | update t fields conds =>
    have hfields : FieldsOk fields := h.fields
    have hconds : ∀ l ∈ conds, ConditionsOk l := fun l hl => (h.conds l hl).2
    have hparse := parse_update hfields hconds t
    show _ ∧ (∃ scope, parse _ = some scope) ↔ lastIsSet (validFields fields) = true
    rw [← Option.isSome_iff_exists, hparse, updateScope_isSome h]
    exact ⟨And.right, fun hlast => ⟨rfl, hlast⟩⟩
  | delete t fields conds =>
    have hfields : FieldsOk fields := h.fields
    exact ⟨fun _ => trivial, fun _ => ⟨rfl, _, parse_delete hfields t⟩⟩

end

/-- The cameras by a part of their name. -/
def searchByName : Statement :=
  select (str "device") [(str "DeviceName", .ofText (str "cam") .c_NoConstraint)] [] []

/-- The address of a device: the key comes after it. -/
def setAddress : Statement :=
  update (str "device") [(str "Address", .ofText (str "hall") .c_NoConstraint),
    (str "DeviceID", .ofText (str "3402") .c_PrimaryKey)] none

theorem fieldsOk_pair {a b : String} {f g : FieldInfoT} (ha : IsName (str a))
    (hb : IsName (str b)) (ha' : isColumn (str a) = true) (hb' : isColumn (str b) = true) :
    FieldsOk [(str a, f), (str b, g)] where
  named := List.forall_mem_cons.mpr ⟨ha, List.forall_mem_singleton.mpr hb⟩
  column := List.forall_mem_cons.mpr ⟨ha', List.forall_mem_singleton.mpr hb'⟩

theorem searchByName_ok : searchByName.Ok where
  table := ⟨isName_str (by decide) rfl, rfl⟩
  fields := ⟨List.forall_mem_singleton.mpr (isName_str (by decide) rfl),
    List.forall_mem_singleton.mpr rfl⟩
  valid := List.cons_ne_nil _ _
  conds := fun l hl => by cases hl
  tail := ⟨.inl rfl, .inl rfl⟩
  rows := trivial
  plain := List.forall_mem_singleton.mpr ⟨by decide, by decide⟩

theorem setAddress_ok : setAddress.Ok where
  table := ⟨isName_str (by decide) rfl, rfl⟩
  fields := fieldsOk_pair (isName_str (by decide) rfl) (isName_str (by decide) rfl) rfl rfl
  valid := List.cons_ne_nil _ _
  conds := fun l hl => by cases hl
  tail := trivial
  rows := ⟨_, List.mem_cons_of_mem _ List.mem_cons_self, rfl⟩
  plain := List.forall_mem_cons.mpr ⟨⟨by decide, by decide⟩,
    List.forall_mem_singleton.mpr ⟨by decide, by decide⟩⟩

/-- The address of a device, as a row of its own. -/
def insertAddress : Statement :=
  insert (str "device") [(str "Address", .ofText (str "hall") .c_NoConstraint),
    (str "DeviceID", .ofText (str "3402") .c_PrimaryKey)]

theorem insertAddress_ok : insertAddress.Ok where
  table := ⟨isName_str (by decide) rfl, rfl⟩
  fields := fieldsOk_pair (isName_str (by decide) rfl) (isName_str (by decide) rfl) rfl rfl
  valid := List.cons_ne_nil _ _
  conds := fun l hl => by cases hl
  tail := trivial
  rows := trivial
  plain := List.forall_mem_cons.mpr ⟨⟨by decide, by decide⟩,
    List.forall_mem_singleton.mpr ⟨by decide, by decide⟩⟩

theorem grammatical_insertAddress : insertAddress.Ok ∧ insertAddress.Grammatical :=
  ⟨insertAddress_ok, (grammatical_iff insertAddress_ok).mpr trivial⟩

/-- The two statements that are none. -/
theorem text_not_grammatical :
    searchByName.Ok ∧
      searchByName.text = .ok (str "select * from device where DeviceNamelike '%cam%' ;") ∧
      ¬ searchByName.Grammatical ∧
    setAddress.Ok ∧
      setAddress.text =
        .ok (str "update device set Address='hall', where DeviceID='3402';") ∧
      ¬ setAddress.Grammatical := by
  refine ⟨searchByName_ok, rfl, ?_, setAddress_ok, rfl, ?_⟩
  · rintro ⟨sql, hsql, query, hquery⟩
    cases hsql
    cases hquery
  · rintro ⟨sql, hsql, -, scope, hscope⟩
    cases hsql
    cases hscope

end Statement

end GB28181.Platform.SQLTextMaker
