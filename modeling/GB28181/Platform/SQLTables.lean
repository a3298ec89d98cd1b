import GB28181.Base.Map
import GB28181.Platform.DatabaseRegister
import GB28181.Platform.SQLGrammar

/-!
# Creating the tables (`SQLTextMaker.h`, `SQLiteModule.cpp`)

`SQLiteCreateTable` makes two statements for each table of a list, one that creates the table and
one that creates its index, and hands them to SQLite.

* `parse_createTable` — the statement for a table with a key declares its columns and its keys; for
  a table without a key it is none;
* `parse_createIndex` — the statement for the index names the index columns;
* `created_iff` — every table of the list is declared by grammatical statements and created where
  SQLite accepts these **exactly when** each has a key and an index column: a table without an index
  column counts as a failure.
-/

set_option autoImplicit false

namespace GB28181.Platform.SQLTextMaker

open GB28181.Base
open GB28181.Base.Sql

/-! ## The texts -/

def cstring_Boolean : CStr := str "BOOLEAN "
def cstring_integer : CStr := str "INTEGER "
def cstring_real : CStr := str "REAL "
def cstring_null : CStr := str "NULL "
def cstring_text : CStr := str "TEXT "
def cstring_blob : CStr := str "BLOB "
def cstring_create : CStr := str "create "
def cstring_table : CStr := str "table "
def cstring_index : CStr := str "index "
def cstring_if : CStr := str "if "
def cstring_not : CStr := str "not "
def cstring_exists : CStr := str "exists "
def cstring_on : CStr := str "on "
def cstring_primary_key : CStr := str "PRIMARY KEY "

/-! ## Tables -/

structure FieldHeader where
  data_type_ : DataType
  field_value_ : CStr
  constraint_ : Constraint
  deriving DecidableEq

namespace FieldHeader

def GetFieldName (item : FieldHeader) : CStr := item.field_value_

def GetConstraint (item : FieldHeader) : Constraint := item.constraint_

def isPrimaryKey (item : FieldHeader) : Bool := item.constraint_ = .c_PrimaryKey

/-- A primary key counts as an index here. -/
def isIndex (item : FieldHeader) : Bool := item.constraint_ ≠ .c_NoConstraint

end FieldHeader

structure TableStructInfo where
  s_table_name_ : CStr
  field_header_list_ : List FieldHeader
  deriving DecidableEq

/-! ## The statements -/

def typeText : DataType → CStr
  | .kNull => cstring_null
  | .kInteger => cstring_integer
  | .kBoolean => cstring_Boolean
  | .kReal => cstring_real
  | .kText => cstring_text
  | .kBlob => cstring_blob

/-- The names of some of the columns, each with a comma. -/
def listed (p : FieldHeader → Bool) (field_header_list : List FieldHeader) : CStr :=
  field_header_list.flatMap fun item => if p item then item.GetFieldName ++ cstring_comma else []

/-- `TrimRight()` and `TrimRight(cstring_comma)`. -/
def trimList (s : CStr) : CStr :=
  (s.rdropWhile isSpace).rdropWhile fun c => cstring_comma.contains c

def columnText (item : FieldHeader) : CStr :=
  item.GetFieldName ++ cstring_space ++ typeText item.data_type_ ++ cstring_comma

def MakeCreateTableText (_table_structure : TableStructInfo) : CStr :=
  let field_header_list := _table_structure.field_header_list_
  let left_part_sql := cstring_create ++ cstring_table ++ cstring_if ++ cstring_not ++
    cstring_exists ++ _table_structure.s_table_name_ ++ cstring_space ++ cstring_left_bracket ++
    cstring_space ++ field_header_list.flatMap columnText
  let right_part_sql := trimList (cstring_primary_key ++ cstring_left_bracket ++
    listed FieldHeader.isPrimaryKey field_header_list)
  left_part_sql ++ (right_part_sql ++ (cstring_right_bracket ++ cstring_right_bracket) ++
    cstring_semicolon)

def isIndexKey (item : FieldHeader) : Bool := item.GetConstraint = .c_IndexKey

def MakeCreateIndexTableText (_table_structure : TableStructInfo) : CStr :=
  let field_header_list := _table_structure.field_header_list_
  if field_header_list.length = 0 then []
  else
    let _table_name := _table_structure.s_table_name_
    let index_table_name := _table_name ++ cstring_index
    let left_part := cstring_create ++ cstring_index ++ cstring_if ++ cstring_not ++
      cstring_exists ++ cstring_space ++ index_table_name ++ cstring_on ++ _table_name ++
      cstring_left_bracket
    let right_part := listed isIndexKey field_header_list
    if right_part.isEmpty then right_part
    else left_part ++ (trimList right_part ++ cstring_right_bracket ++ cstring_semicolon)

/-- `MakeCreateTableSql`; an error is the message of a call that returns false. -/
def MakeCreateTableSql (_table_structure : TableStructInfo) : Except CStr CStr :=
  if _table_structure.s_table_name_.isEmpty then
    .error (str "Create Tables abort , Table List to crerate is empty!")
  else
    let cstring_result := MakeCreateTableText _table_structure
    if cstring_result.isEmpty then
      .error (str "Create Tables failed : make table-create-sql-sentence failed" ++ [0xa3, 0xa1])
    else .ok cstring_result

/-- `MakeCreateIndexTableSql`.  To `FormatMessage` the `%s` of its message is a letter. -/
def MakeCreateIndexTableSql (_table_structure : TableStructInfo) : Except CStr CStr :=
  if _table_structure.s_table_name_.isEmpty then
    .error (str "Create Index_Tables abort , Table List to crerate is empty!")
  else
    let cstring_result := MakeCreateIndexTableText _table_structure
    if cstring_result.isEmpty then
      .error (str "Create Index Tables failed :no index table to create for table: s.")
    else .ok cstring_result

/-! ## Creating -/

/-- What `db_tables` keeps of a table. -/
structure TableObject where
  m_table_name_ : CStr
  m_field_header_list_ : List FieldHeader
  m_field_names_ : List CStr
  m_field_types_ : List DataType
  m_primary_key_pos_ : List Nat
  m_index_field_name_ : List CStr

def tableObject (item : TableStructInfo) : TableObject where
  m_table_name_ := item.s_table_name_
  m_field_header_list_ := item.field_header_list_
  m_field_names_ := item.field_header_list_.map FieldHeader.GetFieldName
  m_field_types_ := item.field_header_list_.map FieldHeader.data_type_
  m_primary_key_pos_ := (item.field_header_list_.zipIdx.filter (·.1.isPrimaryKey)).map (·.2)
  m_index_field_name_ :=
    (item.field_header_list_.filter FieldHeader.isIndex).map FieldHeader.GetFieldName

def emplace (db_tables : Map CStr TableObject) (item : TableStructInfo) : Map CStr TableObject :=
  if item.s_table_name_ ∈ db_tables then db_tables
  else db_tables.insert item.s_table_name_ (tableObject item)

/-- `SQLiteModule::SQLiteCreateTable`: its result and `db_tables`; `sqlite3_exec` says which
statements SQLite accepts. -/
def SQLiteCreateTable (sqlite3_exec : CStr → Bool) :
    Map CStr TableObject → List TableStructInfo → Int × Map CStr TableObject
  | db_tables, [] => (Database.SQLITE_EXCUTE_SUCCESS, db_tables)
  | db_tables, item :: rest =>
    match MakeCreateTableSql item with
    | .error _ => (Database.SQLITE_EXCUTE_FAILD, db_tables)
    | .ok cstring_sql =>
      if !sqlite3_exec cstring_sql then (Database.SQLITE_EXCUTE_FAILD, db_tables)
      else
        let db_tables := emplace db_tables item
        match MakeCreateIndexTableSql item with
        -- a table without an index column comes here
        | .error _ => (Database.SQLITE_EXCUTE_FAILD, db_tables)
        | .ok cstring_sql =>
          if !sqlite3_exec cstring_sql then (Database.SQLITE_EXCUTE_FAILD, db_tables)
          else SQLiteCreateTable sqlite3_exec db_tables rest

/-! ## The grammar -/

/-- Words that are no names in a statement that creates. -/
def reservedCreate : List CStr :=
  [str "create", str "table", str "index", str "exists", str "on", str "primary", str "null"]

/-- A name of a table, an index or a column. -/
def isIdentifier (w : CStr) : Bool := isColumn w && !reservedCreate.contains (w.map toLower)

def typeNames : List CStr :=
  [str "NULL", str "INTEGER", str "BOOLEAN", str "REAL", str "TEXT", str "BLOB"]

def parseDef : List Token → Option (CStr × CStr)
  | [.word c, .word ty] => if isIdentifier c && typeNames.contains ty then some (c, ty) else none
  | _ => none

def parseName : List Token → Option CStr
  | [.word w] => if isIdentifier w then some w else none
  | _ => none

/-- Names up to the closing bracket, and what follows them. -/
def parseNames (ts : List Token) : Option (List CStr × List Token) :=
  (parts 0 [] ts).bind fun r => (r.1.mapM parseName).map fun ws => (ws, r.2)

def parseKey : List Token → Option (List CStr)
  | .word p :: .word k :: .op b :: ts =>
    if p = str "PRIMARY" ∧ k = str "KEY" ∧ b = 0x28 then
      (parseNames ts).bind fun r => if r.2.isEmpty then some r.1 else none
    else none
  | _ => none

/-- The columns of a table, and the keys where its last piece is a primary key. -/
def parseDefs : List (List Token) → Option (List (CStr × CStr) × List CStr)
  | [] => some ([], [])
  | piece :: rest =>
    match parseDef piece with
    | some c => (parseDefs rest).map fun r => (c :: r.1, r.2)
    | none => if rest.isEmpty then (parseKey piece).map fun keys => ([], keys) else none

structure TableDecl where
  name : CStr
  columns : List (CStr × CStr)
  keys : List CStr
  deriving DecidableEq

structure IndexDecl where
  name : CStr
  table : CStr
  columns : List CStr
  deriving DecidableEq

/-- What follows the opening bracket of a table. -/
def parseTable (name : CStr) (ts : List Token) : Option TableDecl :=
  (parts 0 [] ts).bind fun r =>
    if isEnd r.2 then
      (parseDefs r.1).bind fun d =>
        if d.1.isEmpty then none else some ⟨name, d.1, d.2⟩
    else none

def parseCreateTable : List Token → Option TableDecl
  | .word a :: .word b :: .word c :: .word d :: .word e :: .word name :: .op o :: ts =>
    if [a, b, c, d, e] = [str "create", str "table", str "if", str "not", str "exists"] ∧
        isIdentifier name ∧ o = 0x28 then parseTable name ts
    else none
  | _ => none

def parseCreateIndex : List Token → Option IndexDecl
  | .word a :: .word b :: .word c :: .word d :: .word e :: .word name :: .word f :: .word table ::
      .op o :: ts =>
    if [a, b, c, d, e, f] =
        [str "create", str "index", str "if", str "not", str "exists", str "on"] ∧
        isIdentifier name ∧ isIdentifier table ∧ o = 0x28 then
      (parseNames ts).bind fun r => if isEnd r.2 then some ⟨name, table, r.1⟩ else none
    else none
  | _ => none

/-! ## Lists of names -/

def chosen (p : FieldHeader → Bool) (field_header_list : List FieldHeader) : List CStr :=
  (field_header_list.filter p).map FieldHeader.GetFieldName

theorem listed_eq (p : FieldHeader → Bool) (l : List FieldHeader) :
    listed p l = (chosen p l).flatMap (· ++ cstring_comma) := by
  induction l with
  | nil => rfl
  | cons item l ih =>
    unfold listed chosen at ih ⊢
    rw [List.flatMap_cons, ih, List.filter_cons]
    split_ifs
    · rw [List.map_cons, List.flatMap_cons]
    · rfl

def joined (last : CStr) (ws : List CStr) : CStr :=
  turns (fun w => w) (fun _ => cstring_comma) (fun _ => last) ws

/-- The comma after the last name is trimmed away, and none of the name. -/
theorem trimList_last {w : CStr} (hw : IsName w) (text : CStr) :
    trimList (text ++ (w ++ cstring_comma)) = text ++ w := by
  obtain ⟨b, init, rfl⟩ : ∃ b init, w = init ++ [b] :=
    ⟨w.getLast hw.ne_nil, w.dropLast, (List.dropLast_append_getLast hw.ne_nil).symm⟩
  have hword : wordByte b = true := hw.bytes b (List.mem_append_right _ List.mem_cons_self)
  have hkeep : ¬ cstring_comma.contains b = true := by
    intro h
    simp only [cstring_comma, List.contains_iff_mem] at h
    rcases List.mem_cons.mp h with rfl | h
    · cases hword
    · rw [List.mem_singleton.mp h] at hword
      cases hword
  have hcomma : cstring_comma = [0x2c] ++ [0x20] := rfl
  have htext : text ++ (init ++ [b] ++ cstring_comma) =
      text ++ init ++ [b] ++ [0x2c] ++ [0x20] := by
    rw [hcomma]
    simp only [List.append_assoc]
  unfold trimList
  rw [htext, List.rdropWhile_concat_pos _ _ _ rfl, List.rdropWhile_concat_neg _ _ _ (by decide),
    List.rdropWhile_concat_pos _ _ _ rfl, List.rdropWhile_concat_neg _ _ _ hkeep,
    List.append_assoc]

/-- **A trimmed list** is the names with commas between them. -/
theorem trimList_join {ws : List CStr} (hne : ws ≠ []) (hws : ∀ w ∈ ws, IsName w)
    (text last : CStr) :
    trimList (text ++ ws.flatMap (· ++ cstring_comma)) ++ last = text ++ joined last ws := by
  induction ws generalizing text with
  | nil => exact absurd rfl hne
  | cons w ws ih =>
    obtain ⟨hw, hrest⟩ := List.forall_mem_cons.mp hws
    cases ws with
    | nil =>
      rw [List.flatMap_cons, List.flatMap_nil, List.append_nil, trimList_last hw]
      show text ++ w ++ last = text ++ (w ++ last ++ [])
      rw [List.append_nil, List.append_assoc]
    | cons w' ws =>
      have hih := ih (List.cons_ne_nil _ _) hrest (text ++ (w ++ cstring_comma))
      rw [List.append_assoc] at hih
      rw [List.flatMap_cons, hih]
      show _ = text ++ (w ++ cstring_comma ++ joined last (w' :: ws))
      simp only [List.append_assoc]

/-! ## Reading the texts -/

def typeName : DataType → CStr
  | .kNull => str "NULL"
  | .kInteger => str "INTEGER"
  | .kBoolean => str "BOOLEAN"
  | .kReal => str "REAL"
  | .kText => str "TEXT"
  | .kBlob => str "BLOB"

theorem reads_type (ty : DataType) : Reads (typeText ty) [.word (typeName ty)] := by
  cases ty <;> exact reads_keyword (by decide) rfl rfl

def defTokens (item : FieldHeader) : List Token :=
  [.word item.GetFieldName, .word (typeName item.data_type_)]

def nameTokens (last : List Token) (ws : List CStr) : List Token :=
  turns (fun w => [.word w]) (fun _ => [comma]) (fun _ => last) ws

/-- The primary key, with what stands in its brackets. -/
def keyTokensOf (keys : List CStr) : List Token :=
  keyword "PRIMARY" :: keyword "KEY" :: .op 0x28 :: (nameTokens [] keys ++ [.op 0x29])

theorem reads_column {item : FieldHeader} (h : IsName item.GetFieldName) :
    Reads (columnText item) (defTokens item ++ [comma]) := by
  have hreads := ((reads_word_blank h).append (reads_type item.data_type_)).append reads_comma
  exact hreads

theorem reads_flatMap {α : Type} {f : α → CStr} {g : α → List Token} {l : List α}
    (h : ∀ a ∈ l, Reads (f a) (g a)) : Reads (l.flatMap f) (l.flatMap g) := by
  induction l with
  | nil => exact Reads.nil
  | cons a l ih =>
    obtain ⟨ha, hl⟩ := List.forall_mem_cons.mp h
    rw [List.flatMap_cons, List.flatMap_cons]
    exact ha.append (ih hl)

theorem reads_joined {ws : List CStr} (hws : ∀ w ∈ ws, IsName w) :
    Reads (joined cstring_right_bracket ws) (nameTokens [.op 0x29] ws) :=
  reads_turns
    (fun w hw => Reads.word (hws w hw).ne_nil (hws w hw).bytes rfl reads_comma)
    (fun w hw => Reads.word (hws w hw).ne_nil (hws w hw).bytes rfl reads_right_bracket)

theorem turns_last {α : Type} {l : List α} (hne : l ≠ []) (body next : α → List Token)
    (last : List Token) :
    turns body next (fun _ => last) l = turns body next (fun _ => []) l ++ last := by
  induction l with
  | nil => exact absurd rfl hne
  | cons item l ih =>
    cases l with
    | nil =>
      show body item ++ last ++ [] = body item ++ [] ++ [] ++ last
      simp only [List.append_nil]
    | cons item' l =>
      show body item ++ next item ++ turns body next _ (item' :: l) =
        body item ++ next item ++ turns body next _ (item' :: l) ++ last
      rw [ih (List.cons_ne_nil _ _)]
      simp only [List.append_assoc]

theorem nameTokens_last {ws : List CStr} (hne : ws ≠ []) (last : List Token) :
    nameTokens last ws = nameTokens [] ws ++ last := turns_last hne _ _ last

theorem reads_primary_key :
    Reads cstring_primary_key [keyword "PRIMARY", keyword "KEY"] :=
  Reads.append (c := str "PRIMARY ") (reads_keyword (by decide) rfl rfl)
    (reads_keyword (by decide) rfl rfl)

/-- The primary key up to its closing bracket; without a key the brackets are empty. -/
theorem reads_key_part {l : List FieldHeader}
    (hnamed : ∀ w ∈ chosen FieldHeader.isPrimaryKey l, IsName w) :
    Reads (trimList (cstring_primary_key ++ cstring_left_bracket ++
        listed FieldHeader.isPrimaryKey l) ++ cstring_right_bracket)
      (keyTokensOf (chosen FieldHeader.isPrimaryKey l)) := by
  rw [listed_eq]
  by_cases hnone : chosen FieldHeader.isPrimaryKey l = []
  · have hopen : Reads (str "(") [.op 0x28] := Reads.op (by decide) rfl
    have hreads := (reads_primary_key.append hopen).append reads_right_bracket
    rw [hnone]
    exact hreads
  · have hreads := (reads_primary_key.append reads_left_bracket).append (reads_joined hnamed)
    rw [trimList_join hnone hnamed, keyTokensOf, ← nameTokens_last hnone]
    exact hreads

/-- A table with columns, and with names like identifiers. -/
structure TableOk (item : TableStructInfo) : Prop where
  name : IsName item.s_table_name_ ∧ isIdentifier item.s_table_name_ = true
  fields : item.field_header_list_ ≠ []
  columns : ∀ f ∈ item.field_header_list_,
    IsName f.GetFieldName ∧ isIdentifier f.GetFieldName = true

section table

variable {item : TableStructInfo}

theorem mem_chosen {p : FieldHeader → Bool} {l : List FieldHeader} {w : CStr} :
    w ∈ chosen p l ↔ ∃ f ∈ l, p f = true ∧ f.GetFieldName = w := by
  unfold chosen
  simp only [List.mem_map, List.mem_filter, and_assoc]

theorem TableOk.chosen_named (h : TableOk item) (p : FieldHeader → Bool) :
    ∀ w ∈ chosen p item.field_header_list_, IsName w ∧ isIdentifier w = true := by
  intro w hw
  obtain ⟨f, hf, -, rfl⟩ := mem_chosen.mp hw
  exact h.columns f hf

/-- The keys and the index columns of a table. -/
def TableStructInfo.keys (item : TableStructInfo) : List CStr :=
  chosen FieldHeader.isPrimaryKey item.field_header_list_

def TableStructInfo.indexKeys (item : TableStructInfo) : List CStr :=
  chosen isIndexKey item.field_header_list_

def createTokens (item : TableStructInfo) : List Token :=
  keyword "create" :: keyword "table" :: keyword "if" :: keyword "not" :: keyword "exists" ::
    .word item.s_table_name_ :: .op 0x28 ::
      (item.field_header_list_.flatMap (fun f => defTokens f ++ [comma]) ++
        (keyTokensOf item.keys ++ [.op 0x29, semicolon]))

def indexTokens (item : TableStructInfo) : List Token :=
  keyword "create" :: keyword "index" :: keyword "if" :: keyword "not" :: keyword "exists" ::
    .word (item.s_table_name_ ++ str "index") :: keyword "on" :: .word item.s_table_name_ ::
      .op 0x28 :: (nameTokens [.op 0x29] item.indexKeys ++ [semicolon])

theorem reads_create : Reads cstring_create [keyword "create"] := reads_keyword (by decide) rfl rfl
theorem reads_table : Reads cstring_table [keyword "table"] := reads_keyword (by decide) rfl rfl
theorem reads_index : Reads cstring_index [keyword "index"] := reads_keyword (by decide) rfl rfl
theorem reads_if : Reads cstring_if [keyword "if"] := reads_keyword (by decide) rfl rfl
theorem reads_not : Reads cstring_not [keyword "not"] := reads_keyword (by decide) rfl rfl
theorem reads_exists : Reads cstring_exists [keyword "exists"] := reads_keyword (by decide) rfl rfl
theorem reads_on : Reads cstring_on [keyword "on"] := reads_keyword (by decide) rfl rfl

theorem reads_createTable (h : TableOk item) :
    Reads (MakeCreateTableText item) (createTokens item) := by
  have hhead := ((((reads_create.append reads_table).append reads_if).append reads_not).append
    reads_exists).append (reads_word_blank h.name.1)
  have hcolumns := reads_flatMap (l := item.field_header_list_)
    fun f hf => reads_column (h.columns f hf).1
  have hkey := reads_key_part (l := item.field_header_list_)
    fun w hw => (h.chosen_named _ w hw).1
  have hreads := (((hhead.append reads_left_bracket).append Reads.blank).append hcolumns).append
    ((hkey.append reads_right_bracket).append reads_semicolon)
  unfold MakeCreateTableText
  simp only [List.append_assoc] at hreads ⊢
  exact hreads

theorem listed_ne_nil {p : FieldHeader → Bool} {l : List FieldHeader} (h : chosen p l ≠ []) :
    ¬ (listed p l).isEmpty = true := by
  rw [listed_eq, List.isEmpty_iff]
  cases hws : chosen p l with
  | nil => exact absurd hws h
  | cons w ws =>
    rw [List.flatMap_cons]
    intro hnil
    exact absurd (List.append_eq_nil_iff.mp (List.append_eq_nil_iff.mp hnil).1).2 (by decide)

theorem isName_index (h : IsName item.s_table_name_) :
    IsName (item.s_table_name_ ++ str "index") :=
  ⟨fun hnil => h.ne_nil (List.append_eq_nil_iff.mp hnil).1,
    List.forall_mem_append.mpr ⟨h.bytes, List.all_eq_true.mp rfl⟩⟩

/-- The statement that creates the index of a table with an index column. -/
theorem reads_createIndex (h : TableOk item) (hindex : item.indexKeys ≠ []) :
    Reads (MakeCreateIndexTableText item) (indexTokens item) := by
  have hnamed : ∀ w ∈ item.indexKeys, IsName w := fun w hw => (h.chosen_named _ w hw).1
  have hblank : Reads cstring_space [] := Reads.blank
  have hhead := (((((reads_create.append reads_index).append reads_if).append reads_not).append
    reads_exists).append hblank).append (reads_word_blank (isName_index h.name.1))
  have htable : Reads (item.s_table_name_ ++ cstring_left_bracket)
      [.word item.s_table_name_, .op 0x28] :=
    Reads.word h.name.1.ne_nil h.name.1.bytes rfl reads_left_bracket
  have hreads := (((hhead.append reads_on).append htable).append (reads_joined hnamed)).append
    reads_semicolon
  have hlength : ¬ item.field_header_list_.length = 0 :=
    fun hzero => h.fields (List.length_eq_zero_iff.mp hzero)
  have hjoin := trimList_join hindex hnamed [] cstring_right_bracket
  rw [List.nil_append, List.nil_append] at hjoin
  have hsuffix : cstring_index = str "index" ++ cstring_space := rfl
  unfold MakeCreateIndexTableText
  simp only [hlength, if_false, listed_ne_nil hindex]
  rw [listed_eq, show chosen isIndexKey item.field_header_list_ = item.indexKeys from rfl, hjoin,
    hsuffix]
  simp only [List.append_assoc] at hreads ⊢
  exact hreads

end table

/-! ## Parsing the statements -/

theorem whole_names (depth : Nat) (ws : List CStr) : Whole (depth + 1) (nameTokens [] ws) := by
  induction ws with
  | nil => exact Whole.nil _
  | cons w ws ih =>
    have hword : Whole (depth + 1) [.word w] := whole_singleton rfl _
    cases ws with
    | nil => exact (hword.append (Whole.nil _)).append (Whole.nil _)
    | cons w' ws => exact (hword.append (whole_comma depth)).append ih

theorem whole_words (w w' : CStr) : Whole 0 [.word w, .word w'] :=
  whole_of_plain (List.forall_mem_cons.mpr ⟨rfl, List.forall_mem_singleton.mpr rfl⟩) 0

theorem whole_key (keys : List CStr) : Whole 0 (keyTokensOf keys) :=
  (whole_words _ _).append (whole_names 0 keys).bracketed

theorem whole_def (f : FieldHeader) : Whole 0 (defTokens f) := whole_words _ _

theorem parts_columns (l : List FieldHeader) (rest : List Token) :
    parts 0 [] (l.flatMap (fun f => defTokens f ++ [comma]) ++ rest) =
      (parts 0 [] rest).map fun r => (l.map defTokens ++ r.1, r.2) := by
  induction l with
  | nil =>
    rw [List.flatMap_nil, List.nil_append]
    exact Option.map_id'.symm
  | cons f l ih =>
    rw [List.flatMap_cons, List.append_assoc, List.append_assoc, List.singleton_append]
    refine (parts_comma (whole_def f) _).trans ?_
    rw [ih, Option.map_map]
    rfl

theorem parseName_of_identifier {w : CStr} (h : isIdentifier w = true) :
    parseName [.word w] = some w := if_pos h

theorem parseNames_tokens {ws : List CStr} (hne : ws ≠ [])
    (hws : ∀ w ∈ ws, isIdentifier w = true) (rest : List Token) :
    parseNames (nameTokens [.op 0x29] ws ++ rest) = some (ws, rest) := by
  have hnames : (ws.map fun w => [Token.word w]).mapM parseName = some (ws.map id) :=
    mapM_map_some fun w hw => parseName_of_identifier (hws w hw)
  unfold parseNames nameTokens
  rw [parts_turns hne (fun w _ => whole_singleton rfl 0) [], Option.bind_some, hnames, List.map_id]
  rfl

theorem parseKey_tokens {keys : List CStr} (hkeys : ∀ w ∈ keys, isIdentifier w = true) :
    parseKey (keyTokensOf keys) = if keys = [] then none else some keys := by
  have hhead : ∀ ts, parseKey (keyword "PRIMARY" :: keyword "KEY" :: .op 0x28 :: ts) =
      (parseNames ts).bind fun r => if r.2.isEmpty then some r.1 else none := by
    intro ts
    unfold parseKey keyword
    exact if_pos ⟨rfl, rfl, rfl⟩
  unfold keyTokensOf
  rw [hhead]
  by_cases hnone : keys = []
  · rw [if_pos hnone, hnone]
    rfl
  · rw [if_neg hnone, ← nameTokens_last hnone]
    have hnames := parseNames_tokens hnone hkeys []
    rw [List.append_nil] at hnames
    rw [hnames]
    rfl

/-- The name of a column and of its type. -/
def columnDecl (f : FieldHeader) : CStr × CStr := (f.GetFieldName, typeName f.data_type_)

theorem parseDef_tokens {f : FieldHeader} (h : isIdentifier f.GetFieldName = true) :
    parseDef (defTokens f) = some (columnDecl f) := by
  have htype : typeNames.contains (typeName f.data_type_) = true := by
    cases f.data_type_ <;> rfl
  have hboth : (isIdentifier f.GetFieldName && typeNames.contains (typeName f.data_type_)) =
      true := by
    rw [h, htype]
    rfl
  exact if_pos hboth

theorem parseDef_key (keys : List CStr) : parseDef (keyTokensOf keys) = none := by
  unfold keyTokensOf parseDef keyword
  rfl

theorem parseDefs_def {piece : List Token} {c : CStr × CStr} (h : parseDef piece = some c)
    (rest : List (List Token)) :
    parseDefs (piece :: rest) = (parseDefs rest).map fun r => (c :: r.1, r.2) := by
  rw [parseDefs, h]

theorem parseDefs_last {piece : List Token} (h : parseDef piece = none) :
    parseDefs [piece] = (parseKey piece).map fun keys => ([], keys) := by
  rw [parseDefs, h]
  rfl

theorem parseDefs_tokens {l : List FieldHeader}
    (hl : ∀ f ∈ l, isIdentifier f.GetFieldName = true) (keys : List CStr) :
    parseDefs (l.map defTokens ++ [keyTokensOf keys]) =
      (parseKey (keyTokensOf keys)).map fun keys => (l.map columnDecl, keys) := by
  induction l with
  | nil => exact parseDefs_last (parseDef_key keys)
  | cons f l ih =>
    obtain ⟨hf, hrest⟩ := List.forall_mem_cons.mp hl
    rw [List.map_cons, List.cons_append, parseDefs_def (parseDef_tokens hf), ih hrest,
      Option.map_map]
    rfl

section parse

variable {item : TableStructInfo}

/-- **The statement that creates a table** declares its columns and its keys; without a key it is
no statement. -/
theorem parse_createTable (h : TableOk item) :
    parseCreateTable (createTokens item) =
      if item.keys = [] then none
      else some ⟨item.s_table_name_, item.field_header_list_.map columnDecl, item.keys⟩ := by
  have hparts : parts 0 [] (item.field_header_list_.flatMap (fun f => defTokens f ++ [comma]) ++
      (keyTokensOf item.keys ++ [.op 0x29, semicolon])) =
      some (item.field_header_list_.map defTokens ++ [keyTokensOf item.keys], [semicolon]) := by
    rw [parts_columns, parts_close (whole_key item.keys)]
    rfl
  have hdefs := parseDefs_tokens (l := item.field_header_list_)
    (fun f hf => (h.columns f hf).2) item.keys
  have hkey : parseKey (keyTokensOf item.keys) = if item.keys = [] then none else some item.keys :=
    parseKey_tokens fun w hw => (h.chosen_named _ w hw).2
  rw [hkey] at hdefs
  have hcolumns : (item.field_header_list_.map columnDecl).isEmpty = false := by
    rw [List.isEmpty_map]
    exact List.isEmpty_eq_false_iff.mpr h.fields
  have hhead : parseCreateTable (createTokens item) = parseTable item.s_table_name_
      (item.field_header_list_.flatMap (fun f => defTokens f ++ [comma]) ++
        (keyTokensOf item.keys ++ [.op 0x29, semicolon])) := by
    unfold parseCreateTable createTokens keyword
    exact if_pos ⟨rfl, h.name.2, rfl⟩
  rw [hhead]
  unfold parseTable
  rw [hparts, Option.bind_some]
  refine (if_pos (rfl : isEnd [semicolon] = true)).trans ?_
  rw [hdefs]
  by_cases hnone : item.keys = []
  · rw [if_pos hnone, if_pos hnone]
    rfl
  · rw [if_neg hnone, if_neg hnone]
    show (if (item.field_header_list_.map columnDecl).isEmpty then none else some _) = some _
    rw [hcolumns]
    rfl

theorem contains_index {ws : List CStr}
    (hws : ∀ r ∈ ws, r.getLast? = some 0x78 → r.length ≤ 5) {w : CStr} (hne : w ≠ []) :
    ws.contains ((w ++ str "index").map toLower) = false := by
  have hlower : (w ++ str "index").map toLower = w.map toLower ++ str "index" := by
    rw [List.map_append]
    rfl
  have hlast : ((w ++ str "index").map toLower).getLast? = some 0x78 := by
    rw [hlower, List.getLast?_append_of_ne_nil _ (by decide)]
    rfl
  have hlength : 5 < ((w ++ str "index").map toLower).length := by
    have hpos := List.length_pos_iff.mpr hne
    have hindex : (str "index").length = 5 := rfl
    rw [List.length_map, List.length_append, hindex]
    omega
  by_contra hmem
  rw [Bool.not_eq_false, List.contains_iff_mem] at hmem
  exact absurd (hws _ hmem hlast) (by omega)

theorem isIdentifier_index (h : IsName item.s_table_name_)
    (hid : isIdentifier item.s_table_name_ = true) :
    isIdentifier (item.s_table_name_ ++ str "index") = true := by
  have hreserved : reserved.contains ((item.s_table_name_ ++ str "index").map toLower) = false :=
    contains_index (by decide) h.ne_nil
  have hcreate : reservedCreate.contains ((item.s_table_name_ ++ str "index").map toLower) =
      false := contains_index (by decide) h.ne_nil
  have hnumber : isNumber (item.s_table_name_ ++ str "index") = isNumber item.s_table_name_ := by
    cases hname : item.s_table_name_ with
    | nil => exact absurd hname h.ne_nil
    | cons b w => rfl
  unfold isIdentifier isColumn at hid ⊢
  rw [hreserved, hcreate, hnumber]
  simp only [Bool.and_eq_true] at hid ⊢
  exact ⟨⟨hid.1.1, rfl⟩, rfl⟩

/-- **The statement that creates an index** names its columns. -/
theorem parse_createIndex (h : TableOk item) (hindex : item.indexKeys ≠ []) :
    parseCreateIndex (indexTokens item) =
      some ⟨item.s_table_name_ ++ str "index", item.s_table_name_, item.indexKeys⟩ := by
  have hnames := parseNames_tokens hindex (fun w hw => (h.chosen_named _ w hw).2) [semicolon]
  have hhead : parseCreateIndex (indexTokens item) =
      (parseNames (nameTokens [.op 0x29] item.indexKeys ++ [semicolon])).bind fun r =>
        if isEnd r.2 then
          some ⟨item.s_table_name_ ++ str "index", item.s_table_name_, r.1⟩ else none := by
    unfold parseCreateIndex indexTokens keyword
    exact if_pos ⟨rfl, isIdentifier_index h.name.1 h.name.2, h.name.2, rfl⟩
  rw [hhead, hnames]
  rfl

end parse

/-! ## All tables of a list -/

section tables

variable {item : TableStructInfo} {tables : List TableStructInfo}

/-- The two statements for a table say what it is; the one for the index can be left out where
there is no index column. -/
structure Declared (item : TableStructInfo) : Prop where
  table : ∃ sql, MakeCreateTableSql item = .ok sql ∧ parseCreateTable (tokens sql) =
    some ⟨item.s_table_name_, item.field_header_list_.map columnDecl, item.keys⟩
  index : item.indexKeys ≠ [] → ∃ sql, MakeCreateIndexTableSql item = .ok sql ∧
    parseCreateIndex (tokens sql) =
      some ⟨item.s_table_name_ ++ str "index", item.s_table_name_, item.indexKeys⟩

def MadeFor (item : TableStructInfo) (sql : CStr) : Prop :=
  MakeCreateTableSql item = .ok sql ∨ MakeCreateIndexTableSql item = .ok sql

/-- Every table is declared, and they are all created where SQLite accepts the statements. -/
structure Created (tables : List TableStructInfo) : Prop where
  declared : ∀ item ∈ tables, Declared item
  succeeds : ∀ sqlite3_exec db_tables,
    (∀ item ∈ tables, ∀ sql, MadeFor item sql → sqlite3_exec sql = true) →
      (SQLiteCreateTable sqlite3_exec db_tables tables).1 = Database.SQLITE_EXCUTE_SUCCESS

def HasKey (item : TableStructInfo) : Prop := ∃ f ∈ item.field_header_list_, f.isPrimaryKey = true

def HasIndex (item : TableStructInfo) : Prop := ∃ f ∈ item.field_header_list_, isIndexKey f = true

theorem chosen_ne_nil_iff (p : FieldHeader → Bool) (l : List FieldHeader) :
    chosen p l ≠ [] ↔ ∃ f ∈ l, p f = true := by
  unfold chosen
  rw [Ne, List.map_eq_nil_iff, List.filter_eq_nil_iff]
  simp

theorem hasKey_iff : HasKey item ↔ item.keys ≠ [] := (chosen_ne_nil_iff _ _).symm

theorem hasIndex_iff : HasIndex item ↔ item.indexKeys ≠ [] := (chosen_ne_nil_iff _ _).symm

/-- The steps for a table, as far as they succeed. -/
def steps (sqlite3_exec : CStr → Bool) (item : TableStructInfo) : Database.CreateTableSteps where
  makeCreateTableSql := (MakeCreateTableSql item).isOk
  createTable := (MakeCreateTableSql item).toOption.any sqlite3_exec
  makeCreateIndexTableSql := (MakeCreateIndexTableSql item).isOk
  createIndex := (MakeCreateIndexTableSql item).toOption.any sqlite3_exec

theorem SQLiteCreateTable_result (sqlite3_exec : CStr → Bool) (db_tables : Map CStr TableObject)
    (tables : List TableStructInfo) :
    (SQLiteCreateTable sqlite3_exec db_tables tables).1 =
      Database.sqliteCreateTable (tables.map (steps sqlite3_exec)) := by
  induction tables generalizing db_tables with
  | nil => rfl
  | cons item rest ih =>
    rw [SQLiteCreateTable, List.map_cons, Database.sqliteCreateTable, steps]
    cases MakeCreateTableSql item with
    | error msg => rfl
    | ok sql =>
      cases hsql : sqlite3_exec sql with
      | false => simp [Except.isOk, Except.toBool, Except.toOption, hsql]
      | true =>
        cases MakeCreateIndexTableSql item with
        | error msg => simp [Except.isOk, Except.toBool, Except.toOption, hsql]
        | ok sql' =>
          cases hsql' : sqlite3_exec sql' with
          | false => simp [Except.isOk, Except.toBool, Except.toOption, hsql, hsql']
          | true => simp [Except.isOk, Except.toBool, Except.toOption, hsql, hsql', ih]

theorem createTable_ok (h : TableOk item) :
    MakeCreateTableSql item = .ok (MakeCreateTableText item) := by
  have hbody : ¬ (MakeCreateTableText item).isEmpty = true := Bool.false_ne_true
  unfold MakeCreateTableSql
  rw [if_neg fun hempty => h.name.1.ne_nil (List.isEmpty_iff.mp hempty)]
  exact if_neg hbody

theorem indexText_isEmpty (h : TableOk item) :
    (MakeCreateIndexTableText item).isEmpty = true ↔ item.indexKeys = [] := by
  have hlength : ¬ item.field_header_list_.length = 0 :=
    fun hzero => h.fields (List.length_eq_zero_iff.mp hzero)
  unfold MakeCreateIndexTableText
  rw [if_neg hlength]
  by_cases hnone : item.indexKeys = []
  · have hlisted : listed isIndexKey item.field_header_list_ = [] := by
      rw [listed_eq, show chosen isIndexKey item.field_header_list_ = [] from hnone]
      rfl
    simp only [hlisted, hnone, List.isEmpty_nil, if_true]
  · simp only [listed_ne_nil hnone, hnone, iff_false]
    exact Bool.false_ne_true

theorem createIndex_ok (h : TableOk item) (hindex : item.indexKeys ≠ []) :
    MakeCreateIndexTableSql item = .ok (MakeCreateIndexTableText item) := by
  unfold MakeCreateIndexTableSql
  rw [if_neg fun hempty => h.name.1.ne_nil (List.isEmpty_iff.mp hempty)]
  exact if_neg fun hempty => hindex ((indexText_isEmpty h).mp hempty)

theorem createIndex_isOk (h : TableOk item) :
    (MakeCreateIndexTableSql item).isOk = true ↔ item.indexKeys ≠ [] := by
  constructor
  · intro hok hnone
    unfold MakeCreateIndexTableSql at hok
    rw [if_neg fun hempty => h.name.1.ne_nil (List.isEmpty_iff.mp hempty)] at hok
    simp only [(indexText_isEmpty h).mpr hnone, if_true] at hok
    cases hok
  · intro hindex
    rw [createIndex_ok h hindex]
    rfl

theorem declared_iff (h : TableOk item) : Declared item ↔ item.keys ≠ [] := by
  have htable := parse_createTable h
  have hread := (reads_createTable h).tokens_eq
  constructor
  · rintro ⟨⟨sql, hsql, hparse⟩, -⟩ hnone
    cases (createTable_ok h).symm.trans hsql
    rw [hread, htable, if_pos hnone] at hparse
    cases hparse
  · intro hkeys
    refine ⟨⟨_, createTable_ok h, ?_⟩, fun hindex => ⟨_, createIndex_ok h hindex, ?_⟩⟩
    · rw [hread, htable, if_neg hkeys]
    · rw [(reads_createIndex h hindex).tokens_eq, parse_createIndex h hindex]

/-- The list is created by an SQLite that accepts the statements where each table has an index
column. -/
theorem succeeds_iff (h : ∀ item ∈ tables, TableOk item) {sqlite3_exec : CStr → Bool}
    (hexec : ∀ item ∈ tables, ∀ sql, MadeFor item sql → sqlite3_exec sql = true)
    (db_tables : Map CStr TableObject) :
    (SQLiteCreateTable sqlite3_exec db_tables tables).1 = Database.SQLITE_EXCUTE_SUCCESS ↔
      ∀ item ∈ tables, item.indexKeys ≠ [] := by
  rw [SQLiteCreateTable_result, Database.sqliteCreateTable_eq_success_iff, List.forall_mem_map]
  refine forall₂_congr fun item hitem => ?_
  have hok := h item hitem
  constructor
  · rintro ⟨-, -, hindex, -⟩
    exact (createIndex_isOk hok).mp hindex
  · intro hindex
    have htable := createTable_ok hok
    have hind := createIndex_ok hok hindex
    unfold steps
    rw [htable, hind]
    exact ⟨rfl, hexec item hitem _ (.inl htable), rfl, hexec item hitem _ (.inr hind)⟩

/-- **Every table is created.**  All tables of a list are declared by grammatical statements, and
created where SQLite accepts these, exactly when each has a key and an index column. -/
theorem created_iff (h : ∀ item ∈ tables, TableOk item) :
    Created tables ↔ ∀ item ∈ tables, HasKey item ∧ HasIndex item := by
  constructor
  · rintro ⟨hdeclared, hsucceeds⟩ item hitem
    have hexec : ∀ item ∈ tables, ∀ sql, MadeFor item sql → (fun _ => true : CStr → Bool) sql =
        true := fun _ _ _ _ => rfl
    have hall := (succeeds_iff h hexec ∅).mp (hsucceeds _ ∅ hexec)
    rw [hasKey_iff, hasIndex_iff]
    exact ⟨(declared_iff (h item hitem)).mp (hdeclared item hitem), hall item hitem⟩
  · intro hall
    refine ⟨fun item hitem => ?_, fun sqlite3_exec db_tables hexec => ?_⟩
    · exact (declared_iff (h item hitem)).mpr (hasKey_iff.mp (hall item hitem).1)
    · exact (succeeds_iff h hexec db_tables).mpr fun item hitem =>
        hasIndex_iff.mp (hall item hitem).2

end tables

/-! ## Two tables -/

def column (name : String) (constraint_ : Constraint) : FieldHeader :=
  ⟨.kText, str name, constraint_⟩

/-- A table with a key and an index column. -/
def deviceTable : TableStructInfo :=
  ⟨str "device", [column "DeviceID" .c_PrimaryKey, column "ParentID" .c_IndexKey]⟩

def domainTable : TableStructInfo := ⟨str "d", [column "DeviceID" .c_PrimaryKey]⟩

def logTable : TableStructInfo := ⟨str "log", [column "Line" .c_IndexKey]⟩

theorem deviceTable_ok : TableOk deviceTable where
  name := ⟨isName_str (by decide) rfl, rfl⟩
  fields := List.cons_ne_nil _ _
  columns := List.forall_mem_cons.mpr ⟨⟨isName_str (by decide) rfl, rfl⟩,
    List.forall_mem_singleton.mpr ⟨isName_str (by decide) rfl, rfl⟩⟩

theorem tableOk_single {name : String} {c : FieldHeader} (hname : IsName (str name))
    (hid : isIdentifier (str name) = true) (hc : IsName c.GetFieldName)
    (hcid : isIdentifier c.GetFieldName = true) : TableOk ⟨str name, [c]⟩ where
  name := ⟨hname, hid⟩
  fields := List.cons_ne_nil _ _
  columns := List.forall_mem_singleton.mpr ⟨hc, hcid⟩

theorem domainTable_ok : TableOk domainTable :=
  tableOk_single (isName_str (by decide) rfl) rfl (isName_str (by decide) rfl) rfl

theorem logTable_ok : TableOk logTable :=
  tableOk_single (isName_str (by decide) rfl) rfl (isName_str (by decide) rfl) rfl

theorem created_deviceTable : TableOk deviceTable ∧ Created [deviceTable] := by
  refine ⟨deviceTable_ok, (created_iff (List.forall_mem_singleton.mpr deviceTable_ok)).mpr ?_⟩
  refine List.forall_mem_singleton.mpr ⟨⟨column "DeviceID" .c_PrimaryKey, ?_, rfl⟩,
    ⟨column "ParentID" .c_IndexKey, ?_, rfl⟩⟩
  · exact List.mem_cons_self
  · exact List.mem_cons_of_mem _ List.mem_cons_self

/-- Without an index column the creation fails; without a key its statement is none. -/
theorem table_not_created :
    TableOk domainTable ∧
      MakeCreateTableSql domainTable =
        .ok (str "create table if not exists d (  DeviceID TEXT , PRIMARY KEY ( DeviceID) ) ;") ∧
      (SQLiteCreateTable (fun _ => true) ∅ [domainTable]).1 = Database.SQLITE_EXCUTE_FAILD ∧
      ¬ Created [domainTable] ∧
    TableOk logTable ∧
      MakeCreateTableSql logTable =
        .ok (str "create table if not exists log (  Line TEXT , PRIMARY KEY () ) ;") ∧
      ¬ Created [logTable] := by
  have hfaild : (SQLiteCreateTable (fun _ => true) ∅ [domainTable]).1 =
      Database.SQLITE_EXCUTE_FAILD := SQLiteCreateTable_result _ _ _
  refine ⟨domainTable_ok, rfl, hfaild, fun h => ?_, logTable_ok, rfl, fun h => ?_⟩
  · have hsuccess := h.succeeds (fun _ => true) ∅ fun _ _ _ _ => rfl
    cases hfaild.symm.trans hsuccess
  · obtain ⟨sql, hsql, hparse⟩ := (h.declared logTable List.mem_cons_self).table
    cases hsql
    cases hparse

end GB28181.Platform.SQLTextMaker
