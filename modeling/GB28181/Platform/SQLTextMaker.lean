import GB28181.Base.Decimal
import GB28181.Base.Token
import GB28181.Base.Trim

/-!
# SQL texts (`DataManager/DB/SQLTextMaker.h`, `db_common.h`)

`SQLiteTextMaker` puts a table name, the fields of a record and a condition list together to the
text of an `insert`, `select`, `update` or `delete`.

* `FieldInfoT`, `FieldCondT` — a field and a condition, by constructor;
* `FormatSQL` — the valid fields, handed to one of the four text bodies; only `update` gets the
  condition list;
* `MakeInserSql`, `MakeSelectSql`, `MakeUpdateSql`, `MakeDeleteSql` — the statements; an error is
  the message of a call that returns false.

A `FieldInfoList` is the list of the map's entries in the order of its keys.
-/

set_option autoImplicit false

namespace GB28181.Platform.SQLTextMaker

open GB28181.Base

/-! ## The texts -/

def cstring_select : CStr := str "select "
def cstring_insert : CStr := str "insert "
def cstring_update : CStr := str "update "
def cstring_delete : CStr := str "delete "
def cstring_from : CStr := str "from "
def cstring_where : CStr := str "where "
def cstring_order_by : CStr := str "order by "
def cstring_limit : CStr := str "limit "
def cstring_into : CStr := str "into "
def cstring_values : CStr := str "values "
def cstring_set : CStr := str "set "
def cstring_left_bracket : CStr := str "( "
def cstring_right_bracket : CStr := str ") "
def cstring_star : CStr := str "* "
def cstring_quote : CStr := str "'"
def cstring_comma : CStr := str ", "
def cstring_semicolon : CStr := str ";"
def cstring_equal : CStr := str "="
def cstring_not_equal : CStr := str "<>"
def cstring_larger : CStr := str ">"
def cstring_larger_or_equal : CStr := str ">="
def cstring_smaller : CStr := str "<"
def cstring_smaller_or_equal : CStr := str "<="
def cstring_between : CStr := str "between "
def cstring_not_between : CStr := str "not between "
def cstring_and : CStr := str "and "
def cstring_or : CStr := str "or "
def cstring_not_like : CStr := str "not like "
def cstring_like : CStr := str "like "
def cstring_percent : CStr := str "%"
def cstring_space : CStr := str " "

/-! ## Fields and conditions -/

inductive DataType where
  | kNull
  | kInteger
  | kReal
  | kText
  | kBoolean
  | kBlob
  deriving DecidableEq

inductive Constraint where
  | c_NoConstraint
  | c_PrimaryKey
  | c_IndexKey
  deriving DecidableEq

/-- `FieldInfoT`, by its constructors; `long` and `int` share one. -/
inductive FieldInfoT where
  | ofType (data_type : DataType)
  | ofInt (int_value : Int) (constraint : Constraint)
  | ofBool (bool_value : Bool) (constraint : Constraint)
  | ofText (cstring_value : CStr) (constraint : Constraint)
  deriving DecidableEq

namespace FieldInfoT

def IsValid : FieldInfoT → Bool
  | ofType _ => false
  | _ => true

def GetType : FieldInfoT → DataType
  | ofType data_type => data_type
  | ofInt _ _ => .kInteger
  | ofBool _ _ => .kBoolean
  | ofText _ _ => .kText

/-- `GetValue`.  The `1` of a Boolean that holds is overwritten by the `0` of the next line. -/
def GetValue : FieldInfoT → CStr
  | ofType _ => []
  | ofInt int_value _ => zeroPadInt 0 int_value
  | ofBool _ _ => str "0"
  | ofText cstring_value _ => cstring_value

def GetConstraint : FieldInfoT → Constraint
  | ofType _ => .c_NoConstraint
  | ofInt _ constraint => constraint
  | ofBool _ constraint => constraint
  | ofText _ constraint => constraint

end FieldInfoT

abbrev FieldInfoList := List (CStr × FieldInfoT)

/-- `FieldCondT`, by its constructors. -/
inductive FieldCondT where
  | ofText (columName conditon fieldValue : CStr) (and_next : Bool)
  | ofInt (columName conditon : CStr) (fieldValue : Int) (and_next : Bool)
  | ofRange (columName conditon : CStr) (lowerBound upperBound : Int) (and_next : Bool)
  deriving DecidableEq

namespace FieldCondT

def _columName : FieldCondT → CStr
  | ofText columName _ _ _ => columName
  | ofInt columName _ _ _ => columName
  | ofRange columName _ _ _ _ => columName

def _conditon : FieldCondT → CStr
  | ofText _ conditon _ _ => conditon
  | ofInt _ conditon _ _ => conditon
  | ofRange _ conditon _ _ _ => conditon

def _fieldValue : FieldCondT → CStr
  | ofText _ _ fieldValue _ => fieldValue
  | ofInt _ _ fieldValue _ => zeroPadInt 0 fieldValue
  | ofRange _ _ _ _ _ => []

def _lowerBound : FieldCondT → CStr
  | ofRange _ _ lowerBound _ _ => zeroPadInt 0 lowerBound
  | _ => []

def _upperBound : FieldCondT → CStr
  | ofRange _ _ _ upperBound _ => zeroPadInt 0 upperBound
  | _ => []

def _b_Str : FieldCondT → Bool
  | ofText _ _ _ _ => true
  | _ => false

def _b_and_next : FieldCondT → Bool
  | ofText _ _ _ and_next => and_next
  | ofInt _ _ _ and_next => and_next
  | ofRange _ _ _ _ and_next => and_next

end FieldCondT

abbrev ConditionList := List FieldCondT

/-! ## The text bodies

Every body is a loop that compares a counter with the number of entries less one: the last turn is
the one with nothing left. -/

/-- A loop over entries: what a turn writes, with one thing after it in the last turn and another
in the others. -/
def turns {α β : Type} (body next last : α → List β) : List α → List β
  | [] => []
  | item :: rest =>
    body item ++ (if rest.isEmpty then last item else next item) ++ turns body next last rest

/-- `s.MakeLower().Find(t) >= 0`. -/
def findLower (s t : CStr) : Bool := (breakOn t (s.map toLower)).isSome

/-- One turn of `GetConditonSql`, without what joins it to the next. -/
def conditonText (item : FieldCondT) : CStr :=
  item._columName ++ cstring_space ++ item._conditon ++
    if item._b_Str then
      cstring_space ++ cstring_quote ++ item._fieldValue ++ (cstring_quote ++ cstring_space)
    else if findLower item._conditon (str "between") then
      item._lowerBound ++ cstring_space ++ cstring_and ++ (item._upperBound ++ cstring_space)
    else cstring_space ++ item._fieldValue ++ cstring_space

def GetConditonSql (conldtion_list : ConditionList) : CStr :=
  turns conditonText (fun item => if item._b_and_next then cstring_and else cstring_or)
    (fun _ => cstring_semicolon) conldtion_list

/-- The condition list where there is one. -/
def conditonPart (p_Con_Lst : Option ConditionList) : CStr :=
  match p_Con_Lst with
  | none => []
  | some conldtion_list => GetConditonSql conldtion_list

def insertColumns (valid_field_info_list : FieldInfoList) : CStr :=
  turns (·.1) (fun _ => cstring_comma) (fun _ => cstring_right_bracket) valid_field_info_list

/-- A value, between quotes where it is a text. -/
def valueText (field : FieldInfoT) : CStr :=
  match field.GetType with
  | .kText => cstring_quote ++ field.GetValue ++ cstring_quote
  | .kBoolean | .kInteger => field.GetValue
  | _ => []

def insertValues (valid_field_info_list : FieldInfoList) : CStr :=
  turns (fun item => valueText item.2) (fun _ => cstring_comma)
    (fun _ => cstring_right_bracket ++ cstring_semicolon) valid_field_info_list

def MakeInsertTextBody (valid_field_info_list : FieldInfoList)
    (p_Con_Lst : Option ConditionList) : CStr :=
  cstring_left_bracket ++ insertColumns valid_field_info_list ++
    (cstring_values ++ cstring_left_bracket ++ insertValues valid_field_info_list) ++
    conditonPart p_Con_Lst

/-- What a field of a `select` is compared with.  Nothing stands between the field's name and
`like`. -/
def selectText (item : CStr × FieldInfoT) : CStr :=
  match item.2.GetType with
  | .kText =>
    (if findLower item.1 (str "name") then
      cstring_like ++ (cstring_quote ++ cstring_percent) ++ item.2.GetValue ++
        (cstring_percent ++ cstring_quote)
    else cstring_equal ++ (cstring_quote ++ item.2.GetValue ++ cstring_quote)) ++ cstring_space
  | .kInteger | .kBoolean => cstring_equal ++ item.2.GetValue ++ cstring_space
  | _ => []

def selectFields (valid_field_info_list : FieldInfoList) : CStr :=
  turns (fun item => item.1 ++ selectText item) (fun _ => cstring_and) (fun _ => [])
    valid_field_info_list

def MakeSelectTextBody (valid_field_info_list : FieldInfoList)
    (p_Con_Lst : Option ConditionList) : CStr :=
  cstring_where ++ selectFields valid_field_info_list ++ conditonPart p_Con_Lst

/-- A primary key, which an `update` does not set. -/
def isKey (item : CStr × FieldInfoT) : Bool := item.2.GetConstraint = .c_PrimaryKey

/-- What an `update` sets a field to. -/
def updateText (item : CStr × FieldInfoT) : CStr := cstring_equal ++ valueText item.2

/-- The left part of an `update`: a primary key leaves its turn out, but not the comma before it. -/
def updateFields (valid_field_info_list : FieldInfoList) : CStr :=
  turns (fun item => if isKey item then [] else item.1 ++ updateText item)
    (fun item => if isKey item then [] else cstring_comma)
    (fun item => if isKey item then [] else cstring_space) valid_field_info_list

/-- The name and the value of the last primary key. -/
def primirykey : FieldInfoList → CStr × CStr → CStr × CStr
  | [], key => key
  | item :: rest, key =>
    if isKey item then primirykey rest (item.1, item.2.GetValue)
    else primirykey rest key

def MakeUpdateTextBody (valid_field_info_list : FieldInfoList)
    (p_Con_Lst : Option ConditionList) : CStr :=
  let key := primirykey valid_field_info_list ([], [])
  cstring_set ++ updateFields valid_field_info_list ++
    (cstring_where ++
      match p_Con_Lst with
      | none => key.1 ++ cstring_equal ++ (cstring_quote ++ key.2 ++ cstring_quote) ++
          cstring_semicolon
      | some conldtion_list => GetConditonSql conldtion_list)

/-- What a field of a `delete` is compared with. -/
def deleteText (item : CStr × FieldInfoT) : CStr :=
  cstring_equal ++
    match item.2.GetType with
    | .kText => cstring_quote ++ item.2.GetValue ++ cstring_quote ++ cstring_space
    | _ => item.2.GetValue ++ cstring_space

def deleteFields (valid_field_info_list : FieldInfoList) : CStr :=
  turns (fun item => item.1 ++ deleteText item) (fun _ => cstring_and)
    (fun _ => cstring_semicolon) valid_field_info_list

def MakeDeleteTextBody (valid_field_info_list : FieldInfoList)
    (p_Con_Lst : Option ConditionList) : CStr :=
  cstring_where ++ deleteFields valid_field_info_list ++ conditonPart p_Con_Lst

/-! ## The statements -/

inductive OpType where
  | _SELECT
  | _INSERT
  | _UPDATE
  | _DELETE
  deriving DecidableEq

def validFields (field_info_list : FieldInfoList) : FieldInfoList :=
  field_info_list.filter fun item => item.2.IsValid

/-- `FormatSQL`.  The condition list goes on to `update` alone. -/
def FormatSQL (field_info_list : FieldInfoList) (operation_type : OpType)
    (p_Con_Lst : Option ConditionList) : CStr :=
  let valid_field_info_list := validFields field_info_list
  if valid_field_info_list.isEmpty then []
  else
    match operation_type with
    | ._SELECT => MakeSelectTextBody valid_field_info_list none
    | ._INSERT => MakeInsertTextBody valid_field_info_list none
    | ._UPDATE => MakeUpdateTextBody valid_field_info_list p_Con_Lst
    | ._DELETE => MakeDeleteTextBody valid_field_info_list none

def MakeInserSql (_table_name : CStr) (field_info_list : FieldInfoList) : Except CStr CStr :=
  let cstring_sql := cstring_insert ++ cstring_into ++ _table_name ++ cstring_space
  let cstring_result := FormatSQL field_info_list ._INSERT none
  if cstring_result.isEmpty then
    .error (str "insert abort , for no field info to insert into: " ++ _table_name)
  else .ok (cstring_sql ++ cstring_result)

def MakeSelectSql (_table_name : CStr) (field_info_list : FieldInfoList)
    (limit_row_count sort_field_name : CStr) : Except CStr CStr :=
  let _table_name := trim isSpace _table_name
  if _table_name.isEmpty then .error (str "Select abort , table name is empty!")
  else
    let cstring_sql := cstring_select ++ cstring_star ++ cstring_from ++ _table_name ++
      cstring_space ++ FormatSQL field_info_list ._SELECT none
    let cstring_order := if sort_field_name.isEmpty then []
      else cstring_order_by ++ sort_field_name ++ cstring_space
    let cstring_limited := if limit_row_count.isEmpty then [] else cstring_limit ++ limit_row_count
    .ok (cstring_sql ++ cstring_order ++ cstring_limited ++ cstring_semicolon)

def MakeUpdateSql (_table_name : CStr) (field_info_list : FieldInfoList)
    (p_Con_Lst : Option ConditionList) : Except CStr CStr :=
  let _table_name := trim isSpace _table_name
  if _table_name.isEmpty then .error (str "Update abort , table name is empty!")
  else
    .ok (cstring_update ++ _table_name ++ cstring_space ++
      FormatSQL field_info_list ._UPDATE p_Con_Lst)

def MakeDeleteSql (_table_name : CStr) (field_info_list : FieldInfoList)
    (p_Con_Lst : Option ConditionList) : Except CStr CStr :=
  let _table_name := trim isSpace _table_name
  if _table_name.isEmpty then .error (str "Delete abort , table name is empty!")
  else
    .ok (cstring_delete ++ cstring_from ++ _table_name ++ cstring_space ++
      FormatSQL field_info_list ._DELETE p_Con_Lst)

end GB28181.Platform.SQLTextMaker
