import GB28181.Platform.SQLTokens

/-!
# The rows of a `delete` or an `update`

The tokens of a statement are read by SQLite's grammar as far as the makers use it; a statement
that is not one by the grammar changes nothing.  Which rows satisfy a comparison is left open.

* `parse` — the rows a statement names: all of them, or those of its where clause;
* `parse_delete`, `parse_update` — what the two makers' statements name;
* `scoped_iff` — a statement changes only rows that satisfy the keys and the condition list, and
  there is none without keys and conditions, **exactly when** there are some and the rows it names
  satisfy them: a `delete` leaves its condition list out, an `update` with one its keys.
-/

set_option autoImplicit false

namespace GB28181.Platform.SQLTextMaker

open GB28181.Base
open GB28181.Base.Sql

/-! ## Comparisons -/

inductive Operand where
  | text (v : CStr)
  | number (n : CStr)
  deriving DecidableEq

/-- A comparison of a column, with the tokens of its operator. -/
inductive Atom where
  | compare (column : CStr) (ops : List Token) (value : Operand)
  | range (column : CStr) (ops : List Token) (lower upper : CStr)
  deriving DecidableEq

/-- The operators of a comparison with one value. -/
def comparisons : List CStr :=
  [cstring_equal, cstring_not_equal, cstring_larger, cstring_larger_or_equal, cstring_smaller,
    cstring_smaller_or_equal, cstring_like, cstring_not_like]

/-- The operators of a comparison with two bounds. -/
def ranges : List CStr := [cstring_between, cstring_not_between]

def isComparison (ops : List Token) : Bool := (comparisons.map (lex (.code []))).contains ops

def isRange (ops : List Token) : Bool := (ranges.map (lex (.code []))).contains ops

/-! ## The grammar -/

def reserved : List CStr :=
  [str "select", str "insert", str "update", str "delete", str "from", str "where", str "order",
    str "limit", str "into", str "values", str "set", str "between", str "not", str "and", str "or",
    str "like", str "by"]

def isNumber (w : CStr) : Bool := w.head?.any isDigit

def isColumn (w : CStr) : Bool := !isNumber w && !reserved.contains (w.map toLower)

inductive Place where
  | table
  | setName
  | setEqual
  | setValue (neg : Bool)
  | setNext
  | column
  | operator (column : CStr) (ops : List Token) (neg : Bool)
  | lower (column : CStr) (ops : List Token) (neg : Bool)
  | between (column : CStr) (ops : List Token) (lower : CStr)
  | upper (column : CStr) (ops : List Token) (lower : CStr) (neg : Bool)
  | joiner
  | ended (all : Bool)
  deriving DecidableEq

/-- The comparisons read so far: those joined by `and` in groups joined by `or`. -/
structure Scan where
  place : Place
  groups : List (List Atom)
  group : List Atom
  deriving DecidableEq

namespace Scan

def goto (s : Scan) (place : Place) : Scan := { s with place := place }

def push (s : Scan) (a : Atom) : Scan := { s with place := .joiner, group := s.group ++ [a] }

/-- An `or`. -/
def close (s : Scan) : Scan := ⟨.column, s.groups ++ [s.group], []⟩

end Scan

def signed (neg : Bool) (w : CStr) : CStr := if neg then 0x2d :: w else w

/-- A word where a number is looked for. -/
def ifNumber (w : CStr) (s : Scan) : Option Scan := if isNumber w then some s else none

def scanStep (s : Scan) : Token → Option Scan
  | .word w =>
    match s.place with
    | .table => if w = str "where" then some (s.goto .column) else none
    | .setName => if isColumn w then some (s.goto .setEqual) else none
    | .setValue _ => ifNumber w (s.goto .setNext)
    | .setNext => if w = str "where" then some (s.goto .column) else none
    | .column => if isColumn w then some (s.goto (.operator w [] false)) else none
    | .operator column ops neg =>
      if isNumber w then
        if isComparison ops then some (s.push (.compare column ops (.number (signed neg w))))
        else none
      else if neg then none
      else if isRange (ops ++ [.word w]) then
        some (s.goto (.lower column (ops ++ [.word w]) false))
      else some (s.goto (.operator column (ops ++ [.word w]) false))
    | .lower column ops neg => ifNumber w (s.goto (.between column ops (signed neg w)))
    | .between column ops lower =>
      if w = str "and" then some (s.goto (.upper column ops lower false)) else none
    | .upper column ops lower neg => ifNumber w (s.push (.range column ops lower (signed neg w)))
    | .joiner =>
      if w = str "and" then some (s.goto .column)
      else if w = str "or" then some s.close else none
    | _ => none
  | .literal v =>
    match s.place with
    | .setValue false => some (s.goto .setNext)
    | .operator column ops false =>
      if isComparison ops then some (s.push (.compare column ops (.text v))) else none
    | _ => none
  | .op b =>
    match s.place with
    | .table => if b = 0x3b then some (s.goto (.ended true)) else none
    | .setEqual => if b = 0x3d then some (s.goto (.setValue false)) else none
    | .setValue false => if b = 0x2d then some (s.goto (.setValue true)) else none
    | .setNext =>
      if b = 0x2c then some (s.goto .setName)
      else if b = 0x3b then some (s.goto (.ended true)) else none
    | .operator column ops false =>
      if b = 0x2d then some (s.goto (.operator column ops true))
      else some (s.goto (.operator column (ops ++ [.op b]) false))
    | .lower column ops false =>
      if b = 0x2d then some (s.goto (.lower column ops true)) else none
    | .upper column ops lower false =>
      if b = 0x2d then some (s.goto (.upper column ops lower true)) else none
    | .joiner => if b = 0x3b then some (s.goto (.ended false)) else none
    | _ => none
  | _ => none

def scan : Scan → List Token → Option Scan
  | s, [] => some s
  | s, t :: ts => (scanStep s t).bind fun s' => scan s' ts

inductive Scope where
  | all
  | filter (groups : List (List Atom))
  deriving DecidableEq

def Scan.scope (s : Scan) : Option Scope :=
  match s.place with
  | .table => some .all
  | .setNext => some .all
  | .joiner => some (.filter (s.groups ++ [s.group]))
  | .ended true => some .all
  | .ended false => some (.filter (s.groups ++ [s.group]))
  | _ => none

/-- A statement by its first three words. -/
def parseVerb (verb w w' : CStr) (rest : List Token) : Option Scope :=
  if verb = str "delete" ∧ w = str "from" then (scan ⟨.table, [], []⟩ rest).bind Scan.scope
  else if verb = str "update" ∧ w' = str "set" then
    (scan ⟨.setName, [], []⟩ rest).bind Scan.scope
  else none

/-- A `delete` or an `update`. -/
def parse : List Token → Option Scope
  | .word verb :: .word w :: .word w' :: rest => parseVerb verb w w' rest
  | _ => none

/-! ## Rows -/

section rows

variable {Row : Type} (satisfies : Row → Atom → Prop)

/-- A row satisfies all comparisons of one of the groups. -/
def holds (groups : List (List Atom)) (row : Row) : Prop :=
  ∃ group ∈ groups, ∀ a ∈ group, satisfies row a

def Scope.names (row : Row) : Scope → Prop
  | all => True
  | filter groups => holds satisfies groups row

/-- A statement changes a row of any table. -/
def Touches (sql : CStr) (row : Row) : Prop :=
  ∃ scope, parse (tokens sql) = some scope ∧ scope.names satisfies row

end rows

/-! ## What the fields and the conditions say -/

def operand (field : FieldInfoT) : Operand :=
  match field.GetType with
  | .kText => .text field.GetValue
  | _ => .number field.GetValue

def fieldAtom (item : CStr × FieldInfoT) : Atom := .compare item.1 [equal] (operand item.2)

def conditonAtom : FieldCondT → Atom
  | .ofText columName conditon fieldValue _ =>
    .compare columName (lex (.code []) conditon) (.text fieldValue)
  | .ofInt columName conditon fieldValue _ =>
    .compare columName (lex (.code []) conditon) (.number (zeroPadInt 0 fieldValue))
  | .ofRange columName conditon lowerBound upperBound _ =>
    .range columName (lex (.code []) conditon) (zeroPadInt 0 lowerBound) (zeroPadInt 0 upperBound)

/-- A group before others, joined to the first of them. -/
def joinFirst (group : List Atom) : List (List Atom) → List (List Atom)
  | [] => [group]
  | first :: rest => (group ++ first) :: rest

/-- The groups of a condition list: `and` binds more than `or`. -/
def conditionGroups : ConditionList → List (List Atom)
  | [] => []
  | item :: rest =>
    if rest.isEmpty then [[conditonAtom item]]
    else if item._b_and_next then joinFirst [conditonAtom item] (conditionGroups rest)
    else [conditonAtom item] :: conditionGroups rest

/-- A condition of the two kinds there are. -/
def FieldCondT.WellFormed : FieldCondT → Prop
  | ofText _ conditon _ _ => conditon ∈ comparisons
  | ofInt _ conditon _ _ => conditon ∈ comparisons
  | ofRange _ conditon _ _ _ => conditon ∈ ranges

/-! ## Reading the parts of a statement -/

theorem scan_append (s : Scan) (ts us : List Token) :
    scan s (ts ++ us) = (scan s ts).bind fun s' => scan s' us := by
  induction ts generalizing s with
  | nil => rfl
  | cons t ts ih =>
    show (scanStep s t).bind (fun s' => scan s' (ts ++ us)) = _
    simp only [ih]
    show _ = ((scanStep s t).bind fun s' => scan s' ts).bind _
    rw [Option.bind_assoc]

theorem scan_append_of_eq {s s' : Scan} {ts us : List Token} (h : scan s ts = some s') :
    scan s (ts ++ us) = scan s' us := by
  rw [scan_append, h]
  rfl

theorem scan_cons_of_eq {s s' : Scan} {t : Token} {ts : List Token} (h : scanStep s t = some s') :
    scan s (t :: ts) = scan s' ts := by
  show (scanStep s t).bind _ = _
  rw [h]
  rfl

theorem isNumber_toText (n : Nat) : isNumber (toText n) = true := by
  obtain ⟨d, ds, hd, hdigit⟩ := toText_eq_cons n
  rw [hd]
  exact hdigit

theorem lex_word_end {w : CStr} (hw : IsName w) : lex (.code []) w = [.word w] := by
  have h := lex_word hw.bytes [] []
  rw [List.append_nil] at h
  rw [h]
  exact flush_of_ne_nil hw.ne_nil

theorem isName_toText (n : Nat) : IsName (toText n) := by
  obtain ⟨d, ds, hd, -⟩ := toText_eq_cons n
  exact ⟨by rw [hd]; exact List.cons_ne_nil _ _,
    fun b hb => wordByte_of_isDigit (isDigit_of_mem_toText n b hb)⟩

theorem lex_number (n : Int) : lex (.code []) (zeroPadInt 0 n) =
    if n < 0 then [.op 0x2d, .word (toText n.natAbs)] else [.word (toText n.natAbs)] := by
  have hdigits := lex_word_end (isName_toText n.natAbs)
  rw [zeroPadInt_zero]
  split_ifs
  · obtain ⟨d, ds, hd, hdigit⟩ := toText_eq_cons n.natAbs
    have hd' : d ≠ 0x2d := fun h => by rw [h] at hdigit; cases hdigit
    rw [hd] at hdigits ⊢
    have hopen : step (.code []) 0x2d = ([], .minus) := rfl
    have hclose : step .minus d = after (.op 0x2d) d := if_neg hd'
    rw [lex, hopen, List.nil_append, lex, hclose]
    rw [lex] at hdigits
    exact congrArg (Token.op 0x2d :: ·) hdigits
  · exact hdigits

section places

variable {c : CStr} {ops : List Token} {g : List (List Atom)} {k : List Atom}

theorem scan_number_operator (h : isComparison ops = true) (n : Int) :
    scan ⟨.operator c ops false, g, k⟩ (lex (.code []) (zeroPadInt 0 n)) =
      some ⟨.joiner, g, k ++ [.compare c ops (.number (zeroPadInt 0 n))]⟩ := by
  have hnumber := isNumber_toText n.natAbs
  rw [lex_number, zeroPadInt_zero]
  split_ifs
  · simp [scan, scanStep, hnumber, h, Scan.goto, Scan.push, signed]
  · simp [scan, scanStep, hnumber, h, Scan.push, signed]

theorem scan_number_set (n : Int) :
    scan ⟨.setValue false, g, k⟩ (lex (.code []) (zeroPadInt 0 n)) = some ⟨.setNext, g, k⟩ := by
  have hnumber := isNumber_toText n.natAbs
  rw [lex_number]
  split_ifs
  · simp [scan, scanStep, hnumber, ifNumber, Scan.goto]
  · simp [scan, scanStep, hnumber, ifNumber, Scan.goto]

theorem scan_number_lower (n : Int) :
    scan ⟨.lower c ops false, g, k⟩ (lex (.code []) (zeroPadInt 0 n)) =
      some ⟨.between c ops (zeroPadInt 0 n), g, k⟩ := by
  have hnumber := isNumber_toText n.natAbs
  rw [lex_number, zeroPadInt_zero]
  split_ifs
  · simp [scan, scanStep, hnumber, ifNumber, Scan.goto, signed]
  · simp [scan, scanStep, hnumber, ifNumber, Scan.goto, signed]

theorem scan_number_upper (lo : CStr) (n : Int) :
    scan ⟨.upper c ops lo false, g, k⟩ (lex (.code []) (zeroPadInt 0 n)) =
      some ⟨.joiner, g, k ++ [.range c ops lo (zeroPadInt 0 n)]⟩ := by
  have hnumber := isNumber_toText n.natAbs
  rw [lex_number, zeroPadInt_zero]
  split_ifs
  · simp [scan, scanStep, hnumber, ifNumber, Scan.goto, Scan.push, signed]
  · simp [scan, scanStep, hnumber, ifNumber, Scan.push, signed]

end places

theorem valid_number {field : FieldInfoT} (h : field.IsValid = true) :
    field.GetType = .kText ∨
      ((field.GetType = .kInteger ∨ field.GetType = .kBoolean) ∧
        ∃ n, field.GetValue = zeroPadInt 0 n) := by
  cases field with
  | ofType t => cases h
  | ofInt n c => exact .inr ⟨.inl rfl, n, rfl⟩
  | ofBool b c => exact .inr ⟨.inr rfl, 0, rfl⟩
  | ofText v c => exact .inl rfl

theorem scanStep_column {c : CStr} (hcolumn : isColumn c = true) (g : List (List Atom))
    (k : List Atom) :
    scanStep ⟨.column, g, k⟩ (.word c) = some ⟨.operator c [] false, g, k⟩ :=
  if_pos hcolumn

section fields

variable {item : CStr × FieldInfoT} {g : List (List Atom)} {k : List Atom}

theorem scan_value {c : CStr} {ops : List Token} (hvalid : item.2.IsValid = true)
    (hops : isComparison ops = true) :
    scan ⟨.operator c ops false, g, k⟩ (valueTokens item.2) =
      some ⟨.joiner, g, k ++ [.compare c ops (operand item.2)]⟩ := by
  unfold valueTokens operand
  rcases valid_number hvalid with htype | ⟨htype | htype, n, hn⟩
  · rw [htype]
    simp [scan, scanStep, hops, Scan.push]
  all_goals
    rw [htype, hn]
    exact scan_number_operator hops n

theorem scan_equal (hvalid : item.2.IsValid = true) (hcolumn : isColumn item.1 = true) :
    scan ⟨.column, g, k⟩ (equalTokens item) = some ⟨.joiner, g, k ++ [fieldAtom item]⟩ := by
  have hop : scanStep ⟨.operator item.1 [] false, g, k⟩ equal =
      some ⟨.operator item.1 [equal] false, g, k⟩ := rfl
  unfold equalTokens
  rw [scan_cons_of_eq (scanStep_column hcolumn g k), scan_cons_of_eq hop]
  exact scan_value hvalid rfl

theorem scan_setField (hvalid : item.2.IsValid = true) (hcolumn : isColumn item.1 = true) :
    scan ⟨.setName, g, k⟩ (equalTokens item) = some ⟨.setNext, g, k⟩ := by
  have hname : scanStep ⟨.setName, g, k⟩ (.word item.1) = some ⟨.setEqual, g, k⟩ :=
    if_pos hcolumn
  have hop : scanStep ⟨.setEqual, g, k⟩ equal = some ⟨.setValue false, g, k⟩ := rfl
  unfold equalTokens
  rw [scan_cons_of_eq hname, scan_cons_of_eq hop]
  unfold valueTokens
  rcases valid_number hvalid with htype | ⟨htype | htype, n, hn⟩
  · rw [htype]
    rfl
  all_goals
    rw [htype, hn]
    exact scan_number_set n

end fields

/-! ## Reading conditions -/

theorem lex_name_space {w : CStr} (hw : IsName w) (rest : CStr) :
    lex (.code []) (w ++ cstring_space ++ rest) = .word w :: lex (.code []) rest :=
  (reads_word_blank hw).lex_append rest

section conditions

variable {c : CStr} {g : List (List Atom)} {k : List Atom}

theorem scan_comparison {op : CStr} (hop : op ∈ comparisons) :
    scan ⟨.operator c [] false, g, k⟩ (lex (.code []) op) =
        some ⟨.operator c (lex (.code []) op) false, g, k⟩ ∧
      isComparison (lex (.code []) op) = true ∧ findLower op (str "between") = false := by
  simp only [comparisons, List.mem_cons, List.not_mem_nil, or_false] at hop
  rcases hop with rfl | rfl | rfl | rfl | rfl | rfl | rfl | rfl <;> exact ⟨rfl, rfl, by decide⟩

theorem scan_range {op : CStr} (hop : op ∈ ranges) (rest : CStr) :
    lex (.code []) (op ++ rest) = lex (.code []) op ++ lex (.code []) rest ∧
      scan ⟨.operator c [] false, g, k⟩ (lex (.code []) op) =
        some ⟨.lower c (lex (.code []) op) false, g, k⟩ ∧
      findLower op (str "between") = true := by
  simp only [ranges, List.mem_cons, List.not_mem_nil, or_false] at hop
  rcases hop with rfl | rfl
  · have hreads : Reads cstring_between [keyword "between"] :=
      reads_keyword (by decide) rfl rfl
    exact ⟨hreads.lex_append rest, rfl, by decide⟩
  · have hreads : Reads cstring_not_between [keyword "not", keyword "between"] :=
      Reads.append (c := str "not ") (reads_keyword (by decide) rfl rfl)
        (reads_keyword (by decide) rfl rfl)
    exact ⟨hreads.lex_append rest, rfl, by decide⟩

theorem scan_compared (hname : IsName c) (hcolumn : isColumn c = true) {op : CStr}
    (hop : op ∈ comparisons) (value : List Token) :
    scan ⟨.column, g, k⟩ (lex (.code []) (c ++ cstring_space ++ op) ++ value) =
      scan ⟨.operator c (lex (.code []) op) false, g, k⟩ value := by
  obtain ⟨hscan, -, -⟩ := scan_comparison (c := c) (g := g) (k := k) hop
  rw [lex_name_space hname op, List.cons_append, scan_cons_of_eq (scanStep_column hcolumn g k),
    scan_append_of_eq hscan]

theorem scan_conditon {item : FieldCondT} (hname : IsName item._columName)
    (hcolumn : isColumn item._columName = true) (hwf : item.WellFormed) :
    scan ⟨.column, g, k⟩ (conditonTokens item) = some ⟨.joiner, g, k ++ [conditonAtom item]⟩ := by
  cases item with
  | ofText col op v next =>
    obtain ⟨-, hcomp, -⟩ := scan_comparison (c := col) (g := g) (k := k) hwf
    show scan _ (lex (.code []) (col ++ cstring_space ++ op) ++ [.literal v]) = _
    rw [scan_compared (c := col) hname hcolumn hwf]
    simp [scan, scanStep, hcomp, Scan.push, conditonAtom]
  | ofInt col op n next =>
    obtain ⟨-, hcomp, hfind⟩ := scan_comparison (c := col) (g := g) (k := k) hwf
    have htokens : conditonTokens (.ofInt col op n next) =
        lex (.code []) (col ++ cstring_space ++ op) ++ lex (.code []) (zeroPadInt 0 n) := by
      show (if findLower op (str "between") then _ else _ : List Token) = _
      rw [hfind]
      rfl
    rw [htokens, scan_compared (c := col) hname hcolumn hwf]
    exact scan_number_operator hcomp n
  | ofRange col op lo hi next =>
    obtain ⟨hrange, hscan, hfind⟩ := scan_range (c := col) (g := g) (k := k) hwf (zeroPadInt 0 lo)
    have hlex : lex (.code []) (col ++ cstring_space ++ op ++ zeroPadInt 0 lo) =
        .word col :: (lex (.code []) op ++ lex (.code []) (zeroPadInt 0 lo)) := by
      rw [List.append_assoc, ← hrange]
      exact lex_name_space hname _
    have htokens : conditonTokens (.ofRange col op lo hi next) =
        lex (.code []) (col ++ cstring_space ++ op ++ zeroPadInt 0 lo) ++
          keyword "and" :: lex (.code []) (zeroPadInt 0 hi) := by
      show (if findLower op (str "between") then _ else _ : List Token) = _
      rw [hfind]
      rfl
    have hand : scanStep ⟨.between col (lex (.code []) op) (zeroPadInt 0 lo), g, k⟩
        (keyword "and") =
        some ⟨.upper col (lex (.code []) op) (zeroPadInt 0 lo) false, g, k⟩ := rfl
    rw [htokens, hlex, List.cons_append, scan_cons_of_eq (scanStep_column (c := col) hcolumn g k),
      List.append_assoc, scan_append_of_eq hscan, scan_append_of_eq (scan_number_lower lo),
      scan_cons_of_eq hand]
    exact scan_number_upper _ hi

end conditions

theorem joinFirst_joinFirst (k k' : List Atom) (gs : List (List Atom)) :
    joinFirst k (joinFirst k' gs) = joinFirst (k ++ k') gs := by
  cases gs with
  | nil => rfl
  | cons first rest =>
    show (k ++ (k' ++ first)) :: rest = (k ++ k' ++ first) :: rest
    rw [List.append_assoc]

theorem joinFirst_nil {gs : List (List Atom)} (h : gs ≠ []) : joinFirst [] gs = gs := by
  cases gs with
  | nil => exact absurd rfl h
  | cons first rest => rfl

theorem joinFirst_ne_nil (k : List Atom) (gs : List (List Atom)) : joinFirst k gs ≠ [] := by
  cases gs <;> exact List.cons_ne_nil _ _

theorem conditionGroups_ne_nil {conds : ConditionList} (h : conds ≠ []) :
    conditionGroups conds ≠ [] := by
  cases conds with
  | nil => exact absurd rfl h
  | cons item rest =>
    unfold conditionGroups
    split_ifs
    · exact List.cons_ne_nil _ _
    · exact joinFirst_ne_nil _ _
    · exact List.cons_ne_nil _ _

structure ConditionsOk (conds : ConditionList) : Prop where
  named : ∀ item ∈ conds, IsName item._columName
  column : ∀ item ∈ conds, isColumn item._columName = true
  wellFormed : ∀ item ∈ conds, item.WellFormed

theorem ConditionsOk.tail {item : FieldCondT} {rest : ConditionList}
    (h : ConditionsOk (item :: rest)) : ConditionsOk rest :=
  ⟨(List.forall_mem_cons.mp h.named).2, (List.forall_mem_cons.mp h.column).2,
    (List.forall_mem_cons.mp h.wellFormed).2⟩

theorem ConditionsOk.scan_head {item : FieldCondT} {rest : ConditionList}
    (h : ConditionsOk (item :: rest)) (g : List (List Atom)) (k : List Atom) :
    scan ⟨.column, g, k⟩ (conditonTokens item) = some ⟨.joiner, g, k ++ [conditonAtom item]⟩ :=
  scan_conditon (h.named item List.mem_cons_self) (h.column item List.mem_cons_self)
    (h.wellFormed item List.mem_cons_self)

/-- A condition and the word that joins it to the next one: `or` ends the group. -/
theorem ConditionsOk.scan_joined {item : FieldCondT} {rest : ConditionList}
    (h : ConditionsOk (item :: rest)) (g : List (List Atom)) (k : List Atom) (ts : List Token) :
    scan ⟨.column, g, k⟩ (conditonTokens item ++
        (if item._b_and_next then [keyword "and"] else [keyword "or"]) ++ ts) =
      if item._b_and_next then scan ⟨.column, g, k ++ [conditonAtom item]⟩ ts
      else scan ⟨.column, g ++ [k ++ [conditonAtom item]], []⟩ ts := by
  have hand : scanStep ⟨.joiner, g, k ++ [conditonAtom item]⟩ (keyword "and") =
      some ⟨.column, g, k ++ [conditonAtom item]⟩ := rfl
  have hor : scanStep ⟨.joiner, g, k ++ [conditonAtom item]⟩ (keyword "or") =
      some ⟨.column, g ++ [k ++ [conditonAtom item]], []⟩ := rfl
  rw [List.append_assoc, scan_append_of_eq (h.scan_head g k)]
  split_ifs
  · exact scan_cons_of_eq hand
  · exact scan_cons_of_eq hor

/-- **A condition list** is read as its groups. -/
theorem scan_conditions {conds : ConditionList} (hne : conds ≠ []) (h : ConditionsOk conds)
    (g : List (List Atom)) (k : List Atom) :
    ∃ s, scan ⟨.column, g, k⟩ (conditionTokens conds) = some s ∧
      s.scope = some (.filter (g ++ joinFirst k (conditionGroups conds))) := by
  induction conds generalizing g k with
  | nil => exact absurd rfl hne
  | cons item rest ih =>
    cases rest with
    | nil =>
      have hend : scanStep ⟨.joiner, g, k ++ [conditonAtom item]⟩ semicolon =
          some ⟨.ended false, g, k ++ [conditonAtom item]⟩ := rfl
      refine ⟨⟨.ended false, g, k ++ [conditonAtom item]⟩, ?_, rfl⟩
      show scan _ (conditonTokens item ++ [semicolon] ++ []) = _
      rw [List.append_nil, scan_append_of_eq (h.scan_head g k), scan_cons_of_eq hend]
      rfl
    | cons item' rest =>
      have hrest : item' :: rest ≠ [] := List.cons_ne_nil _ _
      have hscans := h.scan_joined g k (conditionTokens (item' :: rest))
      by_cases hnext : item._b_and_next = true
      · obtain ⟨s, hscan, hscope⟩ := ih hrest h.tail g (k ++ [conditonAtom item])
        have hgroups : conditionGroups (item :: item' :: rest) =
            joinFirst [conditonAtom item] (conditionGroups (item' :: rest)) := if_pos hnext
        refine ⟨s, ?_, ?_⟩
        · exact hscans.trans ((if_pos hnext).trans hscan)
        · rw [hgroups, joinFirst_joinFirst]
          exact hscope
      · obtain ⟨s, hscan, hscope⟩ := ih hrest h.tail (g ++ [k ++ [conditonAtom item]]) []
        have hgroups : conditionGroups (item :: item' :: rest) =
            [conditonAtom item] :: conditionGroups (item' :: rest) := if_neg hnext
        refine ⟨s, ?_, ?_⟩
        · exact hscans.trans ((if_neg hnext).trans hscan)
        · rw [joinFirst_nil (conditionGroups_ne_nil hrest), List.append_assoc] at hscope
          rw [hgroups]
          exact hscope

/-! ## Reading fields -/

structure FieldsOk (fields : FieldInfoList) : Prop where
  named : FieldsNamed fields
  column : ∀ item ∈ fields, isColumn item.1 = true

theorem FieldsOk.valid {fields : FieldInfoList} (h : FieldsOk fields) :
    FieldsOk (validFields fields) :=
  ⟨validFields_named h.named, fun item hitem => h.column item (List.mem_of_mem_filter hitem)⟩

theorem scan_deleteFields {fields : FieldInfoList} (hne : fields ≠ [])
    (hvalid : ∀ item ∈ fields, item.2.IsValid = true)
    (hcolumn : ∀ item ∈ fields, isColumn item.1 = true) (k : List Atom) :
    scan ⟨.column, [], k⟩
        (turns equalTokens (fun _ => [keyword "and"]) (fun _ => [semicolon]) fields) =
      some ⟨.ended false, [], k ++ fields.map fieldAtom⟩ := by
  induction fields generalizing k with
  | nil => exact absurd rfl hne
  | cons item rest ih =>
    obtain ⟨hv, hvalid'⟩ := List.forall_mem_cons.mp hvalid
    obtain ⟨hc, hcolumn'⟩ := List.forall_mem_cons.mp hcolumn
    have hhead := scan_equal (g := []) (k := k) hv hc
    cases rest with
    | nil =>
      show scan _ (equalTokens item ++ [semicolon] ++ []) = _
      rw [List.append_nil, scan_append_of_eq hhead]
      rfl
    | cons item' rest =>
      have hand : scanStep ⟨.joiner, [], k ++ [fieldAtom item]⟩ (keyword "and") =
          some ⟨.column, [], k ++ [fieldAtom item]⟩ := rfl
      have hrest := ih (List.cons_ne_nil _ _) hvalid' hcolumn' (k ++ [fieldAtom item])
      show scan _ (equalTokens item ++ [keyword "and"] ++ turns _ _ _ (item' :: rest)) = _
      rw [List.append_assoc, scan_append_of_eq hhead, List.singleton_append,
        scan_cons_of_eq hand, hrest, List.append_assoc]
      rfl

def lastIsSet (fields : FieldInfoList) : Bool := fields.getLast?.any fun item => !isKey item

/-- After the set clause there is another name to come where the last field is a key. -/
theorem scan_set {fields : FieldInfoList} (hvalid : ∀ item ∈ fields, item.2.IsValid = true)
    (hcolumn : ∀ item ∈ fields, isColumn item.1 = true) :
    scan ⟨.setName, [], []⟩ (setTokens fields) =
      some ⟨if lastIsSet fields then .setNext else .setName, [], []⟩ := by
  induction fields with
  | nil => rfl
  | cons item rest ih =>
    obtain ⟨hv, hvalid'⟩ := List.forall_mem_cons.mp hvalid
    obtain ⟨hc, hcolumn'⟩ := List.forall_mem_cons.mp hcolumn
    have hhead : scan ⟨.setName, [], []⟩ (equalTokens item) = some ⟨.setNext, [], []⟩ :=
      scan_setField hv hc
    have hrest := ih hvalid' hcolumn'
    show scan _ ((if isKey item then [] else equalTokens item) ++
      (if rest.isEmpty then [] else (if isKey item then [] else [comma])) ++ setTokens rest) = _
    cases rest with
    | nil =>
      by_cases hkey : isKey item = true
      · simp [hkey, lastIsSet, setTokens, turns, scan]
      · have hlast : lastIsSet [item] = true := by simp [lastIsSet, hkey]
        rw [hlast, if_neg hkey]
        show scan _ (equalTokens item ++ [] ++ []) = _
        rw [List.append_nil, List.append_nil, hhead]
        rfl
    | cons item' rest =>
      have hlast : lastIsSet (item :: item' :: rest) = lastIsSet (item' :: rest) := by
        unfold lastIsSet
        rw [List.getLast?_cons_cons]
      rw [hlast, ← hrest]
      by_cases hkey : isKey item = true
      · simp only [hkey, if_true]
        rfl
      · have hcomma : scanStep ⟨.setNext, [], []⟩ comma = some ⟨.setName, [], []⟩ := rfl
        rw [if_neg hkey]
        show scan _ (equalTokens item ++ (if isKey item then [] else [comma]) ++ _) = _
        rw [if_neg hkey, List.append_assoc, scan_append_of_eq hhead, List.singleton_append,
          scan_cons_of_eq hcomma]

/-! ## What the statements name -/

section parse

variable {fields : FieldInfoList} {conds : Option ConditionList}

/-- The rows a `delete` names: all of them where no field has a value. -/
def deleteScope (fields : FieldInfoList) : Scope :=
  if fields.isEmpty then .all else .filter [fields.map fieldAtom]

/-- The last key as the where clause has it, between quotes. -/
def keyAtom (key : CStr × CStr) : Atom := .compare key.1 [equal] (.text key.2)

/-- The rows an `update` names, where it is a statement at all. -/
def updateScope (fields : FieldInfoList) (conds : Option ConditionList) : Option Scope :=
  let key := primirykey fields ([], [])
  if lastIsSet fields then
    match conds with
    | none => if key.1 = [] then none else some (.filter [[keyAtom key]])
    | some l => if l.isEmpty then none else some (.filter (conditionGroups l))
  else none

theorem parse_deleteFrom (t : CStr) (rest : List Token) :
    parse (keyword "delete" :: keyword "from" :: .word t :: rest) =
      (scan ⟨.table, [], []⟩ rest).bind Scan.scope := by
  show parseVerb _ _ _ _ = _
  unfold parseVerb
  rw [if_pos ⟨rfl, rfl⟩]

theorem parse_updateSet (t : CStr) (rest : List Token) :
    parse (keyword "update" :: .word t :: keyword "set" :: rest) =
      (scan ⟨.setName, [], []⟩ rest).bind Scan.scope := by
  have hverb : ¬ (str "update" = str "delete" ∧ t = str "from") :=
    fun h => absurd h.1 (by decide)
  show parseVerb _ _ _ _ = _
  unfold parseVerb
  rw [if_neg hverb, if_pos ⟨rfl, rfl⟩]

/-- **The rows of a `delete`.** -/
theorem parse_delete (hfields : FieldsOk fields) (t : CStr) :
    parse (Statement.delete t fields conds).tokens = some (deleteScope (validFields fields)) := by
  have hparse : parse (Statement.delete t fields conds).tokens =
      (scan ⟨.table, [], []⟩ (bodyTokens fields deleteTokens)).bind Scan.scope :=
    parse_deleteFrom t _
  rw [hparse]
  unfold deleteScope
  by_cases hempty : (validFields fields).isEmpty = true
  · rw [bodyTokens_of_isEmpty hempty, if_pos hempty]
    rfl
  · have hne : validFields fields ≠ [] := fun h => hempty (List.isEmpty_iff.mpr h)
    have hwhere : scanStep ⟨.table, [], []⟩ (keyword "where") = some ⟨.column, [], []⟩ := rfl
    rw [bodyTokens_of_not_isEmpty hempty, if_neg hempty]
    unfold deleteTokens
    rw [scan_cons_of_eq hwhere, scan_deleteFields hne (validFields_valid fields)
      hfields.valid.column []]
    rfl

theorem primirykey_column (hcolumn : ∀ item ∈ fields, isColumn item.1 = true) {key : CStr × CStr}
    (hkey : key.1 = [] ∨ isColumn key.1 = true) :
    (primirykey fields key).1 = [] ∨ isColumn (primirykey fields key).1 = true := by
  induction fields generalizing key with
  | nil => exact hkey
  | cons item rest ih =>
    obtain ⟨hitem, hrest⟩ := List.forall_mem_cons.mp hcolumn
    unfold primirykey
    split_ifs
    · exact ih hrest (.inr hitem)
    · exact ih hrest hkey

theorem scan_key {key : CStr × CStr} (hcolumn : key.1 = [] ∨ isColumn key.1 = true) :
    (scan ⟨.column, [], []⟩ (keyTokens key)).bind Scan.scope =
      if key.1 = [] then none else some (.filter [[keyAtom key]]) := by
  obtain ⟨name, v⟩ := key
  cases name with
  | nil => rfl
  | cons b w =>
    have hname : isColumn (b :: w) = true := hcolumn.resolve_left (List.cons_ne_nil _ _)
    have hstart : scanStep ⟨.column, [], []⟩ (.word (b :: w)) =
        some ⟨.operator (b :: w) [] false, [], []⟩ := if_pos hname
    rw [if_neg (List.cons_ne_nil _ _)]
    show (scan ⟨.column, [], []⟩ (.word (b :: w) :: [equal, .literal v, semicolon])).bind _ = _
    rw [scan_cons_of_eq hstart]
    rfl

/-- **The rows of an `update`.** -/
theorem parse_update (hfields : FieldsOk fields) (hconds : ∀ l ∈ conds, ConditionsOk l)
    (t : CStr) :
    parse (Statement.update t fields conds).tokens = updateScope (validFields fields) conds := by
  have hset := scan_set (validFields_valid fields) hfields.valid.column
  by_cases hempty : (validFields fields).isEmpty = true
  · have htokens : (Statement.update t fields conds).tokens = [keyword "update", .word t] :=
      congrArg (fun ts => keyword "update" :: .word t :: ts) (bodyTokens_of_isEmpty hempty _)
    rw [htokens, List.isEmpty_iff.mp hempty]
    rfl
  · have htokens : (Statement.update t fields conds).tokens =
        keyword "update" :: .word t :: updateTokens (validFields fields) conds :=
      congrArg (fun ts => keyword "update" :: .word t :: ts) (bodyTokens_of_not_isEmpty hempty _)
    have hparse : parse (keyword "update" :: .word t :: updateTokens (validFields fields) conds) =
        (scan ⟨.setName, [], []⟩ (setTokens (validFields fields) ++
          keyword "where" :: whereTokens (validFields fields) conds)).bind Scan.scope :=
      parse_updateSet t _
    rw [htokens, hparse, scan_append_of_eq hset]
    unfold updateScope
    by_cases hlast : lastIsSet (validFields fields) = true
    · have hwhere : scanStep ⟨.setNext, [], []⟩ (keyword "where") = some ⟨.column, [], []⟩ := rfl
      rw [if_pos hlast, if_pos hlast, scan_cons_of_eq hwhere]
      cases conds with
      | none => exact scan_key (primirykey_column hfields.valid.column (.inl rfl))
      | some l =>
        cases l with
        | nil => rfl
        | cons item rest =>
          obtain ⟨s, hscan, hscope⟩ :=
            scan_conditions (List.cons_ne_nil _ _) (hconds _ rfl) [] []
          rw [joinFirst_nil (conditionGroups_ne_nil (List.cons_ne_nil _ _))] at hscope
          show (scan _ (conditionTokens (item :: rest))).bind Scan.scope = _
          rw [hscan]
          exact hscope
    · rw [if_neg hlast, if_neg hlast]
      rfl

end parse

/-! ## Only rows that satisfy everything -/

/-- A call of `MakeUpdateSql` or `MakeDeleteSql`. -/
inductive Change where
  | update (_table_name : CStr) (field_info_list : FieldInfoList)
      (p_Con_Lst : Option ConditionList)
  | delete (_table_name : CStr) (field_info_list : FieldInfoList)
      (p_Con_Lst : Option ConditionList)

namespace Change

def statement : Change → Statement
  | update t fields conds => .update t fields conds
  | delete t fields conds => .delete t fields conds

def table : Change → CStr
  | update t _ _ => t
  | delete t _ _ => t

def fields : Change → FieldInfoList
  | update _ fields _ => fields
  | delete _ fields _ => fields

def conds : Change → Option ConditionList
  | update _ _ conds => conds
  | delete _ _ conds => conds

/-- The fields that say which rows: the valid ones of a `delete`, the valid primary keys of an
`update`. -/
def keys : Change → FieldInfoList
  | update _ fields _ => (validFields fields).filter isKey
  | delete _ fields _ => validFields fields

/-- Names like identifiers, the two kinds of conditions, and values without quotes. -/
structure Ok (ch : Change) : Prop where
  table : IsName ch.table ∧ isColumn ch.table = true
  fields : FieldsOk ch.fields
  conds : ∀ l ∈ ch.conds, ConditionsOk l
  plain : ∀ v ∈ ch.statement.quoted, Plain v

section satisfies

variable {Row : Type} (satisfies : Row → Atom → Prop)

/-- A row with the values of the keys that satisfies the whole condition list. -/
structure Wanted (ch : Change) (row : Row) : Prop where
  keys : ∀ item ∈ ch.keys, satisfies row (fieldAtom item)
  conds : ∀ l ∈ ch.conds, l ≠ [] → holds satisfies (conditionGroups l) row

/-- No row but those wanted is changed, and without keys and conditions there is no statement. -/
structure Scoped (ch : Change) : Prop where
  refuses : ch.keys = [] → (∀ l ∈ ch.conds, l = []) → ∃ msg, ch.statement.text = .error msg
  confined : ∀ sql, ch.statement.text = .ok sql →
    ∀ row, Touches satisfies sql row → Wanted satisfies ch row

/-- The rows a call is about, from what it is given.  A `delete` looks at no condition; an `update`
is no statement where its last field is a key, and looks at the key only without conditions. -/
def Selects (row : Row) : Change → Prop
  | delete _ fields _ => ∀ item ∈ validFields fields, satisfies row (fieldAtom item)
  | update _ fields none =>
    lastIsSet (validFields fields) = true ∧ (primirykey (validFields fields) ([], [])).1 ≠ [] ∧
      satisfies row (keyAtom (primirykey (validFields fields) ([], [])))
  | update _ fields (some l) =>
    lastIsSet (validFields fields) = true ∧ l ≠ [] ∧ holds satisfies (conditionGroups l) row

end satisfies

theorem conditionsNamed {l : ConditionList} (h : ConditionsOk l) : ConditionsNamed l := by
  have hcomparison : ∀ op ∈ comparisons, op.all opByte = true := by
    simp only [comparisons, List.forall_mem_cons]
    exact ⟨rfl, rfl, rfl, rfl, rfl, rfl, rfl, rfl, fun _ h => by cases h⟩
  have hrange : ∀ op ∈ ranges, op.all opByte = true := by
    simp only [ranges, List.forall_mem_cons]
    exact ⟨rfl, rfl, fun _ h => by cases h⟩
  intro item hitem
  refine ⟨h.named item hitem, List.all_eq_true.mp ?_⟩
  have hwf := h.wellFormed item hitem
  cases item with
  | ofText col op v next => exact hcomparison op hwf
  | ofInt col op n next => exact hcomparison op hwf
  | ofRange col op lo hi next => exact hrange op hwf

theorem Ok.named {ch : Change} (h : ch.Ok) : ch.statement.Named := by
  cases ch with
  | update t fields conds =>
    exact ⟨h.table.1, h.fields.named, fun l hl => conditionsNamed (h.conds l hl)⟩
  | delete t fields conds =>
    exact ⟨h.table.1, h.fields.named, fun l hl => conditionsNamed (h.conds l hl)⟩

theorem Ok.text {ch : Change} (h : ch.Ok) : ∃ sql, ch.statement.text = .ok sql := by
  cases ch with
  | update t fields conds => exact ⟨_, update_text h.table.1⟩
  | delete t fields conds => exact ⟨_, delete_text h.table.1⟩

/-- **The rows a statement changes** are those it selects. -/
theorem touches_iff {Row : Type} {satisfies : Row → Atom → Prop} {ch : Change} (h : ch.Ok)
    {sql : CStr} (hsql : ch.statement.text = .ok sql) (row : Row) :
    Touches satisfies sql row ↔ Selects satisfies row ch := by
  have htokens : tokens sql = ch.statement.tokens :=
    (Statement.reads_text h.named h.plain hsql).tokens_eq
  unfold Touches
  rw [htokens]
  cases ch with
  | delete t fields conds =>
    have hparse : parse (Change.delete t fields conds).statement.tokens =
        some (deleteScope (validFields fields)) := parse_delete h.fields t
    rw [hparse]
    have hnames : (deleteScope (validFields fields)).names satisfies row ↔
        ∀ item ∈ validFields fields, satisfies row (fieldAtom item) := by
      unfold deleteScope
      by_cases hempty : (validFields fields).isEmpty = true
      · rw [if_pos hempty, List.isEmpty_iff.mp hempty]
        exact ⟨fun _ _ hitem => (by cases hitem), fun _ => trivial⟩
      · rw [if_neg hempty]
        show (∃ group ∈ [(validFields fields).map fieldAtom], ∀ a ∈ group, satisfies row a) ↔ _
        simp only [List.mem_singleton, exists_eq_left, List.forall_mem_map]
    simp only [Option.some.injEq, exists_eq_left']
    exact hnames
  | update t fields conds =>
    have hparse : parse (Change.update t fields conds).statement.tokens =
        updateScope (validFields fields) conds := parse_update h.fields h.conds t
    rw [hparse]
    unfold updateScope
    by_cases hlast : lastIsSet (validFields fields) = true
    · rw [if_pos hlast]
      cases conds with
      | none =>
        by_cases hkey : (primirykey (validFields fields) ([], [])).1 = []
        · simp [hkey, Selects]
        · simp [hkey, hlast, Selects, Scope.names, holds]
      | some l =>
        cases l with
        | nil => simp [Selects]
        | cons item rest => simp [hlast, Selects, Scope.names]
    · rw [if_neg hlast]
      cases conds with
      | none => simp [Selects, hlast]
      | some l => simp [Selects, hlast]

/-- **The scope of a statement.**  It changes only rows with the values of its keys that satisfy
its condition list, and is refused without both, exactly when it has one of them and all the rows
it selects are such. -/
theorem scoped_iff {Row : Type} {satisfies : Row → Atom → Prop} {ch : Change} (h : ch.Ok) :
    Scoped satisfies ch ↔
      (ch.keys ≠ [] ∨ ∃ l ∈ ch.conds, l ≠ []) ∧
        ∀ row, Selects satisfies row ch → Wanted satisfies ch row := by
  obtain ⟨sql, hsql⟩ := h.text
  constructor
  · intro hscoped
    refine ⟨?_, fun row hrow => hscoped.confined sql hsql row ((touches_iff h hsql row).mpr hrow)⟩
    by_contra hnone
    rw [not_or, not_not] at hnone
    obtain ⟨msg, hmsg⟩ := hscoped.refuses hnone.1 fun l hl => by
      by_contra hne
      exact hnone.2 ⟨l, hl, hne⟩
    cases hmsg.symm.trans hsql
  · rintro ⟨hsome, hrows⟩
    refine ⟨fun hkeys hconds => ?_, fun sql' hsql' row hrow => ?_⟩
    · rcases hsome with hne | ⟨l, hl, hne⟩
      · exact absurd hkeys hne
      · exact absurd (hconds l hl) hne
    · exact hrows row ((touches_iff h hsql' row).mp hrow)

/-- A row by its texts: equality with a text is all that it satisfies. -/
def hasText (row : List (CStr × CStr)) : Atom → Prop
  | .compare column ops (.text v) => ops = [equal] ∧ (column, v) ∈ row
  | _ => False

/-- The deletion of a device by its ID. -/
def deleteById (id : CStr) : Change :=
  .delete (str "device") [(str "DeviceID", .ofText id .c_PrimaryKey)] none

theorem deleteById_ok {id : CStr} (hid : Plain id) : (deleteById id).Ok where
  table := ⟨isName_str (by decide) rfl, rfl⟩
  fields := by
    refine ⟨fun item hitem => ?_, fun item hitem => ?_⟩
    · rw [List.mem_singleton.mp hitem]
      exact isName_str (by decide) rfl
    · rw [List.mem_singleton.mp hitem]
      rfl
  conds := fun l hl => by cases hl
  plain := fun v hv => by rwa [List.mem_singleton.mp hv]

theorem scoped_iff_deleteById : Scoped hasText (deleteById (str "3402")) := by
  have hok : (deleteById (str "3402")).Ok := deleteById_ok ⟨by decide, by decide⟩
  refine (scoped_iff hok).mpr ⟨.inl (List.cons_ne_nil _ _), fun row hrow => ?_⟩
  exact ⟨hrow, fun l hl => by cases hl⟩

/-- The devices that are off, where no field has a value: the condition is dropped, and the
statement deletes every row. -/
def deleteOff : Change :=
  .delete (str "device") [(str "DeviceID", .ofType .kText)]
    (some [.ofText (str "Status") cstring_equal (str "OFF") true])

theorem deleteOff_ok : deleteOff.Ok where
  table := ⟨isName_str (by decide) rfl, rfl⟩
  fields := by
    refine ⟨fun item hitem => ?_, fun item hitem => ?_⟩
    · rw [List.mem_singleton.mp hitem]
      exact isName_str (by decide) rfl
    · rw [List.mem_singleton.mp hitem]
      rfl
  conds := by
    intro l hl
    cases hl
    refine ⟨fun item hitem => ?_, fun item hitem => ?_, fun item hitem => ?_⟩
    all_goals rw [List.mem_singleton.mp hitem]
    · exact isName_str (by decide) rfl
    · rfl
    · exact List.mem_cons_self
  plain := fun v hv => by cases hv

theorem where_clause_lost :
    deleteOff.Ok ∧ deleteOff.statement.text = .ok (str "delete from device ") ∧
      ¬ Scoped hasText deleteOff := by
  refine ⟨deleteOff_ok, rfl, fun h => ?_⟩
  have htouches : Touches hasText (str "delete from device ") [(str "Status", str "ON")] :=
    ⟨.all, rfl, trivial⟩
  have hwanted := h.confined _ rfl _ htouches
  obtain ⟨group, hgroup, hall⟩ := hwanted.conds _ rfl (List.cons_ne_nil _ _)
  rw [List.mem_singleton.mp hgroup] at hall
  have hoff := (hall _ List.mem_cons_self).2
  exact absurd (List.mem_singleton.mp hoff) (by decide)

end Change

end GB28181.Platform.SQLTextMaker
