import Mathlib.Data.List.DropRight
import Mathlib.Logic.Function.Basic
import GB28181.Base.CString
import GB28181.Base.Run

/-!
# Opening and closing the database (`DataManager/DB/SQliteORM.cpp`, `SQLiteModule.cpp`)

The managers of a process share the register `m_connected_database_` of the files they are
connected to.  `SQLiteInitial` enters the **file name** before the steps that can fail and
`SQLiteUninitial` removes the entry that equals the **database name**.

* `createFolder_true` — creating a folder never fails, so an `Open` comes to the register;
* `open_close_iff` — over every sequence of calls on one file: each `Open` does what it should
  **exactly** when it is the manager's own second one, or the file is in the register and (open in
  another manager or a SQLite step fails), or it is not in there and every SQLite step succeeds.
-/

set_option autoImplicit false

namespace GB28181.Platform.Database

open GB28181.Base

/-! ## Paths -/

/-- `CString::TrimRight` with one character. -/
def trimRight (s : CStr) (c : UInt8) : CStr := s.rdropWhile (· = c)

/-- `s.Mid(0, s.ReverseFind(c))`; empty when `c` is not there. -/
def leftOfLast (s : CStr) (c : UInt8) : CStr := (s.rdropWhile (· ≠ c)).dropLast

theorem leftOfLast_length_lt {s : CStr} {c : UInt8} (h : leftOfLast s c ≠ []) :
    (leftOfLast s c).length < s.length := by
  have hpos := List.length_pos_of_ne_nil h
  have hle := (List.rdropWhile_prefix (· ≠ c) s).length_le
  unfold leftOfLast at hpos ⊢
  rw [List.length_dropLast] at hpos ⊢
  omega

theorem trimRight_length_le (s : CStr) (c : UInt8) : (trimRight s c).length ≤ s.length :=
  (List.rdropWhile_prefix _ s).length_le

/-- `CSuperFileProc::CreateFolder`; `exist` is what `GetFileAttributes` finds. -/
def createFolder (exist : CStr → Bool) (sPath : CStr) : Bool :=
  let sPath' := trimRight (trimRight sPath 0x20) 0x5c
  if exist sPath' then true
  else if leftOfLast sPath' 0x5c ≠ [] then
    -- the parent first; the result of `CreateDirectory` is not looked at
    if !createFolder exist (leftOfLast sPath' 0x5c) then false else true
  else true
termination_by sPath.length
decreasing_by
  rename_i hne
  calc (leftOfLast (trimRight (trimRight sPath 0x20) 0x5c) 0x5c).length
      < (trimRight (trimRight sPath 0x20) 0x5c).length := leftOfLast_length_lt hne
    _ ≤ (trimRight sPath 0x20).length := trimRight_length_le _ _
    _ ≤ sPath.length := trimRight_length_le _ _

theorem createFolder_true (exist : CStr → Bool) (sPath : CStr) :
    createFolder exist sPath = true := by
  induction sPath using createFolder.induct exist with
  | case1 sPath sPath' hexist =>
    rw [createFolder]
    exact if_pos hexist
  | case2 sPath sPath' hexist hne hfalse ih =>
    rw [ih] at hfalse
    cases hfalse
  | case3 sPath sPath' hexist hne htrue ih =>
    rw [createFolder]
    exact (if_neg hexist).trans ((if_pos hne).trans (if_neg htrue))
  | case4 sPath sPath' hexist hnil =>
    rw [createFolder]
    exact (if_neg hexist).trans (if_neg hnil)

/-! ## State -/

/-- What the SQLite steps for one entry of `tables_list` give. -/
structure CreateTableSteps where
  makeCreateTableSql : Bool
  createTable : Bool
  makeCreateIndexTableSql : Bool
  createIndex : Bool

/-- What a call finds outside the program. -/
structure Environment where
  PathIsDirectory : CStr → Bool
  GetFileAttributes : CStr → Bool
  sqlite3_initialize : Bool
  sqlite3_open_v2 : Bool
  journal_mode : Bool
  /-- One entry for each entry of `tables_list`. -/
  tables_list : List CreateTableSteps

/-- `DataBaseMgr`, with the name its `sqlite_` keeps. -/
structure DataBaseMgr where
  b_sql_opened_ : Bool := false
  s_db_root_ : CStr := []
  s_db_name_ : CStr := []
  m_database_name : CStr := []

/-- The register all modules share, and the managers. -/
structure Databases where
  m_connected_database_ : List CStr := []
  mgr : Nat → DataBaseMgr := fun _ => {}

def SQLITE_EXCUTE_SUCCESS : Int := 0

def SQLITE_EXCUTE_FAILD : Int := -1

def SQLITE_DB_EXT : CStr := str ".db"

/-- `SQLITE_DB_FULL_PATH`. -/
def DataBaseMgr.fullPath (m : DataBaseMgr) : CStr := m.s_db_root_ ++ m.s_db_name_ ++ SQLITE_DB_EXT

/-! ## Functions -/

/-- `SQLiteModule::SQLiteCreateTable`. -/
def sqliteCreateTable : List CreateTableSteps → Int
  | [] => SQLITE_EXCUTE_SUCCESS
  | item :: rest =>
    if !item.makeCreateTableSql then SQLITE_EXCUTE_FAILD
    else if !item.createTable then SQLITE_EXCUTE_FAILD
    else if !item.makeCreateIndexTableSql then SQLITE_EXCUTE_FAILD
    else if !item.createIndex then SQLITE_EXCUTE_FAILD
    else sqliteCreateTable rest

/-- `SQLiteModule::SQLiteInitial`: the result, the register and the manager it leaves. -/
def sqliteInitial (env : Environment) (connected : List CStr) (m : DataBaseMgr)
    (database_filename database_name : CStr) : Int × List CStr × DataBaseMgr :=
  if connected.contains database_filename then (SQLITE_EXCUTE_FAILD, connected, m)
  else
    let connected := connected ++ [database_filename]
    let m := { m with m_database_name := database_name }
    if !env.sqlite3_initialize then (SQLITE_EXCUTE_FAILD, connected, m)
    else if !env.sqlite3_open_v2 then (SQLITE_EXCUTE_FAILD, connected, m)
    else if !env.journal_mode then (SQLITE_EXCUTE_FAILD, connected, m)
    else if env.tables_list.length ≤ 0 then (SQLITE_EXCUTE_SUCCESS, connected, m)
    else if SQLITE_EXCUTE_SUCCESS ≠ sqliteCreateTable env.tables_list then
      (SQLITE_EXCUTE_FAILD, connected, m)
    else (SQLITE_EXCUTE_SUCCESS, connected, m)

/-- `SQLiteModule::SQLiteUninitial`: the register it leaves.  The result of `sqlite3_close_v2` is
only logged. -/
def sqliteUninitial (connected : List CStr) (m : DataBaseMgr) : Int × List CStr :=
  (SQLITE_EXCUTE_SUCCESS, connected.erase m.m_database_name)

/-- `strRootPath` of an `Open` before the backslash is added. -/
def rootPath (s_database_root : CStr) : CStr := trimRight (trimRight s_database_root 0x20) 0x5c

/-- `str_db_file` of an `Open`. -/
def dbFile (s_database_root s_database_name : CStr) : CStr :=
  rootPath s_database_root ++ str "\\" ++ s_database_name ++ SQLITE_DB_EXT

/-- The folder is there or can be created. -/
def folderReady (env : Environment) (path : CStr) : Bool :=
  env.PathIsDirectory path || createFolder env.GetFileAttributes path

/-- `DataBaseMgr::Open` of manager `n`. -/
def openDb (env : Environment) (s : Databases) (n : Nat) (s_database_root s_database_name : CStr) :
    Bool × Databases :=
  let m := s.mgr n
  if rootPath s_database_root = [] then (false, s)
  else
    let strRootPath := rootPath s_database_root ++ str "\\"
    if !folderReady env strRootPath then (false, s)
    else
      let str_db_file := strRootPath ++ s_database_name ++ SQLITE_DB_EXT
      if m.b_sql_opened_ then (if str_db_file = m.fullPath then true else false, s)
      else if !folderReady env (strRootPath ++ s_database_name ++ str "\\") then (false, s)
      else
        match sqliteInitial env s.m_connected_database_ m str_db_file s_database_name with
        | (r, connected, m) =>
          let m :=
            if 0 = r then
              { m with
                b_sql_opened_ := true, s_db_root_ := strRootPath, s_db_name_ := s_database_name }
            else m
          (m.b_sql_opened_,
            { m_connected_database_ := connected, mgr := Function.update s.mgr n m })

/-- `DataBaseMgr::Close` of manager `n`. -/
def closeDb (s : Databases) (n : Nat) : Bool × Databases :=
  let m := s.mgr n
  if m.b_sql_opened_ then
    match sqliteUninitial s.m_connected_database_ m with
    | (r, connected) =>
      let m := { m with b_sql_opened_ := !decide (0 = r) }
      (!m.b_sql_opened_,
        { m_connected_database_ := connected, mgr := Function.update s.mgr n m })
  else (true, s)

/-! ## What each function does -/

/-- All SQLite steps inside `SQLiteInitial` succeed. -/
def Environment.StepsSucceed (env : Environment) : Prop :=
  env.sqlite3_initialize = true ∧ env.sqlite3_open_v2 = true ∧ env.journal_mode = true ∧
    sqliteCreateTable env.tables_list = SQLITE_EXCUTE_SUCCESS

instance (env : Environment) : Decidable env.StepsSucceed :=
  inferInstanceAs (Decidable (_ ∧ _ ∧ _ ∧ _))

theorem sqliteCreateTable_eq_success_iff (tables_list : List CreateTableSteps) :
    sqliteCreateTable tables_list = SQLITE_EXCUTE_SUCCESS ↔
      ∀ item ∈ tables_list, item.makeCreateTableSql = true ∧ item.createTable = true ∧
        item.makeCreateIndexTableSql = true ∧ item.createIndex = true := by
  have hfaild : ¬ SQLITE_EXCUTE_FAILD = SQLITE_EXCUTE_SUCCESS := by decide
  induction tables_list with
  | nil => exact iff_of_true rfl fun _ h => (by cases h)
  | cons item rest ih =>
    rw [List.forall_mem_cons, sqliteCreateTable]
    rcases item with ⟨_ | _, _ | _, _ | _, _ | _⟩ <;> simp [hfaild, ih]

theorem sqliteInitial_mem {env : Environment} {connected : List CStr} {m : DataBaseMgr}
    {file name : CStr} (h : file ∈ connected) :
    sqliteInitial env connected m file name = (SQLITE_EXCUTE_FAILD, connected, m) :=
  if_pos (List.contains_iff_mem.mpr h)

theorem sqliteInitial_fresh {env : Environment} {connected : List CStr} {m : DataBaseMgr}
    {file name : CStr} (h : file ∉ connected) :
    sqliteInitial env connected m file name =
      (if env.StepsSucceed then SQLITE_EXCUTE_SUCCESS else SQLITE_EXCUTE_FAILD,
        connected ++ [file], { m with m_database_name := name }) := by
  rw [show sqliteInitial env connected m file name = _ from
    if_neg (mt List.contains_iff_mem.mp h)]
  unfold Environment.StepsSucceed
  rcases env with ⟨_, _, _ | _, _ | _, _ | _, _ | ⟨item, rest⟩⟩
  all_goals try rfl
  by_cases ht : sqliteCreateTable (item :: rest) = SQLITE_EXCUTE_SUCCESS
  · simp [ht]
  · simp [ht, Ne.symm ht]

theorem folderReady_true (env : Environment) (path : CStr) : folderReady env path = true := by
  rw [folderReady, createFolder_true, Bool.or_true]

/-! ## Sequences of calls on one file -/

/-- An `Open` of the file `file`. -/
structure OpenCall (file : CStr) where
  n : Nat
  env : Environment
  s_database_root : CStr
  s_database_name : CStr
  root_ne : rootPath s_database_root ≠ []
  file_eq : dbFile s_database_root s_database_name = file

inductive Call (file : CStr) where
  | openDb (c : OpenCall file)
  | closeDb (n : Nat)

variable {file : CStr}

/-- What an `Open` gives and leaves. -/
def OpenCall.result (c : OpenCall file) (s : Databases) : Bool × Databases :=
  openDb c.env s c.n c.s_database_root c.s_database_name

def step (s : Databases) : Call file → Databases
  | .openDb c => (c.result s).2
  | .closeDb n => (closeDb s n).2

def IsOpen (file : CStr) (s : Databases) : Prop :=
  ∃ n, (s.mgr n).b_sql_opened_ = true ∧ (s.mgr n).fullPath = file

/-- An `Open` succeeds if the file is not open and all SQLite steps succeed; if it fails the
register is as it was. -/
def OpensAgain (s : Databases) : Call file → Prop
  | .openDb c =>
    (¬ IsOpen file s → c.env.StepsSucceed → (c.result s).1 = true) ∧
      ((c.result s).1 = false →
        (c.result s).2.m_connected_database_ = s.m_connected_database_)
  | .closeDb _ => True

/-- The file is in the register and may not be opened, or is not in there and will be. -/
def RegisterFits (s : Databases) : Call file → Prop
  | .openDb c =>
    (s.mgr c.n).b_sql_opened_ = true ∨
      (file ∈ s.m_connected_database_ ∧ (IsOpen file s ∨ ¬ c.env.StepsSucceed)) ∨
        (file ∉ s.m_connected_database_ ∧ c.env.StepsSucceed)
  | .closeDb _ => True

/-- A manager that is open has the file open, under a name that is not the file's. -/
structure Inv (file : CStr) (s : Databases) : Prop where
  path : ∀ n, (s.mgr n).b_sql_opened_ = true → (s.mgr n).fullPath = file
  name : ∀ n, (s.mgr n).b_sql_opened_ = true → (s.mgr n).m_database_name ≠ file

theorem OpenCall.name_ne (c : OpenCall file) : c.s_database_name ≠ file := by
  intro he
  have hlen := congrArg List.length c.file_eq
  have hext : SQLITE_DB_EXT.length = 3 := by decide
  simp only [dbFile, List.length_append, hext, he] at hlen
  omega

theorem OpenCall.result_opened {c : OpenCall file} {s : Databases} (h : Inv file s)
    (ho : (s.mgr c.n).b_sql_opened_ = true) : c.result s = (true, s) := by
  have hfile : rootPath c.s_database_root ++ str "\\" ++ c.s_database_name ++ SQLITE_DB_EXT =
      (s.mgr c.n).fullPath := c.file_eq.trans (h.path c.n ho).symm
  simp only [result, openDb, if_neg c.root_ne, folderReady_true, ho, hfile, if_true,
    Bool.not_true, Bool.false_eq_true, if_false]

theorem OpenCall.result_closed {c : OpenCall file} {s : Databases}
    (ho : (s.mgr c.n).b_sql_opened_ = false) :
    c.result s =
      match sqliteInitial c.env s.m_connected_database_ (s.mgr c.n) file c.s_database_name with
      | (r, connected, m) =>
        let m :=
          if 0 = r then
            { m with
              b_sql_opened_ := true, s_db_root_ := rootPath c.s_database_root ++ str "\\"
              s_db_name_ := c.s_database_name }
          else m
        (m.b_sql_opened_,
          { m_connected_database_ := connected, mgr := Function.update s.mgr c.n m }) := by
  have hfile : rootPath c.s_database_root ++ str "\\" ++ c.s_database_name ++ SQLITE_DB_EXT =
      file := c.file_eq
  simp only [result, openDb, if_neg c.root_ne, folderReady_true, ho, hfile, Bool.not_true,
    Bool.false_eq_true, if_false]

theorem OpenCall.result_mem {c : OpenCall file} {s : Databases}
    (ho : (s.mgr c.n).b_sql_opened_ = false) (hf : file ∈ s.m_connected_database_) :
    c.result s = (false, s) := by
  rw [result_closed ho, sqliteInitial_mem hf]
  show ((s.mgr c.n).b_sql_opened_, { s with mgr := Function.update s.mgr c.n (s.mgr c.n) }) = _
  rw [Function.update_eq_self, ho]

theorem OpenCall.result_fresh {c : OpenCall file} {s : Databases}
    (ho : (s.mgr c.n).b_sql_opened_ = false) (hf : file ∉ s.m_connected_database_) :
    (c.result s).1 = decide c.env.StepsSucceed ∧
      (c.result s).2.m_connected_database_ = s.m_connected_database_ ++ [file] := by
  rw [result_closed ho, sqliteInitial_fresh hf]
  by_cases hs : c.env.StepsSucceed
  · rw [if_pos hs, decide_eq_true hs]
    exact ⟨rfl, rfl⟩
  · rw [if_neg hs, decide_eq_false hs]
    exact ⟨ho, rfl⟩

/-! ## Runs -/

theorem OpenCall.result_inv (c : OpenCall file) {s : Databases} (h : Inv file s) :
    Inv file (c.result s).2 := by
  cases ho : (s.mgr c.n).b_sql_opened_ with
  | true =>
    rw [result_opened h ho]
    exact h
  | false =>
    by_cases hf : file ∈ s.m_connected_database_
    · rw [result_mem ho hf]
      exact h
    · rw [result_closed ho, sqliteInitial_fresh hf]
      constructor <;> intro n hn
      · by_cases hnc : n = c.n
        · subst hnc
          by_cases hs : c.env.StepsSucceed
          · simp only [if_pos hs, Function.update_self]
            exact c.file_eq
          · simp only [if_neg hs, Function.update_self] at hn
            exact absurd (ho.symm.trans hn) Bool.false_ne_true
        · simp only [Function.update_of_ne hnc] at hn ⊢
          exact h.path n hn
      · by_cases hnc : n = c.n
        · subst hnc
          simp only [Function.update_self]
          split
          · exact c.name_ne
          · exact c.name_ne
        · simp only [Function.update_of_ne hnc] at hn ⊢
          exact h.name n hn

theorem closeDb_opened {s : Databases} {n : Nat} (ho : (s.mgr n).b_sql_opened_ = true) :
    closeDb s n =
      (true,
        { m_connected_database_ := s.m_connected_database_.erase (s.mgr n).m_database_name
          mgr := Function.update s.mgr n { s.mgr n with b_sql_opened_ := false } }) := if_pos ho

theorem closeDb_closed {s : Databases} {n : Nat} (ho : (s.mgr n).b_sql_opened_ = false) :
    closeDb s n = (true, s) := if_neg (by rw [ho]; exact Bool.false_ne_true)

theorem OpenCall.result_mgr_of_ne (c : OpenCall file) {s : Databases} (h : Inv file s) {n : Nat}
    (hn : n ≠ c.n) : (c.result s).2.mgr n = s.mgr n := by
  cases ho : (s.mgr c.n).b_sql_opened_ with
  | true => rw [result_opened h ho]
  | false =>
    rw [result_closed ho]
    exact Function.update_of_ne hn _ _

theorem closeDb_mgr_of_ne (s : Databases) {n k : Nat} (hn : n ≠ k) :
    (closeDb s k).2.mgr n = s.mgr n := by
  cases ho : (s.mgr k).b_sql_opened_ with
  | true =>
    rw [closeDb_opened ho]
    exact Function.update_of_ne hn _ _
  | false => rw [closeDb_closed ho]

theorem closeDb_inv {s : Databases} (h : Inv file s) (n : Nat) : Inv file (closeDb s n).2 := by
  cases ho : (s.mgr n).b_sql_opened_ with
  | false =>
    rw [closeDb_closed ho]
    exact h
  | true =>
    rw [closeDb_opened ho]
    have hother : ∀ k, (Function.update s.mgr n { s.mgr n with b_sql_opened_ := false }
        k).b_sql_opened_ = true → k ≠ n := by
      rintro k hk rfl
      rw [Function.update_self] at hk
      cases hk
    constructor <;> intro k hk
    · have hkn := hother k hk
      simp only [Function.update_of_ne hkn] at hk ⊢
      exact h.path k hk
    · have hkn := hother k hk
      simp only [Function.update_of_ne hkn] at hk ⊢
      exact h.name k hk

theorem step_inv (s : Databases) (i : Call file) (h : Inv file s) : Inv file (step s i) := by
  cases i with
  | openDb c => exact c.result_inv h
  | closeDb n => exact closeDb_inv h n

theorem opensAgain_iff {s : Databases} (h : Inv file s) (i : Call file) :
    OpensAgain s i ↔ RegisterFits s i := by
  cases i with
  | closeDb n => exact Iff.rfl
  | openDb c =>
    show ((¬ IsOpen file s → c.env.StepsSucceed → (c.result s).1 = true) ∧
        ((c.result s).1 = false →
          (c.result s).2.m_connected_database_ = s.m_connected_database_)) ↔
      ((s.mgr c.n).b_sql_opened_ = true ∨
        (file ∈ s.m_connected_database_ ∧ (IsOpen file s ∨ ¬ c.env.StepsSucceed)) ∨
          (file ∉ s.m_connected_database_ ∧ c.env.StepsSucceed))
    cases ho : (s.mgr c.n).b_sql_opened_ with
    | true =>
      rw [OpenCall.result_opened h ho]
      exact iff_of_true ⟨fun _ _ => rfl, fun _ => rfl⟩ (Or.inl rfl)
    | false =>
      rw [or_iff_right Bool.false_ne_true]
      by_cases hf : file ∈ s.m_connected_database_
      · have hfresh : ¬ (file ∉ s.m_connected_database_ ∧ c.env.StepsSucceed) := fun h' => h'.1 hf
        rw [OpenCall.result_mem ho hf, and_iff_right hf, or_iff_left hfresh]
        simp only [Bool.false_eq_true, imp_false, implies_true, and_true]
        exact Classical.or_iff_not_imp_left.symm
      · have hmem : ¬ (file ∈ s.m_connected_database_ ∧
            (IsOpen file s ∨ ¬ c.env.StepsSucceed)) := fun h' => hf h'.1
        obtain ⟨hr, hreg⟩ := OpenCall.result_fresh ho hf
        rw [and_iff_right hf, or_iff_right hmem, hr, hreg]
        simp only [decide_eq_true_eq, decide_eq_false_iff_not]
        constructor
        · rintro ⟨-, hkeep⟩
          by_contra hs
          have hlen := congrArg List.length (hkeep hs)
          rw [List.length_append] at hlen
          exact absurd hlen (by simp)
        · intro hs
          exact ⟨fun _ _ => hs, fun hns => absurd hs hns⟩

theorem inv_start : Inv file {} where
  path n h := by cases h
  name n h := by cases h

/-- **Closing and opening again.**  Over every sequence of calls on one file, each `Open` does what
it should exactly when the register fits it. -/
theorem open_close_iff (is : List (Call file)) :
    (∀ p ∈ calls step {} is, OpensAgain p.1 p.2) ↔ ∀ p ∈ calls step {} is, RegisterFits p.1 p.2 :=
  forall_calls_congr (fun s i _ (h : Inv file s) => step_inv s i h)
    (fun _ i _ h => opensAgain_iff h i) inv_start

def Environment.good : Environment :=
  ⟨fun _ => true, fun _ => true, true, true, true, []⟩

/-- Opened, closed, opened again: the last call fails. -/
theorem reopen_fails :
    ¬ ∀ (file : CStr) (is : List (Call file)), ∀ p ∈ calls step {} is, OpensAgain p.1 p.2 := by
  intro h
  let c : OpenCall (str "C:\\db\\a.db") :=
    ⟨0, .good, str "C:\\db", str "a", by decide, by decide⟩
  let s : Databases := (closeDb (c.result {}).2 0).2
  have hmem : (s, Call.openDb c) ∈ calls step {} [.openDb c, .closeDb 0, .openDb c] :=
    mem_calls_iff.mpr ⟨[.openDb c, .closeDb 0], [], rfl, rfl⟩
  have hagain : ¬ IsOpen _ s → c.env.StepsSucceed → (c.result s).1 = true := (h _ _ _ hmem).1
  have hopen : ¬ IsOpen (str "C:\\db\\a.db") s := by
    rintro ⟨n, hn, -⟩
    by_cases h0 : n = 0
    · subst h0
      revert hn
      decide
    · rw [closeDb_mgr_of_ne _ h0, c.result_mgr_of_ne inv_start h0] at hn
      cases hn
  exact absurd (hagain hopen (by decide)) (by decide)

end GB28181.Platform.Database
