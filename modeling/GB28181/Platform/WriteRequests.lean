import GB28181.Platform.DatabaseRegister
import GB28181.Platform.SQLTextMaker

/-!
# Write requests (`DataManager/DB/SQliteORM.cpp`, `SQLiteModule.cpp`)

`Insert`, `Delete` and `Update` make a request of a device record and hand it to the queue that a
worker takes the requests from.

* `applyRequest_queue` — the request is put behind the others if there is room, and the answer is
  the same if not;
* `honest_iff` — an answer fits the queue **exactly when** the ID is not acceptable, or the
  database is closed and this is no `Insert`, or it is open with room in the queue and no condition
  list is lost.
-/

set_option autoImplicit false

namespace GB28181.Platform.Database

open GB28181.Base
open SQLTextMaker (FieldInfoT FieldInfoList ConditionList)

/-! ## Requests -/

/-- `GBDeviceInfo`; the fields that the record takes over. -/
structure GBDeviceInfo where
  _gb_device_id_ : CStr
  s_device_type_ : CStr
  _gb_device_name_ : CStr
  _gb_is_Parental_ : Bool
  n_ptzType_ : Int

inductive Action where
  | kActionSelect
  | kActionInsert
  | KActionUpdate
  | kActionDelete
  deriving DecidableEq

def Action.toInt : Action → Int
  | kActionSelect => 0
  | kActionInsert => 1
  | KActionUpdate => 2
  | kActionDelete => 3

structure Request where
  table_name_ : CStr := []
  action_ : Action
  fields_ : FieldInfoList := []
  b_last_update_ : Bool
  p_conList_ : Option ConditionList := none
  deriving DecidableEq

def _table_name_ : CStr := str "Tbl_GBDevice"

/-- `GBRecordAdaptor::toRequest`; the fields are a map and stand in the order of their names. -/
def toRequest (record : GBDeviceInfo) (rqst_info : Request) : Request :=
  let rqst_info := { rqst_info with fields_ := [], table_name_ := _table_name_ }
  if record._gb_device_id_ ≠ [] ∧ record._gb_device_id_.length ≠ 20 then rqst_info
  else
    { rqst_info with
      fields_ :=
        [(str "DeviceID", .ofText record._gb_device_id_ .c_PrimaryKey)] ++
        (if record._gb_device_name_ ≠ [] then
          [(str "DeviceName", .ofText record._gb_device_name_ .c_NoConstraint)] else []) ++
        (if record.s_device_type_ ≠ [] then
          [(str "DeviceType", .ofText record.s_device_type_ .c_NoConstraint)] else []) ++
        [(str "Model", .ofType .kText)] ++
        (if record._gb_is_Parental_ then
          [(str "Parental", .ofBool record._gb_is_Parental_ .c_NoConstraint)] else []) ++
        [(str "PtzType", if record.n_ptzType_ = -1 then .ofType .kInteger
          else .ofInt record.n_ptzType_ .c_NoConstraint)] }

/-- `OnOperationCmd`: what it makes of the request it is given; its answer is not looked at. -/
abbrev OnOperationCmd := Request → Request

/-! ## The queue -/

def SQLITE_QUEUE_SIZE : Nat := 10240

/-- `SQLiteModule`: the names of its tables, the lines of its log and its queue. -/
structure SQLiteModule where
  db_tables : List CStr := []
  m_sqlite_log : List CStr := []
  m_queue_request_ : List Request := []

def SQLiteModule.PrintfLog (m : SQLiteModule) (err : CStr) : SQLiteModule :=
  { m with m_sqlite_log := m.m_sqlite_log ++ [err] }

@[simp] theorem SQLiteModule.PrintfLog_queue (m : SQLiteModule) (err : CStr) :
    (m.PrintfLog err).m_queue_request_ = m.m_queue_request_ := rfl

/-- A line in the log for an unknown table. -/
def SQLiteModule.findTable (m : SQLiteModule) (_table_name_ : CStr) : SQLiteModule :=
  if !m.db_tables.contains _table_name_ then m.PrintfLog (str "table is not exist") else m

@[simp] theorem SQLiteModule.findTable_queue (m : SQLiteModule) (_table_name_ : CStr) :
    (m.findTable _table_name_).m_queue_request_ = m.m_queue_request_ := by
  unfold findTable
  split <;> rfl

def SQLiteModule.SQLiteWriteRequest (m : SQLiteModule) (rst : Request) : Int × SQLiteModule :=
  let m := m.PrintfLog (str "SQLiteModule::SQLiteWriteRequest Enter")
  let m := m.findTable rst.table_name_
  if m.m_queue_request_.length < SQLITE_QUEUE_SIZE then
    (SQLITE_EXCUTE_SUCCESS, { m with m_queue_request_ := m.m_queue_request_ ++ [rst] }.PrintfLog
      (str "SQLITE queue is not full"))
  else (SQLITE_EXCUTE_FAILD, m.PrintfLog (str "SQLITE queue is full"))

structure WriteMgr extends DataBaseMgr where
  sqlite_ : SQLiteModule := {}

def LogRequest (_record : GBDeviceInfo) (_action : Action) : Bool := true

namespace WriteMgr

def ApplyRequest (mgr : WriteMgr) (record : GBDeviceInfo) (action : Action)
    (p_call_back : Option OnOperationCmd) (b_last_update : Bool)
    (p_con_lst : Option ConditionList) : Bool × WriteMgr :=
  if !LogRequest record action then (false, mgr)
  else
    let req : Request := { action_ := action, b_last_update_ := b_last_update }
    let req := toRequest record req
    let req := match p_call_back with
      | some p_call_back => p_call_back req
      | none => req
    let req := match p_con_lst with
      | some p_con_lst => { req with p_conList_ := some p_con_lst }
      | none => req
    match mgr.sqlite_.SQLiteWriteRequest req with
    | (r, sqlite_) =>
      if 0 ≠ r then
        (true, { mgr with
          sqlite_ := sqlite_.PrintfLog (str "Apply: " ++ zeroPadInt 0 req.action_.toInt ++
            str ", for table: " ++ req.table_name_ ++
            str ",faield: Lots requests in queue") })
      else (true, { mgr with sqlite_ := sqlite_ })

def Insert (mgr : WriteMgr) (object_record : GBDeviceInfo) (b_last_operate : Bool)
    (p_call_back : Option OnOperationCmd) (_p_con_lst : Option ConditionList) : Bool × WriteMgr :=
  if !mgr.b_sql_opened_ && decide (object_record._gb_device_id_ = []) ||
      decide (object_record._gb_device_id_.length ≠ 20) then (false, mgr)
  else mgr.ApplyRequest object_record .kActionInsert p_call_back b_last_operate none

def Delete (mgr : WriteMgr) (object_record : GBDeviceInfo) (p_call_back : Option OnOperationCmd)
    (_p_con_lst : Option ConditionList) : Bool × WriteMgr :=
  if !mgr.b_sql_opened_ || decide (object_record._gb_device_id_.length ≠ 20) then (false, mgr)
  else mgr.ApplyRequest object_record .kActionDelete p_call_back false none

def Update (mgr : WriteMgr) (object_record : GBDeviceInfo) (p_call_back : Option OnOperationCmd)
    (p_con_lst : Option ConditionList) (b_last_update : Bool) : Bool × WriteMgr :=
  if !mgr.b_sql_opened_ || (decide (object_record._gb_device_id_ ≠ []) &&
      decide (object_record._gb_device_id_.length ≠ 20)) then (false, mgr)
  else mgr.ApplyRequest object_record .KActionUpdate p_call_back b_last_update p_con_lst

end WriteMgr

/-! ## What an answer should say -/

/-- The three operations with their arguments. -/
inductive Operation where
  | Insert (object_record : GBDeviceInfo) (b_last_operate : Bool)
      (p_call_back : Option OnOperationCmd) (p_con_lst : Option ConditionList)
  | Delete (object_record : GBDeviceInfo) (p_call_back : Option OnOperationCmd)
      (p_con_lst : Option ConditionList)
  | Update (object_record : GBDeviceInfo) (p_call_back : Option OnOperationCmd)
      (p_con_lst : Option ConditionList) (b_last_update : Bool)

/-- The request of a record as the callback leaves it. -/
def asked (record : GBDeviceInfo) (action : Action) (p_call_back : Option OnOperationCmd)
    (b_last_update : Bool) : Request :=
  p_call_back.getD id (toRequest record { action_ := action, b_last_update_ := b_last_update })

/-- The same with a condition list, if one is given. -/
def Request.under (req : Request) (p_con_lst : Option ConditionList) : Request :=
  { req with p_conList_ := p_con_lst.or req.p_conList_ }

namespace Operation

def apply (mgr : WriteMgr) : Operation → Bool × WriteMgr
  | Insert record last callback con => mgr.Insert record last callback con
  | Delete record callback con => mgr.Delete record callback con
  | Update record callback con last => mgr.Update record callback con last

def isInsert : Operation → Prop
  | Insert _ _ _ _ => True
  | _ => False

/-- An `Update` may be of all devices. -/
def acceptable : Operation → Prop
  | Insert record _ _ _ => record._gb_device_id_.length = 20
  | Delete record _ _ => record._gb_device_id_.length = 20
  | Update record _ _ _ => record._gb_device_id_ = [] ∨ record._gb_device_id_.length = 20

/-- What should be queued; the condition list given to an `Update` or a `Delete` is part of it. -/
def request : Operation → Request
  | Insert record last callback _ => asked record .kActionInsert callback last
  | Delete record callback con => (asked record .kActionDelete callback false).under con
  | Update record callback con last => (asked record .KActionUpdate callback last).under con

/-- No condition list is given to a `Delete`, other than one the callback puts in itself. -/
def keepsList : Operation → Prop
  | Delete record callback con =>
    con = none ∨ (asked record .kActionDelete callback false).p_conList_ = con
  | _ => True

end Operation

structure Honest (mgr : WriteMgr) (op : Operation) : Prop where
  accepted : (op.apply mgr).1 = true → mgr.b_sql_opened_ = true ∧ op.acceptable ∧
    (op.apply mgr).2.sqlite_.m_queue_request_ = mgr.sqlite_.m_queue_request_ ++ [op.request]
  refused : (op.apply mgr).1 = false →
    (op.apply mgr).2.sqlite_.m_queue_request_ = mgr.sqlite_.m_queue_request_

def Fits (mgr : WriteMgr) (op : Operation) : Prop :=
  ¬ op.acceptable ∨ (mgr.b_sql_opened_ = false ∧ ¬ op.isInsert) ∨
    (mgr.b_sql_opened_ = true ∧ mgr.sqlite_.m_queue_request_.length < SQLITE_QUEUE_SIZE ∧
      op.keepsList)

/-! ## What each function does -/

theorem SQLiteModule.SQLiteWriteRequest_queue (m : SQLiteModule) (rst : Request) :
    (m.SQLiteWriteRequest rst).2.m_queue_request_ =
      if m.m_queue_request_.length < SQLITE_QUEUE_SIZE then m.m_queue_request_ ++ [rst]
      else m.m_queue_request_ := by
  unfold SQLiteWriteRequest
  simp only [findTable_queue, PrintfLog_queue]
  split
  · rfl
  · rw [PrintfLog_queue, findTable_queue, PrintfLog_queue]

namespace WriteMgr

variable {mgr : WriteMgr} {record : GBDeviceInfo} {action : Action}
  {p_call_back : Option OnOperationCmd} {b_last_update : Bool} {p_con_lst : Option ConditionList}

theorem ApplyRequest_eq :
    mgr.ApplyRequest record action p_call_back b_last_update p_con_lst =
      match mgr.sqlite_.SQLiteWriteRequest
        ((asked record action p_call_back b_last_update).under p_con_lst) with
      | (r, sqlite_) =>
        if 0 ≠ r then
          (true, { mgr with
            sqlite_ := sqlite_.PrintfLog (str "Apply: " ++ zeroPadInt 0
              ((asked record action p_call_back b_last_update).under p_con_lst).action_.toInt ++
              str ", for table: " ++
              ((asked record action p_call_back b_last_update).under p_con_lst).table_name_ ++
              str ",faield: Lots requests in queue") })
        else (true, { mgr with sqlite_ := sqlite_ }) := by
  cases p_call_back <;> cases p_con_lst <;> rfl

theorem ApplyRequest_fst :
    (mgr.ApplyRequest record action p_call_back b_last_update p_con_lst).1 = true := by
  rw [ApplyRequest_eq]
  show (if _ then _ else _ : Bool × WriteMgr).1 = true
  split <;> rfl

theorem applyRequest_queue :
    (mgr.ApplyRequest record action p_call_back b_last_update
      p_con_lst).2.sqlite_.m_queue_request_ =
      if mgr.sqlite_.m_queue_request_.length < SQLITE_QUEUE_SIZE then
        mgr.sqlite_.m_queue_request_ ++
          [(asked record action p_call_back b_last_update).under p_con_lst]
      else mgr.sqlite_.m_queue_request_ := by
  rw [← SQLiteModule.SQLiteWriteRequest_queue, ApplyRequest_eq]
  show (if _ then _ else _ : Bool × WriteMgr).2.sqlite_.m_queue_request_ = _
  split <;> rfl

end WriteMgr

/-! ## The three operations -/

namespace Operation

variable {mgr : WriteMgr} {op : Operation}

/-- What is queued: only an `Update` hands its condition list on. -/
def queued : Operation → Request
  | Insert record last callback _ => asked record .kActionInsert callback last
  | Delete record callback _ => asked record .kActionDelete callback false
  | Update record callback con last => (asked record .KActionUpdate callback last).under con

/-- The guard of an operation lets it pass. -/
def passes (mgr : WriteMgr) (op : Operation) : Prop :=
  op.acceptable ∧ (mgr.b_sql_opened_ = true ∨ op.isInsert)

theorem apply_of_not_passes (h : ¬ op.passes mgr) : op.apply mgr = (false, mgr) := by
  cases op with
  | Insert record last callback con =>
    have hlen : record._gb_device_id_.length ≠ 20 := fun hlen => h ⟨hlen, .inr trivial⟩
    refine if_pos ?_
    rw [decide_eq_true hlen, Bool.or_true]
  | Delete record callback con =>
    refine if_pos ?_
    cases ho : mgr.b_sql_opened_ with
    | false => rfl
    | true =>
      have hlen : record._gb_device_id_.length ≠ 20 := fun hlen => h ⟨hlen, .inl ho⟩
      exact decide_eq_true hlen
  | Update record callback con last =>
    refine if_pos ?_
    cases ho : mgr.b_sql_opened_ with
    | false => rfl
    | true =>
      have hne : record._gb_device_id_ ≠ [] := fun hnil => h ⟨.inl hnil, .inl ho⟩
      have hlen : record._gb_device_id_.length ≠ 20 := fun hlen => h ⟨.inr hlen, .inl ho⟩
      simp [hne, hlen]

/-- Any other is accepted, and its request put behind the others if there is room. -/
theorem apply_of_passes (h : op.passes mgr) : (op.apply mgr).1 = true ∧
    (op.apply mgr).2.sqlite_.m_queue_request_ =
      if mgr.sqlite_.m_queue_request_.length < SQLITE_QUEUE_SIZE then
        mgr.sqlite_.m_queue_request_ ++ [op.queued]
      else mgr.sqlite_.m_queue_request_ := by
  cases op with
  | Insert record last callback con =>
    have hlen : record._gb_device_id_.length = 20 := h.1
    have hne : record._gb_device_id_ ≠ [] := by
      rintro hnil
      rw [hnil] at hlen
      cases hlen
    have happly : (Insert record last callback con).apply mgr =
        mgr.ApplyRequest record .kActionInsert callback last none :=
      if_neg (by simp [hne, hlen])
    rw [happly]
    exact ⟨WriteMgr.ApplyRequest_fst, WriteMgr.applyRequest_queue⟩
  | Delete record callback con =>
    have hlen : record._gb_device_id_.length = 20 := h.1
    have hopen : mgr.b_sql_opened_ = true := h.2.resolve_right id
    have happly : (Delete record callback con).apply mgr =
        mgr.ApplyRequest record .kActionDelete callback false none :=
      if_neg (by simp [hopen, hlen])
    rw [happly]
    exact ⟨WriteMgr.ApplyRequest_fst, WriteMgr.applyRequest_queue⟩
  | Update record callback con last =>
    have hid : record._gb_device_id_ = [] ∨ record._gb_device_id_.length = 20 := h.1
    have hopen : mgr.b_sql_opened_ = true := h.2.resolve_right id
    have happly : (Update record callback con last).apply mgr =
        mgr.ApplyRequest record .KActionUpdate callback last con := by
      refine if_neg ?_
      rcases hid with hnil | hlen
      · simp [hopen, hnil]
      · simp [hopen, hlen]
    rw [happly]
    exact ⟨WriteMgr.ApplyRequest_fst, WriteMgr.applyRequest_queue⟩

theorem queued_eq_request_iff : op.queued = op.request ↔ op.keepsList := by
  cases op with
  | Insert record last callback con => exact iff_of_true rfl trivial
  | Update record callback con last => exact iff_of_true rfl trivial
  | Delete record callback con =>
    cases con with
    | none => exact iff_of_true rfl (.inl rfl)
    | some con =>
      constructor
      · intro heq
        exact .inr (congrArg (·.p_conList_) heq)
      · intro hkeeps
        have hlist : (asked record .kActionDelete callback false).p_conList_ = some con :=
          hkeeps.resolve_left (Option.some_ne_none _)
        show asked record .kActionDelete callback false =
          { asked record .kActionDelete callback false with p_conList_ := some con }
        rw [← hlist]

end Operation

/-- **Accepted and queued**: the answer of an operation fits the queue exactly when the ID is not
acceptable, or the database is closed and this is no `Insert`, or it is open with room in the queue
and no condition list is lost. -/
theorem honest_iff (mgr : WriteMgr) (op : Operation) : Honest mgr op ↔ Fits mgr op := by
  by_cases hpass : op.passes mgr
  · obtain ⟨hid, hopen⟩ := hpass
    obtain ⟨hfst, hqueue⟩ := Operation.apply_of_passes ⟨hid, hopen⟩
    have hclosed : ¬ (mgr.b_sql_opened_ = false ∧ ¬ op.isInsert) := by
      rintro ⟨hclosed, hinsert⟩
      rcases hopen with hopen | hopen
      · rw [hopen] at hclosed
        cases hclosed
      · exact hinsert hopen
    unfold Fits
    rw [or_iff_right (not_not_intro hid), or_iff_right hclosed]
    constructor
    · intro h
      obtain ⟨hopen, -, hput⟩ := h.accepted hfst
      rw [hqueue] at hput
      by_cases hroom : mgr.sqlite_.m_queue_request_.length < SQLITE_QUEUE_SIZE
      · rw [if_pos hroom] at hput
        have hsame : op.queued = op.request := (List.cons.inj (List.append_cancel_left hput)).1
        exact ⟨hopen, hroom, Operation.queued_eq_request_iff.mp hsame⟩
      · rw [if_neg hroom] at hput
        have hlen := congrArg List.length hput
        simp at hlen
    · rintro ⟨hopen, hroom, hkeeps⟩
      refine ⟨fun _ => ⟨hopen, hid, ?_⟩, fun hfalse => ?_⟩
      · rw [hqueue, if_pos hroom, Operation.queued_eq_request_iff.mpr hkeeps]
      · rw [hfst] at hfalse
        cases hfalse
  · have happly := Operation.apply_of_not_passes hpass
    refine iff_of_true ⟨fun htrue => ?_, fun _ => ?_⟩ ?_
    · rw [happly] at htrue
      cases htrue
    · rw [happly]
    · by_cases hid : op.acceptable
      · have hopen : ¬ (mgr.b_sql_opened_ = true ∨ op.isInsert) := fun h => hpass ⟨hid, h⟩
        rw [not_or, Bool.not_eq_true] at hopen
        exact .inr (.inl hopen)
      · exact .inl hid

def camera : GBDeviceInfo := ⟨str "34020000001320000001", str "IPC", str "hall", false, -1⟩

/-- Into a closed database. -/
theorem insert_closed_not_honest :
    ¬ Honest {} (.Insert camera true none none) := by
  intro h
  have hopen : ({} : WriteMgr).b_sql_opened_ = true := (h.accepted rfl).1
  cases hopen

/-! ## Runs -/

namespace WriteMgr

end WriteMgr

end GB28181.Platform.Database
