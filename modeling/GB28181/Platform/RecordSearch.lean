import GB28181.Platform.AnswerPages

/-!
# Record searches (`SDKCom/SDKCom.cpp`, `SDKCom/SDKInfoSearcherMgr.cpp`)

Queries for records wait in `m_oUnifiedMsgList`; a thread starts a search for the first one and
waits until it has finished, for a while.  The callbacks of the searches collect the records and
answer whatever query is the first when a search finishes.  Name and ID of the device, the list of
records and the two events are shared.

Of the messages an answer goes out in nothing is kept but their bodies.

* `getCatalogBodyContent` — a page of the shared list;
* `step` — the steps of `ProcRecordSearch`, of the search thread and of the callbacks;
* `OwnAnswers` — every query is answered once, from its own search;
* `Undisturbed` — the steps under which it is so.
-/

set_option autoImplicit false

namespace GB28181.Platform.RecordSearch

open GB28181.Base

variable {ρ : Type}

/-! ## State -/

/-- A query: what is read of its message, and the name that `ProcRecordSearch` looks up. -/
structure Query where
  strSN : CStr
  strDeviceID : CStr
  startTime : Int
  recordAddr : CStr
  /-- `deviceInfo.linked.strDeviceName`. -/
  strDeviceName : CStr

/-- `VideoRecordItem`: what a search returned, and the address of the query. -/
structure VideoRecordItem (ρ : Type) where
  info : ρ
  m_szRecordAddr : CStr

structure Page (ρ : Type) where
  strSN : CStr
  strDeviceID : CStr
  strDeviceName : CStr
  nRecordSum : Nat
  nListSum : Nat
  records : List (VideoRecordItem ρ) := []
  /-- The builder had room for it. -/
  whole : Bool := true

/-- `InfoContext_t`; a position in the list of records is the number of those before it. -/
structure InfoContext where
  posRecordMap : Option Nat := none
  nRawDevSum : Nat := 0
  nSurplus : Nat := 0

/-- Where the callbacks of a search are. -/
inductive Phase where
  /-- More may come. -/
  | active
  /-- In the loop of `HandleRecordSearchResult`. -/
  | answering (strSN : CStr) (tContext : InfoContext)
  /-- Behind it. -/
  | pushed
  | removed
  | done

def Phase.Pushed : Phase → Prop
  | .active => False
  | .answering _ _ => False
  | _ => True

/-- A search that was started for a query, and the answer that its last callback gave. -/
structure Search (ρ : Type) where
  query : Nat
  returned : List ρ := []
  phase : Phase := .active
  /-- The query whose message the answer takes. -/
  answers : Option Nat := none
  pages : List (Page ρ) := []

/-- Where `ProcRecordSearch` is. -/
inductive ProcRecordSearch where
  | idle
  | appended (n : Nat)
  | named

inductive SearchThread where
  | loop
  | waitSearchStart
  | waitSearchFinish
deriving DecidableEq

/-- `VideoRecordsSeachMgr` and the three threads that use it.  Queries and searches are numbered in
the order in which they come. -/
structure VideoRecordsSeachMgr (ρ : Type) where
  queries : List Query := []
  m_oUnifiedMsgList : List Nat := []
  m_oRecordList : List (VideoRecordItem ρ) := []
  m_strDeviceID : CStr := []
  m_strDeviceName : CStr := []
  m_oStartEvent : Bool := false
  m_oFinishEvent : Bool := false
  proc : ProcRecordSearch := .idle
  thread : SearchThread := .loop
  searches : List (Search ρ) := []
  /-- Queries for times to come, with their answers. -/
  atOnce : List (Query × Page ρ) := []
  /-- A null pointer was used. -/
  faulted : Bool := false

/-! ## Pages -/

section Pages

variable (MAX_LIST_LEN : Nat) (hasRoom : Page ρ → Bool)

/-- The builders give up on a body that does not fit the buffer. -/
def build (page : Page ρ) : Page ρ :=
  if hasRoom page then page else { page with records := [], whole := false }

/-- The context with which a page is built: the first call fills it in. -/
def InfoContext.start (nRecordSum : Nat) (pContext : InfoContext) : InfoContext :=
  match pContext.posRecordMap with
  | none => ⟨some 0, nRecordSum, pageSum MAX_LIST_LEN nRecordSum⟩
  | some _ => pContext

/-- The page that `GetCatalogBodyContent` asks the builder for. -/
def nextPage (s : VideoRecordsSeachMgr ρ) (pstrSN : CStr) (pContext : InfoContext) : Page ρ :=
  let pContext := pContext.start MAX_LIST_LEN s.m_oRecordList.length
  { strSN := pstrSN
    strDeviceID := s.m_strDeviceID
    strDeviceName := s.m_strDeviceName
    nRecordSum := s.m_oRecordList.length
    nListSum := min MAX_LIST_LEN pContext.nRawDevSum
    records := (s.m_oRecordList.drop (pContext.posRecordMap.getD 0)).take MAX_LIST_LEN }

/-- What `GetCatalogBodyContent` leaves. -/
structure Written (ρ : Type) where
  page : Page ρ
  result : Int
  pContext : InfoContext
  m_oRecordList : List (VideoRecordItem ρ)

def getCatalogBodyContent (s : VideoRecordsSeachMgr ρ) (pstrSN : CStr) (pContext : InfoContext) :
    Written ρ :=
  let page := nextPage MAX_LIST_LEN s pstrSN pContext
  let pContext := pContext.start MAX_LIST_LEN s.m_oRecordList.length
  let pos := pContext.posRecordMap.getD 0
  if hasRoom page = false then ⟨build hasRoom page, -1, pContext, []⟩
  else
    match pContext.nSurplus with
    | 0 => ⟨page, 0, pContext, s.m_oRecordList⟩
    | nSurplus + 1 =>
      -- the last record was written
      if s.m_oRecordList.length ≤ pos + MAX_LIST_LEN then
        ⟨page, nSurplus, ⟨none, 0, nSurplus⟩, []⟩
      else
        ⟨page, nSurplus, ⟨some (pos + MAX_LIST_LEN), pContext.nRawDevSum - MAX_LIST_LEN, nSurplus⟩,
          s.m_oRecordList⟩

end Pages

/-! ## Steps -/

namespace VideoRecordsSeachMgr

variable (MAX_LIST_LEN : Nat) (hasRoom : Page ρ → Bool) (s : VideoRecordsSeachMgr ρ)

/-- Search `k` becomes `f`. -/
def set (k : Nat) (f : Search ρ) : VideoRecordsSeachMgr ρ :=
  { s with searches := s.searches.set k f }

/-- The empty answer to a query for times to come. -/
def blankPage (pUnifiedMsg : Query) : Page ρ where
  strSN := pUnifiedMsg.strSN
  strDeviceID := pUnifiedMsg.strDeviceID
  strDeviceName := pUnifiedMsg.strDeviceName
  nRecordSum := 0
  nListSum := 0

/-- `ProcRecordSearch` of a known device, as far as `SetSearchMessage`. -/
def procRecordSearch (pUnifiedMsg : Query) (cur : Int) : VideoRecordsSeachMgr ρ :=
  match s.proc with
  | .idle =>
    if pUnifiedMsg.startTime ≥ cur then
      { s with atOnce := s.atOnce ++ [(pUnifiedMsg, build hasRoom (blankPage pUnifiedMsg))] }
    else
      { s with
        queries := s.queries ++ [pUnifiedMsg]
        m_oUnifiedMsgList := s.m_oUnifiedMsgList ++ [s.queries.length]
        proc := .appended s.queries.length }
  | _ => s

/-- Then `SetDeviceName`. -/
def setDeviceName : VideoRecordsSeachMgr ρ :=
  match s.proc with
  | .appended n =>
    match s.queries[n]? with
    | some pUnifiedMsg => { s with m_strDeviceName := pUnifiedMsg.strDeviceName, proc := .named }
    | none => s
  | _ => s

/-- And `SetSearchStart`. -/
def setSearchStart : VideoRecordsSeachMgr ρ :=
  match s.proc with
  | .named => { s with m_oStartEvent := true, proc := .idle }
  | _ => s

/-- `GetSearchMessage` of the search thread, and the search for the query it finds. -/
def getSearchMessage : VideoRecordsSeachMgr ρ :=
  match s.thread, s.m_oUnifiedMsgList with
  | .loop, [] => { s with thread := .waitSearchStart }
  | .loop, n :: _ =>
    { s with searches := s.searches ++ [{ query := n }], thread := .waitSearchFinish }
  | _, _ => s

/-- `WaitSearchStart` ends, by the event or not. -/
def waitSearchStart : VideoRecordsSeachMgr ρ :=
  if s.thread = .waitSearchStart then { s with m_oStartEvent := false, thread := .loop } else s

/-- `WaitSearchFinish` ends: by the event, which is reset, or by its time-out. -/
def waitSearchFinish : VideoRecordsSeachMgr ρ :=
  if s.thread = .waitSearchFinish then { s with m_oFinishEvent := false, thread := .loop } else s

/-- A callback of search `k` brings a record; `buf` when the pool has a buffer for it. -/
def inserRecord (k : Nat) (r : ρ) (buf : Bool) : VideoRecordsSeachMgr ρ :=
  match s.searches[k]? with
  | some f =>
    match f.phase with
    | .active =>
      let s := s.set k { f with returned := f.returned ++ [r] }
      if buf then
        match s.m_oUnifiedMsgList.head? with
        | none => { s with faulted := true }
        | some n =>
          match s.queries[n]? with
          | some pUnifiedMsg =>
            { s with m_oRecordList := s.m_oRecordList ++ [⟨r, pUnifiedMsg.recordAddr⟩] }
          | none => s
      else s
    | _ => s
  | none => s

/-- The last callback of search `k`: `HandleRecordSearchResult`, as far as its loop. -/
def handleRecordSearchResult (k : Nat) : VideoRecordsSeachMgr ρ :=
  match s.searches[k]? with
  | some f =>
    match f.phase with
    | .active =>
      match s.m_oUnifiedMsgList.head? with
      | none => { s with faulted := true }
      | some n =>
        match s.queries[n]? with
        | some pUnifiedMsg =>
          { s.set k { f with phase := .answering pUnifiedMsg.strSN {}, answers := some n } with
            m_strDeviceID := pUnifiedMsg.strDeviceID }
        | none => s
    | _ => s
  | none => s

def pushPage (k : Nat) : VideoRecordsSeachMgr ρ :=
  match s.searches[k]? with
  | some f =>
    match f.phase with
    | .answering strSN tContext =>
      let written := getCatalogBodyContent MAX_LIST_LEN hasRoom s strSN tContext
      { s.set k { f with
          pages := f.pages ++ [written.page]
          phase := if 0 < written.result then .answering strSN written.pContext else .pushed } with
        m_oRecordList := written.m_oRecordList }
    | _ => s
  | none => s

def removeHeadSearchMessage (k : Nat) : VideoRecordsSeachMgr ρ :=
  match s.searches[k]? with
  | some f =>
    match f.phase with
    | .pushed =>
      { s.set k { f with phase := .removed } with
        m_oUnifiedMsgList := s.m_oUnifiedMsgList.tail }
    | _ => s
  | none => s

def setSearchFinish (k : Nat) : VideoRecordsSeachMgr ρ :=
  match s.searches[k]? with
  | some f =>
    match f.phase with
    | .removed => { s.set k { f with phase := .done } with m_oFinishEvent := true }
    | _ => s
  | none => s

end VideoRecordsSeachMgr

/-- The steps of all threads; one that its thread cannot make does nothing. -/
inductive Step (ρ : Type) where
  | procRecordSearch (pUnifiedMsg : Query) (cur : Int)
  | setDeviceName
  | setSearchStart
  | getSearchMessage
  | waitSearchStart
  | waitSearchFinish
  | inserRecord (k : Nat) (r : ρ) (buf : Bool)
  | handleRecordSearchResult (k : Nat)
  | pushPage (k : Nat)
  | removeHeadSearchMessage (k : Nat)
  | setSearchFinish (k : Nat)

section Step

variable (MAX_LIST_LEN : Nat) (hasRoom : Page ρ → Bool)

def step (s : VideoRecordsSeachMgr ρ) (i : Step ρ) : VideoRecordsSeachMgr ρ :=
  if s.faulted then s
  else
    match i with
    | .procRecordSearch pUnifiedMsg cur => s.procRecordSearch hasRoom pUnifiedMsg cur
    | .setDeviceName => s.setDeviceName
    | .setSearchStart => s.setSearchStart
    | .getSearchMessage => s.getSearchMessage
    | .waitSearchStart => s.waitSearchStart
    | .waitSearchFinish => s.waitSearchFinish
    | .inserRecord k r buf => s.inserRecord k r buf
    | .handleRecordSearchResult k => s.handleRecordSearchResult k
    | .pushPage k => s.pushPage MAX_LIST_LEN hasRoom k
    | .removeHeadSearchMessage k => s.removeHeadSearchMessage k
    | .setSearchFinish k => s.setSearchFinish k

/-! ## What should hold -/

/-- The page is an answer to the query. -/
def Carries (q : Query) (page : Page ρ) : Prop :=
  page.strSN = q.strSN ∧ page.strDeviceID = q.strDeviceID ∧
    page.strDeviceName = q.strDeviceName ∧ page.whole = true

/-- The records of a search, as they are stored for a query. -/
def items (q : Query) (returned : List ρ) : List (VideoRecordItem ρ) :=
  returned.map fun r => ⟨r, q.recordAddr⟩

/-- Every query is answered once, and from its own search. -/
structure OwnAnswers (s : VideoRecordsSeachMgr ρ) : Prop where
  runs : s.faulted = false
  atOnce : ∀ a ∈ s.atOnce, Carries a.1 a.2 ∧ a.2.records = []
  own : ∀ f ∈ s.searches, ∀ n, f.answers = some n → f.query = n ∧
    ∃ q, s.queries[n]? = some q ∧ (∀ page ∈ f.pages, Carries q page) ∧
      (f.phase.Pushed → f.pages.flatMap Page.records = items q f.returned)
  once : ∀ (k k' : Nat) (f f' : Search ρ), s.searches[k]? = some f → s.searches[k']? = some f' →
    ∀ n, f.answers = some n → f'.answers = some n → k = k'
  /-- No query waits: all of them are answered. -/
  all : s.m_oUnifiedMsgList = [] → ∀ n < s.queries.length,
    ∃ f ∈ s.searches, f.answers = some n ∧ f.phase.Pushed

/-- A device name is set only over the same name of the queries that wait, a search is over before
the wait for it and after the name for its query is set, and there is room for every record and
every page. -/
def Undisturbed (s : VideoRecordsSeachMgr ρ) : Step ρ → Prop
  | .procRecordSearch pUnifiedMsg cur =>
    pUnifiedMsg.startTime ≥ cur → hasRoom (VideoRecordsSeachMgr.blankPage pUnifiedMsg) = true
  | .setDeviceName =>
    ∀ n, s.proc = .appended n → ∀ q ∈ s.queries[n]?, ∀ m ∈ s.m_oUnifiedMsgList,
      ∀ q' ∈ s.queries[m]?, q'.strDeviceName = q.strDeviceName
  | .waitSearchFinish => s.thread = .waitSearchFinish → s.m_oFinishEvent = true
  | .inserRecord _ _ buf => buf = true
  | .handleRecordSearchResult _ => ∀ n ∈ s.m_oUnifiedMsgList.head?, s.proc ≠ .appended n
  | .pushPage k =>
    ∀ f ∈ s.searches[k]?, ∀ strSN tContext, f.phase = .answering strSN tContext →
      hasRoom (nextPage MAX_LIST_LEN s strSN tContext) = true
  | _ => True

end Step

end GB28181.Platform.RecordSearch
