import GB28181.Base.Ownership
import GB28181.Base.Pages
import GB28181.Platform.AnswerPages
import GB28181.Platform.BodyBuilder

/-!
# The loops that fill pages (`DevInfo/ChannelInfo.h`, `SDKCom/SDKInfoSearcherMgr.h`, `.cpp`)

`GetCatalogBodyContent` writes a page of a list: the head, some items, the tail, each with a call of
a body builder.  A context keeps the position in the list and two counters from call to call.  The
catalogue collections have the loop twice, the lists of alarm records and video records once each;
the last one frees its records on the way.

A body builder is called through `BuilderCall`, which may be the builder itself (`callBuilder`) or
anything that succeeds and fails as it likes.
-/

set_option autoImplicit false

namespace GB28181.Platform.PageLoops

open GB28181.Base Own BodyBuilder

variable {ι σ : Type}

/-- `InfoContext_t`; a position is the list from there on, empty for the null pointer. -/
structure InfoContext_t (ι : Type) where
  posRecordMap : List ι := []
  nSurplus : Int := 0
  nRawDevSum : Int := 0

structure PageBuilders (ι : Type) where
  head (nSumNum nListNum : Int) : Builder
  item (item : ι) : Builder
  tail : Builder

/-- A call of a builder with the bytes used so far, the length handed over and the buffer: the bytes
it reports, or nothing for `ERROR_NOACCESS`. -/
abbrev BuilderCall (σ : Type) := Builder → Nat → Int → σ → Option Nat × σ

/-- The call of the builder itself, on the buffer from `nCountUsed` on. -/
def callBuilder : BuilderCall Buffer := fun b nCountUsed nCompleteLen pszInfo =>
  match b.run nCompleteLen with
  | .written copies terminator reported =>
    let rest := writes (fun i => pszInfo (nCountUsed + i)) copies
    let rest := match terminator with
      | some i => Copy.write rest ⟨i, [0]⟩
      | none => rest
    (some (reported.getD 0), fun i => if i < nCountUsed then pszInfo i else rest (i - nCountUsed))
  -- none of the builders here formats a text, so none is aborted
  | _ => (none, pszInfo)

section loops

variable (MAX_LIST_LEN : Nat) (call : BuilderCall σ) (b : PageBuilders ι) (nBufLen : Int)

/-- What the first call makes of a context. -/
def InfoContext_t.start (list : List ι) (pContext : InfoContext_t ι) : InfoContext_t ι :=
  match pContext.posRecordMap with
  | [] =>
    { posRecordMap := list
      nRawDevSum := list.length
      nSurplus := pageSum MAX_LIST_LEN list.length }
  | _ => pContext

theorem start_of_pos {list : List ι} {pContext : InfoContext_t ι}
    (h : pContext.posRecordMap ≠ []) : pContext.start MAX_LIST_LEN list = pContext := by
  unfold InfoContext_t.start
  split
  · rename_i hnil
    exact absurd hnil h
  · rfl

/-- `nListSum` of a page. -/
def InfoContext_t.nListSum (pContext : InfoContext_t ι) : Int :=
  if (MAX_LIST_LEN : Int) < pContext.nRawDevSum then MAX_LIST_LEN else pContext.nRawDevSum

/-! ## Catalogues -/

/-- In the loop; `nCompleteLen` is what the last builder reported. -/
structure Filling (ι σ : Type) where
  pContext : InfoContext_t ι
  pszInfo : σ
  nCountUsed : Nat
  nCompleteLen : Nat

inductive Exit (ι σ : Type) where
  | error (s : Filling ι σ)
  /-- `return 0`. -/
  | returned (s : Filling ι σ)
  | through (s : Filling ι σ)

/-- The tail, behind what the last builder reported. -/
def Filling.complete (s : Filling ι σ) : Option Nat × Filling ι σ :=
  let nCountUsed := s.nCountUsed + s.nCompleteLen
  let r := call b.tail nCountUsed (nBufLen - nCountUsed) s.pszInfo
  (r.1, { s with nCountUsed := nCountUsed, nCompleteLen := 0, pszInfo := r.2 })

/-- The loop over the items of a page, with the turns that are left. -/
def catalogLoop : Nat → Filling ι σ → Exit ι σ
  | 0, s => .through s
  | left + 1, s =>
    match s.pContext.posRecordMap with
    | [] =>
      -- the list is empty
      match s.complete call b nBufLen with
      | (none, s) => .error s
      | (some _, s) => .returned s
    | pCatalog :: posRecordMap =>
      let nCountUsed := s.nCountUsed + s.nCompleteLen
      match call (b.item pCatalog) nCountUsed (nBufLen - nCountUsed) s.pszInfo with
      | (none, pszInfo) =>
        .error { s with
          pContext := { s.pContext with posRecordMap := posRecordMap }, pszInfo := pszInfo }
      | (some nCompleteLen, pszInfo) =>
        let s : Filling ι σ :=
          ⟨{ s.pContext with posRecordMap := posRecordMap }, pszInfo, nCountUsed, nCompleteLen⟩
        if posRecordMap = [] then
          match s.complete call b nBufLen with
          | (none, s) => .error s
          | (some _, s) => .returned s
        -- `nItemIdx == MAX_LIST_LEN - 1`
        else if left = 0 then
          match s.complete call b nBufLen with
          | (none, s) => .error s
          | (some _, s) =>
            .through { s with
              pContext := { s.pContext with nRawDevSum := s.pContext.nRawDevSum - 1 } }
        else
          catalogLoop left
            { s with pContext := { s.pContext with nRawDevSum := s.pContext.nRawDevSum - 1 } }

/-- A page of a catalogue: the result, the context and the buffer. -/
def catalogPage (list : List ι) (nSumNum : Int) (pContext : InfoContext_t ι) (pszInfo : σ) :
    Int × InfoContext_t ι × σ :=
  let pContext := pContext.start MAX_LIST_LEN list
  if (0 < list.length ∧ 0 < pContext.nSurplus) ∨ list.length = 0 then
    match call (b.head nSumNum (pContext.nListSum MAX_LIST_LEN)) 0 nBufLen pszInfo with
    | (none, pszInfo) => (0, pContext, pszInfo)
    | (some nCompleteLen, pszInfo) =>
      match catalogLoop call b nBufLen MAX_LIST_LEN ⟨pContext, pszInfo, 0, nCompleteLen⟩ with
      | .error s => (0, s.pContext, s.pszInfo)
      | .returned s => (0, s.pContext, s.pszInfo)
      | .through s =>
        let nSurplus := s.pContext.nSurplus - 1
        (nSurplus, { s.pContext with nSurplus := nSurplus }, s.pszInfo)
  else (0, pContext, pszInfo)

/-! ## Alarm records -/

structure AlarmFilling (ι σ : Type) where
  pContext : InfoContext_t ι
  pszInfo : σ
  nCountUsed : Nat

inductive AlarmExit (ι σ : Type) where
  /-- `GetNext` of the null pointer. -/
  | noPosition
  | error (s : AlarmFilling ι σ)
  | returned (s : AlarmFilling ι σ)
  | through (s : AlarmFilling ι σ)

/-- The loop over the records of a page. -/
def alarmLoop : Nat → AlarmFilling ι σ → AlarmExit ι σ
  | 0, s => .through s
  | left + 1, s =>
    match s.pContext.posRecordMap with
    | [] => .noPosition
    | pRecord :: posRecordMap =>
      match call (b.item pRecord) s.nCountUsed (nBufLen - s.nCountUsed) s.pszInfo with
      | (none, pszInfo) =>
        .error { s with
          pContext := { s.pContext with posRecordMap := posRecordMap }, pszInfo := pszInfo }
      | (some nCompleteLen, pszInfo) =>
        let pContext : InfoContext_t ι := { s.pContext with
          posRecordMap := posRecordMap, nRawDevSum := s.pContext.nRawDevSum - 1 }
        let nCountUsed := s.nCountUsed + nCompleteLen
        if posRecordMap = [] then
          -- the last record
          match call b.tail nCountUsed (nBufLen - nCountUsed) pszInfo with
          | (none, pszInfo) => .error ⟨pContext, pszInfo, nCountUsed⟩
          | (some _, pszInfo) => .returned ⟨pContext, pszInfo, nCountUsed⟩
        else alarmLoop left ⟨pContext, pszInfo, nCountUsed⟩

/-- What a call of `AlarmRecordsMgr` works on. -/
structure AlarmList (ι σ : Type) where
  m_oRecordList : List ι
  pContext : InfoContext_t ι := {}
  pszInfo : σ

/-- Behind the label `error`. -/
def AlarmList.error (s : AlarmList ι σ) : Int × AlarmList ι σ :=
  (-1, { s with m_oRecordList := [] })

/-- A page of alarm records: the result and what it leaves; nothing if a null pointer is used. -/
def alarmPage (s : AlarmList ι σ) : Option (Int × AlarmList ι σ) :=
  let nRecordSum : Int := s.m_oRecordList.length
  let fresh := s.pContext.posRecordMap.isEmpty
  let s : AlarmList ι σ := { s with pContext := s.pContext.start MAX_LIST_LEN s.m_oRecordList }
  if fresh = true ∧ s.pContext.nSurplus = 0 then
    -- no record: an empty body
    match call (b.head nRecordSum nRecordSum) 0 nBufLen s.pszInfo with
    | (none, pszInfo) => some { s with pszInfo := pszInfo }.error
    | (some nCompleteLen, pszInfo) =>
      match call b.tail nCompleteLen (nBufLen - nCompleteLen) pszInfo with
      | (none, pszInfo) => some { s with pszInfo := pszInfo }.error
      | (some _, pszInfo) => some (0, { s with pszInfo := pszInfo })
  else if s.pContext.nSurplus ≠ 0 then
    match call (b.head nRecordSum (s.pContext.nListSum MAX_LIST_LEN)) 0 nBufLen s.pszInfo with
    | (none, pszInfo) => some { s with pszInfo := pszInfo }.error
    | (some nCompleteLen, pszInfo) =>
      match alarmLoop call b nBufLen MAX_LIST_LEN ⟨s.pContext, pszInfo, nCompleteLen⟩ with
      | .noPosition => none
      | .error t => some { s with pContext := t.pContext, pszInfo := t.pszInfo }.error
      | .returned t => some (0, { s with pContext := t.pContext, pszInfo := t.pszInfo })
      | .through t =>
        match call b.tail t.nCountUsed (nBufLen - t.nCountUsed) t.pszInfo with
        | (none, pszInfo) => some { s with pContext := t.pContext, pszInfo := pszInfo }.error
        | (some _, pszInfo) =>
          let nSurplus := t.pContext.nSurplus - 1
          some (nSurplus,
            { s with pContext := { t.pContext with nSurplus := nSurplus }, pszInfo := pszInfo })
  else some (0, s)

/-! ## Video records -/

/-- What a call of `VideoRecordsSeachMgr` works on, and the accesses to records so far. -/
structure VideoList (ι σ : Type) where
  m_oRecordList : List ι
  pContext : InfoContext_t ι := {}
  pszInfo : σ
  accesses : List (Event ι) := []

inductive VideoExit (ι σ : Type) where
  | noPosition
  /-- With the record that `pRecord` still points to. -/
  | error (s : VideoList ι σ) (pRecord : ι)
  | through (s : VideoList ι σ) (nCountUsed : Nat)

/-- The loop over the records of a page. -/
def videoLoop : Nat → VideoList ι σ → Nat → VideoExit ι σ
  | 0, s, nCountUsed => .through s nCountUsed
  | left + 1, s, nCountUsed =>
    match s.pContext.posRecordMap with
    | [] => .noPosition
    | pRecord :: posRecordMap =>
      match call (b.item pRecord) nCountUsed (nBufLen - nCountUsed) s.pszInfo with
      | (none, pszInfo) =>
        .error { s with
          pContext := { s.pContext with posRecordMap := posRecordMap }
          pszInfo := pszInfo
          accesses := s.accesses ++ [.use pRecord] } pRecord
      | (some nCompleteLen, pszInfo) =>
        let s := { s with
          pContext := { s.pContext with
            posRecordMap := posRecordMap, nRawDevSum := s.pContext.nRawDevSum - 1 }
          pszInfo := pszInfo
          accesses := s.accesses ++ [.use pRecord, .give pRecord] }
        if posRecordMap = [] then
          -- the last record
          .through { s with m_oRecordList := [] } (nCountUsed + nCompleteLen)
        else videoLoop left s (nCountUsed + nCompleteLen)

/-- Behind the label `error`. -/
def VideoList.error (s : VideoList ι σ) (pRecord : Option ι) : Int × VideoList ι σ :=
  (-1, { s with
    accesses := s.accesses ++ pRecord.toList.map .give ++ s.pContext.posRecordMap.map .give
    pContext := { s.pContext with posRecordMap := [] }
    m_oRecordList := [] })

def videoPage (s : VideoList ι σ) : Option (Int × VideoList ι σ) :=
  let nRecordSum : Int := s.m_oRecordList.length
  let fresh := s.pContext.posRecordMap.isEmpty
  let s : VideoList ι σ := { s with pContext := s.pContext.start MAX_LIST_LEN s.m_oRecordList }
  if fresh = true ∧ s.pContext.nSurplus = 0 then
    -- no record: an empty body
    match call (b.head nRecordSum nRecordSum) 0 nBufLen s.pszInfo with
    | (none, pszInfo) => some ({ s with pszInfo := pszInfo }.error none)
    | (some nCompleteLen, pszInfo) =>
      match call b.tail nCompleteLen (nBufLen - nCompleteLen) pszInfo with
      | (none, pszInfo) => some ({ s with pszInfo := pszInfo }.error none)
      | (some _, pszInfo) => some (0, { s with pszInfo := pszInfo })
  else if s.pContext.nSurplus ≠ 0 then
    match call (b.head nRecordSum (s.pContext.nListSum MAX_LIST_LEN)) 0 nBufLen s.pszInfo with
    | (none, pszInfo) => some ({ s with pszInfo := pszInfo }.error none)
    | (some nCompleteLen, pszInfo) =>
      match videoLoop call b nBufLen MAX_LIST_LEN { s with pszInfo := pszInfo } nCompleteLen with
      | .noPosition => none
      | .error s pRecord => some (s.error (some pRecord))
      | .through s nCountUsed =>
        match call b.tail nCountUsed (nBufLen - nCountUsed) s.pszInfo with
        | (none, pszInfo) => some ({ s with pszInfo := pszInfo }.error none)
        | (some _, pszInfo) =>
          let nSurplus := s.pContext.nSurplus - 1
          some (nSurplus,
            { s with pContext := { s.pContext with nSurplus := nSurplus }, pszInfo := pszInfo })
  else some (0, s)

/-! ## Calls with one context

Each leaves a page in the buffer; the caller makes the buffer of the next call of it. -/

def catalogCall (page : InfoContext_t ι → σ → Int × InfoContext_t ι × σ) (next : σ → σ)
    (s : InfoContext_t ι × σ) : Option (Int × σ × InfoContext_t ι × σ) :=
  let r := page s.1 s.2
  some (r.1, r.2.2, r.2.1, next r.2.2)

def alarmCall (page : AlarmList ι σ → Option (Int × AlarmList ι σ)) (next : σ → σ)
    (s : AlarmList ι σ) : Option (Int × σ × AlarmList ι σ) :=
  (page s).map fun r => (r.1, r.2.pszInfo, { r.2 with pszInfo := next r.2.pszInfo })

def videoCall (page : VideoList ι σ → Option (Int × VideoList ι σ)) (next : σ → σ)
    (s : VideoList ι σ) : Option (Int × σ × VideoList ι σ) :=
  (page s).map fun r => (r.1, r.2.pszInfo, { r.2 with pszInfo := next r.2.pszInfo })

end loops

/-! ## The four functions -/

abbrev CText := { s : CStr // 0 ∉ s }

/-- `CatalogCollections`, with its catalogues in the order of the map. -/
structure CatalogCollections where
  m_strDeviceID : CText
  needAddRecordCount : Int
  m_catalogMap : List CatalogFields

namespace CatalogCollections

variable (l : Lengths) (printer : ItemDocument → CStr) (c : CatalogCollections) (pstrSN : CText)

/-- What is set in a catalogue before it is written. -/
def listed (pCatalog : CatalogFields) : CatalogFields :=
  let pCatalog := { pCatalog with m_strStatus := str "ON", m_strOperateType := str "ADD" }
  if pCatalog.m_strParentID = [] ∨ pCatalog.m_strParentID.length ≠ 20 then
    { pCatalog with m_strParentID := c.m_strDeviceID, m_strChnNum := str "0" }
  else pCatalog

def catalogBuilders : PageBuilders CatalogFields where
  head := createCatalogHead l pstrSN c.m_strDeviceID
  -- `AddCatalogBody`, which the map gives no null pointer
  item pCatalog := printed (printer (catalogDocument (c.listed pCatalog)))
  tail := completeCatalog

def GetCatalogBodyContent {σ : Type} (MAX_LIST_LEN : Nat) (call : BuilderCall σ) (nBufLen : Int)
    (pContext : InfoContext_t CatalogFields) (pszInfo : σ) :
    Int × InfoContext_t CatalogFields × σ :=
  catalogPage MAX_LIST_LEN call (c.catalogBuilders l printer pstrSN) nBufLen c.m_catalogMap
    (c.m_catalogMap.length + c.needAddRecordCount) pContext pszInfo

/-- What `GetNotifyCatalogInfo` sets. -/
def notified (type : CStr) (pCatalog : CatalogFields) : CatalogFields :=
  let pCatalog := if pCatalog.m_strStatus = [] then { pCatalog with m_strStatus := str "ON" }
    else pCatalog
  let pCatalog := { pCatalog with m_strOperateType := type }
  if pCatalog.m_strParentID = [] then { pCatalog with m_strParentID := c.m_strDeviceID }
  else pCatalog

def notifyBuilders (type : CStr) : PageBuilders CatalogFields where
  head := createNotifyCatalogHead l pstrSN c.m_strDeviceID
  -- `AddNotifyCatalogBody`
  item pCatalog := printed (printer (notifyDocument (c.notified type pCatalog)))
  tail := completeNotifyCatalog

def GetNotifyCatalogInfo {σ : Type} (type : CStr) (MAX_LIST_LEN : Nat) (call : BuilderCall σ)
    (nBufLen : Int) (pContext : InfoContext_t CatalogFields) (pszInfo : σ) :
    Int × InfoContext_t CatalogFields × σ :=
  catalogPage MAX_LIST_LEN call (c.notifyBuilders l printer pstrSN type) nBufLen c.m_catalogMap
    c.m_catalogMap.length pContext pszInfo

end CatalogCollections

structure AlarmRecordItem where
  m_strPriority : CText
  m_nAlarmMethord : Int
  m_strTime : CText
  m_Description : CText
  m_strLongitude : CText
  m_strLatitude : CText
  m_nAlarmType : Int
  m_strAlarmStatus : CText

/-- `AlarmRecordsMgr`, but for its list. -/
structure AlarmRecordsMgr where
  m_strDeviceID : CText

def AlarmRecordsMgr.builders (l : Lengths) (mgr : AlarmRecordsMgr) (pstrSN : CText) :
    PageBuilders AlarmRecordItem where
  head := createAlarmRecordHead l pstrSN mgr.m_strDeviceID (str "OK")
  item pRecord := addAlarmRecordBody l (some mgr.m_strDeviceID.val)
    (some pRecord.m_strPriority.val) (some (formatInt pRecord.m_nAlarmMethord))
    (some pRecord.m_strTime.val) (some pRecord.m_Description.val) pRecord.m_strLongitude.val
    pRecord.m_strLatitude.val (some (formatInt pRecord.m_nAlarmType))
    (some pRecord.m_strAlarmStatus.val)
  tail := completeAlarmRecord

def AlarmRecordsMgr.GetCatalogBodyContent {σ : Type} (l : Lengths) (mgr : AlarmRecordsMgr)
    (pstrSN : CText) (MAX_LIST_LEN : Nat) (call : BuilderCall σ) (nBufLen : Int)
    (s : AlarmList AlarmRecordItem σ) : Option (Int × AlarmList AlarmRecordItem σ) :=
  alarmPage MAX_LIST_LEN call (mgr.builders l pstrSN) nBufLen s

structure VideoRecordItem where
  m_eRecordType : Fin 4
  m_szRecordAddr : CText
  fileName : CText
  filePath : CText
  fileSize : CText
  recordId : CText
  m_szStartTime : CText
  m_szEndTime : CText
  deriving DecidableEq

/-- `VideoRecordsSeachMgr`, but for its list. -/
structure VideoRecordsSeachMgr where
  m_strDeviceID : CText
  m_strDeviceName : CText

/-- The builders for records that are reached through a pointer. -/
def VideoRecordsSeachMgr.builders {ι : Type} (l : Lengths) (mgr : VideoRecordsSeachMgr)
    (pstrSN : CText) (record : ι → VideoRecordItem) : PageBuilders ι where
  head := createRecordHead l pstrSN mgr.m_strDeviceID mgr.m_strDeviceName
  item pRecord := addRecordBodyShengtong l (some mgr.m_strDeviceID.val)
    (some (record pRecord).fileName.val) (some (record pRecord).m_szStartTime.val)
    (some (record pRecord).m_szEndTime.val) (some (record pRecord).m_szRecordAddr.val)
    (some (record pRecord).filePath.val) (some (record pRecord).fileSize.val)
    (some (record pRecord).recordId.val) (record pRecord).m_eRecordType 0
  tail := completeRecord

def VideoRecordsSeachMgr.GetCatalogBodyContent {ι σ : Type} (l : Lengths)
    (mgr : VideoRecordsSeachMgr) (pstrSN : CText) (record : ι → VideoRecordItem)
    (MAX_LIST_LEN : Nat) (call : BuilderCall σ) (nBufLen : Int) (s : VideoList ι σ) :
    Option (Int × VideoList ι σ) :=
  videoPage MAX_LIST_LEN call (mgr.builders l pstrSN record) nBufLen s

end GB28181.Platform.PageLoops
