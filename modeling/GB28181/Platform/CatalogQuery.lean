import Mathlib.Data.List.Perm.Basic
import GB28181.Base.Cursor
import GB28181.Base.Map
import GB28181.Platform.XMLBodyBuilder

/-!
# Answering a catalogue query (`DevInfo/DevInfo.cpp`, `DevInfo/ChannelInfo.h`)

`SendAllCatalog` answers a query for the platform's catalogue with one message for each item: the
platform, the virtual directories, the devices whose type is enabled for push.  Each message
announces the total.

* `getNextCatalog` — the cursor of a collection: `lists_items`, it gives every entry once;
* `sendAllCatalog` — the three senders, with the body buffer `SendPlatformCatalog` leaves in the
  message read as a collection by `SendVirtualCatalog`;
* `answeredCompletely_iff` — **when a query is answered completely**: every type is enabled, the
  bytes of that buffer read as the virtual directories, and every text fits its buffers.

What SIPCOM does with a message once it is pushed is not the subject here.
-/

set_option autoImplicit false

namespace GB28181.Platform

open GB28181.Base GB28181.Base.Proc

/-! ## Collections -/

/-- `InfoContext_t`: the fields `GetNextCatalog` uses.  A position is the index of the association
that comes next. -/
structure InfoContext where
  posRecordMap : Option Nat
  nRawDevSum : Nat

/-- `InfoContext()`. -/
def InfoContext.init : InfoContext := ⟨none, 0⟩

/-- `CatalogCollections`: the associations in the order the table enumerates them. -/
structure CatalogCollections where
  m_catalogMap : List (CStr × CatalogItem)

namespace CatalogCollections

def getRecordCount (c : CatalogCollections) : Nat := c.m_catalogMap.length

def items (c : CatalogCollections) : List CatalogItem := c.m_catalogMap.map Prod.snd

def getStartPosition (c : CatalogCollections) : Option Nat :=
  if c.m_catalogMap.length = 0 then none else some 0

def getNextCatalog (c : CatalogCollections) (pContext : InfoContext) :
    Option CatalogItem × InfoContext :=
  let nRecordSum := c.m_catalogMap.length
  let posRecordMap := pContext.posRecordMap.or c.getStartPosition
  if nRecordSum > pContext.nRawDevSum then
    (posRecordMap.bind fun pos => (c.m_catalogMap[pos]?).map Prod.snd,
      ⟨posRecordMap.bind fun pos => if pos + 1 < nRecordSum then some (pos + 1) else none,
        pContext.nRawDevSum + 1⟩)
  else (none, ⟨posRecordMap, pContext.nRawDevSum⟩)

theorem length_items (c : CatalogCollections) : c.items.length = c.getRecordCount :=
  List.length_map _

/-- After `k` items the cursor gives the others.  When none is left its position restarts, and
only the count of items ends the enumeration. -/
theorem lists_from (c : CatalogCollections) {k : Nat} {pContext : InfoContext}
    (hcount : pContext.nRawDevSum = k)
    (hpos : k < c.m_catalogMap.length → pContext.posRecordMap.or c.getStartPosition = some k) :
    Lists c.getNextCatalog pContext (c.items.drop k) := by
  generalize hn : c.m_catalogMap.length - k = n
  induction n generalizing k pContext with
  | zero =>
    have hdrop : c.items.drop k = [] := by
      apply List.drop_eq_nil_of_le
      rw [length_items, getRecordCount]
      omega
    have hend : ¬ c.m_catalogMap.length > pContext.nRawDevSum := by omega
    rw [hdrop]
    apply Lists.done
    rw [getNextCatalog, if_neg hend]
  | succ n ih =>
    have hk : k < c.m_catalogMap.length := by omega
    have hk' : k < c.items.length := by rw [length_items]; exact hk
    have hmore : c.m_catalogMap.length > pContext.nRawDevSum := by omega
    have hstep : c.getNextCatalog pContext =
        (some (c.items.get ⟨k, hk'⟩),
          ⟨if k + 1 < c.m_catalogMap.length then some (k + 1) else none, k + 1⟩) := by
      rw [getNextCatalog, if_pos hmore, hpos hk, hcount]
      simp [items, hk]
    rw [List.drop_eq_getElem_cons hk']
    apply Lists.item (by rw [hstep]; rfl)
    rw [hstep]
    refine ih (k := k + 1) rfl ?_ (by omega)
    intro hk1
    rw [if_pos hk1]
    rfl

/-- **The cursor gives every entry once.** -/
theorem lists_items (c : CatalogCollections) :
    Lists c.getNextCatalog InfoContext.init c.items := by
  have hpos : 0 < c.m_catalogMap.length →
      InfoContext.init.posRecordMap.or c.getStartPosition = some 0 := by
    intro hlen
    have hne : c.m_catalogMap.length ≠ 0 := by omega
    rw [getStartPosition, if_neg hne]
    rfl
  have h := c.lists_from (k := 0) rfl hpos
  rwa [List.drop_zero] at h

end CatalogCollections

/-! ## Messages -/

/-- A body buffer that `CreateContent` has filled. -/
structure CBigFile where
  bdType : XMLBodyType
  content : XMLBodyContent
  text : CStr
  created : createContent bdType content = some text

/-- What `GetSearchData` points to. -/
inductive SearchData
  | null
  | catalogs (c : CatalogCollections)
  | body (f : CBigFile)

/-- The operations of a message that matter here. -/
inductive ModAction
  | queryInfo | queryResult
  deriving DecidableEq

/-- `CModMessage`; `deviceID` is what `GetDeviceID` returns. -/
structure CModMessage where
  szSN : CStr
  deviceID : CStr
  pData : SearchData
  eModAction : ModAction

/-- The message with a body mounted, as a result. -/
def CModMessage.filled (pMsg : CModMessage) (pBodyBuf : CBigFile) : CModMessage :=
  { pMsg with pData := .body pBodyBuf, eModAction := .queryResult }

/-- The end of a call that does not return: `sprintf_s` ends the process, a buffer read as a
collection faults, a loop goes on. -/
inductive QueryFault
  | invalidParameter | badAccess | endless
  deriving DecidableEq

/-- What the allocator and the memory behind it contribute: the copy of a message, and the
collection that the members of `CatalogCollections` read in the bytes of a body buffer. -/
structure CatalogEnv where
  cloneMessage : CModMessage → CModMessage
  reinterpret : CBigFile → Option CatalogCollections

/-- The members of `CDevInfo` the senders use.  A value of `m_CatalogPush` is a pointer. -/
structure CDevInfo where
  m_GBDevTypeNameMap : Map GBDevice_T CStr
  m_CatalogPush : Map CStr (Option CStr)
  m_CatalogCollections : CatalogCollections
  m_devVirtual : CatalogCollections
  str_GatewayName : CStr

/-- A call of `CDevInfo`, its effects the messages pushed to SIPCOM. -/
abbrev Sender (α : Type) := Proc CDevInfo CModMessage QueryFault α

/-! ## The senders -/

/-- `CreateContent` into a new buffer. -/
def createBody (bdType : XMLBodyType) (body : XMLBodyContent) : Except QueryFault CBigFile :=
  match h : createContent bdType body with
  | some text => .ok ⟨bdType, body, text, h⟩
  | none => .error .invalidParameter

/-- The steps the senders share: mount a new buffer, fill it, set the operation, push. -/
def pushBody (pMsg : CModMessage) (xmlType : XMLBodyType) (body : XMLBodyContent) :
    Sender CModMessage := do
  let pBodyBuf ← lift (createBody xmlType body)
  emit (pMsg.filled pBodyBuf)
  pure (pMsg.filled pBodyBuf)

/-- The body `SendPlatformCatalog` builds. -/
def platformContent (dev : CDevInfo) (pUnifiedMsg : CModMessage) (recordCount : Nat) :
    XMLBodyContent :=
  .platform (CPlatformCatalogContent.ofName (some dev.str_GatewayName) pUnifiedMsg.deviceID
    pUnifiedMsg.szSN (pUnifiedMsg.deviceID.take 6) recordCount)

/-- The body `SendVirtualCatalog` builds for an entry. -/
def virtualContent (deviceID strSN : CStr) (recordCount : Nat) (curCatalog : CatalogItem) :
    XMLBodyContent := .virtual ⟨deviceID, strSN, recordCount, [curCatalog]⟩

/-- The body `SendDeviceCatalogAll` builds for an entry. -/
def deviceContent (deviceID strSN : CStr) (recordCount : Nat) (myType : CatalogEventType)
    (curCatalog : CatalogItem) : XMLBodyContent :=
  .device ⟨deviceID, strSN, recordCount, [curCatalog], myType⟩

/-- `SendPlatformCatalog`: it pushes the query message itself, which the caller goes on to use. -/
def sendPlatformCatalog (pUnifiedMsg : CModMessage) (recordCount : Nat) : Sender CModMessage := do
  let dev ← get
  pushBody pUnifiedMsg .response (platformContent dev pUnifiedMsg recordCount)

variable (E : CatalogEnv)

/-- `reinterpret_cast<CatalogCollections*>(pUnifiedMsg->GetSearchData())`, `none` for a null
pointer. -/
def CatalogEnv.asCatalogCollections : SearchData → Except QueryFault (Option CatalogCollections)
  | .null => .ok none
  | .catalogs c => .ok (some c)
  | .body f =>
    match E.reinterpret f with
    | some c => .ok (some c)
    | none => .error .badAccess

/-- A turn of the loop of `SendVirtualCatalog`. -/
def virtualTurn (pUnifiedMsg : CModMessage) (recordCount : Nat) (curCatalog : CatalogItem) :
    Sender Bool := do
  let tmpUnifiedMsg := E.cloneMessage pUnifiedMsg
  let _ ← pushBody tmpUnifiedMsg .response
    (virtualContent tmpUnifiedMsg.deviceID pUnifiedMsg.szSN recordCount curCatalog)
  pure true

def sendVirtualCatalog (fuel : Nat) (pUnifiedMsg : CModMessage) (recordCount : Nat) :
    Sender Unit := do
  let virtualInfo ← lift (E.asCatalogCollections pUnifiedMsg.pData)
  match virtualInfo with
  | none => pure ()
  | some virtualInfo =>
    visit virtualInfo.getNextCatalog .endless (virtualTurn E pUnifiedMsg recordCount) fuel
      (virtualInfo.getNextCatalog InfoContext.init)

/-- `m_GBDevTypeNameMap[type]`. -/
def devTypeName (type : GBDevice_T) : Sender CStr := do
  let dev ← get
  update fun dev => { dev with m_GBDevTypeNameMap := dev.m_GBDevTypeNameMap.touch type [] }
  pure (dev.m_GBDevTypeNameMap.index type [])

/-- `m_CatalogPush[strName]`. -/
def catalogPush (strName : CStr) : Sender (Option CStr) := do
  let dev ← get
  update fun dev => { dev with m_CatalogPush := dev.m_CatalogPush.touch strName none }
  pure (dev.m_CatalogPush.index strName none)

/-- A turn of the loop of `SendDeviceCatalogAll`; the next entry is read on the one branch only. -/
def deviceTurn (pMsg : CModMessage) (recordCount : Nat) (myType : CatalogEventType)
    (xmlType : XMLBodyType) (curCatalog : CatalogItem) : Sender Bool := do
  let strName ← devTypeName curCatalog.eGBDeviceType
  let push ← catalogPush strName
  if push.isSome then
    let pModMsg := E.cloneMessage pMsg
    let _ ← pushBody pModMsg xmlType
      (deviceContent pModMsg.deviceID pMsg.szSN recordCount myType curCatalog)
    pure true
  else pure false

def sendDeviceCatalogAll (fuel : Nat) (pMsg : CModMessage) (recordCount : Nat)
    (myType : CatalogEventType) : Sender Unit := do
  let xmlType : XMLBodyType := if myType ≠ .none ∧ myType ≠ .error then .notify else .response
  let dev ← get
  let recordCount :=
    if recordCount = 0 then dev.m_CatalogCollections.getRecordCount else recordCount
  visit dev.m_CatalogCollections.getNextCatalog .endless
    (deviceTurn E pMsg recordCount myType xmlType) fuel
    (dev.m_CatalogCollections.getNextCatalog InfoContext.init)

def sendAllCatalog (fuel : Nat) (pUnifiedMsg : CModMessage) : Sender Unit := do
  let dev ← get
  let deviceCount := dev.m_CatalogCollections.getRecordCount
  let recordCount := 1 + deviceCount
  let virtualCount := dev.m_devVirtual.getRecordCount
  let recordCount := if virtualCount > 0 then recordCount + virtualCount else recordCount
  let pUnifiedMsg ← sendPlatformCatalog pUnifiedMsg recordCount
  sendVirtualCatalog E fuel pUnifiedMsg recordCount
  sendDeviceCatalogAll E fuel pUnifiedMsg recordCount .none

/-! ## What the senders push -/

inductive ResponseItem
  | platform (deviceID : CStr)
  | virtual (catalog : CatalogItem)
  | device (catalog : CatalogItem)
  deriving DecidableEq

def XMLBodyContent.items : XMLBodyContent → List ResponseItem
  | .platform c => [.platform c.m_deviceID]
  | .virtual c => c.m_catalogList.map .virtual
  | .device c => c.m_catalogList.map .device

def CModMessage.items (msg : CModMessage) : List ResponseItem :=
  match msg.pData with
  | .body f => f.content.items
  | _ => []

/-- The message is a response with the given total, which stands in its text. -/
def CModMessage.Announces (msg : CModMessage) (total : Nat) : Prop :=
  msg.eModAction = .queryResult ∧
    ∃ f, msg.pData = .body f ∧ f.bdType = .response ∧ f.content.sumNum = total ∧
      sumNumLine total <:+: f.text

/-- The items of all the messages pushed. -/
def responseItems (pushed : List CModMessage) : List ResponseItem :=
  pushed.flatMap CModMessage.items

/-- The type of the entry is enabled for push. -/
def Enabled (dev : CDevInfo) (item : CatalogItem) : Bool :=
  (dev.m_CatalogPush.index (dev.m_GBDevTypeNameMap.index item.eGBDeviceType []) none).isSome

def expectedItems (dev : CDevInfo) (deviceID : CStr) : List ResponseItem :=
  .platform deviceID :: (dev.m_devVirtual.items.map .virtual ++
    (dev.m_CatalogCollections.items.filter (Enabled dev)).map .device)

theorem createBody_eq_ok {bdType : XMLBodyType} {body : XMLBodyContent} {f : CBigFile}
    (h : createBody bdType body = .ok f) : f.bdType = bdType ∧ f.content = body := by
  unfold createBody at h
  split at h
  · obtain rfl := Except.ok.inj h
    exact ⟨rfl, rfl⟩
  · cases h

theorem run_pushBody {pMsg : CModMessage} {xmlType : XMLBodyType} {body : XMLBodyContent}
    {f : CBigFile} (h : createBody xmlType body = .ok f) (dev : CDevInfo) :
    pushBody pMsg xmlType body dev = ⟨[pMsg.filled f], dev, .ok (pMsg.filled f)⟩ := by
  unfold pushBody
  rw [run_bind, run_lift, h]
  rfl

theorem run_pushBody_error {pMsg : CModMessage} {xmlType : XMLBodyType} {body : XMLBodyContent}
    {fault : QueryFault} (h : createBody xmlType body = .error fault) (dev : CDevInfo) :
    pushBody pMsg xmlType body dev = ⟨[], dev, .error fault⟩ := by
  unfold pushBody
  rw [run_bind, run_lift, h]

/-! ## The turns of the loops -/

/-- The same collections, and every later `operator[]` reads the same. -/
structure Agrees (dev dev' : CDevInfo) : Prop where
  collections : dev'.m_CatalogCollections = dev.m_CatalogCollections
  names : ∀ type, dev'.m_GBDevTypeNameMap.index type [] = dev.m_GBDevTypeNameMap.index type []
  push : ∀ name, dev'.m_CatalogPush.index name none = dev.m_CatalogPush.index name none

/-- What the shared steps push, for the result of filling the buffer. -/
def pushedBy (pMsg : CModMessage) : Except QueryFault CBigFile → List CModMessage
  | .ok f => [pMsg.filled f]
  | .error _ => []

/-- A body is filled in: the loop reads on. -/
def readsOn (created : Except QueryFault CBigFile) : Except QueryFault Bool :=
  created.map fun _ => true

/-- The buffer a turn of `SendVirtualCatalog` fills. -/
def virtualBody (pUnifiedMsg : CModMessage) (recordCount : Nat) (curCatalog : CatalogItem) :
    Except QueryFault CBigFile :=
  createBody .response (virtualContent (E.cloneMessage pUnifiedMsg).deviceID pUnifiedMsg.szSN
    recordCount curCatalog)

/-- The buffer a turn of `SendDeviceCatalogAll` fills in answer to a query. -/
def deviceBody (pMsg : CModMessage) (recordCount : Nat) (curCatalog : CatalogItem) :
    Except QueryFault CBigFile :=
  createBody .response (deviceContent (E.cloneMessage pMsg).deviceID pMsg.szSN recordCount .none
    curCatalog)

theorem Agrees.refl (dev : CDevInfo) : Agrees dev dev := ⟨rfl, fun _ => rfl, fun _ => rfl⟩

theorem run_devTypeName (type : GBDevice_T) (dev : CDevInfo) :
    devTypeName type dev =
      ⟨[], { dev with m_GBDevTypeNameMap := dev.m_GBDevTypeNameMap.touch type [] },
        .ok (dev.m_GBDevTypeNameMap.index type [])⟩ := rfl

theorem run_catalogPush (strName : CStr) (dev : CDevInfo) :
    catalogPush strName dev =
      ⟨[], { dev with m_CatalogPush := dev.m_CatalogPush.touch strName none },
        .ok (dev.m_CatalogPush.index strName none)⟩ := rfl

theorem Agrees.touch {dev dev' : CDevInfo} (h : Agrees dev dev') (type : GBDevice_T)
    (strName : CStr) :
    Agrees dev { dev' with
      m_GBDevTypeNameMap := dev'.m_GBDevTypeNameMap.touch type []
      m_CatalogPush := dev'.m_CatalogPush.touch strName none } where
  collections := h.collections
  names type' := by
    rw [Map.index_touch_other]
    exact h.names type'
  push name := by
    rw [Map.index_touch_other]
    exact h.push name

theorem acts_virtualTurn (P : CDevInfo → Prop) (pUnifiedMsg : CModMessage) (recordCount : Nat) :
    Acts P (virtualTurn E pUnifiedMsg recordCount)
      (fun item =>
        pushedBy (E.cloneMessage pUnifiedMsg) (virtualBody E pUnifiedMsg recordCount item))
      (fun item => readsOn (virtualBody E pUnifiedMsg recordCount item)) := by
  have hrun : ∀ item dev, virtualTurn E pUnifiedMsg recordCount item dev =
      ⟨pushedBy (E.cloneMessage pUnifiedMsg) (virtualBody E pUnifiedMsg recordCount item), dev,
        readsOn (virtualBody E pUnifiedMsg recordCount item)⟩ := by
    intro item dev
    unfold virtualTurn
    cases hbody : virtualBody E pUnifiedMsg recordCount item with
    | error fault => rw [run_bind, run_pushBody_error hbody]; rfl
    | ok f => rw [run_bind, run_pushBody hbody]; rfl
  constructor
  · intro item dev _
    rw [hrun]
  · intro item dev _
    rw [hrun]
  · intro item dev h
    rw [hrun]
    exact h

theorem run_deviceTurn {dev dev' : CDevInfo} (h : Agrees dev dev') (pMsg : CModMessage)
    (recordCount : Nat) (item : CatalogItem) :
    let turn := deviceTurn E pMsg recordCount .none .response item dev'
    turn.out = (if Enabled dev item then
        pushedBy (E.cloneMessage pMsg) (deviceBody E pMsg recordCount item) else []) ∧
      turn.val = (if Enabled dev item then
        readsOn (deviceBody E pMsg recordCount item) else .ok false) ∧
      Agrees dev turn.state := by
  intro turn
  have hpush : (dev'.m_CatalogPush.index
      (dev'.m_GBDevTypeNameMap.index item.eGBDeviceType []) none).isSome = Enabled dev item := by
    rw [h.names, h.push, Enabled]
  have hagrees := h.touch item.eGBDeviceType
    (dev'.m_GBDevTypeNameMap.index item.eGBDeviceType [])
  have hturn : turn = deviceTurn E pMsg recordCount .none .response item dev' := rfl
  unfold deviceTurn at hturn
  rw [run_bind, run_devTypeName] at hturn
  dsimp only at hturn
  rw [run_bind, run_catalogPush] at hturn
  dsimp only at hturn
  rw [hpush] at hturn
  rw [hturn]
  by_cases henabled : Enabled dev item = true
  · simp only [henabled, if_true]
    cases hbody : deviceBody E pMsg recordCount item with
    | error fault =>
      rw [run_bind, run_pushBody_error hbody]
      exact ⟨rfl, rfl, hagrees⟩
    | ok f =>
      rw [run_bind, run_pushBody hbody]
      exact ⟨rfl, rfl, hagrees⟩
  · simp only [henabled]
    exact ⟨rfl, rfl, hagrees⟩

theorem acts_deviceTurn (dev : CDevInfo) (pMsg : CModMessage) (recordCount : Nat) :
    Acts (Agrees dev) (deviceTurn E pMsg recordCount .none .response)
      (fun item => if Enabled dev item then
        pushedBy (E.cloneMessage pMsg) (deviceBody E pMsg recordCount item) else [])
      (fun item => if Enabled dev item then
        readsOn (deviceBody E pMsg recordCount item) else .ok false) where
  out_eq item _ h := (run_deviceTurn E h pMsg recordCount item).1
  val_eq item _ h := (run_deviceTurn E h pMsg recordCount item).2.1
  keeps item _ h := (run_deviceTurn E h pMsg recordCount item).2.2

/-! ## Complete answers -/

/-- `recordCount` of `SendAllCatalog`. -/
def announced (dev : CDevInfo) : Nat :=
  1 + dev.m_CatalogCollections.getRecordCount + dev.m_devVirtual.getRecordCount

theorem sendAllCatalog_eq (fuel : Nat) (pUnifiedMsg : CModMessage) (dev : CDevInfo) :
    sendAllCatalog E fuel pUnifiedMsg dev =
      (sendPlatformCatalog pUnifiedMsg (announced dev) >>= fun pUnifiedMsg =>
        sendVirtualCatalog E fuel pUnifiedMsg (announced dev) >>= fun _ =>
          sendDeviceCatalogAll E fuel pUnifiedMsg (announced dev) .none) dev := by
  have hcount : (if dev.m_devVirtual.getRecordCount > 0 then
      1 + dev.m_CatalogCollections.getRecordCount + dev.m_devVirtual.getRecordCount
      else 1 + dev.m_CatalogCollections.getRecordCount) = announced dev := by
    unfold announced
    split <;> omega
  rw [← hcount]
  unfold sendAllCatalog
  rw [run_get_bind]

theorem run_sendPlatformCatalog {pUnifiedMsg : CModMessage} {recordCount : Nat} {dev : CDevInfo}
    {f : CBigFile}
    (h : createBody .response (platformContent dev pUnifiedMsg recordCount) = .ok f) :
    sendPlatformCatalog pUnifiedMsg recordCount dev =
      ⟨[pUnifiedMsg.filled f], dev, .ok (pUnifiedMsg.filled f)⟩ := by
  unfold sendPlatformCatalog
  rw [run_get_bind, run_pushBody h]

theorem run_sendVirtualCatalog {pUnifiedMsg : CModMessage} {f : CBigFile} {c : CatalogCollections}
    (h : E.reinterpret f = some c) (fuel recordCount : Nat) (dev : CDevInfo) :
    sendVirtualCatalog E fuel (pUnifiedMsg.filled f) recordCount dev =
      visit c.getNextCatalog .endless (virtualTurn E (pUnifiedMsg.filled f) recordCount) fuel
        (c.getNextCatalog InfoContext.init) dev := by
  have hcast : E.asCatalogCollections (pUnifiedMsg.filled f).pData = .ok (some c) := by
    simp only [CModMessage.filled, CatalogEnv.asCatalogCollections, h]
  unfold sendVirtualCatalog
  rw [hcast, run_lift_bind_ok]

theorem run_sendDeviceCatalogAll (fuel : Nat) (pMsg : CModMessage) {recordCount : Nat}
    (h : recordCount ≠ 0) (dev : CDevInfo) :
    sendDeviceCatalogAll E fuel pMsg recordCount .none dev =
      visit dev.m_CatalogCollections.getNextCatalog .endless
        (deviceTurn E pMsg recordCount .none .response) fuel
        (dev.m_CatalogCollections.getNextCatalog InfoContext.init) dev := by
  unfold sendDeviceCatalogAll
  rw [run_get_bind, if_neg h]
  rfl

/-- The senders leave every loop: the body buffer of the platform's message reads as `c`, and
every entry visited is pushed. -/
structure Leaves (dev : CDevInfo) (pUnifiedMsg : CModMessage) (f : CBigFile)
    (c : CatalogCollections) : Prop where
  platform : createBody .response (platformContent dev pUnifiedMsg (announced dev)) = .ok f
  reads : E.reinterpret f = some c
  virtuals : ∀ item ∈ c.items,
    readsOn (virtualBody E (pUnifiedMsg.filled f) (announced dev) item) = .ok true
  enabled : ∀ item ∈ dev.m_CatalogCollections.items, Enabled dev item = true
  devices : ∀ item ∈ dev.m_CatalogCollections.items,
    readsOn (deviceBody E (pUnifiedMsg.filled f) (announced dev) item) = .ok true

def pushedAll (dev : CDevInfo) (pUnifiedMsg : CModMessage) (f : CBigFile)
    (c : CatalogCollections) : List CModMessage :=
  let pMsg := pUnifiedMsg.filled f
  pMsg ::
    (c.items.flatMap (fun item =>
        pushedBy (E.cloneMessage pMsg) (virtualBody E pMsg (announced dev) item)) ++
      dev.m_CatalogCollections.items.flatMap fun item =>
        pushedBy (E.cloneMessage pMsg) (deviceBody E pMsg (announced dev) item))

theorem announced_ne_zero (dev : CDevInfo) : announced dev ≠ 0 := by
  unfold announced
  omega

theorem sendAllCatalog_returns {dev : CDevInfo} {pUnifiedMsg : CModMessage} {f : CBigFile}
    {c : CatalogCollections} (h : Leaves E dev pUnifiedMsg f c) :
    ∃ fuel, Proc.Returns (sendAllCatalog E fuel pUnifiedMsg) dev := by
  let pMsg := pUnifiedMsg.filled f
  let fuel := max c.items.length dev.m_CatalogCollections.items.length
  have hvirtual := acts_virtualTurn E (Agrees dev) pMsg (announced dev)
  have hdevice := acts_deviceTurn E dev pMsg (announced dev)
  have hreturns : Proc.Returns (visit c.getNextCatalog QueryFault.endless
      (virtualTurn E pMsg (announced dev)) fuel (c.getNextCatalog InfoContext.init)) dev :=
    visit_returns hvirtual c.lists_items h.virtuals (Nat.le_max_left _ _) (Agrees.refl dev)
  have hstate := (visit_returned hvirtual c.lists_items (Agrees.refl dev) hreturns).2.2
  obtain ⟨u, hu⟩ := hreturns
  refine ⟨fuel, ?_⟩
  unfold Proc.Returns
  rw [sendAllCatalog_eq, run_bind, run_sendPlatformCatalog h.platform]
  dsimp only
  rw [← run_sendVirtualCatalog E h.reads] at hu hstate
  rw [run_bind_of_ok hu]
  dsimp only
  rw [run_sendDeviceCatalogAll E _ _ (announced_ne_zero dev), hstate.collections]
  refine visit_returns hdevice dev.m_CatalogCollections.lists_items ?_ (Nat.le_max_right _ _) hstate
  intro item hitem
  rw [if_pos (h.enabled item hitem)]
  exact h.devices item hitem

/-- **A call that returned** has left every loop, and has pushed one message for the platform and
one for each entry visited. -/
theorem sendAllCatalog_returned {fuel : Nat} {dev : CDevInfo} {pUnifiedMsg : CModMessage}
    (hr : Proc.Returns (sendAllCatalog E fuel pUnifiedMsg) dev) :
    ∃ f c, Leaves E dev pUnifiedMsg f c ∧
      (sendAllCatalog E fuel pUnifiedMsg dev).out = pushedAll E dev pUnifiedMsg f c := by
  unfold Proc.Returns at hr
  rw [sendAllCatalog_eq] at hr ⊢
  cases hplatform : createBody .response (platformContent dev pUnifiedMsg (announced dev)) with
  | error fault =>
    have hrun : sendPlatformCatalog pUnifiedMsg (announced dev) dev = ⟨[], dev, .error fault⟩ := by
      unfold sendPlatformCatalog
      rw [run_get_bind, run_pushBody_error hplatform]
    rw [run_bind, hrun] at hr
    obtain ⟨_, he⟩ := hr
    cases he
  | ok f =>
    rw [run_bind, run_sendPlatformCatalog hplatform] at hr ⊢
    dsimp only at hr ⊢
    obtain ⟨u, hu, hrest⟩ := (returns_bind _ _ dev).mp hr
    rw [run_bind_of_ok hu]
    cases hreads : E.reinterpret f with
    | none =>
      have hcast : E.asCatalogCollections (pUnifiedMsg.filled f).pData = .error .badAccess := by
        simp only [CModMessage.filled, CatalogEnv.asCatalogCollections, hreads]
      unfold sendVirtualCatalog at hu
      rw [run_bind, run_lift, hcast] at hu
      cases hu
    | some c =>
      rw [run_sendVirtualCatalog E hreads] at hu hrest ⊢
      obtain ⟨hvirtuals, hvout, hstate⟩ := visit_returned
        (acts_virtualTurn E (Agrees dev) (pUnifiedMsg.filled f) (announced dev)) c.lists_items
        (Agrees.refl dev) ⟨u, hu⟩
      unfold Proc.Returns at hrest
      rw [run_sendDeviceCatalogAll E _ _ (announced_ne_zero dev), hstate.collections] at hrest ⊢
      obtain ⟨hdevices, hdout, -⟩ := visit_returned
        (acts_deviceTurn E dev (pUnifiedMsg.filled f) (announced dev))
        dev.m_CatalogCollections.lists_items hstate hrest
      have henabled : ∀ item ∈ dev.m_CatalogCollections.items, Enabled dev item = true := by
        intro item hitem
        by_contra h
        have := hdevices item hitem
        rw [if_neg h] at this
        cases this
      refine ⟨f, c, ⟨hplatform, hreads, hvirtuals, henabled, ?_⟩, ?_⟩
      · intro item hitem
        have := hdevices item hitem
        rwa [if_pos (henabled item hitem)] at this
      · have hpushed : dev.m_CatalogCollections.items.flatMap (fun item =>
            if Enabled dev item then pushedBy (E.cloneMessage (pUnifiedMsg.filled f))
              (deviceBody E (pUnifiedMsg.filled f) (announced dev) item) else []) =
            dev.m_CatalogCollections.items.flatMap fun item =>
              pushedBy (E.cloneMessage (pUnifiedMsg.filled f))
                (deviceBody E (pUnifiedMsg.filled f) (announced dev) item) :=
          List.flatMap_congr fun item hitem => if_pos (henabled item hitem)
        rw [hvout, hdout, hpushed, List.singleton_append, pushedAll]

/-- The bodies of the messages behind the platform's. -/
def entryBodies (dev : CDevInfo) (pMsg : CModMessage) : List XMLBodyContent :=
  dev.m_devVirtual.items.map
      (virtualContent (E.cloneMessage pMsg).deviceID pMsg.szSN (announced dev)) ++
    dev.m_CatalogCollections.items.map
      (deviceContent (E.cloneMessage pMsg).deviceID pMsg.szSN (announced dev) .none)

/-- The text of the body fits the buffers it goes through. -/
def Writable (body : XMLBodyContent) : Prop := (createContent .response body).isSome = true

/-- Every device type is enabled, the buffer with the platform's body reads as the virtual
directories, and every text can be written. -/
def Answerable (dev : CDevInfo) (pUnifiedMsg : CModMessage) : Prop :=
  (∀ item ∈ dev.m_CatalogCollections.items, Enabled dev item = true) ∧
    ∃ f c, createBody .response (platformContent dev pUnifiedMsg (announced dev)) = .ok f ∧
      E.reinterpret f = some c ∧ c.items.Perm dev.m_devVirtual.items ∧
      ∀ body ∈ entryBodies E dev (pUnifiedMsg.filled f), Writable body

/-- The call returns, has pushed the items of a complete answer, and every message announces
their number. -/
def AnsweredCompletely (dev : CDevInfo) (pUnifiedMsg : CModMessage) : Prop :=
  ∃ fuel, Proc.Returns (sendAllCatalog E fuel pUnifiedMsg) dev ∧
    let pushed := (sendAllCatalog E fuel pUnifiedMsg dev).out
    (responseItems pushed).Perm (expectedItems dev pUnifiedMsg.deviceID) ∧
      ∀ msg ∈ pushed, msg.Announces (responseItems pushed).length

theorem items_filled (pMsg : CModMessage) (f : CBigFile) :
    (pMsg.filled f).items = f.content.items := rfl

theorem readsOn_createBody (body : XMLBodyContent) :
    readsOn (createBody .response body) = .ok true ↔ Writable body := by
  unfold Writable createBody readsOn
  split
  · rename_i text h
    exact iff_of_true rfl (Option.isSome_iff_exists.mpr ⟨text, h⟩)
  · rename_i h
    exact iff_of_false nofun (by simp [h])

theorem responseItems_pushedBy {msg : CModMessage} {content : CatalogItem → XMLBodyContent}
    {l : List CatalogItem}
    (h : ∀ item ∈ l, readsOn (createBody .response (content item)) = .ok true) :
    responseItems (l.flatMap fun item => pushedBy msg (createBody .response (content item))) =
      l.flatMap fun item => (content item).items := by
  unfold responseItems
  rw [List.flatMap_assoc]
  refine List.flatMap_congr fun item hitem => ?_
  have hitem := h item hitem
  cases hbody : createBody .response (content item) with
  | error fault =>
    rw [hbody] at hitem
    cases hitem
  | ok f =>
    rw [pushedBy, List.flatMap_singleton, items_filled, (createBody_eq_ok hbody).2]

theorem announces_filled {pMsg : CModMessage} {body : XMLBodyContent} {f : CBigFile}
    (h : createBody .response body = .ok f) : (pMsg.filled f).Announces body.sumNum := by
  obtain ⟨htype, rfl⟩ := createBody_eq_ok h
  exact ⟨rfl, f, rfl, htype, rfl, sumNum_of_createContent f.created⟩

theorem announces_pushedBy {pMsg : CModMessage} {body : XMLBodyContent} {total : Nat}
    (h : body.sumNum = total) :
    ∀ msg ∈ pushedBy pMsg (createBody .response body), msg.Announces total := by
  intro msg hmsg
  cases hbody : createBody .response body with
  | error fault =>
    rw [hbody] at hmsg
    cases hmsg
  | ok f =>
    rw [hbody] at hmsg
    obtain rfl := List.mem_singleton.mp hmsg
    rw [← h]
    exact announces_filled hbody

theorem responseItems_pushedAll {dev : CDevInfo} {pUnifiedMsg : CModMessage} {f : CBigFile}
    {c : CatalogCollections} (h : Leaves E dev pUnifiedMsg f c) :
    responseItems (pushedAll E dev pUnifiedMsg f c) =
      .platform pUnifiedMsg.deviceID :: (c.items.map .virtual ++
        dev.m_CatalogCollections.items.map .device) := by
  let pMsg := pUnifiedMsg.filled f
  have hvirtuals : responseItems (c.items.flatMap fun item =>
      pushedBy (E.cloneMessage pMsg) (virtualBody E pMsg (announced dev) item)) =
      c.items.map .virtual := by
    rw [← List.flatMap_pure_eq_map]
    exact responseItems_pushedBy h.virtuals
  have hdevices : responseItems (dev.m_CatalogCollections.items.flatMap fun item =>
      pushedBy (E.cloneMessage pMsg) (deviceBody E pMsg (announced dev) item)) =
      dev.m_CatalogCollections.items.map .device := by
    rw [← List.flatMap_pure_eq_map]
    exact responseItems_pushedBy h.devices
  have hplatform : pMsg.items = [.platform pUnifiedMsg.deviceID] := by
    rw [items_filled, (createBody_eq_ok h.platform).2]
    rfl
  unfold responseItems at hvirtuals hdevices ⊢
  rw [pushedAll, List.flatMap_cons, List.flatMap_append, hplatform, hvirtuals, hdevices,
    List.singleton_append]

theorem announces_pushedAll {dev : CDevInfo} {pUnifiedMsg : CModMessage} {f : CBigFile}
    {c : CatalogCollections} (h : Leaves E dev pUnifiedMsg f c) :
    ∀ msg ∈ pushedAll E dev pUnifiedMsg f c, msg.Announces (announced dev) := by
  intro msg hmsg
  rcases List.mem_cons.mp hmsg with rfl | hmsg
  · exact announces_filled h.platform
  · rcases List.mem_append.mp hmsg with hmsg | hmsg
    · obtain ⟨item, -, hmsg⟩ := List.mem_flatMap.mp hmsg
      exact announces_pushedBy rfl msg hmsg
    · obtain ⟨item, -, hmsg⟩ := List.mem_flatMap.mp hmsg
      exact announces_pushedBy rfl msg hmsg

theorem virtual_injective : Function.Injective ResponseItem.virtual := by
  intro a b h
  cases h
  rfl

/-- Where all types are enabled, the items are those of a complete answer exactly when the
buffer reads as the virtual directories. -/
theorem perm_expectedItems_iff {dev : CDevInfo} {c : CatalogCollections}
    (h : ∀ item ∈ dev.m_CatalogCollections.items, Enabled dev item = true) (deviceID : CStr) :
    (ResponseItem.platform deviceID :: (c.items.map .virtual ++
        dev.m_CatalogCollections.items.map .device)).Perm (expectedItems dev deviceID) ↔
      c.items.Perm dev.m_devVirtual.items := by
  rw [expectedItems, List.filter_eq_self.mpr h, List.perm_cons, List.perm_append_right_iff]
  exact List.map_perm_map_iff virtual_injective

/-- The total announced is the number of items when the buffer reads as many entries as there
are virtual directories. -/
theorem length_responseItems {dev : CDevInfo} {c : CatalogCollections} (deviceID : CStr)
    (h : c.items.Perm dev.m_devVirtual.items) :
    (ResponseItem.platform deviceID :: (c.items.map .virtual ++
      dev.m_CatalogCollections.items.map .device)).length = announced dev := by
  rw [List.length_cons, List.length_append, List.length_map, List.length_map, h.length_eq,
    CatalogCollections.length_items, CatalogCollections.length_items, announced]
  omega

theorem writable_entryBodies_iff {dev : CDevInfo} {c : CatalogCollections} {pMsg : CModMessage}
    (h : c.items.Perm dev.m_devVirtual.items) :
    (∀ body ∈ entryBodies E dev pMsg, Writable body) ↔
      (∀ item ∈ c.items, readsOn (virtualBody E pMsg (announced dev) item) = .ok true) ∧
        ∀ item ∈ dev.m_CatalogCollections.items,
          readsOn (deviceBody E pMsg (announced dev) item) = .ok true := by
  unfold entryBodies virtualBody deviceBody
  simp only [List.forall_mem_append, List.forall_mem_map, readsOn_createBody, h.mem_iff]

/-- **When a platform query is answered completely.** -/
theorem answeredCompletely_iff (dev : CDevInfo) (pUnifiedMsg : CModMessage) :
    AnsweredCompletely E dev pUnifiedMsg ↔ Answerable E dev pUnifiedMsg := by
  constructor
  · rintro ⟨fuel, hreturns, hperm, -⟩
    obtain ⟨f, c, hleaves, hout⟩ := sendAllCatalog_returned E hreturns
    rw [hout, responseItems_pushedAll E hleaves,
      perm_expectedItems_iff hleaves.enabled] at hperm
    exact ⟨hleaves.enabled, f, c, hleaves.platform, hleaves.reads, hperm,
      (writable_entryBodies_iff E hperm).mpr ⟨hleaves.virtuals, hleaves.devices⟩⟩
  · rintro ⟨henabled, f, c, hplatform, hreads, hperm, hwritable⟩
    obtain ⟨hvirtuals, hdevices⟩ := (writable_entryBodies_iff E hperm).mp hwritable
    have hleaves : Leaves E dev pUnifiedMsg f c :=
      ⟨hplatform, hreads, hvirtuals, henabled, hdevices⟩
    obtain ⟨fuel, hreturns⟩ := sendAllCatalog_returns E hleaves
    obtain ⟨f', c', hleaves', hout⟩ := sendAllCatalog_returned E hreturns
    -- the buffer and what it reads as are settled by the query
    obtain rfl : f = f' := Except.ok.inj (hplatform.symm.trans hleaves'.platform)
    obtain rfl : c = c' := Option.some.inj (hreads.symm.trans hleaves'.reads)
    refine ⟨fuel, hreturns, ?_⟩
    dsimp only
    rw [hout, responseItems_pushedAll E hleaves, length_responseItems _ hperm]
    exact ⟨(perm_expectedItems_iff henabled _).mpr hperm, announces_pushedAll E hleaves⟩

/-! ## A type that is not enabled -/

/-- A memory in which body buffers read as empty collections. -/
def plainEnv : CatalogEnv where
  cloneMessage pMsg := pMsg
  reinterpret _ := some ⟨[]⟩

def cameraItem : CatalogItem where
  m_strDeviceID := str "34020000001320000001"
  m_strName := str "Gate"
  m_strManufacturer := []
  m_strModel := []
  m_strOwner := []
  m_strCivilCode := []
  m_strBlock := []
  m_strAddress := []
  m_strParental := []
  m_strParentID := []
  m_strSafetyWay := []
  m_strRegisterWay := []
  m_strCertifiable := []
  m_strErrCode := []
  m_strSecrecy := []
  m_strStatus := []
  m_strLongitude := []
  m_strLatitude := []
  m_strInfoPTZType := []
  eGBDeviceType := 132

/-- One camera, and the names of the types pushed. -/
def oneCamera (pushed : Map CStr (Option CStr)) : CDevInfo where
  m_GBDevTypeNameMap := Finmap.singleton 132 (str "camera")
  m_CatalogPush := pushed
  m_CatalogCollections := ⟨[(str "34020000001320000001", cameraItem)]⟩
  m_devVirtual := ⟨[]⟩
  str_GatewayName := str "Gateway"

def platformQuery : CModMessage where
  szSN := str "17"
  deviceID := str "34020000002000000001"
  pData := .null
  eModAction := .queryInfo

/-- With only `"ipc"` enabled the loop over the devices stays at the camera. -/
theorem camera_not_answered :
    ¬ AnsweredCompletely plainEnv (oneCamera (Finmap.singleton (str "ipc") (some (str "ipc"))))
      platformQuery := by
  rintro ⟨fuel, hreturns, -⟩
  obtain ⟨f, c, hleaves, -⟩ := sendAllCatalog_returned plainEnv hreturns
  have := hleaves.enabled cameraItem List.mem_cons_self
  exact absurd this (by decide)

end GB28181.Platform
