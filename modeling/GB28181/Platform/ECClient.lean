import GB28181.Base.CString
import GB28181.Base.History
import GB28181.Base.Map
import GB28181.Base.Run

/-!
# The connections to the event centres (`SDKCom/EC/ECClient.cpp`)

`m_Connections` has an entry for each server, with the devices that are listened to.  `Connect`,
`DisConnect` and `ListenTo` read it with `operator[]`, which makes an entry where there is none, and
the devices are kept as the pointers that the callers passed.

* `step` — a call; `act`, `answer` — what it does to the entry of its server and what it returns;
* `Follows` — how the entry follows from what was called for the server; `follows_after`;
* `connections_iff` — **exactly when `CheckConection` and `ListenTo` answer as the history says**,
  and that `Connect` always does.
-/

set_option autoImplicit false

namespace GB28181.Platform.EC

open GB28181.Base

/-! ## The client -/

inductive EC_EVENT_RESULT where
  | FALSE_FAIELD
  | TRUE_OK
  | TRUE_DUP
  deriving DecidableEq

/-- `_EC_ConnetionInfo_`.  A pointer is the address it holds. -/
structure EC_CONNETION where
  pszECIP : Nat := 0
  b_Connected : Bool := false
  pszDeviceSets : Finset Nat := ∅

/-- Whether there is a provider, and the connections. -/
structure ECClient where
  m_pConnectionManagerProvider : Bool
  m_Connections : Map CStr EC_CONNETION

def checkConection (c : ECClient) (strECGUID : CStr) : Bool :=
  !c.m_Connections.isEmpty && decide (strECGUID ∈ c.m_Connections)

/-- `AddServer`; `bCreated` and `bAdded` are the answers of `CoCreateInstance` and of the
provider. -/
def addServer (c : ECClient) (lpstrServerIP : Nat) (bCreated bAdded : Bool)
    (lpstrServerID : CStr) : ECClient × EC_EVENT_RESULT :=
  if c.m_pConnectionManagerProvider = false ∧ bCreated = false then (c, .FALSE_FAIELD)
  else if bAdded = false then
    ({ c with m_pConnectionManagerProvider := true }, .FALSE_FAIELD)
  else
    let m := c.m_Connections.modify lpstrServerID {} fun e => { e with pszECIP := lpstrServerIP }
    let m := m.modify lpstrServerID {} fun e => { e with b_Connected := false }
    ({ m_pConnectionManagerProvider := true, m_Connections := m }, .TRUE_OK)

def removeServer (c : ECClient) (lpstrServerID : CStr) : ECClient :=
  if c.m_pConnectionManagerProvider = false then c
  else
    let m := c.m_Connections.modify lpstrServerID {} fun e => { e with pszDeviceSets := ∅ }
    { c with m_Connections := m.erase lpstrServerID }

/-- `Connect`; `bConnected` is the answer of the provider. -/
def connect (c : ECClient) (bConnected : Bool) (lpstrServerID : CStr) :
    ECClient × EC_EVENT_RESULT :=
  if c.m_pConnectionManagerProvider = false then (c, .FALSE_FAIELD)
  else
    let m := c.m_Connections.touch lpstrServerID {}
    if (m.index lpstrServerID {}).b_Connected then ({ c with m_Connections := m }, .TRUE_DUP)
    else if bConnected = false then ({ c with m_Connections := m }, .FALSE_FAIELD)
    else
      let m := m.modify lpstrServerID {} fun e => { e with b_Connected := true }
      ({ c with m_Connections := m }, .TRUE_OK)

def disConnect (c : ECClient) (lpstrServerID : CStr) : ECClient :=
  if c.m_pConnectionManagerProvider = false then c
  else
    let m := c.m_Connections.modify lpstrServerID {} fun e => { e with b_Connected := false }
    { c with m_Connections := m }

/-- `ListenTo`; `bOk` is the answer of the provider. -/
def listenTo (c : ECClient) (lpstrDeviceID : Nat) (bListenTo bOk : Bool) (lpstrServerID : CStr) :
    ECClient × EC_EVENT_RESULT :=
  if c.m_pConnectionManagerProvider = false then (c, .FALSE_FAIELD)
  else if bListenTo then
    let m := c.m_Connections.touch lpstrServerID {}
    let device_sets := (m.index lpstrServerID {}).pszDeviceSets
    if device_sets ≠ ∅ ∧ lpstrDeviceID ∈ device_sets then
      ({ c with m_Connections := m }, .TRUE_DUP)
    else if bOk = false then ({ c with m_Connections := m }, .FALSE_FAIELD)
    else
      let m := m.modify lpstrServerID {} fun e =>
        { e with pszDeviceSets := insert lpstrDeviceID e.pszDeviceSets }
      ({ c with m_Connections := m }, .TRUE_OK)
  else if bOk = false then (c, .FALSE_FAIELD)
  else
    let m := c.m_Connections.modify lpstrServerID {} fun e =>
      { e with pszDeviceSets := e.pszDeviceSets.erase lpstrDeviceID }
    ({ c with m_Connections := m }, .TRUE_OK)

/-! ## Calls -/

/-- What is called for a server, with what the provider answers.  `strDeviceID` is the text in the
buffer at the time of the call. -/
inductive Action where
  | addServer (lpstrServerIP : Nat) (bCreated bAdded : Bool)
  | removeServer
  | connect (bConnected : Bool)
  | disConnect
  | listenTo (lpstrDeviceID : Nat) (strDeviceID : CStr) (bListenTo bOk : Bool)

structure Call where
  lpstrServerID : CStr
  action : Action

/-- The client after a call and what the call returns; the two without a result return
`TRUE_OK`. -/
def step (c : ECClient) (call : Call) : ECClient × EC_EVENT_RESULT :=
  match call.action with
  | .addServer lpstrServerIP bCreated bAdded =>
    addServer c lpstrServerIP bCreated bAdded call.lpstrServerID
  | .removeServer => (removeServer c call.lpstrServerID, .TRUE_OK)
  | .connect bConnected => connect c bConnected call.lpstrServerID
  | .disConnect => (disConnect c call.lpstrServerID, .TRUE_OK)
  | .listenTo lpstrDeviceID _ bListenTo bOk =>
    listenTo c lpstrDeviceID bListenTo bOk call.lpstrServerID

/-- A client without connections; its provider may have been made already. -/
def start (bProvider : Bool) : ECClient := ⟨bProvider, ∅⟩

def after (bProvider : Bool) (h : List Call) : ECClient :=
  run (fun c call => (step c call).1) (start bProvider) h

/-! ## What the history says -/

/-- A call for a server that has returned; `live` says whether there was a provider. -/
structure Event where
  live : Bool
  action : Action
  result : EC_EVENT_RESULT

def eventsOn (s : CStr) (bProvider : Bool) (h : List Call) : List Event :=
  outputs (fun c call => (step c call).1)
    (fun c call => if call.lpstrServerID = s then
      some ⟨c.m_pConnectionManagerProvider, call.action, (step c call).2⟩ else none)
    (start bProvider) h

namespace Event

/-- A successful `AddServer`. -/
def isAdd (e : Event) : Bool :=
  match e.action with
  | .addServer _ _ _ => e.result == .TRUE_OK
  | _ => false

def isRemove (e : Event) : Bool :=
  match e.action with
  | .removeServer => true
  | _ => false

def adds (e : Event) : Option Bool :=
  if e.isAdd then some true else if e.isRemove then some false else none

/-- What makes an entry without adding the server. -/
def touches (e : Event) : Option Bool :=
  match e.action with
  | .addServer _ _ _ => none
  | .removeServer => some false
  | .connect _ => if e.live then some true else none
  | .disConnect => if e.live then some true else none
  | .listenTo _ _ bListenTo _ =>
    if bListenTo then if e.live then some true else none
    else if e.result = .TRUE_OK then some true else none

def connects (e : Event) : Option Bool :=
  match e.action with
  | .addServer _ _ _ => if e.result = .TRUE_OK then some false else none
  | .removeServer => some false
  | .connect _ => if e.result = .TRUE_OK then some true else none
  | .disConnect => some false
  | .listenTo _ _ _ _ => none

/-- A successful `ListenTo` for a device; whether it listens or cancels. -/
def listens (device : Nat → CStr → Bool) (e : Event) : Option Bool :=
  match e.action with
  | .listenTo lpstrDeviceID strDeviceID bListenTo _ =>
    if device lpstrDeviceID strDeviceID ∧ e.result = .TRUE_OK then some bListenTo else none
  | _ => none

attribute [simp] isAdd isRemove adds touches connects listens

end Event

/-- The server was added and not removed since. -/
def Added (l : List Event) : Prop := latest Event.adds l = some true

/-- Since it was removed last, a call other than `AddServer` made an entry for it. -/
def Touched (l : List Event) : Prop := latest Event.touches l = some true

/-- Its last connection was not ended by `DisConnect` or `RemoveServer`, nor begun anew by
`AddServer`. -/
def Connected (l : List Event) : Prop := latest Event.connects l = some true

/-- Since it was added last, it was asked to listen to a device with this ID, and the device was not
cancelled since. -/
def Listened (d : CStr) (l : List Event) : Prop :=
  (∃ e ∈ l, e.isAdd = true) ∧
    latest (Event.listens fun _ d' => d' == d) (since Event.isAdd l) = some true

/-- Since it was removed last, it was asked to listen to a device with its ID in this buffer, and no
device with its ID in this buffer was cancelled since. -/
def ListedAt (p : Nat) (l : List Event) : Prop :=
  latest (Event.listens fun p' _ => p' == p) (since Event.isRemove l) = some true

/-- What was called with this buffer and what was called with this text say the same. -/
def Agree (p : Nat) (d : CStr) (l : List Event) : Prop := ListedAt p l ↔ Listened d l

instance (l : List Event) : Decidable (Added l) := inferInstanceAs (Decidable (_ = _))
instance (l : List Event) : Decidable (Touched l) := inferInstanceAs (Decidable (_ = _))
instance (l : List Event) : Decidable (Connected l) := inferInstanceAs (Decidable (_ = _))
instance (d : CStr) (l : List Event) : Decidable (Listened d l) :=
  inferInstanceAs (Decidable (_ ∧ _))
instance (p : Nat) (l : List Event) : Decidable (ListedAt p l) :=
  inferInstanceAs (Decidable (_ = _))

/-! ## One entry -/

/-- What a call does to the entry of its server, and what it returns. -/
def turn (live : Bool) (e : Option EC_CONNETION) : Action → Option EC_CONNETION × EC_EVENT_RESULT
  | .addServer lpstrServerIP bCreated bAdded =>
    if live = false ∧ bCreated = false then (e, .FALSE_FAIELD)
    else if bAdded = false then (e, .FALSE_FAIELD)
    else (some { e.getD {} with pszECIP := lpstrServerIP, b_Connected := false }, .TRUE_OK)
  | .removeServer => (if live = false then e else none, .TRUE_OK)
  | .connect bConnected =>
    if live = false then (e, .FALSE_FAIELD)
    else if (e.getD {}).b_Connected then (some (e.getD {}), .TRUE_DUP)
    else if bConnected = false then (some (e.getD {}), .FALSE_FAIELD)
    else (some { e.getD {} with b_Connected := true }, .TRUE_OK)
  | .disConnect => (if live = false then e else some { e.getD {} with b_Connected := false }, .TRUE_OK)
  | .listenTo lpstrDeviceID _ bListenTo bOk =>
    if live = false then (e, .FALSE_FAIELD)
    else if bListenTo then
      if lpstrDeviceID ∈ (e.getD {}).pszDeviceSets then (some (e.getD {}), .TRUE_DUP)
      else if bOk = false then (some (e.getD {}), .FALSE_FAIELD)
      else (some { e.getD {} with
        pszDeviceSets := insert lpstrDeviceID (e.getD {}).pszDeviceSets }, .TRUE_OK)
    else if bOk = false then (e, .FALSE_FAIELD)
    else (some { e.getD {} with
      pszDeviceSets := (e.getD {}).pszDeviceSets.erase lpstrDeviceID }, .TRUE_OK)

/-- Only one entry is another one, and the result is that of its turn. -/
def Turns (c : ECClient) (id : CStr) (t : Option EC_CONNETION × EC_EVENT_RESULT)
    (r : ECClient × EC_EVENT_RESULT) : Prop :=
  r.2 = t.2 ∧ ∀ s, r.1.m_Connections.lookup s = if s = id then t.1 else c.m_Connections.lookup s

section

variable (c : ECClient) (id : CStr)

theorem turns_same (live : Bool) (result : EC_EVENT_RESULT) :
    Turns c id (c.m_Connections.lookup id, result) (⟨live, c.m_Connections⟩, result) := by
  refine ⟨rfl, fun s => ?_⟩
  split
  · rename_i hs
    rw [hs]
  · rfl

theorem turns_touch (result : EC_EVENT_RESULT) :
    Turns c id (some ((c.m_Connections.lookup id).getD {}), result)
      ({ c with m_Connections := c.m_Connections.touch id {} }, result) :=
  ⟨rfl, fun s => Map.lookup_touch c.m_Connections id s {}⟩

theorem turns_modify (f : EC_CONNETION → EC_CONNETION) (result : EC_EVENT_RESULT) :
    Turns c id (some (f ((c.m_Connections.lookup id).getD {})), result)
      ({ c with m_Connections := c.m_Connections.modify id {} f }, result) := by
  refine ⟨rfl, fun s => ?_⟩
  rw [Map.lookup_modify]
  rfl

theorem addServer_spec (ip : Nat) (bCreated bAdded : Bool) :
    Turns c id (turn c.m_pConnectionManagerProvider (c.m_Connections.lookup id)
      (.addServer ip bCreated bAdded)) (addServer c ip bCreated bAdded id) := by
  simp only [addServer, turn]
  split
  · exact turns_same c id _ _
  · split
    · exact turns_same c id _ _
    · refine ⟨rfl, fun s => ?_⟩
      rw [Map.lookup_modify, Map.index_modify, Map.lookup_modify]
      split <;> rfl

theorem removeServer_spec :
    Turns c id (turn c.m_pConnectionManagerProvider (c.m_Connections.lookup id) .removeServer)
      (removeServer c id, .TRUE_OK) := by
  simp only [removeServer, turn]
  split
  · exact turns_same c id _ _
  · refine ⟨rfl, fun s => ?_⟩
    rw [Map.lookup_erase_ite]
    split
    · rfl
    · rw [Map.lookup_modify, if_neg ‹_›]

theorem connect_spec (bConnected : Bool) :
    Turns c id (turn c.m_pConnectionManagerProvider (c.m_Connections.lookup id)
      (.connect bConnected)) (connect c bConnected id) := by
  simp only [connect, turn, Map.index_touch, Map.modify_touch]
  rw [Map.index]
  split
  · exact turns_same c id _ _
  · split
    · exact turns_touch c id _
    · split
      · exact turns_touch c id _
      · exact turns_modify c id _ _

theorem disConnect_spec :
    Turns c id (turn c.m_pConnectionManagerProvider (c.m_Connections.lookup id) .disConnect)
      (disConnect c id, .TRUE_OK) := by
  simp only [disConnect, turn]
  split
  · exact turns_same c id _ _
  · exact turns_modify c id _ _

theorem listenTo_spec (p : Nat) (d : CStr) (bListenTo bOk : Bool) :
    Turns c id (turn c.m_pConnectionManagerProvider (c.m_Connections.lookup id)
      (.listenTo p d bListenTo bOk)) (listenTo c p bListenTo bOk id) := by
  -- an empty set holds no pointer
  have hset : ∀ sets : Finset Nat, sets ≠ ∅ ∧ p ∈ sets ↔ p ∈ sets := fun sets =>
    and_iff_right_of_imp fun h => Finset.ne_empty_of_mem h
  simp only [listenTo, turn, Map.index_touch, Map.modify_touch, hset]
  rw [Map.index]
  split
  · exact turns_same c id _ _
  · split
    · split
      · exact turns_touch c id _
      · split
        · exact turns_touch c id _
        · exact turns_modify c id _ _
    · split
      · exact turns_same c id _ _
      · exact turns_modify c id _ _

end

/-- **A call changes the entry of its server alone**, and returns what this entry says. -/
theorem step_spec (c : ECClient) (call : Call) :
    let t := turn c.m_pConnectionManagerProvider (c.m_Connections.lookup call.lpstrServerID)
      call.action
    (step c call).2 = t.2 ∧ ∀ s, (step c call).1.m_Connections.lookup s =
      if s = call.lpstrServerID then t.1 else c.m_Connections.lookup s := by
  obtain ⟨id, action⟩ := call
  cases action with
  | addServer ip bCreated bAdded => exact addServer_spec c id ip bCreated bAdded
  | removeServer => exact removeServer_spec c id
  | connect bConnected => exact connect_spec c id bConnected
  | disConnect => exact disConnect_spec c id
  | listenTo p d bListenTo bOk => exact listenTo_spec c id p d bListenTo bOk

/-! ## The entry and the history -/

/-- The entry of a server after what was called for it. -/
structure Follows (live : Bool) (e : Option EC_CONNETION) (l : List Event) : Prop where
  none_of_not_live : live = false → e = none
  mem : e.isSome = true ↔ Added l ∨ Touched l
  connected : (e.getD {}).b_Connected = true ↔ Connected l
  listed : ∀ p, p ∈ (e.getD {}).pszDeviceSets ↔ ListedAt p l

theorem follows_nil (live : Bool) : Follows live none [] where
  none_of_not_live _ := rfl
  mem := by simp [Added, Touched]
  connected := by simp [Connected]
  listed p := by simp [ListedAt]

section

variable {l : List Event} {ev : Event}

theorem added_concat : Added (l ++ [ev]) ↔ ev.adds = some true ∨ ev.adds = none ∧ Added l :=
  latest_concat_eq_some_iff

theorem touched_concat :
    Touched (l ++ [ev]) ↔ ev.touches = some true ∨ ev.touches = none ∧ Touched l :=
  latest_concat_eq_some_iff

theorem connected_concat :
    Connected (l ++ [ev]) ↔ ev.connects = some true ∨ ev.connects = none ∧ Connected l :=
  latest_concat_eq_some_iff

theorem listedAt_concat {p : Nat} : ListedAt p (l ++ [ev]) ↔ ev.isRemove = false ∧
    ((ev.listens fun p' _ => p' == p) = some true ∨
      (ev.listens fun p' _ => p' == p) = none ∧ ListedAt p l) := by
  rw [ListedAt, since_concat]
  cases ev.isRemove with
  | true => simp
  | false =>
    rw [if_neg (by simp), latest_concat_eq_some_iff, and_iff_right rfl]
    rfl

end

/-- **A call keeps the entry and the history together.** -/
theorem Follows.turn {live live' : Bool} {e : Option EC_CONNETION} {l : List Event}
    (h : Follows live e l) (a : Action)
    (hlive : live' = false → live = false ∧ (EC.turn live e a).1 = e) :
    Follows live' (EC.turn live e a).1 (l ++ [⟨live, a, (EC.turn live e a).2⟩]) := by
  have hnone : live' = false → (EC.turn live e a).1 = none := fun hl => by
    rw [(hlive hl).2]
    exact h.none_of_not_live (hlive hl).1
  cases a with
  | addServer ip bCreated bAdded =>
    refine ⟨hnone, ?_, ?_, fun p => ?_⟩
    · simp only [EC.turn, added_concat, touched_concat]
      split_ifs <;> simp [h.mem]
    · simp only [EC.turn, connected_concat]
      split_ifs <;> simp [h.connected]
    · simp only [EC.turn, listedAt_concat]
      split_ifs <;> simp [h.listed p]
  | removeServer =>
    refine ⟨hnone, ?_, ?_, fun p => ?_⟩
    · simp only [EC.turn, added_concat, touched_concat]
      split_ifs with hl <;> simp [h.none_of_not_live, hl]
    · simp only [EC.turn, connected_concat]
      split_ifs with hl <;> simp [h.none_of_not_live, hl]
    · simp only [EC.turn, listedAt_concat]
      split_ifs with hl <;> simp [h.none_of_not_live, hl]
  | connect bConnected =>
    refine ⟨hnone, ?_, ?_, fun p => ?_⟩
    · simp only [EC.turn, added_concat, touched_concat]
      split_ifs <;> simp [h.mem, *]
    · simp only [EC.turn, connected_concat]
      split_ifs <;> simp [← h.connected, *]
    · simp only [EC.turn, listedAt_concat]
      split_ifs <;> simp [h.listed p]
  | disConnect =>
    refine ⟨hnone, ?_, ?_, fun p => ?_⟩
    · simp only [EC.turn, added_concat, touched_concat]
      split_ifs <;> simp [h.mem, *]
    · simp only [EC.turn, connected_concat]
      split_ifs with hl <;> simp [h.none_of_not_live, hl]
    · simp only [EC.turn, listedAt_concat]
      split_ifs <;> simp [h.listed p]
  | listenTo q d bListenTo bOk =>
    refine ⟨hnone, ?_, ?_, fun p => ?_⟩
    · simp only [EC.turn, added_concat, touched_concat]
      split_ifs <;> simp [h.mem, *]
    · simp only [EC.turn, connected_concat]
      split_ifs <;> simp [h.connected]
    · simp only [EC.turn, listedAt_concat]
      by_cases hp : q = p
      · split_ifs <;> simp [← h.listed p, *]
      · split_ifs <;> simp [← h.listed p, Ne.symm hp, *]

theorem step_live (c : ECClient) (call : Call) :
    (step c call).1.m_pConnectionManagerProvider = false → c.m_pConnectionManagerProvider = false ∧
      (turn c.m_pConnectionManagerProvider (c.m_Connections.lookup call.lpstrServerID)
        call.action).1 = c.m_Connections.lookup call.lpstrServerID := by
  obtain ⟨live, m⟩ := c
  obtain ⟨id, action⟩ := call
  cases live with
  | false =>
    cases action with
    | addServer ip bCreated bAdded =>
      simp only [step, addServer, turn]
      split_ifs <;> simp
    | removeServer => exact fun _ => ⟨rfl, rfl⟩
    | connect bConnected => exact fun _ => ⟨rfl, rfl⟩
    | disConnect => exact fun _ => ⟨rfl, rfl⟩
    | listenTo p d bListenTo bOk => exact fun _ => ⟨rfl, rfl⟩
  | true =>
    cases action with
    | addServer ip bCreated bAdded =>
      simp only [step, addServer]
      split_ifs <;> simp
    | removeServer =>
      intro h
      cases h
    | connect bConnected =>
      simp only [step, connect]
      split_ifs <;> simp
    | disConnect =>
      intro h
      cases h
    | listenTo p d bListenTo bOk =>
      simp only [step, listenTo]
      split_ifs <;> simp

/-- **Every run**: each entry follows from what was called for its server. -/
theorem follows_after (bProvider : Bool) (h : List Call) (s : CStr) :
    Follows (after bProvider h).m_pConnectionManagerProvider
      ((after bProvider h).m_Connections.lookup s) (eventsOn s bProvider h) := by
  induction h using List.reverseRecOn with
  | nil => exact follows_nil bProvider
  | append_singleton h call ih =>
    have hafter : after bProvider (h ++ [call]) = (step (after bProvider h) call).1 := by
      rw [after, run_append]
      rfl
    obtain ⟨hresult, hlookup⟩ := step_spec (after bProvider h) call
    have hlive := step_live (after bProvider h) call
    rw [hafter, hlookup, eventsOn, outputs_concat]
    by_cases hs : call.lpstrServerID = s
    · subst hs
      rw [if_pos rfl, if_pos rfl]
      show Follows _ _ (eventsOn _ bProvider h ++ [⟨_, _, (step (after bProvider h) call).2⟩])
      rw [hresult]
      exact ih.turn call.action hlive
    · rw [if_neg (Ne.symm hs), if_neg hs, Option.toList_none, List.append_nil]
      exact { ih with none_of_not_live := fun hl => ih.none_of_not_live (hlive hl).1 }

/-! ## The answers -/

theorem checkConection_iff (c : ECClient) (s : CStr) :
    checkConection c s = true ↔ (c.m_Connections.lookup s).isSome = true := by
  rw [checkConection, Finmap.lookup_isSome]
  constructor
  · intro h
    exact of_decide_eq_true (Bool.and_eq_true_iff.mp h).2
  · intro h
    have hne := (Map.isEmpty_eq_false_iff c.m_Connections).mpr ⟨s, h⟩
    rw [hne, decide_eq_true h]
    rfl

theorem connect_eq_dup_iff (bProvider : Bool) (h : List Call) (s : CStr) (bConnected : Bool) :
    (connect (after bProvider h) bConnected s).2 = .TRUE_DUP ↔
      Connected (eventsOn s bProvider h) := by
  have hfollows := follows_after bProvider h s
  have hstep := (step_spec (after bProvider h) ⟨s, .connect bConnected⟩).1
  rw [← hfollows.connected]
  show (step (after bProvider h) ⟨s, .connect bConnected⟩).2 = _ ↔ _
  rw [hstep, turn]
  split
  · rename_i hl
    simp [hfollows.none_of_not_live hl]
  · split_ifs <;> simp [*]

theorem listenTo_eq_dup_iff (bProvider : Bool) (h : List Call) (s : CStr) (p : Nat) (bOk : Bool) :
    (listenTo (after bProvider h) p true bOk s).2 = .TRUE_DUP ↔
      ListedAt p (eventsOn s bProvider h) := by
  have hfollows := follows_after bProvider h s
  have hstep := (step_spec (after bProvider h) ⟨s, .listenTo p [] true bOk⟩).1
  rw [← hfollows.listed p]
  show (step (after bProvider h) ⟨s, .listenTo p [] true bOk⟩).2 = _ ↔ _
  rw [hstep, turn]
  split
  · rename_i hl
    simp [hfollows.none_of_not_live hl]
  · rw [if_pos rfl]
    split_ifs <;> simp [*]

/-- **Every history**: `CheckConection` is right exactly where the server was added or no other call
made an entry for it; `Connect` is always right about a second connection; `ListenTo` is exactly
where the calls with this buffer and the calls with this text say the same. -/
theorem connections_iff (bProvider : Bool) (h : List Call) (s : CStr) :
    ((checkConection (after bProvider h) s = true ↔ Added (eventsOn s bProvider h)) ↔
      Added (eventsOn s bProvider h) ∨ ¬ Touched (eventsOn s bProvider h)) ∧
    (∀ bConnected, (connect (after bProvider h) bConnected s).2 = .TRUE_DUP ↔
      Connected (eventsOn s bProvider h)) ∧
    ∀ p d bOk, ((listenTo (after bProvider h) p true bOk s).2 = .TRUE_DUP ↔
        Listened d (eventsOn s bProvider h)) ↔
      Agree p d (eventsOn s bProvider h) := by
  refine ⟨?_, fun bConnected => connect_eq_dup_iff bProvider h s bConnected, fun p d bOk => ?_⟩
  · rw [checkConection_iff, (follows_after bProvider h s).mem]
    tauto
  · rw [listenTo_eq_dup_iff, Agree]

/-- A connection that fails, another buffer with the same text, and the same buffer with another
text. -/
theorem connections_wrong :
    (let h : List Call := [⟨str "ec1", .addServer 1 true false⟩, ⟨str "ec2", .connect false⟩]
     checkConection (after false h) (str "ec2") = true ∧ ¬ Added (eventsOn (str "ec2") false h)) ∧
    (let h : List Call := [⟨str "ec1", .addServer 1 true true⟩,
       ⟨str "ec1", .listenTo 2 (str "door") true true⟩]
     Listened (str "door") (eventsOn (str "ec1") false h) ∧
       (listenTo (after false h) 3 true true (str "ec1")).2 ≠ .TRUE_DUP ∧
       ¬ Listened (str "window") (eventsOn (str "ec1") false h) ∧
       (listenTo (after false h) 2 true true (str "ec1")).2 = .TRUE_DUP) := by
  decide

end GB28181.Platform.EC
