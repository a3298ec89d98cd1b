import GB28181.Base.Run
import GB28181.Platform.DataStore

/-!
# Guarding a device (`SDKCom/SDKDeviceCtrlMgr.cpp`, `SDKCom/SDKDevInfo.cpp`)

A device is on duty, off duty or in alarm.  Control commands name it by its device ID, an alarm by
its GUID.  The command text is in lower case when it is compared with `"SetGuard"`, so guarding sets
off duty; `AlarmSetAt` takes a GUID and is given the device ID; and the cache of alarms writes on
duty over the status.

* `procDeviceCtrl`, `handleAlarmInfoFromDevice` — what a command and an alarm do;
* `DutyStatus.next`, `GuardEvent.notices` — the machine a device should follow;
* `guardStep`, `FollowsMachine` — an event on the store, and that it does to every device what the
  machine says;
* `statusAt_setDeviceAlarmStatus` — what a write does to the status of each device;
* `follows_iff_fits` — **along a run the devices follow the machine exactly when every event fits
  the store it meets**.
-/

set_option autoImplicit false

namespace GB28181.Platform

open GB28181.Base

/-! ## Commands and alarms -/

/-- `DevicesInfoMgr::AlarmSetAt`: `pszKey` goes on as a GUID. -/
def alarmSetAt (pszKey : CStr) (pInfo : DeviceAlarmInfo) (s : CDataStore) : CDataStore :=
  s.setDeviceAlarmStatus pszKey pInfo

/-- The guard and alarm commands of `ProcDeviceCtrl`, with the result of the response. -/
def procDeviceCtrl (pszCtrlCmd pszDeviceID : CStr) (s : CDataStore) : Option CStr × CDataStore :=
  let strCtrlData := pszCtrlCmd.map toLower
  if strCtrlData = str "setguard" ∨ strCtrlData = str "resetguard" then
    match s.lookupDeviceAlarmStatus pszDeviceID with
    | (some tInfo, s) =>
      let eStatus : DutyStatus := if strCtrlData = str "SetGuard" then .ONDUTY else .OFFDUTY
      (some (str "OK"), alarmSetAt pszDeviceID { tInfo with eStatus := eStatus } s)
    | (none, s) => (some (str "ERROR"), s)
  else if strCtrlData = str "resetalarm" then
    let s := s.removeAlarming pszDeviceID
    match s.lookupDeviceAlarmStatus pszDeviceID with
    | (some tInfo, s) =>
      if tInfo.eStatus = .ALARM then
        (some (str "OK"), alarmSetAt pszDeviceID { tInfo with eStatus := .ONDUTY } s)
      else (some (str "OK"), s)
    | (none, s) => (some (str "OK"), s)
  else (none, s)

/-- An alarm of a device, as the device gives it. -/
structure AlarmReport where
  pszGUID : CStr
  pszDescribe : CStr
  pszLevel : CStr
  pszTime : CStr
  nAlarmType : Int
  nAlarmMethord : Int
  strAlarmStatus : CStr
  deriving DecidableEq

/-- The record of an alarm in the cache. -/
def AlarmReport.cached (r : AlarmReport) (strDeviceGBID : CStr) : DeviceAlarmInfo :=
  .ofAlarm strDeviceGBID r.nAlarmMethord r.nAlarmType r.strAlarmStatus r.pszDescribe r.pszLevel
    r.pszTime

/-- The record of an alarm at the device. -/
def AlarmReport.recorded (r : AlarmReport) (strDeviceGBID : CStr) (tAlarmInfo : DeviceAlarmInfo) :
    DeviceAlarmInfo :=
  { tAlarmInfo with
    eStatus := .ALARM
    m_StrGUID := r.pszGUID
    strDeviceID := strDeviceGBID
    m_nAlarmMethord := r.nAlarmMethord
    m_nAlarmType := r.nAlarmType
    m_strAlarmStatus := r.strAlarmStatus
    m_Description := r.pszDescribe
    m_strPriority := r.pszLevel
    m_strTime := r.pszTime }

/-- `HandleAlarmInfoFromDevice`, with the GUIDs of its `ut_alarm` notices. -/
def handleAlarmInfoFromDevice (r : AlarmReport) (s : CDataStore) : List CStr × CDataStore :=
  if r.pszGUID.length = 0 then ([], s)
  else
    match s.lookupDeviceID (withBraces r.pszGUID) with
    | none => ([], s)
    | some strDeviceGBID =>
      match s.lookupDeviceAlarmStatus strDeviceGBID with
      | (none, s) => ([], s)
      | (some tAlarmInfo, s) =>
        match tAlarmInfo.eStatus with
        | .OFFDUTY => ([], s)
        | .ONDUTY =>
          ([r.pszGUID],
            (s.setDeviceAlarmStatus strDeviceGBID
              (r.recorded strDeviceGBID tAlarmInfo)).addAlarmInfo
                strDeviceGBID (r.cached strDeviceGBID))
        | .ALARM => ([], s.addAlarmInfo strDeviceGBID (r.cached strDeviceGBID))

/-! ## The machine -/

inductive GuardInput
  | setguard | resetguard | resetalarm | alarm
  deriving DecidableEq

/-- The status a device should have afterwards; an alarm of a device in alarm changes nothing. -/
def DutyStatus.next : DutyStatus → GuardInput → DutyStatus
  | _, .setguard => .ONDUTY
  | _, .resetguard => .OFFDUTY
  | .ALARM, .resetalarm => .ONDUTY
  | .ONDUTY, .alarm => .ALARM
  | status, _ => status

/-- The command of a text, without regard to case. -/
def GuardInput.ofText (pszCtrlCmd : CStr) : Option GuardInput :=
  if stricmpEq pszCtrlCmd (str "setguard") then some .setguard
  else if stricmpEq pszCtrlCmd (str "resetguard") then some .resetguard
  else if stricmpEq pszCtrlCmd (str "resetalarm") then some .resetalarm
  else none

/-! ## Events -/

inductive GuardEvent
  | ctrl (pszCtrlCmd pszDeviceID : CStr)
  | alarm (r : AlarmReport)
  deriving DecidableEq

/-- The notices and the store after an event. -/
def GuardEvent.handle (s : CDataStore) : GuardEvent → List CStr × CDataStore
  | .ctrl pszCtrlCmd pszDeviceID => ([], (procDeviceCtrl pszCtrlCmd pszDeviceID s).2)
  | .alarm r => handleAlarmInfoFromDevice r s

def guardStep (s : CDataStore) (e : GuardEvent) : CDataStore := (e.handle s).2

namespace CDataStore

/-- The tables are inverse to each other. -/
def MutuallyInverse (s : CDataStore) : Prop :=
  ∀ id g, s.m_DeviceIDMap.lookup id = some g ↔ s.m_GUIDMap.lookup g = some id

/-- The ID leads to a stored device with the GUID. -/
structure Stored (s : CDataStore) (id g : CStr) : Prop where
  lookup_eq : s.m_DeviceIDMap.lookup id = some g
  guid_ne : g ≠ []
  mem : g ∈ s.m_ObjectMap

/-- The status `LookupDeviceAlarmStatus` returns for a device ID. -/
def alarmStatus (s : CDataStore) (id : CStr) : Option DutyStatus :=
  (s.lookupDeviceAlarmStatus id).1.map DeviceAlarmInfo.eStatus

/-- The number of alarms of a device in the cache. -/
def cachedAlarms (s : CDataStore) (g : CStr) : Nat := (s.m_oAlarmingDeviceMap.index g []).length

end CDataStore

def GuardEvent.input : GuardEvent → Option GuardInput
  | .ctrl pszCtrlCmd _ => GuardInput.ofText pszCtrlCmd
  | .alarm _ => some .alarm

/-- The notices an event should lead to when its device has the status. -/
def GuardEvent.notices (status : DutyStatus) : GuardEvent → List CStr
  | .ctrl _ _ => []
  | .alarm r => if status = .ONDUTY then [r.pszGUID] else []

def GuardEvent.IsFor (s : CDataStore) (id g : CStr) : GuardEvent → Prop
  | .ctrl _ pszDeviceID => pszDeviceID = id ∧ s.Stored id g
  | .alarm r => r.pszGUID ≠ [] ∧ withBraces r.pszGUID = g ∧ s.Stored id g

/-- The event is a command of the machine or an alarm, and for a stored device. -/
def GuardEvent.ForStored (s : CDataStore) (e : GuardEvent) : Prop :=
  e.input.isSome = true ∧ ∃ id g, e.IsFor s id g

/-- **The devices follow the machine**: the device of the event takes its step, with its notices,
and all others stay as they are. -/
def FollowsMachine (s : CDataStore) (e : GuardEvent) : Prop :=
  ∀ input, e.input = some input → ∀ id g, e.IsFor s id g →
    ∀ status, s.alarmStatus id = some status →
      (e.handle s).1 = e.notices status ∧
        (guardStep s e).alarmStatus id = some (status.next input) ∧
        ∀ id' g', id' ≠ id → s.Stored id' g' →
          (guardStep s e).alarmStatus id' = s.alarmStatus id'

/-- A device other than `id` whose GUID is the text `id` is off duty. -/
def OffDutyBy (s : CDataStore) (id : CStr) : Prop :=
  ∀ id', id' ≠ id → s.Stored id' id → s.alarmStatus id' = some .OFFDUTY

/-- The event leaves the devices where the machine wants them:
guarding, a device that is on duty already;
unguarding, a device that is off duty already or whose GUID is its device ID;
ending an alarm, a device that is in none or whose GUID is its device ID;
an alarm, a device that is off duty or whose cache is full. -/
def GuardInput.Fits (s : CDataStore) (id g : CStr) : GuardInput → Prop
  | .setguard => g ≠ id ∧ s.alarmStatus id = some .ONDUTY ∧ OffDutyBy s id
  | .resetguard => (g = id ∨ s.alarmStatus id = some .OFFDUTY) ∧ OffDutyBy s id
  | .resetalarm => s.alarmStatus id = some .ALARM → g = id
  | .alarm =>
    (s.alarmStatus id = some .ONDUTY → g = id ∧ 200 ≤ s.cachedAlarms g) ∧
      (s.alarmStatus id = some .ALARM → 200 ≤ s.cachedAlarms g)

/-- The event fits for the device it is for. -/
def GuardEvent.Fits (s : CDataStore) (e : GuardEvent) : Prop :=
  ∀ input, e.input = some input → ∀ id g, e.IsFor s id g → input.Fits s id g

/-! ## The status of each device -/

namespace CDataStore

variable {s : CDataStore} {id g : CStr}

/-- The status of the device with a GUID. -/
def statusAt (s : CDataStore) (g : CStr) : Option DutyStatus :=
  (s.m_ObjectMap.lookup g).map fun obj => obj.getAlarmInfo.eStatus

theorem touchDeviceID_of_stored (h : s.Stored id g) : s.touchDeviceID id = s := by
  have hmem : id ∈ s.m_DeviceIDMap := Finmap.mem_of_lookup_eq_some h.lookup_eq
  rw [touchDeviceID, Map.touch_of_mem hmem]

theorem lookupDeviceAlarmStatus_of_stored (h : s.Stored id g) :
    s.lookupDeviceAlarmStatus id =
      ((s.m_ObjectMap.lookup g).map DeviceObject.getAlarmInfo, s) := by
  rw [lookupDeviceAlarmStatus, Map.index_of_lookup h.lookup_eq, lookupDeviceByGUID,
    if_neg h.guid_ne, touchDeviceID_of_stored h]

theorem exists_alarmInfo (h : s.Stored id g) :
    ∃ info : DeviceAlarmInfo, s.lookupDeviceAlarmStatus id = (some info, s) ∧
      s.statusAt g = some info.eStatus := by
  obtain ⟨obj, hobj⟩ := Finmap.mem_iff.mp h.mem
  refine ⟨obj.getAlarmInfo, ?_, ?_⟩
  · rw [lookupDeviceAlarmStatus_of_stored h, hobj]
    rfl
  · rw [statusAt, hobj]
    rfl

theorem alarmStatus_of_stored (h : s.Stored id g) : s.alarmStatus id = s.statusAt g := by
  obtain ⟨info, hlookup, hstatus⟩ := exists_alarmInfo h
  rw [alarmStatus, hlookup, hstatus]
  rfl

theorem id_unique (hs : s.MutuallyInverse) {id' : CStr} (h : s.Stored id g) (h' : s.Stored id' g) :
    id = id' := by
  have hid := (hs id g).mp h.lookup_eq
  have hid' := (hs id' g).mp h'.lookup_eq
  exact Option.some.inj (hid.symm.trans hid')

theorem guid_unique {g' : CStr} (h : s.Stored id g) (h' : s.Stored id g') : g = g' :=
  Option.some.inj (h.lookup_eq.symm.trans h'.lookup_eq)

/-- **A write** changes the status of the device with that GUID, if there is one. -/
theorem statusAt_setDeviceAlarmStatus (pszGUID x : CStr) (info : DeviceAlarmInfo)
    (s : CDataStore) :
    (s.setDeviceAlarmStatus pszGUID info).statusAt x =
      if x = pszGUID then (s.statusAt x).map fun _ => info.eStatus else s.statusAt x := by
  unfold setDeviceAlarmStatus
  cases hobj : s.m_ObjectMap.lookup pszGUID with
  | none =>
    dsimp only
    split
    · rename_i hx
      rw [statusAt, hx, hobj]
      rfl
    · rfl
  | some obj =>
    simp only [statusAt, Map.lookup_insert_ite]
    split
    · rename_i hx
      rw [hx, hobj]
      rfl
    · rfl

/-- **The cache**: below 200 alarms it writes the status of the record over the device's. -/
theorem statusAt_addAlarmInfo (h : s.Stored id g) (info : DeviceAlarmInfo) (x : CStr) :
    (s.addAlarmInfo id info).statusAt x =
      if x = g ∧ s.cachedAlarms g < 200 then (s.statusAt x).map fun _ => info.eStatus
      else s.statusAt x := by
  unfold addAlarmInfo
  rw [Map.index_of_lookup h.lookup_eq, touchDeviceID_of_stored h]
  dsimp only
  have hcount : (s.m_oAlarmingDeviceMap.index g []).length = s.cachedAlarms g := rfl
  rw [hcount]
  by_cases hfull : s.cachedAlarms g ≥ 200
  · rw [if_pos hfull, if_neg]
    omega
  · rw [if_neg hfull, if_neg h.guid_ne, statusAt_setDeviceAlarmStatus]
    have hroom : s.cachedAlarms g < 200 := by omega
    simp only [hroom, and_true]
    rfl

/-! ## What no event changes -/

/-- The tables and the stored GUIDs are the same. -/
structure SameDevices (s s' : CDataStore) : Prop where
  ids : s'.m_DeviceIDMap = s.m_DeviceIDMap
  guids : s'.m_GUIDMap = s.m_GUIDMap
  mem : ∀ x, x ∈ s'.m_ObjectMap ↔ x ∈ s.m_ObjectMap

theorem SameDevices.refl (s : CDataStore) : SameDevices s s := ⟨rfl, rfl, fun _ => Iff.rfl⟩

theorem SameDevices.trans {s s' s'' : CDataStore} (h : SameDevices s s') (h' : SameDevices s' s'') :
    SameDevices s s'' :=
  ⟨h'.ids.trans h.ids, h'.guids.trans h.guids, fun x => (h'.mem x).trans (h.mem x)⟩

theorem SameDevices.stored_iff {s s' : CDataStore} (h : SameDevices s s') (id g : CStr) :
    s'.Stored id g ↔ s.Stored id g := by
  constructor
  · rintro ⟨hid, hne, hmem⟩
    exact ⟨h.ids ▸ hid, hne, (h.mem g).mp hmem⟩
  · rintro ⟨hid, hne, hmem⟩
    exact ⟨h.ids.symm ▸ hid, hne, (h.mem g).mpr hmem⟩

theorem SameDevices.mutuallyInverse {s s' : CDataStore} (h : SameDevices s s')
    (hs : s.MutuallyInverse) : s'.MutuallyInverse := by
  intro id g
  rw [h.ids, h.guids]
  exact hs id g

theorem sameDevices_setDeviceAlarmStatus (pszGUID : CStr) (info : DeviceAlarmInfo)
    (s : CDataStore) : SameDevices s (s.setDeviceAlarmStatus pszGUID info) := by
  unfold setDeviceAlarmStatus
  split
  · exact SameDevices.refl s
  · rename_i obj hobj
    refine ⟨rfl, rfl, fun x => ?_⟩
    rw [Finmap.mem_insert]
    refine or_iff_right_of_imp ?_
    rintro rfl
    exact Finmap.mem_of_lookup_eq_some hobj

theorem sameDevices_addAlarmInfo (h : s.Stored id g) (info : DeviceAlarmInfo) :
    SameDevices s (s.addAlarmInfo id info) := by
  unfold addAlarmInfo
  rw [Map.index_of_lookup h.lookup_eq, touchDeviceID_of_stored h]
  dsimp only
  split
  · exact SameDevices.refl s
  · rw [if_neg h.guid_ne]
    have hset := sameDevices_setDeviceAlarmStatus g info
      { s with
        m_oAlarmingDeviceMap :=
          s.m_oAlarmingDeviceMap.insert g (s.m_oAlarmingDeviceMap.index g [] ++ [info]) }
    exact ⟨hset.ids, hset.guids, hset.mem⟩

theorem removeAlarming_of_stored (h : s.Stored id g) :
    ∃ alarms, s.removeAlarming id = { s with m_oAlarmingDeviceMap := alarms } := by
  unfold removeAlarming
  rw [Map.index_of_lookup h.lookup_eq, touchDeviceID_of_stored h]
  dsimp only
  split
  · exact ⟨_, rfl⟩
  · exact ⟨_, rfl⟩

end CDataStore

/-! ## One event -/

section Event

variable {s : CDataStore} {id g : CStr} {status : DutyStatus}

/-- The device has the status `want` in `s'` and the other devices theirs. -/
def MovesTo (s s' : CDataStore) (id : CStr) (want : DutyStatus) : Prop :=
  s'.alarmStatus id = some want ∧
    ∀ id' g', id' ≠ id → s.Stored id' g' → s'.alarmStatus id' = s.alarmStatus id'

theorem movesTo_iff {s' : CDataStore} (hsame : s.SameDevices s') (h : s.Stored id g)
    (want : DutyStatus) :
    MovesTo s s' id want ↔ s'.statusAt g = some want ∧
      ∀ id' g', id' ≠ id → s.Stored id' g' → s'.statusAt g' = s.statusAt g' := by
  have hstatus : ∀ {id g}, s.Stored id g → s'.alarmStatus id = s'.statusAt g :=
    fun h => CDataStore.alarmStatus_of_stored ((hsame.stored_iff _ _).mpr h)
  rw [MovesTo, hstatus h]
  refine and_congr_right fun _ => forall_congr' fun id' => forall_congr' fun g' =>
    forall_congr' fun _ => forall_congr' fun h' => ?_
  rw [hstatus h', CDataStore.alarmStatus_of_stored h']

/-- **A write under a device ID** moves the device to where it should be exactly when the ID is the
device's GUID or it is there already, and any other device with that GUID is there already. -/
theorem movesTo_alarmSetAt_iff (h : s.Stored id g) (hstatus : s.statusAt g = some status)
    (info : DeviceAlarmInfo) (want : DutyStatus) :
    MovesTo s (alarmSetAt id info s) id want ↔
      (if g = id then info.eStatus = want else status = want) ∧
        ∀ id', id' ≠ id → s.Stored id' id → s.alarmStatus id' = some info.eStatus := by
  rw [alarmSetAt, movesTo_iff (CDataStore.sameDevices_setDeviceAlarmStatus _ _ _) h]
  simp only [CDataStore.statusAt_setDeviceAlarmStatus, hstatus]
  refine and_congr ?_ ?_
  · split
    · exact Option.some_inj
    · exact Option.some_inj
  · constructor
    · intro hothers id' hne h'
      have hw := hothers id' id hne h'
      obtain ⟨info', -, hinfo'⟩ := CDataStore.exists_alarmInfo h'
      rw [if_pos rfl, hinfo'] at hw
      rw [CDataStore.alarmStatus_of_stored h', hinfo', ← hw]
      rfl
    · intro hothers id' g' hne h'
      split
      · rename_i hg'
        subst hg'
        have hw := hothers id' hne h'
        rw [CDataStore.alarmStatus_of_stored h'] at hw
        rw [hw]
        rfl
      · rfl

/-- No other device has a GUID that is the ID of a device with this GUID. -/
theorem others_of_guid_eq (hs : s.MutuallyInverse) (h : s.Stored id g) (hg : g = id)
    (P : CStr → Prop) :
    ∀ id', id' ≠ id → s.Stored id' id → P id' := by
  subst hg
  intro id' hne h'
  exact absurd (CDataStore.id_unique hs h' h) hne

theorem ofText_eq_some_iff (pszCtrlCmd : CStr) (input : GuardInput) :
    GuardInput.ofText pszCtrlCmd = some input ↔
      (pszCtrlCmd.map toLower = str "setguard" ∧ input = .setguard) ∨
        (pszCtrlCmd.map toLower = str "resetguard" ∧ input = .resetguard) ∨
          (pszCtrlCmd.map toLower = str "resetalarm" ∧ input = .resetalarm) := by
  have hset : (str "setguard").map toLower = str "setguard" := by decide
  have hreset : (str "resetguard").map toLower = str "resetguard" := by decide
  have halarm : (str "resetalarm").map toLower = str "resetalarm" := by decide
  have h1 : str "setguard" ≠ str "resetguard" := by decide
  have h2 : str "setguard" ≠ str "resetalarm" := by decide
  have h3 : str "resetguard" ≠ str "resetalarm" := by decide
  simp only [GuardInput.ofText, stricmpEq, hset, hreset, halarm, beq_iff_eq]
  split
  · rename_i h
    simp [h, h1, h2, eq_comm]
  · split
    · rename_i h
      simp [h, h1.symm, h3, eq_comm]
    · split
      · rename_i h
        simp [h, h2.symm, h3.symm, eq_comm]
      · rename_i h h' h''
        simp [h, h', h'']

/-- `setguard` and `resetguard` write off duty: the text in lower case is not `"SetGuard"`. -/
theorem procDeviceCtrl_guard {info : DeviceAlarmInfo}
    (hinfo : s.lookupDeviceAlarmStatus id = (some info, s)) {pszCtrlCmd : CStr}
    (hcmd : pszCtrlCmd.map toLower = str "setguard" ∨ pszCtrlCmd.map toLower = str "resetguard") :
    (procDeviceCtrl pszCtrlCmd id s).2 =
      alarmSetAt id { info with eStatus := .OFFDUTY } s := by
  have hcase : pszCtrlCmd.map toLower ≠ str "SetGuard" := by
    rcases hcmd with hcmd | hcmd
    · rw [hcmd]
      decide
    · rw [hcmd]
      decide
  unfold procDeviceCtrl
  dsimp only
  rw [if_pos hcmd, hinfo]
  dsimp only
  rw [if_neg hcase]

/-- `resetalarm` empties the cache and writes on duty for a device in alarm. -/
theorem procDeviceCtrl_resetalarm (h : s.Stored id g) {info : DeviceAlarmInfo}
    (hinfo : s.lookupDeviceAlarmStatus id = (some info, s)) {pszCtrlCmd : CStr}
    (hcmd : pszCtrlCmd.map toLower = str "resetalarm") :
    ∃ alarms, (procDeviceCtrl pszCtrlCmd id s).2 =
      if info.eStatus = .ALARM then
        alarmSetAt id { info with eStatus := .ONDUTY } { s with m_oAlarmingDeviceMap := alarms }
      else { s with m_oAlarmingDeviceMap := alarms } := by
  obtain ⟨alarms, hremove⟩ := CDataStore.removeAlarming_of_stored h
  refine ⟨alarms, ?_⟩
  have hinfo' : { s with m_oAlarmingDeviceMap := alarms }.lookupDeviceAlarmStatus id =
      (some info, { s with m_oAlarmingDeviceMap := alarms }) := by
    obtain ⟨hval, hstate⟩ := Prod.mk.inj hinfo
    refine Prod.ext hval ?_
    show ({ s.touchDeviceID id with m_oAlarmingDeviceMap := alarms } : CDataStore) = _
    rw [CDataStore.touchDeviceID_of_stored h]
  have hno : ¬ (pszCtrlCmd.map toLower = str "setguard" ∨
      pszCtrlCmd.map toLower = str "resetguard") := by
    rw [hcmd]
    decide
  unfold procDeviceCtrl
  dsimp only
  rw [if_neg hno, if_pos hcmd, hremove, hinfo']
  dsimp only
  split
  · rfl
  · rfl

theorem handleAlarmInfoFromDevice_eq (hs : s.MutuallyInverse) (h : s.Stored id g)
    {info : DeviceAlarmInfo} (hinfo : s.lookupDeviceAlarmStatus id = (some info, s))
    {r : AlarmReport} (hne : r.pszGUID ≠ []) (hg : withBraces r.pszGUID = g) :
    handleAlarmInfoFromDevice r s =
      match info.eStatus with
      | .OFFDUTY => ([], s)
      | .ONDUTY =>
        ([r.pszGUID],
          (s.setDeviceAlarmStatus id (r.recorded id info)).addAlarmInfo id (r.cached id))
      | .ALARM => ([], s.addAlarmInfo id (r.cached id)) := by
  have hid : s.lookupDeviceID (withBraces r.pszGUID) = some id := by
    rw [hg]
    exact (hs id g).mp h.lookup_eq
  have hlen : ¬ r.pszGUID.length = 0 := fun h0 => hne (List.length_eq_zero_iff.mp h0)
  unfold handleAlarmInfoFromDevice
  rw [if_neg hlen, hid]
  dsimp only
  rw [hinfo]

theorem movesTo_congr {s' s'' : CDataStore} (hids : s'.m_DeviceIDMap = s''.m_DeviceIDMap)
    (hobjects : s'.m_ObjectMap = s''.m_ObjectMap) (want : DutyStatus) :
    MovesTo s s' id want ↔ MovesTo s s'' id want := by
  have hstatus : ∀ id, s'.alarmStatus id = s''.alarmStatus id := by
    intro id
    unfold CDataStore.alarmStatus CDataStore.lookupDeviceAlarmStatus CDataStore.lookupDeviceByGUID
    rw [hids, hobjects]
  simp only [MovesTo, hstatus]

theorem movesTo_self_iff (h : s.Stored id g) (hstatus : s.statusAt g = some status)
    (want : DutyStatus) : MovesTo s s id want ↔ status = want := by
  rw [movesTo_iff (CDataStore.SameDevices.refl s) h, hstatus, Option.some_inj]
  exact and_iff_left fun _ _ _ _ => rfl

theorem setDeviceAlarmStatus_cache (pszGUID : CStr) (info : DeviceAlarmInfo) (s : CDataStore)
    (alarms : Map CStr (List DeviceAlarmInfo)) :
    { s with m_oAlarmingDeviceMap := alarms }.setDeviceAlarmStatus pszGUID info =
      { s.setDeviceAlarmStatus pszGUID info with m_oAlarmingDeviceMap := alarms } := by
  unfold CDataStore.setDeviceAlarmStatus
  cases s.m_ObjectMap.lookup pszGUID <;> rfl

theorem cachedAlarms_setDeviceAlarmStatus (pszGUID x : CStr) (info : DeviceAlarmInfo)
    (s : CDataStore) : (s.setDeviceAlarmStatus pszGUID info).cachedAlarms x = s.cachedAlarms x := by
  unfold CDataStore.setDeviceAlarmStatus
  cases s.m_ObjectMap.lookup pszGUID <;> rfl

/-- **An alarm record** put into the cache leaves the device in alarm exactly when the cache of the
device was full. -/
theorem movesTo_addAlarmInfo_iff (h : s.Stored id g)
    (hstatus : s.statusAt g = some .ALARM) {info : DeviceAlarmInfo}
    (hinfo : info.eStatus = .ONDUTY) :
    MovesTo s (s.addAlarmInfo id info) id .ALARM ↔ 200 ≤ s.cachedAlarms g := by
  rw [movesTo_iff (CDataStore.sameDevices_addAlarmInfo h info) h]
  simp only [CDataStore.statusAt_addAlarmInfo h, hstatus, hinfo, true_and]
  constructor
  · rintro ⟨hself, -⟩
    by_contra hroom
    rw [if_pos (Nat.lt_of_not_le hroom)] at hself
    cases hself
  · intro hfull
    have hroom : ¬ s.cachedAlarms g < 200 := Nat.not_lt.mpr hfull
    simp [hroom]

/-- **An alarm of a device on duty** leaves it in alarm exactly when its GUID is its device ID, so
that the alarm is written, and its cache is full, so that nothing is written over it. -/
theorem movesTo_alarm_iff (hs : s.MutuallyInverse) (h : s.Stored id g)
    (hstatus : s.statusAt g = some .ONDUTY) {recorded cached : DeviceAlarmInfo}
    (hrecorded : recorded.eStatus = .ALARM) (hcached : cached.eStatus = .ONDUTY) :
    MovesTo s ((s.setDeviceAlarmStatus id recorded).addAlarmInfo id cached) id .ALARM ↔
      g = id ∧ 200 ≤ s.cachedAlarms g := by
  have hset := CDataStore.sameDevices_setDeviceAlarmStatus id recorded s
  have h' := (hset.stored_iff id g).mpr h
  rw [movesTo_iff (hset.trans (CDataStore.sameDevices_addAlarmInfo h' cached)) h]
  simp only [CDataStore.statusAt_addAlarmInfo h', cachedAlarms_setDeviceAlarmStatus,
    CDataStore.statusAt_setDeviceAlarmStatus, hcached, hrecorded, true_and]
  constructor
  · rintro ⟨hself, -⟩
    rw [hstatus] at hself
    by_cases hroom : s.cachedAlarms g < 200
    · rw [if_pos hroom] at hself
      split at hself <;> cases hself
    · rw [if_neg hroom] at hself
      split at hself
      · rename_i hg
        exact ⟨hg, Nat.le_of_not_lt hroom⟩
      · cases hself
  · rintro ⟨hg, hfull⟩
    have hroom : ¬ s.cachedAlarms g < 200 := Nat.not_lt.mpr hfull
    simp only [hroom, and_false, if_false]
    rw [if_pos hg, hstatus]
    refine ⟨rfl, fun id' g' hne hg' => if_neg ?_⟩
    rintro rfl
    exact hne (CDataStore.id_unique hs hg' (hg ▸ h))

theorem stored_of_isFor {e : GuardEvent} (he : e.IsFor s id g) : s.Stored id g := by
  cases e with
  | ctrl pszCtrlCmd pszDeviceID => exact he.2
  | alarm r => exact he.2.2

theorem isFor_unique (hs : s.MutuallyInverse) {e : GuardEvent} {id' g' : CStr}
    (he : e.IsFor s id g) (he' : e.IsFor s id' g') : id' = id ∧ g' = g := by
  have hstored := stored_of_isFor he
  have hstored' := stored_of_isFor he'
  cases e with
  | ctrl pszCtrlCmd pszDeviceID =>
    obtain rfl := he.1.symm.trans he'.1
    exact ⟨rfl, CDataStore.guid_unique hstored' hstored⟩
  | alarm r =>
    obtain rfl := he.2.1.symm.trans he'.2.1
    exact ⟨CDataStore.id_unique hs hstored' hstored, rfl⟩

theorem follows_iff_movesTo {e : GuardEvent} {input : GuardInput} (hs : s.MutuallyInverse)
    (hinput : e.input = some input) (he : e.IsFor s id g) (hstatus : s.statusAt g = some status) :
    FollowsMachine s e ↔
      (e.handle s).1 = e.notices status ∧ MovesTo s (guardStep s e) id (status.next input) := by
  have hstored := stored_of_isFor he
  have halarm := CDataStore.alarmStatus_of_stored hstored
  constructor
  · intro hfollows
    exact hfollows input hinput id g he status (halarm.trans hstatus)
  · intro hcore input' hinput' id' g' he' status' hstatus'
    obtain ⟨rfl, -⟩ := isFor_unique hs he he'
    obtain rfl := Option.some.inj (hinput.symm.trans hinput')
    obtain rfl := Option.some.inj (hstatus.symm.trans (halarm.symm.trans hstatus'))
    exact hcore

theorem movesTo_setguard_iff (h : s.Stored id g) {info : DeviceAlarmInfo}
    (hstatus : s.statusAt g = some info.eStatus) :
    MovesTo s (alarmSetAt id { info with eStatus := .OFFDUTY } s) id
        (info.eStatus.next .setguard) ↔ GuardInput.setguard.Fits s id g := by
  have halarm := (CDataStore.alarmStatus_of_stored h).trans hstatus
  rw [movesTo_alarmSetAt_iff h hstatus, GuardInput.Fits, halarm, ← and_assoc]
  refine and_congr ?_ Iff.rfl
  split
  · rename_i hg
    refine iff_of_false ?_ fun hand => hand.1 hg
    intro hoff
    cases hoff
  · rename_i hg
    rw [and_iff_right hg, Option.some_inj]
    rfl

theorem movesTo_resetguard_iff (h : s.Stored id g) {info : DeviceAlarmInfo}
    (hstatus : s.statusAt g = some info.eStatus) :
    MovesTo s (alarmSetAt id { info with eStatus := .OFFDUTY } s) id
        (info.eStatus.next .resetguard) ↔ GuardInput.resetguard.Fits s id g := by
  have halarm := (CDataStore.alarmStatus_of_stored h).trans hstatus
  rw [movesTo_alarmSetAt_iff h hstatus, GuardInput.Fits, halarm]
  refine and_congr ?_ Iff.rfl
  split
  · rename_i hg
    exact iff_of_true rfl (Or.inl hg)
  · rename_i hg
    rw [or_iff_right hg, Option.some_inj]
    rfl

theorem movesTo_resetalarm_iff (hs : s.MutuallyInverse) (h : s.Stored id g)
    {info : DeviceAlarmInfo} (hstatus : s.statusAt g = some info.eStatus)
    (alarms : Map CStr (List DeviceAlarmInfo)) :
    MovesTo s (if info.eStatus = .ALARM then
          alarmSetAt id { info with eStatus := .ONDUTY }
            { s with m_oAlarmingDeviceMap := alarms }
        else { s with m_oAlarmingDeviceMap := alarms }) id (info.eStatus.next .resetalarm) ↔
      GuardInput.resetalarm.Fits s id g := by
  have halarm := (CDataStore.alarmStatus_of_stored h).trans hstatus
  rw [GuardInput.Fits, halarm, Option.some_inj]
  split
  · rename_i hin
    rw [@movesTo_congr _ _ _ (alarmSetAt id { info with eStatus := .ONDUTY } s),
      movesTo_alarmSetAt_iff h hstatus, hin]
    · rw [forall_prop_of_true rfl]
      constructor
      · rintro ⟨hself, -⟩
        by_contra hg
        rw [if_neg hg] at hself
        cases hself
      · intro hg
        exact ⟨(if_pos hg).mpr rfl, others_of_guid_eq hs h hg _⟩
    · rw [alarmSetAt, setDeviceAlarmStatus_cache]
      rfl
    · rw [alarmSetAt, setDeviceAlarmStatus_cache]
      rfl
  · rename_i hout
    refine (@movesTo_congr _ _ _ s rfl rfl _).trans ?_
    rw [movesTo_self_iff h hstatus]
    refine iff_of_true ?_ fun hin => absurd hin hout
    cases hst : info.eStatus with
    | ONDUTY => rfl
    | OFFDUTY => rfl
    | ALARM => exact absurd hst hout

theorem follows_alarm_iff (hs : s.MutuallyInverse) {r : AlarmReport}
    (he : (GuardEvent.alarm r).IsFor s id g) :
    FollowsMachine s (.alarm r) ↔ GuardInput.alarm.Fits s id g := by
  have h := stored_of_isFor he
  obtain ⟨info, hinfo, hstatus⟩ := CDataStore.exists_alarmInfo h
  have halarm := (CDataStore.alarmStatus_of_stored h).trans hstatus
  rw [follows_iff_movesTo hs rfl he hstatus, guardStep, GuardEvent.handle,
    handleAlarmInfoFromDevice_eq hs h hinfo he.1 he.2.1, GuardInput.Fits, halarm]
  cases hst : info.eStatus with
  | OFFDUTY =>
    rw [hst] at hstatus
    refine iff_of_true ⟨rfl, (movesTo_self_iff h hstatus _).mpr rfl⟩ ?_
    constructor
    · intro hon
      cases hon
    · intro hin
      cases hin
  | ONDUTY =>
    rw [hst] at hstatus
    refine (and_iff_right rfl).trans ((movesTo_alarm_iff hs h hstatus rfl rfl).trans ?_)
    simp
  | ALARM =>
    rw [hst] at hstatus
    refine (and_iff_right rfl).trans ((movesTo_addAlarmInfo_iff h hstatus rfl).trans ?_)
    simp

/-- **One event** does what the machine says exactly when it fits. -/
theorem follows_iff {e : GuardEvent} {input : GuardInput} (hs : s.MutuallyInverse)
    (hinput : e.input = some input) (he : e.IsFor s id g) :
    FollowsMachine s e ↔ input.Fits s id g := by
  cases e with
  | ctrl pszCtrlCmd pszDeviceID =>
    obtain ⟨rfl, h⟩ := he
    obtain ⟨info, hinfo, hstatus⟩ := CDataStore.exists_alarmInfo h
    rw [follows_iff_movesTo hs hinput ⟨rfl, h⟩ hstatus]
    refine (and_iff_right rfl).trans ?_
    show MovesTo s (procDeviceCtrl pszCtrlCmd pszDeviceID s).2 pszDeviceID _ ↔ _
    rcases (ofText_eq_some_iff _ _).mp hinput with ⟨hcmd, rfl⟩ | ⟨hcmd, rfl⟩ | ⟨hcmd, rfl⟩
    · rw [procDeviceCtrl_guard hinfo (Or.inl hcmd)]
      exact movesTo_setguard_iff h hstatus
    · rw [procDeviceCtrl_guard hinfo (Or.inr hcmd)]
      exact movesTo_resetguard_iff h hstatus
    · obtain ⟨alarms, hstep⟩ := procDeviceCtrl_resetalarm h hinfo hcmd
      rw [hstep]
      exact movesTo_resetalarm_iff hs h hstatus alarms
  | alarm r =>
    obtain rfl : input = .alarm := (Option.some.inj hinput).symm
    exact follows_alarm_iff hs he

theorem follows_iff_fits_of_forStored (hs : s.MutuallyInverse) {e : GuardEvent}
    (he : e.ForStored s) : FollowsMachine s e ↔ e.Fits s := by
  obtain ⟨hsome, id, g, hfor⟩ := he
  obtain ⟨input, hinput⟩ := Option.isSome_iff_exists.mp hsome
  rw [follows_iff hs hinput hfor]
  constructor
  · intro hfits input' hinput' id' g' hfor'
    obtain ⟨rfl, rfl⟩ := isFor_unique hs hfor hfor'
    obtain rfl := Option.some.inj (hinput.symm.trans hinput')
    exact hfits
  · exact fun hfits => hfits input hinput id g hfor

theorem GuardEvent.ForStored.congr {s' : CDataStore} (h : s.SameDevices s') {e : GuardEvent}
    (he : e.ForStored s) : e.ForStored s' := by
  obtain ⟨hsome, id, g, hfor⟩ := he
  refine ⟨hsome, id, g, ?_⟩
  cases e with
  | ctrl pszCtrlCmd pszDeviceID => exact ⟨hfor.1, (h.stored_iff id g).mpr hfor.2⟩
  | alarm r => exact ⟨hfor.1, hfor.2.1, (h.stored_iff id g).mpr hfor.2.2⟩

theorem sameDevices_guardStep (hs : s.MutuallyInverse) {e : GuardEvent} (he : e.ForStored s) :
    s.SameDevices (guardStep s e) := by
  obtain ⟨hsome, id, g, hfor⟩ := he
  obtain ⟨input, hinput⟩ := Option.isSome_iff_exists.mp hsome
  cases e with
  | ctrl pszCtrlCmd pszDeviceID =>
    obtain ⟨rfl, h⟩ := hfor
    obtain ⟨info, hinfo, -⟩ := CDataStore.exists_alarmInfo h
    show s.SameDevices (procDeviceCtrl pszCtrlCmd pszDeviceID s).2
    rcases (ofText_eq_some_iff _ _).mp hinput with ⟨hcmd, -⟩ | ⟨hcmd, -⟩ | ⟨hcmd, -⟩
    · rw [procDeviceCtrl_guard hinfo (Or.inl hcmd)]
      exact CDataStore.sameDevices_setDeviceAlarmStatus _ _ _
    · rw [procDeviceCtrl_guard hinfo (Or.inr hcmd)]
      exact CDataStore.sameDevices_setDeviceAlarmStatus _ _ _
    · obtain ⟨alarms, hstep⟩ := procDeviceCtrl_resetalarm h hinfo hcmd
      rw [hstep]
      split
      · have hset := CDataStore.sameDevices_setDeviceAlarmStatus pszDeviceID
          { info with eStatus := .ONDUTY } { s with m_oAlarmingDeviceMap := alarms }
        exact ⟨hset.ids, hset.guids, hset.mem⟩
      · exact ⟨rfl, rfl, fun _ => Iff.rfl⟩
  | alarm r =>
    obtain ⟨hne, hg, h⟩ := hfor
    obtain ⟨info, hinfo, -⟩ := CDataStore.exists_alarmInfo h
    show s.SameDevices (handleAlarmInfoFromDevice r s).2
    rw [handleAlarmInfoFromDevice_eq hs h hinfo hne hg]
    split
    · exact CDataStore.SameDevices.refl s
    · have hset := CDataStore.sameDevices_setDeviceAlarmStatus id (r.recorded id info) s
      have h' := (hset.stored_iff id g).mpr h
      exact hset.trans (CDataStore.sameDevices_addAlarmInfo h' _)
    · exact CDataStore.sameDevices_addAlarmInfo h _

end Event

/-! ## Runs -/

/-- **Along a run the devices follow the machine** exactly when every event fits the store it
meets. -/
theorem follows_iff_fits {s : CDataStore} (hs : s.MutuallyInverse) {es : List GuardEvent}
    (hes : ∀ e ∈ es, e.ForStored s) :
    (∀ p ∈ calls guardStep s es, FollowsMachine p.1 p.2) ↔
      ∀ p ∈ calls guardStep s es, p.2.Fits p.1 := by
  refine @forall_calls_congr _ _ guardStep (fun s e => e.Fits s) FollowsMachine s.SameDevices s es
    ?_ ?_ (CDataStore.SameDevices.refl s)
  · intro s' e he hsame
    exact hsame.trans (sameDevices_guardStep (hsame.mutuallyInverse hs) ((hes e he).congr hsame))
  · intro s' e he hsame
    exact follows_iff_fits_of_forStored (hsame.mutuallyInverse hs) ((hes e he).congr hsame)

/-- A store with one device, off duty as devices are at first. -/
def sampleGuardStore : CDataStore :=
  (({} : CDataStore).addDeviceObjectByGUID (str "{A}")
    { m_strDeviceID := str "34020000001340000001", m_eGBDevType := 0,
      strDeviceGUID := str "{A}" }).addGUID (str "{A}") (str "34020000001340000001")

theorem sampleGuardStore_mutuallyInverse : sampleGuardStore.MutuallyInverse := by
  intro id g
  have hids : sampleGuardStore.m_DeviceIDMap.lookup id =
      if id = str "34020000001340000001" then some (str "{A}") else none := by
    rw [sampleGuardStore, CDataStore.addGUID, Map.lookup_insert_ite]
    rfl
  have hguids : sampleGuardStore.m_GUIDMap.lookup g =
      if g = str "{A}" then some (str "34020000001340000001") else none := by
    rw [sampleGuardStore, CDataStore.addGUID, Map.lookup_insert_ite]
    rfl
  rw [hids, hguids]
  split
  · rename_i hid
    split
    · rename_i hg
      exact iff_of_true (by rw [hg]) (by rw [hid])
    · rename_i hg
      exact iff_of_false (fun h => hg (Option.some.inj h).symm) nofun
  · rename_i hid
    split
    · exact iff_of_false nofun fun h => hid (Option.some.inj h).symm
    · exact iff_of_false nofun nofun

theorem sampleGuardStore_stored :
    sampleGuardStore.Stored (str "34020000001340000001") (str "{A}") :=
  ⟨by decide, by decide, by decide⟩

/-- Unguarding the device, which is off duty, fits. -/
theorem follows_unguard :
    sampleGuardStore.MutuallyInverse ∧
      ∀ p ∈ calls guardStep sampleGuardStore
        [.ctrl (str "ResetGuard") (str "34020000001340000001")], FollowsMachine p.1 p.2 := by
  have hfor : GuardEvent.ForStored sampleGuardStore
      (.ctrl (str "ResetGuard") (str "34020000001340000001")) :=
    ⟨by decide, _, _, rfl, sampleGuardStore_stored⟩
  refine ⟨sampleGuardStore_mutuallyInverse, ?_⟩
  refine (follows_iff_fits sampleGuardStore_mutuallyInverse
    (List.forall_mem_singleton.mpr hfor)).mpr ?_
  refine List.forall_mem_singleton.mpr ?_
  intro input hinput id g hisfor
  obtain rfl : input = .resetguard := by
    have hreset : GuardInput.ofText (str "ResetGuard") = some .resetguard := by decide
    exact Option.some.inj (hinput.symm.trans hreset)
  obtain ⟨rfl, -⟩ := hisfor
  refine ⟨Or.inr (by decide), fun id' hne h' => ?_⟩
  have hnone : sampleGuardStore.m_GUIDMap.lookup (str "34020000001340000001") = none := by decide
  have hid' := (sampleGuardStore_mutuallyInverse _ _).mp h'.lookup_eq
  rw [hnone] at hid'
  cases hid'

/-- Guarding the device leaves it off duty. -/
theorem setguard_ineffective :
    sampleGuardStore.MutuallyInverse ∧
      ¬ ∀ p ∈ calls guardStep sampleGuardStore
        [.ctrl (str "SetGuard") (str "34020000001340000001")], FollowsMachine p.1 p.2 := by
  refine ⟨sampleGuardStore_mutuallyInverse, fun h => ?_⟩
  have hfollows := h _ List.mem_cons_self .setguard (by decide) _ _
    ⟨rfl, sampleGuardStore_stored⟩ .OFFDUTY (by decide)
  revert hfollows
  rintro ⟨-, hguard, -⟩
  revert hguard
  decide

end GB28181.Platform
