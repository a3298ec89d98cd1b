import GB28181.Platform.AlarmSubscribe

/-!
# Notices of alarms (`CDevInfo::AlarmNotify`, `SendAlarm`, `AlarmReport`)

An alarm update names a device by its GUID.  `AlarmNotify` finds the device ID and the subscription,
looks the device up, and has a message made of its alarm.  The subscription is read through
`operator[]`, the device is looked up by GUID under its device ID, and the message is addressed from
a local `SubAlarmInfo_t` that nothing was assigned to.

* `alarmNotify` — the update; `nCallID` is what the local record happens to hold;
* `sent_remoteID` — **no message has a remote ID**;
* `mem_alarmNotify` — the device has an entry among the subscriptions afterwards;
* `ReachesSubscriber`, `alarmNotify_not_reaches` — what a notice should achieve, and that **no
  update for a known GUID achieves it**.
-/

set_option autoImplicit false

namespace GB28181.Platform

open GB28181.Base

/-! ## The update -/

/-- What `CreateAlarmBodyNew` makes the text of a body from. -/
structure AlarmBody where
  pszSN : CStr
  pszDeviceID : CStr
  alarmPriority : CStr
  alarmMethod : CStr
  alarmTime : CStr
  alarmDescription : CStr
  longitude : CStr
  latitude : CStr
  alarmType : CStr
  alarmStatus : CStr
  deriving DecidableEq

/-- An `alarm_request` message to the SIP module. -/
structure AlarmRequest where
  body : AlarmBody
  szSN : CStr
  szToDeviceID : CStr
  nCallDialogID : BitVec 64
  szRemoteID : CStr
  deriving DecidableEq

/-- What an alarm update reads and writes. -/
structure AlarmNotifier where
  store : CDataStore
  subscriptions : AlarmSubscriptions
  nSN : Nat

/-- `AlarmReport` on the fields of an alarm, as `SendAlarm` calls it. -/
def sendAlarm (nCallID : BitVec 64) (AlaInfo : DeviceAlarmInfo) (s : AlarmNotifier) :
    List AlarmRequest × AlarmNotifier :=
  let subAlarmInfo : SubAlarmInfo := { nCallID := nCallID }
  let next := { s with nSN := (s.nSN + 1) % 2 ^ 32 }
  if AlaInfo.strDeviceID ∈ s.subscriptions.m_oSubAlrmascribeMap then
    ([{ body :=
          { pszSN := subAlarmInfo.szSN
            pszDeviceID := AlaInfo.strDeviceID
            alarmPriority := AlaInfo.m_strPriority
            alarmMethod := str (toString AlaInfo.m_nAlarmMethord)
            alarmTime := AlaInfo.m_strTime
            alarmDescription := AlaInfo.m_Description
            longitude := []
            latitude := []
            alarmType := str (toString AlaInfo.m_nAlarmType)
            alarmStatus := AlaInfo.m_strAlarmStatus }
        szSN := toText s.nSN
        szToDeviceID := subAlarmInfo.szToDeviceID
        nCallDialogID := subAlarmInfo.nCallID
        szRemoteID := subAlarmInfo.remoteId }], next)
  else ([], next)

def alarmNotify (nCallID : BitVec 64) (strGUID : CStr) (s : AlarmNotifier) :
    Int × List AlarmRequest × AlarmNotifier :=
  match s.store.lookupDeviceID (withBraces strGUID) with
  | none => (-1, [], s)
  | some strDeviceGBID =>
    let subscriber := s.subscriptions.m_oSubAlrmascribeMap.index strDeviceGBID {}
    let s := { s with
      subscriptions.m_oSubAlrmascribeMap :=
        s.subscriptions.m_oSubAlrmascribeMap.touch strDeviceGBID {} }
    if subscriber.remoteId = [] then (0, [], s)
    else
      match s.store.lookupDeviceByGUID strDeviceGBID with
      | none => (-1, [], s)
      | some deviceInfo => (0, sendAlarm nCallID deviceInfo.getAlarmInfo s)

/-! ## What a notice should achieve -/

/-- The body has the data of the alarm. -/
structure AlarmBody.Carries (b : AlarmBody) (a : DeviceAlarmInfo) : Prop where
  device : b.pszDeviceID = a.strDeviceID
  priority : b.alarmPriority = a.m_strPriority
  method : b.alarmMethod = str (toString a.m_nAlarmMethord)
  time : b.alarmTime = a.m_strTime
  description : b.alarmDescription = a.m_Description
  type : b.alarmType = str (toString a.m_nAlarmType)
  status : b.alarmStatus = a.m_strAlarmStatus

/-- One message with the alarm to the subscriber of the device; none, and no change of the
subscriptions, when there is no subscriber. -/
structure ReachesSubscriber (subs : Map CStr SubAlarmInfo) (id : CStr) (a : DeviceAlarmInfo)
    (sent : List AlarmRequest) (subs' : Map CStr SubAlarmInfo) : Prop where
  subscribed : ∀ sub, subs.lookup id = some sub → ∃ m, sent = [m] ∧ m.body.Carries a ∧
    m.nCallDialogID = sub.nCallID ∧ m.szToDeviceID = sub.szToDeviceID ∧ m.szRemoteID = sub.remoteId
  unsubscribed : subs.lookup id = none → sent = [] ∧ subs' = subs

/-! ## What it does -/

section Update

variable {s : AlarmNotifier} {strGUID id : CStr}

theorem remoteID_sendAlarm (nCallID : BitVec 64) (AlaInfo : DeviceAlarmInfo) (s : AlarmNotifier) :
    ∀ m ∈ (sendAlarm nCallID AlaInfo s).1, m.szRemoteID = [] := by
  intro m hm
  unfold sendAlarm at hm
  dsimp only at hm
  split at hm
  · rw [List.mem_singleton.mp hm]
  · cases hm

theorem subscriptions_sendAlarm (nCallID : BitVec 64) (AlaInfo : DeviceAlarmInfo)
    (s : AlarmNotifier) : (sendAlarm nCallID AlaInfo s).2.subscriptions = s.subscriptions := by
  unfold sendAlarm
  dsimp only
  split
  · rfl
  · rfl

/-- A subscriber without a remote ID gets no message, and no message has a remote ID. -/
theorem sent_remoteID (hid : s.store.lookupDeviceID (withBraces strGUID) = some id)
    (nCallID : BitVec 64) :
    ∀ m ∈ (alarmNotify nCallID strGUID s).2.1,
      (s.subscriptions.m_oSubAlrmascribeMap.index id {}).remoteId ≠ [] ∧ m.szRemoteID = [] := by
  intro m hm
  unfold alarmNotify at hm
  rw [hid] at hm
  dsimp only at hm
  split at hm
  · cases hm
  · rename_i hremote
    split at hm
    · cases hm
    · exact ⟨hremote, remoteID_sendAlarm _ _ _ m hm⟩

theorem mem_alarmNotify (hid : s.store.lookupDeviceID (withBraces strGUID) = some id)
    (nCallID : BitVec 64) :
    id ∈ (alarmNotify nCallID strGUID s).2.2.subscriptions.m_oSubAlrmascribeMap := by
  unfold alarmNotify
  rw [hid]
  dsimp only
  split
  · exact Map.mem_touch _ _ _
  · split
    · exact Map.mem_touch _ _ _
    · rw [subscriptions_sendAlarm]
      exact Map.mem_touch _ _ _

/-- **No alarm reaches its subscriber**, and none leaves the subscriptions alone where there is no
subscriber. -/
theorem alarmNotify_not_reaches (hid : s.store.lookupDeviceID (withBraces strGUID) = some id)
    (nCallID : BitVec 64) (a : DeviceAlarmInfo) :
    ¬ ReachesSubscriber s.subscriptions.m_oSubAlrmascribeMap id a
      (alarmNotify nCallID strGUID s).2.1
      (alarmNotify nCallID strGUID s).2.2.subscriptions.m_oSubAlrmascribeMap := by
  intro hreaches
  cases hsub : s.subscriptions.m_oSubAlrmascribeMap.lookup id with
  | some sub =>
    obtain ⟨m, hsent, -, -, -, hremote⟩ := hreaches.subscribed sub hsub
    obtain ⟨hne, hempty⟩ := sent_remoteID hid nCallID m (by rw [hsent]; exact List.mem_cons_self)
    rw [Map.index_of_lookup hsub] at hne
    exact hne (hremote.symm.trans hempty)
  | none =>
    have hmem := mem_alarmNotify hid nCallID
    rw [(hreaches.unsubscribed hsub).2] at hmem
    exact Finmap.lookup_eq_none.mp hsub hmem

end Update

def sampleAlarm : DeviceAlarmInfo :=
  .ofAlarm (str "34020000001340000001") 2 1 (str "1") (str "door") (str "1")
    (str "2019-05-20T10:00:00")

/-- The camera with its alarm, which one dialog has asked for. -/
def sampleNotifier : AlarmNotifier where
  store :=
    (({} : CDataStore).addDeviceObjectByGUID (str "{A}")
      { m_strDeviceID := str "34020000001340000001", m_eGBDevType := 0,
        strDeviceGUID := str "{A}",
        p_GBDevDesInfo := some { m_AlarmInfo := sampleAlarm } }).addGUID (str "{A}")
      (str "34020000001340000001")
  subscriptions :=
    handleAlarmSubscribe ⟨str "34020000001340000001", 1, str "1", str "3600",
      str "34020000002000000002", [], [], [], 0⟩ {}
  nSN := 1

theorem alarmNotify_not_reaches_sample :
    ¬ ReachesSubscriber sampleNotifier.subscriptions.m_oSubAlrmascribeMap
      (str "34020000001340000001") sampleAlarm (alarmNotify 0 (str "A") sampleNotifier).2.1
      (alarmNotify 0 (str "A") sampleNotifier).2.2.subscriptions.m_oSubAlrmascribeMap :=
  alarmNotify_not_reaches (by decide) 0 sampleAlarm

/-- The subscriber is sent nothing: the camera is not found under its device ID taken for a GUID. -/
theorem subscriber_gets_nothing :
    ¬ ReachesSubscriber sampleNotifier.subscriptions.m_oSubAlrmascribeMap
      (str "34020000001340000001") sampleAlarm (alarmNotify 0 (str "{A}") sampleNotifier).2.1
      (alarmNotify 0 (str "{A}")
        sampleNotifier).2.2.subscriptions.m_oSubAlrmascribeMap := by
  intro hreaches
  have hsub : (sampleNotifier.subscriptions.m_oSubAlrmascribeMap.lookup
      (str "34020000001340000001")).isSome = true := by
    decide
  obtain ⟨sub, hsub⟩ := Option.isSome_iff_exists.mp hsub
  obtain ⟨m, hsent, -⟩ := hreaches.subscribed sub hsub
  have hnone : (alarmNotify 0 (str "{A}") sampleNotifier).2.1 = [] := by decide
  rw [hnone] at hsent
  cases hsent

end GB28181.Platform
