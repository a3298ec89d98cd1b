import GB28181.Base.Decimal
import GB28181.Base.Fallible
import GB28181.Platform.DataStore

/-!
# Catalogue subscriptions (`CDevInfo::HandleSubscribe`, `SendCatalogSubscribeNotify`)

A dialog that subscribes to the catalogue gets a record in `m_oSubscribeMap`.  A later message on
the dialog changes the times of the record and leaves its target and its number; a notice goes out
for every record with the right target, whatever its times say.

* `handleSubscribe` — one message;
* `getSubscribeInfo`, `notifyCatalog` — who is told of a change, and what;
* `standing` — the request that stands on a dialog, read off the messages before it;
* `Recorded` — the records say what the standing requests say, kept by every message that repeats
  the target and the number of the record it meets (`recorded_subscribe`);
* `notifiesLive_iff` — then a notice goes to the live subscriptions **exactly when no record it
  meets has run out** and its text fits;
* `notifiesLive_of_fits` — **in a run of such messages and notices every notice does**.
-/

set_option autoImplicit false

namespace GB28181.Platform

open GB28181.Base

/-! ## The handler -/

/-- `SubInfo_t`. -/
structure SubInfoStruct where
  nCallID : BitVec 64
  szToDeviceID : CStr
  szSN : CStr
  remoteId : CStr
  deviceIdType : Int
  startTime : Int
  endTime : Int
  expireTime : Int
  guid : CStr
  deriving DecidableEq

/-- `m_oSubscribeMap`. -/
abbrev SubscribeMap := Map (BitVec 64) SubInfoStruct

/-- A message `HandleSubscribe` gets, with the time it is handled at and the devices stored then. -/
structure CatalogSubscribe where
  szSubID : CStr
  nCallID : BitVec 64
  szSN : CStr
  szSubExpiry : CStr
  remoteId : CStr
  curTime : Int
  store : CDataStore

/-- What the handler makes of a message it passes on. -/
inductive SubscribeAnswer
  | subscribe_timeout_notify | subscribe_noresrc_notify
  deriving DecidableEq

def CDataStore.checkDeviceObj (s : CDataStore) (pszDeviceId : CStr) : Bool :=
  match s.lookupGUID pszDeviceId with
  | none => false
  | some strGUID => decide (strGUID ≠ [])

variable (str_ID : CStr)

/-- `HandleSubscribe` on a platform with the ID `str_ID`. -/
def handleSubscribe (r : CatalogSubscribe) (m_oSubscribeMap : SubscribeMap) :
    Int × Option SubscribeAnswer × SubscribeMap :=
  let nSubExpiry := atoi r.szSubExpiry
  if r.szSubExpiry = str "Timeout" ∨ nSubExpiry = 0 then
    let kept := m_oSubscribeMap.erase r.nCallID
    if r.szSubExpiry = str "Timeout" then (0, some .subscribe_timeout_notify, kept)
    else (0, none, kept)
  else if str_ID = r.szSubID ∨ r.store.checkDeviceObj r.szSubID then
    match m_oSubscribeMap.lookup r.nCallID with
    | none =>
      (0, none, m_oSubscribeMap.insert r.nCallID
        { deviceIdType := 0
          expireTime := nSubExpiry
          startTime := r.curTime
          endTime := r.curTime + nSubExpiry
          nCallID := r.nCallID
          szToDeviceID := r.szSubID
          szSN := r.szSN
          remoteId := r.remoteId
          guid := (r.store.lookupGUID r.szSubID).getD [] })
    | some pSubInfo =>
      (0, none, m_oSubscribeMap.insert r.nCallID
        { pSubInfo with
          expireTime := nSubExpiry
          startTime := r.curTime
          endTime := r.curTime + nSubExpiry })
  else (-1, some .subscribe_noresrc_notify, m_oSubscribeMap)

/-! ## Notices -/

/-- The order in which the subscriptions are enumerated. -/
structure SubscribeOrder where
  keys : SubscribeMap → List (BitVec 64)
  mem_keys : ∀ (m : SubscribeMap) (c : BitVec 64), c ∈ keys m ↔ c ∈ m

/-- Some order. -/
noncomputable def SubscribeOrder.some : SubscribeOrder where
  keys m := m.keys.toList
  mem_keys m c := by rw [Finset.mem_toList, Finmap.mem_keys]

/-- A `subscribe_notify` message to the SIP module. -/
structure SubscribeNotify where
  nCallDialogID : BitVec 64
  szSN : CStr
  content : CStr
  deriving DecidableEq

/-- The subscription is to the platform or to the device. -/
def SubInfoStruct.Covers (subInfo : SubInfoStruct) (strDeviceID : CStr) : Prop :=
  subInfo.szToDeviceID = str_ID ∨ subInfo.szToDeviceID = strDeviceID

instance (subInfo : SubInfoStruct) (strDeviceID : CStr) :
    Decidable (subInfo.Covers str_ID strDeviceID) :=
  inferInstanceAs (Decidable (_ ∨ _))

/-- The text of a notice to a subscription; there is none when the process ends over it. -/
def SubInfoStruct.content (subInfo : SubInfoStruct) (pCatalog : CatalogItem)
    (eveType : CatalogEventType) : Option CStr :=
  createContent .notify
    (.device ⟨subInfo.szToDeviceID, subInfo.szSN, 1, [pCatalog], eveType⟩)

def sendCatalogSubscribeNotify (pCatalog : CatalogItem) (eveType : CatalogEventType)
    (subInfo : SubInfoStruct) : Option SubscribeNotify :=
  (subInfo.content pCatalog eveType).map fun content => ⟨subInfo.nCallID, subInfo.szSN, content⟩

section Notify

variable (O : SubscribeOrder) (store : CDataStore) (m_oSubscribeMap : SubscribeMap)

def getSubscribeInfo (pszDeviceID : CStr) : Option (List SubInfoStruct) :=
  (store.lookupGUID pszDeviceID).map fun _ =>
    ((O.keys m_oSubscribeMap).filterMap m_oSubscribeMap.lookup).filter fun pSubInfo =>
      pSubInfo.Covers str_ID pszDeviceID

/-- `OnLineInfoNotify`, and the common body of the two functions below: what they return and send,
unless the process ends over a text. -/
def notifyCatalog (pCatalog : CatalogItem) (eveType : CatalogEventType) :
    Option (Int × List SubscribeNotify) :=
  if pCatalog.m_strDeviceID.length ≠ 20 then some (-1, [])
  else
    match getSubscribeInfo str_ID O store m_oSubscribeMap pCatalog.m_strDeviceID with
    | none => some (-1, [])
    | some subList => do
      let sent ← subList.mapM (sendCatalogSubscribeNotify pCatalog eveType)
      some (0, sent)

def updateDeviceInfoNotify (pNewCatalog : CatalogItem) (bNew : Bool) :
    Option (Int × List SubscribeNotify) :=
  notifyCatalog str_ID O store m_oSubscribeMap pNewCatalog (if bNew then .add else .update)

def removeDeviceInfoNotify (pOldCatalog : CatalogItem) : Option (Int × List SubscribeNotify) :=
  notifyCatalog str_ID O store m_oSubscribeMap pOldCatalog .del

end Notify

/-! ## What stands on a dialog -/

/-- The message takes a subscription back. -/
def CatalogSubscribe.Ends (r : CatalogSubscribe) : Prop :=
  r.szSubExpiry = str "Timeout" ∨ atoi r.szSubExpiry = 0

/-- The message names the platform or a stored device. -/
def CatalogSubscribe.KnownTarget (r : CatalogSubscribe) : Prop :=
  str_ID = r.szSubID ∨ r.store.checkDeviceObj r.szSubID

/-- When what the message asks for runs out. -/
def CatalogSubscribe.deadline (r : CatalogSubscribe) : Int := r.curTime + atoi r.szSubExpiry

instance (r : CatalogSubscribe) : Decidable r.Ends := inferInstanceAs (Decidable (_ ∨ _))

instance (r : CatalogSubscribe) : Decidable (r.KnownTarget str_ID) :=
  inferInstanceAs (Decidable (_ ∨ _))

/-- The last request on the dialog `c` for the platform or the device `d`, unless the dialog took it
back; the messages are listed backwards. -/
def standing (d : CStr) (c : BitVec 64) : List CatalogSubscribe → Option CatalogSubscribe
  | [] => none
  | r :: before =>
    if r.nCallID ≠ c then standing d c before
    else if r.Ends then none
    else if r.KnownTarget str_ID ∧ (r.szSubID = str_ID ∨ r.szSubID = d) then some r
    else standing d c before

/-- What a notice for the device `d` at the time `now` should achieve: it goes out on the dialogs
with a standing request that has not run out, under the number of that request. -/
structure NotifiesLive (past : List CatalogSubscribe) (now : Int) (d : CStr)
    (sent : List SubscribeNotify) : Prop where
  due : ∀ c, (∃ msg ∈ sent, msg.nCallDialogID = c) ↔
    ∃ r, standing str_ID d c past = some r ∧ now < r.deadline
  number : ∀ msg ∈ sent, ∀ r, standing str_ID d msg.nCallDialogID past = some r →
    msg.szSN = r.szSN

/-! ## Runs -/

inductive CatalogEvent
  | subscribe (r : CatalogSubscribe)
  | notify (curTime : Int) (store : CDataStore) (pCatalog : CatalogItem)
      (eveType : CatalogEventType)

/-- The records, and beside them the messages so far, after an event. -/
def catalogSubscribeStep (s : SubscribeMap × List CatalogSubscribe) :
    CatalogEvent → SubscribeMap × List CatalogSubscribe
  | .subscribe r => ((handleSubscribe str_ID r s.1).2.2, r :: s.2)
  | .notify _ _ _ _ => s

/-- A notice goes to the live subscriptions. -/
def CatalogEvent.Correct (O : SubscribeOrder) (s : SubscribeMap × List CatalogSubscribe) :
    CatalogEvent → Prop
  | .subscribe _ => True
  | .notify curTime store pCatalog eveType =>
    ∃ ret sent, notifyCatalog str_ID O store s.1 pCatalog eveType = some (ret, sent) ∧
      NotifiesLive str_ID s.2 curTime pCatalog.m_strDeviceID sent

/-- A request fits if it repeats the target and the number of the record it meets. -/
def CatalogSubscribe.Fits (m_oSubscribeMap : SubscribeMap) (r : CatalogSubscribe) : Prop :=
  ¬ r.Ends → r.KnownTarget str_ID → ∀ i, m_oSubscribeMap.lookup r.nCallID = some i →
    i.szToDeviceID = r.szSubID ∧ i.szSN = r.szSN

/-- A notice for a stored device fits if no record it is sent for has run out and the texts are in
bounds; one for another device, if all those records have run out. -/
def NoticeFits (m_oSubscribeMap : SubscribeMap) (curTime : Int) (store : CDataStore)
    (pCatalog : CatalogItem) (eveType : CatalogEventType) : Prop :=
  ∀ c i, m_oSubscribeMap.lookup c = some i → i.Covers str_ID pCatalog.m_strDeviceID →
    if (store.lookupGUID pCatalog.m_strDeviceID).isSome then
      curTime < i.endTime ∧ (i.content pCatalog eveType).isSome
    else i.endTime ≤ curTime

def CatalogEvent.Fits (m_oSubscribeMap : SubscribeMap) : CatalogEvent → Prop
  | .subscribe r => r.Fits str_ID m_oSubscribeMap
  | .notify curTime store pCatalog eveType =>
    NoticeFits str_ID m_oSubscribeMap curTime store pCatalog eveType

/-- The records say what stands on the dialogs: target, number and deadline. -/
structure Recorded (s : SubscribeMap × List CatalogSubscribe) : Prop where
  dialog : ∀ c i, s.1.lookup c = some i → i.nCallID = c
  covering : ∀ d c,
    ((s.1.lookup c).filter fun i => i.Covers str_ID d).map (fun i => (i.szSN, i.endTime)) =
      (standing str_ID d c s.2).map fun r => (r.szSN, r.deadline)

/-! ## One message -/

section Message

variable {str_ID} {r : CatalogSubscribe} {m : SubscribeMap} {past : List CatalogSubscribe}

theorem CatalogSubscribe.Fits.of_none (h : m.lookup r.nCallID = none) : r.Fits str_ID m := by
  intro _ _ i hi
  rw [h] at hi
  cases hi

theorem handleSubscribe_ends (hends : r.Ends) :
    (handleSubscribe str_ID r m).2.2 = m.erase r.nCallID := by
  unfold handleSubscribe
  dsimp only
  rw [if_pos (show r.szSubExpiry = str "Timeout" ∨ atoi r.szSubExpiry = 0 from hends)]
  split
  · rfl
  · rfl

theorem handleSubscribe_unknown (hends : ¬ r.Ends) (hknown : ¬ r.KnownTarget str_ID) :
    (handleSubscribe str_ID r m).2.2 = m := by
  unfold handleSubscribe
  dsimp only
  rw [if_neg (show ¬ (r.szSubExpiry = str "Timeout" ∨ atoi r.szSubExpiry = 0) from hends),
    if_neg (show ¬ (str_ID = r.szSubID ∨ r.store.checkDeviceObj r.szSubID) from hknown)]

/-- A request that is taken and fits leaves a record that says what it says. -/
theorem handleSubscribe_known (hends : ¬ r.Ends) (hknown : r.KnownTarget str_ID)
    (hfits : r.Fits str_ID m) (hdialog : ∀ i, m.lookup r.nCallID = some i → i.nCallID = r.nCallID) :
    ∃ i, (handleSubscribe str_ID r m).2.2 = m.insert r.nCallID i ∧ i.nCallID = r.nCallID ∧
      i.szToDeviceID = r.szSubID ∧ i.szSN = r.szSN ∧ i.endTime = r.deadline := by
  unfold handleSubscribe
  dsimp only
  rw [if_neg (show ¬ (r.szSubExpiry = str "Timeout" ∨ atoi r.szSubExpiry = 0) from hends),
    if_pos (show str_ID = r.szSubID ∨ r.store.checkDeviceObj r.szSubID from hknown)]
  cases hold : m.lookup r.nCallID with
  | none => exact ⟨_, rfl, rfl, rfl, rfl, rfl⟩
  | some pSubInfo =>
    obtain ⟨htarget, hnumber⟩ := hfits hends hknown pSubInfo hold
    exact ⟨_, rfl, hdialog pSubInfo hold, htarget, hnumber, rfl⟩

theorem standing_other {d : CStr} {c : BitVec 64} (hc : c ≠ r.nCallID) :
    standing str_ID d c (r :: past) = standing str_ID d c past := by
  rw [standing, if_pos (Ne.symm hc)]

theorem standing_ends (hends : r.Ends) (d : CStr) :
    standing str_ID d r.nCallID (r :: past) = none := by
  rw [standing, if_neg (not_not.mpr rfl), if_pos hends]

theorem standing_asks (hends : ¬ r.Ends) (d : CStr) :
    standing str_ID d r.nCallID (r :: past) =
      if r.KnownTarget str_ID ∧ (r.szSubID = str_ID ∨ r.szSubID = d) then some r
      else standing str_ID d r.nCallID past := by
  rw [standing, if_neg (not_not.mpr rfl), if_neg hends]

theorem recorded_ends (h : Recorded str_ID (m, past)) (hends : r.Ends) :
    Recorded str_ID (m.erase r.nCallID, r :: past) := by
  constructor
  · intro c i hi
    rw [Map.lookup_erase_ite] at hi
    split at hi
    · cases hi
    · exact h.dialog c i hi
  · intro d c
    rw [Map.lookup_erase_ite]
    by_cases hc : c = r.nCallID
    · rw [if_pos hc, hc, standing_ends hends]
      rfl
    · rw [if_neg hc, standing_other hc]
      exact h.covering d c

theorem recorded_unknown (h : Recorded str_ID (m, past)) (hends : ¬ r.Ends)
    (hknown : ¬ r.KnownTarget str_ID) : Recorded str_ID (m, r :: past) := by
  refine ⟨h.dialog, fun d c => ?_⟩
  rw [h.covering d c]
  by_cases hc : c = r.nCallID
  · rw [hc, standing_asks hends, if_neg fun hand => hknown hand.1]
  · rw [standing_other hc]

/-- A request for a known target, which leaves the record `i` and fits the one before. -/
theorem recorded_known (h : Recorded str_ID (m, past)) (hends : ¬ r.Ends)
    (hknown : r.KnownTarget str_ID) (hfits : r.Fits str_ID m) {i : SubInfoStruct}
    (hdialog : i.nCallID = r.nCallID) (htarget : i.szToDeviceID = r.szSubID)
    (hnumber : i.szSN = r.szSN) (htime : i.endTime = r.deadline) :
    Recorded str_ID (m.insert r.nCallID i, r :: past) := by
  constructor
  · intro c i' hi'
    rw [Map.lookup_insert_ite] at hi'
    split at hi'
    · rename_i hc
      rw [← Option.some.inj hi', hdialog, hc]
    · exact h.dialog c i' hi'
  · intro d c
    rw [Map.lookup_insert_ite]
    by_cases hc : c = r.nCallID
    · rw [if_pos hc, hc, standing_asks hends, Option.filter_some]
      by_cases hcovers : i.Covers str_ID d
      · have hd : r.szSubID = str_ID ∨ r.szSubID = d := htarget ▸ hcovers
        rw [if_pos (decide_eq_true hcovers), if_pos ⟨hknown, hd⟩, Option.map_some,
          Option.map_some, hnumber, htime]
      · have hd : ¬ (r.szSubID = str_ID ∨ r.szSubID = d) := htarget ▸ hcovers
        -- the record before, if there is one, has the same target
        have hbefore : (m.lookup r.nCallID).filter (fun i => i.Covers str_ID d) = none := by
          rw [Option.filter_eq_none_iff]
          intro i₀ hi₀ hcovers₀
          exact hd ((hfits hends hknown i₀ hi₀).1 ▸ of_decide_eq_true hcovers₀)
        have hstanding := h.covering d r.nCallID
        rw [hbefore] at hstanding
        rw [if_neg (by simpa using hcovers), if_neg fun hand => hd hand.2, ← hstanding]
    · rw [if_neg hc, standing_other hc]
      exact h.covering d c

/-- **A message that fits** keeps the records in line with the dialogs. -/
theorem recorded_subscribe (h : Recorded str_ID (m, past)) (hfits : r.Fits str_ID m) :
    Recorded str_ID ((handleSubscribe str_ID r m).2.2, r :: past) := by
  by_cases hends : r.Ends
  · rw [handleSubscribe_ends hends]
    exact recorded_ends h hends
  · by_cases hknown : r.KnownTarget str_ID
    · obtain ⟨i, heq, hdialog, htarget, hnumber, htime⟩ :=
        handleSubscribe_known hends hknown hfits (h.dialog r.nCallID)
      rw [heq]
      exact recorded_known h hends hknown hfits hdialog htarget hnumber htime
    · rw [handleSubscribe_unknown hends hknown]
      exact recorded_unknown h hends hknown

end Message

/-! ## One notice -/

section Notice

variable {str_ID} {O : SubscribeOrder} {store : CDataStore} {m : SubscribeMap}
  {past : List CatalogSubscribe} {now : Int} {pCatalog : CatalogItem} {eveType : CatalogEventType}

theorem Recorded.standing_of_lookup (h : Recorded str_ID (m, past)) {d : CStr} {c : BitVec 64}
    {i : SubInfoStruct} (hi : m.lookup c = some i) (hcovers : i.Covers str_ID d) :
    ∃ r, standing str_ID d c past = some r ∧ i.szSN = r.szSN ∧
      i.endTime = r.deadline := by
  have hstanding := h.covering d c
  rw [hi, Option.filter_some, if_pos (decide_eq_true hcovers), Option.map_some] at hstanding
  obtain ⟨r, hr, heq⟩ := Option.map_eq_some_iff.mp hstanding.symm
  obtain ⟨hnumber, htime⟩ := Prod.mk.inj heq
  exact ⟨r, hr, hnumber.symm, htime.symm⟩

theorem Recorded.lookup_of_standing (h : Recorded str_ID (m, past)) {d : CStr} {c : BitVec 64}
    {r : CatalogSubscribe} (hr : standing str_ID d c past = some r) :
    ∃ i, m.lookup c = some i ∧ i.Covers str_ID d ∧ i.szSN = r.szSN ∧ i.endTime = r.deadline := by
  have hstanding := h.covering d c
  rw [hr, Option.map_some] at hstanding
  obtain ⟨i, hi, heq⟩ := Option.map_eq_some_iff.mp hstanding
  obtain ⟨hi, hcovers⟩ := Option.filter_eq_some_iff.mp hi
  obtain ⟨hnumber, htime⟩ := Prod.mk.inj heq
  exact ⟨i, hi, of_decide_eq_true hcovers, hnumber, htime⟩

theorem mem_getSubscribeInfo {d : CStr} {subList : List SubInfoStruct}
    (h : getSubscribeInfo str_ID O store m d = some subList) (i : SubInfoStruct) :
    i ∈ subList ↔ ∃ c, m.lookup c = some i ∧ i.Covers str_ID d := by
  obtain ⟨g, -, rfl⟩ := Option.map_eq_some_iff.mp h
  rw [List.mem_filter, List.mem_filterMap, decide_eq_true_iff]
  constructor
  · rintro ⟨⟨c, -, hi⟩, hcovers⟩
    exact ⟨c, hi, hcovers⟩
  · rintro ⟨c, hi, hcovers⟩
    refine ⟨⟨c, (O.mem_keys m c).mpr ?_, hi⟩, hcovers⟩
    exact Finmap.mem_of_lookup_eq_some hi

theorem notifyCatalog_unknown (hguid : store.lookupGUID pCatalog.m_strDeviceID = none) :
    notifyCatalog str_ID O store m pCatalog eveType = some (-1, []) := by
  unfold notifyCatalog
  split
  · rfl
  · rw [getSubscribeInfo, hguid]
    rfl

/-- A change of a stored device: the notices are made one by one, and the process must survive
making them. -/
theorem notifyCatalog_known (hguid : (store.lookupGUID pCatalog.m_strDeviceID).isSome) :
    ∃ subList, getSubscribeInfo str_ID O store m pCatalog.m_strDeviceID = some subList ∧
      notifyCatalog str_ID O store m pCatalog eveType =
        (subList.mapM (sendCatalogSubscribeNotify pCatalog eveType)).map fun sent => (0, sent) := by
  obtain ⟨g, hg⟩ := Option.isSome_iff_exists.mp hguid
  have hlen : pCatalog.m_strDeviceID.length = 20 := by
    by_contra hlen
    rw [CDataStore.lookupGUID, if_pos hlen] at hg
    cases hg
  refine ⟨_, by rw [getSubscribeInfo, hg]; rfl, ?_⟩
  rw [notifyCatalog, if_neg (not_not.mpr hlen), getSubscribeInfo, hg]
  dsimp only [Option.map_some]
  cases List.mapM (sendCatalogSubscribeNotify pCatalog eveType) _ <;> rfl

/-- A notice that went out is one of a record on its dialog, under the number of the record. -/
theorem Recorded.of_sent (h : Recorded str_ID (m, past)) {subList : List SubInfoStruct}
    (hsubs : getSubscribeInfo str_ID O store m pCatalog.m_strDeviceID = some subList)
    {sent : List SubscribeNotify}
    (hmapM : subList.mapM (sendCatalogSubscribeNotify pCatalog eveType) = some sent)
    {msg : SubscribeNotify} (hmsg : msg ∈ sent) :
    ∃ i, m.lookup msg.nCallDialogID = some i ∧ i.Covers str_ID pCatalog.m_strDeviceID ∧
      msg.szSN = i.szSN := by
  obtain ⟨i, hi, hsend⟩ := (mem_of_mapM hmapM msg).mp hmsg
  obtain ⟨content, -, rfl⟩ := Option.map_eq_some_iff.mp hsend
  obtain ⟨c, hi, hcovers⟩ := (mem_getSubscribeInfo hsubs i).mp hi
  obtain rfl : i.nCallID = c := h.dialog c i hi
  exact ⟨i, hi, hcovers, rfl⟩

/-- Every record on the platform or the device has its notice, on its dialog. -/
theorem Recorded.sent_of (h : Recorded str_ID (m, past)) {subList : List SubInfoStruct}
    (hsubs : getSubscribeInfo str_ID O store m pCatalog.m_strDeviceID = some subList)
    {sent : List SubscribeNotify}
    (hmapM : subList.mapM (sendCatalogSubscribeNotify pCatalog eveType) = some sent)
    {c : BitVec 64} {i : SubInfoStruct} (hi : m.lookup c = some i)
    (hcovers : i.Covers str_ID pCatalog.m_strDeviceID) :
    (i.content pCatalog eveType).isSome ∧ ∃ msg ∈ sent, msg.nCallDialogID = c := by
  have hall := mapM_isSome_iff.mp (Option.isSome_of_eq_some hmapM)
  have hin := (mem_getSubscribeInfo hsubs i).mpr ⟨c, hi, hcovers⟩
  obtain ⟨msg, hmsg⟩ := Option.isSome_iff_exists.mp (hall i hin)
  have hsent := (mem_of_mapM hmapM msg).mpr ⟨i, hin, hmsg⟩
  obtain ⟨content, hcontent, rfl⟩ := Option.map_eq_some_iff.mp hmsg
  exact ⟨Option.isSome_of_eq_some hcontent, _, hsent, h.dialog c i hi⟩

theorem NoticeFits.mapM_isSome (hfits : NoticeFits str_ID m now store pCatalog eveType)
    (hguid : (store.lookupGUID pCatalog.m_strDeviceID).isSome) {subList : List SubInfoStruct}
    (hsubs : getSubscribeInfo str_ID O store m pCatalog.m_strDeviceID = some subList) :
    (subList.mapM (sendCatalogSubscribeNotify pCatalog eveType)).isSome := by
  rw [mapM_isSome_iff]
  intro i hi
  obtain ⟨c, hi, hcovers⟩ := (mem_getSubscribeInfo hsubs i).mp hi
  have hfit := hfits c i hi hcovers
  rw [if_pos hguid] at hfit
  rw [sendCatalogSubscribeNotify, Option.isSome_map]
  exact hfit.2

/-- A change of a stored device, which reaches every record on the platform or on the device. -/
theorem notifiesLive_known_iff (h : Recorded str_ID (m, past))
    (hguid : (store.lookupGUID pCatalog.m_strDeviceID).isSome) :
    (∃ ret sent, notifyCatalog str_ID O store m pCatalog eveType = some (ret, sent) ∧
        NotifiesLive str_ID past now pCatalog.m_strDeviceID sent) ↔
      NoticeFits str_ID m now store pCatalog eveType := by
  obtain ⟨subList, hsubs, heq⟩ := @notifyCatalog_known str_ID O store m pCatalog eveType hguid
  constructor
  · rintro ⟨ret, sent, hsent, hlive⟩ c i hi hcovers
    rw [if_pos hguid]
    rw [heq] at hsent
    obtain ⟨sent', hmapM, hpair⟩ := Option.map_eq_some_iff.mp hsent
    obtain ⟨-, rfl⟩ := Prod.mk.inj hpair
    obtain ⟨hcontent, hmsg⟩ := h.sent_of hsubs hmapM hi hcovers
    obtain ⟨r, hr, hdue⟩ := (hlive.due c).mp hmsg
    obtain ⟨r', hr', -, htime⟩ := h.standing_of_lookup hi hcovers
    obtain rfl : r' = r := Option.some.inj (hr'.symm.trans hr)
    rw [htime]
    exact ⟨hdue, hcontent⟩
  · intro hfits
    obtain ⟨sent, hmapM⟩ := Option.isSome_iff_exists.mp (hfits.mapM_isSome hguid hsubs)
    refine ⟨0, sent, by rw [heq, hmapM]; rfl, fun c => ?_, ?_⟩
    · constructor
      · rintro ⟨msg, hmsg, rfl⟩
        obtain ⟨i, hi, hcovers, -⟩ := h.of_sent hsubs hmapM hmsg
        obtain ⟨r, hr, -, htime⟩ := h.standing_of_lookup hi hcovers
        have hfit := hfits _ i hi hcovers
        rw [if_pos hguid, htime] at hfit
        exact ⟨r, hr, hfit.1⟩
      · rintro ⟨r, hr, -⟩
        obtain ⟨i, hi, hcovers, -⟩ := h.lookup_of_standing hr
        exact (h.sent_of hsubs hmapM hi hcovers).2
    · intro msg hmsg r hr
      obtain ⟨i, hi, hcovers, hnumber⟩ := h.of_sent hsubs hmapM hmsg
      obtain ⟨r', hr', hnumber', -⟩ := h.standing_of_lookup hi hcovers
      obtain rfl : r' = r := Option.some.inj (hr'.symm.trans hr)
      rw [hnumber, hnumber']

theorem notifiesLive_unknown_iff (h : Recorded str_ID (m, past))
    (hguid : ¬ (store.lookupGUID pCatalog.m_strDeviceID).isSome) :
    (∃ ret sent, notifyCatalog str_ID O store m pCatalog eveType = some (ret, sent) ∧
        NotifiesLive str_ID past now pCatalog.m_strDeviceID sent) ↔
      NoticeFits str_ID m now store pCatalog eveType := by
  rw [notifyCatalog_unknown (Option.not_isSome_iff_eq_none.mp hguid)]
  constructor
  · rintro ⟨ret, sent, hsent, hlive⟩ c i hi hcovers
    obtain ⟨-, rfl⟩ := Prod.mk.inj (Option.some.inj hsent)
    obtain ⟨r, hr, -, htime⟩ := h.standing_of_lookup hi hcovers
    rw [if_neg hguid, htime]
    by_contra hlt
    obtain ⟨msg, hmsg, -⟩ := (hlive.due c).mpr ⟨r, hr, by omega⟩
    cases hmsg
  · intro hfits
    refine ⟨-1, [], rfl, fun c => ?_, fun msg hmsg => absurd hmsg List.not_mem_nil⟩
    constructor
    · rintro ⟨msg, hmsg, -⟩
      cases hmsg
    · rintro ⟨r, hr, hlt⟩
      obtain ⟨i, hi, hcovers, -, htime⟩ := h.lookup_of_standing hr
      have hfit := hfits c i hi hcovers
      rw [if_neg hguid] at hfit
      omega

/-- **Where the records are in line with the dialogs**, a notice goes to the live subscriptions
exactly when it fits. -/
theorem notifiesLive_iff (h : Recorded str_ID (m, past)) :
    (∃ ret sent, notifyCatalog str_ID O store m pCatalog eveType = some (ret, sent) ∧
        NotifiesLive str_ID past now pCatalog.m_strDeviceID sent) ↔
      NoticeFits str_ID m now store pCatalog eveType := by
  by_cases hguid : (store.lookupGUID pCatalog.m_strDeviceID).isSome
  · exact notifiesLive_known_iff h hguid
  · exact notifiesLive_unknown_iff h hguid

end Notice

/-! ## The runs -/

theorem recorded_empty : Recorded str_ID (∅, []) := ⟨nofun, fun _ _ => rfl⟩

variable {str_ID} in
/-- **One event** that fits. -/
theorem recorded_step (O : SubscribeOrder) (s : SubscribeMap × List CatalogSubscribe)
    (e : CatalogEvent) (h : Recorded str_ID s) (hfits : e.Fits str_ID s.1) :
    Recorded str_ID (catalogSubscribeStep str_ID s e) ∧ e.Correct str_ID O s := by
  cases e with
  | subscribe r => exact ⟨recorded_subscribe h hfits, trivial⟩
  | notify curTime store pCatalog eveType => exact ⟨h, (notifiesLive_iff h).mpr hfits⟩

/-- **Every notice of a run goes to the live subscriptions** when every message repeats the target
and the number of the record it meets and no notice meets a record that has run out. -/
theorem notifiesLive_of_fits (O : SubscribeOrder) (es : List CatalogEvent)
    (hfits : ∀ p ∈ calls (catalogSubscribeStep str_ID) (∅, []) es, p.2.Fits str_ID p.1.1) :
    ∀ p ∈ calls (catalogSubscribeStep str_ID) (∅, []) es, p.2.Correct str_ID O p.1 :=
  forall_calls (recorded_step O) (recorded_empty str_ID) hfits

/-- A camera as a change of it is told. -/
def sampleCatalog : CatalogItem where
  m_strDeviceID := str "34020000001320000001"
  m_strName := str "gate"
  m_strManufacturer := str "Honeywell"
  m_strModel := str "camera"
  m_strOwner := str "Owner"
  m_strCivilCode := str "340200"
  m_strBlock := []
  m_strAddress := str "Address"
  m_strParental := str "0"
  m_strParentID := []
  m_strSafetyWay := str "0"
  m_strRegisterWay := str "1"
  m_strCertifiable := str "0"
  m_strErrCode := str "0"
  m_strSecrecy := str "0"
  m_strStatus := str "ON"
  m_strLongitude := []
  m_strLatitude := []
  m_strInfoPTZType := str "1"
  eGBDeviceType := 0

def sampleCatalogStore : CDataStore :=
  ({} : CDataStore).addGUID (str "{A}") (str "34020000001320000001")

/-- A dialog asks for the camera for ten seconds. -/
def sampleRequest : CatalogSubscribe where
  szSubID := str "34020000001320000001"
  nCallID := 1
  szSN := str "17"
  szSubExpiry := str "10"
  remoteId := str "34020000002000000002"
  curTime := 0
  store := sampleCatalogStore

/-- What the platform with the ID `34020000002000000001` records of it. -/
theorem sampleRequest_record :
    ∃ i, (handleSubscribe (str "34020000002000000001") sampleRequest ∅).2.2 =
        (∅ : SubscribeMap).insert 1 i ∧
      i.szToDeviceID = str "34020000001320000001" ∧ i.szSN = str "17" ∧ i.endTime = 10 := by
  obtain ⟨i, hmap, -, htarget, hnumber, htime⟩ :=
    @handleSubscribe_known (str "34020000002000000001") sampleRequest ∅ (by decide) (by decide)
      (.of_none rfl) fun i hi => absurd hi (by simp)
  exact ⟨i, hmap, htarget, hnumber, htime.trans (by decide)⟩

/-- The camera changes while the subscription lives. -/
theorem notifiesLive_sample :
    (standing (str "34020000002000000001") (str "34020000001320000001") 1
        [sampleRequest]).isSome ∧
      ∀ p ∈ calls (catalogSubscribeStep (str "34020000002000000001")) (∅, [])
          [.subscribe sampleRequest, .notify 9 sampleCatalogStore sampleCatalog .update],
        p.2.Correct (str "34020000002000000001") SubscribeOrder.some p.1 := by
  obtain ⟨i₀, hmap, htarget, hnumber, htime⟩ := sampleRequest_record
  refine ⟨by decide, notifiesLive_of_fits _ _ _ ?_⟩
  rw [calls, List.forall_mem_cons]
  refine ⟨.of_none rfl, List.forall_mem_singleton.mpr ?_⟩
  intro c i hi hcovers
  rw [catalogSubscribeStep, hmap, Map.lookup_insert_ite] at hi
  split at hi
  · obtain rfl : i₀ = i := Option.some.inj hi
    rw [if_pos (by decide), htime, SubInfoStruct.content, htarget, hnumber]
    exact ⟨by omega, by decide +kernel⟩
  · cases hi

/-- The subscription ran out 90 seconds ago, and the change is sent all the same. -/
theorem expired_notified :
    ¬ ∀ (O : SubscribeOrder) (es : List CatalogEvent),
      ∀ p ∈ calls (catalogSubscribeStep (str "34020000002000000001")) (∅, []) es,
        p.2.Correct (str "34020000002000000001") O p.1 := by
  intro h
  obtain ⟨i₀, hmap, htarget, -, htime⟩ := sampleRequest_record
  have hcorrect := h SubscribeOrder.some
    [.subscribe sampleRequest, .notify 100 sampleCatalogStore sampleCatalog .update] _
    (List.mem_cons_of_mem _ List.mem_cons_self)
  have hrecorded := @recorded_subscribe (str "34020000002000000001") sampleRequest ∅ []
    (recorded_empty _) (.of_none rfl)
  have hlookup : (handleSubscribe (str "34020000002000000001") sampleRequest ∅).2.2.lookup 1 =
      some i₀ := by
    rw [hmap, Map.lookup_insert_ite, if_pos rfl]
  have hfits := (notifiesLive_iff hrecorded).mp hcorrect 1 i₀ hlookup (Or.inr htarget)
  rw [if_pos (by decide), htime] at hfits
  omega

end GB28181.Platform
