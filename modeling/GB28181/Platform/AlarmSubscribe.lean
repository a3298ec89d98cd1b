import GB28181.Base.Decimal
import GB28181.Base.Run
import GB28181.Platform.DataStore

/-!
# Alarm subscriptions (`CDevInfo::HandleAlarmSubscribe`)

A subscription is kept under the device it is for, in `m_oSubAlrmascribeMap`; `m_oSubIDMap` leads
from the dialog it came on to that device.  The second table is given the device the dialog had
before, and a dialog that ran out is not taken for one: its text is compared with `"TimeOut"`.

* `handleAlarmSubscribe` — one message, as far as the tables go: the answer before it and the
  recent alarms sent after it touch neither;
* `asked` — the device each dialog asked for last;
* `Agree` — the tables say what the dialogs asked for;
* `AlarmSubscribe.Fits` — a message that leaves agreeing tables in agreement (`agree_step_iff`);
* `agree_iff_fits` — **the tables agree with the dialogs in every state of a run exactly when all
  its messages fit**.
-/

set_option autoImplicit false

namespace GB28181.Platform

open GB28181.Base

/-! ## The handler -/

/-- `SubAlarmInfo_t`, with the values a table gives a new entry. -/
structure SubAlarmInfo where
  nCallID : BitVec 64 := 0
  szToDeviceID : CStr := []
  szSN : CStr := []
  alarmMethod : CStr := []
  remoteId : CStr := []
  deviceIdType : Int := 0
  startTime : Int := 0
  endTime : Int := 0
  expireTime : Int := 0
  guid : GUID := 0
  startProperty : Int := 0
  endProperty : Int := 0
  deriving DecidableEq

/-- A message `HandleAlarmSubscribe` gets, with the time it is handled at. -/
structure AlarmSubscribe where
  szSubID : CStr
  nCallID : BitVec 64
  szSN : CStr
  szSubExpiry : CStr
  remoteId : CStr
  strParamVal3 : CStr
  strParamVal4 : CStr
  strParamVal5 : CStr
  curTime : Int
  deriving DecidableEq

/-- The two tables of `CDevInfo`. -/
structure AlarmSubscriptions where
  m_oSubAlrmascribeMap : Map CStr SubAlarmInfo := ∅
  m_oSubIDMap : Map (BitVec 64) CStr := ∅

/-- The subscription a message asks for. -/
def AlarmSubscribe.subInfo (r : AlarmSubscribe) : SubAlarmInfo where
  alarmMethod := r.strParamVal3
  deviceIdType := 0
  expireTime := atoi r.szSubExpiry
  startTime := r.curTime
  endTime := r.curTime + atoi r.szSubExpiry
  nCallID := r.nCallID
  szToDeviceID := r.szSubID
  szSN := r.szSN
  remoteId := r.remoteId
  startProperty := atoi r.strParamVal4
  endProperty := atoi r.strParamVal5
  guid := 0

/-- `HandleAlarmSubscribe`, as far as the tables go.  `m_oSubIDMap` is given the text that was
looked up in it, which is empty at first. -/
def handleAlarmSubscribe (r : AlarmSubscribe) (s : AlarmSubscriptions) : AlarmSubscriptions :=
  if r.szSubExpiry = str "0" ∨ r.szSubExpiry = str "TimeOut" then
    match s.m_oSubIDMap.lookup r.nCallID with
    | none => s
    | some szToDeviceID =>
      { m_oSubAlrmascribeMap := s.m_oSubAlrmascribeMap.erase szToDeviceID
        m_oSubIDMap := s.m_oSubIDMap.erase r.nCallID }
  else
    let subscribed :=
      (s.m_oSubIDMap.lookup r.nCallID).elim s.m_oSubAlrmascribeMap s.m_oSubAlrmascribeMap.erase
    { m_oSubAlrmascribeMap := subscribed.insert r.szSubID r.subInfo
      m_oSubIDMap := s.m_oSubIDMap.insert r.nCallID (s.m_oSubIDMap.index r.nCallID []) }

/-! ## What the dialogs asked for -/

/-- The device each dialog has subscribed to with its last message.  `"Timeout"` is what the timer
sends and `HandleSubscribe` compares with. -/
def asked (live : Map (BitVec 64) CStr) (r : AlarmSubscribe) : Map (BitVec 64) CStr :=
  if r.szSubExpiry = str "0" ∨ r.szSubExpiry = str "Timeout" then live.erase r.nCallID
  else live.insert r.nCallID r.szSubID

/-- There is a subscription for exactly the devices that some dialog asked for, and the dialogs that
asked for one lead to it. -/
structure Agree (s : AlarmSubscriptions) (live : Map (BitVec 64) CStr) : Prop where
  devices : ∀ d, d ∈ s.m_oSubAlrmascribeMap ↔ ∃ c, live.lookup c = some d
  dialogs : ∀ c, s.m_oSubIDMap.lookup c = live.lookup c

/-- The message fits what the dialogs asked for before: an end of a subscription, if no other dialog
has one for the device; a subscription, if the dialog has it already, or has none and names no
device.  No time-out fits. -/
def AlarmSubscribe.Fits (live : Map (BitVec 64) CStr) (r : AlarmSubscribe) : Prop :=
  if r.szSubExpiry = str "0" then
    ∀ d, live.lookup r.nCallID = some d → ∀ c, c ≠ r.nCallID → live.lookup c ≠ some d
  else if r.szSubExpiry = str "Timeout" ∨ r.szSubExpiry = str "TimeOut" then False
  else
    live.lookup r.nCallID = some r.szSubID ∨ live.lookup r.nCallID = none ∧ r.szSubID = []

/-! ## One message -/

section Message

variable {s : AlarmSubscriptions} {live : Map (BitVec 64) CStr} {r : AlarmSubscribe}

theorem agree_unsubscribe_iff (h : Agree s live) (hexpiry : r.szSubExpiry = str "0") :
    Agree (handleAlarmSubscribe r s) (asked live r) ↔ r.Fits live := by
  rw [handleAlarmSubscribe, if_pos (Or.inl hexpiry), asked, if_pos (Or.inl hexpiry),
    AlarmSubscribe.Fits, if_pos hexpiry, h.dialogs]
  cases hold : live.lookup r.nCallID with
  | none =>
    have hsame : ∀ c, (live.erase r.nCallID).lookup c = live.lookup c := by
      intro c
      rw [Map.lookup_erase_ite]
      split
      · rename_i hc
        rw [hc, hold]
      · rfl
    refine iff_of_true ⟨fun d => ?_, fun c => ?_⟩ nofun
    · simp only [hsame]
      exact h.devices d
    · rw [hsame]
      exact h.dialogs c
  | some d₀ =>
    simp only [Option.some.injEq, forall_eq']
    constructor
    · intro h' c hc hlive
      -- the other dialog still asks for a device that has no subscription any more
      have hmem := (h'.devices d₀).mpr ⟨c, by rw [Map.lookup_erase_ite, if_neg hc, hlive]⟩
      rw [Finmap.mem_erase] at hmem
      exact hmem.1 rfl
    · intro hno
      refine ⟨fun d => ?_, fun c => ?_⟩
      · rw [Finmap.mem_erase, h.devices]
        simp only [Map.lookup_erase_ite]
        constructor
        · rintro ⟨hne, c, hc⟩
          refine ⟨c, ?_⟩
          rw [if_neg, hc]
          rintro rfl
          exact hne (Option.some.inj (hc.symm.trans hold))
        · rintro ⟨c, hc⟩
          split at hc
          · cases hc
          · rename_i hne
            exact ⟨fun hd => hno c hne (hd ▸ hc), c, hc⟩
      · rw [Map.lookup_erase_ite, Map.lookup_erase_ite, h.dialogs]

/-- A time-out parts the tables from the dialogs, under either spelling. -/
theorem not_agree_timeout
    (hexpiry : r.szSubExpiry = str "Timeout" ∨ r.szSubExpiry = str "TimeOut") :
    ¬ Agree (handleAlarmSubscribe r s) (asked live r) := by
  intro h'
  have hdialog := h'.dialogs r.nCallID
  rcases hexpiry with hexpiry | hexpiry
  · -- taken for a subscription
    have hno : ¬ (r.szSubExpiry = str "0" ∨ r.szSubExpiry = str "TimeOut") := by
      rw [hexpiry]
      decide
    rw [handleAlarmSubscribe, if_neg hno, asked, if_pos (Or.inr hexpiry)] at hdialog
    simp at hdialog
  · -- the other spelling, which ends a subscription only here
    have hno : ¬ (r.szSubExpiry = str "0" ∨ r.szSubExpiry = str "Timeout") := by
      rw [hexpiry]
      decide
    rw [handleAlarmSubscribe, if_pos (Or.inr hexpiry), asked, if_neg hno] at hdialog
    cases hold : s.m_oSubIDMap.lookup r.nCallID with
    | none =>
      rw [hold] at hdialog
      simp [hold] at hdialog
    | some d =>
      rw [hold] at hdialog
      simp at hdialog

/-- Where a dialog asks for the device it had already, the other devices keep their dialogs. -/
theorem exists_lookup_insert_iff {c₀ : BitVec 64} {d₀ d : CStr}
    (hold : ∀ d, live.lookup c₀ = some d → d = d₀) (hd : d ≠ d₀) :
    (∃ c, (live.insert c₀ d₀).lookup c = some d) ↔ ∃ c, live.lookup c = some d := by
  simp only [Map.lookup_insert_ite]
  constructor
  · rintro ⟨c, hc⟩
    split at hc
    · exact absurd (Option.some.inj hc).symm hd
    · exact ⟨c, hc⟩
  · rintro ⟨c, hc⟩
    refine ⟨c, ?_⟩
    rw [if_neg, hc]
    rintro rfl
    exact hd (hold d hc)

theorem mem_subscribed_iff {m : Map CStr SubAlarmInfo} {old : Option CStr} {d₀ d : CStr}
    (hold : ∀ d, old = some d → d = d₀) (hd : d ≠ d₀) :
    d ∈ old.elim m m.erase ↔ d ∈ m := by
  cases old with
  | none => exact Iff.rfl
  | some d₁ =>
    obtain rfl := hold d₁ rfl
    exact Finmap.mem_erase.trans (and_iff_right hd)

theorem agree_subscribe_iff (h : Agree s live) (hzero : r.szSubExpiry ≠ str "0")
    (htimeout : ¬ (r.szSubExpiry = str "Timeout" ∨ r.szSubExpiry = str "TimeOut")) :
    Agree (handleAlarmSubscribe r s) (asked live r) ↔ r.Fits live := by
  have hcode : ¬ (r.szSubExpiry = str "0" ∨ r.szSubExpiry = str "TimeOut") :=
    fun hor => hor.elim hzero fun h => htimeout (Or.inr h)
  have hasked : ¬ (r.szSubExpiry = str "0" ∨ r.szSubExpiry = str "Timeout") :=
    fun hor => hor.elim hzero fun h => htimeout (Or.inl h)
  rw [handleAlarmSubscribe, if_neg hcode, asked, if_neg hasked, AlarmSubscribe.Fits, if_neg hzero,
    if_neg htimeout]
  constructor
  · intro h'
    have hdialog := h'.dialogs r.nCallID
    simp only [Map.lookup_insert_ite, if_true, Option.some.injEq, Map.index, h.dialogs] at hdialog
    cases hold : live.lookup r.nCallID with
    | none =>
      rw [hold] at hdialog
      exact Or.inr ⟨rfl, hdialog.symm⟩
    | some d =>
      rw [hold] at hdialog
      exact Or.inl (congrArg some hdialog)
  · intro hfits
    have hindex : s.m_oSubIDMap.index r.nCallID [] = r.szSubID := by
      rw [Map.index, h.dialogs]
      rcases hfits with hold | ⟨hold, hempty⟩
      · rw [hold]
        rfl
      · rw [hold, hempty]
        rfl
    have hold : ∀ d, live.lookup r.nCallID = some d → d = r.szSubID := by
      intro d hlive
      rcases hfits with hsame | ⟨hnone, -⟩
      · exact Option.some.inj (hlive.symm.trans hsame)
      · rw [hnone] at hlive
        cases hlive
    refine ⟨fun d => ?_, fun c => ?_⟩
    · rw [Finmap.mem_insert, h.dialogs]
      by_cases hd : d = r.szSubID
      · refine iff_of_true (Or.inl hd) ⟨r.nCallID, ?_⟩
        rw [Map.lookup_insert_ite, if_pos rfl, hd]
      · rw [or_iff_right hd, mem_subscribed_iff hold hd, exists_lookup_insert_iff hold hd]
        exact h.devices d
    · rw [Map.lookup_insert_ite, Map.lookup_insert_ite, hindex, h.dialogs]

/-- **One message** on tables that agree with the dialogs. -/
theorem agree_step_iff (h : Agree s live) :
    Agree (handleAlarmSubscribe r s) (asked live r) ↔ r.Fits live := by
  by_cases hzero : r.szSubExpiry = str "0"
  · exact agree_unsubscribe_iff h hzero
  · by_cases htimeout : r.szSubExpiry = str "Timeout" ∨ r.szSubExpiry = str "TimeOut"
    · refine iff_of_false (not_agree_timeout htimeout) ?_
      rw [AlarmSubscribe.Fits, if_neg hzero, if_pos htimeout]
      exact not_false
    · exact agree_subscribe_iff h hzero htimeout

end Message

/-! ## Runs -/

/-- The tables, and beside them what the dialogs asked for, after a message. -/
def alarmSubscribeStep (s : AlarmSubscriptions × Map (BitVec 64) CStr) (r : AlarmSubscribe) :
    AlarmSubscriptions × Map (BitVec 64) CStr :=
  (handleAlarmSubscribe r s.1, asked s.2 r)

/-- **The tables agree with the dialogs after every message** of a run from empty tables exactly
when every message fits what the dialogs asked for before it. -/
theorem agree_iff_fits (rs : List AlarmSubscribe) :
    (∀ p ∈ calls alarmSubscribeStep ({}, ∅) rs,
        Agree (alarmSubscribeStep p.1 p.2).1 (alarmSubscribeStep p.1 p.2).2) ↔
      ∀ p ∈ calls alarmSubscribeStep ({}, ∅) rs, p.2.Fits p.1.2 := by
  have hempty : Agree ({} : AlarmSubscriptions) ∅ := by
    refine ⟨fun d => iff_of_false Finmap.notMem_empty ?_, fun _ => rfl⟩
    rintro ⟨c, hc⟩
    cases hc
  have hruns := @forall_calls_iff _ _ alarmSubscribeStep (fun s r => r.Fits s.2) (fun _ _ => True)
    (fun s => Agree s.1 s.2) (fun s r h => (and_iff_left trivial).trans (agree_step_iff h)) ({}, ∅)
    rs hempty
  simpa only [and_true] using hruns

/-- A dialog that subscribes to a camera leads to no device afterwards, so the subscription stays
when the dialog ends it. -/
theorem unsubscription_ineffective :
    ¬ ∀ p ∈ calls alarmSubscribeStep ({}, ∅)
        [⟨str "34020000001340000001", 1, str "1", str "3600", str "34020000002000000002", [], [],
          [], 0⟩,
          ⟨str "34020000001340000001", 1, str "2", str "0", str "34020000002000000002", [], [], [],
            10⟩],
      Agree (alarmSubscribeStep p.1 p.2).1 (alarmSubscribeStep p.1 p.2).2 := by
  intro h
  have hlast := (h _ (List.mem_cons_of_mem _ List.mem_cons_self)).devices
    (str "34020000001340000001")
  obtain ⟨c, hc⟩ := hlast.mp (by decide)
  revert hc
  have hnone : (alarmSubscribeStep (alarmSubscribeStep ({}, ∅)
      ⟨str "34020000001340000001", 1, str "1", str "3600", str "34020000002000000002", [], [], [],
        0⟩) ⟨str "34020000001340000001", 1, str "2", str "0", str "34020000002000000002", [], [],
        [], 10⟩).2 = ∅ := by
    decide
  rw [hnone]
  exact nofun

end GB28181.Platform
