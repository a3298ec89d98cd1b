import Mathlib.Algebra.Group.Nat.Defs
import GB28181.Base.Run
import GB28181.SipCom.RegisterObject

/-!
# Upper domains and the circling task (`RegMgrCom/SipDomain.cpp`)

`CSipDomain` with the clocks it keeps, and the poll `CirclingCheckingTask` makes of every remote
domain.  The two readings of the clock and the answer of `eXosip_register_build_initial_register`
are inputs of a poll.

* `run_circlingCheckingTask` — every domain lives through the polls on its own;
* `sends_iff` — a poll renews a registration exactly when `nExpires` seconds have passed **since
  the poll before it**, because a poll that does not renew winds the clock as well;
* `renewedInTime_iff` — the poll times at which every registration is renewed in time.
-/

set_option autoImplicit false

namespace GB28181.SipCom

open GB28181.Base

/-- `CSipDomain`, without the From text and the routing table, which no poll reads. -/
structure CSipDomain extends SipRegisterObject where
  m_strCallID : CStr
  m_nRegisterID : Int
  m_nCSeq : Int
  m_bNeedConneted : Bool
  deriving DecidableEq

inductive DomainEffect where
  /-- `eXosip_register_remove` -/
  | registerRemove (nRegisterID : Int)
  /-- `eXosip_register_send_register` -/
  | register (nRegisterID : Int) (strCallID strCSeq : CStr) (nExpires : Int)
  /-- `SendRequestMessage` -/
  | keepAlive (remoteID : CStr) (nSeq : Int) (strBody : CStr)
  deriving DecidableEq

structure Poll where
  /-- `time` in `NeedSendRegister` -/
  tmRegister : Int
  /-- `time` in `NeedSendkeepAlive` -/
  tmKeepAlive : Int
  /-- the register ID built, below 1 on failure, and the Call-ID of the request built -/
  built : Int × CStr

namespace CSipDomain

/-- `GetnSeq`: the sequence number and the domain after `m_nCSeq++`. -/
def getnSeq (d : CSipDomain) : Int × CSipDomain :=
  let m_nCSeq := if 0 > d.m_nCSeq then 0 else d.m_nCSeq
  (m_nCSeq, { d with m_nCSeq := (m_nCSeq + 1).bmod (2 ^ 32) })

def getStrCSeq (d : CSipDomain) : CStr × CSipDomain := (str (toString d.getnSeq.1), d.getnSeq.2)

/-- `NeedSendRegister` at the time `tmCur`. -/
def needSendRegister (tmCur : Int) (d : CSipDomain) : Int × CSipDomain :=
  if d.nStatus = .registerSuccess ∧ tmCur - d.timLastRegister < d.nExpires then
    (0, { d with timLastRegister := tmCur })
  else if d.m_bNeedConneted then (1, { d with timLastRegister := tmCur })
  else (0, d)

/-- `NeedSendkeepAlive` at the time `tmCur`. -/
def needSendkeepAlive (tmCur : Int) (d : CSipDomain) : Int × CSipDomain :=
  if d.nStatus = .registerSuccess then
    if d.timLastKeepAlive = 0 then (1, { d with timLastKeepAlive := tmCur })
    else if tmCur - d.timLastKeepAlive ≥ d.nKeepaliveInterval then
      (2, { d with timLastKeepAlive := tmCur })
    else (0, d)
  else (0, d)

/-- `RegisterTo` with `CSIPService::Register`. -/
def registerTo (built : Int × CStr) (d : CSipDomain) : List DomainEffect × CSipDomain :=
  -- `Fill_SipPacket` takes a sequence number that the request does not use
  let d := d.getnSeq.2
  let removed := if -1 < d.m_nRegisterID then [.registerRemove d.m_nRegisterID] else []
  if built.1 < 1 then (removed, d)
  else
    let strRegCallID := if cStr d.m_strCallID = [] then built.2 else cStr d.m_strCallID
    let d := { d with m_nRegisterID := built.1, m_strCallID := strRegCallID }
    (removed ++ [.register built.1 strRegCallID d.getStrCSeq.1 d.nExpires], d.getStrCSeq.2)

/-- `KeepAliveTo`, from the platform `currentID`. -/
def keepAliveTo (currentID : CStr) (d : CSipDomain) : List DomainEffect × CSipDomain :=
  let nSeq := d.getnSeq.1
  let d := d.getnSeq.2
  let strMsgBody :=
    str "<?xml version=\"1.0\"?>\r\n<Notify>\r\n<CmdType>Keepalive</CmdType>\r\n<SN>" ++
    d.getStrCSeq.1 ++ str "</SN>\r\n<DeviceID>" ++ currentID ++
    str "</DeviceID>\r\n<Status>OK</Status>\r\n</Notify>\r\n"
  ([.keepAlive d.strDeviceID nSeq strMsgBody], d.getStrCSeq.2)

/-- One turn of the loop of `CirclingCheckingTask`; the check for subscriptions only logs. -/
def check (currentID : CStr) (p : Poll) (d : CSipDomain) : List DomainEffect × CSipDomain :=
  let register := d.needSendRegister p.tmRegister
  let registered :=
    if register.1 ≠ 0 then registerTo p.built register.2 else ([], register.2)
  let keepAlive := registered.2.needSendkeepAlive p.tmKeepAlive
  let kept :=
    if keepAlive.1 ≠ 0 then keepAliveTo currentID keepAlive.2 else ([], keepAlive.2)
  (registered.1 ++ kept.1, kept.2)

end CSipDomain

/-- `CirclingCheckingTask` over the remote domains in the order the map enumerates them. -/
def circlingCheckingTask (currentID : CStr) (polls : CStr → Poll) :
    List (CStr × CSipDomain) → List DomainEffect × List (CStr × CSipDomain)
  | [] => ([], [])
  | item :: m_RemoteDomains =>
    let checked := item.2.check currentID (polls item.1)
    let rest := circlingCheckingTask currentID polls m_RemoteDomains
    (checked.1 ++ rest.1, (item.1, checked.2) :: rest.2)

/-! ## One domain -/

variable (currentID : CStr)

def pollStep (d : CSipDomain) (p : Poll) : CSipDomain := (d.check currentID p).2

theorem circlingCheckingTask_domains (polls : CStr → Poll)
    (m_RemoteDomains : List (CStr × CSipDomain)) :
    (circlingCheckingTask currentID polls m_RemoteDomains).2 =
      m_RemoteDomains.map fun item => (item.1, pollStep currentID item.2 (polls item.1)) := by
  induction m_RemoteDomains with
  | nil => rfl
  | cons item m_RemoteDomains ih =>
    rw [circlingCheckingTask, List.map_cons, ← ih]
    rfl

/-- **Every domain on its own.**  After a run of the task each entry is its domain after its own
polls. -/
theorem run_circlingCheckingTask (polls : List (CStr → Poll))
    (m_RemoteDomains : List (CStr × CSipDomain)) :
    run (fun m p => (circlingCheckingTask currentID p m).2) m_RemoteDomains polls =
      m_RemoteDomains.map fun item =>
        (item.1, run (pollStep currentID) item.2 (polls.map fun p => p item.1)) := by
  induction polls generalizing m_RemoteDomains with
  | nil => simp
  | cons p polls ih =>
    rw [run_cons, circlingCheckingTask_domains, ih, List.map_map]
    rfl

/-- The domain is connected to and registered, for `nExpires` seconds at a time. -/
structure Registered (nExpires : Int) (d : CSipDomain) : Prop where
  nStatus : d.nStatus = .registerSuccess
  m_bNeedConneted : d.m_bNeedConneted = true
  nExpires : d.nExpires = nExpires

/-- `d'` has the fields of `d` that the renewal depends on. -/
structure SameRegistration (d d' : CSipDomain) : Prop where
  nStatus : d'.nStatus = d.nStatus
  m_bNeedConneted : d'.m_bNeedConneted = d.m_bNeedConneted
  nExpires : d'.nExpires = d.nExpires
  timLastRegister : d'.timLastRegister = d.timLastRegister

theorem SameRegistration.trans {d₁ d₂ d₃ : CSipDomain} (h : SameRegistration d₁ d₂)
    (h' : SameRegistration d₂ d₃) : SameRegistration d₁ d₃ where
  nStatus := h'.nStatus.trans h.nStatus
  m_bNeedConneted := h'.m_bNeedConneted.trans h.m_bNeedConneted
  nExpires := h'.nExpires.trans h.nExpires
  timLastRegister := h'.timLastRegister.trans h.timLastRegister

theorem registerTo_keeps (built : Int × CStr) (d : CSipDomain) :
    SameRegistration d (d.registerTo built).2 := by
  unfold CSipDomain.registerTo
  dsimp only
  split
  · exact ⟨rfl, rfl, rfl, rfl⟩
  · exact ⟨rfl, rfl, rfl, rfl⟩

theorem needSendkeepAlive_keeps (tmCur : Int) (d : CSipDomain) :
    SameRegistration d (d.needSendkeepAlive tmCur).2 := by
  unfold CSipDomain.needSendkeepAlive
  repeat' split
  all_goals exact ⟨rfl, rfl, rfl, rfl⟩

theorem keepAliveTo_keeps (d : CSipDomain) : SameRegistration d (d.keepAliveTo currentID).2 :=
  ⟨rfl, rfl, rfl, rfl⟩

/-- What a poll leaves of the fields the renewal depends on is what `NeedSendRegister` left. -/
theorem pollStep_keeps (d : CSipDomain) (p : Poll) :
    SameRegistration (d.needSendRegister p.tmRegister).2 (pollStep currentID d p) := by
  unfold pollStep CSipDomain.check
  dsimp only
  generalize d.needSendRegister p.tmRegister = register
  have hreg : SameRegistration register.2
      (if register.1 ≠ 0 then register.2.registerTo p.built else ([], register.2)).2 := by
    split
    · exact registerTo_keeps _ _
    · exact ⟨rfl, rfl, rfl, rfl⟩
  generalize (if register.1 ≠ 0 then register.2.registerTo p.built else ([], register.2)) =
    registered at hreg ⊢
  have halive := hreg.trans (needSendkeepAlive_keeps p.tmKeepAlive registered.2)
  split
  · exact halive.trans (keepAliveTo_keeps currentID _)
  · exact halive

/-- `NeedSendRegister` winds the clock of a connected domain, whatever it returns. -/
theorem needSendRegister_winds {d : CSipDomain} (h : d.m_bNeedConneted = true) (tmCur : Int) :
    (d.needSendRegister tmCur).2 = { d with timLastRegister := tmCur } := by
  unfold CSipDomain.needSendRegister
  rw [if_pos h]
  split
  · rfl
  · rfl

/-- **Every poll winds the clock.** -/
theorem pollStep_registered {nExpires : Int} {d : CSipDomain} (h : Registered nExpires d)
    (p : Poll) : Registered nExpires (pollStep currentID d p) ∧
      (pollStep currentID d p).timLastRegister = p.tmRegister := by
  have hkeep := pollStep_keeps currentID d p
  rw [needSendRegister_winds h.m_bNeedConneted] at hkeep
  exact ⟨⟨hkeep.nStatus.trans h.nStatus, hkeep.m_bNeedConneted.trans h.m_bNeedConneted,
    hkeep.nExpires.trans h.nExpires⟩, hkeep.timLastRegister⟩

/-! ## Renewals -/

/-- The poll `p` after the polls `pre` finds that a REGISTER is due. -/
def Sends (d : CSipDomain) (pre : List Poll) (p : Poll) : Prop :=
  ((run (pollStep currentID) d pre).needSendRegister p.tmRegister).1 = 1

instance (d : CSipDomain) (pre : List Poll) (p : Poll) : Decidable (Sends currentID d pre p) :=
  inferInstanceAs (Decidable (_ = _))

/-- The time between a poll and the one before it; before the first poll stands the time `t` of
the last registration. -/
def gap (t : Int) (pre : List Poll) (p : Poll) : Int :=
  p.tmRegister - (pre.getLast?.map Poll.tmRegister).getD t

/-- In a run of polls a registered domain stays so, and its clock shows the last poll. -/
theorem run_registered {nExpires : Int} {d : CSipDomain} (pre : List Poll)
    (h : Registered nExpires d) :
    Registered nExpires (run (pollStep currentID) d pre) ∧
      (run (pollStep currentID) d pre).timLastRegister =
        (pre.getLast?.map Poll.tmRegister).getD d.timLastRegister := by
  induction pre generalizing d with
  | nil => exact ⟨h, rfl⟩
  | cons p pre ih =>
    obtain ⟨hp, ht⟩ := pollStep_registered currentID h p
    obtain ⟨hrun, hlast⟩ := ih hp
    refine ⟨hrun, ?_⟩
    rw [run_cons, hlast, ht, List.getLast?_cons]
    cases pre.getLast? <;> rfl

/-- **When a REGISTER is sent**: `nExpires` seconds after the poll before. -/
theorem sends_iff {nExpires : Int} {d : CSipDomain} (h : Registered nExpires d)
    (pre : List Poll) (p : Poll) :
    Sends currentID d pre p ↔ nExpires ≤ gap d.timLastRegister pre p := by
  obtain ⟨hrun, hlast⟩ := run_registered currentID pre h
  unfold Sends CSipDomain.needSendRegister
  rw [hrun.nStatus, hrun.m_bNeedConneted, hrun.nExpires, hlast]
  by_cases hin : gap d.timLastRegister pre p < nExpires
  · rw [if_pos ⟨rfl, hin⟩]
    simp [hin]
  · rw [if_neg (fun hc => hin hc.2)]
    simpa using hin

/-- Among `polls`, the polls `p`, `mid`, `q` follow each other, after `pre`. -/
def Stretch (polls pre : List Poll) (p : Poll) (mid : List Poll) (q : Poll) : Prop :=
  ∃ post, polls = pre ++ p :: (mid ++ q :: post)

/-- The registration is renewed in time: `nExpires` seconds after the last poll `p` that sent a
REGISTER, a poll `q` sends one. -/
def RenewedInTime (d : CSipDomain) (polls : List Poll) : Prop :=
  ∀ pre p mid q, Stretch polls pre p mid q → Sends currentID d pre p →
    (∀ m₁ m m₂, mid = m₁ ++ m :: m₂ → ¬ Sends currentID d (pre ++ p :: m₁) m) →
    d.nExpires ≤ q.tmRegister - p.tmRegister → Sends currentID d (pre ++ p :: mid) q

/-- After a poll that came `nExpires` seconds after the one before it, polls less than `nExpires`
apart do not go on for `nExpires` seconds. -/
def NoLongWatch (t nExpires : Int) (polls : List Poll) : Prop :=
  ∀ pre p mid q, Stretch polls pre p mid q → nExpires ≤ gap t pre p →
    (∀ m₁ m m₂, mid ++ [q] = m₁ ++ m :: m₂ → gap t (pre ++ p :: m₁) m < nExpires) →
    q.tmRegister - p.tmRegister < nExpires

/-- **Renewal.**  The registration to an upper domain is renewed in time exactly when the polls
keep no long watch after a renewal. -/
theorem renewedInTime_iff {d : CSipDomain} (hst : d.nStatus = .registerSuccess)
    (hneed : d.m_bNeedConneted = true) (polls : List Poll) :
    RenewedInTime currentID d polls ↔ NoLongWatch d.timLastRegister d.nExpires polls := by
  have h : Registered d.nExpires d := ⟨hst, hneed, rfl⟩
  constructor
  · intro hr pre p mid q hs hp hmid
    by_contra hlate
    have hq := (sends_iff currentID h _ q).mp
      (hr pre p mid q hs ((sends_iff currentID h pre p).mpr hp) (fun m₁ m m₂ he hm => by
        have := hmid m₁ m (m₂ ++ [q]) (by rw [he]; simp)
        have := (sends_iff currentID h _ m).mp hm
        omega) (by omega))
    have := hmid mid q [] rfl
    omega
  · intro hw pre p mid q hs hp hmid hlate
    by_contra hq
    have hlong := hw pre p mid q hs ((sends_iff currentID h pre p).mp hp) (fun m₁ m m₂ he => by
      by_contra hm
      have hsend : Sends currentID d (pre ++ p :: m₁) m :=
        (sends_iff currentID h _ m).mpr (by omega)
      rcases List.eq_nil_or_concat m₂ with rfl | ⟨m₃, x, rfl⟩
      · obtain ⟨rfl, hqm⟩ := List.append_inj' he rfl
        obtain rfl : q = m := (List.cons.inj hqm).1
        exact hq hsend
      · have hinit : mid = m₁ ++ m :: m₃ := by
          have he' : mid ++ [q] = (m₁ ++ m :: m₃) ++ [x] := by simpa using he
          exact (List.append_inj' he' rfl).1
        exact hmid m₁ m m₃ hinit hsend)
    omega

/-- A domain registered for 20 seconds. -/
def upperDomain : CSipDomain where
  strDeviceID := str "34020000002000000001"
  strIP := str "192.168.1.2"
  nPort := 5060
  nType := 4
  userName := str "34020000002000000001"
  strPassWord := str "12345678"
  nStatus := .registerSuccess
  nExpires := 20
  nNeedAuth := 0
  timLastRegister := 0
  timLastKeepAlive := 0
  nKeepaliveInterval := 60
  m_strCallID := []
  m_nRegisterID := 0
  m_nCSeq := 0
  m_bNeedConneted := true

/-- A poll at the time `t`. -/
def pollAt (t : Int) : Poll := ⟨t, t, (1, str "1")⟩

/-- A poll every ten seconds renews the registration once and never again. -/
theorem tenSeconds_lapses :
    ¬ RenewedInTime [] upperDomain [pollAt 20, pollAt 30, pollAt 40] := by
  intro h
  have hq := h [] (pollAt 20) [pollAt 30] (pollAt 40) ⟨[], rfl⟩ (by decide)
    (fun m₁ m m₂ he => by
      rcases m₁ with _ | ⟨x, _ | ⟨y, m₁⟩⟩
      · obtain ⟨rfl, -⟩ := List.cons.inj he
        decide
      · cases he
      · cases he) (by decide)
  revert hq
  decide

/-- Two polls that both renew it. -/
theorem lateDomain_renewed : RenewedInTime [] upperDomain [pollAt 20, pollAt 45] := by
  refine (renewedInTime_iff [] rfl rfl _).mpr ?_
  rintro pre p mid q ⟨post, he⟩ - hmid
  rcases pre with _ | ⟨x, _ | ⟨y, pre⟩⟩
  · rcases mid with _ | ⟨m, mid⟩
    · cases he
      exact absurd (hmid [] _ [] rfl) (by decide)
    · cases mid <;> cases he
  · cases mid <;> cases he
  · cases pre <;> cases he

end GB28181.SipCom
