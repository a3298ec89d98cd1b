import GB28181.SipCom.RegisterAuth

/-!
# Runs of the registration manager

What a sequence of requests makes of the register table.

* `reRegistration_iff` — a device without `nNeedAuth` can register again **exactly until the first
  registered one unregisters**: `STATUS_REGISTER_EXIT` is a status no request leads out of;
* `oneAnswer_iff` — which REGISTER requests are answered once;
* `noTrace_iff` — requests of unknown devices leave no trace exactly when none of them gets as far
  as the lookup of its record.
-/

set_option autoImplicit false

namespace GB28181.SipCom

open GB28181.Base

variable (E : Env)

/-! ## Registering again -/

def registerStep (mgr : SipRegMgr) (ev : Event) : SipRegMgr := serve E mgr (.register ev)

/-- Every stored device without `nNeedAuth` can register: a well-formed request with a positive
`expires` is answered 200 and leaves `STATUS_REGISTER_SUCCESS`. -/
def ReRegistrationOpen (mgr : SipRegMgr) : Prop :=
  ∀ ev o r, regObject E ev = .ok (some o) → 0 < o.nExpires →
    mgr.stored o.strDeviceID = some r → r.nNeedAuth = 0 →
    answerCodes (onRegister E ev mgr).out = [200] ∧
      ∃ r', (onRegister E ev mgr).state.stored o.strDeviceID = some r' ∧
        r'.nStatus = .registerSuccess

/-- The request unregisters a device without `nNeedAuth` that is registered. -/
def Unregisters (mgr : SipRegMgr) (ev : Event) : Prop :=
  ∃ o r, regObject E ev = .ok (some o) ∧ o.nExpires = 0 ∧
    mgr.stored o.strDeviceID = some r ∧ r.nNeedAuth = 0 ∧ r.nStatus = .registerSuccess

/-- Every stored device without `nNeedAuth` is in a status a REGISTER request is served in. -/
def AllServed (mgr : SipRegMgr) : Prop :=
  ∀ d r, mgr.stored d = some r → r.nNeedAuth = 0 →
    r.nStatus = .notRegister ∨ r.nStatus = .registerSuccess

/-- Some stored device without `nNeedAuth` has unregistered. -/
def SomeExited (mgr : SipRegMgr) : Prop :=
  ∃ d r, mgr.stored d = some r ∧ r.nNeedAuth = 0 ∧ r.nStatus = .registerExit

/-- The status a REGISTER request leaves in a served record without `nNeedAuth`. -/
theorem nextStatus_served {ev : Event} {o r : SipRegisterObject}
    (ho : regObject E ev = .ok (some o)) (hn : r.nNeedAuth = 0)
    (hst : r.nStatus = .notRegister ∨ r.nStatus = .registerSuccess) :
    (Request.register ev).nextStatus E r =
      if o.nExpires ≠ 0 then .registerSuccess
      else if r.nStatus = .registerSuccess then .registerExit else .notRegister := by
  have hx := regObject_exit_iff E ho
  simp only [Request.nextStatus, ho]
  by_cases h0 : o.nExpires = 0
  · have ho' := hx.mpr h0
    rcases hst with hst | hst <;> simp [registeringStatus, hst, hn, h0, ho']
  · have ho' : o.nStatus ≠ .registerExit := fun e => h0 (hx.mp e)
    rcases hst with hst | hst <;> simp [registeringStatus, hst, hn, h0, ho']

theorem nextStatus_exit {r : SipRegisterObject} (hst : r.nStatus = .registerExit)
    (req : Request) : req.nextStatus E r = .registerExit := by
  cases req with
  | register ev =>
    simp only [Request.nextStatus, registeringStatus, hst]
    split <;> rfl
  | keepAlive t ev => exact hst
  | modifyPassword ev info => exact hst

theorem stored_of_serve {mgr : SipRegMgr} {req : Request} {d : CStr} {r' : SipRegisterObject}
    (h : (serve E mgr req).stored d = some r') :
    ∃ r, mgr.stored d = some r ∧ SameDevice r r' ∧
      r'.nStatus = if req.deviceId E = some d then req.nextStatus E r else r.nStatus := by
  cases hs : mgr.stored d with
  | none =>
    rw [serve_stored_none E hs] at h
    cases h
  | some r =>
    obtain ⟨r₁, h₁, hsame, hst⟩ := serve_stored_record E hs req
    obtain rfl : r₁ = r' := Option.some.inj (h₁.symm.trans h)
    exact ⟨r, rfl, hsame, hst⟩

theorem allServed_step {mgr : SipRegMgr} {ev : Event} (hu : ¬ Unregisters E mgr ev)
    (h : AllServed mgr) : AllServed (registerStep E mgr ev) := by
  intro d r' hs' hn'
  obtain ⟨r, hs, hsame, hst⟩ := stored_of_serve E hs'
  have hn : r.nNeedAuth = 0 := by rw [← hsame.nNeedAuth, hn']
  have hserved := h d r hs hn
  by_cases hd : (Request.register ev).deviceId E = some d
  · obtain ⟨o, ho, rfl⟩ := (Request.deviceId_eq_some E).mp hd
    rw [hst, if_pos hd, nextStatus_served E ho hn hserved]
    by_cases h0 : o.nExpires = 0
    · have hns : r.nStatus ≠ .registerSuccess := fun e => hu ⟨o, r, ho, h0, hs, hn, e⟩
      simp [h0, hns]
    · simp [h0]
  · rw [hst, if_neg hd]
    exact hserved

theorem someExited_of_unregisters {mgr : SipRegMgr} {ev : Event} (hu : Unregisters E mgr ev) :
    SomeExited (registerStep E mgr ev) := by
  obtain ⟨o, r, ho, h0, hs, hn, hst⟩ := hu
  have hd : (Request.register ev).deviceId E = some o.strDeviceID :=
    (Request.deviceId_eq_some E).mpr ⟨o, ho, rfl⟩
  obtain ⟨r', hs', hsame, hst'⟩ := serve_stored_record E hs (.register ev)
  refine ⟨o.strDeviceID, r', hs', by rw [hsame.nNeedAuth, hn], ?_⟩
  rw [hst', if_pos hd, nextStatus_served E ho hn (Or.inr hst)]
  simp [h0, hst]

theorem someExited_step {mgr : SipRegMgr} (ev : Event) (h : SomeExited mgr) :
    SomeExited (registerStep E mgr ev) := by
  obtain ⟨d, r, hs, hn, hst⟩ := h
  obtain ⟨r', hs', hsame, hst'⟩ := serve_stored_record E hs (.register ev)
  refine ⟨d, r', hs', by rw [hsame.nNeedAuth, hn], ?_⟩
  rw [hst', nextStatus_exit E hst, hst, ite_self]

theorem reRegistrationOpen_of_allServed {mgr : SipRegMgr} (h : AllServed mgr) :
    ReRegistrationOpen E mgr := by
  intro ev o r ho hexp hs hn
  have hd : (Request.register ev).deviceId E = some o.strDeviceID :=
    (Request.deviceId_eq_some E).mpr ⟨o, ho, rfl⟩
  have h0 : o.nExpires ≠ 0 := by omega
  have hx : o.nStatus ≠ .registerExit := fun e => h0 ((regObject_exit_iff E ho).mp e)
  have hserved := h o.strDeviceID r hs hn
  constructor
  · have hdef : registeringStatus o r = .registerDefault := by
      rcases hserved with hst | hst <;> simp [registeringStatus, hst, hn, hx]
    rw [onRegister_stored E ho hs, dispatch, hdef]
    rfl
  · obtain ⟨r', hs', -, hst'⟩ := serve_stored_record E hs (.register ev)
    refine ⟨r', hs', ?_⟩
    rw [hst', if_pos hd, nextStatus_served E ho hn hserved, if_pos h0]

/-- A device that has unregistered sends a REGISTER request and gets no answer. -/
theorem not_reRegistrationOpen_of_someExited {mgr : SipRegMgr} (h : SomeExited mgr) :
    ¬ ReRegistrationOpen E mgr := by
  intro hopen
  obtain ⟨d, r, hs, hn, hst⟩ := h
  have ho := regObject_registerEvent E d (str "3600") [] (n := 3600) (by decide) (by decide)
  have h200 := (hopen _ _ r ho (show (0 : Int) < 3600 by decide) hs hn).1
  have hexit : registeringStatus (registerEventObject E d 3600) r = .registerExit := by
    simp [registeringStatus, hst]
  rw [onRegister_stored E ho (show mgr.stored (registerEventObject E d 3600).strDeviceID = some r
    from hs), dispatch, hexit] at h200
  cases h200

/-- **Registering again.**  From a table of devices that never registered, every device without
`nNeedAuth` can register after a run of REGISTER requests if and only if no request of the run
unregistered a registered one. -/
theorem reRegistration_iff {mgr : SipRegMgr}
    (hinit : ∀ d r, mgr.m_RegisterObjects.lookup d = some r → r.nStatus = .notRegister)
    (evs : List Event) :
    ReRegistrationOpen E (run (registerStep E) mgr evs) ↔
      ∀ p ∈ calls (registerStep E) mgr evs, ¬ Unregisters E p.1 p.2 := by
  have hserved : AllServed mgr := fun d r hs _ =>
    Or.inl (hinit d r (SipRegMgr.stored_eq_some.mp hs).1)
  exact run_iff_of_trap
    (fun _ _ hu h => allServed_step E hu h)
    (fun _ _ hu _ => someExited_of_unregisters E (not_not.mp hu))
    (fun _ ev h => someExited_step E ev h)
    (fun _ h => reRegistrationOpen_of_allServed E h)
    (fun _ h => not_reRegistrationOpen_of_someExited E h) hserved

/-- A device that need not authenticate itself. -/
def openObject : SipRegisterObject := { unregisteredObject with nNeedAuth := 0 }

theorem oneObject_notRegister (d : CStr) (r : SipRegisterObject)
    (h : (oneObject openObject).m_RegisterObjects.lookup d = some r) :
    r.nStatus = .notRegister := by
  rw [oneObject, Map.lookup_insert_ite] at h
  split at h
  · cases h; rfl
  · rw [Finmap.lookup_empty] at h; cases h

def openRegister (expires : CStr) : Event := registerEvent openObject.strDeviceID expires []

theorem openRegister_not_unregisters {expires : CStr} {n : Int} (hn : stoi expires = some n)
    (h0 : n ≠ 0) (mgr : SipRegMgr) : ¬ Unregisters lengthEnv mgr (openRegister expires) := by
  rintro ⟨o, r, ho, hexp, -⟩
  rw [openRegister, regObject_registerEvent lengthEnv _ expires [] hn h0] at ho
  obtain rfl := Option.some.inj (Except.ok.inj ho)
  exact h0 hexp

/-- Registering twice, the device can register a third time. -/
theorem reRegistration_sample :
    ReRegistrationOpen lengthEnv (run (registerStep lengthEnv) (oneObject openObject)
      [openRegister (str "3600"), openRegister (str "60")]) := by
  refine (reRegistration_iff lengthEnv oneObject_notRegister _).mpr ?_
  intro p hp
  rcases List.mem_cons.mp hp with rfl | hp
  · exact openRegister_not_unregisters (n := 3600) (by decide) (by decide) _
  · rcases List.mem_singleton.mp hp with rfl
    exact openRegister_not_unregisters (n := 60) (by decide) (by decide) _

/-- Registered, unregistered, and then without an answer. -/
theorem reRegistration_closed :
    ¬ (∀ (mgr : SipRegMgr) (evs : List Event),
      (∀ d r, mgr.m_RegisterObjects.lookup d = some r → r.nStatus = .notRegister) →
      ReRegistrationOpen lengthEnv (run (registerStep lengthEnv) mgr evs)) := by
  intro h
  have ho := regObject_registerEvent lengthEnv openObject.strDeviceID (str "3600") []
    (n := 3600) (by decide) (by decide)
  have h200 := (h (oneObject openObject) [openRegister (str "3600"), openRegister (str "0")]
    oneObject_notRegister (openRegister (str "3600")) _
    { openObject with nStatus := .registerExit } ho (by decide) (by decide) rfl).1
  revert h200
  decide

/-! ## One answer -/

/-- A REGISTER request is answered exactly once. -/
def OneAnswer (ev : Event) (mgr : SipRegMgr) : Prop :=
  (answerCodes (onRegister E ev mgr).out).length = 1

/-- The header check ends without a fault and, where it refuses the request, without an answer of
its own; a stored device is in a status the switch of `OnRegister` has a case for, and sends
credentials where they are asked for. -/
def Answerable (ev : Event) (mgr : SipRegMgr) : Prop :=
  match regObject E ev with
  | .error _ => False
  | .ok none => checkMsgHeader ev E.fresh true ≠ .ok none
  | .ok (some o) =>
    match mgr.stored o.strDeviceID with
    | none => True
    | some r =>
      match r.nStatus with
      | .sent401Unauthorized => ev.authorizations ≠ []
      | .sendt403Forbidden | .registerExit | .other _ => False
      | _ => True

/-- **One answer.**  A REGISTER request is answered exactly once if and only if it is
`Answerable`. -/
theorem oneAnswer_iff (ev : Event) (mgr : SipRegMgr) :
    OneAnswer E ev mgr ↔ Answerable E ev mgr := by
  unfold OneAnswer Answerable
  cases ho : regObject E ev with
  | error f => simp [onRegister_fault E ho, answerCodes]
  | ok o =>
    cases o with
    | none =>
      rw [onRegister_refused E ho]
      by_cases hc : checkMsgHeader ev E.fresh true = .ok none <;>
        simp [hc, answerCodes, Effect.code]
    | some o =>
      cases hs : mgr.stored o.strDeviceID with
      | none => simp [onRegister_unknown E ho hs, hs, answerCodes, Effect.code]
      | some r =>
        simp only [onRegister_stored E ho hs, dispatch, hs]
        cases hst : r.nStatus with
        | notRegister =>
          by_cases hx : o.nStatus = .registerExit <;> by_cases hn : r.nNeedAuth = 0 <;>
            simp [registeringStatus, hst, hx, hn, answerCodes, Effect.code]
        | registerSuccess =>
          by_cases hn : r.nNeedAuth = 0 <;>
            simp [registeringStatus, hst, hn, answerCodes, Effect.code]
        | sent401Unauthorized =>
          cases ha : ev.authorizations <;>
            simp [registeringStatus, hst, answerCodes, Effect.code]
        | _ => simp [registeringStatus, hst, answerCodes, Effect.code]

def exitedObject : SipRegisterObject := { openObject with nStatus := .registerExit }

/-- It registers again and is not answered. -/
theorem exited_not_answered :
    ¬ OneAnswer lengthEnv (openRegister (str "3600")) (oneObject exitedObject) := by
  unfold OneAnswer
  decide

/-! ## Strangers -/

/-- The sequence changes no record, adds none, and reads no null record pointer. -/
def NoTrace (mgr : SipRegMgr) (reqs : List Request) : Prop :=
  (run (serve E) mgr reqs).m_RegisterObjects = mgr.m_RegisterObjects ∧
    ∀ p ∈ calls (serve E) mgr reqs, (handle E p.2 p.1).val ≠ .error .nullRecord

theorem serve_mem {mgr : SipRegMgr} {d : CStr} (h : d ∈ mgr.m_RegisterObjects) (req : Request) :
    d ∈ (serve E mgr req).m_RegisterObjects := by
  cases hd : req.deviceId E with
  | none => rwa [serve_of_no_device E hd]
  | some d' =>
    cases hs : mgr.stored d' with
    | none =>
      rw [serve_unknown E hd hs]
      exact Finmap.mem_insert.mpr (Or.inr h)
    | some r =>
      obtain ⟨r', ht, -, -⟩ := serve_stored E hd hs
      rw [ht]
      exact Finmap.mem_insert.mpr (Or.inr h)

/-- A request that gets as far as the lookup leaves a record under its device ID. -/
theorem mem_serve_deviceId {mgr : SipRegMgr} {req : Request} {d : CStr}
    (h : req.deviceId E = some d) : d ∈ (serve E mgr req).m_RegisterObjects := by
  cases hs : mgr.stored d with
  | none =>
    rw [serve_unknown E h hs]
    exact Map.mem_touch _ d E.fresh
  | some r =>
    obtain ⟨r', ht, -, -⟩ := serve_stored E h hs
    rw [ht]
    exact Finmap.mem_insert.mpr (Or.inl rfl)

theorem mem_run_deviceId {d : CStr} {mgr : SipRegMgr} {reqs : List Request}
    (h : ∃ req ∈ reqs, req.deviceId E = some d) :
    d ∈ (run (serve E) mgr reqs).m_RegisterObjects := by
  induction reqs generalizing mgr with
  | nil =>
    obtain ⟨_, hr, -⟩ := h
    cases hr
  | cons req reqs ih =>
    obtain ⟨req', hr, hd⟩ := h
    rcases List.mem_cons.mp hr with rfl | hrest
    · have hkeep : ∀ s i, d ∈ s.m_RegisterObjects → d ∈ (serve E s i).m_RegisterObjects :=
        fun s i hs => serve_mem E hs i
      exact run_induct hkeep (mem_serve_deviceId E hd) reqs
    · exact ih ⟨req', hrest, hd⟩

theorem stoiE_fault {s : CStr} {f : Fault} (h : stoiE s = .error f) : f = .badNumber := by
  unfold stoiE at h
  split at h
  · cases h
  · exact (Except.error.inj h).symm

theorem checkMsgHeader_fault {ev : Event} {o : SipRegisterObject} {with_contact : Bool} {f : Fault}
    (h : checkMsgHeader ev o with_contact = .error f) : f = .badNumber := by
  unfold checkMsgHeader at h
  split at h
  · cases h
  · split at h
    · unfold checkMsgHeader_Contact at h
      split at h
      · rename_i port _
        cases hp : stoiE port with
        | error e =>
          rw [hp] at h
          obtain rfl : e = f := Except.error.inj h
          exact stoiE_fault hp
        | ok n => rw [hp] at h; cases h
      · cases h
    · cases h

theorem checkExpires_fault {ev : Event} {o : SipRegisterObject} {f : Fault}
    (h : checkExpires ev o = .error f) : f ≠ .nullRecord := by
  unfold checkExpires at h
  split at h
  · cases h
  · cases h; decide
  · rename_i hvalue _
    cases hp : stoiE hvalue with
    | error e =>
      rw [hp] at h
      obtain rfl : e = f := Except.error.inj h
      rw [stoiE_fault hp]
      decide
    | ok n => rw [hp] at h; cases h

theorem Request.object_fault {req : Request} {f : Fault} (h : req.object E = .error f) :
    f ≠ .nullRecord := by
  cases req with
  | register ev =>
    simp only [Request.object, regObject] at h
    split at h
    · exact checkExpires_fault h
    · rw [checkMsgHeader_fault h]; decide
  | keepAlive t ev => rw [checkMsgHeader_fault h]; decide
  | modifyPassword ev info => rw [checkMsgHeader_fault h]; decide

/-- A request that does not get as far as the lookup reads no record pointer. -/
theorem handle_of_no_device {req : Request} (h : req.deviceId E = none) (mgr : SipRegMgr) :
    (handle E req mgr).val ≠ .error .nullRecord := by
  rcases (Request.deviceId_eq_none E).mp h with ho | ⟨f, ho⟩
  · obtain ⟨c, hc⟩ := (handle_refused E ho mgr).2
    rw [hc]
    intro e
    cases e
  · rw [handle_fault E ho]
    exact fun e => Request.object_fault E ho (Except.error.inj e)

/-- **Strangers.**  A sequence of requests of devices without a record leaves no trace if and only
if the header check stops every one of them. -/
theorem noTrace_iff {mgr : SipRegMgr} {reqs : List Request}
    (strangers : ∀ req ∈ reqs, ∀ d, req.deviceId E = some d → d ∉ mgr.m_RegisterObjects) :
    NoTrace E mgr reqs ↔ ∀ req ∈ reqs, req.deviceId E = none := by
  constructor
  · rintro ⟨hsame, -⟩ req hr
    cases hd : req.deviceId E with
    | none => rfl
    | some d =>
      have hmem : d ∈ (run (serve E) mgr reqs).m_RegisterObjects := mem_run_deviceId E ⟨req, hr, hd⟩
      rw [hsame] at hmem
      exact absurd hmem (strangers req hr d hd)
  · intro h
    constructor
    · have hcalls : ∀ p ∈ calls (serve E) mgr reqs, p.2.deviceId E = none := by
        intro p hp
        obtain ⟨pre, post, he, -⟩ := mem_calls_iff.mp hp
        exact h p.2 (by rw [he]; simp)
      have hkeep : ∀ s i, i.deviceId E = none → s = mgr → serve E s i = mgr :=
        fun s i hi hs => by rw [serve_of_no_device E hi, hs]
      rw [run_invariant hkeep rfl hcalls]
    · intro p hp
      obtain ⟨pre, post, he, -⟩ := mem_calls_iff.mp hp
      exact handle_of_no_device E (h p.2 (by rw [he]; simp)) p.1

/-- A REGISTER request of a device the table does not know. -/
def strangerRegister : Request := .register (registerEvent (str "1") (str "3600") [])

theorem strangerRegister_deviceId : strangerRegister.deviceId lengthEnv = some (str "1") :=
  (Request.deviceId_eq_some lengthEnv).mpr ⟨_, regObject_registerEvent lengthEnv (str "1")
    (str "3600") [] (n := 3600) (by decide) (by decide), rfl⟩

theorem strangerRegister_unknown (req : Request) (hr : req ∈ [strangerRegister]) (d : CStr)
    (hd : req.deviceId lengthEnv = some d) : d ∉ (oneObject openObject).m_RegisterObjects := by
  rcases List.mem_singleton.mp hr with rfl
  obtain rfl := Option.some.inj (strangerRegister_deviceId.symm.trans hd)
  decide

/-- The table keeps a trace of it. -/
theorem strangerRegister_noticed :
    ¬ NoTrace lengthEnv (oneObject openObject) [strangerRegister] := by
  intro h
  have hnone := (noTrace_iff lengthEnv strangerRegister_unknown).mp h _ List.mem_cons_self
  rw [strangerRegister_deviceId] at hnone
  cases hnone

/-- The trace is an empty record under its ID. -/
theorem stranger_leaves_record :
    ¬ (∀ (mgr : SipRegMgr) (reqs : List Request),
      (∀ req ∈ reqs, ∀ d, req.deviceId lengthEnv = some d → d ∉ mgr.m_RegisterObjects) →
      NoTrace lengthEnv mgr reqs) := by
  intro h
  obtain ⟨hsame, -⟩ := h (oneObject openObject) [strangerRegister] strangerRegister_unknown
  have hmem : str "1" ∈ (oneObject openObject).m_RegisterObjects := by
    rw [← hsame]
    exact mem_run_deviceId lengthEnv ⟨_, List.mem_cons_self, strangerRegister_deviceId⟩
  revert hmem
  decide

end GB28181.SipCom
