import GB28181.SipCom.SIPServiceTotal

/-!
# Releases and answers of the SIP front end

How often `HandleSIP` releases an event and answers the request it carries, for one event and for
any sequence of events.

* `emits_quiet_` — what runs after the dispatch neither releases nor answers;
* `frees_handleSIP` — an event is released once if `HandleSIP` comes to the end of its switch, and
  not at all otherwise;
* `finalAnswers_handleRequest` — it is answered where the stack finds its transaction and its case
  answers;
* `eventOnce_iff` — the events that are released once and answered once;
* `eventsOnce_iff` — the same for every run.
-/

set_option autoImplicit false

namespace GB28181.SipCom

open GB28181.Base

namespace SipEffect

def isFree : SipEffect → Bool
  | eventFree _ => true
  | _ => false

/-- A final answer to the request of a transaction. -/
def isFinalAnswer (tid : Int) : SipEffect → Bool
  | answer t nCode => t = tid ∧ 200 ≤ nCode
  | regAnswer t nCode _ _ => t = tid ∧ 200 ≤ nCode
  | callAnswer t nCode _ => t = tid ∧ 200 ≤ nCode
  | _ => false

def NotFree (e : SipEffect) : Prop := e.isFree = false

def Quiet (e : SipEffect) : Prop := e.NotFree ∧ ∀ tid, e.isFinalAnswer tid = false

end SipEffect

open SipEffect (NotFree Quiet)

variable (E : ServiceEnv)

/-! ## What the handlers emit -/

theorem emits_relayWith {request : OsipMessage}
    {send : SipMessage → SipMessageMaker → Service Unit} {P : SipEffect → Prop}
    (h : ∀ maker, Proc.Emits P (send (parserMessage request) maker)) :
    Proc.Emits P (relayWith request send) := by
  refine Proc.emits_bind Proc.emits_get fun svc => ?_
  refine Proc.emits_bind (Proc.emits_lift _) fun found => ?_
  cases found with
  | none => exact Proc.emits_pure _
  | some maker => exact h maker

theorem emits_quiet_buildNewRequestMessageSend (maker : SipMessageMaker) (psz_Seq : CStr)
    (psz_body : Option CStr) (psz_method : String) :
    Proc.Emits Quiet (buildNewRequestMessageSend E maker psz_Seq psz_body psz_method) :=
  Proc.emits_bind (Proc.emits_lift _) fun _ => Proc.emits_emit ⟨rfl, fun _ => rfl⟩

theorem emits_quiet_relayMessageInfo (ev : EXosipEvent) (request : OsipMessage) :
    Proc.Emits Quiet (relayMessageInfo E ev request) := by
  refine emits_relayWith fun maker => ?_
  split
  · exact Proc.emits_emit ⟨rfl, fun _ => rfl⟩
  · exact Proc.emits_pure _

theorem emits_quiet_relayMessageNew (ev : EXosipEvent) (request : OsipMessage) :
    Proc.Emits Quiet (relayMessageNew E ev request) := by
  unfold relayMessageNew
  split
  · exact emits_quiet_relayMessageInfo E ev request
  · exact emits_relayWith fun maker => emits_quiet_buildNewRequestMessageSend E maker _ _ _

theorem emits_quiet_relayMessageAnswered (request : OsipMessage) :
    Proc.Emits Quiet (relayMessageAnswered E request) :=
  emits_relayWith fun maker => emits_quiet_buildNewRequestMessageSend E maker _ _ _

theorem emits_quiet_relaySubscription (request : OsipMessage) :
    Proc.Emits Quiet (relaySubscription E request) :=
  emits_relayWith fun maker => emits_quiet_buildNewRequestMessageSend E maker _ _ _

theorem emits_quiet_sendSharedBody (msg : SipMessage) (block : IpcSipBlock) :
    Proc.Emits Quiet (sendSharedBody msg block) :=
  Proc.emits_bind (Proc.emits_lift _) fun _ => Proc.emits_emit ⟨rfl, fun _ => rfl⟩

theorem emits_quiet_sendDataToShared (ev : EXosipEvent) (msg : SipMessage) (block : IpcSipBlock) :
    Proc.Emits Quiet (sendDataToShared ev msg block) :=
  Proc.emits_bind (Proc.emits_lift _) fun _ => emits_quiet_sendSharedBody msg _

theorem emits_quiet_handleSubscribe (ev : EXosipEvent) (msg : SipMessage) (block : IpcSipBlock) :
    Proc.Emits Quiet (handleSubscribe ev msg block) :=
  Proc.emits_bind (Proc.emits_lift _) fun _ => emits_quiet_sendSharedBody msg _

theorem emits_quiet_handleInfo (ev : EXosipEvent) (msg : SipMessage) :
    Proc.Emits Quiet (handleInfo ev msg) :=
  Proc.emits_bind (Proc.emits_lift _) fun _ => Proc.emits_emit ⟨rfl, fun _ => rfl⟩

theorem emits_quiet_handleBye (ev : EXosipEvent) (msg : SipMessage) :
    Proc.Emits Quiet (handleBye ev msg) :=
  Proc.emits_bind (Proc.emits_lift _) fun _ => Proc.emits_emit ⟨rfl, fun _ => rfl⟩

theorem emits_quiet_handleACK (ev : EXosipEvent) (msg : SipMessage) :
    Proc.Emits Quiet (handleACK ev msg) :=
  Proc.emits_bind (Proc.emits_lift _) fun _ => emits_quiet_sendSharedBody msg _

theorem emits_quiet_handleInvite (ev : EXosipEvent) (msg : SipMessage) :
    Proc.Emits Quiet (handleInvite E ev msg) :=
  Proc.emits_bind (Proc.emits_lift _) fun _ =>
    Proc.emits_bind (Proc.emits_lift _) fun _ => emits_quiet_sendSharedBody msg _

theorem emits_quiet_handleInviteResponse (ev : EXosipEvent) (msg : SipMessage) :
    Proc.Emits Quiet (handleInviteResponse ev msg) :=
  Proc.emits_bind (Proc.emits_lift _) fun _ => Proc.emits_bind Proc.emits_get fun _ =>
    Proc.emits_bind (Proc.emits_update _) fun _ => emits_quiet_sendSharedBody msg _

theorem emits_quiet_handleRegFail (ev : EXosipEvent) (msg : SipMessage) :
    Proc.Emits Quiet (handleRegFail E ev msg) := by
  refine Proc.emits_bind Proc.emits_get fun svc => ?_
  refine Proc.emits_bind (Proc.emits_lift _) fun status_code => ?_
  split
  · split
    · exact Proc.emits_bind (Proc.emits_update _) fun _ => Proc.emits_emit ⟨rfl, fun _ => rfl⟩
    · exact Proc.emits_pure _
  · split
    · exact Proc.emits_pure _
    · exact emits_quiet_sendDataToShared _ _ _

theorem emits_quiet_onRegisterToSucess (request : OsipMessage) :
    Proc.Emits Quiet (onRegisterToSucess E request) :=
  Proc.emits_bind (Proc.emits_lift _) fun _ =>
    Proc.emits_bind (Proc.emits_lift _) fun _ => Proc.emits_update _

theorem emits_quiet_sendRequestMessage (strBody : CStr) :
    Proc.Emits Quiet (sendRequestMessage E strBody) :=
  Proc.emits_bind Proc.emits_get fun _ => Proc.emits_bind (Proc.emits_lift _) fun _ =>
    Proc.emits_bind (Proc.emits_lift _) fun _ =>
      emits_quiet_buildNewRequestMessageSend E _ _ _ _

/-! ### The registration manager -/

def IsWriteProfile (e : Effect) : Prop :=
  ∃ appName keyName value fileName, e = .writeProfile appName keyName value fileName

theorem emits_registerObject (P : Effect → Prop) (id : CStr) :
    Proc.Emits P (registerObject E.toEnv id) :=
  Proc.emits_bind Proc.emits_get fun _ =>
    Proc.emits_bind (Proc.emits_update _) fun _ => Proc.emits_pure _

theorem emits_getRegisterObjectInfo (P : Effect → Prop) (id : CStr) :
    Proc.Emits P (getRegisterObjectInfo E.toEnv id) :=
  Proc.emits_bind (emits_registerObject E P id) fun _ => Proc.emits_pure _

theorem emits_modifyDomainPasswdById (P : Effect → Prop) (id newPassWord : CStr) :
    Proc.Emits P (modifyDomainPasswdById E.toEnv id newPassWord) := by
  refine Proc.emits_bind (emits_registerObject E P id) fun object => ?_
  split
  · exact Proc.emits_pure _
  · exact Proc.emits_bind (Proc.emits_update _) fun _ => Proc.emits_pure _

theorem emits_onModifyPassword (ev : Event) (info : SipObjectPasswd) :
    Proc.Emits IsWriteProfile (onModifyPassword E.toEnv ev info) := by
  refine Proc.emits_bind (Proc.emits_lift _) fun found => ?_
  cases found with
  | none => exact Proc.emits_pure _
  | some o =>
    refine Proc.emits_bind (emits_getRegisterObjectInfo E _ _) fun p => ?_
    cases p with
    | none => exact Proc.emits_pure _
    | some id =>
      refine Proc.emits_bind (Proc.emits_lift _) fun nonce1 => ?_
      split
      · exact Proc.emits_bind (Proc.emits_lift _) fun _ => Proc.emits_pure _
      · refine Proc.emits_bind (Proc.emits_lift _) fun fromInfo => ?_
        refine Proc.emits_bind (emits_modifyDomainPasswdById E _ _ _) fun _ => ?_
        refine Proc.emits_bind ?_ fun _ => ?_
        · exact Proc.emits_bind Proc.emits_get fun mgr => Proc.emits_emit ⟨_, _, _, _, rfl⟩
        · exact Proc.emits_bind (Proc.emits_lift _) fun _ => Proc.emits_pure _

theorem emits_quiet_regMgrCall {α : Type} {request : OsipMessage} {m : Handler α}
    (hm : Proc.Emits IsWriteProfile m) : Proc.Emits Quiet (regMgrCall request m) := by
  refine Proc.emits_embed hm ?_
  rintro svc e outside ⟨appName, keyName, value, fileName, rfl⟩ heffect e' he'
  cases heffect
  rw [List.mem_singleton.mp he']
  exact ⟨rfl, fun _ => rfl⟩

theorem emits_notFree_regMgrCall {α : Type} {request : OsipMessage} (m : Handler α) :
    Proc.Emits NotFree (regMgrCall request m) := by
  refine Proc.emits_embed (P := fun _ => True) (fun _ _ _ => trivial) ?_
  intro svc e outside _ heffect e' he'
  cases e with
  | answer tid nCode =>
    cases heffect
    rw [List.mem_singleton.mp he']
    rfl
  | writeProfile appName keyName value fileName =>
    cases heffect
    rw [List.mem_singleton.mp he']
    rfl
  | regAnswer tid nCode nExpires =>
    simp only [regMgrEffect] at heffect
    split at heffect
    · obtain ⟨strContact, _, heffect⟩ := exceptBind_eq_ok.mp heffect
      cases heffect
      rw [List.mem_singleton.mp he']
      rfl
    · cases heffect
      cases he'

theorem emits_quiet_onModifyPasswordBody (ev : EXosipEvent) (request : OsipMessage)
    (psz_body : Option CStr) :
    Proc.Emits Quiet (onModifyPasswordBody E ev request psz_body) := by
  refine Proc.emits_bind (Proc.emits_lift _) fun xml => ?_
  refine Proc.emits_bind (Proc.emits_lift _) fun found => ?_
  cases found with
  | none => exact Proc.emits_pure _
  | some o =>
    refine Proc.emits_bind (emits_quiet_regMgrCall (emits_getRegisterObjectInfo E _ _)) fun p => ?_
    cases p with
    | none => exact Proc.emits_pure _
    | some id =>
      refine Proc.emits_bind (Proc.emits_lift _) fun info => ?_
      exact Proc.emits_bind (emits_quiet_regMgrCall (emits_onModifyPassword E _ _)) fun _ =>
        Proc.emits_pure _

theorem emits_quiet_handleMessage_rest (ev : EXosipEvent) (request : OsipMessage)
    (msg : SipMessage) (block : IpcSipBlock) :
    ∃ rest : Service Unit, Proc.Emits Quiet rest ∧
      handleMessage E ev request msg block =
        (do CSIPService.sendAnsweredByCode ev 200; rest) := by
  refine ⟨_, ?_, rfl⟩
  split
  · refine Proc.emits_bind (emits_quiet_onModifyPasswordBody E ev request _) fun _ => ?_
    exact Proc.emits_bind (Proc.emits_lift _) fun strBody =>
      emits_quiet_sendRequestMessage E strBody
  · refine Proc.emits_bind Proc.emits_get fun svc => ?_
    split
    · exact Proc.emits_pure _
    · exact emits_quiet_sendDataToShared _ _ _

/-! ## Releases -/

theorem thenBreak_val {m : Service Unit} {svc : CSIPService} {nRet : Option RetCode}
    (h : (thenBreak m svc).val = .ok nRet) : nRet = none := by
  unfold thenBreak at h
  rw [Proc.run_bind] at h
  generalize m svc = outcome at h
  rcases outcome with ⟨out, svc', _ | u⟩
  · cases h
  · exact (Except.ok.inj h).symm

theorem emits_thenBreak {P : SipEffect → Prop} {m : Service Unit} (hm : Proc.Emits P m) :
    Proc.Emits P (thenBreak m) := Proc.emits_bind hm fun _ => Proc.emits_pure _

theorem emits_relayOr {P : SipEffect → Prop} {relay handler : Service Unit}
    (hrelay : Proc.Emits P relay) (hhandler : Proc.Emits P handler) :
    Proc.Emits P (relayOr relay handler) := by
  refine Proc.emits_bind Proc.emits_get fun svc => ?_
  split
  · exact hrelay
  · exact hhandler

theorem notFree_of_quiet {α : Type} {m : Service α} (hm : Proc.Emits Quiet m) :
    Proc.Emits NotFree m := hm.mono fun _ he => he.1

theorem emits_quiet_caseInSubscriptionNew_rest (ev : EXosipEvent) (request : OsipMessage)
    (msg : SipMessage) :
    ∃ rest : Service Unit, Proc.Emits Quiet rest ∧
      caseInSubscriptionNew E ev request msg =
        (do CSIPService.sendAnsweredByCode ev 200; rest) := by
  refine ⟨_, ?_, rfl⟩
  split
  · refine Proc.emits_bind Proc.emits_get fun svc => ?_
    split
    · exact emits_quiet_relaySubscription E request
    · exact Proc.emits_bind (Proc.emits_lift _) fun block => emits_quiet_handleSubscribe _ _ _
  · exact Proc.emits_pure _

theorem emits_quiet_caseCallMessageNew_rest (ev : EXosipEvent) (request : OsipMessage)
    (msg : SipMessage) :
    ∃ rest : Service Unit, Proc.Emits Quiet rest ∧
      caseCallMessageNew E ev request msg =
        (do CSIPService.sendAnsweredByCode ev 200; rest) := by
  refine ⟨_, ?_, rfl⟩
  split
  · exact emits_relayOr (emits_quiet_relayMessageNew E ev request) (emits_quiet_handleInfo ev msg)
  · exact Proc.emits_pure _

theorem emits_notFree_sendAnsweredByCode (ev : EXosipEvent) (nCode : Int) :
    Proc.Emits NotFree (CSIPService.sendAnsweredByCode ev nCode) := by
  unfold CSIPService.sendAnsweredByCode
  split
  · exact Proc.emits_emit rfl
  · exact Proc.emits_pure _

theorem emits_notFree_answered {m rest : Service Unit} {ev : EXosipEvent} {nCode : Int}
    (hrest : Proc.Emits Quiet rest)
    (hm : m = (do CSIPService.sendAnsweredByCode ev nCode; rest)) : Proc.Emits NotFree m := by
  rw [hm]
  exact Proc.emits_bind (emits_notFree_sendAnsweredByCode ev nCode) fun _ => notFree_of_quiet hrest

theorem emits_notFree_caseMessageNew (timCurrent : Int) (ev : EXosipEvent) (request : OsipMessage)
    (msg : SipMessage) : Proc.Emits NotFree (caseMessageNew E timCurrent ev request msg) := by
  unfold caseMessageNew
  split
  · exact Proc.emits_bind (emits_notFree_regMgrCall _) fun _ => Proc.emits_pure _
  · refine Proc.emits_bind (Proc.emits_lift _) fun alive => ?_
    split
    · exact Proc.emits_bind (emits_notFree_regMgrCall _) fun _ => Proc.emits_pure _
    · refine Proc.emits_bind Proc.emits_get fun svc => ?_
      split
      · exact Proc.emits_bind (notFree_of_quiet (emits_quiet_relayMessageNew E ev request))
          fun _ => Proc.emits_pure _
      · refine Proc.emits_bind (Proc.emits_lift _) fun block => ?_
        obtain ⟨rest, hrest, hmessage⟩ := emits_quiet_handleMessage_rest E ev request msg block
        exact Proc.emits_bind (emits_notFree_answered hrest hmessage) fun _ => Proc.emits_pure _

theorem emits_notFree_handleRequest (timCurrent : Int) (ev : EXosipEvent)
    (request : OsipMessage) : Proc.Emits NotFree (handleRequest E timCurrent ev request) := by
  unfold handleRequest
  cases ev.type with
  | inSubscriptionNew =>
    obtain ⟨rest, hrest, hcase⟩ :=
      emits_quiet_caseInSubscriptionNew_rest E ev request (parserMessage request)
    exact emits_thenBreak (emits_notFree_answered hrest hcase)
  | subscriptionNotify =>
    refine emits_thenBreak ?_
    unfold caseSubscriptionNotify
    split
    · exact Proc.emits_bind (emits_notFree_sendAnsweredByCode ev 200) fun _ =>
        Proc.emits_bind (Proc.emits_lift _) fun _ => Proc.emits_pure _
    · exact Proc.emits_bind (Proc.emits_lift _) fun _ => Proc.emits_pure _
  | messageNew => exact emits_notFree_caseMessageNew E timCurrent ev request _
  | messageAnswered =>
    refine emits_thenBreak (notFree_of_quiet (Proc.emits_bind Proc.emits_get fun svc => ?_))
    split
    · refine Proc.emits_bind (Proc.emits_lift _) fun alive => ?_
      split
      · exact Proc.emits_pure _
      · exact emits_quiet_relayMessageAnswered E request
    · exact emits_quiet_sendDataToShared _ _ _
  | callInvite =>
    refine emits_thenBreak (notFree_of_quiet (emits_relayOr ?_ (emits_quiet_handleInvite E ev _)))
    exact emits_relayWith fun _ => Proc.emits_lift _
  | callAnswered => exact emits_thenBreak (notFree_of_quiet (emits_quiet_handleInviteResponse ev _))
  | callAck =>
    refine emits_thenBreak (emits_relayOr ?_ (notFree_of_quiet (emits_quiet_handleACK ev _)))
    exact emits_relayWith fun _ => Proc.emits_bind (Proc.emits_lift _) fun _ =>
      Proc.emits_bind (Proc.emits_lift _) fun _ => Proc.emits_emit rfl
  | callMessageNew =>
    obtain ⟨rest, hrest, hcase⟩ :=
      emits_quiet_caseCallMessageNew_rest E ev request (parserMessage request)
    exact emits_thenBreak (emits_notFree_answered hrest hcase)
  | callClosed =>
    dsimp only
    split
    · refine emits_thenBreak (notFree_of_quiet (emits_relayOr ?_ (emits_quiet_handleBye ev _)))
      exact emits_relayWith fun _ => Proc.emits_emit ⟨rfl, fun _ => rfl⟩
    · exact Proc.emits_pure _
  | registrationSuccess =>
    refine Proc.emits_bind (notFree_of_quiet (emits_quiet_onRegisterToSucess E request)) fun _ => ?_
    refine Proc.emits_bind Proc.emits_get fun svc => ?_
    split
    · exact Proc.emits_pure _
    · exact Proc.emits_bind (notFree_of_quiet (emits_quiet_sendDataToShared _ _ _)) fun _ =>
        Proc.emits_pure _
  | registrationFailure =>
    exact emits_thenBreak (notFree_of_quiet (emits_quiet_handleRegFail E ev _))
  | _ => exact Proc.emits_pure _

/-- `HandleSIP` returns from inside its switch: after a keep-alive, and in relay mode after a
registration. -/
def ReturnsEarly (svc : CSIPService) (ev : EXosipEvent) (request : OsipMessage) : Prop :=
  ev.type = .messageNew ∧ request.isMethod "REGISTER" = false ∧
      isKeepAlive E.toXmlEnv (parserMessage request).psz_body = .ok true ∨
    ev.type = .registrationSuccess ∧ svc.m_nAppWorkMode = 2

theorem caseMessageNew_val {timCurrent : Int} {ev : EXosipEvent} {request : OsipMessage}
    {msg : SipMessage} {svc : CSIPService} {nRet : Option RetCode}
    (h : (caseMessageNew E timCurrent ev request msg svc).val = .ok nRet) :
    nRet = none ↔ ¬ (request.isMethod "REGISTER" = false ∧
      isKeepAlive E.toXmlEnv msg.psz_body = .ok true) := by
  have hbind {α : Type} {m : Service α} {r : Option RetCode} {svc : CSIPService}
      (hval : ((m >>= fun _ => pure r) svc).val = .ok nRet) : nRet = r := by
    rw [Proc.run_bind] at hval
    generalize m svc = outcome at hval
    rcases outcome with ⟨out, svc', _ | a⟩
    · cases hval
    · exact (Except.ok.inj hval).symm
  unfold caseMessageNew at h
  by_cases hregister : request.isMethod "REGISTER" = true
  · rw [if_pos hregister] at h
    refine iff_of_true (hbind h) fun hearly => ?_
    rw [hregister] at hearly
    cases hearly.1
  · rw [if_neg hregister, Proc.run_bind, Proc.run_lift] at h
    rw [Bool.not_eq_true] at hregister
    cases halive : isKeepAlive E.toXmlEnv msg.psz_body with
    | error f =>
      rw [halive] at h
      cases h
    | ok alive =>
      rw [halive] at h
      cases alive with
      | true =>
        refine iff_of_false (fun hnone => ?_) fun hearly => hearly ⟨hregister, rfl⟩
        simp only [if_true, Proc.run_bind] at h
        generalize regMgrCall request
          (onKeepAlive E.toEnv timCurrent (request.toEvent ev.tid)) svc = outcome at h
        rcases outcome with ⟨out, svc', _ | code⟩
        · cases h
        · rw [hnone] at h
          cases h
      | false =>
        refine iff_of_true ?_ fun hearly => by cases hearly.2
        simp only [Bool.false_eq_true, if_false] at h
        rw [Proc.run_bind, Proc.run_get] at h
        dsimp only at h
        by_cases hmode : svc.m_nAppWorkMode = 2
        · rw [if_pos hmode] at h
          exact hbind h
        · rw [if_neg hmode, Proc.run_bind, Proc.run_lift] at h
          cases hparse : parseMessageBody E msg
              { eWorkType := .default_message, cmd_type := .message } with
          | error f =>
            rw [hparse] at h
            cases h
          | ok block =>
            rw [hparse] at h
            exact hbind h

theorem caseRegistrationSuccess_val {ev : EXosipEvent} {request : OsipMessage} {msg : SipMessage}
    {svc : CSIPService} {nRet : Option RetCode}
    (h : (caseRegistrationSuccess E ev request msg svc).val = .ok nRet) :
    nRet = none ↔ ¬ svc.m_nAppWorkMode = 2 := by
  have hkeeps := keeps_mode_onRegisterToSucess E request svc
  unfold caseRegistrationSuccess at h
  rw [Proc.run_bind] at h
  generalize onRegisterToSucess E request svc = outcome at h hkeeps
  rcases outcome with ⟨out, svc', _ | u⟩
  · cases h
  · simp only [Proc.run_bind, Proc.run_get] at h
    have hmode : svc'.m_nAppWorkMode = svc.m_nAppWorkMode := hkeeps
    rw [hmode] at h
    by_cases hrelay : svc.m_nAppWorkMode = 2
    · rw [if_pos hrelay] at h
      refine iff_of_false (fun hnone => ?_) (not_not_intro hrelay)
      rw [hnone] at h
      cases h
    · rw [if_neg hrelay, Proc.run_bind] at h
      refine iff_of_true ?_ hrelay
      generalize handleRegSuccess ev msg svc' = outcome at h
      rcases outcome with ⟨out, svc'', _ | u⟩
      · cases h
      · exact (Except.ok.inj h).symm

/-- **The end of the switch.**  It is reached by an event that is survived and whose case does
not return. -/
theorem handleRequest_val_iff (timCurrent : Int) (svc : CSIPService) (ev : EXosipEvent)
    {request : OsipMessage} (hhost : HasHost request) :
    (handleRequest E timCurrent ev request svc).val = .ok none ↔
      RequestSafe E svc ev request ∧ ¬ ReturnsEarly E svc ev request := by
  rw [← returns_handleRequest E timCurrent svc ev hhost]
  have hval : ∀ nRet, (handleRequest E timCurrent ev request svc).val = .ok nRet →
      (nRet = none ↔ ¬ ReturnsEarly E svc ev request) := by
    intro nRet h
    unfold handleRequest at h
    unfold ReturnsEarly
    cases htype : ev.type <;> simp only [htype] at h
    case messageNew =>
      rw [caseMessageNew_val E h]
      simp
    case registrationSuccess =>
      rw [caseRegistrationSuccess_val E h]
      simp
    case callClosed =>
      refine iff_of_true ?_ (by simp)
      split at h
      · exact thenBreak_val h
      · exact (Except.ok.inj h).symm
    -- the other cases are a `break` behind their handler, or nothing at all
    all_goals
      refine iff_of_true ?_ (by simp)
      first
        | exact thenBreak_val h
        | exact (Except.ok.inj h).symm
  constructor
  · intro h
    exact ⟨⟨none, h⟩, (hval none h).mp rfl⟩
  · rintro ⟨⟨nRet, h⟩, hearly⟩
    rw [h, (hval nRet h).mpr hearly]

def frees (out : List SipEffect) : Nat := out.countP SipEffect.isFree

/-- How many final answers a transaction gets. -/
def finalAnswers (tid : Int) (out : List SipEffect) : Nat :=
  out.countP (SipEffect.isFinalAnswer tid)

theorem frees_of_notFree {out : List SipEffect} (h : ∀ e ∈ out, NotFree e) : frees out = 0 := by
  rw [frees, List.countP_eq_zero]
  intro e he
  rw [h e he]
  exact Bool.false_ne_true

theorem finalAnswers_of_quiet {out : List SipEffect} (h : ∀ e ∈ out, Quiet e) (tid : Int) :
    finalAnswers tid out = 0 := by
  rw [finalAnswers, List.countP_eq_zero]
  intro e he
  rw [(h e he).2 tid]
  exact Bool.false_ne_true

theorem handleSIP_out (timCurrent : Int) (svc : CSIPService) {ev : EXosipEvent}
    {request : OsipMessage} (h : ev.request = some request) :
    (handleSIP E timCurrent (some ev) svc).out =
      .defaultAction ev.tid :: ((handleRequest E timCurrent ev request svc).out ++
        if (handleRequest E timCurrent ev request svc).val = .ok none then [.eventFree ev.tid]
        else []) := by
  rw [handleSIP_request E timCurrent h, Proc.run_bind, Proc.run_emit]
  simp only [Proc.run_bind]
  generalize handleRequest E timCurrent ev request svc = outcome
  rcases outcome with ⟨out, svc', _ | _ | nRet⟩
  · simp
  · simp [afterSwitch]
  · simp [afterSwitch]

theorem frees_handleSIP (timCurrent : Int) (svc : CSIPService) {ev : EXosipEvent}
    {request : OsipMessage} (h : ev.request = some request) :
    frees (handleSIP E timCurrent (some ev) svc).out =
      if (handleRequest E timCurrent ev request svc).val = .ok none then 1 else 0 := by
  have hswitch := frees_of_notFree (emits_notFree_handleRequest E timCurrent ev request svc)
  rw [handleSIP_out E timCurrent svc h]
  unfold frees at hswitch ⊢
  rw [List.countP_cons_of_neg (by simp [SipEffect.isFree]), List.countP_append, hswitch]
  split
  · rfl
  · rfl

theorem finalAnswers_handleSIP (timCurrent : Int) (svc : CSIPService) {ev : EXosipEvent}
    {request : OsipMessage} (h : ev.request = some request) (tid : Int) :
    finalAnswers tid (handleSIP E timCurrent (some ev) svc).out =
      finalAnswers tid (handleRequest E timCurrent ev request svc).out := by
  rw [handleSIP_out E timCurrent svc h]
  unfold finalAnswers
  rw [List.countP_cons_of_neg (by simp [SipEffect.isFinalAnswer]), List.countP_append]
  split
  · simp [SipEffect.isFinalAnswer]
  · simp

/-! ## Answers -/

/-- A request that is to be answered by the service itself. -/
def NeedsAnswer (request : OsipMessage) : Prop :=
  request.isMethod "MESSAGE" = true ∨ request.isMethod "SUBSCRIBE" = true ∨
    request.isMethod "NOTIFY" = true ∨ request.isMethod "INFO" = true

instance (request : OsipMessage) : Decidable (NeedsAnswer request) :=
  inferInstanceAs (Decidable (_ ∨ _ ∨ _ ∨ _))

/-- The types `eXosip.h` announces a new incoming MESSAGE, SUBSCRIBE, NOTIFY or INFO request
with; the request of any other event is an INVITE, ACK, CANCEL or BYE, or one of the program. -/
def announcesRequest : EventType → Bool
  | .messageNew | .callMessageNew | .subscriptionNotify | .inSubscriptionNew => true
  | _ => false

/-- The event carries an incoming request that is to be answered. -/
def CarriesRequest (ev : EXosipEvent) : Prop :=
  announcesRequest ev.type = true ∧ ∃ request, ev.request = some request ∧ NeedsAnswer request

/-- The final answers that the stack sent before it reported the event. -/
def EXosipEvent.stackAnswers (ev : EXosipEvent) : Nat := if ev.kept = .answered then 1 else 0

/-- The event is released once, and the request it carries is answered once. -/
def EventOnce (timCurrent : Int) (svc : CSIPService) (ev : EXosipEvent) : Prop :=
  frees (handleSIP E timCurrent (some ev) svc).out = 1 ∧
    (CarriesRequest ev →
      ev.stackAnswers + finalAnswers ev.tid (handleSIP E timCurrent (some ev) svc).out = 1)

/-- The case of the event answers: a NOTIFY in a subscription, and a message that is not
relayed. -/
def CaseAnswers (svc : CSIPService) (ev : EXosipEvent) (request : OsipMessage) : Prop :=
  (ev.type = .subscriptionNotify → request.isMethod "NOTIFY" = true) ∧
    (ev.type = .messageNew → svc.m_nAppWorkMode ≠ 2)

instance (svc : CSIPService) (ev : EXosipEvent) (request : OsipMessage) :
    Decidable (CaseAnswers svc ev request) := inferInstanceAs (Decidable (_ ∧ _))

/-- The stack has answered the request, or it finds the transaction and the case answers. -/
def IsAnswered (svc : CSIPService) (ev : EXosipEvent) (request : OsipMessage) : Prop :=
  ev.kept = .answered ∨ ev.Answerable ∧ CaseAnswers svc ev request

/-- The event is survived, its case does not return, and what is to be answered is answered. -/
def EventHandled (svc : CSIPService) (ev : EXosipEvent) : Prop :=
  ∀ request, ev.request = some request →
    RequestSafe E svc ev request ∧ ¬ ReturnsEarly E svc ev request ∧
      (announcesRequest ev.type = true → NeedsAnswer request → IsAnswered svc ev request)

theorem out_thenBreak (m : Service Unit) (svc : CSIPService) :
    (thenBreak m svc).out = (m svc).out := by
  unfold thenBreak
  rw [Proc.run_bind]
  generalize m svc = outcome
  rcases outcome with ⟨out, svc', _ | u⟩
  · rfl
  · exact List.append_nil out

theorem finalAnswers_answered {m rest : Service Unit} {ev : EXosipEvent}
    (hrest : Proc.Emits Quiet rest)
    (hm : m = (do CSIPService.sendAnsweredByCode ev 200; rest)) (svc : CSIPService) :
    finalAnswers ev.tid (m svc).out = if ev.Answerable then 1 else 0 := by
  have hquiet := finalAnswers_of_quiet (hrest svc) ev.tid
  unfold finalAnswers at hquiet ⊢
  rw [hm]
  unfold CSIPService.sendAnsweredByCode
  by_cases hfound : ev.Answerable
  · rw [if_pos ⟨hfound, by decide, by decide⟩, if_pos hfound, Proc.run_bind, Proc.run_emit]
    simp only [List.singleton_append]
    rw [List.countP_cons_of_pos (by simp [SipEffect.isFinalAnswer]), hquiet]
  · rw [if_neg (fun h => hfound h.1), if_neg hfound]
    exact hquiet

theorem finalAnswers_caseSubscriptionNotify (ev : EXosipEvent) (request : OsipMessage)
    (msg : SipMessage) (svc : CSIPService) :
    finalAnswers ev.tid (caseSubscriptionNotify E ev request msg svc).out =
      if ev.Answerable ∧ request.isMethod "NOTIFY" = true then 1 else 0 := by
  have hquiet : Proc.Emits Quiet (do
      let _ ← Proc.lift
        (parseMessageBody E msg { eWorkType := .event_notify, cmd_type := .subscribeNotify })
      pure () : Service Unit) :=
    Proc.emits_bind (Proc.emits_lift _) fun _ => Proc.emits_pure _
  unfold caseSubscriptionNotify
  by_cases hmethod : request.isMethod "NOTIFY" = true
  · simp only [hmethod, and_true]
    exact finalAnswers_answered hquiet rfl svc
  · simp only [if_neg hmethod]
    rw [if_neg fun h => hmethod h.2]
    exact finalAnswers_of_quiet (hquiet svc) ev.tid

/-- A message that is neither a registration nor a keep-alive is answered by its handler, and not
at all when it is relayed. -/
theorem finalAnswers_caseMessageNew (timCurrent : Int) {ev : EXosipEvent} {request : OsipMessage}
    {msg : SipMessage} {svc : CSIPService} (hregister : request.isMethod "REGISTER" = false)
    (halive : isKeepAlive E.toXmlEnv msg.psz_body = .ok false)
    (hval : (caseMessageNew E timCurrent ev request msg svc).val = .ok none) :
    finalAnswers ev.tid (caseMessageNew E timCurrent ev request msg svc).out =
      if ev.Answerable ∧ svc.m_nAppWorkMode ≠ 2 then 1 else 0 := by
  unfold caseMessageNew at hval ⊢
  rw [if_neg (by simp [hregister]), Proc.run_bind, Proc.run_lift, halive] at hval ⊢
  simp only [Bool.false_eq_true, if_false, List.nil_append] at hval ⊢
  rw [Proc.run_bind, Proc.run_get] at hval ⊢
  dsimp only at hval ⊢
  by_cases hmode : svc.m_nAppWorkMode = 2
  · rw [if_pos hmode, if_neg fun h => h.2 hmode]
    have hquiet := finalAnswers_of_quiet (emits_quiet_relayMessageNew E ev request svc) ev.tid
    rw [← out_thenBreak] at hquiet
    exact hquiet
  · rw [if_neg hmode, Proc.run_bind, Proc.run_lift] at hval
    rw [if_neg hmode, Proc.run_bind, Proc.run_lift]
    cases hparse : parseMessageBody E msg
        { eWorkType := .default_message, cmd_type := .message } with
    | error f =>
      rw [hparse] at hval
      cases hval
    | ok block =>
      obtain ⟨rest, hrest, hmessage⟩ := emits_quiet_handleMessage_rest E ev request msg block
      have hone := finalAnswers_answered hrest hmessage svc
      rw [← out_thenBreak] at hone
      simp only [hmode, ne_eq, not_false_eq_true, and_true]
      exact hone

theorem not_register_of_needsAnswer {request : OsipMessage} (h : NeedsAnswer request) :
    request.isMethod "REGISTER" = false := by
  have hother {name : String} (hname : request.isMethod name = true)
      (hne : str name ≠ str "REGISTER") : request.isMethod "REGISTER" = false := by
    unfold OsipMessage.isMethod at hname ⊢
    rw [beq_iff_eq] at hname
    rw [hname, beq_eq_false_iff_ne]
    exact hne
  rcases h with h | h | h | h
  · exact hother h (by decide)
  · exact hother h (by decide)
  · exact hother h (by decide)
  · exact hother h (by decide)

/-- At the end of the switch a request that is to be answered has one answer, if the stack finds
its transaction and its case answers, else none. -/
theorem finalAnswers_handleRequest (timCurrent : Int) {svc : CSIPService} {ev : EXosipEvent}
    {request : OsipMessage} (htype : announcesRequest ev.type = true) (hneeds : NeedsAnswer request)
    (hval : (handleRequest E timCurrent ev request svc).val = .ok none) :
    finalAnswers ev.tid (handleRequest E timCurrent ev request svc).out =
      if ev.Answerable ∧ CaseAnswers svc ev request then 1 else 0 := by
  unfold handleRequest at hval ⊢
  cases h : ev.type with
  | inSubscriptionNew =>
    obtain ⟨rest, hrest, hcase⟩ :=
      emits_quiet_caseInSubscriptionNew_rest E ev request (parserMessage request)
    simp only [out_thenBreak, finalAnswers_answered hrest hcase]
    simp [CaseAnswers, h]
  | callMessageNew =>
    obtain ⟨rest, hrest, hcase⟩ :=
      emits_quiet_caseCallMessageNew_rest E ev request (parserMessage request)
    simp only [out_thenBreak, finalAnswers_answered hrest hcase]
    simp [CaseAnswers, h]
  | subscriptionNotify =>
    simp only [out_thenBreak, finalAnswers_caseSubscriptionNotify]
    simp [CaseAnswers, h]
  | messageNew =>
    simp only [h] at hval ⊢
    have hregister := not_register_of_needsAnswer hneeds
    have hend := (caseMessageNew_val E hval).mp rfl
    have halive : isKeepAlive E.toXmlEnv (parserMessage request).psz_body = .ok false := by
      cases halive : isKeepAlive E.toXmlEnv (parserMessage request).psz_body with
      | error f =>
        unfold caseMessageNew at hval
        rw [if_neg (by simp [hregister]), Proc.run_bind, Proc.run_lift, halive] at hval
        cases hval
      | ok alive =>
        cases alive with
        | true => exact absurd ⟨hregister, halive⟩ hend
        | false => rfl
    rw [finalAnswers_caseMessageNew E timCurrent hregister halive hval]
    simp [CaseAnswers, h]
  | _ =>
    rw [h] at htype
    cases htype

theorem answers_eq_one_iff (svc : CSIPService) (ev : EXosipEvent) (request : OsipMessage) :
    ev.stackAnswers + (if ev.Answerable ∧ CaseAnswers svc ev request then 1 else 0) = 1 ↔
      IsAnswered svc ev request := by
  unfold EXosipEvent.stackAnswers IsAnswered
  by_cases hanswered : ev.kept = .answered
  · have hnot : ¬ ev.Answerable := fun h => by cases hanswered.symm.trans h.2
    simp [hanswered, hnot]
  · by_cases hcase : ev.Answerable ∧ CaseAnswers svc ev request
    · simp [hanswered, hcase]
    · rw [if_neg hanswered, if_neg hcase]
      exact iff_of_false (by decide) fun h => h.elim hanswered hcase

/-! ## Every run -/

/-- **One event.**  It is released once and its request answered once exactly when it is
survived, its case does not return from `HandleSIP`, and the request was answered by the stack or
is one whose transaction it finds and whose case answers. -/
theorem eventOnce_iff (timCurrent : Int) (svc : CSIPService) (ev : EXosipEvent)
    (hhost : ∀ request, ev.request = some request → HasHost request) :
    EventOnce E timCurrent svc ev ↔ EventHandled E svc ev := by
  unfold EventOnce EventHandled
  cases hrequest : ev.request with
  | none =>
    rw [handleSIP_no_request E timCurrent hrequest]
    refine iff_of_true ⟨rfl, ?_⟩ fun request h => nomatch h
    rintro ⟨_, request, h, _⟩
    rw [hrequest] at h
    cases h
  | some request =>
    have hend := handleRequest_val_iff E timCurrent svc ev (hhost request hrequest)
    have hone : (if (handleRequest E timCurrent ev request svc).val = .ok none then 1 else 0) = 1 ↔
        (handleRequest E timCurrent ev request svc).val = .ok none := by
      split
      · rename_i h
        exact iff_of_true rfl h
      · rename_i h
        exact iff_of_false (by decide) h
    have hcarries : CarriesRequest ev ↔ announcesRequest ev.type = true ∧ NeedsAnswer request := by
      unfold CarriesRequest
      rw [hrequest]
      simp
    rw [frees_handleSIP E timCurrent svc hrequest,
      finalAnswers_handleSIP E timCurrent svc hrequest, hone, hcarries]
    simp only [Option.some.injEq, forall_eq']
    rw [← and_assoc, ← hend, and_imp]
    refine and_congr_right fun hval => imp_congr_right fun htype => imp_congr_right fun hneeds => ?_
    rw [finalAnswers_handleRequest E timCurrent htype hneeds hval]
    exact answers_eq_one_iff svc ev request

/-- The service after an event at a time. -/
def sipStep (svc : CSIPService) (call : Int × EXosipEvent) : CSIPService :=
  (handleSIP E call.1 (some call.2) svc).state

/-- Every event of a run is released once and answered once. -/
def EventsOnce (svc : CSIPService) (evs : List (Int × EXosipEvent)) : Prop :=
  ∀ p ∈ calls (sipStep E) svc evs, EventOnce E p.2.1 p.1 p.2.2

/-- Every event of a run is handled, in the state it meets. -/
def EventsHandled (svc : CSIPService) (evs : List (Int × EXosipEvent)) : Prop :=
  ∀ p ∈ calls (sipStep E) svc evs, EventHandled E p.1 p.2.2

/-- **Every run.**  In a sequence of events every one is released once and answered once exactly
when every one is handled in the state it meets. -/
theorem eventsOnce_iff (svc : CSIPService) (evs : List (Int × EXosipEvent))
    (hhost : ∀ call ∈ evs, ∀ request, call.2.request = some request → HasHost request) :
    EventsOnce E svc evs ↔ EventsHandled E svc evs := by
  refine forall₂_congr fun p hp => ?_
  obtain ⟨pre, post, hevs, _⟩ := mem_calls_iff.mp hp
  have hmem : p.2 ∈ evs := by
    rw [hevs]
    exact List.mem_append_right pre List.mem_cons_self
  exact eventOnce_iff E p.2.1 p.1 p.2.2 (hhost p.2 hmem)

theorem hasHost_catalogCalls (response : Option Int) :
    ∀ call ∈ [((0 : Int), catalogEvent response)],
      ∀ request, call.2.request = some request → HasHost request := by
  intro call hcall
  rw [List.mem_singleton.mp hcall]
  exact hasHost_catalogEvent response

/-- A query that is handed to the platform process. -/
theorem query_handled :
    EventsHandled catalogEnv (serviceInMode 0) [(0, catalogEvent (some 200))] := by
  refine (eventsOnce_iff catalogEnv (serviceInMode 0) [(0, catalogEvent (some 200))]
    (hasHost_catalogCalls (some 200))).mp ?_
  intro p hp
  rw [List.mem_singleton.mp hp]
  exact ⟨by decide, fun _ => by decide⟩

/-- The same query is relayed, released and never answered. -/
theorem relayed_query_not_answered :
    ¬ EventsOnce catalogEnv (serviceInMode 2) [(0, catalogEvent none)] := by
  intro h
  have honce := h (serviceInMode 2, (0, catalogEvent none)) List.mem_cons_self
  have hcarries : CarriesRequest (catalogEvent none) := ⟨rfl, catalogRequest, rfl, by decide⟩
  have hanswers : (catalogEvent none).stackAnswers + finalAnswers (catalogEvent none).tid
      (handleSIP catalogEnv 0 (some (catalogEvent none)) (serviceInMode 2)).out = 0 := by decide
  exact absurd (honce.2 hcarries) (by rw [hanswers]; decide)

end GB28181.SipCom
