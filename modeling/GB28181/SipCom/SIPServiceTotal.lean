import GB28181.SipCom.RegMgrSpec
import GB28181.SipCom.SIPService

/-!
# Which events the SIP front end survives

For every handler of `HandleSIP` the parts of an event it needs, and from them the exact
condition under which the service comes to the end of an event.

* `returns_relayWith` — a relay function needs the From user; with a route also the user of the
  request URI (with a realm to replace), a body and what its send step needs;
* `fillSipBlock_eq_ok_iff` — every handler of the gateway needs the three users **and a
  response**, which no incoming request has;
* `returns_onRegister`, `returns_onKeepAlive`, `returns_onModifyPasswordBody` — the handlers of
  the registration manager;
* `handleSIP_returns_iff` — the condition for all events.
-/

set_option autoImplicit false

namespace GB28181.SipCom

open GB28181.Base GB28181.GBUtils

variable (E : ServiceEnv)

/-! ## The relay -/

/-- The ID can be written into a domain: it is the relay's own, in the realm of the domain
already, or has a realm to replace. -/
def Translatable (mgr : RelayRegMgr) (id : CStr) (targetDomain : CSipDomain) : Prop :=
  id = mgr.getID ∨ id.take 8 = targetDomain.getRealm ∨ 8 ≤ id.length

/-- The To text of the message that `init_from_to` begins. -/
def sipToOf (mgr : RelayRegMgr) (id : CStr) (targetDomain : CSipDomain) : CStr :=
  RelayRegMgr.getSIPTo (targetID mgr.getID id targetDomain.strDeviceID) targetDomain.strIP
    targetDomain.nPort

theorem finalTargetId_eq_targetID {mgr : RelayRegMgr} {id final : CStr} {targetDomain : CSipDomain}
    (h : finalTargetId mgr id targetDomain = .ok final) :
    final = targetID mgr.getID id targetDomain.strDeviceID := by
  unfold finalTargetId CSipDomain.getRealm at h
  unfold targetID
  by_cases hown : id = mgr.getID
  · rw [if_pos hown] at h ⊢
    exact (Except.ok.inj h).symm
  · rw [if_neg hown] at h ⊢
    by_cases hrealm : id.take 8 = targetDomain.strDeviceID.take 8
    · rw [if_neg (not_not_intro hrealm)] at h
      rw [← hrealm, List.take_append_drop]
      exact (Except.ok.inj h).symm
    · rw [if_pos hrealm] at h
      obtain ⟨rest, hrest, hfinal⟩ := exceptBind_eq_ok.mp h
      unfold substr at hrest
      split at hrest
      · cases hrest
        exact (Except.ok.inj hfinal).symm
      · cases hrest

theorem initFromTo_eq_ok_iff (mgr : RelayRegMgr) (id : CStr) (targetDomain : CSipDomain)
    (P : SipMessageMaker → Prop) (Q : CStr → CStr → Prop)
    (hP : ∀ maker, P maker ↔ Q maker.m_str_sip_to maker.m_str_sip_from) :
    (∃ maker, SipMessageMaker.initFromTo mgr id targetDomain = .ok maker ∧ P maker) ↔
      Translatable mgr id targetDomain ∧ Q (sipToOf mgr id targetDomain) mgr.getSIPFrom := by
  have hfinal := finalTargetId_eq_ok_iff mgr id targetDomain
  unfold Translatable
  rw [← hfinal]
  unfold SipMessageMaker.initFromTo
  simp only [exceptBind_eq_ok]
  constructor
  · rintro ⟨maker, ⟨final, hok, hmaker⟩, hsafe⟩
    cases hmaker
    rw [hP, finalTargetId_eq_targetID hok] at hsafe
    exact ⟨⟨final, hok⟩, hsafe⟩
  · rintro ⟨⟨final, hok⟩, hsafe⟩
    refine ⟨_, ⟨final, hok, rfl⟩, ?_⟩
    rw [hP, finalTargetId_eq_targetID hok]
    exact hsafe

/-- What a relay function needs, with what its send step needs of the To and the From text. -/
def RelaySafe (mgr : RelayRegMgr) (in_msg : SipMessage) (send : CStr → CStr → Prop) : Prop :=
  ∃ fromID, in_msg.psz_from_id = some fromID ∧
    ∀ domain, mgr.m_RelayRoutingTable.lookup fromID = some domain →
      ∃ id, in_msg.psz_req_uri_id = some id ∧ in_msg.psz_body ≠ none ∧
        Translatable mgr id domain ∧ send (sipToOf mgr id domain) mgr.getSIPFrom

theorem relayMaker_eq_none_iff (mgr : RelayRegMgr) (in_msg : SipMessage) :
    relayMaker mgr in_msg = .ok none ↔
      ∃ fromID, in_msg.psz_from_id = some fromID ∧
        mgr.m_RelayRoutingTable.lookup fromID = none := by
  unfold relayMaker RelayRegMgr.getDstDomianBy
  simp only [exceptBind_eq_ok, stdString_eq_ok]
  constructor
  · rintro ⟨found, ⟨fromID, hfrom, hfound⟩, hnone⟩
    refine ⟨fromID, hfrom, ?_⟩
    cases hlookup : mgr.m_RelayRoutingTable.lookup fromID with
    | none => rfl
    | some domain =>
      rw [← Except.ok.inj hfound, hlookup] at hnone
      simp only [exceptBind_eq_ok] at hnone
      obtain ⟨_, _, _, _, _, _, h⟩ := hnone
      cases h
  · rintro ⟨fromID, hfrom, hlookup⟩
    refine ⟨none, ⟨fromID, hfrom, ?_⟩, rfl⟩
    rw [hlookup]
    rfl

/-- The translated message, of which only the To and the From text are used. -/
theorem relayMaker_eq_some_iff (mgr : RelayRegMgr) (in_msg : SipMessage)
    (P : SipMessageMaker → Prop) (Q : CStr → CStr → Prop)
    (hP : ∀ maker, P maker ↔ Q maker.m_str_sip_to maker.m_str_sip_from) :
    (∃ maker, relayMaker mgr in_msg = .ok (some maker) ∧ P maker) ↔
      ∃ fromID domain, in_msg.psz_from_id = some fromID ∧
        mgr.m_RelayRoutingTable.lookup fromID = some domain ∧
        ∃ id, in_msg.psz_req_uri_id = some id ∧ in_msg.psz_body ≠ none ∧
          Translatable mgr id domain ∧ Q (sipToOf mgr id domain) mgr.getSIPFrom := by
  unfold relayMaker RelayRegMgr.getDstDomianBy
  simp only [exceptBind_eq_ok, stdString_eq_ok]
  constructor
  · rintro ⟨maker, ⟨found, ⟨fromID, hfrom, hfound⟩, hsome⟩, hsafe⟩
    cases hlookup : mgr.m_RelayRoutingTable.lookup fromID with
    | none =>
      rw [← Except.ok.inj hfound, hlookup] at hsome
      cases hsome
    | some domain =>
      rw [← Except.ok.inj hfound, hlookup] at hsome
      simp only [exceptBind_eq_ok, stdString_eq_ok] at hsome
      obtain ⟨id, hid, begun, hbegun, maker', hreplaced, he⟩ := hsome
      cases he
      unfold SipMessageMaker.replaceIdInbody at hreplaced
      obtain ⟨body, hbody, he⟩ := exceptBind_eq_ok.mp hreplaced
      cases he
      have hpresent : in_msg.psz_body ≠ none := by
        rw [stdString_eq_ok.mp hbody]
        exact Option.some_ne_none body
      have hQ := (hP _).mp hsafe
      have htexts := (initFromTo_eq_ok_iff mgr id domain
        (fun maker => Q maker.m_str_sip_to maker.m_str_sip_from) Q fun _ => Iff.rfl).mp
        ⟨begun, hbegun, hQ⟩
      exact ⟨fromID, domain, hfrom, hlookup, id, hid, hpresent, htexts⟩
  · rintro ⟨fromID, domain, hfrom, hlookup, id, hid, hpresent, htexts⟩
    obtain ⟨body, hbody⟩ := Option.ne_none_iff_exists'.mp hpresent
    obtain ⟨begun, hbegun, hQ⟩ := (initFromTo_eq_ok_iff mgr id domain
      (fun maker => Q maker.m_str_sip_to maker.m_str_sip_from) Q fun _ => Iff.rfl).mpr htexts
    obtain ⟨replaced, hreplaced, htoText, hfromText⟩ : ∃ replaced,
        begun.replaceIdInbody mgr in_msg.psz_body = .ok replaced ∧
          replaced.m_str_sip_to = begun.m_str_sip_to ∧
          replaced.m_str_sip_from = begun.m_str_sip_from := by
      rw [hbody]
      exact ⟨_, rfl, rfl, rfl⟩
    refine ⟨replaced, ⟨some domain, ⟨fromID, hfrom, ?_⟩, ?_⟩, ?_⟩
    · rw [hlookup]
      rfl
    · simp only [exceptBind_eq_ok, stdString_eq_ok]
      exact ⟨id, hid, begun, hbegun, replaced, hreplaced, rfl⟩
    · rw [hP, htoText, hfromText]
      exact hQ

theorem returns_relayWith {request : OsipMessage}
    {send : SipMessage → SipMessageMaker → Service Unit} {svc : CSIPService}
    {Q : CStr → CStr → Prop}
    (hsend : ∀ maker, (send (parserMessage request) maker).Returns svc ↔
      Q maker.m_str_sip_to maker.m_str_sip_from) :
    (relayWith request send).Returns svc ↔ RelaySafe svc.relay (parserMessage request) Q := by
  unfold relayWith RelaySafe
  simp only [Proc.returns_get_bind, Proc.returns_lift_bind, Option.exists]
  rw [relayMaker_eq_none_iff, relayMaker_eq_some_iff _ _ _ Q hsend]
  constructor
  · rintro (⟨⟨fromID, hfrom, hlookup⟩, _⟩ | ⟨fromID, domain, hfrom, hlookup, hsafe⟩)
    · refine ⟨fromID, hfrom, fun domain hdomain => ?_⟩
      rw [hlookup] at hdomain
      cases hdomain
    · refine ⟨fromID, hfrom, fun domain' hdomain => ?_⟩
      rw [hlookup] at hdomain
      cases hdomain
      exact hsafe
  · rintro ⟨fromID, hfrom, h⟩
    cases hlookup : svc.relay.m_RelayRoutingTable.lookup fromID with
    | none => exact Or.inl ⟨⟨fromID, hfrom, hlookup⟩, Proc.returns_pure _ _⟩
    | some domain => exact Or.inr ⟨fromID, domain, hfrom, hlookup, h domain hlookup⟩

theorem returns_built_bind {b : Bool} {m : Unit → Service Unit} {svc : CSIPService}
    (hm : (m ()).Returns svc) : (Proc.lift (built b) >>= m).Returns svc ↔ b = true := by
  rw [Proc.returns_lift_bind]
  cases b with
  | false => simp [built]
  | true => exact iff_of_true ⟨(), rfl, hm⟩ rfl

theorem returns_buildNewRequestMessageSend (maker : SipMessageMaker) (psz_Seq : CStr)
    (psz_body : Option CStr) (psz_method : String) (svc : CSIPService) :
    (buildNewRequestMessageSend E maker psz_Seq psz_body psz_method).Returns svc ↔
      E.buildsRequest (str psz_method) maker.m_str_sip_to maker.m_str_sip_from = true :=
  returns_built_bind (Proc.returns_emit _ _)

/-! ## The packet to the platform process -/

/-- The users the base information is copied from. -/
def Addressed (msg : SipMessage) : Prop :=
  msg.psz_req_uri_id ≠ none ∧ msg.psz_from_id ≠ none ∧ msg.psz_to_id ≠ none

def Packed (ev : EXosipEvent) (msg : SipMessage) : Prop := Addressed msg ∧ ev.response ≠ none

theorem deref_isOk_iff {α : Type} {p : Option α} : (∃ a, deref p = .ok a) ↔ p ≠ none := by
  cases p with
  | none => simp [deref]
  | some a => simp [deref]

theorem fillSipBlock_eq_ok_iff (ev : EXosipEvent) (msg : SipMessage) (block : IpcSipBlock) :
    (∃ packed, fillSipBlock ev msg block = .ok packed) ↔ Packed ev msg := by
  unfold fillSipBlock fillSipBlockBaseInfo fillSipBlockFromEvent Packed Addressed
  simp only [← deref_isOk_iff, exceptBind_eq_ok]
  constructor
  · rintro ⟨_, _, ⟨uriID, huri, fromID, hfrom, toID, hto, _⟩, status, hstatus, _⟩
    exact ⟨⟨⟨uriID, huri⟩, ⟨fromID, hfrom⟩, ⟨toID, hto⟩⟩, status, hstatus⟩
  · rintro ⟨⟨⟨uriID, huri⟩, ⟨fromID, hfrom⟩, ⟨toID, hto⟩⟩, status, hstatus⟩
    exact ⟨_, _, ⟨uriID, huri, fromID, hfrom, toID, hto, rfl⟩, status, hstatus, rfl⟩

theorem returns_sendSharedBody (msg : SipMessage) (block : IpcSipBlock) (svc : CSIPService) :
    (sendSharedBody msg block).Returns svc ↔ msg.psz_body ≠ none := by
  unfold sendSharedBody
  rw [Proc.returns_lift_bind, ← deref_isOk_iff]
  exact exists_congr fun body => and_iff_left (Proc.returns_emit _ _)

theorem returns_fill_bind {ev : EXosipEvent} {msg : SipMessage} {block : IpcSipBlock}
    {m : IpcSipBlock → Service Unit} {svc : CSIPService} {P : Prop}
    (hm : ∀ packed, (m packed).Returns svc ↔ P) :
    (Proc.lift (fillSipBlock ev msg block) >>= m).Returns svc ↔ Packed ev msg ∧ P := by
  rw [Proc.returns_lift_bind, ← fillSipBlock_eq_ok_iff ev msg block]
  simp only [hm, exists_and_right]

theorem returns_sendDataToShared (ev : EXosipEvent) (msg : SipMessage) (block : IpcSipBlock)
    (svc : CSIPService) :
    (sendDataToShared ev msg block).Returns svc ↔ Packed ev msg ∧ msg.psz_body ≠ none :=
  returns_fill_bind fun _ => returns_sendSharedBody _ _ _

theorem returns_handleInvite (ev : EXosipEvent) (msg : SipMessage) (svc : CSIPService) :
    (handleInvite E ev msg).Returns svc ↔
      Packed ev msg ∧ msg.psz_subject ≠ none ∧ msg.psz_body ≠ none := by
  refine returns_fill_bind fun packed => ?_
  have hsubject : (∃ id, msg.getidFromSubject = .ok id) ↔ msg.psz_subject ≠ none := by
    unfold SipMessage.getidFromSubject
    cases msg.psz_subject with
    | none => simp [stdString, bind, Except.bind]
    | some subject => simp [stdString, bind, Except.bind, pure, Except.pure]
  rw [Proc.returns_lift_bind, ← hsubject]
  simp only [returns_sendSharedBody, exists_and_right]

theorem returns_handleInviteResponse (ev : EXosipEvent) (msg : SipMessage) (svc : CSIPService) :
    (handleInviteResponse ev msg).Returns svc ↔ Packed ev msg ∧ msg.psz_body ≠ none := by
  refine returns_fill_bind fun packed => ?_
  rw [Proc.returns_get_bind, Proc.returns_update_bind, returns_sendSharedBody]

theorem returns_handleACK (ev : EXosipEvent) (msg : SipMessage) (svc : CSIPService) :
    (handleACK ev msg).Returns svc ↔ Packed ev msg ∧ msg.psz_body ≠ none :=
  returns_fill_bind fun _ => returns_sendSharedBody _ _ _

theorem returns_handleSubscribe (ev : EXosipEvent) (msg : SipMessage) (block : IpcSipBlock)
    (svc : CSIPService) :
    (handleSubscribe ev msg block).Returns svc ↔ Packed ev msg ∧ msg.psz_body ≠ none :=
  returns_fill_bind fun _ => returns_sendSharedBody _ _ _

theorem returns_handleInfo (ev : EXosipEvent) (msg : SipMessage) (svc : CSIPService) :
    (handleInfo ev msg).Returns svc ↔ Packed ev msg := by
  unfold handleInfo
  rw [returns_fill_bind (P := True) fun _ => iff_true_intro (Proc.returns_emit _ _), and_true]

theorem returns_handleBye (ev : EXosipEvent) (msg : SipMessage) (svc : CSIPService) :
    (handleBye ev msg).Returns svc ↔ Packed ev msg := by
  unfold handleBye
  rw [returns_fill_bind (P := True) fun _ => iff_true_intro (Proc.returns_emit _ _), and_true]

/-! ## The registration manager -/

def fromUser (request : OsipMessage) : Option CStr := (parserMessage request).psz_from_id

/-- A URI with a user has a host: the parser of the stack refuses `user@` alone. -/
def HasHost (request : OsipMessage) : Prop :=
  ∀ url, request.from_.join = some url → url.username ≠ none → url.host ≠ none

theorem regContact_isOk_iff {request : OsipMessage} (hhost : HasHost request) :
    (∃ strContact, regContact request.from_ = .ok strContact) ↔ fromUser request ≠ none := by
  unfold regContact fromUser parserMessage
  cases hfrom : request.from_.join with
  | none => simp [deref, bind, Except.bind]
  | some url =>
    have hhost := hhost url hfrom
    simp only [exceptBind_eq_ok, deref_eq_ok, stdString_eq_ok, Option.bind_some]
    constructor
    · rintro ⟨_, url', he, username, husername, _⟩
      cases he
      rw [husername]
      exact Option.some_ne_none username
    · intro huser
      obtain ⟨username, husername⟩ := Option.ne_none_iff_exists'.mp huser
      obtain ⟨host, hhost⟩ := Option.ne_none_iff_exists'.mp (hhost huser)
      exact ⟨_, url, rfl, username, husername, host, hhost, rfl⟩

theorem regMgrEffect_regAnswer_iff {request : OsipMessage} (hhost : HasHost request)
    (svc : CSIPService) (tid nCode nExpires : Int) :
    (∃ outside, regMgrEffect request.from_ svc (.regAnswer tid nCode nExpires) = .ok outside) ↔
      (fromUser request = none → ¬ 0 < svc.m_nAppWorkMode) := by
  rw [← not_imp_not, not_not, ← ne_eq, ← regContact_isOk_iff hhost]
  simp only [regMgrEffect]
  by_cases hmode : 0 < svc.m_nAppWorkMode
  · rw [if_pos hmode]
    simp only [exceptBind_eq_ok, hmode, true_imp_iff]
    exact ⟨fun ⟨_, c, hc, _⟩ => ⟨c, hc⟩, fun ⟨c, hc⟩ => ⟨_, c, hc, rfl⟩⟩
  · rw [if_neg hmode]
    exact iff_of_true ⟨[], rfl⟩ fun h => absurd h hmode

theorem checkMsgHeader_of_no_user {request : OsipMessage} (h : fromUser request = none)
    (tid : Int) (o : SipRegisterObject) (with_contact : Bool) :
    checkMsgHeader (request.toEvent tid) o with_contact = .ok none := by
  have hcheck : checkMsgHeader_FromTo (request.toEvent tid) o = none := by
    unfold fromUser parserMessage at h
    unfold checkMsgHeader_FromTo OsipMessage.toEvent
    rcases hfrom : request.from_ with _ | _ | url
    · rfl
    · rfl
    · rw [hfrom] at h
      have huser : url.username = none := h
      simp only [huser, Option.map_none]
  unfold checkMsgHeader
  rw [hcheck]

theorem mem_dispatch {ev : Event} {o r : SipRegisterObject} {mgr : SipRegMgr} {e : Effect}
    (he : e ∈ (dispatch E.toEnv ev o r mgr).1) :
    ∃ nCode nExpires, e = .regAnswer ev.tid nCode nExpires := by
  have hone {nCode nExpires : Int} (h : e ∈ [Effect.regAnswer ev.tid nCode nExpires]) :
      ∃ nCode nExpires, e = .regAnswer ev.tid nCode nExpires :=
    ⟨nCode, nExpires, List.mem_singleton.mp h⟩
  unfold dispatch at he
  split at he
  · exact hone he
  · split at he
    · exact hone he
    · rcases List.mem_cons.mp he with he | he
      · exact ⟨_, _, he⟩
      · exact hone he
  · exact hone he
  · exact hone he
  · exact hone he
  · cases he

/-- What a REGISTER request needs: header checks without a fault and, in a mode with a SIP context,
a From user for the Contact of the answer. -/
def RegisterSafe (svc : CSIPService) (ev : EXosipEvent) (request : OsipMessage) : Prop :=
  (∃ r, regObject E.toEnv (request.toEvent ev.tid) = .ok r) ∧
    (fromUser request = none → ¬ 0 < svc.m_nAppWorkMode)

/-- The registration returns exactly when its header checks meet no fault. -/
theorem onRegister_returns_iff (event : Event) (mgr : SipRegMgr) :
    (onRegister E.toEnv event).Returns mgr ↔ ∃ r, regObject E.toEnv event = .ok r := by
  unfold Proc.Returns
  cases hreg : regObject E.toEnv event with
  | error f =>
    rw [onRegister_fault E.toEnv hreg]
    simp
  | ok found =>
    refine iff_of_true ?_ ⟨found, rfl⟩
    cases found with
    | none =>
      rw [onRegister_refused E.toEnv hreg]
      exact ⟨_, rfl⟩
    | some o =>
      cases hstored : mgr.stored o.strDeviceID with
      | none =>
        rw [onRegister_unknown E.toEnv hreg hstored]
        exact ⟨_, rfl⟩
      | some r =>
        rw [onRegister_stored E.toEnv hreg hstored]
        exact ⟨_, rfl⟩

theorem returns_onRegister {request : OsipMessage} (hhost : HasHost request) (ev : EXosipEvent)
    (svc : CSIPService) :
    (regMgrCall request (onRegister E.toEnv (request.toEvent ev.tid))).Returns svc ↔
      RegisterSafe E svc ev request := by
  unfold regMgrCall RegisterSafe
  rw [Proc.returns_embed, onRegister_returns_iff, and_comm]
  refine and_congr_right ?_
  rintro ⟨found, hreg⟩
  -- all effects but the first answer are answers to the registration
  have hanswer (nCode nExpires : Int) :=
    regMgrEffect_regAnswer_iff hhost svc ev.tid nCode nExpires
  cases found with
  | none =>
    rw [onRegister_refused E.toEnv hreg]
    constructor
    · intro h
      refine (hanswer 403 E.fresh.nExpires).mp (h _ ?_)
      exact List.mem_append_right _ (List.mem_singleton_self _)
    · intro h e he
      rcases List.mem_append.mp he with he | he
      · have he : e = .answer ev.tid 403 := by
          split at he
          · exact List.mem_singleton.mp he
          · cases he
        rw [he]
        exact ⟨_, rfl⟩
      · rw [List.mem_singleton.mp he]
        exact (hanswer 403 _).mpr h
  | some o =>
    have huser : fromUser request ≠ none := by
      intro hnone
      have hcheck := checkMsgHeader_of_no_user hnone ev.tid E.fresh true
      unfold regObject at hreg
      rw [hcheck] at hreg
      cases hreg
    have hsafe (nCode nExpires : Int) := (hanswer nCode nExpires).mpr fun h => absurd h huser
    refine iff_of_true ?_ fun h => absurd h huser
    cases hstored : svc.m_RegManager.stored o.strDeviceID with
    | none =>
      rw [onRegister_unknown E.toEnv hreg hstored]
      intro e he
      rw [List.mem_singleton.mp he]
      exact hsafe _ _
    | some r =>
      rw [onRegister_stored E.toEnv hreg hstored]
      intro e he
      obtain ⟨nCode, nExpires, rfl⟩ := mem_dispatch E he
      exact hsafe nCode nExpires

theorem checkMsgHeader_no_contact (request : OsipMessage) (tid : Int) (o : SipRegisterObject) :
    checkMsgHeader (request.toEvent tid) o false =
      .ok ((fromUser request).map fun id => { o with strDeviceID := id }) := by
  unfold checkMsgHeader checkMsgHeader_FromTo OsipMessage.toEvent fromUser parserMessage
  rcases request.from_ with _ | _ | url
  · rfl
  · rfl
  · cases huser : url.username with
    | none => simp [huser]
    | some username => simp [huser]

/-- What a keep-alive needs: a record for its sender. -/
def KeepAliveSafe (svc : CSIPService) (request : OsipMessage) : Prop :=
  ∀ id, fromUser request = some id → svc.m_RegManager.stored id ≠ none

theorem returns_onKeepAlive (timCurrent : Int) (request : OsipMessage) (ev : EXosipEvent)
    (svc : CSIPService) :
    (regMgrCall request
        (onKeepAlive E.toEnv timCurrent (request.toEvent ev.tid))).Returns svc ↔
      KeepAliveSafe svc request := by
  have hcheck := checkMsgHeader_no_contact request ev.tid E.fresh
  have hanswer (nCode : Int) : ∀ e ∈ [Effect.answer ev.tid nCode],
      ∃ outside, regMgrEffect request.from_ svc e = .ok outside := by
    intro e he
    rw [List.mem_singleton.mp he]
    exact ⟨_, rfl⟩
  unfold regMgrCall KeepAliveSafe
  rw [Proc.returns_embed]
  unfold Proc.Returns
  cases huser : fromUser request with
  | none =>
    rw [huser] at hcheck
    rw [onKeepAlive_refused E.toEnv hcheck]
    exact iff_of_true ⟨hanswer 403, _, rfl⟩ fun id h => nomatch h
  | some id =>
    rw [huser] at hcheck
    cases hstored : svc.m_RegManager.stored id with
    | none =>
      rw [onKeepAlive_unknown E.toEnv hcheck timCurrent hstored]
      refine iff_of_false ?_ fun h => h id rfl hstored
      rintro ⟨_, r, hr⟩
      cases hr
    | some r =>
      rw [onKeepAlive_stored E.toEnv hcheck timCurrent hstored]
      refine iff_of_true ⟨hanswer 200, _, rfl⟩ ?_
      intro id' hid'
      cases hid'
      rw [hstored]
      exact Option.some_ne_none r

/-! ### Password change -/

/-- The texts of a password change fit their buffers. -/
def ChangeSafe (strPassWord : CStr) (info : SipObjectPasswd) : Prop :=
  ∃ nonce1, decodeE info.nonce1 = .ok nonce1 ∧
    if getMd5String E.toEnv (info.nonce ++ str ":" ++ strPassWord) = nonce1 then
      (∃ fromInfo, decodeE info.nonce = .ok fromInfo) ∧
        ∃ tmpBuf, packModifyPasswordRet { info with result := str "OK" } = .ok tmpBuf
    else ∃ tmpBuf, packModifyPasswordRet { info with result := str "NGN" } = .ok tmpBuf

theorem changePassword_isOk_iff (id strPassWord : CStr) (info : SipObjectPasswd)
    (mgr : SipRegMgr) :
    (∃ r, (changePassword E.toEnv id strPassWord info mgr).val = .ok r) ↔
      ChangeSafe E strPassWord info := by
  have hmap (info : SipObjectPasswd) (code : RetCode) :
      (∃ r, (packModifyPasswordRet info).map (fun _ => code) = .ok r) ↔
        ∃ tmpBuf, packModifyPasswordRet info = .ok tmpBuf := by
    cases packModifyPasswordRet info with
    | error f => simp [Except.map]
    | ok tmpBuf => simp [Except.map]
  unfold changePassword ChangeSafe
  cases hnonce1 : decodeE info.nonce1 with
  | error f => simp
  | ok nonce1 =>
    simp only [Except.ok.injEq, exists_eq_left']
    by_cases hmd5 : getMd5String E.toEnv (info.nonce ++ str ":" ++ strPassWord) = nonce1
    · rw [if_pos hmd5, if_pos hmd5]
      cases hnonce : decodeE info.nonce with
      | error f => simp
      | ok fromInfo =>
        rw [hmap]
        exact (and_iff_right ⟨fromInfo, rfl⟩).symm
    · rw [if_neg hmd5, if_neg hmd5, hmap]

/-- What a password change needs: a body, header checks without a fault and, for a stored device,
a body with all parts and texts that fit. -/
def PasswordSafe (svc : CSIPService) (ev : EXosipEvent) (request : OsipMessage)
    (psz_body : Option CStr) : Prop :=
  ∃ xml, psz_body = some xml ∧
    (∃ r, checkMsgHeader (request.toEvent ev.tid) E.fresh true = .ok r) ∧
    ∀ o, checkMsgHeader (request.toEvent ev.tid) E.fresh true = .ok (some o) →
      svc.m_RegManager.stored o.strDeviceID ≠ none →
      ∃ info, parseModifyuserPassword E.toXmlEnv xml = .ok info ∧
        ChangeSafe E o.strPassWord info

theorem run_regMgrCall_getRegisterObjectInfo_stored (request : OsipMessage) {svc : CSIPService}
    {id : CStr} {r : SipRegisterObject} (h : svc.m_RegManager.stored id = some r) :
    regMgrCall request (getRegisterObjectInfo E.toEnv id) svc = ⟨[], svc, .ok (some id)⟩ := by
  unfold regMgrCall Proc.embed
  rw [run_getRegisterObjectInfo_stored E.toEnv h]
  rfl

theorem returns_onModifyPassword {request : OsipMessage} {ev : EXosipEvent} {svc : CSIPService}
    {o r : SipRegisterObject}
    (ho : checkMsgHeader (request.toEvent ev.tid) E.fresh true = .ok (some o))
    (hstored : svc.m_RegManager.stored o.strDeviceID = some r) (info : SipObjectPasswd) :
    (regMgrCall request
        (onModifyPassword E.toEnv (request.toEvent ev.tid) info)).Returns svc ↔
      ChangeSafe E o.strPassWord info := by
  unfold regMgrCall
  rw [Proc.returns_embed]
  unfold Proc.Returns
  rw [onModifyPassword_stored E.toEnv ho info hstored, changePassword_isOk_iff]
  refine and_iff_right fun e he => ?_
  unfold changePassword at he
  split at he
  · cases he
  · split at he
    · split at he
      · cases he
      · rw [List.mem_singleton.mp he]
        exact ⟨_, rfl⟩
    · cases he

theorem returns_onModifyPasswordBody (ev : EXosipEvent) (request : OsipMessage)
    (psz_body : Option CStr) (svc : CSIPService) :
    (onModifyPasswordBody E ev request psz_body).Returns svc ↔
      PasswordSafe E svc ev request psz_body := by
  unfold onModifyPasswordBody PasswordSafe
  rw [Proc.returns_lift_bind]
  simp only [stdString_eq_ok]
  refine exists_congr fun xml => and_congr_right fun hxml => ?_
  rw [Proc.returns_lift_bind]
  cases hcheck : checkMsgHeader (request.toEvent ev.tid) E.fresh true with
  | error f =>
    refine iff_of_false ?_ fun h => ?_
    · rintro ⟨found, hfound, _⟩
      cases hfound
    · obtain ⟨⟨_, hr⟩, _⟩ := h
      cases hr
  | ok found =>
    cases found with
    | none =>
      refine iff_of_true ⟨none, rfl, Proc.returns_pure _ _⟩ ⟨⟨none, rfl⟩, fun o ho => ?_⟩
      cases ho
    | some o =>
      have hmapped : (Except.mapError SipFault.regMgr (.ok (some o)) :
          Except SipFault (Option SipRegisterObject)) = .ok (some o) := rfl
      simp only [hmapped, Except.ok.injEq, exists_eq_left', Option.some.injEq, forall_eq']
      rw [Proc.returns_bind]
      cases hstored : svc.m_RegManager.stored o.strDeviceID with
      | none =>
        refine iff_of_true ⟨none, ?_, Proc.returns_pure _ _⟩
          ⟨⟨some o, rfl⟩, fun h => absurd rfl h⟩
        unfold regMgrCall Proc.embed
        rw [run_getRegisterObjectInfo_unknown E.toEnv hstored]
        rfl
      | some r =>
        rw [run_regMgrCall_getRegisterObjectInfo_stored E request hstored]
        simp only [Except.ok.injEq, exists_eq_left', Proc.returns_lift_bind]
        constructor
        · rintro ⟨info, hinfo, hreturns⟩
          refine ⟨⟨some o, rfl⟩, fun _ => ⟨info, hinfo, ?_⟩⟩
          obtain ⟨code, hcode, _⟩ := (Proc.returns_bind _ _ _).mp hreturns
          exact (returns_onModifyPassword E hcheck hstored info).mp ⟨code, hcode⟩
        · rintro ⟨_, h⟩
          obtain ⟨info, hinfo, hsafe⟩ := h (Option.some_ne_none r)
          refine ⟨info, hinfo, ?_⟩
          obtain ⟨code, hcode⟩ := (returns_onModifyPassword E hcheck hstored info).mpr hsafe
          exact (Proc.returns_bind _ _ _).mpr ⟨code, hcode, Proc.returns_pure _ _⟩

theorem keeps_relay_onModifyPasswordBody (ev : EXosipEvent) (request : OsipMessage)
    (psz_body : Option CStr) :
    Proc.Keeps (fun svc : CSIPService => svc.relay)
      (onModifyPasswordBody E ev request psz_body) := by
  unfold onModifyPasswordBody
  refine Proc.keeps_bind (Proc.keeps_lift _) fun xml => ?_
  refine Proc.keeps_bind (Proc.keeps_lift _) fun found => ?_
  cases found with
  | none => exact Proc.keeps_pure _
  | some o =>
    refine Proc.keeps_bind (Proc.keeps_embed fun _ _ => rfl) fun p => ?_
    cases p with
    | none => exact Proc.keeps_pure _
    | some id =>
      refine Proc.keeps_bind (Proc.keeps_lift _) fun info => ?_
      exact Proc.keeps_bind (Proc.keeps_embed fun _ _ => rfl) fun _ => Proc.keeps_pure _

/-! ## The cases of the switch -/

/-- What the message with the default-constructed packet needs. -/
def PacketSafe (mgr : RelayRegMgr) : Prop :=
  ∃ targetDomain, E.defaultPacket.2.1 = some targetDomain ∧
    Translatable mgr E.defaultPacket.1 targetDomain ∧
    E.buildsRequest (str "MESSAGE") (sipToOf mgr E.defaultPacket.1 targetDomain)
      mgr.getSIPFrom = true

theorem returns_sendRequestMessage (strBody : CStr) (svc : CSIPService) :
    (sendRequestMessage E strBody).Returns svc ↔ PacketSafe E svc.relay := by
  unfold sendRequestMessage PacketSafe
  simp only [Proc.returns_get_bind, Proc.returns_lift_bind, deref_eq_ok]
  refine exists_congr fun targetDomain => and_congr_right fun _ => ?_
  exact initFromTo_eq_ok_iff svc.relay _ targetDomain _
    (fun sip_to sip_from => E.buildsRequest (str "MESSAGE") sip_to sip_from = true)
    fun maker => returns_buildNewRequestMessageSend E maker _ _ _ svc

/-- The command of a message body, unset when there is none. -/
def commandOf (X : XmlEnv) (psz_body : Option CStr) : BodyCmd :=
  match parserMessageBody X psz_body with
  | .ok (some fields) => fields.cmd_body
  | _ => .unset

/-- What a message for the gateway needs. -/
def MessageSafe (svc : CSIPService) (ev : EXosipEvent) (request : OsipMessage) (msg : SipMessage) :
    Prop :=
  MessageReadable E.toXmlEnv msg.psz_body ∧
    if E.readsModifyPassword (commandOf E.toXmlEnv msg.psz_body) then
      PasswordSafe E svc ev request msg.psz_body ∧ PacketSafe E svc.relay
    else Packed ev msg ∧ msg.psz_body ≠ none

theorem returns_sendAnsweredByCode_bind {α : Type} (ev : EXosipEvent) (nCode : Int)
    (m : Service α) (svc : CSIPService) :
    (do CSIPService.sendAnsweredByCode ev nCode; m : Service α).Returns svc ↔ m.Returns svc := by
  unfold CSIPService.sendAnsweredByCode
  split
  · exact Proc.returns_emit_bind _ _ _
  · exact Iff.rfl

theorem returns_handleMessage (ev : EXosipEvent) (request : OsipMessage) (msg : SipMessage)
    (block : IpcSipBlock) {svc : CSIPService} (hmode : svc.m_nAppWorkMode ≠ 2) :
    (handleMessage E ev request msg block).Returns svc ↔
      if E.readsModifyPassword block.cmd_body then
        PasswordSafe E svc ev request msg.psz_body ∧ PacketSafe E svc.relay
      else Packed ev msg ∧ msg.psz_body ≠ none := by
  unfold handleMessage
  rw [returns_sendAnsweredByCode_bind]
  by_cases hpassword : E.readsModifyPassword block.cmd_body = true
  · rw [if_pos hpassword, if_pos hpassword, Proc.returns_bind,
      ← returns_onModifyPasswordBody]
    have hrelay := keeps_relay_onModifyPasswordBody E ev request msg.psz_body svc
    simp only [Proc.returns_lift_bind, stdString_eq_ok, returns_sendRequestMessage, hrelay]
    constructor
    · rintro ⟨u, hu, _, _, hpacket⟩
      exact ⟨⟨u, hu⟩, hpacket⟩
    · rintro ⟨⟨u, hu⟩, hpacket⟩
      obtain ⟨xml, hxml, _⟩ :=
        (returns_onModifyPasswordBody E ev request msg.psz_body svc).mp ⟨u, hu⟩
      exact ⟨u, hu, xml, hxml, hpacket⟩
  · rw [if_neg hpassword, if_neg hpassword, Proc.returns_get_bind, if_neg hmode,
      returns_sendDataToShared]

theorem returns_parseMessageBody_bind {α : Type} {msg : SipMessage} {cmd : SipCmd}
    {m : IpcSipBlock → Service α} {svc : CSIPService} {P : BodyCmd → Prop}
    (hm : ∀ block, (m block).Returns svc ↔ P block.cmd_body) :
    (Proc.lift (parseMessageBody E msg { eWorkType := .default_message, cmd_type := cmd }) >>=
        m).Returns svc ↔
      MessageReadable E.toXmlEnv msg.psz_body ∧ P (commandOf E.toXmlEnv msg.psz_body) := by
  rw [Proc.returns_lift_bind, ← parserMessageBody_eq_ok_iff]
  unfold parseMessageBody commandOf
  simp only [exceptBind_eq_ok, hm]
  cases parserMessageBody E.toXmlEnv msg.psz_body with
  | error f => simp
  | ok fields =>
    cases fields with
    | none => simp [pure, Except.pure, IpcSipBlock.withBody]
    | some fields => simp [pure, Except.pure, IpcSipBlock.withBody]

theorem returns_subscription_bind {msg : SipMessage} {block : IpcSipBlock}
    (hkind : block.eWorkType = .subscription ∨ block.eWorkType = .event_notify)
    {m : IpcSipBlock → Service Unit} {svc : CSIPService} {P : Prop}
    (hm : ∀ block, (m block).Returns svc ↔ P) :
    (Proc.lift (parseMessageBody E msg block) >>= m).Returns svc ↔
      SubscriptionReadable E.toXmlEnv msg.psz_body ∧ P := by
  have hparse : parseMessageBody E msg block =
      (do return block.withBody (← parserSubscriptionBody E.toXmlEnv msg.psz_body)) := by
    unfold parseMessageBody
    rcases hkind with h | h
    · rw [h]
    · rw [h]
  rw [Proc.returns_lift_bind, ← parserSubscriptionBody_eq_ok_iff, hparse]
  simp only [exceptBind_eq_ok, hm, exists_and_right]
  refine and_congr_left fun _ => ?_
  exact ⟨fun ⟨_, r, hr, _⟩ => ⟨r, hr⟩, fun ⟨r, hr⟩ => ⟨_, r, hr, rfl⟩⟩

theorem returns_thenBreak (m : Service Unit) (svc : CSIPService) :
    (thenBreak m).Returns svc ↔ m.Returns svc := by
  unfold thenBreak
  rw [Proc.returns_bind]
  exact exists_congr fun u => and_iff_left (Proc.returns_pure _ _)

theorem returns_relayOr (relay handler : Service Unit) (svc : CSIPService) :
    (relayOr relay handler).Returns svc ↔
      if svc.m_nAppWorkMode = 2 then relay.Returns svc else handler.Returns svc := by
  unfold relayOr
  rw [Proc.returns_get_bind]
  split <;> rfl

theorem returns_relayMessageInfo (ev : EXosipEvent) (request : OsipMessage) (svc : CSIPService) :
    (relayMessageInfo E ev request).Returns svc ↔
      RelaySafe svc.relay (parserMessage request) fun _ _ => True := by
  refine returns_relayWith fun maker => iff_true_intro ?_
  split
  · exact Proc.returns_emit _ _
  · exact Proc.returns_pure _ _

theorem returns_relayMessageNew (ev : EXosipEvent) (request : OsipMessage) (svc : CSIPService) :
    (relayMessageNew E ev request).Returns svc ↔
      RelaySafe svc.relay (parserMessage request) fun sip_to sip_from =>
        request.isMethod "INFO" = true ∨
          E.buildsRequest (str "MESSAGE") sip_to sip_from = true := by
  unfold relayMessageNew
  by_cases hinfo : request.isMethod "INFO" = true
  · rw [if_pos hinfo, returns_relayMessageInfo]
    simp only [hinfo, true_or]
  · rw [if_neg hinfo]
    simp only [hinfo, Bool.false_eq_true, false_or]
    exact returns_relayWith fun maker => returns_buildNewRequestMessageSend E maker _ _ _ svc

theorem returns_relayMessageAnswered (request : OsipMessage) (svc : CSIPService) :
    (relayMessageAnswered E request).Returns svc ↔
      RelaySafe svc.relay (parserMessage request) fun sip_to sip_from =>
        E.buildsRequest (str "MESSAGE") sip_to sip_from = true :=
  returns_relayWith fun maker => returns_buildNewRequestMessageSend E maker _ _ _ svc

theorem returns_relaySubscription (request : OsipMessage) (svc : CSIPService) :
    (relaySubscription E request).Returns svc ↔
      RelaySafe svc.relay (parserMessage request) fun sip_to sip_from =>
        E.buildsRequest (str "SUBSCRIBE") sip_to sip_from = true :=
  returns_relayWith fun maker => returns_buildNewRequestMessageSend E maker _ _ _ svc

theorem returns_relayCallInvite (request : OsipMessage) (svc : CSIPService) :
    (relayCallInvite request).Returns svc ↔
      RelaySafe svc.relay (parserMessage request) fun _ _ => False := by
  refine returns_relayWith fun maker => ?_
  rw [Proc.returns_lift]
  simp [built]

theorem returns_relayCallAck (ev : EXosipEvent) (request : OsipMessage) (svc : CSIPService) :
    (relayCallAck E ev request).Returns svc ↔
      RelaySafe svc.relay (parserMessage request) fun _ _ =>
        ∃ status_code, ev.ack = some status_code ∧
          E.buildsCallAnswer ev.tid status_code = true := by
  refine returns_relayWith fun maker => ?_
  rw [Proc.returns_lift_bind]
  simp only [deref_eq_ok]
  refine exists_congr fun status_code => and_congr_right fun _ => ?_
  exact returns_built_bind (Proc.returns_emit _ _)

theorem returns_relayCallClosed (ev : EXosipEvent) (request : OsipMessage) (svc : CSIPService) :
    (relayCallClosed ev request).Returns svc ↔
      RelaySafe svc.relay (parserMessage request) fun _ _ => True :=
  returns_relayWith fun _ => iff_true_intro (Proc.returns_emit _ _)

theorem returns_handleRegFail (ev : EXosipEvent) (msg : SipMessage) (svc : CSIPService) :
    (handleRegFail E ev msg).Returns svc ↔
      ∃ status_code, ev.response = some status_code ∧
        (status_code = 401 ∨ svc.m_nAppWorkMode = 2 ∨
          Packed ev msg ∧ msg.psz_body ≠ none) := by
  unfold handleRegFail
  simp only [Proc.returns_get_bind, Proc.returns_lift_bind, deref_eq_ok]
  refine exists_congr fun status_code => and_congr_right fun _ => ?_
  by_cases hcode : status_code = 401
  · rw [if_pos hcode]
    refine iff_of_true ?_ (Or.inl hcode)
    split
    · rw [Proc.returns_update_bind]
      exact Proc.returns_emit _ _
    · exact Proc.returns_pure _ _
  · rw [if_neg hcode]
    by_cases hmode : svc.m_nAppWorkMode = 2
    · rw [if_pos hmode]
      exact iff_of_true (Proc.returns_pure _ _) (Or.inr (Or.inl hmode))
    · rw [if_neg hmode, returns_sendDataToShared]
      simp only [hcode, hmode, false_or]

theorem returns_onRegisterToSucess (request : OsipMessage) (svc : CSIPService) :
    (onRegisterToSucess E request).Returns svc ↔ (parserMessage request).psz_req_uri_id ≠ none := by
  unfold onRegisterToSucess parserMessage
  simp only [Proc.returns_lift_bind, deref_eq_ok, stdString_eq_ok]
  cases request.req_uri with
  | none => simp
  | some uri =>
    simp only [Option.some.injEq, exists_eq_left', Option.bind_some, Option.ne_none_iff_exists']
    exact exists_congr fun username => and_iff_left ⟨(), rfl⟩

theorem keeps_mode_onRegisterToSucess (request : OsipMessage) :
    Proc.Keeps (fun svc : CSIPService => svc.m_nAppWorkMode) (onRegisterToSucess E request) := by
  unfold onRegisterToSucess
  refine Proc.keeps_bind (Proc.keeps_lift _) fun uri => ?_
  refine Proc.keeps_bind (Proc.keeps_lift _) fun username => ?_
  exact Proc.keeps_update fun _ => rfl

theorem returns_caseRegistrationSuccess (ev : EXosipEvent) (request : OsipMessage)
    (msg : SipMessage) (svc : CSIPService) :
    (caseRegistrationSuccess E ev request msg).Returns svc ↔
      (parserMessage request).psz_req_uri_id ≠ none ∧
        (svc.m_nAppWorkMode = 2 ∨ Packed ev msg ∧ msg.psz_body ≠ none) := by
  have hmode := keeps_mode_onRegisterToSucess E request svc
  have hrest : ∀ svc', svc'.m_nAppWorkMode = svc.m_nAppWorkMode →
      ((do
        let svc ← Proc.get
        if svc.m_nAppWorkMode = 2 then return some (.value 0)
        else
          handleRegSuccess ev msg
          return none : Service (Option RetCode)).Returns svc' ↔
        (svc.m_nAppWorkMode = 2 ∨ Packed ev msg ∧ msg.psz_body ≠ none)) := by
    intro svc' h
    rw [Proc.returns_get_bind, h]
    by_cases hrelay : svc.m_nAppWorkMode = 2
    · rw [if_pos hrelay]
      exact iff_of_true (Proc.returns_pure _ _) (Or.inl hrelay)
    · rw [if_neg hrelay, Proc.returns_bind]
      simp only [hrelay, false_or]
      rw [← returns_sendDataToShared]
      exact exists_congr fun u => and_iff_left (Proc.returns_pure _ _)
  rw [← returns_onRegisterToSucess E]
  unfold caseRegistrationSuccess
  rw [Proc.returns_bind]
  simp only [hrest _ hmode, exists_and_right]
  rfl

theorem returns_caseMessageNew (timCurrent : Int) {request : OsipMessage}
    (hhost : HasHost request) (ev : EXosipEvent) (msg : SipMessage) (svc : CSIPService) :
    (caseMessageNew E timCurrent ev request msg).Returns svc ↔
      if request.isMethod "REGISTER" then RegisterSafe E svc ev request
      else HasCmdType E.toXmlEnv msg.psz_body ∧
        if isKeepAlive E.toXmlEnv msg.psz_body = .ok true then KeepAliveSafe svc request
        else if svc.m_nAppWorkMode = 2 then
          RelaySafe svc.relay (parserMessage request) fun sip_to sip_from =>
            request.isMethod "INFO" = true ∨
              E.buildsRequest (str "MESSAGE") sip_to sip_from = true
        else MessageSafe E svc ev request msg := by
  have hthen {m : Service Unit} : (m >>= fun _ => (pure none : Service (Option RetCode))).Returns
      svc ↔ m.Returns svc := returns_thenBreak m svc
  unfold caseMessageNew
  by_cases hregister : request.isMethod "REGISTER" = true
  · rw [if_pos hregister, if_pos hregister, ← returns_onRegister E hhost, Proc.returns_bind]
    exact exists_congr fun code => and_iff_left (Proc.returns_pure _ _)
  · rw [if_neg hregister, if_neg hregister, Proc.returns_lift_bind, ← isKeepAlive_eq_ok_iff]
    cases halive : isKeepAlive E.toXmlEnv msg.psz_body with
    | error f => simp
    | ok alive =>
      cases alive with
      | true =>
        simp only [Except.ok.injEq, exists_eq_left', if_true, exists_eq', true_and]
        rw [← returns_onKeepAlive E timCurrent request ev, Proc.returns_bind]
        exact exists_congr fun code => and_iff_left (Proc.returns_pure _ _)
      | false =>
        simp only [Except.ok.injEq, exists_eq_left', Bool.false_eq_true, if_false, exists_eq',
          true_and, Proc.returns_get_bind]
        by_cases hmode : svc.m_nAppWorkMode = 2
        · simp only [if_pos hmode]
          rw [hthen, returns_relayMessageNew]
        · simp only [if_neg hmode]
          unfold MessageSafe
          refine returns_parseMessageBody_bind E (P := fun cmd =>
            if E.readsModifyPassword cmd then
              PasswordSafe E svc ev request msg.psz_body ∧ PacketSafe E svc.relay
            else Packed ev msg ∧ msg.psz_body ≠ none) fun block => ?_
          rw [hthen, returns_handleMessage E ev request msg block hmode]

/-! ## All events -/

/-- What a request needs, by the type of its event. -/
def RequestSafe (svc : CSIPService) (ev : EXosipEvent) (request : OsipMessage) : Prop :=
  let msg := parserMessage request
  match ev.type with
  | .inSubscriptionNew =>
    request.isMethod "SUBSCRIBE" = true →
      if svc.m_nAppWorkMode = 2 then
        RelaySafe svc.relay msg fun sip_to sip_from =>
          E.buildsRequest (str "SUBSCRIBE") sip_to sip_from = true
      else SubscriptionReadable E.toXmlEnv msg.psz_body ∧ Packed ev msg ∧ msg.psz_body ≠ none
  | .subscriptionNotify => SubscriptionReadable E.toXmlEnv msg.psz_body
  | .messageNew =>
    if request.isMethod "REGISTER" then RegisterSafe E svc ev request
    else HasCmdType E.toXmlEnv msg.psz_body ∧
      if isKeepAlive E.toXmlEnv msg.psz_body = .ok true then KeepAliveSafe svc request
      else if svc.m_nAppWorkMode = 2 then
        RelaySafe svc.relay msg fun sip_to sip_from =>
          request.isMethod "INFO" = true ∨
            E.buildsRequest (str "MESSAGE") sip_to sip_from = true
      else MessageSafe E svc ev request msg
  | .messageAnswered =>
    if svc.m_nAppWorkMode = 2 then
      HasCmdType E.toXmlEnv msg.psz_body ∧
        (isKeepAlive E.toXmlEnv msg.psz_body = .ok true ∨
          RelaySafe svc.relay msg fun sip_to sip_from =>
            E.buildsRequest (str "MESSAGE") sip_to sip_from = true)
    else Packed ev msg ∧ msg.psz_body ≠ none
  | .callInvite =>
    if svc.m_nAppWorkMode = 2 then RelaySafe svc.relay msg fun _ _ => False
    else Packed ev msg ∧ msg.psz_subject ≠ none ∧ msg.psz_body ≠ none
  | .callAnswered => Packed ev msg ∧ msg.psz_body ≠ none
  | .callAck =>
    if svc.m_nAppWorkMode = 2 then
      RelaySafe svc.relay msg fun _ _ =>
        ∃ status_code, ev.ack = some status_code ∧
          E.buildsCallAnswer ev.tid status_code = true
    else Packed ev msg ∧ msg.psz_body ≠ none
  | .callMessageNew =>
    request.isMethod "INFO" = true →
      if svc.m_nAppWorkMode = 2 then RelaySafe svc.relay msg fun _ _ => True
      else Packed ev msg
  | .callClosed =>
    request.isMethod "BYE" = true →
      if svc.m_nAppWorkMode = 2 then RelaySafe svc.relay msg fun _ _ => True
      else Packed ev msg
  | .registrationSuccess =>
    msg.psz_req_uri_id ≠ none ∧
      (svc.m_nAppWorkMode = 2 ∨ Packed ev msg ∧ msg.psz_body ≠ none)
  | .registrationFailure =>
    ∃ status_code, ev.response = some status_code ∧
      (status_code = 401 ∨ svc.m_nAppWorkMode = 2 ∨ Packed ev msg ∧ msg.psz_body ≠ none)
  | _ => True

/-- What an event needs; one without a request is released at once. -/
def EventSafe (svc : CSIPService) (ev : EXosipEvent) : Prop :=
  ∀ request, ev.request = some request → RequestSafe E svc ev request

theorem returns_caseInSubscriptionNew (ev : EXosipEvent) (request : OsipMessage)
    (svc : CSIPService) :
    (caseInSubscriptionNew E ev request (parserMessage request)).Returns svc ↔
      (request.isMethod "SUBSCRIBE" = true →
        if svc.m_nAppWorkMode = 2 then
          RelaySafe svc.relay (parserMessage request) fun sip_to sip_from =>
            E.buildsRequest (str "SUBSCRIBE") sip_to sip_from = true
        else SubscriptionReadable E.toXmlEnv (parserMessage request).psz_body ∧
          Packed ev (parserMessage request) ∧ (parserMessage request).psz_body ≠ none) := by
  unfold caseInSubscriptionNew
  rw [returns_sendAnsweredByCode_bind]
  by_cases hmethod : request.isMethod "SUBSCRIBE" = true
  · rw [if_pos hmethod, Proc.returns_get_bind, imp_iff_right hmethod]
    by_cases hmode : svc.m_nAppWorkMode = 2
    · rw [if_pos hmode, if_pos hmode, returns_relaySubscription]
    · rw [if_neg hmode, if_neg hmode]
      exact returns_subscription_bind E (Or.inl rfl) fun block => returns_handleSubscribe _ _ _ _
  · rw [if_neg hmethod]
    exact iff_of_true (Proc.returns_pure _ _) fun h => absurd h hmethod

theorem returns_caseSubscriptionNotify (ev : EXosipEvent) (request : OsipMessage)
    (msg : SipMessage) (svc : CSIPService) :
    (caseSubscriptionNotify E ev request msg).Returns svc ↔
      SubscriptionReadable E.toXmlEnv msg.psz_body := by
  have hparse : (Proc.lift (parseMessageBody E msg
      { eWorkType := .event_notify, cmd_type := .subscribeNotify }) >>= fun _ =>
        (pure () : Service Unit)).Returns svc ↔
      SubscriptionReadable E.toXmlEnv msg.psz_body ∧ True :=
    returns_subscription_bind E (Or.inr rfl) fun _ => iff_true_intro (Proc.returns_pure _ _)
  rw [and_true] at hparse
  unfold caseSubscriptionNotify
  by_cases hmethod : request.isMethod "NOTIFY" = true
  · simp only [if_pos hmethod]
    rw [returns_sendAnsweredByCode_bind, hparse]
  · simp only [if_neg hmethod]
    exact hparse

theorem returns_caseMessageAnswered (ev : EXosipEvent) (request : OsipMessage)
    (svc : CSIPService) :
    (caseMessageAnswered E ev request (parserMessage request)).Returns svc ↔
      if svc.m_nAppWorkMode = 2 then
        HasCmdType E.toXmlEnv (parserMessage request).psz_body ∧
          (isKeepAlive E.toXmlEnv (parserMessage request).psz_body = .ok true ∨
            RelaySafe svc.relay (parserMessage request) fun sip_to sip_from =>
              E.buildsRequest (str "MESSAGE") sip_to sip_from = true)
      else Packed ev (parserMessage request) ∧ (parserMessage request).psz_body ≠ none := by
  unfold caseMessageAnswered
  rw [Proc.returns_get_bind]
  by_cases hmode : svc.m_nAppWorkMode = 2
  · rw [if_pos hmode, if_pos hmode, Proc.returns_lift_bind, ← isKeepAlive_eq_ok_iff]
    cases halive : isKeepAlive E.toXmlEnv (parserMessage request).psz_body with
    | error f => simp
    | ok alive =>
      cases alive with
      | true =>
        refine iff_of_true ⟨true, rfl, ?_⟩ ⟨⟨true, rfl⟩, Or.inl rfl⟩
        exact Proc.returns_pure _ _
      | false =>
        simp only [Except.ok.injEq, exists_eq_left', Bool.false_eq_true, if_false, exists_eq',
          true_and, false_or]
        exact returns_relayMessageAnswered E request svc
  · rw [if_neg hmode, if_neg hmode]
    exact returns_sendDataToShared _ _ _ _

theorem returns_handleRequest (timCurrent : Int) (svc : CSIPService) (ev : EXosipEvent)
    {request : OsipMessage} (hhost : HasHost request) :
    (handleRequest E timCurrent ev request).Returns svc ↔ RequestSafe E svc ev request := by
  unfold handleRequest RequestSafe
  cases ev.type with
  | inSubscriptionNew =>
    exact (returns_thenBreak _ _).trans (returns_caseInSubscriptionNew E ev request svc)
  | subscriptionNotify =>
    exact (returns_thenBreak _ _).trans (returns_caseSubscriptionNotify E ev request _ svc)
  | messageNew => exact returns_caseMessageNew E timCurrent hhost ev _ svc
  | messageAnswered =>
    exact (returns_thenBreak _ _).trans (returns_caseMessageAnswered E ev request svc)
  | callInvite =>
    simp only [returns_thenBreak, returns_relayOr, returns_relayCallInvite, returns_handleInvite]
  | callAnswered =>
    simp only [returns_thenBreak, returns_handleInviteResponse]
  | callAck =>
    simp only [returns_thenBreak, returns_relayOr, returns_relayCallAck, returns_handleACK]
  | callMessageNew =>
    simp only [returns_thenBreak, caseCallMessageNew, returns_sendAnsweredByCode_bind]
    by_cases hmethod : request.isMethod "INFO" = true
    · rw [if_pos hmethod, imp_iff_right hmethod, returns_relayOr, returns_relayMessageNew,
        returns_handleInfo]
      simp only [hmethod, true_or]
    · simp only [if_neg hmethod]
      exact iff_of_true (Proc.returns_pure _ _) fun h => absurd h hmethod
  | callClosed =>
    dsimp only
    by_cases hmethod : request.isMethod "BYE" = true
    · rw [if_pos hmethod, imp_iff_right hmethod, returns_thenBreak, returns_relayOr,
        returns_relayCallClosed, returns_handleBye]
    · simp only [if_neg hmethod]
      exact iff_of_true (Proc.returns_pure _ _) fun h => absurd h hmethod
  | registrationSuccess => exact returns_caseRegistrationSuccess E ev request _ svc
  | registrationFailure =>
    exact (returns_thenBreak _ _).trans (returns_handleRegFail E ev _ svc)
  | _ => exact iff_of_true (Proc.returns_pure _ _) trivial

theorem handleSIP_no_request (timCurrent : Int) {ev : EXosipEvent} (h : ev.request = none) :
    handleSIP E timCurrent (some ev) = afterSwitch ev none := by
  simp only [handleSIP, h]

theorem handleSIP_request (timCurrent : Int) {ev : EXosipEvent} {request : OsipMessage}
    (h : ev.request = some request) :
    handleSIP E timCurrent (some ev) = (do
      Proc.emit (.defaultAction ev.tid)
      afterSwitch ev (← handleRequest E timCurrent ev request)) := by
  simp only [handleSIP, h]

theorem returns_afterSwitch (ev : EXosipEvent) (nRet : Option RetCode) (svc : CSIPService) :
    (afterSwitch ev nRet).Returns svc := by
  cases nRet with
  | some nRet => exact Proc.returns_pure _ _
  | none => exact (Proc.returns_emit_bind _ _ _).mpr (Proc.returns_pure _ _)

/-- **Which events the service survives.**  `HandleSIP` comes to its end exactly when the event
has every part its handler reads. -/
theorem handleSIP_returns_iff (timCurrent : Int) (svc : CSIPService) (ev : EXosipEvent)
    (hhost : ∀ request, ev.request = some request → HasHost request) :
    (handleSIP E timCurrent (some ev)).Returns svc ↔ EventSafe E svc ev := by
  unfold EventSafe
  cases hrequest : ev.request with
  | none =>
    refine iff_of_true ?_ fun request h => nomatch h
    rw [handleSIP_no_request E timCurrent hrequest]
    exact returns_afterSwitch ev none svc
  | some request =>
    rw [handleSIP_request E timCurrent hrequest, Proc.returns_emit_bind, Proc.returns_bind]
    simp only [Option.some.injEq, forall_eq']
    rw [← returns_handleRequest E timCurrent svc ev (hhost request hrequest)]
    exact exists_congr fun nRet => and_iff_left (returns_afterSwitch ev nRet _)

/-! ## A query of an upper domain -/

/-- An XML library that knows one document. -/
def catalogXml : XmlEnv where
  xmlParse _ := {
    error := false
    rootElement := some (.mk (str "Query") none [
      .mk (str "CmdType") (some (str "Catalog")) [],
      .mk (str "SN") (some (str "17430")) [],
      .mk (str "DeviceID") (some (str "32010000001320000001")) []]) }
  findstr s t := (breakOn (t.map toLower) (s.map toLower)).isSome

def catalogEnv : ServiceEnv where
  toEnv := lengthEnv
  toXmlEnv := catalogXml
  buildsRequest _ _ _ := true
  buildsInfo _ := true
  buildsCallAnswer _ _ := true
  buildsRegister _ _ := true
  sdpAddress _ := []
  readsModifyPassword _ := false
  defaultPacket := ([], none, 0)
  freshDomain := domainAt "" ""

/-- A service in a work mode, with the relay between two domains. -/
def serviceInMode (mode : Int) : CSIPService where
  m_nAppWorkMode := mode
  m_RegManager := ⟨∅, emptyObject, []⟩
  relay := nanjingRelay.mgr
  m_RemoteDomains := ∅
  upperDomain := nanjingRelay.upperDomain
  M_SeqIDToCallID := ∅
  M_UniqueIDToCallID := ∅
  m_callIdSenderMap := ∅

/-- A MESSAGE of the upper domain, with an XML body. -/
def catalogRequest : OsipMessage where
  sip_method := str "MESSAGE"
  req_uri := some ⟨some (str "32010000001320000001"), some (str "10.1.0.1"), some (str "5060")⟩
  from_ := some (some ⟨some (str "11010500002000000002"), some (str "10.1.0.2"), none⟩)
  to_ := some (some ⟨some (str "32010000001320000001"), some (str "10.1.0.1"), none⟩)
  cseq := str "20"
  call_id := str "1001"
  contacts := []
  headers := []
  authorizations := []
  bodies := [str "<Query/>"]

def catalogEvent (response : Option Int) : EXosipEvent where
  type := .messageNew
  request := some catalogRequest
  response := response
  ack := none
  tid := 7
  did := 0
  rid := 0
  cid := 0

theorem hasHost_catalogEvent (response : Option Int) :
    ∀ request, (catalogEvent response).request = some request → HasHost request := by
  intro request hrequest url hurl _
  cases hrequest
  cases hurl
  exact Option.some_ne_none _

/-- With a response to read the query is handed on. -/
theorem answeredQuery_safe :
    EventSafe catalogEnv (serviceInMode 0) (catalogEvent (some 200)) := by
  have hreturns : (handleSIP catalogEnv 0 (some (catalogEvent (some 200)))).Returns
      (serviceInMode 0) := ⟨.value 0, by decide⟩
  exact (handleSIP_returns_iff catalogEnv 0 (serviceInMode 0) (catalogEvent (some 200))
    (hasHost_catalogEvent (some 200))).mp hreturns

/-- A query with all parts a request can have ends the service in gateway mode: the response of
the event is read, and there is none. -/
theorem query_not_survived :
    ¬ (handleSIP catalogEnv 0 (some (catalogEvent none))).Returns (serviceInMode 0) := by
  have hval : (handleSIP catalogEnv 0 (some (catalogEvent none)) (serviceInMode 0)).val =
      .error .nullPointer := by decide
  rintro ⟨nRet, h⟩
  rw [hval] at h
  cases h

end GB28181.SipCom
