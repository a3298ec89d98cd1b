import GB28181.Base.Run
import GB28181.SipCom.RegMgrSpec

/-!
# Digest authentication of REGISTER requests

What the digest check of `OnRegister` is worth.

* `onRegister_withResponse` — the outcome of a request does not depend on the `response` it
  carries;
* `registerAuthentic_iff` — the digest guards the registration exactly when it is never looked
  at;
* `notRegister_stays` — **no run of requests moves a device with `nNeedAuth` out of
  `STATUS_NOT_REGISTER`**: the 401 answer is not recorded in the table;
* `handshake_never_completes` — so the second request of the 401 handshake is answered 401 like
  the first.
-/

set_option autoImplicit false

namespace GB28181.SipCom

open GB28181.Base

variable (E : Env)

def Effect.code : Effect → Option Int
  | .regAnswer _ nCode _ => some nCode
  | .answer _ nCode => some nCode
  | .writeProfile .. => none

def answerCodes (out : List Effect) : List Int := out.filterMap Effect.code

/-- The request with another `response` value in its Authorization header. -/
def Event.withResponse (ev : Event) (response : CStr) : Event :=
  { ev with authorizations := ev.authorizations.modifyHead (·.withResponse response) }

theorem checkMsgHeader_withResponse (ev : Event) (response : CStr) (o : SipRegisterObject)
    (with_contact : Bool) :
    checkMsgHeader (ev.withResponse response) o with_contact = checkMsgHeader ev o with_contact :=
  rfl

theorem regObject_withResponse (ev : Event) (response : CStr) :
    regObject E (ev.withResponse response) = regObject E ev := rfl

theorem head_withResponse_isSome (ev : Event) (response : CStr) :
    (ev.withResponse response).authorizations.head?.isSome = ev.authorizations.head?.isSome := by
  cases h : ev.authorizations <;> simp [Event.withResponse, h]

/-- **The `response` value is never read.** -/
theorem onRegister_withResponse (ev : Event) (response : CStr) (mgr : SipRegMgr) :
    onRegister E (ev.withResponse response) mgr = onRegister E ev mgr := by
  have hr := regObject_withResponse E ev response
  cases ho : regObject E ev with
  | error f => rw [onRegister_fault E ho, onRegister_fault E (hr.trans ho)]
  | ok o =>
    cases o with
    | none =>
      rw [onRegister_refused E ho, onRegister_refused E (hr.trans ho),
        checkMsgHeader_withResponse]
      rfl
    | some o =>
      cases hs : mgr.stored o.strDeviceID with
      | none =>
        rw [onRegister_unknown E ho hs, onRegister_unknown E (hr.trans ho) hs]
        rfl
      | some r =>
        rw [onRegister_stored E ho hs, onRegister_stored E (hr.trans ho) hs]
        simp only [dispatch, head_withResponse_isSome]
        rfl

/-! ## The guard -/

/-- The digest guards the request `ev` of a stored device with `nNeedAuth`: from
`STATUS_SENT_401_UNAUTHORIZED` it is accepted only with the digest of the stored password as
`response`, and a right and a wrong `response` are not answered alike. -/
def RegisterAuthentic (mgr : SipRegMgr) (ev : Event) : Prop :=
  ∀ o r, regObject E ev = .ok (some o) → mgr.stored o.strDeviceID = some r → r.nNeedAuth ≠ 0 →
    r.nStatus = .sent401Unauthorized →
    (200 ∈ answerCodes (onRegister E ev mgr).out →
      (∃ r', (onRegister E ev mgr).state.stored o.strDeviceID = some r' ∧
        r'.nStatus = .registerSuccess) →
      ∃ a, ev.authorizations.head? = some a ∧
        getAuthorizationResponse a = authorizationDigest E.md5 a r.strPassWord) ∧
    (∀ a, ev.authorizations.head? = some a → ∀ right wrong,
      getAuthorizationResponse (a.withResponse right) =
        authorizationDigest E.md5 a r.strPassWord →
      getAuthorizationResponse (a.withResponse wrong) ≠
        authorizationDigest E.md5 a r.strPassWord →
      answerCodes (onRegister E (ev.withResponse right) mgr).out ≠
        answerCodes (onRegister E (ev.withResponse wrong) mgr).out)

/-- **The digest is checked only where there is nothing to check.**  The guard holds exactly for
the requests that do not reach the comparison: those of devices in another status, and those
without an Authorization header. -/
theorem registerAuthentic_iff (mgr : SipRegMgr) (ev : Event) :
    RegisterAuthentic E mgr ev ↔
      ∀ o r, regObject E ev = .ok (some o) → mgr.stored o.strDeviceID = some r →
        r.nNeedAuth ≠ 0 → r.nStatus = .sent401Unauthorized → ev.authorizations = [] := by
  constructor
  · intro h o r ho hs hn hst
    by_contra hne
    obtain ⟨a, as, ha⟩ := List.exists_cons_of_ne_nil hne
    have hhead : ev.authorizations.head? = some a := by rw [ha]; rfl
    obtain ⟨wrong, hw⟩ := exists_wrong_response (authorizationDigest E.md5 a r.strPassWord)
    refine (h o r ho hs hn hst).2 a hhead (authorizationDigest E.md5 a r.strPassWord) wrong ?_ hw ?_
    · rw [getAuthorizationResponse_withResponse, unquote_digest]
    · rw [onRegister_withResponse, onRegister_withResponse]
  · intro h o r ho hs hn hst
    have hnil := h o r ho hs hn hst
    constructor
    · intro h200 _
      have hd : registeringStatus o r = .sent401Unauthorized := by
        simp [registeringStatus, hst]
      rw [onRegister_stored E ho hs] at h200
      simp [dispatch, hd, hnil, answerCodes, Effect.code] at h200
    · intro a ha
      rw [hnil] at ha
      cases ha

def challengedObject : SipRegisterObject :=
  { emptyObject with
    strDeviceID := str "34020000001320000001"
    strPassWord := str "12345678"
    nStatus := .sent401Unauthorized
    nNeedAuth := 1 }

/-- Credentials with a given `response`. -/
def credentials (response : CStr) : Authorization where
  username := some (str "34020000001320000001")
  realm := some (str "34020000")
  nonce := some (str "9bd055")
  uri := some (str "sip:34020000002000000001@3402000000")
  response := some response
  cnonce := none
  message_qop := none

/-- The `response` `wrong` registers the device. -/
theorem wrong_response_accepted :
    ¬ RegisterAuthentic lengthEnv (oneObject challengedObject)
      (registerEvent challengedObject.strDeviceID (str "3600") [credentials (str "wrong")]) := by
  intro h
  have hobj := regObject_registerEvent lengthEnv challengedObject.strDeviceID (str "3600")
    [credentials (str "wrong")] (n := 3600) (by decide) (by decide)
  obtain ⟨a, ha, hresp⟩ := (h _ challengedObject hobj (by decide) (by decide) rfl).1
    (by decide) ⟨{ challengedObject with nStatus := .registerSuccess }, by decide, rfl⟩
  obtain rfl := Option.some.inj ha
  revert hresp
  decide

/-! ## The handshake -/

/-- The record of `id` asks for authentication and says that the device is not registered. -/
def AwaitsAuth (id : CStr) (mgr : SipRegMgr) : Prop :=
  ∃ r, mgr.stored id = some r ∧ r.nNeedAuth ≠ 0 ∧ r.nStatus = .notRegister

theorem registeringStatus_notRegister {o r : SipRegisterObject} (hn : r.nNeedAuth ≠ 0)
    (hst : r.nStatus = .notRegister) :
    registeringStatus o r =
      if o.nStatus = .registerExit then .send403Forbidden else .send401Unauthorized := by
  simp [registeringStatus, hst, hn]

theorem serve_awaitsAuth (id : CStr) (mgr : SipRegMgr) (req : Request)
    (h : AwaitsAuth id mgr) : AwaitsAuth id (serve E mgr req) := by
  obtain ⟨r, hs, hn, hst⟩ := h
  obtain ⟨r', hs', hsame, hst'⟩ := serve_stored_record E hs req
  refine ⟨r', hs', by rwa [hsame.nNeedAuth], ?_⟩
  have hnext : req.nextStatus E r = .notRegister := by
    cases req with
    | register ev =>
      simp only [Request.nextStatus]
      split
      · rename_i o _
        rw [registeringStatus_notRegister hn hst]
        by_cases hx : o.nStatus = .registerExit <;> simp [hx, hst]
      · exact hst
    | keepAlive t ev => exact hst
    | modifyPassword ev info => exact hst
  rw [hst', hnext, hst, ite_self]

/-- **A device with `nNeedAuth` never leaves `STATUS_NOT_REGISTER`**, whatever it and the other
devices send. -/
theorem notRegister_stays {id : CStr} {mgr : SipRegMgr} (h : AwaitsAuth id mgr)
    (reqs : List Request) : AwaitsAuth id (run (serve E) mgr reqs) :=
  run_induct (fun s req => serve_awaitsAuth E id s req) h reqs

theorem onRegister_awaitsAuth {ev : Event} {o : SipRegisterObject}
    (ho : regObject E ev = .ok (some o)) (hexp : 0 < o.nExpires) {mgr : SipRegMgr}
    (h : AwaitsAuth o.strDeviceID mgr) : answerCodes (onRegister E ev mgr).out = [401] := by
  obtain ⟨r, hs, hn, hst⟩ := h
  have hx : o.nStatus ≠ .registerExit := fun e => by
    have := (regObject_exit_iff E ho).mp e
    omega
  rw [onRegister_stored E ho hs, dispatch, registeringStatus_notRegister hn hst, if_neg hx]
  rfl

/-- A 401 handshake of the device `id`: a REGISTER without credentials, requests of other
devices, a REGISTER with the digest of the stored password. -/
structure Handshake (mgr : SipRegMgr) (id : CStr) (ev₁ : Event) (between : List Request)
    (ev₂ : Event) : Prop where
  awaits : AwaitsAuth id mgr
  first : ∃ o, regObject E ev₁ = .ok (some o) ∧ o.strDeviceID = id ∧ 0 < o.nExpires
  first_bare : ev₁.authorizations = []
  others : ∀ req ∈ between, req.deviceId E ≠ some id
  second : ∃ o, regObject E ev₂ = .ok (some o) ∧ o.strDeviceID = id ∧ 0 < o.nExpires
  second_digest : ∃ a r, ev₂.authorizations.head? = some a ∧ mgr.stored id = some r ∧
    getAuthorizationResponse a = authorizationDigest E.md5 a r.strPassWord

/-- The handshake does what it is for: 401, then 200, and the device is registered. -/
def HandshakeCompletes (mgr : SipRegMgr) (id : CStr) (ev₁ : Event) (between : List Request)
    (ev₂ : Event) : Prop :=
  let mgr₁ := serve E mgr (.register ev₁)
  let mgr₂ := run (serve E) mgr₁ between
  answerCodes (onRegister E ev₁ mgr).out = [401] ∧
    answerCodes (onRegister E ev₂ mgr₂).out = [200] ∧
    ∃ r, (onRegister E ev₂ mgr₂).state.stored id = some r ∧ r.nStatus = .registerSuccess

/-- **No handshake completes**: its second request meets the table the first one met. -/
theorem handshake_never_completes {mgr : SipRegMgr} {id : CStr} {ev₁ ev₂ : Event}
    {between : List Request} (h : Handshake E mgr id ev₁ between ev₂) :
    ¬ HandshakeCompletes E mgr id ev₁ between ev₂ := by
  rintro ⟨-, h200, -⟩
  obtain ⟨o, ho, rfl, hexp⟩ := h.second
  have hawaits := notRegister_stays E (serve_awaitsAuth E _ mgr (.register ev₁) h.awaits) between
  rw [onRegister_awaitsAuth E ho hexp hawaits] at h200
  cases h200

/-- A device that has to authenticate itself. -/
def unregisteredObject : SipRegisterObject := { challengedObject with nStatus := .notRegister }

/-- The digest of its password, sent with `credentials`. -/
def rightResponse : CStr :=
  authorizationDigest lengthEnv.md5 (credentials []) unregisteredObject.strPassWord

theorem sample_handshake :
    Handshake lengthEnv (oneObject unregisteredObject) unregisteredObject.strDeviceID
      (registerEvent unregisteredObject.strDeviceID (str "3600") []) []
      (registerEvent unregisteredObject.strDeviceID (str "3600") [credentials rightResponse]) where
  awaits := ⟨unregisteredObject, by decide, by decide, rfl⟩
  first := ⟨_, regObject_registerEvent lengthEnv _ (str "3600") [] (n := 3600) (by decide)
    (by decide), rfl, by decide⟩
  first_bare := rfl
  others := by simp
  second := ⟨_, regObject_registerEvent lengthEnv _ (str "3600") [credentials rightResponse]
    (n := 3600) (by decide) (by decide), rfl, by decide⟩
  second_digest := ⟨credentials rightResponse, unregisteredObject, rfl, by decide, by decide⟩

theorem sample_handshake_fails :
    ¬ HandshakeCompletes lengthEnv (oneObject unregisteredObject) unregisteredObject.strDeviceID
      (registerEvent unregisteredObject.strDeviceID (str "3600") []) []
      (registerEvent unregisteredObject.strDeviceID (str "3600") [credentials rightResponse]) :=
  handshake_never_completes lengthEnv sample_handshake

/-- The right digest is answered 401. -/
theorem right_response_refused :
    ¬ (∀ mgr id ev₁ between ev₂, Handshake lengthEnv mgr id ev₁ between ev₂ →
      HandshakeCompletes lengthEnv mgr id ev₁ between ev₂) := by
  intro h
  have h200 := (h _ _ _ _ _ sample_handshake).2.1
  revert h200
  decide

end GB28181.SipCom
