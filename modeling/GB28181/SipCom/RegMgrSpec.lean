import GB28181.SipCom.RegMgr

/-!
# What the handlers of the registration manager do

One outcome lemma for each handler; the later modules use these and unfold no handler.

* `onRegister_refused`, `onRegister_fault`, `onRegister_unknown`, `onRegister_stored` — the four
  ways of a REGISTER request: refused by the header check, ended by a fault in it, from a device
  without a record, from a stored device (`dispatch`);
* `onKeepAlive_unknown`, `onKeepAlive_stored`;
* `onModifyPassword_unknown`, `onModifyPassword_stored` (`changePassword`);
* `serve_lookup_of_ne` — **frame**: a request touches no record but that of its own device.
-/

set_option autoImplicit false

namespace GB28181.SipCom

open GB28181.Base GB28181.GBUtils

variable (E : Env)

/-! ## Records -/

/-- The record the lookup of the handlers finds: one with a device ID. -/
def SipRegMgr.stored (mgr : SipRegMgr) (id : CStr) : Option SipRegisterObject :=
  (mgr.m_RegisterObjects.lookup id).filter fun o => !o.strDeviceID.isEmpty

/-- What the lookup of `id` leaves behind. -/
def SipRegMgr.touch (mgr : SipRegMgr) (id : CStr) : SipRegMgr :=
  { mgr with m_RegisterObjects := Map.touch mgr.m_RegisterObjects id E.fresh }

theorem SipRegMgr.stored_eq_some {mgr : SipRegMgr} {id : CStr} {r : SipRegisterObject} :
    mgr.stored id = some r ↔
      mgr.m_RegisterObjects.lookup id = some r ∧ r.strDeviceID.isEmpty = false := by
  simp [stored, Option.filter_eq_some_iff]

theorem SipRegMgr.touch_of_stored {mgr : SipRegMgr} {id : CStr} {r : SipRegisterObject}
    (h : mgr.stored id = some r) : mgr.touch E id = mgr := by
  have hmem : id ∈ mgr.m_RegisterObjects := Finmap.mem_iff.mpr ⟨r, (stored_eq_some.mp h).1⟩
  rw [touch, Map.touch_of_mem hmem]

theorem index_isEmpty_of_not_stored {mgr : SipRegMgr} {id : CStr} (h : mgr.stored id = none) :
    (Map.index mgr.m_RegisterObjects id E.fresh).strDeviceID.isEmpty = true := by
  cases hl : mgr.m_RegisterObjects.lookup id with
  | none => simp [Map.index, hl, E.fresh_id]
  | some r =>
    rw [Map.index_of_lookup hl]
    simpa [SipRegMgr.stored, hl, Option.filter] using h

theorem run_registerObject (mgr : SipRegMgr) (id : CStr) :
    registerObject E id mgr =
      ⟨[], mgr.touch E id, .ok (Map.index mgr.m_RegisterObjects id E.fresh)⟩ := rfl

theorem run_getRegisterObjectInfo_stored {mgr : SipRegMgr} {id : CStr} {r : SipRegisterObject}
    (h : mgr.stored id = some r) :
    getRegisterObjectInfo E id mgr = ⟨[], mgr, .ok (some id)⟩ := by
  obtain ⟨hl, hne⟩ := SipRegMgr.stored_eq_some.mp h
  rw [getRegisterObjectInfo, Proc.run_bind, run_registerObject]
  simp [SipRegMgr.touch_of_stored E h, Map.index_of_lookup hl, hne]

theorem run_getRegisterObjectInfo_unknown {mgr : SipRegMgr} {id : CStr}
    (h : mgr.stored id = none) :
    getRegisterObjectInfo E id mgr = ⟨[], mgr.touch E id, .ok none⟩ := by
  rw [getRegisterObjectInfo, Proc.run_bind, run_registerObject]
  simp [index_isEmpty_of_not_stored E h]

theorem run_readObject_stored {mgr : SipRegMgr} {id : CStr} {r : SipRegisterObject}
    (h : mgr.stored id = some r) : readObject E (some id) mgr = ⟨[], mgr, .ok r⟩ := by
  rw [readObject, run_registerObject, SipRegMgr.touch_of_stored E h,
    Map.index_of_lookup (SipRegMgr.stored_eq_some.mp h).1]

theorem run_getRegisteringStatus_stored {mgr : SipRegMgr} {o r : SipRegisterObject}
    (h : mgr.stored o.strDeviceID = some r) :
    getRegisteringStatus E o mgr = ⟨[], mgr, .ok (registeringStatus o r)⟩ := by
  simp [getRegisteringStatus, run_getRegisterObjectInfo_stored E h, run_readObject_stored E h]

theorem run_getRegisteringStatus_unknown {mgr : SipRegMgr} {o : SipRegisterObject}
    (h : mgr.stored o.strDeviceID = none) :
    getRegisteringStatus E o mgr = ⟨[], mgr.touch E o.strDeviceID, .ok .send403Forbidden⟩ := by
  simp [getRegisteringStatus, run_getRegisterObjectInfo_unknown E h]

/-! ## REGISTER -/

/-- The record the header check of a REGISTER request fills. -/
def regObject (ev : Event) : Except Fault (Option SipRegisterObject) :=
  match checkMsgHeader ev E.fresh true with
  | .ok (some o) => checkExpires ev o
  | r => r

theorem run_checkRegMsgHeader (ev : Event) (mgr : SipRegMgr) :
    checkRegMsgHeader ev E.fresh mgr =
      ⟨if checkMsgHeader ev E.fresh true = .ok none then [.answer ev.tid 403] else [], mgr,
        regObject E ev⟩ := by
  simp only [checkRegMsgHeader, regObject]
  cases checkMsgHeader ev E.fresh true with
  | error f => simp
  | ok o => cases o <;> simp [sendAnsweredByCode]

/-- What a REGISTER request of a stored device does, by the status its record and the request
lead to. -/
def dispatch (ev : Event) (o r : SipRegisterObject) (mgr : SipRegMgr) :
    List Effect × SipRegMgr :=
  match registeringStatus o r with
  | .send401Unauthorized => ([.regAnswer ev.tid 401 o.nExpires], mgr)
  | .sent401Unauthorized =>
    if ev.authorizations.head?.isSome then
      ([.regAnswer ev.tid 200 o.nExpires],
        { mgr.setObject E o.strDeviceID (fun r => { r with nStatus := .registerSuccess }) with
          m_CurPlatform := o })
    else
      ([.regAnswer ev.tid 401 o.nExpires, .regAnswer ev.tid 403 o.nExpires],
        mgr.setObject E o.strDeviceID fun r => { r with nStatus := .sendt403Forbidden })
  | .send403Forbidden => ([.regAnswer ev.tid 403 o.nExpires], mgr)
  | .registerSuccess | .registerDefault =>
    ([.regAnswer ev.tid 200 o.nExpires],
      { mgr.setObject E o.strDeviceID (fun r => { r with nStatus :=
          if o.nStatus = .registerExit then .registerExit else .registerSuccess }) with
        m_CurPlatform := o })
  | _ => ([], mgr)

theorem onRegister_fault {ev : Event} {f : Fault} (h : regObject E ev = .error f)
    (mgr : SipRegMgr) : onRegister E ev mgr = ⟨[], mgr, .error f⟩ := by
  have hc : checkMsgHeader ev E.fresh true ≠ .ok none := by
    intro hc; simp [regObject, hc] at h
  rw [onRegister, Proc.run_bind, run_checkRegMsgHeader, h, if_neg hc]

theorem onRegister_refused {ev : Event} (h : regObject E ev = .ok none) (mgr : SipRegMgr) :
    onRegister E ev mgr =
      ⟨(if checkMsgHeader ev E.fresh true = .ok none then [.answer ev.tid 403] else []) ++
        [.regAnswer ev.tid 403 E.fresh.nExpires], mgr, .ok (.value 0)⟩ := by
  rw [onRegister, Proc.run_bind, run_checkRegMsgHeader, h]
  simp [sendRegAnsweredByCode]

theorem onRegister_unknown {ev : Event} {o : SipRegisterObject} (h : regObject E ev = .ok (some o))
    {mgr : SipRegMgr} (hs : mgr.stored o.strDeviceID = none) :
    onRegister E ev mgr =
      ⟨[.regAnswer ev.tid 403 o.nExpires], mgr.touch E o.strDeviceID, .ok (.value 0)⟩ := by
  have hc : checkMsgHeader ev E.fresh true ≠ .ok none := by
    intro hc; simp [regObject, hc] at h
  rw [onRegister, Proc.run_bind, run_checkRegMsgHeader, h, if_neg hc]
  simp [run_getRegisteringStatus_unknown E hs, dealStatus_Send403, sendRegAnsweredByCode]

theorem onRegister_stored {ev : Event} {o : SipRegisterObject} (h : regObject E ev = .ok (some o))
    {mgr : SipRegMgr} {r : SipRegisterObject} (hs : mgr.stored o.strDeviceID = some r) :
    onRegister E ev mgr =
      ⟨(dispatch E ev o r mgr).1, (dispatch E ev o r mgr).2, .ok (.value 0)⟩ := by
  have hc : checkMsgHeader ev E.fresh true ≠ .ok none := by
    intro hc; simp [regObject, hc] at h
  rw [onRegister, Proc.run_bind, run_checkRegMsgHeader, h, if_neg hc]
  simp only [Proc.run_bind, run_getRegisteringStatus_stored E hs, dispatch]
  cases registeringStatus o r with
  | sent401Unauthorized =>
    cases ha : ev.authorizations.head? <;>
      simp [dealStatus_Sent401, checkRegAuthentication, ha, sendRegAnsweredByCode,
        SipRegMgr.setObject]
  | _ =>
    simp [dealStatus_Send401, dealStatus_Send403, dealStatus_DefaultRegister,
      sendRegAnsweredByCode, SipRegMgr.setObject]

/-- The check of the `expires` header only sets `nExpires` and, for 0, the status. -/
theorem checkExpires_eq_ok {ev : Event} {o o' : SipRegisterObject}
    (h : checkExpires ev o = .ok (some o')) :
    o'.strDeviceID = o.strDeviceID ∧
      o'.nStatus = if o'.nExpires = 0 then .registerExit else o.nStatus := by
  unfold checkExpires at h
  split at h
  · cases h
  · cases h
  · rename_i hvalue _
    unfold stoiE at h
    cases hn : stoi hvalue with
    | none => simp [hn, bind, Except.bind] at h
    | some n =>
      simp only [hn, bind, Except.bind, pure, Except.pure, Except.ok.injEq, Option.some.injEq] at h
      subst h
      split <;> simp_all

theorem checkMsgHeader_eq_ok {ev : Event} {o o' : SipRegisterObject} {with_contact : Bool}
    (h : checkMsgHeader ev o with_contact = .ok (some o')) :
    o'.nStatus = o.nStatus ∧ o'.strPassWord = o.strPassWord := by
  unfold checkMsgHeader checkMsgHeader_FromTo at h
  cases hf : ev.pFrom with
  | none => simp [hf] at h
  | some url =>
    rcases url with _ | ⟨_ | username, host, port⟩
    · simp [hf] at h
    · simp [hf] at h
    · cases with_contact with
      | false => simp [hf] at h; subst h; exact ⟨rfl, rfl⟩
      | true =>
        simp only [hf, Option.map_some, if_true] at h
        unfold checkMsgHeader_Contact at h
        split at h
        · rename_i port _
          cases hn : stoi port with
          | none => simp [stoiE, hn, bind, Except.bind] at h
          | some n =>
            simp only [stoiE, hn, bind, Except.bind, pure, Except.pure, Except.ok.injEq,
              Option.some.injEq] at h
            subst h
            exact ⟨rfl, rfl⟩
        · cases h

/-- An accepted REGISTER request means to unregister exactly when its `expires` is 0. -/
theorem regObject_exit_iff {ev : Event} {o : SipRegisterObject}
    (h : regObject E ev = .ok (some o)) : o.nStatus = .registerExit ↔ o.nExpires = 0 := by
  cases hc : checkMsgHeader ev E.fresh true with
  | error f => simp [regObject, hc] at h
  | ok o₁ =>
    cases o₁ with
    | none => simp [regObject, hc] at h
    | some o₁ =>
      have hx : checkExpires ev o₁ = .ok (some o) := by simpa [regObject, hc] using h
      rw [(checkExpires_eq_ok hx).2, (checkMsgHeader_eq_ok hc).1]
      split
      · simp [*]
      · simp [*, E.fresh_status]

/-- A REGISTER request with all the headers the checks ask for. -/
def registerEvent (id expires : CStr) (authorizations : List Authorization) : Event where
  tid := 1
  pFrom := some (some ⟨some id, none, none⟩)
  contacts := [some ⟨some id, some (str "10.0.0.1"), some (str "5060")⟩]
  headers := [⟨str "expires", some expires⟩]
  authorizations := authorizations

/-- The record such a request fills, for an `expires` other than 0. -/
def registerEventObject (id : CStr) (nExpires : Int) : SipRegisterObject :=
  { E.fresh with
    strDeviceID := id
    strIP := str "10.0.0.1"
    nPort := 5060
    nExpires := nExpires }

theorem regObject_registerEvent (id expires : CStr) (authorizations : List Authorization)
    {n : Int} (hn : stoi expires = some n) (h0 : n ≠ 0) :
    regObject E (registerEvent id expires authorizations) =
      .ok (some (registerEventObject E id n)) := by
  have hport : stoi (str "5060") = some 5060 := by decide
  have hc : checkMsgHeader (registerEvent id expires authorizations) E.fresh true =
      .ok (some { E.fresh with
        strDeviceID := id, strIP := str "10.0.0.1", nPort := 5060 }) := by
    simp [checkMsgHeader, checkMsgHeader_FromTo, checkMsgHeader_Contact, registerEvent, stoiE,
      hport, bind, Except.bind, pure, Except.pure]
  rw [regObject, hc]
  simp [checkExpires, registerEvent, stoiE, hn, h0, registerEventObject, bind, Except.bind, pure,
    Except.pure]

def emptyObject : SipRegisterObject where
  strDeviceID := []
  strIP := []
  nPort := 0
  nType := 0
  userName := []
  strPassWord := []
  nStatus := .notRegister
  nExpires := 0
  nNeedAuth := 0
  timLastRegister := 0
  timLastKeepAlive := 0
  nKeepaliveInterval := 0

/-- An environment for concrete runs: MD5 is replaced by the length of its input. -/
def lengthEnv : Env where
  md5 s := ⟨List.replicate 16 s.length.toUInt8, by simp⟩
  osipMd5 s := ⟨List.replicate 16 s.length.toUInt8, by simp⟩
  fresh := emptyObject
  fresh_id := rfl
  fresh_status := by decide

def oneObject (r : SipRegisterObject) : SipRegMgr where
  m_RegisterObjects := (∅ : Map CStr SipRegisterObject).insert r.strDeviceID r
  m_CurPlatform := emptyObject
  m_strConfigpath := []

/-! ## Keep-alive and password change -/

theorem onKeepAlive_refused {ev : Event} (h : checkMsgHeader ev E.fresh false = .ok none)
    (t : Int) (mgr : SipRegMgr) :
    onKeepAlive E t ev mgr = ⟨[.answer ev.tid 403], mgr, .ok .usermanagerInitError⟩ := by
  simp [onKeepAlive, h, sendAnsweredByCode]

theorem onKeepAlive_fault {ev : Event} {f : Fault}
    (h : checkMsgHeader ev E.fresh false = .error f) (t : Int) (mgr : SipRegMgr) :
    onKeepAlive E t ev mgr = ⟨[], mgr, .error f⟩ := by
  simp [onKeepAlive, h]

/-- A keep-alive of a device without a record reads the null record pointer. -/
theorem onKeepAlive_unknown {ev : Event} {o : SipRegisterObject}
    (h : checkMsgHeader ev E.fresh false = .ok (some o)) (t : Int) {mgr : SipRegMgr}
    (hs : mgr.stored o.strDeviceID = none) :
    onKeepAlive E t ev mgr = ⟨[], mgr.touch E o.strDeviceID, .error .nullRecord⟩ := by
  simp [onKeepAlive, h, run_getRegisterObjectInfo_unknown E hs, readObject]

theorem onKeepAlive_stored {ev : Event} {o : SipRegisterObject}
    (h : checkMsgHeader ev E.fresh false = .ok (some o)) (t : Int) {mgr : SipRegMgr}
    {r : SipRegisterObject} (hs : mgr.stored o.strDeviceID = some r) :
    onKeepAlive E t ev mgr =
      ⟨[.answer ev.tid 200],
        mgr.setObject E o.strDeviceID (fun r => { r with timLastKeepAlive := t }),
        .ok (.value 0)⟩ := by
  simp [onKeepAlive, h, run_getRegisterObjectInfo_stored E hs, run_readObject_stored E hs,
    sendAnsweredByCode]

theorem onModifyPassword_refused {ev : Event} (h : checkMsgHeader ev E.fresh true = .ok none)
    (info : SipObjectPasswd) (mgr : SipRegMgr) :
    onModifyPassword E ev info mgr = ⟨[], mgr, .ok .notfindContactError⟩ := by
  simp [onModifyPassword, h]

theorem onModifyPassword_fault {ev : Event} {f : Fault}
    (h : checkMsgHeader ev E.fresh true = .error f) (info : SipObjectPasswd) (mgr : SipRegMgr) :
    onModifyPassword E ev info mgr = ⟨[], mgr, .error f⟩ := by
  simp [onModifyPassword, h]

theorem onModifyPassword_unknown {ev : Event} {o : SipRegisterObject}
    (h : checkMsgHeader ev E.fresh true = .ok (some o)) (info : SipObjectPasswd)
    {mgr : SipRegMgr} (hs : mgr.stored o.strDeviceID = none) :
    onModifyPassword E ev info mgr = ⟨[], mgr.touch E o.strDeviceID, .ok (.value 0)⟩ := by
  simp [onModifyPassword, h, run_getRegisterObjectInfo_unknown E hs]

/-- The password a decoded `nonce` carries: the text behind its last colon. -/
def newPassWord (fromInfo : CStr) : CStr := (parseDataByDelimit 0x3a [] fromInfo).getLastD []

/-- What a password request does once its device `id` is found, checked against `strPassWord`. -/
def changePassword (id strPassWord : CStr) (info : SipObjectPasswd) (mgr : SipRegMgr) :
    Outcome SipRegMgr Effect Fault RetCode :=
  match decodeE info.nonce1 with
  | .error f => ⟨[], mgr, .error f⟩
  | .ok nonce1 =>
    if getMd5String E (info.nonce ++ str ":" ++ strPassWord) = nonce1 then
      match decodeE info.nonce with
      | .error f => ⟨[], mgr, .error f⟩
      | .ok fromInfo =>
        ⟨[.writeProfile (str "GATEWAY_INFO") (str "Password") (cStr (newPassWord fromInfo))
            mgr.m_strConfigpath],
          mgr.setObject E id (fun r => { r with strPassWord := newPassWord fromInfo }),
          (packModifyPasswordRet { info with result := str "OK" }).map fun _ => .value 1⟩
    else ⟨[], mgr, (packModifyPasswordRet { info with result := str "NGN" }).map fun _ => .value 0⟩

theorem run_modifyDomainPasswdById_stored {mgr : SipRegMgr} {id pw : CStr} {r : SipRegisterObject}
    (h : mgr.stored id = some r) :
    modifyDomainPasswdById E id pw mgr =
      ⟨[], mgr.setObject E id (fun r => { r with strPassWord := pw }), .ok true⟩ := by
  obtain ⟨hl, hne⟩ := SipRegMgr.stored_eq_some.mp h
  rw [modifyDomainPasswdById, Proc.run_bind, run_registerObject]
  simp [SipRegMgr.touch_of_stored E h, Map.index_of_lookup hl, hne]

theorem onModifyPassword_stored {ev : Event} {o : SipRegisterObject}
    (h : checkMsgHeader ev E.fresh true = .ok (some o)) (info : SipObjectPasswd)
    {mgr : SipRegMgr} {r : SipRegisterObject} (hs : mgr.stored o.strDeviceID = some r) :
    onModifyPassword E ev info mgr =
      changePassword E o.strDeviceID o.strPassWord info mgr := by
  rw [onModifyPassword, changePassword]
  simp only [Proc.run_bind, Proc.run_lift, h, run_getRegisterObjectInfo_stored E hs]
  generalize getMd5String E (info.nonce ++ str ":" ++ o.strPassWord) = md5Str
  cases h1 : decodeE info.nonce1 with
  | error f => simp
  | ok nonce1 =>
    by_cases hm : md5Str = nonce1
    · cases h2 : decodeE info.nonce with
      | error f => simp [hm]
      | ok fromInfo =>
        cases packModifyPasswordRet { info with result := str "OK" } <;>
          simp [hm, run_modifyDomainPasswdById_stored E hs, modifyPassword, newPassWord,
            SipRegMgr.setObject, Except.map]
    · cases packModifyPasswordRet { info with result := str "NGN" } <;> simp [hm, Except.map]

/-! ## Requests -/

/-- The record the header check of a request fills. -/
def Request.object : Request → Except Fault (Option SipRegisterObject)
  | .register ev => regObject E ev
  | .keepAlive _ ev => checkMsgHeader ev E.fresh false
  | .modifyPassword ev _ => checkMsgHeader ev E.fresh true

/-- The device ID a request is served under: what its header check reads, if that succeeds. -/
def Request.deviceId (req : Request) : Option CStr :=
  match req.object E with
  | .ok (some o) => some o.strDeviceID
  | _ => none

theorem Request.deviceId_eq_some {req : Request} {d : CStr} :
    req.deviceId E = some d ↔ ∃ o, req.object E = .ok (some o) ∧ o.strDeviceID = d := by
  unfold Request.deviceId
  split <;> simp_all

/-- The status a request leaves in the record `r` of its device. -/
def Request.nextStatus (r : SipRegisterObject) : Request → RegStatus
  | .register ev =>
    match regObject E ev with
    | .ok (some o) =>
      match registeringStatus o r with
      | .sent401Unauthorized =>
        if ev.authorizations.head?.isSome then .registerSuccess else .sendt403Forbidden
      | .registerSuccess | .registerDefault =>
        if o.nStatus = .registerExit then .registerExit else .registerSuccess
      | _ => r.nStatus
    | _ => r.nStatus
  | _ => r.nStatus

theorem handle_fault {req : Request} {f : Fault} (h : req.object E = .error f) (mgr : SipRegMgr) :
    handle E req mgr = ⟨[], mgr, .error f⟩ := by
  cases req with
  | register ev => exact onRegister_fault E h mgr
  | keepAlive t ev => exact onKeepAlive_fault E h t mgr
  | modifyPassword ev info => exact onModifyPassword_fault E h info mgr

/-- A request refused by the header check returns and leaves the manager as it is. -/
theorem handle_refused {req : Request} (h : req.object E = .ok none) (mgr : SipRegMgr) :
    (handle E req mgr).state = mgr ∧ ∃ c, (handle E req mgr).val = .ok c := by
  cases req with
  | register ev => rw [handle, onRegister_refused E h]; exact ⟨rfl, _, rfl⟩
  | keepAlive t ev => rw [handle, onKeepAlive_refused E h]; exact ⟨rfl, _, rfl⟩
  | modifyPassword ev info => rw [handle, onModifyPassword_refused E h]; exact ⟨rfl, _, rfl⟩

theorem Request.deviceId_eq_none {req : Request} :
    req.deviceId E = none ↔ req.object E = .ok none ∨ ∃ f, req.object E = .error f := by
  unfold Request.deviceId
  cases req.object E with
  | error f => simp
  | ok o => cases o <;> simp

/-- A request refused or ended by its header check leaves the manager as it is. -/
theorem serve_of_no_device {req : Request} (h : req.deviceId E = none) (mgr : SipRegMgr) :
    serve E mgr req = mgr := by
  rcases (Request.deviceId_eq_none E).mp h with ho | ⟨f, ho⟩
  · exact (handle_refused E ho mgr).1
  · rw [serve, handle_fault E ho]

theorem serve_unknown {req : Request} {d : CStr} (h : req.deviceId E = some d) {mgr : SipRegMgr}
    (hs : mgr.stored d = none) : serve E mgr req = mgr.touch E d := by
  obtain ⟨o, ho, rfl⟩ := (Request.deviceId_eq_some E).mp h
  cases req with
  | register ev => rw [serve, handle, onRegister_unknown E ho hs]
  | keepAlive t ev => rw [serve, handle, onKeepAlive_unknown E ho t hs]
  | modifyPassword ev info => rw [serve, handle, onModifyPassword_unknown E ho info hs]

/-- `r'` is the record `r` after some request: the same device, with the same rights. -/
structure SameDevice (r r' : SipRegisterObject) : Prop where
  strDeviceID : r'.strDeviceID = r.strDeviceID
  nNeedAuth : r'.nNeedAuth = r.nNeedAuth

/-- A request of a stored device changes its record only, and its status as `nextStatus` says. -/
theorem serve_stored {req : Request} {d : CStr} (h : req.deviceId E = some d) {mgr : SipRegMgr}
    {r : SipRegisterObject} (hs : mgr.stored d = some r) :
    ∃ r', (serve E mgr req).m_RegisterObjects = mgr.m_RegisterObjects.insert d r' ∧
      SameDevice r r' ∧ r'.nStatus = req.nextStatus E r := by
  obtain ⟨o, ho, rfl⟩ := (Request.deviceId_eq_some E).mp h
  have hl := (SipRegMgr.stored_eq_some.mp hs).1
  have keep : mgr.m_RegisterObjects = mgr.m_RegisterObjects.insert o.strDeviceID r :=
    (Map.insert_of_lookup hl).symm
  have set : ∀ f, (mgr.setObject E o.strDeviceID f).m_RegisterObjects =
      mgr.m_RegisterObjects.insert o.strDeviceID (f r) := fun f => by
    rw [SipRegMgr.setObject, Map.modify, Map.index_of_lookup hl]
  cases req with
  | register ev =>
    have ho' : regObject E ev = .ok (some o) := ho
    rw [serve, handle, onRegister_stored E ho hs]
    simp only [Request.nextStatus, ho', dispatch]
    cases registeringStatus o r with
    | sent401Unauthorized =>
      cases ev.authorizations.head? with
      | none => exact ⟨_, set _, ⟨rfl, rfl⟩, rfl⟩
      | some a => exact ⟨_, set fun r => { r with nStatus := .registerSuccess }, ⟨rfl, rfl⟩, rfl⟩
    | registerSuccess =>
      exact ⟨_, set fun r => { r with nStatus :=
        if o.nStatus = .registerExit then .registerExit else .registerSuccess }, ⟨rfl, rfl⟩, rfl⟩
    | registerDefault =>
      exact ⟨_, set fun r => { r with nStatus :=
        if o.nStatus = .registerExit then .registerExit else .registerSuccess }, ⟨rfl, rfl⟩, rfl⟩
    | _ => exact ⟨r, keep, ⟨rfl, rfl⟩, rfl⟩
  | keepAlive t ev =>
    rw [serve, handle, onKeepAlive_stored E ho t hs]
    exact ⟨_, set _, ⟨rfl, rfl⟩, rfl⟩
  | modifyPassword ev info =>
    rw [serve, handle, onModifyPassword_stored E ho info hs, changePassword]
    split
    · exact ⟨r, keep, ⟨rfl, rfl⟩, rfl⟩
    · split
      · split
        · exact ⟨r, keep, ⟨rfl, rfl⟩, rfl⟩
        · exact ⟨_, set _, ⟨rfl, rfl⟩, rfl⟩
      · exact ⟨r, keep, ⟨rfl, rfl⟩, rfl⟩

/-- **Frame.**  A request leaves the records of all other devices as they are. -/
theorem serve_lookup_of_ne {req : Request} {id : CStr} (h : req.deviceId E ≠ some id)
    (mgr : SipRegMgr) :
    (serve E mgr req).m_RegisterObjects.lookup id = mgr.m_RegisterObjects.lookup id := by
  cases hd : req.deviceId E with
  | none => rw [serve_of_no_device E hd]
  | some d =>
    have hne : id ≠ d := fun e => h (by rw [hd, e])
    cases hs : mgr.stored d with
    | none =>
      rw [serve_unknown E hd hs, SipRegMgr.touch, Map.lookup_touch, if_neg hne]
    | some r =>
      obtain ⟨r', ht, -, -⟩ := serve_stored E hd hs
      rw [ht, Map.lookup_insert_ite, if_neg hne]

theorem serve_stored_of_ne {req : Request} {id : CStr} (h : req.deviceId E ≠ some id)
    (mgr : SipRegMgr) : (serve E mgr req).stored id = mgr.stored id := by
  rw [SipRegMgr.stored, serve_lookup_of_ne E h, SipRegMgr.stored]

theorem serve_stored_record {mgr : SipRegMgr} {id : CStr} {r : SipRegisterObject}
    (hs : mgr.stored id = some r) (req : Request) :
    ∃ r', (serve E mgr req).stored id = some r' ∧ SameDevice r r' ∧
      r'.nStatus = if req.deviceId E = some id then req.nextStatus E r else r.nStatus := by
  by_cases hd : req.deviceId E = some id
  · obtain ⟨r', ht, hsame, hst⟩ := serve_stored E hd hs
    refine ⟨r', ?_, hsame, by rw [if_pos hd, hst]⟩
    rw [SipRegMgr.stored_eq_some, ht, Finmap.lookup_insert, hsame.strDeviceID]
    exact ⟨rfl, (SipRegMgr.stored_eq_some.mp hs).2⟩
  · exact ⟨r, by rw [serve_stored_of_ne E hd, hs], ⟨rfl, rfl⟩, by rw [if_neg hd]⟩

theorem serve_stored_none {mgr : SipRegMgr} {id : CStr} (hs : mgr.stored id = none)
    (req : Request) : (serve E mgr req).stored id = none := by
  by_cases hd : req.deviceId E = some id
  · rw [serve_unknown E hd hs, SipRegMgr.stored, SipRegMgr.touch, Map.lookup_touch, if_pos rfl]
    simp [Option.filter, index_isEmpty_of_not_stored E hs]
  · rw [serve_stored_of_ne E hd, hs]

end GB28181.SipCom
