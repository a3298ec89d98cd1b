import GB28181.Base.Replace
import GB28181.SipCom.SipDomain
import GB28181.SipCom.SipEvent

/-!
# Reading and making SIP messages (`SipServiceCom/SipMsgMaker.hpp`)

`SipMessage` has pointers into the parts of a request that `parser_message` found; `none` is a
null pointer.  `SipMessageMaker` translates the IDs of a request into those of another domain:
`init_from_to` the one in the request URI, `replace_id_inbody` those in the body.

* `getidFromSubject` — the sender ID of a call, from the Subject header;
* `finalTargetId_eq_ok_iff` — when `init_from_to` returns: an ID of another realm has a realm to
  replace;
* `deviceIdOf_replaceAll` — replacing an ID in a body replaces it in the DeviceID of the body.
-/

set_option autoImplicit false

namespace GB28181.SipCom

open GB28181.Base

/-- How the SIP service can end other than by returning. -/
inductive SipFault where
  /-- an absent part is read -/
  | nullPointer
  /-- a `std::string` is made of a null pointer -/
  | nullText
  /-- the exception of `substr` -/
  | outOfRange
  /-- a fault of the registration manager -/
  | regMgr (fault : Fault)
  deriving DecidableEq

/-- `std::string` of a `char*`. -/
def stdString : Option CStr → Except SipFault CStr
  | none => .error .nullText
  | some s => .ok s

def deref {α : Type} : Option α → Except SipFault α
  | none => .error .nullPointer
  | some a => .ok a

/-- `s.substr(pos)`. -/
def substr (s : CStr) (pos : Nat) : Except SipFault CStr :=
  if pos ≤ s.length then .ok (s.drop pos) else .error .outOfRange

/-- `Utils::replace`: all occurrences. -/
def Utils.replace (s a b : CStr) : CStr := replaceAll a b s

/-! ## Incoming messages -/

/-- `SipMessage`.  The first body is a part with its length, so `p_body` is null together with
`psz_body`. -/
structure SipMessage where
  psz_req_uri_id : Option CStr
  psz_cseq : CStr
  psz_from_id : Option CStr
  psz_to_id : Option CStr
  psz_call_id : CStr
  psz_subject : Option CStr
  psz_expires : Option CStr
  psz_body : Option CStr
  deriving DecidableEq

/-- `SipMessage::parser_message`. -/
def parserMessage (p_osip_msg : OsipMessage) : SipMessage where
  psz_req_uri_id := p_osip_msg.req_uri.bind (·.username)
  psz_cseq := p_osip_msg.cseq
  psz_from_id := p_osip_msg.from_.join.bind (·.username)
  psz_to_id := p_osip_msg.to_.join.bind (·.username)
  psz_call_id := p_osip_msg.call_id
  psz_subject := (p_osip_msg.headerGetByname (str "subject")).bind (·.hvalue)
  psz_expires := (p_osip_msg.headerGetByname (str "Expires")).bind (·.hvalue)
  psz_body := p_osip_msg.bodies.head?

/-- `getid_from_subject`: the text before the first colon. -/
def SipMessage.getidFromSubject (msg : SipMessage) : Except SipFault CStr := do
  let str_subject ← stdString msg.psz_subject
  return str_subject.takeWhile (· ≠ 0x3a)

/-! ## Outgoing messages -/

def CSipDomain.getRealm (d : CSipDomain) : CStr := d.strDeviceID.take 8

/-- The part of `SipRegMgr` the relay reads: the current platform with the From text it made
before, empty at first, and the routing table. -/
structure RelayRegMgr where
  m_oCurrentPLTForm : CSipDomain
  m_strSipFrom : CStr
  m_RelayRoutingTable : Map CStr CSipDomain

namespace RelayRegMgr

def getID (mgr : RelayRegMgr) : CStr := mgr.m_oCurrentPLTForm.strDeviceID

def getSIPFrom (mgr : RelayRegMgr) : CStr :=
  if mgr.m_strSipFrom ≠ [] then mgr.m_strSipFrom
  else str "sip:" ++ mgr.m_oCurrentPLTForm.strDeviceID ++ str "@" ++ mgr.m_oCurrentPLTForm.strIP ++
    str ":" ++ str (toString mgr.m_oCurrentPLTForm.nPort)

def getSIPTo (target_id str_ip : CStr) (n_port : Int) : CStr :=
  str "sip:" ++ target_id ++ str "@" ++ str_ip ++ str ":" ++ str (toString n_port)

end RelayRegMgr

/-- `SipMessageMaker`, with the members that carry texts. -/
structure SipMessageMaker where
  m_str_sip_to : CStr
  m_str_sip_from : CStr
  m_str_reuest_target_id : CStr
  m_str_final_target_id : CStr
  m_str_message_body : CStr
  m_ptarget_domain : CSipDomain

/-- The choice of `m_str_final_target_id`. -/
def finalTargetId (mgr : RelayRegMgr) (p_to_deviceid : CStr) (targetDomain : CSipDomain) :
    Except SipFault CStr :=
  if p_to_deviceid = mgr.getID then .ok targetDomain.strDeviceID
  else if p_to_deviceid.take 8 ≠ targetDomain.getRealm then do
    return targetDomain.getRealm ++ (← substr p_to_deviceid 8)
  else .ok p_to_deviceid

namespace SipMessageMaker

def initFromTo (mgr : RelayRegMgr) (p_to_deviceid : CStr) (targetDomain : CSipDomain) :
    Except SipFault SipMessageMaker := do
  let m_str_final_target_id ← finalTargetId mgr p_to_deviceid targetDomain
  return {
    m_str_sip_to :=
      RelayRegMgr.getSIPTo m_str_final_target_id targetDomain.strIP targetDomain.nPort
    m_str_sip_from := mgr.getSIPFrom
    m_str_reuest_target_id := p_to_deviceid
    m_str_final_target_id := m_str_final_target_id
    m_str_message_body := []
    m_ptarget_domain := targetDomain }

def replaceIdInbody (mgr : RelayRegMgr) (psz_body : Option CStr) (maker : SipMessageMaker) :
    Except SipFault SipMessageMaker := do
  let body ← stdString psz_body
  let m_str_message_body := Utils.replace body mgr.getID maker.m_ptarget_domain.strDeviceID
  return { maker with
    m_str_message_body :=
      Utils.replace m_str_message_body maker.m_str_reuest_target_id maker.m_str_final_target_id }

/-- The body `set_message_body` puts into a message, if it puts one. -/
def setMessageBody (maker : SipMessageMaker) (psz_body : Option CStr) : Option CStr :=
  if maker.m_str_message_body ≠ [] then some maker.m_str_message_body else psz_body

end SipMessageMaker

/-- When there is an ID to write: the own ID, one of the target realm, or one with a realm. -/
theorem finalTargetId_eq_ok_iff (mgr : RelayRegMgr) (id : CStr) (targetDomain : CSipDomain) :
    (∃ final, finalTargetId mgr id targetDomain = .ok final) ↔
      id = mgr.getID ∨ id.take 8 = targetDomain.getRealm ∨ 8 ≤ id.length := by
  unfold finalTargetId
  by_cases hown : id = mgr.getID
  · simp [hown]
  · rw [if_neg hown]
    by_cases hrealm : id.take 8 = targetDomain.getRealm
    · simp [hrealm]
    · rw [if_pos hrealm]
      unfold substr
      by_cases hlen : 8 ≤ id.length
      · rw [if_pos hlen]
        exact ⟨fun _ => Or.inr (Or.inr hlen), fun _ => ⟨_, rfl⟩⟩
      · rw [if_neg hlen]
        constructor
        · rintro ⟨final, h⟩
          cases h
        · rintro (h | h | h)
          · exact absurd h hown
          · exact absurd h hrealm
          · exact absurd h hlen

/-! ## IDs and the DeviceID of a body -/

/-- A device ID: `ID_LEN` characters of a SIP user name, none of them a bracket of a tag. -/
structure IsDeviceID (id : CStr) : Prop where
  length_eq : id.length = 20
  no_lt : 0x3c ∉ id
  no_gt : 0x3e ∉ id

theorem IsDeviceID.ne_nil {id : CStr} (h : IsDeviceID id) : id ≠ [] := by
  rintro rfl
  exact absurd h.length_eq (by decide)

/-- The opening tag neither overlaps an ID nor comes about by writing one. -/
theorem IsDeviceID.foreign_tag {id : CStr} (h : IsDeviceID id) :
    Foreign (str "<DeviceID>") id where
  ne_nil := by decide
  length_le := by
    rw [h.length_eq]
    decide
  head c hc := by
    have hlt : c = 0x3c := (Option.some.inj hc).symm
    rw [hlt]
    exact h.no_lt
  last c hc := by
    have hgt : c = 0x3e := (Option.some.inj hc).symm
    rw [hgt]
    exact h.no_gt

theorem IsDeviceID.foreign_lt {id : CStr} (h : IsDeviceID id) : Foreign (str "<") id where
  ne_nil := by decide
  length_le := by
    rw [h.length_eq]
    decide
  head c hc := by
    have hlt : c = 0x3c := (Option.some.inj hc).symm
    rw [hlt]
    exact h.no_lt
  last c hc := by
    have hlt : c = 0x3c := (Option.some.inj hc).symm
    rw [hlt]
    exact h.no_lt

theorem IsDeviceID.replaceAll_eq {a s : CStr} (ha : IsDeviceID a) (hs : IsDeviceID s) (b : CStr) :
    replaceAll a b s = if s = a then b else s :=
  replaceAll_same_length ha.ne_nil (by rw [hs.length_eq, ha.length_eq])

/-- The text of the first DeviceID element of a body. -/
def deviceIdOf (body : CStr) : Option CStr := do
  let (_, rest) ← breakOn (str "<DeviceID>") body
  let (id, _) ← breakOn (str "<") rest
  return id

/-- **Replacing in a body.** -/
theorem deviceIdOf_replaceAll {a b : CStr} (ha : IsDeviceID a) (hb : IsDeviceID b) (body : CStr) :
    deviceIdOf (replaceAll a b body) = (deviceIdOf body).map (replaceAll a b) := by
  unfold deviceIdOf
  rw [breakOn_replaceAll ha.foreign_tag hb.foreign_tag]
  cases hopen : breakOn (str "<DeviceID>") body with
  | none => rfl
  | some p =>
    simp only [Option.map_some, Option.bind_eq_bind, Option.bind_some]
    rw [breakOn_replaceAll ha.foreign_lt hb.foreign_lt]
    cases hclose : breakOn (str "<") p.2 with
    | none => rfl
    | some q => rfl

end GB28181.SipCom
