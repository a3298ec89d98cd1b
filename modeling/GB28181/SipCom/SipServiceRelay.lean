import GB28181.SipCom.SipMsgMaker

/-!
# Relaying between two domains (`SipRoute/SipServiceRelay.cpp`)

The relay looks up the domain its sender is routed to, writes the IDs of that domain into the
request and sends it there.

* `relayMaker_query`, `relayMaker_answer` — the DeviceID of a query on its way down and of the
  answer on its way up;
* `relay_transparent_iff` — **the realm is not restored on the way up**: the answer to a query
  brings the ID asked for back exactly when that ID is in the realm of the lower domain (and is
  not the ID of the relay itself), apart from one coincidence.
-/

set_option autoImplicit false

namespace GB28181.SipCom

open GB28181.Base

namespace RelayRegMgr

/-- `m_RelayRoutingTable.emplace`. -/
def emplaceRoute (mgr : RelayRegMgr) (id : CStr) (domain : CSipDomain) : RelayRegMgr :=
  if id ∈ mgr.m_RelayRoutingTable then mgr
  else { mgr with m_RelayRoutingTable := mgr.m_RelayRoutingTable.insert id domain }

/-- `AddRelayRouting`, whose second table no relay function reads. -/
def addRelayRouting (mgr : RelayRegMgr) (domianNode1 domianNode2 : CSipDomain) : RelayRegMgr :=
  (mgr.emplaceRoute domianNode1.strDeviceID domianNode2).emplaceRoute domianNode2.strDeviceID
    domianNode1

def getDstDomianBy (mgr : RelayRegMgr) (p_str_from_id : Option CStr) :
    Except SipFault (Option CSipDomain) := do
  let id ← stdString p_str_from_id
  return mgr.m_RelayRoutingTable.lookup id

end RelayRegMgr

/-- What the nine relay functions begin with: `none` when the sender has no route, else the
translated IDs and body. -/
def relayMaker (mgr : RelayRegMgr) (in_msg : SipMessage) :
    Except SipFault (Option SipMessageMaker) := do
  match ← mgr.getDstDomianBy in_msg.psz_from_id with
  | none => return none
  | some targetDomain =>
    let maker ← SipMessageMaker.initFromTo mgr (← stdString in_msg.psz_req_uri_id) targetDomain
    return some (← maker.replaceIdInbody mgr in_msg.psz_body)

/-! ## A relay between an upper and a lower domain -/

/-- A relay configuration, as `InitgGlobalConfigInfo` reads it. -/
structure RelayConfig where
  currentDomain : CSipDomain
  upperDomain : CSipDomain
  lowerDomain : CSipDomain
  own_isDeviceID : IsDeviceID currentDomain.strDeviceID
  upper_isDeviceID : IsDeviceID upperDomain.strDeviceID
  lower_isDeviceID : IsDeviceID lowerDomain.strDeviceID
  upper_ne_lower : upperDomain.strDeviceID ≠ lowerDomain.strDeviceID

namespace RelayConfig

def ownID (cfg : RelayConfig) : CStr := cfg.currentDomain.strDeviceID

def upperID (cfg : RelayConfig) : CStr := cfg.upperDomain.strDeviceID

def lowerID (cfg : RelayConfig) : CStr := cfg.lowerDomain.strDeviceID

/-- The manager after `InitgGlobalConfigInfo`. -/
def mgr (cfg : RelayConfig) : RelayRegMgr :=
  RelayRegMgr.addRelayRouting ⟨cfg.currentDomain, [], ∅⟩ cfg.lowerDomain cfg.upperDomain

end RelayConfig

/-- A message from a domain to an ID, about a device. -/
structure IsMessage (msg : SipMessage) (fromID toID deviceID : CStr) : Prop where
  from_id : msg.psz_from_id = some fromID
  req_uri_id : msg.psz_req_uri_id = some toID
  body : ∃ body, msg.psz_body = some body ∧ deviceIdOf body = some deviceID

/-- Every query of the upper domain for the device is relayed, and every answer to the relay
with the DeviceID that arrived in the lower domain is relayed as one about the device. -/
def Transparent (cfg : RelayConfig) (deviceID : CStr) : Prop :=
  ∀ query, IsMessage query cfg.upperID deviceID deviceID →
    ∃ down receivedID, relayMaker cfg.mgr query = .ok (some down) ∧
      deviceIdOf down.m_str_message_body = some receivedID ∧
      ∀ answer, IsMessage answer cfg.lowerID cfg.ownID receivedID →
        ∃ up, relayMaker cfg.mgr answer = .ok (some up) ∧
          deviceIdOf up.m_str_message_body = some deviceID

section Relay

variable (cfg : RelayConfig)

@[simp] theorem RelayConfig.getID_mgr : cfg.mgr.getID = cfg.ownID := by
  unfold mgr RelayRegMgr.addRelayRouting RelayRegMgr.emplaceRoute RelayRegMgr.getID
  split <;> split <;> rfl

theorem RelayConfig.routingTable_mgr :
    cfg.mgr.m_RelayRoutingTable =
      ((∅ : Map CStr CSipDomain).insert cfg.lowerID cfg.upperDomain).insert cfg.upperID
        cfg.lowerDomain := by
  have hempty : cfg.lowerDomain.strDeviceID ∉ (∅ : Map CStr CSipDomain) := Finmap.notMem_empty
  have hone : cfg.upperDomain.strDeviceID ∉
      (∅ : Map CStr CSipDomain).insert cfg.lowerDomain.strDeviceID cfg.upperDomain := by
    rw [Finmap.mem_insert]
    rintro (h | h)
    · exact cfg.upper_ne_lower h
    · exact Finmap.notMem_empty h
  unfold mgr RelayRegMgr.addRelayRouting RelayRegMgr.emplaceRoute
  rw [if_neg hempty, if_neg hone]
  rfl

theorem RelayConfig.lookup_upper :
    cfg.mgr.m_RelayRoutingTable.lookup cfg.upperID = some cfg.lowerDomain := by
  rw [RelayConfig.routingTable_mgr, Finmap.lookup_insert]

theorem RelayConfig.lookup_lower :
    cfg.mgr.m_RelayRoutingTable.lookup cfg.lowerID = some cfg.upperDomain := by
  have hne : cfg.lowerID ≠ cfg.upperID := cfg.upper_ne_lower.symm
  rw [RelayConfig.routingTable_mgr, Map.lookup_insert_ite, if_neg hne, Finmap.lookup_insert]

/-- The ID that `init_from_to` makes of a device ID. -/
def targetID (ownID id domainID : CStr) : CStr :=
  if id = ownID then domainID else domainID.take 8 ++ id.drop 8

theorem finalTargetId_eq {mgr : RelayRegMgr} {id : CStr} {targetDomain : CSipDomain}
    (hid : IsDeviceID id) :
    finalTargetId mgr id targetDomain =
      .ok (targetID mgr.getID id targetDomain.strDeviceID) := by
  unfold finalTargetId targetID CSipDomain.getRealm
  by_cases hown : id = mgr.getID
  · rw [if_pos hown, if_pos hown]
  · rw [if_neg hown, if_neg hown]
    by_cases hrealm : id.take 8 = targetDomain.strDeviceID.take 8
    · rw [if_neg (not_not_intro hrealm), ← hrealm, List.take_append_drop]
    · have hlen : 8 ≤ id.length := by
        rw [hid.length_eq]
        decide
      rw [if_pos hrealm, substr, if_pos hlen]
      rfl

theorem IsDeviceID.targetID {own id domain : CStr} (hid : IsDeviceID id)
    (hdomain : IsDeviceID domain) : IsDeviceID (targetID own id domain) := by
  unfold SipCom.targetID
  split
  · exact hdomain
  · exact {
      length_eq := by
        rw [List.length_append, List.length_take, List.length_drop, hid.length_eq,
          hdomain.length_eq]
        rfl
      no_lt := fun h => by
        rcases List.mem_append.mp h with h | h
        · exact hdomain.no_lt (List.mem_of_mem_take h)
        · exact hid.no_lt (List.mem_of_mem_drop h)
      no_gt := fun h => by
        rcases List.mem_append.mp h with h | h
        · exact hdomain.no_gt (List.mem_of_mem_take h)
        · exact hid.no_gt (List.mem_of_mem_drop h) }

/-- The DeviceID that `replace_id_inbody` makes of one in a body. -/
def bodyID (ownID domainID requestID deviceID : CStr) : CStr :=
  let replaced := if deviceID = ownID then domainID else deviceID
  if replaced = requestID then targetID ownID requestID domainID else replaced

/-- **One relayed message.**  A message about a device, to an ID. -/
theorem relayMaker_eq {msg : SipMessage} {fromID toID deviceID : CStr} {domain : CSipDomain}
    (hmsg : IsMessage msg fromID toID deviceID)
    (hroute : cfg.mgr.m_RelayRoutingTable.lookup fromID = some domain)
    (hdomain : IsDeviceID domain.strDeviceID) (hto : IsDeviceID toID)
    (hdevice : IsDeviceID deviceID) :
    ∃ maker, relayMaker cfg.mgr msg = .ok (some maker) ∧
      deviceIdOf maker.m_str_message_body =
        some (bodyID cfg.ownID domain.strDeviceID toID deviceID) := by
  obtain ⟨hfrom, huri, body, hbody, hid⟩ := hmsg
  have hown : IsDeviceID cfg.ownID := cfg.own_isDeviceID
  unfold relayMaker RelayRegMgr.getDstDomianBy
  rw [hfrom, huri, hbody]
  simp only [stdString, SipMessageMaker.initFromTo, SipMessageMaker.replaceIdInbody, Utils.replace,
    finalTargetId_eq hto, RelayConfig.getID_mgr, bind, Except.bind, pure, Except.pure, hroute]
  refine ⟨_, rfl, ?_⟩
  rw [deviceIdOf_replaceAll hto (hto.targetID hdomain), deviceIdOf_replaceAll hown hdomain, hid,
    Option.map_some, Option.map_some, hown.replaceAll_eq hdevice]
  have hreplaced :
      IsDeviceID (if deviceID = cfg.ownID then domain.strDeviceID else deviceID) := by
    split
    · exact hdomain
    · exact hdevice
  rw [hto.replaceAll_eq hreplaced]
  rfl

theorem bodyID_self (ownID domainID id : CStr) :
    bodyID ownID domainID id id = targetID ownID id domainID := by
  unfold bodyID targetID
  by_cases hown : id = ownID
  · simp [hown]
  · simp [hown]

theorem bodyID_own (ownID domainID id : CStr) :
    bodyID ownID domainID ownID id = if id = ownID then domainID else id := by
  unfold bodyID targetID
  by_cases hown : id = ownID
  · simp [hown]
  · simp [hown]

theorem relayMaker_query {query : SipMessage} {deviceID : CStr} (hid : IsDeviceID deviceID)
    (hquery : IsMessage query cfg.upperID deviceID deviceID) :
    ∃ down, relayMaker cfg.mgr query = .ok (some down) ∧
      deviceIdOf down.m_str_message_body = some (targetID cfg.ownID deviceID cfg.lowerID) := by
  have hdown := relayMaker_eq cfg hquery cfg.lookup_upper cfg.lower_isDeviceID hid hid
  rw [bodyID_self] at hdown
  exact hdown

/-- The DeviceID of an answer: the ID of the relay becomes that of the upper domain, **every
other ID stays**. -/
theorem relayMaker_answer {answer : SipMessage} {deviceID : CStr} (hid : IsDeviceID deviceID)
    (hanswer : IsMessage answer cfg.lowerID cfg.ownID deviceID) :
    ∃ up, relayMaker cfg.mgr answer = .ok (some up) ∧
      deviceIdOf up.m_str_message_body =
        some (if deviceID = cfg.ownID then cfg.upperID else deviceID) := by
  have hown : IsDeviceID cfg.ownID := cfg.own_isDeviceID
  have hup := relayMaker_eq cfg hanswer cfg.lookup_lower cfg.upper_isDeviceID hown hid
  rw [bodyID_own] at hup
  exact hup

def deviceMessage (fromID toID deviceID : CStr) : SipMessage where
  psz_req_uri_id := some toID
  psz_cseq := str "20"
  psz_from_id := some fromID
  psz_to_id := some toID
  psz_call_id := str "1001"
  psz_subject := none
  psz_expires := none
  psz_body := some (str "<DeviceID>" ++ (deviceID ++ str "</DeviceID>"))

theorem isMessage_deviceMessage (fromID toID : CStr) {deviceID : CStr} (hid : IsDeviceID deviceID) :
    IsMessage (deviceMessage fromID toID deviceID) fromID toID deviceID where
  from_id := rfl
  req_uri_id := rfl
  body := by
    refine ⟨_, rfl, ?_⟩
    have hclose : breakOn (str "<") (deviceID ++ str "</DeviceID>") =
        some (deviceID, str "/DeviceID>") := breakOn_singleton hid.no_lt
    unfold deviceIdOf
    rw [breakOn_append_self hid.foreign_tag.ne_nil]
    simp only [Option.bind_eq_bind, Option.bind_some]
    rw [hclose]
    rfl

theorem transparent_iff_eq {deviceID : CStr} (hid : IsDeviceID deviceID) :
    Transparent cfg deviceID ↔
      (if targetID cfg.ownID deviceID cfg.lowerID = cfg.ownID then cfg.upperID
        else targetID cfg.ownID deviceID cfg.lowerID) = deviceID := by
  have hreceived : IsDeviceID (targetID cfg.ownID deviceID cfg.lowerID) :=
    hid.targetID cfg.lower_isDeviceID
  constructor
  · intro h
    have hquery := isMessage_deviceMessage cfg.upperID deviceID hid
    obtain ⟨down, receivedID, hdown, hbody, hanswers⟩ := h _ hquery
    obtain ⟨down', hdown', hbody'⟩ := relayMaker_query cfg hid hquery
    -- the DeviceID received is the one the relay wrote
    obtain rfl : down = down' := Option.some.inj (Except.ok.inj (hdown.symm.trans hdown'))
    obtain rfl : receivedID = _ := Option.some.inj (hbody.symm.trans hbody')
    have hanswer := isMessage_deviceMessage cfg.lowerID cfg.ownID hreceived
    obtain ⟨up, hup, hid₁⟩ := hanswers _ hanswer
    obtain ⟨up', hup', hid₂⟩ := relayMaker_answer cfg hreceived hanswer
    obtain rfl : up = up' := Option.some.inj (Except.ok.inj (hup.symm.trans hup'))
    exact Option.some.inj (hid₂.symm.trans hid₁)
  · intro h query hquery
    obtain ⟨down, hdown, hbody⟩ := relayMaker_query cfg hid hquery
    refine ⟨down, _, hdown, hbody, fun answer hanswer => ?_⟩
    obtain ⟨up, hup, hid'⟩ := relayMaker_answer cfg hreceived hanswer
    rw [h] at hid'
    exact ⟨up, hup, hid'⟩

/-- **The realm is lost.**  An answer brings the ID asked for back exactly when the ID is not the
relay's own and either is in the realm of the lower domain, or is the ID of the upper domain while
the relay has the ID that the upper domain would have in the lower realm. -/
theorem relay_transparent_iff {deviceID : CStr} (hid : IsDeviceID deviceID) :
    Transparent cfg deviceID ↔
      deviceID ≠ cfg.ownID ∧
        (deviceID.take 8 = cfg.lowerID.take 8 ∨
          deviceID = cfg.upperID ∧ cfg.ownID = cfg.lowerID.take 8 ++ cfg.upperID.drop 8) := by
  have hne : cfg.upperID ≠ cfg.lowerID := cfg.upper_ne_lower
  rw [transparent_iff_eq cfg hid]
  by_cases hown : deviceID = cfg.ownID
  · -- the relay's own ID becomes that of a domain
    have hlost : (if cfg.lowerID = cfg.ownID then cfg.upperID else cfg.lowerID) ≠ cfg.ownID := by
      split
      · rename_i h
        rw [← h]
        exact hne
      · assumption
    rw [targetID, if_pos hown, hown]
    exact ⟨fun h => absurd h hlost, fun h => absurd rfl h.1⟩
  · rw [targetID, if_neg hown]
    by_cases hrealm : deviceID.take 8 = cfg.lowerID.take 8
    · rw [← hrealm, List.take_append_drop, if_neg hown]
      exact ⟨fun _ => ⟨hown, Or.inl rfl⟩, fun _ => rfl⟩
    · have hmoved : cfg.lowerID.take 8 ++ deviceID.drop 8 ≠ deviceID := by
        intro h
        apply hrealm
        have htake := congrArg (List.take 8) h
        have hlen : cfg.lowerID.length = 20 := cfg.lower_isDeviceID.length_eq
        have hreach : 8 ≤ (cfg.lowerID.take 8).length := by
          rw [List.length_take]
          omega
        rw [List.take_append_of_le_length hreach, List.take_take] at htake
        exact htake.symm
      split
      · rename_i hcoincide
        constructor
        · intro h
          refine ⟨hown, Or.inr ⟨h.symm, ?_⟩⟩
          rw [← hcoincide, h]
        · rintro ⟨_, h | h⟩
          · exact absurd h hrealm
          · exact h.1.symm
      · rename_i hno
        constructor
        · intro h
          exact absurd h hmoved
        · rintro ⟨_, h | ⟨rfl, h⟩⟩
          · exact absurd h hrealm
          · exact absurd h.symm hno

end Relay

/-! ## A relay between Beijing and Nanjing -/

def domainAt (id ip : String) : CSipDomain where
  strDeviceID := str id
  strIP := str ip
  nPort := 5060
  nType := 0
  userName := str id
  strPassWord := str "12345678"
  nStatus := .notRegister
  nExpires := 3600
  nNeedAuth := 0
  timLastRegister := 0
  timLastKeepAlive := 0
  nKeepaliveInterval := 60
  m_strCallID := []
  m_nRegisterID := 0
  m_nCSeq := 0
  m_bNeedConneted := false

/-- The relay has an ID of the upper realm. -/
def nanjingRelay : RelayConfig where
  currentDomain := domainAt "11010500002000000001" "10.1.0.1"
  upperDomain := domainAt "11010500002000000002" "10.1.0.2"
  lowerDomain := domainAt "32010000002000000003" "10.2.0.1"
  own_isDeviceID := ⟨by decide, by decide, by decide⟩
  upper_isDeviceID := ⟨by decide, by decide, by decide⟩
  lower_isDeviceID := ⟨by decide, by decide, by decide⟩
  upper_ne_lower := by decide

/-- A camera of the lower realm. -/
theorem transparent_lowerCamera : Transparent nanjingRelay (str "32010000001320000001") :=
  (relay_transparent_iff nanjingRelay ⟨by decide, by decide, by decide⟩).mpr (by decide)

/-- A camera that the upper domain knows by an ID of its own realm. -/
theorem not_transparent_upperCamera :
    ¬ Transparent nanjingRelay (str "11010500001320000001") := by
  have hid : IsDeviceID (str "11010500001320000001") := ⟨by decide, by decide, by decide⟩
  rw [transparent_iff_eq nanjingRelay hid]
  decide

end GB28181.SipCom
