import GB28181.SipCom.SipMsgMaker

/-!
# The XML bodies of SIP messages (`SipServiceCom/SipMsgMaker.hpp`)

The parsers of `SipMessage` for a MANSCDP body.  The XML library and `Utils::findstr` are
parameters: what the parsers read of a document is the name and text of its root and of the
children of the root.

* `checkBodyCmdType_eq_ok_iff` — when the command type can be read: the body has no root element
  only if it cannot be parsed, and the root has a `CmdType` child;
* `parserMessageBody_eq_ok_iff`, `parserSubscriptionBody_eq_ok_iff` — the other two children are
  needed as well, with a text, once there is a command to parse.
-/

set_option autoImplicit false

namespace GB28181.SipCom

open GB28181.Base

/-! ## Documents -/

/-- An XML element: its name, the text `GetText` returns, and its child elements. -/
inductive XmlElement where
  | mk (name : CStr) (text : Option CStr) (children : List XmlElement)

namespace XmlElement

/-- `Name`, `Value`. -/
def name : XmlElement → CStr
  | mk name _ _ => name

/-- `GetText`; `none` is a null pointer. -/
def getText : XmlElement → Option CStr
  | mk _ text _ => text

def children : XmlElement → List XmlElement
  | mk _ _ children => children

/-- `FirstChildElement` with a name. -/
def firstChildElement (e : XmlElement) (name : CStr) : Option XmlElement :=
  e.children.find? fun child => child.name = name

end XmlElement

/-- `tinyxml2::XMLDocument` after `Parse`. -/
structure XmlDocument where
  error : Bool
  rootElement : Option XmlElement

/-- What the parsers use from outside the repository. -/
structure XmlEnv where
  /-- `XMLDocument::Parse` -/
  xmlParse : CStr → XmlDocument
  /-- `Utils::findstr` -/
  findstr : CStr → CStr → Bool

/-! ## Commands -/

/-- `body_cmd_t::query_t`. -/
inductive QueryCmd where
  | default_none
  | query_catalog
  | query_alarm
  | query_record_info
  | query_decorder_division
  | query_decorder_status
  deriving DecidableEq

/-- `body_cmd_t::response_t`. -/
inductive ResponseCmd where
  | default_none
  | response_catalog
  | response_alarm
  | response_record_info
  | response_decorder_division
  | response_decorder_status
  deriving DecidableEq

/-- `body_cmd_t::control_t`. -/
inductive ControlCmd where
  | default_none
  | control_device_ptz
  | control_dargzoom
  | modify_password
  deriving DecidableEq

/-- `body_cmd_t::notify_t`, with the values the parsers make. -/
inductive NotifyCmd where
  | default_none
  | notify_keep_alive
  | notify_media_status
  deriving DecidableEq

/-- `body_cmd_t::subscribe_t`. -/
inductive SubscribeCmd where
  | default_none
  | subscribe_catalog
  | subscribe_alarm
  deriving DecidableEq

/-- `body_cmd_t`: the member of the union that was written, with the content type it goes with;
`unset` is the default-constructed value. -/
inductive BodyCmd where
  | unset
  | query (e_query : QueryCmd)
  | response (e_response : ResponseCmd)
  | control (e_control : ControlCmd)
  | notify (e_notify : NotifyCmd)
  | subscribe (e_subscribe : SubscribeCmd)
  deriving DecidableEq

variable (X : XmlEnv)

def parserCmdtypeInQueryBody (str_cmdtype : CStr) : QueryCmd :=
  if X.findstr str_cmdtype (str "Catalog") then .query_catalog
  else if X.findstr str_cmdtype (str "AlarmInfo") then .query_alarm
  else if X.findstr str_cmdtype (str "RecordInfo") then .query_record_info
  else if X.findstr str_cmdtype (str "DecoderInfo") then .query_decorder_division
  else if X.findstr str_cmdtype (str "DecoderStatus") then .query_decorder_status
  else .default_none

def parserCmdtypeInResponseBody (str_cmdtype : CStr) : ResponseCmd :=
  if X.findstr str_cmdtype (str "Catalog") then .response_catalog
  else if X.findstr str_cmdtype (str "AlarmInfo") then .response_alarm
  else if X.findstr str_cmdtype (str "RecordInfo") then .response_record_info
  else if X.findstr str_cmdtype (str "DecoderInfo") then .response_decorder_division
  else if X.findstr str_cmdtype (str "DecoderStatus") then .response_decorder_status
  else .default_none

def parserCmdtypeInControlBody (str_cmdtype : CStr) : ControlCmd :=
  if X.findstr str_cmdtype (str "DeviceControl") then .control_device_ptz
  else if X.findstr str_cmdtype (str "DragZoom") then .control_dargzoom
  else if X.findstr str_cmdtype (str "ModifyPassword") then .modify_password
  else .default_none

def parserCmdtypeInNotifyBody (str_cmdtype : CStr) : NotifyCmd :=
  if X.findstr str_cmdtype (str "Keepalive") then .notify_keep_alive
  else if X.findstr str_cmdtype (str "Mediastatus") then .notify_media_status
  else .default_none

/-! ## Parsers -/

/-- What a parser copies into the packet. -/
structure BodyFields where
  cmd_body : BodyCmd
  szToDeviceID : CStr
  szSN : CStr
  deriving DecidableEq

/-- `check_body_cmd_type`, with the root element and the command type; `none` is the result
`false`. -/
def checkBodyCmdType (psz_body : Option CStr) : Except SipFault (Option (XmlElement × CStr)) :=
  match psz_body with
  | none => .ok none
  | some body =>
    let xmldoc := X.xmlParse body
    if xmldoc.error then .ok none
    else do
      let xml_root_node ← deref xmldoc.rootElement
      let cmdType ← deref (xml_root_node.firstChildElement (str "CmdType"))
      return cmdType.getText.map fun psz_cmdtype => (xml_root_node, psz_cmdtype)

/-- The reads of `SN` and `DeviceID`, of whose texts bytes are copied. -/
def bodyFields (cmd_body : BodyCmd) (xml_root_node : XmlElement) : Except SipFault BodyFields := do
  let psz_sn := (← deref (xml_root_node.firstChildElement (str "SN"))).getText
  let psz_deviceid := (← deref (xml_root_node.firstChildElement (str "DeviceID"))).getText
  return ⟨cmd_body, ← deref psz_deviceid, ← deref psz_sn⟩

/-- The command of a message body, by the name of its root; `none` for any other name. -/
def messageCmd (str_root_name str_cmdtype : CStr) : Option BodyCmd :=
  if X.findstr str_root_name (str "query") then
    some (.query (parserCmdtypeInQueryBody X str_cmdtype))
  else if X.findstr str_root_name (str "response") then
    some (.response (parserCmdtypeInResponseBody X str_cmdtype))
  else if X.findstr str_root_name (str "control") then
    some (.control (parserCmdtypeInControlBody X str_cmdtype))
  else if X.findstr str_root_name (str "notify") then
    some (.notify (parserCmdtypeInNotifyBody X str_cmdtype))
  else none

/-- `parser_message_body`; `none` when nothing is copied. -/
def parserMessageBody (psz_body : Option CStr) : Except SipFault (Option BodyFields) := do
  match ← checkBodyCmdType X psz_body with
  | none => return none
  | some (xml_root_node, str_cmdtype) =>
    match messageCmd X xml_root_node.name str_cmdtype with
    | none => return none
    | some cmd => return some (← bodyFields cmd xml_root_node)

def isKeepAlive (psz_body : Option CStr) : Except SipFault Bool := do
  match ← checkBodyCmdType X psz_body with
  | none => return false
  | some (_, str_cmdtype) =>
    return parserCmdtypeInNotifyBody X str_cmdtype == .notify_keep_alive

def subscribeCmd (str_cmdtype : CStr) : SubscribeCmd :=
  if X.findstr str_cmdtype (str "Catalog") then .subscribe_catalog
  else if X.findstr str_cmdtype (str "Alarm") then .subscribe_alarm
  else .default_none

/-- `parser_subscription_body`; `none` when nothing is copied. -/
def parserSubscriptionBody (psz_body : Option CStr) : Except SipFault (Option BodyFields) := do
  match ← checkBodyCmdType X psz_body with
  | none => return none
  | some (xml_root_node, str_cmdtype) =>
    return some (← bodyFields (.subscribe (subscribeCmd X str_cmdtype)) xml_root_node)

/-! ## When they return -/

theorem deref_eq_ok {α : Type} {p : Option α} {a : α} : deref p = .ok a ↔ p = some a := by
  cases p with
  | none => simp [deref]
  | some b => simp [deref]

theorem stdString_eq_ok {p : Option CStr} {s : CStr} : stdString p = .ok s ↔ p = some s := by
  cases p with
  | none => simp [stdString]
  | some b => simp [stdString]

theorem exceptBind_eq_ok {α β : Type} {x : Except SipFault α} {f : α → Except SipFault β} {b : β} :
    (x >>= f) = .ok b ↔ ∃ a, x = .ok a ∧ f a = .ok b := by
  cases x with
  | error e => simp [bind, Except.bind]
  | ok a => simp [bind, Except.bind]

/-- The body, when it can be parsed, has a root with a `CmdType` child. -/
def HasCmdType (psz_body : Option CStr) : Prop :=
  ∀ body, psz_body = some body → (X.xmlParse body).error = false →
    ∃ root, (X.xmlParse body).rootElement = some root ∧
      root.firstChildElement (str "CmdType") ≠ none

/-- The `SN` and the `DeviceID` child are there and not empty. -/
def HasSnAndDeviceID (root : XmlElement) : Prop :=
  (∃ sn, root.firstChildElement (str "SN") = some sn ∧ sn.getText ≠ none) ∧
    ∃ id, root.firstChildElement (str "DeviceID") = some id ∧ id.getText ≠ none

/-- The root and the command type of a body that has both. -/
def CmdTypeOf (psz_body : Option CStr) (root : XmlElement) (str_cmdtype : CStr) : Prop :=
  ∃ body cmdType, psz_body = some body ∧ (X.xmlParse body).error = false ∧
    (X.xmlParse body).rootElement = some root ∧
    root.firstChildElement (str "CmdType") = some cmdType ∧ cmdType.getText = some str_cmdtype

theorem checkBodyCmdType_eq_ok_iff (psz_body : Option CStr) :
    (∃ r, checkBodyCmdType X psz_body = .ok r) ↔ HasCmdType X psz_body := by
  unfold checkBodyCmdType HasCmdType
  cases psz_body with
  | none => simp
  | some body =>
    cases herror : (X.xmlParse body).error with
    | true => simp [herror]
    | false =>
      simp only [herror, Bool.false_eq_true, if_false, exceptBind_eq_ok, deref_eq_ok,
        Option.some.injEq, forall_eq']
      constructor
      · rintro ⟨_, root, hroot, cmdType, hcmd, _⟩
        refine fun _ => ⟨root, hroot, ?_⟩
        rw [hcmd]
        exact Option.some_ne_none cmdType
      · intro h
        obtain ⟨root, hroot, hcmd⟩ := h trivial
        obtain ⟨cmdType, hcmd⟩ := Option.ne_none_iff_exists'.mp hcmd
        exact ⟨_, root, hroot, cmdType, hcmd, rfl⟩

theorem checkBodyCmdType_eq_some_iff (psz_body : Option CStr) (root : XmlElement)
    (str_cmdtype : CStr) :
    checkBodyCmdType X psz_body = .ok (some (root, str_cmdtype)) ↔
      CmdTypeOf X psz_body root str_cmdtype := by
  unfold checkBodyCmdType CmdTypeOf
  cases psz_body with
  | none => simp
  | some body =>
    cases herror : (X.xmlParse body).error with
    | true => simp [herror]
    | false =>
      simp only [herror, Bool.false_eq_true, if_false, exceptBind_eq_ok, deref_eq_ok]
      constructor
      · rintro ⟨root', hroot, cmdType, hcmd, hr⟩
        obtain ⟨text, htext, he⟩ := Option.map_eq_some_iff.mp (Except.ok.inj hr)
        cases he
        exact ⟨body, cmdType, rfl, herror, hroot, hcmd, htext⟩
      · rintro ⟨body', cmdType, hbody, _, hroot, hcmd, htext⟩
        cases hbody
        refine ⟨root, hroot, cmdType, hcmd, ?_⟩
        rw [htext]
        rfl

theorem bodyFields_eq_ok_iff (cmd : BodyCmd) (root : XmlElement) :
    (∃ fields, bodyFields cmd root = .ok fields) ↔ HasSnAndDeviceID root := by
  unfold bodyFields HasSnAndDeviceID
  simp only [exceptBind_eq_ok, deref_eq_ok]
  constructor
  · rintro ⟨_, sn, hsn, id, hid, _, hidText, _, hsnText, _⟩
    refine ⟨⟨sn, hsn, ?_⟩, id, hid, ?_⟩
    · rw [hsnText]
      exact Option.some_ne_none _
    · rw [hidText]
      exact Option.some_ne_none _
  · rintro ⟨⟨sn, hsn, hsnText⟩, id, hid, hidText⟩
    obtain ⟨snText, hsnText⟩ := Option.ne_none_iff_exists'.mp hsnText
    obtain ⟨idText, hidText⟩ := Option.ne_none_iff_exists'.mp hidText
    exact ⟨_, sn, hsn, id, hid, idText, hidText, snText, hsnText, rfl⟩

def MessageReadable (psz_body : Option CStr) : Prop :=
  HasCmdType X psz_body ∧ ∀ root str_cmdtype, CmdTypeOf X psz_body root str_cmdtype →
    messageCmd X root.name str_cmdtype ≠ none → HasSnAndDeviceID root

/-- The body can be read as a subscription. -/
def SubscriptionReadable (psz_body : Option CStr) : Prop :=
  HasCmdType X psz_body ∧ ∀ root str_cmdtype, CmdTypeOf X psz_body root str_cmdtype →
    HasSnAndDeviceID root

theorem isKeepAlive_eq_ok_iff (psz_body : Option CStr) :
    (∃ r, isKeepAlive X psz_body = .ok r) ↔ HasCmdType X psz_body := by
  rw [← checkBodyCmdType_eq_ok_iff]
  unfold isKeepAlive
  simp only [exceptBind_eq_ok]
  constructor
  · rintro ⟨_, r, hr, _⟩
    exact ⟨r, hr⟩
  · rintro ⟨r, hr⟩
    cases r with
    | none => exact ⟨false, none, hr, rfl⟩
    | some p => exact ⟨_, some p, hr, rfl⟩

theorem parserMessageBody_eq_ok_iff (psz_body : Option CStr) :
    (∃ r, parserMessageBody X psz_body = .ok r) ↔ MessageReadable X psz_body := by
  unfold MessageReadable
  simp only [← checkBodyCmdType_eq_ok_iff, ← checkBodyCmdType_eq_some_iff]
  unfold parserMessageBody
  simp only [exceptBind_eq_ok]
  constructor
  · rintro ⟨fields, r, hr, h⟩
    refine ⟨⟨r, hr⟩, fun root str_cmdtype hsome hcmd => ?_⟩
    obtain ⟨cmd, hcmd⟩ := Option.ne_none_iff_exists'.mp hcmd
    rw [hr] at hsome
    cases hsome
    simp only [hcmd, exceptBind_eq_ok] at h
    obtain ⟨f, hf, _⟩ := h
    exact (bodyFields_eq_ok_iff cmd root).mp ⟨f, hf⟩
  · rintro ⟨⟨r, hr⟩, h⟩
    cases r with
    | none => exact ⟨none, none, hr, rfl⟩
    | some p =>
      cases hcmd : messageCmd X p.1.name p.2 with
      | none =>
        refine ⟨none, some p, hr, ?_⟩
        simp only [hcmd]
        rfl
      | some cmd =>
        have hneeded : messageCmd X p.1.name p.2 ≠ none := by
          rw [hcmd]
          exact Option.some_ne_none cmd
        obtain ⟨fields, hf⟩ := (bodyFields_eq_ok_iff cmd p.1).mpr (h p.1 p.2 hr hneeded)
        refine ⟨some fields, some p, hr, ?_⟩
        simp only [hcmd, exceptBind_eq_ok]
        exact ⟨fields, hf, rfl⟩

theorem parserSubscriptionBody_eq_ok_iff (psz_body : Option CStr) :
    (∃ r, parserSubscriptionBody X psz_body = .ok r) ↔ SubscriptionReadable X psz_body := by
  unfold SubscriptionReadable
  simp only [← checkBodyCmdType_eq_ok_iff, ← checkBodyCmdType_eq_some_iff]
  unfold parserSubscriptionBody
  simp only [exceptBind_eq_ok]
  constructor
  · rintro ⟨fields, r, hr, h⟩
    refine ⟨⟨r, hr⟩, fun root str_cmdtype hsome => ?_⟩
    rw [hr] at hsome
    cases hsome
    simp only [exceptBind_eq_ok] at h
    obtain ⟨f, hf, _⟩ := h
    exact (bodyFields_eq_ok_iff _ root).mp ⟨f, hf⟩
  · rintro ⟨⟨r, hr⟩, h⟩
    cases r with
    | none => exact ⟨none, none, hr, rfl⟩
    | some p =>
      obtain ⟨fields, hf⟩ := (bodyFields_eq_ok_iff (.subscribe (subscribeCmd X p.2)) p.1).mpr
        (h p.1 p.2 hr)
      refine ⟨some fields, some p, hr, ?_⟩
      simp only [exceptBind_eq_ok]
      exact ⟨fields, hf, rfl⟩

end GB28181.SipCom
