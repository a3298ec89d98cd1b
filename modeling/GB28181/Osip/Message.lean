import GB28181.Base.Decimal

/-!
# SIP messages as the transaction layer sees them

From `osip_message.h`, `osip_uri.c`, `osip_via.h`, `osip_message_parse.c`, `osip_transaction.c` and
the destination code that `ict.c`, `nict.c` and `ict_fsm.c` share.

* `Message` — `osip_message_t`: the headers the transaction layer reads, and the others, which it
  only carries;
* `isRequest`, `isMethod`, `is1xx`, … — the `MSG_IS_…` macros;
* `paramGetByname` — `osip_uri_param_get_byname`;
* `overReliable` — the protocols whose retransmissions are the transport's own affair;
* `nextHop` — where a request goes: the first loose route, `maddr`, `x-obr` or the request-URI;
* `responseDestination` — where `__osip_transaction_snd_xxx` sends a response;
* `fixLastViaHeader` — `osip_message_fix_last_via_header`, what a receiver adds to a request.

Principal results: `fixLastViaHeader_request`, `fixLastViaHeader_response` — the stamp on the top
Via leaves the start line, the call and the remaining headers of a message alone.
-/

set_option autoImplicit false

namespace GB28181.Osip

open GB28181.Base

/-- `osip_generic_param_t`. -/
structure Param where
  gname : CStr
  gvalue : Option CStr
  deriving DecidableEq, Repr

/-- `osip_uri_t`. -/
structure Uri where
  username : Option CStr := none
  host : CStr
  port : Option CStr := none
  url_params : List Param := []
  deriving DecidableEq, Repr

/-- `osip_via_t`. -/
structure Via where
  version : Option CStr
  protocol : Option CStr
  host : Option CStr
  port : Option CStr := none
  comment : Option CStr := none
  via_params : List Param := []
  deriving DecidableEq, Repr

/-- `osip_from_t`, also `osip_to_t` and `osip_route_t`. -/
structure From where
  displayname : Option CStr := none
  url : Option Uri
  gen_params : List Param := []
  deriving DecidableEq, Repr

/-- `osip_call_id_t`.  A Call-ID without its number is refused like a missing one. -/
structure CallId where
  number : CStr
  host : Option CStr := none
  deriving DecidableEq, Repr

/-- `osip_cseq_t`.  A CSeq without its number or method is refused like a missing one. -/
structure CSeq where
  number : CStr
  method : CStr
  deriving DecidableEq, Repr

/-- `osip_message_t`.  A request has the status code 0. -/
structure Message where
  sip_version : CStr := []
  req_uri : Option Uri := none
  sip_method : Option CStr := none
  status_code : Int
  reason_phrase : Option CStr := none
  vias : List Via
  sipFrom : Option From := none
  sipTo : Option From := none
  call_id : Option CallId := none
  cseq : Option CSeq := none
  routes : List From := []
  authorizations : List CStr := []
  proxy_authorizations : List CStr := []
  /-- The other headers and the bodies. -/
  rest : CStr := []
  deriving DecidableEq, Repr

namespace Message

/-- `MSG_IS_REQUEST`. -/
def isRequest (m : Message) : Bool := m.status_code == 0

/-- `MSG_IS_INVITE`, `MSG_IS_ACK`, `MSG_IS_REGISTER`, …: a request with the method. -/
def isMethod (m : Message) (method : CStr) : Bool := m.isRequest && m.sip_method == some method

/-- `MSG_IS_STATUS_1XX`, …: the status code lies in the hundred. -/
def isStatus (m : Message) (hundred : Int) : Bool :=
  decide (100 * hundred ≤ m.status_code ∧ m.status_code < 100 * hundred + 100)

def isInvite (m : Message) : Bool := m.isMethod (str "INVITE")

def isAck (m : Message) : Bool := m.isMethod (str "ACK")

def is1xx (m : Message) : Bool := m.isStatus 1

def is2xx (m : Message) : Bool := m.isStatus 2

end Message

/-- `osip_uri_param_get_byname`: the first parameter of the name, whatever its case. -/
def paramGetByname (params : List Param) (pname : CStr) : Option Param :=
  params.find? fun p => stricmpEq p.gname pname

/-- The test of the four contexts and of the client machines for `TCP`, `TLS` and `SCTP`. -/
def overReliable (proto : CStr) : Bool :=
  stricmpEq proto (str "TCP") || stricmpEq proto (str "TLS") || stricmpEq proto (str "SCTP")

/-- `osip_message_get_via (m, 0, &via)` and `via_get_protocol (via)`; `none` where one of the two
fails. -/
def topProtocol (m : Message) : Option CStr := m.vias.head?.bind Via.protocol

/-- `osip_message_get_route (m, 0, &route)`, given up when its URI has no `lr`: the next hop is an
uncompliant proxy then. -/
def looseRoute (routes : List From) : Option Uri :=
  match routes.head?.bind From.url with
  | none => none
  | some url => if (paramGetByname url.url_params (str "lr")).isSome then some url else none

/-- The port of a URI, 5060 where it names none. -/
def uriPort (url : Uri) : Int := (url.port.map atoi).getD 5060

/-- The destination that `__osip_ict_init`, `__osip_nict_init` and `ict_rcv_3456xx` set. -/
def nextHop (routes : List From) (req_uri : Uri) : CStr × Int :=
  match looseRoute routes with
  | some url => (url.host, uriPort url)
  | none =>
    match (paramGetByname req_uri.url_params (str "maddr")).bind Param.gvalue,
        (paramGetByname req_uri.url_params (str "x-obr")).bind Param.gvalue,
        (paramGetByname req_uri.url_params (str "x-obp")).bind Param.gvalue with
    | some maddr, _, _ => (maddr, uriPort req_uri)
    | none, some obr, some obp => (obr, atoi obp)
    | none, _, _ => (req_uri.host, uriPort req_uri)

/-- The host and the port of `__osip_transaction_snd_xxx`; `none` for a response without a Via. -/
def responseDestination (m : Message) : Option (Option CStr × Int) :=
  m.vias.head?.map fun via =>
    let host :=
      match paramGetByname via.via_params (str "maddr"),
          paramGetByname via.via_params (str "received") with
      | some maddr, _ => maddr.gvalue
      | none, some received => received.gvalue
      | none, none => via.host
    let port :=
      match (paramGetByname via.via_params (str "rport")).bind Param.gvalue with
      | some rport => atoi rport
      | none => (via.port.map atoi).getD 5060
    (host, port)

/-- The value of the first parameter `rport`, filled in where it has none. -/
def setRport (port : CStr) : List Param → List Param
  | [] => []
  | p :: ps =>
    if stricmpEq p.gname (str "rport") then { p with gvalue := p.gvalue.or (some port) } :: ps
    else p :: setRport port ps

/-- `osip_message_fix_last_via_header`: the source address a request really came from goes into
the parameters of its top Via. -/
def fixLastViaHeader (ip_addr : CStr) (port : Nat) (m : Message) : Message :=
  if m.isRequest then
    match m.vias with
    | [] => m
    | via :: vias =>
      match via.host with
      | none => m
      | some host =>
        let params := setRport (toText port) via.via_params
        let params := if host = ip_addr then params
          else params ++ [{ gname := str "received", gvalue := some ip_addr }]
        { m with vias := { via with via_params := params } :: vias }
  else m

theorem fixLastViaHeader_response {m : Message} (h : m.isRequest = false) (ip_addr : CStr)
    (port : Nat) : fixLastViaHeader ip_addr port m = m := by
  rw [fixLastViaHeader, if_neg (by simp [h])]

theorem fixLastViaHeader_request (ip_addr : CStr) (port : Nat) (m : Message) :
    ∃ vias, fixLastViaHeader ip_addr port m = { m with vias := vias } := by
  rw [fixLastViaHeader]
  split
  · split
    · exact ⟨m.vias, rfl⟩
    · split
      · exact ⟨m.vias, rfl⟩
      · exact ⟨_, rfl⟩
  · exact ⟨m.vias, rfl⟩

@[simp] theorem fixLastViaHeader_status (ip_addr : CStr) (port : Nat) (m : Message) :
    (fixLastViaHeader ip_addr port m).status_code = m.status_code := by
  obtain ⟨vias, h⟩ := fixLastViaHeader_request ip_addr port m
  rw [h]

@[simp] theorem fixLastViaHeader_method (ip_addr : CStr) (port : Nat) (m : Message) :
    (fixLastViaHeader ip_addr port m).sip_method = m.sip_method := by
  obtain ⟨vias, h⟩ := fixLastViaHeader_request ip_addr port m
  rw [h]

end GB28181.Osip
