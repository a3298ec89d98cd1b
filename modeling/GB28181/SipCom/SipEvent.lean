import GB28181.SipCom.RegMgr

/-!
# Events of the SIP stack (`eXosip2/eXosip.h`, `osipparser2/osip_message.h`)

An event with the three messages of its transaction.  Of the response and the ACK the program
reads the status code only.

* `EXosipEvent`, `EventType` — the event and its 46 types;
* `OsipMessage` — the request, with the accessors `osip_message_get_body`,
  `osip_message_header_get_byname` and the `MSG_IS_` tests;
* `OsipMessage.toEvent` — the view the registration manager has of it.
-/

set_option autoImplicit false

namespace GB28181.SipCom

open GB28181.Base

/-- `eXosip_event_type_t`. -/
inductive EventType where
  | registrationSuccess
  | registrationFailure
  | callInvite
  | callReinvite
  | callNoanswer
  | callProceeding
  | callRinging
  | callAnswered
  | callRedirected
  | callRequestfailure
  | callServerfailure
  | callGlobalfailure
  | callAck
  | callCancelled
  | callMessageNew
  | callMessageProceeding
  | callMessageAnswered
  | callMessageRedirected
  | callMessageRequestfailure
  | callMessageServerfailure
  | callMessageGlobalfailure
  | callClosed
  | callReleased
  | messageNew
  | messageProceeding
  | messageAnswered
  | messageRedirected
  | messageRequestfailure
  | messageServerfailure
  | messageGlobalfailure
  | subscriptionNoanswer
  | subscriptionProceeding
  | subscriptionAnswered
  | subscriptionRedirected
  | subscriptionRequestfailure
  | subscriptionServerfailure
  | subscriptionGlobalfailure
  | subscriptionNotify
  | inSubscriptionNew
  | notificationNoanswer
  | notificationProceeding
  | notificationAnswered
  | notificationRedirected
  | notificationRequestfailure
  | notificationServerfailure
  | notificationGlobalfailure
  deriving DecidableEq

/-- `osip_message_t` of a request.  The parser of the stack refuses a request without CSeq or
Call-ID, so these are texts; every other part may be absent. -/
structure OsipMessage where
  sip_method : CStr
  req_uri : Option Uri
  from_ : Option (Option Uri)
  to_ : Option (Option Uri)
  cseq : CStr
  call_id : CStr
  contacts : List (Option Uri)
  headers : List Header
  authorizations : List Authorization
  bodies : List CStr
  deriving DecidableEq

/-- Where the stack has the transaction of an incoming request when it reports the event. -/
inductive Kept where
  /-- in `j_transactions`, not finally answered -/
  | listed
  /-- finally answered by the stack itself: a NOTIFY in a subscription, a request with a wrong CSeq,
  an INFO without a dialog -/
  | answered
  /-- with its call (`d_inc_trs`) or its subscription (`n_inc_tr`) only -/
  | dialog
  deriving DecidableEq

/-- `eXosip_event_t`; of `response` and `ack` the status code. -/
structure EXosipEvent where
  type : EventType
  request : Option OsipMessage
  response : Option Int
  ack : Option Int
  tid : Int
  did : BitVec 32
  rid : Int
  cid : BitVec 32
  kept : Kept := .listed
  deriving DecidableEq

/-- `eXosip_message_build_answer` finds the transaction, and `eXosip_message_send_answer` does not
drop the answer. -/
def EXosipEvent.Answerable (ev : EXosipEvent) : Prop := 0 < ev.tid ∧ ev.kept = .listed

instance (ev : EXosipEvent) : Decidable ev.Answerable := inferInstanceAs (Decidable (_ ∧ _))

namespace OsipMessage

/-- `osip_message_header_get_byname`, which compares names without case. -/
def headerGetByname (msg : OsipMessage) (hname : CStr) : Option Header :=
  msg.headers.find? fun h => stricmpEq h.hname hname

/-- The `MSG_IS_` tests; a request has no status code. -/
def isMethod (msg : OsipMessage) (name : String) : Bool := msg.sip_method == str name

/-- What the registration manager reads of a request. -/
def toEvent (msg : OsipMessage) (tid : Int) : Event where
  tid := tid
  pFrom := msg.from_
  contacts := msg.contacts
  headers := msg.headers
  authorizations := msg.authorizations

end OsipMessage

end GB28181.SipCom
