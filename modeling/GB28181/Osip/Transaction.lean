import GB28181.Base.StateTable
import GB28181.Osip.Message

/-!
# SIP transactions

From `osip.h`, `fsm.h`, `osip_event.c`, `fsm_misc.c`, `osip_transaction.c` and the loops over one
transaction in `osip.c`.

* `Timer`, `EventType`, `Event` — `type_t` and `osip_event_t`: a timer that ran out, a message that
  came in, a message of the user to send; `Event.type` is `evt_set_type_incoming_sipmessage` and
  `evt_set_type_outgoing_sipmessage`;
* `EventType.Carries`, `type_carries` — which events have a type;
* `MessageCallback`, `Output` — what a transaction does to the world outside: it sends, it calls
  back, it asks to be killed;
* `Env` — what a method meets: the clock, read once or twice, and the result of
  `cb_send_message`;
* `Transaction` — `osip_transaction_t` over the context and the states of its kind;
  `transactionInit` is `osip_transaction_init`;
* `createTransaction` — what `osip_create_transaction` asks of a request;
* `Machine` — `osip_statemachine_t` with the timers that the `osip_timers_…_execute` loops look at;
* `transactionExecute`, `Machine.step` — `osip_transaction_execute`, and one action on a
  transaction: an event is added, the timers are looked at, the next event is executed.

Principal results: `transactionInit_spec`, `callmethod_rule` and `execute_rule` (what every row of a
table does, the machine does).
-/

set_option autoImplicit false

namespace GB28181.Osip

open GB28181.Base

/-! ## Events -/

inductive Timer where
  | a | b | d
  | e | f | k
  | g | h | i
  | j
  deriving DecidableEq, Repr

/-- `type_t`. -/
inductive EventType where
  | timeout (timer : Timer)
  | rcvReqinvite
  | rcvReqack
  | rcvRequest
  | rcvStatus1xx
  | rcvStatus2xx
  | rcvStatus3456xx
  | sndReqinvite
  | sndReqack
  | sndRequest
  | sndStatus1xx
  | sndStatus2xx
  | sndStatus3456xx
  deriving DecidableEq, Repr

/-- `evt_set_type_incoming_sipmessage`. -/
def typeIncoming (sip : Message) : EventType :=
  if sip.isRequest then
    if sip.isInvite then .rcvReqinvite else if sip.isAck then .rcvReqack else .rcvRequest
  else if sip.is1xx then .rcvStatus1xx
  else if sip.is2xx then .rcvStatus2xx
  else .rcvStatus3456xx

/-- `evt_set_type_outgoing_sipmessage`. -/
def typeOutgoing (sip : Message) : EventType :=
  if sip.isRequest then
    if sip.isInvite then .sndReqinvite else if sip.isAck then .sndReqack else .sndRequest
  else if sip.is1xx then .sndStatus1xx
  else if sip.is2xx then .sndStatus2xx
  else .sndStatus3456xx

/-- `osip_event_t`: `__osip_event_new` makes the events of timers, `osip_parse` and
`osip_new_outgoing_sipmessage` those of messages. -/
inductive Event where
  | timer (timer : Timer)
  | incoming (sip : Message)
  | outgoing (sip : Message)
  deriving DecidableEq, Repr

def Event.type : Event → EventType
  | .timer t => .timeout t
  | .incoming sip => typeIncoming sip
  | .outgoing sip => typeOutgoing sip

/-- `evt->sip`. -/
def Event.sip : Event → Option Message
  | .timer _ => none
  | .incoming sip => some sip
  | .outgoing sip => some sip

def EventType.Carries : EventType → Event → Prop
  | .timeout t, evt => evt = .timer t
  | .rcvReqinvite, evt => ∃ m, evt = .incoming m ∧ m.isRequest = true ∧ m.isInvite = true
  | .rcvReqack, evt => ∃ m, evt = .incoming m ∧ m.isAck = true
  | .rcvRequest, evt =>
    ∃ m, evt = .incoming m ∧ m.isRequest = true ∧ m.isInvite = false ∧ m.isAck = false
  | .rcvStatus1xx, evt => ∃ m, evt = .incoming m ∧ m.isRequest = false ∧ m.is1xx = true
  | .rcvStatus2xx, evt =>
    ∃ m, evt = .incoming m ∧ m.isRequest = false ∧ m.is1xx = false ∧ m.is2xx = true
  | .rcvStatus3456xx, evt =>
    ∃ m, evt = .incoming m ∧ m.isRequest = false ∧ m.is1xx = false ∧ m.is2xx = false
  | .sndReqinvite, evt => ∃ m, evt = .outgoing m ∧ m.isRequest = true ∧ m.isInvite = true
  | .sndReqack, evt => ∃ m, evt = .outgoing m ∧ m.isAck = true
  | .sndRequest, evt =>
    ∃ m, evt = .outgoing m ∧ m.isRequest = true ∧ m.isInvite = false ∧ m.isAck = false
  | .sndStatus1xx, evt => ∃ m, evt = .outgoing m ∧ m.isRequest = false ∧ m.is1xx = true
  | .sndStatus2xx, evt =>
    ∃ m, evt = .outgoing m ∧ m.isRequest = false ∧ m.is1xx = false ∧ m.is2xx = true
  | .sndStatus3456xx, evt =>
    ∃ m, evt = .outgoing m ∧ m.isRequest = false ∧ m.is1xx = false ∧ m.is2xx = false

theorem message_kinds (m : Message) :
    (m.isRequest = true ∧ m.isInvite = true) ∨
      (m.isRequest = true ∧ m.isInvite = false ∧ m.isAck = true) ∨
      (m.isRequest = true ∧ m.isInvite = false ∧ m.isAck = false) ∨
      (m.isRequest = false ∧ m.is1xx = true) ∨
      (m.isRequest = false ∧ m.is1xx = false ∧ m.is2xx = true) ∨
      (m.isRequest = false ∧ m.is1xx = false ∧ m.is2xx = false) := by
  cases m.isRequest <;> cases m.isInvite <;> cases m.isAck <;> cases m.is1xx <;>
    cases m.is2xx <;> simp

theorem type_carries (evt : Event) : evt.type.Carries evt := by
  cases evt with
  | timer t => rfl
  | incoming m =>
    rcases message_kinds m with ⟨hr, hi⟩ | ⟨hr, hi, ha⟩ | ⟨hr, hi, ha⟩ | ⟨hr, h1⟩ | ⟨hr, h1, h2⟩ |
      ⟨hr, h1, h2⟩ <;> simp [Event.type, typeIncoming, EventType.Carries, *]
  | outgoing m =>
    rcases message_kinds m with ⟨hr, hi⟩ | ⟨hr, hi, ha⟩ | ⟨hr, hi, ha⟩ | ⟨hr, h1⟩ | ⟨hr, h1, h2⟩ |
      ⟨hr, h1, h2⟩ <;> simp [Event.type, typeOutgoing, EventType.Carries, *]

theorem carries_of_type {evt : Event} {type : EventType} (h : type = evt.type) :
    type.Carries evt := h ▸ type_carries evt

/-! ## Outputs -/

/-- `osip_fsm_type_t`. -/
inductive FsmType where
  | ict | ist | nict | nist
  deriving DecidableEq, Repr

/-- `osip_message_callback_type_t`. -/
inductive MessageCallback where
  | ictInviteSent | ictInviteSentAgain | ictAckSent | ictAckSentAgain
  | ictStatus1xxReceived | ictStatus2xxReceived | ictStatus2xxReceivedAgain
  | ictStatus3xxReceived | ictStatus4xxReceived | ictStatus5xxReceived | ictStatus6xxReceived
  | ictStatus3456xxReceivedAgain
  | istInviteReceived | istInviteReceivedAgain | istAckReceived | istAckReceivedAgain
  | istStatus1xxSent | istStatus2xxSent | istStatus2xxSentAgain
  | istStatus3xxSent | istStatus4xxSent | istStatus5xxSent | istStatus6xxSent
  | istStatus3456xxSentAgain
  | nictRegisterSent | nictByeSent | nictOptionsSent | nictInfoSent | nictCancelSent
  | nictNotifySent | nictSubscribeSent | nictUnknownRequestSent | nictRequestSentAgain
  | nictStatus1xxReceived | nictStatus2xxReceived | nictStatus2xxReceivedAgain
  | nictStatus3xxReceived | nictStatus4xxReceived | nictStatus5xxReceived | nictStatus6xxReceived
  | nictStatus3456xxReceivedAgain
  | nistRegisterReceived | nistByeReceived | nistOptionsReceived | nistInfoReceived
  | nistCancelReceived | nistNotifyReceived | nistSubscribeReceived | nistUnknownRequestReceived
  | nistRequestReceivedAgain
  | nistStatus1xxSent | nistStatus2xxSent | nistStatus2xxSentAgain
  | nistStatus3xxSent | nistStatus4xxSent | nistStatus5xxSent | nistStatus6xxSent
  | nistStatus3456xxSentAgain
  | ictStatusTimeout | nictStatusTimeout
  deriving DecidableEq, Repr

/-- What a transaction does outside of itself: it calls `cb_send_message`,
`__osip_message_callback`, `__osip_transport_error_callback` or
`__osip_kill_transaction_callback`. -/
inductive Output where
  | send (sip : Message) (host : Option CStr) (port : Int)
  | callback (type : MessageCallback) (sip : Option Message)
  | transportError (kind : FsmType) (err : Int)
  | kill (kind : FsmType)
  deriving DecidableEq, Repr

/-- What one method meets: the first and the second reading of the clock, in milliseconds, and
what `cb_send_message` returns. -/
structure Env where
  now : Int
  again : Int
  sent : Int
  deriving Repr

/-! ## Times -/

def DEFAULT_T1 : Int := 500

def DEFAULT_T1_TCP_PROGRESS : Int := 50

def DEFAULT_T2 : Int := 4000

def DEFAULT_T4 : Int := 5000

/-- `osip_gettimeofday (&start, NULL); add_gettimeofday (&start, ms)`: from 1000 seconds on only
whole seconds count. -/
def startTimer (now ms : Int) : Option Int :=
  if 1000000 ≤ ms then some (now / 1000 * 1000 + ms / 1000 * 1000) else some (now + ms)

/-- `__osip_transaction_need_timer_x_event`: in the states of the timer, it was started and the
clock is behind its end. -/
def needTimerXEvent (start : Option Int) (cond_state : Bool) (now : Int) : Bool :=
  cond_state && start.any (· < now)

/-! ## Transactions -/

/-- `osip_transaction_t` with a context of type `κ` and the states `σ`. -/
structure Transaction (κ σ : Type) where
  transactionid : Nat
  transactionff : List Event
  topvia : Via
  sipFrom : From
  sipTo : From
  callid : CallId
  cseq : CSeq
  orig_request : Option Message
  last_response : Option Message
  ack : Option Message
  state : σ
  context : κ

/-- `osip_via_clone`. -/
def viaClone (via : Via) : Option Via :=
  if via.version.isSome ∧ via.protocol.isSome ∧ via.host.isSome then some via else none

section Machine

variable {κ σ : Type}

/-- `osip_transaction_init` in the initial state `pre` of a kind, whose context `contextInit`
makes. -/
def transactionInit (pre : σ) (contextInit : Message → Option κ) (transactionid : Nat)
    (request : Message) : Option (Transaction κ σ) := do
  let callid ← request.call_id
  let topvia ← request.vias.head?.bind viaClone
  let sipFrom ← request.sipFrom
  let sipTo ← request.sipTo
  let cseq ← request.cseq
  let context ← contextInit request
  some
    { transactionid := transactionid
      transactionff := []
      topvia := topvia
      sipFrom := sipFrom
      sipTo := sipTo
      callid := callid
      cseq := cseq
      orig_request := none
      last_response := none
      ack := none
      state := pre
      context := context }

/-- A new transaction is in its initial state, with nothing in its queue. -/
theorem transactionInit_spec {pre : σ} {contextInit : Message → Option κ} {transactionid : Nat}
    {request : Message} {tr : Transaction κ σ}
    (h : transactionInit pre contextInit transactionid request = some tr) :
    tr.state = pre ∧ tr.transactionff = [] ∧ tr.orig_request = none ∧ tr.last_response = none ∧
      tr.ack = none ∧ contextInit request = some tr.context := by
  simp only [transactionInit, Option.bind_eq_bind, Option.bind_eq_some_iff,
    Option.some.injEq] at h
  obtain ⟨_, _, _, _, _, _, _, _, _, _, context, hcontext, rfl⟩ := h
  exact ⟨rfl, rfl, rfl, rfl, rfl, hcontext⟩

/-- The tests of `osip_create_transaction` on a request: its method is that of its CSeq, and an
ACK never creates a transaction.  The CSeq decides on the kind of the transaction. -/
def createTransaction (sip : Message) : Option CSeq :=
  if sip.isRequest ∧ sip.isAck = false then
    sip.cseq.filter fun cseq => sip.sip_method = some cseq.method
  else none

/-- A method of a transition: those of timers have no message. -/
inductive Method (κ σ : Type) where
  | timeout (run : Env → Transaction κ σ → Transaction κ σ × List Output)
  | message (run : Env → Transaction κ σ → Message → Transaction κ σ × List Output)

/-- `osip_statemachine_t`, and the timer of which `osip_timers_…_execute` adds the event to a
transaction: each timer that it looks at reads the clock anew. -/
structure Machine (κ σ : Type) where
  transitions : List (Base.Transition σ EventType (Method κ σ))
  dueTimer : Transaction κ σ → (Nat → Int) → Option Timer

/-- What the method of a transition does with an event. -/
def Method.call (method : Method κ σ) (env : Env) (tr : Transaction κ σ) (evt : Event) :
    Transaction κ σ × List Output :=
  match method, evt with
  | .timeout f, _ => f env tr
  | .message f, .incoming sip => f env tr sip
  | .message f, .outgoing sip => f env tr sip
  | .message _, .timer _ => (tr, [])

variable [DecidableEq σ]

/-- `osip_transaction_execute` and `fsm_callmethod`: an event without a transition is useless. -/
def transactionExecute (fsm : Machine κ σ) (env : Env) (tr : Transaction κ σ) (evt : Event) :
    Transaction κ σ × List Output :=
  match findMethod fsm.transitions evt.type tr.state with
  | some method => method.call env tr evt
  | none => (tr, [])

/-- `osip_transaction_add_event`. -/
def Transaction.addEvent (tr : Transaction κ σ) (evt : Event) : Transaction κ σ :=
  { tr with transactionff := tr.transactionff ++ [evt] }

inductive Action where
  /-- An event is added to its queue. -/
  | add (evt : Event)
  /-- Its timers are looked at, with the readings of the clock. -/
  | timers (clock : Nat → Int)
  /-- The next event of its queue is executed. -/
  | execute (env : Env)

/-- One pass of the loop of `osip_…_execute`: the next event leaves the queue and is executed. -/
def executeNext (fsm : Machine κ σ) (env : Env) (tr : Transaction κ σ) :
    Transaction κ σ × List Output :=
  match tr.transactionff with
  | [] => (tr, [])
  | evt :: evts => transactionExecute fsm env { tr with transactionff := evts } evt

/-- One pass of the loop of `osip_timers_…_execute`. -/
def timersExecute (fsm : Machine κ σ) (clock : Nat → Int) (tr : Transaction κ σ) :
    Transaction κ σ :=
  match fsm.dueTimer tr clock with
  | some timer => tr.addEvent (.timer timer)
  | none => tr

def Machine.step (fsm : Machine κ σ) (tr : Transaction κ σ) :
    Action → Transaction κ σ × List Output
  | .add evt => (tr.addEvent evt, [])
  | .timers clock => (timersExecute fsm clock tr, [])
  | .execute env => executeNext fsm env tr

/-! ## Rules -/

/-- What every row of the table does to a transaction in its state, by an event of its kind, the
machine does; an event without a row changes nothing. -/
theorem callmethod_rule {fsm : Machine κ σ} {env : Env} {tr : Transaction κ σ} {evt : Event}
    {P : Transaction κ σ × List Output → Prop} (huseless : P (tr, []))
    (hrows : ∀ t ∈ fsm.transitions, t.type = evt.type → t.state = tr.state →
      P (t.method.call env tr evt)) :
    P (transactionExecute fsm env tr evt) := by
  rw [transactionExecute]
  cases hfind : findMethod fsm.transitions evt.type tr.state with
  | none => exact huseless
  | some method => exact hrows _ (findMethod_mem hfind) rfl rfl

/-- The same over all transactions and events, with what the type of a row says of the event. -/
theorem execute_rule {fsm : Machine κ σ}
    {P : Env → Transaction κ σ → Event → Transaction κ σ × List Output → Prop}
    (huseless : ∀ env t evt, P env t evt (t, []))
    (hrows : ∀ row ∈ fsm.transitions, ∀ env t evt, row.type.Carries evt → t.state = row.state →
      P env t evt (row.method.call env t evt)) (env : Env) (t : Transaction κ σ) (evt : Event) :
    P env t evt (transactionExecute fsm env t evt) :=
  callmethod_rule (huseless env t evt) fun row hrow htype hstate =>
    hrows row hrow env t evt (carries_of_type htype) hstate.symm

end Machine

end GB28181.Osip
