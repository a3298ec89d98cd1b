import GB28181.Osip.Transaction

/-!
# The client of an INVITE

From `ict.c` and `ict_fsm.c`.

* `Ict`, `IctState`, `ictInit` — `osip_ict_t`, its states and `__osip_ict_init`;
* `createIct` — `osip_create_transaction` for an INVITE;
* `ictCreateAck` — `ict_create_ack`, the ACK for a response that is no success;
* `ictSndInvite`, `ictTimeoutA`, `ictTimeoutB`, `ictRcv1xx`, `ictRcv2xx`, `ictRcv3456xx`,
  `ictTimeoutD`, `ictRetransmitAck` — the methods of `ict_fsm.c`;
* `ictFsm` — `ict_fsm` with the timers of `osip_timers_ict_execute`.

Principal results: `createIct_spec`, `ictCreateAck_isAck` (what is built is an ACK),
`ictSendInvite_frame` (sending the INVITE touches nothing but timer A), `ict_rule` (what its methods
do, the machine does).
-/

set_option autoImplicit false

namespace GB28181.Osip

open GB28181.Base

/-- `osip_ict_t`. -/
structure Ict where
  timer_a_length : Int
  timer_a_start : Option Int
  timer_b_length : Int
  timer_b_start : Option Int
  timer_d_length : Int
  timer_d_start : Option Int
  destination : CStr
  port : Int
  deriving DecidableEq, Repr

inductive IctState where
  | preCalling | calling | proceeding | completed | terminated
  deriving DecidableEq, Repr

abbrev IctTransaction := Transaction Ict IctState

/-- The states in which a response is awaited. -/
def IctState.Waiting (state : IctState) : Prop := state = .calling ∨ state = .proceeding

theorem IctState.Waiting.live {state : IctState} (h : state.Waiting) : state ≠ .terminated := by
  rcases h with rfl | rfl <;> decide

theorem IctState.Waiting.ne_completed {state : IctState} (h : state.Waiting) :
    state ≠ .completed := by
  rcases h with rfl | rfl <;> decide

/-- `__osip_ict_init`; timer A runs from here on. -/
def ictInit (now : Int) (invite : Message) : Option Ict := do
  let proto ← topProtocol invite
  let req_uri ← invite.req_uri
  some
    { timer_a_length := DEFAULT_T1
      timer_a_start := startTimer now DEFAULT_T1
      timer_b_length := 64 * DEFAULT_T1
      timer_b_start := startTimer now (64 * DEFAULT_T1)
      timer_d_length :=
        if overReliable proto then 0
        else if 64 * DEFAULT_T1 < 32000 then 32000
        else 64 * DEFAULT_T1
      timer_d_start := none
      destination := (nextHop invite.routes req_uri).1
      port := (nextHop invite.routes req_uri).2 }

/-- `osip_create_transaction` for an outgoing INVITE. -/
def createIct (now : Int) (transactionid : Nat) (sip : Message) : Option IctTransaction := do
  let cseq ← createTransaction sip
  if cseq.method = str "INVITE" then transactionInit .preCalling (ictInit now) transactionid sip
  else none

theorem createIct_spec {now : Int} {id : Nat} {sip : Message} {t : IctTransaction}
    (h : createIct now id sip = some t) :
    transactionInit .preCalling (ictInit now) id sip = some t := by
  simp only [createIct, Option.bind_eq_bind, Option.bind_eq_some_iff] at h
  obtain ⟨cseq, -, h⟩ := h
  split at h
  · exact h
  · exact nomatch h

def ictHandleTransportError (ict : IctTransaction) (err : Int) : IctTransaction × List Output :=
  ({ ict with state := .terminated }, [.transportError .ict err, .kill .ict])

/-- The call of `cb_send_message` for a message of a client. -/
def ictSend (ict : IctTransaction) (sip : Message) : Output :=
  .send sip (some ict.context.destination) ict.context.port

/-- `ict_snd_invite` and `osip_ict_timeout_a_event` from the call of `cb_send_message` to the end
of the look at the transport: over a reliable one timer A is stopped once the message is sent. -/
def ictSendInvite (env : Env) (ict : IctTransaction) (invite : Message) :
    Except Int IctTransaction :=
  if env.sent < 0 then .error env.sent
  else if env.sent = 0 then
    match invite.vias with
    | [] => .error (-1)
    | via :: _ =>
      match via.protocol with
      | none => .error 0
      | some proto =>
        if overReliable proto then
          .ok
            { ict with
              context := { ict.context with timer_a_length := -1, timer_a_start := none } }
        else .ok ict
  else .ok ict

def ictSndInvite (env : Env) (ict : IctTransaction) (sip : Message) :
    IctTransaction × List Output :=
  let ict := { ict with orig_request := some sip }
  match ictSendInvite env ict sip with
  | .error err =>
    let (ict', os) := ictHandleTransportError ict err
    (ict', ictSend ict sip :: os)
  | .ok ict' =>
    ({ ict' with state := .calling }, [ictSend ict sip, .callback .ictInviteSent (some sip)])

/-- `osip_ict_timeout_a_event`. -/
def ictTimeoutA (env : Env) (ict : IctTransaction) : IctTransaction × List Output :=
  match ict.orig_request with
  | none => (ict, [])
  | some invite =>
    let length := ict.context.timer_a_length * 2
    let ict :=
      { ict with
        context :=
          { ict.context with
            timer_a_length := length
            timer_a_start := startTimer env.now length } }
    match ictSendInvite env ict invite with
    | .error err =>
      let (ict', os) := ictHandleTransportError ict err
      (ict', ictSend ict invite :: os)
    | .ok ict' =>
      if env.sent = 0 then
        (ict', [ictSend ict invite, .callback .ictInviteSentAgain (some invite)])
      else (ict', [ictSend ict invite])

/-- `osip_ict_timeout_b_event`: nobody answered. -/
def ictTimeoutB (_env : Env) (ict : IctTransaction) : IctTransaction × List Output :=
  ({ ict with
      context := { ict.context with timer_b_length := -1, timer_b_start := none }
      state := .terminated },
    [.callback .ictStatusTimeout none, .kill .ict])

def ictRcv1xx (_env : Env) (ict : IctTransaction) (sip : Message) :
    IctTransaction × List Output :=
  ({ ict with last_response := some sip, state := .proceeding },
    [.callback .ictStatus1xxReceived (some sip)])

/-- `ict_rcv_2xx`: the ACK of a success is the user's own affair. -/
def ictRcv2xx (_env : Env) (ict : IctTransaction) (sip : Message) :
    IctTransaction × List Output :=
  ({ ict with last_response := some sip, state := .terminated },
    [.callback .ictStatus2xxReceived (some sip), .kill .ict])

/-- `ict_create_ack`; `none` where a header that it copies is missing. -/
def ictCreateAck (orig_request response : Message) : Option Message := do
  let sipFrom ← response.sipFrom
  let sipTo ← response.sipTo
  let call_id ← response.call_id
  let cseq ← response.cseq
  let req_uri ← orig_request.req_uri
  let via ← orig_request.vias.head?.bind viaClone
  let authorized := response.status_code ≠ 401 ∧ response.status_code ≠ 407
  some
    { sip_version := orig_request.sip_version
      req_uri := some req_uri
      sip_method := some (str "ACK")
      status_code := 0
      vias := [via]
      sipFrom := some sipFrom
      sipTo := some sipTo
      call_id := some call_id
      cseq := some { cseq with method := str "ACK" }
      routes := orig_request.routes
      authorizations := if authorized then orig_request.authorizations else []
      proxy_authorizations := if authorized then orig_request.proxy_authorizations else [] }

/-- The callback that `ict_rcv_3456xx` chooses by the status code. -/
def ictReceivedCallback (sip : Message) : MessageCallback :=
  if sip.isStatus 3 then .ictStatus3xxReceived
  else if sip.isStatus 4 then .ictStatus4xxReceived
  else if sip.isStatus 5 then .ictStatus5xxReceived
  else .ictStatus6xxReceived

/-- `ict_rcv_3456xx`; its rows lead from CALLING and PROCEEDING, where no final response has come
yet. -/
def ictRcv3456xx (env : Env) (ict : IctTransaction) (sip : Message) :
    IctTransaction × List Output :=
  let ict := { ict with last_response := some sip }
  match ict.orig_request.bind fun request => ictCreateAck request sip with
  | none => ({ ict with ack := none, state := .terminated }, [.kill .ict])
  | some ack =>
    let ict := { ict with ack := some ack }
    if env.sent ≠ 0 then
      let (ict', os) := ictHandleTransportError ict env.sent
      (ict', ictSend ict ack :: os)
    else
      ({ ict with
          context :=
            { ict.context with timer_d_start := startTimer env.now ict.context.timer_d_length }
          state := .completed },
        [ictSend ict ack, .callback (ictReceivedCallback sip) (some sip),
          .callback .ictAckSent (some ack)])

/-- `osip_ict_timeout_d_event`. -/
def ictTimeoutD (_env : Env) (ict : IctTransaction) : IctTransaction × List Output :=
  ({ ict with
      context := { ict.context with timer_d_length := -1, timer_d_start := none }
      state := .terminated },
    [.kill .ict])

def ictRetransmitAck (env : Env) (ict : IctTransaction) (sip : Message) :
    IctTransaction × List Output :=
  let again := Output.callback .ictStatus3456xxReceivedAgain (some sip)
  match ict.ack with
  | none => (ict, [again])
  | some ack =>
    if env.sent = 0 then
      (ict, [again, ictSend ict ack, .callback .ictAckSentAgain (some ack)])
    else
      let (ict', os) := ictHandleTransportError ict env.sent
      (ict', again :: ictSend ict ack :: os)

def ictTransition : List (Base.Transition IctState EventType (Method Ict IctState)) :=
  [⟨.preCalling, .sndReqinvite, .message ictSndInvite⟩,
    ⟨.calling, .timeout .a, .timeout ictTimeoutA⟩,
    ⟨.calling, .timeout .b, .timeout ictTimeoutB⟩,
    ⟨.calling, .rcvStatus1xx, .message ictRcv1xx⟩,
    ⟨.calling, .rcvStatus2xx, .message ictRcv2xx⟩,
    ⟨.calling, .rcvStatus3456xx, .message ictRcv3456xx⟩,
    ⟨.proceeding, .rcvStatus1xx, .message ictRcv1xx⟩,
    ⟨.proceeding, .rcvStatus2xx, .message ictRcv2xx⟩,
    ⟨.proceeding, .rcvStatus3456xx, .message ictRcv3456xx⟩,
    ⟨.completed, .rcvStatus3456xx, .message ictRetransmitAck⟩,
    ⟨.completed, .timeout .d, .timeout ictTimeoutD⟩]

/-- The body of the loop of `osip_timers_ict_execute`: no timer while an event is pending, else B,
else A, else D. -/
def ictDueTimer (ict : IctTransaction) (clock : Nat → Int) : Option Timer :=
  if ict.transactionff ≠ [] then none
  else if needTimerXEvent ict.context.timer_b_start (ict.state = .calling) (clock 0) then some .b
  else if needTimerXEvent ict.context.timer_a_start (ict.state = .calling) (clock 1) then some .a
  else if needTimerXEvent ict.context.timer_d_start (ict.state = .completed) (clock 2) then some .d
  else none

def ictFsm : Machine Ict IctState where
  transitions := ictTransition
  dueTimer := ictDueTimer

theorem ictCreateAck_isAck {request response ack : Message}
    (h : ictCreateAck request response = some ack) : ack.isAck = true := by
  simp only [ictCreateAck, Option.bind_eq_bind, Option.bind_eq_some_iff, Option.some.injEq] at h
  obtain ⟨_, _, _, _, _, _, _, _, _, _, _, _, rfl⟩ := h
  simp [Message.isAck, Message.isMethod, Message.isRequest]

theorem ictSendInvite_frame {env : Env} {ict ict' : IctTransaction} {invite : Message}
    (h : ictSendInvite env ict invite = .ok ict') :
    ict'.orig_request = ict.orig_request ∧ ict'.ack = ict.ack ∧ ict'.state = ict.state ∧
      ict'.transactionff = ict.transactionff := by
  rw [ictSendInvite] at h
  split at h
  · exact nomatch h
  · split at h
    · split at h
      · exact nomatch h
      · split at h
        · exact nomatch h
        · split at h <;> cases h <;> exact ⟨rfl, rfl, rfl, rfl⟩
    · cases h
      exact ⟨rfl, rfl, rfl, rfl⟩

/-- What every method of `ict_fsm` does where it is called, and a useless event, every event
does. -/
theorem ict_rule
    {P : Env → IctTransaction → Event → IctTransaction × List Output → Prop}
    (huseless : ∀ env t evt, P env t evt (t, []))
    (hsndInvite : ∀ (env : Env) (t : IctTransaction) (sip : Message), t.state = .preCalling →
      sip.isRequest = true → sip.isInvite = true →
      P env t (.outgoing sip) (ictSndInvite env t sip))
    (htimeoutA : ∀ (env : Env) (t : IctTransaction), t.state = .calling →
      P env t (.timer .a) (ictTimeoutA env t))
    (htimeoutB : ∀ (env : Env) (t : IctTransaction), t.state = .calling →
      P env t (.timer .b) (ictTimeoutB env t))
    (hrcv1xx : ∀ (env : Env) (t : IctTransaction) (sip : Message), t.state.Waiting →
      sip.isRequest = false → sip.is1xx = true → P env t (.incoming sip) (ictRcv1xx env t sip))
    (hrcv2xx : ∀ (env : Env) (t : IctTransaction) (sip : Message), t.state.Waiting →
      sip.isRequest = false → sip.is1xx = false → sip.is2xx = true →
      P env t (.incoming sip) (ictRcv2xx env t sip))
    (hrcv3456xx : ∀ (env : Env) (t : IctTransaction) (sip : Message), t.state.Waiting →
      sip.isRequest = false → sip.is1xx = false → sip.is2xx = false →
      P env t (.incoming sip) (ictRcv3456xx env t sip))
    (hretransmitAck : ∀ (env : Env) (t : IctTransaction) (sip : Message), t.state = .completed →
      sip.isRequest = false → sip.is1xx = false → sip.is2xx = false →
      P env t (.incoming sip) (ictRetransmitAck env t sip))
    (htimeoutD : ∀ (env : Env) (t : IctTransaction), t.state = .completed →
      P env t (.timer .d) (ictTimeoutD env t))
    (env : Env) (t : IctTransaction) (evt : Event) :
    P env t evt (transactionExecute ictFsm env t evt) := by
  refine execute_rule huseless ?_ env t evt
  simp only [ictFsm, ictTransition, List.forall_mem_cons]
  refine ⟨?_, ?_, ?_, ?_, ?_, ?_, ?_, ?_, ?_, ?_, ?_, by simp⟩
  · rintro env t _ ⟨sip, rfl, hr, hi⟩ h
    exact hsndInvite env t sip h hr hi
  · rintro env t _ rfl h
    exact htimeoutA env t h
  · rintro env t _ rfl h
    exact htimeoutB env t h
  · rintro env t _ ⟨sip, rfl, hr, h1⟩ h
    exact hrcv1xx env t sip (.inl h) hr h1
  · rintro env t _ ⟨sip, rfl, hr, h1, h2⟩ h
    exact hrcv2xx env t sip (.inl h) hr h1 h2
  · rintro env t _ ⟨sip, rfl, hr, h1, h2⟩ h
    exact hrcv3456xx env t sip (.inl h) hr h1 h2
  · rintro env t _ ⟨sip, rfl, hr, h1⟩ h
    exact hrcv1xx env t sip (.inr h) hr h1
  · rintro env t _ ⟨sip, rfl, hr, h1, h2⟩ h
    exact hrcv2xx env t sip (.inr h) hr h1 h2
  · rintro env t _ ⟨sip, rfl, hr, h1, h2⟩ h
    exact hrcv3456xx env t sip (.inr h) hr h1 h2
  · rintro env t _ ⟨sip, rfl, hr, h1, h2⟩ h
    exact hretransmitAck env t sip h hr h1 h2
  · rintro env t _ rfl h
    exact htimeoutD env t h

end GB28181.Osip
