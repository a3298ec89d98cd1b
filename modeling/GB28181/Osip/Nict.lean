import GB28181.Osip.Transaction

/-!
# The client of a request other than INVITE

From `nict.c` and `nict_fsm.c`.

* `Nict`, `NictState` — `osip_nict_t` and the states of its transaction;
* `nictInit`, `createNict` — `__osip_nict_init`, and `osip_create_transaction` for such a request;
* `nictSndRequest`, `nictTimeoutE`, `nictTimeoutF`, `nictTimeoutK`, `nictRcv1xx`,
  `nictRcv23456xx` — the methods of `nict_fsm.c`;
* `nictFsm` — `nict_fsm` with the timers of `osip_timers_nict_execute`.

Principal results: `createNict_spec`, `nict_rule` (what its methods do, the machine does).
-/

set_option autoImplicit false

namespace GB28181.Osip

open GB28181.Base

/-- `osip_nict_t`; a start of `-1` is no start. -/
structure Nict where
  timer_e_length : Int
  timer_e_start : Option Int
  timer_f_length : Int
  timer_f_start : Option Int
  timer_k_length : Int
  timer_k_start : Option Int
  destination : CStr
  port : Int
  deriving DecidableEq, Repr

inductive NictState where
  | preTrying | trying | proceeding | completed | terminated
  deriving DecidableEq, Repr

abbrev NictTransaction := Transaction Nict NictState

/-- The states in which a response is awaited. -/
def NictState.Waiting (state : NictState) : Prop := state = .trying ∨ state = .proceeding

theorem NictState.Waiting.live {state : NictState} (h : state.Waiting) : state ≠ .terminated := by
  rcases h with rfl | rfl <;> decide

theorem NictState.Waiting.ne_completed {state : NictState} (h : state.Waiting) :
    state ≠ .completed := by
  rcases h with rfl | rfl <;> decide

/-- `__osip_nict_init`. -/
def nictInit (now : Int) (request : Message) : Option Nict := do
  let proto ← topProtocol request
  let req_uri ← request.req_uri
  some
    { timer_e_length := DEFAULT_T1
      timer_e_start := none
      timer_f_length := 64 * DEFAULT_T1
      timer_f_start := startTimer now (64 * DEFAULT_T1)
      timer_k_length := if overReliable proto then 0 else DEFAULT_T4
      timer_k_start := none
      destination := (nextHop request.routes req_uri).1
      port := (nextHop request.routes req_uri).2 }

/-- `osip_create_transaction` for an outgoing request other than INVITE. -/
def createNict (now : Int) (transactionid : Nat) (sip : Message) : Option NictTransaction := do
  let cseq ← createTransaction sip
  if cseq.method = str "INVITE" then none
  else transactionInit .preTrying (nictInit now) transactionid sip

theorem createNict_spec {now : Int} {id : Nat} {sip : Message} {t : NictTransaction}
    (h : createNict now id sip = some t) :
    transactionInit .preTrying (nictInit now) id sip = some t := by
  simp only [createNict, Option.bind_eq_bind, Option.bind_eq_some_iff] at h
  obtain ⟨cseq, -, h⟩ := h
  split at h
  · exact nomatch h
  · exact h

def nictHandleTransportError (nict : NictTransaction) (err : Int) :
    NictTransaction × List Output :=
  ({ nict with state := .terminated }, [.transportError .nict err, .kill .nict])

/-- The call of `cb_send_message` for a message of a client. -/
def nictSend (nict : NictTransaction) (sip : Message) : Output :=
  .send sip (some nict.context.destination) nict.context.port

/-- The callback that `nict_snd_request` chooses by the method. -/
def nictSentCallback (sip : Message) : MessageCallback :=
  if sip.isMethod (str "REGISTER") then .nictRegisterSent
  else if sip.isMethod (str "BYE") then .nictByeSent
  else if sip.isMethod (str "OPTIONS") then .nictOptionsSent
  else if sip.isMethod (str "INFO") then .nictInfoSent
  else if sip.isMethod (str "CANCEL") then .nictCancelSent
  else if sip.isMethod (str "NOTIFY") then .nictNotifySent
  else if sip.isMethod (str "SUBSCRIBE") then .nictSubscribeSent
  else .nictUnknownRequestSent

def nictSndRequest (env : Env) (nict : NictTransaction) (sip : Message) :
    NictTransaction × List Output :=
  let nict := { nict with orig_request := some sip }
  let sent := nictSend nict sip
  if env.sent < 0 then
    let (nict, os) := nictHandleTransportError nict env.sent
    (nict, sent :: os)
  else
    let callback := Output.callback (nictSentCallback sip) (some sip)
    match topProtocol sip with
    | none =>
      let (nict, os) := nictHandleTransportError nict (-1)
      (nict, sent :: callback :: os)
    | some proto =>
      -- over a reliable transport E only follows the progress of a connection
      let context :=
        if overReliable proto then
          if env.sent = 0 then { nict.context with timer_e_length := -1, timer_e_start := none }
          else { nict.context with timer_e_length := DEFAULT_T1_TCP_PROGRESS }
        else nict.context
      let context :=
        if 0 < context.timer_e_length then
          { context with timer_e_start := startTimer env.now context.timer_e_length }
        else context
      ({ nict with context := context, state := .trying }, [sent, callback])

/-- The next length of timer E in `osip_nict_timeout_e_event`. -/
def nextELength (state : NictState) (length : Int) : Int :=
  if state = .trying then
    let length := if length < DEFAULT_T1 then length + DEFAULT_T1_TCP_PROGRESS else length * 2
    if DEFAULT_T2 < length then DEFAULT_T2 else length
  else DEFAULT_T2

/-- `osip_nict_timeout_e_event`. -/
def nictTimeoutE (env : Env) (nict : NictTransaction) : NictTransaction × List Output :=
  match nict.orig_request with
  | none => (nict, [])
  | some request =>
    let length := nextELength nict.state nict.context.timer_e_length
    let nict :=
      { nict with
        context :=
          { nict.context with
            timer_e_length := length
            timer_e_start := startTimer env.now length } }
    let sent := nictSend nict request
    if env.sent < 0 then
      let (nict, os) := nictHandleTransportError nict env.sent
      (nict, sent :: os)
    else if env.sent = 0 then
      match topProtocol request with
      | none =>
        let (nict, os) := nictHandleTransportError nict (-1)
        (nict, sent :: os)
      | some proto =>
        let context :=
          if overReliable proto then
            { nict.context with timer_e_length := -1, timer_e_start := none }
          else nict.context
        ({ nict with context := context }, [sent, .callback .nictRequestSentAgain (some request)])
    else (nict, [sent])

/-- `osip_nict_timeout_f_event`: nobody answered. -/
def nictTimeoutF (_env : Env) (nict : NictTransaction) : NictTransaction × List Output :=
  ({ nict with
      context := { nict.context with timer_f_length := -1, timer_f_start := none }
      state := .terminated },
    [.callback .nictStatusTimeout none, .kill .nict])

/-- `osip_nict_timeout_k_event`. -/
def nictTimeoutK (_env : Env) (nict : NictTransaction) : NictTransaction × List Output :=
  ({ nict with
      context := { nict.context with timer_k_length := -1, timer_k_start := none }
      state := .terminated },
    [.kill .nict])

def nictRcv1xx (env : Env) (nict : NictTransaction) (sip : Message) :
    NictTransaction × List Output :=
  let context :=
    if 0 < nict.context.timer_e_length then
      { nict.context with
        timer_e_length := DEFAULT_T2
        timer_e_start := startTimer env.now DEFAULT_T2 }
    else nict.context
  ({ nict with last_response := some sip, context := context, state := .proceeding },
    [.callback .nictStatus1xxReceived (some sip)])

/-- The callback that `nict_rcv_23456xx` chooses by the status code. -/
def nictReceivedCallback (sip : Message) : MessageCallback :=
  if sip.is2xx then .nictStatus2xxReceived
  else if sip.isStatus 3 then .nictStatus3xxReceived
  else if sip.isStatus 4 then .nictStatus4xxReceived
  else if sip.isStatus 5 then .nictStatus5xxReceived
  else .nictStatus6xxReceived

def nictRcv23456xx (env : Env) (nict : NictTransaction) (sip : Message) :
    NictTransaction × List Output :=
  let context :=
    if nict.state = .completed then nict.context
    else { nict.context with timer_k_start := startTimer env.now nict.context.timer_k_length }
  ({ nict with last_response := some sip, context := context, state := .completed },
    [.callback (nictReceivedCallback sip) (some sip)])

def nictTransition : List (Base.Transition NictState EventType (Method Nict NictState)) :=
  [⟨.preTrying, .sndRequest, .message nictSndRequest⟩,
    ⟨.trying, .timeout .f, .timeout nictTimeoutF⟩,
    ⟨.trying, .timeout .e, .timeout nictTimeoutE⟩,
    ⟨.trying, .rcvStatus1xx, .message nictRcv1xx⟩,
    ⟨.trying, .rcvStatus2xx, .message nictRcv23456xx⟩,
    ⟨.trying, .rcvStatus3456xx, .message nictRcv23456xx⟩,
    ⟨.proceeding, .timeout .f, .timeout nictTimeoutF⟩,
    ⟨.proceeding, .timeout .e, .timeout nictTimeoutE⟩,
    ⟨.proceeding, .rcvStatus1xx, .message nictRcv1xx⟩,
    ⟨.proceeding, .rcvStatus2xx, .message nictRcv23456xx⟩,
    ⟨.proceeding, .rcvStatus3456xx, .message nictRcv23456xx⟩,
    ⟨.completed, .timeout .k, .timeout nictTimeoutK⟩]

/-- The body of the loop of `osip_timers_nict_execute`: K, else F, else E. -/
def nictDueTimer (nict : NictTransaction) (clock : Nat → Int) : Option Timer :=
  let waiting := nict.state = .proceeding || nict.state = .trying
  if needTimerXEvent nict.context.timer_k_start (nict.state = .completed) (clock 0) then some .k
  else if needTimerXEvent nict.context.timer_f_start waiting (clock 1) then some .f
  else if needTimerXEvent nict.context.timer_e_start waiting (clock 2) then some .e
  else none

def nictFsm : Machine Nict NictState where
  transitions := nictTransition
  dueTimer := nictDueTimer

/-- What every method of `nict_fsm` does where it is called, and a useless event, every event
does. -/
theorem nict_rule
    {P : Env → NictTransaction → Event → NictTransaction × List Output → Prop}
    (huseless : ∀ env t evt, P env t evt (t, []))
    (hsndRequest : ∀ env t sip, t.state = .preTrying → sip.isRequest = true → sip.isAck = false →
      P env t (.outgoing sip) (nictSndRequest env t sip))
    (htimeoutE : ∀ env t, t.state.Waiting → P env t (.timer .e) (nictTimeoutE env t))
    (htimeoutF : ∀ env t, t.state.Waiting → P env t (.timer .f) (nictTimeoutF env t))
    (htimeoutK : ∀ env t, t.state = .completed → P env t (.timer .k) (nictTimeoutK env t))
    (hrcv1xx : ∀ env t sip, t.state.Waiting → sip.isRequest = false → sip.is1xx = true →
      P env t (.incoming sip) (nictRcv1xx env t sip))
    (hrcv23456xx : ∀ env t sip, t.state.Waiting → sip.isRequest = false → sip.is1xx = false →
      P env t (.incoming sip) (nictRcv23456xx env t sip))
    (env : Env) (t : NictTransaction) (evt : Event) :
    P env t evt (transactionExecute nictFsm env t evt) := by
  refine execute_rule huseless ?_ env t evt
  simp only [nictFsm, nictTransition, List.forall_mem_cons]
  refine ⟨?_, ?_, ?_, ?_, ?_, ?_, ?_, ?_, ?_, ?_, ?_, ?_, by simp⟩
  · rintro env t _ ⟨sip, rfl, hr, -, ha⟩ h
    exact hsndRequest env t sip h hr ha
  · rintro env t _ rfl h
    exact htimeoutF env t (.inl h)
  · rintro env t _ rfl h
    exact htimeoutE env t (.inl h)
  · rintro env t _ ⟨sip, rfl, hr, h1⟩ h
    exact hrcv1xx env t sip (.inl h) hr h1
  · rintro env t _ ⟨sip, rfl, hr, h1, -⟩ h
    exact hrcv23456xx env t sip (.inl h) hr h1
  · rintro env t _ ⟨sip, rfl, hr, h1, -⟩ h
    exact hrcv23456xx env t sip (.inl h) hr h1
  · rintro env t _ rfl h
    exact htimeoutF env t (.inr h)
  · rintro env t _ rfl h
    exact htimeoutE env t (.inr h)
  · rintro env t _ ⟨sip, rfl, hr, h1⟩ h
    exact hrcv1xx env t sip (.inr h) hr h1
  · rintro env t _ ⟨sip, rfl, hr, h1, -⟩ h
    exact hrcv23456xx env t sip (.inr h) hr h1
  · rintro env t _ ⟨sip, rfl, hr, h1, -⟩ h
    exact hrcv23456xx env t sip (.inr h) hr h1
  · rintro env t _ rfl h
    exact htimeoutK env t h

/-! ## A request and its client -/

def keepalive : Message where
  sip_version := str "SIP/2.0"
  req_uri := some { host := str "10.0.0.1" }
  sip_method := some (str "MESSAGE")
  status_code := 0
  vias :=
    [{ version := some (str "2.0")
       protocol := some (str "UDP")
       host := some (str "10.0.0.2")
       via_params := [{ gname := str "branch", gvalue := some (str "z9hG4bK1") }] }]
  sipFrom := some { url := some { host := str "10.0.0.2" } }
  sipTo := some { url := some { host := str "10.0.0.1" } }
  call_id := some { number := str "1" }
  cseq := some { number := str "20", method := str "MESSAGE" }

def keepaliveOk : Message := { keepalive with sip_method := none, status_code := 200 }

def keepaliveClient : NictTransaction := (createNict 0 1 keepalive).get (by decide +kernel)

theorem keepaliveClient_created : createNict 0 1 keepalive = some keepaliveClient :=
  (Option.some_get _).symm

end GB28181.Osip
