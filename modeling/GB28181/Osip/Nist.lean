import GB28181.Osip.Transaction

/-!
# The server of a request other than INVITE

From `nist.c`, `nist_fsm.c` and `__osip_transaction_snd_xxx` of `osip_transaction.c`.

* `transactionSnd` — `__osip_transaction_snd_xxx`, for both kinds of server;
* `Nist`, `NistState`, `nistInit` — `osip_nist_t`, its states and `__osip_nist_init`;
* `createNist` — `osip_create_transaction` for such a request;
* `nistRcvRequest`, `nistSnd1xx`, `nistSnd23456xx`, `nistTimeoutJ` — the methods of `nist_fsm.c`;
* `nistFsm` — `nist_fsm` with the timer of `osip_timers_nist_execute`.

Principal results: `createNist_spec`, `nist_rule` (what its methods do, the machine does).
-/

set_option autoImplicit false

namespace GB28181.Osip

open GB28181.Base

/-- `__osip_transaction_snd_xxx`: the message that is sent, if any, and the result. -/
def transactionSnd (env : Env) (msg : Message) : List Output × Int :=
  match responseDestination msg with
  | none => ([], -5)
  | some (host, port) => ([.send msg host port], env.sent)

theorem transactionSnd_cases (env : Env) (msg : Message) :
    transactionSnd env msg = ([], -5) ∨
      ∃ host port, transactionSnd env msg = ([.send msg host port], env.sent) := by
  rw [transactionSnd]
  cases responseDestination msg with
  | none => exact .inl rfl
  | some dest => exact .inr ⟨dest.1, dest.2, rfl⟩

/-- `osip_nist_t`. -/
structure Nist where
  timer_j_length : Int
  timer_j_start : Option Int
  deriving DecidableEq, Repr

inductive NistState where
  | preTrying | trying | proceeding | completed | terminated
  deriving DecidableEq, Repr

abbrev NistTransaction := Transaction Nist NistState

/-- The states in which the user may respond. -/
def NistState.Open (state : NistState) : Prop := state = .trying ∨ state = .proceeding

theorem NistState.Open.live {state : NistState} (h : state.Open) : state ≠ .terminated := by
  rcases h with rfl | rfl <;> decide

theorem NistState.Open.ne_completed {state : NistState} (h : state.Open) :
    state ≠ .completed := by
  rcases h with rfl | rfl <;> decide

/-- `__osip_nist_init`. -/
def nistInit (request : Message) : Option Nist := do
  let proto ← topProtocol request
  some
    { timer_j_length := if overReliable proto then 0 else 64 * DEFAULT_T1
      timer_j_start := none }

/-- `osip_create_transaction` for an incoming request other than INVITE. -/
def createNist (transactionid : Nat) (sip : Message) : Option NistTransaction := do
  let cseq ← createTransaction sip
  if cseq.method = str "INVITE" then none
  else transactionInit .preTrying nistInit transactionid sip

theorem createNist_spec {id : Nat} {sip : Message} {t : NistTransaction}
    (h : createNist id sip = some t) : transactionInit .preTrying nistInit id sip = some t := by
  simp only [createNist, Option.bind_eq_bind, Option.bind_eq_some_iff] at h
  obtain ⟨cseq, -, h⟩ := h
  split at h
  · exact nomatch h
  · exact h

def nistHandleTransportError (nist : NistTransaction) (err : Int) :
    NistTransaction × List Output :=
  ({ nist with state := .terminated }, [.transportError .nist err, .kill .nist])

/-- The callback that announces a request. -/
def nistReceivedCallback (sip : Message) : MessageCallback :=
  if sip.isMethod (str "REGISTER") then .nistRegisterReceived
  else if sip.isMethod (str "BYE") then .nistByeReceived
  else if sip.isMethod (str "OPTIONS") then .nistOptionsReceived
  else if sip.isMethod (str "INFO") then .nistInfoReceived
  else if sip.isMethod (str "CANCEL") then .nistCancelReceived
  else if sip.isMethod (str "NOTIFY") then .nistNotifyReceived
  else if sip.isMethod (str "SUBSCRIBE") then .nistSubscribeReceived
  else .nistUnknownRequestReceived

/-- The callback for a response that was sent once more. -/
def nistSentAgainCallback (response : Message) : MessageCallback :=
  if response.is1xx then .nistStatus1xxSent
  else if response.is2xx then .nistStatus2xxSentAgain
  else .nistStatus3456xxSentAgain

/-- `nist_rcv_request`: a new request is announced, a retransmission is answered with the last
response. -/
def nistRcvRequest (env : Env) (nist : NistTransaction) (sip : Message) :
    NistTransaction × List Output :=
  if nist.state = .preTrying then
    ({ nist with orig_request := some sip, state := .trying },
      [.callback (nistReceivedCallback sip) (some sip)])
  else
    let again := Output.callback .nistRequestReceivedAgain nist.orig_request
    match nist.last_response with
    | none => (nist, [again])
    | some response =>
      let (sent, i) := transactionSnd env response
      if i ≠ 0 then
        let (nist, os) := nistHandleTransportError nist i
        (nist, again :: sent ++ os)
      else
        (nist, again :: sent ++ [.callback (nistSentAgainCallback response) (some response)])

def nistSnd1xx (env : Env) (nist : NistTransaction) (sip : Message) :
    NistTransaction × List Output :=
  let nist := { nist with last_response := some sip }
  let (sent, i) := transactionSnd env sip
  if i ≠ 0 then
    let (nist, os) := nistHandleTransportError nist i
    (nist, sent ++ os)
  else
    ({ nist with state := .proceeding }, sent ++ [.callback .nistStatus1xxSent (some sip)])

/-- The callback that `nist_snd_23456xx` chooses by the status code. -/
def nistSentCallback (sip : Message) : MessageCallback :=
  if sip.is2xx then .nistStatus2xxSent
  else if sip.isStatus 3 then .nistStatus3xxSent
  else if sip.isStatus 4 then .nistStatus4xxSent
  else if sip.isStatus 5 then .nistStatus5xxSent
  else .nistStatus6xxSent

def nistSnd23456xx (env : Env) (nist : NistTransaction) (sip : Message) :
    NistTransaction × List Output :=
  let nist := { nist with last_response := some sip }
  let (sent, i) := transactionSnd env sip
  if i ≠ 0 then
    let (nist, os) := nistHandleTransportError nist i
    (nist, sent ++ os)
  else
    let context :=
      if nist.state = .completed then nist.context
      else { nist.context with timer_j_start := startTimer env.now nist.context.timer_j_length }
    ({ nist with context := context, state := .completed },
      sent ++ [.callback (nistSentCallback sip) (some sip)])

/-- `osip_nist_timeout_j_event`. -/
def nistTimeoutJ (_env : Env) (nist : NistTransaction) : NistTransaction × List Output :=
  ({ nist with
      context := { nist.context with timer_j_length := -1, timer_j_start := none }
      state := .terminated },
    [.kill .nist])

def nistTransition : List (Base.Transition NistState EventType (Method Nist NistState)) :=
  [⟨.preTrying, .rcvRequest, .message nistRcvRequest⟩,
    ⟨.trying, .sndStatus1xx, .message nistSnd1xx⟩,
    ⟨.trying, .sndStatus2xx, .message nistSnd23456xx⟩,
    ⟨.trying, .sndStatus3456xx, .message nistSnd23456xx⟩,
    ⟨.proceeding, .sndStatus1xx, .message nistSnd1xx⟩,
    ⟨.proceeding, .sndStatus2xx, .message nistSnd23456xx⟩,
    ⟨.proceeding, .sndStatus3456xx, .message nistSnd23456xx⟩,
    ⟨.proceeding, .rcvRequest, .message nistRcvRequest⟩,
    ⟨.completed, .timeout .j, .timeout nistTimeoutJ⟩,
    ⟨.completed, .rcvRequest, .message nistRcvRequest⟩]

/-- The body of the loop of `osip_timers_nist_execute`. -/
def nistDueTimer (nist : NistTransaction) (clock : Nat → Int) : Option Timer :=
  if needTimerXEvent nist.context.timer_j_start (nist.state = .completed) (clock 0) then some .j
  else none

def nistFsm : Machine Nist NistState where
  transitions := nistTransition
  dueTimer := nistDueTimer

/-- What every method of `nist_fsm` does where it is called, and a useless event, every event
does. -/
theorem nist_rule
    {P : Env → NistTransaction → Event → NistTransaction × List Output → Prop}
    (huseless : ∀ env t evt, P env t evt (t, []))
    (hrcvRequest : ∀ env t sip,
      t.state = .preTrying ∨ t.state = .proceeding ∨ t.state = .completed →
      sip.isRequest = true → sip.isAck = false →
      P env t (.incoming sip) (nistRcvRequest env t sip))
    (hsnd1xx : ∀ env t sip, t.state.Open → sip.isRequest = false → sip.is1xx = true →
      P env t (.outgoing sip) (nistSnd1xx env t sip))
    (hsnd23456xx : ∀ env t sip, t.state.Open → sip.isRequest = false → sip.is1xx = false →
      P env t (.outgoing sip) (nistSnd23456xx env t sip))
    (htimeoutJ : ∀ env t, t.state = .completed → P env t (.timer .j) (nistTimeoutJ env t))
    (env : Env) (t : NistTransaction) (evt : Event) :
    P env t evt (transactionExecute nistFsm env t evt) := by
  refine execute_rule huseless ?_ env t evt
  simp only [nistFsm, nistTransition, List.forall_mem_cons]
  refine ⟨?_, ?_, ?_, ?_, ?_, ?_, ?_, ?_, ?_, ?_, by simp⟩
  · rintro env t _ ⟨sip, rfl, hr, -, ha⟩ h
    exact hrcvRequest env t sip (.inl h) hr ha
  · rintro env t _ ⟨sip, rfl, hr, h1⟩ h
    exact hsnd1xx env t sip (.inl h) hr h1
  · rintro env t _ ⟨sip, rfl, hr, h1, -⟩ h
    exact hsnd23456xx env t sip (.inl h) hr h1
  · rintro env t _ ⟨sip, rfl, hr, h1, -⟩ h
    exact hsnd23456xx env t sip (.inl h) hr h1
  · rintro env t _ ⟨sip, rfl, hr, h1⟩ h
    exact hsnd1xx env t sip (.inr h) hr h1
  · rintro env t _ ⟨sip, rfl, hr, h1, -⟩ h
    exact hsnd23456xx env t sip (.inr h) hr h1
  · rintro env t _ ⟨sip, rfl, hr, h1, -⟩ h
    exact hsnd23456xx env t sip (.inr h) hr h1
  · rintro env t _ ⟨sip, rfl, hr, -, ha⟩ h
    exact hrcvRequest env t sip (.inr (.inl h)) hr ha
  · rintro env t _ rfl h
    exact htimeoutJ env t h
  · rintro env t _ ⟨sip, rfl, hr, -, ha⟩ h
    exact hrcvRequest env t sip (.inr (.inr h)) hr ha

end GB28181.Osip
