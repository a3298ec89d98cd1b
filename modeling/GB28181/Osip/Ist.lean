import GB28181.Osip.Nist

/-!
# The server of an INVITE

From `ist.c` and `ist_fsm.c`.

* `Ist`, `IstState`, `istInit` — `osip_ist_t`, its states and `__osip_ist_init`;
* `createIst` — `osip_create_transaction` for an INVITE;
* `istRcvInvite`, `istTimeoutG`, `istTimeoutH`, `istTimeoutI`, `istSnd1xx`, `istSnd2xx`,
  `istSnd3456xx`, `istRcvAck` — the methods of `ist_fsm.c`;
* `istFsm` — `ist_fsm` with the timers of `osip_timers_ist_execute`.

Principal results: `createIst_spec`, `ist_rule` (what its methods do, the machine does).
-/

set_option autoImplicit false

namespace GB28181.Osip

open GB28181.Base

/-- `osip_ist_t`. -/
structure Ist where
  timer_g_length : Int
  timer_g_start : Option Int
  timer_h_length : Int
  timer_h_start : Option Int
  timer_i_length : Int
  timer_i_start : Option Int
  deriving DecidableEq, Repr

inductive IstState where
  | preProceeding | proceeding | completed | confirmed | terminated
  deriving DecidableEq, Repr

abbrev IstTransaction := Transaction Ist IstState

/-- `__osip_ist_init`. -/
def istInit (invite : Message) : Option Ist := do
  let proto ← topProtocol invite
  some
    { timer_g_length := if overReliable proto then -1 else DEFAULT_T1
      timer_g_start := none
      timer_h_length := 64 * DEFAULT_T1
      timer_h_start := none
      timer_i_length := if overReliable proto then 0 else DEFAULT_T4
      timer_i_start := none }

/-- `osip_create_transaction` for an incoming INVITE. -/
def createIst (transactionid : Nat) (sip : Message) : Option IstTransaction := do
  let cseq ← createTransaction sip
  if cseq.method = str "INVITE" then transactionInit .preProceeding istInit transactionid sip
  else none

theorem createIst_spec {id : Nat} {sip : Message} {t : IstTransaction}
    (h : createIst id sip = some t) :
    transactionInit .preProceeding istInit id sip = some t := by
  simp only [createIst, Option.bind_eq_bind, Option.bind_eq_some_iff] at h
  obtain ⟨cseq, -, h⟩ := h
  split at h
  · exact h
  · exact nomatch h

def istHandleTransportError (ist : IstTransaction) (err : Int) : IstTransaction × List Output :=
  ({ ist with state := .terminated }, [.transportError .ist err, .kill .ist])

/-- The callback for a response that was sent once more. -/
def istSentAgainCallback (response : Message) : MessageCallback :=
  if response.is1xx then .istStatus1xxSent
  else if response.is2xx then .istStatus2xxSentAgain
  else .istStatus3456xxSentAgain

/-- `ist_rcv_invite`: a new INVITE is announced, a retransmission is answered with the last
response. -/
def istRcvInvite (env : Env) (ist : IstTransaction) (sip : Message) :
    IstTransaction × List Output :=
  if ist.state = .preProceeding then
    ({ ist with orig_request := some sip, state := .proceeding },
      [.callback .istInviteReceived (some sip)])
  else
    let again := Output.callback .istInviteReceivedAgain ist.orig_request
    match ist.last_response with
    | none => (ist, [again])
    | some response =>
      let (sent, i) := transactionSnd env response
      if i ≠ 0 then
        let (ist, os) := istHandleTransportError ist i
        (ist, again :: sent ++ os)
      else (ist, again :: sent ++ [.callback (istSentAgainCallback response) (some response)])

/-- `osip_ist_timeout_g_event`. -/
def istTimeoutG (env : Env) (ist : IstTransaction) : IstTransaction × List Output :=
  match ist.last_response with
  | none => (ist, [])
  | some response =>
    let length :=
      if DEFAULT_T2 < ist.context.timer_g_length * 2 then DEFAULT_T2
      else ist.context.timer_g_length * 2
    let ist :=
      { ist with
        context :=
          { ist.context with
            timer_g_length := length
            timer_g_start := startTimer env.now length } }
    let (sent, i) := transactionSnd env response
    if i ≠ 0 then
      let (ist, os) := istHandleTransportError ist i
      (ist, sent ++ os)
    else (ist, sent ++ [.callback .istStatus3456xxSentAgain (some response)])

/-- `osip_ist_timeout_h_event`: the ACK did not come. -/
def istTimeoutH (_env : Env) (ist : IstTransaction) : IstTransaction × List Output :=
  ({ ist with
      context := { ist.context with timer_h_length := -1, timer_h_start := none }
      state := .terminated },
    [.kill .ist])

/-- `osip_ist_timeout_i_event`. -/
def istTimeoutI (_env : Env) (ist : IstTransaction) : IstTransaction × List Output :=
  ({ ist with
      context := { ist.context with timer_i_length := -1, timer_i_start := none }
      state := .terminated },
    [.kill .ist])

def istSnd1xx (env : Env) (ist : IstTransaction) (sip : Message) :
    IstTransaction × List Output :=
  let ist := { ist with last_response := some sip }
  let (sent, i) := transactionSnd env sip
  if i ≠ 0 then
    let (ist, os) := istHandleTransportError ist i
    (ist, sent ++ os)
  else (ist, sent ++ [.callback .istStatus1xxSent (some sip)])

/-- `ist_snd_2xx`: from here on the user sends the success again itself. -/
def istSnd2xx (env : Env) (ist : IstTransaction) (sip : Message) :
    IstTransaction × List Output :=
  let ist := { ist with last_response := some sip }
  let (sent, i) := transactionSnd env sip
  if i ≠ 0 then
    let (ist, os) := istHandleTransportError ist i
    (ist, sent ++ os)
  else
    ({ ist with state := .terminated },
      sent ++ [.callback .istStatus2xxSent (some sip), .kill .ist])

/-- The callback that `ist_snd_3456xx` chooses by the status code. -/
def istSentCallback (sip : Message) : MessageCallback :=
  if sip.isStatus 3 then .istStatus3xxSent
  else if sip.isStatus 4 then .istStatus4xxSent
  else if sip.isStatus 5 then .istStatus5xxSent
  else .istStatus6xxSent

def istSnd3456xx (env : Env) (ist : IstTransaction) (sip : Message) :
    IstTransaction × List Output :=
  let ist := { ist with last_response := some sip }
  let (sent, i) := transactionSnd env sip
  if i ≠ 0 then
    let (ist, os) := istHandleTransportError ist i
    (ist, sent ++ os)
  else
    let g_start :=
      if ist.context.timer_g_length ≠ -1 then startTimer env.now ist.context.timer_g_length
      else ist.context.timer_g_start
    ({ ist with
        context :=
          { ist.context with
            timer_g_start := g_start
            timer_h_start := startTimer env.again ist.context.timer_h_length }
        state := .completed },
      sent ++ [.callback (istSentCallback sip) (some sip)])

def istRcvAck (env : Env) (ist : IstTransaction) (sip : Message) :
    IstTransaction × List Output :=
  let callback :=
    if ist.state = .completed then MessageCallback.istAckReceived else .istAckReceivedAgain
  ({ ist with
      ack := some sip
      context := { ist.context with timer_i_start := startTimer env.now ist.context.timer_i_length }
      state := .confirmed },
    [.callback callback (some sip)])

def istTransition : List (Base.Transition IstState EventType (Method Ist IstState)) :=
  [⟨.preProceeding, .rcvReqinvite, .message istRcvInvite⟩,
    ⟨.proceeding, .rcvReqinvite, .message istRcvInvite⟩,
    ⟨.completed, .rcvReqinvite, .message istRcvInvite⟩,
    ⟨.completed, .timeout .g, .timeout istTimeoutG⟩,
    ⟨.completed, .timeout .h, .timeout istTimeoutH⟩,
    ⟨.proceeding, .sndStatus1xx, .message istSnd1xx⟩,
    ⟨.proceeding, .sndStatus2xx, .message istSnd2xx⟩,
    ⟨.proceeding, .sndStatus3456xx, .message istSnd3456xx⟩,
    ⟨.completed, .rcvReqack, .message istRcvAck⟩,
    ⟨.confirmed, .rcvReqack, .message istRcvAck⟩,
    ⟨.confirmed, .timeout .i, .timeout istTimeoutI⟩]

/-- The body of the loop of `osip_timers_ist_execute`: I, else H, else G. -/
def istDueTimer (ist : IstTransaction) (clock : Nat → Int) : Option Timer :=
  if needTimerXEvent ist.context.timer_i_start (ist.state = .confirmed) (clock 0) then some .i
  else if needTimerXEvent ist.context.timer_h_start (ist.state = .completed) (clock 1) then some .h
  else if needTimerXEvent ist.context.timer_g_start (ist.state = .completed) (clock 2) then some .g
  else none

def istFsm : Machine Ist IstState where
  transitions := istTransition
  dueTimer := istDueTimer

/-- What every method of `ist_fsm` does where it is called, and a useless event, every event
does. -/
theorem ist_rule
    {P : Env → IstTransaction → Event → IstTransaction × List Output → Prop}
    (huseless : ∀ env t evt, P env t evt (t, []))
    (hrcvInvite : ∀ (env : Env) (t : IstTransaction) (sip : Message),
      t.state = .preProceeding ∨ t.state = .proceeding ∨ t.state = .completed →
      sip.isRequest = true → sip.isInvite = true → P env t (.incoming sip) (istRcvInvite env t sip))
    (htimeoutG : ∀ (env : Env) (t : IstTransaction), t.state = .completed →
      P env t (.timer .g) (istTimeoutG env t))
    (htimeoutH : ∀ (env : Env) (t : IstTransaction), t.state = .completed →
      P env t (.timer .h) (istTimeoutH env t))
    (hsnd1xx : ∀ (env : Env) (t : IstTransaction) (sip : Message), t.state = .proceeding →
      sip.isRequest = false → sip.is1xx = true → P env t (.outgoing sip) (istSnd1xx env t sip))
    (hsnd2xx : ∀ (env : Env) (t : IstTransaction) (sip : Message), t.state = .proceeding →
      sip.isRequest = false → sip.is1xx = false → P env t (.outgoing sip) (istSnd2xx env t sip))
    (hsnd3456xx : ∀ (env : Env) (t : IstTransaction) (sip : Message), t.state = .proceeding →
      sip.isRequest = false → sip.is1xx = false →
      P env t (.outgoing sip) (istSnd3456xx env t sip))
    (hrcvAck : ∀ (env : Env) (t : IstTransaction) (sip : Message),
      t.state = .completed ∨ t.state = .confirmed → sip.isAck = true →
      P env t (.incoming sip) (istRcvAck env t sip))
    (htimeoutI : ∀ (env : Env) (t : IstTransaction), t.state = .confirmed →
      P env t (.timer .i) (istTimeoutI env t))
    (env : Env) (t : IstTransaction) (evt : Event) :
    P env t evt (transactionExecute istFsm env t evt) := by
  refine execute_rule huseless ?_ env t evt
  simp only [istFsm, istTransition, List.forall_mem_cons]
  refine ⟨?_, ?_, ?_, ?_, ?_, ?_, ?_, ?_, ?_, ?_, ?_, by simp⟩
  · rintro env t _ ⟨sip, rfl, hr, hi⟩ h
    exact hrcvInvite env t sip (.inl h) hr hi
  · rintro env t _ ⟨sip, rfl, hr, hi⟩ h
    exact hrcvInvite env t sip (.inr (.inl h)) hr hi
  · rintro env t _ ⟨sip, rfl, hr, hi⟩ h
    exact hrcvInvite env t sip (.inr (.inr h)) hr hi
  · rintro env t _ rfl h
    exact htimeoutG env t h
  · rintro env t _ rfl h
    exact htimeoutH env t h
  · rintro env t _ ⟨sip, rfl, hr, h1⟩ h
    exact hsnd1xx env t sip h hr h1
  · rintro env t _ ⟨sip, rfl, hr, h1, -⟩ h
    exact hsnd2xx env t sip h hr h1
  · rintro env t _ ⟨sip, rfl, hr, h1, -⟩ h
    exact hsnd3456xx env t sip h hr h1
  · rintro env t _ ⟨sip, rfl, ha⟩ h
    exact hrcvAck env t sip (.inl h) ha
  · rintro env t _ ⟨sip, rfl, ha⟩ h
    exact hrcvAck env t sip (.inr h) ha
  · rintro env t _ rfl h
    exact htimeoutI env t h

end GB28181.Osip
