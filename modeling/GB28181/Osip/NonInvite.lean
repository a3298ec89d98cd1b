import GB28181.Osip.Contract
import GB28181.Osip.Nict
import GB28181.Osip.Nist

/-!
# Requests other than INVITE, from client to server

A client transaction and a server transaction, each driven by its user and its clock, over a
network that loses, repeats, delays and reorders messages.

* `nictStates`, `nistStates` — the states that matter to an exchange;
* `nictFsm_keeps`, `nistFsm_keeps` — either machine keeps the contract of an exchange, method by
  method;
* `NonInviteReach` — the runs of the two.

Principal result: `nonInvite_agreed` — in every run of the two their users agree.
-/

set_option autoImplicit false

namespace GB28181.Osip

open GB28181.Base

/-! ## The client -/

/-- PRE_TRYING is where a request starts; until COMPLETED no final response has come. -/
def nictStates : ClientStates NictState where
  fresh s := s = .preTrying
  waiting s := s = .preTrying ∨ s = .trying ∨ s = .proceeding

@[simp] theorem nictSentCallback_label (sip m : Message) :
    (nictSentCallback sip).label m = [] := by
  rw [nictSentCallback]
  split_ifs <;> rfl

@[simp] theorem nictReceivedCallback_label (sip m : Message) :
    (nictReceivedCallback sip).label m = [.conclude m] := by
  rw [nictReceivedCallback]
  split_ifs <;> rfl

section Client

variable {env : Env} {t : NictTransaction} {tr : List (Label Message)} {sip : Message}

theorem nictSndRequest_keeps (h : ClientTied nictStates t tr) (hstate : t.state = .preTrying)
    (hr : sip.isRequest = true) (ha : sip.isAck = false) :
    ClientKeeps nictStates tr (traced (nictSndRequest env t sip)) := by
  have hasks : ∀ t' : NictTransaction, t'.orig_request = some sip → t'.ack = t.ack →
      t'.state ≠ .preTrying → t'.transactionff = t.transactionff →
      ClientKeeps nictStates tr (t', [.ask sip]) := fun t' horig hack hne hff =>
    h.asks (.inl hstate) horig hack hne (fun _ => .inl hstate) hff ⟨hr, ha⟩
  have hlabel := sendLabel_ask hr ha
  rw [nictSndRequest]
  dsimp only
  split
  · refine ClientKeeps.traced (hasks _ rfl rfl (by simp [nictHandleTransportError]) rfl) ?_
    simp [nictSend, nictHandleTransportError, hlabel]
  · split
    · refine ClientKeeps.traced (hasks _ rfl rfl (by simp [nictHandleTransportError]) rfl) ?_
      simp [nictSend, nictHandleTransportError, hlabel]
    · refine ClientKeeps.traced (hasks _ rfl rfl (by simp) rfl) ?_
      simp [nictSend, hlabel]

theorem nictTimeoutE_keeps (h : ClientTied nictStates t tr)
    (hstate : t.state = .trying ∨ t.state = .proceeding) :
    ClientKeeps nictStates tr (traced (nictTimeoutE env t)) := by
  have hpre : t.state ≠ .preTrying := by rcases hstate with hs | hs <;> simp [hs]
  rw [nictTimeoutE]
  cases horig : t.orig_request with
  | none => exact h.quiet rfl (.inl rfl) id id rfl
  | some request =>
    have hsane := h.request request horig
    have hlabel := sendLabel_ask hsane.1 hsane.2
    have hasks : ∀ t' : NictTransaction, t'.orig_request = t.orig_request → t'.ack = t.ack →
        t'.state ≠ .preTrying → t'.transactionff = t.transactionff →
        ClientKeeps nictStates tr (t', [.ask request]) := fun t' ho hack hne hff =>
      h.asks (.inr horig) (ho.trans horig) hack hne (fun _ => .inr hstate) hff hsane
    dsimp only
    split
    · refine ClientKeeps.traced (hasks _ ?_ rfl ?_ rfl) ?_
      · simp [nictHandleTransportError, horig]
      · simp [nictHandleTransportError]
      · simp [nictSend, nictHandleTransportError, hlabel]
    · split
      · split
        · refine ClientKeeps.traced (hasks _ ?_ rfl ?_ rfl) ?_
          · simp [nictHandleTransportError, horig]
          · simp [nictHandleTransportError]
          · simp [nictSend, nictHandleTransportError, hlabel]
        · refine ClientKeeps.traced (hasks _ ?_ rfl hpre rfl) ?_
          · simp [horig]
          · simp [nictSend, hlabel, MessageCallback.label.eq_def]
      · refine ClientKeeps.traced (hasks _ ?_ rfl hpre rfl) ?_
        · simp [horig]
        · simp [nictSend, hlabel]

theorem nictTimeoutF_keeps (env : Env) (h : ClientTied nictStates t tr) :
    ClientKeeps nictStates tr (traced (nictTimeoutF env t)) :=
  h.quiet rfl (.inl rfl) nofun (fun hw => by simp [nictStates, nictTimeoutF] at hw) rfl

theorem nictTimeoutK_keeps (env : Env) (h : ClientTied nictStates t tr) :
    ClientKeeps nictStates tr (traced (nictTimeoutK env t)) :=
  h.quiet rfl (.inl rfl) nofun (fun hw => by simp [nictStates, nictTimeoutK] at hw) rfl

theorem nictRcv1xx_keeps (h : ClientTied nictStates t tr)
    (hstate : t.state = .trying ∨ t.state = .proceeding) (hr : sip.isRequest = false)
    (hsent : .inform sip ∈ tr) :
    ClientKeeps nictStates tr (traced (nictRcv1xx env t sip)) :=
  h.informed (.inr hstate) hsent hr rfl rfl nofun rfl

theorem nictRcv23456xx_keeps (h : ClientTied nictStates t tr)
    (hstate : t.state = .trying ∨ t.state = .proceeding) (hr : sip.isRequest = false)
    (hsent : .answer sip ∈ tr) :
    ClientKeeps nictStates tr (traced (nictRcv23456xx env t sip)) := by
  refine ClientKeeps.traced (h.concludes (.inr hstate) hsent hr rfl rfl nofun ?_ rfl) ?_
  · simp [nictStates, nictRcv23456xx]
  · simp [nictRcv23456xx]

theorem nictFsm_keeps {evt : Event} (hP : ∀ l ∈ tr, Sane l) (h : ClientTied nictStates t tr)
    (hevt : ∀ m, evt = .incoming m → HeardByClient tr m) :
    ClientKeeps nictStates tr (traced (transactionExecute nictFsm env t evt)) := by
  refine nict_rule (P := fun _ t evt r => ClientTied nictStates t tr →
    (∀ m, evt = .incoming m → HeardByClient tr m) → ClientKeeps nictStates tr (traced r))
    (fun _ _ _ h _ => h.quiet rfl (.inl rfl) id id rfl) ?_ ?_ ?_ ?_ ?_ ?_ env t evt h hevt
  · exact fun env t sip hstate hr ha h _ => nictSndRequest_keeps h hstate hr ha
  · exact fun env t hstate h _ => nictTimeoutE_keeps h hstate
  · exact fun env t _ h _ => nictTimeoutF_keeps env h
  · exact fun env t _ h _ => nictTimeoutK_keeps env h
  · exact fun env t sip hstate hr h1 h hevt =>
      nictRcv1xx_keeps h hstate hr ((hevt sip rfl).inform hP h1)
  · exact fun env t sip hstate hr h1 h hevt =>
      nictRcv23456xx_keeps h hstate hr ((hevt sip rfl).answer hP h1)

end Client

/-! ## The server -/

/-- Until COMPLETED no final response was given; there is no ACK to note. -/
def nistStates : ServerStates NistState where
  fresh s := s = .preTrying
  serving s := s = .preTrying ∨ s = .trying ∨ s = .proceeding
  holding s := s = .completed
  noted _ := False

@[simp] theorem nistReceivedCallback_label (sip m : Message) :
    (nistReceivedCallback sip).label m = [.serve m] := by
  rw [nistReceivedCallback]
  split_ifs <;> rfl

@[simp] theorem nistSentCallback_label (sip m : Message) :
    (nistSentCallback sip).label m = [] := by
  rw [nistSentCallback]
  split_ifs <;> rfl

@[simp] theorem nistSentAgainCallback_label (sip m : Message) :
    (nistSentAgainCallback sip).label m = [] := by
  rw [nistSentAgainCallback]
  split_ifs <;> rfl

@[simp] theorem labels_nistRequestReceivedAgain (request : Option Message) :
    labels (.callback .nistRequestReceivedAgain request) = [] := by
  cases request <;> rfl

section Server

variable {env : Env} {t : NistTransaction} {tr : List (Label Message)} {sip : Message}

theorem nistRcvRequest_keeps (h : ServerTied nistStates t tr)
    (hstate : t.state = .preTrying ∨ t.state = .proceeding ∨ t.state = .completed)
    (hP : ∀ l ∈ tr, Sane l) (hasked : ∃ q, .ask q ∈ tr ∧ Arrived q sip) :
    ServerKeeps nistStates tr (traced (nistRcvRequest env t sip)) := by
  rw [nistRcvRequest]
  split
  · rename_i hpre
    refine ServerKeeps.traced (h.serves hpre hasked (by simp [nistStates]) (.inl hpre)
      (by simp [nistStates]) id rfl rfl) ?_
    simp
  · rename_i hpre
    have hlater : t.state = .proceeding ∨ t.state = .completed := hstate.resolve_left hpre
    cases hlast : t.last_response with
    | none =>
      refine ServerKeeps.traced (h.quiet Iff.rfl id id id (.inl rfl) rfl) ?_
      simp
    | some response =>
      -- either the last response goes out again, or the transaction ends on the way
      have hresends : ∀ t' : NistTransaction, ∀ ls, ls = [] ∨ ls = [sendLabel response] →
          t'.state = t.state ∨ t'.state = .terminated → t'.last_response = t.last_response →
          t'.transactionff = t.transactionff → ServerKeeps nistStates tr (t', ls) := by
        intro t' ls hls hstate' hlast' hff
        refine h.resends hP hlast hls hpre ?_ ?_ ?_ ?_ id hlast' hff <;>
          rcases hstate' with hs | hs <;> rcases hlater with hs' | hs' <;>
          simp [nistStates, hs, hs']
      dsimp only
      rcases transactionSnd_cases env response with hsnd | ⟨host, port, hsnd⟩
      · rw [hsnd]
        refine ServerKeeps.traced (hresends _ [] (.inl rfl) (.inr rfl) rfl rfl) ?_
        simp [nistHandleTransportError]
      · rw [hsnd]
        dsimp only
        split
        · refine ServerKeeps.traced (hresends _ _ (.inr rfl) (.inr rfl) rfl rfl) ?_
          simp [nistHandleTransportError]
        · refine ServerKeeps.traced (hresends _ _ (.inr rfl) (.inl rfl) rfl rfl) ?_
          simp

theorem nistSnd1xx_keeps (h : ServerTied nistStates t tr)
    (hstate : t.state = .trying ∨ t.state = .proceeding) (hr : sip.isRequest = false)
    (h1 : sip.is1xx = true) : ServerKeeps nistStates tr (traced (nistSnd1xx env t sip)) := by
  have hpre : t.state ≠ .preTrying := by rcases hstate with hs | hs <;> simp [hs]
  have hinforms : ∀ t' : NistTransaction, t'.state = .proceeding ∨ t'.state = .terminated →
      t'.last_response = some sip → t'.transactionff = t.transactionff →
      ServerKeeps nistStates tr (t', [.inform sip]) := by
    intro t' hstate' hlast hff
    refine h.informs hpre (.inr hstate) ⟨hr, h1⟩ ?_ ?_ id hlast hff <;>
      rcases hstate' with hs | hs <;> simp [nistStates, hs]
  have hlabel := sendLabel_inform hr h1
  rw [nistSnd1xx]
  dsimp only
  rcases transactionSnd_cases env sip with hsnd | ⟨host, port, hsnd⟩
  · rw [hsnd]
    refine h.quiet ?_ ?_ ?_ id (.inr ⟨.inr hstate, ?_, ?_⟩) rfl <;>
      simp [nistStates, nistHandleTransportError, hpre, hr]
  · rw [hsnd]
    dsimp only
    split
    · refine ServerKeeps.traced (hinforms _ (.inr rfl) rfl rfl) ?_
      simp [nistHandleTransportError, hlabel]
    · refine ServerKeeps.traced (hinforms _ (.inl rfl) rfl rfl) ?_
      simp [hlabel, MessageCallback.label.eq_def]

theorem nistSnd23456xx_keeps (h : ServerTied nistStates t tr)
    (hstate : t.state = .trying ∨ t.state = .proceeding) (hr : sip.isRequest = false)
    (h1 : sip.is1xx = false) : ServerKeeps nistStates tr (traced (nistSnd23456xx env t sip)) := by
  have hpre : t.state ≠ .preTrying := by rcases hstate with hs | hs <;> simp [hs]
  have hanswers : ∀ t' : NistTransaction, t'.state = .completed ∨ t'.state = .terminated →
      t'.last_response = some sip → t'.transactionff = t.transactionff →
      ServerKeeps nistStates tr (t', [.answer sip]) := by
    intro t' hstate' hlast hff
    refine h.answers hpre (.inl (.inr hstate)) ⟨hr, h1⟩ ?_ ?_ id hlast hff <;>
      rcases hstate' with hs | hs <;> simp [nistStates, hs]
  have hlabel := sendLabel_answer hr h1
  rw [nistSnd23456xx]
  dsimp only
  rcases transactionSnd_cases env sip with hsnd | ⟨host, port, hsnd⟩
  · rw [hsnd]
    refine h.quiet ?_ ?_ ?_ id (.inr ⟨.inr hstate, ?_, ?_⟩) rfl <;>
      simp [nistStates, nistHandleTransportError, hpre, hr]
  · rw [hsnd]
    dsimp only
    split
    · refine ServerKeeps.traced (hanswers _ (.inr rfl) rfl rfl) ?_
      simp [nistHandleTransportError, hlabel]
    · refine ServerKeeps.traced (hanswers _ (.inl rfl) rfl rfl) ?_
      simp [hlabel]

theorem nistTimeoutJ_keeps (env : Env) (h : ServerTied nistStates t tr)
    (hstate : t.state = .completed) :
    ServerKeeps nistStates tr (traced (nistTimeoutJ env t)) := by
  refine h.quiet ?_ ?_ ?_ id (.inl rfl) rfl <;> simp [nistStates, nistTimeoutJ, hstate]

theorem nistFsm_keeps {evt : Event} (hP : ∀ l ∈ tr, Sane l) (h : ServerTied nistStates t tr)
    (hevt : ∀ m, evt = .incoming m → HeardByServer tr m) :
    ServerKeeps nistStates tr (traced (transactionExecute nistFsm env t evt)) := by
  refine nist_rule (P := fun _ t evt r => ServerTied nistStates t tr →
    (∀ m, evt = .incoming m → HeardByServer tr m) → ServerKeeps nistStates tr (traced r))
    (fun _ _ _ h _ => h.quiet Iff.rfl id id id (.inl rfl) rfl) ?_ ?_ ?_ ?_ env t evt h hevt
  · exact fun env t sip hstate _ ha h hevt =>
      nistRcvRequest_keeps h hstate hP ((hevt sip rfl).ask hP ha)
  · exact fun env t sip hstate hr h1 h _ => nistSnd1xx_keeps h hstate hr h1
  · exact fun env t sip hstate hr h1 h _ => nistSnd23456xx_keeps h hstate hr h1
  · exact fun env t hstate h _ => nistTimeoutJ_keeps env h hstate

end Server

/-! ## The two together -/

/-- The runs of the client of a request with its server. -/
abbrev NonInviteReach (client : NictTransaction) :
    NictTransaction → Option NistTransaction → List (Label Message) → Prop :=
  ExchangeReach nictFsm nistFsm createNist client

/-- **One request, one answer.**  In every run of a client transaction and a server transaction
other than INVITE, over a network that loses, repeats, delays and reorders messages, with any
clocks and any results of sending, whatever the two users do: the client asks one request, the
server shows one arrival of it to its user, once, and only after it was asked; it gives one final
response, and provisional ones only before; the client shows one final response, once, and it is
the one the server gave. -/
theorem nonInvite_agreed {now : Int} {id : Nat} {request : Message} {client t : NictTransaction}
    {server : Option NistTransaction} {tr : List (Label Message)}
    (hcreate : createNict now id request = some client)
    (h : NonInviteReach client t server tr) : Agreed tr := by
  obtain ⟨-, hff, horig, -, hack, -⟩ := transactionInit_spec (createNict_spec hcreate)
  refine exchange_agreed (C := nictStates) (S := nistStates) (fun _ _ _ _ => nictFsm_keeps)
    (fun _ _ _ _ => nistFsm_keeps) ?_ ⟨horig, hack, hff⟩ h
  intro id sip t' ht'
  obtain ⟨hstate', hff', -, hlast', -, -⟩ := transactionInit_spec (createNist_spec ht')
  exact ⟨hstate', by simp [nistStates, hstate'], hlast', hff'⟩

theorem nonInvite_agreed_keepalive :
    ∃ tr, Agreed tr ∧ .conclude keepaliveOk ∈ tr := by
  have fresh : NonInviteReach keepaliveClient keepaliveClient none [] := .start
  have asked := (fresh.client (Action.add (Event.outgoing keepalive)) trivial).client
    (Action.execute ⟨0, 0, 0⟩) trivial
  have served := (asked.server
    (1, Action.add (Event.incoming (fixLastViaHeader (str "10.0.0.2") 5060 keepalive)))
    ⟨keepalive, .inl (by decide +kernel), _, _, rfl⟩).server (1, Action.execute ⟨10, 10, 0⟩) trivial
  have answered := (served.server (1, Action.add (Event.outgoing keepaliveOk)) trivial).server
    (1, Action.execute ⟨20, 20, 0⟩) trivial
  have concluded := (answered.client (Action.add (Event.incoming keepaliveOk))
    ⟨keepaliveOk, .inr (by decide +kernel), arrived_response rfl⟩).client
    (Action.execute ⟨30, 30, 0⟩) trivial
  exact ⟨_, nonInvite_agreed keepaliveClient_created concluded, by decide +kernel⟩

end GB28181.Osip
