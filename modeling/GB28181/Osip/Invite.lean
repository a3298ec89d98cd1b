import GB28181.Osip.Contract
import GB28181.Osip.Ict
import GB28181.Osip.Ist

/-!
# INVITE, from client to server

The client transaction of an INVITE and its server transaction over the same network as in
`GB28181.Osip.NonInvite`.  A final response that is no success is acknowledged by the transaction
itself, and the server keeps sending it until the ACK comes.

* `ictStates`, `istStates` — the states that matter to an exchange;
* `ictFsm_keeps`, `istFsm_keeps` — either machine keeps the contract of an exchange, method by
  method;
* `InviteReach` — the runs of the two.

Principal result: `invite_agreed` — in every run of the two their users agree, and the user of the
server hears of an ACK only when the client acknowledged the response of this server.
-/

set_option autoImplicit false

namespace GB28181.Osip

open GB28181.Base

/-! ## The client -/

/-- PRE_CALLING is where an INVITE starts; until COMPLETED or TERMINATED no final response has
come. -/
def ictStates : ClientStates IctState where
  fresh s := s = .preCalling
  waiting s := s = .preCalling ∨ s = .calling ∨ s = .proceeding

@[simp] theorem ictReceivedCallback_label (sip m : Message) :
    (ictReceivedCallback sip).label m = [.conclude m] := by
  rw [ictReceivedCallback]
  split_ifs <;> rfl

@[simp] theorem ictAckSent_label (m : Message) :
    MessageCallback.ictAckSent.label m = [] := rfl

section Client

variable {env : Env} {t : IctTransaction} {tr : List (Label Message)} {sip : Message}

theorem ictSndInvite_keeps (h : ClientTied ictStates t tr) (hstate : t.state = .preCalling)
    (hr : sip.isRequest = true) (ha : sip.isAck = false) :
    ClientKeeps ictStates tr (traced (ictSndInvite env t sip)) := by
  have hasks : ∀ t' : IctTransaction, t'.orig_request = some sip → t'.ack = t.ack →
      t'.state ≠ .preCalling → t'.transactionff = t.transactionff →
      ClientKeeps ictStates tr (t', [.ask sip]) := fun t' horig hack hne hff =>
    h.asks (.inl hstate) horig hack hne (fun _ => .inl hstate) hff ⟨hr, ha⟩
  have hlabel := sendLabel_ask hr ha
  rw [ictSndInvite]
  dsimp only
  split
  · refine ClientKeeps.traced (hasks _ rfl rfl (by simp [ictHandleTransportError]) rfl) ?_
    simp [ictSend, ictHandleTransportError, hlabel]
  · rename_i t' hsend
    obtain ⟨horig, hack, -, hff⟩ := ictSendInvite_frame hsend
    refine ClientKeeps.traced (hasks _ horig hack (by simp) hff) ?_
    simp [ictSend, hlabel, MessageCallback.label.eq_def]

theorem ictTimeoutA_keeps (h : ClientTied ictStates t tr) (hstate : t.state = .calling) :
    ClientKeeps ictStates tr (traced (ictTimeoutA env t)) := by
  rw [ictTimeoutA]
  cases horig : t.orig_request with
  | none => exact h.quiet rfl (.inl rfl) id id rfl
  | some invite =>
    have hsane := h.request invite horig
    have hlabel := sendLabel_ask hsane.1 hsane.2
    have hasks : ∀ t' : IctTransaction, t'.orig_request = t.orig_request → t'.ack = t.ack →
        t'.state ≠ .preCalling → t'.transactionff = t.transactionff →
        ClientKeeps ictStates tr (t', [.ask invite]) := fun t' ho hack hne hff =>
      h.asks (.inr horig) (ho.trans horig) hack hne (fun _ => .inr (.inl hstate)) hff hsane
    dsimp only
    split
    · refine ClientKeeps.traced (hasks _ ?_ rfl ?_ rfl) ?_
      · simp [ictHandleTransportError, horig]
      · simp [ictHandleTransportError]
      · simp [ictSend, ictHandleTransportError, hlabel]
    · rename_i t' hsend
      obtain ⟨ho, hack, hstate', hff⟩ := ictSendInvite_frame hsend
      have hcalling : t'.state ≠ .preCalling := by simp [hstate', hstate]
      split
      · refine ClientKeeps.traced (hasks _ (ho.trans horig.symm) hack hcalling hff) ?_
        simp [ictSend, hlabel, MessageCallback.label.eq_def]
      · refine ClientKeeps.traced (hasks _ (ho.trans horig.symm) hack hcalling hff) ?_
        simp [ictSend, hlabel]

theorem ictTimeoutB_keeps (env : Env) (h : ClientTied ictStates t tr) :
    ClientKeeps ictStates tr (traced (ictTimeoutB env t)) :=
  h.quiet rfl (.inl rfl) nofun (fun hw => by simp [ictStates, ictTimeoutB] at hw) rfl

theorem ictTimeoutD_keeps (env : Env) (h : ClientTied ictStates t tr) :
    ClientKeeps ictStates tr (traced (ictTimeoutD env t)) :=
  h.quiet rfl (.inl rfl) nofun (fun hw => by simp [ictStates, ictTimeoutD] at hw) rfl

theorem ictRcv1xx_keeps (env : Env) (h : ClientTied ictStates t tr)
    (hstate : t.state = .calling ∨ t.state = .proceeding) (hr : sip.isRequest = false)
    (hsent : .inform sip ∈ tr) :
    ClientKeeps ictStates tr (traced (ictRcv1xx env t sip)) :=
  h.informed (.inr hstate) hsent hr rfl rfl nofun rfl

theorem ictRcv2xx_keeps (env : Env) (h : ClientTied ictStates t tr)
    (hstate : t.state = .calling ∨ t.state = .proceeding) (hr : sip.isRequest = false)
    (hsent : .answer sip ∈ tr) :
    ClientKeeps ictStates tr (traced (ictRcv2xx env t sip)) := by
  refine ClientKeeps.traced (h.concludes (.inr hstate) hsent hr rfl rfl nofun ?_ rfl) ?_
  · simp [ictStates, ictRcv2xx]
  · simp [ictRcv2xx, MessageCallback.label.eq_def]

theorem ictRcv3456xx_keeps (h : ClientTied ictStates t tr)
    (hstate : t.state = .calling ∨ t.state = .proceeding) (hr : sip.isRequest = false)
    (hsent : .answer sip ∈ tr) :
    ClientKeeps ictStates tr (traced (ictRcv3456xx env t sip)) := by
  have hwaiting : ictStates.waiting t.state := .inr hstate
  rw [ictRcv3456xx]
  dsimp only
  split
  · exact h.quiet rfl (.inr ⟨hwaiting, rfl⟩) nofun (fun hw => by simp [ictStates] at hw) rfl
  · rename_i ack hack
    obtain ⟨request, -, hcreate⟩ := Option.bind_eq_some_iff.mp hack
    have hisAck := ictCreateAck_isAck hcreate
    have hlabel := sendLabel_ack hisAck
    split
    · refine ClientKeeps.traced (h.acks_response (.inl hwaiting) hsent rfl rfl hisAck ?_ ?_ rfl) ?_
      · simp [ictStates, ictHandleTransportError]
      · simp [ictStates, ictHandleTransportError]
      · simp [ictSend, ictHandleTransportError, hlabel]
    · refine ClientKeeps.traced (h.acks_concludes hwaiting hsent hr rfl rfl hisAck ?_ ?_ rfl) ?_
      · simp [ictStates]
      · simp [ictStates]
      · simp [ictSend, hlabel]

theorem ictRetransmitAck_keeps (h : ClientTied ictStates t tr) (hstate : t.state = .completed)
    (hsent : .answer sip ∈ tr) :
    ClientKeeps ictStates tr (traced (ictRetransmitAck env t sip)) := by
  rw [ictRetransmitAck]
  cases hack : t.ack with
  | none => exact h.quiet rfl (.inl rfl) id id rfl
  | some ack =>
    have hisAck : ack.isAck = true := h.acknowledgement ack hack
    have hlabel := sendLabel_ack hisAck
    have hrepeats : ∀ t' : IctTransaction, t'.state = .completed ∨ t'.state = .terminated →
        t'.orig_request = t.orig_request → t'.ack = t.ack → t'.transactionff = t.transactionff →
        ClientKeeps ictStates tr (t', [.ack ack]) := by
      intro t' hstate' horig hack' hff
      refine h.acks_response (.inr hack) hsent horig (hack'.trans hack) hisAck ?_ ?_ hff
        <;> rcases hstate' with hs | hs <;> simp [ictStates, hs]
    dsimp only
    split
    · refine ClientKeeps.traced (hrepeats _ (.inl hstate) rfl rfl rfl) ?_
      simp [ictSend, hlabel, MessageCallback.label.eq_def]
    · refine ClientKeeps.traced (hrepeats _ (.inr rfl) rfl rfl rfl) ?_
      simp [ictSend, ictHandleTransportError, hlabel, MessageCallback.label.eq_def]

theorem ictFsm_keeps {evt : Event} (hP : ∀ l ∈ tr, Sane l) (h : ClientTied ictStates t tr)
    (hevt : ∀ m, evt = .incoming m → HeardByClient tr m) :
    ClientKeeps ictStates tr (traced (transactionExecute ictFsm env t evt)) := by
  refine ict_rule (P := fun _ t evt r => ClientTied ictStates t tr →
    (∀ m, evt = .incoming m → HeardByClient tr m) → ClientKeeps ictStates tr (traced r))
    (fun _ _ _ h _ => h.quiet rfl (.inl rfl) id id rfl) ?_ ?_ ?_ ?_ ?_ ?_ ?_ ?_ env t evt h hevt
  · exact fun env t sip hstate hr hi h _ =>
      ictSndInvite_keeps h hstate hr (isAck_of_isInvite hi)
  · exact fun env t hstate h _ => ictTimeoutA_keeps h hstate
  · exact fun env t _ h _ => ictTimeoutB_keeps env h
  · exact fun env t sip hstate hr h1 h hevt =>
      ictRcv1xx_keeps env h hstate hr ((hevt sip rfl).inform hP h1)
  · exact fun env t sip hstate hr h1 _ h hevt =>
      ictRcv2xx_keeps env h hstate hr ((hevt sip rfl).answer hP h1)
  · exact fun env t sip hstate hr h1 _ h hevt =>
      ictRcv3456xx_keeps h hstate hr ((hevt sip rfl).answer hP h1)
  · exact fun env t sip hstate _ h1 _ h hevt =>
      ictRetransmitAck_keeps h hstate ((hevt sip rfl).answer hP h1)
  · exact fun env t _ h _ => ictTimeoutD_keeps env h

end Client

/-! ## The server -/

/-- Until COMPLETED or TERMINATED no final response was given; in CONFIRMED the ACK has come. -/
def istStates : ServerStates IstState where
  fresh s := s = .preProceeding
  serving s := s = .preProceeding ∨ s = .proceeding
  holding s := s = .completed
  noted s := s = .confirmed ∨ s = .terminated

@[simp] theorem istSentCallback_label (sip m : Message) : (istSentCallback sip).label m = [] := by
  rw [istSentCallback]
  split_ifs <;> rfl

@[simp] theorem istSentAgainCallback_label (sip m : Message) :
    (istSentAgainCallback sip).label m = [] := by
  rw [istSentAgainCallback]
  split_ifs <;> rfl

@[simp] theorem labels_istInviteReceivedAgain (request : Option Message) :
    labels (.callback .istInviteReceivedAgain request) = [] := by
  cases request <;> rfl

section Server

variable {env : Env} {t : IstTransaction} {tr : List (Label Message)} {sip : Message}

/-- What the server sends again, on a retransmission of the INVITE or when timer G fires: its
last response, unless it ends on the way. -/
theorem ist_resends {response : Message} (h : ServerTied istStates t tr)
    (hP : ∀ l ∈ tr, Sane l) (hlast : t.last_response = some response)
    (hstate : t.state = .proceeding ∨ t.state = .completed) {t' : IstTransaction}
    {ls : List (Label Message)} (hls : ls = [] ∨ ls = [sendLabel response])
    (hstate' : t'.state = t.state ∨ t'.state = .terminated)
    (hlast' : t'.last_response = t.last_response) (hff : t'.transactionff = t.transactionff) :
    ServerKeeps istStates tr (t', ls) := by
  refine h.resends hP hlast hls ?_ ?_ ?_ ?_ ?_ ?_ hlast' hff <;>
    rcases hstate' with hs | hs <;> rcases hstate with hs' | hs' <;> simp [istStates, hs, hs']

theorem istRcvInvite_keeps (h : ServerTied istStates t tr)
    (hstate : t.state = .preProceeding ∨ t.state = .proceeding ∨ t.state = .completed)
    (hP : ∀ l ∈ tr, Sane l) (hasked : ∃ q, .ask q ∈ tr ∧ Arrived q sip) :
    ServerKeeps istStates tr (traced (istRcvInvite env t sip)) := by
  rw [istRcvInvite]
  split
  · rename_i hpre
    refine ServerKeeps.traced (h.serves hpre hasked (by simp [istStates]) (.inl hpre)
      (by simp [istStates]) (by simp [istStates, hpre]) rfl rfl) ?_
    simp [MessageCallback.label.eq_def]
  · rename_i hpre
    have hlater : t.state = .proceeding ∨ t.state = .completed := hstate.resolve_left hpre
    cases hlast : t.last_response with
    | none =>
      refine ServerKeeps.traced (h.quiet Iff.rfl id id id (.inl rfl) rfl) ?_
      simp
    | some response =>
      dsimp only
      rcases transactionSnd_cases env response with hsnd | ⟨host, port, hsnd⟩
      · rw [hsnd]
        refine ServerKeeps.traced (ist_resends h hP hlast hlater (.inl rfl) (.inr rfl) rfl rfl) ?_
        simp [istHandleTransportError]
      · rw [hsnd]
        dsimp only
        split
        · refine ServerKeeps.traced (ist_resends h hP hlast hlater (.inr rfl) (.inr rfl) rfl rfl)
            ?_
          simp [istHandleTransportError]
        · refine ServerKeeps.traced (ist_resends h hP hlast hlater (.inr rfl) (.inl rfl) rfl rfl)
            ?_
          simp

theorem istTimeoutG_keeps (h : ServerTied istStates t tr) (hstate : t.state = .completed)
    (hP : ∀ l ∈ tr, Sane l) : ServerKeeps istStates tr (traced (istTimeoutG env t)) := by
  rw [istTimeoutG]
  cases hlast : t.last_response with
  | none => exact h.quiet Iff.rfl id id id (.inl rfl) rfl
  | some response =>
    dsimp only
    rcases transactionSnd_cases env response with hsnd | ⟨host, port, hsnd⟩
    · rw [hsnd]
      refine ServerKeeps.traced
        (ist_resends h hP hlast (.inr hstate) (.inl rfl) (.inr rfl) hlast.symm rfl) ?_
      simp [istHandleTransportError]
    · rw [hsnd]
      dsimp only
      split
      · refine ServerKeeps.traced
          (ist_resends h hP hlast (.inr hstate) (.inr rfl) (.inr rfl) hlast.symm rfl) ?_
        simp [istHandleTransportError]
      · refine ServerKeeps.traced
          (ist_resends h hP hlast (.inr hstate) (.inr rfl) (.inl rfl) hlast.symm rfl) ?_
        simp [MessageCallback.label.eq_def]

theorem istTimeoutH_keeps (env : Env) (h : ServerTied istStates t tr)
    (hstate : t.state = .completed) : ServerKeeps istStates tr (traced (istTimeoutH env t)) := by
  refine h.quiet ?_ ?_ ?_ ?_ (.inl rfl) rfl <;> simp [istStates, istTimeoutH, hstate]

theorem istTimeoutI_keeps (env : Env) (h : ServerTied istStates t tr)
    (hstate : t.state = .confirmed) : ServerKeeps istStates tr (traced (istTimeoutI env t)) := by
  refine h.quiet ?_ ?_ ?_ ?_ (.inl rfl) rfl <;> simp [istStates, istTimeoutI, hstate]

theorem istSnd1xx_keeps (h : ServerTied istStates t tr) (hstate : t.state = .proceeding)
    (hr : sip.isRequest = false) (h1 : sip.is1xx = true) :
    ServerKeeps istStates tr (traced (istSnd1xx env t sip)) := by
  have hinforms : ∀ t' : IstTransaction, t'.state = .proceeding ∨ t'.state = .terminated →
      t'.last_response = some sip → t'.transactionff = t.transactionff →
      ServerKeeps istStates tr (t', [.inform sip]) := by
    intro t' hstate' hlast hff
    refine h.informs ?_ (.inr hstate) ⟨hr, h1⟩ ?_ ?_ ?_ hlast hff <;>
      rcases hstate' with hs | hs <;> simp [istStates, hs, hstate]
  have hlabel := sendLabel_inform hr h1
  rw [istSnd1xx]
  dsimp only
  rcases transactionSnd_cases env sip with hsnd | ⟨host, port, hsnd⟩
  · rw [hsnd]
    refine h.quiet ?_ ?_ ?_ ?_ (.inr ⟨.inr hstate, ?_, ?_⟩) rfl <;>
      simp [istStates, istHandleTransportError, hstate, hr]
  · rw [hsnd]
    dsimp only
    split
    · refine ServerKeeps.traced (hinforms _ (.inr rfl) rfl rfl) ?_
      simp [istHandleTransportError, hlabel]
    · refine ServerKeeps.traced (hinforms _ (.inl hstate) rfl rfl) ?_
      simp [hlabel, MessageCallback.label.eq_def]

/-- Whatever becomes of the transaction then, a final response of the user is its only one. -/
theorem ist_answers (h : ServerTied istStates t tr) (hstate : t.state = .proceeding)
    (hr : sip.isRequest = false) (h1 : sip.is1xx = false) {t' : IstTransaction}
    (hstate' : t'.state = .completed ∨ t'.state = .terminated)
    (hlast : t'.last_response = some sip) (hff : t'.transactionff = t.transactionff) :
    ServerKeeps istStates tr (t', [.answer sip]) := by
  refine h.answers ?_ (.inl (.inr hstate)) ⟨hr, h1⟩ ?_ ?_ ?_ hlast hff <;>
    rcases hstate' with hs | hs <;> simp [istStates, hs, hstate]

theorem istSnd2xx_keeps (h : ServerTied istStates t tr) (hstate : t.state = .proceeding)
    (hr : sip.isRequest = false) (h1 : sip.is1xx = false) :
    ServerKeeps istStates tr (traced (istSnd2xx env t sip)) := by
  have hlabel := sendLabel_answer hr h1
  rw [istSnd2xx]
  dsimp only
  rcases transactionSnd_cases env sip with hsnd | ⟨host, port, hsnd⟩
  · rw [hsnd]
    refine h.quiet ?_ ?_ ?_ ?_ (.inr ⟨.inr hstate, ?_, ?_⟩) rfl <;>
      simp [istStates, istHandleTransportError, hstate, hr]
  · rw [hsnd]
    dsimp only
    split
    · refine ServerKeeps.traced (ist_answers h hstate hr h1 (.inr rfl) rfl rfl) ?_
      simp [istHandleTransportError, hlabel]
    · refine ServerKeeps.traced (ist_answers h hstate hr h1 (.inr rfl) rfl rfl) ?_
      simp [hlabel, MessageCallback.label.eq_def]

theorem istSnd3456xx_keeps (h : ServerTied istStates t tr) (hstate : t.state = .proceeding)
    (hr : sip.isRequest = false) (h1 : sip.is1xx = false) :
    ServerKeeps istStates tr (traced (istSnd3456xx env t sip)) := by
  have hlabel := sendLabel_answer hr h1
  rw [istSnd3456xx]
  dsimp only
  rcases transactionSnd_cases env sip with hsnd | ⟨host, port, hsnd⟩
  · rw [hsnd]
    refine h.quiet ?_ ?_ ?_ ?_ (.inr ⟨.inr hstate, ?_, ?_⟩) rfl <;>
      simp [istStates, istHandleTransportError, hstate, hr]
  · rw [hsnd]
    dsimp only
    split
    · refine ServerKeeps.traced (ist_answers h hstate hr h1 (.inr rfl) rfl rfl) ?_
      simp [istHandleTransportError, hlabel]
    · refine ServerKeeps.traced (ist_answers h hstate hr h1 (.inl rfl) rfl rfl) ?_
      simp [hlabel]

theorem istRcvAck_keeps (h : ServerTied istStates t tr)
    (hstate : t.state = .completed ∨ t.state = .confirmed)
    (hack : ∃ a, .ack a ∈ tr ∧ Arrived a sip) :
    ServerKeeps istStates tr (traced (istRcvAck env t sip)) := by
  rcases hstate with hs | hs
  · refine ServerKeeps.traced (h.acked ?_ hack ?_ ?_ ?_ (.inl rfl) rfl rfl) ?_ <;>
      simp [istStates, istRcvAck, hs, MessageCallback.label.eq_def]
  · refine ServerKeeps.traced (h.quiet ?_ ?_ ?_ ?_ (.inl rfl) rfl) ?_ <;>
      simp [istStates, istRcvAck, hs, MessageCallback.label.eq_def]

theorem istFsm_keeps {evt : Event} (hP : ∀ l ∈ tr, Sane l) (h : ServerTied istStates t tr)
    (hevt : ∀ m, evt = .incoming m → HeardByServer tr m) :
    ServerKeeps istStates tr (traced (transactionExecute istFsm env t evt)) := by
  refine ist_rule (P := fun _ t evt r => ServerTied istStates t tr →
    (∀ m, evt = .incoming m → HeardByServer tr m) → ServerKeeps istStates tr (traced r))
    (fun _ _ _ h _ => h.quiet Iff.rfl id id id (.inl rfl) rfl) ?_ ?_ ?_ ?_ ?_ ?_ ?_ ?_ env t evt h
    hevt
  · exact fun env t sip hstate _ hi h hevt =>
      istRcvInvite_keeps h hstate hP ((hevt sip rfl).ask hP (isAck_of_isInvite hi))
  · exact fun env t hstate h _ => istTimeoutG_keeps h hstate hP
  · exact fun env t hstate h _ => istTimeoutH_keeps env h hstate
  · exact fun env t sip hstate hr h1 h _ => istSnd1xx_keeps h hstate hr h1
  · exact fun env t sip hstate hr h1 h _ => istSnd2xx_keeps h hstate hr h1
  · exact fun env t sip hstate hr h1 h _ => istSnd3456xx_keeps h hstate hr h1
  · exact fun env t sip hstate ha h hevt => istRcvAck_keeps h hstate ((hevt sip rfl).ack hP ha)
  · exact fun env t hstate h _ => istTimeoutI_keeps env h hstate

end Server

/-! ## The two together -/

/-- The runs of the client of an INVITE with its server. -/
abbrev InviteReach (client : IctTransaction) :
    IctTransaction → Option IstTransaction → List (Label Message) → Prop :=
  ExchangeReach ictFsm istFsm createIst client

/-- **One INVITE, one answer, and its ACK.**  In every run of a client transaction and a server
transaction of an INVITE, over a network that loses, repeats, delays and reorders messages, with
any clocks and any results of sending, whatever the two users do: one INVITE is asked and shown
once; one final response is given, with provisional ones only before it, and shown once; the
client acknowledges nothing before the server has given its final response, always with the same
ACK, and the server shows an ACK once, and none that the client did not send. -/
theorem invite_agreed {now : Int} {id : Nat} {request : Message} {client t : IctTransaction}
    {server : Option IstTransaction} {tr : List (Label Message)}
    (hcreate : createIct now id request = some client)
    (h : InviteReach client t server tr) : Agreed tr := by
  obtain ⟨-, hff, horig, -, hack, -⟩ := transactionInit_spec (createIct_spec hcreate)
  refine exchange_agreed (C := ictStates) (S := istStates) (fun _ _ _ _ => ictFsm_keeps)
    (fun _ _ _ _ => istFsm_keeps) ?_ ⟨horig, hack, hff⟩ h
  intro id sip t' ht'
  obtain ⟨hstate', hff', -, hlast', -, -⟩ := transactionInit_spec (createIst_spec ht')
  exact ⟨hstate', by simp [istStates, hstate'], hlast', hff'⟩

def play : Message where
  sip_version := str "SIP/2.0"
  req_uri := some { host := str "10.0.0.2" }
  sip_method := some (str "INVITE")
  status_code := 0
  vias :=
    [{ version := some (str "2.0")
       protocol := some (str "UDP")
       host := some (str "10.0.0.1")
       via_params := [{ gname := str "branch", gvalue := some (str "z9hG4bK2") }] }]
  sipFrom := some { url := some { host := str "10.0.0.1" } }
  sipTo := some { url := some { host := str "10.0.0.2" } }
  call_id := some { number := str "2" }
  cseq := some { number := str "20", method := str "INVITE" }

def playBusy : Message := { play with sip_method := none, status_code := 486 }

def playClient : IctTransaction := (createIct 0 1 play).get (by decide +kernel)

theorem playClient_created : createIct 0 1 play = some playClient := (Option.some_get _).symm

/-- The ACK that the client builds, as it arrives. -/
def playAck : Message :=
  fixLastViaHeader (str "10.0.0.1") 5060 ((ictCreateAck play playBusy).get (by decide +kernel))

theorem invite_agreed_play :
    ∃ tr, Agreed tr ∧ .conclude playBusy ∈ tr ∧ .acked playAck ∈ tr := by
  have fresh : InviteReach playClient playClient none [] := .start
  have asked := (fresh.client (Action.add (Event.outgoing play)) trivial).client
    (Action.execute ⟨0, 0, 0⟩) trivial
  have served := (asked.server
    (1, Action.add (Event.incoming (fixLastViaHeader (str "10.0.0.1") 5060 play)))
    ⟨play, .inl (by decide +kernel), _, _, rfl⟩).server (1, Action.execute ⟨10, 10, 0⟩) trivial
  have answered := (served.server (1, Action.add (Event.outgoing playBusy)) trivial).server
    (1, Action.execute ⟨20, 20, 0⟩) trivial
  have concluded := (answered.client (Action.add (Event.incoming playBusy))
    ⟨playBusy, .inr (by decide +kernel), arrived_response rfl⟩).client
    (Action.execute ⟨30, 30, 0⟩) trivial
  have acked := (concluded.server (1, Action.add (Event.incoming playAck))
    ⟨(ictCreateAck play playBusy).get (by decide +kernel), .inr (by decide +kernel), _, _, rfl⟩
    ).server (1, Action.execute ⟨40, 40, 0⟩) trivial
  exact ⟨_, invite_agreed playClient_created acked, by decide +kernel, by decide +kernel⟩

end GB28181.Osip
