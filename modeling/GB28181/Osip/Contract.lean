import GB28181.Base.Exchange
import GB28181.Osip.Transaction

/-!
# Transactions and the contract of an exchange

What a transaction does outside of itself, as labels of an exchange, and the invariants that tie
the state of a transaction to the trace of the exchange it is part of.

* `Arrived` — what the other side receives of a message: the transport stamps the top Via of a
  request with the address it came from;
* `labels`, `traced` — the labels of what a transaction does;
* `Sane` — the kinds of messages that labels of sending carry;
* `ClientTied`, `ServerTied` — the invariants of the client and of the server of an exchange, over
  the states that matter; their lemmas are the moves that keep them together with the
  contract: `ClientTied.quiet`, `.asks`, `.informed`, `.concludes`, `.acks_response`,
  `ServerTied.quiet`, `.serves`, `.informs`, `.answers`, `.resends`, `.acked`;
* `client_step`, `server_step` — a machine keeps the contract when each of its methods does;
* `clientStep`, `serverStep`, `ExchangeReach` — the runs of a client with a server, whose
  transaction the first arrival of a request creates.

Principal result: `exchange_agreed` — a client and a server whose methods keep the contract agree
in every run of the two; `Agreed` spells it out for their users.
-/

set_option autoImplicit false

namespace GB28181.Osip

open GB28181.Base

/-! ## Labels -/

def Arrived (m₀ m : Message) : Prop := ∃ ip_addr port, m = fixLastViaHeader ip_addr port m₀

/-- The label of a message that is sent. -/
def sendLabel (m : Message) : Label Message :=
  if m.isRequest then if m.isAck then .ack m else .ask m
  else if m.is1xx then .inform m
  else .answer m

/-- What a callback shows to the user of a transaction for the first time. -/
def MessageCallback.label : MessageCallback → Message → List (Label Message)
  | .ictStatus1xxReceived, m | .nictStatus1xxReceived, m => [.informed m]
  | .ictStatus2xxReceived, m | .ictStatus3xxReceived, m | .ictStatus4xxReceived, m
  | .ictStatus5xxReceived, m | .ictStatus6xxReceived, m => [.conclude m]
  | .nictStatus2xxReceived, m | .nictStatus3xxReceived, m | .nictStatus4xxReceived, m
  | .nictStatus5xxReceived, m | .nictStatus6xxReceived, m => [.conclude m]
  | .istInviteReceived, m => [.serve m]
  | .nistRegisterReceived, m | .nistByeReceived, m | .nistOptionsReceived, m
  | .nistInfoReceived, m | .nistCancelReceived, m | .nistNotifyReceived, m
  | .nistSubscribeReceived, m | .nistUnknownRequestReceived, m => [.serve m]
  | .istAckReceived, m => [.acked m]
  | _, _ => []

def labels : Output → List (Label Message)
  | .send sip _ _ => [sendLabel sip]
  | .callback type (some sip) => type.label sip
  | .callback _ none => []
  | .transportError _ _ => []
  | .kill _ => []

@[simp] theorem labels_send (sip : Message) (host : Option CStr) (port : Int) :
    labels (.send sip host port) = [sendLabel sip] := rfl

@[simp] theorem labels_callback (type : MessageCallback) (sip : Message) :
    labels (.callback type (some sip)) = type.label sip := rfl

@[simp] theorem labels_transportError (kind : FsmType) (err : Int) :
    labels (.transportError kind err) = [] := rfl

@[simp] theorem labels_kill (kind : FsmType) : labels (.kill kind) = [] := rfl

section Traced

variable {κ σ : Type}

/-- A step of a transaction, with its labels. -/
def traced (r : Transaction κ σ × List Output) : Transaction κ σ × List (Label Message) :=
  (r.1, r.2.flatMap labels)

end Traced

theorem isAck_of_isInvite {m : Message} (h : m.isInvite = true) : m.isAck = false := by
  obtain ⟨hr, hm⟩ : m.isRequest = true ∧ m.sip_method = some (str "INVITE") := by
    simpa [Message.isInvite, Message.isMethod] using h
  simp only [Message.isAck, Message.isMethod, hr, hm]
  decide

/-- A label of sending carries a message of its kind. -/
def Sane : Label Message → Prop
  | .ask m => m.isRequest = true ∧ m.isAck = false
  | .ack m => m.isAck = true
  | .inform m => m.isRequest = false ∧ m.is1xx = true
  | .answer m => m.isRequest = false ∧ m.is1xx = false
  | .serve _ | .informed _ | .conclude _ | .acked _ => True

theorem sendLabel_ask {m : Message} (hr : m.isRequest = true) (ha : m.isAck = false) :
    sendLabel m = .ask m := by simp [sendLabel, hr, ha]

theorem sendLabel_ack {m : Message} (ha : m.isAck = true) : sendLabel m = .ack m := by
  have hr : m.isRequest = true := (Bool.and_eq_true _ _ ▸ ha : _ ∧ _).1
  simp [sendLabel, hr, ha]

theorem sendLabel_inform {m : Message} (hr : m.isRequest = false) (hs : m.is1xx = true) :
    sendLabel m = .inform m := by simp [sendLabel, hr, hs]

theorem sendLabel_answer {m : Message} (hr : m.isRequest = false) (hs : m.is1xx = false) :
    sendLabel m = .answer m := by simp [sendLabel, hr, hs]

theorem Arrived.isAck {m₀ m : Message} (h : Arrived m₀ m) : m.isAck = m₀.isAck := by
  obtain ⟨ip_addr, port, rfl⟩ := h
  simp [Message.isAck, Message.isMethod, Message.isRequest]

theorem Arrived.response {m₀ m : Message} (h : Arrived m₀ m) (hr : m₀.isRequest = false) :
    m = m₀ := by
  obtain ⟨ip_addr, port, rfl⟩ := h
  exact fixLastViaHeader_response hr ip_addr port

theorem arrived_response {m : Message} (hr : m.isRequest = false) : Arrived m m :=
  ⟨[], 0, (fixLastViaHeader_response hr [] 0).symm⟩

/-! ## The client of an exchange -/

section Client

variable {κ σ : Type}

/-- The states of a client that matter to an exchange. -/
structure ClientStates (σ : Type) where
  fresh : σ → Prop
  waiting : σ → Prop

variable (C : ClientStates σ)

/-- A response that reaches a client was sent. -/
def HeardByClient (tr : List (Label Message)) (m : Message) : Prop :=
  ∃ m₀, (.inform m₀ ∈ tr ∨ .answer m₀ ∈ tr) ∧ Arrived m₀ m

/-- How the state of a client is tied to the trace: before it is `fresh` no more it has asked
nothing, while it is `waiting` it has concluded nothing. -/
structure ClientTied (t : Transaction κ σ) (tr : List (Label Message)) : Prop where
  asked : ∀ q, .ask q ∈ tr → t.orig_request = some q
  request : ∀ q, t.orig_request = some q → Sane (.ask q)
  unasked : C.fresh t.state → ∀ q, .ask q ∉ tr
  unconcluded : C.waiting t.state → (∀ r, .conclude r ∉ tr) ∧ ∀ a, .ack a ∉ tr
  acks : ∀ a, .ack a ∈ tr → t.ack = some a
  acknowledgement : ∀ a, t.ack = some a → Sane (.ack a)
  heard : ∀ m, .incoming m ∈ t.transactionff → HeardByClient tr m

/-- A step that keeps the invariant of a client and the contract. -/
abbrev ClientKeeps (tr : List (Label Message)) (r : Transaction κ σ × List (Label Message)) :
    Prop :=
  KeepsContract Arrived true Sane (ClientTied C) tr r

variable {C} in
theorem ClientKeeps.traced {tr ls : List (Label Message)} {r : Transaction κ σ × List Output}
    (h : ClientKeeps C tr (r.1, ls)) (hls : r.2.flatMap labels = ls) :
    ClientKeeps C tr (Osip.traced r) := by
  rwa [Osip.traced, hls]

/-- What a client may meet: its user and its clock are free, and what comes in was sent. -/
def ClientHears (tr : List (Label Message)) : Action → Prop
  | .add (.incoming m) => HeardByClient tr m
  | _ => True

variable {C} {t t' : Transaction κ σ} {tr : List (Label Message)}

theorem HeardByClient.mono {m : Message} (h : HeardByClient tr m) (ls : List (Label Message)) :
    HeardByClient (tr ++ ls) m := by
  obtain ⟨m₀, hm₀, harr⟩ := h
  exact ⟨m₀, hm₀.imp (List.mem_append_left ls) (List.mem_append_left ls), harr⟩

theorem HeardByClient.inform {m : Message} (h : HeardByClient tr m) (hP : ∀ l ∈ tr, Sane l)
    (h1 : m.is1xx = true) : .inform m ∈ tr := by
  obtain ⟨m₀, hm₀ | hm₀, harr⟩ := h
  · rwa [harr.response (hP _ hm₀).1]
  · have hne := (hP _ hm₀).2
    rw [harr.response (hP _ hm₀).1, hne] at h1
    exact absurd h1 (by decide)

theorem HeardByClient.answer {m : Message} (h : HeardByClient tr m) (hP : ∀ l ∈ tr, Sane l)
    (h1 : m.is1xx = false) : .answer m ∈ tr := by
  obtain ⟨m₀, hm₀ | hm₀, harr⟩ := h
  · have hne := (hP _ hm₀).2
    rw [harr.response (hP _ hm₀).1, hne] at h1
    exact absurd h1 (by decide)
  · rwa [harr.response (hP _ hm₀).1]

namespace ClientTied

theorem frame {l : Label Message} (h : ClientTied C t tr) (hl : l.ofClient = false) :
    ClientTied C t (tr ++ [l]) where
  asked q hq := h.asked q (by cases l <;> simp_all [Label.ofClient])
  request := h.request
  unasked hf q := by
    have := h.unasked hf q
    cases l <;> simp_all [Label.ofClient]
  unconcluded hw := by
    obtain ⟨hc, ha⟩ := h.unconcluded hw
    exact ⟨fun r => by have := hc r; cases l <;> simp_all [Label.ofClient],
      fun a => by have := ha a; cases l <;> simp_all [Label.ofClient]⟩
  acks a hq := h.acks a (by cases l <;> simp_all [Label.ofClient])
  acknowledgement := h.acknowledgement
  heard m hm := (h.heard m hm).mono [l]

theorem add {evt : Event} (h : ClientTied C t tr)
    (hevt : ∀ m, evt = .incoming m → HeardByClient tr m) :
    ClientKeeps C tr (t.addEvent evt, []) where
  inv := by
    rw [List.append_nil]
    refine ⟨h.asked, h.request, h.unasked, h.unconcluded, h.acks, h.acknowledgement,
      fun m hm => ?_⟩
    rcases List.mem_append.mp hm with hm | hm
    · exact h.heard m hm
    · exact hevt m (List.mem_singleton.mp hm).symm
  legal := trivial
  own := by simp

theorem quiet (h : ClientTied C t tr) (horig : t'.orig_request = t.orig_request)
    (hack : t'.ack = t.ack ∨ C.waiting t.state ∧ t'.ack = none)
    (hfresh : C.fresh t'.state → C.fresh t.state)
    (hwaiting : C.waiting t'.state → C.waiting t.state)
    (hff : t'.transactionff = t.transactionff) :
    ClientKeeps C tr (t', []) where
  inv := by
    rw [List.append_nil]
    refine ⟨fun q hq => horig ▸ h.asked q hq, fun q hq => h.request q (horig ▸ hq),
      fun hf => h.unasked (hfresh hf),
      fun hw => h.unconcluded (hwaiting hw), fun a ha => ?_, fun a ha => ?_,
      fun m hm => h.heard m (hff ▸ hm)⟩
    · rcases hack with hack | ⟨hw, -⟩
      · exact hack ▸ h.acks a ha
      · exact absurd ha ((h.unconcluded hw).2 a)
    · rcases hack with hack | ⟨-, hnone⟩
      · exact h.acknowledgement a (hack ▸ ha)
      · exact nomatch hnone.symm.trans ha
  legal := trivial
  own := by simp

theorem asks {q : Message} (h : ClientTied C t tr)
    (hstart : C.fresh t.state ∨ t.orig_request = some q) (horig : t'.orig_request = some q)
    (hack : t'.ack = t.ack) (hfresh : ¬ C.fresh t'.state)
    (hwaiting : C.waiting t'.state → C.waiting t.state)
    (hff : t'.transactionff = t.transactionff) (hq : Sane (.ask q)) :
    ClientKeeps C tr (t', [.ask q]) := by
  have honly : ∀ q', .ask q' ∈ tr → q' = q := by
    intro q' hq'
    rcases hstart with hf | ho
    · exact absurd hq' (h.unasked hf q')
    · exact Option.some.inj ((h.asked q' hq').symm.trans ho)
  refine ⟨⟨fun q' hq' => ?_, fun q' hq' => ?_, fun hf => absurd hf hfresh, fun hw => ?_,
    fun a ha => ?_, fun a ha => h.acknowledgement a (hack ▸ ha),
    fun m hm => (h.heard m (hff ▸ hm)).mono _⟩, ⟨honly, trivial⟩, by simpa [Label.ofClient]⟩
  · rcases List.mem_append.mp hq' with hq' | hq'
    · rw [honly q' hq', horig]
    · simp_all
  · exact Option.some.inj (horig.symm.trans hq') ▸ hq
  · simpa using h.unconcluded (hwaiting hw)
  · exact hack ▸ h.acks a (by simpa using ha)

theorem informed {r : Message} (h : ClientTied C t tr) (hw : C.waiting t.state)
    (hr : .inform r ∈ tr) (hres : r.isRequest = false)
    (horig : t'.orig_request = t.orig_request) (hack : t'.ack = t.ack)
    (hfresh : C.fresh t'.state → C.fresh t.state) (hff : t'.transactionff = t.transactionff) :
    ClientKeeps C tr (t', [.informed r]) := by
  refine ⟨⟨fun q hq => horig ▸ h.asked q (by simpa using hq),
    fun q hq => h.request q (horig ▸ hq), fun hf q => by simpa using h.unasked (hfresh hf) q,
    fun _ => by simpa using h.unconcluded hw,
    fun a ha => hack ▸ h.acks a (by simpa using ha),
    fun a ha => h.acknowledgement a (hack ▸ ha), fun m hm => (h.heard m (hff ▸ hm)).mono _⟩,
    ⟨⟨⟨r, hr, arrived_response hres⟩, (h.unconcluded hw).1⟩, trivial⟩,
    by simp [Label.ofClient, Sane]⟩

theorem concludes {r : Message} (h : ClientTied C t tr) (hw : C.waiting t.state)
    (hr : .answer r ∈ tr) (hres : r.isRequest = false)
    (horig : t'.orig_request = t.orig_request) (hack : t'.ack = t.ack)
    (hfresh : C.fresh t'.state → C.fresh t.state) (hwaiting : ¬ C.waiting t'.state)
    (hff : t'.transactionff = t.transactionff) :
    ClientKeeps C tr (t', [.conclude r]) := by
  refine ⟨⟨fun q hq => horig ▸ h.asked q (by simpa using hq),
    fun q hq => h.request q (horig ▸ hq), fun hf q => by simpa using h.unasked (hfresh hf) q,
    fun hw' => absurd hw' hwaiting,
    fun a ha => hack ▸ h.acks a (by simpa using ha),
    fun a ha => h.acknowledgement a (hack ▸ ha), fun m hm => (h.heard m (hff ▸ hm)).mono _⟩,
    ⟨⟨⟨r, hr, arrived_response hres⟩, (h.unconcluded hw).1⟩, trivial⟩,
    by simp [Label.ofClient, Sane]⟩

/-- The client acknowledges a final response, for the first time or again. -/
theorem acks_response {a r : Message} (h : ClientTied C t tr)
    (hstart : C.waiting t.state ∨ t.ack = some a) (hr : .answer r ∈ tr)
    (horig : t'.orig_request = t.orig_request) (hack : t'.ack = some a) (ha : a.isAck = true)
    (hfresh : C.fresh t'.state → C.fresh t.state) (hwaiting : ¬ C.waiting t'.state)
    (hff : t'.transactionff = t.transactionff) :
    ClientKeeps C tr (t', [.ack a]) := by
  have honly : ∀ a', .ack a' ∈ tr → a' = a := by
    intro a' ha'
    rcases hstart with hw | ho
    · exact absurd ha' ((h.unconcluded hw).2 a')
    · exact Option.some.inj ((h.acks a' ha').symm.trans ho)
  refine ⟨⟨fun q hq => horig ▸ h.asked q (by simpa using hq),
    fun q hq => h.request q (horig ▸ hq), fun hf q => by simpa using h.unasked (hfresh hf) q,
    fun hw' => absurd hw' hwaiting,
    fun a' ha' => ?_, fun a' ha' => ?_, fun m hm => (h.heard m (hff ▸ hm)).mono _⟩,
    ⟨⟨⟨r, hr⟩, honly⟩, trivial⟩, by simp [Label.ofClient, Sane, ha]⟩
  · rcases List.mem_append.mp ha' with ha' | ha'
    · rw [honly a' ha', hack]
    · simp_all
  · exact Option.some.inj (hack.symm.trans ha') ▸ ha

theorem acks_concludes {a r : Message} (h : ClientTied C t tr) (hw : C.waiting t.state)
    (hr : .answer r ∈ tr) (hres : r.isRequest = false)
    (horig : t'.orig_request = t.orig_request) (hack : t'.ack = some a) (ha : a.isAck = true)
    (hfresh : C.fresh t'.state → C.fresh t.state) (hwaiting : ¬ C.waiting t'.state)
    (hff : t'.transactionff = t.transactionff) :
    ClientKeeps C tr (t', [.ack a, .conclude r]) := by
  have hfirst := h.acks_response (.inl hw) hr horig hack ha hfresh hwaiting hff
  refine ⟨⟨fun q hq => hfirst.inv.asked q (by simpa using hq), hfirst.inv.request,
    fun hf q => by simpa using hfirst.inv.unasked hf q, fun hw' => absurd hw' hwaiting,
    fun a' ha' => hfirst.inv.acks a' (by simpa using ha'), hfirst.inv.acknowledgement,
    fun m hm => (h.heard m (hff ▸ hm)).mono _⟩,
    ⟨hfirst.legal.1, ⟨⟨r, by simp [hr], arrived_response hres⟩, ?_⟩, trivial⟩,
    by simp [Label.ofClient, Sane, ha]⟩
  simpa using (h.unconcluded hw).1

end ClientTied

theorem client_step [DecidableEq σ] {fsm : Machine κ σ}
    (hexec : ∀ env (t : Transaction κ σ) evt tr, (∀ l ∈ tr, Sane l) → ClientTied C t tr →
      (∀ m, evt = .incoming m → HeardByClient tr m) →
      ClientKeeps C tr (traced (transactionExecute fsm env t evt)))
    (hP : ∀ l ∈ tr, Sane l) (h : ClientTied C t tr) (a : Action) (ha : ClientHears tr a) :
    ClientKeeps C tr (traced (fsm.step t a)) := by
  have hsame : ClientKeeps C tr (t, []) := h.quiet rfl (.inl rfl) id id rfl
  cases a with
  | add evt => exact h.add fun m hm => by subst hm; exact ha
  | timers clock =>
    rw [Machine.step, timersExecute]
    split
    · exact h.add fun m hm => nomatch hm
    · exact hsame
  | execute env =>
    rw [Machine.step, executeNext]
    split
    · exact hsame
    · rename_i evt evts hff
      refine hexec env _ evt tr hP ⟨h.asked, h.request, h.unasked, h.unconcluded, h.acks,
        h.acknowledgement, fun m hm => ?_⟩ fun m hm => h.heard m ?_
      · exact h.heard m (hff ▸ List.mem_cons_of_mem evt hm)
      · exact hff ▸ hm ▸ List.mem_cons_self

end Client

/-! ## The server of an exchange -/

section Server

variable {κ σ : Type}

/-- The states of a server that matter to an exchange. -/
structure ServerStates (σ : Type) where
  fresh : σ → Prop
  serving : σ → Prop
  holding : σ → Prop
  noted : σ → Prop

variable (S : ServerStates σ)

/-- A request or an ACK that reaches a server was sent. -/
def HeardByServer (tr : List (Label Message)) (m : Message) : Prop :=
  ∃ m₀, (.ask m₀ ∈ tr ∨ .ack m₀ ∈ tr) ∧ Arrived m₀ m

/-- How the state of a server is tied to the trace: before it is `fresh` no more it has served
nothing, while it is `serving` it has answered nothing finally, while it is `holding` its final
response it has sent it, and before the ACK is `noted` it has shown none. -/
structure ServerTied (t : Transaction κ σ) (tr : List (Label Message)) : Prop where
  unserved : S.fresh t.state → ∀ q, .serve q ∉ tr
  served : ¬ S.fresh t.state → ∃ q, .serve q ∈ tr
  unanswered : S.serving t.state → ∀ r, .answer r ∉ tr
  held : S.holding t.state → ∃ r, .answer r ∈ tr
  answered : ∀ r, .answer r ∈ tr → t.last_response = some r
  response : ∀ r, t.last_response = some r →
    r.isRequest = false ∧ (S.serving t.state → r.is1xx = true)
  unnoted : ¬ S.noted t.state → ∀ a, .acked a ∉ tr
  heard : ∀ m, .incoming m ∈ t.transactionff → HeardByServer tr m

/-- A step that keeps the invariant of a server and the contract. -/
abbrev ServerKeeps (tr : List (Label Message)) (r : Transaction κ σ × List (Label Message)) :
    Prop :=
  KeepsContract Arrived false Sane (ServerTied S) tr r

variable {S} in
theorem ServerKeeps.traced {tr ls : List (Label Message)} {r : Transaction κ σ × List Output}
    (h : ServerKeeps S tr (r.1, ls)) (hls : r.2.flatMap labels = ls) :
    ServerKeeps S tr (Osip.traced r) := by
  rwa [Osip.traced, hls]

/-- What a server may meet: its user and its clock are free, and what comes in was sent. -/
def ServerHears (tr : List (Label Message)) : Action → Prop
  | .add (.incoming m) => HeardByServer tr m
  | _ => True

variable {S} {t t' : Transaction κ σ} {tr : List (Label Message)}

theorem HeardByServer.mono {m : Message} (h : HeardByServer tr m) (ls : List (Label Message)) :
    HeardByServer (tr ++ ls) m := by
  obtain ⟨m₀, hm₀, harr⟩ := h
  exact ⟨m₀, hm₀.imp (List.mem_append_left ls) (List.mem_append_left ls), harr⟩

theorem HeardByServer.ask {m : Message} (h : HeardByServer tr m) (hP : ∀ l ∈ tr, Sane l)
    (ha : m.isAck = false) : ∃ q, .ask q ∈ tr ∧ Arrived q m := by
  obtain ⟨m₀, hm₀ | hm₀, harr⟩ := h
  · exact ⟨m₀, hm₀, harr⟩
  · have hack : m₀.isAck = true := hP _ hm₀
    rw [harr.isAck, hack] at ha
    exact absurd ha (by decide)

theorem HeardByServer.ack {m : Message} (h : HeardByServer tr m) (hP : ∀ l ∈ tr, Sane l)
    (ha : m.isAck = true) : ∃ a, .ack a ∈ tr ∧ Arrived a m := by
  obtain ⟨m₀, hm₀ | hm₀, harr⟩ := h
  · have hack : m₀.isAck = false := (hP _ hm₀).2
    rw [harr.isAck, hack] at ha
    exact absurd ha (by decide)
  · exact ⟨m₀, hm₀, harr⟩

namespace ServerTied

theorem frame {l : Label Message} (h : ServerTied S t tr)
    (hl : l.ofClient = true) : ServerTied S t (tr ++ [l]) where
  unserved hf q := by
    have := h.unserved hf q
    cases l <;> simp_all [Label.ofClient]
  served hf := by
    obtain ⟨q, hq⟩ := h.served hf
    exact ⟨q, List.mem_append_left _ hq⟩
  unanswered hs r := by
    have := h.unanswered hs r
    cases l <;> simp_all [Label.ofClient]
  held hh := by
    obtain ⟨r, hr⟩ := h.held hh
    exact ⟨r, List.mem_append_left _ hr⟩
  answered r hr := h.answered r (by cases l <;> simp_all [Label.ofClient])
  response := h.response
  unnoted hn a := by
    have := h.unnoted hn a
    cases l <;> simp_all [Label.ofClient]
  heard m hm := (h.heard m hm).mono [l]

theorem add {evt : Event} (h : ServerTied S t tr)
    (hevt : ∀ m, evt = .incoming m → HeardByServer tr m) :
    ServerKeeps S tr (t.addEvent evt, []) where
  inv := by
    rw [List.append_nil]
    refine ⟨h.unserved, h.served, h.unanswered, h.held, h.answered, h.response, h.unnoted,
      fun m hm => ?_⟩
    rcases List.mem_append.mp hm with hm | hm
    · exact h.heard m hm
    · exact hevt m (List.mem_singleton.mp hm).symm
  legal := trivial
  own := by simp

theorem quiet (h : ServerTied S t tr)
    (hfresh : S.fresh t'.state ↔ S.fresh t.state)
    (hserving : S.serving t'.state → S.serving t.state)
    (hholding : S.holding t'.state → S.holding t.state)
    (hnoted : S.noted t.state → S.noted t'.state)
    (hlast : t'.last_response = t.last_response ∨
      S.serving t.state ∧ ¬ S.serving t'.state ∧
        ∀ r, t'.last_response = some r → r.isRequest = false)
    (hff : t'.transactionff = t.transactionff) :
    ServerKeeps S tr (t', []) where
  inv := by
    rw [List.append_nil]
    refine ⟨fun hf => h.unserved (hfresh.mp hf), fun hf => h.served (mt hfresh.mpr hf),
      fun hs => h.unanswered (hserving hs), fun hh => h.held (hholding hh), fun r hr => ?_,
      fun r hr => ?_, fun hn => h.unnoted (mt hnoted hn), fun m hm => h.heard m (hff ▸ hm)⟩
    · rcases hlast with hlast | ⟨hs, -, -⟩
      · exact hlast ▸ h.answered r hr
      · exact absurd hr (h.unanswered hs r)
    · rcases hlast with hlast | ⟨-, hns, hres⟩
      · obtain ⟨hres, h1⟩ := h.response r (hlast ▸ hr)
        exact ⟨hres, fun hs => h1 (hserving hs)⟩
      · exact ⟨hres r hr, fun hs => absurd hs hns⟩
  legal := trivial
  own := by simp

theorem serves {q : Message} (h : ServerTied S t tr) (hf : S.fresh t.state)
    (hq : ∃ q₀, .ask q₀ ∈ tr ∧ Arrived q₀ q) (hfresh : ¬ S.fresh t'.state)
    (hserving : S.serving t.state) (hholding : ¬ S.holding t'.state)
    (hnoted : S.noted t.state → S.noted t'.state) (hlast : t'.last_response = t.last_response)
    (hff : t'.transactionff = t.transactionff) :
    ServerKeeps S tr (t', [.serve q]) := by
  refine ⟨⟨fun hf' => absurd hf' hfresh, fun _ => ⟨q, by simp⟩, fun _ r => ?_,
    fun hh => absurd hh hholding, fun r hr => ?_, fun r hr => ?_, fun hn a => ?_,
    fun m hm => (h.heard m (hff ▸ hm)).mono _⟩,
    ⟨⟨hq, h.unserved hf⟩, trivial⟩, by simp [Label.ofClient, Sane]⟩
  · simpa using h.unanswered hserving r
  · exact hlast ▸ h.answered r (by simpa using hr)
  · obtain ⟨hres, h1⟩ := h.response r (hlast ▸ hr)
    exact ⟨hres, fun _ => h1 hserving⟩
  · simpa using h.unnoted (mt hnoted hn) a

/-- The server sends a provisional response, a new one or the last one again. -/
theorem informs {r : Message} (h : ServerTied S t tr) (hf : ¬ S.fresh t.state)
    (hs : S.serving t.state) (hr : Sane (.inform r)) (hfresh : ¬ S.fresh t'.state)
    (hholding : ¬ S.holding t'.state) (hnoted : S.noted t.state → S.noted t'.state)
    (hlast : t'.last_response = some r)
    (hff : t'.transactionff = t.transactionff) :
    ServerKeeps S tr (t', [.inform r]) := by
  refine ⟨⟨fun hf' => absurd hf' hfresh, fun _ => ?_, fun _ r' => ?_,
    fun hh => absurd hh hholding, fun r' hr' => ?_, fun r' hr' => ?_, fun hn a => ?_,
    fun m hm => (h.heard m (hff ▸ hm)).mono _⟩,
    ⟨⟨h.served hf, h.unanswered hs⟩, trivial⟩, by simpa [Label.ofClient]⟩
  · obtain ⟨q, hq⟩ := h.served hf
    exact ⟨q, by simp [hq]⟩
  · simpa using h.unanswered hs r'
  · exact absurd (by simpa using hr') (h.unanswered hs r')
  · rw [hlast, Option.some.injEq] at hr'
    exact hr' ▸ ⟨hr.1, fun _ => hr.2⟩
  · simpa using h.unnoted (mt hnoted hn) a

theorem answers {r : Message} (h : ServerTied S t tr) (hf : ¬ S.fresh t.state)
    (hstart : S.serving t.state ∨ t.last_response = some r) (hr : Sane (.answer r))
    (hfresh : ¬ S.fresh t'.state) (hserving : ¬ S.serving t'.state)
    (hnoted : S.noted t.state → S.noted t'.state)
    (hlast : t'.last_response = some r)
    (hff : t'.transactionff = t.transactionff) :
    ServerKeeps S tr (t', [.answer r]) := by
  have honly : ∀ r', .answer r' ∈ tr → r' = r := by
    intro r' hr'
    rcases hstart with hs | ho
    · exact absurd hr' (h.unanswered hs r')
    · exact Option.some.inj ((h.answered r' hr').symm.trans ho)
  refine ⟨⟨fun hf' => absurd hf' hfresh, fun _ => ?_, fun hs => absurd hs hserving,
    fun _ => ⟨r, by simp⟩, fun r' hr' => ?_, fun r' hr' => ?_, fun hn a => ?_,
    fun m hm => (h.heard m (hff ▸ hm)).mono _⟩,
    ⟨⟨h.served hf, honly⟩, trivial⟩, by simpa [Label.ofClient]⟩
  · obtain ⟨q, hq⟩ := h.served hf
    exact ⟨q, by simp [hq]⟩
  · rcases List.mem_append.mp hr' with hr' | hr'
    · rw [honly r' hr', hlast]
    · simp_all
  · rw [hlast, Option.some.injEq] at hr'
    exact hr' ▸ ⟨hr.1, fun hs => absurd hs hserving⟩
  · simpa using h.unnoted (mt hnoted hn) a

theorem resends {r : Message} {ls : List (Label Message)} (h : ServerTied S t tr)
    (hP : ∀ l ∈ tr, Sane l) (hr : t.last_response = some r) (hls : ls = [] ∨ ls = [sendLabel r])
    (hf : ¬ S.fresh t.state) (hfresh : ¬ S.fresh t'.state)
    (hstart : S.serving t.state ∧ ¬ S.holding t'.state ∨ S.holding t.state ∧ ¬ S.serving t'.state)
    (hserving : S.serving t'.state → S.serving t.state)
    (hholding : S.holding t'.state → S.holding t.state)
    (hnoted : S.noted t.state → S.noted t'.state)
    (hlast : t'.last_response = t.last_response) (hff : t'.transactionff = t.transactionff) :
    ServerKeeps S tr (t', ls) := by
  rcases hls with rfl | rfl
  · exact h.quiet (iff_of_false hfresh hf) hserving hholding hnoted (.inl hlast) hff
  · obtain ⟨hres, h1⟩ := h.response r hr
    rcases hstart with ⟨hs, hnh⟩ | ⟨hh, hns⟩
    · rw [sendLabel_inform hres (h1 hs)]
      exact h.informs hf hs ⟨hres, h1 hs⟩ hfresh hnh hnoted (hlast.trans hr) hff
    · obtain ⟨r', hr'⟩ := h.held hh
      obtain rfl : r' = r := Option.some.inj ((h.answered r' hr').symm.trans hr)
      have hsane : Sane (.answer r') := hP _ hr'
      rw [sendLabel_answer hsane.1 hsane.2]
      exact h.answers hf (.inr hr) hsane hfresh hns hnoted (hlast.trans hr) hff

theorem acked {a : Message} (h : ServerTied S t tr) (hn : ¬ S.noted t.state)
    (ha : ∃ a₀, .ack a₀ ∈ tr ∧ Arrived a₀ a) (hfresh : S.fresh t'.state ↔ S.fresh t.state)
    (hserving : S.serving t'.state → S.serving t.state)
    (hholding : S.holding t'.state → S.holding t.state)
    (hnoted : S.noted t'.state)
    (hlast : t'.last_response = t.last_response) (hff : t'.transactionff = t.transactionff) :
    ServerKeeps S tr (t', [.acked a]) := by
  refine ⟨⟨fun hf q => ?_, fun hf => ?_, fun hs r => ?_, fun hh => ?_, fun r hr => ?_,
    fun r hr => ?_,
    fun hn' => absurd hnoted hn', fun m hm => (h.heard m (hff ▸ hm)).mono _⟩,
    ⟨⟨ha, h.unnoted hn⟩, trivial⟩, by simp [Label.ofClient, Sane]⟩
  · simpa using h.unserved (hfresh.mp hf) q
  · obtain ⟨q, hq⟩ := h.served (mt hfresh.mpr hf)
    exact ⟨q, by simp [hq]⟩
  · simpa using h.unanswered (hserving hs) r
  · obtain ⟨r, hr⟩ := h.held (hholding hh)
    exact ⟨r, by simp [hr]⟩
  · exact hlast ▸ h.answered r (by simpa using hr)
  · obtain ⟨hres, h1⟩ := h.response r (hlast ▸ hr)
    exact ⟨hres, fun hs => h1 (hserving hs)⟩

end ServerTied

theorem server_step [DecidableEq σ] {fsm : Machine κ σ}
    (hexec : ∀ env (t : Transaction κ σ) evt tr, (∀ l ∈ tr, Sane l) → ServerTied S t tr →
      (∀ m, evt = .incoming m → HeardByServer tr m) →
      ServerKeeps S tr (traced (transactionExecute fsm env t evt)))
    (hP : ∀ l ∈ tr, Sane l) (h : ServerTied S t tr) (a : Action) (ha : ServerHears tr a) :
    ServerKeeps S tr (traced (fsm.step t a)) := by
  have hsame : ServerKeeps S tr (t, []) := h.quiet Iff.rfl id id id (.inl rfl) rfl
  cases a with
  | add evt => exact h.add fun m hm => by subst hm; exact ha
  | timers clock =>
    rw [Machine.step, timersExecute]
    split
    · exact h.add fun m hm => nomatch hm
    · exact hsame
  | execute env =>
    rw [Machine.step, executeNext]
    split
    · exact hsame
    · rename_i evt evts hff
      refine hexec env _ evt tr hP ⟨h.unserved, h.served, h.unanswered, h.held, h.answered,
        h.response, h.unnoted, fun m hm => ?_⟩ fun m hm => h.heard m ?_
      · exact h.heard m (hff ▸ List.mem_cons_of_mem evt hm)
      · exact hff ▸ hm ▸ List.mem_cons_self

end Server

/-! ## A client and a server -/

section Exchange

variable {κ σ κ' σ' : Type} [DecidableEq σ] [DecidableEq σ']

/-- A step of the client of an exchange. -/
def clientStep (fsm : Machine κ σ) (a : Action) (t : Transaction κ σ) :
    Transaction κ σ × List (Label Message) :=
  traced (fsm.step t a)

/-- A step of the server of an exchange: a request that finds no transaction creates one, with the
given identifier, and joins its queue. -/
def serverStep (fsm : Machine κ σ) (create : Nat → Message → Option (Transaction κ σ))
    (k : Nat × Action) :
    Option (Transaction κ σ) → Option (Transaction κ σ) × List (Label Message)
  | some t => (some (traced (fsm.step t k.2)).1, (traced (fsm.step t k.2)).2)
  | none =>
    match k.2 with
    | .add (.incoming sip) => ((create k.1 sip).map (·.addEvent (.incoming sip)), [])
    | _ => (none, [])

/-- The runs of a client transaction with a server transaction that is not there yet. -/
abbrev ExchangeReach (clientFsm : Machine κ σ) (serverFsm : Machine κ' σ')
    (create : Nat → Message → Option (Transaction κ' σ')) (client : Transaction κ σ) :
    Transaction κ σ → Option (Transaction κ' σ') → List (Label Message) → Prop :=
  Reach (clientStep clientFsm) (serverStep serverFsm create) ClientHears
    (fun tr k => ServerHears tr k.2) client none

/-- The invariant of a server that may not be there yet. -/
def ServerTiedOpt (S : ServerStates σ) :
    Option (Transaction κ σ) → List (Label Message) → Prop
  | none, tr => ∀ l ∈ tr, l.ofClient = true
  | some t, tr => ServerTied S t tr

omit [DecidableEq σ] in
theorem ServerTied.new {S : ServerStates σ} {t : Transaction κ σ} {tr : List (Label Message)}
    (hfresh : S.fresh t.state) (hholding : ¬ S.holding t.state) (hlast : t.last_response = none)
    (hff : t.transactionff = []) (htr : ∀ l ∈ tr, l.ofClient = true) : ServerTied S t tr where
  unserved _ q hq := nomatch htr _ hq
  served hf := absurd hfresh hf
  unanswered _ r hr := nomatch htr _ hr
  held hh := absurd hh hholding
  answered r hr := nomatch htr _ hr
  response r hr := nomatch hlast.symm.trans hr
  unnoted _ a ha := nomatch htr _ ha
  heard m hm := by rw [hff] at hm; exact nomatch hm

/-- What an exchange means to the two users. -/
structure Agreed (tr : List (Label Message)) : Prop where
  /-- Whatever was sent or shown was allowed when it happened. -/
  legal : Legal Arrived tr
  /-- The user of the server is shown one request, once. -/
  served : ∀ pre q post, tr = pre ++ .serve q :: post →
    ∀ q', .serve q' ∉ pre ∧ .serve q' ∉ post
  /-- The user of the client is shown one final response, once. -/
  concluded : ∀ pre r post, tr = pre ++ .conclude r :: post →
    ∀ r', .conclude r' ∉ pre ∧ .conclude r' ∉ post
  /-- It is the response that the server gave to what arrived of the client's own request. -/
  agree : ∀ r, .conclude r ∈ tr →
    .answer r ∈ tr ∧ ∃ q q', .ask q ∈ tr ∧ Arrived q q' ∧ .serve q' ∈ tr

theorem Agreed.of_legal {tr : List (Label Message)} (h : Legal Arrived tr)
    (hP : ∀ l ∈ tr, Sane l) : Agreed tr where
  legal := h
  served _ _ _ htr _ := h.serve_once htr
  concluded _ _ _ htr _ := h.conclude_once htr
  agree r hr := by
    obtain ⟨q, q', r₀, hq, hq', hserve, hr₀, hr⟩ := h.agree hr
    obtain rfl : r = r₀ := hr.response (hP _ hr₀).1
    exact ⟨hr₀, q, q', hq, hq', hserve⟩

/-- A server that may not be there yet keeps the contract when each of its methods does. -/
theorem serverStep_keeps {fsm : Machine κ σ}
    {create : Nat → Message → Option (Transaction κ σ)} {S : ServerStates σ}
    (hexec : ∀ env (t : Transaction κ σ) evt tr, (∀ l ∈ tr, Sane l) → ServerTied S t tr →
      (∀ m, evt = .incoming m → HeardByServer tr m) →
      ServerKeeps S tr (traced (transactionExecute fsm env t evt)))
    (hcreate : ∀ id sip t, create id sip = some t →
      S.fresh t.state ∧ ¬ S.holding t.state ∧ t.last_response = none ∧ t.transactionff = [])
    {server : Option (Transaction κ σ)} {tr : List (Label Message)} (hP : ∀ l ∈ tr, Sane l)
    (h : ServerTiedOpt S server tr) (k : Nat × Action) (hears : ServerHears tr k.2) :
    KeepsContract Arrived false Sane (ServerTiedOpt S) tr (serverStep fsm create k server) := by
  obtain ⟨id, a⟩ := k
  cases server with
  | some t =>
    have hkeeps := server_step hexec hP h a hears
    exact ⟨hkeeps.inv, hkeeps.legal, hkeeps.own⟩
  | none =>
    have hnone : ServerTiedOpt S (none : Option (Transaction κ σ)) (tr ++ []) := by
      rwa [List.append_nil]
    cases a with
    | timers clock => exact ⟨hnone, trivial, by simp [serverStep]⟩
    | execute env => exact ⟨hnone, trivial, by simp [serverStep]⟩
    | add evt =>
      cases evt with
      | timer t => exact ⟨hnone, trivial, by simp [serverStep]⟩
      | outgoing sip => exact ⟨hnone, trivial, by simp [serverStep]⟩
      | incoming sip =>
        refine ⟨?_, trivial, by simp [serverStep]⟩
        dsimp only [serverStep]
        cases hnewt : create id sip with
        | none => exact hnone
        | some t =>
          obtain ⟨hfresh, hholding, hlast, hff⟩ := hcreate id sip t hnewt
          have htied := ServerTied.new hfresh hholding hlast hff h
          exact (htied.add fun m hm => by cases hm; exact hears).inv

omit [DecidableEq σ] in
theorem ServerTiedOpt.frame {S : ServerStates σ} {server : Option (Transaction κ σ)}
    {tr : List (Label Message)} {l : Label Message} (h : ServerTiedOpt S server tr)
    (hl : l.ofClient = true) : ServerTiedOpt S server (tr ++ [l]) := by
  cases server with
  | some t => exact ServerTied.frame h hl
  | none =>
    intro l' hl'
    rcases List.mem_append.mp hl' with hl' | hl'
    · exact h l' hl'
    · rw [List.mem_singleton.mp hl', hl]

/-- A client and a server whose methods keep the contract agree in every run of the two. -/
theorem exchange_agreed {clientFsm : Machine κ σ} {serverFsm : Machine κ' σ'}
    {create : Nat → Message → Option (Transaction κ' σ')} {C : ClientStates σ}
    {S : ServerStates σ'}
    (hclient : ∀ env (t : Transaction κ σ) evt tr, (∀ l ∈ tr, Sane l) → ClientTied C t tr →
      (∀ m, evt = .incoming m → HeardByClient tr m) →
      ClientKeeps C tr (traced (transactionExecute clientFsm env t evt)))
    (hserver : ∀ env (t : Transaction κ' σ') evt tr, (∀ l ∈ tr, Sane l) → ServerTied S t tr →
      (∀ m, evt = .incoming m → HeardByServer tr m) →
      ServerKeeps S tr (traced (transactionExecute serverFsm env t evt)))
    (hcreate : ∀ id sip t, create id sip = some t →
      S.fresh t.state ∧ ¬ S.holding t.state ∧ t.last_response = none ∧ t.transactionff = [])
    {client t : Transaction κ σ} {server : Option (Transaction κ' σ')}
    {tr : List (Label Message)}
    (hnew : client.orig_request = none ∧ client.ack = none ∧ client.transactionff = [])
    (h : ExchangeReach clientFsm serverFsm create client t server tr) : Agreed tr := by
  have hstart : ClientTied C client [] :=
    ⟨by simp, by simp [hnew.1], by simp, by simp, by simp, by simp [hnew.2.1], by simp [hnew.2.2]⟩
  obtain ⟨-, -, hlegal, hP⟩ := Reach.legal (P := Sane) (I := ClientTied C)
    (J := ServerTiedOpt S) hstart (by simp [ServerTiedOpt])
    (fun _ _ a hP hinv hears => client_step hclient hP hinv a hears)
    (fun _ _ k hP hinv hears => serverStep_keeps hserver hcreate hP hinv k hears)
    (fun _ _ _ hinv hl => hinv.frame hl) (fun _ _ _ hinv hl => hinv.frame hl) h
  exact .of_legal hlegal hP

end Exchange

end GB28181.Osip
