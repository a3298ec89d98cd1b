import GB28181.Osip.Ict
import GB28181.Osip.Ist
import GB28181.Osip.Nict
import GB28181.Osip.Rounds

/-!
# The deadlines of a transaction

What is left to do of a transaction once its final response has gone by has an end: the timers D,
H, I, J and K.

* `startTimer_eq` — a timer that is started ends when its length has passed;
* `nictFsm_keepsQueue`, `nistFsm_keepsQueue`, `ictFsm_keepsQueue`, `istFsm_keepsQueue` — no method
  touches the queue;
* `Arms`, `StopsBy` — whoever enters some states starts the timer that leads out of them;
* `Passes` — nobody leaves them but for others that are final, and nobody moves the timer;
* `EndsWithin` — a transaction that is in some states when some rounds are over is out of them
  after a later round that comes more than a length of time later.

Principal result: `transaction_deadlines`.
-/

set_option autoImplicit false

namespace GB28181.Osip

open GB28181.Base

/-- A timer of less than a thousand seconds ends when its length has passed. -/
theorem startTimer_eq {now ms : Int} (h : ms < 1000000) : startTimer now ms = some (now + ms) := by
  rw [startTimer, if_neg (by omega)]

/-! ## The queue -/

theorem nictFsm_keepsQueue : KeepsQueue nictFsm := by
  refine nict_rule (P := fun _ t _ r => r.1.transactionff = t.transactionff) (fun _ _ _ => rfl)
    ?_ ?_ (fun _ _ _ => rfl) (fun _ _ _ => rfl) (fun _ _ _ _ _ _ => rfl)
    (fun _ _ _ _ _ _ => rfl)
  · grind [nictSndRequest, nictHandleTransportError]
  · grind [nictTimeoutE, nictHandleTransportError]

theorem nistFsm_keepsQueue : KeepsQueue nistFsm := by
  refine nist_rule (P := fun _ t _ r => r.1.transactionff = t.transactionff) (fun _ _ _ => rfl)
    ?_ ?_ ?_ (fun _ _ _ => rfl)
  · grind [nistRcvRequest, nistHandleTransportError]
  · grind [nistSnd1xx, nistHandleTransportError]
  · grind [nistSnd23456xx, nistHandleTransportError]

theorem ictFsm_keepsQueue : KeepsQueue ictFsm := by
  refine ict_rule (P := fun _ t _ r => r.1.transactionff = t.transactionff) (fun _ _ _ => rfl)
    ?_ ?_ (fun _ _ _ => rfl) (fun _ _ _ _ _ _ => rfl) (fun _ _ _ _ _ _ _ => rfl) ?_ ?_
    (fun _ _ _ => rfl)
  · grind [ictSndInvite, ictSendInvite, ictHandleTransportError]
  · grind [ictTimeoutA, ictSendInvite, ictHandleTransportError]
  · grind [ictRcv3456xx, ictHandleTransportError]
  · grind [ictRetransmitAck, ictHandleTransportError]

theorem istFsm_keepsQueue : KeepsQueue istFsm := by
  refine ist_rule (P := fun _ t _ r => r.1.transactionff = t.transactionff) (fun _ _ _ => rfl)
    ?_ ?_ (fun _ _ _ => rfl) ?_ ?_ ?_ (fun _ _ _ _ _ => rfl) (fun _ _ _ => rfl)
  · grind [istRcvInvite, istHandleTransportError]
  · grind [istTimeoutG, istHandleTransportError]
  · grind [istSnd1xx, istHandleTransportError]
  · grind [istSnd2xx, istHandleTransportError]
  · grind [istSnd3456xx, istHandleTransportError]

/-! ## Starting a timer and waiting for it -/

section Timers

variable {κ σ : Type}

/-- The timer was started and stops by then. -/
def StopsBy (stop : κ → Option Int) (context : κ) (time : Int) : Prop :=
  ∃ s ≤ time, stop context = some s

/-- How the timer of some states is handled: it keeps its length until it has run out, and whoever
enters the states, or stays in them, starts it or leaves it alone. -/
structure Arms (W : σ → Prop) (len : κ → Int) (stop : κ → Option Int) (env : Env)
    (t : Transaction κ σ) (r : Transaction κ σ × List Output) : Prop where
  kept : len r.1.context = len t.context ∨ len r.1.context = -1
  started : W r.1.state → (W t.state ∧ stop r.1.context = stop t.context) ∨
    stop r.1.context = startTimer env.now (len t.context) ∨
    stop r.1.context = startTimer env.again (len t.context)

/-- Nobody leaves some states but for others that are final, and nobody moves the timer. -/
structure Passes (W Out : σ → Prop) (stop : κ → Option Int) (t : Transaction κ σ)
    (r : Transaction κ σ × List Output) : Prop where
  inside : W t.state → (W r.1.state ∧ stop r.1.context = stop t.context) ∨ Out r.1.state
  outside : Out t.state → Out r.1.state

variable {W Out : σ → Prop} {len : κ → Int} {stop : κ → Option Int}

theorem Arms.useless (env : Env) (t : Transaction κ σ) : Arms W len stop env t (t, []) :=
  ⟨.inl rfl, fun h => .inl ⟨h, rfl⟩⟩

theorem Arms.elsewhere {env : Env} {t : Transaction κ σ} {r : Transaction κ σ × List Output}
    (hkept : len r.1.context = len t.context ∨ len r.1.context = -1) (hW : ¬ W r.1.state) :
    Arms W len stop env t r :=
  ⟨hkept, fun h => absurd h hW⟩

theorem Passes.elsewhere {t : Transaction κ σ} {r : Transaction κ σ × List Output}
    (hW : ¬ W t.state) (hOut : ¬ Out t.state) : Passes W Out stop t r :=
  ⟨fun h => absurd h hW, fun h => absurd h hOut⟩

theorem Passes.useless (t : Transaction κ σ) : Passes W Out stop t (t, []) :=
  ⟨fun h => .inl ⟨h, rfl⟩, id⟩

variable [DecidableEq σ] {fsm : Machine κ σ}

/-- In every round the timer is started for no longer than its length after the round. -/
theorem Arms.run (hqueue : KeepsQueue fsm)
    (harms : ∀ env t evt, Arms W len stop env t (transactionExecute fsm env t evt)) {L : Int}
    (hL : 0 ≤ L ∧ L < 1000000) {start : Int} {t : Transaction κ σ} {rounds : List Round}
    (htimely : Timely start rounds) (hempty : t.transactionff = []) (hlen : len t.context ≤ L)
    (hW : ¬ W t.state) :
    (fsm.run t rounds).1.transactionff = [] ∧
      (W (fsm.run t rounds).1.state →
        StopsBy stop (fsm.run t rounds).1.context (settledAt start rounds + L)) := by
  have hrun := run_rule fsm
    (I := fun now t _ => len t.context ≤ L ∧ (W t.state → StopsBy stop t.context (now + L)))
    (fun now t log r _ hff hnow hI => ?_) [] htimely hempty ⟨hlen, fun h => absurd h hW⟩
  · exact ⟨hrun.1, hrun.2.2⟩
  · -- within a round every reading of the clock is at most its end
    have hstep : ∀ env t evt, env ∈ r.envs →
        (len t.context ≤ L ∧ (W t.state → StopsBy stop t.context (r.finish + L))) →
        len (transactionExecute fsm env t evt).1.context ≤ L ∧
          (W (transactionExecute fsm env t evt).1.state →
            StopsBy stop (transactionExecute fsm env t evt).1.context (r.finish + L)) := by
      intro env t evt henv ⟨hlen, hstop⟩
      obtain ⟨-, hagain, hfinish⟩ := r.within 0 env henv
      have h := harms env t evt
      refine ⟨by rcases h.kept with h | h <;> omega, fun hW => ?_⟩
      rcases h.started hW with ⟨hin, hsame⟩ | hnow | hagain'
      · obtain ⟨s, hs, hsome⟩ := hstop hin
        exact ⟨s, hs, hsame.trans hsome⟩
      · exact ⟨env.now + len t.context, by omega, by rw [hnow, startTimer_eq (by omega)]⟩
      · exact ⟨env.again + len t.context, by omega, by rw [hagain', startTimer_eq (by omega)]⟩
    have hfinish : now ≤ r.finish := hnow.trans (r.clock_le_finish 0)
    refine round_rule (r := r)
      (J := fun _ t _ => len t.context ≤ L ∧ (W t.state → StopsBy stop t.context (r.finish + L)))
      hqueue (fun _ _ _ _ h => h) (fun _ env t evt _ henv _ h => hstep env t evt henv h)
      (fun timer env t _ henv h => hstep env t _ henv h) log hff ⟨hI.1, fun hW => ?_⟩
    obtain ⟨s, hs, hsome⟩ := hI.2 hW
    exact ⟨s, by omega, hsome⟩

theorem Passes.deadline {calm idle : Event → Prop} {timer : Timer} {time : Int}
    (hpasses : ∀ env t evt, Meets calm evt →
      Passes W Out stop t (transactionExecute fsm env t evt))
    (hdisjoint : ∀ s, Out s → ¬ W s)
    (hleaves : ∀ env t, W t.state → Out (transactionExecute fsm env t (.timer timer)).1.state)
    (hdue : ∀ (t : Transaction κ σ) clock s, (∀ evt ∈ t.transactionff, idle evt) → W t.state →
      stop t.context = some s → (∀ i, s < clock i) → fsm.dueTimer t clock = some timer) :
    Deadline fsm calm (fun s c => (W s ∧ StopsBy stop c time) ∨ Out s) (fun s _ => W s) timer
      (fun r => time < r.clock 0 ∧ ∀ evt ∈ r.arrivals, idle evt) where
  keeps env t evt hmeets h := by
    have hp := hpasses env t evt hmeets
    rcases h with ⟨hW, s, hs, hsome⟩ | hOut
    · rcases hp.inside hW with ⟨hW', hsame⟩ | hOut
      · exact .inl ⟨hW', s, hs, hsame.trans hsome⟩
      · exact .inr hOut
    · exact .inr (hp.outside hOut)
  back env t evt hmeets h hW := by
    rcases h with ⟨hin, -⟩ | hOut
    · exact hin
    · exact absurd hW (hdisjoint _ ((hpasses env t evt hmeets).outside hOut))
  leaves env t h hW := by
    rcases h with ⟨hin, -⟩ | hOut
    · exact hdisjoint _ (hleaves env t hin) hW
    · exact hdisjoint _ ((hpasses env t _ (.inr ⟨timer, rfl⟩)).outside hOut) hW
  due t r hlate hff h hW := by
    rcases h with ⟨-, s, hs, hsome⟩ | hOut
    · refine hdue t r.clock s (hff ▸ hlate.2) hW hsome fun i => ?_
      exact hs.trans_lt (hlate.1.trans_le (r.ordered (Nat.zero_le i)))
    · exact absurd hW (hdisjoint _ hOut)

end Timers

/-- A transaction that is in `W` when some rounds are over is in `Out` after a later one that comes
more than `L` milliseconds later, if nothing but calm messages come after those rounds and nothing
but idle ones in the late round. -/
def EndsWithin {κ σ : Type} [DecidableEq σ] (fsm : Machine κ σ)
    (create : Int → Nat → Message → Option (Transaction κ σ)) (W Out : σ → Prop) (L : Int)
    (calm idle : Event → Prop) : Prop :=
  ∀ start transactionid request t, create start transactionid request = some t →
    ∀ rounds rest, Timely start (rounds ++ rest) → W (fsm.run t rounds).1.state →
      (∀ r ∈ rest, ∀ evt ∈ r.arrivals, calm evt) →
      (∃ r ∈ rest, settledAt start rounds + L < r.clock 0 ∧ ∀ evt ∈ r.arrivals, idle evt) →
      Out (fsm.run t (rounds ++ rest)).1.state

/-- Where the timer is started on the way in and passes, its states have an end. -/
theorem EndsWithin.of_timer {κ σ : Type} [DecidableEq σ] {fsm : Machine κ σ}
    {create : Int → Nat → Message → Option (Transaction κ σ)} {W Out : σ → Prop} {L : Int}
    {calm idle : Event → Prop} {timer : Timer} {len : κ → Int} {stop : κ → Option Int}
    (hqueue : KeepsQueue fsm)
    (hcreate : ∀ start transactionid request t, create start transactionid request = some t →
      t.transactionff = [] ∧ ¬ W t.state ∧ len t.context ≤ L)
    (hL : 0 ≤ L ∧ L < 1000000)
    (harms : ∀ env t evt, Arms W len stop env t (transactionExecute fsm env t evt))
    (hdeadline : ∀ time, Deadline fsm calm (fun s c => (W s ∧ StopsBy stop c time) ∨ Out s)
      (fun s _ => W s) timer (fun r => time < r.clock 0 ∧ ∀ evt ∈ r.arrivals, idle evt)) :
    EndsWithin fsm create W Out L calm idle := by
  intro start transactionid request t ht rounds rest htimely hW hcalm hlate
  obtain ⟨hempty, hpre, hlen⟩ := hcreate start transactionid request t ht
  obtain ⟨hff, hstop⟩ :=
    Arms.run hqueue harms hL (timely_append.mp htimely).1 hempty hlen hpre
  obtain ⟨hG, hnone⟩ := (hdeadline (settledAt start rounds + L)).run hqueue hcalm hff
    (.inl ⟨hW, hstop hW⟩)
  rw [Machine.run_append]
  rcases hG with ⟨hin, -⟩ | hOut
  · obtain ⟨r, hr, hrlate⟩ := hlate
    exact absurd hrlate ((hnone hin).2 r hr)
  · exact hOut

/-! ## The client of a request other than INVITE -/

theorem nictFsm_arms (env : Env) (t : NictTransaction) (evt : Event) :
    Arms (· = .completed) Nict.timer_k_length Nict.timer_k_start env t
      (transactionExecute nictFsm env t evt) := by
  refine nict_rule (P := fun env t _ r => Arms _ _ _ env t r) (fun env t _ => .useless env t)
    ?_ ?_ ?_ ?_ ?_ ?_ env t evt
  · exact fun env t sip _ _ _ => by constructor <;> grind [nictSndRequest, nictHandleTransportError]
  · exact fun env t _ => by constructor <;> grind [nictTimeoutE, nictHandleTransportError]
  · exact fun env t _ => .elsewhere (.inl rfl) (fun h => by cases h)
  · exact fun env t _ => .elsewhere (.inr rfl) (fun h => by cases h)
  · exact fun env t sip _ _ _ => by constructor <;> grind [nictRcv1xx]
  · exact fun env t sip _ _ _ => by constructor <;> grind [nictRcv23456xx]

theorem nictFsm_passes (env : Env) (t : NictTransaction) (evt : Event) :
    Passes (· = .completed) (· = .terminated) Nict.timer_k_start t
      (transactionExecute nictFsm env t evt) := by
  refine nict_rule (P := fun _ t _ r => Passes _ _ _ t r) (fun _ t _ => .useless t)
    ?_ ?_ ?_ ?_ ?_ ?_ env t evt
  · exact fun _ _ _ h _ _ => .elsewhere (by simp [h]) (by simp [h])
  · exact fun _ _ h => .elsewhere h.ne_completed h.live
  · exact fun _ _ _ => ⟨fun _ => .inr rfl, fun _ => rfl⟩
  · exact fun _ _ _ => ⟨fun _ => .inr rfl, fun _ => rfl⟩
  · exact fun _ _ _ h _ _ => .elsewhere h.ne_completed h.live
  · exact fun _ _ _ h _ _ => .elsewhere h.ne_completed h.live

theorem nictFsm_deadlineK (time : Int) :
    Deadline nictFsm (fun _ => True)
      (fun s c => (s = .completed ∧ StopsBy Nict.timer_k_start c time) ∨ s = .terminated)
      (fun s _ => s = .completed) .k
      (fun r => time < r.clock 0 ∧ ∀ evt ∈ r.arrivals, True) := by
  refine Passes.deadline (fun env t evt _ => nictFsm_passes env t evt) (by simp) ?_ ?_
  · intro env t h
    simp [transactionExecute, nictFsm, nictTransition, findMethod, Event.type, h, Method.call,
      nictTimeoutK]
  · intro t clock s _ h hstop hlate
    simp [nictFsm, nictDueTimer, needTimerXEvent, h, hstop, hlate 0]

/-! ## The server of a request other than INVITE -/

theorem nistFsm_arms (env : Env) (t : NistTransaction) (evt : Event) :
    Arms (· = .completed) Nist.timer_j_length Nist.timer_j_start env t
      (transactionExecute nistFsm env t evt) := by
  refine nist_rule (P := fun env t _ r => Arms _ _ _ env t r) (fun env t _ => .useless env t)
    ?_ ?_ ?_ ?_ env t evt
  · exact fun env t sip _ _ _ => by constructor <;> grind [nistRcvRequest, nistHandleTransportError]
  · exact fun env t sip _ _ _ => by constructor <;> grind [nistSnd1xx, nistHandleTransportError]
  · exact fun env t sip _ _ _ => by constructor <;> grind [nistSnd23456xx, nistHandleTransportError]
  · exact fun env t _ => .elsewhere (.inr rfl) (fun h => by cases h)

theorem nistFsm_passes (env : Env) (t : NistTransaction) (evt : Event) :
    Passes (· = .completed) (· = .terminated) Nist.timer_j_start t
      (transactionExecute nistFsm env t evt) := by
  refine nist_rule (P := fun _ t _ r => Passes _ _ _ t r) (fun _ t _ => .useless t)
    ?_ ?_ ?_ ?_ env t evt
  · exact fun env t sip h _ _ => by constructor <;> grind [nistRcvRequest, nistHandleTransportError]
  · exact fun _ _ _ h _ _ => .elsewhere h.ne_completed h.live
  · exact fun _ _ _ h _ _ => .elsewhere h.ne_completed h.live
  · exact fun _ _ _ => ⟨fun _ => .inr rfl, fun _ => rfl⟩

theorem nistFsm_deadlineJ (time : Int) :
    Deadline nistFsm (fun _ => True)
      (fun s c => (s = .completed ∧ StopsBy Nist.timer_j_start c time) ∨ s = .terminated)
      (fun s _ => s = .completed) .j
      (fun r => time < r.clock 0 ∧ ∀ evt ∈ r.arrivals, True) := by
  refine Passes.deadline (fun env t evt _ => nistFsm_passes env t evt) (by simp) ?_ ?_
  · intro env t h
    simp [transactionExecute, nistFsm, nistTransition, findMethod, Event.type, h, Method.call,
      nistTimeoutJ]
  · intro t clock s _ h hstop hlate
    simp [nistFsm, nistDueTimer, needTimerXEvent, h, hstop, hlate 0]

/-! ## The client of an INVITE -/

theorem ictFsm_arms (env : Env) (t : IctTransaction) (evt : Event) :
    Arms (· = .completed) Ict.timer_d_length Ict.timer_d_start env t
      (transactionExecute ictFsm env t evt) := by
  refine ict_rule (P := fun env t _ r => Arms _ _ _ env t r) (fun env t _ => .useless env t)
    ?_ ?_ ?_ ?_ ?_ ?_ ?_ ?_ env t evt
  · exact fun env t sip _ _ _ => by
      constructor <;> grind [ictSndInvite, ictSendInvite, ictHandleTransportError]
  · exact fun env t _ => by
      constructor <;> grind [ictTimeoutA, ictSendInvite, ictHandleTransportError]
  · exact fun env t _ => .elsewhere (.inl rfl) (fun h => by cases h)
  · exact fun env t sip _ _ _ => .elsewhere (.inl rfl) (fun h => by cases h)
  · exact fun env t sip _ _ _ _ => .elsewhere (.inl rfl) (fun h => by cases h)
  · exact fun env t sip _ _ _ _ => by constructor <;> grind [ictRcv3456xx, ictHandleTransportError]
  · exact fun env t sip _ _ _ _ => by
      constructor <;> grind [ictRetransmitAck, ictHandleTransportError]
  · exact fun env t _ => .elsewhere (.inr rfl) (fun h => by cases h)

theorem ictFsm_passes (env : Env) (t : IctTransaction) (evt : Event) :
    Passes (· = .completed) (· = .terminated) Ict.timer_d_start t
      (transactionExecute ictFsm env t evt) := by
  refine ict_rule (P := fun _ t _ r => Passes _ _ _ t r) (fun _ t _ => .useless t)
    ?_ ?_ ?_ ?_ ?_ ?_ ?_ ?_ env t evt
  · exact fun _ _ _ h _ _ => .elsewhere (by simp [h]) (by simp [h])
  · exact fun _ _ h => .elsewhere (by simp [h]) (by simp [h])
  · exact fun _ _ h => .elsewhere (by simp [h]) (by simp [h])
  · exact fun _ _ _ h _ _ => .elsewhere h.ne_completed h.live
  · exact fun _ _ _ h _ _ _ => .elsewhere h.ne_completed h.live
  · exact fun _ _ _ h _ _ _ => .elsewhere h.ne_completed h.live
  · exact fun env t sip h _ _ _ => by
      constructor <;> grind [ictRetransmitAck, ictHandleTransportError]
  · exact fun _ _ _ => ⟨fun _ => .inr rfl, fun _ => rfl⟩

theorem ictFsm_deadlineD (time : Int) :
    Deadline ictFsm (fun _ => True)
      (fun s c => (s = .completed ∧ StopsBy Ict.timer_d_start c time) ∨ s = .terminated)
      (fun s _ => s = .completed) .d
      (fun r => time < r.clock 0 ∧ ∀ evt ∈ r.arrivals, False) := by
  refine Passes.deadline (fun env t evt _ => ictFsm_passes env t evt) (by simp) ?_ ?_
  · intro env t h
    simp [transactionExecute, ictFsm, ictTransition, findMethod, Event.type, h, Method.call,
      ictTimeoutD]
  · intro t clock s hempty h hstop hlate
    have hff : t.transactionff = [] := List.eq_nil_iff_forall_not_mem.mpr hempty
    simp [ictFsm, ictDueTimer, needTimerXEvent, h, hstop, hlate 2, hff]

/-! ## The server of an INVITE -/

theorem istFsm_armsH (env : Env) (t : IstTransaction) (evt : Event) :
    Arms (· = .completed) Ist.timer_h_length Ist.timer_h_start env t
      (transactionExecute istFsm env t evt) := by
  refine ist_rule (P := fun env t _ r => Arms _ _ _ env t r) (fun env t _ => .useless env t)
    ?_ ?_ ?_ ?_ ?_ ?_ ?_ ?_ env t evt
  · exact fun env t sip _ _ _ => by constructor <;> grind [istRcvInvite, istHandleTransportError]
  · exact fun env t _ => by constructor <;> grind [istTimeoutG, istHandleTransportError]
  · exact fun env t _ => .elsewhere (.inr rfl) (fun h => by cases h)
  · exact fun env t sip _ _ _ => by constructor <;> grind [istSnd1xx, istHandleTransportError]
  · exact fun env t sip _ _ _ => by constructor <;> grind [istSnd2xx, istHandleTransportError]
  · exact fun env t sip _ _ _ => by constructor <;> grind [istSnd3456xx, istHandleTransportError]
  · exact fun env t sip _ _ => ⟨.inl rfl, nofun⟩
  · exact fun env t _ => .elsewhere (.inl rfl) (fun h => by cases h)

theorem istFsm_armsI (env : Env) (t : IstTransaction) (evt : Event) :
    Arms (· = .confirmed) Ist.timer_i_length Ist.timer_i_start env t
      (transactionExecute istFsm env t evt) := by
  refine ist_rule (P := fun env t _ r => Arms _ _ _ env t r) (fun env t _ => .useless env t)
    ?_ ?_ ?_ ?_ ?_ ?_ ?_ ?_ env t evt
  · exact fun env t sip _ _ _ => by constructor <;> grind [istRcvInvite, istHandleTransportError]
  · exact fun env t _ => by constructor <;> grind [istTimeoutG, istHandleTransportError]
  · exact fun env t _ => .elsewhere (.inl rfl) (fun h => by cases h)
  · exact fun env t sip _ _ _ => by constructor <;> grind [istSnd1xx, istHandleTransportError]
  · exact fun env t sip _ _ _ => by constructor <;> grind [istSnd2xx, istHandleTransportError]
  · exact fun env t sip _ _ _ => by constructor <;> grind [istSnd3456xx, istHandleTransportError]
  · exact fun env t sip _ _ => ⟨.inl rfl, fun _ => .inr (.inl rfl)⟩
  · exact fun env t _ => .elsewhere (.inr rfl) (fun h => by cases h)

theorem istFsm_passesH (env : Env) (t : IstTransaction) (evt : Event) :
    Passes (· = .completed) (fun s => s = .confirmed ∨ s = .terminated) Ist.timer_h_start t
      (transactionExecute istFsm env t evt) := by
  refine ist_rule (P := fun _ t _ r => Passes _ _ _ t r) (fun _ t _ => .useless t)
    ?_ ?_ ?_ ?_ ?_ ?_ ?_ ?_ env t evt
  · exact fun env t sip h _ _ => by constructor <;> grind [istRcvInvite, istHandleTransportError]
  · exact fun env t h => by constructor <;> grind [istTimeoutG, istHandleTransportError]
  · exact fun _ _ _ => ⟨fun _ => .inr (.inr rfl), fun _ => .inr rfl⟩
  · exact fun _ _ _ h _ _ => .elsewhere (by simp [h]) (by simp [h])
  · exact fun _ _ _ h _ _ => .elsewhere (by simp [h]) (by simp [h])
  · exact fun _ _ _ h _ _ => .elsewhere (by simp [h]) (by simp [h])
  · exact fun _ _ _ _ _ => ⟨fun _ => .inr (.inl rfl), fun _ => .inl rfl⟩
  · exact fun _ _ _ => ⟨fun _ => .inr (.inr rfl), fun _ => .inr rfl⟩

/-- An ACK that comes again starts timer I again: without one, the transaction passes. -/
theorem istFsm_passesI {env : Env} {t : IstTransaction} {evt : Event}
    (hack : evt.type ≠ .rcvReqack) :
    Passes (· = .confirmed) (· = .terminated) Ist.timer_i_start t
      (transactionExecute istFsm env t evt) := by
  refine callmethod_rule (Passes.useless t) fun row hrow htype hstate => ?_
  simp only [istFsm, istTransition, List.mem_cons, List.not_mem_nil, or_false] at hrow
  rcases hrow with rfl | rfl | rfl | rfl | rfl | rfl | rfl | rfl | rfl | rfl | rfl
  case inr.inr.inr.inr.inr.inr.inr.inr.inr.inr =>
    exact ⟨fun _ => .inr rfl, fun h => by cases hstate.trans h⟩
  all_goals first
    | exact absurd htype.symm hack
    | exact .elsewhere (by simp [← hstate]) (by simp [← hstate])

theorem istFsm_deadlineH (time : Int) :
    Deadline istFsm (fun _ => True)
      (fun s c => (s = .completed ∧ StopsBy Ist.timer_h_start c time) ∨
        s = .confirmed ∨ s = .terminated)
      (fun s _ => s = .completed) .h
      (fun r => time < r.clock 0 ∧ ∀ evt ∈ r.arrivals, True) := by
  refine Passes.deadline (fun env t evt _ => istFsm_passesH env t evt) (by simp) ?_ ?_
  · intro env t h
    simp [transactionExecute, istFsm, istTransition, findMethod, Event.type, h, Method.call,
      istTimeoutH]
  · intro t clock s _ h hstop hlate
    simp [istFsm, istDueTimer, needTimerXEvent, h, hstop, hlate 1]

theorem istFsm_deadlineI (time : Int) :
    Deadline istFsm (fun evt => evt.type ≠ .rcvReqack)
      (fun s c => (s = .confirmed ∧ StopsBy Ist.timer_i_start c time) ∨ s = .terminated)
      (fun s _ => s = .confirmed) .i
      (fun r => time < r.clock 0 ∧ ∀ evt ∈ r.arrivals, True) := by
  refine Passes.deadline (fun env t evt hmeets => istFsm_passesI ?_) (by simp) ?_ ?_
  · rcases hmeets with hcalm | ⟨timer, rfl⟩
    · exact hcalm
    · simp [Event.type]
  · intro env t h
    simp [transactionExecute, istFsm, istTransition, findMethod, Event.type, h, Method.call,
      istTimeoutI]
  · intro t clock s _ h hstop hlate
    simp [istFsm, istDueTimer, needTimerXEvent, h, hstop, hlate 0]

/-! ## The four kinds of transactions -/

/-- What the contexts of new transactions have for the lengths of the timers. -/
theorem nictInit_timers {now : Int} {request : Message} {context : Nict}
    (h : nictInit now request = some context) :
    context.timer_e_length = DEFAULT_T1 ∧ context.timer_e_start = none ∧
      context.timer_f_start = some (now + 32000) ∧ context.timer_k_length ≤ 5000 := by
  simp only [nictInit, Option.bind_eq_bind, Option.bind_eq_some_iff, Option.some.injEq] at h
  obtain ⟨proto, -, uri, -, rfl⟩ := h
  refine ⟨rfl, rfl, by rw [startTimer_eq (by decide)]; rfl, ?_⟩
  dsimp only
  split <;> decide

theorem nistInit_timers {request : Message} {context : Nist}
    (h : nistInit request = some context) : context.timer_j_length ≤ 32000 := by
  simp only [nistInit, Option.bind_eq_bind, Option.bind_eq_some_iff, Option.some.injEq] at h
  obtain ⟨proto, -, rfl⟩ := h
  dsimp only
  split <;> decide

theorem ictInit_timers {now : Int} {invite : Message} {context : Ict}
    (h : ictInit now invite = some context) :
    context.timer_a_length = DEFAULT_T1 ∧ context.timer_a_start = some (now + 500) ∧
      context.timer_b_start = some (now + 32000) ∧ context.timer_d_length ≤ 32000 := by
  simp only [ictInit, Option.bind_eq_bind, Option.bind_eq_some_iff, Option.some.injEq] at h
  obtain ⟨proto, -, uri, -, rfl⟩ := h
  refine ⟨rfl, by rw [startTimer_eq (by decide)]; rfl, by rw [startTimer_eq (by decide)]; rfl, ?_⟩
  dsimp only
  split_ifs <;> decide

theorem istInit_timers {invite : Message} {context : Ist} (h : istInit invite = some context) :
    context.timer_h_length ≤ 32000 ∧ context.timer_i_length ≤ 5000 := by
  simp only [istInit, Option.bind_eq_bind, Option.bind_eq_some_iff, Option.some.injEq] at h
  obtain ⟨proto, -, rfl⟩ := h
  refine ⟨by dsimp only; decide, ?_⟩
  dsimp only
  split <;> decide

theorem nictFsm_endsK :
    EndsWithin nictFsm createNict (· = .completed) (· = .terminated) 5000 (fun _ => True)
      (fun _ => True) := by
  refine .of_timer nictFsm_keepsQueue (fun start id request t ht => ?_) (by decide) nictFsm_arms
    nictFsm_deadlineK
  obtain ⟨hstate, hff, -, -, -, hcontext⟩ := transactionInit_spec (createNict_spec ht)
  exact ⟨hff, by simp [hstate], (nictInit_timers hcontext).2.2.2⟩

/-- **No transaction is kept for ever.**  In every run: a client of a request other than INVITE is
TERMINATED five seconds after its final response, a server of one 32 seconds after it has sent
its own; a client of an INVITE that was refused by the first round without a message that comes 32
seconds after the refusal; a server that refused one is CONFIRMED or TERMINATED 32 seconds later,
and TERMINATED five seconds after the last ACK. -/
theorem transaction_deadlines :
    EndsWithin nictFsm createNict (· = .completed) (· = .terminated) 5000 (fun _ => True)
        (fun _ => True) ∧
      EndsWithin nistFsm (fun _ => createNist) (· = .completed) (· = .terminated) 32000
        (fun _ => True) (fun _ => True) ∧
      EndsWithin ictFsm createIct (· = .completed) (· = .terminated) 32000 (fun _ => True)
        (fun _ => False) ∧
      EndsWithin istFsm (fun _ => createIst) (· = .completed)
        (fun s => s = .confirmed ∨ s = .terminated) 32000 (fun _ => True) (fun _ => True) ∧
      EndsWithin istFsm (fun _ => createIst) (· = .confirmed) (· = .terminated) 5000
        (fun evt => evt.type ≠ .rcvReqack) (fun _ => True) := by
  refine ⟨?_, ?_, ?_, ?_, ?_⟩
  · exact nictFsm_endsK
  · refine .of_timer nistFsm_keepsQueue (fun start id request t ht => ?_) (by decide) nistFsm_arms
      nistFsm_deadlineJ
    obtain ⟨hstate, hff, -, -, -, hcontext⟩ := transactionInit_spec (createNist_spec ht)
    exact ⟨hff, by simp [hstate], nistInit_timers hcontext⟩
  · refine .of_timer ictFsm_keepsQueue (fun start id request t ht => ?_) (by decide) ictFsm_arms
      ictFsm_deadlineD
    obtain ⟨hstate, hff, -, -, -, hcontext⟩ := transactionInit_spec (createIct_spec ht)
    exact ⟨hff, by simp [hstate], (ictInit_timers hcontext).2.2.2⟩
  · refine .of_timer istFsm_keepsQueue (fun start id request t ht => ?_) (by decide) istFsm_armsH
      istFsm_deadlineH
    obtain ⟨hstate, hff, -, -, -, hcontext⟩ := transactionInit_spec (createIst_spec ht)
    exact ⟨hff, by simp [hstate], (istInit_timers hcontext).1⟩
  · refine .of_timer istFsm_keepsQueue (fun start id request t ht => ?_) (by decide) istFsm_armsI
      istFsm_deadlineI
    obtain ⟨hstate, hff, -, -, -, hcontext⟩ := transactionInit_spec (createIst_spec ht)
    exact ⟨hff, by simp [hstate], (istInit_timers hcontext).2⟩

/-- A keepalive that the platform answers after thirty milliseconds. -/
def answeredKeepalive : List Round :=
  [roundAt [keepalive] [] 0,
    roundAt [] [keepaliveOk] 30]

/-- Its transaction is over five seconds later. -/
theorem transaction_deadlines_keepalive :
    (nictFsm.run keepaliveClient answeredKeepalive).1.state = .completed ∧
      (nictFsm.run keepaliveClient
        (answeredKeepalive ++ [roundAt [] [] 5031])).1.state = .terminated := by
  have hcompleted : (nictFsm.run keepaliveClient answeredKeepalive).1.state = .completed := by
    decide +kernel
  refine ⟨hcompleted, transaction_deadlines.1 0 1 keepalive _ keepaliveClient_created
    answeredKeepalive _ ?_ hcompleted (fun _ _ _ _ => trivial) ⟨_, List.mem_singleton_self _, ?_⟩⟩
  · simp [answeredKeepalive, Timely, roundAt]
  · exact ⟨by decide, fun _ _ => trivial⟩

end GB28181.Osip
