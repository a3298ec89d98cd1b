import GB28181.Base.Backoff
import GB28181.Osip.Deadlines
import GB28181.Osip.NonInvite

/-!
# Retransmissions and timeouts of the clients

How often a client sends its request, and until when it waits for an answer, over the rounds of the
event loop.

* `Output.isSend`, `Output.isVerdict` — a message that is sent; what tells the user of a client how
  its request ended: a final response, a timeout or a failure of the transport;
* `Round.Prompt` — a pass over the timers takes no second;
* `Judges`, `machine_endsOnce` — a machine whose events tell the end of a request once;
* `NictPaced` — the invariant of timer E: how often the request was sent, and since when;
* `NictTimed` — what holds of a client of a request other than INVITE in every run.

Principal result: `nict_timed`.
-/

set_option autoImplicit false

namespace GB28181.Osip

open GB28181.Base

def Output.isSend : Output → Bool
  | .send _ _ _ => true
  | _ => false

/-- A final response or a timeout, as a client of a request other than INVITE reports them. -/
def MessageCallback.isVerdict : MessageCallback → Bool
  | .nictStatus2xxReceived | .nictStatus3xxReceived | .nictStatus4xxReceived
  | .nictStatus5xxReceived | .nictStatus6xxReceived | .nictStatusTimeout => true
  | _ => false

def Output.isVerdict : Output → Bool
  | .callback type _ => type.isVerdict
  | .transportError _ _ => true
  | .send _ _ _ | .kill _ => false

/-- The readings of the clock in one pass over the timers lie within a second. -/
def Round.Prompt (r : Round) : Prop := ∀ i, r.clock i ≤ r.clock 0 + 1000

/-! ## One verdict -/

section Judges

variable {κ σ : Type} {Alive : σ → Prop} {final : Output → Bool}

/-- An event ends what is alive with one report of its end, and reports none otherwise. -/
structure Judges (Alive : σ → Prop) (final : Output → Bool) (t : Transaction κ σ)
    (r : Transaction κ σ × List Output) : Prop where
  alive : Alive t.state → Alive r.1.state → r.2.countP final = 0
  ends : Alive t.state → ¬ Alive r.1.state → r.2.countP final = 1
  ended : ¬ Alive t.state → ¬ Alive r.1.state ∧ r.2.countP final = 0

theorem Judges.useless (t : Transaction κ σ) : Judges Alive final t (t, []) :=
  ⟨fun _ _ => rfl, fun h h' => absurd h h', fun h => ⟨h, rfl⟩⟩

theorem Judges.goesOn {t : Transaction κ σ} {r : Transaction κ σ × List Output}
    (halive : Alive t.state) (h : Alive r.1.state) (hlog : r.2.countP final = 0) :
    Judges Alive final t r :=
  ⟨fun _ _ => hlog, fun _ h' => absurd h h', fun h' => absurd halive h'⟩

theorem Judges.decides {t : Transaction κ σ} {r : Transaction κ σ × List Output}
    (halive : Alive t.state) (h : ¬ Alive r.1.state) (hlog : r.2.countP final = 1) :
    Judges Alive final t r :=
  ⟨fun _ h' => absurd h' h, fun _ _ => hlog, fun h' => absurd halive h'⟩

variable [DecidableEq σ] {fsm : Machine κ σ}

theorem machine_endsOnce
    (h : ∀ env t evt, Judges Alive final t (transactionExecute fsm env t evt)) :
    EndsOnce fsm.step (fun t => Alive t.state) final := by
  have hstep : ∀ (t : Transaction κ σ) a, Judges Alive final t (fsm.step t a) := by
    intro t a
    have hsame : ∀ t' : Transaction κ σ, t'.state = t.state → Judges Alive final t (t', []) :=
      fun t' hstate => ⟨fun _ _ => rfl, fun halive hover => absurd (hstate ▸ halive) hover,
        fun hover => ⟨hstate ▸ hover, rfl⟩⟩
    cases a with
    | add evt => exact hsame _ rfl
    | timers clock =>
      rw [Machine.step, timersExecute]
      split <;> exact hsame _ rfl
    | execute env =>
      rw [Machine.step, executeNext]
      split
      · exact hsame t rfl
      · rename_i evt evts _
        obtain ⟨halive, hends, hover⟩ := h env { t with transactionff := evts } evt
        exact ⟨halive, hends, hover⟩
  exact ⟨fun t a => (hstep t a).alive, fun t a => (hstep t a).ends, fun t a => (hstep t a).ended⟩

end Judges

/-- A request is undecided until COMPLETED. -/
def NictState.Undecided (state : NictState) : Prop := state = .preTrying ∨ state.Waiting

instance : DecidablePred NictState.Undecided := fun state =>
  inferInstanceAs (Decidable (state = .preTrying ∨ state = .trying ∨ state = .proceeding))

theorem not_undecided_terminated : ¬ NictState.Undecided .terminated := by decide

theorem not_undecided_completed : ¬ NictState.Undecided .completed := by decide

@[simp] theorem nictSentCallback_isVerdict (sip : Message) :
    (nictSentCallback sip).isVerdict = false := by
  rw [nictSentCallback]
  split_ifs <;> rfl

@[simp] theorem nictReceivedCallback_isVerdict (sip : Message) :
    (nictReceivedCallback sip).isVerdict = true := by
  rw [nictReceivedCallback]
  split_ifs <;> rfl

theorem nictFsm_judges (env : Env) (t : NictTransaction) (evt : Event) :
    Judges NictState.Undecided Output.isVerdict t (transactionExecute nictFsm env t evt) := by
  refine nict_rule (P := fun _ t _ r => Judges _ _ t r) (fun _ t _ => .useless t) ?_ ?_ ?_ ?_ ?_ ?_
    env t evt
  · intro env t sip h _ _
    have hopen : t.state.Undecided := .inl h
    rw [nictSndRequest]
    dsimp only
    split
    · exact .decides hopen not_undecided_terminated rfl
    · split
      · exact .decides hopen not_undecided_terminated
          (by simp [nictSend, Output.isVerdict, nictHandleTransportError, List.countP_cons])
      · exact .goesOn hopen (.inr (.inl rfl)) (by simp [nictSend, Output.isVerdict])
  · intro env t h
    have hopen : t.state.Undecided := .inr h
    rw [nictTimeoutE]
    split
    · exact .useless t
    · dsimp only
      split
      · exact .decides hopen not_undecided_terminated rfl
      · split
        · split
          · exact .decides hopen not_undecided_terminated rfl
          · exact .goesOn hopen hopen rfl
        · exact .goesOn hopen hopen rfl
  · exact fun env t h => .decides (.inr h) not_undecided_terminated rfl
  · intro env t h
    have hover : ¬ t.state.Undecided := h ▸ not_undecided_completed
    exact ⟨fun h' => absurd h' hover, fun h' => absurd h' hover,
      fun _ => ⟨not_undecided_terminated, rfl⟩⟩
  · exact fun env t sip h _ _ => .goesOn (.inr h) (.inr (.inr rfl)) rfl
  · exact fun env t sip h _ _ =>
      .decides (.inr h) not_undecided_completed (by simp [nictRcv23456xx, Output.isVerdict])

/-! ## The deadline of a request -/

/-- No event leads back to PRE_TRYING, where nothing is sent, or from the end of the waiting back
to it, and none moves timer F meanwhile. -/
theorem nictFsm_waits (env : Env) (t : NictTransaction) (evt : Event) :
    ((transactionExecute nictFsm env t evt).1.state = .preTrying → t.state = .preTrying ∧
        (transactionExecute nictFsm env t evt).2 = []) ∧
      ((transactionExecute nictFsm env t evt).1.state.Undecided → t.state.Undecided ∧
        (transactionExecute nictFsm env t evt).1.context.timer_f_start =
          t.context.timer_f_start) := by
  refine nict_rule
    (P := fun _ t _ r => (r.1.state = .preTrying → t.state = .preTrying ∧ r.2 = []) ∧
      (r.1.state.Undecided → t.state.Undecided ∧
        r.1.context.timer_f_start = t.context.timer_f_start))
    (fun _ _ _ => ⟨fun h => ⟨h, rfl⟩, fun h => ⟨h, rfl⟩⟩) ?_ ?_ ?_ ?_ ?_ ?_ env t evt
  · intro env t sip h _ _
    refine ⟨fun hpre => ?_, fun _ => ⟨.inl h, ?_⟩⟩
    · grind [nictSndRequest, nictHandleTransportError]
    · grind [nictSndRequest, nictHandleTransportError]
  · intro env t h
    refine ⟨fun hpre => ?_, fun _ => ⟨.inr h, ?_⟩⟩
    · rcases h with h | h <;> grind [nictTimeoutE, nictHandleTransportError]
    · grind [nictTimeoutE, nictHandleTransportError]
  · exact fun env t _ => ⟨fun h => (by cases h), fun h => absurd h not_undecided_terminated⟩
  · exact fun env t _ => ⟨fun h => (by cases h), fun h => absurd h not_undecided_terminated⟩
  · exact fun env t sip h _ _ => ⟨fun h => (by cases h), fun _ => ⟨.inr h, by grind [nictRcv1xx]⟩⟩
  · exact fun env t sip _ _ _ => ⟨fun h => (by cases h), fun h => absurd h not_undecided_completed⟩

/-- Once a request is sent, timer F leads out of TRYING and PROCEEDING for good. -/
theorem nictFsm_deadlineF (start : Int) :
    Deadline nictFsm (fun _ => True)
      (fun s c => s ≠ .preTrying ∧ (s.Undecided → c.timer_f_start = some (start + 32000)))
      (fun s _ => s.Undecided) .f (fun r => start + 32000 < r.clock 0) where
  keeps env t evt _ h := by
    obtain ⟨hpre, hwaits⟩ := nictFsm_waits env t evt
    refine ⟨fun h' => h.1 (hpre h').1, fun hopen => ?_⟩
    obtain ⟨hopen', hsame⟩ := hwaits hopen
    exact hsame.trans (h.2 hopen')
  back env t evt _ _ hopen := ((nictFsm_waits env t evt).2 hopen).1
  leaves env t h hopen := by
    obtain hpre | hstate := ((nictFsm_waits env t _).2 hopen).1
    · exact h.1 hpre
    · revert hopen
      rcases hstate with hs | hs <;>
        simp [transactionExecute, nictFsm, nictTransition, findMethod, Event.type, hs,
          Method.call, nictTimeoutF, not_undecided_terminated]
  due t r hlate _ h hopen := by
    have hstate : t.state = .trying ∨ t.state = .proceeding := hopen.resolve_left h.1
    have hclock : start + 32000 < r.clock 1 := hlate.trans_le (r.ordered (Nat.zero_le 1))
    rcases hstate with hs | hs <;>
      simp [nictFsm, nictDueTimer, needTimerXEvent, hs, h.2 hopen, hclock]

/-! ## The retransmissions of a request -/

/-- The next length of timer E while nothing has come. -/
abbrev retryE : Int → Int := nextELength .trying

theorem retryE_mono : Monotone retryE := by
  intro l l' h
  simp only [retryE, nextELength, DEFAULT_T1, DEFAULT_T2, DEFAULT_T1_TCP_PROGRESS]
  grind

theorem nextELength_le (state : NictState) (length : Int) : nextELength state length ≤ 4000 := by
  simp only [nextELength, DEFAULT_T1, DEFAULT_T2, DEFAULT_T1_TCP_PROGRESS]
  grind

theorem retryE_nonneg (length : Int) (h : 0 ≤ length) : 0 ≤ retryE length := by
  simp only [retryE, nextELength, DEFAULT_T1, DEFAULT_T2, DEFAULT_T1_TCP_PROGRESS]
  grind

theorem retryE_le_next (state : NictState) (length : Int) :
    retryE length ≤ nextELength state length := by
  rw [nextELength]
  split
  · simp [retryE, nextELength, *]
  · exact nextELength_le .trying length

/-- Timer E of a request that was sent `sends` times, first `start` or later, with the first length
`first`.  `now` is behind the clock, and `due` is the timer that waits in the queue. -/
structure NictPaced (start first : Int) (limit : Nat) (now : Int) (due : Option Timer)
    (state : NictState) (context : Nict) (sends : Nat) : Prop where
  sends_le : sends ≤ limit
  start_le : start ≤ now
  deadline : state.Undecided → context.timer_f_start = some (start + 32000)
  unsent : state = .preTrying → due = none ∧ sends = 0 ∧ context.timer_e_length = DEFAULT_T1
  paced : state.Waiting → ∃ k, sends ≤ k + 1 ∧ k + 1 ≤ limit ∧
    start + earliest retryE first k ≤ now ∧
    (∀ stop, context.timer_e_start = some stop →
      Paced retryE first start k now context.timer_e_length stop) ∧
    (due = some .e → interval retryE first k ≤ context.timer_e_length ∧
      start + earliest retryE first (k + 1) ≤ now ∧ k + 2 ≤ limit)

namespace NictPaced

variable {start first now now' : Int} {limit sends : Nat} {due : Option Timer} {state : NictState}
  {context : Nict}

theorem decided (hsends : sends ≤ limit) (hstart : start ≤ now) (h : ¬ state.Undecided) :
    NictPaced start first limit now due state context sends :=
  ⟨hsends, hstart, fun h' => absurd h' h, fun h' => absurd (.inl h') h,
    fun h' => absurd (.inr h') h⟩

theorem wait (h : NictPaced start first limit now due state context sends) (hnow : now ≤ now') :
    NictPaced start first limit now' none state context sends where
  sends_le := h.sends_le
  start_le := h.start_le.trans hnow
  deadline := h.deadline
  unsent hs := ⟨rfl, (h.unsent hs).2⟩
  paced hs := by
    obtain ⟨k, hsends, hk, hpast, harmed, -⟩ := h.paced hs
    exact ⟨k, hsends, hk, hpast.trans hnow, fun stop hstop => (harmed stop hstop).wait hnow, nofun⟩

end NictPaced

section Step

variable {start first now : Int} {limit : Nat} {due : Option Timer} {t : NictTransaction}
  {env : Env} {sip : Message} {sends : Nat}

/-- What sending the request does to timer E: it runs, but for a reliable transport that has taken
the request at once. -/
theorem nictSndRequest_spec (hlength : t.context.timer_e_length = DEFAULT_T1) :
    (nictSndRequest env t sip).2.countP Output.isSend = 1 ∧
      ((nictSndRequest env t sip).1.state = .terminated ∨
        (nictSndRequest env t sip).1.state = .trying ∧
          (nictSndRequest env t sip).1.context.timer_f_start = t.context.timer_f_start ∧
          ((nictSndRequest env t sip).1.context.timer_e_start = none ∨
            ∃ length, (nictSndRequest env t sip).1.context.timer_e_length = length ∧
              (nictSndRequest env t sip).1.context.timer_e_start = startTimer env.now length ∧
              (length = DEFAULT_T1 ∨ length = DEFAULT_T1_TCP_PROGRESS ∧
                ∃ proto, topProtocol sip = some proto ∧ overReliable proto = true))) := by
  rw [nictSndRequest]
  dsimp only
  split
  · exact ⟨by simp [nictSend, Output.isSend, nictHandleTransportError, List.countP_cons], .inl rfl⟩
  · split
    · exact ⟨by simp [nictSend, Output.isSend, nictHandleTransportError, List.countP_cons],
        .inl rfl⟩
    · rename_i proto hproto
      refine ⟨by simp [nictSend, Output.isSend, List.countP_cons], .inr ⟨rfl, ?_, ?_⟩⟩
      · split_ifs <;> rfl
      · by_cases hreliable : overReliable proto = true
        · by_cases hsent : env.sent = 0
          · left
            simp [hreliable, hsent]
          · right
            refine ⟨DEFAULT_T1_TCP_PROGRESS, ?_, ?_, .inr ⟨rfl, proto, hproto, hreliable⟩⟩ <;>
              simp [hreliable, hsent, DEFAULT_T1_TCP_PROGRESS]
        · right
          refine ⟨DEFAULT_T1, ?_, ?_, .inl rfl⟩ <;>
            simp [hreliable, hlength, DEFAULT_T1]

theorem nictSndRequest_paced (hfirst : first ≤ DEFAULT_T1)
    (hreliable : ∀ proto, topProtocol sip = some proto → overReliable proto = true →
      first ≤ DEFAULT_T1_TCP_PROGRESS) (hlimit : 1 ≤ limit) (hnow : now ≤ env.now)
    (hstate : t.state = .preTrying)
    (h : NictPaced start first limit now due t.state t.context sends) :
    NictPaced start first limit now due (nictSndRequest env t sip).1.state
      (nictSndRequest env t sip).1.context
      (sends + (nictSndRequest env t sip).2.countP Output.isSend) := by
  obtain ⟨hdue, rfl, hlength⟩ := h.unsent hstate
  obtain ⟨hcount, hover | ⟨htrying, hf, harmed⟩⟩ :=
    @nictSndRequest_spec t env sip hlength
  · rw [hcount, hover]
    exact .decided (by omega) h.start_le not_undecided_terminated
  · rw [hcount, htrying]
    refine ⟨by omega, h.start_le, fun _ => hf.trans (h.deadline (.inl hstate)),
      fun h => (by cases h), fun _ => ⟨0, by omega, by omega, by simpa [earliest] using h.start_le,
        fun stop hstop => ?_, by simp [hdue]⟩⟩
    rcases harmed with hnone | ⟨length, rfl, hstart, hlen⟩
    · cases hnone.symm.trans hstop
    · have hle : first ≤ (nictSndRequest env t sip).1.context.timer_e_length ∧
          (nictSndRequest env t sip).1.context.timer_e_length ≤ DEFAULT_T1 := by
        rcases hlen with hlen | ⟨hlen, proto, hproto, hover⟩
        · exact ⟨hlen ▸ hfirst, hlen.le⟩
        · exact ⟨hlen ▸ hreliable proto hproto hover, hlen ▸ by decide⟩
      rw [hstart, startTimer_eq (hle.2.trans_lt (by decide))] at hstop
      have hstart' := h.start_le
      exact .started hle.1 h.start_le (by have := Option.some.inj hstop; omega)

theorem nictRcv1xx_paced (hfirst : first ≤ DEFAULT_T1) (hnow : now ≤ env.now)
    (hstate : t.state.Waiting)
    (h : NictPaced start first limit now due t.state t.context sends) :
    NictPaced start first limit now due (nictRcv1xx env t sip).1.state
      (nictRcv1xx env t sip).1.context
      (sends + (nictRcv1xx env t sip).2.countP Output.isSend) := by
  obtain ⟨k, hsends, hk, hpast, harmed, hpending⟩ := h.paced hstate
  have hcount : (nictRcv1xx env t sip).2.countP Output.isSend = 0 := rfl
  have hle : ∀ k, interval retryE first k ≤ 4000 :=
    interval_le (hfirst.trans (by decide)) (nextELength_le .trying)
  rw [hcount]
  refine ⟨h.sends_le, h.start_le, fun _ => ?_, nofun, fun _ => ⟨k, hsends, hk, hpast, ?_, ?_⟩⟩
  · rw [nictRcv1xx]
    dsimp only
    split <;> exact h.deadline (.inr hstate)
  · intro stop hstop
    rw [nictRcv1xx] at hstop ⊢
    dsimp only at hstop ⊢
    split at hstop
    · rename_i hpos
      have hstop' : env.now + DEFAULT_T2 = stop := by
        simpa [startTimer_eq (show DEFAULT_T2 < 1000000 by decide)] using hstop
      rw [if_pos hpos]
      exact .slower hpast (hle k) (show now + DEFAULT_T2 ≤ stop by omega)
    · rename_i hpos
      rw [if_neg hpos]
      exact harmed stop hstop
  · intro hdue
    obtain ⟨hlength, hearliest, hk'⟩ := hpending hdue
    refine ⟨?_, hearliest, hk'⟩
    rw [nictRcv1xx]
    dsimp only
    split
    · exact hle k
    · exact hlength

/-- What timer E does: the request is sent once more, and the timer runs on with the next length
or, over a reliable transport that has taken the request, not at all. -/
theorem nictTimeoutE_spec :
    (nictTimeoutE env t).2.countP Output.isSend ≤ 1 ∧
      ((nictTimeoutE env t).1.state = .terminated ∨
        (nictTimeoutE env t).1.state = t.state ∧
          (nictTimeoutE env t).1.context.timer_f_start = t.context.timer_f_start ∧
          (nictTimeoutE env t = (t, []) ∨
            (nictTimeoutE env t).1.context.timer_e_start = none ∨
            (nictTimeoutE env t).1.context.timer_e_length =
                nextELength t.state t.context.timer_e_length ∧
              (nictTimeoutE env t).1.context.timer_e_start =
                startTimer env.now (nextELength t.state t.context.timer_e_length))) := by
  rw [nictTimeoutE]
  split
  · exact ⟨by simp, .inr ⟨rfl, rfl, .inl rfl⟩⟩
  · dsimp only
    split
    · exact ⟨by simp [nictSend, Output.isSend, nictHandleTransportError, List.countP_cons],
        .inl rfl⟩
    · split
      · split
        · exact ⟨by simp [nictSend, Output.isSend, nictHandleTransportError, List.countP_cons],
            .inl rfl⟩
        · refine ⟨by simp [nictSend, Output.isSend, List.countP_cons], .inr ⟨rfl, ?_, .inr ?_⟩⟩
          · split <;> rfl
          · split
            · exact .inl rfl
            · exact .inr ⟨rfl, rfl⟩
      · exact ⟨by simp [nictSend, Output.isSend], .inr ⟨rfl, rfl, .inr (.inr ⟨rfl, rfl⟩)⟩⟩

theorem nictTimeoutE_paced (hnow : now ≤ env.now) (hstate : t.state.Waiting)
    (h : NictPaced start first limit now (some .e) t.state t.context sends) :
    NictPaced start first limit now none (nictTimeoutE env t).1.state
      (nictTimeoutE env t).1.context
      (sends + (nictTimeoutE env t).2.countP Output.isSend) := by
  obtain ⟨k, hsends, -, hpast, harmed, hpending⟩ := h.paced hstate
  obtain ⟨hlength, hearliest, hk⟩ := hpending rfl
  obtain ⟨hcount, hover | ⟨hsame, hf, hrest⟩⟩ := @nictTimeoutE_spec t env
  · rw [hover]
    exact .decided (by omega) h.start_le not_undecided_terminated
  · rcases hrest with huseless | hnone | ⟨hlength', hstart⟩
    · rw [huseless]
      exact h.wait le_rfl
    · rw [hsame]
      refine ⟨by omega, h.start_le, fun ho => hf.trans (h.deadline ho),
        fun hpre => absurd hpre (by rcases hstate with hs | hs <;> simp [hs]),
        fun _ => ⟨k + 1, by omega, by omega, hearliest, fun stop hstop => ?_, nofun⟩⟩
      exact nomatch hnone.symm.trans hstop
    · rw [hsame]
      refine ⟨by omega, h.start_le, fun ho => hf.trans (h.deadline ho),
        fun hpre => absurd hpre (by rcases hstate with hs | hs <;> simp [hs]),
        fun _ => ⟨k + 1, by omega, by omega, hearliest, fun stop hstop => ?_, nofun⟩⟩
      have hnext : interval retryE first (k + 1) ≤
          nextELength t.state t.context.timer_e_length :=
        (retryE_mono hlength).trans (retryE_le_next t.state _)
      have hbound : nextELength t.state t.context.timer_e_length < 1000000 :=
        (nextELength_le t.state _).trans_lt (by decide)
      rw [hstart, startTimer_eq hbound] at hstop
      rw [hlength']
      exact .slower hearliest hnext (by have := Option.some.inj hstop; omega)

/-- What an event does to timer E and the count, when the timer in the queue was due: executing
it takes it out of the queue. -/
theorem nictFsm_paced (hfirst : first ≤ DEFAULT_T1) (hlimit : 1 ≤ limit) {evt : Event}
    (hreliable : ∀ sip, evt = .outgoing sip → ∀ proto, topProtocol sip = some proto →
      overReliable proto = true → first ≤ DEFAULT_T1_TCP_PROGRESS) (hnow : now ≤ env.now)
    (h : NictPaced start first limit now due t.state t.context sends)
    (hdue : ∀ timer, evt = .timer timer → due = some timer) :
    NictPaced start first limit now (if evt.sip = none then none else due)
      (transactionExecute nictFsm env t evt).1.state
      (transactionExecute nictFsm env t evt).1.context
      (sends + (transactionExecute nictFsm env t evt).2.countP Output.isSend) := by
  refine nict_rule
    (P := fun env t evt r => now ≤ env.now → (∀ sip, evt = .outgoing sip → ∀ proto,
        topProtocol sip = some proto → overReliable proto = true →
          first ≤ DEFAULT_T1_TCP_PROGRESS) →
      NictPaced start first limit now due t.state t.context sends →
      (∀ timer, evt = .timer timer → due = some timer) →
      NictPaced start first limit now (if evt.sip = none then none else due) r.1.state r.1.context
        (sends + r.2.countP Output.isSend)) ?_ ?_ ?_ ?_ ?_ ?_ ?_ env t evt hnow hreliable h hdue
  · intro env t evt _ _ h _
    split
    · exact h.wait le_rfl
    · exact h
  · exact fun env t sip hstate _ _ hnow hreliable h _ =>
      nictSndRequest_paced hfirst (hreliable sip rfl) hlimit hnow hstate h
  · intro env t hstate hnow _ h hdue
    obtain rfl := hdue .e rfl
    exact nictTimeoutE_paced hnow hstate h
  · exact fun env t _ _ _ h _ => .decided h.sends_le h.start_le not_undecided_terminated
  · exact fun env t _ _ _ h _ => .decided h.sends_le h.start_le not_undecided_terminated
  · exact fun env t sip hstate _ _ hnow _ h _ => nictRcv1xx_paced hfirst hnow hstate h
  · exact fun env t sip _ _ _ _ _ h _ => .decided h.sends_le h.start_le not_undecided_completed

/-- Before a round timer E is due only while F is not: it has fired no more often than the time up
to then allows. -/
theorem nictDueTimer_paced (hfirst : 0 ≤ first)
    (hlimit : 33000 < earliest retryE first limit) {clock : Nat → Int} (hmono : Monotone clock)
    (hprompt : ∀ i, clock i ≤ clock 0 + 1000) (hnow : now ≤ clock 0)
    (h : NictPaced start first limit now none t.state t.context sends) :
    NictPaced start first limit (clock 2) (nictDueTimer t clock) t.state t.context sends := by
  have hclock : clock 0 ≤ clock 2 := hmono (by omega)
  refine ⟨h.sends_le, h.start_le.trans (hnow.trans hclock), h.deadline, fun hpre => ?_,
    fun hstate => ?_⟩
  · exact ⟨by simp [nictDueTimer, needTimerXEvent, hpre], (h.unsent hpre).2⟩
  · obtain ⟨k, hsends, hk, hpast, harmed, -⟩ := h.paced hstate
    refine ⟨k, hsends, hk, hpast.trans (hnow.trans hclock),
      fun stop hstop => (harmed stop hstop).wait (hnow.trans hclock), fun hdue => ?_⟩
    have hdeadline := h.deadline (.inr hstate)
    -- E is looked at last: F was not due
    obtain ⟨hnotF, stop, hstop, hrun⟩ : clock 1 ≤ start + 32000 ∧
        ∃ stop, t.context.timer_e_start = some stop ∧ stop < clock 2 := by
      have hif : (if start + 32000 < clock 1 then some Timer.f
          else if ∃ stop, t.context.timer_e_start = some stop ∧ stop < clock 2 then some Timer.e
          else none) = some Timer.e := by
        rcases hstate with hs | hs <;>
          simpa [nictDueTimer, needTimerXEvent, hs, hdeadline, Option.any_eq_true] using hdue
      split_ifs at hif with hF hE
      · cases hif
      · exact ⟨not_lt.mp hF, hE⟩
    have hpaced := harmed stop hstop
    have hend := hpaced.stop
    have hprompt2 := hprompt 2
    have h01 : clock 0 ≤ clock 1 := hmono (by omega)
    have hearliest : start + earliest retryE first (k + 1) ≤ clock 2 := by
      rw [earliest]
      omega
    refine ⟨hpaced.length, hearliest, ?_⟩
    obtain ⟨n, rfl⟩ : ∃ n, limit = n + 1 := ⟨limit - 1, by omega⟩
    have hfirings : k + 1 ≤ n :=
      firings_le hfirst retryE_nonneg (show earliest retryE first (k + 1) ≤ 33000 by omega) hlimit
    omega

theorem nictFsm_round_paced (hfirst : 0 ≤ first ∧ first ≤ DEFAULT_T1)
    (hlimit : 33000 < earliest retryE first limit) {r : Round} (hprompt : r.Prompt)
    (hreliable : ∀ sip, .outgoing sip ∈ r.arrivals → ∀ proto, topProtocol sip = some proto →
      overReliable proto = true → first ≤ DEFAULT_T1_TCP_PROGRESS)
    {log : List Output} (hempty : t.transactionff = []) (hnow : now ≤ r.clock 0)
    (h : NictPaced start first limit now none t.state t.context (log.countP Output.isSend)) :
    (nictFsm.round t r).1.transactionff = [] ∧
      NictPaced start first limit r.finish none (nictFsm.round t r).1.state
        (nictFsm.round t r).1.context
        ((log ++ (nictFsm.round t r).2).countP Output.isSend) := by
  have hlimit' : 1 ≤ limit := by
    by_contra hzero
    rw [show limit = 0 by omega, earliest] at hlimit
    omega
  have hround := round_rule (r := r)
    (J := fun due t log => NictPaced start first limit (r.clock 2) due t.state t.context
      (log.countP Output.isSend)) nictFsm_keepsQueue (fun _ _ _ _ h => h)
    (fun due env t evt log henv hevt h => ?_) (fun timer env t log henv h => ?_) log hempty
    (nictDueTimer_paced hfirst.1 hlimit r.ordered hprompt hnow h)
  · exact ⟨hround.1, hround.2.wait (r.clock_le_finish 2)⟩
  · have hmessage := r.messages evt hevt
    have hpaced := nictFsm_paced hfirst.2 hlimit'
      (fun sip hsip => hreliable sip (hsip ▸ hevt)) (r.within 2 env henv).1 h
      (fun timer htimer => absurd htimer (hmessage timer))
    rw [if_neg (by cases evt <;> simp_all [Event.sip])] at hpaced
    rwa [List.countP_append]
  · have hdue : ∀ timer', Event.timer timer = .timer timer' → some timer = some timer' := by
      rintro _ ⟨⟩
      rfl
    have hsip : (Event.timer timer).sip = none := rfl
    have hpaced := nictFsm_paced hfirst.2 hlimit' (by rintro sip ⟨⟩)
      (r.within 2 env henv).1 h hdue
    rw [if_pos hsip] at hpaced
    rwa [List.countP_append]

end Step

/-! ## Every run -/

/-- What the user of a client of a request other than INVITE can rely on, when the transaction was
created at `start`: how often the request is sent, when it is judged and when the transaction is
over. -/
structure NictTimed (start : Int) (t : NictTransaction) : Prop where
  /-- Eleven times over an unreliable transport. -/
  sends_unreliable : ∀ rounds, Timely start rounds → (∀ r ∈ rounds, r.Prompt) →
    (∀ r ∈ rounds, ∀ sip, .outgoing sip ∈ r.arrivals → ∀ proto, topProtocol sip = some proto →
      overReliable proto = false) →
    (nictFsm.run t rounds).2.countP Output.isSend ≤ 11
  /-- Nineteen times over a reliable one, whose connection makes progress. -/
  sends : ∀ rounds, Timely start rounds → (∀ r ∈ rounds, r.Prompt) →
    (nictFsm.run t rounds).2.countP Output.isSend ≤ 19
  /-- Never more than one verdict. -/
  verdict_once : ∀ rounds, (nictFsm.run t rounds).2.countP Output.isVerdict ≤ 1
  /-- A request that was sent is judged by the first round that comes 32 seconds after its
  transaction was created. -/
  verdict : ∀ sent late, 0 < (nictFsm.run t sent).2.countP Output.isSend →
    (∃ r ∈ late, start + 32000 < r.clock 0) →
    (nictFsm.run t (sent ++ late)).2.countP Output.isVerdict = 1
  /-- After the rounds that brought the verdict the transaction is over by the first one that comes
  five seconds later. -/
  ended : ∀ judged rest, Timely start (judged ++ rest) →
    (nictFsm.run t judged).2.countP Output.isVerdict = 1 →
    (∃ r ∈ rest, settledAt start judged + 5000 < r.clock 0) →
    (nictFsm.run t (judged ++ rest)).1.state = .terminated

/-- How often a request is sent, for a first length of timer E and a bound that its intervals
give. -/
theorem nictFsm_sends {start first : Int} {limit : Nat} {t : NictTransaction}
    {rounds : List Round} (hfirst : 0 ≤ first ∧ first ≤ DEFAULT_T1)
    (hlimit : 33000 < earliest retryE first limit) (htimely : Timely start rounds)
    (hprompt : ∀ r ∈ rounds, r.Prompt)
    (hreliable : ∀ r ∈ rounds, ∀ sip, .outgoing sip ∈ r.arrivals → ∀ proto,
      topProtocol sip = some proto → overReliable proto = true → first ≤ DEFAULT_T1_TCP_PROGRESS)
    (hempty : t.transactionff = [])
    (h : NictPaced start first limit start none t.state t.context 0) :
    (nictFsm.run t rounds).2.countP Output.isSend ≤ limit := by
  have hrun := run_rule nictFsm
    (I := fun now t log => NictPaced start first limit now none t.state t.context
      (log.countP Output.isSend))
    (fun now t log r hr hff hnow hI =>
      nictFsm_round_paced hfirst hlimit (hprompt r hr) (hreliable r hr) hff hnow hI)
    [] htimely hempty h
  exact hrun.2.sends_le

/-- Nothing is sent before PRE_TRYING is left, and timer F stays as it is until the request is
decided. -/
theorem nictFsm_unsent {start : Int} (env : Env) (t : NictTransaction) (evt : Event)
    (log : List Output)
    (h : (t.state = .preTrying → log.countP Output.isSend = 0) ∧
      (t.state.Undecided → t.context.timer_f_start = some (start + 32000))) :
    ((transactionExecute nictFsm env t evt).1.state = .preTrying →
        (log ++ (transactionExecute nictFsm env t evt).2).countP Output.isSend = 0) ∧
      ((transactionExecute nictFsm env t evt).1.state.Undecided →
        (transactionExecute nictFsm env t evt).1.context.timer_f_start = some (start + 32000)) := by
  obtain ⟨hpre, hwaits⟩ := nictFsm_waits env t evt
  refine ⟨fun hs => ?_, fun hopen => (hwaits hopen).2.trans (h.2 (hwaits hopen).1)⟩
  obtain ⟨hs', hquiet⟩ := hpre hs
  rw [hquiet, List.append_nil, h.1 hs']

/-- **A request other than INVITE is sent a bounded number of times and judged in time.**  In every
run, whatever arrives and whatever sending comes to. -/
theorem nict_timed {start : Int} {id : Nat} {request : Message} {t : NictTransaction}
    (hcreate : createNict start id request = some t) : NictTimed start t := by
  obtain ⟨hstate, hff, -, -, -, hcontext⟩ := transactionInit_spec (createNict_spec hcreate)
  obtain ⟨hlength, -, hf, -⟩ := nictInit_timers hcontext
  have hpaced : ∀ first limit, NictPaced start first limit start none t.state t.context 0 :=
    fun first limit => ⟨Nat.zero_le _, le_rfl, fun _ => hf, fun _ => ⟨rfl, rfl, hlength⟩,
      fun h => by rcases h with h | h <;> simp [hstate] at h⟩
  have hjudged := fun rounds : List Round => by
    have h := (machine_endsOnce nictFsm_judges).runLog_count (s := t) (.inl hstate)
      (rounds.flatMap Round.actions)
    rwa [← Machine.run_eq] at h
  have hsent := nictFsm.run_keeps
    (I := fun t log => (t.state = .preTrying → log.countP Output.isSend = 0) ∧
      (t.state.Undecided → t.context.timer_f_start = some (start + 32000)))
    (fun _ _ _ h => h) nictFsm_unsent [] ⟨fun _ => rfl, fun _ => hf⟩
  have hempty := Machine.run_empty nictFsm_keepsQueue hff
  have hlate : ∀ sent late, 0 < (nictFsm.run t sent).2.countP Output.isSend →
      (∃ r ∈ late, start + 32000 < r.clock 0) →
      ¬ (nictFsm.run t (sent ++ late)).1.state.Undecided := by
    intro sent late hpos ⟨r, hr, hlate⟩ hopen
    obtain ⟨hpre, hf'⟩ := hsent sent
    have hnone := ((nictFsm_deadlineF start).run nictFsm_keepsQueue
      (fun r (_ : r ∈ late) _ _ => trivial) (hempty sent) ⟨fun h => hpos.ne' (hpre h), hf'⟩).2
    rw [Machine.run_append] at hopen
    exact (hnone hopen).2 r hr hlate
  refine ⟨fun rounds htimely hprompt hunreliable => ?_, fun rounds htimely hprompt => ?_,
    fun rounds => ?_, fun sent late hsent h => ?_, fun judged rest htimely hone hrest => ?_⟩
  · refine nictFsm_sends (by decide) (by decide) htimely hprompt ?_ hff (hpaced DEFAULT_T1 _)
    intro r hr sip hsip proto hproto hover
    exact absurd hover (by simp [hunreliable r hr sip hsip proto hproto])
  · exact nictFsm_sends (by decide) (by decide) htimely hprompt (fun _ _ _ _ _ _ _ => le_rfl) hff
      (hpaced DEFAULT_T1_TCP_PROGRESS _)
  · rw [hjudged]
    split <;> omega
  · rw [hjudged, if_neg (hlate sent late hsent h)]
  · have hdecided : ¬ (nictFsm.run t judged).1.state.Undecided := by
      intro hopen
      rw [hjudged, if_pos hopen] at hone
      omega
    cases hend : (nictFsm.run t judged).1.state with
    | preTrying => exact absurd (.inl hend) hdecided
    | trying => exact absurd (.inr (.inl hend)) hdecided
    | proceeding => exact absurd (.inr (.inr hend)) hdecided
    | completed =>
      obtain ⟨r, hr, hrlate⟩ := hrest
      exact nictFsm_endsK start id request t hcreate judged rest htimely hend
        (fun _ _ _ _ => trivial) ⟨r, hr, hrlate, fun _ _ => trivial⟩
    | terminated =>
      rw [Machine.run_append]
      exact nictFsm.run_keeps (I := fun t _ => t.state = .terminated) (fun _ _ _ h => h)
        (fun env t evt _ hs => (nictFsm_passes env t evt).outside hs) [] hend rest

/-- The keepalive of a device that nobody answers, in rounds as close as timer E needs. -/
def silence : List Round :=
  roundAt [keepalive] [] 0 ::
    [501, 1502, 3503, 7504, 11505, 15506, 19507, 23508, 27509, 31510, 32001].map
      (roundAt [] [])

/-- It is sent eleven times and then given up; where the platform answers, its transaction is over
after timer K. -/
theorem nict_timed_keepalive :
    ((nictFsm.run keepaliveClient silence).2.countP Output.isSend = 11 ∧
      (nictFsm.run keepaliveClient silence).2.countP Output.isVerdict = 1) ∧
      (nictFsm.run keepaliveClient (answeredKeepalive ++ [roundAt [] [] 5031])).1.state =
        .terminated := by
  have h := nict_timed keepaliveClient_created
  refine ⟨⟨by decide +kernel, ?_⟩, ?_⟩
  · exact h.verdict [roundAt [keepalive] [] 0] silence.tail (by decide +kernel)
      ⟨roundAt [] [] 32001, by simp [silence], by decide⟩
  · refine h.ended answeredKeepalive [roundAt [] [] 5031] ?_ (by decide +kernel)
      ⟨_, List.mem_singleton_self _, by decide⟩
    simp [answeredKeepalive, Timely, roundAt]

end GB28181.Osip
