import GB28181.Osip.Transaction
import Mathlib.Algebra.Order.Group.Int
import Mathlib.Data.Int.ConditionallyCompleteOrder
import Mathlib.Order.Monotone.Basic

/-!
# Rounds of the event loop

`eXosip_execute` works in rounds, and so one transaction lives in rounds: what came in since the
last one is in its queue, its timers are looked at once, and its queue is executed until it is
empty.

* `Round` — one pass for one transaction, with every reading of the clock in it;
  `Round.actions` are its actions;
* `Machine.round`, `Machine.run` — a transaction over one round, over several; `run_append`;
* `Timely`, `settledAt` — rounds that follow one another, and the time at which the last of them is
  over;
* `KeepsQueue` — no event touches the queue when it is executed; `Machine.run_empty`;
* `Machine.run_keeps` — what every event keeps, every run keeps;
* `Deadline` — a timer that leads out of some states for good.

Principal results: `round_rule` (what the messages of a round and the timer that was due keep, the
round keeps), `run_rule`, `Deadline.run` (a transaction is out of the states after a late round).
-/

set_option autoImplicit false

namespace GB28181.Osip

open GB28181.Base

/-- One pass of `eXosip_execute`, for one transaction. -/
structure Round where
  /-- The messages that have come for the transaction, of the network or of its user. -/
  arrivals : List Event
  /-- The readings of the clock in `osip_timers_…_execute`. -/
  clock : Nat → Int
  /-- What each pass of the loop of `osip_…_execute` meets. -/
  envs : List Env
  /-- No reading of the clock is later. -/
  finish : Int
  messages : ∀ evt ∈ arrivals, ∀ timer, evt ≠ .timer timer
  /-- The loop goes on until the queue is empty, of the messages and of one timer. -/
  enough : arrivals.length < envs.length
  ordered : Monotone clock
  within : ∀ i, ∀ env ∈ envs, clock i ≤ env.now ∧ env.now ≤ env.again ∧ env.again ≤ finish

namespace Round

def actions (r : Round) : List Action :=
  r.arrivals.map .add ++ .timers r.clock :: r.envs.map .execute

theorem clock_le_finish (r : Round) (i : Nat) : r.clock i ≤ r.finish := by
  obtain ⟨env, henv⟩ := List.exists_mem_of_length_pos (Nat.zero_lt_of_lt r.enough)
  obtain ⟨hclock, hagain, hfinish⟩ := r.within i env henv
  exact hclock.trans (hagain.trans hfinish)

end Round

/-- Rounds that follow one another from a time on. -/
def Timely : Int → List Round → Prop
  | _, [] => True
  | start, r :: rs => start ≤ r.clock 0 ∧ Timely r.finish rs

/-- When the last of some rounds is over. -/
def settledAt : Int → List Round → Int
  | start, [] => start
  | _, r :: rs => settledAt r.finish rs

theorem timely_append {start : Int} {rounds rest : List Round} :
    Timely start (rounds ++ rest) ↔ Timely start rounds ∧ Timely (settledAt start rounds) rest := by
  induction rounds generalizing start with
  | nil => simp [Timely, settledAt]
  | cons r rs ih => simp [Timely, settledAt, ih, and_assoc]

section Machine

variable {κ σ : Type} [DecidableEq σ] {fsm : Machine κ σ}

def Machine.round (fsm : Machine κ σ) (t : Transaction κ σ) (r : Round) :
    Transaction κ σ × List Output :=
  runLog fsm.step t r.actions

def Machine.run (fsm : Machine κ σ) (t : Transaction κ σ) (rounds : List Round) :
    Transaction κ σ × List Output :=
  runLog fsm.round t rounds

theorem Machine.run_eq (fsm : Machine κ σ) (t : Transaction κ σ) (rounds : List Round) :
    fsm.run t rounds = runLog fsm.step t (rounds.flatMap Round.actions) :=
  (runLog_flatMap Round.actions t rounds).symm

theorem Machine.run_append (fsm : Machine κ σ) (t : Transaction κ σ) (rounds rest : List Round) :
    fsm.run t (rounds ++ rest) =
      ((fsm.run (fsm.run t rounds).1 rest).1,
        (fsm.run t rounds).2 ++ (fsm.run (fsm.run t rounds).1 rest).2) :=
  runLog_append t rounds rest

/-- No event touches the queue when it is executed. -/
def KeepsQueue (fsm : Machine κ σ) : Prop :=
  ∀ env (t : Transaction κ σ) evt,
    (transactionExecute fsm env t evt).1.transactionff = t.transactionff

theorem runLog_adds (t : Transaction κ σ) (evts : List Event) :
    runLog fsm.step t (evts.map .add) =
      ({ t with transactionff := t.transactionff ++ evts }, []) := by
  induction evts generalizing t with
  | nil => simp
  | cons evt evts ih =>
    rw [List.map_cons, runLog_cons, ih]
    simp [Machine.step, Transaction.addEvent]

/-- The queue of a round: messages, and behind them the timer that was due. -/
def Queued (r : Round) (due : Option Timer) (queue : List Event) : Prop :=
  ∃ evts, queue = evts ++ (due.map Event.timer).toList ∧ ∀ evt ∈ evts, evt ∈ r.arrivals

section Rule

variable {r : Round} {J : Option Timer → Transaction κ σ → List Output → Prop}

/-- The loop of `osip_…_execute` with as many passes as the queue needs. -/
theorem runLog_queue (hqueue : KeepsQueue fsm)
    (hblind : ∀ due t log queue, J due t log → J due { t with transactionff := queue } log)
    (hmessage : ∀ due env t evt log, env ∈ r.envs → evt ∈ r.arrivals → J due t log →
      J due (transactionExecute fsm env t evt).1 (log ++ (transactionExecute fsm env t evt).2))
    (htimer : ∀ timer env t log, env ∈ r.envs → J (some timer) t log →
      J none (transactionExecute fsm env t (.timer timer)).1
        (log ++ (transactionExecute fsm env t (.timer timer)).2))
    {envs : List Env} (henvs : ∀ env ∈ envs, env ∈ r.envs) {due : Option Timer}
    {t : Transaction κ σ} {log : List Output} (hqueued : Queued r due t.transactionff)
    (hlength : t.transactionff.length ≤ envs.length) (h : J due t log) :
    (runLog fsm.step t (envs.map .execute)).1.transactionff = [] ∧
      J none (runLog fsm.step t (envs.map .execute)).1
        (log ++ (runLog fsm.step t (envs.map .execute)).2) := by
  induction envs generalizing due t log with
  | nil =>
    have hnil : t.transactionff = [] := List.eq_nil_of_length_eq_zero (Nat.le_zero.mp hlength)
    obtain ⟨evts, hevts, -⟩ := hqueued
    cases due with
    | none => exact ⟨hnil, by simpa using h⟩
    | some timer => simp [hnil] at hevts
  | cons env envs ih =>
    have hrest : ∀ env ∈ envs, env ∈ r.envs := fun env henv => henvs env (by simp [henv])
    have henv : env ∈ r.envs := henvs env (by simp)
    rw [List.map_cons, runLog_cons, Machine.step, ← List.append_assoc]
    rcases hff : t.transactionff with - | ⟨evt, queue⟩
    · have hnext : executeNext fsm env t = (t, []) := by rw [executeNext, hff]
      rw [hnext, List.append_nil]
      exact ih hrest hqueued (by simp [hff]) h
    · have hnext : executeNext fsm env t =
          transactionExecute fsm env { t with transactionff := queue } evt := by
        rw [executeNext, hff]
      have hkeeps : (executeNext fsm env t).1.transactionff = queue := by
        rw [hnext, hqueue]
      have hshort : (executeNext fsm env t).1.transactionff.length ≤ envs.length := by
        rw [hkeeps]
        rw [hff] at hlength
        simpa using hlength
      have hstart := hblind due t log queue h
      obtain ⟨evts, hevts, harrivals⟩ := hqueued
      rw [hff] at hevts
      rcases evts with - | ⟨first, evts⟩
      · -- the messages are done: the timer is left
        cases due with
        | none => simp at hevts
        | some timer =>
          obtain ⟨rfl, rfl⟩ : evt = .timer timer ∧ queue = [] := by simpa using hevts
          have hqueued' : Queued r none (executeNext fsm env t).1.transactionff :=
            ⟨[], by simp [hkeeps], by simp⟩
          refine ih hrest hqueued' hshort ?_
          rw [hnext]
          exact htimer timer env _ log henv hstart
      · obtain ⟨rfl, rfl⟩ : evt = first ∧ queue = evts ++ (due.map Event.timer).toList := by
          simpa using hevts
        refine ih hrest ⟨evts, hkeeps, fun evt hevt => harrivals evt (by simp [hevt])⟩ hshort ?_
        rw [hnext]
        exact hmessage due env _ evt log henv (harrivals evt (by simp)) hstart

/-- What the messages of a round keep, and what the timer that was due keeps, the round keeps. -/
theorem round_rule (hqueue : KeepsQueue fsm)
    (hblind : ∀ due t log queue, J due t log → J due { t with transactionff := queue } log)
    (hmessage : ∀ due env t evt log, env ∈ r.envs → evt ∈ r.arrivals → J due t log →
      J due (transactionExecute fsm env t evt).1 (log ++ (transactionExecute fsm env t evt).2))
    (htimer : ∀ timer env t log, env ∈ r.envs → J (some timer) t log →
      J none (transactionExecute fsm env t (.timer timer)).1
        (log ++ (transactionExecute fsm env t (.timer timer)).2))
    {t : Transaction κ σ} (log : List Output) (hempty : t.transactionff = [])
    (h : J (fsm.dueTimer { t with transactionff := r.arrivals } r.clock) t log) :
    (fsm.round t r).1.transactionff = [] ∧ J none (fsm.round t r).1 (log ++ (fsm.round t r).2) := by
  have hround : fsm.round t r =
      runLog fsm.step (timersExecute fsm r.clock { t with transactionff := r.arrivals })
        (r.envs.map .execute) := by
    rw [Machine.round, Round.actions, runLog_append, runLog_adds, hempty]
    simp [Machine.step]
  have hqueued : Queued r (fsm.dueTimer { t with transactionff := r.arrivals } r.clock)
      (timersExecute fsm r.clock { t with transactionff := r.arrivals }).transactionff := by
    refine ⟨r.arrivals, ?_, fun _ => id⟩
    rw [timersExecute]
    split <;> simp [*, Transaction.addEvent]
  have hlength : (timersExecute fsm r.clock
      { t with transactionff := r.arrivals }).transactionff.length ≤ r.envs.length := by
    have henough := r.enough
    rw [timersExecute]
    split
    · simpa [Transaction.addEvent] using Nat.succ_le_of_lt henough
    · exact henough.le
  have hstart : J (fsm.dueTimer { t with transactionff := r.arrivals } r.clock)
      (timersExecute fsm r.clock { t with transactionff := r.arrivals }) log := by
    have hq := hblind _ _ _ (timersExecute fsm r.clock
      { t with transactionff := r.arrivals }).transactionff h
    convert hq using 1
    rw [timersExecute]
    split <;> rfl
  rw [hround]
  exact runLog_queue hqueue hblind hmessage htimer (fun _ => id) hqueued hlength hstart

end Rule

theorem Machine.run_empty (hqueue : KeepsQueue fsm) {t : Transaction κ σ}
    (hempty : t.transactionff = []) (rounds : List Round) :
    (fsm.run t rounds).1.transactionff = [] := by
  induction rounds generalizing t with
  | nil => exact hempty
  | cons r rs ih =>
    exact ih (round_rule (J := fun _ _ _ => True) hqueue (fun _ _ _ _ _ => trivial)
      (fun _ _ _ _ _ _ _ _ => trivial) (fun _ _ _ _ _ _ => trivial) [] hempty trivial).1

/-- What every event keeps of a transaction and what was reported, every run keeps. -/
theorem Machine.run_keeps (fsm : Machine κ σ) {I : Transaction κ σ → List Output → Prop}
    (hblind : ∀ t log queue, I t log → I { t with transactionff := queue } log)
    (hexecute : ∀ env t evt log, I t log →
      I (transactionExecute fsm env t evt).1 (log ++ (transactionExecute fsm env t evt).2))
    {t : Transaction κ σ} (log : List Output) (h : I t log) (rounds : List Round) :
    I (fsm.run t rounds).1 (log ++ (fsm.run t rounds).2) := by
  rw [Machine.run_eq]
  refine runLog_rule (fun (t : Transaction κ σ) a log (hI : I t log) => ?_) h _
  cases a with
  | add evt =>
    rw [Machine.step, Transaction.addEvent, List.append_nil]
    exact hblind t log _ hI
  | timers clock =>
    rw [Machine.step, timersExecute, List.append_nil]
    split
    · exact hblind t log _ hI
    · exact hI
  | execute env =>
    rw [Machine.step, executeNext]
    split
    · simpa using hI
    · exact hexecute env _ _ log (hblind t log _ hI)

theorem run_rule (fsm : Machine κ σ) {I : Int → Transaction κ σ → List Output → Prop}
    {rounds : List Round}
    (hround : ∀ start t log, ∀ r ∈ rounds, t.transactionff = [] → start ≤ r.clock 0 →
      I start t log → (fsm.round t r).1.transactionff = [] ∧
        I r.finish (fsm.round t r).1 (log ++ (fsm.round t r).2))
    {start : Int} {t : Transaction κ σ} (log : List Output) (htimely : Timely start rounds)
    (hempty : t.transactionff = []) (h : I start t log) :
    (fsm.run t rounds).1.transactionff = [] ∧
      I (settledAt start rounds) (fsm.run t rounds).1 (log ++ (fsm.run t rounds).2) := by
  induction rounds generalizing start t log with
  | nil => exact ⟨hempty, by simpa [Machine.run, settledAt] using h⟩
  | cons r rs ih =>
    obtain ⟨hff, hI⟩ := hround start t log r (by simp) hempty htimely.1 h
    have hrest := ih (fun start t log r' hr' => hround start t log r' (by simp [hr'])) _ htimely.2
      hff hI
    rw [List.append_assoc] at hrest
    exact hrest

/-! ## Deadlines -/

/-- The events of a round: its messages are calm ones. -/
def Meets (calm : Event → Prop) (evt : Event) : Prop := calm evt ∨ ∃ timer, evt = .timer timer

/-- While `G` holds, only the timer leads out of `W`, and nothing leads back in; a late round finds
the timer due. -/
structure Deadline (fsm : Machine κ σ) (calm : Event → Prop) (G W : σ → κ → Prop) (timer : Timer)
    (late : Round → Prop) : Prop where
  keeps : ∀ env (t : Transaction κ σ) evt, Meets calm evt → G t.state t.context →
    G (transactionExecute fsm env t evt).1.state (transactionExecute fsm env t evt).1.context
  back : ∀ env (t : Transaction κ σ) evt, Meets calm evt → G t.state t.context →
    W (transactionExecute fsm env t evt).1.state (transactionExecute fsm env t evt).1.context →
    W t.state t.context
  leaves : ∀ env (t : Transaction κ σ), G t.state t.context →
    ¬ W (transactionExecute fsm env t (.timer timer)).1.state
      (transactionExecute fsm env t (.timer timer)).1.context
  due : ∀ (t : Transaction κ σ) r, late r → t.transactionff = r.arrivals →
    G t.state t.context → W t.state t.context →
    fsm.dueTimer t r.clock = some timer

namespace Deadline

variable {calm : Event → Prop} {G W : σ → κ → Prop} {timer : Timer} {late : Round → Prop}

/-- A transaction that is in `W` after a round was so before, and the round was not late. -/
theorem round (h : Deadline fsm calm G W timer late) (hqueue : KeepsQueue fsm)
    {t : Transaction κ σ} {r : Round} (hcalm : ∀ evt ∈ r.arrivals, calm evt)
    (hempty : t.transactionff = []) (hG : G t.state t.context) :
    (fsm.round t r).1.transactionff = [] ∧ G (fsm.round t r).1.state (fsm.round t r).1.context ∧
      (W (fsm.round t r).1.state (fsm.round t r).1.context →
        W t.state t.context ∧ ¬ late r) := by
  have hrule := round_rule (r := r) (t := t)
    (J := fun due t' _ => G t'.state t'.context ∧
      (W t'.state t'.context → W t.state t.context ∧ (late r → due = some timer))) hqueue
    (fun _ _ _ _ hJ => hJ)
    (fun due env t' evt _ _ hevt hJ => by
      have hmeets : Meets calm evt := .inl (hcalm evt hevt)
      exact ⟨h.keeps env t' evt hmeets hJ.1, fun hW => hJ.2 (h.back env t' evt hmeets hJ.1 hW)⟩)
    (fun timer' env t' _ _ hJ => by
      have hmeets : Meets calm (.timer timer') := .inr ⟨timer', rfl⟩
      refine ⟨h.keeps env t' _ hmeets hJ.1, fun hW => ?_⟩
      obtain ⟨hW₀, hdue⟩ := hJ.2 (h.back env t' _ hmeets hJ.1 hW)
      refine ⟨hW₀, fun hlate => ?_⟩
      obtain rfl : timer' = timer := Option.some.inj (hdue hlate)
      exact absurd hW (h.leaves env t' hJ.1))
    [] hempty ⟨hG, fun hW => ⟨hW, fun hlate =>
      h.due { t with transactionff := r.arrivals } r hlate rfl hG hW⟩⟩
  exact ⟨hrule.1, hrule.2.1, fun hW => ⟨(hrule.2.2 hW).1, fun hlate =>
    nomatch (hrule.2.2 hW).2 hlate⟩⟩

/-- A transaction that is in `W` after some rounds was so before, and none of them was late. -/
theorem run (h : Deadline fsm calm G W timer late) (hqueue : KeepsQueue fsm)
    {t : Transaction κ σ} {rounds : List Round}
    (hcalm : ∀ r ∈ rounds, ∀ evt ∈ r.arrivals, calm evt) (hempty : t.transactionff = [])
    (hG : G t.state t.context) :
    G (fsm.run t rounds).1.state (fsm.run t rounds).1.context ∧
      (W (fsm.run t rounds).1.state (fsm.run t rounds).1.context →
        W t.state t.context ∧ ∀ r ∈ rounds, ¬ late r) := by
  induction rounds generalizing t with
  | nil => exact ⟨hG, fun hW => ⟨hW, by simp⟩⟩
  | cons r rs ih =>
    obtain ⟨hff, hG', hround⟩ := h.round hqueue (hcalm r (by simp)) hempty hG
    obtain ⟨hGend, hrest⟩ := ih (fun r' hr' => hcalm r' (by simp [hr'])) hff hG'
    refine ⟨hGend, fun hW => ?_⟩
    obtain ⟨hW', hnone⟩ := hrest hW
    obtain ⟨hW₀, hfirst⟩ := hround hW'
    exact ⟨hW₀, by simpa using ⟨hfirst, hnone⟩⟩

end Deadline

end Machine

/-- A round at one time, in which some messages are sent and some received, and every message is
taken at once. -/
def roundAt (sent received : List Message) (now : Int) : Round where
  arrivals := sent.map .outgoing ++ received.map .incoming
  clock _ := now
  envs := List.replicate (sent.length + received.length + 1) ⟨now, now, 0⟩
  finish := now
  messages := by
    rintro evt hevt timer rfl
    simp at hevt
  enough := by simp
  ordered _ _ _ := le_rfl
  within _ env henv := by
    rw [List.eq_of_mem_replicate henv]
    exact ⟨le_rfl, le_rfl, le_rfl⟩

end GB28181.Osip
