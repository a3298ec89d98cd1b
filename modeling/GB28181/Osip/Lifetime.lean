import GB28181.Osip.Ict
import GB28181.Osip.Ist
import GB28181.Osip.Nict

/-!
# The end of a transaction

A transaction that has reached TERMINATED asks, once, to be removed, and from then on does nothing:
the user may release it.

* `Output.IsKill` — the call that asks for removal;
* `Ends`, `Dies` — how a method leaves a transaction that is alive, and what an event does to a
  transaction;
* `machine_expires` — a machine whose events do so dies once;
* `KilledOnce` — the same over runs.

Principal result: `transaction_killed_once`, for all four kinds of transactions.
-/

set_option autoImplicit false

namespace GB28181.Osip

open GB28181.Base

/-- `__osip_kill_transaction_callback`. -/
def Output.IsKill : Output → Prop
  | .kill _ => True
  | _ => False

section Ends

variable {κ σ : Type}

/-- How a method leaves a transaction: it goes on, and nothing final was reported; or it does
not, and the last report was the final one. -/
def Ends (Alive : σ → Prop) (final : Output → Prop) (r : Transaction κ σ × List Output) : Prop :=
  (Alive r.1.state ∧ ∀ o ∈ r.2, ¬ final o) ∨
    (¬ Alive r.1.state ∧ ∃ os o, r.2 = os ++ [o] ∧ final o ∧ ∀ o ∈ os, ¬ final o)

/-- An event is useless to a transaction that is over, and leaves any other so. -/
def Dies (Alive : σ → Prop) (final : Output → Prop) (_env : Env) (t : Transaction κ σ)
    (r : Transaction κ σ × List Output) : Prop :=
  (Alive t.state → Ends Alive final r) ∧ (¬ Alive t.state → r = (t, []))

variable {Alive : σ → Prop} {final : Output → Prop}

theorem Dies.useless (env : Env) (t : Transaction κ σ) : Dies Alive final env t (t, []) :=
  ⟨fun halive => .inl ⟨halive, by simp⟩, fun _ => rfl⟩

theorem Ends.dies {env : Env} {t : Transaction κ σ} {r : Transaction κ σ × List Output}
    (h : Ends Alive final r) (halive : Alive t.state) : Dies Alive final env t r :=
  ⟨fun _ => h, fun hover => absurd halive hover⟩

variable [DecidableEq σ] {fsm : Machine κ σ}

theorem machine_expires (Alive : σ → Prop) (final : Output → Prop)
    (hdies : ∀ env t evt, Dies Alive final env t (transactionExecute fsm env t evt)) :
    Expires fsm.step (fun t => Alive t.state) final := by
  have hstep : ∀ (t : Transaction κ σ) a,
      (Alive t.state → Ends Alive final (fsm.step t a)) ∧
        (¬ Alive t.state → ¬ Alive (fsm.step t a).1.state ∧ (fsm.step t a).2 = []) := by
    intro t a
    cases a with
    | add evt =>
      exact ⟨fun halive => .inl ⟨halive, by simp [Machine.step]⟩, fun hover => ⟨hover, rfl⟩⟩
    | timers clock =>
      rw [Machine.step, timersExecute]
      refine ⟨fun halive => .inl ⟨?_, by simp⟩, fun hover => ⟨?_, rfl⟩⟩
      · split <;> exact halive
      · split <;> exact hover
    | execute env =>
      rw [Machine.step, executeNext]
      split
      · exact ⟨fun halive => .inl ⟨halive, by simp⟩, fun hover => ⟨hover, rfl⟩⟩
      · rename_i evt evts _
        obtain ⟨hends, hover⟩ := hdies env { t with transactionff := evts } evt
        exact ⟨hends, fun h => by rw [hover h]; exact ⟨h, rfl⟩⟩
  refine ⟨fun t a halive hnext => ?_, fun t a halive hnext => ?_,
    fun t a hover => (hstep t a).2 hover⟩
  · rcases (hstep t a).1 halive with ⟨-, hlog⟩ | ⟨hover, -⟩
    · exact hlog
    · exact absurd hnext hover
  · rcases (hstep t a).1 halive with ⟨hstate, -⟩ | ⟨-, hlog⟩
    · exact absurd hstate hnext
    · exact hlog

end Ends

section Kill

variable {κ σ : Type} {terminated : σ}

theorem Ends.goesOn {r : Transaction κ σ × List Output} (hstate : r.1.state ≠ terminated)
    (hlog : ∀ o ∈ r.2, ¬ o.IsKill) : Ends (· ≠ terminated) Output.IsKill r :=
  .inl ⟨hstate, hlog⟩

/-- A method that terminates the transaction, after what it did before. -/
theorem Ends.terminates {r : Transaction κ σ × List Output} (os : List Output) (kind : FsmType)
    (hstate : r.1.state = terminated) (hlog : r.2 = os ++ [.kill kind])
    (hos : ∀ o ∈ os, ¬ o.IsKill) : Ends (· ≠ terminated) Output.IsKill r :=
  .inr ⟨not_not.mpr hstate, os, _, hlog, trivial, hos⟩

end Kill

/-! ## The four machines -/

section Nict

variable {env : Env} {t : NictTransaction} {sip : Message}

theorem nictSndRequest_ends :
    Ends (· ≠ .terminated) Output.IsKill (nictSndRequest env t sip) := by
  rw [nictSndRequest]
  dsimp only
  split
  · exact .terminates [_, _] .nict rfl rfl (by simp [nictSend, Output.IsKill])
  · split
    · exact .terminates [_, _, _] .nict rfl rfl (by simp [nictSend, Output.IsKill])
    · exact .goesOn (by simp) (by simp [nictSend, Output.IsKill])

theorem nictTimeoutE_ends (hstate : t.state ≠ .terminated) :
    Ends (· ≠ .terminated) Output.IsKill (nictTimeoutE env t) := by
  rw [nictTimeoutE]
  split
  · exact .goesOn hstate (by simp)
  · dsimp only
    split
    · exact .terminates [_, _] .nict rfl rfl (by simp [nictSend, Output.IsKill])
    · split
      · split
        · exact .terminates [_, _] .nict rfl rfl (by simp [nictSend, Output.IsKill])
        · exact .goesOn hstate (by simp [nictSend, Output.IsKill])
      · exact .goesOn hstate (by simp [nictSend, Output.IsKill])

theorem nictTimeoutF_ends : Ends (· ≠ .terminated) Output.IsKill (nictTimeoutF env t) :=
  .terminates [_] .nict rfl rfl (by simp [Output.IsKill])

theorem nictTimeoutK_ends : Ends (· ≠ .terminated) Output.IsKill (nictTimeoutK env t) :=
  .terminates [] .nict rfl rfl (by simp)

theorem nictRcv1xx_ends : Ends (· ≠ .terminated) Output.IsKill (nictRcv1xx env t sip) :=
  .goesOn (nomatch ·) (by simp [nictRcv1xx, Output.IsKill])

theorem nictRcv23456xx_ends :
    Ends (· ≠ .terminated) Output.IsKill (nictRcv23456xx env t sip) :=
  .goesOn (nomatch ·) (by simp [nictRcv23456xx, Output.IsKill])

theorem nictFsm_expires :
    Expires nictFsm.step (fun t => t.state ≠ NictState.terminated) Output.IsKill := by
  refine machine_expires (· ≠ .terminated) _
    (nict_rule (fun env t _ => Dies.useless env t) ?_ ?_ ?_ ?_ ?_ ?_)
  · exact fun env t sip h _ _ => nictSndRequest_ends.dies (by simp [h])
  · exact fun env t h => (nictTimeoutE_ends h.live).dies h.live
  · exact fun env t h => nictTimeoutF_ends.dies h.live
  · exact fun env t h => nictTimeoutK_ends.dies (by simp [h])
  · exact fun env t sip h _ _ => nictRcv1xx_ends.dies h.live
  · exact fun env t sip h _ _ => nictRcv23456xx_ends.dies h.live

end Nict

section Nist

variable {env : Env} {t : NistTransaction} {sip : Message}

theorem nistRcvRequest_ends (hstate : t.state ≠ .terminated) :
    Ends (· ≠ .terminated) Output.IsKill (nistRcvRequest env t sip) := by
  rw [nistRcvRequest]
  split
  · exact .goesOn (nomatch ·) (by simp [Output.IsKill])
  · dsimp only
    split
    · exact .goesOn hstate (by simp [Output.IsKill])
    · rename_i response _
      rcases transactionSnd_cases env response with hsnd | ⟨host, port, hsnd⟩
      · rw [hsnd]
        exact .terminates [_, _] .nist rfl rfl (by simp [Output.IsKill])
      · rw [hsnd]
        dsimp only
        split
        · exact .terminates [_, _, _] .nist rfl rfl (by simp [Output.IsKill])
        · exact .goesOn hstate (by simp [Output.IsKill])

theorem nistSnd1xx_ends : Ends (· ≠ .terminated) Output.IsKill (nistSnd1xx env t sip) := by
  rw [nistSnd1xx]
  rcases transactionSnd_cases env sip with hsnd | ⟨host, port, hsnd⟩
  · rw [hsnd]
    exact .terminates [_] .nist rfl rfl (by simp [Output.IsKill])
  · rw [hsnd]
    dsimp only
    split
    · exact .terminates [_, _] .nist rfl rfl (by simp [Output.IsKill])
    · exact .goesOn (nomatch ·) (by simp [Output.IsKill])

theorem nistSnd23456xx_ends :
    Ends (· ≠ .terminated) Output.IsKill (nistSnd23456xx env t sip) := by
  rw [nistSnd23456xx]
  rcases transactionSnd_cases env sip with hsnd | ⟨host, port, hsnd⟩
  · rw [hsnd]
    exact .terminates [_] .nist rfl rfl (by simp [Output.IsKill])
  · rw [hsnd]
    dsimp only
    split
    · exact .terminates [_, _] .nist rfl rfl (by simp [Output.IsKill])
    · exact .goesOn (nomatch ·) (by simp [Output.IsKill])

theorem nistTimeoutJ_ends : Ends (· ≠ .terminated) Output.IsKill (nistTimeoutJ env t) :=
  .terminates [] .nist rfl rfl (by simp)

theorem nistFsm_expires :
    Expires nistFsm.step (fun t => t.state ≠ NistState.terminated) Output.IsKill := by
  refine machine_expires (· ≠ .terminated) _
    (nist_rule (fun env t _ => Dies.useless env t) ?_ ?_ ?_ ?_)
  · intro env t sip h _ _
    have hlive : t.state ≠ .terminated := by rcases h with h | h | h <;> simp [h]
    exact (nistRcvRequest_ends hlive).dies hlive
  · exact fun env t sip h _ _ => nistSnd1xx_ends.dies h.live
  · exact fun env t sip h _ _ => nistSnd23456xx_ends.dies h.live
  · exact fun env t h => nistTimeoutJ_ends.dies (by simp [h])

end Nist

section Ict

variable {env : Env} {t : IctTransaction} {sip : Message}

theorem ictSndInvite_ends : Ends (· ≠ .terminated) Output.IsKill (ictSndInvite env t sip) := by
  rw [ictSndInvite]
  dsimp only
  split
  · exact .terminates [_, _] .ict rfl rfl (by simp [ictSend, Output.IsKill])
  · exact .goesOn (nomatch ·) (by simp [ictSend, Output.IsKill])

theorem ictTimeoutA_ends (hstate : t.state ≠ .terminated) :
    Ends (· ≠ .terminated) Output.IsKill (ictTimeoutA env t) := by
  rw [ictTimeoutA]
  split
  · exact .goesOn hstate (by simp)
  · dsimp only
    split
    · exact .terminates [_, _] .ict rfl rfl (by simp [ictSend, Output.IsKill])
    · rename_i t' hsend
      have hlive : t'.state ≠ .terminated := (ictSendInvite_frame hsend).2.2.1.trans_ne hstate
      split
      · exact .goesOn hlive (by simp [ictSend, Output.IsKill])
      · exact .goesOn hlive (by simp [ictSend, Output.IsKill])

theorem ictTimeoutB_ends : Ends (· ≠ .terminated) Output.IsKill (ictTimeoutB env t) :=
  .terminates [_] .ict rfl rfl (by simp [Output.IsKill])

theorem ictRcv1xx_ends (env : Env) : Ends (· ≠ .terminated) Output.IsKill (ictRcv1xx env t sip) :=
  .goesOn (nomatch ·) (by simp [ictRcv1xx, Output.IsKill])

theorem ictRcv2xx_ends (env : Env) : Ends (· ≠ .terminated) Output.IsKill (ictRcv2xx env t sip) :=
  .terminates [_] .ict rfl rfl (by simp [Output.IsKill])

theorem ictRcv3456xx_ends : Ends (· ≠ .terminated) Output.IsKill (ictRcv3456xx env t sip) := by
  rw [ictRcv3456xx]
  dsimp only
  split
  · exact .terminates [] .ict rfl rfl (by simp)
  · split
    · exact .terminates [_, _] .ict rfl rfl (by simp [ictSend, Output.IsKill])
    · exact .goesOn (nomatch ·) (by simp [ictSend, Output.IsKill])

theorem ictRetransmitAck_ends (hstate : t.state ≠ .terminated) :
    Ends (· ≠ .terminated) Output.IsKill (ictRetransmitAck env t sip) := by
  rw [ictRetransmitAck]
  dsimp only
  split
  · exact .goesOn hstate (by simp [Output.IsKill])
  · split
    · exact .goesOn hstate (by simp [ictSend, Output.IsKill])
    · exact .terminates [_, _, _] .ict rfl rfl (by simp [ictSend, Output.IsKill])

theorem ictTimeoutD_ends : Ends (· ≠ .terminated) Output.IsKill (ictTimeoutD env t) :=
  .terminates [] .ict rfl rfl (by simp)

theorem ictFsm_expires :
    Expires ictFsm.step (fun t => t.state ≠ IctState.terminated) Output.IsKill := by
  refine machine_expires (· ≠ .terminated) _
    (ict_rule (fun env t _ => Dies.useless env t) ?_ ?_ ?_ ?_ ?_ ?_ ?_ ?_)
  · exact fun env t sip h _ _ => ictSndInvite_ends.dies (by simp [h])
  · exact fun env t h => (ictTimeoutA_ends (by simp [h])).dies (by simp [h])
  · exact fun env t h => ictTimeoutB_ends.dies (by simp [h])
  · exact fun env t sip h _ _ => (ictRcv1xx_ends env).dies h.live
  · exact fun env t sip h _ _ _ => (ictRcv2xx_ends env).dies h.live
  · exact fun env t sip h _ _ _ => ictRcv3456xx_ends.dies h.live
  · exact fun env t sip h _ _ _ => (ictRetransmitAck_ends (by simp [h])).dies (by simp [h])
  · exact fun env t h => ictTimeoutD_ends.dies (by simp [h])

end Ict

section Ist

variable {env : Env} {t : IstTransaction} {sip : Message}

theorem istRcvInvite_ends (hstate : t.state ≠ .terminated) :
    Ends (· ≠ .terminated) Output.IsKill (istRcvInvite env t sip) := by
  rw [istRcvInvite]
  split
  · exact .goesOn (nomatch ·) (by simp [Output.IsKill])
  · dsimp only
    split
    · exact .goesOn hstate (by simp [Output.IsKill])
    · rename_i response _
      rcases transactionSnd_cases env response with hsnd | ⟨host, port, hsnd⟩
      · rw [hsnd]
        exact .terminates [_, _] .ist rfl rfl (by simp [Output.IsKill])
      · rw [hsnd]
        dsimp only
        split
        · exact .terminates [_, _, _] .ist rfl rfl (by simp [Output.IsKill])
        · exact .goesOn hstate (by simp [Output.IsKill])

theorem istTimeoutG_ends (hstate : t.state ≠ .terminated) :
    Ends (· ≠ .terminated) Output.IsKill (istTimeoutG env t) := by
  rw [istTimeoutG]
  split
  · exact .goesOn hstate (by simp)
  · rename_i response _
    dsimp only
    rcases transactionSnd_cases env response with hsnd | ⟨host, port, hsnd⟩
    · rw [hsnd]
      exact .terminates [_] .ist rfl rfl (by simp [Output.IsKill])
    · rw [hsnd]
      dsimp only
      split
      · exact .terminates [_, _] .ist rfl rfl (by simp [Output.IsKill])
      · exact .goesOn hstate (by simp [Output.IsKill])

theorem istTimeoutH_ends : Ends (· ≠ .terminated) Output.IsKill (istTimeoutH env t) :=
  .terminates [] .ist rfl rfl (by simp)

theorem istTimeoutI_ends : Ends (· ≠ .terminated) Output.IsKill (istTimeoutI env t) :=
  .terminates [] .ist rfl rfl (by simp)

theorem istSnd1xx_ends (hstate : t.state ≠ .terminated) :
    Ends (· ≠ .terminated) Output.IsKill (istSnd1xx env t sip) := by
  rw [istSnd1xx]
  rcases transactionSnd_cases env sip with hsnd | ⟨host, port, hsnd⟩
  · rw [hsnd]
    exact .terminates [_] .ist rfl rfl (by simp [Output.IsKill])
  · rw [hsnd]
    dsimp only
    split
    · exact .terminates [_, _] .ist rfl rfl (by simp [Output.IsKill])
    · exact .goesOn hstate (by simp [Output.IsKill])

theorem istSnd2xx_ends : Ends (· ≠ .terminated) Output.IsKill (istSnd2xx env t sip) := by
  rw [istSnd2xx]
  rcases transactionSnd_cases env sip with hsnd | ⟨host, port, hsnd⟩
  · rw [hsnd]
    exact .terminates [_] .ist rfl rfl (by simp [Output.IsKill])
  · rw [hsnd]
    dsimp only
    split
    · exact .terminates [_, _] .ist rfl rfl (by simp [Output.IsKill])
    · exact .terminates [_, _] .ist rfl rfl (by simp [Output.IsKill])

theorem istSnd3456xx_ends : Ends (· ≠ .terminated) Output.IsKill (istSnd3456xx env t sip) := by
  rw [istSnd3456xx]
  rcases transactionSnd_cases env sip with hsnd | ⟨host, port, hsnd⟩
  · rw [hsnd]
    exact .terminates [_] .ist rfl rfl (by simp [Output.IsKill])
  · rw [hsnd]
    dsimp only
    split
    · exact .terminates [_, _] .ist rfl rfl (by simp [Output.IsKill])
    · exact .goesOn (nomatch ·) (by simp [Output.IsKill])

theorem istRcvAck_ends : Ends (· ≠ .terminated) Output.IsKill (istRcvAck env t sip) :=
  .goesOn (nomatch ·) (by simp [istRcvAck, Output.IsKill])

theorem istFsm_expires :
    Expires istFsm.step (fun t => t.state ≠ IstState.terminated) Output.IsKill := by
  refine machine_expires (· ≠ .terminated) _
    (ist_rule (fun env t _ => Dies.useless env t) ?_ ?_ ?_ ?_ ?_ ?_ ?_ ?_)
  · intro env t sip h _ _
    have hlive : t.state ≠ .terminated := by rcases h with h | h | h <;> simp [h]
    exact (istRcvInvite_ends hlive).dies hlive
  · exact fun env t h => (istTimeoutG_ends (by simp [h])).dies (by simp [h])
  · exact fun env t h => istTimeoutH_ends.dies (by simp [h])
  · exact fun env t sip h _ _ => (istSnd1xx_ends (by simp [h])).dies (by simp [h])
  · exact fun env t sip h _ _ => istSnd2xx_ends.dies (by simp [h])
  · exact fun env t sip h _ _ => istSnd3456xx_ends.dies (by simp [h])
  · exact fun env t sip h _ => istRcvAck_ends.dies (by rcases h with h | h <;> simp [h])
  · exact fun env t h => istTimeoutI_ends.dies (by simp [h])

end Ist

/-! ## Runs -/

/-- In every run of a machine from a state before TERMINATED: while it has not come there nothing
asked to remove the transaction, and when it has, this was asked once and nothing was sent or
reported after it. -/
def KilledOnce {κ σ : Type} [DecidableEq σ] (fsm : Machine κ σ) (terminated : σ) : Prop :=
  ∀ (t : Transaction κ σ) (actions : List Action), t.state ≠ terminated →
    ((runLog fsm.step t actions).1.state ≠ terminated ∧
        ∀ o ∈ (runLog fsm.step t actions).2, ¬ o.IsKill) ∨
      ((runLog fsm.step t actions).1.state = terminated ∧
        ∃ os o, (runLog fsm.step t actions).2 = os ++ [o] ∧ o.IsKill ∧ ∀ o ∈ os, ¬ o.IsKill)

theorem KilledOnce.of_expires {κ σ : Type} [DecidableEq σ] {fsm : Machine κ σ} {terminated : σ}
    (h : Expires fsm.step (fun t => t.state ≠ terminated) Output.IsKill) :
    KilledOnce fsm terminated := by
  intro t actions halive
  by_cases hend : (runLog fsm.step t actions).1.state = terminated
  · exact .inr ⟨hend, h.runLog_last halive (not_not.mpr hend)⟩
  · exact .inl ⟨hend, h.runLog_alive hend⟩

/-- **A transaction is released once.**  Of whatever kind it is, and whatever it meets. -/
theorem transaction_killed_once :
    KilledOnce nictFsm .terminated ∧ KilledOnce nistFsm .terminated ∧
      KilledOnce ictFsm .terminated ∧ KilledOnce istFsm .terminated :=
  ⟨.of_expires nictFsm_expires, .of_expires nistFsm_expires, .of_expires ictFsm_expires,
    .of_expires istFsm_expires⟩

/-- A keepalive that nobody answers until timer F fires, and what comes too late. -/
def unansweredKeepalive : List Action :=
  [.add (.outgoing keepalive), .execute ⟨0, 0, 0⟩, .add (.timer .f), .execute ⟨32001, 32001, 0⟩,
    .add (.incoming keepaliveOk), .execute ⟨32002, 32002, 0⟩]

/-- It asks once to be removed, and that is the last it does. -/
theorem transaction_killed_once_keepalive :
    ∃ os o, (runLog nictFsm.step keepaliveClient unansweredKeepalive).2 = os ++ [o] ∧
      o.IsKill ∧ ∀ o ∈ os, ¬ o.IsKill := by
  have hstart : keepaliveClient.state ≠ .terminated := by decide +kernel
  have hend : (runLog nictFsm.step keepaliveClient unansweredKeepalive).1.state = .terminated := by
    decide +kernel
  rcases transaction_killed_once.1 keepaliveClient unansweredKeepalive hstart with ⟨h, -⟩ | ⟨-, h⟩
  · exact absurd hend h
  · exact h

end GB28181.Osip
