import GB28181.Platform.EventForwarding

/-!
# No module message is lost (`SIPCom/SIPCom.cpp`)

Every turn of the loop in `HandleShared` allocates a message before it looks at the type of the
block, and most cases allocate another one.  A message that is pushed takes the body buffer it
refers to along.

* `lossless_iff` — a turn pushes or frees all it allocates **exactly when** its `switch` finds an
  answer to a message and the guard lets it through;
* `not_blockLeftAlone` — every turn reads the block after `PopDone` gave it back;
* `lossless_run_iff` — the same over every sequence of blocks, from every state.
-/

set_option autoImplicit false

namespace GB28181.Platform.SIPCom

open GB28181.Base GB28181.Base.Own GB28181.SipCom

/-- The units of the pools, and the block a turn works on. -/
inductive Obj where
  | message (n : Nat)
  | body (n : Nat)
  | block
deriving DecidableEq

/-- What an effect is for the units and the block. -/
def Effect.accesses : Effect → List (Event Obj)
  | .allocMessage n => [.take (.message n)]
  | .allocBody n => [.take (.body n)]
  | .readBlock => [.use .block]
  | .popDone => [.give .block]
  | .push _ n content =>
    .give (.message n) :: (content.playData.map fun p => Event.give (.body p.1)).toList
  | .free n => [.give (.message n)]
  | .keepalive => []

/-- What a turn does with the units and the block, in order. -/
def trace (out : List Effect) : List (Event Obj) := out.flatMap Effect.accesses

theorem trace_append (out out' : List Effect) : trace (out ++ out') = trace out ++ trace out' :=
  List.flatMap_append

/-- Every message and every body buffer the turn allocates is pushed or freed, once. -/
def Lossless (cfg : Config) (s : CSIPCom) (t : Turn) : Prop :=
  Own.Balanced (trace (handleBlock cfg t s).out)

/-- The block is not read after `PopDone`. -/
def BlockLeftAlone (cfg : Config) (s : CSIPCom) (t : Turn) : Prop :=
  life .block .live (trace (handleBlock cfg t s).out) = .gone

/-! ## One turn -/

def Effect.message : Effect → Option Nat
  | .allocMessage n => some n
  | .push _ n _ => some n
  | .free n => some n
  | _ => none

/-- An effect about another message is nothing to this one, whatever buffer goes along. -/
theorem Effect.accesses_ne {e : Effect} {n : Nat} (h : e.message ≠ some n) :
    ∀ a ∈ e.accesses, a.on ≠ .message n := by
  intro a ha hon
  cases e with
  | allocMessage m =>
    rw [List.mem_singleton.mp ha] at hon
    exact h (congrArg some (Obj.message.inj hon))
  | allocBody m =>
    rw [List.mem_singleton.mp ha] at hon
    cases hon
  | readBlock =>
    rw [List.mem_singleton.mp ha] at hon
    cases hon
  | popDone =>
    rw [List.mem_singleton.mp ha] at hon
    cases hon
  | push module m content =>
    rcases List.mem_cons.mp ha with rfl | ha
    · exact h (congrArg some (Obj.message.inj hon))
    · obtain ⟨p, -, rfl⟩ := Option.map_eq_some_iff.mp (Option.mem_toList.mp ha)
      cases hon
  | free m =>
    rw [List.mem_singleton.mp ha] at hon
    exact h (congrArg some (Obj.message.inj hon))
  | keepalive => cases ha

/-- The cases of the `switch` work on messages of their own; only the answer to a message frees
the one filled before. -/
theorem switchCmd_message_ne {s : CSIPCom} {later : Nat → SharedBlock} {n : Nat}
    (hn : s.nextMessage = n + 1) (h : (later 1).cmd_type ≠ some .messageResponse) :
    ∀ e ∈ (switchCmd n later s).out, e.message ≠ some n := by
  unfold switchCmd
  rcases hb : (later 1).cmd_type with _ | cmd
  · intro e he
    cases he
  cases cmd with
  | registerSuccess => simp [setPlatformStatus, Effect.message]
  | registerFail =>
    dsimp only
    rw [caseRegisterFail_out]
    split
    · simp [Effect.message, hn]
    · simp
  | message => simp [dispatch, Effect.message]
  | messageResponse => exact absurd hb h
  | subscribe =>
    dsimp only
    rw [caseSubscribe_out]
    simp [Effect.message, hn]
  | subscribeNotify => simp
  | callInvite =>
    dsimp only
    by_cases h0 : (later 3).nExtBodySize = 0
    · rw [caseInvite_out_nobody h0]
      simp [Effect.message, hn]
    · rw [caseInvite_out_body h0]
      simp [Effect.message, hn]
  | callInviteResponse =>
    dsimp only
    by_cases h0 : (later 4).nExtBodySize = 0
    · rw [caseInviteResponse_out_nobody h0]
      simp [Effect.message, hn]
      omega
    · rw [caseInviteResponse_out_body h0]
      simp [Effect.message, hn]
      omega
  | callAck =>
    dsimp only
    rw [caseAck_out]
    split <;> simp [Effect.message, hn]
  | callInfo =>
    dsimp only
    rw [caseInfo_out]
    simp [Effect.message, hn]
  | callBye =>
    dsimp only
    rw [caseBye_out]
    simp [Effect.message, hn]

/-- What a turn does before the `switch`. -/
def opening (n : Nat) : List (Event Obj) :=
  [.take (.message n), .use .block, .give .block, .use .block]

theorem trace_handleBlock (cfg : Config) (s : CSIPCom) (t : Turn) :
    trace (handleBlock cfg t s).out =
      opening s.nextMessage ++
        trace (if Discards cfg s (t.later 0) then []
          else (switchCmd s.nextMessage t.later (s.filled t.block)).out) := by
  rw [handleBlock_out, trace_append]
  rfl

theorem life_opening (n : Nat) : life (.message n) .absent (opening n) = .live := by
  simp [opening, life, Life.step, Event.on, Life.next]

/-- **One turn** loses nothing exactly when the `switch` finds an answer to a message, and the guard
has let it through. -/
theorem lossless_iff (cfg : Config) (s : CSIPCom) (t : Turn) :
    Lossless cfg s t ↔
      (t.later 1).cmd_type = some .messageResponse ∧ ¬ Discards cfg s (t.later 0) := by
  -- a turn that does not free the message it filled first keeps it
  have hkept : ∀ out : List Effect, (∀ e ∈ out, e.message ≠ some s.nextMessage) →
      ¬ Own.Balanced (opening s.nextMessage ++ trace out) := by
    intro out hout hbal
    have hgone := hbal (.message s.nextMessage) (by simp [opening])
    rw [life_append, life_opening, life_eq_self] at hgone
    · cases hgone
    · intro a ha
      obtain ⟨e, he, ha⟩ := List.mem_flatMap.mp ha
      exact Effect.accesses_ne (hout e he) a ha
  unfold Lossless
  rw [trace_handleBlock]
  by_cases hd : Discards cfg s (t.later 0)
  · rw [if_pos hd]
    refine iff_of_false (hkept [] fun _ h => ?_) fun h => h.2 hd
    cases h
  rw [if_neg hd, and_iff_left hd]
  by_cases hb : (t.later 1).cmd_type = some .messageResponse
  · refine iff_of_true ?_ hb
    have hout : trace (switchCmd s.nextMessage t.later (s.filled t.block)).out =
        [.use .block, .give (.message s.nextMessage)] := by
      rw [switchCmd, hb]
      rfl
    rw [hout]
    intro x hx
    obtain rfl : x = .message s.nextMessage := by simpa [opening] using hx
    rw [life_append, life_opening]
    simp [life, Life.step, Event.on, Life.next]
  · exact iff_of_false (hkept _ (switchCmd_message_ne rfl hb)) hb

/-- **The block is read after it was given back**, in every turn. -/
theorem not_blockLeftAlone (cfg : Config) (s : CSIPCom) (t : Turn) :
    ¬ BlockLeftAlone cfg s t := by
  unfold BlockLeftAlone
  have hopening : life .block .live (opening s.nextMessage) = .broken := by
    simp [opening, life, Life.step, Event.on, Life.next]
  rw [trace_handleBlock, life_append, hopening, life_broken]
  intro h
  cases h

/-! ## Runs -/

/-- **Every sequence of blocks**, from every state and whatever becomes of the memory that was given
back.  Nothing is lost exactly when all blocks are found to be answers to messages and are let
through; and there is no sequence but the empty one in which, on top of that, no block is read after
it was given back. -/
theorem lossless_run_iff (cfg : Config) (s : CSIPCom) (turns : List Turn) :
    ((∀ p ∈ calls (step cfg) s turns, Lossless cfg p.1 p.2) ↔
        ∀ p ∈ calls (step cfg) s turns,
          (p.2.later 1).cmd_type = some .messageResponse ∧ ¬ Discards cfg p.1 (p.2.later 0)) ∧
      ((∀ p ∈ calls (step cfg) s turns, Lossless cfg p.1 p.2 ∧ BlockLeftAlone cfg p.1 p.2) ↔
        turns = []) := by
  refine ⟨forall₂_congr fun p _ => lossless_iff cfg p.1 p.2, ?_⟩
  cases turns with
  | nil => exact iff_of_true (fun _ h => by cases h) rfl
  | cons t turns =>
    refine iff_of_false (fun h => ?_) (List.cons_ne_nil t turns)
    exact not_blockLeftAlone cfg s t (h (s, t) List.mem_cons_self).2

/-- A MESSAGE request of a registered gateway: the message made for it is lost. -/
theorem message_is_lost :
    ¬ ∀ (cfg : Config) (s : CSIPCom) (turns : List Turn),
      ∀ p ∈ calls (step cfg) s turns, Lossless cfg p.1 p.2 ∧ BlockLeftAlone cfg p.1 p.2 := by
  intro h
  let b : SharedBlock := ⟨some .message, 1, str "34020000001320000001", 0, 0, 20, []⟩
  have hlossless := (h ⟨false, 0⟩ ⟨.REGISTERED, fun _ => {}, 0, 0⟩ [⟨b, fun _ => b⟩] _
    List.mem_cons_self).1
  have hresponse := ((lossless_iff _ _ _).mp hlossless).1
  cases hresponse

end GB28181.Platform.SIPCom
