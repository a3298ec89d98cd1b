import Mathlib.Data.List.Nodup
import GB28181.Base.Fallible
import GB28181.Base.Ownership

/-!
# The list of waiting requests (`WaitList` in `GB28181.Lib/SipInterface.h`)

`NewWaitMsg` makes a message and appends it, `GetWaitMsg` takes one out for its caller, and
`TimeOutCheck` looks through the list at every hundredth call or so for messages that are too old.
It frees such a message and erases it, but goes on from the erased position: the result of `erase`
is compared with the iterator and not assigned to it.

* `sweepLoop` — the sweep; `sweep_of_live`, `sweep_of_expired` — without an expired message and with
  one;
* `Inv`, `inv_step` — what the calls keep: a message in the list is alive, any other is gone;
* `waitList_iff` — a sweep does what it should **exactly when no message is expired**, and the
  messages of a run are given away once exactly when no sweep of it meets one.
-/

set_option autoImplicit false

namespace GB28181.Lib.WaitList

open GB28181.Base GB28181.Base.Own

/-! ## The calls -/

/-- What a list holds of its messages: the pointer and the fields it looks at. -/
structure Msg where
  ptr : Nat
  nCmdID : Int
  unSeq : UInt32
  timCreateTime : Int
  deriving DecidableEq

inductive Itr where
  | pos (k : Nat)
  | erased
  deriving DecidableEq

inductive Fault where
  | erasedPosition
  deriving DecidableEq

/-- The accesses to messages: `use` reads its fields, `give` frees it or hands it to a caller. -/
abbrev Trace := List (Event Nat)

def Expired (timCurrentTime : Int) (m : Msg) : Prop := 5 < timCurrentTime - m.timCreateTime

instance (timCurrentTime : Int) (m : Msg) : Decidable (Expired timCurrentTime m) :=
  inferInstanceAs (Decidable (_ < _))

/-- The loop of `TimeOutCheck`. -/
def sweepLoop (timCurrentTime : Int) (l : List Msg) (itr : Itr) (tr : Trace) :
    Except Fault (List Msg × Trace) :=
  match itr with
  -- `itr == erase(itr)` and the condition of the loop use an iterator that is not valid any more
  | .erased => .error .erasedPosition
  | .pos k =>
    if h : k < l.length then
      if Expired timCurrentTime l[k] then
        sweepLoop timCurrentTime (l.eraseIdx k) .erased (tr ++ [.use l[k].ptr, .give l[k].ptr])
      else sweepLoop timCurrentTime l (.pos (k + 1)) (tr ++ [.use l[k].ptr])
    else .ok (l, tr)
  termination_by match itr with
    | .pos k => l.length - k + 1
    | .erased => 0

/-- A `WaitList` with the accesses to its messages and the pointer that `new` gives next. -/
structure State where
  m_vecMsgList : List Msg
  nTime : Int
  next : Nat
  trace : Trace

def State.init : State := { m_vecMsgList := [], nTime := 0, next := 0, trace := [] }

/-- The test in `GetWaitMsg`. -/
def Msg.matches (m : Msg) (mCmdID : Int) (unSeq : UInt32) : Bool :=
  mCmdID == m.nCmdID && unSeq == m.unSeq

/-- `NewWaitMsg`; the caller fills in the command and the number. -/
def State.newWaitMsg (s : State) (nCmdID : Int) (unSeq : UInt32) (now : Int) : State :=
  { s with
    m_vecMsgList := s.m_vecMsgList ++ [⟨s.next, nCmdID, unSeq, now⟩]
    next := s.next + 1
    trace := s.trace ++ [.take s.next] }

/-- The loop of `GetWaitMsg`: the message, what is left of the list and the accesses. -/
def getLoop (mCmdID : Int) (unSeq : UInt32) : List Msg → Option Msg × List Msg × Trace
  | [] => (none, [], [])
  | m :: l =>
    if m.matches mCmdID unSeq then (some m, l, [.use m.ptr, .give m.ptr])
    else
      let (found, rest, tr) := getLoop mCmdID unSeq l
      (found, m :: rest, .use m.ptr :: tr)

def State.getWaitMsg (s : State) (mCmdID : Int) (unSeq : UInt32) : State :=
  { s with
    m_vecMsgList := (getLoop mCmdID unSeq s.m_vecMsgList).2.1
    trace := s.trace ++ (getLoop mCmdID unSeq s.m_vecMsgList).2.2 }

def State.timeOutCheck (s : State) (now : Int) : Except Fault State :=
  if 100 < s.nTime then
    (sweepLoop now s.m_vecMsgList (.pos 0) []).map fun p =>
      { s with m_vecMsgList := p.1, nTime := 0, trace := s.trace ++ p.2 }
  else .ok { s with nTime := s.nTime + 1 }

inductive Op where
  | newWaitMsg (nCmdID : Int) (unSeq : UInt32) (now : Int)
  | getWaitMsg (mCmdID : Int) (unSeq : UInt32)
  | timeOutCheck (now : Int)

def step (s : State) : Op → Except Fault State
  | .newWaitMsg nCmdID unSeq now => .ok (s.newWaitMsg nCmdID unSeq now)
  | .getWaitMsg mCmdID unSeq => .ok (s.getWaitMsg mCmdID unSeq)
  | .timeOutCheck now => s.timeOutCheck now

def State.destroyed (s : State) : Trace := s.m_vecMsgList.map fun m => .give m.ptr

/-! ## The sweep -/

/-- The messages that a trace gives away, in order. -/
def given (tr : Trace) : List Nat :=
  tr.filterMap fun
    | .give p => some p
    | _ => none

/-- The sweep ends with the live messages, having freed the expired ones. -/
def SweepRight (timCurrentTime : Int) (l : List Msg) : Prop :=
  ∃ tr, sweepLoop timCurrentTime l (.pos 0) [] =
      .ok (l.filter fun m => ¬ Expired timCurrentTime m, tr) ∧
    given tr = (l.filter fun m => Expired timCurrentTime m).map Msg.ptr

section sweep

variable {now : Int} {l : List Msg}

theorem sweepLoop_of_live {k : Nat} {tr : Trace} (h : ∀ m ∈ l.drop k, ¬ Expired now m) :
    sweepLoop now l (.pos k) tr = .ok (l, tr ++ (l.drop k).map fun m => .use m.ptr) := by
  induction hn : l.length - k generalizing k tr with
  | zero =>
    have hk : ¬ k < l.length := by omega
    rw [sweepLoop, dif_neg hk, List.drop_of_length_le (by omega)]
    simp
  | succ n ih =>
    have hk : k < l.length := by omega
    rw [List.drop_eq_getElem_cons hk, List.forall_mem_cons] at h
    rw [sweepLoop, dif_pos hk, if_neg h.1, ih h.2 (by omega), List.drop_eq_getElem_cons hk,
      List.map_cons, List.append_assoc, List.singleton_append]

theorem sweepLoop_of_expired {k : Nat} {tr : Trace} (h : ∃ m ∈ l.drop k, Expired now m) :
    sweepLoop now l (.pos k) tr = .error .erasedPosition := by
  induction hn : l.length - k generalizing k tr with
  | zero =>
    obtain ⟨m, hm, -⟩ := h
    rw [List.drop_of_length_le (by omega)] at hm
    cases hm
  | succ n ih =>
    have hk : k < l.length := by omega
    rw [sweepLoop, dif_pos hk]
    by_cases hexp : Expired now l[k]
    · rw [if_pos hexp, sweepLoop]
    · rw [if_neg hexp]
      apply ih
      · obtain ⟨m, hm, hexp'⟩ := h
        rw [List.drop_eq_getElem_cons hk] at hm
        rcases List.mem_cons.mp hm with rfl | hm
        · exact absurd hexp' hexp
        · exact ⟨m, hm, hexp'⟩
      · omega

theorem sweep_of_live (h : ∀ m ∈ l, ¬ Expired now m) :
    sweepLoop now l (.pos 0) [] = .ok (l, l.map fun m => .use m.ptr) := by
  rw [sweepLoop_of_live (by simpa using h)]
  simp

theorem sweep_of_expired (h : ¬ ∀ m ∈ l, ¬ Expired now m) :
    sweepLoop now l (.pos 0) [] = .error .erasedPosition := by
  apply sweepLoop_of_expired
  simpa using h

/-- **A sweep does what it should exactly when no message is expired.** -/
theorem sweepRight_iff : SweepRight now l ↔ ∀ m ∈ l, ¬ Expired now m := by
  constructor
  · rintro ⟨tr, hsweep, -⟩
    by_contra h
    rw [sweep_of_expired h] at hsweep
    cases hsweep
  · intro h
    have hkept : l.filter (fun m => ¬ Expired now m) = l := by
      rw [List.filter_eq_self]
      simpa using h
    have hfreed : l.filter (fun m => Expired now m) = [] := by
      rw [List.filter_eq_nil_iff]
      simpa using h
    refine ⟨_, by rw [sweep_of_live h, hkept], ?_⟩
    rw [hfreed, given, List.filterMap_map]
    simp

end sweep

/-! ## What the calls keep -/

/-- A message in the list is alive, one that has left it is gone, and none was made that `new` will
give. -/
structure Inv (s : State) : Prop where
  nodup : (s.m_vecMsgList.map Msg.ptr).Nodup
  live : ∀ p ∈ s.m_vecMsgList.map Msg.ptr, life p .absent s.trace = .live
  gone : ∀ p < s.next, p ∉ s.m_vecMsgList.map Msg.ptr → life p .absent s.trace = .gone
  fresh : ∀ e ∈ s.trace, e.on < s.next

theorem inv_init : Inv State.init where
  nodup := List.nodup_nil
  live p hp := by cases hp
  gone p hp := absurd hp (Nat.not_lt_zero p)
  fresh e he := by cases he

theorem Inv.lt {s : State} (h : Inv s) {p : Nat} (hp : p ∈ s.m_vecMsgList.map Msg.ptr) :
    p < s.next := by
  by_contra hlt
  have habsent : life p .absent s.trace = .absent :=
    life_eq_self (fun e he hon => by have := h.fresh e he; omega) _
  rw [h.live p hp] at habsent
  cases habsent

theorem life_uses {p : Nat} {life₀ : Life} (l : List Msg) (h : p ∈ l.map Msg.ptr → life₀ = .live) :
    life p life₀ (l.map fun m => .use m.ptr) = life₀ := by
  by_cases hp : p ∈ l.map Msg.ptr
  · rw [h hp]
    clear h hp
    induction l with
    | nil => rfl
    | cons m l ih =>
      rw [List.map_cons, life_cons, Life.step]
      split <;> exact ih
  · apply life_eq_self
    intro e he hon
    obtain ⟨m, hm, rfl⟩ := List.mem_map.mp he
    exact hp (List.mem_map.mpr ⟨m, hm, hon⟩)

theorem inv_uses {s : State} (h : Inv s) (nTime : Int) :
    Inv { s with nTime := nTime, trace := s.trace ++ s.m_vecMsgList.map fun m => .use m.ptr } := by
  have hlife : ∀ p, life p .absent (s.trace ++ s.m_vecMsgList.map fun m => .use m.ptr) =
      life p .absent s.trace := by
    intro p
    rw [life_append]
    exact life_uses _ (h.live p)
  constructor
  case nodup => exact h.nodup
  case live => exact fun p hp => (hlife p).trans (h.live p hp)
  case gone => exact fun p hlt hp => (hlife p).trans (h.gone p hlt hp)
  case fresh =>
    intro e he
    rcases List.mem_append.mp he with he | he
    · exact h.fresh e he
    · obtain ⟨m, hm, rfl⟩ := List.mem_map.mp he
      exact h.lt (List.mem_map_of_mem hm)

theorem inv_newWaitMsg {s : State} (h : Inv s) (nCmdID : Int) (unSeq : UInt32) (now : Int) :
    Inv (s.newWaitMsg nCmdID unSeq now) := by
  have hmem : ∀ p, p ∈ (s.newWaitMsg nCmdID unSeq now).m_vecMsgList.map Msg.ptr ↔
      p ∈ s.m_vecMsgList.map Msg.ptr ∨ p = s.next := by
    intro p
    simp [State.newWaitMsg]
  have hother : ∀ p, p ≠ s.next →
      life p .absent (s.trace ++ [.take s.next]) = life p .absent s.trace := by
    intro p hp
    rw [life_append]
    exact life_eq_self (by simp [Event.on, hp.symm]) _
  constructor
  case nodup =>
    have hnew : s.next ∉ s.m_vecMsgList.map Msg.ptr := fun hp => Nat.lt_irrefl _ (h.lt hp)
    simp only [State.newWaitMsg, List.map_append, List.map_cons, List.map_nil]
    rw [← List.concat_eq_append, List.nodup_concat]
    exact ⟨hnew, h.nodup⟩
  case live =>
    intro p hp
    rcases (hmem p).mp hp with hp | rfl
    · have hlt := h.lt hp
      exact (hother p (by omega)).trans (h.live p hp)
    · have habsent : life s.next .absent s.trace = .absent :=
        life_eq_self (fun e he hon => by have := h.fresh e he; omega) _
      show life s.next .absent (s.trace ++ [.take s.next]) = .live
      rw [life_append, habsent]
      simp [life_cons, Life.step, Event.on, Life.next]
  case gone =>
    intro p hlt hp
    rw [hmem, not_or] at hp
    have hlt' : p < s.next + 1 := hlt
    exact (hother p hp.2).trans (h.gone p (by omega) hp.1)
  case fresh =>
    intro e he
    rcases List.mem_append.mp he with he | he
    · exact Nat.lt_succ_of_lt (h.fresh e he)
    · rw [List.mem_singleton.mp he]
      exact Nat.lt_succ_self _

theorem getLoop_cases (mCmdID : Int) (unSeq : UInt32) (l : List Msg) :
    (∃ before m after, l = before ++ m :: after ∧
      getLoop mCmdID unSeq l =
        (some m, before ++ after, (before ++ [m]).map (fun m => .use m.ptr) ++ [.give m.ptr])) ∨
      getLoop mCmdID unSeq l = (none, l, l.map fun m => .use m.ptr) := by
  induction l with
  | nil => exact Or.inr rfl
  | cons m l ih =>
    cases hm : m.matches mCmdID unSeq with
    | true => exact Or.inl ⟨[], m, l, rfl, by simp [getLoop, hm]⟩
    | false =>
      rcases ih with ⟨before, m', after, rfl, hget⟩ | hget
      · exact Or.inl ⟨m :: before, m', after, rfl, by simp [getLoop, hm, hget]⟩
      · exact Or.inr (by simp [getLoop, hm, hget])

theorem inv_taken {s : State} (h : Inv s) {before after : List Msg} {m : Msg}
    (hl : s.m_vecMsgList = before ++ m :: after) :
    Inv { s with
      m_vecMsgList := before ++ after
      trace := s.trace ++ ((before ++ [m]).map (fun m => .use m.ptr) ++ [.give m.ptr]) } := by
  have hnodup := h.nodup
  rw [hl, List.map_append, List.map_cons] at hnodup
  have hperm : ∀ p, p ∈ s.m_vecMsgList.map Msg.ptr ↔
      p = m.ptr ∨ p ∈ (before ++ after).map Msg.ptr := by
    intro p
    rw [hl, List.map_append, List.map_append, List.map_cons, List.mem_append, List.mem_cons,
      List.mem_append, or_left_comm]
  have hm : m.ptr ∉ (before ++ after).map Msg.ptr := by
    rw [List.map_append]
    exact (List.nodup_middle.mp hnodup).notMem
  have hlife : ∀ p, life p .absent
      (s.trace ++ ((before ++ [m]).map (fun m => .use m.ptr) ++ [.give m.ptr])) =
        life p (life p .absent s.trace) [.give m.ptr] := by
    intro p
    rw [life_append, life_append, life_uses (before ++ [m])]
    intro hp
    apply h.live
    rw [hl]
    simp only [List.map_append, List.map_cons, List.map_nil, List.mem_append,
      List.mem_cons, List.not_mem_nil, or_false] at hp ⊢
    exact hp.imp_right Or.inl
  constructor
  case nodup =>
    show ((before ++ after).map Msg.ptr).Nodup
    rw [List.map_append]
    exact (List.nodup_middle.mp hnodup).of_cons
  case live =>
    intro p hp
    have hne : p ≠ m.ptr := fun heq => hm (heq ▸ hp)
    rw [hlife, h.live p ((hperm p).mpr (Or.inr hp))]
    exact life_eq_self (by simp [Event.on, hne.symm]) _
  case gone =>
    intro p hlt hp
    rw [hlife]
    by_cases hpm : p = m.ptr
    · subst hpm
      rw [h.live _ ((hperm _).mpr (Or.inl rfl))]
      exact life_live_give _ []
    · rw [h.gone p hlt fun hmem => ((hperm p).mp hmem).elim hpm hp]
      exact life_eq_self (by simp [Event.on, Ne.symm hpm]) _
  case fresh =>
    intro e he
    rcases List.mem_append.mp he with he | he
    · exact h.fresh e he
    · apply h.lt
      rw [hperm]
      rcases List.mem_append.mp he with he | he
      · obtain ⟨m', hm', rfl⟩ := List.mem_map.mp he
        rcases List.mem_append.mp hm' with hm' | hm'
        · exact Or.inr (List.mem_map_of_mem (List.mem_append_left _ hm'))
        · rw [List.mem_singleton.mp hm']
          exact Or.inl rfl
      · rw [List.mem_singleton.mp he]
        exact Or.inl rfl

theorem inv_getWaitMsg {s : State} (h : Inv s) (mCmdID : Int) (unSeq : UInt32) :
    Inv (s.getWaitMsg mCmdID unSeq) := by
  unfold State.getWaitMsg
  rcases getLoop_cases mCmdID unSeq s.m_vecMsgList with ⟨before, m, after, hl, hget⟩ | hget
  · rw [hget]
    exact inv_taken h hl
  · rw [hget]
    exact inv_uses h s.nTime

/-! ## Runs -/

/-- No message is expired when the list is swept. -/
def SweepFits (s : State) : Op → Prop
  | .timeOutCheck now => 100 < s.nTime → ∀ m ∈ s.m_vecMsgList, ¬ Expired now m
  | _ => True

theorem succeeds_step_iff (s : State) (op : Op) : Succeeds (step s op) ↔ SweepFits s op := by
  cases op with
  | newWaitMsg nCmdID unSeq now => exact iff_of_true (succeeds_ok _) trivial
  | getWaitMsg mCmdID unSeq => exact iff_of_true (succeeds_ok _) trivial
  | timeOutCheck now =>
    rw [step, State.timeOutCheck, SweepFits]
    by_cases hsweep : 100 < s.nTime
    · rw [if_pos hsweep]
      by_cases hlive : ∀ m ∈ s.m_vecMsgList, ¬ Expired now m
      · rw [sweep_of_live hlive]
        exact iff_of_true (succeeds_ok _) fun _ => hlive
      · rw [sweep_of_expired hlive]
        exact iff_of_false error_not_ok fun h => hlive (h hsweep)
    · rw [if_neg hsweep]
      exact iff_of_true (succeeds_ok _) fun h => absurd h hsweep

theorem inv_step {s s' : State} (h : Inv s) (op : Op) (hstep : step s op = .ok s') : Inv s' := by
  cases op with
  | newWaitMsg nCmdID unSeq now =>
    cases hstep
    exact inv_newWaitMsg h nCmdID unSeq now
  | getWaitMsg mCmdID unSeq =>
    cases hstep
    exact inv_getWaitMsg h mCmdID unSeq
  | timeOutCheck now =>
    have hfits := (succeeds_step_iff s (.timeOutCheck now)).mp ⟨s', hstep⟩
    rw [step, State.timeOutCheck] at hstep
    by_cases hsweep : 100 < s.nTime
    · rw [if_pos hsweep, sweep_of_live (hfits hsweep)] at hstep
      cases hstep
      exact inv_uses h 0
    · rw [if_neg hsweep] at hstep
      cases hstep
      exact ⟨h.nodup, h.live, h.gone, h.fresh⟩

/-- The calls succeed, and with what the destructor frees every message is returned or freed
once. -/
def OwnedOnce (ops : List Op) : Prop :=
  ∃ s, tryRun step State.init ops = .ok s ∧ Balanced (s.trace ++ s.destroyed)

theorem Inv.balanced {s : State} (h : Inv s) : Balanced (s.trace ++ s.destroyed) := by
  intro p hp
  have hlt : p < s.next := by
    rcases List.mem_append.mp hp with hp | hp
    · exact h.fresh _ hp
    · obtain ⟨m, -, hm⟩ := List.mem_map.mp hp
      cases hm
  rw [life_append, State.destroyed]
  by_cases hmem : p ∈ s.m_vecMsgList.map Msg.ptr
  · rw [h.live p hmem, life_live_iff]
    obtain ⟨m, hm, rfl⟩ := List.mem_map.mp hmem
    obtain ⟨before, after, hl⟩ := List.append_of_mem hm
    have hnodup := h.nodup
    rw [hl, List.map_append, List.map_cons] at hnodup
    have hm' := (List.nodup_middle.mp hnodup).notMem
    refine ⟨before.map fun m => .give m.ptr, after.map fun m => .give m.ptr, by simp [hl], ?_, ?_⟩
    · intro e he hon
      obtain ⟨m', hm'', rfl⟩ := List.mem_map.mp he
      exact absurd (List.mem_append_left _ (List.mem_map.mpr ⟨m', hm'', hon⟩)) hm'
    · intro e he hon
      obtain ⟨m', hm'', rfl⟩ := List.mem_map.mp he
      exact absurd (List.mem_append_right _ (List.mem_map.mpr ⟨m', hm'', hon⟩)) hm'
  · rw [h.gone p hlt hmem]
    apply life_eq_self
    intro e he hon
    obtain ⟨m, hm, rfl⟩ := List.mem_map.mp he
    exact hmem (List.mem_map.mpr ⟨m, hm, hon⟩)

theorem ownedOnce_iff (ops : List Op) :
    OwnedOnce ops ↔ ∀ c ∈ tryCalls step State.init ops, SweepFits c.1 c.2 := by
  have hsucceeds : Succeeds (tryRun step State.init ops) ↔
      ∀ c ∈ tryCalls step State.init ops, SweepFits c.1 c.2 := by
    rw [succeeds_tryRun_iff]
    exact forall₂_congr fun c _ => succeeds_step_iff c.1 c.2
  rw [← hsucceeds]
  constructor
  · rintro ⟨s, hrun, -⟩
    exact ⟨s, hrun⟩
  · intro hrun
    obtain ⟨s, hs, hinv⟩ := tryRun_of_rel (fun s _ => Inv s)
      (fun s op _ hinv hfits => by
        obtain ⟨s', hstep⟩ := (succeeds_step_iff s op).mpr hfits
        exact ⟨s', hstep, inv_step hinv op hstep⟩)
      inv_init (hsucceeds.mp hrun)
    exact ⟨s, hs, hinv.balanced⟩

/-- **Sweeps and runs do what they should exactly where no swept message is expired.** -/
theorem waitList_iff (l : List Msg) (now : Int) (ops : List Op) :
    (SweepRight now l ↔ ∀ m ∈ l, ¬ Expired now m) ∧
      (OwnedOnce ops ↔ ∀ c ∈ tryCalls step State.init ops, SweepFits c.1 c.2) :=
  ⟨sweepRight_iff, ownedOnce_iff ops⟩

/-- A message of second 0 is swept in second 6. -/
theorem expired_message_breaks_sweep :
    sweepLoop 6 [⟨0, 1, 1, 0⟩] (.pos 0) [] = .error .erasedPosition ∧
      ¬ SweepRight 6 [⟨0, 1, 1, 0⟩] := by
  refine ⟨sweep_of_expired (by decide), fun h => ?_⟩
  exact absurd (sweepRight_iff.mp h) (by decide)

end GB28181.Lib.WaitList
