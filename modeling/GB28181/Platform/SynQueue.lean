import GB28181.Base.Run

/-!
# The queue of the database task (`DataManager/DB/utility.h`)

Any number of producers `push` requests and one consumer, the loop of `_SQLTaskProc`, calls `Pop`.
`Pop` enters the mutex, calls `cv.wait(pLock)` without a predicate and takes the front of the list
when it has the mutex again.  A schedule is any order of these steps, with spurious wake-ups; a
producer that finds the mutex taken does nothing in its step.

* `run_fifo` — the requests taken are a prefix of those pushed, in **every** schedule;
* `sound_throughout_iff` — no request is left behind a sleeping consumer and `front()` never meets
  an empty list **exactly** in the schedules whose every `wait` comes to an empty list and whose
  every wake-up comes to a non-empty one.
-/

set_option autoImplicit false

namespace GB28181.Platform.SynQueue

open GB28181.Base

variable {TVal : Type}

/-- Where the consumer stands in its loop over `Pop`. -/
inductive Consumer where
  | outside
  | locked
  | waiting
  /-- Woken, on its way back into the mutex. -/
  | notified
deriving DecidableEq

/-- `CSynQueueT` and its consumer, with the requests pushed and taken so far. -/
structure CSynQueueT (TVal : Type) where
  m_pQueue : List TVal := []
  consumer : Consumer := .outside
  pushed : List TVal := []
  taken : List TVal := []
  /-- `front()` was called on an empty list. -/
  frontOfEmpty : Bool := false

/-- `cv.notify_one()`: nobody hears it but a consumer that waits. -/
def notifyOne : Consumer → Consumer
  | .waiting => .notified
  | c => c

def push (q : CSynQueueT TVal) (pVal : TVal) : CSynQueueT TVal :=
  if q.consumer = .locked then q
  else
    { q with
      m_pQueue := q.m_pQueue ++ [pVal], pushed := q.pushed ++ [pVal]
      consumer := notifyOne q.consumer }

/-- `Pop`, first step: `_MutexScopeLocker pLock(*this)`. -/
def popLock (q : CSynQueueT TVal) : CSynQueueT TVal :=
  if q.consumer = .outside then { q with consumer := .locked } else q

/-- `Pop`, second step: `cv.wait(pLock)` leaves the mutex and sleeps. -/
def popWait (q : CSynQueueT TVal) : CSynQueueT TVal :=
  if q.consumer = .locked then { q with consumer := .waiting } else q

def spuriousWakeUp (q : CSynQueueT TVal) : CSynQueueT TVal :=
  { q with consumer := notifyOne q.consumer }

/-- `Pop`, last step: `m_pQueue.front()` and `pop_front()`. -/
def popTake (q : CSynQueueT TVal) : CSynQueueT TVal :=
  if q.consumer = .notified then
    match q.m_pQueue with
    | [] => { q with consumer := .outside, frontOfEmpty := true }
    | tval :: rest =>
      { q with consumer := .outside, m_pQueue := rest, taken := q.taken ++ [tval] }
  else q

inductive Step (TVal : Type) where
  | push (pVal : TVal)
  | lock
  | wait
  | spurious
  | take

/-- A step of a schedule; one that its thread cannot make now does nothing. -/
def step (q : CSynQueueT TVal) : Step TVal → CSynQueueT TVal
  | .push pVal => push q pVal
  | .lock => popLock q
  | .wait => popWait q
  | .spurious => spuriousWakeUp q
  | .take => popTake q

/-! ## Order -/

/-- What was taken and what is still there are what was pushed, in order. -/
def Fifo (q : CSynQueueT TVal) : Prop := q.taken ++ q.m_pQueue = q.pushed

theorem push_fifo {q : CSynQueueT TVal} (h : Fifo q) (pVal : TVal) : Fifo (push q pVal) := by
  unfold push
  split
  · exact h
  · unfold Fifo at h ⊢
    rw [← h, List.append_assoc]

theorem popTake_fifo {q : CSynQueueT TVal} (h : Fifo q) : Fifo (popTake q) := by
  unfold popTake
  split
  · unfold Fifo at h ⊢
    split
    · exact h
    · rename_i tval rest hq
      rw [← h, hq, List.append_assoc]
      rfl
  · exact h

theorem step_fifo (q : CSynQueueT TVal) (i : Step TVal) (h : Fifo q) : Fifo (step q i) := by
  cases i with
  | push pVal => exact push_fifo h pVal
  | lock =>
    show Fifo (popLock q)
    unfold popLock
    split <;> exact h
  | wait =>
    show Fifo (popWait q)
    unfold popWait
    split <;> exact h
  | spurious => exact h
  | take => exact popTake_fifo h

/-- **Requests keep their order** and are taken once, whatever the schedule. -/
theorem run_fifo (is : List (Step TVal)) : Fifo (run step {} is) :=
  run_induct step_fifo (s := {}) rfl is

/-! ## Wake-ups -/

/-- The consumer does not sleep in front of a request, requests are taken in the order pushed, and
`front()` has been applied to no empty list. -/
structure Sound (q : CSynQueueT TVal) : Prop where
  awake : q.m_pQueue ≠ [] → q.consumer ≠ .waiting
  fifo : Fifo q
  front : q.frontOfEmpty = false

/-- `Pop` comes to its wait when nothing is there, and from its wait when something is. -/
def WaitsForPush (q : CSynQueueT TVal) : Step TVal → Prop
  | .wait => q.consumer = .locked → q.m_pQueue = []
  | .take => q.consumer = .notified → q.m_pQueue ≠ []
  | _ => True

theorem notifyOne_ne_waiting (c : Consumer) : notifyOne c ≠ .waiting := by
  cases c <;> decide

theorem push_sound {q : CSynQueueT TVal} (h : Sound q) (pVal : TVal) : Sound (push q pVal) := by
  refine ⟨?_, push_fifo h.fifo pVal, ?_⟩
  · unfold push
    split
    · exact h.awake
    · exact fun _ => notifyOne_ne_waiting q.consumer
  · unfold push
    split <;> exact h.front

theorem popLock_sound {q : CSynQueueT TVal} (h : Sound q) : Sound (popLock q) := by
  unfold popLock
  split
  · exact ⟨fun _ hw => (by cases hw), h.fifo, h.front⟩
  · exact h

/-- `wait` keeps the queue sound exactly when it comes to an empty list. -/
theorem popWait_sound_iff {q : CSynQueueT TVal} (h : Sound q) :
    Sound (popWait q) ↔ (q.consumer = .locked → q.m_pQueue = []) := by
  unfold popWait
  split
  · rename_i hl
    constructor
    · intro hs _
      by_contra hne
      exact hs.awake hne rfl
    · intro hempty
      exact ⟨fun hne => absurd (hempty hl) hne, h.fifo, h.front⟩
  · rename_i hl
    exact ⟨fun _ hl' => absurd hl' hl, fun _ => h⟩

theorem popTake_sound_iff {q : CSynQueueT TVal} (h : Sound q) :
    Sound (popTake q) ↔ (q.consumer = .notified → q.m_pQueue ≠ []) := by
  have hfifo := popTake_fifo h.fifo
  unfold popTake at hfifo ⊢
  by_cases hn : q.consumer = .notified
  · rw [if_pos hn] at hfifo ⊢
    cases hq : q.m_pQueue with
    | nil =>
      constructor
      · intro hs
        exact absurd hs.front Bool.noConfusion
      · intro hne
        exact absurd rfl (hne hn)
    | cons tval rest =>
      rw [hq] at hfifo
      constructor
      · intro _ _ hnil
        cases hnil
      · intro _
        exact ⟨fun _ hw => (by cases hw), hfifo, h.front⟩
  · rw [if_neg hn]
    exact ⟨fun _ hn' => absurd hn' hn, fun _ => h⟩

theorem step_sound_iff {q : CSynQueueT TVal} (h : Sound q) (i : Step TVal) :
    Sound (step q i) ↔ WaitsForPush q i := by
  cases i with
  | push pVal => exact iff_of_true (push_sound h pVal) trivial
  | lock => exact iff_of_true (popLock_sound h) trivial
  | wait => exact popWait_sound_iff h
  | spurious =>
    exact iff_of_true ⟨fun _ => notifyOne_ne_waiting q.consumer, h.fifo, h.front⟩ trivial
  | take => exact popTake_sound_iff h

/-- **No wake-up is lost** throughout a schedule exactly when every `wait` of the schedule comes
to an empty list and every wake-up to a non-empty one. -/
theorem sound_throughout_iff (is : List (Step TVal)) :
    (∀ p ∈ calls step ({} : CSynQueueT TVal) is, Sound (step p.1 p.2)) ↔
      ∀ p ∈ calls step ({} : CSynQueueT TVal) is, WaitsForPush p.1 p.2 := by
  have hstart : Sound ({} : CSynQueueT TVal) := ⟨fun h => absurd rfl h, rfl, rfl⟩
  have hexact : ∀ (q : CSynQueueT TVal) (i : Step TVal), Sound q →
      ((Sound (step q i) ∧ True) ↔ WaitsForPush q i) := by
    intro q i h
    rw [and_true]
    exact step_sound_iff h i
  have hruns := @forall_calls_iff _ _ _ WaitsForPush (fun _ _ => True) _ hexact _ is hstart
  simpa only [and_true] using hruns

/-- A request pushed before the consumer waits: it sleeps in front of it. -/
theorem pushed_before_wait_lost :
    ¬ ∀ is : List (Step ℕ), ∀ p ∈ calls step ({} : CSynQueueT ℕ) is, Sound (step p.1 p.2) := by
  intro h
  let q : CSynQueueT ℕ := popLock (push {} 1)
  have hmem : (q, Step.wait) ∈ calls step ({} : CSynQueueT ℕ) [.push 1, .lock, .wait] :=
    mem_calls_iff.mpr ⟨[.push 1, .lock], [], rfl, rfl⟩
  have hsound := h _ _ hmem
  exact hsound.awake (by decide) rfl

end GB28181.Platform.SynQueue
