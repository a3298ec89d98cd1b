import Mathlib.Data.List.Nodup
import GB28181.Base.Run

/-!
# Handing messages over through a queue

A producer builds message objects, mounts buffers in them and pushes their addresses to a queue.
A consumer takes an address, reads the message, sends the buffer mounted in it and frees the
message.  The two run in any order; nothing but the queue is between them.

* `exec`, `produce`, `consume` — the actions of a program and the steps of the two parties;
* `Disciplined` — after a push the program leaves the message and its buffer alone;
* `handoverInv_run` — **a disciplined program** keeps, under every interleaving, what it pushed
  apart from what it still does, and each message is freed once;
* `survives_iff_of_disciplined` — its answer survives exactly when its own deliveries are right;
* `not_survives_of_touch` — a program that touches a message after a push has a run in which the
  consumer has freed it before.
-/

set_option autoImplicit false

namespace GB28181.Base

variable {β ι : Type}

/-! ## Programs -/

/-- A message object: its label, the buffer mounted in it, and whether the consumer sends for the
operation set in it. -/
structure Message (ι : Type) where
  label : ι
  data : Option Nat
  ready : Bool

/-- Message objects and buffers, each kind by number. -/
structure Heap (β ι : Type) where
  msg : Nat → Message ι
  buf : Nat → Option β

/-- What a new message object holds and what a copy of one does. -/
structure Allocator (ι : Type) where
  newMessage : Message ι
  cloneMessage : Message ι → Message ι

inductive Action (β ι : Type)
  | allocMessage (m : Nat)
  | cloneMessage (m src : Nat)
  | allocBuffer (b : Nat)
  | read (m : Nat)
  | mount (m b : Nat)
  | fill (b : Nat) (body : β)
  | setLabel (m : Nat) (label : ι)
  | setReady (m : Nat)
  | push (m : Nat)

namespace Action

/-- The messages an action reads or changes; a push passes on an address only. -/
def touches : Action β ι → List Nat
  | .allocMessage m => [m]
  | .cloneMessage m src => [m, src]
  | .read m => [m]
  | .mount m _ => [m]
  | .setLabel m _ => [m]
  | .setReady m => [m]
  | .allocBuffer _ => []
  | .fill _ _ => []
  | .push _ => []

def writes : Action β ι → List Nat
  | .allocBuffer b => [b]
  | .fill b _ => [b]
  | _ => []

def pushed : Action β ι → List Nat
  | .push m => [m]
  | _ => []

/-- The action leaves a message alone, and the buffer mounted in it. -/
structure Avoids (a : Action β ι) (m : Nat) (data : Option Nat) : Prop where
  touches : m ∉ a.touches
  pushed : m ∉ a.pushed
  writes : ∀ b, data = some b → b ∉ a.writes

end Action

namespace Heap

def setMsg (h : Heap β ι) (m : Nat) (x : Message ι) : Heap β ι :=
  { h with msg := fun k => if k = m then x else h.msg k }

def setBuf (h : Heap β ι) (b : Nat) (content : Option β) : Heap β ι :=
  { h with buf := fun k => if k = b then content else h.buf k }

/-- What the consumer sends for a message. -/
def delivered (h : Heap β ι) (m : Nat) : List (Option β × ι) :=
  if (h.msg m).ready then [((h.msg m).data.bind h.buf, (h.msg m).label)] else []

end Heap

variable (A : Allocator ι)

def exec (h : Heap β ι) : Action β ι → Heap β ι
  | .allocMessage m => h.setMsg m A.newMessage
  | .cloneMessage m src => h.setMsg m (A.cloneMessage (h.msg src))
  | .allocBuffer b => h.setBuf b none
  | .read _ => h
  | .mount m b => h.setMsg m { h.msg m with data := some b }
  | .fill b body => h.setBuf b (some body)
  | .setLabel m label => h.setMsg m { h.msg m with label := label }
  | .setReady m => h.setMsg m { h.msg m with ready := true }
  | .push _ => h

/-- What a program delivers when every message is consumed as it is pushed. -/
def deliveries : List (Action β ι) → Heap β ι → List (Option β × ι)
  | [], _ => []
  | a :: prog, h => a.pushed.flatMap h.delivered ++ deliveries prog (exec A h a)

/-- After a push the rest of the program leaves the message and its buffer alone. -/
def Disciplined : List (Action β ι) → Heap β ι → Prop
  | [], _ => True
  | a :: prog, h =>
    (∀ m ∈ a.pushed, ∀ a' ∈ prog, a'.Avoids m (h.msg m).data) ∧ Disciplined prog (exec A h a)

theorem exec_msg (h : Heap β ι) {a : Action β ι} {m : Nat} (ha : m ∉ a.touches) :
    (exec A h a).msg m = h.msg m := by
  cases a with
  | allocMessage k => exact if_neg fun hm => ha (by rw [hm]; exact List.mem_cons_self)
  | cloneMessage k src => exact if_neg fun hm => ha (by rw [hm]; exact List.mem_cons_self)
  | mount k b => exact if_neg fun hm => ha (by rw [hm]; exact List.mem_cons_self)
  | setLabel k label => exact if_neg fun hm => ha (by rw [hm]; exact List.mem_cons_self)
  | setReady k => exact if_neg fun hm => ha (by rw [hm]; exact List.mem_cons_self)
  | allocBuffer b => rfl
  | read k => rfl
  | fill b body => rfl
  | push k => rfl

theorem exec_buf (h : Heap β ι) {a : Action β ι} {b : Nat} (ha : b ∉ a.writes) :
    (exec A h a).buf b = h.buf b := by
  cases a with
  | allocBuffer k => exact if_neg fun hb => ha (by rw [hb]; exact List.mem_cons_self)
  | fill k body => exact if_neg fun hb => ha (by rw [hb]; exact List.mem_cons_self)
  | allocMessage k => rfl
  | cloneMessage k src => rfl
  | read k => rfl
  | mount k b => rfl
  | setLabel k label => rfl
  | setReady k => rfl
  | push k => rfl

theorem exec_of_pushed (h : Heap β ι) {a : Action β ι} {m : Nat} (hm : m ∈ a.pushed) :
    exec A h a = h := by
  cases a with
  | push k => rfl
  | _ => cases hm

/-- An action that avoids a message does not change the content of its buffer. -/
theorem content_exec {h : Heap β ι} {a : Action β ι} {m : Nat} {data : Option Nat}
    (ha : a.Avoids m data) : data.bind (exec A h a).buf = data.bind h.buf := by
  cases data with
  | none => rfl
  | some b => exact exec_buf A h (ha.writes b rfl)

theorem delivered_exec {h : Heap β ι} {a : Action β ι} {m : Nat}
    (ha : a.Avoids m (h.msg m).data) : (exec A h a).delivered m = h.delivered m := by
  unfold Heap.delivered
  rw [exec_msg A h ha.touches, content_exec A ha]

theorem disciplined_append {part prog : List (Action β ι)} (h : Heap β ι)
    (hpart : ∀ a ∈ part, a.pushed = []) :
    Disciplined A (part ++ prog) h ↔ Disciplined A prog (run (exec A) h part) := by
  induction part generalizing h with
  | nil => exact Iff.rfl
  | cons a part ih =>
    rw [List.forall_mem_cons] at hpart
    rw [List.cons_append, Disciplined, run_cons, ih _ hpart.2, hpart.1]
    exact and_iff_right fun _ hm => nomatch hm

theorem deliveries_append {part prog : List (Action β ι)} (h : Heap β ι)
    (hpart : ∀ a ∈ part, a.pushed = []) :
    deliveries A (part ++ prog) h = deliveries A prog (run (exec A) h part) := by
  induction part generalizing h with
  | nil => rfl
  | cons a part ih =>
    rw [List.forall_mem_cons] at hpart
    rw [List.cons_append, deliveries, run_cons, ih _ hpart.2, hpart.1, List.flatMap_nil,
      List.nil_append]

/-! ## The two parties -/

/-- Where the consumer stands: waiting, with an address, with what it has read of the message, or
about to free it. -/
inductive Hand (ι : Type)
  | idle
  | took (m : Nat)
  | holds (m : Nat) (data : Option Nat) (label : ι)
  | done (m : Nat)

/-- The message the consumer has taken. -/
def Hand.held : Hand ι → List Nat
  | .idle => []
  | .took m => [m]
  | .holds m _ _ => [m]
  | .done m => [m]

/-- The producer's program, the heap, the queue, the consumer, what was sent, the messages freed,
and whether the producer touched one that was. -/
structure System (β ι : Type) where
  prog : List (Action β ι)
  heap : Heap β ι
  queue : List Nat
  hand : Hand ι
  sent : List (Option β × ι)
  freed : List Nat
  stale : Bool

inductive Party
  | producer | consumer
  deriving DecidableEq

def produce (s : System β ι) : System β ι :=
  match s.prog with
  | [] => s
  | a :: prog =>
    { s with
      prog := prog
      heap := exec A s.heap a
      queue := s.queue ++ a.pushed
      stale := s.stale || a.touches.any fun m => decide (m ∈ s.freed) }

def consume (s : System β ι) : System β ι :=
  match s.hand with
  | .idle =>
    match s.queue with
    | [] => s
    | m :: queue => { s with queue := queue, hand := .took m }
  | .took m =>
    if (s.heap.msg m).ready then
      { s with hand := .holds m (s.heap.msg m).data (s.heap.msg m).label }
    else { s with hand := .done m }
  | .holds m data label =>
    { s with hand := .done m, sent := s.sent ++ [(data.bind s.heap.buf, label)] }
  | .done m => { s with hand := .idle, freed := s.freed ++ [m] }

def partyStep (s : System β ι) : Party → System β ι
  | .producer => produce A s
  | .consumer => consume s

def System.start (prog : List (Action β ι)) (heap : Heap β ι) : System β ι :=
  ⟨prog, heap, [], .idle, [], [], false⟩

def System.Finished (s : System β ι) : Prop := s.prog = [] ∧ s.queue = [] ∧ s.hand = .idle

/-- Under every interleaving no message is freed twice, the producer touches none that is freed,
every message sent has the label, and in the end each page was sent once. -/
def Survives (prog : List (Action β ι)) (heap : Heap β ι) (pages : List β) (label : ι) : Prop :=
  ∀ schedule : List Party,
    let s := run (partyStep A) (System.start prog heap) schedule
    s.freed.Nodup ∧ s.stale = false ∧ (∀ x ∈ s.sent, x.2 = label) ∧
      (s.Finished → (s.sent.map Prod.fst).Perm (pages.map some))

/-! ## Disciplined programs -/

/-- The messages that were pushed so far: freed, with the consumer, in the queue. -/
def System.given (s : System β ι) : List Nat := s.freed ++ (s.hand.held ++ s.queue)

/-- What the consumer is still to send for the message it has taken. -/
def Hand.pending (h : Heap β ι) : Hand ι → List (Option β × ι)
  | .took m => h.delivered m
  | .holds _ data label => [(data.bind h.buf, label)]
  | .idle => []
  | .done _ => []

/-- The invariant of the two parties, for a program that delivers `total`. -/
structure HandoverInv (total : List (Option β × ι)) (s : System β ι) : Prop where
  disciplined : Disciplined A s.prog s.heap
  avoids : ∀ m ∈ s.given, ∀ a ∈ s.prog, a.Avoids m (s.heap.msg m).data
  nodup : s.given.Nodup
  read : ∀ m data label, s.hand = .holds m data label → data = (s.heap.msg m).data
  fresh : s.stale = false
  account : s.sent ++ (s.hand.pending s.heap ++ s.queue.flatMap s.heap.delivered) ++
    deliveries A s.prog s.heap = total

theorem handoverInv_start {prog : List (Action β ι)} {heap : Heap β ι}
    (h : Disciplined A prog heap) :
    HandoverInv A (deliveries A prog heap) (System.start prog heap) where
  disciplined := h
  avoids _ hm := nomatch hm
  nodup := List.nodup_nil
  read _ _ _ hm := nomatch hm
  fresh := rfl
  account := rfl

/-- An action that avoids the message in hand does not change what is pending for it. -/
theorem pending_exec {heap : Heap β ι} {a : Action β ι} {hand : Hand ι}
    (havoids : ∀ m ∈ hand.held, a.Avoids m (heap.msg m).data)
    (hread : ∀ m data label, hand = .holds m data label → data = (heap.msg m).data) :
    hand.pending (exec A heap a) = hand.pending heap := by
  cases hand with
  | idle => rfl
  | done m => rfl
  | took m => exact delivered_exec A (havoids m List.mem_cons_self)
  | holds m data label =>
    have hm := havoids m List.mem_cons_self
    rw [← hread m data label rfl] at hm
    rw [Hand.pending, Hand.pending, content_exec A hm]

theorem delivered_pushed (heap : Heap β ι) (a : Action β ι) :
    a.pushed.flatMap (exec A heap a).delivered = a.pushed.flatMap heap.delivered :=
  List.flatMap_congr fun _ hm => by rw [exec_of_pushed A heap hm]

theorem handoverInv_produce {total : List (Option β × ι)} {s : System β ι}
    (h : HandoverInv A total s) : HandoverInv A total (produce A s) := by
  unfold produce
  cases hprog : s.prog with
  | nil => exact h
  | cons a prog =>
    have hdisciplined := h.disciplined
    have havoids := h.avoids
    have haccount := h.account
    rw [hprog] at hdisciplined havoids haccount
    obtain ⟨hpush, hrest⟩ := hdisciplined
    have hfirst : ∀ m ∈ s.given, a.Avoids m (s.heap.msg m).data :=
      fun m hm => havoids m hm a List.mem_cons_self
    have hheld : ∀ m ∈ s.hand.held, m ∈ s.given :=
      fun m hm => List.mem_append_right _ (List.mem_append_left _ hm)
    have hqueue : ∀ m ∈ s.queue, m ∈ s.given :=
      fun m hm => List.mem_append_right _ (List.mem_append_right _ hm)
    have hgiven : s.freed ++ (s.hand.held ++ (s.queue ++ a.pushed)) = s.given ++ a.pushed := by
      simp only [System.given, List.append_assoc]
    constructor
    · exact hrest
    · intro m hm a' ha'
      have hm : m ∈ s.given ++ a.pushed := hgiven ▸ hm
      show a'.Avoids m ((exec A s.heap a).msg m).data
      rcases List.mem_append.mp hm with hm | hm
      · rw [exec_msg A s.heap (hfirst m hm).touches]
        exact havoids m hm a' (List.mem_cons_of_mem a ha')
      · rw [exec_of_pushed A s.heap hm]
        exact hpush m hm a' ha'
    · show (s.freed ++ (s.hand.held ++ (s.queue ++ a.pushed))).Nodup
      rw [hgiven]
      have hone : a.pushed.Nodup := by
        cases a with
        | push m => exact List.nodup_singleton m
        | _ => exact List.nodup_nil
      exact List.Nodup.append h.nodup hone fun m hm hm' => (hfirst m hm).pushed hm'
    · intro m data label hm
      have hmem : m ∈ s.hand.held := by
        rw [show s.hand = .holds m data label from hm]
        exact List.mem_cons_self
      show data = ((exec A s.heap a).msg m).data
      rw [exec_msg A s.heap (hfirst m (hheld m hmem)).touches]
      exact h.read m data label hm
    · have hany : (a.touches.any fun m => decide (m ∈ s.freed)) = false := by
        rw [List.any_eq_false]
        intro m hm hfreed
        exact (hfirst m (List.mem_append_left _ (of_decide_eq_true hfreed))).touches hm
      show (s.stale || a.touches.any fun m => decide (m ∈ s.freed)) = false
      rw [h.fresh, hany]
      rfl
    · have hpending := pending_exec A (fun m hm => hfirst m (hheld m hm)) h.read
      have hqueued : s.queue.flatMap (exec A s.heap a).delivered =
          s.queue.flatMap s.heap.delivered :=
        List.flatMap_congr fun m hm => delivered_exec A (hfirst m (hqueue m hm))
      show s.sent ++ (s.hand.pending (exec A s.heap a) ++
        (s.queue ++ a.pushed).flatMap (exec A s.heap a).delivered) ++
          deliveries A prog (exec A s.heap a) = total
      rw [← haccount, deliveries, hpending, List.flatMap_append, hqueued, delivered_pushed]
      simp only [List.append_assoc]

theorem handoverInv_consume {total : List (Option β × ι)} {s : System β ι}
    (h : HandoverInv A total s) : HandoverInv A total (consume s) := by
  have havoids := h.avoids
  have hnodup := h.nodup
  have haccount := h.account
  unfold System.given at havoids hnodup
  unfold consume
  cases hhand : s.hand with
  | idle =>
    rw [hhand] at havoids hnodup haccount
    cases hqueue : s.queue with
    | nil => exact h
    | cons m queue =>
      rw [hqueue] at havoids hnodup haccount
      exact ⟨h.disciplined, havoids, hnodup, nofun, h.fresh, haccount⟩
  | took m =>
    rw [hhand] at havoids hnodup haccount
    have hpending : Hand.pending s.heap (.took m) = s.heap.delivered m := rfl
    rw [hpending, Heap.delivered] at haccount
    dsimp only
    split
    · rename_i hready
      rw [if_pos hready] at haccount
      refine ⟨h.disciplined, havoids, hnodup, ?_, h.fresh, haccount⟩
      intro m' data label he
      cases he
      rfl
    · rename_i hready
      rw [if_neg hready] at haccount
      exact ⟨h.disciplined, havoids, hnodup, nofun, h.fresh, haccount⟩
  | holds m data label =>
    rw [hhand] at havoids hnodup haccount
    refine ⟨h.disciplined, havoids, hnodup, nofun, h.fresh, ?_⟩
    rw [← haccount]
    simp only [Hand.pending, List.append_assoc, List.nil_append]
  | done m =>
    rw [hhand] at havoids hnodup haccount
    have hmove : s.freed ++ [m] ++ s.queue = s.freed ++ ([m] ++ s.queue) := List.append_assoc ..
    refine ⟨h.disciplined, ?_, ?_, nofun, h.fresh, haccount⟩
    · intro m' hm'
      exact havoids m' (hmove ▸ hm')
    · show (s.freed ++ [m] ++ s.queue).Nodup
      rw [hmove]
      exact hnodup

/-- **The invariant holds under every interleaving.** -/
theorem handoverInv_run {prog : List (Action β ι)} {heap : Heap β ι}
    (h : Disciplined A prog heap) (schedule : List Party) :
    HandoverInv A (deliveries A prog heap)
      (run (partyStep A) (System.start prog heap) schedule) := by
  refine run_induct (fun s party hs => ?_) (handoverInv_start A h) schedule
  cases party with
  | producer => exact handoverInv_produce A hs
  | consumer => exact handoverInv_consume A hs

/-! ## Runs of one party -/

theorem run_producer (part rest : List (Action β ι)) {s : System β ι}
    (h : s.prog = part ++ rest) :
    let s' := run (partyStep A) s (List.replicate part.length .producer)
    s'.prog = rest ∧ s'.queue = s.queue ++ part.flatMap Action.pushed ∧ s'.hand = s.hand ∧
      s'.freed = s.freed := by
  induction part generalizing s with
  | nil =>
    rw [List.flatMap_nil, List.append_nil]
    exact ⟨h, rfl, rfl, rfl⟩
  | cons a part ih =>
    have hstep : produce A s =
        { s with
          prog := part ++ rest
          heap := exec A s.heap a
          queue := s.queue ++ a.pushed
          stale := s.stale || a.touches.any fun m => decide (m ∈ s.freed) } := by
      unfold produce
      rw [h]
      rfl
    rw [List.length_cons, List.replicate_succ, run_cons, partyStep, hstep, List.flatMap_cons,
      ← List.append_assoc]
    exact ih rfl

/-- After `n` steps of its own the consumer has freed what it had taken, and nothing else has
changed. -/
def IdleAfter (s : System β ι) (n : Nat) : Prop :=
  let s' := run (partyStep A) s (List.replicate n .consumer)
  s'.prog = s.prog ∧ s'.queue = s.queue ∧ s'.hand = .idle ∧ s'.freed = s.freed ++ s.hand.held

theorem idleAfter_zero {s : System β ι} (h : s.hand = .idle) : IdleAfter A s 0 := by
  refine ⟨rfl, rfl, h, ?_⟩
  rw [h]
  exact (List.append_nil _).symm

theorem idleAfter_succ {s s' : System β ι} {n : Nat} (hstep : consume s = s')
    (h : IdleAfter A s' n) (hprog : s'.prog = s.prog) (hqueue : s'.queue = s.queue)
    (hfreed : s'.freed ++ s'.hand.held = s.freed ++ s.hand.held) : IdleAfter A s (n + 1) := by
  obtain ⟨hprog', hqueue', hhand', hfreed'⟩ := h
  unfold IdleAfter
  rw [List.replicate_succ, run_cons, partyStep, hstep]
  exact ⟨hprog'.trans hprog, hqueue'.trans hqueue, hhand', hfreed'.trans hfreed⟩

theorem exists_idle (s : System β ι) : ∃ n, IdleAfter A s n := by
  have hdone : ∀ (s : System β ι) (m : Nat), s.hand = .done m → IdleAfter A s 1 := by
    intro s m hhand
    have hstep : consume s = { s with hand := .idle, freed := s.freed ++ [m] } := by
      unfold consume
      rw [hhand]
    refine idleAfter_succ A hstep (idleAfter_zero A rfl) rfl rfl ?_
    rw [hhand]
    exact List.append_nil _
  have hholds : ∀ (s : System β ι) (m : Nat) (data : Option Nat) (label : ι),
      s.hand = .holds m data label → IdleAfter A s 2 := by
    intro s m data label hhand
    have hstep : consume s =
        { s with hand := .done m, sent := s.sent ++ [(data.bind s.heap.buf, label)] } := by
      unfold consume
      rw [hhand]
    refine idleAfter_succ A hstep (hdone _ m rfl) rfl rfl ?_
    rw [hhand]
    rfl
  cases hhand : s.hand with
  | idle => exact ⟨0, idleAfter_zero A hhand⟩
  | done m => exact ⟨1, hdone s m hhand⟩
  | holds m data label => exact ⟨2, hholds s m data label hhand⟩
  | took m =>
    by_cases hready : (s.heap.msg m).ready = true
    · have hstep : consume s =
          { s with hand := .holds m (s.heap.msg m).data (s.heap.msg m).label } := by
        unfold consume
        rw [hhand]
        exact if_pos hready
      refine ⟨3, idleAfter_succ A hstep (hholds _ m _ _ rfl) rfl rfl ?_⟩
      rw [hhand]
      rfl
    · have hstep : consume s = { s with hand := .done m } := by
        unfold consume
        rw [hhand]
        exact if_neg hready
      refine ⟨2, idleAfter_succ A hstep (hdone _ m rfl) rfl rfl ?_⟩
      rw [hhand]
      rfl

theorem exists_drained (s : System β ι) :
    ∃ n, let s' := run (partyStep A) s (List.replicate n .consumer)
      s'.prog = s.prog ∧ s'.queue = [] ∧ s'.hand = .idle ∧ s'.freed = s.given := by
  generalize hqueue : s.queue = queue
  induction queue generalizing s with
  | nil =>
    obtain ⟨n, hprog, hq, hhand, hfreed⟩ := exists_idle A s
    refine ⟨n, hprog, hq.trans hqueue, hhand, ?_⟩
    rw [hfreed, System.given, hqueue, List.append_nil]
  | cons m queue ih =>
    obtain ⟨n, hprog, hq, hhand, hfreed⟩ := exists_idle A s
    generalize hs₁ : run (partyStep A) s (List.replicate n .consumer) = s₁ at hprog hq hhand hfreed
    have hstep : consume s₁ = { s₁ with queue := queue, hand := .took m } := by
      unfold consume
      rw [hhand, hq, hqueue]
    obtain ⟨k, hprog', hq', hhand', hfreed'⟩ := ih (consume s₁) (by rw [hstep])
    refine ⟨n + 1 + k, ?_⟩
    have hrun : run (partyStep A) s (List.replicate (n + 1 + k) .consumer) =
        run (partyStep A) (consume s₁) (List.replicate k .consumer) := by
      rw [Nat.add_assoc, Nat.add_comm 1 k, List.replicate_add, run_append, hs₁,
        List.replicate_succ]
      rfl
    rw [hrun]
    refine ⟨?_, hq', hhand', ?_⟩
    · rw [hprog', hstep]
      exact hprog
    · rw [hfreed', hstep, System.given, System.given, hfreed, hqueue]
      rw [List.append_assoc]
      rfl

theorem exists_finished (prog : List (Action β ι)) (heap : Heap β ι) :
    ∃ schedule, (run (partyStep A) (System.start prog heap) schedule).Finished := by
  obtain ⟨hprog, -, -, -⟩ := run_producer A prog [] (s := System.start prog heap)
    (List.append_nil prog).symm
  obtain ⟨n, hprog', hqueue, hhand, -⟩ := exists_drained A
    (run (partyStep A) (System.start prog heap) (List.replicate prog.length .producer))
  refine ⟨List.replicate prog.length .producer ++ List.replicate n .consumer, ?_⟩
  rw [run_append]
  exact ⟨hprog'.trans hprog, hqueue, hhand⟩

/-! ## What survives -/

/-- **A disciplined program's answer survives** exactly when what it delivers, message by message,
are the pages with the label. -/
theorem survives_iff_of_disciplined {prog : List (Action β ι)} {heap : Heap β ι}
    (h : Disciplined A prog heap) (pages : List β) (label : ι) :
    Survives A prog heap pages label ↔
      (∀ x ∈ deliveries A prog heap, x.2 = label) ∧
        ((deliveries A prog heap).map Prod.fst).Perm (pages.map some) := by
  constructor
  · intro hsurvives
    obtain ⟨schedule, hfinished⟩ := exists_finished A prog heap
    have haccount := (handoverInv_run A h schedule).account
    obtain ⟨-, -, hlabel, hpages⟩ := hsurvives schedule
    generalize run (partyStep A) (System.start prog heap) schedule = s at *
    obtain ⟨hprog, hqueue, hhand⟩ := hfinished
    have hsent : s.sent = deliveries A prog heap := by
      rw [← haccount, hprog, hqueue, hhand]
      simp [Hand.pending, deliveries]
    rw [← hsent]
    exact ⟨hlabel, hpages ⟨hprog, hqueue, hhand⟩⟩
  · rintro ⟨hlabel, hpages⟩ schedule
    have hinv := handoverInv_run A h schedule
    dsimp only
    generalize run (partyStep A) (System.start prog heap) schedule = s at *
    have haccount := hinv.account
    refine ⟨(List.nodup_append.mp hinv.nodup).1, hinv.fresh, ?_, ?_⟩
    · intro x hx
      apply hlabel
      rw [← haccount, List.append_assoc]
      exact List.mem_append_left _ hx
    · rintro ⟨hprog, hqueue, hhand⟩
      have hsent : s.sent = deliveries A prog heap := by
        rw [← haccount, hprog, hqueue, hhand]
        simp [Hand.pending, deliveries]
      rw [hsent]
      exact hpages

/-- **A message touched after its push.**  The consumer may have freed it by then. -/
theorem not_survives_of_touch {prog : List (Action β ι)} (pre mid post : List (Action β ι))
    {a : Action β ι} {m : Nat} (hprog : prog = pre ++ .push m :: (mid ++ a :: post))
    (ha : m ∈ a.touches) (heap : Heap β ι) (pages : List β) (label : ι) :
    ¬ Survives A prog heap pages label := by
  obtain ⟨part, hpart⟩ : ∃ part : List (Action β ι), part = pre ++ [.push m] := ⟨_, rfl⟩
  have hsplit : prog = part ++ (mid ++ a :: post) := by
    rw [hprog, hpart, List.append_assoc]
    rfl
  -- the producer up to the push, then the consumer until nothing is left, then the producer on
  obtain ⟨hprog₁, hqueue₁, -, -⟩ := run_producer A part _ (s := System.start prog heap) hsplit
  generalize hs₁ : run (partyStep A) (System.start prog heap)
    (List.replicate part.length .producer) = s₁ at hprog₁ hqueue₁
  obtain ⟨n, hprog₂, -, -, hfreed₂⟩ := exists_drained A s₁
  generalize hs₂ : run (partyStep A) s₁ (List.replicate n .consumer) = s₂ at hprog₂ hfreed₂
  obtain ⟨hprog₃, -, -, hfreed₃⟩ := run_producer A mid (a :: post) (hprog₂.trans hprog₁)
  generalize hs₃ : run (partyStep A) s₂ (List.replicate mid.length .producer) = s₃
    at hprog₃ hfreed₃
  have hfreed : m ∈ s₃.freed := by
    have hm : m ∈ s₁.queue := by
      rw [hqueue₁, hpart, List.flatMap_append]
      exact List.mem_append_right _ (List.mem_append_right _ List.mem_cons_self)
    rw [hfreed₃, hfreed₂]
    exact List.mem_append_right _ (List.mem_append_right _ hm)
  have hstale : (produce A s₃).stale = true := by
    have hany : (a.touches.any fun m => decide (m ∈ s₃.freed)) = true :=
      List.any_eq_true.mpr ⟨m, ha, decide_eq_true hfreed⟩
    unfold produce
    rw [hprog₃]
    show (s₃.stale || a.touches.any fun m => decide (m ∈ s₃.freed)) = true
    rw [hany, Bool.or_true]
  intro hsurvives
  have hfalse := (hsurvives (List.replicate part.length Party.producer ++
    (List.replicate n Party.consumer ++
      (List.replicate mid.length Party.producer ++ [Party.producer])))).2.1
  rw [run_append, hs₁, run_append, hs₂, run_append, hs₃] at hfalse
  exact absurd (hfalse.symm.trans hstale) Bool.false_ne_true

end GB28181.Base
