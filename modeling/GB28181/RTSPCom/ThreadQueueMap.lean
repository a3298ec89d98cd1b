import GB28181.Base.Map
import GB28181.Base.Run

/-!
# Registering the play threads (`RTSPCom/RTSPTransSessionMgr.cpp`, `RTSPCom/RTSPTransMgrBase.cpp`)

`ProcessOperation` starts a thread for each session and enters its `ThreadInfo` in
`m_oThreadQueueMap` under the call dialog ID; a refused request and the end of a thread remove
**whatever stands under the ID**.  Threads are numbered in the order in which they are started.
A thread ends in two steps, `RemoveKey` and, later and under the lock, `delete pThreadInfo` with a
line of the log that reads its session.

* `entries_run` — an entry always leads to a thread that runs, the latest of its ID;
* `registered_step_iff` — a step keeps every running session within reach, and touches nobody
  else's entry, **exactly when** no other thread holds the ID;
* `registered_run_iff` — the same over every order of steps.
-/

set_option autoImplicit false

namespace GB28181.RTSPCom.ThreadQueueMap

open GB28181.Base

/-! ## State and steps -/

inductive Phase where
  | running
  /-- `ThreadDestroy` has removed the key. -/
  | removed
  /-- `delete pThreadInfo`. -/
  | deleted
deriving DecidableEq

/-- `ThreadInfo_t`, and whether `Create` gave the thread a session. -/
structure ThreadInfo where
  nCallDialogID : BitVec 64
  created : Bool
  phase : Phase
deriving DecidableEq

/-- The threads started so far, and the map. -/
structure Threads where
  threads : List ThreadInfo := []
  m_oThreadQueueMap : Map (BitVec 64) Nat := ∅

namespace Threads

/-- Thread `n` is in this phase. -/
def Has (s : Threads) (n : Nat) (t : ThreadInfo) (phase : Phase) : Prop :=
  s.threads[n]? = some t ∧ t.phase = phase

instance (s : Threads) (n : Nat) (t : ThreadInfo) (phase : Phase) :
    Decidable (s.Has n t phase) := inferInstanceAs (Decidable (_ ∧ _))

def removeKey (s : Threads) (nCallDialogID : BitVec 64) : Threads :=
  { s with m_oThreadQueueMap := s.m_oThreadQueueMap.erase nCallDialogID }

def setPhase (s : Threads) (n : Nat) (phase : Phase) : Threads :=
  { s with threads := s.threads.modify n ({ · with phase := phase }) }

/-- `play_with_sdp`: the thread found under the ID is told to end; the new one takes the entry. -/
def playWithSdp (s : Threads) (nCallDialogID : BitVec 64) (created : Bool) : Threads :=
  { threads := s.threads ++ [⟨nCallDialogID, created, .running⟩]
    m_oThreadQueueMap := s.m_oThreadQueueMap.insert nCallDialogID s.threads.length }

/-- The error branch of `ProcessNetworkEvent` in thread `n`. -/
def refused (s : Threads) (n : Nat) : Threads :=
  match s.threads[n]? with
  | some t => if t.phase = .running ∧ t.created = true then s.removeKey t.nCallDialogID else s
  | none => s

/-- `ThreadDestroy` of thread `n`, up to the lock. -/
def exit (s : Threads) (n : Nat) : Threads :=
  match s.threads[n]? with
  | some t =>
    if t.phase = .running then
      let s := if !Map.isEmpty s.m_oThreadQueueMap then s.removeKey t.nCallDialogID else s
      s.setPhase n .removed
    else s
  | none => s

/-- `ThreadDestroy` of thread `n`, under the lock. -/
def delete (s : Threads) (n : Nat) : Threads :=
  match s.threads[n]? with
  | some t => if t.phase = .removed then s.setPhase n .deleted else s
  | none => s

end Threads

/-- The steps of all threads; one that its thread cannot make does nothing. -/
inductive Step where
  | playWithSdp (nCallDialogID : BitVec 64) (created : Bool)
  /-- A message goes to the queue found under the ID. -/
  | playCtrlStop (nCallDialogID : BitVec 64)
  /-- A message goes to every queue in the map. -/
  | stopAllPlay
  | refused (n : Nat)
  | exit (n : Nat)
  | delete (n : Nat)

def step (s : Threads) : Step → Threads
  | .playWithSdp id created => s.playWithSdp id created
  | .playCtrlStop _ => s
  | .stopAllPlay => s
  | .refused n => s.refused n
  | .exit n => s.exit n
  | .delete n => s.delete n

/-! ## What should hold -/

/-- `n` is the thread started last with the ID. -/
def Latest (s : Threads) (id : BitVec 64) (n : Nat) : Prop :=
  (∃ t, s.threads[n]? = some t ∧ t.nCallDialogID = id) ∧
    ∀ m t, s.threads[m]? = some t → t.nCallDialogID = id → m ≤ n

/-- Thread `n` runs. -/
def Runs (s : Threads) (n : Nat) : Prop := ∃ t, s.Has n t .running

/-- The latest session of each ID is within reach while it runs, and no entry leads to a
`ThreadInfo` that was deleted. -/
structure Registered (s : Threads) : Prop where
  reach : ∀ id n, Latest s id n → Runs s n → s.m_oThreadQueueMap.lookup id = some n
  alive : ∀ id n, s.m_oThreadQueueMap.lookup id = some n → ∀ t, ¬ s.Has n t .deleted

/-- A thread that ends removes its own entry only, and has a session to read. -/
def EndsAlone (s : Threads) : Step → Prop
  | .exit n =>
    ∀ t, s.Has n t .running → ∀ m, s.m_oThreadQueueMap.lookup t.nCallDialogID = some m → m = n
  | .delete n => ∀ t, s.Has n t .removed → t.created = true
  | _ => True

/-- A refused request meets no running session of its ID, a thread that ends no other one, and
every thread that ends was given a session. -/
def HoldsAlone (s : Threads) : Step → Prop
  | .refused n =>
    ∀ t, s.Has n t .running → t.created = true → ∀ m, Latest s t.nCallDialogID m → ¬ Runs s m
  | .exit n => ∀ t, s.Has n t .running → ∀ m, Latest s t.nCallDialogID m → Runs s m → m = n
  | .delete n => ∀ t, s.Has n t .removed → t.created = true
  | _ => True

/-! ## Entries -/

/-- Every entry leads to a running thread, the latest of its ID. -/
def Entries (s : Threads) : Prop :=
  ∀ id n, s.m_oThreadQueueMap.lookup id = some n → Latest s id n ∧ Runs s n

theorem playWithSdp_getElem? (s : Threads) (id : BitVec 64) (created : Bool) (m : Nat) :
    (s.playWithSdp id created).threads[m]? =
      if m = s.threads.length then some ⟨id, created, .running⟩ else s.threads[m]? := by
  unfold Threads.playWithSdp
  split
  · rename_i h
    subst h
    exact List.getElem?_concat_length
  · rename_i h
    rcases Nat.lt_or_gt_of_ne h with hlt | hgt
    · exact List.getElem?_append_left hlt
    · have hlen : (s.threads ++ [(⟨id, created, .running⟩ : ThreadInfo)]).length ≤ m := by
        rw [List.length_append]
        exact hgt
      rw [List.getElem?_eq_none hlen, List.getElem?_eq_none (by omega)]

theorem setPhase_getElem? (s : Threads) (n m : Nat) (phase : Phase) :
    (s.setPhase n phase).threads[m]? =
      if m = n then s.threads[m]?.map ({ · with phase := phase }) else s.threads[m]? := by
  unfold Threads.setPhase
  rw [List.getElem?_modify]
  by_cases h : m = n
  · simp [h]
  · simp [h, Ne.symm h]

theorem latest_play_iff {s : Threads} {id id' : BitVec 64} {created : Bool} {n : Nat} :
    Latest (s.playWithSdp id created) id' n ↔
      if id' = id then n = s.threads.length else Latest s id' n := by
  have hlt : ∀ {m : Nat} {t : ThreadInfo}, s.threads[m]? = some t → m < s.threads.length :=
    fun h => (List.getElem?_eq_some_iff.mp h).1
  unfold Latest
  simp only [playWithSdp_getElem?]
  by_cases hid : id' = id
  · rw [if_pos hid]
    constructor
    · rintro ⟨⟨t, ht, -⟩, hmax⟩
      have hle := hmax s.threads.length _ (if_pos rfl) hid.symm
      by_contra hne
      rw [if_neg hne] at ht
      exact absurd (hlt ht) (by omega)
    · rintro rfl
      refine ⟨⟨_, if_pos rfl, hid.symm⟩, fun m t hm _ => ?_⟩
      by_cases hm' : m = s.threads.length
      · exact hm'.le
      · rw [if_neg hm'] at hm
        exact (hlt hm).le
  · rw [if_neg hid]
    have hold : ∀ {m : Nat} {t : ThreadInfo}, t.nCallDialogID = id' →
        ((if m = s.threads.length then some ⟨id, created, .running⟩ else s.threads[m]?) = some t ↔
          s.threads[m]? = some t) := by
      intro m t ht
      by_cases hm : m = s.threads.length
      · rw [if_pos hm]
        refine iff_of_false ?_ fun h => absurd (hlt h) (by omega)
        rintro h
        cases h
        exact hid ht.symm
      · rw [if_neg hm]
    constructor
    · rintro ⟨⟨t, ht, htid⟩, hmax⟩
      exact ⟨⟨t, (hold htid).mp ht, htid⟩, fun m t hm hid => hmax m t ((hold hid).mpr hm) hid⟩
    · rintro ⟨⟨t, ht, htid⟩, hmax⟩
      exact ⟨⟨t, (hold htid).mpr ht, htid⟩, fun m t hm hid => hmax m t ((hold hid).mp hm) hid⟩

theorem runs_play_iff {s : Threads} {id : BitVec 64} {created : Bool} {n : Nat} :
    Runs (s.playWithSdp id created) n ↔ n = s.threads.length ∨ Runs s n := by
  unfold Runs Threads.Has
  simp only [playWithSdp_getElem?]
  by_cases hn : n = s.threads.length
  · rw [if_pos hn]
    exact iff_of_true ⟨_, rfl, rfl⟩ (Or.inl hn)
  · rw [if_neg hn, or_iff_right hn]

theorem latest_setPhase_iff {s : Threads} {id : BitVec 64} {n m : Nat} {phase : Phase} :
    Latest (s.setPhase n phase) id m ↔ Latest s id m := by
  have hid : ∀ k : Nat, (∃ t : ThreadInfo,
      (s.setPhase n phase).threads[k]? = some t ∧ t.nCallDialogID = id) ↔
        ∃ t : ThreadInfo, s.threads[k]? = some t ∧ t.nCallDialogID = id := by
    intro k
    rw [setPhase_getElem?]
    split
    · cases s.threads[k]? with
      | none => simp
      | some t => simp
    · rfl
  unfold Latest
  rw [hid m]
  refine and_congr_right fun _ => ?_
  constructor
  · intro h k t hk ht
    obtain ⟨t', hk', ht'⟩ := (hid k).mpr ⟨t, hk, ht⟩
    exact h k t' hk' ht'
  · intro h k t hk ht
    obtain ⟨t', hk', ht'⟩ := (hid k).mp ⟨t, hk, ht⟩
    exact h k t' hk' ht'

/-- A thread that comes to another phase does not run; the others go on. -/
theorem runs_setPhase_iff {s : Threads} {n m : Nat} {phase : Phase} (h : phase ≠ .running) :
    Runs (s.setPhase n phase) m ↔ m ≠ n ∧ Runs s m := by
  unfold Runs Threads.Has
  rw [setPhase_getElem?]
  split
  · rename_i hm
    refine iff_of_false ?_ fun h' => h'.1 hm
    rintro ⟨t, ht, hphase⟩
    obtain ⟨t', -, rfl⟩ := Option.map_eq_some_iff.mp ht
    exact h hphase
  · rename_i hm
    rw [and_iff_right hm]

/-! ### What each step leaves -/

theorem refused_cases (s : Threads) (n : Nat) :
    (s.refused n = s ∧ ∀ t, s.Has n t .running → t.created = false) ∨
      ∃ t, s.Has n t .running ∧ t.created = true ∧
        s.refused n = s.removeKey t.nCallDialogID := by
  unfold Threads.refused Threads.Has
  cases ht : s.threads[n]? with
  | none => exact Or.inl ⟨rfl, fun t h => by cases h.1⟩
  | some t =>
    dsimp only
    split
    · rename_i h
      exact Or.inr ⟨t, ⟨rfl, h.1⟩, h.2, rfl⟩
    · rename_i h
      refine Or.inl ⟨rfl, ?_⟩
      rintro t' ⟨he, hphase⟩
      obtain rfl := Option.some.inj he
      rw [← Bool.not_eq_true]
      exact fun hc => h ⟨hphase, hc⟩

theorem removeKey_of_isEmpty {s : Threads} (h : Map.isEmpty s.m_oThreadQueueMap = true)
    (id : BitVec 64) : s.removeKey id = s := by
  have hnone := (Map.isEmpty_iff _).mp h
  have hmap : s.m_oThreadQueueMap.erase id = s.m_oThreadQueueMap := by
    refine Finmap.ext_lookup fun x => ?_
    rw [Map.lookup_erase_ite]
    split
    · exact (hnone x).symm
    · rfl
  rw [Threads.removeKey, hmap]

theorem exit_cases (s : Threads) (n : Nat) :
    (s.exit n = s ∧ ∀ t, ¬ s.Has n t .running) ∨
      ∃ t, s.Has n t .running ∧
        s.exit n = (s.removeKey t.nCallDialogID).setPhase n .removed := by
  unfold Threads.exit Threads.Has
  cases ht : s.threads[n]? with
  | none => exact Or.inl ⟨rfl, fun t h => by cases h.1⟩
  | some t =>
    dsimp only
    by_cases hphase : t.phase = .running
    · rw [if_pos hphase]
      refine Or.inr ⟨t, ⟨rfl, hphase⟩, ?_⟩
      cases hempty : Map.isEmpty s.m_oThreadQueueMap with
      | true =>
        rw [removeKey_of_isEmpty hempty]
        rfl
      | false => rfl
    · rw [if_neg hphase]
      refine Or.inl ⟨rfl, ?_⟩
      rintro t' ⟨he, hrun⟩
      obtain rfl := Option.some.inj he
      exact hphase hrun

theorem delete_cases (s : Threads) (n : Nat) :
    (s.delete n = s ∧ ∀ t, ¬ s.Has n t .removed) ∨
      ∃ t, s.Has n t .removed ∧ s.delete n = s.setPhase n .deleted := by
  unfold Threads.delete Threads.Has
  cases ht : s.threads[n]? with
  | none => exact Or.inl ⟨rfl, fun t h => by cases h.1⟩
  | some t =>
    dsimp only
    by_cases hphase : t.phase = .removed
    · rw [if_pos hphase]
      exact Or.inr ⟨t, ⟨rfl, hphase⟩, rfl⟩
    · rw [if_neg hphase]
      refine Or.inl ⟨rfl, ?_⟩
      rintro t' ⟨he, hrem⟩
      obtain rfl := Option.some.inj he
      exact hphase hrem

/-! ### Entries stay right -/

theorem entries_removeKey {s : Threads} (h : Entries s) (id : BitVec 64) :
    Entries (s.removeKey id) := by
  intro id' n hl
  unfold Threads.removeKey at hl
  rw [Map.lookup_erase_ite] at hl
  split at hl
  · cases hl
  · exact h id' n hl

theorem entries_setPhase {s : Threads} (h : Entries s) {n : Nat} {phase : Phase}
    (hp : phase ≠ .running) (hn : ∀ id, s.m_oThreadQueueMap.lookup id ≠ some n) :
    Entries (s.setPhase n phase) := by
  intro id m hl
  obtain ⟨hlatest, hruns⟩ := h id m hl
  refine ⟨latest_setPhase_iff.mpr hlatest, (runs_setPhase_iff hp).mpr ⟨?_, hruns⟩⟩
  rintro rfl
  exact hn id hl

theorem entries_play {s : Threads} (h : Entries s) (id : BitVec 64) (created : Bool) :
    Entries (s.playWithSdp id created) := by
  intro id' n hl
  unfold Threads.playWithSdp at hl
  rw [Map.lookup_insert_ite] at hl
  rw [latest_play_iff, runs_play_iff]
  split at hl
  · rename_i hid
    obtain rfl := Option.some.inj hl
    rw [if_pos hid]
    exact ⟨rfl, Or.inl rfl⟩
  · rename_i hid
    rw [if_neg hid]
    exact ⟨(h id' n hl).1, Or.inr (h id' n hl).2⟩

theorem Latest.id_eq {s : Threads} {id : BitVec 64} {n : Nat} {t : ThreadInfo} {phase : Phase}
    (h : Latest s id n) (ht : s.Has n t phase) : t.nCallDialogID = id := by
  obtain ⟨⟨t', ht', rfl⟩, -⟩ := h
  rw [Option.some.inj (ht.1.symm.trans ht')]

theorem entries_step (s : Threads) (i : Step) (h : Entries s) : Entries (step s i) := by
  cases i with
  | playWithSdp id created => exact entries_play h id created
  | playCtrlStop id => exact h
  | stopAllPlay => exact h
  | refused n =>
    rw [step]
    rcases refused_cases s n with ⟨he, -⟩ | ⟨t, -, -, he⟩
    · rw [he]
      exact h
    · rw [he]
      exact entries_removeKey h _
  | exit n =>
    rw [step]
    rcases exit_cases s n with ⟨he, -⟩ | ⟨t, ht, he⟩
    · rw [he]
      exact h
    · rw [he]
      refine entries_setPhase (entries_removeKey h _) (by decide) fun id hl => ?_
      -- an entry of the thread itself stands under its own ID
      have hl' := hl
      unfold Threads.removeKey at hl'
      rw [Map.lookup_erase_ite] at hl'
      split at hl'
      · cases hl'
      · rename_i hid
        exact hid ((h id n hl').1.id_eq ht).symm
  | delete n =>
    rw [step]
    rcases delete_cases s n with ⟨he, -⟩ | ⟨t, ht, he⟩
    · rw [he]
      exact h
    · rw [he]
      refine entries_setPhase h (by decide) fun id hl => ?_
      obtain ⟨t', ht'⟩ := (h id n hl).2
      obtain rfl := Option.some.inj (ht.1.symm.trans ht'.1)
      exact absurd (ht.2.symm.trans ht'.2) (by decide)

theorem entries_start : Entries {} := by
  intro id n h
  cases h

/-- **Entries lead to running threads**, in every order of steps. -/
theorem entries_run (is : List Step) : Entries (run step {} is) :=
  run_induct entries_step entries_start is

/-! ## Reach -/

theorem alive_of_entries {s : Threads} (h : Entries s) (id : BitVec 64) (n : Nat)
    (hl : s.m_oThreadQueueMap.lookup id = some n) (t : ThreadInfo) : ¬ s.Has n t .deleted := by
  obtain ⟨t', ht'⟩ := (h id n hl).2
  intro ht
  obtain rfl := Option.some.inj (ht.1.symm.trans ht'.1)
  exact absurd (ht.2.symm.trans ht'.2) (by decide)

theorem registered_play {s : Threads} (h : Registered s) (he : Entries s) (id : BitVec 64)
    (created : Bool) : Registered (s.playWithSdp id created) := by
  refine ⟨fun id' n hlatest hruns => ?_, alive_of_entries (entries_play he id created)⟩
  unfold Threads.playWithSdp
  rw [Map.lookup_insert_ite]
  rw [latest_play_iff] at hlatest
  rw [runs_play_iff] at hruns
  split
  · rename_i hid
    rw [if_pos hid] at hlatest
    rw [hlatest]
  · rename_i hid
    rw [if_neg hid] at hlatest
    rcases hruns with hn | hruns
    · obtain ⟨⟨t, ht, -⟩, -⟩ := hlatest
      exact absurd (List.getElem?_eq_some_iff.mp ht).1 (by omega)
    · exact h.reach id' n hlatest hruns

/-- Removing a key keeps every running session within reach exactly when the latest of the ID does
not run. -/
theorem registered_removeKey_iff {s : Threads} (h : Registered s) (he : Entries s)
    (id : BitVec 64) :
    Registered (s.removeKey id) ↔ ∀ m, Latest s id m → ¬ Runs s m := by
  constructor
  · intro hr m hlatest hruns
    have hl : (s.removeKey id).m_oThreadQueueMap.lookup id = some m := hr.reach id m hlatest hruns
    unfold Threads.removeKey at hl
    rw [Map.lookup_erase_ite, if_pos rfl] at hl
    cases hl
  · intro hnone
    refine ⟨fun id' m hlatest hruns => ?_, alive_of_entries (entries_removeKey he id)⟩
    unfold Threads.removeKey
    rw [Map.lookup_erase_ite]
    split
    · rename_i hid
      subst hid
      exact absurd hruns (hnone m hlatest)
    · exact h.reach id' m hlatest hruns

/-- The end of a thread keeps the others within reach exactly when none of them is the latest of
its ID. -/
theorem registered_exit_iff {s : Threads} (h : Registered s) (he : Entries s) {n : Nat}
    {t : ThreadInfo} (ht : s.Has n t .running) :
    Registered (s.exit n) ↔ ∀ m, Latest s t.nCallDialogID m → Runs s m → m = n := by
  have hentries : Entries (s.exit n) := entries_step s (.exit n) he
  have hexit : s.exit n = (s.removeKey t.nCallDialogID).setPhase n .removed := by
    rcases exit_cases s n with ⟨-, hnone⟩ | ⟨t', ht', heq⟩
    · exact absurd ht (hnone t)
    · obtain rfl := Option.some.inj (ht.1.symm.trans ht'.1)
      exact heq
  have hlookup : ∀ id, (s.exit n).m_oThreadQueueMap.lookup id =
      if id = t.nCallDialogID then none else s.m_oThreadQueueMap.lookup id := by
    intro id
    rw [hexit]
    exact Map.lookup_erase_ite _ _ _
  have hlatest : ∀ id m, Latest (s.exit n) id m ↔ Latest s id m := by
    intro id m
    rw [hexit]
    exact latest_setPhase_iff
  have hruns : ∀ m, Runs (s.exit n) m ↔ m ≠ n ∧ Runs s m := by
    intro m
    rw [hexit]
    exact runs_setPhase_iff (by decide)
  constructor
  · intro hr m hm hrun
    by_contra hne
    have hl := hr.reach _ m ((hlatest _ m).mpr hm) ((hruns m).mpr ⟨hne, hrun⟩)
    rw [hlookup, if_pos rfl] at hl
    cases hl
  · intro hown
    refine ⟨fun id m hm hrun => ?_, alive_of_entries hentries⟩
    rw [hlatest] at hm
    rw [hruns] at hrun
    rw [hlookup]
    split
    · rename_i hid
      subst hid
      exact absurd (hown m hm hrun.2) hrun.1
    · exact h.reach id m hm hrun.2

theorem registered_delete {s : Threads} (h : Registered s) (he : Entries s) (n : Nat) :
    Registered (s.delete n) := by
  have hentries : Entries (s.delete n) := entries_step s (.delete n) he
  refine ⟨fun id m hm hrun => ?_, alive_of_entries hentries⟩
  rcases delete_cases s n with ⟨heq, -⟩ | ⟨t, -, heq⟩
  · rw [heq] at hm hrun ⊢
    exact h.reach id m hm hrun
  · rw [heq] at hm hrun ⊢
    exact h.reach id m (latest_setPhase_iff.mp hm) ((runs_setPhase_iff (by decide)).mp hrun).2

/-- **One step** keeps the running sessions within reach and ends threads as it should exactly
when the thread holds its ID alone. -/
theorem registered_step_iff {s : Threads} (h : Registered s) (he : Entries s) (i : Step) :
    (Registered (step s i) ∧ EndsAlone s i) ↔ HoldsAlone s i := by
  cases i with
  | playWithSdp id created => exact iff_of_true ⟨registered_play h he id created, trivial⟩ trivial
  | playCtrlStop id => exact iff_of_true ⟨h, trivial⟩ trivial
  | stopAllPlay => exact iff_of_true ⟨h, trivial⟩ trivial
  | refused n =>
    show (Registered (s.refused n) ∧ True) ↔ _
    rw [and_true]
    rcases refused_cases s n with ⟨heq, hnone⟩ | ⟨t, ht, hc, heq⟩
    · rw [heq]
      refine iff_of_true h fun t ht hc => ?_
      exact absurd ((hnone t ht).symm.trans hc) Bool.false_ne_true
    · rw [heq, registered_removeKey_iff h he]
      constructor
      · intro hall t' ht' _
        obtain rfl := Option.some.inj (ht.1.symm.trans ht'.1)
        exact hall
      · exact fun hall => hall t ht hc
  | exit n =>
    show (Registered (s.exit n) ∧ EndsAlone s (.exit n)) ↔ _
    rcases exit_cases s n with ⟨heq, hnone⟩ | ⟨t, ht, -⟩
    · rw [heq]
      exact iff_of_true ⟨h, fun t ht => absurd ht (hnone t)⟩ fun t ht => absurd ht (hnone t)
    · rw [registered_exit_iff h he ht]
      constructor
      · rintro ⟨hown, -⟩ t' ht'
        obtain rfl := Option.some.inj (ht.1.symm.trans ht'.1)
        exact hown
      · intro hall
        refine ⟨hall t ht, fun t' ht' m hl => ?_⟩
        obtain ⟨hlatest, hruns⟩ := he _ m hl
        exact hall t' ht' m hlatest hruns
  | delete n => exact and_iff_right (registered_delete h he n)

/-- **Every order of steps.**  The sessions stay within reach, and threads end as they should,
throughout a run exactly when at every step of it the thread holds its ID alone. -/
theorem registered_run_iff (is : List Step) :
    (∀ p ∈ calls step {} is, Registered (step p.1 p.2) ∧ EndsAlone p.1 p.2) ↔
      ∀ p ∈ calls step {} is, HoldsAlone p.1 p.2 := by
  have hexact : ∀ s i, Registered s ∧ Entries s →
      ((Registered (step s i) ∧ Entries (step s i)) ∧ EndsAlone s i ↔ HoldsAlone s i) := by
    rintro s i ⟨h, he⟩
    rw [← registered_step_iff h he i, and_iff_left (entries_step s i he)]
  have hstart : Registered {} ∧ Entries {} :=
    ⟨⟨fun id n hlatest _ => (by obtain ⟨⟨t, ht, -⟩, -⟩ := hlatest; cases ht),
      alive_of_entries entries_start⟩, entries_start⟩
  have hruns := @forall_calls_iff _ _ step HoldsAlone EndsAlone
    (fun s => Registered s ∧ Entries s) hexact _ is hstart
  rw [← hruns]
  refine forall₂_congr fun p hp => ?_
  obtain ⟨pre, post, -, hstate⟩ := mem_calls_iff.mp hp
  have hentries : Entries (step p.1 p.2) := by
    rw [hstate]
    exact entries_step _ _ (entries_run pre)
  rw [and_iff_left hentries]

/-- Two sessions with one ID: the end of the first takes the entry of the second. -/
theorem old_thread_unregisters_new :
    ¬ ∀ is : List Step, ∀ p ∈ calls step {} is, Registered (step p.1 p.2) ∧ EndsAlone p.1 p.2 := by
  intro h
  let s : Threads := (Threads.playWithSdp {} 7 true).playWithSdp 7 true
  have hmem : (s, Step.exit 0) ∈
      calls step {} [.playWithSdp 7 true, .playWithSdp 7 true, .exit 0] :=
    mem_calls_iff.mpr ⟨[.playWithSdp 7 true, .playWithSdp 7 true], [], rfl, rfl⟩
  have halone := (h _ _ hmem).2 ⟨7, true, .running⟩ (by decide) 1 (by decide)
  cases halone

end GB28181.RTSPCom.ThreadQueueMap
