import GB28181.Base.History
import GB28181.Lib.InviteResponses

/-!
# The table of streamers (`GB28181.Lib/MapStreamerSipID.cpp`)

Every streamer has an entry with the IDs of its session, its speed and its play status.  The first
setter makes the entry, `RemovePlayBackID` removes it, and each getter looks for it; `GetSpeed`
takes the branch for an entry where there is none.

* `step` — a call on the table; `lookup_step` — what it does to one entry;
* `lookup_run` — the entry of a streamer after a history: what made it and what was set last since
  the last removal;
* `streamers_iff` — **exactly when each getter answers as the history says**.
-/

set_option autoImplicit false

namespace GB28181.Lib.Streamers

open GB28181.Base GB28181.Lib.Invite

/-! ## The calls -/

/-- A setter that makes the entry fills in the defaults, and one that finds it keeps the rest. -/
def setSpeed (m : MapID) (pStreamer : Nat) (fSpeed : UInt32) : MapID :=
  match m.lookup pStreamer with
  | none => m.insert pStreamer { nCid := -1, nDid := -1, fSpeed := fSpeed, m_nState := 0 }
  | some sipID => m.insert pStreamer { sipID with fSpeed := fSpeed }

def setPlayStatus (m : MapID) (pStreamer : Nat) (nStatus : Int) : MapID :=
  match m.lookup pStreamer with
  | none => m.insert pStreamer { nCid := -1, nDid := -1, fSpeed := 0, m_nState := nStatus }
  | some sipID => m.insert pStreamer { sipID with m_nState := nStatus }

def removePlayBackID (m : MapID) (pStreamer : Nat) : MapID := m.erase pStreamer

/-- What `m_MapStreamerID[pStreamer]` makes where there is no entry. -/
def valueInitialised : SIPID := { nCid := 0, nDid := 0, fSpeed := 0, m_nState := 0 }

/-- `GetSpeed`: the returned value, `fSpeed` and the table it leaves. -/
def getSpeed (m : MapID) (pStreamer : Nat) : (Bool × UInt32) × MapID :=
  match m.lookup pStreamer with
  | none =>
    -- the test is for the end of the map, so that the access makes an entry
    ((true, (m.index pStreamer valueInitialised).fSpeed), m.touch pStreamer valueInitialised)
  | some _ => ((false, 0), m)

def getPlayStatus (m : MapID) (pStreamer : Nat) : Bool × Int :=
  match m.lookup pStreamer with
  | some sipID => (true, sipID.m_nState)
  | none => (false, 0)

inductive Action where
  | setPlayBackID (nCid nDid : Int)
  | setSpeed (fSpeed : UInt32)
  | setPlayStatus (nStatus : Int)
  | removePlayBackID
  | getPlayBackID
  | getSpeed
  | getPlayStatus
  deriving DecidableEq

structure Op where
  pStreamer : Nat
  action : Action

def step (m : MapID) (op : Op) : MapID :=
  match op.action with
  | .setPlayBackID nCid nDid => setPlayBackID m op.pStreamer nCid nDid
  | .setSpeed fSpeed => setSpeed m op.pStreamer fSpeed
  | .setPlayStatus nStatus => setPlayStatus m op.pStreamer nStatus
  | .removePlayBackID => removePlayBackID m op.pStreamer
  | .getPlayBackID => m
  | .getSpeed => (getSpeed m op.pStreamer).2
  | .getPlayStatus => m

/-- The table after a history of calls. -/
def tableAfter (h : List Op) : MapID := run step ∅ h

/-! ## What the history says -/

def Action.isSetter : Action → Bool
  | .setPlayBackID _ _ => true
  | .setSpeed _ => true
  | .setPlayStatus _ => true
  | _ => false

def Action.playBackID : Action → Option (Int × Int)
  | .setPlayBackID nCid nDid => some (nCid, nDid)
  | _ => none

def Action.speed : Action → Option UInt32
  | .setSpeed fSpeed => some fSpeed
  | _ => none

def Action.playStatus : Action → Option Int
  | .setPlayStatus nStatus => some nStatus
  | _ => none

def actionsOn (p : Nat) (h : List Op) : List Action :=
  h.filterMap fun op => if op.pStreamer = p then some op.action else none

/-- What was called for it since its last removal. -/
def current (h : List Op) (p : Nat) : List Action :=
  since (· == .removePlayBackID) (actionsOn p h)

def InTable (l : List Action) : Prop := ∃ a ∈ l, a.isSetter = true

instance (l : List Action) : Decidable (InTable l) := List.decidableBEx _ l

/-- The answer of a getter: the value set last, the default where another setter made the entry,
and no success where none did. -/
def answer {α : Type} (field : Action → Option α) (default : α) (l : List Action) : Bool × α :=
  if InTable l then (true, (latest field l).getD default) else (false, default)

/-- The getters answer as the history says, and leave the table as it is. -/
structure Lawful (h : List Op) (p : Nat) : Prop where
  playBackID : getPlayBackID (tableAfter h) p = answer Action.playBackID (-1, -1) (current h p)
  speed : (getSpeed (tableAfter h) p).1 = answer Action.speed 0 (current h p)
  playStatus : getPlayStatus (tableAfter h) p = answer Action.playStatus 0 (current h p)
  keeps : (getSpeed (tableAfter h) p).2 = tableAfter h

/-! ## One entry -/

/-- What a call does to the entry of its streamer. -/
def act (e : Option SIPID) : Action → Option SIPID
  | .setPlayBackID nCid nDid =>
    some { e.getD ⟨-1, -1, 0, 0⟩ with nCid := nCid, nDid := nDid }
  | .setSpeed fSpeed => some { e.getD ⟨-1, -1, 0, 0⟩ with fSpeed := fSpeed }
  | .setPlayStatus nStatus => some { e.getD ⟨-1, -1, 0, 0⟩ with m_nState := nStatus }
  | .removePlayBackID => none
  | .getPlayBackID => e
  | .getSpeed => some (e.getD valueInitialised)
  | .getPlayStatus => e

/-- **A call changes the entry of its streamer alone.** -/
theorem lookup_step (m : MapID) (op : Op) (p : Nat) :
    (step m op).lookup p = if op.pStreamer = p then act (m.lookup p) op.action else m.lookup p := by
  obtain ⟨q, action⟩ := op
  by_cases hq : q = p
  · subst hq
    rw [if_pos rfl]
    cases action with
    | setPlayBackID nCid nDid =>
      simp only [step, setPlayBackID, act]
      cases hm : m.lookup q <;> simp
    | setSpeed fSpeed =>
      simp only [step, setSpeed, act]
      cases hm : m.lookup q <;> simp
    | setPlayStatus nStatus =>
      simp only [step, setPlayStatus, act]
      cases hm : m.lookup q <;> simp
    | removePlayBackID => simp [step, removePlayBackID, act]
    | getPlayBackID => rfl
    | getSpeed =>
      simp only [step, getSpeed, act]
      cases hm : m.lookup q with
      | none => simp [Map.lookup_touch, Map.index, hm]
      | some sipID => simp [hm]
    | getPlayStatus => rfl
  · have hne : p ≠ q := fun h => hq h.symm
    rw [if_neg hq]
    cases action with
    | setPlayBackID nCid nDid =>
      simp only [step, setPlayBackID]
      cases m.lookup q <;> simp [Finmap.lookup_insert_of_ne, hne]
    | setSpeed fSpeed =>
      simp only [step, setSpeed]
      cases m.lookup q <;> simp [Finmap.lookup_insert_of_ne, hne]
    | setPlayStatus nStatus =>
      simp only [step, setPlayStatus]
      cases m.lookup q <;> simp [Finmap.lookup_insert_of_ne, hne]
    | removePlayBackID => simp [step, removePlayBackID, Finmap.lookup_erase_ne, hne]
    | getPlayBackID => rfl
    | getSpeed =>
      simp only [step, getSpeed]
      cases m.lookup q with
      | none => simp [Map.lookup_touch, hne]
      | some sipID => rfl
    | getPlayStatus => rfl

theorem lookup_tableAfter (h : List Op) (p : Nat) :
    (tableAfter h).lookup p = (actionsOn p h).foldl act none := by
  induction h using List.reverseRecOn with
  | nil => rfl
  | append_singleton h op ih =>
    have hactions : actionsOn p (h ++ [op]) =
        actionsOn p h ++ if op.pStreamer = p then [op.action] else [] := by
      by_cases hp : op.pStreamer = p <;> simp [actionsOn, hp]
    have htable : tableAfter (h ++ [op]) = step (tableAfter h) op := by
      rw [tableAfter, run_append]
      rfl
    rw [htable, lookup_step, hactions, List.foldl_append, ih]
    by_cases hp : op.pStreamer = p <;> simp [hp]

/-! ## What made the entry -/

/-- The calls that make an entry where there is none. -/
def Action.makes (a : Action) : Bool := a.isSetter || a == .getSpeed

def Action.madeIDs (a : Action) : Int × Int := if a = .getSpeed then (0, 0) else (-1, -1)

/-- The entry that the calls since the last removal make. -/
def entryOf (l : List Action) : Option SIPID :=
  (l.find? Action.makes).map fun a =>
    { nCid := ((latest Action.playBackID l).getD a.madeIDs).1
      nDid := ((latest Action.playBackID l).getD a.madeIDs).2
      fSpeed := (latest Action.speed l).getD 0
      m_nState := (latest Action.playStatus l).getD 0 }

theorem find?_makes_eq_none_iff {l : List Action} :
    l.find? Action.makes = none ↔ ¬ InTable l ∧ .getSpeed ∉ l := by
  simp only [List.find?_eq_none, Action.makes, Bool.or_eq_true, beq_iff_eq, not_or, InTable]
  constructor
  · intro h
    exact ⟨fun ⟨a, ha, hset⟩ => (h a ha).1 hset, fun hmem => (h _ hmem).2 rfl⟩
  · rintro ⟨hset, hspeed⟩ a ha
    exact ⟨fun h => hset ⟨a, ha, h⟩, fun h => hspeed (h ▸ ha)⟩

theorem latest_of_not_inTable {l : List Action} (h : ¬ InTable l) :
    latest Action.playBackID l = none ∧ latest Action.speed l = none ∧
      latest Action.playStatus l = none := by
  have hset : ∀ a ∈ l, a.isSetter = false := by
    intro a ha
    cases hs : a.isSetter with
    | false => rfl
    | true => exact absurd ⟨a, ha, hs⟩ h
  simp only [latest_eq_none_iff]
  refine ⟨fun a ha => ?_, fun a ha => ?_, fun a ha => ?_⟩
  · have := hset a ha
    cases a <;> simp_all [Action.isSetter, Action.playBackID]
  · have := hset a ha
    cases a <;> simp_all [Action.isSetter, Action.speed]
  · have := hset a ha
    cases a <;> simp_all [Action.isSetter, Action.playStatus]

theorem act_entryOf (l : List Action) {a : Action} (ha : a ≠ .removePlayBackID) :
    act (entryOf l) a = entryOf (l ++ [a]) := by
  unfold entryOf
  rw [List.find?_append]
  cases hl : l.find? Action.makes with
  | none =>
    obtain ⟨h1, h2, h3⟩ := latest_of_not_inTable (find?_makes_eq_none_iff.mp hl).1
    cases a <;> simp_all [act, valueInitialised, Action.makes, Action.isSetter, Action.madeIDs,
      Action.playBackID, Action.speed, Action.playStatus]
  | some maker =>
    cases a <;> simp_all [act, Action.playBackID, Action.speed, Action.playStatus]

theorem foldl_act (l : List Action) :
    l.foldl act none = entryOf (since (· == .removePlayBackID) l) := by
  induction l using List.reverseRecOn with
  | nil => rfl
  | append_singleton l a ih =>
    rw [List.foldl_append, ih, since_concat]
    by_cases ha : a = .removePlayBackID
    · subst ha
      rfl
    · rw [if_neg (by simpa using ha), ← act_entryOf _ ha]
      rfl

/-- **The entry of a streamer after a history.** -/
theorem lookup_run (h : List Op) (p : Nat) :
    (tableAfter h).lookup p = entryOf (current h p) := by
  rw [lookup_tableAfter, foldl_act, current]

theorem lookup_eq_none_iff {h : List Op} {p : Nat} :
    (tableAfter h).lookup p = none ↔ ¬ InTable (current h p) ∧ .getSpeed ∉ current h p := by
  rw [lookup_run, entryOf, Option.map_eq_none_iff, find?_makes_eq_none_iff]

/-! ## The getters -/

/-- The IDs are those that were set, unless `GetSpeed` made the entry and none were set since. -/
theorem playBackID_iff (h : List Op) (p : Nat) :
    getPlayBackID (tableAfter h) p = answer Action.playBackID (-1, -1) (current h p) ↔
      (current h p).find? Action.makes ≠ some .getSpeed ∨
        ∃ a ∈ current h p, a.playBackID.isSome = true := by
  rw [getPlayBackID, lookup_run]
  generalize current h p = l
  cases hl : l.find? Action.makes with
  | none =>
    obtain ⟨hset, -⟩ := find?_makes_eq_none_iff.mp hl
    simp [entryOf, hl, answer, hset]
  | some maker =>
    by_cases hmaker : maker = .getSpeed
    · subst hmaker
      cases hids : latest Action.playBackID l with
      | none =>
        have hnone := latest_eq_none_iff.mp hids
        have hno : ¬ ∃ a ∈ l, a.playBackID.isSome = true := by
          rintro ⟨a, ha, hsome⟩
          rw [hnone a ha] at hsome
          cases hsome
        simp only [entryOf, hl, Option.map_some, hids, answer, hno, ne_eq, not_true_eq_false,
          or_false, iff_false]
        split_ifs <;> simp [Action.madeIDs]
      | some ids =>
        have hset : InTable l := by
          by_contra hset
          rw [(latest_of_not_inTable hset).1] at hids
          cases hids
        have hex : ∃ a ∈ l, a.playBackID.isSome = true := by
          by_contra hno
          have hnone : latest Action.playBackID l = none := latest_eq_none_iff.mpr fun a ha =>
            Option.not_isSome_iff_eq_none.mp fun hsome => hno ⟨a, ha, hsome⟩
          rw [hnone] at hids
          cases hids
        simp [entryOf, hl, hids, answer, hset, hex]
    · have hset : InTable l := by
        have hmakes := List.find?_some hl
        refine ⟨maker, List.mem_of_find?_eq_some hl, ?_⟩
        simpa [Action.makes, hmaker] using hmakes
      simp [entryOf, hl, answer, hset, hmaker, Action.madeIDs]

/-- The status is the one that was set, unless `GetSpeed` alone made the entry. -/
theorem playStatus_iff (h : List Op) (p : Nat) :
    getPlayStatus (tableAfter h) p = answer Action.playStatus 0 (current h p) ↔
      InTable (current h p) ∨ .getSpeed ∉ current h p := by
  rw [getPlayStatus, lookup_run]
  generalize current h p = l
  cases hl : l.find? Action.makes with
  | none =>
    obtain ⟨hset, hspeed⟩ := find?_makes_eq_none_iff.mp hl
    simp [entryOf, hl, answer, hset, hspeed]
  | some maker =>
    by_cases hset : InTable l
    · simp [entryOf, hl, answer, hset]
    · have hspeed : .getSpeed ∈ l := by
        by_contra hspeed
        rw [find?_makes_eq_none_iff.mpr ⟨hset, hspeed⟩] at hl
        cases hl
      simp [entryOf, hl, answer, hset, hspeed]

theorem speed_iff (h : List Op) (p : Nat) :
    (getSpeed (tableAfter h) p).1 = answer Action.speed 0 (current h p) ↔
      ¬ InTable (current h p) ∧ .getSpeed ∈ current h p := by
  have hlookup := @lookup_eq_none_iff h p
  unfold getSpeed
  cases hm : (tableAfter h).lookup p with
  | none =>
    obtain ⟨hset, hspeed⟩ := hlookup.mp hm
    simp [answer, hset, hspeed]
  | some sipID =>
    by_cases hset : InTable (current h p)
    · simp [answer, hset]
    · have hspeed : .getSpeed ∈ current h p := by
        by_contra hspeed
        rw [hlookup.mpr ⟨hset, hspeed⟩] at hm
        cases hm
      simp [answer, hset, hspeed]

theorem getSpeed_keeps_iff (h : List Op) (p : Nat) :
    (getSpeed (tableAfter h) p).2 = tableAfter h ↔
      InTable (current h p) ∨ .getSpeed ∈ current h p := by
  have hlookup := @lookup_eq_none_iff h p
  unfold getSpeed
  cases hm : (tableAfter h).lookup p with
  | none =>
    obtain ⟨hset, hspeed⟩ := hlookup.mp hm
    refine iff_of_false (fun htouch => ?_) (by simp [hset, hspeed])
    have hentry := congrArg (fun m : MapID => m.lookup p) htouch
    simp [Map.lookup_touch, hm] at hentry
  | some sipID =>
    refine iff_of_true rfl ?_
    by_contra hno
    rw [not_or] at hno
    rw [hlookup.mpr hno] at hm
    cases hm

/-- **When the getters answer as the history says.** -/
theorem streamers_iff (h : List Op) (p : Nat) :
    (getPlayBackID (tableAfter h) p = answer Action.playBackID (-1, -1) (current h p) ↔
      (current h p).find? Action.makes ≠ some .getSpeed ∨
        ∃ a ∈ current h p, a.playBackID.isSome = true) ∧
    (getPlayStatus (tableAfter h) p = answer Action.playStatus 0 (current h p) ↔
      InTable (current h p) ∨ .getSpeed ∉ current h p) ∧
    ((getSpeed (tableAfter h) p).1 = answer Action.speed 0 (current h p) ↔
      ¬ InTable (current h p) ∧ .getSpeed ∈ current h p) ∧
    ((getSpeed (tableAfter h) p).2 = tableAfter h ↔
      InTable (current h p) ∨ .getSpeed ∈ current h p) ∧
    ¬ Lawful h p := by
  refine ⟨playBackID_iff h p, playStatus_iff h p, speed_iff h p, getSpeed_keeps_iff h p,
    fun hlaw => ?_⟩
  obtain ⟨hset, hspeed⟩ := (speed_iff h p).mp hlaw.speed
  rcases (playStatus_iff h p).mp hlaw.playStatus with hset' | hspeed'
  · exact hset hset'
  · exact hspeed' hspeed

/-- The speed that was set is not found. -/
theorem speed_is_lost :
    ¬ Lawful [⟨1, .setSpeed 0x40000000⟩] 1 := by
  intro hlaw
  have hspeed := hlaw.speed
  have hentry : (tableAfter [⟨1, .setSpeed 0x40000000⟩]).lookup 1 =
      some ⟨-1, -1, 0x40000000, 0⟩ := by
    rw [lookup_run]
    rfl
  rw [getSpeed, hentry] at hspeed
  exact absurd hspeed (by decide)

end GB28181.Lib.Streamers
