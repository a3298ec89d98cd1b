import Mathlib.Data.Nat.Find
import Mathlib.Order.Bounds.Basic

/-!
# A free pair of ports (`GB28181.Lib/ExternalInterface.cpp`)

`get_free_port` binds the ports from 6500 on, one after another, until it has found two.  A failure
at an even port skips the odd one behind it; a failure at an odd port leaves the even one before it
in the result.

* `nextEven` — the next even port that can be bound;
* `getFreePortLoop_even`, `getFreePortLoop_one` — the loop with no port and with one found, in terms
  of it;
* `getFreePort_eq` — **what is found**: the smallest free even port with its partner, or with the
  next free even port when the partner is taken;
* `freePair_iff` — this is the smallest free pair, or none when there is none, **exactly when the
  smallest free even port has a free partner or is the only free even port**.
-/

set_option autoImplicit false

namespace GB28181.Lib

/-- What the socket library answers for each port. -/
structure Sockets where
  socket : Nat → Bool
  bind : Nat → Bool
  getsockname : Nat → Bool

/-- Sockets can be made and asked for their name, whatever port is tried. -/
structure Sockets.Up (net : Sockets) : Prop where
  socket : ∀ port, net.socket port = true
  getsockname : ∀ port, net.getsockname port = true

/-- The loop of `get_free_port`, with the entries of `nPorts` that are filled in; `nPortCount` is
their number. -/
def getFreePortLoop (net : Sockets) (nIdx : Nat) (nPorts : List Nat) : Int × List Nat :=
  if nIdx < 65535 then
    if net.socket nIdx = false then (-1, nPorts)
    else if net.bind nIdx = false then
      -- the next one to try is even
      if nIdx % 2 = 0 then getFreePortLoop net (nIdx + 2) nPorts
      else getFreePortLoop net (nIdx + 1) nPorts
    else if net.getsockname nIdx = false then (-1, nPorts)
    else if 2 ≤ (nPorts ++ [nIdx]).length then (0, nPorts ++ [nIdx])
    else getFreePortLoop net (nIdx + 1) (nPorts ++ [nIdx])
  else (-1, nPorts)
  termination_by 65535 - nIdx

/-- `get_free_port`: the returned value and the ports. -/
def getFreePort (net : Sockets) : Int × List Nat := getFreePortLoop net 6500 []

/-! ## Even ports -/

/-- An even port from `low` on that can be bound. -/
structure FreeEven (net : Sockets) (low p : Nat) : Prop where
  even : p % 2 = 0
  low : low ≤ p
  high : p < 65535
  free : net.bind p = true

def nextEven (net : Sockets) (nIdx : Nat) : Option Nat :=
  if nIdx < 65535 then
    if net.bind nIdx = true then some nIdx else nextEven net (nIdx + 2)
  else none
  termination_by 65535 - nIdx

variable {net : Sockets} {nIdx p q : Nat}

/-- Where the first port cannot be bound, the search goes on behind its partner. -/
theorem freeEven_skip (heven : nIdx % 2 = 0) (hbind : net.bind nIdx = false) :
    FreeEven net nIdx p ↔ FreeEven net (nIdx + 2) p := by
  constructor
  · rintro ⟨hp, hlow, hhigh, hfree⟩
    have hne : p ≠ nIdx := by
      rintro rfl
      rw [hbind] at hfree
      cases hfree
    exact ⟨hp, by omega, hhigh, hfree⟩
  · rintro ⟨hp, hlow, hhigh, hfree⟩
    exact ⟨hp, by omega, hhigh, hfree⟩

theorem nextEven_eq_some (heven : nIdx % 2 = 0) (h : nextEven net nIdx = some p) :
    IsLeast {p | FreeEven net nIdx p} p := by
  induction nIdx using nextEven.induct net with
  | case1 nIdx hlt hbind =>
    rw [nextEven, if_pos hlt, if_pos hbind] at h
    cases h
    exact ⟨⟨heven, le_rfl, hlt, hbind⟩, fun q hq => hq.low⟩
  | case2 nIdx hlt hbind ih =>
    rw [nextEven, if_pos hlt, if_neg hbind] at h
    have hskip : ∀ q, FreeEven net nIdx q ↔ FreeEven net (nIdx + 2) q := fun q =>
      freeEven_skip heven (by simpa using hbind)
    simpa only [hskip] using ih (by omega) h
  | case3 nIdx hlt =>
    rw [nextEven, if_neg hlt] at h
    cases h

theorem nextEven_eq_none (heven : nIdx % 2 = 0) (h : nextEven net nIdx = none) :
    ∀ p, ¬ FreeEven net nIdx p := by
  induction nIdx using nextEven.induct net with
  | case1 nIdx hlt hbind =>
    rw [nextEven, if_pos hlt, if_pos hbind] at h
    cases h
  | case2 nIdx hlt hbind ih =>
    rw [nextEven, if_pos hlt, if_neg hbind] at h
    intro p hp
    exact ih (by omega) h p ((freeEven_skip heven (by simpa using hbind)).mp hp)
  | case3 nIdx hlt =>
    intro p hp
    have hlow := hp.low
    have hhigh := hp.high
    omega

/-! ## The loop -/

/-- With the ports found so far, the next port looked for is even: it is the first one from there
on that can be bound. -/
theorem getFreePortLoop_even (hup : net.Up) (heven : nIdx % 2 = 0) (nPorts : List Nat) :
    getFreePortLoop net nIdx nPorts =
      match nextEven net nIdx with
      | none => (-1, nPorts)
      | some p =>
        if 2 ≤ (nPorts ++ [p]).length then (0, nPorts ++ [p])
        else getFreePortLoop net (p + 1) (nPorts ++ [p]) := by
  induction nIdx using nextEven.induct net with
  | case1 nIdx hlt hbind =>
    rw [nextEven, if_pos hlt, if_pos hbind, getFreePortLoop]
    simp [hlt, hbind, hup.socket, hup.getsockname]
  | case2 nIdx hlt hbind ih =>
    rw [nextEven, if_pos hlt, if_neg hbind, ← ih (by omega), getFreePortLoop]
    simp [hlt, hbind, hup.socket, heven]
  | case3 nIdx hlt =>
    rw [nextEven, if_neg hlt, getFreePortLoop, if_neg hlt]

/-- With one port found, the partner is taken if it can be, else the next even port. -/
theorem getFreePortLoop_one (hup : net.Up) (heven : p % 2 = 0) (hp : p < 65535) :
    getFreePortLoop net (p + 1) [p] =
      if p + 1 < 65535 ∧ net.bind (p + 1) = true then (0, [p, p + 1])
      else
        match nextEven net (p + 2) with
        | none => (-1, [p])
        | some q => (0, [p, q]) := by
  have hodd : (p + 1) % 2 ≠ 0 := by omega
  have hrest : getFreePortLoop net (p + 2) [p] =
      match nextEven net (p + 2) with
      | none => (-1, [p])
      | some q => (0, [p, q]) := by
    rw [getFreePortLoop_even hup (by omega)]
    cases nextEven net (p + 2) <;> simp
  by_cases hlt : p + 1 < 65535
  · rw [getFreePortLoop, if_pos hlt]
    cases hbind : net.bind (p + 1) with
    | true => simp [hlt, hup.socket, hup.getsockname]
    | false =>
      rw [if_neg (by simp [hup.socket]), if_pos rfl, if_neg hodd, if_neg (by simp)]
      exact hrest
  · have hnone : nextEven net (p + 2) = none := by
      rw [nextEven, if_neg (by omega)]
    rw [getFreePortLoop, if_neg hlt, if_neg (fun h => hlt h.1), hnone]

/-- **What `get_free_port` finds.** -/
theorem getFreePort_eq (hup : net.Up) :
    getFreePort net =
      match nextEven net 6500 with
      | none => (-1, [])
      | some p =>
        if p + 1 < 65535 ∧ net.bind (p + 1) = true then (0, [p, p + 1])
        else
          match nextEven net (p + 2) with
          | none => (-1, [p])
          | some q => (0, [p, q]) := by
  rw [getFreePort, getFreePortLoop_even hup rfl]
  cases hnext : nextEven net 6500 with
  | none => rfl
  | some p =>
    obtain ⟨hp, -⟩ := nextEven_eq_some rfl hnext
    exact getFreePortLoop_one hup hp.even hp.high

/-! ## Pairs -/

/-- A pair of ports, the first one even, that can both be bound. -/
structure FreePair (net : Sockets) (p : Nat) : Prop where
  even : p % 2 = 0
  low : 6500 ≤ p
  high : p + 1 < 65535
  first : net.bind p = true
  second : net.bind (p + 1) = true

/-- The smallest free pair is returned, and -1 if there is none. -/
structure FindsPair (net : Sockets) : Prop where
  found : ∀ p, IsLeast {p | FreePair net p} p → getFreePort net = (0, [p, p + 1])
  none : (∀ p, ¬ FreePair net p) → (getFreePort net).1 = -1

/-- The smallest free even port has a free partner, or is the only free even port. -/
def PairFits (net : Sockets) : Prop :=
  ∀ p q, IsLeast {p | FreeEven net 6500 p} p → FreeEven net 6500 q → p ≠ q →
    net.bind (p + 1) = true

theorem FreePair.freeEven (h : FreePair net p) : FreeEven net 6500 p :=
  ⟨h.even, h.low, by have := h.high; omega, h.first⟩

/-- The other free even ports stand behind the partner of the smallest one. -/
theorem freeEven_behind (hp : IsLeast {p | FreeEven net 6500 p} p) :
    FreeEven net (p + 2) q ↔ FreeEven net 6500 q ∧ p ≠ q := by
  have heven := hp.1.even
  have hlow := hp.1.low
  constructor
  · rintro ⟨hq, hbehind, hhigh, hfree⟩
    exact ⟨⟨hq, by omega, hhigh, hfree⟩, by omega⟩
  · rintro ⟨hq, hne⟩
    have hle : p ≤ q := hp.2 hq
    have hq2 := hq.even
    exact ⟨hq.even, by omega, hq.high, hq.free⟩

/-- The smallest free even port has a free partner: this is the smallest pair. -/
theorem findsPair_of_partner (hp : IsLeast {p | FreeEven net 6500 p} p)
    (hpair : FreePair net p) (heq : getFreePort net = (0, [p, p + 1])) : FindsPair net := by
  constructor
  case found =>
    intro r hr
    have hrp : r = p := le_antisymm (hr.2 hpair) (hp.2 hr.1.freeEven)
    rw [heq, hrp]
  case none =>
    intro hno
    exact absurd hpair (hno p)

theorem findsPair_of_none (hno : ∀ p, ¬ FreePair net p) (heq : (getFreePort net).1 = -1) :
    FindsPair net where
  found r hr := absurd hr.1 (hno r)
  none _ := heq

theorem not_findsPair (hpq : p + 1 ≠ q) (heq : getFreePort net = (0, [p, q])) :
    ¬ FindsPair net := by
  rintro ⟨hfound, hnone⟩
  by_cases hex : ∃ r, FreePair net r
  · obtain ⟨r, hr⟩ : ∃ r, IsLeast {r | FreePair net r} r := by
      classical
      exact ⟨Nat.find hex, Nat.find_spec hex, fun s hs => Nat.find_min' hex hs⟩
    have hports := heq.symm.trans (hfound r hr)
    simp only [Prod.mk.injEq, List.cons.injEq, and_true, true_and] at hports
    omega
  · have hret := hnone fun r hr => hex ⟨r, hr⟩
    rw [heq] at hret
    cases hret

/-- **The smallest free pair is found exactly when the smallest free even port has a free partner
or there is no other free even port.** -/
theorem freePair_iff (hup : net.Up) : FindsPair net ↔ PairFits net := by
  have heq := getFreePort_eq hup
  cases hnext : nextEven net 6500 with
  | none =>
    have hnone := nextEven_eq_none rfl hnext
    rw [hnext] at heq
    apply iff_of_true
    · exact findsPair_of_none (fun p hp => hnone p hp.freeEven) (by rw [heq])
    · intro p q hp
      exact absurd hp.1 (hnone p)
  | some p =>
    have hp := nextEven_eq_some rfl hnext
    have hfirst : ∀ r, IsLeast {r | FreeEven net 6500 r} r → r = p := fun r hr => hr.unique hp
    have heven := hp.1.even
    rw [hnext] at heq
    dsimp only at heq
    by_cases hpartner : p + 1 < 65535 ∧ net.bind (p + 1) = true
    · rw [if_pos hpartner] at heq
      apply iff_of_true
      · exact findsPair_of_partner hp ⟨heven, hp.1.low, hpartner.1, hp.1.free, hpartner.2⟩ heq
      · intro r q hr _ _
        rw [hfirst r hr]
        exact hpartner.2
    rw [if_neg hpartner] at heq
    cases hnext2 : nextEven net (p + 2) with
    | none =>
      rw [hnext2] at heq
      have hbehind := nextEven_eq_none (by omega) hnext2
      have honly : ∀ q, FreeEven net 6500 q → p = q := by
        intro q hq
        by_contra hne
        exact hbehind q ((freeEven_behind hp).mpr ⟨hq, hne⟩)
      apply iff_of_true
      · refine findsPair_of_none (fun r hr => ?_) (by rw [heq])
        have hrp := honly r hr.freeEven
        subst hrp
        exact hpartner ⟨hr.high, hr.second⟩
      · intro r q hr hq hne
        exact absurd ((hfirst r hr).trans (honly q hq)) hne
    | some q =>
      rw [hnext2] at heq
      have hq := (nextEven_eq_some (by omega) hnext2).1
      have hlow := hq.low
      have hhigh := hq.high
      apply iff_of_false
      · exact not_findsPair (by omega) heq
      · intro hfits
        have hother := (freeEven_behind hp).mp hq
        exact hpartner ⟨by omega, hfits p q hp hother.1 hother.2⟩

def allFree : Sockets :=
  { socket := fun _ => true, bind := fun _ => true, getsockname := fun _ => true }

theorem freePair_allFree : allFree.Up ∧ (FindsPair allFree ↔ PairFits allFree) :=
  ⟨⟨fun _ => rfl, fun _ => rfl⟩, freePair_iff ⟨fun _ => rfl, fun _ => rfl⟩⟩

/-- Only the ports 6500 and 6502 are free. -/
def twoEven : Sockets :=
  { socket := fun _ => true
    bind := fun port => port == 6500 || port == 6502
    getsockname := fun _ => true }

/-- They are returned as a pair. -/
theorem twoEven_no_pair : twoEven.Up ∧ getFreePort twoEven = (0, [6500, 6502]) ∧
    ¬ FindsPair twoEven := by
  have hup : twoEven.Up := ⟨fun _ => rfl, fun _ => rfl⟩
  have hfirst : nextEven twoEven 6500 = some 6500 := by rw [nextEven]; rfl
  have hnext : nextEven twoEven 6502 = some 6502 := by rw [nextEven]; rfl
  have heq : getFreePort twoEven = (0, [6500, 6502]) := by
    rw [getFreePort_eq hup, hfirst]
    dsimp only
    rw [if_neg (by decide), hnext]
  refine ⟨hup, heq, fun h => ?_⟩
  have hret := h.none fun p hp => by
    have hfirst := hp.first
    have hsecond := hp.second
    simp only [twoEven, Bool.or_eq_true, beq_iff_eq] at hfirst hsecond
    omega
  rw [heq] at hret
  cases hret

end GB28181.Lib
