import Mathlib

/-!
# Timers that back off

A timer is started with a first length; each time it has run out it is started again with the next
length.  Who looks at the clock only now and then sees it run out late, never early.

* `interval`, `earliest` — the length after a number of firings, and how long after the start the
  timer has fired so often at the earliest;
* `Paced` — a timer with its length and its end, started so long ago and fired so often;
  `Paced.started`, `Paced.wait`, `Paced.slower` are its moves.

Principal result: `firings_le` — a timer that fired up to a deadline fired no more often than the
intervals allow.
-/

set_option autoImplicit false

namespace GB28181.Base

variable (next : Int → Int) (first : Int)

/-- The length of the timer after `k` firings. -/
def interval : Nat → Int
  | 0 => first
  | k + 1 => next (interval k)

/-- What has passed since the start, at the least, when the timer has fired `k` times: it is seen
to have run out only past its end. -/
def earliest : Nat → Int
  | 0 => 0
  | k + 1 => earliest k + interval next first k + 1

variable {next first}

theorem interval_nonneg (hfirst : 0 ≤ first) (hnext : ∀ x, 0 ≤ x → 0 ≤ next x) (k : Nat) :
    0 ≤ interval next first k := by
  induction k with
  | zero => exact hfirst
  | succ k ih => exact hnext _ ih

theorem interval_le {bound : Int} (hfirst : first ≤ bound) (hnext : ∀ x, next x ≤ bound)
    (k : Nat) : interval next first k ≤ bound := by
  cases k with
  | zero => exact hfirst
  | succ k => exact hnext _

theorem earliest_strictMono (hfirst : 0 ≤ first) (hnext : ∀ x, 0 ≤ x → 0 ≤ next x) :
    StrictMono (earliest next first) := by
  refine strictMono_nat_of_lt_succ fun k => ?_
  have hinterval := interval_nonneg hfirst hnext k
  rw [earliest]
  omega

/-- A timer that fired `k` times within a deadline that `n + 1` firings do not meet. -/
theorem firings_le (hfirst : 0 ≤ first) (hnext : ∀ x, 0 ≤ x → 0 ≤ next x) {k n : Nat}
    {deadline : Int} (hk : earliest next first k ≤ deadline)
    (hn : deadline < earliest next first (n + 1)) : k ≤ n := by
  have hlt : earliest next first k < earliest next first (n + 1) := hk.trans_lt hn
  exact Nat.lt_succ_iff.mp ((earliest_strictMono hfirst hnext).lt_iff_lt.mp hlt)

variable (next first)

/-- A timer that was started at `start` and has fired `k` times when the clock shows `now`, with
the length and the end it has got. -/
structure Paced (start : Int) (k : Nat) (now length stop : Int) : Prop where
  length : interval next first k ≤ length
  now : start + earliest next first k ≤ now
  stop : start + earliest next first k + interval next first k ≤ stop

namespace Paced

variable {next first} {start now now' length length' stop stop' : Int} {k : Nat}

theorem started (hlength : first ≤ length) (hnow : start ≤ now) (hstop : start + first ≤ stop) :
    Paced next first start 0 now length stop :=
  ⟨hlength, by simpa [earliest] using hnow, by simpa [earliest, interval] using hstop⟩

theorem wait (h : Paced next first start k now length stop) (hnow : now ≤ now') :
    Paced next first start k now' length stop :=
  ⟨h.length, h.now.trans hnow, h.stop⟩

/-- The timer is started anew before it has run out, with a length no shorter. -/
theorem slower (hnow : start + earliest next first k ≤ now)
    (hlength : interval next first k ≤ length) (hstop : now + length ≤ stop) :
    Paced next first start k now length stop :=
  ⟨hlength, hnow, by omega⟩

end Paced

end GB28181.Base
