import Mathlib.Data.List.Basic
import Mathlib.Order.RelClasses

/-!
# Recursive listings of a graph

A listing visits the things below a thing, each followed by the listing of what is below it.
Nothing makes the recursion end but the graph itself, so it runs with a bound on its depth.

* `collect` — one level: a partial function over a list, its results joined;
* `walk` — the listing, `none` where the bound is too small;
* `walk_returns_iff` — **some bound is enough exactly when there is no infinite descent**.
-/

set_option autoImplicit false

namespace GB28181.Base

variable {α β : Type}

/-- The results of `f` on the members of a list, joined. -/
def collect (f : α → Option (List β)) : List α → Option (List β)
  | [] => some []
  | a :: as => (f a).bind fun r => (collect f as).map (r ++ ·)

theorem collect_isSome_iff (f : α → Option (List β)) (as : List α) :
    (collect f as).isSome ↔ ∀ a ∈ as, (f a).isSome := by
  induction as with
  | nil => simp [collect]
  | cons a as ih =>
    rw [List.forall_mem_cons, ← ih, collect]
    cases f a with
    | none => simp
    | some r => simp

theorem collect_eq_some {f : α → Option (List β)} {as : List α} {l : List β}
    (h : collect f as = some l) :
    (∀ a ∈ as, f a = some ((f a).getD [])) ∧ l = as.flatMap fun a => (f a).getD [] := by
  induction as generalizing l with
  | nil =>
    obtain rfl := Option.some.inj h
    exact ⟨fun a ha => absurd ha List.not_mem_nil, rfl⟩
  | cons a as ih =>
    obtain ⟨r, hr, hrest⟩ := Option.bind_eq_some_iff.mp h
    obtain ⟨l', hl', rfl⟩ := Option.map_eq_some_iff.mp hrest
    obtain ⟨hall, rfl⟩ := ih hl'
    have hget : (f a).getD [] = r := by rw [hr, Option.getD_some]
    refine ⟨fun b hb => ?_, by rw [List.flatMap_cons, hget]⟩
    rcases List.mem_cons.mp hb with rfl | hb
    · rw [hget, hr]
    · exact hall b hb

theorem collect_head {f : α → Option β} {as : List α} (h : ∀ a ∈ as, (f a).isSome) :
    collect (fun a => (f a).map fun b => [b]) as = some (as.filterMap f) := by
  induction as with
  | nil => rfl
  | cons a as ih =>
    obtain ⟨ha, has⟩ := List.forall_mem_cons.mp h
    obtain ⟨b, hb⟩ := Option.isSome_iff_exists.mp ha
    rw [collect, ih has, List.filterMap_cons, hb]
    rfl

/-- The listing of what is below a thing: `next` lists a level, `deeper` tells whether the things
on it are followed further. -/
def walk (next : α → List α) (deeper : α → Bool) : Nat → α → Option (List α)
  | 0, _ => none
  | depth + 1, a =>
    collect (fun x => if deeper a then (walk next deeper depth x).map (x :: ·) else some [x])
      (next a)

/-- `x` is one of the things `a` is followed to. -/
def Below (next : α → List α) (deeper : α → Bool) (x a : α) : Prop :=
  deeper a = true ∧ x ∈ next a

variable {next : α → List α} {deeper : α → Bool}

theorem walk_succ_isSome_iff (depth : Nat) (a : α) :
    (walk next deeper (depth + 1) a).isSome ↔
      ∀ x, Below next deeper x a → (walk next deeper depth x).isSome := by
  rw [walk, collect_isSome_iff]
  unfold Below
  cases deeper a with
  | false => simp
  | true => simp

theorem exists_common_bound {P : α → Nat → Prop} {as : List α}
    (h : ∀ a ∈ as, ∃ N, ∀ n, N ≤ n → P a n) : ∃ N, ∀ a ∈ as, ∀ n, N ≤ n → P a n := by
  induction as with
  | nil => exact ⟨0, fun a ha => nomatch ha⟩
  | cons a as ih =>
    obtain ⟨N, hN⟩ := h a List.mem_cons_self
    obtain ⟨M, hM⟩ := ih fun b hb => h b (List.mem_cons_of_mem a hb)
    refine ⟨max N M, fun b hb n hn => ?_⟩
    rcases List.mem_cons.mp hb with rfl | hb
    · exact hN n (by omega)
    · exact hM b hb n (by omega)

theorem walk_returns_of_acc {a : α} (h : Acc (Below next deeper) a) :
    ∃ N, ∀ n, N ≤ n → (walk next deeper n a).isSome := by
  induction h with
  | intro a _ ih =>
    have hnext : ∀ x ∈ next a, ∃ N, ∀ n, N ≤ n →
        deeper a = true → (walk next deeper n x).isSome := by
      intro x hx
      by_cases hd : deeper a = true
      · obtain ⟨N, hN⟩ := ih x ⟨hd, hx⟩
        exact ⟨N, fun n hn _ => hN n hn⟩
      · exact ⟨0, fun n _ hd' => absurd hd' hd⟩
    obtain ⟨N, hN⟩ := exists_common_bound hnext
    refine ⟨N + 1, fun n hn => ?_⟩
    obtain ⟨m, rfl⟩ : ∃ m, n = m + 1 := ⟨n - 1, by omega⟩
    rw [walk_succ_isSome_iff]
    intro x hx
    exact hN x hx.2 m (by omega) hx.1

theorem acc_of_walk_isSome {depth : Nat} {a : α} (h : (walk next deeper depth a).isSome) :
    Acc (Below next deeper) a := by
  induction depth generalizing a with
  | zero => cases h
  | succ depth ih =>
    rw [walk_succ_isSome_iff] at h
    constructor
    intro x hx
    exact ih (h x hx)

/-- **A listing ends** exactly when there is no infinite descent below its start. -/
theorem walk_returns_iff (a : α) :
    (∃ depth, (walk next deeper depth a).isSome) ↔ Acc (Below next deeper) a := by
  constructor
  · rintro ⟨depth, h⟩
    exact acc_of_walk_isSome h
  · intro h
    obtain ⟨N, hN⟩ := walk_returns_of_acc h
    exact ⟨N, hN N (Nat.le_refl N)⟩

theorem collect_returns_iff (g : α → List α) (as : List α) :
    (∃ depth, (collect (fun x => (walk next deeper depth x).map (g x ++ ·)) as).isSome) ↔
      ∀ a ∈ as, Acc (Below next deeper) a := by
  constructor
  · rintro ⟨depth, h⟩ a ha
    have hs := (collect_isSome_iff _ as).mp h a ha
    rw [Option.isSome_map] at hs
    exact acc_of_walk_isSome hs
  · intro h
    obtain ⟨N, hN⟩ := exists_common_bound fun a ha => walk_returns_of_acc (h a ha)
    refine ⟨N, (collect_isSome_iff _ as).mpr fun a ha => ?_⟩
    rw [Option.isSome_map]
    exact hN a ha N (Nat.le_refl N)

end GB28181.Base
