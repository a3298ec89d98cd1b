import Mathlib.Data.List.Basic

/-!
# Networks of rounds

A network applies a round for each of a list of subkeys and exchanges the halves of the state
between two rounds.  Nothing is asked of a round but that it undoes itself.

* `rounds_reverse` — the subkeys in opposite order undo the network;
* `foldl_exchange` — a network that exchanges after each round differs by one exchange;
* `rounds_map` — a network seen through a map of the states;
* `rounds_palindrome` — a network whose subkeys read the same backwards returns a state that is
  symmetric in the middle.
-/

set_option autoImplicit false

namespace GB28181.Base

variable {σ κ : Type}

/-- A round for each subkey, with an exchange after each but the last. -/
def rounds (turn : κ → σ → σ) (swap : σ → σ) : List κ → σ → σ
  | [], s => s
  | [k], s => turn k s
  | k :: k' :: ks, s => rounds turn swap (k' :: ks) (swap (turn k s))

section

variable {turn : κ → σ → σ} {swap : σ → σ}

theorem rounds_cons {ks : List κ} (h : ks ≠ []) (k : κ) (s : σ) :
    rounds turn swap (k :: ks) s = rounds turn swap ks (swap (turn k s)) := by
  cases ks with
  | nil => exact absurd rfl h
  | cons k' ks => rfl

theorem rounds_concat {ks : List κ} (h : ks ≠ []) (k : κ) (s : σ) :
    rounds turn swap (ks ++ [k]) s = turn k (swap (rounds turn swap ks s)) := by
  induction ks generalizing s with
  | nil => exact absurd rfl h
  | cons k' ks ih =>
    rw [List.cons_append, rounds_cons (List.concat_ne_nil k ks)]
    rcases eq_or_ne ks [] with rfl | hks
    · rfl
    · rw [ih hks, rounds_cons hks]

/-- **The subkeys in opposite order undo the network.** -/
theorem rounds_reverse (hturn : ∀ k s, turn k (turn k s) = s) (hswap : ∀ s, swap (swap s) = s)
    (ks : List κ) (s : σ) : rounds turn swap ks.reverse (rounds turn swap ks s) = s := by
  induction ks generalizing s with
  | nil => rfl
  | cons k ks ih =>
    rw [List.reverse_cons]
    rcases eq_or_ne ks [] with rfl | hks
    · exact hturn k s
    · have hrev : ks.reverse ≠ [] := fun h => hks (List.reverse_eq_nil_iff.mp h)
      rw [rounds_cons hks, rounds_concat hrev, ih, hswap, hturn]

theorem foldl_exchange {ks : List κ} (h : ks ≠ []) (s : σ) :
    ks.foldl (fun s k => swap (turn k s)) s = swap (rounds turn swap ks s) := by
  induction ks generalizing s with
  | nil => exact absurd rfl h
  | cons k ks ih =>
    rw [List.foldl_cons]
    rcases eq_or_ne ks [] with rfl | hks
    · rfl
    · rw [ih hks, rounds_cons hks]

theorem rounds_map {σ' κ' : Type} {turn' : κ' → σ' → σ'} {swap' : σ' → σ'} {g : σ → σ'} {h : κ → κ'}
    (hturn : ∀ k s, g (turn k s) = turn' (h k) (g s)) (hswap : ∀ s, g (swap s) = swap' (g s))
    (ks : List κ) (s : σ) :
    g (rounds turn swap ks s) = rounds turn' swap' (ks.map h) (g s) := by
  induction ks generalizing s with
  | nil => rfl
  | cons k ks ih =>
    rcases eq_or_ne ks [] with rfl | hks
    · exact hturn k s
    · have hmap : ks.map h ≠ [] := fun e => hks (List.map_eq_nil_iff.mp e)
      rw [rounds_cons hks, List.map_cons, rounds_cons hmap, ih, hswap, hturn]

theorem rounds_append {ks ks' : List κ} (h : ks ≠ []) (h' : ks' ≠ []) (s : σ) :
    rounds turn swap (ks ++ ks') s = rounds turn swap ks' (swap (rounds turn swap ks s)) := by
  induction ks generalizing s with
  | nil => exact absurd rfl h
  | cons k ks ih =>
    rw [List.cons_append, rounds_cons (List.append_ne_nil_of_right_ne_nil ks h')]
    rcases eq_or_ne ks [] with rfl | hks
    · rfl
    · rw [ih hks, rounds_cons hks]

/-- **The second half of the network undoes the first one**, up to a map of states and subkeys under
which the subkeys read the same backwards, where the exchange in the middle is that map. -/
theorem rounds_palindrome {c : σ → σ} {d : κ → κ} (hturn : ∀ k s, turn k (turn k s) = s)
    (hswap : ∀ s, swap (swap s) = s) (hcturn : ∀ k s, c (turn k s) = turn (d k) (c s))
    (hcswap : ∀ s, c (swap s) = swap (c s)) {ks : List κ} (hks : ks ≠ []) {s : σ}
    (hmiddle : swap (rounds turn swap ks s) = c (rounds turn swap ks s)) :
    rounds turn swap (ks ++ (ks.map d).reverse) s = c s := by
  have hback : (ks.map d).reverse ≠ [] := fun h =>
    hks (List.map_eq_nil_iff.mp (List.reverse_eq_nil_iff.mp h))
  rw [rounds_append hks hback, hmiddle, ← List.map_reverse, ← rounds_map hcturn hcswap,
    rounds_reverse hturn hswap]

end

end GB28181.Base
