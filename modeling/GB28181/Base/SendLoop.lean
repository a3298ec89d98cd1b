import Mathlib.Data.List.Basic

/-!
# Loops that send a buffer in pieces

A stream socket takes some prefix of the bytes it is offered, so a sender loops until nothing is
left.  What it offers when `left` items are left is a parameter, `offer left`; the results of the
calls are an input.

Principal results:

* `sendLoop_ret` — the loop ends, and returns `true` exactly when no call failed;
* `sent_prefix_iff` — what was accepted is a prefix of the buffer exactly when every piece is the
  part of the buffer that is due;
* `sent_length` — where no call failed, as much was accepted as there was to send.
-/

set_option autoImplicit false

namespace GB28181.Base

variable {α : Type}

/-- What a call of `send` returns: an error, or the number of items it accepted, zero where the
connection is closed. -/
inductive SendResult where
  | error
  | sent (n : Nat)
  deriving DecidableEq

/-- The result of a loop, `none` while it waits for another call, and the items accepted. -/
structure SendRun (α : Type) where
  ret : Option Bool
  sent : List α
  deriving DecidableEq

def sendLoop (offer : Nat → List α) : Nat → List SendResult → SendRun α
  | 0, _ => ⟨some true, []⟩
  | _ + 1, [] => ⟨none, []⟩
  | _ + 1, .error :: _ => ⟨some false, []⟩
  | _ + 1, .sent 0 :: _ => ⟨some false, []⟩
  | left + 1, .sent (n + 1) :: results =>
    let rest := sendLoop offer (left - n) results
    ⟨rest.ret, (offer (left + 1)).take (n + 1) ++ rest.sent⟩

/-- The results of all calls of a loop over `left` items: each accepts some of what is left until
nothing is, or the last one fails. -/
def Answers : List SendResult → Nat → Prop
  | [], left => left = 0
  | .error :: results, left => 0 < left ∧ results = []
  | .sent 0 :: results, left => 0 < left ∧ results = []
  | .sent (n + 1) :: results, left => n + 1 ≤ left ∧ Answers results (left - (n + 1))

def Fails (results : List SendResult) : Prop := .error ∈ results ∨ .sent 0 ∈ results

/-- The pieces accepted, each with the number of items accepted before it. -/
def pieces : Nat → List SendResult → List (Nat × Nat)
  | start, .sent (n + 1) :: results => (start, n + 1) :: pieces (start + (n + 1)) results
  | _, _ => []

instance decidableAnswers : ∀ (results : List SendResult) (left : Nat),
    Decidable (Answers results left)
  | [], left => inferInstanceAs (Decidable (left = 0))
  | .error :: results, left => inferInstanceAs (Decidable (0 < left ∧ results = []))
  | .sent 0 :: results, left => inferInstanceAs (Decidable (0 < left ∧ results = []))
  | .sent (n + 1) :: results, left =>
    have := decidableAnswers results (left - (n + 1))
    inferInstanceAs (Decidable (n + 1 ≤ left ∧ Answers results (left - (n + 1))))

instance (results : List SendResult) : Decidable (Fails results) :=
  inferInstanceAs (Decidable (_ ∨ _))

theorem sendLoop_sent (offer : Nat → List α) {left n : Nat} (h : n + 1 ≤ left)
    (results : List SendResult) :
    sendLoop offer left (.sent (n + 1) :: results) =
      ⟨(sendLoop offer (left - (n + 1)) results).ret,
        (offer left).take (n + 1) ++ (sendLoop offer (left - (n + 1)) results).sent⟩ := by
  obtain ⟨left, rfl⟩ : ∃ m, left = m + 1 := ⟨left - 1, by omega⟩
  rw [sendLoop, Nat.add_sub_add_right]

theorem sendLoop_fails (offer : Nat → List α) {left : Nat} (h : 0 < left) {r : SendResult}
    (hr : r = .error ∨ r = .sent 0) (results : List SendResult) :
    sendLoop offer left (r :: results) = ⟨some false, []⟩ := by
  obtain ⟨left, rfl⟩ : ∃ m, left = m + 1 := ⟨left - 1, by omega⟩
  rcases hr with rfl | rfl <;> rfl

/-- **The loop ends**, with `true` exactly when no call failed. -/
theorem sendLoop_ret (offer : Nat → List α) (results : List SendResult) :
    ∀ left : Nat, Answers results left →
      (sendLoop offer left results).ret = some (decide (¬ Fails results)) := by
  induction results with
  | nil =>
    intro left h
    obtain rfl : left = 0 := h
    rfl
  | cons r results ih =>
    intro left h
    match r, h with
    | .error, h =>
      rw [sendLoop_fails offer h.1 (Or.inl rfl)]
      simp [Fails]
    | .sent 0, h =>
      rw [sendLoop_fails offer h.1 (Or.inr rfl)]
      simp [Fails]
    | .sent (n + 1), h =>
      rw [sendLoop_sent offer h.1, ih _ h.2]
      simp [Fails]

theorem append_prefix_iff (a b l : List α) :
    a ++ b <+: l ↔ a = l.take a.length ∧ b <+: l.drop a.length := by
  constructor
  · rintro ⟨t, rfl⟩
    constructor
    · rw [List.append_assoc, List.take_left]
    · rw [List.append_assoc, List.drop_left]
      exact List.prefix_append b t
  · rintro ⟨ha, t, hb⟩
    refine ⟨t, ?_⟩
    rw [List.append_assoc, hb]
    calc a ++ l.drop a.length = l.take a.length ++ l.drop a.length := by rw [← ha]
      _ = l := List.take_append_drop _ _

/-- **What was accepted is in order** exactly when every piece is the part of the buffer due. -/
theorem sent_prefix_iff (buf : List α) (offer : Nat → List α)
    (hoffer : ∀ left, left ≤ buf.length → (offer left).length = left)
    (results : List SendResult) :
    ∀ start left : Nat, start + left = buf.length → Answers results left →
      ((sendLoop offer left results).sent <+: buf.drop start ↔
        ∀ p ∈ pieces start results,
          (offer (buf.length - p.1)).take p.2 = (buf.drop p.1).take p.2) := by
  induction results with
  | nil =>
    intro start left _ h
    obtain rfl : left = 0 := h
    simp [sendLoop, pieces]
  | cons r results ih =>
    intro start left hsum h
    match r, h with
    | .error, h =>
      rw [sendLoop_fails offer h.1 (Or.inl rfl)]
      simp [pieces]
    | .sent 0, h =>
      rw [sendLoop_fails offer h.1 (Or.inr rfl)]
      simp [pieces]
    | .sent (n + 1), h =>
      have hle := h.1
      have hrest := ih (start + (n + 1)) (left - (n + 1)) (by omega) h.2
      have hleft : buf.length - start = left := by omega
      have hlen : ((offer left).take (n + 1)).length = n + 1 := by
        rw [List.length_take, hoffer left (by omega), Nat.min_eq_left hle]
      rw [sendLoop_sent offer hle, pieces, List.forall_mem_cons, append_prefix_iff, hlen,
        List.drop_drop, hrest, hleft]

theorem sent_length (offer : Nat → List α) (results : List SendResult) :
    ∀ left : Nat, (∀ m, m ≤ left → (offer m).length = m) → Answers results left →
      ¬ Fails results → (sendLoop offer left results).sent.length = left := by
  induction results with
  | nil =>
    intro left _ h _
    obtain rfl : left = 0 := h
    rfl
  | cons r results ih =>
    intro left hoffer h hf
    match r, h with
    | .error, _ => exact absurd (Or.inl List.mem_cons_self) hf
    | .sent 0, _ => exact absurd (Or.inr List.mem_cons_self) hf
    | .sent (n + 1), h =>
      have hle := h.1
      have hrest : ¬ Fails results := fun hr =>
        hf (hr.imp (List.mem_cons_of_mem _) (List.mem_cons_of_mem _))
      have hlen := ih (left - (n + 1)) (fun m hm => hoffer m (by omega)) h.2 hrest
      rw [sendLoop_sent offer hle, List.length_append, List.length_take,
        hoffer left (Nat.le_refl _), hlen]
      omega

end GB28181.Base
