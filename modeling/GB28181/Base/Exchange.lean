import Mathlib.Data.List.Basic

/-!
# Exchanges of a request and a response

Two parties talk over a network that loses, repeats and reorders messages.  What matters of a run
is its trace: which messages each party put on the network, and what each showed to its user.

* `Label` — an entry of a trace;
* `Allowed`, `Legal` — the contract of an exchange: what may stand behind a trace.  One request is
  asked, however often; it is served once, after it was asked; one final response is given,
  however often; it is concluded once, after it was given; an acknowledgement follows a final
  response and is taken note of once.  `arrived` relates a message that was sent to what the other
  side receives of it;
* `LegalFrom` — the same for what is added to a trace; `legalFrom_append`, `legal_iff`;
* `Reach`, `Reach.legal` — two parties, each with an invariant that ties its state to the trace.
  When each keeps its own invariant and the contract, and neither disturbs the invariant of the
  other, every trace is legal.

Principal results: `Reach.legal`, and what a legal trace says: `Legal.serve_once`,
`Legal.conclude_once`, `Legal.agree`.
-/

set_option autoImplicit false

namespace GB28181.Base

/-- What a party sends (`ask`, `inform`, `answer`, `ack`) and what it shows to its user (`serve`,
`informed`, `conclude`, `acked`). -/
inductive Label (M : Type) where
  | ask (m : M)
  | serve (m : M)
  | inform (m : M)
  | informed (m : M)
  | answer (m : M)
  | conclude (m : M)
  | ack (m : M)
  | acked (m : M)
  deriving DecidableEq

def Label.ofClient {M : Type} : Label M → Bool
  | .ask _ | .informed _ | .conclude _ | .ack _ => true
  | .serve _ | .inform _ | .answer _ | .acked _ => false

section Contract

variable {M : Type} (arrived : M → M → Prop)

def Allowed (tr : List (Label M)) : Label M → Prop
  | .ask q => ∀ q', .ask q' ∈ tr → q' = q
  | .serve q => (∃ q₀, .ask q₀ ∈ tr ∧ arrived q₀ q) ∧ ∀ q', .serve q' ∉ tr
  | .inform _ => (∃ q, .serve q ∈ tr) ∧ ∀ r', .answer r' ∉ tr
  | .informed r => (∃ r₀, .inform r₀ ∈ tr ∧ arrived r₀ r) ∧ ∀ r', .conclude r' ∉ tr
  | .answer r => (∃ q, .serve q ∈ tr) ∧ ∀ r', .answer r' ∈ tr → r' = r
  | .conclude r => (∃ r₀, .answer r₀ ∈ tr ∧ arrived r₀ r) ∧ ∀ r', .conclude r' ∉ tr
  | .ack a => (∃ r, .answer r ∈ tr) ∧ ∀ a', .ack a' ∈ tr → a' = a
  | .acked a => (∃ a₀, .ack a₀ ∈ tr ∧ arrived a₀ a) ∧ ∀ a', .acked a' ∉ tr

/-- Every label of a continuation was allowed when it came. -/
def LegalFrom : List (Label M) → List (Label M) → Prop
  | _, [] => True
  | tr, l :: ls => Allowed arrived tr l ∧ LegalFrom (tr ++ [l]) ls

/-- Every label of a trace was allowed when it came. -/
def Legal (tr : List (Label M)) : Prop := LegalFrom arrived [] tr

variable {arrived}

@[simp] theorem legalFrom_nil (tr : List (Label M)) : LegalFrom arrived tr [] := trivial

@[simp] theorem legalFrom_cons (tr : List (Label M)) (l : Label M) (ls : List (Label M)) :
    LegalFrom arrived tr (l :: ls) ↔ Allowed arrived tr l ∧ LegalFrom arrived (tr ++ [l]) ls :=
  Iff.rfl

theorem legalFrom_append {tr ls ls' : List (Label M)} :
    LegalFrom arrived tr (ls ++ ls') ↔
      LegalFrom arrived tr ls ∧ LegalFrom arrived (tr ++ ls) ls' := by
  induction ls generalizing tr with
  | nil => simp
  | cons l ls ih =>
    rw [List.cons_append, legalFrom_cons, legalFrom_cons, ih, and_assoc, List.append_assoc,
      List.singleton_append]

/-- A trace is legal when what it was up to each of its labels allows that label. -/
theorem legal_iff {tr : List (Label M)} :
    Legal arrived tr ↔ ∀ pre l post, tr = pre ++ l :: post → Allowed arrived pre l := by
  constructor
  · rintro h pre l post rfl
    have hl : LegalFrom arrived pre (l :: post) := by
      simpa using (legalFrom_append.mp h).2
    exact hl.1
  · intro h
    have hfrom : ∀ ls pre, tr = pre ++ ls → LegalFrom arrived pre ls := by
      intro ls
      induction ls with
      | nil => intro pre _; trivial
      | cons l ls ih =>
        intro pre htr
        exact ⟨h pre l ls htr, ih (pre ++ [l]) (by rw [htr, List.append_assoc]; rfl)⟩
    exact hfrom tr [] rfl

/-! ## What a legal trace says -/

theorem Legal.serve_once {tr pre post : List (Label M)} {q q' : M} (h : Legal arrived tr)
    (htr : tr = pre ++ .serve q :: post) : .serve q' ∉ pre ∧ .serve q' ∉ post := by
  refine ⟨(legal_iff.mp h pre _ post htr).2 q', fun hq' => ?_⟩
  obtain ⟨mid, rest, rfl⟩ := List.append_of_mem hq'
  have hlater := (legal_iff.mp h (pre ++ .serve q :: mid) (.serve q') rest
    (by rw [htr]; simp)).2 q
  exact hlater (by simp)

theorem Legal.conclude_once {tr pre post : List (Label M)} {r r' : M} (h : Legal arrived tr)
    (htr : tr = pre ++ .conclude r :: post) : .conclude r' ∉ pre ∧ .conclude r' ∉ post := by
  refine ⟨(legal_iff.mp h pre _ post htr).2 r', fun hr' => ?_⟩
  obtain ⟨mid, rest, rfl⟩ := List.append_of_mem hr'
  have hlater := (legal_iff.mp h (pre ++ .conclude r :: mid) (.conclude r') rest
    (by rw [htr]; simp)).2 r
  exact hlater (by simp)

/-- Who concludes an exchange has the response of a server that served the request asked. -/
theorem Legal.agree {tr : List (Label M)} {r : M} (h : Legal arrived tr)
    (hr : .conclude r ∈ tr) :
    ∃ q₀ q r₀, .ask q₀ ∈ tr ∧ arrived q₀ q ∧ .serve q ∈ tr ∧ .answer r₀ ∈ tr ∧ arrived r₀ r := by
  obtain ⟨pre, post, rfl⟩ := List.append_of_mem hr
  obtain ⟨⟨r₀, hr₀, harr⟩, -⟩ := legal_iff.mp h pre _ post rfl
  obtain ⟨pre', post', rfl⟩ := List.append_of_mem hr₀
  obtain ⟨⟨q, hq⟩, -⟩ := legal_iff.mp h pre' (.answer r₀) (post' ++ .conclude r :: post) (by simp)
  obtain ⟨pre'', post'', rfl⟩ := List.append_of_mem hq
  obtain ⟨⟨q₀, hq₀, harr₀⟩, -⟩ := legal_iff.mp h pre'' (.serve q)
    (post'' ++ .answer r₀ :: (post' ++ .conclude r :: post)) (by simp)
  exact ⟨q₀, q, r₀, by simp [hq₀], harr₀, by simp, by simp, harr⟩

end Contract

section Parties

variable {M σ τ ι κ : Type} (cstep : ι → σ → σ × List (Label M))
  (sstep : κ → τ → τ × List (Label M)) (chears : List (Label M) → ι → Prop)
  (shears : List (Label M) → κ → Prop)

/-- The runs of two parties over a network: each acts when it likes, on whatever the trace so far
lets it hear. -/
inductive Reach (s₀ : σ) (t₀ : τ) : σ → τ → List (Label M) → Prop
  | start : Reach s₀ t₀ s₀ t₀ []
  | client {s : σ} {t : τ} {tr : List (Label M)} (i : ι) : Reach s₀ t₀ s t tr → chears tr i →
      Reach s₀ t₀ (cstep i s).1 t (tr ++ (cstep i s).2)
  | server {s : σ} {t : τ} {tr : List (Label M)} (k : κ) : Reach s₀ t₀ s t tr → shears tr k →
      Reach s₀ t₀ s (sstep k t).1 (tr ++ (sstep k t).2)

/-- A step of one party: it adds its own labels, which are legal and have the property, and keeps
its invariant. -/
structure KeepsContract (arrived : M → M → Prop) (mine : Bool) (P : Label M → Prop)
    (Inv : σ → List (Label M) → Prop) (tr : List (Label M)) (r : σ × List (Label M)) :
    Prop where
  inv : Inv r.1 (tr ++ r.2)
  legal : LegalFrom arrived tr r.2
  own : ∀ l ∈ r.2, l.ofClient = mine ∧ P l

variable {cstep sstep chears shears}

/-- What one label of the other party does not disturb, its labels do not. -/
theorem frame_append {Inv : σ → List (Label M) → Prop} {mine : Bool}
    (hframe : ∀ s tr l, Inv s tr → l.ofClient = mine → Inv s (tr ++ [l])) {s : σ}
    {tr ls : List (Label M)} (h : Inv s tr) (hls : ∀ l ∈ ls, l.ofClient = mine) :
    Inv s (tr ++ ls) := by
  induction ls generalizing tr with
  | nil => simpa using h
  | cons l ls ih =>
    rw [List.append_cons]
    exact ih (hframe s tr l h (hls l (by simp))) fun l' hl' => hls l' (by simp [hl'])

theorem Reach.legal {arrived : M → M → Prop} {P : Label M → Prop}
    {I : σ → List (Label M) → Prop} {J : τ → List (Label M) → Prop} {s₀ : σ} {t₀ : τ}
    (startC : I s₀ []) (startS : J t₀ [])
    (clientStep : ∀ s tr i, (∀ l ∈ tr, P l) → I s tr → chears tr i →
      KeepsContract arrived true P I tr (cstep i s))
    (serverStep : ∀ t tr k, (∀ l ∈ tr, P l) → J t tr → shears tr k →
      KeepsContract arrived false P J tr (sstep k t))
    (frameC : ∀ s tr l, I s tr → l.ofClient = false → I s (tr ++ [l]))
    (frameS : ∀ t tr l, J t tr → l.ofClient = true → J t (tr ++ [l]))
    {s : σ} {t : τ} {tr : List (Label M)}
    (h : Reach cstep sstep chears shears s₀ t₀ s t tr) :
    I s tr ∧ J t tr ∧ Legal arrived tr ∧ ∀ l ∈ tr, P l := by
  induction h with
  | start => exact ⟨startC, startS, trivial, by simp⟩
  | client i _ hears ih =>
    obtain ⟨hC, hS, hlegal, hP⟩ := ih
    have hstep := clientStep _ _ i hP hC hears
    refine ⟨hstep.inv, frame_append frameS hS fun l hl => (hstep.own l hl).1,
      legalFrom_append.mpr ⟨hlegal, by simpa using hstep.legal⟩, fun l hl => ?_⟩
    rcases List.mem_append.mp hl with hl | hl
    · exact hP l hl
    · exact (hstep.own l hl).2
  | server k _ hears ih =>
    obtain ⟨hC, hS, hlegal, hP⟩ := ih
    have hstep := serverStep _ _ k hP hS hears
    refine ⟨frame_append frameC hC fun l hl => (hstep.own l hl).1, hstep.inv,
      legalFrom_append.mpr ⟨hlegal, by simpa using hstep.legal⟩, fun l hl => ?_⟩
    rcases List.mem_append.mp hl with hl | hl
    · exact hP l hl
    · exact (hstep.own l hl).2

end Parties

end GB28181.Base
