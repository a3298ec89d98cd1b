import GB28181.Base.CString
import Mathlib.Algebra.Order.BigOperators.Group.List
import Mathlib.Algebra.Order.Ring.Nat
import Mathlib.Data.List.TakeWhile

/-!
# The tokens of an SQL text

`tokens` reads a text by SQLite's rules: words, string literals in single quotes with `''` for a
quote, quoted names, comments, and single bytes for all other signs.  The text ends at its first
NUL.

* `Reads` — a piece of a text that gives its tokens whatever follows it;
* `cost_tokens_le` — a literal costs its two quotes and two more for every quote it denotes, so
  **literals are paid for by the quotes of the text**;
* `Quoting.plain_of_literals` — where values are put between quotes and as many texts, with as many
  quotes at least, come out as the literals, none of the values has a quote or a NUL.
-/

set_option autoImplicit false

namespace GB28181.Base.Sql

def quote : UInt8 := 0x27

inductive Token where
  | word (w : CStr)
  | op (b : UInt8)
  | literal (v : CStr)
  | quoted (name : CStr)
  | unterminated
  deriving DecidableEq

/-- What the tokeniser is in the middle of. -/
inductive Mode where
  | code (cur : CStr)
  | minus
  | slash
  | text (v : CStr)
  | textQuote (v : CStr)
  | name (close : UInt8) (v : CStr)
  | nameQuote (close : UInt8) (v : CStr)
  | line
  | block
  | blockStar
  deriving DecidableEq

/-- Letters, digits, `_`, `$` and the bytes from 0x80 on. -/
def wordByte (b : UInt8) : Bool :=
  isDigit b || (0x41 ≤ b && b ≤ 0x5a) || (0x61 ≤ b && b ≤ 0x7a) || b == 0x5f || b == 0x24 ||
    0x80 ≤ b

def flush : CStr → List Token
  | [] => []
  | cur => [.word cur]

def start (b : UInt8) : List Token × Mode :=
  if isSpace b then ([], .code [])
  else if b = quote then ([], .text [])
  else if b = 0x22 ∨ b = 0x60 then ([], .name b [])
  else if b = 0x5b then ([], .name 0x5d [])
  else if b = 0x2d then ([], .minus)
  else if b = 0x2f then ([], .slash)
  else ([.op b], .code [])

def codeStep (cur : CStr) (b : UInt8) : List Token × Mode :=
  if wordByte b then ([], .code (cur ++ [b])) else (flush cur ++ (start b).1, (start b).2)

/-- A byte after a token that is complete. -/
def after (t : Token) (b : UInt8) : List Token × Mode := (t :: (codeStep [] b).1, (codeStep [] b).2)

def step : Mode → UInt8 → List Token × Mode
  | .code cur, b => codeStep cur b
  | .minus, b => if b = 0x2d then ([], .line) else after (.op 0x2d) b
  | .slash, b => if b = 0x2a then ([], .block) else after (.op 0x2f) b
  | .text v, b => if b = quote then ([], .textQuote v) else ([], .text (v ++ [b]))
  | .textQuote v, b => if b = quote then ([], .text (v ++ [b])) else after (.literal v) b
  | .name close v, b =>
    if b = close then ([], .nameQuote close v) else ([], .name close (v ++ [b]))
  | .nameQuote close v, b =>
    if b = close ∧ close ≠ 0x5d then ([], .name close (v ++ [b])) else after (.quoted v) b
  | .line, b => if b = 0x0a then ([], .code []) else ([], .line)
  | .block, b => if b = 0x2a then ([], .blockStar) else ([], .block)
  | .blockStar, b =>
    if b = 0x2f then ([], .code []) else if b = 0x2a then ([], .blockStar) else ([], .block)

section step

variable (b close : UInt8) (v : CStr)

theorem step_minus : step .minus b = if b = 0x2d then ([], .line) else after (.op 0x2d) b := rfl

theorem step_slash : step .slash b = if b = 0x2a then ([], .block) else after (.op 0x2f) b := rfl

theorem step_text : step (.text v) b =
    if b = quote then ([], .textQuote v) else ([], .text (v ++ [b])) := rfl

theorem step_textQuote : step (.textQuote v) b =
    if b = quote then ([], .text (v ++ [b])) else after (.literal v) b := rfl

theorem step_name : step (.name close v) b =
    if b = close then ([], .nameQuote close v) else ([], .name close (v ++ [b])) := rfl

theorem step_nameQuote : step (.nameQuote close v) b =
    if b = close ∧ close ≠ 0x5d then ([], .name close (v ++ [b])) else after (.quoted v) b := rfl

theorem step_line : step .line b = if b = 0x0a then ([], .code []) else ([], .line) := rfl

theorem step_block : step .block b = if b = 0x2a then ([], .blockStar) else ([], .block) := rfl

theorem step_blockStar : step .blockStar b =
    if b = 0x2f then ([], .code []) else if b = 0x2a then ([], .blockStar) else ([], .block) := rfl

end step

def finish : Mode → List Token
  | .code cur => flush cur
  | .minus => [.op 0x2d]
  | .slash => [.op 0x2f]
  | .text _ => [.unterminated]
  | .textQuote v => [.literal v]
  | .name _ _ => [.unterminated]
  | .nameQuote _ v => [.quoted v]
  | .line => []
  | .block => []
  | .blockStar => []

def lex : Mode → CStr → List Token
  | m, [] => finish m
  | m, b :: rest => (step m b).1 ++ lex (step m b).2 rest

/-- **The tokens of a text.** -/
def tokens (text : CStr) : List Token := lex (.code []) (cStr text)

def literals (ts : List Token) : List CStr :=
  ts.filterMap fun
    | .literal v => some v
    | _ => none

/-- The tokens apart from the contents of the string literals. -/
def skeleton (ts : List Token) : List Token :=
  ts.map fun
    | .literal _ => .literal []
    | t => t

theorem literals_append (ts us : List Token) : literals (ts ++ us) = literals ts ++ literals us :=
  List.filterMap_append ..

theorem skeleton_append (ts us : List Token) : skeleton (ts ++ us) = skeleton ts ++ skeleton us :=
  List.map_append ..

theorem literals_skeleton (ts : List Token) :
    literals (skeleton ts) = (literals ts).map fun _ => [] := by
  induction ts with
  | nil => rfl
  | cons t ts ih =>
    cases t with
    | literal v => exact congrArg (([] : CStr) :: ·) ih
    | _ => exact ih

/-- The tokens but for the contents of the literals say how many there are. -/
theorem length_literals_of_skeleton {ts us : List Token} (h : skeleton ts = skeleton us) :
    (literals ts).length = (literals us).length := by
  have hlit := congrArg (fun ts => (literals ts).length) h
  simpa only [literals_skeleton, List.length_map] using hlit

/-! ## Pieces of a text -/

/-- A piece without NUL that gives its tokens whatever follows it. -/
structure Reads (c : CStr) (ts : List Token) : Prop where
  no_nul : (0 : UInt8) ∉ c
  lex_append : ∀ rest, lex (.code []) (c ++ rest) = ts ++ lex (.code []) rest

theorem Reads.nil : Reads [] [] := ⟨List.not_mem_nil, fun _ => rfl⟩

theorem Reads.append {c d : CStr} {ts us : List Token} (hc : Reads c ts) (hd : Reads d us) :
    Reads (c ++ d) (ts ++ us) := by
  refine ⟨fun h => ?_, fun rest => ?_⟩
  · rcases List.mem_append.mp h with h | h
    · exact hc.no_nul h
    · exact hd.no_nul h
  · rw [List.append_assoc, hc.lex_append, hd.lex_append, List.append_assoc]

theorem Reads.tokens_eq {c : CStr} {ts : List Token} (h : Reads c ts) : tokens c = ts := by
  have hc : cStr c = c := cStr_eq_self h.no_nul
  have hlex := h.lex_append []
  rw [List.append_nil] at hlex
  unfold tokens
  rw [hc, hlex]
  exact List.append_nil ts

theorem lex_word {w : CStr} (hw : ∀ b ∈ w, wordByte b = true) (cur rest : CStr) :
    lex (.code cur) (w ++ rest) = lex (.code (cur ++ w)) rest := by
  induction w generalizing cur with
  | nil => rw [List.append_nil, List.nil_append]
  | cons b w ih =>
    obtain ⟨hb, hw'⟩ := List.forall_mem_cons.mp hw
    have hstep : step (.code cur) b = ([], .code (cur ++ [b])) := if_pos hb
    rw [List.cons_append, lex, hstep, List.nil_append, ih hw', List.append_assoc]
    rfl

theorem flush_of_ne_nil {w : CStr} (h : w ≠ []) : flush w = [.word w] := by
  cases w with
  | nil => exact absurd rfl h
  | cons b w => rfl

theorem wordByte_zero : wordByte 0 = false := rfl

theorem not_mem_of_wordByte {w : CStr} (hw : ∀ b ∈ w, wordByte b = true) {b : UInt8}
    (hb : wordByte b = false) : b ∉ w := by
  intro h
  rw [hw b h] at hb
  cases hb

theorem step_code {d : UInt8} (hd : wordByte d = false) (cur : CStr) :
    step (.code cur) d = (flush cur ++ (start d).1, (start d).2) := by
  show codeStep cur d = _
  unfold codeStep
  rw [hd]
  rfl

theorem Reads.word {w c : CStr} {d : UInt8} {ts : List Token} (hne : w ≠ [])
    (hw : ∀ b ∈ w, wordByte b = true) (hd : wordByte d = false) (h : Reads (d :: c) ts) :
    Reads (w ++ d :: c) (.word w :: ts) := by
  refine ⟨fun hmem => ?_, fun rest => ?_⟩
  · rcases List.mem_append.mp hmem with hmem | hmem
    · exact not_mem_of_wordByte hw wordByte_zero hmem
    · exact h.no_nul hmem
  · have hlex := h.lex_append rest
    rw [List.append_assoc, lex_word hw, List.nil_append]
    rw [List.cons_append] at hlex ⊢
    rw [lex, step_code hd] at hlex ⊢
    rw [flush_of_ne_nil hne]
    exact congrArg (Token.word w :: ·) hlex

theorem lex_text {v : CStr} (hv : quote ∉ v) (u rest : CStr) :
    lex (.text u) (v ++ quote :: rest) = lex (.textQuote (u ++ v)) rest := by
  induction v generalizing u with
  | nil =>
    rw [List.nil_append, List.append_nil, lex]
    rfl
  | cons b v ih =>
    have hb : b ≠ quote := fun h => hv (h ▸ List.mem_cons_self)
    have hv' : quote ∉ v := fun h => hv (List.mem_cons_of_mem _ h)
    have hstep : step (.text u) b = ([], .text (u ++ [b])) := if_neg hb
    rw [List.cons_append, lex, hstep, List.nil_append, ih hv', List.append_assoc]
    rfl

theorem Reads.literal {v c : CStr} {d : UInt8} {ts : List Token} (hv : quote ∉ v)
    (hv0 : (0 : UInt8) ∉ v) (hd : d ≠ quote) (h : Reads (d :: c) ts) :
    Reads (quote :: v ++ quote :: d :: c) (.literal v :: ts) := by
  refine ⟨fun hmem => ?_, fun rest => ?_⟩
  · rcases List.mem_append.mp hmem with hmem | hmem
    · rcases List.mem_cons.mp hmem with hmem | hmem
      · cases hmem
      · exact hv0 hmem
    · rcases List.mem_cons.mp hmem with hmem | hmem
      · cases hmem
      · exact h.no_nul hmem
  · have hlex := h.lex_append rest
    have hopen : step (.code []) quote = ([], .text []) := rfl
    have hclose : step (.textQuote v) d = after (.literal v) d := if_neg hd
    rw [List.cons_append, List.cons_append, lex, hopen, List.nil_append, List.append_assoc,
      List.cons_append, lex_text hv, List.nil_append]
    rw [List.cons_append] at hlex ⊢
    rw [lex] at hlex ⊢
    rw [hclose]
    exact congrArg (Token.literal v :: ·) hlex

/-! ## Pieces that end in a word or between tokens -/

def emitted : Mode → CStr → List Token
  | _, [] => []
  | m, b :: rest => (step m b).1 ++ emitted (step m b).2 rest

/-- What the tokeniser is in the middle of after a piece. -/
def modeAfter : Mode → CStr → Mode
  | m, [] => m
  | m, b :: rest => modeAfter (step m b).2 rest

theorem lex_eq_emitted (m : Mode) (c rest : CStr) :
    lex m (c ++ rest) = emitted m c ++ lex (modeAfter m c) rest := by
  induction c generalizing m with
  | nil => rfl
  | cons b c ih => rw [List.cons_append, lex, ih, emitted, modeAfter, List.append_assoc]

theorem modeAfter_append (m : Mode) (c d : CStr) :
    modeAfter m (c ++ d) = modeAfter (modeAfter m c) d := by
  induction c generalizing m with
  | nil => rfl
  | cons b c ih => exact ih (step m b).2

/-- A piece that ends in a word or between tokens, wherever it starts so. -/
def Open (c : CStr) : Prop := ∀ cur, ∃ cur', modeAfter (.code cur) c = .code cur'

theorem Open.append {c d : CStr} (hc : Open c) (hd : Open d) : Open (c ++ d) := by
  intro cur
  obtain ⟨cur', hcur'⟩ := hc cur
  obtain ⟨cur'', hcur''⟩ := hd cur'
  exact ⟨cur'', by rw [modeAfter_append, hcur', hcur'']⟩

/-- A byte after which the tokeniser is in a word or between tokens. -/
def PlainByte (b : UInt8) : Prop := wordByte b = true ∨ (start b).2 = .code []

theorem open_of_forall {c : CStr} (h : ∀ b ∈ c, PlainByte b) : Open c := by
  induction c with
  | nil => exact fun cur => ⟨cur, rfl⟩
  | cons b c ih =>
    obtain ⟨hb, hc⟩ := List.forall_mem_cons.mp h
    intro cur
    have hstep : ∃ cur₁, (step (.code cur) b).2 = .code cur₁ := by
      show ∃ cur₁, (codeStep cur b).2 = _
      unfold codeStep
      by_cases hword : wordByte b = true
      · exact ⟨cur ++ [b], by rw [if_pos hword]⟩
      · refine ⟨[], ?_⟩
        rw [if_neg hword]
        exact hb.resolve_left hword
    obtain ⟨cur₁, hcur₁⟩ := hstep
    obtain ⟨cur₂, hcur₂⟩ := ih hc cur₁
    exact ⟨cur₂, by rw [modeAfter, hcur₁, hcur₂]⟩

theorem Reads.raw {r c : CStr} {d : UInt8} {ts : List Token} (hr : Open r)
    (hr0 : (0 : UInt8) ∉ r) (hd : wordByte d = false) (h : Reads (d :: c) ts) :
    Reads (r ++ d :: c) (lex (.code []) r ++ ts) := by
  obtain ⟨cur, hcur⟩ := hr []
  refine ⟨fun hmem => ?_, fun rest => ?_⟩
  · rcases List.mem_append.mp hmem with hmem | hmem
    · exact hr0 hmem
    · exact h.no_nul hmem
  · have hlex := h.lex_append rest
    have hwhole : lex (.code []) r = emitted (.code []) r ++ flush cur := by
      have hnil := lex_eq_emitted (.code []) r []
      rw [List.append_nil, hcur] at hnil
      exact hnil
    rw [List.append_assoc, lex_eq_emitted, hcur, hwhole]
    rw [List.cons_append] at hlex ⊢
    rw [lex, step_code hd] at hlex ⊢
    rw [List.append_assoc, List.append_assoc, ← hlex]
    simp only [flush, List.nil_append, List.append_assoc]

theorem Reads.op {b : UInt8} (hb : b ≠ 0) (hstep : step (.code []) b = ([.op b], .code [])) :
    Reads [b] [.op b] := by
  refine ⟨fun h => hb (List.mem_singleton.mp h).symm, fun rest => ?_⟩
  rw [List.singleton_append, lex, hstep]

theorem Reads.blank : Reads [0x20] [] := by
  refine ⟨by decide, fun rest => ?_⟩
  rw [List.singleton_append, lex]
  rfl

/-! ## What a literal costs -/

def quotes (c : CStr) : Nat := c.count quote

theorem quotes_append (c d : CStr) : quotes (c ++ d) = quotes c + quotes d := List.count_append ..

theorem quotes_cons (b : UInt8) (c : CStr) :
    quotes (b :: c) = quotes c + if b = quote then 1 else 0 := by
  unfold quotes
  rw [List.count_cons]
  by_cases hb : b = quote
  · simp [hb]
  · simp [hb]

/-- The quotes of the shortest text with these literals. -/
def cost (ts : List Token) : Nat := ((literals ts).map fun v => 2 + 2 * quotes v).sum

theorem cost_append (ts us : List Token) : cost (ts ++ us) = cost ts + cost us := by
  unfold cost
  rw [literals_append, List.map_append, List.sum_append]

/-- What the literal in the making has cost so far. -/
def credit : Mode → Nat
  | .text v => 1 + 2 * quotes v
  | .textQuote v => 2 + 2 * quotes v
  | _ => 0

theorem start_cost (b : UInt8) :
    cost (start b).1 + credit (start b).2 ≤ if b = quote then 1 else 0 := by
  unfold start
  by_cases hquote : b = quote
  · subst hquote
    decide
  · rw [if_neg hquote, if_neg hquote]
    split_ifs <;> exact Nat.le_refl 0

theorem flush_cost (cur : CStr) : cost (flush cur) = 0 := by
  cases cur with
  | nil => rfl
  | cons b cur => rfl

theorem codeStep_cost (cur : CStr) (b : UInt8) :
    cost (codeStep cur b).1 + credit (codeStep cur b).2 ≤ if b = quote then 1 else 0 := by
  unfold codeStep
  by_cases hword : wordByte b = true
  · rw [if_pos hword]
    exact Nat.zero_le _
  · rw [if_neg hword, cost_append, flush_cost, Nat.zero_add]
    exact start_cost b

theorem after_cost (t : Token) (b : UInt8) :
    cost (after t b).1 + credit (after t b).2 ≤ cost [t] + if b = quote then 1 else 0 := by
  have h := codeStep_cost [] b
  have happend : cost (after t b).1 = cost [t] + cost (codeStep [] b).1 := cost_append [t] _
  rw [happend]
  have hmode : (after t b).2 = (codeStep [] b).2 := rfl
  rw [hmode]
  omega

theorem ite_cost {p : Prop} [Decidable p] {x y : List Token × Mode} {n : Nat}
    (hx : cost x.1 + credit x.2 ≤ n) (hy : cost y.1 + credit y.2 ≤ n) :
    cost (if p then x else y).1 + credit (if p then x else y).2 ≤ n := by
  by_cases hp : p
  · rwa [if_pos hp]
  · rwa [if_neg hp]

theorem step_cost (m : Mode) (b : UInt8) :
    cost (step m b).1 + credit (step m b).2 ≤ credit m + if b = quote then 1 else 0 := by
  cases m with
  | code cur =>
    have h := codeStep_cost cur b
    exact Nat.le_trans h (Nat.le_add_left _ _)
  | minus =>
    rw [step_minus]
    exact ite_cost (Nat.zero_le _) (after_cost _ _)
  | slash =>
    rw [step_slash]
    exact ite_cost (Nat.zero_le _) (after_cost _ _)
  | text v =>
    by_cases hb : b = quote
    · have hstep : step (.text v) b = ([], .textQuote v) := if_pos hb
      rw [hstep, if_pos hb]
      show 0 + (2 + 2 * quotes v) ≤ 1 + 2 * quotes v + 1
      omega
    · have hstep : step (.text v) b = ([], .text (v ++ [b])) := if_neg hb
      have hquotes : quotes (v ++ [b]) = quotes v := by
        rw [quotes_append, quotes_cons, if_neg hb]
        rfl
      rw [hstep, if_neg hb]
      show 0 + (1 + 2 * quotes (v ++ [b])) ≤ 1 + 2 * quotes v + 0
      omega
  | textQuote v =>
    by_cases hb : b = quote
    · have hstep : step (.textQuote v) b = ([], .text (v ++ [b])) := if_pos hb
      have hquotes : quotes (v ++ [b]) = quotes v + 1 := by
        rw [quotes_append, quotes_cons, if_pos hb]
        rfl
      rw [hstep, if_pos hb]
      show 0 + (1 + 2 * quotes (v ++ [b])) ≤ 2 + 2 * quotes v + 1
      omega
    · have hstep : step (.textQuote v) b = after (.literal v) b := if_neg hb
      rw [hstep]
      exact after_cost _ _
  | name close v =>
    rw [step_name]
    exact ite_cost (Nat.zero_le _) (Nat.zero_le _)
  | nameQuote close v =>
    rw [step_nameQuote]
    exact ite_cost (Nat.zero_le _) (after_cost _ _)
  | line =>
    rw [step_line]
    exact ite_cost (Nat.zero_le _) (Nat.zero_le _)
  | block =>
    rw [step_block]
    exact ite_cost (Nat.zero_le _) (Nat.zero_le _)
  | blockStar =>
    rw [step_blockStar]
    exact ite_cost (Nat.zero_le _) (ite_cost (Nat.zero_le _) (Nat.zero_le _))

theorem finish_cost (m : Mode) : cost (finish m) ≤ credit m := by
  cases m with
  | code cur => exact Nat.le_of_eq (flush_cost cur)
  | textQuote v => exact Nat.le_refl _
  | _ => exact Nat.zero_le _

theorem cost_lex_le (m : Mode) (c : CStr) : cost (lex m c) ≤ credit m + quotes c := by
  induction c generalizing m with
  | nil => exact finish_cost m
  | cons b c ih =>
    have hstep := step_cost m b
    have hrest := ih (step m b).2
    rw [lex, cost_append, quotes_cons]
    omega

/-- **The literals of a text** are paid for by its quotes. -/
theorem cost_tokens_le (c : CStr) : cost (tokens c) ≤ quotes (cStr c) := by
  have h := cost_lex_le (.code []) (cStr c)
  rw [show credit (.code []) = 0 from rfl, Nat.zero_add] at h
  exact h

theorem literals_eq_nil_of_cost {ts : List Token} (h : cost ts = 0) : literals ts = [] := by
  unfold cost at h
  cases hlit : literals ts with
  | nil => rfl
  | cons v vs =>
    rw [hlit, List.map_cons, List.sum_cons] at h
    omega

theorem literals_lex_eq_nil {c : CStr} (h : quote ∉ c) (cur : CStr) :
    literals (lex (.code cur) c) = [] := by
  have hcost := cost_lex_le (.code cur) c
  have hnone : quotes c = 0 := List.count_eq_zero.mpr h
  rw [hnone, show credit (.code cur) = 0 from rfl] at hcost
  exact literals_eq_nil_of_cost (Nat.le_zero.mp hcost)

/-! ## Signs -/

/-- The sign the tokeniser has read and not yet given. -/
def pending : Mode → List UInt8
  | .minus => [0x2d]
  | .slash => [0x2f]
  | _ => []

theorem op_mem_codeStep {b d : UInt8} {cur : CStr} (h : .op d ∈ (codeStep cur b).1) : d = b := by
  unfold codeStep at h
  by_cases hword : wordByte b = true
  · rw [if_pos hword] at h
    cases h
  · rw [if_neg hword] at h
    rcases List.mem_append.mp h with h | h
    · cases cur with
      | nil => cases h
      | cons c cur => exact absurd (List.mem_singleton.mp h) (by simp)
    · unfold start at h
      split_ifs at h
      all_goals first
        | exact Token.op.inj (List.mem_singleton.mp h)
        | cases h

theorem pending_codeStep {b d : UInt8} {cur : CStr} (h : d ∈ pending (codeStep cur b).2) :
    d = b := by
  unfold codeStep at h
  by_cases hword : wordByte b = true
  · rw [if_pos hword] at h
    cases h
  · rw [if_neg hword] at h
    unfold start at h
    split_ifs at h with _ _ _ _ hminus hslash
    all_goals first
      | exact (List.mem_singleton.mp h).trans (Eq.symm ‹_›)
      | cases h

theorem op_mem_after {b d : UInt8} {t : Token} (h : .op d ∈ (after t b).1) : t = .op d ∨ d = b := by
  rcases List.mem_cons.mp h with h | h
  · exact .inl h.symm
  · exact .inr (op_mem_codeStep h)

theorem op_mem_step {m : Mode} {b d : UInt8} (h : .op d ∈ (step m b).1) :
    d ∈ pending m ∨ d = b := by
  cases m with
  | code cur => exact .inr (op_mem_codeStep h)
  | minus =>
    rw [step_minus] at h
    split_ifs at h
    · cases h
    · rcases op_mem_after h with h | h
      · exact .inl (List.mem_singleton.mpr (Token.op.inj h).symm)
      · exact .inr h
  | slash =>
    rw [step_slash] at h
    split_ifs at h
    · cases h
    · rcases op_mem_after h with h | h
      · exact .inl (List.mem_singleton.mpr (Token.op.inj h).symm)
      · exact .inr h
  | textQuote v =>
    rw [step_textQuote] at h
    split_ifs at h
    · cases h
    · exact .inr ((op_mem_after h).resolve_left (by simp))
  | nameQuote close v =>
    rw [step_nameQuote] at h
    split_ifs at h
    · cases h
    · exact .inr ((op_mem_after h).resolve_left (by simp))
  | text v =>
    rw [step_text] at h
    split_ifs at h <;> cases h
  | name close v =>
    rw [step_name] at h
    split_ifs at h <;> cases h
  | line =>
    rw [step_line] at h
    split_ifs at h <;> cases h
  | block =>
    rw [step_block] at h
    split_ifs at h <;> cases h
  | blockStar =>
    rw [step_blockStar] at h
    split_ifs at h <;> cases h

theorem pending_step {m : Mode} {b d : UInt8} (h : d ∈ pending (step m b).2) : d = b := by
  cases m with
  | code cur => exact pending_codeStep h
  | minus =>
    rw [step_minus] at h
    split_ifs at h
    · cases h
    · exact pending_codeStep h
  | slash =>
    rw [step_slash] at h
    split_ifs at h
    · cases h
    · exact pending_codeStep h
  | textQuote v =>
    rw [step_textQuote] at h
    split_ifs at h
    · cases h
    · exact pending_codeStep h
  | nameQuote close v =>
    rw [step_nameQuote] at h
    split_ifs at h
    · cases h
    · exact pending_codeStep h
  | text v =>
    rw [step_text] at h
    split_ifs at h <;> cases h
  | name close v =>
    rw [step_name] at h
    split_ifs at h <;> cases h
  | line =>
    rw [step_line] at h
    split_ifs at h <;> cases h
  | block =>
    rw [step_block] at h
    split_ifs at h <;> cases h
  | blockStar =>
    rw [step_blockStar] at h
    split_ifs at h <;> cases h

/-- **A sign among the tokens** is one of the text. -/
theorem mem_of_op_mem {c : CStr} {m : Mode} {d : UInt8} (h : .op d ∈ lex m c) :
    d ∈ pending m ∨ d ∈ c := by
  induction c generalizing m with
  | nil =>
    left
    cases m with
    | code cur =>
      cases cur with
      | nil => cases h
      | cons b cur => exact absurd (List.mem_singleton.mp h) (by simp)
    | minus => exact List.mem_singleton.mpr (Token.op.inj (List.mem_singleton.mp h))
    | slash => exact List.mem_singleton.mpr (Token.op.inj (List.mem_singleton.mp h))
    | textQuote v => exact absurd (List.mem_singleton.mp h) (by simp)
    | nameQuote close v => exact absurd (List.mem_singleton.mp h) (by simp)
    | text v => exact absurd (List.mem_singleton.mp h) (by simp)
    | name close v => exact absurd (List.mem_singleton.mp h) (by simp)
    | _ => cases h
  | cons b c ih =>
    rw [lex] at h
    rcases List.mem_append.mp h with h | h
    · rcases op_mem_step h with h | h
      · exact .inl h
      · exact .inr (h ▸ List.mem_cons_self)
    · rcases ih h with h | h
      · exact .inr (pending_step h ▸ List.mem_cons_self)
      · exact .inr (List.mem_cons_of_mem b h)

/-! ## Values between quotes -/

/-- A text made of pieces without quotes and of values between quotes. -/
inductive Quoting : CStr → List CStr → Prop
  | raw {c : CStr} (h : quote ∉ c) : Quoting c []
  | value (v : CStr) : Quoting (quote :: v ++ [quote]) [v]
  | append {c d : CStr} {vs ws : List CStr} (hc : Quoting c vs) (hd : Quoting d ws) :
    Quoting (c ++ d) (vs ++ ws)

theorem Quoting.quotes_eq {c : CStr} {vs : List CStr} (h : Quoting c vs) :
    quotes c = (vs.map fun v => 2 + quotes v).sum := by
  induction h with
  | raw h => exact List.count_eq_zero.mpr h
  | value v =>
    rw [List.cons_append, quotes_cons, quotes_append]
    show quotes v + 1 + 1 = 2 + quotes v + 0
    omega
  | append hc hd ihc ihd => rw [quotes_append, ihc, ihd, List.map_append, List.sum_append]

theorem Quoting.split {c : CStr} {vs : List CStr} (h : Quoting c vs) {v : CStr} (hv : v ∈ vs) :
    ∃ l r, c = l ++ (v ++ quote :: r) := by
  induction h with
  | raw h => cases hv
  | value w =>
    obtain rfl := List.mem_singleton.mp hv
    exact ⟨[quote], [], rfl⟩
  | append hc hd ihc ihd =>
    rename_i c d vs ws
    rcases List.mem_append.mp hv with hv | hv
    · obtain ⟨l, r, rfl⟩ := ihc hv
      exact ⟨l, r ++ d, by simp only [List.append_assoc, List.cons_append]⟩
    · obtain ⟨l, r, rfl⟩ := ihd hv
      exact ⟨_ ++ l, r, by rw [List.append_assoc]⟩

theorem quotes_cStr_le (c : CStr) : quotes (cStr c) ≤ quotes c :=
  (List.takeWhile_sublist _).count_le _

theorem quotes_cStr_lt {l r : CStr} (h : (0 : UInt8) ∈ l) :
    quotes (cStr (l ++ quote :: r)) < quotes (l ++ quote :: r) := by
  have hcut : cStr (l ++ quote :: r) = cStr l := by
    unfold cStr
    induction l with
    | nil => cases h
    | cons b l ih =>
      by_cases hb : b = 0
      · rw [hb]
        rfl
      · have hl : (0 : UInt8) ∈ l := by
          rcases List.mem_cons.mp h with h | h
          · exact absurd h.symm hb
          · exact h
        simp only [List.cons_append, List.takeWhile_cons, ne_eq, hb, not_false_eq_true, decide_true,
          if_true]
        exact congrArg (b :: ·) (ih hl)
  rw [hcut, quotes_append, quotes_cons, if_pos rfl]
  have hle := quotes_cStr_le l
  omega

def allQuotes (vs : List CStr) : Nat := (vs.map quotes).sum

theorem allQuotes_append (vs ws : List CStr) :
    allQuotes (vs ++ ws) = allQuotes vs + allQuotes ws := by
  unfold allQuotes
  rw [List.map_append, List.sum_append]

theorem allQuotes_perm {vs ws : List CStr} (h : vs.Perm ws) : allQuotes vs = allQuotes ws :=
  (h.map quotes).sum_eq

theorem sum_two_add (k : Nat) (vs : List CStr) :
    (vs.map fun v => 2 + k * quotes v).sum = 2 * vs.length + k * allQuotes vs := by
  unfold allQuotes
  induction vs with
  | nil => rfl
  | cons v vs ih =>
    simp only [List.map_cons, List.sum_cons, List.length_cons, ih, Nat.mul_add]
    omega

/-- **Values in whose place as many texts come out** as the literals, with no fewer quotes, have no
quote and no NUL. -/
theorem Quoting.plain_of_literals {c : CStr} {vs ws : List CStr} (h : Quoting c vs)
    (hlit : (literals (tokens c)).Perm ws) (hlen : ws.length = vs.length)
    (hquotes : allQuotes vs ≤ allQuotes ws) : ∀ v ∈ vs, quote ∉ v ∧ (0 : UInt8) ∉ v := by
  have hcost := cost_tokens_le c
  have hcut := quotes_cStr_le c
  have hsum : quotes c = 2 * vs.length + allQuotes vs := by
    rw [h.quotes_eq, ← Nat.one_mul (allQuotes vs), ← sum_two_add]
    simp only [Nat.one_mul]
  unfold cost at hcost
  rw [(hlit.map _).sum_eq, sum_two_add, hlen] at hcost
  -- the literals need two quotes more for each of theirs, the values bring one
  have hnone : allQuotes vs = 0 := by omega
  intro v hv
  constructor
  · have hle : quotes v ≤ allQuotes vs :=
      List.single_le_sum (fun _ _ => Nat.zero_le _) _ (List.mem_map_of_mem hv)
    exact List.count_eq_zero.mp (Nat.le_zero.mp (hnone ▸ hle))
  · intro hnul
    obtain ⟨l, r, rfl⟩ := h.split hv
    have hlt := quotes_cStr_lt (l := l ++ v) (r := r) (List.mem_append_right l hnul)
    rw [List.append_assoc] at hlt
    omega

end GB28181.Base.Sql
