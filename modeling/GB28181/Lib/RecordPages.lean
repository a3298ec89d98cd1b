import GB28181.Lib.QueryAnswers

/-!
# Record lists in pages (`GB28181.Lib/UACTCP.cpp`)

A long record list comes in several responses, each with the `SN` of the query, the `SumNum` of
all its records and the `Num` of its own.  `OnRecordInfoInquiryRes` adds up the `Num`s in one of two
counters, the member `m_nRecordSum` for more than ten records and the global `addCount` for less,
and sets `m_nRecordSum` to `XML_LEN` when the sum is reached.  `SendRecordInfoInquiry` resets the
member and waits until it has that value.

* `RecordAnswer` — an answer, divided into pages; `Arrivals` — how they come while a query waits;
* `Counters.page` — what a page does to the counters; `MarkedLast` — the mark comes with the last
  page;
* `Complete` — the mark comes with the last page, and the query returns all pages or none;
* `Countable` — no page without records comes last, the global starts at zero where it counts, and
  the member does not pass the value of the mark;
* `records_complete_iff` — **in every run of queries a list is complete exactly when it is
  countable**, and in a run of countable lists every query returns its own.
-/

set_option autoImplicit false

namespace GB28181.Lib.Answers.RecordPages

open GB28181.Base

/-! ## Answers in pages -/

/-- A response with a part of the record list. -/
structure Page (strSN : CStr) (sumNum : Nat) where
  response : Response
  num : Nat
  isRecord : response.query = some .record
  sn_eq : getStringBetween response.strExterndData (str "<SN>") (str "</SN>") = strSN
  sumNum_eq :
    atoi (getStringBetween response.strExterndData (str "<SumNum>") (str "</SumNum>")) = sumNum
  num_eq : recordNum response.strExterndData = some (num : Int)

/-- The answer to a query, divided into pages. -/
structure RecordAnswer where
  strSN : CStr
  sumNum : Nat
  pages : List (Page strSN sumNum)
  nonempty : pages ≠ []
  sum_eq : (pages.map Page.num).sum = sumNum

def RecordAnswer.nums (A : RecordAnswer) : List Nat := A.pages.map Page.num

def RecordAnswer.responses (A : RecordAnswer) : List Response := A.pages.map Page.response

def pagesText {strSN : CStr} {sumNum : Nat} : List (Page strSN sumNum) → CStr
  | [] => []
  | page :: pages => page.response.strExterndData ++ pagesText pages

/-! ## Queries and what arrives meanwhile -/

/-- While a call goes on, its caller takes a step (`none`) or a response is handled. -/
def during : Option Response → Step
  | none => .caller
  | some r => .response r

def looks (l : List (Option Response)) : Nat := l.countP Option.isNone

def recordResponses : List (Option Response) → List Response
  | [] => []
  | none :: l => recordResponses l
  | some r :: l =>
    if r.query = some .record then r :: recordResponses l else recordResponses l

/-- What happens before the caller has taken so many steps and goes on to the next. -/
def within : Nat → List (Option Response) → List (Option Response)
  | _, [] => []
  | n, some r :: l => some r :: within n l
  | 0, none :: _ => []
  | n + 1, none :: l => none :: within n l

/-- How an answer comes: three steps of the caller until the request is sent, and then pages of
the answer in order, perhaps not all of them.  Other responses may come at any time. -/
structure Arrivals (A : RecordAnswer) where
  before : List (Option Response)
  after : List (Option Response)
  sends : looks before = 3
  quiet : recordResponses before = []
  own : recordResponses after <+: A.responses

variable {π : Type}

/-- The pages that are there when the caller looks for the last time. -/
def Arrivals.inTime {A : RecordAnswer} (w : Arrivals A) : List Response :=
  recordResponses (within 100 w.after)

def Arrivals.result {A : RecordAnswer} (w : Arrivals A) : Option (Result π) :=
  if w.inTime.length = A.pages.length then some (.xml (pagesText A.pages)) else none

/-- The query goes on until it returns. -/
def Arrivals.all {A : RecordAnswer} (w : Arrivals A) : List (Option Response) :=
  w.before ++ (w.after ++ List.replicate 102 none)

/-- A query, and the responses that came since the last one returned. -/
structure Round where
  late : List Response
  call : CUACTCP.Call
  isRecord : call.query = some .record
  answer : RecordAnswer
  arrivals : Arrivals answer

/-- The state in which the query is called. -/
def Round.start (q : Round) (s : State π) : State π := run State.handle s q.late

def goOn (p : Parsers π) (s : State π) (l : List (Option Response)) : State π :=
  run (step p) s (l.map during)

def ask (p : Parsers π) (call : CUACTCP.Call) (l : List (Option Response)) (s : State π) :
    State π :=
  goOn p (s.begin call) l

def roundStep (p : Parsers π) (s : State π) (q : Round) : State π :=
  ask p q.call q.arrivals.all (q.start s)

/-! ## Complete lists -/

/-- The mark is set with the last page of the answer and with no other, and however the pages come,
the query returns all of them, or none if they do not come in time. -/
structure Complete (p : Parsers π) (call : CUACTCP.Call) (A : RecordAnswer) (s : State π) :
    Prop where
  marks : ∀ j ≤ A.pages.length,
    (run State.handle (ask p call (List.replicate 3 none) s)
      (A.responses.take j)).m_nRecordSum = XML_LEN ↔ j = A.pages.length
  returns : ∀ w : Arrivals A, ∃ x : Returned π,
    (ask p call w.all s).returned = s.returned ++ [x] ∧ x.result = w.result

/-- No page without records comes last, only one page if there are no records at all; the global
counter starts at zero, where it is used; the member counter does not pass the mark, where it is
used. -/
structure Countable (addCount : Int) (nums : List Nat) : Prop where
  none_left : nums.sum = 0 → nums.length = 1
  last : 0 < nums.sum → nums.getLast? ≠ some 0
  small : 0 < nums.sum → (nums.sum : Int) ≤ MAX_RECORDLIST_SIZE → addCount = 0
  large : MAX_RECORDLIST_SIZE < nums.sum → ∀ j < nums.length, ((nums.take j).sum : Int) ≠ XML_LEN

def Round.Complete (p : Parsers π) (q : Round) (s : State π) : Prop :=
  RecordPages.Complete p q.call q.answer (q.start s)

/-- The `addCount` that the first page will find. -/
def Round.Countable (q : Round) (s : State π) : Prop :=
  RecordPages.Countable ((q.start s).countFor q.answer.strSN).addCount q.answer.nums

/-! ## Counters -/

structure Counters where
  m_nRecordSum : Int
  addCount : Int

/-- What a page with `nNum` records does to the counters. -/
def Counters.page (sumNum : Nat) (c : Counters) (nNum : Nat) : Counters :=
  if MAX_RECORDLIST_SIZE < sumNum then
    { c with m_nRecordSum :=
        if (sumNum : Int) = c.m_nRecordSum + nNum then XML_LEN else c.m_nRecordSum + nNum }
  else if c.addCount + nNum = sumNum ∨ (sumNum : Int) = 0 then
    { m_nRecordSum := XML_LEN, addCount := 0 }
  else { c with addCount := c.addCount + nNum }

def Counters.Marked (c : Counters) : Prop := c.m_nRecordSum = XML_LEN

def MarkedLast (sumNum : Nat) : Counters → List Nat → Prop
  | c, [] => c.Marked
  | c, nNum :: nums => ¬ c.Marked ∧ MarkedLast sumNum (c.page sumNum nNum) nums

section counters

variable {sumNum : Nat} {c : Counters} {nNum : Nat} {nums : List Nat}

theorem forall_le_succ_iff {n : Nat} {P : Nat → Prop} :
    (∀ j ≤ n + 1, P j) ↔ P 0 ∧ ∀ j ≤ n, P (j + 1) := by
  constructor
  · exact fun h => ⟨h 0 (Nat.zero_le _), fun j hj => h (j + 1) (Nat.succ_le_succ hj)⟩
  · rintro ⟨h0, hsucc⟩ (_ | j) hj
    · exact h0
    · exact hsucc j (Nat.le_of_succ_le_succ hj)

theorem markedLast_iff : MarkedLast sumNum c nums ↔
    ∀ j ≤ nums.length,
      ((nums.take j).foldl (Counters.page sumNum) c).Marked ↔ j = nums.length := by
  induction nums generalizing c with
  | nil => simp [MarkedLast]
  | cons nNum nums ih =>
    rw [MarkedLast, ih, List.length_cons, forall_le_succ_iff]
    simp

theorem marked_mk {addCount : Int} : Counters.Marked ⟨XML_LEN, addCount⟩ := rfl

theorem markedLast_of_marked (h : c.Marked) : MarkedLast sumNum c nums ↔ nums = [] := by
  cases nums with
  | nil => exact iff_of_true h rfl
  | cons nNum nums => exact iff_of_false (fun hlast => hlast.1 h) (List.cons_ne_nil _ _)

theorem sum_eq_zero_of_getLast? (h : nums ≠ []) (hsum : nums.sum = 0) :
    nums.getLast? = some 0 := by
  rw [List.getLast?_eq_some_getLast h, List.sum_eq_zero_iff_forall_eq_nat.mp hsum _ (List.getLast_mem h)]

theorem getLast?_cons_ne (h : nums ≠ []) : (nNum :: nums).getLast? = nums.getLast? := by
  rw [List.getLast?_cons, List.getLast?_eq_some_getLast h]
  rfl

theorem markedLast_none (hc : ¬ c.Marked) : MarkedLast 0 c nums ↔ nums.length = 1 := by
  cases nums with
  | nil => exact iff_of_false hc (by decide)
  | cons nNum nums =>
    have hpage : c.page 0 nNum = { m_nRecordSum := XML_LEN, addCount := 0 } := by
      rw [Counters.page, if_neg (by decide), if_pos (Or.inr Int.natCast_zero)]
    rw [MarkedLast, hpage, markedLast_of_marked marked_mk, and_iff_right hc, List.length_cons]
    simp

theorem markedLast_large (hlarge : MAX_RECORDLIST_SIZE < sumNum) {sum : Nat}
    (hc : c.m_nRecordSum = sum) (hsum : sum + nums.sum = sumNum) (hpos : 0 < nums.sum) :
    MarkedLast sumNum c nums ↔ nums.getLast? ≠ some 0 ∧
      ∀ j < nums.length, ((sum + (nums.take j).sum : Nat) : Int) ≠ XML_LEN := by
  induction nums generalizing c sum with
  | nil => cases hpos
  | cons nNum nums ih =>
    rw [List.sum_cons] at hsum hpos
    have hpage : c.page sumNum nNum = { c with m_nRecordSum :=
        if (sumNum : Int) = sum + nNum then XML_LEN else sum + nNum } := by
      rw [Counters.page, if_pos hlarge, hc]
    have hmarked : c.Marked ↔ (sum : Int) = XML_LEN := by rw [Counters.Marked, hc]
    rw [MarkedLast, hpage, hmarked, List.length_cons, Nat.forall_lt_succ_left]
    simp only [List.take_zero, List.sum_nil, Nat.add_zero, List.take_succ_cons, List.sum_cons,
      ← Nat.add_assoc]
    by_cases hrest : nums.sum = 0
    · -- the sum is reached with this page
      rw [if_pos (by omega), markedLast_of_marked marked_mk]
      by_cases hnums : nums = []
      · subst hnums
        have hnNum : nNum ≠ 0 := by
          rw [List.sum_nil] at hpos
          omega
        simp [hnNum]
      · rw [getLast?_cons_ne hnums, sum_eq_zero_of_getLast? hnums hrest]
        simp [hnums]
    · have hnums : nums ≠ [] := by
        rintro rfl
        exact hrest rfl
      rw [if_neg (by omega), getLast?_cons_ne hnums,
        ih (c := { c with m_nRecordSum := sum + nNum }) (Int.natCast_add _ _).symm (by omega)
          (by omega)]
      exact and_left_comm

theorem markedLast_small (hpos : 0 < sumNum) (hsmall : ¬ MAX_RECORDLIST_SIZE < (sumNum : Int))
    (hc : ¬ c.Marked) {count : Int} (hcount : c.addCount = count) (hne : count ≠ sumNum) :
    MarkedLast sumNum c nums ↔ count + nums.sum = sumNum ∧ nums.getLast? ≠ some 0 := by
  induction nums generalizing c count with
  | nil => exact iff_of_false hc fun h => hne (by simpa using h.1)
  | cons nNum nums ih =>
    rw [MarkedLast, and_iff_right hc, List.sum_cons, Counters.page, if_neg hsmall, hcount]
    by_cases hreached : count + nNum = sumNum
    · rw [if_pos (Or.inl hreached), markedLast_of_marked marked_mk]
      by_cases hnums : nums = []
      · subst hnums
        have hnNum : nNum ≠ 0 := by
          rintro rfl
          exact hne (by simpa using hreached)
        simp [hnNum, hreached]
      · refine iff_of_false hnums ?_
        rintro ⟨hsum, hlast⟩
        have hrest : nums.sum = 0 := by omega
        rw [getLast?_cons_ne hnums, sum_eq_zero_of_getLast? hnums hrest] at hlast
        exact hlast rfl
    · rw [if_neg (by omega), ih (c := { c with addCount := count + nNum }) hc rfl hreached]
      by_cases hnums : nums = []
      · subst hnums
        refine iff_of_false (fun h => hreached (by simpa using h.1)) fun h => hreached ?_
        simpa using h.1
      · rw [getLast?_cons_ne hnums, Int.natCast_add, ← Int.add_assoc]

theorem markedLast_small_start (hpos : 0 < nums.sum)
    (hsmall : ¬ MAX_RECORDLIST_SIZE < (nums.sum : Int)) (hc : ¬ c.Marked) :
    MarkedLast nums.sum c nums ↔ c.addCount = 0 ∧ nums.getLast? ≠ some 0 := by
  by_cases hcount : c.addCount = nums.sum
  · refine iff_of_false (fun h => ?_) (by omega)
    cases nums with
    | nil => cases hpos
    | cons nNum nums =>
      rw [MarkedLast, and_iff_right hc, Counters.page, if_neg hsmall] at h
      rw [List.sum_cons] at *
      by_cases hzero : nNum = 0
      · -- a page without records is marked
        rw [if_pos (by omega), markedLast_of_marked marked_mk] at h
        rw [h, List.sum_nil] at hpos
        omega
      · rw [if_neg (by omega)] at h
        have hne : c.addCount + nNum ≠ ((nNum + nums.sum : Nat) : Int) := by omega
        have hsum : c.addCount + nNum + nums.sum = ((nNum + nums.sum : Nat) : Int) :=
          ((markedLast_small (c := { c with addCount := c.addCount + nNum }) hpos hsmall hc
            rfl hne).mp h).1
        omega
  · rw [markedLast_small hpos hsmall hc rfl hcount]
    refine and_congr_left fun _ => ?_
    omega

/-- **The mark comes with the last page exactly when the list is countable.** -/
theorem markedLast_iff_countable {addCount : Int} :
    MarkedLast nums.sum ⟨0, addCount⟩ nums ↔ Countable addCount nums := by
  have hstart : ¬ Counters.Marked ⟨0, addCount⟩ := by
    show ¬ (0 : Int) = XML_LEN
    decide
  rcases Nat.eq_zero_or_pos nums.sum with hsum | hpos
  · rw [hsum, markedLast_none hstart]
    constructor
    · intro h
      exact ⟨fun _ => h, by omega, by omega, fun hlarge => by
        rw [hsum] at hlarge
        exact absurd hlarge (by decide)⟩
    · exact fun h => h.none_left hsum
  · by_cases hlarge : MAX_RECORDLIST_SIZE < (nums.sum : Int)
    · rw [markedLast_large hlarge Int.natCast_zero.symm (Nat.zero_add _) hpos]
      constructor
      · intro h
        exact ⟨by omega, fun _ => h.1, by omega, fun _ => by simpa using h.2⟩
      · exact fun h => ⟨h.last hpos, by simpa using h.large hlarge⟩
    · rw [markedLast_small_start hpos hlarge hstart]
      constructor
      · intro h
        exact ⟨by omega, fun _ => h.2, fun _ _ => h.1, fun h => absurd h hlarge⟩
      · exact fun h => ⟨h.small hpos (by omega), h.last hpos⟩

end counters

/-! ## What a page does -/

/-- The text and the counters of a state, counted for a query with that `SN`. -/
structure Collected (strSN text : CStr) (c : Counters) (s : State π) : Prop where
  text_eq : (s.answers .record).text = text
  sum_eq : s.m_nRecordSum = c.m_nRecordSum
  count_eq : (s.countFor strSN).addCount = c.addCount

section pages

variable {strSN text : CStr} {sumNum : Nat} {c : Counters} {s s' : State π}

theorem countFor_sn (s : State π) : (s.countFor strSN).sn = strSN := by
  unfold State.countFor
  split_ifs with hempty hother
  · rfl
  · rfl
  · exact not_not.mp hother

theorem countFor_addCount (s : State π) :
    (s.countFor strSN).addCount = if s.sn = [] ∨ s.sn = strSN then s.addCount else 0 := by
  unfold State.countFor
  split_ifs <;> simp_all

theorem Collected.congr (h : Collected strSN text c s)
    (hanswer : s'.answers .record = s.answers .record) (hsum : s'.m_nRecordSum = s.m_nRecordSum)
    (hcount : s'.addCount = s.addCount) (hsn : s'.sn = s.sn) : Collected strSN text c s' where
  text_eq := by rw [hanswer, h.text_eq]
  sum_eq := by rw [hsum, h.sum_eq]
  count_eq := by rw [countFor_addCount, hcount, hsn, ← countFor_addCount, h.count_eq]

theorem add_text (a : Answer) (r : Response) :
    (a.add r).text = a.text ++ r.strExterndData := by
  unfold Answer.add
  split_ifs with hempty
  · rw [hempty, List.append_nil]
  · rfl

theorem countFor_addCount_of_sn (h : s.sn = strSN) :
    (s.countFor strSN).addCount = s.addCount := by
  rw [countFor_addCount, if_pos (Or.inr h)]

theorem countFor_keeps (s : State π) (strSN : CStr) :
    (s.countFor strSN).answers = s.answers ∧ (s.countFor strSN).m_nRecordSum = s.m_nRecordSum := by
  obtain ⟨addCount, sn, h⟩ := countFor_eq s strSN
  rw [h]
  exact ⟨rfl, rfl⟩

theorem collected_page (page : Page strSN sumNum) (h : Collected strSN text c s) :
    Collected strSN (text ++ page.response.strExterndData) (c.page sumNum page.num)
      (s.handle page.response) := by
  obtain ⟨hanswers, hsum⟩ := countFor_keeps s strSN
  have htext : (Function.update (s.countFor strSN).answers .record
      (((s.countFor strSN).answers .record).add page.response) .record).text =
      text ++ page.response.strExterndData := by
    rw [Function.update_self, add_text, hanswers, h.text_eq]
  suffices hpage : Collected strSN (text ++ page.response.strExterndData) (c.page sumNum page.num)
      (s.onRecordInfoInquiryRes page.response) by
    simp only [State.handle, page.isRecord]
    exact hpage.congr rfl rfl rfl rfl
  simp only [State.onRecordInfoInquiryRes, page.sn_eq, page.sumNum_eq, page.num_eq,
    Counters.page, ← h.sum_eq, ← h.count_eq, ← hsum]
  split_ifs
  · exact ⟨htext, rfl, countFor_addCount_of_sn (countFor_sn s)⟩
  · exact ⟨htext, rfl, countFor_addCount_of_sn (countFor_sn s)⟩
  · exact ⟨htext, rfl, countFor_addCount_of_sn (countFor_sn s)⟩
  · exact ⟨htext, rfl, countFor_addCount_of_sn (countFor_sn s)⟩

theorem collected_other {r : Response} (hr : r.query ≠ some .record)
    (h : Collected strSN text c s) : Collected strSN text c (s.handle r) := by
  unfold State.handle
  cases hq : r.query with
  | none => exact h
  | some q =>
    cases q with
    | record => exact absurd hq hr
    | _ => exact h.congr rfl rfl rfl rfl

theorem handle_keeps (s : State π) (r : Response) :
    (s.handle r).caller = s.caller ∧ (s.handle r).returned = s.returned := by
  unfold State.handle
  cases r.query with
  | none => exact ⟨rfl, rfl⟩
  | some q =>
    have h := handles_answer s r q
    exact ⟨h.caller, h.returned⟩

theorem collected_pages (pages : List (Page strSN sumNum)) (h : Collected strSN text c s) :
    Collected strSN (text ++ pagesText pages)
      ((pages.map Page.num).foldl (Counters.page sumNum) c)
      (run State.handle s (pages.map Page.response)) := by
  induction pages generalizing text c s with
  | nil => simpa [pagesText] using h
  | cons page pages ih =>
    have hrest := ih (collected_page page h)
    rw [List.append_assoc] at hrest
    exact hrest

end pages

/-! ## A query until it returns -/

structure Returns (past : List (Returned π)) (result : Option (Result π)) (s : State π) : Prop where
  idle : s.caller = .idle
  returned : ∃ x, s.returned = past ++ [x] ∧ x.result = result

section calls

variable {p : Parsers π} {strSN text : CStr} {sumNum : Nat} {c : Counters} {s : State π}
  {past : List (Returned π)} {result : Option (Result π)} {unSeq : UInt32}
  {l : List (Option Response)} {todo : List (Page strSN sumNum)}

@[simp] theorem looks_none : looks (none :: l) = looks l + 1 := by simp [looks]

@[simp] theorem looks_some {r : Response} : looks (some r :: l) = looks l := by simp [looks]

theorem looks_append {l' : List (Option Response)} : looks (l ++ l') = looks l + looks l' :=
  List.countP_append

theorem looks_replicate (n : Nat) : looks (List.replicate n none) = n := by
  induction n with
  | zero => rfl
  | succ n ih => rw [List.replicate_succ, looks_none, ih]

theorem recordResponses_replicate (n : Nat) :
    recordResponses (l ++ List.replicate n none) = recordResponses l := by
  induction l with
  | nil =>
    induction n with
    | zero => rfl
    | succ n ih => exact ih
  | cons x l ih =>
    cases x with
    | none => exact ih
    | some r => simp only [List.cons_append, recordResponses, ih]

theorem within_replicate (m n : Nat) :
    recordResponses (within m (l ++ List.replicate n none)) = recordResponses (within m l) := by
  induction l generalizing m with
  | nil =>
    induction n generalizing m with
    | zero => rfl
    | succ n ih =>
      cases m with
      | zero => rfl
      | succ m => exact ih m
  | cons x l ih =>
    cases x with
    | none =>
      cases m with
      | zero => rfl
      | succ m => exact ih m
    | some r => simp only [List.cons_append, within, recordResponses, ih]

theorem recordResponses_within (n : Nat) (l : List (Option Response)) :
    recordResponses (within n l) <+: recordResponses l := by
  induction l generalizing n with
  | nil => exact List.prefix_rfl
  | cons x l ih =>
    cases x with
    | none =>
      cases n with
      | zero => exact List.nil_prefix
      | succ n => exact ih n
    | some r =>
      rw [within, recordResponses, recordResponses]
      split_ifs
      · exact List.cons_prefix_cons.mpr ⟨rfl, ih n⟩
      · exact ih n

theorem goOn_append (s : State π) (l l' : List (Option Response)) :
    goOn p s (l ++ l') = goOn p (goOn p s l) l' := by
  rw [goOn, List.map_append, run_append]
  rfl

theorem goOn_none : goOn p s (none :: l) = goOn p (callerStep p s) l := rfl

theorem goOn_some {r : Response} : goOn p s (some r :: l) = goOn p (s.handle r) l := rfl

theorem returns_finish {builtFrom : List UInt32} {q : Query} {n : Option UInt32} :
    Returns s.returned result (s.finish q n result builtFrom) :=
  ⟨rfl, _, rfl, rfl⟩

theorem returns_goOn (h : Returns past result s) : Returns past result (goOn p s l) := by
  induction l generalizing s with
  | nil => exact h
  | cons x l ih =>
    cases x with
    | none =>
      have hstep : callerStep p s = s := by rw [callerStep, h.idle]
      rw [goOn_none, hstep]
      exact ih h
    | some r =>
      obtain ⟨hcaller, hreturned⟩ := handle_keeps s r
      obtain ⟨x, hx, hresult⟩ := h.returned
      exact ih ⟨hcaller.trans h.idle, x, hreturned.trans hx, hresult⟩

theorem returns_expired (hcaller : s.caller = .waiting .record unSeq 0) (hlooks : 1 ≤ looks l) :
    Returns s.returned none (goOn p s l) := by
  induction l generalizing s with
  | nil => cases hlooks
  | cons x l ih =>
    cases x with
    | none =>
      have hstep : callerStep p s = s.finish .record (some unSeq) none [] := by
        rw [callerStep, hcaller]
        rfl
      rw [goOn_none, hstep]
      exact returns_goOn returns_finish
    | some r =>
      obtain ⟨hkeep, hreturned⟩ := handle_keeps s r
      rw [goOn_some, ← hreturned]
      exact ih (hkeep.trans hcaller) (looks_some ▸ hlooks)

theorem returns_found (hcaller : s.caller = .found .record unSeq)
    (h : Collected strSN text c s) (hquiet : recordResponses l = []) (hlooks : 1 ≤ looks l) :
    Returns s.returned (some (.xml text)) (goOn p s l) := by
  induction l generalizing s with
  | nil => cases hlooks
  | cons x l ih =>
    cases x with
    | none =>
      rw [goOn_none, callerStep, hcaller]
      exact returns_goOn ⟨rfl, _, rfl, congrArg (some ∘ Result.xml) h.text_eq⟩
    | some r =>
      obtain ⟨hkeep, hreturned⟩ := handle_keeps s r
      rw [recordResponses] at hquiet
      split_ifs at hquiet with hr
      rw [goOn_some, ← hreturned]
      exact ih (hkeep.trans hcaller) (collected_other hr h) hquiet (looks_some ▸ hlooks)

/-- What is still to come while the caller waits for a list that is marked with its last page. -/
structure Waits (todo : List (Page strSN sumNum)) (text : CStr) (c : Counters) (s : State π)
    (l : List (Option Response)) : Prop where
  collected : Collected strSN text c s
  markedLast : MarkedLast sumNum c (todo.map Page.num)
  own : recordResponses l <+: todo.map Page.response

/-- What a waiting query returns if `arrived` pages are still in time. -/
def outcome (text : CStr) (todo : List (Page strSN sumNum)) (arrived : List Response) :
    Option (Result π) :=
  if arrived.length = todo.length then some (.xml (text ++ pagesText todo)) else none

theorem outcome_nil : (outcome text ([] : List (Page strSN sumNum)) [] : Option (Result π)) =
    some (.xml text) := by
  simp [outcome, pagesText]

theorem Waits.response {r : Response} (h : Waits todo text c s (some r :: l)) :
    ∃ (todo' : List (Page strSN sumNum)) (text' : CStr) (c' : Counters),
      Waits todo' text' c' (s.handle r) l ∧
        ∀ n, (outcome text todo (recordResponses (within n (some r :: l))) : Option (Result π)) =
          outcome text' todo' (recordResponses (within n l)) := by
  have hown := h.own
  rw [recordResponses] at hown
  split_ifs at hown with hr
  · cases todo with
    | nil => exact absurd (List.prefix_nil.mp hown) (List.cons_ne_nil _ _)
    | cons page todo =>
      obtain ⟨rfl, hrest⟩ := List.cons_prefix_cons.mp hown
      refine ⟨todo, _, _, ⟨collected_page page h.collected, h.markedLast.2, hrest⟩, fun n => ?_⟩
      simp only [within, recordResponses, if_pos hr, outcome, pagesText, List.append_assoc,
        List.length_cons, Nat.add_right_cancel_iff]
  · refine ⟨todo, text, c, ⟨collected_other hr h.collected, h.markedLast, hown⟩, fun n => ?_⟩
    rw [within, recordResponses, if_neg hr]

theorem Waits.look (h : Waits todo text c s (none :: l)) (uac : CUACTCP) (caller : Caller) :
    Waits todo text c { s with uac := uac, caller := caller } l :=
  ⟨h.collected.congr rfl rfl rfl rfl, h.markedLast, h.own⟩

theorem returns_waiting {left : Nat} (hcaller : s.caller = .waiting .record unSeq (left + 1))
    (h : Waits todo text c s l) (hlooks : left + 2 ≤ looks l) :
    Returns s.returned (outcome text todo (recordResponses (within left l))) (goOn p s l) := by
  induction l generalizing s left todo text c with
  | nil => cases hlooks
  | cons x l ih =>
    cases x with
    | some r =>
      obtain ⟨todo', text', c', hnext, hresult⟩ := h.response
      obtain ⟨hkeep, hreturned⟩ := handle_keeps s r
      rw [hresult, goOn_some, ← hreturned]
      exact ih (hkeep.trans hcaller) hnext (looks_some ▸ hlooks)
    | none =>
      rw [looks_none] at hlooks
      have hstep : callerStep p s =
          { s with
            caller := if State.complete s .record then .found .record unSeq
              else .waiting .record unSeq left } := by
        rw [callerStep, hcaller]
      have hmarked : State.complete s .record = true ↔ c.Marked := by
        rw [Counters.Marked, ← h.collected.sum_eq]
        exact beq_iff_eq
      rw [goOn_none, hstep]
      by_cases hc : c.Marked
      · -- all pages have come
        have hdone : todo = [] := List.map_eq_nil_iff.mp ((markedLast_of_marked hc).mp h.markedLast)
        subst hdone
        have hown : recordResponses l = [] := List.prefix_nil.mp h.own
        have hnone : recordResponses (within left (none :: l)) = [] :=
          List.prefix_nil.mp ((recordResponses_within _ _).trans h.own)
        rw [hnone, outcome_nil, if_pos (hmarked.mpr hc)]
        exact returns_found (s := { s with caller := .found .record unSeq }) rfl
          (h.look s.uac _).collected hown (by omega)
      · have hmore : todo ≠ [] := by
          rintro rfl
          exact hc h.markedLast
        rw [if_neg fun hcomplete => hc (hmarked.mp hcomplete)]
        cases left with
        | zero =>
          -- the last look
          have hlate : outcome text todo (recordResponses (within 0 (none :: l))) =
              (none : Option (Result π)) :=
            if_neg fun hlength => hmore (List.length_eq_zero_iff.mp hlength.symm)
          rw [hlate]
          exact returns_expired (s := { s with caller := .waiting .record unSeq 0 }) rfl (by omega)
        | succ left =>
          exact ih (s := { s with caller := .waiting .record unSeq (left + 1) }) rfl
            (h.look s.uac _) (by omega)

theorem returns_sent (hcaller : s.caller = .sent .record unSeq) (h : Waits todo text c s l)
    (hlooks : 102 ≤ looks l) :
    Returns s.returned (outcome text todo (recordResponses (within 100 l))) (goOn p s l) := by
  induction l generalizing s todo text c with
  | nil => cases hlooks
  | cons x l ih =>
    cases x with
    | some r =>
      obtain ⟨todo', text', c', hnext, hresult⟩ := h.response
      obtain ⟨hkeep, hreturned⟩ := handle_keeps s r
      rw [hresult, goOn_some, ← hreturned]
      exact ih (hkeep.trans hcaller) hnext (looks_some ▸ hlooks)
    | none =>
      rw [looks_none] at hlooks
      rw [goOn_none, callerStep, hcaller]
      have hleft : 99 + 2 ≤ looks l := by omega
      exact returns_waiting rfl (h.look _ _) hleft

/-- The steps of the caller until the request is sent. -/
def sending (call : CUACTCP.Call) (unSeq : UInt32) : Nat → Caller
  | 0 => .sent .record unSeq
  | 1 => .request call .record
  | 2 => .cleared call .record
  | _ => .entered call .record

/-- A query that sends its request after `n` more steps. -/
structure Asks (strSN : CStr) (addCount : Int) (call : CUACTCP.Call) (n : Nat) (s : State π) :
    Prop where
  caller_eq : ∃ unSeq, s.caller = sending call unSeq n
  text_eq : n ≤ 2 → (s.answers .record).text = []
  sum_eq : n ≤ 1 → s.m_nRecordSum = 0
  count_eq : (s.countFor strSN).addCount = addCount

theorem request_of_record {call : CUACTCP.Call} (hcall : call.query = some .record)
    (uac : CUACTCP) : ∃ r, call.request uac = some r := by
  cases call with
  | sendRecordInfoInquiry => exact ⟨_, rfl⟩
  | _ => cases hcall

theorem asks_step {addCount : Int} {call : CUACTCP.Call} (hcall : call.query = some .record)
    {n : Nat} (hn : n < 3) (h : Asks strSN addCount call (n + 1) s) :
    Asks strSN addCount call n (callerStep p s) ∧ (callerStep p s).returned = s.returned := by
  obtain ⟨unSeq, hcaller⟩ := h.caller_eq
  have hcount : ∀ s' : State π, s'.addCount = s.addCount → s'.sn = s.sn →
      (s'.countFor strSN).addCount = addCount := fun s' ha hsn => by
    rw [countFor_addCount, ha, hsn, ← countFor_addCount, h.count_eq]
  obtain rfl | rfl | rfl : n = 0 ∨ n = 1 ∨ n = 2 := by omega
  · obtain ⟨r, hr⟩ := request_of_record hcall s.uac
    have hstep : callerStep p s = { s with caller := .sent .record s.uac.m_unSeq } := by
      simp only [callerStep, hcaller, sending, hr]
    rw [hstep]
    exact ⟨⟨⟨_, rfl⟩, fun _ => h.text_eq (by omega), fun _ => h.sum_eq (by omega),
      hcount _ rfl rfl⟩, rfl⟩
  · have hstep : callerStep p s = { s with m_nRecordSum := 0, caller := .request call .record } := by
      simp only [callerStep, hcaller, sending]
      rfl
    rw [hstep]
    exact ⟨⟨⟨unSeq, rfl⟩, fun _ => h.text_eq (by omega), fun _ => rfl, hcount _ rfl rfl⟩, rfl⟩
  · have hstep : callerStep p s =
        { s.setAnswer .record .empty with caller := .cleared call .record } := by
      simp only [callerStep, hcaller, sending]
      rfl
    rw [hstep]
    exact ⟨⟨⟨unSeq, rfl⟩, fun _ => rfl, by omega, hcount _ rfl rfl⟩, rfl⟩

theorem asks_goOn {addCount : Int} {call : CUACTCP.Call} (hcall : call.query = some .record)
    (hquiet : recordResponses l = []) (hlooks : looks l ≤ 3)
    (h : Asks strSN addCount call (looks l) s) :
    Asks strSN addCount call 0 (goOn p s l) ∧ (goOn p s l).returned = s.returned := by
  induction l generalizing s with
  | nil => exact ⟨h, rfl⟩
  | cons x l ih =>
    cases x with
    | none =>
      rw [looks_none] at h hlooks
      obtain ⟨hstep, hreturned⟩ := asks_step (p := p) hcall (by omega) h
      rw [goOn_none, ← hreturned]
      exact ih hquiet (by omega) hstep
    | some r =>
      rw [looks_some] at h hlooks
      rw [recordResponses] at hquiet
      split_ifs at hquiet with hr
      obtain ⟨hkeep, hreturned⟩ := handle_keeps s r
      have hother : Collected strSN (s.answers .record).text ⟨s.m_nRecordSum, addCount⟩
          (s.handle r) := collected_other hr ⟨rfl, rfl, h.count_eq⟩
      obtain ⟨unSeq, hcaller⟩ := h.caller_eq
      rw [goOn_some, ← hreturned]
      refine ih hquiet hlooks ⟨⟨unSeq, hkeep.trans hcaller⟩, ?_, ?_, hother.count_eq⟩
      · exact fun hn => hother.text_eq.trans (h.text_eq hn)
      · exact fun hn => hother.sum_eq.trans (h.sum_eq hn)

theorem asks_begin (strSN : CStr) {call : CUACTCP.Call} (hcall : call.query = some .record)
    (hidle : s.caller = .idle) :
    Asks strSN (s.countFor strSN).addCount call 3 (s.begin call) ∧
      (s.begin call).returned = s.returned := by
  have hbegin : s.begin call = { s with caller := .entered call .record, heard := [] } := by
    rw [State.begin, hidle, hcall]
  rw [hbegin]
  exact ⟨⟨⟨0, rfl⟩, by omega, by omega, by rw [countFor_addCount, countFor_addCount]⟩, rfl⟩

/-- The request is sent with an empty string and a member that was reset. -/
theorem ask_sent (strSN : CStr) {call : CUACTCP.Call} (hcall : call.query = some .record)
    (hidle : s.caller = .idle) (hquiet : recordResponses l = []) (hlooks : looks l = 3) :
    (∃ unSeq, (ask p call l s).caller = .sent .record unSeq) ∧
      Collected strSN [] ⟨0, (s.countFor strSN).addCount⟩ (ask p call l s) ∧
      (ask p call l s).returned = s.returned := by
  obtain ⟨hbegin, hreturned⟩ := asks_begin strSN hcall hidle
  rw [← hlooks] at hbegin
  obtain ⟨hasks, hkeep⟩ := asks_goOn (p := p) hcall hquiet (Nat.le_of_eq hlooks) hbegin
  exact ⟨hasks.caller_eq, ⟨hasks.text_eq (by omega), hasks.sum_eq (by omega), hasks.count_eq⟩,
    hkeep.trans hreturned⟩

end calls

/-! ## Complete and countable lists -/

section complete

variable {p : Parsers π} {s : State π} {call : CUACTCP.Call} {A : RecordAnswer}

theorem marks_iff (hcall : call.query = some .record) (hidle : s.caller = .idle) :
    (∀ j ≤ A.pages.length,
      (run State.handle (ask p call (List.replicate 3 none) s)
        (A.responses.take j)).m_nRecordSum = XML_LEN ↔ j = A.pages.length) ↔
      Countable (s.countFor A.strSN).addCount A.nums := by
  obtain ⟨-, hsent, -⟩ := ask_sent (p := p) (l := List.replicate 3 none) A.strSN hcall hidle
    rfl rfl
  have hsum : A.nums.sum = A.sumNum := A.sum_eq
  rw [← markedLast_iff_countable, hsum, markedLast_iff, RecordAnswer.nums, List.length_map]
  refine forall_congr' fun j => forall_congr' fun _ => ?_
  have hpages := (collected_pages (A.pages.take j) hsent).sum_eq
  rw [List.map_take, List.map_take] at hpages
  rw [RecordAnswer.responses, hpages, Counters.Marked]

theorem returns_of_countable (hcall : call.query = some .record) (hidle : s.caller = .idle)
    (h : Countable (s.countFor A.strSN).addCount A.nums) (w : Arrivals A) :
    Returns s.returned w.result (ask p call w.all s) := by
  obtain ⟨⟨unSeq, hcaller⟩, hsent, hreturned⟩ :=
    ask_sent (p := p) A.strSN hcall hidle w.quiet w.sends
  have hsum : A.nums.sum = A.sumNum := A.sum_eq
  have hmarked := markedLast_iff_countable.mpr h
  rw [hsum] at hmarked
  have hwaits : Waits A.pages [] ⟨0, (s.countFor A.strSN).addCount⟩ (ask p call w.before s)
      (w.after ++ List.replicate 102 none) := by
    refine ⟨hsent, hmarked, ?_⟩
    rw [recordResponses_replicate]
    exact w.own
  have hlooks : 102 ≤ looks (w.after ++ List.replicate 102 none) := by
    rw [looks_append, looks_replicate]
    exact Nat.le_add_left _ _
  have hreturns := returns_sent (p := p) hcaller hwaits hlooks
  rw [within_replicate, hreturned] at hreturns
  rw [Arrivals.all, ask, goOn_append]
  exact hreturns

/-- **A list is complete exactly when it is countable.** -/
theorem complete_iff (hcall : call.query = some .record) (hidle : s.caller = .idle) :
    Complete p call A s ↔ Countable (s.countFor A.strSN).addCount A.nums := by
  constructor
  · exact fun h => (marks_iff hcall hidle).mp h.marks
  · exact fun h => ⟨(marks_iff hcall hidle).mpr h, fun w =>
      (returns_of_countable hcall hidle h w).returned⟩

end complete

/-! ## Runs of queries -/

section runs

variable {p : Parsers π} {s : State π} {l : List (Option Response)}

/-- How many steps a call still takes at most. -/
def remaining : Caller → Nat
  | .idle => 0
  | .entered _ q => Query.polls q + 5
  | .cleared _ q => Query.polls q + 4
  | .request _ q => Query.polls q + 3
  | .sent q _ => Query.polls q + 2
  | .waiting _ _ polls => polls + 1
  | .found _ _ => 1

theorem remaining_callerStep (p : Parsers π) (s : State π) :
    remaining (callerStep p s).caller ≤ remaining s.caller - 1 := by
  unfold callerStep
  split
  case h_1 hcaller => rw [hcaller, remaining, Nat.zero_sub]
  case h_4 hcaller =>
    rw [hcaller]
    split
    · exact Nat.zero_le _
    · exact Nat.le_refl _
  case h_7 hcaller =>
    rw [hcaller]
    split_ifs
    · exact Nat.le_add_left 1 _
    · exact Nat.le_refl _
  all_goals
    rename_i hcaller
    rw [hcaller]
    exact Nat.le_refl _

theorem remaining_goOn : remaining (goOn p s l).caller ≤ remaining s.caller - looks l := by
  induction l generalizing s with
  | nil => exact Nat.le_refl _
  | cons x l ih =>
    cases x with
    | none =>
      rw [goOn_none, looks_none]
      have hstep := remaining_callerStep p s
      have hrest := ih (s := callerStep p s)
      omega
    | some r =>
      rw [goOn_some, looks_some, ← (handle_keeps s r).1]
      exact ih

theorem idle_of_remaining {caller : Caller} (h : remaining caller = 0) : caller = .idle := by
  cases caller with
  | idle => rfl
  | _ => cases h

theorem start_keeps (q : Round) (s : State π) :
    (q.start s).caller = s.caller ∧ (q.start s).returned = s.returned := by
  refine @run_induct (State π) Response State.handle
    (fun s' => s'.caller = s.caller ∧ s'.returned = s.returned) ?_ s ⟨rfl, rfl⟩ q.late
  rintro s' r ⟨hcaller, hreturned⟩
  obtain ⟨hkeep, hkeep'⟩ := handle_keeps s' r
  exact ⟨hkeep.trans hcaller, hkeep'.trans hreturned⟩

theorem idle_roundStep (p : Parsers π) (q : Round) (hidle : s.caller = .idle) :
    (roundStep p s q).caller = .idle := by
  have hbegin : remaining ((q.start s).begin q.call).caller ≤ 105 := by
    rw [State.begin, (start_keeps q s).1, hidle, q.isRecord]
    exact Nat.le_refl _
  have hlooks : 105 ≤ looks q.arrivals.all := by
    rw [Arrivals.all, looks_append, looks_append, q.arrivals.sends, looks_replicate]
    omega
  have hall := remaining_goOn (p := p) (s := (q.start s).begin q.call) (l := q.arrivals.all)
  exact idle_of_remaining (Nat.le_zero.mp (hall.trans (by omega)))

theorem roundStep_returned (p : Parsers π) (q : Round) (hidle : s.caller = .idle)
    (h : q.Countable s) :
    (roundStep p s q).returned.map Returned.result =
      s.returned.map Returned.result ++ [q.arrivals.result] := by
  obtain ⟨hcaller, hreturned⟩ := start_keeps q s
  obtain ⟨x, hx, hresult⟩ :=
    (returns_of_countable (p := p) q.isRecord (hcaller.trans hidle) h q.arrivals).returned
  rw [roundStep, hx, hreturned, List.map_append, List.map_singleton, hresult]

theorem run_returned (rounds : List Round) (hidle : s.caller = .idle)
    (h : ∀ x ∈ calls (roundStep p) s rounds, x.2.Countable x.1) :
    (run (roundStep p) s rounds).returned.map Returned.result =
      s.returned.map Returned.result ++ rounds.map fun q => q.arrivals.result := by
  induction rounds generalizing s with
  | nil => rw [run_nil, List.map_nil, List.append_nil]
  | cons q rounds ih =>
    rw [calls, List.forall_mem_cons] at h
    rw [run_cons, ih (idle_roundStep p q hidle) h.2, roundStep_returned p q hidle h.1,
      List.map_cons, List.append_assoc, List.singleton_append]

/-- **In every run of queries the lists are complete exactly when they are countable**, and then
every query returns all pages of its own answer, or none if they do not come in time. -/
theorem records_complete_iff (p : Parsers π) (uac : CUACTCP) (rounds : List Round) :
    ((∀ x ∈ calls (roundStep p) (State.init uac) rounds, x.2.Complete p x.1) ↔
      ∀ x ∈ calls (roundStep p) (State.init uac) rounds, x.2.Countable x.1) ∧
    ((∀ x ∈ calls (roundStep p) (State.init uac) rounds, x.2.Countable x.1) →
      (run (roundStep p) (State.init uac) rounds).returned.map Returned.result =
        rounds.map fun q => q.arrivals.result) := by
  constructor
  · refine @forall_calls_iff_of_keep (State π) Round (roundStep p) (fun s q => q.Countable s)
      (fun s q => q.Complete p s) (fun s => s.caller = .idle) ?_ ?_ _ _ rfl
    · exact fun s q hidle _ => idle_roundStep p q hidle
    · exact fun s q hidle => complete_iff q.isRecord ((start_keeps q s).1.trans hidle)
  · exact fun h => run_returned rounds rfl h

end runs

/-! ## Two queries with one number -/

def twoOfFour : Page (str "7") 4 where
  response :=
    { nOperate := RECORD_INQUIRE_RES_TYPE
      unSeq := 0
      strExterndData := str "<Response><SN>7</SN><SumNum>4</SumNum><RecordList Num=\"2\">" }
  num := 2
  isRecord := by decide
  sn_eq := by decide
  sumNum_eq := by decide
  num_eq := by decide

def fourRecords : RecordAnswer where
  strSN := str "7"
  sumNum := 4
  pages := [twoOfFour, twoOfFour]
  nonempty := List.cons_ne_nil _ _
  sum_eq := rfl

/-- A query whose answer comes in that part. -/
def fourRecordsQuery (after : List (Option Response))
    (own : recordResponses after <+: fourRecords.responses) : Round where
  late := []
  call := .sendRecordInfoInquiry noText noText 0 noText noText none none 0 none 0
  isRecord := rfl
  answer := fourRecords
  arrivals := ⟨[none, none, none], after, rfl, rfl, own⟩

/-- The first query is left with one page, and the second has the same number: its first page is
counted with it. -/
theorem page_left_marks_early :
    ¬ ∀ x ∈ calls (roundStep passOn) (State.init client)
      [fourRecordsQuery [some twoOfFour.response] ⟨_, rfl⟩,
        fourRecordsQuery [some twoOfFour.response, none, none, some twoOfFour.response]
          ⟨_, rfl⟩],
      x.2.Complete passOn x.1 := by
  intro h
  have hmarks := (h _ (List.mem_cons_of_mem _ List.mem_cons_self)).marks 1 (by decide)
  exact absurd (hmarks.mp (by decide +kernel)) (by decide)

end GB28181.Lib.Answers.RecordPages
