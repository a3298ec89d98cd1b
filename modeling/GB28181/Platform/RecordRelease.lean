import Mathlib.Data.List.Sigma
import GB28181.Platform.BodyBuffers
import GB28181.Platform.PageLoops

/-!
# Freeing the video records (`SDKCom/SDKInfoSearcherMgr.cpp`)

`VideoRecordsSeachMgr::GetCatalogBodyContent` frees each record behind the call that writes it.
When a builder fails it frees the record it was at and all from the position on; the list is emptied
with the last record.

* `videoLoop_spec` — what the loop leaves, wherever it is left;
* `videoPage_spec` — a page either ends it all with every record freed, or stands before the rest;
* `records_freed_once` — whatever the builders answer, the calls of a context free every record
  once, after its last use, and leave an empty list.
-/

set_option autoImplicit false

namespace GB28181.Platform.PageLoops

open GB28181.Base Own BodyBuilder

variable {ι σ : Type}

/-- The accesses to records that were written. -/
def usedAndFreed (records : List ι) : List (Event ι) := records.flatMap fun r => [.use r, .give r]

theorem usedAndFreed_append (done rest : List ι) :
    usedAndFreed (done ++ rest) = usedAndFreed done ++ usedAndFreed rest := List.flatMap_append

theorem usedAndFreed_singleton (r : ι) : usedAndFreed [r] = [.use r, .give r] := rfl

/-- The records before the position are freed, those behind it were not touched. -/
def Standing (records : List ι) (s : VideoList ι σ) : Prop :=
  ∃ done, records = done ++ s.pContext.posRecordMap ∧ s.accesses = usedAndFreed done

/-- All are freed, some without a use, and the list is empty. -/
def Freed (records : List ι) (s : VideoList ι σ) : Prop :=
  s.m_oRecordList = [] ∧
    ∃ done rest, records = done ++ rest ∧ s.accesses = usedAndFreed done ++ rest.map .give

structure Between (MAX_LIST_LEN : Nat) (records : List ι) (s : VideoList ι σ) : Prop where
  list : s.m_oRecordList = records
  standing : Standing records s
  more : s.pContext.posRecordMap ≠ []
  surplus : s.pContext.nSurplus = pageSum MAX_LIST_LEN s.pContext.posRecordMap.length

section loop

variable {MAX_LIST_LEN : Nat} {call : BuilderCall σ} {b : PageBuilders ι} {nBufLen : Int}
  {records : List ι} {s : VideoList ι σ}

theorem freed_error (h : Standing records s) : Freed records (s.error none).2 := by
  obtain ⟨done, hrecords, haccesses⟩ := h
  refine ⟨rfl, done, s.pContext.posRecordMap, hrecords, ?_⟩
  show s.accesses ++ [] ++ s.pContext.posRecordMap.map .give = _
  rw [haccesses, List.append_nil]

theorem freed_error_at {r : ι} {done : List ι}
    (hrecords : records = done ++ r :: s.pContext.posRecordMap)
    (haccesses : s.accesses = usedAndFreed done ++ [.use r]) :
    Freed records (s.error (some r)).2 := by
  refine ⟨rfl, done ++ [r], s.pContext.posRecordMap, ?_, ?_⟩
  · rw [hrecords, List.append_assoc]
    rfl
  · show s.accesses ++ [.give r] ++ s.pContext.posRecordMap.map .give = _
    rw [haccesses, usedAndFreed_append, usedAndFreed_singleton]
    simp

/-- **What the loop leaves**, whatever the builder answers: an error with the record at hand used,
or the position moved on. -/
theorem videoLoop_spec (h : Standing records s) (hmore : s.pContext.posRecordMap ≠ []) (left : Nat)
    (nCountUsed : Nat) :
    match videoLoop call b nBufLen left s nCountUsed with
    | .noPosition => False
    | .error s' r => ∃ done, records = done ++ r :: s'.pContext.posRecordMap ∧
        s'.accesses = usedAndFreed done ++ [.use r]
    | .through s' _ => Standing records s' ∧
        s'.pContext.posRecordMap = s.pContext.posRecordMap.drop left ∧
        s'.pContext.nSurplus = s.pContext.nSurplus ∧
        s'.m_oRecordList =
          if s'.pContext.posRecordMap = [] then [] else s.m_oRecordList := by
  induction left generalizing s nCountUsed with
  | zero => exact ⟨h, rfl, rfl, (if_neg hmore).symm⟩
  | succ left ih =>
    obtain ⟨r, rest, hpos⟩ := List.exists_cons_of_ne_nil hmore
    obtain ⟨done, hrecords, haccesses⟩ := h
    rw [hpos] at hrecords
    rw [videoLoop, hpos]
    dsimp only
    rcases call (b.item r) nCountUsed (nBufLen - nCountUsed) s.pszInfo with ⟨_ | n, pszInfo⟩
    · exact ⟨done, hrecords, by rw [haccesses]⟩
    · dsimp only
      have hnext : s.accesses ++ [.use r, .give r] = usedAndFreed (done ++ [r]) := by
        rw [haccesses, usedAndFreed_append, usedAndFreed_singleton]
      have hsplit : records = (done ++ [r]) ++ rest := by
        rw [hrecords, List.append_assoc]
        rfl
      by_cases hlast : rest = []
      · rw [if_pos hlast]
        refine ⟨⟨done ++ [r], hsplit, hnext⟩, ?_, rfl, (if_pos hlast).symm⟩
        show rest = rest.drop left
        rw [hlast, List.drop_nil]
      · rw [if_neg hlast]
        exact ih ⟨done ++ [r], hsplit, hnext⟩ hlast _

def started (MAX_LIST_LEN : Nat) (s : VideoList ι σ) : VideoList ι σ :=
  { s with pContext := s.pContext.start MAX_LIST_LEN s.m_oRecordList }

theorem videoPage_of_surplus (h : (started MAX_LIST_LEN s).pContext.nSurplus ≠ 0) :
    videoPage MAX_LIST_LEN call b nBufLen s =
      match call (b.head s.m_oRecordList.length
        ((started MAX_LIST_LEN s).pContext.nListSum MAX_LIST_LEN)) 0 nBufLen s.pszInfo with
      | (none, pszInfo) => some ({ started MAX_LIST_LEN s with pszInfo := pszInfo }.error none)
      | (some nCompleteLen, pszInfo) =>
        match videoLoop call b nBufLen MAX_LIST_LEN
          { started MAX_LIST_LEN s with pszInfo := pszInfo } nCompleteLen with
        | .noPosition => none
        | .error s pRecord => some (s.error (some pRecord))
        | .through s nCountUsed =>
          match call b.tail nCountUsed (nBufLen - nCountUsed) s.pszInfo with
          | (none, pszInfo) => some ({ s with pszInfo := pszInfo }.error none)
          | (some _, pszInfo) => some (s.pContext.nSurplus - 1,
            { s with
              pContext := { s.pContext with nSurplus := s.pContext.nSurplus - 1 }
              pszInfo := pszInfo }) := by
  have hnot : ¬ (s.pContext.posRecordMap.isEmpty = true ∧
      (started MAX_LIST_LEN s).pContext.nSurplus = 0) := fun hzero => h hzero.2
  exact (if_neg hnot).trans (if_pos h)

/-- **A page with records**: it is the last one, with all freed, or stands before the rest. -/
theorem videoPage_spec (hMAX : 0 < MAX_LIST_LEN)
    (h : Between MAX_LIST_LEN records (started MAX_LIST_LEN s)) :
    ∃ r s', videoPage MAX_LIST_LEN call b nBufLen s = some (r, s') ∧
      (r ≤ 0 ∧ Freed records s' ∨ 0 < r ∧ Between MAX_LIST_LEN records s' ∧
        s'.pContext.posRecordMap.length <
          (started MAX_LIST_LEN s).pContext.posRecordMap.length) := by
  have hpos : 0 < (started MAX_LIST_LEN s).pContext.posRecordMap.length :=
    List.length_pos_iff.mpr h.more
  have hsurplus : (started MAX_LIST_LEN s).pContext.nSurplus ≠ 0 := by
    rw [h.surplus, pageSum_eq _ hpos]
    exact Int.natCast_ne_zero.mpr (Nat.succ_ne_zero _)
  rw [videoPage_of_surplus hsurplus]
  rcases call _ 0 nBufLen s.pszInfo with ⟨_ | n, pszInfo⟩
  · exact ⟨_, _, rfl, .inl ⟨by decide, freed_error h.standing⟩⟩
  · dsimp only
    have hloop := @videoLoop_spec ι σ call b nBufLen records
      { started MAX_LIST_LEN s with pszInfo := pszInfo } h.standing h.more MAX_LIST_LEN n
    revert hloop
    rcases videoLoop call b nBufLen MAX_LIST_LEN
      { started MAX_LIST_LEN s with pszInfo := pszInfo } n with _ | ⟨s', r⟩ | ⟨s', nCountUsed⟩
    · exact fun hloop => hloop.elim
    · rintro ⟨done, hrecords, haccesses⟩
      exact ⟨_, _, rfl, .inl ⟨by decide, freed_error_at hrecords haccesses⟩⟩
    · rintro ⟨hstanding, hmoved, hkept, hlist⟩
      dsimp only
      rcases call b.tail nCountUsed (nBufLen - nCountUsed) s'.pszInfo with ⟨_ | _, pszInfo'⟩
      · exact ⟨_, _, rfl, .inl ⟨by decide, freed_error hstanding⟩⟩
      · refine ⟨_, _, rfl, ?_⟩
        have hsum : s'.pContext.nSurplus =
            pageSum MAX_LIST_LEN (started MAX_LIST_LEN s).pContext.posRecordMap.length :=
          hkept.trans h.surplus
        have hrest : s'.pContext.posRecordMap.length =
            (started MAX_LIST_LEN s).pContext.posRecordMap.length - MAX_LIST_LEN := by
          rw [hmoved, List.length_drop]
        by_cases hle : (started MAX_LIST_LEN s).pContext.posRecordMap.length ≤ MAX_LIST_LEN
        · -- the last page
          have hnil : s'.pContext.posRecordMap = [] := List.eq_nil_of_length_eq_zero (by omega)
          obtain ⟨done, hrecords, haccesses⟩ := hstanding
          rw [if_pos hnil] at hlist
          rw [hnil] at hrecords
          refine .inl ⟨?_, hlist, done, [], hrecords, ?_⟩
          · rw [hsum, pageSum_of_le _ hpos hle]
            decide
          · exact haccesses.trans (List.append_nil _).symm
        · have hlt : MAX_LIST_LEN < (started MAX_LIST_LEN s).pContext.posRecordMap.length :=
            Nat.lt_of_not_le hle
          have hne : s'.pContext.posRecordMap ≠ [] := List.ne_nil_of_length_pos (by omega)
          have hleft : s'.pContext.nSurplus - 1 =
              pageSum MAX_LIST_LEN s'.pContext.posRecordMap.length := by
            rw [hsum, hrest, pageSum_of_lt _ hMAX hlt]
            omega
          rw [if_neg hne] at hlist
          refine .inr ⟨?_, ⟨hlist.trans h.list, hstanding, hne, hleft⟩, ?_⟩
          · rw [hleft, pageSum_eq _ (List.length_pos_iff.mpr hne)]
            exact Int.natCast_pos.mpr (Nat.succ_pos _)
          · show s'.pContext.posRecordMap.length < _
            omega

theorem videoPage_of_nil (hlist : s.m_oRecordList = []) (hpos : s.pContext.posRecordMap = [])
    (haccesses : s.accesses = []) :
    ∃ r s', videoPage MAX_LIST_LEN call b nBufLen s = some (r, s') ∧ r ≤ 0 ∧ Freed [] s' := by
  have hstart : (started MAX_LIST_LEN s).pContext = ⟨[], 0, 0⟩ := by
    unfold started InfoContext_t.start
    rw [hpos, hlist]
    simp [pageSum]
  have hzero : s.pContext.posRecordMap.isEmpty = true ∧
      (started MAX_LIST_LEN s).pContext.nSurplus = 0 := by
    rw [hpos, hstart]
    exact ⟨rfl, rfl⟩
  have hstanding : Standing [] (started MAX_LIST_LEN s) := by
    refine ⟨[], ?_, haccesses⟩
    rw [hstart]
    rfl
  have hpage : videoPage MAX_LIST_LEN call b nBufLen s = _ := if_pos hzero
  rw [hpage]
  rcases call _ 0 nBufLen _ with ⟨_ | n, pszInfo⟩
  · exact ⟨_, _, rfl, by decide, freed_error hstanding⟩
  · dsimp only
    rcases call b.tail n (nBufLen - n) pszInfo with ⟨_ | _, pszInfo'⟩
    · exact ⟨_, _, rfl, by decide, freed_error hstanding⟩
    · exact ⟨_, _, rfl, by decide, hlist, [], [], rfl, haccesses⟩

end loop

/-! ## All calls -/

section calls

variable {MAX_LIST_LEN : Nat} {call : BuilderCall σ} {b : PageBuilders ι} {nBufLen : Int}
  {records : List ι} {s : VideoList ι σ} {next : σ → σ}

theorem started_of_between (h : Between MAX_LIST_LEN records s) : started MAX_LIST_LEN s = s := by
  unfold started
  rw [start_of_pos _ h.more]

theorem between_started (hlist : s.m_oRecordList = records) (hcontext : s.pContext = {})
    (haccesses : s.accesses = []) (hne : records ≠ []) :
    Between MAX_LIST_LEN records (started MAX_LIST_LEN s) := by
  have hstart : (started MAX_LIST_LEN s).pContext =
      ⟨records, pageSum MAX_LIST_LEN records.length, records.length⟩ := by
    unfold started InfoContext_t.start
    rw [hcontext, hlist]
  refine ⟨hlist, ⟨[], ?_, haccesses⟩, ?_, ?_⟩
  · rw [hstart]
    rfl
  · rw [hstart]
    exact hne
  · rw [hstart]

theorem videoCall_spec (hMAX : 0 < MAX_LIST_LEN)
    (h : Between MAX_LIST_LEN records (started MAX_LIST_LEN s)) :
    ∃ r p s', videoCall (videoPage MAX_LIST_LEN call b nBufLen) next s = some (r, p, s') ∧
      (r ≤ 0 ∧ Freed records s' ∨ 0 < r ∧ Between MAX_LIST_LEN records s' ∧
        s'.pContext.posRecordMap.length <
          (started MAX_LIST_LEN s).pContext.posRecordMap.length) := by
  obtain ⟨r, s', hpage, hend⟩ := @videoPage_spec ι σ MAX_LIST_LEN call b nBufLen records s hMAX h
  refine ⟨r, s'.pszInfo, { s' with pszInfo := next s'.pszInfo }, ?_, ?_⟩
  · rw [videoCall, hpage]
    rfl
  · rcases hend with ⟨hr, hfreed⟩ | ⟨hr, hnext, hlt⟩
    · exact .inl ⟨hr, hfreed⟩
    · exact .inr ⟨hr, ⟨hnext.list, hnext.standing, hnext.more, hnext.surplus⟩, hlt⟩

/-- **The calls of a context** end with every record freed. -/
theorem ends_freed (hMAX : 0 < MAX_LIST_LEN) (pszInfo : σ) :
    ∃ pages s', CallsEnd (videoCall (videoPage MAX_LIST_LEN call b nBufLen) next)
      { m_oRecordList := records, pszInfo := pszInfo } pages s' ∧ Freed records s' := by
  -- before the first call, or between two with some records left
  let Inv (k : Nat) (s : VideoList ι σ) : Prop :=
    k = records.length + 1 ∧ s.m_oRecordList = records ∧ s.pContext = {} ∧ s.accesses = [] ∨
      Between MAX_LIST_LEN records s ∧ k = s.pContext.posRecordMap.length
  have hfirst : Inv (records.length + 1) { m_oRecordList := records, pszInfo := pszInfo } :=
    .inl ⟨rfl, rfl, rfl, rfl⟩
  refine ends_of_countdown ?_ hfirst
  rintro k s (⟨rfl, hlist, hcontext, haccesses⟩ | ⟨hbetween, rfl⟩)
  · by_cases hnil : records = []
    · obtain ⟨r, s', hpage, hr, hfreed⟩ := @videoPage_of_nil ι σ MAX_LIST_LEN call b nBufLen s
        (hlist.trans hnil) (congrArg (·.posRecordMap) hcontext) haccesses
      refine ⟨r, s'.pszInfo, { s' with pszInfo := next s'.pszInfo }, ?_, .inl ⟨hr, ?_⟩⟩
      · rw [videoCall, hpage]
        rfl
      · rw [hnil]
        exact hfreed
    · have hstart : Between MAX_LIST_LEN records (started MAX_LIST_LEN s) :=
        between_started hlist hcontext haccesses hnil
      have hpos : (started MAX_LIST_LEN s).pContext.posRecordMap.length = records.length := by
        unfold started InfoContext_t.start
        rw [hcontext, hlist]
      obtain ⟨r, p, s', hcall, hend⟩ := videoCall_spec hMAX hstart
      refine ⟨r, p, s', hcall, ?_⟩
      rcases hend with hdone | ⟨hr, hnext, hlt⟩
      · exact .inl hdone
      · rw [hpos] at hlt
        exact .inr ⟨hr, _, Nat.lt_succ_of_lt hlt, .inr ⟨hnext, rfl⟩⟩
  · have hstart := started_of_between hbetween
    have hagain : Between MAX_LIST_LEN records (started MAX_LIST_LEN s) := by
      rw [hstart]
      exact hbetween
    obtain ⟨r, p, s', hcall, hend⟩ := videoCall_spec hMAX hagain
    rw [hstart] at hend
    refine ⟨r, p, s', hcall, ?_⟩
    rcases hend with hdone | ⟨hr, hnext, hlt⟩
    · exact .inl hdone
    · exact .inr ⟨hr, _, hlt, .inr ⟨hnext, rfl⟩⟩

end calls

/-! ## Once each -/

theorem on_usedAndFreed {records : List ι} {e : Event ι} (h : e ∈ usedAndFreed records) :
    e.on ∈ records := by
  obtain ⟨r, hr, he⟩ := List.mem_flatMap.mp h
  rcases List.mem_cons.mp he with rfl | he
  · exact hr
  · rcases List.mem_singleton.mp he with rfl
    exact hr

theorem on_map_give {records : List ι} {e : Event ι} (h : e ∈ records.map Event.give) :
    e.on ∈ records := by
  obtain ⟨r, hr, rfl⟩ := List.mem_map.mp h
  exact hr

/-- Different records, all freed: each once, and not touched afterwards. -/
theorem Freed.givenOnce {records : List ι} {s : VideoList ι σ} (h : Freed records s)
    (hnodup : records.Nodup) {r : ι} (hr : r ∈ records) : GivenOnce r s.accesses := by
  obtain ⟨-, done, rest, rfl, haccesses⟩ := h
  obtain ⟨hdone, hrest, hdisjoint⟩ := List.nodup_append.mp hnodup
  rw [haccesses]
  rcases List.mem_append.mp hr with hr | hr
  · -- used and freed
    obtain ⟨before, after, rfl⟩ := List.append_of_mem hr
    have hother : r ∉ before ∧ r ∉ after := by
      rw [List.nodup_middle, List.nodup_cons, List.mem_append, not_or] at hdone
      exact hdone.1
    refine ⟨usedAndFreed before ++ [.use r], usedAndFreed after ++ rest.map .give, ?_, ?_, ?_⟩
    · rw [List.append_cons before r after, usedAndFreed_append, usedAndFreed_append,
        usedAndFreed_singleton]
      simp
    · intro e he hon
      rcases List.mem_append.mp he with he | he
      · exact absurd (hon ▸ on_usedAndFreed he) hother.1
      · exact List.mem_singleton.mp he
    · intro e he hon
      rcases List.mem_append.mp he with he | he
      · exact hother.2 (hon ▸ on_usedAndFreed he)
      · exact hdisjoint r (by simp) e.on (on_map_give he) hon.symm
  · -- freed without a use
    obtain ⟨before, after, rfl⟩ := List.append_of_mem hr
    have hother : r ∉ before ∧ r ∉ after := by
      rw [List.nodup_middle, List.nodup_cons, List.mem_append, not_or] at hrest
      exact hrest.1
    refine ⟨usedAndFreed done ++ before.map .give, after.map .give, ?_, ?_, ?_⟩
    · simp
    · intro e he hon
      rcases List.mem_append.mp he with he | he
      · exact absurd hon (hdisjoint e.on (on_usedAndFreed he) r (by simp))
      · exact absurd (hon ▸ on_map_give he) hother.1
    · intro e he hon
      exact hother.2 (hon ▸ on_map_give he)

theorem Freed.on_mem {records : List ι} {s : VideoList ι σ} (h : Freed records s) :
    ∀ e ∈ s.accesses, e.on ∈ records := by
  obtain ⟨-, done, rest, rfl, haccesses⟩ := h
  rw [haccesses]
  intro e he
  rcases List.mem_append.mp he with he | he
  · exact List.mem_append_left _ (on_usedAndFreed he)
  · exact List.mem_append_right _ (on_map_give he)

/-- **Every record is freed once.**  Whatever the body builder answers, the calls of
`GetCatalogBodyContent` with one context end; then the list is empty, every record of it was freed
once and not read afterwards, and no other object was touched.  A record is told from others like it
by its place. -/
theorem records_freed_once (l : Lengths) (mgr : VideoRecordsSeachMgr) (pstrSN : CText)
    {MAX_LIST_LEN : Nat} (hMAX : 0 < MAX_LIST_LEN) (call : BuilderCall σ) (nBufLen : Int)
    (next : σ → σ) (pszInfo : σ) (m_oRecordList : List VideoRecordItem) :
    ∃ pages s', CallsEnd (videoCall (mgr.GetCatalogBodyContent l pstrSN Prod.fst MAX_LIST_LEN call
        nBufLen) next) { m_oRecordList := m_oRecordList.zipIdx, pszInfo := pszInfo } pages s' ∧
      s'.m_oRecordList = [] ∧ (∀ r ∈ m_oRecordList.zipIdx, GivenOnce r s'.accesses) ∧
        ∀ e ∈ s'.accesses, e.on ∈ m_oRecordList.zipIdx := by
  obtain ⟨pages, s', hends, hfreed⟩ := @ends_freed (VideoRecordItem × Nat) σ MAX_LIST_LEN call
    (mgr.builders l pstrSN Prod.fst) nBufLen m_oRecordList.zipIdx next hMAX pszInfo
  have hnodup : m_oRecordList.zipIdx.Nodup :=
    List.Nodup.of_map Prod.snd (List.nodup_zipIdx_map_snd _)
  exact ⟨pages, s', hends, hfreed.1, fun r hr => hfreed.givenOnce hnodup hr, hfreed.on_mem⟩

/-- A builder that answers as the list says, and fails when it is used up. -/
def answers : BuilderCall (List Bool) :=
  fun _ _ _ s => (if s.headD false then some 0 else none, s.tail)

theorem zero_notMem_empty : (0 : UInt8) ∉ ([] : CStr) := List.not_mem_nil

def emptyText : CText := ⟨[], zero_notMem_empty⟩

def emptyRecord : VideoRecordItem :=
  ⟨0, emptyText, emptyText, emptyText, emptyText, emptyText, emptyText, emptyText⟩

/-- Three like records, one a page; the second cannot be written. -/
theorem records_freed_once_three :
    0 < 1 ∧ ∃ pages s', CallsEnd (videoCall (VideoRecordsSeachMgr.GetCatalogBodyContent usualLengths
        ⟨emptyText, emptyText⟩ emptyText Prod.fst 1 answers 100) id)
        { m_oRecordList := (List.replicate 3 emptyRecord).zipIdx
          pszInfo := [true, true, true, true, false] } pages s' ∧
      s'.m_oRecordList = [] ∧
        (∀ r ∈ (List.replicate 3 emptyRecord).zipIdx, GivenOnce r s'.accesses) ∧
          ∀ e ∈ s'.accesses, e.on ∈ (List.replicate 3 emptyRecord).zipIdx :=
  ⟨Nat.one_pos, records_freed_once usualLengths ⟨emptyText, emptyText⟩ emptyText Nat.one_pos answers
    100 id _ _⟩

end GB28181.Platform.PageLoops
