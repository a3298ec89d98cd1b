import GB28181.Platform.RecordSearch

/-!
# Runs of record searches (`SDKCom/SDKCom.cpp`)

While no step disturbs the others, one search is under way at a time, the first query in the list
is its own, and the device name is that of all queries that wait.

* `Progress.write` — the pages of an answer take the list apart;
* `Inv` — where the last search is, and the queries before and behind it;
* `answers_run` — **in every run in which no search outlasts the wait for it, and no device name is
  set over that of another query**, every query is answered once and from its own search.
-/

set_option autoImplicit false

namespace GB28181.Platform.RecordSearch

open GB28181.Base

variable {ρ : Type}

/-! ## Pages of one answer -/

section Pages

variable {MAX_LIST_LEN : Nat} {hasRoom : Page ρ → Bool}

/-- How far the records of a list are written to pages. -/
def Progress (MAX_LIST_LEN : Nat) (records m_oRecordList : List (VideoRecordItem ρ))
    (pContext : InfoContext) (pages : List (Page ρ)) : Prop :=
  m_oRecordList = records ∧
    (pContext.posRecordMap = none ∧ pages = [] ∨
      ∃ pos, pContext.posRecordMap = some pos ∧ pos < records.length ∧
        pContext.nSurplus = pageSum MAX_LIST_LEN (records.length - pos) ∧
        pages.flatMap Page.records = records.take pos)

theorem pageSum_pos (hmax : 0 < MAX_LIST_LEN) {n : Nat} (hn : 0 < n) :
    0 < pageSum MAX_LIST_LEN n := by
  by_cases hle : n ≤ MAX_LIST_LEN
  · rw [pageSum_of_le MAX_LIST_LEN hn hle]
    decide
  · rw [pageSum_of_lt MAX_LIST_LEN hmax (by omega)]
    omega

theorem Progress.start {records : List (VideoRecordItem ρ)} {s : VideoRecordsSeachMgr ρ}
    {pContext : InfoContext} {pages : List (Page ρ)}
    (h : Progress MAX_LIST_LEN records s.m_oRecordList pContext pages) :
    ∃ pos, (pContext.start MAX_LIST_LEN s.m_oRecordList.length).posRecordMap = some pos ∧
      (pos < s.m_oRecordList.length ∨ s.m_oRecordList = []) ∧
      (pContext.start MAX_LIST_LEN s.m_oRecordList.length).nSurplus =
        pageSum MAX_LIST_LEN (s.m_oRecordList.length - pos) ∧
      pages.flatMap Page.records = s.m_oRecordList.take pos := by
  obtain ⟨rfl, ⟨hnone, rfl⟩ | ⟨pos, hpos, hlt, hsurplus, hpages⟩⟩ := h
  · rw [InfoContext.start, hnone]
    refine ⟨0, rfl, ?_, rfl, rfl⟩
    rcases List.eq_nil_or_concat s.m_oRecordList with hnil | ⟨l, a, hl⟩
    · exact Or.inr hnil
    · exact Or.inl (by rw [hl]; simp)
  · rw [InfoContext.start, hpos]
    exact ⟨pos, hpos, Or.inl hlt, hsurplus, hpages⟩

/-- A page that has room takes the next records, and says whether there are more. -/
theorem Progress.write (hmax : 0 < MAX_LIST_LEN) {records : List (VideoRecordItem ρ)}
    {s : VideoRecordsSeachMgr ρ} {strSN : CStr} {pContext : InfoContext} {pages : List (Page ρ)}
    (h : Progress MAX_LIST_LEN records s.m_oRecordList pContext pages)
    (hroom : hasRoom (nextPage MAX_LIST_LEN s strSN pContext) = true) :
    let written := getCatalogBodyContent MAX_LIST_LEN hasRoom s strSN pContext
    written.page = nextPage MAX_LIST_LEN s strSN pContext ∧
      if 0 < written.result then
        Progress MAX_LIST_LEN records written.m_oRecordList written.pContext
          (pages ++ [written.page])
      else
        written.m_oRecordList = [] ∧
          (pages ++ [written.page]).flatMap Page.records = records := by
  obtain ⟨pos, hpos, hlt, hsurplus, hpages⟩ := h.start
  obtain ⟨rfl, -⟩ := h
  have hflat : (pages ++ [nextPage MAX_LIST_LEN s strSN pContext]).flatMap Page.records =
      s.m_oRecordList.take (pos + MAX_LIST_LEN) := by
    rw [List.flatMap_append, hpages, List.flatMap_singleton, List.take_add]
    simp only [nextPage, hpos, Option.getD_some]
  simp only [getCatalogBodyContent, hroom, Bool.true_eq_false, if_false]
  cases hn : (pContext.start MAX_LIST_LEN s.m_oRecordList.length).nSurplus with
  | zero =>
    have hnil : s.m_oRecordList = [] := by
      refine hlt.resolve_left fun hlt => ?_
      have hsome := pageSum_pos hmax (Nat.sub_pos_of_lt hlt)
      omega
    refine ⟨rfl, ?_⟩
    rw [if_neg (Int.lt_irrefl 0), hflat, hnil]
    exact ⟨rfl, List.take_nil⟩
  | succ nSurplus =>
    rw [hn] at hsurplus
    simp only [hpos, Option.getD_some]
    by_cases hlast : s.m_oRecordList.length ≤ pos + MAX_LIST_LEN
    · have hzero : nSurplus = 0 := by
        rcases hlt with hlt | hnil
        · rw [pageSum_of_le MAX_LIST_LEN (by omega) (by omega)] at hsurplus
          omega
        · rw [hnil] at hsurplus
          simp [pageSum] at hsurplus
      subst hzero
      rw [if_pos hlast]
      have hnot : ¬ (0 : Int) < ((0 : Nat) : Int) := by decide
      refine ⟨rfl, (if_neg hnot).mpr ⟨rfl, ?_⟩⟩
      rw [hflat, List.take_of_length_le hlast]
    · rw [pageSum_of_lt MAX_LIST_LEN hmax (by omega), Nat.add_right_cancel_iff] at hsurplus
      have hrest : s.m_oRecordList.length - (pos + MAX_LIST_LEN) =
          s.m_oRecordList.length - pos - MAX_LIST_LEN := by omega
      have hmore : 0 < nSurplus := by
        rw [hsurplus]
        exact pageSum_pos hmax (by omega)
      rw [if_neg hlast]
      refine ⟨rfl, ?_⟩
      rw [if_pos (Int.natCast_pos.mpr hmore)]
      exact ⟨rfl, Or.inr ⟨pos + MAX_LIST_LEN, rfl, by omega, hrest ▸ hsurplus, hflat⟩⟩

end Pages

/-! ## Where the searches are -/

/-- The answer of a search is complete. -/
structure Complete (queries : List Query) (f : Search ρ) : Prop where
  answers : f.answers = some f.query
  own : ∃ q, queries[f.query]? = some q ∧ (∀ page ∈ f.pages, Carries q page) ∧
    f.pages.flatMap Page.records = items q f.returned

section Stages

variable (MAX_LIST_LEN : Nat) (queries : List Query) (m_oUnifiedMsgList : List Nat)
  (m_oRecordList : List (VideoRecordItem ρ)) (m_strDeviceID : CStr) (proc : ProcRecordSearch)

/-- The search that is under way, with the queries `gone` before it. -/
inductive Running (gone : List Nat) (f : Search ρ) : Prop
  | active (phase : f.phase = .active) (answers : f.answers = none) (pages : f.pages = [])
      (q : Query) (query : queries[f.query]? = some q) (rest : List Nat)
      (head : m_oUnifiedMsgList = f.query :: rest)
      (account : gone ++ m_oUnifiedMsgList = List.range queries.length)
      (records : m_oRecordList = items q f.returned)
  | answering (q : Query) (tContext : InfoContext) (phase : f.phase = .answering q.strSN tContext)
      (answers : f.answers = some f.query) (query : queries[f.query]? = some q) (rest : List Nat)
      (head : m_oUnifiedMsgList = f.query :: rest)
      (account : gone ++ m_oUnifiedMsgList = List.range queries.length)
      (id : m_strDeviceID = q.strDeviceID) (named : proc ≠ .appended f.query)
      (pages : ∀ page ∈ f.pages, Carries q page)
      (progress : Progress MAX_LIST_LEN (items q f.returned) m_oRecordList tContext f.pages)
  | pushed (phase : f.phase = .pushed) (complete : Complete queries f) (rest : List Nat)
      (head : m_oUnifiedMsgList = f.query :: rest)
      (account : gone ++ m_oUnifiedMsgList = List.range queries.length)
      (records : m_oRecordList = [])
  | removed (phase : f.phase = .removed) (complete : Complete queries f)
      (account : gone ++ f.query :: m_oUnifiedMsgList = List.range queries.length)
      (records : m_oRecordList = [])

/-- All searches are over, or the last one is under way and waited for. -/
inductive Stage (thread : SearchThread) (m_oFinishEvent : Bool) (searches : List (Search ρ)) : Prop
  | resting (ended : ∀ f ∈ searches, f.phase = .done ∧ Complete queries f)
      (account : searches.map Search.query ++ m_oUnifiedMsgList = List.range queries.length)
      (records : m_oRecordList = [])
      (event : thread = .waitSearchFinish ↔ m_oFinishEvent = true)
  | running (past : List (Search ρ)) (f : Search ρ) (all : searches = past ++ [f])
      (ended : ∀ f ∈ past, f.phase = .done ∧ Complete queries f)
      (waits : thread = .waitSearchFinish) (event : m_oFinishEvent = false)
      (current : Running MAX_LIST_LEN queries m_oUnifiedMsgList m_oRecordList m_strDeviceID proc
        (past.map Search.query) f)

end Stages

/-- One search at a time, and the device name of the queries that wait. -/
structure Inv (MAX_LIST_LEN : Nat) (s : VideoRecordsSeachMgr ρ) : Prop where
  runs : s.faulted = false
  atOnce : ∀ a ∈ s.atOnce, Carries a.1 a.2 ∧ a.2.records = []
  named : ∀ n ∈ s.m_oUnifiedMsgList, s.proc ≠ .appended n → ∀ q, s.queries[n]? = some q →
    s.m_strDeviceName = q.strDeviceName
  stage : Stage MAX_LIST_LEN s.queries s.m_oUnifiedMsgList s.m_oRecordList s.m_strDeviceID s.proc
    s.thread s.m_oFinishEvent s.searches

section Stages

variable {MAX_LIST_LEN : Nat} {hasRoom : Page ρ → Bool} {s : VideoRecordsSeachMgr ρ}

theorem inv_init : Inv MAX_LIST_LEN ({} : VideoRecordsSeachMgr ρ) :=
  ⟨rfl, nofun, nofun, .resting nofun rfl rfl ⟨nofun, nofun⟩⟩

theorem Inv.account (h : Inv MAX_LIST_LEN s) :
    ∃ gone, gone ++ s.m_oUnifiedMsgList = List.range s.queries.length := by
  cases h.stage with
  | resting _ account => exact ⟨_, account⟩
  | running past f _ _ _ _ current =>
    cases current with
    | active _ _ _ _ _ _ _ account => exact ⟨_, account⟩
    | answering _ _ _ _ _ _ _ account => exact ⟨_, account⟩
    | pushed _ _ _ _ account => exact ⟨_, account⟩
    | removed _ _ account =>
      exact ⟨past.map Search.query ++ [f.query], by rw [List.append_assoc]; exact account⟩

theorem Inv.lt (h : Inv MAX_LIST_LEN s) {n : Nat} (hn : n ∈ s.m_oUnifiedMsgList) :
    n < s.queries.length := by
  obtain ⟨gone, hgone⟩ := h.account
  rw [← List.mem_range, ← hgone]
  exact List.mem_append_right _ hn

theorem Inv.queries_eq (h : Inv MAX_LIST_LEN s) :
    ∃ rest, s.searches.map Search.query ++ rest = List.range s.queries.length := by
  cases h.stage with
  | resting _ account => exact ⟨_, account⟩
  | running past f all _ _ _ current =>
    rw [all, List.map_append]
    simp only [List.append_assoc]
    cases current with
    | active _ _ _ _ _ rest head account => exact ⟨rest, by rw [← account, head]; rfl⟩
    | answering _ _ _ _ _ rest head account => exact ⟨rest, by rw [← account, head]; rfl⟩
    | pushed _ _ rest head account => exact ⟨rest, by rw [← account, head]; rfl⟩
    | removed _ _ account => exact ⟨s.m_oUnifiedMsgList, account⟩

theorem Inv.own (h : Inv MAX_LIST_LEN s) {f : Search ρ} (hf : f ∈ s.searches) {n : Nat}
    (hn : f.answers = some n) : f.query = n ∧
      ∃ q, s.queries[n]? = some q ∧ (∀ page ∈ f.pages, Carries q page) ∧
        (f.phase.Pushed → f.pages.flatMap Page.records = items q f.returned) := by
  have hcomplete : Complete s.queries f → f.query = n ∧
      ∃ q, s.queries[n]? = some q ∧ (∀ page ∈ f.pages, Carries q page) ∧
        (f.phase.Pushed → f.pages.flatMap Page.records = items q f.returned) := by
    rintro ⟨hanswers, q, hq, hpages, hrecords⟩
    rw [hanswers] at hn
    obtain rfl := Option.some.inj hn
    exact ⟨rfl, q, hq, hpages, fun _ => hrecords⟩
  cases h.stage with
  | resting ended => exact hcomplete (ended f hf).2
  | running past g all ended _ _ current =>
    rw [all] at hf
    rcases List.mem_append.mp hf with hf | hf
    · exact hcomplete (ended f hf).2
    · obtain rfl := List.mem_singleton.mp hf
      cases current with
      | active _ answers =>
        rw [answers] at hn
        cases hn
      | answering q _ phase answers query _ _ _ _ _ pages =>
        rw [answers] at hn
        obtain rfl := Option.some.inj hn
        refine ⟨rfl, q, query, pages, fun hp => ?_⟩
        rw [phase] at hp
        exact hp.elim
      | pushed _ complete => exact hcomplete complete
      | removed _ complete => exact hcomplete complete

theorem Inv.ownAnswers (h : Inv MAX_LIST_LEN s) : OwnAnswers s := by
  refine ⟨h.runs, h.atOnce, fun f hf n hn => h.own hf hn, ?_, ?_⟩
  · intro k k' f f' hk hk' n hn hn'
    obtain ⟨rest, hrest⟩ := h.queries_eq
    have hnodup : (s.searches.map Search.query).Nodup := by
      have hrange : (List.range s.queries.length).Nodup := List.nodup_range
      rw [← hrest] at hrange
      exact (List.nodup_append.mp hrange).1
    have hquery := (h.own (List.mem_of_getElem? hk) hn).1
    have hquery' := (h.own (List.mem_of_getElem? hk') hn').1
    have hlt : k < (s.searches.map Search.query).length := by
      rw [List.length_map]
      exact (List.getElem?_eq_some_iff.mp hk).1
    refine (List.getElem?_inj hlt hnodup).mp ?_
    rw [List.getElem?_map, List.getElem?_map, hk, hk', Option.map_some, Option.map_some, hquery,
      hquery']
  · intro hnil n hn
    cases h.stage with
    | resting ended account =>
      rw [hnil, List.append_nil] at account
      have hmem : n ∈ s.searches.map Search.query := by
        rw [account]
        exact List.mem_range.mpr hn
      obtain ⟨f, hf, rfl⟩ := List.mem_map.mp hmem
      obtain ⟨hdone, hcomplete⟩ := ended f hf
      exact ⟨f, hf, hcomplete.answers, by rw [hdone]; trivial⟩
    | running past g all ended _ _ current =>
      cases current with
      | active _ _ _ _ _ _ head =>
        rw [hnil] at head
        cases head
      | answering _ _ _ _ _ _ head =>
        rw [hnil] at head
        cases head
      | pushed _ _ _ head =>
        rw [hnil] at head
        cases head
      | removed phase complete account =>
        rw [hnil] at account
        have hmem : n ∈ past.map Search.query ++ [g.query] := by
          rw [account]
          exact List.mem_range.mpr hn
        rw [all]
        rcases List.mem_append.mp hmem with hmem | hmem
        · obtain ⟨f, hf, rfl⟩ := List.mem_map.mp hmem
          obtain ⟨hdone, hcomplete⟩ := ended f hf
          exact ⟨f, List.mem_append_left _ hf, hcomplete.answers, by rw [hdone]; trivial⟩
        · obtain rfl := List.mem_singleton.mp hmem
          exact ⟨g, List.mem_append_right _ (List.mem_singleton_self _), complete.answers,
            by rw [phase]; trivial⟩

/-! ## Steps -/

theorem Inv.current (h : Inv MAX_LIST_LEN s) {k : Nat} {f : Search ρ}
    (hk : s.searches[k]? = some f) (hphase : f.phase ≠ .done) :
    ∃ past, s.searches = past ++ [f] ∧ k = past.length ∧
      (∀ g ∈ past, g.phase = .done ∧ Complete s.queries g) ∧ s.thread = .waitSearchFinish ∧
      s.m_oFinishEvent = false ∧
      Running MAX_LIST_LEN s.queries s.m_oUnifiedMsgList s.m_oRecordList s.m_strDeviceID s.proc
        (past.map Search.query) f := by
  cases h.stage with
  | resting ended => exact absurd (ended f (List.mem_of_getElem? hk)).1 hphase
  | running past g all ended waits event current =>
    rw [all] at hk
    rcases Nat.lt_trichotomy k past.length with hlt | rfl | hgt
    · rw [List.getElem?_append_left hlt] at hk
      exact absurd (ended f (List.mem_of_getElem? hk)).1 hphase
    · rw [List.getElem?_concat_length] at hk
      obtain rfl := Option.some.inj hk
      exact ⟨past, all, rfl, ended, waits, event, current⟩
    · rw [List.getElem?_eq_none (by simp; omega)] at hk
      cases hk

theorem set_last {past : List (Search ρ)} {f g : Search ρ} :
    (past ++ [f]).set past.length g = past ++ [g] := by
  rw [List.set_append_right _ _ (Nat.le_refl _), Nat.sub_self, List.set_cons_zero]

theorem Inv.advance (h : Inv MAX_LIST_LEN s) {s' : VideoRecordsSeachMgr ρ}
    {past : List (Search ρ)} {f g : Search ρ} (hall : s.searches = past ++ [f])
    (hover : ∀ g ∈ past, g.phase = .done ∧ Complete s.queries g)
    (hwaits : s.thread = .waitSearchFinish) (hevent : s.m_oFinishEvent = false)
    (hs' : s' = { s.set past.length g with
      m_oUnifiedMsgList := s'.m_oUnifiedMsgList
      m_oRecordList := s'.m_oRecordList
      m_strDeviceID := s'.m_strDeviceID })
    (hsub : ∀ n ∈ s'.m_oUnifiedMsgList, n ∈ s.m_oUnifiedMsgList)
    (hcurrent : Running MAX_LIST_LEN s.queries s'.m_oUnifiedMsgList s'.m_oRecordList
      s'.m_strDeviceID s.proc (past.map Search.query) g) : Inv MAX_LIST_LEN s' := by
  rw [hs']
  refine ⟨h.runs, h.atOnce, fun n hn => h.named n (hsub n hn), ?_⟩
  refine .running past g ?_ hover hwaits hevent hcurrent
  show s.searches.set past.length g = past ++ [g]
  rw [hall, set_last]

theorem Inv.inserRecord (h : Inv MAX_LIST_LEN s) (k : Nat) (r : ρ) :
    Inv MAX_LIST_LEN (s.inserRecord k r true) := by
  unfold VideoRecordsSeachMgr.inserRecord
  split
  · next f hk =>
    split
    · next hphase =>
      obtain ⟨past, hall, rfl, hover, hwaits, hevent, hcurrent⟩ :=
        h.current hk (by rw [hphase]; exact nofun)
      cases hcurrent with
      | active _ answers pages q query rest head account records =>
        have hhead : s.m_oUnifiedMsgList.head? = some f.query := by rw [head]; rfl
        simp only [VideoRecordsSeachMgr.set, hhead, query, if_true]
        refine h.advance hall hover hwaits hevent (g := { f with returned := f.returned ++ [r] })
          rfl (fun n hn => hn) (.active hphase answers pages q query rest head account ?_)
        show s.m_oRecordList ++ _ = _
        rw [records, items, items, List.map_append]
        rfl
      | answering q tContext phase =>
        rw [hphase] at phase
        cases phase
      | pushed phase =>
        rw [hphase] at phase
        cases phase
      | removed phase =>
        rw [hphase] at phase
        cases phase
    · exact h
  · exact h

theorem Inv.handleRecordSearchResult (h : Inv MAX_LIST_LEN s) (k : Nat)
    (hnamed : ∀ n ∈ s.m_oUnifiedMsgList.head?, s.proc ≠ .appended n) :
    Inv MAX_LIST_LEN (s.handleRecordSearchResult k) := by
  unfold VideoRecordsSeachMgr.handleRecordSearchResult
  split
  · next f hk =>
    split
    · next hphase =>
      obtain ⟨past, hall, rfl, hover, hwaits, hevent, hcurrent⟩ :=
        h.current hk (by rw [hphase]; exact nofun)
      cases hcurrent with
      | active _ answers pages q query rest head account records =>
        have hhead : s.m_oUnifiedMsgList.head? = some f.query := by rw [head]; rfl
        simp only [hhead, query]
        refine h.advance hall hover hwaits hevent rfl (fun n hn => hn)
          (.answering q {} rfl rfl query rest head account rfl (hnamed _ hhead) ?_
            ⟨records, Or.inl ⟨rfl, pages⟩⟩)
        show ∀ page ∈ f.pages, _
        rw [pages]
        exact nofun
      | answering q tContext phase =>
        rw [hphase] at phase
        cases phase
      | pushed phase =>
        rw [hphase] at phase
        cases phase
      | removed phase =>
        rw [hphase] at phase
        cases phase
    · exact h
  · exact h

theorem Inv.pushPage (hmax : 0 < MAX_LIST_LEN) (h : Inv MAX_LIST_LEN s) (k : Nat)
    (hroom : ∀ f ∈ s.searches[k]?, ∀ strSN tContext, f.phase = .answering strSN tContext →
      hasRoom (nextPage MAX_LIST_LEN s strSN tContext) = true) :
    Inv MAX_LIST_LEN (s.pushPage MAX_LIST_LEN hasRoom k) := by
  unfold VideoRecordsSeachMgr.pushPage
  split
  · next f hk =>
    split
    · next strSN tContext hphase =>
      obtain ⟨past, hall, rfl, hover, hwaits, hevent, hcurrent⟩ :=
        h.current hk (by rw [hphase]; exact nofun)
      cases hcurrent with
      | active phase =>
        rw [hphase] at phase
        cases phase
      | answering q _ phase answers query rest head account id named pages progress =>
        rw [hphase] at phase
        cases phase
        have hwrite := progress.write hmax (hroom f hk _ _ hphase)
        have hcarries : Carries q (nextPage MAX_LIST_LEN s q.strSN tContext) := by
          have hmem : f.query ∈ s.m_oUnifiedMsgList := by rw [head]; exact List.mem_cons_self
          exact ⟨rfl, id, h.named _ hmem named q query, rfl⟩
        generalize getCatalogBodyContent MAX_LIST_LEN hasRoom s q.strSN tContext = written at hwrite
        obtain ⟨hpage, hwrite⟩ := hwrite
        have hpages : ∀ page ∈ f.pages ++ [written.page], Carries q page := by
          intro page hmem
          rcases List.mem_append.mp hmem with hmem | hmem
          · exact pages page hmem
          · rw [List.mem_singleton.mp hmem, hpage]
            exact hcarries
        refine h.advance hall hover hwaits hevent rfl (fun n hn => hn) ?_
        by_cases hmore : 0 < written.result
        · rw [if_pos hmore] at hwrite ⊢
          exact .answering q written.pContext rfl answers query rest head account id named hpages
            hwrite
        · rw [if_neg hmore] at hwrite ⊢
          exact .pushed rfl ⟨answers, q, query, hpages, hwrite.2⟩ rest head account hwrite.1
      | pushed phase =>
        rw [hphase] at phase
        cases phase
      | removed phase =>
        rw [hphase] at phase
        cases phase
    · exact h
  · exact h

theorem Inv.removeHeadSearchMessage (h : Inv MAX_LIST_LEN s) (k : Nat) :
    Inv MAX_LIST_LEN (s.removeHeadSearchMessage k) := by
  unfold VideoRecordsSeachMgr.removeHeadSearchMessage
  split
  · next f hk =>
    split
    · next hphase =>
      obtain ⟨past, hall, rfl, hover, hwaits, hevent, hcurrent⟩ :=
        h.current hk (by rw [hphase]; exact nofun)
      cases hcurrent with
      | active phase =>
        rw [hphase] at phase
        cases phase
      | answering _ _ phase =>
        rw [hphase] at phase
        cases phase
      | pushed _ complete rest head account records =>
        have htail : s.m_oUnifiedMsgList.tail = rest := by rw [head]; rfl
        refine h.advance hall hover hwaits hevent rfl (fun n hn => List.mem_of_mem_tail hn)
          (.removed rfl ⟨complete.answers, complete.own⟩ ?_ records)
        show _ ++ f.query :: s.m_oUnifiedMsgList.tail = _
        rw [htail, ← head]
        exact account
      | removed phase =>
        rw [hphase] at phase
        cases phase
    · exact h
  · exact h

theorem Inv.setSearchFinish (h : Inv MAX_LIST_LEN s) (k : Nat) :
    Inv MAX_LIST_LEN (s.setSearchFinish k) := by
  unfold VideoRecordsSeachMgr.setSearchFinish
  split
  · next f hk =>
    split
    · next hphase =>
      obtain ⟨past, hall, rfl, hover, hwaits, hevent, hcurrent⟩ :=
        h.current hk (by rw [hphase]; exact nofun)
      cases hcurrent with
      | active phase =>
        rw [hphase] at phase
        cases phase
      | answering _ _ phase =>
        rw [hphase] at phase
        cases phase
      | pushed phase =>
        rw [hphase] at phase
        cases phase
      | removed _ complete account records =>
        have hset : s.searches.set past.length { f with phase := .done } =
            past ++ [{ f with phase := .done }] := by rw [hall, set_last]
        refine ⟨h.runs, h.atOnce, h.named, .resting ?_ ?_ records (iff_of_true hwaits rfl)⟩
        · show ∀ g ∈ s.searches.set past.length _, _
          rw [hset]
          intro g hg
          rcases List.mem_append.mp hg with hg | hg
          · exact hover g hg
          · rw [List.mem_singleton.mp hg]
            exact ⟨rfl, complete.answers, complete.own⟩
        · show (s.searches.set past.length _).map _ ++ _ = _
          rw [hset, List.map_append, List.append_assoc]
          exact account
    · exact h
  · exact h

theorem getElem?_concat_of_some {queries : List Query} {q q' : Query} {n : Nat}
    (h : queries[n]? = some q) : (queries ++ [q'])[n]? = some q := by
  rw [List.getElem?_append_left (List.getElem?_eq_some_iff.mp h).1]
  exact h

theorem Complete.concat {queries : List Query} {f : Search ρ} (h : Complete queries f)
    (q' : Query) : Complete (queries ++ [q']) f := by
  obtain ⟨hanswers, q, hq, hpages, hrecords⟩ := h
  exact ⟨hanswers, q, getElem?_concat_of_some hq, hpages, hrecords⟩

theorem account_concat {gone list : List Nat} {queries : List Query}
    (h : gone ++ list = List.range queries.length) (q' : Query) :
    gone ++ (list ++ [queries.length]) = List.range (queries ++ [q']).length := by
  rw [← List.append_assoc, h, List.length_append, List.length_singleton, List.range_succ]

theorem Inv.procRecordSearch (h : Inv MAX_LIST_LEN s) (q' : Query) (cur : Int)
    (hroom : q'.startTime ≥ cur → hasRoom (VideoRecordsSeachMgr.blankPage q') = true) :
    Inv MAX_LIST_LEN (s.procRecordSearch hasRoom q' cur) := by
  unfold VideoRecordsSeachMgr.procRecordSearch
  split
  · next hproc =>
    split
    · next htime =>
      refine ⟨h.runs, ?_, h.named, h.stage⟩
      intro a ha
      rcases List.mem_append.mp ha with ha | ha
      · exact h.atOnce a ha
      · rw [List.mem_singleton.mp ha, build, if_pos (hroom htime)]
        exact ⟨⟨rfl, rfl, rfl, rfl⟩, rfl⟩
    · refine ⟨h.runs, h.atOnce, ?_, ?_⟩
      · intro n hn hne q hq
        have hmem : n ∈ s.m_oUnifiedMsgList := by
          refine (List.mem_append.mp hn).resolve_right fun hlast => hne ?_
          rw [List.mem_singleton.mp hlast]
        rw [List.getElem?_append_left (h.lt hmem)] at hq
        exact h.named n hmem (by rw [hproc]; exact nofun) q hq
      · cases h.stage with
        | resting ended account records event =>
          exact .resting (fun f hf => ⟨(ended f hf).1, (ended f hf).2.concat q'⟩)
            (account_concat account q') records event
        | running past f all ended waits event current =>
          refine .running past f all (fun g hg => ⟨(ended g hg).1, (ended g hg).2.concat q'⟩) waits
            event ?_
          cases current with
          | active phase answers pages q query rest head account records =>
            exact .active phase answers pages q (getElem?_concat_of_some query)
              (rest ++ [s.queries.length]) (by rw [head]; rfl) (account_concat account q') records
          | answering q tContext phase answers query rest head account id _ pages progress =>
            have hne : s.queries.length ≠ f.query := by
              have hlt := (List.getElem?_eq_some_iff.mp query).1
              omega
            exact .answering q tContext phase answers (getElem?_concat_of_some query)
              (rest ++ [s.queries.length]) (by rw [head]; rfl) (account_concat account q') id
              (fun he => hne (ProcRecordSearch.appended.inj he)) pages progress
          | pushed phase complete rest head account records =>
            exact .pushed phase (complete.concat q') (rest ++ [s.queries.length])
              (by rw [head]; rfl) (account_concat account q') records
          | removed phase complete account records =>
            exact .removed phase (complete.concat q') (account_concat account q') records
  · exact h

/-- Where `ProcRecordSearch` is behind `SetSearchMessage` matters to no search. -/
theorem Stage.proc {queries : List Query} {list : List Nat}
    {records : List (VideoRecordItem ρ)} {id : CStr} {proc proc' : ProcRecordSearch}
    {thread : SearchThread} {event : Bool} {searches : List (Search ρ)}
    (h : Stage MAX_LIST_LEN queries list records id proc thread event searches)
    (hproc : ∀ n, proc' ≠ .appended n) :
    Stage MAX_LIST_LEN queries list records id proc' thread event searches := by
  cases h with
  | resting ended account records event => exact .resting ended account records event
  | running past f all ended waits event current =>
    refine .running past f all ended waits event ?_
    cases current with
    | active phase answers pages q query rest head account records =>
      exact .active phase answers pages q query rest head account records
    | answering q tContext phase answers query rest head account id _ pages progress =>
      exact .answering q tContext phase answers query rest head account id (hproc _) pages progress
    | pushed phase complete rest head account records =>
      exact .pushed phase complete rest head account records
    | removed phase complete account records => exact .removed phase complete account records

theorem Inv.setDeviceName (h : Inv MAX_LIST_LEN s)
    (hsame : ∀ n, s.proc = .appended n → ∀ q ∈ s.queries[n]?, ∀ m ∈ s.m_oUnifiedMsgList,
      ∀ q' ∈ s.queries[m]?, q'.strDeviceName = q.strDeviceName) :
    Inv MAX_LIST_LEN s.setDeviceName := by
  unfold VideoRecordsSeachMgr.setDeviceName
  split
  · next n hproc =>
    split
    · next q hq =>
      exact ⟨h.runs, h.atOnce, fun m hm _ q' hq' => (hsame n hproc q hq m hm q' hq').symm,
        h.stage.proc nofun⟩
    · exact h
  · exact h

theorem Inv.setSearchStart (h : Inv MAX_LIST_LEN s) : Inv MAX_LIST_LEN s.setSearchStart := by
  unfold VideoRecordsSeachMgr.setSearchStart
  split
  · next hproc =>
    exact ⟨h.runs, h.atOnce, fun n hn _ => h.named n hn (by rw [hproc]; exact nofun),
      h.stage.proc nofun⟩
  · exact h

theorem Inv.getSearchMessage (h : Inv MAX_LIST_LEN s) : Inv MAX_LIST_LEN s.getSearchMessage := by
  unfold VideoRecordsSeachMgr.getSearchMessage
  split
  · next hthread hlist =>
    refine ⟨h.runs, h.atOnce, h.named, ?_⟩
    cases h.stage with
    | resting ended account records event =>
      rw [hthread] at event
      exact .resting ended account records ⟨nofun, fun he => nomatch event.mpr he⟩
    | running past f all ended waits =>
      rw [hthread] at waits
      cases waits
  · next n rest hthread hlist =>
    refine ⟨h.runs, h.atOnce, h.named, ?_⟩
    cases h.stage with
    | resting ended account records event =>
      rw [hthread] at event
      have hevent : s.m_oFinishEvent = false :=
        Bool.eq_false_iff.mpr fun he => nomatch event.mpr he
      have hlt : n < s.queries.length := h.lt (by rw [hlist]; exact List.mem_cons_self)
      exact .running s.searches { query := n } rfl ended rfl hevent
        (.active rfl rfl rfl s.queries[n] (List.getElem?_eq_getElem hlt) rest hlist account records)
    | running past f all ended waits =>
      rw [hthread] at waits
      cases waits
  · exact h

theorem Inv.waitSearchStart (h : Inv MAX_LIST_LEN s) : Inv MAX_LIST_LEN s.waitSearchStart := by
  unfold VideoRecordsSeachMgr.waitSearchStart
  split
  · next hthread =>
    refine ⟨h.runs, h.atOnce, h.named, ?_⟩
    cases h.stage with
    | resting ended account records event =>
      rw [hthread] at event
      exact .resting ended account records ⟨nofun, fun he => nomatch event.mpr he⟩
    | running past f all ended waits =>
      rw [hthread] at waits
      cases waits
  · exact h

theorem Inv.waitSearchFinish (h : Inv MAX_LIST_LEN s)
    (hfinish : s.thread = .waitSearchFinish → s.m_oFinishEvent = true) :
    Inv MAX_LIST_LEN s.waitSearchFinish := by
  unfold VideoRecordsSeachMgr.waitSearchFinish
  split
  · next hthread =>
    refine ⟨h.runs, h.atOnce, h.named, ?_⟩
    cases h.stage with
    | resting ended account records => exact .resting ended account records ⟨nofun, nofun⟩
    | running past f all ended waits event =>
      rw [hfinish hthread] at event
      cases event
  · exact h

theorem Inv.step (hmax : 0 < MAX_LIST_LEN) (h : Inv MAX_LIST_LEN s) {i : Step ρ}
    (hok : Undisturbed MAX_LIST_LEN hasRoom s i) :
    Inv MAX_LIST_LEN (step MAX_LIST_LEN hasRoom s i) := by
  unfold RecordSearch.step
  rw [if_neg (by rw [h.runs]; exact Bool.false_ne_true)]
  cases i with
  | procRecordSearch pUnifiedMsg cur => exact h.procRecordSearch pUnifiedMsg cur hok
  | setDeviceName => exact h.setDeviceName hok
  | setSearchStart => exact h.setSearchStart
  | getSearchMessage => exact h.getSearchMessage
  | waitSearchStart => exact h.waitSearchStart
  | waitSearchFinish => exact h.waitSearchFinish hok
  | inserRecord k r buf =>
    obtain rfl : buf = true := hok
    exact h.inserRecord k r
  | handleRecordSearchResult k => exact h.handleRecordSearchResult k hok
  | pushPage k => exact h.pushPage hmax k hok
  | removeHeadSearchMessage k => exact h.removeHeadSearchMessage k
  | setSearchFinish k => exact h.setSearchFinish k

end Stages

/-- **Answers from the own search.**  In every run whose steps are undisturbed every query is
answered once, with its own number, device and name and with the records of its own search. -/
theorem answers_run {MAX_LIST_LEN : Nat} (hmax : 0 < MAX_LIST_LEN) {hasRoom : Page ρ → Bool}
    {is : List (Step ρ)}
    (hok : ∀ p ∈ calls (step MAX_LIST_LEN hasRoom) {} is,
      Undisturbed MAX_LIST_LEN hasRoom p.1 p.2) :
    OwnAnswers (run (step MAX_LIST_LEN hasRoom) {} is) := by
  have hkeep : ∀ (s : VideoRecordsSeachMgr ρ) (i : Step ρ), Undisturbed MAX_LIST_LEN hasRoom s i →
      Inv MAX_LIST_LEN s → Inv MAX_LIST_LEN (step MAX_LIST_LEN hasRoom s i) :=
    fun s i hi h => h.step hmax hi
  exact (run_invariant hkeep inv_init hok).ownAnswers

def doorQuery : Query where
  strSN := str "17"
  strDeviceID := str "34020000001320000001"
  startTime := 1000
  recordAddr := []
  strDeviceName := str "Door"

def yardQuery : Query where
  strSN := str "18"
  strDeviceID := str "34020000001320000002"
  startTime := 1000
  recordAddr := []
  strDeviceName := str "Yard"

/-- A query and its search, with one record. -/
def oneSearch : List (Step Nat) :=
  [.procRecordSearch doorQuery 5000, .setDeviceName, .setSearchStart, .getSearchMessage,
    .inserRecord 0 7 true, .handleRecordSearchResult 0, .pushPage 0, .removeHeadSearchMessage 0,
    .setSearchFinish 0, .waitSearchFinish]

theorem answers_oneSearch :
    OwnAnswers (run (step 10 fun _ : Page Nat => true) {} oneSearch) := by
  refine answers_run (by decide) ?_
  rw [oneSearch]
  simp only [calls, List.forall_mem_cons]
  refine ⟨fun _ => rfl, ?_, trivial, trivial, rfl, ?_, ?_, trivial, trivial, ?_,
    List.forall_mem_nil _⟩
  · intro n hn q hq m hm q' hq'
    obtain rfl : 0 = n := ProcRecordSearch.appended.inj hn
    obtain rfl : m = 0 := List.mem_singleton.mp hm
    obtain rfl : doorQuery = q := Option.some.inj hq
    obtain rfl : doorQuery = q' := Option.some.inj hq'
    rfl
  · exact fun n hn hp => ProcRecordSearch.noConfusion hp
  · exact fun f hf strSN tContext hp => rfl
  · exact fun hp => rfl

/-- The second query comes before the search for the first has finished. -/
def twoQueries : List (Step Nat) :=
  [.procRecordSearch doorQuery 5000, .setDeviceName, .setSearchStart, .getSearchMessage,
    .procRecordSearch yardQuery 5000, .setDeviceName, .handleRecordSearchResult 0, .pushPage 0]

/-- The first is answered with the name of the second. -/
theorem other_name : ¬ OwnAnswers (run (step 10 fun _ : Page Nat => true) {} twoQueries) := by
  intro h
  obtain ⟨-, q, hq, hpages, -⟩ := h.own _ (List.mem_singleton_self _) 0 rfl
  obtain rfl : doorQuery = q := Option.some.inj hq
  obtain ⟨-, -, hname, -⟩ := hpages _ (List.mem_singleton_self _)
  revert hname
  decide

end GB28181.Platform.RecordSearch
