import GB28181.Platform.BodyBuffers
import GB28181.Platform.PageLoops

/-!
# The builders of a page, called (`DevInfo/ChannelInfo.h`, `SDKCom/SDKInfoSearcherMgr.h`, `.cpp`)

With builders that succeed, the loops come to one thing: the head of the page, its items and its
tail are called one behind the other.

* `callAll`, `callAll_reads` — calls one behind the other, and what they leave in the buffer;
* `catalog_ends`, `alarm_ends`, `video_ends` — **the calls with one context** write the pages of the
  list, one a call, whatever the way the loop keeps count.
-/

set_option autoImplicit false

namespace GB28181.Platform.PageLoops

open GB28181.Base Own BodyBuilder

variable {ι σ : Type}

/-! ## Builders one after another -/

/-- What a call writes, with the terminator. -/
def written (b : Builder) : CStr := bytes b.pieces ++ if b.terminated then [0] else []

/-- What is left of it in front of the next builder. -/
def filled (b : Builder) : CStr := (written b).take (b.nBufLen.getD 0)

structure Appends (b : Builder) : Prop where
  laid : Laid b.pieces
  formats : b.formats = true
  reports : b.nBufLen.getD 0 ≤ (written b).length

theorem length_filled {b : Builder} (h : Appends b) : (filled b).length = b.nBufLen.getD 0 := by
  rw [filled, List.length_take, Nat.min_eq_left h.reports]

/-- Calls of builders one behind the other. -/
def callAll (call : BuilderCall σ) (nBufLen : Int) : List Builder → Nat → σ → Option σ
  | [], _, pszInfo => some pszInfo
  | b :: rest, nCountUsed, pszInfo =>
    match call b nCountUsed (nBufLen - nCountUsed) pszInfo with
    | (none, _) => none
    | (some nCompleteLen, pszInfo) => callAll call nBufLen rest (nCountUsed + nCompleteLen) pszInfo

/-- The buffer is large enough for each: for its test, and for what it writes. -/
def Roomy (nBufLen : Int) : List Builder → Nat → Prop
  | [], _ => True
  | b :: rest, nCountUsed =>
    (b.test.need : Int) ≤ nBufLen - nCountUsed ∧ (nCountUsed + b.size : Int) ≤ nBufLen ∧
      Roomy nBufLen rest (nCountUsed + b.nBufLen.getD 0)

theorem callAll_cons_iff {call : BuilderCall σ} {nBufLen : Int} {b : Builder}
    {rest : List Builder} {nCountUsed : Nat} {pszInfo pszInfo' : σ} :
    callAll call nBufLen (b :: rest) nCountUsed pszInfo = some pszInfo' ↔
      ∃ n mid, call b nCountUsed (nBufLen - nCountUsed) pszInfo = (some n, mid) ∧
        callAll call nBufLen rest (nCountUsed + n) mid = some pszInfo' := by
  rw [callAll]
  rcases call b nCountUsed (nBufLen - nCountUsed) pszInfo with ⟨_ | n, mid⟩
  · exact iff_of_false (fun h => by cases h) fun ⟨n, mid, h, _⟩ => by cases h
  · constructor
    · exact fun h => ⟨n, mid, rfl, h⟩
    · rintro ⟨n', mid', heq, h⟩
      cases heq
      exact h

section buffers

variable {b : Builder} {nCountUsed : Nat} {nBufLen : Int}

/-- **A call of a builder** with room enough. -/
theorem callBuilder_of_room (hlaid : Laid b.pieces) (hformats : b.formats = true)
    (hneed : (b.test.need : Int) ≤ nBufLen) (pszInfo : Buffer) :
    ∃ m, callBuilder b nCountUsed nBufLen pszInfo = (some (b.nBufLen.getD 0), m) ∧
      Reads m nCountUsed (written b) ∧ ∀ i < nCountUsed, m i = pszInfo i := by
  have hrun := run_of_not_refused hformats (Int.not_lt.mpr hneed)
  have hread : Reads (writes _ (place 0 b.pieces)) 0 (bytes b.pieces) :=
    writes_place hlaid fun i => pszInfo (nCountUsed + i)
  have hlen := length_bytes hlaid
  -- what is written from `nCountUsed` on, put behind what was there
  have hput : ∀ {m : Buffer} {s : CStr}, Reads m 0 s →
      Reads (fun i => if i < nCountUsed then pszInfo i else m (i - nCountUsed)) nCountUsed s := by
    intro m s hs k hk
    have hnot : ¬ nCountUsed + k < nCountUsed := by omega
    have hat := hs k hk
    rw [Nat.zero_add] at hat
    show (if nCountUsed + k < nCountUsed then _ else _) = _
    rw [if_neg hnot, Nat.add_sub_cancel_left, hat]
  unfold callBuilder
  rw [hrun]
  refine ⟨_, rfl, ?_, fun i hi => if_pos hi⟩
  apply hput
  unfold written
  by_cases hterm : b.terminated = true
  · simp only [hterm, if_true]
    rw [reads_append, Nat.zero_add, hlen]
    refine ⟨hread.congr fun k _ hk => ?_, reads_write _ ⟨advance b.pieces, [0]⟩⟩
    refine write_of_not_covers fun hcovers => ?_
    have hle : advance b.pieces ≤ k := hcovers.1
    omega
  · simp only [hterm, Bool.false_eq_true, if_false, List.append_nil]
    exact hread

/-- **Builders one behind the other** leave what they fill in, the last one all it writes. -/
theorem callAll_reads {bs : List Builder} {tail : Builder} (hbs : ∀ b ∈ bs, Appends b)
    (htail : Laid tail.pieces ∧ tail.formats = true)
    (hroom : Roomy nBufLen (bs ++ [tail]) nCountUsed) (pszInfo : Buffer) :
    ∃ m, callAll callBuilder nBufLen (bs ++ [tail]) nCountUsed pszInfo = some m ∧
      Reads m nCountUsed (bs.flatMap filled ++ written tail) ∧
        ∀ i < nCountUsed, m i = pszInfo i := by
  induction bs generalizing nCountUsed pszInfo with
  | nil =>
    obtain ⟨m, hcall, hread, hframe⟩ :=
      callBuilder_of_room htail.1 htail.2 hroom.1 pszInfo
    exact ⟨m, callAll_cons_iff.mpr ⟨_, m, hcall, rfl⟩, hread, hframe⟩
  | cons b bs ih =>
    obtain ⟨hb, hrest⟩ := List.forall_mem_cons.mp hbs
    obtain ⟨hneed, -, hmore⟩ := hroom
    obtain ⟨mid, hcall, hread, hframe⟩ :=
      callBuilder_of_room hb.laid hb.formats hneed pszInfo
    obtain ⟨m, hall, hreads, hkept⟩ := ih hrest hmore mid
    refine ⟨m, callAll_cons_iff.mpr ⟨_, mid, hcall, hall⟩, ?_, fun i hi => ?_⟩
    · rw [List.flatMap_cons, List.append_assoc, reads_append, length_filled hb]
      refine ⟨?_, hreads⟩
      have hsplit := List.take_append_drop (b.nBufLen.getD 0) (written b)
      rw [← hsplit, reads_append] at hread
      have hfilled : Reads mid nCountUsed (filled b) := hread.1
      refine hfilled.congr fun k _ hk => hkept k ?_
      rw [length_filled hb] at hk
      exact hk
    · rw [hkept i (by omega), hframe i hi]

end buffers

/-! ## The loops -/

def PageBuilders.all (b : PageBuilders ι) (nSumNum : Int) (part : List ι) : List Builder :=
  b.head nSumNum part.length :: part.map b.item ++ [b.tail]

section loops

variable {call : BuilderCall σ} {b : PageBuilders ι} {nBufLen : Int} {pszInfo' : σ}

theorem complete_of_callAll {s : Filling ι σ}
    (h : callAll call nBufLen [b.tail] (s.nCountUsed + s.nCompleteLen) s.pszInfo = some pszInfo') :
    ∃ n t, s.complete call b nBufLen = (some n, t) ∧ t.pContext = s.pContext ∧
      t.pszInfo = pszInfo' := by
  obtain ⟨n, mid, hcall, hnil⟩ := callAll_cons_iff.mp h
  cases hnil
  refine ⟨n, ⟨s.pContext, pszInfo', s.nCountUsed + s.nCompleteLen, 0⟩, ?_, rfl, rfl⟩
  unfold Filling.complete
  dsimp only
  rw [hcall]

/-- **The last page of a catalogue**: the loop returns with the last item. -/
theorem catalogLoop_returned {turns : Nat} {s : Filling ι σ} (hturns : 0 < turns)
    (hle : s.pContext.posRecordMap.length ≤ turns)
    (h : callAll call nBufLen (s.pContext.posRecordMap.map b.item ++ [b.tail])
      (s.nCountUsed + s.nCompleteLen) s.pszInfo = some pszInfo') :
    ∃ t, catalogLoop call b nBufLen turns s = .returned t ∧ t.pszInfo = pszInfo' := by
  induction turns generalizing s with
  | zero => cases hturns
  | succ left ih =>
    rcases hpos : s.pContext.posRecordMap with _ | ⟨pCatalog, rest⟩
    · rw [hpos] at h
      obtain ⟨n, t, hcomplete, -, ht⟩ := complete_of_callAll h
      refine ⟨t, ?_, ht⟩
      rw [catalogLoop, hpos]
      dsimp only
      rw [hcomplete]
    · rw [hpos] at h hle
      obtain ⟨n, mid, hcall, hrest⟩ := callAll_cons_iff.mp h
      rw [catalogLoop, hpos]
      dsimp only
      rw [hcall]
      dsimp only
      by_cases hnil : rest = []
      · subst hnil
        obtain ⟨n, t, hcomplete, -, ht⟩ := complete_of_callAll (b := b)
          (s := ⟨{ s.pContext with posRecordMap := [] }, mid, s.nCountUsed + s.nCompleteLen, n⟩)
          hrest
        refine ⟨t, ?_, ht⟩
        rw [if_pos rfl, hcomplete]
      · have hpos' := List.length_pos_iff.mpr hnil
        rw [List.length_cons] at hle
        have hmore : ¬ left = 0 := by omega
        rw [if_neg hnil, if_neg hmore]
        exact ih (by omega) (Nat.le_of_succ_le_succ hle) hrest

/-- **Another page of a catalogue**: the tail is behind the last item of it. -/
theorem catalogLoop_through {turns : Nat} {s : Filling ι σ} (hturns : 0 < turns)
    (hlt : turns < s.pContext.posRecordMap.length)
    (h : callAll call nBufLen ((s.pContext.posRecordMap.take turns).map b.item ++ [b.tail])
      (s.nCountUsed + s.nCompleteLen) s.pszInfo = some pszInfo') :
    ∃ t, catalogLoop call b nBufLen turns s = .through t ∧ t.pszInfo = pszInfo' ∧
      t.pContext = ⟨s.pContext.posRecordMap.drop turns, s.pContext.nSurplus,
        s.pContext.nRawDevSum - turns⟩ := by
  induction turns generalizing s with
  | zero => cases hturns
  | succ left ih =>
    rcases hpos : s.pContext.posRecordMap with _ | ⟨pCatalog, rest⟩
    · rw [hpos] at hlt
      cases hlt
    · rw [hpos] at h hlt
      obtain ⟨n, mid, hcall, hrest⟩ := callAll_cons_iff.mp h
      have hlt' : left < rest.length := Nat.lt_of_succ_lt_succ hlt
      have hnil : rest ≠ [] := List.ne_nil_of_length_pos (by omega)
      rw [catalogLoop, hpos]
      dsimp only
      rw [hcall]
      dsimp only
      rw [if_neg hnil]
      by_cases hlast : left = 0
      · subst hlast
        obtain ⟨n, t, hcomplete, hcontext, ht⟩ := complete_of_callAll (b := b)
          (s := ⟨{ s.pContext with posRecordMap := rest }, mid, s.nCountUsed + s.nCompleteLen, n⟩)
          hrest
        rw [if_pos rfl, hcomplete]
        refine ⟨_, rfl, ht, ?_⟩
        rw [hcontext]
        rfl
      · rw [if_neg hlast]
        obtain ⟨t, hloop, ht, hcontext⟩ := ih
          (s := ⟨⟨rest, s.pContext.nSurplus, s.pContext.nRawDevSum - 1⟩, mid,
            s.nCountUsed + s.nCompleteLen, n⟩) (Nat.pos_of_ne_zero hlast) hlt' hrest
        have hsum : s.pContext.nRawDevSum - 1 - left =
            s.pContext.nRawDevSum - (left + 1 : Nat) := by omega
        exact ⟨t, hloop, ht, hcontext.trans (congrArg (InfoContext_t.mk _ _) hsum)⟩

/-- **The loop over alarm records**: the tail is left to the page, but behind the last record. -/
theorem alarmLoop_of_callAll {turns : Nat} {s : AlarmFilling ι σ}
    (hpos : s.pContext.posRecordMap ≠ [])
    (h : callAll call nBufLen ((s.pContext.posRecordMap.take turns).map b.item ++ [b.tail])
      s.nCountUsed s.pszInfo = some pszInfo') :
    if s.pContext.posRecordMap.length ≤ turns then
      ∃ t, alarmLoop call b nBufLen turns s = .returned t ∧ t.pszInfo = pszInfo'
    else
      ∃ t n, alarmLoop call b nBufLen turns s = .through t ∧
        call b.tail t.nCountUsed (nBufLen - t.nCountUsed) t.pszInfo = (some n, pszInfo') ∧
        t.pContext = ⟨s.pContext.posRecordMap.drop turns, s.pContext.nSurplus,
          s.pContext.nRawDevSum - turns⟩ := by
  induction turns generalizing s with
  | zero =>
    have hlt : ¬ s.pContext.posRecordMap.length ≤ 0 := fun hle =>
      hpos (List.eq_nil_of_length_eq_zero (Nat.le_zero.mp hle))
    obtain ⟨n, mid, hcall, hnil⟩ := callAll_cons_iff.mp h
    cases hnil
    rw [if_neg hlt]
    refine ⟨s, n, rfl, hcall, ?_⟩
    rw [List.drop_zero, Nat.cast_zero, Int.sub_zero]
  | succ left ih =>
    obtain ⟨pRecord, rest, hcons⟩ := List.exists_cons_of_ne_nil hpos
    rw [hcons] at h ⊢
    obtain ⟨n, mid, hcall, hrest⟩ := callAll_cons_iff.mp h
    rw [alarmLoop, hcons]
    dsimp only
    rw [hcall]
    dsimp only
    by_cases hnil : rest = []
    · subst hnil
      rw [List.take_nil] at hrest
      obtain ⟨m, mid', htail, hmid⟩ := callAll_cons_iff.mp hrest
      cases hmid
      have hone : [pRecord].length ≤ left + 1 := Nat.succ_le_succ (Nat.zero_le left)
      rw [if_pos hone, if_pos rfl, htail]
      exact ⟨_, rfl, rfl⟩
    · have hnext := ih (s := ⟨⟨rest, s.pContext.nSurplus, s.pContext.nRawDevSum - 1⟩, mid,
        s.nCountUsed + n⟩) hnil hrest
      have hsum : s.pContext.nRawDevSum - 1 - left = s.pContext.nRawDevSum - (left + 1 : Nat) := by
        omega
      simp only [if_neg hnil, List.length_cons, Nat.add_le_add_iff_right, List.drop_succ_cons]
      rw [← hsum]
      exact hnext

/-- **The loop over video records**: the tail is left to the page. -/
theorem videoLoop_of_callAll {turns nCountUsed : Nat} {s : VideoList ι σ}
    (hpos : s.pContext.posRecordMap ≠ [])
    (h : callAll call nBufLen ((s.pContext.posRecordMap.take turns).map b.item ++ [b.tail])
      nCountUsed s.pszInfo = some pszInfo') :
    ∃ t used n, videoLoop call b nBufLen turns s nCountUsed = .through t used ∧
      call b.tail used (nBufLen - used) t.pszInfo = (some n, pszInfo') ∧
      t.pContext.posRecordMap = s.pContext.posRecordMap.drop turns ∧
      t.pContext.nSurplus = s.pContext.nSurplus ∧
      (turns ≤ s.pContext.posRecordMap.length →
        t.pContext.nRawDevSum = s.pContext.nRawDevSum - turns) ∧
      (t.pContext.posRecordMap ≠ [] → t.m_oRecordList = s.m_oRecordList) := by
  induction turns generalizing s nCountUsed with
  | zero =>
    obtain ⟨n, mid, hcall, hnil⟩ := callAll_cons_iff.mp h
    cases hnil
    refine ⟨s, nCountUsed, n, rfl, hcall, rfl, rfl, fun _ => ?_, fun _ => rfl⟩
    rw [Nat.cast_zero, Int.sub_zero]
  | succ left ih =>
    obtain ⟨pRecord, rest, hcons⟩ := List.exists_cons_of_ne_nil hpos
    rw [hcons] at h ⊢
    obtain ⟨n, mid, hcall, hrest⟩ := callAll_cons_iff.mp h
    rw [videoLoop, hcons]
    dsimp only
    rw [hcall]
    dsimp only
    by_cases hnil : rest = []
    · subst hnil
      rw [List.take_nil] at hrest
      obtain ⟨m, mid', htail, hmid⟩ := callAll_cons_iff.mp hrest
      cases hmid
      rw [if_pos rfl]
      refine ⟨_, _, m, rfl, htail, List.drop_nil.symm, rfl, fun hle => ?_,
        fun hne => absurd rfl hne⟩
      obtain rfl : left = 0 := Nat.le_zero.mp (Nat.le_of_succ_le_succ hle)
      rfl
    · rw [if_neg hnil]
      obtain ⟨t, used, m, hloop, htail, hmoved, hkept, hsum, hlist⟩ := ih
        (s := { s with
          pContext := ⟨rest, s.pContext.nSurplus, s.pContext.nRawDevSum - 1⟩
          pszInfo := mid
          accesses := s.accesses ++ [.use pRecord, .give pRecord] }) hnil hrest
      refine ⟨t, used, m, hloop, htail, hmoved, hkept, fun hle => ?_, hlist⟩
      rw [hsum (Nat.le_of_succ_le_succ hle)]
      show s.pContext.nRawDevSum - 1 - left = s.pContext.nRawDevSum - (left + 1 : Nat)
      omega

end loops

/-! ## The pages -/

/-- The context belongs to what is left of a list. -/
structure Stands (MAX_LIST_LEN : Nat) (list l : List ι) (pContext : InfoContext_t ι) : Prop where
  start : pContext.start MAX_LIST_LEN list = ⟨l, pageSum MAX_LIST_LEN l.length, l.length⟩
  nil : l = [] → list = []

section pages

variable {MAX_LIST_LEN : Nat} {call : BuilderCall σ} {b : PageBuilders ι} {nBufLen nSumNum : Int}
  {list l : List ι} {pContext : InfoContext_t ι} {pszInfo pszInfo' : σ}

theorem stands_first : Stands MAX_LIST_LEN list list {} := ⟨rfl, id⟩

theorem stands_next (hMAX : 0 < MAX_LIST_LEN) (hlt : MAX_LIST_LEN < l.length) :
    Stands MAX_LIST_LEN list (l.drop MAX_LIST_LEN)
      ⟨l.drop MAX_LIST_LEN, pageSum MAX_LIST_LEN l.length - 1, l.length - MAX_LIST_LEN⟩ := by
  have hlen : (l.drop MAX_LIST_LEN).length = l.length - MAX_LIST_LEN := List.length_drop
  have hne : l.drop MAX_LIST_LEN ≠ [] := List.ne_nil_of_length_pos (by omega)
  refine ⟨(start_of_pos MAX_LIST_LEN hne).trans ?_, fun hnil => absurd hnil hne⟩
  have hsurplus : (pageSum MAX_LIST_LEN l.length : Int) - 1 =
      pageSum MAX_LIST_LEN (l.drop MAX_LIST_LEN).length := by
    rw [hlen, pageSum_of_lt _ hMAX hlt]
    omega
  have hraw : (l.length : Int) - MAX_LIST_LEN = (l.drop MAX_LIST_LEN).length := by
    rw [hlen]
    omega
  rw [hsurplus, hraw]

theorem nListSum_eq (surplus : Int) :
    (⟨l, surplus, l.length⟩ : InfoContext_t ι).nListSum MAX_LIST_LEN =
      (l.take MAX_LIST_LEN).length := by
  unfold InfoContext_t.nListSum
  rw [List.length_take]
  dsimp only
  split_ifs <;> omega

/-- A page of a catalogue is written while there are pages left, or if there are no items. -/
theorem Stands.written (h : Stands MAX_LIST_LEN list l pContext) :
    (0 < list.length ∧ 0 < (pageSum MAX_LIST_LEN l.length : Int)) ∨ list.length = 0 := by
  by_cases hnil : l = []
  · exact .inr (List.length_eq_zero_iff.mpr (h.nil hnil))
  · by_cases hlist : list.length = 0
    · exact .inr hlist
    · rw [pageSum_eq _ (List.length_pos_iff.mpr hnil)]
      exact .inl ⟨Nat.pos_of_ne_zero hlist, Int.natCast_pos.mpr (Nat.succ_pos _)⟩

theorem one_lt_pageSum (hMAX : 0 < MAX_LIST_LEN) (hlt : MAX_LIST_LEN < l.length) :
    0 < (pageSum MAX_LIST_LEN l.length : Int) - 1 := by
  have hpos : 0 < pageSum MAX_LIST_LEN (l.length - MAX_LIST_LEN) := by
    rw [pageSum_eq _ (by omega)]
    exact Nat.succ_pos _
  rw [pageSum_of_lt _ hMAX hlt]
  omega

theorem exists_head {l' : List ι} (hcall : callAll call nBufLen (b.all nSumNum l') 0 pszInfo =
    some pszInfo') :
    ∃ n mid, call (b.head nSumNum l'.length) 0 nBufLen pszInfo = (some n, mid) ∧
      callAll call nBufLen (l'.map b.item ++ [b.tail]) n mid = some pszInfo' := by
  obtain ⟨n, mid, hhead, hrest⟩ := callAll_cons_iff.mp hcall
  rw [Nat.cast_zero, Int.sub_zero] at hhead
  rw [Nat.zero_add] at hrest
  exact ⟨n, mid, hhead, hrest⟩

theorem catalogPage_last (hMAX : 0 < MAX_LIST_LEN) (h : Stands MAX_LIST_LEN list l pContext)
    (hle : l.length ≤ MAX_LIST_LEN)
    (hcall : callAll call nBufLen (b.all nSumNum l) 0 pszInfo = some pszInfo') :
    ∃ r pContext', catalogPage MAX_LIST_LEN call b nBufLen list nSumNum pContext pszInfo =
      (r, pContext', pszInfo') ∧ r ≤ 0 := by
  obtain ⟨n, mid, hhead, hrest⟩ := exists_head hcall
  rw [← Nat.zero_add n] at hrest
  obtain ⟨t, hloop, ht⟩ := catalogLoop_returned
    (s := ⟨⟨l, pageSum MAX_LIST_LEN l.length, l.length⟩, mid, 0, n⟩) hMAX hle hrest
  refine ⟨0, t.pContext, ?_, Int.le_refl 0⟩
  unfold catalogPage
  rw [h.start]
  dsimp only
  rw [if_pos (h.written), nListSum_eq, List.take_of_length_le hle]
  rw [hhead]
  dsimp only
  rw [hloop, ← ht]

theorem catalogPage_more (hMAX : 0 < MAX_LIST_LEN) (h : Stands MAX_LIST_LEN list l pContext)
    (hlt : MAX_LIST_LEN < l.length)
    (hcall : callAll call nBufLen (b.all nSumNum (l.take MAX_LIST_LEN)) 0 pszInfo =
      some pszInfo') :
    ∃ r pContext', catalogPage MAX_LIST_LEN call b nBufLen list nSumNum pContext pszInfo =
      (r, pContext', pszInfo') ∧ 0 < r ∧
        Stands MAX_LIST_LEN list (l.drop MAX_LIST_LEN) pContext' := by
  obtain ⟨n, mid, hhead, hrest⟩ := exists_head hcall
  rw [← Nat.zero_add n] at hrest
  obtain ⟨t, hloop, ht, hcontext⟩ := catalogLoop_through
    (s := ⟨⟨l, pageSum MAX_LIST_LEN l.length, l.length⟩, mid, 0, n⟩) hMAX hlt hrest
  refine ⟨_, _, ?_, one_lt_pageSum hMAX hlt, stands_next hMAX hlt⟩
  unfold catalogPage
  rw [h.start]
  dsimp only
  rw [if_pos (h.written), nListSum_eq]
  rw [hhead]
  dsimp only
  rw [hloop, ← ht]
  dsimp only
  rw [hcontext]

/-- **Page by page**, if the builders write what they should. -/
theorem ends_of_callAll {τ : Type} {f : τ → Option (Int × σ × τ)} {At : List ι → τ → Prop}
    {Holds : List ι → σ → Prop} (hMAX : 0 < MAX_LIST_LEN) (buffer : τ → σ)
    (hlast : ∀ l s p, At l s → l.length ≤ MAX_LIST_LEN →
      callAll call nBufLen (b.all nSumNum l) 0 (buffer s) = some p →
        ∃ r s', f s = some (r, p, s') ∧ r ≤ 0)
    (hmore : ∀ l s p, At l s → MAX_LIST_LEN < l.length →
      callAll call nBufLen (b.all nSumNum (l.take MAX_LIST_LEN)) 0 (buffer s) = some p →
        ∃ r s', f s = some (r, p, s') ∧ 0 < r ∧ At (l.drop MAX_LIST_LEN) s')
    (hpages : ∀ part ∈ pages MAX_LIST_LEN list, ∀ pszInfo, ∃ p,
      callAll call nBufLen (b.all nSumNum part) 0 pszInfo = some p ∧ Holds part p)
    {s : τ} (h : At list s) :
    ∃ ps s', CallsEnd f s ps s' ∧ List.Forall₂ Holds (pages MAX_LIST_LEN list) ps := by
  let Ready (l : List ι) (s : τ) : Prop :=
    At l s ∧ ∀ part ∈ pages MAX_LIST_LEN l, ∀ pszInfo, ∃ p,
      callAll call nBufLen (b.all nSumNum part) 0 pszInfo = some p ∧ Holds part p
  have hfirst : Ready list s := ⟨h, hpages⟩
  refine ends_pages hMAX ?_ ?_ hfirst
  · rintro l s ⟨hat, hparts⟩ hle
    rw [pages_of_le hMAX hle] at hparts
    obtain ⟨p, hcall, hholds⟩ := hparts l (List.mem_singleton_self l) (buffer s)
    obtain ⟨r, s', hf, hr⟩ := hlast l s p hat hle hcall
    exact ⟨r, p, s', hf, hr, hholds⟩
  · rintro l s ⟨hat, hparts⟩ hlt
    rw [pages_of_lt hMAX hlt, List.forall_mem_cons] at hparts
    obtain ⟨p, hcall, hholds⟩ := hparts.1 (buffer s)
    obtain ⟨r, s', hf, hr, hnext⟩ := hmore l s p hat hlt hcall
    exact ⟨r, p, s', hf, hr, hholds, hnext, hparts.2⟩

theorem catalog_ends {Holds : List ι → σ → Prop} (hMAX : 0 < MAX_LIST_LEN)
    (hpages : ∀ part ∈ pages MAX_LIST_LEN list, ∀ pszInfo, ∃ p,
      callAll call nBufLen (b.all nSumNum part) 0 pszInfo = some p ∧ Holds part p)
    (next : σ → σ) (pszInfo : σ) :
    ∃ ps s', CallsEnd (catalogCall (catalogPage MAX_LIST_LEN call b nBufLen list nSumNum) next)
      ({}, pszInfo) ps s' ∧ List.Forall₂ Holds (pages MAX_LIST_LEN list) ps := by
  let At (l : List ι) (s : InfoContext_t ι × σ) : Prop := Stands MAX_LIST_LEN list l s.1
  have hfirst : At list ({}, pszInfo) := stands_first
  refine ends_of_callAll hMAX Prod.snd ?_ ?_ hpages hfirst
  · rintro l ⟨pContext, pszInfo⟩ p hstands hle hcall
    obtain ⟨r, pContext', hpage, hr⟩ := catalogPage_last hMAX hstands hle hcall
    refine ⟨r, (pContext', next p), ?_, hr⟩
    unfold catalogCall
    rw [hpage]
  · rintro l ⟨pContext, pszInfo⟩ p hstands hlt hcall
    obtain ⟨r, pContext', hpage, hr, hnext⟩ := catalogPage_more hMAX hstands hlt hcall
    refine ⟨r, (pContext', next p), ?_, hr, hnext⟩
    unfold catalogCall
    rw [hpage]

/-! ## Pages of records -/

theorem pageSum_ne_zero (hne : l ≠ []) :
    (pageSum MAX_LIST_LEN l.length : Int) ≠ 0 := by
  rw [pageSum_eq _ (List.length_pos_iff.mpr hne)]
  exact Int.natCast_ne_zero.mpr (Nat.succ_ne_zero _)

theorem Stands.fresh (h : Stands MAX_LIST_LEN list [] pContext) : pContext.posRecordMap = [] := by
  by_contra hne
  have hstart := h.start
  rw [start_of_pos _ hne] at hstart
  exact hne (congrArg InfoContext_t.posRecordMap hstart)

theorem Stands.nothing (h : Stands MAX_LIST_LEN list [] pContext) :
    pContext.posRecordMap.isEmpty = true ∧
      (pageSum MAX_LIST_LEN ([] : List ι).length : Int) = 0 := by
  rw [h.fresh]
  exact ⟨rfl, by simp [pageSum]⟩

theorem alarmPage_last {s : AlarmList ι σ}
    (h : Stands MAX_LIST_LEN s.m_oRecordList l s.pContext) (hle : l.length ≤ MAX_LIST_LEN)
    (hcall : callAll call nBufLen (b.all s.m_oRecordList.length l) 0 s.pszInfo = some pszInfo') :
    ∃ r s', alarmPage MAX_LIST_LEN call b nBufLen s = some (r, s') ∧ r ≤ 0 ∧
      s'.pszInfo = pszInfo' := by
  obtain ⟨n, mid, hhead, hrest⟩ := exists_head hcall
  unfold alarmPage
  rw [h.start]
  dsimp only
  by_cases hnil : l = []
  · -- no record
    subst hnil
    obtain ⟨m, mid', htail, hmid⟩ := callAll_cons_iff.mp hrest
    cases hmid
    have hsum : (s.m_oRecordList.length : Int) = ([] : List ι).length := by rw [h.nil rfl]
    rw [if_pos h.nothing]
    rw [hsum] at hhead ⊢
    rw [hhead]
    dsimp only
    rw [htail]
    exact ⟨_, _, rfl, Int.le_refl 0, rfl⟩
  · have hsurplus : (pageSum MAX_LIST_LEN l.length : Int) ≠ 0 := pageSum_ne_zero hnil
    have hitems : callAll call nBufLen ((l.take MAX_LIST_LEN).map b.item ++ [b.tail]) n mid =
        some pszInfo' := by
      rw [List.take_of_length_le hle]
      exact hrest
    have hloop := alarmLoop_of_callAll
      (s := ⟨⟨l, pageSum MAX_LIST_LEN l.length, l.length⟩, mid, n⟩) hnil hitems
    rw [if_pos hle] at hloop
    obtain ⟨t, hreturned, ht⟩ := hloop
    rw [if_neg fun hzero => hsurplus hzero.2, if_pos hsurplus, nListSum_eq,
      List.take_of_length_le hle, hhead]
    dsimp only
    rw [hreturned]
    exact ⟨_, _, rfl, Int.le_refl 0, ht⟩

theorem alarmPage_more {s : AlarmList ι σ} (hMAX : 0 < MAX_LIST_LEN)
    (h : Stands MAX_LIST_LEN s.m_oRecordList l s.pContext) (hlt : MAX_LIST_LEN < l.length)
    (hcall : callAll call nBufLen (b.all s.m_oRecordList.length (l.take MAX_LIST_LEN)) 0 s.pszInfo =
      some pszInfo') :
    ∃ r s', alarmPage MAX_LIST_LEN call b nBufLen s = some (r, s') ∧ 0 < r ∧
      s'.m_oRecordList = s.m_oRecordList ∧ s'.pszInfo = pszInfo' ∧
      Stands MAX_LIST_LEN s.m_oRecordList (l.drop MAX_LIST_LEN) s'.pContext := by
  obtain ⟨n, mid, hhead, hrest⟩ := exists_head hcall
  have hnil : l ≠ [] := List.ne_nil_of_length_pos (by omega)
  have hsurplus : (pageSum MAX_LIST_LEN l.length : Int) ≠ 0 := pageSum_ne_zero hnil
  have hloop := alarmLoop_of_callAll
    (s := ⟨⟨l, pageSum MAX_LIST_LEN l.length, l.length⟩, mid, n⟩) hnil hrest
  rw [if_neg (Nat.not_le_of_lt hlt)] at hloop
  obtain ⟨t, m, hthrough, htail, hcontext⟩ := hloop
  unfold alarmPage
  rw [h.start]
  dsimp only
  rw [if_neg fun hzero => hsurplus hzero.2, if_pos hsurplus, nListSum_eq, hhead]
  dsimp only
  rw [hthrough]
  dsimp only
  rw [htail]
  dsimp only
  rw [hcontext]
  exact ⟨_, _, rfl, one_lt_pageSum hMAX hlt, rfl, rfl, stands_next hMAX hlt⟩

theorem alarm_ends {Holds : List ι → σ → Prop} (hMAX : 0 < MAX_LIST_LEN)
    (hpages : ∀ part ∈ pages MAX_LIST_LEN list, ∀ pszInfo, ∃ p,
      callAll call nBufLen (b.all list.length part) 0 pszInfo = some p ∧ Holds part p)
    (next : σ → σ) (pszInfo : σ) :
    ∃ ps s', CallsEnd (alarmCall (alarmPage MAX_LIST_LEN call b nBufLen) next)
      { m_oRecordList := list, pszInfo := pszInfo } ps s' ∧
        List.Forall₂ Holds (pages MAX_LIST_LEN list) ps := by
  let At (l : List ι) (s : AlarmList ι σ) : Prop :=
    s.m_oRecordList = list ∧ Stands MAX_LIST_LEN list l s.pContext
  have hfirst : At list { m_oRecordList := list, pszInfo := pszInfo } := ⟨rfl, stands_first⟩
  refine ends_of_callAll hMAX (·.pszInfo) ?_ ?_ hpages hfirst
  · rintro l s p ⟨rfl, hstands⟩ hle hcall
    obtain ⟨r, s', hpage, hr, rfl⟩ := alarmPage_last hstands hle hcall
    refine ⟨r, { s' with pszInfo := next s'.pszInfo }, ?_, hr⟩
    rw [alarmCall, hpage]
    rfl
  · rintro l s p ⟨rfl, hstands⟩ hlt hcall
    obtain ⟨r, s', hpage, hr, hlist, rfl, hnext⟩ := alarmPage_more hMAX hstands hlt hcall
    refine ⟨r, { s' with pszInfo := next s'.pszInfo }, ?_, hr, hlist, hnext⟩
    rw [alarmCall, hpage]
    rfl

theorem videoPage_last {s : VideoList ι σ}
    (h : Stands MAX_LIST_LEN s.m_oRecordList l s.pContext) (hle : l.length ≤ MAX_LIST_LEN)
    (hcall : callAll call nBufLen (b.all s.m_oRecordList.length l) 0 s.pszInfo = some pszInfo') :
    ∃ r s', videoPage MAX_LIST_LEN call b nBufLen s = some (r, s') ∧ r ≤ 0 ∧
      s'.pszInfo = pszInfo' := by
  obtain ⟨n, mid, hhead, hrest⟩ := exists_head hcall
  unfold videoPage
  rw [h.start]
  dsimp only
  by_cases hnil : l = []
  · -- no record
    subst hnil
    obtain ⟨m, mid', htail, hmid⟩ := callAll_cons_iff.mp hrest
    cases hmid
    have hsum : (s.m_oRecordList.length : Int) = ([] : List ι).length := by rw [h.nil rfl]
    rw [if_pos h.nothing]
    rw [hsum] at hhead ⊢
    rw [hhead]
    dsimp only
    rw [htail]
    exact ⟨_, _, rfl, Int.le_refl 0, rfl⟩
  · have hsurplus : (pageSum MAX_LIST_LEN l.length : Int) ≠ 0 := pageSum_ne_zero hnil
    have hitems : callAll call nBufLen ((l.take MAX_LIST_LEN).map b.item ++ [b.tail]) n mid =
        some pszInfo' := by
      rw [List.take_of_length_le hle]
      exact hrest
    obtain ⟨t, used, m, hthrough, htail, -, hkept, -, -⟩ := videoLoop_of_callAll
      (s := { s with
        pContext := ⟨l, pageSum MAX_LIST_LEN l.length, l.length⟩, pszInfo := mid }) hnil hitems
    rw [if_neg fun hzero => hsurplus hzero.2, if_pos hsurplus, nListSum_eq,
      List.take_of_length_le hle, hhead]
    dsimp only
    rw [hthrough]
    dsimp only
    rw [htail]
    refine ⟨_, _, rfl, ?_, rfl⟩
    rw [hkept]
    show (pageSum MAX_LIST_LEN l.length : Int) - 1 ≤ 0
    rw [pageSum_of_le _ (List.length_pos_iff.mpr hnil) hle]
    exact Int.le_refl 0

theorem videoPage_more {s : VideoList ι σ} (hMAX : 0 < MAX_LIST_LEN)
    (h : Stands MAX_LIST_LEN s.m_oRecordList l s.pContext) (hlt : MAX_LIST_LEN < l.length)
    (hcall : callAll call nBufLen (b.all s.m_oRecordList.length (l.take MAX_LIST_LEN)) 0 s.pszInfo =
      some pszInfo') :
    ∃ r s', videoPage MAX_LIST_LEN call b nBufLen s = some (r, s') ∧ 0 < r ∧
      s'.m_oRecordList = s.m_oRecordList ∧ s'.pszInfo = pszInfo' ∧
      Stands MAX_LIST_LEN s.m_oRecordList (l.drop MAX_LIST_LEN) s'.pContext := by
  obtain ⟨n, mid, hhead, hrest⟩ := exists_head hcall
  have hnil : l ≠ [] := List.ne_nil_of_length_pos (by omega)
  have hsurplus : (pageSum MAX_LIST_LEN l.length : Int) ≠ 0 := pageSum_ne_zero hnil
  obtain ⟨t, used, m, hthrough, htail, hmoved, hkept, hsum, hlist⟩ := videoLoop_of_callAll
    (s := { s with
      pContext := ⟨l, pageSum MAX_LIST_LEN l.length, l.length⟩, pszInfo := mid }) hnil hrest
  have hraw : t.pContext.nRawDevSum = l.length - MAX_LIST_LEN := hsum (Nat.le_of_lt hlt)
  have hcontext : t.pContext = ⟨l.drop MAX_LIST_LEN, pageSum MAX_LIST_LEN l.length,
      l.length - MAX_LIST_LEN⟩ := by
    show InfoContext_t.mk t.pContext.posRecordMap t.pContext.nSurplus t.pContext.nRawDevSum = _
    rw [hmoved, hkept, hraw]
  have hne : t.pContext.posRecordMap ≠ [] := by
    rw [hmoved]
    exact List.ne_nil_of_length_pos (by rw [List.length_drop]; exact Nat.sub_pos_of_lt hlt)
  unfold videoPage
  rw [h.start]
  dsimp only
  rw [if_neg fun hzero => hsurplus hzero.2, if_pos hsurplus, nListSum_eq, hhead]
  dsimp only
  rw [hthrough]
  dsimp only
  rw [htail]
  dsimp only
  refine ⟨_, _, rfl, ?_, hlist hne, rfl, ?_⟩
  · rw [hcontext]
    exact one_lt_pageSum hMAX hlt
  · rw [hcontext]
    exact stands_next hMAX hlt

theorem video_ends {Holds : List ι → σ → Prop} (hMAX : 0 < MAX_LIST_LEN)
    (hpages : ∀ part ∈ pages MAX_LIST_LEN list, ∀ pszInfo, ∃ p,
      callAll call nBufLen (b.all list.length part) 0 pszInfo = some p ∧ Holds part p)
    (next : σ → σ) (pszInfo : σ) :
    ∃ ps s', CallsEnd (videoCall (videoPage MAX_LIST_LEN call b nBufLen) next)
      { m_oRecordList := list, pszInfo := pszInfo } ps s' ∧
        List.Forall₂ Holds (pages MAX_LIST_LEN list) ps := by
  let At (l : List ι) (s : VideoList ι σ) : Prop :=
    s.m_oRecordList = list ∧ Stands MAX_LIST_LEN list l s.pContext
  have hfirst : At list { m_oRecordList := list, pszInfo := pszInfo } := ⟨rfl, stands_first⟩
  refine ends_of_callAll hMAX (·.pszInfo) ?_ ?_ hpages hfirst
  · rintro l s p ⟨rfl, hstands⟩ hle hcall
    obtain ⟨r, s', hpage, hr, rfl⟩ := videoPage_last hstands hle hcall
    refine ⟨r, { s' with pszInfo := next s'.pszInfo }, ?_, hr⟩
    rw [videoCall, hpage]
    rfl
  · rintro l s p ⟨rfl, hstands⟩ hlt hcall
    obtain ⟨r, s', hpage, hr, hlist, rfl, hnext⟩ := videoPage_more hMAX hstands hlt hcall
    refine ⟨r, { s' with pszInfo := next s'.pszInfo }, ?_, hr, hlist, hnext⟩
    rw [videoCall, hpage]
    rfl

end pages

end GB28181.Platform.PageLoops
