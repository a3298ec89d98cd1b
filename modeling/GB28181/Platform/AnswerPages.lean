import GB28181.Base.CString
import GB28181.Base.Handover

/-!
# Handing answers to SIPCOM (`DevInfo/DevInfo.cpp`, `SDKCom/SDKEventsHandler.cpp`)

An answer of several pages goes to SIPCOM as several messages.  The senders share a pattern: mount
a body buffer in a message, fill it, set the operation, push the address.  They differ in whether
the next page gets a message of its own.

* `PageWriter`, `pagesOf` — the pages of a result list, as `GetCatalogBodyContent` and
  `GetNotifyCatalogInfo` cut them;
* `Producer` — the senders as programs over the hand-over of `Base.Handover`; the operations of
  the message's owner that only log are reads;
* `disciplined_recordLoop` — **a message of its own for each page** is safe for every number of
  pages, only the last page goes out under the DeviceID of a new message;
* `answerSurvives_iff` — when an answer reaches its destination under every interleaving.
-/

set_option autoImplicit false

namespace GB28181.Platform

open GB28181.Base

/-! ## Pages -/

/-- The body a writer builds for some records of a list with the given total, and whether it got
to the end of the body. -/
structure PageWriter (ρ : Type) where
  write : Nat → List ρ → CStr × Bool

variable {ρ : Type} (MAX_LIST_LEN : Nat) (w : PageWriter ρ)

/-- `nSurplus` of a new context: the number of bodies. -/
def pageSum (nRecordSum : Nat) : Nat :=
  nRecordSum / MAX_LIST_LEN + if 0 < nRecordSum % MAX_LIST_LEN then 1 else 0

/-- The bodies written while the writer returns a positive number, and the last one. -/
def writePages (nRecordSum : Nat) : Nat → List ρ → List CStr
  | 0, records => [(w.write nRecordSum records).1]
  | nSurplus + 1, records =>
    let page := w.write nRecordSum (records.take MAX_LIST_LEN)
    page.1 :: if page.2 = true ∧ 0 < nSurplus then
      writePages nRecordSum nSurplus (records.drop MAX_LIST_LEN) else []

def pagesOf (records : List ρ) : List CStr :=
  writePages MAX_LIST_LEN w records.length (pageSum MAX_LIST_LEN records.length) records

/-- The first body is the last: the list fits it, or the writer gives up on it. -/
def OnePage (records : List ρ) : Prop :=
  pageSum MAX_LIST_LEN records.length ≤ 1 ∨
    (w.write records.length (records.take MAX_LIST_LEN)).2 = false

theorem pageSum_eq {n : Nat} (hn : 0 < n) :
    pageSum MAX_LIST_LEN n = (n - 1) / MAX_LIST_LEN + 1 := by
  obtain ⟨m, rfl⟩ : ∃ m, n = m + 1 := ⟨n - 1, by omega⟩
  rw [Nat.add_sub_cancel]
  unfold pageSum
  have hdiv : (m + 1) / MAX_LIST_LEN = m / MAX_LIST_LEN + if MAX_LIST_LEN ∣ m + 1 then 1 else 0 :=
    Nat.succ_div
  by_cases hdvd : MAX_LIST_LEN ∣ m + 1
  · have hmod : ¬ 0 < (m + 1) % MAX_LIST_LEN := by
      rw [Nat.mod_eq_zero_of_dvd hdvd]
      exact Nat.lt_irrefl 0
    rw [hdiv, if_pos hdvd, if_neg hmod]
  · have hmod : 0 < (m + 1) % MAX_LIST_LEN :=
      Nat.pos_of_ne_zero fun hzero => hdvd (Nat.dvd_of_mod_eq_zero hzero)
    rw [hdiv, if_neg hdvd, if_pos hmod]

theorem pageSum_of_le {n : Nat} (hn : 0 < n) (hle : n ≤ MAX_LIST_LEN) :
    pageSum MAX_LIST_LEN n = 1 := by
  rw [pageSum_eq MAX_LIST_LEN hn, Nat.div_eq_of_lt (by omega)]

theorem pageSum_of_lt {n : Nat} (h : 0 < MAX_LIST_LEN) (hlt : MAX_LIST_LEN < n) :
    pageSum MAX_LIST_LEN n = pageSum MAX_LIST_LEN (n - MAX_LIST_LEN) + 1 := by
  have hsum : n - 1 = n - MAX_LIST_LEN - 1 + MAX_LIST_LEN := by omega
  rw [pageSum_eq MAX_LIST_LEN (by omega), pageSum_eq MAX_LIST_LEN (by omega), hsum,
    Nat.add_div_right _ h]

theorem writePages_ne_nil (nRecordSum nSurplus : Nat) (records : List ρ) :
    writePages MAX_LIST_LEN w nRecordSum nSurplus records ≠ [] := by
  cases nSurplus <;> exact List.cons_ne_nil _ _

theorem length_pagesOf_iff (records : List ρ) :
    (pagesOf MAX_LIST_LEN w records).length ≤ 1 ↔ OnePage MAX_LIST_LEN w records := by
  unfold pagesOf OnePage
  rcases pageSum MAX_LIST_LEN records.length with _ | nSurplus
  · exact iff_of_true (Nat.le_refl 1) (Or.inl (Nat.zero_le 1))
  · rw [writePages, List.length_cons]
    split
    · rename_i h
      have hlen := List.length_pos_of_ne_nil
        (writePages_ne_nil MAX_LIST_LEN w records.length nSurplus (records.drop MAX_LIST_LEN))
      refine iff_of_false (by omega) ?_
      rintro (hle | hfalse)
      · omega
      · rw [h.1] at hfalse
        cases hfalse
    · rename_i h
      refine iff_of_true (Nat.le_refl 1) ?_
      by_cases hok : (w.write records.length (records.take MAX_LIST_LEN)).2 = true
      · have hzero : ¬ 0 < nSurplus := fun hpos => h ⟨hok, hpos⟩
        exact Or.inl (by omega)
      · exact Or.inr (Bool.eq_false_iff.mpr hok)

/-! ## The senders -/

namespace Producer

/-- An action on messages labelled with a DeviceID. -/
abbrev Step := Action CStr CStr

/-- The loop of `SendCatalogSubscribeResult`, with the `i`-th buffer mounted: every page in the
message of the subscription. -/
def subscribeLoop : Nat → List CStr → List Step
  | _, [] => []
  | i, [page] => [.fill i page, .setReady 0, .push 0]
  | i, page :: next :: rest =>
    .fill i page :: .setReady 0 :: .push 0 :: .allocBuffer (i + 1) :: .mount 0 (i + 1) ::
      subscribeLoop (i + 1) (next :: rest)

def sendCatalogSubscribeResult (pages : List CStr) : List Step :=
  .read 0 :: .read 0 :: .allocBuffer 0 :: .mount 0 0 :: .read 0 :: subscribeLoop 0 pages

/-- The loop over the entries of a decoder: a body for each, every one in the query message. -/
def decoderLoop : Nat → List CStr → List Step
  | _, [] => []
  | i, page :: rest =>
    .allocBuffer i :: .mount 0 i :: .fill i page :: .setReady 0 :: .push 0 ::
      decoderLoop (i + 1) rest

def sendSingeDecoderCatalog (pages : List CStr) : List Step :=
  .read 0 :: .read 0 :: .read 0 :: .read 0 :: decoderLoop 0 pages

def sendSingeDecoderOneChnCatalog (pages : List CStr) : List Step :=
  .read 0 :: .read 0 :: .read 0 :: .read 0 :: decoderLoop 0 pages

/-- The loops of `SendVirtualCatalog` and `SendDeviceCatalogAll`: a copy of the query message for
each entry. -/
def cloneLoop : Nat → List CStr → List Step
  | _, [] => []
  | i, page :: rest =>
    .allocBuffer i :: .cloneMessage i 0 :: .mount i i :: .read i :: .fill i page :: .setReady i ::
      .push i :: cloneLoop (i + 1) rest

def sendAllCatalog (platform : CStr) (virtuals devices : List CStr) : List Step :=
  let platformSteps : List Step :=
    [.read 0, .read 0, .allocBuffer 0, .mount 0 0, .read 0, .fill 0 platform, .setReady 0,
      .push 0]
  platformSteps ++ (.read 0 :: .read 0 :: cloneLoop 1 virtuals) ++
    (.read 0 :: cloneLoop (1 + virtuals.length) devices)

/-- A message and a buffer for the next page, in either order. -/
def nextObjects (messageFirst : Bool) (i : Nat) : List Step :=
  if messageFirst then [.allocMessage i, .allocBuffer i] else [.allocBuffer i, .allocMessage i]

/-- The loop of `HandleRecordSearchResult` and `SendAlarmRecordQueryResult`, with the `i`-th buffer
mounted in the `i`-th message.  The DeviceID is set before every push but the last. -/
def recordLoop (messageFirst : Bool) (strDeviceID : CStr) : Nat → List CStr → List Step
  | _, [] => []
  | i, [page] => [.fill i page, .setReady i, .push i]
  | i, page :: next :: rest =>
    .fill i page :: .setReady i :: .setLabel i strDeviceID :: .push i ::
      (nextObjects messageFirst (i + 1) ++
        .mount (i + 1) (i + 1) :: recordLoop messageFirst strDeviceID (i + 1) (next :: rest))

def handleRecordSearchResult (strDeviceID : CStr) (pages : List CStr) : List Step :=
  .read 0 :: .read 0 :: .allocBuffer 0 :: .mount 0 0 :: .read 0 ::
    recordLoop true strDeviceID 0 pages

def sendAlarmRecordQueryResult (strDeviceID : CStr) (pages : List CStr) : List Step :=
  .read 0 :: .read 0 :: .allocBuffer 0 :: .mount 0 0 :: .read 0 ::
    recordLoop false strDeviceID 0 pages

end Producer

/-- An answer of one of the senders, with the result list it has. -/
inductive Answer (ρ : Type)
  | catalogSubscribeResult (w : PageWriter ρ) (records : List ρ)
  | singeDecoderCatalog (cataLogInfo : List CStr)
  | singeDecoderOneChnCatalog (cataLogInfo : List CStr)
  | allCatalog (platform : CStr) (virtuals devices : List CStr)
  | recordSearchResult (w : PageWriter ρ) (records : List ρ)
  | alarmRecordQueryResult (w : PageWriter ρ) (records : List ρ)

namespace Answer

def pages : Answer ρ → List CStr
  | .catalogSubscribeResult w records => pagesOf MAX_LIST_LEN w records
  | .singeDecoderCatalog cataLogInfo => cataLogInfo
  | .singeDecoderOneChnCatalog cataLogInfo => cataLogInfo
  | .allCatalog platform virtuals devices => platform :: (virtuals ++ devices)
  | .recordSearchResult w records => pagesOf MAX_LIST_LEN w records
  | .alarmRecordQueryResult w records => pagesOf MAX_LIST_LEN w records

/-- The program of the sender, for a query message with the given DeviceID. -/
def program (strDeviceID : CStr) : Answer ρ → List Producer.Step
  | .catalogSubscribeResult w records =>
    Producer.sendCatalogSubscribeResult (pagesOf MAX_LIST_LEN w records)
  | .singeDecoderCatalog cataLogInfo => Producer.sendSingeDecoderCatalog cataLogInfo
  | .singeDecoderOneChnCatalog cataLogInfo => Producer.sendSingeDecoderOneChnCatalog cataLogInfo
  | .allCatalog platform virtuals devices => Producer.sendAllCatalog platform virtuals devices
  | .recordSearchResult w records =>
    Producer.handleRecordSearchResult strDeviceID (pagesOf MAX_LIST_LEN w records)
  | .alarmRecordQueryResult w records =>
    Producer.sendAlarmRecordQueryResult strDeviceID (pagesOf MAX_LIST_LEN w records)

end Answer

/-- The objects before the answer: message 0 is the query. -/
def queryHeap (A : Allocator CStr) (query : Message CStr) : Heap CStr CStr :=
  ⟨fun m => if m = 0 then query else A.newMessage, fun _ => none⟩

/-- Every page of the answer is sent once and under the query's DeviceID, no message is freed
twice and none touched after it was freed, under every interleaving. -/
def AnswerSurvives (A : Allocator CStr) (query : Message CStr) (answer : Answer ρ) : Prop :=
  Survives A (answer.program MAX_LIST_LEN query.label) (queryHeap A query)
    (answer.pages MAX_LIST_LEN) query.label

/-- The answer has at most one page, or a message of its own for each page and new messages with
the query's DeviceID; an answer with the whole catalogue never. -/
def HandedOverOnce (A : Allocator CStr) (query : Message CStr) : Answer ρ → Prop
  | .catalogSubscribeResult w records => OnePage MAX_LIST_LEN w records
  | .singeDecoderCatalog cataLogInfo => cataLogInfo.length ≤ 1
  | .singeDecoderOneChnCatalog cataLogInfo => cataLogInfo.length ≤ 1
  | .allCatalog _ _ _ => False
  | .recordSearchResult w records =>
    OnePage MAX_LIST_LEN w records ∨ A.newMessage.label = query.label
  | .alarmRecordQueryResult w records =>
    OnePage MAX_LIST_LEN w records ∨ A.newMessage.label = query.label

/-! ## The loops with a message for each page -/

section OwnMessage

variable (A : Allocator CStr) (messageFirst : Bool) (strDeviceID : CStr)

/-- The action concerns the `i`-th message and buffer or later ones. -/
def From (i : Nat) (a : Producer.Step) : Prop :=
  (∀ m ∈ a.touches, i ≤ m) ∧ (∀ m ∈ a.pushed, i ≤ m) ∧ ∀ b ∈ a.writes, i ≤ b

theorem From.avoids {i k : Nat} {a : Producer.Step} (h : From i a) (hk : k < i) :
    a.Avoids k (some k) where
  touches hm := absurd (h.1 k hm) (by omega)
  pushed hm := absurd (h.2.1 k hm) (by omega)
  writes b hb hmem := by
    obtain rfl := Option.some.inj hb
    exact absurd (h.2.2 k hmem) (by omega)

/-- The objects of the next page, with the buffer mounted. -/
def mountNext (i : Nat) : List Producer.Step :=
  Producer.nextObjects messageFirst i ++ [Action.mount i i]

/-- The actions of a turn up to its push. -/
def fillPage (i : Nat) (page : CStr) : List Producer.Step :=
  [.fill i page, .setReady i, .setLabel i strDeviceID]

theorem recordLoop_cons (i : Nat) (page next : CStr) (rest : List CStr) :
    Producer.recordLoop messageFirst strDeviceID i (page :: next :: rest) =
      fillPage strDeviceID i page ++ Action.push i ::
        (mountNext messageFirst (i + 1) ++
          Producer.recordLoop messageFirst strDeviceID (i + 1) (next :: rest)) := by
  rw [Producer.recordLoop, mountNext, fillPage]
  simp only [List.cons_append, List.nil_append, List.append_assoc]

theorem From.of_succ {i : Nat} {a : Producer.Step} (h : From (i + 1) a) : From i a :=
  ⟨fun m hm => Nat.le_of_succ_le (h.1 m hm), fun m hm => Nat.le_of_succ_le (h.2.1 m hm),
    fun b hb => Nat.le_of_succ_le (h.2.2 b hb)⟩

theorem from_mountNext (i : Nat) : ∀ a ∈ mountNext messageFirst i, From i a := by
  cases messageFirst <;>
    simp [mountNext, Producer.nextObjects, From, Action.touches, Action.pushed, Action.writes]

theorem from_fillPage (i : Nat) (page : CStr) : ∀ a ∈ fillPage strDeviceID i page, From i a := by
  simp [fillPage, From, Action.touches, Action.pushed, Action.writes]

theorem from_recordLoop (i : Nat) (pages : List CStr) :
    ∀ a ∈ Producer.recordLoop messageFirst strDeviceID i pages, From i a := by
  match pages with
  | [] => exact fun _ ha => nomatch ha
  | [page] =>
    simp [Producer.recordLoop, From, Action.touches, Action.pushed, Action.writes]
  | page :: next :: rest =>
    rw [recordLoop_cons]
    simp only [List.forall_mem_cons, List.forall_mem_append]
    refine ⟨from_fillPage strDeviceID i page, ?_, ?_, ?_⟩
    · simp [From, Action.touches, Action.pushed, Action.writes]
    · exact fun a ha => (from_mountNext messageFirst (i + 1) a ha).of_succ
    · exact fun a ha => (from_recordLoop (i + 1) (next :: rest) a ha).of_succ

theorem pushed_mountNext (i : Nat) : ∀ a ∈ mountNext messageFirst i, a.pushed = [] := by
  cases messageFirst <;> simp [mountNext, Producer.nextObjects, Action.pushed]

theorem pushed_fillPage (i : Nat) (page : CStr) :
    ∀ a ∈ fillPage strDeviceID i page, a.pushed = [] := by
  simp [fillPage, Action.pushed]

theorem msg_mountNext (i : Nat) (h : Heap CStr CStr) :
    (run (exec A) h (mountNext messageFirst i)).msg i = { A.newMessage with data := some i } := by
  cases messageFirst <;>
    simp [mountNext, Producer.nextObjects, run, exec, Heap.setMsg, Heap.setBuf]

theorem msg_filled {i : Nat} {h : Heap CStr CStr} (hmsg : (h.msg i).data = some i) (page : CStr) :
    let h' := run (exec A) h (fillPage strDeviceID i page)
    h'.msg i = ⟨strDeviceID, some i, true⟩ ∧ h'.buf i = some page := by
  simp [fillPage, run, exec, Heap.setMsg, Heap.setBuf, hmsg]

/-- **A message of its own for each page** keeps to the discipline. -/
theorem disciplined_recordLoop (i : Nat) (pages : List CStr) {h : Heap CStr CStr}
    (hmsg : (h.msg i).data = some i) :
    Disciplined A (Producer.recordLoop messageFirst strDeviceID i pages) h := by
  match pages with
  | [] => exact trivial
  | [page] => simp [Producer.recordLoop, Disciplined, Action.pushed]
  | page :: next :: rest =>
    rw [recordLoop_cons, disciplined_append A h (pushed_fillPage strDeviceID i page), Disciplined]
    obtain ⟨hfilled, -⟩ := msg_filled A strDeviceID hmsg page
    refine ⟨?_, ?_⟩
    · intro m hm a ha
      obtain rfl := List.mem_singleton.mp hm
      rw [hfilled]
      have hfrom : From (m + 1) a := by
        rcases List.mem_append.mp ha with ha | ha
        · exact from_mountNext messageFirst (m + 1) a ha
        · exact from_recordLoop messageFirst strDeviceID (m + 1) (next :: rest) a ha
      exact hfrom.avoids (Nat.lt_succ_self m)
    · rw [disciplined_append A _ (pushed_mountNext messageFirst (i + 1))]
      exact disciplined_recordLoop (i + 1) (next :: rest) (by rw [msg_mountNext])

/-- What the loop delivers when the first message has the label `own` and new ones `blank`. -/
def recordDeliveries (strDeviceID blank : CStr) : CStr → List CStr → List (Option CStr × CStr)
  | _, [] => []
  | own, [page] => [(some page, own)]
  | _, page :: next :: rest =>
    (some page, strDeviceID) :: recordDeliveries strDeviceID blank blank (next :: rest)

theorem deliveries_recordLoop (i : Nat) (pages : List CStr) {h : Heap CStr CStr}
    (hmsg : (h.msg i).data = some i) :
    deliveries A (Producer.recordLoop messageFirst strDeviceID i pages) h =
      recordDeliveries strDeviceID A.newMessage.label (h.msg i).label pages := by
  match pages with
  | [] => rfl
  | [page] =>
    simp [Producer.recordLoop, recordDeliveries, deliveries, Action.pushed, exec, Heap.delivered,
      Heap.setMsg, Heap.setBuf, hmsg]
  | page :: next :: rest =>
    rw [recordLoop_cons, deliveries_append A h (pushed_fillPage strDeviceID i page), deliveries]
    obtain ⟨hfilled, hbuf⟩ := msg_filled A strDeviceID hmsg page
    have hpush : (Action.push i : Producer.Step).pushed.flatMap
        (run (exec A) h (fillPage strDeviceID i page)).delivered =
        [(some page, strDeviceID)] := by
      rw [Action.pushed, List.flatMap_singleton, Heap.delivered, hfilled, if_pos rfl]
      simp only [Option.bind_some, hbuf]
    rw [hpush, deliveries_append A _ (pushed_mountNext messageFirst (i + 1)),
      deliveries_recordLoop (i + 1) (next :: rest) (by rw [msg_mountNext]), msg_mountNext]
    rfl

theorem pages_recordDeliveries (blank own : CStr) (pages : List CStr) :
    (recordDeliveries strDeviceID blank own pages).map Prod.fst = pages.map some := by
  match pages with
  | [] => rfl
  | [page] => rfl
  | page :: next :: rest =>
    rw [recordDeliveries, List.map_cons, pages_recordDeliveries blank blank (next :: rest)]
    rfl

theorem exists_recordDeliveries (blank : CStr) {pages : List CStr} (h : pages ≠ []) :
    ∃ x ∈ recordDeliveries strDeviceID blank blank pages, x.2 = blank := by
  match pages, h with
  | [page], _ => exact ⟨(some page, blank), List.mem_cons_self, rfl⟩
  | page :: next :: rest, _ =>
    obtain ⟨x, hx, hlabel⟩ := exists_recordDeliveries blank (List.cons_ne_nil next rest)
    exact ⟨x, List.mem_cons_of_mem _ hx, hlabel⟩

theorem label_recordDeliveries (pages : List CStr) :
    ∀ x ∈ recordDeliveries strDeviceID strDeviceID strDeviceID pages, x.2 = strDeviceID := by
  match pages with
  | [] => exact fun _ hx => nomatch hx
  | [page] =>
    intro x hx
    rw [List.mem_singleton.mp hx]
  | page :: next :: rest =>
    intro x hx
    rcases List.mem_cons.mp hx with rfl | hx
    · rfl
    · exact label_recordDeliveries (next :: rest) x hx

/-- All pages carry the DeviceID when there is one page, or new messages carry it by themselves. -/
theorem labels_recordDeliveries_iff (blank : CStr) (pages : List CStr) :
    (∀ x ∈ recordDeliveries strDeviceID blank strDeviceID pages, x.2 = strDeviceID) ↔
      pages.length ≤ 1 ∨ blank = strDeviceID := by
  constructor
  · intro h
    match pages with
    | [] => exact Or.inl (Nat.zero_le 1)
    | [page] => exact Or.inl (Nat.le_refl 1)
    | page :: next :: rest =>
      obtain ⟨x, hx, hlabel⟩ :=
        exists_recordDeliveries strDeviceID blank (List.cons_ne_nil next rest)
      exact Or.inr (hlabel.symm.trans (h x (List.mem_cons_of_mem _ hx)))
  · rintro (hlen | rfl)
    · match pages with
      | [] => exact fun _ hx => nomatch hx
      | [page] =>
        intro x hx
        rw [List.mem_singleton.mp hx]
      | page :: next :: rest =>
        rw [List.length_cons, List.length_cons] at hlen
        omega
    · exact label_recordDeliveries blank pages

/-- **The loop survives** behind actions that push nothing and leave the query message with the
first buffer mounted. -/
theorem recordLoop_survives_iff {query : Message CStr} {head : List Producer.Step}
    (hquiet : ∀ a ∈ head, a.pushed = [])
    (hmsg : (run (exec A) (queryHeap A query) head).msg 0 = { query with data := some 0 })
    (pages : List CStr) :
    Survives A (head ++ Producer.recordLoop messageFirst query.label 0 pages) (queryHeap A query)
        pages query.label ↔
      pages.length ≤ 1 ∨ A.newMessage.label = query.label := by
  have hdata : ((run (exec A) (queryHeap A query) head).msg 0).data = some 0 := by
    rw [hmsg]
  have hdisciplined := (disciplined_append A (queryHeap A query) hquiet).mpr
    (disciplined_recordLoop A messageFirst query.label 0 pages hdata)
  rw [survives_iff_of_disciplined A hdisciplined, deliveries_append A _ hquiet,
    deliveries_recordLoop A messageFirst query.label 0 pages hdata, hmsg,
    pages_recordDeliveries, labels_recordDeliveries_iff]
  exact and_iff_left (List.Perm.refl _)

end OwnMessage

/-! ## The six senders -/

section Senders

variable (A : Allocator CStr) (query : Message CStr)

/-- The actions before the loop of the senders of result lists. -/
def resultHead : List Producer.Step := [.read 0, .read 0, .allocBuffer 0, .mount 0 0, .read 0]

/-- The actions before the first fill of the senders of decoder entries. -/
def decoderHead : List Producer.Step :=
  [.read 0, .read 0, .read 0, .read 0, .allocBuffer 0, .mount 0 0]

theorem pushed_resultHead : ∀ a ∈ resultHead, a.pushed = [] := by
  simp [resultHead, Action.pushed]

theorem pushed_decoderHead : ∀ a ∈ decoderHead, a.pushed = [] := by
  simp [decoderHead, Action.pushed]

theorem msg_resultHead :
    (run (exec A) (queryHeap A query) resultHead).msg 0 = { query with data := some 0 } := by
  simp [resultHead, queryHeap, run, exec, Heap.setMsg, Heap.setBuf]

theorem msg_decoderHead :
    (run (exec A) (queryHeap A query) decoderHead).msg 0 = { query with data := some 0 } := by
  simp [decoderHead, queryHeap, run, exec, Heap.setMsg, Heap.setBuf]

theorem record_survives_iff (messageFirst : Bool) (pages : List CStr) :
    Survives A (resultHead ++ Producer.recordLoop messageFirst query.label 0 pages)
        (queryHeap A query) pages query.label ↔
      pages.length ≤ 1 ∨ A.newMessage.label = query.label :=
  recordLoop_survives_iff A messageFirst pushed_resultHead (msg_resultHead A query) pages

theorem subscribe_survives_iff {pages : List CStr} (hpages : pages ≠ []) :
    Survives A (Producer.sendCatalogSubscribeResult pages) (queryHeap A query) pages query.label ↔
      pages.length ≤ 1 := by
  match pages, hpages with
  | [page], _ =>
    -- with one page the loop is the one with a message for each page
    refine iff_of_true ?_ (Nat.le_refl 1)
    exact (record_survives_iff A query true [page]).mpr (Or.inl (Nat.le_refl 1))
  | page :: next :: rest, _ =>
    refine iff_of_false ?_ (by simp)
    exact not_survives_of_touch A
      [.read 0, .read 0, .allocBuffer 0, .mount 0 0, .read 0, .fill 0 page, .setReady 0]
      [.allocBuffer 1] (Producer.subscribeLoop 1 (next :: rest)) (a := .mount 0 1) (m := 0)
      rfl List.mem_cons_self _ _ _

theorem decoder_survives_iff (pages : List CStr) :
    Survives A (Producer.sendSingeDecoderCatalog pages) (queryHeap A query) pages query.label ↔
      pages.length ≤ 1 := by
  match pages with
  | [] =>
    have hdisciplined : Disciplined A (Producer.sendSingeDecoderCatalog [])
        (queryHeap A query) := by
      simp [Producer.sendSingeDecoderCatalog, Producer.decoderLoop, Disciplined, Action.pushed]
    rw [survives_iff_of_disciplined A hdisciplined]
    simp [Producer.sendSingeDecoderCatalog, Producer.decoderLoop, deliveries, Action.pushed]
  | [page] =>
    refine iff_of_true ?_ (Nat.le_refl 1)
    exact (recordLoop_survives_iff A true pushed_decoderHead (msg_decoderHead A query)
      [page]).mpr (Or.inl (Nat.le_refl 1))
  | page :: next :: rest =>
    refine iff_of_false ?_ (by simp)
    exact not_survives_of_touch A
      [.read 0, .read 0, .read 0, .read 0, .allocBuffer 0, .mount 0 0, .fill 0 page, .setReady 0]
      [.allocBuffer 1] (.fill 1 next :: .setReady 0 :: .push 0 :: Producer.decoderLoop 2 rest)
      (a := .mount 0 1) (m := 0) rfl List.mem_cons_self _ _ _

theorem allCatalog_not_survives (platform : CStr) (virtuals devices pages : List CStr) :
    ¬ Survives A (Producer.sendAllCatalog platform virtuals devices) (queryHeap A query) pages
      query.label :=
  not_survives_of_touch A
    [.read 0, .read 0, .allocBuffer 0, .mount 0 0, .read 0, .fill 0 platform, .setReady 0] []
    ((.read 0 :: Producer.cloneLoop 1 virtuals) ++
      (.read 0 :: Producer.cloneLoop (1 + virtuals.length) devices))
    (a := .read 0) (m := 0) (by simp [Producer.sendAllCatalog]) List.mem_cons_self _ _ _

end Senders

/-- **When an answer reaches SIPCOM's queue and its destination whole**, for every sender, result
list and interleaving. -/
theorem answerSurvives_iff (A : Allocator CStr) (query : Message CStr) (answer : Answer ρ) :
    AnswerSurvives MAX_LIST_LEN A query answer ↔ HandedOverOnce MAX_LIST_LEN A query answer := by
  cases answer with
  | catalogSubscribeResult w records =>
    exact (subscribe_survives_iff A query (writePages_ne_nil MAX_LIST_LEN w _ _ _)).trans
      (length_pagesOf_iff MAX_LIST_LEN w records)
  | singeDecoderCatalog cataLogInfo => exact decoder_survives_iff A query cataLogInfo
  | singeDecoderOneChnCatalog cataLogInfo => exact decoder_survives_iff A query cataLogInfo
  | allCatalog platform virtuals devices =>
    exact iff_of_false (allCatalog_not_survives A query platform virtuals devices _) id
  | recordSearchResult w records =>
    exact (record_survives_iff A query true _).trans
      (or_congr_left (length_pagesOf_iff MAX_LIST_LEN w records))
  | alarmRecordQueryResult w records =>
    exact (record_survives_iff A query false _).trans
      (or_congr_left (length_pagesOf_iff MAX_LIST_LEN w records))

/-- A new message without a DeviceID, and copies as they are. -/
def plainAllocator : Allocator CStr := ⟨⟨[], none, false⟩, id⟩

def decoderQuery : Message CStr := ⟨str "34020000001140000001", none, false⟩

/-- Two entries of a decoder: the consumer has freed the message when the second is mounted. -/
theorem two_entries_not_survive :
    ¬ AnswerSurvives 10 plainAllocator decoderQuery
      (.singeDecoderCatalog [str "1", str "2"] : Answer Unit) := by
  intro h
  have hstale := (h (List.replicate 9 Party.producer ++ List.replicate 4 Party.consumer ++
    List.replicate 2 Party.producer)).2.1
  exact absurd hstale (by decide)

end GB28181.Platform
