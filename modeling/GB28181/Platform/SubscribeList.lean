import GB28181.Base.Expiry
import GB28181.Base.Run
import GB28181.GBUtils.Utils

/-!
# Catalogue subscriptions (`GB28181.Platform/DevInfo/SubscribeList.cpp`)

`CSubscribeList` looks a device up in six scopes, the whole system first, then its province,
city, district and station code, then the device itself, and stops at the first recorded one.

* `Book` — what a subscription list is for: subscriptions with deadlines, entered, taken back, and
  asked for by a device;
* `subscribeStep_inv` — the list keeps the live subscriptions of the book, as long as no call
  takes back a live system subscription and no expired one drags a live entry with it;
* `find_covers_iff` — then `Find` answers from a covering subscription **exactly when the first
  scope recorded for the device is live, or none is**.
-/

set_option autoImplicit false

namespace GB28181.Platform

open GB28181.Base GB28181.GBUtils

/-- `SubInfo_t`. -/
structure SubInfo where
  exp : Int
  did : Int
  deriving DecidableEq

structure CSubscribeList where
  m_oSubscribeMap : Map CStr SubInfo := ∅
  m_strSysSubscribe : CStr := []
  m_strSysSubInfo : SubInfo := ⟨0, 0⟩
  deriving DecidableEq

/-- The result of `Find` with its out parameters, `none` where it does not set them. -/
structure FindResult where
  ret : Int
  pzsSubscribeID : Option CStr
  nDID : Option Int
  deriving DecidableEq

namespace CSubscribeList

def init (pszGWID : CStr) (c : CSubscribeList) : CSubscribeList :=
  { c with m_strSysSubscribe := pszGWID }

/-- `Add` at the time `tmCur`. -/
def add (tmCur : Int) (pszDeviceID : CStr) (nExp nDID : Int) (c : CSubscribeList) :
    CSubscribeList :=
  if c.m_strSysSubscribe = pszDeviceID then
    { c with m_strSysSubscribe := pszDeviceID, m_strSysSubInfo := ⟨nExp + tmCur, nDID⟩ }
  else { c with m_oSubscribeMap := c.m_oSubscribeMap.insert pszDeviceID ⟨nExp + tmCur, nDID⟩ }

/-- `Del`, whose result no caller here reads. -/
def del (pszDeviceID : CStr) (c : CSubscribeList) : CSubscribeList :=
  { c with m_oSubscribeMap := c.m_oSubscribeMap.erase pszDeviceID }

/-- The loop of `Find` over the scopes below the system. -/
def findLoop (ID_BUF_LEN : Nat) (tmCur : Int) (c : CSubscribeList) :
    List CStr → FindResult × CSubscribeList
  | [] => (⟨-1, none, none⟩, c)
  | tmp :: tmps =>
    match c.m_oSubscribeMap.lookup tmp with
    | some subInfo =>
      if tmCur < subInfo.exp then
        (⟨0, some (stringCpy_s ID_BUF_LEN tmp), some subInfo.did⟩, c)
      else (⟨1, some (stringCpy_s ID_BUF_LEN tmp), some subInfo.did⟩, c.del tmp)
    | none => findLoop ID_BUF_LEN tmCur c tmps

/-- The values of `tmp` in that loop. -/
def scopes (ID_BUF_LEN : Nat) (pszDeviceID : CStr) : List CStr :=
  [1, 2, 3, 4, 5].map fun i =>
    if i < 5 then stringCpy_s (i * 2 + 1) pszDeviceID else stringCpy_s ID_BUF_LEN pszDeviceID

/-- `Find` at the time `tmCur`. -/
def find (ID_BUF_LEN : Nat) (tmCur : Int) (pszDeviceID : CStr) (c : CSubscribeList) :
    FindResult × CSubscribeList :=
  if 0 < c.m_strSysSubInfo.exp then
    let pzsSubscribeID := stringCpy_s ID_BUF_LEN c.m_strSysSubscribe
    if tmCur < c.m_strSysSubInfo.exp then
      (⟨0, some pzsSubscribeID, some c.m_strSysSubInfo.did⟩, c)
    else (⟨1, some pzsSubscribeID, some c.m_strSysSubInfo.did⟩, c.del pzsSubscribeID)
  else findLoop ID_BUF_LEN tmCur c (scopes ID_BUF_LEN pszDeviceID)

end CSubscribeList

/-! ## The book -/

/-- The subscriptions entered and not taken back: to the whole system, and by scope. -/
structure Book where
  sysID : CStr := []
  system : Option SubInfo := none
  entries : Map CStr SubInfo := ∅

namespace Book

def init (id : CStr) (b : Book) : Book := { b with sysID := id }

def add (tmCur : Int) (id : CStr) (nExp nDID : Int) (b : Book) : Book :=
  if b.sysID = id then { b with system := some ⟨nExp + tmCur, nDID⟩ }
  else { b with entries := b.entries.insert id ⟨nExp + tmCur, nDID⟩ }

def del (id : CStr) (b : Book) : Book :=
  { b with
    system := if b.sysID = id then none else b.system
    entries := b.entries.erase id }

/-- The subscription `s` lives at the time `t` and covers the device `d`. -/
def Covers (b : Book) (t : Int) (d : CStr) (s : SubInfo) : Prop :=
  t < s.exp ∧
    (b.system = some s ∨ b.entries.lookup d = some s ∨
      ∃ n ∈ [2, 4, 6, 8], b.entries.lookup (d.take n) = some s)

end Book

/-! ## Runs -/

inductive SubscribeCall where
  | init (pszGWID : CStr)
  | add (pszDeviceID : CStr) (nExp nDID : Int)
  | find (pszDeviceID : CStr)
  | del (pszDeviceID : CStr)

variable (ID_BUF_LEN : Nat)

def CSubscribeList.step (tmCur : Int) (c : CSubscribeList) : SubscribeCall → CSubscribeList
  | .init id => c.init id
  | .add id nExp nDID => c.add tmCur id nExp nDID
  | .find id => (c.find ID_BUF_LEN tmCur id).2
  | .del id => c.del id

def Book.step (tmCur : Int) (b : Book) : SubscribeCall → Book
  | .init id => b.init id
  | .add id nExp nDID => b.add tmCur id nExp nDID
  | .find _ => b
  | .del id => b.del id

/-- The list and the book after a call at the time `tmCur`. -/
def subscribeStep (tmCur : Nat) (s : CSubscribeList × Book) (call : SubscribeCall) :
    CSubscribeList × Book :=
  (s.1.step ID_BUF_LEN tmCur call, s.2.step tmCur call)

/-- The call loses no live subscription and keeps none that was taken back: `Del` is not called
with the system ID while the system subscription lives, and a `Find` that meets an expired system
subscription finds no live entry under the system ID. -/
def KeepsLive (tmCur : Int) (c : CSubscribeList) : SubscribeCall → Prop
  | .del id => id = c.m_strSysSubscribe → c.m_strSysSubInfo.exp ≤ tmCur
  | .find _ =>
    0 < c.m_strSysSubInfo.exp → c.m_strSysSubInfo.exp ≤ tmCur →
      ∀ s, c.m_oSubscribeMap.lookup (stringCpy_s ID_BUF_LEN c.m_strSysSubscribe) = some s →
        s.exp ≤ tmCur
  | _ => True

/-- The list has the live subscriptions of the book. -/
structure SubscribeInv (now : Int) (s : CSubscribeList × Book) : Prop where
  sysID : s.1.m_strSysSubscribe = s.2.sysID
  system : liveAt SubInfo.exp now (some s.1.m_strSysSubInfo) = liveAt SubInfo.exp now s.2.system
  entries : LiveAgree SubInfo.exp now s.1.m_oSubscribeMap s.2.entries

namespace SubscribeInv

variable {now now' : Int} {s : CSubscribeList × Book}

theorem mono (h : SubscribeInv now s) (hle : now ≤ now') : SubscribeInv now' s :=
  ⟨h.sysID, liveAt_mono SubInfo.exp hle h.system, h.entries.mono hle⟩

theorem del_dead (h : SubscribeInv now s) {k : CStr}
    (hk : liveAt SubInfo.exp now (s.1.m_oSubscribeMap.lookup k) = none) :
    SubscribeInv now (s.1.del k, s.2) :=
  ⟨h.sysID, h.system, h.entries.erase_dead hk⟩

end SubscribeInv

theorem liveAt_eq_none {t : Int} {o : Option SubInfo} :
    liveAt SubInfo.exp t o = none ↔ ∀ s, o = some s → s.exp ≤ t := by
  rw [Option.eq_none_iff_forall_not_mem]
  simp only [Option.mem_def, liveAt_eq_some, not_and, Int.not_lt]

theorem findLoop_inv {now : Int} {s : CSubscribeList × Book} (h : SubscribeInv now s)
    (tmps : List CStr) : SubscribeInv now ((s.1.findLoop ID_BUF_LEN now tmps).2, s.2) := by
  induction tmps with
  | nil => exact h
  | cons tmp tmps ih =>
    unfold CSubscribeList.findLoop
    cases hl : s.1.m_oSubscribeMap.lookup tmp with
    | none => exact ih
    | some subInfo =>
      dsimp only
      split
      · exact h
      · rename_i hexp
        apply h.del_dead
        rw [liveAt_eq_none]
        intro s' hs'
        obtain rfl := Option.some.inj (hl.symm.trans hs')
        omega

/-- **A call that meets the condition keeps the live subscriptions.** -/
theorem subscribeStep_inv {now : Nat} {s : CSubscribeList × Book} {call : SubscribeCall}
    (h : SubscribeInv now s) (hok : KeepsLive ID_BUF_LEN now s.1 call) :
    SubscribeInv now (subscribeStep ID_BUF_LEN now s call) := by
  cases call with
  | init id => exact ⟨rfl, h.system, h.entries⟩
  | add id nExp nDID =>
    simp only [subscribeStep, CSubscribeList.step, Book.step, CSubscribeList.add, Book.add,
      ← h.sysID]
    split
    · rename_i hid
      exact ⟨hid.symm, rfl, h.entries⟩
    · exact ⟨rfl, h.system, h.entries.insert id _⟩
  | find id =>
    simp only [subscribeStep, CSubscribeList.step, Book.step, CSubscribeList.find]
    split
    · rename_i hrec
      split
      · exact h
      · rename_i hexp
        exact h.del_dead (liveAt_eq_none.mpr (hok hrec (by omega)))
    · exact findLoop_inv ID_BUF_LEN h _
  | del id =>
    refine ⟨h.sysID, ?_, h.entries.erase id⟩
    show liveAt SubInfo.exp now (some s.1.m_strSysSubInfo) =
      liveAt SubInfo.exp now (if s.2.sysID = id then none else s.2.system)
    split
    · rename_i hid
      have hdead := hok (h.sysID.trans hid).symm
      exact liveAt_eq_none.mpr fun s' hs' => by
        obtain rfl := Option.some.inj hs'
        exact hdead
    · exact h.system

/-- The state of a run before its first call. -/
def subscribeStart : Nat × CSubscribeList × Book := (0, {}, {})

theorem run_subscribeInv {script : List (Nat × SubscribeCall)} (htimes : TimesFrom 0 script)
    (hok : ∀ p ∈ calls (clocked (subscribeStep ID_BUF_LEN)) subscribeStart script,
      KeepsLive ID_BUF_LEN p.2.1 p.1.2.1 p.2.2) :
    SubscribeInv (run (clocked (subscribeStep ID_BUF_LEN)) subscribeStart script).1
      (run (clocked (subscribeStep ID_BUF_LEN)) subscribeStart script).2 := by
  have hle : ∀ p ∈ calls (clocked (subscribeStep ID_BUF_LEN)) subscribeStart script,
      p.1.1 ≤ p.2.1 := clocked_calls_le htimes
  have hkeep : ∀ (s : Nat × CSubscribeList × Book) (i : Nat × SubscribeCall),
      (s.1 ≤ i.1 ∧ KeepsLive ID_BUF_LEN i.1 s.2.1 i.2) → SubscribeInv s.1 s.2 →
      SubscribeInv (clocked (subscribeStep ID_BUF_LEN) s i).1
        (clocked (subscribeStep ID_BUF_LEN) s i).2 := fun s i hi h =>
    subscribeStep_inv ID_BUF_LEN (h.mono (by exact_mod_cast hi.1)) hi.2
  exact run_invariant hkeep ⟨rfl, rfl, fun _ => rfl⟩ fun p hp => ⟨hle p hp, hok p hp⟩

/-! ## Looking up a device -/

/-- The subscriptions recorded for a device in the order `Find` meets them. -/
def CSubscribeList.recorded (c : CSubscribeList) (d : CStr) : List SubInfo :=
  (if 0 < c.m_strSysSubInfo.exp then [c.m_strSysSubInfo] else []) ++
    (scopes ID_BUF_LEN d).filterMap c.m_oSubscribeMap.lookup

/-- What `Find` returns of the recorded subscriptions: the first. -/
def firstResult (t : Int) : List SubInfo → Int × Option Int
  | [] => (-1, none)
  | s :: _ => (if t < s.exp then 0 else 1, some s.did)

theorem findLoop_result (t : Int) (c : CSubscribeList) (tmps : List CStr) :
    ((c.findLoop ID_BUF_LEN t tmps).1.ret, (c.findLoop ID_BUF_LEN t tmps).1.nDID) =
      firstResult t (tmps.filterMap c.m_oSubscribeMap.lookup) := by
  induction tmps with
  | nil => rfl
  | cons tmp tmps ih =>
    rw [List.filterMap_cons]
    unfold CSubscribeList.findLoop
    cases c.m_oSubscribeMap.lookup tmp with
    | none => exact ih
    | some subInfo =>
      dsimp only [firstResult]
      split <;> rfl

theorem find_result (t : Int) (d : CStr) (c : CSubscribeList) :
    ((c.find ID_BUF_LEN t d).1.ret, (c.find ID_BUF_LEN t d).1.nDID) =
      firstResult t (c.recorded ID_BUF_LEN d) := by
  unfold CSubscribeList.find CSubscribeList.recorded
  split
  · dsimp only [firstResult, List.cons_append]
    split <;> rfl
  · exact findLoop_result ID_BUF_LEN t c _

theorem scopes_eq {d : CStr} (hd : d.length < ID_BUF_LEN) :
    CSubscribeList.scopes ID_BUF_LEN d = [d.take 2, d.take 4, d.take 6, d.take 8, d] := by
  have hbuf : stringCpy_s ID_BUF_LEN d = d := if_pos hd
  simp [CSubscribeList.scopes, stringCpy_s_succ, hbuf]

/-- The live recorded subscriptions are those of the book that cover the device. -/
theorem covers_iff {now : Int} {s : CSubscribeList × Book} (h : SubscribeInv now s) {t : Nat}
    (ht : now ≤ t) {d : CStr} (hd : d.length < ID_BUF_LEN) (sub : SubInfo) :
    s.2.Covers t d sub ↔ sub ∈ s.1.recorded ID_BUF_LEN d ∧ t < sub.exp := by
  obtain ⟨-, hsystem, hentries⟩ := h.mono ht
  have hsys : t < sub.exp → (s.2.system = some sub ↔ s.1.m_strSysSubInfo = sub) := fun hlive => by
    have := congrArg (· = some sub) hsystem
    simp only [liveAt_eq_some, hlive, and_true, Option.some.injEq, eq_iff_iff] at this
    exact this.symm
  have hent : ∀ k, t < sub.exp →
      (s.2.entries.lookup k = some sub ↔ s.1.m_oSubscribeMap.lookup k = some sub) :=
    fun k hlive => by
      have := congrArg (· = some sub) (hentries k)
      simp only [liveAt_eq_some, hlive, and_true, eq_iff_iff] at this
      exact this.symm
  have hrec : t < sub.exp → (sub ∈ (if 0 < s.1.m_strSysSubInfo.exp then [s.1.m_strSysSubInfo]
      else []) ↔ s.1.m_strSysSubInfo = sub) := fun hlive => by
    split
    · simp [eq_comm]
    · rename_i hneg
      simp only [List.not_mem_nil, false_iff]
      rintro rfl
      omega
  rw [Book.Covers, CSubscribeList.recorded, List.mem_append, List.mem_filterMap, scopes_eq _ hd,
    and_comm]
  refine and_congr_left fun hlive => ?_
  rw [hsys hlive, hrec hlive]
  simp only [hent _ hlive, List.mem_cons, List.not_mem_nil, or_false, exists_eq_or_imp,
    exists_eq_left]
  refine or_congr_right ?_
  rw [or_comm, or_assoc, or_assoc, or_assoc]

/-- `Find` answers right for the device `d` at the time `t`: 0 exactly when a live subscription
covers the device, and then with the DID of one that does. -/
def FindRight (b : Book) (t : Int) (d : CStr) (r : FindResult) : Prop :=
  (r.ret = 0 ↔ ∃ s, b.Covers t d s) ∧ (r.ret = 0 → ∃ s, b.Covers t d s ∧ r.nDID = some s.did)

/-- The first scope recorded for the device is live, or none of them is. -/
def FirstLiveOrNone (t : Int) (recorded : List SubInfo) : Prop :=
  (∃ s, recorded.head? = some s ∧ t < s.exp) ∨ ∀ s ∈ recorded, s.exp ≤ t

theorem findRight_iff {now : Int} {s : CSubscribeList × Book} (h : SubscribeInv now s) {t : Nat}
    (ht : now ≤ t) {d : CStr} (hd : d.length < ID_BUF_LEN) :
    FindRight s.2 t d (s.1.find ID_BUF_LEN t d).1 ↔
      FirstLiveOrNone t (s.1.recorded ID_BUF_LEN d) := by
  obtain ⟨hret, hdid⟩ := Prod.mk.inj (find_result ID_BUF_LEN t d s.1)
  have hcovers := covers_iff ID_BUF_LEN h ht hd
  simp only [FindRight, hcovers, hret, hdid, FirstLiveOrNone]
  cases s.1.recorded ID_BUF_LEN d with
  | nil => simp
  | cons first rest =>
    by_cases hlive : (t : Int) < first.exp
    · simp only [hlive, if_true, List.head?_cons]
      exact iff_of_true ⟨iff_of_true trivial ⟨first, List.mem_cons_self, hlive⟩,
        fun _ => ⟨first, ⟨List.mem_cons_self, hlive⟩, rfl⟩⟩ (Or.inl ⟨first, rfl, hlive⟩)
    · have hhead : ¬ ∃ s, (first :: rest).head? = some s ∧ (t : Int) < s.exp := by
        rintro ⟨s, hs, hs'⟩
        obtain rfl := Option.some.inj hs
        exact hlive hs'
      simp only [hlive, if_false, one_ne_zero, false_iff, false_implies, and_true, hhead,
        false_or, not_exists, not_and, Int.not_lt]

/-- **Subscription cover.**  After a run of calls at non-decreasing times none of which loses a
live subscription or keeps one taken back, `Find` answers right for a device exactly when the
first scope recorded for it is live, or none is. -/
theorem find_covers_iff {script : List (Nat × SubscribeCall)} (htimes : TimesFrom 0 script)
    (hok : ∀ p ∈ calls (clocked (subscribeStep ID_BUF_LEN)) subscribeStart script,
      KeepsLive ID_BUF_LEN p.2.1 p.1.2.1 p.2.2)
    {d : CStr} (hd : d.length < ID_BUF_LEN) {t : Nat}
    (ht : (run (clocked (subscribeStep ID_BUF_LEN)) subscribeStart script).1 ≤ t) :
    FindRight (run (clocked (subscribeStep ID_BUF_LEN)) subscribeStart script).2.2 t d
        ((run (clocked (subscribeStep ID_BUF_LEN)) subscribeStart script).2.1.find
          ID_BUF_LEN t d).1 ↔
      FirstLiveOrNone t
        ((run (clocked (subscribeStep ID_BUF_LEN)) subscribeStart script).2.1.recorded
          ID_BUF_LEN d) :=
  findRight_iff ID_BUF_LEN (run_subscribeInv ID_BUF_LEN htimes hok) (by exact_mod_cast ht) hd

def camera : CStr := str "11000000001320000001"

def provinceScript : List (Nat × SubscribeCall) :=
  [(0, .init (str "34020000002000000001")), (5, .add (str "11") 100 2)]

theorem province_found :
    FindRight (run (clocked (subscribeStep 21)) subscribeStart provinceScript).2.2 20 camera
      ((run (clocked (subscribeStep 21)) subscribeStart provinceScript).2.1.find 21 20 camera).1 :=
  (find_covers_iff 21 (t := 20) (by unfold TimesFrom provinceScript; simp)
    (by
      intro p hp
      simp only [provinceScript, calls, List.mem_cons, List.not_mem_nil, or_false] at hp
      rcases hp with rfl | rfl <;> trivial)
    (by decide) (by decide)).mpr (Or.inl ⟨⟨105, 2⟩, by decide, by decide⟩)

/-- A subscription to the system that expires before one to the province. -/
def systemScript : List (Nat × SubscribeCall) :=
  [(0, .init (str "34020000002000000001")), (0, .add (str "34020000002000000001") 10 1),
    (5, .add (str "11") 100 2)]

/-- The expired subscription hides the live one. -/
theorem system_hides_province :
    ¬ (∀ (script : List (Nat × SubscribeCall)) (d : CStr) (t : Nat), TimesFrom 0 script →
      d.length < 21 → (run (clocked (subscribeStep 21)) subscribeStart script).1 ≤ t →
      FindRight (run (clocked (subscribeStep 21)) subscribeStart script).2.2 t d
        ((run (clocked (subscribeStep 21)) subscribeStart script).2.1.find 21 t d).1) := by
  intro h
  have hright := h systemScript camera 20 (by unfold TimesFrom systemScript; simp) (by decide)
    (by decide)
  have hcovers : (run (clocked (subscribeStep 21)) subscribeStart systemScript).2.2.Covers 20 camera
      ⟨105, 2⟩ := ⟨by decide, Or.inr (Or.inr ⟨2, by decide, by decide⟩)⟩
  have hret := hright.1.mpr ⟨_, hcovers⟩
  revert hret
  decide

end GB28181.Platform
