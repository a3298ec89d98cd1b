import GB28181.Base.Map
import GB28181.Base.Ownership
import GB28181.Base.Run
import GB28181.Base.CString

/-!
# Recording (`RTSPCom/RTSPTransSessionMgrRec.cpp`)

A thread for each session, found in `m_oThreadQueueMap` under the device from its start until its
end is complete.  A start that finds an entry is dropped; a stop goes to the queue that it finds.
The session keeps the message it was started with and pushes it to the SDK module for each
`RECORD` it sends.

* `step` — the steps of `ProcessOperation`, of the threads and of the SDK module;
* `Inv` — the map against the threads, the last command against both, and the messages;
* `follows_run` — recording follows the last command **in every run in which no start falls between
  a stop and the end of its session, no session is renewed and no wait fails**.
-/

set_option autoImplicit false

namespace GB28181.RTSPCom.Recording

open GB28181.Base

/-! ## State -/

inductive Phase where
  /-- Before `Pop`. -/
  | started
  /-- In `ThreadEventLoop`. -/
  | recording
  /-- Behind it. -/
  | left
  /-- `RemoveKey` is done. -/
  | removed
  | deleted
deriving DecidableEq

/-- A thread: its `ThreadInfo_t`, and the message that its session holds. -/
structure Thread where
  strDeviceID : CStr
  oMsgQueue : List Nat
  oEvent : Bool := false
  pUnifiedMsg : Option Nat := none
  phase : Phase := .started
deriving DecidableEq

/-- `mod_op_t::ot_sdk`, as far as recording sets it. -/
inductive OtSdk where
  | insert_video_record
  | update_video_record
deriving DecidableEq

/-- The threads started so far, the map, the messages and the SDK module. -/
structure Recorder where
  threads : List Thread := []
  m_oThreadQueueMap : Map CStr Nat := ∅
  /-- Messages are numbered in the order in which they come. -/
  nextMsg : Nat := 0
  /-- What the recording side does with messages. -/
  trace : List (Own.Event Nat) := []
  /-- `GetModAction` of a message that was pushed. -/
  action : Nat → OtSdk := fun _ => .insert_video_record
  /-- The queue of the SDK module, and the messages it freed. -/
  sdkcom : List Nat := []
  freed : List Nat := []
  /-- The last command for a device is a start. -/
  wanted : CStr → Bool := fun _ => false

namespace Recorder

/-- Thread `n` becomes `t`. -/
def set (s : Recorder) (n : Nat) (t : Thread) : Recorder :=
  { s with threads := s.threads.set n t }

def noticeSDKCom (s : Recorder) (devOperateType : OtSdk) (pMsg : Nat) : Recorder :=
  { s with
    trace := s.trace ++ [.use pMsg, .give pMsg]
    action := Function.update s.action pMsg devOperateType
    sdkcom := s.sdkcom ++ [pMsg] }

/-- A command is given: a message comes. -/
def command (s : Recorder) (strDeviceID : CStr) (start : Bool) : Recorder :=
  { s with nextMsg := s.nextMsg + 1, wanted := Function.update s.wanted strDeviceID start }

/-- `ProcessOperation` of `record_start`. -/
def recordStart (s : Recorder) (strDeviceID : CStr) : Recorder :=
  match s.m_oThreadQueueMap.lookup strDeviceID with
  | some _ => s.command strDeviceID true
  | none =>
    { s.command strDeviceID true with
      threads := s.threads ++ [{ strDeviceID := strDeviceID, oMsgQueue := [s.nextMsg] }]
      m_oThreadQueueMap := s.m_oThreadQueueMap.insert strDeviceID s.threads.length }

/-- `ProcessOperation` of `record_stop`. -/
def recordStop (s : Recorder) (strDeviceID : CStr) : Recorder :=
  match s.m_oThreadQueueMap.lookup strDeviceID with
  | some n =>
    match s.threads[n]? with
    | some t =>
      (s.command strDeviceID false).set n { t with oMsgQueue := t.oMsgQueue ++ [s.nextMsg] }
    | none => s.command strDeviceID false
  | none => s.command strDeviceID false

/-- `Pop`, `Create` and `Options` of thread `n`; without a session it goes to its end. -/
def takeFirst (s : Recorder) (n : Nat) (created : Bool) : Recorder :=
  match s.threads[n]? with
  | some t =>
    match t.phase, t.oMsgQueue with
    | .started, pMsg :: queue =>
      if created then
        (s.set n { t with oMsgQueue := queue, pUnifiedMsg := some pMsg, phase := .recording })
          |>.noticeSDKCom .insert_video_record pMsg
      else s.set n { t with oMsgQueue := queue, phase := .left }
    | _, _ => s
  | none => s

/-- `TimeOutProc` of thread `n` when the next `RECORD` is due. -/
def renew (s : Recorder) (n : Nat) (sent : Bool) : Recorder :=
  match s.threads[n]? with
  | some t =>
    match t.phase, t.pUnifiedMsg with
    | .recording, some pMsg => if sent then s.noticeSDKCom .update_video_record pMsg else s
    | _, _ => s
  | none => s

/-- `ProcessMsgQueueEvent` of thread `n`: whatever is in the queue ends the session. -/
def takeStop (s : Recorder) (n : Nat) : Recorder :=
  match s.threads[n]? with
  | some t =>
    match t.phase, t.oMsgQueue with
    | .recording, pMsg :: queue =>
      { s.set n { t with oMsgQueue := queue, oEvent := true } with
        trace := s.trace ++ [.give pMsg] }
    | _, _ => s
  | none => s

/-- Thread `n` finds the exit event, or its wait fails.  It fails in every turn of a session without
a network event, that is of one whose NVR could not be connected when the client was made. -/
def leave (s : Recorder) (n : Nat) (failed : Bool) : Recorder :=
  match s.threads[n]? with
  | some t =>
    if t.phase = .recording ∧ (t.oEvent = true ∨ failed = true) then
      s.set n { t with phase := .left }
    else s
  | none => s

/-- `ThreadDestroy` of thread `n`, first `RemoveKey`. -/
def removeKey (s : Recorder) (n : Nat) : Recorder :=
  match s.threads[n]? with
  | some t =>
    if t.phase = .left then
      { s.set n { t with phase := .removed } with
        m_oThreadQueueMap := s.m_oThreadQueueMap.erase t.strDeviceID }
    else s
  | none => s

/-- Then `ClearMsgQueue` and `delete`. -/
def delete (s : Recorder) (n : Nat) : Recorder :=
  match s.threads[n]? with
  | some t =>
    if t.phase = .removed then
      { s.set n { t with oMsgQueue := [], phase := .deleted } with
        trace := s.trace ++ t.oMsgQueue.map .give }
    else s
  | none => s

/-- `HandleMsg` of the SDK module: it has no case for an insertion and frees the message; one for
an update is kept. -/
def handleMsg (s : Recorder) : Recorder :=
  match s.sdkcom with
  | [] => s
  | pMsg :: sdkcom =>
    match s.action pMsg with
    | .insert_video_record => { s with sdkcom := sdkcom, freed := s.freed ++ [pMsg] }
    | .update_video_record => { s with sdkcom := sdkcom }

end Recorder

/-- The steps of all threads; one that its thread cannot make does nothing. -/
inductive Step where
  | recordStart (strDeviceID : CStr)
  | recordStop (strDeviceID : CStr)
  | takeFirst (n : Nat) (created : Bool)
  | renew (n : Nat) (sent : Bool)
  | takeStop (n : Nat)
  | leave (n : Nat) (failed : Bool)
  | removeKey (n : Nat)
  | delete (n : Nat)
  | handleMsg

def step (s : Recorder) : Step → Recorder
  | .recordStart strDeviceID => s.recordStart strDeviceID
  | .recordStop strDeviceID => s.recordStop strDeviceID
  | .takeFirst n created => s.takeFirst n created
  | .renew n sent => s.renew n sent
  | .takeStop n => s.takeStop n
  | .leave n failed => s.leave n failed
  | .removeKey n => s.removeKey n
  | .delete n => s.delete n
  | .handleMsg => s.handleMsg

/-! ## What should hold -/

/-- The session of thread `n` runs. -/
def Runs (s : Recorder) (strDeviceID : CStr) (n : Nat) : Prop :=
  ∃ t, s.threads[n]? = some t ∧ t.strDeviceID = strDeviceID ∧ t.phase = .recording

/-- Every queued message is processed, and whoever was told to end has ended. -/
def Settled (s : Recorder) : Prop :=
  ∀ (n : Nat) (t : Thread), s.threads[n]? = some t → t.phase = .started ∨ t.phase = .recording →
    t.oMsgQueue = [] ∧ t.oEvent = false

/-- Recording follows the last command, a device has one session at most, and a message that was
given away is left alone. -/
structure Follows (s : Recorder) : Prop where
  last : Settled s → ∀ d, (∃ n, Runs s d n) ↔ s.wanted d = true
  single : ∀ d n m, Runs s d n → Runs s d m → n = m
  untouched : ∀ x, Own.life x .live s.trace ≠ .broken

/-- The thread has a session, or will have one, and nothing that ends it is under way. -/
def Thread.Continues (t : Thread) : Prop :=
  t.oEvent = false ∧
    (t.phase = .started ∧ t.oMsgQueue.length = 1 ∨ t.phase = .recording ∧ t.oMsgQueue = [])

instance (t : Thread) : Decidable t.Continues := inferInstanceAs (Decidable (_ ∧ _))

/-- A start meets no session that is about to end, every thread is given a session, no session is
renewed, and no wait fails in a session that goes on. -/
def Undisturbed (s : Recorder) : Step → Prop
  | .recordStart d =>
    ∀ n ∈ s.m_oThreadQueueMap.lookup d, ∀ t ∈ s.threads[n]?, t.Continues
  | .takeFirst n created => ∀ t ∈ s.threads[n]?, t.phase = .started → created = true
  | .renew n sent => ∀ t ∈ s.threads[n]?, t.phase = .recording → sent = false
  | .leave n failed => ∀ t ∈ s.threads[n]?, t.phase = .recording → failed = true → ¬ t.Continues
  | _ => True

/-! ## A step -/

section step

variable {s : Recorder} {n : Nat} {t r : Thread}

theorem getElem?_set_of_some (hn : s.threads[n]? = some t) (m : Nat) :
    (s.threads.set n r)[m]? = if m = n then some r else s.threads[m]? := by
  rw [List.getElem?_set]
  by_cases h : m = n
  · rw [if_pos h.symm, if_pos h, if_pos (List.getElem?_eq_some_iff.mp hn).1]
  · rw [if_neg (Ne.symm h), if_neg h]

theorem getElem?_concat_cases {threads : List Thread} (h : (threads ++ [t])[n]? = some r) :
    threads[n]? = some r ∨ n = threads.length ∧ r = t := by
  rcases Nat.lt_or_ge n threads.length with hn | hn
  · exact Or.inl ((List.getElem?_append_left hn).symm.trans h)
  · rw [List.getElem?_append_right hn] at h
    obtain ⟨hlt, h⟩ := List.getElem?_eq_some_iff.mp h
    rw [List.length_singleton] at hlt
    rw [List.getElem_singleton] at h
    exact Or.inr ⟨by omega, h.symm⟩

/-- What an undisturbed step does: one constructor a branch. -/
inductive Turn (s : Recorder) : Recorder → Prop
  /-- a start for a device that has its thread -/
  | again {d : CStr} {n : Nat} (hmap : s.m_oThreadQueueMap.lookup d = some n)
      (hcontinues : ∀ t ∈ s.threads[n]?, t.Continues) : Turn s (s.command d true)
  /-- a start that gets a thread -/
  | start {d : CStr} (hmap : s.m_oThreadQueueMap.lookup d = none) :
      Turn s { s.command d true with
        threads := s.threads ++ [{ strDeviceID := d, oMsgQueue := [s.nextMsg] }]
        m_oThreadQueueMap := s.m_oThreadQueueMap.insert d s.threads.length }
  /-- a stop for the thread of the device -/
  | stop {d : CStr} {n : Nat} {t : Thread} (hmap : s.m_oThreadQueueMap.lookup d = some n)
      (hn : s.threads[n]? = some t) :
      Turn s ((s.command d false).set n { t with oMsgQueue := t.oMsgQueue ++ [s.nextMsg] })
  /-- a stop for no thread -/
  | noStop {d : CStr} (hnone : ∀ n, s.m_oThreadQueueMap.lookup d = some n → s.threads[n]? = none) :
      Turn s (s.command d false)
  | takeFirst {n : Nat} {t : Thread} {pMsg : Nat} {queue : List Nat}
      (hn : s.threads[n]? = some t) (hphase : t.phase = .started)
      (hqueue : t.oMsgQueue = pMsg :: queue) :
      Turn s ((s.set n { t with
        oMsgQueue := queue, pUnifiedMsg := some pMsg, phase := .recording }).noticeSDKCom
          .insert_video_record pMsg)
  | takeStop {n : Nat} {t : Thread} {pMsg : Nat} {queue : List Nat}
      (hn : s.threads[n]? = some t) (hphase : t.phase = .recording)
      (hqueue : t.oMsgQueue = pMsg :: queue) :
      Turn s { s.set n { t with oMsgQueue := queue, oEvent := true } with
        trace := s.trace ++ [.give pMsg] }
  | leave {n : Nat} {t : Thread} (hn : s.threads[n]? = some t) (hphase : t.phase = .recording)
      (hends : ¬ t.Continues) : Turn s (s.set n { t with phase := .left })
  | removeKey {n : Nat} {t : Thread} (hn : s.threads[n]? = some t) (hphase : t.phase = .left) :
      Turn s { s.set n { t with phase := .removed } with
        m_oThreadQueueMap := s.m_oThreadQueueMap.erase t.strDeviceID }
  | delete {n : Nat} {t : Thread} (hn : s.threads[n]? = some t) (hphase : t.phase = .removed) :
      Turn s { s.set n { t with oMsgQueue := [], phase := .deleted } with
        trace := s.trace ++ t.oMsgQueue.map .give }
  /-- the SDK module, and a thread that cannot make the step -/
  | other (sdkcom freed : List Nat) : Turn s { s with sdkcom := sdkcom, freed := freed }

theorem step_turn {i : Step} (hok : Undisturbed s i) : Turn s (step s i) := by
  have hidle : Turn s s := .other s.sdkcom s.freed
  cases i with
  | recordStart d =>
    show Turn s (s.recordStart d)
    unfold Recorder.recordStart
    split
    case h_1 n hmap => exact .again hmap (hok n hmap)
    case h_2 hmap => exact .start hmap
  | recordStop d =>
    show Turn s (s.recordStop d)
    unfold Recorder.recordStop
    split
    case h_1 n hmap =>
      split
      case h_1 t hn => exact .stop hmap hn
      case h_2 hn => exact .noStop fun m hm => Option.some.inj (hmap.symm.trans hm) ▸ hn
    case h_2 hmap => exact .noStop fun m hm => nomatch hmap.symm.trans hm
  | takeFirst n created =>
    show Turn s (s.takeFirst n created)
    unfold Recorder.takeFirst
    split
    case h_2 => exact hidle
    case h_1 t hn =>
      split
      case h_2 => exact hidle
      case h_1 pMsg queue hphase hqueue =>
        rw [if_pos (hok t hn hphase)]
        exact .takeFirst hn hphase hqueue
  | renew n sent =>
    show Turn s (s.renew n sent)
    unfold Recorder.renew
    split
    case h_2 => exact hidle
    case h_1 t hn =>
      split
      case h_2 => exact hidle
      case h_1 pMsg hphase _ =>
        rw [if_neg (by rw [hok t hn hphase]; exact Bool.false_ne_true)]
        exact hidle
  | takeStop n =>
    show Turn s (s.takeStop n)
    unfold Recorder.takeStop
    split
    case h_2 => exact hidle
    case h_1 t hn =>
      split
      case h_2 => exact hidle
      case h_1 pMsg queue hphase hqueue => exact .takeStop hn hphase hqueue
  | leave n failed =>
    show Turn s (s.leave n failed)
    unfold Recorder.leave
    split
    case h_2 => exact hidle
    case h_1 t hn =>
      split_ifs with hleave
      · obtain ⟨hphase, hevent | hfailed⟩ := hleave
        · refine .leave hn hphase fun hcontinues => ?_
          rw [hcontinues.1] at hevent
          cases hevent
        · exact .leave hn hphase (hok t hn hphase hfailed)
      · exact hidle
  | removeKey n =>
    show Turn s (s.removeKey n)
    unfold Recorder.removeKey
    split
    case h_2 => exact hidle
    case h_1 t hn =>
      split_ifs with hphase
      · exact .removeKey hn hphase
      · exact hidle
  | delete n =>
    show Turn s (s.delete n)
    unfold Recorder.delete
    split
    case h_2 => exact hidle
    case h_1 t hn =>
      split_ifs with hphase
      · exact .delete hn hphase
      · exact hidle
  | handleMsg =>
    show Turn s s.handleMsg
    unfold Recorder.handleMsg
    split
    · exact hidle
    · split
      · exact .other _ _
      · exact .other _ s.freed

end step

/-! ## Sessions -/

/-- The thread has its entry in the map. -/
def Thread.Entered (t : Thread) : Prop :=
  t.phase = .started ∨ t.phase = .recording ∨ t.phase = .left

/-- The map against the threads, and the last command against both. -/
structure Sessions (s : Recorder) : Prop where
  entry : ∀ d n, s.m_oThreadQueueMap.lookup d = some n →
    ∃ t, s.threads[n]? = some t ∧ t.strDeviceID = d ∧ t.Entered
  entered : ∀ (n : Nat) (t : Thread), s.threads[n]? = some t → t.Entered →
    s.m_oThreadQueueMap.lookup t.strDeviceID = some n
  first : ∀ (n : Nat) (t : Thread), s.threads[n]? = some t → t.phase = .started → t.oMsgQueue ≠ []
  wanted : ∀ (n : Nat) (t : Thread), s.threads[n]? = some t → t.Entered →
    (s.wanted t.strDeviceID = true ↔ t.Continues)
  unwanted : ∀ d, s.m_oThreadQueueMap.lookup d = none → s.wanted d = false

section sessions

variable {s : Recorder} {n : Nat} {t r : Thread}

/-- A thread goes on and keeps its entry; the commands still say of it whether it continues. -/
theorem Sessions.setWanted (h : Sessions s) (hn : s.threads[n]? = some t)
    (hdevice : r.strDeviceID = t.strDeviceID) (hentered : r.Entered ↔ t.Entered)
    (hfirst : r.phase = .started → r.oMsgQueue ≠ []) (w : CStr → Bool)
    (hwanted : t.Entered → (w t.strDeviceID = true ↔ r.Continues))
    (hothers : ∀ (m : Nat) (u : Thread), m ≠ n → s.threads[m]? = some u → u.Entered →
      w u.strDeviceID = s.wanted u.strDeviceID)
    (hunwanted : ∀ d, s.m_oThreadQueueMap.lookup d = none → w d = false) :
    Sessions { s.set n r with wanted := w } where
  entry d m hm := by
    obtain ⟨u, hu, hd, he⟩ := h.entry d m hm
    show ∃ u, (s.threads.set n r)[m]? = some u ∧ _
    rw [getElem?_set_of_some hn]
    by_cases hmn : m = n
    · subst hmn
      obtain rfl := Option.some.inj (hn.symm.trans hu)
      exact ⟨r, if_pos rfl, hdevice.trans hd, hentered.mpr he⟩
    · exact ⟨u, (if_neg hmn).trans hu, hd, he⟩
  entered m u hu he := by
    rw [Recorder.set, getElem?_set_of_some hn] at hu
    split at hu
    case isTrue hmn =>
      cases hu
      rw [hdevice, hmn]
      exact h.entered n t hn (hentered.mp he)
    case isFalse => exact h.entered m u hu he
  first m u hu hphase := by
    rw [Recorder.set, getElem?_set_of_some hn] at hu
    split at hu
    · cases hu
      exact hfirst hphase
    · exact h.first m u hu hphase
  wanted m u hu he := by
    rw [Recorder.set, getElem?_set_of_some hn] at hu
    split at hu
    case isTrue =>
      cases hu
      rw [hdevice]
      exact hwanted (hentered.mp he)
    case isFalse hmn =>
      show w u.strDeviceID = true ↔ _
      rw [hothers m u hmn hu he]
      exact h.wanted m u hu he
  unwanted := hunwanted

theorem Sessions.set (h : Sessions s) (hn : s.threads[n]? = some t)
    (hdevice : r.strDeviceID = t.strDeviceID) (hentered : r.Entered ↔ t.Entered)
    (hfirst : r.phase = .started → r.oMsgQueue ≠ [])
    (hcontinues : t.Entered → (r.Continues ↔ t.Continues)) : Sessions (s.set n r) :=
  h.setWanted hn hdevice hentered hfirst s.wanted
    (fun he => (h.wanted n t hn he).trans (hcontinues he).symm) (fun _ _ _ _ _ => rfl) h.unwanted

theorem Sessions.congr {s' : Recorder} (h : Sessions s) (hthreads : s'.threads = s.threads)
    (hmap : s'.m_oThreadQueueMap = s.m_oThreadQueueMap) (hwanted : s'.wanted = s.wanted) :
    Sessions s' := by
  obtain ⟨hentry, hentered, hfirst, hwanted', hunwanted⟩ := h
  rw [← hthreads, ← hmap] at hentry hentered
  rw [← hthreads] at hfirst
  rw [← hthreads, ← hwanted] at hwanted'
  rw [← hmap, ← hwanted] at hunwanted
  exact ⟨hentry, hentered, hfirst, hwanted', hunwanted⟩

theorem sessions_again (h : Sessions s) {d : CStr} {m : Nat}
    (hm : s.m_oThreadQueueMap.lookup d = some m)
    (hcontinues : ∀ t ∈ s.threads[m]?, t.Continues) : Sessions (s.command d true) := by
  obtain ⟨u, hu, hd, he⟩ := h.entry d m hm
  refine ⟨h.entry, h.entered, h.first, fun k v hv hve => ?_, fun d' hd' => ?_⟩
  · show Function.update s.wanted d true v.strDeviceID = true ↔ _
    by_cases hvd : v.strDeviceID = d
    · have hkm : some k = some m := (hvd ▸ h.entered k v hv hve).symm.trans hm
      obtain rfl := Option.some.inj hkm
      rw [hvd, Function.update_self]
      exact iff_of_true rfl (hcontinues v hv)
    · rw [Function.update_of_ne hvd]
      exact h.wanted k v hv hve
  · have hne : d' ≠ d := fun heq => by
      rw [heq] at hd'
      exact absurd (hm.symm.trans hd') (by simp)
    show Function.update s.wanted d true d' = false
    rw [Function.update_of_ne hne]
    exact h.unwanted d' hd'

theorem sessions_start (h : Sessions s) {d : CStr}
    (hnone : s.m_oThreadQueueMap.lookup d = none) :
    Sessions { s.command d true with
      threads := s.threads ++ [{ strDeviceID := d, oMsgQueue := [s.nextMsg] }]
      m_oThreadQueueMap := s.m_oThreadQueueMap.insert d s.threads.length } := by
  -- no thread that is entered is of this device
  have hother : ∀ (k : Nat) (v : Thread), s.threads[k]? = some v → v.Entered →
      v.strDeviceID ≠ d := by
    intro k v hv hve heq
    rw [← heq, h.entered k v hv hve] at hnone
    cases hnone
  refine ⟨fun d' k hk => ?_, fun k v hv hve => ?_, fun k v hv hphase => ?_,
    fun k v hv hve => ?_, fun d' hd' => ?_⟩
  · have hk' : (s.m_oThreadQueueMap.insert d s.threads.length).lookup d' = some k := hk
    rw [Map.lookup_insert_ite] at hk'
    split at hk'
    case isTrue hd =>
      cases hk'
      exact ⟨_, List.getElem?_concat_length, hd.symm, Or.inl rfl⟩
    case isFalse =>
      obtain ⟨u, hu, hd, he⟩ := h.entry d' k hk'
      have hlt := (List.getElem?_eq_some_iff.mp hu).1
      exact ⟨u, (List.getElem?_append_left hlt).trans hu, hd, he⟩
  · show (s.m_oThreadQueueMap.insert d s.threads.length).lookup v.strDeviceID = some k
    rw [Map.lookup_insert_ite]
    rcases getElem?_concat_cases hv with hv | ⟨rfl, rfl⟩
    · rw [if_neg (hother k v hv hve)]
      exact h.entered k v hv hve
    · exact if_pos rfl
  · rcases getElem?_concat_cases hv with hv | ⟨rfl, rfl⟩
    · exact h.first k v hv hphase
    · exact List.cons_ne_nil _ _
  · show Function.update s.wanted d true v.strDeviceID = true ↔ _
    rcases getElem?_concat_cases hv with hv | ⟨rfl, rfl⟩
    · rw [Function.update_of_ne (hother k v hv hve)]
      exact h.wanted k v hv hve
    · rw [Function.update_self]
      exact iff_of_true rfl ⟨rfl, Or.inl ⟨rfl, rfl⟩⟩
  · have hd'' : (s.m_oThreadQueueMap.insert d s.threads.length).lookup d' = none := hd'
    rw [Map.lookup_insert_ite] at hd''
    split at hd''
    case isTrue => cases hd''
    case isFalse hne =>
      show Function.update s.wanted d true d' = false
      rw [Function.update_of_ne hne]
      exact h.unwanted d' hd''

theorem Sessions.unwanted_stop (h : Sessions s) (d d' : CStr)
    (hd' : s.m_oThreadQueueMap.lookup d' = none) : Function.update s.wanted d false d' = false := by
  by_cases hne : d' = d
  · rw [hne, Function.update_self]
  · rw [Function.update_of_ne hne]
    exact h.unwanted d' hd'

/-- **A stop ends the session.** -/
theorem sessions_stop (h : Sessions s) {d : CStr} (hm : s.m_oThreadQueueMap.lookup d = some n)
    (hn : s.threads[n]? = some t) :
    Sessions ((s.command d false).set n { t with oMsgQueue := t.oMsgQueue ++ [s.nextMsg] }) := by
  obtain ⟨u, hu, hd, he⟩ := h.entry d n hm
  obtain rfl := Option.some.inj (hn.symm.trans hu)
  have hends : ¬ ({ t with oMsgQueue := t.oMsgQueue ++ [s.nextMsg] } : Thread).Continues := by
    rintro ⟨-, ⟨hphase, hlen⟩ | ⟨-, hempty⟩⟩
    · have hpos := List.length_pos_of_ne_nil (h.first n t hn hphase)
      rw [List.length_append, List.length_singleton] at hlen
      omega
    · exact List.append_ne_nil_of_right_ne_nil _ (List.cons_ne_nil _ _) hempty
  refine (h.setWanted (r := { t with oMsgQueue := t.oMsgQueue ++ [s.nextMsg] }) hn rfl Iff.rfl
    (fun _ => List.append_ne_nil_of_right_ne_nil _ (List.cons_ne_nil _ _))
    (Function.update s.wanted d false) (fun _ => ?_) (fun k v hkm hv hve => ?_)
    (h.unwanted_stop d)).congr rfl rfl rfl
  · rw [hd, Function.update_self]
    exact iff_of_false Bool.false_ne_true hends
  · have hne : v.strDeviceID ≠ d := fun heq =>
      hkm (Option.some.inj ((heq ▸ h.entered k v hv hve).symm.trans hm))
    exact Function.update_of_ne hne _ _

theorem sessions_noStop (h : Sessions s) {d : CStr}
    (hnone : ∀ n, s.m_oThreadQueueMap.lookup d = some n → s.threads[n]? = none) :
    Sessions (s.command d false) := by
  refine ⟨h.entry, h.entered, h.first, fun k v hv hve => ?_, h.unwanted_stop d⟩
  have hne : v.strDeviceID ≠ d := fun heq =>
    nomatch hv.symm.trans (hnone k (heq ▸ h.entered k v hv hve))
  show Function.update s.wanted d false v.strDeviceID = true ↔ _
  rw [Function.update_of_ne hne]
  exact h.wanted k v hv hve

theorem sessions_removeKey (h : Sessions s) (hn : s.threads[n]? = some t)
    (hleft : t.phase = .left) :
    Sessions { s.set n { t with phase := .removed } with
      m_oThreadQueueMap := s.m_oThreadQueueMap.erase t.strDeviceID } := by
  have he : t.Entered := Or.inr (Or.inr hleft)
  have hmap := h.entered n t hn he
  have hends : ¬ t.Continues := by
    rintro ⟨-, ⟨hphase, -⟩ | ⟨hphase, -⟩⟩
    · rw [hleft] at hphase
      cases hphase
    · rw [hleft] at hphase
      cases hphase
  have hget : ∀ (k : Nat) (v : Thread),
      (s.threads.set n { t with phase := .removed })[k]? = some v → v.Entered →
        s.threads[k]? = some v ∧ v.strDeviceID ≠ t.strDeviceID := by
    intro k v hv hve
    rw [getElem?_set_of_some hn] at hv
    split at hv
    case isTrue =>
      cases hv
      rcases hve with hve | hve | hve <;> cases hve
    case isFalse hkn =>
      exact ⟨hv, fun heq => hkn (Option.some.inj ((heq ▸ h.entered k v hv hve).symm.trans hmap))⟩
  refine ⟨fun d' k hk => ?_, fun k v hv hve => ?_, fun k v hv hphase => ?_,
    fun k v hv hve => ?_, fun d' hd' => ?_⟩
  · have hk' : (s.m_oThreadQueueMap.erase t.strDeviceID).lookup d' = some k := hk
    rw [Map.lookup_erase_ite] at hk'
    split at hk'
    case isTrue => cases hk'
    case isFalse hne =>
      obtain ⟨u, hu, hd, hue⟩ := h.entry d' k hk'
      have hkn : k ≠ n := fun heq => by
        subst heq
        obtain rfl := Option.some.inj (hn.symm.trans hu)
        exact hne hd.symm
      exact ⟨u, (getElem?_set_of_some hn k).trans ((if_neg hkn).trans hu), hd, hue⟩
  · obtain ⟨hv', hne⟩ := hget k v hv hve
    show (s.m_oThreadQueueMap.erase t.strDeviceID).lookup v.strDeviceID = some k
    rw [Map.lookup_erase_ite, if_neg hne]
    exact h.entered k v hv' hve
  · exact h.first k v (hget k v hv (Or.inl hphase)).1 hphase
  · exact h.wanted k v (hget k v hv hve).1 hve
  · have hd'' : (s.m_oThreadQueueMap.erase t.strDeviceID).lookup d' = none := hd'
    rw [Map.lookup_erase_ite] at hd''
    split at hd''
    case isTrue heq =>
      rw [heq]
      cases hw : s.wanted t.strDeviceID with
      | false => exact hw
      | true => exact absurd ((h.wanted n t hn he).mp hw) hends
    case isFalse => exact h.unwanted d' hd''

/-- **A step keeps the sessions** as long as no start meets a session that is about to end. -/
theorem Sessions.turn (h : Sessions s) {s' : Recorder} (hturn : Turn s s') : Sessions s' := by
  cases hturn with
  | again hmap hcontinues => exact sessions_again h hmap hcontinues
  | start hmap => exact sessions_start h hmap
  | stop hmap hn => exact sessions_stop h hmap hn
  | noStop hnone => exact sessions_noStop h hnone
  | @takeFirst n t pMsg queue hn hphase hqueue =>
    refine (h.set (r := { t with
        oMsgQueue := queue, pUnifiedMsg := some pMsg, phase := .recording })
      hn rfl ?_ nofun fun _ => ?_).congr rfl rfl rfl
    · exact iff_of_true (Or.inr (Or.inl rfl)) (Or.inl hphase)
    · simp [Thread.Continues, hphase, hqueue]
  | @takeStop n t pMsg queue hn hphase hqueue =>
    refine (h.set (r := { t with oMsgQueue := queue, oEvent := true }) hn rfl Iff.rfl
      (fun hstarted => ?_) fun _ => ?_).congr rfl rfl rfl
    · rw [show Thread.phase _ = .recording from hphase] at hstarted
      cases hstarted
    · simp [Thread.Continues, hphase, hqueue]
  | leave hn hphase hends =>
    refine h.set hn rfl (iff_of_true (Or.inr (Or.inr rfl)) (Or.inr (Or.inl hphase)))
      (fun hstarted => by cases hstarted) fun _ => iff_of_false ?_ hends
    simp [Thread.Continues]
  | removeKey hn hphase => exact sessions_removeKey h hn hphase
  | @delete n t hn hphase =>
    have hentered : ¬ t.Entered := by simp [Thread.Entered, hphase]
    refine (h.set (r := { t with oMsgQueue := [], phase := .deleted }) hn rfl
      (iff_of_false ?_ hentered) nofun fun he => absurd he hentered).congr rfl rfl rfl
    simp [Thread.Entered]
  | other => exact h.congr rfl rfl rfl

end sessions

/-! ## Messages -/

/-- A message in a queue is in no other one and still there; none is touched once it is given
away. -/
structure Messages (s : Recorder) : Prop where
  queued : ∀ (n : Nat) (t : Thread), s.threads[n]? = some t → t.oMsgQueue.Nodup ∧
    ∀ x ∈ t.oMsgQueue, x < s.nextMsg ∧ Own.life x .live s.trace = .live
  apart : ∀ (n m : Nat) (t u : Thread), s.threads[n]? = some t → s.threads[m]? = some u →
    ∀ x ∈ t.oMsgQueue, x ∈ u.oMsgQueue → n = m
  known : ∀ e ∈ s.trace, e.on < s.nextMsg
  untouched : ∀ x, Own.life x .live s.trace ≠ .broken

section messages

variable {s : Recorder} {n : Nat} {t r : Thread}

theorem life_give_all {xs : List Nat} (h : xs.Nodup) {x : Nat} (hx : x ∈ xs) :
    Own.life x .live (xs.map .give) = .gone := by
  obtain ⟨before, after, rfl⟩ := List.append_of_mem hx
  rw [Own.life_live_iff]
  obtain ⟨-, hafter, happart⟩ := List.nodup_append.mp h
  refine ⟨before.map .give, after.map .give, by rw [List.map_append, List.map_cons], ?_, ?_⟩
  · intro e he hon
    obtain ⟨y, hy, rfl⟩ := List.mem_map.mp he
    exact absurd hon (happart y hy x List.mem_cons_self)
  · intro e he hon
    obtain ⟨y, hy, rfl⟩ := List.mem_map.mp he
    have hyx : y = x := hon
    exact (List.nodup_cons.mp hafter).1 (hyx ▸ hy)

theorem Messages.given (h : Messages s) (hn : s.threads[n]? = some t) (xs : List Nat)
    (out : List (Own.Event Nat)) (hqueue : t.oMsgQueue = xs ++ r.oMsgQueue)
    (hout : ∀ e ∈ out, e.on ∈ xs) (hgone : ∀ x ∈ xs, Own.life x .live out = .gone) {s' : Recorder}
    (hthreads : s'.threads = s.threads.set n r) (hnext : s'.nextMsg = s.nextMsg)
    (htrace : s'.trace = s.trace ++ out) : Messages s' := by
  obtain ⟨hnodup, hlive⟩ := h.queued n t hn
  rw [hqueue] at hnodup hlive
  -- a message of another queue, or one behind these, is not among them
  have hother : ∀ x, x ∉ xs → ∀ l, Own.life x l out = l := fun x hx l =>
    Own.life_eq_self (x := x) (fun e he hon => hx (hon ▸ hout e he)) l
  have hmem : ∀ {m : Nat} {u : Thread}, s'.threads[m]? = some u → ∀ x ∈ u.oMsgQueue,
      x ∉ xs ∧ ∃ v, s.threads[m]? = some v ∧ x ∈ v.oMsgQueue := by
    intro m u hu x hx
    rw [hthreads, getElem?_set_of_some hn] at hu
    split at hu
    case isTrue hmn =>
      cases hu
      refine ⟨fun hxs => ?_, t, hmn ▸ hn, hqueue ▸ List.mem_append_right _ hx⟩
      exact (List.disjoint_of_nodup_append hnodup) hxs hx
    case isFalse hmn =>
      refine ⟨fun hxs => hmn ?_, u, hu, hx⟩
      exact h.apart m n u t hu hn x hx (hqueue ▸ List.mem_append_left _ hxs)
  refine ⟨fun m u hu => ⟨?_, fun x hx => ?_⟩, fun m k u v hu hv x hx hx' => ?_, fun e he => ?_,
    fun x => ?_⟩
  · rw [hthreads, getElem?_set_of_some hn] at hu
    split at hu
    · cases hu
      exact hnodup.of_append_right
    · exact (h.queued m u hu).1
  · obtain ⟨hxs, v, hv, hxv⟩ := hmem hu x hx
    obtain ⟨hlt, hl⟩ := (h.queued m v hv).2 x hxv
    rw [hnext, htrace, Own.life_append, hl]
    exact ⟨hlt, hother x hxs _⟩
  · obtain ⟨-, u', hu', hxu⟩ := hmem hu x hx
    obtain ⟨-, v', hv', hxv⟩ := hmem hv x hx'
    exact h.apart m k u' v' hu' hv' x hxu hxv
  · rw [htrace] at he
    rw [hnext]
    rcases List.mem_append.mp he with he | he
    · exact h.known e he
    · exact (hlive e.on (List.mem_append_left _ (hout e he))).1
  · rw [htrace, Own.life_append]
    by_cases hxs : x ∈ xs
    · rw [(hlive x (List.mem_append_left _ hxs)).2, hgone x hxs]
      decide
    · rw [hother x hxs]
      exact h.untouched x

theorem Messages.congr {s' : Recorder} (h : Messages s) (hthreads : s'.threads = s.threads)
    (hnext : s'.nextMsg = s.nextMsg) (htrace : s'.trace = s.trace) : Messages s' := by
  obtain ⟨hqueued, hapart, hknown, huntouched⟩ := h
  rw [← hthreads, ← hnext, ← htrace] at hqueued
  rw [← hthreads] at hapart
  rw [← htrace, ← hnext] at hknown
  rw [← htrace] at huntouched
  exact ⟨hqueued, hapart, hknown, huntouched⟩

theorem Messages.life_next (h : Messages s) : Own.life s.nextMsg .live s.trace = .live :=
  Own.life_eq_self (fun e he hon => absurd (h.known e he) (by omega)) _

theorem Messages.command (h : Messages s) {s' : Recorder} (hnext : s'.nextMsg = s.nextMsg + 1)
    (htrace : s'.trace = s.trace)
    (hqueue : ∃ n, ∀ (m : Nat) (u : Thread), s'.threads[m]? = some u →
      (∃ v, s.threads[m]? = some v ∧ u.oMsgQueue = v.oMsgQueue) ∨
        m = n ∧ (u.oMsgQueue = [s.nextMsg] ∨
          ∃ v, s.threads[m]? = some v ∧ u.oMsgQueue = v.oMsgQueue ++ [s.nextMsg])) :
    Messages s' := by
  obtain ⟨n, hqueue⟩ := hqueue
  -- what is in a queue was there before, or it is the new message in the queue of thread `n`
  have hmem : ∀ {m : Nat} {u : Thread}, s'.threads[m]? = some u → ∀ x ∈ u.oMsgQueue,
      (∃ v, s.threads[m]? = some v ∧ x ∈ v.oMsgQueue) ∨ m = n ∧ x = s.nextMsg := by
    intro m u hu x hx
    rcases hqueue m u hu with ⟨v, hv, heq⟩ | ⟨hm, heq | ⟨v, hv, heq⟩⟩
    · exact Or.inl ⟨v, hv, heq ▸ hx⟩
    · rw [heq, List.mem_singleton] at hx
      exact Or.inr ⟨hm, hx⟩
    · rw [heq, List.mem_append, List.mem_singleton] at hx
      exact hx.imp (fun hx => ⟨v, hv, hx⟩) fun hx => ⟨hm, hx⟩
  have hold : ∀ {m : Nat} {v : Thread}, s.threads[m]? = some v → s.nextMsg ∉ v.oMsgQueue :=
    fun hv hx => absurd ((h.queued _ _ hv).2 _ hx).1 (by omega)
  refine ⟨fun m u hu => ⟨?_, fun x hx => ?_⟩, fun m k u v hu hv x hx hx' => ?_, fun e he => ?_,
    fun x => ?_⟩
  · rcases hqueue m u hu with ⟨v, hv, heq⟩ | ⟨-, heq | ⟨v, hv, heq⟩⟩
    · exact heq ▸ (h.queued m v hv).1
    · exact heq ▸ List.nodup_singleton _
    · rw [heq, List.nodup_append]
      refine ⟨(h.queued m v hv).1, List.nodup_singleton _, fun a ha b hb hab => hold hv ?_⟩
      rw [List.mem_singleton] at hb
      exact hb ▸ hab ▸ ha
  · rw [hnext, htrace]
    rcases hmem hu x hx with ⟨v, hv, hxv⟩ | ⟨-, rfl⟩
    · obtain ⟨hlt, hl⟩ := (h.queued m v hv).2 x hxv
      exact ⟨by omega, hl⟩
    · exact ⟨by omega, h.life_next⟩
  · rcases hmem hu x hx with ⟨u', hu', hxu⟩ | ⟨hm, rfl⟩
    · rcases hmem hv x hx' with ⟨v', hv', hxv⟩ | ⟨-, rfl⟩
      · exact h.apart m k u' v' hu' hv' x hxu hxv
      · exact absurd hxu (hold hu')
    · rcases hmem hv _ hx' with ⟨v', hv', hxv⟩ | ⟨hk, -⟩
      · exact absurd hxv (hold hv')
      · rw [hm, hk]
  · rw [hnext]
    have hlt := h.known e (htrace ▸ he)
    omega
  · rw [htrace]
    exact h.untouched x

/-- **A step keeps the messages**, if no session is renewed. -/
theorem Messages.turn (h : Messages s) {s' : Recorder} (hturn : Turn s s') : Messages s' := by
  have hdropped : ∃ n, ∀ (m : Nat) (u : Thread), s.threads[m]? = some u →
      (∃ v, s.threads[m]? = some v ∧ u.oMsgQueue = v.oMsgQueue) ∨
        m = n ∧ (u.oMsgQueue = [s.nextMsg] ∨
          ∃ v, s.threads[m]? = some v ∧ u.oMsgQueue = v.oMsgQueue ++ [s.nextMsg]) :=
    ⟨0, fun m u hu => Or.inl ⟨u, hu, rfl⟩⟩
  cases hturn with
  | again => exact h.command rfl rfl hdropped
  | noStop => exact h.command rfl rfl hdropped
  | start =>
    refine h.command rfl rfl ⟨s.threads.length, fun m u hu => ?_⟩
    rcases getElem?_concat_cases hu with hu | ⟨hm, rfl⟩
    · exact Or.inl ⟨u, hu, rfl⟩
    · exact Or.inr ⟨hm, Or.inl rfl⟩
  | @stop d n t _ hn =>
    refine h.command rfl rfl ⟨n, fun m u hu => ?_⟩
    have hu' : (s.threads.set n _)[m]? = some u := hu
    rw [getElem?_set_of_some hn] at hu'
    split at hu'
    case isTrue hmn =>
      cases hu'
      exact Or.inr ⟨hmn, Or.inr ⟨t, hmn ▸ hn, rfl⟩⟩
    case isFalse => exact Or.inl ⟨u, hu', rfl⟩
  | @takeFirst n t pMsg queue hn hphase hqueue =>
    refine h.given (r := { t with
        oMsgQueue := queue, pUnifiedMsg := some pMsg, phase := .recording })
      hn [pMsg] [.use pMsg, .give pMsg] hqueue ?_ ?_ rfl rfl rfl
    · simp [Own.Event.on]
    · rintro x hx
      rw [List.mem_singleton.mp hx, Own.life_live_use, Own.life_live_give]
      rfl
  | @takeStop n t pMsg queue hn hphase hqueue =>
    refine h.given (r := { t with oMsgQueue := queue, oEvent := true })
      hn [pMsg] [.give pMsg] hqueue ?_ ?_ rfl rfl rfl
    · simp [Own.Event.on]
    · rintro x hx
      rw [List.mem_singleton.mp hx, Own.life_live_give]
      rfl
  | @leave n t hn hphase hends =>
    exact h.given (r := { t with phase := .left }) hn [] [] rfl nofun nofun rfl rfl
      (List.append_nil _).symm
  | @removeKey n t hn hphase =>
    exact h.given (r := { t with phase := .removed }) hn [] [] rfl nofun nofun rfl rfl
      (List.append_nil _).symm
  | @delete n t hn hphase =>
    refine h.given (r := { t with oMsgQueue := [], phase := .deleted }) hn t.oMsgQueue
      (t.oMsgQueue.map .give) (List.append_nil _).symm ?_ ?_ rfl rfl rfl
    · intro e he
      obtain ⟨x, hx, rfl⟩ := List.mem_map.mp he
      exact hx
    · exact fun x hx => life_give_all (h.queued n t hn).1 hx
  | other => exact h.congr rfl rfl rfl

end messages

/-! ## Runs -/

/-- The map, the threads and the commands; and the messages. -/
structure Inv (s : Recorder) : Prop where
  sessions : Sessions s
  messages : Messages s

theorem inv_init : Inv {} where
  sessions :=
    { entry := fun _ _ h => by cases h
      entered := fun _ _ h => by cases h
      first := fun _ _ h => by cases h
      wanted := fun _ _ h => by cases h
      unwanted := fun _ _ => rfl }
  messages :=
    { queued := fun _ _ h => by cases h
      apart := fun _ _ _ _ h => by cases h
      known := fun _ h => by cases h
      untouched := fun _ h => by cases h }

/-- A session that runs and is not about to end is one that was asked for last. -/
theorem Inv.follows {s : Recorder} (h : Inv s) : Follows s where
  last hsettled d := by
    constructor
    · rintro ⟨n, t, hn, rfl, hphase⟩
      obtain ⟨hqueue, hevent⟩ := hsettled n t hn (Or.inr hphase)
      rw [h.sessions.wanted n t hn (Or.inr (Or.inl hphase))]
      exact ⟨hevent, Or.inr ⟨hphase, hqueue⟩⟩
    · intro hwanted
      cases hmap : s.m_oThreadQueueMap.lookup d with
      | none =>
        rw [h.sessions.unwanted d hmap] at hwanted
        cases hwanted
      | some n =>
        obtain ⟨t, hn, rfl, he⟩ := h.sessions.entry d n hmap
        obtain ⟨-, ⟨hphase, hlen⟩ | ⟨hphase, -⟩⟩ := (h.sessions.wanted n t hn he).mp hwanted
        · -- the first message is still in the queue
          rw [(hsettled n t hn (Or.inl hphase)).1] at hlen
          cases hlen
        · exact ⟨n, t, hn, rfl, hphase⟩
  single := by
    rintro d n m ⟨t, hn, rfl, ht⟩ ⟨u, hm, hu, hphase⟩
    have hmap := h.sessions.entered m u hm (Or.inr (Or.inl hphase))
    rw [hu, h.sessions.entered n t hn (Or.inr (Or.inl ht))] at hmap
    exact Option.some.inj hmap
  untouched := h.messages.untouched

/-- **Recording follows the last command** in every run in which no start meets a session that is
about to end, every thread is given a session, no session is renewed and no wait fails in one that
goes on. -/
theorem follows_run (is : List Step) (h : ∀ c ∈ calls step {} is, Undisturbed c.1 c.2) :
    Follows (run step {} is) :=
  (run_invariant (fun _ _ hok hinv =>
    ⟨hinv.sessions.turn (step_turn hok), hinv.messages.turn (step_turn hok)⟩) inv_init h).follows

instance (s : Recorder) (i : Step) : Decidable (Undisturbed s i) :=
  match i with
  | .recordStart d =>
    inferInstanceAs
      (Decidable (∀ n ∈ s.m_oThreadQueueMap.lookup d, ∀ t ∈ s.threads[n]?, t.Continues))
  | .takeFirst n created =>
    inferInstanceAs (Decidable (∀ t ∈ s.threads[n]?, t.phase = .started → created = true))
  | .renew n sent =>
    inferInstanceAs (Decidable (∀ t ∈ s.threads[n]?, t.phase = .recording → sent = false))
  | .leave n failed =>
    inferInstanceAs
      (Decidable (∀ t ∈ s.threads[n]?, t.phase = .recording → failed = true → ¬ t.Continues))
  | .recordStop _ | .takeStop _ | .removeKey _ | .delete _ | .handleMsg =>
    inferInstanceAs (Decidable True)

/-- A start and a stop, and another start when the session has ended. -/
theorem follows_restart : (∀ c ∈ calls step {} [.recordStart (str "D1"), .takeFirst 0 true,
      .handleMsg, .recordStop (str "D1"), .takeStop 0, .leave 0 false, .removeKey 0, .delete 0,
      .recordStart (str "D1")], Undisturbed c.1 c.2) ∧
    Follows (run step {} [.recordStart (str "D1"), .takeFirst 0 true, .handleMsg,
      .recordStop (str "D1"), .takeStop 0, .leave 0 false, .removeKey 0, .delete 0,
      .recordStart (str "D1")]) :=
  ⟨by decide, follows_run _ (by decide)⟩

/-- A start between the stop and the end of the session. -/
theorem start_lost : ¬ Follows (run step {} [.recordStart (str "D1"), .takeFirst 0 true,
    .recordStop (str "D1"), .takeStop 0, .recordStart (str "D1"), .leave 0 false, .removeKey 0,
    .delete 0]) := by
  intro h
  have hthreads : (run step {} [.recordStart (str "D1"), .takeFirst 0 true,
      .recordStop (str "D1"), .takeStop 0, .recordStart (str "D1"), .leave 0 false, .removeKey 0,
      .delete 0]).threads = [⟨str "D1", [], true, some 0, .deleted⟩] := by decide
  have hget : ∀ (n : Nat) (t : Thread),
      [(⟨str "D1", [], true, some 0, .deleted⟩ : Thread)][n]? = some t → t.phase = .deleted := by
    intro n t hn
    rw [List.mem_singleton.mp (List.mem_of_getElem? hn)]
  have hwanted := h.last (fun n t hn hphase => by
    rw [hthreads] at hn
    rw [hget n t hn] at hphase
    rcases hphase with hphase | hphase <;> cases hphase) (str "D1")
  obtain ⟨n, t, hn, -, hphase⟩ := hwanted.mpr (by decide)
  rw [hthreads] at hn
  rw [hget n t hn] at hphase
  cases hphase

end GB28181.RTSPCom.Recording
