import GB28181.Base.Run
import GB28181.RTSPCom.RTSPLines
import GB28181.RTSPCom.RTSPSession

/-!
# The session timer (`RTSPCom/RTSPTransMgrBase.cpp`)

`TimeOutProc` ends a session by two time points and one number, which the requests and the answers
share.  A run is a list of inputs with their times; next to the session it keeps the requests that
wait for an answer, with the time they were sent.

* `Settled` — the two time points say what is waited for;
* `step_settled` — while the session plays a fitting input keeps it so, and the timer is right;
* `timer_run` — **in a run whose inputs all fit the timer ends the session exactly when an answer
  is overdue**.
-/

set_option autoImplicit false

namespace GB28181.RTSPCom.Timer

open GB28181.Base GB28181.RTSPCom

/-! ## Runs -/

/-- A session and the requests that wait for an answer: their numbers, and when they were sent. -/
structure State where
  mgr : TransSessionMgr
  waiting : List (CStr × Nat)

inductive Input where
  /-- `TimeOutProc` is called. -/
  | poll
  /-- A text is read. -/
  | read (szBuf : CStr)
  | play_ctrl_start
  | play_ctrl (c : Control)
  /-- Other sessions take numbers. -/
  | others (n : Nat)

def Input.proc (now : Nat) : Input → Call Unit
  | .poll => do
    let _ ← timeOutProc now
    pure ()
  | .read szBuf => processNetworkEvent now szBuf
  | .play_ctrl_start => processMsgQueueEvent now .play_ctrl_start
  | .play_ctrl c => processMsgQueueEvent now (.play_ctrl c)
  | .others n => Proc.update (takeCSeq n)

/-- The number of an answer: of a message with a status. -/
def Input.answer : Input → Option CStr
  | .read szBuf =>
    match decodeUnknowMsg szBuf {} with
    | .ok (.rmt_response, msg) =>
      if msg.m_strStatus ≠ [] then some (msg.fieldValue (str "CSeq")) else none
    | _ => none
  | _ => none

/-- The requests that wait on after an input. -/
def unanswered (i : Input) (waiting : List (CStr × Nat)) : List (CStr × Nat) :=
  waiting.filter fun w => i.answer ≠ some w.1

/-- The requests sent now that have a time point for their answer. -/
def timedRequests (now : Nat) (out : List Effect) : List (CStr × Nat) :=
  out.filterMap fun
    | .send r => if r.timed then some (r.sequence, now) else none
    | _ => none

def step (s : State) (i : Nat × Input) : State :=
  { mgr := (i.2.proc i.1 s.mgr).state
    waiting := unanswered i.2 s.waiting ++ timedRequests i.1 (i.2.proc i.1 s.mgr).out }

/-- `ThreadProc` has sent the first request of a session that `Create` returned. -/
def opened (now : Nat) (m : TransSessionMgr) : State :=
  { mgr := (options now m).state, waiting := timedRequests now (options now m).out }

/-- Some request is unanswered for more than `RES_TIMEOUT` seconds. -/
def Overdue (now : Nat) (waiting : List (CStr × Nat)) : Prop :=
  ∃ w ∈ waiting, w.2 + RES_TIMEOUT < now

instance (now : Nat) (waiting : List (CStr × Nat)) : Decidable (Overdue now waiting) :=
  inferInstanceAs (Decidable (∃ w ∈ waiting, _))

/-- `TimeOutProc` returns another value than 0. -/
def Ends (now : Nat) (m : TransSessionMgr) : Prop := (timeOutProc now m).val ≠ .ok 0

/-- A poll ends the session exactly when an answer is overdue. -/
def RightPoll (s : State) (i : Nat × Input) : Prop :=
  match i.2 with
  | .poll => Ends i.1 s.mgr ↔ Overdue i.1 s.waiting
  | _ => True

/-! ## What is kept -/

/-- Nothing is waited for and the time point is clear, or the answer with the stored number is
waited for until the time point, and no keep-alive is due. -/
def Settled (s : State) : Prop :=
  (s.waiting = [] ∧ s.mgr.session.tmPoint_Timeout ≤ 0) ∨
    ∃ t : Nat, s.waiting = [(s.mgr.session.szCSeq, t)] ∧
      s.mgr.session.tmPoint_Timeout = t + RES_TIMEOUT ∧ s.mgr.session.tmPoint_Keepalive ≤ 0

instance (s : State) : Decidable (Settled s) :=
  decidable_of_iff ((s.waiting = [] ∧ s.mgr.session.tmPoint_Timeout ≤ 0) ∨
      ∃ w ∈ s.waiting, s.waiting = [(s.mgr.session.szCSeq, w.2)] ∧
        s.mgr.session.tmPoint_Timeout = w.2 + RES_TIMEOUT ∧
          s.mgr.session.tmPoint_Keepalive ≤ 0) <|
    or_congr_right
      ⟨fun ⟨w, _, h⟩ => ⟨w.2, h⟩, fun ⟨t, h⟩ => ⟨(s.mgr.session.szCSeq, t), by simp [h.1], h⟩⟩

def Inv (s : State) : Prop := s.mgr.session.eStatus.beforePlaying = false → Settled s

/-- The inputs under which the timer is right: before the session plays no poll meets an overdue
request, the answer that starts the keep-alives is the last one waited for, and no pause comes
while an answer is waited for; then no `PLAY` goes out while one is, and none is refused. -/
def Fits (s : State) (i : Nat × Input) : Prop :=
  match i.2 with
  | .poll => s.mgr.session.eStatus.beforePlaying = true → ¬ Overdue i.1 s.waiting
  | .read szBuf =>
    match decodeUnknowMsg szBuf {} with
    | .ok (eMsgType, msg) =>
      (s.mgr.session.eStatus = .rs_play → eMsgType = .rmt_response → msg.is200 = true →
        unanswered i.2 s.waiting = []) ∧
      (s.mgr.session.eStatus.beforePlaying = false → msg.is200 = false →
        unanswered i.2 s.waiting = s.waiting)
    | .error _ => True
  | .play_ctrl .pause => s.mgr.session.eStatus.beforePlaying = true → Settled s
  | .play_ctrl (.play _ _) => s.mgr.session.eStatus.beforePlaying = false → s.waiting = []
  | _ => True

instance (s : State) (i : Nat × Input) : Decidable (Fits s i) :=
  match i with
  | (now, .poll) =>
    inferInstanceAs
      (Decidable (s.mgr.session.eStatus.beforePlaying = true → ¬ Overdue now s.waiting))
  | (_, .read szBuf) =>
    match hdec : decodeUnknowMsg szBuf {} with
    | .ok (eMsgType, msg) =>
      decidable_of_iff
        ((s.mgr.session.eStatus = .rs_play → eMsgType = .rmt_response → msg.is200 = true →
            unanswered (.read szBuf) s.waiting = []) ∧
          (s.mgr.session.eStatus.beforePlaying = false → msg.is200 = false →
            unanswered (.read szBuf) s.waiting = s.waiting)) (by simp [Fits, hdec])
    | .error _ => .isTrue (by simp [Fits, hdec])
  | (_, .play_ctrl_start) => .isTrue trivial
  | (_, .play_ctrl .pause) =>
    inferInstanceAs (Decidable (s.mgr.session.eStatus.beforePlaying = true → Settled s))
  | (_, .play_ctrl (.play _ _)) =>
    inferInstanceAs (Decidable (s.mgr.session.eStatus.beforePlaying = false → s.waiting = []))
  | (_, .play_ctrl .other) => .isTrue trivial
  | (_, .others _) => .isTrue trivial

/-! ## Steps -/

theorem unanswered_of_none {i : Input} (h : i.answer = none) (waiting : List (CStr × Nat)) :
    unanswered i waiting = waiting := by
  rw [unanswered, h]
  exact List.filter_eq_self.mpr fun w _ => rfl

theorem step_idle {now : Nat} {s : State} {i : Input} {m : TransSessionMgr}
    {v : Except HeaderFault Unit} (hproc : i.proc now s.mgr = ⟨[], m, v⟩) (hans : i.answer = none) :
    step s (now, i) = ⟨m, s.waiting⟩ := by
  rw [step, hproc, unanswered_of_none hans, timedRequests, List.filterMap_nil, List.append_nil]

/-- The time point of a settled session has passed exactly when an answer is overdue. -/
theorem Settled.timeout_iff {s : State} (h : Settled s) (now : Nat) :
    0 < s.mgr.session.tmPoint_Timeout ∧ now > s.mgr.session.tmPoint_Timeout ↔
      Overdue now s.waiting := by
  unfold Overdue
  rcases h with ⟨hw, hle⟩ | ⟨t, hw, htime, -⟩
  · rw [hw]
    refine iff_of_false (fun ht => absurd ht.1 (Int.not_lt.mpr hle)) ?_
    rintro ⟨w, hmem, -⟩
    cases hmem
  · rw [hw, htime]
    have hres : 0 < RES_TIMEOUT := by decide
    simp only [List.mem_singleton, exists_eq_left]
    omega

theorem settled_startKeepalive (now : Nat) (m : TransSessionMgr) :
    Settled ⟨(startKeepalive now m).state, timedRequests now (startKeepalive now m).out⟩ :=
  Or.inr ⟨now, rfl, rfl, Int.le_refl 0⟩

theorem poll_eq {now : Nat} {s : State} {out : List Effect} {m : TransSessionMgr} {n : Int}
    (h : timeOutProc now s.mgr = ⟨out, m, .ok n⟩) :
    step s (now, .poll) = ⟨m, s.waiting ++ timedRequests now out⟩ ∧ (Ends now s.mgr ↔ n ≠ 0) := by
  have hproc : Input.poll.proc now s.mgr = ⟨out ++ [], m, .ok ()⟩ := by
    show (timeOutProc now >>= fun _ => pure ()) s.mgr = _
    rw [Proc.run_bind, h]
    rfl
  constructor
  · rw [step, hproc, unanswered_of_none rfl, List.append_nil]
  · rw [Ends, h, ne_eq, Except.ok.injEq]

/-- A poll of a settled session: it ends the session, or sends a keep-alive, or does nothing. -/
theorem poll_settled {now : Nat} {s : State} (hplays : s.mgr.session.eStatus.beforePlaying = false)
    (h : Settled s) :
    Settled (step s (now, .poll)) ∧ (Ends now s.mgr ↔ Overdue now s.waiting) := by
  have hsame : Settled ⟨s.mgr, s.waiting ++ timedRequests now []⟩ := by
    rw [timedRequests, List.filterMap_nil, List.append_nil]
    exact h
  rw [← h.timeout_iff now]
  by_cases ht : 0 < s.mgr.session.tmPoint_Timeout ∧ now > s.mgr.session.tmPoint_Timeout
  · obtain ⟨hstep, hends⟩ := poll_eq (run_timeOutProc_timeout hplays ht)
    rw [hstep, hends]
    exact ⟨hsame, iff_of_true (by decide) ht⟩
  by_cases hk : 0 < s.mgr.session.tmPoint_Keepalive ∧ now ≥ s.mgr.session.tmPoint_Keepalive
  · obtain ⟨hstep, hends⟩ := poll_eq (run_timeOutProc_keepalive hplays ht hk)
    rw [hstep, hends]
    refine ⟨?_, iff_of_false (by decide) ht⟩
    rcases h with ⟨hw, -⟩ | ⟨t, -, -, hkeep⟩
    · rw [hw]
      exact settled_startKeepalive now s.mgr
    · exact absurd hk.1 (Int.not_lt.mpr hkeep)
  · obtain ⟨hstep, hends⟩ := poll_eq (run_timeOutProc_idle hplays ht hk)
    rw [hstep, hends]
    exact ⟨hsame, iff_of_false (by decide) ht⟩

theorem poll_right {now : Nat} {s : State} (hinv : Inv s)
    (hfits : s.mgr.session.eStatus.beforePlaying = true → ¬ Overdue now s.waiting) :
    Inv (step s (now, .poll)) ∧ (Ends now s.mgr ↔ Overdue now s.waiting) := by
  cases hb : s.mgr.session.eStatus.beforePlaying with
  | false =>
    obtain ⟨hsettled, hends⟩ := poll_settled hb (hinv hb)
    exact ⟨fun _ => hsettled, hends⟩
  | true =>
    have hpoll : timeOutProc now s.mgr = ⟨[], s.mgr, .ok 0⟩ := run_timeOutProc_before hb
    obtain ⟨hstep, hends⟩ := poll_eq hpoll
    rw [hstep, hends]
    refine ⟨fun h => ?_, iff_of_false (by decide) (hfits hb)⟩
    rw [hb] at h
    cases h

/-! ### Messages -/

theorem received_settled {now : Nat} {s : State} {msg : RTSPUnknownMsg} (h : Settled s) :
    Settled ⟨s.mgr.received now msg,
      s.waiting.filter fun w => some (msg.fieldValue (str "CSeq")) ≠ some w.1⟩ := by
  by_cases hc : msg.fieldValue (str "CSeq") = s.mgr.session.szCSeq
  · left
    have htime : (s.mgr.session.received now msg).tmPoint_Timeout = 0 := by
      rw [CRTSPSession.received, matchCSeq, if_pos hc]
    refine ⟨?_, htime.le⟩
    rcases h with ⟨hw, -⟩ | ⟨t, hw, -⟩
    · rw [hw]
      rfl
    · rw [hw, hc]
      simp
  · have hsame : s.mgr.session.received now msg =
        { s.mgr.session with szSessionID := msg.fieldValue (str "Session") } := by
      rw [CRTSPSession.received, matchCSeq, if_neg hc]
    rw [TransSessionMgr.received, hsame]
    rcases h with ⟨hw, hle⟩ | ⟨t, hw, htime, hkeep⟩
    · rw [hw]
      exact Or.inl ⟨rfl, hle⟩
    · refine Or.inr ⟨t, ?_, htime, hkeep⟩
      rw [hw]
      simp [hc]

theorem proc_read {szBuf : CStr} {eMsgType : RTSPMsgType} {msg : RTSPUnknownMsg}
    (h : decodeUnknowMsg szBuf {} = .ok (eMsgType, msg)) (now : Nat) (m : TransSessionMgr) :
    (Input.read szBuf).proc now m = handleMessage now eMsgType msg m := by
  show (Proc.lift (decodeUnknowMsg szBuf {}) >>= _) m = _
  rw [h, Proc.run_lift_bind_ok]

theorem read_eq {now : Nat} {s : State} {szBuf : CStr} {eMsgType : RTSPMsgType}
    {msg : RTSPUnknownMsg} (h : decodeUnknowMsg szBuf {} = .ok (eMsgType, msg)) :
    step s (now, .read szBuf) = ⟨(handleMessage now eMsgType msg s.mgr).state,
      unanswered (.read szBuf) s.waiting ++
        timedRequests now (handleMessage now eMsgType msg s.mgr).out⟩ := by
  rw [step, proc_read h]

theorem response_settled {now : Nat} {s : State} {szBuf : CStr} {msg : RTSPUnknownMsg}
    (hdec : decodeUnknowMsg szBuf {} = .ok (.rmt_response, msg)) (h200 : msg.is200 = true)
    (hinv : Inv s)
    (hplay : s.mgr.session.eStatus = .rs_play → unanswered (.read szBuf) s.waiting = []) :
    Inv (step s (now, .read szBuf)) := by
  have hstatus : msg.m_strStatus ≠ [] := RTSPUnknownMsg.is200_status h200
  have hans : unanswered (.read szBuf) s.waiting =
      s.waiting.filter fun w => some (msg.fieldValue (str "CSeq")) ≠ some w.1 := by
    rw [unanswered, Input.answer, hdec]
    simp only [if_pos hstatus]
  intro hb
  rw [read_eq hdec, run_handleMessage_response h200] at hb ⊢
  cases hp : pfnRTSPProc .rmt_response s.mgr.session.eStatus with
  | none =>
    -- the session plays: only the timer is looked at
    rw [hp] at hb
    have hplays : s.mgr.session.eStatus.beforePlaying = false := by
      rw [← received_eStatus s.mgr.session now msg]
      exact hb
    rw [hans]
    rw [timedRequests, List.filterMap_nil, List.append_nil]
    exact received_settled (hinv hplays)
  | some h =>
    rw [hp] at hb
    rcases pfnRTSPProc_response hp with ⟨-, rfl⟩ | ⟨-, rfl⟩ | ⟨he, rfl⟩ | ⟨he, rfl⟩
    · cases hb
    · cases hb
    · have hsetup : (s.mgr.session.received now msg).eStatus = .rs_setup := by
        rw [received_eStatus, he]
      have hstate : (handler now .SDPResponse (s.mgr.received now msg)).state =
          s.mgr.received now msg := by
        show (sdpResponse _).state = _
        rw [run_sdpResponse]
      dsimp only at hb
      rw [hstate, TransSessionMgr.received, hsetup] at hb
      cases hb
    · rw [hplay he]
      exact settled_startKeepalive now _

theorem Settled.congr {s : State} {m : TransSessionMgr} (h : Settled s)
    (hseq : m.session.szCSeq = s.mgr.session.szCSeq)
    (htime : m.session.tmPoint_Timeout = s.mgr.session.tmPoint_Timeout)
    (hkeep : m.session.tmPoint_Keepalive = s.mgr.session.tmPoint_Keepalive) :
    Settled ⟨m, s.waiting⟩ := by
  unfold Settled
  rw [hseq, htime, hkeep]
  exact h

theorem read_settled {now : Nat} {s : State} {szBuf : CStr} (hinv : Inv s)
    (hfits : Fits s (now, .read szBuf)) : Inv (step s (now, .read szBuf)) := by
  cases hdec : decodeUnknowMsg szBuf {} with
  | error e =>
    -- the call ends in a fault, and the session stays as it was
    have hans : (Input.read szBuf).answer = none := by
      rw [Input.answer, hdec]
    have hproc : (Input.read szBuf).proc now s.mgr = ⟨[], s.mgr, .error e⟩ := by
      show (Proc.lift (decodeUnknowMsg szBuf {}) >>= _) s.mgr = _
      rw [hdec]
      rfl
    rw [step_idle hproc hans]
    exact hinv
  | ok p =>
    obtain ⟨eMsgType, msg⟩ := p
    rw [Fits] at hfits
    simp only [hdec] at hfits
    have hnone : eMsgType ≠ .rmt_response → (Input.read szBuf).answer = none := by
      intro ht
      rw [Input.answer, hdec]
      cases eMsgType <;> first | rfl | exact absurd rfl ht
    by_cases hunknown : eMsgType = .rmt_unknown
    · have hrun : handleMessage now eMsgType msg s.mgr = ⟨[], s.mgr, .ok ()⟩ := by
        rw [handleMessage, if_pos hunknown]
        rfl
      rw [step_idle ((proc_read hdec now s.mgr).trans hrun) (hnone (by rw [hunknown]; decide))]
      exact hinv
    by_cases hset : eMsgType = .rmt_setparameter
    · subst hset
      rw [read_eq hdec, run_handleMessage_setparameter, unanswered_of_none (hnone (by decide))]
      have hsent : timedRequests now
          (if pfnRTSPProc .rmt_setparameter s.mgr.session.eStatus = some .SetParameter then
            [.call .SetParameter, .push .video_finished] else []) = [] := by
        split <;> rfl
      dsimp only
      rw [hsent, List.append_nil]
      exact fun hb => (hinv hb).congr rfl rfl rfl
    cases h200 : msg.is200 with
    | false =>
      rw [read_eq hdec, run_handleMessage_refused hunknown hset h200]
      intro hb
      have hsame : unanswered (.read szBuf) s.waiting = s.waiting := hfits.2 hb h200
      have hnil : timedRequests now [.removeKey] = [] := rfl
      rw [hsame, hnil, List.append_nil]
      exact hinv hb
    | true =>
      have hresp : eMsgType = .rmt_response := by
        rcases decode_status hdec with h | h | h
        · exact absurd h hunknown
        · exact h
        · exact absurd h (RTSPUnknownMsg.is200_status h200)
      subst hresp
      exact response_settled hdec h200 hinv fun he => hfits.1 he rfl h200

/-! ### Controls -/

theorem start_settled {now : Nat} {s : State} (hinv : Inv s) :
    Inv (step s (now, .play_ctrl_start)) := by
  by_cases he : s.mgr.session.eStatus = .rs_setup
  · have hproc : Input.play_ctrl_start.proc now s.mgr = play now s.mgr := by
      show processMsgQueueEvent now .play_ctrl_start s.mgr = _
      rw [processMsgQueueEvent, Proc.run_get_bind]
      dsimp only
      rw [if_pos he]
    intro hb
    rw [step, hproc, run_play] at hb
    cases hb
  · have hproc : Input.play_ctrl_start.proc now s.mgr = ⟨[], s.mgr, .ok ()⟩ := by
      show processMsgQueueEvent now .play_ctrl_start s.mgr = _
      rw [processMsgQueueEvent, Proc.run_get_bind]
      dsimp only
      rw [if_neg he]
      rfl
    rw [step_idle hproc rfl]
    exact hinv

theorem pause_settled {now : Nat} {s : State} (hinv : Inv s)
    (hfits : s.mgr.session.eStatus.beforePlaying = true → Settled s) :
    Inv (step s (now, .play_ctrl .pause)) := by
  have hsettled : Settled s := by
    cases hb : s.mgr.session.eStatus.beforePlaying with
    | false => exact hinv hb
    | true => exact hfits hb
  have hproc : (Input.play_ctrl .pause).proc now s.mgr = pause s.mgr := rfl
  intro _
  rw [step, hproc, run_pause, unanswered_of_none rfl]
  have hnil : ∀ r : CStr, timedRequests now [.send ⟨str "PAUSE", r, false⟩] = [] := fun _ => rfl
  dsimp only
  rw [hnil, List.append_nil]
  exact hsettled.congr rfl rfl rfl

/-- What a `PLAY` control leaves: another number, and the session as it was. -/
theorem playControl_play (range : CStr) (others : Nat) (m : TransSessionMgr) (now : Nat) :
    ∃ n szCSeq, (playControl (.play range others) m).state =
        ⟨n, { m.session with szCSeq := szCSeq }⟩ ∧
      timedRequests now (playControl (.play range others) m).out = [] := by
  unfold playControl
  dsimp only
  by_cases hr : range = []
  · rw [if_neg (not_not.mpr hr)]
    exact ⟨_, _, rfl, rfl⟩
  · rw [if_pos hr]
    exact ⟨_, _, rfl, rfl⟩

theorem play_settled {now : Nat} {s : State} {range : CStr} {others : Nat} (hinv : Inv s)
    (hfits : s.mgr.session.eStatus.beforePlaying = false → s.waiting = []) :
    Inv (step s (now, .play_ctrl (.play range others))) := by
  obtain ⟨n, szCSeq, hstate, hout⟩ := playControl_play range others s.mgr now
  have hproc : (Input.play_ctrl (.play range others)).proc now s.mgr =
      playControl (.play range others) s.mgr := rfl
  intro hb
  rw [step, hproc, hstate, hout, unanswered_of_none rfl, List.append_nil] at hb ⊢
  have hw := hfits hb
  rcases hinv hb with ⟨-, hle⟩ | ⟨t, hw', -⟩
  · exact Or.inl ⟨hw, hle⟩
  · rw [hw] at hw'
    cases hw'

/-! ## Runs that fit -/

/-- **One step.**  A fitting input keeps the session that plays settled, and a poll is right. -/
theorem step_settled (s : State) (i : Nat × Input) (hinv : Inv s) (hfits : Fits s i) :
    Inv (step s i) ∧ RightPoll s i := by
  obtain ⟨now, i⟩ := i
  cases i with
  | poll => exact poll_right hinv hfits
  | read szBuf => exact ⟨read_settled hinv hfits, trivial⟩
  | play_ctrl_start => exact ⟨start_settled hinv, trivial⟩
  | play_ctrl c =>
    cases c with
    | pause => exact ⟨pause_settled hinv hfits, trivial⟩
    | play range others => exact ⟨play_settled hinv hfits, trivial⟩
    | other =>
      refine ⟨?_, trivial⟩
      have hproc : (Input.play_ctrl .other).proc now s.mgr = ⟨[], s.mgr, .ok ()⟩ := rfl
      rw [step_idle hproc rfl]
      exact hinv
  | others n =>
    refine ⟨?_, trivial⟩
    have hproc : (Input.others n).proc now s.mgr = ⟨[], takeCSeq n s.mgr, .ok ()⟩ := rfl
    rw [step_idle hproc rfl]
    exact fun hb => (hinv hb).congr rfl rfl rfl

theorem opened_inv (now : Nat) (m : TransSessionMgr) : Inv (opened now m) := by
  intro hb
  rw [opened, run_options] at hb
  cases hb

/-- **The timer of a session.**  From the first request on, whatever the session was before, every
poll of a run whose inputs fit ends the session exactly when an answer is overdue. -/
theorem timer_run (t : Nat) (m : TransSessionMgr) (is : List (Nat × Input))
    (hfits : ∀ p ∈ calls step (opened t m) is, Fits p.1 p.2) :
    ∀ p ∈ calls step (opened t m) is, RightPoll p.1 p.2 :=
  forall_calls step_settled (opened_inv t m) hfits

/-- The answer `200` to the request with a number. -/
def okText (szCSeq : String) : CStr :=
  str "RTSP/1.0 200 OK\r\nCSeq: " ++ str szCSeq ++ str "\r\n\r\n"

/-- A session is set up and plays, is asked to play from another place, has its keep-alive answered
and pauses; the keep-alive after that has no answer. -/
def keptAlive : List (Nat × Input) :=
  [(1, .read (okText "1")), (2, .read (okText "2")), (3, .read (okText "3")),
    (4, .play_ctrl_start), (5, .read (okText "4")), (6, .read (okText "5")),
    (7, .play_ctrl (.play (str "npt=10-") 0)), (22, .poll), (23, .read (okText "8")),
    (24, .play_ctrl .pause), (39, .poll), (49, .poll), (50, .poll)]

/-- It ends when that is overdue, and not before. -/
theorem timer_run_poll :
    (∀ p ∈ calls step (opened 0 ⟨0, ⟨.rs_null, [], [], 0, 0⟩⟩) keptAlive, RightPoll p.1 p.2) ∧
      ((calls step (opened 0 ⟨0, ⟨.rs_null, [], [], 0, 0⟩⟩) keptAlive).map fun p =>
        decide (Overdue p.2.1 p.1.waiting)) = List.replicate 12 false ++ [true] :=
  ⟨timer_run 0 ⟨0, ⟨.rs_null, [], [], 0, 0⟩⟩ keptAlive (by decide +kernel), by decide +kernel⟩

/-- A server that never answers: after eleven seconds the session goes on. -/
theorem silent_server_kept :
    ¬ ∀ (t : Nat) (m : TransSessionMgr) (is : List (Nat × Input)),
      ∀ p ∈ calls step (opened t m) is, RightPoll p.1 p.2 := by
  intro h
  let s : State := opened 0 ⟨0, ⟨.rs_null, [], [], 0, 0⟩⟩
  have hpoll : Ends 11 s.mgr ↔ Overdue 11 s.waiting :=
    h 0 ⟨0, ⟨.rs_null, [], [], 0, 0⟩⟩ [(11, .poll)] (s, (11, .poll)) List.mem_cons_self
  exact hpoll.mpr (by decide) rfl

end GB28181.RTSPCom.Timer
