import GB28181.RTSPCom.CallSetup

/-!
# Runs of call set-up (`RTSPCom/RTSPTransMgrBase.cpp`)

A session from `Create` on, whose server answers every request with `200`: answers, polls, the
start message and the numbers that other sessions take, in any order.

* `SetUp` — the order of the requests, and what a start leads to;
* `LocalInv`, `CallInv` — how far a call is, for a local one and for the others;
* `setUp_run_iff` — the set-up is right **exactly** for local calls, and for the other two only as
  long as no start message comes.
-/

set_option autoImplicit false

namespace GB28181.RTSPCom.CallSetup

open GB28181.Base
open GB28181.RTSPCom.Routing (SessionMgr)

/-! ## Runs -/

/-- A session, the requests its server has not answered, and what happened so far. -/
structure CallState where
  mgr : CallMgr
  waiting : List CStr := []
  history : List Event := []
  ended : Bool := false

def CallState.note (s : CallState) (e : Event) : CallState := { s with history := s.history ++ [e] }

def CallState.awaits (s : CallState) (waiting : List CStr) : CallState :=
  { s with waiting := waiting }

/-- What a function of the session leaves. -/
def CallState.after {α : Type} (s : CallState)
    (outcome : Outcome CallMgr CallEffect CallFault α) : CallState :=
  let events := outcome.out.filterMap CallEffect.event
  { mgr := outcome.state
    waiting := s.waiting ++ events.filterMap Event.method
    history := s.history ++ events
    ended := match outcome.val with
      | .ok _ => s.ended
      | .error _ => true }

inductive Input where
  /-- The server answers the oldest request. -/
  | answer (answer : Answer)
  /-- `TimeOutProc` is called. -/
  | poll
  /-- The start message of the manager is processed. -/
  | start (sdpStack : Option SDPStack)
  /-- Other sessions take numbers. -/
  | others (n : Nat)

def step (lens : BufLens) (k : SessionMgr) (s : CallState) (i : Nat × Input) : CallState :=
  if s.ended then s
  else
    match i.2 with
    | .answer answer =>
      match s.waiting with
      | [] => s
      | method :: waiting =>
        ((s.note (.answered method answer)).awaits waiting).after
          (processNetworkEvent k i.1 .rmt_response answer s.mgr)
    | .poll =>
      let outcome := onSession (timeOutProc i.1) s.mgr
      match outcome.val with
      | .ok 0 => s.after outcome
      | _ => { s.after outcome with ended := true }
    | .start sdpStack =>
      (s.note (.started sdpStack)).after
        (processMsgQueueEvent lens k i.1 (startMsg k sdpStack) s.mgr)
    | .others n =>
      { s with mgr := { s.mgr with toTransSessionMgr := takeCSeq n s.mgr.toTransSessionMgr } }

/-- `ThreadProc` has sent the first request. -/
def opened (now : Nat) (mgr : CallMgr) : CallState :=
  CallState.after { mgr := mgr } (onSession (options now) mgr)

def sent (history : List Event) : List CStr := history.filterMap Event.method

/-! ## What is expected -/

/-- An event that has come after a `SETUP` was answered. -/
def SetupAnswered (past : List Event) : Prop := ∃ answer, Event.answered (str "SETUP") answer ∈ past

/-- The description that names the client: the one of the invite, or of the start message. -/
def ClientSdp (k : SessionMgr) (invite : SDPStack) (past : List Event) (sdpStack : SDPStack) :
    Prop :=
  match k with
  | .sessionMgrLocal => sdpStack = invite
  | _ => Event.started (some sdpStack) ∈ past

/-- The text names address and port of the client. -/
def NamesClient (sdpStack : SDPStack) (transport : CStr) : Prop :=
  ∃ front rest before after, sdpStack.media_list = front :: rest ∧
    transport = before ++ str ";destination=" ++ sdpStack.address ++ str ";client_port=" ++
      front.port ++ str "-" ++ after

def SDPStack.controls (sdpStack : SDPStack) : List CStr :=
  (sdpStack.attribute_list.filter fun a => str "control" = a.attributeName).map
    SessionAttribute.value

/-- The text names the video: the control with the number of the first medium that is one. -/
def NamesVideo (answer : Answer) (url : CStr) : Prop :=
  ∀ n track, answer.sdpStack.media_list.findIdx? (fun m => str "video" = m.media) = some n →
    answer.sdpStack.controls[n]? = some track →
      url = answer.msg.fieldValue (str "Content-Base") ++ track

/-- An event as it should be after what came before: a `PLAY` after the answer to the `SETUP`, and
a `SETUP` with the client and the video. -/
def Follows (k : SessionMgr) (invite : SDPStack) (past : List Event) : Event → Prop
  | .sent method => method = str "PLAY" → SetupAnswered past
  | .setup info =>
    (∃ sdpStack, ClientSdp k invite past sdpStack ∧ NamesClient sdpStack info.transport) ∧
      ∃ answer, Event.answered (str "DESCRIBE") answer ∈ past ∧ NamesVideo answer info.url
  | _ => True

def setUpMethods : List CStr := [str "OPTIONS", str "DESCRIBE", str "SETUP"]

def Started (history : List Event) : Prop := ∃ sdpStack, Event.started sdpStack ∈ history

structure SetUp (k : SessionMgr) (invite : SDPStack) (s : CallState) : Prop where
  inOrder : (sent s.history).filter (· ∈ setUpMethods) <+: setUpMethods
  follows : Fitting (Follows k invite) s.history
  /-- Once the server has answered everything, a local call and any that was started is set up. -/
  complete : k = .sessionMgrLocal ∨ Started s.history → s.waiting = [] →
    (sent s.history).filter (· ∈ setUpMethods) = setUpMethods
  /-- One that was started plays. -/
  plays : Started s.history → s.waiting = [] → str "PLAY" ∈ sent s.history

/-- What the server and the SIP module do: an answer is a `200`, from the one to the `SETUP` on
with a session; a local call is started after its invite was answered, the others after their
`DESCRIBE` was. -/
def Regular (k : SessionMgr) (s : CallState) (i : Nat × Input) : Prop :=
  match i.2 with
  | .answer answer =>
    answer.msg.is200 = true ∧
      ∀ method ∈ s.waiting.head?, method ≠ str "OPTIONS" → method ≠ str "DESCRIBE" →
        answer.msg.fieldValue (str "Session") ≠ []
  | .start _ =>
    match k with
    | .sessionMgrLocal => Event.invite_reponse ∈ s.history
    | _ => ∃ answer, Event.answered (str "DESCRIBE") answer ∈ s.history
  | _ => True

/-- The SDP of an invite names a client that its fields can hold. -/
def BufLens.Holds (lens : BufLens) (sdpStack : SDPStack) : Prop :=
  sdpStack.address.length < lens.IP_BUF_LEN ∧
    ∀ front ∈ sdpStack.media_list.head?, front.port.length < lens.PORT_BUF_LEN

/-- No start message, and no session with the answer to the `DESCRIBE`. -/
def Quiet (s : CallState) (i : Nat × Input) : Prop :=
  match i.2 with
  | .start _ => False
  | .answer answer =>
    s.waiting.head? = some (str "DESCRIBE") → answer.msg.fieldValue (str "Session") = []
  | _ => True

/-! ## The names in a `SETUP` -/

theorem videoIndex_eq {ms : List MediaInfo} :
    ∀ {n : Nat} (i : Int), ms.findIdx? (fun m => str "video" = m.media) = some n →
      videoIndex i ms = i + 1 + n := by
  induction ms with
  | nil => intro n i h; cases h
  | cons m ms ih =>
    intro n i h
    rw [List.findIdx?_cons] at h
    rw [videoIndex]
    by_cases hm : str "video" = m.media
    · rw [if_pos (decide_eq_true hm)] at h
      obtain rfl := Option.some.inj h
      rw [if_pos hm, Nat.cast_zero, Int.add_zero]
    · rw [if_neg (by simpa using hm), Option.map_eq_some_iff] at h
      obtain ⟨n, hn, rfl⟩ := h
      rw [if_neg hm, ih (i + 1) hn]
      omega

theorem controlAt_eq (attribute_list : List SessionAttribute) (sdpStack : SDPStack)
    (h : sdpStack.attribute_list = attribute_list) (n : Nat) :
    controlAt n attribute_list = sdpStack.controls[n]? := by
  rw [SDPStack.controls, h]
  clear h
  induction attribute_list generalizing n with
  | nil => rfl
  | cons a as ih =>
    rw [controlAt]
    by_cases ha : str "control" = a.attributeName
    · rw [if_pos ha, List.filter_cons_of_pos (by simpa using ha), List.map_cons]
      cases n with
      | zero => rfl
      | succ n =>
        rw [if_neg (by omega), List.getElem?_cons_succ]
        have hsub : ((n + 1 : Nat) : Int) - 1 = n := by omega
        rw [hsub, ih n]
    · rw [if_neg ha, List.filter_cons_of_neg (by simpa using ha), ih n]

/-- `GetVideoTrack` finds the control with the number of the first video. -/
theorem namesVideo_getVideoTrack (answer : Answer) :
    NamesVideo answer
      (answer.msg.fieldValue (str "Content-Base") ++ getVideoTrack answer.sdpStack) := by
  intro n track hn htrack
  have hindex : (-1 : Int) + 1 + n = n := by omega
  rw [getVideoTrack, videoIndex_eq (-1) hn, hindex, controlAt_eq _ answer.sdpStack rfl, htrack]
  rfl

theorem namesClient_setupTransport {sdpStack : SDPStack} {s : CallMgr} {front : MediaInfo}
    {rest : List MediaInfo} (hfront : sdpStack.media_list = front :: rest)
    (hip : s.szClientIP = sdpStack.address) (hport : s.szClientPort = front.port) :
    NamesClient sdpStack (setupTransport s) := by
  refine ⟨front, rest, s.m_transProto.transport ++ str ";unicast",
    zeroPadInt 0 (atoi s.szClientPort + 1) ++
      (if s.m_szDownLoadSpeed.length > 0 then str ";downloadspeed=" ++ s.m_szDownLoadSpeed else []),
    hfront, ?_⟩
  have hsplit : str ";unicast;destination=" = str ";unicast" ++ str ";destination=" := by decide
  rw [setupTransport, ← hip, ← hport, hsplit]
  simp only [List.append_assoc]

/-! ## A local call -/

/-- No start, and no answer to the invite. -/
def Fresh (history : List Event) : Prop := ¬ Started history ∧ Event.invite_reponse ∉ history

inductive LocalStage (eStatus : RTSPStatus) (waiting : List CStr) (history : List Event) : Prop
  | options (status : eStatus = .rs_options) (waits : waiting = [str "OPTIONS"])
      (sends : sent history = [str "OPTIONS"]) (fresh : Fresh history)
  | describe (status : eStatus = .rs_describe) (waits : waiting = [str "DESCRIBE"])
      (sends : sent history = [str "OPTIONS", str "DESCRIBE"]) (fresh : Fresh history)
  | setup (status : eStatus = .rs_setup) (waits : waiting = [str "SETUP"])
      (sends : sent history = setUpMethods) (fresh : Fresh history)
  | ready (status : eStatus = .rs_setup) (waits : waiting = [])
      (sends : sent history = setUpMethods) (fresh : ¬ Started history)
      (answered : SetupAnswered history)
  | play (status : eStatus = .rs_play) (waits : waiting = [str "PLAY"])
      (sends : sent history = setUpMethods ++ [str "PLAY"])
  | playing (status : eStatus = .rs_playing)
      (waits : ∀ method ∈ waiting, method = str "GET_PARAMETER")
      (sends : (sent history).filter (· ∈ setUpMethods) = setUpMethods)
      (plays : str "PLAY" ∈ sent history)

/-- A local call holds the client of its invite, and its history is right. -/
structure LocalInv (invite : SDPStack) (s : CallState) : Prop where
  ip : s.mgr.szClientIP = invite.address
  port : ∃ front rest, invite.media_list = front :: rest ∧ s.mgr.szClientPort = front.port
  follows : Fitting (Follows .sessionMgrLocal invite) s.history
  stage : LocalStage s.mgr.session.eStatus s.waiting s.history

theorem LocalInv.setUp {invite : SDPStack} {s : CallState} (h : LocalInv invite s) :
    SetUp .sessionMgrLocal invite s := by
  obtain ⟨-, -, hfollows, hstage⟩ := h
  cases hstage with
  | options _ waits sends fresh =>
    refine ⟨?_, hfollows, fun _ hw => ?_, fun hs => absurd hs fresh.1⟩
    · rw [sends]
      decide
    · rw [waits] at hw
      cases hw
  | describe _ waits sends fresh =>
    refine ⟨?_, hfollows, fun _ hw => ?_, fun hs => absurd hs fresh.1⟩
    · rw [sends]
      decide
    · rw [waits] at hw
      cases hw
  | setup _ waits sends fresh =>
    refine ⟨?_, hfollows, fun _ hw => ?_, fun hs => absurd hs fresh.1⟩
    · rw [sends]
      decide
    · rw [waits] at hw
      cases hw
  | ready _ _ sends fresh =>
    refine ⟨?_, hfollows, fun _ _ => ?_, fun hs => absurd hs fresh⟩
    · rw [sends]
      decide
    · rw [sends]
      decide
  | play _ waits sends =>
    refine ⟨?_, hfollows, fun _ _ => ?_, fun _ _ => ?_⟩
    · rw [sends]
      decide
    · rw [sends]
      decide
    · rw [sends]
      decide
  | playing _ _ sends plays =>
    refine ⟨?_, hfollows, fun _ _ => sends, fun _ _ => plays⟩
    rw [sends]

/-! ## Steps -/

@[simp] theorem sent_append (h h' : List Event) : sent (h ++ h') = sent h ++ sent h' :=
  List.filterMap_append

theorem started_append (h h' : List Event) : Started (h ++ h') ↔ Started h ∨ Started h' := by
  simp only [Started, List.mem_append, exists_or]

theorem fresh_append (h h' : List Event) : Fresh (h ++ h') ↔ Fresh h ∧ Fresh h' := by
  simp only [Fresh, started_append, List.mem_append]
  tauto

theorem not_started_singleton {e : Event} (h : ∀ sdpStack, e ≠ .started sdpStack) :
    ¬ Started [e] := by
  rintro ⟨sdpStack, hmem⟩
  exact h sdpStack (List.mem_singleton.mp hmem).symm

theorem fresh_singleton {e : Event} (h : ∀ sdpStack, e ≠ .started sdpStack)
    (hi : e ≠ .invite_reponse) : Fresh [e] :=
  ⟨not_started_singleton h, fun hmem => hi (List.mem_singleton.mp hmem).symm⟩

theorem after_of_reacts {s : CallState} {outcome : Outcome CallMgr CallEffect CallFault Unit}
    {mgr : CallMgr} {events : List Event} {eStatus : RTSPStatus}
    (h : Reacts mgr outcome events eStatus) :
    s.after outcome = ⟨outcome.state, s.waiting ++ sent events, s.history ++ events, s.ended⟩ := by
  rw [CallState.after, h.events, h.val]
  rfl

section Steps

variable {lens : BufLens} {k : SessionMgr} {now : Nat} {s : CallState}

theorem step_ended (h : s.ended = true) (i : Nat × Input) : step lens k s i = s := if_pos h

theorem step_answer_none (h : s.waiting = []) (answer : Answer) :
    step lens k s (now, .answer answer) = s := by
  unfold step
  split
  · rfl
  · simp only [h]

theorem step_answer {method : CStr} {waiting : List CStr} (hlive : s.ended = false)
    (h : s.waiting = method :: waiting) (answer : Answer) :
    step lens k s (now, .answer answer) =
      ((s.note (.answered method answer)).awaits waiting).after
        (processNetworkEvent k now .rmt_response answer s.mgr) := by
  unfold step
  rw [if_neg (by rw [hlive]; exact Bool.false_ne_true)]
  simp only [h]

theorem step_poll_before (h : s.mgr.session.eStatus.beforePlaying = true) :
    step lens k s (now, .poll) = s := by
  unfold step
  split
  · rfl
  · have hrun : onSession (timeOutProc now) s.mgr = ⟨[], s.mgr, .ok 0⟩ := by
      rw [run_onSession, run_timeOutProc_before h]
      rfl
    simp only [hrun, CallState.after, List.filterMap_nil, List.append_nil]

theorem step_start (hlive : s.ended = false) (sdpStack : Option SDPStack) :
    step lens k s (now, .start sdpStack) =
      (s.note (.started sdpStack)).after
        (processMsgQueueEvent lens k now (startMsg k sdpStack) s.mgr) := by
  unfold step
  rw [if_neg (by rw [hlive]; exact Bool.false_ne_true)]

theorem step_others (n : Nat) :
    (step lens k s (now, .others n)).mgr.session = s.mgr.session ∧
      (step lens k s (now, .others n)).mgr.szClientIP = s.mgr.szClientIP ∧
      (step lens k s (now, .others n)).mgr.szClientPort = s.mgr.szClientPort ∧
      (step lens k s (now, .others n)).waiting = s.waiting ∧
      (step lens k s (now, .others n)).history = s.history ∧
      (step lens k s (now, .others n)).ended = s.ended := by
  unfold step
  split
  · exact ⟨rfl, rfl, rfl, rfl, rfl, rfl⟩
  · exact ⟨rfl, rfl, rfl, rfl, rfl, rfl⟩

theorem step_poll_playing (h : s.mgr.session.eStatus = .rs_playing) :
    ∃ events, (events = [] ∨ events = [Event.sent (str "GET_PARAMETER")]) ∧
      (step lens k s (now, .poll)).mgr.session.eStatus = .rs_playing ∧
      (step lens k s (now, .poll)).mgr.szClientIP = s.mgr.szClientIP ∧
      (step lens k s (now, .poll)).mgr.szClientPort = s.mgr.szClientPort ∧
      (step lens k s (now, .poll)).waiting = s.waiting ++ sent events ∧
      (step lens k s (now, .poll)).history = s.history ++ events := by
  have hplays : s.mgr.session.eStatus.beforePlaying = false := by rw [h]; rfl
  unfold step
  split
  · exact ⟨[], Or.inl rfl, h, rfl, rfl, (List.append_nil _).symm, (List.append_nil _).symm⟩
  · by_cases htime : 0 < s.mgr.session.tmPoint_Timeout ∧ now > s.mgr.session.tmPoint_Timeout
    · have hrun : onSession (timeOutProc now) s.mgr = ⟨[], s.mgr, .ok 1⟩ := by
        rw [run_onSession, run_timeOutProc_timeout hplays htime]
        rfl
      simp only [hrun]
      exact ⟨[], Or.inl rfl, h, rfl, rfl, rfl, rfl⟩
    · by_cases hkeep : 0 < s.mgr.session.tmPoint_Keepalive ∧
          now ≥ s.mgr.session.tmPoint_Keepalive
      · have hrun : onSession (timeOutProc now) s.mgr =
            ⟨[.base (.send ⟨str "GET_PARAMETER", toText (nextCSeq s.mgr.m_nCSeq), true⟩)],
              { s.mgr with
                toTransSessionMgr := (startKeepalive now s.mgr.toTransSessionMgr).state },
              .ok 0⟩ := by
          rw [run_onSession, run_timeOutProc_keepalive hplays htime hkeep]
          rfl
        simp only [hrun]
        exact ⟨[.sent (str "GET_PARAMETER")], Or.inr rfl, rfl, rfl, rfl, rfl, rfl⟩
      · have hrun : onSession (timeOutProc now) s.mgr = ⟨[], s.mgr, .ok 0⟩ := by
          rw [run_onSession, run_timeOutProc_idle hplays htime hkeep]
          rfl
        simp only [hrun]
        exact ⟨[], Or.inl rfl, h, rfl, rfl, rfl, rfl⟩

end Steps

/-! ## Runs of a local call -/

section LocalRuns

variable {lens : BufLens} {invite : SDPStack} {s : CallState} {now : Nat}

theorem LocalInv.react {note : Event} {waiting : List CStr}
    {outcome : Outcome CallMgr CallEffect CallFault Unit} {events : List Event}
    {eStatus : RTSPStatus} (h : LocalInv invite s) (hr : Reacts s.mgr outcome events eStatus)
    (hfollows : Fitting (Follows .sessionMgrLocal invite) (s.history ++ [note] ++ events))
    (hstage : LocalStage eStatus (waiting ++ sent events) (s.history ++ [note] ++ events)) :
    LocalInv invite (((s.note note).awaits waiting).after outcome) := by
  obtain ⟨hip, hport, -, -⟩ := h
  rw [after_of_reacts hr]
  refine ⟨hr.ip.trans hip, ?_, hfollows, ?_⟩
  · rw [hr.port]
    exact hport
  · show LocalStage outcome.state.session.eStatus _ _
    rw [hr.status]
    exact hstage

theorem LocalInv.fits (h : LocalInv invite s) {note : Event}
    (hnote : Follows .sessionMgrLocal invite s.history note) :
    Fitting (Follows .sessionMgrLocal invite) (s.history ++ [note]) :=
  fitting_concat.mpr ⟨h.follows, hnote⟩

theorem LocalStage.playing_append {eStatus : RTSPStatus} {waiting : List CStr}
    {history events : List Event} (status : eStatus = .rs_playing)
    (waits : ∀ method ∈ waiting, method = str "GET_PARAMETER")
    (sends : (sent history).filter (· ∈ setUpMethods) = setUpMethods)
    (plays : str "PLAY" ∈ sent history)
    (hevents : ∀ method ∈ sent events, method = str "GET_PARAMETER") :
    LocalStage eStatus (waiting ++ sent events) (history ++ events) := by
  have hrest : (sent events).filter (· ∈ setUpMethods) = [] := by
    rw [List.filter_eq_nil_iff]
    intro method hmem
    rw [hevents method hmem]
    decide
  refine .playing status ?_ ?_ ?_
  · intro method hmem
    exact (List.mem_append.mp hmem).elim (waits method) (hevents method)
  · rw [sent_append, List.filter_append, sends, hrest, List.append_nil]
  · rw [sent_append]
    exact List.mem_append_left _ plays

theorem LocalInv.answer (h : LocalInv invite s) (hlive : s.ended = false) {answer : Answer}
    (hreg : Regular .sessionMgrLocal s (now, .answer answer)) :
    LocalInv invite (step lens .sessionMgrLocal s (now, .answer answer)) := by
  obtain ⟨h200, hsession⟩ := hreg
  have hplay : ∀ {method : CStr} {past : List Event}, method ≠ str "PLAY" →
      Follows .sessionMgrLocal invite past (.sent method) := fun hne he => absurd he hne
  cases h.stage with
  | options status waits sends fresh =>
    rw [step_answer hlive waits]
    refine h.react (reacts_options h200 status)
      (fitting_concat.mpr ⟨h.fits trivial, hplay (by decide)⟩) (.describe rfl rfl ?_ ?_)
    · rw [sent_append, sent_append, sends]
      rfl
    · rw [fresh_append, fresh_append]
      exact ⟨⟨fresh, fresh_singleton nofun nofun⟩, fresh_singleton nofun nofun⟩
  | describe status waits sends fresh =>
    rw [step_answer hlive waits]
    refine h.react (reacts_describe_local h200 status)
      (fitting_concat.mpr ⟨h.fits trivial, ?_, ?_⟩) (.setup rfl rfl ?_ ?_)
    · obtain ⟨front, rest, hfront, hport⟩ := h.port
      exact ⟨invite, rfl, namesClient_setupTransport hfront h.ip hport⟩
    · exact ⟨answer, List.mem_concat_self, namesVideo_getVideoTrack answer⟩
    · rw [sent_append, sent_append, sends]
      rfl
    · rw [fresh_append, fresh_append]
      exact ⟨⟨fresh, fresh_singleton nofun nofun⟩, fresh_singleton nofun nofun⟩
  | setup status waits sends fresh =>
    rw [step_answer hlive waits]
    have hid : answer.msg.fieldValue (str "Session") ≠ [] :=
      hsession (str "SETUP") (by rw [waits]; rfl) (by decide) (by decide)
    refine h.react (reacts_setup h200 status hid)
      (fitting_concat.mpr ⟨h.fits trivial, trivial⟩) (.ready rfl rfl ?_ ?_ ?_)
    · rw [sent_append, sent_append, sends]
      rfl
    · rw [started_append, started_append, not_or, not_or]
      exact ⟨⟨fresh.1, not_started_singleton nofun⟩, not_started_singleton nofun⟩
    · exact ⟨answer, List.mem_append_left _ List.mem_concat_self⟩
  | ready status waits sends fresh answered =>
    rw [step_answer_none waits]
    exact h
  | play status waits sends =>
    rw [step_answer hlive waits]
    refine h.react (reacts_play h200 status)
      (fitting_concat.mpr ⟨h.fits trivial, hplay (by decide)⟩) (.playing rfl ?_ ?_ ?_)
    · intro method hmem
      exact List.mem_singleton.mp hmem
    · rw [sent_append, sent_append, sends]
      show (setUpMethods ++ [str "PLAY"] ++ [] ++ [str "GET_PARAMETER"]).filter _ = _
      decide
    · rw [sent_append, sent_append, sends]
      show _ ∈ setUpMethods ++ [str "PLAY"] ++ [] ++ [str "GET_PARAMETER"]
      decide
  | playing status waits sends plays =>
    cases hw : s.waiting with
    | nil =>
      rw [step_answer_none hw]
      exact h
    | cons method waiting =>
      rw [step_answer hlive hw]
      have hwaits : ∀ m ∈ waiting, m = str "GET_PARAMETER" := fun m hm =>
        waits m (by rw [hw]; exact List.mem_cons_of_mem _ hm)
      refine h.react (reacts_playing h200 status)
        (by rw [List.append_nil]; exact h.fits trivial) ?_
      rw [List.append_nil]
      show LocalStage _ (waiting ++ sent [Event.answered method answer]) _
      exact .playing_append rfl hwaits sends plays nofun

theorem LocalInv.poll (h : LocalInv invite s) :
    LocalInv invite (step lens .sessionMgrLocal s (now, .poll)) := by
  have hbefore : s.mgr.session.eStatus.beforePlaying = true →
      LocalInv invite (step lens .sessionMgrLocal s (now, .poll)) := by
    intro hb
    rw [step_poll_before hb]
    exact h
  cases h.stage with
  | options status => exact hbefore (by rw [status]; rfl)
  | describe status => exact hbefore (by rw [status]; rfl)
  | setup status => exact hbefore (by rw [status]; rfl)
  | ready status => exact hbefore (by rw [status]; rfl)
  | play status => exact hbefore (by rw [status]; rfl)
  | playing status waits sends plays =>
    obtain ⟨events, hevents, hstatus, hip, hport, hwaiting, hhistory⟩ :=
      @step_poll_playing lens .sessionMgrLocal now s status
    have hfollows : Fitting (Follows .sessionMgrLocal invite) (s.history ++ events) := by
      rcases hevents with rfl | rfl
      · rw [List.append_nil]
        exact h.follows
      · exact h.fits fun he => absurd he (by decide)
    have hsent : ∀ method ∈ sent events, method = str "GET_PARAMETER" := by
      rcases hevents with rfl | rfl
      · exact nofun
      · exact fun method hmem => List.mem_singleton.mp hmem
    refine ⟨hip.trans h.ip, ?_, ?_, ?_⟩
    · rw [hport]
      exact h.port
    · rw [hhistory]
      exact hfollows
    · rw [hwaiting, hhistory]
      exact .playing_append hstatus waits sends plays hsent

/-- A call that is ready plays when it is started; one that plays is left alone. -/
theorem LocalInv.start (h : LocalInv invite s) (hlive : s.ended = false)
    {sdpStack : Option SDPStack} (hreg : Regular .sessionMgrLocal s (now, .start sdpStack)) :
    LocalInv invite (step lens .sessionMgrLocal s (now, .start sdpStack)) := by
  have hinvited : Event.invite_reponse ∈ s.history := hreg
  have hidle : s.mgr.session.eStatus ≠ .rs_setup →
      Reacts s.mgr (processMsgQueueEvent lens .sessionMgrLocal now
        (startMsg .sessionMgrLocal sdpStack) s.mgr) [] s.mgr.session.eStatus := by
    intro hne
    have hrun : RTSPCom.processMsgQueueEvent now .play_ctrl_start s.mgr.toTransSessionMgr =
        ⟨[], s.mgr.toTransSessionMgr, .ok ()⟩ := by
      rw [RTSPCom.processMsgQueueEvent, Proc.run_get_bind]
      exact congrFun (if_neg hne) _
    show Reacts _ (onSession (RTSPCom.processMsgQueueEvent now .play_ctrl_start) s.mgr) _ _
    rw [run_onSession, hrun]
    exact ⟨rfl, rfl, rfl, rfl, rfl⟩
  rw [step_start hlive]
  show LocalInv invite (((s.note (.started sdpStack)).awaits s.waiting).after _)
  cases h.stage with
  | options _ _ _ fresh => exact absurd hinvited fresh.2
  | describe _ _ _ fresh => exact absurd hinvited fresh.2
  | setup _ _ _ fresh => exact absurd hinvited fresh.2
  | ready status waits sends fresh answered =>
    have hr : Reacts s.mgr (processMsgQueueEvent lens .sessionMgrLocal now
        (startMsg .sessionMgrLocal sdpStack) s.mgr) [.sent (str "PLAY")] .rs_play := by
      have hrun : RTSPCom.processMsgQueueEvent now .play_ctrl_start s.mgr.toTransSessionMgr =
          RTSPCom.play now s.mgr.toTransSessionMgr := by
        rw [RTSPCom.processMsgQueueEvent, Proc.run_get_bind]
        exact congrFun (if_pos status) _
      show Reacts _ (onSession (RTSPCom.processMsgQueueEvent now .play_ctrl_start) s.mgr) _ _
      rw [run_onSession, hrun, run_play]
      exact ⟨rfl, rfl, rfl, rfl, rfl⟩
    obtain ⟨answer, hanswer⟩ := answered
    refine h.react hr (fitting_concat.mpr ⟨h.fits trivial, fun _ => ?_⟩) (.play rfl ?_ ?_)
    · exact ⟨answer, List.mem_append_left _ hanswer⟩
    · rw [waits]
      rfl
    · rw [sent_append, sent_append, sends]
      rfl
  | play status waits sends =>
    refine h.react (hidle (by rw [status]; decide)) (by rw [List.append_nil]; exact h.fits trivial)
      (.play status ?_ ?_)
    · rw [waits]
      rfl
    · rw [sent_append, sent_append, sends]
      rfl
  | playing status waits sends plays =>
    refine h.react (hidle (by rw [status]; decide)) (by rw [List.append_nil]; exact h.fits trivial)
      ?_
    rw [List.append_nil]
    show LocalStage _ (s.waiting ++ sent [Event.started sdpStack]) _
    exact .playing_append status waits sends plays nofun

theorem LocalInv.keeps (h : LocalInv invite s) {i : Nat × Input}
    (hreg : Regular .sessionMgrLocal s i) : LocalInv invite (step lens .sessionMgrLocal s i) := by
  obtain ⟨now, i⟩ := i
  cases hlive : s.ended with
  | true =>
    rw [step_ended hlive]
    exact h
  | false =>
    cases i with
    | answer answer => exact h.answer hlive hreg
    | poll => exact h.poll
    | start sdpStack => exact h.start hlive hreg
    | others n =>
      obtain ⟨hsession, hip, hport, hwaiting, hhistory, -⟩ :=
        @step_others lens .sessionMgrLocal now s n
      refine ⟨hip.trans h.ip, ?_, ?_, ?_⟩
      · rw [hport]
        exact h.port
      · rw [hhistory]
        exact h.follows
      · rw [hsession, hwaiting, hhistory]
        exact h.stage

theorem localInv_opened (hholds : lens.Holds invite) {block mgr : CallMgr}
    (hcreate : create lens .sessionMgrLocal invite block = .ok mgr) :
    LocalInv invite (opened now mgr) := by
  have hfollows : Fitting (Follows .sessionMgrLocal invite) ([] ++ [.sent (str "OPTIONS")]) :=
    fitting_concat.mpr ⟨fitting_nil _, fun he => absurd he (by decide)⟩
  have hstage : LocalStage .rs_options [str "OPTIONS"] [.sent (str "OPTIONS")] :=
    .options rfl rfl rfl (fresh_singleton nofun nofun)
  obtain ⟨haddress, hport⟩ := hholds
  rw [create, createLocalCall, readSdp] at hcreate
  cases hmedia : invite.media_list with
  | nil =>
    rw [hmedia] at hcreate
    cases hcreate
  | cons front rest =>
    rw [hmedia] at hcreate hport
    have hcopy := hport front rfl
    cases hcreate
    exact ⟨if_pos haddress, ⟨front, rest, hmedia, if_pos hcopy⟩, hfollows, hstage⟩

end LocalRuns

/-! ## Runs of the other calls -/

inductive CallStage (eStatus : RTSPStatus) (waiting : List CStr) (history : List Event) : Prop
  | options (status : eStatus = .rs_options) (waits : waiting = [str "OPTIONS"])
      (sends : sent history = [str "OPTIONS"])
      (unanswered : ∀ answer, Event.answered (str "DESCRIBE") answer ∉ history)
  | describe (status : eStatus = .rs_describe) (waits : waiting = [str "DESCRIBE"])
      (sends : sent history = [str "OPTIONS", str "DESCRIBE"])
      (unanswered : ∀ answer, Event.answered (str "DESCRIBE") answer ∉ history)
  | described (status : eStatus = .rs_describe) (waits : waiting = [])
      (sends : sent history = [str "OPTIONS", str "DESCRIBE"])

/-- Another call that was not started, and whose `DESCRIBE` was answered without a session. -/
structure CallInv (k : SessionMgr) (invite : SDPStack) (s : CallState) : Prop where
  live : s.ended = false
  follows : Fitting (Follows k invite) s.history
  noStart : ¬ Started s.history
  noSetup : ∀ answer, Event.answered (str "SETUP") answer ∉ s.history
  stage : CallStage s.mgr.session.eStatus s.waiting s.history

/-- Something went out at the wrong time, or a start was processed for nothing. -/
def Failed (k : SessionMgr) (invite : SDPStack) (s : CallState) : Prop :=
  ¬ Fitting (Follows k invite) s.history ∨
    (s.mgr.session.eStatus = .rs_describe ∧ s.waiting = [] ∧ Started s.history ∧
      str "PLAY" ∉ sent s.history)

section CallRuns

variable {lens : BufLens} {k : SessionMgr} (hk : k ≠ .sessionMgrLocal) {invite : SDPStack}
  {s : CallState} {now : Nat}

/-- An answer to one request, and events of the session, are no answer to another. -/
theorem not_answered {method other : CStr} (hne : method ≠ other) {history events : List Event}
    (h : ∀ answer, Event.answered other answer ∉ history) (answer : Answer)
    (hevents : ∀ answer, Event.answered other answer ∉ events) :
    ∀ answer', Event.answered other answer' ∉ history ++ [.answered method answer] ++ events := by
  intro answer' hmem
  rcases List.mem_append.mp hmem with hmem | hmem
  · rcases List.mem_append.mp hmem with hmem | hmem
    · exact h answer' hmem
    · cases List.mem_singleton.mp hmem
      exact hne rfl
  · exact hevents answer' hmem

theorem CallInv.setUp (h : CallInv k invite s) (hk : k ≠ .sessionMgrLocal) : SetUp k invite s := by
  refine ⟨?_, h.follows, ?_, fun hs => absurd hs h.noStart⟩
  · cases h.stage with
    | options _ _ sends =>
      rw [sends]
      decide
    | describe _ _ sends =>
      rw [sends]
      decide
    | described _ _ sends =>
      rw [sends]
      decide
  · rintro (hl | hs)
    · exact absurd hl hk
    · exact absurd hs h.noStart

theorem Failed.not_setUp (h : Failed k invite s) : ¬ SetUp k invite s := by
  intro hs
  rcases h with h | ⟨-, hw, hstart, hplay⟩
  · exact h hs.follows
  · exact hplay (hs.plays hstart hw)

include hk in
/-- The status that a start message is compared with is one that the session never has. -/
theorem reacts_start {s : CallMgr} (hst : s.session.eStatus = .rs_describe)
    (sdpStack : Option SDPStack) :
    Reacts s (processMsgQueueEvent lens k now (startMsg k sdpStack) s) [] .rs_describe := by
  have hne : ¬ RTSPStatus.rs_third_200_ret = s.session.eStatus := by
    rw [hst]
    decide
  have hrun : processMsgQueueEvent lens k now (startMsg k sdpStack) s = ⟨[], s, .ok ()⟩ := by
    cases k with
    | sessionMgrLocal => exact absurd rfl hk
    | thirdCallSessionMgr =>
      rw [processMsgQueueEvent, processCallEvent, Proc.run_get_bind]
      exact congrFun (if_neg hne) s
    | broadCastCallSessionMgr =>
      rw [processMsgQueueEvent, processCallEvent, Proc.run_get_bind]
      exact congrFun (if_neg hne) s
  rw [hrun]
  exact ⟨rfl, rfl, hst, rfl, rfl⟩

theorem step_history (s : CallState) (i : Nat × Input) :
    ∃ events, (step lens k s i).history = s.history ++ events := by
  obtain ⟨now, i⟩ := i
  have hsame : ∃ events, s.history = s.history ++ events := ⟨[], (List.append_nil _).symm⟩
  unfold step
  split
  · exact hsame
  · cases i with
    | answer answer =>
      simp only
      split
      · exact hsame
      · exact ⟨_, List.append_assoc _ _ _⟩
    | poll =>
      simp only
      split
      · exact ⟨_, rfl⟩
      · exact ⟨_, rfl⟩
    | start sdpStack => exact ⟨_, List.append_assoc _ _ _⟩
    | others n => exact hsame

include hk in
theorem Failed.keeps (h : Failed k invite s) (i : Nat × Input) :
    Failed k invite (step lens k s i) := by
  rcases h with h | ⟨hst, hw, hstart, hplay⟩
  · obtain ⟨events, hevents⟩ := @step_history lens k s i
    left
    rw [hevents]
    exact fun hfit => h hfit.of_append
  · obtain ⟨now, i⟩ := i
    have hsame : Failed k invite s := Or.inr ⟨hst, hw, hstart, hplay⟩
    cases hlive : s.ended with
    | true =>
      rw [step_ended hlive]
      exact hsame
    | false =>
      cases i with
      | answer answer =>
        rw [step_answer_none hw]
        exact hsame
      | poll =>
        rw [step_poll_before (by rw [hst]; rfl)]
        exact hsame
      | start sdpStack =>
        have hr := @reacts_start lens k hk now s.mgr hst sdpStack
        rw [step_start hlive, after_of_reacts hr]
        refine Or.inr ⟨hr.status, ?_, ?_, ?_⟩
        · exact (List.append_nil _).trans hw
        · rw [List.append_nil]
          exact (started_append _ _).mpr (Or.inl hstart)
        · rw [List.append_nil]
          show str "PLAY" ∉ sent (s.history ++ _)
          rw [sent_append]
          exact fun hmem => hplay ((List.mem_append.mp hmem).resolve_right nofun)
      | others n =>
        obtain ⟨hsession, -, -, hwaiting, hhistory, -⟩ := @step_others lens k now s n
        rw [Failed, hsession, hwaiting, hhistory]
        exact hsame

include hk in
theorem CallInv.keeps (h : CallInv k invite s) {i : Nat × Input} (hreg : Regular k s i)
    (hquiet : Quiet s i) : CallInv k invite (step lens k s i) := by
  obtain ⟨now, i⟩ := i
  have hfits : ∀ {note : Event}, Follows k invite s.history note →
      Fitting (Follows k invite) (s.history ++ [note]) := fun hn =>
    fitting_concat.mpr ⟨h.follows, hn⟩
  cases i with
  | answer answer =>
    obtain ⟨h200, -⟩ := hreg
    cases h.stage with
    | options status waits sends unanswered =>
      have hr := @reacts_options answer h200 k now s.mgr status
      have hsent : ∀ other : CStr, ∀ a,
          Event.answered other a ∉ [Event.sent (str "DESCRIBE")] := fun _ _ => by simp
      rw [step_answer h.live waits, after_of_reacts hr]
      refine ⟨h.live, fitting_concat.mpr ⟨hfits trivial, fun he => absurd he (by decide)⟩, ?_,
        not_answered (by decide) h.noSetup answer (hsent _),
        .describe hr.status rfl ?_ (not_answered (by decide) unanswered answer (hsent _))⟩
      · show ¬ Started (s.history ++ [_] ++ [_])
        rw [started_append, started_append, not_or, not_or]
        exact ⟨⟨h.noStart, not_started_singleton nofun⟩, not_started_singleton nofun⟩
      · show sent (s.history ++ [_] ++ [_]) = _
        rw [sent_append, sent_append, sends]
        rfl
    | describe status waits sends unanswered =>
      have hnone : answer.msg.fieldValue (str "Session") = [] := hquiet (by rw [waits]; rfl)
      have hr := @reacts_describe answer h200 k now s.mgr hk status
      rw [if_pos hnone] at hr
      rw [step_answer h.live waits, after_of_reacts hr]
      refine ⟨h.live, ?_, ?_, not_answered (by decide) h.noSetup answer (fun _ => nofun),
        .described hr.status rfl ?_⟩
      · rw [List.append_nil]
        exact hfits trivial
      · rw [List.append_nil]
        show ¬ Started (s.history ++ [_])
        rw [started_append, not_or]
        exact ⟨h.noStart, not_started_singleton nofun⟩
      · rw [List.append_nil]
        show sent (s.history ++ [_]) = _
        rw [sent_append, sends]
        rfl
    | described status waits sends =>
      rw [step_answer_none waits]
      exact h
  | poll =>
    have hbefore : s.mgr.session.eStatus.beforePlaying = true := by
      cases h.stage with
      | options status =>
        rw [status]
        rfl
      | describe status =>
        rw [status]
        rfl
      | described status =>
        rw [status]
        rfl
    rw [step_poll_before hbefore]
    exact h
  | start sdpStack => exact hquiet.elim
  | others n =>
    obtain ⟨hsession, -, -, hwaiting, hhistory, hended⟩ := @step_others lens k now s n
    refine ⟨hended.trans h.live, ?_, ?_, ?_, ?_⟩
    · rw [hhistory]
      exact h.follows
    · rw [hhistory]
      exact h.noStart
    · rw [hhistory]
      exact h.noSetup
    · rw [hsession, hwaiting, hhistory]
      exact h.stage

include hk in
/-- A start, or a session with the answer to the `DESCRIBE`, is what such a call fails at. -/
theorem CallInv.fails (h : CallInv k invite s) {i : Nat × Input} (hreg : Regular k s i)
    (hquiet : ¬ Quiet s i) : Failed k invite (step lens k s i) := by
  obtain ⟨now, i⟩ := i
  cases i with
  | answer answer =>
    obtain ⟨h200, -⟩ := hreg
    obtain ⟨hhead, hid⟩ : s.waiting.head? = some (str "DESCRIBE") ∧
        answer.msg.fieldValue (str "Session") ≠ [] := by
      simpa [Quiet] using hquiet
    cases h.stage with
    | options status waits =>
      rw [waits] at hhead
      exact absurd (Option.some.inj hhead) (by decide)
    | describe status waits =>
      have hr := @reacts_describe answer h200 k now s.mgr hk status
      rw [if_neg hid] at hr
      obtain ⟨events, hr, hevents⟩ := hr
      have hack : ∀ a, Event.answered (str "SETUP") a ∉ events := fun a ha => nomatch hevents _ ha
      left
      rw [step_answer h.live waits, after_of_reacts hr, ← List.append_assoc]
      intro hfit
      obtain ⟨a, ha⟩ := (fitting_concat.mp hfit).2 rfl
      exact not_answered (by decide) h.noSetup answer hack a ha
    | described status waits =>
      rw [waits] at hhead
      cases hhead
  | poll => exact absurd trivial hquiet
  | start sdpStack =>
    have hdescribed : ∃ a, Event.answered (str "DESCRIBE") a ∈ s.history := by
      cases k with
      | sessionMgrLocal => exact absurd rfl hk
      | thirdCallSessionMgr => exact hreg
      | broadCastCallSessionMgr => exact hreg
    obtain ⟨a, ha⟩ := hdescribed
    cases h.stage with
    | options _ _ _ unanswered => exact absurd ha (unanswered a)
    | describe _ _ _ unanswered => exact absurd ha (unanswered a)
    | described status waits sends =>
      have hr := @reacts_start lens k hk now s.mgr status sdpStack
      rw [step_start h.live, after_of_reacts hr]
      refine Or.inr ⟨hr.status, ?_, ?_, ?_⟩
      · exact (List.append_nil _).trans waits
      · rw [List.append_nil]
        exact (started_append _ _).mpr (Or.inr ⟨sdpStack, List.mem_singleton_self _⟩)
      · rw [List.append_nil]
        show str "PLAY" ∉ sent (s.history ++ [_])
        rw [sent_append, sends]
        show str "PLAY" ∉ [str "OPTIONS", str "DESCRIBE"] ++ []
        decide
  | others n => exact absurd trivial hquiet

theorem callInv_opened (mgr : CallMgr) : CallInv k invite (opened now mgr) := by
  have hfollows : Fitting (Follows k invite) ([] ++ [.sent (str "OPTIONS")]) :=
    fitting_concat.mpr ⟨fitting_nil _, fun he => absurd he (by decide)⟩
  have hnone : ∀ method answer, Event.answered method answer ∉ [Event.sent (str "OPTIONS")] :=
    fun _ _ => by simp
  exact ⟨rfl, hfollows, not_started_singleton nofun, hnone _, .options rfl rfl rfl (hnone _)⟩

end CallRuns

/-- **Set-up of calls.**  In every regular run of a session the set-up is right **exactly** if the
call is a local one, or no start message was processed and the answer to the `DESCRIBE` brought no
session: the other calls wait for a status that nothing sets. -/
theorem setUp_run_iff {lens : BufLens} (k : SessionMgr) {invite : SDPStack}
    (hholds : lens.Holds invite) {block mgr : CallMgr}
    (hcreate : create lens k invite block = .ok mgr) {now : Nat} {is : List (Nat × Input)}
    (hreg : ∀ p ∈ calls (step lens k) (opened now mgr) is, Regular k p.1 p.2) :
    SetUp k invite (run (step lens k) (opened now mgr) is) ↔
      k = .sessionMgrLocal ∨ ∀ p ∈ calls (step lens k) (opened now mgr) is, Quiet p.1 p.2 := by
  by_cases hk : k = .sessionMgrLocal
  · subst hk
    have hkeep : ∀ s i, Regular .sessionMgrLocal s i → LocalInv invite s →
        LocalInv invite (step lens .sessionMgrLocal s i) := fun s i hi h => h.keeps hi
    have hinv := run_invariant hkeep (localInv_opened hholds hcreate) hreg
    exact iff_of_true hinv.setUp (Or.inl rfl)
  · rw [or_iff_right hk]
    exact run_iff_of_trap_of_valid (fun s i hr hq h => CallInv.keeps hk h hr hq)
      (fun s i hr hq h => CallInv.fails hk h hr hq) (fun s i h => Failed.keeps hk h i)
      (fun s h => CallInv.setUp h hk) (fun s h => Failed.not_setUp h) (callInv_opened mgr) hreg

theorem regular_answer (k : SessionMgr) (s : CallState) (now : Nat) (answer : Answer) :
    Regular k s (now, .answer answer) ↔ answer.msg.is200 = true ∧
      ∀ method ∈ s.waiting.head?, method ≠ str "OPTIONS" → method ≠ str "DESCRIBE" →
        answer.msg.fieldValue (str "Session") ≠ [] := Iff.rfl

theorem regular_poll (k : SessionMgr) (s : CallState) (now : Nat) :
    Regular k s (now, .poll) ↔ True := Iff.rfl

theorem regular_start_local (s : CallState) (now : Nat) (sdpStack : Option SDPStack) :
    Regular .sessionMgrLocal s (now, .start sdpStack) ↔ Event.invite_reponse ∈ s.history := Iff.rfl

theorem regular_start_third (s : CallState) (now : Nat) (sdpStack : Option SDPStack) :
    Regular .thirdCallSessionMgr s (now, .start sdpStack) ↔
      ∃ answer, Event.answered (str "DESCRIBE") answer ∈ s.history := Iff.rfl

/-! The history of a run on fixed inputs is looked through by evaluation. -/

theorem invited_of_any {history : List Event}
    (h : (history.any fun | .invite_reponse => true | _ => false) = true) :
    Event.invite_reponse ∈ history := by
  obtain ⟨e, hmem, he⟩ := List.any_eq_true.mp h
  cases e with
  | invite_reponse => exact hmem
  | _ => cases he

theorem answered_of_any {history : List Event} {other : CStr}
    (h : (history.any fun | .answered method _ => method = other | _ => false) = true) :
    ∃ answer, Event.answered other answer ∈ history := by
  obtain ⟨e, hmem, he⟩ := List.any_eq_true.mp h
  cases e with
  | answered method answer =>
    obtain rfl : method = other := of_decide_eq_true he
    exact ⟨answer, hmem⟩
  | _ => cases he

theorem started_of_any {history : List Event}
    (h : (history.any fun | .started _ => true | _ => false) = true) : Started history := by
  obtain ⟨e, hmem, he⟩ := List.any_eq_true.mp h
  cases e with
  | started sdpStack => exact ⟨sdpStack, hmem⟩
  | _ => cases he

def block : CallMgr where
  m_nCSeq := 0
  session := ⟨.rs_null, [], [], 0, 0⟩
  szClientIP := []
  szClientPort := []
  m_szDownLoadSpeed := []
  m_transProto := .tt_udp
  pRTSPMsg := none

/-- A client that wants to see a camera. -/
def client : SDPStack where
  session_name := str "Play"
  address := str "10.1.2.3"
  media_list := [⟨str "video", str "RTP/AVP", str "6000"⟩]

/-- `200 OK`, with or without a session. -/
def ok200 (session : CStr) : Answer where
  msg :=
    { m_strStatus := str "200 OK"
      m_strHeader := (Vector.replicate 18 []).set 11 session }
  sdpStack :=
    { media_list := [⟨str "video", str "RTP/AVP", str "0"⟩]
      attribute_list := [⟨str "control", str "track1"⟩] }

def bufLens : BufLens := ⟨16, 6⟩

/-- What `Create` makes of the block for a local call. -/
def created : CallMgr := { block with szClientIP := str "10.1.2.3", szClientPort := str "6000" }

/-- A call that is answered and started as it should be. -/
def wholeRun : List (Nat × Input) :=
  [(1, .answer (ok200 [])), (2, .answer (ok200 [])), (3, .answer (ok200 (str "7"))),
    (4, .start none), (5, .poll), (6, .answer (ok200 (str "7")))]

theorem wholeRun_regular : ∀ p ∈ calls (step bufLens .sessionMgrLocal) (opened 0 created) wholeRun,
    Regular .sessionMgrLocal p.1 p.2 := by
  rw [wholeRun]
  simp only [calls, List.forall_mem_cons, regular_answer, regular_poll, regular_start_local,
    List.not_mem_nil, false_implies, implies_true, and_true, true_and]
  exact ⟨by decide +kernel, by decide +kernel, by decide +kernel,
    invited_of_any (by decide +kernel), by decide +kernel⟩

theorem setUp_wholeRun : SetUp .sessionMgrLocal client
    (run (step bufLens .sessionMgrLocal) (opened 0 created) wholeRun) :=
  (setUp_run_iff .sessionMgrLocal ⟨by decide, by decide⟩
    (show create bufLens _ client block = .ok created from rfl) wholeRun_regular).mpr (Or.inl rfl)

/-- A third-party call is answered, and its start is processed after the `DESCRIBE`. -/
def thirdRun : List (Nat × Input) :=
  [(1, .answer (ok200 [])), (2, .answer (ok200 [])), (3, .start (some client))]

/-- It never plays. -/
theorem third_not_setUp :
    (∀ p ∈ calls (step bufLens .thirdCallSessionMgr) (opened 0 block) thirdRun,
      Regular .thirdCallSessionMgr p.1 p.2) ∧
    ¬ SetUp .thirdCallSessionMgr client
      (run (step bufLens .thirdCallSessionMgr) (opened 0 block) thirdRun) := by
  constructor
  · rw [thirdRun]
    simp only [calls, List.forall_mem_cons, regular_answer, regular_start_third,
      List.not_mem_nil, false_implies, implies_true, and_true]
    exact ⟨by decide +kernel, by decide +kernel, answered_of_any (by decide +kernel)⟩
  · intro h
    exact absurd (h.plays (started_of_any (by decide +kernel)) (by decide +kernel))
      (by decide +kernel)

end GB28181.RTSPCom.CallSetup
