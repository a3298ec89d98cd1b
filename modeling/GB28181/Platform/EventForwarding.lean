import GB28181.Platform.HandleShared

/-!
# SIP events reach their module (`SIPCom/SIPCom.cpp`)

What `HandleShared` pushes for the calls of a block sequence, against what each call should lead
to: one message, with the dialog number, the device ID and the body of its own block.

* `Forwarded` — what a block should lead to;
* `forwarded_iff` — it does **exactly when** the gateway takes the block, the memory that was given
  back still reads as its case needs it, and the unit the message was made of happens to hold what
  the code does not write;
* `forwarded_run_iff` — the equivalence over every sequence of blocks, from every state of the
  platform and of the pools.
-/

set_option autoImplicit false

namespace GB28181.Platform.SIPCom

open GB28181.Base GB28181.SipCom

def Effect.pushed : Effect → Option (Module × CModMessage)
  | .push module _ content => some (module, content)
  | _ => none

def pushes (out : List Effect) : List (Module × CModMessage) := out.filterMap Effect.pushed

/-- The message carries the data of the block. -/
structure Carries (b : SharedBlock) (m : CModMessage) : Prop where
  dialog : m.nCallDialogID = b.nCallDialogID
  device : m.szToDeviceID = b.szToDeviceID
  body : m.strBody = b.body

/-- The same, with the body in a buffer of its own too. -/
def CarriesBuffer (b : SharedBlock) (m : CModMessage) : Prop :=
  Carries b m ∧ ∃ n, m.playData = some (n, b.body)

/-- Nothing is pushed but one message, of this kind and with this property. -/
def PushesOne (out : List Effect) (module : Module) (action : ModAction) (P : CModMessage → Prop) :
    Prop := ∃ m, pushes out = [(module, m)] ∧ m.m_eModAction = action ∧ P m

def Forwarded (cfg : Config) (s : CSIPCom) (t : Turn) : Prop :=
  let out := (handleBlock cfg t s).out
  let b := t.block
  match b.cmd_type with
  | some .callInvite =>
    b.nExtBodySize ≠ 0 → PushesOne out .RTSPCOM .play_with_sdp (CarriesBuffer b)
  | some .callAck => b.nExtBodySize = 0 → PushesOne out .RTSPCOM .play_ctrl_start (Carries b)
  | some .callBye => PushesOne out .RTSPCOM .play_ctrl_stop (Carries b)
  | some .callInfo => PushesOne out .RTSPCOM .play_ctrl (CarriesBuffer b)
  | some .callInviteResponse =>
    b.nExtBodySize ≠ 0 → PushesOne out .GBADAPTORCOM .call_invite_response (Carries b)
  | _ => True

/-- The guard lets the block through, and the `switch` finds this type. -/
def Reaches (cfg : Config) (s : CSIPCom) (t : Turn) (cmd : SipCmd) : Prop :=
  ¬ Discards cfg s (t.later 0) ∧ (t.later 1).cmd_type = some cmd

/-- A read still has the dialog number, the device ID and the body of the block; without bytes
behind the header the body is what the unit holds. -/
structure Keeps (unit : CModMessage) (read b : SharedBlock) : Prop where
  dialog : read.nCallDialogID = b.nCallDialogID
  device : read.szToDeviceID = b.szToDeviceID
  body : (if read.nExtBodySize = 0 then unit.strBody else read.body) = b.body

/-- The gateway takes the block, its case finds it as it was, and the unit that is not filled holds
its data already; a BYE goes nowhere. -/
def Arrives (cfg : Config) (s : CSIPCom) (t : Turn) : Prop :=
  let unit := s.messages (s.nextMessage + 1)
  let b := t.block
  match b.cmd_type with
  | some .callInvite => b.nExtBodySize ≠ 0 →
    Reaches cfg s t .callInvite ∧ (t.later 3).nExtBodySize ≠ 0 ∧ Keeps unit (t.later 2) b
  | some .callAck => b.nExtBodySize = 0 →
    Reaches cfg s t .callAck ∧ (t.later 2).nExtBodySize = 0 ∧ Carries b unit
  | some .callBye => False
  | some .callInfo => Reaches cfg s t .callInfo ∧ Keeps unit (t.later 2) b
  | some .callInviteResponse => b.nExtBodySize ≠ 0 →
    Reaches cfg s t .callInviteResponse ∧ (t.later 4).nExtBodySize ≠ 0 ∧ Keeps unit (t.later 2) b
  | _ => True

/-! ## One turn -/

theorem CSIPCom.filled_messages (s : CSIPCom) (b : SharedBlock) :
    (s.filled b).messages (s.filled b).nextMessage = s.messages (s.nextMessage + 1) :=
  Function.update_of_ne (Nat.succ_ne_self s.nextMessage) _ _

theorem pushes_handleBlock (cfg : Config) (t : Turn) (s : CSIPCom) :
    pushes (handleBlock cfg t s).out =
      if Discards cfg s (t.later 0) then []
      else pushes (switchCmd s.nextMessage t.later (s.filled t.block)).out := by
  rw [handleBlock_out]
  split <;> rfl

/-- A message made from a read carries the block exactly when the read keeps it. -/
theorem carries_fromSipDataBlock_iff {unit : CModMessage} {read b : SharedBlock} :
    Carries b (unit.fromSipDataBlock read) ↔ Keeps unit read b := by
  have hbody : (unit.fromSipDataBlock read).strBody =
      if read.nExtBodySize = 0 then unit.strBody else read.body := by
    by_cases h : read.nExtBodySize = 0
    · rw [CModMessage.fromSipDataBlock_strBody_stale h, if_pos h]
    · rw [CModMessage.fromSipDataBlock_strBody h, if_neg h]
  constructor
  · exact fun h => ⟨h.dialog, h.device, hbody ▸ h.body⟩
  · exact fun h => ⟨h.dialog, h.device, hbody.trans h.body⟩

/-- The case of the `switch` that pushes messages of a kind. -/
def ModAction.caseOf : ModAction → Option SipCmd
  | .decoder_invite | .play_with_sdp => some .callInvite
  | .decoder_ack | .play_ctrl_start => some .callAck
  | .play_ctrl => some .callInfo
  | .call_invite_response => some .callInviteResponse
  | .stop_all_play => some .registerFail
  | .play_ctrl_stop | .other _ => none

theorem caseOf_of_pushed {p : Nat} {later : Nat → SharedBlock} {s : CSIPCom} {module : Module}
    {m : CModMessage} (h : (module, m) ∈ pushes (switchCmd p later s).out) :
    m.m_eModAction.caseOf = (later 1).cmd_type ∧ (later 1).cmd_type ≠ none := by
  unfold switchCmd at h
  rcases hcmd : (later 1).cmd_type with _ | cmd
  · rw [hcmd] at h
    cases h
  rw [hcmd] at h
  refine ⟨?_, Option.some_ne_none cmd⟩
  cases cmd with
  | callInvite =>
    dsimp only at h
    by_cases h0 : (later 3).nExtBodySize = 0
    · rw [caseInvite_out_nobody h0] at h
      cases List.mem_singleton.mp h
      rfl
    · rw [caseInvite_out_body h0] at h
      cases List.mem_singleton.mp h
      rfl
  | callAck =>
    dsimp only at h
    rw [caseAck_out] at h
    split at h
    · cases List.mem_singleton.mp h
      rfl
    · cases List.mem_singleton.mp h
      rfl
  | callInfo =>
    dsimp only at h
    rw [caseInfo_out] at h
    cases List.mem_singleton.mp h
    rfl
  | callInviteResponse =>
    dsimp only at h
    by_cases h0 : (later 4).nExtBodySize = 0
    · rw [caseInviteResponse_out_nobody h0] at h
      cases h
    · rw [caseInviteResponse_out_body h0] at h
      cases List.mem_singleton.mp h
      rfl
  | registerFail =>
    dsimp only at h
    rw [caseRegisterFail_out] at h
    split at h
    · cases List.mem_singleton.mp h
      rfl
    · cases h
  | callBye =>
    dsimp only at h
    rw [caseBye_out] at h
    cases h
  | subscribe =>
    dsimp only at h
    rw [caseSubscribe_out] at h
    cases h
  | _ => cases h

variable {cfg : Config} {s : CSIPCom} {t : Turn} {module : Module} {action : ModAction}
  {P : CModMessage → Prop}

/-- A message of a kind is pushed only where the block reaches its case. -/
theorem reaches_of_pushesOne (h : PushesOne (handleBlock cfg t s).out module action P) :
    ∃ cmd, action.caseOf = some cmd ∧ Reaches cfg s t cmd := by
  obtain ⟨m, hm, rfl, -⟩ := h
  rw [pushes_handleBlock] at hm
  split at hm
  · cases hm
  · rename_i hd
    obtain ⟨hcase, hne⟩ := caseOf_of_pushed (hm ▸ List.mem_singleton_self (module, m))
    obtain ⟨cmd, hcmd⟩ := Option.ne_none_iff_exists'.mp hne
    exact ⟨cmd, hcase.trans hcmd, hd, hcmd⟩

theorem pushesOne_iff {out : List Effect} {m : CModMessage} (h : pushes out = [(module, m)]) :
    PushesOne out module action P ↔ m.m_eModAction = action ∧ P m := by
  constructor
  · rintro ⟨m', hm', ha, hc⟩
    rw [h] at hm'
    cases hm'
    exact ⟨ha, hc⟩
  · exact fun hc => ⟨m, h, hc⟩

/-- A kind of message is pushed in its case only, so what remains is what the case does. -/
theorem pushesOne_iff_of_caseOf {cmd : SipCmd} {Q : Prop} (hcase : action.caseOf = some cmd)
    (h : Reaches cfg s t cmd →
      (PushesOne (switchCmd s.nextMessage t.later (s.filled t.block)).out module action P ↔ Q)) :
    PushesOne (handleBlock cfg t s).out module action P ↔ Reaches cfg s t cmd ∧ Q := by
  have hswitch (hreaches : Reaches cfg s t cmd) :
      PushesOne (handleBlock cfg t s).out module action P ↔ Q := by
    refine Iff.trans ?_ (h hreaches)
    unfold PushesOne
    rw [pushes_handleBlock, if_neg hreaches.1]
  constructor
  · intro hone
    obtain ⟨cmd', hcase', hreaches⟩ := reaches_of_pushesOne hone
    obtain rfl : cmd' = cmd := Option.some.inj (hcase'.symm.trans hcase)
    exact ⟨hreaches, (hswitch hreaches).mp hone⟩
  · exact fun ⟨hreaches, hq⟩ => (hswitch hreaches).mpr hq

theorem invite_pushesOne_iff :
    PushesOne (handleBlock cfg t s).out .RTSPCOM .play_with_sdp (CarriesBuffer t.block) ↔
      Reaches cfg s t .callInvite ∧ (t.later 3).nExtBodySize ≠ 0 ∧
        Keeps (s.messages (s.nextMessage + 1)) (t.later 2) t.block := by
  refine pushesOne_iff_of_caseOf rfl fun hreaches => ?_
  rw [switchCmd, hreaches.2]
  dsimp only
  by_cases h0 : (t.later 3).nExtBodySize = 0
  · rw [caseInvite_out_nobody h0]
    refine iff_of_false ?_ fun h => h.1 h0
    rintro ⟨m, hm, -⟩
    cases hm
  · rw [caseInvite_out_body h0, CSIPCom.filled_messages, and_iff_right h0,
      ← carries_fromSipDataBlock_iff]
    constructor
    · rintro ⟨m, hm, -, hc, -⟩
      cases hm
      exact ⟨hc.dialog, hc.device, hc.body⟩
    · intro hc
      exact ⟨_, rfl, rfl, ⟨hc.dialog, hc.device, hc.body⟩, _,
        congrArg (fun text => some (_, text)) hc.body⟩

theorem ack_pushesOne_iff :
    PushesOne (handleBlock cfg t s).out .RTSPCOM .play_ctrl_start (Carries t.block) ↔
      Reaches cfg s t .callAck ∧ (t.later 2).nExtBodySize = 0 ∧
        Carries t.block (s.messages (s.nextMessage + 1)) := by
  refine pushesOne_iff_of_caseOf rfl fun hreaches => ?_
  rw [switchCmd, hreaches.2]
  dsimp only
  rw [caseAck_out, CSIPCom.filled_messages]
  by_cases h0 : (t.later 2).nExtBodySize = 0
  · rw [if_pos h0, pushesOne_iff rfl, and_iff_right rfl, and_iff_right h0]
    exact ⟨fun hc => ⟨hc.dialog, hc.device, hc.body⟩, fun hc => ⟨hc.dialog, hc.device, hc.body⟩⟩
  · rw [if_neg h0]
    refine iff_of_false ?_ fun h => h0 h.1
    rintro ⟨m, hm, -⟩
    cases hm

theorem bye_not_pushesOne : ¬ PushesOne (handleBlock cfg t s).out module .play_ctrl_stop P := by
  intro h
  obtain ⟨cmd, hcase, -⟩ := reaches_of_pushesOne h
  cases hcase

theorem info_pushesOne_iff :
    PushesOne (handleBlock cfg t s).out .RTSPCOM .play_ctrl (CarriesBuffer t.block) ↔
      Reaches cfg s t .callInfo ∧
        Keeps (s.messages (s.nextMessage + 1)) (t.later 2) t.block := by
  refine pushesOne_iff_of_caseOf rfl fun hreaches => ?_
  rw [switchCmd, hreaches.2]
  dsimp only
  rw [caseInfo_out, CSIPCom.filled_messages, pushesOne_iff rfl, and_iff_right rfl,
    ← carries_fromSipDataBlock_iff]
  constructor
  · exact fun hc => ⟨hc.1.dialog, hc.1.device, hc.1.body⟩
  · exact fun hc => ⟨⟨hc.dialog, hc.device, hc.body⟩, _,
      congrArg (fun text => some (_, text)) hc.body⟩

theorem inviteResponse_pushesOne_iff :
    PushesOne (handleBlock cfg t s).out .GBADAPTORCOM .call_invite_response (Carries t.block) ↔
      Reaches cfg s t .callInviteResponse ∧ (t.later 4).nExtBodySize ≠ 0 ∧
        Keeps (s.messages (s.nextMessage + 1)) (t.later 2) t.block := by
  refine pushesOne_iff_of_caseOf rfl fun hreaches => ?_
  rw [switchCmd, hreaches.2]
  dsimp only
  by_cases h0 : (t.later 4).nExtBodySize = 0
  · rw [caseInviteResponse_out_nobody h0]
    refine iff_of_false ?_ fun h => h.1 h0
    rintro ⟨m, hm, -⟩
    cases hm
  · rw [caseInviteResponse_out_body h0, CSIPCom.filled_messages, pushesOne_iff rfl,
      and_iff_right rfl, and_iff_right h0, ← carries_fromSipDataBlock_iff]
    exact ⟨fun hc => ⟨hc.dialog, hc.device, hc.body⟩, fun hc => ⟨hc.dialog, hc.device, hc.body⟩⟩

/-- **One block** leads to what it should exactly when it arrives. -/
theorem forwarded_iff (cfg : Config) (s : CSIPCom) (t : Turn) :
    Forwarded cfg s t ↔ Arrives cfg s t := by
  unfold Forwarded Arrives
  dsimp only
  rcases t.block.cmd_type with _ | cmd
  · exact Iff.rfl
  · cases cmd with
    | callInvite => exact forall_congr' fun _ => invite_pushesOne_iff
    | callAck => exact forall_congr' fun _ => ack_pushesOne_iff
    | callBye => exact iff_of_false bye_not_pushesOne id
    | callInfo => exact info_pushesOne_iff
    | callInviteResponse => exact forall_congr' fun _ => inviteResponse_pushesOne_iff
    | _ => exact Iff.rfl

/-! ## Runs -/

def step (cfg : Config) (s : CSIPCom) (t : Turn) : CSIPCom := (handleBlock cfg t s).state

/-- **Every sequence of blocks**, from every state and whatever becomes of the memory that was given
back: each block leads to what it should exactly when each arrives. -/
theorem forwarded_run_iff (cfg : Config) (s : CSIPCom) (turns : List Turn) :
    (∀ p ∈ calls (step cfg) s turns, Forwarded cfg p.1 p.2) ↔
      ∀ p ∈ calls (step cfg) s turns, Arrives cfg p.1 p.2 :=
  forall₂_congr fun p _ => forwarded_iff cfg p.1 p.2

/-- A BYE of a registered gateway: nothing is pushed, though the memory stays as it is. -/
theorem bye_is_lost :
    ¬ ∀ (cfg : Config) (s : CSIPCom) (turns : List Turn),
      ∀ p ∈ calls (step cfg) s turns, Forwarded cfg p.1 p.2 := by
  intro h
  let b : SharedBlock := ⟨some .callBye, 1, str "34020000001320000001", 0, 0, 20, []⟩
  have hbye := h ⟨false, 0⟩ ⟨.REGISTERED, fun _ => {}, 0, 0⟩ [⟨b, fun _ => b⟩] _
    List.mem_cons_self
  exact (forwarded_iff _ _ _).mp hbye

end GB28181.Platform.SIPCom
