import Mathlib.Logic.Function.Basic
import GB28181.Base.Ownership
import GB28181.SipCom.SIPService

/-!
# Blocks from the SIP process (`SIPCom/SIPCom.cpp`)

`HandleShared` takes block after block out of the shared memory, copies each into a module message
and pushes messages to the modules.  Messages and body buffers come from pools that hand units out
as they were left; the units of the model are numbered in the order in which they are handed out,
and what the pool left in them is any text.

`PopDone` gives the memory of the block back before the guard, the `switch` and its cases read it
again.  The SIP process may have written there by then, so what each of these reads finds is an
input of the turn.

* `handleBlock` — one turn of the loop: what it allocates, reads, pushes and frees, in order;
* `handleBlock_out` — the effects of a turn: what every block has, then those of its `switch` case;
* `caseInvite_out_body`, `caseAck_out`, … — the effects of each case.

The times of the registration (keep-alive and response) drive timers that run before the loop;
they are left out.
-/

set_option autoImplicit false

namespace GB28181.Platform.SIPCom

open GB28181.Base GB28181.SipCom

/-! ## Data -/

inductive PlatformStatus where
  | UNREGISTERED
  | REGISTERING
  | REGISTERED
deriving DecidableEq

/-- The members of `mod_op_t` the loop sets. -/
inductive ModAction where
  | decoder_invite
  | decoder_ack
  | play_with_sdp
  | play_ctrl_start
  | play_ctrl_stop
  | play_ctrl
  | stop_all_play
  | call_invite_response
  /-- Any other, left in a unit of the pool. -/
  | other (n : Nat)
deriving DecidableEq

/-- A block of the shared memory; a type that the loop has no case for is `none`. -/
structure SharedBlock where
  cmd_type : Option SipCmd
  nCallDialogID : BitVec 64
  szToDeviceID : CStr
  nDID : BitVec 32
  nCID : BitVec 32
  nSeq : Int
  /-- The `nExtBodySize` bytes behind the header. -/
  extBody : CStr

def SharedBlock.nExtBodySize (b : SharedBlock) : Nat := b.extBody.length

/-- The text that a pointer to the bytes behind the header leads to. -/
def SharedBlock.body (b : SharedBlock) : CStr := cStr b.extBody

/-- A turn of the loop: the block it takes, and what each read behind `PopDone` finds in the memory.
The guard is read 0, the `switch` read 1, a case goes on from there. -/
structure Turn where
  block : SharedBlock
  later : Nat → SharedBlock

structure CModMessage where
  m_eModAction : ModAction := .other 0
  nCallDialogID : BitVec 64 := 0
  szToDeviceID : CStr := []
  nDID : BitVec 32 := 0
  nCID : BitVec 32 := 0
  nSeq : Int := 0
  strBody : CStr := []
  /-- `HUSDevice_T::DECODER_CHANNEL`. -/
  isDecoderChannel : Bool := false
  /-- The body buffer of `SetPlayData`, and the text its `SetData` was given. -/
  playData : Option (Nat × CStr) := none
deriving DecidableEq

/-- `CSIPCom`, with the units its pools hand out. -/
structure CSIPCom where
  m_ePlatformStatus : PlatformStatus
  messages : Nat → CModMessage
  nextMessage : Nat := 0
  nextBody : Nat := 0

inductive Effect where
  | allocMessage (n : Nat)
  | allocBody (n : Nat)
  /-- The block is read. -/
  | readBlock
  /-- `m_pShareReadQ->PopDone`. -/
  | popDone
  | push (module : Module) (n : Nat) (content : CModMessage)
  /-- `CModMessage::Free`. -/
  | free (n : Nat)
  | keepalive

/-- How the process was built and configured. -/
structure Config where
  WIN_SERVICE : Bool
  nSipComMode : Int

/-- Functions of `CSIPCom`; none of them ends in a fault here. -/
abbrev Call (α : Type) := Proc CSIPCom Effect Empty α

/-! ## Functions -/

/-- `m_oModuleMsgMemMgr.alloc`. -/
def allocMessage : Call Nat := do
  let s ← Proc.get
  Proc.update fun s => { s with nextMessage := s.nextMessage + 1 }
  Proc.emit (.allocMessage s.nextMessage)
  pure s.nextMessage

/-- `m_oBodyBufMemMgr.alloc`. -/
def allocBody : Call Nat := do
  let s ← Proc.get
  Proc.update fun s => { s with nextBody := s.nextBody + 1 }
  Proc.emit (.allocBody s.nextBody)
  pure s.nextBody

def write (p : Nat) (f : CModMessage → CModMessage) : Call Unit :=
  Proc.update fun s => { s with messages := Function.update s.messages p (f (s.messages p)) }

/-- `CRouter::PushMsg`. -/
def pushMsg (module : Module) (p : Nat) : Call Unit := do
  let s ← Proc.get
  Proc.emit (.push module p (s.messages p))

/-- `CModMessage::FromSipDataBlock`: without bytes behind the header `strBody` stays as it is. -/
def CModMessage.fromSipDataBlock (b : SharedBlock) (m : CModMessage) : CModMessage :=
  { m with
    strBody := if b.nExtBodySize > 0 then b.body else m.strBody
    nCallDialogID := b.nCallDialogID
    szToDeviceID := b.szToDeviceID
    nDID := b.nDID
    nCID := b.nCID
    nSeq := b.nSeq }

/-- `FromSipDataBlock` of the message `p`. -/
def fromSipDataBlock (p : Nat) (b : SharedBlock) : Call Unit := do
  Proc.emit .readBlock
  write p (·.fromSipDataBlock b)

def setModAction (p : Nat) (a : ModAction) : Call Unit := write p ({ · with m_eModAction := a })

/-- `SetPlayData` with a buffer whose `SetData` is given `strBody`. -/
def setPlayData (p pDataBuf : Nat) : Call Unit :=
  write p fun m => { m with playData := some (pDataBuf, m.strBody) }

/-- `DispatchModMessage` and `DispatchModSSMessage`: every case of theirs is empty. -/
def dispatch (_p : Nat) : Call Unit := pure ()

/-- `ST_CALL_INVITE`, with `THIRD_CALL_SUPPORT_DECODER` defined. -/
def caseInvite (later : Nat → SharedBlock) : Call Unit := do
  let p ← allocMessage
  fromSipDataBlock p (later 2)
  Proc.emit .readBlock
  if (later 3).nExtBodySize = 0 then
    write p fun m => { m with playData := none, isDecoderChannel := true }
    setModAction p .decoder_invite
    pushMsg .SDKCOM p
    Proc.emit .readBlock
  else
    setModAction p .play_with_sdp
    let pDataBuf ← allocBody
    setPlayData p pDataBuf
    pushMsg .RTSPCOM p
    Proc.emit .readBlock

/-- `ST_CALL_ACK`: the call that would fill the message is commented out. -/
def caseAck (later : Nat → SharedBlock) : Call Unit := do
  let p ← allocMessage
  Proc.emit .readBlock
  if (later 2).nExtBodySize = 0 then
    setModAction p .play_ctrl_start
    pushMsg .RTSPCOM p
  else
    setModAction p .decoder_ack
    pushMsg .SDKCOM p
  Proc.emit .readBlock

/-- `ST_CALL_BYE`: the push is commented out.  `b` is what its first read finds, which is another
one when it comes from the case before. -/
def caseBye (b : SharedBlock) : Call Unit := do
  let p ← allocMessage
  fromSipDataBlock p b
  setModAction p .play_ctrl_stop
  Proc.emit .readBlock

/-- `ST_CALL_INVITE_RESPONSE`, which goes on into the next case. -/
def caseInviteResponse (later : Nat → SharedBlock) : Call Unit := do
  let p ← allocMessage
  fromSipDataBlock p (later 2)
  Proc.emit .readBlock
  write p fun m =>
    { m with nDID := (later 3).nDID, nCID := (later 3).nCID, nSeq := (later 3).nSeq }
  if (later 4).nExtBodySize ≠ 0 then
    setModAction p .call_invite_response
    pushMsg .GBADAPTORCOM p
  else pure ()
  caseBye (later 5)

/-- `ST_CALL_INFO`. -/
def caseInfo (b : SharedBlock) : Call Unit := do
  let p ← allocMessage
  fromSipDataBlock p b
  let pDataBuf ← allocBody
  setPlayData p pDataBuf
  setModAction p .play_ctrl
  pushMsg .RTSPCOM p
  Proc.emit .readBlock

/-- `ST_SUBSCRIBE`. -/
def caseSubscribe (b : SharedBlock) : Call Unit := do
  let p ← allocMessage
  fromSipDataBlock p b
  Proc.emit .readBlock
  dispatch p
  Proc.emit .readBlock

def setPlatformStatus (st : PlatformStatus) : Call Unit :=
  Proc.update fun s => { s with m_ePlatformStatus := st }

/-- `ST_REGISTER_FAIL`. -/
def caseRegisterFail : Call Unit := do
  let s ← Proc.get
  if s.m_ePlatformStatus = .REGISTERED then
    let pMsg ← allocMessage
    setModAction pMsg .stop_all_play
    pushMsg .RTSPCOM pMsg
  else pure ()
  setPlatformStatus .UNREGISTERED

/-- The `switch` over the type of the block; `p` is the message filled before. -/
def switchCmd (p : Nat) (later : Nat → SharedBlock) : Call Unit :=
  match (later 1).cmd_type with
  | some .message => do
    Proc.emit .readBlock
    dispatch p
  | some .messageResponse => do
    Proc.emit .readBlock
    Proc.emit (.free p)
  | some .callInvite => caseInvite later
  | some .callAck => caseAck later
  | some .callInviteResponse => caseInviteResponse later
  | some .callBye => caseBye (later 2)
  | some .callInfo => caseInfo (later 2)
  | some .subscribe => caseSubscribe (later 2)
  | some .registerSuccess => do
    setPlatformStatus .REGISTERED
    Proc.emit .keepalive
  | some .registerFail => caseRegisterFail
  | some .subscribeNotify => pure ()
  | none => pure ()

/-- The guard of the loop leaves the block: not registered, and no answer to a registration. -/
def Discards (cfg : Config) (s : CSIPCom) (b : SharedBlock) : Prop :=
  cfg.WIN_SERVICE = true ∧ cfg.nSipComMode = 0 ∧ s.m_ePlatformStatus ≠ .REGISTERED ∧
    b.cmd_type ≠ some .registerSuccess ∧ b.cmd_type ≠ some .registerFail

instance (cfg : Config) (s : CSIPCom) (b : SharedBlock) : Decidable (Discards cfg s b) :=
  inferInstanceAs (Decidable (_ ∧ _))

/-- One turn of the loop in `HandleShared`. -/
def handleBlock (cfg : Config) (t : Turn) : Call Unit := do
  let p ← allocMessage
  fromSipDataBlock p t.block
  Proc.emit .popDone
  let s ← Proc.get
  Proc.emit .readBlock
  if Discards cfg s (t.later 0) then pure () else switchCmd p t.later

/-! ## What a turn does -/

/-- What `alloc` leaves. -/
def CSIPCom.allocated (s : CSIPCom) : CSIPCom := { s with nextMessage := s.nextMessage + 1 }

def CSIPCom.written (s : CSIPCom) (p : Nat) (f : CModMessage → CModMessage) : CSIPCom :=
  { s with messages := Function.update s.messages p (f (s.messages p)) }

@[simp] theorem CSIPCom.written_messages_self (s : CSIPCom) (p : Nat)
    (f : CModMessage → CModMessage) : (s.written p f).messages p = f (s.messages p) :=
  Function.update_self _ _ _

@[simp] theorem CSIPCom.written_written (s : CSIPCom) (p : Nat) (f g : CModMessage → CModMessage) :
    (s.written p f).written p g = s.written p (g ∘ f) := by
  unfold written
  simp

@[simp] theorem CSIPCom.written_nextMessage (s : CSIPCom) (p : Nat)
    (f : CModMessage → CModMessage) : (s.written p f).nextMessage = s.nextMessage := rfl

@[simp] theorem CSIPCom.written_nextBody (s : CSIPCom) (p : Nat)
    (f : CModMessage → CModMessage) : (s.written p f).nextBody = s.nextBody := rfl

@[simp] theorem CSIPCom.allocated_messages (s : CSIPCom) : s.allocated.messages = s.messages := rfl

@[simp] theorem CSIPCom.allocated_nextBody (s : CSIPCom) : s.allocated.nextBody = s.nextBody := rfl

@[simp] theorem CSIPCom.allocated_nextMessage (s : CSIPCom) :
    s.allocated.nextMessage = s.nextMessage + 1 := rfl

@[simp] theorem run_allocMessage (s : CSIPCom) :
    allocMessage s = ⟨[.allocMessage s.nextMessage], s.allocated, .ok s.nextMessage⟩ := rfl

@[simp] theorem run_write (p : Nat) (f : CModMessage → CModMessage) (s : CSIPCom) :
    write p f s = ⟨[], s.written p f, .ok ()⟩ := rfl

@[simp] theorem run_pushMsg (module : Module) (p : Nat) (s : CSIPCom) :
    pushMsg module p s = ⟨[.push module p (s.messages p)], s, .ok ()⟩ := rfl

@[simp] theorem run_fromSipDataBlock (p : Nat) (b : SharedBlock) (s : CSIPCom) :
    fromSipDataBlock p b s = ⟨[.readBlock], s.written p (·.fromSipDataBlock b), .ok ()⟩ := rfl

theorem CModMessage.fromSipDataBlock_strBody {b : SharedBlock} (h : b.nExtBodySize ≠ 0)
    (m : CModMessage) : (m.fromSipDataBlock b).strBody = b.body :=
  if_pos (Nat.pos_of_ne_zero h)

theorem CModMessage.fromSipDataBlock_strBody_stale {b : SharedBlock} (h : b.nExtBodySize = 0)
    (m : CModMessage) : (m.fromSipDataBlock b).strBody = m.strBody :=
  if_neg (by rw [h]; exact Nat.lt_irrefl 0)

theorem caseInvite_out_body {later : Nat → SharedBlock} {s : CSIPCom}
    (h : (later 3).nExtBodySize ≠ 0) :
    (caseInvite later s).out =
      [.allocMessage s.nextMessage, .readBlock, .readBlock, .allocBody s.nextBody,
        .push .RTSPCOM s.nextMessage
          { (s.messages s.nextMessage).fromSipDataBlock (later 2) with
            m_eModAction := .play_with_sdp
            playData :=
              some (s.nextBody, ((s.messages s.nextMessage).fromSipDataBlock (later 2)).strBody) },
        .readBlock] := by
  simp [caseInvite, h, setModAction, allocBody, setPlayData]

theorem caseInvite_out_nobody {later : Nat → SharedBlock} {s : CSIPCom}
    (h : (later 3).nExtBodySize = 0) :
    (caseInvite later s).out =
      [.allocMessage s.nextMessage, .readBlock, .readBlock,
        .push .SDKCOM s.nextMessage
          { (s.messages s.nextMessage).fromSipDataBlock (later 2) with
            playData := none, isDecoderChannel := true, m_eModAction := .decoder_invite },
        .readBlock] := by
  simp [caseInvite, h, setModAction]

theorem caseAck_out (later : Nat → SharedBlock) (s : CSIPCom) :
    (caseAck later s).out =
      [.allocMessage s.nextMessage, .readBlock,
        if (later 2).nExtBodySize = 0 then
          .push .RTSPCOM s.nextMessage
            { s.messages s.nextMessage with m_eModAction := .play_ctrl_start }
        else
          .push .SDKCOM s.nextMessage
            { s.messages s.nextMessage with m_eModAction := .decoder_ack },
        .readBlock] := by
  by_cases h : (later 2).nExtBodySize = 0
  · simp [caseAck, h, setModAction]
  · simp [caseAck, h, setModAction]

theorem caseBye_out (b : SharedBlock) (s : CSIPCom) :
    (caseBye b s).out = [.allocMessage s.nextMessage, .readBlock, .readBlock] := by
  simp [caseBye, setModAction]

theorem caseInviteResponse_out_body {later : Nat → SharedBlock} {s : CSIPCom}
    (h : (later 4).nExtBodySize ≠ 0) :
    (caseInviteResponse later s).out =
      [.allocMessage s.nextMessage, .readBlock, .readBlock,
        .push .GBADAPTORCOM s.nextMessage
          { (s.messages s.nextMessage).fromSipDataBlock (later 2) with
            nDID := (later 3).nDID, nCID := (later 3).nCID, nSeq := (later 3).nSeq
            m_eModAction := .call_invite_response },
        .allocMessage (s.nextMessage + 1), .readBlock, .readBlock] := by
  simp [caseInviteResponse, h, setModAction, caseBye_out]

theorem caseInviteResponse_out_nobody {later : Nat → SharedBlock} {s : CSIPCom}
    (h : (later 4).nExtBodySize = 0) :
    (caseInviteResponse later s).out =
      [.allocMessage s.nextMessage, .readBlock, .readBlock,
        .allocMessage (s.nextMessage + 1), .readBlock, .readBlock] := by
  simp [caseInviteResponse, h, caseBye_out]

theorem caseInfo_out (b : SharedBlock) (s : CSIPCom) :
    (caseInfo b s).out =
      [.allocMessage s.nextMessage, .readBlock, .allocBody s.nextBody,
        .push .RTSPCOM s.nextMessage
          { (s.messages s.nextMessage).fromSipDataBlock b with
            playData :=
              some (s.nextBody, ((s.messages s.nextMessage).fromSipDataBlock b).strBody)
            m_eModAction := .play_ctrl },
        .readBlock] := by
  simp [caseInfo, setModAction, allocBody, setPlayData]

theorem caseSubscribe_out (b : SharedBlock) (s : CSIPCom) :
    (caseSubscribe b s).out =
      [.allocMessage s.nextMessage, .readBlock, .readBlock, .readBlock] := by
  simp [caseSubscribe, dispatch]

theorem caseRegisterFail_out (s : CSIPCom) :
    (caseRegisterFail s).out =
      if s.m_ePlatformStatus = .REGISTERED then
        [.allocMessage s.nextMessage,
          .push .RTSPCOM s.nextMessage
            { s.messages s.nextMessage with m_eModAction := .stop_all_play }]
      else [] := by
  by_cases h : s.m_ePlatformStatus = .REGISTERED
  · simp [caseRegisterFail, h, setModAction, setPlatformStatus]
  · simp [caseRegisterFail, h, setPlatformStatus]

/-- The state the `switch` meets. -/
def CSIPCom.filled (s : CSIPCom) (b : SharedBlock) : CSIPCom :=
  s.allocated.written s.nextMessage (·.fromSipDataBlock b)

/-- The guard looks at the status, which filling a message leaves alone. -/
theorem handleBlock_out (cfg : Config) (t : Turn) (s : CSIPCom) :
    (handleBlock cfg t s).out =
      [.allocMessage s.nextMessage, .readBlock, .popDone, .readBlock] ++
        if Discards cfg s (t.later 0) then []
        else (switchCmd s.nextMessage t.later (s.filled t.block)).out := by
  have hturn : (handleBlock cfg t s).out =
      [.allocMessage s.nextMessage, .readBlock, .popDone, .readBlock] ++
        ((if Discards cfg s (t.later 0) then pure () else switchCmd s.nextMessage t.later :
          Call Unit) (s.filled t.block)).out := rfl
  rw [hturn]
  split <;> rfl

end GB28181.Platform.SIPCom
