import GB28181.Base.Ownership
import GB28181.Platform.DataStore
import GB28181.Platform.UnifiedMessage

/-!
# Who releases a control message (`SDKCom/SDKDeviceCtrlMgr.cpp`)

`ProcDeviceCtrl` and `ProcDeviceConfig` get a message that carries a parameter object, and push the
message on or free it.  `CModMessage::Free` deletes the parameter object too, so a message that is
pushed takes its parameter along to the module that frees it in the end.

* `procDeviceCtrl`, `procDeviceConfig` — what a call does to messages and the parameter, in order;
* `released_iff_harmless` — a control command releases both exactly once **exactly when** it is none
  of the ten commands that read the parameter or handle the lens, whatever the store holds;
* `procDeviceConfig_not_released` — a configuration command never does.
-/

set_option autoImplicit false

namespace GB28181.Platform.DeviceController

open GB28181.Base GB28181.Base.Own

/-! ## What a call does -/

/-- The message a call gets, and those it may allocate. -/
inductive Message where
  | incoming
  | response
  | notice
deriving DecidableEq

/-- One thing a call does with a message or with the parameter of the incoming one. -/
inductive Action where
  | alloc (m : Message)
  | use (m : Message)
  | push (module : Module) (m : Message)
  /-- `CModMessage::Free`. -/
  | free (m : Message)
  /-- `delete szParam`. -/
  | deleteParam
deriving DecidableEq

/-- What an action is for the messages. -/
def Action.event : Action → Option (Event Message)
  | .alloc m => some (.take m)
  | .use m => some (.use m)
  | .push _ m => some (.give m)
  | .free m => some (.give m)
  | .deleteParam => none

/-- The parameter is deleted, now by the call or by `CModMessage::Free`: in the call, or in the
module that frees the message in the end. -/
def Action.deletesParam : Action → Bool
  | .deleteParam => true
  | .free m => m = .incoming
  | .push _ m => m = .incoming
  | _ => false

/-- The incoming message is pushed to one module or freed once and not used afterwards, and its
parameter is deleted once. -/
def Released (acts : List Action) : Prop :=
  life .incoming .live (acts.filterMap Action.event) = .gone ∧ acts.countP Action.deletesParam = 1

instance (acts : List Action) : Decidable (Released acts) :=
  inferInstanceAs (Decidable (_ ∧ _))

/-! ## The functions -/

structure CtrlMessage where
  pszCtrlCmd : CStr
  pszDeviceID : CStr
  pszQueryType : CStr

def safeFreeModMsg (m : Message) : List Action := [.use m, .free m]

/-- `DeviceControlResponse`: the answer is a copy of the message. -/
def deviceControlResponse (m : Message) : List Action :=
  [.use m, .alloc .response, .use m, .use .response, .push .SIPCOM .response]

/-- `ProcUrlQuery`; `nSipComMode` is set in the configuration. -/
def procUrlQuery (nSipComMode : Bool) (msg : CtrlMessage) (s : CDataStore) : List Action :=
  -- the result of `ChannelLookup` goes into the URL only
  let s := (s.lookupDevice msg.pszDeviceID).2
  match (s.lookupDevice msg.pszDeviceID).1 with
  | some _ =>
    [.use .incoming, .use .incoming, .push .SIPCOM .incoming] ++
      (if nSipComMode then [.alloc .notice, .use .notice, .push .SIPCOM .notice] else []) ++
      [.deleteParam]
  | none => [.use .incoming, .use .incoming, .free .incoming, .deleteParam]

/-- `ProcStopPlayUrl`; what it looks up only goes into a command to the decoder. -/
def procStopPlayUrl : List Action :=
  [.use .incoming, .push .SIPCOM .incoming, .alloc .notice, .use .notice, .push .SIPCOM .notice,
    .deleteParam]

/-- `ProcDecoderStatus`, `ProcDecoderInfo`: `pUnifiedMsg` is written over with a new message. -/
def procDecoderStatus : List Action :=
  [.use .incoming, .alloc .notice, .use .notice, .push .SIPCOM .notice, .deleteParam]

def procDecoderDivision : List Action :=
  [.use .incoming, .push .SIPCOM .incoming, .alloc .notice, .use .notice, .push .DEVINFO .notice,
    .deleteParam]

/-- A text of the protocol for a pan, tilt and zoom command. -/
def IsPTZ (strCtrlData : CStr) : Prop := strCtrlData.take 2 = str "a5" ∧ strCtrlData.length = 16

instance (strCtrlData : CStr) : Decidable (IsPTZ strCtrlData) :=
  inferInstanceAs (Decidable (_ ∧ _))

/-- `DeviceController::ProcDeviceCtrl`. -/
def procDeviceCtrl (nSipComMode : Bool) (msg : CtrlMessage) (s : CDataStore) : List Action :=
  let strCtrlData := msg.pszCtrlCmd.map toLower
  .use .incoming ::
  if IsPTZ strCtrlData then
    -- what follows works on copies of the fields
    [.use .incoming, .deleteParam, .use .incoming, .free .incoming]
  else if strCtrlData = str "dragzoomin" ∨ strCtrlData = str "dragzoomout" then
    [.use .incoming, .deleteParam, .use .incoming]
  else if strCtrlData = str "record" then
    [.use .incoming, .deleteParam, .use .incoming] ++
    match (s.lookupDevice msg.pszDeviceID).1 with
    | some _ =>
      [.use .incoming] ++ deviceControlResponse .incoming ++
        [.use .incoming, .push .RTSPCOM .incoming]
    | none =>
      [.use .incoming] ++ deviceControlResponse .incoming ++ safeFreeModMsg .incoming
  else if strCtrlData = str "stoprecord" then
    match (s.lookupDevice msg.pszDeviceID).1 with
    | some _ =>
      [.use .incoming] ++ deviceControlResponse .incoming ++
        [.use .incoming, .push .RTSPCOM .incoming]
    | none =>
      [.use .incoming] ++ deviceControlResponse .incoming ++ safeFreeModMsg .incoming
  else if strCtrlData = str "setguard" ∨ strCtrlData = str "resetguard" then
    match (s.lookupDeviceAlarmStatus msg.pszDeviceID).1 with
    | some _ =>
      [.use .incoming] ++ deviceControlResponse .incoming ++ safeFreeModMsg .incoming
    | none =>
      [.use .incoming] ++ deviceControlResponse .incoming ++ safeFreeModMsg .incoming
  else if strCtrlData = str "resetalarm" then
    [.use .incoming] ++ deviceControlResponse .incoming ++ safeFreeModMsg .incoming
  else if strCtrlData = str "boot" then [.use .incoming] ++ safeFreeModMsg .incoming
  else if strCtrlData = str "realplayurl" then procUrlQuery nSipComMode msg s
  else if strCtrlData = str "playbackurl" then procUrlQuery nSipComMode msg s
  else if strCtrlData = str "decoderdivision" then procDecoderDivision
  else if strCtrlData = str "stopplayurl" then procStopPlayUrl
  else if strCtrlData = str "decoderstatus" then procDecoderStatus
  else if strCtrlData = str "decoderinfo" then procDecoderStatus
  else deviceControlResponse .incoming ++ safeFreeModMsg .incoming

/-- `DeviceConfigResponse`: the message itself goes out. -/
def deviceConfigResponse : List Action := [.use .incoming, .push .SIPCOM .incoming]

/-- `DeviceController::ProcDeviceConfig`. -/
def procDeviceConfig (msg : CtrlMessage) (s : CDataStore) : List Action :=
  [.use .incoming, .deleteParam, .use .incoming] ++
  match (s.lookupDevice msg.pszDeviceID).1 with
  | some _ => deviceConfigResponse
  | none => [.use .incoming, .free .incoming] ++ deviceConfigResponse

/-! ## Release -/

/-- The commands that neither read the parameter nor move the lens. -/
def Harmless (pszCtrlCmd : CStr) : Prop :=
  ¬ IsPTZ (pszCtrlCmd.map toLower) ∧
    pszCtrlCmd.map toLower ∉
      [str "dragzoomin", str "dragzoomout", str "record", str "realplayurl", str "playbackurl",
        str "decoderdivision", str "stopplayurl", str "decoderstatus", str "decoderinfo"]

/-- A query for a URL deletes the parameter that goes along with the message. -/
theorem procUrlQuery_not_released (nSipComMode : Bool) (msg : CtrlMessage) (s : CDataStore) :
    ¬ Released (.use .incoming :: procUrlQuery nSipComMode msg s) := by
  unfold procUrlQuery
  dsimp only
  split
  · cases nSipComMode <;> decide
  · decide

theorem released_ite_iff {c : Prop} [Decidable c] {a : Action} {acts acts' : List Action} {P : Prop}
    (hpos : c → (Released (a :: acts) ↔ P)) (hneg : ¬ c → (Released (a :: acts') ↔ P)) :
    Released (a :: if c then acts else acts') ↔ P := by
  split
  · rename_i h
    exact hpos h
  · rename_i h
    exact hneg h

/-- **Control messages.**  A call releases the message and its parameter exactly once exactly when
the command is harmless. -/
theorem released_iff_harmless (nSipComMode : Bool) (msg : CtrlMessage) (s : CDataStore) :
    Released (procDeviceCtrl nSipComMode msg s) ↔ Harmless msg.pszCtrlCmd := by
  unfold procDeviceCtrl Harmless
  generalize msg.pszCtrlCmd.map toLower = strCtrlData
  dsimp only
  refine released_ite_iff (fun hptz => ?_) fun hptz => ?_
  · exact iff_of_false (by decide) fun h => h.1 hptz
  refine released_ite_iff (fun hdrag => ?_) fun hdrag => ?_
  · refine iff_of_false (by decide) fun h => h.2 ?_
    rcases hdrag with rfl | rfl <;> simp
  refine released_ite_iff (fun hrecord => ?_) fun hrecord => ?_
  · refine iff_of_false ?_ fun h => h.2 (by simp [hrecord])
    split <;> decide
  refine released_ite_iff (fun hstoprecord => ?_) fun _ => ?_
  · subst hstoprecord
    refine iff_of_true ?_ (by decide)
    split <;> decide
  refine released_ite_iff (fun hguard => ?_) fun _ => ?_
  · refine iff_of_true ?_ (by rcases hguard with rfl | rfl <;> decide)
    split <;> decide
  refine released_ite_iff (fun hreset => ?_) fun _ => ?_
  · subst hreset
    exact iff_of_true (by decide) (by decide)
  refine released_ite_iff (fun hboot => ?_) fun _ => ?_
  · subst hboot
    exact iff_of_true (by decide) (by decide)
  refine released_ite_iff (fun hreal => ?_) fun hreal => ?_
  · exact iff_of_false (procUrlQuery_not_released _ _ _) fun h => h.2 (by simp [hreal])
  refine released_ite_iff (fun hplayback => ?_) fun hplayback => ?_
  · exact iff_of_false (procUrlQuery_not_released _ _ _) fun h => h.2 (by simp [hplayback])
  refine released_ite_iff (fun hdivision => ?_) fun hdivision => ?_
  · exact iff_of_false (by decide) fun h => h.2 (by simp [hdivision])
  refine released_ite_iff (fun hstop => ?_) fun hstop => ?_
  · exact iff_of_false (by decide) fun h => h.2 (by simp [hstop])
  refine released_ite_iff (fun hstatus => ?_) fun hstatus => ?_
  · exact iff_of_false (by decide) fun h => h.2 (by simp [hstatus])
  refine released_ite_iff (fun hinfo => ?_) fun hinfo => ?_
  · exact iff_of_false (by decide) fun h => h.2 (by simp [hinfo])
  -- none of the names: the answer goes out and the message is freed
  rw [not_or] at hdrag
  refine iff_of_true (by decide) ⟨hptz, ?_⟩
  simp only [List.mem_cons, List.not_mem_nil, or_false, not_or]
  exact ⟨hdrag.1, hdrag.2, hrecord, hreal, hplayback, hdivision, hstop, hstatus, hinfo⟩

/-- **A configuration message** is used after it was freed, or deletes its parameter twice. -/
theorem procDeviceConfig_not_released (msg : CtrlMessage) (s : CDataStore) :
    ¬ Released (procDeviceConfig msg s) := by
  unfold procDeviceConfig
  split <;> decide

/-- **Control and configuration messages** of any text, on any store. -/
theorem control_message_release (nSipComMode : Bool) (msg : CtrlMessage) (s : CDataStore) :
    (Released (procDeviceCtrl nSipComMode msg s) ↔ Harmless msg.pszCtrlCmd) ∧
      ¬ Released (procDeviceConfig msg s) :=
  ⟨released_iff_harmless nSipComMode msg s, procDeviceConfig_not_released msg s⟩

/-- A pan command: the parameter is deleted twice. -/
theorem ptz_deletes_twice :
    ¬ ∀ (nSipComMode : Bool) (msg : CtrlMessage) (s : CDataStore),
      Released (procDeviceCtrl nSipComMode msg s) := by
  intro h
  have hptz := (released_iff_harmless false ⟨str "A50F010800FA00B7", [], []⟩ {}).mp (h _ _ _)
  exact hptz.1 (by decide)

end GB28181.Platform.DeviceController
