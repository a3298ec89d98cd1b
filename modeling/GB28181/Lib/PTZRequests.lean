import Mathlib.Algebra.Order.Ring.Int
import GB28181.Lib.AdapterRequests

/-!
# Camera movements (`CExternalInterface::SetPTZControl` in `GB28181.Lib/ExternalInterface.cpp`)

The value of a command is a speed, a number of a preset, or a pan and a tilt speed in one integer.
The speed of the four single directions is kept in a `static` variable, which is initialised by the
first call of the process and never again.

* `controlOf` — the command and data bytes that a call hands to `SendDeviceControl`;
* `control_panTilt` — **a pan and tilt command has the directions of the signs and the bytes of the
  speeds**, whatever was called before;
* `ptzSpeed_run` — the speed of the single directions is that of the first call;
* `dependsOnArguments_iff` — a request depends on its arguments alone **exactly when it is none of
  these, or the first call had its speed**.
-/

set_option autoImplicit false

namespace GB28181.Lib

open GB28181.Base

/-! ### Commands and directions of `SipInterface.h` -/

def RIGHT_DIR : UInt8 := 0x01
def LEFT_DIR : UInt8 := 0x02
def DOWN_DIR : UInt8 := 0x04
def LOWERRIGHT_DIR : UInt8 := 0x05
def LOWERLEFT_DIR : UInt8 := 0x06
def UP_DIR : UInt8 := 0x08
def UPPERRIGHT_DIR : UInt8 := 0x09
def UPPERLEFT_DIR : UInt8 := 0x0a
def FORWARD_DIR : UInt8 := 0x10
def BACK_DIR : UInt8 := 0x20
def FAR_DIR : UInt8 := 0x41
def NEAR_DIR : UInt8 := 0x42
def ZOOMIN_DIR : UInt8 := 0x44
def ZOOMOUT_DIR : UInt8 := 0x48
def PRESET_CTRL : UInt8 := 0x81
def PRECALL_CTRL : UInt8 := 0x82
def PREDEL_CTRL : UInt8 := 0x83

namespace PTZ

/-- The arguments of `SetPTZControl`, the IDs as `SendDeviceControl` gets them. -/
structure Call where
  pstrDeviceID : CharPtr
  pstrChannelID : CharPtr
  bCmdType : UInt8
  nValue : BitVec 32

/-- What a call hands to `SendDeviceControl` beside the IDs. -/
structure Control where
  bCmdType : UInt8
  bData1 : UInt8
  bData2 : UInt8
  bData3 : UInt8
  deriving DecidableEq

/-- `(BYTE)ptzValue` for `nValue*255/10`. -/
def speedByte (nValue : BitVec 32) : UInt8 :=
  UInt8.ofBitVec (((nValue * 255#32).sdiv 10#32).setWidth 8)

/-- `abs(int(speed*255/10))` of a `short`, as a byte. -/
def gbSpeed (speed : BitVec 16) : UInt8 := UInt8.ofNat ((speed.toInt * 255).tdiv 10).natAbs

def panSpeed (nValue : BitVec 32) : BitVec 16 := ((nValue &&& 0xFFFF0000#32) >>> 16).setWidth 16

def tiltSpeed (nValue : BitVec 32) : BitVec 16 := ((nValue &&& 0xFFFF#32) >>> 0).setWidth 16

/-- The combinations of the speeds in the case of a pan and tilt command. -/
def panTiltControl (pan tilt : BitVec 16) : Control :=
  if pan.toInt = 0 ∧ tilt.toInt > 0 then ⟨UP_DIR, 0, gbSpeed tilt, 0⟩
  else if pan.toInt = 0 ∧ tilt.toInt < 0 then ⟨DOWN_DIR, 0, gbSpeed tilt, 0⟩
  else if pan.toInt > 0 ∧ tilt.toInt = 0 then ⟨RIGHT_DIR, gbSpeed pan, 0, 0⟩
  else if pan.toInt < 0 ∧ tilt.toInt = 0 then ⟨LEFT_DIR, gbSpeed pan, 0, 0⟩
  else if pan.toInt > 0 ∧ tilt.toInt > 0 then ⟨UPPERRIGHT_DIR, gbSpeed pan, gbSpeed tilt, 0⟩
  else if pan.toInt > 0 ∧ tilt.toInt < 0 then ⟨LOWERRIGHT_DIR, gbSpeed pan, gbSpeed tilt, 0⟩
  else if pan.toInt < 0 ∧ tilt.toInt > 0 then ⟨UPPERLEFT_DIR, gbSpeed pan, gbSpeed tilt, 0⟩
  else if pan.toInt < 0 ∧ tilt.toInt < 0 then ⟨LOWERLEFT_DIR, gbSpeed pan, gbSpeed tilt, 0⟩
  else ⟨0, 0, 0, 0⟩

/-- The `switch` of `SetPTZControl`. -/
def controlOf (ptzSpeed : UInt8) (c : Call) : Control :=
  let value := UInt8.ofBitVec (c.nValue.setWidth 8)
  if c.bCmdType = 1 then ⟨LEFT_DIR, ptzSpeed, 0, 0⟩
  else if c.bCmdType = 2 then ⟨RIGHT_DIR, ptzSpeed, 0, 0⟩
  else if c.bCmdType = 3 then ⟨UP_DIR, 0, ptzSpeed, 0⟩
  else if c.bCmdType = 4 then ⟨DOWN_DIR, 0, ptzSpeed, 0⟩
  else if c.bCmdType = 5 then ⟨FORWARD_DIR, 0, 0, 1⟩
  else if c.bCmdType = 6 then ⟨BACK_DIR, 0, 0, 1⟩
  else if c.bCmdType = 7 then panTiltControl (panSpeed c.nValue) (tiltSpeed c.nValue)
  else if c.bCmdType = 48 then ⟨NEAR_DIR, 127, 0, 0⟩
  else if c.bCmdType = 49 then ⟨FAR_DIR, 127, 0, 0⟩
  else if c.bCmdType = 64 then ⟨ZOOMIN_DIR, 0, 127, 0⟩
  else if c.bCmdType = 65 then ⟨ZOOMOUT_DIR, 0, 127, 0⟩
  else if c.bCmdType = 80 then ⟨PRECALL_CTRL, 0, value, 0⟩
  else if c.bCmdType = 81 then ⟨PRESET_CTRL, 0, value, 0⟩
  else if c.bCmdType = 82 then ⟨PREDEL_CTRL, 0, value, 0⟩
  else if c.bCmdType = 153 then ⟨0, 0, 0, 0⟩
  else ⟨c.bCmdType, 0, 0, 0⟩

/-- A call and whether its object has a `m_pCUATcp`. -/
structure Input where
  m_pCUATcp : Bool
  call : Call

/-- The `static` variable after a call.  A call without a client returns before its declaration. -/
def step (ptzSpeed : Option UInt8) (i : Input) : Option UInt8 :=
  if i.m_pCUATcp then some (ptzSpeed.getD (speedByte i.call.nValue)) else ptzSpeed

/-- What a call with a client hands to `SendDeviceControl`. -/
def control (ptzSpeed : Option UInt8) (c : Call) : Control :=
  controlOf (ptzSpeed.getD (speedByte c.nValue)) c

/-- The request of a call, which `SendDeviceControl` sends with the next sequence number. -/
def request (ptzSpeed : Option UInt8) (c : Call) : Request :=
  let r := control ptzSpeed c
  CUACTCP.sendDeviceControl c.pstrDeviceID c.pstrChannelID r.bCmdType r.bData1 r.bData2 r.bData3
    0 0 0 0 0 0 0

/-- The variable after a history of calls, none of them before the process started. -/
def ptzSpeedAfter (h : List Input) : Option UInt8 := run step none h

/-! ## Pan and tilt -/

def signBits (pan tilt : Int) : UInt8 :=
  (if pan > 0 then RIGHT_DIR else if pan < 0 then LEFT_DIR else 0) |||
    (if tilt > 0 then UP_DIR else if tilt < 0 then DOWN_DIR else 0)

theorem gbSpeed_toNat {speed : BitVec 16} (h : speed.toInt.natAbs ≤ 10) :
    (gbSpeed speed).toNat = speed.toInt.natAbs * 255 / 10 := by
  rw [gbSpeed, UInt8.toNat_ofNat', Int.natAbs_tdiv, Int.natAbs_mul]
  show speed.toInt.natAbs * 255 / 10 % 256 = speed.toInt.natAbs * 255 / 10
  omega

theorem gbSpeed_zero {speed : BitVec 16} (h : speed.toInt = 0) : gbSpeed speed = 0 := by
  rw [gbSpeed, h]
  rfl

/-- **Directions and speeds of a pan and tilt command.** -/
theorem panTiltControl_eq (pan tilt : BitVec 16) :
    panTiltControl pan tilt =
      ⟨signBits pan.toInt tilt.toInt, gbSpeed pan, gbSpeed tilt, 0⟩ := by
  unfold panTiltControl signBits
  rcases Int.lt_trichotomy pan.toInt 0 with hpan | hpan | hpan <;>
    rcases Int.lt_trichotomy tilt.toInt 0 with htilt | htilt | htilt
  · simp [hpan, htilt, hpan.ne, hpan.not_gt, htilt.not_gt, htilt.ne]
    decide
  · simp [hpan, htilt, hpan.ne, hpan.not_gt, gbSpeed_zero htilt]
  · simp [hpan, htilt, hpan.ne, hpan.not_gt, htilt.not_gt, htilt.ne']
    decide
  · simp [hpan, htilt, htilt.not_gt, gbSpeed_zero hpan]
  · simp [hpan, htilt, gbSpeed_zero hpan, gbSpeed_zero htilt]
  · simp [hpan, htilt, gbSpeed_zero hpan]
  · simp [hpan, htilt, hpan.ne', hpan.not_gt, htilt.not_gt, htilt.ne]
    decide
  · simp [hpan, htilt, hpan.ne', gbSpeed_zero htilt]
  · simp [hpan, htilt, hpan.ne', hpan.not_gt, htilt.not_gt, htilt.ne']
    decide

theorem control_panTilt {c : Call} (hc : c.bCmdType = 7) (ptzSpeed : Option UInt8) :
    control ptzSpeed c =
      ⟨signBits (panSpeed c.nValue).toInt (tiltSpeed c.nValue).toInt, gbSpeed (panSpeed c.nValue),
        gbSpeed (tiltSpeed c.nValue), 0⟩ := by
  rw [control, controlOf, hc]
  exact panTiltControl_eq _ _

/-! ## The single directions -/

/-- The commands that move the camera in one direction. -/
def Call.Single (c : Call) : Prop :=
  c.bCmdType = 1 ∨ c.bCmdType = 2 ∨ c.bCmdType = 3 ∨ c.bCmdType = 4

instance (c : Call) : Decidable c.Single := inferInstanceAs (Decidable (_ ∨ _ ∨ _ ∨ _))

theorem controlOf_of_not_single {c : Call} (hc : ¬ c.Single) (a b : UInt8) :
    controlOf a c = controlOf b c := by
  simp only [Call.Single, not_or] at hc
  obtain ⟨h1, h2, h3, h4⟩ := hc
  simp only [controlOf, if_neg h1, if_neg h2, if_neg h3, if_neg h4]

theorem controlOf_single_inj {c : Call} (hc : c.Single) {a b : UInt8} :
    controlOf a c = controlOf b c ↔ a = b := by
  constructor
  · intro h
    rcases hc with hc | hc | hc | hc <;> simpa [controlOf, hc] using h
  · rintro rfl
    rfl

theorem request_eq_iff {a b : Option UInt8} {c : Call} :
    request a c = request b c ↔ control a c = control b c := by
  constructor
  · intro h
    have hfields := congrArg Request.fields h
    generalize hb : control b c = rb at *
    generalize ha : control a c = ra at *
    cases ra
    cases rb
    simpa [request, ha, hb, CUACTCP.sendDeviceControl, Lib.request] using hfields
  · intro h
    rw [request, request, h]

/-- The first call of the process with a client, which may be the next one. -/
def firstCall (h : List Input) (c : Call) : Call :=
  ((h.find? Input.m_pCUATcp).map Input.call).getD c

/-- **The variable keeps the speed of the first call.** -/
theorem ptzSpeed_run (h : List Input) (c : Call) :
    (ptzSpeedAfter h).getD (speedByte c.nValue) = speedByte (firstCall h c).nValue := by
  have hkept : ∀ (h : List Input) (speed : UInt8), run step (some speed) h = some speed := by
    intro h
    induction h with
    | nil => intro speed; rfl
    | cons i h ih =>
      intro speed
      have hstep : step (some speed) i = some speed := by
        cases hi : i.m_pCUATcp <;> simp [step, hi]
      rw [run_cons, hstep, ih]
  induction h with
  | nil => rfl
  | cons i h ih =>
    rw [ptzSpeedAfter, run_cons]
    cases hi : i.m_pCUATcp with
    | true => simp [step, hi, hkept, firstCall]
    | false =>
      have hfirst : firstCall (i :: h) c = firstCall h c := by simp [firstCall, hi]
      have hstep : step none i = none := by simp [step, hi]
      rw [hstep, hfirst]
      exact ih

/-! ## Requests and their arguments -/

/-- The pan and tilt speeds of a command that moves the camera up, down and aside. -/
def Call.speeds (c : Call) : Option (Int × Int) :=
  if c.bCmdType = 1 ∨ c.bCmdType = 2 then some (c.nValue.toInt, 0)
  else if c.bCmdType = 3 ∨ c.bCmdType = 4 then some (0, c.nValue.toInt)
  else if c.bCmdType = 7 then
    some ((panSpeed c.nValue).toInt, (tiltSpeed c.nValue).toInt)
  else none

@[mk_iff]
structure SpeedBytes (speeds : Int × Int) (r : Control) : Prop where
  pan : speeds.1.natAbs ≤ 10 → r.bData1.toNat = speeds.1.natAbs * 255 / 10
  tilt : speeds.2.natAbs ≤ 10 → r.bData2.toNat = speeds.2.natAbs * 255 / 10

/-- Faster speeds up to 10 have no smaller bytes. -/
structure SpeedMono (p q : Int × Int) (r r' : Control) : Prop where
  pan : p.1.natAbs ≤ q.1.natAbs → q.1.natAbs ≤ 10 → r.bData1 ≤ r'.bData1
  tilt : p.2.natAbs ≤ q.2.natAbs → q.2.natAbs ≤ 10 → r.bData2 ≤ r'.bData2

/-- The same request is sent after both histories, with the directions and the speeds of its
arguments, and no slower for a faster command. -/
structure DependsOnArguments (h h' : List Input) (c : Call) : Prop where
  same : request (ptzSpeedAfter h) c = request (ptzSpeedAfter h') c
  directions : c.bCmdType = 7 → (control (ptzSpeedAfter h) c).bCmdType =
    signBits (panSpeed c.nValue).toInt (tiltSpeed c.nValue).toInt
  speeds : ∀ p, c.speeds = some p → SpeedBytes p (control (ptzSpeedAfter h) c)
  mono : c.bCmdType = 7 → ∀ d : Call, d.bCmdType = 7 → ∀ p q, c.speeds = some p →
    d.speeds = some q →
    SpeedMono p q (control (ptzSpeedAfter h) c) (control (ptzSpeedAfter h') d)

/-- A single direction: the first calls of both histories had one speed, and it was that of the
command. -/
def SpeedFits (h h' : List Input) (c : Call) : Prop :=
  c.Single →
    speedByte (firstCall h c).nValue = speedByte (firstCall h' c).nValue ∧
      (c.nValue.toInt.natAbs ≤ 10 →
        (speedByte (firstCall h c).nValue).toNat = c.nValue.toInt.natAbs * 255 / 10)

theorem speeds_panTilt {c : Call} (hc : c.bCmdType = 7) :
    c.speeds = some ((panSpeed c.nValue).toInt, (tiltSpeed c.nValue).toInt) := by
  simp [Call.speeds, hc]

theorem speedBytes_panTilt {c : Call} (hc : c.bCmdType = 7) (ptzSpeed : Option UInt8) {p : Int × Int}
    (hp : c.speeds = some p) : SpeedBytes p (control ptzSpeed c) := by
  rw [speeds_panTilt hc] at hp
  cases hp
  rw [control_panTilt hc]
  exact ⟨gbSpeed_toNat, gbSpeed_toNat⟩

theorem speedBytes_single {c : Call} (hc : c.Single) (a : UInt8) :
    (∀ p, c.speeds = some p → SpeedBytes p (controlOf a c)) ↔
      (c.nValue.toInt.natAbs ≤ 10 → a.toNat = c.nValue.toInt.natAbs * 255 / 10) := by
  rcases hc with hc | hc | hc | hc <;>
    simp [Call.speeds, hc, speedBytes_iff, controlOf]

theorem panTilt_mono {c d : Call} (hc : c.bCmdType = 7) (hd : d.bCmdType = 7)
    (a b : Option UInt8) {p q : Int × Int} (hp : c.speeds = some p) (hq : d.speeds = some q) :
    SpeedMono p q (control a c) (control b d) := by
  obtain ⟨hc1, hc2⟩ := speedBytes_panTilt hc a hp
  obtain ⟨hd1, hd2⟩ := speedBytes_panTilt hd b hq
  constructor
  case pan =>
    intro hle h10
    have hpan := hc1 (by omega)
    have hpan' := hd1 h10
    apply UInt8.le_iff_toNat_le.mpr
    omega
  case tilt =>
    intro hle h10
    have htilt := hc2 (by omega)
    have htilt' := hd2 h10
    apply UInt8.le_iff_toNat_le.mpr
    omega

/-- **A request depends on its arguments alone exactly when it is none of a single direction, or
the first calls had its speed.** -/
theorem dependsOnArguments_iff (h h' : List Input) (c : Call) :
    DependsOnArguments h h' c ↔ SpeedFits h h' c := by
  by_cases hc : c.Single
  · have h7 : c.bCmdType ≠ 7 := by
      rcases hc with hc | hc | hc | hc <;> rw [hc] <;> decide
    have hspeeds := speedBytes_single hc (speedByte (firstCall h c).nValue)
    constructor
    · intro hdep _
      refine ⟨?_, hspeeds.mp fun p hp => ?_⟩
      · have hsame := request_eq_iff.mp hdep.same
        rw [control, control, ptzSpeed_run, ptzSpeed_run] at hsame
        exact (controlOf_single_inj hc).mp hsame
      · rw [← ptzSpeed_run]
        exact hdep.speeds p hp
    · intro hfits
      obtain ⟨hsame, hbyte⟩ := hfits hc
      constructor
      case same =>
        rw [request_eq_iff, control, control, ptzSpeed_run, ptzSpeed_run, hsame]
      case directions => exact fun h => absurd h h7
      case speeds =>
        intro p hp
        rw [control, ptzSpeed_run]
        exact hspeeds.mpr hbyte p hp
      case mono => exact fun h => absurd h h7
  · refine iff_of_true ?_ fun hsingle => absurd hsingle hc
    constructor
    case same => exact request_eq_iff.mpr (controlOf_of_not_single hc _ _)
    case directions =>
      intro h7
      rw [control_panTilt h7]
    case speeds =>
      intro p hp
      by_cases h7 : c.bCmdType = 7
      · exact speedBytes_panTilt h7 _ hp
      · simp only [Call.Single, not_or] at hc
        simp [Call.speeds, hc, h7] at hp
    case mono =>
      intro h7 d hd p q hp hq
      exact panTilt_mono h7 hd _ _ hp hq

/-! ## A first call with another speed -/

def left (nValue : BitVec 32) : Call :=
  { pstrDeviceID := .nil, pstrChannelID := .nil, bCmdType := 1, nValue := nValue }

/-- After a first call with the speed 1 the speed 10 is sent as 25, else as 255. -/
theorem left_depends_on_history :
    (control (ptzSpeedAfter [⟨true, left 1⟩]) (left 10)).bData1 = 25 ∧
      (control (ptzSpeedAfter []) (left 10)).bData1 = 255 ∧
      ¬ DependsOnArguments [⟨true, left 1⟩] [] (left 10) := by
  refine ⟨by decide, by decide, fun h => ?_⟩
  have hsame := congrArg Control.bData1 (request_eq_iff.mp h.same)
  exact absurd hsame (by decide)

end PTZ

end GB28181.Lib
