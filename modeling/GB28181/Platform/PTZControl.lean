import GB28181.Platform.DeviceControl
import GB28181.SipCom.ControlText

/-!
# Commands for a camera (`ProcDeviceCtrl` in `SDKCom/SDKDeviceCtrlMgr.cpp`)

The text of a control packet has its directions at place 6 and its speeds at 8 and 10.
`ProcDeviceCtrl` looks for the text of one combination of directions after the other; the checksum
it does not look at.

* `ptzCommand` — the arguments of `PostPTZCommand` for a text;
* `ptzCommand_speeds` — what the text of a packet moves: nothing where the zoom goes with a
  direction;
* `packetSurvives_iff` — the packets that go through both gateways;
* `checksumHeeded_iff` — a text with a wrong checksum makes a command like any other.
-/

set_option autoImplicit false

namespace GB28181.Platform.DeviceController

open GB28181.Base GB28181.SipCom

/-! ## The command of a text -/

/-- `PTZItemID`. -/
def PTZ_LEFT : Int := 1
def PTZ_RIGHT : Int := 2
def PTZ_UP : Int := 3
def PTZ_DOWN : Int := 4
def PTZ_ZOOMOUT : Int := 5
def PTZ_ZOOMIN : Int := 6
def PTZ_STOP : Int := 153

/-- The last arguments of `PostPTZCommand`. -/
structure PTZCommand where
  nItemID : Int
  nStep : BitVec 32
  nItemID_Old : Int
  nOldStep : Int
  deriving DecidableEq

/-- The texts of the presets and of the lens, with their items. -/
def lensItems : List (CStr × Int) :=
  [(str "81", 81), (str "82", 80), (str "83", 82), (str "44", 64), (str "48", 65), (str "42", 48),
    (str "41", 49)]

/-- The texts of the directions, with `nItemID_Old`, `pan` and `title`. -/
def directions : List (CStr × Int × Int × Int) :=
  [(str "08", PTZ_UP, 0, 1), (str "04", PTZ_DOWN, 0, -1), (str "02", PTZ_LEFT, -1, 0),
    (str "01", PTZ_RIGHT, 1, 0), (str "0a", PTZ_STOP, -1, 1), (str "0A", PTZ_STOP, -1, 1),
    (str "06", PTZ_STOP, -1, -1), (str "09", PTZ_STOP, 1, 1), (str "05", PTZ_STOP, 1, -1)]

def nStepOf (nStepTmp : Nat) : Nat :=
  if nStepTmp * 9 ≥ 255 then nStepTmp * 9 / 255 else if nStepTmp = 0 then 0 else 1

/-- `nStep` of both speeds. -/
def nStepOfSpeeds (panSpeed titleSpeed : Int) : BitVec 32 :=
  ((BitVec.ofInt 32 panSpeed <<< 16) &&& 0xFFFF0000#32) |||
    (BitVec.ofInt 32 titleSpeed &&& 0xFFFF#32)

/-- The command of the directions at place 6. -/
def moveCommand (pByte : CStr) : PTZCommand :=
  let kind := (pByte.drop 6).take 2
  let panTmp := hexByte (pByte.drop 8)
  let tetilTmp := hexByte (pByte.drop 10)
  let nOldStep : Int :=
    if nStepOf tetilTmp = 0 ∧ nStepOf panTmp = 0 then 0
    else if tetilTmp * 9 ≥ 255 then nStepOf tetilTmp
    else if panTmp * 9 ≥ 255 then nStepOf panTmp
    else 4
  let (nItemID_Old, pan, title) := (directions.lookup kind).getD (PTZ_STOP, 0, 0)
  -- a direction has no step in the other one
  let nStepPan := if kind = str "08" ∨ kind = str "04" then 0 else nStepOf panTmp
  let nStepTetil := if kind = str "02" ∨ kind = str "01" then 0 else nStepOf tetilTmp
  let panSpeed := pan * nStepPan
  let titleSpeed := title * nStepTetil
  { nItemID := if panSpeed = 0 ∧ titleSpeed = 0 then PTZ_STOP else 7
    nStep := nStepOfSpeeds panSpeed titleSpeed
    nItemID_Old := nItemID_Old
    nOldStep := nOldStep }

def ptzCommand (pByte : CStr) : PTZCommand :=
  let kind := (pByte.drop 6).take 2
  if kind = str "20" then ⟨PTZ_ZOOMIN, 4, PTZ_STOP, 4⟩
  else if kind = str "10" then ⟨PTZ_ZOOMOUT, 4, PTZ_STOP, 4⟩
  else
    match lensItems.lookup kind with
    | some nItemID => ⟨nItemID, BitVec.ofNat 32 (hexByte (pByte.drop 10)), PTZ_STOP, 4⟩
    | none => moveCommand pByte

def channelLookup (pszKey : CStr) (s : CDataStore) : Bool := (s.lookupDevice pszKey).1.isSome

/-- The command that `ProcDeviceCtrl` posts for a text of the protocol; none to a device it does
not find. -/
def postedPTZ (msg : CtrlMessage) (s : CDataStore) : Option PTZCommand :=
  let strCtrlData := msg.pszCtrlCmd.map toLower
  if IsPTZ strCtrlData then
    if channelLookup msg.pszDeviceID s then some (ptzCommand strCtrlData) else none
  else none

/-! ## What a command moves -/

namespace PTZCommand

variable (cmd : PTZCommand)

/-- The speed to the right, if it is positive, or to the left. -/
def pan : Int := if cmd.nItemID = 7 then (cmd.nStep.extractLsb' 16 16).toInt else 0

def tilt : Int := if cmd.nItemID = 7 then (cmd.nStep.extractLsb' 0 16).toInt else 0

def zoom : Int :=
  if cmd.nItemID = PTZ_ZOOMIN ∨ cmd.nItemID = PTZ_ZOOMOUT then cmd.nStep.toInt else 0

end PTZCommand

/-- The directions of a byte: right, left, down, up and the two of the zoom. -/
def panBits (d : UInt8) : Int :=
  (if d &&& 0x01 ≠ 0 then 1 else 0) - (if d &&& 0x02 ≠ 0 then 1 else 0)

def tiltBits (d : UInt8) : Int :=
  (if d &&& 0x08 ≠ 0 then 1 else 0) - (if d &&& 0x04 ≠ 0 then 1 else 0)

def zoomBits (d : UInt8) : Prop := d &&& 0x30 ≠ 0

/-- No direction goes with its opposite, and the byte has no other bit. -/
def LegalDirection (d : UInt8) : Prop :=
  d < 0x40 ∧ d &&& 0x03 ≠ 0x03 ∧ d &&& 0x0c ≠ 0x0c ∧ d &&& 0x30 ≠ 0x30

instance (d : UInt8) : Decidable (zoomBits d) := inferInstanceAs (Decidable (_ ≠ _))

instance (d : UInt8) : Decidable (LegalDirection d) := inferInstanceAs (Decidable (_ ∧ _))

/-- The command moves the camera as the packet says. -/
structure Moves (p : ControlPacket) (cmd : PTZCommand) : Prop where
  pan_sign : cmd.pan ≠ 0 → cmd.pan.sign = panBits p.cmd_type
  tilt_sign : cmd.tilt ≠ 0 → cmd.tilt.sign = tiltBits p.cmd_type
  pan_zero : panBits p.cmd_type ≠ 0 → (cmd.pan = 0 ↔ p.cData1 = 0)
  tilt_zero : tiltBits p.cmd_type ≠ 0 → (cmd.tilt = 0 ↔ p.cVerticalPace = 0)
  zoom_zero : zoomBits p.cmd_type → (cmd.zoom = 0 ↔ p.zoomByte = 0)

/-- The packet has the directions of another one and no speed higher. -/
structure Slower (q p : ControlPacket) : Prop where
  cmd_type : q.cmd_type = p.cmd_type
  cData1 : q.cData1 ≤ p.cData1
  cVerticalPace : q.cVerticalPace ≤ p.cVerticalPace
  zoomByte : q.zoomByte ≤ p.zoomByte

/-- A packet goes through both gateways: its text is one of 16 digits with the right checksum, and
the command posted for it moves the camera as it says, no slower than that of a slower packet. -/
structure PacketSurvives (s : CDataStore) (pszDeviceID pszQueryType : CStr) (p : ControlPacket) :
    Prop where
  length_text : p.strPTZCmd.length = 16
  digits : ∀ c ∈ p.strPTZCmd, isHexDigit c = true
  checksum : ChecksumRight p.strPTZCmd
  posted : LegalDirection p.cmd_type →
    ∃ cmd, postedPTZ ⟨p.strPTZCmd, pszDeviceID, pszQueryType⟩ s = some cmd ∧ Moves p cmd
  monotone : LegalDirection p.cmd_type → ∀ q, Slower q p → ∀ cmd cmd',
    postedPTZ ⟨p.strPTZCmd, pszDeviceID, pszQueryType⟩ s = some cmd →
    postedPTZ ⟨q.strPTZCmd, pszDeviceID, pszQueryType⟩ s = some cmd' →
      cmd'.pan.natAbs ≤ cmd.pan.natAbs ∧ cmd'.tilt.natAbs ≤ cmd.tilt.natAbs ∧
        cmd'.zoom.natAbs ≤ cmd.zoom.natAbs

/-- A text of digits with a wrong checksum makes no command. -/
def ChecksumHeeded (s : CDataStore) (msg : CtrlMessage) : Prop :=
  (∀ c ∈ msg.pszCtrlCmd, isHexDigit c = true) → ¬ ChecksumRight msg.pszCtrlCmd →
    postedPTZ msg s = none

/-! ## The steps of a command -/

theorem nStepOf_eq_zero_iff (n : Nat) : nStepOf n = 0 ↔ n = 0 := by
  unfold nStepOf
  split
  · omega
  · split
    · rename_i hzero
      exact iff_of_true rfl hzero
    · rename_i hzero
      exact iff_of_false Nat.one_ne_zero hzero

theorem nStepOf_mono {m n : Nat} (h : m ≤ n) : nStepOf m ≤ nStepOf n := by
  unfold nStepOf
  split_ifs <;> omega

theorem nStepOf_le {n : Nat} (h : n < 256) : nStepOf n ≤ 9 := by
  unfold nStepOf
  split_ifs <;> omega

theorem toInt_low {a : Int} (h : -0x8000 ≤ a ∧ a < 0x8000) :
    ((BitVec.ofInt 32 a).setWidth 16).toInt = a := by
  rw [BitVec.toInt_setWidth, BitVec.toNat_ofInt]
  simp only [Int.bmod]
  omega

theorem nStepOfSpeeds_high (a b : Int) :
    (nStepOfSpeeds a b).extractLsb' 16 16 = (BitVec.ofInt 32 a).setWidth 16 := by
  have hhigh : ∀ i < 16, (0xFFFF0000#32).getLsbD (16 + i) = true := by decide
  have hlow : ∀ i < 16, (0xFFFF#32).getLsbD (16 + i) = false := by decide
  unfold nStepOfSpeeds
  ext i hi
  rw [BitVec.getElem_extractLsb', BitVec.getLsbD_or, BitVec.getLsbD_and, BitVec.getLsbD_and,
    hhigh i hi, hlow i hi, BitVec.getElem_setWidth, BitVec.getLsbD_shiftLeft]
  simp [show 16 + i < 32 by omega, show ¬ 16 + i < 16 by omega]

theorem nStepOfSpeeds_low (a b : Int) :
    (nStepOfSpeeds a b).extractLsb' 0 16 = (BitVec.ofInt 32 b).setWidth 16 := by
  have hhigh : ∀ i < 16, (0xFFFF0000#32).getLsbD i = false := by decide
  have hlow : ∀ i < 16, (0xFFFF#32).getLsbD i = true := by decide
  unfold nStepOfSpeeds
  ext i hi
  rw [BitVec.getElem_extractLsb', BitVec.getLsbD_or, BitVec.getLsbD_and, BitVec.getLsbD_and,
    Nat.zero_add, hhigh i hi, hlow i hi, BitVec.getElem_setWidth]
  simp

theorem speeds_of_step {cmd : PTZCommand} {a b : Int} (ha : -9 ≤ a ∧ a ≤ 9) (hb : -9 ≤ b ∧ b ≤ 9)
    (hstep : cmd.nStep = nStepOfSpeeds a b)
    (hitem : cmd.nItemID = if a = 0 ∧ b = 0 then PTZ_STOP else 7) :
    cmd.pan = a ∧ cmd.tilt = b ∧ cmd.zoom = 0 := by
  unfold PTZCommand.pan PTZCommand.tilt PTZCommand.zoom
  rw [hitem, hstep, nStepOfSpeeds_high, nStepOfSpeeds_low, toInt_low (by omega),
    toInt_low (by omega)]
  by_cases hstop : a = 0 ∧ b = 0
  · rw [if_pos hstop, hstop.1, hstop.2]
    decide
  · rw [if_neg hstop, if_pos rfl, if_pos rfl]
    exact ⟨rfl, rfl, if_neg (by decide)⟩

theorem mul_step_of_still {d : Int} {still : Prop} [Decidable still] (h : still → d = 0) {n : Nat} :
    d * ((if still then 0 else n : Nat) : Int) = d * n := by
  split
  · rename_i hstill
    rw [h hstill, Int.zero_mul, Int.zero_mul]
  · rfl

/-- **The speeds of a command** are those of its directions. -/
theorem moveCommand_speeds {pByte : CStr} {pan title : Int}
    (hdir : ((directions.lookup ((pByte.drop 6).take 2)).getD (PTZ_STOP, 0, 0)).2 = (pan, title))
    (hpan : -1 ≤ pan ∧ pan ≤ 1) (htitle : -1 ≤ title ∧ title ≤ 1)
    (hpanTmp : hexByte (pByte.drop 8) < 256) (htetilTmp : hexByte (pByte.drop 10) < 256) :
    (moveCommand pByte).pan = pan * nStepOf (hexByte (pByte.drop 8)) ∧
      (moveCommand pByte).tilt = title * nStepOf (hexByte (pByte.drop 10)) ∧
      (moveCommand pByte).zoom = 0 := by
  have hnine := nStepOf_le hpanTmp
  have hnine' := nStepOf_le htetilTmp
  -- where a step is taken away, it has no direction
  have hpanStill : (pByte.drop 6).take 2 = str "08" ∨ (pByte.drop 6).take 2 = str "04" →
      pan = 0 := by
    rintro (hkind | hkind)
    · rw [hkind] at hdir
      exact (congrArg Prod.fst hdir).symm
    · rw [hkind] at hdir
      exact (congrArg Prod.fst hdir).symm
  have htitleStill : (pByte.drop 6).take 2 = str "02" ∨ (pByte.drop 6).take 2 = str "01" →
      title = 0 := by
    rintro (hkind | hkind)
    · rw [hkind] at hdir
      exact (congrArg Prod.snd hdir).symm
    · rw [hkind] at hdir
      exact (congrArg Prod.snd hdir).symm
  have hfst := congrArg Prod.fst hdir
  have hsnd := congrArg Prod.snd hdir
  dsimp only at hfst hsnd
  have hbound : ∀ {d : Int} {n : Nat}, -1 ≤ d ∧ d ≤ 1 → n ≤ 9 → -9 ≤ d * n ∧ d * n ≤ 9 := by
    intro d n hd hn
    obtain rfl | rfl | rfl : d = -1 ∨ d = 0 ∨ d = 1 := by omega
    all_goals omega
  refine speeds_of_step (hbound hpan hnine) (hbound htitle hnine') ?_ ?_
  · simp only [moveCommand]
    rw [hfst, hsnd, mul_step_of_still hpanStill, mul_step_of_still htitleStill]
  · simp only [moveCommand]
    rw [hfst, hsnd, mul_step_of_still hpanStill, mul_step_of_still htitleStill]

/-! ## The command of a packet -/

theorem panBits_bound (d : UInt8) : -1 ≤ panBits d ∧ panBits d ≤ 1 := by
  unfold panBits
  split_ifs <;> omega

theorem tiltBits_bound (d : UInt8) : -1 ≤ tiltBits d ∧ tiltBits d ≤ 1 := by
  unfold tiltBits
  split_ifs <;> omega

/-- What the text of a byte of directions is compared with: the zoom is found where it is alone, no
lens, and no direction where the zoom goes with it. -/
def DirectionText (d : UInt8) : Prop :=
  ((fmt02X d).map toLower = str "20" ∨ (fmt02X d).map toLower = str "10" ↔
    zoomBits d ∧ panBits d = 0 ∧ tiltBits d = 0) ∧
  lensItems.lookup ((fmt02X d).map toLower) = none ∧
  ((directions.lookup ((fmt02X d).map toLower)).getD (PTZ_STOP, 0, 0)).2 =
    (if zoomBits d then (0, 0) else (panBits d, tiltBits d))

instance (d : UInt8) : Decidable (DirectionText d) := inferInstanceAs (Decidable (_ ∧ _))

/-- **The legal directions**, one by one. -/
theorem directionText_of_legal {d : UInt8} (h : LegalDirection d) : DirectionText d := by
  have hall : ∀ n < 64, LegalDirection (UInt8.ofNat n) → DirectionText (UInt8.ofNat n) := by
    decide
  have hlt : d.toNat < 64 := UInt8.lt_iff_toNat_lt.mp h.1
  have := hall d.toNat hlt
  rw [UInt8.ofNat_toNat] at this
  exact this h

section Packet

variable (p : ControlPacket)

theorem isPTZ_strPTZCmd : IsPTZ (p.strPTZCmd.map toLower) :=
  ⟨rfl, by rw [List.length_map, p.length_strPTZCmd]⟩

theorem kind_strPTZCmd :
    ((p.strPTZCmd.map toLower).drop 6).take 2 = (fmt02X p.cmd_type).map toLower := rfl

theorem hexByte_lower {k : Nat} {b : UInt8} (h : p.bPTZCmd[k]? = some b) :
    hexByte ((p.strPTZCmd.map toLower).drop (2 * k)) = b.toNat := by
  rw [← List.map_drop, hexByte_map_toLower]
  exact p.hexByte_strPTZCmd h

theorem ptzCommand_zoomin {pByte : CStr} (h : (pByte.drop 6).take 2 = str "20") :
    ptzCommand pByte = ⟨PTZ_ZOOMIN, 4, PTZ_STOP, 4⟩ := if_pos h

theorem ptzCommand_zoomout {pByte : CStr} (h : (pByte.drop 6).take 2 = str "10") :
    ptzCommand pByte = ⟨PTZ_ZOOMOUT, 4, PTZ_STOP, 4⟩ := by
  have hin : (pByte.drop 6).take 2 ≠ str "20" := by
    rw [h]
    decide
  exact (if_neg hin).trans (if_pos h)

theorem ptzCommand_move {pByte : CStr} (hin : (pByte.drop 6).take 2 ≠ str "20")
    (hout : (pByte.drop 6).take 2 ≠ str "10")
    (hlens : lensItems.lookup ((pByte.drop 6).take 2) = none) :
    ptzCommand pByte = moveCommand pByte := by
  refine (if_neg hin).trans ((if_neg hout).trans ?_)
  rw [hlens]

variable {p}

/-- **The speeds of the command** of a packet. -/
theorem ptzCommand_speeds (h : LegalDirection p.cmd_type) :
    let cmd := ptzCommand (p.strPTZCmd.map toLower)
    cmd.pan = (if zoomBits p.cmd_type then 0 else panBits p.cmd_type) * nStepOf p.cData1.toNat ∧
    cmd.tilt =
      (if zoomBits p.cmd_type then 0 else tiltBits p.cmd_type) * nStepOf p.cVerticalPace.toNat ∧
    cmd.zoom =
      if zoomBits p.cmd_type ∧ panBits p.cmd_type = 0 ∧ tiltBits p.cmd_type = 0 then 4 else 0 := by
  intro cmd
  obtain ⟨hzoom, hlens, hdir⟩ := directionText_of_legal h
  by_cases hkind : zoomBits p.cmd_type ∧ panBits p.cmd_type = 0 ∧ tiltBits p.cmd_type = 0
  · have hcmd : cmd = ⟨PTZ_ZOOMIN, 4, PTZ_STOP, 4⟩ ∨ cmd = ⟨PTZ_ZOOMOUT, 4, PTZ_STOP, 4⟩ := by
      rcases hzoom.mpr hkind with hin | hout
      · exact Or.inl (ptzCommand_zoomin hin)
      · exact Or.inr (ptzCommand_zoomout hout)
    rw [if_pos hkind, if_pos hkind.1, if_pos hkind.1, Int.zero_mul, Int.zero_mul]
    rcases hcmd with hcmd | hcmd
    · rw [hcmd]
      decide
    · rw [hcmd]
      decide
  · have hcmd : cmd = moveCommand (p.strPTZCmd.map toLower) := by
      obtain ⟨hin, hout⟩ := not_or.mp (mt hzoom.mp hkind)
      exact ptzCommand_move hin hout hlens
    have hpanTmp : hexByte ((p.strPTZCmd.map toLower).drop 8) = p.cData1.toNat :=
      hexByte_lower p (k := 4) rfl
    have htetilTmp : hexByte ((p.strPTZCmd.map toLower).drop 10) = p.cVerticalPace.toNat :=
      hexByte_lower p (k := 5) rfl
    rw [← kind_strPTZCmd] at hdir
    have hpan := panBits_bound p.cmd_type
    have htilt := tiltBits_bound p.cmd_type
    have hbytes := p.cData1.toNat_lt
    have hbytes' := p.cVerticalPace.toNat_lt
    rw [hcmd, if_neg hkind, ← hpanTmp, ← htetilTmp]
    refine moveCommand_speeds ?_ ?_ ?_ (by omega) (by omega)
    · rw [hdir]
      split <;> rfl
    · split <;> omega
    · split <;> omega

/-- When the directions of a packet fit: the zoom goes with no direction that has a speed, and is
alone exactly when it has one. -/
def DirectionFits (p : ControlPacket) : Prop :=
  zoomBits p.cmd_type →
    if panBits p.cmd_type = 0 ∧ tiltBits p.cmd_type = 0 then p.zoomByte ≠ 0
    else
      (panBits p.cmd_type ≠ 0 → p.cData1 = 0) ∧ (tiltBits p.cmd_type ≠ 0 → p.cVerticalPace = 0) ∧
        p.zoomByte = 0

theorem speed_of_bits {bits speed : Int} {v : UInt8} (hbits : -1 ≤ bits ∧ bits ≤ 1)
    (h : speed = bits * nStepOf v.toNat) :
    (speed ≠ 0 → speed.sign = bits) ∧ (bits ≠ 0 → (speed = 0 ↔ v = 0)) := by
  have hzero : nStepOf v.toNat = 0 ↔ v = 0 :=
    (nStepOf_eq_zero_iff _).trans (UInt8.toNat_inj (b := 0))
  constructor
  · intro hne
    rw [h] at hne ⊢
    have hstep : 0 < nStepOf v.toNat := Nat.pos_of_ne_zero fun he => hne (by rw [he]; simp)
    obtain rfl | rfl | rfl : bits = -1 ∨ bits = 0 ∨ bits = 1 := by omega
    · rw [Int.sign_mul, Int.sign_natCast_of_ne_zero hstep.ne']
      rfl
    · exact absurd (Int.zero_mul _) hne
    · rw [Int.sign_mul, Int.sign_natCast_of_ne_zero hstep.ne']
      rfl
  · intro hne
    rw [h, Int.mul_eq_zero, or_iff_right hne, Int.natCast_eq_zero]
    exact hzero

/-- **When the camera moves** as the packet says. -/
theorem moves_iff (h : LegalDirection p.cmd_type) :
    Moves p (ptzCommand (p.strPTZCmd.map toLower)) ↔ DirectionFits p := by
  obtain ⟨hpan, htilt, hzoom⟩ := ptzCommand_speeds h
  by_cases hz : zoomBits p.cmd_type
  · rw [if_pos hz, Int.zero_mul] at hpan htilt
    rw [DirectionFits, imp_iff_right hz]
    split
    · rename_i halone
      rw [if_pos ⟨hz, halone⟩] at hzoom
      constructor
      · intro hmoves hbyte
        exact absurd (hzoom.symm.trans ((hmoves.zoom_zero hz).mpr hbyte)) (by decide)
      · intro hbyte
        refine ⟨fun hne => absurd hpan hne, fun hne => absurd htilt hne,
          fun hne => absurd halone.1 hne, fun hne => absurd halone.2 hne, fun _ => ?_⟩
        rw [hzoom]
        exact iff_of_false (by decide) hbyte
    · rename_i hmoving
      rw [if_neg fun hall => hmoving hall.2] at hzoom
      constructor
      · intro hmoves
        exact ⟨fun hne => (hmoves.pan_zero hne).mp hpan, fun hne => (hmoves.tilt_zero hne).mp htilt,
          (hmoves.zoom_zero hz).mp hzoom⟩
      · rintro ⟨hdata, hpace, hbyte⟩
        exact ⟨fun hne => absurd hpan hne, fun hne => absurd htilt hne,
          fun hne => iff_of_true hpan (hdata hne), fun hne => iff_of_true htilt (hpace hne),
          fun _ => iff_of_true hzoom hbyte⟩
  · rw [if_neg hz] at hpan htilt
    obtain ⟨hsign, hzero⟩ := speed_of_bits (panBits_bound _) hpan
    obtain ⟨hsign', hzero'⟩ := speed_of_bits (tiltBits_bound _) htilt
    exact iff_of_true ⟨hsign, hsign', hzero, hzero', fun hbits => absurd hbits hz⟩
      fun hbits => absurd hbits hz

/-- **A slower packet** makes no faster command. -/
theorem ptzCommand_mono {q : ControlPacket} (h : LegalDirection p.cmd_type) (hq : Slower q p) :
    let cmd := ptzCommand (p.strPTZCmd.map toLower)
    let cmd' := ptzCommand (q.strPTZCmd.map toLower)
    cmd'.pan.natAbs ≤ cmd.pan.natAbs ∧ cmd'.tilt.natAbs ≤ cmd.tilt.natAbs ∧
      cmd'.zoom.natAbs ≤ cmd.zoom.natAbs := by
  intro cmd cmd'
  obtain ⟨hpan, htilt, hzoom⟩ := ptzCommand_speeds h
  obtain ⟨hpan', htilt', hzoom'⟩ := ptzCommand_speeds (p := q) (by rwa [hq.cmd_type])
  rw [hq.cmd_type] at hpan' htilt' hzoom'
  have hcData1 : q.cData1.toNat ≤ p.cData1.toNat := UInt8.le_iff_toNat_le.mp hq.cData1
  have hpace : q.cVerticalPace.toNat ≤ p.cVerticalPace.toNat :=
    UInt8.le_iff_toNat_le.mp hq.cVerticalPace
  refine ⟨?_, ?_, ?_⟩
  · rw [hpan, hpan', Int.natAbs_mul, Int.natAbs_mul]
    exact Nat.mul_le_mul_left _ (nStepOf_mono hcData1)
  · rw [htilt, htilt', Int.natAbs_mul, Int.natAbs_mul]
    exact Nat.mul_le_mul_left _ (nStepOf_mono hpace)
  · rw [hzoom, hzoom']

end Packet

/-! ## Both gateways -/

/-- When a packet fits: its sum is less than 255, and a legal direction is one that fits, for a
device that is found. -/
def PacketFits (s : CDataStore) (pszDeviceID : CStr) (p : ControlPacket) : Prop :=
  p.frontSum < 255 ∧
    (LegalDirection p.cmd_type → channelLookup pszDeviceID s = true ∧ DirectionFits p)

/-- When a text of digits fits: its checksum is right, or it is none of the protocol, or for a
device that is not found. -/
def TextFits (s : CDataStore) (msg : CtrlMessage) : Prop :=
  (∀ c ∈ msg.pszCtrlCmd, isHexDigit c = true) →
    ChecksumRight msg.pszCtrlCmd ∨ ¬ IsPTZ (msg.pszCtrlCmd.map toLower) ∨
      channelLookup msg.pszDeviceID s = false

/-- A command is posted for every text of the protocol to a device that is found. -/
theorem postedPTZ_eq_none_iff (msg : CtrlMessage) (s : CDataStore) :
    postedPTZ msg s = none ↔
      ¬ IsPTZ (msg.pszCtrlCmd.map toLower) ∨ channelLookup msg.pszDeviceID s = false := by
  unfold postedPTZ
  dsimp only
  split
  · rename_i hptz
    rw [or_iff_right (not_not.mpr hptz)]
    split
    · rename_i hfound
      exact iff_of_false nofun (by rw [hfound]; decide)
    · rename_i hfound
      exact iff_of_true rfl (Bool.eq_false_iff.mpr hfound)
  · rename_i hptz
    exact iff_of_true rfl (Or.inl hptz)

theorem postedPTZ_strPTZCmd (p : ControlPacket) (pszDeviceID pszQueryType : CStr) (s : CDataStore) :
    postedPTZ ⟨p.strPTZCmd, pszDeviceID, pszQueryType⟩ s =
      if channelLookup pszDeviceID s then some (ptzCommand (p.strPTZCmd.map toLower))
      else none := by
  unfold postedPTZ
  exact if_pos (isPTZ_strPTZCmd p)

/-- **Packets** that go through both gateways. -/
theorem packetSurvives_iff (s : CDataStore) (pszDeviceID pszQueryType : CStr) (p : ControlPacket) :
    PacketSurvives s pszDeviceID pszQueryType p ↔ PacketFits s pszDeviceID p := by
  constructor
  · intro h
    refine ⟨p.checksumRight_iff.mp h.checksum, fun hlegal => ?_⟩
    obtain ⟨cmd, hcmd, hmoves⟩ := h.posted hlegal
    rw [postedPTZ_strPTZCmd] at hcmd
    split at hcmd
    · rename_i hfound
      obtain rfl := Option.some.inj hcmd
      exact ⟨hfound, (moves_iff hlegal).mp hmoves⟩
    · cases hcmd
  · rintro ⟨hsum, hfits⟩
    refine ⟨p.length_strPTZCmd, p.isHexDigit_strPTZCmd, p.checksumRight_iff.mpr hsum,
      fun hlegal => ?_, fun hlegal q hq cmd cmd' hcmd hcmd' => ?_⟩
    · obtain ⟨hfound, hdir⟩ := hfits hlegal
      refine ⟨_, ?_, (moves_iff hlegal).mpr hdir⟩
      rw [postedPTZ_strPTZCmd, if_pos hfound]
    · obtain ⟨hfound, -⟩ := hfits hlegal
      rw [postedPTZ_strPTZCmd, if_pos hfound] at hcmd hcmd'
      obtain rfl := Option.some.inj hcmd
      obtain rfl := Option.some.inj hcmd'
      exact ptzCommand_mono hlegal hq

/-- **Texts with a wrong checksum.** -/
theorem checksumHeeded_iff (s : CDataStore) (msg : CtrlMessage) :
    ChecksumHeeded s msg ↔ TextFits s msg := by
  unfold ChecksumHeeded TextFits
  refine imp_congr_right fun _ => ?_
  rw [← or_iff_not_imp_left, postedPTZ_eq_none_iff]

/-- **Commands for a camera.**  A packet goes through both gateways exactly when it fits, and a text
with a wrong checksum makes no command exactly when it fits. -/
theorem ptz_iff (s : CDataStore) (msg : CtrlMessage) (p : ControlPacket) :
    (PacketSurvives s msg.pszDeviceID msg.pszQueryType p ↔ PacketFits s msg.pszDeviceID p) ∧
      (ChecksumHeeded s msg ↔ TextFits s msg) :=
  ⟨packetSurvives_iff s msg.pszDeviceID msg.pszQueryType p, checksumHeeded_iff s msg⟩

/-- To the right at full speed: the sum is 437, and its last byte B6 where B5 is right. -/
theorem fullSpeed_checksum :
    ¬ ∀ (s : CDataStore) (msg : CtrlMessage) (p : ControlPacket),
      PacketSurvives s msg.pszDeviceID msg.pszQueryType p ∧ ChecksumHeeded s msg := by
  intro h
  obtain ⟨hsurvives, -⟩ := h {} ⟨[], [], []⟩ ⟨0x01, 0xff, 0, 0⟩
  exact absurd ((packetSurvives_iff _ _ _ _).mp hsurvives).1 (by decide)

end GB28181.Platform.DeviceController
