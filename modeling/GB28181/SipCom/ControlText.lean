import Mathlib.Algebra.GroupWithZero.Nat
import GB28181.Base.Hex

/-!
# The text of a control packet (`CSIPService::SendDeviceControl` in `SipServiceCom/SIPService.cpp`)

A command for the camera goes out as eight bytes in hexadecimal: three that are fixed, the
directions, the speeds of pan, tilt and zoom, and a checksum.

* `strPTZCmd` — the text between the `PTZCmd` tags;
* `checksumRight_iff` — the last byte is the sum of the others modulo 256 **exactly when the sum is
  less than 255**: it is taken modulo 255.
-/

set_option autoImplicit false

namespace GB28181.SipCom

open GB28181.Base

/-- The bytes of a packet that make the command. -/
structure ControlPacket where
  cmd_type : UInt8
  cData1 : UInt8
  cVerticalPace : UInt8
  cZoomPace : UInt8

namespace ControlPacket

variable (p : ControlPacket)

/-- The speed of the zoom is in the upper half of its byte. -/
def zoomByte : UInt8 := p.cZoomPace <<< 4

/-- `bPTZCmd` without its last byte. -/
def frontBytes : List UInt8 :=
  [0xa5, 0x0f, 0x01, p.cmd_type, p.cData1, p.cVerticalPace, p.zoomByte]

def frontSum : Nat := (p.frontBytes.map UInt8.toNat).sum

def bPTZCmd : List UInt8 := p.frontBytes ++ [UInt8.ofNat (p.frontSum % 0xff)]

def strPTZCmd : CStr := p.bPTZCmd.flatMap fmt02X

end ControlPacket

/-- The last byte of the text is the sum of the first seven modulo 256. -/
def ChecksumRight (strPTZCmd : CStr) : Prop :=
  hexByte (strPTZCmd.drop 14) =
    ((List.range 7).map fun k => hexByte (strPTZCmd.drop (2 * k))).sum % 256

instance (strPTZCmd : CStr) : Decidable (ChecksumRight strPTZCmd) :=
  inferInstanceAs (Decidable (_ = _))

namespace ControlPacket

variable (p : ControlPacket)

theorem length_strPTZCmd : p.strPTZCmd.length = 16 := length_flatMap_fmt02X _

theorem isHexDigit_strPTZCmd : ∀ c ∈ p.strPTZCmd, isHexDigit c = true :=
  isHexDigit_flatMap_fmt02X _

theorem frontSum_eq :
    p.frontSum = 181 + p.cmd_type.toNat + p.cData1.toNat + p.cVerticalPace.toNat +
      p.zoomByte.toNat := by
  simp only [frontSum, frontBytes, List.map_cons, List.map_nil, List.sum_cons, List.sum_nil,
    UInt8.reduceToNat]
  omega

theorem hexByte_strPTZCmd {k : Nat} {b : UInt8} (h : p.bPTZCmd[k]? = some b) :
    hexByte (p.strPTZCmd.drop (2 * k)) = b.toNat := hexByte_drop p.bPTZCmd h

/-- **The checksum.** -/
theorem checksumRight_iff : ChecksumRight p.strPTZCmd ↔ p.frontSum < 255 := by
  have hlast : hexByte (p.strPTZCmd.drop 14) = p.frontSum % 255 := by
    have := p.hexByte_strPTZCmd (k := 7) rfl
    rw [this, UInt8.toNat_ofNat', Nat.mod_eq_of_lt (by omega)]
  have hfront : ((List.range 7).map fun k => hexByte (p.strPTZCmd.drop (2 * k))).sum =
      p.frontSum := by
    have hbytes : ((List.range 7).map fun k => hexByte (p.strPTZCmd.drop (2 * k))) =
        p.frontBytes.map UInt8.toNat := by
      refine List.ext_getElem rfl fun k hk hk' => ?_
      rw [List.getElem_map, List.getElem_map, List.getElem_range]
      refine p.hexByte_strPTZCmd ?_
      rw [List.length_map] at hk'
      rw [bPTZCmd, List.getElem?_append_left hk', List.getElem?_eq_getElem hk']
    rw [hbytes]
    rfl
  have hcmd := p.cmd_type.toNat_lt
  have hpan := p.cData1.toNat_lt
  have htilt := p.cVerticalPace.toNat_lt
  have hzoom := p.zoomByte.toNat_lt
  have hsum := p.frontSum_eq
  rw [ChecksumRight, hlast, hfront]
  omega

end ControlPacket

end GB28181.SipCom
