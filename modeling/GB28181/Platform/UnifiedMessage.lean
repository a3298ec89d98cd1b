import Mathlib.Data.BitVec

/-!
# The call-dialog number of a module message (`Main/UnifiedMessage.cpp`)

`nCallDialogID` names the session of a message in the platform process.

* `getDID` — the dialog number in its lower half;
* `upperHalf` — its upper half;
* `Module` — the modules a message is pushed to.
-/

set_option autoImplicit false

namespace GB28181.Platform

/-- The modules of the platform process that take messages from `CRouter::PushMsg`. -/
inductive Module where
  | SIPCOM
  | RTSPCOM
  | SDKCOM
  | DEVINFO
  | GBADAPTORCOM
deriving DecidableEq

/-- `CModMessage::GetDID`: the number masked with `0x00000000ffffffff`, returned as an `int`. -/
def getDID (nCallDialogID : BitVec 64) : BitVec 32 :=
  (nCallDialogID &&& 0x00000000ffffffff#64).setWidth 32

/-- `CModMessage::GetCallDialogID`. -/
def getCallDialogID (nCallDialogID : BitVec 64) : BitVec 64 := nCallDialogID

def upperHalf (nCallDialogID : BitVec 64) : BitVec 32 :=
  ((getCallDialogID nCallDialogID) >>> 32).setWidth 32

theorem getDID_eq (n : BitVec 64) : getDID n = n.setWidth 32 := by
  have hmask : 0x00000000ffffffff#64 = (BitVec.allOnes 32).setWidth 64 := rfl
  apply BitVec.eq_of_getLsbD_eq
  intro i hi
  have hi' : i < 64 := by omega
  unfold getDID
  rw [hmask, BitVec.getLsbD_setWidth, BitVec.getLsbD_and, BitVec.getLsbD_setWidth,
    BitVec.getLsbD_allOnes, BitVec.getLsbD_setWidth]
  simp only [hi, hi', decide_true, Bool.true_and, Bool.and_true]

end GB28181.Platform
