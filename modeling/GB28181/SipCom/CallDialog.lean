import GB28181.Platform.UnifiedMessage
import GB28181.SipCom.SipEvent

/-!
# The call-dialog number of an event (`SipServiceCom/SIPService.cpp`)

`GetCallDialogID` is to pack the call and the dialog number of an event into the 64 bits the
platform process uses as the key of its sessions.

* `getCallDialogID_eq` — what it returns is the dialog number alone, **sign extended**: the
  shifted call number is overwritten;
* `callDialogID_recovers_iff` — so the call number comes back exactly when it is the sign of the
  dialog number, and two events get one number exactly when their dialog numbers agree.
-/

set_option autoImplicit false

namespace GB28181.SipCom

open GB28181.Base
open GB28181.Platform (getDID upperHalf)

/-- `CSIPService::GetCallDialogID`, assignment by assignment. -/
def getCallDialogID (pEvent : EXosipEvent) : BitVec 64 := Id.run do
  let mut nCallDialogID : BitVec 64 := 0
  nCallDialogID := pEvent.cid.signExtend 64
  nCallDialogID := nCallDialogID <<< 32
  nCallDialogID := pEvent.did.signExtend 64
  return nCallDialogID

theorem getCallDialogID_eq (pEvent : EXosipEvent) :
    getCallDialogID pEvent = pEvent.did.signExtend 64 := rfl

/-- The number a negative or a non-negative `did` extends to in the upper half. -/
def signHalf (did : BitVec 32) : BitVec 32 := if did.msb then BitVec.allOnes 32 else 0

theorem setWidth_signExtend (x : BitVec 32) : (x.signExtend 64).setWidth 32 = x := by
  apply BitVec.eq_of_getLsbD_eq
  intro i hi
  have hi' : i < 64 := by omega
  rw [BitVec.getLsbD_setWidth, BitVec.getLsbD_signExtend]
  simp only [hi, hi', decide_true, Bool.true_and, if_true]

theorem upperHalf_signExtend (x : BitVec 32) : upperHalf (x.signExtend 64) = signHalf x := by
  apply BitVec.eq_of_getLsbD_eq
  intro i hi
  have hi' : 32 + i < 64 := by omega
  unfold upperHalf Platform.getCallDialogID signHalf
  simp only [BitVec.getLsbD_setWidth, BitVec.getLsbD_ushiftRight, BitVec.getLsbD_signExtend, hi,
    hi', decide_true, Bool.true_and]
  rw [if_neg (by omega)]
  cases x.msb with
  | false => simp
  | true => rw [if_pos rfl, BitVec.getLsbD_allOnes, decide_eq_true hi]

/-- The pair of numbers of an event comes back from the number made of it. -/
def Recovers (pEvent : EXosipEvent) : Prop :=
  getDID (getCallDialogID pEvent) = pEvent.did ∧
    upperHalf (getCallDialogID pEvent) = pEvent.cid

/-- Events with different pairs get different numbers. -/
def KeptApart (e₁ e₂ : EXosipEvent) : Prop :=
  (e₁.cid, e₁.did) ≠ (e₂.cid, e₂.did) → getCallDialogID e₁ ≠ getCallDialogID e₂

theorem getDID_getCallDialogID (pEvent : EXosipEvent) :
    getDID (getCallDialogID pEvent) = pEvent.did := by
  rw [getCallDialogID_eq, Platform.getDID_eq, setWidth_signExtend]

theorem getCallDialogID_inj_iff (e₁ e₂ : EXosipEvent) :
    getCallDialogID e₁ = getCallDialogID e₂ ↔ e₁.did = e₂.did := by
  constructor
  · intro h
    rw [← getDID_getCallDialogID e₁, h, getDID_getCallDialogID]
  · intro h
    rw [getCallDialogID_eq, getCallDialogID_eq, h]

/-- **The call number is lost.**  A pair comes back exactly when the call number is the sign
extension of the dialog number, and two events are kept apart exactly when they differ in the
dialog number or not at all. -/
theorem callDialogID_recovers_iff (e e' : EXosipEvent) :
    (Recovers e ↔ e.cid = signHalf e.did) ∧
      (KeptApart e e' ↔ (e.did = e'.did → e.cid = e'.cid)) := by
  constructor
  · unfold Recovers
    rw [getDID_getCallDialogID, getCallDialogID_eq, upperHalf_signExtend]
    exact ⟨fun h => h.2.symm, fun h => ⟨rfl, h.symm⟩⟩
  · unfold KeptApart
    rw [Ne, Ne, getCallDialogID_inj_iff, Prod.mk.injEq]
    constructor
    · intro h hdid
      by_contra hcid
      apply h _ hdid
      intro he
      exact hcid he.1
    · intro h hne hdid
      exact hne ⟨h hdid, hdid⟩

def inviteRequest : OsipMessage where
  sip_method := str "INVITE"
  req_uri := some ⟨some (str "34020000001320000001"), some (str "192.168.1.2"), some (str "5060")⟩
  from_ := some (some ⟨some (str "34020000002000000001"), some (str "192.168.1.1"), none⟩)
  to_ := some (some ⟨some (str "34020000001320000001"), some (str "192.168.1.2"), none⟩)
  cseq := str "20"
  call_id := str "1001"
  contacts := []
  headers := []
  authorizations := []
  bodies := [str "v=0"]

def callEvent (cid did : BitVec 32) : EXosipEvent where
  type := .callInvite
  request := some inviteRequest
  response := none
  ack := none
  tid := 1
  did := did
  rid := 0
  cid := cid

/-- The first dialogs of two calls collide, and neither call number comes back. -/
theorem callDialogID_collides :
    ¬ Recovers (callEvent 1 1) ∧ ¬ KeptApart (callEvent 1 1) (callEvent 2 1) := by
  unfold Recovers KeptApart
  decide

end GB28181.SipCom
