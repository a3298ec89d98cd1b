import Mathlib.Data.List.Forall2
import GB28181.RTSPCom.CallSetup

/-!
# The SSRC of a session (`RTSPCom/RTSPSessionBuilder.cpp`)

`GenerateSSRC` makes the SSRC of a session from its media action, a part of the gateway ID and a
counter of the builder.  It is called for a block of the pool, before `CreateLocalCall` sets the
media action, so the first digit is that of the action that stands in the block.  The counter has 32
bits, and 10000 does not divide 2^32.

* `createAll` — the sessions of a sequence of calls;
* `Lawful` — what should hold of their SSRCs;
* `stamps` — the sessions as far as the calls decide them: which number of the counter each takes,
  and its media action before and after;
* `lawful_iff` — the law holds **exactly when no block stands for another kind of action and no two
  sessions of one kind that are close have numbers with the same last digits**.
-/

set_option autoImplicit false

namespace GB28181.RTSPCom.SSRC

open GB28181.Base
open GB28181.GBUtils
open GB28181.RTSPCom.Release (OtRtsp)
open GB28181.RTSPCom.CallSetup (SDPStack)

/-! ## Data -/

inductive MediaActionT where
  | mt_real
  | mt_replay
  | mt_download
  | mt_talk
  | mt_broadcast

def MediaActionT.number : MediaActionT → Int
  | .mt_real => 0
  | .mt_replay => 1
  | .mt_download => 2
  | .mt_talk => 3
  | .mt_broadcast => 4

/-- `CRTSPSession`; in a block of the pool anything may stand for the media action. -/
structure CRTSPSession where
  eMediaActionT : Int
  szSSRC : CStr

/-- A call of the builder: the action of the message, the description in its play data, the block
that the pool gives. -/
structure Creation where
  action_rtsp : OtRtsp
  sdpStack : Option SDPStack
  block : Option CRTSPSession

structure GateWayId where
  text : CStr
  length : text.length = 20
  digits : ∀ c ∈ text, isDigit c = true

/-- The builder; `SSRC_BUF_LEN` comes from `Common` and has room for an SSRC. -/
structure CRTSPSessionBuilder where
  strGateWayId : GateWayId
  SSRC_BUF_LEN : Nat
  holdsSSRC : 10 < SSRC_BUF_LEN

inductive Fault where
  /-- A null session is written. -/
  | nullSession
  /-- `front` of an empty list. -/
  | noMedia
  /-- An element of `szMediaType` that it does not have. -/
  | outOfRange

/-! ## The functions -/

/-- `GenerateSSRC`; the counter is `m_dwSSRCBase`. -/
def generateSSRC (b : CRTSPSessionBuilder) (m_dwSSRCBase : UInt32) (pSession : CRTSPSession) :
    UInt32 × CRTSPSession :=
  let dwSSRC := m_dwSSRCBase + 1
  let strSSRC :=
    zeroPadInt 1 (if MediaActionT.mt_real.number = pSession.eMediaActionT then 0 else 1) ++
      (b.strGateWayId.text.drop 3).take 5 ++ zeroPadInt 4 (dwSSRC.toNat % 10000 : Nat)
  (dwSSRC, { pSession with szSSRC := stringCpy_s b.SSRC_BUF_LEN strSSRC })

/-- `CreateRealRTSPSession`, from the block on. -/
def createRealRTSPSession (b : CRTSPSessionBuilder) (m_dwSSRCBase : UInt32) :
    Option CRTSPSession → UInt32 × Option CRTSPSession
  | none => (m_dwSSRCBase, none)
  | some pSession =>
    let (m_dwSSRCBase, pSession) := generateSSRC b m_dwSSRCBase pSession
    (m_dwSSRCBase, some pSession)

/-- The media action by the name of the session; another name leaves it as it is. -/
def mediaAction (session_name : CStr) (eMediaActionT : Int) : Int :=
  if stricmpEq session_name (str "play") then MediaActionT.mt_real.number
  else if stricmpEq session_name (str "playback") then MediaActionT.mt_replay.number
  else if stricmpEq session_name (str "Download") then MediaActionT.mt_download.number
  else if stricmpEq session_name (str "talk") then MediaActionT.mt_talk.number
  else eMediaActionT

/-- The elements of `szMediaType`. -/
def inMediaType (eMediaActionT : Int) : Prop := 0 ≤ eMediaActionT ∧ eMediaActionT < 3

instance (eMediaActionT : Int) : Decidable (inMediaType eMediaActionT) :=
  inferInstanceAs (Decidable (_ ∧ _))

def createLocalCall (b : CRTSPSessionBuilder) (m_dwSSRCBase : UInt32) (c : Creation) :
    UInt32 × Except Fault (Option CRTSPSession) :=
  let (m_dwSSRCBase, pSession) := createRealRTSPSession b m_dwSSRCBase c.block
  (m_dwSSRCBase,
    if OtRtsp.record_start.number > c.action_rtsp.number then
      match c.sdpStack with
      | none => .ok none
      | some sdpStack =>
        match pSession with
        | none => .error .nullSession
        | some pSession =>
          let eMediaActionT := mediaAction sdpStack.session_name pSession.eMediaActionT
          if sdpStack.media_list = [] then .error .noMedia
          else if inMediaType eMediaActionT then
            .ok (some { pSession with eMediaActionT := eMediaActionT })
          else .error .outOfRange
    else .ok pSession)

/-- The sessions of one call after the other; a fault ends the process. -/
def createAll (b : CRTSPSessionBuilder) : UInt32 → List Creation → List CRTSPSession
  | _, [] => []
  | m_dwSSRCBase, c :: cs =>
    match createLocalCall b m_dwSSRCBase c with
    | (_, .error _) => []
    | (m_dwSSRCBase, .ok pSession) => pSession.toList ++ createAll b m_dwSSRCBase cs

/-! ## The law -/

def IsReal (eMediaActionT : Int) : Prop := MediaActionT.mt_real.number = eMediaActionT

instance (eMediaActionT : Int) : Decidable (IsReal eMediaActionT) :=
  inferInstanceAs (Decidable (_ = _))

/-- The SSRCs have ten digits, the first of them tells real-time play, the next five are those of
the gateway, and no two of 10000 sessions have the same. -/
structure Lawful (strGateWayId : GateWayId) (sessions : List CRTSPSession) : Prop where
  digits : ∀ s ∈ sessions, s.szSSRC.length = 10 ∧ ∀ c ∈ s.szSSRC, isDigit c = true
  kind : ∀ s ∈ sessions, s.szSSRC.head? = some 0x30 ↔ IsReal s.eMediaActionT
  realm : ∀ s ∈ sessions, (s.szSSRC.drop 1).take 5 = (strGateWayId.text.drop 3).take 5
  apart : ∀ i j s t, i < j → j < i + 10000 → sessions[i]? = some s → sessions[j]? = some t →
    s.szSSRC ≠ t.szSSRC

/-- A session as far as the calls decide it: how many numbers were taken with it, the media action
in its block, its own. -/
structure Stamp where
  number : Nat
  before : Int
  eMediaActionT : Int

/-- What a call comes to, behind `k` numbers. -/
def Creation.stamp (c : Creation) (k : Nat) : Except Fault (Option Stamp) :=
  match c.block with
  | none =>
    if OtRtsp.record_start.number > c.action_rtsp.number ∧ c.sdpStack.isSome = true then
      .error .nullSession
    else .ok none
  | some block =>
    if OtRtsp.record_start.number > c.action_rtsp.number then
      match c.sdpStack with
      | none => .ok none
      | some sdpStack =>
        let eMediaActionT := mediaAction sdpStack.session_name block.eMediaActionT
        if sdpStack.media_list = [] then .error .noMedia
        else if inMediaType eMediaActionT then
          .ok (some ⟨k + 1, block.eMediaActionT, eMediaActionT⟩)
        else .error .outOfRange
    else .ok (some ⟨k + 1, block.eMediaActionT, block.eMediaActionT⟩)

/-- The sessions that are built behind `k` numbers. -/
def stamps : Nat → List Creation → List Stamp
  | _, [] => []
  | k, c :: cs =>
    match c.stamp k with
    | .error _ => []
    | .ok s => s.toList ++ stamps (if c.block.isSome = true then k + 1 else k) cs

/-- The numbers at two places of the counter have the same last four digits: every 2^32 numbers the
counter starts again, 7296 behind a multiple of 10000. -/
def SameDigits (m_dwSSRCBase : UInt32) (k m : Nat) : Prop :=
  (m - k) % 10000 =
    7296 * ((m_dwSSRCBase.toNat + m) / 2 ^ 32 - (m_dwSSRCBase.toNat + k) / 2 ^ 32) % 10000

/-- The blocks stand for the right actions, and sessions of one kind that are close have different
last digits. -/
structure Fits (m_dwSSRCBase : UInt32) (built : List Stamp) : Prop where
  kind : ∀ s ∈ built, IsReal s.before ↔ IsReal s.eMediaActionT
  apart : ∀ i j s t, i < j → j < i + 10000 → built[i]? = some s → built[j]? = some t →
    (IsReal s.eMediaActionT ↔ IsReal t.eMediaActionT) →
    ¬ SameDigits m_dwSSRCBase s.number t.number

/-! ## The sessions that are built -/

section built

variable (b : CRTSPSessionBuilder) (m_dwSSRCBase : UInt32)

def ssrcText (strGateWayId : GateWayId) (eMediaActionT : Int) (dwSSRC : UInt32) : CStr :=
  zeroPadInt 1 (if MediaActionT.mt_real.number = eMediaActionT then 0 else 1) ++
    (strGateWayId.text.drop 3).take 5 ++ zeroPadInt 4 (dwSSRC.toNat % 10000 : Nat)

def Stamp.session (s : Stamp) : CRTSPSession where
  eMediaActionT := s.eMediaActionT
  szSSRC := ssrcText b.strGateWayId s.before (m_dwSSRCBase + UInt32.ofNat s.number)

theorem kindDigit (e : Int) :
    zeroPadInt 1 (if MediaActionT.mt_real.number = e then 0 else 1) =
      [if IsReal e then 0x30 else 0x31] := by
  by_cases he : IsReal e
  · rw [if_pos he, if_pos (show MediaActionT.mt_real.number = e from he)]
    rfl
  · rw [if_neg he, if_neg (show ¬ MediaActionT.mt_real.number = e from he)]
    rfl

theorem length_realm (id : GateWayId) : ((id.text.drop 3).take 5).length = 5 := by
  simp [id.length]

theorem length_lastDigits (n : UInt32) :
    (zeroPadInt 4 (n.toNat % 10000 : Nat)).length = 4 :=
  length_zeroPadInt (by decide) (Nat.mod_lt _ (by decide))

theorem ssrcText_eq (id : GateWayId) (e : Int) (n : UInt32) :
    ssrcText id e n = (if IsReal e then 0x30 else 0x31) ::
      ((id.text.drop 3).take 5 ++ zeroPadInt 4 (n.toNat % 10000 : Nat)) := by
  rw [ssrcText, kindDigit]
  rfl

theorem length_ssrcText (id : GateWayId) (e : Int) (n : UInt32) :
    (ssrcText id e n).length = 10 := by
  rw [ssrcText_eq, List.length_cons, List.length_append, length_realm, length_lastDigits]

theorem isDigit_ssrcText (id : GateWayId) (e : Int) (n : UInt32) :
    ∀ c ∈ ssrcText id e n, isDigit c = true := by
  rw [ssrcText_eq, List.forall_mem_cons, List.forall_mem_append]
  refine ⟨?_, ?_, isDigit_zeroPadInt 4 _⟩
  · split <;> rfl
  · intro c hc
    exact id.digits c (List.mem_of_mem_drop (List.mem_of_mem_take hc))

theorem head_ssrcText (id : GateWayId) (e : Int) (n : UInt32) :
    (ssrcText id e n).head? = some 0x30 ↔ IsReal e := by
  rw [ssrcText_eq, List.head?_cons]
  by_cases he : IsReal e
  · simp [he]
  · simp [he]

theorem realm_ssrcText (id : GateWayId) (e : Int) (n : UInt32) :
    ((ssrcText id e n).drop 1).take 5 = (id.text.drop 3).take 5 := by
  rw [ssrcText_eq, List.drop_succ_cons, List.drop_zero, List.take_append_of_le_length]
  · rw [List.take_of_length_le (le_of_eq (length_realm id))]
  · rw [length_realm]

/-- SSRCs of one gateway are told apart by the kind and the last four digits. -/
theorem ssrcText_inj_iff (id : GateWayId) (e e' : Int) (n n' : UInt32) :
    ssrcText id e n = ssrcText id e' n' ↔
      (IsReal e ↔ IsReal e') ∧ n.toNat % 10000 = n'.toNat % 10000 := by
  rw [ssrcText_eq, ssrcText_eq, List.cons.injEq, List.append_cancel_left_eq]
  have hkind : ((if IsReal e then 0x30 else 0x31 : UInt8) = if IsReal e' then 0x30 else 0x31) ↔
      (IsReal e ↔ IsReal e') := by
    by_cases he : IsReal e <;> by_cases he' : IsReal e' <;> simp [he, he']
  have hlast : zeroPadInt 4 (n.toNat % 10000 : Nat) = zeroPadInt 4 (n'.toNat % 10000 : Nat) ↔
      n.toNat % 10000 = n'.toNat % 10000 := by
    constructor
    · intro h
      have := zeroPadInt_inj h
      omega
    · intro h
      rw [h]
  rw [hkind, hlast]

theorem generateSSRC_eq (pSession : CRTSPSession) :
    generateSSRC b m_dwSSRCBase pSession =
      (m_dwSSRCBase + 1, { pSession with
        szSSRC := ssrcText b.strGateWayId pSession.eMediaActionT (m_dwSSRCBase + 1) }) := by
  have hfits : b.SSRC_BUF_LEN >
      (ssrcText b.strGateWayId pSession.eMediaActionT (m_dwSSRCBase + 1)).length := by
    rw [length_ssrcText]
    exact b.holdsSSRC
  have hcopy : stringCpy_s b.SSRC_BUF_LEN
      (ssrcText b.strGateWayId pSession.eMediaActionT (m_dwSSRCBase + 1)) =
        ssrcText b.strGateWayId pSession.eMediaActionT (m_dwSSRCBase + 1) := if_pos hfits
  apply Prod.ext
  · rfl
  · exact congrArg (fun t => ({ pSession with szSSRC := t } : CRTSPSession)) hcopy

theorem next_number (k : Nat) :
    m_dwSSRCBase + UInt32.ofNat k + 1 = m_dwSSRCBase + UInt32.ofNat (k + 1) := by
  rw [UInt32.ofNat_add, UInt32.add_assoc]
  rfl

/-- A call takes a number if it is given a block, and builds the session of its stamp. -/
theorem createLocalCall_eq (k : Nat) (c : Creation) :
    createLocalCall b (m_dwSSRCBase + UInt32.ofNat k) c =
      (m_dwSSRCBase + UInt32.ofNat (if c.block.isSome = true then k + 1 else k),
        (c.stamp k).map (Option.map (Stamp.session b m_dwSSRCBase))) := by
  obtain ⟨action_rtsp, sdpStack, block⟩ := c
  cases block with
  | none =>
    by_cases hinvite : OtRtsp.record_start.number > action_rtsp.number
    · cases sdpStack with
      | none => simp [createLocalCall, createRealRTSPSession, Creation.stamp, hinvite, Except.map]
      | some sdpStack =>
        simp [createLocalCall, createRealRTSPSession, Creation.stamp, hinvite, Except.map]
    · simp [createLocalCall, createRealRTSPSession, Creation.stamp, hinvite, Except.map]
  | some block =>
    have hreal : createRealRTSPSession b (m_dwSSRCBase + UInt32.ofNat k) (some block) =
        (m_dwSSRCBase + UInt32.ofNat (k + 1), some { block with
          szSSRC := ssrcText b.strGateWayId block.eMediaActionT
            (m_dwSSRCBase + UInt32.ofNat (k + 1)) }) := by
      rw [createRealRTSPSession, generateSSRC_eq, next_number]
    rw [createLocalCall, hreal, Creation.stamp]
    by_cases hinvite : OtRtsp.record_start.number > action_rtsp.number
    · simp only [hinvite, if_true]
      cases sdpStack with
      | none => rfl
      | some sdpStack =>
        dsimp only
        split
        · rfl
        · split
          · rfl
          · rfl
    · simp only [hinvite, if_false]
      rfl

theorem createAll_eq (k : Nat) (cs : List Creation) :
    createAll b (m_dwSSRCBase + UInt32.ofNat k) cs =
      (stamps k cs).map (Stamp.session b m_dwSSRCBase) := by
  induction cs generalizing k with
  | nil => rfl
  | cons c cs ih =>
    rw [createAll, createLocalCall_eq, stamps]
    cases hstamp : c.stamp k with
    | error e => rfl
    | ok s =>
      simp only [Except.map]
      rw [ih, List.map_append]
      cases s <;> rfl

/-- **The last digits of two numbers of the counter.** -/
theorem lastDigits_eq_iff {k m : Nat} (h : k ≤ m) :
    (m_dwSSRCBase + UInt32.ofNat k).toNat % 10000 = (m_dwSSRCBase + UInt32.ofNat m).toNat % 10000 ↔
      SameDigits m_dwSSRCBase k m := by
  have hnumber : ∀ n : Nat, (m_dwSSRCBase + UInt32.ofNat n).toNat =
      (m_dwSSRCBase.toNat + n) % 2 ^ 32 := by
    intro n
    rw [UInt32.toNat_add, UInt32.toNat_ofNat', Nat.add_mod_mod]
  rw [hnumber, hnumber, SameDigits]
  omega

end built

/-! ## Sequences of sessions -/

section sequences

variable {k : Nat}

theorem number_stamp {c : Creation} {s : Stamp} (h : c.stamp k = .ok (some s)) :
    s.number = k + 1 ∧ c.block.isSome = true := by
  unfold Creation.stamp at h
  split at h
  case h_1 =>
    split at h
    · cases h
    · cases h
  case h_2 block hblock =>
    rw [hblock]
    split at h
    · split at h
      · cases h
      · dsimp only at h
        split at h
        · cases h
        · split at h
          · cases h
            exact ⟨rfl, rfl⟩
          · cases h
    · cases h
      exact ⟨rfl, rfl⟩

theorem stamps_sorted (cs : List Creation) :
    (∀ s ∈ stamps k cs, k < s.number) ∧
      (stamps k cs).Pairwise fun s t => s.number < t.number := by
  induction cs generalizing k with
  | nil => exact ⟨nofun, List.Pairwise.nil⟩
  | cons c cs ih =>
    rw [stamps]
    cases hstamp : c.stamp k with
    | error e => exact ⟨nofun, List.Pairwise.nil⟩
    | ok s =>
      dsimp only
      cases s with
      | none =>
        obtain ⟨hlater, hsorted⟩ := @ih (if c.block.isSome = true then k + 1 else k)
        refine ⟨?_, hsorted⟩
        intro t ht
        have hlt := hlater t ht
        split at hlt <;> omega
      | some s =>
        obtain ⟨hnumber, hblock⟩ := number_stamp hstamp
        rw [if_pos hblock]
        obtain ⟨hlater, hsorted⟩ := @ih (k + 1)
        rw [Option.toList_some, List.singleton_append, List.forall_mem_cons, List.pairwise_cons,
          hnumber]
        refine ⟨⟨Nat.lt_succ_self k, ?_⟩, ⟨hlater, hsorted⟩⟩
        intro t ht
        have hlt := hlater t ht
        omega

/-- **The law holds exactly when no block stands for another kind of action and no two close
sessions of one kind have numbers with the same last digits.** -/
theorem lawful_iff (b : CRTSPSessionBuilder) (m_dwSSRCBase : UInt32) (cs : List Creation) :
    Lawful b.strGateWayId (createAll b m_dwSSRCBase cs) ↔ Fits m_dwSSRCBase (stamps 0 cs) := by
  have hzero : m_dwSSRCBase + UInt32.ofNat 0 = m_dwSSRCBase := UInt32.add_zero m_dwSSRCBase
  have hall := createAll_eq b m_dwSSRCBase 0 cs
  rw [hzero] at hall
  rw [hall]
  have hle : ∀ (i j : Nat) (s t : Stamp), i < j → (stamps 0 cs)[i]? = some s →
      (stamps 0 cs)[j]? = some t → s.number ≤ t.number := by
    intro i j s t hij hi hj
    obtain ⟨hilt, rfl⟩ := List.getElem?_eq_some_iff.mp hi
    obtain ⟨hjlt, rfl⟩ := List.getElem?_eq_some_iff.mp hj
    have hsorted : (stamps 0 cs).Pairwise fun s t => s.number < t.number := (stamps_sorted cs).2
    have hlt := List.pairwise_iff_getElem.mp hsorted i j hilt hjlt hij
    omega
  constructor
  · intro h
    have hkind : ∀ s ∈ stamps 0 cs, IsReal s.before ↔ IsReal s.eMediaActionT := by
      intro s hs
      have hfirst := h.kind _ (List.mem_map_of_mem hs)
      rwa [Stamp.session, head_ssrcText] at hfirst
    refine ⟨hkind, ?_⟩
    intro i j s t hij hclose hi hj hsame hdigits
    refine h.apart i j _ _ hij hclose (by rw [List.getElem?_map, hi]; rfl)
      (by rw [List.getElem?_map, hj]; rfl) ?_
    rw [Stamp.session, Stamp.session, ssrcText_inj_iff, hkind s (List.mem_of_getElem? hi),
      hkind t (List.mem_of_getElem? hj)]
    exact ⟨hsame, (lastDigits_eq_iff _ (hle i j s t hij hi hj)).mpr hdigits⟩
  · intro h
    constructor
    case digits =>
      rw [List.forall_mem_map]
      exact fun s _ => ⟨length_ssrcText _ _ _, isDigit_ssrcText _ _ _⟩
    case kind =>
      rw [List.forall_mem_map]
      intro s hs
      rw [Stamp.session, head_ssrcText]
      exact h.kind s hs
    case realm =>
      rw [List.forall_mem_map]
      exact fun s _ => realm_ssrcText _ _ _
    case apart =>
      intro i j s' t' hij hclose hi hj heq
      rw [List.getElem?_map] at hi hj
      obtain ⟨s, hs, rfl⟩ := Option.map_eq_some_iff.mp hi
      obtain ⟨t, ht, rfl⟩ := Option.map_eq_some_iff.mp hj
      rw [Stamp.session, Stamp.session, ssrcText_inj_iff, h.kind s (List.mem_of_getElem? hs),
        h.kind t (List.mem_of_getElem? ht)] at heq
      exact h.apart i j s t hij hclose hs ht heq.1
        ((lastDigits_eq_iff _ (hle i j s t hij hs ht)).mp heq.2)

end sequences

/-! ## A playback in a fresh block -/

def gateway : CRTSPSessionBuilder where
  strGateWayId :=
    { text := str "34020000002000000001"
      length := by decide
      digits := by decide +kernel }
  SSRC_BUF_LEN := 16
  holdsSSRC := by decide

def playback : Creation where
  action_rtsp := .play_with_sdp
  sdpStack := some
    { session_name := str "Playback"
      media_list := [⟨str "video", str "RTP/AVP", str "6000"⟩] }
  block := some { eMediaActionT := 0, szSSRC := [] }

/-- It is given the SSRC of real-time play. -/
theorem playback_real :
    ¬ ∀ cs, Lawful gateway.strGateWayId (createAll gateway 0 cs) := by
  intro h
  have hbuilt : stamps 0 [playback] = [⟨1, 0, 1⟩] := by rfl
  have hfits := (lawful_iff gateway 0 [playback]).mp (h [playback])
  rw [hbuilt] at hfits
  have hkind := hfits.kind ⟨1, 0, 1⟩ List.mem_cons_self
  exact absurd (hkind.mp rfl) (by decide)

end GB28181.RTSPCom.SSRC
