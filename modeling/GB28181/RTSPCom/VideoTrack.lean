import GB28181.RTSPCom.CallSetupRuns

/-!
# The track of the video (`RTSPCom/RTSPTransMgrBase.cpp`)

`GetVideoTrack` counts the media up to the first video and takes the control with that number.
Where no medium is a video its counter stands at the last one.

* `getVideoTrackCode` — the function with its return value;
* `Chosen` — what it should give;
* `chosen_iff` — the right track is chosen **exactly when a medium is a video or there is none at
  all**.
-/

set_option autoImplicit false

namespace GB28181.RTSPCom.CallSetup

open GB28181.Base

/-- `GetVideoTrack`, with the value it returns. -/
def getVideoTrackCode (sdpStack : SDPStack) : Int × CStr :=
  match controlAt (videoIndex (-1) sdpStack.media_list) sdpStack.attribute_list with
  | some value => (0, value)
  | none => (-1, str "trackID=0")

/-- A description with one control for each medium, in their order. -/
def OneControlEach (sdpStack : SDPStack) : Prop :=
  sdpStack.controls.length = sdpStack.media_list.length

instance (sdpStack : SDPStack) : Decidable (OneControlEach sdpStack) :=
  inferInstanceAs (Decidable (_ = _))

def MediaInfo.IsVideo (m : MediaInfo) : Prop := str "video" = m.media

instance (m : MediaInfo) : Decidable m.IsVideo := inferInstanceAs (Decidable (_ = _))

/-- The control of the first video is given; or, if no medium is a video, the default. -/
structure Chosen (sdpStack : SDPStack) (r : Int × CStr) : Prop where
  video : ∀ n, sdpStack.media_list.findIdx? (fun m => m.IsVideo) = some n →
    r.1 = 0 ∧ sdpStack.controls[n]? = some r.2
  default : (∀ m ∈ sdpStack.media_list, ¬ m.IsVideo) → r = (-1, str "trackID=0")

section track

variable {sdpStack : SDPStack} {ms : List MediaInfo}

theorem videoIndex_of_none (h : ∀ m ∈ ms, ¬ m.IsVideo) (i : Int) :
    videoIndex i ms = i + ms.length := by
  induction ms generalizing i with
  | nil => simp [videoIndex]
  | cons m ms ih =>
    rw [List.forall_mem_cons] at h
    have hm : ¬ str "video" = m.media := h.1
    rw [videoIndex, if_neg hm, ih h.2, List.length_cons]
    omega

theorem controlAt_neg {i : Int} (hi : i < 0) (attribute_list : List SessionAttribute) :
    controlAt i attribute_list = none := by
  induction attribute_list generalizing i with
  | nil => rfl
  | cons a as ih =>
    have hne : ¬ 0 = i := by omega
    rw [controlAt, if_neg hne, ih hi]
    split
    · exact ih (by omega)
    · rfl

theorem getVideoTrackCode_of_index {n : Nat} {track : CStr}
    (hn : videoIndex (-1) sdpStack.media_list = n) (h : sdpStack.controls[n]? = some track) :
    getVideoTrackCode sdpStack = (0, track) := by
  rw [getVideoTrackCode, hn, controlAt_eq _ sdpStack rfl, h]

/-- **The right track is chosen exactly when a medium is a video or there is none at all.** -/
theorem chosen_iff (h : OneControlEach sdpStack) :
    Chosen sdpStack (getVideoTrackCode sdpStack) ↔
      (∃ m ∈ sdpStack.media_list, m.IsVideo) ∨ sdpStack.media_list = [] := by
  by_cases hvideo : ∃ m ∈ sdpStack.media_list, m.IsVideo
  · refine iff_of_true ?_ (Or.inl hvideo)
    constructor
    case video =>
      intro n hn
      have hlt : n < sdpStack.controls.length := by
        rw [h]
        exact (List.findIdx?_eq_some_iff_getElem.mp hn).1
      have hindex : videoIndex (-1) sdpStack.media_list = n := by
        rw [videoIndex_eq (-1) hn]
        omega
      rw [getVideoTrackCode_of_index hindex (List.getElem?_eq_getElem hlt)]
      exact ⟨rfl, List.getElem?_eq_getElem hlt⟩
    case default =>
      intro hnone
      obtain ⟨m, hm, his⟩ := hvideo
      exact absurd his (hnone m hm)
  · have hnone : ∀ m ∈ sdpStack.media_list, ¬ m.IsVideo := fun m hm his => hvideo ⟨m, hm, his⟩
    rw [or_iff_right hvideo]
    have hindex := videoIndex_of_none hnone (-1)
    constructor
    · -- the counter stands at the last medium, whose control is given
      intro hchosen
      by_contra hne
      have hpos := List.length_pos_of_ne_nil hne
      have hlt : sdpStack.media_list.length - 1 < sdpStack.controls.length := by
        rw [h]
        omega
      have hlast : videoIndex (-1) sdpStack.media_list =
          (sdpStack.media_list.length - 1 : Nat) := by
        rw [hindex]
        omega
      have hcode := hchosen.default hnone
      rw [getVideoTrackCode_of_index hlast (List.getElem?_eq_getElem hlt)] at hcode
      have hret : (0 : Int) = -1 := congrArg Prod.fst hcode
      omega
    · intro hnil
      constructor
      case video =>
        intro n hn
        rw [hnil] at hn
        cases hn
      case default =>
        intro _
        rw [getVideoTrackCode, hindex, hnil, controlAt_neg (by decide)]

end track

def soundAndVideo : SDPStack where
  media_list := [⟨str "audio", str "RTP/AVP", str "0"⟩, ⟨str "video", str "RTP/AVP", str "0"⟩]
  attribute_list := [⟨str "control", str "trackID=1"⟩, ⟨str "rtpmap", str "96 PS/90000"⟩,
    ⟨str "control", str "trackID=2"⟩]

theorem chosen_soundAndVideo : OneControlEach soundAndVideo ∧
    (Chosen soundAndVideo (getVideoTrackCode soundAndVideo) ↔
      (∃ m ∈ soundAndVideo.media_list, m.IsVideo) ∨ soundAndVideo.media_list = []) :=
  ⟨by decide, chosen_iff (by decide)⟩

def soundOnly : SDPStack where
  media_list := [⟨str "audio", str "RTP/AVP", str "0"⟩]
  attribute_list := [⟨str "control", str "trackID=1"⟩]

/-- Its sound is taken for a video. -/
theorem soundOnly_chosen :
    ¬ ∀ sdpStack, OneControlEach sdpStack → Chosen sdpStack (getVideoTrackCode sdpStack) := by
  intro h
  have hnone := (h soundOnly (by decide)).default (by decide)
  exact absurd (congrArg Prod.fst hnone) (by decide)

end GB28181.RTSPCom.CallSetup
