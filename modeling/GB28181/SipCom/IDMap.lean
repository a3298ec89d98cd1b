import GB28181.Base.CString
import GB28181.Base.Run

/-!
# Call and play maps (`SipServiceCom/IDMap.cpp`)

`CIDMap` keeps two lists.  Entries go to the back without a look at what is there; lookups and
deletions take the first entry with the key.

* `find_eraseP_none_iff` — what a deletion of the first match leaves to be found;
* `forgets_iff` — over every run, a deletion makes its key unknown and a call just created is
  found **exactly when the key is not there twice**, or was created with the same numbers.
-/

set_option autoImplicit false

namespace GB28181.SipCom

open GB28181.Base

/-! ## First matches -/

section FirstMatch

variable {α : Type} (p : α → Bool) (l : List α)

/-- After the first match is gone nothing is found exactly when there was no second. -/
theorem find_eraseP_none_iff : (l.eraseP p).find? p = none ↔ l.countP p ≤ 1 := by
  induction l with
  | nil => simp
  | cons a l ih =>
    cases ha : p a with
    | true =>
      have hnone : l.find? p = none ↔ l.countP p = 0 := by
        rw [List.find?_eq_none, List.countP_eq_zero]
      rw [List.eraseP_cons_of_pos ha, List.countP_cons_of_pos ha, hnone]
      omega
    | false =>
      have ha' : ¬ p a = true := by rw [ha]; exact Bool.false_ne_true
      rw [List.eraseP_cons_of_neg ha', List.countP_cons_of_neg ha', List.find?_cons_of_neg ha', ih]

end FirstMatch

/-! ## The lists -/

/-- `id_map_t`. -/
structure IdMap where
  strFromCallID : CStr
  nToCID : Int
  nToDID : Int
  deriving DecidableEq

/-- `id_map_paly_info_t`. -/
structure IdMapPlayInfo where
  strCameraID : CStr := []
  strDecoderID : CStr := []
  nCameraCID : Int := -1
  nCameraDID : Int := -1
  nDecoderCID : Int := -1
  nDecoderDID : Int := -1
  deriving DecidableEq

structure CIDMap where
  m_listIDMap : List IdMap := []
  m_ListPlayInfoMap : List IdMapPlayInfo := []
  deriving DecidableEq

inductive IDMapError where
  | notFoundFromid
  | notFoundToid
  | notFoundMap
  deriving DecidableEq

def isCall (strFromCallID : CStr) (e : IdMap) : Bool := e.strFromCallID == strFromCallID

/-- The entry of a camera and a decoder. -/
def isPlay (desc e : IdMapPlayInfo) : Bool :=
  e.strCameraID == desc.strCameraID && e.strDecoderID == desc.strDecoderID

def isDecoder (desc e : IdMapPlayInfo) : Bool := e.strDecoderID == desc.strDecoderID

namespace CIDMap

def getMapByFromCallID (m : CIDMap) (strFromCallID : CStr) : Option IdMap :=
  m.m_listIDMap.find? (isCall strFromCallID)

def getToID (m : CIDMap) (strFromCallID : CStr) : Except IDMapError (Int × Int) :=
  match m.m_listIDMap.find? (isCall strFromCallID) with
  | some e => .ok (e.nToCID, e.nToDID)
  | none => .error .notFoundToid

def createIDMap (m : CIDMap) (strFromCallID : CStr) (nToCID nToDID : Int) : CIDMap :=
  { m with m_listIDMap := m.m_listIDMap ++ [⟨strFromCallID, nToCID, nToDID⟩] }

def deleteMapByFromCallID (m : CIDMap) (strFromCallID : CStr) :
    Except IDMapError Unit × CIDMap :=
  match m.m_listIDMap.find? (isCall strFromCallID) with
  | some _ => (.ok (), { m with m_listIDMap := m.m_listIDMap.eraseP (isCall strFromCallID) })
  | none => (.error .notFoundMap, m)

def addPlayInfo (m : CIDMap) (descPlayInfo : IdMapPlayInfo) : CIDMap :=
  { m with m_ListPlayInfoMap := m.m_ListPlayInfoMap ++ [descPlayInfo] }

/-- The common body of the `GetPlayInfo` functions: the caller's record, which is filled from the
first entry found. -/
def getPlay (isKey : IdMapPlayInfo → Bool) (m : CIDMap) : Except IDMapError IdMapPlayInfo :=
  match m.m_ListPlayInfoMap.find? isKey with
  | some e => .ok e
  | none => .error .notFoundToid

/-- The common body of the `DelPlayInfo` functions. -/
def delPlay (isKey : IdMapPlayInfo → Bool) (m : CIDMap) :
    Except IDMapError IdMapPlayInfo × CIDMap :=
  match m.m_ListPlayInfoMap.find? isKey with
  | some e => (.ok e, { m with m_ListPlayInfoMap := m.m_ListPlayInfoMap.eraseP isKey })
  | none => (.error .notFoundMap, m)

/-- `GetPlayInfo`; the IDs it leaves in the record are those it was asked for. -/
def getPlayInfo (m : CIDMap) (desc : IdMapPlayInfo) : Except IDMapError IdMapPlayInfo :=
  getPlay (isPlay desc) m

def getPlayInfoByDecoderID (m : CIDMap) (desc : IdMapPlayInfo) :
    Except IDMapError IdMapPlayInfo := getPlay (isDecoder desc) m

def delPlayInfo (m : CIDMap) (desc : IdMapPlayInfo) : Except IDMapError IdMapPlayInfo × CIDMap :=
  delPlay (isPlay desc) m

def delPlayInfoByDecoderID (m : CIDMap) (desc : IdMapPlayInfo) :
    Except IDMapError IdMapPlayInfo × CIDMap := delPlay (isDecoder desc) m

end CIDMap

/-! ## Runs -/

inductive IDMapCall where
  | createIDMap (strFromCallID : CStr) (nToCID nToDID : Int)
  | deleteMapByFromCallID (strFromCallID : CStr)
  | addPlayInfo (desc : IdMapPlayInfo)
  | delPlayInfo (desc : IdMapPlayInfo)
  | delPlayInfoByDecoderID (desc : IdMapPlayInfo)
  deriving DecidableEq

def idMapStep (m : CIDMap) : IDMapCall → CIDMap
  | .createIDMap k c d => m.createIDMap k c d
  | .deleteMapByFromCallID k => (m.deleteMapByFromCallID k).2
  | .addPlayInfo desc => m.addPlayInfo desc
  | .delPlayInfo desc => (m.delPlayInfo desc).2
  | .delPlayInfoByDecoderID desc => (m.delPlayInfoByDecoderID desc).2

/-- What is to hold directly after a call: a new call is found with its numbers, a key that was
deleted is not found. -/
def Remembers (m : CIDMap) : IDMapCall → Prop
  | .createIDMap k c d => (m.createIDMap k c d).getToID k = .ok (c, d)
  | .deleteMapByFromCallID k =>
    (m.deleteMapByFromCallID k).1 = .ok () →
      (m.deleteMapByFromCallID k).2.getToID k = .error .notFoundToid ∧
        (m.deleteMapByFromCallID k).2.getMapByFromCallID k = none
  | .addPlayInfo _ => True
  | .delPlayInfo desc =>
    (m.delPlayInfo desc).1.isOk →
      ∀ q : IdMapPlayInfo, q.strCameraID = desc.strCameraID →
        q.strDecoderID = desc.strDecoderID →
          (m.delPlayInfo desc).2.getPlayInfo q = .error .notFoundToid
  | .delPlayInfoByDecoderID desc =>
    (m.delPlayInfoByDecoderID desc).1.isOk →
      ∀ q : IdMapPlayInfo, q.strDecoderID = desc.strDecoderID →
        (m.delPlayInfoByDecoderID desc).2.getPlayInfoByDecoderID q = .error .notFoundToid

/-- The key of a deletion is not there twice; a call that is created is new, or the entry found
for it has the same numbers. -/
def SoleKey (m : CIDMap) : IDMapCall → Prop
  | .createIDMap k c d =>
    ∀ e, m.m_listIDMap.find? (isCall k) = some e → e.nToCID = c ∧ e.nToDID = d
  | .deleteMapByFromCallID k => m.m_listIDMap.countP (isCall k) ≤ 1
  | .addPlayInfo _ => True
  | .delPlayInfo desc => m.m_ListPlayInfoMap.countP (isPlay desc) ≤ 1
  | .delPlayInfoByDecoderID desc => m.m_ListPlayInfoMap.countP (isDecoder desc) ≤ 1

theorem getToID_eq_error_iff (m : CIDMap) (k : CStr) :
    m.getToID k = .error .notFoundToid ↔ m.m_listIDMap.find? (isCall k) = none := by
  unfold CIDMap.getToID
  cases m.m_listIDMap.find? (isCall k) with
  | none => simp
  | some e => simp

theorem getPlay_eq_error_iff (isKey : IdMapPlayInfo → Bool) (m : CIDMap) :
    CIDMap.getPlay isKey m = .error .notFoundToid ↔ m.m_ListPlayInfoMap.find? isKey = none := by
  unfold CIDMap.getPlay
  cases m.m_ListPlayInfoMap.find? isKey with
  | none => simp
  | some e => simp

/-- A new call is found with its numbers exactly when the first entry of its key has them. -/
theorem createIDMap_remembers_iff (m : CIDMap) (k : CStr) (c d : Int) :
    Remembers m (.createIDMap k c d) ↔ SoleKey m (.createIDMap k c d) := by
  unfold Remembers SoleKey CIDMap.getToID CIDMap.createIDMap
  dsimp only
  rw [List.find?_append]
  cases hf : m.m_listIDMap.find? (isCall k) with
  | none => simp [isCall]
  | some e => simp

theorem deleteMapByFromCallID_of_none {m : CIDMap} {k : CStr}
    (h : m.m_listIDMap.find? (isCall k) = none) :
    m.deleteMapByFromCallID k = (.error .notFoundMap, m) := by
  unfold CIDMap.deleteMapByFromCallID
  rw [h]

theorem deleteMapByFromCallID_of_some {m : CIDMap} {k : CStr} {e : IdMap}
    (h : m.m_listIDMap.find? (isCall k) = some e) :
    m.deleteMapByFromCallID k =
      (.ok (), { m with m_listIDMap := m.m_listIDMap.eraseP (isCall k) }) := by
  unfold CIDMap.deleteMapByFromCallID
  rw [h]

theorem countP_of_find_none {α : Type} {l : List α} {p : α → Bool} (h : l.find? p = none) :
    l.countP p ≤ 1 := by
  have hzero : l.countP p = 0 := List.countP_eq_zero.mpr (List.find?_eq_none.mp h)
  omega

theorem deleteMapByFromCallID_remembers_iff (m : CIDMap) (k : CStr) :
    Remembers m (.deleteMapByFromCallID k) ↔ SoleKey m (.deleteMapByFromCallID k) := by
  unfold Remembers SoleKey
  dsimp only
  cases hf : m.m_listIDMap.find? (isCall k) with
  | none =>
    rw [deleteMapByFromCallID_of_none hf]
    exact iff_of_true (fun h => nomatch h) (countP_of_find_none hf)
  | some e =>
    rw [deleteMapByFromCallID_of_some hf, getToID_eq_error_iff, CIDMap.getMapByFromCallID,
      find_eraseP_none_iff, and_self]
    exact ⟨fun h => h rfl, fun h _ => h⟩

/-- After a deletion nothing is found under its key exactly when the key was there once. -/
theorem delPlay_remembers_iff (isKey : IdMapPlayInfo → Bool) (m : CIDMap) :
    ((CIDMap.delPlay isKey m).1.isOk →
        CIDMap.getPlay isKey (CIDMap.delPlay isKey m).2 = .error .notFoundToid) ↔
      m.m_ListPlayInfoMap.countP isKey ≤ 1 := by
  cases hf : m.m_ListPlayInfoMap.find? isKey with
  | none =>
    have hdel : CIDMap.delPlay isKey m = (.error .notFoundMap, m) := by
      unfold CIDMap.delPlay
      rw [hf]
    rw [hdel]
    exact iff_of_true (fun h => nomatch h) (countP_of_find_none hf)
  | some e =>
    have hdel : CIDMap.delPlay isKey m =
        (.ok e, { m with m_ListPlayInfoMap := m.m_ListPlayInfoMap.eraseP isKey }) := by
      unfold CIDMap.delPlay
      rw [hf]
    rw [hdel, getPlay_eq_error_iff, find_eraseP_none_iff]
    exact ⟨fun h => h rfl, fun h _ => h⟩

/-- **One call.**  What is to hold after it holds exactly when its key stands alone. -/
theorem remembers_iff (m : CIDMap) (call : IDMapCall) : Remembers m call ↔ SoleKey m call := by
  cases call with
  | createIDMap k c d => exact createIDMap_remembers_iff m k c d
  | deleteMapByFromCallID k => exact deleteMapByFromCallID_remembers_iff m k
  | addPlayInfo desc => exact Iff.rfl
  | delPlayInfo desc =>
    -- a record with the same two IDs asks for the same entries
    have hkey : ∀ q : IdMapPlayInfo, q.strCameraID = desc.strCameraID →
        q.strDecoderID = desc.strDecoderID → isPlay q = isPlay desc := fun q hc hd => by
      funext e
      rw [isPlay, isPlay, hc, hd]
    refine Iff.trans ?_ (delPlay_remembers_iff (isPlay desc) m)
    constructor
    · intro h hok
      exact h hok desc rfl rfl
    · intro h hok q hc hd
      rw [CIDMap.getPlayInfo, hkey q hc hd]
      exact h hok
  | delPlayInfoByDecoderID desc =>
    have hkey : ∀ q : IdMapPlayInfo, q.strDecoderID = desc.strDecoderID →
        isDecoder q = isDecoder desc := fun q hd => by
      funext e
      rw [isDecoder, isDecoder, hd]
    refine Iff.trans ?_ (delPlay_remembers_iff (isDecoder desc) m)
    constructor
    · intro h hok
      exact h hok desc rfl
    · intro h hok q hd
      rw [CIDMap.getPlayInfoByDecoderID, hkey q hd]
      exact h hok

/-- **Deleted keys over a run.**  In every run from an empty map, the calls do what they are to do
exactly when every call meets a map in which its key stands alone. -/
theorem forgets_iff (is : List IDMapCall) :
    (∀ p ∈ calls idMapStep {} is, Remembers p.1 p.2) ↔
      ∀ p ∈ calls idMapStep {} is, SoleKey p.1 p.2 :=
  forall₂_congr fun p _ => remembers_iff p.1 p.2

/-- A call set up again after a lost BYE: the old numbers are found, and what was deleted is found
once more. -/
theorem recreated_call_remains :
    ¬ ∀ is : List IDMapCall, ∀ p ∈ calls idMapStep {} is, Remembers p.1 p.2 := by
  intro h
  have hdel := h [.createIDMap (str "a") 1 1, .createIDMap (str "a") 2 2,
    .deleteMapByFromCallID (str "a")]
    ({ m_listIDMap := [⟨str "a", 1, 1⟩, ⟨str "a", 2, 2⟩] }, .deleteMapByFromCallID (str "a"))
    (by decide)
  have hnone := (hdel rfl).2
  revert hnone
  decide

end GB28181.SipCom
