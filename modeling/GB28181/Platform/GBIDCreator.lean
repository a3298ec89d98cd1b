import GB28181.Base.Decimal
import GB28181.Base.Map
import GB28181.Base.Run
import GB28181.Platform.XMLBodyBuilder

/-!
# Generated device IDs (`SIPCom/SipUnified.h`)

`GBID_Creator` gives out device IDs: the first ten characters of the platform's ID, a code of
three characters for the type and a running number of seven digits.  The numbers are kept for each
type, read from the settings file at a start and written to it by `SerializeToFile`.

* `getnewdeviceid`, `createSubDeviceid` — the IDs of devices and of their channels;
* `serializeToFile` — the counters go into a copy of the section of the document, so the document
  it writes has the numbers it had before (`loadGenInfo_serializeToFile`);
* `requests` — the requests of a run, each with the number it gets when every start counts on from
  the same numbers;
* `issuedIDs_eq`, `mainIDs_eq` — **the IDs of a run are those of its requests**;
* `mainIDs_nodup_iff` — no ID is given out twice **exactly when no two requests for one type code
  get the same number**; `mainIDs_nodup_of_askedOnce` — in particular when no type code is asked
  for again after a restart.
-/

set_option autoImplicit false

namespace GB28181.Platform

open GB28181.Base

/-- The enumerators of `GBDevice_T` that are used here. -/
structure GBDeviceNames where
  DEVICE : GBDevice_T
  DVR : GBDevice_T
  ENCODER : GBDevice_T
  DECODER : GBDevice_T
  NVR : GBDevice_T
  CAMERA : GBDevice_T
  IPC : GBDevice_T
  ALARM : GBDevice_T
  DISPLAY : GBDevice_T
  MAXCOUNT : GBDevice_T

/-- `id_gen_describe_t`. -/
structure IdGenDescribe where
  type_str : CStr := []
  created_cout : Nat := 0
  deriving DecidableEq

/-- `id_gen_info_t`: the numbers of the settings file. -/
structure IdGenInfo where
  b_re_create : Bool
  str_local_civil_mask : CStr
  str_last_alarm_id : CStr
  str_last_camera_id : CStr
  str_last_decord_channel_id : CStr
  str_last_decord_id : CStr
  str_last_dvr_id : CStr
  str_last_encord_id : CStr
  str_last_ipc_id : CStr
  str_last_nvr_id : CStr
  deriving DecidableEq

structure GBIDCreator where
  b_re_create : Bool := false
  m_str_civil_divisions : CStr := []
  m_strSerializeFilePath : CStr := []
  b_new_id_created : Bool := false
  m_id_gen_info : Map GBDevice_T IdGenDescribe := ∅

/-- The document of the settings file: sections with texts. -/
abbrev Json := Map CStr (Map CStr CStr)

variable (E : GBDeviceNames)

def gettypestring (dt : GBDevice_T) : CStr :=
  if dt = E.DVR then str "111"
  else if dt = E.ENCODER then str "113"
  else if dt = E.NVR then str "118"
  else if dt = E.DECODER then str "114"
  else if dt = E.CAMERA then str "131"
  else if dt = E.IPC then str "132"
  else if dt = E.DISPLAY then str "133"
  else if dt = E.ALARM then str "134"
  else []

namespace GBIDCreator

/-! ## Starting -/

def initialDeviceTypeList (g : GBIDCreator) : GBIDCreator :=
  { g with
    m_id_gen_info := [E.DEVICE, E.DVR, E.ENCODER, E.DECODER, E.NVR, E.CAMERA, E.IPC, E.ALARM,
      E.DISPLAY, E.MAXCOUNT].foldl (fun m item => m.insert item ⟨gettypestring E item, 0⟩)
      g.m_id_gen_info }

/-- `m_id_gen_info[dt].created_cout = n`. -/
def setCreated (g : GBIDCreator) (dt : GBDevice_T) (n : Nat) : GBIDCreator :=
  { g with m_id_gen_info := g.m_id_gen_info.modify dt {} fun d => { d with created_cout := n } }

/-- The texts `InitialGenInfoFromFile` reads numbers from, with the types they are for. -/
def lastIDs (p_id_info : IdGenInfo) : List (GBDevice_T × CStr) :=
  [(E.ALARM, p_id_info.str_last_alarm_id), (E.CAMERA, p_id_info.str_last_camera_id),
    (E.DISPLAY, p_id_info.str_last_decord_channel_id), (E.DECODER, p_id_info.str_last_decord_id),
    (E.DVR, p_id_info.str_last_dvr_id), (E.ENCODER, p_id_info.str_last_encord_id),
    (E.IPC, p_id_info.str_last_ipc_id), (E.NVR, p_id_info.str_last_nvr_id)]

/-- `InitialGenInfoFromFile`; a text that is no number throws. -/
def initialGenInfoFromFile (p_id_info : IdGenInfo) (g : GBIDCreator) : Option GBIDCreator :=
  if p_id_info.str_local_civil_mask ≠ g.m_str_civil_divisions then
    some { g with b_re_create := true }
  else
    (lastIDs E p_id_info).foldlM (fun g last => (stoul last.2).map (g.setCreated last.1)) g

/-- `initial` on a new creator. -/
def initial (platformid config_path : CStr) (p_id_info : IdGenInfo) : Option GBIDCreator :=
  let g : GBIDCreator := initialDeviceTypeList E { m_str_civil_divisions := platformid.take 10 }
  let g := { g with m_strSerializeFilePath := config_path, b_re_create := p_id_info.b_re_create }
  if g.b_re_create then some g else initialGenInfoFromFile E p_id_info g

/-! ## Device IDs -/

def getdeviceOrderStr (order_seq : Nat) : Option CStr := zeroPad 7 (toText order_seq)

/-- `getnewdeviceid`: the number of the type is counted up before a number too long for its field
throws. -/
def getnewdeviceid (dt : GBDevice_T) (g : GBIDCreator) : Option CStr × GBIDCreator :=
  if dt ≥ E.MAXCOUNT then (none, g)
  else
    let describe := g.m_id_gen_info.index dt {}
    let order_seq := (describe.created_cout + 1) % 2 ^ 32
    let g := g.setCreated dt order_seq
    match getdeviceOrderStr order_seq with
    | none => (none, g)
    | some order_seq_str =>
      (some (g.m_str_civil_divisions ++ describe.type_str ++ order_seq_str),
        { g with b_new_id_created := true })

def createIPCID : GBIDCreator → Option CStr × GBIDCreator := getnewdeviceid E E.IPC
def createEncoderID : GBIDCreator → Option CStr × GBIDCreator := getnewdeviceid E E.ENCODER
def createNvrID : GBIDCreator → Option CStr × GBIDCreator := getnewdeviceid E E.NVR
def createDecoderID : GBIDCreator → Option CStr × GBIDCreator := getnewdeviceid E E.DECODER
def createCameraID : GBIDCreator → Option CStr × GBIDCreator := getnewdeviceid E E.CAMERA
def createDvrID : GBIDCreator → Option CStr × GBIDCreator := getnewdeviceid E E.DVR
def createDisplayID : GBIDCreator → Option CStr × GBIDCreator := getnewdeviceid E E.DISPLAY
def createAlarmDevID : GBIDCreator → Option CStr × GBIDCreator := getnewdeviceid E E.ALARM

def createDevIDByType (gb_dev_type : GBDevice_T) : GBIDCreator → Option CStr × GBIDCreator :=
  getnewdeviceid E gb_dev_type

/-! ## Channel IDs -/

def getChildDeviceOrderStr (encoderid_dilisions channelTem : CStr) : Option CStr :=
  (zeroPad 6 channelTem).map (· ++ encoderid_dilisions)

/-- The common body of the `Create_…SubID` functions on an ID of 20 characters. -/
def createSubID (devicekind : CStr) (g : GBIDCreator) (id : CStr) (channelindex : Nat) :
    Option CStr :=
  (getChildDeviceOrderStr ((id.drop 19).take 1) (toText channelindex)).map fun order_str =>
    g.m_str_civil_divisions ++ devicekind ++ order_str

def createEncoderSubID (g : GBIDCreator) (encoderid : CStr) (channelindex : Nat) : Option CStr :=
  if encoderid.length = 20 then createSubID (str "131") g encoderid channelindex else some []

/-- `Create_CameraSubID`: it returns nothing for an ID of another length, which is undefined. -/
def createCameraSubID (g : GBIDCreator) (cameraId : CStr) (channelindex : Nat) : Option CStr :=
  if cameraId.length = 20 then createSubID (str "131") g cameraId channelindex else none

def createDecorderSubID (g : GBIDCreator) (decorderId : CStr) (channelindex : Nat) : Option CStr :=
  if decorderId.length = 20 then createSubID (str "133") g decorderId channelindex else some []

def createDvrSubID (g : GBIDCreator) (dvrId : CStr) (channelindex : Nat) : Option CStr :=
  if dvrId.length = 20 then createSubID (str "131") g dvrId channelindex else some []

/-- The text `CreateSubDeviceid` returns; `index` is passed on as an `unsigned int`. -/
def subDeviceid (g : GBIDCreator) (device_type : GBDevice_T) (deviceid : CStr)
    (index : BitVec 32) : Option CStr :=
  if device_type = E.DVR then createDvrSubID g deviceid index.toNat
  else if device_type = E.ENCODER then createEncoderSubID g deviceid index.toNat
  else if device_type = E.DECODER then createDecorderSubID g deviceid index.toNat
  else if device_type = E.CAMERA then createCameraSubID g deviceid index.toNat
  else some []

def createSubDeviceid (device_type : GBDevice_T) (deviceid : CStr) (index : BitVec 32)
    (g : GBIDCreator) : Option CStr × GBIDCreator :=
  match g.subDeviceid E device_type deviceid index with
  | none => (none, g)
  | some new_sub_id => (some new_sub_id, { g with b_new_id_created := true })

/-! ## The settings file -/

/-- `std::to_string(m_id_gen_info[dt].created_cout)`. -/
def createdText (g : GBIDCreator) (dt : GBDevice_T) : CStr :=
  toText (g.m_id_gen_info.index dt {}).created_cout

/-- The assignments of `SerializeToFile` to its `id_generator`. -/
def fillGenerator (g : GBIDCreator) (id_generator : Map CStr CStr) : Map CStr CStr :=
  [(str "civil_mask", g.m_str_civil_divisions), (str "last_ipc_id", g.createdText E.IPC),
    (str "last_dvr_id", g.createdText E.DVR), (str "last_camera_id", g.createdText E.CAMERA),
    (str "last_nvr_id", g.createdText E.NVR), (str "last_alarm_id", g.createdText E.ALARM),
    (str "last_encord_id", g.createdText E.ENCODER),
    (str "last_decord_id", g.createdText E.DECODER),
    (str "last_decord_channel_id", g.createdText E.DISPLAY)].foldl
    (fun m item => m.insert item.1 item.2) id_generator

/-- The local variables of `SerializeToFile` at its end: the document, in which
`json_info["id_generator"]` has made an entry when there was none, and `auto id_generator`, a copy
of that entry. -/
def serialized (g : GBIDCreator) (json_info : Json) : Json × Map CStr CStr :=
  (json_info.touch (str "id_generator") ∅,
    g.fillGenerator E (json_info.index (str "id_generator") ∅))

/-- `SerializeToFile`: the file after the call. -/
def serializeToFile (g : GBIDCreator) (file : Json) : Json :=
  if g.m_strSerializeFilePath = [] ∨ g.b_new_id_created = false then file
  else (g.serialized E file).1

end GBIDCreator

/-- The generator settings a start reads from its section of the document. -/
def genInfoOf (b_re_create : Bool) (id_generator : Map CStr CStr) : IdGenInfo where
  b_re_create := b_re_create
  str_local_civil_mask := id_generator.index (str "civil_mask") []
  str_last_alarm_id := id_generator.index (str "last_alarm_id") []
  str_last_camera_id := id_generator.index (str "last_camera_id") []
  str_last_decord_channel_id := id_generator.index (str "last_decord_channel_id") []
  str_last_decord_id := id_generator.index (str "last_decord_id") []
  str_last_dvr_id := id_generator.index (str "last_dvr_id") []
  str_last_encord_id := id_generator.index (str "last_encord_id") []
  str_last_ipc_id := id_generator.index (str "last_ipc_id") []
  str_last_nvr_id := id_generator.index (str "last_nvr_id") []

/-- The generator settings a start reads from the file. -/
def loadGenInfo (b_re_create : Bool) (file : Json) : IdGenInfo :=
  genInfoOf b_re_create (file.index (str "id_generator") ∅)

/-- **The file keeps its numbers**, whatever the creator has counted. -/
theorem loadGenInfo_serializeToFile (g : GBIDCreator) (b_re_create : Bool) (file : Json) :
    loadGenInfo b_re_create (g.serializeToFile E file) = loadGenInfo b_re_create file := by
  unfold GBIDCreator.serializeToFile
  split
  · rfl
  · rw [loadGenInfo, loadGenInfo, GBIDCreator.serialized, Map.index_touch]

/-! ## Runs -/

/-- The process and its settings file; there is no creator where the start threw. -/
structure IDService where
  creator : Option GBIDCreator
  file : Json

/-- What happens to the process: requests for IDs, `SerializeToFile`, a restart. -/
inductive IDEvent
  | create (gb_dev_type : GBDevice_T)
  | createSub (device_type : GBDevice_T) (deviceid : CStr) (index : BitVec 32)
  | serialize
  | restart
  deriving DecidableEq

section Runs

variable (platformid config_path : CStr)

/-- A start of the process with the file there is. -/
def startService (b_re_create : Bool) (file : Json) : IDService :=
  ⟨GBIDCreator.initial E platformid config_path (loadGenInfo b_re_create file), file⟩

/-- The process after an event; a restart makes no new IDs for old ones. -/
def IDService.step (s : IDService) : IDEvent → IDService
  | .create gb_dev_type =>
    { s with creator := s.creator.map fun g => (g.createDevIDByType E gb_dev_type).2 }
  | .createSub device_type deviceid index =>
    { s with
      creator := s.creator.map fun g => (g.createSubDeviceid E device_type deviceid index).2 }
  | .serialize => { s with file := s.creator.elim s.file fun g => g.serializeToFile E s.file }
  | .restart => startService E platformid config_path false s.file

/-- An ID that was given out; a channel's ID with the parent and the channel it is for. -/
inductive IssuedID
  | main (id : CStr)
  | sub (deviceid : CStr) (index : BitVec 32) (id : CStr)
  deriving DecidableEq

/-- A text as an ID; the empty text is none. -/
def asID (id : CStr) : Option CStr := if id = [] then none else some id

def IDService.issued (s : IDService) : IDEvent → Option IssuedID
  | .create gb_dev_type => do
    let g ← s.creator
    (g.createDevIDByType E gb_dev_type).1.map IssuedID.main
  | .createSub device_type deviceid index => do
    let g ← s.creator
    ((g.createSubDeviceid E device_type deviceid index).1.bind asID).map (.sub deviceid index)
  | .serialize => none
  | .restart => none

def issuedIDs (s : IDService) (es : List IDEvent) : List IssuedID :=
  outputs (IDService.step E platformid config_path) (IDService.issued E) s es

def mainIDs (s : IDService) (es : List IDEvent) : List CStr :=
  (issuedIDs E platformid config_path s es).filterMap fun
    | .main id => some id
    | .sub _ _ _ => none

/-! ## Requests and their numbers -/

abbrev Counts := GBDevice_T → Nat

/-- A request for an ID, that for a main ID with its number. -/
inductive Request
  | main (gb_dev_type : GBDevice_T) (number : Nat)
  | sub (device_type : GBDevice_T) (deviceid : CStr) (index : BitVec 32)
  deriving DecidableEq

/-- The numbers a start counts on from: those of the settings, or 0 when the IDs are created again
or were those of another place. -/
def startCounts (p_id_info : IdGenInfo) : Option Counts :=
  if p_id_info.b_re_create = true ∨ p_id_info.str_local_civil_mask ≠ platformid.take 10 then
    some fun _ => 0
  else
    (GBIDCreator.lastIDs E p_id_info).foldlM
      (fun counts last => (stoul last.2).map (Function.update counts last.1)) fun _ => 0

def Counts.next (counts : Counts) (dt : GBDevice_T) : Nat := (counts dt + 1) % 2 ^ 32

/-- The requests of a run in which every restart counts on from `again`. -/
def requests (again : Option Counts) : Option Counts → List IDEvent → List Request
  | _, [] => []
  | _, .restart :: es => requests again again es
  | counts, .serialize :: es => requests again counts es
  | none, _ :: es => requests again none es
  | some counts, .createSub device_type deviceid index :: es =>
    .sub device_type deviceid index :: requests again (some counts) es
  | some counts, .create dt :: es =>
    if dt ≥ E.MAXCOUNT then requests again (some counts) es
    else .main dt (counts.next dt) ::
      requests again (some (Function.update counts dt (counts.next dt))) es

/-- The requests of a run from a start with the file. -/
def requestsFrom (b_re_create : Bool) (file : Json) (es : List IDEvent) : List Request :=
  requests E (startCounts E platformid (loadGenInfo false file))
    (startCounts E platformid (loadGenInfo b_re_create file)) es

def Request.issued (civil : CStr) : Request → Option IssuedID
  | .main dt number =>
    (GBIDCreator.getdeviceOrderStr number).map fun order_seq_str =>
      .main (civil ++ gettypestring E dt ++ order_seq_str)
  | .sub device_type deviceid index =>
    ((({ m_str_civil_divisions := civil } : GBIDCreator).subDeviceid E device_type deviceid
      index).bind asID).map fun id => .sub deviceid index id

end Runs

/-! ## A run and its requests -/

/-- The creator stands at the given numbers. -/
structure Tracks (civil : CStr) (g : GBIDCreator) (counts : Counts) : Prop where
  civil_eq : g.m_str_civil_divisions = civil
  type_eq : ∀ dt, (g.m_id_gen_info.index dt {}).type_str = gettypestring E dt
  count_eq : ∀ dt, (g.m_id_gen_info.index dt {}).created_cout = counts dt

namespace GBIDCreator

variable {E} {civil : CStr} {g : GBIDCreator} {counts : Counts}

theorem index_setCreated (g : GBIDCreator) (dt x : GBDevice_T) (n : Nat) :
    (g.setCreated dt n).m_id_gen_info.index x {} =
      if x = dt then { g.m_id_gen_info.index dt {} with created_cout := n }
      else g.m_id_gen_info.index x {} := by
  rw [setCreated, Map.index, Map.lookup_modify]
  split
  · rfl
  · rfl

theorem tracks_setCreated (h : Tracks E civil g counts) (dt : GBDevice_T) (n : Nat) :
    Tracks E civil (g.setCreated dt n) (Function.update counts dt n) where
  civil_eq := h.civil_eq
  type_eq x := by
    rw [index_setCreated]
    split
    · rename_i hx
      rw [hx]
      exact h.type_eq dt
    · exact h.type_eq x
  count_eq x := by
    rw [index_setCreated]
    split
    · rename_i hx
      rw [hx, Function.update_self]
    · rename_i hx
      rw [Function.update_of_ne hx]
      exact h.count_eq x

theorem tracks_foldlM (last : List (GBDevice_T × CStr)) (h : Tracks E civil g counts) :
    Option.Rel (Tracks E civil)
      (last.foldlM (fun g last => (stoul last.2).map (g.setCreated last.1)) g)
      (last.foldlM (fun counts last => (stoul last.2).map (Function.update counts last.1))
        counts) := by
  induction last generalizing g counts with
  | nil => exact .some h
  | cons x last ih =>
    rw [List.foldlM_cons, List.foldlM_cons]
    cases stoul x.2 with
    | none => exact .none
    | some n => exact ih (tracks_setCreated h x.1 n)

theorem tracks_initialDeviceTypeList (civil : CStr) :
    Tracks E civil (initialDeviceTypeList E { m_str_civil_divisions := civil }) fun _ => 0 := by
  let names := [E.DEVICE, E.DVR, E.ENCODER, E.DECODER, E.NVR, E.CAMERA, E.IPC, E.ALARM, E.DISPLAY,
    E.MAXCOUNT]
  have hlookup : ∀ dt,
      (initialDeviceTypeList E { m_str_civil_divisions := civil }).m_id_gen_info.index dt {} =
        if dt ∈ names then ⟨gettypestring E dt, 0⟩ else {} := by
    intro dt
    rw [initialDeviceTypeList, Map.index, Map.lookup_foldl_insert, Finmap.lookup_empty]
    split <;> rfl
  refine ⟨rfl, fun dt => ?_, fun dt => ?_⟩
  · rw [hlookup]
    split
    · rfl
    · rename_i hnot
      -- a type that is not in the list has no code either
      simp only [names, List.mem_cons, List.not_mem_nil, or_false, not_or] at hnot
      obtain ⟨-, h1, h2, h3, h4, h5, h6, h7, h8, -⟩ := hnot
      simp only [gettypestring, h1, h2, h3, h4, h5, h6, h7, h8, if_false]
  · rw [hlookup]
    split <;> rfl

theorem tracks_initial (platformid config_path : CStr) (p_id_info : IdGenInfo) :
    Option.Rel (Tracks E (platformid.take 10)) (initial E platformid config_path p_id_info)
      (startCounts E platformid p_id_info) := by
  obtain ⟨hcivil, htype, hcount⟩ := tracks_initialDeviceTypeList (E := E) (platformid.take 10)
  unfold initial startCounts
  by_cases hre : p_id_info.b_re_create = true
  · rw [if_pos (Or.inl hre)]
    simp only [hre, if_true]
    exact .some ⟨hcivil, htype, hcount⟩
  · by_cases hmask : p_id_info.str_local_civil_mask = platformid.take 10
    · have hneither : ¬ (p_id_info.b_re_create = true ∨
          p_id_info.str_local_civil_mask ≠ platformid.take 10) := by simp [hre, hmask]
      rw [if_neg hneither]
      simp only [hre, initialGenInfoFromFile]
      rw [if_neg (not_not.mpr (hmask.trans hcivil.symm))]
      exact tracks_foldlM _ ⟨hcivil, htype, hcount⟩
    · rw [if_pos (Or.inr hmask)]
      simp only [hre, initialGenInfoFromFile]
      rw [if_pos (fun h => hmask (h.trans hcivil))]
      exact .some ⟨hcivil, htype, hcount⟩

/-- **A request for a main ID**: what it gives out, and where it leaves the creator. -/
theorem getnewdeviceid_spec (h : Tracks E civil g counts) {dt : GBDevice_T}
    (hdt : ¬ dt ≥ E.MAXCOUNT) :
    (getnewdeviceid E dt g).1 =
        (getdeviceOrderStr (counts.next dt)).map (civil ++ gettypestring E dt ++ ·) ∧
      Tracks E civil (getnewdeviceid E dt g).2
        (Function.update counts dt (counts.next dt)) := by
  have hset := tracks_setCreated h dt (counts.next dt)
  unfold getnewdeviceid
  rw [if_neg hdt]
  have hnext : (counts dt + 1) % 2 ^ 32 = counts.next dt := rfl
  simp only [h.type_eq, h.count_eq, hnext]
  cases getdeviceOrderStr (counts.next dt) with
  | none => exact ⟨rfl, hset⟩
  | some order_seq_str =>
    refine ⟨?_, hset.civil_eq, hset.type_eq, hset.count_eq⟩
    rw [hset.civil_eq]
    rfl

theorem createSubDeviceid_spec (h : Tracks E civil g counts) (device_type : GBDevice_T)
    (deviceid : CStr) (index : BitVec 32) :
    (g.createSubDeviceid E device_type deviceid index).1 =
        ({ m_str_civil_divisions := civil } : GBIDCreator).subDeviceid E device_type deviceid
          index ∧
      Tracks E civil (g.createSubDeviceid E device_type deviceid index).2 counts := by
  have hsub : g.subDeviceid E device_type deviceid index =
      ({ m_str_civil_divisions := civil } : GBIDCreator).subDeviceid E device_type deviceid
        index := by
    simp only [subDeviceid, createDvrSubID, createEncoderSubID, createDecorderSubID,
      createCameraSubID, createSubID, h.civil_eq]
  unfold createSubDeviceid
  rw [hsub]
  cases ({ m_str_civil_divisions := civil } : GBIDCreator).subDeviceid E device_type deviceid
      index with
  | none => exact ⟨rfl, h⟩
  | some id => exact ⟨rfl, h.civil_eq, h.type_eq, h.count_eq⟩

end GBIDCreator

section Runs

variable (platformid config_path : CStr)

/-- **The IDs of a run are those of its requests.** -/
theorem issuedIDs_eq {again : Option Counts} (es : List IDEvent) {s : IDService}
    {counts : Option Counts}
    (hcreator : Option.Rel (Tracks E (platformid.take 10)) s.creator counts)
    (hfile : startCounts E platformid (loadGenInfo false s.file) = again) :
    issuedIDs E platformid config_path s es =
      (requests E again counts es).filterMap (Request.issued E (platformid.take 10)) := by
  induction es generalizing s counts with
  | nil => rfl
  | cons e es ih =>
    rw [issuedIDs, outputs_cons, ← issuedIDs]
    cases e with
    | restart =>
      rw [requests]
      refine ih ?_ hfile
      rw [← hfile]
      exact GBIDCreator.tracks_initial (E := E) platformid config_path (loadGenInfo false s.file)
    | serialize =>
      rw [requests]
      refine ih hcreator ?_
      cases hs : s.creator with
      | none => simpa [IDService.step, hs] using hfile
      | some g => simpa [IDService.step, hs, loadGenInfo_serializeToFile] using hfile
    | create dt =>
      obtain ⟨creator, file⟩ := s
      cases hcreator with
      | none => exact ih .none hfile
      | @some g counts htracks =>
        rw [requests]
        split
        · rename_i hmax
          have hthrows : GBIDCreator.getnewdeviceid E dt g = (none, g) := if_pos hmax
          refine Eq.trans ?_ (ih (s := ⟨some g, file⟩) (.some htracks) hfile)
          simp [IDService.issued, IDService.step, GBIDCreator.createDevIDByType, hthrows]
        · rename_i hmax
          obtain ⟨hid, hnext⟩ := GBIDCreator.getnewdeviceid_spec htracks hmax
          rw [filterMap_cons_append, ← ih (s := ⟨_, file⟩) (.some hnext) hfile]
          congr 2
          simp [IDService.issued, GBIDCreator.createDevIDByType, hid, Request.issued,
            Function.comp_def]
    | createSub device_type deviceid index =>
      obtain ⟨creator, file⟩ := s
      cases hcreator with
      | none => exact ih .none hfile
      | @some g counts htracks =>
        obtain ⟨hid, hnext⟩ := GBIDCreator.createSubDeviceid_spec htracks device_type deviceid index
        rw [requests, filterMap_cons_append, ← ih (s := ⟨_, file⟩) (.some hnext) hfile]
        congr 2
        simp [IDService.issued, hid, Request.issued]

def Request.mainID (civil : CStr) : Request → Option CStr
  | .main dt number =>
    (GBIDCreator.getdeviceOrderStr number).map (civil ++ gettypestring E dt ++ ·)
  | .sub _ _ _ => none

theorem mainIDs_eq (b_re_create : Bool) (file : Json) (es : List IDEvent) :
    mainIDs E platformid config_path (startService E platformid config_path b_re_create file) es =
      (requestsFrom E platformid b_re_create file es).filterMap
        (Request.mainID E (platformid.take 10)) := by
  have hstart := GBIDCreator.tracks_initial (E := E) platformid config_path
    (loadGenInfo b_re_create file)
  rw [mainIDs, issuedIDs_eq E platformid config_path es hstart rfl, List.filterMap_filterMap]
  refine List.filterMap_congr fun r _ => ?_
  cases r with
  | main dt number =>
    rw [Request.issued, Request.mainID, Option.bind_map]
    cases GBIDCreator.getdeviceOrderStr number <;> rfl
  | sub device_type deviceid index =>
    rw [Request.issued, Request.mainID, Option.bind_map]
    cases Option.bind _ asID <;> rfl

/-- The two requests are not for one type code with one number of at most seven digits. -/
def NumbersApart : Request → Request → Prop
  | .main dt number, .main dt' number' =>
    number < 10 ^ 7 → gettypestring E dt = gettypestring E dt' → number ≠ number'
  | _, _ => True

/-- Main IDs are told apart by the code of their type and their number. -/
theorem mainID_ne_iff (civil : CStr) (r r' : Request) :
    (∀ id, r.mainID E civil = some id → ∀ id', r'.mainID E civil = some id' → id ≠ id') ↔
      NumbersApart E r r' := by
  cases r with
  | sub _ _ _ => exact iff_of_true (fun id hid => nomatch hid) trivial
  | main dt n =>
    cases r' with
    | sub _ _ _ => exact iff_of_true (fun id _ id' hid' => nomatch hid') trivial
    | main dt' n' =>
      simp only [Request.mainID, Option.map_eq_some_iff, NumbersApart]
      constructor
      · rintro h hlt hcode rfl
        have hsome := (zeroPad_toText_isSome_iff (by decide)).mpr hlt
        obtain ⟨field, hfield⟩ := Option.isSome_iff_exists.mp hsome
        exact h _ ⟨field, hfield, rfl⟩ _ ⟨field, hfield, rfl⟩ (by rw [hcode])
      · rintro h _ ⟨field, hfield, rfl⟩ _ ⟨field', hfield', rfl⟩ he
        have hlt := (zeroPad_toText_isSome_iff (by decide)).mp (Option.isSome_of_mem hfield)
        have hlen : field.length = field'.length := by
          rw [length_of_zeroPad hfield, length_of_zeroPad hfield']
        -- the fields have one length, so the IDs agree part by part
        obtain ⟨hcode, rfl⟩ := List.append_inj' he hlen
        exact h hlt (List.append_cancel_left hcode) (zeroPad_toText_inj hfield hfield')

/-- **No ID is given out twice** exactly when no two requests for one type code get the same
number.  Every restart counts on from the numbers the file had at the first start. -/
theorem mainIDs_nodup_iff (b_re_create : Bool) (file : Json) (es : List IDEvent) :
    (mainIDs E platformid config_path
        (startService E platformid config_path b_re_create file) es).Nodup ↔
      (requestsFrom E platformid b_re_create file es).Pairwise (NumbersApart E) := by
  rw [mainIDs_eq, List.Nodup, List.pairwise_filterMap]
  exact List.Pairwise.iff fun r r' => mainID_ne_iff E (platformid.take 10) r r'

/-- A request for a type code is neither one of another type with that code, nor one with a restart
between them. -/
def AskedOnce (es : List IDEvent) : Prop :=
  ∀ pre dt mid dt' post, es = pre ++ .create dt :: mid ++ .create dt' :: post →
    gettypestring E dt = gettypestring E dt' → dt = dt' ∧ .restart ∉ mid

variable {E} {again : Option Counts} {dt : GBDevice_T} {number : Nat}

theorem AskedOnce.tail {e : IDEvent} {es : List IDEvent} (h : AskedOnce E (e :: es)) :
    AskedOnce E es := by
  rintro pre dt mid dt' post rfl
  exact h (e :: pre) dt mid dt' post rfl

theorem create_of_mem_requests {counts : Option Counts} {es : List IDEvent}
    (h : .main dt number ∈ requests E again counts es) : .create dt ∈ es := by
  fun_induction requests E again counts es with
  | case1 => cases h
  | case2 _ es ih => exact List.mem_cons_of_mem _ (ih h)
  | case3 counts es ih => exact List.mem_cons_of_mem _ (ih h)
  | case4 e es _ _ ih => exact List.mem_cons_of_mem _ (ih h)
  | case5 counts _ _ _ es ih =>
    rcases List.mem_cons.mp h with h | h
    · cases h
    · exact List.mem_cons_of_mem _ (ih h)
  | case6 counts _ es _ ih => exact List.mem_cons_of_mem _ (ih h)
  | case7 counts _ es _ ih =>
    rcases List.mem_cons.mp h with h | h
    · cases h
      exact List.mem_cons_self
    · exact List.mem_cons_of_mem _ (ih h)

theorem number_of_mem_requests {counts : Counts} {es : List IDEvent}
    (hrestart : ∀ mid post, es = mid ++ .create dt :: post → .restart ∉ mid)
    (h : .main dt number ∈ requests E again (some counts) es) :
    ∃ j < es.length, number = (counts dt + 1 + j) % 2 ^ 32 := by
  induction es generalizing counts with
  | nil => cases h
  | cons e es ih =>
    have htail : ∀ mid post, es = mid ++ .create dt :: post → .restart ∉ mid := by
      rintro mid post rfl hmem
      exact hrestart (e :: mid) post rfl (List.mem_cons_of_mem _ hmem)
    have hlater : ∀ {counts' : Counts}, counts' dt = counts dt →
        .main dt number ∈ requests E again (some counts') es →
          ∃ j < (e :: es).length, number = (counts dt + 1 + j) % 2 ^ 32 := by
      intro counts' hsame hmem
      obtain ⟨j, hj, hnumber⟩ := ih htail hmem
      exact ⟨j, Nat.lt_succ_of_lt hj, hsame ▸ hnumber⟩
    cases e with
    | restart =>
      have hagain : .main dt number ∈ requests E again again es := h
      obtain ⟨mid, post, rfl⟩ := List.append_of_mem (create_of_mem_requests hagain)
      exact absurd List.mem_cons_self (hrestart (.restart :: mid) post rfl)
    | serialize => exact hlater rfl h
    | createSub device_type deviceid index =>
      rcases List.mem_cons.mp h with h | h
      · cases h
      · exact hlater rfl h
    | create dt' =>
      rw [requests] at h
      split at h
      · exact hlater rfl h
      · rcases List.mem_cons.mp h with h | h
        · cases h
          exact ⟨0, Nat.succ_pos _, rfl⟩
        · by_cases hdt : dt = dt'
          · subst hdt
            obtain ⟨j, hj, hnumber⟩ := ih htail h
            refine ⟨j + 1, Nat.succ_lt_succ hj, ?_⟩
            rw [hnumber, Function.update_self, Counts.next]
            omega
          · exact hlater (Function.update_of_ne hdt _ _) h

theorem numbersApart_of_askedOnce {counts : Option Counts} {es : List IDEvent}
    (hasked : AskedOnce E es) (hlen : es.length ≤ 2 ^ 32) :
    (requests E again counts es).Pairwise (NumbersApart E) := by
  fun_induction requests E again counts es with
  | case1 => exact .nil
  | case2 _ es ih => exact ih hasked.tail (Nat.le_of_succ_le hlen)
  | case3 counts es ih => exact ih hasked.tail (Nat.le_of_succ_le hlen)
  | case4 e es _ _ ih => exact ih hasked.tail (Nat.le_of_succ_le hlen)
  | case5 counts _ _ _ es ih =>
    exact .cons (fun _ _ => trivial) (ih hasked.tail (Nat.le_of_succ_le hlen))
  | case6 counts _ es _ ih => exact ih hasked.tail (Nat.le_of_succ_le hlen)
  | case7 counts dt es _ ih =>
    refine .cons (fun r hr => ?_) (ih hasked.tail (Nat.le_of_succ_le hlen))
    cases r with
    | sub _ _ _ => trivial
    | main dt' number =>
      intro _ hcode
      obtain ⟨mid, post, hsplit⟩ := List.append_of_mem (create_of_mem_requests hr)
      obtain ⟨rfl, -⟩ := hasked [] dt mid dt' post (by rw [hsplit]; rfl) hcode
      obtain ⟨j, hj, hnumber⟩ := number_of_mem_requests (fun mid post hsplit =>
        (hasked [] dt mid dt post (by rw [hsplit]; rfl) rfl).2) hr
      rw [hnumber, Function.update_self, Counts.next]
      rw [List.length_cons] at hlen
      omega

/-- **No ID is given out twice** where no type code is asked for again after a restart, nor by two
types, and the numbers do not run over. -/
theorem mainIDs_nodup_of_askedOnce (b_re_create : Bool) (file : Json) {es : List IDEvent}
    (hasked : AskedOnce E es) (hlen : es.length ≤ 2 ^ 32) :
    (mainIDs E platformid config_path
      (startService E platformid config_path b_re_create file) es).Nodup :=
  (mainIDs_nodup_iff E platformid config_path b_re_create file es).mpr
    (numbersApart_of_askedOnce hasked hlen)

end Runs

def sampleNames : GBDeviceNames := ⟨0, 1, 2, 3, 4, 5, 6, 7, 8, 9⟩

/-- A settings file of the place 3402000000 in which no ID was given out yet. -/
def sampleSettings : Json :=
  (∅ : Json).insert (str "id_generator")
    ([str "last_alarm_id", str "last_camera_id", str "last_decord_channel_id",
      str "last_decord_id", str "last_dvr_id", str "last_encord_id", str "last_ipc_id",
      str "last_nvr_id"].foldl (fun m key => m.insert key (str "0"))
      ((∅ : Map CStr CStr).insert (str "civil_mask") (str "3402000000")))

/-- A camera made before a restart and one made after it get the same ID, although the numbers
were saved in between. -/
theorem restart_reissues :
    ¬ (mainIDs sampleNames (str "34020000002000000001") (str "devinfo.json")
        (startService sampleNames (str "34020000002000000001") (str "devinfo.json") false
          sampleSettings)
        [.create sampleNames.IPC, .serialize, .restart, .create sampleNames.IPC]).Nodup := by
  rw [mainIDs_eq]
  decide

end GB28181.Platform
