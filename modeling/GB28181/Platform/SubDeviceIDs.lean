import GB28181.Platform.GBIDCreator

/-!
# The IDs of channels

`CreateSubDeviceid` makes the ID of a channel from the place, the code of the channel's type, the
channel's number in six digits and **the last character of the parent's ID**.  Main IDs have a
number of seven digits after the same codes.

* `subDeviceid_eq_some_iff` — which requests get an ID, and which one;
* `sub_ids_eq_iff`, `sub_main_ids_eq_iff` — when two IDs are the same text;
* `issuedIDs_apart_iff` — the IDs of a run are apart **exactly when its requests are**: parents
  asked for the same channel differ in the last character, and no main ID has the number that a
  channel's number and that character make.
-/

set_option autoImplicit false

namespace GB28181.Platform

open GB28181.Base

variable (E : GBDeviceNames)

/-! ## The ID of one channel -/

/-- The type code in the IDs of the channels of a device. -/
def channelCode (device_type : GBDevice_T) : Option CStr :=
  if device_type = E.DVR ∨ device_type = E.ENCODER then some (str "131")
  else if device_type = E.DECODER then some (str "133")
  else if device_type = E.CAMERA then some (str "131")
  else none

/-- The request is one that gets an ID, with this code. -/
def Answered (device_type : GBDevice_T) (deviceid : CStr) (index : BitVec 32) (code : CStr) :
    Prop :=
  channelCode E device_type = some code ∧ deviceid.length = 20 ∧ index.toNat < 10 ^ 6

/-- The common body of the `Create_…SubID` functions; `short` is what the function returns for an
ID of another length. -/
theorem createSubID_bind_asID {code : CStr} (hcode : code ≠ []) (g : GBIDCreator) (deviceid : CStr)
    (n : Nat) {short : Option CStr} (hshort : short.bind asID = none) (id : CStr) :
    (if deviceid.length = 20 then g.createSubID code deviceid n else short).bind asID = some id ↔
      deviceid.length = 20 ∧ ∃ order_str, zeroPad 6 (toText n) = some order_str ∧
        id = g.m_str_civil_divisions ++ code ++ (order_str ++ deviceid.drop 19) := by
  split
  · rename_i hlen
    have hlast : (deviceid.drop 19).take 1 = deviceid.drop 19 :=
      List.take_of_length_le (by rw [List.length_drop]; omega)
    have hid : ∀ order_str : CStr, asID (g.m_str_civil_divisions ++ code ++ order_str) =
        some (g.m_str_civil_divisions ++ code ++ order_str) := by
      intro order_str
      apply if_neg
      simp [hcode]
    rw [GBIDCreator.createSubID, GBIDCreator.getChildDeviceOrderStr, hlast, and_iff_right hlen]
    cases zeroPad 6 (toText n) with
    | none =>
      refine iff_of_false (by simp) ?_
      rintro ⟨order_str, horder, -⟩
      cases horder
    | some order_str =>
      simp only [Option.map_some, Option.bind_some, hid, Option.some.injEq, exists_eq_left']
      exact eq_comm
  · rename_i hlen
    rw [hshort]
    exact iff_of_false (by simp) fun h => hlen h.1

/-- **The ID of a channel**, as text. -/
theorem subDeviceid_eq_some_iff (g : GBIDCreator) (device_type : GBDevice_T) (deviceid : CStr)
    (index : BitVec 32) (id : CStr) :
    (g.subDeviceid E device_type deviceid index).bind asID = some id ↔
      ∃ code, channelCode E device_type = some code ∧ deviceid.length = 20 ∧
        ∃ order_str, zeroPad 6 (toText index.toNat) = some order_str ∧
          id = g.m_str_civil_divisions ++ code ++ (order_str ++ deviceid.drop 19) := by
  have h131 : str "131" ≠ [] := by decide
  have h133 : str "133" ≠ [] := by decide
  have hempty : (some [] : Option CStr).bind asID = none := rfl
  have hnone : (none : Option CStr).bind asID = none := rfl
  unfold GBIDCreator.subDeviceid
  by_cases hdvr : device_type = E.DVR
  · have hcode : channelCode E device_type = some (str "131") := if_pos (Or.inl hdvr)
    simp only [if_pos hdvr, hcode, Option.some.injEq, exists_eq_left']
    exact createSubID_bind_asID h131 g deviceid index.toNat hempty id
  rw [if_neg hdvr]
  by_cases hencoder : device_type = E.ENCODER
  · have hcode : channelCode E device_type = some (str "131") := if_pos (Or.inr hencoder)
    simp only [if_pos hencoder, hcode, Option.some.injEq, exists_eq_left']
    exact createSubID_bind_asID h131 g deviceid index.toNat hempty id
  rw [if_neg hencoder]
  by_cases hdecoder : device_type = E.DECODER
  · have hcode : channelCode E device_type = some (str "133") := by
      rw [channelCode, if_neg (not_or.mpr ⟨hdvr, hencoder⟩), if_pos hdecoder]
    simp only [if_pos hdecoder, hcode, Option.some.injEq, exists_eq_left']
    exact createSubID_bind_asID h133 g deviceid index.toNat hempty id
  rw [if_neg hdecoder]
  by_cases hcamera : device_type = E.CAMERA
  · have hcode : channelCode E device_type = some (str "131") := by
      rw [channelCode, if_neg (not_or.mpr ⟨hdvr, hencoder⟩), if_neg hdecoder, if_pos hcamera]
    simp only [if_pos hcamera, hcode, Option.some.injEq, exists_eq_left']
    exact createSubID_bind_asID h131 g deviceid index.toNat hnone id
  · have hcode : channelCode E device_type = none := by
      rw [channelCode, if_neg (not_or.mpr ⟨hdvr, hencoder⟩), if_neg hdecoder, if_neg hcamera]
    rw [if_neg hcamera, hempty, hcode]
    simp

/-! ## Two IDs -/

theorem length_channelCode {device_type : GBDevice_T} {code : CStr}
    (h : channelCode E device_type = some code) : code.length = 3 := by
  unfold channelCode at h
  split at h
  · rw [← Option.some.inj h]; rfl
  · split at h
    · rw [← Option.some.inj h]; rfl
    · split at h
      · rw [← Option.some.inj h]; rfl
      · cases h

/-- **The IDs of two channels** are the same exactly when code, number and last character are. -/
theorem sub_ids_eq_iff {civil code code' field field' : CStr} {i i' : Nat} {p p' : CStr}
    (hcode : code.length = code'.length) (hfield : zeroPad 6 (toText i) = some field)
    (hfield' : zeroPad 6 (toText i') = some field') :
    civil ++ code ++ (field ++ p.drop 19) = civil ++ code' ++ (field' ++ p'.drop 19) ↔
      code = code' ∧ i = i' ∧ p.drop 19 = p'.drop 19 := by
  have hlen : (civil ++ code).length = (civil ++ code').length := by simp [hcode]
  have hlen' : field.length = field'.length := by
    rw [length_of_zeroPad hfield, length_of_zeroPad hfield']
  constructor
  · intro he
    obtain ⟨hfront, hrest⟩ := List.append_inj he hlen
    obtain ⟨rfl, hlast⟩ := List.append_inj hrest hlen'
    exact ⟨List.append_cancel_left hfront, zeroPad_toText_inj hfield hfield', hlast⟩
  · rintro ⟨rfl, rfl, hlast⟩
    rw [hlast, Option.some.inj (hfield.symm.trans hfield')]

/-- **The ID of a channel and a main ID** are the same exactly when the codes are and the main ID's
number is that of the channel with the parent's last digit behind it. -/
theorem sub_main_ids_eq_iff {civil code code' field field' p : CStr} {i n : Nat}
    (hp : p.length = 20) (hfield : zeroPad 6 (toText i) = some field)
    (hfield' : zeroPad 7 (toText n) = some field') :
    civil ++ code ++ (field ++ p.drop 19) = civil ++ code' ++ field' ↔
      code = code' ∧ ∃ d, d < 10 ∧ p.drop 19 = [digitByte d] ∧ n = 10 * i + d := by
  obtain ⟨c, hc⟩ : ∃ c, p.drop 19 = [c] := by
    apply List.length_eq_one_iff.mp
    rw [List.length_drop, hp]
  have hlen : (field ++ [c]).length = field'.length := by
    rw [List.length_append, length_of_zeroPad hfield, length_of_zeroPad hfield']
    rfl
  have hnumber := zeroPad_append_eq_iff (c := c) hfield hfield'
  rw [hc]
  constructor
  · intro he
    obtain ⟨hfront, hrest⟩ := List.append_inj' he hlen
    obtain ⟨d, hd, rfl, hn⟩ := hnumber.mp hrest
    exact ⟨List.append_cancel_left hfront, d, hd, rfl, hn⟩
  · rintro ⟨rfl, d, hd, hc', hn⟩
    rw [hnumber.mpr ⟨d, hd, List.singleton_inj.mp hc', hn⟩]

/-! ## All IDs of a run -/

/-- The IDs are different, if one is that of a channel and the other is not of the same one. -/
def IDsApart : IssuedID → IssuedID → Prop
  | .sub deviceid index id, .sub deviceid' index' id' =>
    deviceid ≠ deviceid' ∨ index ≠ index' → id ≠ id'
  | .sub _ _ id, .main id' => id ≠ id'
  | .main id, .sub _ _ id' => id ≠ id'
  | .main _, .main _ => True

/-- A channel's number with its parent's last digit behind it is not the number of a main ID with
the channel's code. -/
def ChannelApart (device_type : GBDevice_T) (deviceid : CStr) (index : BitVec 32)
    (dt : GBDevice_T) (number : Nat) : Prop :=
  Answered E device_type deviceid index (gettypestring E dt) → number < 10 ^ 7 →
    ∀ d < 10, deviceid.drop 19 = [digitByte d] → number ≠ 10 * index.toNat + d

/-- The requests get IDs that are apart. -/
def RequestsApart : Request → Request → Prop
  | .sub device_type deviceid index, .sub device_type' deviceid' index' =>
    ∀ code, Answered E device_type deviceid index code →
      Answered E device_type' deviceid' index' code → index = index' → deviceid ≠ deviceid' →
        deviceid.drop 19 ≠ deviceid'.drop 19
  | .sub device_type deviceid index, .main dt number =>
    ChannelApart E device_type deviceid index dt number
  | .main dt number, .sub device_type deviceid index =>
    ChannelApart E device_type deviceid index dt number
  | .main _ _, .main _ _ => True

variable {E}

theorem issued_sub_iff {civil : CStr} {device_type : GBDevice_T} {deviceid : CStr}
    {index : BitVec 32} {out : IssuedID} :
    (Request.sub device_type deviceid index).issued E civil = some out ↔
      ∃ code, channelCode E device_type = some code ∧ deviceid.length = 20 ∧
        ∃ field, zeroPad 6 (toText index.toNat) = some field ∧
          out = .sub deviceid index (civil ++ code ++ (field ++ deviceid.drop 19)) := by
  rw [Request.issued, Option.map_eq_some_iff]
  constructor
  · rintro ⟨id, hid, rfl⟩
    obtain ⟨code, hcode, hlen, field, hfield, rfl⟩ := (subDeviceid_eq_some_iff E _ _ _ _ _).mp hid
    exact ⟨code, hcode, hlen, field, hfield, rfl⟩
  · rintro ⟨code, hcode, hlen, field, hfield, rfl⟩
    exact ⟨_, (subDeviceid_eq_some_iff E _ _ _ _ _).mpr ⟨code, hcode, hlen, field, hfield, rfl⟩,
      rfl⟩

theorem issued_main_iff {civil : CStr} {dt : GBDevice_T} {number : Nat} {out : IssuedID} :
    (Request.main dt number).issued E civil = some out ↔
      ∃ field, zeroPad 7 (toText number) = some field ∧
        out = .main (civil ++ gettypestring E dt ++ field) := by
  rw [Request.issued, Option.map_eq_some_iff]
  exact exists_congr fun field => and_congr_right fun _ => eq_comm

theorem exists_zeroPad {width n : Nat} (hw : 0 < width) (h : n < 10 ^ width) :
    ∃ field, zeroPad width (toText n) = some field :=
  Option.isSome_iff_exists.mp ((zeroPad_toText_isSome_iff hw).mpr h)

theorem lt_of_zeroPad {width n : Nat} {field : CStr} (hw : 0 < width)
    (h : zeroPad width (toText n) = some field) : n < 10 ^ width :=
  (zeroPad_toText_isSome_iff hw).mp (Option.isSome_of_mem h)

theorem sub_sub_apart_iff {civil : CStr} {device_type device_type' : GBDevice_T}
    {deviceid deviceid' : CStr} {index index' : BitVec 32} :
    (∀ out, (Request.sub device_type deviceid index).issued E civil = some out →
        ∀ out', (Request.sub device_type' deviceid' index').issued E civil = some out' →
          IDsApart out out') ↔
      RequestsApart E (.sub device_type deviceid index) (.sub device_type' deviceid' index') := by
  simp only [issued_sub_iff]
  constructor
  · rintro h code ⟨hcode, hlen, hi⟩ ⟨hcode', hlen', hi'⟩ rfl hne hlast
    obtain ⟨field, hfield⟩ := exists_zeroPad (by decide) hi
    refine h _ ⟨code, hcode, hlen, field, hfield, rfl⟩ _
      ⟨code, hcode', hlen', field, hfield, rfl⟩ (Or.inl hne) ?_
    rw [hlast]
  · rintro h _ ⟨code, hcode, hlen, field, hfield, rfl⟩ _
      ⟨code', hcode', hlen', field', hfield', rfl⟩ hne he
    have hthree : code.length = code'.length := by
      rw [length_channelCode E hcode, length_channelCode E hcode']
    obtain ⟨rfl, hi, hlast⟩ := (sub_ids_eq_iff hthree hfield hfield').mp he
    obtain rfl : index = index' := BitVec.eq_of_toNat_eq hi
    have hparents : deviceid ≠ deviceid' := by simpa using hne
    have hlt := lt_of_zeroPad (by decide) hfield
    exact h code ⟨hcode, hlen, hlt⟩ ⟨hcode', hlen', hlt⟩ rfl hparents hlast

theorem sub_main_apart_iff {civil : CStr} {device_type dt : GBDevice_T} {deviceid : CStr}
    {index : BitVec 32} {number : Nat} :
    (∀ out, (Request.sub device_type deviceid index).issued E civil = some out →
        ∀ out', (Request.main dt number).issued E civil = some out' → IDsApart out out') ↔
      ChannelApart E device_type deviceid index dt number := by
  simp only [issued_sub_iff, issued_main_iff]
  constructor
  · rintro h ⟨hcode, hlen, hi⟩ hn d hd hlast hnumber
    obtain ⟨field, hfield⟩ := exists_zeroPad (by decide) hi
    obtain ⟨field', hfield'⟩ := exists_zeroPad (by decide) hn
    refine h _ ⟨_, hcode, hlen, field, hfield, rfl⟩ _ ⟨field', hfield', rfl⟩ ?_
    exact (sub_main_ids_eq_iff hlen hfield hfield').mpr ⟨rfl, d, hd, hlast, hnumber⟩
  · rintro h _ ⟨code, hcode, hlen, field, hfield, rfl⟩ _ ⟨field', hfield', rfl⟩ he
    obtain ⟨rfl, d, hd, hlast, hnumber⟩ := (sub_main_ids_eq_iff hlen hfield hfield').mp he
    exact h ⟨hcode, hlen, lt_of_zeroPad (by decide) hfield⟩ (lt_of_zeroPad (by decide) hfield') d
      hd hlast hnumber

theorem IDsApart.symm {out out' : IssuedID} (h : IDsApart out out') : IDsApart out' out := by
  cases out with
  | main id =>
    cases out' with
    | main id' => exact trivial
    | sub deviceid' index' id' => exact Ne.symm h
  | sub deviceid index id =>
    cases out' with
    | main id' => exact Ne.symm h
    | sub deviceid' index' id' => exact fun hne => (h (hne.imp Ne.symm Ne.symm)).symm

theorem requests_apart_iff (civil : CStr) (r r' : Request) :
    (∀ out, r.issued E civil = some out → ∀ out', r'.issued E civil = some out' →
        IDsApart out out') ↔ RequestsApart E r r' := by
  cases r with
  | sub device_type deviceid index =>
    cases r' with
    | sub device_type' deviceid' index' => exact sub_sub_apart_iff
    | main dt number => exact sub_main_apart_iff
  | main dt number =>
    cases r' with
    | sub device_type deviceid index =>
      rw [RequestsApart, ← @sub_main_apart_iff E civil]
      exact ⟨fun h out ho out' ho' => (h out' ho' out ho).symm,
        fun h out ho out' ho' => (h out' ho' out ho).symm⟩
    | main dt' number' =>
      refine iff_of_true ?_ trivial
      simp only [issued_main_iff]
      rintro _ ⟨field, -, rfl⟩ _ ⟨field', -, rfl⟩
      exact trivial

section Runs

variable (E) (platformid config_path : CStr)

/-- **The IDs of a run are apart** exactly when its requests are.  A channel asked for twice has
one ID, which `IDsApart` allows. -/
theorem issuedIDs_apart_iff (b_re_create : Bool) (file : Json) (es : List IDEvent) :
    (issuedIDs E platformid config_path
        (startService E platformid config_path b_re_create file) es).Pairwise IDsApart ↔
      (requestsFrom E platformid b_re_create file es).Pairwise (RequestsApart E) := by
  have hstart := GBIDCreator.tracks_initial (E := E) platformid config_path
    (loadGenInfo b_re_create file)
  rw [issuedIDs_eq E platformid config_path es hstart rfl, List.pairwise_filterMap]
  exact List.Pairwise.iff fun r r' => requests_apart_iff (platformid.take 10) r r'

end Runs

instance : DecidableRel IDsApart
  | .sub _ _ _, .sub _ _ _ => inferInstanceAs (Decidable (_ → _))
  | .sub _ _ _, .main _ => inferInstanceAs (Decidable (_ ≠ _))
  | .main _, .sub _ _ _ => inferInstanceAs (Decidable (_ ≠ _))
  | .main _, .main _ => inferInstanceAs (Decidable True)

/-- Channel 0 of two recorders has one ID, and so do channel 0 of a recorder and the first camera.
No channel is asked for twice. -/
theorem channels_collide :
    ¬ (issuedIDs sampleNames (str "34020000002000000001") (str "devinfo.json")
        (startService sampleNames (str "34020000002000000001") (str "devinfo.json") false
          sampleSettings)
        [.createSub sampleNames.DVR (str "34020000001110000001") 0,
          .createSub sampleNames.DVR (str "34020000001110000011") 0]).Pairwise IDsApart ∧
      ¬ (issuedIDs sampleNames (str "34020000002000000001") (str "devinfo.json")
        (startService sampleNames (str "34020000002000000001") (str "devinfo.json") false
          sampleSettings)
        [.create sampleNames.CAMERA,
          .createSub sampleNames.DVR (str "34020000001110000001") 0]).Pairwise IDsApart := by
  have hstart := GBIDCreator.tracks_initial (E := sampleNames) (str "34020000002000000001")
    (str "devinfo.json") (loadGenInfo false sampleSettings)
  constructor
  · rw [issuedIDs_eq _ _ _ _ hstart rfl]
    decide
  · rw [issuedIDs_eq _ _ _ _ hstart rfl]
    decide

end GB28181.Platform
