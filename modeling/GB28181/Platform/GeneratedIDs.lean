import GB28181.Platform.SubDeviceIDs

/-!
# The form of generated IDs

An ID has 20 characters: the place, the code of the type and a number of seven characters.  The
zeros in front of a number are counted by an unsigned difference, `7 - size` or `6 - size`, which
wraps when the number is longer than its field.

* `IDForm` — an ID in its parts;
* `createRight_iff`, `createSubRight_iff` — when a call gives such an ID, or fails and leaves the
  counters;
* `generatedIDs_iff` — **in every run** all calls do so exactly when every type has a code and every
  number fits its field.
-/

set_option autoImplicit false

namespace GB28181.Platform

open GB28181.Base

variable (E : GBDeviceNames)

/-! ## What a call should do -/

structure IDForm (platformid code number id : CStr) : Prop where
  parts : id = platformid.take 10 ++ code ++ number
  length_code : code.length = 3
  length_number : number.length = 7
  length_id : id.length = 20

/-- `m_id_gen_info[dt].created_cout`. -/
def GBIDCreator.created (g : GBIDCreator) (dt : GBDevice_T) : Nat :=
  (g.m_id_gen_info.index dt {}).created_cout

/-- The unsigned difference does not wrap. -/
def ZerosFit (width : Nat) (str_order_seq : CStr) : Prop := str_order_seq.length ≤ width

/-- A main ID has the form, and its number is that of the counter; or the call fails and leaves the
counters.  The zeros fit wherever they are counted. -/
def CreateRight (platformid : CStr) (g : GBIDCreator) (dt : GBDevice_T) : Prop :=
  let new_id := (g.createDevIDByType E dt).1
  let g' := (g.createDevIDByType E dt).2
  ((∃ id number, new_id = some id ∧ IDForm platformid (gettypestring E dt) number id ∧
      digitsValue number = g'.created dt) ∨
    new_id = none ∧ ∀ x, g'.created x = g.created x) ∧
  (¬ dt ≥ E.MAXCOUNT → ZerosFit 7 (toText (g'.created dt)))

/-- `Create_CameraSubID` is left without a value. -/
def FallsOff (device_type : GBDevice_T) (deviceid : CStr) : Prop :=
  device_type ≠ E.DVR ∧ device_type ≠ E.ENCODER ∧ device_type ≠ E.DECODER ∧
    device_type = E.CAMERA ∧ deviceid.length ≠ 20

/-- The ID of a channel has the form, and its number is that of the channel with the last character
of the parent; or the call throws or returns nothing and leaves the counters. -/
def CreateSubRight (platformid : CStr) (g : GBIDCreator) (device_type : GBDevice_T)
    (deviceid : CStr) (index : BitVec 32) : Prop :=
  let new_sub_id := (g.createSubDeviceid E device_type deviceid index).1
  let g' := (g.createSubDeviceid E device_type deviceid index).2
  ((∃ id code number, new_sub_id = some id ∧ channelCode E device_type = some code ∧
      IDForm platformid code number id ∧ digitsValue (number.take 6) = index.toNat ∧
        number.drop 6 = deviceid.drop 19) ∨
    new_sub_id.bind asID = none ∧ ∀ x, g'.created x = g.created x) ∧
  ((channelCode E device_type).isSome → deviceid.length = 20 →
    ZerosFit 6 (toText index.toNat)) ∧
  ¬ FallsOff E device_type deviceid

def IDCallRight (platformid : CStr) (s : IDService) : IDEvent → Prop
  | .create gb_dev_type => ∀ g, s.creator = some g → CreateRight E platformid g gb_dev_type
  | .createSub device_type deviceid index =>
    ∀ g, s.creator = some g → CreateSubRight E platformid g device_type deviceid index
  | .serialize => True
  | .restart => True

/-! ## When it does -/

/-- The type has a code and the next number seven digits at most, or there is no such type. -/
def CreateFits (g : GBIDCreator) (dt : GBDevice_T) : Prop :=
  dt ≥ E.MAXCOUNT ∨ gettypestring E dt ≠ [] ∧ (g.created dt + 1) % 2 ^ 32 < 10 ^ 7

/-- The device has no channels, or the parent has an ID and the channel's number six digits at most,
or it is no camera and has none. -/
def CreateSubFits (device_type : GBDevice_T) (deviceid : CStr) (index : BitVec 32) : Prop :=
  (channelCode E device_type).isSome →
    if deviceid.length = 20 then index.toNat < 10 ^ 6
    else device_type = E.DVR ∨ device_type = E.ENCODER ∨ device_type = E.DECODER

/-- When a call fits the counters it finds. -/
def IDCallFits (s : IDService) : IDEvent → Prop
  | .create gb_dev_type => ∀ g, s.creator = some g → CreateFits E g gb_dev_type
  | .createSub device_type deviceid index =>
    ∀ g : GBIDCreator, s.creator = some g → CreateSubFits E device_type deviceid index
  | .serialize => True
  | .restart => True

variable {E}

theorem gettypestring_cases (dt : GBDevice_T) :
    gettypestring E dt = [] ∨ (gettypestring E dt).length = 3 := by
  have hcode : ∀ {p : Prop} [Decidable p] {a b : CStr}, a.length = 3 → (b = [] ∨ b.length = 3) →
      (if p then a else b) = [] ∨ (if p then a else b).length = 3 := by
    intro p _ a b ha hb
    split
    · exact Or.inr ha
    · exact hb
  unfold gettypestring
  iterate 8 refine hcode (by decide) ?_
  exact Or.inl rfl

theorem zerosFit_iff {width : Nat} (hw : 0 < width) (n : Nat) :
    ZerosFit width (toText n) ↔ n < 10 ^ width := length_toText_le_iff hw

section Call

variable {platformid : CStr} {g : GBIDCreator} {counts : Counts}

/-- **A call for a main ID.** -/
theorem createRight_iff (hplatform : 10 ≤ platformid.length)
    (h : Tracks E (platformid.take 10) g counts) (dt : GBDevice_T) :
    CreateRight E platformid g dt ↔ CreateFits E g dt := by
  unfold CreateRight CreateFits GBIDCreator.createDevIDByType
  dsimp only
  by_cases hmax : dt ≥ E.MAXCOUNT
  · have hthrows : GBIDCreator.getnewdeviceid E dt g = (none, g) := if_pos hmax
    rw [hthrows]
    exact iff_of_true ⟨Or.inr ⟨rfl, fun _ => rfl⟩, fun hnot => absurd hmax hnot⟩ (Or.inl hmax)
  · obtain ⟨hid, htracks⟩ := GBIDCreator.getnewdeviceid_spec h hmax
    have hnext : (g.created dt + 1) % 2 ^ 32 = counts.next dt := by
      rw [GBIDCreator.created, h.count_eq]
      rfl
    have hcreated : (GBIDCreator.getnewdeviceid E dt g).2.created dt = counts.next dt := by
      rw [GBIDCreator.created, htracks.count_eq, Function.update_self]
    rw [hid, hcreated, or_iff_right hmax, hnext, zerosFit_iff (by decide)]
    constructor
    · rintro ⟨hform, hfit⟩
      have hlt := hfit hmax
      refine ⟨?_, hlt⟩
      rcases hform with ⟨id, number, -, hform, -⟩ | ⟨hnone, -⟩
      · exact List.ne_nil_of_length_pos (by rw [hform.length_code]; decide)
      · obtain ⟨field, hfield⟩ := exists_zeroPad (by decide : 0 < 7) hlt
        rw [GBIDCreator.getdeviceOrderStr, hfield] at hnone
        cases hnone
    · rintro ⟨hcode, hlt⟩
      obtain ⟨field, hfield⟩ := exists_zeroPad (by decide : 0 < 7) hlt
      have hthree := (gettypestring_cases dt).resolve_left hcode
      have hseven := length_of_zeroPad hfield
      refine ⟨Or.inl ⟨_, field, ?_, ⟨rfl, hthree, hseven, ?_⟩, (zeroPad_toText hfield).2⟩,
        fun _ => hlt⟩
      · rw [GBIDCreator.getdeviceOrderStr, hfield, Option.map_some]
      · rw [List.length_append, List.length_append, List.length_take, hthree, hseven]
        omega

theorem channelCode_isSome_iff (device_type : GBDevice_T) :
    (channelCode E device_type).isSome ↔ device_type = E.DVR ∨ device_type = E.ENCODER ∨
      device_type = E.DECODER ∨ device_type = E.CAMERA := by
  unfold channelCode
  by_cases h : device_type = E.DVR ∨ device_type = E.ENCODER
  · rw [if_pos h]
    exact iff_of_true rfl (h.elim Or.inl fun h => Or.inr (Or.inl h))
  · rw [if_neg h]
    obtain ⟨hdvr, hencoder⟩ := not_or.mp h
    rw [or_iff_right hdvr, or_iff_right hencoder]
    by_cases hdecoder : device_type = E.DECODER
    · rw [if_pos hdecoder]
      exact iff_of_true rfl (Or.inl hdecoder)
    · rw [if_neg hdecoder, or_iff_right hdecoder]
      by_cases hcamera : device_type = E.CAMERA
      · rw [if_pos hcamera]
        exact iff_of_true rfl hcamera
      · rw [if_neg hcamera]
        exact iff_of_false Bool.false_ne_true hcamera

/-- **A call for the ID of a channel.** -/
theorem createSubRight_iff (hplatform : 10 ≤ platformid.length)
    (h : Tracks E (platformid.take 10) g counts) (device_type : GBDevice_T) (deviceid : CStr)
    (index : BitVec 32) :
    CreateSubRight E platformid g device_type deviceid index ↔
      CreateSubFits E device_type deviceid index := by
  obtain ⟨hid, htracks⟩ := GBIDCreator.createSubDeviceid_spec h device_type deviceid index
  have hsame : ∀ x, (g.createSubDeviceid E device_type deviceid index).2.created x = g.created x :=
    fun x => (htracks.count_eq x).trans (h.count_eq x).symm
  unfold CreateSubRight CreateSubFits FallsOff
  dsimp only
  rw [hid, zerosFit_iff (by decide), channelCode_isSome_iff]
  constructor
  · rintro ⟨-, hfit, hvalue⟩ hkind
    split
    · rename_i hlen
      exact hfit hkind hlen
    · rename_i hlen
      by_contra hnot
      obtain ⟨hdvr, hnot⟩ := not_or.mp hnot
      obtain ⟨hencoder, hdecoder⟩ := not_or.mp hnot
      have hcamera := ((hkind.resolve_left hdvr).resolve_left hencoder).resolve_left hdecoder
      exact hvalue ⟨hdvr, hencoder, hdecoder, hcamera, hlen⟩
  · intro hfits
    refine ⟨?_, fun hkind hlen => ?_, ?_⟩
    · cases hissued : (({ m_str_civil_divisions := platformid.take 10 } : GBIDCreator).subDeviceid
          E device_type deviceid index).bind asID with
      | none => exact Or.inr ⟨rfl, hsame⟩
      | some id =>
        obtain ⟨code, hcode, hlen, order_str, horder, rfl⟩ :=
          (subDeviceid_eq_some_iff E _ _ _ _ _).mp hissued
        have hthree := length_channelCode E hcode
        have hsix := length_of_zeroPad horder
        have hlast : (deviceid.drop 19).length = 1 := by rw [List.length_drop, hlen]
        obtain ⟨id, hid, hasID⟩ := Option.bind_eq_some_iff.mp hissued
        obtain rfl : id = _ := by
          unfold asID at hasID
          split at hasID
          · cases hasID
          · exact Option.some.inj hasID
        refine Or.inl ⟨_, code, order_str ++ deviceid.drop 19, hid, hcode,
          ⟨rfl, hthree, ?_, ?_⟩, ?_, ?_⟩
        · rw [List.length_append, hsix, hlast]
        · simp only [List.length_append, List.length_take, hthree, hsix, hlast]
          omega
        · rw [List.take_left' hsix]
          exact (zeroPad_toText horder).2
        · exact List.drop_left' hsix
    · have := hfits hkind
      rwa [if_pos hlen] at this
    · rintro ⟨hdvr, hencoder, hdecoder, hcamera, hlen⟩
      have := hfits (Or.inr (Or.inr (Or.inr hcamera)))
      rw [if_neg hlen] at this
      exact (this.resolve_left hdvr).elim hencoder hdecoder

end Call

/-! ## Every run -/

section Runs

variable (E) (platformid config_path : CStr)

/-- The creator stands at some numbers, if there is one. -/
def CreatorTracks (s : IDService) : Prop :=
  ∀ g, s.creator = some g → ∃ counts, Tracks E (platformid.take 10) g counts

theorem creatorTracks_start (b_re_create : Bool) (file : Json) :
    CreatorTracks E platformid (startService E platformid config_path b_re_create file) := by
  intro g hg
  have hrel := GBIDCreator.tracks_initial (E := E) platformid config_path
    (loadGenInfo b_re_create file)
  have hg : GBIDCreator.initial E platformid config_path (loadGenInfo b_re_create file) = some g :=
    hg
  rw [hg] at hrel
  generalize startCounts E platformid (loadGenInfo b_re_create file) = counts at hrel
  cases hrel with
  | some htracks => exact ⟨_, htracks⟩

theorem creatorTracks_step {s : IDService} (h : CreatorTracks E platformid s) (e : IDEvent) :
    CreatorTracks E platformid (s.step E platformid config_path e) := by
  cases e with
  | serialize => exact h
  | restart => exact creatorTracks_start E platformid config_path false s.file
  | create dt =>
    intro g' hg'
    obtain ⟨g, hg, rfl⟩ := Option.map_eq_some_iff.mp hg'
    obtain ⟨counts, htracks⟩ := h g hg
    by_cases hmax : dt ≥ E.MAXCOUNT
    · have hthrows : GBIDCreator.getnewdeviceid E dt g = (none, g) := if_pos hmax
      exact ⟨counts, by rwa [GBIDCreator.createDevIDByType, hthrows]⟩
    · exact ⟨_, (GBIDCreator.getnewdeviceid_spec htracks hmax).2⟩
  | createSub device_type deviceid index =>
    intro g' hg'
    obtain ⟨g, hg, rfl⟩ := Option.map_eq_some_iff.mp hg'
    obtain ⟨counts, htracks⟩ := h g hg
    exact ⟨counts, (GBIDCreator.createSubDeviceid_spec htracks device_type deviceid index).2⟩

/-- **In every run** the calls give IDs of the form, or fail and leave the counters, exactly when
every call fits the counters it finds. -/
theorem generatedIDs_iff (hplatform : 10 ≤ platformid.length) (b_re_create : Bool) (file : Json)
    (es : List IDEvent) :
    let s := startService E platformid config_path b_re_create file
    (∀ p ∈ calls (IDService.step E platformid config_path) s es,
        IDCallRight E platformid p.1 p.2) ↔
      ∀ p ∈ calls (IDService.step E platformid config_path) s es, IDCallFits E p.1 p.2 := by
  intro s
  have hstart := creatorTracks_start E platformid config_path b_re_create file
  refine @forall_calls_congr _ _ _ (IDCallFits E) (IDCallRight E platformid)
    (CreatorTracks E platformid) s es
    (fun s e _ hs => creatorTracks_step E platformid config_path hs e) (fun s e _ hs => ?_) hstart
  cases e with
  | serialize => exact Iff.rfl
  | restart => exact Iff.rfl
  | create dt =>
    refine forall₂_congr fun g hg => ?_
    obtain ⟨counts, htracks⟩ := hs g hg
    exact createRight_iff hplatform htracks dt
  | createSub device_type deviceid index =>
    refine forall₂_congr fun g hg => ?_
    obtain ⟨counts, htracks⟩ := hs g hg
    exact createSubRight_iff hplatform htracks device_type deviceid index

end Runs

/-- The first channel of a recorder. -/
theorem generatedIDs_channel :
    IDCallRight sampleNames (str "34020000002000000001")
      (startService sampleNames (str "34020000002000000001") (str "devinfo.json") false
        sampleSettings) (.createSub sampleNames.DVR (str "34020000001110000001") 0) := by
  refine (generatedIDs_iff sampleNames (str "34020000002000000001") (str "devinfo.json")
    (by decide) false sampleSettings
    [.createSub sampleNames.DVR (str "34020000001110000001") 0]).mpr (fun p hp => ?_) _
    List.mem_cons_self
  obtain rfl := List.mem_singleton.mp hp
  exact fun g _ _ => by decide

/-- The settings when the numbers of the cameras are used up. -/
def usedSettings : Json :=
  (∅ : Json).insert (str "id_generator")
    ((sampleSettings.index (str "id_generator") ∅).insert (str "last_camera_id") (str "9999999"))

theorem startCounts_used :
    (startCounts sampleNames (str "34020000002000000001") (loadGenInfo false usedSettings)).map
      (· sampleNames.CAMERA) = some 9999999 := by
  decide

/-- The camera after the last one is counted, and the zeros in front of its number are not. -/
theorem generatedIDs_used :
    ¬ ∀ (E : GBDeviceNames) (platformid config_path : CStr), 10 ≤ platformid.length →
      ∀ (b_re_create : Bool) (file : Json) (es : List IDEvent),
        ∀ p ∈ calls (IDService.step E platformid config_path)
          (startService E platformid config_path b_re_create file) es,
            IDCallRight E platformid p.1 p.2 := by
  intro h
  have hcall := h sampleNames (str "34020000002000000001") (str "devinfo.json") (by decide) false
    usedSettings [.create sampleNames.CAMERA] _ List.mem_cons_self
  have hrel := GBIDCreator.tracks_initial (E := sampleNames) (str "34020000002000000001")
    (str "devinfo.json") (loadGenInfo false usedSettings)
  have hcounts := startCounts_used
  generalize startCounts sampleNames (str "34020000002000000001")
    (loadGenInfo false usedSettings) = counts at hrel hcounts
  generalize hg : GBIDCreator.initial sampleNames (str "34020000002000000001") (str "devinfo.json")
    (loadGenInfo false usedSettings) = creator at hrel
  cases hrel with
  | none => cases hcounts
  | @some g counts htracks =>
    have hcount : g.created sampleNames.CAMERA = 9999999 :=
      (htracks.count_eq _).trans (Option.some.inj hcounts)
    rcases (createRight_iff (by decide) htracks _).mp (hcall g hg) with hmax | ⟨-, hlt⟩
    · exact absurd hmax (by decide)
    · rw [hcount] at hlt
      exact absurd hlt (by decide)

end GB28181.Platform
