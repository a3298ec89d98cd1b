import GB28181.Platform.SDKDecoder

/-!
# Divisions of decoders (`ProcDecoderDivision`)

Every request hands `modifDecoderDivisonInfo` a channel ID and a number that nothing checks.

* `keepsLayout_iff` — every state keeps the layout of the screens, and no call reads past a
  channel's screens, **exactly when** the numbers in the file and those asked of a channel that
  exists lie between zero and the maximum;
* `survivesRestart_iff` — reading the file again gives the state in memory **exactly when** the
  last number asked of each channel is the one the file has: the document `modifyXmlDivisonInfo`
  changes is never saved.
-/

set_option autoImplicit false

namespace GB28181.Platform.SDKCom

open GB28181.Base

/-! ## Requests -/

structure DivisonCall where
  chnId : CStr
  divison : Int

def divisonStep (sdk : SDKDecoder) (call : DivisonCall) : Except SDKFault SDKDecoder :=
  (modifDecoderDivisonInfo sdk call.chnId call.divison).map (·.sdk)

/-- The first channel with an ID, with its place and its decoder. -/
def findChnInfo (g : List DecoderInfo) (chnId : CStr) :
    Option ((Nat × Nat) × DecoderInfo × DecoderChnInfo) :=
  (findChn chnId (chnIds g)).bind fun p => (chnAt g p).map fun found => (p, found)

theorem divisonStep_none {sdk : SDKDecoder} {call : DivisonCall}
    (h : findChnInfo sdk.g_decoderInfo call.chnId = none) : divisonStep sdk call = .ok sdk := by
  unfold findChnInfo at h
  unfold divisonStep modifDecoderDivisonInfo
  rw [h]
  rfl

/-- The screens whose status a division changes. -/
def changed (curScreenCount divison : Int) : List Int :=
  if divison > curScreenCount then loop curScreenCount (divison - 1)
  else loop divison (curScreenCount - 1)

theorem divisonStep_some {sdk : SDKDecoder} {call : DivisonCall} {p : Nat × Nat}
    {decoder : DecoderInfo} {chn : DecoderChnInfo}
    (h : findChnInfo sdk.g_decoderInfo call.chnId = some (p, decoder, chn)) :
    divisonStep sdk call = do
      let _ ← modifyXmlDivisonInfo sdk.decoderInfoXml decoder.gbId chn.chnNum call.divison
      let _ ← changedScreens sdk decoder (decoder.divide call.divison chn)
        (changed chn.curScreenCount call.divison)
      let g_decoderInfo := setChn sdk.g_decoderInfo p decoder (decoder.divide call.divison chn)
      return { sdk with g_decoderInfo := g_decoderInfo } := by
  unfold findChnInfo at h
  unfold divisonStep modifDecoderDivisonInfo
  rw [h]
  show Except.map _ (modifyXmlDivisonInfo _ _ chn.chnNum _ >>= fun _ =>
    changedScreens _ _ _ (changed chn.curScreenCount call.divison) >>= _) = _
  cases modifyXmlDivisonInfo sdk.decoderInfoXml decoder.gbId chn.chnNum call.divison with
  | error e => rfl
  | ok result =>
    show Except.map _ (changedScreens sdk decoder (decoder.divide call.divison chn)
      (changed chn.curScreenCount call.divison) >>= _) =
        changedScreens sdk decoder (decoder.divide call.divison chn)
          (changed chn.curScreenCount call.divison) >>= _
    cases changedScreens sdk decoder (decoder.divide call.divison chn)
        (changed chn.curScreenCount call.divison) with
    | error e => rfl
    | ok items => rfl

/-! ## What a division leaves -/

def DecoderChnInfo.undivided (chn : DecoderChnInfo) : DecoderChnInfo :=
  { chn with curScreenCount := 0, screenInfo := [] }

def DecoderInfo.undivided (decoder : DecoderInfo) : DecoderInfo :=
  { decoder with decoderChnInfo := decoder.decoderChnInfo.map (·.undivided) }

/-- The decoders without their divisions. -/
def undivided (g : List DecoderInfo) : List DecoderInfo := g.map (·.undivided)

theorem chnAt_some {g : List DecoderInfo} {p : Nat × Nat} {decoder : DecoderInfo}
    {chn : DecoderChnInfo} :
    chnAt g p = some (decoder, chn) ↔
      g[p.1]? = some decoder ∧ decoder.decoderChnInfo[p.2]? = some chn := by
  unfold chnAt
  simp only [Option.bind_eq_bind, Option.bind_eq_some_iff, Option.pure_def, Option.some.injEq,
    Prod.mk.injEq]
  constructor
  · rintro ⟨decoder', h, chn', h', rfl, rfl⟩
    exact ⟨h, h'⟩
  · rintro ⟨h, h'⟩
    exact ⟨decoder, h, chn, h', rfl, rfl⟩

theorem mem_of_chnAt {g : List DecoderInfo} {p : Nat × Nat} {decoder : DecoderInfo}
    {chn : DecoderChnInfo} (h : chnAt g p = some (decoder, chn)) :
    decoder ∈ g ∧ chn ∈ decoder.decoderChnInfo := by
  obtain ⟨hd, hc⟩ := chnAt_some.mp h
  exact ⟨List.mem_of_getElem? hd, List.mem_of_getElem? hc⟩

theorem findChnInfo_some {g : List DecoderInfo} {chnId : CStr} {p : Nat × Nat}
    {decoder : DecoderInfo} {chn : DecoderChnInfo} :
    findChnInfo g chnId = some (p, decoder, chn) ↔
      findChn chnId (chnIds g) = some p ∧ chnAt g p = some (decoder, chn) := by
  unfold findChnInfo
  simp only [Option.bind_eq_some_iff, Option.map_eq_some_iff, Prod.mk.injEq]
  constructor
  · rintro ⟨p', hp, ⟨decoder', chn'⟩, h, rfl, heq⟩
    cases heq
    exact ⟨hp, h⟩
  · rintro ⟨hp, h⟩
    exact ⟨p, hp, (decoder, chn), h, rfl, rfl⟩

theorem chnAt_undivided (g : List DecoderInfo) (p : Nat × Nat) :
    chnAt (undivided g) p =
      (chnAt g p).map fun found => (found.1.undivided, found.2.undivided) := by
  unfold chnAt undivided
  rw [List.getElem?_map]
  cases g[p.1]? with
  | none => rfl
  | some decoder =>
    show ((decoder.decoderChnInfo.map (·.undivided))[p.2]? >>= _) = _
    rw [List.getElem?_map]
    show _ = ((decoder.decoderChnInfo[p.2]? >>= fun chn => some (decoder, chn))).map _
    cases decoder.decoderChnInfo[p.2]? with
    | none => rfl
    | some chn => rfl

theorem chnIds_undivided (g : List DecoderInfo) : chnIds (undivided g) = chnIds g := by
  unfold chnIds undivided
  rw [List.map_map]
  refine List.map_congr_left fun decoder _ => ?_
  show (decoder.decoderChnInfo.map (·.undivided)).map (·.chnGbId) = _
  rw [List.map_map]
  rfl

section setChn

variable {g : List DecoderInfo} {p : Nat × Nat} {decoder : DecoderInfo} {chn : DecoderChnInfo}
  {n : Int}

/-- **Only the division changes.** -/
theorem undivided_setChn (h : chnAt g p = some (decoder, chn)) :
    undivided (setChn g p decoder (decoder.divide n chn)) = undivided g := by
  obtain ⟨hd, hc⟩ := chnAt_some.mp h
  have hchns : (decoder.decoderChnInfo.set p.2 (decoder.divide n chn)).map (·.undivided) =
      decoder.decoderChnInfo.map (·.undivided) := by
    rw [List.map_set]
    refine List.ext_getElem? fun j => ?_
    rw [List.getElem?_set]
    by_cases hj : p.2 = j
    · have hlt := (List.getElem?_eq_some_iff.mp hc).1
      rw [if_pos hj, if_pos (by rwa [List.length_map]), ← hj, List.getElem?_map, hc]
      rfl
    · rw [if_neg hj]
  unfold undivided setChn
  rw [List.map_set]
  refine List.ext_getElem? fun i => ?_
  rw [List.getElem?_set]
  by_cases hi : p.1 = i
  · have hlt := (List.getElem?_eq_some_iff.mp hd).1
    rw [if_pos hi, if_pos (by rwa [List.length_map]), ← hi, List.getElem?_map, hd]
    simp only [DecoderInfo.undivided, hchns, Option.map_some]
  · rw [if_neg hi]

theorem forall_setChn_iff (h : chnAt g p = some (decoder, chn))
    {P : DecoderInfo → DecoderChnInfo → Prop}
    (hP : ∀ (d : DecoderInfo) (chns : List DecoderChnInfo) (c : DecoderChnInfo),
      P { d with decoderChnInfo := chns } c ↔ P d c)
    (hg : ∀ d ∈ g, ∀ c ∈ d.decoderChnInfo, P d c) (chn' : DecoderChnInfo) :
    (∀ d ∈ setChn g p decoder chn', ∀ c ∈ d.decoderChnInfo, P d c) ↔ P decoder chn' := by
  obtain ⟨hd, hc⟩ := chnAt_some.mp h
  constructor
  · intro hall
    have hmem : { decoder with decoderChnInfo := decoder.decoderChnInfo.set p.2 chn' } ∈
        setChn g p decoder chn' := List.mem_set (List.getElem?_eq_some_iff.mp hd).1 _
    have hchn : chn' ∈ decoder.decoderChnInfo.set p.2 chn' :=
      List.mem_set (List.getElem?_eq_some_iff.mp hc).1 _
    exact (hP _ _ _).mp (hall _ hmem chn' hchn)
  · intro hchn d hmem c hcmem
    rcases List.mem_or_eq_of_mem_set hmem with hold | rfl
    · exact hg d hold c hcmem
    · rw [hP]
      rcases List.mem_or_eq_of_mem_set hcmem with hold | rfl
      · exact hg decoder (List.mem_of_getElem? hd) c hold
      · exact hchn

end setChn

/-! ## The layout of the screens -/

/-- The IDs the channels of a configuration have for their screens, channel by channel. -/
def idRanges (g : List DecoderInfo) : List (List CStr) :=
  g.flatMap fun decoder =>
    decoder.decoderChnInfo.map fun chn => decoder.screenGbIds chn.chnNum

/-- The IDs of all screens of all decoders. -/
def allScreenGbIds (g : List DecoderInfo) : List CStr :=
  g.flatMap fun decoder => decoder.decoderChnInfo.flatMap fun chn =>
    chn.screenInfo.map (·.screenGbId)

/-- A channel with as many screens as the decoder allows, those that are on first. -/
structure ChnWellLaid (decoder : DecoderInfo) (chn : DecoderChnInfo) : Prop where
  nonneg : 0 ≤ chn.curScreenCount
  le_max : chn.curScreenCount ≤ decoder.maxScreenCount
  length : (chn.screenInfo.length : Int) = decoder.maxScreenCount
  status : chn.screenInfo.map (·.status) =
    List.replicate chn.curScreenCount.toNat (str "ON") ++
      List.replicate (decoder.maxScreenCount - chn.curScreenCount).toNat (str "OFF")

structure WellLaid (g : List DecoderInfo) : Prop where
  distinct : (allScreenGbIds g).Nodup
  channels : ∀ decoder ∈ g, ∀ chn ∈ decoder.decoderChnInfo, ChnWellLaid decoder chn

/-- Every channel has a number between zero and the maximum. -/
def InRange (g : List DecoderInfo) : Prop :=
  ∀ decoder ∈ g, ∀ chn ∈ decoder.decoderChnInfo,
    0 ≤ chn.curScreenCount ∧ chn.curScreenCount ≤ decoder.maxScreenCount

theorem idRanges_undivided (g : List DecoderInfo) : idRanges (undivided g) = idRanges g := by
  unfold idRanges undivided
  rw [List.flatMap_map]
  refine List.flatMap_congr fun decoder _ => ?_
  show (decoder.decoderChnInfo.map (·.undivided)).map _ = _
  rw [List.map_map]
  rfl

theorem allScreenGbIds_eq {g : List DecoderInfo} (hlaid : LaidOut g) (hrange : InRange g) :
    allScreenGbIds g = (idRanges g).flatten := by
  unfold allScreenGbIds idRanges
  rw [List.flatMap_def, List.flatMap_def, List.flatten_flatten, List.map_map]
  congr 1
  refine List.map_congr_left fun decoder hd => ?_
  rw [List.flatMap_def]
  refine congrArg List.flatten (List.map_congr_left fun chn hc => ?_)
  rw [hlaid decoder hd chn hc]
  exact decoder.map_screenGbId_screens (hrange decoder hd chn hc).1 (hrange decoder hd chn hc).2

theorem maxCounted_undivided (g : List DecoderInfo) :
    MaxCounted (undivided g) ↔ MaxCounted g := by
  rw [MaxCounted, undivided, List.forall_mem_map, MaxCounted]
  rfl

/-- Screens that are laid out in separate ranges keep the layout if their numbers are in range. -/
theorem wellLaid_iff {g : List DecoderInfo} (hlaid : LaidOut g) (hmax : MaxCounted g)
    (hranges : (idRanges g).Pairwise List.Disjoint) : WellLaid g ↔ InRange g := by
  constructor
  · exact fun h decoder hd chn hc =>
      ⟨(h.channels decoder hd chn hc).nonneg, (h.channels decoder hd chn hc).le_max⟩
  · intro hrange
    refine ⟨?_, fun decoder hd chn hc => ?_⟩
    · rw [allScreenGbIds_eq hlaid hrange, List.nodup_flatten]
      refine ⟨fun ids hids => ?_, hranges⟩
      obtain ⟨decoder, hd, hids⟩ := List.mem_flatMap.mp hids
      obtain ⟨chn, -, rfl⟩ := List.mem_map.mp hids
      exact decoder.nodup_screenGbIds chn.chnNum (hmax decoder hd)
    · obtain ⟨hlo, hhi⟩ := hrange decoder hd chn hc
      have hscreens := hlaid decoder hd chn hc
      refine ⟨hlo, hhi, ?_, ?_⟩
      · rw [hscreens]
        exact decoder.length_screens hlo hhi
      · rw [hscreens]
        exact decoder.map_status_screens

/-! ## One request -/

theorem changedScreens_total {sdk : SDKDecoder} {decoder : DecoderInfo} {chn : DecoderChnInfo}
    {ms : List Int} (h : ∀ m ∈ ms, 0 ≤ m ∧ m < chn.screenInfo.length) :
    ∃ items, changedScreens sdk decoder chn ms = .ok items := by
  induction ms with
  | nil => exact ⟨[], rfl⟩
  | cons m rest ih =>
    obtain ⟨hm, hrest⟩ := List.forall_mem_cons.mp h
    obtain ⟨items, hitems⟩ := ih hrest
    have hlt : m.toNat < chn.screenInfo.length := by omega
    have hscreen : screenAt chn.screenInfo m = .ok chn.screenInfo[m.toNat] := by
      unfold screenAt
      rw [if_neg (by omega), List.getElem?_eq_getElem hlt]
    rw [changedScreens, hscreen, hitems]
    exact ⟨_, rfl⟩

theorem mem_changed {curScreenCount divison m : Int} (h : m ∈ changed curScreenCount divison) :
    min curScreenCount divison ≤ m ∧ m < max curScreenCount divison := by
  unfold changed at h
  by_cases hmore : divison > curScreenCount
  · rw [if_pos hmore, mem_loop] at h
    omega
  · rw [if_neg hmore, mem_loop] at h
    omega

/-- The number asked of a channel that exists lies between zero and the maximum. -/
def AsksInRange (g : List DecoderInfo) (call : DivisonCall) : Prop :=
  ∀ p decoder chn, findChnInfo g call.chnId = some (p, decoder, chn) →
    0 ≤ call.divison ∧ call.divison ≤ decoder.maxScreenCount

/-- What every request keeps: the file, and in memory the decoders of the file with other
divisions. -/
structure Kept (file : Option XMLDocument) (g : List DecoderInfo) (sdk : SDKDecoder) : Prop where
  file_eq : sdk.decoderInfoXml = file
  laid : LaidOut sdk.g_decoderInfo
  undivided_eq : undivided sdk.g_decoderInfo = undivided g

section request

variable {file : Option XMLDocument} {g g' : List DecoderInfo} {sdk : SDKDecoder}
  {call : DivisonCall} {chnId : CStr} {p : Nat × Nat} {decoder : DecoderInfo} {chn : DecoderChnInfo}

/-- Decoders that differ in divisions alone have the same channels at the same places. -/
theorem findChnInfo_of_undivided (hu : undivided g' = undivided g)
    (h : findChnInfo g' chnId = some (p, decoder, chn)) :
    ∃ decoder₀ chn₀, findChnInfo g chnId = some (p, decoder₀, chn₀) ∧
      decoder₀.maxScreenCount = decoder.maxScreenCount := by
  obtain ⟨hp, hat⟩ := findChnInfo_some.mp h
  have hchn : (chnAt g p).map (fun found => (found.1.undivided, found.2.undivided)) =
      some (decoder.undivided, chn.undivided) := by
    rw [← chnAt_undivided, ← hu, chnAt_undivided, hat]
    rfl
  obtain ⟨⟨decoder₀, chn₀⟩, hat₀, heq⟩ := Option.map_eq_some_iff.mp hchn
  refine ⟨decoder₀, chn₀, findChnInfo_some.mpr ⟨?_, hat₀⟩, ?_⟩
  · rw [← chnIds_undivided, ← hu, chnIds_undivided]
    exact hp
  · exact congrArg (fun found => found.1.maxScreenCount) heq

theorem asksInRange_congr (hu : undivided g' = undivided g) :
    AsksInRange g' call ↔ AsksInRange g call := by
  constructor
  · intro h p decoder chn hfound
    obtain ⟨decoder', chn', hfound', hmax⟩ := findChnInfo_of_undivided hu.symm hfound
    rw [← hmax]
    exact h p decoder' chn' hfound'
  · intro h p decoder chn hfound
    obtain ⟨decoder', chn', hfound', hmax⟩ := findChnInfo_of_undivided hu hfound
    rw [← hmax]
    exact h p decoder' chn' hfound'

theorem divisonStep_total {ret : Bool}
    (hread : getDecoderInfo sdk.decoderInfoXml [] = .ok (ret, g))
    (hrange : InRange sdk.g_decoderInfo)
    (hfound : findChnInfo sdk.g_decoderInfo call.chnId = some (p, decoder, chn))
    (hlo : 0 ≤ call.divison) (hhi : call.divison ≤ decoder.maxScreenCount) :
    divisonStep sdk call = .ok { sdk with
      g_decoderInfo := setChn sdk.g_decoderInfo p decoder (decoder.divide call.divison chn) } := by
  obtain ⟨result, hresult⟩ :=
    modifyXmlDivisonInfo_total hread decoder.gbId chn.chnNum call.divison
  obtain ⟨hd, hc⟩ := mem_of_chnAt (findChnInfo_some.mp hfound).2
  obtain ⟨hcur, hcur'⟩ := hrange decoder hd chn hc
  have hlength : ((decoder.divide call.divison chn).screenInfo.length : Int) =
      decoder.maxScreenCount := decoder.length_screens hlo hhi
  obtain ⟨items, hitems⟩ : ∃ items, changedScreens sdk decoder (decoder.divide call.divison chn)
      (changed chn.curScreenCount call.divison) = .ok items := by
    refine changedScreens_total fun m hm => ?_
    have hbounds := mem_changed hm
    omega
  rw [divisonStep_some hfound, hresult]
  show (changedScreens sdk decoder (decoder.divide call.divison chn)
    (changed chn.curScreenCount call.divison) >>= _) = _
  rw [hitems]
  rfl

theorem divisonStep_ok {sdk' : SDKDecoder}
    (hfound : findChnInfo sdk.g_decoderInfo call.chnId = some (p, decoder, chn))
    (h : divisonStep sdk call = .ok sdk') :
    sdk' = { sdk with
      g_decoderInfo := setChn sdk.g_decoderInfo p decoder (decoder.divide call.divison chn) } := by
  rw [divisonStep_some hfound] at h
  obtain ⟨_, -, h⟩ := bind_eq_ok_iff.mp h
  obtain ⟨_, -, h⟩ := bind_eq_ok_iff.mp h
  cases h
  rfl

theorem laidOut_divide (hlaid : LaidOut g) (hat : chnAt g p = some (decoder, chn)) (n : Int) :
    LaidOut (setChn g p decoder (decoder.divide n chn)) :=
  (forall_setChn_iff hat
    (P := fun d c => c.screenInfo = d.screens c.chnNum c.curScreenCount)
    (fun _ _ _ => Iff.rfl) hlaid _).mpr rfl

theorem inRange_divide_iff (hrange : InRange g) (hat : chnAt g p = some (decoder, chn)) (n : Int) :
    InRange (setChn g p decoder (decoder.divide n chn)) ↔ 0 ≤ n ∧ n ≤ decoder.maxScreenCount :=
  forall_setChn_iff hat
    (P := fun d c => 0 ≤ c.curScreenCount ∧ c.curScreenCount ≤ d.maxScreenCount)
    (fun _ _ _ => Iff.rfl) hrange _

/-- **One request** keeps the decoders apart from divisions. -/
theorem kept_divisonStep {sdk' : SDKDecoder} (h : Kept file g sdk)
    (hstep : divisonStep sdk call = .ok sdk') : Kept file g sdk' := by
  cases hfound : findChnInfo sdk.g_decoderInfo call.chnId with
  | none =>
    cases (divisonStep_none hfound).symm.trans hstep
    exact h
  | some found =>
    obtain ⟨p, decoder, chn⟩ := found
    have hat := (findChnInfo_some.mp hfound).2
    rw [divisonStep_ok hfound hstep]
    exact {
      file_eq := h.file_eq
      laid := laidOut_divide h.laid hat _
      undivided_eq := (undivided_setChn hat).trans h.undivided_eq }

/-- **One request** comes to its end and keeps all numbers in range exactly when its own is. -/
theorem divisonStep_inRange_iff {ret : Bool} (hread : getDecoderInfo file [] = .ok (ret, g))
    (h : Kept file g sdk) (hrange : InRange sdk.g_decoderInfo) :
    (∃ sdk', divisonStep sdk call = .ok sdk' ∧ InRange sdk'.g_decoderInfo) ↔
      AsksInRange g call := by
  rw [← asksInRange_congr h.undivided_eq]
  cases hfound : findChnInfo sdk.g_decoderInfo call.chnId with
  | none =>
    constructor
    · intro _ p decoder chn hsome
      rw [hfound] at hsome
      cases hsome
    · exact fun _ => ⟨sdk, divisonStep_none hfound, hrange⟩
  | some found =>
    obtain ⟨p, decoder, chn⟩ := found
    have hat := (findChnInfo_some.mp hfound).2
    constructor
    · rintro ⟨sdk', hstep, hrange'⟩ p' decoder' chn' hsome
      cases hfound.symm.trans hsome
      rw [divisonStep_ok hfound hstep] at hrange'
      exact (inRange_divide_iff hrange hat _).mp hrange'
    · intro hasks
      obtain ⟨hlo, hhi⟩ := hasks p decoder chn hfound
      exact ⟨_, divisonStep_total (h.file_eq ▸ hread) hrange hfound hlo hhi,
        (inRange_divide_iff hrange hat _).mpr ⟨hlo, hhi⟩⟩

end request

/-! ## Layout of a run -/

structure Loaded (sdk : SDKDecoder) : Prop where
  read : getDecoderInfo sdk.decoderInfoXml [] = .ok (true, sdk.g_decoderInfo)

theorem Loaded.kept {sdk : SDKDecoder} (h : Loaded sdk) :
    Kept sdk.decoderInfoXml sdk.g_decoderInfo sdk :=
  ⟨rfl, getDecoderInfo_laidOut h.read, rfl⟩

theorem wellLaid_iff_of_kept {file : Option XMLDocument} {g : List DecoderInfo}
    {sdk : SDKDecoder} (hmax : MaxCounted g) (hranges : (idRanges g).Pairwise List.Disjoint)
    (h : Kept file g sdk) : WellLaid sdk.g_decoderInfo ↔ InRange sdk.g_decoderInfo := by
  have hmax' : MaxCounted sdk.g_decoderInfo := by
    rwa [← maxCounted_undivided, h.undivided_eq, maxCounted_undivided]
  refine wellLaid_iff h.laid hmax' ?_
  rw [← idRanges_undivided, h.undivided_eq, idRanges_undivided]
  exact hranges

/-- The attributes of a decoder with two channels of four screens, one and none of them on. -/
def oneDecoder : DecoderInfo where
  gbId := str "34020000001140000001"
  guid := str "d"
  chnIdStart := 0
  screenIdStart := 0
  maxScreenCount := 4
  validFlag := 1
  decoderChnInfo := []

def oneChn : DecoderChnInfo where
  chnNum := 0
  curScreenCount := 1
  chnGbId := oneDecoder.gbPrefix ++ str "0170" ++ zeroPadInt 5 0
  screenInfo := oneDecoder.screens 0 1

def secondChn : DecoderChnInfo where
  chnNum := 1
  curScreenCount := 0
  chnGbId := oneDecoder.gbPrefix ++ str "0170" ++ zeroPadInt 5 1
  screenInfo := oneDecoder.screens 1 0

def oneDecoderFile : XMLDocument where
  error := false
  children := [.mk (str "config") [] [.mk (str "decoderInfo") [] [
    .mk (str "decoder")
      [(str "gbId", str "34020000001140000001"), (str "guid", str "d"),
        (str "chnIdStart", str "0"), (str "screenIdStart", str "0"),
        (str "maxScreenCount", str "4"), (str "validFlag", str "1")]
      [.mk (str "chn") [(str "chnNum", str "0"), (str "curScreenCount", str "1")] [],
        .mk (str "chn") [(str "chnNum", str "1"), (str "curScreenCount", str "0")] []]]]]

def oneDecoderSdk : SDKDecoder where
  decoderInfoXml := some oneDecoderFile
  g_decoderInfo := [{ oneDecoder with decoderChnInfo := [oneChn, secondChn] }]
  g_decoderCatalogInfo := []
  freshItem :=
    { m_strDeviceID := [], m_strName := [], m_strManufacturer := [], m_strModel := []
      m_strOwner := [], m_strCivilCode := [], m_strBlock := [], m_strAddress := []
      m_strParental := [], m_strParentID := [], m_strSafetyWay := [], m_strRegisterWay := []
      m_strCertifiable := [], m_strErrCode := [], m_strSecrecy := [], m_strStatus := []
      m_strLongitude := [], m_strLatitude := [], m_strInfoPTZType := [], eGBDeviceType := 0
      m_strOperateType := [], m_strChnNum := [] }

theorem oneDecoder_loaded : Loaded oneDecoderSdk := ⟨rfl⟩

theorem oneDecoder_inRange : InRange oneDecoderSdk.g_decoderInfo := by
  intro decoder hd
  obtain rfl := List.mem_singleton.mp hd
  rw [List.forall_mem_cons, List.forall_mem_singleton]
  decide

theorem findChnInfo_oneChn :
    findChnInfo oneDecoderSdk.g_decoderInfo oneChn.chnGbId =
      some ((0, 0), { oneDecoder with decoderChnInfo := [oneChn, secondChn] }, oneChn) :=
  findChnInfo_some.mpr ⟨by simp [findChn, chnIds, oneDecoderSdk, List.findIdx?_cons], rfl⟩

theorem oneDecoder_asksInRange_iff {n : Int} :
    AsksInRange oneDecoderSdk.g_decoderInfo ⟨oneChn.chnGbId, n⟩ ↔ 0 ≤ n ∧ n ≤ 4 := by
  constructor
  · exact fun h => h _ _ _ findChnInfo_oneChn
  · intro h p decoder chn hfound
    cases findChnInfo_oneChn.symm.trans hfound
    exact h

theorem oneDecoder_ranges :
    (idRanges oneDecoderSdk.g_decoderInfo).Pairwise List.Disjoint := by
  have hranges : idRanges oneDecoderSdk.g_decoderInfo =
      [oneDecoder.screenGbIds 0, oneDecoder.screenGbIds 1] := rfl
  have hapart : ∀ id ∈ oneDecoder.screenGbIds 0, id ∉ oneDecoder.screenGbIds 1 := by
    decide +kernel
  rw [hranges, List.pairwise_pair]
  exact fun id hid => hapart id hid

/-- **Screens of a run of requests.**  From a file whose channels have separate ranges of IDs,
every state has all screens in their layout, and every request comes to its end, exactly when
every number of the file and every number asked of a channel that exists is in range. -/
theorem keepsLayout_iff {sdk : SDKDecoder} (hload : Loaded sdk)
    (hranges : (idRanges sdk.g_decoderInfo).Pairwise List.Disjoint) (requests : List DivisonCall) :
    (WellLaid sdk.g_decoderInfo ∧ ∀ p ∈ tryCalls divisonStep sdk requests,
      ∃ sdk', divisonStep p.1 p.2 = .ok sdk' ∧ WellLaid sdk'.g_decoderInfo) ↔
    InRange sdk.g_decoderInfo ∧ ∀ call ∈ requests, AsksInRange sdk.g_decoderInfo call := by
  have hlaid : ∀ s, Kept sdk.decoderInfoXml sdk.g_decoderInfo s →
      (WellLaid s.g_decoderInfo ↔ InRange s.g_decoderInfo) :=
    fun s hs => wellLaid_iff_of_kept (getDecoderInfo_maxCounted hload.read) hranges hs
  rw [hlaid sdk hload.kept]
  refine and_congr_right fun hrange => ?_
  refine forall_tryCalls_iff_forall (Kept sdk.decoderInfoXml sdk.g_decoderInfo)
    (fun s => WellLaid s.g_decoderInfo) (fun s call s' hs hstep => kept_divisonStep hs hstep)
    (fun s call _ hs hgood => ?_) hload.kept ((hlaid sdk hload.kept).mpr hrange)
  rw [← divisonStep_inRange_iff hload.read hs ((hlaid s hs).mp hgood)]
  refine exists_congr fun s' => and_congr_right fun hstep => ?_
  exact hlaid s' (kept_divisonStep hs hstep)

/-- All four screens, and then two of them. -/
theorem keepsLayout_iff_oneDecoder :
    WellLaid oneDecoderSdk.g_decoderInfo ∧
      ∀ p ∈ tryCalls divisonStep oneDecoderSdk [⟨oneChn.chnGbId, 4⟩, ⟨oneChn.chnGbId, 2⟩],
        ∃ sdk', divisonStep p.1 p.2 = .ok sdk' ∧ WellLaid sdk'.g_decoderInfo := by
  refine (keepsLayout_iff oneDecoder_loaded oneDecoder_ranges _).mpr ⟨oneDecoder_inRange, ?_⟩
  rw [List.forall_mem_cons, List.forall_mem_singleton]
  exact ⟨oneDecoder_asksInRange_iff.mpr (by decide), oneDecoder_asksInRange_iff.mpr (by decide)⟩

/-- Five screens of four: the fifth has the first ID of the other channel, and a request for none
reads past the others. -/
theorem five_screens_not_kept :
    Loaded oneDecoderSdk ∧ (idRanges oneDecoderSdk.g_decoderInfo).Pairwise List.Disjoint ∧
      ¬ (WellLaid oneDecoderSdk.g_decoderInfo ∧
        ∀ p ∈ tryCalls divisonStep oneDecoderSdk [⟨oneChn.chnGbId, 5⟩, ⟨oneChn.chnGbId, 0⟩],
          ∃ sdk', divisonStep p.1 p.2 = .ok sdk' ∧ WellLaid sdk'.g_decoderInfo) := by
  refine ⟨oneDecoder_loaded, oneDecoder_ranges, fun ⟨_, h⟩ => ?_⟩
  obtain ⟨sdk', hstep, hlaid⟩ := h (oneDecoderSdk, ⟨oneChn.chnGbId, 5⟩) List.mem_cons_self
  have hkept := kept_divisonStep oneDecoder_loaded.kept hstep
  have hmax := getDecoderInfo_maxCounted oneDecoder_loaded.read
  have hrange := (wellLaid_iff_of_kept hmax oneDecoder_ranges hkept).mp hlaid
  have hasks := (divisonStep_inRange_iff oneDecoder_loaded.read oneDecoder_loaded.kept
    oneDecoder_inRange).mp ⟨sdk', hstep, hrange⟩
  have hfive := (oneDecoder_asksInRange_iff.mp hasks).2
  omega

/-! ## Restarts -/

/-- The number of screens that are on for the channel at a place. -/
def divisonAt (g : List DecoderInfo) (q : Nat × Nat) : Option Int :=
  (chnAt g q).map (·.2.curScreenCount)

/-- A request that is about the channel at a place. -/
def DivisonCall.reaches (call : DivisonCall) (g : List DecoderInfo) (q : Nat × Nat) : Bool :=
  (findChnInfo g call.chnId).any fun found => found.1 = q

/-- The last number asked of the channel at a place, or another one if none was. -/
def numberAfter (g : List DecoderInfo) (requests : List DivisonCall) (q : Nat × Nat) (n : Int) :
    Int :=
  ((requests.filter (·.reaches g q)).getLast?.map (·.divison)).getD n

theorem numberAfter_cons (g : List DecoderInfo) (call : DivisonCall) (rest : List DivisonCall)
    (q : Nat × Nat) (n : Int) :
    numberAfter g (call :: rest) q n =
      numberAfter g rest q (if call.reaches g q then call.divison else n) := by
  unfold numberAfter
  rw [List.filter_cons]
  by_cases hreach : call.reaches g q = true
  · rw [if_pos hreach, if_pos hreach, List.getLast?_cons]
    cases (rest.filter (·.reaches g q)).getLast? with
    | none => rfl
    | some last => rfl
  · rw [if_neg hreach, if_neg hreach]

theorem divisonAt_setChn {g : List DecoderInfo} {p : Nat × Nat} {decoder : DecoderInfo}
    {chn chn' : DecoderChnInfo} (h : chnAt g p = some (decoder, chn)) (q : Nat × Nat) :
    divisonAt (setChn g p decoder chn') q =
      if p = q then some chn'.curScreenCount else divisonAt g q := by
  obtain ⟨hd, hc⟩ := chnAt_some.mp h
  have hlt := (List.getElem?_eq_some_iff.mp hd).1
  have hlt' := (List.getElem?_eq_some_iff.mp hc).1
  unfold divisonAt chnAt setChn
  rw [List.getElem?_set]
  by_cases hi : p.1 = q.1
  · rw [if_pos hi, if_pos hlt, ← hi, hd]
    show Option.map _ ((decoder.decoderChnInfo.set p.2 chn')[q.2]? >>= _) =
      if p = q then _ else Option.map _ (decoder.decoderChnInfo[q.2]? >>= _)
    rw [List.getElem?_set]
    by_cases hj : p.2 = q.2
    · rw [if_pos hj, if_pos hlt', if_pos (Prod.ext hi hj)]
      rfl
    · rw [if_neg hj, if_neg fun hpq => hj (congrArg Prod.snd hpq)]
      cases decoder.decoderChnInfo[q.2]? with
      | none => rfl
      | some c => rfl
  · rw [if_neg hi, if_neg fun hpq => hi (congrArg Prod.fst hpq)]

theorem divisonAt_step {file : Option XMLDocument} {g : List DecoderInfo} {sdk sdk' : SDKDecoder}
    {call : DivisonCall} (hkept : Kept file g sdk) (hstep : divisonStep sdk call = .ok sdk')
    (q : Nat × Nat) :
    divisonAt sdk'.g_decoderInfo q = (divisonAt sdk.g_decoderInfo q).map
      fun n => if call.reaches g q then call.divison else n := by
  cases hfound : findChnInfo sdk.g_decoderInfo call.chnId with
  | none =>
    cases (divisonStep_none hfound).symm.trans hstep
    have hnone : call.reaches g q = false := by
      unfold DivisonCall.reaches
      cases hg : findChnInfo g call.chnId with
      | none => rfl
      | some found =>
        obtain ⟨p, decoder, chn⟩ := found
        obtain ⟨_, _, hsome, -⟩ := findChnInfo_of_undivided hkept.undivided_eq.symm hg
        rw [hfound] at hsome
        cases hsome
    rw [hnone]
    exact Option.map_id'.symm
  | some found =>
    obtain ⟨p, decoder, chn⟩ := found
    obtain ⟨_, _, hsome, -⟩ := findChnInfo_of_undivided hkept.undivided_eq hfound
    have hat := (findChnInfo_some.mp hfound).2
    have hreach : call.reaches g q = decide (p = q) := by
      unfold DivisonCall.reaches
      rw [hsome]
      rfl
    rw [divisonStep_ok hfound hstep, hreach]
    show divisonAt (setChn sdk.g_decoderInfo p decoder _) q = _
    rw [divisonAt_setChn hat]
    by_cases hpq : p = q
    · subst hpq
      unfold divisonAt
      simp [hat, DecoderInfo.divide]
    · simp [hpq]

/-- Two lists whose values agree under a map at every place, and then agree at every place. -/
theorem ext_of_map {α β : Type} {f : α → β} {l l' : List α} (hf : l.map f = l'.map f)
    (h : ∀ (i : Nat) a a', l[i]? = some a → l'[i]? = some a' → f a = f a' → a = a') : l = l' := by
  refine List.ext_getElem? fun i => ?_
  have hi : l[i]?.map f = l'[i]?.map f := by
    rw [← List.getElem?_map, ← List.getElem?_map, hf]
  cases ha : l[i]? with
  | none =>
    rw [ha] at hi
    exact (Option.map_eq_none_iff.mp hi.symm).symm
  | some a =>
    rw [ha] at hi
    obtain ⟨a', ha', heq⟩ := Option.map_eq_some_iff.mp hi.symm
    rw [ha', h i a a' ha ha' heq.symm]

/-- Decoders that are laid out are known from their divisions and what is not divided. -/
theorem eq_of_divisonAt {g g' : List DecoderInfo} (hlaid : LaidOut g) (hlaid' : LaidOut g')
    (hu : undivided g = undivided g') (hdiv : ∀ q, divisonAt g q = divisonAt g' q) : g = g' := by
  refine ext_of_map hu fun i decoder decoder' hd hd' heq => ?_
  have hchns : decoder.decoderChnInfo = decoder'.decoderChnInfo := by
    refine ext_of_map (congrArg (·.decoderChnInfo) heq) fun j chn chn' hc hc' heq' => ?_
    have hcur : chn.curScreenCount = chn'.curScreenCount := by
      have h := hdiv (i, j)
      unfold divisonAt at h
      rw [chnAt_some.mpr ⟨hd, hc⟩, chnAt_some.mpr ⟨hd', hc'⟩] at h
      exact Option.some.inj h
    have hnum : chn.chnNum = chn'.chnNum := congrArg (·.chnNum) heq'
    have hscreens : chn.screenInfo = chn'.screenInfo := by
      rw [hlaid decoder (List.mem_of_getElem? hd) chn (List.mem_of_getElem? hc),
        hlaid' decoder' (List.mem_of_getElem? hd') chn' (List.mem_of_getElem? hc'), hnum, hcur]
      have hsame : decoder.undivided.screens chn'.chnNum chn'.curScreenCount =
          decoder'.undivided.screens chn'.chnNum chn'.curScreenCount := by rw [heq]
      exact hsame
    calc chn = { chn.undivided with
          curScreenCount := chn.curScreenCount, screenInfo := chn.screenInfo } := rfl
      _ = chn' := by rw [heq', hcur, hscreens]; rfl
  calc decoder = { decoder.undivided with decoderChnInfo := decoder.decoderChnInfo } := rfl
    _ = decoder' := by rw [heq, hchns]; rfl

theorem tryRun_divisonAt {file : Option XMLDocument} {g : List DecoderInfo} {ret : Bool}
    (hread : getDecoderInfo file [] = .ok (ret, g)) {requests : List DivisonCall}
    (hasks : ∀ call ∈ requests, AsksInRange g call) {sdk : SDKDecoder} (hkept : Kept file g sdk)
    (hrange : InRange sdk.g_decoderInfo) :
    ∃ sdk', tryRun divisonStep sdk requests = .ok sdk' ∧ Kept file g sdk' ∧
      ∀ q, divisonAt sdk'.g_decoderInfo q =
        (divisonAt sdk.g_decoderInfo q).map (numberAfter g requests q) := by
  induction requests generalizing sdk with
  | nil =>
    refine ⟨sdk, rfl, hkept, fun q => ?_⟩
    cases divisonAt sdk.g_decoderInfo q with
    | none => rfl
    | some n => rfl
  | cons call rest ih =>
    obtain ⟨hcall, hrest⟩ := List.forall_mem_cons.mp hasks
    obtain ⟨sdk₁, hstep, hrange₁⟩ := (divisonStep_inRange_iff hread hkept hrange).mpr hcall
    obtain ⟨sdk', hrun, hkept', hnumbers⟩ := ih hrest (kept_divisonStep hkept hstep) hrange₁
    refine ⟨sdk', (tryRun_cons_ok hstep).trans hrun, hkept', fun q => ?_⟩
    rw [hnumbers, divisonAt_step hkept hstep, Option.map_map]
    refine congrArg (Option.map · _) (funext fun n => ?_)
    exact (numberAfter_cons g call rest q n).symm

/-- **A division after a restart.**  Requests with numbers in range are all carried out; the file
read again gives the state in memory exactly when the last number asked of each channel is the one
the file has. -/
theorem survivesRestart_iff {sdk : SDKDecoder} (hload : Loaded sdk)
    (hrange : InRange sdk.g_decoderInfo) {requests : List DivisonCall}
    (hasks : ∀ call ∈ requests, AsksInRange sdk.g_decoderInfo call) :
    (∃ sdk', tryRun divisonStep sdk requests = .ok sdk' ∧
      getDecoderInfo sdk'.decoderInfoXml [] = .ok (true, sdk'.g_decoderInfo)) ↔
    ∀ q n, divisonAt sdk.g_decoderInfo q = some n →
      numberAfter sdk.g_decoderInfo requests q n = n := by
  obtain ⟨sdk', hrun, hkept, hnumbers⟩ := tryRun_divisonAt hload.read hasks hload.kept hrange
  have hread : getDecoderInfo sdk'.decoderInfoXml [] = .ok (true, sdk.g_decoderInfo) := by
    rw [hkept.file_eq]
    exact hload.read
  constructor
  · rintro ⟨sdk'', hrun', hagain⟩ q n hn
    obtain rfl : sdk' = sdk'' := Except.ok.inj (hrun.symm.trans hrun')
    have hsame : sdk.g_decoderInfo = sdk'.g_decoderInfo :=
      congrArg Prod.snd (Except.ok.inj (hread.symm.trans hagain))
    have h := hnumbers q
    rw [← hsame, hn] at h
    exact (Option.some.inj h).symm
  · intro hlast
    refine ⟨sdk', hrun, ?_⟩
    have hsame : sdk'.g_decoderInfo = sdk.g_decoderInfo := by
      refine eq_of_divisonAt hkept.laid hload.kept.laid hkept.undivided_eq fun q => ?_
      rw [hnumbers]
      cases hn : divisonAt sdk.g_decoderInfo q with
      | none => rfl
      | some n => exact congrArg some (hlast q n hn)
    rw [hread, hsame]

theorem oneChn_reaches (n : Int) (q : Nat × Nat) :
    DivisonCall.reaches ⟨oneChn.chnGbId, n⟩ oneDecoderSdk.g_decoderInfo q =
      decide ((0, 0) = q) := by
  unfold DivisonCall.reaches
  rw [findChnInfo_oneChn]
  rfl

/-- A request for two screens, and one for the number the file has. -/
theorem survivesRestart_iff_oneDecoder :
    ∃ sdk', tryRun divisonStep oneDecoderSdk [⟨oneChn.chnGbId, 2⟩, ⟨oneChn.chnGbId, 1⟩] =
        .ok sdk' ∧
      getDecoderInfo sdk'.decoderInfoXml [] = .ok (true, sdk'.g_decoderInfo) := by
  refine (survivesRestart_iff oneDecoder_loaded oneDecoder_inRange ?_).mpr ?_
  · rw [List.forall_mem_cons, List.forall_mem_singleton]
    exact ⟨oneDecoder_asksInRange_iff.mpr (by decide), oneDecoder_asksInRange_iff.mpr (by decide)⟩
  · intro q n hn
    rw [numberAfter_cons, numberAfter_cons, oneChn_reaches, oneChn_reaches]
    by_cases hq : (0, 0) = q
    · subst hq
      exact Option.some.inj hn
    · rw [decide_eq_false hq]
      rfl

/-- Two screens asked of one that has one: read again, the file says one. -/
theorem two_screens_lost :
    Loaded oneDecoderSdk ∧ InRange oneDecoderSdk.g_decoderInfo ∧
      (∃ found, findChnInfo oneDecoderSdk.g_decoderInfo oneChn.chnGbId = some found) ∧
      AsksInRange oneDecoderSdk.g_decoderInfo ⟨oneChn.chnGbId, 2⟩ ∧
      ¬ ∃ sdk', tryRun divisonStep oneDecoderSdk [⟨oneChn.chnGbId, 2⟩] = .ok sdk' ∧
        getDecoderInfo sdk'.decoderInfoXml [] = .ok (true, sdk'.g_decoderInfo) := by
  have hasks : AsksInRange oneDecoderSdk.g_decoderInfo ⟨oneChn.chnGbId, 2⟩ :=
    oneDecoder_asksInRange_iff.mpr ⟨by decide, by decide⟩
  refine ⟨oneDecoder_loaded, oneDecoder_inRange, ⟨_, findChnInfo_oneChn⟩, hasks, ?_⟩
  rintro ⟨sdk', hrun, hagain⟩
  obtain ⟨sdk'', hrun', hkept, hnumbers⟩ := tryRun_divisonAt oneDecoder_loaded.read
    (List.forall_mem_singleton.mpr hasks) oneDecoder_loaded.kept oneDecoder_inRange
  obtain rfl : sdk' = sdk'' := Except.ok.inj (hrun.symm.trans hrun')
  rw [hkept.file_eq] at hagain
  have hsame : oneDecoderSdk.g_decoderInfo = sdk'.g_decoderInfo :=
    congrArg Prod.snd (Except.ok.inj (oneDecoder_loaded.read.symm.trans hagain))
  have h := hnumbers (0, 0)
  rw [← hsame] at h
  have h' : (1 : Int) = numberAfter oneDecoderSdk.g_decoderInfo [⟨oneChn.chnGbId, 2⟩] (0, 0) 1 :=
    Option.some.inj h
  rw [numberAfter_cons, oneChn_reaches] at h'
  exact absurd h' (by decide)

end GB28181.Platform.SDKCom
