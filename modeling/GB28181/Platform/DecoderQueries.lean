import GB28181.Platform.DecoderDivision

/-!
# Catalogue queries of decoders (`SDKCom/SDKDecoder.cpp`)

`getAllDecoderChnAndDivisonCatalog` lists the channels of all decoders, each with its screens.
Three other functions list those of a decoder, a channel or a screen with a given ID; their loops
over the screens read `screenInfo[i]`, where `i` counts the decoders, and two of them add an entry
for every decoder they come past.

* `getAll_eq` — where every channel has as many screens as its decoder allows, all entries are
  listed and nothing is read out of range;
* `getOneDeocder_iff` — the entries of a decoder are those of the whole list **exactly when** each
  of its screens is the one at the decoder's own index;
* `oneChnFrom_length` — the entries of a channel are more than its own;
* `agrees_iff` — the queries agree for all decoders, channels and screens **exactly when** there is
  no channel.

The IDs of channels and screens are short, so their names fit into the buffers they are printed to.
-/

set_option autoImplicit false

namespace GB28181.Platform.SDKCom

open GB28181.Base

/-! ## Entries -/

def getChnCatalog (parentId chnName chnGbId opType : CStr) (catalog : DecoderCatalog) :
    DecoderCatalog :=
  { catalog with
    m_strParentID := parentId
    m_strDeviceID := chnGbId
    m_strName := chnName
    m_strParental := str "1"
    m_strOperateType := opType
    m_strStatus := str "ON"
    m_strChnNum := chnName }

def chnName (chnInfo : DecoderChnInfo) : CStr :=
  str "ch_" ++ chnInfo.chnGbId ++ str "_" ++ zeroPadInt 0 chnInfo.chnNum

def divisonName (screenInfo : ScreenInfo) (k : Int) : CStr :=
  str "divison_" ++ screenInfo.screenGbId ++ str "_" ++ zeroPadInt 0 k

/-- What becomes of a catalogue item for a channel. -/
def chnItem (opType : CStr) (decoder : DecoderInfo) (chnInfo : DecoderChnInfo)
    (catalog : DecoderCatalog) : DecoderCatalog :=
  getChnCatalog decoder.gbId (chnName chnInfo) chnInfo.chnGbId opType catalog

/-- What becomes of a catalogue item for a screen. -/
def divisonItem (opType : CStr) (chnInfo : DecoderChnInfo) (k : Int) (screenInfo : ScreenInfo)
    (catalog : DecoderCatalog) : DecoderCatalog :=
  getDivisonCatalog chnInfo.chnGbId (divisonName screenInfo k) screenInfo.screenGbId opType
    screenInfo.status screenInfo.screenNum catalog

def opADD : CStr := str "ADD"

/-! ## The whole list -/

/-- The item `k` of a channel's screens, counted from one. -/
def allDivison (sdk : SDKDecoder) (decoder : DecoderInfo) (chnInfo : DecoderChnInfo) (k : Int) :
    Except SDKFault DecoderCatalog := do
  let screenInfo ← screenAt chnInfo.screenInfo (k - 1)
  return divisonItem opADD chnInfo k screenInfo (sdk.getSingleDecoderCatalogByGbId decoder.gbId)

def allChn (sdk : SDKDecoder) (decoder : DecoderInfo) (chnInfo : DecoderChnInfo) :
    Except SDKFault (List DecoderCatalog) := do
  let decoderCatalog :=
    chnItem opADD decoder chnInfo (sdk.getSingleDecoderCatalogByGbId decoder.gbId)
  let divisons ← (loop 1 decoder.maxScreenCount).mapM (allDivison sdk decoder chnInfo)
  return decoderCatalog :: divisons

/-- `getAllDecoderChnAndDivisonCatalog`: the number and the entries. -/
def getAllDecoderChnAndDivisonCatalog (sdk : SDKDecoder) :
    Except SDKFault (Int × List DecoderCatalog) := do
  let lists ← sdk.g_decoderInfo.mapM fun decoder =>
    decoder.decoderChnInfo.mapM (allChn sdk decoder)
  return ((lists.flatten.flatten.length : Int), lists.flatten.flatten)

/-! ## One decoder, one channel, one screen -/

/-- `appConf.m_UpperList[0].str_ID`. -/
def firstUpper : List CStr → Except SDKFault CStr
  | [] => .error .outOfRange
  | str_ID :: _ => .ok str_ID

/-- The entry of a decoder; the ID of the upper platform goes into `m_strParental`. -/
def decoderItem (sdk : SDKDecoder) (m_UpperList : List CStr) (decoder : DecoderInfo) :
    Except SDKFault DecoderCatalog := do
  let str_ID ← firstUpper m_UpperList
  return { sdk.getSingleDecoderCatalogByGbId decoder.gbId with m_strParental := str_ID }

/-- A loop over the screens of a channel of decoder `i`: the screen is `screenInfo[i]` every time,
and it is put into the same item. -/
def sameDivisons (i : Nat) (chnInfo : DecoderChnInfo) :
    DecoderCatalog → List Int → Except SDKFault (List DecoderCatalog)
  | _, [] => .ok []
  | decoderCatalog, k :: rest => do
    let screenInfo ← screenAt chnInfo.screenInfo i
    let decoderCatalog := divisonItem opADD chnInfo k screenInfo decoderCatalog
    return decoderCatalog :: (← sameDivisons i chnInfo decoderCatalog rest)

/-- A channel of decoder `i`. -/
def sameChn (sdk : SDKDecoder) (i : Nat) (decoder : DecoderInfo) (chnInfo : DecoderChnInfo) :
    Except SDKFault (List DecoderCatalog) := do
  let decoderCatalog :=
    chnItem opADD decoder chnInfo (sdk.getSingleDecoderCatalogByGbId decoder.gbId)
  let divisons ← sameDivisons i chnInfo decoderCatalog (loop 1 decoder.maxScreenCount)
  return decoderCatalog :: divisons

/-- The loop of `getOneDeocderAllCatalog`, which ends at the first decoder with the ID. -/
def oneDeocderFrom (sdk : SDKDecoder) (m_UpperList : List CStr) (gbId : CStr) :
    Nat → List DecoderInfo → Except SDKFault (List DecoderCatalog)
  | _, [] => .ok []
  | i, decoder :: rest =>
    if decoder.gbId ≠ gbId then oneDeocderFrom sdk m_UpperList gbId (i + 1) rest
    else do
      let decoderCatalog ← decoderItem sdk m_UpperList decoder
      let lists ← decoder.decoderChnInfo.mapM (sameChn sdk i decoder)
      return decoderCatalog :: lists.flatten

def getOneDeocderAllCatalog (sdk : SDKDecoder) (m_UpperList : List CStr) (gbId : CStr) :
    Except SDKFault (List DecoderCatalog) :=
  oneDeocderFrom sdk m_UpperList gbId 0 sdk.g_decoderInfo

/-- The loop of `getOneDecoderChnAllCatalog`: an entry for every decoder. -/
def oneChnFrom (sdk : SDKDecoder) (m_UpperList : List CStr) (gbId : CStr) :
    Nat → List DecoderInfo → Except SDKFault (List DecoderCatalog)
  | _, [] => .ok []
  | i, decoder :: rest => do
    let decoderCatalog ← decoderItem sdk m_UpperList decoder
    let lists ← (decoder.decoderChnInfo.filter (·.chnGbId = gbId)).mapM (sameChn sdk i decoder)
    return decoderCatalog :: (lists.flatten ++ (← oneChnFrom sdk m_UpperList gbId (i + 1) rest))

def getOneDecoderChnAllCatalog (sdk : SDKDecoder) (m_UpperList : List CStr) (gbId : CStr) :
    Except SDKFault (List DecoderCatalog) :=
  oneChnFrom sdk m_UpperList gbId 0 sdk.g_decoderInfo

/-- The loop over the screens of `getOneDecoderChnOneDivisonCatalog`: the item is added before and
after the screen is put into it. -/
def oneDivisons (gbId : CStr) (i : Nat) (chnInfo : DecoderChnInfo) :
    DecoderCatalog → List Int → Except SDKFault (List DecoderCatalog)
  | _, [] => .ok []
  | decoderCatalog, k :: rest => do
    let screenInfo ← screenAt chnInfo.screenInfo i
    if screenInfo.screenGbId ≠ gbId then oneDivisons gbId i chnInfo decoderCatalog rest
    else
      let divisonCatalog := divisonItem opADD chnInfo k screenInfo decoderCatalog
      return decoderCatalog :: divisonCatalog ::
        (← oneDivisons gbId i chnInfo divisonCatalog rest)

/-- The loop of `getOneDecoderChnOneDivisonCatalog`. -/
def oneDivisonFrom (sdk : SDKDecoder) (m_UpperList : List CStr) (gbId : CStr) :
    Nat → List DecoderInfo → Except SDKFault (List DecoderCatalog)
  | _, [] => .ok []
  | i, decoder :: rest => do
    let decoderCatalog ← decoderItem sdk m_UpperList decoder
    let lists ← decoder.decoderChnInfo.mapM fun chnInfo =>
      oneDivisons gbId i chnInfo
        (chnItem opADD decoder chnInfo (sdk.getSingleDecoderCatalogByGbId decoder.gbId))
        (loop 1 decoder.maxScreenCount)
    return decoderCatalog :: (lists.flatten ++ (← oneDivisonFrom sdk m_UpperList gbId (i + 1) rest))

def getOneDecoderChnOneDivisonCatalog (sdk : SDKDecoder) (m_UpperList : List CStr) (gbId : CStr) :
    Except SDKFault (List DecoderCatalog) :=
  oneDivisonFrom sdk m_UpperList gbId 0 sdk.g_decoderInfo

/-! ## The entry with an ID -/

/-- The loop over the screens that are on of `getSingleCataLogInfoByGbId`. -/
def singleDivison (gbId opType : CStr) (i : Nat) (chnInfo : DecoderChnInfo)
    (decoderCatalog : DecoderCatalog) : List Int → Except SDKFault (Option DecoderCatalog)
  | [] => .ok none
  | k :: rest => do
    let screenInfo ← screenAt chnInfo.screenInfo i
    if screenInfo.screenGbId = gbId then
      return some (divisonItem opType chnInfo k screenInfo decoderCatalog)
    else singleDivison gbId opType i chnInfo decoderCatalog rest

def singleChn (sdk : SDKDecoder) (gbId opType : CStr) (i : Nat) (decoder : DecoderInfo) :
    List DecoderChnInfo → Except SDKFault (Option DecoderCatalog)
  | [] => .ok none
  | chnInfo :: rest =>
    let decoderCatalog := sdk.getSingleDecoderCatalogByGbId decoder.gbId
    if chnInfo.chnGbId = gbId then
      .ok (some (chnItem opType decoder chnInfo decoderCatalog))
    else do
      let found ← singleDivison gbId opType i chnInfo decoderCatalog (loop 1 chnInfo.curScreenCount)
      match found with
      | some item => return some item
      | none => singleChn sdk gbId opType i decoder rest

def singleFrom (sdk : SDKDecoder) (gbId opType : CStr) :
    Nat → List DecoderInfo → Except SDKFault (Option DecoderCatalog)
  | _, [] => .ok none
  | i, decoder :: rest => do
    let found ← singleChn sdk gbId opType i decoder decoder.decoderChnInfo
    match found with
    | some item => return some item
    | none => singleFrom sdk gbId opType (i + 1) rest

/-- `getSingleCataLogInfoByGbId`: what is written to `pCatalog`, which stays as it is without an
entry.  It always returns true. -/
def getSingleCataLogInfoByGbId (sdk : SDKDecoder) (gbId : CStr) (pCatalog : DecoderCatalog)
    (opType : CStr) : Except SDKFault (Bool × DecoderCatalog) := do
  let found ← singleFrom sdk gbId opType 0 sdk.g_decoderInfo
  return (true, found.getD pCatalog)

/-! ## What belongs to a decoder -/

section items

variable (sdk : SDKDecoder) (decoder : DecoderInfo) (chnInfo : DecoderChnInfo)

/-- A channel and its screens, each in an item of its own. -/
def chnItems : List DecoderCatalog :=
  chnItem opADD decoder chnInfo (sdk.getSingleDecoderCatalogByGbId decoder.gbId) ::
    chnInfo.screenInfo.mapIdx fun k screenInfo =>
      divisonItem opADD chnInfo (k + 1) screenInfo
        (sdk.getSingleDecoderCatalogByGbId decoder.gbId)

/-- The channels of a decoder with their screens. -/
def ownItems : List DecoderCatalog := decoder.decoderChnInfo.flatMap (chnItems sdk decoder)

def allItems : List DecoderCatalog := sdk.g_decoderInfo.flatMap (ownItems sdk)

theorem length_chnItems :
    (chnItems sdk decoder chnInfo).length = chnInfo.screenInfo.length + 1 := by
  unfold chnItems
  rw [List.length_cons, List.length_mapIdx]

end items

/-- Every channel has as many screens as its decoder allows. -/
def AllScreens (sdk : SDKDecoder) : Prop :=
  ∀ decoder ∈ sdk.g_decoderInfo, ∀ chnInfo ∈ decoder.decoderChnInfo,
    (chnInfo.screenInfo.length : Int) = decoder.maxScreenCount

section screens

variable {sdk : SDKDecoder} {decoder : DecoderInfo} {chnInfo : DecoderChnInfo} {n : Nat}

theorem loop_one (n : Nat) :
    loop 1 (n : Int) = (List.range n).map fun k : Nat => 1 + (k : Int) := by
  have hn : ((n : Int) + 1 - 1).toNat = n := by omega
  unfold loop
  rw [hn]

theorem screenAt_of_some {l : List ScreenInfo} {k : Nat} {s : ScreenInfo} (h : l[k]? = some s) :
    screenAt l k = .ok s := by
  have hk : ¬ (k : Int) < 0 := by omega
  unfold screenAt
  rw [if_neg hk, Int.toNat_natCast, h]

theorem screenAt_of_none {l : List ScreenInfo} {k : Nat} (h : l[k]? = none) :
    screenAt l k = .error .outOfRange := by
  have hk : ¬ (k : Int) < 0 := by omega
  unfold screenAt
  rw [if_neg hk, Int.toNat_natCast, h]

theorem allDivisons_eq (h : (chnInfo.screenInfo.length : Int) = decoder.maxScreenCount) :
    (loop 1 decoder.maxScreenCount).mapM (allDivison sdk decoder chnInfo) =
      .ok (chnInfo.screenInfo.mapIdx fun k screenInfo => divisonItem opADD chnInfo (k + 1)
        screenInfo (sdk.getSingleDecoderCatalogByGbId decoder.gbId)) := by
  -- the item of a screen by its place, which is one of a screen that there is
  let item (k : Nat) : DecoderCatalog := (chnInfo.screenInfo[k]?).elim sdk.freshItem fun s =>
    divisonItem opADD chnInfo (k + 1) s (sdk.getSingleDecoderCatalogByGbId decoder.gbId)
  have hitem : ∀ k ∈ List.range chnInfo.screenInfo.length,
      allDivison sdk decoder chnInfo (1 + (k : Int)) = .ok (item k) := by
    intro k hk
    have hsome := List.getElem?_eq_getElem (List.mem_range.mp hk)
    have hone : (1 : Int) + k - 1 = k := by omega
    unfold allDivison
    rw [hone, screenAt_of_some hsome]
    simp only [item, hsome, Option.elim_some, Int.add_comm]
    rfl
  rw [← h, loop_one, List.mapM_map]
  refine (mapM_eq_ok hitem).trans (congrArg Except.ok ?_)
  apply List.ext_getElem
  · rw [List.length_map, List.length_range, List.length_mapIdx]
  · intro k hk hk'
    rw [List.length_mapIdx] at hk'
    rw [List.getElem_map, List.getElem_range, List.getElem_mapIdx]
    simp only [item, List.getElem?_eq_getElem hk', Option.elim_some]

theorem allChn_eq (h : (chnInfo.screenInfo.length : Int) = decoder.maxScreenCount) :
    allChn sdk decoder chnInfo = .ok (chnItems sdk decoder chnInfo) := by
  unfold allChn
  rw [allDivisons_eq h]
  rfl

/-- **The whole list**: every channel and every screen once, none read out of range. -/
theorem getAll_eq (h : AllScreens sdk) : getAllDecoderChnAndDivisonCatalog sdk =
    .ok (((allItems sdk).length : Int), allItems sdk) := by
  have hdecoder : ∀ d ∈ sdk.g_decoderInfo, d.decoderChnInfo.mapM (allChn sdk d) =
      .ok (d.decoderChnInfo.map (chnItems sdk d)) :=
    fun d hd => mapM_eq_ok fun c hc => allChn_eq (h d hd c hc)
  have hall : (sdk.g_decoderInfo.map fun d => d.decoderChnInfo.map (chnItems sdk d)).flatten.flatten
      = allItems sdk := by
    unfold allItems ownItems
    rw [List.flatMap_def, List.flatten_flatten, List.map_map]
    rfl
  unfold getAllDecoderChnAndDivisonCatalog
  rw [mapM_eq_ok hdecoder, ← hall]
  rfl

/-! ## One decoder -/

/-- The screens of a channel of decoder `i`, where there is one at `i`. -/
theorem sameDivisons_of_some {i : Nat} {s : ScreenInfo} (h : chnInfo.screenInfo[i]? = some s)
    (catalog : DecoderCatalog) (ks : List Int) : sameDivisons i chnInfo catalog ks =
      .ok (ks.map fun k => divisonItem opADD chnInfo k s catalog) := by
  induction ks generalizing catalog with
  | nil => rfl
  | cons k ks ih =>
    rw [sameDivisons, screenAt_of_some h]
    show (sameDivisons i chnInfo (divisonItem opADD chnInfo k s catalog) ks >>= _) = _
    rw [ih]
    -- a screen leaves nothing of the screen before it
    rfl

theorem sameDivisons_of_none {i : Nat} (h : chnInfo.screenInfo[i]? = none)
    (catalog : DecoderCatalog) (k : Int) (ks : List Int) :
    sameDivisons i chnInfo catalog (k :: ks) = .error .outOfRange := by
  rw [sameDivisons, screenAt_of_none h]
  rfl

theorem divisonItem_inj {k : Int} {s s' : ScreenInfo} {catalog : DecoderCatalog}
    (h : divisonItem opADD chnInfo k s catalog = divisonItem opADD chnInfo k s' catalog) :
    s = s' := by
  have hid : s.screenGbId = s'.screenGbId := congrArg (·.m_strDeviceID) h
  have hstatus : s.status = s'.status := congrArg (·.m_strStatus) h
  have hnum : s.screenNum = s'.screenNum := zeroPadInt_inj (congrArg (·.m_strChnNum) h)
  cases s
  cases s'
  simp_all

theorem sameChn_of_nil {i : Nat} (h : (chnInfo.screenInfo.length : Int) = decoder.maxScreenCount)
    (hnil : chnInfo.screenInfo = []) :
    sameChn sdk i decoder chnInfo = .ok (chnItems sdk decoder chnInfo) := by
  have hloop : loop 1 decoder.maxScreenCount = [] := by
    rw [← h, hnil]
    rfl
  unfold sameChn chnItems
  rw [hloop, hnil]
  rfl

theorem sameChn_eq (i : Nat) : sameChn sdk i decoder chnInfo =
    (sameDivisons i chnInfo
      (chnItem opADD decoder chnInfo (sdk.getSingleDecoderCatalogByGbId decoder.gbId))
      (loop 1 decoder.maxScreenCount) >>= fun divisons =>
        .ok (chnItem opADD decoder chnInfo (sdk.getSingleDecoderCatalogByGbId decoder.gbId) ::
          divisons)) := rfl

theorem sameChn_of_some {i : Nat} {s : ScreenInfo}
    (h : (chnInfo.screenInfo.length : Int) = decoder.maxScreenCount)
    (hs : chnInfo.screenInfo[i]? = some s) : sameChn sdk i decoder chnInfo =
      .ok (chnItem opADD decoder chnInfo (sdk.getSingleDecoderCatalogByGbId decoder.gbId) ::
        (List.range chnInfo.screenInfo.length).map fun k : Nat =>
          divisonItem opADD chnInfo (k + 1) s
            (sdk.getSingleDecoderCatalogByGbId decoder.gbId)) := by
  rw [sameChn_eq, sameDivisons_of_some hs, ← h, loop_one, List.map_map]
  refine congrArg Except.ok (congrArg (List.cons _) (List.map_congr_left fun k _ => ?_))
  show divisonItem opADD chnInfo (1 + (k : Int)) s _ = divisonItem opADD chnInfo (k + 1) s _
  rw [Int.add_comm]
  rfl

theorem sameChn_of_none {i : Nat} (h : (chnInfo.screenInfo.length : Int) = decoder.maxScreenCount)
    (hne : chnInfo.screenInfo ≠ []) (hs : chnInfo.screenInfo[i]? = none) :
    sameChn sdk i decoder chnInfo = .error .outOfRange := by
  have hpos := List.length_pos_iff.mpr hne
  have hloop : ∃ ks, loop 1 decoder.maxScreenCount = 1 :: ks := by
    obtain ⟨n, hn⟩ : ∃ n, chnInfo.screenInfo.length = n + 1 := ⟨_, (Nat.sub_add_cancel hpos).symm⟩
    rw [← h, hn, loop_one, List.range_succ_eq_map]
    exact ⟨_, rfl⟩
  obtain ⟨ks, hks⟩ := hloop
  rw [sameChn_eq, hks, sameDivisons_of_none hs]
  rfl

/-- The entries of a channel are its own exactly when all its screens are the one at the index of
the decoder. -/
theorem sameChn_iff {i : Nat} (h : (chnInfo.screenInfo.length : Int) = decoder.maxScreenCount) :
    sameChn sdk i decoder chnInfo = .ok (chnItems sdk decoder chnInfo) ↔
      ∀ s ∈ chnInfo.screenInfo, chnInfo.screenInfo[i]? = some s := by
  by_cases hnil : chnInfo.screenInfo = []
  · rw [sameChn_of_nil h hnil, hnil]
    exact iff_of_true rfl (List.forall_mem_nil _)
  · cases hs : chnInfo.screenInfo[i]? with
    | none =>
      rw [sameChn_of_none h hnil hs]
      obtain ⟨s, hmem⟩ := List.exists_mem_of_ne_nil _ hnil
      exact iff_of_false (fun heq => by cases heq) fun hall => by cases hall s hmem
    | some s =>
      rw [sameChn_of_some h hs]
      unfold chnItems
      constructor
      · intro heq s' hs'
        obtain ⟨k, hk, rfl⟩ := List.getElem_of_mem hs'
        have htail := (List.cons.inj (Except.ok.inj heq)).2
        have hitem := congrArg (·[k]?) htail
        simp only [List.getElem?_map, List.getElem?_range hk, List.getElem?_mapIdx,
          List.getElem?_eq_getElem hk, Option.map_some, Option.some.injEq] at hitem
        rw [divisonItem_inj hitem]
      · intro hall
        refine congrArg Except.ok (congrArg (List.cons _) (List.ext_getElem ?_ ?_))
        · rw [List.length_map, List.length_range, List.length_mapIdx]
        · intro k hk hk'
          rw [List.length_mapIdx] at hk'
          have hsame := Option.some.inj (hall _ (List.getElem_mem hk'))
          rw [List.getElem_map, List.getElem_range, List.getElem_mapIdx, ← hsame]

theorem length_sameChn {i : Nat} {items : List DecoderCatalog}
    (h : (chnInfo.screenInfo.length : Int) = decoder.maxScreenCount)
    (hitems : sameChn sdk i decoder chnInfo = .ok items) :
    items.length = (chnItems sdk decoder chnInfo).length := by
  by_cases hnil : chnInfo.screenInfo = []
  · rw [sameChn_of_nil h hnil] at hitems
    cases hitems
    rfl
  · cases hs : chnInfo.screenInfo[i]? with
    | none =>
      rw [sameChn_of_none h hnil hs] at hitems
      cases hitems
    | some s =>
      rw [sameChn_of_some h hs] at hitems
      cases hitems
      rw [length_chnItems, List.length_cons, List.length_map, List.length_range]

theorem sameChns_iff {i : Nat} {chns : List DecoderChnInfo}
    (h : ∀ c ∈ chns, (c.screenInfo.length : Int) = decoder.maxScreenCount) :
    (∃ lists, chns.mapM (sameChn sdk i decoder) = .ok lists ∧
        lists.flatten = chns.flatMap (chnItems sdk decoder)) ↔
      ∀ c ∈ chns, ∀ s ∈ c.screenInfo, c.screenInfo[i]? = some s := by
  induction chns with
  | nil => exact iff_of_true ⟨[], rfl, rfl⟩ (List.forall_mem_nil _)
  | cons c chns ih =>
    obtain ⟨hc, hrest⟩ := List.forall_mem_cons.mp h
    rw [List.forall_mem_cons, ← sameChn_iff hc, ← ih hrest]
    constructor
    · rintro ⟨lists, hlists, hflat⟩
      rw [List.mapM_cons] at hlists
      obtain ⟨items, hitems, hlists⟩ := bind_eq_ok_iff.mp hlists
      obtain ⟨more, hmore, hcons⟩ := bind_eq_ok_iff.mp hlists
      cases hcons
      rw [List.flatten_cons, List.flatMap_cons] at hflat
      obtain ⟨hhead, htail⟩ := List.append_inj hflat (length_sameChn hc hitems)
      rw [hhead] at hitems
      exact ⟨hitems, more, hmore, htail⟩
    · rintro ⟨hitems, more, hmore, htail⟩
      refine ⟨chnItems sdk decoder c :: more, ?_, ?_⟩
      · rw [List.mapM_cons, hitems, hmore]
        rfl
      · rw [List.flatten_cons, List.flatMap_cons, htail]

end screens

/-- The ID, the parent and the status are those of the decoder in the catalogue. -/
structure IsEntry (sdk : SDKDecoder) (decoder : DecoderInfo) (item : DecoderCatalog) : Prop where
  id : item.m_strDeviceID = (sdk.getSingleDecoderCatalogByGbId decoder.gbId).m_strDeviceID
  parent : item.m_strParentID = (sdk.getSingleDecoderCatalogByGbId decoder.gbId).m_strParentID
  status : item.m_strStatus = (sdk.getSingleDecoderCatalogByGbId decoder.gbId).m_strStatus

section queries

variable {sdk : SDKDecoder} {m_UpperList : List CStr} {decoder : DecoderInfo} {gbId : CStr}

theorem decoderItem_isEntry {item : DecoderCatalog}
    (h : decoderItem sdk m_UpperList decoder = .ok item) : IsEntry sdk decoder item := by
  obtain ⟨str_ID, -, hitem⟩ := bind_eq_ok_iff.mp h
  cases hitem
  exact ⟨rfl, rfl, rfl⟩

theorem decoderItem_ok_iff :
    (∃ item, decoderItem sdk m_UpperList decoder = .ok item) ↔ m_UpperList ≠ [] := by
  cases m_UpperList with
  | nil => exact iff_of_false (fun ⟨item, h⟩ => by cases h) fun h => h rfl
  | cons str_ID rest => exact iff_of_true ⟨_, rfl⟩ (List.cons_ne_nil _ _)

theorem oneDeocderFrom_eq {g : List DecoderInfo} {n i : Nat}
    (hfind : g.findIdx? (·.gbId = gbId) = some i) (hd : g[i]? = some decoder) :
    oneDeocderFrom sdk m_UpperList gbId n g =
      (decoderItem sdk m_UpperList decoder >>= fun item =>
        decoder.decoderChnInfo.mapM (sameChn sdk (n + i) decoder) >>= fun lists =>
          .ok (item :: lists.flatten)) := by
  induction g generalizing n i with
  | nil => cases hfind
  | cons d rest ih =>
    rw [List.findIdx?_cons] at hfind
    by_cases hid : d.gbId = gbId
    · simp only [hid, decide_true, if_true, Option.some.injEq] at hfind
      subst hfind
      cases hd
      exact if_neg (not_not_intro hid)
    · simp only [hid, decide_false, Bool.false_eq_true, if_false] at hfind
      obtain ⟨j, hj, rfl⟩ := Option.map_eq_some_iff.mp hfind
      have hrest := ih (n := n + 1) hj hd
      rw [Nat.add_right_comm] at hrest
      exact (if_pos hid).trans hrest

/-- **The query of a decoder** agrees with the whole list exactly when an upper platform is
configured and every screen is the one at the index of the decoder. -/
theorem getOneDeocder_iff (h : AllScreens sdk) {i : Nat}
    (hfind : sdk.g_decoderInfo.findIdx? (·.gbId = gbId) = some i)
    (hd : sdk.g_decoderInfo[i]? = some decoder) :
    (∃ item, IsEntry sdk decoder item ∧
        getOneDeocderAllCatalog sdk m_UpperList gbId = .ok (item :: ownItems sdk decoder)) ↔
      m_UpperList ≠ [] ∧
        ∀ c ∈ decoder.decoderChnInfo, ∀ s ∈ c.screenInfo, c.screenInfo[i]? = some s := by
  have hscreens := h decoder (List.mem_of_getElem? hd)
  have heq : getOneDeocderAllCatalog sdk m_UpperList gbId = _ := oneDeocderFrom_eq hfind hd
  rw [Nat.zero_add] at heq
  have hown : (∃ lists, decoder.decoderChnInfo.mapM (sameChn sdk i decoder) = .ok lists ∧
      lists.flatten = decoder.decoderChnInfo.flatMap (chnItems sdk decoder)) ↔ _ :=
    sameChns_iff hscreens
  have hupper : (∃ item, decoderItem sdk m_UpperList decoder = .ok item) ↔ m_UpperList ≠ [] :=
    decoderItem_ok_iff
  rw [heq, ← hown, ← hupper]
  constructor
  · rintro ⟨item, -, hok⟩
    obtain ⟨item', hitem, hok⟩ := bind_eq_ok_iff.mp hok
    obtain ⟨lists, hlists, hcons⟩ := bind_eq_ok_iff.mp hok
    have htail := (List.cons.inj (Except.ok.inj hcons)).2
    exact ⟨⟨item', hitem⟩, lists, hlists, htail⟩
  · rintro ⟨⟨item, hitem⟩, lists, hlists, hflat⟩
    refine ⟨item, decoderItem_isEntry hitem, ?_⟩
    rw [hitem, hlists]
    exact congrArg (fun tail => Except.ok (item :: tail)) hflat

/-! ## One channel -/

/-- **The query of a channel** gives more entries than the channel has: there is one for the decoder
as well. -/
theorem oneChnFrom_length {g : List DecoderInfo} {n : Nat} {items : List DecoderCatalog}
    (h : ∀ d ∈ g, ∀ c ∈ d.decoderChnInfo, (c.screenInfo.length : Int) = d.maxScreenCount)
    (hitems : oneChnFrom sdk m_UpperList gbId n g = .ok items) {c : DecoderChnInfo}
    (hd : decoder ∈ g) (hc : c ∈ decoder.decoderChnInfo) (hid : c.chnGbId = gbId) :
    (chnItems sdk decoder c).length < items.length := by
  induction g generalizing n items with
  | nil => cases hd
  | cons d rest ih =>
    obtain ⟨hscreens, hrest⟩ := List.forall_mem_cons.mp h
    obtain ⟨item, -, hitems⟩ := bind_eq_ok_iff.mp hitems
    obtain ⟨lists, hlists, hitems⟩ := bind_eq_ok_iff.mp hitems
    obtain ⟨tail, htail, hcons⟩ := bind_eq_ok_iff.mp hitems
    cases hcons
    rw [List.length_cons, List.length_append]
    rcases List.mem_cons.mp hd with rfl | hd
    · have hmem : c ∈ decoder.decoderChnInfo.filter (·.chnGbId = gbId) :=
        List.mem_filter.mpr ⟨hc, decide_eq_true hid⟩
      obtain ⟨own, hown, hsame⟩ := mem_of_mapM_ok hlists hmem
      have hle : own.length ≤ lists.flatten.length :=
        (List.sublist_flatten_of_mem hown).length_le
      have heq := length_sameChn (hscreens c hc) hsame
      omega
    · have hlt := ih hrest htail hd
      omega

/-! ## All queries -/

/-- The queries agree with the whole list, and none reads out of range. -/
structure Agrees (sdk : SDKDecoder) (m_UpperList : List CStr) : Prop where
  all : getAllDecoderChnAndDivisonCatalog sdk =
    .ok (((allItems sdk).length : Int), allItems sdk)
  decoder : ∀ d ∈ sdk.g_decoderInfo, ∃ item, IsEntry sdk d item ∧
    getOneDeocderAllCatalog sdk m_UpperList d.gbId = .ok (item :: ownItems sdk d)
  channel : ∀ d ∈ sdk.g_decoderInfo, ∀ c ∈ d.decoderChnInfo,
    getOneDecoderChnAllCatalog sdk m_UpperList c.chnGbId = .ok (chnItems sdk d c)
  divison : ∀ d ∈ sdk.g_decoderInfo, ∀ c ∈ d.decoderChnInfo, ∀ (k : Nat) (s : ScreenInfo),
    c.screenInfo[k]? = some s → getOneDecoderChnOneDivisonCatalog sdk m_UpperList s.screenGbId =
      .ok [divisonItem opADD c (k + 1) s (sdk.getSingleDecoderCatalogByGbId d.gbId)]
  single : ∀ gbId pCatalog opType, ∃ found,
    getSingleCataLogInfoByGbId sdk gbId pCatalog opType = .ok found

def NoChannel (sdk : SDKDecoder) : Prop := ∀ d ∈ sdk.g_decoderInfo, d.decoderChnInfo = []

theorem singleFrom_of_noChannel {opType : CStr} {g : List DecoderInfo}
    (h : ∀ d ∈ g, d.decoderChnInfo = []) (n : Nat) : singleFrom sdk gbId opType n g = .ok none := by
  induction g generalizing n with
  | nil => rfl
  | cons d rest ih =>
    obtain ⟨hd, hrest⟩ := List.forall_mem_cons.mp h
    rw [singleFrom, hd]
    exact ih hrest (n + 1)

theorem IsEntry.congr {d d' : DecoderInfo} (hid : d.gbId = d'.gbId) {item : DecoderCatalog}
    (h : IsEntry sdk d item) : IsEntry sdk d' item := by
  refine ⟨?_, ?_, ?_⟩
  · rw [← hid]
    exact h.id
  · rw [← hid]
    exact h.parent
  · rw [← hid]
    exact h.status

theorem exists_findIdx {g : List DecoderInfo} {d : DecoderInfo} (hd : d ∈ g) :
    ∃ (i : Nat) (d' : DecoderInfo), g.findIdx? (·.gbId = d.gbId) = some i ∧ g[i]? = some d' ∧
      d'.gbId = d.gbId := by
  have hsome : (g.findIdx? (·.gbId = d.gbId)).isSome := by
    rw [List.findIdx?_isSome, List.any_eq_true]
    exact ⟨d, hd, decide_eq_true rfl⟩
  obtain ⟨i, hi⟩ := Option.isSome_iff_exists.mp hsome
  obtain ⟨hlt, hid, -⟩ := List.findIdx?_eq_some_iff_getElem.mp hi
  exact ⟨i, g[i], hi, List.getElem?_eq_getElem hlt, of_decide_eq_true hid⟩

/-- **The queries agree** exactly when there is no channel, and an upper platform is configured
where there is a decoder. -/
theorem agrees_iff (h : AllScreens sdk) : Agrees sdk m_UpperList ↔
    NoChannel sdk ∧ (sdk.g_decoderInfo = [] ∨ m_UpperList ≠ []) := by
  constructor
  · intro hagrees
    refine ⟨fun d hd => ?_, ?_⟩
    · by_contra hne
      obtain ⟨c, hc⟩ := List.exists_mem_of_ne_nil _ hne
      exact absurd (oneChnFrom_length h (hagrees.channel d hd c hc) hd hc rfl) (Nat.lt_irrefl _)
    · by_cases hnone : sdk.g_decoderInfo = []
      · exact .inl hnone
      · obtain ⟨d, hd⟩ := List.exists_mem_of_ne_nil _ hnone
        obtain ⟨item, -, hok⟩ := hagrees.decoder d hd
        obtain ⟨i, d', hfind, hd', -⟩ := exists_findIdx hd
        obtain ⟨item', hitem, -⟩ := bind_eq_ok_iff.mp ((oneDeocderFrom_eq hfind hd').symm.trans hok)
        exact .inr (decoderItem_ok_iff.mp ⟨item', hitem⟩)
  · rintro ⟨hnone, hupper⟩
    refine ⟨getAll_eq h, fun d hd => ?_, fun d hd c hc => ?_, fun d hd c hc => ?_, ?_⟩
    · obtain ⟨i, d', hfind, hd', hid⟩ := exists_findIdx hd
      have hne : m_UpperList ≠ [] := hupper.resolve_left (List.ne_nil_of_mem hd)
      have hchns : d'.decoderChnInfo = [] := hnone d' (List.mem_of_getElem? hd')
      have hown : ownItems sdk d' = ownItems sdk d := by
        unfold ownItems
        rw [hchns, hnone d hd]
        rfl
      have hcond : ∀ c ∈ d'.decoderChnInfo, ∀ s ∈ c.screenInfo, c.screenInfo[i]? = some s := by
        rw [hchns]
        exact List.forall_mem_nil _
      obtain ⟨item, hentry, hok⟩ := (getOneDeocder_iff h hfind hd').mpr ⟨hne, hcond⟩
      rw [hown] at hok
      exact ⟨item, hentry.congr hid, hok⟩
    · rw [hnone d hd] at hc
      cases hc
    · rw [hnone d hd] at hc
      cases hc
    · intro gbId pCatalog opType
      unfold getSingleCataLogInfoByGbId
      rw [singleFrom_of_noChannel hnone]
      exact ⟨_, rfl⟩

end queries

/-- The decoder of a file, without its channels. -/
theorem agrees_oneDecoder :
    AllScreens { oneDecoderSdk with g_decoderInfo := [oneDecoder] } ∧
      Agrees { oneDecoderSdk with g_decoderInfo := [oneDecoder] } [str "34020000002000000001"] := by
  have hnone : NoChannel { oneDecoderSdk with g_decoderInfo := [oneDecoder] } :=
    List.forall_mem_singleton.mpr rfl
  have hscreens : AllScreens { oneDecoderSdk with g_decoderInfo := [oneDecoder] } := by
    intro d hd c hc
    rw [hnone d hd] at hc
    cases hc
  exact ⟨hscreens, (agrees_iff hscreens).mpr ⟨hnone, .inr (List.cons_ne_nil _ _)⟩⟩

/-- With its channels, the query of a channel gives the decoder as well. -/
theorem oneChn_not_agrees :
    AllScreens oneDecoderSdk ∧ ¬ Agrees oneDecoderSdk [str "34020000002000000001"] := by
  have hscreens : AllScreens oneDecoderSdk := by
    intro d hd
    obtain rfl := List.mem_singleton.mp hd
    rw [List.forall_mem_cons, List.forall_mem_singleton]
    decide
  refine ⟨hscreens, fun h => ?_⟩
  have hitems := h.channel _ List.mem_cons_self _ List.mem_cons_self
  exact absurd (oneChnFrom_length hscreens hitems List.mem_cons_self List.mem_cons_self rfl)
    (Nat.lt_irrefl _)

end GB28181.Platform.SDKCom
