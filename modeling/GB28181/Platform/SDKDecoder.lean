import GB28181.Base.Decimal
import GB28181.Base.Fallible
import GB28181.Platform.XMLBodyBuilder
import Mathlib.Data.List.Nodup

/-!
# Decoders and their screens (`SDKCom/SDKDecoder.cpp`)

`decoderInfo.xml` lists decoders, their channels and how many screens of a channel are on.
`getDecoderInfo` builds the decoders from it, `modifDecoderDivisonInfo` rebuilds one channel for a
new number of screens and has `modifyXmlDivisonInfo` change the file.

* `DecoderInfo.screens` — the screens of a channel, as both functions build them;
* `getDecoderInfo`, `modifyXmlDivisonInfo`, `modifDecoderDivisonInfo` — the three functions;
* `getDecoderInfo_laidOut` — what is read is laid out by `DecoderInfo.screens`;
* `modifyXmlDivisonInfo_total` — a file that can be read can be changed.

A document is what `tinyxml2` parsed.  Sums of `int`s wrap around in 32 bits here, where the source
leaves an overflow undefined.
-/

set_option autoImplicit false

namespace GB28181.Platform.SDKCom

open GB28181.Base

/-! ## Documents -/

/-- `tinyxml2::XMLElement`: a name, attributes and child elements. -/
inductive XMLElement where
  | mk (name : CStr) (attributes : List (CStr × CStr)) (children : List XMLElement)

inductive SDKFault where
  | nullPointer
  | outOfRange
deriving DecidableEq

namespace XMLElement

def name : XMLElement → CStr
  | mk name _ _ => name

def attributes : XMLElement → List (CStr × CStr)
  | mk _ attributes _ => attributes

def children : XMLElement → List XMLElement
  | mk _ _ children => children

/-- A read of `Attribute`, which is a null pointer where there is none. -/
def getAttribute (e : XMLElement) (name : String) : Except SDKFault CStr :=
  match e.attributes.find? fun a => a.1 = str name with
  | none => .error .nullPointer
  | some a => .ok a.2

/-- `SetAttribute` with a number. -/
def setAttribute (e : XMLElement) (name : String) (value : Int) : XMLElement :=
  let entry := (str name, zeroPadInt 0 value)
  mk e.name
    (if e.attributes.any (·.1 == str name) then
      e.attributes.map fun a => if a.1 = str name then entry else a
    else e.attributes ++ [entry]) e.children

/-- The elements that `FirstChildElement` with a name and then `NextSiblingElement` without one
go through. -/
def elementsFrom (e : XMLElement) (name : String) : List XMLElement :=
  e.children.dropWhile fun child => child.name ≠ str name

/-- The element with other elements from there on. -/
def withElementsFrom (e : XMLElement) (name : String) (elements : List XMLElement) : XMLElement :=
  mk e.name e.attributes (e.children.takeWhile (fun child => child.name ≠ str name) ++ elements)

end XMLElement

/-- `tinyxml2::XMLDocument` after `Parse`. -/
structure XMLDocument where
  error : Bool
  children : List XMLElement

def firstChildElement (name : String) (children : List XMLElement) : Option XMLElement :=
  children.find? fun child => child.name = str name

/-- The `decoderInfo` element of the file; `none` for a file that is missing, has an error or has
no such element. -/
def decoderInfoNode (file : Option XMLDocument) : Option XMLElement := do
  let xmlDoc ← file
  if xmlDoc.error then none
  else
    let cfgNode ← firstChildElement "config" xmlDoc.children
    firstChildElement "decoderInfo" cfgNode.children

/-! ## Decoders -/

/-- `screenInfoStruc`. -/
structure ScreenInfo where
  screenNum : Int
  screenGbId : CStr
  status : CStr
deriving DecidableEq

/-- `decoderChnInfoStruc`. -/
structure DecoderChnInfo where
  chnNum : Int
  curScreenCount : Int
  chnGbId : CStr
  screenInfo : List ScreenInfo
deriving DecidableEq

/-- `decoderInfoStruc`. -/
structure DecoderInfo where
  gbId : CStr
  guid : CStr
  chnIdStart : Int
  screenIdStart : Int
  maxScreenCount : Int
  validFlag : Int
  decoderChnInfo : List DecoderChnInfo
deriving DecidableEq

/-- The values of the variable of `for (int i = first; i <= last; i++)`. -/
def loop (first last : Int) : List Int :=
  (List.range (last + 1 - first).toNat).map fun k : Nat => first + (k : Int)

/-- A sum as an `int`. -/
def int32 (n : Int) : Int := n.bmod (2 ^ 32)

/-- Sums from one number to another that is less than 2³¹ away are told apart. -/
theorem int32_inj {a i j last : Int} (hlast : last < 2 ^ 31) (hi : 1 ≤ i ∧ i ≤ last)
    (hj : 1 ≤ j ∧ j ≤ last) (h : int32 (a + i - 1) = int32 (a + j - 1)) : i = j := by
  have hmod : (a + i - 1) % (2 ^ 32 : Nat) = (a + j - 1) % (2 ^ 32 : Nat) := by
    rw [← Int.bmod_emod, ← Int.bmod_emod (x := a + j - 1)]
    exact congrArg (· % ((2 ^ 32 : Nat) : Int)) h
  omega

namespace DecoderInfo

def gbPrefix (decoder : DecoderInfo) : CStr := decoder.gbId.take 11

/-- The ID of the screen `i` of a channel, counted from one. -/
def screenGbId (decoder : DecoderInfo) (chnNum i : Int) : CStr :=
  decoder.gbPrefix ++ str "0210" ++
    zeroPadInt 5 (int32 (decoder.screenIdStart + chnNum * decoder.maxScreenCount + i - 1))

/-- The screen `i` of a channel. -/
def screen (decoder : DecoderInfo) (chnNum : Int) (status : String) (i : Int) : ScreenInfo where
  screenNum := i - 1
  screenGbId := decoder.screenGbId chnNum i
  status := str status

/-- The screens of a channel: one loop for those that are on, one for the others. -/
def screens (decoder : DecoderInfo) (chnNum curScreenCount : Int) : List ScreenInfo :=
  (loop 1 curScreenCount).map (decoder.screen chnNum "ON") ++
    (loop (curScreenCount + 1) decoder.maxScreenCount).map (decoder.screen chnNum "OFF")

/-- A channel with another number of screens. -/
def divide (decoder : DecoderInfo) (divison : Int) (chnInfo : DecoderChnInfo) : DecoderChnInfo :=
  { chnInfo with
    curScreenCount := divison
    screenInfo := decoder.screens chnInfo.chnNum divison }

end DecoderInfo

/-! ## Reading the file -/

def readChn (decoder : DecoderInfo) (child : XMLElement) : Except SDKFault DecoderChnInfo := do
  let chnNum := atoi (← child.getAttribute "chnNum")
  let curScreenCount := atoi (← child.getAttribute "curScreenCount")
  return {
    chnNum := chnNum
    curScreenCount := curScreenCount
    chnGbId := decoder.gbPrefix ++ str "0170" ++ zeroPadInt 5 (int32 (decoder.chnIdStart + chnNum))
    screenInfo := decoder.screens chnNum curScreenCount }

def readChns (decoder : DecoderInfo) : List XMLElement → Except SDKFault (List DecoderChnInfo)
  | [] => .ok []
  | child :: rest => do
    let decoderChn ← readChn decoder child
    return decoderChn :: (← readChns decoder rest)

/-- The attributes of a decoder of the file. -/
def readAttributes (child : XMLElement) : Except SDKFault DecoderInfo := do
  let gbId ← child.getAttribute "gbId"
  let guid ← child.getAttribute "guid"
  let chnIdStart := atoi (← child.getAttribute "chnIdStart")
  let screenIdStart := atoi (← child.getAttribute "screenIdStart")
  let maxScreenCount := atoi (← child.getAttribute "maxScreenCount")
  let validFlag := atoi (← child.getAttribute "validFlag")
  return ⟨gbId, guid, chnIdStart, screenIdStart, maxScreenCount, validFlag, []⟩

def readDecoder (child : XMLElement) : Except SDKFault DecoderInfo := do
  let decoder ← readAttributes child
  let decoderChnInfo ← readChns decoder (child.elementsFrom "chn")
  return { decoder with decoderChnInfo := decoderChnInfo }

def readDecoders : List XMLElement → Except SDKFault (List DecoderInfo)
  | [] => .ok []
  | child :: rest => do
    let decoder ← readDecoder child
    return decoder :: (← readDecoders rest)

def getDecoderInfo (file : Option XMLDocument) (g_decoderInfo : List DecoderInfo) :
    Except SDKFault (Bool × List DecoderInfo) :=
  match decoderInfoNode file with
  | none => .ok (false, g_decoderInfo)
  | some node => do
    let decoders ← readDecoders (node.elementsFrom "decoder")
    return (true, g_decoderInfo ++ decoders)

/-! ## Changing the file -/

/-- The inner loop of `modifyXmlDivisonInfo`. -/
def modifyChns (chn divisonCount : Int) : List XMLElement → Except SDKFault (List XMLElement)
  | [] => .ok []
  | child :: rest => do
    let chnNum := atoi (← child.getAttribute "chnNum")
    if chnNum ≠ chn then return child :: (← modifyChns chn divisonCount rest)
    else return child.setAttribute "curScreenCount" divisonCount :: rest

/-- The outer loop of `modifyXmlDivisonInfo`; after the decoder with the ID it comes to an end. -/
def modifyDecoders (decoderGbId : CStr) (chn divisonCount : Int) :
    List XMLElement → Except SDKFault (List XMLElement)
  | [] => .ok []
  | child :: rest => do
    let gbId ← child.getAttribute "gbId"
    if gbId ≠ decoderGbId then
      return child :: (← modifyDecoders decoderGbId chn divisonCount rest)
    else
      let _ ← readAttributes child
      let chns ← modifyChns chn divisonCount (child.elementsFrom "chn")
      return child.withElementsFrom "chn" chns :: rest

/-- `modifyXmlDivisonInfo`: the result, and the decoders of the document in memory, which is a
local variable and is not saved. -/
def modifyXmlDivisonInfo (file : Option XMLDocument) (decoderGbId : CStr)
    (chn divisonCount : Int) : Except SDKFault (Bool × List XMLElement) :=
  match decoderInfoNode file with
  | none => .ok (false, [])
  | some node => do
    let xmlDoc ← modifyDecoders decoderGbId chn divisonCount (node.elementsFrom "decoder")
    return (true, xmlDoc)

/-! ## Changing a division -/

/-- `CatalogItem` with the members only decoders use. -/
structure DecoderCatalog extends CatalogItem where
  m_strOperateType : CStr
  m_strChnNum : CStr
deriving DecidableEq

/-- `SDKDecoder`, the file on the disk, and a default-constructed catalogue item. -/
structure SDKDecoder where
  decoderInfoXml : Option XMLDocument
  g_decoderInfo : List DecoderInfo
  g_decoderCatalogInfo : List DecoderCatalog
  freshItem : DecoderCatalog

def SDKDecoder.getSingleDecoderCatalogByGbId (sdk : SDKDecoder) (decoderGbId : CStr) :
    DecoderCatalog :=
  (sdk.g_decoderCatalogInfo.find? fun item => item.m_strDeviceID = decoderGbId).getD sdk.freshItem

def getDivisonCatalog (parentId divisonName divisonGbId opType status : CStr) (divisonNum : Int)
    (catalog : DecoderCatalog) : DecoderCatalog :=
  { catalog with
    m_strParentID := parentId
    m_strDeviceID := divisonGbId
    m_strName := divisonName
    m_strOperateType := opType
    m_strParental := str "0"
    m_strStatus := status
    m_strChnNum := zeroPadInt 0 divisonNum }

/-- `screenInfo[m]`, in range or not. -/
def screenAt (screenInfo : List ScreenInfo) (m : Int) : Except SDKFault ScreenInfo :=
  if m < 0 then .error .outOfRange
  else
    match screenInfo[m.toNat]? with
    | none => .error .outOfRange
    | some screen => .ok screen

/-- The loop over the screens whose status changes. -/
def changedScreens (sdk : SDKDecoder) (decoder : DecoderInfo) (chnInfo : DecoderChnInfo) :
    List Int → Except SDKFault (List DecoderCatalog)
  | [] => .ok []
  | m :: rest => do
    let screenInfo ← screenAt chnInfo.screenInfo m
    let name := str "divison_" ++ screenInfo.screenGbId ++ str "_" ++ zeroPadInt 0 m
    let item := getDivisonCatalog chnInfo.chnGbId name screenInfo.screenGbId (str "MOD")
      screenInfo.status screenInfo.screenNum (sdk.getSingleDecoderCatalogByGbId decoder.gbId)
    return item :: (← changedScreens sdk decoder chnInfo rest)

/-- The IDs of the channels, decoder by decoder. -/
def chnIds (g : List DecoderInfo) : List (List CStr) :=
  g.map fun decoder => decoder.decoderChnInfo.map (·.chnGbId)

/-- The place of the first channel with an ID. -/
def findChn (chnId : CStr) : List (List CStr) → Option (Nat × Nat)
  | [] => none
  | ids :: rest =>
    match ids.findIdx? (· = chnId) with
    | some j => some (0, j)
    | none => (findChn chnId rest).map fun p => (p.1 + 1, p.2)

/-- The channel at a place, with its decoder. -/
def chnAt (g : List DecoderInfo) (p : Nat × Nat) : Option (DecoderInfo × DecoderChnInfo) := do
  let decoder ← g[p.1]?
  let chnInfo ← decoder.decoderChnInfo[p.2]?
  return (decoder, chnInfo)

/-- The decoders with another channel at a place. -/
def setChn (g : List DecoderInfo) (p : Nat × Nat) (decoder : DecoderInfo)
    (chnInfo : DecoderChnInfo) : List DecoderInfo :=
  g.set p.1 { decoder with decoderChnInfo := decoder.decoderChnInfo.set p.2 chnInfo }

/-- What `modifDecoderDivisonInfo` leaves and hands back: the decoder's ID and its channel, and
the catalogue items. -/
structure Divison where
  sdk : SDKDecoder
  decoderInfo : Option (CStr × DecoderChnInfo)
  cataLogInfo : List DecoderCatalog

def modifDecoderDivisonInfo (sdk : SDKDecoder) (chnId : CStr) (divison : Int) :
    Except SDKFault Divison :=
  match (findChn chnId (chnIds sdk.g_decoderInfo)).bind fun p =>
    (chnAt sdk.g_decoderInfo p).map fun found => (p, found) with
  | none => .ok { sdk := sdk, decoderInfo := none, cataLogInfo := [] }
  | some (p, decoder, oldInfo) => do
    let chnInfo := decoder.divide divison oldInfo
    let _ ← modifyXmlDivisonInfo sdk.decoderInfoXml decoder.gbId chnInfo.chnNum divison
    -- more screens than before: the new ones are on; otherwise those from `divison` on are off
    let changed :=
      if divison > oldInfo.curScreenCount then loop oldInfo.curScreenCount (divison - 1)
      else loop divison (oldInfo.curScreenCount - 1)
    let cataLogInfo ← changedScreens sdk decoder chnInfo changed
    return {
      sdk := { sdk with g_decoderInfo := setChn sdk.g_decoderInfo p decoder chnInfo }
      decoderInfo := some (decoder.gbId, chnInfo)
      cataLogInfo := cataLogInfo }

/-! ## The loops -/

theorem mem_loop {first last m : Int} : m ∈ loop first last ↔ first ≤ m ∧ m ≤ last := by
  unfold loop
  rw [List.mem_map]
  constructor
  · rintro ⟨k, hk, rfl⟩
    have := List.mem_range.mp hk
    omega
  · rintro ⟨hlo, hhi⟩
    exact ⟨(m - first).toNat, List.mem_range.mpr (by omega), by omega⟩

@[simp] theorem length_loop (first last : Int) :
    (loop first last).length = (last + 1 - first).toNat := by
  simp [loop]

theorem nodup_loop (first last : Int) : (loop first last).Nodup := by
  refine List.Nodup.map (fun j k h => ?_) List.nodup_range
  have h' : first + (j : Int) = first + k := h
  omega

theorem loop_append {first mid last : Int} (h : first ≤ mid + 1) (h' : mid ≤ last) :
    loop first mid ++ loop (mid + 1) last = loop first last := by
  obtain ⟨j, hj⟩ : ∃ j : Nat, (mid + 1 - first).toNat = j := ⟨_, rfl⟩
  obtain ⟨k, hk⟩ : ∃ k : Nat, (last + 1 - (mid + 1)).toNat = k := ⟨_, rfl⟩
  have hsum : (last + 1 - first).toNat = j + k := by omega
  have hmid : mid + 1 = first + j := by omega
  unfold loop
  rw [hj, hk, hsum, List.range_add, List.map_append, List.map_map, hmid]
  congr 1
  refine List.map_congr_left fun i _ => ?_
  simp only [Function.comp_apply]
  push_cast
  omega

/-! ## The screens of a channel -/

namespace DecoderInfo

variable (decoder : DecoderInfo) (chnNum : Int)

/-- The IDs of the screens of a channel, from its number and the maximum alone. -/
def screenGbIds : List CStr := (loop 1 decoder.maxScreenCount).map (decoder.screenGbId chnNum)

theorem nodup_screenGbIds (hmax : decoder.maxScreenCount < 2 ^ 31) :
    (decoder.screenGbIds chnNum).Nodup := by
  refine List.Nodup.map_on (fun i hi j hj h => ?_) (nodup_loop _ _)
  have hnumber := zeroPadInt_inj (List.append_cancel_left h)
  exact int32_inj hmax (mem_loop.mp hi) (mem_loop.mp hj) hnumber

variable {chnNum} {cur : Int}

/-- **The IDs do not depend on the division** within the maximum. -/
theorem map_screenGbId_screens (h : 0 ≤ cur) (h' : cur ≤ decoder.maxScreenCount) :
    (decoder.screens chnNum cur).map (·.screenGbId) = decoder.screenGbIds chnNum := by
  rw [screens, screenGbIds, ← loop_append (by omega : 1 ≤ cur + 1) h']
  simp only [List.map_append, List.map_map]
  rfl

theorem map_status_screens :
    (decoder.screens chnNum cur).map (·.status) =
      List.replicate cur.toNat (str "ON") ++
        List.replicate (decoder.maxScreenCount - cur).toNat (str "OFF") := by
  have hstatus : ∀ (status : String) (is : List Int),
      (is.map (decoder.screen chnNum status)).map (·.status) =
        List.replicate is.length (str status) := by
    intro status is
    rw [List.map_map, List.eq_replicate_iff]
    refine ⟨List.length_map _, fun s hs => ?_⟩
    obtain ⟨i, -, rfl⟩ := List.mem_map.mp hs
    rfl
  rw [screens, List.map_append, hstatus, hstatus, length_loop, length_loop]
  congr 2 <;> omega

theorem length_screens (h : 0 ≤ cur) (h' : cur ≤ decoder.maxScreenCount) :
    ((decoder.screens chnNum cur).length : Int) = decoder.maxScreenCount := by
  simp only [screens, List.length_append, List.length_map, length_loop]
  omega

end DecoderInfo

/-! ## What is read -/

/-- Every channel has the screens of its number. -/
def LaidOut (g : List DecoderInfo) : Prop :=
  ∀ decoder ∈ g, ∀ chn ∈ decoder.decoderChnInfo,
    chn.screenInfo = decoder.screens chn.chnNum chn.curScreenCount

theorem readChn_laidOut {decoder : DecoderInfo} {child : XMLElement} {chn : DecoderChnInfo}
    (h : readChn decoder child = .ok chn) :
    chn.screenInfo = decoder.screens chn.chnNum chn.curScreenCount := by
  obtain ⟨_, -, h⟩ := bind_eq_ok_iff.mp h
  obtain ⟨_, -, h⟩ := bind_eq_ok_iff.mp h
  cases h
  rfl

theorem readChns_laidOut {decoder : DecoderInfo} {elements : List XMLElement}
    {chns : List DecoderChnInfo} (h : readChns decoder elements = .ok chns) :
    ∀ chn ∈ chns, chn.screenInfo = decoder.screens chn.chnNum chn.curScreenCount := by
  induction elements generalizing chns with
  | nil =>
    cases h
    exact fun _ hc => by cases hc
  | cons child rest ih =>
    obtain ⟨chn, hchn, h⟩ := bind_eq_ok_iff.mp h
    obtain ⟨chns', hchns, h⟩ := bind_eq_ok_iff.mp h
    cases h
    exact List.forall_mem_cons.mpr ⟨readChn_laidOut hchn, ih hchns⟩

theorem readDecoders_laidOut {elements : List XMLElement} {g : List DecoderInfo}
    (h : readDecoders elements = .ok g) : LaidOut g := by
  induction elements generalizing g with
  | nil =>
    cases h
    exact fun _ hd => by cases hd
  | cons child rest ih =>
    obtain ⟨decoder, hdecoder, h⟩ := bind_eq_ok_iff.mp h
    obtain ⟨g', hg, h⟩ := bind_eq_ok_iff.mp h
    cases h
    refine List.forall_mem_cons.mpr ⟨?_, ih hg⟩
    obtain ⟨attributes, -, hdecoder⟩ := bind_eq_ok_iff.mp hdecoder
    obtain ⟨chns, hchns, hdecoder⟩ := bind_eq_ok_iff.mp hdecoder
    cases hdecoder
    have hlaid := readChns_laidOut hchns
    exact hlaid

/-- **What is read is laid out.** -/
theorem getDecoderInfo_laidOut {file : Option XMLDocument} {g : List DecoderInfo} {ret : Bool}
    (h : getDecoderInfo file [] = .ok (ret, g)) : LaidOut g := by
  unfold getDecoderInfo at h
  cases hnode : decoderInfoNode file with
  | none =>
    rw [hnode] at h
    cases h
    exact fun _ hd => by cases hd
  | some node =>
    rw [hnode] at h
    obtain ⟨decoders, hdecoders, h⟩ := bind_eq_ok_iff.mp h
    cases h
    exact readDecoders_laidOut hdecoders

/-- The maxima of the decoders are `int`s. -/
def MaxCounted (g : List DecoderInfo) : Prop := ∀ decoder ∈ g, decoder.maxScreenCount < 2 ^ 31

theorem readDecoders_maxCounted {elements : List XMLElement} {g : List DecoderInfo}
    (h : readDecoders elements = .ok g) : MaxCounted g := by
  induction elements generalizing g with
  | nil =>
    cases h
    exact fun _ hd => by cases hd
  | cons child rest ih =>
    obtain ⟨decoder, hdecoder, h⟩ := bind_eq_ok_iff.mp h
    obtain ⟨g', hg, h⟩ := bind_eq_ok_iff.mp h
    cases h
    refine List.forall_mem_cons.mpr ⟨?_, ih hg⟩
    obtain ⟨attributes, hattributes, hdecoder⟩ := bind_eq_ok_iff.mp hdecoder
    obtain ⟨chns, -, hdecoder⟩ := bind_eq_ok_iff.mp hdecoder
    cases hdecoder
    unfold readAttributes at hattributes
    obtain ⟨_, -, hattributes⟩ := bind_eq_ok_iff.mp hattributes
    obtain ⟨_, -, hattributes⟩ := bind_eq_ok_iff.mp hattributes
    obtain ⟨_, -, hattributes⟩ := bind_eq_ok_iff.mp hattributes
    obtain ⟨_, -, hattributes⟩ := bind_eq_ok_iff.mp hattributes
    obtain ⟨maxScreenCount, -, hattributes⟩ := bind_eq_ok_iff.mp hattributes
    obtain ⟨_, -, hattributes⟩ := bind_eq_ok_iff.mp hattributes
    cases hattributes
    have hlt : atoi maxScreenCount < 2 ^ 31 :=
      max_lt (by decide) (lt_of_le_of_lt (min_le_left _ _) (by decide))
    exact hlt

theorem getDecoderInfo_maxCounted {file : Option XMLDocument} {g : List DecoderInfo} {ret : Bool}
    (h : getDecoderInfo file [] = .ok (ret, g)) : MaxCounted g := by
  unfold getDecoderInfo at h
  cases hnode : decoderInfoNode file with
  | none =>
    rw [hnode] at h
    cases h
    exact fun _ hd => by cases hd
  | some node =>
    rw [hnode] at h
    obtain ⟨decoders, hdecoders, h⟩ := bind_eq_ok_iff.mp h
    cases h
    exact readDecoders_maxCounted hdecoders

/-! ## A file that can be read can be changed -/

theorem modifyChns_total {decoder : DecoderInfo} {chn divisonCount : Int}
    {elements : List XMLElement} {chns : List DecoderChnInfo}
    (h : readChns decoder elements = .ok chns) :
    ∃ elements', modifyChns chn divisonCount elements = .ok elements' := by
  induction elements generalizing chns with
  | nil => exact ⟨[], rfl⟩
  | cons child rest ih =>
    obtain ⟨decoderChn, hchn, h⟩ := bind_eq_ok_iff.mp h
    obtain ⟨chns', hchns, -⟩ := bind_eq_ok_iff.mp h
    obtain ⟨chnNum, hnum, -⟩ := bind_eq_ok_iff.mp hchn
    obtain ⟨rest', hrest⟩ := ih hchns
    rw [modifyChns, hnum, hrest]
    by_cases hchn : atoi chnNum ≠ chn
    · exact ⟨_, if_pos hchn⟩
    · exact ⟨_, if_neg hchn⟩

theorem modifyDecoders_total {decoderGbId : CStr} {chn divisonCount : Int}
    {elements : List XMLElement} {g : List DecoderInfo} (h : readDecoders elements = .ok g) :
    ∃ elements', modifyDecoders decoderGbId chn divisonCount elements = .ok elements' := by
  induction elements generalizing g with
  | nil => exact ⟨[], rfl⟩
  | cons child rest ih =>
    obtain ⟨decoder, hdecoder, h⟩ := bind_eq_ok_iff.mp h
    obtain ⟨g', hg, -⟩ := bind_eq_ok_iff.mp h
    obtain ⟨attributes, hattributes, hdecoder⟩ := bind_eq_ok_iff.mp hdecoder
    obtain ⟨chns, hchns, -⟩ := bind_eq_ok_iff.mp hdecoder
    have hattributes' := hattributes
    obtain ⟨gbId, hgbId, -⟩ := bind_eq_ok_iff.mp hattributes'
    obtain ⟨rest', hrest⟩ := ih hg
    obtain ⟨chns', hchns'⟩ : ∃ chns', modifyChns chn divisonCount (child.elementsFrom "chn") =
        .ok chns' := modifyChns_total hchns
    rw [modifyDecoders, hgbId, hrest, hattributes, hchns']
    by_cases hid : gbId ≠ decoderGbId
    · exact ⟨_, if_pos hid⟩
    · exact ⟨_, if_neg hid⟩

/-- **A file that can be read can be changed.** -/
theorem modifyXmlDivisonInfo_total {file : Option XMLDocument} {g : List DecoderInfo} {ret : Bool}
    (h : getDecoderInfo file [] = .ok (ret, g)) (decoderGbId : CStr) (chn divisonCount : Int) :
    ∃ result, modifyXmlDivisonInfo file decoderGbId chn divisonCount = .ok result := by
  unfold getDecoderInfo at h
  unfold modifyXmlDivisonInfo
  cases hnode : decoderInfoNode file with
  | none => exact ⟨_, rfl⟩
  | some node =>
    rw [hnode] at h
    obtain ⟨decoders, hdecoders, -⟩ := bind_eq_ok_iff.mp h
    obtain ⟨xmlDoc, hdoc⟩ : ∃ xmlDoc, modifyDecoders decoderGbId chn divisonCount
        (node.elementsFrom "decoder") = .ok xmlDoc := modifyDecoders_total hdecoders
    refine ⟨(true, xmlDoc), ?_⟩
    show (modifyDecoders decoderGbId chn divisonCount (node.elementsFrom "decoder") >>= _) = _
    rw [hdoc]
    rfl

end GB28181.Platform.SDKCom
