import GB28181.Base.CString
import GB28181.Base.Fallible

/-!
# Answers of the devices in XML (`GB28181.Lib/SipInterface.cpp`)

`ParseDevicePresetQuery`, `ParseRealPlayUrl` and `ParseDecoderStatusVideoDeviceID` over what the XML
library finds in a text.  The loop over the presets goes from an item to an item inside it, and not
to the next one.

* `itemLoop_eq` — the loop decodes the items it comes to, and ends;
* `parseDevicePresetQuery_eq_some_iff` — what is read, and when nothing absent is;
* `presets_iff` — **exactly when a list is decoded completely** and when each of the three returns
  without an absent part.
-/

set_option autoImplicit false

namespace GB28181.Lib.PresetQuery

open GB28181.Base

/-! ## Documents -/

/-- `tinyxml2::XMLElement`: a name, attributes, the text that `GetText` returns, and child
elements. -/
inductive XMLElement where
  | mk (name : CStr) (attributes : List (CStr × CStr)) (text : Option CStr)
    (children : List XMLElement)

namespace XMLElement

def name : XMLElement → CStr
  | mk name _ _ _ => name

def attributes : XMLElement → List (CStr × CStr)
  | mk _ attributes _ _ => attributes

/-- `GetText`; `none` is a null pointer. -/
def getText : XMLElement → Option CStr
  | mk _ _ text _ => text

def children : XMLElement → List XMLElement
  | mk _ _ _ children => children

/-- `Attribute`; `none` is a null pointer. -/
def getAttribute (e : XMLElement) (name : CStr) : Option CStr :=
  (e.attributes.find? fun a => a.1 = name).map Prod.snd

/-- `FirstChildElement` with a name. -/
def firstChildElement (e : XMLElement) (name : CStr) : Option XMLElement :=
  e.children.find? fun child => child.name = name

theorem sizeOf_firstChildElement_lt (e : XMLElement) (name : CStr) :
    sizeOf (e.firstChildElement name) < sizeOf (some e) := by
  obtain ⟨n, a, t, cs⟩ := e
  cases h : (mk n a t cs).firstChildElement name with
  | none =>
    simp only [Option.none.sizeOf_spec, Option.some.sizeOf_spec, mk.sizeOf_spec]
    omega
  | some child =>
    have hmem : child ∈ cs := List.mem_of_find?_eq_some h
    have hlt := List.sizeOf_lt_of_mem hmem
    simp only [Option.some.sizeOf_spec, mk.sizeOf_spec]
    omega

end XMLElement

/-! ## `SipInterface.cpp` -/

/-- `DEVICE_PRESET_INFO_T` -/
structure DevicePresetInfo where
  strPresetId : CStr
  strPresetName : CStr
  deriving DecidableEq

/-- `DEVICE_PRESETQUERY_INFO_T` -/
structure DevicePresetQueryInfo where
  strCmdType : CStr := []
  nSN : Int := 1
  strDeviceID : CStr := []
  v_PresetInfo : List DevicePresetInfo := []

/-- `if (pChildNode) str = pChildNode->GetText()`, which reads a text; `none` is a read of an absent
one. -/
def childText (e : XMLElement) (name : CStr) (old : CStr) : Option CStr :=
  match e.firstChildElement name with
  | some pChildNode => pChildNode.getText
  | none => some old

/-- The first field of `presetInfo = { 0 }` is a string that is made of a null pointer, which is
undefined: it may come out empty. -/
def zeroString (nullIsEmpty : Bool) : Option CStr := if nullIsEmpty then some [] else none

def presetInfo (nullIsEmpty : Bool) (pChildNode : XMLElement) : Option DevicePresetInfo := do
  let zero ← zeroString nullIsEmpty
  let strPresetId ← childText pChildNode (str "PresetID") zero
  let strPresetName ← childText pChildNode (str "PresetName") []
  return { strPresetId := strPresetId, strPresetName := strPresetName }

/-- The loop of `ParseDevicePresetQuery`; it goes on with an item inside the item. -/
def itemLoop (nullIsEmpty : Bool) : Option XMLElement → List DevicePresetInfo →
    Option (List DevicePresetInfo)
  | none, v_PresetInfo => some v_PresetInfo
  | some pChildNode, v_PresetInfo =>
    match presetInfo nullIsEmpty pChildNode with
    | none => none
    | some info =>
      itemLoop nullIsEmpty (pChildNode.firstChildElement (str "Item")) (v_PresetInfo ++ [info])
termination_by pChildNode => sizeOf pChildNode
decreasing_by exact XMLElement.sizeOf_firstChildElement_lt pChildNode (str "Item")

/-- The part of `ParseDevicePresetQuery` about the list. -/
def presetList (nullIsEmpty : Bool) (pResponse : XMLElement) : Option (List DevicePresetInfo) :=
  match pResponse.firstChildElement (str "PresetList") with
  | none => some []
  | some pChildNode => do
    let _nNum ← pChildNode.getAttribute (str "Num")
    itemLoop nullIsEmpty (pChildNode.firstChildElement (str "Item")) []

section

variable (nullIsEmpty : Bool) (parse : CStr → Option XMLElement)

/-- `ParseDevicePresetQuery`.  `parse` gives the first element of the document that `Parse`
leaves. -/
def parseDevicePresetQuery (pXml : CStr) : Option DevicePresetQueryInfo := do
  let pResponse ← parse pXml
  let strCmdType ← childText pResponse (str "CmdType") []
  let strDeviceID ← childText pResponse (str "DeviceID") []
  let v_PresetInfo ← presetList nullIsEmpty pResponse
  return { strCmdType := strCmdType, strDeviceID := strDeviceID, v_PresetInfo := v_PresetInfo }

/-- `ParseRealPlayUrl`: the text in `url`, which has room for it. -/
def parseRealPlayUrl (pXml url : CStr) : Option CStr := do
  let pResponse ← parse pXml
  childText pResponse (str "PlayUrl") url

def parseDecoderStatusVideoDeviceID (pXml strVideoDeviceID : CStr) : Option CStr := do
  let pResponse ← parse pXml
  childText pResponse (str "VideoDeviceID") strVideoDeviceID

end

/-! ## What should be decoded -/

/-- The items of a list, or of an item. -/
def itemsOf (e : XMLElement) : List XMLElement :=
  e.children.filter fun child => child.name = str "Item"

/-- The text of a child, empty where there is none. -/
def valueOf (e : XMLElement) (name : CStr) : CStr :=
  ((e.firstChildElement name).bind XMLElement.getText).getD []

def entryOf (item : XMLElement) : DevicePresetInfo where
  strPresetId := valueOf item (str "PresetID")
  strPresetName := valueOf item (str "PresetName")

def HasText (e : XMLElement) (name : CStr) : Prop :=
  ∀ child, e.firstChildElement name = some child → child.getText ≠ none

def itemChain : Option XMLElement → List XMLElement
  | none => []
  | some item => item :: itemChain (item.firstChildElement (str "Item"))
termination_by item => sizeOf item
decreasing_by exact XMLElement.sizeOf_firstChildElement_lt item (str "Item")

def Readable (nullIsEmpty : Bool) (item : XMLElement) : Prop :=
  nullIsEmpty = true ∧ HasText item (str "PresetID") ∧ HasText item (str "PresetName")

/-- Nothing absent is read of the list: neither the number of presets nor anything of the items that
the loop comes to. -/
def ListReadable (nullIsEmpty : Bool) (root : XMLElement) : Prop :=
  ∀ list, root.firstChildElement (str "PresetList") = some list →
    list.getAttribute (str "Num") ≠ none ∧
      ∀ item ∈ itemChain (list.firstChildElement (str "Item")), Readable nullIsEmpty item

/-- Nothing absent is read of an answer. -/
def QueryReadable (nullIsEmpty : Bool) (root : XMLElement) : Prop :=
  HasText root (str "CmdType") ∧ HasText root (str "DeviceID") ∧ ListReadable nullIsEmpty root

def foundPresets (root : XMLElement) : List DevicePresetInfo :=
  match root.firstChildElement (str "PresetList") with
  | none => []
  | some list => (itemChain (list.firstChildElement (str "Item"))).map entryOf

/-! ## What is decoded -/

section

variable {e : XMLElement} {name old t : CStr} {nullIsEmpty : Bool}

theorem childText_eq_some_iff : childText e name old = some t ↔
    HasText e name ∧ t = if e.firstChildElement name = none then old else valueOf e name := by
  unfold childText HasText valueOf
  cases e.firstChildElement name with
  | none => simp [eq_comm]
  | some child => cases h : child.getText <;> simp [h, eq_comm]

theorem childText_nil_eq_some_iff :
    childText e name [] = some t ↔ HasText e name ∧ t = valueOf e name := by
  rw [childText_eq_some_iff]
  split
  · rename_i h
    rw [valueOf, h]
    rfl
  · rfl

theorem presetInfo_eq_some_iff (item : XMLElement) (info : DevicePresetInfo) :
    presetInfo nullIsEmpty item = some info ↔ Readable nullIsEmpty item ∧ info = entryOf item := by
  cases nullIsEmpty with
  | false => simp [presetInfo, zeroString, Readable]
  | true =>
    simp only [presetInfo, zeroString, if_true, Option.bind_eq_bind, Option.bind_some,
      Option.bind_eq_some_iff, childText_nil_eq_some_iff]
    constructor
    · rintro ⟨_, ⟨hid, rfl⟩, _, ⟨hname, rfl⟩, h⟩
      exact ⟨⟨rfl, hid, hname⟩, (Option.some.inj h).symm⟩
    · rintro ⟨⟨-, hid, hname⟩, rfl⟩
      exact ⟨_, ⟨hid, rfl⟩, _, ⟨hname, rfl⟩, rfl⟩

/-- **The loop** decodes the items it comes to. -/
theorem itemLoop_eq (p : Option XMLElement) (v : List DevicePresetInfo) :
    itemLoop nullIsEmpty p v = ((itemChain p).mapM (presetInfo nullIsEmpty)).map (v ++ ·) := by
  fun_induction itemLoop nullIsEmpty p v with
  | case1 v =>
    rw [itemChain]
    simp
  | case2 item v h =>
    rw [itemChain, List.mapM_cons, h]
    rfl
  | case3 item v info h ih =>
    rw [ih, itemChain, List.mapM_cons, h]
    cases (itemChain (item.firstChildElement (str "Item"))).mapM (presetInfo nullIsEmpty) with
    | none => rfl
    | some rest => simp

theorem itemLoop_eq_some_iff {p : Option XMLElement} {v : List DevicePresetInfo} :
    itemLoop nullIsEmpty p [] = some v ↔
      (∀ item ∈ itemChain p, Readable nullIsEmpty item) ∧ v = (itemChain p).map entryOf := by
  rw [itemLoop_eq, ← mapM_eq_some_iff presetInfo_eq_some_iff]
  simp

theorem presetList_eq_some_iff {root : XMLElement} {v : List DevicePresetInfo} :
    presetList nullIsEmpty root = some v ↔
      ListReadable nullIsEmpty root ∧ v = foundPresets root := by
  unfold presetList ListReadable foundPresets
  cases root.firstChildElement (str "PresetList") with
  | none => simp [eq_comm]
  | some list =>
    show (list.getAttribute (str "Num")).bind _ = _ ↔ _
    cases hnum : list.getAttribute (str "Num") with
    | none => simp [hnum]
    | some num =>
      rw [Option.bind_some, itemLoop_eq_some_iff]
      simp [hnum]

/-- **What is read** of an answer, and when nothing absent is. -/
theorem parseDevicePresetQuery_eq_some_iff {parse : CStr → Option XMLElement} {pXml : CStr}
    {info : DevicePresetQueryInfo} :
    parseDevicePresetQuery nullIsEmpty parse pXml = some info ↔
      ∃ root, parse pXml = some root ∧ QueryReadable nullIsEmpty root ∧
        info = { strCmdType := valueOf root (str "CmdType")
                 strDeviceID := valueOf root (str "DeviceID")
                 v_PresetInfo := foundPresets root } := by
  simp only [parseDevicePresetQuery, Option.bind_eq_bind, Option.bind_eq_some_iff,
    childText_nil_eq_some_iff, presetList_eq_some_iff]
  constructor
  · rintro ⟨root, hroot, _, ⟨hcmd, rfl⟩, _, ⟨hid, rfl⟩, _, ⟨hlist, rfl⟩, h⟩
    exact ⟨root, hroot, ⟨hcmd, hid, hlist⟩, (Option.some.inj h).symm⟩
  · rintro ⟨root, hroot, ⟨hcmd, hid, hlist⟩, rfl⟩
    exact ⟨root, hroot, _, ⟨hcmd, rfl⟩, _, ⟨hid, rfl⟩, _, ⟨hlist, rfl⟩, rfl⟩

theorem bind_childText_ne_none_iff {root : Option XMLElement} :
    (root.bind fun root => childText root name old) ≠ none ↔
      ∃ r, root = some r ∧ HasText r name := by
  rw [Option.ne_none_iff_exists']
  simp only [Option.bind_eq_some_iff, childText_eq_some_iff]
  constructor
  · rintro ⟨t, r, hr, htext, -⟩
    exact ⟨r, hr, htext⟩
  · rintro ⟨r, hr, htext⟩
    exact ⟨_, r, hr, htext, rfl⟩

theorem firstChildElement_eq_head? (e : XMLElement) :
    e.firstChildElement (str "Item") = (itemsOf e).head? := by
  rw [itemsOf, List.head?_filter]
  rfl

/-- Without an item inside an item, the loop comes to the first one only. -/
theorem itemChain_eq {list : XMLElement} (hflat : ∀ item ∈ itemsOf list, itemsOf item = []) :
    itemChain (list.firstChildElement (str "Item")) = (itemsOf list).take 1 := by
  rw [firstChildElement_eq_head?]
  cases hitems : itemsOf list with
  | nil =>
    rw [List.head?_nil, itemChain]
    rfl
  | cons item rest =>
    have hinside : itemsOf item = [] := hflat item (by rw [hitems]; exact List.mem_cons_self)
    rw [List.head?_cons, itemChain, firstChildElement_eq_head?, hinside, List.head?_nil, itemChain]
    rfl

end

/-! ## Complete lists -/

/-- **Every answer**: a list of presets is decoded completely exactly where nothing absent is read
and it has no second item; and each of the three functions returns without an absent part exactly
where what it reads is there. -/
theorem presets_iff (nullIsEmpty : Bool) (parse : CStr → Option XMLElement) (pXml : CStr) :
    (∀ root list, parse pXml = some root →
      root.firstChildElement (str "PresetList") = some list →
      (∀ item ∈ itemsOf list, itemsOf item = []) →
      ((∃ info, parseDevicePresetQuery nullIsEmpty parse pXml = some info ∧
          info.v_PresetInfo = (itemsOf list).map entryOf) ↔
        HasText root (str "CmdType") ∧ HasText root (str "DeviceID") ∧
          list.getAttribute (str "Num") ≠ none ∧ (itemsOf list).length ≤ 1 ∧
          ∀ item ∈ itemsOf list, Readable nullIsEmpty item)) ∧
    (parseDevicePresetQuery nullIsEmpty parse pXml ≠ none ↔
      ∃ root, parse pXml = some root ∧ QueryReadable nullIsEmpty root) ∧
    (∀ url, parseRealPlayUrl parse pXml url ≠ none ↔
      ∃ root, parse pXml = some root ∧ HasText root (str "PlayUrl")) ∧
    ∀ strVideoDeviceID, parseDecoderStatusVideoDeviceID parse pXml strVideoDeviceID ≠ none ↔
      ∃ root, parse pXml = some root ∧ HasText root (str "VideoDeviceID") := by
  refine ⟨fun root list hroot hlist hflat => ?_, ?_, fun url => bind_childText_ne_none_iff,
    fun strVideoDeviceID => bind_childText_ne_none_iff⟩
  · have hchain := itemChain_eq hflat
    have hfound : foundPresets root = ((itemsOf list).take 1).map entryOf := by
      rw [foundPresets, hlist, ← hchain]
    have hreadable : ListReadable nullIsEmpty root ↔ list.getAttribute (str "Num") ≠ none ∧
        ∀ item ∈ (itemsOf list).take 1, Readable nullIsEmpty item := by
      rw [← hchain]
      constructor
      · exact fun h => h list hlist
      · intro h list' hlist'
        obtain rfl := Option.some.inj (hlist.symm.trans hlist')
        exact h
    constructor
    · rintro ⟨info, hinfo, hcomplete⟩
      obtain ⟨root', hroot', ⟨hcmd, hid, hitems⟩, rfl⟩ :=
        parseDevicePresetQuery_eq_some_iff.mp hinfo
      obtain rfl := Option.some.inj (hroot.symm.trans hroot')
      obtain ⟨hnum, hitems⟩ := hreadable.mp hitems
      have hlen := congrArg List.length (hfound.symm.trans hcomplete)
      rw [List.length_map, List.length_map, List.length_take] at hlen
      have hone : (itemsOf list).length ≤ 1 := by omega
      rw [List.take_of_length_le hone] at hitems
      exact ⟨hcmd, hid, hnum, hone, hitems⟩
    · rintro ⟨hcmd, hid, hnum, hone, hitems⟩
      rw [List.take_of_length_le hone] at hfound hreadable
      exact ⟨_, parseDevicePresetQuery_eq_some_iff.mpr
        ⟨root, hroot, ⟨hcmd, hid, hreadable.mpr ⟨hnum, hitems⟩⟩, rfl⟩, hfound⟩
  · rw [Option.ne_none_iff_exists']
    simp only [parseDevicePresetQuery_eq_some_iff]
    constructor
    · rintro ⟨_, root, hroot, hread, -⟩
      exact ⟨root, hroot, hread⟩
    · rintro ⟨root, hroot, hread⟩
      exact ⟨_, root, hroot, hread, rfl⟩

/-- An element with a text and nothing else. -/
def leaf (name text : CStr) : XMLElement := .mk name [] (some text) []

def preset (id name : CStr) : XMLElement :=
  .mk (str "Item") [] none [leaf (str "PresetID") id, leaf (str "PresetName") name]

def twoPresets : XMLElement :=
  .mk (str "PresetList") [(str "Num", str "2")] none
    [preset (str "1") (str "door"), preset (str "2") (str "gate")]

def twoPresetsResponse : XMLElement :=
  .mk (str "Response") [] none [leaf (str "CmdType") (str "PresetQuery"), leaf (str "SN") (str "1"),
    leaf (str "DeviceID") (str "34020000001310000001"), twoPresets]

def twoPresetsXml : CStr :=
  str "<Response><CmdType>PresetQuery</CmdType><SN>1</SN>" ++
  str "<DeviceID>34020000001310000001</DeviceID><PresetList Num=\"2\">" ++
  str "<Item><PresetID>1</PresetID><PresetName>door</PresetName></Item>" ++
  str "<Item><PresetID>2</PresetID><PresetName>gate</PresetName></Item>" ++
  str "</PresetList></Response>"

/-- The library on this answer; it finds no element in any other text. -/
def parseTwoPresets (pXml : CStr) : Option XMLElement :=
  if pXml = twoPresetsXml then some twoPresetsResponse else none

theorem parseTwoPresets_xml : parseTwoPresets twoPresetsXml = some twoPresetsResponse := if_pos rfl

theorem itemsOf_twoPresets :
    itemsOf twoPresets = [preset (str "1") (str "door"), preset (str "2") (str "gate")] := rfl

theorem flat_twoPresets : ∀ item ∈ itemsOf twoPresets, itemsOf item = [] := by
  rw [itemsOf_twoPresets]
  simp only [List.forall_mem_cons]
  exact ⟨rfl, rfl, nofun⟩

theorem presets_two :
    (∃ info, parseDevicePresetQuery true parseTwoPresets twoPresetsXml = some info ∧
        info.v_PresetInfo = (itemsOf twoPresets).map entryOf) ↔
      HasText twoPresetsResponse (str "CmdType") ∧ HasText twoPresetsResponse (str "DeviceID") ∧
        twoPresets.getAttribute (str "Num") ≠ none ∧ (itemsOf twoPresets).length ≤ 1 ∧
        ∀ item ∈ itemsOf twoPresets, Readable true item :=
  (presets_iff true parseTwoPresets twoPresetsXml).1 twoPresetsResponse twoPresets
    parseTwoPresets_xml rfl flat_twoPresets

theorem foundPresets_two : foundPresets twoPresetsResponse = [⟨str "1", str "door"⟩] := by
  show (itemChain (twoPresets.firstChildElement (str "Item"))).map entryOf = _
  rw [itemChain_eq flat_twoPresets]
  rfl

/-- The second preset is missing, whatever a string that is made of a null pointer is; and a text
without an element is read through a null pointer. -/
theorem presets_wrong :
    (¬ ∃ nullIsEmpty info, parseDevicePresetQuery nullIsEmpty parseTwoPresets twoPresetsXml =
        some info ∧ info.v_PresetInfo = [⟨str "1", str "door"⟩, ⟨str "2", str "gate"⟩]) ∧
    parseDevicePresetQuery true parseTwoPresets (str "busy") = none ∧
    parseRealPlayUrl parseTwoPresets (str "busy") [] = none ∧
    parseDecoderStatusVideoDeviceID parseTwoPresets (str "busy") [] = none := by
  refine ⟨?_, rfl, rfl, rfl⟩
  rintro ⟨nullIsEmpty, info, hinfo, hcomplete⟩
  obtain ⟨root, hroot, -, rfl⟩ := parseDevicePresetQuery_eq_some_iff.mp hinfo
  obtain rfl := Option.some.inj (parseTwoPresets_xml.symm.trans hroot)
  have hfound := foundPresets_two.symm.trans hcomplete
  exact absurd hfound (by decide)

end GB28181.Lib.PresetQuery
