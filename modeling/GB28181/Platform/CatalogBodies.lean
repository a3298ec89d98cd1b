import Mathlib.Data.List.Nodup
import GB28181.Base.Decimal
import GB28181.Base.Fallible
import GB28181.Base.XmlElements
import GB28181.Platform.XMLBodyBuilder

/-!
# What the bodies of catalogue responses say (`SIPCom/XMLBodyBuilder.h`)

A body is a document of lines: the command, the serial number, the device, the total and a list
with one element an item.  Its texts are written as they are, and its lines, items and the whole go
through buffers of fixed size.

* `XMLBodyContent.lines` — the document that is written;
* `XMLBodyContent.ItemsFit` — the buffers of the items, in lengths of the texts;
* `createContent_eq_some_iff` — what is written is this document, if it fits;
* `CatalogBody` — a body and its items with all their texts; `CatalogBody.Recovers` — a reader
  finds the device, the number of items and, in each of them, every text and the event;
* `faithful_iff` — they are found **exactly when what is written fits and needs no escape and the
  texts that are not written are empty**.
-/

set_option autoImplicit false

namespace GB28181.Platform

open GB28181.Base
open GB28181.Base.Xml (Line element Clean Literal printLines document documentSize report
  textOf valueOf contentTokens)

/-! ## The lines -/

def leaves (nodes : List (CStr × CStr)) : List Line := nodes.map fun node => .leaf node.1 node.2

/-- What `CPlatformCatalogContent` says of the platform. -/
def CPlatformCatalogContent.nodes (c : CPlatformCatalogContent) : List (CStr × CStr) :=
  [(str "DeviceID", c.m_deviceID), (str "Name", c.m_strName),
    (str "Manufacturer", str "Honeywell"), (str "Model", str "Platform"),
    (str "Owner", str "Owner"), (str "CivilCode", c.m_civilCode), (str "Address", str "Address"),
    (str "RegisterWay", str "1"), (str "Secrecy", str "0")]

/-- What `CVirtualCatalogContent` says of an item. -/
def CVirtualCatalogContent.nodes (c : CVirtualCatalogContent) (catalog : CatalogItem) :
    List (CStr × CStr) :=
  [(str "DeviceID", catalog.m_strDeviceID), (str "Name", catalog.m_strName),
    (str "ParentID", c.m_deviceID), (str "BusinessGroupID", str "44000000002150000001")]

/-- What `GetStatusItem` says of an item. -/
def CDeviceCatalog.statusNodes (c : CDeviceCatalog) (catalog : CatalogItem) :
    List (CStr × CStr) :=
  [(str "DeviceID", catalog.m_strDeviceID), (str "Event", catalogEventTypeString c.m_eveType)]

/-- The events that are told with the state of a device only. -/
def CatalogEventType.isStatus : CatalogEventType → Bool
  | .on | .off | .vlost | .defect | .del => true
  | _ => false

/-- What `CDeviceCatalog` says of an item on lines of its own. -/
def CDeviceCatalog.nodes (c : CDeviceCatalog) (catalog : CatalogItem) : List (CStr × CStr) :=
  if c.m_eveType.isStatus then c.statusNodes catalog
  else updateNodes catalog ++
    if c.m_eveType = .add ∨ c.m_eveType = .update then
      [(str "Event", catalogEventTypeString c.m_eveType)]
    else []

/-- And in the element behind these lines. -/
def CDeviceCatalog.infoNodes (c : CDeviceCatalog) (catalog : CatalogItem) :
    List (CStr × CStr) :=
  if c.m_eveType.isStatus then [] else [(str "PTZType", catalog.m_strInfoPTZType)]

/-- The lines of an item of a device catalogue. -/
def CDeviceCatalog.itemLines (c : CDeviceCatalog) (catalog : CatalogItem) : List Line :=
  element (str "Item") [] (leaves (c.nodes catalog) ++
    if c.m_eveType.isStatus then []
    else element (str "Info") [] (leaves (c.infoNodes catalog)))

def XMLBodyContent.itemLines : XMLBodyContent → List (List Line)
  | .platform c => [element (str "Item") [] (leaves c.nodes)]
  | .virtual c => c.m_catalogList.map fun catalog =>
      element (str "Item") [] (leaves (c.nodes catalog))
  | .device c => c.m_catalogList.map c.itemLines

def XMLBodyContent.sn : XMLBodyContent → CStr
  | .platform c => c.m_SN
  | .virtual c => c.m_SN
  | .device c => c.m_SN

def XMLBodyContent.deviceID : XMLBodyContent → CStr
  | .platform c => c.m_deviceID
  | .virtual c => c.m_deviceID
  | .device c => c.m_deviceID

/-- The lines of the content: the items in the order of the list, and how many there are. -/
def XMLBodyContent.contentLines (body : XMLBodyContent) : List Line :=
  leaves [(str "CmdType", str "Catalog"), (str "SN", body.sn), (str "DeviceID", body.deviceID),
      (str "SumNum", str (toString body.sumNum))] ++
    element (str "DeviceList") [(str "Num", str (toString body.itemLines.length))]
      body.itemLines.flatten

def XMLBodyContent.lines (bdType : XMLBodyType) (body : XMLBodyContent) : List Line :=
  element (bodyTypeString bdType) [] body.contentLines

def xmlDeclaration : CStr := str "xml version=\"1.0\" encoding=\"gb2312\""

/-- The texts of the items fit the buffers they go through. -/
def XMLBodyContent.ItemsFit : XMLBodyContent → Prop
  | .platform _ => True
  | .virtual c =>
    (∀ catalog ∈ c.m_catalogList,
      ((element (str "Item") [] (leaves (c.nodes catalog))).map Line.size).sum < 512) ∧
      ((XMLBodyContent.virtual c).itemLines.flatten.map Line.size).sum < 2048
  | .device c => ∀ catalog ∈ c.m_catalogList, ∀ node ∈ c.nodes catalog ++ c.infoNodes catalog,
      2 * node.1.length + node.2.length + 7 < 128

/-! ## What is written -/

theorem devFmt_eq (n v : CStr) : devFmt n v = (Line.leaf n v).print ++ Xml.lineBreak := by
  have hopen : str "<" = [0x3c] := rfl
  have hclose : str ">" = [0x3e] := rfl
  have hend : str "</" = [0x3c, 0x2f] := rfl
  simp [devFmt, Line.print, Xml.tag, hopen, hclose, hend]
  rfl

theorem printLines_leaves (nodes : List (CStr × CStr)) :
    printLines (leaves nodes) = (nodes.map fun node => devFmt node.1 node.2).flatten := by
  rw [printLines, leaves, List.flatMap_map, ← List.flatMap_def]
  exact List.flatMap_congr fun node _ => (devFmt_eq node.1 node.2).symm

theorem nodeLines_eq_some_iff (nodes : List (CStr × CStr)) (text : CStr) :
    nodeLines nodes = some text ↔
      (∀ node ∈ nodes, 2 * node.1.length + node.2.length + 7 < 128) ∧
        text = printLines (leaves nodes) := by
  have hnode : ∀ (node : CStr × CStr) (y : CStr), sprintfS 128 (devFmt node.1 node.2) = some y ↔
      2 * node.1.length + node.2.length + 7 < 128 ∧ y = devFmt node.1 node.2 := by
    intro node y
    rw [sprintfS_eq_some, devFmt_eq, Line.length_print]
    rfl
  rw [nodeLines, Option.map_eq_some_iff, printLines_leaves]
  simp only [mapM_eq_some_iff hnode]
  constructor
  · rintro ⟨lines, ⟨hall, rfl⟩, rfl⟩
    exact ⟨hall, rfl⟩
  · rintro ⟨hall, rfl⟩
    exact ⟨_, ⟨hall, rfl⟩, rfl⟩

theorem printLines_tagged (n : CStr) (lines : List Line) :
    printLines (element n [] lines) =
      str "<" ++ n ++ str ">" ++ bodyNewline ++ printLines lines ++
        (str "</" ++ n ++ str ">" ++ bodyNewline) := by
  have hopen : str "<" = [0x3c] := rfl
  have hclose : str ">" = [0x3e] := rfl
  have hend : str "</" = [0x3c, 0x2f] := rfl
  have hbreak : bodyNewline = Xml.lineBreak := rfl
  rw [Xml.printLines_element, hopen, hclose, hend, hbreak]
  simp [Xml.attributeText, Xml.tag]

theorem CVirtualCatalogContent.getItems_eq_some_iff (c : CVirtualCatalogContent) (text : CStr) :
    c.getItems = some text ↔ (XMLBodyContent.virtual c).ItemsFit ∧
      text = printLines (XMLBodyContent.virtual c).itemLines.flatten := by
  have hitem : ∀ (catalog : CatalogItem) (y : CStr), sprintfS 512
      (str "<Item>" ++ bodyNewline ++ devFmt (str "DeviceID") catalog.m_strDeviceID ++
        devFmt (str "Name") catalog.m_strName ++ devFmt (str "ParentID") c.m_deviceID ++
        devFmt (str "BusinessGroupID") (str "44000000002150000001") ++ str "</Item>" ++
        bodyNewline) = some y ↔
      ((element (str "Item") [] (leaves (c.nodes catalog))).map Line.size).sum < 512 ∧
        y = printLines (element (str "Item") [] (leaves (c.nodes catalog))) := by
    intro catalog y
    have htext : str "<Item>" ++ bodyNewline ++ devFmt (str "DeviceID") catalog.m_strDeviceID ++
        devFmt (str "Name") catalog.m_strName ++ devFmt (str "ParentID") c.m_deviceID ++
        devFmt (str "BusinessGroupID") (str "44000000002150000001") ++ str "</Item>" ++
        bodyNewline = printLines (element (str "Item") [] (leaves (c.nodes catalog))) := by
      rw [printLines_tagged, printLines_leaves]
      simp only [CVirtualCatalogContent.nodes, List.map_cons, List.map_nil, List.flatten_cons,
        List.flatten_nil, List.append_nil, List.append_assoc]
      rfl
    rw [sprintfS_eq_some, htext, Xml.length_printLines]
  have hall : printLines (XMLBodyContent.virtual c).itemLines.flatten =
      (c.m_catalogList.map fun catalog =>
        printLines (element (str "Item") [] (leaves (c.nodes catalog)))).flatten := by
    rw [XMLBodyContent.itemLines, ← List.flatMap_def, printLines, List.flatMap_assoc,
      List.flatMap_def]
    rfl
  rw [CVirtualCatalogContent.getItems, XMLBodyContent.ItemsFit, Option.bind_eq_bind,
    Option.bind_eq_some_iff, ← Xml.length_printLines, hall]
  simp only [mapM_eq_some_iff hitem]
  constructor
  · rintro ⟨items, ⟨hfit, rfl⟩, htext⟩
    split_ifs at htext with hlength
    exact ⟨⟨hfit, hlength⟩, (Option.some.inj htext).symm⟩
  · rintro ⟨⟨hfit, hlength⟩, rfl⟩
    exact ⟨_, ⟨hfit, rfl⟩, if_pos hlength⟩

theorem CDeviceCatalog.printLines_items (c : CDeviceCatalog) :
    printLines (XMLBodyContent.device c).itemLines.flatten =
      (c.m_catalogList.map fun catalog => printLines (c.itemLines catalog)).flatten := by
  rw [XMLBodyContent.itemLines, ← List.flatMap_def, printLines, List.flatMap_assoc,
    List.flatMap_def]
  rfl

theorem CDeviceCatalog.eq_some_iff_of_item {c : CDeviceCatalog} {f : CatalogItem → Option CStr}
    (h : ∀ catalog y, f catalog = some y ↔
      (∀ node ∈ c.nodes catalog ++ c.infoNodes catalog,
        2 * node.1.length + node.2.length + 7 < 128) ∧ y = printLines (c.itemLines catalog))
    (text : CStr) :
    ((c.m_catalogList.mapM f).bind fun items => some items.flatten) = some text ↔
      (XMLBodyContent.device c).ItemsFit ∧
        text = printLines (XMLBodyContent.device c).itemLines.flatten := by
  rw [Option.bind_eq_some_iff, XMLBodyContent.ItemsFit, c.printLines_items]
  simp only [mapM_eq_some_iff h]
  constructor
  · rintro ⟨items, ⟨hfit, rfl⟩, htext⟩
    exact ⟨hfit, (Option.some.inj htext).symm⟩
  · rintro ⟨hfit, rfl⟩
    exact ⟨_, ⟨hfit, rfl⟩, rfl⟩

theorem CDeviceCatalog.getStatusItem_eq_some_iff {c : CDeviceCatalog}
    (h : c.m_eveType.isStatus = true) (text : CStr) :
    c.getStatusItem = some text ↔ (XMLBodyContent.device c).ItemsFit ∧
      text = printLines (XMLBodyContent.device c).itemLines.flatten := by
  refine c.eq_some_iff_of_item (fun catalog y => ?_) text
  have hlines : printLines (c.itemLines catalog) =
      str "<Item>" ++ bodyNewline ++ printLines (leaves (c.statusNodes catalog)) ++
        str "</Item>" ++ bodyNewline := by
    rw [CDeviceCatalog.itemLines, if_pos h, List.append_nil, CDeviceCatalog.nodes, if_pos h,
      printLines_tagged, ← List.append_assoc]
    rfl
  rw [CDeviceCatalog.nodes, if_pos h, CDeviceCatalog.infoNodes, if_pos h, List.append_nil, hlines,
    Option.bind_eq_bind, Option.bind_eq_some_iff]
  constructor
  · rintro ⟨nodes, hnodes, hy⟩
    obtain ⟨hfit, rfl⟩ := (nodeLines_eq_some_iff _ _).mp hnodes
    exact ⟨hfit, (Option.some.inj hy).symm⟩
  · rintro ⟨hfit, rfl⟩
    exact ⟨_, (nodeLines_eq_some_iff _ _).mpr ⟨hfit, rfl⟩, rfl⟩

theorem CDeviceCatalog.getUpdateItem_eq_some_iff {c : CDeviceCatalog} {bEvent : Bool}
    (h : c.m_eveType.isStatus = false)
    (hevent : bEvent = true ↔ c.m_eveType = .add ∨ c.m_eveType = .update) (text : CStr) :
    c.getUpdateItem bEvent = some text ↔ (XMLBodyContent.device c).ItemsFit ∧
      text = printLines (XMLBodyContent.device c).itemLines.flatten := by
  refine c.eq_some_iff_of_item (fun catalog y => ?_) text
  have hno : ¬ c.m_eveType.isStatus = true := by rw [h]; exact Bool.false_ne_true
  -- the line of the event does not go through a buffer, and is short
  have hshort : ∀ node ∈ (if c.m_eveType = .add ∨ c.m_eveType = .update then
      [(str "Event", catalogEventTypeString c.m_eveType)] else []),
      2 * node.1.length + node.2.length + 7 < 128 := by
    intro node hnode
    split_ifs at hnode with hkind
    · rw [List.mem_singleton.mp hnode]
      rcases hkind with hkind | hkind <;> rw [hkind] <;> decide
    · cases hnode
  have hsection : (if bEvent = true then
      (if (c.m_eveType = .add ∨ c.m_eveType = .update) ∧ bEvent = true then
        str "<Event>" ++ catalogEventTypeString c.m_eveType ++ str "</Event>" ++ bodyNewline
      else []) else []) =
      printLines (leaves (if c.m_eveType = .add ∨ c.m_eveType = .update then
        [(str "Event", catalogEventTypeString c.m_eveType)] else [])) := by
    rw [printLines_leaves]
    by_cases hkind : c.m_eveType = .add ∨ c.m_eveType = .update
    · have hopen : str "<Event>" = str "<" ++ str "Event" ++ str ">" := rfl
      have hclose : str "</Event>" = str "</" ++ str "Event" ++ str ">" := rfl
      rw [if_pos (hevent.mpr hkind), if_pos ⟨hkind, hevent.mpr hkind⟩, if_pos hkind, List.map_cons,
        List.map_nil, List.flatten_cons, List.flatten_nil, List.append_nil, devFmt, hopen, hclose]
      simp only [List.append_assoc]
    · rw [if_neg (fun hb => hkind (hevent.mp hb)), if_neg hkind]
      rfl
  have hlines : printLines (c.itemLines catalog) =
      str "<Item>" ++ bodyNewline ++ printLines (leaves (updateNodes catalog)) ++
        printLines (leaves (if c.m_eveType = .add ∨ c.m_eveType = .update then
          [(str "Event", catalogEventTypeString c.m_eveType)] else [])) ++
        str "<Info>" ++ bodyNewline ++
        printLines (leaves [(str "PTZType", catalog.m_strInfoPTZType)]) ++
        str "</Info>" ++ bodyNewline ++ str "</Item>" ++ bodyNewline := by
    rw [CDeviceCatalog.itemLines, if_neg hno, CDeviceCatalog.nodes, if_neg hno,
      CDeviceCatalog.infoNodes, if_neg hno, printLines_tagged, Xml.printLines_append,
      printLines_tagged, leaves, List.map_append, Xml.printLines_append]
    simp only [List.append_assoc]
    rfl
  rw [CDeviceCatalog.nodes, if_neg hno, CDeviceCatalog.infoNodes, if_neg hno,
    List.forall_mem_append, List.forall_mem_append, and_iff_left hshort, hlines, ← hsection,
    Option.bind_eq_bind, Option.bind_eq_some_iff]
  simp only [Option.bind_eq_some_iff]
  constructor
  · rintro ⟨nodes, hnodes, info, hinfo, hy⟩
    obtain ⟨hfit, rfl⟩ := (nodeLines_eq_some_iff _ _).mp hnodes
    obtain ⟨hinfofit, rfl⟩ := (nodeLines_eq_some_iff _ _).mp hinfo
    exact ⟨⟨hfit, hinfofit⟩, (Option.some.inj hy).symm⟩
  · rintro ⟨⟨hfit, hinfofit⟩, rfl⟩
    exact ⟨_, (nodeLines_eq_some_iff _ _).mpr ⟨hfit, rfl⟩,
      _, (nodeLines_eq_some_iff _ _).mpr ⟨hinfofit, rfl⟩, rfl⟩

theorem CDeviceCatalog.getItems_eq_some_iff (c : CDeviceCatalog) (text : CStr) :
    c.getItems = some text ↔ (XMLBodyContent.device c).ItemsFit ∧
      text = printLines (XMLBodyContent.device c).itemLines.flatten := by
  unfold CDeviceCatalog.getItems
  cases hkind : c.m_eveType with
  | on | off | vlost | defect | del =>
    exact c.getStatusItem_eq_some_iff (by rw [hkind]; rfl) text
  | add | update =>
    exact c.getUpdateItem_eq_some_iff (by rw [hkind]; rfl) (by rw [hkind]; decide) text
  | none | error =>
    exact c.getUpdateItem_eq_some_iff (by rw [hkind]; rfl) (by rw [hkind]; decide) text

theorem multiCatalogContent_eq_some_iff (m_SN m_deviceID : CStr) (m_nSum nDevListCount : Nat)
    (items : List Line) (text : CStr) :
    multiCatalogContent m_SN m_deviceID m_nSum nDevListCount (printLines items) = some text ↔
      text.length < 2048 ∧ text =
        printLines (leaves [(str "CmdType", str "Catalog"), (str "SN", m_SN),
            (str "DeviceID", m_deviceID), (str "SumNum", str (toString m_nSum))] ++
          element (str "DeviceList") [(str "Num", str (toString nDevListCount))] items) := by
  have htext : devFmt (str "CmdType") (str "Catalog") ++ devFmt (str "SN") m_SN ++
      devFmt (str "DeviceID") m_deviceID ++ sumNumLine m_nSum ++
      (str "<DeviceList Num=\"" ++ str (toString nDevListCount) ++ str "\">" ++ bodyNewline) ++
      printLines items ++ (str "</DeviceList>" ++ bodyNewline) =
      printLines (leaves [(str "CmdType", str "Catalog"), (str "SN", m_SN),
          (str "DeviceID", m_deviceID), (str "SumNum", str (toString m_nSum))] ++
        element (str "DeviceList") [(str "Num", str (toString nDevListCount))] items) := by
    have hsum : sumNumLine m_nSum = devFmt (str "SumNum") (str (toString m_nSum)) := by
      have hopen : str "<SumNum>" = str "<" ++ str "SumNum" ++ str ">" := rfl
      have hclose : str "</SumNum>" = str "</" ++ str "SumNum" ++ str ">" := rfl
      rw [sumNumLine, devFmt, hopen, hclose]
      simp only [List.append_assoc]
    have hlist : str "<DeviceList Num=\"" ++ str (toString nDevListCount) ++ str "\">" =
        Xml.tag (str "DeviceList" ++
          Xml.attributeText [(str "Num", str (toString nDevListCount))]) := by
      have hopen : str "<DeviceList Num=\"" =
          0x3c :: str "DeviceList" ++ 0x20 :: str "Num" ++ [0x3d, 0x22] := rfl
      have hclose : str "\">" = [0x22, 0x3e] := rfl
      rw [hopen, hclose]
      simp [Xml.tag, Xml.attributeText]
    rw [hsum, hlist, Xml.printLines_append, Xml.printLines_element, printLines_leaves]
    simp only [List.map_cons, List.map_nil, List.flatten_cons, List.flatten_nil, List.append_nil,
      List.append_assoc]
    rfl
  rw [multiCatalogContent, sprintfS_eq_some, htext]
  exact and_congr_left fun h => by rw [h]

theorem CPlatformCatalogContent.getContent_eq (c : CPlatformCatalogContent) :
    c.getContent = multiCatalogContent c.m_SN c.m_deviceID c.m_nSum 1
      (printLines (XMLBodyContent.platform c).itemLines.flatten) := by
  have hone : str "<DeviceList Num=\"1\">" =
      str "<DeviceList Num=\"" ++ str (toString 1) ++ str "\">" := rfl
  have hopen : str "<" ++ str "Item" ++ str ">" = str "<Item>" := rfl
  have hclose : str "</" ++ str "Item" ++ str ">" = str "</Item>" := rfl
  rw [CPlatformCatalogContent.getContent, multiCatalogContent, XMLBodyContent.itemLines,
    List.flatten_singleton, printLines_tagged, printLines_leaves, hone, hopen, hclose]
  simp only [CPlatformCatalogContent.nodes, List.map_cons, List.map_nil, List.flatten_cons,
    List.flatten_nil, List.append_nil, List.append_assoc]

theorem XMLBodyContent.getContent_eq_some_iff (body : XMLBodyContent) (text : CStr) :
    body.getContent = some text ↔
      body.ItemsFit ∧ text.length < 2048 ∧ text = printLines body.contentLines := by
  have hlist : ∀ (strItems : Option CStr) (sn deviceID : CStr) (count : Nat),
      (∀ text, strItems = some text ↔ body.ItemsFit ∧ text = printLines body.itemLines.flatten) →
      ((strItems.bind fun items => multiCatalogContent sn deviceID body.sumNum count items) =
        some text ↔ body.ItemsFit ∧ text.length < 2048 ∧ text =
          printLines (leaves [(str "CmdType", str "Catalog"), (str "SN", sn),
              (str "DeviceID", deviceID), (str "SumNum", str (toString body.sumNum))] ++
            element (str "DeviceList") [(str "Num", str (toString count))]
              body.itemLines.flatten)) := by
    intro strItems sn deviceID count hitems
    rw [Option.bind_eq_some_iff]
    simp only [hitems]
    constructor
    · rintro ⟨items, ⟨hfit, rfl⟩, htext⟩
      exact ⟨hfit, (multiCatalogContent_eq_some_iff _ _ _ _ _ _).mp htext⟩
    · rintro ⟨hfit, htext⟩
      exact ⟨_, ⟨hfit, rfl⟩, (multiCatalogContent_eq_some_iff _ _ _ _ _ _).mpr htext⟩
  cases body with
  | platform c =>
    rw [XMLBodyContent.getContent, c.getContent_eq, multiCatalogContent_eq_some_iff,
      XMLBodyContent.ItemsFit, true_and]
    rfl
  | virtual c =>
    rw [XMLBodyContent.contentLines, XMLBodyContent.itemLines, List.length_map]
    exact hlist c.getItems c.m_SN c.m_deviceID c.m_catalogList.length c.getItems_eq_some_iff
  | device c =>
    rw [XMLBodyContent.contentLines, XMLBodyContent.itemLines, List.length_map]
    exact hlist c.getItems c.m_SN c.m_deviceID c.m_catalogList.length c.getItems_eq_some_iff

/-- **What is written is the document of the body, if everything fits.** -/
theorem createContent_eq_some_iff (bdType : XMLBodyType) (body : XMLBodyContent) (text : CStr) :
    createContent bdType body = some text ↔
      body.ItemsFit ∧ documentSize xmlDeclaration (body.lines bdType) < 2048 ∧
        text = document xmlDeclaration (body.lines bdType) := by
  have hdocument : str "<?xml version=\"1.0\" encoding=\"gb2312\"?>" ++ bodyNewline ++
      (str "<" ++ bodyTypeString bdType ++ str ">" ++ bodyNewline) ++
      printLines body.contentLines ++
      (str "</" ++ bodyTypeString bdType ++ str ">" ++ bodyNewline) =
      document xmlDeclaration (body.lines bdType) := by
    rw [document, XMLBodyContent.lines, printLines_tagged]
    simp only [List.append_assoc]
    rfl
  have hshorter : (printLines body.contentLines).length ≤
      (document xmlDeclaration (body.lines bdType)).length := by
    rw [← hdocument]
    simp only [List.length_append]
    omega
  rw [createContent, Option.bind_eq_bind, Option.bind_eq_some_iff]
  simp only [sprintfS_eq_some, body.getContent_eq_some_iff]
  constructor
  · rintro ⟨content, ⟨hfit, -, rfl⟩, hlength, rfl⟩
    rw [hdocument, Xml.length_document] at hlength
    exact ⟨hfit, hlength, hdocument⟩
  · rintro ⟨hfit, hlength, rfl⟩
    rw [← Xml.length_document] at hlength
    refine ⟨_, ⟨hfit, by omega, rfl⟩, ?_⟩
    rw [hdocument]
    exact ⟨hlength, rfl⟩

/-! ## What is read -/

def XMLBodyContent.texts : XMLBodyContent → List CStr
  | .platform c => [c.m_SN, c.m_deviceID, c.m_strName, c.m_civilCode]
  | .virtual c => [c.m_SN, c.m_deviceID] ++
      c.m_catalogList.flatMap fun catalog => [catalog.m_strDeviceID, catalog.m_strName]
  | .device c => [c.m_SN, c.m_deviceID] ++
      c.m_catalogList.flatMap fun catalog =>
        if c.m_eveType.isStatus then [catalog.m_strDeviceID]
        else (updateNodes catalog).map Prod.snd ++ [catalog.m_strInfoPTZType]

/-- The body fits a buffer of `nSize` bytes, with the terminator behind it. -/
structure XMLBodyContent.Fits (bdType : XMLBodyType) (body : XMLBodyContent) (nSize : Nat) :
    Prop where
  items : body.ItemsFit
  myBody : documentSize xmlDeclaration (body.lines bdType) < 2048
  pBodyBuff : documentSize xmlDeclaration (body.lines bdType) < nSize

theorem named_leaves {nodes : List (CStr × CStr)}
    (h : ∀ node ∈ nodes, Xml.isName node.1 = true) : ∀ l ∈ leaves nodes, l.Named := by
  intro l hl
  obtain ⟨node, hnode, rfl⟩ := List.mem_map.mp hl
  exact h node hnode

theorem balanced_leaves (nodes : List (CStr × CStr)) : Xml.Balanced (leaves nodes) := by
  induction nodes with
  | nil => exact Xml.balanced_nil
  | cons node nodes ih => exact (Xml.balanced_leaf node.1 node.2).append ih

theorem values_leaves {p : CStr → Prop} (nodes : List (CStr × CStr)) :
    (∀ l ∈ leaves nodes, ∀ v ∈ l.value, p v) ↔ ∀ node ∈ nodes, p node.2 := by
  rw [leaves, List.forall_mem_map]
  exact forall₂_congr fun node _ =>
    ⟨fun h => h node.2 rfl, fun h v hv => by rw [← Option.some.inj hv]; exact h⟩

theorem values_element {p : CStr → Prop} (n : CStr) (attributes : List (CStr × CStr))
    (lines : List Line) :
    (∀ l ∈ element n attributes lines, ∀ v ∈ l.value, p v) ↔ ∀ l ∈ lines, ∀ v ∈ l.value, p v := by
  rw [Xml.forall_mem_element, and_iff_right (fun v hv => by cases hv),
    and_iff_left (fun v hv => by cases hv)]

theorem isNameChar_toString (n : Nat) : ∀ c ∈ str (toString n), Xml.isNameChar c = true := by
  intro c hc
  rw [str_toString] at hc
  rw [Xml.isNameChar, isDigit_of_mem_toText n c hc, Bool.or_true]
  rfl

theorem isNameChar_event (eve : CatalogEventType) :
    ∀ c ∈ catalogEventTypeString eve, Xml.isNameChar c = true := by
  cases eve <;> exact List.all_eq_true.mp rfl

theorem wellNamed_deviceList (n : Nat) :
    Xml.WellNamed (str "DeviceList") [(str "Num", str (toString n))] where
  name := rfl
  names a ha := by
    rw [List.mem_singleton.mp ha]
    rfl
  values a ha := by
    rw [List.mem_singleton.mp ha]
    exact Xml.plainValue_of_isNameChar (isNameChar_toString n)
  distinct := List.nodup_singleton _

theorem named_element {n : CStr} {lines : List Line} (hn : Xml.isName n = true)
    (h : ∀ l ∈ lines, l.Named) : ∀ l ∈ element n [] lines, l.Named :=
  Xml.forall_mem_element.mpr ⟨Xml.wellNamed_nil hn, h, hn⟩

theorem named_updateNodes (catalog : CatalogItem) :
    ∀ node ∈ updateNodes catalog, Xml.isName node.1 = true := by
  simp only [updateNodes, List.forall_mem_cons]
  decide +revert

theorem named_deviceItem (c : CDeviceCatalog) (catalog : CatalogItem) :
    ∀ l ∈ c.itemLines catalog, l.Named := by
  have hnodes : ∀ node ∈ c.nodes catalog, Xml.isName node.1 = true := by
    unfold CDeviceCatalog.nodes
    split_ifs
    · exact List.forall_mem_cons.mpr ⟨rfl, List.forall_mem_singleton.mpr rfl⟩
    · exact List.forall_mem_append.mpr
        ⟨named_updateNodes catalog, List.forall_mem_singleton.mpr rfl⟩
    · exact List.forall_mem_append.mpr ⟨named_updateNodes catalog, fun node h => by cases h⟩
  unfold CDeviceCatalog.itemLines CDeviceCatalog.infoNodes
  refine named_element rfl (List.forall_mem_append.mpr ⟨named_leaves hnodes, ?_⟩)
  split_ifs
  · exact fun l hl => by cases hl
  · exact named_element rfl (named_leaves (List.forall_mem_singleton.mpr rfl))

theorem named_items (body : XMLBodyContent) : ∀ item ∈ body.itemLines, ∀ l ∈ item, l.Named := by
  cases body with
  | platform c =>
    refine List.forall_mem_singleton.mpr (named_element rfl (named_leaves ?_))
    simp only [CPlatformCatalogContent.nodes, List.forall_mem_cons]
    decide +revert
  | virtual c =>
    refine List.forall_mem_map.mpr fun catalog _ => named_element rfl (named_leaves ?_)
    simp only [CVirtualCatalogContent.nodes, List.forall_mem_cons]
    decide +revert
  | device c => exact List.forall_mem_map.mpr fun catalog _ => named_deviceItem c catalog

theorem named_lines (bdType : XMLBodyType) (body : XMLBodyContent) :
    ∀ l ∈ body.lines bdType, l.Named := by
  have htype : Xml.isName (bodyTypeString bdType) = true := by cases bdType <;> rfl
  refine named_element htype (List.forall_mem_append.mpr ⟨named_leaves ?_, ?_⟩)
  · simp only [List.forall_mem_cons]
    decide +revert
  · exact Xml.forall_mem_element.mpr
      ⟨wellNamed_deviceList _, List.forall_mem_flatten.mpr (named_items body), rfl⟩

theorem balanced_items (body : XMLBodyContent) : ∀ item ∈ body.itemLines, Xml.Balanced item := by
  have hleaves : ∀ nodes, Xml.Balanced (element (str "Item") [] (leaves nodes)) := fun nodes =>
    Xml.balanced_element (balanced_leaves nodes) _ _
  cases body with
  | platform c => exact List.forall_mem_singleton.mpr (hleaves _)
  | virtual c => exact List.forall_mem_map.mpr fun catalog _ => hleaves _
  | device c =>
    refine List.forall_mem_map.mpr fun catalog _ => Xml.balanced_element ?_ _ _
    refine (balanced_leaves _).append ?_
    split_ifs
    · exact Xml.balanced_nil
    · exact Xml.balanced_element (balanced_leaves _) _ _

theorem nested_lines (bdType : XMLBodyType) (body : XMLBodyContent) :
    Xml.nested (report xmlDeclaration (body.lines bdType)) = true := by
  refine Xml.Balanced.nested ((balanced_leaves _).append (Xml.balanced_element ?_ _ _)) _ _ _
  rw [← List.flatMap_id]
  exact Xml.Balanced.flatMap (balanced_items body)

theorem declaration_xmlDeclaration : Xml.Declaration xmlDeclaration where
  chars := by decide
  closed := ⟨by decide, by decide⟩
  read := by decide
  declares := by decide

theorem clean_word {v : CStr} (h : ∀ c ∈ v, Xml.isNameChar c = true) : Clean v :=
  (Xml.plainValue_of_isNameChar h).clean

theorem clean_constant {v : CStr} (h : v.all Xml.isNameChar = true) : Clean v :=
  clean_word (List.all_eq_true.mp h)

theorem values_deviceItem (c : CDeviceCatalog) (catalog : CatalogItem) :
    (∀ l ∈ c.itemLines catalog, ∀ v ∈ l.value, Clean v) ↔
      ∀ v ∈ (if c.m_eveType.isStatus then [catalog.m_strDeviceID]
        else (updateNodes catalog).map Prod.snd ++ [catalog.m_strInfoPTZType]), Clean v := by
  have hevent : Clean (catalogEventTypeString c.m_eveType) := clean_word (isNameChar_event _)
  unfold CDeviceCatalog.itemLines CDeviceCatalog.nodes CDeviceCatalog.infoNodes
  rw [values_element, List.forall_mem_append, values_leaves]
  by_cases hstatus : c.m_eveType.isStatus = true
  · simp only [if_pos hstatus, CDeviceCatalog.statusNodes, List.forall_mem_cons,
      List.not_mem_nil, hevent]
    tauto
  · have hadded : ∀ node ∈ (if c.m_eveType = .add ∨ c.m_eveType = .update then
        [(str "Event", catalogEventTypeString c.m_eveType)] else []), Clean node.2 := by
      split_ifs
      · exact List.forall_mem_singleton.mpr hevent
      · exact fun node h => by cases h
    rw [if_neg hstatus, if_neg hstatus, if_neg hstatus, if_neg hstatus, values_element,
      values_leaves, List.forall_mem_append, and_iff_left hadded, List.forall_mem_append,
      List.forall_mem_map, List.forall_mem_singleton, List.forall_mem_singleton]

theorem values_items (body : XMLBodyContent) :
    (Clean body.sn ∧ Clean body.deviceID ∧
      ∀ item ∈ body.itemLines, ∀ l ∈ item, ∀ v ∈ l.value, Clean v) ↔ ∀ v ∈ body.texts, Clean v := by
  cases body with
  | platform c =>
    have hconst : Clean (str "Honeywell") ∧ Clean (str "Platform") ∧ Clean (str "Owner") ∧
        Clean (str "Address") ∧ Clean (str "1") ∧ Clean (str "0") := by
      refine ⟨?_, ?_, ?_, ?_, ?_, ?_⟩ <;> exact clean_constant rfl
    simp only [XMLBodyContent.itemLines, XMLBodyContent.sn, XMLBodyContent.deviceID,
      XMLBodyContent.texts, CPlatformCatalogContent.nodes, List.forall_mem_cons, values_element,
      values_leaves, List.not_mem_nil]
    tauto
  | virtual c =>
    have hconst : Clean (str "44000000002150000001") := clean_constant rfl
    simp only [XMLBodyContent.itemLines, XMLBodyContent.sn, XMLBodyContent.deviceID,
      XMLBodyContent.texts, CVirtualCatalogContent.nodes, List.forall_mem_map, values_element,
      values_leaves, List.forall_mem_append, List.forall_mem_cons, List.forall_mem_flatMap,
      List.not_mem_nil, false_imp_iff, implies_true, and_true, hconst]
    constructor
    · rintro ⟨hsn, hdevice, hitems⟩
      exact ⟨⟨hsn, hdevice⟩, fun catalog h => ⟨(hitems catalog h).1, (hitems catalog h).2.1⟩⟩
    · rintro ⟨⟨hsn, hdevice⟩, hitems⟩
      exact ⟨hsn, hdevice, fun catalog h => ⟨(hitems catalog h).1, (hitems catalog h).2, hdevice⟩⟩
  | device c =>
    simp only [XMLBodyContent.itemLines, XMLBodyContent.sn, XMLBodyContent.deviceID,
      XMLBodyContent.texts, List.forall_mem_map, values_deviceItem, List.forall_mem_append,
      List.forall_mem_cons, List.forall_mem_flatMap, List.not_mem_nil, false_imp_iff, implies_true,
      and_true, and_assoc]

theorem values_lines (bdType : XMLBodyType) (body : XMLBodyContent) :
    (∀ l ∈ body.lines bdType, ∀ v ∈ l.value, Clean v) ↔ ∀ v ∈ body.texts, Clean v := by
  have hconst : Clean (str "Catalog") := clean_constant rfl
  have hsum : Clean (str (toString body.sumNum)) := clean_word (isNameChar_toString _)
  rw [← values_items, XMLBodyContent.lines, values_element, XMLBodyContent.contentLines,
    List.forall_mem_append, values_leaves, values_element, List.forall_mem_flatten]
  simp only [List.forall_mem_cons, List.not_mem_nil, false_imp_iff, implies_true, and_true, hconst,
    hsum, true_and, and_assoc]

/-! ## Items with all their texts -/

/-- The texts of a `CatalogItem`; `m_strEvent`, which nothing sets, is left out. -/
inductive CatalogField where
  | deviceID | name | manufacturer | model | owner | civilCode | block | address | parental
  | parentID | guid | safetyWay | registerWay | certNum | certifiable | errCode | endTime | secrecy
  | ipAddress | port | password | status | longitude | latitude | ptzType | positionType | roomType
  | useType | supplyLightType | directionType | resolution | businessGroupID | resType
  | recLocation | operateType | playUrl | virtualDirID | chnNum
  deriving DecidableEq

/-- The name of the element that says it. -/
def CatalogField.tag : CatalogField → CStr
  | .deviceID => str "DeviceID"
  | .name => str "Name"
  | .manufacturer => str "Manufacturer"
  | .model => str "Model"
  | .owner => str "Owner"
  | .civilCode => str "CivilCode"
  | .block => str "Block"
  | .address => str "Address"
  | .parental => str "Parental"
  | .parentID => str "ParentID"
  | .guid => str "GUID"
  | .safetyWay => str "SafetyWay"
  | .registerWay => str "RegisterWay"
  | .certNum => str "CertNum"
  | .certifiable => str "Certifiable"
  | .errCode => str "ErrCode"
  | .endTime => str "EndTime"
  | .secrecy => str "Secrecy"
  | .ipAddress => str "IPAddress"
  | .port => str "Port"
  | .password => str "Password"
  | .status => str "Status"
  | .longitude => str "Longitude"
  | .latitude => str "Latitude"
  | .ptzType => str "PTZType"
  | .positionType => str "PositionType"
  | .roomType => str "RoomType"
  | .useType => str "UseType"
  | .supplyLightType => str "SupplyLightType"
  | .directionType => str "DirectionType"
  | .resolution => str "Resolution"
  | .businessGroupID => str "BusinessGroupID"
  | .resType => str "ResType"
  | .recLocation => str "RecLocation"
  | .operateType => str "OperateType"
  | .playUrl => str "PlayUrl"
  | .virtualDirID => str "VirtualDirID"
  | .chnNum => str "ChannelNum"

/-- `CatalogItem` with all its texts. -/
structure CatalogTexts where
  text : CatalogField → CStr
  eGBDeviceType : GBDevice_T

def CatalogTexts.item (c : CatalogTexts) : CatalogItem where
  m_strDeviceID := c.text .deviceID
  m_strName := c.text .name
  m_strManufacturer := c.text .manufacturer
  m_strModel := c.text .model
  m_strOwner := c.text .owner
  m_strCivilCode := c.text .civilCode
  m_strBlock := c.text .block
  m_strAddress := c.text .address
  m_strParental := c.text .parental
  m_strParentID := c.text .parentID
  m_strSafetyWay := c.text .safetyWay
  m_strRegisterWay := c.text .registerWay
  m_strCertifiable := c.text .certifiable
  m_strErrCode := c.text .errCode
  m_strSecrecy := c.text .secrecy
  m_strStatus := c.text .status
  m_strLongitude := c.text .longitude
  m_strLatitude := c.text .latitude
  m_strInfoPTZType := c.text .ptzType
  eGBDeviceType := c.eGBDeviceType

/-- A body with a list of items: a `CDeviceCatalog` with its event, or a `CVirtualCatalogContent`,
which has none. -/
structure CatalogBody where
  m_deviceID : CStr
  m_SN : CStr
  m_nSum : Nat
  m_catalogList : List CatalogTexts
  m_eveType : Option CatalogEventType

def CatalogBody.virtual (b : CatalogBody) : CVirtualCatalogContent where
  m_deviceID := b.m_deviceID
  m_SN := b.m_SN
  m_nSum := b.m_nSum
  m_catalogList := b.m_catalogList.map CatalogTexts.item

def CatalogBody.device (b : CatalogBody) (eve : CatalogEventType) : CDeviceCatalog where
  m_deviceID := b.m_deviceID
  m_SN := b.m_SN
  m_nSum := b.m_nSum
  m_catalogList := b.m_catalogList.map CatalogTexts.item
  m_eveType := eve

/-- The body that `CreateContent` is given. -/
def CatalogBody.content (b : CatalogBody) : XMLBodyContent :=
  match b.m_eveType with
  | none => .virtual b.virtual
  | some eve => .device (b.device eve)

def CatalogBody.event (b : CatalogBody) : CStr := b.m_eveType.elim [] catalogEventTypeString

/-- An element of the list says every text of an item, and the event. -/
structure CatalogBody.Says (b : CatalogBody) (content : List Xml.Token) (catalog : CatalogTexts) :
    Prop where
  text : ∀ f : CatalogField, textOf f.tag content = catalog.text f
  event : textOf (str "Event") content = b.event

/-- What a reader should find in the pieces of a body. -/
structure CatalogBody.Recovers (b : CatalogBody) (ts : List Xml.Token) : Prop where
  sn : textOf (str "SN") ts = b.m_SN
  deviceID : textOf (str "DeviceID") ts = b.m_deviceID
  num : Xml.attributeOf (str "DeviceList") (str "Num") ts =
    some (str (toString b.m_catalogList.length))
  items : List.Forall₂ b.Says (Xml.elements (str "Item") ts) b.m_catalogList

/-- What is written fits the buffer, is well-formed, and a reader finds the body in it. -/
def Faithful (bdType : XMLBodyType) (b : CatalogBody) (nSize : Nat) : Prop :=
  ∃ text, createContent bdType b.content = some text ∧ text.length < nSize ∧
    ∃ ts, Xml.read text = some ts ∧ b.Recovers ts

/-! ### The texts that are written -/

/-- The texts of `strNode` of `GetUpdateItem`. -/
def updateFields : List CatalogField :=
  [.deviceID, .name, .manufacturer, .model, .owner, .civilCode, .block, .address, .parental,
    .parentID, .safetyWay, .registerWay, .certifiable, .errCode, .secrecy, .status, .longitude,
    .latitude]

/-- The names that an item of the body has an element for. -/
def CatalogBody.shown (b : CatalogBody) : List CatalogField :=
  match b.m_eveType with
  | none => [.deviceID, .name, .parentID, .businessGroupID]
  | some eve => if eve.isStatus then [.deviceID] else updateFields ++ [.ptzType]

/-- Nothing else is to be said of the items; in a virtual directory the parent of each is the
device of the body, and its group the constant. -/
def CatalogBody.Complete (b : CatalogBody) : Prop :=
  ∀ catalog ∈ b.m_catalogList, (∀ f ∉ b.shown, catalog.text f = []) ∧
    (b.m_eveType = none → catalog.text .parentID = b.m_deviceID ∧
      catalog.text .businessGroupID = str "44000000002150000001")

/-! ### The lines of an item -/

/-- What `CVirtualCatalogContent` puts into an element. -/
def CatalogBody.virtualText (b : CatalogBody) (catalog : CatalogTexts) : CatalogField → CStr
  | .parentID => b.m_deviceID
  | .businessGroupID => str "44000000002150000001"
  | f => catalog.text f

def fieldLines (fs : List CatalogField) (text : CatalogField → CStr) : List Line :=
  leaves (fs.map fun f => (f.tag, text f))

/-- The line of the event, where there is one. -/
def eventLines (eve : CatalogEventType) : List Line :=
  if eve = .none ∨ eve = .error then [] else leaves [(str "Event", catalogEventTypeString eve)]

/-- The element behind the lines of a device. -/
def infoLines (eve : CatalogEventType) (catalog : CatalogTexts) : List Line :=
  if eve.isStatus then [] else element (str "Info") [] (fieldLines [.ptzType] catalog.text)

def CatalogBody.inner (b : CatalogBody) (catalog : CatalogTexts) : List Line :=
  match b.m_eveType with
  | none =>
    fieldLines [.deviceID, .name, .parentID, .businessGroupID] (b.virtualText catalog)
  | some eve =>
    fieldLines (if eve.isStatus then [.deviceID] else updateFields) catalog.text ++
      (eventLines eve ++ infoLines eve catalog)

def CatalogBody.header (b : CatalogBody) (bdType : XMLBodyType) : List Line :=
  [.start (bodyTypeString bdType) [], .leaf (str "CmdType") (str "Catalog"),
    .leaf (str "SN") b.m_SN, .leaf (str "DeviceID") b.m_deviceID,
    .leaf (str "SumNum") (str (toString b.m_nSum)),
    .start (str "DeviceList") [(str "Num", str (toString b.m_catalogList.length))]]

def footer (bdType : XMLBodyType) : List Line :=
  [.stop (str "DeviceList"), .stop (bodyTypeString bdType)]

section lines

variable (b : CatalogBody) (bdType : XMLBodyType) (catalog : CatalogTexts)

theorem itemLines_content : b.content.itemLines =
    (b.m_catalogList.map b.inner).map fun inner => element (str "Item") [] inner := by
  obtain ⟨deviceID, sn, nSum, catalogs, eve⟩ := b
  cases eve with
  | none =>
    simp only [CatalogBody.content, XMLBodyContent.itemLines, CatalogBody.virtual, List.map_map]
    rfl
  | some eve =>
    simp only [CatalogBody.content, XMLBodyContent.itemLines, CatalogBody.device, List.map_map]
    cases eve <;> rfl

theorem lines_content : b.content.lines bdType = b.header bdType ++
    (((b.m_catalogList.map b.inner).map fun inner => element (str "Item") [] inner).flatten ++
      footer bdType) := by
  have hsn : b.content.sn = b.m_SN := by
    unfold CatalogBody.content
    split <;> rfl
  have hdevice : b.content.deviceID = b.m_deviceID := by
    unfold CatalogBody.content
    split <;> rfl
  have hsum : b.content.sumNum = b.m_nSum := by
    unfold CatalogBody.content
    split <;> rfl
  rw [XMLBodyContent.lines, XMLBodyContent.contentLines, itemLines_content, hsn, hdevice, hsum,
    List.length_map, List.length_map]
  simp [CatalogBody.header, footer, element, leaves]

/-- The name of a line, and whether it holds a text. -/
def shape : Line → CStr × Bool
  | .leaf n _ => (n, true)
  | .start n _ => (n, false)
  | .stop n => (n, false)

/-- The names in an item do not depend on its texts. -/
def shapes (eve : Option CatalogEventType) : List (CStr × Bool) :=
  (CatalogBody.inner ⟨[], [], 0, [], eve⟩ ⟨fun _ => [], 0⟩).map shape

theorem map_shape_inner : (b.inner catalog).map shape = shapes b.m_eveType := by
  obtain ⟨deviceID, sn, nSum, catalogs, eve⟩ := b
  cases eve with
  | none => rfl
  | some eve => cases eve <;> rfl

/-- No name stands for two texts, none is that of the item, and only the last element has others
in it. -/
theorem shapes_distinct (eve : Option CatalogEventType) :
    (shapes eve).Pairwise (fun s s' => s'.2 = true → s.1 ≠ s'.1) ∧
      ∀ s ∈ shapes eve, s.1 ≠ str "Item" ∧ (s.2 = false → s.1 = str "Info") := by
  rcases eve with _ | eve
  · decide
  · cases eve <;> decide

theorem distinct_inner : Xml.Distinct (b.inner catalog) := by
  have hshapes := (shapes_distinct b.m_eveType).1
  rw [← map_shape_inner b catalog, List.pairwise_map] at hshapes
  refine hshapes.imp fun {l l'} h n v hl' => ?_
  subst hl'
  have hname : (shape l).1 = l.name := by cases l <;> rfl
  exact hname ▸ h rfl

theorem name_inner : ∀ l ∈ b.inner catalog, l.name ≠ str "Item" := by
  intro l hl
  have hshape := ((shapes_distinct b.m_eveType).2 (shape l)
    (map_shape_inner b catalog ▸ List.mem_map_of_mem hl)).1
  have hname : (shape l).1 = l.name := by cases l <;> rfl
  exact hname ▸ hshape

theorem leaf_inner {n : CStr} (hn : n ≠ str "Info") :
    ∀ l ∈ b.inner catalog, l.name = n → ∃ v, l = .leaf n v := by
  intro l hl hname
  have hinfo := ((shapes_distinct b.m_eveType).2 (shape l)
    (map_shape_inner b catalog ▸ List.mem_map_of_mem hl)).2
  cases l with
  | leaf m v =>
    obtain rfl : m = n := hname
    exact ⟨v, rfl⟩
  | start m attributes => exact absurd (hname.symm.trans (hinfo rfl)) hn
  | stop m => exact absurd (hname.symm.trans (hinfo rfl)) hn

theorem mem_fieldLines {fs : List CatalogField} {text : CatalogField → CStr} {l : Line}
    (h : l ∈ fieldLines fs text) : ∃ f ∈ fs, l = .leaf f.tag (text f) := by
  obtain ⟨node, hnode, rfl⟩ := List.mem_map.mp h
  obtain ⟨f, hf, rfl⟩ := List.mem_map.mp hnode
  exact ⟨f, hf, rfl⟩

/-- What stands in the lines of an item: its own texts, the device of the body, or a word. -/
theorem leaf_mem_inner {n v : CStr} (h : Line.leaf n v ∈ b.inner catalog) :
    (∃ f, n = CatalogField.tag f ∧ v = catalog.text f) ∨ v = b.m_deviceID ∨ Literal v := by
  unfold CatalogBody.inner at h
  split at h
  · obtain ⟨f, -, hleaf⟩ := mem_fieldLines h
    cases hleaf
    cases f with
    | parentID => exact Or.inr (Or.inl rfl)
    | businessGroupID =>
      have hword : Clean (str "44000000002150000001") := clean_constant rfl
      exact Or.inr (Or.inr hword.literal)
    | _ => exact Or.inl ⟨_, rfl, rfl⟩
  · rename_i eve heve
    rcases List.mem_append.mp h with h | h
    · obtain ⟨f, -, hleaf⟩ := mem_fieldLines h
      cases hleaf
      exact Or.inl ⟨f, rfl, rfl⟩
    rcases List.mem_append.mp h with h | h
    · unfold eventLines at h
      split_ifs at h
      · cases h
      · cases List.mem_singleton.mp h
        exact Or.inr (Or.inr (clean_word (isNameChar_event eve)).literal)
    · unfold infoLines at h
      split_ifs at h
      · cases h
      · have hmem : Line.leaf n v ∈ fieldLines [.ptzType] catalog.text := by
          rcases List.mem_append.mp h with h | h
          · rcases List.mem_cons.mp h with h | h
            · cases h
            · exact h
          · cases List.mem_singleton.mp h
        obtain ⟨f, -, hleaf⟩ := mem_fieldLines hmem
        cases hleaf
        exact Or.inl ⟨f, rfl, rfl⟩

end lines

/-! ### The text of a name -/

theorem tag_injective : Function.Injective CatalogField.tag := by
  have hall : ∀ f g : CatalogField, (CatalogField.tag f == CatalogField.tag g) = (f == g) := by
    intro f
    cases f <;> intro g <;> cases g <;> rfl
  intro f g h
  have hbeq := hall f g
  rw [h, beq_self_eq_true] at hbeq
  exact beq_iff_eq.mp hbeq.symm

theorem tag_ne_event (f : CatalogField) : f.tag ≠ str "Event" := by cases f <;> decide

theorem tag_ne_info (f : CatalogField) : f.tag ≠ str "Info" := by cases f <;> decide

theorem valueOf_fieldLines (fs : List CatalogField) (text : CatalogField → CStr) (f : CatalogField)
    (rest : List Line) : valueOf f.tag (fieldLines fs text ++ rest) =
      if f ∈ fs then text f else valueOf f.tag rest := by
  induction fs with
  | nil => exact (if_neg List.not_mem_nil).symm
  | cons g fs ih =>
    have hcons : fieldLines (g :: fs) text ++ rest =
        .leaf g.tag (text g) :: (fieldLines fs text ++ rest) := rfl
    rw [hcons, valueOf, ih]
    by_cases hg : g = f
    · subst hg
      rw [if_pos rfl, if_pos List.mem_cons_self]
    · have hiff : f ∈ g :: fs ↔ f ∈ fs := by
        rw [List.mem_cons, or_iff_right (Ne.symm hg)]
      rw [if_neg (tag_injective.ne hg)]
      simp only [hiff]

section texts

variable (b : CatalogBody) (catalog : CatalogTexts)

theorem valueOf_infoLines (eve : CatalogEventType) (f : CatalogField) :
    valueOf f.tag (eventLines eve ++ infoLines eve catalog) =
      if eve.isStatus = false ∧ f = .ptzType then catalog.text f else [] := by
  have hevent : ∀ l ∈ eventLines eve, l.name ≠ f.tag := by
    unfold eventLines
    split_ifs
    · exact fun _ hl => by cases hl
    · exact List.forall_mem_singleton.mpr (tag_ne_event f).symm
  rw [Xml.valueOf_append hevent, infoLines]
  cases eve.isStatus with
  | true => exact (if_neg fun h => by cases h.1).symm
  | false =>
    have hstart : ∀ l ∈ [Line.start (str "Info") []], l.name ≠ f.tag :=
      List.forall_mem_singleton.mpr (tag_ne_info f).symm
    have hsplit : element (str "Info") [] (fieldLines [.ptzType] catalog.text) =
        [.start (str "Info") []] ++ (fieldLines [.ptzType] catalog.text ++ [.stop (str "Info")]) :=
      rfl
    rw [if_neg Bool.false_ne_true, hsplit, Xml.valueOf_append hstart, valueOf_fieldLines]
    simp only [List.mem_singleton, true_and]
    rfl

theorem valueOf_virtual (f : CatalogField) :
    valueOf f.tag (fieldLines [.deviceID, .name, .parentID, .businessGroupID]
      (b.virtualText catalog)) =
      if f ∈ [CatalogField.deviceID, .name, .parentID, .businessGroupID] then
        b.virtualText catalog f else [] := by
  rw [← List.append_nil (fieldLines _ _), valueOf_fieldLines]
  rfl

theorem valueOf_device (eve : CatalogEventType) (f : CatalogField) :
    valueOf f.tag (fieldLines (if eve.isStatus then [.deviceID] else updateFields) catalog.text ++
      (eventLines eve ++ infoLines eve catalog)) =
      if f ∈ (if eve.isStatus = true then [CatalogField.deviceID]
        else updateFields ++ [.ptzType]) then catalog.text f else [] := by
  rw [valueOf_fieldLines, valueOf_infoLines]
  cases eve.isStatus with
  | true => simp
  | false =>
    by_cases hf : f ∈ updateFields
    · simp [hf]
    · simp [hf]

/-- An item says the texts that it should exactly when nothing else is to be said. -/
theorem valueOf_inner_iff :
    (∀ f : CatalogField, valueOf f.tag (b.inner catalog) = catalog.text f) ↔
      (∀ f ∉ b.shown, catalog.text f = []) ∧ (b.m_eveType = none →
        catalog.text .parentID = b.m_deviceID ∧
          catalog.text .businessGroupID = str "44000000002150000001") := by
  unfold CatalogBody.inner CatalogBody.shown
  cases b.m_eveType with
  | none =>
    simp only [valueOf_virtual b catalog, forall_const]
    constructor
    · intro h
      refine ⟨fun f hf => ?_, (h .parentID).symm, (h .businessGroupID).symm⟩
      rw [← h f, if_neg hf]
    · rintro ⟨hempty, hparent, hgroup⟩ f
      by_cases hf : f ∈ [CatalogField.deviceID, .name, .parentID, .businessGroupID]
      · rw [if_pos hf]
        cases f with
        | parentID => exact hparent.symm
        | businessGroupID => exact hgroup.symm
        | _ => rfl
      · rw [if_neg hf, hempty f hf]
  | some eve =>
    rw [and_iff_left fun hnone => by cases hnone]
    simp only [valueOf_device catalog eve]
    refine forall_congr' fun f => ?_
    by_cases hf : f ∈ (if eve.isStatus = true then [CatalogField.deviceID]
        else updateFields ++ [.ptzType])
    · exact iff_of_true (if_pos hf) fun hno => absurd hf hno
    · rw [if_neg hf, eq_comm]
      exact ⟨fun h _ => h, fun h => h hf⟩

theorem valueOf_event : valueOf (str "Event") (b.inner catalog) = b.event := by
  have hfields : ∀ fs text, ∀ l ∈ fieldLines fs text, l.name ≠ str "Event" := by
    intro fs text l hl
    obtain ⟨f, -, rfl⟩ := mem_fieldLines hl
    exact tag_ne_event f
  unfold CatalogBody.inner CatalogBody.event
  cases b.m_eveType with
  | none =>
    dsimp only
    rw [← List.append_nil (fieldLines _ _), Xml.valueOf_append (hfields _ _)]
    rfl
  | some eve =>
    dsimp only
    rw [Xml.valueOf_append (hfields _ _)]
    cases eve <;> rfl

theorem says_inner_iff : b.Says (contentTokens (b.inner catalog)) catalog ↔
    (∀ f ∉ b.shown, catalog.text f = []) ∧ (b.m_eveType = none →
      catalog.text .parentID = b.m_deviceID ∧
        catalog.text .businessGroupID = str "44000000002150000001") := by
  have htext : ∀ f : CatalogField, textOf f.tag (contentTokens (b.inner catalog)) =
      valueOf f.tag (b.inner catalog) := fun f =>
    Xml.textOf_lines (leaf_inner b catalog (tag_ne_info f))
  rw [← valueOf_inner_iff]
  constructor
  · exact fun h f => (htext f).symm.trans (h.text f)
  · intro h
    refine ⟨fun f => (htext f).trans (h f), ?_⟩
    rw [Xml.textOf_lines (leaf_inner b catalog (by decide)), valueOf_event]

end texts

/-! ### What a reader finds -/

section readers

variable {b : CatalogBody} {bdType : XMLBodyType}

theorem name_ne_of_not_mem {n : CStr} {names : List CStr} {lines : List Line}
    (hnames : lines.map Line.name = names) (h : n ∉ names) : ∀ l ∈ lines, l.name ≠ n :=
  fun _ hl hn => h (hnames ▸ hn ▸ List.mem_map_of_mem hl)

theorem name_header : ∀ l ∈ b.header bdType, l.name ≠ str "Item" := by
  have hnames : (b.header bdType).map Line.name = [bodyTypeString bdType, str "CmdType", str "SN",
    str "DeviceID", str "SumNum", str "DeviceList"] := rfl
  exact name_ne_of_not_mem hnames (by cases bdType <;> decide)

theorem name_header_sn : ∀ l ∈ (b.header bdType).take 2, l.name ≠ str "SN" := by
  have hnames : ((b.header bdType).take 2).map Line.name =
    [bodyTypeString bdType, str "CmdType"] := rfl
  exact name_ne_of_not_mem hnames (by cases bdType <;> decide)

theorem name_header_deviceID : ∀ l ∈ (b.header bdType).take 3, l.name ≠ str "DeviceID" := by
  have hnames : ((b.header bdType).take 3).map Line.name =
    [bodyTypeString bdType, str "CmdType", str "SN"] := rfl
  exact name_ne_of_not_mem hnames (by cases bdType <;> decide)

theorem num_header (rest : List Line) : Xml.attributeOf (str "DeviceList") (str "Num")
    (report xmlDeclaration (b.header bdType ++ rest)) =
      some (str (toString b.m_catalogList.length)) := by
  have hnames : ((b.header bdType).take 5).map Line.name =
    [bodyTypeString bdType, str "CmdType", str "SN", str "DeviceID", str "SumNum"] := rfl
  have hother := name_ne_of_not_mem hnames
    (n := str "DeviceList") (by cases bdType <;> decide)
  have hsplit : report xmlDeclaration (b.header bdType ++ rest) =
      (report xmlDeclaration ((b.header bdType).take 5) ++ [.text [0x0a]]) ++
        .start (str "DeviceList") [(str "Num", str (toString b.m_catalogList.length))] ::
          Xml.lineTokens rest := by
    simp [report, CatalogBody.header, Xml.lineTokens, Line.tokens]
  rw [hsplit, Xml.attributeOf_append fun t ht => ?_]
  · rfl
  · rcases List.mem_append.mp ht with ht | ht
    · exact Xml.not_isStart_report hother t ht
    · rw [List.mem_singleton.mp ht]
      rfl

/-- The elements of the items, as far as they are done, and what comes behind them. -/
theorem elements_header (catalogs : List CatalogTexts) (ts : List Xml.Token) :
    Xml.elements (str "Item") (report xmlDeclaration (b.header bdType ++
      ((catalogs.map b.inner).map fun inner => element (str "Item") [] inner).flatten) ++ ts) =
      catalogs.map (fun c => contentTokens (b.inner c)) ++ Xml.elements (str "Item") ts := by
  have hreport : ∀ lines, report xmlDeclaration (b.header bdType ++ lines) =
      report xmlDeclaration (b.header bdType) ++ Xml.lineTokens lines := fun lines => by
    rw [report, report, Xml.lineTokens_append, List.cons_append]
  rw [hreport, List.append_assoc, Xml.elements_append (Xml.not_isStart_report name_header),
    Xml.elements_flatten (List.forall_mem_map.mpr fun c _ => name_inner b c), List.map_map]
  rfl

/-- The pieces of a body whose texts need no escape say it exactly when it is complete. -/
theorem recovers_report_iff :
    b.Recovers (report xmlDeclaration (b.content.lines bdType)) ↔ b.Complete := by
  rw [lines_content]
  generalize hX : ((b.m_catalogList.map b.inner).map fun inner =>
    element (str "Item") [] inner).flatten ++ footer bdType = X
  have hsn : textOf (str "SN") (report xmlDeclaration (b.header bdType ++ X)) = b.m_SN := by
    have hsplit : report xmlDeclaration (b.header bdType ++ X) =
        report xmlDeclaration ((b.header bdType).take 2) ++ .text [0x0a] :: .start (str "SN") [] ::
          (Xml.textToken b.m_SN ++ .stop (str "SN") ::
            Xml.lineTokens ((b.header bdType).drop 3 ++ X)) := by
      simp [report, CatalogBody.header, Xml.lineTokens, Line.tokens]
    rw [hsplit, Xml.textOf_report name_header_sn fun _ h => by cases h]
  have hdevice : textOf (str "DeviceID") (report xmlDeclaration (b.header bdType ++ X)) =
      b.m_deviceID := by
    have hsplit : report xmlDeclaration (b.header bdType ++ X) =
        report xmlDeclaration ((b.header bdType).take 3) ++ .text [0x0a] ::
          .start (str "DeviceID") [] :: (Xml.textToken b.m_deviceID ++ .stop (str "DeviceID") ::
            Xml.lineTokens ((b.header bdType).drop 4 ++ X)) := by
      simp [report, CatalogBody.header, Xml.lineTokens, Line.tokens]
    rw [hsplit, Xml.textOf_report name_header_deviceID fun _ h => by cases h]
  have hitems : Xml.elements (str "Item") (report xmlDeclaration (b.header bdType ++ X)) =
      b.m_catalogList.map fun c => contentTokens (b.inner c) := by
    have hfooter : ∀ l ∈ footer bdType, l.name ≠ str "Item" := by
      have hnames : (footer bdType).map Line.name = [str "DeviceList", bodyTypeString bdType] := rfl
      exact name_ne_of_not_mem hnames (by cases bdType <;> decide)
    have hsplit : report xmlDeclaration (b.header bdType ++ X) =
        report xmlDeclaration (b.header bdType ++ ((b.m_catalogList.map b.inner).map fun inner =>
          element (str "Item") [] inner).flatten) ++ (Xml.lineTokens (footer bdType) ++ []) := by
      rw [← hX, report, report, ← List.append_assoc, Xml.lineTokens_append, List.append_nil,
        List.cons_append]
    rw [hsplit, elements_header, Xml.elements_append (Xml.not_isStart_lineTokens hfooter)]
    exact List.append_nil _
  have hmeans : List.Forall₂ b.Says (b.m_catalogList.map fun c => contentTokens (b.inner c))
      b.m_catalogList ↔ b.Complete := by
    rw [List.forall₂_map_left_iff, List.forall₂_same]
    exact forall₂_congr fun c _ => says_inner_iff b c
  constructor
  · exact fun h => hmeans.mp (hitems ▸ h.items)
  · exact fun h => ⟨hsn, hdevice, num_header X, hitems ▸ hmeans.mpr h⟩

theorem text_of_recovers {tokens : List Xml.Token} (h : b.Recovers tokens)
    {done more : List CatalogTexts} {catalog : CatalogTexts}
    (hlist : b.m_catalogList = done ++ catalog :: more) {pre post : List Line} {n v u : CStr}
    (hinner : b.inner catalog = pre ++ .leaf n v :: post) {t : Xml.Token}
    {behind : List Xml.Token} (ht : ∀ w, t ≠ .text w)
    (htokens : tokens = report xmlDeclaration (b.header bdType ++
      (((done.map b.inner).map fun inner => element (str "Item") [] inner).flatten)) ++
      .text [0x0a] :: .start (str "Item") [] :: (Xml.lineTokens pre ++
        .text [0x0a] :: .start n [] :: (Xml.textToken u ++ t :: behind))) :
    ∃ content, b.Says content catalog ∧ textOf n content = u := by
  have hpre : ∀ l ∈ pre, l.name ≠ n ∧ l.name ≠ str "Item" := by
    intro l hl
    have hdistinct := distinct_inner b catalog
    rw [hinner] at hdistinct
    refine ⟨(List.pairwise_append.mp hdistinct).2.2 l hl _ List.mem_cons_self n v rfl, ?_⟩
    exact name_inner b catalog l (hinner ▸ List.mem_append_left _ hl)
  obtain ⟨content, contents, helements, htext⟩ := @Xml.textOf_last _ _ u _ t behind hpre ht
  have hitems := h.items
  rw [htokens, elements_header, helements, hlist] at hitems
  have hdrop := List.forall₂_drop_append _ _ _ hitems
  rw [← List.length_map (fun c => contentTokens (b.inner c)), List.drop_left] at hdrop
  cases hdrop with
  | cons hmeans _ => exact ⟨content, hmeans, htext⟩

theorem reads_header {tokens : List Xml.Token} (h : b.Recovers tokens) {pre post : List Line}
    {n v : CStr} (hheader : pre ++ .leaf n v :: post = b.header bdType) {u : CStr} {t : Xml.Token}
    {more : List Xml.Token} (htokens : tokens = report xmlDeclaration pre ++
      .text [0x0a] :: .start n [] :: (Xml.textToken u ++ t :: more)) (ht : ∀ w, t ≠ .text w) :
    u = v ∨ Literal v := by
  have hword : Clean (str "Catalog") := clean_constant rfl
  have hsum : Clean (str (toString b.m_nSum)) := clean_word (isNameChar_toString _)
  rcases pre with _ | ⟨l₀, _ | ⟨l₁, _ | ⟨l₂, _ | ⟨l₃, _ | ⟨l₄, _ | ⟨l₅, pre⟩⟩⟩⟩⟩⟩
  · cases hheader
  · cases hheader
    exact Or.inr hword.literal
  · cases hheader
    have htext : textOf (str "SN") (report xmlDeclaration ((b.header bdType).take 2) ++
        .text [0x0a] :: .start (str "SN") [] :: (Xml.textToken u ++ t :: more)) = u :=
      Xml.textOf_report name_header_sn ht
    exact Or.inl (htext.symm.trans ((congrArg _ htokens.symm).trans h.sn))
  · cases hheader
    have htext : textOf (str "DeviceID") (report xmlDeclaration ((b.header bdType).take 3) ++
        .text [0x0a] :: .start (str "DeviceID") [] :: (Xml.textToken u ++ t :: more)) = u :=
      Xml.textOf_report name_header_deviceID ht
    exact Or.inl (htext.symm.trans ((congrArg _ htokens.symm).trans h.deviceID))
  · cases hheader
    exact Or.inr hsum.literal
  · cases hheader
  · cases pre <;> cases hheader

/-- **Where a body is found, the data behind each start tag tells the text.** -/
theorem reads_of_recovers {tokens : List Xml.Token} (h : b.Recovers tokens) {pre post : List Line}
    {n v : CStr} (hlines : b.content.lines bdType = pre ++ .leaf n v :: post)
    (hpre : ∀ l ∈ pre, ∀ w ∈ l.value, Literal w) {u : CStr} {t : Xml.Token}
    {more : List Xml.Token} (htokens : tokens = report xmlDeclaration pre ++
      .text [0x0a] :: .start n [] :: (Xml.textToken u ++ t :: more)) (ht : ∀ w, t ≠ .text w) :
    u = v ∨ Literal v := by
  rw [lines_content] at hlines
  have hfooter : Line.leaf n v ∉ footer bdType := fun hmem => by
    rcases List.mem_cons.mp hmem with h | h
    · cases h
    · cases List.mem_singleton.mp h
  -- The lines of the items.
  have hitem : ∀ pre', pre = b.header bdType ++ pre' →
      ((b.m_catalogList.map b.inner).map fun inner => element (str "Item") [] inner).flatten ++
        footer bdType = pre' ++ .leaf n v :: post → u = v ∨ Literal v := by
    intro pre' hsplit hrest
    obtain ⟨done, lines, rest, pre'', post', hitems, hline, rfl⟩ :=
      Xml.flatten_eq_append_cons hrest hfooter
    obtain ⟨inners, inners', hinners, rfl, hinner⟩ := List.map_eq_append_iff.mp hitems
    obtain ⟨inner, inners'', rfl, rfl, rfl⟩ := List.map_eq_cons_iff.mp hinner
    obtain ⟨catalogs, catalogs', hcatalogs, rfl, hcatalog⟩ := List.map_eq_append_iff.mp hinners
    obtain ⟨catalog, catalogs'', rfl, rfl, rfl⟩ := List.map_eq_cons_iff.mp hcatalog
    obtain ⟨before, behind, rfl, hinside⟩ := Xml.element_eq_append_leaf hline
    have hbefore : Xml.lineTokens (.start (str "Item") [] :: before) =
      .text [0x0a] :: .start (str "Item") [] :: Xml.lineTokens before := rfl
    have hitem : tokens = report xmlDeclaration (b.header bdType ++ (((catalogs.map b.inner).map
        fun inner => element (str "Item") [] inner).flatten)) ++
        .text [0x0a] :: .start (str "Item") [] :: (Xml.lineTokens before ++
          .text [0x0a] :: .start n [] :: (Xml.textToken u ++ t :: more)) := by
      rw [htokens, hsplit]
      simp only [report, Xml.lineTokens_append, hbefore, List.append_assoc, List.cons_append]
    obtain ⟨content, hmeans, htext⟩ := text_of_recovers h hcatalogs hinside ht hitem
    rcases leaf_mem_inner b catalog (hinside ▸ List.mem_append_right _ List.mem_cons_self) with
      ⟨f, rfl, rfl⟩ | rfl | hliteral
    · exact Or.inl (htext.symm.trans (hmeans.text f))
    · have hmem : Line.leaf (str "DeviceID") b.m_deviceID ∈ pre := by
        rw [hsplit]
        exact List.mem_append_left _ (by simp [CatalogBody.header])
      exact Or.inr (hpre _ hmem _ rfl)
    · exact Or.inr hliteral
  rcases List.append_eq_append_iff.mp hlines with ⟨c, hsplit, hrest⟩ | ⟨c, hheader, hleaf⟩
  · exact hitem c hsplit hrest
  cases c with
  | nil => exact hitem [] (by rw [List.append_nil] at hheader ⊢; exact hheader.symm) hleaf.symm
  | cons x c =>
    obtain ⟨rfl, -⟩ := List.cons.inj hleaf
    exact reads_header h hheader.symm htokens ht

theorem clean_of_recovers {tokens : List Xml.Token}
    (hread : Xml.read (document xmlDeclaration (b.content.lines bdType)) = some tokens)
    (h : b.Recovers tokens) : ∀ v ∈ b.content.texts, Clean v :=
  (values_lines bdType b.content).mp (Xml.clean_of_reads declaration_xmlDeclaration
    (named_lines bdType b.content) hread fun _ _ _ _ hlines hpre _ _ _ htokens ht =>
      reads_of_recovers h hlines hpre htokens ht)

end readers

/-- **A body is found in what is written exactly when its texts fit the buffers and need no escape
and nothing is left out.** -/
theorem faithful_iff (bdType : XMLBodyType) (b : CatalogBody) (nSize : Nat) :
    Faithful bdType b nSize ↔
      b.content.Fits bdType nSize ∧ (∀ v ∈ b.content.texts, Clean v) ∧ b.Complete := by
  unfold Faithful
  simp only [createContent_eq_some_iff]
  have hread : (∀ v ∈ b.content.texts, Clean v) →
      Xml.read (document xmlDeclaration (b.content.lines bdType)) =
        some (report xmlDeclaration (b.content.lines bdType)) := fun hclean =>
    Xml.read_document declaration_xmlDeclaration (named_lines bdType b.content)
      (nested_lines bdType b.content) ((values_lines bdType b.content).mpr hclean)
  constructor
  · rintro ⟨text, ⟨hitems, hbody, rfl⟩, hlength, tokens, htokens, hrecovers⟩
    rw [Xml.length_document] at hlength
    have hclean := clean_of_recovers htokens hrecovers
    rw [hread hclean] at htokens
    cases htokens
    exact ⟨⟨hitems, hbody, hlength⟩, hclean, recovers_report_iff.mp hrecovers⟩
  · rintro ⟨⟨hitems, hbody, hlength⟩, hclean, hcomplete⟩
    rw [← Xml.length_document] at hlength
    exact ⟨_, ⟨hitems, hbody, rfl⟩, hlength, _, hread hclean,
      recovers_report_iff.mpr hcomplete⟩

/-- A camera whose name holds an ampersand. -/
def dockItem : CatalogTexts where
  text
    | .deviceID => str "34020000001320000001"
    | .name => str "Dock A&B"
    | .parentID => str "34020000002000000001"
    | .status => str "ON"
    | _ => []
  eGBDeviceType := 0

def dockBody : CatalogBody where
  m_deviceID := str "34020000002000000001"
  m_SN := str "17"
  m_nSum := 1
  m_catalogList := [dockItem]
  m_eveType := some .none

/-- Its body fits and leaves nothing out, but is not found again. -/
theorem ampersand_lost : ¬ Faithful .response dockBody 4096 := by
  rintro ⟨text, htext, -, tokens, hread, hrecovers⟩
  obtain ⟨-, -, rfl⟩ := (createContent_eq_some_iff _ _ _).mp htext
  have hname : str "Dock A&B" ∈ dockBody.content.texts := by decide
  exact (clean_of_recovers hread hrecovers _ hname).literal.noReference (by decide)

end GB28181.Platform
