import Mathlib.Data.List.Infix
import GB28181.Base.CString

/-!
# Bodies of catalogue responses (`SIPCom/XMLBodyBuilder.h`)

A catalogue body announces a total (`SumNum`) and lists items: the platform itself, virtual
directories or devices.  Its text goes through buffers of fixed size with `sprintf_s`, which ends
the process on a text that does not fit; such a body has no text here.

* `XMLBodyContent` — the three kinds of body with the data they are built from;
* `createContent` — `BodyBuilder::CreateContent`;
* `sumNum_of_createContent` — the text of a body contains its total.
-/

set_option autoImplicit false

namespace GB28181.Platform

open GB28181.Base

/-- A scoped enumeration over `int`. -/
abbrev GBDevice_T := Int

/-- `CatalogItem`: the fields the bodies and the push filter read. -/
structure CatalogItem where
  m_strDeviceID : CStr
  m_strName : CStr
  m_strManufacturer : CStr
  m_strModel : CStr
  m_strOwner : CStr
  m_strCivilCode : CStr
  m_strBlock : CStr
  m_strAddress : CStr
  m_strParental : CStr
  m_strParentID : CStr
  m_strSafetyWay : CStr
  m_strRegisterWay : CStr
  m_strCertifiable : CStr
  m_strErrCode : CStr
  m_strSecrecy : CStr
  m_strStatus : CStr
  m_strLongitude : CStr
  m_strLatitude : CStr
  m_strInfoPTZType : CStr
  eGBDeviceType : GBDevice_T
  deriving DecidableEq

inductive XMLBodyType
  | control | notify | query | response
  deriving DecidableEq

inductive CatalogEventType
  | none | on | off | vlost | defect | add | del | update | error
  deriving DecidableEq

def bodyTypeString : XMLBodyType → CStr
  | .control => str "Control"
  | .notify => str "Notify"
  | .query => str "Query"
  | .response => str "Response"

/-- `CatalogEventTypeString`; it has no entry for the two ends of the enumeration. -/
def catalogEventTypeString : CatalogEventType → CStr
  | .on => str "ON"
  | .off => str "OFF"
  | .vlost => str "VLOST"
  | .defect => str "DEFECT"
  | .add => str "ADD"
  | .del => str "DEL"
  | .update => str "UPDATE"
  | .none => []
  | .error => []

def bodyNewline : CStr := str "\r\n"

/-- `sprintf_s` of a formatted text into a buffer. -/
def sprintfS (size : Nat) (text : CStr) : Option CStr :=
  if text.length < size then some text else none

/-- `"<%s>%s</%s>\r\n"`. -/
def devFmt (name value : CStr) : CStr :=
  str "<" ++ name ++ str ">" ++ value ++ str "</" ++ name ++ str ">" ++ bodyNewline

/-- `"<SumNum>%d</SumNum>\r\n"`. -/
def sumNumLine (m_nSum : Nat) : CStr :=
  str "<SumNum>" ++ str (toString m_nSum) ++ str "</SumNum>" ++ bodyNewline

/-! ## The contents -/

structure CPlatformCatalogContent where
  m_deviceID : CStr
  m_SN : CStr
  m_nSum : Nat
  m_civilCode : CStr
  m_strName : CStr
  deriving DecidableEq

def CPlatformCatalogContent.ofName (pszName : Option CStr) (devid sn cv : CStr) (nSum : Nat) :
    CPlatformCatalogContent where
  m_deviceID := devid
  m_SN := sn
  m_nSum := nSum
  m_civilCode := cv
  m_strName := pszName.getD (str "HON_Platform")

structure CVirtualCatalogContent where
  m_deviceID : CStr
  m_SN : CStr
  m_nSum : Nat
  m_catalogList : List CatalogItem
  deriving DecidableEq

structure CDeviceCatalog where
  m_deviceID : CStr
  m_SN : CStr
  m_nSum : Nat
  m_catalogList : List CatalogItem
  m_eveType : CatalogEventType
  deriving DecidableEq

def CPlatformCatalogContent.getContent (c : CPlatformCatalogContent) : Option CStr :=
  sprintfS 2048 (devFmt (str "CmdType") (str "Catalog") ++ devFmt (str "SN") c.m_SN ++
    devFmt (str "DeviceID") c.m_deviceID ++ sumNumLine c.m_nSum ++
    (str "<DeviceList Num=\"1\">" ++ bodyNewline ++ str "<Item>" ++ bodyNewline) ++
    devFmt (str "DeviceID") c.m_deviceID ++ devFmt (str "Name") c.m_strName ++
    devFmt (str "Manufacturer") (str "Honeywell") ++ devFmt (str "Model") (str "Platform") ++
    devFmt (str "Owner") (str "Owner") ++ devFmt (str "CivilCode") c.m_civilCode ++
    devFmt (str "Address") (str "Address") ++ devFmt (str "RegisterWay") (str "1") ++
    devFmt (str "Secrecy") (str "0") ++
    (str "</Item>" ++ bodyNewline ++ str "</DeviceList>" ++ bodyNewline))

/-- `CMultiCatalog::GetContent` around the text of the items. -/
def multiCatalogContent (m_SN m_deviceID : CStr) (m_nSum nDevListCount : Nat) (strItems : CStr) :
    Option CStr :=
  sprintfS 2048 (devFmt (str "CmdType") (str "Catalog") ++ devFmt (str "SN") m_SN ++
    devFmt (str "DeviceID") m_deviceID ++ sumNumLine m_nSum ++
    (str "<DeviceList Num=\"" ++ str (toString nDevListCount) ++ str "\">" ++ bodyNewline) ++
    strItems ++ (str "</DeviceList>" ++ bodyNewline))

/-- `CVirtualCatalogContent::GetItems`: every item goes through a buffer of its own, and into the
list of 2048 bytes with the terminator behind it. -/
def CVirtualCatalogContent.getItems (c : CVirtualCatalogContent) : Option CStr := do
  let items ← c.m_catalogList.mapM fun tmpCatalog => sprintfS 512
    (str "<Item>" ++ bodyNewline ++ devFmt (str "DeviceID") tmpCatalog.m_strDeviceID ++
      devFmt (str "Name") tmpCatalog.m_strName ++ devFmt (str "ParentID") c.m_deviceID ++
      devFmt (str "BusinessGroupID") (str "44000000002150000001") ++ str "</Item>" ++ bodyNewline)
  if items.flatten.length < 2048 then some items.flatten else none

/-- `CVirtualCatalogContent` as a body. -/
def CVirtualCatalogContent.getContent (c : CVirtualCatalogContent) : Option CStr := do
  let strItems ← c.getItems
  multiCatalogContent c.m_SN c.m_deviceID c.m_nSum c.m_catalogList.length strItems

/-- Lines of names and values, each through a buffer of 128 bytes. -/
def nodeLines (nodes : List (CStr × CStr)) : Option CStr :=
  (nodes.mapM fun node => sprintfS 128 (devFmt node.1 node.2)).map List.flatten

/-- `strNode` of `GetUpdateItem`. -/
def updateNodes (catalog : CatalogItem) : List (CStr × CStr) :=
  [(str "DeviceID", catalog.m_strDeviceID), (str "Name", catalog.m_strName),
    (str "Manufacturer", catalog.m_strManufacturer), (str "Model", catalog.m_strModel),
    (str "Owner", catalog.m_strOwner), (str "CivilCode", catalog.m_strCivilCode),
    (str "Block", catalog.m_strBlock), (str "Address", catalog.m_strAddress),
    (str "Parental", catalog.m_strParental), (str "ParentID", catalog.m_strParentID),
    (str "SafetyWay", catalog.m_strSafetyWay), (str "RegisterWay", catalog.m_strRegisterWay),
    (str "Certifiable", catalog.m_strCertifiable), (str "ErrCode", catalog.m_strErrCode),
    (str "Secrecy", catalog.m_strSecrecy), (str "Status", catalog.m_strStatus),
    (str "Longitude", catalog.m_strLongitude), (str "Latitude", catalog.m_strLatitude)]

def CDeviceCatalog.getUpdateItem (c : CDeviceCatalog) (bEvent : Bool) : Option CStr := do
  let eveSection :=
    if (c.m_eveType = .add ∨ c.m_eveType = .update) ∧ bEvent then
      str "<Event>" ++ catalogEventTypeString c.m_eveType ++ str "</Event>" ++ bodyNewline
    else []
  let items ← c.m_catalogList.mapM fun catalog => do
    let nodes ← nodeLines (updateNodes catalog)
    let info ← nodeLines [(str "PTZType", catalog.m_strInfoPTZType)]
    some (str "<Item>" ++ bodyNewline ++ nodes ++ (if bEvent then eveSection else []) ++
      str "<Info>" ++ bodyNewline ++ info ++ str "</Info>" ++ bodyNewline ++
      str "</Item>" ++ bodyNewline)
  some items.flatten

def CDeviceCatalog.getStatusItem (c : CDeviceCatalog) : Option CStr := do
  let items ← c.m_catalogList.mapM fun catalog => do
    let nodes ← nodeLines [(str "DeviceID", catalog.m_strDeviceID),
      (str "Event", catalogEventTypeString c.m_eveType)]
    some (str "<Item>" ++ bodyNewline ++ nodes ++ str "</Item>" ++ bodyNewline)
  some items.flatten

def CDeviceCatalog.getItems (c : CDeviceCatalog) : Option CStr :=
  match c.m_eveType with
  | .add | .update => c.getUpdateItem true
  | .on | .off | .vlost | .defect | .del => c.getStatusItem
  | .none | .error => c.getUpdateItem false

/-- `CDeviceCatalog` as a body. -/
def CDeviceCatalog.getContent (c : CDeviceCatalog) : Option CStr := do
  let strItems ← c.getItems
  multiCatalogContent c.m_SN c.m_deviceID c.m_nSum c.m_catalogList.length strItems

/-- The classes below `CXMLBodyContentBase` that a catalogue response is built from. -/
inductive XMLBodyContent
  | platform (c : CPlatformCatalogContent)
  | virtual (c : CVirtualCatalogContent)
  | device (c : CDeviceCatalog)
  deriving DecidableEq

def XMLBodyContent.getContent : XMLBodyContent → Option CStr
  | .platform c => c.getContent
  | .virtual c => c.getContent
  | .device c => c.getContent

def XMLBodyContent.sumNum : XMLBodyContent → Nat
  | .platform c => c.m_nSum
  | .virtual c => c.m_nSum
  | .device c => c.m_nSum

/-- `BodyBuilder::CreateContent`: the text written to the body buffer. -/
def createContent (bdType : XMLBodyType) (body : XMLBodyContent) : Option CStr := do
  let bodyContent ← body.getContent
  sprintfS 2048 (str "<?xml version=\"1.0\" encoding=\"gb2312\"?>" ++ bodyNewline ++
    (str "<" ++ bodyTypeString bdType ++ str ">" ++ bodyNewline) ++ bodyContent ++
    (str "</" ++ bodyTypeString bdType ++ str ">" ++ bodyNewline))

/-! ## The total in the text -/

theorem sprintfS_eq_some {size : Nat} {text written : CStr} :
    sprintfS size text = some written ↔ text.length < size ∧ written = text := by
  unfold sprintfS
  split
  · rename_i h
    rw [Option.some.injEq, and_iff_right h, eq_comm]
  · rename_i h
    exact iff_of_false nofun fun hw => h hw.1

theorem sumNum_infix_multiCatalog {m_SN m_deviceID strItems text : CStr} {m_nSum count : Nat}
    (h : multiCatalogContent m_SN m_deviceID m_nSum count strItems = some text) :
    sumNumLine m_nSum <:+: text := by
  rw [multiCatalogContent, sprintfS_eq_some] at h
  rw [h.2, List.append_assoc, List.append_assoc]
  exact List.infix_append _ _ _

theorem sumNum_infix_content {body : XMLBodyContent} {text : CStr}
    (h : body.getContent = some text) : sumNumLine body.sumNum <:+: text := by
  cases body with
  | platform c =>
    rw [XMLBodyContent.getContent, CPlatformCatalogContent.getContent, sprintfS_eq_some] at h
    rw [h.2]
    simp only [List.append_assoc (_ ++ sumNumLine c.m_nSum)]
    exact List.infix_append _ _ _
  | virtual c =>
    obtain ⟨strItems, -, hc⟩ := Option.bind_eq_some_iff.mp h
    exact sumNum_infix_multiCatalog hc
  | device c =>
    obtain ⟨strItems, -, hc⟩ := Option.bind_eq_some_iff.mp h
    exact sumNum_infix_multiCatalog hc

/-- **The text of a body contains its total.** -/
theorem sumNum_of_createContent {bdType : XMLBodyType} {body : XMLBodyContent} {text : CStr}
    (h : createContent bdType body = some text) : sumNumLine body.sumNum <:+: text := by
  obtain ⟨bodyContent, hbody, htext⟩ := Option.bind_eq_some_iff.mp h
  rw [sprintfS_eq_some] at htext
  rw [htext.2]
  exact (sumNum_infix_content hbody).trans (List.infix_append _ _ _)

end GB28181.Platform
