import Mathlib.Algebra.Ring.Int.Defs
import GB28181.Base.Token

/-!
# Session descriptions (`GB28181.Lib/SdpParser.h`, `SdpParser.cpp`)

The `SDP_STACK` with its infos, `encode_sdp` and the decoder of `SdpParser`.  A text is a list of
characters; `type_value` and `separator`, which every constructor sets and nothing changes, are
written out where an info is encoded or decoded.

* `SdpStack.encodeText`, `encodeSdp` — the text and what of it gets into the caller's buffer;
* `tokenLoop` — the loop over the tokens of a line, with the `switch` of each info;
* `classify`, `decodeLoop` — one line, and the lines of a text.
-/

set_option autoImplicit false

namespace GB28181.Lib

open GB28181.Base

/-- `_tstring`. -/
abbrev Text := List Char

def enter : Text := ['\r', '\n']

def blank : Char := ' '

def colon : Char := ':'

/-! ## Infos

The fields of an info in the order of its line. -/

structure VersionInfo where
  version : Text := []
  deriving DecidableEq

def VersionInfo.fields (i : VersionInfo) : List Text := [i.version]

structure ConnectInfo where
  network_type : Text := []
  address_type : Text := []
  address : Text := []
  deriving DecidableEq

def ConnectInfo.fields (i : ConnectInfo) : List Text := [i.network_type, i.address_type, i.address]

structure OwnerInfo where
  user_name : Text := []
  session_id : Text := []
  version : Text := []
  connect_info : ConnectInfo := {}
  deriving DecidableEq

def OwnerInfo.fields (i : OwnerInfo) : List Text :=
  i.user_name :: i.session_id :: i.version :: i.connect_info.fields

structure SessionName where
  name : Text := []
  deriving DecidableEq

def SessionName.fields (i : SessionName) : List Text := [i.name]

structure SessionDesp where
  description : Text := []
  deriving DecidableEq

def SessionDesp.fields (i : SessionDesp) : List Text := [i.description]

structure UrlInfo where
  url : Text := []
  deriving DecidableEq

def UrlInfo.fields (i : UrlInfo) : List Text := [i.url]

structure EmailInfo where
  email : Text := []
  deriving DecidableEq

def EmailInfo.fields (i : EmailInfo) : List Text := [i.email]

structure PhoneInfo where
  phone : Text := []
  deriving DecidableEq

def PhoneInfo.fields (i : PhoneInfo) : List Text := [i.phone]

structure BandwidthInfo where
  modifier : Text := []
  value : Text := []
  deriving DecidableEq

def BandwidthInfo.fields (i : BandwidthInfo) : List Text := [i.modifier, i.value]

structure ActiveTime where
  start : Text := []
  stop : Text := []
  deriving DecidableEq

def ActiveTime.fields (i : ActiveTime) : List Text := [i.start, i.stop]

structure RepeatTime where
  repeat_ : Text := []
  active : Text := []
  offset : Text := []
  deriving DecidableEq

def RepeatTime.fields (i : RepeatTime) : List Text := [i.repeat_, i.active, i.offset]

structure AdjustmentTime where
  time : Text := []
  offset : Text := []
  deriving DecidableEq

def AdjustmentTime.fields (i : AdjustmentTime) : List Text := [i.time, i.offset]

structure EncryptionKey where
  method : Text := []
  key : Text := []
  deriving DecidableEq

def EncryptionKey.fields (i : EncryptionKey) : List Text := [i.method, i.key]

structure SessionAttribute where
  attribute_ : Text := []
  value : Text := []
  deriving DecidableEq

def SessionAttribute.fields (i : SessionAttribute) : List Text := [i.attribute_, i.value]

structure MediaInfo where
  media : Text := []
  port : Text := []
  transport : Text := []
  fmtlist : Text := []
  deriving DecidableEq

def MediaInfo.fields (i : MediaInfo) : List Text := [i.media, i.port, i.transport, i.fmtlist]

structure SdpStack where
  version_info : VersionInfo := {}
  owner_info : OwnerInfo := {}
  session_name : SessionName := {}
  session_desp : SessionDesp := {}
  url_info : UrlInfo := {}
  email_info : EmailInfo := {}
  phone_info : PhoneInfo := {}
  connect_info : ConnectInfo := {}
  bandwidth_info : BandwidthInfo := {}
  active_time : ActiveTime := {}
  repeat_time : RepeatTime := {}
  adjustment_time_list : List AdjustmentTime := []
  encryption_key_list : List EncryptionKey := []
  attribute_list : List SessionAttribute := []
  media_list : List MediaInfo := []
  deriving DecidableEq

def SdpStack.fields (s : SdpStack) : List Text :=
  s.version_info.fields ++ s.owner_info.fields ++ s.session_name.fields ++ s.session_desp.fields ++
    s.url_info.fields ++ s.email_info.fields ++ s.phone_info.fields ++ s.connect_info.fields ++
    s.bandwidth_info.fields ++ s.active_time.fields ++ s.repeat_time.fields ++
    s.adjustment_time_list.flatMap AdjustmentTime.fields ++
    s.encryption_key_list.flatMap EncryptionKey.fields ++
    s.attribute_list.flatMap SessionAttribute.fields ++ s.media_list.flatMap MediaInfo.fields

/-! ## Encoding -/

instance (fields : List Text) : Decidable ([] ∈ fields) :=
  List.instDecidableMemOfLawfulBEq [] fields

/-- The line of an info: nothing when a field is empty, else the type, the equals sign and the
fields with the separator between them. -/
def lineOf (type_value separator : Char) (fields : List Text) : List Text :=
  if [] ∈ fields then [] else [type_value :: '=' :: [separator].intercalate fields]

def joinLines (lines : List Text) : Text := lines.flatMap (· ++ enter)

/-- `encode` of an info with the given type, separator and fields. -/
def encodeFields (type_value separator : Char) (fields : List Text) : Text :=
  joinLines (lineOf type_value separator fields)

-- the separator of an info of one field is empty and not used

def VersionInfo.encode (i : VersionInfo) : Text := encodeFields 'v' blank i.fields

def ConnectInfo.encode (i : ConnectInfo) : Text := encodeFields 'c' blank i.fields

def OwnerInfo.encode (i : OwnerInfo) : Text := encodeFields 'o' blank i.fields

def SessionName.encode (i : SessionName) : Text := encodeFields 's' blank i.fields

def SessionDesp.encode (i : SessionDesp) : Text := encodeFields 'i' blank i.fields

def UrlInfo.encode (i : UrlInfo) : Text := encodeFields 'u' blank i.fields

def EmailInfo.encode (i : EmailInfo) : Text := encodeFields 'e' blank i.fields

def PhoneInfo.encode (i : PhoneInfo) : Text := encodeFields 'p' blank i.fields

def BandwidthInfo.encode (i : BandwidthInfo) : Text := encodeFields 'b' colon i.fields

def ActiveTime.encode (i : ActiveTime) : Text := encodeFields 't' blank i.fields

def RepeatTime.encode (i : RepeatTime) : Text := encodeFields 'r' blank i.fields

/-- An adjustment is a part of its line and has neither type nor line end. -/
def AdjustmentTime.encode (i : AdjustmentTime) : Text :=
  if i.time = [] ∨ i.offset = [] then [] else i.time ++ blank :: i.offset

def EncryptionKey.encode (i : EncryptionKey) : Text :=
  if i.method = [] then []
  else if i.key ≠ [] then 'k' :: '=' :: i.method ++ colon :: i.key ++ enter
  else 'k' :: '=' :: i.method ++ enter

def SessionAttribute.encode (i : SessionAttribute) : Text := encodeFields 'a' colon i.fields

def MediaInfo.encode (i : MediaInfo) : Text := encodeFields 'm' blank i.fields

/-- The loop over the adjustments: a blank behind each but the last, a line end behind that. -/
def encodeAdjustments : List AdjustmentTime → Text
  | [] => []
  | [time] => time.encode ++ enter
  | time :: times => time.encode ++ blank :: encodeAdjustments times

/-- `strSdp` in `encode_sdp`.  The tests whether an info encodes to anything guard the appending
of an empty text. -/
def SdpStack.encodeText (s : SdpStack) : Text :=
  s.version_info.encode ++ s.owner_info.encode ++ s.session_name.encode ++ s.session_desp.encode ++
    s.url_info.encode ++ s.email_info.encode ++ s.phone_info.encode ++ s.connect_info.encode ++
    s.bandwidth_info.encode ++ s.active_time.encode ++ s.repeat_time.encode ++
    ('z' :: '=' :: encodeAdjustments s.adjustment_time_list) ++
    s.encryption_key_list.flatMap EncryptionKey.encode ++
    s.attribute_list.flatMap SessionAttribute.encode ++ s.media_list.flatMap MediaInfo.encode

/-- The characters before the terminator. -/
def cText (t : Text) : Text := t.takeWhile (· ≠ '\x00')

/-- `_tcscpy_s`: the characters copied before the terminator, `none` when it aborts. -/
def tcscpy_s (sizeInCharacters : Nat) (source : Text) : Option Text :=
  if (cText source).length < sizeInCharacters then some (cText source) else none

/-- The result of `encode_sdp` with its out parameters; `sdp_buffer` is `none` where nothing was
written. -/
structure EncodeResult where
  iBufferSize : Nat
  buffer_size : Int
  sdp_buffer : Option Text
  deriving DecidableEq

/-- `encode_sdp`; `none` stands for the abort of `_tcscpy_s`.  The conversion of `buffer_size` to
`rsize_t` is that of the 32-bit build. -/
def encodeSdp (sdp_stack : SdpStack) (buffer_size : Int) : Option EncodeResult :=
  let strSdp := sdp_stack.encodeText
  if buffer_size = 0 then some ⟨strSdp.length, strSdp.length, none⟩
  else (tcscpy_s (buffer_size % 2 ^ 32).toNat strSdp).map fun t =>
    ⟨strSdp.length, buffer_size, some t⟩

/-! ## Decoding -/

/-- `GetStringByToken` with the tail it leaves. -/
def getStringByToken (strLine : Text) (strToken : Text) : Text × Text :=
  match breakOn strToken strLine with
  | some p => p
  | none => (strLine, [])

theorem getStringByToken_length {strLine strToken : Text}
    (h : (getStringByToken strLine strToken).1 ≠ []) :
    (getStringByToken strLine strToken).2.length < strLine.length := by
  unfold getStringByToken at h ⊢
  cases hb : breakOn strToken strLine with
  | none =>
    rw [hb] at h
    exact List.length_pos_of_ne_nil h
  | some p =>
    rw [hb] at h
    exact breakOn_length_lt hb (Or.inr h)

/-- The loop of the `Get` functions: the tokens of a line up to the first empty one, each with
its number. -/
def tokenLoop {σ : Type} (strToken : Text) (set : Nat → Text → σ → σ) (i : Nat) (strTempLine : Text)
    (info : σ) : σ :=
  if h : (getStringByToken strTempLine strToken).1 = [] then info
  else
    tokenLoop strToken set (i + 1) (getStringByToken strTempLine strToken).2
      (set i (getStringByToken strTempLine strToken).1 info)
  termination_by strTempLine.length
  decreasing_by exact getStringByToken_length h

/-- The `switch` of `GetConnect`. -/
def setConnect : Nat → Text → ConnectInfo → ConnectInfo
  | 0, strValue, info => { info with network_type := strValue }
  | 1, strValue, info => { info with address_type := strValue }
  | 2, strValue, info => { info with address := strValue }
  | _, _, info => info

def getConnect (strLine : Text) : ConnectInfo := tokenLoop [blank] setConnect 0 strLine {}

/-- The `switch` of `GetOwner`. -/
def setOwner : Nat → Text → OwnerInfo → OwnerInfo
  | 0, strValue, info => { info with user_name := strValue }
  | 1, strValue, info => { info with session_id := strValue }
  | 2, strValue, info => { info with version := strValue }
  | 3, strValue, info => { info with connect_info.network_type := strValue }
  | 4, strValue, info => { info with connect_info.address_type := strValue }
  | 5, strValue, info => { info with connect_info.address := strValue }
  | _, _, info => info

def getOwner (strLine : Text) : OwnerInfo := tokenLoop [blank] setOwner 0 strLine {}

/-- The `switch` of `GetBandWidth`. -/
def setBandWidth : Nat → Text → BandwidthInfo → BandwidthInfo
  | 0, strValue, info => { info with modifier := strValue }
  | 1, strValue, info => { info with value := strValue }
  | _, _, info => info

def getBandWidth (strLine : Text) : BandwidthInfo := tokenLoop [colon] setBandWidth 0 strLine {}

/-- The `switch` of `GetActiveTime`. -/
def setActiveTime : Nat → Text → ActiveTime → ActiveTime
  | 0, strValue, active => { active with start := strValue }
  | 1, strValue, active => { active with stop := strValue }
  | _, _, active => active

def getActiveTime (strLine : Text) : ActiveTime := tokenLoop [blank] setActiveTime 0 strLine {}

/-- The `switch` of `GetRepeatTime`. -/
def setRepeatTime : Nat → Text → RepeatTime → RepeatTime
  | 0, strValue, info => { info with repeat_ := strValue }
  | 1, strValue, info => { info with active := strValue }
  | 2, strValue, info => { info with offset := strValue }
  | _, _, info => info

def getRepeatTime (strLine : Text) : RepeatTime := tokenLoop [blank] setRepeatTime 0 strLine {}

/-- The body of the loop of `GetAdjustmentTime`, on the adjustment read so far and the list: it
starts its count again with every second token. -/
def setAdjustmentTime (i : Nat) (strValue : Text) (p : AdjustmentTime × List AdjustmentTime) :
    AdjustmentTime × List AdjustmentTime :=
  if i % 2 = 0 then ({ p.1 with time := strValue }, p.2)
  else
    let adjustment := { p.1 with offset := strValue }
    (adjustment, p.2 ++ [adjustment])

def getAdjustmentTime (strLine : Text) : List AdjustmentTime :=
  (tokenLoop [blank] setAdjustmentTime 0 strLine ({}, [])).2

/-- The `switch` of `GetEncryptionKey`. -/
def setEncryptionKey : Nat → Text → EncryptionKey → EncryptionKey
  | 0, strValue, key => { key with method := strValue }
  | 1, strValue, key => { key with key := strValue }
  | _, _, key => key

def getEncryptionKey (strLine : Text) : EncryptionKey :=
  tokenLoop [colon] setEncryptionKey 0 strLine {}

/-- The `switch` of `GetSessionAttribute`. -/
def setSessionAttribute : Nat → Text → SessionAttribute → SessionAttribute
  | 0, strValue, info => { info with attribute_ := strValue }
  | 1, strValue, info => { info with value := strValue }
  | _, _, info => info

def getSessionAttribute (strLine : Text) : SessionAttribute :=
  tokenLoop [colon] setSessionAttribute 0 strLine {}

/-- The `switch` of `GetMedia`. -/
def setMedia : Nat → Text → MediaInfo → MediaInfo
  | 0, strValue, info => { info with media := strValue }
  | 1, strValue, info => { info with port := strValue }
  | 2, strValue, info => { info with transport := strValue }
  | 3, strValue, info => { info with fmtlist := strValue }
  | _, _, info => info

def getMedia (strLine : Text) : MediaInfo := tokenLoop [blank] setMedia 0 strLine {}

/-- The `switch` of `Classify`. -/
def classifyType (cType : Option Char) (strTempLine : Text) (s : SdpStack) : SdpStack :=
  match cType with
  | some 'v' => { s with version_info := ⟨strTempLine⟩ }
  | some 'o' => { s with owner_info := getOwner strTempLine }
  | some 's' => { s with session_name := ⟨strTempLine⟩ }
  | some 'i' => { s with session_desp := ⟨strTempLine⟩ }
  | some 'u' => { s with url_info := ⟨strTempLine⟩ }
  | some 'e' => { s with email_info := ⟨strTempLine⟩ }
  | some 'p' => { s with phone_info := ⟨strTempLine⟩ }
  | some 'c' =>
    -- the first `c=` line with an address counts
    if s.connect_info.address = [] then { s with connect_info := getConnect strTempLine } else s
  | some 'b' => { s with bandwidth_info := getBandWidth strTempLine }
  | some 't' => { s with active_time := getActiveTime strTempLine }
  | some 'r' => { s with repeat_time := getRepeatTime strTempLine }
  | some 'z' => { s with adjustment_time_list := getAdjustmentTime strTempLine }
  | some 'k' =>
    { s with encryption_key_list := s.encryption_key_list ++ [getEncryptionKey strTempLine] }
  | some 'a' => { s with attribute_list := s.attribute_list ++ [getSessionAttribute strTempLine] }
  | some 'm' => { s with media_list := s.media_list ++ [getMedia strTempLine] }
  | _ => s

def classify (s : SdpStack) (strLine : Text) : SdpStack :=
  match breakOn ['='] strLine with
  | none => s
  | some (_, strTempLine) => classifyType strLine.head? strTempLine s

/-- The loop of `Decode`. -/
def decodeLoop (strSdpTemp : Text) (s : SdpStack) : SdpStack :=
  match _h : breakOn enter strSdpTemp with
  | some (strLine, strTail) => decodeLoop strTail (classify s strLine)
  | none => classify s strSdpTemp
  termination_by strSdpTemp.length
  decreasing_by exact breakOn_length_lt _h (Or.inl (List.cons_ne_nil _ _))

structure SdpParser where
  m_strSdpBuffer : Text := []
  m_sdpStack : SdpStack := {}
  deriving DecidableEq

def SdpParser.decode (p : SdpParser) : SdpParser :=
  { p with m_sdpStack := decodeLoop p.m_strSdpBuffer p.m_sdpStack }

def SdpParser.ofBuffer (sdp_buffer : Text) : SdpParser :=
  SdpParser.decode { m_strSdpBuffer := sdp_buffer }

def SdpParser.decodeSdp (p : SdpParser) : SdpStack := p.m_sdpStack

/-- `decode_sdp(sdp_buffer)`, which leaves its argument unread; with the parser it leaves. -/
def SdpParser.decodeSdpBuffer (p : SdpParser) (_sdp_buffer : Text) : SdpStack × SdpParser :=
  (p.decode.m_sdpStack, p.decode)

end GB28181.Lib
