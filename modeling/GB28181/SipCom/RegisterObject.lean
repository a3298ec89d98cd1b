import GB28181.Base.CString

/-!
# Registration records, addresses and headers (`Common/common.h`, `osipparser2`)

`SIP_REGISTER_OBJECT_T` and the `STATUS_` constants come from a header that is not part of the
repository; the record has the fields the repository uses.  `RegStatus` has one constructor for
every constant and `other` for the remaining integers, so the constants are pairwise distinct.

In an address or a header, `none` is a null pointer.
-/

set_option autoImplicit false

namespace GB28181.SipCom

open GB28181.Base

/-- Values of `nStatus`. -/
inductive RegStatus where
  | notRegister
  | send401Unauthorized
  | sent401Unauthorized
  | send403Forbidden
  | sendt403Forbidden
  | registerSuccess
  | registerExit
  | registerDefault
  | other (code : Int)
  deriving DecidableEq, Repr

/-- `SIP_REGISTER_OBJECT_T` (also `SIP_PLT_INFO_T`). -/
structure SipRegisterObject where
  strDeviceID : CStr
  strIP : CStr
  nPort : Int
  nType : Int
  userName : CStr
  strPassWord : CStr
  nStatus : RegStatus
  nExpires : Int
  nNeedAuth : Int
  timLastRegister : Int
  timLastKeepAlive : Int
  nKeepaliveInterval : Int
  deriving DecidableEq

/-- `osip_uri_t`. -/
structure Uri where
  username : Option CStr
  host : Option CStr
  port : Option CStr
  deriving DecidableEq

/-- `osip_header_t`; a header without value has a null `hvalue`. -/
structure Header where
  hname : CStr
  hvalue : Option CStr
  deriving DecidableEq

end GB28181.SipCom
