import GB28181.Base.CString

/-!
# Digest authentication values (`GBUtils/Algorithm/Algorithm.cpp`)

`CvtHex`, `DigestCalcHA1` and `DigestCalcResponse` over an arbitrary MD5, together with the
header fields they are fed with (`osip_authorization_t` and the `GetAuthorization…` readers of
`UASSipRegMgr.cpp`).

* `unquote_digest` — a digest is its own unquoted form, so every digest can be sent as a
  `response` value;
* `exists_wrong_response` — and no digest is the only value.
-/

set_option autoImplicit false

namespace GB28181.SipCom

open GB28181.Base

/-- `HASH`: the 16 bytes an MD5 computation ends with. -/
structure Hash where
  bytes : CStr
  length_eq : bytes.length = 16

abbrev Md5 := CStr → Hash

def cvtHex (Bin : Hash) : CStr :=
  Bin.bytes.flatMap fun (b : UInt8) => [hexDigit (b >>> 4 &&& 0xf), hexDigit (b &&& 0xf)]

def digestCalcHA1 (md5 : Md5) (pszAlg pszUserName pszRealm pszPassword pszNonce pszCNonce : CStr) :
    CStr :=
  let HA1 := md5 (cStr pszUserName ++ str ":" ++ cStr pszRealm ++ str ":" ++ cStr pszPassword)
  if pszAlg = str "md5-sess" then
    cvtHex (md5 (HA1.bytes ++ str ":" ++ cStr pszNonce ++ str ":" ++ cStr pszCNonce))
  else cvtHex HA1

/-- `DigestCalcResponse`.  A `qop` other than `auth` and `auth-int` is treated as none. -/
def digestCalcResponse (md5 : Md5) (HA1 pszNonce pszNonceCount pszCNonce pszQop : CStr) (Aka : Int)
    (pszMethod pszDigestUri HEntity : CStr) : CStr :=
  let qop := cStr pszQop
  let withEntity := qop = str "auth-int"
  let withQop := withEntity ∨ qop = str "auth"
  let HA2Hex := cvtHex (md5 (cStr pszMethod ++ str ":" ++ cStr pszDigestUri ++
    (if withEntity then str ":" ++ HEntity else [])))
  cvtHex (md5 (HA1 ++ str ":" ++ cStr pszNonce ++ str ":" ++
    (if withQop ∧ Aka = 0 then
      cStr pszNonceCount ++ str ":" ++ cStr pszCNonce ++ str ":" ++ qop ++ str ":"
    else []) ++ HA2Hex))

/-! ## The Authorization header -/

/-- The fields of `osip_authorization_t` the manager reads; `none` is a null pointer. -/
structure Authorization where
  username : Option CStr
  realm : Option CStr
  nonce : Option CStr
  uri : Option CStr
  response : Option CStr
  cnonce : Option CStr
  message_qop : Option CStr
  deriving DecidableEq

/-- The copy the readers make of a field: without its first and last byte when it starts with a
quotation mark. -/
def unquote (p : CStr) : CStr := if p.head? = some 0x22 then p.tail.take (p.length - 2) else p

/-- The common body of the `GetAuthorization…` readers: `strTmp` where the field is null. -/
def getAuthorizationField (strTmp : CStr) (field : Option CStr) : CStr :=
  match field with
  | none => strTmp
  | some p => unquote p

def getAuthorizationMessage_qop (pAuth : Authorization) : CStr :=
  getAuthorizationField [] pAuth.message_qop

def getAuthorizationResponse (pAuth : Authorization) : CStr :=
  getAuthorizationField [] pAuth.response

def getAuthorizationUsername (pAuth : Authorization) : CStr :=
  getAuthorizationField [] pAuth.username

def getAuthorizationRealm (pAuth : Authorization) : CStr := getAuthorizationField [] pAuth.realm

def getAuthorizationCnonce (pAuth : Authorization) : CStr :=
  getAuthorizationField (str "0a4f113b") pAuth.cnonce

def getAuthorizationUri (pAuth : Authorization) : CStr := getAuthorizationField [] pAuth.uri

def getAuthorizationNonce (pAuth : Authorization) : CStr := getAuthorizationField [] pAuth.nonce

/-- The `Response` that `CheckRegAuthentication` computes for a password.  `HA2` is the
zero-initialised array handed over as the entity hash. -/
def authorizationDigest (md5 : Md5) (pAuth : Authorization) (strPassWord : CStr) : CStr :=
  let strNonce := getAuthorizationNonce pAuth
  let strCNonce := getAuthorizationCnonce pAuth
  let HA1 := digestCalcHA1 md5 (str "MD5") (getAuthorizationUsername pAuth)
    (getAuthorizationRealm pAuth) strPassWord strNonce strCNonce
  let HA2 := List.replicate 32 0
  digestCalcResponse md5 HA1 strNonce (str "00000001") strCNonce (getAuthorizationMessage_qop pAuth)
    0 (str "REGISTER") (getAuthorizationUri pAuth) HA2

/-- The same header with another `response` value. -/
def Authorization.withResponse (pAuth : Authorization) (r : CStr) : Authorization :=
  { pAuth with response := some r }

theorem getAuthorizationResponse_withResponse (pAuth : Authorization) (r : CStr) :
    getAuthorizationResponse (pAuth.withResponse r) = unquote r := rfl

theorem cvtHex_no_quote (Bin : Hash) : ∀ c ∈ cvtHex Bin, c ≠ 0x22 := by
  intro c hc
  obtain ⟨b, -, hb⟩ := List.mem_flatMap.mp hc
  have hlt : ∀ n : UInt8, n &&& 0xf < 16 := fun n => by
    have : (n &&& 0xf).toNat < 16 := by
      rw [UInt8.toNat_and]
      exact Nat.lt_of_le_of_lt Nat.and_le_right (by decide)
    exact this
  rcases List.mem_pair.mp hb with rfl | rfl
  · exact hexDigit_ne_quote _ (hlt _)
  · exact hexDigit_ne_quote _ (hlt _)

/-- A digest carries no quotation mark, so it is read back as it is sent. -/
theorem unquote_digest (md5 : Md5) (pAuth : Authorization) (pw : CStr) :
    unquote (authorizationDigest md5 pAuth pw) = authorizationDigest md5 pAuth pw := by
  rw [unquote, if_neg]
  intro h
  exact cvtHex_no_quote _ _ (List.mem_of_mem_head? h) rfl

theorem exists_wrong_response (d : CStr) : ∃ w, unquote w ≠ d := by
  by_cases h : d = []
  · exact ⟨str "0", by rw [h]; decide⟩
  · exact ⟨[], fun e => h e.symm⟩

end GB28181.SipCom
