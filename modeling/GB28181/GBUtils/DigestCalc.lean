import GB28181.GBUtils.MD5
import GB28181.SipCom.Digest

/-!
# Digest values over an MD5 context (`GBUtils/Algorithm/Algorithm.cpp`)

`DigestCalcHA1` and `DigestCalcResponse` as they hand their parts to one context on the stack, with
the jumps of the second.

* `Hands` — what a call adds to the message of a context; `Hands.bind` is the rule for a call that
  the next ones follow;
* `digestCalcHA1_eq`, `digestCalcResponse_eq` — **the values are those over the whole messages**.
-/

set_option autoImplicit false

namespace GB28181.GBUtils

open GB28181.Base MD5CryptoPrivoder
open GB28181.SipCom (Hash Md5 Authorization authorizationDigest)

/-- `CvtHex`, with the terminator. -/
def cvtHex (Bin : CStr) : CStr :=
  (Bin.flatMap fun (b : UInt8) => [hexDigit (b >>> 4 &&& 0xf), hexDigit (b &&& 0xf)]) ++ [0]

/-- `provider.MD5Update(&Md5Ctx, (unsigned char *)psz, (unsigned int)strlen(psz))`. -/
def updateStr (psz : CStr) (Md5Ctx : MD5_CTX) : Option MD5_CTX :=
  md5Update Md5Ctx (cStr psz) (.ofNat 32 (cStr psz).length)

/-- `provider.MD5Update(&Md5Ctx, (unsigned char *) ":", 1)`. -/
def updateColon (Md5Ctx : MD5_CTX) : Option MD5_CTX := md5Update Md5Ctx (str ":") 1

/-- `DigestCalcHA1`; `Md5Ctx` is what stands on the stack, `none` a null pointer. -/
def digestCalcHA1 (Md5Ctx : MD5_CTX) (pszAlg : Option CStr)
    (pszUserName pszRealm pszPassword pszNonce pszCNonce : CStr) : Option CStr := do
  let Md5Ctx ← updateStr pszUserName (md5Init Md5Ctx)
  let Md5Ctx ← updateColon Md5Ctx
  let Md5Ctx ← updateStr pszRealm Md5Ctx
  let Md5Ctx ← updateColon Md5Ctx
  let Md5Ctx ← updateStr pszPassword Md5Ctx
  let (HA1, Md5Ctx) ← md5Final Md5Ctx
  if pszAlg.map cStr = some (str "md5-sess") then
    let Md5Ctx ← md5Update (md5Init Md5Ctx) HA1 16
    let Md5Ctx ← updateColon Md5Ctx
    let Md5Ctx ← updateStr pszNonce Md5Ctx
    let Md5Ctx ← updateColon Md5Ctx
    let Md5Ctx ← updateStr pszCNonce Md5Ctx
    let (HA1, _) ← md5Final Md5Ctx
    return cvtHex HA1
  else return cvtHex HA1

/-- From the label `end` on. -/
def digestEnd (Md5Ctx : MD5_CTX) (HA2Hex : CStr) : Option CStr := do
  let Md5Ctx ← md5Update Md5Ctx HA2Hex 32
  let (RespHash, _) ← md5Final Md5Ctx
  return cvtHex RespHash

/-- From the label `auth_withoutqop` on. -/
def authWithoutqop (Md5Ctx : MD5_CTX) (HA1 pszNonce : CStr) : Option CStr := do
  let (HA2, Md5Ctx) ← md5Final Md5Ctx
  let Md5Ctx ← md5Update (md5Init Md5Ctx) HA1 32
  let Md5Ctx ← updateColon Md5Ctx
  let Md5Ctx ← updateStr pszNonce Md5Ctx
  let Md5Ctx ← updateColon Md5Ctx
  digestEnd Md5Ctx (cvtHex HA2)

/-- From the label `auth_withauth` on. -/
def authWithauth (Md5Ctx : MD5_CTX) (HA1 pszNonce pszNonceCount pszCNonce pszQop : CStr)
    (Aka : Int) : Option CStr := do
  let (HA2, Md5Ctx) ← md5Final Md5Ctx
  let Md5Ctx ← md5Update (md5Init Md5Ctx) HA1 32
  let Md5Ctx ← updateColon Md5Ctx
  let Md5Ctx ← updateStr pszNonce Md5Ctx
  let Md5Ctx ← updateColon Md5Ctx
  if Aka = 0 then
    let Md5Ctx ← updateStr pszNonceCount Md5Ctx
    let Md5Ctx ← updateColon Md5Ctx
    let Md5Ctx ← updateStr pszCNonce Md5Ctx
    let Md5Ctx ← updateColon Md5Ctx
    let Md5Ctx ← updateStr pszQop Md5Ctx
    let Md5Ctx ← updateColon Md5Ctx
    digestEnd Md5Ctx (cvtHex HA2)
  else digestEnd Md5Ctx (cvtHex HA2)

/-- `DigestCalcResponse`.  A `qop` that is none of the three falls into `auth_withoutqop`. -/
def digestCalcResponse (Md5Ctx : MD5_CTX) (HA1 pszNonce pszNonceCount pszCNonce : CStr)
    (pszQop : Option CStr) (Aka : Int) (pszMethod pszDigestUri HEntity : CStr) : Option CStr := do
  let Md5Ctx ← updateStr pszMethod (md5Init Md5Ctx)
  let Md5Ctx ← updateColon Md5Ctx
  let Md5Ctx ← updateStr pszDigestUri Md5Ctx
  match pszQop with
  | none => authWithoutqop Md5Ctx HA1 pszNonce
  | some pszQop =>
    if cStr pszQop = [] then authWithoutqop Md5Ctx HA1 pszNonce
    else if cStr pszQop = str "auth-int" then
      let Md5Ctx ← updateColon Md5Ctx
      let Md5Ctx ← md5Update Md5Ctx HEntity 32
      authWithauth Md5Ctx HA1 pszNonce pszNonceCount pszCNonce pszQop Aka
    else if cStr pszQop = str "auth" then
      authWithauth Md5Ctx HA1 pszNonce pszNonceCount pszCNonce pszQop Aka
    else authWithoutqop Md5Ctx HA1 pszNonce

/-! ## What the calls hand over -/

def md5Hash : Md5 := fun msg => ⟨md5 msg, length_md5 msg⟩

/-- A call that adds `bytes` to the message of any context. -/
def Hands (f : MD5_CTX → Option MD5_CTX) (bytes : CStr) : Prop :=
  ∀ (msg : CStr) (context : MD5_CTX), Holds msg context →
    ∃ context', f context = some context' ∧ Holds (msg ++ bytes) context'

/-- **A call and what follows it.** -/
theorem Hands.bind {f : MD5_CTX → Option MD5_CTX} {bytes msg : CStr} {context : MD5_CTX}
    {next : MD5_CTX → Option CStr} {r : Option CStr} (hf : Hands f bytes) (h : Holds msg context)
    (hnext : ∀ context', Holds (msg ++ bytes) context' → next context' = r) :
    (f context >>= next) = r := by
  obtain ⟨context', hstep, hholds⟩ := hf msg context h
  rw [hstep, Option.bind_eq_bind, Option.bind_some]
  exact hnext context' hholds

/-- Short enough to be handed over in one call. -/
def Short (psz : CStr) : Prop := (cStr psz).length + 63 < 2 ^ 32

theorem hands_updateStr {psz : CStr} (h : Short psz) : Hands (updateStr psz) (cStr psz) := by
  intro msg context hholds
  have hlen : (BitVec.ofNat 32 (cStr psz).length).toNat = (cStr psz).length := by
    rw [BitVec.toNat_ofNat]
    exact Nat.mod_eq_of_lt (Nat.lt_of_le_of_lt (Nat.le_add_right _ 63) h)
  have hspec := @md5Update_spec msg (cStr psz) [] context _ hholds hlen h
  rwa [List.append_nil] at hspec

theorem hands_updateColon : Hands updateColon (str ":") := by
  intro msg context hholds
  have hspec := @md5Update_spec msg (str ":") [] context 1 hholds (by decide) (by decide)
  rwa [List.append_nil] at hspec

theorem hands_hex {hex : CStr} (behind : CStr) (hlen : hex.length = 32) :
    Hands (fun context => md5Update context (hex ++ behind) 32) hex := by
  intro msg context hholds
  exact md5Update_spec hholds hlen.symm (by rw [hlen]; decide)

theorem hands_hash (msg : CStr) :
    Hands (fun context => md5Update context (md5 msg) 16) (md5 msg) := by
  intro msg' context hholds
  have hlen := length_md5 msg
  have hspec := @md5Update_spec msg' (md5 msg) [] context 16 hholds hlen.symm
    (by rw [hlen]; decide)
  rwa [List.append_nil] at hspec

theorem holds_init_final : Holds [] (md5Init ⟨⟨0, 0, 0, 0⟩, 0, 0, List.replicate 64 0⟩) :=
  Holds.init (List.length_replicate ..)

theorem md5Final_bind {msg : CStr} {context : MD5_CTX} {next : CStr × MD5_CTX → Option CStr}
    {r : Option CStr} (h : Holds msg context)
    (hnext : next (md5 msg, ⟨⟨0, 0, 0, 0⟩, 0, 0, List.replicate 64 0⟩) = r) :
    (md5Final context >>= next) = r := by
  rw [md5Final_spec h, Option.bind_eq_bind, Option.bind_some]
  exact hnext

theorem cvtHex_md5 (msg : CStr) : cvtHex (md5 msg) = SipCom.cvtHex (md5Hash msg) ++ [0] := rfl

theorem length_cvtHex (Bin : Hash) : (SipCom.cvtHex Bin).length = 32 := by
  rw [SipCom.cvtHex, List.length_flatMap]
  simp [Bin.length_eq]

section

variable {context : MD5_CTX} {pszUserName pszRealm pszPassword pszNonce pszNonceCount pszCNonce
  pszMethod pszDigestUri : CStr}

/-- **`DigestCalcHA1`.** -/
theorem digestCalcHA1_eq (hbuffer : context.buffer.length = 64) (pszAlg : Option CStr)
    (hUser : Short pszUserName) (hRealm : Short pszRealm) (hPassword : Short pszPassword)
    (hNonce : Short pszNonce) (hCNonce : Short pszCNonce) :
    digestCalcHA1 context pszAlg pszUserName pszRealm pszPassword pszNonce pszCNonce =
      some (SipCom.digestCalcHA1 md5Hash ((pszAlg.map cStr).getD []) pszUserName pszRealm
        pszPassword pszNonce pszCNonce ++ [0]) := by
  have halg : ((pszAlg.map cStr).getD [] = str "md5-sess") ↔
      pszAlg.map cStr = some (str "md5-sess") := by
    cases pszAlg with
    | none => simp only [Option.map_none, Option.getD_none]; decide
    | some alg => simp only [Option.map_some, Option.getD_some, Option.some.injEq]
  refine (hands_updateStr hUser).bind (Holds.init hbuffer) fun _ h => ?_
  refine hands_updateColon.bind h fun _ h => ?_
  refine (hands_updateStr hRealm).bind h fun _ h => ?_
  refine hands_updateColon.bind h fun _ h => ?_
  refine (hands_updateStr hPassword).bind h fun _ h => ?_
  refine md5Final_bind h ?_
  rw [List.nil_append]
  by_cases hsess : pszAlg.map cStr = some (str "md5-sess")
  · simp only [if_pos hsess, SipCom.digestCalcHA1, if_pos (halg.mpr hsess)]
    refine (hands_hash _).bind holds_init_final fun _ h => ?_
    refine hands_updateColon.bind h fun _ h => ?_
    refine (hands_updateStr hNonce).bind h fun _ h => ?_
    refine hands_updateColon.bind h fun _ h => ?_
    refine (hands_updateStr hCNonce).bind h fun _ h => ?_
    exact md5Final_bind h rfl
  · simp only [if_neg hsess, SipCom.digestCalcHA1, if_neg (fun h => hsess (halg.mp h))]
    rfl

theorem digestEnd_eq {msg : CStr} (h : Holds msg context) (HA2 : Hash) :
    digestEnd context (SipCom.cvtHex HA2 ++ [0]) =
      some (SipCom.cvtHex (md5Hash (msg ++ SipCom.cvtHex HA2)) ++ [0]) := by
  refine (hands_hex [0] (length_cvtHex HA2)).bind h fun _ h => ?_
  exact md5Final_bind h rfl

variable {HA1 behind : CStr} (hHA1 : HA1.length = 32) (hNonce : Short pszNonce)
include hHA1 hNonce

theorem authWithoutqop_eq {msg : CStr} (h : Holds msg context) :
    authWithoutqop context (HA1 ++ behind) pszNonce =
      some (SipCom.cvtHex (md5Hash (HA1 ++ str ":" ++ cStr pszNonce ++ str ":" ++
        SipCom.cvtHex (md5Hash msg))) ++ [0]) := by
  refine md5Final_bind h ?_
  refine (hands_hex behind hHA1).bind holds_init_final fun _ h => ?_
  refine hands_updateColon.bind h fun _ h => ?_
  refine (hands_updateStr hNonce).bind h fun _ h => ?_
  refine hands_updateColon.bind h fun _ h => ?_
  exact digestEnd_eq h (md5Hash msg)

theorem authWithauth_eq {pszQop msg : CStr} (hNonceCount : Short pszNonceCount)
    (hCNonce : Short pszCNonce) (hQop : Short pszQop) (Aka : Int) (h : Holds msg context) :
    authWithauth context (HA1 ++ behind) pszNonce pszNonceCount pszCNonce pszQop Aka =
      some (SipCom.cvtHex (md5Hash (HA1 ++ str ":" ++ cStr pszNonce ++ str ":" ++
        (if Aka = 0 then cStr pszNonceCount ++ str ":" ++ cStr pszCNonce ++ str ":" ++
          cStr pszQop ++ str ":" else []) ++ SipCom.cvtHex (md5Hash msg))) ++ [0]) := by
  refine md5Final_bind h ?_
  refine (hands_hex behind hHA1).bind holds_init_final fun _ h => ?_
  refine hands_updateColon.bind h fun _ h => ?_
  refine (hands_updateStr hNonce).bind h fun _ h => ?_
  refine hands_updateColon.bind h fun _ h => ?_
  by_cases hAka : Aka = 0
  · simp only [if_pos hAka]
    refine (hands_updateStr hNonceCount).bind h fun _ h => ?_
    refine hands_updateColon.bind h fun _ h => ?_
    refine (hands_updateStr hCNonce).bind h fun _ h => ?_
    refine hands_updateColon.bind h fun _ h => ?_
    refine (hands_updateStr hQop).bind h fun _ h => ?_
    refine hands_updateColon.bind h fun _ h => ?_
    rw [cvtHex_md5, digestEnd_eq h]
    simp only [List.append_assoc, List.nil_append]
  · simp only [if_neg hAka, List.append_nil]
    exact digestEnd_eq h (md5Hash msg)

/-- **`DigestCalcResponse`.** -/
theorem digestCalcResponse_eq {pszQop : Option CStr} {HEntity behindEntity : CStr}
    (hbuffer : context.buffer.length = 64) (hNonceCount : Short pszNonceCount)
    (hCNonce : Short pszCNonce) (hQop : Short (pszQop.getD [])) (hMethod : Short pszMethod)
    (hDigestUri : Short pszDigestUri) (hEntity : HEntity.length = 32) (Aka : Int) :
    digestCalcResponse context (HA1 ++ behind) pszNonce pszNonceCount pszCNonce pszQop Aka pszMethod
        pszDigestUri (HEntity ++ behindEntity) =
      some (SipCom.digestCalcResponse md5Hash HA1 pszNonce pszNonceCount pszCNonce (pszQop.getD [])
        Aka pszMethod pszDigestUri HEntity ++ [0]) := by
  refine (hands_updateStr hMethod).bind (Holds.init hbuffer) fun _ h => ?_
  refine hands_updateColon.bind h fun _ h => ?_
  refine (hands_updateStr hDigestUri).bind h fun _ h => ?_
  rw [List.nil_append] at h
  have hneInt : str "auth-int" ≠ [] := by decide
  have hneAuth : str "auth" ≠ [] := by decide
  have hintAuth : str "auth" ≠ str "auth-int" := by decide
  cases pszQop with
  | none =>
    have hnone : cStr (none.getD []) = [] := rfl
    rw [authWithoutqop_eq hHA1 hNonce h, SipCom.digestCalcResponse, hnone]
    simp only [hneInt.symm, hneAuth.symm, or_self, false_and, if_false, List.append_nil]
  | some qop =>
    have hsome : (some qop).getD [] = qop := rfl
    rw [hsome] at hQop
    by_cases hnil : cStr qop = []
    · simp only [if_pos hnil]
      rw [authWithoutqop_eq hHA1 hNonce h, SipCom.digestCalcResponse, hsome, hnil]
      simp only [hneInt.symm, hneAuth.symm, or_self, false_and, if_false, List.append_nil]
    by_cases hint : cStr qop = str "auth-int"
    · simp only [if_neg hnil, if_pos hint]
      refine hands_updateColon.bind h fun _ h => ?_
      refine (hands_hex behindEntity hEntity).bind h fun _ h => ?_
      rw [authWithauth_eq hHA1 hNonce hNonceCount hCNonce hQop Aka h, SipCom.digestCalcResponse,
        hsome]
      simp only [hint, true_or, true_and, if_true, List.append_assoc]
    by_cases hauth : cStr qop = str "auth"
    · simp only [if_neg hnil, if_neg hint, if_pos hauth]
      rw [authWithauth_eq hHA1 hNonce hNonceCount hCNonce hQop Aka h, SipCom.digestCalcResponse,
        hsome]
      simp only [hauth, hintAuth, or_true, true_and, if_false, List.append_nil]
    · simp only [if_neg hnil, if_neg hint, if_neg hauth]
      rw [authWithoutqop_eq hHA1 hNonce h, SipCom.digestCalcResponse, hsome]
      simp only [hint, hauth, or_self, false_and, if_false, List.append_nil]

end

/-- One function after the other, for the same credentials. -/
def digestCalls (stack1 stack2 : MD5_CTX) (pszAlg : Option CStr)
    (pszUserName pszRealm pszPassword pszNonce pszNonceCount pszCNonce : CStr)
    (pszQop : Option CStr) (Aka : Int) (pszMethod pszDigestUri HEntity : CStr) : Option CStr := do
  let HA1 ← digestCalcHA1 stack1 pszAlg pszUserName pszRealm pszPassword pszNonce pszCNonce
  digestCalcResponse stack2 HA1 pszNonce pszNonceCount pszCNonce pszQop Aka pszMethod pszDigestUri
    HEntity

theorem length_digestCalcHA1 (pszAlg pszUserName pszRealm pszPassword pszNonce pszCNonce : CStr) :
    (SipCom.digestCalcHA1 md5Hash pszAlg pszUserName pszRealm pszPassword pszNonce
      pszCNonce).length = 32 := by
  rw [SipCom.digestCalcHA1]
  split <;> exact length_cvtHex _

/-- **The `response` of a request, from the parts its header and the account have.** -/
theorem digestCalls_eq (stack1 stack2 : MD5_CTX) (hstack1 : stack1.buffer.length = 64)
    (hstack2 : stack2.buffer.length = 64) (pszAlg pszQop : Option CStr)
    (pszUserName pszRealm pszPassword pszNonce pszNonceCount pszCNonce pszMethod pszDigestUri
      HEntity behind : CStr) (Aka : Int)
    (hshort : ∀ psz ∈ [pszUserName, pszRealm, pszPassword, pszNonce, pszNonceCount, pszCNonce,
      pszQop.getD [], pszMethod, pszDigestUri], Short psz) (hEntity : HEntity.length = 32) :
    digestCalls stack1 stack2 pszAlg pszUserName pszRealm pszPassword pszNonce pszNonceCount
        pszCNonce pszQop Aka pszMethod pszDigestUri (HEntity ++ behind) =
      some (SipCom.digestCalcResponse md5Hash
        (SipCom.digestCalcHA1 md5Hash ((pszAlg.map cStr).getD []) pszUserName pszRealm pszPassword
          pszNonce pszCNonce)
        pszNonce pszNonceCount pszCNonce (pszQop.getD []) Aka pszMethod pszDigestUri HEntity ++
          [0]) := by
  simp only [List.forall_mem_cons] at hshort
  obtain ⟨hUser, hRealm, hPassword, hNonce, hNonceCount, hCNonce, hQop, hMethod, hUri, -⟩ := hshort
  rw [digestCalls, digestCalcHA1_eq hstack1 pszAlg hUser hRealm hPassword hNonce hCNonce,
    Option.bind_eq_bind, Option.bind_some]
  exact digestCalcResponse_eq (length_digestCalcHA1 ..) hNonce hstack2 hNonceCount hCNonce hQop
    hMethod hUri hEntity Aka

/-- A request without `qop`, and no entity. -/
theorem digestCalls_register : digestCalls ⟨State.magic, 0, 0, List.replicate 64 0⟩
    ⟨State.magic, 0, 0, List.replicate 64 7⟩ (some (str "MD5")) (str "alice") (str "biloxi.com")
      (str "secret") (str "0a4f113b") (str "00000001") (str "1") none 0 (str "REGISTER")
      (str "sip:biloxi.com") (List.replicate 32 0 ++ [0]) =
    some (SipCom.digestCalcResponse md5Hash
      (SipCom.digestCalcHA1 md5Hash (str "MD5") (str "alice") (str "biloxi.com") (str "secret")
        (str "0a4f113b") (str "1"))
      (str "0a4f113b") (str "00000001") (str "1") [] 0 (str "REGISTER") (str "sip:biloxi.com")
      (List.replicate 32 0) ++ [0]) := by
  have hshort : ∀ psz ∈ [str "alice", str "biloxi.com", str "secret", str "0a4f113b",
      str "00000001", str "1", [], str "REGISTER", str "sip:biloxi.com"], Short psz := by
    intro psz hpsz
    have hlen : ∀ psz ∈ [str "alice", str "biloxi.com", str "secret", str "0a4f113b",
      str "00000001", str "1", [], str "REGISTER", str "sip:biloxi.com"],
        (cStr psz).length < 100 := by decide +kernel
    exact Nat.lt_trans (Nat.add_lt_add_right (hlen psz hpsz) 63) (by decide)
  exact digestCalls_eq _ _ (List.length_replicate ..) (List.length_replicate ..)
    (some (str "MD5")) none (str "alice") (str "biloxi.com") (str "secret") (str "0a4f113b")
    (str "00000001") (str "1") (str "REGISTER") (str "sip:biloxi.com") (List.replicate 32 0) [0] 0
    hshort (List.length_replicate ..)

end GB28181.GBUtils
