import GB28181.Osip.Ict

/-!
# Which server transaction a request belongs to

From `osip_transaction.c`, `osip_via.c`, `osip_call_id.c`, `osip_cseq.c`, `osip_from.c` and
`osip_to.c`.

* `viaToStr`, `viaMatch`, `callIdMatch`, `cseqMatch`, `tagMatch` — the comparisons of headers;
* `backwardMatch` — the comparison for requests that know no magic cookie;
* `matchingRequest` — `__osip_transaction_matching_request_osip_to_xist_17_2_3`;
* `ViaKey`, `viaKey` — the branch and the sent-by value of a compliant top Via.

Principal results: `matchingRequest_iff` — of compliant requests the keys and the methods decide;
`viaKey_fixLastViaHeader` — the stamp of the receiver leaves the key alone; `ictCreateAck_key` —
the ACK that a client builds has the key of its INVITE.
-/

set_option autoImplicit false

namespace GB28181.Osip

open GB28181.Base

/-! ## Headers -/

/-- A parameter as it is written behind a Via. -/
def paramText (p : Param) : CStr :=
  match p.gvalue with
  | none => str ";" ++ p.gname
  | some gvalue => str ";" ++ p.gname ++ str "=" ++ gvalue

/-- `osip_via_to_str`; a host with a colon is written in brackets. -/
def viaToStr (via : Via) : Option CStr := do
  let host ← via.host
  let version ← via.version
  let protocol ← via.protocol
  let host := if 0x3a ∈ host then str "[" ++ host ++ str "]" else host
  let port := match via.port with
    | none => []
    | some port => str ":" ++ port
  let comment := match via.comment with
    | none => []
    | some comment => str " (" ++ comment ++ str ")"
  some (str "SIP/" ++ version ++ str "/" ++ protocol ++ str " " ++ host ++ port ++
    via.via_params.flatMap paramText ++ comment)

/-- `osip_via_match`. -/
def viaMatch (via1 via2 : Via) : Bool :=
  match viaToStr via1, viaToStr via2 with
  | some _via1, some _via2 => _via1 == _via2
  | _, _ => false

/-- `osip_call_id_match`. -/
def callIdMatch (callid1 callid2 : CallId) : Bool :=
  callid1.number == callid2.number && callid1.host == callid2.host

/-- `osip_cseq_match`: INVITE and ACK are one method. -/
def cseqMatch (cseq1 cseq2 : CSeq) : Bool :=
  cseq1.number == cseq2.number &&
    if cseq2.method = str "INVITE" ∨ cseq2.method = str "ACK" then
      cseq1.method == str "INVITE" || cseq1.method == str "ACK"
    else cseq1.method == cseq2.method

/-- `osip_from_param_get_byname (from, "tag", &tag)`. -/
def tagOf (from1 : From) : Option Param := paramGetByname from1.gen_params (str "tag")

/-- `osip_from_tag_match`, also `osip_to_tag_match`. -/
def tagMatch (from1 from2 : From) : Bool :=
  match tagOf from1, tagOf from2 with
  | none, none => true
  | some tag1, some tag2 => tag1.gvalue.isSome && tag1.gvalue == tag2.gvalue
  | _, _ => false

/-! ## Requests -/

section Matching

variable {κ σ : Type}

/-- The tags of the To headers: that of an ACK may be new. -/
def toMatch (tr : Transaction κ σ) (request : Message) : Bool :=
  if request.isAck then
    match tagOf tr.sipTo, request.sipTo.bind tagOf with
    | none, some _ => true
    | some _, none => false
    | _, _ => request.sipTo.any (tagMatch tr.sipTo)
  else
    match tr.orig_request.bind Message.sipTo, request.sipTo with
    | some to1, some to2 => tagMatch to1 to2
    | _, _ => false

/-- The old backward compatibility mechanism for matching requests. -/
def backwardMatch (tr : Transaction κ σ) (request : Message) (topvia : Via) (cseq : CSeq) : Bool :=
  request.call_id.any (callIdMatch tr.callid) && toMatch tr request &&
    request.sipFrom.any (tagMatch tr.sipFrom) && cseqMatch tr.cseq cseq &&
    viaMatch tr.topvia topvia

/-- The sent-by values: a port that is not named is 5060. -/
def sentByMatch (origvia via : Via) : Bool :=
  match origvia.host, via.host with
  | some b_orighost, some b_host =>
    b_orighost == b_host &&
      match origvia.port, via.port with
      | none, none => true
      | none, some b_port => b_port == str "5060"
      | some b_origport, none => b_origport == str "5060"
      | some b_origport, some b_port => b_origport == b_port
  | _, _ => false

/-- The methods: an ACK belongs to an INVITE. -/
def methodMatch (cseq1 cseq2 : CSeq) : Bool :=
  (cseq1.method == str "INVITE" && cseq2.method == str "ACK") || cseq1.method == cseq2.method

def isCompliant (branch : CStr) : Bool := branch.take 7 == str "z9hG4bK"

/-- `__osip_transaction_matching_request_osip_to_xist_17_2_3`. -/
def matchingRequest (tr : Transaction κ σ) (request : Message) : Bool :=
  match request.cseq, request.vias.head? with
  | some cseq, some topvia =>
    match paramGetByname tr.topvia.via_params (str "branch"),
        paramGetByname topvia.via_params (str "branch") with
    | none, none => backwardMatch tr request topvia cseq
    | some b_origrequest, some b_request =>
      match b_origrequest.gvalue, b_request.gvalue with
      | some origbranch, some branch =>
        if origbranch.length ≠ branch.length then false
        else if isCompliant origbranch && isCompliant branch then
          origbranch == branch && sentByMatch tr.topvia topvia && methodMatch tr.cseq cseq
        else backwardMatch tr request topvia cseq
      | _, _ => false
    | _, _ => false
  | _, _ => false

end Matching

/-! ## Keys -/

/-- The branch and the sent-by value of a top Via. -/
structure ViaKey where
  branch : CStr
  host : CStr
  port : CStr
  deriving DecidableEq

/-- The key of a Via with a compliant branch. -/
def viaKey (via : Via) : Option ViaKey := do
  let param ← paramGetByname via.via_params (str "branch")
  let branch ← param.gvalue
  let host ← via.host
  if isCompliant branch then some ⟨branch, host, via.port.getD (str "5060")⟩ else none

theorem viaKey_eq_some {via : Via} {k : ViaKey} (h : viaKey via = some k) :
    (∃ param, paramGetByname via.via_params (str "branch") = some param ∧
        param.gvalue = some k.branch) ∧
      via.host = some k.host ∧ via.port.getD (str "5060") = k.port ∧
        isCompliant k.branch = true := by
  simp only [viaKey, Option.bind_eq_bind, Option.bind_eq_some_iff] at h
  obtain ⟨param, hparam, branch, hbranch, host, hhost, h⟩ := h
  split at h
  · next hcompliant =>
    obtain rfl := Option.some.inj h
    exact ⟨⟨param, hparam, hbranch⟩, hhost, rfl, hcompliant⟩
  · exact nomatch h

theorem sentByMatch_iff {origvia via : Via} {orighost host : CStr}
    (horig : origvia.host = some orighost) (hhost : via.host = some host) :
    sentByMatch origvia via = true ↔
      orighost = host ∧ origvia.port.getD (str "5060") = via.port.getD (str "5060") := by
  rw [sentByMatch, horig, hhost]
  cases origvia.port with
  | none =>
    cases via.port with
    | none => simp
    | some port => simp [@eq_comm _ port]
  | some origport => cases via.port <;> simp

/-- **Of compliant requests the keys and the methods decide.** -/
theorem matchingRequest_iff {κ σ : Type} {tr : Transaction κ σ} {request : Message} {topvia : Via}
    {cseq : CSeq} {k k' : ViaKey} (htr : viaKey tr.topvia = some k)
    (htopvia : request.vias.head? = some topvia) (hk' : viaKey topvia = some k')
    (hcseq : request.cseq = some cseq) :
    matchingRequest tr request = true ↔ k = k' ∧ methodMatch tr.cseq cseq = true := by
  obtain ⟨⟨origparam, horigparam, horigbranch⟩, horighost, horigport, horig⟩ := viaKey_eq_some htr
  obtain ⟨⟨param, hparam, hbranch⟩, hhost, hport, hcompliant⟩ := viaKey_eq_some hk'
  have hsent : sentByMatch tr.topvia topvia = true ↔ k.host = k'.host ∧ k.port = k'.port := by
    rw [sentByMatch_iff horighost hhost, horigport, hport]
  have hkeys : k = k' ↔ k.branch = k'.branch ∧ k.host = k'.host ∧ k.port = k'.port := by
    cases k
    cases k'
    simp
  simp only [matchingRequest, hcseq, htopvia, horigparam, hparam, horigbranch, hbranch, horig,
    hcompliant, Bool.and_true, if_true]
  split
  · next hlength =>
    have hne : k ≠ k' := fun heq => hlength (by rw [heq])
    simp [hne]
  · rw [Bool.and_eq_true, Bool.and_eq_true, hsent, beq_iff_eq, hkeys]

/-! ## What keeps the key -/

theorem paramGetByname_setRport {name : CStr} (hname : stricmpEq (str "rport") name = false)
    (port : CStr) (params : List Param) :
    paramGetByname (setRport port params) name = paramGetByname params name := by
  induction params with
  | nil => rfl
  | cons p ps ih =>
    rw [setRport]
    split
    · next hrport =>
      have hother : stricmpEq p.gname name = false := by
        rw [stricmpEq, beq_iff_eq] at hrport
        rw [stricmpEq, hrport]
        exact hname
      simp [paramGetByname, hother]
    · rw [paramGetByname, List.find?_cons, ← paramGetByname, ih, paramGetByname, paramGetByname,
        List.find?_cons]

/-- **The receiver's stamp leaves the key alone.** -/
theorem viaKey_fixLastViaHeader (ip_addr : CStr) (port : Nat) (m : Message) :
    (fixLastViaHeader ip_addr port m).vias.head?.bind viaKey = m.vias.head?.bind viaKey := by
  rw [fixLastViaHeader]
  split
  · split
    · rfl
    · next via vias hvias =>
      split
      · rfl
      · next host hhost =>
        have hbranch : paramGetByname (if host = ip_addr then setRport (toText port) via.via_params
            else setRport (toText port) via.via_params ++
              [{ gname := str "received", gvalue := some ip_addr }]) (str "branch") =
            paramGetByname via.via_params (str "branch") := by
          have hrport : stricmpEq (str "rport") (str "branch") = false := by decide +kernel
          have hreceived : stricmpEq (str "received") (str "branch") = false := by decide +kernel
          split
          · exact paramGetByname_setRport hrport _ _
          · rw [← paramGetByname_setRport hrport (toText port) via.via_params]
            simp [paramGetByname, List.find?_append, hreceived]
        rw [hvias]
        simp only [List.head?_cons, Option.bind_some, viaKey, hbranch]
  · rfl

/-- **The ACK that a client builds has the key of its INVITE.** -/
theorem ictCreateAck_key {orig_request response ack : Message}
    (h : ictCreateAck orig_request response = some ack) :
    ack.vias.head?.bind viaKey = orig_request.vias.head?.bind viaKey := by
  simp only [ictCreateAck, Option.bind_eq_bind, Option.bind_eq_some_iff, Option.some.injEq] at h
  obtain ⟨_, _, _, _, _, _, _, _, _, _, via, ⟨topvia, htopvia, hclone⟩, rfl⟩ := h
  rw [viaClone] at hclone
  split at hclone
  · obtain rfl := Option.some.inj hclone
    rw [htopvia]
    rfl
  · cases hclone

end GB28181.Osip
