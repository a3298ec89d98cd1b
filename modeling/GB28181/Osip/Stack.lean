import GB28181.Base.KeyedList
import GB28181.Osip.Ist
import GB28181.Osip.Matching
import GB28181.Osip.Nict

/-!
# The server transactions of a stack

From `osip.c`, `osip_transaction.c` and the receiving side of eXosip in `udp.c` and `jcallback.c`.

* `Stack` — `osip_t`: the lists of server transactions and the number of the next one;
* `addWhere`, `findTransactionAndAddEvent` — `osip_transaction_find` and
  `osip_find_transaction_and_add_event` for a request that came in;
* `processNewrequest`, `handleIncomingMessage` — `_eXosip_process_newrequest` and
  `_eXosip_handle_incoming_message` for a request;
* `removeTransaction` — `osip_remove_transaction`, which the callback for a kill calls;
* `Use`, `Input`, `Stack.step`, `Stack.run` — what is done to one transaction, and to the stack;
* `transactionKey` — the method and the Via key of a transaction, for the methods that its list is
  searched for;
* `nistFsm_headers`, `istFsm_headers` — no event changes the headers of a transaction;
* `Stack.Keyed` — the keys of a stack differ; `keyed_step`, `keyed_run`;
* `addWhere_only` — the search ends at the transaction with the key.

Principal result: `stack_dispatches` — in every run no two transactions have one key, and what has
the key of a transaction reaches it: a request that is sent again, and the ACK of an INVITE.
-/

set_option autoImplicit false

namespace GB28181.Osip

open GB28181.Base

/-! ## The stack -/

/-- `osip_t`. -/
structure Stack where
  osip_ist_transactions : List IstTransaction := []
  osip_nist_transactions : List NistTransaction := []
  transactionid : Nat := 1

/-- What is done to a transaction that the stack holds. -/
inductive Use where
  /-- Its user sends a response. -/
  | respond (sip : Message)
  /-- Its timers are looked at. -/
  | timers (clock : Nat → Int)
  /-- The next event of its queue is executed. -/
  | execute (env : Env)
  /-- Its user gives it up: `osip_transaction_free`. -/
  | free

inductive Input where
  /-- A request arrives from an address. -/
  | arrive (ip_addr : CStr) (port : Nat) (sip : Message)
  | ist (i : Nat) (use : Use)
  | nist (i : Nat) (use : Use)

def Output.isKill : Output → Bool
  | .kill _ => true
  | _ => false

section Transactions

variable {κ σ : Type}

/-- `osip_transaction_find` and `osip_transaction_add_event`: the first transaction that the message
belongs to gets it; `none` where there is none. -/
def addWhere (belongs : Transaction κ σ → Bool) (evt : Event) :
    List (Transaction κ σ) → Option (List (Transaction κ σ))
  | [] => none
  | tr :: transactions =>
    if belongs tr then some (tr.addEvent evt :: transactions)
    else (addWhere belongs evt transactions).map (tr :: ·)

/-- `osip_remove_transaction`: the first of its list with the number. -/
def removeTransaction (transactionid : Nat) (transactions : List (Transaction κ σ)) :
    List (Transaction κ σ) :=
  transactions.eraseP (·.transactionid == transactionid)

/-- `_eXosip_transaction_init` and `osip_transaction_add_event`: a transaction that could be made is
the last of its list. -/
def addTransaction (pre : σ) (contextInit : Message → Option κ) (transactionid : Nat)
    (sip : Message) (transactions : List (Transaction κ σ)) : List (Transaction κ σ) :=
  match transactionInit pre contextInit transactionid sip with
  | some tr => transactions ++ [tr.addEvent (.incoming sip)]
  | none => transactions

/-- What is done to the transaction at a place of its list; a kill removes it. -/
def useTransaction [DecidableEq σ] (fsm : Machine κ σ) (transactions : List (Transaction κ σ))
    (i : Nat) (use : Use) : List (Transaction κ σ) × List Output :=
  match transactions[i]? with
  | none => (transactions, [])
  | some tr =>
    match use with
    | .respond sip => (transactions.set i (tr.addEvent (.outgoing sip)), [])
    | .timers clock => (transactions.set i (timersExecute fsm clock tr), [])
    | .execute env =>
      let (tr, os) := executeNext fsm env tr
      let transactions := transactions.set i tr
      if os.any Output.isKill then (removeTransaction tr.transactionid transactions, os)
      else (transactions, os)
    | .free => (removeTransaction tr.transactionid transactions, [])

end Transactions

/-- `osip_find_transaction_and_add_event` for a request that came in; `none` where no transaction
was found. -/
def findTransactionAndAddEvent (osip : Stack) (sip : Message) : Option Stack :=
  match sip.cseq with
  | none => none
  | some cseq =>
    if cseq.method = str "INVITE" ∨ cseq.method = str "ACK" then
      (addWhere (matchingRequest · sip) (.incoming sip) osip.osip_ist_transactions).map
        fun transactions => { osip with osip_ist_transactions := transactions }
    else
      (addWhere (matchingRequest · sip) (.incoming sip) osip.osip_nist_transactions).map
        fun transactions => { osip with osip_nist_transactions := transactions }

/-- `_eXosip_process_newrequest`.  The method decides on the kind of the transaction, and an ACK
makes none; the number is taken when there is a Call-ID. -/
def processNewrequest (osip : Stack) (sip : Message) : Stack :=
  let transactionid := osip.transactionid
  let next := if sip.call_id.isSome then transactionid + 1 else transactionid
  if sip.isInvite then
    { osip with
      osip_ist_transactions :=
        addTransaction .preProceeding istInit transactionid sip osip.osip_ist_transactions
      transactionid := next }
  else if sip.isAck then osip
  else
    { osip with
      osip_nist_transactions :=
        addTransaction .preTrying nistInit transactionid sip osip.osip_nist_transactions
      transactionid := next }

/-- `_eXosip_handle_incoming_message` for a request, which must have a method and a request-URI. -/
def handleIncomingMessage (osip : Stack) (ip_addr : CStr) (port : Nat) (sip : Message) : Stack :=
  if sip.isRequest && sip.sip_method.isSome && sip.req_uri.isSome then
    let sip := fixLastViaHeader ip_addr port sip
    (findTransactionAndAddEvent osip sip).getD (processNewrequest osip sip)
  else osip

def Stack.step (osip : Stack) : Input → Stack × List Output
  | .arrive ip_addr port sip => (handleIncomingMessage osip ip_addr port sip, [])
  | .ist i use =>
    let (transactions, os) := useTransaction istFsm osip.osip_ist_transactions i use
    ({ osip with osip_ist_transactions := transactions }, os)
  | .nist i use =>
    let (transactions, os) := useTransaction nistFsm osip.osip_nist_transactions i use
    ({ osip with osip_nist_transactions := transactions }, os)

/-- The runs of a stack from its beginning, with what its transactions do. -/
def Stack.run (inputs : List Input) : Stack × List Output := runLog Stack.step {} inputs

/-- The methods for which the list of INVITE transactions is searched and one is made. -/
def istMethod (method : CStr) : Bool := method == str "INVITE"

/-- The methods for which the other list is. -/
def nistMethod (method : CStr) : Bool := method != str "INVITE" && method != str "ACK"

/-- The key of a transaction for the methods that its list is searched for. -/
def transactionKey {κ σ : Type} (searched : CStr → Bool) (t : Transaction κ σ) :
    Option (CStr × ViaKey) :=
  if searched t.cseq.method then (viaKey t.topvia).map (t.cseq.method, ·) else none

theorem transactionKey_eq_some {κ σ : Type} {searched : CStr → Bool} {t : Transaction κ σ}
    {k : CStr × ViaKey} (h : transactionKey searched t = some k) :
    searched k.1 = true ∧ t.cseq.method = k.1 ∧ viaKey t.topvia = some k.2 := by
  rw [transactionKey] at h
  split at h
  · next hsearched =>
    obtain ⟨vk, hvk, rfl⟩ := Option.map_eq_some_iff.mp h
    exact ⟨hsearched, rfl, hvk⟩
  · exact nomatch h

/-! ## Headers -/

/-- The top Via and the CSeq of a transaction stay. -/
def SameHeaders {κ σ : Type} (t t' : Transaction κ σ) : Prop :=
  t'.topvia = t.topvia ∧ t'.cseq = t.cseq

theorem SameHeaders.key {κ σ : Type} {t t' : Transaction κ σ} (h : SameHeaders t t')
    (searched : CStr → Bool) : transactionKey searched t' = transactionKey searched t := by
  rw [transactionKey, transactionKey, h.1, h.2]

theorem nistFsm_headers (env : Env) (t : NistTransaction) (evt : Event) :
    SameHeaders t (transactionExecute nistFsm env t evt).1 := by
  refine nist_rule (P := fun _ t _ r => SameHeaders t r.1) (fun _ _ _ => ⟨rfl, rfl⟩) ?_ ?_ ?_
    (fun _ _ _ => ⟨rfl, rfl⟩) env t evt
  · intro env t sip _ _ _
    rw [nistRcvRequest]
    dsimp only
    split
    · exact ⟨rfl, rfl⟩
    · split
      · exact ⟨rfl, rfl⟩
      · split <;> exact ⟨rfl, rfl⟩
  · intro env t sip _ _ _
    rw [nistSnd1xx]
    dsimp only
    split <;> exact ⟨rfl, rfl⟩
  · intro env t sip _ _ _
    rw [nistSnd23456xx]
    dsimp only
    split <;> exact ⟨rfl, rfl⟩

theorem istFsm_headers (env : Env) (t : IstTransaction) (evt : Event) :
    SameHeaders t (transactionExecute istFsm env t evt).1 := by
  refine ist_rule (P := fun _ t _ r => SameHeaders t r.1) (fun _ _ _ => ⟨rfl, rfl⟩) ?_ ?_
    (fun _ _ _ => ⟨rfl, rfl⟩) ?_ ?_ ?_ (fun _ _ _ _ _ => ⟨rfl, rfl⟩) (fun _ _ _ => ⟨rfl, rfl⟩)
    env t evt
  · intro env t sip _ _ _
    rw [istRcvInvite]
    dsimp only
    split
    · exact ⟨rfl, rfl⟩
    · split
      · exact ⟨rfl, rfl⟩
      · split <;> exact ⟨rfl, rfl⟩
  · intro env t _
    rw [istTimeoutG]
    dsimp only
    split
    · exact ⟨rfl, rfl⟩
    · split <;> exact ⟨rfl, rfl⟩
  · intro env t sip _ _ _
    rw [istSnd1xx]
    dsimp only
    split <;> exact ⟨rfl, rfl⟩
  · intro env t sip _ _ _
    rw [istSnd2xx]
    dsimp only
    split <;> exact ⟨rfl, rfl⟩
  · intro env t sip _ _ _
    rw [istSnd3456xx]
    dsimp only
    split <;> exact ⟨rfl, rfl⟩

/-! ## Lists of transactions -/

section Lists

variable {κ σ : Type} {searched : CStr → Bool} {transactions : List (Transaction κ σ)}

theorem useTransaction_keys [DecidableEq σ] {fsm : Machine κ σ}
    (hheaders : ∀ env t evt, SameHeaders t (transactionExecute fsm env t evt).1)
    (h : KeysDiffer (transactionKey searched) transactions) (i : Nat) (use : Use) :
    KeysDiffer (transactionKey searched) (useTransaction fsm transactions i use).1 := by
  have hset : ∀ t t', transactions[i]? = some t → SameHeaders t t' →
      KeysDiffer (transactionKey searched) (transactions.set i t') := fun t t' hat hsame =>
    (keysDiffer_congr (map_set_of_key hat (hsame.key searched))).mpr h
  rw [useTransaction]
  cases hat : transactions[i]? with
  | none => exact h
  | some t =>
    cases use with
    | respond sip => exact hset t _ hat ⟨rfl, rfl⟩
    | timers clock =>
      refine hset t _ hat ?_
      rw [timersExecute]
      split <;> exact ⟨rfl, rfl⟩
    | free => exact h.sublist List.eraseP_sublist
    | execute env =>
      have hnext : SameHeaders t (executeNext fsm env t).1 := by
        rw [executeNext]
        split
        · exact ⟨rfl, rfl⟩
        · exact hheaders env _ _
      dsimp only
      split
      · exact (hset t _ hat hnext).sublist List.eraseP_sublist
      · exact hset t _ hat hnext

variable {belongs : Transaction κ σ → Bool} {evt : Event}

theorem addWhere_eq_none (h : addWhere belongs evt transactions = none) :
    ∀ t ∈ transactions, belongs t = false := by
  induction transactions with
  | nil => simp
  | cons t ts ih =>
    rw [addWhere] at h
    split at h
    · exact nomatch h
    · next hnot =>
      exact List.forall_mem_cons.mpr ⟨by simpa using hnot, ih (Option.map_eq_none_iff.mp h)⟩

theorem addWhere_keys {transactions' : List (Transaction κ σ)}
    (h : addWhere belongs evt transactions = some transactions') :
    transactions'.map (transactionKey searched) = transactions.map (transactionKey searched) := by
  induction transactions generalizing transactions' with
  | nil => exact nomatch h
  | cons t ts ih =>
    rw [addWhere] at h
    split at h
    · obtain rfl := Option.some.inj h
      rfl
    · obtain ⟨ts', hts', rfl⟩ := Option.map_eq_some_iff.mp h
      rw [List.map_cons, List.map_cons, ih hts']

theorem addWhere_split {pres posts : List (Transaction κ σ)} {t : Transaction κ σ}
    (hpres : ∀ d ∈ pres, belongs d = false) (ht : belongs t = true) :
    addWhere belongs evt (pres ++ t :: posts) = some (pres ++ t.addEvent evt :: posts) := by
  induction pres with
  | nil => simp [addWhere, ht]
  | cons d pres ih =>
    obtain ⟨hd, hpres⟩ := List.forall_mem_cons.mp hpres
    simp [addWhere, hd, ih hpres]

theorem transactionInit_headers {pre : σ} {contextInit : Message → Option κ} {transactionid : Nat}
    {sip : Message} {t : Transaction κ σ}
    (h : transactionInit pre contextInit transactionid sip = some t) :
    sip.cseq = some t.cseq ∧ sip.vias.head? = some t.topvia := by
  simp only [transactionInit, Option.bind_eq_bind, Option.bind_eq_some_iff,
    Option.some.injEq] at h
  obtain ⟨_, _, topvia, ⟨via, hvia, hclone⟩, _, _, _, _, cseq, hcseq, _, _, rfl⟩ := h
  rw [viaClone] at hclone
  split at hclone
  · obtain rfl := Option.some.inj hclone
    exact ⟨hcseq, hvia⟩
  · cases hclone

theorem matchingRequest_of_key {t : Transaction κ σ} {sip : Message} {via : Via} {cseq : CSeq}
    {vk : ViaKey} (ht : viaKey t.topvia = some vk) (hvia : sip.vias.head? = some via)
    (hvk : viaKey via = some vk) (hcseq : sip.cseq = some cseq)
    (hmethod : t.cseq.method = cseq.method ∨
      t.cseq.method = str "INVITE" ∧ cseq.method = str "ACK") :
    matchingRequest t sip = true := by
  rw [matchingRequest_iff ht hvia hvk hcseq]
  refine ⟨rfl, ?_⟩
  rcases hmethod with h | ⟨h, h'⟩
  · simp [methodMatch, h]
  · simp [methodMatch, h, h']

/-- The transaction that a request makes has a key that no other one has, where the list was
searched for it in vain. -/
theorem addTransaction_keys {pre : σ} {contextInit : Message → Option κ} {transactionid : Nat}
    {sip : Message} (h : KeysDiffer (transactionKey searched) transactions)
    (hvain : ∀ cseq, sip.cseq = some cseq → searched cseq.method = true →
      ∀ t ∈ transactions, matchingRequest t sip = false) :
    KeysDiffer (transactionKey searched)
      (addTransaction pre contextInit transactionid sip transactions) := by
  rw [addTransaction]
  cases hinit : transactionInit pre contextInit transactionid sip with
  | none => exact h
  | some t =>
    obtain ⟨hcseq, hvia⟩ := transactionInit_headers hinit
    refine h.concat fun k hk d hd hdk => ?_
    obtain ⟨hsearched, hmethod, hvk⟩ := transactionKey_eq_some hk
    obtain ⟨-, hdmethod, hdvk⟩ := transactionKey_eq_some hdk
    have hnone := hvain t.cseq hcseq (hmethod ▸ hsearched) d hd
    rw [matchingRequest_of_key hdvk hvia hvk hcseq (.inl (hdmethod.trans hmethod.symm))] at hnone
    exact nomatch hnone

end Lists

/-! ## Every run -/

/-- No two transactions of a stack have one key. -/
structure Stack.Keyed (osip : Stack) : Prop where
  ist : KeysDiffer (transactionKey istMethod) osip.osip_ist_transactions
  nist : KeysDiffer (transactionKey nistMethod) osip.osip_nist_transactions

theorem found_keyed {osip osip' : Stack} {sip : Message} (h : osip.Keyed)
    (hfind : findTransactionAndAddEvent osip sip = some osip') : osip'.Keyed := by
  rw [findTransactionAndAddEvent] at hfind
  split at hfind
  · exact nomatch hfind
  · split at hfind
    · obtain ⟨transactions, hadd, rfl⟩ := Option.map_eq_some_iff.mp hfind
      exact ⟨(keysDiffer_congr (addWhere_keys hadd)).mpr h.ist, h.nist⟩
    · obtain ⟨transactions, hadd, rfl⟩ := Option.map_eq_some_iff.mp hfind
      exact ⟨h.ist, (keysDiffer_congr (addWhere_keys hadd)).mpr h.nist⟩

theorem newrequest_keyed {osip : Stack} {sip : Message} (h : osip.Keyed)
    (hfind : findTransactionAndAddEvent osip sip = none) : (processNewrequest osip sip).Keyed := by
  rw [processNewrequest]
  split
  · refine ⟨addTransaction_keys h.ist fun cseq hcseq hmethod => ?_, h.nist⟩
    have hinvite : cseq.method = str "INVITE" := by simpa [istMethod] using hmethod
    rw [findTransactionAndAddEvent, hcseq] at hfind
    dsimp only at hfind
    rw [if_pos (.inl hinvite)] at hfind
    exact addWhere_eq_none (Option.map_eq_none_iff.mp hfind)
  · split
    · exact h
    · refine ⟨h.ist, addTransaction_keys h.nist fun cseq hcseq hmethod => ?_⟩
      have hother : ¬ (cseq.method = str "INVITE" ∨ cseq.method = str "ACK") := by
        simpa [nistMethod] using hmethod
      rw [findTransactionAndAddEvent, hcseq] at hfind
      dsimp only at hfind
      rw [if_neg hother] at hfind
      exact addWhere_eq_none (Option.map_eq_none_iff.mp hfind)

theorem keyed_step (osip : Stack) (input : Input) (h : osip.Keyed) :
    (osip.step input).1.Keyed := by
  cases input with
  | ist i use => exact ⟨useTransaction_keys istFsm_headers h.ist i use, h.nist⟩
  | nist i use => exact ⟨h.ist, useTransaction_keys nistFsm_headers h.nist i use⟩
  | arrive ip_addr port sip =>
    rw [Stack.step, handleIncomingMessage]
    dsimp only
    split
    · cases hfind : findTransactionAndAddEvent osip (fixLastViaHeader ip_addr port sip) with
      | some osip' => exact found_keyed h hfind
      | none => exact newrequest_keyed h hfind
    · exact h

theorem keyed_run (inputs : List Input) : (Stack.run inputs).1.Keyed :=
  @runLog_rule _ _ _ Stack.step (fun osip _ => osip.Keyed)
    (fun osip input _ h => keyed_step osip input h) {} [] ⟨.nil, .nil⟩ inputs

/-! ## What reaches a transaction -/

/-- What `_eXosip_handle_incoming_message` asks of a request. -/
def Proper (sip : Message) : Prop :=
  sip.isRequest = true ∧ sip.sip_method.isSome = true ∧ sip.req_uri.isSome = true

/-- What the users of a stack can rely on. -/
structure Dispatches (osip : Stack) : Prop where
  /-- No two transactions have one key. -/
  keyed : osip.Keyed
  /-- An INVITE or an ACK reaches the transaction with its key and makes none, unless it belongs to
  one before it that has no key. -/
  invite : ∀ pres t posts k, osip.osip_ist_transactions = pres ++ t :: posts →
    transactionKey istMethod t = some k →
    ∀ ip_addr port sip cseq, Proper sip → sip.vias.head?.bind viaKey = some k.2 →
    sip.cseq = some cseq → cseq.method = str "INVITE" ∨ cseq.method = str "ACK" →
    (∀ d ∈ pres, transactionKey istMethod d = none →
      matchingRequest d (fixLastViaHeader ip_addr port sip) = false) →
    handleIncomingMessage osip ip_addr port sip =
      { osip with
        osip_ist_transactions :=
          pres ++ t.addEvent (.incoming (fixLastViaHeader ip_addr port sip)) :: posts }
  /-- The ACK that a client builds for the refusal of its INVITE does, too. -/
  ack : ∀ pres t posts k, osip.osip_ist_transactions = pres ++ t :: posts →
    transactionKey istMethod t = some k →
    ∀ ip_addr port orig_request response ack,
    orig_request.vias.head?.bind viaKey = some k.2 →
    ictCreateAck orig_request response = some ack →
    (∀ d ∈ pres, transactionKey istMethod d = none →
      matchingRequest d (fixLastViaHeader ip_addr port ack) = false) →
    handleIncomingMessage osip ip_addr port ack =
      { osip with
        osip_ist_transactions :=
          pres ++ t.addEvent (.incoming (fixLastViaHeader ip_addr port ack)) :: posts }
  /-- So does another request with its method. -/
  request : ∀ pres t posts k, osip.osip_nist_transactions = pres ++ t :: posts →
    transactionKey nistMethod t = some k →
    ∀ ip_addr port sip cseq, Proper sip → sip.vias.head?.bind viaKey = some k.2 →
    sip.cseq = some cseq → cseq.method = k.1 →
    (∀ d ∈ pres, transactionKey nistMethod d = none →
      matchingRequest d (fixLastViaHeader ip_addr port sip) = false) →
    handleIncomingMessage osip ip_addr port sip =
      { osip with
        osip_nist_transactions :=
          pres ++ t.addEvent (.incoming (fixLastViaHeader ip_addr port sip)) :: posts }

@[simp] theorem fixLastViaHeader_cseq (ip_addr : CStr) (port : Nat) (m : Message) :
    (fixLastViaHeader ip_addr port m).cseq = m.cseq := by
  obtain ⟨vias, h⟩ := fixLastViaHeader_request ip_addr port m
  rw [h]

/-- The transaction with the key of a request is the only one with a key that it belongs to. -/
theorem addWhere_only {κ σ : Type} {searched : CStr → Bool} {pres posts : List (Transaction κ σ)}
    {t : Transaction κ σ} {k : CStr × ViaKey} {sip : Message} {cseq : CSeq}
    (hkeys : KeysDiffer (transactionKey searched) (pres ++ t :: posts))
    (ht : transactionKey searched t = some k) (hvia : sip.vias.head?.bind viaKey = some k.2)
    (hcseq : sip.cseq = some cseq)
    (hmethod : k.1 = cseq.method ∨ k.1 = str "INVITE" ∧ cseq.method = str "ACK")
    (hsame : ∀ d : CSeq, searched d.method = true → methodMatch d cseq = true → d.method = k.1)
    (hpres : ∀ d ∈ pres, transactionKey searched d = none → matchingRequest d sip = false)
    (evt : Event) :
    addWhere (matchingRequest · sip) evt (pres ++ t :: posts) =
      some (pres ++ t.addEvent evt :: posts) := by
  obtain ⟨via, htopvia, hvk⟩ := Option.bind_eq_some_iff.mp hvia
  obtain ⟨-, htmethod, htvk⟩ := transactionKey_eq_some ht
  refine addWhere_split (fun d hd => ?_)
    (matchingRequest_of_key htvk htopvia hvk hcseq (htmethod ▸ hmethod))
  cases hdkey : transactionKey searched d with
  | none => exact hpres d hd hdkey
  | some k' =>
    obtain ⟨hsearched, hdmethod, hdvk⟩ := transactionKey_eq_some hdkey
    by_contra hbelongs
    rw [Bool.not_eq_false, matchingRequest_iff hdvk htopvia hvk hcseq] at hbelongs
    obtain ⟨hvia', hdmatch⟩ := hbelongs
    have hk' : k' = k :=
      Prod.ext (hdmethod ▸ hsame d.cseq (hdmethod ▸ hsearched) hdmatch) hvia'
    exact hkeys.ne hd ht (hk' ▸ hdkey)

theorem Stack.Keyed.invite {osip : Stack} (h : osip.Keyed) {pres posts : List IstTransaction}
    {t : IstTransaction} {k : CStr × ViaKey}
    (hlist : osip.osip_ist_transactions = pres ++ t :: posts)
    (ht : transactionKey istMethod t = some k) {ip_addr : CStr} {port : Nat} {sip : Message}
    {cseq : CSeq} (hproper : Proper sip) (hvia : sip.vias.head?.bind viaKey = some k.2)
    (hcseq : sip.cseq = some cseq)
    (hmethod : cseq.method = str "INVITE" ∨ cseq.method = str "ACK")
    (hpres : ∀ d ∈ pres, transactionKey istMethod d = none →
      matchingRequest d (fixLastViaHeader ip_addr port sip) = false) :
    handleIncomingMessage osip ip_addr port sip =
      { osip with
        osip_ist_transactions :=
          pres ++ t.addEvent (.incoming (fixLastViaHeader ip_addr port sip)) :: posts } := by
  have hinvite : k.1 = str "INVITE" := by
    simpa [istMethod] using (transactionKey_eq_some ht).1
  have hadd := addWhere_only (hlist ▸ h.ist) ht (by rwa [viaKey_fixLastViaHeader])
    (by rwa [fixLastViaHeader_cseq])
    (hmethod.imp (fun hm => hinvite.trans hm.symm) (fun hm => ⟨hinvite, hm⟩))
    (fun d hd _ => by
      rw [hinvite]
      simpa [istMethod] using hd) hpres (.incoming (fixLastViaHeader ip_addr port sip))
  obtain ⟨hr, hsip, huri⟩ := hproper
  rw [handleIncomingMessage, if_pos (by simp [hr, hsip, huri])]
  dsimp only
  rw [findTransactionAndAddEvent, fixLastViaHeader_cseq, hcseq, hlist]
  dsimp only
  rw [if_pos hmethod, hadd, Option.map_some, Option.getD_some]

theorem Stack.Keyed.request {osip : Stack} (h : osip.Keyed) {pres posts : List NistTransaction}
    {t : NistTransaction} {k : CStr × ViaKey}
    (hlist : osip.osip_nist_transactions = pres ++ t :: posts)
    (ht : transactionKey nistMethod t = some k) {ip_addr : CStr} {port : Nat} {sip : Message}
    {cseq : CSeq} (hproper : Proper sip) (hvia : sip.vias.head?.bind viaKey = some k.2)
    (hcseq : sip.cseq = some cseq) (hmethod : cseq.method = k.1)
    (hpres : ∀ d ∈ pres, transactionKey nistMethod d = none →
      matchingRequest d (fixLastViaHeader ip_addr port sip) = false) :
    handleIncomingMessage osip ip_addr port sip =
      { osip with
        osip_nist_transactions :=
          pres ++ t.addEvent (.incoming (fixLastViaHeader ip_addr port sip)) :: posts } := by
  have hother : ¬ (cseq.method = str "INVITE" ∨ cseq.method = str "ACK") := by
    simpa [nistMethod, hmethod] using (transactionKey_eq_some ht).1
  have hadd := addWhere_only (hlist ▸ h.nist) ht (by rwa [viaKey_fixLastViaHeader])
    (by rwa [fixLastViaHeader_cseq]) (.inl hmethod.symm)
    (fun d hd hmatch => by
      rw [← hmethod]
      simp only [nistMethod, Bool.and_eq_true, bne_iff_ne, ne_eq] at hd
      simpa [methodMatch, hd.1] using hmatch) hpres
    (.incoming (fixLastViaHeader ip_addr port sip))
  obtain ⟨hr, hsip, huri⟩ := hproper
  rw [handleIncomingMessage, if_pos (by simp [hr, hsip, huri])]
  dsimp only
  rw [findTransactionAndAddEvent, fixLastViaHeader_cseq, hcseq, hlist]
  dsimp only
  rw [if_neg hother, hadd, Option.map_some, Option.getD_some]

theorem ictCreateAck_proper {orig_request response ack : Message}
    (h : ictCreateAck orig_request response = some ack) :
    Proper ack ∧ ∃ cseq, ack.cseq = some cseq ∧ cseq.method = str "ACK" := by
  simp only [ictCreateAck, Option.bind_eq_bind, Option.bind_eq_some_iff, Option.some.injEq] at h
  obtain ⟨_, _, _, _, _, _, cseq, _, _, _, _, _, rfl⟩ := h
  exact ⟨⟨rfl, rfl, rfl⟩, _, rfl, rfl⟩

/-- **A stack has one transaction for a request and finds it.**  In every run, whatever arrives from
wherever, whatever its users do and whatever the clocks and sending come to. -/
theorem stack_dispatches (inputs : List Input) : Dispatches (Stack.run inputs).1 where
  keyed := keyed_run inputs
  invite := fun _ _ _ _ hlist ht _ _ _ _ hproper hvia hcseq hmethod hpres =>
    (keyed_run inputs).invite hlist ht hproper hvia hcseq hmethod hpres
  ack := fun _ _ _ _ hlist ht _ _ _ _ _ hvia hack hpres => by
    obtain ⟨hproper, cseq, hcseq, hmethod⟩ := ictCreateAck_proper hack
    exact (keyed_run inputs).invite hlist ht hproper ((ictCreateAck_key hack).trans hvia) hcseq
      (.inr hmethod) hpres
  request := fun _ _ _ _ hlist ht _ _ _ _ hproper hvia hcseq hmethod hpres =>
    (keyed_run inputs).request hlist ht hproper hvia hcseq hmethod hpres

/-- A keepalive that arrives again, from another address, reaches the transaction it made. -/
theorem stack_dispatches_keepalive :
    (Stack.run [.arrive (str "10.0.0.2") 5060 keepalive, .nist 0 (.execute ⟨0, 0, 0⟩),
      .arrive (str "10.0.0.3") 5061 keepalive]).1.osip_nist_transactions.length = 1 := by
  let osip := (Stack.run
    [.arrive (str "10.0.0.2") 5060 keepalive, .nist 0 (.execute ⟨0, 0, 0⟩)]).1
  obtain ⟨t, hlist⟩ : ∃ t, osip.osip_nist_transactions = [t] :=
    List.length_eq_one_iff.mp (by decide +kernel)
  have hkey : osip.osip_nist_transactions.head?.bind (transactionKey nistMethod) =
      (keepalive.vias.head?.bind viaKey).map (str "MESSAGE", ·) := by decide +kernel
  obtain ⟨vk, hvia⟩ : ∃ vk, keepalive.vias.head?.bind viaKey = some vk :=
    Option.isSome_iff_exists.mp (by decide +kernel)
  rw [hlist, hvia] at hkey
  have hproper : Proper keepalive := ⟨rfl, rfl, rfl⟩
  have hagain := (stack_dispatches _).request [] t [] (str "MESSAGE", vk) hlist hkey
    (str "10.0.0.3") 5061 keepalive _ hproper hvia rfl rfl (by simp)
  have hrun : (Stack.run [.arrive (str "10.0.0.2") 5060 keepalive, .nist 0 (.execute ⟨0, 0, 0⟩),
      .arrive (str "10.0.0.3") 5061 keepalive]).1 =
      handleIncomingMessage osip (str "10.0.0.3") 5061 keepalive := rfl
  rw [hrun, hagain]
  rfl

end GB28181.Osip
