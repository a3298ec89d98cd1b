import GB28181.SipCom.RegisterRuns

/-!
# Password change

Against what `OnModifyPassword` checks the digest of a password request.

* `passwordGuarded_iff` — the old password guards the record **exactly where it cannot be told from
  the password of an empty record**, and where both texts decode into their buffer.
-/

set_option autoImplicit false

namespace GB28181.SipCom

open GB28181.Base GB28181.GBUtils

variable (E : Env)

/-- The sender of the request knows the password `pw`: its `nonce1` decodes to the digest of the
nonce and `pw`. -/
def Knows (info : SipObjectPasswd) (pw : CStr) : Prop :=
  decodeE info.nonce1 = .ok (getMd5String E (info.nonce ++ str ":" ++ pw))

instance (info : SipObjectPasswd) (pw : CStr) : Decidable (Knows E info pw) :=
  inferInstanceAs (Decidable (decodeE info.nonce1 = _))

/-- The text decodes into the array of `BASE64Cryptor::Decode`. -/
def Decodes (s : CStr) : Prop := ∃ t, decodeE s = .ok t

/-- The old password guards the record: a request whose sender knows the *stored* password puts
the new one into the record and the configuration file, any other changes neither; nothing is
written behind a buffer. -/
def PasswordGuarded (mgr : SipRegMgr) (ev : Event) (info : SipObjectPasswd) : Prop :=
  ∀ o r, checkMsgHeader ev E.fresh true = .ok (some o) → mgr.stored o.strDeviceID = some r →
    (onModifyPassword E ev info mgr).val ≠ .error .bufferOverflow ∧
    (Knows E info r.strPassWord → ∃ fromInfo, decodeE info.nonce = .ok fromInfo ∧
      (onModifyPassword E ev info mgr).state =
        mgr.setObject E o.strDeviceID (fun r => { r with strPassWord := newPassWord fromInfo }) ∧
      (onModifyPassword E ev info mgr).out =
        [.writeProfile (str "GATEWAY_INFO") (str "Password") (cStr (newPassWord fromInfo))
          mgr.m_strConfigpath]) ∧
    (¬ Knows E info r.strPassWord →
      (onModifyPassword E ev info mgr).state = mgr ∧ (onModifyPassword E ev info mgr).out = [])

theorem decodeE_error {s : CStr} {f : Fault} (h : decodeE s = .error f) : f = .bufferOverflow := by
  unfold decodeE at h
  split at h
  · cases h
  · exact (Except.error.inj h).symm

theorem decodes_of_no_overflow {s : CStr} (h : decodeE s ≠ .error .bufferOverflow) :
    Decodes s := by
  cases hd : decodeE s with
  | ok t => exact ⟨t, hd⟩
  | error f => exact absurd (decodeE_error hd ▸ hd) h

theorem changePassword_overflow {info : SipObjectPasswd} {f : Fault}
    (h : decodeE info.nonce1 = .error f) (id pw : CStr) (mgr : SipRegMgr) :
    changePassword E id pw info mgr = ⟨[], mgr, .error f⟩ := by
  rw [changePassword, h]

theorem changePassword_unknown {info : SipObjectPasswd} {pw : CStr} (hd : Decodes info.nonce1)
    (hk : ¬ Knows E info pw) (id : CStr) (mgr : SipRegMgr) :
    changePassword E id pw info mgr = ⟨[], mgr,
      (packModifyPasswordRet { info with result := str "NGN" }).map fun _ => .value 0⟩ := by
  obtain ⟨nonce1, h1⟩ := hd
  have hne : getMd5String E (info.nonce ++ str ":" ++ pw) ≠ nonce1 := fun e =>
    hk (by rw [Knows, h1, e])
  simp only [changePassword, h1, if_neg hne]

theorem changePassword_nonce_overflow {info : SipObjectPasswd} {pw : CStr} (hk : Knows E info pw)
    {f : Fault} (h2 : decodeE info.nonce = .error f) (id : CStr) (mgr : SipRegMgr) :
    changePassword E id pw info mgr = ⟨[], mgr, .error f⟩ := by
  have h1 : decodeE info.nonce1 = _ := hk
  simp only [changePassword, h1, h2, if_true]

theorem changePassword_knows {info : SipObjectPasswd} {pw : CStr} (hk : Knows E info pw)
    {fromInfo : CStr} (h2 : decodeE info.nonce = .ok fromInfo) (id : CStr) (mgr : SipRegMgr) :
    changePassword E id pw info mgr =
      ⟨[.writeProfile (str "GATEWAY_INFO") (str "Password") (cStr (newPassWord fromInfo))
          mgr.m_strConfigpath],
        mgr.setObject E id (fun r => { r with strPassWord := newPassWord fromInfo }),
        (packModifyPasswordRet { info with result := str "OK" }).map fun _ => .value 1⟩ := by
  have h1 : decodeE info.nonce1 = _ := hk
  simp only [changePassword, h1, h2, if_true]

theorem packModifyPasswordRet_map (info : SipObjectPasswd) (c : RetCode) :
    (packModifyPasswordRet info).map (fun _ => c) ≠ .error .bufferOverflow := by
  unfold packModifyPasswordRet
  dsimp only
  split
  · intro h; cases h
  · intro h; cases h

/-- **The old password.**  It guards the record exactly when `nonce1` decodes, the sender knows
the password of an empty record if and only if it knows the stored one, and in that case the nonce
decodes too. -/
theorem passwordGuarded_iff (mgr : SipRegMgr) (ev : Event) (info : SipObjectPasswd) :
    PasswordGuarded E mgr ev info ↔
      ∀ o r, checkMsgHeader ev E.fresh true = .ok (some o) →
        mgr.stored o.strDeviceID = some r →
        Decodes info.nonce1 ∧
          (Knows E info E.fresh.strPassWord ↔ Knows E info r.strPassWord) ∧
          (Knows E info E.fresh.strPassWord → Decodes info.nonce) := by
  constructor
  · intro h o r ho hs
    obtain ⟨hval, hchange, hkeep⟩ := h o r ho hs
    have hpw := (checkMsgHeader_eq_ok ho).2
    rw [onModifyPassword_stored E ho info hs, hpw] at hval hchange hkeep
    have hd1 : Decodes info.nonce1 := decodes_of_no_overflow fun h1 => by
      rw [changePassword_overflow E h1] at hval
      exact hval rfl
    have hd2 : Knows E info E.fresh.strPassWord → Decodes info.nonce := fun hk =>
      decodes_of_no_overflow fun h2 => by
        rw [changePassword_nonce_overflow E hk h2] at hval
        exact hval rfl
    refine ⟨hd1, ⟨fun hk => ?_, fun hk => ?_⟩, hd2⟩
    · by_contra hr
      obtain ⟨fromInfo, h2⟩ := hd2 hk
      have hout := (hkeep hr).2
      rw [changePassword_knows E hk h2] at hout
      cases hout
    · by_contra hf
      obtain ⟨fromInfo, -, -, hout⟩ := hchange hk
      rw [changePassword_unknown E hd1 hf] at hout
      cases hout
  · intro h o r ho hs
    obtain ⟨hd1, hiff, hd2⟩ := h o r ho hs
    rw [onModifyPassword_stored E ho info hs, (checkMsgHeader_eq_ok ho).2]
    by_cases hk : Knows E info E.fresh.strPassWord
    · obtain ⟨fromInfo, h2⟩ := hd2 hk
      rw [changePassword_knows E hk h2]
      refine ⟨?_, fun _ => ⟨fromInfo, h2, rfl, rfl⟩, fun hr => absurd (hiff.mp hk) hr⟩
      dsimp only
      apply packModifyPasswordRet_map
    · rw [changePassword_unknown E hd1 hk]
      refine ⟨?_, fun hr => absurd (hiff.mpr hr) hk, fun _ => ⟨rfl, rfl⟩⟩
      dsimp only
      apply packModifyPasswordRet_map

/-- A request for the password `new` whose digest was computed with an empty old password. -/
def emptyPasswordRequest : SipObjectPasswd where
  cmdType := str "DeviceControl"
  sn := str "17"
  deviceId := str "34020000001320000001"
  nonce := str "eDpuZXc="
  nonce1 := str "MDkwOTA5MDkwOTA5MDkwOTA5MDkwOTA5MDkwOTA5MDk="
  algorithm := str "MD5"
  result := []

/-- It replaces the password `12345678`. -/
theorem empty_password_accepted :
    ¬ PasswordGuarded lengthEnv (oneObject openObject) (openRegister (str "3600"))
      emptyPasswordRequest := by
  intro h
  obtain ⟨-, -, hkeep⟩ := h
    { emptyObject with
      strDeviceID := openObject.strDeviceID, strIP := str "10.0.0.1", nPort := 5060 }
    openObject (by decide) (by decide)
  have hout := (hkeep (by decide)).2
  revert hout
  decide

end GB28181.SipCom
