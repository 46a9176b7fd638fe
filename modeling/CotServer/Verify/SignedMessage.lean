import CotServer.Model.Signature

/-!
# What a signature on a recharge request fixes

The signed text determines the chain name, the address and the printed timestamp
(`encode_eq_iff`), whatever characters the fields contain. It says nothing about the asset type,
and the expiry check reads the timestamp beside the signature and not the signed one; the two main
results say exactly for which messages this is harmless.
-/

namespace CotServer

variable (numberToString : Rat → JsString)

/-- The signed text determines three of the four fields of the message. -/
theorem encode_eq_iff {m m' : RechargeV2ToTrInfoData} :
    encodeRechargeV2ToTrInfoData numberToString m =
        encodeRechargeV2ToTrInfoData numberToString m' ↔
      m.chainName = m'.chainName ∧ m.address = m'.address ∧
        numberToString m.timestamp = numberToString m'.timestamp := by
  constructor
  · intro h
    simp only [encodeRechargeV2ToTrInfoData, List.append_assoc, List.append_cancel_left_eq] at h
    obtain ⟨hchain, h⟩ := JsString.quote_append_inj h
    rw [List.append_cancel_left_eq] at h
    obtain ⟨haddress, h⟩ := JsString.quote_append_inj h
    rw [List.append_cancel_left_eq] at h
    exact ⟨hchain, haddress, List.append_cancel_right h⟩
  · rintro ⟨hchain, haddress, htime⟩
    simp only [encodeRechargeV2ToTrInfoData, hchain, haddress, htime]

/-- The signed text fixes the target of a recharge for exactly those pairs of messages that do not
differ in the asset type alone. -/
theorem encode_determines_target_iff (m m' : RechargeV2ToTrInfoData) :
    (encodeRechargeV2ToTrInfoData numberToString m =
        encodeRechargeV2ToTrInfoData numberToString m' → m.target = m'.target) ↔
      ¬ (m.chainName = m'.chainName ∧ m.address = m'.address ∧
        numberToString m.timestamp = numberToString m'.timestamp ∧
        m.assetType ≠ m'.assetType) := by
  rw [encode_eq_iff]
  constructor
  · rintro h ⟨hchain, haddress, htime, hasset⟩
    exact hasset (congrArg RechargeTarget.rechargeAssetType (h ⟨hchain, haddress, htime⟩))
  · rintro h ⟨hchain, haddress, htime⟩
    have hasset : m.assetType = m'.assetType := by
      by_contra hne
      exact h ⟨hchain, haddress, htime, hne⟩
    simp only [RechargeV2ToTrInfoData.target, hchain, haddress, hasset]

/-- One signature serves for USDT and for any other asset type of the chain. -/
theorem encode_does_not_determine_target :
    ¬ ∀ (numberToString : Rat → JsString) (m m' : RechargeV2ToTrInfoData),
      encodeRechargeV2ToTrInfoData numberToString m =
        encodeRechargeV2ToTrInfoData numberToString m' → m.target = m'.target := by
  intro h
  have htarget := h (fun _ => js "1700000000000")
    ⟨js "BIWMETA", js "bAddress", js "USDT", 1700000000000⟩
    ⟨js "BIWMETA", js "bAddress", js "BTRX", 1700000000000⟩ rfl
  exact absurd (congrArg RechargeTarget.rechargeAssetType htarget) (by decide)

/-! ## Expiry -/

/-- The message carries a valid signature by the key of its address. -/
def SignatureValid (util : BfmetaSignUtil) (m : RechargeV2ToTrInfoData)
    (signature publicKey : JsString) : Prop :=
  util.isBCFAddress m.address = .ok true ∧
  util.detachedVeriy (Buffer.ofString (encodeRechargeV2ToTrInfoData numberToString m))
    (Buffer.ofHex signature) (Buffer.ofHex publicKey) = .ok true ∧
  util.getAddressFromPublicKeyString publicKey = .ok m.address

/-- The request passes the checks at the server time `now`. -/
def Accepted (util : BfmetaSignUtil) (now : Int) (m : RechargeV2ToTrInfoData)
    (info : SignatureInfo) : Prop :=
  rechargeV2Checks util numberToString now m info = .ok true

variable {numberToString}

theorem verifySignature_ok_iff {util : BfmetaSignUtil} {now : Int} {info : SignatureInfo}
    {data address : JsString} :
    verifySignature util now info data address = .ok true ↔
      util.detachedVeriy (Buffer.ofString data) (Buffer.ofHex info.signature)
        (Buffer.ofHex info.publicKey) = .ok true ∧
      util.getAddressFromPublicKeyString info.publicKey = .ok address ∧
      now - info.timestamp < VERIFY_EXPIRE_TIME := by
  unfold verifySignature
  cases util.detachedVeriy (Buffer.ofString data) (Buffer.ofHex info.signature)
    (Buffer.ofHex info.publicKey) with
  | error e => simp [bind, Except.bind]
  | ok resp =>
    cases util.getAddressFromPublicKeyString info.publicKey with
    | error e => simp [bind, Except.bind]
    | ok pkAddress =>
      by_cases haddress : pkAddress = address <;> cases resp <;>
        by_cases htime : now - info.timestamp < VERIFY_EXPIRE_TIME <;>
        simp [bind, Except.bind, pure, Except.pure, haddress, htime, throw, throwThe,
          MonadExceptOf.throw]

/-- A request is accepted when its signature is valid and the timestamp beside the signature, which
nobody signs, is recent or in the future. -/
theorem accepted_iff {util : BfmetaSignUtil} {now : Int} {m : RechargeV2ToTrInfoData}
    {info : SignatureInfo} :
    Accepted numberToString util now m info ↔
      SignatureValid numberToString util m info.signature info.publicKey ∧
        now - info.timestamp < VERIFY_EXPIRE_TIME := by
  have hchecks : Accepted numberToString util now m info ↔
      util.isBCFAddress m.address = .ok true ∧
        verifySignature util now info (encodeRechargeV2ToTrInfoData numberToString m) m.address =
          .ok true := by
    unfold Accepted rechargeV2Checks
    cases haddress : util.isBCFAddress m.address with
    | error e => simp [haddress, bind, Except.bind]
    | ok b =>
      cases b <;>
        simp [haddress, bind, Except.bind, throw, throwThe, MonadExceptOf.throw]
  rw [hchecks, verifySignature_ok_iff, SignatureValid]
  exact ⟨fun ⟨h₁, h₂, h₃, h₄⟩ => ⟨⟨h₁, h₂, h₃⟩, h₄⟩, fun ⟨⟨h₁, h₂, h₃⟩, h₄⟩ => ⟨h₁, h₂, h₃, h₄⟩⟩

/-- The signed timestamp is less than `VERIFY_EXPIRE_TIME` old, and not in the future. -/
def InWindow (now : Int) (m : RechargeV2ToTrInfoData) : Prop :=
  0 ≤ now - m.timestamp ∧ now - m.timestamp < VERIFY_EXPIRE_TIME

/-- What the expiry check is there for: at any server time, whatever timestamp the caller puts
beside the signature, an accepted request was signed within the window; and a signature that was
accepted once is not accepted again after it, whatever unsigned field is changed. -/
structure Expires (numberToString : Rat → JsString) (util : BfmetaSignUtil)
    (m : RechargeV2ToTrInfoData) (signature publicKey : JsString) : Prop where
  window : ∀ (now : Int) (timestamp : Rat),
    Accepted numberToString util now m ⟨signature, publicKey, timestamp⟩ → InWindow now m
  noReplay : ∀ (now later : Int) (timestamp timestamp' : Rat) (m' : RechargeV2ToTrInfoData),
    Accepted numberToString util now m ⟨signature, publicKey, timestamp⟩ →
      now + VERIFY_EXPIRE_TIME ≤ later →
      encodeRechargeV2ToTrInfoData numberToString m' =
        encodeRechargeV2ToTrInfoData numberToString m →
      ¬ Accepted numberToString util later m' ⟨signature, publicKey, timestamp'⟩

/-- A validly signed request is accepted at every server time by the caller's choice of the
unsigned timestamp. -/
theorem SignatureValid.accepted {util : BfmetaSignUtil} {m : RechargeV2ToTrInfoData}
    {signature publicKey : JsString}
    (h : SignatureValid numberToString util m signature publicKey) (now : Int) :
    Accepted numberToString util now m ⟨signature, publicKey, now⟩ := by
  refine accepted_iff.2 ⟨h, ?_⟩
  simp [VERIFY_EXPIRE_TIME]

variable (numberToString) in
/-- Signatures expire only for messages that no signature is valid for: every signature that is
accepted at all can be replayed for ever. -/
theorem expires_iff_not_signatureValid (util : BfmetaSignUtil) (m : RechargeV2ToTrInfoData)
    (signature publicKey : JsString) :
    Expires numberToString util m signature publicKey ↔
      ¬ SignatureValid numberToString util m signature publicKey := by
  constructor
  · intro h hvalid
    have hlater : (0 : Int) + VERIFY_EXPIRE_TIME ≤ (300000 : Int) := by
      norm_num [VERIFY_EXPIRE_TIME]
    exact h.noReplay 0 300000 _ _ m (hvalid.accepted 0) hlater rfl (hvalid.accepted 300000)
  · intro h
    exact ⟨fun _ _ ha => absurd (accepted_iff.1 ha).1 h,
      fun _ _ _ _ _ ha => absurd (accepted_iff.1 ha).1 h⟩

/-- A request signed at time `0` is accepted a day later. -/
theorem accepted_after_expiry :
    ¬ ∀ (numberToString : Rat → JsString) (util : BfmetaSignUtil) (now : Int)
      (m : RechargeV2ToTrInfoData) (info : SignatureInfo),
      Accepted numberToString util now m info → InWindow now m := by
  intro h
  let m : RechargeV2ToTrInfoData := ⟨js "BIWMETA", js "bAddress", js "USDT", 0⟩
  let data := Buffer.ofString (encodeRechargeV2ToTrInfoData (fun _ => js "0") m)
  -- a verifier that knows one signature, over exactly the bytes of this message
  let util : BfmetaSignUtil :=
    { isBCFAddress := fun _ => .ok true
      detachedVeriy := fun d s k => .ok (d == data && s == [0xAB] && k == [0xCD])
      getAddressFromPublicKeyString := fun _ => .ok (js "bAddress") }
  have hvalid : SignatureValid (fun _ => js "0") util m (js "ab") (js "cd") := by
    refine ⟨rfl, ?_, rfl⟩
    have hs : Buffer.ofHex (js "ab") = [0xAB] := by decide
    have hk : Buffer.ofHex (js "cd") = [0xCD] := by decide
    simp [util, data, hs, hk]
  have hwindow := (h _ util 86400000 m _ (hvalid.accepted 86400000)).2
  norm_num [VERIFY_EXPIRE_TIME, m] at hwindow

end CotServer
