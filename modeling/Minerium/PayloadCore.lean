import Minerium.EscrowCore
import Minerium.Lib.StreamFormat
import Minerium.UndoCore

/-! Payloads of service transactions: `SerializationOp` of the six service objects and
`UnserializeFromData`. The conversions between integers and `double` are arguments. -/

namespace Minerium

open StreamFormat List Format

variable {input rest : Bytes} {item : Bytes × COfferLinkWhitelistEntry}

def bytesFormat : Format Bytes := .vector MAX_SIZE .byte

def uint256Format : Format Uint256 :=
  (le 32).imap (BitVec.ofNat 256) BitVec.toNat (by
    intro input rest n result
    have bound := (ByteCodec.readLe_spec result).1
    rw [BitVec.toNat_ofNat]
    exact Nat.mod_eq_of_lt bound)

def amountFormat : Format CAmount :=
  uint64.imap UInt64.toInt64 Int64.toUInt64 fun _ => UInt64.toUInt64_toInt64 _

def int32Format : Format Int32 :=
  uint32.imap UInt32.toInt32 Int32.toUInt32 fun _ => UInt32.toUInt32_toInt32 _

def charFormat : Format Int8 := byte.imap UInt8.toInt8 Int8.toUInt8 fun _ => UInt8.toUInt8_toInt8 _

def rangeFormat : Format CRange :=
  (varInt32.pair .varInt32).imap (fun (start, «end») => ⟨start, «end»⟩)
    (fun range => (range.start, range.end)) fun _ => rfl

def rangesFormat : Format (List CRange) := .vector MAX_SIZE rangeFormat

theorem bytesFormat_rereads {bytes : Bytes} (result : bytesFormat.read input = some (bytes, rest)) :
    bytesFormat.Rereads bytes :=
  vector_rereads (by decide) (fun value _ => byte_rereads) (vector_read result).1

def whitelistEntryFormat : Format COfferLinkWhitelistEntry :=
  (bytesFormat.pair .varInt8).imap
    (fun (aliasLinkVchRand, nDiscountPct) => ⟨aliasLinkVchRand, nDiscountPct⟩)
    (fun entry => (entry.aliasLinkVchRand, entry.nDiscountPct)) fun _ => rfl

/-- `std::map::insert`: an entry that is already there stays. -/
def insertEntry : WhitelistMap → Bytes × COfferLinkWhitelistEntry → WhitelistMap
  | [], item => [item]
  | entry :: rest, item =>
    if item.1 = entry.1 then entry :: rest
    else if item.1 < entry.1 then item :: entry :: rest
    else entry :: insertEntry rest item

def buildWhitelist (items : List (Bytes × COfferLinkWhitelistEntry)) : WhitelistMap :=
  items.foldl insertEntry []

theorem mem_insertEntry {entries : WhitelistMap} {entry : Bytes × COfferLinkWhitelistEntry}
    (member : entry ∈ insertEntry entries item) : entry = item ∨ entry ∈ entries := by
  induction entries with
  | nil => exact .inl (mem_singleton.mp member)
  | cons first rest ih =>
    unfold insertEntry at member
    split at member
    · exact .inr member
    split at member
    · exact mem_cons.mp member
    · rcases mem_cons.mp member with rfl | inRest
      · exact .inr mem_cons_self
      · exact (ih inRest).imp id (mem_cons_of_mem first)

theorem length_insertEntry (entries : WhitelistMap) (item : Bytes × COfferLinkWhitelistEntry) :
    (insertEntry entries item).length ≤ entries.length + 1 := by
  induction entries with
  | nil => exact Nat.le_refl _
  | cons first rest ih =>
    unfold insertEntry
    split
    · exact Nat.le_succ _
    split
    · exact Nat.le_refl _
    · exact Nat.succ_le_succ ih

theorem buildWhitelist_spec {items : List (Bytes × COfferLinkWhitelistEntry)} :
    (buildWhitelist items).length ≤ items.length ∧ ∀ entry ∈ buildWhitelist items, entry ∈
      items := by
  have step : ∀ (items : List (Bytes × COfferLinkWhitelistEntry)) (entries : WhitelistMap),
      (items.foldl insertEntry entries).length ≤ entries.length + items.length ∧
        ∀ entry ∈ items.foldl insertEntry entries, entry ∈ entries ∨ entry ∈ items := by
    intro items
    induction items with
    | nil => exact fun entries => ⟨Nat.le_refl _, fun entry member => .inl member⟩
    | cons item items ih =>
      intro entries
      obtain ⟨short, members⟩ := ih (insertEntry entries item)
      have one := length_insertEntry entries item
      refine ⟨?_, fun entry member => ?_⟩
      · rw [foldl_cons, length_cons]
        omega
      · rcases members entry member with inserted | later
        · rcases mem_insertEntry inserted with rfl | old
          · exact .inr mem_cons_self
          · exact .inl old
        · exact .inr (mem_cons_of_mem item later)
  obtain ⟨short, members⟩ := step items []
  rw [length_nil, Nat.zero_add] at short
  refine ⟨short, fun entry member => ?_⟩
  rcases members entry member with impossible | found
  · cases impossible
  · exact found

theorem whitelistItem_rereads
    (result : (bytesFormat.pair whitelistEntryFormat).read input = some (item, rest)) :
    (bytesFormat.pair whitelistEntryFormat).Rereads item := by
  obtain ⟨middle, key, found⟩ := bind_read result
  obtain ⟨⟨⟨aliasLink, discount⟩, after⟩, read, equal⟩ := Option.map_eq_some_iff.mp found
  obtain ⟨_, readAlias, _⟩ := bind_read read
  have both : (bytesFormat.pair .varInt8).Rereads (aliasLink, discount) :=
    bind_rereads (bytesFormat_rereads readAlias) (varInt8_rereads)
  have entry : whitelistEntryFormat.Rereads ⟨aliasLink, discount⟩ :=
    both.map (fun (aliasLinkVchRand, nDiscountPct) => ⟨aliasLinkVchRand, nDiscountPct⟩)
      (fun _ => rfl) rfl rfl
  have same : item.2 = ⟨aliasLink, discount⟩ := (Prod.mk.inj equal).1.symm
  exact bind_rereads (bytesFormat_rereads key) (same ▸ entry)

def whitelistFormat : Format WhitelistMap :=
  (vector MAX_SIZE (bytesFormat.pair whitelistEntryFormat)).lossy buildWhitelist id (by
    intro input rest items result
    obtain ⟨bounded, members⟩ := vector_read result
    obtain ⟨short, kept⟩ := buildWhitelist_spec
    refine vector_rereads (by decide) ?_ (short.trans bounded)
    intro item member
    obtain ⟨before, after, read⟩ := members item (kept item member)
    exact whitelistItem_rereads read)

def aliasFormat : Format CAliasIndex :=
  (uint256Format.pair <| varInt32.pair <| bytesFormat.pair <| bytesFormat.pair <|
    bytesFormat.pair <| bytesFormat.pair <| bytesFormat.pair <| varInt64.pair <|
    varInt8.pair <| varInt8.pair <| bytesFormat.pair whitelistFormat).imap
    (fun (txHash, nHeight, vchPublicValue, vchEncryptionPublicKey, vchEncryptionPrivateKey,
        vchAlias, vchGUID, nExpireTime, nAcceptTransferFlags, nAccessFlags, vchAddress,
        offerWhitelist) =>
      { txHash, nHeight, vchPublicValue, vchEncryptionPublicKey, vchEncryptionPrivateKey, vchAlias,
        vchGUID, nExpireTime, nAcceptTransferFlags, nAccessFlags, vchAddress, offerWhitelist })
    (fun record => (record.txHash, record.nHeight, record.vchPublicValue,
      record.vchEncryptionPublicKey, record.vchEncryptionPrivateKey, record.vchAlias,
      record.vchGUID, record.nExpireTime, record.nAcceptTransferFlags, record.nAccessFlags,
      record.vchAddress, record.offerWhitelist))
    fun _ => rfl

def certFormat : Format CCert :=
  (bytesFormat.pair <| bytesFormat.pair <| uint256Format.pair <| varInt32.pair <|
    byte.pair <| bytesFormat.pair <| bytesFormat.pair bytesFormat).imap
    (fun (vchTitle, vchPubData, txHash, nHeight, nAccessFlags, vchCert, sCategory, vchAlias) =>
      { vchTitle, vchPubData, txHash, nHeight, nAccessFlags, vchCert, sCategory, vchAlias })
    (fun cert => (cert.vchTitle, cert.vchPubData, cert.txHash, cert.nHeight, cert.nAccessFlags,
      cert.vchCert, cert.sCategory, cert.vchAlias))
    fun _ => rfl

def auctionOfferFormat : Format CAuctionOffer :=
  (varInt64.pair <| uint32.pair <| bool.pair .uint32).imap
    (fun (nExpireTime, fReservePrice, bRequireWitness, fDepositPercentage) =>
      { nExpireTime, fReservePrice, bRequireWitness, fDepositPercentage })
    (fun auction => (auction.nExpireTime, auction.fReservePrice, auction.bRequireWitness,
      auction.fDepositPercentage))
    fun _ => rfl

def offerFormat : Format COffer :=
  (bytesFormat.pair <| bytesFormat.pair <| bytesFormat.pair <| uint256Format.pair <|
    varInt32.pair <| uint32.pair <| int32Format.pair <| uint32.pair <|
    bytesFormat.pair <| bytesFormat.pair <| charFormat.pair <| bytesFormat.pair <|
    bytesFormat.pair <| bool.pair <| varInt32.pair <| varInt64.pair <|
    bytesFormat.pair auctionOfferFormat).imap
    (fun (sCategory, sTitle, sDescription, txHash, nHeight, fPrice, nQty, fUnits, vchLinkOffer,
        sCurrencyCode, nCommission, vchAlias, vchCert, bPrivate, offerType, paymentOptions,
        vchOffer, auctionOffer) =>
      { sCategory, sTitle, sDescription, txHash, nHeight, fPrice, nQty, fUnits, vchLinkOffer,
        sCurrencyCode, nCommission, vchAlias, vchCert, bPrivate, offerType, paymentOptions,
        vchOffer, auctionOffer })
    (fun offer => (offer.sCategory, offer.sTitle, offer.sDescription, offer.txHash, offer.nHeight,
      offer.fPrice, offer.nQty, offer.fUnits, offer.vchLinkOffer, offer.sCurrencyCode,
      offer.nCommission, offer.vchAlias, offer.vchCert, offer.bPrivate, offer.offerType,
      offer.paymentOptions, offer.vchOffer, offer.auctionOffer))
    fun _ => rfl

def feedbackFormat : Format CFeedback :=
  (bytesFormat.pair <| varInt8.pair <| varInt8.pair .varInt8).imap
    (fun (vchFeedback, nRating, nFeedbackUserFrom, nFeedbackUserTo) =>
      { vchFeedback, nRating, nFeedbackUserFrom, nFeedbackUserTo })
    (fun feedback => (feedback.vchFeedback, feedback.nRating, feedback.nFeedbackUserFrom,
      feedback.nFeedbackUserTo))
    fun _ => rfl

def escrowFormat : Format CEscrow :=
  (bytesFormat.pair <| bytesFormat.pair <| bytesFormat.pair <| bytesFormat.pair <|
    bytesFormat.pair <| (vector MAX_SIZE bytesFormat).pair <| uint256Format.pair <|
    uint256Format.pair <| uint256Format.pair <| varInt32.pair <| varInt32.pair <|
    varInt32.pair <| varInt64.pair <| varInt8.pair <| bytesFormat.pair <|
    bytesFormat.pair <| feedbackFormat.pair <| bool.pair <| bool.pair <|
    amountFormat.pair <| amountFormat.pair <| amountFormat.pair <| amountFormat.pair <|
    uint32.pair <| amountFormat.pair <| bytesFormat.pair <| amountFormat.pair
    amountFormat).imap
    (fun (vchSellerAlias, vchLinkSellerAlias, vchArbiterAlias, vchWitness, vchOffer, scriptSigs,
        txHash, extTxId, redeemTxId, nHeight, nQty, op, nPaymentOption, role, vchBuyerAlias,
        vchEscrow, feedback, bPaymentAck, bBuyNow, nArbiterFee, nNetworkFee, nCommission,
        nWitnessFee, fBidPerUnit, nDeposit, vchRedeemScript, nShipping, nAmountOrBidPerUnit) =>
      { vchSellerAlias, vchLinkSellerAlias, vchArbiterAlias, vchWitness, vchOffer, scriptSigs,
        txHash, extTxId, redeemTxId, nHeight, nQty, op, nPaymentOption, role, vchBuyerAlias,
        vchEscrow, feedback, bPaymentAck, bBuyNow, nArbiterFee, nNetworkFee, nCommission,
        nWitnessFee, fBidPerUnit, nDeposit, vchRedeemScript, nShipping, nAmountOrBidPerUnit })
    (fun escrow => (escrow.vchSellerAlias, escrow.vchLinkSellerAlias, escrow.vchArbiterAlias,
      escrow.vchWitness, escrow.vchOffer, escrow.scriptSigs, escrow.txHash, escrow.extTxId,
      escrow.redeemTxId, escrow.nHeight, escrow.nQty, escrow.op, escrow.nPaymentOption,
      escrow.role, escrow.vchBuyerAlias, escrow.vchEscrow, escrow.feedback, escrow.bPaymentAck,
      escrow.bBuyNow, escrow.nArbiterFee, escrow.nNetworkFee, escrow.nCommission,
      escrow.nWitnessFee, escrow.fBidPerUnit, escrow.nDeposit, escrow.vchRedeemScript,
      escrow.nShipping, escrow.nAmountOrBidPerUnit))
    fun _ => rfl

def assetFormat : Format CAsset :=
  (bytesFormat.pair <| uint256Format.pair <| varInt32.pair <| bytesFormat.pair <|
    bytesFormat.pair <| bytesFormat.pair <| bytesFormat.pair <| rangesFormat.pair <|
    amountFormat.pair <| amountFormat.pair <| amountFormat.pair <| bool.pair <|
    uint32.pair <| bool.pair .varInt8).imap
    (fun (vchPubData, txHash, nHeight, vchAsset, vchSymbol, sCategory, vchAliasOrAddress,
        listAllocationInputs, nBalance, nTotalSupply, nMaxSupply, bUseInputRanges, fInterestRate,
        bCanAdjustInterestRate, nPrecision) =>
      { vchPubData, txHash, nHeight, vchAsset, vchSymbol, sCategory, vchAliasOrAddress,
        listAllocationInputs, nBalance, nTotalSupply, nMaxSupply, bUseInputRanges, fInterestRate,
        bCanAdjustInterestRate, nPrecision })
    (fun asset => (asset.vchPubData, asset.txHash, asset.nHeight, asset.vchAsset, asset.vchSymbol,
      asset.sCategory, asset.vchAliasOrAddress, asset.listAllocationInputs, asset.nBalance,
      asset.nTotalSupply, asset.nMaxSupply, asset.bUseInputRanges, asset.fInterestRate,
      asset.bCanAdjustInterestRate, asset.nPrecision))
    fun _ => rfl

structure PayloadEnv where
  hash : Bytes → Uint256
  nShareFeeBlock : UInt32
  doubleOfUint64 : UInt64 → Float64Bits
  uint64OfDouble : Float64Bits → UInt64

variable (env : PayloadEnv)

/-- The accumulated balance, as a `double` from the block at which fees are shared on. -/
def accumulatedFormat (nHeight : UInt32) : Format Float64Bits :=
  if env.nShareFeeBlock ≤ nHeight then .uint64
  else varInt64.lossy env.doubleOfUint64 env.uint64OfDouble fun _ => varInt64_rereads

def allocationFormat : Format CAssetAllocation :=
  ((bytesFormat.pair <| bytesFormat.pair <| uint256Format.pair .varInt32).bind
    fun (_, _, _, nHeight) =>
      varInt32.pair <| rangesFormat.pair <|
        (vector MAX_SIZE (bytesFormat.pair rangesFormat)).pair <|
        (vector MAX_SIZE (bytesFormat.pair amountFormat)).pair <| amountFormat.pair <|
        (accumulatedFormat env nHeight).pair <| uint32.pair <|
        uint32.pair bytesFormat).imap
    (fun ((vchAsset, vchAliasOrAddress, txHash, nHeight), nLastInterestClaimHeight,
        listAllocationInputs, listSendingAllocationInputs, listSendingAllocationAmounts, nBalance,
        nAccumulatedBalanceSinceLastInterestClaim, fAccumulatedInterestSinceLastInterestClaim,
        fInterestRate, vchMemo) =>
      { vchAsset, vchAliasOrAddress, txHash, nHeight, nLastInterestClaimHeight,
        listAllocationInputs, listSendingAllocationInputs, listSendingAllocationAmounts, nBalance,
        nAccumulatedBalanceSinceLastInterestClaim, fAccumulatedInterestSinceLastInterestClaim,
        fInterestRate, vchMemo })
    (fun allocation =>
      ((allocation.vchAsset, allocation.vchAliasOrAddress, allocation.txHash, allocation.nHeight),
        allocation.nLastInterestClaimHeight, allocation.listAllocationInputs,
        allocation.listSendingAllocationInputs, allocation.listSendingAllocationAmounts,
        allocation.nBalance, allocation.nAccumulatedBalanceSinceLastInterestClaim,
        allocation.fAccumulatedInterestSinceLastInterestClaim, allocation.fInterestRate,
        allocation.vchMemo))
    fun _ => rfl

def Service.Object : Service → Type
  | .alias => CAliasIndex
  | .cert => CCert
  | .escrow => CEscrow
  | .offer => COffer
  | .asset => CAsset
  | .assetAllocation => CAssetAllocation

def payloadFormat : (service : Service) → Format service.Object
  | .alias => aliasFormat
  | .cert => certFormat
  | .escrow => escrowFormat
  | .offer => offerFormat
  | .asset => assetFormat
  | .assetAllocation => allocationFormat env

def serializePayload (service : Service) (object : service.Object) : Bytes :=
  (payloadFormat env service).write object

def hexDigit (digit : Nat) : UInt8 := UInt8.ofNat (if digit <
  10 then 0x30 + digit else 0x57 + digit)

def hexBytes (hash : Uint256) : Bytes :=
  (serializeUint256 hash).reverse.flatMap fun byte =>
    [hexDigit (byte.toNat / 16), hexDigit (byte.toNat % 16)]

def unserializeFromData (service : Service) (vchData vchHash : Bytes) : Option service.Object :=
  match (payloadFormat env service).read vchData with
  | none => none
  | some (object, _) =>
    if hexBytes (env.hash (serializePayload env service object)) = vchHash then some object
    else none

end Minerium
