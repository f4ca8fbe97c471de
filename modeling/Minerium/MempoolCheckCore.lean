import Minerium.AllocationModeCore
import Minerium.VerdictCore

/-! `CheckMineriumInputs` on a transaction that is offered to the mempool (`fJustCheck`, no block).
-/

namespace Minerium

def MAX_GUID_LENGTH : Nat := 20
def MAX_NAME_LENGTH : Nat := 256
def MAX_VALUE_LENGTH : Nat := 512
def MAX_SYMBOL_LENGTH : Nat := 8
def MIN_SYMBOL_LENGTH : Nat := 1
def MAX_ENCRYPTED_GUID_LENGTH : Nat := MAX_NAME_LENGTH
def MAX_SCRIPT_ELEMENT_SIZE : Nat := 520

/-- `catchingUp` stands for `IsInitialBlockDownload` or the warm-up of the server. -/
structure MempoolContext extends BlockContext where
  encodeBase58 : Bytes → Bytes
  now : Int64
  fLoaded : Bool
  catchingUp : Bool

def firstRefusal {ε : Type} (checks : List (Bool × ε)) : Option ε := (checks.find? (·.1)).map (·.2)

def refuseFirst {σ ε : Type} (checks : List (Bool × ε)) : Procedure σ ε Unit :=
  match firstRefusal checks with
  | some stop => .stop stop
  | none => pure ()

def startsWith (text start : Bytes) : Bool := decide (text.take start.length = start)

def istartsWith (text start : Bytes) : Bool := decide (toLower (text.take start.length) = start)

def dataHash (env : ServiceEnv) (tx : CTransaction) : Bytes :=
  ((getMineriumData env.isNullData tx).map (·.vchHash)).getD []

/-- `emplace` is for the allocations; here the time is replaced. -/
def recordArrival (times : Finmap fun _ : Bytes => ArrivalTimesMap) (key : Bytes)
    (txHash : Uint256) (arrivalTime : Int64) : Finmap fun _ : Bytes => ArrivalTimesMap :=
  if arrivalTime < INT64_MAX then
    times.insert key (((times.lookup key).getD ∅).insert txHash arrivalTime)
  else times

variable (ctx : MempoolContext)

variable (code : Nat) (theAsset : CAsset) (text : String) (theAlias : CAliasIndex)
  (vchGUID vchHash : Bytes)

section

def isValidAliasName (vchAlias : Bytes) : Bool :=
  decide (vchAlias.length ≤ 71) && decide (3 ≤ vchAlias.length)

def prevAliasInput (inputs : UtxoMap) (tx : CTransaction) (op : Nat) (vchName vchGUID : Bytes) :
    Option (ServiceScript × CScript) :=
  (spentScripts inputs tx).findSome? fun script =>
    (decodeAliasScript script).bind fun prev =>
      if op = OP_ALIAS_ACTIVATE ∨
          prev.vvchArgs[0]? = some vchName ∧ prev.vvchArgs[1]? = some vchGUID then
        some (prev, script)
      else none

def aliasDataHash (env : ServiceEnv) (tx : CTransaction) : Bytes :=
  if hasAliasData tx then dataHash env tx else []

def aliasFailed : CheckStop := .failed (aliasError code text)

def aliasActivateChecks (prev : Option ServiceScript) : List (Bool × CheckStop) :=
  [(decide ((prev.map (·.op)).getD 0 ≠ OP_ALIAS_ACTIVATE),
      aliasFailed 5008 "Alias input to this transaction not found"),
    (decide (prev.bind (·.vvchArgs.head?) ≠ some vchHash),
      aliasFailed 5009 "Alias new and activate hash mismatch"),
    (decide (theAlias.vchGUID ≠ vchGUID), aliasFailed 5010 "Alias input guid mismatch"),
    (theAlias.vchAddress.isEmpty, aliasFailed 5011 "Alias address cannot be empty")]

variable (aliases : AliasState) (tx : CTransaction) (op : Nat) (vchName : Bytes)

def aliasUpdateChecks (vchGUID : Bytes) (prev : Option ServiceScript) : List (Bool × CheckStop) :=
  [(!Service.alias.isOp ((prev.map (·.op)).getD 0),
      aliasFailed 5012 "Alias input to this transaction not found"),
    (!theAlias.isNull && decide (theAlias.vchAlias ≠ vchName),
      aliasFailed 5013 "Guid in data output doesn't match guid in transaction"),
    (!theAlias.isNull && decide (theAlias.vchGUID ≠ vchGUID),
      aliasFailed 5014 "Alias input guid mismatch")]

def aliasOwnerChecks (dbAlias : Option CAliasIndex)
    (prev : Option (ServiceScript × CScript)) : List (Bool × CheckStop) :=
  let address := prev.bind fun input => ctx.env.addressOf input.2
  [(dbAlias.isNone, .refused (aliasError 5016 "Failed to read from alias DB")),
    (address.isNone, aliasFailed 5018 "Cannot extract destination of alias input"),
    (decide (dbAlias.map (fun record => ctx.encodeBase58 record.vchAddress) ≠ address),
      aliasFailed 5019 "You are not the owner of this alias")]

def aliasOpChecks (vchGUID : Bytes) (theAlias : CAliasIndex) : List (Bool × CheckStop) :=
  let prev := prevAliasInput ctx.inputs tx op vchName vchGUID
  if op = OP_ALIAS_ACTIVATE then
    aliasActivateChecks theAlias vchGUID (aliasDataHash ctx.env tx) (prev.map (·.1))
  else if op = OP_ALIAS_UPDATE then
    aliasUpdateChecks theAlias vchName vchGUID (prev.map (·.1)) ++
      aliasOwnerChecks ctx (aliases.getAlias ctx.chain (toLower vchName)) prev
  else [(true, aliasFailed 5015 "Alias transaction has unknown op")]

def aliasChecks (vchGUID vchArg vchWitness : Bytes) (others : List Bytes) :
    List (Bool × CheckStop) :=
  let theAlias := (aliasPayload ctx.env.aliasEnv tx).1
  [(!others.isEmpty, aliasFailed 5000 "Alias arguments incorrect size"),
    (!theAlias.isNull && decide (aliasDataHash ctx.env tx ≠ vchArg), .refused (aliasError 5001
      "Hash provided doesn't match the calculated hash of the data")),
    (decide (MAX_ALIAS_UPDATES_PER_BLOCK + 4 < tx.vout.length),
      aliasFailed 5002 "Too many outputs for this Minerium transaction"),
    (!witnessSigFound ctx.inputs tx OP_ALIAS_UPDATE vchWitness,
      aliasFailed 5003 "Witness signature not found"),
    (!isValidAliasName vchName,
      aliasFailed 5004 "Alias name does not follow the domain name specification"),
    (decide (MAX_VALUE_LENGTH < theAlias.vchPublicValue.length),
      aliasFailed 5005 "Alias public value too big"),
    (decide (MAX_ENCRYPTED_GUID_LENGTH < theAlias.vchEncryptionPrivateKey.length),
      aliasFailed 5006 "Encryption private key too long"),
    (decide (MAX_ENCRYPTED_GUID_LENGTH < theAlias.vchEncryptionPublicKey.length),
      aliasFailed 5007 "Encryption public key too long")] ++
    aliasOpChecks ctx aliases tx op vchName vchGUID theAlias

/-- Aliases are only looked at: the mempool writes none of their records. -/
def checkAliasMempool (input : AliasInput) : Option CheckStop :=
  match input.vvchAliasArgs with
  | vchName :: vchGUID :: vchArg :: vchWitness :: others =>
    firstRefusal (aliasChecks ctx aliases tx input.op vchName vchGUID vchArg vchWitness others)
  | _ => none

end

section

def certCategory : Bytes := [0x63, 0x65, 0x72, 0x74, 0x69, 0x66, 0x69, 0x63, 0x61, 0x74, 0x65, 0x73]

def certFailed : CheckStop :=
  .failed ("MINERIUM_CERTIFICATE_CONSENSUS_ERROR: ERRCODE: " ++ toString code ++ " - " ++ text)

def isOtherCategory (category sCategory : Bytes) : Bool :=
  !sCategory.isEmpty && !istartsWith sCategory category

variable (aliases : AliasState) (tx : CTransaction) (op : Nat) (vchAlias : Bytes) (theCert : CCert)

def certOpChecks : List (Bool × CheckStop) :=
  if op = OP_CERT_ACTIVATE then
    [(decide (MAX_GUID_LENGTH < theCert.vchCert.length),
        certFailed 3006 "Certificate hex guid too long"),
      (decide (MAX_NAME_LENGTH < theCert.vchTitle.length) || theCert.vchTitle.isEmpty,
        certFailed 3007 "Certificate title too big or is empty"),
      (!startsWith theCert.sCategory certCategory,
        certError 3008 "Must use a certificate category")]
  else if op = OP_CERT_UPDATE then
    [(decide (MAX_NAME_LENGTH < theCert.vchTitle.length),
        certFailed 3009 "Certificate title too big"),
      (isOtherCategory certCategory theCert.sCategory,
        certError 3010 "Must use a certificate category")]
  else if op = OP_CERT_TRANSFER then
    [(isOtherCategory certCategory theCert.sCategory,
        certError 3011 "Must use a certificate category")]
  else [(true, certFailed 3012 "Certificate transaction has unknown op")]

def certChecks (vvchArgs : List Bytes) (vchHash : Bytes) (theCert : CCert) :
    List (Bool × CheckStop) :=
  [(decide (vvchArgs.length ≠ 1), certFailed 3003 "Certificate arguments incorrect size"),
    (decide (vchHash ≠ vvchArgs.headD []),
      certError 2003 "Hash provided doesn't match the calculated hash of the data"),
    (decide (MAX_NAME_LENGTH < theCert.sCategory.length),
      certFailed 3004 "Certificate category too big"),
    (decide (MAX_VALUE_LENGTH < theCert.vchPubData.length),
      certFailed 3005 "Certificate public data too big")] ++
    certOpChecks op theCert

def writeUnconfirmedCert (now : Int64) (cert : CCert) (state : CertState) : CertState :=
  { state with
    certs := state.certs.write cert
    arrivalTimes := recordArrival state.arrivalTimes cert.vchCert cert.txHash now }

def clearCertIfStored (stored : Option CCert) : CCert :=
  if stored.isSome then CCert.null else theCert

def certActivateMempool : CertProcedure Unit := do
  .require (decide (theCert.vchAlias = vchAlias)) (certError 3015
    "Cannot create this certificate. Certificate owner must sign off on this change.")
  let found ← .read fun state => state.getCert aliases ctx.chain theCert.vchCert
  .require found.isNone (certError 3022 "Certificate already exists")
  let stored ← .read fun state => state.certs.lookup theCert.vchCert
  .modify (writeUnconfirmedCert ctx.now
    (stampedCert ctx.env.certEnv tx ctx.nHeight (clearCertIfStored theCert stored)))

def runCertMempool : CertProcedure Unit :=
  if op = OP_CERT_ACTIVATE then certActivateMempool ctx aliases tx vchAlias theCert
  else
    certChange (writeUnconfirmedCert ctx.now) ctx.env.certEnv aliases ctx.chain tx op vchAlias
      ctx.nHeight theCert

def checkCertMempool (vvchArgs : List Bytes) (vchAlias : Bytes) : CertProcedure Unit := do
  let theCert ← .orStop (.refused ("MINERIUM_CERTIFICATE_CONSENSUS_ERROR ERRCODE: 3002 - " ++
      "Cannot unserialize data inside of this transaction relating to a certificate"))
    (ctx.env.certEnv.unserializeCert tx)
  refuseFirst (certChecks op vvchArgs (dataHash ctx.env tx) theCert)
  runCertMempool ctx aliases tx op vchAlias theCert

end

section

def PAYMENTOPTION_BTC : UInt64 := 2
def PAYMENTOPTION_ZEC : UInt64 := 4
def OFFERTYPE_COIN : UInt32 := 2

def validatePaymentOptionsMask (mask : UInt64) : Bool :=
  !(decide (mask < 1) ||
    decide (PAYMENTOPTION_MINR ||| PAYMENTOPTION_BTC ||| PAYMENTOPTION_ZEC < mask))

def isValidPaymentOption (mask : UInt64) : Bool :=
  decide (mask = PAYMENTOPTION_MINR) || decide (mask = PAYMENTOPTION_BTC) ||
    decide (mask = PAYMENTOPTION_ZEC)

def validateOfferTypeMask (mask : UInt32) : Bool :=
  !(decide (mask < 1) || decide (OFFERTYPE_BUYNOW ||| OFFERTYPE_COIN ||| OFFERTYPE_AUCTION < mask))

def offerFailed : CheckStop := .failed (offerErrorText code text)

def isBadCommission (nCommission : Int8) : Bool :=
  decide (100 < nCommission) || decide (nCommission < -90)

variable (nTime : UInt64)

section

variable (op : Nat) (theOffer : COffer)

def auctionChecks : List (Bool × CheckStop) :=
  if isOfferTypeInMask theOffer.offerType OFFERTYPE_AUCTION then
    [(floatLt theOffer.auctionOffer.fReservePrice 0,
        offerFailed 1024 "Reserve price must be greator or equal to 0"),
      (floatLt theOffer.auctionOffer.fDepositPercentage 0,
        offerFailed 1024 "Auction deposit percentage must be greator or equal to 0"),
      (decide (0 < theOffer.auctionOffer.nExpireTime) &&
          decide (theOffer.auctionOffer.nExpireTime < nTime),
        offerFailed 4042 "Invalid auction expiry")]
  else []

def offerActivateChecks : List (Bool × CheckStop) :=
  let isRoot := theOffer.vchLinkOffer.isEmpty
  [(decide (MAX_GUID_LENGTH < theOffer.vchOffer.length),
      offerFailed 2004 "offer hex guid too long"),
    (!validatePaymentOptionsMask theOffer.paymentOptions,
      offerFailed 1016 "Invalid payment option"),
    (!validateOfferTypeMask theOffer.offerType, offerFailed 1016 "Invalid offer type"),
    (isBadCommission theOffer.nCommission,
      offerFailed 1019 "Commission percentage must be between -90 and 100"),
    (isRoot && theOffer.sCategory.isEmpty, offerFailed 1020 "Offer category cannot be empty"),
    (isRoot && theOffer.sTitle.isEmpty, offerFailed 1021 "Offer title cannot be empty"),
    (isRoot && decide (theOffer.paymentOptions = 0),
      offerFailed 1022 "Invalid payment option specified"),
    (decide (theOffer.nQty < -1), offerFailed 1023 "Quantity must be greater than or equal to -1"),
    (!theOffer.vchCert.isEmpty && decide (theOffer.nQty ≠ 1),
      offerFailed 1024 "Quantity must be 1 for a digital offer")] ++
    auctionChecks nTime theOffer

def offerUpdateChecks : List (Bool × CheckStop) :=
  [(decide (0 < theOffer.paymentOptions) && !validatePaymentOptionsMask theOffer.paymentOptions,
      offerFailed 1027 "Invalid payment option"),
    (!validateOfferTypeMask theOffer.offerType, offerFailed 1027 "Invalid offer type"),
    (decide (theOffer.nQty < -1), offerFailed 1031 "Quantity must be greater than or equal to -1"),
    (!theOffer.vchCert.isEmpty && decide (theOffer.nQty ≠ 1),
      offerFailed 1032 "Quantity must be 1 for a digital offer"),
    (isBadCommission theOffer.nCommission,
      offerFailed 1034 "Commission percentage must be between -90 and 100")]

def offerOpChecks : List (Bool × CheckStop) :=
  if op = OP_OFFER_ACTIVATE then offerActivateChecks nTime theOffer
  else if op = OP_OFFER_UPDATE then offerUpdateChecks theOffer
  else [(true, offerFailed 1047 "Offer transaction has unknown op")]

def offerChecks (vvchArgs : List Bytes) (vchHash : Bytes) (theOffer : COffer) :
    List (Bool × CheckStop) :=
  [(decide (vvchArgs.length ≠ 1), offerFailed 1002 "Offer arguments incorrect size"),
    (decide (vchHash ≠ vvchArgs.headD []),
      offerError 1005 "Hash provided doesn't match the calculated hash of the data"),
    (decide (MAX_VALUE_LENGTH < theOffer.sDescription.length),
      offerFailed 1007 "Offer description too long"),
    (decide (MAX_NAME_LENGTH < theOffer.sTitle.length), offerFailed 1008 "Offer title too long"),
    (decide (MAX_NAME_LENGTH < theOffer.sCategory.length),
      offerFailed 1009 "Offer category too long"),
    (floatLe theOffer.fPrice 0, offerFailed 1009 "Offer price must be a positive number"),
    (decide (MAX_GUID_LENGTH < theOffer.vchLinkOffer.length),
      offerFailed 1010 "Offer link guid hash too long"),
    (decide (MAX_GUID_LENGTH < theOffer.sCurrencyCode.length),
      offerFailed 1011 "Offer currency code too long")] ++
    offerOpChecks nTime op theOffer

end

def writeUnconfirmedOffer (now : Int64) (offer : COffer) (state : OfferState) : OfferState :=
  { state with
    offers := state.offers.write offer
    arrivalTimes := recordArrival state.arrivalTimes offer.vchOffer offer.txHash now }

variable (aliases : AliasState) (tx : CTransaction) (op : Nat)

def checkOfferMempool (vvchArgs : List Bytes) (vchAlias : Bytes) : OfferProcedure Unit := do
  let theOffer ← .orStop (.refused ("MINERIUM_OFFER_CONSENSUS_ERROR ERRCODE: 1000 - " ++
      "Cannot unserialize data inside of this transaction relating to an offer"))
    (ctx.env.offerEnv.unserializeOffer tx)
  refuseFirst (offerChecks ctx.chain.medianTimePast.toUInt64 op vvchArgs (dataHash ctx.env tx)
    theOffer)
  runOfferOp (writeUnconfirmedOffer ctx.now) ctx.env.offerEnv aliases ctx.chain tx op vchAlias
    ctx.nHeight theOffer

end

section

def BUYER : UInt8 := 1
def SELLER : UInt8 := 2
def ARBITER : UInt8 := 3

def CFeedback.isNull (feedback : CFeedback) : Bool :=
  decide (feedback.nRating = 0) && decide (feedback.nFeedbackUserFrom = 0) &&
    decide (feedback.nFeedbackUserTo = 0) && feedback.vchFeedback.isEmpty

def escrowFailed : CheckStop := .failed (escrowErrorText code text)

def escrowActivateChecks (theEscrow : CEscrow) : List (Bool × CheckStop) :=
  let isMinr := decide (theEscrow.nPaymentOption = PAYMENTOPTION_MINR)
  let isExternal := decide (theEscrow.extTxId ≠ 0)
  [(decide (MAX_GUID_LENGTH < theEscrow.vchEscrow.length),
      escrowFailed 4007 "escrow hex guid too long"),
    (!isValidPaymentOption theEscrow.nPaymentOption, escrowFailed 4008 "Invalid payment option"),
    (isExternal && isMinr, escrowFailed 4009 "External payment cannot be paid with MINR"),
    (!isExternal && !isMinr, escrowFailed 4010 "External payment missing transaction ID"),
    (!theEscrow.feedback.isNull, escrowFailed 4011 "Cannot leave feedback in escrow activation")]

variable (tx : CTransaction) (op : Nat) (vvchArgs : List Bytes)

def escrowOpChecks (theEscrow : CEscrow) : List (Bool × CheckStop) :=
  let hasFeedback := !theEscrow.feedback.isNull
  let isArbiter := decide (theEscrow.role = ARBITER)
  if op = OP_ESCROW_ACKNOWLEDGE then []
  else if op = OP_ESCROW_ACTIVATE then escrowActivateChecks theEscrow
  else if op = OP_ESCROW_BID then
    [(hasFeedback, escrowFailed 4012 "Cannot leave feedback in escrow bid")]
  else if op = OP_ESCROW_ADD_SHIPPING then
    [(hasFeedback, escrowFailed 4013 "Cannot leave feedback in escrow bid")]
  else if op = OP_ESCROW_RELEASE then
    [(hasFeedback, escrowFailed 4014 "Cannot leave feedback in escrow release"),
      (!(decide (theEscrow.role = BUYER) || isArbiter), escrowFailed 4015
        "Invalid role specified. Only arbiter or buyer can initiate an escrow release")]
  else if op = OP_ESCROW_RELEASE_COMPLETE then
    [(hasFeedback, escrowFailed 4016 "Cannot leave feedback in escrow release")]
  else if op = OP_ESCROW_FEEDBACK then
    [(!hasFeedback, escrowFailed 4017 "Feedback must leave a message")]
  else if op = OP_ESCROW_REFUND then
    [(!(decide (theEscrow.role = SELLER) || isArbiter), escrowFailed 4018
        "Invalid role specified. Only arbiter or seller can initiate an escrow refund"),
      (hasFeedback, escrowFailed 4019 "Cannot leave feedback in escrow refund")]
  else if op = OP_ESCROW_REFUND_COMPLETE then
    [(hasFeedback, escrowFailed 4020 "Cannot leave feedback in escrow refund")]
  else [(true, escrowFailed 4021 "Escrow transaction has unknown op")]

def escrowChecks (vchHash : Bytes) (theEscrow : CEscrow) : List (Bool × CheckStop) :=
  [(decide (vvchArgs.length ≠ 1), escrowFailed 4001 "Escrow arguments incorrect size"),
    (decide (vchHash ≠ vvchArgs.headD []),
      escrowError 4002 "Hash provided doesn't match the calculated hash of the data"),
    (decide (MAX_SCRIPT_ELEMENT_SIZE < theEscrow.vchRedeemScript.length),
      escrowFailed 4003 "Escrow redeem script too long"),
    (decide (MAX_VALUE_LENGTH < theEscrow.feedback.vchFeedback.length),
      escrowFailed 4004 "Feedback too long"),
    (decide (theEscrow.nQty = 0), escrowFailed 4005 "Quantity of order must be greator than 0"),
    (decide (MAX_GUID_LENGTH < theEscrow.vchOffer.length),
      escrowFailed 4006 "Escrow offer guid too long")] ++
    escrowOpChecks op theEscrow

def checkEscrowMempool : EscrowProcedure Unit := do
  let theEscrow ← .orStop (.refused ("MINERIUM_ESCROW_CONSENSUS_ERROR ERRCODE: 4000 - " ++
      "Cannot unserialize data inside of this transaction relating to an escrow"))
    (ctx.env.escrowEnv.unserializeEscrow tx)
  refuseFirst (escrowChecks op vvchArgs (dataHash ctx.env tx) theEscrow)

end

section

def assetCategory : Bytes := [0x61, 0x73, 0x73, 0x65, 0x74, 0x73]

def floatOne : Float32Bits := 0x3f800000

def isBadRate (fInterestRate : Float32Bits) : Bool :=
  floatLt fInterestRate 0 || floatLt floatOne fInterestRate

/-- The precision is checked after the range that it is used for; `AssetRange` throws first. -/
def assetSupplyChecks : List (Bool × ServiceStop) :=
  let inRange := fun amount => assetRange amount theAsset.nPrecision.toNat theAsset.bUseInputRanges
  let isCapped := decide (theAsset.nMaxSupply ≠ -1)
  [((inRange theAsset.nBalance).isNone, precisionException),
    (decide (inRange theAsset.nBalance = some false),
      assetError 2012 "Initial balance out of money range"),
    (decide (8 < theAsset.nPrecision), assetError 2013 "Precision must be between 0 and 8"),
    (isCapped && (inRange theAsset.nMaxSupply).isNone, precisionException),
    (isCapped && decide (inRange theAsset.nMaxSupply = some false),
      assetError 2014 "Max supply out of money range"),
    (decide (theAsset.nMaxSupply < theAsset.nBalance),
      assetError 2015 "Total supply cannot exceed maximum supply"),
    (decide (ctx.nHeight < ctx.env.nShareFeeBlock) &&
        ctx.env.isValidAddress theAsset.vchAliasOrAddress,
      assetError 2015 ("Please wait until the fork to create this type of asset. " ++
        "It is on block: " ++ toString ctx.env.nShareFeeBlock))]

def assetActivateChecks : List (Bool × ServiceStop) :=
  [(decide (MAX_GUID_LENGTH < theAsset.vchAsset.length), assetError 2005 "asset guid too long"),
    (decide (theAsset.vchSymbol.length < MIN_SYMBOL_LENGTH) ||
        decide (MAX_SYMBOL_LENGTH < theAsset.vchSymbol.length),
      assetError 2006 "asset symbol must be between 1 and 8 characters in length"),
    (!startsWith theAsset.sCategory assetCategory, assetError 2007 "Must use a asset category"),
    (theAsset.bUseInputRanges && theAsset.listAllocationInputs.isEmpty,
      assetError 2008 "Must specify input range"),
    (!theAsset.bUseInputRanges && !theAsset.listAllocationInputs.isEmpty,
      assetError 2009 "Cannot specify input range for this asset"),
    (isBadRate theAsset.fInterestRate, assetError 2010 "Interest must be between 0 and 1"),
    ((!floatEq theAsset.fInterestRate 0 || theAsset.bCanAdjustInterestRate) &&
        theAsset.bUseInputRanges,
      assetError 2011 "Interest cannot be set on this type of asset")]

def assetUpdateChecks : List (Bool × ServiceStop) :=
  [(isOtherCategory assetCategory theAsset.sCategory, assetError 2016 "Must use a asset category"),
    (decide (theAsset.nBalance < 0), assetError 2017 "Balance must be greator than or equal to 0"),
    (isBadRate theAsset.fInterestRate, assetError 2018 "Interest must be between 0 and 1")]

variable (tx : CTransaction) (op : Nat) (vvchArgs : List Bytes)

def assetOpChecks (theAsset : CAsset) : List (Bool × ServiceStop) :=
  if op = OP_ASSET_ACTIVATE then assetActivateChecks theAsset ++ assetSupplyChecks ctx theAsset
  else if op = OP_ASSET_UPDATE then assetUpdateChecks theAsset
  else if op = OP_ASSET_TRANSFER then
    [(!theAsset.listAllocationInputs.isEmpty, assetError 2019 "Cannot transfer input allocations")]
  else [(true, assetError 2023 "Asset transaction has unknown op")]

def assetArgChecks (vchHash : Bytes) : List (Bool × ServiceStop) :=
  [(decide (vvchArgs.length ≠ 1), assetError 2001 "Asset arguments incorrect size"),
    (decide (vchHash ≠ vvchArgs.headD []),
      assetError 2002 "Hash provided doesn't match the calculated hash of the data")]

def assetSizeChecks : List (Bool × ServiceStop) :=
  [(decide (MAX_NAME_LENGTH < theAsset.sCategory.length), assetError 2003 "Asset category too big"),
    (decide (MAX_VALUE_LENGTH < theAsset.vchPubData.length),
      assetError 2004 "Asset public data too big")]

def assetSendChecks (payload : CAssetAllocation) : List (Bool × ServiceStop) :=
  let inputs := payload.listSendingAllocationInputs
  let amounts := payload.listSendingAllocationAmounts
  [(inputs.isEmpty && amounts.isEmpty,
      assetError 2020 "Asset send must send an input or transfer balance"),
    (decide (250 < inputs.length) || decide (250 < amounts.length), assetError 2021
      "Too many receivers in one allocation send, maximum of 250 is allowed at once"),
    (decide (MAX_MEMO_LENGTH < payload.vchMemo.length),
      assetError 2022 "memo too long, must be 128 character or less")]

def checkAssetMempool : AssetProcedure Unit :=
  if op = OP_ASSET_SEND then do
    let payload ← .orStop assetPayloadError (ctx.env.assetEnv.unserializeAllocation tx)
    refuseFirst (assetArgChecks vvchArgs (dataHash ctx.env tx) ++ assetSendChecks payload)
  else do
    let theAsset ← .orStop assetPayloadError (ctx.env.assetEnv.unserializeAsset tx)
    refuseFirst (assetArgChecks vvchArgs (dataHash ctx.env tx) ++ assetSizeChecks theAsset ++
      assetOpChecks ctx op theAsset)

end

section

inductive Verdict where
  | accepted
  | rejected (reason : String)
  | exception (what : String)
deriving DecidableEq

def Verdict.ofCheck {α : Type} : Except CheckStop α → Verdict
  | .ok _ => .accepted
  | .error (.refused text) => .rejected text
  | .error (.failed text) => .rejected text
  | .error (.exception what) => .exception what

def Verdict.ofToken {α : Type} : Except ServiceStop α → Verdict
  | .ok _ => .accepted
  | .error (.errorMessage text) => .rejected text
  | .error (.exception what) => .exception what

def argsOf (script : Option ServiceScript) : List Bytes := (script.map (·.vvchArgs)).getD []

variable (tx : CTransaction) (op : Nat) (state : ServiceState)

def offerVerdict : Verdict × ServiceState :=
  let outcome := checkOfferMempool ctx state.aliases tx op (argsOf (decodeOfferTx tx))
    (signingAlias ctx.inputs tx) state.offers
  (.ofCheck outcome.1, { state with offers := outcome.2 })

def certVerdict : Verdict × ServiceState :=
  let outcome := checkCertMempool ctx state.aliases tx op (argsOf (decodeCertTx tx))
    (signingAlias ctx.inputs tx) state.certs
  (.ofCheck outcome.1, { state with certs := outcome.2 })

def escrowVerdict : Verdict × ServiceState :=
  let outcome := checkEscrowMempool ctx tx op (argsOf (decodeEscrowTx tx)) state.escrows
  (.ofCheck outcome.1, { state with escrows := outcome.2 })

def allocationVerdict : Verdict × ServiceState :=
  let outcome := checkAssetAllocationInputsIn (.mempool ctx.now) ctx.env.assetEnv ctx.inputs tx op
    (argsOf (decodeAssetAllocationTx tx)) (dataHash ctx.env tx) (signingAlias ctx.inputs tx)
    ctx.nHeight state.tokens
  (.ofToken outcome.1, { state with tokens := outcome.2 })

def assetVerdict : Verdict × ServiceState :=
  let outcome := checkAssetMempool ctx tx op (argsOf (decodeAssetTx tx)) state.tokens
  (.ofToken outcome.1, { state with tokens := outcome.2 })

def serviceVerdict : Verdict × ServiceState :=
  let signed := (aliasInput ctx.inputs tx).isSome
  let unsigned := (Verdict.rejected "no-alias-input-found-mempool", state)
  match serviceCall tx with
  | .allocation op => allocationVerdict ctx tx op state
  | .offer op => if signed then offerVerdict ctx tx op state else unsigned
  | .cert op => if signed then certVerdict ctx tx op state else unsigned
  | .escrow op => if signed then escrowVerdict ctx tx op state else unsigned
  | .asset op => assetVerdict ctx tx op state
  | .none => (.accepted, state)

/-- Before the databases are loaded and while the node is catching up everything passes. -/
def mempoolVerdict : Verdict × ServiceState :=
  if !ctx.fLoaded || ctx.catchingUp || decide (tx.nVersion ≠ MINERIUM_TX_VERSION) then
    (.accepted, state)
  else
    match (aliasInput ctx.inputs tx).bind (checkAliasMempool ctx state.aliases tx) with
    | some stop => (.ofCheck (.error stop : Except CheckStop Unit), state)
    | none => serviceVerdict ctx tx state

def blockVerdict (ctx : BlockContext) (fLoaded fJustCheck flushed : Bool)
    (vtx : List CTransaction) (state : ServiceState) : Verdict × ServiceState :=
  if !fLoaded || fJustCheck then (.accepted, state)
  else
    (match blockException ctx vtx state with
      | some what => .exception what
      | none =>
        if flushed then .accepted else .rejected "Failed to flush minerium databases",
      connectServices ctx vtx state)

end

end Minerium
