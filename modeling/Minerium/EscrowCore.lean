import Minerium.OfferCore

/-! Escrows in block mode, from `escrow.h` and `escrow.cpp`. Every operation but the activation
starts from the stored record. -/

namespace Minerium

structure CFeedback where
  vchFeedback : Bytes
  nRating : UInt8
  nFeedbackUserTo : UInt8
  nFeedbackUserFrom : UInt8
deriving DecidableEq

def CFeedback.null : CFeedback := ⟨[], 0, 0, 0⟩

def FEEDBACKBUYER : UInt8 := 1
def FEEDBACKSELLER : UInt8 := 2
def FEEDBACKARBITER : UInt8 := 3

structure CEscrow where
  vchEscrow : Bytes
  vchWitness : Bytes
  vchSellerAlias : Bytes
  vchLinkSellerAlias : Bytes
  vchArbiterAlias : Bytes
  vchOffer : Bytes
  scriptSigs : List Bytes
  vchBuyerAlias : Bytes
  feedback : CFeedback
  txHash : Uint256
  extTxId : Uint256
  redeemTxId : Uint256
  nHeight : UInt32
  nPaymentOption : UInt64
  nQty : UInt32
  op : UInt32
  bPaymentAck : Bool
  bBuyNow : Bool
  nWitnessFee : CAmount
  nCommission : CAmount
  nArbiterFee : CAmount
  nNetworkFee : CAmount
  nDeposit : CAmount
  nShipping : CAmount
  nAmountOrBidPerUnit : CAmount
  fBidPerUnit : Float32Bits
  vchRedeemScript : Bytes
  role : UInt8
deriving DecidableEq

def CEscrow.null : CEscrow :=
  { vchEscrow := [], vchWitness := [], vchSellerAlias := [], vchLinkSellerAlias := []
    vchArbiterAlias := [], vchOffer := [], scriptSigs := [], vchBuyerAlias := []
    feedback := CFeedback.null, txHash := 0, extTxId := 0, redeemTxId := 0, nHeight := 0
    nPaymentOption := 0, nQty := 0, op := 0, bPaymentAck := false, bBuyNow := false
    nWitnessFee := 0, nCommission := 0, nArbiterFee := 0, nNetworkFee := 0, nDeposit := 0
    nShipping := 0, nAmountOrBidPerUnit := 0, fBidPerUnit := 0, vchRedeemScript := [], role := 0 }

/-- `extTxIds` are the external payments already used, in the source a part of the offers. -/
structure EscrowState where
  escrows : Table CEscrow.vchEscrow
  extTxIds : List Uint256

def EscrowState.empty : EscrowState := ⟨Table.empty, []⟩

structure EscrowEnv where
  txHash : CTransaction → Uint256
  unserializeEscrow : CTransaction → Option CEscrow
  priceText : Float32Bits → String

def OP_ESCROW_ACTIVATE : Nat := 1
def OP_ESCROW_RELEASE : Nat := 2
def OP_ESCROW_REFUND : Nat := 3
def OP_ESCROW_REFUND_COMPLETE : Nat := 4
def OP_ESCROW_RELEASE_COMPLETE : Nat := 5
def OP_ESCROW_BID : Nat := 6
def OP_ESCROW_ACKNOWLEDGE : Nat := 7
def OP_ESCROW_ADD_SHIPPING : Nat := 8
def OP_ESCROW_FEEDBACK : Nat := 9

def PAYMENTOPTION_MINR : UInt64 := 1

def escrowErrorText (code : Nat) (text : String) : String :=
  "MINERIUM_ESCROW_CONSENSUS_ERROR: ERRCODE: " ++ toString code ++ " - " ++ text

def escrowError (code : Nat) (text : String) : CheckStop := .refused (escrowErrorText code text)

def refuseIf (condition : Bool) (stop : CheckStop) : Except CheckStop Unit :=
  if condition then .error stop else .ok ()

def orRefuse {α : Type} (stop : CheckStop) : Option α → Except CheckStop α
  | some value => .ok value
  | none => .error stop

def stringFromVch (vch : Bytes) :
  String := String.ofList (vch.map fun byte => Char.ofNat byte.toNat)

section

variable (state : EscrowState) (aliases : AliasState) (chain : ActiveChain)

def AliasState.lastExpiry (vchAlias : Bytes) : Option UInt64 :=
  ((aliases.unprunable.lookup vchAlias).filter fun unprunable => !unprunable.isNull).map
    (·.nExpireTime)

/-- The buyer's time, the seller's if the buyer has expired, the arbiter's if both have. The default
is the next height, not a time. -/
def getEscrowExpiration (escrow : CEscrow) : UInt64 :=
  let buyer := (aliases.lastExpiry escrow.vchBuyerAlias).getD (UInt64.ofNat (chain.height + 1))
  if !isExpiredAt chain buyer then buyer
  else
    match aliases.lastExpiry escrow.vchSellerAlias with
    | none => buyer
    | some seller =>
      if !isExpiredAt chain seller then seller
      else (aliases.lastExpiry escrow.vchArbiterAlias).getD seller

def EscrowState.getEscrow (vchEscrow : Bytes) : Option CEscrow :=
  (state.escrows.lookup vchEscrow).filter fun escrow =>
    !decide ((getEscrowExpiration aliases chain escrow).toInt64 ≤ chain.medianTimePast)

end

structure EscrowContext where
  env : EscrowEnv
  aliases : AliasState
  offers : OfferState
  chain : ActiveChain
  dbOffer : COffer
  signer : Bytes
  serialized : CEscrow

def EscrowContext.getOffer (ctx : EscrowContext) (vchOffer : Bytes) : Option COffer :=
  ctx.offers.getOffer ctx.aliases ctx.chain vchOffer

variable (ctx : EscrowContext)

def EscrowContext.hasAlias (vchAlias : Bytes) : Bool :=
  (ctx.aliases.getAlias ctx.chain vchAlias).isSome

section

variable (chain : ActiveChain) (offer : COffer)

def isAuction : Bool := isOfferTypeInMask offer.offerType OFFERTYPE_AUCTION

def isAuctionOver : Bool :=
  decide (0 < offer.auctionOffer.nExpireTime) &&
    decide (offer.auctionOffer.nExpireTime < chain.medianTimePast.toUInt64)

def lacksWitness : Bool :=
  offer.auctionOffer.bRequireWitness && ctx.serialized.vchWitness.isEmpty

def reserveText : String :=
  ctx.env.priceText offer.auctionOffer.fReservePrice ++ " " ++ stringFromVch offer.sCurrencyCode

end

def checkLinkedBid : Except CheckStop Unit := do
  let myLinkOffer ← orRefuse (escrowError 4036 "Cannot find linked offer for this escrow")
    (ctx.getOffer ctx.dbOffer.vchLinkOffer)
  refuseIf (!isAuction myLinkOffer)
    (escrowError 4037 "Cannot bid on a linked offer that is not an auction")
  refuseIf (floatLt ctx.serialized.fBidPerUnit myLinkOffer.auctionOffer.fReservePrice)
    (escrowError 4038 ("Cannot bid below linked offer reserve price of: " ++
      reserveText ctx myLinkOffer))
  refuseIf (isAuctionOver ctx.chain myLinkOffer)
    (escrowError 4039 "Linked offer auction has expired, cannot place bid!")
  refuseIf (lacksWitness ctx myLinkOffer) (escrowError 6116
    "Linked offer auction requires a witness signature for each bid but none provided")

def checkIfLinked (check : Except CheckStop Unit) : Except CheckStop Unit :=
  if ctx.dbOffer.vchLinkOffer.isEmpty then .ok () else check

variable (theEscrow : CEscrow)

def bidEscrow : Except CheckStop CEscrow := do
  let bid := ctx.serialized
  refuseIf (decide (theEscrow.op ≠ .ofNat OP_ESCROW_ACTIVATE))
    (escrowError 4027 "Can only bid on an active escrow")
  refuseIf (decide (ctx.signer ≠ theEscrow.vchBuyerAlias))
    (escrowError 4028 "Only buyer can bid on escrow")
  refuseIf (decide (bid.nAmountOrBidPerUnit ≤ theEscrow.nAmountOrBidPerUnit) ||
      floatLe bid.fBidPerUnit theEscrow.fBidPerUnit)
    (escrowError 4029 "Bid must be higher than the previous bid, please enter a higher amount")
  refuseIf theEscrow.bBuyNow (escrowError 4031
    "Cannot bid on an auction after you have used Buy It Now to purchase an offer")
  refuseIf (!isAuction ctx.dbOffer)
    (escrowError 4032 "Cannot bid on an offer that is not an auction")
  refuseIf (floatLt bid.fBidPerUnit ctx.dbOffer.auctionOffer.fReservePrice)
    (escrowError 4033 ("Cannot bid below offer reserve price of: " ++ reserveText ctx ctx.dbOffer))
  refuseIf (isAuctionOver ctx.chain ctx.dbOffer)
    (escrowError 4034 "Offer auction has expired, cannot place bid!")
  refuseIf (lacksWitness ctx ctx.dbOffer) (escrowError 4035
    "Offer auction requires a witness signature for each bid but none provided")
  checkIfLinked ctx (checkLinkedBid ctx)
  return { theEscrow with
    fBidPerUnit := bid.fBidPerUnit, nAmountOrBidPerUnit := bid.nAmountOrBidPerUnit }

def addShipping : Except CheckStop CEscrow := do
  refuseIf (decide (theEscrow.op ≠ .ofNat OP_ESCROW_ACTIVATE) &&
      decide (theEscrow.op ≠ .ofNat OP_ESCROW_RELEASE))
    (escrowError 6117 "Can only add shipping to an active escrow")
  refuseIf (decide (ctx.serialized.nShipping ≤ theEscrow.nShipping))
    (escrowError 4042 "Shipping total was not increased")
  refuseIf (decide (ctx.signer ≠ theEscrow.vchBuyerAlias))
    (escrowError 4043 "Only buyer can add shipping to an escrow")
  return { theEscrow with nShipping := ctx.serialized.nShipping }

/-- A quantity of `-1` is unlimited; the comparison is of unsigned numbers. -/
def exceedsQty (nQty : UInt32) (offerQty : Int32) : Bool :=
  decide (offerQty ≠ -1) && decide (offerQty.toUInt32 < nQty)

def acknowledgeEscrow : Except CheckStop CEscrow := do
  refuseIf (decide (theEscrow.op ≠ .ofNat OP_ESCROW_ACTIVATE))
    (escrowError 4044 "Can only acknowledge an active escrow")
  refuseIf (decide (ctx.signer ≠ theEscrow.vchSellerAlias))
    (escrowError 4045 "Only seller can acknowledge an escrow payment")
  let nQty := ((ctx.getOffer ctx.dbOffer.vchOffer).map (·.nQty)).getD ctx.dbOffer.nQty
  refuseIf (exceedsQty theEscrow.nQty nQty)
    (escrowError 4046 "Not enough quantity left in this offer for this purchase")
  return { theEscrow with bPaymentAck := true }

structure Handover where
  op : Nat
  verb : String
  party : String
  notActive : Nat
  noLink : Nat
  linkWitness : Nat
  witness : Nat
  noParty : Nat
  noArbiter : Nat
  notSigned : Nat

def refundHandover : Handover := ⟨OP_ESCROW_REFUND, "refund", "seller", 4047, 4049, 4050, 4051,
  4052, 4053, 4054⟩

def releaseHandover : Handover :=
  ⟨OP_ESCROW_RELEASE, "release", "buyer", 4057, 4059, 4060, 4061, 4062, 4063, 4064⟩

def checkLinkedHandover (kind : Handover) : Except CheckStop Unit := do
  let myLinkOffer ← orRefuse (escrowError kind.noLink "Cannot find linked offer for this escrow")
    (ctx.getOffer ctx.dbOffer.vchLinkOffer)
  refuseIf (isAuction myLinkOffer && lacksWitness ctx myLinkOffer) (escrowError kind.linkWitness
      ("Offer auction " ++ kind.verb ++ " requires a witness signature but none provided"))

def handOver (kind : Handover) (party : Bytes) (ctx : EscrowContext) (theEscrow : CEscrow) :
    Except CheckStop CEscrow := do
  refuseIf (decide (theEscrow.op ≠ .ofNat OP_ESCROW_ACTIVATE) &&
      decide (theEscrow.op ≠ .ofNat OP_ESCROW_REFUND) &&
      decide (theEscrow.op ≠ .ofNat OP_ESCROW_RELEASE))
    (escrowError kind.notActive ("Can only " ++ kind.verb ++ " an active escrow"))
  checkIfLinked ctx (checkLinkedHandover ctx kind)
  refuseIf (isAuction ctx.dbOffer && lacksWitness ctx ctx.dbOffer) (escrowError kind.witness
      ("Offer auction " ++ kind.verb ++ " requires a witness signature but none provided"))
  refuseIf (!ctx.hasAlias party)
    (escrowError kind.noParty ("Cannot find " ++ kind.party ++ " alias. It may be expired"))
  refuseIf (!ctx.hasAlias theEscrow.vchArbiterAlias)
    (escrowError kind.noArbiter "Cannot find arbiter alias. It may be expired")
  refuseIf (decide (ctx.signer ≠ party) && decide (ctx.signer ≠ theEscrow.vchArbiterAlias))
    (escrowError kind.notSigned
      ("Only arbiter or " ++ kind.party ++ " can initiate an escrow " ++ kind.verb))
  return { theEscrow with role := ctx.serialized.role, op := .ofNat kind.op }

def refundEscrow : Except CheckStop CEscrow :=
  handOver refundHandover theEscrow.vchSellerAlias ctx theEscrow

def releaseEscrow : Except CheckStop CEscrow :=
  handOver releaseHandover theEscrow.vchBuyerAlias ctx theEscrow

def claimEscrow (op before : Nat) (party : Bytes) (notBefore notSigned : CheckStop)
    (ctx : EscrowContext) (theEscrow : CEscrow) : Except CheckStop CEscrow := do
  refuseIf (decide (theEscrow.op ≠ .ofNat before)) notBefore
  refuseIf (decide (ctx.signer ≠ party)) notSigned
  return { theEscrow with
    redeemTxId :=
      if ctx.serialized.redeemTxId = 0 then theEscrow.redeemTxId else ctx.serialized.redeemTxId
    op := .ofNat op }

def refundComplete : Except CheckStop CEscrow :=
  claimEscrow OP_ESCROW_REFUND_COMPLETE OP_ESCROW_REFUND theEscrow.vchBuyerAlias
    (escrowError 4055 "Can only claim a refunded escrow")
    (escrowError 4056 "Only buyer can claim an escrow refund") ctx theEscrow

def releaseComplete : Except CheckStop CEscrow :=
  claimEscrow OP_ESCROW_RELEASE_COMPLETE OP_ESCROW_RELEASE theEscrow.vchSellerAlias
    (escrowError 4065 "Can only claim a released escrow")
    (escrowError 4066 "Only seller can claim an escrow release") ctx theEscrow

def feedbackEscrow : Except CheckStop CEscrow := do
  let feedback := ctx.serialized.feedback
  let vchSellerAlias :=
    if theEscrow.vchLinkSellerAlias.isEmpty then theEscrow.vchSellerAlias
    else theEscrow.vchLinkSellerAlias
  refuseIf (decide (theEscrow.op = .ofNat OP_ESCROW_ACTIVATE))
    (escrowError 4067 "Can not leave feedback on an active escrow")
  refuseIf (decide (feedback.nFeedbackUserFrom = feedback.nFeedbackUserTo))
    (escrowError 4068 "Cannot send yourself feedback")
  refuseIf (decide (5 < feedback.nRating)) (escrowError 4069
    "Invalid rating, must be less than or equal to 5 and greater than or equal to 0")
  refuseIf (decide (feedback.nFeedbackUserFrom = FEEDBACKBUYER) &&
      decide (ctx.signer ≠ theEscrow.vchBuyerAlias))
    (escrowError 4070 "Only buyer can leave this feedback")
  refuseIf (decide (feedback.nFeedbackUserFrom = FEEDBACKSELLER) &&
      decide (ctx.signer ≠ vchSellerAlias))
    (escrowError 4071 "Only seller can leave this feedback")
  refuseIf (decide (feedback.nFeedbackUserFrom = FEEDBACKARBITER) &&
      decide (ctx.signer ≠ theEscrow.vchArbiterAlias))
    (escrowError 4072 "Only arbiter can leave this feedback")
  refuseIf (decide (feedback.nFeedbackUserFrom ≠ FEEDBACKBUYER) &&
      decide (feedback.nFeedbackUserFrom ≠ FEEDBACKSELLER) &&
      decide (feedback.nFeedbackUserFrom ≠ FEEDBACKARBITER))
    (escrowError 4073 "Unknown feedback user type")
  return theEscrow

def changedEscrow (op : Nat) (theEscrow : CEscrow) : Except CheckStop CEscrow :=
  if op = OP_ESCROW_BID then bidEscrow ctx theEscrow
  else if op = OP_ESCROW_ADD_SHIPPING then addShipping ctx theEscrow
  else if op = OP_ESCROW_ACKNOWLEDGE then acknowledgeEscrow ctx theEscrow
  else if op = OP_ESCROW_REFUND then refundEscrow ctx theEscrow
  else if op = OP_ESCROW_REFUND_COMPLETE then refundComplete ctx theEscrow
  else if op = OP_ESCROW_RELEASE then releaseEscrow ctx theEscrow
  else if op = OP_ESCROW_RELEASE_COMPLETE then releaseComplete ctx theEscrow
  else if op = OP_ESCROW_FEEDBACK then feedbackEscrow ctx theEscrow
  else .ok theEscrow

def withScriptSigs (serialized theEscrow : CEscrow) : CEscrow :=
  { theEscrow with
    scriptSigs :=
      if serialized.scriptSigs.isEmpty then theEscrow.scriptSigs else serialized.scriptSigs }

def checkLinkedPurchase : Except CheckStop Unit := do
  let myLinkOffer ← orRefuse (escrowError 4081 "Cannot find linked offer for this escrow")
    (ctx.getOffer ctx.dbOffer.vchLinkOffer)
  refuseIf (isAuction myLinkOffer &&
      floatLt theEscrow.fBidPerUnit myLinkOffer.auctionOffer.fReservePrice)
    (escrowError 4082 ("Cannot purchase below linked offer reserve price of: " ++
      reserveText ctx ctx.dbOffer))
  refuseIf (isAuction myLinkOffer && isAuctionOver ctx.chain myLinkOffer && !theEscrow.bBuyNow)
    (escrowError 4083 "This linked offer auction has expired, cannot place bid")
  refuseIf (!isOfferTypeInMask myLinkOffer.offerType OFFERTYPE_BUYNOW && theEscrow.bBuyNow)
    (escrowError 4084 "Linked offer does not support the Buy It Now feature")

def activatedEscrow : Except CheckStop CEscrow := do
  refuseIf (decide (ctx.signer ≠ theEscrow.vchBuyerAlias))
    (escrowError 4064 "Only buyer can initiate an escrow")
  let theEscrow := { theEscrow with nQty := if theEscrow.nQty = 0 then 1 else theEscrow.nQty }
  refuseIf (isAuction ctx.dbOffer &&
      floatLt theEscrow.fBidPerUnit ctx.dbOffer.auctionOffer.fReservePrice)
    (escrowError 4076 ("Cannot purchase below offer reserve price of: " ++
      reserveText ctx ctx.dbOffer))
  refuseIf (isAuction ctx.dbOffer && isAuctionOver ctx.chain ctx.dbOffer && !theEscrow.bBuyNow)
    (escrowError 4077 "This auction has expired, cannot place bid")
  refuseIf (!isOfferTypeInMask ctx.dbOffer.offerType OFFERTYPE_BUYNOW && theEscrow.bBuyNow)
    (escrowError 4078 "Offer does not support the Buy It Now feature")
  refuseIf (exceedsQty theEscrow.nQty ctx.dbOffer.nQty)
    (escrowError 4079 "Not enough quantity left in this offer for this purchase")
  checkIfLinked ctx (checkLinkedPurchase ctx theEscrow)
  return { theEscrow with
    vchOffer := ctx.dbOffer.vchOffer, op := .ofNat OP_ESCROW_ACTIVATE }

abbrev EscrowProcedure := Procedure EscrowState CheckStop

/-- An external payment is used once.  A message from before counts as a failure here. -/
def payExternal (errorMessage : String) : EscrowProcedure Unit := do
  let used ← .read fun state => decide (theEscrow.extTxId ∈ state.extTxIds)
  let isPaid := decide (theEscrow.extTxId ≠ 0)
  .require (!(isPaid && used)) (escrowError 4085
    "External Transaction ID specified was already used to pay for an offer")
  .modify fun state =>
    if isPaid then { state with extTxIds := theEscrow.extTxId :: state.extTxIds } else state
  .require errorMessage.isEmpty (escrowError 4085 errorMessage)

def payIfExternal (errorMessage : String) : EscrowProcedure Unit :=
  if theEscrow.nPaymentOption = PAYMENTOPTION_MINR then pure ()
  else payExternal theEscrow errorMessage

def stampedEscrow (env : EscrowEnv) (tx : CTransaction) (nHeight : Nat) (theEscrow : CEscrow) :
    CEscrow :=
  { theEscrow with txHash := env.txHash tx, nHeight := .ofNat nHeight }

def writeEscrow : EscrowProcedure Unit :=
  .modify fun state => { state with escrows := state.escrows.write theEscrow }

def wantedMessage (dbOffer : COffer) : String :=
  if isWanted dbOffer.sCategory then escrowErrorText 4075 "Cannot purchase a wanted offer" else ""

variable (tx : CTransaction)

variable (op nHeight : Nat)

def escrowActivate (theEscrow : CEscrow) : EscrowProcedure String := do
  let activated ← .liftExcept (activatedEscrow ctx theEscrow)
  payIfExternal activated (wantedMessage ctx.dbOffer)
  writeEscrow (stampedEscrow ctx.env tx nHeight activated)
  return wantedMessage ctx.dbOffer

def acknowledgedMessage (theEscrow : CEscrow) : String :=
  if op = OP_ESCROW_ACKNOWLEDGE ∧ theEscrow.bPaymentAck = true then
    escrowErrorText 4026 "Escrow already acknowledged"
  else ""

def escrowChange (theEscrow : CEscrow) : EscrowProcedure String := do
  let changed ← .liftExcept (changedEscrow ctx op (withScriptSigs ctx.serialized theEscrow))
  writeEscrow (stampedEscrow ctx.env tx nHeight changed)
  return acknowledgedMessage op theEscrow

variable (env : EscrowEnv) (aliases : AliasState) (offers : OfferState) (chain : ActiveChain)

def requireParties (op : Nat) (theEscrow : CEscrow) : Except CheckStop Unit :=
  if op = OP_ESCROW_ACTIVATE ∧ theEscrow.bPaymentAck = false then do
    refuseIf (aliases.getAlias chain theEscrow.vchBuyerAlias).isNone
      (escrowError 4022 "Cannot find buyer alias. It may be expired")
    refuseIf (aliases.getAlias chain theEscrow.vchArbiterAlias).isNone
      (escrowError 4023 "Cannot find arbiter alias. It may be expired")
    refuseIf (aliases.getAlias chain theEscrow.vchSellerAlias).isNone
      (escrowError 4024 "Cannot find seller alias. It may be expired")
  else .ok ()

def withWitness (vvchAliasArgs : List Bytes) (theEscrow : CEscrow) : CEscrow :=
  { theEscrow with
    vchWitness :=
      if (vvchAliasArgs.getD 3 []).isEmpty then theEscrow.vchWitness else vvchAliasArgs.getD 3 [] }

/-- The payload is the buffer of the lookup: replaced by the stored record, cleared if that has
expired. -/
def startingEscrow (serialized : CEscrow) (stored found : Option CEscrow) : CEscrow :=
  match stored with
  | none => serialized
  | some _ => found.getD CEscrow.null

def runEscrowOp (theEscrow : CEscrow) : EscrowProcedure String :=
  if op = OP_ESCROW_ACTIVATE then escrowActivate ctx tx nHeight theEscrow
  else escrowChange ctx tx op nHeight theEscrow

def checkEscrowInputs (tx : CTransaction) (op : Nat) (vvchAliasArgs : List Bytes) (nHeight : Nat) :
    EscrowProcedure String :=
  if tx.isCoinBase then pure ""
  else do
    let payload ← .orStop (.refused ("MINERIUM_ESCROW_CONSENSUS_ERROR ERRCODE: 4000 - " ++
        "Cannot unserialize data inside of this transaction relating to an escrow"))
      (env.unserializeEscrow tx)
    .liftExcept (requireParties aliases chain op payload)
    let serialized := withWitness vvchAliasArgs payload
    let stored ← .read fun state => state.escrows.lookup serialized.vchEscrow
    let found ← .read fun state => state.getEscrow aliases chain serialized.vchEscrow
    .require (found.isSome || decide (op = OP_ESCROW_ACTIVATE))
      (escrowError 4025 "Failed to read from escrow DB")
    let theEscrow := startingEscrow serialized stored found
    let dbOffer ← .orStop (escrowError 4048 "Cannot find escrow offer. It may be expired")
      (offers.getOffer aliases chain theEscrow.vchOffer)
    runEscrowOp ⟨env, aliases, offers, chain, dbOffer, vvchAliasArgs.headD [], serialized⟩ tx op
      nHeight theEscrow

end Minerium
