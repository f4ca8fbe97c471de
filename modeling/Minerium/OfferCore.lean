import Minerium.CertCore

/-! Offers in block mode, from `offer.h` and `offer.cpp`: the current record and the last one that
proof of work has confirmed, which is the one that is read. -/

namespace Minerium

def floatKey (x : Float32Bits) : Int :=
  if floatIsNegative x then -((x &&& 0x7fffffff).toNat : Int) else ((x &&& 0x7fffffff).toNat : Int)

def floatLt (x y : Float32Bits) : Bool :=
  !floatIsNaN x && !floatIsNaN y && decide (floatKey x < floatKey y)

def floatLe (x y : Float32Bits) : Bool :=
  !floatIsNaN x && !floatIsNaN y && decide (floatKey x ≤ floatKey y)

structure CAuctionOffer where
  nExpireTime : UInt64
  fReservePrice : Float32Bits
  bRequireWitness : Bool
  fDepositPercentage : Float32Bits
deriving DecidableEq

def CAuctionOffer.null : CAuctionOffer := ⟨0, 0, false, 0⟩

/-- The source's `==`, which compares prices as numbers. -/
def CAuctionOffer.same (a b : CAuctionOffer) : Bool :=
  decide (a.nExpireTime = b.nExpireTime) && floatEq a.fReservePrice b.fReservePrice &&
    decide (a.bRequireWitness = b.bRequireWitness) &&
    floatEq a.fDepositPercentage b.fDepositPercentage

structure COffer where
  vchOffer : Bytes
  vchAlias : Bytes
  txHash : Uint256
  nHeight : UInt32
  fPrice : Float32Bits
  fUnits : Float32Bits
  nCommission : Int8
  nQty : Int32
  vchLinkOffer : Bytes
  sCurrencyCode : Bytes
  vchCert : Bytes
  bPrivate : Bool
  offerType : UInt32
  paymentOptions : UInt64
  sCategory : Bytes
  sTitle : Bytes
  sDescription : Bytes
  auctionOffer : CAuctionOffer
deriving DecidableEq

def COffer.null : COffer :=
  { vchOffer := [], vchAlias := [], txHash := 0, nHeight := 0, fPrice := 0, fUnits := 0x3f800000
    nCommission := 0, nQty := 0, vchLinkOffer := [], sCurrencyCode := [], vchCert := []
    bPrivate := false, offerType := 0, paymentOptions := 0, sCategory := [], sTitle := []
    sDescription := [], auctionOffer := CAuctionOffer.null }

structure OfferState where
  offers : Table COffer.vchOffer
  lastOffers : Table COffer.vchOffer
  arrivalTimes : Finmap fun _ : Bytes => ArrivalTimesMap
  revertedOffers : List Bytes

def OfferState.empty : OfferState := ⟨Table.empty, Table.empty, ∅, []⟩

structure OfferEnv where
  txHash : CTransaction → Uint256
  unserializeOffer : CTransaction → Option COffer

def OP_OFFER_ACTIVATE : Nat := 1
def OP_OFFER_UPDATE : Nat := 2

def OFFERTYPE_BUYNOW : UInt32 := 1
def OFFERTYPE_AUCTION : UInt32 := 4

def isOfferTypeInMask (mask offerType : UInt32) : Bool := decide (mask &&& offerType ≠ 0)

abbrev OfferProcedure := Procedure OfferState CheckStop

section

variable (code : Nat) (text : String)

def offerErrorText : String :=
  "MINERIUM_OFFER_CONSENSUS_ERROR: ERRCODE: " ++ toString code ++ " - " ++ text

def offerError : CheckStop := .refused (offerErrorText code text)

def offerException : CheckStop := .exception (offerErrorText code text)

end

section

variable (state : OfferState) (aliases : AliasState) (chain : ActiveChain) (vchOffer : Bytes)

/-- The confirmed record, unless the alias of the offer has expired. -/
def OfferState.getOffer : Option COffer :=
  (state.lastOffers.lookup vchOffer).filter fun offer =>
    !isExpiredAt chain (aliases.expiration chain offer.vchAlias)

def writeOffer (offer : COffer) (state : OfferState) : OfferState :=
  { state with offers := state.offers.write offer, lastOffers := state.lastOffers.write offer }

def eraseOffer (state : OfferState) : OfferState :=
  { state with
    offers := state.offers.erase vchOffer
    lastOffers := state.lastOffers.erase vchOffer
    arrivalTimes := state.arrivalTimes.erase vchOffer }

def markRevertedOffer (state : OfferState) : OfferState :=
  { state with
    arrivalTimes := state.arrivalTimes.erase vchOffer
    revertedOffers := vchOffer :: state.revertedOffers }

def revertOffer (state : OfferState) : OfferState :=
  if vchOffer ∈ state.revertedOffers then state
  else
    markRevertedOffer vchOffer
      (match state.lastOffers.lookup vchOffer with
        | some dbOffer => writeOffer dbOffer state
        | none => eraseOffer vchOffer state)

variable (dbOffer theOffer : COffer)

def keepOffer : COffer :=
  { theOffer with
    vchAlias := if theOffer.vchAlias.isEmpty then dbOffer.vchAlias else theOffer.vchAlias
    sCategory := if theOffer.sCategory.isEmpty then dbOffer.sCategory else theOffer.sCategory
    sTitle := if theOffer.sTitle.isEmpty then dbOffer.sTitle else theOffer.sTitle
    sDescription :=
      if theOffer.sDescription.isEmpty then dbOffer.sDescription else theOffer.sDescription
    vchCert := if theOffer.vchCert.isEmpty then dbOffer.vchCert else theOffer.vchCert
    sCurrencyCode :=
      if theOffer.sCurrencyCode.isEmpty then dbOffer.sCurrencyCode else theOffer.sCurrencyCode
    paymentOptions :=
      if theOffer.paymentOptions = 0 then dbOffer.paymentOptions else theOffer.paymentOptions
    vchLinkOffer := dbOffer.vchLinkOffer }

def requireAuctionKept : OfferProcedure Unit := do
  .require (isOfferTypeInMask theOffer.offerType OFFERTYPE_AUCTION)
    (offerError 1024 "Cannot change to this offer type until auction expires")
  .require (!floatLt theOffer.auctionOffer.fReservePrice 0)
    (offerError 1024 "Reserve price must be greator or equal to 0")
  .require (!floatLt theOffer.auctionOffer.fDepositPercentage 0)
    (offerError 1024 "Auction deposit percentage must be greator or equal to 0")
  .require (!(decide (0 < dbOffer.auctionOffer.nExpireTime) &&
      decide (chain.medianTimePast.toUInt64 ≤ dbOffer.auctionOffer.nExpireTime) &&
      !dbOffer.auctionOffer.same theOffer.auctionOffer))
    (offerError 1024 ("Cannot modify auction parameters while it is active. " ++
      "Please wait until auction has expired before updating."))

def requireAuction : OfferProcedure Unit :=
  if isOfferTypeInMask dbOffer.offerType OFFERTYPE_AUCTION then
    requireAuctionKept chain dbOffer theOffer
  else pure ()

end

def withParent (linkOffer theOffer : COffer) : COffer :=
  { theOffer with
    nQty := linkOffer.nQty
    vchCert := linkOffer.vchCert
    fPrice := linkOffer.fPrice
    paymentOptions := linkOffer.paymentOptions
    fUnits := linkOffer.fUnits
    offerType := linkOffer.offerType
    sCurrencyCode := linkOffer.sCurrencyCode
    auctionOffer := linkOffer.auctionOffer }

def stampedOffer (env : OfferEnv) (tx : CTransaction) (nHeight : Nat) (theOffer : COffer) :
    COffer :=
  { theOffer with nHeight := UInt32.ofNat nHeight, txHash := env.txHash tx }

variable (aliases : AliasState) (env : OfferEnv)

variable (chain : ActiveChain) (theOffer : COffer)

def refreshParent : OfferProcedure COffer := do
  let found ← .read fun state => state.getOffer aliases chain theOffer.vchLinkOffer
  let linkOffer ← .orStop (offerError 1096 "Linked offer not found. It may be expired") found
  return withParent linkOffer theOffer

def refreshLinked : OfferProcedure COffer :=
  if theOffer.vchLinkOffer.isEmpty then pure { theOffer with nCommission := 0 }
  else refreshParent aliases chain theOffer

def offerUpdate (write : COffer → OfferState → OfferState) (env : OfferEnv)
    (aliases : AliasState) (chain : ActiveChain) (tx : CTransaction) (vchAlias : Bytes)
    (nHeight : Nat) (theOffer : COffer) : OfferProcedure Unit := do
  let found ← .read fun state => state.getOffer aliases chain theOffer.vchOffer
  let dbOffer ← .orStop (offerError 1048 "Failed to read from offer DB") found
  .require (decide (dbOffer.vchAlias = vchAlias))
    (offerError 2026 "Cannot edit this offer. Offer owner must sign off on this change.")
  let kept := keepOffer dbOffer theOffer
  requireAuction chain dbOffer kept
  let linked ← refreshLinked aliases chain kept
  .modify (write (stampedOffer env tx nHeight linked))

def wantedCategory : Bytes := [0x77, 0x61, 0x6e, 0x74, 0x65, 0x64]

def isWanted (sCategory : Bytes) : Bool := decide (toLower (sCategory.take 6) = wantedCategory)

variable (theAlias : CAliasIndex) (vchAlias : Bytes)

def requireAffiliate (theOffer : COffer) :
    OfferProcedure Unit := do
  let entry ← .orStop
    (offerException 1515 "Cannot find this alias in the parent offer affiliate list")
    (getLinkEntryByHash theAlias.offerWhitelist vchAlias)
  .require (decide (-(entry.nDiscountPct.toNat : Int) < theOffer.nCommission.toInt))
    (offerException 1514
      "This resold offer must be of higher price than the original offer including any discount")

def linkToParent (theOffer : COffer) : OfferProcedure COffer := do
  let found ← .read fun state => state.getOffer aliases chain theOffer.vchLinkOffer
  let linkOffer ← .orStop (offerError 1051 "Linked offer not found. It may be expired") found
  let theAlias ← .orStop (offerError 1051 "Linked offer alias not found. It may be expired")
    (aliases.getAlias chain linkOffer.vchAlias)
  requireAffiliate theAlias vchAlias theOffer
  .require linkOffer.vchLinkOffer.isEmpty
    (offerException 1516 "Cannot link to an offer that is already linked to another offer")
  .require (!isWanted linkOffer.sCategory) (offerException 1517 "Cannot link to a wanted offer")
  return withParent linkOffer theOffer

def linkIfNamed (theOffer : COffer) : OfferProcedure COffer :=
  if theOffer.vchLinkOffer.isEmpty then pure theOffer
  else linkToParent aliases chain vchAlias theOffer

/-- A stored record that has expired clears the transaction's own one, name included. -/
def clearIfStored (stored : Option COffer) : COffer :=
  if stored.isSome then COffer.null else theOffer

def offerActivate (write : COffer → OfferState → OfferState) (env : OfferEnv)
    (aliases : AliasState) (chain : ActiveChain) (tx : CTransaction) (vchAlias : Bytes)
    (nHeight : Nat) (theOffer : COffer) : OfferProcedure Unit := do
  .require (decide (theOffer.vchAlias = vchAlias))
    (offerError 2026 "Cannot create this offer. Offer owner must sign off on this change.")
  let found ← .read fun state => state.getOffer aliases chain theOffer.vchOffer
  .require found.isNone (offerError 1050 "Offer already exists")
  let stored ← .read fun state => state.lastOffers.lookup theOffer.vchOffer
  let linked ← linkIfNamed aliases chain vchAlias (clearIfStored theOffer stored)
  .modify (write (stampedOffer env tx nHeight linked))

/-- In a block and in the mempool, which write the offer differently. -/
def runOfferOp (write : COffer → OfferState → OfferState) (env : OfferEnv)
    (aliases : AliasState) (chain : ActiveChain) (tx : CTransaction) (op : Nat) (vchAlias : Bytes)
    (nHeight : Nat) (theOffer : COffer) : OfferProcedure Unit :=
  if op = OP_OFFER_UPDATE then offerUpdate write env aliases chain tx vchAlias nHeight theOffer
  else offerActivate write env aliases chain tx vchAlias nHeight theOffer

def checkOfferInputs (aliases : AliasState) (chain : ActiveChain)
    (tx : CTransaction) (op : Nat) (vchAlias : Bytes) (nHeight : Nat) : OfferProcedure Unit :=
  if tx.isCoinBase then pure ()
  else do
    let theOffer ← .orStop (.refused ("MINERIUM_OFFER_CONSENSUS_ERROR ERRCODE: 1000 - " ++
        "Cannot unserialize data inside of this transaction relating to an offer"))
      (env.unserializeOffer tx)
    .modify (revertOffer theOffer.vchOffer)
    runOfferOp writeOffer env aliases chain tx op vchAlias nHeight theOffer

end Minerium
