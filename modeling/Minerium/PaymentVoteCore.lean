import Minerium.BlockPayeeCore

/-! Masternode payment votes from `masternode-payments.cpp`. What the message handler reads
elsewhere is gathered in `VoteContext`. -/

namespace Minerium

open ByteCodec

def MNPAYMENTS_SIGNATURES_TOTAL : Int := 10
def MIN_MASTERNODE_PAYMENT_PROTO_VERSION_1 : Int := 70206

def Uint256.getHex (value : Uint256) : String :=
  let digits := Nat.toDigits 16 value.toNat
  String.ofList (List.replicate (64 - digits.length) '0' ++ digits)

def COutPoint.toStringShort (outpoint : COutPoint) : String :=
  s!"{Uint256.getHex outpoint.hash}-{outpoint.n}"

structure CMasternodePaymentVote where
  masternodeOutpoint : COutPoint
  nBlockHeight : Int
  nStartHeight : UInt32
  payee : CScript
  vchSig : Bytes
deriving DecidableEq

variable (hash : Bytes → Uint256)

namespace CMasternodePaymentVote

variable (vote : CMasternodePaymentVote)

def isVerified : Bool := !vote.vchSig.isEmpty

def markAsNotVerified : CMasternodePaymentVote :=
  { vote with vchSig := [] }

def getHash : Uint256 :=
  hash (writeBytes vote.payee ++ leBytes 4 (vote.nBlockHeight % 2 ^ 32).toNat ++
    leBytes 4 vote.nStartHeight.toNat ++ serializeOutPoint vote.masternodeOutpoint)

def getSignatureHash : Uint256 :=
  hash (serializeOutPoint vote.masternodeOutpoint ++ leBytes 4 (vote.nBlockHeight % 2 ^ 32).toNat ++
    leBytes 4 vote.nStartHeight.toNat ++ writeBytes vote.payee)

end CMasternodePaymentVote

structure MasternodeInfo where
  pubKeyMasternode : Bytes
  nProtocolVersion : Int
deriving DecidableEq

structure VoteContext where
  fLiteMode : Bool
  fMasternodeMode : Bool
  peerVersion : Int
  minPaymentsProto : Int
  masternodeListSynced : Bool
  storageLimit : Int
  getMasternodeInfo : COutPoint → Option MasternodeInfo
  getMasternodeRank : COutPoint → Int → Int → Option Int
  newSigs : Bool
  verifyHash : Uint256 → Bytes → Bytes → Bool
  hasBlockHash : Int → Bool

structure CMasternodePayments where
  nCachedBlockHeight : Int
  mapMasternodePaymentVotes : AList fun _ : Uint256 => CMasternodePaymentVote
  mapMasternodeBlocks : Finmap fun _ : Int => CMasternodeBlockPayees
  mapMasternodesLastVote : Finmap fun _ : COutPoint => Int

def CMasternodePayments.empty : CMasternodePayments := ⟨0, ∅, ∅, ∅⟩

inductive VoteOutcome where
  | disabled
  | obsoletePeer
  | notSynced
  | seen
  | outOfRange
  | invalid (strError : String)
  | masternodeMissing
  | badSignature (nDos : Nat)
  | alreadyVoted
  | notAdded
  | added
deriving DecidableEq

variable (ctx : VoteContext)

namespace CMasternodePaymentVote

variable (vote : CMasternodePaymentVote)

def minRequiredProtocol (ctx : VoteContext) (nValidationHeight : Int) : Int :=
  if nValidationHeight ≤ vote.nBlockHeight then ctx.minPaymentsProto
  else MIN_MASTERNODE_PAYMENT_PROTO_VERSION_1

def checkRank (ctx : VoteContext) (nValidationHeight : Int) : Except String Unit :=
  match ctx.getMasternodeRank vote.masternodeOutpoint (vote.nBlockHeight - 101)
      (vote.minRequiredProtocol ctx nValidationHeight) with
  | none => .error ""
  | some nRank =>
    if nRank ≤ MNPAYMENTS_SIGNATURES_TOTAL then .ok ()
    else
      let nTop := if MNPAYMENTS_SIGNATURES_TOTAL * 2 < nRank ∧
          nValidationHeight < vote.nBlockHeight then MNPAYMENTS_SIGNATURES_TOTAL * 2
        else MNPAYMENTS_SIGNATURES_TOTAL
      let strMasternode := vote.masternodeOutpoint.toStringShort
      .error s!"Masternode {strMasternode} is not in the top {nTop} ({nRank})"

def isValid (ctx : VoteContext) (nValidationHeight : Int) : Except String Unit :=
  match ctx.getMasternodeInfo vote.masternodeOutpoint with
  | none => .error s!"Unknown masternode={vote.masternodeOutpoint.toStringShort}"
  | some mnInfo =>
    let nMinRequiredProtocol := vote.minRequiredProtocol ctx nValidationHeight
    if mnInfo.nProtocolVersion < nMinRequiredProtocol then
      .error (s!"Masternode protocol is too old: nProtocolVersion={mnInfo.nProtocolVersion}" ++
        s!", nMinRequiredProtocol={nMinRequiredProtocol}")
    else if !ctx.fMasternodeMode && decide (vote.nBlockHeight < nValidationHeight) then .ok ()
    else vote.checkRank ctx nValidationHeight

def checkSignature (hash : Bytes → Uint256) (ctx : VoteContext) (pubKeyMasternode : Bytes) : Bool :=
  !ctx.newSigs || ctx.verifyHash (vote.getSignatureHash hash) pubKeyMasternode vote.vchSig

end CMasternodePaymentVote

variable (state : CMasternodePayments) (vote : CMasternodePaymentVote)

namespace CMasternodePayments

def updateLastVote : Option CMasternodePayments :=
  if state.mapMasternodesLastVote.lookup vote.masternodeOutpoint = some vote.nBlockHeight then none
  else
    some { state with
      mapMasternodesLastVote :=
        state.mapMasternodesLastVote.insert vote.masternodeOutpoint vote.nBlockHeight }

def hasVerifiedPaymentVote (hashIn : Uint256) : Bool :=
  (state.mapMasternodePaymentVotes.lookup hashIn).any (·.isVerified)

end CMasternodePayments

def addPayee (nVoteHash : Uint256) (vote : CMasternodePaymentVote) :
    CMasternodeBlockPayees → CMasternodeBlockPayees
  | [] => [⟨vote.payee, [nVoteHash], vote.nStartHeight⟩]
  | payee :: rest =>
    if payee.scriptPubKey = vote.payee then
      { payee with vecVoteHashes := payee.vecVoteHashes ++ [nVoteHash] } :: rest
    else payee :: addPayee nVoteHash vote rest

namespace CMasternodePayments

def addOrUpdatePaymentVote : Option CMasternodePayments :=
  if !ctx.hasBlockHash (vote.nBlockHeight - 101) then none
  else
    let nVoteHash := vote.getHash hash
    if state.hasVerifiedPaymentVote nVoteHash then none
    else
      some { state with
        mapMasternodePaymentVotes := state.mapMasternodePaymentVotes.insert nVoteHash vote
        mapMasternodeBlocks := state.mapMasternodeBlocks.insert vote.nBlockHeight
          (addPayee nVoteHash vote ((state.mapMasternodeBlocks.lookup vote.nBlockHeight).getD [])) }

/-- The vote is kept, without its signature, before anything else about it is checked. -/
def emplaceVote (nHash : Uint256) (vote : CMasternodePaymentVote) : CMasternodePayments :=
  { state with
    mapMasternodePaymentVotes := state.mapMasternodePaymentVotes.insert nHash
      ((state.mapMasternodePaymentVotes.lookup nHash).getD vote).markAsNotVerified }

def checkVote (nCachedBlockHeight : Int) (vote : CMasternodePaymentVote) : Option VoteOutcome :=
  if vote.nBlockHeight < nCachedBlockHeight - ctx.storageLimit ∨
      nCachedBlockHeight + 20 < vote.nBlockHeight then some .outOfRange
  else
    match vote.isValid ctx nCachedBlockHeight with
    | .error strError => some (.invalid strError)
    | .ok _ =>
      match ctx.getMasternodeInfo vote.masternodeOutpoint with
      | none => some .masternodeMissing
      | some mnInfo =>
        if vote.checkSignature hash ctx mnInfo.pubKeyMasternode then none
        else
          some (.badSignature
            (if ctx.masternodeListSynced ∧ nCachedBlockHeight < vote.nBlockHeight then 20
            else 0))

def countVote : CMasternodePayments × VoteOutcome :=
  match state.updateLastVote vote with
  | none => (state, .alreadyVoted)
  | some state =>
    match state.addOrUpdatePaymentVote hash ctx vote with
    | none => (state, .notAdded)
    | some state => (state, .added)

def processMessage : CMasternodePayments × VoteOutcome :=
  if ctx.fLiteMode then (state, .disabled)
  else if ctx.peerVersion < ctx.minPaymentsProto then (state, .obsoletePeer)
  else if !ctx.masternodeListSynced then (state, .notSynced)
  else
    let nHash := vote.getHash hash
    if state.hasVerifiedPaymentVote nHash then (state, .seen)
    else
      let state := state.emplaceVote nHash vote
      match checkVote hash ctx state.nCachedBlockHeight vote with
      | some outcome => (state, outcome)
      | none => state.countVote hash ctx vote

def removeVote (nLimit : Int) (state : CMasternodePayments) (voteHash : Uint256) :
    CMasternodePayments :=
  match state.mapMasternodePaymentVotes.lookup voteHash with
  | none => state
  | some vote =>
    if nLimit < state.nCachedBlockHeight - vote.nBlockHeight then
      { state with
        mapMasternodePaymentVotes := state.mapMasternodePaymentVotes.erase voteHash
        mapMasternodeBlocks := state.mapMasternodeBlocks.erase vote.nBlockHeight }
    else state

def checkAndRemove (nLimit : Int) (state : CMasternodePayments) : CMasternodePayments :=
  state.mapMasternodePaymentVotes.keys.foldl (removeVote nLimit) state

end CMasternodePayments

inductive PaymentVoteEvent where
  | message (ctx : VoteContext) (vote : CMasternodePaymentVote)
  | updatedBlockTip (nHeight : Int)
  | checkAndRemove (nLimit : Int)

def CMasternodePayments.event : PaymentVoteEvent → CMasternodePayments
  | .message ctx vote => (state.processMessage hash ctx vote).1
  | .updatedBlockTip nHeight => { state with nCachedBlockHeight := nHeight }
  | .checkAndRemove nLimit => state.checkAndRemove nLimit

end Minerium
