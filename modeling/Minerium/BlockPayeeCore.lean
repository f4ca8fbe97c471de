import Minerium.ContextCheckCore

/-! The coinbase of a new block: `CreateNewBlock` of `miner.cpp` and `FillBlockPayments` of
`masternode-payments.cpp`. The next masternode in the queue is an arbitrary function of the
height. -/

namespace Minerium

def TX_CURRENT_VERSION : Int32 := 2

def bestPayeeFrom : Int → Option CMasternodePayee → CMasternodeBlockPayees → Option CMasternodePayee
  | _, best, [] => best
  | nVotes, best, payee :: rest =>
    if nVotes < payee.getVoteCount then bestPayeeFrom payee.getVoteCount (some payee) rest
    else bestPayeeFrom nVotes best rest

def CMasternodeBlockPayees.getBestPayee (vecPayees : CMasternodeBlockPayees) :
    Option CMasternodePayee :=
  bestPayeeFrom (-1) none vecPayees

variable (env : PaymentEnv)

def getBlockPayee (nBlockHeight : Nat) : Option CMasternodePayee :=
  (env.mapMasternodeBlocks nBlockHeight).bind (·.getBestPayee)

variable (queue : Nat → Option CScript) (nBlockHeight : Nat)

/-- The best payee of the votes or else the next masternode in the queue. -/
def payeeToFill : Option CScript :=
  match getBlockPayee env nBlockHeight with
  | some payee => some payee.scriptPubKey
  | none => queue nBlockHeight

structure BlockPayments where
  txNew : CTransaction
  txoutMasternode : CTxOut
  voutSuperblock : List CTxOut
deriving DecidableEq

def setFirstValue (nValue : CAmount) : List CTxOut → List CTxOut
  | [] => []
  | first :: rest => { first with nValue := nValue } :: rest

def sharedFee (nHalfFee : CAmount) : CAmount :=
  if env.consensus.nShareFeeBlock ≤ nBlockHeight then nHalfFee else 0

variable (txNew : CTransaction) (nBlockHeight : Nat)

def fillBlockPayee (fees : CAmount) : BlockPayments :=
  match payeeToFill env queue nBlockHeight with
  | none => ⟨txNew, .null, []⟩
  | some payee =>
    let subsidy := getBlockSubsidy nBlockHeight 0 false true
    let blockReward := subsidy.nTotalRewardWithMasternodes - subsidy.nSubsidy
    let nHalfFee := sharedFee env nBlockHeight (fees / 2)
    let txoutMasternode : CTxOut := ⟨subsidy.nSubsidy + nHalfFee, payee⟩
    ⟨{ txNew with
        vout := setFirstValue (blockReward + nHalfFee) txNew.vout ++ [txoutMasternode] },
      txoutMasternode, []⟩

def createSuperblock : BlockPayments :=
  match getBestSuperblock env nBlockHeight with
  | none => ⟨txNew, .null, []⟩
  | some pSuperblock =>
    let vout := pSuperblock.vecPayments.map fun payment => ⟨payment.nAmount, payment.script⟩
    ⟨{ txNew with vout := txNew.vout ++ vout }, .null, vout⟩

def fillBlockPayments (fees : CAmount) : BlockPayments :=
  if env.isSporkActive .SPORK_9_SUPERBLOCKS_ENABLED && isSuperblockTriggered env nBlockHeight then
    createSuperblock env txNew nBlockHeight
  else fillBlockPayee env queue txNew nBlockHeight fees

variable (scriptPubKeyIn : CScript) (nHeight : Nat) (nFees : CAmount)

def startCoinbase : CTransaction :=
  { nVersion := TX_CURRENT_VERSION
    vin := [{ prevout := ⟨0, 0xffffffff⟩, scriptSig := pushInt64 nHeight ++ [0],
              nSequence := SEQUENCE_FINAL }]
    vout := [⟨(getBlockSubsidy nHeight 0 false false).nSubsidy + nFees, scriptPubKeyIn⟩]
    nLockTime := 0 }

def createCoinbase : BlockPayments :=
  fillBlockPayments env queue (startCoinbase scriptPubKeyIn nHeight nFees) nHeight nFees

end Minerium
