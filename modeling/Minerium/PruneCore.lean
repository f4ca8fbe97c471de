import Minerium.NodeCore

/-! Which outputs serialization leaves out, and until when a payload is kept: `GetTimeToPrune`
and `IsSysServiceExpired` of `alias.cpp`, on a chain with a tip. -/

namespace Minerium

variable (env : ServiceEnv) (chain : ActiveChain) (state : ServiceState)

def notPruned : UInt64 := (chain.medianTimePast + 1).toUInt64

/-- An alias that is renewed is kept until the later of its two expiry times. -/
def aliasTimeToPrune (aliases : AliasState) (chain : ActiveChain) (record : CAliasIndex) : UInt64 :=
  match (aliases.unprunable.lookup record.vchAlias).filter fun unprunable => !unprunable.isNull with
  | some unprunable =>
    if !record.vchGUID.isEmpty && decide (unprunable.vchGUID ≠ record.vchGUID) then
      max record.nExpireTime unprunable.nExpireTime
    else unprunable.nExpireTime
  | none => notPruned chain

def storedTimeToPrune {α : Type} (chain : ActiveChain) (expiration : α → UInt64) : Option α → UInt64
  | some stored => expiration stored
  | none => notPruned chain

def getTimeToPrune (scriptPubKey : CScript) : Option UInt64 :=
  match getScriptData scriptPubKey with
  | none => none
  | some (vchData, vchHash) =>
    match env.unserializeAlias vchData vchHash with
    | some record => some (aliasTimeToPrune state.aliases chain record)
    | none =>
      match env.unserializeOffer vchData vchHash with
      | some offer => some (storedTimeToPrune chain
          (fun stored => state.aliases.expiration chain stored.vchAlias)
          (state.offers.offers.lookup offer.vchOffer))
      | none =>
        match env.unserializeCert vchData vchHash with
        | some cert => some (storedTimeToPrune chain
            (fun stored => state.aliases.expiration chain stored.vchAlias)
            (state.certs.certs.lookup cert.vchCert))
        | none =>
          match env.unserializeEscrow vchData vchHash with
          | some escrow => some (storedTimeToPrune chain (getEscrowExpiration state.aliases chain)
              (state.escrows.escrows.lookup escrow.vchEscrow))
          | none => none

def isSysServiceExpired (nTime : UInt64) : Bool := isExpiredAt chain nTime

def pruneEnv : PruneEnv :=
  ⟨getTimeToPrune env chain state, isSysServiceExpired chain⟩

def NodeEnv.inState (node : NodeEnv) (chain : ActiveChain) (state : ServiceState) : NodeEnv :=
  { node with connect := { node.connect with prune := pruneEnv node.services chain state } }

end Minerium
