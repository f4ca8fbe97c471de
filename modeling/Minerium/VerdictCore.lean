import Minerium.ServiceCore

/-! Exceptions of `CheckMineriumInputs` on a block. Nothing in the loop catches what a service
throws. -/

namespace Minerium

def thrown {α : Type} : Except CheckStop α → Option String
  | .error (.exception what) => some what
  | .error (.refused _) => none
  | .error (.failed _) => none
  | .ok _ => none

def thrownToken {α : Type} : Except ServiceStop α → Option String
  | .error (.exception what) => some what
  | .error (.errorMessage _) => none
  | .ok _ => none

variable (ctx : BlockContext) (tx : CTransaction) (state : ServiceState)

def aliasThrows : Option String :=
  (aliasInput ctx.inputs tx).bind fun input =>
    thrown (checkAliasInputs ctx.env.aliasEnv ctx.chain ctx.inputs tx input.op
      input.vvchAliasArgs ctx.nHeight state.aliases).1

variable (op : Nat)

def offerThrows (state : ServiceState) : Option String :=
  thrown (checkOfferInputs ctx.env.offerEnv state.aliases ctx.chain tx op
    (signingAlias ctx.inputs tx) ctx.nHeight state.offers).1

def certThrows (state : ServiceState) : Option String :=
  thrown (checkCertInputs ctx.env.certEnv state.aliases ctx.chain tx op
    (signingAlias ctx.inputs tx) ctx.nHeight state.certs).1

def escrowThrows (state : ServiceState) : Option String :=
  thrown (checkEscrowInputs ctx.env.escrowEnv state.aliases state.offers ctx.chain tx op
    (((aliasInput ctx.inputs tx).map (·.vvchAliasArgs)).getD []) ctx.nHeight state.escrows).1

def allocationThrows (state : ServiceState) : Option String :=
  thrownToken (checkAssetAllocationInputs ctx.env.assetEnv ctx.inputs tx op
    (signingAlias ctx.inputs tx) ctx.nHeight state.tokens).1

def assetThrows (state : ServiceState) : Option String :=
  thrownToken (checkAssetInputs ctx.env.assetEnv ctx.inputs tx op
    (signingAlias ctx.inputs tx) ctx.nHeight state.tokens).1

def serviceException : Option String :=
  let signed := (aliasInput ctx.inputs tx).isSome
  match serviceCall tx with
  | .allocation op => allocationThrows ctx tx op state
  | .offer op => if signed then offerThrows ctx tx op state else none
  | .cert op => if signed then certThrows ctx tx op state else none
  | .escrow op => if signed then escrowThrows ctx tx op state else none
  | .asset op => assetThrows ctx tx op state
  | .none => none

def txException : Option String :=
  if tx.nVersion = MINERIUM_TX_VERSION then
    let checked := checkAlias ctx tx state
    (aliasThrows ctx tx state).or (if checked.1 then serviceException ctx tx checked.2 else none)
  else none

/-- The exception that leaves `CheckMineriumInputs`, if there is one. -/
def blockException (vtx : List CTransaction) (state : ServiceState) : Option String :=
  (serviceVisits ctx vtx state).findSome? fun visit => txException ctx visit.2 visit.1

end Minerium
