import Minerium.AmountTextCore
import Minerium.Lib.Table
import Minerium.ServiceTxCore

/-! Aliases in block mode, from `alias.h` and `alias.cpp`. Writes succeed, except that
`WriteAlias` refuses an empty address. -/

namespace Minerium

structure COfferLinkWhitelistEntry where
  aliasLinkVchRand : Bytes
  nDiscountPct : UInt8
deriving DecidableEq

abbrev WhitelistMap := List (Bytes × COfferLinkWhitelistEntry)

def putEntry (key : Bytes) (entry : COfferLinkWhitelistEntry) : WhitelistMap → WhitelistMap
  | [] => [(key, entry)]
  | (other, value) :: rest =>
    if key = other then (key, entry) :: rest
    else if key < other then (key, entry) :: (other, value) :: rest
    else (other, value) :: putEntry key entry rest

section

variable (entries : WhitelistMap) (ahash : Bytes)

def putWhitelistEntry (theEntry : COfferLinkWhitelistEntry) :
    WhitelistMap := putEntry theEntry.aliasLinkVchRand theEntry entries

def removeWhitelistEntry : WhitelistMap :=
  entries.filter fun entry => decide (entry.1 ≠ ahash)

def getLinkEntryByHash : Option COfferLinkWhitelistEntry :=
  (entries.lookup ahash).or (entries.lookup [0x2a])

end

structure CAliasIndex where
  vchAlias : Bytes
  vchGUID : Bytes
  txHash : Uint256
  nHeight : UInt32
  nExpireTime : UInt64
  vchAddress : Bytes
  vchEncryptionPublicKey : Bytes
  vchEncryptionPrivateKey : Bytes
  nAcceptTransferFlags : UInt8
  nAccessFlags : UInt8
  vchPublicValue : Bytes
  offerWhitelist : WhitelistMap
deriving DecidableEq

def CAliasIndex.null : CAliasIndex :=
  { vchAlias := [], vchGUID := [], txHash := 0, nHeight := 0, nExpireTime := 0, vchAddress := []
    vchEncryptionPublicKey := [], vchEncryptionPrivateKey := [], nAcceptTransferFlags := 3
    nAccessFlags := 2, vchPublicValue := [], offerWhitelist := [] }

section

variable (state : AliasState) (chain : ActiveChain) (record : CAliasIndex)

def CAliasIndex.isNull : Bool := record.vchAlias.isEmpty

structure CAliasUnprunable where
  vchGUID : Bytes
  nExpireTime : UInt64
deriving DecidableEq

def CAliasUnprunable.isNull (unprunable : CAliasUnprunable) : Bool := unprunable.vchGUID.isEmpty

structure AliasState where
  names : Table CAliasIndex.vchAlias
  addresses : Finmap fun _ : Bytes => Bytes
  unprunable : Finmap fun _ : Bytes => CAliasUnprunable

def AliasState.empty : AliasState := ⟨Table.empty, ∅, ∅⟩

/-- The chain time is compared as an unsigned number. -/
def isExpiredAt (nExpireTime : UInt64) : Bool :=
  decide (nExpireTime ≤ chain.medianTimePast.toUInt64)

def AliasState.getAlias (vchAlias : Bytes) : Option CAliasIndex :=
  (state.names.lookup vchAlias).filter fun record => !isExpiredAt chain record.nExpireTime

/-- `GetAliasExpiration`, `GetCertExpiration` and `GetOfferExpiration` at the alias they name. -/
def AliasState.expiration (vchAlias : Bytes) : UInt64 :=
  match (state.unprunable.lookup vchAlias).filter fun unprunable => !unprunable.isNull with
  | some unprunable => unprunable.nExpireTime
  | none => (chain.medianTimePast + 1).toUInt64

def AliasState.getAliasExpiration : UInt64 := state.expiration chain record.vchAlias

end

inductive CursorKey where
  | namei (vchAlias : Bytes)
  | namea (vchAddress : Bytes)
deriving DecidableEq

/-- The address of an expired alias would be erased, but `GetAlias` finds no expired alias. -/
def cleanupKey (chain : ActiveChain) (state : AliasState) : CursorKey → AliasState
  | .namei vchAlias =>
    match state.names.lookup vchAlias with
    | some txPos =>
      if isExpiredAt chain txPos.nExpireTime then
        { state with names := state.names.erase vchAlias }
      else state
    | none => state
  | .namea vchAddress =>
    match (state.addresses.lookup vchAddress).bind (state.getAlias chain) with
    | some record =>
      if isExpiredAt chain record.nExpireTime then
        { state with addresses := state.addresses.erase record.vchAddress }
      else state
    | none => state

def cleanupDatabase (chain : ActiveChain) (keys : List CursorKey) (state : AliasState) :
    AliasState := keys.foldl (cleanupKey chain) state

/-- The decoding of payloads and the fee arithmetic are arbitrary functions. -/
structure AliasEnv where
  txHash : CTransaction → Uint256
  isNullData : CScript → Bool
  unserializeAlias : Bytes → Bytes → Option CAliasIndex
  aliasFee : CScript → Nat → CAmount
  yearsText : Nat → String

def OP_ALIAS_ACTIVATE : Nat := 1
def OP_ALIAS_UPDATE : Nat := 2

def MAX_ALIAS_UPDATES_PER_BLOCK : Nat := 10
def ONE_YEAR_IN_SECONDS : Nat := 31536000

abbrev AliasProcedure := Procedure AliasState CheckStop

def aliasError (code : Nat) (text : String) : String :=
  "MINERIUM_ALIAS_CONSENSUS_ERROR: ERRCODE: " ++ toString code ++ " - " ++ text

def aliasErrorShort (code : Nat) (text : String) : String :=
  "MINERIUM_ALIAS_CONSENSUS_ERROR: ERRCODE: " ++ toString code ++ " -" ++ text

/-- The payload is an alias only if no output belongs to another service. -/
def hasAliasData (tx : CTransaction) : Bool :=
  tx.vout.all fun out => decide ((findMineriumScriptOp out.scriptPubKey).getD 1 = 1)

variable (env : AliasEnv) (tx : CTransaction) (state : AliasState)

variable (chain : ActiveChain)

def aliasPayload : CAliasIndex × CTxOut :=
  match getMineriumData env.isNullData tx with
  | some data =>
    (if hasAliasData tx then
      (env.unserializeAlias data.vchData data.vchHash).getD CAliasIndex.null
    else CAliasIndex.null, data.output)
  | none => (.null, .null)

def witnessSigFound (inputs : UtxoMap) (tx : CTransaction) (op : Nat) (vchWitness : Bytes) : Bool :=
  decide (op = OP_ALIAS_ACTIVATE) || vchWitness.isEmpty ||
    (spentScripts inputs tx).any fun script =>
      decide ((decodeAliasScript script).bind (·.vvchArgs.head?) = some vchWitness)

def toLowerByte (byte : UInt8) : UInt8 :=
  if 0x41 ≤ byte ∧ byte ≤ 0x5a then byte + 0x20 else byte

def toLower (name : Bytes) : Bytes := name.map toLowerByte

def valueFromAmount (amount : CAmount) : String :=
  let n_abs := amount.toInt.natAbs
  (if amount < 0 then "-" else "") ++ toString (n_abs / 100000000) ++ "." ++
    String.ofList (lastDigits 8 n_abs)

def payExpiry (nHeight : Nat) (output : CTxOut) (theAlias : CAliasIndex)
    : Except CheckStop CAliasIndex :=
  if !theAlias.isNull && theAlias.offerWhitelist.isEmpty && decide (0 < theAlias.nExpireTime) then
    let now := (chain.medianTimePastAt (min nHeight chain.height)).toUInt64
    let nTimeExpiry := theAlias.nExpireTime - now
    let lasts := if nTimeExpiry < 3600 then 3600 else nTimeExpiry
    let fYears := max 1 (lasts.toNat / ONE_YEAR_IN_SECONDS)
    let fee := env.aliasFee output.scriptPubKey fYears
    if output.nValue < fee - 10000 then
      .error (.refused (aliasError 5017 ("Transaction does not pay enough fee: " ++
        valueFromAmount output.nValue ++ "/" ++ valueFromAmount (fee - 10000) ++ "/" ++
        env.yearsText fYears ++ " years.")))
    else
      .ok { theAlias with
        nExpireTime := if nTimeExpiry < 3600 then now + 3600 else theAlias.nExpireTime }
  else .ok theAlias

variable (vchName vchGUID : Bytes) (dbAlias theAlias : CAliasIndex)

def isNameOfAnother : Bool :=
  match state.addresses.lookup theAlias.vchAddress with
  | some vchMyAlias =>
    !vchMyAlias.isEmpty && decide (vchMyAlias ≠ dbAlias.vchAlias) &&
      (state.getAlias chain vchMyAlias).isSome
  | none => false

structure AliasEdit where
  theAlias : CAliasIndex
  errorMessage : String
  erasesAddress : Bool

def keepAlias : CAliasIndex :=
  { theAlias with
    offerWhitelist := dbAlias.offerWhitelist
    vchPublicValue :=
      if theAlias.vchPublicValue.isEmpty then dbAlias.vchPublicValue else theAlias.vchPublicValue
    vchEncryptionPrivateKey :=
      if theAlias.vchEncryptionPrivateKey.isEmpty then dbAlias.vchEncryptionPrivateKey
      else theAlias.vchEncryptionPrivateKey
    vchEncryptionPublicKey :=
      if theAlias.vchEncryptionPublicKey.isEmpty then dbAlias.vchEncryptionPublicKey
      else theAlias.vchEncryptionPublicKey
    nExpireTime := if theAlias.nExpireTime = 0 then dbAlias.nExpireTime else theAlias.nExpireTime
    vchAddress :=
      if theAlias.vchAddress.isEmpty then dbAlias.vchAddress else theAlias.vchAddress
    vchGUID := dbAlias.vchGUID
    vchAlias := dbAlias.vchAlias }

def refuseEdit (condition : Bool) (dbAlias : CAliasIndex) (message : String) (edit : AliasEdit) :
    AliasEdit :=
  if condition then { edit with theAlias := dbAlias, errorMessage := message } else edit

def editAddress (edit : AliasEdit) : AliasEdit :=
  if dbAlias.vchAddress ≠ edit.theAlias.vchAddress then
    let edit := refuseEdit (isNameOfAnother state chain dbAlias edit.theAlias) dbAlias
      (aliasError 5021 "An alias already exists with that address, try another public key") edit
    let edit := refuseEdit (decide (dbAlias.nAccessFlags < 2)) dbAlias
      (aliasError 5022 "Cannot edit this alias. Insufficient privileges.") edit
    { edit with erasesAddress := edit.errorMessage.isEmpty }
  else
    refuseEdit (decide (dbAlias.nAccessFlags < 1)) dbAlias
      (aliasError 5023 "Cannot edit this alias. It is view-only.") edit

def editAlias (errorMessage : String) : AliasEdit :=
  let edit := editAddress state chain dbAlias ⟨keepAlias dbAlias theAlias, errorMessage, false⟩
  refuseEdit (decide (dbAlias.nAccessFlags < edit.theAlias.nAccessFlags)) dbAlias (aliasError 5024
      "Cannot modify for more lenient access. Only tighter access level can be granted.") edit

def toggleEntry (outcome : WhitelistMap × String) (newEntry : COfferLinkWhitelistEntry) :
    WhitelistMap × String :=
  if 99 < newEntry.nDiscountPct then
    (outcome.1, aliasErrorShort 5027 "Whitelist discount must be between 0 and 99")
  else if getLinkEntryByHash outcome.1 newEntry.aliasLinkVchRand = some newEntry then
    (removeWhitelistEntry outcome.1 newEntry.aliasLinkVchRand, outcome.2)
  else if outcome.1.length < 20 then (putWhitelistEntry outcome.1 newEntry, outcome.2)
  else
    (outcome.1, aliasErrorShort 5028
      "Too many affiliates for this whitelist, maximum 20 entries allowed")

def editWhitelist (whiteList stored : WhitelistMap) (errorMessage : String) :
    WhitelistMap × String :=
  if 20 < whiteList.length then
    ([], aliasErrorShort 5025 "Too many affiliates for this whitelist, maximum 20 entries allowed")
  else if whiteList.length = 1 ∧ whiteList.map (·.2.nDiscountPct) = [127] then
    if stored.isEmpty then (stored, aliasError 5026 "Whitelist is already empty")
    else ([], errorMessage)
  else (whiteList.map (·.2)).foldl toggleEntry (stored, errorMessage)

def isMismatch : Bool :=
  decide (dbAlias.vchGUID ≠ vchGUID) || decide (dbAlias.vchAlias ≠ vchName)

def mismatchMessage : String :=
  if isMismatch vchName vchGUID dbAlias then
    aliasError 5020 "Cannot edit this alias, guid mismatch"
  else ""

/-- With another name or GUID the payload counts as the stored record, whitelist included. -/
def updatedAlias : AliasEdit :=
  let errorMessage := mismatchMessage vchName vchGUID dbAlias
  let theAlias := if isMismatch vchName vchGUID dbAlias then dbAlias else theAlias
  if theAlias.offerWhitelist.isEmpty then editAlias state chain dbAlias theAlias errorMessage
  else
    let edited := editWhitelist theAlias.offerWhitelist dbAlias.offerWhitelist errorMessage
    ⟨{ dbAlias with offerWhitelist := edited.1 }, edited.2, false⟩

def writeAlias (state : AliasState) : AliasState where
  names := state.names.write theAlias
  addresses := state.addresses.insert theAlias.vchAddress theAlias.vchAlias
  unprunable := state.unprunable.insert theAlias.vchAlias ⟨theAlias.vchGUID, theAlias.nExpireTime⟩

variable (nHeight : Nat)

def stampedAlias (theAlias : CAliasIndex) : CAliasIndex :=
  { theAlias with nHeight := UInt32.ofNat nHeight, txHash := env.txHash tx }

def storeAlias (theAlias : CAliasIndex) : AliasProcedure Unit := do
  .require (!theAlias.vchAddress.isEmpty) (.failed (aliasError 5031 "Failed to write to alias DB"))
  .modify (writeAlias (stampedAlias env tx nHeight theAlias))

def storePayload (theAlias : CAliasIndex) : AliasProcedure Unit :=
  if theAlias.isNull then pure () else storeAlias env tx nHeight theAlias

def eraseAddressIf (condition : Bool) (address : Bytes) : AliasProcedure Unit :=
  .modify fun state =>
    if condition then { state with addresses := state.addresses.erase address } else state

def aliasUpdate (tx : CTransaction) (nHeight : Nat) (vchName vchGUID : Bytes)
    (dbAlias theAlias : CAliasIndex) : AliasProcedure String := do
  let edit ← .read fun state => updatedAlias state chain vchName vchGUID dbAlias theAlias
  eraseAddressIf edit.erasesAddress dbAlias.vchAddress
  storeAlias env tx nHeight edit.theAlias
  return edit.errorMessage

/-- Stored under the name in the payload, looked up under the name in the script. -/
def aliasActivate (tx : CTransaction) (nHeight : Nat) (found : Bool) (theAlias : CAliasIndex)
    : AliasProcedure String := do
  .require (!found) (.refused (aliasError 5029 "Trying to renew an alias that isn't expired"))
  let taken ← .read fun state =>
    (state.addresses.lookup theAlias.vchAddress).isSome &&
      !isExpiredAt chain (state.getAliasExpiration chain theAlias)
  .require (!taken) (.refused (aliasError 5030
    "Trying to create an alias with an address of an alias that isn't expired"))
  storePayload env tx nHeight theAlias
  return ""

def runAliasOp (tx : CTransaction) (op nHeight : Nat) (vchName vchGUID : Bytes)
    (found : Option CAliasIndex) (theAlias : CAliasIndex) : AliasProcedure String :=
  let dbAlias := found.getD CAliasIndex.null
  if op = OP_ALIAS_UPDATE then
    if theAlias.isNull then pure (mismatchMessage vchName vchGUID dbAlias)
    else aliasUpdate env chain tx nHeight vchName vchGUID dbAlias theAlias
  else aliasActivate env chain tx nHeight (!dbAlias.isNull) theAlias

/-- A registration has one argument, and is not looked at before its activation comes. -/
def checkAliasInputs (inputs : UtxoMap) (tx : CTransaction) (op : Nat) (vvchArgs : List Bytes)
    (nHeight : Nat) : AliasProcedure String :=
  if tx.isCoinBase then pure ""
  else
    match vvchArgs with
    | vchName :: vchGUID :: _ :: vchWitness :: _ => do
        .require (decide (tx.vout.length ≤ MAX_ALIAS_UPDATES_PER_BLOCK + 4))
          (.failed (aliasError 5002 "Too many outputs for this Minerium transaction"))
        .require (witnessSigFound inputs tx op vchWitness)
          (.failed (aliasError 5003 "Witness signature not found"))
        let found ← .read fun state => state.getAlias chain (toLower vchName)
        .require (found.isSome || decide (op ≠ OP_ALIAS_UPDATE))
          (.refused (aliasError 5016 "Failed to read from alias DB"))
        let theAlias ← .liftExcept
          (payExpiry env chain nHeight (aliasPayload env tx).2 (aliasPayload env tx).1)
        runAliasOp env chain tx op nHeight vchName vchGUID found theAlias
    | _ => pure ""

end Minerium
