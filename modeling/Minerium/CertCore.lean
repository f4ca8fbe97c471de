import Minerium.AliasCore
import Minerium.AllocationCore

/-! Certificates in block mode, from `cert.h` and `cert.cpp`: the current record, the last one
that proof of work has confirmed and the one of the activation. -/

namespace Minerium

structure CCert where
  vchCert : Bytes
  vchAlias : Bytes
  txHash : Uint256
  nHeight : UInt32
  nAccessFlags : UInt8
  vchTitle : Bytes
  vchPubData : Bytes
  sCategory : Bytes
deriving DecidableEq

def CCert.null : CCert :=
  { vchCert := [], vchAlias := [], txHash := 0, nHeight := 0, nAccessFlags := 2, vchTitle := []
    vchPubData := [], sCategory := [] }

structure CertState where
  certs : Table CCert.vchCert
  lastCerts : Table CCert.vchCert
  firstCerts : Table CCert.vchCert
  arrivalTimes : Finmap fun _ : Bytes => ArrivalTimesMap
  revertedCerts : List Bytes

def CertState.empty : CertState := ⟨Table.empty, Table.empty, Table.empty, ∅, []⟩

structure CertEnv where
  txHash : CTransaction → Uint256
  unserializeCert : CTransaction → Option CCert

def OP_CERT_ACTIVATE : Nat := 1
def OP_CERT_UPDATE : Nat := 2
def OP_CERT_TRANSFER : Nat := 3

def ACCEPT_TRANSFER_CERTIFICATES : UInt8 := 1

abbrev CertProcedure := Procedure CertState CheckStop

def certError (code : Nat) (text : String) : CheckStop :=
  .refused ("MINERIUM_CERTIFICATE_CONSENSUS_ERROR: ERRCODE: " ++ toString code ++ " - " ++ text)

variable (aliases : AliasState)

section

variable (chain : ActiveChain) (op : Nat) (dbCert firstCert theCert : CCert)

/-- Here the expiry time is read as a signed number. -/
def isServiceExpired (vchAlias : Bytes) : Bool :=
  decide ((aliases.expiration chain vchAlias).toInt64 ≤ chain.medianTimePast)

def unexpiredCert (found : Option CCert) : Option CCert :=
  found.filter fun cert => !isServiceExpired aliases chain cert.vchAlias

variable (vchCert : Bytes) (state : CertState)

def CertState.getCert (aliases : AliasState) (chain : ActiveChain) (vchCert : Bytes) :
    Option CCert :=
  unexpiredCert aliases chain (state.certs.lookup vchCert)

def CertState.getFirstCert (aliases : AliasState) (chain : ActiveChain) (vchCert : Bytes) :
    Option CCert :=
  unexpiredCert aliases chain (state.firstCerts.lookup vchCert)

def writeCert (cert : CCert) (state : CertState) : CertState :=
  { state with
    certs := state.certs.write cert
    lastCerts := state.lastCerts.write cert
    firstCerts := if op = OP_CERT_ACTIVATE then state.firstCerts.write cert else state.firstCerts }

def eraseCert : CertState :=
  { state with
    certs := state.certs.erase vchCert
    lastCerts := state.lastCerts.erase vchCert
    firstCerts := state.firstCerts.erase vchCert
    arrivalTimes := state.arrivalTimes.erase vchCert }

def markRevertedCert : CertState :=
  { state with
    arrivalTimes := state.arrivalTimes.erase vchCert
    revertedCerts := vchCert :: state.revertedCerts }

def revertCert : CertState :=
  if vchCert ∈ state.revertedCerts then state
  else
    markRevertedCert vchCert
      (match state.lastCerts.lookup vchCert with
        | some dbCert => writeCert op dbCert state
        | none => eraseCert vchCert state)

def keepCert : CCert :=
  { theCert with
    vchAlias := if theCert.vchAlias.isEmpty then dbCert.vchAlias else theCert.vchAlias
    vchPubData := if theCert.vchPubData.isEmpty then dbCert.vchPubData else theCert.vchPubData
    vchTitle := if theCert.vchTitle.isEmpty then dbCert.vchTitle else theCert.vchTitle
    sCategory := if theCert.sCategory.isEmpty then dbCert.sCategory else theCert.sCategory }

def requireTransfer : CertProcedure Unit := do
  let toAlias ← .orStop
    (certError 3017 "Cannot find alias you are transferring to. It may be expired")
    (aliases.getAlias chain theCert.vchAlias)
  .require (decide (toAlias.nAcceptTransferFlags &&& ACCEPT_TRANSFER_CERTIFICATES ≠ 0))
    (certError 3018 "The alias you are transferring to does not accept certificate transfers")
  .require (!(decide (dbCert.nAccessFlags < 2) && decide (dbCert.vchAlias ≠ firstCert.vchAlias)))
    (certError 3019 "Cannot transfer this certificate. Insufficient privileges.")

def requireEdit : CertProcedure Unit :=
  .require (!(decide (dbCert.nAccessFlags < 1) && decide (dbCert.vchAlias ≠ firstCert.vchAlias)))
    (certError 3020 "Cannot edit this certificate. It is view-only.")

def requireAccess : CertProcedure Unit :=
  if op = OP_CERT_TRANSFER then requireTransfer aliases chain dbCert firstCert theCert
  else if op = OP_CERT_UPDATE then requireEdit dbCert firstCert
  else pure ()

end

variable (env : CertEnv)

variable (tx : CTransaction) (vchAlias : Bytes) (nHeight : Nat) (theCert : CCert)

def stampedCert : CCert :=
  { theCert with nHeight := UInt32.ofNat nHeight, txHash := env.txHash tx }

/-- An update or a transfer, in a block or in the mempool, which write it differently. Both store
the alias that the payload names. -/
def certChange (write : CCert → CertState → CertState) (env : CertEnv) (aliases : AliasState)
    (chain : ActiveChain) (tx : CTransaction) (op : Nat) (vchAlias : Bytes) (nHeight : Nat)
    (theCert : CCert) : CertProcedure Unit := do
  let found ← .read fun state => state.getCert aliases chain theCert.vchCert
  let dbCert ← .orStop (certError 3014 "Failed to read from certificate DB") found
  .require (decide (dbCert.vchAlias = vchAlias)) (certError 3015
    "Cannot update this certificate. Certificate owner must sign off on this change.")
  let first ← .read fun state => state.getFirstCert aliases chain dbCert.vchCert
  let firstCert ← .orStop (certError 3016 "Cannot read first cert from cert DB") first
  let kept := keepCert dbCert theCert
  requireAccess aliases chain op dbCert firstCert kept
  .require (!(decide (dbCert.nAccessFlags < kept.nAccessFlags) &&
      decide (dbCert.vchAlias ≠ firstCert.vchAlias)))
    (certError 3021
      "Cannot modify for more lenient access. Only tighter access level can be granted.")
  .modify (write (stampedCert env tx nHeight kept))

/-- Whether the certificate exists is only checked in the mempool. -/
def certActivate : CertProcedure Unit := do
  .require (decide (theCert.vchAlias = vchAlias)) (certError 3015
    "Cannot create this certificate. Certificate owner must sign off on this change.")
  .modify (writeCert OP_CERT_ACTIVATE (stampedCert env tx nHeight theCert))

def runCertOp (aliases : AliasState) (chain : ActiveChain) (tx : CTransaction)
    (op : Nat) (vchAlias : Bytes) (nHeight : Nat) (theCert : CCert) : CertProcedure Unit :=
  if op = OP_CERT_ACTIVATE then certActivate env tx vchAlias nHeight theCert
  else certChange (writeCert op) env aliases chain tx op vchAlias nHeight theCert

def checkCertInputs (aliases : AliasState) (chain : ActiveChain)
    (tx : CTransaction) (op : Nat) (vchAlias : Bytes) (nHeight : Nat) : CertProcedure Unit :=
  if tx.isCoinBase then pure ()
  else do
    let theCert ← .orStop (.refused ("MINERIUM_CERTIFICATE_CONSENSUS_ERROR ERRCODE: 3002 - " ++
        "Cannot unserialize data inside of this transaction relating to a certificate"))
      (env.unserializeCert tx)
    .modify (revertCert op theCert.vchCert)
    runCertOp env aliases chain tx op vchAlias nHeight theCert

end Minerium
