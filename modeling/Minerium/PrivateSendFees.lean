import Minerium.TransactionCore

/-! The charging of uncooperative participants of a mixing session: `ChargeFees` of
`privatesend-server.cpp`. Transactions are compared by their hash. -/

namespace Minerium

open List

inductive PoolState where
  | idle
  | queue
  | acceptingEntries
  | signing
  | error
  | success
deriving DecidableEq

structure CTxDSIn where
  fHasSig : Bool

structure CDarkSendEntry where
  vecTxDSIn : List CTxDSIn
  txCollateral : CTransaction

structure CPrivateSendServer where
  nState : PoolState
  vecSessionCollaterals : List CTransaction
  vecEntries : List CDarkSendEntry

/-- The two results of `GetRandInt(100)` and what `random_shuffle` does. -/
structure FeeChoices where
  nCharge : Fin 100
  nMostly : Fin 100
  shuffle : List CTransaction → List CTransaction
  permutes : ∀ collaterals, (shuffle collaterals).Perm collaterals

namespace CPrivateSendServer

variable (txHash : CTransaction → Uint256) (server : CPrivateSendServer)

def vecOffendersCollaterals : List CTransaction :=
  match server.nState with
  | .acceptingEntries => server.vecSessionCollaterals.filter fun txCollateral =>
      !server.vecEntries.any fun entry => txHash entry.txCollateral = txHash txCollateral
  | .signing => server.vecEntries.flatMap fun entry =>
      (entry.vecTxDSIn.filter fun txdsin => !txdsin.fHasSig).map fun _ => entry.txCollateral
  | _ => []

section

variable (fMasternodeMode : Bool) (nPoolMaxTransactions : Int32)

/-- The collateral that is passed to `AcceptToMemoryPool`. -/
def chargeFees (choices : FeeChoices) : Option CTransaction :=
  let offenders := server.vecOffendersCollaterals txHash
  if !fMasternodeMode then none
  else if 33 < choices.nCharge.val then none
  else if nPoolMaxTransactions - 1 ≤ .ofNat offenders.length ∧ 33 < choices.nMostly.val then none
  else if nPoolMaxTransactions ≤ .ofNat offenders.length then none
  else (choices.shuffle offenders).head?

/-- Of the participants that did, or did not, send their entry or sign all their inputs. -/
def collateralsOf (cooperative : Bool) : List CTransaction :=
  match server.nState with
  | .acceptingEntries => server.vecSessionCollaterals.filter fun txCollateral =>
      (server.vecEntries.any fun entry => txHash entry.txCollateral = txHash txCollateral) =
        cooperative
  | .signing => (server.vecEntries.filter fun entry =>
      entry.vecTxDSIn.all (·.fHasSig) = cooperative).map (·.txCollateral)
  | _ => []

/-- No cooperative participant is charged, and if there are cooperative ones and others then one
of the others can be. -/
def ChargesFairly : Prop :=
  let charged := server.chargeFees txHash fMasternodeMode nPoolMaxTransactions
  (∀ choices, ∀ tx ∈ charged choices, ∀ other ∈ server.collateralsOf txHash true,
    txHash tx ≠ txHash other) ∧
  (server.collateralsOf txHash true ≠ [] → server.collateralsOf txHash false ≠ [] →
    ∃ choices, ∃ tx ∈ charged choices, tx ∈ server.collateralsOf txHash false)

end

/-- Entries that were not sent, or inputs that were not signed. -/
def offences : Nat :=
  match server.nState with
  | .acceptingEntries => (server.collateralsOf txHash false).length
  | .signing => (server.vecEntries.flatMap (·.vecTxDSIn)).countP (!·.fHasSig)
  | _ => 0

variable {txHash : CTransaction → Uint256} {server : CPrivateSendServer} {tx : CTransaction}
  {fMasternodeMode : Bool} {nPoolMaxTransactions : Int32}

theorem mem_offenders_iff : tx ∈ server.vecOffendersCollaterals txHash ↔
    tx ∈ server.collateralsOf txHash false := by
  unfold vecOffendersCollaterals collateralsOf
  cases server.nState with
  | acceptingEntries => simp
  | signing =>
    simp only [mem_flatMap, mem_map, mem_filter, decide_eq_true_eq, all_eq_false,
      Bool.not_eq_true, Bool.not_eq_eq_eq_not, Bool.not_true]
    constructor
    · rintro ⟨entry, member, txdsin, unsigned, rfl⟩
      exact ⟨entry, ⟨member, txdsin, unsigned⟩, rfl⟩
    · rintro ⟨entry, ⟨member, txdsin, unsigned⟩, rfl⟩
      exact ⟨entry, member, txdsin, unsigned, rfl⟩
  | _ => rfl

theorem length_offenders :
    (server.vecOffendersCollaterals txHash).length = server.offences txHash := by
  unfold vecOffendersCollaterals offences collateralsOf
  cases server.nState with
  | acceptingEntries => simp only [Bool.decide_eq_false]
  | signing => simp [length_flatMap, countP_eq_length_filter, filter_flatMap]
  | _ => rfl

theorem charged_iff : (∃ choices,
    tx ∈ server.chargeFees txHash fMasternodeMode nPoolMaxTransactions choices) ↔
    fMasternodeMode = true ∧ .ofNat (server.offences txHash) < nPoolMaxTransactions ∧
      tx ∈ server.collateralsOf txHash false := by
  simp only [chargeFees, length_offenders, ← mem_offenders_iff]
  constructor
  · rintro ⟨choices, charged⟩
    rw [Option.mem_def] at charged
    split_ifs at charged with mode _ _ most
    refine ⟨by simpa using mode, Int32.not_le.mp most, ?_⟩
    exact (choices.permutes _).mem_iff.mp (mem_of_mem_head? charged)
  · rintro ⟨mode, few, offender⟩
    let first (collaterals : List CTransaction) : List CTransaction :=
      if tx ∈ collaterals then tx :: collaterals.erase tx else collaterals
    have permutes (collaterals : List CTransaction) : (first collaterals).Perm collaterals := by
      unfold first
      split
      · exact (perm_cons_erase ‹_›).symm
      · exact .rfl
    refine ⟨⟨0, 0, first, permutes⟩, ?_⟩
    simp [mode, first, offender, few]

theorem chargesFairly_iff (txHash : CTransaction → Uint256) (server : CPrivateSendServer)
    (fMasternodeMode : Bool) (nPoolMaxTransactions : Int32) :
    server.ChargesFairly txHash fMasternodeMode nPoolMaxTransactions ↔
      ∀ offender ∈ server.collateralsOf txHash false, ∀ other ∈ server.collateralsOf txHash true,
        fMasternodeMode = true ∧ .ofNat (server.offences txHash) < nPoolMaxTransactions ∧
          txHash offender ≠ txHash other := by
  constructor
  · rintro ⟨spared, charges⟩ offender offends other cooperates
    obtain ⟨choices, tx, charged, -⟩ := charges (ne_nil_of_mem cooperates) (ne_nil_of_mem offends)
    obtain ⟨mode, few, -⟩ := charged_iff.mp ⟨choices, charged⟩
    obtain ⟨choices, charged⟩ := charged_iff.mpr ⟨mode, few, offends⟩
    exact ⟨mode, few, spared choices offender charged other cooperates⟩
  · intro condition
    refine ⟨fun choices tx charged other cooperates => ?_, fun cooperative offending => ?_⟩
    · obtain ⟨-, -, offends⟩ := charged_iff.mp ⟨choices, charged⟩
      exact (condition tx offends other cooperates).2.2
    · obtain ⟨other, cooperates⟩ := exists_mem_of_ne_nil _ cooperative
      obtain ⟨offender, offends⟩ := exists_mem_of_ne_nil _ offending
      obtain ⟨mode, few, -⟩ := condition offender offends other cooperates
      obtain ⟨choices, charged⟩ := charged_iff.mpr ⟨mode, few, offends⟩
      exact ⟨choices, offender, charged, offends⟩

/-- The first of three participants has signed none of its three inputs. -/
def sampleSession : CPrivateSendServer :=
  let collateral (nLockTime : UInt32) : CTransaction := ⟨1, [], [], nLockTime⟩
  ⟨.signing, [collateral 1, collateral 2, collateral 3],
    [⟨[⟨false⟩, ⟨false⟩, ⟨false⟩], collateral 1⟩, ⟨[⟨true⟩], collateral 2⟩,
      ⟨[⟨true⟩], collateral 3⟩]⟩

theorem sampleSession_uncharged :
    ¬ sampleSession.ChargesFairly (fun tx => .ofNat 256 tx.nLockTime.toNat) true 3 := by
  rintro ⟨-, charges⟩
  obtain ⟨choices, tx, charged, -⟩ := charges (by decide) (by decide)
  exact absurd (charged_iff.mp ⟨choices, charged⟩).2.1 (by decide)

end CPrivateSendServer
end Minerium
