import Minerium.AssetAuthority
import Minerium.Footprint

/-! What a transaction does to the other transactions of its block: it may end the loop over the
block, and move them in the order of the block. -/

namespace Minerium

open ServiceState

section

variable (ctx : BlockContext) (named : RecordKey → Prop) (vtx others : List CTransaction)
  (tx : CTransaction) (state : ServiceState)

def AgreeOff (s t : ServiceState) : Prop :=
  ∀ key, ¬named key → SameAt key s t

/-- Whatever the named records hold, the transaction ends alike and leaves the others alike. -/
def Untouching : Prop :=
  ∀ s t, Keyed s.tokens → Keyed t.tokens → AgreeOff named s t →
    (serviceTx ctx tx s).1 = (serviceTx ctx tx t).1 ∧
      AgreeOff named (serviceTx ctx tx s).2 (serviceTx ctx tx t).2

/-- The loop over the block comes to the transaction in this state and ends there. -/
def EndsAt (s : ServiceState) : Prop :=
  (s, tx) ∈ serviceVisits ctx vtx state ∧ (serviceTx ctx tx s).1 = false

/-- The others keep their order without the transaction, and if the loop ends at it no other service
transaction was to come. -/
structure Spares : Prop where
  order : processedVtx ctx others = (processedVtx ctx vtx).erase tx
  last : ∀ s, EndsAt ctx vtx tx state s →
    ∀ other ∈ ((processedVtx ctx vtx).dropWhile (· ≠ tx)).tail, other.nVersion ≠ MINERIUM_TX_VERSION

end

theorem AgreeOff.refl (named : RecordKey → Prop) (s : ServiceState) : AgreeOff named s s :=
  fun key _ => SameAt.refl key s

section

variable {named : RecordKey → Prop} {s t u : ServiceState}

theorem AgreeOff.symm (agree : AgreeOff named s t) : AgreeOff named t s :=
  fun key unnamed => (agree key unnamed).symm

theorem AgreeOff.trans (one : AgreeOff named s t) (two : AgreeOff named t u) : AgreeOff named s u :=
  fun key unnamed => (one key unnamed).trans (two key unnamed)

theorem serviceTx_agreeOff {ctx : BlockContext} {tx : CTransaction} (keyed : Keyed s.tokens)
    (covers : ∀ key, Names ctx tx s key → named key) : AgreeOff named s (serviceTx ctx tx s).2 :=
  fun key unnamed => serviceTx_confined keyed fun isNamed => unnamed (covers key isNamed)

end

section

variable {ctx : BlockContext} {named : RecordKey → Prop} {vtx : List CTransaction}
  {tx : CTransaction} {state : ServiceState}

theorem startBlock_keyed (keyed : Keyed state.tokens) : Keyed state.startBlock.tokens :=
  { keyed with reverted := by simp [startBlock, SortedVector.Sorted] }

theorem visits_keyed (keyed : Keyed state.tokens) {visit : ServiceState × CTransaction}
    (visited : visit ∈ serviceVisits ctx vtx state) : Keyed visit.1.tokens :=
  (Loop.invariant (fun s : ServiceState => Keyed s.tokens) (startBlock_keyed keyed)
    fun _ _ => serviceTx_keyed).2 visit visited

variable (keyed : Keyed state.tokens)
  (covers : ∀ s, (s, tx) ∈ serviceVisits ctx vtx state → ∀ key, Names ctx tx s key → named key)
include keyed covers

theorem connectServices_ended {s : ServiceState} (ends : EndsAt ctx vtx tx state s) :
    AgreeOff named (connectServices ctx vtx state) s := by
  have last : connectServices ctx vtx state = (serviceTx ctx tx s).2 :=
    Loop.run_of_left ends.1 ends.2
  rw [last]
  exact (serviceTx_agreeOff (visits_keyed keyed ends.1) (covers s ends.1)).symm

theorem connectServices_erase
    (untouched : ∀ other ∈ (processedVtx ctx vtx).erase tx, Untouching ctx named other)
    (goesOn : ∀ s, ¬EndsAt ctx vtx tx state s) : AgreeOff named (connectServices ctx vtx state)
      (Loop.run (serviceTx ctx) ((processedVtx ctx vtx).erase tx) state.startBlock) := by
  have start := startBlock_keyed keyed
  refine (@Loop.run_erase _ _ (serviceTx ctx) _
    (fun s t => (Keyed s.tokens ∧ Keyed t.tokens) ∧ AgreeOff named s t) _ _ _ tx
    ⟨⟨start, start⟩, AgreeOff.refl named _⟩ ?_ ?_).2
  · rintro other member s t ⟨⟨keyedS, keyedT⟩, agree⟩
    obtain ⟨same, next⟩ := untouched other member s t keyedS keyedT agree
    exact ⟨same, ⟨serviceTx_keyed keyedS, serviceTx_keyed keyedT⟩, next⟩
  · rintro ⟨s, item⟩ visited rfl
    have onward : (serviceTx ctx item s).1 = true := by
      rw [← Bool.not_eq_false]
      exact fun ended => goesOn s ⟨visited, ended⟩
    refine ⟨onward, fun t related => ?_⟩
    obtain ⟨⟨keyedS, keyedT⟩, agree⟩ := related
    exact ⟨⟨serviceTx_keyed keyedS, keyedT⟩,
      (serviceTx_agreeOff keyedS (covers s visited)).symm.trans agree⟩

end

section

variable {ctx : BlockContext} {named : RecordKey → Prop} {tx : CTransaction}

theorem untouching_plain (plain : tx.nVersion ≠ MINERIUM_TX_VERSION) : Untouching ctx named tx := by
  intro s t _ _ agree
  rw [serviceTx, serviceTx, if_neg plain, if_neg plain]
  exact ⟨rfl, agree⟩

theorem AgreeOff.aliases_eq {s t : ServiceState} (agree : AgreeOff named s t)
    (names : ∀ k, ¬named (.name k)) (addresses : ∀ k, ¬named (.address k)) :
    s.aliases = t.aliases := by
  have sameNames : ∀ k, t.aliases.names.map.lookup k = s.aliases.names.map.lookup k :=
    fun k => congrArg Prod.fst (agree _ (names k))
  have sameExpiry : ∀ k, t.aliases.unprunable.lookup k = s.aliases.unprunable.lookup k :=
    fun k => congrArg Prod.snd (agree _ (names k))
  have sameAddresses : ∀ k, t.aliases.addresses.lookup k = s.aliases.addresses.lookup k :=
    fun k => agree _ (addresses k)
  obtain ⟨⟨⟨sMap, sKeyed⟩, sAddresses, sUnprunable⟩, _, _, _, _⟩ := s
  obtain ⟨⟨⟨tMap, tKeyed⟩, tAddresses, tUnprunable⟩, _, _, _, _⟩ := t
  have one : tMap = sMap := Finmap.ext_lookup sameNames
  have two : tUnprunable = sUnprunable := Finmap.ext_lookup sameExpiry
  have three : tAddresses = sAddresses := Finmap.ext_lookup sameAddresses
  subst one two three
  rfl

theorem AgreeOff.withAliases {s t : ServiceState} (agree : AgreeOff named s t)
    (aliases : AliasState) :
    AgreeOff named { s with aliases := aliases } { t with aliases := aliases } := by
  intro key unnamed
  cases key with
  | name vchAlias => exact rfl
  | address vchAddress => exact rfl
  | cert vchCert => exact agree (.cert vchCert) unnamed
  | offer vchOffer => exact agree (.offer vchOffer) unnamed
  | escrow vchEscrow => exact agree (.escrow vchEscrow) unnamed
  | payment extTxId => exact agree (.payment extTxId) unnamed
  | asset vchAsset => exact agree (.asset vchAsset) unnamed
  | allocation tuple => exact agree (.allocation tuple) unnamed
  | mark text => exact agree (.mark text) unnamed

theorem untouching_aliases (names : ∀ k, ¬named (.name k)) (addresses : ∀ k, ¬named (.address k))
    (called : serviceCall tx = .none) : Untouching ctx named tx := by
  intro s t _ _ agree
  have same := agree.aliases_eq names addresses
  have checked : (checkAlias ctx tx s).1 = (checkAlias ctx tx t).1 ∧
      AgreeOff named (checkAlias ctx tx s).2 (checkAlias ctx tx t).2 := by
    unfold checkAlias
    split
    · exact ⟨rfl, agree⟩
    · rw [same]
      exact ⟨rfl, agree.withAliases _⟩
  have nothing : ∀ state, runService ctx tx state = (true, state) := by
    intro state
    rw [runService, called]
  simp only [serviceTx, nothing, ← checked.1]
  split
  · split
    · exact ⟨rfl, checked.2⟩
    · exact ⟨rfl, checked.2⟩
  · exact ⟨rfl, agree⟩

end

def sampleSuppressEnv : ServiceEnv :=
  sampleServiceEnv fun
    | 0 => some (.alias (sampleAliasRecord [0x61]))
    | _ => some (.cert { CCert.null with vchCert := [0x63], vchAlias := [0x62] })

def sampleSuppress : BlockContext := ⟨sampleSuppressEnv, sampleCoins [[0x51], [0x51]], ⟨0, []⟩, 1⟩

/-- An output of a service, spending no alias. -/
def sampleForeign (service : Service) : CTransaction :=
  sampleServiceTx 1 0 [sampleScript service 1 [[1]]] 1

def sampleRegisters : CTransaction := sampleServiceTx 2 1 [sampleAliasScript 1 [0x61]] 0

section

variable (service : Service)

def sampleNamed (key : RecordKey) : Prop := ∃ s, Names sampleSuppress (sampleForeign service) s key

def sampleSuppressed : List CTransaction :=
  [sampleCoinbase] ++ sampleForeign service :: [sampleRegisters]

variable {service} (foreign : service = .cert ∨ service = .asset)
include foreign

theorem sampleNamed_aliases {k : Bytes} :
    ¬sampleNamed service (.name k) ∧ ¬sampleNamed service (.address k) := by
  have unsigned : aliasInput sampleSuppress.inputs (sampleForeign service) = none := by
    rcases foreign with rfl | rfl
    · decide
    · decide
  simp only [sampleNamed, Names, unsigned]
  refine ⟨?_, ?_⟩
  · rintro ⟨s, input, found, -⟩
    cases found
  · rintro ⟨s, input, found, -⟩
    cases found

theorem sampleSuppressed_untouched : ∀ other ∈
    (processedVtx sampleSuppress (sampleSuppressed service)).erase (sampleForeign service),
      Untouching sampleSuppress (sampleNamed service) other := by
  have order : (processedVtx sampleSuppress (sampleSuppressed service)).erase
      (sampleForeign service) = [sampleCoinbase, sampleRegisters] := by
    rcases foreign with rfl | rfl
    · decide
    · decide
  rw [order]
  intro other member
  rcases List.mem_pair.mp member with rfl | rfl
  · exact untouching_plain (by decide)
  · exact untouching_aliases (fun k => (sampleNamed_aliases foreign).1)
      (fun k => (sampleNamed_aliases foreign).2) (by decide)

end

end Minerium
