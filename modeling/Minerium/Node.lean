import Minerium.NodeCore
import Minerium.Connect

/-! What `ConnectBlock` does to the databases, and that on the coins it is the function of
`ConnectCore`. -/

namespace Minerium

open NodeEnv

variable {first second : NodeProcedure Unit} {failure failure' : Option Failure}
  {services : ServiceState} {check : Check} {vtx : List CTransaction} {connected : CoinsConnected}
  {node : NodeEnv} {view : CCoinsViewCache} {block : LoadedBlock} {chain : ActiveChain}
  {pos : CDiskBlockPos} {disk : DiskOutcome} {before : Databases} {fJustCheck : Bool}

theorem connectTxsIndexed_state {σ : Type} (env : ConnectEnv σ) (hash160 : Bytes → Bytes)
    (pos : CDiskBlockPos) (nHeight i : Nat) (vtx : List CTransaction) (connected : CoinsConnected) :
    (connectTxsIndexed env hash160 pos nHeight i vtx connected).map (·.state) =
      connectTxs env nHeight (decide (i = 0)) vtx connected.state := by
  induction vtx generalizing i connected with
  | nil => rfl
  | cons tx rest ih =>
    rw [connectTxsIndexed, connectTxs]
    cases one : connectTx env nHeight (decide (i = 0)) tx connected.state with
    | error failure => rfl
    | ok state => exact ih (i + 1) _

section

variable (node disk)

def NodeEnv.writeFailure : Option Failure :=
  (disk .undo).or ((if node.flags.fTxIndex then disk .txIndex else none).or
    ((if node.flags.fAddressIndex then (disk .addressIndex).or (disk .addressUnspentIndex)
      else none).or
    ((if node.flags.fSpentIndex then disk .spentIndex else none).or
      (if node.flags.fTimestampIndex then disk .timestampIndex else none))))

def failureOf {α : Type} : Except Failure α → Option Failure
  | .ok _ => none
  | .error failure => some failure

structure Leaves (write : NodeProcedure Unit) (before : Databases) (failure : Option Failure)
    (services : ServiceState) : Prop where
  ends : failureOf (write before).1 = failure
  services : (write before).2.services = services

def WritesIndexes (write : NodeProcedure Unit) (failure : Option Failure) : Prop :=
  ∀ before, Leaves write before failure before.services

theorem Leaves.bind (one : Leaves first before failure services)
    (two : WritesIndexes second failure') :
    Leaves (first >>= fun _ => second) before (failure.or failure') services := by
  obtain ⟨ends, left⟩ := one
  have sequence : (first >>= fun _ => second) before =
      Procedure.bind first (fun _ => second) before := rfl
  simp only [Procedure.bind] at sequence
  generalize first before = outcome at ends left sequence
  obtain ⟨result, middle⟩ := outcome
  cases result with
  | error stopped =>
    refine ⟨?_, ?_⟩
    · rw [sequence, ← ends]
      rfl
    · rw [sequence]
      exact left
  | ok _ =>
    obtain ⟨endsAfter, leftAfter⟩ := two middle
    refine ⟨?_, ?_⟩
    · rw [sequence, ← ends]
      exact endsAfter
    · rw [sequence]
      exact leftAfter.trans left

theorem WritesIndexes.bind (one : WritesIndexes first failure)
    (two : WritesIndexes second failure') :
    WritesIndexes (first >>= fun _ => second) (failure.or failure') :=
  fun before => (one before).bind two

theorem diskStep_writes (step : DiskStep) (write : Indexes → Indexes) :
    WritesIndexes (diskStep disk step write) (disk step) := by
  intro before
  unfold diskStep
  cases disk step with
  | none => exact ⟨rfl, rfl⟩
  | some failure => exact ⟨rfl, rfl⟩

end

theorem WritesIndexes.when {write : NodeProcedure Unit} (kept : Bool)
    (one : WritesIndexes write failure) :
    WritesIndexes (writeWhen kept write) (if kept then failure else none) := by
  cases kept with
  | false => exact fun _ => ⟨rfl, rfl⟩
  | true => exact one

theorem liftCheck_writes : WritesIndexes (.liftExcept check) (failureOf check) := by
  intro before
  cases check with
  | error failure => exact ⟨rfl, rfl⟩
  | ok _ => exact ⟨rfl, rfl⟩

theorem throwIf_writes (what : Option String) :
    WritesIndexes (throwIf what) (what.map Failure.exception) := by
  intro before
  cases what with
  | none => exact ⟨rfl, rfl⟩
  | some text => exact ⟨rfl, rfl⟩

theorem writeIndexes_writes {block : CBlock} {entries : IndexEntries} :
    WritesIndexes (node.writeIndexes disk block entries) (node.writeFailure disk) := by
  refine (diskStep_writes disk .undo _).bind ?_
  refine ((diskStep_writes disk .txIndex _).when _).bind ?_
  refine (((diskStep_writes disk .addressIndex _).bind
    (diskStep_writes disk .addressUnspentIndex _)).when _).bind ?_
  exact ((diskStep_writes disk .spentIndex _).when _).bind
    ((diskStep_writes disk .timestampIndex _).when _)

theorem checkMineriumInputs_leaves {ctx : BlockContext} :
    Leaves (checkMineriumInputs ctx disk vtx) before
      (((blockException ctx vtx before.services).map Failure.exception).or (disk .flush))
      (connectServices ctx vtx before.services) := by
  have rest := ((throwIf_writes (blockException ctx vtx before.services)).bind
    (diskStep_writes disk .flush id))
    { before with services := connectServices ctx vtx before.services }
  exact ⟨rest.ends, rest.services⟩

section

variable (node chain disk)

def NodeEnv.lateFailure (block : CBlock) (nHeight : Nat) (nFees : CAmount) : Option Failure :=
  (failureOf (blockReward node.connect block nHeight nFees)).or (node.writeFailure disk)

theorem finishBlock_leaves (block : CBlock) (nHeight : Nat) (pcoinsTip : UtxoMap)
    (connected : CoinsConnected) (before : Databases)
    (ran : Leaves (node.runServices chain disk block.vtx nHeight false pcoinsTip) before failure
      services) :
    Leaves (node.finishBlock chain disk block nHeight false pcoinsTip connected) before
      (failure.or (node.lateFailure disk block nHeight connected.state.nFees)) services :=
  ran.bind (liftCheck_writes.bind (writeIndexes_writes.when true))

end

theorem runServices_loaded (loaded : node.fLoaded = true) (chain : ActiveChain)
    (disk : DiskOutcome) (vtx : List CTransaction) (nHeight : Nat) (pcoinsTip : UtxoMap)
    (before : Databases) : Leaves (node.runServices chain disk vtx nHeight false pcoinsTip) before
      (((blockException (node.context chain pcoinsTip nHeight) vtx before.services).map
        Failure.exception).or (disk .flush))
      (connectServices (node.context chain pcoinsTip nHeight) vtx before.services) := by
  have runs : node.runServices chain disk vtx nHeight false pcoinsTip =
      checkMineriumInputs (node.context chain pcoinsTip nHeight) disk vtx := by
    simp [runServices, loaded]
  rw [runs]
  exact checkMineriumInputs_leaves

theorem runServices_unloaded (unloaded : node.fLoaded = false)
    (chain : ActiveChain) (disk : DiskOutcome) (vtx : List CTransaction) (nHeight : Nat)
    (pcoinsTip : UtxoMap) (before : Databases) :
    Leaves (node.runServices chain disk vtx nHeight false pcoinsTip) before none
      before.services := by
  have nothing : node.runServices chain disk vtx nHeight false pcoinsTip = pure () := by
    simp [runServices, unloaded]
  rw [nothing]
  exact ⟨rfl, rfl⟩

section

variable (node : NodeEnv) (chain : ActiveChain) (disk : DiskOutcome) (pos : CDiskBlockPos)
  (block : LoadedBlock) (nHeight : Nat) (fJustCheck : Bool) (view : CCoinsViewCache)
  (before : Databases)

theorem connectBlock_refused {failure : Failure}
    (refused : connectCoins node.connect node.hash160 pos block nHeight fJustCheck view =
      .error failure) : node.connectBlock chain disk pos block nHeight fJustCheck view before =
      (.error failure, before) := by
  simp only [NodeEnv.connectBlock, refused]
  rfl

theorem connectBlock_genesis
    (genesis : connectCoins node.connect node.hash160 pos block nHeight fJustCheck view =
      .ok none) : node.connectBlock chain disk pos block nHeight fJustCheck view before =
      (.ok (connectedResult view none), before) := by
  simp only [NodeEnv.connectBlock, genesis]
  rfl

theorem connectBlock_finished
    (coins : connectCoins node.connect node.hash160 pos block nHeight fJustCheck view =
      .ok (some connected)) :
    node.connectBlock chain disk pos block nHeight fJustCheck view before =
      ((node.finishBlock chain disk block.toCBlock nHeight fJustCheck view.base connected
          before).1.map fun _ => connectedResult view (some connected),
        (node.finishBlock chain disk block.toCBlock nHeight fJustCheck view.base connected
          before).2) := by
  simp only [NodeEnv.connectBlock, coins]
  change Procedure.bind (node.finishBlock chain disk block.toCBlock nHeight fJustCheck view.base
    connected) (fun _ => pure (connectedResult view (some connected))) before = _
  simp only [Procedure.bind]
  generalize node.finishBlock chain disk block.toCBlock nHeight fJustCheck view.base connected
    before = outcome
  obtain ⟨result, after⟩ := outcome
  cases result with
  | error failure => rfl
  | ok _ => rfl

end

theorem connectBlock_eq_coins {σ : Type} {env : ConnectEnv σ} (hash160 : Bytes → Bytes)
    (pos : CDiskBlockPos) {nHeight : Nat} {services : σ} :
    connectBlock env block nHeight fJustCheck view services =
      (connectCoins env hash160 pos block nHeight fJustCheck view >>= fun
        | none => .ok ⟨view, 0, [], services⟩
        | some coins => do
            let services ← orFail (.error "ConnectBlock(): CheckMineriumInputs failed")
              (env.checkMineriumInputs services view.base block.toCBlock nHeight fJustCheck)
            blockReward env block.toCBlock nHeight coins.state.nFees
            return ⟨coins.state.view, coins.state.nFees, coins.state.vtxundo, services⟩) := by
  unfold connectBlock connectCoins
  cases require (decide (env.stopAtBlock = 0 ∨ nHeight ≤ env.stopAtBlock))
      (.error "stopatblock") with
  | error failure => rfl
  | ok _ =>
    cases checkBlock env.toBlockEnv block.toCBlock (!fJustCheck) (!fJustCheck) with
    | error failure => rfl
    | ok checked =>
      simp only [Bind.bind, Except.bind]
      split
      · rfl
      · cases noOverwrite env.toBlockEnv view block.vtx with
        | error failure => rfl
        | ok fresh =>
          have same := connectTxsIndexed_state env hash160 pos nHeight 0 block.vtx
            ⟨⟨fresh, 0, 0, true, []⟩, .start block.vtx⟩
          rw [show decide (0 = 0) = true from rfl] at same
          simp only [← same]
          cases connectTxsIndexed env hash160 pos nHeight 0 block.vtx
              ⟨⟨fresh, 0, 0, true, []⟩, .start block.vtx⟩ with
          | error failure => rfl
          | ok connected =>
            simp only [Except.map]
            cases require connected.state.scriptsPassed
                (.invalid ⟨100, 0, "", false⟩) with
            | error failure => rfl
            | ok _ => rfl

variable {nHeight i : Nat}

theorem connectTxsIndexed_connectEnv :
    connectTxsIndexed (node.connectEnv chain) node.hash160 pos nHeight i vtx connected =
      connectTxsIndexed node.connect node.hash160 pos nHeight i vtx connected := by
  induction vtx generalizing i connected with
  | nil => rfl
  | cons tx rest ih =>
    have one : connectTx (node.connectEnv chain) nHeight (decide (i = 0)) tx connected.state =
        connectTx node.connect nHeight (decide (i = 0)) tx connected.state := rfl
    simp only [connectTxsIndexed, one, ih]
    rfl

theorem connectCoins_connectEnv :
    connectCoins (node.connectEnv chain) node.hash160 pos block nHeight fJustCheck view =
      connectCoins node.connect node.hash160 pos block nHeight fJustCheck view := by
  simp only [connectCoins, connectTxsIndexed_connectEnv]
  rfl

theorem finishBlock_services (node : NodeEnv) (chain : ActiveChain) (disk : DiskOutcome)
    (block : CBlock) (nHeight : Nat) (pcoinsTip : UtxoMap) (before : Databases) :
    ∃ failure : Option Failure, Leaves (node.finishBlock chain disk block nHeight false pcoinsTip
      connected) before (failure.or (node.lateFailure disk block nHeight connected.state.nFees))
      (node.servicesAfter chain pcoinsTip nHeight block.vtx before.services) := by
  rw [servicesAfter]
  cases loaded : node.fLoaded with
  | false =>
    exact ⟨none, finishBlock_leaves node chain disk block nHeight pcoinsTip connected before
      (runServices_unloaded loaded chain disk block.vtx nHeight pcoinsTip before)⟩
  | true =>
    exact ⟨_, finishBlock_leaves node chain disk block nHeight pcoinsTip connected before
      (runServices_loaded loaded chain disk block.vtx nHeight pcoinsTip before)⟩

theorem check_of_failureOf (passes : failureOf check = none) : check = .ok () := by
  cases check with
  | error failure => cases passes
  | ok _ => rfl

theorem connectBlock_accepted {after : Databases} {result : ConnectResult Unit}
    (accepted : node.connectBlock chain disk pos block nHeight false view before =
      (.ok result, after)) :
    connectBlock (node.connectEnv chain) block nHeight false view before.services =
      .ok ⟨result.view, result.nFees, result.vtxundo, after.services⟩ := by
  rw [connectBlock_eq_coins node.hash160 pos]
  rw [connectCoins_connectEnv]
  cases coins : connectCoins node.connect node.hash160 pos block nHeight false view with
  | error failure =>
    rw [connectBlock_refused node chain disk pos block nHeight false view before coins] at accepted
    cases accepted
  | ok connected =>
    cases connected with
    | none =>
      rw [connectBlock_genesis node chain disk pos block nHeight false view before coins]
        at accepted
      cases accepted
      rfl
    | some connected =>
      rw [connectBlock_finished node chain disk pos block nHeight false view before coins]
        at accepted
      obtain ⟨failure, ends, services⟩ := finishBlock_services node chain disk block.toCBlock
        nHeight view.base before
      generalize node.finishBlock chain disk block.toCBlock nHeight false view.base connected
        before = outcome at accepted ends services
      obtain ⟨ended, left⟩ := outcome
      cases ended with
      | error stopped => cases accepted
      | ok _ =>
        cases accepted
        obtain ⟨-, late⟩ := Option.or_eq_none_iff.mp ends.symm
        obtain ⟨passes, -⟩ := Option.or_eq_none_iff.mp late
        have reward : blockReward (node.connectEnv chain) block.toCBlock nHeight
            connected.state.nFees = .ok () := check_of_failureOf passes
        have written : (node.connectEnv chain).checkMineriumInputs before.services view.base
            block.toCBlock nHeight false = some left.services := by
          rw [show left.services = _ from services, servicesAfter]
          cases loaded : node.fLoaded with
          | false => simp [connectEnv, loaded]
          | true => simp [connectEnv, loaded]
        simp only [Bind.bind, Except.bind, written, orFail, reward]
        rfl

end Minerium
