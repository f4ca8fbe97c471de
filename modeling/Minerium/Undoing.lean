import Minerium.Disconnect
import Minerium.Node

/-! What `DisconnectBlock` does to the databases, and that on the coins it is the function of
`DisconnectCore`. -/

namespace Minerium

open Procedure

open Procedure (Frame Keeps)

variable {hash160 : Bytes → Bytes} (env : BlockEnv) (node : NodeEnv) (disk : DiskOutcome)

theorem foldrM_zipIdx_map {ε α β γ : Type} {f : α × Nat → β → Except ε β} {g : α → γ → Except ε γ}
    {project : β → γ} (step : ∀ item b, (f item b).map project = g item.1 (project b))
    (items : List α) (n : Nat) (b : β) :
    ((items.zipIdx n).foldrM f b).map project = items.foldrM g (project b) := by
  induction items generalizing n with
  | nil => rfl
  | cons item rest ih =>
    rw [List.zipIdx_cons, List.foldrM_cons, List.foldrM_cons, ← ih (n + 1)]
    cases (rest.zipIdx (n + 1)).foldrM f b with
    | error failure => rfl
    | ok middle => exact step (item, n) middle

theorem undoTxIn_state {position : TxPosition} {spent : (CTxIn × Coin) × Nat} {run : UndoRun} :
    (undoTxIn hash160 position spent run).map (·.state) =
      applyTxInUndo spent.1.2 spent.1.1.prevout run.state := by
  obtain ⟨⟨txin, undo⟩, j⟩ := spent
  simp only [undoTxIn]
  cases applyTxInUndo undo txin.prevout run.state with
  | error failure => rfl
  | ok state => rfl

theorem undoTx_state (nHeight : Nat) {i : Nat} (tx : CTransaction) (txundo : CTxUndo)
    (run : UndoRun) : (undoTx env hash160 nHeight i tx txundo run).map (·.state) =
      disconnectTx env nHeight tx txundo run.state := by
  simp only [undoTx, disconnectTx, restoreInputs]
  split
  · rfl
  · exact foldrM_zipIdx_map (fun item b => undoTxIn_state) _ 0 _

theorem undoTxs_state (hash160 : Bytes → Bytes) (nHeight : Nat)
    (vtx : List CTransaction) (vtxundo : List CTxUndo) (run : UndoRun) :
    (undoTxs env hash160 nHeight vtx vtxundo run).map (·.state) =
      disconnectTxs env nHeight vtx vtxundo run.state := by
  have coinbase : ∀ run : UndoRun, ((vtx.take 1).foldr (undoOutputs env hash160 nHeight 0)
      run).state = (vtx.take 1).foldr (spendOutputs env nHeight) run.state := by
    intro run
    cases vtx with
    | nil => rfl
    | cons first rest => rfl
  simp only [undoTxs, disconnectTxs]
  split
  · rfl
  · have loop := foldrM_zipIdx_map
      (f := fun item run => undoTx env hash160 nHeight (item.2 + 1) item.1.1 item.1.2 run)
      (g := fun item state => disconnectTx env nHeight item.1 item.2 state)
      (fun item b => undoTx_state env nHeight item.1.1 item.1.2 b) (vtx.tail.zip vtxundo) 0 run
    rw [← loop]
    cases ((vtx.tail.zip vtxundo).zipIdx).foldrM (fun item run =>
        undoTx env hash160 nHeight (item.2 + 1) item.1.1 item.1.2 run) run with
    | error failure => rfl
    | ok middle => exact congrArg Except.ok (coinbase middle)

def servicesFrame : Frame Databases where
  good := fun _ => True
  rel := fun before after => after.services = before.services
  refl := fun _ => rfl
  trans := fun first second => second.trans first

theorem undoStep_keeps {step : DiskStep} {write : Indexes → Indexes} :
    Keeps servicesFrame (undoStep disk step write) fun _ => True := by
  unfold undoStep
  cases disk step with
  | none => exact .modify fun _ _ => ⟨trivial, rfl⟩
  | some failure => exact fun _ good => ⟨good, rfl⟩

theorem eraseIndexes_keeps (entries : UndoEntries) :
    Keeps servicesFrame (node.eraseIndexes disk entries) fun _ => True := by
  refine .ite (fun _ => ?_) (fun _ => .pure trivial)
  exact (undoStep_keeps disk).bind fun _ _ => undoStep_keeps disk

theorem disconnectBlock_keeps (keys : PubKeyEnv) (disk : DiskOutcome) (block : CBlock)
    (nHeight : Nat) (file : Bytes) (hashPrev : Uint256) (view : CCoinsViewCache) :
    Keeps servicesFrame
      (node.disconnectBlock keys disk block nHeight file hashPrev view) fun outcome =>
        disconnectBlock keys node.connect.toBlockEnv block nHeight file hashPrev view =
          .ok outcome := by
  refine (Keeps.orStop _ _).bind fun vtxundo read => ?_
  refine (Keeps.liftExcept _).bind fun run undone => ?_
  refine (eraseIndexes_keeps node disk run.entries).bind fun _ _ => .pure ?_
  have state := undoTxs_state node.connect.toBlockEnv node.hash160 nHeight block.vtx vtxundo
    ⟨⟨view, true⟩, UndoEntries.start⟩
  rw [undone] at state
  simp only [disconnectBlock, read, ← state]
  rfl

end Minerium
