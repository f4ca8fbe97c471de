import Minerium.ServiceRun

/-! What an alias transaction writes. -/

namespace Minerium

open Procedure (wp wp_bind wp_final wp_liftExcept wp_modify wp_pure wp_read wp_require)

def giveUpAddress (edit : AliasEdit) (dbAlias : CAliasIndex) (state : AliasState) : AliasState :=
  if edit.erasesAddress then { state with addresses := state.addresses.erase dbAlias.vchAddress }
  else state

inductive AliasEffect (env : AliasEnv) (chain : ActiveChain) (tx : CTransaction) (op : Nat)
    (vvchArgs : List Bytes) (nHeight : Nat) (before : AliasState) : AliasState → Prop
  | kept : AliasEffect env chain tx op vvchArgs nHeight before before
  | erased (vchName vchGUID : Bytes) (dbAlias theAlias : CAliasIndex)
      (found : before.getAlias chain (toLower vchName) = some dbAlias)
      (noAddress : (updatedAlias before chain vchName vchGUID dbAlias
        theAlias).theAlias.vchAddress.isEmpty = true) :
      AliasEffect env chain tx op vvchArgs nHeight before
        (giveUpAddress (updatedAlias before chain vchName vchGUID dbAlias theAlias) dbAlias before)
  | updated (vchName vchGUID : Bytes) (dbAlias theAlias : CAliasIndex)
      (args : vvchArgs.take 2 = [vchName, vchGUID]) (isUpdate : op = OP_ALIAS_UPDATE)
      (payload : (aliasPayload env tx).1.isNull = false)
      (found : before.getAlias chain (toLower vchName) = some dbAlias)
      (address : (updatedAlias before chain vchName vchGUID dbAlias
        theAlias).theAlias.vchAddress.isEmpty = false) :
      AliasEffect env chain tx op vvchArgs nHeight before (writeAlias (stampedAlias env tx nHeight
            (updatedAlias before chain vchName vchGUID dbAlias theAlias).theAlias)
          (giveUpAddress (updatedAlias before chain vchName vchGUID dbAlias theAlias) dbAlias
            before))
  | activated (theAlias : CAliasIndex) (notUpdate : op ≠ OP_ALIAS_UPDATE)
      (paid : payExpiry env chain nHeight (aliasPayload env tx).2 (aliasPayload env tx).1 =
        .ok theAlias)
      (payload : theAlias.isNull = false) (address : theAlias.vchAddress.isEmpty = false)
      (free : (before.getAlias chain (toLower (vvchArgs.headD []))).all (·.isNull) = true) :
      AliasEffect env chain tx op vvchArgs nHeight before
        (writeAlias (stampedAlias env tx nHeight theAlias) before)

theorem payExpiry_eq_ok {env : AliasEnv} {chain : ActiveChain} {nHeight : Nat} {output : CTxOut}
    {payload theAlias : CAliasIndex}
    (paid : payExpiry env chain nHeight output payload = .ok theAlias) :
    ∃ nExpireTime, theAlias = { payload with nExpireTime } := by
  unfold payExpiry at paid
  split at paid
  · extract_lets now nTimeExpiry lasts fYears fee at paid
    split at paid
    · cases paid
    · cases paid
      exact ⟨_, rfl⟩
  · cases paid
    exact ⟨payload.nExpireTime, rfl⟩

theorem payExpiry_refuses {env : AliasEnv} {chain : ActiveChain} {nHeight : Nat} {output : CTxOut}
    {payload : CAliasIndex} {stop : CheckStop}
    (unpaid : payExpiry env chain nHeight output payload = .error stop) :
    ∃ text, stop = .refused text := by
  unfold payExpiry at unpaid
  split at unpaid
  · extract_lets now nTimeExpiry lasts fYears fee at unpaid
    split at unpaid
    · cases unpaid
      exact ⟨_, rfl⟩
    · cases unpaid
  · cases unpaid

section

variable (env : AliasEnv) (chain : ActiveChain) (inputs : UtxoMap) (tx : CTransaction) (op : Nat)
  (vvchArgs : List Bytes) (nHeight : Nat)

theorem checkAliasInputs_effect (state : AliasState) :
    AliasEffect env chain tx op vvchArgs nHeight state
      (checkAliasInputs env chain inputs tx op vvchArgs nHeight state).2 := by
  refine wp_final ?_
  unfold checkAliasInputs
  split
  · exact .kept
  split
  · rename_i vchName vchGUID hash vchWitness rest
    simp only [wp_bind, wp_require, wp_read, wp_liftExcept]
    refine ⟨fun _ => ⟨fun _ => ⟨fun readable => ⟨fun theAlias paid => ?_, fun _ _ => .kept⟩,
      fun _ => .kept⟩, fun _ => .kept⟩, fun _ => .kept⟩
    rw [runAliasOp]
    split
    · rename_i isUpdate
      subst isUpdate
      split
      · exact .kept
      · rename_i payload
        obtain ⟨nExpireTime, rfl⟩ := payExpiry_eq_ok paid
        simp only [ne_eq, not_true_eq_false, decide_false, Bool.or_false] at readable
        obtain ⟨dbAlias, found⟩ := Option.isSome_iff_exists.mp readable
        rw [found]
        simp only [aliasUpdate, storeAlias, eraseAddressIf, wp_bind, wp_read, wp_modify,
          wp_require, wp_pure, Bool.not_eq_true', Bool.not_eq_false']
        exact ⟨fun address => .updated vchName vchGUID dbAlias _ rfl rfl
            (Bool.eq_false_iff.mpr payload) found address,
          fun noAddress => .erased vchName vchGUID dbAlias _ found noAddress⟩
    · rename_i notUpdate
      simp only [aliasActivate, storePayload, wp_bind, wp_read, wp_require]
      refine ⟨fun unfound => ⟨fun _ => ?_, fun _ => .kept⟩, fun _ => .kept⟩
      split
      · exact .kept
      · rename_i payload
        have free : (state.getAlias chain (toLower vchName)).all (·.isNull) = true := by
          cases found : state.getAlias chain (toLower vchName) with
          | none => rfl
          | some dbAlias => simpa [found] using unfound
        simp only [storeAlias, wp_bind, wp_require, wp_modify, wp_pure, Bool.not_eq_true']
        exact ⟨fun address => .activated theAlias notUpdate paid (by simpa using payload) address
          free, fun _ => .kept⟩
  · exact .kept

end

/-- The name and the GUID are the found record's; the address is its own or no other alias's in use.
-/
structure SoundEdit (state : AliasState) (chain : ActiveChain) (dbAlias record : CAliasIndex) :
    Prop where
  named : record.vchAlias = dbAlias.vchAlias
  guid : record.vchGUID = dbAlias.vchGUID
  address : record.vchAddress = dbAlias.vchAddress ∨
    isNameOfAnother state chain dbAlias record = false
  addressed : dbAlias.vchAddress ≠ [] → record.vchAddress ≠ []

section

variable (state : AliasState) (chain : ActiveChain) (dbAlias : CAliasIndex)

theorem SoundEdit.refl : SoundEdit state chain dbAlias dbAlias := ⟨rfl, rfl, .inl rfl, id⟩

variable {state chain dbAlias}

theorem refuseEdit_sound {condition : Bool} {message : String} {edit : AliasEdit}
    (sound : condition = false → SoundEdit state chain dbAlias edit.theAlias) :
    SoundEdit state chain dbAlias (refuseEdit condition dbAlias message edit).theAlias := by
  rw [refuseEdit]
  split
  · exact SoundEdit.refl state chain dbAlias
  · rename_i accepted
    exact sound (by simpa using accepted)

theorem keepAlias_addressed {theAlias : CAliasIndex} (addressed : dbAlias.vchAddress ≠ []) :
    (keepAlias dbAlias theAlias).vchAddress ≠ [] := by
  simp only [keepAlias]
  split
  · exact addressed
  · rename_i given
    simpa using given

theorem editAddress_sound {theAlias : CAliasIndex} {errorMessage : String} :
    SoundEdit state chain dbAlias (editAddress state chain dbAlias
      ⟨keepAlias dbAlias theAlias, errorMessage, false⟩).theAlias := by
  unfold editAddress
  split
  · exact refuseEdit_sound fun _ => refuseEdit_sound fun free =>
      ⟨rfl, rfl, .inr free, keepAlias_addressed⟩
  · rename_i same
    exact refuseEdit_sound fun _ => ⟨rfl, rfl, .inl (not_not.mp same).symm, keepAlias_addressed⟩

theorem updatedAlias_sound (vchName vchGUID : Bytes) (theAlias : CAliasIndex) :
    SoundEdit state chain dbAlias
      (updatedAlias state chain vchName vchGUID dbAlias theAlias).theAlias := by
  unfold updatedAlias
  extract_lets errorMessage payload
  split
  · exact refuseEdit_sound fun _ => editAddress_sound
  · exact ⟨rfl, rfl, .inl rfl, id⟩

end

end Minerium
