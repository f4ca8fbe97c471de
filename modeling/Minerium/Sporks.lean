import Minerium.Lib.Run
import Minerium.SporkCore

/-! Authenticity of the active sporks. A signature is only checked while `SPORK_6_NEW_SIGS` is
active, itself set by a message. -/

namespace Minerium

open CSporkManager Run

variable {manager : CSporkManager} {keys : SporkKeys} {message : SporkEvent}

namespace CSporkManager

def Verifies (keys : SporkKeys) (spork : CSporkMessage) : Prop :=
  keys.verifyHash (spork.getHash keys.hash) keys.sporkPubKeyID spork.vchSig = true

instance (spork : CSporkMessage) : Decidable (Verifies keys spork) :=
  inferInstanceAs (Decidable (_ = true))

def Authentic (keys : SporkKeys) (manager : CSporkManager) : Prop :=
  ∀ nSporkID spork, manager.mapSporksActive.lookup nSporkID = some spork → Verifies keys spork

def Advances (manager next : CSporkManager) : Prop :=
  ∀ nSporkID spork, manager.mapSporksActive.lookup nSporkID = some spork →
    ∃ latest, next.mapSporksActive.lookup nSporkID = some latest ∧
      spork.nTimeSigned ≤ latest.nTimeSigned

theorem executeSpork_active {time : Int64} {nSporkID nValue : Int32} :
    (manager.executeSpork time nSporkID nValue).1.mapSporksActive = manager.mapSporksActive := by
  unfold executeSpork
  split
  · split
    · rfl
    · split <;> rfl
  · rfl

theorem event_cases : (manager.event keys message).mapSporksActive = manager.mapSporksActive ∨
      manager.alreadySeen message.spork = false ∧
      manager.checkSignature keys message.ctx.adjustedTime message.spork = true ∧
      (manager.event keys message).mapSporksActive =
        manager.mapSporksActive.write message.spork := by
  unfold event processSpork
  split
  · exact .inl rfl
  split
  · exact .inl rfl
  split
  · exact .inl rfl
  rename_i new
  split
  · exact .inl rfl
  rename_i signed
  refine .inr ⟨Bool.eq_false_iff.mpr new, ?_, executeSpork_active⟩
  simpa only [Bool.not_eq_true', Bool.not_eq_false] using signed

theorem event_advances : Advances manager (manager.event keys message) := by
  intro nSporkID spork found
  rcases event_cases with same | ⟨new, _, written⟩
  · exact ⟨spork, by rw [same, found], Int64.le_refl _⟩
  · rw [written]
    by_cases same : nSporkID = message.spork.nSporkID
    · subst same
      refine ⟨message.spork, Table.lookup_write_self, ?_⟩
      rw [alreadySeen, found, Option.any_some, decide_eq_false_iff_not] at new
      exact Int64.le_of_lt (Int64.not_le.mp new)
    · exact ⟨spork, (Table.lookup_write_ne same).trans found, Int64.le_refl _⟩

theorem Advances.trans {manager middle next : CSporkManager} (first : Advances manager middle)
    (second : Advances middle next) : Advances manager next := by
  intro nSporkID spork found
  obtain ⟨later, foundLater, le⟩ := first nSporkID spork found
  obtain ⟨latest, foundLatest, leLatest⟩ := second nSporkID later foundLater
  exact ⟨latest, foundLatest, Int64.le_trans le leLatest⟩

theorem run_advances (keys : SporkKeys) (manager : CSporkManager) (messages : List SporkEvent) :
    Advances manager (run (event keys) manager messages) :=
  invariant_always (fun _ _ before => before.trans event_advances)
    (fun _ spork found => ⟨spork, found, Int64.le_refl _⟩) messages

/-- The message arrives while signatures are checked, or would pass the check. -/
def MessagePermitted (keys : SporkKeys) (manager : CSporkManager) (message : SporkEvent) : Prop :=
  manager.isActive message.ctx.adjustedTime SporkId.SPORK_6_NEW_SIGS.number = true ∨
    Verifies keys message.spork

instance : Decidable (MessagePermitted keys manager message) := inferInstanceAs (Decidable (_ ∨ _))

theorem verifies_of_checkSignature (permitted : MessagePermitted keys manager message)
    (checked : manager.checkSignature keys message.ctx.adjustedTime message.spork = true) :
    Verifies keys message.spork := by
  rcases permitted with active | verified
  · rw [checkSignature, active] at checked
    exact checked
  · exact verified

theorem event_authentic (keys : SporkKeys) (manager : CSporkManager) (message : SporkEvent)
    (authentic : Authentic keys manager) (permitted : MessagePermitted keys manager message) :
    Authentic keys (manager.event keys message) := by
  intro nSporkID spork found
  rcases event_cases with same | ⟨_, checked, written⟩
  · rw [same] at found
    exact authentic nSporkID spork found
  · rw [written, Table.lookup_write] at found
    split at found
    · cases found
      exact verifies_of_checkSignature permitted checked
    · exact authentic nSporkID spork found

theorem initial_authentic (keys : SporkKeys) : Authentic keys initial := by
  intro nSporkID spork found
  cases found

theorem sporks_authentic (keys : SporkKeys) (earlier later : List SporkEvent)
    (permitted : Run.Permitted (event keys) (MessagePermitted keys) initial (earlier ++ later)) :
    Authentic keys (run (event keys) initial (earlier ++ later)) ∧
      Advances (run (event keys) initial earlier)
        (run (event keys) initial (earlier ++ later)) := by
  refine ⟨invariant (event_authentic keys) (initial_authentic keys) permitted, ?_⟩
  rw [run, run, List.foldl_append]
  exact run_advances keys _ later

end CSporkManager

def sampleSporkKeys : SporkKeys where
  hash bytes := BitVec.ofNat 256 (bytes.map (·.toNat)).sum
  verifyHash _ key vchSig := vchSig = key
  sporkPubKeyID := [7]

def sampleSpork (id : SporkId) (nValue nTimeSigned : Int64) (vchSig : Bytes) :
    CSporkManager.SporkEvent where
  ctx := ⟨false, true, 1600000000, 1600000000⟩
  spork := ⟨vchSig, id.number, nValue, nTimeSigned⟩

theorem sporks_authentic_sample :
    CSporkManager.Authentic sampleSporkKeys (run (event sampleSporkKeys) .initial
          ([sampleSpork .SPORK_2_INSTANTSEND_ENABLED 1 10 [7]] ++
            [sampleSpork .SPORK_2_INSTANTSEND_ENABLED 2 20 [7],
              sampleSpork .SPORK_2_INSTANTSEND_ENABLED 3 30 []])) ∧
      CSporkManager.Advances (run (event sampleSporkKeys) .initial
          [sampleSpork .SPORK_2_INSTANTSEND_ENABLED 1 10 [7]])
        (run (event sampleSporkKeys) .initial
          ([sampleSpork .SPORK_2_INSTANTSEND_ENABLED 1 10 [7]] ++
            [sampleSpork .SPORK_2_INSTANTSEND_ENABLED 2 20 [7],
              sampleSpork .SPORK_2_INSTANTSEND_ENABLED 3 30 []])) :=
  sporks_authentic sampleSporkKeys _ _ (by decide)

theorem unsignedSpork_active : ∃ spork, (run (event sampleSporkKeys) .initial
        [sampleSpork .SPORK_6_NEW_SIGS 4070908800 10 [7],
          sampleSpork .SPORK_2_INSTANTSEND_ENABLED 4070908800 20 []]).mapSporksActive.lookup
        SporkId.SPORK_2_INSTANTSEND_ENABLED.number = some spork ∧
      ¬ CSporkManager.Verifies sampleSporkKeys spork :=
  ⟨⟨[], SporkId.SPORK_2_INSTANTSEND_ENABLED.number, 4070908800, 20⟩, by decide, by decide⟩

end Minerium
