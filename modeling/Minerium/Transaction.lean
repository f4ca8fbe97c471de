import Mathlib.Algebra.Ring.Int.Defs
import Minerium.TransactionCore

/-! The exact integer value of a transaction's outputs. Each partial sum of `getValueOut` is in the
money range, so nothing wraps. -/

namespace Minerium

open MachineInt

variable {vout : List CTxOut}

theorem moneyRange_iff (nValue : CAmount) :
    moneyRange nValue = true ↔ 0 ≤ nValue.toInt ∧ nValue.toInt ≤ 66600000000000000 := by
  simp only [moneyRange, Bool.and_eq_true, decide_eq_true_eq, le_iff]
  rfl

def outputSum (vout : List CTxOut) : Int := (vout.map fun out => out.nValue.toInt).sum

@[simp] theorem outputSum_nil : outputSum [] = 0 := rfl

@[simp] theorem outputSum_cons (out : CTxOut) (rest : List CTxOut) :
    outputSum (out :: rest) = out.nValue.toInt + outputSum rest := by
  simp [outputSum]

theorem outputSum_nonneg (nonneg : ∀ out ∈ vout, 0 ≤ out.nValue.toInt) : 0 ≤ outputSum vout := by
  induction vout with
  | nil => simp
  | cons out rest ih =>
    have first := nonneg out List.mem_cons_self
    have others := ih fun other member => nonneg other (List.mem_cons_of_mem _ member)
    rw [outputSum_cons]
    omega

theorem getValueOutFrom_exact {start total : CAmount} (inRange : moneyRange start = true)
    (found : getValueOutFrom start vout = some total) :
    total.toInt = start.toInt + outputSum vout ∧ moneyRange total = true := by
  induction vout generalizing start with
  | nil =>
    simp only [getValueOutFrom, Option.some.injEq] at found
    subst found
    exact ⟨by simp, inRange⟩
  | cons out rest ih =>
    simp only [getValueOutFrom, Bool.or_eq_true, Bool.not_eq_true'] at found
    split at found
    · cases found
    · rename_i accepted
      simp only [not_or, Bool.not_eq_false] at accepted
      have bounds := (moneyRange_iff start).mp inRange
      have outBounds := (moneyRange_iff out.nValue).mp accepted.1
      obtain ⟨exact, totalRange⟩ := ih accepted.2 found
      rw [toInt_add_of_range _ _ (by omega) (by omega)] at exact
      exact ⟨by rw [exact, outputSum_cons]; omega, totalRange⟩

theorem getValueOut_exact {tx : CTransaction} {total : CAmount}
    (found : tx.getValueOut = some total) :
    total.toInt = outputSum tx.vout ∧ moneyRange total = true := by
  obtain ⟨exact, totalRange⟩ := getValueOutFrom_exact (by decide) found
  exact ⟨by simpa using exact, totalRange⟩

end Minerium
