import Minerium.AliasCore
import Minerium.Lib.Median

/-! The chain time is the median of the last eleven block times. Blocks whose time is above it never
turn it back. -/

namespace Minerium

open Median List

def ActiveChain.medianTime (chain : ActiveChain) : Nat :=
  median ((chain.times.map UInt32.toNat).take nMedianTimeSpan)

section

variable (chain : ActiveChain) {nExpireTime : UInt64}

theorem medianTimePast_eq : chain.medianTimePast = Int64.ofNat chain.medianTime := by
  rw [ActiveChain.medianTimePast, getMedianTimePast, ActiveChain.medianTime, median,
    map_take, length_insertionSort]

theorem medianTime_lt : chain.medianTime < 2 ^ 32 := by
  rw [ActiveChain.medianTime, median, getD_eq_getElem?_getD]
  cases found : (((chain.times.map UInt32.toNat).take nMedianTimeSpan).insertionSort
      (· ≤ ·))[((chain.times.map UInt32.toNat).take nMedianTimeSpan).length / 2]? with
  | none => exact Nat.two_pow_pos 32
  | some value =>
    have member := (perm_insertionSort _ _).mem_iff.mp (mem_of_getElem? found)
    obtain ⟨time, -, rfl⟩ := mem_map.mp (mem_of_mem_take member)
    exact time.toNat_lt

theorem isExpiredAt_eq :
    isExpiredAt chain nExpireTime = decide (nExpireTime.toNat ≤ chain.medianTime) := by
  have small := medianTime_lt chain
  have time : chain.medianTimePast.toUInt64.toNat = chain.medianTime := by
    rw [medianTimePast_eq, Int64.toUInt64_ofNat', UInt64.toNat_ofNat_of_lt']
    exact small.trans (by decide)
  rw [isExpiredAt, decide_eq_decide, UInt64.le_iff_toNat_le, time]

theorem timeTooOld_eq {nTime : UInt32} :
    timeTooOld chain nTime = decide (nTime.toNat ≤ chain.medianTime) := by
  have small := medianTime_lt chain
  have bound := nTime.toNat_lt
  rw [timeTooOld, decide_eq_decide, medianTimePast_eq, Int64.le_iff_toInt_le,
    Int64.toInt_ofNat_of_lt (by omega), Int64.toInt_ofNat_of_lt (by omega), Int.ofNat_le]

variable {chain} {nTime : UInt32}

theorem medianTime_connect (inTime : timeTooOld chain nTime = false) :
    chain.medianTime ≤ (chain.connect nTime).medianTime := by
  rw [timeTooOld_eq, decide_eq_false_iff_not, not_le] at inTime
  exact median_le_slide (by decide) (cons_ne_nil _ _) inTime

theorem inUse_of_connect (inTime : timeTooOld chain nTime = false)
    (inUse : isExpiredAt (chain.connect nTime) nExpireTime = false) :
    isExpiredAt chain nExpireTime = false := by
  have later := medianTime_connect inTime
  rw [isExpiredAt_eq, decide_eq_false_iff_not] at inUse ⊢
  omega

end

end Minerium
