import Minerium.DecimalText

/-! An amount that comes back from its own text is the same amount. -/

namespace Minerium

open MachineInt List Option Nat Int

variable {ch : Char} {digits text : List Char} {count n decimals precision : Nat}
  {isInputRange : Bool} {amount : CAmount} {value : Int}

theorem digitChar_spec (digit : Nat) (small : digit < 10) :
    isDigit (digitChar digit) = true ∧ digitValue (digitChar digit) = digit ∧
      (digitChar digit = '0' ↔ digit = 0) := by
  have all : ∀ digit < 10, isDigit (digitChar digit) = true ∧
      digitValue (digitChar digit) = digit ∧ (digitChar digit = '0' ↔ digit = 0) := by decide
  exact all digit small

theorem digitsValue_snoc {start : Nat} :
    digitsValue start (digits ++ [ch]) = digitsValue start digits * 10 + digitValue ch := by
  simp [digitsValue]

theorem decimalFrom_spec (fuel n : Nat) : AllDigits (decimalFrom fuel n) ∧
      (n < 10 ^ (fuel + 1) → digitsValue 0 (decimalFrom fuel n) = n) := by
  induction fuel generalizing n with
  | zero =>
    obtain ⟨digit, value, -⟩ := digitChar_spec (n % 10) (mod_lt n (by decide))
    refine ⟨forall_mem_singleton.mpr digit, fun small => ?_⟩
    simp only [decimalFrom, digitsValue, foldl_cons, foldl_nil, value]
    omega
  | succ fuel ih =>
    rw [decimalFrom]
    split
    · rename_i small
      obtain ⟨digit, value, -⟩ := digitChar_spec n small
      refine ⟨forall_mem_singleton.mpr digit, fun _ => ?_⟩
      simp only [digitsValue, foldl_cons, foldl_nil, value]
      omega
    · obtain ⟨digit, value, -⟩ := digitChar_spec (n % 10) (mod_lt n (by decide))
      obtain ⟨digits, higher⟩ := ih (n / 10)
      refine ⟨?_, fun bound => ?_⟩
      · exact forall_mem_append.mpr ⟨digits, forall_mem_singleton.mpr digit⟩
      · rw [digitsValue_snoc, value, higher (by rw [pow_succ] at bound; omega)]
        omega

theorem decimalFrom_head (fuel n : Nat) (bound : n < 10 ^ (fuel + 1)) :
    ∃ ch rest, decimalFrom fuel n = ch :: rest ∧ isDigit ch = true ∧
      (ch = '0' → n = 0 ∧ rest = []) := by
  induction fuel generalizing n with
  | zero =>
    obtain ⟨digit, -, zero⟩ := digitChar_spec (n % 10) (mod_lt n (by decide))
    refine ⟨_, [], rfl, digit, fun isZero => ⟨?_, rfl⟩⟩
    have := zero.mp isZero
    omega
  | succ fuel ih =>
    rw [decimalFrom]
    split
    · rename_i small
      obtain ⟨digit, -, zero⟩ := digitChar_spec n small
      exact ⟨_, [], rfl, digit, fun isZero => ⟨zero.mp isZero, rfl⟩⟩
    · rename_i large
      obtain ⟨ch, rest, same, digit, zero⟩ := ih (n / 10) (by rw [pow_succ] at bound; omega)
      refine ⟨ch, rest ++ [digitChar (n % 10)], by rw [same]; rfl, digit, fun isZero => ?_⟩
      have := (zero isZero).1
      omega

theorem lastDigits_spec (n : Nat) {start : Nat} :
    AllDigits (lastDigits count n) ∧ (lastDigits count n).length = count ∧
      digitsValue start (lastDigits count n) = start * 10 ^ count + n % 10 ^ count := by
  induction count generalizing n with
  | zero => simp [lastDigits, digitsValue, mod_one, AllDigits]
  | succ count ih =>
    obtain ⟨digit, value, -⟩ := digitChar_spec (n % 10) (mod_lt n (by decide))
    obtain ⟨digits, length, higher⟩ := ih (n / 10)
    refine ⟨?_, by simp [lastDigits, length], ?_⟩
    · exact forall_mem_append.mpr ⟨digits, forall_mem_singleton.mpr digit⟩
    · rw [lastDigits, digitsValue_snoc, higher, value, pow_succ', mod_mul]
      ring

theorem parseFixedPoint_minus (parsed : parseFixedPoint ('-' :: text) decimals = some value) :
    -1000000000000000000 < value ∧ value ≤ 0 := by
  simp only [parseFixedPoint, readSign, bind_eq_bind, bind_eq_some_iff] at parsed
  obtain ⟨whole, -, part, -, exponent, -, parsed⟩ := parsed
  split at parsed
  · cases parsed
  · obtain ⟨mantissa, -, parsed⟩ := bind_eq_some_iff.mp parsed
    split at parsed
    · cases parsed
    · rename_i small
      cases parsed
      rw [UPPER_BOUND] at small
      simp only [if_true]
      omega

theorem digitsValue_fraction (magnitude precision : Nat) :
    let fraction := if precision = 0 then ['0']
      else lastDigits precision (magnitude % 10 ^ precision)
    AllDigits fraction ∧ fraction ≠ [] ∧
      digitsValue (magnitude / 10 ^ precision) fraction * 10 ^ precision =
        magnitude * 10 ^ fraction.length := by
  cases precision with
  | zero => simp [digitsValue, digitValue, isDigit, AllDigits]
  | succ precision =>
    obtain ⟨digits, length, value⟩ := lastDigits_spec (magnitude % 10 ^ (precision + 1))
    rw [if_neg (succ_ne_zero precision)]
    refine ⟨digits, ?_, ?_⟩
    · intro empty
      rw [empty] at length
      cases length
    · rw [value, length, mod_mod, div_add_mod']

theorem leading_decimal (bound : n < 10 ^ 20) :
    decimal n ≠ [] ∧ ((decimal n).head? = some '0' → decimal n = ['0']) := by
  obtain ⟨ch, rest, same, -, zero⟩ := decimalFrom_head 19 n bound
  rw [decimal, same]
  refine ⟨cons_ne_nil _ _, fun first => ?_⟩
  have isZero := Option.some.inj first
  rw [isZero, (zero isZero).2]

section

variable (magnitude : Fin (10 ^ 20))

def amountText (precision : Nat) : DecimalText where
  negative := false
  integer := decimal (magnitude / 10 ^ precision)
  fraction := if precision = 0 then ['0'] else lastDigits precision (magnitude % 10 ^ precision)
  letter := 'e'
  sign := []
  exponent := []
  integerDigits := (decimalFrom_spec 19 _).1
  fractionDigits := (digitsValue_fraction magnitude precision).1
  exponentDigits := by simp [AllDigits]
  leading := leading_decimal ((div_le_self _ _).trans_lt magnitude.isLt)
  isLetter := .inl rfl
  isSign := .inl rfl

theorem amountText_chars (precision : Nat) :
    (amountText magnitude precision).chars = decimal (magnitude / 10 ^ precision) ++ '.' ::
      if precision = 0 then ['0'] else lastDigits precision (magnitude % 10 ^ precision) := by
  have nonempty : (amountText magnitude precision).fraction ≠ [] :=
    (digitsValue_fraction magnitude precision).2.1
  change _ ++ ((if (amountText magnitude precision).fraction = [] then [] else _) ++ []) = _
  rw [if_neg nonempty, append_nil]
  rfl

theorem amountText_value (precision : Nat) :
    (amountText magnitude precision).value * 10 ^ precision = (magnitude : Nat) := by
  obtain ⟨-, -, exact⟩ := digitsValue_fraction magnitude precision
  have whole := (decimalFrom_spec 19 (magnitude / 10 ^ precision)).2
    ((div_le_self _ _).trans_lt magnitude.isLt)
  change ((1 : Int) : Rat) * digitsValue 0 (decimal _ ++ _) * 10 ^ (((0 : Nat) : Int) - _) * _ = _
  rw [digitsValue, foldl_append]
  change ((1 : Int) : Rat) * digitsValue (digitsValue 0 (decimalFrom 19 _)) _ * _ * _ = _
  rw [whole, Int.natCast_zero, zero_sub, zpow_neg, zpow_natCast, Int.cast_one, one_mul, mul_assoc,
    mul_comm ((10 : Rat) ^ _)⁻¹, ← mul_assoc, ← div_eq_mul_inv, div_eq_iff (by positivity)]
  exact_mod_cast exact

end

theorem uncapped_point (point : '.' ∈ text) : uncapped text precision isInputRange = text := by
  rw [uncapped, if_neg]
  rintro rfl
  exact absurd point (by decide)

def assetMaximum (isInputRange : Bool) : Nat :=
  (if isInputRange then MAX_INPUTRANGE_ASSET else MAX_ASSET).toInt.toNat

theorem amountInRange_iff : amountInRange amount isInputRange = true ↔
      0 < amount.toInt ∧ amount.toInt ≤ assetMaximum isInputRange := by
  rw [amountInRange, decide_eq_true_eq, lt_iff, le_iff, assetMaximum]
  cases isInputRange with
  | true => exact .rfl
  | false => exact .rfl

theorem assetMaximum_le : assetMaximum isInputRange ≤ UPPER_BOUND := by
  cases isInputRange with
  | true => decide
  | false => decide

theorem amount_roundTrip : ((valueFromAssetAmount amount precision isInputRange).bind fun value =>
        assetAmountFromValue value precision isInputRange) =
      if (isInputRange = true ∨ precision ≤ 8) ∧ amountInRange amount isInputRange = true
      then some amount else none := by
  have supported : (isInputRange = true ∨ precision ≤ 8) ↔
      ¬8 < if isInputRange then 0 else precision := by
    cases isInputRange with
    | true => simp
    | false => simp
  have lower := amount.le_toInt
  have upper := amount.toInt_lt
  simp only [valueFromAssetAmount, assetAmountFromValue, supported]
  generalize (if isInputRange then 0 else precision) = p
  by_cases large : 8 < p
  · simp only [large, not_true_eq_false, false_and, if_false]
    rfl
  · simp only [large, not_false_eq_true, true_and, if_false, bind_some]
    rw [uncapped_point (by simp)]
    -- a text that starts with a sign is never read as an amount in range
    by_cases negative : amount < 0
    · have minus : ∀ quotient remainder, ∃ text, (if amount = Int64.minValue then ['-', '-']
          else if amount < 0 then ['-'] else []) ++ quotient ++ remainder = '-' :: text := by
        rw [if_pos negative]
        split
        · exact fun _ _ => ⟨_, rfl⟩
        · exact fun _ _ => ⟨_, rfl⟩
      obtain ⟨text, signed⟩ := minus (decimal (amount.toInt.natAbs / 10 ^ p)) _
      have refused : ¬amountInRange amount isInputRange = true := by
        rw [amountInRange_iff]
        have below := lt_iff.mp negative
        change amount.toInt < (0 : Int) at below
        omega
      rw [signed, if_neg refused]
      cases parsed : parseFixedPoint ('-' :: text) p with
      | none => rfl
      | some value =>
        obtain ⟨least, most⟩ := parseFixedPoint_minus parsed
        have outside : ¬amountInRange (Int64.ofInt value) isInputRange = true := by
          rw [amountInRange_iff, Int64.toInt_ofInt_of_le (by omega) (by omega)]
          omega
        exact if_neg outside
    · have nonneg : 0 ≤ amount.toInt := not_lt.mp fun below => negative (lt_iff.mpr below)
      have notMin : amount ≠ Int64.minValue := by
        rintro rfl
        exact negative (by decide)
      have magnitude := @amountText_value ⟨amount.toInt.natAbs, by omega⟩ p
      simp only [if_neg notMin]
      rw [if_neg negative, nil_append, ← amountText_chars ⟨amount.toInt.natAbs, by omega⟩]
      have exact : ((amount.toInt.natAbs : Nat) : Rat) = amount.toInt :=
        (cast_natCast _).symm.trans (congrArg _ (natAbs_of_nonneg nonneg))
      by_cases inRange : amountInRange amount isInputRange = true
      · obtain ⟨positive, most⟩ := amountInRange_iff.mp inRange
        have bound := @assetMaximum_le isInputRange
        rw [UPPER_BOUND] at bound
        rw [DecimalText.parseFixedPoint_total (zero_le _) positive.ne' (by omega)
          (magnitude.trans exact)]
        simp only [bind_eq_bind, bind_some, Int64.ofInt_toInt, inRange, if_true]
      · rw [if_neg inRange]
        cases parsed : parseFixedPoint _ p with
        | none => rfl
        | some value =>
          have same : value = amount.toInt := by
            exact_mod_cast (DecimalText.parseFixedPoint_value parsed).trans (magnitude.trans exact)
          simp only [bind_eq_bind, bind_some, same, Int64.ofInt_toInt, inRange]
          rfl

theorem amount_readable_iff (amount : CAmount) (precision : Nat) (isInputRange : Bool) :
    ((valueFromAssetAmount amount precision isInputRange).bind fun value =>
        assetAmountFromValue value precision isInputRange).isSome = true ↔
      (isInputRange = true ∨ precision ≤ 8) ∧ amountInRange amount isInputRange = true := by
  rw [amount_roundTrip]
  split
  · simp_all
  · simp_all

section

def assetUnit (precision : Nat) (isInputRange : Bool) : Nat :=
  10 ^ if isInputRange then 0 else precision

theorem toInt_abs (notMin : amount.toInt ≠ -2 ^ 63) :
    (if amount < 0 then -amount else amount).toInt = amount.toInt.natAbs := by
  have least := amount.le_toInt
  have upper := amount.toInt_lt
  split
  · rename_i negative
    rw [lt_iff] at negative
    change amount.toInt < (0 : Int) at negative
    rw [Int64.toInt_neg, bmod_eq_of_le (by omega) (by omega)]
    omega
  · rename_i nonneg
    rw [lt_iff] at nonneg
    change ¬amount.toInt < (0 : Int) at nonneg
    omega

theorem toInt_div_pow {divided : Int64} (nonneg : 0 ≤ divided.toInt) (small : n ≤ 8) :
    (divided / Int64.ofNat (10 ^ n)).toInt = divided.toInt / (10 ^ n : Nat) := by
  have bound : 10 ^ n ≤ 10 ^ 8 := Nat.pow_le_pow_right (by decide) small
  have unit : (Int64.ofNat (10 ^ n)).toInt = (10 ^ n : Nat) := Int64.toInt_ofNat_of_lt (by omega)
  rw [Int64.toInt_div, unit, tdiv_eq_ediv_of_nonneg nonneg]
  have upper := divided.toInt_lt
  have quotient : divided.toInt / (10 ^ n : Nat) ≤ divided.toInt := ediv_le_self _ nonneg
  have lower : 0 ≤ divided.toInt / (10 ^ n : Nat) := ediv_nonneg nonneg (natCast_nonneg _)
  exact bmod_eq_of_le (by omega) (by omega)

theorem assetRange_iff (small : precision ≤ 8) : assetRange amount precision isInputRange ≠ none ∧
    (assetRange amount precision isInputRange = some true ↔
      amount.toInt ≠ -2 ^ 63 ∧ assetUnit precision isInputRange ≤ amount.toInt.natAbs ∧
        amount.toInt.natAbs <
          (assetMaximum isInputRange + 1) * assetUnit precision isInputRange) := by
  have supported : (if isInputRange then 0 else precision) ≤ 8 := by
    split
    · decide
    · exact small
  rw [assetRange, assetUnit]
  generalize (if isInputRange then 0 else precision) = p at supported
  rw [if_neg (by omega)]
  refine ⟨some_ne_none _, ?_⟩
  rw [some.injEq, amountInRange_iff]
  by_cases isMin : amount.toInt = -2 ^ 63
  · obtain rfl : amount = Int64.minValue := Int64.toInt_inj.mp isMin
    have refused : ∀ p ≤ 8, ¬0 < (Int64.minValue / Int64.ofNat (10 ^ p)).toInt := by decide
    exact iff_of_false (fun accepted => refused p supported accepted.1) fun accepted =>
      accepted.1 rfl
  · rw [toInt_div_pow (by rw [toInt_abs isMin]; omega) supported, toInt_abs isMin]
    rw [← natCast_ediv, ← Nat.div_lt_iff_lt_mul (by positivity), Nat.lt_succ_iff]
    have units : 0 < amount.toInt.natAbs / 10 ^ p ↔ 10 ^ p ≤ amount.toInt.natAbs :=
      Nat.div_pos_iff.trans (and_iff_right (by positivity))
    omega

structure RangeAgrees (amount : CAmount) (precision : Nat) (isInputRange : Bool) : Prop where
  returns : assetRange amount precision isInputRange ≠ none
  between : assetRange amount precision isInputRange = some true ↔
    0 < amount.toInt ∧ amount.toInt ≤ assetMaximum isInputRange
  survives : assetRange amount precision isInputRange = some true ↔
    ((valueFromAssetAmount amount precision isInputRange).bind fun value =>
      assetAmountFromValue value precision isInputRange) = some amount

theorem rangeAgrees_negative : ¬RangeAgrees (-5) 0 false := by
  intro agrees
  exact absurd (agrees.between.mp rfl).1 (by decide)

theorem assetUnit_le : ∀ (precision : Fin 9) isInputRange,
    assetUnit precision isInputRange ≤ assetMaximum isInputRange := by decide

theorem rangeAgrees_iff (amount : CAmount) (precision : Fin 9) (isInputRange : Bool) :
    let unit : Nat := assetUnit precision isInputRange
    let limit : Nat := (assetMaximum isInputRange + 1) * unit
    RangeAgrees amount precision isInputRange ↔
      amount.toInt = -2 ^ 63 ∨ amount.toInt ≤ -limit ∨ (-unit < amount.toInt ∧ amount.toInt ≤ 0) ∨
        (unit ≤ amount.toInt ∧ amount.toInt ≤ assetMaximum isInputRange) ∨
        limit ≤ amount.toInt := by
  intro unit limit
  have small : (precision : Nat) ≤ 8 := by omega
  have positive : 0 < unit := Nat.pow_pos (by decide)
  have most : assetMaximum isInputRange + 1 ≤ limit := Nat.le_mul_of_pos_right _ positive
  have reaches : unit ≤ assetMaximum isInputRange := assetUnit_le precision isInputRange
  obtain ⟨returns, accepts⟩ := @assetRange_iff precision isInputRange amount small
  change _ ↔ _ ∧ unit ≤ amount.toInt.natAbs ∧ amount.toInt.natAbs < limit at accepts
  clear_value limit unit
  have survives : ((valueFromAssetAmount amount precision isInputRange).bind fun value =>
      assetAmountFromValue value precision isInputRange) = some amount ↔
      0 < amount.toInt ∧ amount.toInt ≤ assetMaximum isInputRange := by
    rw [amount_roundTrip, ite_none_right_eq_some, ← amountInRange_iff]
    simp [small]
  constructor
  · intro agrees
    have between := accepts.symm.trans agrees.between
    omega
  · intro same
    have between : assetRange amount precision isInputRange = some true ↔
        0 < amount.toInt ∧ amount.toInt ≤ assetMaximum isInputRange := by
      rw [accepts]
      omega
    exact ⟨returns, between, between.trans survives.symm⟩

end

end Minerium
