import Mathlib.Tactic.Positivity
import Mathlib.Tactic.Ring
import Minerium.AmountTextCore

/-! The parser of decimal texts accepts texts of one grammar and returns their exact value. -/

namespace Minerium

open List Option Nat

variable {mantissa : Mantissa} {ch : Char} {digits rest val : List Char}
  {count decimals start : Nat} {amount : Int} {read : Digits}

def Mantissa.meaning (mantissa : Mantissa) : Nat := mantissa.value * 10 ^ mantissa.tzeros

def digitsValue (start : Nat) (digits : List Char) : Nat :=
  digits.foldl (fun value ch => value * 10 + digitValue ch) start

def AllDigits (digits : List Char) : Prop := ∀ ch ∈ digits, isDigit ch = true

theorem allDigits_cons : AllDigits (ch :: digits) ↔ isDigit ch = true ∧ AllDigits digits :=
  forall_mem_cons

def Mantissa.absorb (mantissa : Mantissa) (ch : Char) : Mantissa :=
  if ch = '0' then { mantissa with tzeros := mantissa.tzeros + 1 }
  else ⟨mantissa.value * 10 ^ (mantissa.tzeros + 1) + digitValue ch, 0⟩

def Mantissa.absorbAll (mantissa : Mantissa) (digits : List Char) : Mantissa :=
  digits.foldl .absorb mantissa

theorem scaleMantissa_eq {times mantissa : Nat} (fits : mantissa ≤ UPPER_BOUND) :
    scaleMantissa times mantissa =
      if mantissa * 10 ^ times ≤ UPPER_BOUND then some (mantissa * 10 ^ times) else none := by
  induction times generalizing mantissa with
  | zero => simp [scaleMantissa, fits]
  | succ times ih =>
    rw [scaleMantissa, pow_succ', ← mul_assoc]
    split
    · rename_i large
      have grows : mantissa * 10 ≤ mantissa * 10 * 10 ^ times :=
        Nat.le_mul_of_pos_right _ (Nat.pow_pos (by decide))
      rw [if_neg (by rw [UPPER_BOUND] at large ⊢; omega)]
    · exact ih (by omega)

theorem digitValue_spec (digit : isDigit ch = true) :
    digitValue ch ≤ 9 ∧ (digitValue ch = 0 ↔ ch = '0') := by
  obtain ⟨lower, upper⟩ := of_decide_eq_true digit
  change 48 ≤ ch.toNat at lower
  change ch.toNat ≤ 57 at upper
  rw [← Char.toNat_inj]
  change ch.toNat - 48 ≤ 9 ∧ (ch.toNat - 48 = 0 ↔ ch.toNat = 48)
  omega

theorem processMantissaDigit_eq (digit : isDigit ch = true) (fits : mantissa.value ≤ UPPER_BOUND) :
    processMantissaDigit ch mantissa =
      if (mantissa.absorb ch).value ≤ UPPER_BOUND then some (mantissa.absorb ch) else none := by
  rw [processMantissaDigit, Mantissa.absorb]
  by_cases zero : ch = '0'
  · simp only [if_pos zero, if_pos fits]
  · have small := (digitValue_spec digit).1
    simp only [if_neg zero, scaleMantissa_eq fits, pow_succ', UPPER_BOUND]
    rw [mul_left_comm]
    generalize mantissa.value * 10 ^ mantissa.tzeros = higher
    by_cases room : 10 * higher ≤ 1000000000000000000 - 1
    · rw [if_pos room, if_pos (by omega)]
      rfl
    · rw [if_neg room, if_neg (by omega)]
      rfl

theorem absorb_spec : (mantissa.absorb ch).meaning = mantissa.meaning * 10 + digitValue ch ∧
    mantissa.value ≤ (mantissa.absorb ch).value ∧
    (mantissa.absorb ch).tzeros ≤ mantissa.tzeros + 1 := by
  rw [Mantissa.absorb]
  split
  · rename_i zero
    have value : digitValue ch = 0 := by rw [zero]; rfl
    refine ⟨?_, le_rfl, le_rfl⟩
    rw [value, Mantissa.meaning, Mantissa.meaning, pow_succ, mul_assoc]
    rfl
  · refine ⟨?_, ?_, zero_le _⟩
    · rw [Mantissa.meaning, Mantissa.meaning, pow_zero, mul_one, pow_succ, mul_assoc]
    · exact (Nat.le_mul_of_pos_right _ (Nat.pow_pos (by decide))).trans (Nat.le_add_right ..)

theorem absorbAll_spec : (mantissa.absorbAll digits).meaning = digitsValue mantissa.meaning digits ∧
    mantissa.value ≤ (mantissa.absorbAll digits).value ∧
    (mantissa.absorbAll digits).tzeros ≤ mantissa.tzeros + digits.length := by
  induction digits generalizing mantissa with
  | nil => exact ⟨rfl, le_rfl, le_rfl⟩
  | cons ch digits ih =>
    obtain ⟨meaning, grows, zeros⟩ := @absorb_spec mantissa ch
    obtain ⟨later, still, more⟩ := @ih (mantissa.absorb ch)
    rw [meaning] at later
    refine ⟨later, grows.trans still, more.trans ?_⟩
    rw [length_cons]
    omega

theorem absorbAll_trimmed (allDigits : AllDigits digits)
    (trimmed : mantissa.value % 10 = 0 → mantissa.value = 0)
    (tens : (mantissa.absorbAll digits).value % 10 = 0) :
    (mantissa.absorbAll digits).value = 0 := by
  induction digits generalizing mantissa with
  | nil => exact trimmed tens
  | cons ch digits ih =>
    obtain ⟨digit, others⟩ := allDigits_cons.mp allDigits
    refine @ih (mantissa.absorb ch) others ?_ tens
    rw [Mantissa.absorb]
    split
    · exact trimmed
    · rename_i nonzero
      obtain ⟨small, zero⟩ := digitValue_spec digit
      have positive : digitValue ch ≠ 0 := fun none => nonzero (zero.mp none)
      rw [pow_succ, ← mul_assoc]
      generalize mantissa.value * 10 ^ mantissa.tzeros = higher
      intro (tens : (higher * 10 + digitValue ch) % 10 = 0)
      omega

theorem readDigits_append (allDigits : AllDigits digits)
    (ends : ∀ ch ∈ rest.head?, isDigit ch = false) (fits : mantissa.value ≤ UPPER_BOUND) :
    readDigits mantissa count (digits ++ rest) =
      if (mantissa.absorbAll digits).value ≤ UPPER_BOUND then
        some ⟨mantissa.absorbAll digits, count + digits.length, rest⟩ else none := by
  induction digits generalizing mantissa count with
  | nil =>
    refine .trans ?_ (if_pos fits).symm
    cases rest with
    | nil => rfl
    | cons ch rest =>
      rw [nil_append, readDigits, ends ch rfl]
      rfl
  | cons ch digits ih =>
    obtain ⟨digit, others⟩ := allDigits_cons.mp allDigits
    rw [cons_append, readDigits, if_pos digit, processMantissaDigit_eq digit fits]
    by_cases small : (mantissa.absorb ch).value ≤ UPPER_BOUND
    · rw [if_pos small, length_cons, add_comm digits.length, ← add_assoc]
      exact ih others small
    · have large : ¬(mantissa.absorbAll (ch :: digits)).value ≤ UPPER_BOUND :=
        fun fitsAll => small ((@absorbAll_spec _ digits).2.1.trans fitsAll)
      rw [if_neg small, if_neg large]
      rfl

theorem digitsValue_ge : start ≤ digitsValue start digits := by
  induction digits generalizing start with
  | nil => exact le_rfl
  | cons ch digits ih => exact (le_trans (by omega) (@ih (start * 10 + digitValue ch)))

theorem digitsValue_lt (allDigits : AllDigits digits) :
    digitsValue start digits < (start + 1) * 10 ^ digits.length := by
  induction digits generalizing start with
  | nil => simp [digitsValue]
  | cons ch digits ih =>
    obtain ⟨digit, others⟩ := allDigits_cons.mp allDigits
    have small := (digitValue_spec digit).1
    refine (@ih (start * 10 + digitValue ch) others).trans_le ?_
    rw [length_cons, pow_succ', ← mul_assoc]
    exact mul_le_mul_right _ (by omega)

theorem readExponentDigits_eq (allDigits : AllDigits digits) (fits : start ≤ UPPER_BOUND) :
    readExponentDigits start digits =
      if digitsValue start digits ≤ UPPER_BOUND then some (digitsValue start digits) else none := by
  induction digits generalizing start with
  | nil => exact (if_pos fits).symm
  | cons ch digits ih =>
    obtain ⟨digit, others⟩ := allDigits_cons.mp allDigits
    have small := (digitValue_spec digit).1
    have later : start * 10 + digitValue ch ≤ digitsValue start (ch :: digits) := digitsValue_ge
    rw [readExponentDigits, if_pos digit]
    split
    · rename_i large
      rw [if_neg (by rw [UPPER_BOUND] at large ⊢; omega)]
    · rename_i room
      exact ih others (by rw [UPPER_BOUND] at room ⊢; omega)

/-- The texts `-?(0|[1-9][0-9]*)(\.[0-9]+)?([eE][+-]?[0-9]+)?`. -/
structure DecimalText where
  negative : Bool
  integer : List Char
  fraction : List Char
  letter : Char
  sign : List Char
  exponent : List Char
  integerDigits : AllDigits integer
  fractionDigits : AllDigits fraction
  exponentDigits : AllDigits exponent
  leading : integer ≠ [] ∧ (integer.head? = some '0' → integer = ['0'])
  isLetter : letter = 'e' ∨ letter = 'E'
  isSign : sign = [] ∨ sign = ['+'] ∨ sign = ['-']

namespace DecimalText

variable (text : DecimalText)

def point : List Char := if text.fraction = [] then [] else '.' :: text.fraction

def power : List Char :=
  if text.exponent = [] then [] else text.letter :: (text.sign ++ text.exponent)

def unsigned : List Char := text.integer ++ (text.point ++ text.power)

def chars : List Char := if text.negative then '-' :: text.unsigned else text.unsigned

def exponentValue : Int :=
  if text.sign = ['-'] then -(digitsValue 0 text.exponent : Int) else digitsValue 0 text.exponent

def unit : Int := if text.negative then -1 else 1

def value : Rat :=
  text.unit * digitsValue 0 (text.integer ++ text.fraction) *
    10 ^ (text.exponentValue - text.fraction.length)

def whole : Mantissa := .absorbAll ⟨0, 0⟩ (if text.integer = ['0'] then [] else text.integer)

def total : Mantissa := text.whole.absorbAll text.fraction

def shift (decimals : Nat) : Int :=
  text.exponentValue - text.fraction.length + text.total.tzeros + decimals

variable {text}

theorem head_integer : ∃ ch rest, text.integer = ch :: rest ∧ isDigit ch = true ∧
    (ch = '0' → rest = []) := by
  obtain ⟨nonempty, zero⟩ := text.leading
  obtain ⟨ch, rest, same⟩ := exists_cons_of_ne_nil nonempty
  refine ⟨ch, rest, same, text.integerDigits ch (by simp [same]), ?_⟩
  rintro rfl
  rw [same] at zero
  exact (cons.inj (zero rfl)).2

theorem readSign_chars : readSign text.chars = (text.negative, text.unsigned) := by
  obtain ⟨ch, rest, same, digit, -⟩ := text.head_integer
  rw [chars]
  split
  · rename_i negative
    rw [readSign, negative]
  · rename_i positive
    rw [unsigned, same, cons_append, readSign, Bool.eq_false_iff.mpr positive]
    rintro _ isSign
    cases isSign
    cases digit

theorem head_power : ∀ ch ∈ text.power.head?, ch = 'e' ∨ ch = 'E' := by
  rw [power]
  split
  · simp
  · simpa using text.isLetter

theorem power_ends : ∀ ch ∈ text.power.head?, isDigit ch = false := by
  intro ch first
  rcases text.head_power ch first with rfl | rfl
  · rfl
  · rfl

theorem readInteger_unsigned : ∃ count, readInteger text.unsigned =
    if text.whole.value ≤ UPPER_BOUND then some ⟨text.whole, count, text.point ++ text.power⟩
    else none := by
  obtain ⟨ch, others, same, digit, zero⟩ := text.head_integer
  rw [unsigned, whole]
  by_cases isZero : ch = '0'
  · rw [same, isZero, zero isZero]
    exact ⟨0, rfl⟩
  · have notZero : text.integer ≠ ['0'] := by
      rw [same]
      exact fun one => isZero (cons.inj one).1
    have ends : ∀ ch ∈ (text.point ++ text.power).head?, isDigit ch = false := by
      rw [point]
      split
      · exact text.power_ends
      · simp [isDigit]
    refine ⟨_, .trans ?_ (@readDigits_append _ _ _ 0 ?_ ends (zero_le _))⟩
    · rw [if_neg notZero, same, cons_append, readInteger, if_neg isZero, if_pos digit]
    · rw [if_neg notZero]
      exact text.integerDigits

theorem readFraction_point (fits : mantissa.value ≤ UPPER_BOUND) :
    readFraction mantissa (text.point ++ text.power) =
      if (mantissa.absorbAll text.fraction).value ≤ UPPER_BOUND then
        some ⟨mantissa.absorbAll text.fraction, text.fraction.length, text.power⟩ else none := by
  rw [point]
  split
  · rename_i empty
    rw [empty]
    refine .trans ?_ (if_pos fits).symm
    have starts := text.head_power
    generalize text.power = rest at starts
    cases rest with
    | nil => rfl
    | cons ch rest =>
      rcases starts ch rfl with rfl | rfl
      · rfl
      · rfl
  · rename_i nonempty
    obtain ⟨ch, others, same⟩ := exists_cons_of_ne_nil nonempty
    have read := @readDigits_append mantissa _ _ 0 text.fractionDigits text.power_ends fits
    rw [zero_add] at read
    rw [← read, same, cons_append, cons_append, readFraction,
      if_pos (text.fractionDigits ch (by simp [same]))]

theorem readExponent_power : readExponent text.power =
      if digitsValue 0 text.exponent ≤ UPPER_BOUND then some text.exponentValue else none := by
  have digits := text.exponentDigits
  have read := readExponentDigits_eq digits (zero_le _)
  rw [power, exponentValue]
  generalize text.exponent = exponent at *
  cases exponent with
  | nil => simp [readExponent, digitsValue]
  | cons ch rest =>
    have read : readUnsignedExponent (ch :: rest) = _ := read
    have digit := (allDigits_cons.mp digits).1
    rw [if_neg (cons_ne_nil _ _)]
    rcases text.isSign with none | plus | minus
    · rw [none, nil_append, readExponent, if_pos text.isLetter, read]
      · split
        · rfl
        · rfl
      all_goals
        rintro _ isSign
        cases isSign
        cases digit
    · rw [plus, cons_append, nil_append]
      simp only [readExponent, if_pos text.isLetter, read]
      split
      · rfl
      · rfl
    · rw [minus, cons_append, nil_append]
      simp only [readExponent, if_pos text.isLetter, read]
      split
      · rfl
      · rfl

theorem parseFixedPoint_chars : parseFixedPoint text.chars decimals = some amount ↔
      text.total.value ≤ UPPER_BOUND ∧ digitsValue 0 text.exponent ≤ UPPER_BOUND ∧
      0 ≤ text.shift decimals ∧ text.shift decimals < 18 ∧
      text.total.value * 10 ^ (text.shift decimals).toNat ≤ UPPER_BOUND ∧
      amount = text.unit * (text.total.value * 10 ^ (text.shift decimals).toNat : Nat) := by
  obtain ⟨count, integer⟩ := text.readInteger_unsigned
  have grows : text.whole.value ≤ text.total.value := absorbAll_spec.2.1
  have signed : ∀ scaled : Nat, (if text.negative then -(scaled : Int) else scaled) =
      text.unit * scaled := by
    intro scaled
    rw [unit]
    split
    · exact (neg_one_mul _).symm
    · exact (one_mul _).symm
  rw [parseFixedPoint, readSign_chars]
  simp only [bind_eq_bind, integer, bind_eq_some_iff, ite_none_right_eq_some,
    ite_none_left_eq_some, signed]
  constructor
  · rintro ⟨_, ⟨wholeFits, same⟩, part, readPart, power, readPower, inRange, scaled, scale,
      -, parsed⟩
    cases same
    rw [readFraction_point wholeFits, ite_none_right_eq_some] at readPart
    obtain ⟨fits, same⟩ := readPart
    cases same
    rw [readExponent_power, ite_none_right_eq_some] at readPower
    obtain ⟨ranged, same⟩ := readPower
    cases same
    rw [scaleMantissa_eq fits, ite_none_right_eq_some] at scale
    obtain ⟨bound, same⟩ := scale
    cases same
    cases parsed
    change ¬(text.shift decimals < 0 ∨ 18 ≤ text.shift decimals) at inRange
    exact ⟨fits, ranged, by omega, by omega, bound, rfl⟩
  · rintro ⟨fits, ranged, lower, upper, bound, rfl⟩
    have wholeFits := grows.trans fits
    refine ⟨_, ⟨wholeFits, rfl⟩, ⟨text.total, text.fraction.length, text.power⟩, ?_,
      text.exponentValue, ?_, ?_, text.total.value * 10 ^ (text.shift decimals).toNat, ?_, ?_, rfl⟩
    · exact (readFraction_point wholeFits).trans (if_pos fits)
    · exact readExponent_power.trans (if_pos ranged)
    · change ¬(text.shift decimals < 0 ∨ 18 ≤ text.shift decimals)
      omega
    · exact (scaleMantissa_eq fits).trans (if_pos bound)
    · exact not_lt.mpr bound

theorem value_scaled : text.value * 10 ^ decimals =
    text.unit * (text.total.value * (10 : Rat) ^ text.shift decimals) := by
  have integer : text.whole.meaning = digitsValue 0 text.integer := by
    rw [whole, absorbAll_spec.1]
    split
    · rename_i zero
      rw [zero]
      rfl
    · rfl
  have meaning : text.total.meaning = digitsValue 0 (text.integer ++ text.fraction) := by
    rw [total, absorbAll_spec.1, integer, digitsValue, digitsValue, digitsValue, foldl_append]
  have ten : (10 : Rat) ≠ 0 := by norm_num
  rw [value, ← meaning, Mantissa.meaning, shift, zpow_add₀ ten, zpow_add₀ ten, zpow_natCast,
    zpow_natCast]
  push_cast
  ring

theorem parseFixedPoint_value (accepted : parseFixedPoint text.chars decimals = some amount) :
    (amount : Rat) = text.value * 10 ^ decimals := by
  obtain ⟨-, -, lower, -, -, rfl⟩ := parseFixedPoint_chars.mp accepted
  rw [value_scaled]
  conv_rhs => rw [← Int.toNat_of_nonneg lower, zpow_natCast]
  push_cast
  rfl

theorem total_trimmed (tens : text.total.value % 10 = 0) : text.total.value = 0 := by
  refine absorbAll_trimmed text.fractionDigits (absorbAll_trimmed ?_ fun _ => rfl) tens
  split
  · exact fun _ none => nomatch none
  · exact text.integerDigits

theorem parseFixedPoint_total {scaled : Int} (short : text.exponent.length ≤ 17)
    (nonzero : scaled ≠ 0) (small : scaled.natAbs < 10 ^ 18)
    (exact : text.value * 10 ^ decimals = scaled) :
    parseFixedPoint text.chars decimals = some scaled := by
  have exponent := @digitsValue_lt _ 0 text.exponentDigits
  have power : 10 ^ text.exponent.length ≤ 10 ^ 17 := Nat.pow_le_pow_right (by decide) short
  have trimmed := text.total_trimmed
  rw [value_scaled] at exact
  rw [parseFixedPoint_chars]
  generalize text.total.value = mantissa at *
  generalize text.shift decimals = shift at *
  rcases shift with shift | shift
  · have same : scaled = text.unit * (mantissa * 10 ^ shift : Nat) := by
      rw [Int.ofNat_eq_natCast, zpow_natCast] at exact
      exact_mod_cast exact.symm
    have product : mantissa * 10 ^ shift = scaled.natAbs := by
      rw [same, unit]
      split
      all_goals omega
    have bound : mantissa * 10 ^ shift ≤ UPPER_BOUND := by
      rw [UPPER_BOUND]
      omega
    have positive : 0 < mantissa := by
      refine pos_of_ne_zero fun zero => nonzero ?_
      rw [zero, zero_mul] at product
      omega
    have tens : 0 < 10 ^ shift := Nat.pow_pos (by decide)
    refine ⟨(Nat.le_mul_of_pos_right _ tens).trans bound, ?_, Int.natCast_nonneg _, ?_, bound, same⟩
    · rw [UPPER_BOUND]
      omega
    · have grows : 1 * 10 ^ shift ≤ mantissa * 10 ^ shift := mul_le_mul_right _ positive
      have less : 10 ^ shift < 10 ^ 18 := by omega
      exact Int.ofNat_lt.mpr ((Nat.pow_lt_pow_iff_right (by decide)).mp less)
  · -- a negative shift makes the mantissa a multiple of ten
    have same : text.unit * (mantissa : Int) = scaled * 10 ^ shift * 10 := by
      rw [zpow_negSucc, ← mul_assoc, ← div_eq_mul_inv, div_eq_iff (by positivity)] at exact
      rw [mul_assoc, ← pow_succ]
      exact_mod_cast exact
    have product : scaled * 10 ^ shift ≠ 0 := mul_ne_zero nonzero (by positivity)
    generalize scaled * 10 ^ shift = higher at same product
    rw [unit] at same
    split at same
    all_goals omega

end DecimalText

theorem readDigits_splits (done : readDigits mantissa count val = some read) :
    ∃ digits, val = digits ++ read.rest ∧ AllDigits digits := by
  induction val generalizing mantissa count with
  | nil =>
    cases done
    exact ⟨[], rfl, by simp [AllDigits]⟩
  | cons ch rest ih =>
    rw [readDigits] at done
    split at done
    · rename_i digit
      obtain ⟨next, -, done⟩ := bind_eq_some_iff.mp done
      obtain ⟨digits, rfl, all⟩ := ih done
      exact ⟨ch :: digits, rfl, allDigits_cons.mpr ⟨digit, all⟩⟩
    · cases done
      exact ⟨[], rfl, by simp [AllDigits]⟩

theorem readDigits_starts (digit : isDigit ch = true)
    (done : readDigits mantissa count (ch :: rest) = some read) :
    ∃ others, rest = others ++ read.rest ∧ AllDigits (ch :: others) := by
  rw [readDigits, if_pos digit] at done
  obtain ⟨next, -, done⟩ := bind_eq_some_iff.mp done
  obtain ⟨others, same, all⟩ := readDigits_splits done
  exact ⟨others, same, allDigits_cons.mpr ⟨digit, all⟩⟩

theorem readInteger_splits (done : readInteger val = some read) :
    ∃ integer, val = integer ++ read.rest ∧ AllDigits integer ∧
      integer ≠ [] ∧ (integer.head? = some '0' → integer = ['0']) := by
  cases val with
  | nil => cases done
  | cons ch rest =>
    rw [readInteger] at done
    split_ifs at done with zero digit
    · cases done
      exact ⟨['0'], by rw [zero]; rfl, by simp [AllDigits, isDigit], by simp, by simp⟩
    · obtain ⟨others, rfl, all⟩ := readDigits_starts digit done
      exact ⟨ch :: others, rfl, all, by simp, by simpa using fun isZero => absurd isZero zero⟩

theorem readFraction_splits (done : readFraction mantissa val = some read) :
    ∃ fraction, val = (if fraction = [] then [] else '.' :: fraction) ++ read.rest ∧
      AllDigits fraction := by
  unfold readFraction at done
  split at done
  · split at done
    · rename_i digit
      obtain ⟨others, rfl, all⟩ := readDigits_starts digit done
      exact ⟨_, by rw [if_neg (cons_ne_nil _ _)]; rfl, all⟩
    · cases done
  · cases done
  · cases done
    exact ⟨[], rfl, by simp [AllDigits]⟩

theorem readUnsignedExponent_digits {exponent : Nat}
    (done : readUnsignedExponent digits = some exponent) : digits ≠ [] ∧ AllDigits digits := by
  have all : ∀ {digits start}, readExponentDigits start digits = some exponent →
      AllDigits digits := by
    intro digits start done
    induction digits generalizing start with
    | nil => simp [AllDigits]
    | cons ch rest ih =>
      rw [readExponentDigits] at done
      split_ifs at done with digit
      exact allDigits_cons.mpr ⟨digit, ih done⟩
  cases digits with
  | nil => cases done
  | cons ch rest => exact ⟨cons_ne_nil _ _, all done⟩

theorem readExponent_splits {power : Int} (done : readExponent val = some power) :
    ∃ letter sign exponent, val = (if exponent = [] then [] else letter :: (sign ++ exponent)) ∧
      AllDigits exponent ∧ (letter = 'e' ∨ letter = 'E') ∧
      (sign = [] ∨ sign = ['+'] ∨ sign = ['-']) := by
  cases val with
  | nil => exact ⟨'e', [], [], rfl, by simp [AllDigits], .inl rfl, .inl rfl⟩
  | cons letter rest =>
    rw [readExponent.eq_def] at done
    simp only at done
    split at done
    · rename_i isLetter
      split at done
      all_goals
        simp only [bind_eq_bind, map_eq_some_iff, bind_eq_some_iff] at done
        obtain ⟨_, ⟨_, done, -⟩, -⟩ := done
        obtain ⟨nonempty, digits⟩ := readUnsignedExponent_digits done
      · exact ⟨letter, ['+'], _, by rw [if_neg nonempty]; rfl, digits, isLetter, by simp⟩
      · exact ⟨letter, ['-'], _, by rw [if_neg nonempty]; rfl, digits, isLetter, by simp⟩
      · exact ⟨letter, [], _, by rw [if_neg nonempty]; rfl, digits, isLetter, by simp⟩
    · cases done

theorem parseFixedPoint_grammar (accepted : parseFixedPoint val decimals = some amount) :
    ∃ text : DecimalText, text.chars = val := by
  simp only [parseFixedPoint, bind_eq_bind, bind_eq_some_iff] at accepted
  obtain ⟨integer, readInteger, fraction, readFraction, power, readPower, -⟩ := accepted
  obtain ⟨whole, wholeSame, wholeDigits, leading⟩ := readInteger_splits readInteger
  obtain ⟨part, partSame, partDigits⟩ := readFraction_splits readFraction
  obtain ⟨letter, sign, exponent, powerSame, exponentDigits, isLetter, isSign⟩ :=
    readExponent_splits readPower
  refine ⟨⟨(readSign val).1, whole, part, letter, sign, exponent, wholeDigits, partDigits,
    exponentDigits, leading, isLetter, isSign⟩, ?_⟩
  rw [DecimalText.chars, DecimalText.unsigned, DecimalText.point, DecimalText.power]
  rw [← powerSame, ← partSame, ← wholeSame]
  unfold readSign
  split
  · rfl
  · rfl

def scaleSteps : Nat → Nat → List Nat
  | 0, _ => []
  | times + 1, mantissa =>
    if UPPER_BOUND / 10 < mantissa then []
    else mantissa * 10 :: scaleSteps times (mantissa * 10)

def digitSteps (mantissa : Mantissa) : List Char → List Nat
  | [] => []
  | ch :: rest =>
    if isDigit ch then
      (if ch = '0' then [] else scaleSteps (mantissa.tzeros + 1) mantissa.value) ++
        match processMantissaDigit ch mantissa with
        | none => []
        | some next => next.value :: digitSteps next rest
    else []

def exponentSteps (exponent : Nat) : List Char → List Nat
  | [] => []
  | ch :: rest =>
    if isDigit ch then
      if UPPER_BOUND / 10 < exponent then []
      else [exponent * 10, exponent * 10 + ch.toNat, exponent * 10 + digitValue ch] ++
        exponentSteps (exponent * 10 + digitValue ch) rest
    else []

/-- The 64-bit numbers that a run which reads its whole text computes, without their signs. -/
def parseSteps (val : List Char) (decimals : Nat) : Option (List Nat) := do
  let (_, val) := readSign val
  let integer ← readInteger val
  let fraction ← readFraction integer.mantissa integer.rest
  let exponent ← readExponent fraction.rest
  let moved := exponent - fraction.count
  let shift := moved + fraction.mantissa.tzeros
  return digitSteps ⟨0, 0⟩ (if val.head? = some '0' then [] else val) ++
    digitSteps integer.mantissa (if integer.rest.head? = some '.' then integer.rest.tail else []) ++
    exponentSteps 0 (fraction.rest.dropWhile (!isDigit ·)) ++
    [exponent.natAbs, moved.natAbs, shift.natAbs, (shift + decimals).natAbs] ++
    scaleSteps (shift + decimals).toNat fraction.mantissa.value

theorem scaleSteps_le {times mantissa : Nat} :
    ∀ step ∈ scaleSteps times mantissa, step < 2 ^ 63 := by
  induction times generalizing mantissa with
  | zero => simp [scaleSteps]
  | succ times ih =>
    rw [scaleSteps]
    split
    · simp
    · rename_i room
      refine forall_mem_cons.mpr ⟨?_, ih⟩
      rw [UPPER_BOUND] at room
      omega

theorem digitSteps_le (fits : mantissa.value ≤ UPPER_BOUND) :
    ∀ step ∈ digitSteps mantissa digits, step < 2 ^ 63 := by
  induction digits generalizing mantissa with
  | nil => simp [digitSteps]
  | cons ch rest ih =>
    rw [digitSteps]
    split
    · rename_i digit
      rw [processMantissaDigit_eq digit fits]
      refine forall_mem_append.mpr ⟨?_, ?_⟩
      · split
        · simp
        · exact scaleSteps_le
      · by_cases next : (mantissa.absorb ch).value ≤ UPPER_BOUND
        · rw [if_pos next]
          exact forall_mem_cons.mpr ⟨next.trans_lt (by decide), ih next⟩
        · rw [if_neg next]
          simp
    · simp

theorem exponentSteps_le {exponent : Nat} :
    ∀ step ∈ exponentSteps exponent digits, step < 2 ^ 63 := by
  induction digits generalizing exponent with
  | nil => simp [exponentSteps]
  | cons ch rest ih =>
    rw [exponentSteps]
    split_ifs with digit room
    · simp
    · have small := (digitValue_spec digit).1
      have code : ch.toNat - 48 ≤ 9 := small
      simp only [cons_append, nil_append, forall_mem_cons]
      rw [UPPER_BOUND] at room
      refine ⟨?_, ?_, ?_, ih⟩
      all_goals omega
    · simp

theorem parseSteps_fit {text : DecimalText} (short : text.chars.length < 2 ^ 31)
    (supported : decimals ≤ 18) (accepted : parseFixedPoint text.chars decimals = some amount) :
    ∃ steps, parseSteps text.chars decimals = some steps ∧ ∀ step ∈ steps, step < 2 ^ 63 := by
  obtain ⟨fits, ranged, -, -, -, -⟩ := DecimalText.parseFixedPoint_chars.mp accepted
  obtain ⟨-, grows, zeros⟩ := @absorbAll_spec text.whole text.fraction
  have wholeFits := grows.trans fits
  obtain ⟨count, integer⟩ := text.readInteger_unsigned
  have fraction := (text.readFraction_point wholeFits).trans (if_pos fits)
  have exponent := text.readExponent_power.trans (if_pos ranged)
  rw [if_pos wholeFits] at integer
  have wholeZeros : text.whole.tzeros ≤ text.integer.length := by
    rw [DecimalText.whole]
    split
    · exact zero_le _
    · exact absorbAll_spec.2.2.trans (zero_add _).le
  have lengths : text.integer.length + text.fraction.length ≤ text.chars.length := by
    rw [DecimalText.chars, DecimalText.unsigned, DecimalText.point]
    split_ifs
    all_goals simp_all
    all_goals omega
  have power : text.exponentValue.natAbs ≤ UPPER_BOUND := by
    rw [DecimalText.exponentValue]
    split
    all_goals omega
  rw [parseSteps, DecimalText.readSign_chars]
  simp only [integer, fraction, exponent, bind_eq_bind, bind_some]
  refine ⟨_, rfl, ?_⟩
  rw [UPPER_BOUND] at power
  simp only [forall_mem_append, forall_mem_cons]
  refine ⟨⟨⟨⟨digitSteps_le (zero_le _), digitSteps_le wholeFits⟩, exponentSteps_le⟩,
    by omega, by omega, by omega, by omega, by simp⟩, scaleSteps_le⟩

theorem parseFixedPoint_exact (val : List Char) (decimals : Nat) (short : val.length < 2 ^ 31)
    (supported : decimals ≤ 18) : (∀ amount, parseFixedPoint val decimals = some amount →
      (∃ text : DecimalText, text.chars = val ∧ (amount : Rat) = text.value * 10 ^ decimals) ∧
      ∃ steps, parseSteps val decimals = some steps ∧ ∀ step ∈ steps, step < 2 ^ 63) ∧
    ∀ (text : DecimalText) (scaled : Int), text.chars = val → text.exponent.length ≤ 17 →
      scaled ≠ 0 → scaled.natAbs < 10 ^ 18 → text.value * 10 ^ decimals = scaled →
        parseFixedPoint val decimals = some scaled := by
  refine ⟨?_, ?_⟩
  · intro amount accepted
    obtain ⟨text, rfl⟩ := parseFixedPoint_grammar accepted
    exact ⟨⟨text, rfl, DecimalText.parseFixedPoint_value accepted⟩,
      parseSteps_fit short supported accepted⟩
  · rintro text scaled rfl exponent nonzero small exact
    exact DecimalText.parseFixedPoint_total exponent nonzero small exact

theorem parseFixedPoint_exact_sample : parseFixedPoint "-12.50e1".toList 2 = some (-12500) ∧
      ∃ text : DecimalText, text.chars = "-12.50e1".toList ∧
        (-12500 : Int) = text.value * 10 ^ 2 := by
  have parsed : parseFixedPoint "-12.50e1".toList 2 = some (-12500) := by decide
  exact ⟨parsed, ((parseFixedPoint_exact _ 2 (by decide) (by decide)).1 _ parsed).1⟩

end Minerium
