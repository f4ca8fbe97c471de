import Minerium.TransactionCore

/-! Amounts as decimal text, from `utilstrencodings.cpp` and `asset.cpp`. The parser returns `none`
where the source returns false, the asset functions where they throw. -/

namespace Minerium

def UPPER_BOUND : Nat := 1000000000000000000 - 1

structure Mantissa where
  value : Nat
  tzeros : Nat
deriving DecidableEq

def scaleMantissa : Nat → Nat → Option Nat
  | 0, mantissa => some mantissa
  | times + 1, mantissa =>
    if UPPER_BOUND / 10 < mantissa then none else scaleMantissa times (mantissa * 10)

def isDigit (ch : Char) : Bool := decide ('0' ≤ ch ∧ ch ≤ '9')

def digitValue (ch : Char) : Nat := ch.toNat - '0'.toNat

def processMantissaDigit (ch : Char) (mantissa : Mantissa) : Option Mantissa :=
  if ch = '0' then some { mantissa with tzeros := mantissa.tzeros + 1 }
  else
    (scaleMantissa (mantissa.tzeros + 1) mantissa.value).map fun value =>
      { value := value + digitValue ch, tzeros := 0 }

structure Digits where
  mantissa : Mantissa
  count : Nat
  rest : List Char
deriving DecidableEq

def readDigits (mantissa : Mantissa) (count : Nat) : List Char → Option Digits
  | [] => some ⟨mantissa, count, []⟩
  | ch :: rest =>
    if isDigit ch then do
      let mantissa ← processMantissaDigit ch mantissa
      readDigits mantissa (count + 1) rest
    else some ⟨mantissa, count, ch :: rest⟩

def readInteger : List Char → Option Digits
  | [] => none
  | ch :: rest =>
    if ch = '0' then some ⟨⟨0, 0⟩, 0, rest⟩
    else if isDigit ch then readDigits ⟨0, 0⟩ 0 (ch :: rest)
    else none

def readFraction (mantissa : Mantissa) : List Char → Option Digits
  | '.' :: ch :: rest => if isDigit ch then readDigits mantissa 0 (ch :: rest) else none
  | ['.'] => none
  | rest => some ⟨mantissa, 0, rest⟩

def readExponentDigits (exponent : Nat) : List Char → Option Nat
  | [] => some exponent
  | ch :: rest =>
    if isDigit ch then
      if UPPER_BOUND / 10 < exponent then none
      else readExponentDigits (exponent * 10 + digitValue ch) rest
    else none

def readUnsignedExponent : List Char → Option Nat
  | [] => none
  | rest => readExponentDigits 0 rest

def readExponent : List Char → Option Int
  | [] => some 0
  | ch :: rest =>
    if ch = 'e' ∨ ch = 'E' then
      match rest with
      | '+' :: rest => (readUnsignedExponent rest).map fun e => (e : Int)
      | '-' :: rest => (readUnsignedExponent rest).map fun e => -(e : Int)
      | rest => (readUnsignedExponent rest).map fun e => (e : Int)
    else none

def readSign : List Char → Bool × List Char
  | '-' :: rest => (true, rest)
  | rest => (false, rest)

def parseFixedPoint (val : List Char) (decimals : Nat) : Option Int := do
  let (negative, val) := readSign val
  let integer ← readInteger val
  let fraction ← readFraction integer.mantissa integer.rest
  let exponent ← readExponent fraction.rest
  let exponent := exponent - fraction.count + fraction.mantissa.tzeros + decimals
  if exponent < 0 ∨ 18 ≤ exponent then none
  else do
    let mantissa ← scaleMantissa exponent.toNat fraction.mantissa.value
    if UPPER_BOUND < mantissa then none
    else some (if negative then -(mantissa : Int) else mantissa)

def MAX_INPUTRANGE_ASSET : CAmount := 10000000

def MAX_ASSET : CAmount := 1000000000000000000 - 1

def amountInRange (nValue : CAmount) (bUseInputRange : Bool) : Bool :=
  decide (0 < nValue ∧ nValue ≤ if bUseInputRange then MAX_INPUTRANGE_ASSET else MAX_ASSET)

def digitChar (digit : Nat) : Char := Char.ofNat ('0'.toNat + digit)

def lastDigits : Nat → Nat → List Char
  | 0, _ => []
  | count + 1, n => lastDigits count (n / 10) ++ [digitChar (n % 10)]

def decimalFrom : Nat → Nat → List Char
  | 0, n => [digitChar (n % 10)]
  | fuel + 1, n =>
    if n < 10 then [digitChar n] else decimalFrom fuel (n / 10) ++ [digitChar (n % 10)]

def decimal (n : Nat) : List Char := decimalFrom 19 n

/-- Precision 0 is written with one zero after the point. -/
def valueFromAssetAmount (amount : CAmount) (precision : Nat) (isInputRange : Bool) :
    Option (List Char) :=
  let precision := if isInputRange then 0 else precision
  if 8 < precision then none
  else
    let magnitude := amount.toInt.natAbs
    let quotient := decimal (magnitude / 10 ^ precision)
    -- the smallest number is its own negation, and both its parts print a sign of their own
    let remainder :=
      if precision = 0 then ['0']
      else if amount = Int64.minValue then '-' :: decimal (magnitude % 10 ^ precision)
      else lastDigits precision (magnitude % 10 ^ precision)
    let sign :=
      if amount = Int64.minValue then ['-', '-'] else if amount < 0 then ['-'] else []
    some (sign ++ quotient ++ '.' :: remainder)

def uncapped (value : List Char) (precision : Nat) (isInputRange : Bool) : List Char :=
  if value = ['-', '1'] then
    if isInputRange then decimal MAX_INPUTRANGE_ASSET.toInt.toNat
    else decimal (MAX_ASSET.toInt.toNat / 10 ^ precision)
  else value

def assetAmountFromValue (value : List Char) (precision : Nat) (isInputRange : Bool) :
    Option CAmount := do
  let precision := if isInputRange then 0 else precision
  if 8 < precision then none
  else
    let amount ← parseFixedPoint (uncapped value precision isInputRange) precision
    if amountInRange (Int64.ofInt amount) isInputRange then some (Int64.ofInt amount) else none

def assetRange (amount : CAmount) (precision : Nat) (isInputRange : Bool) : Option Bool :=
  let precision := if isInputRange then 0 else precision
  if 8 < precision then none
  else
    let n_abs : CAmount := if amount < 0 then -amount else amount
    some (amountInRange (n_abs / Int64.ofNat (10 ^ precision)) isInputRange)

end Minerium
