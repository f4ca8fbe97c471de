import Minerium.TransactionCore

/-! The subsidy schedule of `GetBlockSubsidy`. A `double` constant is `mantissa / 2 ^ shift`, and
`mulDouble` rounds the exact product to 53 significant bits, ties to even, before it truncates. -/

namespace Minerium

structure HeightBand (α : Type) where
  first : Nat
  last : Nat
  value : α

variable {α : Type} (band : HeightBand α) (nHeight : Nat)

def HeightBand.contains : Bool :=
  decide (band.first ≤ nHeight) && decide (nHeight ≤ band.last)

def bandValue (bands : List (HeightBand α)) (fallback : α) (nHeight : Nat) : α :=
  match bands.find? (·.contains nHeight) with
  | some band => band.value
  | none => fallback

def subsidyBands : List (HeightBand CAmount) :=
  [⟨0, 0, 1⟩, ⟨1, 1, 3000000⟩, ⟨2, 50, 0⟩, ⟨51, 10080, 6⟩, ⟨10081, 10320, 126⟩,
    ⟨10321, 10560, 226⟩, ⟨10561, 10800, 1006⟩, ⟨10801, 11040, 2746⟩, ⟨11041, 11280, 416⟩,
    ⟨11281, 11520, 506⟩, ⟨60481, 61920, 256⟩, ⟨97921, 99360, 46⟩, ⟨156961, 158400, 116⟩,
    ⟨208801, 210240, 86⟩, ⟨234721, 236160, 666⟩, ⟨270721, 272160, 316⟩,
    ⟨308161, 309600, 526⟩, ⟨365761, 367200, 116⟩, ⟨411841, 413280, 336⟩,
    ⟨470881, 472320, 766⟩, ⟨491041, 492480, 676⟩, ⟨532801, 534240, 316⟩,
    ⟨564481, 565920, 286⟩, ⟨627481, 629280, 446⟩, ⟨673921, 675360, 666⟩,
    ⟨718561, 720000, 306⟩, ⟨743041, 744480, 176⟩, ⟨793441, 794880, 326⟩,
    ⟨839521, 840960, 196⟩, ⟨889921, 891360, 449⟩, ⟨920161, 921600, 686⟩,
    ⟨973441, 974880, 166⟩, ⟨1002241, 1003680, 56⟩, ⟨1049761, 1051200, 2886⟩]

def nSubsidyAt : CAmount := bandValue subsidyBands 16 nHeight * COIN

structure DoubleConstant where
  mantissa : Nat
  shift : Nat

def double100 : DoubleConstant := ⟨1, 0⟩
def double050 : DoubleConstant := ⟨1, 1⟩
def double035 : DoubleConstant := ⟨6305039478318694, 54⟩
def double025 : DoubleConstant := ⟨1, 2⟩
def double020 : DoubleConstant := ⟨7205759403792794, 55⟩

def masternodeBands : List (HeightBand DoubleConstant) :=
  [⟨2, 10080, double100⟩, ⟨10081, 10800, double020⟩, ⟨10801, 61920, double035⟩,
    ⟨61921, 234720, double025⟩, ⟨234721, 236160, double050⟩, ⟨236161, 308160, double025⟩,
    ⟨308161, 367200, double020⟩, ⟨367201, 534240, double035⟩, ⟨534241, 1049760, double025⟩,
    ⟨1049761, 1051200, double050⟩]

def roundHalfEven (value drop : Nat) : Nat :=
  let quotient := value / 2 ^ drop
  let remainder := value % 2 ^ drop
  if 2 * remainder < 2 ^ drop then quotient
  else if 2 ^ drop < 2 * remainder then quotient + 1
  else quotient + quotient % 2

def mulDouble (nValue : CAmount) (constant : DoubleConstant) : CAmount :=
  let product := nValue.toInt.toNat * constant.mantissa
  let drop := product.log2 + 1 - 53
  Int64.ofNat (roundHalfEven product drop * 2 ^ drop / 2 ^ constant.shift)

structure SubsidyResult where
  nSubsidy : CAmount
  nTotalRewardWithMasternodes : CAmount

/-- `nTotalRewardWithMasternodes` is returned unchanged when only the superblock part is asked for.
-/
def getBlockSubsidy (nTotalRewardWithMasternodes : CAmount)
    (fSuperblockPartOnly fMasternodePartOnly : Bool) : SubsidyResult :=
  let nSubsidy := nSubsidyAt nHeight
  let nSuperblockPart := nSubsidy * 0
  if fSuperblockPartOnly then ⟨nSuperblockPart, nTotalRewardWithMasternodes⟩
  else
    let nSubsidy := nSubsidy - nSuperblockPart
    if fMasternodePartOnly then
      ⟨mulDouble nSubsidy (bandValue masternodeBands double020 nHeight), nSubsidy⟩
    else ⟨nSubsidy, nSubsidy⟩

end Minerium
