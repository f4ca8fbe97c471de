import Mathlib.Tactic.Ring
import Mathlib.Data.List.Basic

/-! Byte encodings of numbers with their readers: little-endian integers, compact sizes and
base-128 variable-length integers. -/

namespace ByteCodec

open List Option UInt8 Nat ByteCodec

variable {input rest : List UInt8} {α : Type} {count value bits acc digit : Nat}

abbrev Reader (α : Type) := List UInt8 → Option (α × List UInt8)

def leBytes : Nat → Nat → List UInt8
  | 0, _ => []
  | count + 1, value => ofNat (value % 256) :: leBytes count (value / 256)

def leValue : List UInt8 → Nat
  | [] => 0
  | byte :: rest => byte.toNat + 256 * leValue rest

def readLe (count : Nat) : Reader Nat := fun input =>
  if count ≤ input.length then some (leValue (input.take count), input.drop count) else none

@[simp] theorem length_leBytes (count value : Nat) : (leBytes count value).length = count := by
  induction count generalizing value with
  | zero => rfl
  | succ count ih => simp [leBytes, ih]

theorem leValue_leBytes (bound : value < 256 ^ count) : leValue (leBytes count value) = value := by
  induction count generalizing value with
  | zero =>
    simp only [pow_zero, lt_one_iff] at bound
    subst bound
    rfl
  | succ count ih =>
    have smaller : value / 256 < 256 ^ count := by
      rw [pow_succ] at bound
      omega
    have low : (ofNat (value % 256)).toNat = value % 256 := by
      rw [toNat_ofNat']
      omega
    simp only [leBytes, leValue, low, ih smaller]
    omega

theorem readLe_leBytes (bound : value < 256 ^ count) (rest : List UInt8) :
    readLe count (leBytes count value ++ rest) = some (value, rest) := by
  have long : count ≤ (leBytes count value ++ rest).length := by simp
  have front : (leBytes count value ++ rest).take count = leBytes count value := by
    rw [take_append_of_le_length (by simp)]
    exact take_of_length_le (by simp)
  have back : (leBytes count value ++ rest).drop count = rest := by
    rw [drop_append_of_le_length (by simp), drop_of_length_le (by simp)]
    rfl
  simp only [readLe, if_pos long, front, back, leValue_leBytes bound]

theorem leBytes_leValue (bytes : List UInt8) : leBytes bytes.length (leValue bytes) = bytes := by
  induction bytes with
  | nil => rfl
  | cons byte rest ih =>
    have bound := byte.toNat_lt
    have low : (byte.toNat + 256 * leValue rest) % 256 = byte.toNat := by omega
    have high : (byte.toNat + 256 * leValue rest) / 256 = leValue rest := by omega
    rw [length_cons, leValue, leBytes, low, high, ih, UInt8.ofNat_toNat]

theorem leValue_lt (bytes : List UInt8) : leValue bytes < 256 ^ bytes.length := by
  induction bytes with
  | nil => exact one_pos
  | cons byte rest ih =>
    have bound := byte.toNat_lt
    rw [leValue, length_cons, pow_succ]
    omega

theorem readLe_spec (result : readLe count input = some (value, rest)) :
    value < 256 ^ count ∧ input = leBytes count value ++ rest := by
  unfold readLe at result
  split at result
  · rename_i long
    cases result
    have length : (input.take count).length = count := length_take_of_le long
    have bound := leValue_lt (input.take count)
    have bytes := leBytes_leValue (input.take count)
    rw [length] at bound bytes
    exact ⟨bound, by rw [bytes, take_append_drop]⟩
  · cases result

def readBytes (count : Nat) : Reader (List UInt8) := fun input =>
  if count ≤ input.length then some (input.take count, input.drop count) else none

theorem readBytes_append (bytes rest : List UInt8) :
    readBytes bytes.length (bytes ++ rest) = some (bytes, rest) := by
  simp [readBytes]

def writeCompactSize (nSize : Nat) : List UInt8 :=
  if nSize < 253 then leBytes 1 nSize
  else if nSize ≤ 0xffff then 253 :: leBytes 2 nSize
  else if nSize ≤ 0xffffffff then 254 :: leBytes 4 nSize
  else 255 :: leBytes 8 nSize

def readAtLeast (lower : Nat) (read : Reader Nat) : Reader Nat := fun input => do
  let (value, rest) ← read input
  if value < lower then none else some (value, rest)

def readCompactSize : Reader Nat
  | [] => none
  | marker :: rest =>
    if marker.toNat < 253 then some (marker.toNat, rest)
    else if marker.toNat = 253 then readAtLeast 253 (readLe 2) rest
    else if marker.toNat = 254 then readAtLeast 0x10000 (readLe 4) rest
    else readAtLeast 0x100000000 (readLe 8) rest

theorem readAtLeast_leBytes {lower value : Nat} (low : lower ≤ value)
    (bound : value < 256 ^ count) :
    readAtLeast lower (readLe count) (leBytes count value ++ rest) = some (value, rest) := by
  have enough : ¬ value < lower := by omega
  simp [readAtLeast, readLe_leBytes bound, enough]

theorem readCompactSize_write {nSize : Nat} (bound : nSize < 2 ^ 64) (rest : List UInt8) :
    readCompactSize (writeCompactSize nSize ++ rest) = some (nSize, rest) := by
  unfold writeCompactSize
  split
  · rename_i small
    have byte : (ofNat (nSize % 256)).toNat = nSize := by
      rw [toNat_ofNat']
      omega
    simp only [leBytes, cons_append, nil_append, readCompactSize, byte, if_pos small]
  · split
    · exact readAtLeast_leBytes (by omega) (by omega)
    · split
      · exact readAtLeast_leBytes (by omega) (by omega)
      · exact readAtLeast_leBytes (by omega) (by omega)

theorem readAtLeast_spec {lower value : Nat} {read : Reader Nat}
    (result : readAtLeast lower read input = some (value, rest)) :
    lower ≤ value ∧ read input = some (value, rest) := by
  simp only [readAtLeast, bind_eq_bind, bind_eq_some_iff] at result
  obtain ⟨⟨found, after⟩, reads, bounded⟩ := result
  split at bounded
  · cases bounded
  · cases bounded
    exact ⟨by omega, reads⟩

theorem writeCompactSize_of_read {nSize : Nat}
    (result : readCompactSize input = some (nSize, rest)) :
    input = writeCompactSize nSize ++ rest := by
  cases input with
  | nil => cases result
  | cons marker after =>
    have bound := marker.toNat_lt
    simp only [readCompactSize] at result
    split at result
    · rename_i small
      cases result
      have byte : UInt8.ofNat (marker.toNat % 256) = marker := by
        rw [mod_eq_of_lt bound, UInt8.ofNat_toNat]
      simp only [writeCompactSize, if_pos small, leBytes, byte, cons_append, nil_append]
    split at result
    · rename_i isTwo
      obtain ⟨low, reads⟩ := readAtLeast_spec result
      obtain ⟨high, bytes⟩ := readLe_spec reads
      have same : marker = 253 := UInt8.toNat_inj.mp isTwo
      rw [writeCompactSize, if_neg (by omega), if_pos (by omega), cons_append, ← bytes, same]
    split at result
    · rename_i isFour
      obtain ⟨low, reads⟩ := readAtLeast_spec result
      obtain ⟨high, bytes⟩ := readLe_spec reads
      have same : marker = 254 := UInt8.toNat_inj.mp isFour
      rw [writeCompactSize, if_neg (by omega), if_neg (by omega), if_pos (by omega),
        cons_append, ← bytes, same]
    · obtain ⟨low, reads⟩ := readAtLeast_spec result
      obtain ⟨_, bytes⟩ := readLe_spec reads
      have same : marker = 255 := UInt8.toNat_inj.mp (by
        change marker.toNat = 255
        omega)
      rw [writeCompactSize, if_neg (by omega), if_neg (by omega), if_neg (by omega),
        cons_append, ← bytes, same]

def varIntLeading : Nat → Nat → List UInt8
  | 0, _ => []
  | fuel + 1, n =>
    if n ≤ 0x7f then []
    else varIntLeading fuel (n / 128 - 1) ++ [ofNat ((n / 128 - 1) % 128 + 128)]

/-- Ten digits are enough for every 64-bit value. -/
def writeVarInt (n : Nat) : List UInt8 := varIntLeading 9 n ++ [ofNat (n % 128)]

def readVarIntFrom (bits : Nat) : Nat → Reader Nat
  | _, [] => none
  | n, chData :: rest =>
    let n := (n * 128 + chData.toNat % 128) % 2 ^ bits
    if 128 ≤ chData.toNat then readVarIntFrom bits ((n + 1) % 2 ^ bits) rest
    else some (n, rest)

def readVarInt (bits : Nat) : Reader Nat := readVarIntFrom bits 0

theorem readVarIntFrom_digit (low : digit < 128) (fits : acc * 128 + digit + 1 < 2 ^ bits) :
    readVarIntFrom bits acc (ofNat (digit + 128) :: rest) =
      readVarIntFrom bits (acc * 128 + digit + 1) rest := by
  have byte : (ofNat (digit + 128)).toNat = digit + 128 := by
    rw [toNat_ofNat']
    omega
  have masked : (digit + 128) % 128 = digit := by omega
  have high : 128 ≤ digit + 128 := by omega
  simp only [readVarIntFrom, byte, masked, if_pos high]
  rw [mod_eq_of_lt (by omega : acc * 128 + digit < 2 ^ bits), mod_eq_of_lt fits]

theorem readVarIntFrom_last (low : digit < 128)
    (fits : acc * 128 + digit < 2 ^ bits) (rest : List UInt8) :
    readVarIntFrom bits acc (ofNat digit :: rest) = some (acc * 128 + digit, rest) := by
  have byte : (ofNat digit).toNat = digit := by
    rw [toNat_ofNat']
    omega
  have masked : digit % 128 = digit := by omega
  have last : ¬ 128 ≤ digit := by omega
  simp only [readVarIntFrom, byte, masked, if_neg last, mod_eq_of_lt fits]

section

variable {fuel m n : Nat}

theorem readVarIntFrom_leading (enough : n < 128 ^ (fuel + 1)) (fits : n < 2 ^ bits) :
    readVarIntFrom bits 0 (varIntLeading fuel n ++ rest) = readVarIntFrom bits (n / 128) rest := by
  induction fuel generalizing n rest with
  | zero =>
    have small : n / 128 = 0 := by
      simp only [zero_add, pow_one] at enough
      omega
    simp [varIntLeading, small]
  | succ fuel ih =>
    by_cases small : n ≤ 0x7f
    · have zero : n / 128 = 0 := by omega
      simp [varIntLeading, small, zero]
    · have shorter : n / 128 - 1 < 128 ^ (fuel + 1) := by
        rw [pow_succ] at enough
        omega
      have digits : (n / 128 - 1) / 128 * 128 + (n / 128 - 1) % 128 + 1 = n / 128 := by omega
      simp only [varIntLeading, if_neg small, append_assoc, singleton_append]
      rw [ih shorter (by omega), readVarIntFrom_digit (by omega) (by omega), digits]

theorem readVarInt_write (wide : n < 2 ^ 64) (fits : n < 2 ^ bits) (rest : List UInt8) :
    readVarInt bits (writeVarInt n ++ rest) = some (n, rest) := by
  have digits : n / 128 * 128 + n % 128 = n := by omega
  have enough : n < 128 ^ (9 + 1) := by
    have widths : (2 : Nat) ^ 64 ≤ 128 ^ (9 + 1) := by decide
    omega
  simp only [readVarInt, writeVarInt, append_assoc, singleton_append]
  rw [readVarIntFrom_leading enough fits, readVarIntFrom_last (by omega) (by omega), digits]

/-- The number that the digits stand for, whatever the width of the reader's type. -/
def varIntValue : Nat → Reader Nat
  | _, [] => none
  | n, chData :: rest =>
    if 128 ≤ chData.toNat then varIntValue (n * 128 + chData.toNat % 128 + 1) rest
    else some (n * 128 + chData.toNat % 128, rest)

theorem readVarIntFrom_eq (bits n : Nat) (input : List UInt8) :
    readVarIntFrom bits (n % 2 ^ bits) input =
      (varIntValue n input).map fun (value, rest) => (value % 2 ^ bits, rest) := by
  induction input generalizing n with
  | nil => rfl
  | cons chData rest ih =>
    have wrapped : (n % 2 ^ bits * 128 + chData.toNat % 128) % 2 ^ bits =
        (n * 128 + chData.toNat % 128) % 2 ^ bits := by
      rw [add_mod, mod_mul_mod, ← add_mod]
    simp only [readVarIntFrom, varIntValue, wrapped, mod_add_mod]
    split
    · exact ih _
    · rfl

theorem varIntValue_ge {value : Nat} (result : varIntValue n input = some (value, rest)) :
    n * 128 ≤ value := by
  induction input generalizing n with
  | nil => cases result
  | cons chData after ih =>
    simp only [varIntValue] at result
    split at result
    · have later := ih result
      omega
    · cases result
      omega

theorem varIntLeading_congr (same : m / 128 = n / 128) :
    varIntLeading fuel m = varIntLeading fuel n := by
  cases fuel with
  | zero => rfl
  | succ fuel =>
    have small : m ≤ 0x7f ↔ n ≤ 0x7f := by omega
    simp only [varIntLeading, small, same]

theorem varIntLeading_succ (enough : n < 128 ^ (fuel + 1)) :
    varIntLeading (fuel + 1) n = varIntLeading fuel n := by
  induction fuel generalizing n with
  | zero =>
    have small : n ≤ 0x7f := by
      rw [zero_add, pow_one] at enough
      omega
    simp [varIntLeading, small]
  | succ fuel ih =>
    have shorter : n / 128 - 1 < 128 ^ (fuel + 1) := by
      rw [pow_succ] at enough
      omega
    conv_lhs => rw [varIntLeading]
    conv_rhs => rw [varIntLeading]
    rw [ih shorter]

theorem varIntValue_leading {value : Nat} (result : varIntValue n input = some (value, rest))
    (enough : value < 128 ^ (fuel + 1)) :
    varIntLeading fuel (n * 128) ++ input =
      varIntLeading fuel value ++ ofNat (value % 128) :: rest := by
  induction input generalizing n with
  | nil => cases result
  | cons chData after ih =>
    have bound := chData.toNat_lt
    simp only [varIntValue] at result
    split at result
    · rename_i more
      have least := varIntValue_ge result
      have digit : UInt8.ofNat (chData.toNat % 128 + 128) = chData := by
        apply UInt8.toNat_inj.mp
        rw [UInt8.toNat_ofNat']
        omega
      rw [← ih result]
      cases fuel with
      | zero =>
        rw [zero_add, pow_one] at enough
        omega
      | succ fuel =>
        have shorter : n * 128 < 128 ^ (fuel + 1) := by
          rw [pow_succ] at enough
          omega
        have previous : (n * 128 + chData.toNat % 128 + 1) * 128 / 128 - 1 =
            n * 128 + chData.toNat % 128 := by omega
        have last : (n * 128 + chData.toNat % 128) % 128 + 128 =
            chData.toNat % 128 + 128 := by omega
        have front : varIntLeading fuel (n * 128 + chData.toNat % 128) =
            varIntLeading fuel (n * 128) := varIntLeading_congr (by omega)
        conv_rhs => rw [varIntLeading, if_neg (by omega), previous, last, digit, front,
          ← varIntLeading_succ shorter]
        rw [append_assoc, singleton_append]
    · rename_i last
      cases result
      have digit : UInt8.ofNat ((n * 128 + chData.toNat % 128) % 128) = chData := by
        apply UInt8.toNat_inj.mp
        rw [UInt8.toNat_ofNat']
        omega
      have front : varIntLeading fuel (n * 128 + chData.toNat % 128) =
          varIntLeading fuel (n * 128) := varIntLeading_congr (by omega)
      rw [digit, front]

theorem writeVarInt_of_value {value : Nat}
    (result : varIntValue 0 input = some (value, rest)) (wide : value < 2 ^ 64) :
    input = writeVarInt value ++ rest := by
  have enough : value < 128 ^ (9 + 1) := by
    have widths : (2 : Nat) ^ 64 ≤ 128 ^ (9 + 1) := by decide
    omega
  have leading := varIntValue_leading result enough
  have start : varIntLeading 9 (0 * 128) = [] := rfl
  rw [start, nil_append] at leading
  rw [leading, writeVarInt, append_assoc, singleton_append]

theorem varIntValue_write (wide : n < 2 ^ 64) (rest : List UInt8) :
    varIntValue 0 (writeVarInt n ++ rest) = some (n, rest) := by
  cases found : varIntValue 0 (writeVarInt n ++ rest) with
  | none =>
    have reads := readVarInt_write wide wide rest
    have same := readVarIntFrom_eq 64 0 (writeVarInt n ++ rest)
    rw [zero_mod, found] at same
    rw [readVarInt, same] at reads
    cases reads
  | some result =>
    obtain ⟨value, after⟩ := result
    -- A type that is wide enough for both numbers.
    have narrow : n < 2 ^ (64 + value) :=
      wide.trans_le (Nat.pow_le_pow_right Nat.two_pos (Nat.le_add_right _ _))
    have small : value < 2 ^ (64 + value) :=
      Nat.lt_of_lt_of_le Nat.lt_two_pow_self
        (Nat.pow_le_pow_right Nat.two_pos (Nat.le_add_left _ _))
    have reads := readVarInt_write wide narrow rest
    have same := readVarIntFrom_eq (64 + value) 0 (writeVarInt n ++ rest)
    rw [zero_mod, found, map_some] at same
    dsimp only at same
    rw [mod_eq_of_lt small] at same
    exact same.symm.trans reads

end

def PrefixInjectiveOn {α : Type} (valid : α → Prop) (encode : α → List UInt8) : Prop :=
  ∀ ⦃a b : α⦄ ⦃restA restB : List UInt8⦄, valid a → valid b →
    encode a ++ restA = encode b ++ restB → a = b ∧ restA = restB

variable {valid : α → Prop} {encode : α → List UInt8}

theorem PrefixInjectiveOn.of_reader
    {read : Reader α} (reads : ∀ a, valid a → ∀ rest, read (encode a ++ rest) = some (a, rest)) :
    PrefixInjectiveOn valid encode := by
  intro a b restA restB validA validB same
  have first := reads a validA restA
  rw [same, reads b validB restB] at first
  simp only [Option.some.injEq, Prod.mk.injEq] at first
  exact ⟨first.1.symm, first.2.symm⟩

theorem PrefixInjectiveOn.leBytes (count : Nat) :
    PrefixInjectiveOn (· < 256 ^ count) (leBytes count) :=
  PrefixInjectiveOn.of_reader fun _ bound => readLe_leBytes bound

theorem PrefixInjectiveOn.writeCompactSize : PrefixInjectiveOn (· < 2 ^ 64) writeCompactSize :=
  PrefixInjectiveOn.of_reader fun _ bound => readCompactSize_write bound

theorem PrefixInjectiveOn.comp {β : Type} {valid : β → Prop} {encode : β → List UInt8}
    (injective : PrefixInjectiveOn valid encode) (project : α → β)
    (distinct : Function.Injective project) :
    PrefixInjectiveOn (fun a => valid (project a)) (fun a => encode (project a)) := by
  intro a b restA restB validA validB same
  obtain ⟨projected, rests⟩ := injective validA validB same
  exact ⟨distinct projected, rests⟩

theorem PrefixInjectiveOn.mono {valid narrower : α → Prop}
    (injective : PrefixInjectiveOn valid encode) (implies : ∀ a, narrower a → valid a) :
    PrefixInjectiveOn narrower encode := by
  intro a b restA restB validA validB same
  exact injective (implies a validA) (implies b validB) same

theorem PrefixInjectiveOn.pair {β : Type} {validA : α → Prop} {validB : β → Prop}
    {encodeA : α → List UInt8} {encodeB : β → List UInt8}
    (first : PrefixInjectiveOn validA encodeA) (second : PrefixInjectiveOn validB encodeB) :
    PrefixInjectiveOn (fun pair : α × β => validA pair.1 ∧ validB pair.2)
      (fun pair => encodeA pair.1 ++ encodeB pair.2) := by
  intro p q restP restQ validP validQ same
  simp only [append_assoc] at same
  obtain ⟨sameFirst, tails⟩ := first validP.1 validQ.1 same
  obtain ⟨sameSecond, rests⟩ := second validP.2 validQ.2 tails
  exact ⟨Prod.ext sameFirst sameSecond, rests⟩

theorem PrefixInjectiveOn.eq
    (injective : PrefixInjectiveOn valid encode) {a b : α} (validA : valid a) (validB : valid b)
    (same : encode a = encode b) : a = b :=
  (@injective a b [] [] validA validB (by rw [same])).1

theorem PrefixInjectiveOn.flatMap (injective : PrefixInjectiveOn valid encode) :
    ∀ {xs ys : List α} {restA restB : List UInt8}, xs.length = ys.length →
      (∀ x ∈ xs, valid x) → (∀ y ∈ ys, valid y) →
      xs.flatMap encode ++ restA = ys.flatMap encode ++ restB → xs = ys ∧ restA = restB := by
  intro xs
  induction xs with
  | nil =>
    intro ys restA restB lengths _ _ same
    obtain rfl := length_eq_zero_iff.mp lengths.symm
    exact ⟨rfl, same⟩
  | cons x xs ih =>
    intro ys restA restB lengths validX validY same
    cases ys with
    | nil => cases lengths
    | cons y ys =>
      simp only [flatMap_cons, append_assoc] at same
      obtain ⟨rfl, tails⟩ := injective (validX x mem_cons_self) (validY y mem_cons_self) same
      obtain ⟨rfl, rests⟩ := ih (succ.inj lengths)
        (fun z member => validX z (mem_cons_of_mem _ member))
        (fun z member => validY z (mem_cons_of_mem _ member)) tails
      exact ⟨rfl, rests⟩

def writeVector {α : Type} (encode : α → List UInt8) (xs : List α) : List UInt8 :=
  writeCompactSize xs.length ++ xs.flatMap encode

theorem PrefixInjectiveOn.writeVector (injective : PrefixInjectiveOn valid encode) :
    PrefixInjectiveOn (fun xs => xs.length < 2 ^ 64 ∧ ∀ x ∈ xs, valid x)
      (writeVector encode) := by
  intro xs ys restA restB validX validY same
  simp only [ByteCodec.writeVector, append_assoc] at same
  obtain ⟨lengths, tails⟩ := PrefixInjectiveOn.writeCompactSize validX.1 validY.1 same
  exact injective.flatMap lengths validX.2 validY.2 tails

def readMany {α : Type} (read : Reader α) : Nat → Reader (List α)
  | 0, input => some ([], input)
  | count + 1, input => do
      let (x, input) ← read input
      let (xs, input) ← readMany read count input
      return (x :: xs, input)

theorem readMany_flatMap {read : Reader α} {xs : List α}
    (reads : ∀ x ∈ xs, ∀ rest, read (encode x ++ rest) = some (x, rest)) :
    readMany read xs.length (xs.flatMap encode ++ rest) = some (xs, rest) := by
  induction xs with
  | nil => rfl
  | cons x xs ih =>
    have first := reads x mem_cons_self (xs.flatMap encode ++ rest)
    have others := ih fun y member => reads y (mem_cons_of_mem x member)
    simp only [length_cons, flatMap_cons, append_assoc, readMany, first,
      bind_eq_bind, bind_some, others]
    rfl

def writeBytes (bytes : List UInt8) : List UInt8 := writeCompactSize bytes.length ++ bytes

theorem PrefixInjectiveOn.writeBytes :
    PrefixInjectiveOn (fun bytes => bytes.length < 2 ^ 64) writeBytes := by
  intro xs ys restA restB validX validY same
  simp only [ByteCodec.writeBytes, append_assoc] at same
  obtain ⟨lengths, tails⟩ := PrefixInjectiveOn.writeCompactSize validX validY same
  exact append_inj tails lengths

variable (encode)

theorem length_le_flatMap {x : α} {xs : List α} (member : x ∈ xs) :
    (encode x).length ≤ (xs.flatMap encode).length := by
  induction xs with
  | nil => cases member
  | cons y ys ih =>
    rw [flatMap_cons, length_append]
    rcases mem_cons.mp member with rfl | later
    · exact le_add_right _ _
    · exact (ih later).trans (le_add_left _ _)

theorem length_flatMap_ge (least : Nat) (long : ∀ x, least ≤ (encode x).length) (xs : List α) :
    least * xs.length ≤ (xs.flatMap encode).length := by
  induction xs with
  | nil => simp
  | cons x xs ih =>
    have first := long x
    simp only [flatMap_cons, length_append, length_cons, mul_succ]
    omega

theorem length_writeCompactSize_pos (nSize : Nat) : 1 ≤ (writeCompactSize nSize).length := by
  unfold writeCompactSize
  split
  · simp
  · split
    · simp
    · split <;> simp

end ByteCodec
