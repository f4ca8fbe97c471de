import Minerium.Lib.ByteCodec

/-! Formats of values in a byte stream whose readers accept more than their writers produce. -/

namespace StreamFormat

open ByteCodec List Option Option UInt8

variable {input rest : List UInt8} {count : Nat}

structure Format (α : Type) where
  write : α → List UInt8
  read : Reader α
  canonical : List UInt8 → Bool
  aligned : ∀ {input rest tail : List UInt8} {x : α}, read input = some (x, rest) →
    input = write x ++ tail → tail = rest
  faithful : ∀ {input rest : List UInt8} {x : α}, read input = some (x, rest) →
    (input = write x ++ rest ↔ canonical input = true)

namespace Format

variable {α β : Type} {limit : Nat}

def Rereads (format : Format α) (x : α) : Prop :=
  ∀ tail, format.read (format.write x ++ tail) = some (x, tail)

def strict (write : α → List UInt8) (read : Reader α)
    (inverse : ∀ {input rest : List UInt8} {x : α}, read input = some (x, rest) →
      input = write x ++ rest) : Format α where
  write := write
  read := read
  canonical _ := true
  aligned result same := append_cancel_left (same.symm.trans (inverse result))
  faithful result := iff_of_true (inverse result) rfl

def imap (format : Format α) (f : α → β) (g : β → α)
    (inverse : ∀ {input rest : List UInt8} {x : α}, format.read input = some (x, rest) →
      g (f x) = x) : Format β where
  write y := format.write (g y)
  read input := (format.read input).map fun (x, rest) => (f x, rest)
  canonical := format.canonical
  aligned := by
    intro input rest tail y result same
    obtain ⟨⟨x, after⟩, found, equal⟩ := map_eq_some_iff.mp result
    cases equal
    rw [inverse found] at same
    exact format.aligned found same
  faithful := by
    intro input rest y result
    obtain ⟨⟨x, after⟩, found, equal⟩ := map_eq_some_iff.mp result
    cases equal
    rw [inverse found]
    exact format.faithful found

variable {format : Format α} {x : α} {y : β}

theorem Rereads.map {other : Format β} (rereads : format.Rereads x) (f : α → β)
    (read : ∀ input, other.read input = (format.read input).map fun (x, rest) => (f x, rest))
    (write : other.write y = format.write x) (back : f x = y) : other.Rereads y := by
  intro tail
  rw [read, write, rereads tail, map_some, ← back]

/-- Values are read as coarser ones; what is written for a coarser value is a choice of the
writer. -/
def lossy [DecidableEq α] (format : Format α) (f : α → β) (g : β → α)
    (rereads : ∀ {input rest : List UInt8} {x : α}, format.read input = some (x, rest) →
      format.Rereads (g (f x))) : Format β where
  write y := format.write (g y)
  read input := (format.read input).map fun (x, rest) => (f x, rest)
  canonical input :=
    format.canonical input && (format.read input).all fun (x, _) => decide (g (f x) = x)
  aligned := by
    intro input rest tail y result same
    obtain ⟨⟨x, after⟩, found, equal⟩ := map_eq_some_iff.mp result
    cases equal
    have again := rereads found tail
    rw [← same, found] at again
    exact (Prod.mk.inj (some.inj again)).2.symm
  faithful := by
    intro input rest y result
    obtain ⟨⟨x, after⟩, found, equal⟩ := map_eq_some_iff.mp result
    cases equal
    rw [Bool.and_eq_true, found, all_some, decide_eq_true_eq]
    constructor
    · intro same
      have again := rereads found rest
      rw [← same, found] at again
      have chosen : g (f x) = x := (Prod.mk.inj (some.inj again)).1.symm
      rw [chosen] at same
      exact ⟨(format.faithful found).mp same, chosen⟩
    · rintro ⟨canonical, chosen⟩
      rw [chosen]
      exact (format.faithful found).mpr canonical

def bind (first : Format α) (second : α → Format β) : Format (α × β) where
  write pair := first.write pair.1 ++ (second pair.1).write pair.2
  read input := do
    let (x, rest) ← first.read input
    let (y, rest) ← (second x).read rest
    return ((x, y), rest)
  canonical input :=
    first.canonical input && (first.read input).all fun (x, rest) => (second x).canonical rest
  aligned := by
    intro input rest tail pair result same
    simp only [Option.bind_eq_bind, Option.bind_eq_some_iff, Option.pure_def] at result
    obtain ⟨⟨x, middle⟩, foundFirst, ⟨y, after⟩, foundSecond, equal⟩ := result
    cases equal
    rw [append_assoc] at same
    have middleSame := first.aligned foundFirst same
    exact (second x).aligned foundSecond middleSame.symm
  faithful := by
    intro input rest pair result
    simp only [Option.bind_eq_bind, Option.bind_eq_some_iff, Option.pure_def] at result
    obtain ⟨⟨x, middle⟩, foundFirst, ⟨y, after⟩, foundSecond, equal⟩ := result
    cases equal
    rw [Bool.and_eq_true, foundFirst, all_some, append_assoc]
    constructor
    · intro same
      have middleSame := first.aligned foundFirst same
      rw [middleSame] at same
      exact ⟨(first.faithful foundFirst).mp same,
        ((second x).faithful foundSecond).mp middleSame.symm⟩
    · rintro ⟨canonicalFirst, canonicalSecond⟩
      rw [← ((second x).faithful foundSecond).mpr canonicalSecond]
      exact (first.faithful foundFirst).mpr canonicalFirst

def pair (first : Format α) (second : Format β) : Format (α × β) := first.bind fun _ => second

section

variable {first : Format α} {second : α → Format β}

theorem bind_rereads (rereadsFirst : first.Rereads x) (rereadsSecond : (second x).Rereads y) :
    (first.bind second).Rereads (x, y) := by
  intro tail
  have one := rereadsFirst ((second x).write y ++ tail)
  have two := rereadsSecond tail
  simp only [bind, append_assoc, one, two, Option.bind_eq_bind, Option.bind_some, Option.pure_def]

theorem bind_read (result : (first.bind second).read input = some ((x, y), rest)) :
    ∃ middle, first.read input = some (x, middle) ∧ (second x).read middle = some (y, rest) := by
  simp only [bind, Option.bind_eq_bind, Option.bind_eq_some_iff, Option.pure_def] at result
  obtain ⟨⟨x, middle⟩, foundFirst, ⟨y, after⟩, foundSecond, equal⟩ := result
  cases equal
  exact ⟨middle, foundFirst, foundSecond⟩

end

def manyCanonical (format : Format α) : Nat → List UInt8 → Bool
  | 0, _ => true
  | count + 1, input =>
    format.canonical input &&
      (format.read input).all fun (_, rest) => format.manyCanonical count rest

variable {read : Reader α} {xs : List α}

theorem readMany_cons (result : readMany read (count + 1) input = some (xs, rest)) :
    ∃ x others middle, xs = x :: others ∧ read input = some (x, middle) ∧
      readMany read count middle = some (others, rest) := by
  simp only [readMany, Option.bind_eq_bind, Option.bind_eq_some_iff, Option.pure_def] at result
  obtain ⟨⟨x, middle⟩, found, ⟨others, after⟩, foundOthers, equal⟩ := result
  cases equal
  exact ⟨x, others, middle, rfl, found, foundOthers⟩

theorem readMany_length
    (result : readMany read count input = some (xs, rest)) : xs.length = count := by
  induction count generalizing input xs with
  | zero =>
    cases result
    rfl
  | succ count ih =>
    obtain ⟨x, others, middle, rfl, _, later⟩ := readMany_cons result
    rw [length_cons, ih later]

theorem readMany_mem (result : readMany read count input = some (xs, rest)) (member : x ∈ xs) :
    ∃ before after, read before = some (x, after) := by
  induction count generalizing input xs with
  | zero =>
    cases result
    cases member
  | succ count ih =>
    obtain ⟨first, others, middle, rfl, found, later⟩ := readMany_cons result
    rcases mem_cons.mp member with rfl | inOthers
    · exact ⟨input, middle, found⟩
    · exact ih later inOthers

section

variable (limit format)

def many (count : Nat) : Format (List α) where
  write xs := xs.flatMap format.write
  read := readMany format.read count
  canonical := format.manyCanonical count
  aligned := by
    intro input rest tail xs result same
    induction count generalizing input xs with
    | zero =>
      cases result
      exact same.symm
    | succ count ih =>
      obtain ⟨x, others, middle, rfl, found, later⟩ := readMany_cons result
      rw [flatMap_cons, append_assoc] at same
      exact ih later (format.aligned found same).symm
  faithful := by
    intro input rest xs result
    induction count generalizing input xs with
    | zero =>
      cases result
      simp [manyCanonical]
    | succ count ih =>
      obtain ⟨x, others, middle, rfl, found, later⟩ := readMany_cons result
      rw [flatMap_cons, append_assoc, manyCanonical, Bool.and_eq_true, found, all_some]
      constructor
      · intro same
        have middleSame := format.aligned found same
        rw [middleSame] at same
        exact ⟨(format.faithful found).mp same, (ih later).mp middleSame.symm⟩
      · rintro ⟨canonicalFirst, canonicalOthers⟩
        rw [← (ih later).mpr canonicalOthers]
        exact (format.faithful found).mpr canonicalFirst

/-- A size of at most `limit`, then as many values. -/
def size : Format Nat :=
  strict writeCompactSize (fun input => do
    let (nSize, rest) ← readCompactSize input
    if limit < nSize then none else some (nSize, rest)) (by
      intro input rest nSize result
      simp only [bind_eq_bind, bind_eq_some_iff] at result
      obtain ⟨⟨value, after⟩, found, bounded⟩ := result
      split at bounded
      · cases bounded
      · cases bounded
        exact writeCompactSize_of_read found)

def vector : Format (List α) :=
  ((size limit).bind fun count => format.many count).imap Prod.snd (fun xs => (xs.length, xs)) (by
    rintro input rest ⟨count, xs⟩ result
    obtain ⟨middle, _, found⟩ := bind_read result
    exact Prod.ext (readMany_length found) rfl)

end

theorem size_rereads {nSize : Nat} (bounded : nSize ≤ limit) (fits : limit < 2 ^ 64) :
    (size limit).Rereads nSize := by
  intro tail
  have reads := readCompactSize_write (Nat.lt_of_le_of_lt bounded fits) tail
  change (readCompactSize (writeCompactSize nSize ++ tail)).bind _ = _
  rw [reads, bind_some]
  exact if_neg (Nat.not_lt.mpr bounded)

theorem vector_rereads (fits : limit < 2 ^ 64)
    (rereads : ∀ x ∈ xs, format.Rereads x) (bounded : xs.length ≤ limit) :
    (vector limit format).Rereads xs := by
  have many : (format.many xs.length).Rereads xs := fun rest => readMany_flatMap rereads
  have both : ((size limit).bind fun count => format.many count).Rereads (xs.length, xs) :=
    bind_rereads (size_rereads bounded fits) many
  exact both.map Prod.snd (fun _ => rfl) rfl rfl

theorem vector_read (result : (vector limit format).read input = some (xs, rest)) :
    xs.length ≤ limit ∧ ∀ x ∈ xs, ∃ before after, format.read before = some (x, after) := by
  obtain ⟨⟨⟨count, ys⟩, after⟩, found, equal⟩ := map_eq_some_iff.mp result
  cases equal
  obtain ⟨middle, foundSize, foundMany⟩ := bind_read found
  refine ⟨?_, fun x member => readMany_mem foundMany member⟩
  rw [readMany_length foundMany]
  simp only [size, strict, bind_eq_bind, bind_eq_some_iff] at foundSize
  obtain ⟨⟨nSize, later⟩, _, bounded⟩ := foundSize
  split at bounded
  · cases bounded
  · cases bounded
    omega

def le (count : Nat) : Format Nat :=
  strict (leBytes count) (readLe count) fun result => (readLe_spec result).2

theorem varInt_lt {bits n : Nat}
    (result : readVarInt bits input = some (n, rest)) : n < 2 ^ bits := by
  have same := readVarIntFrom_eq bits 0 input
  rw [Nat.zero_mod] at same
  obtain ⟨⟨value, after⟩, _, equal⟩ := map_eq_some_iff.mp (same.symm.trans result)
  cases equal
  exact Nat.mod_lt _ (Nat.two_pow_pos bits)

/-- A variable-length number, reduced to the width of its type. -/
def varInt (bits : Nat) (narrow : bits ≤ 64) : Format Nat where
  write := writeVarInt
  read := readVarInt bits
  canonical input := (varIntValue 0 input).all fun (value, _) => decide (value < 2 ^ bits)
  aligned := by
    intro input rest tail n result same
    have fits := varInt_lt result
    have wide := fits.trans_le (Nat.pow_le_pow_right Nat.two_pos narrow)
    rw [same, readVarInt_write wide fits] at result
    exact (Prod.mk.inj (some.inj result)).2
  faithful := by
    intro input rest n result
    have fits := varInt_lt result
    have wide := fits.trans_le (Nat.pow_le_pow_right Nat.two_pos narrow)
    have reduced := readVarIntFrom_eq bits 0 input
    rw [Nat.zero_mod] at reduced
    obtain ⟨⟨value, after⟩, found, equal⟩ := map_eq_some_iff.mp (reduced.symm.trans result)
    cases equal
    rw [found, all_some, decide_eq_true_eq]
    constructor
    · intro same
      have again := varIntValue_write wide rest
      rw [← same, found] at again
      rw [(Prod.mk.inj (some.inj again)).1]
      exact fits
    · intro inRange
      rw [Nat.mod_eq_of_lt inRange]
      exact writeVarInt_of_value found (inRange.trans_le (Nat.pow_le_pow_right Nat.two_pos narrow))

theorem varInt_rereads {bits n : Nat} (narrow : bits ≤ 64) (fits : n < 2 ^ bits) :
    (varInt bits narrow).Rereads n :=
  readVarInt_write (fits.trans_le (Nat.pow_le_pow_right Nat.two_pos narrow)) fits

def byte : Format UInt8 :=
  (le 1).imap ofNat toNat (by
    intro input rest n result
    have bound := (readLe_spec result).1
    rw [toNat_ofNat']
    omega)

theorem byte_rereads {value : UInt8} : byte.Rereads value := by
  have fits : value.toNat < 256 ^ 1 := value.toNat_lt
  have reads : (le 1).Rereads value.toNat := readLe_leBytes fits
  exact reads.map UInt8.ofNat (fun _ => rfl) rfl UInt8.ofNat_toNat

/-- Any byte but zero is read as true, and true is written as one. -/
def bool : Format Bool :=
  byte.lossy (fun value => decide (value ≠ 0)) (fun b => if b then 1 else 0) fun _ => byte_rereads

def uint32 : Format UInt32 :=
  (le 4).imap UInt32.ofNat UInt32.toNat (by
    intro input rest n result
    have bound := (readLe_spec result).1
    rw [UInt32.toNat_ofNat']
    omega)

def uint64 : Format UInt64 :=
  (le 8).imap UInt64.ofNat UInt64.toNat (by
    intro input rest n result
    have bound := (readLe_spec result).1
    rw [UInt64.toNat_ofNat']
    omega)

def varInt8 : Format UInt8 :=
  (varInt 8 (by decide)).imap ofNat toNat (by
    intro input rest n result
    have bound := varInt_lt result
    rw [toNat_ofNat']
    omega)

theorem varInt8_rereads {value : UInt8} : varInt8.Rereads value := by
  have fits : value.toNat < 2 ^ 8 := value.toNat_lt
  exact (varInt_rereads (by decide) fits).map UInt8.ofNat (fun _ => rfl) rfl UInt8.ofNat_toNat

def varInt32 : Format UInt32 :=
  (varInt 32 (by decide)).imap UInt32.ofNat UInt32.toNat (by
    intro input rest n result
    have bound := varInt_lt result
    rw [UInt32.toNat_ofNat']
    omega)

def varInt64 : Format UInt64 :=
  (varInt 64 (by decide)).imap UInt64.ofNat UInt64.toNat (by
    intro input rest n result
    have bound := varInt_lt result
    rw [UInt64.toNat_ofNat']
    omega)

theorem varInt64_rereads {value : UInt64} : varInt64.Rereads value := by
  have fits : value.toNat < 2 ^ 64 := value.toNat_lt
  exact (varInt_rereads (by decide) fits).map UInt64.ofNat (fun _ => rfl) rfl UInt64.ofNat_toNat

end Format

end StreamFormat
