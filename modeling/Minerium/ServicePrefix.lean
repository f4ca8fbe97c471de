import Minerium.ScriptVerifyCore

/-! Decoding what the push operator built. Operation and arguments of a service output always
come back. -/

namespace Minerium

open ByteCodec List Option Nat

variable {n opcode sizeBytes : Nat} {args : List Bytes} {service : Service} {op : ScriptOp}
  {pc rest : CScript} {byte : UInt8}

theorem toNat_encodeOP_N (positive : 1 ≤ n) (small : n ≤ 16) :
    (encodeOP_N n).toNat = OP_1 + n - 1 := by
  unfold encodeOP_N OP_1
  rw [if_neg (by omega), UInt8.toNat_ofNat']
  omega

theorem getSmallOp_encodeOP_N (positive : 1 ≤ n) (small : n ≤ 16) :
    getSmallOp (encodeOP_N n :: pc) = some (n, pc) := by
  have opcode := toNat_encodeOP_N positive small
  unfold OP_1 at opcode
  have read : getOp (encodeOP_N n :: pc) = some ⟨(encodeOP_N n).toNat, [], pc⟩ := by
    unfold getOp
    dsimp only
    unfold OP_PUSHDATA1 OP_PUSHDATA2 OP_PUSHDATA4
    rw [if_neg (by omega), if_neg (by omega), if_neg (by omega), if_neg (by omega)]
  simp only [getSmallOp, read, bind_eq_bind, bind_some, opcode, OP_1, OP_16, decodeOP_N]
  rw [if_neg (by omega), if_neg (by omega)]
  congr 2
  omega

theorem readPush_leBytes {arg rest : Bytes} (fits : arg.length < 256 ^ sizeBytes) :
    readPush opcode sizeBytes (leBytes sizeBytes arg.length ++ arg ++ rest) =
      some ⟨opcode, arg, rest⟩ := by
  rw [append_assoc]
  simp [readPush, readLe_leBytes fits, readBytes_append]

theorem getOp_pushBytes (arg : Bytes) (short : arg.length < 2 ^ 32) (rest : CScript) :
    ∃ opcode, getOp (pushBytes arg ++ rest) = some ⟨opcode, arg, rest⟩ ∧ opcode ≤ OP_PUSHDATA4 := by
  unfold pushBytes
  split
  · rename_i direct
    unfold OP_PUSHDATA1 at direct
    have opcode : (UInt8.ofNat arg.length).toNat = arg.length := by
      rw [UInt8.toNat_ofNat']
      omega
    refine ⟨arg.length, ?_, by unfold OP_PUSHDATA4; omega⟩
    rw [cons_append, getOp]
    dsimp only
    rw [opcode, if_pos (by unfold OP_PUSHDATA1; omega), readBytes_append]
    rfl
  split
  · rename_i one
    refine ⟨OP_PUSHDATA1, ?_, by decide⟩
    exact readPush_leBytes (by omega)
  split
  · rename_i two
    refine ⟨OP_PUSHDATA2, ?_, by decide⟩
    exact readPush_leBytes (by omega)
  · refine ⟨OP_PUSHDATA4, ?_, by decide⟩
    exact readPush_leBytes (by omega)

theorem length_pushBytes_pos (arg : Bytes) : 1 ≤ (pushBytes arg).length := by
  unfold pushBytes
  split
  · simp
  split
  · simp
  split <;> simp

theorem getOp_drop (drop : DropOp) (rest : CScript) :
    ∃ opcode, getOp (drop.byte :: rest) = some ⟨opcode, [], rest⟩ ∧ isDrop opcode = true := by
  cases drop with
  | OP_DROP => exact ⟨OP_DROP, rfl, rfl⟩
  | OP_2DROP => exact ⟨OP_2DROP, rfl, rfl⟩

theorem not_isDrop_of_le (push : opcode ≤ OP_PUSHDATA4) : isDrop opcode = false := by
  simp only [isDrop, Bool.or_eq_false_iff, decide_eq_false_iff_not]
  unfold OP_PUSHDATA4 at push
  unfold OP_DROP OP_2DROP
  omega

theorem readArgs_pushed (short : ∀ arg ∈ args, arg.length < 2 ^ 32) {drop : DropOp}
    {fuel : Nat} (enough : args.length < fuel) {vvch : List Bytes} :
    readArgs fuel vvch (args.flatMap pushBytes ++ drop.byte :: rest) =
      some (vvch ++ args, rest) := by
  induction args generalizing fuel vvch with
  | nil =>
    obtain ⟨fuel, rfl⟩ := exists_eq_add_one_of_ne_zero (ne_of_gt enough)
    obtain ⟨opcode, read, isDrop⟩ := getOp_drop drop rest
    simp [readArgs, read, isDrop]
  | cons arg args ih =>
    obtain ⟨shortArg, shortArgs⟩ := forall_mem_cons.mp short
    obtain ⟨fuel, rfl⟩ := exists_eq_add_one_of_ne_zero
      (ne_of_gt (lt_of_le_of_lt (zero_le _) enough))
    obtain ⟨opcode, read, push⟩ :=
      getOp_pushBytes arg shortArg (args.flatMap pushBytes ++ drop.byte :: rest)
    rw [flatMap_cons, append_assoc, readArgs, read]
    dsimp only
    rw [not_isDrop_of_le push, if_neg Bool.false_ne_true, if_neg (by omega),
      ih shortArgs (by simpa using enough)]
    simp

variable (drops : List DropOp) (owner : CScript) (fuel : Nat)

theorem skipDrops_drops :
    skipDrops (drops.length + fuel) (drops.map DropOp.byte ++ owner) = skipDrops fuel owner := by
  induction drops with
  | nil => simp
  | cons drop drops ih =>
    obtain ⟨opcode, read, isDrop⟩ := getOp_drop drop (drops.map DropOp.byte ++ owner)
    rw [length_cons, succ_add, skipDrops, map_cons, cons_append, read]
    dsimp only
    rw [isDrop, if_pos rfl]
    exact ih

def afterDrops : CScript := skipDrops (owner.length + 1) owner

theorem decode_servicePrefix {op : Nat} (known : service.isOp op = true)
    (short : ∀ arg ∈ args, arg.length < 2 ^ 32) (drop : DropOp) (drops : List DropOp)
    (owner : CScript) :
    decodeServiceScript service (servicePrefix service op args (drop :: drops) ++ owner) =
      some ⟨op, args, (servicePrefix service op args (drop :: drops) ++ owner).drop
        ((servicePrefix service op args (drop :: drops) ++ owner).length -
          ((afterDrops owner).length + 1))⟩ := by
  have code : 1 ≤ service.code ∧ service.code ≤ 16 := by cases service <;> decide
  have range : 1 ≤ op ∧ op ≤ 16 := by
    simp only [Service.isOp, Bool.and_eq_true, decide_eq_true_eq] at known
    have last : service.lastOp ≤ 16 := by cases service <;> decide
    omega
  have script : servicePrefix service op args (drop :: drops) ++ owner =
      encodeOP_N service.code :: encodeOP_N op :: (args.flatMap pushBytes ++
        drop.byte :: (drops.map DropOp.byte ++ owner)) := by
    simp [servicePrefix]
  have fuel : args.length <
      (args.flatMap pushBytes ++ drop.byte :: (drops.map DropOp.byte ++ owner)).length + 1 := by
    have bound := length_flatMap_ge pushBytes 1 length_pushBytes_pos args
    simp only [length_append]
    omega
  have skipped : skipDrops ((drops.map DropOp.byte ++ owner).length + 1)
      (drops.map DropOp.byte ++ owner) = afterDrops owner := by
    rw [length_append, length_map, add_assoc]
    exact skipDrops_drops drops owner (owner.length + 1)
  unfold decodeServiceScript
  rw [script]
  simp only [getSmallOp_encodeOP_N code.1 code.2, getSmallOp_encodeOP_N range.1 range.2,
    bind_eq_bind, bind_some, ne_eq, not_true_eq_false, if_false, known,
    Bool.not_true, Bool.false_eq_true, readArgs_pushed short fuel, skipped,
    nil_append]
  rfl

/-- The first byte is a whole operation, or a push whose length cannot be read, or the script is a
single drop. -/
def ownerKept : CScript → Bool
  | [] => false
  | byte :: rest =>
    if isDrop byte.toNat then rest.isEmpty
    else if byte.toNat = 0 then true
    else if byte.toNat < OP_PUSHDATA1 then decide (rest.length < byte.toNat)
    else if byte.toNat = OP_PUSHDATA1 then decide (rest.length < 1)
    else if byte.toNat = OP_PUSHDATA2 then decide (rest.length < 2)
    else if byte.toNat = OP_PUSHDATA4 then decide (rest.length < 4)
    else true

theorem readPush_length (read : readPush opcode sizeBytes pc = some op) :
    op.opcode = opcode ∧ op.rest.length + sizeBytes ≤ pc.length := by
  unfold readPush readLe readBytes at read
  simp only [bind_eq_bind] at read
  split at read
  · rename_i long
    simp only [bind_some] at read
    split at read
    · cases read
      simp only [length_drop, true_and]
      omega
    · cases read
  · cases read

theorem readPush_short (short : pc.length < sizeBytes) : readPush opcode sizeBytes pc = none := by
  simp [readPush, readLe, not_le.mpr short]

theorem getOp_cons (read : getOp (byte :: rest) = some op) :
    op.opcode = byte.toNat ∧ op.rest.length ≤ rest.length := by
  unfold getOp at read
  dsimp only at read
  split at read
  · unfold readBytes at read
    split at read
    · cases read
      simp
    · cases read
  split at read
  · have bound := readPush_length read
    omega
  split at read
  · have bound := readPush_length read
    omega
  split at read
  · have bound := readPush_length read
    omega
  · cases read
    exact ⟨rfl, le_refl _⟩

theorem skipOp_of_some (read : getOp (byte :: rest) = some op) :
    skipOp (byte :: rest) = op.rest := by
  simp only [skipOp, read]

def lengthBytes (opcode : Nat) : Nat :=
  if opcode = OP_PUSHDATA1 then 1
  else if opcode = OP_PUSHDATA2 then 2
  else if opcode = OP_PUSHDATA4 then 4
  else 0

theorem skipOp_of_none (failed : getOp (byte :: rest) = none) :
    skipOp (byte :: rest) = if rest.length < lengthBytes byte.toNat then rest
      else rest.drop (lengthBytes byte.toNat) := by
  simp only [skipOp, failed]
  rfl

theorem length_skipOp_le : (skipOp pc).length ≤ pc.length - 1 := by
  cases pc with
  | nil => exact le_refl _
  | cons byte rest =>
    cases read : getOp (byte :: rest) with
    | some op =>
      rw [skipOp_of_some read]
      exact (getOp_cons read).2
    | none =>
      rw [skipOp_of_none read]
      split
      · exact le_refl _
      · simp

theorem length_skipDrops_le (pc : CScript) :
    (skipDrops (fuel + 1) pc).length ≤ pc.length - 1 := by
  induction fuel generalizing pc with
  | zero =>
    unfold skipDrops
    cases pc with
    | nil => exact le_refl _
    | cons byte rest =>
      split
      · rename_i op read
        have bound := (getOp_cons read).2
        split <;> exact bound
      · exact length_skipOp_le
  | succ fuel ih =>
    unfold skipDrops
    cases pc with
    | nil => exact le_refl _
    | cons byte rest =>
      split
      · rename_i op read
        have bound := (getOp_cons read).2
        split
        · exact (ih op.rest).trans ((sub_le _ _).trans bound)
        · exact bound
      · exact length_skipOp_le

theorem afterDrops_drop (isDrop : isDrop byte.toNat = true) :
    afterDrops (byte :: rest) = afterDrops rest := by
  have drop : ∃ drop : DropOp, drop.byte = byte := by
    simp only [Minerium.isDrop, Bool.or_eq_true, decide_eq_true_eq] at isDrop
    rcases isDrop with one | two
    · exact ⟨.OP_DROP, UInt8.toNat_inj.mp one.symm⟩
    · exact ⟨.OP_2DROP, UInt8.toNat_inj.mp two.symm⟩
  obtain ⟨drop, rfl⟩ := drop
  exact (congrArg (skipDrops · _) (add_comm _ 1)).trans
    (skipDrops_drops [drop] rest (rest.length + 1))

theorem afterDrops_other (other : isDrop byte.toNat = false) :
    afterDrops (byte :: rest) = skipOp (byte :: rest) := by
  unfold afterDrops skipDrops
  cases read : getOp (byte :: rest) with
  | none => rfl
  | some op =>
    dsimp only
    rw [(getOp_cons read).1, other, if_neg Bool.false_ne_true, skipOp_of_some read]

theorem length_skipOp_pushdata (size : lengthBytes byte.toNat = sizeBytes)
    (positive : 0 < sizeBytes) (reads : getOp (byte :: rest) = readPush byte.toNat sizeBytes rest) :
    (skipOp (byte :: rest)).length = rest.length ↔ rest.length < sizeBytes := by
  by_cases short : rest.length < sizeBytes
  · rw [skipOp_of_none (reads.trans (readPush_short short)), size, if_pos short]
    simp [short]
  · cases read : getOp (byte :: rest) with
    | none =>
      rw [skipOp_of_none read, size, if_neg short, length_drop]
      omega
    | some op =>
      have bound := (readPush_length (reads.symm.trans read)).2
      rw [skipOp_of_some read]
      omega

theorem length_skipOp_direct (direct : byte.toNat < OP_PUSHDATA1) :
    (skipOp (byte :: rest)).length = rest.length ↔
      byte.toNat = 0 ∨ rest.length < byte.toNat := by
  have reads : getOp (byte :: rest) = (readBytes byte.toNat rest).map
      fun read => ⟨byte.toNat, read.1, read.2⟩ := by
    unfold getOp
    dsimp only
    rw [if_pos direct]
  unfold readBytes at reads
  split at reads
  · rw [skipOp_of_some reads, length_drop]
    omega
  · have size : lengthBytes byte.toNat = 0 := by
      unfold lengthBytes OP_PUSHDATA1 OP_PUSHDATA2 OP_PUSHDATA4
      unfold OP_PUSHDATA1 at direct
      rw [if_neg (by omega), if_neg (by omega), if_neg (by omega)]
    rw [skipOp_of_none reads, size, if_neg (not_lt_zero _), drop_zero]
    omega

theorem length_skipOp_eq_iff {byte : UInt8} (other : isDrop byte.toNat = false) :
    (skipOp (byte :: rest)).length = rest.length ↔ ownerKept (byte :: rest) = true := by
  rw [ownerKept, other, if_neg Bool.false_ne_true]
  by_cases direct : byte.toNat < OP_PUSHDATA1
  · rw [length_skipOp_direct direct]
    by_cases zero : byte.toNat = 0
    · simp [zero]
    · simp [zero, direct]
  have nonzero : ¬ byte.toNat = 0 := by
    unfold OP_PUSHDATA1 at direct
    omega
  rw [if_neg nonzero, if_neg direct]
  by_cases one : byte.toNat = OP_PUSHDATA1
  · rw [if_pos one, decide_eq_true_eq]
    refine length_skipOp_pushdata (by rw [one]; rfl) one_pos ?_
    simp only [getOp, if_neg direct, if_pos one]
  by_cases two : byte.toNat = OP_PUSHDATA2
  · rw [if_neg one, if_pos two, decide_eq_true_eq]
    refine length_skipOp_pushdata (by rw [two]; rfl) two_pos ?_
    simp only [getOp, if_neg direct, if_neg one, if_pos two]
  by_cases four : byte.toNat = OP_PUSHDATA4
  · rw [if_neg one, if_neg two, if_pos four, decide_eq_true_eq]
    refine length_skipOp_pushdata (by rw [four]; rfl) (by decide) ?_
    simp only [getOp, if_neg direct, if_neg one, if_neg two, if_pos four]
  · have reads : getOp (byte :: rest) = some ⟨byte.toNat, [], rest⟩ := by
      simp only [getOp, if_neg direct, if_neg one, if_neg two, if_neg four]
    rw [skipOp_of_some reads, if_neg one, if_neg two, if_neg four]
    simp

theorem ownerKept_iff {owner : CScript} :
    (afterDrops owner).length + 1 = owner.length ↔ ownerKept owner = true := by
  cases owner with
  | nil => simp [ownerKept]
  | cons byte rest =>
    cases drops : isDrop byte.toNat with
    | false =>
      rw [afterDrops_other drops, length_cons, add_right_cancel_iff]
      exact length_skipOp_eq_iff drops
    | true =>
      rw [afterDrops_drop drops, ownerKept, drops, if_pos rfl]
      have bound := length_skipDrops_le rest.length rest
      change (afterDrops rest).length ≤ rest.length - 1 at bound
      rw [length_cons, isEmpty_iff_length_eq_zero]
      constructor
      · intro same
        omega
      · intro empty
        omega

theorem decode_other {other : Service} (different : other ≠ service) {op : Nat}
    {vvchArgs : List Bytes} {drops : List DropOp} {owner : CScript} :
    decodeServiceScript other (servicePrefix service op vvchArgs drops ++ owner) = none := by
  have code : 1 ≤ service.code ∧ service.code ≤ 16 := by cases service <;> decide
  have codes : service.code ≠ other.code := by
    revert different
    cases service <;> cases other <;> decide
  unfold decodeServiceScript servicePrefix
  rw [cons_append, getSmallOp_encodeOP_N code.1 code.2]
  simp only [bind_eq_bind, bind_some]
  rw [if_pos codes]

theorem removeMineriumScript_servicePrefix (service : Service) (op : Nat) (vvchArgs : List Bytes)
    (drops : List DropOp) (owner : CScript) :
    removeMineriumScript (servicePrefix service op vvchArgs drops ++ owner) =
      (decodeServiceScript service (servicePrefix service op vvchArgs drops ++ owner)).map
        (·.scriptOut) := by
  have others : ∀ other : Service, other ≠ service →
      decodeServiceScript other (servicePrefix service op vvchArgs drops ++ owner) = none :=
    fun other different => decode_other different
  unfold removeMineriumScript
  generalize servicePrefix service op vvchArgs drops ++ owner = script at others ⊢
  congr 1
  cases own : decodeServiceScript service script with
  | none =>
    rw [List.findSome?_eq_none_iff]
    intro other _
    by_cases same : other = service
    · rw [same, own]
    · exact others other same
  | some decoded => cases service <;> simp [others, own]

theorem servicePrefix_roundTrip_iff (service : Service) (op : Nat) (known : service.isOp op = true)
    (vvchArgs : List Bytes) (short : ∀ arg ∈ vvchArgs, arg.length < 2 ^ 32)
    (drops : List DropOp) (dropped : drops ≠ []) (owner : CScript) :
    (decodeServiceScript service (servicePrefix service op vvchArgs drops ++ owner) =
        some ⟨op, vvchArgs, owner⟩ ∧
      removeMineriumScript (servicePrefix service op vvchArgs drops ++ owner) = some owner ∧
      ∀ evalScript flags scriptSig,
        verifyScript evalScript flags scriptSig (servicePrefix service op vvchArgs drops ++ owner) =
          verifyStripped evalScript flags scriptSig owner) ↔
      ownerKept owner = true := by
  obtain ⟨drop, rest, rfl⟩ := exists_cons_of_ne_nil dropped
  have decoded := decode_servicePrefix known short drop rest owner
  have stripped := removeMineriumScript_servicePrefix service op vvchArgs (drop :: rest) owner
  rw [← ownerKept_iff]
  constructor
  · rintro ⟨recovered, _⟩
    rw [decoded] at recovered
    have same := congrArg List.length (congrArg ServiceScript.scriptOut (Option.some.inj recovered))
    have bound : (afterDrops owner).length ≤ owner.length - 1 :=
      length_skipDrops_le owner.length owner
    have nonempty : 2 ≤ (servicePrefix service op vvchArgs (drop :: rest)).length := by
      simp [servicePrefix]
    simp only [length_drop, length_append] at same
    omega
  · intro kept
    have position : (servicePrefix service op vvchArgs (drop :: rest) ++ owner).length -
        ((afterDrops owner).length + 1) = (servicePrefix service op vvchArgs (drop :: rest)).length
        := by
      rw [length_append]
      omega
    rw [position, drop_left] at decoded
    rw [decoded] at stripped
    refine ⟨decoded, stripped, fun evalScript flags scriptSig => ?_⟩
    rw [verifyScript, stripped]
    rfl

theorem servicePrefix_roundTrip_sample :
    decodeServiceScript .alias (servicePrefix .alias 2 [[1, 2], [], [3]] [.OP_2DROP, .OP_DROP] ++
          [0x76, 0xa9, 0x88, 0xac]) = some ⟨2, [[1, 2], [], [3]], [0x76, 0xa9, 0x88, 0xac]⟩ ∧
      removeMineriumScript (servicePrefix .alias 2 [[1, 2], [], [3]] [.OP_2DROP, .OP_DROP] ++
          [0x76, 0xa9, 0x88, 0xac]) = some [0x76, 0xa9, 0x88, 0xac] ∧
      ∀ evalScript flags scriptSig, verifyScript evalScript flags scriptSig
          (servicePrefix .alias 2 [[1, 2], [], [3]] [.OP_2DROP, .OP_DROP] ++
            [0x76, 0xa9, 0x88, 0xac]) =
        verifyStripped evalScript flags scriptSig [0x76, 0xa9, 0x88, 0xac] :=
  (servicePrefix_roundTrip_iff .alias 2 rfl [[1, 2], [], [3]] (by decide) [.OP_2DROP, .OP_DROP]
    (by decide) [0x76, 0xa9, 0x88, 0xac]).mpr (by decide)

theorem payToKey_notStripped :
    removeMineriumScript (servicePrefix .cert 1 [[7]] [.OP_2DROP, .OP_DROP] ++
      [3, 0x21, 0x22, 0x23, 0xac]) = some [0x23, 0xac] := by
  decide

end Minerium
