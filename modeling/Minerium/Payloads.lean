import Minerium.PayloadCore

/-! When a payload is the only one for its object: the readers take several encodings of some
fields, and ignore the bytes behind the object. -/

namespace Minerium

open StreamFormat

variable {env : PayloadEnv} {service : Service} {vchData : Bytes}

def canonicalPayload (env : PayloadEnv) (service : Service) (vchData : Bytes) : Bool :=
  (payloadFormat env service).canonical vchData &&
    ((payloadFormat env service).read vchData).all fun (_, rest) => rest.isEmpty

theorem unserializeFromData_read {vchHash : Bytes} {object : service.Object}
    (accepted : unserializeFromData env service vchData vchHash = some object) :
    ∃ rest, (payloadFormat env service).read vchData = some (object, rest) := by
  unfold unserializeFromData at accepted
  split at accepted
  · cases accepted
  · rename_i found rest read
    split at accepted
    · cases accepted
      exact ⟨rest, read⟩
    · cases accepted

theorem serializePayload_eq_iff {rest : Bytes} {object : service.Object}
    (read : (payloadFormat env service).read vchData = some (object, rest)) :
    serializePayload env service object = vchData ↔ canonicalPayload env service vchData =
      true := by
  rw [canonicalPayload, Bool.and_eq_true, read, Option.all_some, List.isEmpty_iff]
  constructor
  · intro same
    have whole : vchData = (payloadFormat env service).write object ++ [] := by
      rw [List.append_nil]
      exact same.symm
    have nothing := (payloadFormat env service).aligned read whole
    rw [nothing] at whole
    exact ⟨((payloadFormat env service).faithful read).mp whole, nothing.symm⟩
  · rintro ⟨canonical, rfl⟩
    have whole := ((payloadFormat env service).faithful read).mpr canonical
    rw [List.append_nil] at whole
    exact whole.symm

theorem payload_canonical_iff (env : PayloadEnv) (service : Service) (vchData vchHash : Bytes)
    (object : service.Object)
    (accepted : unserializeFromData env service vchData vchHash = some object) :
    (serializePayload env service object = vchData ↔ canonicalPayload env service vchData = true) ∧
      ∀ other otherHash, unserializeFromData env service other otherHash = some object →
        canonicalPayload env service vchData = true →
        canonicalPayload env service other = true → other = vchData := by
  obtain ⟨rest, read⟩ := unserializeFromData_read accepted
  refine ⟨serializePayload_eq_iff read, ?_⟩
  intro other otherHash acceptedOther canonical canonicalOther
  obtain ⟨restOther, readOther⟩ := unserializeFromData_read acceptedOther
  have first := (serializePayload_eq_iff read).mpr canonical
  have second := (serializePayload_eq_iff readOther).mpr canonicalOther
  exact second.symm.trans first

def samplePayload : Bytes := [0, 0] ++ List.replicate 32 0 ++ [0x81, 0x2c, 2, 1, 0x63, 0, 0]

def samplePayloadObject : CCert := { CCert.null with nHeight := 300, vchCert := [0x63] }

theorem samplePayload_accepted (env : PayloadEnv) {vchData rest : Bytes}
    (read : certFormat.read vchData = some (samplePayloadObject, rest)) :
    unserializeFromData env .cert vchData (hexBytes (env.hash samplePayload)) =
      some samplePayloadObject := by
  have written : serializePayload env .cert samplePayloadObject = samplePayload := by
    change certFormat.write samplePayloadObject = samplePayload
    decide
  have same : (payloadFormat env .cert).read vchData = some (samplePayloadObject, rest) := read
  rw [unserializeFromData, same]
  dsimp only
  rw [written, if_pos rfl]
  rfl

def samplePayloadEnv : PayloadEnv where
  hash bytes := bytes.foldl (fun acc byte => acc * 257 + BitVec.ofNat 256 byte.toNat) 1
  nShareFeeBlock := 0
  doubleOfUint64 n := n
  uint64OfDouble x := x

theorem payload_canonical_sample : unserializeFromData samplePayloadEnv .cert samplePayload
        (hexBytes (samplePayloadEnv.hash samplePayload)) = some samplePayloadObject ∧
      serializePayload samplePayloadEnv .cert samplePayloadObject = samplePayload := by
  have accepted := samplePayload_accepted samplePayloadEnv
    (by decide : certFormat.read samplePayload = some (samplePayloadObject, []))
  refine ⟨accepted, ?_⟩
  refine (payload_canonical_iff samplePayloadEnv .cert samplePayload _ samplePayloadObject
    accepted).1.mpr ?_
  change (certFormat.canonical samplePayload &&
    (certFormat.read samplePayload).all fun (_, rest) => rest.isEmpty) = true
  decide

theorem trailingByte_accepted : unserializeFromData samplePayloadEnv .cert samplePayload
        (hexBytes (samplePayloadEnv.hash samplePayload)) = some samplePayloadObject ∧
      unserializeFromData samplePayloadEnv .cert (samplePayload ++ [7])
        (hexBytes (samplePayloadEnv.hash samplePayload)) = some samplePayloadObject :=
  ⟨samplePayload_accepted samplePayloadEnv
      (by decide : certFormat.read samplePayload = some (samplePayloadObject, [])),
    samplePayload_accepted samplePayloadEnv
      (by decide : certFormat.read (samplePayload ++ [7]) = some (samplePayloadObject, [7]))⟩

end Minerium
