import ZkTls.JsonTree
import Mathlib.Data.Finmap
import Mathlib.Data.Vector.Basic

/-!
# Core types and the platform

Session proofs, attestations and disclosure masks, with the third-party
functions the crates call collected in one platform record. Hashing and
signing return vectors of the documented lengths; nothing else about them
is built in.
-/

set_option autoImplicit false

namespace ZkTls.CoreTypes
open ZkTls.JsonTree

abbrev Bytes := List UInt8

/-- The UTF-8 bytes of a string. -/
def asBytes (s : String) : Bytes := s.toList.flatMap String.utf8EncodeChar

/-- A UTC instant in nanoseconds since the Unix epoch. -/
abbrev DateTime := ℤ

def tryInto (n : ℕ) (b : Bytes) : Option (List.Vector UInt8 n) :=
  if h : b.length = n then some ⟨b, h⟩ else none

structure Ed25519 where
  SigningKey : Type
  VerifyingKey : Type
  verifyingKey : SigningKey → List.Vector UInt8 32
  sign : SigningKey → Bytes → List.Vector UInt8 64
  fromBytes : List.Vector UInt8 32 → Except String VerifyingKey
  verify : VerifyingKey → Bytes → List.Vector UInt8 64 → Bool

structure Platform extends Ed25519 where
  sha512 : Bytes → List.Vector UInt8 64
  toRfc3339 : DateTime → String
  fromStr : String → Except String Json

abbrev FieldMap := Finmap fun _ : String => Json

structure SessionProof where
  serverHostname : String
  certificateHash : Bytes
  transcriptCommitment : Bytes
  notarySignature : Bytes
  notaryPublicKey : Bytes
  sessionTimestamp : DateTime
  proofTimestamp : DateTime

structure Attestation where
  id : String
  claimType : String
  sessionProofId : String
  disclosedFields : FieldMap
  redactedFieldHashes : List Bytes
  templateId : String
  createdAt : DateTime
  expiresAt : Option DateTime

structure DisclosureMask where
  disclosedPaths : List String
  redactedPaths : List String

def sha512Hash (P : Platform) (data : Bytes) : Bytes := (P.sha512 data).toList

theorem tryInto_toList {n : ℕ} (v : List.Vector UInt8 n) : tryInto n v.toList = some v := by
  obtain ⟨l, rfl⟩ := v
  exact dif_pos rfl

theorem tryInto_eq_some {n : ℕ} {b : Bytes} {v : List.Vector UInt8 n} :
    tryInto n b = some v ↔ b = v.toList := by
  constructor
  · intro h
    by_cases hb : b.length = n
    · rw [tryInto, dif_pos hb] at h
      exact congrArg Subtype.val (Option.some.inj h)
    · simp [tryInto, hb] at h
  · rintro rfl
    exact tryInto_toList v

theorem asBytes_injective : Function.Injective asBytes := by
  intro s t h
  have hb : s.toList.utf8Encode = t.toList.utf8Encode :=
    congrArg List.toByteArray h
  rw [String.utf8Encode_toList, String.utf8Encode_toList] at hb
  exact String.toByteArray_inj.mp hb

theorem utf8EncodeChar_ascii (c : Char) (hc : c.toNat < 0x80) :
    String.utf8EncodeChar c = [UInt8.ofNat c.toNat] := by
  have hle : c.val.toNat ≤ 0x7f := by
    have hv : c.toNat = c.val.toNat := rfl
    omega
  rw [String.utf8EncodeChar, if_pos hle]
  rfl

/-- An ASCII byte stands for its own character wherever it occurs. -/
theorem ascii_mem_utf8EncodeChar (a : Char) (ha : a.toNat < 0x80) (c : Char) :
    UInt8.ofNat a.toNat ∈ String.utf8EncodeChar c ↔ c = a := by
  constructor
  · intro h
    have hv : c.toNat = c.val.toNat := rfl
    have hc : c.val.toNat = a.val.toNat := by
      have hw : a.toNat = a.val.toNat := rfl
      simp only [String.utf8EncodeChar] at h
      split_ifs at h <;>
        simp [← UInt8.toNat_inj, UInt8.toNat_ofNat'] at h <;> omega
    exact Char.ext (UInt32.toNat_inj.mp hc)
  · rintro rfl
    rw [utf8EncodeChar_ascii c ha]
    exact List.mem_singleton_self _

theorem ascii_mem_asBytes (a : Char) (ha : a.toNat < 0x80) (s : String) :
    UInt8.ofNat a.toNat ∈ asBytes s ↔ a ∈ s.toList := by
  simp [asBytes, List.mem_flatMap, ascii_mem_utf8EncodeChar a ha]

theorem zero_mem_asBytes (s : String) : 0 ∈ asBytes s ↔ '\x00' ∈ s.toList :=
  ascii_mem_asBytes '\x00' (by decide) s

end ZkTls.CoreTypes
