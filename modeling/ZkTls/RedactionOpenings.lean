import ZkTls.ExtractionLaws
import ZkTls.JsonReading

/-!
# Opening a redaction hash

A hash input determines its path and its value, so two openings of one hash
are equal or exhibit a collision. An opening of an issued hash is therefore
what the response held.
-/

set_option autoImplicit false

namespace ZkTls.RedactionOpenings
open ZkTls.JsonTree ZkTls.JsonText ZkTls.CoreTypes ZkTls.VerificationTemplates
open ZkTls.FieldExtraction ZkTls.RecordedPlatform ZkTls.Redaction ZkTls.ExtractionLaws

variable (P : Platform)

/-- A hash input determines its path and its value. -/
theorem hashInput_inj (p q : String) (v w : Json) :
    hashInput p v = hashInput q w ↔ p = q ∧ v = w := by
  constructor
  · intro h
    obtain rfl := hashInput_path p q v w h
    have hl := congrArg String.toList h
    simp only [hashInput, String.toList_append, List.append_cancel_left_eq] at hl
    exact ⟨rfl, display_injective (String.toList_injective hl)⟩
  · rintro ⟨rfl, rfl⟩
    rfl

/-- Two inputs that break collision resistance. -/
def Collision (a b : Bytes) : Prop := a ≠ b ∧ sha512Hash P a = sha512Hash P b

/-- A path and a value whose commitment is the given hash. -/
def Opens (hash : Bytes) (path : String) (v : Json) : Prop := commitment P path v = hash

/-- Equal hash inputs have equal paths and values, so two openings of one
hash are equal unless they collide. -/
theorem commitments_unambiguous (hash : Bytes) (p q : String) (v w : Json) :
    (hashInput p v = hashInput q w → p = q ∧ v = w) ∧
    (Opens P hash p v → Opens P hash q w →
      ¬ Collision P (asBytes (hashInput p v)) (asBytes (hashInput q w)) → p = q ∧ v = w) := by
  refine ⟨(hashInput_inj p q v w).mp, fun hp hq hcollision => ?_⟩
  by_contra hne
  refine hcollision ⟨fun heq => hne ?_, hp.trans hq.symm⟩
  exact (hashInput_inj p q v w).mp (asBytes_injective heq)

/-- SHA-512 of `voter.first:"Ada:"Bea"`. -/
def quotedPathDigest : List.Vector UInt8 64 :=
  ⟨[0xbd, 0xb3, 0x10, 0x23, 0xfb, 0x2a, 0x11, 0x83, 0xff, 0x35, 0x8a, 0xd8,
    0x6e, 0xac, 0x03, 0xe9, 0x26, 0x7a, 0x0b, 0x96, 0x6a, 0x3f, 0xb5, 0xa0,
    0x10, 0x7f, 0x07, 0xf5, 0x13, 0x49, 0xa4, 0xa1, 0xbb, 0xff, 0x39, 0x62,
    0x66, 0xef, 0x4f, 0xd9, 0xce, 0x6e, 0x6f, 0x95, 0xb2, 0x8e, 0xca, 0x15,
    0xa8, 0xc9, 0xe2, 0x7d, 0xf5, 0x35, 0x36, 0x3e, 0xf8, 0xfc, 0x17, 0x75,
    0xc2, 0xb3, 0x95, 0xf8], by decide⟩

/-- SHA-512 of `voter.first:"Ada:\"Bea"`. -/
def quotedNameDigest : List.Vector UInt8 64 :=
  ⟨[0x8c, 0x7e, 0x67, 0x5f, 0x46, 0xc0, 0x38, 0xf3, 0x11, 0xca, 0xb7, 0xf7,
    0x94, 0x35, 0x5e, 0xf6, 0x49, 0x10, 0xd1, 0x6a, 0x86, 0x4f, 0x58, 0xc4,
    0x0d, 0x3c, 0x16, 0x6e, 0x04, 0xad, 0x97, 0x75, 0xe7, 0xf5, 0x5d, 0x46,
    0x2a, 0x98, 0x96, 0x25, 0xbf, 0x8f, 0x42, 0x9a, 0xa5, 0x8b, 0xb8, 0x4d,
    0x0c, 0x78, 0x1f, 0x3c, 0xae, 0x61, 0xaa, 0x8d, 0x67, 0xa0, 0xe4, 0x0f,
    0xdb, 0x91, 0x11, 0x34], by decide⟩

def quotedRecording : Recording :=
  { activeRecording with
    digests :=
      [(asBytes "voter.first:\"Ada:\"Bea\"", quotedPathDigest),
       (asBytes "voter.first:\"Ada:\\\"Bea\"", quotedNameDigest)] }

theorem quoted_digests :
    (replay quotedRecording).sha512
        (asBytes (hashInput "voter.first:\"Ada" (.string "Bea"))) = quotedPathDigest ∧
    (replay quotedRecording).sha512
        (asBytes (hashInput "voter.first" (.string "Ada:\"Bea"))) = quotedNameDigest := by
  constructor <;> decide +kernel

/-- A path with a colon and a quote in it, and a name with both in it. The
hash inputs differ in one backslash, and the name does not open the hash of
the path. -/
theorem colon_path_told_apart :
    hashInput "voter.first:\"Ada" (.string "Bea") ≠
      hashInput "voter.first" (.string "Ada:\"Bea") ∧
    ¬ Opens (replay quotedRecording)
      (commitment (replay quotedRecording) "voter.first:\"Ada" (.string "Bea"))
      "voter.first" (.string "Ada:\"Bea") := by
  have hpath : "voter.first:\"Ada" ≠ "voter.first" := by decide
  have hne : quotedPathDigest ≠ quotedNameDigest := by decide
  obtain ⟨hinput, hopen⟩ := commitments_unambiguous (replay quotedRecording)
    (commitment (replay quotedRecording) "voter.first:\"Ada" (.string "Bea"))
    "voter.first:\"Ada" "voter.first" (.string "Bea") (.string "Ada:\"Bea")
  refine ⟨fun h => hpath (hinput h).1, fun h => hpath (hopen rfl h fun hc => hne ?_).1⟩
  rw [← quoted_digests.1, ← quoted_digests.2]
  exact List.Vector.toList_injective hc.2

/-- What opens an issued hash is a redacted field of the response. -/
theorem opening_issued (fields : List FieldDefinition) (mask : DisclosureMask) (json : Json)
    (out : ExtractedFields) (hok : extractFrom P json fields mask = .ok out) (hash : Bytes)
    (hmem : hash ∈ out.2) (p : String) (v : Json) (hopen : Opens P hash p v) :
    (Redacts mask p ∧ navigateJsonPath json p = some v) ∨
      ∃ r w, Redacts mask r ∧ navigateJsonPath json r = some w ∧
        Collision P (asBytes (hashInput p v)) (asBytes (hashInput r w)) := by
  obtain ⟨f, -, hred, w, hw, hcommit⟩ := (mem_hashes P fields mask json out hok hash).mp hmem
  by_cases hsame : p = f.jsonPath ∧ v = w
  · obtain ⟨rfl, rfl⟩ := hsame
    exact Or.inl ⟨hred, hw⟩
  · refine Or.inr ⟨f.jsonPath, w, hred, hw, fun heq => hsame ?_, hopen.trans hcommit⟩
    exact (hashInput_inj p f.jsonPath v w).mp (asBytes_injective heq)

end ZkTls.RedactionOpenings
