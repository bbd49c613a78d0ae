import ZkTls.JsonReading
import ZkTls.NotarizeResponse

/-!
# Platforms replayed from a recording

A recording holds finitely many digests, response texts and signatures, and
the text of one instant. The platform replayed from it answers from the
recording, refuses every signature it does not contain, and formats other
instants injectively. The recorded Utah exchange carries the values the real
hash and signature functions give for the shipped template.
-/

set_option autoImplicit false

namespace ZkTls.RecordedPlatform
open ZkTls.JsonTree ZkTls.JsonText ZkTls.CoreTypes ZkTls.SessionProofs ZkTls.FieldExtraction
open ZkTls.NotarizeResponse

structure Recording where
  digests : List (Bytes × List.Vector UInt8 64)
  responses : List Json
  instant : DateTime
  instantText : String
  publicKey : List.Vector UInt8 32
  signatures : List (Bytes × List.Vector UInt8 64)
  instantPlain : '\x00' ∉ instantText.toList ∧
    ∀ c ∈ instantText.toList.head?, c ≠ '+' ∧ c ≠ '-'

/-- A sign followed by tally marks: distinct integers, distinct texts. -/
def tally : DateTime → List Char
  | .ofNat n => '+' :: List.replicate n '1'
  | .negSucc n => '-' :: List.replicate n '1'

/-- The platform that answers from a recording. -/
def replay (R : Recording) : Platform where
  SigningKey := Unit
  VerifyingKey := Unit
  verifyingKey _ := R.publicKey
  sign _ m := (R.signatures.lookup m).getD (List.Vector.replicate 64 0)
  fromBytes b := if b = R.publicKey then .ok () else .error "signature error"
  verify _ m s := R.signatures.lookup m == some s
  sha512 m := (R.digests.lookup m).getD (List.Vector.replicate 64 0)
  toRfc3339 t := if t = R.instant then R.instantText else String.ofList (tally t)
  fromStr body :=
    match R.responses.find? fun v => display v = body with
    | some v => .ok v
    | none => .error "expected value at line 1 column 1"

/-- A recorded response is read back from its text. -/
theorem replay_reads (R : Recording) (v : Json) (hv : v ∈ R.responses) :
    (replay R).fromStr (display v) = .ok v := by
  have hfind : (R.responses.find? fun w => display w = display v) = some v := by
    cases hw : R.responses.find? fun w => display w = display v with
    | none => simpa using List.find?_eq_none.mp hw v hv
    | some w =>
      have heq : display w = display v := by simpa using List.find?_some hw
      rw [display_injective heq]
  simp only [replay, hfind]

def recordedKey (R : Recording) : NotaryKeyPair (replay R) := ⟨()⟩

theorem tally_injective : Function.Injective tally := by
  intro s t h
  cases s <;> cases t <;> simp [tally] at h <;> simp_all

theorem tally_plain (t : DateTime) : '\x00' ∉ tally t := by
  cases t <;> simp [tally]

theorem tally_sign (t : DateTime) : ∃ c ∈ (tally t).head?, c = '+' ∨ c = '-' := by
  cases t <;> simp [tally]

theorem replay_clock (R : Recording) : ClockText (replay R) where
  injective := by
    have hne : ∀ t, R.instantText ≠ String.ofList (tally t) := by
      intro t h
      obtain ⟨c, hc, hs⟩ := tally_sign t
      have hp := R.instantPlain.2 c (by rw [h, String.toList_ofList]; exact hc)
      rcases hs with rfl | rfl
      · exact hp.1 rfl
      · exact hp.2 rfl
    intro s t h
    simp only [replay] at h
    split_ifs at h with hs ht ht
    · rw [hs, ht]
    · exact absurd h (hne t)
    · exact absurd h.symm (hne s)
    · exact tally_injective (String.ofList_injective h)
  noNul := by
    intro t
    simp only [replay]
    split
    · exact R.instantPlain.1
    · rw [String.toList_ofList]
      exact tally_plain t

theorem mem_signed (R : Recording) (m : Bytes) :
    m ∈ R.signatures.map Prod.fst ↔ ∃ s, R.signatures.lookup m = some s := by
  rw [← Option.isSome_iff_exists, List.lookup_isSome_iff]
  simp

/-- Recorded signatures verify. -/
theorem replay_signs (R : Recording) :
    SignsCorrectly (recordedKey R) (R.signatures.map Prod.fst) := by
  refine ⟨(), by simp [replay], ?_⟩
  intro m hm
  obtain ⟨s, hs⟩ := (mem_signed R m).mp hm
  simp [replay, hs]

/-- No other signature does. -/
theorem replay_unforgeable (R : Recording) :
    Unforgeable (recordedKey R) (R.signatures.map Prod.fst) := by
  intro vk _ m s h
  exact (mem_signed R m).mpr ⟨s, by simpa [replay] using h⟩

/-- The portal's answer for a voter with the given status. -/
def utahResponse (status : String) : Json :=
  .object
    [("errorMessage", .null),
     ("residence", .object [("physicalState", .string "UT")]),
     ("voter", .object [("status", .string status)])]

def utahHost : String := "votesearch.utah.gov"

def utahCertHash : List.Vector UInt8 64 :=
  ⟨[0xcb, 0xdc, 0xd7, 0x1b, 0x33, 0xa7, 0xe4, 0x89, 0x0d, 0x93, 0x75, 0xc6,
    0xcd, 0xbe, 0x04, 0x0f, 0xe2, 0x7c, 0x61, 0xf7, 0x56, 0x8e, 0x88, 0xa1,
    0xd8, 0x09, 0x5b, 0x63, 0x72, 0x9b, 0x9a, 0x44, 0x97, 0xab, 0x9c, 0x68,
    0x86, 0xd8, 0x62, 0xbc, 0x37, 0x54, 0x66, 0x4e, 0x02, 0x46, 0x44, 0x81,
    0xf3, 0xd3, 0x1a, 0x77, 0x16, 0x7f, 0x4d, 0xc1, 0x8e, 0xcd, 0x41, 0x65,
    0x9f, 0x4e, 0x71, 0xdf], by decide⟩

def activeDigest : List.Vector UInt8 64 :=
  ⟨[0x5c, 0x02, 0xf7, 0xd3, 0xce, 0xb6, 0x81, 0xac, 0xf1, 0xd4, 0x82, 0x04,
    0x08, 0xbb, 0xe7, 0x09, 0x25, 0xad, 0x00, 0x99, 0xbb, 0x97, 0xa6, 0x1b,
    0x6d, 0x67, 0xf4, 0xb0, 0xc1, 0xe1, 0x36, 0x0f, 0x0f, 0x4c, 0xdb, 0xdb,
    0x5f, 0xc1, 0x75, 0xdf, 0x73, 0x17, 0x25, 0x07, 0x64, 0x03, 0xf4, 0xb9,
    0x9a, 0xbc, 0x51, 0xdb, 0xe9, 0xd7, 0xd7, 0x12, 0x01, 0xf0, 0xd6, 0xdf,
    0x6f, 0xc3, 0x67, 0xa4], by decide⟩

def activeSignature : List.Vector UInt8 64 :=
  ⟨[0xee, 0xb4, 0x2d, 0xe5, 0x7c, 0xdc, 0xc6, 0x82, 0x97, 0x41, 0x17, 0x8c,
    0xd3, 0x1d, 0x79, 0xd6, 0x8a, 0x64, 0xab, 0x4d, 0x7f, 0x21, 0x4d, 0xe7,
    0xfe, 0x40, 0x91, 0x1b, 0x5b, 0x84, 0xed, 0x0c, 0xb1, 0xbe, 0x5f, 0x87,
    0x08, 0x35, 0x1f, 0xfe, 0x3b, 0x7e, 0x17, 0x4c, 0xb0, 0xb8, 0x11, 0xd8,
    0xb6, 0x54, 0x33, 0x5b, 0x93, 0x9a, 0x31, 0xf0, 0x10, 0x90, 0xc0, 0x73,
    0xc2, 0x45, 0x1b, 0x0c], by decide⟩

def inactiveDigest : List.Vector UInt8 64 :=
  ⟨[0xd1, 0x46, 0x8c, 0xdb, 0x93, 0xa5, 0xf3, 0xdc, 0xce, 0x8a, 0x6b, 0xb6,
    0xe9, 0x60, 0x6b, 0xed, 0x0c, 0x3f, 0xea, 0x53, 0x92, 0x74, 0x7b, 0xc0,
    0xfd, 0x1d, 0x92, 0xd9, 0x83, 0x25, 0xe5, 0x21, 0xdd, 0x2d, 0x47, 0xb7,
    0xf7, 0xeb, 0xb1, 0xc9, 0xa2, 0x63, 0x05, 0x78, 0x83, 0xa4, 0xe0, 0x02,
    0x91, 0x15, 0xd4, 0x3c, 0x7e, 0xf9, 0x1b, 0x0d, 0xbe, 0x93, 0x04, 0xf8,
    0x8b, 0x46, 0x4f, 0x97], by decide⟩

def inactiveSignature : List.Vector UInt8 64 :=
  ⟨[0xd9, 0xff, 0xfe, 0xe5, 0x82, 0x58, 0x73, 0xfa, 0x79, 0xa7, 0x14, 0x64,
    0x4c, 0x3c, 0x89, 0xfa, 0x0b, 0xb5, 0x21, 0x76, 0x86, 0xff, 0x56, 0xf0,
    0xc3, 0xe5, 0x9f, 0xcf, 0x79, 0xf4, 0x15, 0xf0, 0xc1, 0x7a, 0x4d, 0xe4,
    0xaf, 0x2c, 0x20, 0xe3, 0x7d, 0x88, 0x0f, 0x3e, 0x60, 0x5c, 0xac, 0x90,
    0x10, 0x17, 0xeb, 0xb0, 0x5e, 0xae, 0x74, 0xe5, 0x92, 0xf4, 0xc8, 0x25,
    0xea, 0x26, 0x09, 0x07], by decide⟩

/-- One notarization of the shipped template, signed at noon UTC on
26 May 2026 with a published test key. -/
def utahRecording (status : String) (digest signature : List.Vector UInt8 64) :
    Recording where
  digests :=
    [(asBytes ("tls-cert:" ++ utahHost), utahCertHash),
     (asBytes (display (utahResponse status)), digest)]
  responses := [utahResponse status]
  instant := 1779796800000000000
  instantText := "2026-05-26T12:00:00+00:00"
  publicKey :=
    ⟨[0xd7, 0x5a, 0x98, 0x01, 0x82, 0xb1, 0x0a, 0xb7, 0xd5, 0x4b, 0xfe, 0xd3,
      0xc9, 0x64, 0x07, 0x3a, 0x0e, 0xe1, 0x72, 0xf3, 0xda, 0xa6, 0x23, 0x25,
      0xaf, 0x02, 0x1a, 0x68, 0xf7, 0x07, 0x51, 0x1a], by decide⟩
  signatures :=
    [(asBytes utahHost ++ [0x00] ++ utahCertHash.toList ++ [0x00] ++ digest.toList ++
        [0x00] ++ asBytes "2026-05-26T12:00:00+00:00", signature)]
  instantPlain := by simp

/-- The clock readings and the identifier of that notarization. -/
def noon : IssueClock :=
  ⟨1779796800000000000, "6f1d2c1e-3b5a-4c57-9a0e-2d6b8f0c4e11", 1779796800000000000,
    1779796800000000000⟩

/-- The session of that notarization. -/
def firstId : String := "0b9c6b1e-7f0e-4a86-8d3c-5b1f9e2a7c44"

/-- And of a second one. -/
def secondId : String := "5a0c1d9e-2b7f-4c3a-9e61-70b8d4f2c635"

def activeRecording : Recording := utahRecording "Active" activeDigest activeSignature

def activeText : String := display (utahResponse "Active")

def inactiveRecording : Recording :=
  utahRecording "Inactive" inactiveDigest inactiveSignature

section utah
variable (status : String) (digest signature : List.Vector UInt8 64)

theorem recorded_parse :
    (replay (utahRecording status digest signature)).fromStr (display (utahResponse status)) =
      .ok (utahResponse status) :=
  replay_reads _ _ (List.mem_singleton_self _)

/-- A response text opens with a brace, so its digest is not looked up under
the certificate's entry. -/
theorem recorded_digest :
    (replay (utahRecording status digest signature)).sha512
      (asBytes (display (utahResponse status))) = digest := by
  have hne : asBytes (display (utahResponse status)) ≠ asBytes ("tls-cert:" ++ utahHost) := by
    intro h
    have hfirst := congrArg (fun s : String => s.toList.head?) (asBytes_injective h)
    simp [display, utahResponse, text] at hfirst
  simp [replay, utahRecording, List.lookup_cons, beq_false_of_ne hne]

/-- The one recorded signature is over the message of the exchange. -/
theorem recorded_message :
    [buildSigningMessage (replay (utahRecording status digest signature)) utahHost
      utahCertHash.toList (sha512Hash (replay (utahRecording status digest signature))
        (asBytes (display (utahResponse status)))) noon.proofTime] =
      (utahRecording status digest signature).signatures.map Prod.fst := by
  rw [sha512Hash, recorded_digest]
  simp [buildSigningMessage, replay, utahRecording, noon]

theorem status_keys : segments "voter.status" = ["voter", "status"] := by decide +kernel

theorem state_keys :
    segments "residence.physicalState" = ["residence", "physicalState"] := by decide +kernel

theorem recorded_status :
    navigateJsonPath (utahResponse status) "voter.status" = some (.string status) := by
  simp [navigate_eq, status_keys, Json.lookupPath, Json.get, utahResponse, Json.lookup_entry]

theorem recorded_state :
    navigateJsonPath (utahResponse status) "residence.physicalState" = some (.string "UT") := by
  simp [navigate_eq, state_keys, Json.lookupPath, Json.get, utahResponse, Json.lookup_entry]

theorem utah_canonical : Json.Canonical (utahResponse status) := by
  refine .object _ (show ["errorMessage", "residence", "voter"].Pairwise (· < ·) by
    decide +kernel) (List.forall_mem_cons.mpr ⟨.null,
    List.forall_mem_cons.mpr ⟨.object _ (by simp) ?_, List.forall_mem_singleton.mpr
      (.object _ (by simp) ?_)⟩⟩)
  · exact List.forall_mem_singleton.mpr (.string _)
  · exact List.forall_mem_singleton.mpr (.string _)

end utah

theorem active_parse :
    (replay activeRecording).fromStr activeText = .ok (utahResponse "Active") :=
  recorded_parse "Active" activeDigest activeSignature

theorem replay_canonical (R : Recording) (h : ∀ v ∈ R.responses, Json.Canonical v)
    (body : String) (v : Json) (hv : (replay R).fromStr body = .ok v) : Json.Canonical v := by
  simp only [replay] at hv
  split at hv
  · cases hv
    exact h _ (List.mem_of_find?_eq_some ‹_›)
  · cases hv

end ZkTls.RecordedPlatform
