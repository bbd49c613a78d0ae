import ZkTls.FieldExtraction
import ZkTls.RecordedPlatform
import Mathlib.Data.Finset.Lattice.Fold
import Mathlib.Order.Lattice.Nat

/-!
# What a redacted path hides and commits to

Masks are matched against field paths as whole strings, while a path denotes
a subtree. Hiding therefore depends on how the redacted path compares with
every shown path, and committing on whether some field has that very path.
-/

set_option autoImplicit false

namespace ZkTls.Redaction
open ZkTls.JsonTree ZkTls.JsonText ZkTls.CoreTypes ZkTls.VerificationTemplates
open ZkTls.FieldExtraction ZkTls.RecordedPlatform

variable (P : Platform) (fields : List FieldDefinition) (mask : DisclosureMask)

/-- Two responses that become identical when the value at a path is blanked. -/
def AgreeOutside (r : String) (json json' : Json) : Prop :=
  Json.replaceAt .null (segments r) json = Json.replaceAt .null (segments r) json'

/-- What is disclosed does not depend on the value at a path. -/
def DisclosesNothingOf (r : String) : Prop :=
  ∀ body body' json json' out out',
    P.fromStr body = .ok json → P.fromStr body' = .ok json' → AgreeOutside r json json' →
    extractFields P body fields mask = .ok out →
    extractFields P body' fields mask = .ok out' → out.1 = out'.1

/-- The fields that supply a disclosed name read neither the path, nor
anything above it, nor anything below it. -/
def ShownApart (r : String) : Prop :=
  ∀ name f, lastShown mask fields name = some f →
    ¬ Json.Comparable (segments f.jsonPath) (segments r)

theorem lookup_of_agree (r : String) (json json' : Json) (h : AgreeOutside r json json')
    (p : List String) (hp : ¬ Json.Comparable p (segments r)) :
    Json.lookupPath p json = Json.lookupPath p json' := by
  rw [← Json.lookupPath_replaceAt_apart .null p (segments r) json hp, h,
    Json.lookupPath_replaceAt_apart .null p (segments r) json' hp]

theorem disclosesNothing_of_apart (r : String) (h : ShownApart fields mask r) :
    DisclosesNothingOf P fields mask r := by
  intro body body' json json' out out' hjson hjson' hagree hout hout'
  obtain ⟨v, hv, hfrom⟩ := (extractFields_ok P mask body fields out).mp hout
  obtain ⟨v', hv', hfrom'⟩ := (extractFields_ok P mask body' fields out').mp hout'
  obtain rfl := Except.ok.inj (hjson.symm.trans hv)
  obtain rfl := Except.ok.inj (hjson'.symm.trans hv')
  refine Finmap.ext_lookup fun name => ?_
  rw [((extractFrom_ok P _ mask fields out).mp hfrom).2.1 name,
    ((extractFrom_ok P _ mask fields out').mp hfrom').2.1 name]
  cases hlast : lastShown mask fields name with
  | none => rfl
  | some f =>
    have hnav : navigateJsonPath json f.jsonPath = navigateJsonPath json' f.jsonPath := by
      rw [navigate_eq, navigate_eq]
      exact lookup_of_agree r json json' hagree _ (h name f hlast)
    exact congrArg some (congrArg (Option.getD · Json.null) hnav)

/-! Two probe responses that hold the field paths and the redacted path and
nothing else. All of them resolve, and the probes differ in every value below
the redacted path. -/

/-- The redacted path and all field paths. -/
def allPaths (r : String) : List (List String) :=
  (r :: fields.map FieldDefinition.jsonPath).map segments

def longest (r : String) : ℕ := (allPaths fields r).toFinset.sup List.length

/-- The subtree of a probe at a path. -/
def probeBelow (r : String) (leaf : Bool) (p : List String) : Json :=
  Json.pathTree (.bool leaf) (longest fields r - p.length) (Json.remaining p (allPaths fields r))

def probe (r : String) : Json := probeBelow fields r false []

def altered (r : String) : Json :=
  Json.replaceAt (probeBelow fields r true (segments r)) (segments r) (probe fields r)

theorem probeBelow_canonical (r : String) (leaf : Bool) (p : List String) :
    Json.Canonical (probeBelow fields r leaf p) :=
  Json.canonical_pathTree _ (.bool leaf) _ _

/-- Both probes are values a parser can return. -/
theorem probes_canonical (r : String) :
    Json.Canonical (probe fields r) ∧ Json.Canonical (altered fields r) :=
  ⟨probeBelow_canonical fields r false [],
    Json.canonical_replaceAt _ (probeBelow_canonical fields r true _) _ _
      (probeBelow_canonical fields r false [])⟩

theorem probes_agree (r : String) : AgreeOutside r (probe fields r) (altered fields r) :=
  (Json.replaceAt_replaceAt _ _ _ _).symm

theorem probeBelow_ne (r : String) (p : List String) :
    probeBelow fields r false p ≠ probeBelow fields r true p := by
  intro h
  simpa using Json.pathTree_injective _ _ _ _ h

theorem lookup_probeBelow (r : String) (leaf : Bool) (p q : List String)
    (hpq : p ++ q ∈ allPaths fields r) :
    Json.lookupPath q (probeBelow fields r leaf p) =
      some (probeBelow fields r leaf (p ++ q)) := by
  have hlen : (p ++ q).length ≤ longest fields r :=
    Finset.le_sup (f := List.length) (List.mem_toFinset.mpr hpq)
  have hmem : q ++ [] ∈ Json.remaining p (allPaths fields r) :=
    (Json.mem_remaining p (q ++ []) _).mpr (by rwa [List.append_nil])
  rw [List.length_append] at hlen
  have hd : longest fields r - p.length =
      q.length + (longest fields r - (p ++ q).length) := by
    rw [List.length_append]
    omega
  rw [probeBelow, hd, Json.lookupPath_pathTree _ q [] _ _ hmem, probeBelow,
    Json.remaining_append]

theorem lookup_probe (r : String) (p : List String) (hp : p ∈ allPaths fields r) :
    Json.lookupPath p (probe fields r) = some (probeBelow fields r false p) :=
  lookup_probeBelow fields r false [] p hp

theorem mem_allPaths_self (r : String) : segments r ∈ allPaths fields r := by
  simp [allPaths]

theorem mem_allPaths_field (r : String) (f : FieldDefinition) (hf : f ∈ fields) :
    segments f.jsonPath ∈ allPaths fields r :=
  List.mem_map_of_mem (List.mem_cons_of_mem _ (List.mem_map_of_mem hf))

/-- Replacing a deep part of a probe's subtree changes the subtree. -/
theorem replaced_ne (r : String) (p q : List String) (hpq : p ++ q ∈ allPaths fields r) :
    Json.replaceAt (probeBelow fields r true (p ++ q)) q
      (probeBelow fields r false p) ≠ probeBelow fields r false p := by
  intro h
  have hlook := congrArg (Json.lookupPath q) h
  have hself := Json.lookupPath_replaceAt_below
    (probeBelow fields r true (p ++ q)) q [] (probeBelow fields r false p)
  rw [List.append_nil] at hself
  rw [hself, lookup_probeBelow fields r false p q hpq] at hlook
  exact probeBelow_ne fields r _ (Option.some.inj hlook).symm

/-- On a path comparable with the redacted one the probes resolve to
different values. -/
theorem lookup_altered (r : String) (p : List String) (hp : p ∈ allPaths fields r)
    (hc : Json.Comparable p (segments r)) :
    ∃ v, Json.lookupPath p (altered fields r) = some v ∧
      v ≠ probeBelow fields r false p := by
  rcases hc with ⟨q, hq⟩ | ⟨q, rfl⟩
  · refine ⟨_, ?_, replaced_ne fields r p q (hq ▸ mem_allPaths_self fields r)⟩
    rw [altered, ← hq, Json.lookupPath_replaceAt_above, lookup_probe fields r p hp]
    rfl
  · refine ⟨_, ?_, (probeBelow_ne fields r _).symm⟩
    rw [altered, Json.lookupPath_replaceAt_below,
      lookup_probe fields r _ (mem_allPaths_self fields r)]
    exact lookup_probeBelow fields r true (segments r) q hp

theorem navigate_probe (r : String) (f : FieldDefinition) (hf : f ∈ fields) :
    navigateJsonPath (probe fields r) f.jsonPath =
      some (probeBelow fields r false (segments f.jsonPath)) := by
  rw [navigate_eq]
  exact lookup_probe fields r _ (mem_allPaths_field fields r f hf)

theorem navigate_altered (r : String) (f : FieldDefinition) (hf : f ∈ fields) :
    ∃ v, navigateJsonPath (altered fields r) f.jsonPath = some v := by
  rw [navigate_eq]
  have hp := mem_allPaths_field fields r f hf
  by_cases hc : Json.Comparable (segments f.jsonPath) (segments r)
  · obtain ⟨v, hv, -⟩ := lookup_altered fields r _ hp hc
    exact ⟨v, hv⟩
  · exact ⟨_, (lookup_of_agree r _ _ (probes_agree fields r) _ hc).symm.trans
      (lookup_probe fields r _ hp)⟩

theorem apart_of_disclosesNothing (r : String)
    (hread : ∃ body, P.fromStr body = .ok (probe fields r))
    (hread' : ∃ body, P.fromStr body = .ok (altered fields r))
    (h : DisclosesNothingOf P fields mask r) : ShownApart fields mask r := by
  intro name f hlast hc
  obtain ⟨body, hbody⟩ := hread
  obtain ⟨body', hbody'⟩ := hread'
  have hf := (lastShown_some mask hlast).1
  obtain ⟨out, hout⟩ := extractFrom_total P (probe fields r) mask fields
    fun g hg hm => by simpa [hm.2.2] using navigate_probe fields r g hg
  obtain ⟨out', hout'⟩ := extractFrom_total P (altered fields r) mask fields
    fun g hg hm => by simpa [hm.2.2] using navigate_altered fields r g hg
  have heq := h body body' _ _ out out' hbody hbody' (probes_agree fields r)
    ((extractFields_ok P mask body fields out).mpr ⟨_, hbody, hout⟩)
    ((extractFields_ok P mask body' fields out').mpr ⟨_, hbody', hout'⟩)
  -- both probes succeed, and the name the field supplies tells them apart
  have hname := congrArg (Finmap.lookup name) heq
  rw [((extractFrom_ok P _ mask fields out).mp hout).2.1 name,
    ((extractFrom_ok P _ mask fields out').mp hout').2.1 name, hlast] at hname
  obtain ⟨v, hv, hne⟩ := lookup_altered fields r _ (mem_allPaths_field fields r f hf) hc
  have hshown : shownValue (altered fields r) f = v := by
    rw [shownValue, navigate_eq, hv]
    rfl
  have hshown' : shownValue (probe fields r) f =
      probeBelow fields r false (segments f.jsonPath) := by
    rw [shownValue, navigate_probe fields r f hf, Option.getD_some]
  refine hne ?_
  rw [← hshown, ← hshown']
  exact (Option.some.inj hname).symm

/-- A redacted path stays out of the disclosed map exactly when no shown
path is comparable with it, for any parser that reads the two probes. -/
theorem disclosesNothing_iff_apart (r : String)
    (hread : ∃ body, P.fromStr body = .ok (probe fields r))
    (hread' : ∃ body, P.fromStr body = .ok (altered fields r)) :
    DisclosesNothingOf P fields mask r ↔ ShownApart fields mask r :=
  ⟨apart_of_disclosesNothing P fields mask r hread hread',
    disclosesNothing_of_apart P fields mask r⟩

def probeRecording : Recording :=
  { activeRecording with
    responses :=
      [probe utahVoterTemplate.fields "voter.first",
       altered utahVoterTemplate.fields "voter.first"] }

/-- Every field of the shipped template lies apart from the first name. -/
theorem shipped_hides_first_name :
    DisclosesNothingOf (replay probeRecording) utahVoterTemplate.fields
      utahVoterTemplate.defaultDisclosure "voter.first" := by
  refine (disclosesNothing_iff_apart _ _ _ _
    ⟨_, replay_reads probeRecording _ (by simp [probeRecording])⟩
    ⟨_, replay_reads probeRecording _ (by simp [probeRecording])⟩).mpr ?_
  intro name f hlast
  have hapart : ∀ f ∈ utahVoterTemplate.fields,
      ¬ Json.Comparable (segments f.jsonPath) (segments "voter.first") := by decide +kernel
  exact hapart f (lastShown_some _ hlast).1

/-- The portal's answer with a first name in it. -/
def voterResponse (first : String) : Json :=
  .object
    [("errorMessage", .null),
     ("residence", .object [("physicalState", .string "UT")]),
     ("voter", .object [("first", .string first), ("status", .string "Active")])]

/-- SHA-512 of `voter.first:"Ada"`. -/
def firstNameDigest : List.Vector UInt8 64 :=
  ⟨[0xd8, 0x44, 0x0f, 0x60, 0x7d, 0xc2, 0x4e, 0x47, 0x7e, 0x2a, 0x66, 0xc2,
    0x9f, 0x65, 0xf6, 0x41, 0x21, 0xf3, 0x46, 0xd8, 0xd6, 0xd2, 0xd5, 0x4c,
    0x44, 0x22, 0x46, 0x80, 0x8a, 0x43, 0xf0, 0x1a, 0xc7, 0x24, 0x90, 0x38,
    0xbc, 0x80, 0x5f, 0x75, 0xd0, 0x4b, 0x0a, 0xa6, 0x69, 0xc8, 0x67, 0x0b,
    0x28, 0xdb, 0xa1, 0xb3, 0x8f, 0x8a, 0x97, 0x1e, 0xdc, 0x3a, 0x3d, 0xdc,
    0x2d, 0xd9, 0x39, 0xe2], by decide⟩

/-- SHA-512 of `voter.status:"Active"`. -/
def statusDigest : List.Vector UInt8 64 :=
  ⟨[0xc2, 0xc3, 0xdc, 0x42, 0x1f, 0x20, 0x3f, 0xef, 0xfe, 0xf5, 0xaf, 0x9a,
    0x4b, 0x11, 0x0d, 0x0c, 0xc3, 0x95, 0xe1, 0x1f, 0x24, 0x36, 0x93, 0x39,
    0x78, 0x6e, 0x46, 0x64, 0x5c, 0xdf, 0x35, 0x86, 0xb4, 0x31, 0x96, 0x64,
    0xb0, 0x18, 0x66, 0x7f, 0xd3, 0xb9, 0x68, 0xa7, 0xba, 0x48, 0x33, 0xec,
    0xa1, 0x2a, 0xd5, 0x98, 0xf2, 0xb1, 0x0f, 0x5a, 0x9f, 0x15, 0x5f, 0xf4,
    0x5b, 0x34, 0xe3, 0x81], by decide⟩

def voterRecording : Recording :=
  { activeRecording with
    digests :=
      [(asBytes "voter.first:\"Ada\"", firstNameDigest),
       (asBytes "voter.status:\"Active\"", statusDigest)]
    responses := [voterResponse "Ada", voterResponse "Bea"] }

def voterField : FieldDefinition :=
  ⟨"voter", "voter", .string, true, none, "The voter record."⟩

theorem voter_parse (first : String) (h : first = "Ada" ∨ first = "Bea") :
    (replay voterRecording).fromStr (display (voterResponse first)) =
      .ok (voterResponse first) := by
  apply replay_reads
  rcases h with rfl | rfl <;> simp [voterRecording]

theorem first_keys : segments "voter.first" = ["voter", "first"] := by decide +kernel

theorem voter_shown (first : String) :
    ∃ out, extractFrom P (voterResponse first) [voterField] ⟨["voter"], ["voter.first"]⟩ =
        .ok out ∧
      out.1.lookup "voter" =
        some (.object [("first", .string first), ("status", .string "Active")]) := by
  have hseg : segments "voter" = ["voter"] := by decide +kernel
  have hnav : navigateJsonPath (voterResponse first) "voter" =
      some (.object [("first", .string first), ("status", .string "Active")]) := by
    simp [navigate_eq, hseg, Json.lookupPath, Json.get, voterResponse,
      Json.lookup_entry]
  refine ⟨_, by simp [extractFrom, extractField, voterField, hnav]; rfl, ?_⟩
  simp

/-- Showing an object discloses a name that was to be redacted inside it. -/
theorem ancestor_discloses_redacted :
    "voter.first" ∈ (⟨["voter"], ["voter.first"]⟩ : DisclosureMask).redactedPaths ∧
    ¬ DisclosesNothingOf (replay voterRecording) [voterField] ⟨["voter"], ["voter.first"]⟩
      "voter.first" := by
  refine ⟨by simp, fun h => ?_⟩
  have hagree : AgreeOutside "voter.first" (voterResponse "Ada") (voterResponse "Bea") := by
    simp [AgreeOutside, first_keys, voterResponse, Json.replaceAt]
  obtain ⟨out, hout, hada⟩ := voter_shown (replay voterRecording) "Ada"
  obtain ⟨out', hout', hbea⟩ := voter_shown (replay voterRecording) "Bea"
  have hada' := voter_parse "Ada" (Or.inl rfl)
  have hbea' := voter_parse "Bea" (Or.inr rfl)
  have heq := h _ _ _ _ out out' hada' hbea' hagree
    ((extractFields_ok _ _ _ _ _).mpr ⟨_, hada', hout⟩)
    ((extractFields_ok _ _ _ _ _).mpr ⟨_, hbea', hout'⟩)
  rw [heq, hbea] at hada
  simp at hada

/-- The commitment to the value at a path. -/
def commitment (r : String) (v : Json) : Bytes := sha512Hash P (asBytes (hashInput r v))

/-- The paths a mask asks to redact and not to disclose. -/
def Redacts (r : String) : Prop := r ∈ mask.redactedPaths ∧ r ∉ mask.disclosedPaths

instance (r : String) : Decidable (Redacts mask r) := inferInstanceAs (Decidable (_ ∧ _))

/-- The hashes commit to every redacted value of the response and to nothing
else. -/
def CommitsExactly (json : Json) (hashes : List Bytes) : Prop :=
  (∀ r, Redacts mask r → ∀ v, navigateJsonPath json r = some v → commitment P r v ∈ hashes) ∧
  ∀ h ∈ hashes, ∃ r, Redacts mask r ∧ ∃ v, navigateJsonPath json r = some v ∧
    h = commitment P r v

/-- The hash inputs of the redacted values. -/
def redactedInputs (json : Json) : Set Bytes :=
  {m | ∃ r, Redacts mask r ∧ ∃ v, navigateJsonPath json r = some v ∧
    m = asBytes (hashInput r v)}

/-- A hash input determines its path. -/
theorem hashInput_path (r s : String) (v w : Json) (h : hashInput r v = hashInput s w) :
    r = s := by
  have hl := congrArg String.toList h
  simp only [hashInput, display, String.toList_append, String.toList_ofList] at hl
  exact String.toList_injective (colon_split r.toList s.toList v w (by simpa using hl)).1

theorem mem_commitments (json : Json) (f : FieldDefinition) (h : Bytes) :
    h ∈ commitments P json mask f ↔
      Redacts mask f.jsonPath ∧
        ∃ v, navigateJsonPath json f.jsonPath = some v ∧ h = commitment P f.jsonPath v := by
  unfold commitments
  split
  · rename_i hh
    simp [Redacts, hh.1, hh.2, commitment, eq_comm]
  · rename_i hh
    simp only [List.not_mem_nil, false_iff]
    rintro ⟨⟨hr, hd⟩, -⟩
    exact hh ⟨hd, hr⟩

theorem mem_hashes (json : Json) (out : ExtractedFields)
    (hok : extractFrom P json fields mask = .ok out) (h : Bytes) :
    h ∈ out.2 ↔ ∃ f ∈ fields, Redacts mask f.jsonPath ∧
      ∃ v, navigateJsonPath json f.jsonPath = some v ∧ h = commitment P f.jsonPath v := by
  rw [((extractFrom_ok P json mask fields out).mp hok).2.2, List.mem_flatMap]
  simp only [mem_commitments]

/-- The returned hashes commit exactly to what the mask redacts if and only
if every redacted path that resolves is the path of some field. -/
theorem commitsExactly_iff (body : String) (json : Json) (shown : FieldMap)
    (hashes : List Bytes) (hjson : P.fromStr body = .ok json)
    (hok : extractFields P body fields mask = .ok (shown, hashes))
    (hsha : Set.InjOn P.sha512 (redactedInputs mask json)) :
    CommitsExactly P mask json hashes ↔
      ∀ r, Redacts mask r → (navigateJsonPath json r).isSome = true →
        ∃ f ∈ fields, f.jsonPath = r := by
  obtain ⟨json', hjson', hfrom⟩ := (extractFields_ok P mask body fields _).mp hok
  obtain rfl := Except.ok.inj (hjson.symm.trans hjson')
  have hmem := mem_hashes P fields mask json (shown, hashes) hfrom
  constructor
  · rintro ⟨hcommit, -⟩ r hr hres
    obtain ⟨v, hv⟩ := Option.isSome_iff_exists.mp hres
    obtain ⟨f, hf, hred, w, hw, heq⟩ := (hmem _).mp (hcommit r hr v hv)
    -- equal digests of two redacted inputs come from equal inputs
    have hinput := hsha ⟨r, hr, v, hv, rfl⟩ ⟨f.jsonPath, hred, w, hw, rfl⟩
      (List.Vector.toList_injective heq)
    exact ⟨f, hf, (hashInput_path _ _ _ _ (asBytes_injective hinput)).symm⟩
  · intro hfield
    refine ⟨fun r hr v hv => ?_, fun h hh => ?_⟩
    · obtain ⟨f, hf, rfl⟩ := hfield r hr (by rw [hv]; rfl)
      exact (hmem _).mpr ⟨f, hf, hr, v, hv, rfl⟩
    · obtain ⟨f, -, hred, v, hv, rfl⟩ := (hmem h).mp hh
      exact ⟨f.jsonPath, hred, v, hv, rfl⟩

theorem ada_extracted (fields : List FieldDefinition) (mask : DisclosureMask)
    (h : (extractFrom (replay voterRecording) (voterResponse "Ada") fields mask).isOk = true) :
    ∃ shown hashes,
      extractFrom (replay voterRecording) (voterResponse "Ada") fields mask =
        .ok (shown, hashes) ∧
      extractFields (replay voterRecording) (display (voterResponse "Ada")) fields mask =
        .ok (shown, hashes) := by
  cases hr : extractFrom (replay voterRecording) (voterResponse "Ada") fields mask with
  | error e => simp [hr, Except.isOk, Except.toBool] at h
  | ok out =>
    exact ⟨out.1, out.2, rfl, (extractFields_ok _ _ _ _ _).mpr
      ⟨_, voter_parse "Ada" (Or.inl rfl), hr⟩⟩

theorem ada_first_name :
    navigateJsonPath (voterResponse "Ada") "voter.first" = some (.string "Ada") := by
  simp [navigate_eq, first_keys, Json.lookupPath, Json.get, voterResponse,
      Json.lookup_entry]

/-- The shipped template redacts a first name that no field of it reads, and
commits to nothing. -/
theorem utah_first_name_uncommitted :
    ∃ shown hashes,
      extractFields (replay voterRecording) (display (voterResponse "Ada"))
        utahVoterTemplate.fields utahVoterTemplate.defaultDisclosure = .ok (shown, hashes) ∧
      ¬ CommitsExactly (replay voterRecording) utahVoterTemplate.defaultDisclosure
        (voterResponse "Ada") hashes := by
  obtain ⟨shown, hashes, hfrom, hok⟩ := ada_extracted utahVoterTemplate.fields
    utahVoterTemplate.defaultDisclosure (by decide +kernel)
  refine ⟨shown, hashes, hok, fun hexact => ?_⟩
  have hmem := hexact.1 "voter.first" (by decide) _ ada_first_name
  obtain ⟨f, hf, hred, -⟩ := (mem_hashes _ _ _ _ (shown, hashes) hfrom _).mp hmem
  have hnone : ∀ f ∈ utahVoterTemplate.fields,
      f.jsonPath ∉ utahVoterTemplate.defaultDisclosure.redactedPaths := by decide
  exact hnone f hf hred.1

theorem ada_status :
    navigateJsonPath (voterResponse "Ada") "voter.status" = some (.string "Active") := by
  simp [navigate_eq, status_keys, Json.lookupPath, Json.get, voterResponse,
      Json.lookup_entry]

theorem ada_digests :
    (replay voterRecording).sha512 (asBytes (hashInput "voter.first" (.string "Ada"))) =
      firstNameDigest ∧
    (replay voterRecording).sha512 (asBytes (hashInput "voter.status" (.string "Active"))) =
      statusDigest := by
  constructor <;> decide +kernel

/-- The same response under a field list that reads two redacted paths. -/
def namedFields : List FieldDefinition :=
  ⟨"firstName", "voter.first", .string, false, none, "First name"⟩ :: utahVoterTemplate.fields

theorem read_first_name_committed :
    ∃ shown hashes,
      extractFields (replay voterRecording) (display (voterResponse "Ada")) namedFields
        ⟨["residence.physicalState"], ["voter.first", "voter.status"]⟩ = .ok (shown, hashes) ∧
      CommitsExactly (replay voterRecording)
        ⟨["residence.physicalState"], ["voter.first", "voter.status"]⟩
        (voterResponse "Ada") hashes := by
  obtain ⟨shown, hashes, -, hok⟩ := ada_extracted namedFields
    ⟨["residence.physicalState"], ["voter.first", "voter.status"]⟩ (by decide +kernel)
  refine ⟨shown, hashes, hok, (commitsExactly_iff _ _ _ _ _ shown hashes
    (voter_parse "Ada" (Or.inl rfl)) hok ?_).mpr ?_⟩
  · have hne : firstNameDigest ≠ statusDigest := by decide
    have hinput : ∀ r v, Redacts
        ⟨["residence.physicalState"], ["voter.first", "voter.status"]⟩ r →
        navigateJsonPath (voterResponse "Ada") r = some v →
        (r = "voter.first" ∧ v = .string "Ada") ∨ r = "voter.status" ∧ v = .string "Active" := by
      intro r v hr hv
      obtain rfl | rfl : r = "voter.first" ∨ r = "voter.status" := by simpa using hr.1
      · exact Or.inl ⟨rfl, Option.some.inj (hv.symm.trans ada_first_name)⟩
      · exact Or.inr ⟨rfl, Option.some.inj (hv.symm.trans ada_status)⟩
    -- the two recorded digests differ, so equal digests come from one path
    rintro _ ⟨r, hr, v, hv, rfl⟩ _ ⟨s, hs, w, hw, rfl⟩ heq
    obtain ⟨rfl, rfl⟩ | ⟨rfl, rfl⟩ := hinput r v hr hv <;>
      obtain ⟨rfl, rfl⟩ | ⟨rfl, rfl⟩ := hinput s w hs hw
    · rfl
    · exact absurd (ada_digests.1.symm.trans (heq.trans ada_digests.2)) hne
    · exact absurd (ada_digests.1.symm.trans (heq.symm.trans ada_digests.2)) hne
    · rfl
  · intro r hr _
    obtain rfl | rfl : r = "voter.first" ∨ r = "voter.status" := by simpa using hr.1
    · exact ⟨_, List.mem_cons_self, rfl⟩
    · exact ⟨_, List.mem_cons_of_mem _ List.mem_cons_self, rfl⟩

end ZkTls.Redaction
