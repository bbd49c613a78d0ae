import ZkTls.Redaction

/-!
# What a successful extraction guarantees

The map is filled by overwriting, so a field keeps its value as long as the
last field of its name supplies the same one. The required flag is read for
shown fields only. What no listed path touches is never read.
-/

set_option autoImplicit false

namespace ZkTls.ExtractionLaws
open ZkTls.JsonTree ZkTls.JsonText ZkTls.CoreTypes ZkTls.VerificationTemplates
open ZkTls.FieldExtraction ZkTls.RecordedPlatform ZkTls.Redaction

variable (P : Platform) (fields : List FieldDefinition) (mask : DisclosureMask)

theorem lastShown_exists (f : FieldDefinition) (hf : f ∈ fields) (hs : Shown mask f) :
    ∃ g, lastShown mask fields f.name = some g := by
  have hmem : f ∈ fields.filter fun g => Shown mask g ∧ g.name = f.name := by simp [hf, hs]
  exact ⟨_, List.getLast?_eq_some_getLast (List.ne_nil_of_mem hmem)⟩

/-- On a parsed response the extractor fails on a missing field and on
nothing else. -/
theorem extractFrom_error (json : Json) :
    (∃ e, extractFrom P json fields mask = .error e) ↔ ∃ f ∈ fields, Missing json mask f := by
  constructor
  · rintro ⟨e, he⟩
    by_contra hnone
    obtain ⟨out, hout⟩ := extractFrom_total P json mask fields
      fun f hf hm => hnone ⟨f, hf, hm⟩
    rw [hout] at he
    cases he
  · rintro ⟨f, hf, hm⟩
    cases hr : extractFrom P json fields mask with
    | error e => exact ⟨e, rfl⟩
    | ok out => exact absurd hm (((extractFrom_ok P json mask fields out).mp hr).1 f hf)

theorem extractFields_parsed (body : String) (json : Json) (h : P.fromStr body = .ok json) :
    extractFields P body fields mask = extractFrom P json fields mask := by
  rw [extractFields, h]

/-- The map holds the value of every shown field under its name, and no other
name. -/
def HoldsShown (json : Json) (shown : FieldMap) : Prop :=
  (∀ f ∈ fields, Shown mask f → shown.lookup f.name = some (shownValue json f)) ∧
  ∀ name ∈ shown, ∃ f ∈ fields, Shown mask f ∧ f.name = name

/-- The extractor fails on a missing field only, and otherwise loses nothing. -/
def Exact (body : String) (json : Json) : Prop :=
  ((∃ e, extractFields P body fields mask = .error e) ↔ ∃ f ∈ fields, Missing json mask f) ∧
  ∀ out, extractFields P body fields mask = .ok out → HoldsShown fields mask json out.1

/-- Shown fields of one name select equal values. -/
def NamesAgree (json : Json) : Prop :=
  ∀ f ∈ fields, ∀ g ∈ fields, Shown mask f → Shown mask g → f.name = g.name →
    shownValue json f = shownValue json g

theorem holdsShown_iff (json : Json) (out : ExtractedFields)
    (hok : extractFrom P json fields mask = .ok out) :
    HoldsShown fields mask json out.1 ↔ NamesAgree fields mask json := by
  have hmap := ((extractFrom_ok P json mask fields out).mp hok).2.1
  constructor
  · rintro ⟨hall, -⟩ f hf g hg hsf hsg hname
    have hlookup := hall f hf hsf
    rw [hname, hall g hg hsg] at hlookup
    exact (Option.some.inj hlookup).symm
  · intro hagree
    constructor
    · intro f hf hs
      obtain ⟨g, hg⟩ := lastShown_exists fields mask f hf hs
      obtain ⟨hgmem, hgs, hgname⟩ := lastShown_some mask hg
      rw [hmap, hg, Option.map_some, hagree g hgmem f hf hgs hs hgname]
    · intro name hname
      obtain ⟨v, hv⟩ := Option.isSome_iff_exists.mp (Finmap.lookup_isSome.mpr hname)
      rw [hmap, Option.map_eq_some_iff] at hv
      obtain ⟨f, hf, -⟩ := hv
      exact ⟨f, lastShown_some mask hf⟩

/-- A law about successful results holds when extraction fails, and otherwise
exactly when its condition on the response does. -/
theorem ok_law_iff (json : Json) (law : ExtractedFields → Prop) (condition : Prop)
    (h : ∀ out, extractFrom P json fields mask = .ok out → (law out ↔ condition)) :
    (∀ out, extractFrom P json fields mask = .ok out → law out) ↔
      (∃ f ∈ fields, Missing json mask f) ∨ condition := by
  rw [← extractFrom_error P fields mask json]
  cases hr : extractFrom P json fields mask with
  | error e => simp
  | ok out => simpa using h out hr

/-- Extraction is exact when it fails, and otherwise exactly when shown fields
that share a name also share their value. -/
theorem exact_iff_namesAgree (body : String) (json : Json) (hjson : P.fromStr body = .ok json) :
    Exact P fields mask body json ↔
      (∃ f ∈ fields, Missing json mask f) ∨ NamesAgree fields mask json := by
  rw [Exact, extractFields_parsed P fields mask body json hjson,
    and_iff_right (extractFrom_error P fields mask json)]
  exact ok_law_iff P fields mask json _ _ (holdsShown_iff P fields mask json)

/-- The first field of the shipped template. -/
def statusDefinition : FieldDefinition :=
  ⟨"status", "voter.status", .string, true, some "^(Active|Inactive|Cancelled|Suspended)$",
    "Voter registration status."⟩

def expiryField : FieldDefinition :=
  ⟨"status", "voter.expiry", .date, false, none, "Expiry of the registration."⟩

theorem shipped_fields_exact :
    Exact (replay activeRecording) utahVoterTemplate.fields utahVoterTemplate.defaultDisclosure
      activeText (utahResponse "Active") := by
  refine (exact_iff_namesAgree _ _ _ _ _ active_parse).mpr (Or.inr ?_)
  have hnames : (utahVoterTemplate.fields.map FieldDefinition.name).Nodup := by decide
  intro f hf g hg _ _ hname
  rw [List.inj_on_of_nodup_map hnames hf hg hname]

theorem active_expiry : navigateJsonPath (utahResponse "Active") "voter.expiry" = none := by
  have hseg : segments "voter.expiry" = ["voter", "expiry"] := by decide +kernel
  simp [navigate_eq, hseg, Json.lookupPath, Json.get, utahResponse, Json.lookup_entry]

/-- A later field of the same name, absent from the response, overwrites the
required status with null. -/
theorem later_namesake_overwrites :
    ¬ Exact (replay activeRecording) [statusDefinition, expiryField]
      ⟨["voter.status", "voter.expiry"], []⟩ activeText (utahResponse "Active") := by
  rintro ⟨-, hexact⟩
  have hnone : ∀ f ∈ [statusDefinition, expiryField],
      ¬ Missing (utahResponse "Active") ⟨["voter.status", "voter.expiry"], []⟩ f := by
    simp [Missing, statusDefinition, expiryField, recorded_status]
  obtain ⟨out, hout⟩ := extractFrom_total (replay activeRecording) _ _ _ hnone
  have hheld := hexact out ((extractFields_parsed _ _ _ _ _ active_parse).trans hout)
  have hagree := (holdsShown_iff _ _ _ _ out hout).mp hheld statusDefinition (by simp)
    expiryField (by simp) (by decide) (by decide) rfl
  simp [shownValue, statusDefinition, expiryField, recorded_status, active_expiry] at hagree

/-- A field that the mask lists resolves, and its value if shown, or the
commitment to it if hidden, is in the output. -/
def Held (json : Json) (out : ExtractedFields) (f : FieldDefinition) : Prop :=
  (Shown mask f → ∃ v, navigateJsonPath json f.jsonPath = some v ∧
    out.1.lookup f.name = some v) ∧
  (Hidden mask f → ∃ v, navigateJsonPath json f.jsonPath = some v ∧
    commitment P f.jsonPath v ∈ out.2)

/-- A successful extraction holds every required field the mask lists. -/
def Enforced (body : String) (json : Json) : Prop :=
  ∀ out, extractFields P body fields mask = .ok out →
    ∀ f ∈ fields, f.required = true → Held P mask json out f

/-- Every required field that is hidden resolves, and none that is shown has a
later namesake with another value. -/
def RequiredPresent (json : Json) : Prop :=
  ∀ f ∈ fields, f.required = true →
    (Hidden mask f → (navigateJsonPath json f.jsonPath).isSome = true) ∧
    (Shown mask f → ∀ g, lastShown mask fields f.name = some g →
      shownValue json g = shownValue json f)

theorem shown_resolves (json : Json) (f : FieldDefinition) (hf : f.required = true)
    (hs : Shown mask f) (hm : ¬ Missing json mask f) :
    navigateJsonPath json f.jsonPath = some (shownValue json f) := by
  cases hv : navigateJsonPath json f.jsonPath with
  | none => exact absurd ⟨hs, hf, hv⟩ hm
  | some v => rw [shownValue, hv, Option.getD_some]

theorem hidden_committed (json : Json) (out : ExtractedFields)
    (hok : extractFrom P json fields mask = .ok out) (f : FieldDefinition) (hf : f ∈ fields)
    (hh : Hidden mask f) (v : Json) (hv : navigateJsonPath json f.jsonPath = some v) :
    commitment P f.jsonPath v ∈ out.2 :=
  (mem_hashes P fields mask json out hok _).mpr ⟨f, hf, ⟨hh.2, hh.1⟩, v, hv, rfl⟩

theorem shown_lookup (json : Json) (out : ExtractedFields)
    (hok : extractFrom P json fields mask = .ok out) (f : FieldDefinition) (hf : f ∈ fields)
    (hs : Shown mask f) :
    out.1.lookup f.name = some (shownValue json f) ↔
      ∀ g, lastShown mask fields f.name = some g → shownValue json g = shownValue json f := by
  rw [((extractFrom_ok P json mask fields out).mp hok).2.1]
  obtain ⟨g, hg⟩ := lastShown_exists fields mask f hf hs
  simp [hg]

/-- What a successful extraction gives for its required fields. -/
theorem requiredHeld_iff (json : Json) (out : ExtractedFields)
    (hok : extractFrom P json fields mask = .ok out) :
    (∀ f ∈ fields, f.required = true → Held P mask json out f) ↔
      RequiredPresent fields mask json := by
  constructor
  · intro h f hf hreq
    obtain ⟨hshown, hhidden⟩ := h f hf hreq
    constructor
    · intro hh
      obtain ⟨v, hv, -⟩ := hhidden hh
      rw [hv, Option.isSome_some]
    · intro hs
      obtain ⟨v, hv, hlookup⟩ := hshown hs
      apply (shown_lookup P fields mask json out hok f hf hs).mp
      rw [hlookup, shownValue, hv, Option.getD_some]
  · intro h f hf hreq
    obtain ⟨hhidden, hshown⟩ := h f hf hreq
    constructor
    · intro hs
      have hnone := ((extractFrom_ok P json mask fields out).mp hok).1 f hf
      exact ⟨_, shown_resolves mask json f hreq hs hnone,
        (shown_lookup P fields mask json out hok f hf hs).mpr (hshown hs)⟩
    · intro hh
      obtain ⟨v, hv⟩ := Option.isSome_iff_exists.mp (hhidden hh)
      exact ⟨v, hv, hidden_committed P fields mask json out hok f hf hh v hv⟩

/-- Required fields are enforced exactly when extraction fails or every hidden
one resolves and no shown one is overwritten. -/
theorem enforced_iff_requiredPresent (body : String) (json : Json)
    (hjson : P.fromStr body = .ok json) :
    Enforced P fields mask body json ↔
      (∃ f ∈ fields, Missing json mask f) ∨ RequiredPresent fields mask json := by
  rw [Enforced, extractFields_parsed P fields mask body json hjson]
  exact ok_law_iff P fields mask json _ _ (requiredHeld_iff P fields mask json)

/-- The portal's answer for a voter without a status. -/
def statuslessResponse : Json :=
  .object
    [("errorMessage", .null),
     ("residence", .object [("physicalState", .string "UT")]),
     ("voter", .object [])]

def statuslessRecording : Recording :=
  { activeRecording with responses := [statuslessResponse] }

def statuslessBody : String := display statuslessResponse

theorem statusless_parse :
    (replay statuslessRecording).fromStr statuslessBody = .ok statuslessResponse :=
  replay_reads statuslessRecording _ (List.mem_singleton_self _)

/-- With the status hidden and the state shown, both required fields of the
shipped template are held. -/
theorem shipped_fields_enforced :
    ∃ out,
      extractFields (replay voterRecording) (display (voterResponse "Ada"))
        utahVoterTemplate.fields ⟨["residence.physicalState"], ["voter.status"]⟩ = .ok out ∧
      ∀ f ∈ utahVoterTemplate.fields, f.required = true →
        Held (replay voterRecording) ⟨["residence.physicalState"], ["voter.status"]⟩
          (voterResponse "Ada") out f := by
  obtain ⟨shown, hashes, -, hok⟩ := ada_extracted utahVoterTemplate.fields
    ⟨["residence.physicalState"], ["voter.status"]⟩ (by decide +kernel)
  refine ⟨(shown, hashes), hok, (enforced_iff_requiredPresent _ _ _ _ _
    (voter_parse "Ada" (Or.inl rfl))).mpr (Or.inr ?_) _ hok⟩
  have hnames : (utahVoterTemplate.fields.map FieldDefinition.name).Nodup := by decide
  have hhidden : ∀ f ∈ utahVoterTemplate.fields,
      Hidden ⟨["residence.physicalState"], ["voter.status"]⟩ f →
        f.jsonPath = "voter.status" := by
    decide
  intro f hf _
  refine ⟨fun hh => ?_, fun _ g hg => ?_⟩
  · rw [hhidden f hf hh, ada_status]
    rfl
  · obtain ⟨hgmem, -, hname⟩ := lastShown_some _ hg
    rw [List.inj_on_of_nodup_map hnames hgmem hf hname]

/-- Redacting the required status of a voter who has none still extracts, and
commits to nothing. -/
theorem hidden_status_unenforced :
    ¬ Enforced (replay statuslessRecording) utahVoterTemplate.fields
      ⟨["residence.physicalState"], ["voter.status"]⟩ statuslessBody statuslessResponse := by
  intro h
  have hnav : navigateJsonPath statuslessResponse "voter.status" = none := by
    simp [navigate_eq, status_keys, Json.lookupPath, Json.get, statuslessResponse,
      Json.lookup_entry]
  have hnone : ∀ f ∈ utahVoterTemplate.fields, ¬ Missing statuslessResponse
      ⟨["residence.physicalState"], ["voter.status"]⟩ f := by
    simp [Missing, Shown, utahVoterTemplate, navigate_eq, state_keys, Json.lookupPath, Json.get,
      statuslessResponse, Json.lookup_entry]
  obtain ⟨out, hout⟩ := extractFrom_total (replay statuslessRecording) _ _ _ hnone
  obtain ⟨v, hv, -⟩ := (h out ((extractFields_parsed _ _ _ _ _ statusless_parse).trans hout)
    statusDefinition (by simp [utahVoterTemplate, statusDefinition]) rfl).2 (by decide)
  rw [statusDefinition, hnav] at hv
  cases hv

/-- A field whose path either list of the mask names. -/
def Listed (f : FieldDefinition) : Prop :=
  f.jsonPath ∈ mask.disclosedPaths ∨ f.jsonPath ∈ mask.redactedPaths

/-- One round reads the response at the path of a listed field only. -/
theorem extractField_congr (json json' : Json) (acc : ExtractedFields) (f : FieldDefinition)
    (h : Listed mask f → navigateJsonPath json f.jsonPath = navigateJsonPath json' f.jsonPath) :
    extractField P json mask acc f = extractField P json' mask acc f := by
  unfold extractField
  by_cases hs : f.jsonPath ∈ mask.disclosedPaths
  · simp only [hs, if_true, h (Or.inl hs)]
  · by_cases hh : f.jsonPath ∈ mask.redactedPaths
    · simp only [hs, hh, if_false, if_true, h (Or.inr hh)]
    · simp only [hs, hh, if_false]

theorem extractFrom_congr (json json' : Json)
    (h : ∀ f ∈ fields, Listed mask f →
      navigateJsonPath json f.jsonPath = navigateJsonPath json' f.jsonPath) :
    extractFrom P json fields mask = extractFrom P json' fields mask := by
  have run : ∀ acc, fields.foldlM (extractField P json mask) acc =
      fields.foldlM (extractField P json' mask) acc := by
    induction fields with
    | nil => exact fun acc => rfl
    | cons f fields ih =>
      intro acc
      rw [List.forall_mem_cons] at h
      rw [List.foldlM_cons, List.foldlM_cons, extractField_congr P mask json json' acc f h.1]
      exact congrArg _ (funext (ih h.2))
  exact run _

/-- Replacing the value at a path that no listed field path is comparable with
changes nothing in the result. -/
theorem unlisted_replacement_unread (body body' : String) (json w : Json) (q : List String)
    (hjson : P.fromStr body = .ok json)
    (hjson' : P.fromStr body' = .ok (Json.replaceAt w q json))
    (hq : ∀ f ∈ fields, Listed mask f → ¬ Json.Comparable q (segments f.jsonPath)) :
    extractFields P body' fields mask = extractFields P body fields mask := by
  rw [extractFields_parsed P fields mask body json hjson,
    extractFields_parsed P fields mask body' _ hjson']
  apply extractFrom_congr
  intro f hf hl
  rw [navigate_eq, navigate_eq]
  exact Json.lookupPath_replaceAt_apart w _ q json fun hc => hq f hf hl hc.symm

/-- The first name beside the status leaves no trace in what the shipped
template extracts. -/
theorem first_name_unread :
    extractFields (replay voterRecording) (display (voterResponse "Bea"))
        utahVoterTemplate.fields utahVoterTemplate.defaultDisclosure =
      extractFields (replay voterRecording) (display (voterResponse "Ada"))
        utahVoterTemplate.fields utahVoterTemplate.defaultDisclosure := by
  have hreplace : Json.replaceAt (.string "Bea") ["voter", "first"] (voterResponse "Ada") =
      voterResponse "Bea" := by
    simp [voterResponse, Json.replaceAt]
  have hapart : ∀ f ∈ utahVoterTemplate.fields,
      ¬ Json.Comparable ["voter", "first"] (segments f.jsonPath) := by decide +kernel
  exact unlisted_replacement_unread _ _ _ _ _ (voterResponse "Ada") (.string "Bea")
    ["voter", "first"] (voter_parse "Ada" (Or.inl rfl))
    (by rw [hreplace]; exact voter_parse "Bea" (Or.inr rfl)) fun f hf _ => hapart f hf

end ZkTls.ExtractionLaws
