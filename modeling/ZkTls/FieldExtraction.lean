import ZkTls.JsonText
import ZkTls.VerificationTemplates

/-!
# Field extraction

The loop of the extractor over the field definitions, with its two
accumulators and its early return. What it returns is read off the field
list: the last shown field of a name supplies that name's value, and every
redacted field that resolves supplies one commitment, in order.
-/

set_option autoImplicit false

namespace ZkTls.FieldExtraction
open ZkTls.JsonTree ZkTls.JsonText ZkTls.CoreTypes ZkTls.VerificationTemplates

inductive NotaryError where
  | tooManySessions (max : ℕ)
  | sessionNotFound (id : String)
  | extractionFailed (msg : String)
  deriving DecidableEq

/-- The display form of an error. -/
def NotaryError.toString : NotaryError → String
  | .tooManySessions max => "max concurrent sessions (" ++ max.repr ++ ") reached"
  | .sessionNotFound id => "session not found: " ++ id
  | .extractionFailed msg => "field extraction failed: " ++ msg

/-- The segments of a dot-separated path. -/
def segments (path : String) : List String :=
  (path.toList.splitOn '.').map String.ofList

def navigateJsonPath (root : Json) (path : String) : Option Json :=
  (segments path).foldlM Json.get root

abbrev ExtractedFields := FieldMap × List Bytes

def hashInput (path : String) (v : Json) : String := path ++ ":" ++ display v

def missingField (field : FieldDefinition) : NotaryError :=
  .extractionFailed ("required field '" ++ field.name ++ "' not found at path '" ++
    field.jsonPath ++ "'")

/-- One round of the loop. -/
def extractField (P : Platform) (json : Json) (disclosure : DisclosureMask)
    (acc : ExtractedFields) (field : FieldDefinition) : Except NotaryError ExtractedFields :=
  let value := navigateJsonPath json field.jsonPath
  if field.jsonPath ∈ disclosure.disclosedPaths then
    match value with
    | some v => .ok (acc.1.insert field.name v, acc.2)
    | none =>
      if field.required then .error (missingField field)
      else .ok (acc.1.insert field.name .null, acc.2)
  else if field.jsonPath ∈ disclosure.redactedPaths then
    match value with
    | some v => .ok (acc.1, acc.2 ++ [sha512Hash P (asBytes (hashInput field.jsonPath v))])
    | none => .ok acc
  else .ok acc

/-- The loop over an already parsed response. -/
def extractFrom (P : Platform) (json : Json) (fields : List FieldDefinition)
    (disclosure : DisclosureMask) : Except NotaryError ExtractedFields :=
  fields.foldlM (extractField P json disclosure) (∅, [])

def extractFields (P : Platform) (responseBody : String) (fields : List FieldDefinition)
    (disclosure : DisclosureMask) : Except NotaryError ExtractedFields :=
  match P.fromStr responseBody with
  | .error e => .error (.extractionFailed ("invalid JSON: " ++ e))
  | .ok json => extractFrom P json fields disclosure

variable (P : Platform) (json : Json) (disclosure : DisclosureMask)

theorem navigate_eq (root : Json) (path : String) :
    navigateJsonPath root path = Json.lookupPath (segments path) root :=
  Json.foldlM_get _ _

theorem segments_ne_nil (path : String) : segments path ≠ [] := by
  simp [segments, List.splitOn_ne_nil]

/-- A field the loop puts into the disclosed map. -/
def Shown (field : FieldDefinition) : Prop := field.jsonPath ∈ disclosure.disclosedPaths

/-- A field the loop commits to, when its path resolves. -/
def Hidden (field : FieldDefinition) : Prop :=
  field.jsonPath ∉ disclosure.disclosedPaths ∧ field.jsonPath ∈ disclosure.redactedPaths

instance (field : FieldDefinition) : Decidable (Shown disclosure field) :=
  inferInstanceAs (Decidable (_ ∈ _))

instance (field : FieldDefinition) : Decidable (Hidden disclosure field) :=
  inferInstanceAs (Decidable (_ ∧ _))

/-- The early return: a required shown field that does not resolve. -/
def Missing (field : FieldDefinition) : Prop :=
  Shown disclosure field ∧ field.required = true ∧
    navigateJsonPath json field.jsonPath = none

/-- The value a shown field contributes. -/
def shownValue (field : FieldDefinition) : Json :=
  (navigateJsonPath json field.jsonPath).getD .null

/-- The commitments a field contributes, at most one. -/
def commitments (field : FieldDefinition) : List Bytes :=
  if Hidden disclosure field then
    ((navigateJsonPath json field.jsonPath).map fun v =>
      sha512Hash P (asBytes (hashInput field.jsonPath v))).toList
  else []

/-- The last shown field of a name, whose value the map keeps. -/
def lastShown (fields : List FieldDefinition) (name : String) : Option FieldDefinition :=
  (fields.filter fun f => Shown disclosure f ∧ f.name = name).getLast?

/-- One round fails on a missing field and otherwise only adds. -/
theorem extractField_eq (acc : ExtractedFields) (field : FieldDefinition) :
    (Missing json disclosure field ∧
      extractField P json disclosure acc field = .error (missingField field)) ∨
    (¬ Missing json disclosure field ∧
      extractField P json disclosure acc field =
        .ok (if Shown disclosure field then acc.1.insert field.name (shownValue json field)
             else acc.1,
          acc.2 ++ commitments P json disclosure field)) := by
  unfold extractField Missing commitments shownValue
  by_cases hs : field.jsonPath ∈ disclosure.disclosedPaths
  · cases hv : navigateJsonPath json field.jsonPath with
    | some v => simp [hs, Shown, Hidden]
    | none => cases hr : field.required <;> simp [hs, Shown, Hidden]
  · by_cases hh : field.jsonPath ∈ disclosure.redactedPaths
    · cases hv : navigateJsonPath json field.jsonPath <;> simp [hs, hh, Shown, Hidden]
    · simp [hs, hh, Shown, Hidden]

theorem lastShown_cons (f : FieldDefinition) (fields : List FieldDefinition)
    (name : String) :
    lastShown disclosure (f :: fields) name =
      (lastShown disclosure fields name).or
        (if Shown disclosure f ∧ f.name = name then some f else none) := by
  simp only [lastShown, List.filter_cons, decide_eq_true_eq]
  split
  · rw [List.getLast?_cons]
    cases (fields.filter _).getLast? <;> rfl
  · rw [Option.or_none]

theorem lastShown_some {fields : List FieldDefinition} {name : String}
    {f : FieldDefinition} (h : lastShown disclosure fields name = some f) :
    f ∈ fields ∧ Shown disclosure f ∧ f.name = name := by
  simpa using List.mem_of_getLast? h

/-- The loop invariant. A successful loop met no missing field; the map it
returns answers a name from its last shown field, else from the map it
started with, and the commitments follow those it started with. -/
theorem extract_loop (fields : List FieldDefinition) (acc out : ExtractedFields) :
    fields.foldlM (extractField P json disclosure) acc = .ok out ↔
      (∀ f ∈ fields, ¬ Missing json disclosure f) ∧
      (∀ name, out.1.lookup name =
        ((lastShown disclosure fields name).map (shownValue json)).or
          (acc.1.lookup name)) ∧
      out.2 = acc.2 ++ fields.flatMap (commitments P json disclosure) := by
  induction fields generalizing acc with
  | nil =>
    constructor
    · intro h
      cases h
      simp [lastShown]
    · rintro ⟨-, hmap, hlist⟩
      have hm : out.1 = acc.1 := Finmap.ext_lookup (by simpa [lastShown] using hmap)
      have hl : out.2 = acc.2 := by simpa using hlist
      exact congrArg Except.ok (Prod.ext hm hl).symm
  | cons f fields ih =>
    rw [List.foldlM_cons]
    rcases extractField_eq P json disclosure acc f with ⟨hm, he⟩ | ⟨hm, he⟩
    · rw [he]
      constructor
      · intro h
        cases h
      · rintro ⟨hall, -⟩
        exact absurd hm (hall f (by simp))
    · rw [he]
      refine (ih _).trans ?_
      rw [List.forall_mem_cons, List.flatMap_cons, List.append_assoc]
      refine and_congr (by simp [hm]) (and_congr (forall_congr' fun name => ?_) Iff.rfl)
      rw [lastShown_cons]
      -- a later namesake wins; otherwise the round's own insertion is read
      cases lastShown disclosure fields name with
      | some g => simp
      | none =>
        by_cases hs : Shown disclosure f
        · by_cases hn : f.name = name
          · simp [hs, hn]
          · simp [hs, hn, Finmap.lookup_insert_of_ne _ (Ne.symm hn)]
        · simp [hs]

/-- The extractor on a parsed response: when it succeeds and with what. -/
theorem extractFrom_ok (fields : List FieldDefinition) (out : ExtractedFields) :
    extractFrom P json fields disclosure = .ok out ↔
      (∀ f ∈ fields, ¬ Missing json disclosure f) ∧
      (∀ name, out.1.lookup name =
        (lastShown disclosure fields name).map (shownValue json)) ∧
      out.2 = fields.flatMap (commitments P json disclosure) := by
  rw [extractFrom, extract_loop]
  simp

/-- Without a missing field the loop runs to its end. -/
theorem extractFrom_total (fields : List FieldDefinition)
    (h : ∀ f ∈ fields, ¬ Missing json disclosure f) :
    ∃ out, extractFrom P json fields disclosure = .ok out := by
  have total : ∀ acc, ∃ out, fields.foldlM (extractField P json disclosure) acc = .ok out := by
    induction fields with
    | nil => exact fun acc => ⟨acc, rfl⟩
    | cons f fields ih =>
      intro acc
      rw [List.forall_mem_cons] at h
      obtain ⟨hm, -⟩ | ⟨-, he⟩ := extractField_eq P json disclosure acc f
      · exact absurd hm h.1
      · rw [List.foldlM_cons, he]
        exact ih h.2 _
  exact total _

theorem extractFields_ok (body : String) (fields : List FieldDefinition)
    (out : ExtractedFields) :
    extractFields P body fields disclosure = .ok out ↔
      ∃ v, P.fromStr body = .ok v ∧ extractFrom P v fields disclosure = .ok out := by
  unfold extractFields
  cases P.fromStr body <;> simp

end ZkTls.FieldExtraction
