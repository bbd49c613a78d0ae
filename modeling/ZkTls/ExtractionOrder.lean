import ZkTls.ExtractionLaws

/-!
# Rearranged templates and masks

The extraction loop runs through the fields in the order of the template and
looks paths up in the mask by membership. What it returns depends on neither
order, as long as shown fields of one name supply one value.
-/

set_option autoImplicit false

namespace ZkTls.ExtractionOrder
open ZkTls.JsonTree ZkTls.CoreTypes ZkTls.VerificationTemplates ZkTls.FieldExtraction
open ZkTls.ExtractionLaws

variable (P : Platform) (fields : List FieldDefinition) (mask : DisclosureMask)

/-- Masks that treat every path alike. A disclosed path may be redacted as
well, to no effect. -/
structure SameMask (mask mask' : DisclosureMask) : Prop where
  disclosed : ∀ p, p ∈ mask.disclosedPaths ↔ p ∈ mask'.disclosedPaths
  redacted : ∀ p, p ∉ mask.disclosedPaths → (p ∈ mask.redactedPaths ↔ p ∈ mask'.redactedPaths)

theorem extractField_sameMask {mask mask' : DisclosureMask} (h : SameMask mask mask')
    (json : Json) (acc : ExtractedFields) (f : FieldDefinition) :
    extractField P json mask acc f = extractField P json mask' acc f := by
  unfold extractField
  by_cases hs : f.jsonPath ∈ mask.disclosedPaths
  · have hs' := (h.disclosed f.jsonPath).mp hs
    simp only [hs, hs', if_true]
  · have hs' : f.jsonPath ∉ mask'.disclosedPaths := fun hs' => hs ((h.disclosed _).mpr hs')
    by_cases hh : f.jsonPath ∈ mask.redactedPaths
    · have hh' := (h.redacted _ hs).mp hh
      simp only [hs, hs', hh, hh', if_true, if_false]
    · have hh' : f.jsonPath ∉ mask'.redactedPaths := fun hh' => hh ((h.redacted _ hs).mpr hh')
      simp only [hs, hs', hh, hh', if_false]

theorem extractFrom_sameMask {mask mask' : DisclosureMask} (h : SameMask mask mask')
    (json : Json) : extractFrom P json fields mask = extractFrom P json fields mask' := by
  have hstep : extractField P json mask = extractField P json mask' := by
    funext acc f
    exact extractField_sameMask P h json acc f
  rw [extractFrom, extractFrom, hstep]

/-- A failing loop names the first missing field. -/
theorem extractFrom_first (json : Json) (e : NotaryError)
    (h : extractFrom P json fields mask = .error e) :
    ∃ before f after, fields = before ++ f :: after ∧
      (∀ g ∈ before, ¬ Missing json mask g) ∧ Missing json mask f ∧ e = missingField f := by
  have run : ∀ acc, fields.foldlM (extractField P json mask) acc = .error e →
      ∃ before f after, fields = before ++ f :: after ∧
        (∀ g ∈ before, ¬ Missing json mask g) ∧ Missing json mask f ∧ e = missingField f := by
    clear h
    induction fields with
    | nil =>
      intro acc h
      cases h
    | cons f fields ih =>
      intro acc h
      rw [List.foldlM_cons] at h
      rcases extractField_eq P json mask acc f with ⟨hm, he⟩ | ⟨hm, he⟩
      · rw [he] at h
        exact ⟨[], f, fields, rfl, List.forall_mem_nil _, hm, (Except.error.inj h).symm⟩
      · rw [he] at h
        obtain ⟨before, g, after, rfl, hbefore, hg⟩ := ih _ h
        exact ⟨f :: before, g, after, rfl, List.forall_mem_cons.mpr ⟨hm, hbefore⟩, hg⟩
  exact run _ h

theorem lastShown_none (name : String) :
    lastShown mask fields name = none ↔ ∀ f ∈ fields, Shown mask f → f.name ≠ name := by
  rw [lastShown, List.getLast?_eq_none_iff, List.filter_eq_nil_iff]
  apply forall_congr'
  intro f
  simp

/-- A shown field that comes last has the name to itself. -/
theorem lastShown_last (rest : List FieldDefinition) (f : FieldDefinition)
    (hs : Shown mask f) : lastShown mask (rest ++ [f]) f.name = some f := by
  rw [lastShown, List.filter_append]
  simp [hs]

/-- Every field can be moved to the end. -/
theorem perm_last (f : FieldDefinition) (hf : f ∈ fields) :
    ∃ rest, fields.Perm (rest ++ [f]) := by
  obtain ⟨before, after, rfl⟩ := List.append_of_mem hf
  refine ⟨before ++ after, ?_⟩
  exact List.perm_middle.trans (List.perm_append_singleton f (before ++ after)).symm

/-- Results that differ in the order of the commitments, or in which missing
field is named. -/
inductive SameOutcome : Except NotaryError ExtractedFields →
    Except NotaryError ExtractedFields → Prop
  | unparsed (e : String) :
      SameOutcome (.error (.extractionFailed ("invalid JSON: " ++ e)))
        (.error (.extractionFailed ("invalid JSON: " ++ e)))
  | missing (f f' : FieldDefinition) (hf : f ∈ fields) (hf' : f' ∈ fields)
      (hrequired : f.required = true) (hrequired' : f'.required = true) :
      SameOutcome (.error (missingField f)) (.error (missingField f'))
  | extracted (shown : FieldMap) (hashes hashes' : List Bytes) (h : hashes.Perm hashes') :
      SameOutcome (.ok (shown, hashes)) (.ok (shown, hashes'))

/-- Neither the order of the fields nor that of the mask's paths matters. -/
def OrderFree (body : String) : Prop :=
  ∀ fields', fields.Perm fields' → ∀ mask', SameMask mask mask' →
    SameOutcome fields (extractFields P body fields mask) (extractFields P body fields' mask')

theorem missing_perm {fields fields' : List FieldDefinition} (hperm : fields.Perm fields')
    (json : Json) (h : ∃ f ∈ fields, Missing json mask f) :
    SameOutcome fields (extractFrom P json fields mask) (extractFrom P json fields' mask) := by
  obtain ⟨f, hf, hmissing⟩ := h
  obtain ⟨e, he⟩ := (extractFrom_error P fields mask json).mpr ⟨f, hf, hmissing⟩
  obtain ⟨e', he'⟩ := (extractFrom_error P fields' mask json).mpr
    ⟨f, hperm.mem_iff.mp hf, hmissing⟩
  obtain ⟨before, g, after, hsplit, -, hg, rfl⟩ := extractFrom_first P fields mask json e he
  obtain ⟨before', g', after', hsplit', -, hg', rfl⟩ :=
    extractFrom_first P fields' mask json e' he'
  have hmem : g ∈ fields := by
    rw [hsplit]
    exact List.mem_append_right _ List.mem_cons_self
  have hmem' : g' ∈ fields := by
    rw [hperm.mem_iff, hsplit']
    exact List.mem_append_right _ List.mem_cons_self
  rw [he, he']
  exact .missing g g' hmem hmem' hg.2.1 hg'.2.1

/-- Where names agree, the last shown field of a name supplies the same value
in every order. -/
theorem lastShown_perm {fields fields' : List FieldDefinition} (hperm : fields.Perm fields')
    (json : Json) (hagree : NamesAgree fields mask json) (name : String) :
    (lastShown mask fields name).map (shownValue json) =
      (lastShown mask fields' name).map (shownValue json) := by
  cases hl : lastShown mask fields name with
  | none =>
    have hl' : lastShown mask fields' name = none := by
      rw [lastShown_none] at hl ⊢
      exact fun f hf => hl f (hperm.mem_iff.mpr hf)
    rw [hl']
  | some f =>
    obtain ⟨hf, hs, hname⟩ := lastShown_some mask hl
    cases hl' : lastShown mask fields' name with
    | none =>
      rw [lastShown_none] at hl'
      exact absurd hname (hl' f (hperm.mem_iff.mp hf) hs)
    | some g =>
      obtain ⟨hg, hsg, hgname⟩ := lastShown_some mask hl'
      rw [Option.map_some, Option.map_some,
        hagree f hf g (hperm.mem_iff.mpr hg) hs hsg (hname.trans hgname.symm)]

theorem extracted_perm {fields fields' : List FieldDefinition} (hperm : fields.Perm fields')
    (json : Json) (hnone : ∀ f ∈ fields, ¬ Missing json mask f)
    (hagree : NamesAgree fields mask json) :
    SameOutcome fields (extractFrom P json fields mask) (extractFrom P json fields' mask) := by
  obtain ⟨out, hout⟩ := extractFrom_total P json mask fields hnone
  obtain ⟨out', hout'⟩ := extractFrom_total P json mask fields'
    fun f hf => hnone f (hperm.mem_iff.mpr hf)
  obtain ⟨-, hmap, hhashes⟩ := (extractFrom_ok P json mask fields out).mp hout
  obtain ⟨-, hmap', hhashes'⟩ := (extractFrom_ok P json mask fields' out').mp hout'
  have hshown : out.1 = out'.1 := by
    apply Finmap.ext_lookup
    intro name
    rw [hmap, hmap', lastShown_perm mask hperm json hagree]
  rw [hout, hout', show out' = (out.1, out'.2) from Prod.ext hshown.symm rfl]
  apply SameOutcome.extracted
  rw [hhashes, hhashes']
  exact hperm.flatMap_right _

/-- A free order puts any shown field last, so the map answers with its
value. -/
theorem shown_of_orderFree (body : String) (json : Json) (hjson : P.fromStr body = .ok json)
    (h : OrderFree P fields mask body) (out : ExtractedFields)
    (hout : extractFields P body fields mask = .ok out) (f : FieldDefinition) (hf : f ∈ fields)
    (hs : Shown mask f) : out.1.lookup f.name = some (shownValue json f) := by
  obtain ⟨rest, hperm⟩ := perm_last fields f hf
  have hsame := h (rest ++ [f]) hperm mask ⟨fun _ => Iff.rfl, fun _ _ => Iff.rfl⟩
  rw [hout, extractFields_parsed P _ mask body json hjson] at hsame
  generalize hout' : extractFrom P json (rest ++ [f]) mask = result at hsame
  cases hsame with
  | extracted shown hashes hashes' hhashes =>
    have hmap := ((extractFrom_ok P json mask _ _).mp hout').2.1
    rw [hmap, lastShown_last mask rest f hs, Option.map_some]

/-- The order of fields and paths matters exactly when an extraction succeeds
with two shown fields of one name and two values. -/
theorem orderFree_iff_namesAgree (body : String) :
    OrderFree P fields mask body ↔ ∀ json, P.fromStr body = .ok json →
      (∃ f ∈ fields, Missing json mask f) ∨ NamesAgree fields mask json := by
  constructor
  · intro h json hjson
    by_cases hmissing : ∃ f ∈ fields, Missing json mask f
    · exact Or.inl hmissing
    · obtain ⟨out, hout⟩ := extractFrom_total P json mask fields
        fun f hf hm => hmissing ⟨f, hf, hm⟩
      have hfields := (extractFields_parsed P fields mask body json hjson).trans hout
      apply Or.inr
      intro f hf g hg hsf hsg hname
      have hvalue := shown_of_orderFree P fields mask body json hjson h out hfields f hf hsf
      rw [hname, shown_of_orderFree P fields mask body json hjson h out hfields g hg hsg] at hvalue
      exact (Option.some.inj hvalue).symm
  · intro h fields' hperm mask' hmask
    cases hjson : P.fromStr body with
    | error e =>
      simp only [extractFields, hjson]
      exact .unparsed e
    | ok json =>
      rw [extractFields_parsed P fields mask body json hjson,
        extractFields_parsed P fields' mask' body json hjson,
        ← extractFrom_sameMask P fields' hmask]
      by_cases hmissing : ∃ f ∈ fields, Missing json mask f
      · exact missing_perm P mask hperm json hmissing
      · have hagree := (h json hjson).resolve_left hmissing
        exact extracted_perm P mask hperm json (fun f hf hm => hmissing ⟨f, hf, hm⟩) hagree

end ZkTls.ExtractionOrder
