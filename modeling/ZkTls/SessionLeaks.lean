import ZkTls.SessionIsolation

/-!
# Sessions left behind

Which exits of the handler leave its session active, and which leave the
response body in its record. Runs that take none of these exits keep the
store within the work in progress and hold no plaintext after a reply.
-/

set_option autoImplicit false

namespace ZkTls.SessionLeaks
open ZkTls.JsonTree ZkTls.JsonText ZkTls.CoreTypes ZkTls.VerificationTemplates
open ZkTls.FieldExtraction ZkTls.FiniteStore ZkTls.LabelledRun ZkTls.NotarizeResponse
open ZkTls.NotarySessions ZkTls.NotaryMachine ZkTls.NotaryInvariant ZkTls.RecordedPlatform
open ZkTls.SessionLifecycle ZkTls.SessionIsolation

variable {P : Platform} {N : Notary P}

def Stage.running : Stage N → Bool
  | .creating _ => true
  | .live _ _ => true
  | _ => false

def Stage.holding : Stage N → Bool
  | .live _ _ => true
  | _ => false

/-- The handlers that have not returned. -/
def inFlight (s : State N) : Finset ℕ := keysWith Stage.running s.handlers

/-- The handlers in flight that hold a session. -/
def busy (s : State N) : Finset ℕ := keysWith Stage.holding s.handlers

/-- Active sessions are accounted for by work in progress, and creation only
fails under as much of it. -/
structure NoLeak (s : State N) : Prop where
  bounded : activeCount s.store ≤ (inFlight s).card + s.tasks.length
  overload : ∀ targetHostname templateId uuid now e,
    (NotarySessions.create s.store targetHostname templateId uuid now).2 = .error e →
      s.store.maxSessions ≤ (busy s).card + s.tasks.length

/-- A condition on the steps that resume a handler. -/
def EveryResume (ok : ∀ f : Fetch N, Phase f → Input → Prop) (s : State N) : Action → Prop
  | .resume k input => ∀ f p, s.handlers.lookup k = some (.live f p) → ok f p input
  | _ => True

/-- The body a handler is about to judge passes both checks and extracts. -/
def JudgesWell (f : Fetch N) : Phase f → Input → Prop
  | .stored body, .judge _ => ∃ fields, Accepts P f.template f.request.disclosure body fields
  | _, _ => True

/-- And its client builds, and the body of a successful response is
readable. -/
def FetchesWell (f : Fetch N) : Phase f → Input → Prop
  | .jitter, .clientFailed _ => False
  | .reading, .text (.error _) => False
  | p, input => JudgesWell f p input

section Exits
variable (good : ∀ f : Fetch N, Exit f → Prop) (ok : ∀ f : Fetch N, Phase f → Input → Prop)
variable (hok : ∀ (f : Fetch N) (p : Phase f) (input : Input) (w : Option Write) (next : Next f),
  Moves p input w next → (ok f p input ↔ ∀ x, next = .exit x → good f x))
include hok

/-- An exit property that every step of a restricted run ensures. -/
theorem exits_of_run (maxSessions : ℕ) (trace : List (Action × State N)) (s : State N)
    (h : Run (Within (EveryResume ok) (Steps step)) (init N maxSessions) trace s)
    (k : ℕ) (f : Fetch N) (x : Exit f) (hk : s.handlers.lookup k = some (.returned f x)) :
    good f x := by
  refine stages_of_run (fun _ stage => ∀ f x, stage = .returned f x → good f x) ?_ ?_ ?_ ?_
    maxSessions trace s h k _ hk f x rfl
  · rintro k reply f x ⟨⟩
  · rintro k job f x ⟨⟩
  · rintro k f g x ⟨⟩
  · intro s k f p input w next hstep hlive _ hadv g x hx
    cases next with
    | goOn q => cases hx
    | exit y =>
      cases hx
      exact (hok f p input w _ (advance_moves p input w _ hadv)).mp (hstep f p hlive) y rfl

/-- Conversely, a run in which everyone who has returned took a good exit is
restricted. -/
theorem within_of_exits (start : State N) (trace : List (Action × State N)) (s : State N)
    (h : Run (Steps step) start trace s)
    (hgood : ∀ k f x, s.handlers.lookup k = some (.returned f x) → good f x) :
    Run (Within (EveryResume ok) (Steps step)) start trace s := by
  induction h with
  | nil => exact .nil
  | @snoc trace s s' a hrun hstep ih =>
    have hstep' : step s a = some s' := hstep
    -- who has returned before the last step still has after it
    have hbefore : ∀ k f x, s.handlers.lookup k = some (.returned f x) → good f x :=
      fun k f x hk => hgood k f x (step_answered a hstep' k _ hk rfl).2
    refine (ih hbefore).snoc ⟨?_, hstep⟩
    cases step_stepped a hstep' with
    | resume k f p input w next hk hadv =>
      intro g q hg
      cases hk.symm.trans hg
      refine (hok f p input w next (advance_moves p input w next hadv)).mpr ?_
      rintro x rfl
      refine hgood k f x ?_
      rw [resumed_handlers, Finmap.lookup_insert]
      rfl
    | _ => trivial

end Exits

/-- The exits that hand the session to a failure task or complete it. -/
def Exit.closes {f : Fetch N} : Exit f → Prop
  | .fetchFailed _ => True
  | .badStatus _ _ _ => True
  | .completed _ _ _ _ _ => True
  | _ => False

/-- The exits that neither finish the session nor hand it to a failure
task. -/
def Exit.leaks {f : Fetch N} : Exit f → Bool
  | .clientFailed _ => true
  | .unreadable _ => true
  | .rejected _ _ _ _ => true
  | _ => false

theorem leaks_iff {f : Fetch N} (x : Exit f) : Exit.leaks x = true ↔ ¬ Exit.closes x := by
  cases x <;> simp [Exit.leaks, Exit.closes]

def Stage.leaked : Stage N → Bool
  | .returned _ x => Exit.leaks x
  | _ => false

/-- The handlers that returned and left their session active. -/
def leaked (s : State N) : Finset ℕ := keysWith Stage.leaked s.handlers

theorem closes_of_unleaked {s : State N} (h : leaked s = ∅) (k : ℕ) (f : Fetch N)
    (x : Exit f) (hk : s.handlers.lookup k = some (.returned f x)) : Exit.closes x := by
  by_contra hx
  have hmem : k ∈ leaked s := (mem_keysWith _ _ _).mpr ⟨_, hk, (leaks_iff x).mpr hx⟩
  rw [h] at hmem
  exact Finset.notMem_empty k hmem

theorem not_rejected {f : Fetch N} (body : String) (clock : IssueClock) (r : Rejection)
    (h : f.issue body clock = .error r) (fields : ExtractedFields) :
    ¬ Accepts P f.template f.request.disclosure body fields := by
  intro ha
  have hok := (issue_ok N.keypair f.template f.request.disclosure f.sessionId body f.certHash
    clock _ _).mpr ⟨fields, ha, rfl, rfl⟩
  cases hok.symm.trans h

/-- The exits after which the record has no body. -/
def Exit.clears {f : Fetch N} : Exit f → Prop
  | .rejected _ _ _ _ => False
  | _ => True

theorem clears_of_closes {f : Fetch N} (x : Exit f) (h : Exit.closes x) : Exit.clears x := by
  cases x with
  | rejected => exact h
  | _ => trivial

/-- A judged body is accepted exactly when it is not turned down. -/
theorem judgesWell_iff_clears (f : Fetch N) (p : Phase f) (input : Input) (w : Option Write)
    (next : Next f) (h : Moves p input w next) :
    JudgesWell f p input ↔ ∀ x, next = .exit x → Exit.clears x := by
  cases h with
  | rejected body clock r h =>
    refine iff_of_false ?_ fun hx => hx _ rfl
    rintro ⟨fields, ha⟩
    exact not_rejected body clock r h fields ha
  | signed body clock proof attestation h =>
    obtain ⟨fields, ha, -⟩ := (issue_ok _ _ _ _ _ _ _ _ _).mp h
    exact iff_of_true ⟨fields, ha⟩ (by rintro x ⟨⟩)
  | waited _ _ _ hwaits => cases hwaits <;> exact iff_of_true trivial (by rintro x ⟨⟩)
  | started | stored => exact iff_of_true trivial (by rintro x ⟨⟩)
  | _ => exact iff_of_true trivial (by rintro x ⟨⟩; trivial)

theorem fetchesWell_iff_closes (f : Fetch N) (p : Phase f) (input : Input) (w : Option Write)
    (next : Next f) (h : Moves p input w next) :
    FetchesWell f p input ↔ ∀ x, next = .exit x → Exit.closes x := by
  have hjudges := judgesWell_iff_clears f p input w next h
  cases h with
  | clientFailed | unreadable => exact iff_of_false id fun hx => hx _ rfl
  | rejected =>
    exact hjudges.trans (forall_congr' fun x => imp_congr_right (by rintro ⟨⟩; exact Iff.rfl))
  | waited _ _ _ hwaits => cases hwaits <;> exact iff_of_true trivial (by rintro x ⟨⟩)
  | started | stored => exact iff_of_true trivial (by rintro x ⟨⟩)
  | signed => exact iff_of_true (hjudges.mpr (by rintro x ⟨⟩)) (by rintro x ⟨⟩)
  | _ => exact iff_of_true trivial (by rintro x ⟨⟩; trivial)

/-- The work an active session waits for. -/
theorem active_owner {s : State N} (hc : Consistent s)
    (hclosed : ∀ k f x, s.handlers.lookup k = some (.returned f x) → Exit.closes x)
    (id : String) (hid : id ∈ keysWith active s.store.sessions) :
    (∃ k ∈ busy s, ∃ r, expected s k = some r ∧ r.id = id) ∨ id ∈ s.tasks.map Prod.fst := by
  obtain ⟨r, hr, hactive⟩ := (mem_keysWith _ _ _).mp hid
  obtain ⟨hrid, k, hk⟩ := hc.owned id r hr
  obtain ⟨stage, hstage, hrec⟩ := Option.bind_eq_some_iff.mp hk
  cases stage with
  | refused | creating => cases hrec
  | live f p =>
    exact Or.inl ⟨k, (mem_keysWith _ _ _).mpr ⟨_, hstage, rfl⟩, r, hk, hrid⟩
  | returned f x =>
    cases hrec
    rw [exit_record_id] at hrid
    cases hp : pending s.tasks f.sessionId with
    | true =>
      obtain ⟨reason, hmem⟩ := (pending_iff _ _).mp hp
      exact Or.inr (List.mem_map.mpr ⟨_, hmem, hrid⟩)
    | false =>
      -- without a pending task a closing exit has made the session terminal
      rw [hp] at hactive
      have hx := hclosed k f x hstage
      cases x with
      | fetchFailed | badStatus | completed =>
        simp [active, Exit.record, SessionState.terminal] at hactive
      | _ => cases hx

theorem active_bounded {s : State N} (hc : Consistent s)
    (hclosed : ∀ k f x, s.handlers.lookup k = some (.returned f x) → Exit.closes x) :
    activeCount s.store ≤ (busy s).card + s.tasks.length := by
  have hsub : keysWith active s.store.sessions ⊆
      (busy s).image (fun k => ((expected s k).map NotarySession.id).getD "") ∪
        (s.tasks.map Prod.fst).toFinset := by
    intro id hid
    rw [Finset.mem_union, Finset.mem_image, List.mem_toFinset]
    refine (active_owner hc hclosed id hid).imp_left ?_
    rintro ⟨k, hk, r, hr, rfl⟩
    exact ⟨k, hk, by simp [hr]⟩
  calc activeCount s.store
      ≤ ((busy s).image _ ∪ (s.tasks.map Prod.fst).toFinset).card := Finset.card_le_card hsub
    _ ≤ ((busy s).image _).card + (s.tasks.map Prod.fst).toFinset.card :=
        Finset.card_union_le _ _
    _ ≤ (busy s).card + s.tasks.length := by
        refine Nat.add_le_add Finset.card_image_le ((List.toFinset_card_le _).trans ?_)
        rw [List.length_map]

theorem busy_card_le (s : State N) : (busy s).card ≤ (inFlight s).card := by
  refine Finset.card_le_card fun k hk => ?_
  obtain ⟨stage, hstage, hh⟩ := (mem_keysWith _ _ _).mp hk
  refine (mem_keysWith _ _ _).mpr ⟨stage, hstage, ?_⟩
  cases stage <;> simp [Stage.holding] at hh
  rfl

/-- As long as no client fails to build, no successful response is
unreadable and every judged body is accepted, no session leaks. -/
theorem no_leak_of_fetchesWell (N : Notary P) (maxSessions : ℕ)
    (trace : List (Action × State N)) (s : State N)
    (h : Run (Within (EveryResume FetchesWell) (Steps step)) (init N maxSessions) trace s) :
    NoLeak s := by
  have hc := run_consistent N maxSessions trace s h.unrestricted
  have hbound := active_bounded hc (exits_of_run (fun _ => Exit.closes) FetchesWell
    fetchesWell_iff_closes maxSessions trace s h)
  refine ⟨hbound.trans (Nat.add_le_add_right (busy_card_le s) _), ?_⟩
  intro targetHostname templateId uuid now e he
  rw [create_eq] at he
  split at he
  · exact (full_of_room s.store ‹_›).trans hbound
  · cases he

/-- After the reply, and after the failure task if there is one, no record
keeps the response body. -/
def PlaintextGone (s : State N) : Prop :=
  ∀ k f x, s.handlers.lookup k = some (.returned f x) →
    (∀ reason, (f.sessionId, reason) ∉ s.tasks) →
    ∀ r, s.store.sessions.lookup f.sessionId = some r → r.responseBody = none

theorem clears_record {f : Fetch N} (b : Bool) (x : Exit f) (h : Exit.clears x) :
    (x.record b).responseBody = none := by
  cases x with
  | rejected => cases h
  | _ => rfl

/-- As long as every judged body is accepted, plaintext is gone with the
reply. -/
theorem plaintext_gone_of_judgesWell (N : Notary P) (maxSessions : ℕ)
    (trace : List (Action × State N)) (s : State N)
    (h : Run (Within (EveryResume JudgesWell) (Steps step)) (init N maxSessions) trace s) :
    PlaintextGone s := by
  have hc := run_consistent N maxSessions trace s h.unrestricted
  intro k f x hk _ r hr
  have hheld := hc.held k _ (account_stage hk s.tasks)
  rw [exit_record_id] at hheld
  have hx := exits_of_run (fun _ => Exit.clears) JudgesWell judgesWell_iff_clears maxSessions
    trace s h k f x hk
  rcases hheld with h' | ⟨h', -⟩
  · cases h'.symm.trans hr
    exact clears_record _ x hx
  · cases h'.symm.trans hr

/-- A portal that answers with an empty object. -/
def emptyRecording : Recording := { activeRecording with responses := [.object []] }

abbrev emptyNotary : Notary (replay emptyRecording) := shippedNotary emptyRecording

/-- One request, up to the reply that no voter was found. -/
def emptyBodyRun : List Action := voterRun (display (.object []))

def census (s : State N) : ℕ × ℕ × ℕ × ℕ :=
  (s.store.maxSessions, activeCount s.store, (inFlight s).card, s.tasks.length)

def turnedDown (s : State N) (k : ℕ) : Option (ℕ × String) :=
  match s.handlers.lookup k with
  | some (.refused reply) => some (reply.status, reply.error)
  | _ => none

/-- A store of one session is closed for good by one voter who was not
found: nothing is in progress, and the next request is turned down. -/
theorem empty_body_leaks :
    ∃ trace s, Run (Steps step) (init emptyNotary 1) trace s ∧
      census s = (1, 1, 0, 0) ∧
      turnedDown s 1 = some (503, "max concurrent sessions (1) reached") ∧ ¬ NoLeak s := by
  obtain ⟨trace, s, hrun, -, hobs⟩ := observed_run step
    (emptyBodyRun ++ [.request 1 ⟨"utah-voter-v1", none, none⟩,
      .create 1 secondId noon.proofTime])
    (init emptyNotary 1) (fun s => (census s, turnedDown s 1))
    ((1, 1, 0, 0), some (503, "max concurrent sessions (1) reached")) (by decide +kernel)
  rw [Prod.mk.injEq] at hobs
  refine ⟨trace, s, hrun, hobs.1, hobs.2, fun h => ?_⟩
  have hb := h.bounded
  simp only [census, Prod.mk.injEq] at hobs
  omega

/-- One request, up to its proof. -/
def completedRun : List Action := voterRun activeText ++ [.resume 0 .proceed]

/-- A voter who is found completes the only session there is room for. -/
theorem completed_no_leak :
    ∃ trace s, Run (Steps step) (init (shippedNotary activeRecording) 1) trace s ∧
      trace.map Prod.fst = completedRun ∧ census s = (1, 0, 0, 0) ∧ NoLeak s := by
  obtain ⟨trace, s, hrun, hmap, hobs⟩ := observed_run step completedRun
    (init (shippedNotary activeRecording) 1) (fun s => (census s, leaked s))
    ((1, 0, 0, 0), ∅) (by decide +kernel)
  rw [Prod.mk.injEq] at hobs
  have hwell := within_of_exits (fun _ => Exit.closes) FetchesWell fetchesWell_iff_closes _
    trace s hrun (closes_of_unleaked hobs.2)
  exact ⟨trace, s, hrun, hmap, hobs.1,
    no_leak_of_fetchesWell (shippedNotary activeRecording) 1 trace s hwell⟩

/-- The session of a returned handler. -/
def returnedId (s : State N) (k : ℕ) : Option String :=
  match s.handlers.lookup k with
  | some (.returned f _) => some f.sessionId
  | _ => none

/-- The empty response of a voter who was not found stays in the store. -/
theorem empty_body_retained :
    ∃ trace s, Run (Steps step) (init emptyNotary 1) trace s ∧
      (s.store.sessions.lookup firstId).bind NotarySession.responseBody =
        some (display (.object [])) ∧ ¬ PlaintextGone s := by
  obtain ⟨trace, s, hrun, -, hobs⟩ := observed_run step emptyBodyRun (init emptyNotary 1)
    (fun s => (returnedId s 0, s.tasks,
      (s.store.sessions.lookup firstId).bind NotarySession.responseBody))
    (some firstId, [], some (display (.object []))) (by decide +kernel)
  simp only [Prod.mk.injEq] at hobs
  obtain ⟨hid, htasks, hbody⟩ := hobs
  refine ⟨trace, s, hrun, hbody, fun hgone => ?_⟩
  obtain ⟨r, hr, hrb⟩ := Option.bind_eq_some_iff.mp hbody
  unfold returnedId at hid
  split at hid
  · rename_i f x hk
    have hnone := hgone 0 f x hk (by simp [htasks]) r (by rwa [Option.some.inj hid])
    rw [hnone] at hrb
    cases hrb
  · cases hid

/-- What the record of a session keeps of the response. -/
def keptBody (s : State N) (id : String) : Option (Option String) :=
  (s.store.sessions.lookup id).map NotarySession.responseBody

/-- A body that is read, stored, judged and accepted, and cleared with the
proof. -/
theorem stored_body_cleared :
    ∃ trace s t, Run (Steps step) (init (shippedNotary activeRecording) 1) trace s ∧
      keptBody s firstId = some (some activeText) ∧ step s (.resume 0 .proceed) = some t ∧
      returnedId t 0 = some firstId ∧ keptBody t firstId = some none ∧ PlaintextGone t := by
  obtain ⟨trace, s, hrun, -, hobs⟩ := observed_run step (voterRun activeText)
    (init (shippedNotary activeRecording) 1)
    (fun s => (keptBody s firstId, (step s (.resume 0 .proceed)).map fun t =>
      (returnedId t 0, keptBody t firstId, (leaked t).card)))
    (some (some activeText), some (some firstId, some none, 0)) (by decide +kernel)
  rw [Prod.mk.injEq] at hobs
  obtain ⟨hbody, hnext⟩ := hobs
  obtain ⟨t, hstep, ht⟩ := Option.map_eq_some_iff.mp hnext
  simp only [Prod.mk.injEq] at ht
  obtain ⟨hid, hcleared, hleaked⟩ := ht
  have hwell := within_of_exits (fun _ => Exit.clears) JudgesWell judgesWell_iff_clears _ _ t
    (hrun.snoc hstep) fun k f x hk => clears_of_closes x
      (closes_of_unleaked (Finset.card_eq_zero.mp hleaked) k f x hk)
  exact ⟨trace, s, t, hrun, hbody, hstep, hid, hcleared,
    plaintext_gone_of_judgesWell (shippedNotary activeRecording) 1 _ t hwell⟩

end ZkTls.SessionLeaks
