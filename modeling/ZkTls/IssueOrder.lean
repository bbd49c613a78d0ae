import ZkTls.HandlerProgress
import ZkTls.ProofAttribution

/-!
# The order of issue

The machine under a clock that never goes back. Steps take effect one after
the other, but handlers run in parallel: what a handler reads off the clock
lies between two steps of its own, whatever the others read meanwhile. Every
reply is dated in order, and whatever is signed after it was given outlasts
it.
-/

set_option autoImplicit false

namespace ZkTls.IssueOrder
open ZkTls.CoreTypes ZkTls.FiniteStore ZkTls.LabelledRun ZkTls.SessionProofs
open ZkTls.NotarizeResponse ZkTls.NotaryMachine ZkTls.NotaryInvariant ZkTls.ProofVerifier
open ZkTls.SessionLifecycle ZkTls.SessionIsolation ZkTls.ProofAttribution
open ZkTls.RecordedPlatform ZkTls.HandlerProgress

variable {P : Platform} {N : Notary P}

/-- The machine with the time, and the last instant of each handler. -/
structure Clocked (N : Notary P) where
  notary : State N
  now : DateTime
  since : Store ℕ DateTime

def clockStart (N : Notary P) (maxSessions : ℕ) (boot : DateTime) : Clocked N :=
  ⟨init N maxSessions, boot, ∅⟩

/-- The instants that a step adds to a handler, in their order. A session is
dated under the lock that creates it, while a proof and an attestation are
dated after the store update of their step. Where nothing is signed the
readings stand for nothing. -/
def instants (a : Action) (effect : DateTime) : List DateTime :=
  match a with
  | .create _ _ now => [now, effect]
  | .resume _ (.judge clock) => [effect, clock.proofTime, clock.createdTime, clock.expiryBase]
  | _ => [effect]

def lastInstant (a : Action) (effect : DateTime) : DateTime :=
  match a with
  | .resume _ (.judge clock) => clock.expiryBase
  | _ => effect

def sinceLast (t : Clocked N) (a : Action) : List DateTime :=
  ((Action.handler a).bind fun k => t.since.lookup k).toList

/-- One step, and the instant at which it takes effect. -/
def clockedStep (t : Clocked N) (e : Action × DateTime) : Option (Clocked N) :=
  if t.now ≤ e.2 ∧ (sinceLast t e.1 ++ instants e.1 e.2).Pairwise (· ≤ ·) then
    (step t.notary e.1).map fun s =>
      { notary := s
        now := e.2
        since := (Action.handler e.1).elim t.since fun k =>
          t.since.insert k (lastInstant e.1 e.2) }
  else none

/-- The session, the readings and the proof of a handler that has signed. -/
def Stage.issuance : Stage N → Option (Fetch N × IssueClock × SessionProof)
  | .live f (.signed _ clock proof _ _) => some (f, clock, proof)
  | .returned f (.completed _ clock proof _ _) => some (f, clock, proof)
  | _ => none

/-- The instants of one signature in their order. -/
structure Ordered (f : Fetch N) (clock : IssueClock) (proof : SessionProof) : Prop where
  instant : proof.sessionTimestamp = clock.proofTime
  opened : f.createdAt ≤ clock.proofTime
  attested : clock.proofTime ≤ clock.createdTime
  expiry : clock.createdTime ≤ clock.expiryBase

/-- What the clock has to do with one handler. -/
structure Timely (t : Clocked N) (k : ℕ) (stage : Stage N) : Prop where
  reached : ∃ last, t.since.lookup k = some last ∧
    (∀ f, Stage.fetch stage = some f → f.createdAt ≤ last) ∧
    ∀ e, Stage.issuance stage = some e → e.2.1.expiryBase ≤ last
  ordered : ∀ f clock proof, Stage.issuance stage = some (f, clock, proof) →
    Ordered f clock proof
  given : ∀ f x e, stage = .returned f x → Stage.issuance stage = some e →
    e.2.1.expiryBase ≤ t.now

theorem unissued_of_sessionless (stage : Stage N) (h : Stage.fetch stage = none) :
    Stage.issuance stage = none := by
  cases stage with
  | refused | creating => rfl
  | live f p | returned f x => cases h

theorem waiting_unissued {f : Fetch N} (p : Phase f) (h : Waiting p) :
    Stage.issuance (.live f p) = none := by
  cases p with
  | created | stored | signed => cases h
  | _ => rfl

/-- What a clocked step is, in parts. -/
theorem clockedStep_cases {t t' : Clocked N} {a : Action} {effect : DateTime}
    (h : clockedStep t (a, effect) = some t') :
    step t.notary a = some t'.notary ∧ t'.now = effect ∧ t.now ≤ effect ∧
      (sinceLast t a ++ instants a effect).Pairwise (· ≤ ·) ∧
      t'.since = (Action.handler a).elim t.since fun k =>
        t.since.insert k (lastInstant a effect) := by
  unfold clockedStep at h
  split at h
  · rename_i hclock
    obtain ⟨s, hs, rfl⟩ := Option.map_eq_some_iff.mp h
    exact ⟨hs, rfl, hclock.1, hclock.2, rfl⟩
  · cases h

/-- What a step of its own makes of a handler. -/
inductive OwnStep (s : State N) (k : ℕ) : Action → Stage N → Prop
  | sessionless (a : Action) (stage : Stage N) (h : Stage.fetch stage = none) : OwnStep s k a stage
  | opened (f : Fetch N) : OwnStep s k (.create k f.sessionId f.createdAt) (.live f .created)
  | resumed (f : Fetch N) (p : Phase f) (input : Input) (w : Option Write) (next : Next f)
      (hk : s.handlers.lookup k = some (.live f p)) (hmoves : Moves p input w next) :
      OwnStep s k (.resume k input) next.stage

theorem own_step {s s' : State N} {a : Action} (h : step s a = some s') {k : ℕ}
    (hown : Action.handler a = some k) (stage : Stage N)
    (hk : s'.handlers.lookup k = some stage) : OwnStep s k a stage := by
  cases step_stepped a h with
  | request j req =>
    cases hown
    rw [State.arrived, Finmap.lookup_insert] at hk
    cases hk
    refine .sessionless _ _ ?_
    rcases arrival_cases (N := N) req with ⟨reply, hr⟩ | ⟨job, hr⟩
    · rw [hr]; rfl
    · rw [hr]; rfl
  | overload j =>
    cases hown
    rw [State.overloaded, Finmap.lookup_insert] at hk
    cases hk
    exact .sessionless _ _ rfl
  | create j f =>
    cases hown
    rw [State.opened, Finmap.lookup_insert] at hk
    cases hk
    exact .opened f
  | resume j f p input w next hj hadv =>
    cases hown
    rw [resumed_handlers, Finmap.lookup_insert] at hk
    cases hk
    exact .resumed f p input w next hj (advance_moves p input w next hadv)
  | runTask | getSession => cases hown

/-- A step of one handler leaves the others and their instants alone. -/
theorem clockedStep_frame {t t' : Clocked N} {a : Action} {effect : DateTime}
    (h : clockedStep t (a, effect) = some t') (k : ℕ) (hk : Action.handler a ≠ some k) :
    t'.notary.handlers.lookup k = t.notary.handlers.lookup k ∧
      t'.since.lookup k = t.since.lookup k := by
  obtain ⟨hs, -, -, -, hsince⟩ := clockedStep_cases h
  refine ⟨handler_frame a hs k hk, ?_⟩
  rw [hsince]
  cases ha : Action.handler a with
  | none => rfl
  | some j =>
    rw [ha] at hk
    exact Finmap.lookup_insert_of_ne _ fun hkj => hk (congrArg some hkj.symm)

/-- Without its clock a clocked run is a run of the notary. -/
theorem notary_of_clocked (maxSessions : ℕ) (boot : DateTime)
    (trace : List ((Action × DateTime) × Clocked N)) (t : Clocked N)
    (h : Run (Steps clockedStep) (clockStart N maxSessions boot) trace t) :
    Run (Steps step) (init N maxSessions) (trace.map fun e => (e.1.1, e.2.notary)) t.notary :=
  h.project Clocked.notary Prod.fst fun _ _ _ hs => (clockedStep_cases hs).1

section Own
variable {t t' : Clocked N} {k : ℕ} {stage : Stage N}

theorem Timely.frame (h : Timely t k stage) (hsince : t'.since.lookup k = t.since.lookup k)
    (hnow : t.now ≤ t'.now) : Timely t' k stage where
  reached := by
    rw [hsince]
    exact h.reached
  ordered := h.ordered
  given f x e hx he := (h.given f x e hx he).trans hnow

/-- A handler that has signed nothing. -/
theorem timely_unissued (hstage : Stage.issuance stage = none) (last : DateTime)
    (hsince : t'.since.lookup k = some last)
    (hopened : ∀ f, Stage.fetch stage = some f → f.createdAt ≤ last) : Timely t' k stage where
  reached := ⟨last, hsince, hopened, fun e he => by cases hstage.symm.trans he⟩
  ordered f clock proof he := by cases hstage.symm.trans he
  given f x e _ he := by cases hstage.symm.trans he

variable {f : Fetch N} {p : Phase f} {input : Input} {w : Option Write} {next : Next f}

/-- A handler is resumed: the instants of the step follow all before. -/
theorem resumed_timely (h : Timely t k (.live f p)) (hmoves : Moves p input w next)
    (effect : DateTime)
    (hclock : (sinceLast t (.resume k input) ++ instants (.resume k input) effect).Pairwise
      (· ≤ ·))
    (hnow : t'.now = effect)
    (hsince : t'.since.lookup k = some (lastInstant (.resume k input) effect)) :
    Timely t' k next.stage := by
  obtain ⟨last, hlast, hopened, hexpiry⟩ := h.reached
  have hcreated := hopened f rfl
  have hbefore : sinceLast t (.resume k input) = [last] := by
    simp only [sinceLast, Action.handler, Option.bind_some, hlast, Option.toList_some]
  rw [hbefore, List.singleton_append, List.pairwise_cons] at hclock
  obtain ⟨hafter, hinstants⟩ := hclock
  have hfetch : ∀ g, Stage.fetch next.stage = some g → g.createdAt ≤
      lastInstant (.resume k input) effect := by
    intro g hg
    have hg' : some f = some g := by cases next <;> exact hg
    obtain rfl := Option.some.inj hg'
    refine hcreated.trans (hafter _ ?_)
    cases input <;> simp [instants, lastInstant]
  cases hmoves with
  | signed body clock proof attestation hissue =>
    obtain ⟨fields, -, hproof, -⟩ := (issue_ok _ _ _ _ _ _ _ _ _).mp hissue
    simp only [instants, List.pairwise_cons, List.mem_cons] at hinstants hafter
    obtain ⟨-, hproofTime, hcreatedTime, -⟩ := hinstants
    refine
      { reached := ⟨_, hsince, hfetch, ?_⟩
        ordered := ?_
        given := ?_ }
    · rintro e ⟨⟩
      exact le_refl _
    · rintro g c q ⟨⟩
      exact
        { instant := by rw [hproof]; rfl
          opened := hcreated.trans (hafter _ (Or.inr (Or.inl rfl)))
          attested := hproofTime _ (Or.inl rfl)
          expiry := hcreatedTime _ (Or.inl rfl) }
    · rintro g x e ⟨⟩
  | completed body clock proof attestation hissue =>
    have hgiven : clock.expiryBase ≤ effect :=
      (hexpiry (f, clock, proof) rfl).trans (hafter effect (List.mem_singleton_self _))
    refine
      { reached := ⟨_, hsince, hfetch, ?_⟩
        ordered := h.ordered
        given := ?_ }
    · rintro e ⟨⟩
      exact hgiven
    · rintro g x e - ⟨⟩
      exact hgiven.trans_eq hnow.symm
  | waited p p' input hwaits =>
    exact timely_unissued (waiting_unissued p' hwaits.waiting.2) _ hsince hfetch
  | _ => exact timely_unissued rfl _ hsince hfetch

end Own

/-- In every state reached under the clock every handler is in time. -/
theorem timely_of_run (maxSessions : ℕ) (boot : DateTime)
    (trace : List ((Action × DateTime) × Clocked N)) (t : Clocked N)
    (h : Run (Steps clockedStep) (clockStart N maxSessions boot) trace t) (k : ℕ)
    (stage : Stage N) (hk : t.notary.handlers.lookup k = some stage) : Timely t k stage := by
  refine h.invariant (fun t => ∀ k stage, t.notary.handlers.lookup k = some stage →
    Timely t k stage) (by simp [clockStart, init]) ?_ k stage hk
  rintro t ⟨a, effect⟩ t' hinv hstep k stage hk
  obtain ⟨hs, hnow, hlater, hclock, hsince⟩ := clockedStep_cases hstep
  by_cases hown : Action.handler a = some k
  · have hlast : t'.since.lookup k = some (lastInstant a effect) := by
      rw [hsince, hown]
      exact Finmap.lookup_insert _
    cases own_step hs hown stage hk with
    | sessionless a stage hnone =>
      refine timely_unissued ?_ _ hlast fun f hf => by cases hnone.symm.trans hf
      exact unissued_of_sessionless stage hnone
    | opened f =>
      refine timely_unissued rfl _ hlast ?_
      rintro g ⟨⟩
      have hinstants := (List.pairwise_append.mp hclock).2.1
      simp only [instants, List.pairwise_cons, List.mem_cons] at hinstants
      exact hinstants.1 effect (Or.inl rfl)
    | resumed f p input w next hj hmoves =>
      exact resumed_timely (hinv k _ hj) hmoves effect hclock hnow hlast
  · obtain ⟨hkept, hsame⟩ := clockedStep_frame hstep k hown
    exact (hinv k stage (hkept ▸ hk)).frame hsame (hlater.trans_eq hnow.symm)

/-- The times on a reply, in their order. -/
structure Dated (t : Clocked N) (f : Fetch N) (reply : NotarizeReply) : Prop where
  opened : f.createdAt ≤ reply.proof.sessionTimestamp
  attested : reply.proof.sessionTimestamp ≤ reply.attestation.createdAt
  lasting : ∃ e, reply.attestation.expiresAt = some e ∧
    reply.attestation.createdAt + thirtyDays ≤ e ∧ e ≤ t.now + thirtyDays

/-- A later reply is accepted wherever and whenever an earlier one is. -/
structure Outlasts (N : Notary P) (later earlier : NotarizeReply) : Prop where
  signed : earlier.attestation.createdAt ≤ later.proof.sessionTimestamp
  expiry : ∀ e e', earlier.attestation.expiresAt = some e →
    later.attestation.expiresAt = some e' → e ≤ e'
  accepted : SignsCorrectly N.keypair [message P later.proof] → ∀ V now result,
    verifyAttestation P V now earlier.attestation earlier.proof = .ok result →
      ∃ result', verifyAttestation P V now later.attestation later.proof = .ok result'

/-- The readings behind a reply. -/
structure Issued (f : Fetch N) (reply : NotarizeReply) (clock : IssueClock) : Prop where
  ordered : Ordered f clock reply.proof
  signed : SignedBy f reply.proof
  created : reply.attestation.createdAt = clock.createdTime
  expires : reply.attestation.expiresAt = some (clock.expiryBase + thirtyDays)

theorem reply_issued {t : Clocked N} {k : ℕ} {f : Fetch N} (x : Exit f) (reply : NotarizeReply)
    (h : Timely t k (.returned f x)) (hx : x.reply = .ok reply) :
    ∃ clock, Stage.issuance (.returned f x) = some (f, clock, reply.proof) ∧
      Issued f reply clock := by
  have hsigned := (exit_reply_ok x reply hx).1
  cases x with
  | completed body clock proof attestation hissue =>
    cases hx
    obtain ⟨fields, -, -, rfl⟩ := (issue_ok _ _ _ _ _ _ _ _ _).mp hissue
    exact ⟨clock, rfl, h.ordered f clock proof rfl, hsigned, rfl, rfl⟩
  | clientFailed | fetchFailed | badStatus | unreadable | rejected => cases hx

section Two
variable {f g : Fetch N} {r q : NotarizeReply} {clock clock' : IssueClock}

theorem Issued.dated {t : Clocked N} (h : Issued f r clock) (hgiven : clock.expiryBase ≤ t.now) :
    Dated t f r where
  opened := h.ordered.opened.trans_eq h.ordered.instant.symm
  attested := by
    rw [h.ordered.instant, h.created]
    exact h.ordered.attested
  lasting := by
    refine ⟨_, h.expires, ?_, Int.add_le_add_right hgiven _⟩
    rw [h.created]
    exact Int.add_le_add_right h.ordered.expiry _

/-- A verifier that accepts one signature of the notary accepts any other
that expires no sooner. -/
theorem later_accepted (hr : SignedBy f r.proof) (hq : SignedBy g q.proof)
    (hsign : SignsCorrectly N.keypair [message P q.proof])
    (hexpiry : ∀ e', q.attestation.expiresAt = some e' →
      ∃ e, r.attestation.expiresAt = some e ∧ e ≤ e')
    (V : Ed25519Verifier) (now : DateTime) (result : VerificationResult)
    (h : verifyAttestation P V now r.attestation r.proof = .ok result) :
    ∃ result', verifyAttestation P V now q.attestation q.proof = .ok result' := by
  obtain ⟨hproof, hnow, -, -⟩ := verifyAttestation_ok P V now _ _ result h
  have htrust : (isTrusted V (publicKeyBytes N.keypair)).isSome = true := by
    obtain ⟨body, clock, fields, -, hgen⟩ := hr
    have htrusted := ((verifyProof_ok P V r.proof).mp hproof).1
    rw [hgen] at htrusted
    exact htrusted
  have hlate : expired now q.attestation = none := by
    refine (expired_none now _).mpr fun e' he' => ?_
    obtain ⟨e, he, hle⟩ := hexpiry e' he'
    exact le_trans ((expired_none now _).mp hnow e he) hle
  obtain ⟨notary, -, hok⟩ := verifyAttestation_of_proof P V now q.attestation q.proof
    (signedBy_accepted g q.proof hq hsign V htrust) hlate
  exact ⟨_, hok⟩

theorem Issued.outlasts (hr : Issued f r clock) (hq : Issued g q clock')
    (hlater : clock.expiryBase ≤ clock'.proofTime) : Outlasts N q r := by
  have hexpiry : clock.expiryBase ≤ clock'.expiryBase :=
    calc clock.expiryBase ≤ clock'.proofTime := hlater
      _ ≤ clock'.createdTime := hq.ordered.attested
      _ ≤ clock'.expiryBase := hq.ordered.expiry
  refine ⟨?_, ?_, fun hsign => later_accepted hr.signed hq.signed hsign fun e' he' => ?_⟩
  · rw [hr.created, hq.ordered.instant]
    exact hr.ordered.expiry.trans hlater
  · intro e e' he he'
    cases hr.expires.symm.trans he
    cases hq.expires.symm.trans he'
    exact Int.add_le_add_right hexpiry _
  · cases hq.expires.symm.trans he'
    exact ⟨_, hr.expires, Int.add_le_add_right hexpiry _⟩

end Two

/-- What is signed from now on is dated from now on. -/
theorem signed_later {after : List ((Action × DateTime) × Clocked N)} {s t : Clocked N}
    (h : Run (Steps clockedStep) s after t) (j : ℕ)
    (hj : ∀ stage, s.notary.handlers.lookup j = some stage → Stage.issuance stage = none) :
    s.now ≤ t.now ∧ ∀ stage e, t.notary.handlers.lookup j = some stage →
      Stage.issuance stage = some e → s.now ≤ e.2.1.proofTime := by
  induction h with
  | nil =>
    refine ⟨le_refl _, fun stage e hstage he => ?_⟩
    cases (hj stage hstage).symm.trans he
  | @snoc after t t' a hbefore hstep ih =>
    obtain ⟨hpast, hsigned⟩ := ih
    obtain ⟨a, effect⟩ := a
    obtain ⟨hs, hnow, hlater, hclock, hsince⟩ := clockedStep_cases hstep
    refine ⟨hpast.trans (hlater.trans_eq hnow.symm), fun stage e hstage he => ?_⟩
    by_cases hown : Action.handler a = some j
    · cases own_step hs hown stage hstage with
      | sessionless a stage hnone =>
        cases (unissued_of_sessionless stage hnone).symm.trans he
      | opened f => cases he
      | resumed f p input w next hi hmoves =>
        cases hmoves with
        | signed body clock proof attestation hissue =>
          cases he
          have hinstants := (List.pairwise_append.mp hclock).2.1
          simp only [instants, List.pairwise_cons, List.mem_cons] at hinstants
          exact hpast.trans (hlater.trans (hinstants.1 _ (Or.inl rfl)))
        | completed body clock proof attestation hissue => exact hsigned _ e hi he
        | waited p p' input hwaits =>
          cases (waiting_unissued p' hwaits.waiting.2).symm.trans he
        | _ => cases he
    · rw [(clockedStep_frame hstep j hown).1] at hstage
      exact hsigned stage e hstage he

/-- The replies of a clocked run: each is dated in order, and what was signed
after one was given outlasts it. -/
structure InOrderOfIssue (s t : Clocked N) : Prop where
  dated : ∀ k f x reply, t.notary.handlers.lookup k = some (.returned f x) →
    x.reply = .ok reply → Dated t f reply
  outlasts : ∀ k f x r, s.notary.handlers.lookup k = some (.returned f x) → x.reply = .ok r →
    ∀ j g y q, (∀ stage, s.notary.handlers.lookup j = some stage →
        Stage.signature stage = none) →
      t.notary.handlers.lookup j = some (.returned g y) → y.reply = .ok q → Outlasts N q r

theorem unissued_of_unsigned (stage : Stage N) (h : Stage.signature stage = none) :
    Stage.issuance stage = none := by
  have hsignature : ∀ e, Stage.issuance stage = some e → (Stage.signature stage).isSome := by
    intro e he
    unfold Stage.issuance at he
    split at he <;> cases he
    · rfl
    · rfl
  cases he : Stage.issuance stage with
  | none => rfl
  | some e =>
    have hsome := hsignature e he
    rw [h] at hsome
    cases hsome

/-- Replies are issued in order however many handlers sign at once. -/
theorem issued_in_order (maxSessions : ℕ) (boot : DateTime)
    (trace after : List ((Action × DateTime) × Clocked N)) (s t : Clocked N)
    (h : Run (Steps clockedStep) (clockStart N maxSessions boot) trace s)
    (h' : Run (Steps clockedStep) s after t) : InOrderOfIssue s t where
  dated k f x reply hk hx := by
    have htimely := timely_of_run maxSessions boot _ t (h.trans h') k _ hk
    obtain ⟨clock, hissuance, hissued⟩ := reply_issued x reply htimely hx
    exact hissued.dated (htimely.given f x _ rfl hissuance)
  outlasts k f x r hk hx j g y q hunsigned hj hy := by
    have htimely := timely_of_run maxSessions boot _ s h k _ hk
    obtain ⟨clock, hissuance, hr⟩ := reply_issued x r htimely hx
    have htimely' := timely_of_run maxSessions boot _ t (h.trans h') j _ hj
    obtain ⟨clock', hissuance', hq⟩ := reply_issued y q htimely' hy
    have hlater := (signed_later h' j fun stage hstage =>
      unissued_of_unsigned stage (hunsigned stage hstage)).2 _ _ hj hissuance'
    exact hr.outlasts hq ((htimely.given f x _ rfl hissuance).trans hlater)

/-- Two voters at once: the first is signed for, the second is not. -/
def twoAtOnce : List Action :=
  voterRun activeText ++
    [.request 1 ⟨"utah-voter-v1", none, none⟩,
      .create 1 secondId 1779796790000000000, .resume 1 .proceed,
      .resume 1 .clientBuilt, .resume 1 .csrfFailed, .resume 1 .proceed,
      .resume 1 (.status 200 "https://votesearch.utah.gov/"), .resume 1 (.text (.ok activeText)),
      .resume 1 .proceed]

/-- Up to the reply to the first. -/
def firstGiven : List (Action × DateTime) :=
  twoAtOnce.map (fun a => (a, 1779796790000000000)) ++ [(.resume 0 .proceed, noon.expiryBase)]

/-- The second is signed for, with a reading a second later. -/
def secondGiven : List (Action × DateTime) :=
  [(.resume 1 (.judge { noon with expiryBase := noon.expiryBase + 1000000000 }), noon.expiryBase),
    (.resume 1 .proceed, noon.expiryBase + 1000000000)]

def expiry (t : Clocked N) (k : ℕ) : Option DateTime :=
  (okReply t.notary k).bind fun reply => reply.attestation.expiresAt

theorem second_outlasts_first :
    ∃ trace s after t r q,
      Run (Steps clockedStep) (clockStart (shippedNotary activeRecording) 2 0) trace s ∧
      Run (Steps clockedStep) s after t ∧
      okReply s.notary 0 = some r ∧ okReply t.notary 1 = some q ∧
      r.attestation.expiresAt = some (noon.expiryBase + thirtyDays) ∧
      q.attestation.expiresAt = some (noon.expiryBase + 1000000000 + thirtyDays) ∧
      Outlasts (shippedNotary activeRecording) q r := by
  obtain ⟨trace, s, hrun, -, hobs⟩ := observed_run clockedStep firstGiven
    (clockStart (shippedNotary activeRecording) 2 0)
    (fun s => (expiry s 0, ((s.notary.handlers.lookup 1).bind Stage.signature).isNone,
      (exec clockedStep s secondGiven).map fun t => expiry t 1))
    (some (noon.expiryBase + thirtyDays), true,
      some (some (noon.expiryBase + 1000000000 + thirtyDays))) (by decide +kernel)
  simp only [Prod.mk.injEq] at hobs
  obtain ⟨hfirst, hunsigned, hsecond⟩ := hobs
  obtain ⟨after, t, hafter, -, ht⟩ := observed_run clockedStep secondGiven s _ _ hsecond
  obtain ⟨r, hr, hrexpires⟩ := Option.bind_eq_some_iff.mp hfirst
  obtain ⟨q, hq, hqexpires⟩ := Option.bind_eq_some_iff.mp ht
  obtain ⟨f, x, hk, hx⟩ := okReply_some s.notary 0 r hr
  obtain ⟨g, y, hj, hy⟩ := okReply_some t.notary 1 q hq
  refine ⟨trace, s, after, t, r, q, hrun, hafter, hr, hq, hrexpires, hqexpires, ?_⟩
  refine (issued_in_order 2 0 trace after s t hrun hafter).outlasts 0 f x r hk hx 1 g y q ?_ hj hy
  intro stage hstage
  rw [hstage] at hunsigned
  exact Option.isNone_iff_eq_none.mp hunsigned

end ZkTls.IssueOrder
