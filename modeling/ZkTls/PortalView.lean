import ZkTls.SessionLeaks
import ZkTls.UpstreamTraffic

/-!
# What a portal can tell its visitors by

Sessions take their browsers in turn, and keep them. Two visits with one
browser to one target look alike to the portal, up to the body of a POST, as
long as the portal itself answers them alike.
-/

set_option autoImplicit false

namespace ZkTls.PortalView
open ZkTls.JsonTree ZkTls.CoreTypes ZkTls.VerificationTemplates ZkTls.FiniteStore
open ZkTls.LabelledRun ZkTls.RoundRobin ZkTls.NotaryMachine ZkTls.UpstreamRequests
open ZkTls.UpstreamTraffic ZkTls.SessionLifecycle ZkTls.SessionLeaks ZkTls.RecordedPlatform

variable {P : Platform} {N : Notary P} (hash : String → UInt64)

/-- What passes between a handler and its portal, bodies left out. -/
inductive Seen where
  | request (r : HttpRequest)
  | reply (c : CsrfReply)

def bare (r : HttpRequest) : HttpRequest := { r with body := none }

def outward : Message → Option Seen
  | .slept _ => none
  | .handed r => some (.request (bare r))
  | .heard c => some (.reply c)

def view (said : List Message) : List Seen := said.filterMap outward

/-- Two views that agree up to their end, or up to where the portal itself
replied differently. -/
inductive Alike : List Seen → List Seen → Prop
  | endLeft (v : List Seen) : Alike [] v
  | endRight (v : List Seen) : Alike v []
  | same (x : Seen) (v v' : List Seen) (h : Alike v v') : Alike (x :: v) (x :: v')
  | replied (c c' : CsrfReply) (hne : c ≠ c') (v v' : List Seen) :
      Alike (.reply c :: v) (.reply c' :: v')

theorem alike_of_prefix {u u' v v' : List Seen} (h : Alike v v') (hu : u <+: v)
    (hu' : u' <+: v') : Alike u u' := by
  induction h generalizing u u' with
  | endLeft v =>
    rw [List.prefix_nil.mp hu]
    exact .endLeft u'
  | endRight v =>
    rw [List.prefix_nil.mp hu']
    exact .endRight u
  | same x v v' h ih =>
    cases u with
    | nil => exact .endLeft u'
    | cons y u =>
      cases u' with
      | nil => exact .endRight _
      | cons y' u' =>
        obtain ⟨rfl, htail⟩ := List.cons_prefix_cons.mp hu
        obtain ⟨rfl, htail'⟩ := List.cons_prefix_cons.mp hu'
        exact .same _ u u' (ih htail htail')
  | replied c c' hne v v' =>
    cases u with
    | nil => exact .endLeft u'
    | cons y u =>
      cases u' with
      | nil => exact .endRight _
      | cons y' u' =>
        obtain ⟨rfl, -⟩ := List.cons_prefix_cons.mp hu
        obtain ⟨rfl, -⟩ := List.cons_prefix_cons.mp hu'
        exact .replied c c' hne u u'

section TwoVisits
variable {P' : Platform} {N' : Notary P'} (hash' : String → UInt64)

theorem bare_main (job : Job N) (job' : Job N') (token : Option (String × String))
    (ua : String) (htarget : job.template.target = job'.template.target) :
    bare (mainRequest job token ua) = bare (mainRequest job' token ua) := by
  simp only [mainRequest, Job.origin, htarget]
  cases job'.template.target.method <;> rfl

theorem bare_csrf (job : Job N) (job' : Job N') (cfg : CsrfConfig) (ua : String)
    (htarget : job.template.target = job'.template.target) :
    bare (csrfRequest job cfg ua) = bare (csrfRequest job' cfg ua) := by
  simp only [csrfRequest, Job.origin, htarget]

theorem script_alike (f : Fetch N) (f' : Fetch N') (ua : String) (reply reply' : CsrfReply)
    (htarget : f.template.target = f'.template.target) :
    Alike (view (script hash f ua reply)) (view (script hash' f' ua reply')) := by
  unfold script view
  cases hcsrf : f'.template.target.csrf with
  | none =>
    simp only [htarget, hcsrf, List.filterMap_cons, outward, List.filterMap_nil]
    rw [bare_main f.toJob f'.toJob none ua htarget]
    exact .same _ _ _ (.endLeft [])
  | some cfg =>
    simp only [htarget, hcsrf, List.filterMap_cons, outward, List.filterMap_nil]
    rw [bare_csrf f.toJob f'.toJob cfg ua htarget]
    apply Alike.same
    by_cases hreply : reply = reply'
    · subst hreply
      have htoken : tokenFrom f reply = tokenFrom f' reply := by
        rw [tokenFrom, tokenFrom, htarget]
      rw [htoken, bare_main f.toJob f'.toJob _ ua htarget]
      exact .same _ _ _ (.same _ _ _ (.endLeft []))
    · exact .replied reply reply' hreply _ _

/-- What a portal sees of the client behind a handler. -/
structure Veiled (f : Fetch N) (said : List Message) (said' : List Message) : Prop where
  alike : Alike (view said) (view said')
  bodies : ∀ r, .handed r ∈ said → r.body = none ∨
    r.method = .post ∧ r.body = some (f.request.requestBody.getD .null)

theorem script_bodies (f : Fetch N) (ua : String) (r : HttpRequest) (h : Aimed f ua r) :
    r.body = none ∨ r.method = .post ∧ r.body = some (f.request.requestBody.getD .null) := by
  rcases h.shape with ⟨cfg, -, rfl⟩ | ⟨token, rfl⟩
  · exact Or.inl rfl
  · cases hmethod : f.template.target.method with
    | get => exact Or.inl (by simp [mainRequest, hmethod])
    | post => exact Or.inr (by simp [mainRequest, hmethod])

/-- Two visits to one target with one browser, in whatever runs of whatever
notaries: the portal sees no difference before it makes one itself, except
in the body that a client hands over for a POST. -/
theorem visits_alike (maxSessions maxSessions' : ℕ) (trace : List (Action × Traffic N))
    (trace' : List (Action × Traffic N')) (t : Traffic N) (t' : Traffic N')
    (h : Run (Steps (trafficStep hash)) (quiet N maxSessions) trace t)
    (h' : Run (Steps (trafficStep hash')) (quiet N' maxSessions') trace' t')
    (k k' : ℕ) (stage : Stage N) (stage' : Stage N') (f : Fetch N) (f' : Fetch N')
    (hk : t.notary.handlers.lookup k = some stage) (hf : Stage.fetch stage = some f)
    (hk' : t'.notary.handlers.lookup k' = some stage') (hf' : Stage.fetch stage' = some f')
    (htarget : f.template.target = f'.template.target)
    (hagent : t.agents.lookup k = t'.agents.lookup k') :
    Veiled f (talk t k) (talk t' k') := by
  have hspoke := spoke_of_run hash maxSessions trace t h k
  have hspoke' := spoke_of_run hash' maxSessions' trace' t' h' k'
  refine ⟨?_, fun r hr => ?_⟩
  · rw [hk] at hspoke
    rw [hk', ← hagent] at hspoke'
    generalize t.agents.lookup k = drawn at hspoke hspoke'
    generalize talk t k = said at hspoke
    generalize talk t' k' = said' at hspoke'
    cases hspoke with
    | silent => exact .endLeft _
    | speaking g _ ua reply _ hg =>
      cases hspoke' with
      | speaking g' _ _ reply' _ hg' =>
        cases hf.symm.trans hg
        cases hf'.symm.trans hg'
        exact alike_of_prefix (script_alike hash hash' f f' ua reply reply' htarget)
          ((List.take_prefix _ _).filterMap _) ((List.take_prefix _ _).filterMap _)
  · obtain ⟨x, g, ua, hx, hg, -, -, haimed⟩ := spoke_aimed hash hspoke r hr
    rw [hk] at hx
    cases hx
    cases hf.symm.trans hg
    exact script_bodies f ua r haimed

end TwoVisits

/-- The first visit again, by another client of another notary, who sends a
body and asks for nothing to be disclosed. -/
def otherVisit : List Action :=
  [.request 0 ⟨"utah-voter-v1", some (.object [("firstName", .string "Ada")]), some ⟨[], []⟩⟩,
    .create 0 secondId noon.proofTime,
    .resume 0 .proceed, .resume 0 .clientBuilt, .resume 0 (.csrfReply [none]),
    .resume 0 .proceed]

/-- A handler with a session and its agent. -/
def visitor (t : Traffic N) (k : ℕ) : Bool × Option String :=
  (((t.notary.handlers.lookup k).bind Stage.fetch).isSome, t.agents.lookup k)

theorem visitor_some {t : Traffic N} {k : ℕ} {drawn : Option String}
    (h : visitor t k = (true, drawn)) : (∃ stage f, t.notary.handlers.lookup k = some stage ∧
      Stage.fetch stage = some f) ∧ t.agents.lookup k = drawn := by
  obtain ⟨hsome, hdrawn⟩ := Prod.mk.inj h
  obtain ⟨f, hf⟩ := Option.isSome_iff_exists.mp hsome
  obtain ⟨stage, hstage, hfetch⟩ := Option.bind_eq_some_iff.mp hf
  exact ⟨⟨stage, f, hstage, hfetch⟩, hdrawn⟩

/-- Both visits are under way, and the portal sees the same. -/
theorem other_visit_alike :
    ∃ trace t trace' t', ∃ f : Fetch (shippedNotary activeRecording),
      Run (Steps (trafficStep lengthHash)) (quiet (shippedNotary activeRecording) 2) trace t ∧
      Run (Steps (trafficStep fun _ => 0)) (quiet emptyNotary 1) trace' t' ∧
      (view (talk t 0)).length = 3 ∧ (view (talk t' 0)).length = 3 ∧
      Veiled f (talk t 0) (talk t' 0) := by
  obtain ⟨trace, t, hrun, -, hobs⟩ := observed_run (trafficStep lengthHash) twoVisits
    (quiet (shippedNotary activeRecording) 2)
    (fun t => (visitor t 0, (view (talk t 0)).length)) ((true, userAgents.head?), 3)
    (by decide +kernel)
  obtain ⟨trace', t', hrun', -, hobs'⟩ := observed_run (trafficStep fun _ => 0) otherVisit
    (quiet emptyNotary 1)
    (fun t => (visitor t 0, (view (talk t 0)).length)) ((true, userAgents.head?), 3)
    (by decide +kernel)
  obtain ⟨hvisitor, hlen⟩ := Prod.mk.inj hobs
  obtain ⟨hvisitor', hlen'⟩ := Prod.mk.inj hobs'
  obtain ⟨⟨stage, f, hk, hf⟩, hdrawn⟩ := visitor_some hvisitor
  obtain ⟨⟨stage', f', hk', hf'⟩, hdrawn'⟩ := visitor_some hvisitor'
  exact ⟨trace, t, trace', t', f, hrun, hrun', hlen, hlen',
    visits_alike lengthHash (fun _ => 0) 2 1 trace trace' t t' hrun hrun' 0 0 stage stage' f f'
      hk hf hk' hf'
      (congrArg VerificationTemplate.target ((shipped_template f).trans (shipped_template f').symm))
      (hdrawn.trans hdrawn'.symm)⟩

end ZkTls.PortalView
