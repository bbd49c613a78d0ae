import ZkTls.SessionIsolation
import ZkTls.UpstreamRequests

/-!
# What a handler hands to its client

Next to the machine runs a log of what every handler hands to its HTTP client,
hears from it and waits for. Each handler keeps to a script that its template,
the agent it drew and the reply to its own token request determine, up to the
place its suspension has in the script. The client sends a request unless it
cannot build it, and follows the redirects of its answer by itself.
-/

set_option autoImplicit false

namespace ZkTls.UpstreamTraffic
open ZkTls.JsonTree ZkTls.CoreTypes ZkTls.VerificationTemplates ZkTls.FiniteStore
open ZkTls.LabelledRun ZkTls.NotarySessions ZkTls.NotaryMachine ZkTls.SessionIsolation
open ZkTls.SessionLifecycle ZkTls.UpstreamRequests ZkTls.RecordedPlatform ZkTls.JsonText
open ZkTls.SessionProofs

variable {P : Platform} {N : Notary P} {f : Fetch N} (hash : String → UInt64)

/-- The cookie headers of the token page, or nothing if its fetch failed. -/
abbrev CsrfReply := Option (List (Option String))

/-- A pause, a request with its headers as the handler adds them, or an
answer. -/
inductive Message where
  | slept (ms : UInt64)
  | handed (r : HttpRequest)
  | heard (reply : CsrfReply)

/-- The token the handler takes from a reply. -/
def tokenFrom (f : Fetch N) (reply : CsrfReply) : Option (String × String) :=
  f.template.target.csrf.bind fun cfg => reply.bind (csrfToken cfg)

/-- What a step of a handler does towards its client. -/
def utters (f : Fetch N) (ua : String) : Phase f → Input → List Message
  | .created, .proceed => [.slept (jitterMs hash f.sessionId)]
  | .jitter, .clientBuilt =>
    match f.template.target.csrf with
    | some cfg => [.handed (csrfRequest f.toJob cfg ua)]
    | none => [.handed (mainRequest f.toJob none ua)]
  | .csrfSent _, .csrfReply setCookies =>
    [.heard (some setCookies), .slept (csrfPauseMs (jitterMs hash f.sessionId))]
  | .csrfSent _, .csrfFailed =>
    [.heard none, .slept (csrfPauseMs (jitterMs hash f.sessionId))]
  | .csrfPause token, .proceed => [.handed (mainRequest f.toJob token ua)]
  | _, _ => []

/-- The agent is drawn on the way out of the first suspension. -/
def Phase.draws : Phase f → Bool
  | .created => true
  | _ => false

/-- The machine with the process-wide counter, the agents drawn so far and
the log of what was said. -/
structure Traffic (N : Notary P) where
  notary : State N
  index : UInt64
  agents : List (ℕ × String)
  log : List (ℕ × Message)

def quiet (N : Notary P) (maxSessions : ℕ) : Traffic N := ⟨init N maxSessions, 0, [], []⟩

/-- The agent a running handler holds in its local variable. -/
def Traffic.agent (t : Traffic N) (k : ℕ) : String := (t.agents.lookup k).getD ""

def Traffic.drawn (t : Traffic N) (k : ℕ) : Traffic N :=
  let r := browserUserAgent t.index
  { t with index := r.2, agents := t.agents ++ [(k, r.1)] }

def Traffic.resumed (t : Traffic N) (k : ℕ) (p : Phase f) (input : Input) : Traffic N :=
  let u := if Phase.draws p then t.drawn k else t
  { u with log := u.log ++ (utters hash f (u.agent k) p input).map fun m => (k, m) }

/-- The traffic of one action, before its effect on the machine. -/
def Traffic.spoken (t : Traffic N) : Action → Traffic N
  | .resume k input =>
    match t.notary.handlers.lookup k with
    | some (.live _ p) => t.resumed hash k p input
    | _ => t
  | _ => t

def trafficStep (t : Traffic N) (a : Action) : Option (Traffic N) :=
  (step t.notary a).map fun s => { t.spoken hash a with notary := s }

/-- What one handler has said and heard. -/
def talk (t : Traffic N) (k : ℕ) : List Message := (t.log.filter fun e => e.1 = k).map Prod.snd

def script (f : Fetch N) (ua : String) (reply : CsrfReply) : List Message :=
  .slept (jitterMs hash f.sessionId) ::
  match f.template.target.csrf with
  | none => [.handed (mainRequest f.toJob none ua)]
  | some cfg =>
    [.handed (csrfRequest f.toJob cfg ua),
     .heard reply,
     .slept (csrfPauseMs (jitterMs hash f.sessionId)),
     .handed (mainRequest f.toJob (tokenFrom f reply) ua)]

/-- How far a suspended handler is in its script. -/
def Phase.place : Phase f → ℕ
  | .created => 0
  | .jitter => 1
  | .csrfSent _ => 2
  | .csrfPause _ => 4
  | _ => 5

def Exit.place : Exit f → ℕ
  | .clientFailed _ => 1
  | _ => 5

def Stage.place : Stage N → ℕ
  | .live _ p => Phase.place p
  | .returned _ x => Exit.place x
  | _ => 0

/-- What a suspended handler remembers of the reply. -/
def Recalls (reply : CsrfReply) : Phase f → Prop
  | .csrfSent cfg => f.template.target.csrf = some cfg
  | .csrfPause token => f.template.target.csrf.isSome ∧ token = tokenFrom f reply
  | .sent out => out = f.outgoing (tokenFrom f reply)
  | _ => True

/-- A handler that has drawn an agent is in the middle of its script or
through with it; any other has said nothing. -/
inductive Spoke : Option (Stage N) → Option String → List Message → Prop
  | silent (stage : Option (Stage N)) (h : ∀ x ∈ stage, Stage.place x = 0) :
      Spoke stage none []
  | speaking (f : Fetch N) (stage : Stage N) (ua : String) (reply : CsrfReply)
      (hua : ua ∈ userAgents) (hf : Stage.fetch stage = some f) (hplace : Stage.place stage ≠ 0)
      (hrecalls : ∀ p, stage = .live f p → Recalls reply p) :
      Spoke (some stage) (some ua) ((script hash f ua reply).take (Stage.place stage))

theorem script_all (f : Fetch N) (ua : String) (reply : CsrfReply) :
    (script hash f ua reply).take 5 = script hash f ua reply := by
  apply List.take_of_length_le
  unfold script
  split <;> simp

/-- Where a step of a handler leads in its script, and what it utters on the
way. -/
theorem advance_script (ua : String) (reply : CsrfReply) (p : Phase f) (input : Input)
    (w : Option Write) (next : Next f) (h : advance f p input = some (w, next))
    (hrecalls : Recalls reply p) :
    ∃ reply', (∀ p', next = .goOn p' → Recalls reply' p') ∧
      (script hash f ua reply').take (Stage.place next.stage) =
        (script hash f ua reply).take (Phase.place p) ++ utters hash f ua p input := by
  cases p with
  | created => cases input with
    | proceed =>
      cases h
      exact ⟨reply, by rintro _ ⟨⟩; trivial, by simp [Next.stage, Stage.place, Phase.place,
        utters, script]⟩
    | _ => cases h
  | jitter => cases input with
    | clientFailed e =>
      cases h
      exact ⟨reply, by rintro _ ⟨⟩, by simp [Next.stage, Stage.place, Exit.place, Phase.place,
        utters]⟩
    | clientBuilt =>
      simp only [advance] at h
      cases hcsrf : f.template.target.csrf with
      | none =>
        rw [hcsrf] at h
        cases h
        refine ⟨reply, ?_, ?_⟩
        · rintro _ ⟨⟩
          simp [Recalls, tokenFrom, hcsrf]
        · simp [Next.stage, Stage.place, Phase.place, utters, script, hcsrf]
      | some cfg =>
        rw [hcsrf] at h
        cases h
        refine ⟨reply, ?_, ?_⟩
        · rintro _ ⟨⟩
          exact hcsrf
        · simp [Next.stage, Stage.place, Phase.place, utters, script, hcsrf]
    | _ => cases h
  | csrfSent cfg =>
    have hcsrf : f.template.target.csrf = some cfg := hrecalls
    cases input with
    | csrfReply setCookies =>
      cases h
      refine ⟨some setCookies, ?_, ?_⟩
      · rintro _ ⟨⟩
        simp [Recalls, tokenFrom, hcsrf]
      · simp [Next.stage, Stage.place, Phase.place, utters, script, hcsrf]
    | csrfFailed =>
      cases h
      refine ⟨none, ?_, ?_⟩
      · rintro _ ⟨⟩
        simp [Recalls, tokenFrom, hcsrf]
      · simp [Next.stage, Stage.place, Phase.place, utters, script, hcsrf]
    | _ => cases h
  | csrfPause token => cases input with
    | proceed =>
      cases h
      obtain ⟨hsome, rfl⟩ := hrecalls
      obtain ⟨cfg, hcsrf⟩ := Option.isSome_iff_exists.mp hsome
      refine ⟨reply, ?_, ?_⟩
      · rintro _ ⟨⟩
        rfl
      · simp [Next.stage, Stage.place, Phase.place, utters, script, hcsrf]
    | _ => cases h
  | sent | draining | reading | fetched | stored | signed =>
    refine ⟨reply, ?_, ?_⟩
    · cases advance_moves _ input w next h with
      | waited _ _ _ hwaits => cases hwaits <;> rintro _ ⟨⟩ <;> trivial
      | _ => rintro _ ⟨⟩ <;> trivial
    · cases advance_moves _ input w next h with
      | waited _ _ _ hwaits => cases hwaits <;> simp [Next.stage, Stage.place, Phase.place, utters]
      | _ => simp [Next.stage, Stage.place, Phase.place, Exit.place, utters]

theorem trafficStep_cases {t t' : Traffic N} {a : Action} (h : trafficStep hash t a = some t') :
    ∃ s, step t.notary a = some s ∧ t' = { t.spoken hash a with notary := s } := by
  obtain ⟨s, hs, rfl⟩ := Option.map_eq_some_iff.mp h
  exact ⟨s, hs, rfl⟩

theorem lookup_drawn (t : Traffic N) (k j : ℕ) :
    (t.drawn k).agents.lookup j =
      if j = k then some ((t.agents.lookup k).getD (browserUserAgent t.index).1)
      else t.agents.lookup j := by
  rw [Traffic.drawn, List.lookup_append]
  by_cases hjk : j = k
  · subst hjk
    cases t.agents.lookup j <;> simp
  · simp [List.lookup_cons, beq_false_of_ne hjk, hjk]

/-- The agent handler `k` speaks with on the way out of a suspension. -/
def Traffic.voice (t : Traffic N) (k : ℕ) (p : Phase f) : String :=
  (if Phase.draws p then t.drawn k else t).agent k

theorem resumed_agents (t : Traffic N) (k : ℕ) (p : Phase f) (input : Input) (j : ℕ) :
    (t.resumed hash k p input).agents.lookup j =
      if j = k ∧ Phase.draws p = true then
        some ((t.agents.lookup k).getD (browserUserAgent t.index).1)
      else t.agents.lookup j := by
  unfold Traffic.resumed
  cases hd : Phase.draws p with
  | true => simp [lookup_drawn]
  | false => simp

theorem resumed_talk (t : Traffic N) (s : State N) (k : ℕ) (p : Phase f) (input : Input)
    (j : ℕ) :
    talk { t.resumed hash k p input with notary := s } j =
      talk t j ++ if j = k then utters hash f (t.voice k p) p input else [] := by
  have hlog : (t.resumed hash k p input).log =
      t.log ++ (utters hash f (t.voice k p) p input).map fun m => (k, m) := by
    unfold Traffic.resumed Traffic.voice
    cases Phase.draws p <;> rfl
  rw [talk, talk]
  simp only [hlog, List.filter_append, List.map_append]
  congr 1
  by_cases hjk : j = k
  · subst hjk
    simp [List.filter_map, Function.comp_def]
  · have hne : k ≠ j := fun h => hjk h.symm
    simp [List.filter_map, Function.comp_def, hne, hjk]

/-- A handler resumed before its first pause draws an agent and starts its
script, any other goes on with it. -/
theorem resumed_spoke (t : Traffic N) (s : State N) (k : ℕ) (p : Phase f) (input : Input)
    (w : Option Write) (next : Next f) (h : advance f p input = some (w, next))
    (hspoke : Spoke hash (some (.live f p)) (t.agents.lookup k) (talk t k)) :
    Spoke hash (some next.stage) ((t.resumed hash k p input).agents.lookup k)
      (talk { t.resumed hash k p input with notary := s } k) := by
  have hfetch : Stage.fetch next.stage = some f := by cases next <;> rfl
  have hplace : Stage.place next.stage ≠ 0 := by
    cases advance_moves p input w next h with
    | waited _ _ _ hwaits => cases hwaits <;> simp [Next.stage, Stage.place, Phase.place]
    | _ => simp [Next.stage, Stage.place, Phase.place, Exit.place]
  have hphase : ∀ reply, (∀ p', next = .goOn p' → Recalls reply p') →
      ∀ p', next.stage = .live f p' → Recalls reply p' := by
    intro reply hreply p' hp'
    cases next with
    | goOn q => cases hp'; exact hreply _ rfl
    | exit x => cases hp'
  generalize hua : t.agents.lookup k = drawn at hspoke
  generalize htalk : talk t k = said at hspoke
  cases hspoke with
  | silent _ hzero =>
    have hcreated : p = .created := by
      have hz := hzero _ rfl
      cases p <;> simp [Stage.place, Phase.place] at hz
      rfl
    subst hcreated
    have hagent : (t.resumed hash k (.created : Phase f) input).agents.lookup k =
        some (browserUserAgent t.index).1 := by
      rw [resumed_agents, if_pos ⟨rfl, rfl⟩, hua, Option.getD_none]
    have hvoice : t.voice k (.created : Phase f) = (browserUserAgent t.index).1 := by
      rw [Traffic.voice, Traffic.agent, Phase.draws, if_pos rfl, lookup_drawn, if_pos rfl, hua,
        Option.getD_none, Option.getD_some]
    obtain ⟨reply, hrecalls, hscript⟩ := advance_script hash (browserUserAgent t.index).1 none
      .created input w next h trivial
    rw [hagent, resumed_talk, if_pos rfl, htalk, hvoice]
    have hnew := @Spoke.speaking P N hash f next.stage _ reply
      (browserUserAgent_mem t.index) hfetch hplace (hphase reply hrecalls)
    rw [hscript] at hnew
    exact hnew
  | speaking _ _ ua reply hmem hf hne hrecalls =>
    cases hf
    have hdraws : ¬ Phase.draws p = true := by
      intro hd
      cases p <;> simp [Phase.draws, Stage.place, Phase.place] at hd hne
    have hagent : (t.resumed hash k p input).agents.lookup k = some ua := by
      rw [resumed_agents, if_neg fun hd => hdraws hd.2, hua]
    have hvoice : t.voice k p = ua := by
      rw [Traffic.voice, if_neg hdraws, Traffic.agent, hua, Option.getD_some]
    obtain ⟨reply', hrecalls', hscript⟩ := advance_script hash ua reply p input w next h
      (hrecalls p rfl)
    rw [hagent, resumed_talk, if_pos rfl, htalk, hvoice]
    have hnew := @Spoke.speaking P N hash f next.stage ua reply' hmem hfetch hplace
      (hphase reply' hrecalls')
    rw [hscript] at hnew
    exact hnew

theorem spoken_frame (t : Traffic N) (s : State N) (a : Action) (k : ℕ)
    (ha : ∀ input, a ≠ .resume k input) :
    (t.spoken hash a).agents.lookup k = t.agents.lookup k ∧
      talk { t.spoken hash a with notary := s } k = talk t k := by
  cases a with
  | resume j input =>
    have hkj : k ≠ j := fun hkj => ha input (hkj ▸ rfl)
    simp only [Traffic.spoken]
    split
    · rename_i f p hj
      refine ⟨?_, ?_⟩
      · rw [resumed_agents, if_neg fun h => hkj h.1]
      · rw [resumed_talk, if_neg hkj, List.append_nil]
    · exact ⟨rfl, rfl⟩
  | _ => exact ⟨rfl, rfl⟩

theorem spoke_silent {stage : Option (Stage N)} {drawn : Option String} {said : List Message}
    (h : Spoke hash stage drawn said) (hstage : ∀ x ∈ stage, Stage.place x = 0) :
    drawn = none ∧ said = [] := by
  cases h with
  | silent => exact ⟨rfl, rfl⟩
  | speaking f stage ua reply hua hf hplace => exact absurd (hstage stage rfl) hplace

/-- Before its first pause a handler may change its stage without a word. -/
theorem spoke_idle {stage stage' : Option (Stage N)} {drawn : Option String}
    {said : List Message} (h : Spoke hash stage drawn said)
    (hold : ∀ x ∈ stage, Stage.place x = 0) (hnew : ∀ x ∈ stage', Stage.place x = 0) :
    Spoke hash stage' drawn said := by
  obtain ⟨rfl, rfl⟩ := spoke_silent hash h hold
  exact .silent stage' hnew

theorem step_spoke {t t' : Traffic N} (a : Action) (h : trafficStep hash t a = some t')
    (hspoke : ∀ k, Spoke hash (t.notary.handlers.lookup k) (t.agents.lookup k) (talk t k))
    (k : ℕ) : Spoke hash (t'.notary.handlers.lookup k) (t'.agents.lookup k) (talk t' k) := by
  obtain ⟨s, hs, rfl⟩ := trafficStep_cases hash h
  have hk := hspoke k
  by_cases hres : ∃ input, a = .resume k input
  · obtain ⟨input, rfl⟩ := hres
    cases step_stepped _ hs with
    | resume _ f p _ w next hlive hadv =>
      rw [hlive] at hk
      simp only [Traffic.spoken, hlive]
      rw [resumed_handlers, Finmap.lookup_insert]
      exact resumed_spoke hash t _ k p input w next hadv hk
  · obtain ⟨hagents, htalk⟩ := spoken_frame hash t s a k fun input ha => hres ⟨input, ha⟩
    rw [hagents, htalk]
    by_cases hown : Action.handler a = some k
    · cases step_stepped a hs with
      | request j req hj =>
        cases hown
        rw [Finmap.lookup_eq_none.mpr hj] at hk
        refine spoke_idle hash hk (by rintro _ ⟨⟩) ?_
        rw [State.arrived, Finmap.lookup_insert]
        rintro _ ⟨⟩
        rcases arrival_cases (N := N) req with ⟨reply, hr⟩ | ⟨job, hr⟩ <;> rw [hr] <;> rfl
      | overload j uuid now job hj | create j g hj =>
        cases hown
        rw [hj] at hk
        refine spoke_idle hash hk (by rintro _ ⟨⟩; rfl) ?_
        simp only [State.overloaded, State.opened, Finmap.lookup_insert]
        rintro _ ⟨⟩
        rfl
      | resume j f p input w next hj =>
        cases hown
        exact absurd ⟨input, rfl⟩ hres
      | runTask | getSession => cases hown
    · rw [handler_frame a hs k hown]
      exact hk

theorem spoke_of_run (maxSessions : ℕ) (trace : List (Action × Traffic N))
    (t : Traffic N) (h : Run (Steps (trafficStep hash)) (quiet N maxSessions) trace t) (k : ℕ) :
    Spoke hash (t.notary.handlers.lookup k) (t.agents.lookup k) (talk t k) := by
  refine h.invariant (fun t => ∀ k, Spoke hash (t.notary.handlers.lookup k)
    (t.agents.lookup k) (talk t k)) ?_ (fun t a t' ht hs => step_spoke hash a hs ht) k
  intro k
  exact .silent _ (by simp [quiet, init])

/-- A request names a registered and allowed host, and the agent its handler
drew, as the token request or as the main request. -/
structure Aimed (f : Fetch N) (ua : String) (r : HttpRequest) : Prop where
  registered : f.template ∈ N.templates.templates
  allowed : N.allowedHostnames = [] ∨ f.template.target.hostname ∈ N.allowedHostnames
  shape : (∃ cfg, f.template.target.csrf = some cfg ∧ r = csrfRequest f.toJob cfg ua) ∨
    ∃ token, r = mainRequest f.toJob token ua

theorem script_aimed (f : Fetch N) (ua : String) (reply : CsrfReply) (r : HttpRequest)
    (h : .handed r ∈ script hash f ua reply) : Aimed f ua r := by
  obtain ⟨hregistered, hallowed⟩ := checkRequest_ok f.request f.template f.admitted
  refine ⟨hregistered, hallowed, ?_⟩
  unfold script at h
  cases hcsrf : f.template.target.csrf with
  | none =>
    simp only [hcsrf, List.mem_cons, List.not_mem_nil, or_false, reduceCtorEq, false_or,
      Message.handed.injEq] at h
    exact Or.inr ⟨none, h⟩
  | some cfg =>
    simp only [hcsrf, List.mem_cons, List.not_mem_nil, or_false, reduceCtorEq, false_or,
      Message.handed.injEq] at h
    rcases h with h | h
    · exact Or.inl ⟨cfg, rfl, h⟩
    · exact Or.inr ⟨_, h⟩

def requests (said : List Message) : List HttpRequest :=
  said.filterMap fun m =>
    match m with
    | .handed r => some r
    | _ => none

theorem mem_requests (said : List Message) (r : HttpRequest) :
    r ∈ requests said ↔ .handed r ∈ said := by
  rw [requests, List.mem_filterMap]
  constructor
  · rintro ⟨m, hm, hr⟩
    cases m with
    | handed q => cases hr; exact hm
    | _ => cases hr
  · intro h
    exact ⟨_, h, rfl⟩

/-- The requests of a script: the main one, after the token request if the
template asks for a token. -/
theorem requests_script (f : Fetch N) (ua : String) (reply : CsrfReply) :
    requests (script hash f ua reply) =
      (f.template.target.csrf.map fun cfg => csrfRequest f.toJob cfg ua).toList ++
        [mainRequest f.toJob (tokenFrom f reply) ua] := by
  unfold script tokenFrom
  cases f.template.target.csrf <;> rfl

/-- What is known of the conversation of one handler. -/
structure Conversation (t : Traffic N) (k : ℕ) : Prop where
  scripted : Spoke hash (t.notary.handlers.lookup k) (t.agents.lookup k) (talk t k)
  aimed : ∀ r, .handed r ∈ talk t k → ∃ stage f ua, t.notary.handlers.lookup k = some stage ∧
    Stage.fetch stage = some f ∧ t.agents.lookup k = some ua ∧ Aimed f ua r
  finished : ∀ f x, t.notary.handlers.lookup k = some (.returned f x) → Exit.place x = 5 →
    ∃ ua reply, t.agents.lookup k = some ua ∧ talk t k = script hash f ua reply
  few : ∀ stage f, t.notary.handlers.lookup k = some stage → Stage.fetch stage = some f →
    (requests (talk t k)).length ≤ 1 + f.template.target.csrf.isSome.toNat

theorem spoke_aimed {stage : Option (Stage N)} {drawn : Option String} {said : List Message}
    (h : Spoke hash stage drawn said) (r : HttpRequest) (hr : .handed r ∈ said) :
    ∃ x f ua, stage = some x ∧ Stage.fetch x = some f ∧ drawn = some ua ∧ ua ∈ userAgents ∧
      Aimed f ua r := by
  cases h with
  | silent => cases hr
  | speaking f x ua reply hua hf =>
    exact ⟨x, f, ua, rfl, hf, rfl, hua,
      script_aimed hash f ua reply r ((List.take_subset _ _) hr)⟩

theorem spoke_finished {stage : Option (Stage N)} {drawn : Option String}
    {said : List Message} (h : Spoke hash stage drawn said) (x : Stage N)
    (hx : stage = some x) (f : Fetch N) (hf : Stage.fetch x = some f)
    (hplace : Stage.place x = 5) :
    ∃ ua reply, drawn = some ua ∧ said = script hash f ua reply := by
  cases h with
  | silent _ hzero =>
    have hz := hzero x hx
    omega
  | speaking g stage ua reply hua hg =>
    cases hx
    cases hf.symm.trans hg
    exact ⟨ua, reply, rfl, by rw [hplace, script_all]⟩

theorem spoke_requests {stage : Option (Stage N)} {drawn : Option String}
    {said : List Message} (h : Spoke hash stage drawn said) (x : Stage N)
    (hx : stage = some x) (f : Fetch N) (hf : Stage.fetch x = some f) :
    (requests said).length ≤ 1 + f.template.target.csrf.isSome.toNat := by
  cases h with
  | silent => exact Nat.zero_le _
  | speaking g stage ua reply hua hg =>
    cases hx
    cases hf.symm.trans hg
    have hsub : (requests ((script hash f ua reply).take (Stage.place x))).length ≤
        (requests (script hash f ua reply)).length :=
      ((List.take_prefix _ _).filterMap _).length_le
    rw [requests_script] at hsub
    refine hsub.trans ?_
    cases f.template.target.csrf <;> simp

/-- In every reachable state each handler has said exactly the part of its
script that its suspension stands for, so at most one token request and then
at most one main request, to the host of its own admitted template. -/
theorem traffic_scripted (maxSessions : ℕ) (trace : List (Action × Traffic N))
    (t : Traffic N) (h : Run (Steps (trafficStep hash)) (quiet N maxSessions) trace t) (k : ℕ) :
    Conversation hash t k := by
  have hspoke := spoke_of_run hash maxSessions trace t h k
  refine ⟨hspoke, fun r hr => ?_, fun f x hx hplace => ?_, fun stage f hstage hf => ?_⟩
  · obtain ⟨stage, f, ua, hstage, hf, hua, -, haimed⟩ := spoke_aimed hash hspoke r hr
    exact ⟨stage, f, ua, hstage, hf, hua, haimed⟩
  · exact spoke_finished hash hspoke (.returned f x) hx f rfl hplace
  · exact spoke_requests hash hspoke stage hstage f hf

/-- A hash for tests. -/
def lengthHash (id : String) : UInt64 := UInt64.ofNat id.length

def twoVisits : List Action :=
  voterRun activeText ++
    [.resume 0 .proceed,
      .request 1 ⟨"utah-voter-v1", some (.object [("firstName", .string "Ada")]), none⟩,
      .create 1 secondId noon.proofTime,
      .resume 1 .proceed, .resume 1 .clientBuilt]

/-- A visit that ended with a proof and one that waits for its token. -/
theorem two_visits_scripted :
    ∃ trace t, Run (Steps (trafficStep lengthHash)) (quiet (shippedNotary activeRecording) 2)
        trace t ∧
      (talk t 0).length = 5 ∧ (talk t 1).length = 2 ∧ Conversation lengthHash t 0 := by
  obtain ⟨trace, t, hrun, -, hobs⟩ := observed_run (trafficStep lengthHash) twoVisits
    (quiet (shippedNotary activeRecording) 2)
    (fun t => ((talk t 0).length, (talk t 1).length)) (5, 2) (by decide +kernel)
  rw [Prod.mk.injEq] at hobs
  exact ⟨trace, t, hrun, hobs.1, hobs.2, traffic_scripted lengthHash 2 trace t hrun 0⟩

/-- Every run has its account of the traffic. -/
theorem traffic_of_notary (maxSessions : ℕ) (trace : List (Action × State N)) (s : State N)
    (h : Run (Steps step) (init N maxSessions) trace s) :
    ∃ trace' t, Run (Steps (trafficStep hash)) (quiet N maxSessions) trace' t ∧ t.notary = s := by
  have hstep : ∀ s a s' (t : Traffic N), t.notary = s → Steps step s a s' →
      ∃ b t', a = b ∧ Steps (trafficStep hash) t b t' ∧ t'.notary = s' := by
    rintro s a s' t rfl hs
    refine ⟨a, { t.spoken hash a with notary := s' }, rfl, ?_, rfl⟩
    show (step t.notary a).map _ = _
    rw [show step t.notary a = some s' from hs]
    rfl
  obtain ⟨image, t, hrun, hts, -⟩ := h.simulated (fun s (t : Traffic N) => t.notary = s)
    (fun e b => e.1 = b) (show (quiet N maxSessions).notary = init N maxSessions from rfl) hstep
  exact ⟨image, t, hrun, hts⟩

/-- The visit behind a signature: its handler has been through its script,
and the main request of the script is to the host the proof names. -/
structure Visited (t : Traffic N) (k : ℕ) (f : Fetch N) (e : String × SessionProof) : Prop where
  session : ∃ stage, t.notary.handlers.lookup k = some stage ∧ Stage.fetch stage = some f ∧
    f.sessionId = e.1
  said : ∃ ua reply, talk t k = script hash f ua reply ∧
    .handed (mainRequest f.toJob (tokenFrom f reply) ua) ∈ talk t k
  host : ∀ token ua, (mainRequest f.toJob token ua).url =
    "https://" ++ e.2.serverHostname ++ f.template.target.path

theorem mainRequest_url (job : Job N) (token : Option (String × String)) (ua : String) :
    (mainRequest job token ua).url = job.origin ++ job.template.target.path := by
  simp only [mainRequest]
  cases job.template.target.method <;> rfl

/-- The main request ends every script. -/
theorem main_in_script (f : Fetch N) (ua : String) (reply : CsrfReply) :
    .handed (mainRequest f.toJob (tokenFrom f reply) ua) ∈ script hash f ua reply := by
  rw [← mem_requests, requests_script]
  simp

theorem signature_place (stage : Stage N) (e : String × SessionProof)
    (h : Stage.signature stage = some e) : Stage.place stage = 5 := by
  unfold Stage.signature at h
  split at h
  · rfl
  · rfl
  · cases h

/-- No signature without a visit. -/
theorem signatures_follow_visits (maxSessions : ℕ) (trace : List (Action × Traffic N))
    (t : Traffic N) (h : Run (Steps (trafficStep hash)) (quiet N maxSessions) trace t)
    (e : String × SessionProof) (he : e ∈ t.notary.signatures) :
    ∃ k f, Visited hash t k f e := by
  have hrun := h.project (S := Steps step) Traffic.notary id fun _ _ _ hs => by
    obtain ⟨s', hstep, rfl⟩ := trafficStep_cases hash hs
    exact hstep
  obtain ⟨k, stage, hk, hsig⟩ := (signed_run N maxSessions _ _ hrun).owned e he
  obtain ⟨f, hf, hid, hjust⟩ := signature_justified stage e hsig
  obtain ⟨ua, reply, -, htalk⟩ := spoke_finished hash (spoke_of_run hash maxSessions trace t h k)
    stage hk f hf (signature_place stage e hsig)
  refine ⟨k, f, ⟨stage, hk, hf, hid⟩, ⟨ua, reply, htalk, ?_⟩, fun token ua => ?_⟩
  · rw [htalk]
    exact main_in_script hash f ua reply
  · rw [mainRequest_url, Job.origin, hjust.2.2.1]

theorem one_signature_visited :
    ∃ trace t e, Run (Steps (trafficStep lengthHash)) (quiet (shippedNotary activeRecording) 2)
        trace t ∧
      e ∈ t.notary.signatures ∧ ∃ k f, Visited lengthHash t k f e := by
  obtain ⟨trace, t, hrun, -, hobs⟩ := observed_run (trafficStep lengthHash) twoVisits
    (quiet (shippedNotary activeRecording) 2) (fun t => t.notary.signatures.length) 1
    (by decide +kernel)
  obtain ⟨e, he⟩ := List.exists_mem_of_length_pos (Nat.lt_of_lt_of_eq Nat.one_pos hobs.symm)
  exact ⟨trace, t, e, hrun, he, signatures_follow_visits lengthHash 2 trace t hrun e he⟩

end ZkTls.UpstreamTraffic
