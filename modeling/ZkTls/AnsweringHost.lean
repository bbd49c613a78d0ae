import ZkTls.HttpClient
import ZkTls.SessionLifecycle

/-!
# The host that answered

A proof names the template's hostname, while the committed body comes from
wherever the client's last request went. In runs whose inputs come from a
network, the two agree exactly when the URL and its redirects end there.
-/

set_option autoImplicit false

namespace ZkTls.AnsweringHost
open ZkTls.JsonTree ZkTls.JsonText ZkTls.CoreTypes ZkTls.VerificationTemplates
open ZkTls.FieldExtraction ZkTls.LabelledRun ZkTls.SessionProofs ZkTls.NotarizeResponse
open ZkTls.NotaryMachine ZkTls.RecordedPlatform ZkTls.SessionLifecycle ZkTls.HttpClient

variable {P : Platform} {N : Notary P} (C : Client)

/-- The URL of the main request. -/
def requestUrl (f : Fetch N) : String := f.origin ++ f.template.target.path

/-- The inputs of the main request are what the network makes of its URL. -/
def FromNetwork (up : Upstream C.Url) (f : Fetch N) : Phase f → Input → Prop
  | .sent _, .sendFailed e => send C up (requestUrl f) = .error e
  | .sent _, .status code url =>
    ∃ r, send C up (requestUrl f) = .ok r ∧ r.code = code ∧ C.text r.url = url
  | .reading, .text body => ∃ r, send C up (requestUrl f) = .ok r ∧ r.body = body
  | _, _ => True

/-- Every handler talks to a network of its own. -/
def AnsweredBy (up : ℕ → Upstream C.Url) (s : State N) : Action → Prop
  | .resume k input => ∀ f p, s.handlers.lookup k = some (.live f p) →
      FromNetwork C (up k) f p input
  | _ => True

theorem outgoing_url (f : Fetch N) (token : Option (String × String)) :
    (f.outgoing token).url = requestUrl f := by
  unfold Job.outgoing requestUrl
  simp only
  split <;> rfl

/-- A handler that waits for its main request has sent it to that URL. -/
def SentStage : Stage N → Prop
  | .live f (.sent out) => out.url = requestUrl f
  | _ => True

theorem resumed_sent (f : Fetch N) (p : Phase f) (input : Input) (w : Option Write)
    (next : Next f) (h : advance f p input = some (w, next)) : SentStage next.stage := by
  cases advance_moves p input w next h with
  | waited _ _ _ hwaits => cases hwaits with
    | sentAtOnce => exact outgoing_url f none
    | sent token => exact outgoing_url f token
    | _ => trivial
  | _ => trivial

theorem sent_requestUrl {ok : State N → Action → Prop} (maxSessions : ℕ)
    (trace : List (Action × State N)) (s : State N)
    (h : Run (Within ok (Steps step)) (init N maxSessions) trace s) (k : ℕ) (f : Fetch N)
    (out : Outgoing) (hk : s.handlers.lookup k = some (.live f (.sent out))) :
    out.url = requestUrl f :=
  stages_of_run (fun _ => SentStage) (fun _ _ => trivial) (fun _ _ => trivial)
    (fun _ _ => trivial) (fun _ _ f p input w next _ _ _ => resumed_sent f p input w next)
    maxSessions trace s h k _ hk

/-- A body the network served for the main request. -/
def Delivered (up : Upstream C.Url) (f : Fetch N) (body : String) : Prop :=
  ∃ r, send C up (requestUrl f) = .ok r ∧ r.body = .ok body

/-- The body a stage works on or has judged was served. -/
def ServedStage (up : Upstream C.Url) : Stage N → Prop
  | .live f p => ∀ body, p.body = some body → Delivered C up f body
  | .returned f x => ∀ body, x.body = some body → Delivered C up f body
  | _ => True

theorem resumed_served (up : Upstream C.Url) (f : Fetch N) (p : Phase f) (input : Input)
    (w : Option Write) (next : Next f) (hnet : FromNetwork C up f p input)
    (hp : ServedStage C up (.live f p)) (h : advance f p input = some (w, next)) :
    ServedStage C up next.stage := by
  have hbody : ∀ body, next.body = some body → Delivered C up f body := by
    intro body hb
    rcases advance_body p input w next h with hsame | ⟨rfl, b, rfl, hnew⟩
    · exact hp body (hsame ▸ hb)
    · obtain rfl := Option.some.inj (hnew.symm.trans hb)
      exact hnet
  cases next with
  | goOn q => exact hbody
  | exit x => exact hbody

theorem stage_served (up : ℕ → Upstream C.Url) (maxSessions : ℕ)
    (trace : List (Action × State N)) (s : State N)
    (h : Run (Within (AnsweredBy C up) (Steps step)) (init N maxSessions) trace s) (k : ℕ)
    (stage : Stage N) (hk : s.handlers.lookup k = some stage) :
    ServedStage C (up k) stage := by
  refine stages_of_run (fun k => ServedStage C (up k)) (fun _ _ => trivial)
    (fun _ _ => trivial) (fun k f body hb => ?_) ?_ maxSessions trace s h k stage hk
  · cases hb
  · intro s k f p input w next hnet hlive hgood hadv
    exact resumed_served C (up k) f p input w next (hnet f p hlive) hgood hadv

/-- The committed body was served from the host the proof names, which the
allowlist admits. -/
def HostAnswered (up : Upstream C.Url) (f : Fetch N) (reply : NotarizeReply) : Prop :=
  ∃ r body, send C up (requestUrl f) = .ok r ∧ r.body = .ok body ∧
    reply.proof.transcriptCommitment = sha512Hash P (asBytes body) ∧
    C.host r.url = reply.proof.serverHostname ∧
    (N.allowedHostnames ≠ [] → C.host r.url ∈ N.allowedHostnames)

/-- The URL parses, and its last redirect target, or the URL itself if there
is none, is on the template's host. -/
def LandsAt (up : Upstream C.Url) (f : Fetch N) : Prop :=
  ∃ u, C.parse (requestUrl f) = .ok u ∧
    C.host (lastUrl C up u) = f.template.target.hostname

/-- In every run on a network, a returned proof names the host that answered
exactly when the request ended on the template's host. -/
theorem hostAnswered_iff_landsAt (up : ℕ → Upstream C.Url) (maxSessions : ℕ)
    (trace : List (Action × State N)) (s : State N)
    (h : Run (Within (AnsweredBy C up) (Steps step)) (init N maxSessions) trace s) (k : ℕ)
    (f : Fetch N) (x : Exit f) (hk : s.handlers.lookup k = some (.returned f x))
    (reply : NotarizeReply) (hreply : x.reply = .ok reply) :
    HostAnswered C (up k) f reply ↔ LandsAt C (up k) f := by
  have hserved := stage_served C up maxSessions trace s h k _ hk
  cases x with
  | completed body clock proof attestation hi =>
    cases hreply
    obtain ⟨r, hr, hbody⟩ := hserved body rfl
    obtain ⟨u, hu, hurl⟩ := send_ok C (up k) _ r hr
    obtain ⟨_, -, hproof, -⟩ := (issue_ok _ _ _ _ _ _ _ _ _).mp hi
    have hhost : proof.serverHostname = f.template.target.hostname := by rw [hproof]; rfl
    constructor
    · rintro ⟨r', _, hr', -, -, hhost', -⟩
      cases hr.symm.trans hr'
      exact ⟨u, hu, by rw [← hurl, hhost', hhost]⟩
    · rintro ⟨u', hu', hlands⟩
      cases hu.symm.trans hu'
      rw [← hurl] at hlands
      refine ⟨r, body, hr, hbody, ?_, hlands.trans hhost.symm, fun hne => ?_⟩
      · change proof.transcriptCommitment = _
        rw [hproof]
        rfl
      · rw [hlands]
        exact (checkRequest_ok f.request f.template f.admitted).2.resolve_left hne
  | _ => cases hreply

/-- A network that answers every request itself. -/
def direct (body : String) : Upstream HttpsUrl := fun _ => .response 200 (.ok body)

/-- A network that sends the first request on to another host. -/
def mirrored (body : String) : Upstream HttpsUrl := fun visited =>
  if visited.length = 1 then .redirect ⟨"mirror.example", "/profile"⟩
  else .response 200 (.ok body)

def utahUrl : HttpsUrl :=
  ⟨utahVoterTemplate.target.hostname, utahVoterTemplate.target.path⟩

theorem shipped_url {R : Recording} (f : Fetch (shippedNotary R)) :
    httpsClient.parse (requestUrl f) = .ok utahUrl := by
  have hparse : parseHttps ("https://" ++ utahVoterTemplate.target.hostname ++
      utahVoterTemplate.target.path) = .ok utahUrl := by rfl
  rw [requestUrl, Job.origin, shipped_template]
  exact hparse

/-- One request of the shipped template, from its arrival to its reply. -/
def answeredRun (url body : String) : List Action :=
  [.request 0 ⟨"utah-voter-v1", none, none⟩, .create 0 firstId 1779796790000000000,
    .resume 0 .proceed, .resume 0 .clientBuilt, .resume 0 .csrfFailed, .resume 0 .proceed,
    .resume 0 (.status 200 url), .resume 0 (.text (.ok body)), .resume 0 .proceed,
    .resume 0 (.judge noon), .resume 0 .proceed]

theorem answeredRun_network {R : Recording} (up : Upstream HttpsUrl)
    (r : Served HttpsUrl) (body : String)
    (hsend : follow up 10 [] utahUrl = .ok r) (hcode : r.code = 200) (hbody : r.body = .ok body)
    (a : Action) (ha : a ∈ answeredRun (httpsClient.text r.url) body)
    (s : State (shippedNotary R)) : AnsweredBy httpsClient (fun _ => up) s a := by
  have hserved : ∀ f : Fetch (shippedNotary R), send httpsClient up (requestUrl f) = .ok r := by
    intro f
    rw [send_parsed httpsClient up _ utahUrl (shipped_url f)]
    exact hsend
  simp only [answeredRun, List.mem_cons, List.not_mem_nil, or_false] at ha
  rcases ha with rfl | rfl | rfl | rfl | rfl | rfl | rfl | rfl | rfl | rfl | rfl
  all_goals first
    | trivial
    | intro f p _
      cases p with
      | sent => first | trivial | exact ⟨r, hserved f, hcode, rfl⟩
      | reading => first | trivial | exact ⟨r, hserved f, hbody⟩
      | _ => trivial

/-- The hostname of the proof in a reply. -/
def provenHost (s : State N) (k : ℕ) : Option String :=
  (okReply s k).map fun reply => reply.proof.serverHostname

/-- Without redirects the proof names the host that answered. -/
theorem direct_answer_proven :
    ∃ trace s f x reply,
      Run (Within (AnsweredBy httpsClient fun _ => direct activeText) (Steps step))
        (init (shippedNotary activeRecording) 1) trace s ∧
      s.handlers.lookup 0 = some (.returned f x) ∧ x.reply = .ok reply ∧
      HostAnswered httpsClient (direct activeText) f reply := by
  obtain ⟨trace, s, hrun, hmap, hobs⟩ := observed_run step
    (answeredRun (httpsClient.text utahUrl) activeText) (init (shippedNotary activeRecording) 1)
    (fun s => provenHost s 0) (some "votesearch.utah.gov") (by decide +kernel)
  obtain ⟨reply, hgiven, -⟩ := Option.map_eq_some_iff.mp hobs
  obtain ⟨f, x, hk, hreply⟩ := okReply_some s 0 reply hgiven
  have hnet := hrun.within (hmap ▸ answeredRun_network (direct activeText)
    ⟨utahUrl, 200, .ok activeText⟩ activeText rfl rfl rfl)
  refine ⟨trace, s, f, x, reply, hnet, hk, hreply,
    (hostAnswered_iff_landsAt httpsClient (fun _ => direct activeText) 1 trace s hnet 0 f x hk
      reply hreply).mpr ⟨utahUrl, shipped_url f, ?_⟩⟩
  rw [shipped_template f]
  rfl

/-- One redirect to another host: the proof names the template's host, and the
committed body came from the other. -/
theorem mirrored_answer_misnamed :
    ∃ trace s f x reply,
      Run (Within (AnsweredBy httpsClient fun _ => mirrored activeText) (Steps step))
        (init (shippedNotary activeRecording) 1) trace s ∧
      s.handlers.lookup 0 = some (.returned f x) ∧ x.reply = .ok reply ∧
      reply.proof.serverHostname = "votesearch.utah.gov" ∧
      ¬ HostAnswered httpsClient (mirrored activeText) f reply := by
  obtain ⟨trace, s, hrun, hmap, hobs⟩ := observed_run step
    (answeredRun "https://mirror.example/profile" activeText)
    (init (shippedNotary activeRecording) 1)
    (fun s => provenHost s 0) (some "votesearch.utah.gov") (by decide +kernel)
  obtain ⟨reply, hgiven, hhost⟩ := Option.map_eq_some_iff.mp hobs
  obtain ⟨f, x, hk, hreply⟩ := okReply_some s 0 reply hgiven
  have hfollow : follow (mirrored activeText) 10 [] utahUrl =
      .ok ⟨⟨"mirror.example", "/profile"⟩, 200, .ok activeText⟩ := rfl
  have hnet := hrun.within (hmap ▸ answeredRun_network (mirrored activeText) _ activeText
    hfollow rfl rfl)
  refine ⟨trace, s, f, x, reply, hnet, hk, hreply, hhost, ?_⟩
  rintro ⟨r, body, hr, -, -, hanswer, -⟩
  have hsend := send_parsed httpsClient (mirrored activeText) _ utahUrl (shipped_url f)
  cases hfollow.symm.trans (hsend.symm.trans hr)
  rw [hhost] at hanswer
  exact absurd hanswer (by decide)

end ZkTls.AnsweringHost
