import ZkTls.NotarizeLogs
import ZkTls.UpstreamTraffic

/-!
# The log of a running notary

Next to the machine runs the log its handlers write to. The records of one
session tell where its handler stands: how it started, how its token request
went, and how it ended, unless it ended in silence.
-/

set_option autoImplicit false

namespace ZkTls.NotaryJournal
open ZkTls.JsonText ZkTls.CoreTypes ZkTls.VerificationTemplates ZkTls.FiniteStore
open ZkTls.LabelledRun ZkTls.NotarySessions ZkTls.NotaryMachine ZkTls.NotaryInvariant
open ZkTls.SessionLifecycle ZkTls.SessionIsolation ZkTls.NotarizeLogs ZkTls.RecordedPlatform
open ZkTls.UpstreamTraffic

variable {P : Platform} {N : Notary P} {f : Fetch N}

def startLog (f : Fetch N) : LogRecord :=
  ⟨.info, [("session_id", .text f.sessionId), ("template", .text f.template.id),
    ("target", .text f.template.target.hostname)], "starting notarization"⟩

def csrfLog (sessionId csrfStatus : String) (cfg : CsrfConfig)
    (setCookies : List (Option String)) : LogRecord :=
  ⟨.info, [("session_id", .text sessionId), ("csrf_status", .text csrfStatus),
    ("set_cookie_headers", .count setCookies.length),
    ("csrf_token_extracted", .flag (csrfToken cfg setCookies).isSome)], "csrf fetch complete"⟩

def csrfFailureLog (sessionId e : String) : LogRecord :=
  ⟨.error, [("session_id", .text sessionId)], "csrf fetch failed: " ++ e⟩

/-- What a step of a handler writes. The status of its token reply, or the
error in its place, is printed as given. -/
def emits (printed : String) (f : Fetch N) : Phase f → Input → Next f → List LogRecord
  | .csrfSent cfg, .csrfReply setCookies, _ => [csrfLog f.sessionId printed cfg setCookies]
  | .csrfSent _, .csrfFailed, _ => [csrfFailureLog f.sessionId printed]
  | _, _, .exit x => Exit.logs x
  | _, _, .goOn _ => []

section Journal
variable (printed : ℕ → String)

/-- What an action writes, in the state it finds. -/
def records (s : State N) : Action → List LogRecord
  | .create k uuid now =>
    match s.handlers.lookup k with
    | some (.creating job) =>
      match (NotarySessions.create s.store job.template.target.hostname job.template.id
          uuid now).2 with
      | .ok id => [startLog ⟨job, id, now⟩]
      | .error _ => []
    | _ => []
  | .resume k input =>
    match s.handlers.lookup k with
    | some (.live f p) =>
      match advance f p input with
      | some (_, next) => emits (printed k) f p input next
      | none => []
    | _ => []
  | _ => []

/-- The machine with its log. -/
structure Journal (N : Notary P) where
  notary : State N
  log : List LogRecord

def blank (N : Notary P) (maxSessions : ℕ) : Journal N := ⟨init N maxSessions, []⟩

def journalStep (t : Journal N) (a : Action) : Option (Journal N) :=
  (step t.notary a).map fun s => ⟨s, t.log ++ records printed t.notary a⟩

/-- What is written goes with what is done. -/
inductive Writes (s : State N) : Action → State N → List LogRecord → Prop
  | opened (k : ℕ) (f : Fetch N) (hk : s.handlers.lookup k = some (.creating f.toJob))
      (hfresh : f.sessionId ∉ s.usedIds) :
      Writes s (.create k f.sessionId f.createdAt) (s.opened k f) [startLog f]
  | resumed (k : ℕ) (f : Fetch N) (p : Phase f) (input : Input) (w : Option Write)
      (next : Next f) (hk : s.handlers.lookup k = some (.live f p))
      (h : advance f p input = some (w, next)) :
      Writes s (.resume k input) (s.resumed k w next) (emits (printed k) f p input next)
  | silent (a : Action) (s' : State N)
      (hkept : ∀ k stage f, s'.handlers.lookup k = some stage → Stage.fetch stage = some f →
        s.handlers.lookup k = some stage)
      (hheld : ∀ k stage f, s.handlers.lookup k = some stage → Stage.fetch stage = some f →
        s'.handlers.lookup k = some stage) :
      Writes s a s' []

/-- A handler without a session can change its stage unnoticed. -/
theorem silent_insert (s : State N) (k : ℕ) (stage : Stage N)
    (hold : ∀ x, s.handlers.lookup k = some x → Stage.fetch x = none)
    (hnew : Stage.fetch stage = none) :
    (∀ j x f, (s.handlers.insert k stage).lookup j = some x → Stage.fetch x = some f →
      s.handlers.lookup j = some x) ∧
    ∀ j x f, s.handlers.lookup j = some x → Stage.fetch x = some f →
      (s.handlers.insert k stage).lookup j = some x := by
  constructor
  · intro j x f hj hf
    rw [lookup_insert_if] at hj
    by_cases hjk : j = k
    · rw [if_pos hjk] at hj
      cases hj
      cases hnew.symm.trans hf
    · rwa [if_neg hjk] at hj
  · intro j x f hj hf
    rw [lookup_insert_if]
    by_cases hjk : j = k
    · subst hjk
      cases (hold x hj).symm.trans hf
    · rwa [if_neg hjk]

theorem journalStep_writes {t t' : Journal N} {a : Action}
    (h : journalStep printed t a = some t') :
    step t.notary a = some t'.notary ∧ ∃ l, t'.log = t.log ++ l ∧
      Writes printed t.notary a t'.notary l := by
  obtain ⟨s', hs, rfl⟩ := Option.map_eq_some_iff.mp h
  refine ⟨hs, _, rfl, ?_⟩
  cases step_stepped a hs with
  | request k req hk =>
    obtain ⟨hkept, hheld⟩ := silent_insert t.notary k (arrival N req)
      (fun x hx => by rw [Finmap.lookup_eq_none.mpr hk] at hx; cases hx)
      (by rcases arrival_cases (N := N) req with ⟨_, h⟩ | ⟨_, h⟩ <;> rw [h] <;> rfl)
    exact .silent _ _ hkept hheld
  | overload k uuid now job hk hfresh hfull =>
    obtain ⟨hkept, hheld⟩ := silent_insert t.notary k
      (.refused ⟨503, (FieldExtraction.NotaryError.tooManySessions
        t.notary.store.maxSessions).toString⟩)
      (fun x hx => by cases hk.symm.trans hx; rfl) rfl
    simp only [records, hk, create_eq, if_pos hfull]
    exact .silent _ _ hkept hheld
  | create k f hk hfresh hroom =>
    simp only [records, hk, create_eq, if_neg (Nat.not_le_of_lt hroom)]
    exact .opened k f hk hfresh
  | resume k f p input w next hk hadv =>
    simp only [records, hk, hadv]
    exact .resumed k f p input w next hk hadv
  | runTask | getSession => exact .silent _ _ (fun _ _ _ h _ => h) fun _ _ _ h _ => h

/-- A record names its session first. -/
def Concerns (id : String) (r : LogRecord) : Prop := r.fields.head? = some ("session_id", .text id)

instance (id : String) (r : LogRecord) : Decidable (Concerns id r) :=
  inferInstanceAs (Decidable (_ = _))

/-- The records of one session. -/
def about (id : String) (log : List LogRecord) : List LogRecord := log.filter fun r => Concerns id r

theorem concerns_unique {i j : String} {r : LogRecord} (hi : Concerns i r) (hj : Concerns j r) :
    i = j := by
  have h : some ("session_id", LogValue.text i) = some ("session_id", LogValue.text j) :=
    hi.symm.trans hj
  simpa using h

theorem about_append (id : String) (log l : List LogRecord) :
    about id (log ++ l) = about id log ++ about id l := List.filter_append log l

theorem about_own (id : String) (l : List LogRecord) (h : ∀ r ∈ l, Concerns id r) :
    about id l = l := by
  apply List.filter_eq_self.mpr
  intro r hr
  exact decide_eq_true (h r hr)

theorem about_other (id j : String) (l : List LogRecord) (h : ∀ r ∈ l, Concerns j r)
    (hne : id ≠ j) : about id l = [] := by
  apply List.filter_eq_nil_iff.mpr
  intro r hr hid
  exact hne (concerns_unique (of_decide_eq_true hid) (h r hr))

theorem exit_logs_concern (x : Exit f) : ∀ r ∈ Exit.logs x, Concerns f.sessionId r := by
  cases x with
  | rejected body clock r h =>
    intro l hl
    cases List.mem_singleton.mp hl
    cases r <;> rfl
  | clientFailed | unreadable => exact fun r hr => absurd hr List.not_mem_nil
  | fetchFailed | badStatus | completed =>
    intro l hl
    cases List.mem_singleton.mp hl
    rfl

theorem emits_concern (text : String) (p : Phase f) (input : Input) (next : Next f) :
    ∀ r ∈ emits text f p input next, Concerns f.sessionId r := by
  unfold emits
  split
  · intro r hr
    cases List.mem_singleton.mp hr
    rfl
  · intro r hr
    cases List.mem_singleton.mp hr
    rfl
  · exact exit_logs_concern _
  · exact fun r hr => absurd hr List.not_mem_nil

/-- What is written about a token request that has ended. -/
inductive TokenLog (text : String) (f : Fetch N) (r : LogRecord) : Prop
  | reply (cfg : CsrfConfig) (setCookies : List (Option String))
      (hcfg : f.template.target.csrf = some cfg)
      (hr : r = csrfLog f.sessionId text cfg setCookies)
  | failure (hr : r = csrfFailureLog f.sessionId text)

/-- One record from the end of the token request on, none before and none
without such a request. -/
def TokenLogged (text : String) (f : Fetch N) (place : ℕ) (l : List LogRecord) : Prop :=
  if 4 ≤ place ∧ f.template.target.csrf.isSome = true then ∃ r, l = [r] ∧ TokenLog text f r
  else l = []

def Stage.closing : Stage N → List LogRecord
  | .returned _ x => Exit.logs x
  | _ => []

/-- The token request in flight is the one the template asks for. -/
def Stage.asks : Stage N → Prop
  | .live f (.csrfSent cfg) => f.template.target.csrf = some cfg
  | _ => True

/-- The records of a session, up to where its handler stands. -/
structure Told (text : String) (f : Fetch N) (stage : Stage N) (l : List LogRecord) : Prop where
  records : ∃ token, TokenLogged text f (Stage.place stage) token ∧
    l = startLog f :: (token ++ Stage.closing stage)
  asks : Stage.asks stage

theorem tokenLogged_late {text : String} {i j : ℕ} {token : List LogRecord} (hi : 4 ≤ i)
    (hj : 4 ≤ j) (h : TokenLogged text f i token) : TokenLogged text f j token := by
  unfold TokenLogged at h ⊢
  simpa [hi, hj] using h

theorem tokenLogged_early {text : String} {i : ℕ} {token : List LogRecord}
    (hi : i.blt 4 = true) : TokenLogged text f i token ↔ token = [] := by
  have hlt : i < 4 := Nat.le_of_ble_eq_true hi
  unfold TokenLogged
  rw [if_neg fun h => absurd h.1 (Nat.not_le_of_lt hlt)]

theorem tokenLogged_none {text : String} {i : ℕ} {token : List LogRecord}
    (h : f.template.target.csrf = none) : TokenLogged text f i token ↔ token = [] := by
  unfold TokenLogged
  simp [h]

theorem tokenLogged_one {text : String} {i : ℕ} {r : LogRecord} (hi : 4 ≤ i) (cfg : CsrfConfig)
    (hcfg : f.template.target.csrf = some cfg) (h : TokenLog text f r) :
    TokenLogged text f i [r] := by
  unfold TokenLogged
  rw [if_pos ⟨hi, by rw [hcfg]; rfl⟩]
  exact ⟨r, rfl, h⟩

/-- A step of a handler continues what is told of its session. -/
theorem advance_told (text : String) (p : Phase f) (input : Input) (w : Option Write)
    (next : Next f) (h : advance f p input = some (w, next)) (l : List LogRecord)
    (htold : Told text f (.live f p) l) :
    Told text f next.stage (l ++ emits text f p input next) := by
  obtain ⟨⟨token, htoken, rfl⟩, hasks⟩ := htold
  rw [show Stage.closing (.live f p) = [] from rfl, List.append_nil]
  cases p with
  | created => cases input with
    | proceed =>
      cases h
      rw [tokenLogged_early rfl] at htoken
      subst htoken
      exact ⟨⟨[], (tokenLogged_early rfl).mpr rfl, rfl⟩, trivial⟩
    | _ => cases h
  | jitter =>
    rw [tokenLogged_early rfl] at htoken
    subst htoken
    cases input with
    | clientFailed e =>
      cases h
      exact ⟨⟨[], (tokenLogged_early rfl).mpr rfl, rfl⟩, trivial⟩
    | clientBuilt =>
      simp only [advance] at h
      cases hcsrf : f.template.target.csrf with
      | none =>
        rw [hcsrf] at h
        cases h
        exact ⟨⟨[], (tokenLogged_none hcsrf).mpr rfl, rfl⟩, trivial⟩
      | some cfg =>
        rw [hcsrf] at h
        cases h
        exact ⟨⟨[], (tokenLogged_early rfl).mpr rfl, rfl⟩, hcsrf⟩
    | _ => cases h
  | csrfSent cfg =>
    have hcsrf : f.template.target.csrf = some cfg := hasks
    rw [tokenLogged_early rfl] at htoken
    subst htoken
    cases input with
    | csrfReply setCookies =>
      cases h
      exact ⟨⟨_, tokenLogged_one (Nat.le_refl 4) cfg hcsrf (.reply cfg setCookies hcsrf rfl), rfl⟩,
        trivial⟩
    | csrfFailed =>
      cases h
      exact ⟨⟨_, tokenLogged_one (Nat.le_refl 4) cfg hcsrf (.failure rfl), rfl⟩, trivial⟩
    | _ => cases h
  | csrfPause | sent | draining | reading | fetched | stored | signed =>
    -- the token request is behind, what is added is what the exit writes
    have hlate : ∀ j, 4 ≤ j → TokenLogged text f j token := fun j hj =>
      tokenLogged_late (by simp [Stage.place, Phase.place]) hj htoken
    cases advance_moves _ input w next h with
    | waited _ _ _ hwaits =>
      cases hwaits <;>
        exact ⟨⟨token, hlate _ (by simp [Next.stage, Stage.place, Phase.place]),
          by simp [emits, Next.stage, Stage.closing]⟩, trivial⟩
    | _ =>
      exact ⟨⟨token, hlate _ (by simp [Next.stage, Stage.place, Phase.place, Exit.place]),
        by simp [emits, Next.stage, Stage.closing]⟩, trivial⟩

/-- Every session is told of, and nothing else. -/
structure Scripted (t : Journal N) : Prop where
  told : ∀ k stage f, t.notary.handlers.lookup k = some stage → Stage.fetch stage = some f →
    Told (printed k) f stage (about f.sessionId t.log)
  owned : ∀ r ∈ t.log, ∃ k stage f, t.notary.handlers.lookup k = some stage ∧
    Stage.fetch stage = some f ∧ Concerns f.sessionId r

/-- The session of a handler is in its account. -/
theorem fetch_expected {s : State N} {k : ℕ} {stage : Stage N}
    (hk : s.handlers.lookup k = some stage) (hf : Stage.fetch stage = some f) :
    ∃ r, expected s k = some r ∧ r.id = f.sessionId := by
  rw [expected, account_stage hk]
  cases stage with
  | refused | creating => cases hf
  | live g p => cases hf; exact ⟨_, rfl, phase_record_id p⟩
  | returned g x => cases hf; exact ⟨_, rfl, exit_record_id _ x⟩

theorem fetch_used {s : State N} (hc : Consistent s) {k : ℕ} {stage : Stage N}
    (hk : s.handlers.lookup k = some stage) (hf : Stage.fetch stage = some f) :
    f.sessionId ∈ s.usedIds := by
  obtain ⟨r, hr, hid⟩ := fetch_expected hk hf
  exact hid ▸ hc.used k r hr

theorem fetch_unique {s : State N} (hc : Consistent s) {k j : ℕ} {stage stage' : Stage N}
    {f' : Fetch N} (hk : s.handlers.lookup k = some stage) (hf : Stage.fetch stage = some f)
    (hj : s.handlers.lookup j = some stage') (hf' : Stage.fetch stage' = some f')
    (hid : f.sessionId = f'.sessionId) : k = j := by
  obtain ⟨r, hr, hrid⟩ := fetch_expected hk hf
  obtain ⟨q, hq, hqid⟩ := fetch_expected hj hf'
  exact hc.ownerUnique k j r q hr hq (hrid.trans (hid.trans hqid.symm))

/-- Nothing is written about a session before it exists. -/
theorem about_fresh {t : Journal N} (hc : Consistent t.notary) (hs : Scripted printed t)
    (id : String) (hid : id ∉ t.notary.usedIds) : about id t.log = [] := by
  apply List.filter_eq_nil_iff.mpr
  intro r hr hconcerns
  obtain ⟨k, stage, f, hk, hf, hown⟩ := hs.owned r hr
  have hused := fetch_used hc hk hf
  rw [concerns_unique hown (of_decide_eq_true hconcerns)] at hused
  exact hid hused

/-- A step that gives one handler its next stage and writes about its session
alone. -/
theorem scripted_insert {t : Journal N} (hs : Scripted printed t) (s' : State N) (k : ℕ)
    (stage : Stage N) (l : List LogRecord)
    (hhandlers : s'.handlers = t.notary.handlers.insert k stage)
    (hf : Stage.fetch stage = some f) (hl : ∀ r ∈ l, Concerns f.sessionId r)
    (hold : ∀ x g, t.notary.handlers.lookup k = some x → Stage.fetch x = some g →
      g.sessionId = f.sessionId)
    (hothers : ∀ j x g, j ≠ k → t.notary.handlers.lookup j = some x → Stage.fetch x = some g →
      g.sessionId ≠ f.sessionId)
    (htold : Told (printed k) f stage (about f.sessionId t.log ++ l)) :
    Scripted printed ⟨s', t.log ++ l⟩ := by
  have hlookup : ∀ j, s'.handlers.lookup j =
      if j = k then some stage else t.notary.handlers.lookup j := fun j => by
    rw [hhandlers, lookup_insert_if]
  constructor
  · intro j x g hj hg
    rw [hlookup] at hj
    by_cases hjk : j = k
    · rw [if_pos hjk] at hj
      cases hj
      cases hf.symm.trans hg
      subst hjk
      rw [about_append, about_own _ l hl]
      exact htold
    · rw [if_neg hjk] at hj
      rw [about_append, about_other _ _ l hl (hothers j x g hjk hj hg), List.append_nil]
      exact hs.told j x g hj hg
  · intro r hr
    rcases List.mem_append.mp hr with hr | hr
    · obtain ⟨j, x, g, hj, hg, hconcerns⟩ := hs.owned r hr
      by_cases hjk : j = k
      · subst hjk
        refine ⟨j, stage, f, by rw [hlookup, if_pos rfl], hf, ?_⟩
        rw [← hold x g hj hg]
        exact hconcerns
      · exact ⟨j, x, g, by rw [hlookup, if_neg hjk]; exact hj, hg, hconcerns⟩
    · exact ⟨k, stage, f, by rw [hlookup, if_pos rfl], hf, hl r hr⟩

theorem scripted_step {t t' : Journal N} (hc : Consistent t.notary) (hs : Scripted printed t)
    (a : Action) (h : journalStep printed t a = some t') : Scripted printed t' := by
  obtain ⟨-, l, hlog, hwrites⟩ := journalStep_writes printed h
  obtain ⟨s', log'⟩ := t'
  obtain rfl : log' = t.log ++ l := hlog
  cases hwrites with
  | opened k f hk hfresh =>
    refine scripted_insert printed hs _ k (.live f .created) [startLog f] rfl rfl
      (fun r hr => ?_) (fun x g hx hg => ?_) (fun j x g _ hx hg hid => ?_) ?_
    · cases List.mem_singleton.mp hr
      rfl
    · cases hk.symm.trans hx
      cases hg
    · exact hfresh (hid ▸ fetch_used hc hx hg)
    · rw [about_fresh printed hc hs _ hfresh]
      exact ⟨⟨[], (tokenLogged_early rfl).mpr rfl, rfl⟩, trivial⟩
  | resumed k f p input w next hk hadv =>
    have hfetch : Stage.fetch next.stage = some f := by cases next <;> rfl
    refine scripted_insert printed hs _ k next.stage _ (resumed_handlers _ k w next) hfetch
      (emits_concern (printed k) p input next) (fun x g hx hg => ?_)
      (fun j x g hjk hx hg hid => ?_) ?_
    · cases hk.symm.trans hx
      cases hg
      rfl
    · exact hjk (fetch_unique hc hx hg hk rfl hid)
    · exact advance_told (printed k) p input w next hadv _ (hs.told k _ f hk rfl)
  | silent _ _ hkept hheld =>
    rw [List.append_nil]
    refine ⟨fun k x g hk hg => hs.told k x g (hkept k x g hk hg) hg, fun r hr => ?_⟩
    obtain ⟨k, x, g, hk, hg, hconcerns⟩ := hs.owned r hr
    exact ⟨k, x, g, hheld k x g hk hg, hg, hconcerns⟩

theorem scripted_of_run (maxSessions : ℕ) (trace : List (Action × Journal N)) (t : Journal N)
    (h : Run (Steps (journalStep printed)) (blank N maxSessions) trace t) :
    Scripted printed t := by
  induction h with
  | nil =>
    constructor
    · intro k stage f hk
      simp [blank, init] at hk
    · exact fun r hr => absurd hr List.not_mem_nil
  | snoc hrun hstep ih =>
    have hnotary := hrun.project (S := Steps step) Journal.notary id fun _ _ _ hs =>
      (journalStep_writes printed hs).1
    exact scripted_step printed (run_consistent N maxSessions _ _ hnotary) ih _ hstep

def completes (r : LogRecord) : Bool := r.message = "notarization complete"

/-- The record of success a handler that replied with a proof owes. -/
def Stage.completion : Stage N → List LogRecord
  | .returned f (.completed _ _ _ attestation _) =>
    [completionLog f.template f.sessionId attestation]
  | _ => []

/-- The exits that leave no record. -/
def Exit.silent : Exit f → Bool
  | .clientFailed _ => true
  | .unreadable _ => true
  | _ => false

theorem tokenLog_unfinished {text : String} {r : LogRecord} (h : TokenLog text f r) :
    completes r = false := by
  cases h with
  | reply cfg setCookies hcfg hr =>
    rw [hr]
    rfl
  | failure hr =>
    rw [hr]
    apply decide_eq_false
    intro heq
    have hhead := congrArg (fun s : String => s.toList.head?) heq
    simp [csrfFailureLog, String.toList_append] at hhead

theorem tokenLogged_unfinished {text : String} {place : ℕ} {token : List LogRecord}
    (h : TokenLogged text f place token) : token.filter completes = [] := by
  unfold TokenLogged at h
  split at h
  · obtain ⟨r, rfl, hr⟩ := h
    simp [tokenLog_unfinished hr]
  · rw [h, List.filter_nil]

theorem closing_completion (stage : Stage N) :
    (Stage.closing stage).filter completes = Stage.completion stage := by
  cases stage with
  | returned f x =>
    cases x with
    | rejected body clock r h => cases r <;> rfl
    | _ => rfl
  | _ => rfl

theorem told_completion {text : String} {stage : Stage N} {l : List LogRecord}
    (h : Told text f stage l) : l.filter completes = Stage.completion stage := by
  obtain ⟨⟨token, htoken, rfl⟩, -⟩ := h
  have hstart : completes (startLog f) = false := rfl
  rw [List.filter_cons_of_neg (by simp [hstart]), List.filter_append,
    tokenLogged_unfinished htoken, List.nil_append, closing_completion]

theorem told_length {text : String} {x : Exit f} {l : List LogRecord}
    (h : Told text f (.returned f x) l) :
    l.length = 1 + (decide (4 ≤ Exit.place x) && f.template.target.csrf.isSome).toNat +
      (!Exit.silent x).toNat := by
  obtain ⟨⟨token, htoken, rfl⟩, -⟩ := h
  have hclosing : (Stage.closing (.returned f x)).length = (!Exit.silent x).toNat := by
    cases x <;> rfl
  have hlength : token.length =
      (decide (4 ≤ Exit.place x) && f.template.target.csrf.isSome).toNat := by
    unfold TokenLogged at htoken
    rw [show Stage.place (.returned f x) = Exit.place x from rfl] at htoken
    split at htoken
    · rename_i hend
      obtain ⟨r, rfl, -⟩ := htoken
      simp [hend.1, hend.2]
    · rename_i hend
      rw [htoken]
      by_cases hplace : 4 ≤ Exit.place x
      · have hnone : f.template.target.csrf.isSome = false := by
          simpa [hplace] using hend
        simp [hnone]
      · simp [hplace]
  rw [List.length_cons, List.length_append, hclosing, hlength]
  omega

/-- What the log of a running notary tells. -/
structure Audited (t : Journal N) : Prop where
  scripted : Scripted printed t
  completions : ∀ k stage f, t.notary.handlers.lookup k = some stage →
    Stage.fetch stage = some f →
    (about f.sessionId t.log).filter completes = Stage.completion stage
  truthful : ∀ r ∈ t.log, completes r = true → ∃ k f x,
    t.notary.handlers.lookup k = some (.returned f x) ∧
      Stage.completion (.returned f x) = [r]
  endings : ∀ k f x, t.notary.handlers.lookup k = some (.returned f x) →
    (about f.sessionId t.log).length =
      1 + (decide (4 ≤ Exit.place x) && f.template.target.csrf.isSome).toNat +
        (!Exit.silent x).toNat

/-- In every reachable state the records of a session are the ones its
handler's stage calls for, in order, and a success is recorded exactly when
it is replied. -/
theorem journal_audited (maxSessions : ℕ) (trace : List (Action × Journal N)) (t : Journal N)
    (h : Run (Steps (journalStep printed)) (blank N maxSessions) trace t) :
    Audited printed t := by
  have hs := scripted_of_run printed maxSessions trace t h
  constructor
  · exact hs
  · intro k stage f hk hf
    exact told_completion (hs.told k stage f hk hf)
  · intro r hr hdone
    obtain ⟨k, stage, f, hk, hf, hconcerns⟩ := hs.owned r hr
    have hmem : r ∈ (about f.sessionId t.log).filter completes :=
      List.mem_filter.mpr ⟨List.mem_filter.mpr ⟨hr, decide_eq_true hconcerns⟩, hdone⟩
    rw [told_completion (hs.told k stage f hk hf)] at hmem
    cases stage with
    | returned g x =>
      cases x with
      | completed =>
        cases List.mem_singleton.mp hmem
        exact ⟨k, g, _, hk, rfl⟩
      | _ => cases hmem
    | _ => cases hmem
  · intro k f x hk
    exact told_length (hs.told k _ f hk rfl)

/-- A visit that ended with a proof and one that waits for its token. -/
theorem two_visits_audited :
    ∃ trace t, Run (Steps (journalStep fun _ => "200 OK"))
        (blank (shippedNotary activeRecording) 2) trace t ∧
      (t.log.map fun r => r.message) =
        ["starting notarization", "csrf fetch complete", "notarization complete",
          "starting notarization"] ∧
      Audited (fun _ => "200 OK") t := by
  obtain ⟨trace, t, hrun, -, hobs⟩ := observed_run (journalStep fun _ => "200 OK") twoVisits
    (blank (shippedNotary activeRecording) 2) (fun t => t.log.map fun r => r.message)
    ["starting notarization", "csrf fetch complete", "notarization complete",
      "starting notarization"] (by decide +kernel)
  exact ⟨trace, t, hrun, hobs, journal_audited _ 2 trace t hrun⟩

end Journal

end ZkTls.NotaryJournal
