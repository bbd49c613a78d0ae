import ZkTls.NotaryMachine

/-!
# What one step of the notary does

The record a handler accounts for at each suspension and after its return,
the case analysis of a handler's step and of a step of the whole machine,
and the effect of each on the store, the accounts and the pending tasks.
-/

set_option autoImplicit false

namespace ZkTls.NotaryMachine
open ZkTls.CoreTypes ZkTls.FieldExtraction ZkTls.FiniteStore ZkTls.LabelledRun
open ZkTls.NotarizeResponse ZkTls.NotarySessions

variable {P : Platform} {N : Notary P}

/-- The record a session starts with. -/
def Fetch.fresh (f : Fetch N) : NotarySession :=
  ⟨f.sessionId, f.template.target.hostname, f.template.id, .initialized, f.createdAt,
    none, none, none, none⟩

variable {f : Fetch N}

/-- The record while the handler runs. -/
def Phase.record : Phase f → NotarySession
  | .created => f.fresh
  | .stored body =>
    { f.fresh with
      state := .fetching
      responseBody := some body
      certificateHash := some f.certHash }
  | .signed body _ _ _ _ =>
    { f.fresh with
      state := .committing
      responseBody := some body
      certificateHash := some f.certHash }
  | _ => { f.fresh with state := .fetching }

/-- The record after the handler returned, with its failure task pending or
not. -/
def Exit.record (pending : Bool) : Exit f → NotarySession
  | .clientFailed _ => { f.fresh with state := .fetching }
  | .unreadable _ => { f.fresh with state := .fetching }
  | .fetchFailed e =>
    { f.fresh with
      state := if pending then .fetching else .failed (fetchFailedMsg e) }
  | .badStatus code url bytes =>
    { f.fresh with
      state :=
        if pending then .fetching
        else .failed (badStatusMsg f.template.id code url bytes) }
  | .rejected body _ _ _ =>
    { f.fresh with
      state := .committing
      responseBody := some body
      certificateHash := some f.certHash }
  | .completed _ _ proof attestation _ =>
    { f.fresh with
      state := .completed
      certificateHash := some f.certHash
      proof := some proof
      attestation := some attestation }

def pending (tasks : List (String × String)) (id : String) : Bool :=
  tasks.any fun task => task.1 = id

def Stage.record (tasks : List (String × String)) : Stage N → Option NotarySession
  | .refused _ => none
  | .creating _ => none
  | .live _ p => some p.record
  | .returned f x => some (x.record (pending tasks f.sessionId))

/-- The record handler `k` accounts for. -/
def account (handlers : Store ℕ (Stage N)) (tasks : List (String × String)) (k : ℕ) :
    Option NotarySession :=
  (handlers.lookup k).bind (Stage.record tasks)

abbrev expected (s : State N) (k : ℕ) : Option NotarySession := account s.handlers s.tasks k

def Next.record : Next f → NotarySession
  | .goOn p => p.record
  | .exit x => x.record x.setFailed.isSome

/-- What an update makes of the record it finds. -/
def Write.effect (r : NotarySession) : Write → NotarySession
  | .setState state => { r with state := state }
  | .setResponse body certHash =>
    { r with responseBody := some body, certificateHash := some certHash }
  | .setProof proof attestation =>
    { r with
      proof := some proof
      attestation := some attestation
      responseBody := none
      state := .completed }

@[simp] theorem phase_record_id (p : Phase f) : p.record.id = f.sessionId := by
  cases p <;> rfl

@[simp] theorem exit_record_id (b : Bool) (x : Exit f) :
    (x.record b).id = f.sessionId := by
  cases x <;> rfl

@[simp] theorem next_record_id (next : Next f) : next.record.id = f.sessionId := by
  cases next with
  | goOn p => exact phase_record_id p
  | exit x => exact exit_record_id _ x

theorem phase_record_active (p : Phase f) : p.record.state.terminal = false := by
  cases p <;> rfl

/-- Running the failure task marks the record failed. -/
theorem exit_record_failed (x : Exit f) (reason : String) (h : x.setFailed = some reason) :
    x.record false = { x.record true with state := .failed reason } ∧
      (x.record true).state = .fetching := by
  cases x with
  | fetchFailed e => cases h; exact ⟨rfl, rfl⟩
  | badStatus code url bytes => cases h; exact ⟨rfl, rfl⟩
  | _ => cases h

theorem apply_present (w : Write) (store : SessionStore) (id : String) (r : NotarySession)
    (h : store.sessions.lookup id = some r) :
    w.apply store id =
      ({ store with sessions := store.sessions.insert id (Write.effect r w) }, .ok ()) := by
  cases w <;> exact withSession_present store id _ r h

/-- The phases between the first and the second store update. -/
def Waiting : Phase f → Prop
  | .created => False
  | .stored _ => False
  | .signed _ _ _ _ _ => False
  | _ => True

theorem waiting_record (p : Phase f) (h : Waiting p) :
    p.record = { f.fresh with state := .fetching } := by
  cases p with
  | created | stored | signed => cases h
  | _ => rfl

/-- The steps from one suspension of the fetch to the next. -/
inductive Waits : Phase f → Input → Phase f → Prop
  | csrfRequested (cfg : VerificationTemplates.CsrfConfig) :
      Waits .jitter .clientBuilt (.csrfSent cfg)
  | sentAtOnce : Waits .jitter .clientBuilt (.sent (f.outgoing none))
  | csrfEnded (cfg : VerificationTemplates.CsrfConfig) (input : Input)
      (token : Option (String × String)) : Waits (.csrfSent cfg) input (.csrfPause token)
  | sent (token : Option (String × String)) :
      Waits (.csrfPause token) .proceed (.sent (f.outgoing token))
  | succeeded (out : Outgoing) (code : ℕ) (url : String) :
      Waits (.sent out) (.status code url) .reading
  | refused (out : Outgoing) (code : ℕ) (url : String) :
      Waits (.sent out) (.status code url) (.draining code url)
  | read (body : String) : Waits .reading (.text (.ok body)) (.fetched body)

theorem Waits.waiting {p p' : Phase f} {input : Input} (h : Waits p input p') :
    Waiting p ∧ Waiting p' := by
  cases h <;> exact ⟨trivial, trivial⟩

/-- Everything one step of a handler can do. -/
inductive Moves : Phase f → Input → Option Write → Next f → Prop
  | started : Moves .created .proceed (some (.setState .fetching)) (.goOn .jitter)
  | waited (p p' : Phase f) (input : Input) (h : Waits p input p') :
      Moves p input none (.goOn p')
  | clientFailed (e : String) :
      Moves .jitter (.clientFailed e) none (.exit (.clientFailed e))
  | fetchFailed (out : Outgoing) (e : String) :
      Moves (.sent out) (.sendFailed e) none (.exit (.fetchFailed e))
  | badStatus (code : ℕ) (url : String) (bytes : Option ℕ) :
      Moves (.draining code url) (.drained bytes) none
        (.exit (.badStatus code url (bytes.getD 0)))
  | unreadable (e : String) :
      Moves .reading (.text (.error e)) none (.exit (.unreadable e))
  | stored (body : String) :
      Moves (.fetched body) .proceed (some (.setResponse body f.certHash))
        (.goOn (.stored body))
  | rejected (body : String) (clock : IssueClock) (r : Rejection)
      (h : f.issue body clock = .error r) :
      Moves (.stored body) (.judge clock) (some (.setState .committing))
        (.exit (.rejected body clock r h))
  | signed (body : String) (clock : IssueClock) (proof : SessionProof)
      (attestation : Attestation) (h : f.issue body clock = .ok (proof, attestation)) :
      Moves (.stored body) (.judge clock) (some (.setState .committing))
        (.goOn (.signed body clock proof attestation h))
  | completed (body : String) (clock : IssueClock) (proof : SessionProof)
      (attestation : Attestation) (h : f.issue body clock = .ok (proof, attestation)) :
      Moves (.signed body clock proof attestation h) .proceed
        (some (.setProof proof attestation))
        (.exit (.completed body clock proof attestation h))

theorem advance_moves (p : Phase f) (input : Input) (w : Option Write) (next : Next f)
    (h : advance f p input = some (w, next)) : Moves p input w next := by
  cases p with
  | created => cases input with
    | proceed => cases h; exact .started
    | _ => cases h
  | jitter => cases input with
    | clientFailed e => cases h; exact .clientFailed e
    | clientBuilt =>
      simp only [advance] at h
      split at h <;> cases h
      · exact .waited _ _ _ (.csrfRequested _)
      · exact .waited _ _ _ .sentAtOnce
    | _ => cases h
  | csrfSent cfg => cases input with
    | csrfReply | csrfFailed => cases h; exact .waited _ _ _ (.csrfEnded cfg _ _)
    | _ => cases h
  | csrfPause token => cases input with
    | proceed => cases h; exact .waited _ _ _ (.sent token)
    | _ => cases h
  | sent out => cases input with
    | sendFailed e => cases h; exact .fetchFailed out e
    | status code url =>
      simp only [advance] at h
      split at h <;> cases h
      · exact .waited _ _ _ (.succeeded out code url)
      · exact .waited _ _ _ (.refused out code url)
    | _ => cases h
  | draining code url => cases input with
    | drained bytes => cases h; exact .badStatus code url bytes
    | _ => cases h
  | reading => cases input with
    | text body => cases body with
      | error e => cases h; exact .unreadable e
      | ok body => cases h; exact .waited _ _ _ (.read body)
    | _ => cases h
  | fetched body => cases input with
    | proceed => cases h; exact .stored body
    | _ => cases h
  | stored body => cases input with
    | judge clock =>
      simp only [advance] at h
      split at h <;> cases h
      · exact .rejected body clock _ _
      · exact .signed body clock _ _ _
    | _ => cases h
  | signed body clock proof attestation issued => cases input with
    | proceed => cases h; exact .completed body clock proof attestation issued
    | _ => cases h

/-- One step of a handler updates the record to the one its next stage
accounts for. -/
theorem moves_record (p : Phase f) (input : Input) (w : Option Write) (next : Next f)
    (h : Moves p input w next) :
    next.record = w.elim p.record (Write.effect p.record) := by
  cases h with
  | waited p p' input h =>
    exact (waiting_record p' h.waiting.2).trans (waiting_record p h.waiting.1).symm
  | _ => rfl

/-- The response body a suspended handler works on. -/
def Phase.body : Phase f → Option String
  | .fetched body => some body
  | .stored body => some body
  | .signed body _ _ _ _ => some body
  | _ => none

/-- The response body an exit has judged, if the handler got that far. -/
def Exit.body : Exit f → Option String
  | .rejected body _ _ _ => some body
  | .completed body _ _ _ _ => some body
  | _ => none

def Next.body : Next f → Option String
  | .goOn p => p.body
  | .exit x => x.body

/-- A handler takes its body from one successful read and keeps it. -/
theorem advance_body (p : Phase f) (input : Input) (w : Option Write) (next : Next f)
    (h : advance f p input = some (w, next)) :
    next.body = p.body ∨
      p = .reading ∧ ∃ body, input = .text (.ok body) ∧ next.body = some body := by
  cases advance_moves p input w next h with
  | waited _ _ _ hwaits => cases hwaits with
    | read body => exact Or.inr ⟨rfl, body, rfl, rfl⟩
    | _ => exact Or.inl rfl
  | _ => exact Or.inl rfl

/-- Creation refused for want of room. -/
def State.overloaded (s : State N) (k : ℕ) : State N :=
  { s with
    store := { s.store with sessions := makeRoom s.store }
    handlers := s.handlers.insert k
      (.refused ⟨503, (NotaryError.tooManySessions s.store.maxSessions).toString⟩) }

/-- Creation with room made. -/
def State.opened (s : State N) (k : ℕ) (f : Fetch N) : State N :=
  { s with
    store := { s.store with
      sessions := (makeRoom s.store).insert f.sessionId f.fresh }
    handlers := s.handlers.insert k (.live f .created)
    usedIds := f.sessionId :: s.usedIds }

/-- Everything one step can do. -/
inductive Stepped (s : State N) : Action → State N → Prop
  | request (k : ℕ) (req : NotarizeRequest) (hk : k ∉ s.handlers) :
      Stepped s (.request k req) (s.arrived k req)
  | overload (k : ℕ) (uuid : String) (now : DateTime) (job : Job N)
      (hk : s.handlers.lookup k = some (.creating job)) (hfresh : uuid ∉ s.usedIds)
      (hfull : s.store.maxSessions ≤ (makeRoom s.store).keys.card) :
      Stepped s (.create k uuid now) (s.overloaded k)
  | create (k : ℕ) (f : Fetch N) (hk : s.handlers.lookup k = some (.creating f.toJob))
      (hfresh : f.sessionId ∉ s.usedIds)
      (hroom : (makeRoom s.store).keys.card < s.store.maxSessions) :
      Stepped s (.create k f.sessionId f.createdAt) (s.opened k f)
  | resume (k : ℕ) (f : Fetch N) (p : Phase f) (input : Input) (w : Option Write)
      (next : Next f) (hk : s.handlers.lookup k = some (.live f p))
      (h : advance f p input = some (w, next)) :
      Stepped s (.resume k input) (s.resumed k w next)
  | runTask (id reason : String) (h : (id, reason) ∈ s.tasks) :
      Stepped s (.runTask id reason) (s.failed id reason)
  | getSession (id : String) : Stepped s (.getSession id) s

theorem step_stepped {s s' : State N} (a : Action) (h : step s a = some s') :
    Stepped s a s' := by
  cases a with
  | request k req =>
    simp only [step] at h
    split at h <;> cases h
    exact .request k req ‹_›
  | create k uuid now =>
    simp only [step] at h
    split at h
    · rename_i job hk
      split at h
      · cases h
      · rename_i hfresh
        rw [create_eq] at h
        split at h
        · rename_i heq
          split at heq <;> cases heq
          cases h
          exact .overload k uuid now job hk hfresh ‹_›
        · rename_i heq
          split at heq <;> cases heq
          cases h
          exact .create k ⟨job, uuid, now⟩ hk hfresh (Nat.lt_of_not_le ‹_›)
    · cases h
  | resume k input =>
    simp only [step] at h
    split at h
    · rename_i f p hk
      split at h <;> cases h
      exact .resume k f p input _ _ hk ‹_›
    · cases h
  | runTask id reason =>
    simp only [step] at h
    split at h <;> cases h
    exact .runTask id reason ‹_›
  | getSession id =>
    cases h
    exact .getSession id

/-- And every one of these is a step. -/
theorem step_of_stepped {s s' : State N} (a : Action) (h : Stepped s a s') :
    step s a = some s' := by
  cases h with
  | request k req hk => exact if_neg hk
  | overload k uuid now job hk hfresh hfull =>
    simp only [step, hk, if_neg hfresh, create_eq, if_pos hfull]
    rfl
  | create k f hk hfresh hroom =>
    simp only [step, hk, if_neg hfresh, create_eq, if_neg (Nat.not_le_of_lt hroom)]
    rfl
  | resume k f p input w next hk h => simp only [step, hk, h]
  | runTask id reason h => exact if_pos h
  | getSession => rfl

theorem arrival_cases (req : NotarizeRequest) :
    (∃ reply, arrival N req = .refused reply) ∨ ∃ job, arrival N req = .creating job := by
  unfold arrival
  split
  · exact Or.inl ⟨_, rfl⟩
  · exact Or.inr ⟨_, rfl⟩

theorem arrival_record (req : NotarizeRequest) (tasks : List (String × String)) :
    Stage.record tasks (arrival N req) = none := by
  rcases arrival_cases (N := N) req with ⟨reply, h⟩ | ⟨job, h⟩ <;> rw [h] <;> rfl

theorem account_stage {handlers : Store ℕ (Stage N)} {k : ℕ} {stage : Stage N}
    (h : handlers.lookup k = some stage) (tasks : List (String × String)) :
    account handlers tasks k = Stage.record tasks stage := by
  rw [account, h]
  rfl

theorem account_absent {handlers : Store ℕ (Stage N)} {k : ℕ}
    (h : handlers.lookup k = none) (tasks : List (String × String)) :
    account handlers tasks k = none := by
  rw [account, h]
  rfl

theorem account_insert (handlers : Store ℕ (Stage N)) (tasks : List (String × String))
    (k : ℕ) (stage : Stage N) (j : ℕ) :
    account (handlers.insert k stage) tasks j =
      if j = k then Stage.record tasks stage else account handlers tasks j := by
  rw [account, lookup_insert_if]
  split <;> rfl

@[simp] theorem write_handlers (s : State N) (id : String) (w : Option Write) :
    (s.write id w).handlers = s.handlers := by
  cases w <;> rfl

@[simp] theorem write_tasks (s : State N) (id : String) (w : Option Write) :
    (s.write id w).tasks = s.tasks := by
  cases w <;> rfl

@[simp] theorem write_usedIds (s : State N) (id : String) (w : Option Write) :
    (s.write id w).usedIds = s.usedIds := by
  cases w <;> rfl

@[simp] theorem write_signatures (s : State N) (id : String) (w : Option Write) :
    (s.write id w).signatures = s.signatures := by
  cases w <;> rfl

@[simp] theorem write_capacity (s : State N) (id : String) (w : Option Write) :
    (s.write id w).store.maxSessions = s.store.maxSessions := by
  cases w with
  | none => rfl
  | some w => cases w <;> exact withSession_capacity _ _ _

theorem step_capacity {s s' : State N} (a : Action) (h : step s a = some s') :
    s'.store.maxSessions = s.store.maxSessions := by
  cases step_stepped a h with
  | resume k f p input w next => exact write_capacity s f.sessionId w
  | runTask => exact withSession_capacity _ _ _
  | request | overload | create | getSession => rfl

theorem resumed_handlers (s : State N) (k : ℕ) (w : Option Write) (next : Next f) :
    (s.resumed k w next).handlers = s.handlers.insert k next.stage := by
  rw [State.resumed, State.place, write_handlers]

theorem resumed_tasks (s : State N) (k : ℕ) (w : Option Write) (next : Next f) :
    (s.resumed k w next).tasks = s.tasks ++ next.spawned := by
  rw [State.resumed, State.place, write_tasks]

theorem write_lookup (s : State N) (id : String) (w : Option Write) (r : NotarySession)
    (h : s.store.sessions.lookup id = some r) (j : String) :
    (s.write id w).store.sessions.lookup j =
      if j = id then some (w.elim r (Write.effect r)) else s.store.sessions.lookup j := by
  cases w with
  | none =>
    split
    · rename_i hj
      rw [hj]
      exact h
    · rfl
  | some w =>
    rw [State.write, apply_present w s.store id r h]
    exact lookup_insert_if _ _ _ _

theorem write_discarded (s : State N) (id : String) (w : Option Write) (r : NotarySession)
    (h : s.store.sessions.lookup id = some r) (q : Except NotaryError Unit)
    (hq : q ∈ (s.write id w).discarded) : q ∈ s.discarded ∨ q = .ok () := by
  cases w with
  | none => exact Or.inl hq
  | some w =>
    rw [State.write, apply_present w s.store id r h] at hq
    simpa using hq

theorem pending_iff (tasks : List (String × String)) (id : String) :
    pending tasks id = true ↔ ∃ reason, (id, reason) ∈ tasks := by
  simp only [pending, List.any_eq_true, decide_eq_true_eq]
  constructor
  · rintro ⟨⟨i, reason⟩, h, rfl⟩
    exact ⟨reason, h⟩
  · rintro ⟨reason, h⟩
    exact ⟨_, h, rfl⟩

theorem pending_spawned (next : Next f) (tasks : List (String × String)) (id : String)
    (h : id ≠ f.sessionId) : pending (tasks ++ next.spawned) id = pending tasks id := by
  rw [Bool.eq_iff_iff, pending_iff, pending_iff]
  refine exists_congr fun reason => ?_
  rw [List.mem_append, or_iff_left]
  intro hm
  cases next with
  | goOn p => cases hm
  | exit x =>
    obtain ⟨m, -, he⟩ := Option.map_eq_some_iff.mp (Option.mem_toList.mp hm)
    exact h (congrArg Prod.fst he).symm

theorem record_next (next : Next f) (tasks : List (String × String))
    (h : ∀ reason, (f.sessionId, reason) ∉ tasks) :
    Stage.record (tasks ++ next.spawned) next.stage = some next.record := by
  cases next with
  | goOn p => rfl
  | exit x =>
    have hp : pending (tasks ++ (Next.exit x).spawned) f.sessionId = x.setFailed.isSome := by
      rw [Bool.eq_iff_iff, pending_iff, Option.isSome_iff_exists]
      refine exists_congr fun reason => ?_
      simp [Next.spawned, h reason]
    simp only [Next.stage, Stage.record, hp, Next.record]

theorem spawned_mem (next : Next f) (id reason : String) (h : (id, reason) ∈ next.spawned) :
    ∃ x, next = .exit x ∧ f.sessionId = id ∧ x.setFailed = some reason := by
  cases next with
  | goOn p => cases h
  | exit x =>
    obtain ⟨m, hm, he⟩ := Option.map_eq_some_iff.mp (Option.mem_toList.mp h)
    cases he
    exact ⟨x, rfl, rfl, hm⟩

theorem spawned_unique (next : Next f) (tasks : List (String × String))
    (ht : (tasks.map Prod.fst).Nodup) (h : ∀ reason, (f.sessionId, reason) ∉ tasks) :
    ((tasks ++ next.spawned).map Prod.fst).Nodup := by
  cases next with
  | goOn p => simpa [Next.spawned] using ht
  | exit x =>
    cases hx : x.setFailed with
    | none => simpa [Next.spawned, hx] using ht
    | some reason =>
      simp only [Next.spawned, hx, Option.map_some, Option.toList_some, List.map_append,
        List.map_cons, List.map_nil]
      refine List.nodup_append.mpr ⟨ht, List.nodup_singleton _, ?_⟩
      rintro _ hm _ hs rfl
      obtain ⟨⟨id, m⟩, hmem, hid⟩ := List.mem_map.mp hm
      rw [List.mem_singleton] at hs
      exact h m (hs ▸ hid ▸ hmem)

/-- A property that every stage starts with and every resumption keeps holds
of all handlers of a run. -/
theorem stages_of_run {ok : State N → Action → Prop} (good : ℕ → Stage N → Prop)
    (hrefused : ∀ k reply, good k (.refused reply)) (hcreating : ∀ k job, good k (.creating job))
    (hcreated : ∀ k f, good k (.live f .created))
    (hresume : ∀ s k (f : Fetch N) p input w next, ok s (.resume k input) →
      s.handlers.lookup k = some (.live f p) → good k (.live f p) →
      advance f p input = some (w, next) → good k next.stage)
    (maxSessions : ℕ) (trace : List (Action × State N)) (s : State N)
    (h : Run (Within ok (Steps step)) (init N maxSessions) trace s) (k : ℕ) (stage : Stage N)
    (hk : s.handlers.lookup k = some stage) : good k stage := by
  refine h.invariant (fun s => ∀ k stage, s.handlers.lookup k = some stage → good k stage)
    (by simp [init]) ?_ k stage hk
  intro s a s' hinv hs
  have insert_good : ∀ j new, good j new → ∀ k stage,
      (s.handlers.insert j new).lookup k = some stage → good k stage := by
    intro j new hnew k stage hk
    rw [lookup_insert_if] at hk
    split at hk
    · rename_i hkj
      cases hk
      exact hkj ▸ hnew
    · exact hinv k stage hk
  cases step_stepped a hs.2 with
  | request j req =>
    refine insert_good j _ ?_
    rcases arrival_cases (N := N) req with ⟨reply, hr⟩ | ⟨job, hj⟩
    · exact hr ▸ hrefused j reply
    · exact hj ▸ hcreating j job
  | overload j => exact insert_good j _ (hrefused j _)
  | create j f => exact insert_good j _ (hcreated j f)
  | resume j f p input w next hj hadv =>
    rw [resumed_handlers]
    exact insert_good j _ (hresume s j f p input w next hs.1 hj (hinv j _ hj) hadv)
  | runTask | getSession => exact hinv

end ZkTls.NotaryMachine
