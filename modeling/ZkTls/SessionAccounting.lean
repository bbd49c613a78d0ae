import ZkTls.LeakyPermits
import ZkTls.ProofVerifier
import ZkTls.SessionLeaks
import ZkTls.StoreCapacity

/-!
# Where the active sessions are

Every active session is held by a handler or by a failure task, or was left
behind by a handler that returned. The count is exact, so the session store
is a semaphore whose permits leak: it refuses a request exactly when the
sessions held and left behind fill it, and a store full of sessions left
behind refuses every request from then on.
-/

set_option autoImplicit false

namespace ZkTls.SessionAccounting
open ZkTls.CoreTypes ZkTls.FieldExtraction ZkTls.FiniteStore ZkTls.LabelledRun
open ZkTls.NotarySessions ZkTls.NotaryMachine ZkTls.NotaryInvariant ZkTls.LeakyPermits
open ZkTls.SessionLeaks ZkTls.StoreCapacity ZkTls.ProofVerifier ZkTls.SessionProofs
open ZkTls.SessionLifecycle ZkTls.RecordedPlatform

variable {P : Platform} {N : Notary P} {f : Fetch N}

theorem leaks_no_task (x : Exit f) (h : Exit.leaks x = true) : x.setFailed = none := by
  cases x with
  | fetchFailed | badStatus => cases h
  | _ => rfl

/-- A returned handler's session is active when it leaked or awaits its
failure task. -/
theorem exit_record_active (b : Bool) (x : Exit f) :
    active (x.record b) = (Exit.leaks x || (b && x.setFailed.isSome)) := by
  cases x with
  | fetchFailed | badStatus => cases b <;> rfl
  | _ => cases b <;> rfl

def Stage.awaiting (tasks : List (String × String)) : Stage N → Bool
  | .returned f _ => pending tasks f.sessionId
  | _ => false

/-- The handlers that returned with their failure task still to run. -/
def awaiting (s : State N) : Finset ℕ := keysWith (Stage.awaiting s.tasks) s.handlers

/-- The handlers that account for an active record. -/
def accountable (s : State N) : Finset ℕ :=
  keysWith (fun stage => (Stage.record s.tasks stage).any active) s.handlers

theorem mem_accounting (q : NotarySession → Bool) (s : State N) (k : ℕ) :
    k ∈ keysWith (fun stage => (Stage.record s.tasks stage).any q) s.handlers ↔
      ∃ r, expected s k = some r ∧ q r = true := by
  rw [mem_keysWith]
  constructor
  · rintro ⟨stage, hstage, hany⟩
    obtain ⟨r, hr, hq⟩ := (Option.any_eq_true _ _).mp hany
    exact ⟨r, (account_stage hstage s.tasks).trans hr, hq⟩
  · rintro ⟨r, hr, hq⟩
    obtain ⟨stage, hstage, hrec⟩ := Option.bind_eq_some_iff.mp hr
    exact ⟨stage, hstage, by simp [hrec, hq]⟩

/-- Records of one kind, all active, and the handlers that account for them,
one to one. -/
theorem accounting_card {s : State N} (hc : Consistent s) (q : NotarySession → Bool)
    (hq : ∀ k r, expected s k = some r → q r = true → r.state.terminal = false) :
    (keysWith q s.store.sessions).card =
      (keysWith (fun stage => (Stage.record s.tasks stage).any q) s.handlers).card := by
  symm
  refine Finset.card_bij (fun k _ => ((expected s k).map NotarySession.id).getD "")
    (fun k hk => ?_) (fun k hk j hj heq => ?_) (fun id hid => ?_)
  · obtain ⟨r, hr, hqr⟩ := (mem_accounting q s k).mp hk
    have hpresent := (hc.held k r hr).active (hq k r hr hqr)
    rw [hr]
    exact (mem_keysWith _ _ _).mpr ⟨r, hpresent, hqr⟩
  · obtain ⟨r, hr, -⟩ := (mem_accounting q s k).mp hk
    obtain ⟨r', hr', -⟩ := (mem_accounting q s j).mp hj
    exact hc.ownerUnique k j r r' hr hr' (by simpa [hr, hr'] using heq)
  · obtain ⟨r, hr, hqr⟩ := (mem_keysWith _ _ _).mp hid
    obtain ⟨hrid, k, hk⟩ := hc.owned id r hr
    exact ⟨k, (mem_accounting q s k).mpr ⟨r, hk, hqr⟩, by simp [hk, hrid]⟩

theorem active_accountable {s : State N} (hc : Consistent s) :
    activeCount s.store = (accountable s).card :=
  accounting_card hc active fun k r _ hr => by simpa [active] using hr

/-- Only an exit that spawned a failure task has one pending. -/
theorem pending_setFailed {s : State N} (hc : Consistent s) (k : ℕ) (x : Exit f)
    (hk : s.handlers.lookup k = some (.returned f x))
    (hp : pending s.tasks f.sessionId = true) : x.setFailed.isSome = true := by
  obtain ⟨reason, ht⟩ := (pending_iff _ _).mp hp
  obtain ⟨j, g, y, hj, hid, hy⟩ := hc.taskOwned _ _ ht
  have hjk := hc.ownerUnique j k _ _ (account_stage hj s.tasks) (account_stage hk s.tasks)
    (by simp [hid])
  rw [hjk, hk] at hj
  cases hj
  simp [hy]

/-- An accountable handler is running, has leaked, or awaits its task. -/
theorem stage_active {s : State N} (hc : Consistent s) (k : ℕ) (stage : Stage N)
    (hk : s.handlers.lookup k = some stage) :
    ((Stage.record s.tasks stage).any active).toNat =
      (Stage.holding stage).toNat +
        ((Stage.leaked stage).toNat + (Stage.awaiting s.tasks stage).toNat) := by
  cases stage with
  | refused | creating => rfl
  | live f p =>
    have hactive : active p.record = true := by rw [active, phase_record_active]; rfl
    simp [Stage.record, Stage.holding, Stage.leaked, Stage.awaiting, hactive]
  | returned f x =>
    have hnone := leaks_no_task x
    have htask := pending_setFailed hc k x hk
    simp only [Stage.record, Stage.holding, Stage.leaked, Stage.awaiting, Option.any_some,
      exit_record_active]
    cases hx : Exit.leaks x with
    | true =>
      rw [hnone hx] at htask ⊢
      cases hp : pending s.tasks f.sessionId with
      | true => simp [hp] at htask
      | false => rfl
    | false =>
      cases hp : pending s.tasks f.sessionId with
      | true => simp [htask hp]
      | false => rfl

theorem mem_awaiting {s : State N} (k : ℕ) :
    k ∈ awaiting s ↔ ∃ r, expected s k = some r ∧ (∃ f x,
      s.handlers.lookup k = some (.returned f x) ∧ f.sessionId = r.id) ∧
      r.id ∈ s.tasks.map Prod.fst := by
  have hmem : ∀ id, pending s.tasks id = true ↔ id ∈ s.tasks.map Prod.fst := by
    intro id
    rw [pending_iff, List.mem_map]
    constructor
    · rintro ⟨reason, h⟩
      exact ⟨_, h, rfl⟩
    · rintro ⟨⟨_, reason⟩, h, rfl⟩
      exact ⟨reason, h⟩
  rw [awaiting, mem_keysWith]
  constructor
  · rintro ⟨stage, hstage, hawait⟩
    cases stage with
    | returned f x =>
      exact ⟨_, account_stage hstage s.tasks, ⟨f, x, hstage, (exit_record_id _ x).symm⟩,
        (exit_record_id _ x).symm ▸ (hmem _).mp hawait⟩
    | _ => cases hawait
  · rintro ⟨r, -, ⟨f, x, hk, hid⟩, htask⟩
    exact ⟨_, hk, (hmem _).mpr (hid ▸ htask)⟩

/-- The pending tasks and the handlers that await them, one to one. -/
theorem awaiting_card {s : State N} (hc : Consistent s) :
    (awaiting s).card = s.tasks.length := by
  rw [← List.length_map (f := Prod.fst), ← List.toFinset_card_of_nodup hc.tasksUnique]
  refine Finset.card_bij (fun k _ => ((expected s k).map NotarySession.id).getD "")
    (fun k hk => ?_) (fun k hk j hj heq => ?_) (fun id hid => ?_)
  · obtain ⟨r, hr, -, htask⟩ := (mem_awaiting k).mp hk
    rw [hr]
    exact List.mem_toFinset.mpr htask
  · obtain ⟨r, hr, -⟩ := (mem_awaiting k).mp hk
    obtain ⟨q, hq, -⟩ := (mem_awaiting j).mp hj
    exact hc.ownerUnique k j r q hr hq (by simpa [hr, hq] using heq)
  · have hid' := List.mem_toFinset.mp hid
    obtain ⟨⟨_, reason⟩, ht, rfl⟩ := List.mem_map.mp hid'
    obtain ⟨k, f, x, hk, hfid, -⟩ := hc.taskOwned _ _ ht
    have hexp : expected s k = some _ := account_stage hk s.tasks
    refine ⟨k, (mem_awaiting k).mpr ⟨_, hexp, ⟨f, x, hk, (exit_record_id _ x).symm⟩, ?_⟩, ?_⟩
    · rw [exit_record_id, hfid]
      exact hid'
    · simp [hexp, hfid]

/-- Every active session is held by a running handler, awaits its failure
task, or was left behind. -/
theorem active_census {s : State N} (hc : Consistent s) :
    activeCount s.store = (busy s).card + s.tasks.length + (leaked s).card := by
  rw [active_accountable hc, accountable, card_keysWith,
    total_split _ _ _ _ (stage_active hc), total_split _ _ _ _ fun _ _ _ => rfl, ← card_keysWith,
    ← card_keysWith, ← card_keysWith, ← awaiting_card hc]
  simp only [busy, leaked, awaiting]
  omega

/-- The permits a state of the notary stands for. -/
structure StandsFor (s : State N) (p : Permits) : Prop where
  capacity : p.capacity = s.store.maxSessions
  held : p.held = (busy s).card + s.tasks.length
  lost : p.lost = (leaked s).card

theorem exists_permits {maxSessions : ℕ} {s : State N} (hc : Consistent s)
    (hb : Bounded maxSessions s.store) : ∃ p, StandsFor s p := by
  have hcensus := active_census hc
  have hle := (active_le_size s.store).trans hb.within
  rw [← hb.capacity] at hle
  exact ⟨⟨s.store.maxSessions, (busy s).card + s.tasks.length, (leaked s).card, by omega⟩,
    rfl, rfl, rfl⟩

def Exit.event (x : Exit f) : Event :=
  if Exit.leaks x then .lost else if x.setFailed.isSome then .idle else .released

/-- What an action that led to a state did to the permits. -/
def event (s' : State N) : Action → Event
  | .create k _ _ =>
    match s'.handlers.lookup k with
    | some (.live _ _) => .acquired
    | _ => .refused
  | .resume k _ =>
    match s'.handlers.lookup k with
    | some (.returned _ x) => Exit.event x
    | _ => .idle
  | .runTask _ _ => .released
  | _ => .idle

/-- How one handler's new stage changes the counts. -/
theorem recount (s s' : State N) (k : ℕ) (old : Option (Stage N)) (new : Stage N)
    (hk : s.handlers.lookup k = old) (hs' : s'.handlers = s.handlers.insert k new) :
    (busy s').card + (old.any Stage.holding).toNat =
        (busy s).card + (Stage.holding new).toNat ∧
      (leaked s').card + (old.any Stage.leaked).toNat =
        (leaked s).card + (Stage.leaked new).toNat := by
  rw [busy, busy, leaked, leaked, hs', ← hk]
  exact ⟨card_keysWith_insert _ _ k new, card_keysWith_insert _ _ k new⟩

section Turns
variable {maxSessions : ℕ} {s s' : State N} {p q : Permits}

theorem request_turn (hp : StandsFor s p) (k : ℕ) (req : NotarizeRequest) (hk : k ∉ s.handlers)
    (hq : StandsFor (s.arrived k req) q) : Turn p .idle q := by
  obtain ⟨hbusy, hleaked⟩ := recount s (s.arrived k req) k none (arrival N req)
    (Finmap.lookup_eq_none.mpr hk) rfl
  have hnew : Stage.holding (arrival N req) = false ∧ Stage.leaked (arrival N req) = false := by
    rcases arrival_cases (N := N) req with ⟨reply, hr⟩ | ⟨job, hj⟩
    · rw [hr]; exact ⟨rfl, rfl⟩
    · rw [hj]; exact ⟨rfl, rfl⟩
  rw [hnew.1] at hbusy
  rw [hnew.2] at hleaked
  have htasks : (s.arrived k req).tasks.length = s.tasks.length := rfl
  have hheld := hp.held
  have hheld' := hq.held
  refine turn_idle p q (hq.capacity.trans hp.capacity.symm) ?_ ?_
  · simp only [Option.any_none, Bool.toNat_false] at hbusy
    omega
  · rw [hp.lost, hq.lost]
    exact hleaked

/-- A refused creation has found every permit held or lost. -/
theorem overload_turn (hc : Consistent s) (hb : Bounded maxSessions s.store)
    (hp : StandsFor s p) (k : ℕ) (job : Job N)
    (hk : s.handlers.lookup k = some (.creating job))
    (hfull : s.store.maxSessions ≤ (makeRoom s.store).keys.card)
    (hq : StandsFor (s.overloaded k) q) : Turn p .refused q := by
  obtain ⟨hbusy, hleaked⟩ := recount s (s.overloaded k) k _ _ hk rfl
  have hactive := (makeRoom_full hb hfull).2
  rw [← hb.capacity, active_census hc] at hactive
  have htasks : (s.overloaded k).tasks.length = s.tasks.length := rfl
  have hcapacity := hp.capacity
  have hheld := hp.held
  have hheld' := hq.held
  have hlost := hp.lost
  refine turn_refused p q (hq.capacity.trans hp.capacity.symm) ?_ ?_ (by omega)
  · simp only [Option.any_some, Stage.holding, Bool.toNat_false] at hbusy
    omega
  · rw [hp.lost, hq.lost]
    exact hleaked

theorem create_turn (hp : StandsFor s p) (k : ℕ) (f : Fetch N)
    (hk : s.handlers.lookup k = some (.creating f.toJob)) (hq : StandsFor (s.opened k f) q) :
    Turn p .acquired q := by
  obtain ⟨hbusy, hleaked⟩ := recount s (s.opened k f) k _ _ hk rfl
  have htasks : (s.opened k f).tasks.length = s.tasks.length := rfl
  have hheld := hp.held
  have hheld' := hq.held
  refine .acquired p q (hq.capacity.trans hp.capacity.symm) ?_ ?_
  · simp only [Option.any_some, Stage.holding, Bool.toNat_false, Bool.toNat_true] at hbusy
    omega
  · rw [hp.lost, hq.lost]
    exact hleaked

theorem exit_turn (hp : StandsFor s p) (hq : StandsFor s' q)
    (hcapacity : s'.store.maxSessions = s.store.maxSessions) (x : Exit f)
    (hbusy : (busy s').card + 1 = (busy s).card)
    (hleaked : (leaked s').card = (leaked s).card + (Exit.leaks x).toNat)
    (htasks : s'.tasks.length = s.tasks.length + x.setFailed.isSome.toNat) :
    Turn p (Exit.event x) q := by
  have hcap : q.capacity = p.capacity := hq.capacity.trans (hcapacity.trans hp.capacity.symm)
  have hheld := hp.held
  have hheld' := hq.held
  have hlost := hp.lost
  have hlost' := hq.lost
  unfold Exit.event
  cases hx : Exit.leaks x with
  | true =>
    simp only [leaks_no_task x hx, hx, Option.isSome_none, Bool.toNat_false, Bool.toNat_true]
      at htasks hleaked
    exact .lost p q hcap (by omega) (by omega)
  | false =>
    cases hset : x.setFailed.isSome with
    | true =>
      simp only [hset, hx, Bool.toNat_false, Bool.toNat_true] at htasks hleaked
      exact turn_idle p q hcap (by omega) (by omega)
    | false =>
      simp only [hset, hx, Bool.toNat_false] at htasks hleaked
      exact .released p q hcap (by omega) (by omega)

theorem resume_turn (hp : StandsFor s p) (k : ℕ) (ph : Phase f)
    (hk : s.handlers.lookup k = some (.live f ph)) (input : Input) (w : Option Write)
    (next : Next f) (hq : StandsFor (s.resumed k w next) q) :
    Turn p (event (s.resumed k w next) (.resume k input)) q := by
  have hlookup : (s.resumed k w next).handlers.lookup k = some next.stage := by
    rw [resumed_handlers, Finmap.lookup_insert]
  have hcapacity : (s.resumed k w next).store.maxSessions = s.store.maxSessions :=
    write_capacity s f.sessionId w
  obtain ⟨hbusy, hleaked⟩ := recount s _ k _ _ hk (resumed_handlers s k w next)
  have htasks := congrArg List.length (resumed_tasks s k w next)
  rw [List.length_append] at htasks
  rw [event, hlookup]
  cases next with
  | goOn ph' =>
    simp only [Next.stage, Next.spawned, Option.any_some, Stage.holding, Stage.leaked,
      Bool.toNat_false, Bool.toNat_true, List.length_nil] at hbusy hleaked htasks
    have hheld := hp.held
    have hheld' := hq.held
    have hlost := hp.lost
    have hlost' := hq.lost
    exact turn_idle p q (hq.capacity.trans (hcapacity.trans hp.capacity.symm)) (by omega)
      (by omega)
  | exit x =>
    refine exit_turn hp hq hcapacity x ?_ ?_ ?_
    · simpa [Next.stage, Stage.holding] using hbusy
    · simpa [Next.stage, Stage.leaked] using hleaked
    · rw [htasks]
      cases hx : x.setFailed <;> simp [Next.spawned, hx]

theorem failed_turn (hp : StandsFor s p) (id reason : String) (ht : (id, reason) ∈ s.tasks)
    (hq : StandsFor (s.failed id reason) q) : Turn p .released q := by
  have hcapacity : (s.failed id reason).store.maxSessions = s.store.maxSessions :=
    withSession_capacity _ _ _
  have htasks : (s.failed id reason).tasks.length + 1 = s.tasks.length := by
    have hpos := List.length_pos_of_mem ht
    rw [State.failed, List.length_erase_of_mem ht]
    omega
  have hbusy : busy (s.failed id reason) = busy s := rfl
  have hleaked : leaked (s.failed id reason) = leaked s := rfl
  have hheld := hp.held
  have hheld' := hq.held
  rw [hbusy] at hheld'
  refine .released p q (hq.capacity.trans (hcapacity.trans hp.capacity.symm)) (by omega) ?_
  rw [hp.lost, hq.lost, hleaked]

/-- One step of the notary is one turn of the permits. -/
theorem step_turn (hc : Consistent s) (hb : Bounded maxSessions s.store) (a : Action)
    (h : step s a = some s') (hp : StandsFor s p) (hq : StandsFor s' q) :
    Turn p (event s' a) q := by
  cases step_stepped a h with
  | request k req hk => exact request_turn hp k req hk hq
  | overload k uuid now job hk hfresh hfull =>
    have hlookup := Finmap.lookup_insert s.handlers (a := k) (b := (.refused
      ⟨503, (NotaryError.tooManySessions s.store.maxSessions).toString⟩ : Stage N))
    rw [event, State.overloaded, hlookup]
    exact overload_turn hc hb hp k job hk hfull hq
  | create k f hk hfresh hroom =>
    have hlookup := Finmap.lookup_insert s.handlers (a := k) (b := (.live f .created : Stage N))
    rw [event, State.opened, hlookup]
    exact create_turn hp k f hk hq
  | resume k f ph input w next hk hadv => exact resume_turn hp k ph hk input w next hq
  | runTask id reason ht => exact failed_turn hp id reason ht hq
  | getSession =>
    exact turn_idle p q (hq.capacity.trans hp.capacity.symm) (hq.held.trans hp.held.symm)
      (hq.lost.trans hp.lost.symm)

end Turns

theorem init_permits (N : Notary P) (maxSessions : ℕ) :
    StandsFor (init N maxSessions) (unused maxSessions) :=
  ⟨rfl, by simp [unused, init, busy, keysWith], by simp [unused, init, leaked, keysWith]⟩

/-- A run of the notary is a run of the permits, step by step. Every session
ever opened is active now or was closed. -/
theorem notary_refines_permits (N : Notary P) (maxSessions : ℕ)
    (trace : List (Action × State N)) (s : State N)
    (h : Run (Steps step) (init N maxSessions) trace s) :
    ∃ image p, Run Turn (unused maxSessions) image p ∧ StandsFor s p ∧
      List.Forall₂ (fun x y => y.1 = event x.2 x.1 ∧ StandsFor x.2 y.2) trace image ∧
      times .acquired image = activeCount s.store + times .released image ∧
      times .lost image = (leaked s).card := by
  obtain ⟨image, p, hrun, ⟨hc, -, hp⟩, hall⟩ := h.simulated
    (fun s p => Consistent s ∧ Bounded maxSessions s.store ∧ StandsFor s p)
    (fun x e => e = event x.2 x.1)
    ⟨init_consistent N maxSessions, new_bounded maxSessions, init_permits N maxSessions⟩
    fun s a s' p ⟨hc, hb, hp⟩ hstep => by
      have hc' := step_consistent a hc hstep
      have hb' := notary_step_bounded hc hb a hstep
      obtain ⟨q, hq⟩ := exists_permits hc' hb'
      exact ⟨_, q, rfl, step_turn hc hb a hstep hp hq, hc', hb', hq⟩
  obtain ⟨hopened, hlost⟩ := run_conserved hrun
  have hcensus := active_census hc
  have hheld := hp.held
  have hleaked := hp.lost
  simp only [unused, Nat.zero_add] at hopened hlost
  refine ⟨image, p, hrun, hp, hall.imp fun _ _ h => ⟨h.1, h.2.2.2⟩, ?_, ?_⟩
  · omega
  · omega

/-- The reply of the info endpoint. -/
structure NotaryInfoResponse where
  publicKey : String
  name : String
  templates : List String
  activeSessions : ℕ

def notaryInfo (s : State N) : NotaryInfoResponse where
  publicKey := hexEncode (publicKeyBytes N.keypair)
  name := "PlausiDen zkTLS Notary"
  templates := VerificationTemplates.listIds N.templates
  activeSessions := activeCount s.store

/-- What the reported number of active sessions is made of, and what it
decides. -/
structure Census (maxSessions : ℕ) (s : State N) : Prop where
  reported : (notaryInfo s).activeSessions =
    (busy s).card + s.tasks.length + (leaked s).card
  within : (notaryInfo s).activeSessions ≤ maxSessions
  creation : ∀ k job uuid now, s.handlers.lookup k = some (.creating job) → uuid ∉ s.usedIds →
    step s (.create k uuid now) = some
      (if (busy s).card + s.tasks.length + (leaked s).card = maxSessions then s.overloaded k
        else s.opened k ⟨job, uuid, now⟩)

theorem creation_outcome {maxSessions : ℕ} {s : State N} (hb : Bounded maxSessions s.store)
    (k : ℕ) (job : Job N) (uuid : String) (now : DateTime)
    (hk : s.handlers.lookup k = some (.creating job)) (hfresh : uuid ∉ s.usedIds) :
    step s (.create k uuid now) = some
      (if activeCount s.store = maxSessions then s.overloaded k
        else s.opened k ⟨job, uuid, now⟩) := by
  by_cases hfull : s.store.maxSessions ≤ (makeRoom s.store).keys.card
  · rw [if_pos (makeRoom_full hb hfull).2]
    exact step_of_stepped _ (.overload k uuid now job hk hfresh hfull)
  · rw [if_neg fun hactive => hfull (full_of_active hb hactive)]
    exact step_of_stepped _ (.create k ⟨job, uuid, now⟩ hk hfresh (Nat.lt_of_not_le hfull))

theorem session_census (N : Notary P) (maxSessions : ℕ) (trace : List (Action × State N))
    (s : State N) (h : Run (Steps step) (init N maxSessions) trace s) :
    Census maxSessions s := by
  have hb := reachable_bounded maxSessions trace s h
  have hexact := active_census (run_consistent N maxSessions trace s h)
  refine ⟨hexact, (active_le_size s.store).trans hb.within, fun k job uuid now hk hfresh => ?_⟩
  rw [← hexact]
  exact creation_outcome hb k job uuid now hk hfresh

section Exhausted
variable {maxSessions : ℕ} {s s' : State N}

/-- With every permit lost, all that can happen is an arrival, a refusal or a
read. -/
theorem exhausted_step (hc : Consistent s) (hb : Bounded maxSessions s.store)
    (hc' : Consistent s') (hb' : Bounded maxSessions s'.store)
    (hall : (leaked s).card = maxSessions) (a : Action) (h : step s a = some s') :
    s'.store = s.store ∧ s'.signatures = s.signatures ∧ (leaked s').card = maxSessions ∧
      ∀ k uuid now, a = .create k uuid now →
        turnedDown s' k = some (503, (NotaryError.tooManySessions maxSessions).toString) := by
  obtain ⟨p, hp⟩ := exists_permits hc hb
  obtain ⟨q, hq⟩ := exists_permits hc' hb'
  have hlost : p.lost = p.capacity := by rw [hp.lost, hp.capacity, hall, hb.capacity]
  obtain ⟨hsame, hevent⟩ := turn_exhausted (step_turn hc hb a h hp hq) hlost
  have hleaked : (leaked s').card = maxSessions := by
    rw [← hq.lost, hsame, hp.lost, hall]
  cases step_stepped a h with
  | request k req hk => exact ⟨rfl, rfl, hleaked, by simp⟩
  | overload k uuid now job hk hfresh hfull =>
    refine ⟨?_, rfl, hleaked, ?_⟩
    · rw [State.overloaded, (makeRoom_full hb hfull).1]
    · rintro _ _ _ ⟨⟩
      rw [turnedDown, State.overloaded, Finmap.lookup_insert, hb.capacity]
  | create k f hk hfresh hroom =>
    simp [event, State.opened] at hevent
  | resume k f ph input w next hk hadv =>
    have hbusy := Finset.card_pos.mpr
      ⟨k, (mem_keysWith Stage.holding s.handlers k).mpr ⟨_, hk, rfl⟩⟩
    have hheld := hp.held
    have hwithin := p.within
    rw [busy] at hheld
    omega
  | runTask id reason ht => simp [event] at hevent
  | getSession => exact ⟨rfl, rfl, hleaked, by simp⟩

/-- Once the sessions left behind fill the store, nothing is stored, signed
or admitted any more, whatever requests come. -/
theorem exhausted_for_good (N : Notary P) (maxSessions : ℕ)
    (trace after : List (Action × State N)) (s t : State N)
    (h : Run (Steps step) (init N maxSessions) trace s)
    (hall : (leaked s).card = maxSessions) (h' : Run (Steps step) s after t) :
    t.store = s.store ∧ t.signatures = s.signatures ∧
      ∀ e ∈ after, ∀ k uuid now, e.1 = .create k uuid now →
        turnedDown e.2 k = some (503, (NotaryError.tooManySessions maxSessions).toString) := by
  suffices hkept : (leaked t).card = maxSessions ∧ t.store = s.store ∧
      t.signatures = s.signatures ∧ ∀ e ∈ after, ∀ k uuid now, e.1 = .create k uuid now →
        turnedDown e.2 k = some (503, (NotaryError.tooManySessions maxSessions).toString) from
    hkept.2
  induction h' with
  | nil => exact ⟨hall, rfl, rfl, by simp⟩
  | @snoc after t t' a hrun hstep ih =>
    obtain ⟨hleaked, hstore, hsigned, hdown⟩ := ih
    have hreach := h.trans hrun
    have hreach' := h.trans (hrun.snoc hstep)
    obtain ⟨hstore', hsigned', hleaked', hdown'⟩ := exhausted_step
      (run_consistent N maxSessions _ t hreach) (reachable_bounded maxSessions _ t hreach)
      (run_consistent N maxSessions _ t' hreach') (reachable_bounded maxSessions _ t' hreach')
      hleaked a hstep
    refine ⟨hleaked', hstore'.trans hstore, hsigned'.trans hsigned, fun e he => ?_⟩
    rcases List.mem_append.mp he with he | he
    · exact hdown e he
    · rw [List.mem_singleton.mp he]
      exact hdown'

end Exhausted

/-- One session left behind, one still being fetched, one waiting for its
failure task. -/
def mixedRun : List Action :=
  emptyBodyRun ++
    [.request 1 ⟨"utah-voter-v1", none, none⟩,
      .create 1 secondId noon.proofTime,
      .resume 1 .proceed,
      .request 2 ⟨"utah-voter-v1", none, none⟩,
      .create 2 "c1f6a7e0-93d4-4b58-8a2d-5e07f1b6d943" 1779796810000000000,
      .resume 2 .proceed, .resume 2 .clientBuilt, .resume 2 .csrfFailed, .resume 2 .proceed,
      .resume 2 (.sendFailed "connection refused")]

def whereabouts (s : State N) : ℕ × ℕ × ℕ := ((busy s).card, s.tasks.length, (leaked s).card)

theorem mixed_reached : ∃ trace s, Run (Steps step) (init emptyNotary 3) trace s ∧
    trace.map Prod.fst = mixedRun ∧ whereabouts s = (1, 1, 1) :=
  observed_run step mixedRun (init emptyNotary 3) whereabouts (1, 1, 1) (by decide +kernel)

theorem mixed_census :
    ∃ trace s, Run (Steps step) (init emptyNotary 3) trace s ∧ whereabouts s = (1, 1, 1) ∧
      Census 3 s := by
  obtain ⟨trace, s, hrun, -, hobs⟩ := mixed_reached
  exact ⟨trace, s, hrun, hobs, session_census emptyNotary 3 trace s hrun⟩

theorem mixed_permits :
    ∃ trace s image p, Run (Steps step) (init emptyNotary 3) trace s ∧
      whereabouts s = (1, 1, 1) ∧ Run Turn (unused 3) image p ∧ StandsFor s p ∧
      times .lost image = (leaked s).card := by
  obtain ⟨trace, s, hrun, -, hobs⟩ := mixed_reached
  obtain ⟨image, p, hturns, hp, -, -, hlost⟩ := notary_refines_permits emptyNotary 3 trace s hrun
  exact ⟨trace, s, image, p, hrun, hobs, hturns, hp, hlost⟩

/-- A store of one session that one voter who was not found has closed. -/
theorem closed_by_one_voter :
    ∃ trace s, Run (Steps step) (init emptyNotary 1) trace s ∧ (leaked s).card = 1 ∧
      ∃ after t, Run (Steps step) s after t ∧ after.length = 3 ∧ t.store = s.store ∧
        t.signatures = s.signatures := by
  obtain ⟨trace, s, hrun, -, hobs⟩ := observed_run step emptyBodyRun (init emptyNotary 1)
    (fun s => ((leaked s).card, (exec step s
      [.request 1 ⟨"utah-voter-v1", none, none⟩,
        .create 1 secondId noon.proofTime,
        .getSession firstId]).isSome)) (1, true) (by decide +kernel)
  rw [Prod.mk.injEq] at hobs
  obtain ⟨t, ht⟩ := Option.isSome_iff_exists.mp hobs.2
  obtain ⟨after, hafter, hmap⟩ := run_of_exec step _ s t ht
  obtain ⟨hstore, hsigned, -⟩ :=
    exhausted_for_good emptyNotary 1 trace after s t hrun hobs.1 hafter
  refine ⟨trace, s, hrun, hobs.1, after, t, hafter, ?_, hstore, hsigned⟩
  rw [← List.length_map (f := Prod.fst), hmap]
  rfl

end ZkTls.SessionAccounting
