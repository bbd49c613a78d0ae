import ZkTls.NotarySteps

/-!
# What every reachable state of the notary satisfies

The stage of a handler and its pending failure task determine the record of
its session. Every record in the store is the one its handler determines,
and a determined record that is missing is terminal.
-/

set_option autoImplicit false

namespace ZkTls.NotaryInvariant
open ZkTls.CoreTypes ZkTls.FieldExtraction ZkTls.FiniteStore ZkTls.LabelledRun
open ZkTls.NotarySessions ZkTls.NotaryMachine

variable {P : Platform} {N : Notary P} {f : Fetch N}

/-- A record that stays, or is lost while terminal. -/
def Kept (before after : Option NotarySession) : Prop :=
  after = before ∨ (after = none ∧ ∃ r, before = some r ∧ r.state.terminal = true)

theorem Kept.trans {a b c : Option NotarySession} (h : Kept a b) (h' : Kept b c) :
    Kept a c := by
  rcases h with rfl | ⟨rfl, hr⟩
  · exact h'
  · rcases h' with rfl | ⟨rfl, -⟩ <;> exact Or.inr ⟨rfl, hr⟩

theorem Kept.active {r : NotarySession} {after : Option NotarySession}
    (h : Kept (some r) after) (hr : r.state.terminal = false) : after = some r := by
  rcases h with rfl | ⟨-, q, hq, ht⟩
  · rfl
  · cases hq
    simp [hr] at ht

theorem Kept.present {before : Option NotarySession} {r : NotarySession}
    (h : Kept before (some r)) : before = some r := by
  rcases h with h | ⟨h, -⟩
  · exact h.symm
  · cases h

/-- The store holds what the handlers account for, each session with one
handler. -/
structure Coherent (s : State N) : Prop where
  ownerUnique : ∀ k j r q, expected s k = some r → expected s j = some q → r.id = q.id → k = j
  used : ∀ k r, expected s k = some r → r.id ∈ s.usedIds
  owned : ∀ id r, s.store.sessions.lookup id = some r → r.id = id ∧ ∃ k, expected s k = some r
  held : ∀ k r, expected s k = some r → Kept (some r) (s.store.sessions.lookup r.id)

/-- Steps that leave every account alone and lose terminal records only. -/
theorem Coherent.of_shrink {s s' : State N} (hc : Coherent s)
    (hexp : ∀ k, expected s' k = expected s k)
    (hst : ∀ id, Kept (s.store.sessions.lookup id) (s'.store.sessions.lookup id))
    (hused : s'.usedIds = s.usedIds) : Coherent s' where
  ownerUnique k j r q hk hj :=
    hc.ownerUnique k j r q ((hexp k).symm.trans hk) ((hexp j).symm.trans hj)
  used k r hk := by
    rw [hused]
    exact hc.used k r ((hexp k).symm.trans hk)
  owned id r hr := by
    obtain ⟨hid, k, hk⟩ := hc.owned id r (hr ▸ hst id).present
    exact ⟨hid, k, (hexp k).trans hk⟩
  held k r hk := (hc.held k r ((hexp k).symm.trans hk)).trans (hst r.id)

/-- A step that updates the account of one handler together with its record.
The session was the handler's before, or is new. -/
structure Updates (s s' : State N) (k : ℕ) (r : NotarySession) : Prop where
  self : expected s' k = some r
  others : ∀ j, j ≠ k → expected s' j = expected s j
  record : s'.store.sessions.lookup r.id = some r
  kept : ∀ id, id ≠ r.id → Kept (s.store.sessions.lookup id) (s'.store.sessions.lookup id)
  origin : (∃ q, expected s k = some q ∧ q.id = r.id) ∨
    (expected s k = none ∧ r.id ∉ s.usedIds)
  usedIds : ∀ id ∈ s.usedIds, id ∈ s'.usedIds
  used : r.id ∈ s'.usedIds

section Updates
variable {s s' : State N} {k : ℕ} {r : NotarySession}

/-- The account of another handler is of another session. -/
theorem Updates.other (hu : Updates s s' k r) (hc : Coherent s) {j : ℕ} {q : NotarySession}
    (hj : j ≠ k) (hq : expected s' j = some q) : expected s j = some q ∧ q.id ≠ r.id := by
  have hold := (hu.others j hj).symm.trans hq
  refine ⟨hold, fun hid => ?_⟩
  rcases hu.origin with ⟨o, ho, hoid⟩ | ⟨-, hfresh⟩
  · exact hj (hc.ownerUnique j k q o hold ho (hid.trans hoid.symm))
  · exact hfresh (hid ▸ hc.used j q hold)

/-- An account of another session is that of another handler. -/
theorem Updates.foreign (hu : Updates s s' k r) {j : ℕ} {q : NotarySession}
    (hq : expected s j = some q) (hid : q.id ≠ r.id) : j ≠ k := by
  rintro rfl
  rcases hu.origin with ⟨o, ho, hoid⟩ | ⟨hnone, -⟩
  · cases ho.symm.trans hq
    exact hid hoid
  · cases hnone.symm.trans hq

theorem Updates.ownerUnique (hu : Updates s s' k r) (hc : Coherent s) (i j : ℕ)
    (p q : NotarySession) (hi : expected s' i = some p) (hj : expected s' j = some q)
    (hid : p.id = q.id) : i = j := by
  by_cases hik : i = k <;> by_cases hjk : j = k
  · rw [hik, hjk]
  · subst hik
    cases hu.self.symm.trans hi
    exact absurd hid.symm (hu.other hc hjk hj).2
  · subst hjk
    cases hu.self.symm.trans hj
    exact absurd hid (hu.other hc hik hi).2
  · exact hc.ownerUnique i j p q (hu.other hc hik hi).1 (hu.other hc hjk hj).1 hid

theorem Updates.owned (hu : Updates s s' k r) (hc : Coherent s) (id : String)
    (q : NotarySession) (hq : s'.store.sessions.lookup id = some q) :
    q.id = id ∧ ∃ j, expected s' j = some q := by
  by_cases hid : id = r.id
  · subst hid
    cases hu.record.symm.trans hq
    exact ⟨rfl, k, hu.self⟩
  · obtain ⟨hqid, j, hj⟩ := hc.owned id q (hq ▸ hu.kept id hid).present
    have hjk := hu.foreign hj (hqid ▸ hid)
    exact ⟨hqid, j, (hu.others j hjk).trans hj⟩

theorem Coherent.of_updates (hc : Coherent s) (hu : Updates s s' k r) : Coherent s' where
  ownerUnique := hu.ownerUnique hc
  used j q hq := by
    by_cases hjk : j = k
    · subst hjk
      cases hu.self.symm.trans hq
      exact hu.used
    · exact hu.usedIds _ (hc.used j q (hu.other hc hjk hq).1)
  owned := hu.owned hc
  held j q hq := by
    by_cases hjk : j = k
    · subst hjk
      cases hu.self.symm.trans hq
      exact Or.inl hu.record
    · obtain ⟨hold, hid⟩ := hu.other hc hjk hq
      exact (hc.held j q hold).trans (hu.kept q.id hid)

end Updates

structure Consistent (s : State N) : Prop extends Coherent s where
  tasksUnique : (s.tasks.map Prod.fst).Nodup
  taskOwned : ∀ id reason, (id, reason) ∈ s.tasks → ∃ k f x,
    s.handlers.lookup k = some (.returned f x) ∧ f.sessionId = id ∧ x.setFailed = some reason
  discardedOk : ∀ r ∈ s.discarded, r = .ok ()

theorem taskOwned_insert {s : State N} (hc : Consistent s) (k : ℕ) (stage : Stage N)
    (hk : ∀ f x, s.handlers.lookup k ≠ some (.returned f x)) (id reason : String)
    (ht : (id, reason) ∈ s.tasks) : ∃ j f x,
      (s.handlers.insert k stage).lookup j = some (.returned f x) ∧ f.sessionId = id ∧
        x.setFailed = some reason := by
  obtain ⟨j, g, x, hj, hid, hx⟩ := hc.taskOwned id reason ht
  refine ⟨j, g, x, ?_, hid, hx⟩
  rw [lookup_insert_if, if_neg, hj]
  rintro rfl
  exact hk g x hj

theorem request_consistent {s : State N} (hc : Consistent s) (k : ℕ) (req : NotarizeRequest)
    (hk : k ∉ s.handlers) : Consistent (s.arrived k req) where
  toCoherent := by
    refine hc.toCoherent.of_shrink (fun j => ?_) (fun id => Or.inl rfl) rfl
    refine Eq.trans (account_insert _ _ k _ j) ?_
    split
    · rename_i h
      rw [h, arrival_record]
      exact (account_absent (Finmap.lookup_eq_none.mpr hk) s.tasks).symm
    · rfl
  tasksUnique := hc.tasksUnique
  taskOwned := taskOwned_insert hc k _ fun f x h => by
    rw [Finmap.lookup_eq_none.mpr hk] at h
    cases h
  discardedOk := hc.discardedOk

theorem overload_consistent {s : State N} (hc : Consistent s) (k : ℕ) (job : Job N)
    (hk : s.handlers.lookup k = some (.creating job)) :
    Consistent (s.overloaded k) where
  toCoherent := by
    refine hc.toCoherent.of_shrink (fun j => ?_) (lookup_makeRoom s.store) rfl
    refine Eq.trans (account_insert _ _ k _ j) ?_
    split
    · rename_i h
      rw [h]
      exact (account_stage hk s.tasks).symm
    · rfl
  tasksUnique := hc.tasksUnique
  taskOwned := taskOwned_insert hc k _ fun f x h => by
    rw [hk] at h
    cases h
  discardedOk := hc.discardedOk

theorem create_updates {s : State N} (k : ℕ) (f : Fetch N)
    (hk : s.handlers.lookup k = some (.creating f.toJob)) (hfresh : f.sessionId ∉ s.usedIds) :
    Updates s (s.opened k f) k f.fresh where
  self := Eq.trans (account_insert _ _ k _ k) (if_pos rfl)
  others j hj := Eq.trans (account_insert _ _ k _ j) (if_neg hj)
  record := Finmap.lookup_insert _
  kept id hid := (lookup_makeRoom s.store id).imp (Finmap.lookup_insert_of_ne _ hid).trans
    (And.imp_left (Finmap.lookup_insert_of_ne _ hid).trans)
  origin := Or.inr ⟨account_stage hk s.tasks, hfresh⟩
  usedIds _ := List.mem_cons_of_mem _
  used := List.mem_cons_self

theorem create_consistent {s : State N} (hc : Consistent s) (k : ℕ) (f : Fetch N)
    (hk : s.handlers.lookup k = some (.creating f.toJob)) (hfresh : f.sessionId ∉ s.usedIds) :
    Consistent (s.opened k f) where
  toCoherent := hc.toCoherent.of_updates (create_updates k f hk hfresh)
  tasksUnique := hc.tasksUnique
  taskOwned := taskOwned_insert hc k _ fun f x h => by
    rw [hk] at h
    cases h
  discardedOk := hc.discardedOk

theorem live_present {s : State N} (hc : Consistent s) (k : ℕ) (f : Fetch N) (p : Phase f)
    (hk : s.handlers.lookup k = some (.live f p)) :
    expected s k = some p.record ∧
      s.store.sessions.lookup f.sessionId = some p.record := by
  have hexp : expected s k = some p.record := account_stage hk s.tasks
  have hheld := hc.held k _ hexp
  rw [phase_record_id] at hheld
  exact ⟨hexp, hheld.active (phase_record_active p)⟩

theorem live_not_pending {s : State N} (hc : Consistent s) (k : ℕ) (f : Fetch N) (p : Phase f)
    (hk : s.handlers.lookup k = some (.live f p)) (reason : String) :
    (f.sessionId, reason) ∉ s.tasks := by
  intro ht
  obtain ⟨j, g, x, hj, hid, -⟩ := hc.taskOwned _ _ ht
  have hjk := hc.ownerUnique j k _ _ (account_stage hj s.tasks) (live_present hc k f p hk).1
    (by simp [hid])
  rw [hjk, hk] at hj
  cases hj

/-- The failure tasks of one session change no other account. -/
theorem account_tasks {s : State N} (hc : Consistent s) (k : ℕ) (r : NotarySession)
    (hk : expected s k = some r) (tasks : List (String × String))
    (htasks : ∀ id, id ≠ r.id → pending tasks id = pending s.tasks id) (j : ℕ) (hj : j ≠ k) :
    account s.handlers tasks j = expected s j := by
  cases hl : s.handlers.lookup j with
  | none => exact (account_absent hl tasks).trans (account_absent hl s.tasks).symm
  | some stage =>
    rw [expected, account_stage hl, account_stage hl]
    cases stage with
    | refused | creating | live => rfl
    | returned g x =>
      have hne : g.sessionId ≠ r.id := fun h =>
        hj (hc.ownerUnique j k _ r (account_stage hl s.tasks) hk (by simpa using h))
      rw [Stage.record, Stage.record, htasks _ hne]

theorem resumed_expected {s : State N} (hc : Consistent s) (k : ℕ) (p : Phase f)
    (hk : s.handlers.lookup k = some (.live f p)) (w : Option Write) (next : Next f) :
    expected (s.resumed k w next) k = some next.record := by
  rw [expected, resumed_handlers, resumed_tasks, account_insert, if_pos rfl]
  exact record_next next s.tasks (live_not_pending hc k f p hk)

/-- The one record a handler's step touches. -/
theorem resumed_lookup {s : State N} (hc : Consistent s) (k : ℕ) (p : Phase f)
    (hk : s.handlers.lookup k = some (.live f p)) (input : Input) (w : Option Write)
    (next : Next f) (h : Moves p input w next) (id : String) :
    (s.resumed k w next).store.sessions.lookup id =
      if id = f.sessionId then some next.record else s.store.sessions.lookup id := by
  rw [moves_record p input w next h]
  exact write_lookup s f.sessionId w _ (live_present hc k f p hk).2 id

theorem resume_updates {s : State N} (hc : Consistent s) (k : ℕ) (p : Phase f)
    (hk : s.handlers.lookup k = some (.live f p)) (input : Input) (w : Option Write)
    (next : Next f) (h : Moves p input w next) :
    Updates s (s.resumed k w next) k next.record where
  self := resumed_expected hc k p hk w next
  others j hj := by
    rw [expected, resumed_handlers, resumed_tasks, account_insert, if_neg hj]
    refine account_tasks hc k _ (live_present hc k f p hk).1 _ (fun id hid => ?_) j hj
    exact pending_spawned next s.tasks id (by simpa using hid)
  record := by
    rw [resumed_lookup hc k p hk input w next h, if_pos (next_record_id next)]
  kept id hid := by
    rw [next_record_id] at hid
    exact Or.inl ((resumed_lookup hc k p hk input w next h id).trans (if_neg hid))
  origin := Or.inl ⟨p.record, (live_present hc k f p hk).1, by simp⟩
  usedIds id hid := by
    simpa [State.resumed, State.place] using hid
  used := by
    simpa [State.resumed, State.place] using hc.used k _ (live_present hc k f p hk).1

theorem resume_consistent {s : State N} (hc : Consistent s) (k : ℕ) (p : Phase f)
    (hk : s.handlers.lookup k = some (.live f p)) (input : Input) (w : Option Write)
    (next : Next f) (h : Moves p input w next) :
    Consistent (s.resumed k w next) where
  toCoherent := hc.toCoherent.of_updates (resume_updates hc k p hk input w next h)
  tasksUnique := by
    rw [resumed_tasks]
    exact spawned_unique next s.tasks hc.tasksUnique (live_not_pending hc k f p hk)
  taskOwned id reason ht := by
    rw [resumed_tasks, List.mem_append] at ht
    rw [resumed_handlers]
    rcases ht with ht | ht
    · exact taskOwned_insert hc k _ (fun g x hx => by rw [hk] at hx; cases hx) id reason ht
    · obtain ⟨x, rfl, hid, hx⟩ := spawned_mem next id reason ht
      exact ⟨k, f, x, Finmap.lookup_insert _, hid, hx⟩
  discardedOk q hq := by
    rcases write_discarded s f.sessionId w _ (live_present hc k f p hk).2 q hq with h | h
    · exact hc.discardedOk q h
    · exact h

theorem task_mem_unique {s : State N} (hc : Consistent s) {id reason reason' : String}
    (h : (id, reason) ∈ s.tasks) (h' : (id, reason') ∈ s.tasks) : reason = reason' :=
  (Prod.mk.inj (List.inj_on_of_nodup_map hc.tasksUnique h h' rfl)).2

theorem mem_erase_task {s : State N} (hc : Consistent s) (id reason : String)
    (task : String × String) (h : (id, reason) ∈ s.tasks) :
    task ∈ s.tasks.erase (id, reason) ↔ task.1 ≠ id ∧ task ∈ s.tasks := by
  rw [(List.Nodup.of_map _ hc.tasksUnique).mem_erase_iff]
  refine and_congr_left fun ht => not_congr ⟨fun he => congrArg Prod.fst he, ?_⟩
  rintro rfl
  exact Prod.ext rfl (task_mem_unique hc ht h)

theorem pending_erase {s : State N} (hc : Consistent s) (id reason j : String)
    (h : (id, reason) ∈ s.tasks) :
    pending (s.tasks.erase (id, reason)) j = if j = id then false else pending s.tasks j := by
  rw [Bool.eq_iff_iff, pending_iff]
  split
  · rename_i hj
    simp [mem_erase_task hc id reason _ h, hj]
  · rename_i hj
    simp [mem_erase_task hc id reason _ h, hj, pending_iff]

/-- A pending task finds its session, still in the fetching state. -/
theorem task_present {s : State N} (hc : Consistent s) (id reason : String)
    (h : (id, reason) ∈ s.tasks) : ∃ k f x,
      s.handlers.lookup k = some (.returned f x) ∧ f.sessionId = id ∧
      x.setFailed = some reason ∧ expected s k = some (x.record true) ∧
      s.store.sessions.lookup id = some (x.record true) := by
  obtain ⟨k, f, x, hk, rfl, hx⟩ := hc.taskOwned id reason h
  have hp : pending s.tasks f.sessionId = true := (pending_iff _ _).mpr ⟨reason, h⟩
  have hexp : expected s k = some (x.record true) := by
    rw [expected, account_stage hk, Stage.record, hp]
  have hheld := hc.held k _ hexp
  rw [exit_record_id] at hheld
  refine ⟨k, f, x, hk, rfl, hx, hexp, hheld.active ?_⟩
  rw [(exit_record_failed x reason hx).2]
  rfl

theorem failed_store (s : State N) (x : Exit f) (reason : String)
    (hx : x.setFailed = some reason)
    (h : s.store.sessions.lookup f.sessionId = some (x.record true)) :
    updateState s.store f.sessionId (.failed reason) =
      ({ s.store with
          sessions := s.store.sessions.insert f.sessionId (x.record false) }, .ok ()) := by
  rw [(exit_record_failed x reason hx).1]
  exact withSession_present _ _ _ _ h

theorem failed_lookup (s : State N) (x : Exit f) (reason : String)
    (hx : x.setFailed = some reason)
    (h : s.store.sessions.lookup f.sessionId = some (x.record true)) (id : String) :
    (s.failed f.sessionId reason).store.sessions.lookup id =
      if id = f.sessionId then some (x.record false) else s.store.sessions.lookup id := by
  rw [State.failed, failed_store s x reason hx h]
  exact lookup_insert_if _ _ _ _

theorem failed_expected {s : State N} (hc : Consistent s) (k : ℕ) (x : Exit f)
    (reason : String) (hk : s.handlers.lookup k = some (.returned f x))
    (h : (f.sessionId, reason) ∈ s.tasks) :
    expected (s.failed f.sessionId reason) k = some (x.record false) := by
  rw [expected, State.failed, account_stage hk, Stage.record, pending_erase hc _ reason _ h,
    if_pos rfl]

theorem failed_updates {s : State N} (hc : Consistent s) (k : ℕ) (x : Exit f)
    (reason : String) (hk : s.handlers.lookup k = some (.returned f x))
    (hx : x.setFailed = some reason) (h : (f.sessionId, reason) ∈ s.tasks)
    (hexp : expected s k = some (x.record true))
    (hpresent : s.store.sessions.lookup f.sessionId = some (x.record true)) :
    Updates s (s.failed f.sessionId reason) k (x.record false) where
  self := failed_expected hc k x reason hk h
  others j hj := by
    refine account_tasks hc k _ hexp _ (fun id hid => ?_) j hj
    rw [exit_record_id] at hid
    exact (pending_erase hc _ reason id h).trans (if_neg hid)
  record := by
    rw [failed_lookup s x reason hx hpresent, exit_record_id, if_pos rfl]
  kept id hid := by
    rw [exit_record_id] at hid
    exact Or.inl ((failed_lookup s x reason hx hpresent id).trans (if_neg hid))
  origin := Or.inl ⟨x.record true, hexp, by simp⟩
  usedIds _ hid := hid
  used := by
    have hused := hc.used k _ hexp
    rw [exit_record_id] at hused ⊢
    exact hused

theorem failed_consistent {s : State N} (hc : Consistent s) (id reason : String)
    (h : (id, reason) ∈ s.tasks) : Consistent (s.failed id reason) := by
  obtain ⟨k, f, x, hk, rfl, hx, hexp, hpresent⟩ := task_present hc id reason h
  constructor
  · exact hc.toCoherent.of_updates (failed_updates hc k x reason hk hx h hexp hpresent)
  · exact hc.tasksUnique.sublist (List.erase_sublist.map _)
  · intro j m hm
    exact hc.taskOwned j m (List.mem_of_mem_erase hm)
  · intro q hq
    rw [State.failed, failed_store s x reason hx hpresent] at hq
    rcases List.mem_append.mp hq with hq | hq
    · exact hc.discardedOk q hq
    · simpa using hq

theorem step_consistent {s s' : State N} (a : Action) (hc : Consistent s)
    (h : step s a = some s') : Consistent s' := by
  cases step_stepped a h with
  | request k req hk => exact request_consistent hc k req hk
  | overload k uuid now job hk => exact overload_consistent hc k job hk
  | create k f hk hfresh => exact create_consistent hc k f hk hfresh
  | resume k f p input w next hk hadv =>
    exact resume_consistent hc k p hk input w next (advance_moves p input w next hadv)
  | runTask id reason ht => exact failed_consistent hc id reason ht
  | getSession => exact hc

theorem init_consistent (N : Notary P) (maxSessions : ℕ) : Consistent (init N maxSessions) where
  ownerUnique := by simp [expected, account, init]
  used := by simp [expected, account, init]
  owned := by simp [init, NotarySessions.new]
  held := by simp [expected, account, init]
  tasksUnique := List.nodup_nil
  taskOwned := by simp [init]
  discardedOk := by simp [init]

theorem run_consistent (N : Notary P) (maxSessions : ℕ) (trace : List (Action × State N))
    (s : State N) (h : Run (Steps step) (init N maxSessions) trace s) : Consistent s :=
  h.invariant Consistent (init_consistent N maxSessions) fun _ a _ hc hs => step_consistent a hc hs

end ZkTls.NotaryInvariant
