import ZkTls.SessionLifecycle

/-!
# Sessions do not see each other

Creation of one session can evict others, and the results of all updates are
thrown away. Nothing is lost by that: a session whose handler or failure
task has work left is present, and its record is the one its own actions
alone produce.
-/

set_option autoImplicit false

namespace ZkTls.SessionIsolation
open ZkTls.JsonText ZkTls.CoreTypes ZkTls.FieldExtraction ZkTls.FiniteStore ZkTls.LabelledRun
open ZkTls.NotarySessions ZkTls.NotaryMachine ZkTls.NotaryInvariant ZkTls.RecordedPlatform
open ZkTls.SessionLifecycle

variable {P : Platform} {N : Notary P}

def Stage.session : Stage N → Option String
  | .live f _ => some f.sessionId
  | .returned f _ => some f.sessionId
  | _ => none

/-- The handler an action belongs to. -/
def Action.handler : Action → Option ℕ
  | .request k _ => some k
  | .create k _ _ => some k
  | .resume k _ => some k
  | _ => none

/-- The actions of one handler and of the failure tasks of one session. -/
def ownAction (k : ℕ) (id : String) : Action → Bool
  | .runTask i _ => i = id
  | a => Action.handler a = some k

/-- Handler `k` has session `id`, or can still be given it. -/
def Aims (k : ℕ) (id : String) (s : State N) : Prop :=
  match s.handlers.lookup k with
  | none => id ∉ s.usedIds
  | some (.refused _) => False
  | some (.creating _) => id ∉ s.usedIds
  | some (.live f _) => f.sessionId = id
  | some (.returned f _) => f.sessionId = id

theorem aims_of_session {s : State N} {k : ℕ} {id : String} {stage : Stage N}
    (hk : s.handlers.lookup k = some stage) (h : Stage.session stage = some id) :
    Aims k id s := by
  unfold Aims
  rw [hk]
  cases stage with
  | refused | creating => cases h
  | live f | returned f => exact Option.some.inj h

theorem aims_frame {s s' : State N} {k : ℕ} {id : String}
    (hk : s'.handlers.lookup k = s.handlers.lookup k)
    (hused : ∀ i ∈ s.usedIds, i ∈ s'.usedIds) (h : Aims k id s') : Aims k id s := by
  unfold Aims at h ⊢
  rw [hk] at h
  split <;> simp_all only []
  all_goals first
    | exact h
    | exact fun hid => h (hused id hid)

theorem handler_frame {s s' : State N} (a : Action) (h : step s a = some s') (k : ℕ)
    (hk : Action.handler a ≠ some k) : s'.handlers.lookup k = s.handlers.lookup k := by
  have hne : ∀ j : ℕ, some j ≠ some k → k ≠ j := fun j hj hkj => hj (congrArg some hkj.symm)
  cases step_stepped a h with
  | request j | overload j | create j => exact Finmap.lookup_insert_of_ne _ (hne j hk)
  | resume j =>
    rw [resumed_handlers]
    exact Finmap.lookup_insert_of_ne _ (hne j hk)
  | runTask | getSession => rfl

/-- The reply of a handler that is done. -/
def Stage.answer : Stage N → Option (Except ErrorReply NotarizeReply)
  | .refused reply => some (.error reply)
  | .returned _ x => some x.reply
  | _ => none

/-- No step touches a handler that has replied. -/
theorem step_answered {s s' : State N} (a : Action) (h : step s a = some s') (k : ℕ)
    (stage : Stage N) (hk : s.handlers.lookup k = some stage)
    (hdone : (Stage.answer stage).isSome = true) :
    Action.handler a ≠ some k ∧ s'.handlers.lookup k = some stage := by
  suffices hown : Action.handler a ≠ some k from ⟨hown, (handler_frame a h k hown).trans hk⟩
  intro hown
  cases step_stepped a h with
  | request j req hj =>
    cases hown
    rw [Finmap.lookup_eq_none.mpr hj] at hk
    cases hk
  | overload j uuid now job hj | create j f hj | resume j f p input w next hj =>
    cases hown
    cases hj.symm.trans hk
    cases hdone
  | runTask | getSession => cases hown

theorem run_answered {s t : State N} {after : List (Action × State N)}
    (h : Run (Steps step) s after t) (k : ℕ) (stage : Stage N)
    (hk : s.handlers.lookup k = some stage) (hdone : (Stage.answer stage).isSome = true) :
    t.handlers.lookup k = some stage ∧ ∀ e ∈ after, Action.handler e.1 ≠ some k := by
  induction h with
  | nil => exact ⟨hk, by simp⟩
  | snoc _ hstep ih =>
    obtain ⟨hstage, hall⟩ := ih
    obtain ⟨hown, hstage'⟩ := step_answered _ hstep k stage hstage hdone
    refine ⟨hstage', fun e he => ?_⟩
    rcases List.mem_append.mp he with he | he
    · exact hall e he
    · rw [List.mem_singleton.mp he]
      exact hown

/-- A handler that reaches a session aimed at it all along. -/
theorem aims_back {s s' : State N} {k : ℕ} {id : String} (a : Action)
    (h : step s a = some s') (ha : Aims k id s') : Aims k id s := by
  by_cases hown : Action.handler a = some k
  · unfold Aims at ha ⊢
    cases step_stepped a h with
    | request j req hj =>
      cases hown
      rw [State.arrived, Finmap.lookup_insert] at ha
      rw [Finmap.lookup_eq_none.mpr hj]
      rcases arrival_cases (N := N) req with ⟨reply, h⟩ | ⟨job, h⟩
      · rw [h] at ha
        exact ha.elim
      · rw [h] at ha
        exact ha
    | overload j uuid now job hj =>
      cases hown
      rw [State.overloaded, Finmap.lookup_insert] at ha
      exact ha.elim
    | create j f hj hfresh =>
      cases hown
      rw [State.opened, Finmap.lookup_insert] at ha
      rw [hj]
      exact ha ▸ hfresh
    | resume j f p input w next hj =>
      cases hown
      rw [resumed_handlers, Finmap.lookup_insert] at ha
      rw [hj]
      cases next with
      | goOn | exit => exact ha
    | runTask | getSession => cases hown
  · exact aims_frame (handler_frame a h k hown) (usedIds_mono a h) ha

/-- The state `t` in which only the actions of handler `k` and session `id`
were taken, next to the state `s` of the whole run. -/
structure Alone (k : ℕ) (id : String) (s t : State N) : Prop where
  handler : t.handlers.lookup k = s.handlers.lookup k
  only : ∀ j, j ≠ k → t.handlers.lookup j = none
  tasks : ∀ reason, (id, reason) ∈ t.tasks ↔ (id, reason) ∈ s.tasks
  used : ∀ i ∈ t.usedIds, i ∈ s.usedIds
  capacity : t.store.maxSessions = s.store.maxSessions
  present : ∀ r, expected t k = some r → t.store.sessions.lookup r.id = some r

/-- Two handlers with one session are one handler. -/
theorem aims_owner {s : State N} (hc : Consistent s) {k : ℕ} {id : String}
    (ha : Aims k id s) (j : ℕ) (r : NotarySession) (hj : expected s j = some r)
    (hid : r.id = id) : j = k := by
  have hused := hid ▸ hc.used j r hj
  unfold Aims at ha
  cases hk : s.handlers.lookup k with
  | none =>
    rw [hk] at ha
    exact absurd hused ha
  | some stage =>
    rw [hk] at ha
    cases stage with
    | refused => exact ha.elim
    | creating => exact absurd hused ha
    | live f p =>
      exact hc.ownerUnique j k r _ hj (live_present hc k f p hk).1 (by simp [hid, ha.symm])
    | returned f x =>
      exact hc.ownerUnique j k r _ hj (account_stage hk s.tasks) (by simp [hid, ha.symm])

/-- Actions of others leave the comparison as it was. -/
theorem alone_other {s s' t : State N} {k : ℕ} {id : String} (hc : Consistent s) (a : Action)
    (h : step s a = some s') (haims : Aims k id s) (hown : ownAction k id a = false)
    (ht : Alone k id s t) : Alone k id s' t := by
  have hhandler : Action.handler a ≠ some k := by
    intro ha
    cases a <;> simp_all [ownAction, Action.handler]
  refine ⟨ht.handler.trans (handler_frame a h k hhandler).symm, ht.only, fun reason => ?_,
    fun i hi => usedIds_mono a h i (ht.used i hi), ?_, ht.present⟩
  · rw [ht.tasks reason]
    cases step_stepped a h with
    | resume j f p input w next hj =>
      rw [resumed_tasks, List.mem_append, or_iff_left]
      intro hm
      obtain ⟨x, -, hid, -⟩ := spawned_mem next id reason hm
      have hjk := aims_owner hc haims j _ (live_present hc j f p hj).1 (by simp [hid])
      exact hhandler (congrArg some hjk)
    | runTask i m hi =>
      have hne : id ≠ i := by
        rintro rfl
        simp [ownAction] at hown
      rw [State.failed, mem_erase_task hc i m _ hi]
      exact (and_iff_right hne).symm
    | request | overload | create | getSession => rfl
  · rw [ht.capacity, step_capacity a h]

/-- With no session yet there is room for one. -/
theorem alone_room {s t : State N} {k : ℕ} {id : String} (hct : Consistent t)
    (ht : Alone k id s t) (hnone : expected t k = none)
    (hroom : (makeRoom s.store).keys.card < s.store.maxSessions) :
    (makeRoom t.store).keys.card < t.store.maxSessions := by
  have hempty : (makeRoom t.store).keys = ∅ := by
    refine Finset.eq_empty_of_forall_notMem fun i hi => ?_
    obtain ⟨r, hr⟩ := Finmap.mem_iff.mp (Finmap.mem_keys.mp hi)
    rcases lookup_makeRoom t.store i with h | ⟨h, -⟩
    · obtain ⟨-, j, hj⟩ := hct.owned i r (h.symm.trans hr)
      by_cases hjk : j = k
      · cases hnone.symm.trans (hjk ▸ hj)
      · cases (account_absent (ht.only j hjk) t.tasks).symm.trans hj
    · cases h.symm.trans hr
  rw [hempty, Finset.card_empty, ht.capacity]
  exact Nat.zero_lt_of_lt hroom

/-! An own action has the same effect on the handler and its session in
both states. -/

section Own
variable {s t : State N} {k : ℕ} {id : String}

theorem alone_arrived (ht : Alone k id s t) (req : NotarizeRequest) :
    Alone k id (s.arrived k req) (t.arrived k req) where
  handler := by
    rw [State.arrived, State.arrived, Finmap.lookup_insert, Finmap.lookup_insert]
  only j hj := (Finmap.lookup_insert_of_ne _ hj).trans (ht.only j hj)
  tasks := ht.tasks
  used := ht.used
  capacity := ht.capacity
  present r hr := by
    have hnone : expected (t.arrived k req) k = none :=
      Eq.trans (account_insert _ _ k _ k) ((if_pos rfl).trans (arrival_record req _))
    cases hnone.symm.trans hr

theorem alone_opened (ht : Alone k id s t) (f : Fetch N) :
    Alone k id (s.opened k f) (t.opened k f) where
  handler := by
    rw [State.opened, State.opened, Finmap.lookup_insert, Finmap.lookup_insert]
  only j hj := (Finmap.lookup_insert_of_ne _ hj).trans (ht.only j hj)
  tasks := ht.tasks
  used := List.forall_mem_cons.mpr ⟨List.mem_cons_self,
    fun i hi => List.mem_cons_of_mem _ (ht.used i hi)⟩
  capacity := ht.capacity
  present r hr := by
    have hfresh : expected (t.opened k f) k = some f.fresh :=
      Eq.trans (account_insert _ _ k _ k) (if_pos rfl)
    cases hfresh.symm.trans hr
    exact Finmap.lookup_insert _

theorem alone_resumed (ht : Alone k id s t) (hct : Consistent t) {f : Fetch N} (p : Phase f)
    (hk : t.handlers.lookup k = some (.live f p)) (input : Input) (w : Option Write)
    (next : Next f) (h : Moves p input w next) :
    Alone k id (s.resumed k w next) (t.resumed k w next) where
  handler := by
    rw [resumed_handlers, resumed_handlers, Finmap.lookup_insert, Finmap.lookup_insert]
  only j hj := by
    rw [resumed_handlers]
    exact (Finmap.lookup_insert_of_ne _ hj).trans (ht.only j hj)
  tasks reason := by
    rw [resumed_tasks, resumed_tasks, List.mem_append, List.mem_append, ht.tasks reason]
  used i hi := by
    have hi' : i ∈ t.usedIds := by simpa [State.resumed, State.place] using hi
    simpa [State.resumed, State.place] using ht.used i hi'
  capacity := (write_capacity t f.sessionId w).trans
    (ht.capacity.trans (write_capacity s f.sessionId w).symm)
  present r hr := by
    cases (resumed_expected hct k p hk w next).symm.trans hr
    rw [resumed_lookup hct k p hk input w next h, if_pos (next_record_id next)]

theorem alone_failed {reason : String} (ht : Alone k id s t) (hc : Consistent s)
    (hct : Consistent t) (hs : (id, reason) ∈ s.tasks) (htask : (id, reason) ∈ t.tasks) :
    Alone k id (s.failed id reason) (t.failed id reason) := by
  obtain ⟨j, f, x, hj, rfl, hx, -, hpresent⟩ := task_present hct id reason htask
  have hjk : j = k := by
    by_contra hne
    rw [ht.only j hne] at hj
    cases hj
  subst hjk
  refine ⟨ht.handler, ht.only, fun m => ?_, ht.used, ?_, fun r hr => ?_⟩
  · rw [State.failed, State.failed, mem_erase_task hct _ reason _ htask,
      mem_erase_task hc _ reason _ hs, ht.tasks m]
  · exact (withSession_capacity _ _ _).trans
      (ht.capacity.trans (withSession_capacity _ _ _).symm)
  · cases (failed_expected hct j x reason hj htask).symm.trans hr
    rw [failed_lookup t x reason hx hpresent, if_pos (exit_record_id false x)]

end Own

theorem alone_own {s s' t : State N} {k : ℕ} {id : String} (hc : Consistent s)
    (hct : Consistent t) (a : Action) (h : step s a = some s') (haims : Aims k id s')
    (hown : ownAction k id a = true) (ht : Alone k id s t) :
    ∃ t', step t a = some t' ∧ Alone k id s' t' := by
  cases step_stepped a h with
  | request j req hj =>
    obtain rfl : j = k := by simpa [ownAction, Action.handler] using hown
    have hjt : j ∉ t.handlers := by
      rw [← Finmap.lookup_eq_none, ht.handler, Finmap.lookup_eq_none]
      exact hj
    exact ⟨_, step_of_stepped _ (.request j req hjt), alone_arrived ht req⟩
  | overload j uuid now job hj =>
    -- a refused creation ends the handler without a session
    obtain rfl : j = k := by simpa [ownAction, Action.handler] using hown
    rw [Aims, State.overloaded, Finmap.lookup_insert] at haims
    exact haims.elim
  | create j f hj hfresh hroom =>
    obtain rfl : j = k := by simpa [ownAction, Action.handler] using hown
    have hjt := ht.handler.trans hj
    have hroom' := alone_room hct ht (account_stage hjt t.tasks) hroom
    exact ⟨_, step_of_stepped _ (.create j f hjt (fun hu => hfresh (ht.used _ hu)) hroom'),
      alone_opened ht f⟩
  | resume j f p input w next hj hadv =>
    obtain rfl : j = k := by simpa [ownAction, Action.handler] using hown
    have hjt := ht.handler.trans hj
    exact ⟨_, step_of_stepped _ (.resume j f p input w next hjt hadv),
      alone_resumed ht hct p hjt input w next (advance_moves p input w next hadv)⟩
  | runTask i reason hi =>
    obtain rfl : i = id := by simpa [ownAction] using hown
    have hit := (ht.tasks reason).mpr hi
    exact ⟨_, step_of_stepped _ (.runTask i reason hit), alone_failed ht hc hct hi hit⟩
  | getSession => simp [ownAction, Action.handler] at hown

theorem alone_init (N : Notary P) (maxSessions k : ℕ) (id : String) :
    Alone k id (init N maxSessions) (init N maxSessions) where
  handler := rfl
  only _ _ := rfl
  tasks _ := Iff.rfl
  used _ := fun h => h
  capacity := rfl
  present _ h := by cases h

/-- The own actions of a session form a run by themselves. -/
theorem alone_run (N : Notary P) (maxSessions k : ℕ) (id : String)
    (trace : List (Action × State N)) (s : State N)
    (h : Run (Steps step) (init N maxSessions) trace s) (haims : Aims k id s) :
    ∃ t, exec step (init N maxSessions)
        ((trace.map Prod.fst).filter (ownAction k id)) = some t ∧
      Consistent t ∧ Alone k id s t := by
  induction h with
  | nil => exact ⟨_, rfl, init_consistent N maxSessions, alone_init N maxSessions k id⟩
  | @snoc trace s s' a hrun hstep ih =>
    obtain ⟨t, ht, hct, halone⟩ := ih (aims_back a hstep haims)
    have hc := run_consistent N maxSessions trace s hrun
    rw [List.map_append, List.filter_append]
    cases hown : ownAction k id a with
    | false =>
      refine ⟨t, ?_, hct, alone_other hc a hstep (aims_back a hstep haims) hown halone⟩
      simpa [hown] using ht
    | true =>
      obtain ⟨t', ht', halone'⟩ := alone_own hc hct a hstep haims hown halone
      refine ⟨t', ?_, step_consistent a hct ht', halone'⟩
      simp only [List.map_cons, List.map_nil, List.filter_cons, hown, if_true, List.filter_nil]
      rw [exec_snoc, ht]
      exact ht'

/-- A session with a running handler or a pending failure task. -/
def Unfinished (s : State N) (id : String) : Prop :=
  (∃ k f p, s.handlers.lookup k = some (.live f p) ∧ f.sessionId = id) ∨
  ∃ reason, (id, reason) ∈ s.tasks

theorem unfinished_present {s : State N} (hc : Consistent s) (id : String)
    (h : Unfinished s id) : ∃ r, s.store.sessions.lookup id = some r := by
  rcases h with ⟨k, f, p, hk, rfl⟩ | ⟨reason, ht⟩
  · exact ⟨_, (live_present hc k f p hk).2⟩
  · obtain ⟨k, f, x, -, -, -, -, hpresent⟩ := task_present hc id reason ht
    exact ⟨_, hpresent⟩

theorem stage_record_session (stage : Stage N) (tasks : List (String × String)) (id : String)
    (h : Stage.session stage = some id) :
    ∃ r, Stage.record tasks stage = some r ∧ r.id = id := by
  cases stage with
  | refused | creating => cases h
  | live f p => exact ⟨_, rfl, by simpa using Option.some.inj h⟩
  | returned f x => exact ⟨_, rfl, by simpa using Option.some.inj h⟩

theorem record_congr (stage : Stage N) (tasks tasks' : List (String × String)) (id : String)
    (h : Stage.session stage = some id)
    (ht : ∀ reason, (id, reason) ∈ tasks ↔ (id, reason) ∈ tasks') :
    Stage.record tasks stage = Stage.record tasks' stage := by
  cases stage with
  | refused | creating | live => rfl
  | returned f x =>
    have hp : pending tasks f.sessionId = pending tasks' f.sessionId := by
      rw [Bool.eq_iff_iff, pending_iff, pending_iff, Option.some.inj h]
      exact exists_congr ht
    simp only [Stage.record, hp]

theorem get_of_lookup {store : SessionStore} {id : String} {r : NotarySession}
    (h : store.sessions.lookup id = some r) : NotarySessions.get store id = .ok r := by
  rw [NotarySessions.get, h]

theorem get_of_absent {store : SessionStore} {id : String}
    (h : store.sessions.lookup id = none) :
    NotarySessions.get store id = .error (.sessionNotFound id) := by
  rw [NotarySessions.get, h]

/-- No update is lost, and each session is as if it were alone. A record the
whole run no longer holds was terminal. -/
structure Isolated (start : State N) (trace : List (Action × State N)) (s : State N) :
    Prop where
  present : ∀ id, Unfinished s id → ∃ r, NotarySessions.get s.store id = .ok r
  noneLost : ∀ r ∈ s.discarded, r = .ok ()
  alone : ∀ k stage id, s.handlers.lookup k = some stage → Stage.session stage = some id →
    ∃ t r, exec step start ((trace.map Prod.fst).filter (ownAction k id)) = some t ∧
      t.handlers.lookup k = some stage ∧ NotarySessions.get t.store id = .ok r ∧
      (NotarySessions.get s.store id = .ok r ∨
        (NotarySessions.get s.store id = .error (.sessionNotFound id) ∧
          r.state.terminal = true ∧ ¬ Unfinished s id))

theorem sessions_isolated (N : Notary P) (maxSessions : ℕ) (trace : List (Action × State N))
    (s : State N) (h : Run (Steps step) (init N maxSessions) trace s) :
    Isolated (init N maxSessions) trace s := by
  have hc := run_consistent N maxSessions trace s h
  refine ⟨fun id hid => ?_, hc.discardedOk, fun k stage id hk hid => ?_⟩
  · obtain ⟨r, hr⟩ := unfinished_present hc id hid
    exact ⟨r, get_of_lookup hr⟩
  · obtain ⟨t, ht, -, halone⟩ := alone_run N maxSessions k id trace s h (aims_of_session hk hid)
    have hkt := halone.handler.trans hk
    obtain ⟨r, hr, rfl⟩ := stage_record_session stage s.tasks id hid
    have hexp : expected s k = some r := (account_stage hk s.tasks).trans hr
    have hexpt : expected t k = some r := by
      rw [expected, account_stage hkt]
      exact (record_congr stage t.tasks s.tasks r.id hid halone.tasks).trans hr
    refine ⟨t, r, ht, hkt, get_of_lookup (halone.present r hexpt), ?_⟩
    rcases hc.held k r hexp with hl | ⟨hl, q, hq, hterm⟩
    · exact Or.inl (get_of_lookup hl)
    · cases hq
      refine Or.inr ⟨get_of_absent hl, hterm, fun hu => ?_⟩
      obtain ⟨r', hr'⟩ := unfinished_present hc r.id hu
      cases hl.symm.trans hr'

/-- The session of a handler that is still running. -/
def liveId (s : State N) (k : ℕ) : Option String :=
  match s.handlers.lookup k with
  | some (.live f _) => some f.sessionId
  | _ => none

theorem unfinished_of_live (s : State N) (k : ℕ) (id : String) (h : liveId s k = some id) :
    Unfinished s id := by
  unfold liveId at h
  split at h
  · rename_i f p hk
    exact Or.inl ⟨k, f, p, hk, Option.some.inj h⟩
  · cases h

/-- A completed session evicted by the next creation. -/
theorem evicted_session_isolated :
    ∃ trace s, Run (Steps step) (init (shippedNotary activeRecording) 1) trace s ∧
      NotarySessions.get s.store firstId = .error (.sessionNotFound firstId) ∧
      Unfinished s secondId ∧
      Isolated (init (shippedNotary activeRecording) 1) trace s := by
  obtain ⟨trace, s, hrun, -, hobs⟩ := observed_run step
    (voterRun activeText ++
      [.request 1 ⟨"utah-voter-v1", none, none⟩, .resume 0 .proceed,
        .create 1 secondId noon.proofTime])
    (init (shippedNotary activeRecording) 1)
    (fun s => ((s.store.sessions.lookup firstId).isNone, liveId s 1))
    (true, some secondId) (by decide +kernel)
  rw [Prod.mk.injEq] at hobs
  exact ⟨trace, s, hrun, get_of_absent (by simpa using hobs.1), unfinished_of_live s 1 _ hobs.2,
    sessions_isolated (shippedNotary activeRecording) 1 trace s hrun⟩

end ZkTls.SessionIsolation
