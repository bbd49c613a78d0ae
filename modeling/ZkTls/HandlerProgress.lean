import ZkTls.SessionAccounting
import ZkTls.SessionIsolation
import Mathlib.Data.Fintype.EquivFin

/-!
# Every request is answered

A handler takes at most ten steps of its own from the arrival of its request
to the reply, whatever the portal answers and whatever the other handlers do,
and is never kept from the next one. When no more requests come, the notary
comes to rest with every request answered and every failure task run.
-/

set_option autoImplicit false

namespace ZkTls.HandlerProgress
open ZkTls.CoreTypes ZkTls.FiniteStore ZkTls.LabelledRun ZkTls.NotarizeResponse
open ZkTls.NotarySessions ZkTls.NotaryMachine ZkTls.NotaryInvariant ZkTls.RecordedPlatform
open ZkTls.SessionLeaks ZkTls.SessionIsolation ZkTls.SessionAccounting

variable {P : Platform} {N : Notary P} {f : Fetch N}

/-- What a handler can be waiting for. Its turn comes after a pause or at the
store. -/
inductive Event where
  | turn | client | tokenPage | response | drain | text | clock
deriving DecidableEq

def Phase.event : Phase f → Event
  | .created => .turn
  | .jitter => .client
  | .csrfSent _ => .tokenPage
  | .csrfPause _ => .turn
  | .sent _ => .response
  | .draining _ _ => .drain
  | .reading => .text
  | .fetched _ => .turn
  | .stored _ => .clock
  | .signed _ _ _ _ _ => .turn

def Input.event : Input → Event
  | .proceed => .turn
  | .clientBuilt => .client
  | .clientFailed _ => .client
  | .csrfReply _ => .tokenPage
  | .csrfFailed => .tokenPage
  | .sendFailed _ => .response
  | .status _ _ => .response
  | .drained _ => .drain
  | .text _ => .text
  | .judge _ => .clock

/-- The inputs a suspended handler can be resumed with. -/
def Phase.awaits (p : Phase f) (input : Input) : Bool := Phase.event p = Input.event input

/-- A bound on the steps ahead of a suspended handler, its failure task
included. -/
def Phase.remaining : Phase f → ℕ
  | .created => 9
  | .jitter => 8
  | .csrfSent _ => 7
  | .csrfPause _ => 6
  | .sent _ => 5
  | .reading => 4
  | .fetched _ => 3
  | .stored _ => 2
  | .draining _ _ => 2
  | .signed _ _ _ _ _ => 1

def Stage.remaining : Stage N → ℕ
  | .creating _ => 10
  | .live _ p => Phase.remaining p
  | _ => 0

/-- Every outcome a handler can meet at a suspension takes it further. -/
theorem advance_awaited (p : Phase f) (input : Input) (h : Phase.awaits p input = true) :
    ∃ w next, advance f p input = some (w, next) := by
  cases p with
  | created | csrfPause | fetched | signed => cases input with
    | proceed => exact ⟨_, _, rfl⟩
    | _ => cases h
  | jitter => cases input with
    | clientFailed e => exact ⟨_, _, rfl⟩
    | clientBuilt =>
      simp only [advance]
      split <;> exact ⟨_, _, rfl⟩
    | _ => cases h
  | csrfSent cfg => cases input with
    | csrfReply | csrfFailed => exact ⟨_, _, rfl⟩
    | _ => cases h
  | sent out => cases input with
    | sendFailed e => exact ⟨_, _, rfl⟩
    | status code url =>
      simp only [advance]
      split <;> exact ⟨_, _, rfl⟩
    | _ => cases h
  | draining code url => cases input with
    | drained bytes => exact ⟨_, _, rfl⟩
    | _ => cases h
  | reading => cases input with
    | text body => cases body <;> exact ⟨_, _, rfl⟩
    | _ => cases h
  | stored body => cases input with
    | judge clock =>
      simp only [advance]
      split <;> exact ⟨_, _, rfl⟩
    | _ => cases h

theorem exists_awaited (p : Phase f) : ∃ input, Phase.awaits p input = true := by
  cases p with
  | created | csrfPause | fetched | signed => exact ⟨.proceed, rfl⟩
  | jitter => exact ⟨.clientBuilt, rfl⟩
  | csrfSent => exact ⟨.csrfFailed, rfl⟩
  | sent => exact ⟨.sendFailed "", rfl⟩
  | draining => exact ⟨.drained none, rfl⟩
  | reading => exact ⟨.text (.error ""), rfl⟩
  | stored => exact ⟨.judge ⟨0, "", 0, 0⟩, rfl⟩

/-- A step of a handler brings it nearer to its reply, the failure task it
spawns included. -/
theorem advance_remaining (p : Phase f) (input : Input) (w : Option Write) (next : Next f)
    (h : advance f p input = some (w, next)) :
    Stage.remaining next.stage + next.spawned.length + 1 ≤ Phase.remaining p := by
  cases advance_moves p input w next h with
  | waited _ _ _ hwaits =>
    cases hwaits <;> simp [Next.stage, Next.spawned, Stage.remaining, Phase.remaining]
  | _ => simp [Next.stage, Next.spawned, Stage.remaining, Phase.remaining, Exit.setFailed]

/-- The actions that take a handler or a failure task further. -/
def Action.works : Action → Bool
  | .create _ _ _ => true
  | .resume _ _ => true
  | .runTask _ _ => true
  | _ => false

/-- Such an action of one handler. -/
def worksFor (k : ℕ) (a : Action) : Bool := Action.works a && Action.handler a = some k

theorem handler_proceeds (s : State N) (k : ℕ) (stage : Stage N)
    (hk : s.handlers.lookup k = some stage) (hopen : Stage.answer stage = none) :
    ∃ a, worksFor k a = true ∧ (step s a).isSome = true := by
  cases stage with
  | refused | returned => cases hopen
  | creating job =>
    obtain ⟨uuid, hfresh⟩ := Infinite.exists_notMem_finset s.usedIds.toFinset
    rw [List.mem_toFinset] at hfresh
    refine ⟨.create k uuid 0, by simp [worksFor, Action.works, Action.handler], ?_⟩
    simp only [step, hk, if_neg hfresh]
    split <;> rfl
  | live f p =>
    obtain ⟨input, hinput⟩ := exists_awaited p
    obtain ⟨w, next, hadv⟩ := advance_awaited p input hinput
    refine ⟨.resume k input, by simp [worksFor, Action.works, Action.handler], ?_⟩
    simp [step, hk, hadv]

/-- The steps a request can still take, before its arrival included. -/
def ahead (s : State N) (k : ℕ) : ℕ := (s.handlers.lookup k).elim 10 Stage.remaining

theorem arrival_remaining (req : NotarizeRequest) :
    Stage.remaining (arrival N req) ≤ 10 := by
  rcases arrival_cases (N := N) req with ⟨reply, h⟩ | ⟨job, h⟩ <;> rw [h]
  · exact Nat.zero_le _
  · exact Nat.le_refl _

/-- A handler's own steps use up what is ahead of it; no other step adds to
it. -/
theorem step_ahead {s s' : State N} (a : Action) (h : step s a = some s') (k : ℕ) :
    ahead s' k + (worksFor k a).toNat ≤ ahead s k := by
  by_cases hown : Action.handler a = some k
  · cases step_stepped a h with
    | request j req hj =>
      cases hown
      rw [ahead, ahead, State.arrived, Finmap.lookup_insert, Finmap.lookup_eq_none.mpr hj]
      exact arrival_remaining req
    | overload j uuid now job hj | create j f hj =>
      cases hown
      simp [ahead, State.overloaded, State.opened, hj, worksFor, Action.works, Action.handler,
        Stage.remaining, Phase.remaining]
    | resume j f p input w next hj hadv =>
      cases hown
      have hle := advance_remaining p input w next hadv
      have hold : ahead s k = Phase.remaining p := by rw [ahead, hj]; rfl
      have hnew : ahead (s.resumed k w next) k = Stage.remaining next.stage := by
        rw [ahead, resumed_handlers, Finmap.lookup_insert]
        rfl
      have hwork : worksFor k (.resume k input) = true := by
        simp [worksFor, Action.works, Action.handler]
      rw [hold, hnew, hwork, Bool.toNat_true]
      omega
    | runTask | getSession => cases hown
  · have hnot : worksFor k a = false := by simp [worksFor, hown]
    rw [ahead, ahead, handler_frame a h k hown, hnot]
    exact Nat.le_refl _

/-- What the notary promises the sender of one request. -/
structure Served (trace : List (Action × State N)) (s : State N) (k : ℕ) : Prop where
  bounded : spent (fun a => (worksFor k a).toNat) trace + ahead s k ≤ 10
  proceeds : ∀ stage, s.handlers.lookup k = some stage → Stage.answer stage = none →
    ∃ a, worksFor k a = true ∧ (step s a).isSome = true
  unhindered : ∀ f p input, s.handlers.lookup k = some (.live f p) →
    Phase.awaits p input = true → (step s (.resume k input)).isSome = true
  final : ∀ stage, s.handlers.lookup k = some stage → (Stage.answer stage).isSome = true →
    ∀ after t, Run (Steps step) s after t → t.handlers.lookup k = some stage ∧
      ∀ e ∈ after, Action.handler e.1 ≠ some k

theorem requests_served (N : Notary P) (maxSessions : ℕ) (trace : List (Action × State N))
    (s : State N) (h : Run (Steps step) (init N maxSessions) trace s) (k : ℕ) :
    Served trace s k where
  bounded := by
    have hbudget := h.budget (ahead · k) (fun a => (worksFor k a).toNat) (fun _ => 0)
      fun s a s' hs => step_ahead a hs k
    have hstart : ahead (init N maxSessions) k = 10 := rfl
    rw [spent_zero, hstart] at hbudget
    omega
  proceeds := handler_proceeds s k
  unhindered f p input hk hinput := by
    obtain ⟨w, next, hadv⟩ := advance_awaited p input hinput
    simp [step, hk, hadv]
  final stage hk hdone after t hrun := run_answered hrun k stage hk hdone

/-- A request that is still being fetched while others have leaked or
failed. -/
theorem mixed_served :
    ∃ trace s, Run (Steps step) (init emptyNotary 3) trace s ∧ whereabouts s = (1, 1, 1) ∧
      Served trace s 1 := by
  obtain ⟨trace, s, hrun, -, hobs⟩ := mixed_reached
  exact ⟨trace, s, hrun, hobs, requests_served emptyNotary 3 trace s hrun 1⟩

/-- The steps all requests together can still take. -/
def remaining (s : State N) : ℕ := total Stage.remaining s.handlers + s.tasks.length

def Action.arrives : Action → ℕ
  | .request _ _ => 10
  | _ => 0

/-- One handler's new stage changes the sum by the difference. -/
theorem remaining_insert (s s' : State N) (k : ℕ) (old : Option (Stage N)) (new : Stage N)
    (hk : s.handlers.lookup k = old) (hs' : s'.handlers = s.handlers.insert k new) :
    total Stage.remaining s'.handlers + old.elim 0 Stage.remaining =
      total Stage.remaining s.handlers + Stage.remaining new := by
  rw [hs', ← hk]
  exact total_insert Stage.remaining s.handlers k new

theorem step_remaining {s s' : State N} (a : Action) (h : step s a = some s') :
    remaining s' + (Action.works a).toNat ≤ remaining s + Action.arrives a := by
  unfold remaining
  cases step_stepped a h with
  | request k req hk =>
    have hsum := remaining_insert s (s.arrived k req) k none _ (Finmap.lookup_eq_none.mpr hk) rfl
    have hle := arrival_remaining (N := N) req
    simp only [Option.elim_none, Action.works, Action.arrives, Bool.toNat_false] at hsum ⊢
    have htasks : (s.arrived k req).tasks.length = s.tasks.length := rfl
    omega
  | overload k uuid now job hk =>
    have hsum := remaining_insert s (s.overloaded k) k _ _ hk rfl
    have htasks : (s.overloaded k).tasks.length = s.tasks.length := rfl
    simp only [Option.elim_some, Stage.remaining, Action.works, Action.arrives,
      Bool.toNat_true] at hsum ⊢
    omega
  | create k f hk =>
    have hsum := remaining_insert s (s.opened k f) k _ _ hk rfl
    have htasks : (s.opened k f).tasks.length = s.tasks.length := rfl
    simp only [Option.elim_some, Stage.remaining, Phase.remaining, Action.works, Action.arrives,
      Bool.toNat_true] at hsum ⊢
    omega
  | resume k f p input w next hk hadv =>
    have hsum := remaining_insert s _ k _ _ hk (resumed_handlers s k w next)
    have hle := advance_remaining p input w next hadv
    have htasks := congrArg List.length (resumed_tasks s k w next)
    rw [List.length_append] at htasks
    have hold : Stage.remaining (.live f p : Stage N) = Phase.remaining p := rfl
    simp only [Option.elim_some, hold, Action.works, Action.arrives, Bool.toNat_true] at hsum ⊢
    omega
  | runTask id reason ht =>
    have hpos := List.length_pos_of_mem ht
    have htasks : (s.failed id reason).tasks.length = s.tasks.length - 1 := by
      rw [State.failed, List.length_erase_of_mem ht]
    have hsame : (s.failed id reason).handlers = s.handlers := rfl
    simp only [hsame, Action.works, Action.arrives, Bool.toNat_true]
    omega
  | getSession => simp [Action.works, Action.arrives]

/-- The notary at rest: everyone has a reply, no failure task waits, and the
active sessions are those left behind. -/
structure Resting (s : State N) : Prop where
  answered : ∀ k stage, s.handlers.lookup k = some stage → (Stage.answer stage).isSome = true
  noTasks : s.tasks = []
  active : activeCount s.store = (leaked s).card

theorem resting_of_stuck {s : State N} (hc : Consistent s)
    (hstuck : ∀ a, Action.works a = true → step s a = none) : Resting s := by
  have hanswered : ∀ k stage, s.handlers.lookup k = some stage →
      (Stage.answer stage).isSome = true := by
    intro k stage hk
    by_contra hopen
    obtain ⟨a, hwork, hstep⟩ := handler_proceeds s k stage hk (by simpa using hopen)
    rw [worksFor, Bool.and_eq_true] at hwork
    simp [hstuck a hwork.1] at hstep
  have htasks : s.tasks = [] := by
    refine List.eq_nil_iff_forall_not_mem.mpr fun task ht => ?_
    have hnone := hstuck (.runTask task.1 task.2) rfl
    simp [step, ht] at hnone
  have hbusy : (busy s).card = 0 := by
    refine Finset.card_eq_zero.mpr (Finset.eq_empty_of_forall_notMem fun k hk => ?_)
    obtain ⟨stage, hstage, hholding⟩ := (mem_keysWith _ _ _).mp hk
    have hdone := hanswered k stage hstage
    cases stage with
    | live => cases hdone
    | _ => cases hholding
  refine ⟨hanswered, htasks, ?_⟩
  rw [active_census hc, hbusy, htasks]
  simp

theorem stuck_of_spent {s : State N} (h : remaining s = 0) (a : Action)
    (ha : Action.works a = true) : step s a = none := by
  cases hs : step s a with
  | none => rfl
  | some s' =>
    have hle := step_remaining a hs
    rw [ha] at hle
    cases a with
    | request | getSession => cases ha
    | _ =>
      simp only [Action.arrives, Bool.toNat_true] at hle
      omega

theorem remaining_resting {s : State N} (h : Resting s) : remaining s = 0 := by
  have hsum : total Stage.remaining s.handlers = 0 := by
    refine Finset.sum_eq_zero fun k _ => ?_
    cases hk : s.handlers.lookup k with
    | none => rfl
    | some stage =>
      have hdone := h.answered k stage hk
      cases stage with
      | refused | returned => rfl
      | creating | live => cases hdone
  rw [remaining, hsum, h.noTasks]
  rfl

/-- A notary that has work left can do some of it. -/
theorem exists_work {s : State N} (hc : Consistent s) (h : remaining s ≠ 0) :
    ∃ a s', Action.works a = true ∧ step s a = some s' := by
  by_contra hno
  refine h (remaining_resting (resting_of_stuck hc fun a ha => ?_))
  cases hs : step s a with
  | none => rfl
  | some s' => exact absurd ⟨a, s', ha, hs⟩ hno

/-- Without new requests. -/
def NoArrival (_ : State N) (a : Action) : Prop := Action.arrives a = 0

theorem works_noArrival (s : State N) (a : Action) (ha : Action.works a = true) :
    NoArrival s a := by
  cases a with
  | request | getSession => cases ha
  | _ => rfl

/-- However a run goes on without new requests, it has a bounded amount of
work left; when it cannot do more it is at rest, and it can always get
there. -/
theorem notary_comes_to_rest (N : Notary P) (maxSessions : ℕ)
    (trace : List (Action × State N)) (s : State N)
    (h : Run (Steps step) (init N maxSessions) trace s) :
    remaining s + spent (fun a => (Action.works a).toNat) trace ≤ spent Action.arrives trace ∧
    (∀ after t, Run (Within NoArrival (Steps step)) s after t →
      remaining t + spent (fun a => (Action.works a).toNat) after ≤ remaining s ∧
      ((∀ a, Action.works a = true → step t a = none) → Resting t)) ∧
    ∃ after t, Run (Within NoArrival (Steps step)) s after t ∧ Resting t := by
  refine ⟨?_, fun after t hrun => ⟨?_, fun hstuck => ?_⟩, ?_⟩
  · have hbudget := h.budget remaining (fun a => (Action.works a).toNat) Action.arrives
      fun s a s' hs => step_remaining a hs
    have hstart : remaining (init N maxSessions) = 0 := by simp [remaining, init, total]
    omega
  · have hbudget := hrun.budget remaining (fun a => (Action.works a).toNat) (fun _ => 0)
      fun s a s' hs => hs.1 ▸ step_remaining a hs.2
    rw [spent_zero] at hbudget
    omega
  · exact resting_of_stuck (run_consistent N maxSessions _ t (h.trans hrun.unrestricted)) hstuck
  · obtain ⟨after, t, hrun, hc, hzero⟩ := exists_drained (R := Within NoArrival (Steps step))
      Consistent remaining (fun s hc hleft => by
        obtain ⟨a, s', ha, hs⟩ := exists_work hc hleft
        have hle := step_remaining a hs
        have harrive : Action.arrives a = 0 := works_noArrival s a ha
        rw [ha, harrive, Bool.toNat_true] at hle
        exact ⟨a, s', ⟨harrive, hs⟩, step_consistent a hc hs, by omega⟩)
      s (run_consistent N maxSessions trace s h)
    exact ⟨after, t, hrun, resting_of_stuck hc (stuck_of_spent hzero)⟩

theorem mixed_rests :
    ∃ trace s, Run (Steps step) (init emptyNotary 3) trace s ∧ whereabouts s = (1, 1, 1) ∧
      ∃ after t, Run (Within NoArrival (Steps step)) s after t ∧ Resting t := by
  obtain ⟨trace, s, hrun, -, hobs⟩ := mixed_reached
  exact ⟨trace, s, hrun, hobs, (notary_comes_to_rest emptyNotary 3 trace s hrun).2.2⟩

end ZkTls.HandlerProgress
