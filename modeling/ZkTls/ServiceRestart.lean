import ZkTls.AttestationChecks
import ZkTls.ProofAttribution
import ZkTls.SessionAccounting
import ZkTls.TemplateLoading

/-!
# The service across restarts

The binary loads its key from a file or generates and saves one, builds its
registry and allowlist, and serves until it stops or crashes; sessions are
lost with the process, the file is not. As long as no start writes over the
file, every incarnation signs with the same key, so what one of them issued
verifies under the key any of them publishes. A start writes over a file that
it cannot look at, and this is the only way to lose the key.
-/

set_option autoImplicit false

namespace ZkTls.ServiceRestart
open ZkTls.CoreTypes ZkTls.VerificationTemplates ZkTls.SessionProofs ZkTls.FieldExtraction
open ZkTls.FiniteStore ZkTls.LabelledRun ZkTls.NotarizeResponse ZkTls.NotarySessions
open ZkTls.NotaryMachine ZkTls.NotaryInvariant ZkTls.ProofVerifier ZkTls.TemplateLoading
open ZkTls.ProofAttribution ZkTls.SessionAccounting ZkTls.RecordedPlatform ZkTls.JsonText
open ZkTls.SessionLifecycle ZkTls.SessionIsolation ZkTls.StoreCapacity
open ZkTls.AttestationChecks (utahNotary)

/-- The seed of a signing key. A key restored from its own seed is the same
key. -/
structure SeedBytes (P : Platform) where
  asBytes : P.SigningKey → List.Vector UInt8 32
  fromBytes : List.Vector UInt8 32 → P.SigningKey
  restores : ∀ key, fromBytes (asBytes key) = key

variable {P : Platform} (C : SeedBytes P)

def fromSeed (seed : List.Vector UInt8 32) : NotaryKeyPair P := ⟨C.fromBytes seed⟩

def seed (keypair : NotaryKeyPair P) : List.Vector UInt8 32 := C.asBytes keypair.signingKey

theorem fromSeed_seed (keypair : NotaryKeyPair P) : fromSeed C (seed C keypair) = keypair :=
  congrArg NotaryKeyPair.mk (C.restores keypair.signingKey)

/-- The published seed of the recorded key. -/
def recordedSeed : List.Vector UInt8 32 :=
  ⟨[0x9d, 0x61, 0xb1, 0x9d, 0xef, 0xfd, 0x5a, 0x60, 0xba, 0x84, 0x4a, 0xf4,
    0x92, 0xec, 0x2c, 0xc4, 0x44, 0x49, 0xc5, 0x69, 0x7b, 0x32, 0x69, 0x19,
    0x70, 0x3b, 0xac, 0x03, 0x1c, 0xae, 0x7f, 0x60], by decide⟩

def recordedSeeds (R : Recording) : SeedBytes (replay R) where
  asBytes _ := recordedSeed
  fromBytes _ := ()
  restores _ := rfl

/-- What the random source and the file system do at one start. A write that
fails or is interrupted has not opened the file, or has left the first bytes
of the seed in it. -/
structure KeyEnv (P : Platform) where
  generated : NotaryKeyPair P
  metadataFails : Bool
  readError : Option String
  writeError : Option (String × Option (Fin 32))

/-- The file as the check for its existence sees it: an error counts as
absence. -/
def visible (file : Option Bytes) (env : KeyEnv P) : Option Bytes :=
  if env.metadataFails then none else file

/-- The key file after the call, and the key or the panic. -/
def loadOrGenerateKey (file : Option Bytes) (env : KeyEnv P) :
    Option Bytes × Except String (NotaryKeyPair P) :=
  match visible file env with
  | some seedBytes =>
    match env.readError with
    | some e => (file, .error ("failed to read key file: " ++ e))
    | none =>
      match tryInto 32 seedBytes with
      | none =>
        (file, .error ("key file must be exactly 32 bytes, got " ++ seedBytes.length.repr))
      | some s => (file, .ok (fromSeed C s))
  | none =>
    -- the write truncates whatever the check did not see
    match env.writeError with
    | none => (some (seed C env.generated).toList, .ok env.generated)
    | some (e, none) => (file, .error ("failed to write key file: " ++ e))
    | some (e, some n) =>
      (some ((seed C env.generated).toList.take n.val),
        .error ("failed to write key file: " ++ e))

/-- The environment of one start: the configured capacity if it is a number,
the key, the template files in directory order, and the failures of the client
and of the listener. -/
structure StartEnv (P : Platform) where
  maxSessions : Except String ℕ
  key : KeyEnv P
  files : List (Except String VerificationTemplate)
  listenAddr : String
  clientError : Option String
  bindError : Option String

def serveFrom (keypair : NotaryKeyPair P) (files : List (Except String VerificationTemplate)) :
    Notary P where
  keypair := keypair
  templates := loadTemplates files
  allowedHostnames := allowedHostnames (loadTemplates files)

/-- One life of the process. -/
structure Incarnation (P : Platform) where
  notary : Notary P
  state : State notary

/-- The start of the binary, up to serving or a panic. -/
def start (file : Option Bytes) (env : StartEnv P) :
    Option Bytes × Except String (Incarnation P) :=
  match env.maxSessions with
  | .error e => (file, .error ("NOTARY_MAX_SESSIONS must be a number: " ++ e))
  | .ok maxSessions =>
    match loadOrGenerateKey C file env.key with
    | (file, .error e) => (file, .error e)
    | (file, .ok keypair) =>
      match env.clientError, env.bindError with
      | some e, _ => (file, .error ("failed to build HTTP client: " ++ e))
      | none, some e => (file, .error ("failed to bind " ++ env.listenAddr ++ ": " ++ e))
      | none, none =>
        let notary := serveFrom keypair env.files
        (file, .ok ⟨notary, init notary maxSessions⟩)

/-- The key file, the process if it runs, and the incarnations before it as
they ended. -/
structure Service (P : Platform) where
  file : Option Bytes
  running : Option (Incarnation P)
  past : List (Incarnation P)

inductive ServiceAction (P : Platform) where
  | start (env : StartEnv P)
  | stop
  | act (a : Action)

def serviceStep (s : Service P) : ServiceAction P → Option (Service P)
  | .start env =>
    match s.running with
    | some _ => none
    | none =>
      let r := start C s.file env
      some { s with file := r.1, running := r.2.toOption }
  | .stop =>
    match s.running with
    | none => none
    | some i => some { s with running := none, past := s.past ++ [i] }
  | .act a =>
    match s.running with
    | none => none
    | some i => (step i.state a).map fun t => { s with running := some ⟨i.notary, t⟩ }

def installed (file : Option Bytes) : Service P := ⟨file, none, []⟩

/-- Every incarnation so far, as it is or as it ended. -/
def Service.incarnations (s : Service P) : List (Incarnation P) := s.past ++ s.running.toList

theorem load_ok (file : Option Bytes) (env : KeyEnv P) (keypair : NotaryKeyPair P)
    (h : (loadOrGenerateKey C file env).2 = .ok keypair) :
    ∃ s, (loadOrGenerateKey C file env).1 = some s.toList ∧ keypair = fromSeed C s := by
  unfold loadOrGenerateKey at h ⊢
  cases hvisible : visible file env with
  | some seedBytes =>
    have hfile : file = some seedBytes := by
      unfold visible at hvisible
      split at hvisible
      · cases hvisible
      · exact hvisible
    cases hread : env.readError with
    | some e => simp [hvisible, hread] at h
    | none =>
      cases hsize : tryInto 32 seedBytes with
      | none => simp [hvisible, hread, hsize] at h
      | some s =>
        simp only [hvisible, hread, hsize, Except.ok.injEq] at h ⊢
        exact ⟨s, by rw [hfile, tryInto_eq_some.mp hsize], h.symm⟩
  | none =>
    rcases hwrite : env.writeError with _ | ⟨e, _ | n⟩
    · simp only [hvisible, hwrite, Except.ok.injEq] at h ⊢
      exact ⟨seed C env.generated, rfl, h ▸ (fromSeed_seed C env.generated).symm⟩
    · simp [hvisible, hwrite] at h
    · simp [hvisible, hwrite] at h

/-- A key file that is seen, or cannot be opened for writing, stays. -/
theorem load_spares (seedBytes : Bytes) (env : KeyEnv P)
    (h : env.metadataFails = false ∨ ∃ e, env.writeError = some (e, none)) :
    (loadOrGenerateKey C (some seedBytes) env).1 = some seedBytes := by
  unfold loadOrGenerateKey
  cases hvisible : visible (some seedBytes) env with
  | some b =>
    simp only
    split
    · rfl
    · split <;> rfl
  | none =>
    rcases h with hseen | ⟨e, hwrite⟩
    · simp [visible, hseen] at hvisible
    · simp [hwrite]

/-- What a start that sees no key file writes to it. -/
def written (env : KeyEnv P) : Bytes :=
  match env.writeError with
  | some (_, some n) => (seed C env.generated).toList.take n.val
  | _ => (seed C env.generated).toList

theorem load_writes (file : Option Bytes) (env : KeyEnv P) (hunseen : visible file env = none)
    (hopen : ∀ e, env.writeError ≠ some (e, none)) :
    (loadOrGenerateKey C file env).1 = some (written C env) ∧
      ∀ keypair, (loadOrGenerateKey C file env).2 = .ok keypair → keypair = env.generated := by
  rcases hwrite : env.writeError with _ | ⟨e, _ | n⟩
  · simp [loadOrGenerateKey, hunseen, written, hwrite]
  · exact absurd hwrite (hopen e)
  · simp [loadOrGenerateKey, hunseen, written, hwrite]

/-- A file that may be read and written but not looked at is replaced. -/
example (R : Recording) : loadOrGenerateKey (recordedSeeds R) (some [1]) ⟨⟨()⟩, true, none, none⟩ =
    (some recordedSeed.toList, .ok ⟨()⟩) := rfl

/-- The ends of a start: a panic before or after the key was loaded, or a
process that serves with it. -/
inductive Started (file : Option Bytes) (env : StartEnv P) :
    Option Bytes × Except String (Incarnation P) → Prop
  | early (e message : String) (hmax : env.maxSessions = .error e) :
      Started file env (file, .error message)
  | late (maxSessions : ℕ) (message : String) (hmax : env.maxSessions = .ok maxSessions) :
      Started file env ((loadOrGenerateKey C file env.key).1, .error message)
  | serves (keypair : NotaryKeyPair P) (maxSessions : ℕ) (hmax : env.maxSessions = .ok maxSessions)
      (hkey : (loadOrGenerateKey C file env.key).2 = .ok keypair) :
      Started file env ((loadOrGenerateKey C file env.key).1,
        .ok ⟨serveFrom keypair env.files, init (serveFrom keypair env.files) maxSessions⟩)

theorem start_started (file : Option Bytes) (env : StartEnv P) :
    Started C file env (start C file env) := by
  have hlate := @Started.late P C file env
  have hserves := @Started.serves P C file env
  unfold start
  split
  · exact .early _ _ ‹_›
  · rename_i maxSessions hmax
    split
    · rename_i hload
      rw [hload] at hlate
      exact hlate maxSessions _ hmax
    · rename_i keypair hload
      rw [hload] at hlate hserves
      split
      · exact hlate maxSessions _ hmax
      · exact hlate maxSessions _ hmax
      · exact hserves keypair maxSessions hmax rfl

/-- A start that does not get to write to a key file that is there: it ends
before the key, sees the file, or cannot open it for writing. -/
def Spares (env : StartEnv P) : Prop :=
  (∃ e, env.maxSessions = .error e) ∨ env.key.metadataFails = false ∨
    ∃ e, env.key.writeError = some (e, none)

theorem start_spares (seedBytes : Bytes) (env : StartEnv P) (h : Spares env) :
    (start C (some seedBytes) env).1 = some seedBytes := by
  have hkept : ∀ maxSessions, env.maxSessions = .ok maxSessions →
      (loadOrGenerateKey C (some seedBytes) env.key).1 = some seedBytes := by
    intro maxSessions hmax
    rcases h with ⟨e, herror⟩ | hkey
    · cases hmax.symm.trans herror
    · exact load_spares C seedBytes env.key hkey
  have hstarted := start_started C (some seedBytes) env
  generalize start C (some seedBytes) env = r at hstarted ⊢
  cases hstarted with
  | early => rfl
  | late maxSessions _ hmax => exact hkept maxSessions hmax
  | serves _ maxSessions hmax => exact hkept maxSessions hmax

/-- Any other start replaces the file, and serves only with the key it
generated. -/
theorem start_writes (file : Option Bytes) (env : StartEnv P) (h : ¬ Spares env) :
    (start C file env).1 = some (written C env.key) ∧
      ∀ i, (start C file env).2 = .ok i → i.notary.keypair = env.key.generated := by
  obtain ⟨hmax, hkey⟩ := not_or.mp h
  obtain ⟨hunseen, hopen⟩ := not_or.mp hkey
  have hvisible : visible file env.key = none := by
    simp [visible, Bool.eq_true_of_not_eq_false hunseen]
  obtain ⟨hfile, hgenerated⟩ := load_writes C file env.key hvisible fun e he => hopen ⟨e, he⟩
  have hstarted := start_started C file env
  generalize start C file env = r at hstarted ⊢
  cases hstarted with
  | early e _ herror => exact absurd ⟨e, herror⟩ hmax
  | late => exact ⟨hfile, by rintro i ⟨⟩⟩
  | serves keypair _ _ hkey =>
    refine ⟨hfile, ?_⟩
    rintro i ⟨⟩
    exact hgenerated keypair hkey

theorem start_keeps_iff (seedBytes : Bytes) (env : StartEnv P) :
    (start C (some seedBytes) env).1 = some seedBytes ↔
      Spares env ∨ written C env.key = seedBytes := by
  by_cases h : Spares env
  · exact iff_of_true (start_spares C seedBytes env h) (Or.inl h)
  · rw [(start_writes C (some seedBytes) env h).1, Option.some.injEq]
    exact ⟨Or.inr, fun hor => hor.resolve_left h⟩

/-- A process that serves uses the key it leaves in the file, and every other
decision it makes comes from its templates. -/
theorem start_ok (file : Option Bytes) (env : StartEnv P) (i : Incarnation P)
    (h : (start C file env).2 = .ok i) :
    ∃ s maxSessions, (start C file env).1 = some s.toList ∧
      i = ⟨serveFrom (fromSeed C s) env.files,
        init (serveFrom (fromSeed C s) env.files) maxSessions⟩ := by
  have hstarted := start_started C file env
  generalize start C file env = r at hstarted h ⊢
  cases hstarted with
  | early | late => cases h
  | serves keypair maxSessions _ hkey =>
    obtain ⟨s, hfile, rfl⟩ := load_ok C file env.key keypair hkey
    cases h
    exact ⟨s, maxSessions, hfile, rfl⟩

/-- Everything one step of the service can do. -/
inductive ServiceStepped (s : Service P) : ServiceAction P → Service P → Prop
  | start (env : StartEnv P) (h : s.running = none) :
      ServiceStepped s (.start env)
        { s with
          file := (start C s.file env).1
          running := (start C s.file env).2.toOption }
  | stop (i : Incarnation P) (h : s.running = some i) :
      ServiceStepped s .stop { s with running := none, past := s.past ++ [i] }
  | act (i : Incarnation P) (a : Action) (t : State i.notary) (h : s.running = some i)
      (ht : step i.state a = some t) :
      ServiceStepped s (.act a) { s with running := some ⟨i.notary, t⟩ }

theorem service_step_stepped {s s' : Service P} (a : ServiceAction P)
    (h : serviceStep C s a = some s') : ServiceStepped C s a s' := by
  cases hrunning : s.running with
  | none => cases a with
    | start env =>
      simp only [serviceStep, hrunning, Option.some.injEq] at h
      exact h ▸ .start env hrunning
    | stop | act => simp [serviceStep, hrunning] at h
  | some i => cases a with
    | start env => simp [serviceStep, hrunning] at h
    | stop =>
      simp only [serviceStep, hrunning, Option.some.injEq] at h
      exact h ▸ .stop i hrunning
    | act a =>
      simp only [serviceStep, hrunning, Option.map_eq_some_iff] at h
      obtain ⟨t, ht, rfl⟩ := h
      exact .act i a t hrunning ht

/-- Where an incarnation of the next state comes from. -/
theorem incarnation_cases {s s' : Service P} {a : ServiceAction P}
    (h : ServiceStepped C s a s') (i : Incarnation P) (hi : i ∈ s'.incarnations) :
    i ∈ s.incarnations ∨ (∃ env, a = .start env ∧ (start C s.file env).2 = .ok i) ∨
      ∃ j b t, j ∈ s.incarnations ∧ step j.state b = some t ∧ i = ⟨j.notary, t⟩ := by
  cases h with
  | start env hrunning =>
    rcases List.mem_append.mp hi with hold | hnew
    · exact Or.inl (List.mem_append_left _ hold)
    · refine Or.inr (Or.inl ⟨env, rfl, ?_⟩)
      cases hstart : (start C s.file env).2 with
      | error e => simp [hstart, Except.toOption] at hnew
      | ok j => simp_all [Except.toOption]
  | stop j hrunning =>
    exact Or.inl (by simpa [Service.incarnations, hrunning] using hi)
  | act j b t hrunning ht =>
    rcases List.mem_append.mp hi with hold | hnew
    · exact Or.inl (List.mem_append_left _ hold)
    · exact Or.inr (Or.inr ⟨j, b, t, by simp [Service.incarnations, hrunning], ht, by
        simpa using hnew⟩)

/-- An incarnation is the binary at work on some template files. -/
structure Serving (i : Incarnation P) : Prop where
  templates : ∃ files, i.notary = serveFrom i.notary.keypair files
  reached : ∃ maxSessions trace, Run (Steps step) (init i.notary maxSessions) trace i.state

theorem service_step_serving {s s' : Service P} (hs : ∀ i ∈ s.incarnations, Serving i)
    (a : ServiceAction P) (h : serviceStep C s a = some s') :
    ∀ i ∈ s'.incarnations, Serving i := by
  intro i hi
  rcases incarnation_cases C (service_step_stepped C a h) i hi with
    hold | ⟨env, -, hstart⟩ | ⟨j, b, t, hj, ht, rfl⟩
  · exact hs i hold
  · obtain ⟨s0, maxSessions, -, rfl⟩ := start_ok C s.file env i hstart
    exact ⟨⟨env.files, rfl⟩, maxSessions, [], .nil⟩
  · obtain ⟨hfiles, maxSessions, trace, hrun⟩ := hs j hj
    exact ⟨hfiles, maxSessions, _, hrun.snoc ht⟩

theorem service_serving (file : Option Bytes) (trace : List (ServiceAction P × Service P))
    (s : Service P) (h : Run (Steps (serviceStep C)) (installed file) trace s) :
    ∀ i ∈ s.incarnations, Serving i :=
  h.invariant (fun s => ∀ i ∈ s.incarnations, Serving i)
    (by simp [Service.incarnations, installed])
    fun _ a _ hc hs => service_step_serving C hc a hs

/-- The incarnation uses the key in the file. -/
def Keyed (file : Option Bytes) (i : Incarnation P) : Prop :=
  ∃ s, file = some s.toList ∧ i.notary.keypair = fromSeed C s

theorem keyed_same {file : Option Bytes} {i j : Incarnation P} (hi : Keyed C file i)
    (hj : Keyed C file j) : i.notary.keypair = j.notary.keypair := by
  obtain ⟨s, hfile, hkey⟩ := hi
  obtain ⟨t, hfile', hkey'⟩ := hj
  have hst : s = t := Subtype.ext (Option.some.inj (hfile.symm.trans hfile'))
  rw [hkey, hkey', hst]

/-- A condition on the starts: a key file that is there is spared. -/
def SparesFile (s : Service P) : ServiceAction P → Prop
  | .start env => s.file = none ∨ Spares env
  | _ => True

theorem service_step_file {s s' : Service P} (a : ServiceAction P)
    (h : Within SparesFile (Steps (serviceStep C)) s a s') (b : Bytes) (hb : s.file = some b) :
    s'.file = some b := by
  obtain ⟨hspares, hstep⟩ := h
  cases service_step_stepped C a hstep with
  | start env =>
    rcases hspares with hnone | hspares
    · cases hnone.symm.trans hb
    · rw [hb]
      exact start_spares C b env hspares
  | stop | act => exact hb

theorem service_step_keyed {s s' : Service P} (hs : ∀ i ∈ s.incarnations, Keyed C s.file i)
    (a : ServiceAction P) (h : Within SparesFile (Steps (serviceStep C)) s a s') :
    ∀ i ∈ s'.incarnations, Keyed C s'.file i := by
  have hkept : ∀ i, Keyed C s.file i → Keyed C s'.file i := by
    rintro i ⟨s0, hfile, hkey⟩
    exact ⟨s0, service_step_file C a h s0.toList hfile, hkey⟩
  intro i hi
  have hstepped := service_step_stepped C a h.2
  rcases incarnation_cases C hstepped i hi with hold | ⟨env, rfl, hstart⟩ | ⟨j, b, t, hj, -, rfl⟩
  · exact hkept i (hs i hold)
  · obtain ⟨s0, maxSessions, hfile, rfl⟩ := start_ok C s.file env i hstart
    cases hstepped with
    | start => exact ⟨s0, hfile, rfl⟩
  · exact hkept j (hs j hj)

theorem service_keyed (file : Option Bytes) (trace : List (ServiceAction P × Service P))
    (s : Service P) (h : Run (Within SparesFile (Steps (serviceStep C))) (installed file) trace s) :
    ∀ i ∈ s.incarnations, Keyed C s.file i :=
  h.invariant (fun s => ∀ i ∈ s.incarnations, Keyed C s.file i)
    (by simp [Service.incarnations, installed])
    fun _ a _ hc hs => service_step_keyed C hc a hs

/-- What holds of the key over the whole life of a service, and what the next
start makes of it. -/
structure OneKey (file : Option Bytes) (s : Service P) : Prop where
  kept : ∀ b, file = some b → s.file = some b
  unusable : ∀ b, s.file = some b → b.length ≠ 32 → s.incarnations = []
  same : ∀ i ∈ s.incarnations, ∀ j ∈ s.incarnations, i.notary.keypair = j.notary.keypair
  published : ∀ i ∈ s.incarnations, ∀ j ∈ s.incarnations,
    (notaryInfo i.state).publicKey = (notaryInfo j.state).publicKey
  loaded : ∀ i ∈ s.incarnations, ∀ env : KeyEnv P, env.metadataFails = false →
    env.readError = none → loadOrGenerateKey C s.file env = (s.file, .ok i.notary.keypair)
  next : ∀ b env, s.file = some b →
    ((start C s.file env).1 = s.file ↔ Spares env ∨ written C env.key = b)
  replaced : ∀ env i, ¬ Spares env → (start C s.file env).2 = .ok i →
    i.notary.keypair = env.key.generated

/-- However often the service stops and starts, and whatever else fails, as
long as every start spares the key file every incarnation has the key in
it. -/
theorem one_key_for_all (file : Option Bytes) (trace : List (ServiceAction P × Service P))
    (s : Service P)
    (h : Run (Within SparesFile (Steps (serviceStep C))) (installed file) trace s) :
    OneKey C file s where
  kept b hb := h.invariant (fun t => t.file = some b) hb fun _ a _ hf hs =>
    service_step_file C a hs b hf
  unusable b hb hsize := by
    refine List.eq_nil_iff_forall_not_mem.mpr fun i hi => ?_
    obtain ⟨t, hfile, -⟩ := service_keyed C file trace s h i hi
    rw [Option.some.inj (hb.symm.trans hfile)] at hsize
    exact hsize t.2
  same i hi j hj :=
    keyed_same C (service_keyed C file trace s h i hi) (service_keyed C file trace s h j hj)
  published i hi j hj := by
    rw [notaryInfo, notaryInfo, keyed_same C (service_keyed C file trace s h i hi)
      (service_keyed C file trace s h j hj)]
  loaded i hi env hseen hread := by
    obtain ⟨t, hfile, hkey⟩ := service_keyed C file trace s h i hi
    rw [hfile, hkey]
    simp [loadOrGenerateKey, visible, hseen, hread, tryInto_toList]
  next b env hb := by
    rw [hb]
    exact start_keeps_iff C b env
  replaced env i hspares := (start_writes C s.file env hspares).2 i

/-- What one incarnation replied verifies for everyone who trusts the key
that any incarnation publishes, until it expires. -/
theorem replies_verify_across_restarts (file : Option Bytes)
    (trace : List (ServiceAction P × Service P)) (s : Service P)
    (h : Run (Within SparesFile (Steps (serviceStep C))) (installed file) trace s)
    (i j : Incarnation P)
    (hi : i ∈ s.incarnations) (hj : j ∈ s.incarnations) (V : Ed25519Verifier) (n : TrustedNotary)
    (hn : n ∈ V.trustedNotaries)
    (hpublished : hexEncode n.publicKey = (notaryInfo j.state).publicKey) :
    ∀ k f x reply, i.state.handlers.lookup k = some (.returned f x) → x.reply = .ok reply →
      SignsCorrectly i.notary.keypair [message P reply.proof] →
      ∀ now, (∀ e, reply.attestation.expiresAt = some e → now ≤ e) →
        ∃ r, verifyAttestation P V now reply.attestation reply.proof = .ok r ∧
          r.claimType = f.template.claimType ∧ r.notaryKey = n.publicKey ∧
          r.verifiedFields = reply.attestation.disclosedFields := by
  intro k f x reply _ hreply hsign now hnow
  have hkeyed := service_keyed C file trace s h
  obtain ⟨hsigned, hclaim⟩ := exit_reply_ok x reply hreply
  have hkey : n.publicKey = publicKeyBytes i.notary.keypair := by
    rw [keyed_same C (hkeyed i hi) (hkeyed j hj)]
    exact hexEncode_injective hpublished
  have hproofKey : reply.proof.notaryPublicKey = n.publicKey := by
    obtain ⟨body, clock, fields, -, hproof⟩ := hsigned
    rw [hkey, hproof]
    rfl
  have htrust : (isTrusted V (publicKeyBytes i.notary.keypair)).isSome = true :=
    (isTrusted_isSome V _).mpr ⟨n, hn, hkey⟩
  obtain ⟨notary, -, hresult⟩ := verifyAttestation_of_proof P V now reply.attestation reply.proof
    (signedBy_accepted f reply.proof hsigned hsign V htrust) ((expired_none now _).mpr hnow)
  exact ⟨_, hresult, hclaim, hproofKey, rfl⟩

/-- A proof that verifies under a key that only the service has used, with a
hash and a commitment of the right length, was signed by a handler of some
incarnation for a response it accepted. -/
theorem proofs_attributed_across_restarts (hclock : ClockText P) (file : Option Bytes)
    (trace : List (ServiceAction P × Service P)) (s : Service P)
    (h : Run (Steps (serviceStep C)) (installed file) trace s) (keypair : NotaryKeyPair P)
    (hunf : Unforgeable keypair (s.incarnations.flatMap fun i => signedMessages i.state))
    (V : Ed25519Verifier) (q : SessionProof) (hq : verifyProof P V q = .ok ())
    (hkey : q.notaryPublicKey = publicKeyBytes keypair)
    (hhash : q.certificateHash.length = 64) (hcommit : q.transcriptCommitment.length = 64) :
    ∃ i ∈ s.incarnations, Attributed i.state q := by
  obtain ⟨-, key, vk, sig, hbytes, hvk, -, hv⟩ := (verifyProof_ok P V q).mp hq
  have hkeys : key = P.verifyingKey keypair.signingKey :=
    Subtype.ext (hbytes.symm.trans hkey)
  obtain ⟨i, hi, hmsg⟩ := List.mem_flatMap.mp (hunf vk (hkeys ▸ hvk) _ _ hv)
  obtain ⟨maxSessions, run, hrun⟩ := (service_serving C file trace s h i hi).reached
  exact ⟨i, hi, attributed_of_message hclock maxSessions run i.state hrun q hhash hcommit hmsg⟩

/-- Why the action that turned handler `k` down did so: its request names a
template that is not registered, or there was no room for its session. The
host check of the handler turns nobody down. -/
inductive Explained {N : Notary P} (t : State N) (k : ℕ) : Action → ErrorReply → Prop
  | unknown (req : NotarizeRequest)
      (h : VerificationTemplates.get N.templates req.templateId = none) :
      Explained t k (.request k req) ⟨404, "template not found: " ++ req.templateId⟩
  | full (uuid : String) (now : DateTime) (job : Job N)
      (hjob : t.handlers.lookup k = some (.creating job))
      (h : activeCount t.store = t.store.maxSessions) :
      Explained t k (.create k uuid now)
        ⟨503, (NotaryError.tooManySessions t.store.maxSessions).toString⟩

theorem arrival_explained (keypair : NotaryKeyPair P)
    (files : List (Except String VerificationTemplate)) (req : NotarizeRequest)
    (reply : ErrorReply) (h : arrival (serveFrom keypair files) req = .refused reply) :
    VerificationTemplates.get (serveFrom keypair files).templates req.templateId = none ∧
      reply = ⟨404, "template not found: " ++ req.templateId⟩ := by
  unfold arrival at h
  split at h
  · rename_i e he
    cases h
    rw [serveFrom, derived_allowlist_admits] at he
    cases hget : VerificationTemplates.get (loadTemplates files) req.templateId with
    | none =>
      rw [hget] at he
      exact ⟨hget, (Except.error.inj he).symm⟩
    | some template =>
      rw [hget] at he
      cases he
  · cases h

/-- A step after which a handler is refused that was not refused before. -/
theorem step_explained {N : Notary P} (hserve : ∃ files, N = serveFrom N.keypair files)
    (maxSessions : ℕ) (trace : List (Action × State N)) (t t' : State N)
    (hrun : Run (Steps step) (init N maxSessions) trace t) (a : Action)
    (h : step t a = some t') (k : ℕ) (reply : ErrorReply)
    (hbefore : t.handlers.lookup k ≠ some (.refused reply))
    (hafter : t'.handlers.lookup k = some (.refused reply)) : Explained t k a reply := by
  have hown : Action.handler a = some k := by
    by_contra hother
    exact hbefore ((handler_frame a h k hother).symm.trans hafter)
  cases step_stepped a h with
  | request j req =>
    cases hown
    rw [State.arrived, Finmap.lookup_insert] at hafter
    obtain ⟨files, hN⟩ := hserve
    generalize N.keypair = keypair at hN
    subst hN
    obtain ⟨hunknown, rfl⟩ := arrival_explained keypair files req reply (Option.some.inj hafter)
    exact .unknown req hunknown
  | overload j uuid now job hj _ hfull =>
    cases hown
    rw [State.overloaded, Finmap.lookup_insert] at hafter
    cases hafter
    have hb := reachable_bounded maxSessions trace t hrun
    exact .full uuid now job hj ((makeRoom_full hb hfull).2.trans hb.capacity.symm)
  | create j f =>
    cases hown
    rw [State.opened, Finmap.lookup_insert] at hafter
    cases hafter
  | resume j f p input w next =>
    cases hown
    rw [resumed_handlers, Finmap.lookup_insert] at hafter
    cases next <;> cases hafter
  | runTask | getSession => cases hown

/-- The life with the given number has turned handler `k` down. -/
def Refused (N : Notary P) (life k : ℕ) (reply : ErrorReply) (s : Service P) : Prop :=
  ∃ i, s.incarnations[life]? = some i ∧ i.notary = N ∧
    i.state.handlers.lookup k = some (.refused reply)

/-- The step of the service at which one of its lives turned a handler
down. -/
theorem service_step_refused {s s' : Service P} (hs : ∀ i ∈ s.incarnations, Serving i)
    (a : ServiceAction P) (h : serviceStep C s a = some s') (N : Notary P) (life k : ℕ)
    (reply : ErrorReply) (hbefore : ¬ Refused N life k reply s)
    (hafter : Refused N life k reply s') :
    ∃ i b, a = .act b ∧ s.running = some i ∧ s.past.length = life ∧ i.notary = N ∧
      Explained i.state k b reply := by
  obtain ⟨i', hi', hN, hk⟩ := hafter
  have hnew : s.incarnations[life]? ≠ some i' := fun hold => hbefore ⟨i', hold, hN, hk⟩
  cases service_step_stepped C a h with
  | start env hrunning =>
    -- a life that begins has turned nobody down
    have hmem : i' ∈ (start C s.file env).2.toOption := by
      simp only [Service.incarnations, hrunning, Option.toList_none, List.append_nil] at hi' hnew
      have hpast : s.past.length ≤ life := by
        by_contra hlt
        rw [List.getElem?_append_left (Nat.lt_of_not_le hlt)] at hi'
        exact hnew hi'
      rw [List.getElem?_append_right hpast] at hi'
      simpa using List.mem_of_getElem? hi'
    cases hstart : (start C s.file env).2 with
    | error e => simp [hstart, Except.toOption] at hmem
    | ok i =>
      simp only [hstart, Except.toOption, Option.mem_def, Option.some.injEq] at hmem
      obtain ⟨s0, maxSessions, -, rfl⟩ := start_ok C s.file env i hstart
      subst hmem
      simp [init] at hk
  | stop i hrunning =>
    simp only [Service.incarnations, hrunning, Option.toList_none, Option.toList_some,
      List.append_nil] at hi' hnew
    exact absurd hi' hnew
  | act i b t hrunning ht =>
    simp only [Service.incarnations, hrunning, Option.toList_some] at hi' hnew
    rcases Nat.lt_trichotomy life s.past.length with hlt | rfl | hgt
    · rw [List.getElem?_append_left hlt] at hi' hnew
      exact absurd hi' hnew
    · rw [List.getElem?_append_right le_rfl, Nat.sub_self] at hi'
      obtain rfl : ⟨i.notary, t⟩ = i' := by simpa using hi'
      have hmem : i ∈ s.incarnations := by simp [Service.incarnations, hrunning]
      obtain ⟨maxSessions, trace, hrun⟩ := (hs i hmem).reached
      refine ⟨i, b, rfl, hrunning, rfl, hN, step_explained (hs i hmem).templates maxSessions trace
        i.state t hrun b ht k reply (fun hold => hbefore ?_) hk⟩
      exact ⟨i, by simp [Service.incarnations, hrunning], hN, hold⟩
    · rw [List.getElem?_eq_none (by simp; omega)] at hi'
      cases hi'

/-- A run of the service has turned handler `k` of one of its lives down, by a
step of that life and for a reason. -/
def RefusedAt (file : Option Bytes) (trace : List (ServiceAction P × Service P)) (life k : ℕ)
    (N : Notary P) (reply : ErrorReply) : Prop :=
  ∃ before u u' after i b, trace = before ++ (.act b, u') :: after ∧
    Run (Steps (serviceStep C)) (installed file) before u ∧ u.running = some i ∧
    u.past.length = life ∧ i.notary = N ∧ Explained i.state k b reply

/-- Every refusal of every life goes back to one step of that life, at which
the very request named an unknown template or the store was full of active
sessions. -/
theorem refusals_explained (file : Option Bytes) (trace : List (ServiceAction P × Service P))
    (s : Service P) (h : Run (Steps (serviceStep C)) (installed file) trace s) (life : ℕ)
    (i : Incarnation P) (hi : s.incarnations[life]? = some i) (k : ℕ) (reply : ErrorReply)
    (hk : i.state.handlers.lookup k = some (.refused reply)) :
    RefusedAt C file trace life k i.notary reply := by
  obtain ⟨before, u, a, u', after, hsplit, hbefore, hstep, hnot, hrefused⟩ :=
    h.caused (Refused i.notary life k reply)
      (by rintro ⟨j, hj, -⟩; simp [Service.incarnations, installed] at hj) ⟨i, hi, rfl, hk⟩
  obtain ⟨i₀, b, rfl, hrunning, hlife, hN, hexplained⟩ := service_step_refused C
    (service_serving C file before u hbefore) a hstep i.notary life k reply hnot hrefused
  exact ⟨before, u, u', after, i₀, b, hsplit, hbefore, hrunning, hlife, hN, hexplained⟩

section Recorded

/-- A start in which nothing fails. -/
def plainStart (R : Recording) : ServiceAction (replay R) :=
  .start ⟨.ok 1, ⟨recordedKey R, false, none, none⟩, [], "127.0.0.1:7443", none, none⟩

/-- One voter is served, and there is no room for a second one meanwhile. -/
def firstLife : List Action :=
  voterRun activeText ++ [.request 1 ⟨"utah-voter-v1", none, none⟩,
    .create 1 secondId noon.proofTime, .resume 0 .proceed]

/-- The first start generates the key; the second start loads it and turns an
unknown template down. -/
def twoLives : List (ServiceAction (replay activeRecording)) :=
  [plainStart activeRecording] ++ firstLife.map .act ++
    [.stop, plainStart activeRecording, .act (.request 0 ⟨"ohio-voter-v1", none, none⟩)]

theorem twoLives_spare (a : ServiceAction (replay activeRecording)) (ha : a ∈ twoLives)
    (s : Service (replay activeRecording)) : SparesFile s a := by
  cases a with
  | start env =>
    have henv : ServiceAction.start env = plainStart activeRecording := by
      simpa [twoLives, plainStart] using ha
    cases henv
    exact Or.inr (Or.inr (Or.inl rfl))
  | stop | act => trivial

/-- What handler `k` of one life has replied with. -/
def lifeReply (s : Service P) (life k : ℕ) : Option NotarizeReply :=
  s.incarnations[life]?.bind fun i => okReply i.state k

def refusal (s : Service P) (life k : ℕ) : Option ErrorReply :=
  s.incarnations[life]?.bind fun i =>
    match i.state.handlers.lookup k with
    | some (.refused reply) => some reply
    | _ => none

theorem lifeReply_some (s : Service P) (life k : ℕ) (reply : NotarizeReply)
    (h : lifeReply s life k = some reply) : ∃ i, s.incarnations[life]? = some i ∧ ∃ f x,
      i.state.handlers.lookup k = some (.returned f x) ∧ x.reply = .ok reply := by
  obtain ⟨i, hi, hreply⟩ := Option.bind_eq_some_iff.mp h
  exact ⟨i, hi, okReply_some i.state k reply hreply⟩

theorem refusal_some (s : Service P) (life k : ℕ) (reply : ErrorReply)
    (h : refusal s life k = some reply) : ∃ i, s.incarnations[life]? = some i ∧
      i.state.handlers.lookup k = some (.refused reply) := by
  obtain ⟨i, hi, hstage⟩ := Option.bind_eq_some_iff.mp h
  refine ⟨i, hi, ?_⟩
  split at hstage
  · rename_i hk
    cases hstage
    exact hk
  · cases hstage

/-- What is read off the two lives: their number, the size of the key file,
whether the recorded message is the one signed and the one replied, when the
reply expires, and the refusals of either life. -/
structure Reading where
  lives : ℕ
  fileSize : Option ℕ
  signed : Bool
  replied : Option Bool
  expires : Option DateTime
  full : Option (ℕ × String)
  unknown : Option (ℕ × String)
  deriving DecidableEq

def recordedMessages : List Bytes := activeRecording.signatures.map Prod.fst

def reading (s : Service (replay activeRecording)) : Reading where
  lives := s.incarnations.length
  fileSize := s.file.map List.length
  signed := s.incarnations.flatMap (fun i => signedMessages i.state) = recordedMessages
  replied := (lifeReply s 0 0).map fun reply =>
    [message (replay activeRecording) reply.proof] = recordedMessages
  expires := (lifeReply s 0 0).bind fun reply => reply.attestation.expiresAt
  full := (refusal s 0 1).map fun reply => (reply.status, reply.error)
  unknown := (refusal s 1 0).map fun reply => (reply.status, reply.error)

theorem two_lives_reached :
    ∃ trace s,
      Run (Within SparesFile (Steps (serviceStep (recordedSeeds activeRecording))))
        (installed none) trace s ∧
      reading s = ⟨2, some 32, true, some true, some (noon.expiryBase + thirtyDays),
        some (503, "max concurrent sessions (1) reached"),
        some (404, "template not found: ohio-voter-v1")⟩ := by
  obtain ⟨trace, s, hrun, hmap, hobs⟩ := observed_run
    (serviceStep (recordedSeeds activeRecording)) twoLives (installed none) reading
    ⟨2, some 32, true, some true, some (noon.expiryBase + thirtyDays),
      some (503, "max concurrent sessions (1) reached"),
      some (404, "template not found: ohio-voter-v1")⟩ (by decide +kernel)
  exact ⟨trace, s, hrun.within (hmap ▸ twoLives_spare), hobs⟩

theorem two_lives_one_key :
    ∃ trace s,
      Run (Within SparesFile (Steps (serviceStep (recordedSeeds activeRecording))))
        (installed none) trace s ∧
      s.incarnations.length = 2 ∧ OneKey (recordedSeeds activeRecording) none s := by
  obtain ⟨trace, s, hrun, hobs⟩ := two_lives_reached
  exact ⟨trace, s, hrun, congrArg Reading.lives hobs,
    one_key_for_all (recordedSeeds activeRecording) none trace s hrun⟩

theorem replied_signs (i : Incarnation (replay activeRecording)) (reply : NotarizeReply)
    (h : decide ([message (replay activeRecording) reply.proof] = recordedMessages) = true) :
    SignsCorrectly i.notary.keypair [message (replay activeRecording) reply.proof] := by
  rw [of_decide_eq_true h]
  exact replay_signs activeRecording

/-- The first life's reply, verified with the key the second life
publishes. -/
theorem two_lives_verify :
    ∃ trace s i j reply r,
      Run (Within SparesFile (Steps (serviceStep (recordedSeeds activeRecording))))
        (installed none) trace s ∧
      s.incarnations[0]? = some i ∧ s.incarnations[1]? = some j ∧
      okReply i.state 0 = some reply ∧
      hexEncode utahNotary.publicKey = (notaryInfo j.state).publicKey ∧
      verifyAttestation (replay activeRecording) ⟨[utahNotary]⟩
        (noon.expiryBase + thirtyDays) reply.attestation reply.proof = .ok r ∧
      r.notaryKey = utahNotary.publicKey := by
  obtain ⟨trace, s, hrun, hobs⟩ := two_lives_reached
  have hlives : s.incarnations.length = 2 := congrArg Reading.lives hobs
  obtain ⟨reply, hreply, hmessage⟩ := Option.map_eq_some_iff.mp (congrArg Reading.replied hobs)
  have hexpires : reply.attestation.expiresAt = some (noon.expiryBase + thirtyDays) := by
    have h := congrArg Reading.expires hobs
    simpa [reading, hreply] using h
  obtain ⟨i, hi, hgiven⟩ := Option.bind_eq_some_iff.mp hreply
  obtain ⟨f, x, hk, hx⟩ := okReply_some i.state 0 reply hgiven
  obtain ⟨j, hj⟩ : ∃ j, s.incarnations[1]? = some j :=
    ⟨_, List.getElem?_eq_getElem (hlives ▸ Nat.one_lt_two)⟩
  obtain ⟨r, hr, -, hkey, -⟩ := replies_verify_across_restarts (recordedSeeds activeRecording)
    none trace s hrun i j (List.mem_of_getElem? hi) (List.mem_of_getElem? hj) ⟨[utahNotary]⟩
    utahNotary (List.mem_singleton_self _) rfl 0 f x reply hk hx (replied_signs i reply hmessage)
    (noon.expiryBase + thirtyDays) (by rw [hexpires]; rintro e ⟨⟩; exact le_refl _)
  exact ⟨trace, s, i, j, reply, r, hrun, hi, hj, hgiven, rfl, hr, hkey⟩

theorem two_lives_attributed :
    ∃ trace s reply,
      Run (Steps (serviceStep (recordedSeeds activeRecording))) (installed none) trace s ∧
      lifeReply s 0 0 = some reply ∧ ∃ i ∈ s.incarnations, Attributed i.state reply.proof := by
  obtain ⟨trace, s, hrun, hobs⟩ := two_lives_reached
  obtain ⟨reply, hreply, hmessage⟩ := Option.map_eq_some_iff.mp (congrArg Reading.replied hobs)
  obtain ⟨i, -, f, x, hk, hx⟩ := lifeReply_some s 0 0 reply hreply
  obtain ⟨hsigned, -⟩ := exit_reply_ok x reply hx
  obtain ⟨hhash, hcommit⟩ := signedBy_sizes f reply.proof hsigned
  have haccepted := signedBy_accepted f reply.proof hsigned (replied_signs i reply hmessage)
    ⟨[utahNotary]⟩ ((isTrusted_isSome _ _).mpr ⟨utahNotary, List.mem_singleton_self _, rfl⟩)
  have hunf : Unforgeable (recordedKey activeRecording)
      (s.incarnations.flatMap fun i => signedMessages i.state) := by
    have h := congrArg Reading.signed hobs
    rw [of_decide_eq_true h]
    exact replay_unforgeable activeRecording
  have hkey : reply.proof.notaryPublicKey = publicKeyBytes (recordedKey activeRecording) := by
    obtain ⟨body, clock, fields, -, hproof⟩ := hsigned
    rw [hproof]
    rfl
  exact ⟨trace, s, reply, hrun.unrestricted, hreply, proofs_attributed_across_restarts
    (recordedSeeds activeRecording) (replay_clock activeRecording) none trace s hrun.unrestricted
    (recordedKey activeRecording) hunf ⟨[utahNotary]⟩ reply.proof haccepted hkey hhash hcommit⟩

/-- One refusal of each kind, a full store in the first life and an unknown
template in the second. -/
theorem two_lives_refusals :
    ∃ trace s i j full unknown,
      Run (Steps (serviceStep (recordedSeeds activeRecording))) (installed none) trace s ∧
      s.incarnations[0]? = some i ∧ s.incarnations[1]? = some j ∧
      full.status = 503 ∧ unknown.status = 404 ∧
      RefusedAt (recordedSeeds activeRecording) none trace 0 1 i.notary full ∧
      RefusedAt (recordedSeeds activeRecording) none trace 1 0 j.notary unknown := by
  obtain ⟨trace, s, hwithin, hobs⟩ := two_lives_reached
  have hrun := hwithin.unrestricted
  obtain ⟨full, hfull, hfullText⟩ := Option.map_eq_some_iff.mp (congrArg Reading.full hobs)
  obtain ⟨unknown, hunknown, hunknownText⟩ :=
    Option.map_eq_some_iff.mp (congrArg Reading.unknown hobs)
  obtain ⟨i, hi, hk⟩ := refusal_some s 0 1 full hfull
  obtain ⟨j, hj, hk'⟩ := refusal_some s 1 0 unknown hunknown
  exact ⟨trace, s, i, j, full, unknown, hrun, hi, hj, congrArg Prod.fst hfullText,
    congrArg Prod.fst hunknownText,
    refusals_explained (recordedSeeds activeRecording) none trace s hrun 0 i hi 1 full hk,
    refusals_explained (recordedSeeds activeRecording) none trace s hrun 1 j hj 0 unknown hk'⟩

end Recorded

end ZkTls.ServiceRestart
