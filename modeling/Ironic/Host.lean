import Mathlib.Data.List.Basic

/-!
The conductor host as `ironic.common.images` sees it: the paths that exist and what is at
each, the external programs run so far, and the exceptions Python raises. Each operation of
the image code is a `Run` action over this state; a raised exception keeps the host it was
raised in, as Python's does.
-/

namespace Ironic

/-- File contents. -/
abbrev Bytes := List UInt8

/-- What a path names on the host. -/
inductive Node where
  | file (content : Bytes)
  | dir
  deriving DecidableEq, Repr

/-- The bytes of a regular file, if `node` is one. -/
def Node.content? : Option Node → Option Bytes
  | some (.file content) => some content
  | _ => none

@[simp] theorem Node.content?_file (content : Bytes) : Node.content? (some (.file content)) = some content := rfl

/-- The exceptions the modelled code raises or catches, one constructor per Python class. -/
inductive Error where
  | fileNotFound (path : String)
  | osError (path : String)
  | processExecutionError (command : String)
  | imageFormatError
  | safetyCheckFailed
  | imageUnacceptable (imageId reason : String)
  | invalidImage
  | imageConvertFailed (imageId reason : String)
  | insufficientMemory
  /-- `ImageCreationFailed(image_type=..., error=e)`, wrapping the exception caught. -/
  | imageCreationFailed (imageType : String) (error : Error)
  | apiException (status : Nat)
  | other (name : String)
  /-- A message passed where an exception is expected, as in `error=msg`. -/
  | message (text : String)
  deriving DecidableEq, Repr

/-- `except OSError` (also spelt `IOError` and `EnvironmentError`) catches exactly these. -/
def Error.isOSError : Error → Bool
  | .fileNotFound _ | .osError _ => true
  | _ => false

/-- `except processutils.ProcessExecutionError` catches exactly these. -/
def Error.isProcessExecutionError : Error → Bool
  | .processExecutionError _ => true
  | _ => false

/-- An external program the conductor ran. -/
inductive Event where
  /-- `utils.is_memory_insufficient(raise_if_fail=True)` returned. -/
  | memoryChecked
  /-- `qemu_img.convert_image(source, dest, out_format, source_format=...)`, with what was
  at `source` when it ran. -/
  | convertImage (source dest outFormat sourceFormat : String) (input : Option Bytes)
  /-- `utils.execute(*argv)`. -/
  | execute (argv : List String)
  deriving DecidableEq, Repr

/-- What an external program that writes one output file did: it wrote `output`, or it
raised `error` and may have left `leftover` behind. -/
inductive ToolOutcome where
  | wrote (output : Bytes)
  | failed (error : Error) (leftover : Option Bytes)

/-- Python's truth value of an optional string. -/
def truthy : Option String → Bool
  | some value => value ≠ ""
  | none => false

/-- The file system, newest entry first, and the programs run so far, oldest first.
`draws` counts the calls whose outcome the file system chooses (the name of a temporary
directory, whether a write fails), to index those outcomes. -/
structure Host where
  entries : List (String × Node)
  events : List Event
  draws : Nat

namespace Host

/-- A host with these regular files and nothing run yet. -/
def ofFiles (files : List (String × Bytes)) : Host :=
  ⟨files.map fun file => (file.1, .file file.2), [], 0⟩

def lookup (host : Host) (path : String) : Option Node :=
  (host.entries.find? (·.1 == path)).map (·.2)

/-- Keep only the entries whose path passes `keep`. -/
def keep (host : Host) (keep : String → Bool) : Host :=
  { host with entries := host.entries.filter (fun entry => keep entry.1) }

def erase (host : Host) (path : String) : Host := host.keep (· != path)

def put (host : Host) (path : String) (node : Node) : Host :=
  { host with entries := (path, node) :: (host.erase path).entries }

def record (host : Host) (event : Event) : Host :=
  { host with events := host.events ++ [event] }

/-- What a program that failed left at `path`, if anything. -/
def leave (host : Host) (path : String) : Option Bytes → Host
  | none => host
  | some content => host.put path (.file content)

theorem find?_filter_key (entries : List (String × Node)) (keep : String → Bool)
    (path : String) :
    (entries.filter (fun entry => keep entry.1)).find? (·.1 == path) =
      if keep path then entries.find? (·.1 == path) else none := by
  induction entries with
  | nil => simp
  | cons entry rest ih =>
      by_cases same : entry.1 = path
      · by_cases kept : keep path <;> simp [List.filter_cons, same, kept, ih]
      · by_cases kept : keep entry.1 <;> simp [List.filter_cons, same, kept, ih]

@[simp] theorem lookup_keep (host : Host) (keep : String → Bool) (path : String) :
    (host.keep keep).lookup path = if keep path then host.lookup path else none := by
  simp only [lookup, Host.keep, find?_filter_key]
  split <;> rfl

@[simp] theorem lookup_erase (host : Host) (path query : String) :
    (host.erase path).lookup query = if query = path then none else host.lookup query := by
  by_cases same : query = path <;> simp [erase, same]

@[simp] theorem lookup_put (host : Host) (path query : String) (node : Node) :
    (host.put path node).lookup query = if query = path then some node else host.lookup query := by
  by_cases same : query = path
  · simp [put, lookup, same]
  · have differs : (path == query) = false := by simpa using Ne.symm same
    have erased := lookup_erase host path query
    rw [if_neg same] at erased
    simp only [put, lookup, List.find?_cons, differs, if_neg same]
    exact erased

@[simp] theorem put_put (host : Host) (path : String) (node node' : Node) :
    (host.put path node).put path node' = host.put path node' := by
  simp [put, erase, keep, List.filter_filter]

theorem lookup_leave_ne (host : Host) {path query : String} (leftover : Option Bytes)
    (differs : query ≠ path) : (host.leave path leftover).lookup query = host.lookup query := by
  cases leftover <;> simp [leave, differs]

theorem lookup_leave_notDir (host : Host) (path : String) (leftover : Option Bytes)
    (notDir : host.lookup path ≠ some .dir) : (host.leave path leftover).lookup path ≠ some .dir := by
  cases leftover <;> simp [leave, notDir]

@[simp] theorem events_leave (host : Host) (path : String) (leftover : Option Bytes) :
    (host.leave path leftover).events = host.events := by
  cases leftover <;> rfl

@[simp] theorem lookup_record (host : Host) (event : Event) (path : String) :
    (host.record event).lookup path = host.lookup path := rfl

theorem lookup_file_inj {host : Host} {path : String} {content content' : Bytes}
    (found : host.lookup path = some (.file content))
    (found' : host.lookup path = some (.file content')) : content = content' := by
  simpa using found.symm.trans found'

@[simp] theorem events_keep (host : Host) (keep : String → Bool) :
    (host.keep keep).events = host.events := rfl

@[simp] theorem events_erase (host : Host) (path : String) :
    (host.erase path).events = host.events := rfl

@[simp] theorem events_put (host : Host) (path : String) (node : Node) :
    (host.put path node).events = host.events := rfl

@[simp] theorem events_record (host : Host) (event : Event) :
    (host.record event).events = host.events ++ [event] := rfl

@[simp] theorem draws_keep (host : Host) (keep : String → Bool) :
    (host.keep keep).draws = host.draws := rfl

@[simp] theorem draws_erase (host : Host) (path : String) : (host.erase path).draws = host.draws := rfl

@[simp] theorem draws_put (host : Host) (path : String) (node : Node) :
    (host.put path node).draws = host.draws := rfl

@[simp] theorem draws_record (host : Host) (event : Event) :
    (host.record event).draws = host.draws := rfl

end Host

/-- A step of the conductor: it reads and changes the host, and returns or raises. -/
abbrev Run := EStateM Error Host

/-- The state a run ends in, whether it returned or raised. -/
def after {σ α : Type} : EStateM.Result Error σ α → σ
  | .ok _ state => state
  | .error _ state => state

@[simp] theorem after_ok {σ α : Type} (a : α) (state : σ) :
    after (.ok a state : EStateM.Result Error σ α) = state := rfl

@[simp] theorem after_error {σ α : Type} (e : Error) (state : σ) :
    after (.error e state : EStateM.Result Error σ α) = state := rfl

section RunLemmas

variable {σ α β : Type} {x : EStateM Error σ α} {f : α → EStateM Error σ β} {s s' : σ}

theorem run_bind_ok {a : α} (ran : x s = .ok a s') : (x >>= f) s = f a s' := by
  show EStateM.bind x f s = _
  simp only [EStateM.bind, ran]

theorem run_bind_error {e : Error} (ran : x s = .error e s') : (x >>= f) s = .error e s' := by
  show EStateM.bind x f s = _
  simp only [EStateM.bind, ran]

theorem run_tryCatch_ok {handler : Error → EStateM Error σ α} {a : α} (ran : x s = .ok a s') :
    tryCatch x handler s = .ok a s' := by
  show EStateM.tryCatch x handler s = _
  simp only [EStateM.tryCatch, ran]

theorem run_tryCatch_error {handler : Error → EStateM Error σ α} {e : Error} (ran : x s = .error e s') :
    tryCatch x handler s = handler e s' := by
  show EStateM.tryCatch x handler s = _
  simp only [EStateM.tryCatch, ran]
  rfl

theorem run_tryCatch_congr {y : EStateM Error σ α} {handler : Error → EStateM Error σ α} {t : σ} (same : x s = y t) :
    tryCatch x handler s = tryCatch y handler t := by
  show EStateM.tryCatch x handler s = EStateM.tryCatch y handler t
  simp only [EStateM.tryCatch, same]

@[simp] theorem run_pure (a : α) (s : σ) : (pure a : EStateM Error σ α) s = .ok a s := rfl

@[simp] theorem run_throw (e : Error) (s : σ) : (throw e : EStateM Error σ α) s = .error e s := rfl

@[simp] theorem run_map_throw (g : α → β) (e : Error) (s : σ) :
    (g <$> (throw e : EStateM Error σ α)) s = .error e s := rfl

theorem run_bind_eq_ok {b : β} {s'' : σ} :
    (x >>= f) s = .ok b s'' ↔ ∃ a s', x s = .ok a s' ∧ f a s' = .ok b s'' := by
  cases ran : x s with
  | ok a s' =>
      rw [run_bind_ok ran]
      constructor
      · intro rest
        exact ⟨a, s', rfl, rest⟩
      · rintro ⟨a', t, returned, rest⟩
        rw [EStateM.Result.ok.injEq] at returned
        obtain ⟨rfl, rfl⟩ := returned
        exact rest
  | error e s' => simp [run_bind_error ran]

theorem run_bind_eq_error {e : Error} {s'' : σ} :
    (x >>= f) s = .error e s'' ↔
      x s = .error e s'' ∨ ∃ a s', x s = .ok a s' ∧ f a s' = .error e s'' := by
  cases ran : x s with
  | ok a s' =>
      rw [run_bind_ok ran]
      constructor
      · intro rest
        exact .inr ⟨a, s', rfl, rest⟩
      · rintro (failed | ⟨a', t, returned, rest⟩)
        · simp [ran] at failed
        · rw [EStateM.Result.ok.injEq] at returned
          obtain ⟨rfl, rfl⟩ := returned
          exact rest
  | error e' s' => simp [run_bind_error ran]

theorem run_tryCatch_eq_ok {handler : Error → EStateM Error σ α} {a : α} {s'' : σ} :
    tryCatch x handler s = .ok a s'' ↔
      x s = .ok a s'' ∨ ∃ e s', x s = .error e s' ∧ handler e s' = .ok a s'' := by
  cases ran : x s with
  | ok b t => simp [run_tryCatch_ok ran]
  | error e t =>
      simp only [run_tryCatch_error ran, reduceCtorEq, EStateM.Result.error.injEq, false_or]
      exact ⟨fun handled => ⟨e, t, ⟨rfl, rfl⟩, handled⟩, fun ⟨_, _, ⟨same, same'⟩, handled⟩ =>
        same ▸ same' ▸ handled⟩

theorem run_ite_eq {c : Prop} [Decidable c] {t f : EStateM Error σ α} {r : EStateM.Result Error σ α} :
    (if c then t else f) s = r ↔ (c ∧ t s = r) ∨ (¬c ∧ f s = r) := by
  by_cases holds : c <;> simp [holds]

end RunLemmas

@[simp] theorem except_ok_bind {α β : Type} (a : α) (f : α → Except Error β) :
    (Except.ok a >>= f) = f a := rfl

@[simp] theorem except_error_bind {α β : Type} (e : Error) (f : α → Except Error β) :
    (Except.error e >>= f : Except Error β) = .error e := rfl

/-- `try: x except Exception as e:`, with the outcome as a value. -/
def attempt {σ α : Type} (x : EStateM Error σ α) : EStateM Error σ (Except Error α) :=
  tryCatch (Except.ok <$> x) fun e => pure (.error e)

theorem attempt_run {σ α : Type} (x : EStateM Error σ α) (s : σ) :
    attempt x s = match x s with
      | .ok a s' => .ok (.ok a) s'
      | .error e s' => .ok (.error e) s' := by
  have mapped : ((Except.ok : α → Except Error α) <$> x) s = match x s with
      | .ok a s' => .ok (.ok a) s'
      | .error e s' => .error e s' := by
    show EStateM.map _ x s = _
    unfold EStateM.map
    cases x s <;> rfl
  cases ran : x s <;> rw [ran] at mapped
  · exact run_tryCatch_ok mapped
  · exact run_tryCatch_error mapped

/-- `try: body finally: cleanup`: the cleanup runs whether the body returns or raises, and an
exception it raises replaces the body's outcome. -/
def withFinally {σ α : Type} (body : EStateM Error σ α) (cleanup : EStateM Error σ Unit) :
    EStateM Error σ α := fun state =>
  match body state with
  | .ok a state => match cleanup state with
    | .ok _ state => .ok a state
    | .error e state => .error e state
  | .error e state => match cleanup state with
    | .ok _ state => .error e state
    | .error e' state => .error e' state

theorem withFinally_returning {σ α : Type} {body : EStateM Error σ α}
    {cleanup : EStateM Error σ Unit} {effect : σ → σ}
    (returns : ∀ state, cleanup state = .ok () (effect state)) (state : σ) :
    withFinally body cleanup state = match body state with
      | .ok a state => .ok a (effect state)
      | .error e state => .error e (effect state) := by
  unfold withFinally
  cases body state <;> simp only [returns]

/-- `raise` the error of a computation that failed, or go on with its value. -/
def ofExcept {σ α : Type} (result : Except Error α) : EStateM Error σ α := fun state =>
  match result with
  | .ok value => .ok value state
  | .error error => .error error state

@[simp] theorem ofExcept_ok {σ α : Type} (value : α) (state : σ) :
    ofExcept (.ok value) state = .ok value state := rfl

@[simp] theorem ofExcept_error {σ α : Type} (error : Error) (state : σ) :
    ofExcept (.error error : Except Error α) state = .error error state := rfl

theorem ofExcept_eq_ok {σ α : Type} {result : Except Error α} {value : α} {host host' : σ} :
    ofExcept result host = .ok value host' ↔ result = .ok value ∧ host' = host := by
  cases result <;> simp [ofExcept, eq_comm]

theorem ofExcept_eq_error {σ α : Type} {result : Except Error α} {e : Error} {host host' : σ} :
    ofExcept result host = .error e host' ↔ result = .error e ∧ host' = host := by
  cases result <;> simp [ofExcept, eq_comm]

/-! ## File operations -/

/-- `open(path, 'rb').read()`. -/
def readFile (path : String) : Run Bytes := fun host =>
  match host.lookup path with
  | some (.file content) => .ok content host
  | some .dir => .error (.osError path) host
  | none => .error (.fileNotFound path) host

/-- `os.unlink(path)`. -/
def unlink (path : String) : Run Unit := fun host =>
  match host.lookup path with
  | some (.file _) => .ok () (host.erase path)
  | some .dir => .error (.osError path) host
  | none => .error (.fileNotFound path) host

/-- `os.rename(source, target)` of a regular file, also `Path.rename` and `shutil.move`
within one file system. -/
def rename (source target : String) : Run Unit := fun host =>
  match host.lookup source, host.lookup target with
  | some (.file _), some .dir => .error (.osError target) host
  | some (.file content), _ => .ok () ((host.erase source).put target (.file content))
  | some .dir, _ => .error (.osError source) host
  | none, _ => .error (.fileNotFound source) host

/-- `fileutils.delete_if_exists(path)`: unlink, ignoring a missing file. -/
def deleteIfExists (path : String) : Run Unit := fun host =>
  match host.lookup path with
  | some .dir => .error (.osError path) host
  | _ => .ok () (host.erase path)

/-- `with fileutils.remove_path_on_error(path): body`: any exception deletes `path` and is
raised again. -/
def removePathOnError {α : Type} (path : String) (body : Run α) : Run α :=
  tryCatch body fun error => do
    deleteIfExists path
    throw error

section Inversion

variable {path source target : String} {host host' : Host} {content : Bytes} {e : Error}

theorem readFile_eq_ok :
    readFile path host = .ok content host' ↔ host.lookup path = some (.file content) ∧ host' = host := by
  cases found : host.lookup path with
  | none => simp [readFile, found]
  | some node => cases node <;> simp [readFile, found, eq_comm]

theorem readFile_eq_error (raised : readFile path host = .error e host') :
    host' = host ∧ Node.content? (host.lookup path) = none := by
  cases found : host.lookup path with
  | none =>
      simp only [readFile, found, EStateM.Result.error.injEq] at raised
      exact ⟨raised.2.symm, rfl⟩
  | some node =>
      cases node <;> simp only [readFile, found, EStateM.Result.error.injEq, reduceCtorEq] at raised
      exact ⟨raised.2.symm, rfl⟩

theorem unlink_eq_ok {u : Unit} :
    unlink path host = .ok u host' ↔
      ∃ content, host.lookup path = some (.file content) ∧ host' = host.erase path := by
  cases found : host.lookup path with
  | none => simp [unlink, found]
  | some node => cases node <;> simp [unlink, found, eq_comm]

theorem unlink_eq_error (raised : unlink path host = .error e host') :
    host' = host ∧ Node.content? (host.lookup path) = none := by
  cases found : host.lookup path with
  | none =>
      simp only [unlink, found, EStateM.Result.error.injEq] at raised
      exact ⟨raised.2.symm, rfl⟩
  | some node =>
      cases node <;> simp only [unlink, found, EStateM.Result.error.injEq, reduceCtorEq] at raised
      exact ⟨raised.2.symm, rfl⟩

theorem rename_eq_ok {u : Unit} :
    rename source target host = .ok u host' ↔
      ∃ content, host.lookup source = some (.file content) ∧ host.lookup target ≠ some .dir ∧
        host' = (host.erase source).put target (.file content) := by
  cases found : host.lookup source with
  | none => simp [rename, found]
  | some node =>
      cases node with
      | dir => simp [rename, found]
      | file content =>
          cases dest : host.lookup target with
          | none => simp [rename, found, dest, eq_comm]
          | some node => cases node <;> simp [rename, found, dest, eq_comm]

theorem rename_eq_error (raised : rename source target host = .error e host') : host' = host := by
  cases found : host.lookup source with
  | none => simp_all [rename, eq_comm]
  | some node =>
      cases node with
      | dir => simp_all [rename, eq_comm]
      | file content =>
          cases dest : host.lookup target with
          | none => simp_all [rename]
          | some node => cases node <;> simp_all [rename, eq_comm]

theorem readFile_file (found : host.lookup path = some (.file content)) :
    readFile path host = .ok content host :=
  readFile_eq_ok.2 ⟨found, rfl⟩

theorem unlink_file (found : host.lookup path = some (.file content)) :
    unlink path host = .ok () (host.erase path) :=
  unlink_eq_ok.2 ⟨content, found, rfl⟩

theorem rename_file (found : host.lookup source = some (.file content))
    (notDir : host.lookup target ≠ some .dir) :
    rename source target host = .ok () ((host.erase source).put target (.file content)) :=
  rename_eq_ok.2 ⟨content, found, notDir, rfl⟩

theorem deleteIfExists_run (notDir : host.lookup path ≠ some .dir) :
    deleteIfExists path host = .ok () (host.erase path) := by
  cases found : host.lookup path with
  | none => simp [deleteIfExists, found]
  | some node => cases node <;> simp_all [deleteIfExists]

end Inversion

section RemovePathOnError

variable {α : Type} {path : String} {body : Run α} {s s' s'' : Host}

theorem removePathOnError_ok {a : α} (ran : body s = .ok a s') :
    removePathOnError path body s = .ok a s' :=
  run_tryCatch_ok ran

theorem removePathOnError_error {e : Error} (ran : body s = .error e s')
    (notDir : s'.lookup path ≠ some .dir) :
    removePathOnError path body s = .error e (s'.erase path) := by
  rw [removePathOnError, run_tryCatch_error ran, run_bind_ok (deleteIfExists_run notDir)]
  rfl

theorem removePathOnError_congr {body' : Run α} (same : body s = body' s') :
    removePathOnError path body s = removePathOnError path body' s' :=
  run_tryCatch_congr same

theorem removePathOnError_eq_ok {a : α} :
    removePathOnError path body s = .ok a s' ↔ body s = .ok a s' := by
  cases ran : body s with
  | ok b t => simp [removePathOnError_ok ran]
  | error e t =>
      simp only [removePathOnError, run_tryCatch_error ran, reduceCtorEq, iff_false,
        run_bind_eq_ok, run_throw]
      simp

theorem removePathOnError_eq_error {e : Error} (raised : removePathOnError path body s = .error e s'') :
    ∃ e' s', body s = .error e' s' ∧
      (s'.lookup path ≠ some .dir → e = e' ∧ s'' = s'.erase path) := by
  cases ran : body s with
  | ok b t => simp [removePathOnError_ok ran] at raised
  | error e' t =>
      refine ⟨e', t, rfl, fun notDir => ?_⟩
      rw [removePathOnError_error ran notDir] at raised
      simp only [EStateM.Result.error.injEq] at raised
      exact ⟨raised.1.symm, raised.2.symm⟩

end RemovePathOnError

/-! ## Frames -/

/-- A run of `x` leaves every path outside `touched` as it was, whether it returns or
raises. -/
def Confined {α : Type} (touched : List String) (x : Run α) : Prop :=
  ∀ host query, query ∉ touched → (after (x host)).lookup query = host.lookup query

section Confined

variable {α β : Type} {touched : List String}

theorem Confined.mono {x : Run α} {wider : List String} (confined : Confined touched x)
    (sub : touched ⊆ wider) : Confined wider x :=
  fun host query outside => confined host query (fun inside => outside (sub inside))

theorem Confined.returns (a : α) : Confined touched (pure a : Run α) :=
  fun _ _ _ => rfl

theorem Confined.raises (e : Error) : Confined touched (throw e : Run α) :=
  fun _ _ _ => rfl

theorem Confined.bind {x : Run α} {f : α → Run β} (first : Confined touched x)
    (rest : ∀ a, Confined touched (f a)) : Confined touched (x >>= f) := by
  intro host query outside
  have kept := first host query outside
  cases ran : x host with
  | ok a s => rw [run_bind_ok ran, rest a s query outside]; simpa [ran] using kept
  | error e s => simpa [run_bind_error ran, ran] using kept

theorem Confined.handle {x : Run α} {handler : Error → Run α} (body : Confined touched x)
    (handled : ∀ e, Confined touched (handler e)) : Confined touched (tryCatch x handler) := by
  intro host query outside
  have kept := body host query outside
  cases ran : x host with
  | ok a s => simpa [run_tryCatch_ok ran, ran] using kept
  | error e s => rw [run_tryCatch_error ran, handled e s query outside]; simpa [ran] using kept

theorem Confined.ite {c : Prop} [Decidable c] {t f : Run α} (yes : Confined touched t)
    (no : Confined touched f) : Confined touched (if c then t else f) := by
  by_cases holds : c <;> simpa [holds]

theorem ofExcept_confined (result : Except Error α) : Confined touched (ofExcept result) := by
  intro host query _
  cases result <;> rfl

theorem readFile_confined (path : String) : Confined touched (readFile path) := by
  intro host query _
  unfold readFile
  split <;> rfl

theorem rename_confined (source target : String) : Confined [source, target] (rename source target) := by
  intro host query outside
  simp only [List.mem_cons, List.mem_singleton, not_or, List.not_mem_nil] at outside
  unfold rename
  split <;> simp [outside.1, outside.2]

theorem deleteIfExists_confined (path : String) : Confined [path] (deleteIfExists path) := by
  intro host query outside
  unfold deleteIfExists
  split <;> simp_all

theorem removePathOnError_confined {body : Run α} {path : String} (confined : Confined touched body)
    (member : path ∈ touched) : Confined touched (removePathOnError path body) :=
  confined.handle fun e => ((deleteIfExists_confined path).mono (by simpa using member)).bind
    fun _ => Confined.raises e

end Confined

/-! ## What a run can raise -/

/-- Every exception a run of `x` raises satisfies `allowed`. -/
def RaisesOnly {α : Type} (allowed : Error → Prop) (x : Run α) : Prop :=
  ∀ host e host', x host = .error e host' → allowed e

section RaisesOnly

variable {α β : Type} {allowed : Error → Prop}

theorem RaisesOnly.mono {x : Run α} {wider : Error → Prop} (raises : RaisesOnly allowed x)
    (sub : ∀ e, allowed e → wider e) : RaisesOnly wider x :=
  fun host e host' raised => sub e (raises host e host' raised)

theorem RaisesOnly.returns (a : α) : RaisesOnly allowed (pure a : Run α) :=
  fun _ _ _ raised => by cases raised

theorem RaisesOnly.raises {e : Error} (ok : allowed e) : RaisesOnly allowed (throw e : Run α) :=
  fun _ _ _ raised => by cases raised; exact ok

theorem RaisesOnly.bind {x : Run α} {f : α → Run β} (first : RaisesOnly allowed x)
    (rest : ∀ a, RaisesOnly allowed (f a)) : RaisesOnly allowed (x >>= f) := by
  intro host e host' raised
  rcases run_bind_eq_error.1 raised with failed | ⟨a, s, -, later⟩
  · exact first _ _ _ failed
  · exact rest a _ _ _ later

theorem RaisesOnly.handle {caught : Error → Prop} {x : Run α} {handler : Error → Run α}
    (body : RaisesOnly caught x) (handled : ∀ e, caught e → RaisesOnly allowed (handler e)) :
    RaisesOnly allowed (tryCatch x handler) := by
  intro host e host' raised
  cases ran : x host with
  | ok a s => rw [run_tryCatch_ok ran] at raised; cases raised
  | error e' s =>
      rw [run_tryCatch_error ran] at raised
      exact handled e' (body _ _ _ ran) _ _ _ raised

theorem RaisesOnly.catchAll {x : Run α} {handler : Error → Run α}
    (handled : ∀ e, RaisesOnly allowed (handler e)) : RaisesOnly allowed (tryCatch x handler) :=
  @RaisesOnly.handle α allowed (fun _ => True) x handler (fun _ _ _ _ => trivial) fun e _ => handled e

theorem RaisesOnly.withFinally {body : Run α} {cleanup : Run Unit} (ran : RaisesOnly allowed body)
    (cleaned : RaisesOnly allowed cleanup) : RaisesOnly allowed (withFinally body cleanup) := by
  intro host e host' raised
  unfold Ironic.withFinally at raised
  split at raised <;> split at raised <;> cases raised
  · exact cleaned _ _ _ ‹_›
  · exact ran _ _ _ ‹_›
  · exact cleaned _ _ _ ‹_›

theorem RaisesOnly.ite {c : Prop} [Decidable c] {t f : Run α} (yes : RaisesOnly allowed t)
    (no : RaisesOnly allowed f) : RaisesOnly allowed (if c then t else f) := by
  by_cases holds : c <;> simpa [holds]

theorem ofExcept_raisesOnly {result : Except Error α}
    (ok : ∀ e, result = .error e → allowed e) : RaisesOnly allowed (ofExcept result : Run α) := by
  intro host e host' raised
  exact ok e (ofExcept_eq_error.1 raised).1

theorem RaisesOnly.reads {α : Type} {allowed : Error → Prop} (read : Host → α) :
    RaisesOnly allowed (fun host => .ok (read host) host : Run α) :=
  fun _ _ _ raised => by cases raised

theorem readFile_raisesOnly (path : String) : RaisesOnly (fun e => e.isOSError = true) (readFile path) := by
  intro host e host' raised
  unfold readFile at raised
  split at raised <;> cases raised <;> rfl

theorem rename_raisesOnly (source target : String) :
    RaisesOnly (fun e => e.isOSError = true) (rename source target) := by
  intro host e host' raised
  unfold rename at raised
  split at raised <;> cases raised <;> rfl

theorem deleteIfExists_raisesOnly (path : String) :
    RaisesOnly (fun e => e.isOSError = true) (deleteIfExists path) := by
  intro host e host' raised
  unfold deleteIfExists at raised
  split at raised <;> cases raised
  rfl

theorem removePathOnError_raisesOnly {path : String} {x : Run α} (body : RaisesOnly allowed x)
    (osError : ∀ e, e.isOSError = true → allowed e) : RaisesOnly allowed (removePathOnError path x) :=
  body.handle fun _ ok =>
    ((deleteIfExists_raisesOnly path).mono osError).bind fun _ => RaisesOnly.raises ok

theorem RaisesOnly.bindExcept {result : Except Error α} {f : α → Run β}
    (first : ∀ e, result = .error e → allowed e)
    (rest : ∀ a, result = .ok a → RaisesOnly allowed (f a)) :
    RaisesOnly allowed (ofExcept result >>= f) := by
  intro host e host' raised
  rcases run_bind_eq_error.1 raised with failed | ⟨a, s, ran, later⟩
  · exact first e (ofExcept_eq_error.1 failed).1
  · exact rest a (ofExcept_eq_ok.1 ran).1 _ _ _ later

end RaisesOnly

/-! ## Paths -/

/-- `Path(path).with_suffix(Path(path).suffix + extension)`: `extension` appended to the
last component of a normalised path. -/
def withSuffix (path extension : String) : String := path ++ extension

theorem append_left_cancel_iff (s t u : String) : s ++ t = s ++ u ↔ t = u := by
  simp [String.ext_iff]

theorem append_ne_self {s t : String} (nonempty : t ≠ "") : s ++ t ≠ s := by
  intro same
  have lengths := congrArg String.length same
  have : t.length ≠ 0 := by
    intro zero
    exact nonempty (String.ext (List.eq_nil_of_length_eq_zero zero))
  simp only [String.length_append] at lengths
  omega

end Ironic
