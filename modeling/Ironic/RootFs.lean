import Ironic.Host

/-!
The file-system calls the boot media builders make, with `_create_root_fs` among them:
paths as `pathlib` joins them and the kernel resolves them, `Path.mkdir(parents=True,
exist_ok=True)`, `write_bytes`, `shutil.copyfile`, `shutil.rmtree` and `utils.tempdir`.
The name a temporary directory gets and whether a write fails are the file system's choices,
the fields of `FileSystem`, so that each theorem holds for every behaviour it can have.
-/

namespace Ironic

/-! ## Paths -/

/-- A place on the host: the components of a resolved path, outermost first. -/
abbrev Place := List String

/-- The host's name for a place, `/a/b`; the root is `""`. -/
def keyOf : Place → String
  | [] => ""
  | name :: rest => "/" ++ name ++ keyOf rest

/-- `path.split('/')`, the component being read kept reversed in `current`. -/
def splitSlash (current : List Char) : List Char → List String
  | [] => [⟨current.reverse⟩]
  | c :: rest =>
      if c = '/' then ⟨current.reverse⟩ :: splitSlash [] rest else splitSlash (c :: current) rest

/-- The components `pathlib` keeps of a path: those between its slashes, without the empty
ones and `.`. -/
def pathParts (path : String) : List String :=
  (splitSlash [] path.data).filter fun part => part != "" && part != "."

/-- Whether `path` starts at the root. -/
def isAbsolute (path : String) : Bool := path.data.head? == some '/'

/-- `Path(root) / path`: `path` itself when it is absolute. -/
def joinPath (root path : String) : String :=
  if isAbsolute path then path else root ++ "/" ++ path

/-- The place the kernel reaches along `parts` from `place`: `..` goes up, and not above the
root. -/
def walk : Place → List String → Place
  | place, [] => place
  | place, part :: rest => walk (if part = ".." then place.dropLast else place ++ [part]) rest

/-- The place a path names. A relative path is taken from the root: the working directory is
not modelled. -/
def resolve (path : String) : Place := walk [] (pathParts path)

/-- The host's name for what `path` names. -/
def locate (path : String) : String := keyOf (resolve path)

/-- The last component of a path, `Path(path).name`. -/
def baseName (path : String) : String := (pathParts path).getLastD ""

/-- A destination that stays below the directory it is joined to: relative, naming something,
with no `..` component. -/
def staysBelow (path : String) : Bool :=
  !isAbsolute path && !(pathParts path).isEmpty && !(pathParts path).contains ".."

/-- Whether `query` names something other than the directory named `dir` and what lies below
it. -/
def outside (dir query : String) : Bool :=
  query != dir && !(dir ++ "/").data.isPrefixOf query.data

section PathLemmas

theorem keyOf_append (place rest : Place) : keyOf (place ++ rest) = keyOf place ++ keyOf rest := by
  induction place with
  | nil => simp [keyOf]
  | cons name place ih => simp [keyOf, ih, String.append_assoc]

theorem keyOf_append_ne {place : Place} {query : String} (away : outside (keyOf place) query = true)
    (rest : Place) : keyOf (place ++ rest) ≠ query := by
  simp only [outside, Bool.and_eq_true, bne_iff_ne, ne_eq, Bool.not_eq_true',
    Bool.eq_false_iff] at away
  intro same
  cases rest with
  | nil => exact away.1 (by simpa using same.symm)
  | cons name rest =>
      apply away.2
      rw [← same, keyOf_append, keyOf,
        show "/" ++ name ++ keyOf rest = "/" ++ (name ++ keyOf rest) from String.append_assoc _ _ _,
        ← String.append_assoc]
      exact List.isPrefixOf_iff_prefix.2 (List.prefix_append _ _)

theorem splitSlash_append_slash (current xs ys : List Char) :
    splitSlash current (xs ++ '/' :: ys) = splitSlash current xs ++ splitSlash [] ys := by
  induction xs generalizing current with
  | nil => simp [splitSlash]
  | cons c xs ih => by_cases slash : c = '/' <;> simp [splitSlash, slash, ih]

theorem pathParts_joinPath {root path : String} (relative : isAbsolute path = false) :
    pathParts (joinPath root path) = pathParts root ++ pathParts path := by
  simp only [joinPath, relative, Bool.false_eq_true, if_false, pathParts]
  rw [show (root ++ "/" ++ path).data = root.data ++ '/' :: path.data from by
    simp only [String.append_assoc]; rfl, splitSlash_append_slash, List.filter_append]

theorem walk_append (place : Place) (xs ys : List String) :
    walk place (xs ++ ys) = walk (walk place xs) ys := by
  induction xs generalizing place with
  | nil => rfl
  | cons part xs ih => exact ih _

theorem walk_of_not_mem {parts : List String} (down : ".." ∉ parts) (place : Place) :
    walk place parts = place ++ parts := by
  induction parts generalizing place with
  | nil => simp [walk]
  | cons part parts ih =>
      simp only [List.mem_cons, not_or] at down
      simp [walk, Ne.symm down.1, ih down.2]

theorem staysBelow_iff {path : String} :
    staysBelow path = true ↔
      isAbsolute path = false ∧ pathParts path ≠ [] ∧ ".." ∉ pathParts path := by
  simp [staysBelow, List.isEmpty_iff, and_assoc]

theorem resolve_joinPath {root path : String} (below : staysBelow path = true) :
    resolve (joinPath root path) = resolve root ++ pathParts path := by
  obtain ⟨relative, -, down⟩ := staysBelow_iff.1 below
  rw [resolve, pathParts_joinPath relative, walk_append, walk_of_not_mem down]
  rfl

theorem resolve_parent_joinPath {root path : String} (below : staysBelow path = true) :
    walk [] (pathParts (joinPath root path)).dropLast = resolve root ++ (pathParts path).dropLast := by
  obtain ⟨relative, named, down⟩ := staysBelow_iff.1 below
  rw [pathParts_joinPath relative, List.dropLast_append_of_ne_nil _ named, walk_append,
    walk_of_not_mem (fun mem => down (List.dropLast_subset _ mem))]
  rfl

end PathLemmas

/-! ## The file system -/

/-- The file system's choices, indexed by the host's draws: the name `tempfile.mkdtemp` picks,
and whether a write fails, with the error and what it leaves at the path. -/
structure FileSystem where
  tempName : Nat → String
  writeFailure : Nat → Option (Error × Option Bytes)

namespace Host

/-- The host once the file system has made one more choice. -/
def draw (host : Host) : Host := { host with draws := host.draws + 1 }

@[simp] theorem lookup_draw (host : Host) (path : String) : host.draw.lookup path = host.lookup path := rfl

@[simp] theorem events_draw (host : Host) : host.draw.events = host.events := rfl

/-- `shutil.rmtree` at `dir`: what is at or below it is gone. -/
def removeTree (host : Host) (dir : String) : Host := host.keep (outside dir)

@[simp] theorem events_removeTree (host : Host) (dir : String) :
    (host.removeTree dir).events = host.events := rfl

end Host

/-- A read of the host that changes nothing. -/
def reading {α : Type} (read : Host → α) : Run α := fun host => .ok (read host) host

/-- Whether a regular file is at `path`, `Path(path).is_file()`. -/
def isFile (host : Host) (path : String) : Bool :=
  match host.lookup (locate path) with
  | some (.file _) => true
  | _ => false

/-- `Path(directory).iterdir()`: the paths of the entries directly in `directory`, in the
host's order. -/
def iterdir (directory : String) (host : Host) : List String :=
  let lead := (locate directory ++ "/").data
  host.entries.filterMap fun entry =>
    let name := entry.1.data.drop lead.length
    if lead.isPrefixOf entry.1.data && !name.isEmpty && !name.contains '/' then
      some (joinPath directory ⟨name⟩)
    else none

/-- The regular files `Path(directory).rglob('*')` finds, each as its path and its path relative
to `directory`, in the host's order. -/
def filesBelow (directory : String) (host : Host) : List (String × String) :=
  let lead := (locate directory ++ "/").data
  host.entries.filterMap fun entry =>
    match entry.2 with
    | .file _ =>
        if lead.isPrefixOf entry.1.data then
          let relative : String := ⟨entry.1.data.drop lead.length⟩
          some (joinPath directory relative, relative)
        else none
    | .dir => none

/-- A key of `files_info`: the bytes to write, or the path of a file to copy. -/
inductive FileSource where
  | content (bytes : Bytes)
  | path (path : String)
  deriving DecidableEq, Repr

/-- `d[key] = value` on a dict kept as its items in insertion order: an existing key keeps its
place. -/
def setItem {κ ν : Type} [DecidableEq κ] (items : List (κ × ν)) (key : κ) (value : ν) :
    List (κ × ν) :=
  if items.any (fun item => item.1 = key) then
    items.map fun item => if item.1 = key then (key, value) else item
  else items ++ [(key, value)]

/-- `d.update(other)`. -/
def dictUpdate {κ ν : Type} [DecidableEq κ] (items other : List (κ × ν)) : List (κ × ν) :=
  other.foldl (fun acc item => setItem acc item.1 item.2) items

section Dicts

variable {κ ν : Type} [DecidableEq κ]

theorem mem_setItem {items : List (κ × ν)} {key : κ} {value : ν} {item : κ × ν}
    (mem : item ∈ setItem items key value) : item ∈ items ∨ item = (key, value) := by
  unfold setItem at mem
  split_ifs at mem
  · obtain ⟨old, kept, rfl⟩ := List.mem_map.1 mem
    split_ifs
    · exact .inr rfl
    · exact .inl kept
  · simpa using mem

theorem mem_dictUpdate {items other : List (κ × ν)} {item : κ × ν}
    (mem : item ∈ dictUpdate items other) : item ∈ items ∨ item ∈ other := by
  induction other generalizing items with
  | nil => exact .inl mem
  | cons first rest ih =>
      rcases ih mem with inner | later
      · rcases mem_setItem inner with old | rfl
        · exact .inl old
        · exact .inr (.head _)
      · exact .inr (.tail _ later)

theorem setItem_values {check : ν → Bool} {items : List (κ × ν)} {key : κ} {value : ν}
    (old : ∀ item ∈ items, check item.2 = true) (new : check value = true) :
    ∀ item ∈ setItem items key value, check item.2 = true :=
  fun item mem => (mem_setItem mem).elim (old item) fun same => by subst same; exact new

theorem dictUpdate_values {check : ν → Bool} {items other : List (κ × ν)}
    (old : ∀ item ∈ items, check item.2 = true) (added : ∀ item ∈ other, check item.2 = true) :
    ∀ item ∈ dictUpdate items other, check item.2 = true :=
  fun item mem => (mem_dictUpdate mem).elim (old item) (added item)

end Dicts

/-- The bytes of a text written with `open(path, 'w')`. -/
def encode (text : String) : Bytes := text.toUTF8.data.toList

section Calls

variable (fs : FileSystem)

/-- `os.mkdir` at `place`: nothing may be there, and its parent must be a directory. -/
def mkdirOnce (place : Place) : Run Unit := fun host =>
  let target := keyOf place
  let parent := host.lookup (keyOf place.dropLast)
  if (host.lookup target).isSome then .error (.osError target) host
  else if place.dropLast = [] ∨ parent = some .dir then .ok () (host.put target .dir)
  else if parent = none then .error (.fileNotFound target) host
  else .error (.osError target) host

/-- `except OSError: if not exist_ok or not self.is_dir(): raise`, with `exist_ok=True`. -/
def existOk (place : Place) (x : Run Unit) : Run Unit :=
  tryCatch x fun error host =>
    if error.isOSError && host.lookup (keyOf place) == some .dir then .ok () host
    else .error error host

/-- `Path.mkdir(parents=True, exist_ok=True)` at the place whose components, innermost first,
are given: when the parent is missing it is made first, then the directory again. -/
def mkdirParents : List String → Run Unit
  | [] => pure ()
  | name :: outer =>
      let place := (name :: outer).reverse
      tryCatch (mkdirOnce place) fun error =>
        match error with
        | .fileNotFound _ => do
            mkdirParents outer
            existOk place (mkdirOnce place)
        | error => existOk place (throw error)

/-- `open(path, 'wb')` and a write of `content`. The kernel refuses a directory at `path` and a
parent that is not a directory; otherwise the file system decides whether the write fails,
and what it leaves at `path` if it does. -/
def writeBytes (path : String) (content : Bytes) : Run Unit := fun host =>
  let place := resolve path
  let target := keyOf place
  let parent := host.lookup (keyOf place.dropLast)
  if host.lookup target = some .dir then .error (.osError target) host
  else if place.dropLast ≠ [] ∧ parent = none then .error (.fileNotFound target) host
  else if place.dropLast ≠ [] ∧ parent ≠ some .dir then .error (.osError target) host
  else match fs.writeFailure host.draws with
    | none => .ok () (host.draw.put target (.file content))
    | some (error, leftover) => .error error (host.draw.leave target leftover)

/-- `utils.write_to_file(path, contents)`. -/
def writeToFile (path contents : String) : Run Unit := writeBytes fs path (encode contents)

/-- `shutil.copyfile(source, target)`: the same file on both sides raises `SameFileError`. -/
def copyFile (source target : String) : Run Unit :=
  if locate source = locate target then throw (.osError (locate target))
  else do
    let content ← readFile (locate source)
    writeBytes fs target content

/-- One iteration of `_create_root_fs`: the parent directory of `root_dir / path`, then its
content. -/
def injectFile (rootDirectory : String) (entry : FileSource × String) : Run Unit := do
  let targetFile := joinPath rootDirectory entry.2
  mkdirParents (walk [] (pathParts targetFile).dropLast).reverse
  match entry.1 with
  | .content bytes => writeBytes fs targetFile bytes
  | .path source => copyFile fs source targetFile

/-- `_create_root_fs(root_directory, files_info)`, over the items of `files_info` in order. -/
def createRootFs (rootDirectory : String) : List (FileSource × String) → Run Unit
  | [] => pure ()
  | entry :: rest => do
      injectFile fs rootDirectory entry
      createRootFs rootDirectory rest

/-- `shutil.rmtree(path)`. -/
def rmtree (path : String) : Run Unit := fun host =>
  let target := locate path
  match host.lookup target with
  | some .dir => .ok () (host.removeTree target)
  | some (.file _) => .error (.osError target) host
  | none => .error (.fileNotFound target) host

/-- `tempfile.TMP_MAX`, how many names `mkdtemp` tries: `os.TMP_MAX` on Linux. -/
def tmpMax : Nat := 238328

/-- The loop of `tempfile.mkdtemp()`, with `retries` names left after this one: a taken name
(`FileExistsError`) moves on to the next, and the last one raises. -/
def mkdtempAttempts (retries : Nat) : Run String := fun host =>
  let name := fs.tempName host.draws
  if (host.lookup (locate name)).isSome then
    match retries with
    | 0 => .error (.osError (locate name)) host.draw
    | retries + 1 => mkdtempAttempts retries host.draw
  else .ok name (host.draw.put (locate name) .dir)

/-- `tempfile.mkdtemp()`. -/
def mkdtemp : Run String := mkdtempAttempts fs (tmpMax - 1)

/-- The cleanup of `utils.tempdir`: `shutil.rmtree(tmpdir)`, an `OSError` only logged. -/
def removeTempDir (tmpdir : String) : Run Unit :=
  tryCatch (rmtree tmpdir) fun error => if error.isOSError then pure () else throw error

/-- `with utils.tempdir() as tmpdir: body`: the directory is removed when the body returns or
raises. -/
def withTempDir {α : Type} (body : String → Run α) : Run α := do
  let tmpdir ← mkdtemp fs
  withFinally (body tmpdir) (removeTempDir tmpdir)

end Calls

namespace Host

@[simp] theorem lookup_removeTree (host : Host) (dir query : String) :
    (host.removeTree dir).lookup query = if outside dir query then host.lookup query else none := by
  simp [removeTree]

end Host

/-! ## What the calls leave alone -/

/-- Run from a host where `dir` is a directory, `x` keeps it one and leaves `query` as it was,
whether it returns or raises. -/
def Keeps {α : Type} (dir query : String) (x : Run α) : Prop :=
  ∀ host, host.lookup dir = some .dir →
    (after (x host)).lookup dir = some .dir ∧ (after (x host)).lookup query = host.lookup query

section Keeps

variable {α β : Type} {dir query : String}

theorem Keeps.of_same {x : Run α} (same : ∀ host, after (x host) = host) : Keeps dir query x :=
  fun host isDir => by rw [same]; exact ⟨isDir, rfl⟩

theorem Keeps.returns (a : α) : Keeps dir query (pure a : Run α) := Keeps.of_same fun _ => rfl

theorem Keeps.raises (e : Error) : Keeps dir query (throw e : Run α) := Keeps.of_same fun _ => rfl

theorem Keeps.reads (read : Host → α) : Keeps dir query (reading read) := Keeps.of_same fun _ => rfl

theorem Keeps.bind {x : Run α} {f : α → Run β} (first : Keeps dir query x)
    (rest : ∀ a, Keeps dir query (f a)) : Keeps dir query (x >>= f) := by
  intro host isDir
  obtain ⟨dirKept, kept⟩ := first host isDir
  cases ran : x host with
  | ok a s =>
      rw [ran, after_ok] at dirKept kept
      obtain ⟨dirKept', kept'⟩ := rest a s dirKept
      rw [run_bind_ok ran]
      exact ⟨dirKept', kept'.trans kept⟩
  | error e s =>
      rw [ran, after_error] at dirKept kept
      rw [run_bind_error ran]
      exact ⟨dirKept, kept⟩

theorem Keeps.handle {x : Run α} {handler : Error → Run α} (body : Keeps dir query x)
    (handled : ∀ e, Keeps dir query (handler e)) : Keeps dir query (tryCatch x handler) := by
  intro host isDir
  obtain ⟨dirKept, kept⟩ := body host isDir
  cases ran : x host with
  | ok a s =>
      rw [ran, after_ok] at dirKept kept
      rw [run_tryCatch_ok ran]
      exact ⟨dirKept, kept⟩
  | error e s =>
      rw [ran, after_error] at dirKept kept
      obtain ⟨dirKept', kept'⟩ := handled e s dirKept
      rw [run_tryCatch_error ran]
      exact ⟨dirKept', kept'.trans kept⟩

theorem Keeps.ite {c : Prop} [Decidable c] {t f : Run α} (yes : Keeps dir query t)
    (no : Keeps dir query f) : Keeps dir query (if c then t else f) := by
  by_cases holds : c <;> simpa [holds]

theorem readFile_keeps (path : String) : Keeps dir query (readFile path) :=
  Keeps.of_same fun host => by unfold readFile; split <;> rfl

theorem ofExcept_keeps (result : Except Error α) : Keeps dir query (ofExcept result : Run α) :=
  Keeps.of_same fun _ => by cases result <;> rfl

end Keeps

section CallFrames

variable {fs : FileSystem} {dir query : String}

theorem mkdirOnce_keeps {place : Place} (away : keyOf place ≠ query) :
    Keeps dir query (mkdirOnce place) := by
  intro host isDir
  simp only [mkdirOnce]
  split_ifs <;> first | exact ⟨isDir, rfl⟩ | simp [isDir, Ne.symm away]

theorem existOk_keeps {place : Place} {x : Run Unit} (body : Keeps dir query x) :
    Keeps dir query (existOk place x) :=
  body.handle fun _ => Keeps.of_same fun _ => by split <;> rfl

theorem mkdirParents_existing {name : String} {outer : List String} {host : Host}
    (isDir : host.lookup (keyOf (name :: outer).reverse) = some .dir) :
    mkdirParents (name :: outer) host = .ok () host := by
  have exists_ : mkdirOnce (name :: outer).reverse host =
      .error (.osError (keyOf (name :: outer).reverse)) host := by
    simp only [mkdirOnce, isDir, Option.isSome_some, if_true]
  simp only [mkdirParents]
  rw [run_tryCatch_error exists_]
  show existOk _ (throw _) host = _
  rw [existOk, run_tryCatch_error (run_throw _ _)]
  simp only [Error.isOSError, isDir, beq_self_eq_true, Bool.and_self, if_true]

theorem mkdirParents_keeps {place : Place} (away : outside (keyOf place) query = true) :
    ∀ inner : List String, Keeps (keyOf place) query (mkdirParents (inner ++ place.reverse))
  | [] => by
      intro host isDir
      cases reversed : place.reverse with
      | nil => exact ⟨isDir, rfl⟩
      | cons name outer =>
          have isDir' : host.lookup (keyOf (name :: outer).reverse) = some .dir := by
            rwa [← reversed, List.reverse_reverse]
          rw [List.nil_append, mkdirParents_existing isDir']
          exact ⟨isDir, rfl⟩
  | name :: inner => by
      have away' : keyOf (name :: (inner ++ place.reverse)).reverse ≠ query := by
        simpa using keyOf_append_ne away (inner.reverse ++ [name])
      refine Keeps.handle (mkdirOnce_keeps away') fun e => ?_
      split
      · exact (mkdirParents_keeps away inner).bind fun _ => existOk_keeps (mkdirOnce_keeps away')
      · exact existOk_keeps (Keeps.raises _)

theorem writeBytes_keeps {path : String} {content : Bytes} (away : locate path ≠ query) :
    Keeps dir query (writeBytes fs path content) := by
  intro host isDir
  simp only [writeBytes]
  split_ifs with onDir
  · exact ⟨isDir, rfl⟩
  · exact ⟨isDir, rfl⟩
  · exact ⟨isDir, rfl⟩
  · have differs : dir ≠ keyOf (resolve path) := fun same => onDir (same ▸ isDir)
    have away' : query ≠ keyOf (resolve path) := Ne.symm away
    split
    · simp [isDir, differs, away']
    · rename_i leftover _
      cases leftover <;> simp [Host.leave, isDir, differs, away']

theorem writeToFile_keeps {path contents : String} (away : locate path ≠ query) :
    Keeps dir query (writeToFile fs path contents) :=
  writeBytes_keeps away

theorem copyFile_keeps {source target : String} (away : locate target ≠ query) :
    Keeps dir query (copyFile fs source target) := by
  unfold copyFile
  exact Keeps.ite (Keeps.raises _) ((readFile_keeps _).bind fun _ => writeBytes_keeps away)

theorem injectFile_keeps {tmpdir : String} {entry : FileSource × String}
    (away : outside (locate tmpdir) query = true) (below : staysBelow entry.2 = true) :
    Keeps (locate tmpdir) query (injectFile fs tmpdir entry) := by
  have target : locate (joinPath tmpdir entry.2) ≠ query := by
    rw [locate, resolve_joinPath below]
    exact keyOf_append_ne away _
  simp only [injectFile]
  refine Keeps.bind ?_ fun _ => ?_
  · rw [resolve_parent_joinPath below, List.reverse_append]
    exact mkdirParents_keeps away _
  · rcases entry with ⟨source | source, path⟩
    · exact writeBytes_keeps target
    · exact copyFile_keeps target

theorem createRootFs_keeps {tmpdir : String} (away : outside (locate tmpdir) query = true) :
    ∀ entries : List (FileSource × String), (∀ entry ∈ entries, staysBelow entry.2 = true) →
      Keeps (locate tmpdir) query (createRootFs fs tmpdir entries)
  | [], _ => Keeps.returns ()
  | entry :: rest, below =>
      (injectFile_keeps away (below entry (.head _))).bind fun _ =>
        createRootFs_keeps away rest fun other mem => below other (.tail _ mem)

end CallFrames

/-! ## Temporary directories -/

section TempDir

variable {fs : FileSystem} {α : Type} {host s : Host}

/-- The host once `utils.tempdir` has cleaned up `tmpdir`. -/
def cleanedUp (tmpdir : String) (host : Host) : Host :=
  if host.lookup (locate tmpdir) = some .dir then host.removeTree (locate tmpdir) else host

theorem removeTempDir_run (tmpdir : String) (host : Host) :
    removeTempDir tmpdir host = .ok () (cleanedUp tmpdir host) := by
  have ran : rmtree tmpdir host = match host.lookup (locate tmpdir) with
      | some .dir => .ok () (host.removeTree (locate tmpdir))
      | some (.file _) => .error (.osError (locate tmpdir)) host
      | none => .error (.fileNotFound (locate tmpdir)) host := rfl
  unfold removeTempDir cleanedUp
  cases found : host.lookup (locate tmpdir) with
  | none => rw [found] at ran; simp [run_tryCatch_error ran, found, Error.isOSError]
  | some node =>
      cases node with
      | dir => rw [found] at ran; simp [run_tryCatch_ok ran]
      | file content => rw [found] at ran; simp [run_tryCatch_error ran, found, Error.isOSError]

theorem mkdtempAttempts_free {retries : Nat}
    (free : host.lookup (locate (fs.tempName host.draws)) = none) :
    mkdtempAttempts fs retries host =
      .ok (fs.tempName host.draws) (host.draw.put (locate (fs.tempName host.draws)) .dir) := by
  rw [mkdtempAttempts.eq_def]
  simp [free]

theorem mkdtempAttempts_taken {retries : Nat}
    (taken : host.lookup (locate (fs.tempName host.draws)) ≠ none) :
    mkdtempAttempts fs (retries + 1) host = mkdtempAttempts fs retries host.draw := by
  rw [mkdtempAttempts.eq_def]
  simp [Option.isSome_iff_ne_none.2 taken]

theorem mkdtempAttempts_last (taken : host.lookup (locate (fs.tempName host.draws)) ≠ none) :
    mkdtempAttempts fs 0 host = .error (.osError (locate (fs.tempName host.draws))) host.draw := by
  rw [mkdtempAttempts.eq_def]
  simp [Option.isSome_iff_ne_none.2 taken]

theorem mkdtempAttempts_eq_ok {name : String} (retries : Nat) :
    ∀ {host s : Host}, mkdtempAttempts fs retries host = .ok name s →
      ∃ n, name = fs.tempName n ∧ host.lookup (locate name) = none ∧
        ∀ query, s.lookup query = if query = locate name then some .dir else host.lookup query := by
  intro host s made
  by_cases free : host.lookup (locate (fs.tempName host.draws)) = none
  · rw [mkdtempAttempts_free free, EStateM.Result.ok.injEq] at made
    obtain ⟨rfl, rfl⟩ := made
    exact ⟨host.draws, rfl, free, fun query => by simp⟩
  · match retries, made with
    | 0, made => rw [mkdtempAttempts_last free] at made; cases made
    | retries + 1, made =>
        rw [mkdtempAttempts_taken free] at made
        simpa using mkdtempAttempts_eq_ok retries made

theorem mkdtempAttempts_eq_error {e : Error} (retries : Nat) :
    ∀ {host s : Host}, mkdtempAttempts fs retries host = .error e s →
      (∃ n, e = .osError (locate (fs.tempName n))) ∧ ∀ query, s.lookup query = host.lookup query := by
  intro host s raised
  by_cases free : host.lookup (locate (fs.tempName host.draws)) = none
  · rw [mkdtempAttempts_free free] at raised
    cases raised
  · match retries, raised with
    | 0, raised =>
        rw [mkdtempAttempts_last free, EStateM.Result.error.injEq] at raised
        obtain ⟨rfl, rfl⟩ := raised
        exact ⟨⟨host.draws, rfl⟩, fun query => rfl⟩
    | retries + 1, raised =>
        rw [mkdtempAttempts_taken free] at raised
        simpa using mkdtempAttempts_eq_error retries raised

theorem mkdtemp_free (free : host.lookup (locate (fs.tempName host.draws)) = none) :
    mkdtemp fs host =
      .ok (fs.tempName host.draws) (host.draw.put (locate (fs.tempName host.draws)) .dir) :=
  mkdtempAttempts_free free

theorem mkdtemp_eq_ok {name : String} (made : mkdtemp fs host = .ok name s) :
    ∃ n, name = fs.tempName n ∧ host.lookup (locate name) = none ∧
      ∀ query, s.lookup query = if query = locate name then some .dir else host.lookup query :=
  mkdtempAttempts_eq_ok _ made

theorem mkdtemp_eq_error {e : Error} (raised : mkdtemp fs host = .error e s) :
    ∀ query, s.lookup query = host.lookup query :=
  (mkdtempAttempts_eq_error _ raised).2

theorem withTempDir_run (body : String → Run α) (host : Host) :
    withTempDir fs body host = match mkdtemp fs host with
      | .ok tmpdir s => match body tmpdir s with
        | .ok a t => .ok a (cleanedUp tmpdir t)
        | .error e t => .error e (cleanedUp tmpdir t)
      | .error e s => .error e s := by
  cases made : mkdtemp fs host with
  | ok tmpdir s =>
      rw [withTempDir, run_bind_ok made]
      dsimp only
      rw [withFinally_returning (removeTempDir_run tmpdir)]
      cases body tmpdir s <;> rfl
  | error e s => rw [withTempDir, run_bind_error made]

theorem after_withTempDir (body : String → Run α) (host : Host) :
    after (withTempDir fs body host) = match mkdtemp fs host with
      | .ok tmpdir s => cleanedUp tmpdir (after (body tmpdir s))
      | .error _ s => s := by
  rw [withTempDir_run]
  cases mkdtemp fs host with
  | ok tmpdir s =>
      dsimp only
      cases body tmpdir s <;> rfl
  | error e s => rfl

theorem cleanedUp_lookup {tmpdir query : String} (away : outside (locate tmpdir) query = true)
    (host : Host) : (cleanedUp tmpdir host).lookup query = host.lookup query := by
  unfold cleanedUp
  split_ifs <;> simp [away]

theorem mkdtemp_lookup {query : String} {tmpdir : String}
    (made : mkdtemp fs host = .ok tmpdir s) (away : outside (locate tmpdir) query = true) :
    s.lookup (locate tmpdir) = some .dir ∧ s.lookup query = host.lookup query := by
  obtain ⟨-, -, -, placed⟩ := mkdtemp_eq_ok made
  have differs := keyOf_append_ne away []
  rw [List.append_nil] at differs
  have differs' : query ≠ locate tmpdir := Ne.symm differs
  rw [placed, placed, if_pos rfl, if_neg differs']
  exact ⟨rfl, rfl⟩

theorem withTempDir_keeps {query : String} {body : String → Run α}
    (fresh : ∀ n, outside (locate (fs.tempName n)) query = true)
    (inner : ∀ tmpdir, outside (locate tmpdir) query = true → Keeps (locate tmpdir) query (body tmpdir))
    (host : Host) : (after (withTempDir fs body host)).lookup query = host.lookup query := by
  rw [after_withTempDir]
  cases made : mkdtemp fs host with
  | error e s =>
      exact mkdtemp_eq_error made query
  | ok tmpdir s =>
      show (cleanedUp tmpdir (after (body tmpdir s))).lookup query = _
      have away : outside (locate tmpdir) query = true := by
        obtain ⟨n, rfl, -⟩ := mkdtemp_eq_ok made
        exact fresh n
      obtain ⟨isDir, placed⟩ := mkdtemp_lookup made away
      rw [cleanedUp_lookup away, (inner tmpdir away s isDir).2, placed]

end TempDir

/-! ## What the calls raise -/

/-- What the file-system calls raise: an `OSError` of the kernel, or the error the file system
chose for a failed write. -/
def FsError (fs : FileSystem) (e : Error) : Prop :=
  e.isOSError = true ∨ ∃ n leftover, fs.writeFailure n = some (e, leftover)

section CallErrors

variable {fs : FileSystem}

theorem mkdirOnce_raisesOnly (place : Place) :
    RaisesOnly (fun e => e.isOSError = true) (mkdirOnce place) := by
  intro host e host' raised
  simp only [mkdirOnce] at raised
  split_ifs at raised <;> cases raised <;> rfl

theorem existOk_raisesOnly {allowed : Error → Prop} {place : Place} {x : Run Unit}
    (body : RaisesOnly allowed x) : RaisesOnly allowed (existOk place x) :=
  body.handle fun e ok _ e' _ raised => by
    split at raised
    · cases raised
    · cases raised
      exact ok

theorem mkdirParents_raisesOnly :
    ∀ reversed : List String, RaisesOnly (fun e => e.isOSError = true) (mkdirParents reversed)
  | [] => RaisesOnly.returns ()
  | name :: outer => (mkdirOnce_raisesOnly _).handle fun e ok => by
      split
      · exact (mkdirParents_raisesOnly outer).bind fun _ => existOk_raisesOnly (mkdirOnce_raisesOnly _)
      · exact existOk_raisesOnly (RaisesOnly.raises ok)

theorem writeBytes_raisesOnly (path : String) (content : Bytes) :
    RaisesOnly (FsError fs) (writeBytes fs path content) := by
  intro host e host' raised
  simp only [writeBytes] at raised
  split_ifs at raised
  · cases raised; exact .inl rfl
  · cases raised; exact .inl rfl
  · cases raised; exact .inl rfl
  · split at raised
    · cases raised
    · rename_i failed
      cases raised
      exact .inr ⟨host.draws, _, failed⟩

theorem copyFile_raisesOnly (source target : String) :
    RaisesOnly (FsError fs) (copyFile fs source target) := by
  unfold copyFile
  exact RaisesOnly.ite (RaisesOnly.raises (.inl rfl))
    (((readFile_raisesOnly _).mono fun _ os => .inl os).bind fun _ => writeBytes_raisesOnly _ _)

theorem createRootFs_raisesOnly (rootDirectory : String) :
    ∀ entries, RaisesOnly (FsError fs) (createRootFs fs rootDirectory entries)
  | [] => RaisesOnly.returns ()
  | entry :: rest => by
      refine RaisesOnly.bind ?_ fun _ => createRootFs_raisesOnly rootDirectory rest
      simp only [injectFile]
      refine ((mkdirParents_raisesOnly _).mono fun _ os => .inl os).bind fun _ => ?_
      rcases entry with ⟨source | source, path⟩
      · exact writeBytes_raisesOnly _ _
      · exact copyFile_raisesOnly _ _

theorem writeToFile_raisesOnly (path contents : String) :
    RaisesOnly (FsError fs) (writeToFile fs path contents) :=
  writeBytes_raisesOnly _ _

theorem rmtree_raisesOnly (path : String) :
    RaisesOnly (fun e => e.isOSError = true) (rmtree path) := by
  intro host e host' raised
  simp only [rmtree] at raised
  split at raised <;> cases raised <;> rfl

theorem mkdtemp_raisesOnly :
    RaisesOnly (fun e => ∃ n, e = .osError (locate (fs.tempName n))) (mkdtemp fs) := by
  intro host e host' raised
  exact (mkdtempAttempts_eq_error _ raised).1

theorem withTempDir_raisesOnly {α : Type} {allowed : Error → Prop} {body : String → Run α}
    (made : ∀ n, allowed (.osError (locate (fs.tempName n))))
    (inner : ∀ tmpdir, RaisesOnly allowed (body tmpdir)) : RaisesOnly allowed (withTempDir fs body) := by
  intro host e host' raised
  rw [withTempDir_run] at raised
  cases creating : mkdtemp fs host with
  | error e' s =>
      rw [creating] at raised
      cases raised
      obtain ⟨n, rfl⟩ := mkdtemp_raisesOnly _ _ _ creating
      exact made n
  | ok tmpdir s =>
      rw [creating] at raised
      dsimp only at raised
      split at raised
      · cases raised
      · rename_i ran
        cases raised
        exact inner tmpdir _ _ _ ran

end CallErrors

end Ironic
