import Ironic.RootFs

/-!
What `_create_root_fs` builds below `root_directory`. `rootFsNode` says it for a whole
`files_info`: each destination holds the bytes of the last entry sent to it, the directories
above the destinations are directories, and nothing else is there. `Built` says the host agrees
with it after the entries done so far; `injectFile_built` is one iteration of the loop and
`createRootFs_built` the whole loop. The host names places by `keyOf`, one to one on places
whose components hold no `/`, which is what lets two destinations spelt differently meet in
one file.
-/

namespace Ironic

/-! ## Keys name places -/

/-- A place whose components hold no `/`, as those `pathParts` cuts out. -/
def Plain (place : Place) : Prop := ∀ name ∈ place, '/' ∉ name.data

section Keys

theorem Plain.append {place rest : Place} (plain : Plain place) (plain' : Plain rest) :
    Plain (place ++ rest) := by
  intro name mem
  rcases List.mem_append.1 mem with inner | outer
  · exact plain name inner
  · exact plain' name outer

theorem Plain.of_isPrefix {place place' : Place} (plain : Plain place') (shorter : place <+: place') :
    Plain place :=
  fun name mem => plain name (shorter.subset mem)

theorem splitSlash_plain (xs : List Char) :
    ∀ current : List Char, '/' ∉ current → Plain (splitSlash current xs) := by
  induction xs with
  | nil => intro current clean; simpa [splitSlash, Plain] using clean
  | cons c rest ih =>
      intro current clean
      by_cases slash : c = '/'
      · intro name mem
        simp only [splitSlash, slash, if_true, List.mem_cons] at mem
        rcases mem with rfl | later
        · simpa using clean
        · exact ih [] (List.not_mem_nil _) name later
      · simp only [splitSlash, slash, if_false]
        exact ih (c :: current) (by simp [Ne.symm slash, clean])

theorem pathParts_plain (path : String) : Plain (pathParts path) :=
  fun name mem => splitSlash_plain _ [] (List.not_mem_nil _) name (List.mem_of_mem_filter mem)

theorem walk_plain {parts : List String} (plain : Plain parts) :
    ∀ {place : Place}, Plain place → Plain (walk place parts) := by
  induction parts with
  | nil => exact id
  | cons part rest ih =>
      intro place plainPlace
      refine ih (fun name mem => plain name (.tail _ mem)) ?_
      split
      · exact plainPlace.of_isPrefix (List.dropLast_prefix _)
      · exact plainPlace.append fun name mem => by
          rw [List.mem_singleton.1 mem]
          exact plain part (.head _)

theorem resolve_plain (path : String) : Plain (resolve path) :=
  walk_plain (pathParts_plain path) (fun _ mem => absurd mem (List.not_mem_nil _))

theorem splitSlash_append_plain (xs ys current : List Char) (clean : '/' ∉ xs) :
    splitSlash current (xs ++ ys) = splitSlash (xs.reverse ++ current) ys := by
  induction xs generalizing current with
  | nil => rfl
  | cons c xs ih =>
      have slash : c ≠ '/' := fun same => clean (same ▸ .head _)
      simp only [List.cons_append, splitSlash, slash, if_false, List.reverse_cons,
        List.append_assoc, List.singleton_append]
      exact ih (c :: current) fun mem => clean (.tail _ mem)

theorem splitSlash_keyOf {place : Place} (plain : Plain place) (current : List Char) :
    splitSlash current (keyOf place).data = ⟨current.reverse⟩ :: place := by
  induction place generalizing current with
  | nil => rfl
  | cons name rest ih =>
      have clean := plain name (.head _)
      have data : (keyOf (name :: rest)).data = '/' :: (name.data ++ (keyOf rest).data) := by
        simp [keyOf]
      rw [data, splitSlash, if_pos rfl, splitSlash_append_plain _ _ _ clean, List.append_nil,
        ih (fun other mem => plain other (.tail _ mem)), List.reverse_reverse]

theorem keyOf_inj {place place' : Place} (plain : Plain place) (plain' : Plain place')
    (same : keyOf place = keyOf place') : place = place' := by
  have read := splitSlash_keyOf plain []
  rw [same, splitSlash_keyOf plain' []] at read
  exact (List.cons.inj read).2.symm

/-- Whether `key` names something strictly below the directory named `dir`. -/
def isBelow (dir key : String) : Bool := (dir ++ "/").data.isPrefixOf key.data

theorem isBelow_keyOf_append (place : Place) {mid : Place} (named : mid ≠ []) :
    isBelow (keyOf place) (keyOf (place ++ mid)) = true := by
  obtain ⟨name, rest, rfl⟩ := List.exists_cons_of_ne_nil named
  simp [isBelow, keyOf_append, keyOf]

theorem ne_of_isBelow {dir key : String} (below : isBelow dir key = true) : key ≠ dir := by
  rintro rfl
  have longer := (List.isPrefixOf_iff_prefix.1 below).length_le
  have slash : "/".data.length = 1 := rfl
  rw [String.data_append, List.length_append] at longer
  omega

theorem outside_of_isBelow {dir key : String} (below : isBelow dir key = true) :
    outside dir key = false := by
  simp only [isBelow] at below
  simp only [outside, below, Bool.not_true, Bool.and_false]

theorem outside_or_isBelow {dir key : String} (other : key ≠ dir) :
    outside dir key = true ∨ isBelow dir key = true := by
  by_cases below : isBelow dir key = true
  · exact .inr below
  · simp only [isBelow, Bool.not_eq_true] at below
    exact .inl (by simp only [outside, below, other, Bool.not_false, Bool.and_true, bne_iff_ne, ne_eq,
      not_false_eq_true])

end Keys

/-! ## `mkdir(parents=True, exist_ok=True)` -/

/-- The directories between `place`, excluded, and `place ++ tail`, outermost first: those
`mkdir(parents=True)` at `place ++ tail` may have to make. -/
def dirsBetween (place : Place) : Place → List String
  | [] => []
  | name :: tail => keyOf (place ++ [name]) :: dirsBetween (place ++ [name]) tail

/-- What `mkdir(parents=True)` at `place ++ tail` needs of the directories between: each is
missing, or a directory with directories above it. -/
def Ready (host : Host) (place tail : Place) : Prop :=
  ∀ mid, mid ≠ [] → mid <+: tail →
    host.lookup (keyOf (place ++ mid)) = none ∨
      ∀ top, top ≠ [] → top <+: mid → host.lookup (keyOf (place ++ top)) = some .dir

section Mkdir

theorem mem_dirsBetween {key : String} :
    ∀ {place tail : Place},
      key ∈ dirsBetween place tail ↔ ∃ mid, mid ≠ [] ∧ mid <+: tail ∧ keyOf (place ++ mid) = key
  | place, [] => by
      simp only [dirsBetween, List.not_mem_nil, false_iff, List.prefix_nil]
      rintro ⟨mid, named, rfl, -⟩
      exact named rfl
  | place, name :: tail => by
      rw [dirsBetween, List.mem_cons, mem_dirsBetween]
      constructor
      · rintro (rfl | ⟨mid, _, inner, rfl⟩)
        · exact ⟨[name], by simp, by simp, rfl⟩
        · exact ⟨name :: mid, by simp, (List.prefix_cons_inj _).2 inner, by simp⟩
      · rintro ⟨_ | ⟨first, mid⟩, named, inner, rfl⟩
        · exact absurd rfl named
        · obtain ⟨rfl, below⟩ := List.cons_prefix_cons.1 inner
          by_cases top : mid = []
          · exact .inl (by simp [top])
          · exact .inr ⟨mid, top, below, by simp⟩

theorem keyOf_mem_dirsBetween {place mid tail : Place} (plain : Plain (place ++ mid))
    (plain' : Plain (place ++ tail)) :
    keyOf (place ++ mid) ∈ dirsBetween place tail ↔ mid ≠ [] ∧ mid <+: tail := by
  rw [mem_dirsBetween]
  constructor
  · rintro ⟨mid', named, inner, same⟩
    have same' := List.append_cancel_left
      (keyOf_inj (plain'.of_isPrefix ((List.prefix_append_right_inj place).2 inner)) plain same)
    exact same' ▸ ⟨named, inner⟩
  · rintro ⟨named, inner⟩
    exact ⟨mid, named, inner, rfl⟩

theorem isBelow_of_mem_dirsBetween {place tail : Place} {key : String}
    (mem : key ∈ dirsBetween place tail) : isBelow (keyOf place) key = true := by
  obtain ⟨mid, named, -, rfl⟩ := mem_dirsBetween.1 mem
  exact isBelow_keyOf_append place named

theorem dirsBetween_concat (name : String) :
    ∀ place tail : Place,
      dirsBetween place (tail ++ [name]) = dirsBetween place tail ++ [keyOf (place ++ tail ++ [name])]
  | place, [] => by simp [dirsBetween]
  | place, first :: tail => by simp [dirsBetween, dirsBetween_concat name (place ++ [first]) tail]

variable {place : Place} {host : Host}

theorem mkdirOnce_made (free : host.lookup (keyOf place) = none)
    (parentDir : host.lookup (keyOf place.dropLast) = some .dir) :
    mkdirOnce place host = .ok () (host.put (keyOf place) .dir) := by
  simp [mkdirOnce, free, parentDir]

theorem mkdirOnce_parent_missing (free : host.lookup (keyOf place) = none) (inner : place.dropLast ≠ [])
    (missing : host.lookup (keyOf place.dropLast) = none) :
    mkdirOnce place host = .error (.fileNotFound (keyOf place)) host := by
  simp [mkdirOnce, free, inner, missing]

theorem existOk_mkdirOnce (parentDir : host.lookup (keyOf place.dropLast) = some .dir)
    (notFile : host.lookup (keyOf place) = none ∨ host.lookup (keyOf place) = some .dir) :
    ∃ host', existOk place (mkdirOnce place) host = .ok () host' ∧
      host'.lookup = (host.put (keyOf place) .dir).lookup := by
  rw [existOk]
  rcases notFile with free | isDir
  · exact ⟨_, run_tryCatch_ok (mkdirOnce_made free parentDir), rfl⟩
  · have exists_ : mkdirOnce place host = .error (.osError (keyOf place)) host := by
      simp [mkdirOnce, isDir]
    refine ⟨host, ?_, ?_⟩
    · rw [run_tryCatch_error exists_]
      simp [Error.isOSError, isDir]
    · funext key
      by_cases same : key = keyOf place
      · simp [same, isDir]
      · simp [same]

theorem mkdirParents_dir (isDir : host.lookup (keyOf place) = some .dir) :
    mkdirParents place.reverse host = .ok () host := by
  cases reversed : place.reverse with
  | nil => rfl
  | cons name outer =>
      apply mkdirParents_existing
      rwa [← reversed, List.reverse_reverse]

theorem mkdirParents_fresh (tail : Place) :
    ∀ {host : Host}, host.lookup (keyOf place) = some .dir →
      (∀ key ∈ dirsBetween place tail, host.lookup key = none) →
      ∃ host', mkdirParents (tail.reverse ++ place.reverse) host = .ok () host' ∧
        ∀ key, host'.lookup key = if key ∈ dirsBetween place tail then some .dir else host.lookup key := by
  induction tail using List.reverseRecOn with
  | nil => intro host baseDir _; exact ⟨host, mkdirParents_dir baseDir, by simp [dirsBetween]⟩
  | append_singleton tail name ih =>
      intro host baseDir missing
      rw [dirsBetween_concat] at missing ⊢
      have free : host.lookup (keyOf (place ++ tail ++ [name])) = none := missing _ (by simp)
      have whole : (name :: (tail.reverse ++ place.reverse)).reverse = place ++ tail ++ [name] := by
        simp
      rw [show (tail ++ [name]).reverse ++ place.reverse = name :: (tail.reverse ++ place.reverse) by
        simp]
      simp only [mkdirParents]
      rw [whole]
      by_cases top : tail = []
      · subst top
        refine ⟨_, run_tryCatch_ok (mkdirOnce_made free (by simpa using baseDir)), fun key => ?_⟩
        by_cases same : key = keyOf (place ++ [] ++ [name]) <;> simp [same, dirsBetween]
      · have above : keyOf (place ++ tail) ∈ dirsBetween place tail :=
          mem_dirsBetween.2 ⟨tail, top, List.prefix_rfl, rfl⟩
        have failed := mkdirOnce_parent_missing free (by simp [top])
          (by simpa using missing _ (List.mem_append_left _ above))
        obtain ⟨host₁, made₁, lookup₁⟩ := ih baseDir fun key mem => missing key (List.mem_append_left _ mem)
        have notFile : host₁.lookup (keyOf (place ++ tail ++ [name])) = none ∨
            host₁.lookup (keyOf (place ++ tail ++ [name])) = some .dir := by
          rw [lookup₁]
          split
          · exact .inr rfl
          · exact .inl free
        obtain ⟨host₂, made₂, lookup₂⟩ :=
          existOk_mkdirOnce (by rw [List.dropLast_concat, lookup₁, if_pos above]) notFile
        refine ⟨host₂, ?_, fun key => ?_⟩
        · rw [run_tryCatch_error failed]
          exact (run_bind_ok made₁).trans made₂
        · rw [lookup₂, Host.lookup_put, lookup₁]
          by_cases same : key = keyOf (place ++ (tail ++ [name])) <;> simp [same]

theorem mkdirParents_ready (tail : Place) :
    ∀ {place : Place} {host : Host}, host.lookup (keyOf place) = some .dir → Ready host place tail →
      ∃ host', mkdirParents (tail.reverse ++ place.reverse) host = .ok () host' ∧
        ∀ key, host'.lookup key = if key ∈ dirsBetween place tail then some .dir else host.lookup key := by
  induction tail with
  | nil => intro place host baseDir _; exact ⟨host, mkdirParents_dir baseDir, by simp [dirsBetween]⟩
  | cons name tail ih =>
      intro place host baseDir ready
      rcases ready [name] (by simp) (by simp) with missing | isDir
      · refine mkdirParents_fresh _ baseDir fun key mem => ?_
        obtain ⟨mid, named, inner, rfl⟩ := mem_dirsBetween.1 mem
        refine (ready mid named inner).resolve_right fun dirs => ?_
        obtain ⟨first, rest, rfl⟩ := List.exists_cons_of_ne_nil named
        obtain ⟨rfl, -⟩ := List.cons_prefix_cons.1 inner
        rw [dirs [first] (by simp) (by simp)] at missing
        cases missing
      · have nameDir := isDir [name] (by simp) List.prefix_rfl
        have ready' : Ready host (place ++ [name]) tail := fun mid named inner => by
          rcases ready (name :: mid) (by simp) ((List.prefix_cons_inj _).2 inner) with missing | dirs
          · exact .inl (by simpa using missing)
          · exact .inr fun top named' above => by
              simpa using dirs (name :: top) (by simp) ((List.prefix_cons_inj _).2 above)
        obtain ⟨host', made, lookup'⟩ := ih nameDir ready'
        rw [show (name :: tail).reverse ++ place.reverse = tail.reverse ++ (place ++ [name]).reverse by
          simp]
        refine ⟨host', made, fun key => ?_⟩
        rw [lookup', dirsBetween]
        by_cases same : key = keyOf (place ++ [name])
        · subst same
          split <;> simp [nameDir]
        · simp [same]

end Mkdir

section Writes

variable {fs : FileSystem} {host : Host} {content : Bytes}

theorem writeBytes_checked {path : String} (notDir : host.lookup (locate path) ≠ some .dir)
    (parentDir : host.lookup (keyOf (resolve path).dropLast) = some .dir) :
    writeBytes fs path content host = match fs.writeFailure host.draws with
      | none => .ok () (host.draw.put (locate path) (.file content))
      | some (error, leftover) => .error error (host.draw.leave (locate path) leftover) := by
  simp only [locate] at notDir ⊢
  rcases failed : fs.writeFailure host.draws with _ | ⟨error, leftover⟩ <;>
    simp [writeBytes, notDir, parentDir, failed]

theorem copyFile_read {source target : String} (apart : locate source ≠ locate target)
    (found : host.lookup (locate source) = some (.file content)) :
    copyFile fs source target host = writeBytes fs target content host := by
  rw [copyFile, if_neg apart, run_bind_ok (readFile_file found)]

end Writes

/-! ## What `_create_root_fs` is for -/

/-- The bytes an entry of `files_info` stands for on `host`: the key itself, or the content of
the file it names. -/
def entryBytes (host : Host) : FileSource → Option Bytes
  | .content bytes => some bytes
  | .path source => Node.content? (host.lookup (locate source))

/-- The last entry, in iteration order, whose destination resolves to `key`. -/
def lastEntry (rootDirectory : String) (entries : List (FileSource × String)) (key : String) :
    Option (FileSource × String) :=
  entries.reverse.find? fun entry => locate (joinPath rootDirectory entry.2) == key

/-- The directories above a destination and below `root_directory`. -/
def parentDirs (rootDirectory path : String) : List String :=
  dirsBetween (resolve rootDirectory) (pathParts path).dropLast

/-- The node at `key` below `root_directory` once the entries are in place, from a host where
nothing is below it: the bytes of the last entry sent to `key`, a directory above some
destination, or nothing. -/
def rootFsNode (host : Host) (rootDirectory : String) (entries : List (FileSource × String))
    (key : String) : Option Node :=
  match lastEntry rootDirectory entries key with
  | some entry => (entryBytes host entry.1).map .file
  | none => if ∃ entry ∈ entries, key ∈ parentDirs rootDirectory entry.2 then some .dir else none

section Spec

variable {host : Host} {rootDirectory key : String} {entries : List (FileSource × String)}

theorem lastEntry_concat (entry : FileSource × String) :
    lastEntry rootDirectory (entries ++ [entry]) key =
      if locate (joinPath rootDirectory entry.2) = key then some entry
      else lastEntry rootDirectory entries key := by
  by_cases hit : locate (joinPath rootDirectory entry.2) = key <;> simp [lastEntry, hit]

theorem lastEntry_eq_none :
    lastEntry rootDirectory entries key = none ↔
      ∀ entry ∈ entries, locate (joinPath rootDirectory entry.2) ≠ key := by
  simp [lastEntry]

theorem lastEntry_eq_some {entry : FileSource × String}
    (found : lastEntry rootDirectory entries key = some entry) :
    entry ∈ entries ∧ locate (joinPath rootDirectory entry.2) = key :=
  ⟨List.mem_reverse.1 (List.mem_of_find?_eq_some found), by simpa using List.find?_some found⟩

theorem rootFsNode_concat (entry : FileSource × String) :
    rootFsNode host rootDirectory (entries ++ [entry]) key =
      if locate (joinPath rootDirectory entry.2) = key then (entryBytes host entry.1).map .file
      else if lastEntry rootDirectory entries key = none ∧ key ∈ parentDirs rootDirectory entry.2
        then some .dir
      else rootFsNode host rootDirectory entries key := by
  by_cases hit : locate (joinPath rootDirectory entry.2) = key
  · simp [rootFsNode, lastEntry_concat, hit]
  · have either : (∃ other ∈ entries ++ [entry], key ∈ parentDirs rootDirectory other.2) ↔
        key ∈ parentDirs rootDirectory entry.2 ∨
          ∃ other ∈ entries, key ∈ parentDirs rootDirectory other.2 := by
      simp [or_and_right, exists_or, or_comm]
    cases found : lastEntry rootDirectory entries key with
    | some other => simp [rootFsNode, lastEntry_concat, hit, found]
    | none =>
        simp only [rootFsNode, lastEntry_concat, hit, found, if_false, true_and, if_congr either rfl rfl]
        by_cases made : key ∈ parentDirs rootDirectory entry.2
        · rw [if_pos (.inl made), if_pos made]
        · rw [if_neg made]
          exact if_congr (or_iff_right made) rfl rfl

end Spec

/-! ## The loop of `_create_root_fs` -/

/-- The host after the entries `done` of `_create_root_fs`, run from `start`: nothing outside
`root_directory` has changed, it is still a directory, and below it the host holds what
`rootFsNode` says. -/
structure Built (start : Host) (rootDirectory : String) (done : List (FileSource × String))
    (host : Host) : Prop where
  outsideKept : ∀ key, outside (locate rootDirectory) key = true → host.lookup key = start.lookup key
  rootDir : host.lookup (locate rootDirectory) = some .dir
  belowRoot : ∀ key, isBelow (locate rootDirectory) key = true →
    host.lookup key = rootFsNode start rootDirectory done key

section Loop

variable {fs : FileSystem} {start host : Host} {rootDirectory path : String}
  {done : List (FileSource × String)}

theorem not_prefix_dropLast {parts : List String} (named : parts ≠ []) : ¬parts <+: parts.dropLast :=
  fun above => by
    have shorter := above.length_le
    have positive := List.length_pos.2 named
    rw [List.length_dropLast] at shorter
    omega

theorem plain_below (rootDirectory : String) {mid : Place} (above : mid <+: pathParts path) :
    Plain (resolve rootDirectory ++ mid) :=
  (resolve_plain _).append ((pathParts_plain _).of_isPrefix above)

theorem locate_joinPath (below : staysBelow path = true) :
    locate (joinPath rootDirectory path) = keyOf (resolve rootDirectory ++ pathParts path) := by
  rw [locate, resolve_joinPath below]

theorem isBelow_locate_joinPath (below : staysBelow path = true) :
    isBelow (locate rootDirectory) (locate (joinPath rootDirectory path)) = true := by
  rw [locate_joinPath below]
  exact isBelow_keyOf_append _ (staysBelow_iff.1 below).2.1

theorem outside_of_mem_dirsBetween {key : String} {tail : Place}
    (inside : key ∈ dirsBetween (resolve rootDirectory) tail) : outside (locate rootDirectory) key = false :=
  outside_of_isBelow (isBelow_of_mem_dirsBetween inside)

theorem built_nil (isDir : start.lookup (locate rootDirectory) = some .dir)
    (empty : ∀ key, isBelow (locate rootDirectory) key = true → start.lookup key = none) :
    Built start rootDirectory [] start where
  outsideKept _ _ := rfl
  rootDir := isDir
  belowRoot key below := by simp [rootFsNode, lastEntry, empty key below]

theorem lastEntry_parent_none (below : staysBelow path = true)
    (notUnder : ∀ other ∈ done, resolve (joinPath rootDirectory other.2) <+: resolve (joinPath rootDirectory path) →
      resolve (joinPath rootDirectory other.2) = resolve (joinPath rootDirectory path))
    {mid : Place} (above : mid <+: (pathParts path).dropLast) :
    lastEntry rootDirectory done (keyOf (resolve rootDirectory ++ mid)) = none := by
  have inside := above.trans (List.dropLast_prefix _)
  refine lastEntry_eq_none.2 fun other mem same => ?_
  have onto := keyOf_inj (resolve_plain _) (plain_below rootDirectory inside) same
  have whole := notUnder other mem (by
    rw [onto, resolve_joinPath below]
    exact (List.prefix_append_right_inj _).2 inside)
  rw [onto, resolve_joinPath below, List.append_right_inj] at whole
  exact not_prefix_dropLast (staysBelow_iff.1 below).2.1 (by rwa [whole] at above)

theorem destination_not_parent (belowDone : ∀ other ∈ done, staysBelow other.2 = true)
    (below : staysBelow path = true)
    (notOver : ∀ other ∈ done, resolve (joinPath rootDirectory path) <+: resolve (joinPath rootDirectory other.2) →
      resolve (joinPath rootDirectory path) = resolve (joinPath rootDirectory other.2)) :
    ∀ other ∈ done, keyOf (resolve rootDirectory ++ pathParts path) ∉ parentDirs rootDirectory other.2 := by
  intro other mem inside
  obtain ⟨-, above⟩ := (keyOf_mem_dirsBetween (plain_below rootDirectory List.prefix_rfl)
    (plain_below rootDirectory (List.dropLast_prefix _))).1 inside
  have whole := notOver other mem (by
    rw [resolve_joinPath below, resolve_joinPath (belowDone other mem)]
    exact (List.prefix_append_right_inj _).2 (above.trans (List.dropLast_prefix _)))
  rw [resolve_joinPath below, resolve_joinPath (belowDone other mem), List.append_right_inj] at whole
  exact not_prefix_dropLast (staysBelow_iff.1 below).2.1 (by rwa [← whole] at above)

theorem Built.lookup_parent (built : Built start rootDirectory done host) (below : staysBelow path = true)
    (notUnder : ∀ other ∈ done, resolve (joinPath rootDirectory other.2) <+: resolve (joinPath rootDirectory path) →
      resolve (joinPath rootDirectory other.2) = resolve (joinPath rootDirectory path))
    {mid : Place} (named : mid ≠ []) (above : mid <+: (pathParts path).dropLast) :
    host.lookup (keyOf (resolve rootDirectory ++ mid)) =
      if ∃ other ∈ done, mid <+: (pathParts other.2).dropLast then some .dir else none := by
  have inside := above.trans (List.dropLast_prefix _)
  rw [built.belowRoot _ (isBelow_keyOf_append _ named), rootFsNode,
    lastEntry_parent_none below notUnder above]
  exact if_congr (exists_congr fun other => and_congr_right fun _ =>
    (keyOf_mem_dirsBetween (plain_below rootDirectory inside)
      (plain_below rootDirectory (List.dropLast_prefix _))).trans (and_iff_right named)) rfl rfl

theorem Built.ready (built : Built start rootDirectory done host) (below : staysBelow path = true)
    (notUnder : ∀ other ∈ done, resolve (joinPath rootDirectory other.2) <+: resolve (joinPath rootDirectory path) →
      resolve (joinPath rootDirectory other.2) = resolve (joinPath rootDirectory path)) :
    Ready host (resolve rootDirectory) (pathParts path).dropLast := by
  intro mid named above
  by_cases needed : ∃ other ∈ done, mid <+: (pathParts other.2).dropLast
  · obtain ⟨other, mem, inside⟩ := needed
    exact .inr fun top named' up => by
      rw [built.lookup_parent below notUnder named' (up.trans above), if_pos ⟨other, mem, up.trans inside⟩]
  · exact .inl (by rw [built.lookup_parent below notUnder named above, if_neg needed])

theorem Built.target_notDir (built : Built start rootDirectory done host) (below : staysBelow path = true)
    (notParent : ∀ other ∈ done, keyOf (resolve rootDirectory ++ pathParts path) ∉ parentDirs rootDirectory other.2) :
    host.lookup (keyOf (resolve rootDirectory ++ pathParts path)) ≠ some .dir := by
  rw [built.belowRoot _ (isBelow_keyOf_append _ (staysBelow_iff.1 below).2.1), rootFsNode]
  cases lastEntry rootDirectory done (keyOf (resolve rootDirectory ++ pathParts path)) with
  | some other => cases entryBytes start other.1 <;> simp
  | none =>
      dsimp only
      rw [if_neg fun ⟨other, mem, inside⟩ => notParent other mem inside]
      simp

theorem Built.concat (built : Built start rootDirectory done host) {entry : FileSource × String}
    (below : staysBelow entry.2 = true)
    (notUnder : ∀ other ∈ done,
      resolve (joinPath rootDirectory other.2) <+: resolve (joinPath rootDirectory entry.2) →
        resolve (joinPath rootDirectory other.2) = resolve (joinPath rootDirectory entry.2))
    {bytes : Bytes} (known : entryBytes start entry.1 = some bytes) {host' : Host}
    (lookup' : ∀ key, host'.lookup key =
      if key = locate (joinPath rootDirectory entry.2) then some (.file bytes)
      else if key ∈ dirsBetween (resolve rootDirectory) (pathParts entry.2).dropLast then some .dir
      else host.lookup key) :
    Built start rootDirectory (done ++ [entry]) host' := by
  have target : isBelow (locate rootDirectory) (locate (joinPath rootDirectory entry.2)) = true :=
    isBelow_locate_joinPath below
  constructor
  · intro key away
    rw [lookup', if_neg, if_neg, built.outsideKept key away]
    · exact fun inside => Bool.false_ne_true ((outside_of_mem_dirsBetween inside).symm.trans away)
    · rintro rfl
      rw [outside_of_isBelow target] at away
      cases away
  · have above : locate rootDirectory ∉ dirsBetween (resolve rootDirectory) (pathParts entry.2).dropLast :=
      fun inside => ne_of_isBelow (isBelow_of_mem_dirsBetween inside) rfl
    rw [lookup', if_neg (Ne.symm (ne_of_isBelow target)), if_neg above]
    exact built.rootDir
  · intro key inRoot
    rw [lookup', rootFsNode_concat, ← built.belowRoot key inRoot]
    by_cases hit : key = locate (joinPath rootDirectory entry.2)
    · rw [if_pos hit, if_pos hit.symm, known]
      rfl
    · rw [if_neg hit, if_neg (Ne.symm hit)]
      by_cases inside : key ∈ dirsBetween (resolve rootDirectory) (pathParts entry.2).dropLast
      · obtain ⟨mid, -, above, same⟩ := mem_dirsBetween.1 inside
        rw [if_pos inside, if_pos ⟨same ▸ lastEntry_parent_none below notUnder above, inside⟩]
      · rw [if_neg inside, if_neg fun both => inside both.2]

theorem injectFile_built {entry : FileSource × String}
    (built : Built start rootDirectory done host)
    (belowDone : ∀ other ∈ done, staysBelow other.2 = true) (below : staysBelow entry.2 = true)
    (sourced : ∀ source, entry.1 = .path source →
      outside (locate rootDirectory) (locate source) = true ∧
        ∃ content, start.lookup (locate source) = some (.file content))
    (notUnder : ∀ other ∈ done,
      resolve (joinPath rootDirectory other.2) <+: resolve (joinPath rootDirectory entry.2) →
        resolve (joinPath rootDirectory other.2) = resolve (joinPath rootDirectory entry.2))
    (notOver : ∀ other ∈ done,
      resolve (joinPath rootDirectory entry.2) <+: resolve (joinPath rootDirectory other.2) →
        resolve (joinPath rootDirectory entry.2) = resolve (joinPath rootDirectory other.2)) :
    (∃ host', injectFile fs rootDirectory entry host = .ok () host' ∧
      Built start rootDirectory (done ++ [entry]) host') ∨
    ∃ e host' n leftover, injectFile fs rootDirectory entry host = .error e host' ∧
      fs.writeFailure n = some (e, leftover) := by
  have named := (staysBelow_iff.1 below).2.1
  have target : isBelow (locate rootDirectory) (locate (joinPath rootDirectory entry.2)) = true :=
    isBelow_locate_joinPath below
  obtain ⟨host₁, made, lookup₁⟩ := mkdirParents_ready _ built.rootDir (built.ready below notUnder)
  have unchanged : ∀ key, key ∉ dirsBetween (resolve rootDirectory) (pathParts entry.2).dropLast →
      host₁.lookup key = host.lookup key := fun key away => by rw [lookup₁, if_neg away]
  have notBetween : locate (joinPath rootDirectory entry.2) ∉
      dirsBetween (resolve rootDirectory) (pathParts entry.2).dropLast := fun inside => by
    rw [locate_joinPath below] at inside
    exact not_prefix_dropLast named ((keyOf_mem_dirsBetween (plain_below _ List.prefix_rfl)
      (plain_below _ (List.dropLast_prefix _))).1 inside).2
  have notDir : host₁.lookup (locate (joinPath rootDirectory entry.2)) ≠ some .dir := by
    rw [unchanged _ notBetween, locate_joinPath below]
    exact built.target_notDir below (destination_not_parent belowDone below notOver)
  have parentDir : host₁.lookup (keyOf (resolve (joinPath rootDirectory entry.2)).dropLast) = some .dir := by
    rw [resolve_joinPath below, List.dropLast_append_of_ne_nil _ named, lookup₁]
    by_cases top : (pathParts entry.2).dropLast = []
    · rw [if_neg (by simp [top, dirsBetween]), top, List.append_nil]
      exact built.rootDir
    · rw [if_pos ((keyOf_mem_dirsBetween (plain_below _ (List.dropLast_prefix _))
        (plain_below _ (List.dropLast_prefix _))).2 ⟨top, List.prefix_rfl⟩)]
  have ran : injectFile fs rootDirectory entry host = (match entry.1 with
      | .content bytes => writeBytes fs (joinPath rootDirectory entry.2) bytes
      | .path source => copyFile fs source (joinPath rootDirectory entry.2)) host₁ := by
    simp only [injectFile]
    rw [resolve_parent_joinPath below, List.reverse_append]
    exact run_bind_ok made
  obtain ⟨bytes, known, wrote⟩ : ∃ bytes, entryBytes start entry.1 = some bytes ∧
      injectFile fs rootDirectory entry host = writeBytes fs (joinPath rootDirectory entry.2) bytes host₁ := by
    rw [ran]
    cases sort : entry.1 with
    | content bytes => exact ⟨bytes, rfl, rfl⟩
    | path source =>
        obtain ⟨away, content, found⟩ := sourced source sort
        have kept : host₁.lookup (locate source) = some (.file content) := by
          rw [unchanged _ fun inside => Bool.false_ne_true
            ((outside_of_mem_dirsBetween inside).symm.trans away), built.outsideKept _ away, found]
        refine ⟨content, by simp [entryBytes, found], copyFile_read (fun same => ?_) kept⟩
        rw [same, outside_of_isBelow target] at away
        cases away
  rw [wrote, writeBytes_checked notDir parentDir]
  cases failed : fs.writeFailure host₁.draws with
  | none =>
      exact .inl ⟨_, rfl, built.concat below notUnder known fun key => by
        simp only [Host.lookup_put, Host.lookup_draw, lookup₁]⟩
  | some outcome =>
      obtain ⟨e, leftover⟩ := outcome
      exact .inr ⟨e, _, host₁.draws, leftover, rfl, failed⟩

theorem createRootFs_built :
    ∀ (rest done : List (FileSource × String)) {host : Host}, Built start rootDirectory done host →
      (∀ entry ∈ done ++ rest, staysBelow entry.2 = true) →
      (∀ entry ∈ rest, ∀ source, entry.1 = .path source →
        outside (locate rootDirectory) (locate source) = true ∧
          ∃ content, start.lookup (locate source) = some (.file content)) →
      (∀ a ∈ done ++ rest, ∀ b ∈ done ++ rest,
        resolve (joinPath rootDirectory a.2) <+: resolve (joinPath rootDirectory b.2) →
          resolve (joinPath rootDirectory a.2) = resolve (joinPath rootDirectory b.2)) →
      (∃ host', createRootFs fs rootDirectory rest host = .ok () host' ∧
        Built start rootDirectory (done ++ rest) host') ∨
      ∃ e host' n leftover, createRootFs fs rootDirectory rest host = .error e host' ∧
        fs.writeFailure n = some (e, leftover)
  | [], done, host, built, _, _, _ => .inl ⟨host, rfl, by rwa [List.append_nil]⟩
  | entry :: rest, done, host, built, below, sources, noAncestor => by
      have mem : entry ∈ done ++ entry :: rest := by simp
      have earlier : ∀ other ∈ done, other ∈ done ++ entry :: rest := fun _ => List.mem_append_left _
      have shifted : done ++ [entry] ++ rest = done ++ entry :: rest := by simp
      rcases injectFile_built built (fun other inDone => below other (earlier other inDone))
          (below entry mem) (sources entry (.head _))
          (fun other inDone => noAncestor other (earlier other inDone) entry mem)
          (fun other inDone => noAncestor entry mem other (earlier other inDone)) with
        ⟨host₁, ran, built₁⟩ | ⟨e, host₁, n, leftover, raised, failed⟩
      · rcases createRootFs_built rest (done ++ [entry]) built₁ (by rw [shifted]; exact below)
            (fun other later => sources other (.tail _ later)) (by rw [shifted]; exact noAncestor) with
          ⟨host', ran', built'⟩ | ⟨e, host', n, leftover, raised', failed⟩
        · rw [shifted] at built'
          exact .inl ⟨host', (run_bind_ok ran).trans ran', built'⟩
        · exact .inr ⟨e, host', n, leftover, (run_bind_ok ran).trans raised', failed⟩
      · exact .inr ⟨e, host₁, n, leftover, run_bind_error raised, failed⟩

end Loop

section RootFs

variable {fs : FileSystem} {host : Host} {rootDirectory : String} {entries : List (FileSource × String)}

theorem createRootFs_built_nil (isDir : host.lookup (locate rootDirectory) = some .dir)
    (empty : ∀ key, isBelow (locate rootDirectory) key = true → host.lookup key = none)
    (below : ∀ entry ∈ entries, staysBelow entry.2 = true)
    (sources : ∀ entry ∈ entries, ∀ source, entry.1 = .path source →
      outside (locate rootDirectory) (locate source) = true ∧
        ∃ content, host.lookup (locate source) = some (.file content))
    (noAncestor : ∀ a ∈ entries, ∀ b ∈ entries,
      resolve (joinPath rootDirectory a.2) <+: resolve (joinPath rootDirectory b.2) →
        resolve (joinPath rootDirectory a.2) = resolve (joinPath rootDirectory b.2)) :
    (∃ host', createRootFs fs rootDirectory entries host = .ok () host' ∧
      Built host rootDirectory entries host') ∨
    ∃ e host' n leftover, createRootFs fs rootDirectory entries host = .error e host' ∧
      fs.writeFailure n = some (e, leftover) := by
  have done := @createRootFs_built fs host rootDirectory entries [] host (built_nil isDir empty)
    (by rwa [List.nil_append]) sources (by rwa [List.nil_append])
  rwa [List.nil_append] at done

def steadyFs : FileSystem := ⟨fun _ => "/tmp/tmpdir", fun _ => none⟩

def bootHost : Host := ⟨[("/srv/root", .dir), ("/boot/vmlinuz", .file [7])], [], 0⟩

def bootFiles : List (FileSource × String) :=
  [(.content [1], "EFI/BOOT/grub.cfg"), (.path "/boot/vmlinuz", "vmlinuz"),
    (.content [2], "EFI/BOOT/./grub.cfg")]

example : rootFsNode bootHost "/srv/root" bootFiles "/srv/root/EFI/BOOT/grub.cfg" = some (.file [2]) := by
  decide

example : rootFsNode bootHost "/srv/root" bootFiles "/srv/root/EFI" = some .dir := by decide

def emptyRoot : Host := ⟨[("/srv/root", .dir), ("/srv", .dir)], [], 0⟩

theorem bootHost_empty : ∀ key, isBelow (locate "/srv/root") key = true → bootHost.lookup key = none := by
  intro key inRoot
  have notRoot : key ≠ "/srv/root" := ne_of_isBelow inRoot
  have notKernel : key ≠ "/boot/vmlinuz" := by rintro rfl; exact absurd inRoot (by decide)
  simp [bootHost, Host.lookup, Ne.symm notRoot, Ne.symm notKernel]

theorem bootFiles_below : ∀ entry ∈ bootFiles, staysBelow entry.2 = true := by decide

theorem bootFiles_sources : ∀ entry ∈ bootFiles, ∀ source, entry.1 = .path source →
    outside (locate "/srv/root") (locate source) = true ∧
      ∃ content, bootHost.lookup (locate source) = some (.file content) := by
  intro entry mem source sort
  simp only [bootFiles, List.mem_cons, List.mem_singleton, List.not_mem_nil, or_false] at mem
  rcases mem with rfl | rfl | rfl <;> cases sort
  exact ⟨by decide, [7], rfl⟩

theorem bootFiles_noAncestor : ∀ a ∈ bootFiles, ∀ b ∈ bootFiles,
    resolve (joinPath "/srv/root" a.2) <+: resolve (joinPath "/srv/root" b.2) →
      resolve (joinPath "/srv/root" a.2) = resolve (joinPath "/srv/root" b.2) := by decide

/-- `_create_root_fs` into an empty directory returns, and the regular files below it are the
destinations, each with the bytes last sent to it. -/
theorem createRootFs_files (passes : ∀ n, fs.writeFailure n = none)
    (isDir : host.lookup (locate rootDirectory) = some .dir)
    (empty : ∀ key, isBelow (locate rootDirectory) key = true → host.lookup key = none)
    (below : ∀ entry ∈ entries, staysBelow entry.2 = true)
    (sources : ∀ entry ∈ entries, ∀ source, entry.1 = .path source →
      outside (locate rootDirectory) (locate source) = true ∧
        ∃ content, host.lookup (locate source) = some (.file content))
    (noAncestor : ∀ a ∈ entries, ∀ b ∈ entries,
      resolve (joinPath rootDirectory a.2) <+: resolve (joinPath rootDirectory b.2) →
        resolve (joinPath rootDirectory a.2) = resolve (joinPath rootDirectory b.2)) :
    ∃ host', createRootFs fs rootDirectory entries host = .ok () host' ∧
      (∀ key, isBelow (locate rootDirectory) key = true →
        ((∃ bytes, host'.lookup key = some (.file bytes)) ↔
          ∃ entry ∈ entries, locate (joinPath rootDirectory entry.2) = key)) ∧
      ∀ key entry, lastEntry rootDirectory entries key = some entry →
        ∃ bytes, entryBytes host entry.1 = some bytes ∧ host'.lookup key = some (.file bytes) := by
  obtain ⟨host', ran, built⟩ : ∃ host', createRootFs fs rootDirectory entries host = .ok () host' ∧
      Built host rootDirectory entries host' := by
    rcases createRootFs_built_nil isDir empty below sources noAncestor with done | ⟨e, -, n, leftover, -, failed⟩
    · exact done
    · rw [passes] at failed
      cases failed
  have holds : ∀ key entry, lastEntry rootDirectory entries key = some entry →
      ∃ bytes, entryBytes host entry.1 = some bytes ∧ host'.lookup key = some (.file bytes) := by
    intro key entry found
    obtain ⟨mem, rfl⟩ := lastEntry_eq_some found
    obtain ⟨bytes, known⟩ : ∃ bytes, entryBytes host entry.1 = some bytes := by
      cases sort : entry.1 with
      | content bytes => exact ⟨bytes, rfl⟩
      | path source =>
          obtain ⟨-, content, found⟩ := sources entry mem source sort
          exact ⟨content, by simp [entryBytes, found]⟩
    refine ⟨bytes, known, ?_⟩
    rw [built.belowRoot _ (isBelow_locate_joinPath (below entry mem)), rootFsNode, found]
    exact congrArg (Option.map Node.file) known
  refine ⟨host', ran, fun key inRoot => ⟨fun ⟨bytes, isFile⟩ => ?_, ?_⟩, holds⟩
  · rw [built.belowRoot key inRoot, rootFsNode] at isFile
    cases found : lastEntry rootDirectory entries key with
    | some entry => exact ⟨entry, lastEntry_eq_some found⟩
    | none =>
        rw [found] at isFile
        dsimp only at isFile
        split at isFile <;> cases isFile
  · rintro ⟨entry, mem, rfl⟩
    cases found : lastEntry rootDirectory entries (locate (joinPath rootDirectory entry.2)) with
    | none => exact absurd rfl (lastEntry_eq_none.1 found entry mem)
    | some last =>
        obtain ⟨bytes, -, isFile⟩ := holds _ last found
        exact ⟨bytes, isFile⟩

theorem createRootFs_files_boot :
    (∀ n, steadyFs.writeFailure n = none) ∧ bootHost.lookup (locate "/srv/root") = some .dir ∧
    (∀ key, isBelow (locate "/srv/root") key = true → bootHost.lookup key = none) ∧
    (∀ entry ∈ bootFiles, staysBelow entry.2 = true) ∧
    (∀ entry ∈ bootFiles, ∀ source, entry.1 = .path source →
      outside (locate "/srv/root") (locate source) = true ∧
        ∃ content, bootHost.lookup (locate source) = some (.file content)) ∧
    (∀ a ∈ bootFiles, ∀ b ∈ bootFiles,
      resolve (joinPath "/srv/root" a.2) <+: resolve (joinPath "/srv/root" b.2) →
        resolve (joinPath "/srv/root" a.2) = resolve (joinPath "/srv/root" b.2)) ∧
    ∃ host', createRootFs steadyFs "/srv/root" bootFiles bootHost = .ok () host' ∧
      (∀ key, isBelow (locate "/srv/root") key = true →
        ((∃ bytes, host'.lookup key = some (.file bytes)) ↔
          ∃ entry ∈ bootFiles, locate (joinPath "/srv/root" entry.2) = key)) ∧
      ∀ key entry, lastEntry "/srv/root" bootFiles key = some entry →
        ∃ bytes, entryBytes bootHost entry.1 = some bytes ∧ host'.lookup key = some (.file bytes) :=
  ⟨fun _ => rfl, rfl, bootHost_empty, bootFiles_below, bootFiles_sources, bootFiles_noAncestor,
    createRootFs_files (fun _ => rfl) rfl bootHost_empty bootFiles_below bootFiles_sources
      bootFiles_noAncestor⟩

/-- A destination `.` makes the write raise, and `../escape` is written outside `root_directory`. -/
theorem createRootFs_dot_escape :
    createRootFs steadyFs "/srv/root" [(.content [1], ".")] emptyRoot =
        .error (.osError "/srv/root") emptyRoot ∧
      ∃ host', createRootFs steadyFs "/srv/root" [(.content [1], "../escape")] emptyRoot = .ok () host' ∧
        host'.lookup "/srv/escape" = some (.file [1]) ∧
        ∀ key, isBelow "/srv/root" key = true → host'.lookup key = none := by
  refine ⟨rfl, emptyRoot.draw.put "/srv/escape" (.file [1]), rfl, rfl, fun key inRoot => ?_⟩
  have notRoot : key ≠ "/srv/root" := ne_of_isBelow inRoot
  have notParent : key ≠ "/srv" := by rintro rfl; exact absurd inRoot (by decide)
  have notEscape : key ≠ "/srv/escape" := by rintro rfl; exact absurd inRoot (by decide)
  rw [Host.lookup_put, if_neg notEscape, Host.lookup_draw]
  simp [emptyRoot, Host.lookup, Ne.symm notRoot, Ne.symm notParent]

/-- `_create_root_fs` returns with `rootFsNode` below `root_directory` and the host unchanged
elsewhere, or raises a write's error. -/
theorem createRootFs_tree (isDir : host.lookup (locate rootDirectory) = some .dir)
    (empty : ∀ key, isBelow (locate rootDirectory) key = true → host.lookup key = none)
    (below : ∀ entry ∈ entries, staysBelow entry.2 = true)
    (sources : ∀ entry ∈ entries, ∀ source, entry.1 = .path source →
      outside (locate rootDirectory) (locate source) = true ∧
        ∃ content, host.lookup (locate source) = some (.file content))
    (noAncestor : ∀ a ∈ entries, ∀ b ∈ entries,
      resolve (joinPath rootDirectory a.2) <+: resolve (joinPath rootDirectory b.2) →
        resolve (joinPath rootDirectory a.2) = resolve (joinPath rootDirectory b.2)) :
    (∃ host', createRootFs fs rootDirectory entries host = .ok () host' ∧
      ∀ key, host'.lookup key =
        if isBelow (locate rootDirectory) key then rootFsNode host rootDirectory entries key
        else host.lookup key) ∨
    ∃ e host' n leftover, createRootFs fs rootDirectory entries host = .error e host' ∧
      fs.writeFailure n = some (e, leftover) := by
  refine (createRootFs_built_nil isDir empty below sources noAncestor).imp
    (fun ⟨host', ran, built⟩ => ⟨host', ran, fun key => ?_⟩) id
  split
  · exact built.belowRoot key ‹_›
  · by_cases root : key = locate rootDirectory
    · rw [root, built.rootDir, isDir]
    · exact built.outsideKept key ((outside_or_isBelow root).resolve_right ‹_›)

theorem createRootFs_tree_boot :
    bootHost.lookup (locate "/srv/root") = some .dir ∧
    (∀ key, isBelow (locate "/srv/root") key = true → bootHost.lookup key = none) ∧
    (∀ entry ∈ bootFiles, staysBelow entry.2 = true) ∧
    (∀ entry ∈ bootFiles, ∀ source, entry.1 = .path source →
      outside (locate "/srv/root") (locate source) = true ∧
        ∃ content, bootHost.lookup (locate source) = some (.file content)) ∧
    (∀ a ∈ bootFiles, ∀ b ∈ bootFiles,
      resolve (joinPath "/srv/root" a.2) <+: resolve (joinPath "/srv/root" b.2) →
        resolve (joinPath "/srv/root" a.2) = resolve (joinPath "/srv/root" b.2)) ∧
    ((∃ host', createRootFs steadyFs "/srv/root" bootFiles bootHost = .ok () host' ∧
      ∀ key, host'.lookup key =
        if isBelow (locate "/srv/root") key then rootFsNode bootHost "/srv/root" bootFiles key
        else bootHost.lookup key) ∨
    ∃ e host' n leftover, createRootFs steadyFs "/srv/root" bootFiles bootHost = .error e host' ∧
      steadyFs.writeFailure n = some (e, leftover)) :=
  ⟨rfl, bootHost_empty, bootFiles_below, bootFiles_sources, bootFiles_noAncestor,
    createRootFs_tree rfl bootHost_empty bootFiles_below bootFiles_sources bootFiles_noAncestor⟩

end RootFs

end Ironic
