import Ironic.RootFsContents
import Ironic.BootMedia

/-!
What `_extract_iso` leaves below `extract_dir`. `pycdlib` walks the image top-down, so each
file comes after the directory it is in. `isoNode` says what the extraction makes of the
entries: each file path holds the bytes of the last file entry there, each directory entry and
each directory above an entry is a directory, and nothing else is there. `Extracted` says the
host agrees with it after the entries done so far; `Extracted.dir` and `Extracted.file` are the
two kinds of iteration and `extractEntries_extracted` the whole loop.
-/

namespace Ironic

/-! ## What the extraction is for -/

/-- The path of an entry, relative to the image's root. -/
def IsoEntry.path : IsoEntry → String
  | .dir path => path
  | .file path _ => path

/-- The components whose every prefix is a directory the entry needs: a directory's own path,
or the path of a file's parent. -/
def IsoEntry.tail : IsoEntry → Place
  | .dir path => pathParts path
  | .file path _ => (pathParts path).dropLast

/-- The directories below `extract_dir` an entry needs. -/
def IsoEntry.dirs (extractDir : String) (entry : IsoEntry) : List String :=
  dirsBetween (resolve extractDir) entry.tail

/-- The bytes an entry writes at `key`, if it is a file that lands there. -/
def IsoEntry.bytesAt (extractDir key : String) : IsoEntry → Option Bytes
  | .dir _ => none
  | .file path content => if locate (joinPath extractDir path) = key then some content else none

/-- The bytes of the last file entry that lands at `key`. -/
def lastIsoFile (extractDir : String) (entries : List IsoEntry) (key : String) : Option Bytes :=
  entries.reverse.findSome? (IsoEntry.bytesAt extractDir key)

/-- The node at `key` below `extract_dir` once the entries are extracted into an empty
directory: the bytes of the last file entry there, a directory some entry needs, or nothing. -/
def isoNode (extractDir : String) (entries : List IsoEntry) (key : String) : Option Node :=
  match lastIsoFile extractDir entries key with
  | some content => some (.file content)
  | none => if ∃ entry ∈ entries, key ∈ entry.dirs extractDir then some .dir else none

/-- What a file entry needs of the entries before it: its parent is `extract_dir` itself or a
directory one of them needs. -/
def ParentMade (extractDir : String) (before : List IsoEntry) : IsoEntry → Prop
  | .dir _ => True
  | .file path _ => (pathParts path).dropLast = [] ∨
      ∃ entry ∈ before, keyOf (resolve extractDir ++ (pathParts path).dropLast) ∈ entry.dirs extractDir

instance (extractDir : String) (before : List IsoEntry) :
    (entry : IsoEntry) → Decidable (ParentMade extractDir before entry)
  | .dir _ => isTrue trivial
  | .file _ _ => inferInstanceAs (Decidable (_ ∨ _))

/-- What `iso.walk()` gives of an ISO 9660 tree: paths that stay below the root, each file after
an entry that needs its parent directory, and no file where an entry needs a directory. -/
structure TopDown (extractDir : String) (entries : List IsoEntry) : Prop where
  below : ∀ entry ∈ entries, staysBelow entry.path = true
  parentFirst : ∀ i : Fin entries.length, ParentMade extractDir (entries.take i) (entries.get i)
  filesApart : ∀ path content, .file path content ∈ entries → ∀ entry ∈ entries,
    locate (joinPath extractDir path) ∉ entry.dirs extractDir

section Spec

variable {extractDir key : String} {entries : List IsoEntry}

theorem lastIsoFile_concat (entry : IsoEntry) :
    lastIsoFile extractDir (entries ++ [entry]) key =
      (entry.bytesAt extractDir key).or (lastIsoFile extractDir entries key) := by
  simp only [lastIsoFile, List.reverse_append, List.reverse_singleton, List.singleton_append,
    List.findSome?_cons]
  cases entry.bytesAt extractDir key <;> rfl

theorem lastIsoFile_eq_some {bytes : Bytes} (found : lastIsoFile extractDir entries key = some bytes) :
    ∃ path, IsoEntry.file path bytes ∈ entries ∧ locate (joinPath extractDir path) = key := by
  obtain ⟨entry, member, landed⟩ := List.exists_of_findSome?_eq_some found
  cases entry with
  | dir path => cases landed
  | file path content =>
      simp only [IsoEntry.bytesAt, Option.ite_none_right_eq_some, Option.some.injEq] at landed
      obtain ⟨lands, rfl⟩ := landed
      exact ⟨path, List.mem_reverse.1 member, lands⟩

theorem IsoEntry.plain_tail (entry : IsoEntry) : Plain entry.tail := by
  cases entry with
  | dir path => exact pathParts_plain path
  | file path content => exact (pathParts_plain path).of_isPrefix (List.dropLast_prefix _)

theorem keyOf_mem_dirs {entry : IsoEntry} {mid : Place} (plain : Plain (resolve extractDir ++ mid)) :
    keyOf (resolve extractDir ++ mid) ∈ entry.dirs extractDir ↔ mid ≠ [] ∧ mid <+: entry.tail :=
  keyOf_mem_dirsBetween plain ((resolve_plain _).append entry.plain_tail)

theorem isBelow_of_mem_dirs {entry : IsoEntry} (needed : key ∈ entry.dirs extractDir) :
    isBelow (locate extractDir) key = true :=
  isBelow_of_mem_dirsBetween needed

theorem lastIsoFile_eq_none (apart : ∀ path content, .file path content ∈ entries →
    locate (joinPath extractDir path) ≠ key) : lastIsoFile extractDir entries key = none := by
  cases found : lastIsoFile extractDir entries key with
  | none => rfl
  | some bytes =>
      obtain ⟨path, member, lands⟩ := lastIsoFile_eq_some found
      exact absurd lands (apart path bytes member)

theorem isoNode_dir {entry : IsoEntry} (member : entry ∈ entries)
    (needed : key ∈ entry.dirs extractDir) (noFile : lastIsoFile extractDir entries key = none) :
    isoNode extractDir entries key = some .dir := by
  rw [isoNode, noFile, if_pos ⟨entry, member, needed⟩]

theorem isoNode_none (noFile : lastIsoFile extractDir entries key = none)
    (unneeded : ∀ entry ∈ entries, key ∉ entry.dirs extractDir) :
    isoNode extractDir entries key = none := by
  rw [isoNode, noFile, if_neg fun ⟨entry, member, needed⟩ => unneeded entry member needed]

theorem isoNode_concat_of_covered (entry : IsoEntry) (noBytes : entry.bytesAt extractDir key = none)
    (covered : key ∈ entry.dirs extractDir → ∃ other ∈ entries, key ∈ other.dirs extractDir) :
    isoNode extractDir (entries ++ [entry]) key = isoNode extractDir entries key := by
  have same : (∃ other ∈ entries ++ [entry], key ∈ other.dirs extractDir) ↔
      ∃ other ∈ entries, key ∈ other.dirs extractDir := by
    constructor
    · rintro ⟨other, member, needed⟩
      rcases List.mem_append.1 member with earlier | last
      · exact ⟨other, earlier, needed⟩
      · exact covered (List.mem_singleton.1 last ▸ needed)
    · rintro ⟨other, member, needed⟩
      exact ⟨other, List.mem_append_left _ member, needed⟩
  simp only [isoNode, lastIsoFile_concat, noBytes, Option.none_or]
  split
  · rfl
  · exact if_congr same rfl rfl

end Spec

/-! ## The loop of `_extract_iso` -/

/-- The host after the entries `done` of `_extract_iso`, run from `start`: nothing outside
`extract_dir` has changed, it is still a directory, and below it the host holds what `isoNode`
says. -/
structure Extracted (start : Host) (extractDir : String) (done : List IsoEntry) (host : Host) :
    Prop where
  outsideKept : ∀ key, outside (locate extractDir) key = true → host.lookup key = start.lookup key
  rootDir : host.lookup (locate extractDir) = some .dir
  belowRoot : ∀ key, isBelow (locate extractDir) key = true →
    host.lookup key = isoNode extractDir done key

section Loop

variable {fs : FileSystem} {start host : Host} {extractDir path : String} {done : List IsoEntry}

theorem extracted_nil (isDir : start.lookup (locate extractDir) = some .dir)
    (empty : ∀ key, isBelow (locate extractDir) key = true → start.lookup key = none) :
    Extracted start extractDir [] start where
  outsideKept _ _ := rfl
  rootDir := isDir
  belowRoot key below := by
    rw [empty key below]
    simp [isoNode, lastIsoFile]

theorem Extracted.lookup_needed (extracted : Extracted start extractDir done host)
    {entry : IsoEntry} {mid : Place} (named : mid ≠ []) (plain : Plain (resolve extractDir ++ mid))
    (member : entry ∈ done) (needed : mid <+: entry.tail)
    (apart : ∀ top, top ≠ [] → top <+: mid → lastIsoFile extractDir done
      (keyOf (resolve extractDir ++ top)) = none) :
    host.lookup (keyOf (resolve extractDir ++ mid)) = some .dir := by
  rw [extracted.belowRoot _ (isBelow_keyOf_append _ named)]
  exact isoNode_dir member ((keyOf_mem_dirs plain).2 ⟨named, needed⟩) (apart mid named List.prefix_rfl)

theorem Extracted.dir (extracted : Extracted start extractDir done host)
    (below : staysBelow path = true)
    (apart : ∀ key ∈ (IsoEntry.dir path).dirs extractDir, lastIsoFile extractDir done key = none) :
    ∃ host', mkdirParents (resolve (joinPath extractDir path)).reverse host = .ok () host' ∧
      Extracted start extractDir (done ++ [.dir path]) host' := by
  have plainAt : ∀ {mid : Place}, mid <+: pathParts path → Plain (resolve extractDir ++ mid) :=
    fun above => plain_below extractDir above
  have apartAt : ∀ {mid : Place}, mid ≠ [] → mid <+: pathParts path →
      lastIsoFile extractDir done (keyOf (resolve extractDir ++ mid)) = none :=
    fun named above => apart _ ((keyOf_mem_dirs (plainAt above)).2 ⟨named, above⟩)
  have ready : Ready host (resolve extractDir) (pathParts path) := by
    intro mid named above
    by_cases needed : ∃ entry ∈ done, mid <+: entry.tail
    · obtain ⟨entry, member, inside⟩ := needed
      exact .inr fun top named' up => extracted.lookup_needed named' (plainAt (up.trans above))
        member (up.trans inside) fun _ named'' up' => apartAt named'' (up'.trans (up.trans above))
    · refine .inl ?_
      rw [extracted.belowRoot _ (isBelow_keyOf_append _ named)]
      exact isoNode_none (apartAt named above) fun entry member inside =>
        needed ⟨entry, member, ((keyOf_mem_dirs (plainAt above)).1 inside).2⟩
  obtain ⟨host', made, lookup'⟩ := mkdirParents_ready (pathParts path) extracted.rootDir ready
  refine ⟨host', by rwa [resolve_joinPath below, List.reverse_append], ?_, ?_, ?_⟩
  · intro key away
    rw [lookup', if_neg fun inside => Bool.false_ne_true
      ((outside_of_mem_dirsBetween inside).symm.trans away)]
    exact extracted.outsideKept key away
  · have rootFree : locate extractDir ∉ dirsBetween (resolve extractDir) (pathParts path) :=
      fun inside => ne_of_isBelow (isBelow_of_mem_dirsBetween inside) rfl
    rw [lookup', if_neg rootFree]
    exact extracted.rootDir
  · intro key inRoot
    rw [lookup']
    split
    · rename_i needed
      refine (isoNode_dir (List.mem_append_right done (List.mem_singleton_self (IsoEntry.dir path)))
        needed ?_).symm
      rw [lastIsoFile_concat, apart key needed]
      rfl
    · rw [isoNode_concat_of_covered (.dir path) rfl fun needed => absurd needed ‹_›]
      exact extracted.belowRoot key inRoot

theorem Extracted.file (extracted : Extracted start extractDir done host) {content : Bytes}
    (below : staysBelow path = true)
    (parent : (pathParts path).dropLast = [] ∨
      ∃ entry ∈ done, keyOf (resolve extractDir ++ (pathParts path).dropLast) ∈ entry.dirs extractDir)
    (notDir : ∀ entry ∈ done, locate (joinPath extractDir path) ∉ entry.dirs extractDir)
    (apart : ∀ key ∈ (IsoEntry.file path content).dirs extractDir,
      lastIsoFile extractDir done key = none) :
    (∃ host', writeBytes fs (joinPath extractDir path) content host = .ok () host' ∧
      Extracted start extractDir (done ++ [.file path content]) host') ∨
    ∃ e host' n leftover, writeBytes fs (joinPath extractDir path) content host = .error e host' ∧
      fs.writeFailure n = some (e, leftover) := by
  have named := (staysBelow_iff.1 below).2.1
  have target : isBelow (locate extractDir) (locate (joinPath extractDir path)) = true :=
    isBelow_locate_joinPath below
  have plainParent := plain_below extractDir (List.dropLast_prefix (pathParts path))
  have covered : ∀ key ∈ (IsoEntry.file path content).dirs extractDir,
      ∃ entry ∈ done, key ∈ entry.dirs extractDir := by
    intro key needed
    obtain ⟨mid, namedMid, above, rfl⟩ := mem_dirsBetween.1 needed
    rcases parent with top | ⟨entry, member, inside⟩
    · simp only [IsoEntry.tail, top, List.prefix_nil] at above
      exact absurd above namedMid
    · obtain ⟨-, parentInside⟩ := (keyOf_mem_dirs plainParent).1 inside
      exact ⟨entry, member, (keyOf_mem_dirs (plain_below extractDir
        (above.trans (List.dropLast_prefix _)))).2 ⟨namedMid, above.trans parentInside⟩⟩
  have notDir' : host.lookup (locate (joinPath extractDir path)) ≠ some .dir := by
    rw [extracted.belowRoot _ target, isoNode]
    split
    · simp
    · rw [if_neg fun ⟨entry, member, inside⟩ => notDir entry member inside]
      simp
  have parentDir :
      host.lookup (keyOf (resolve (joinPath extractDir path)).dropLast) = some .dir := by
    rw [resolve_joinPath below, List.dropLast_append_of_ne_nil _ named]
    by_cases top : (pathParts path).dropLast = []
    · rw [top, List.append_nil]
      exact extracted.rootDir
    · have needed : keyOf (resolve extractDir ++ (pathParts path).dropLast) ∈
          (IsoEntry.file path content).dirs extractDir :=
        (keyOf_mem_dirs plainParent).2 ⟨top, List.prefix_rfl⟩
      obtain ⟨entry, member, inside⟩ := covered _ needed
      rw [extracted.belowRoot _ (isBelow_of_mem_dirs needed)]
      exact isoNode_dir member inside (apart _ needed)
  rw [writeBytes_checked notDir' parentDir]
  cases failed : fs.writeFailure host.draws with
  | none =>
      refine .inl ⟨_, rfl, ?_, ?_, ?_⟩
      · intro key away
        have other : key ≠ locate (joinPath extractDir path) := by
          rintro rfl
          rw [outside_of_isBelow target] at away
          cases away
        rw [Host.lookup_put, if_neg other, Host.lookup_draw]
        exact extracted.outsideKept key away
      · rw [Host.lookup_put, if_neg (Ne.symm (ne_of_isBelow target)), Host.lookup_draw]
        exact extracted.rootDir
      · intro key inRoot
        rw [Host.lookup_put, Host.lookup_draw]
        split
        · rename_i hit
          simp [isoNode, lastIsoFile_concat, IsoEntry.bytesAt, hit]
        · rename_i miss
          rw [isoNode_concat_of_covered (.file path content) (by simp [IsoEntry.bytesAt, Ne.symm miss])
            (covered key)]
          exact extracted.belowRoot key inRoot
  | some outcome =>
      obtain ⟨e, leftover⟩ := outcome
      exact .inr ⟨e, _, host.draws, leftover, rfl, failed⟩

theorem extractEntries_extracted :
    ∀ (rest done : List IsoEntry) {host : Host}, Extracted start extractDir done host →
      TopDown extractDir (done ++ rest) →
      (∃ host', extractEntries fs extractDir rest host = .ok () host' ∧
        Extracted start extractDir (done ++ rest) host') ∨
      ∃ e host' n leftover, extractEntries fs extractDir rest host = .error e host' ∧
        fs.writeFailure n = some (e, leftover)
  | [], done, host, extracted, _ => .inl ⟨host, rfl, by rwa [List.append_nil]⟩
  | entry :: rest, done, host, extracted, walk => by
      have shifted : done ++ [entry] ++ rest = done ++ entry :: rest := by simp
      have mem : entry ∈ done ++ entry :: rest := by simp
      have earlier : ∀ other ∈ done, other ∈ done ++ entry :: rest := fun _ => List.mem_append_left _
      have walk' : TopDown extractDir (done ++ [entry] ++ rest) := shifted ▸ walk
      have apart : ∀ key ∈ entry.dirs extractDir, lastIsoFile extractDir done key = none :=
        fun key needed => lastIsoFile_eq_none fun path content member lands =>
          walk.filesApart path content (earlier _ member) entry mem (lands ▸ needed)
      cases entry with
      | dir path =>
          obtain ⟨host₁, made, extracted₁⟩ := extracted.dir (walk.below _ mem) apart
          rcases extractEntries_extracted rest _ extracted₁ walk' with
            ⟨host', ran, extracted'⟩ | ⟨e, host', n, leftover, raised, failed⟩
          · exact .inl ⟨host', (run_bind_ok made).trans ran, shifted ▸ extracted'⟩
          · exact .inr ⟨e, host', n, leftover, (run_bind_ok made).trans raised, failed⟩
      | file path content =>
          have made := walk.parentFirst ⟨done.length, by simp⟩
          simp only [List.take_left', List.get_eq_getElem, List.getElem_append_right (le_refl _),
            Nat.sub_self, List.getElem_cons_zero, ParentMade] at made
          rcases extracted.file (walk.below _ mem) made
              (fun other member => walk.filesApart path content mem other (earlier _ member))
              apart with
            ⟨host₁, wrote, extracted₁⟩ | ⟨e, host₁, n, leftover, raised, failed⟩
          · rcases extractEntries_extracted rest _ extracted₁ walk' with
              ⟨host', ran, extracted'⟩ | ⟨e, host', n, leftover, raised, failed⟩
            · exact .inl ⟨host', (run_bind_ok wrote).trans ran, shifted ▸ extracted'⟩
            · exact .inr ⟨e, host', n, leftover, (run_bind_ok wrote).trans raised, failed⟩
          · exact .inr ⟨e, host₁, n, leftover, run_bind_error raised, failed⟩

end Loop

section ExtractIso

variable {tools : BootTools} {fs : FileSystem} {host : Host} {isoPath extractDir : String}
  {image : Bytes} {entries : List IsoEntry}

theorem extractIso_extracted (found : host.lookup (locate isoPath) = some (.file image))
    (read : tools.readIso image = .ok entries) (walk : TopDown extractDir entries)
    (isDir : host.lookup (locate extractDir) = some .dir)
    (empty : ∀ key, isBelow (locate extractDir) key = true → host.lookup key = none) :
    (∃ host', extractIso tools fs isoPath extractDir host = .ok () host' ∧
      Extracted host extractDir entries host') ∨
    ∃ e host' n leftover, extractIso tools fs isoPath extractDir host = .error e host' ∧
      fs.writeFailure n = some (e, leftover) := by
  have ran : extractIso tools fs isoPath extractDir host = extractEntries fs extractDir entries host := by
    rw [extractIso, run_bind_ok (readFile_file found), read]
    rfl
  rw [ran]
  simpa only [List.nil_append] using
    @extractEntries_extracted fs host extractDir entries [] host (extracted_nil isDir empty)
      (by rwa [List.nil_append])

/-- `_extract_iso` into an empty directory returns with `isoNode` below it and the host unchanged
elsewhere, or raises a write's error. -/
theorem extractIso_tree (found : host.lookup (locate isoPath) = some (.file image))
    (read : tools.readIso image = .ok entries) (walk : TopDown extractDir entries)
    (isDir : host.lookup (locate extractDir) = some .dir)
    (empty : ∀ key, isBelow (locate extractDir) key = true → host.lookup key = none) :
    (∃ host', extractIso tools fs isoPath extractDir host = .ok () host' ∧
      ∀ key, host'.lookup key =
        if isBelow (locate extractDir) key then isoNode extractDir entries key
        else host.lookup key) ∨
    ∃ e host' n leftover, extractIso tools fs isoPath extractDir host = .error e host' ∧
      fs.writeFailure n = some (e, leftover) := by
  refine (extractIso_extracted found read walk isDir empty).imp
    (fun ⟨host', ran, extracted⟩ => ⟨host', ran, fun key => ?_⟩) id
  split
  · exact extracted.belowRoot key ‹_›
  · by_cases root : key = locate extractDir
    · rw [root, extracted.rootDir, isDir]
    · exact extracted.outsideKept key ((outside_or_isBelow root).resolve_right ‹_›)

end ExtractIso

def deployIsoEntries : List IsoEntry :=
  [.dir "EFI", .file "README" [0], .dir "EFI/BOOT", .file "EFI/BOOT/efiboot.img" [1],
    .file "EFI/BOOT/grub.cfg" [2]]

def isoTools : BootTools := { failingTools with readIso := fun _ => .ok deployIsoEntries }

def isoHost : Host := ⟨[("/tmp/mnt", .dir), ("/deploy/deploy.iso", .file [9])], [], 0⟩

theorem deployIsoEntries_topDown : TopDown "/tmp/mnt" deployIsoEntries where
  below := by decide
  parentFirst := by decide
  filesApart := by
    intro path content member
    simp only [deployIsoEntries, List.mem_cons, List.mem_singleton, List.not_mem_nil, or_false,
      reduceCtorEq, IsoEntry.file.injEq, false_or] at member
    rcases member with ⟨rfl, rfl⟩ | ⟨rfl, rfl⟩ | ⟨rfl, rfl⟩ <;> decide

theorem isoHost_empty : ∀ key, isBelow (locate "/tmp/mnt") key = true → isoHost.lookup key = none := by
  intro key inRoot
  have notRoot : key ≠ "/tmp/mnt" := ne_of_isBelow inRoot
  have notIso : key ≠ "/deploy/deploy.iso" := by rintro rfl; exact absurd inRoot (by decide)
  simp [isoHost, Host.lookup, Ne.symm notRoot, Ne.symm notIso]

example : isoNode "/tmp/mnt" deployIsoEntries "/tmp/mnt/EFI/BOOT/grub.cfg" = some (.file [2]) := by
  decide

theorem extractIso_tree_deploy :
    isoHost.lookup (locate "/deploy/deploy.iso") = some (.file [9]) ∧
      isoTools.readIso [9] = .ok deployIsoEntries ∧ TopDown "/tmp/mnt" deployIsoEntries ∧
      isoHost.lookup (locate "/tmp/mnt") = some .dir ∧
      (∀ key, isBelow (locate "/tmp/mnt") key = true → isoHost.lookup key = none) ∧
      ((∃ host', extractIso isoTools workFs "/deploy/deploy.iso" "/tmp/mnt" isoHost = .ok () host' ∧
        ∀ key, host'.lookup key =
          if isBelow (locate "/tmp/mnt") key then isoNode "/tmp/mnt" deployIsoEntries key
          else isoHost.lookup key) ∨
      ∃ e host' n leftover, extractIso isoTools workFs "/deploy/deploy.iso" "/tmp/mnt" isoHost =
          .error e host' ∧ workFs.writeFailure n = some (e, leftover)) :=
  ⟨rfl, rfl, deployIsoEntries_topDown, rfl, isoHost_empty,
    extractIso_tree rfl rfl deployIsoEntries_topDown rfl isoHost_empty⟩

end Ironic
