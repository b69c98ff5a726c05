import Ironic.IsoContents

/-!
What `_get_deploy_iso_files` finds in the deploy ISO. `Path.rglob` lists the files the host has
below `mountdir`, so the model reads them off the host's entries, not through `lookup`. The two
agree while no two entries name one path below `mountdir` (`DistinctBelow`): an empty
`mountdir` starts so and every write keeps it. On top of `Extracted`, the tree the extraction
leaves, this gives the two outcomes: the EFI boot image and `grub.cfg` are returned exactly when
the ISO holds files of those names, and otherwise `mountdir` is removed and
`ImageCreationFailed` raised.
-/

namespace Ironic

/-! ## Paths below a directory named once -/

/-- Whether no two entries of the host name one path below `dir`, as on a real file system. -/
def DistinctBelow (dir : String) (host : Host) : Prop :=
  ((host.entries.map Prod.fst).filter (isBelow dir)).Nodup

/-- Whether every run of `x` from a host where `inv` holds ends, returning or raising, in a host
where it still holds. -/
def Preserves {α : Type} (inv : Host → Prop) (x : Run α) : Prop :=
  ∀ host, inv host → inv (after (x host))

section Distinct

variable {dir key : String} {host : Host}

theorem DistinctBelow.put (distinct : DistinctBelow dir host) (node : Node) :
    DistinctBelow dir (host.put key node) := by
  have erased : (((host.erase key).entries.map Prod.fst).filter (isBelow dir)).Sublist
      ((host.entries.map Prod.fst).filter (isBelow dir)) :=
    ((List.filter_sublist _).map _).filter _
  have fresh : key ∉ (host.erase key).entries.map Prod.fst := by
    simp [Host.erase, Host.keep]
  simp only [DistinctBelow, Host.put, List.map_cons, List.filter_cons]
  split
  · exact List.nodup_cons.2 ⟨fun mem => fresh (List.mem_of_mem_filter mem), distinct.sublist erased⟩
  · exact distinct.sublist erased

theorem DistinctBelow.leave (distinct : DistinctBelow dir host) (leftover : Option Bytes) :
    DistinctBelow dir (host.leave key leftover) := by
  cases leftover with
  | none => exact distinct
  | some content => exact distinct.put _

theorem distinctBelow_of_empty (empty : ∀ key, isBelow dir key = true → host.lookup key = none) :
    DistinctBelow dir host := by
  rw [DistinctBelow, List.filter_eq_nil_iff.2 fun key mem below => ?_]
  · exact List.nodup_nil
  · obtain ⟨entry, member, rfl⟩ := List.mem_map.1 mem
    have missing := empty entry.1 below
    simp only [Host.lookup, Option.map_eq_none', List.find?_eq_none] at missing
    exact missing entry member (beq_self_eq_true _)

theorem Host.mem_of_lookup {node : Node} (found : host.lookup key = some node) :
    (key, node) ∈ host.entries := by
  obtain ⟨entry, hit, rfl⟩ := Option.map_eq_some'.1 found
  have same : entry.1 = key := by simpa using List.find?_some hit
  exact same ▸ List.mem_of_find?_eq_some hit

theorem DistinctBelow.lookup_of_mem (distinct : DistinctBelow dir host)
    (below : isBelow dir key = true) {node : Node} (member : (key, node) ∈ host.entries) :
    host.lookup key = some node := by
  obtain ⟨entries, events, draws⟩ := host
  simp only [DistinctBelow, Host.lookup] at distinct member ⊢
  induction entries with
  | nil => cases member
  | cons entry rest ih =>
      simp only [List.map_cons, List.filter_cons] at distinct
      have distinct' : ((rest.map Prod.fst).filter (isBelow dir)).Nodup := by
        split at distinct
        · exact distinct.of_cons
        · exact distinct
      by_cases hit : entry.1 = key
      · rcases List.mem_cons.1 member with rfl | later
        · simp
        · rw [hit, if_pos below] at distinct
          exact absurd (List.mem_filter.2 ⟨List.mem_map_of_mem Prod.fst later, below⟩)
            (List.nodup_cons.1 distinct).1
      · have later := (List.mem_cons.1 member).resolve_left fun same => hit (by rw [← same])
        simpa [List.find?_cons, hit] using ih distinct' later

end Distinct

section Preserves

variable {α β : Type} {inv : Host → Prop}

theorem Preserves.of_same {x : Run α} (same : ∀ host, after (x host) = host) : Preserves inv x :=
  fun host holds => (same host).symm ▸ holds

theorem Preserves.bind {x : Run α} {f : α → Run β} (first : Preserves inv x)
    (rest : ∀ a, Preserves inv (f a)) : Preserves inv (x >>= f) := by
  intro host holds
  have holds' := first host holds
  cases ran : x host with
  | ok a s =>
      rw [ran, after_ok] at holds'
      rw [run_bind_ok ran]
      exact rest a s holds'
  | error e s =>
      rw [ran, after_error] at holds'
      rwa [run_bind_error ran]

theorem Preserves.handle {x : Run α} {handler : Error → Run α} (body : Preserves inv x)
    (handled : ∀ e, Preserves inv (handler e)) : Preserves inv (tryCatch x handler) := by
  intro host holds
  have holds' := body host holds
  cases ran : x host with
  | ok a s =>
      rw [ran, after_ok] at holds'
      rwa [run_tryCatch_ok ran]
  | error e s =>
      rw [ran, after_error] at holds'
      rw [run_tryCatch_error ran]
      exact handled e s holds'

end Preserves

/-! ## Every write of the extraction keeps paths below a directory distinct -/

section Writes

variable {dir : String}

theorem mkdirOnce_distinct (place : Place) : Preserves (DistinctBelow dir) (mkdirOnce place) := by
  intro host distinct
  simp only [mkdirOnce]
  split_ifs
  all_goals first | exact distinct | exact distinct.put _

theorem existOk_distinct {place : Place} {x : Run Unit} (body : Preserves (DistinctBelow dir) x) :
    Preserves (DistinctBelow dir) (existOk place x) :=
  body.handle fun _ => Preserves.of_same fun _ => by split <;> rfl

theorem mkdirParents_distinct : ∀ inner : List String, Preserves (DistinctBelow dir) (mkdirParents inner)
  | [] => Preserves.of_same fun _ => rfl
  | name :: outer => (mkdirOnce_distinct _).handle fun error => by
      cases error
      case fileNotFound =>
        exact (mkdirParents_distinct outer).bind fun _ => existOk_distinct (mkdirOnce_distinct _)
      all_goals exact existOk_distinct (Preserves.of_same fun _ => rfl)

theorem writeBytes_distinct (fs : FileSystem) (path : String) (content : Bytes) :
    Preserves (DistinctBelow dir) (writeBytes fs path content) := by
  intro host distinct
  simp only [writeBytes]
  split_ifs
  all_goals try exact distinct
  split
  · exact (show DistinctBelow dir host.draw from distinct).put _
  · exact (show DistinctBelow dir host.draw from distinct).leave _

theorem extractEntries_distinct (fs : FileSystem) (extractDir : String) :
    ∀ entries, Preserves (DistinctBelow dir) (extractEntries fs extractDir entries)
  | [] => Preserves.of_same fun _ => rfl
  | .dir _ :: rest => (mkdirParents_distinct _).bind fun _ => extractEntries_distinct fs extractDir rest
  | .file _ content :: rest =>
      (writeBytes_distinct fs _ content).bind fun _ => extractEntries_distinct fs extractDir rest

theorem extractIso_distinct (tools : BootTools) (fs : FileSystem) (isoPath extractDir : String) :
    Preserves (DistinctBelow dir) (extractIso tools fs isoPath extractDir) := by
  refine (Preserves.of_same fun host => ?_).bind fun image =>
    (Preserves.of_same fun _ => ?_).bind (extractEntries_distinct fs extractDir)
  · simp only [readFile]; split <;> rfl
  · cases tools.readIso image <;> rfl

end Writes

/-! ## What `rglob` finds -/

/-- The path of `key` relative to `directory`, as `filesBelow` computes it for `rglob`. -/
def relativeTo (directory key : String) : String :=
  ⟨key.data.drop (locate directory ++ "/").data.length⟩

/-- Whether the ISO holds a file called `name`. -/
def HasIsoFile (entries : List IsoEntry) (name : String) : Prop :=
  ∃ path content, IsoEntry.file path content ∈ entries ∧ baseName path = name

/-- Whether `rel` is, component for component, the path of a file of the ISO called `name`. -/
def IsoFileAt (entries : List IsoEntry) (name rel : String) : Prop :=
  ∃ path content, IsoEntry.file path content ∈ entries ∧ baseName path = name ∧
    pathParts rel = pathParts path

section Found

variable {directory path name : String} {host : Host}

theorem mem_filesBelow {item : String × String} :
    item ∈ filesBelow directory host ↔ ∃ key content, (key, Node.file content) ∈ host.entries ∧
      isBelow (locate directory) key = true ∧
      item = (joinPath directory (relativeTo directory key), relativeTo directory key) := by
  simp only [filesBelow, List.mem_filterMap]
  constructor
  · rintro ⟨⟨key, node⟩, member, landed⟩
    cases node with
    | dir => cases landed
    | file content =>
        dsimp only at landed
        split at landed
        · exact ⟨key, content, member, ‹_›, (Option.some.inj landed).symm⟩
        · cases landed
  · rintro ⟨key, content, member, below, rfl⟩
    exact ⟨(key, .file content), member, by simp only [isBelow] at below; simp only [below,
      ↓reduceIte, relativeTo]⟩

theorem relativeTo_joinPath (below : staysBelow path = true) :
    isAbsolute (relativeTo directory (locate (joinPath directory path))) = false ∧
      pathParts (relativeTo directory (locate (joinPath directory path))) = pathParts path := by
  obtain ⟨-, named, -⟩ := staysBelow_iff.1 below
  obtain ⟨name, rest, parts⟩ := List.exists_cons_of_ne_nil named
  have plain := pathParts_plain path
  have kept : (pathParts path).filter (fun part => part != "" && part != ".") = pathParts path :=
    List.filter_eq_self.2 fun _ mem => (List.mem_filter.1 mem).2
  have nonempty : name ≠ "" := by
    have filtered := (List.mem_filter.1 (parts ▸ List.mem_cons_self name rest : name ∈ pathParts path)).2
    simp only [Bool.and_eq_true, bne_iff_ne] at filtered
    exact filtered.1
  rw [parts] at plain kept
  have data : (relativeTo directory (locate (joinPath directory path))).data =
      name.data ++ (keyOf rest).data := by
    rw [relativeTo, show (locate (joinPath directory path)).data =
        (locate directory ++ "/").data ++ (name.data ++ (keyOf rest).data) by
      simp [locate, resolve_joinPath below, keyOf_append, parts, keyOf], List.drop_left]
  refine ⟨?_, ?_⟩
  · obtain ⟨first, chars, spelt⟩ := List.exists_cons_of_ne_nil fun empty : name.data = [] =>
      nonempty (String.ext empty)
    have notSlash : first ≠ '/' := fun same => plain name (.head _) (spelt ▸ same ▸ .head _)
    simp [isAbsolute, data, spelt, notSlash]
  · rw [pathParts, data, splitSlash_append_plain _ _ _ (plain name (.head _)), List.append_nil,
      splitSlash_keyOf (fun other mem => plain other (.tail _ mem)), List.reverse_reverse, parts]
    exact kept

theorem staysBelow_of_pathParts {rel : String} (below : staysBelow path = true)
    (relative : isAbsolute rel = false) (same : pathParts rel = pathParts path) :
    staysBelow rel = true ∧ ∀ root, locate (joinPath root rel) = locate (joinPath root path) := by
  obtain ⟨-, named, down⟩ := staysBelow_iff.1 below
  have below' : staysBelow rel = true := staysBelow_iff.2 ⟨relative, same ▸ named, same ▸ down⟩
  exact ⟨below', fun root => by rw [locate_joinPath below', locate_joinPath below, same]⟩

theorem lastNamed_eq_some {found : List (String × String)} {item : String × String}
    (named : lastNamed name found = some item) : item ∈ found ∧ baseName item.2 = name := by
  simpa using List.mem_filter.1 (List.mem_of_getLast?_eq_some named)

theorem lastNamed_eq_none {found : List (String × String)} :
    lastNamed name found = none ↔ ∀ item ∈ found, baseName item.2 ≠ name := by
  simp [lastNamed, List.getLast?_eq_none_iff, List.filter_eq_nil_iff]

variable {start : Host} {entries : List IsoEntry}

theorem mem_filesBelow_extracted (extracted : Extracted start directory entries host)
    (distinct : DistinctBelow (locate directory) host) (walk : TopDown directory entries)
    {item : String × String} :
    item ∈ filesBelow directory host ↔ ∃ path content, IsoEntry.file path content ∈ entries ∧
      item = (joinPath directory (relativeTo directory (locate (joinPath directory path))),
        relativeTo directory (locate (joinPath directory path))) := by
  rw [mem_filesBelow]
  constructor
  · rintro ⟨key, content, member, below, rfl⟩
    have landed := (distinct.lookup_of_mem below member).symm.trans (extracted.belowRoot key below)
    cases last : lastIsoFile directory entries key with
    | none =>
        simp [isoNode, last] at landed
    | some bytes =>
        obtain ⟨path, member', rfl⟩ := lastIsoFile_eq_some last
        exact ⟨path, bytes, member', rfl⟩
  · rintro ⟨path, content, member, rfl⟩
    have stays : staysBelow path = true := walk.below _ member
    have below : isBelow (locate directory) (locate (joinPath directory path)) = true :=
      isBelow_locate_joinPath stays
    cases last : lastIsoFile directory entries (locate (joinPath directory path)) with
    | none =>
        have missed := List.findSome?_eq_none_iff.1 last _ (List.mem_reverse.2 member)
        simp [IsoEntry.bytesAt] at missed
    | some bytes =>
        have landed : host.lookup (locate (joinPath directory path)) = some (.file bytes) := by
          rw [extracted.belowRoot _ below, isoNode, last]
        exact ⟨_, bytes, Host.mem_of_lookup landed, below, rfl⟩

theorem lastNamed_extracted (name : String) (extracted : Extracted start directory entries host)
    (distinct : DistinctBelow (locate directory) host) (walk : TopDown directory entries) :
    (∀ item, lastNamed name (filesBelow directory host) = some item →
      item.1 = joinPath directory item.2 ∧ IsoFileAt entries name item.2 ∧
        isAbsolute item.2 = false) ∧
    ((lastNamed name (filesBelow directory host)).isSome ↔ HasIsoFile entries name) := by
  have listed := @mem_filesBelow_extracted directory host start entries extracted distinct walk
  have renamed : ∀ {path content}, IsoEntry.file path content ∈ entries →
      baseName (relativeTo directory (locate (joinPath directory path))) = baseName path := by
    intro path content member
    have stays : staysBelow path = true := walk.below _ member
    rw [baseName, baseName, (relativeTo_joinPath stays).2]
  have namedAt : ∀ item, lastNamed name (filesBelow directory host) = some item →
      item.1 = joinPath directory item.2 ∧ IsoFileAt entries name item.2 ∧
        isAbsolute item.2 = false := by
    intro item named
    obtain ⟨member, called⟩ := lastNamed_eq_some named
    obtain ⟨path, content, member', rfl⟩ := listed.1 member
    exact ⟨rfl, ⟨path, content, member', (renamed member').symm.trans called,
      (relativeTo_joinPath (walk.below _ member')).2⟩, (relativeTo_joinPath (walk.below _ member')).1⟩
  refine ⟨namedAt, fun some => ?_, fun ⟨path, content, member, called⟩ => ?_⟩
  · obtain ⟨item, named⟩ := Option.isSome_iff_exists.1 some
    obtain ⟨path, content, member, called, -⟩ := (namedAt item named).2.1
    exact ⟨path, content, member, called⟩
  · exact Option.isSome_iff_ne_none.2 fun none => lastNamed_eq_none.1 none _
      (listed.2 ⟨path, content, member, rfl⟩) ((renamed member).trans called)

end Found

/-! ## `_get_deploy_iso_files` -/

section GetDeployIsoFiles

variable {tools : BootTools} {fs : FileSystem} {host host' : Host} {deployIso mountdir : String}
  {image : Bytes} {entries : List IsoEntry}

theorem getDeployIsoFiles_extract_failed {e : Error}
    (raised : extractIso tools fs deployIso mountdir host = .error e host') :
    getDeployIsoFiles tools fs deployIso mountdir host =
      .error (.imageCreationFailed "iso" e) host' := by
  rw [getDeployIsoFiles]
  exact run_bind_error ((run_tryCatch_error raised).trans rfl)

theorem distinctBelow_extracted (ran : extractIso tools fs deployIso mountdir host = .ok () host')
    (empty : ∀ key, isBelow (locate mountdir) key = true → host.lookup key = none) :
    DistinctBelow (locate mountdir) host' := by
  have kept := extractIso_distinct tools fs deployIso mountdir host (distinctBelow_of_empty empty)
  rwa [ran] at kept

theorem getDeployIsoFiles_extracted (found : host.lookup (locate deployIso) = some (.file image))
    (read : tools.readIso image = .ok entries) (walk : TopDown mountdir entries)
    (isDir : host.lookup (locate mountdir) = some .dir)
    (empty : ∀ key, isBelow (locate mountdir) key = true → host.lookup key = none)
    (hasImg : HasIsoFile entries "efiboot.img") (hasCfg : HasIsoFile entries "grub.cfg") :
    (∃ host' eImgRelPath grubRelPath, extractIso tools fs deployIso mountdir host = .ok () host' ∧
      Extracted host mountdir entries host' ∧
      getDeployIsoFiles tools fs deployIso mountdir host =
        .ok (setItem (setItem [] (.path (joinPath mountdir eImgRelPath)) eImgRelPath)
          (.path (joinPath mountdir grubRelPath)) grubRelPath, eImgRelPath, grubRelPath) host' ∧
      (IsoFileAt entries "efiboot.img" eImgRelPath ∧ isAbsolute eImgRelPath = false) ∧
      IsoFileAt entries "grub.cfg" grubRelPath ∧ isAbsolute grubRelPath = false) ∨
    ∃ e host' n leftover, getDeployIsoFiles tools fs deployIso mountdir host =
        .error (.imageCreationFailed "iso" e) host' ∧ fs.writeFailure n = some (e, leftover) := by
  rcases @extractIso_extracted tools fs _ _ _ _ _ found read walk isDir empty with
    ⟨host', ran, extracted⟩ | ⟨e, host', n, leftover, raised, failed⟩
  · have distinct := distinctBelow_extracted ran empty
    obtain ⟨imgAt, imgSome⟩ := lastNamed_extracted "efiboot.img" extracted distinct walk
    obtain ⟨cfgAt, cfgSome⟩ := lastNamed_extracted "grub.cfg" extracted distinct walk
    obtain ⟨⟨eImgPath, eImgRelPath⟩, imgFound⟩ := Option.isSome_iff_exists.1 (imgSome.2 hasImg)
    obtain ⟨⟨grubPath, grubRelPath⟩, cfgFound⟩ := Option.isSome_iff_exists.1 (cfgSome.2 hasCfg)
    obtain ⟨rfl, eImgAt⟩ : eImgPath = joinPath mountdir eImgRelPath ∧
        IsoFileAt entries "efiboot.img" eImgRelPath ∧ isAbsolute eImgRelPath = false :=
      imgAt _ imgFound
    obtain ⟨rfl, grubAt⟩ : grubPath = joinPath mountdir grubRelPath ∧
        IsoFileAt entries "grub.cfg" grubRelPath ∧ isAbsolute grubRelPath = false :=
      cfgAt _ cfgFound
    refine .inl ⟨host', eImgRelPath, grubRelPath, ran, extracted, ?_, eImgAt, grubAt⟩
    rw [getDeployIsoFiles, run_bind_ok (run_tryCatch_ok ran), run_bind_ok (show
      reading (filesBelow mountdir) host' = .ok (filesBelow mountdir host') host' from rfl),
      imgFound, cfgFound]
    rfl
  · exact .inr ⟨e, host', n, leftover, getDeployIsoFiles_extract_failed raised, failed⟩

/-- `_get_deploy_iso_files` on an ISO with an `efiboot.img` and a `grub.cfg` returns a file of the
ISO of each name, or raises `ImageCreationFailed` for a failed write. -/
theorem getDeployIsoFiles_found (found : host.lookup (locate deployIso) = some (.file image))
    (read : tools.readIso image = .ok entries) (walk : TopDown mountdir entries)
    (isDir : host.lookup (locate mountdir) = some .dir)
    (empty : ∀ key, isBelow (locate mountdir) key = true → host.lookup key = none)
    (hasImg : HasIsoFile entries "efiboot.img") (hasCfg : HasIsoFile entries "grub.cfg") :
    (∃ host' eImgRelPath grubRelPath, extractIso tools fs deployIso mountdir host = .ok () host' ∧
      getDeployIsoFiles tools fs deployIso mountdir host =
        .ok (setItem (setItem [] (.path (joinPath mountdir eImgRelPath)) eImgRelPath)
          (.path (joinPath mountdir grubRelPath)) grubRelPath, eImgRelPath, grubRelPath) host' ∧
      IsoFileAt entries "efiboot.img" eImgRelPath ∧ IsoFileAt entries "grub.cfg" grubRelPath) ∨
    ∃ e host' n leftover, getDeployIsoFiles tools fs deployIso mountdir host =
        .error (.imageCreationFailed "iso" e) host' ∧ fs.writeFailure n = some (e, leftover) :=
  (getDeployIsoFiles_extracted found read walk isDir empty hasImg hasCfg).imp
    (fun ⟨host', eImgRelPath, grubRelPath, ran, _, got, ⟨eImgAt, _⟩, grubAt, _⟩ =>
      ⟨host', eImgRelPath, grubRelPath, ran, got, eImgAt, grubAt⟩) id

theorem getDeployIsoFiles_found_deploy :
    isoHost.lookup (locate "/deploy/deploy.iso") = some (.file [9]) ∧
      isoTools.readIso [9] = .ok deployIsoEntries ∧ TopDown "/tmp/mnt" deployIsoEntries ∧
      isoHost.lookup (locate "/tmp/mnt") = some .dir ∧
      (∀ key, isBelow (locate "/tmp/mnt") key = true → isoHost.lookup key = none) ∧
      HasIsoFile deployIsoEntries "efiboot.img" ∧ HasIsoFile deployIsoEntries "grub.cfg" ∧
      ((∃ host' eImgRelPath grubRelPath,
        extractIso isoTools workFs "/deploy/deploy.iso" "/tmp/mnt" isoHost = .ok () host' ∧
        getDeployIsoFiles isoTools workFs "/deploy/deploy.iso" "/tmp/mnt" isoHost =
          .ok (setItem (setItem [] (.path (joinPath "/tmp/mnt" eImgRelPath)) eImgRelPath)
            (.path (joinPath "/tmp/mnt" grubRelPath)) grubRelPath, eImgRelPath, grubRelPath) host' ∧
        IsoFileAt deployIsoEntries "efiboot.img" eImgRelPath ∧
        IsoFileAt deployIsoEntries "grub.cfg" grubRelPath) ∨
      ∃ e host' n leftover, getDeployIsoFiles isoTools workFs "/deploy/deploy.iso" "/tmp/mnt" isoHost =
          .error (.imageCreationFailed "iso" e) host' ∧ workFs.writeFailure n = some (e, leftover)) := by
  have hasImg : HasIsoFile deployIsoEntries "efiboot.img" :=
    ⟨"EFI/BOOT/efiboot.img", [1], by simp [deployIsoEntries], by decide⟩
  have hasCfg : HasIsoFile deployIsoEntries "grub.cfg" :=
    ⟨"EFI/BOOT/grub.cfg", [2], by simp [deployIsoEntries], by decide⟩
  exact ⟨rfl, rfl, deployIsoEntries_topDown, rfl, isoHost_empty, hasImg, hasCfg,
    getDeployIsoFiles_found rfl rfl deployIsoEntries_topDown rfl isoHost_empty hasImg hasCfg⟩

/-- `_get_deploy_iso_files` on an ISO without an `efiboot.img` or a `grub.cfg` removes what it
extracted and raises `ImageCreationFailed`. -/
theorem getDeployIsoFiles_missing (found : host.lookup (locate deployIso) = some (.file image))
    (read : tools.readIso image = .ok entries) (walk : TopDown mountdir entries)
    (isDir : host.lookup (locate mountdir) = some .dir)
    (empty : ∀ key, isBelow (locate mountdir) key = true → host.lookup key = none)
    (missing : ¬(HasIsoFile entries "efiboot.img" ∧ HasIsoFile entries "grub.cfg")) :
    (∃ host', extractIso tools fs deployIso mountdir host = .ok () host' ∧
      getDeployIsoFiles tools fs deployIso mountdir host =
        .error (.imageCreationFailed "iso" (.message "Deploy iso didn't contain efiboot.img or grub.cfg"))
          (host'.removeTree (locate mountdir))) ∨
    ∃ e host' n leftover, getDeployIsoFiles tools fs deployIso mountdir host =
        .error (.imageCreationFailed "iso" e) host' ∧ fs.writeFailure n = some (e, leftover) := by
  rcases @extractIso_extracted tools fs _ _ _ _ _ found read walk isDir empty with
    ⟨host', ran, extracted⟩ | ⟨e, host', n, leftover, raised, failed⟩
  · have distinct := distinctBelow_extracted ran empty
    have imgSome := (lastNamed_extracted "efiboot.img" extracted distinct walk).2
    have cfgSome := (lastNamed_extracted "grub.cfg" extracted distinct walk).2
    have removed : rmtree mountdir host' = .ok () (host'.removeTree (locate mountdir)) := by
      simp only [rmtree, extracted.rootDir]
    refine .inl ⟨host', ran, ?_⟩
    rw [getDeployIsoFiles, run_bind_ok (run_tryCatch_ok ran), run_bind_ok (show
      reading (filesBelow mountdir) host' = .ok (filesBelow mountdir host') host' from rfl)]
    rcases imgFound : lastNamed "efiboot.img" (filesBelow mountdir host') with _ | ⟨eImgPath, eImgRelPath⟩
    · exact run_bind_ok removed
    rcases cfgFound : lastNamed "grub.cfg" (filesBelow mountdir host') with _ | ⟨grubPath, grubRelPath⟩
    · exact run_bind_ok removed
    exact absurd ⟨imgSome.1 (by rw [imgFound]; rfl), cfgSome.1 (by rw [cfgFound]; rfl)⟩ missing
  · exact .inr ⟨e, host', n, leftover, getDeployIsoFiles_extract_failed raised, failed⟩

def efiOnlyEntries : List IsoEntry :=
  [.dir "EFI", .dir "EFI/BOOT", .file "EFI/BOOT/efiboot.img" [1]]

def efiOnlyTools : BootTools := { failingTools with readIso := fun _ => .ok efiOnlyEntries }

theorem efiOnlyEntries_topDown : TopDown "/tmp/mnt" efiOnlyEntries where
  below := by decide
  parentFirst := by decide
  filesApart := by
    intro path content member
    simp only [efiOnlyEntries, List.mem_cons, List.mem_singleton, List.not_mem_nil, or_false,
      reduceCtorEq, IsoEntry.file.injEq, false_or] at member
    obtain ⟨rfl, rfl⟩ := member
    decide

theorem getDeployIsoFiles_missing_grub :
    isoHost.lookup (locate "/deploy/deploy.iso") = some (.file [9]) ∧
      efiOnlyTools.readIso [9] = .ok efiOnlyEntries ∧ TopDown "/tmp/mnt" efiOnlyEntries ∧
      isoHost.lookup (locate "/tmp/mnt") = some .dir ∧
      (∀ key, isBelow (locate "/tmp/mnt") key = true → isoHost.lookup key = none) ∧
      ¬(HasIsoFile efiOnlyEntries "efiboot.img" ∧ HasIsoFile efiOnlyEntries "grub.cfg") ∧
      ((∃ host', extractIso efiOnlyTools workFs "/deploy/deploy.iso" "/tmp/mnt" isoHost = .ok () host' ∧
        getDeployIsoFiles efiOnlyTools workFs "/deploy/deploy.iso" "/tmp/mnt" isoHost =
          .error (.imageCreationFailed "iso"
            (.message "Deploy iso didn't contain efiboot.img or grub.cfg"))
            (host'.removeTree (locate "/tmp/mnt"))) ∨
      ∃ e host' n leftover, getDeployIsoFiles efiOnlyTools workFs "/deploy/deploy.iso" "/tmp/mnt" isoHost =
          .error (.imageCreationFailed "iso" e) host' ∧ workFs.writeFailure n = some (e, leftover)) := by
  have missing : ¬(HasIsoFile efiOnlyEntries "efiboot.img" ∧ HasIsoFile efiOnlyEntries "grub.cfg") := by
    rintro ⟨-, path, content, member, called⟩
    simp only [efiOnlyEntries, List.mem_cons, List.mem_singleton, List.not_mem_nil, or_false,
      reduceCtorEq, IsoEntry.file.injEq, false_or] at member
    obtain ⟨rfl, rfl⟩ := member
    exact absurd called (by decide)
  exact ⟨rfl, rfl, efiOnlyEntries_topDown, rfl, isoHost_empty, missing,
    getDeployIsoFiles_missing rfl rfl efiOnlyEntries_topDown rfl isoHost_empty missing⟩

end GetDeployIsoFiles

end Ironic
