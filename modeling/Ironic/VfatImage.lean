import Ironic.UefiRoot
import Ironic.DeployIso

/-!
What `create_vfat_image` copies into the image. After `dd` and `mkfs`, the builder fills
`tmpdir` with `_create_root_fs` of `files_info` and the parameters file, lists `tmpdir` with
`Path.iterdir()` and hands that list to `mcopy -s`. `Built.mem_iterdir` says what
`Path.iterdir()` lists below a root `_create_root_fs` built: the first component of each
destination. `createVfatImage_root` says the builder is `mcopy` of exactly those paths, run on a
host whose `tmpdir` holds the root, followed by the removal of `tmpdir`.
-/

namespace Ironic

/-- The entries of the root `create_vfat_image` builds in `tmpdir`: `files_info`, then the
parameters file when there are parameters. -/
def vfatFilesInfo (filesInfo : List (FileSource × String)) (parameters : List (String × String))
    (parametersFile : String) : List (FileSource × String) :=
  filesInfo ++ if parameters.isEmpty then [] else
    [(.content (encode ("\n".intercalate (parameters.map fun item => item.1 ++ "=" ++ item.2))),
      parametersFile)]

/-! ## `Path.iterdir()` -/

section Iterdir

variable {host : Host} {directory key x : String}

theorem Host.lookup_isSome_iff : (host.lookup key).isSome ↔ ∃ node, (key, node) ∈ host.entries := by
  simp [Host.lookup]

theorem mem_iterdir :
    x ∈ iterdir directory host ↔ ∃ key, (host.lookup key).isSome ∧
      isBelow (locate directory) key = true ∧ relativeTo directory key ≠ "" ∧
      '/' ∉ (relativeTo directory key).data ∧ x = joinPath directory (relativeTo directory key) := by
  simp [iterdir, relativeTo, isBelow, Host.lookup_isSome_iff, String.ext_iff]
  constructor
  · rintro ⟨key, found, ⟨⟨lead, long⟩, clean⟩, same⟩
    exact ⟨key, found, lead, long, clean, same.symm⟩
  · rintro ⟨key, found, lead, long, clean, same⟩
    exact ⟨key, found, ⟨⟨lead, long⟩, clean⟩, same.symm⟩

theorem pathParts_ne_empty {path part : String} (mem : part ∈ pathParts path) : part ≠ "" := by
  have kept := (List.mem_filter.1 mem).2
  simp only [Bool.and_eq_true, bne_iff_ne] at kept
  exact kept.1

theorem relativeTo_keyOf (name : String) (rest : Place) :
    relativeTo directory (keyOf (resolve directory ++ name :: rest)) =
      ⟨name.data ++ (keyOf rest).data⟩ := by
  have split : (keyOf (resolve directory) ++ keyOf (name :: rest)).data =
      (locate directory ++ "/").data ++ (name.data ++ (keyOf rest).data) := by
    simp only [keyOf, locate, String.data_append, List.append_assoc]
  rw [relativeTo, keyOf_append, split, List.drop_left]

theorem prefix_dropLast_of_ne {α : Type} {mid parts : List α} (above : mid <+: parts)
    (other : mid ≠ parts) : mid <+: parts.dropLast :=
  List.prefix_of_prefix_length_le above (List.dropLast_prefix parts) (by
    have shorter := above.length_le
    have unequal : mid.length ≠ parts.length := fun same => other (above.eq_of_length same)
    rw [List.length_dropLast]
    omega)

end Iterdir

/-! ## The top of a root `_create_root_fs` built -/

section Top

variable {start host : Host} {rootDirectory key : String} {done : List (FileSource × String)}

theorem Built.exists_place (built : Built start rootDirectory done host)
    (belowDone : ∀ entry ∈ done, staysBelow entry.2 = true)
    (inRoot : isBelow (locate rootDirectory) key = true) (found : (host.lookup key).isSome) :
    ∃ entry ∈ done, ∃ mid, mid ≠ [] ∧ mid <+: pathParts entry.2 ∧
      key = keyOf (resolve rootDirectory ++ mid) := by
  rw [built.belowRoot key inRoot, rootFsNode] at found
  cases last : lastEntry rootDirectory done key with
  | some entry =>
      obtain ⟨member, lands⟩ := lastEntry_eq_some last
      exact ⟨entry, member, _, (staysBelow_iff.1 (belowDone _ member)).2.1, List.prefix_rfl,
        by rw [← lands, locate_joinPath (belowDone _ member)]⟩
  | none =>
      rw [last] at found
      by_cases above : ∃ entry ∈ done, key ∈ parentDirs rootDirectory entry.2
      · obtain ⟨entry, member, inside⟩ := above
        obtain ⟨mid, named, shorter, same⟩ := mem_dirsBetween.1 inside
        exact ⟨entry, member, mid, named, shorter.trans (List.dropLast_prefix _), same.symm⟩
      · simp [above] at found

theorem Built.lookup_isSome (built : Built start rootDirectory done host)
    (belowDone : ∀ entry ∈ done, staysBelow entry.2 = true)
    (readable : ∀ entry ∈ done, (entryBytes start entry.1).isSome)
    {entry : FileSource × String} (member : entry ∈ done) {mid : Place} (named : mid ≠ [])
    (above : mid <+: pathParts entry.2) :
    (host.lookup (keyOf (resolve rootDirectory ++ mid))).isSome := by
  rw [built.belowRoot _ (isBelow_keyOf_append _ named), rootFsNode]
  cases last : lastEntry rootDirectory done (keyOf (resolve rootDirectory ++ mid)) with
  | some other => simpa using readable other (lastEntry_eq_some last).1
  | none =>
      have notWhole : mid ≠ pathParts entry.2 := fun same =>
        lastEntry_eq_none.1 last entry member (by rw [locate_joinPath (belowDone _ member), same])
      have inside : keyOf (resolve rootDirectory ++ mid) ∈ parentDirs rootDirectory entry.2 :=
        (keyOf_mem_dirsBetween (plain_below rootDirectory above)
          (plain_below rootDirectory (List.dropLast_prefix _))).2 ⟨named, prefix_dropLast_of_ne above notWhole⟩
      have some : ∃ entry ∈ done, keyOf (resolve rootDirectory ++ mid) ∈ parentDirs rootDirectory entry.2 :=
        ⟨entry, member, inside⟩
      simp [some]

theorem Built.mem_iterdir (built : Built start rootDirectory done host)
    (belowDone : ∀ entry ∈ done, staysBelow entry.2 = true)
    (readable : ∀ entry ∈ done, (entryBytes start entry.1).isSome) {x : String} :
    x ∈ iterdir rootDirectory host ↔
      ∃ entry ∈ done, x = joinPath rootDirectory ((pathParts entry.2).headD "") := by
  rw [Ironic.mem_iterdir]
  constructor
  · rintro ⟨key, found, inRoot, -, clean, rfl⟩
    obtain ⟨entry, member, mid, named, above, rfl⟩ := built.exists_place belowDone inRoot found
    obtain ⟨name, rest, rfl⟩ := List.exists_cons_of_ne_nil named
    rw [relativeTo_keyOf] at clean ⊢
    cases rest with
    | cons next rest => exact absurd (by simp [keyOf]) clean
    | nil =>
        obtain ⟨tail, parts⟩ := above
        refine ⟨entry, member, ?_⟩
        rw [← parts]
        simp [keyOf]
  · rintro ⟨entry, member, rfl⟩
    obtain ⟨name, rest, parts⟩ := List.exists_cons_of_ne_nil (staysBelow_iff.1 (belowDone _ member)).2.1
    have listed : name ∈ pathParts entry.2 := parts ▸ List.mem_cons_self name rest
    have named : relativeTo rootDirectory (keyOf (resolve rootDirectory ++ [name])) = name := by
      rw [relativeTo_keyOf]
      simp [keyOf]
    refine ⟨keyOf (resolve rootDirectory ++ [name]),
      built.lookup_isSome belowDone readable member (List.cons_ne_nil _ _) (parts ▸ ⟨rest, rfl⟩),
      isBelow_keyOf_append _ (List.cons_ne_nil _ _), ?_, ?_, ?_⟩
    · rw [named]
      exact pathParts_ne_empty listed
    · rw [named]
      exact pathParts_plain _ name listed
    · rw [named, parts]
      rfl

end Top

/-! ## `create_vfat_image` -/

section Builder

variable {tools : BootTools} {fs : FileSystem} {host : Host}
  {outputFile tmpdir parametersFile : String} {filesInfo : List (FileSource × String)}
  {parameters : List (String × String)} {fsSizeKib : Nat} {zeros formatted : Bytes}

theorem mem_vfatFilesInfo {entry : FileSource × String}
    (mem : entry ∈ vfatFilesInfo filesInfo parameters parametersFile) :
    entry ∈ filesInfo ∨ entry.2 = parametersFile ∧ ∃ bytes, entry.1 = .content bytes := by
  rcases List.mem_append.1 mem with given | added
  · exact .inl given
  · split at added
    · cases added
    · rcases List.mem_singleton.1 added with rfl
      exact .inr ⟨rfl, _, rfl⟩

theorem createVfatImage_formatted
    (dd : ∀ h, tools.execute (ddArgs outputFile fsSizeKib) h = .wrote zeros)
    (mkfs : ∀ h, tools.execute (mkfsArgs outputFile) h = .wrote formatted)
    (tmpName : fs.tempName host.draws = tmpdir) (tmpFree : host.lookup (locate tmpdir) = none)
    (apart : locate outputFile ≠ locate tmpdir) :
    ∃ start, createVfatImage tools fs outputFile filesInfo parameters parametersFile fsSizeKib host =
        withFinally (tryCatch (fillVfatImage tools fs outputFile tmpdir filesInfo parameters parametersFile)
          fun error => throw (.imageCreationFailed "vfat" error)) (removeTempDir tmpdir) start ∧
      start.lookup (locate tmpdir) = some .dir ∧
      start.lookup (locate outputFile) = some (.file formatted) ∧
      ∀ key, key ≠ locate outputFile → key ≠ locate tmpdir → start.lookup key = host.lookup key := by
  have free : ((host.record (.execute (ddArgs outputFile fsSizeKib))).put (locate outputFile)
      (.file zeros)).lookup (locate tmpdir) = none := by
    rw [Host.lookup_put, if_neg (Ne.symm apart), Host.lookup_record, tmpFree]
  have made : mkdtemp fs ((host.record (.execute (ddArgs outputFile fsSizeKib))).put (locate outputFile)
      (.file zeros)) = .ok tmpdir (((host.record (.execute (ddArgs outputFile fsSizeKib))).put
        (locate outputFile) (.file zeros)).draw.put (locate tmpdir) .dir) := by
    subst tmpName
    exact mkdtemp_free free
  refine ⟨(((((host.record (.execute (ddArgs outputFile fsSizeKib))).put (locate outputFile)
      (.file zeros)).draw.put (locate tmpdir) .dir).record (.execute (mkfsArgs outputFile))).put
        (locate outputFile) (.file formatted)), ?_, ?_, ?_, fun key notOut notTmp => ?_⟩
  · rw [createVfatImage, run_bind_ok (wrapProcessError_ok (executeWriting_wrote (dd host))), withTempDir,
      run_bind_ok made]
    refine withFinally_congr ?_
    dsimp only
    rw [run_bind_ok (wrapProcessError_ok (executeWriting_wrote (mkfs _)))]
  · simp only [Host.lookup_put, Host.lookup_record, Host.lookup_draw, if_neg (Ne.symm apart), if_true]
  · simp only [Host.lookup_put, if_true]
  · simp only [Host.lookup_put, Host.lookup_record, Host.lookup_draw, if_neg notOut, if_neg notTmp]

theorem fillVfatImage_root {start : Host} (passes : ∀ n, fs.writeFailure n = none)
    (isDir : start.lookup (locate tmpdir) = some .dir)
    (empty : ∀ key, isBelow (locate tmpdir) key = true → start.lookup key = none)
    (sources : ∀ entry ∈ filesInfo, ∀ source, entry.1 = .path source →
      outside (locate tmpdir) (locate source) = true ∧
        ∃ content, start.lookup (locate source) = some (.file content))
    (below : ∀ path ∈ filesInfo.map Prod.snd ++ [parametersFile], staysBelow path = true)
    (topLevel : (pathParts parametersFile).dropLast = [])
    (noAncestor : ∀ a ∈ filesInfo.map Prod.snd ++ [parametersFile],
      ∀ b ∈ filesInfo.map Prod.snd ++ [parametersFile],
        resolve (joinPath tmpdir a) <+: resolve (joinPath tmpdir b) →
          resolve (joinPath tmpdir a) = resolve (joinPath tmpdir b)) :
    ∃ seen, fillVfatImage tools fs outputFile tmpdir filesInfo parameters parametersFile start =
        (if (iterdir tmpdir seen).isEmpty then pure ()
          else executeWriting tools (["mcopy", "-s"] ++ iterdir tmpdir seen ++ ["-i", outputFile, "::"])
            outputFile : Run Unit) seen ∧
      (∀ x, x ∈ iterdir tmpdir seen ↔ ∃ entry ∈ vfatFilesInfo filesInfo parameters parametersFile,
        x = joinPath tmpdir ((pathParts entry.2).headD "")) ∧
      Built start tmpdir (vfatFilesInfo filesInfo parameters parametersFile) seen := by
  have listed : ∀ entry ∈ filesInfo, entry.2 ∈ filesInfo.map Prod.snd ++ [parametersFile] :=
    fun entry mem => List.mem_append_left _ (List.mem_map_of_mem _ mem)
  have paramsListed : parametersFile ∈ filesInfo.map Prod.snd ++ [parametersFile] :=
    List.mem_append_right _ (List.mem_singleton_self _)
  -- `_create_root_fs`, then the parameters file
  obtain ⟨h₄, ran₄, built₄⟩ := createRootFs_passes passes isDir empty
    (fun entry mem => below _ (listed entry mem)) sources
    (noAncestor_of_rep noAncestor fun entry mem => ⟨_, listed entry mem, rfl⟩)
  have rootRan : (if filesInfo.isEmpty then pure () else createRootFs fs tmpdir filesInfo : Run Unit)
      start = .ok () h₄ := by
    cases filesInfo <;> exact ran₄
  obtain ⟨seen, wrote, built⟩ : ∃ seen, (if parameters.isEmpty then pure () else
      writeToFile fs (joinPath tmpdir parametersFile)
        ("\n".intercalate (parameters.map fun item => item.1 ++ "=" ++ item.2)) : Run Unit) h₄ =
      .ok () seen ∧ Built start tmpdir (vfatFilesInfo filesInfo parameters parametersFile) seen := by
    cases noParameters : parameters.isEmpty
    · have wrote := @Built.writeBytes_below _ _ _ _ fs built₄ _ (below _ paramsListed)
        (fun entry mem => below _ (listed entry mem))
        (fun other mem => noAncestor _ paramsListed _ (listed other mem))
        (fun other mem => noAncestor _ (listed other mem) _ paramsListed) (.inl topLevel) _
        (fun _ _ => rfl) (encode ("\n".intercalate (parameters.map fun item => item.1 ++ "=" ++ item.2)))
      rw [passes] at wrote
      refine ⟨_, wrote, ?_⟩
      simp only [vfatFilesInfo, noParameters]
      generalize "\n".intercalate (parameters.map fun item => item.1 ++ "=" ++ item.2) = text
      refine built₄.concat (below _ paramsListed) (fun other mem => noAncestor _ (listed other mem) _ paramsListed)
        (show entryBytes _ (.content (encode text)) = _ from rfl) fun key => ?_
      rw [topLevel]
      simp only [Host.lookup_put, Host.lookup_draw, dirsBetween, List.not_mem_nil, if_false]
    · exact ⟨h₄, rfl, by simpa only [vfatFilesInfo, noParameters, if_true, List.append_nil] using built₄⟩
  -- what `Path(tmpdir).iterdir()` lists
  have belowV : ∀ entry ∈ vfatFilesInfo filesInfo parameters parametersFile, staysBelow entry.2 = true :=
    fun entry mem => (mem_vfatFilesInfo mem).elim (fun given => below _ (listed entry given))
      fun ⟨named, _⟩ => named ▸ below _ paramsListed
  have readableV : ∀ entry ∈ vfatFilesInfo filesInfo parameters parametersFile,
      (entryBytes start entry.1).isSome := by
    intro entry mem
    cases named : entry.1 with
    | content bytes => rfl
    | path source =>
        obtain given | ⟨-, bytes, written⟩ := mem_vfatFilesInfo mem
        · obtain ⟨-, content, file⟩ := sources entry given source named
          simp only [entryBytes, file, Node.content?, Option.isSome_some]
        · rw [written] at named; cases named
  refine ⟨seen, ?_, fun x => built.mem_iterdir belowV readableV, built⟩
  rw [fillVfatImage, run_bind_ok rootRan, run_bind_ok wrote]
  rfl

/-- `create_vfat_image` runs `mcopy -s` of what `Path(tmpdir).iterdir()` lists on the image `mkfs`
wrote, then removes `tmpdir`. -/
theorem createVfatImage_root (passes : ∀ n, fs.writeFailure n = none)
    (dd : ∀ h, tools.execute (ddArgs outputFile fsSizeKib) h = .wrote zeros)
    (mkfs : ∀ h, tools.execute (mkfsArgs outputFile) h = .wrote formatted)
    (tmpName : fs.tempName host.draws = tmpdir) (tmpFree : host.lookup (locate tmpdir) = none)
    (emptyTmp : ∀ key, isBelow (locate tmpdir) key = true → host.lookup key = none)
    (away : outside (locate tmpdir) (locate outputFile) = true)
    (sources : ∀ entry ∈ filesInfo, ∀ source, entry.1 = .path source →
      outside (locate tmpdir) (locate source) = true ∧ locate source ≠ locate outputFile ∧
        ∃ content, host.lookup (locate source) = some (.file content))
    (below : ∀ path ∈ filesInfo.map Prod.snd ++ [parametersFile], staysBelow path = true)
    (topLevel : (pathParts parametersFile).dropLast = [])
    (noAncestor : ∀ a ∈ filesInfo.map Prod.snd ++ [parametersFile],
      ∀ b ∈ filesInfo.map Prod.snd ++ [parametersFile],
        resolve (joinPath tmpdir a) <+: resolve (joinPath tmpdir b) →
          resolve (joinPath tmpdir a) = resolve (joinPath tmpdir b)) :
    ∃ seen, createVfatImage tools fs outputFile filesInfo parameters parametersFile fsSizeKib host =
        withFinally (tryCatch (if (iterdir tmpdir seen).isEmpty then pure ()
          else executeWriting tools (["mcopy", "-s"] ++ iterdir tmpdir seen ++ ["-i", outputFile, "::"])
            outputFile) fun error => throw (.imageCreationFailed "vfat" error))
          (removeTempDir tmpdir) seen ∧
      (∀ x, x ∈ iterdir tmpdir seen ↔ ∃ entry ∈ vfatFilesInfo filesInfo parameters parametersFile,
        x = joinPath tmpdir ((pathParts entry.2).headD "")) ∧
      ∀ key, seen.lookup key =
        if isBelow (locate tmpdir) key then
          rootFsNode host tmpdir (vfatFilesInfo filesInfo parameters parametersFile) key
        else if key = locate tmpdir then some .dir
        else if key = locate outputFile then some (.file formatted) else host.lookup key := by
  have notOut : ∀ key, isBelow (locate tmpdir) key = true → key ≠ locate outputFile :=
    fun _ inTmp => (ne_of_outside_isBelow away inTmp).symm
  obtain ⟨start, ran, isDir, isOut, kept⟩ :=
    @createVfatImage_formatted _ _ _ _ _ parametersFile filesInfo parameters _ _ _ dd mkfs tmpName tmpFree
      (ne_of_outside away)
  have sourceKept : ∀ entry ∈ filesInfo, ∀ source, entry.1 = .path source →
      start.lookup (locate source) = host.lookup (locate source) := fun entry mem source named =>
    let ⟨away', notOut', _⟩ := sources entry mem source named; kept _ notOut' (ne_of_outside away')
  obtain ⟨seen, filled, listed, built⟩ := fillVfatImage_root passes isDir
    (fun key inTmp => by rw [kept key (notOut key inTmp) (ne_of_isBelow inTmp), emptyTmp key inTmp])
    (fun entry mem source named => let ⟨away', _, content, file⟩ := sources entry mem source named
      ⟨away', content, (sourceKept entry mem source named).trans file⟩) below topLevel noAncestor
  refine ⟨seen, ran.trans (withFinally_congr (run_tryCatch_congr filled)), listed, fun key => ?_⟩
  by_cases inTmp : isBelow (locate tmpdir) key = true
  · rw [if_pos inTmp, built.belowRoot key inTmp]
    exact rootFsNode_congr (fun entry mem source named => (mem_vfatFilesInfo mem).elim
      (fun given => sourceKept entry given source named)
      fun ⟨_, bytes, written⟩ => by rw [written] at named; cases named) key
  rw [if_neg inTmp]
  by_cases isTmp : key = locate tmpdir
  · rw [if_pos isTmp, isTmp, built.rootDir]
  rw [if_neg isTmp, built.outsideKept key ((outside_or_isBelow isTmp).resolve_right inTmp)]
  by_cases isOut' : key = locate outputFile
  · rw [if_pos isOut', isOut', isOut]
  · rw [if_neg isOut', kept key isOut' isTmp]

def vfatFiles : List (FileSource × String) :=
  [(.path "/deploy/vmlinuz", "vmlinuz"), (.path "/deploy/esp.img", "EFI/BOOT/esp.img")]

example : vfatFilesInfo vfatFiles [("boot_method", "vmedia")] "parameters.txt" =
    vfatFiles ++ [(.content (encode "boot_method=vmedia"), "parameters.txt")] := rfl

theorem createVfatImage_root_sample :
    (∀ n, uefiFs.writeFailure n = none) ∧
      (∀ h, unrenderableTools.execute (ddArgs "/images/vfat.img" 100) h = .wrote [4]) ∧
      (∀ h, unrenderableTools.execute (mkfsArgs "/images/vfat.img") h = .wrote [4]) ∧
      uefiFs.tempName espHost.draws = "/tmp/root" ∧ espHost.lookup (locate "/tmp/root") = none ∧
      (∀ key, isBelow (locate "/tmp/root") key = true → espHost.lookup key = none) ∧
      outside (locate "/tmp/root") (locate "/images/vfat.img") = true ∧
      (∀ entry ∈ vfatFiles, ∀ source, entry.1 = .path source →
        outside (locate "/tmp/root") (locate source) = true ∧
          locate source ≠ locate "/images/vfat.img" ∧
          ∃ content, espHost.lookup (locate source) = some (.file content)) ∧
      (∀ path ∈ vfatFiles.map Prod.snd ++ ["parameters.txt"], staysBelow path = true) ∧ (pathParts "parameters.txt").dropLast = [] ∧
      (∀ a ∈ vfatFiles.map Prod.snd ++ ["parameters.txt"], ∀ b ∈ vfatFiles.map Prod.snd ++ ["parameters.txt"],
        resolve (joinPath "/tmp/root" a) <+: resolve (joinPath "/tmp/root" b) →
          resolve (joinPath "/tmp/root" a) = resolve (joinPath "/tmp/root" b)) ∧
      ∃ seen, createVfatImage unrenderableTools uefiFs "/images/vfat.img" vfatFiles
          [("boot_method", "vmedia")] "parameters.txt" 100 espHost =
        withFinally (tryCatch (if (iterdir "/tmp/root" seen).isEmpty then pure ()
          else executeWriting unrenderableTools
            (["mcopy", "-s"] ++ iterdir "/tmp/root" seen ++ ["-i", "/images/vfat.img", "::"])
            "/images/vfat.img") fun error => throw (.imageCreationFailed "vfat" error))
          (removeTempDir "/tmp/root") seen ∧
        (∀ x, x ∈ iterdir "/tmp/root" seen ↔
          ∃ entry ∈ vfatFilesInfo vfatFiles [("boot_method", "vmedia")] "parameters.txt",
            x = joinPath "/tmp/root" ((pathParts entry.2).headD "")) ∧
        ∀ key, seen.lookup key =
          if isBelow (locate "/tmp/root") key then
            rootFsNode espHost "/tmp/root" (vfatFilesInfo vfatFiles [("boot_method", "vmedia")]
              "parameters.txt") key
          else if key = locate "/tmp/root" then some .dir
          else if key = locate "/images/vfat.img" then some (.file [4]) else espHost.lookup key := by
  have emptyTmp : ∀ key, isBelow (locate "/tmp/root") key = true → espHost.lookup key = none :=
    Host.lookup_ofFiles_below (by decide)
  have sources : ∀ entry ∈ vfatFiles, ∀ source, entry.1 = .path source →
      outside (locate "/tmp/root") (locate source) = true ∧
        locate source ≠ locate "/images/vfat.img" ∧
        ∃ content, espHost.lookup (locate source) = some (.file content) := by
    intro entry mem source named
    simp only [vfatFiles, List.mem_cons, List.mem_singleton, List.not_mem_nil, or_false] at mem
    rcases mem with rfl | rfl <;> cases named <;> exact ⟨rfl, by decide, _, rfl⟩
  have below : ∀ path ∈ vfatFiles.map Prod.snd ++ ["parameters.txt"], staysBelow path = true := by decide
  have noAncestor : ∀ a ∈ vfatFiles.map Prod.snd ++ ["parameters.txt"], ∀ b ∈ vfatFiles.map Prod.snd ++ ["parameters.txt"],
      resolve (joinPath "/tmp/root" a) <+: resolve (joinPath "/tmp/root" b) →
        resolve (joinPath "/tmp/root" a) = resolve (joinPath "/tmp/root" b) := by decide
  exact ⟨fun _ => rfl, fun _ => rfl, fun _ => rfl, rfl, rfl, emptyTmp, rfl, sources, below, rfl,
    noAncestor, createVfatImage_root (fun _ => rfl) (fun _ => rfl) (fun _ => rfl) rfl rfl emptyTmp rfl
      sources below rfl noAncestor⟩

end Builder

end Ironic
