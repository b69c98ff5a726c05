import Ironic.RootFsContents
import Ironic.BootMedia

/-!
What `create_esp_image_for_uefi` hands to `mkisofs` when it builds from an ESP image. The
builder makes `tmpdir` and `mountdir`, copies the kernel, the ramdisk, the injected files, the
ESP image and `/dev/null` into `tmpdir` with `_create_root_fs`, removes `mountdir`, and renders
the grub config over the copy of `/dev/null`. `uefiRootNode` is the tree this leaves below
`tmpdir`. `createEspImageForUefi_esp_root` says the builder is `mkisofs` run on a host with that
tree, followed by the removal of `tmpdir`.
-/

namespace Ironic

/-! ## What the builder puts below `tmpdir` -/

/-- `files_info` of `create_esp_image_for_uefi` once `uefi_path_info` is merged in. -/
def uefiFilesInfo (kernel ramdisk : String) (injectFiles : List (String × String))
    (uefiPathInfo : List (FileSource × String)) : List (FileSource × String) :=
  dictUpdate (dictUpdate (setItem (setItem [] (.path kernel) "vmlinuz") (.path ramdisk) "initrd")
    (injectFiles.map fun item => (.path item.1, item.2))) uefiPathInfo

/-- `uefi_path_info` with an ESP image: the image at `EFIBOOT_LOCATION`, and `/dev/null`
where the grub config goes. -/
def espPathInfo (espImage grubRelPath : String) : List (FileSource × String) :=
  setItem (setItem [] (.path espImage) efibootLocation) (.path "/dev/null") grubRelPath

/-- The tree below `tmpdir` when `mkisofs` runs: what `_create_root_fs` makes of `files_info`,
with the rendered grub config written at `grub_cfg`. -/
def uefiRootNode (host : Host) (tmpdir : String) (filesInfo : List (FileSource × String))
    (grubCfg grubConf : String) (key : String) : Option Node :=
  if key = locate grubCfg then some (.file (encode grubConf)) else rootFsNode host tmpdir filesInfo key

/-! ## Steps of a run -/

section Steps

variable {σ α : Type} {body body' : EStateM Error σ α} {cleanup : EStateM Error σ Unit}

theorem withFinally_ok {s t t' : σ} {a : α} {u : Unit} (ran : body s = .ok a t)
    (cleaned : cleanup t = .ok u t') : withFinally body cleanup s = .ok a t' := by
  simp only [withFinally, ran, cleaned]

theorem withFinally_congr {s s' : σ} (same : body s = body' s') :
    withFinally body cleanup s = withFinally body' cleanup s' := by
  simp only [withFinally, same]

variable {fs : FileSystem} {host s t : Host}

theorem mkdtemp_twice {tmpdir mountdir : String} (tmpName : fs.tempName host.draws = tmpdir)
    (mountName : fs.tempName (host.draws + 1) = mountdir)
    (tmpFree : host.lookup (locate tmpdir) = none) (mountFree : host.lookup (locate mountdir) = none)
    (tmpMount : locate mountdir ≠ locate tmpdir) :
    mkdtemp fs host = .ok tmpdir (host.draw.put (locate tmpdir) .dir) ∧
      mkdtemp fs (host.draw.put (locate tmpdir) .dir) =
        .ok mountdir ((host.draw.put (locate tmpdir) .dir).draw.put (locate mountdir) .dir) := by
  subst tmpName mountName
  refine ⟨mkdtemp_free tmpFree, mkdtemp_free ?_⟩
  show (host.draw.put _ .dir).lookup (locate (fs.tempName (host.draws + 1))) = none
  rw [Host.lookup_put, if_neg tmpMount, Host.lookup_draw, mountFree]

theorem lookup_twoDirs {tmpdir mountdir key : String} (notMount : key ≠ locate mountdir)
    (notTmp : key ≠ locate tmpdir) :
    ((host.draw.put (locate tmpdir) .dir).draw.put (locate mountdir) .dir).lookup key =
      host.lookup key := by
  rw [Host.lookup_put, if_neg notMount, Host.lookup_draw, Host.lookup_put, if_neg notTmp,
    Host.lookup_draw]

theorem lookup_twoDirs_tmpdir {tmpdir mountdir : String} (tmpMount : locate mountdir ≠ locate tmpdir) :
    ((host.draw.put (locate tmpdir) .dir).draw.put (locate mountdir) .dir).lookup (locate tmpdir) =
      some .dir := by
  rw [Host.lookup_put, if_neg (Ne.symm tmpMount), Host.lookup_draw, Host.lookup_put, if_pos rfl]

theorem cleanedUp_removeTree (dir : String) (host : Host) :
    cleanedUp dir (host.removeTree (locate dir)) = host.removeTree (locate dir) := by
  rw [cleanedUp, if_neg]
  simp [outside]

theorem withTempDir_ok {body : String → Run α} {name : String} {a : α}
    (made : mkdtemp fs host = .ok name s) (ran : body name s = .ok a t) :
    withTempDir fs body host = .ok a (cleanedUp name t) := by
  rw [withTempDir_run, made]
  dsimp only
  rw [ran]

end Steps

/-! ## Two directories and the tree below one -/

section Trees

theorem outside_of_apart {dir dir' key : String} (away : outside dir dir' = true)
    (away' : outside dir' dir = true) (below : isBelow dir key = true) : outside dir' key = true := by
  have notOver : ∀ {a b : String}, outside a b = true → ¬(a ++ "/").data <+: (b ++ "/").data := by
    intro a b apart over
    rw [String.data_append b] at over
    rcases List.prefix_concat_iff.1 over with same | inside
    · have : a = b := by
        rw [String.data_append] at same
        exact String.ext (List.append_cancel_right same)
      subst this
      simp [outside] at apart
    · rw [outside_of_isBelow (List.isPrefixOf_iff_prefix.2 inside : isBelow a b = true)] at apart
      cases apart
  simp only [isBelow, List.isPrefixOf_iff_prefix] at below
  simp only [outside, Bool.and_eq_true, bne_iff_ne, ne_eq, Bool.not_eq_true', Bool.not_eq_true]
  refine ⟨?_, ?_⟩
  · rintro rfl
    rw [outside_of_isBelow (List.isPrefixOf_iff_prefix.2 below : isBelow dir key = true)] at away
    cases away
  · rw [Bool.eq_false_iff]
    intro over
    rw [List.isPrefixOf_iff_prefix] at over
    rcases le_total (dir ++ "/").data.length (dir' ++ "/").data.length with shorter | longer
    · exact notOver away (List.prefix_of_prefix_length_le below over shorter)
    · exact notOver away' (List.prefix_of_prefix_length_le over below longer)

theorem ne_of_outside {dir key : String} (away : outside dir key = true) : key ≠ dir := by
  rintro rfl
  simp [outside] at away

theorem ne_of_outside_isBelow {dir key other : String} (away : outside dir key = true)
    (below : isBelow dir other = true) : key ≠ other := by
  rintro rfl
  rw [outside_of_isBelow below] at away
  cases away

theorem outside_of_file {dir key : String} {host : Host} {content : Bytes}
    (free : host.lookup dir = none) (empty : ∀ key, isBelow dir key = true → host.lookup key = none)
    (file : host.lookup key = some (.file content)) : outside dir key = true := by
  have notDir : key ≠ dir := fun same => by rw [same, free] at file; cases file
  exact (outside_or_isBelow notDir).resolve_right fun inDir => by rw [empty key inDir] at file; cases file

variable {start host : Host} {rootDirectory : String} {done : List (FileSource × String)}

theorem rootFsNode_congr {host' : Host}
    (same : ∀ entry ∈ done, ∀ source, entry.1 = .path source →
      host.lookup (locate source) = host'.lookup (locate source)) (key : String) :
    rootFsNode host rootDirectory done key = rootFsNode host' rootDirectory done key := by
  unfold rootFsNode
  cases found : lastEntry rootDirectory done key with
  | none => rfl
  | some entry =>
      obtain ⟨member, -⟩ := lastEntry_eq_some found
      obtain ⟨source, destination⟩ := entry
      cases source with
      | content bytes => rfl
      | path source => simp only [entryBytes, same _ member source rfl]

theorem Built.writeBytes_below {fs : FileSystem} (built : Built start rootDirectory done host)
    {path : String} (below : staysBelow path = true)
    (belowDone : ∀ other ∈ done, staysBelow other.2 = true)
    (notOver : ∀ other ∈ done, resolve (joinPath rootDirectory path) <+:
      resolve (joinPath rootDirectory other.2) →
        resolve (joinPath rootDirectory path) = resolve (joinPath rootDirectory other.2))
    (notUnder : ∀ other ∈ done, resolve (joinPath rootDirectory other.2) <+:
      resolve (joinPath rootDirectory path) →
        resolve (joinPath rootDirectory other.2) = resolve (joinPath rootDirectory path))
    (parentMade : (pathParts path).dropLast = [] ∨
      ∃ other ∈ done, (pathParts path).dropLast <+: (pathParts other.2).dropLast)
    {host' : Host} (agrees : ∀ key, (key = locate rootDirectory ∨ isBelow (locate rootDirectory) key = true) →
      host'.lookup key = host.lookup key) (content : Bytes) :
    writeBytes fs (joinPath rootDirectory path) content host' =
      match fs.writeFailure host'.draws with
      | none => .ok () (host'.draw.put (locate (joinPath rootDirectory path)) (.file content))
      | some (error, leftover) =>
          .error error (host'.draw.leave (locate (joinPath rootDirectory path)) leftover) := by
  have named := (staysBelow_iff.1 below).2.1
  refine writeBytes_checked ?_ ?_
  · rw [agrees _ (.inr (isBelow_locate_joinPath below)), locate_joinPath below]
    exact built.target_notDir below (destination_not_parent belowDone below notOver)
  · rw [resolve_joinPath below, List.dropLast_append_of_ne_nil _ named]
    by_cases top : (pathParts path).dropLast = []
    · rw [top, List.append_nil]
      exact (agrees (locate rootDirectory) (.inl rfl)).trans built.rootDir
    · obtain ⟨other, member, above⟩ := parentMade.resolve_left top
      rw [agrees _ (.inr (isBelow_keyOf_append _ top)),
        built.lookup_parent below notUnder top List.prefix_rfl, if_pos ⟨other, member, above⟩]

theorem noAncestor_of_rep {root : String} {targets : List String}
    (noAncestor : ∀ a ∈ targets, ∀ b ∈ targets, resolve (joinPath root a) <+: resolve (joinPath root b) →
      resolve (joinPath root a) = resolve (joinPath root b))
    (rep : ∀ entry ∈ done, ∃ target ∈ targets,
      resolve (joinPath root entry.2) = resolve (joinPath root target)) :
    ∀ a ∈ done, ∀ b ∈ done, resolve (joinPath root a.2) <+: resolve (joinPath root b.2) →
      resolve (joinPath root a.2) = resolve (joinPath root b.2) := by
  intro a memA b memB
  obtain ⟨targetA, listedA, sameA⟩ := rep a memA
  obtain ⟨targetB, listedB, sameB⟩ := rep b memB
  rw [sameA, sameB]
  exact noAncestor targetA listedA targetB listedB

theorem createRootFs_passes {fs : FileSystem} (passes : ∀ n, fs.writeFailure n = none)
    (isDir : host.lookup (locate rootDirectory) = some .dir)
    (empty : ∀ key, isBelow (locate rootDirectory) key = true → host.lookup key = none)
    (below : ∀ entry ∈ done, staysBelow entry.2 = true)
    (sources : ∀ entry ∈ done, ∀ source, entry.1 = .path source →
      outside (locate rootDirectory) (locate source) = true ∧
        ∃ content, host.lookup (locate source) = some (.file content))
    (noAncestor : ∀ a ∈ done, ∀ b ∈ done,
      resolve (joinPath rootDirectory a.2) <+: resolve (joinPath rootDirectory b.2) →
        resolve (joinPath rootDirectory a.2) = resolve (joinPath rootDirectory b.2)) :
    ∃ host', createRootFs fs rootDirectory done host = .ok () host' ∧
      Built host rootDirectory done host' :=
  (createRootFs_built_nil isDir empty below sources noAncestor).resolve_right
    fun ⟨_, _, n, _, _, failed⟩ => by rw [passes] at failed; cases failed

theorem Host.lookup_ofFiles_below {files : List (String × Bytes)} {dir : String}
    (apart : ∀ file ∈ files, isBelow dir file.1 = false) (key : String) (inDir : isBelow dir key = true) :
    (Host.ofFiles files).lookup key = none := by
  simp only [Host.ofFiles, Host.lookup, List.find?_map, Option.map_eq_none', List.find?_eq_none]
  intro file member
  simp only [Function.comp, beq_iff_eq]
  rintro rfl
  rw [apart file member] at inDir
  cases inDir

end Trees

/-! ## `files_info` -/

section FilesInfo

variable {kernel ramdisk espImage grubRelPath : String} {injectFiles : List (String × String)}

theorem mem_setItem_self {κ ν : Type} [DecidableEq κ] (items : List (κ × ν)) (key : κ) (value : ν) :
    (key, value) ∈ setItem items key value := by
  unfold setItem
  split
  · rename_i present
    obtain ⟨item, member, same⟩ := List.any_eq_true.1 present
    exact List.mem_map.2 ⟨item, member, by simp only [decide_eq_true_eq] at same; simp [same]⟩
  · simp

theorem mem_uefiFilesInfo {info : List (FileSource × String)} {item : FileSource × String}
    (mem : item ∈ uefiFilesInfo kernel ramdisk injectFiles info) :
    item = (.path kernel, "vmlinuz") ∨ item = (.path ramdisk, "initrd") ∨
      (∃ inject ∈ injectFiles, item = (.path inject.1, inject.2)) ∨ item ∈ info := by
  rcases mem_dictUpdate mem with base | added
  · rcases mem_dictUpdate base with fixed | injected
    · rcases mem_setItem fixed with first | rfl
      · rcases mem_setItem first with none | rfl
        · cases none
        · exact .inl rfl
      · exact .inr (.inl rfl)
    · obtain ⟨inject, member, rfl⟩ := List.mem_map.1 injected
      exact .inr (.inr (.inl ⟨inject, member, rfl⟩))
  · exact .inr (.inr (.inr added))

theorem mem_uefiFilesInfo_last {first second : FileSource} {x y : String} :
    (second, y) ∈ uefiFilesInfo kernel ramdisk injectFiles (setItem (setItem [] first x) second y) := by
  obtain ⟨before, split⟩ : ∃ before, setItem (setItem [] first x) second y = before ++ [(second, y)] := by
    by_cases same : first = second
    · exact ⟨[], by simp [setItem, same]⟩
    · exact ⟨[(first, x)], by simp [setItem, same]⟩
  rw [uefiFilesInfo, split, dictUpdate, List.foldl_append]
  exact mem_setItem_self _ _ _

theorem mem_setItem_pair {first second : FileSource} {x y : String} {item : FileSource × String}
    (mem : item ∈ setItem (setItem [] first x) second y) : item = (first, x) ∨ item = (second, y) := by
  rcases mem_setItem mem with earlier | rfl
  · rcases mem_setItem earlier with none | rfl
    · cases none
    · exact .inl rfl
  · exact .inr rfl

theorem mem_uefiFilesInfo_pair {first second : FileSource} {x y : String} {item : FileSource × String}
    (mem : item ∈ uefiFilesInfo kernel ramdisk injectFiles (setItem (setItem [] first x) second y)) :
    ((∃ source ∈ [kernel, ramdisk] ++ injectFiles.map Prod.fst, item.1 = .path source) ∧
      item.2 ∈ ["vmlinuz", "initrd"] ++ injectFiles.map Prod.snd) ∨
    item = (first, x) ∨ item = (second, y) := by
  rcases mem_uefiFilesInfo mem with rfl | rfl | ⟨inject, member, rfl⟩ | info
  · simp
  · simp
  · exact .inl ⟨⟨inject.1, by simp [List.mem_map_of_mem Prod.fst member], rfl⟩,
      by simp [List.mem_map_of_mem Prod.snd member]⟩
  · exact .inr (mem_setItem_pair info)

theorem espFilesInfo_item {item : FileSource × String}
    (mem : item ∈ uefiFilesInfo kernel ramdisk injectFiles (espPathInfo espImage grubRelPath)) :
    (∃ source ∈ [kernel, ramdisk, espImage, "/dev/null"] ++ injectFiles.map Prod.fst,
      item.1 = .path source) ∧
    item.2 ∈ ["vmlinuz", "initrd", efibootLocation, grubRelPath] ++ injectFiles.map Prod.snd := by
  rcases mem_uefiFilesInfo_pair mem with ⟨⟨source, listed, named⟩, placed⟩ | rfl | rfl
  · exact ⟨⟨source, (List.mem_append.1 listed).elim
      (fun fixed => List.mem_append_left _ (List.mem_append_left [espImage, "/dev/null"] fixed))
      (List.mem_append_right _), named⟩, (List.mem_append.1 placed).elim
      (fun fixed => List.mem_append_left _ (List.mem_append_left [efibootLocation, grubRelPath] fixed))
      (List.mem_append_right _)⟩
  · simp
  · simp

end FilesInfo

/-! ## The end of the builder: the grub config, and the tree `mkisofs` sees -/

section Tail

variable {fs : FileSystem} {start host h : Host}
  {tmpdir mountdir grubRelPath grubConf : String} {filesInfo : List (FileSource × String)}

theorem uefiRootNode_congr {host' : Host}
    (same : ∀ entry ∈ filesInfo, ∀ source, entry.1 = .path source →
      host.lookup (locate source) = host'.lookup (locate source)) (grubCfg : String) (key : String) :
    uefiRootNode host tmpdir filesInfo grubCfg grubConf key =
      uefiRootNode host' tmpdir filesInfo grubCfg grubConf key := by
  rw [uefiRootNode, uefiRootNode, rootFsNode_congr same]

variable (built : Built start tmpdir filesInfo h)
  (apart : outside (locate tmpdir) (locate mountdir) = true)
  (apart' : outside (locate mountdir) (locate tmpdir) = true)
include built apart apart'

theorem Built.writeToFile_grub (passes : ∀ n, fs.writeFailure n = none) {source : FileSource}
    (member : (source, grubRelPath) ∈ filesInfo)
    (belowF : ∀ entry ∈ filesInfo, staysBelow entry.2 = true)
    (noAncestorF : ∀ a ∈ filesInfo, ∀ b ∈ filesInfo,
      resolve (joinPath tmpdir a.2) <+: resolve (joinPath tmpdir b.2) →
        resolve (joinPath tmpdir a.2) = resolve (joinPath tmpdir b.2)) :
    writeToFile fs (joinPath tmpdir grubRelPath) grubConf (h.removeTree (locate mountdir)) =
      .ok () ((h.removeTree (locate mountdir)).draw.put (locate (joinPath tmpdir grubRelPath))
        (.file (encode grubConf))) := by
  rw [writeToFile, built.writeBytes_below (belowF _ member) belowF (fun other mem => noAncestorF _ member _ mem)
    (fun other mem => noAncestorF _ mem _ member) (.inr ⟨_, member, List.prefix_rfl⟩) (fun key inside => by
      rw [Host.lookup_removeTree, if_pos (inside.elim (· ▸ apart') (outside_of_apart apart apart'))]),
    passes]

theorem Built.uefiTree (grubBelow : staysBelow grubRelPath = true)
    (kept : ∀ key, outside (locate tmpdir) key = true → outside (locate mountdir) key = true →
      start.lookup key = host.lookup key)
    (mountFree : host.lookup (locate mountdir) = none)
    (emptyMount : ∀ key, isBelow (locate mountdir) key = true → host.lookup key = none) (key : String) :
    ((h.removeTree (locate mountdir)).draw.put (locate (joinPath tmpdir grubRelPath))
        (.file (encode grubConf))).lookup key =
      if isBelow (locate tmpdir) key then
        uefiRootNode start tmpdir filesInfo (joinPath tmpdir grubRelPath) grubConf key
      else if key = locate tmpdir then some .dir else host.lookup key := by
  have grubTmp : isBelow (locate tmpdir) (locate (joinPath tmpdir grubRelPath)) = true :=
    isBelow_locate_joinPath grubBelow
  rw [Host.lookup_put, Host.lookup_draw, Host.lookup_removeTree]
  by_cases inTmp : isBelow (locate tmpdir) key = true
  · rw [if_pos inTmp, uefiRootNode, if_pos (outside_of_apart apart apart' inTmp),
      built.belowRoot key inTmp]
  · have notGrub : key ≠ locate (joinPath tmpdir grubRelPath) := fun same => inTmp (same ▸ grubTmp)
    rw [if_neg inTmp, if_neg notGrub]
    by_cases root : key = locate tmpdir
    · rw [if_pos root, root, if_pos apart', built.rootDir]
    · have away := (outside_or_isBelow root).resolve_right inTmp
      rw [if_neg root]
      by_cases inMount : outside (locate mountdir) key = true
      · rw [if_pos inMount, built.outsideKept key away, kept key away inMount]
      · rw [if_neg inMount]
        by_cases isMount : key = locate mountdir
        · rw [isMount, mountFree]
        · exact (emptyMount key ((outside_or_isBelow isMount).resolve_left inMount)).symm

end Tail

/-! ## `create_esp_image_for_uefi` with an ESP image -/

section EspImage

variable {tools : BootTools} {fs : FileSystem} {conf : BootConfig} {host h h' : Host}
  {outputFile kernel ramdisk espImage tmpdir mountdir grubConf : String}
  {kernelParams : Option (List String)} {injectFiles : List (String × String)}
  {publisherId : Option String} {filesInfo : List (FileSource × String)}

theorem espRoot_esp (named : espImage ≠ "")
    (built : createRootFs fs tmpdir
      (dictUpdate filesInfo (espPathInfo espImage (lstripSlash conf.grubConfigPath))) h = .ok () h') :
    espRoot tools fs conf tmpdir mountdir none (some espImage) filesInfo h =
      .ok (dictUpdate filesInfo (espPathInfo espImage (lstripSlash conf.grubConfigPath)),
        efibootLocation, joinPath tmpdir (lstripSlash conf.grubConfigPath)) h' := by
  have pick : (truthy (some espImage) && !truthy none) = true := by simp [truthy, named]
  rw [espRoot, if_neg (by simp [truthy]), if_pos pick, run_bind_ok (run_pure _ _)]
  exact run_bind_ok (withFinally_ok (run_tryCatch_ok built) rfl)

theorem createEspImageForUefi_eq {deployIso espImage' : Option String} {host₁ h₄ h₅ : Host}
    {eImgRelPath grubCfg : String}
    (made : mkdtemp fs host = .ok tmpdir host₁)
    (mountRan : withTempDir fs (fun mountdir => espRoot tools fs conf tmpdir mountdir deployIso espImage'
      (dictUpdate (setItem (setItem [] (.path kernel) "vmlinuz") (.path ramdisk) "initrd")
        (injectFiles.map fun item => (.path item.1, item.2)))) host₁ =
      .ok (filesInfo, eImgRelPath, grubCfg) h₄)
    (rendered : generateCfg tools kernelParams conf.grubConfigTemplate
      [("linux", "/vmlinuz"), ("initrd", "/initrd")] = .ok grubConf)
    (wrote : writeToFile fs grubCfg grubConf h₄ = .ok () h₅) :
    createEspImageForUefi tools fs conf outputFile kernel ramdisk deployIso espImage' kernelParams
        injectFiles publisherId host =
      withFinally (wrapProcessError "iso" (executeWriting tools
        (espMkisofsArgs outputFile tmpdir filesInfo eImgRelPath publisherId) outputFile))
        (removeTempDir tmpdir) h₅ := by
  have cfg : (ofExcept (generateCfg tools kernelParams conf.grubConfigTemplate
      [("linux", "/vmlinuz"), ("initrd", "/initrd")]) : Run String) h₄ = .ok grubConf h₄ := by
    rw [rendered]; rfl
  rw [createEspImageForUefi, withTempDir, run_bind_ok made]
  refine withFinally_congr ?_
  dsimp only
  rw [run_bind_ok mountRan]
  dsimp only
  rw [run_bind_ok cfg, run_bind_ok wrote]

theorem createEspImageForUefi_esp_tree (passes : ∀ n, fs.writeFailure n = none)
    (tmpName : fs.tempName host.draws = tmpdir) (mountName : fs.tempName (host.draws + 1) = mountdir)
    (tmpFree : host.lookup (locate tmpdir) = none) (mountFree : host.lookup (locate mountdir) = none)
    (apart : outside (locate tmpdir) (locate mountdir) = true)
    (apart' : outside (locate mountdir) (locate tmpdir) = true)
    (emptyTmp : ∀ key, isBelow (locate tmpdir) key = true → host.lookup key = none)
    (emptyMount : ∀ key, isBelow (locate mountdir) key = true → host.lookup key = none)
    (named : espImage ≠ "")
    (sources : ∀ source ∈ [kernel, ramdisk, espImage, "/dev/null"] ++ injectFiles.map Prod.fst,
      outside (locate tmpdir) (locate source) = true ∧
        ∃ content, host.lookup (locate source) = some (.file content))
    (below : ∀ path ∈ ["vmlinuz", "initrd", efibootLocation, lstripSlash conf.grubConfigPath] ++
      injectFiles.map Prod.snd, staysBelow path = true)
    (noAncestor : ∀ a ∈ ["vmlinuz", "initrd", efibootLocation, lstripSlash conf.grubConfigPath] ++
        injectFiles.map Prod.snd,
      ∀ b ∈ ["vmlinuz", "initrd", efibootLocation, lstripSlash conf.grubConfigPath] ++
        injectFiles.map Prod.snd,
        resolve (joinPath tmpdir a) <+: resolve (joinPath tmpdir b) →
          resolve (joinPath tmpdir a) = resolve (joinPath tmpdir b))
    (rendered : generateCfg tools kernelParams conf.grubConfigTemplate
      [("linux", "/vmlinuz"), ("initrd", "/initrd")] = .ok grubConf) :
    ∃ seen, createEspImageForUefi tools fs conf outputFile kernel ramdisk none (some espImage)
        kernelParams injectFiles publisherId host =
      withFinally (wrapProcessError "iso" (executeWriting tools
        (espMkisofsArgs outputFile tmpdir (uefiFilesInfo kernel ramdisk injectFiles
          (espPathInfo espImage (lstripSlash conf.grubConfigPath))) efibootLocation publisherId)
        outputFile)) (removeTempDir tmpdir) seen ∧
      ∀ key, seen.lookup key =
        if isBelow (locate tmpdir) key then
          uefiRootNode host tmpdir (uefiFilesInfo kernel ramdisk injectFiles
            (espPathInfo espImage (lstripSlash conf.grubConfigPath)))
            (joinPath tmpdir (lstripSlash conf.grubConfigPath)) grubConf key
        else if key = locate tmpdir then some .dir else host.lookup key := by
  have tmpMount : locate mountdir ≠ locate tmpdir := ne_of_outside apart
  obtain ⟨made₁, made₂⟩ := mkdtemp_twice tmpName mountName tmpFree mountFree tmpMount
  -- the host `_create_root_fs` starts from, and what it reads there
  have sourceKept : ∀ source ∈ [kernel, ramdisk, espImage, "/dev/null"] ++ injectFiles.map Prod.fst,
      ((host.draw.put (locate tmpdir) .dir).draw.put (locate mountdir) .dir).lookup (locate source) =
        host.lookup (locate source) := by
    intro source mem
    obtain ⟨content, found⟩ := (sources source mem).2
    rw [lookup_twoDirs (ne_of_outside (outside_of_file mountFree emptyMount found))
      (ne_of_outside (outside_of_file tmpFree emptyTmp found))]
  have grubMem : lstripSlash conf.grubConfigPath ∈
      ["vmlinuz", "initrd", efibootLocation, lstripSlash conf.grubConfigPath] ++
        injectFiles.map Prod.snd := by simp
  have pathOf : ∀ entry ∈ uefiFilesInfo kernel ramdisk injectFiles
      (espPathInfo espImage (lstripSlash conf.grubConfigPath)), ∀ source, entry.1 = .path source →
      source ∈ [kernel, ramdisk, espImage, "/dev/null"] ++ injectFiles.map Prod.fst := by
    intro entry mem source named
    obtain ⟨source', mem', same⟩ := (espFilesInfo_item mem).1
    rw [named, FileSource.path.injEq] at same
    exact same ▸ mem'
  have belowF : ∀ entry ∈ uefiFilesInfo kernel ramdisk injectFiles
      (espPathInfo espImage (lstripSlash conf.grubConfigPath)), staysBelow entry.2 = true :=
    fun entry mem => below _ (espFilesInfo_item mem).2
  have noAncestorF := @noAncestor_of_rep (uefiFilesInfo kernel ramdisk injectFiles
    (espPathInfo espImage (lstripSlash conf.grubConfigPath))) _ _ noAncestor
    fun entry mem => ⟨_, (espFilesInfo_item mem).2, rfl⟩
  -- `_create_root_fs`
  obtain ⟨h₃, ran₃, built⟩ := createRootFs_passes passes (lookup_twoDirs_tmpdir tmpMount)
    (fun key inTmp => by
      rw [lookup_twoDirs (ne_of_outside (outside_of_apart apart apart' inTmp)) (ne_of_isBelow inTmp),
        emptyTmp key inTmp])
    belowF
    (fun entry mem source named => by
      have mem' := pathOf entry mem source named
      exact ⟨(sources source mem').1, by rw [sourceKept source mem']; exact (sources source mem').2⟩)
    noAncestorF
  -- `mountdir` is removed when its `with` block ends, and the grub config is written
  have removed : cleanedUp mountdir h₃ = h₃.removeTree (locate mountdir) := by
    rw [cleanedUp, if_pos (by rw [built.outsideKept _ apart, Host.lookup_put, if_pos rfl])]
  refine ⟨_, createEspImageForUefi_eq made₁ (removed ▸ withTempDir_ok made₂ (espRoot_esp named ran₃))
    rendered (built.writeToFile_grub apart apart' passes mem_uefiFilesInfo_last belowF noAncestorF),
    fun key => ?_⟩
  rw [built.uefiTree apart apart' (below _ grubMem)
    (fun key away inMount => lookup_twoDirs (ne_of_outside inMount) (ne_of_outside away))
    mountFree emptyMount key,
    uefiRootNode_congr (fun entry mem source named => sourceKept source (pathOf entry mem source named))]

/-- `create_esp_image_for_uefi` with an ESP image runs `mkisofs` on `uefiRootNode`, then removes
`tmpdir`. -/
theorem createEspImageForUefi_esp_root (passes : ∀ n, fs.writeFailure n = none)
    (tmpName : fs.tempName host.draws = tmpdir) (mountName : fs.tempName (host.draws + 1) = mountdir)
    (tmpFree : host.lookup (locate tmpdir) = none) (mountFree : host.lookup (locate mountdir) = none)
    (apart : outside (locate tmpdir) (locate mountdir) = true)
    (apart' : outside (locate mountdir) (locate tmpdir) = true)
    (emptyTmp : ∀ key, isBelow (locate tmpdir) key = true → host.lookup key = none)
    (emptyMount : ∀ key, isBelow (locate mountdir) key = true → host.lookup key = none)
    (named : espImage ≠ "")
    (sources : ∀ source ∈ [kernel, ramdisk, espImage, "/dev/null"] ++ injectFiles.map Prod.fst,
      outside (locate tmpdir) (locate source) = true ∧
        ∃ content, host.lookup (locate source) = some (.file content))
    (below : ∀ path ∈ ["vmlinuz", "initrd", efibootLocation, lstripSlash conf.grubConfigPath] ++
      injectFiles.map Prod.snd, staysBelow path = true)
    (noAncestor : ∀ a ∈ ["vmlinuz", "initrd", efibootLocation, lstripSlash conf.grubConfigPath] ++
        injectFiles.map Prod.snd,
      ∀ b ∈ ["vmlinuz", "initrd", efibootLocation, lstripSlash conf.grubConfigPath] ++
        injectFiles.map Prod.snd,
        resolve (joinPath tmpdir a) <+: resolve (joinPath tmpdir b) →
          resolve (joinPath tmpdir a) = resolve (joinPath tmpdir b))
    (rendered : generateCfg tools kernelParams conf.grubConfigTemplate
      [("linux", "/vmlinuz"), ("initrd", "/initrd")] = .ok grubConf) :
    ∃ seen, createEspImageForUefi tools fs conf outputFile kernel ramdisk none (some espImage)
        kernelParams injectFiles publisherId host =
      withFinally (wrapProcessError "iso" (executeWriting tools
        (espMkisofsArgs outputFile tmpdir (uefiFilesInfo kernel ramdisk injectFiles
          (espPathInfo espImage (lstripSlash conf.grubConfigPath))) efibootLocation publisherId)
        outputFile)) (removeTempDir tmpdir) seen ∧
      ∀ key, seen.lookup key =
        if isBelow (locate tmpdir) key then
          uefiRootNode host tmpdir (uefiFilesInfo kernel ramdisk injectFiles
            (espPathInfo espImage (lstripSlash conf.grubConfigPath)))
            (joinPath tmpdir (lstripSlash conf.grubConfigPath)) grubConf key
        else if key = locate tmpdir then some .dir else host.lookup key :=
  createEspImageForUefi_esp_tree passes tmpName mountName tmpFree mountFree apart apart' emptyTmp
    emptyMount named sources below noAncestor rendered

def uefiFs : FileSystem := ⟨fun n => if n = 0 then "/tmp/root" else "/tmp/mnt", fun _ => none⟩

def espHost : Host :=
  Host.ofFiles [("/deploy/vmlinuz", [1]), ("/deploy/initrd", [2]), ("/deploy/esp.img", [4]),
    ("/dev/null", [])]

example : uefiRootNode espHost "/tmp/root"
    (uefiFilesInfo "/deploy/vmlinuz" "/deploy/initrd" [] (espPathInfo "/deploy/esp.img" "EFI/BOOT/grub.cfg"))
    (joinPath "/tmp/root" "EFI/BOOT/grub.cfg") "" "/tmp/root/boot/grub/efiboot.img" = some (.file [4]) := by
  decide

theorem createEspImageForUefi_esp_root_sample :
    (∀ n, uefiFs.writeFailure n = none) ∧ uefiFs.tempName espHost.draws = "/tmp/root" ∧
      uefiFs.tempName (espHost.draws + 1) = "/tmp/mnt" ∧
      espHost.lookup (locate "/tmp/root") = none ∧ espHost.lookup (locate "/tmp/mnt") = none ∧
      outside (locate "/tmp/root") (locate "/tmp/mnt") = true ∧
      outside (locate "/tmp/mnt") (locate "/tmp/root") = true ∧
      (∀ key, isBelow (locate "/tmp/root") key = true → espHost.lookup key = none) ∧
      (∀ key, isBelow (locate "/tmp/mnt") key = true → espHost.lookup key = none) ∧
      "/deploy/esp.img" ≠ "" ∧
      (∀ source ∈ ["/deploy/vmlinuz", "/deploy/initrd", "/deploy/esp.img", "/dev/null"] ++
          ([] : List (String × String)).map Prod.fst,
        outside (locate "/tmp/root") (locate source) = true ∧
          ∃ content, espHost.lookup (locate source) = some (.file content)) ∧
      (∀ path ∈ ["vmlinuz", "initrd", efibootLocation, lstripSlash isoConf.grubConfigPath] ++
        ([] : List (String × String)).map Prod.snd, staysBelow path = true) ∧
      (∀ a ∈ ["vmlinuz", "initrd", efibootLocation, lstripSlash isoConf.grubConfigPath] ++
          ([] : List (String × String)).map Prod.snd,
        ∀ b ∈ ["vmlinuz", "initrd", efibootLocation, lstripSlash isoConf.grubConfigPath] ++
          ([] : List (String × String)).map Prod.snd,
          resolve (joinPath "/tmp/root" a) <+: resolve (joinPath "/tmp/root" b) →
            resolve (joinPath "/tmp/root" a) = resolve (joinPath "/tmp/root" b)) ∧
      generateCfg ddOnlyTools none isoConf.grubConfigTemplate
        [("linux", "/vmlinuz"), ("initrd", "/initrd")] = .ok "" ∧
      ∃ seen, createEspImageForUefi ddOnlyTools uefiFs isoConf "/images/boot.iso" "/deploy/vmlinuz"
          "/deploy/initrd" none (some "/deploy/esp.img") none [] none espHost =
        withFinally (wrapProcessError "iso" (executeWriting ddOnlyTools
          (espMkisofsArgs "/images/boot.iso" "/tmp/root" (uefiFilesInfo "/deploy/vmlinuz"
            "/deploy/initrd" [] (espPathInfo "/deploy/esp.img" (lstripSlash isoConf.grubConfigPath)))
            efibootLocation none) "/images/boot.iso")) (removeTempDir "/tmp/root") seen ∧
        ∀ key, seen.lookup key =
          if isBelow (locate "/tmp/root") key then
            uefiRootNode espHost "/tmp/root" (uefiFilesInfo "/deploy/vmlinuz" "/deploy/initrd" []
              (espPathInfo "/deploy/esp.img" (lstripSlash isoConf.grubConfigPath)))
              (joinPath "/tmp/root" (lstripSlash isoConf.grubConfigPath)) "" key
          else if key = locate "/tmp/root" then some .dir else espHost.lookup key := by
  have emptyTmp : ∀ key, isBelow (locate "/tmp/root") key = true → espHost.lookup key = none :=
    Host.lookup_ofFiles_below (by decide)
  have emptyMount : ∀ key, isBelow (locate "/tmp/mnt") key = true → espHost.lookup key = none :=
    Host.lookup_ofFiles_below (by decide)
  have sources : ∀ source ∈ ["/deploy/vmlinuz", "/deploy/initrd", "/deploy/esp.img", "/dev/null"] ++
      ([] : List (String × String)).map Prod.fst,
      outside (locate "/tmp/root") (locate source) = true ∧
        ∃ content, espHost.lookup (locate source) = some (.file content) := by
    intro source mem
    simp only [List.map_nil, List.append_nil, List.mem_cons, List.mem_singleton,
      List.not_mem_nil, or_false] at mem
    rcases mem with rfl | rfl | rfl | rfl <;> exact ⟨rfl, _, rfl⟩
  have below : ∀ path ∈ ["vmlinuz", "initrd", efibootLocation, lstripSlash isoConf.grubConfigPath] ++
      ([] : List (String × String)).map Prod.snd, staysBelow path = true := by decide
  have noAncestor : ∀ a ∈ ["vmlinuz", "initrd", efibootLocation, lstripSlash isoConf.grubConfigPath] ++
        ([] : List (String × String)).map Prod.snd,
      ∀ b ∈ ["vmlinuz", "initrd", efibootLocation, lstripSlash isoConf.grubConfigPath] ++
        ([] : List (String × String)).map Prod.snd,
        resolve (joinPath "/tmp/root" a) <+: resolve (joinPath "/tmp/root" b) →
          resolve (joinPath "/tmp/root" a) = resolve (joinPath "/tmp/root" b) := by decide
  exact ⟨fun _ => rfl, rfl, rfl, rfl, rfl, rfl, rfl, emptyTmp, emptyMount, by decide, sources, below,
    noAncestor, rfl, createEspImageForUefi_esp_root (fun _ => rfl) rfl rfl rfl rfl rfl rfl emptyTmp
      emptyMount (by decide) sources below noAncestor rfl⟩

end EspImage

/-! ## `create_esp_image_for_uefi` with both or neither of the boot sources -/

section Unconfigured

variable {tools : BootTools} {fs : FileSystem} {conf : BootConfig} {host : Host}
  {outputFile kernel ramdisk tmpdir mountdir : String} {deployIso espImage : Option String}
  {kernelParams : Option (List String)} {injectFiles : List (String × String)}
  {publisherId : Option String}

theorem lookup_none_of_not_outside {dir key : String} (free : host.lookup (locate dir) = none)
    (empty : ∀ key, isBelow (locate dir) key = true → host.lookup key = none)
    (inside : ¬outside (locate dir) key = true) : host.lookup key = none := by
  by_cases same : key = locate dir
  · rw [same, free]
  · exact empty key ((outside_or_isBelow same).resolve_left inside)

theorem createEspImageForUefi_raises_unconfigured (unconfigured : truthy deployIso = truthy espImage)
    (tmpName : fs.tempName host.draws = tmpdir) (mountName : fs.tempName (host.draws + 1) = mountdir)
    (tmpFree : host.lookup (locate tmpdir) = none) (mountFree : host.lookup (locate mountdir) = none)
    (apart : outside (locate tmpdir) (locate mountdir) = true)
    (apart' : outside (locate mountdir) (locate tmpdir) = true)
    (emptyTmp : ∀ key, isBelow (locate tmpdir) key = true → host.lookup key = none)
    (emptyMount : ∀ key, isBelow (locate mountdir) key = true → host.lookup key = none) :
    ∃ host', createEspImageForUefi tools fs conf outputFile kernel ramdisk deployIso espImage
        kernelParams injectFiles publisherId host =
      .error (.imageCreationFailed "iso"
        (.message "Neither deploy ISO nor ESP image configured or both of them configured")) host' ∧
      ∀ key, host'.lookup key = host.lookup key := by
  obtain ⟨made₁, made₂⟩ := mkdtemp_twice tmpName mountName tmpFree mountFree (ne_of_outside apart)
  have raised : espRoot tools fs conf tmpdir mountdir deployIso espImage
      (dictUpdate (setItem (setItem [] (.path kernel) "vmlinuz") (.path ramdisk) "initrd")
        (injectFiles.map fun item => (.path item.1, item.2)))
      ((host.draw.put (locate tmpdir) .dir).draw.put (locate mountdir) .dir) =
      .error (.imageCreationFailed "iso"
        (.message "Neither deploy ISO nor ESP image configured or both of them configured"))
        ((host.draw.put (locate tmpdir) .dir).draw.put (locate mountdir) .dir) := by
    rw [espRoot, if_neg (by simp [unconfigured]), if_neg (by simp [unconfigured])]
    rfl
  have mountDir : ((host.draw.put (locate tmpdir) .dir).draw.put (locate mountdir) .dir).lookup
      (locate mountdir) = some .dir := by rw [Host.lookup_put, if_pos rfl]
  have tmpDir : (((host.draw.put (locate tmpdir) .dir).draw.put (locate mountdir) .dir).removeTree
      (locate mountdir)).lookup (locate tmpdir) = some .dir := by
    rw [Host.lookup_removeTree, if_pos apart', lookup_twoDirs_tmpdir (ne_of_outside apart)]
  refine ⟨((((host.draw.put (locate tmpdir) .dir).draw.put (locate mountdir) .dir).removeTree
    (locate mountdir)).removeTree (locate tmpdir)), ?_, fun key => ?_⟩
  · rw [createEspImageForUefi, withTempDir_run, made₁]
    dsimp only
    rw [run_bind_error (show withTempDir fs _ _ = _ by rw [withTempDir_run, made₂]; dsimp only; rw [raised])]
    dsimp only
    rw [show cleanedUp mountdir _ = _ by rw [cleanedUp, if_pos mountDir],
      show cleanedUp tmpdir _ = _ by rw [cleanedUp, if_pos tmpDir]]
  · rw [Host.lookup_removeTree, Host.lookup_removeTree]
    by_cases inTmp : outside (locate tmpdir) key = true
    · by_cases inMount : outside (locate mountdir) key = true
      · rw [if_pos inTmp, if_pos inMount, lookup_twoDirs (ne_of_outside inMount) (ne_of_outside inTmp)]
      · rw [if_pos inTmp, if_neg inMount, lookup_none_of_not_outside mountFree emptyMount inMount]
    · rw [if_neg inTmp, lookup_none_of_not_outside tmpFree emptyTmp inTmp]

/-- `create_esp_image_for_uefi` given both or neither of a deploy ISO and an ESP image raises
`ImageCreationFailed` and leaves every path as it was. -/
theorem createEspImageForUefi_unconfigured (unconfigured : truthy deployIso = truthy espImage)
    (tmpName : fs.tempName host.draws = tmpdir) (mountName : fs.tempName (host.draws + 1) = mountdir)
    (tmpFree : host.lookup (locate tmpdir) = none) (mountFree : host.lookup (locate mountdir) = none)
    (apart : outside (locate tmpdir) (locate mountdir) = true)
    (apart' : outside (locate mountdir) (locate tmpdir) = true)
    (emptyTmp : ∀ key, isBelow (locate tmpdir) key = true → host.lookup key = none)
    (emptyMount : ∀ key, isBelow (locate mountdir) key = true → host.lookup key = none) :
    ∃ host', createEspImageForUefi tools fs conf outputFile kernel ramdisk deployIso espImage
        kernelParams injectFiles publisherId host =
      .error (.imageCreationFailed "iso"
        (.message "Neither deploy ISO nor ESP image configured or both of them configured")) host' ∧
      ∀ key, host'.lookup key = host.lookup key :=
  createEspImageForUefi_raises_unconfigured unconfigured tmpName mountName tmpFree mountFree apart apart'
    emptyTmp emptyMount

theorem createEspImageForUefi_unconfigured_sample :
    truthy none = truthy none ∧ uefiFs.tempName espHost.draws = "/tmp/root" ∧
      uefiFs.tempName (espHost.draws + 1) = "/tmp/mnt" ∧
      espHost.lookup (locate "/tmp/root") = none ∧ espHost.lookup (locate "/tmp/mnt") = none ∧
      outside (locate "/tmp/root") (locate "/tmp/mnt") = true ∧
      outside (locate "/tmp/mnt") (locate "/tmp/root") = true ∧
      (∀ key, isBelow (locate "/tmp/root") key = true → espHost.lookup key = none) ∧
      (∀ key, isBelow (locate "/tmp/mnt") key = true → espHost.lookup key = none) ∧
      ∃ host', createEspImageForUefi ddOnlyTools uefiFs isoConf "/images/boot.iso" "/deploy/vmlinuz"
          "/deploy/initrd" none none none [] none espHost =
        .error (.imageCreationFailed "iso"
          (.message "Neither deploy ISO nor ESP image configured or both of them configured")) host' ∧
        ∀ key, host'.lookup key = espHost.lookup key := by
  have emptyTmp : ∀ key, isBelow (locate "/tmp/root") key = true → espHost.lookup key = none :=
    Host.lookup_ofFiles_below (by decide)
  have emptyMount : ∀ key, isBelow (locate "/tmp/mnt") key = true → espHost.lookup key = none :=
    Host.lookup_ofFiles_below (by decide)
  exact ⟨rfl, rfl, rfl, rfl, rfl, rfl, rfl, emptyTmp, emptyMount,
    createEspImageForUefi_unconfigured rfl rfl rfl rfl rfl rfl rfl emptyTmp emptyMount⟩

end Unconfigured

end Ironic
