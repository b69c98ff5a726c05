import Ironic.UefiRoot
import Ironic.DeployIso

/-!
What `create_esp_image_for_uefi` hands to `mkisofs` when it builds from a deploy ISO. The
builder makes `tmpdir` and `mountdir`, extracts the ISO into `mountdir` and picks its
`efiboot.img` and `grub.cfg` with `_get_deploy_iso_files`, copies the kernel, the ramdisk, the
injected files and those two files into `tmpdir` with `_create_root_fs`, removes `mountdir` in
the `finally` that follows, and renders the grub config over the copy of the ISO's `grub.cfg`.
`createEspImageForUefi_deploy_root` says the builder is `mkisofs` run on a host whose `tmpdir`
holds `uefiRootNode` of the extracted host, followed by the removal of `tmpdir`.
-/

namespace Ironic

/-- The paths of the files of the ISO that `_get_deploy_iso_files` may pick: those called
`efiboot.img` or `grub.cfg`. -/
def isoBootPaths (entries : List IsoEntry) : List String :=
  entries.filterMap fun
    | .file path _ => if baseName path = "efiboot.img" ∨ baseName path = "grub.cfg" then some path else none
    | .dir _ => none

/-! ## The files `_get_deploy_iso_files` picks -/

section Picked

variable {start host : Host} {mountdir name rel : String} {entries : List IsoEntry}

theorem isoNode_file {path : String} {content : Bytes} (member : IsoEntry.file path content ∈ entries) :
    ∃ bytes, isoNode mountdir entries (locate (joinPath mountdir path)) = some (.file bytes) := by
  cases last : lastIsoFile mountdir entries (locate (joinPath mountdir path)) with
  | none =>
      rw [lastIsoFile, List.findSome?_eq_none_iff] at last
      have landed := last _ (List.mem_reverse.2 member)
      simp [IsoEntry.bytesAt] at landed
  | some bytes => exact ⟨bytes, by simp [isoNode, last]⟩

theorem IsoFileAt.picked (fileAt : IsoFileAt entries name rel)
    (extracted : Extracted start mountdir entries host) (walk : TopDown mountdir entries)
    (relative : isAbsolute rel = false) (bootName : name = "efiboot.img" ∨ name = "grub.cfg") :
    staysBelow rel = true ∧
      (∃ path ∈ isoBootPaths entries, ∀ root,
        resolve (joinPath root rel) = resolve (joinPath root path)) ∧
      ∃ content, host.lookup (locate (joinPath mountdir rel)) = some (.file content) := by
  obtain ⟨path, content, member, called, same⟩ := fileAt
  have below : staysBelow path = true := walk.below _ member
  obtain ⟨below', lands⟩ := staysBelow_of_pathParts below relative same
  refine ⟨below', ⟨path, ?_, fun root => by rw [resolve_joinPath below', resolve_joinPath below, same]⟩, ?_⟩
  · exact List.mem_filterMap.2 ⟨_, member, by rcases bootName with rfl | rfl <;> simp [called]⟩
  · rw [extracted.belowRoot _ (isBelow_locate_joinPath below'), lands]
    exact isoNode_file member

end Picked

/-! ## `create_esp_image_for_uefi` with a deploy ISO -/

section DeployRoot

variable {tools : BootTools} {fs : FileSystem} {conf : BootConfig} {host h hx h' : Host}
  {outputFile kernel ramdisk deployIso tmpdir mountdir grubConf eImgRelPath grubRelPath : String}
  {image : Bytes} {entries : List IsoEntry} {kernelParams : Option (List String)}
  {injectFiles : List (String × String)} {publisherId : Option String}
  {filesInfo info : List (FileSource × String)}

theorem espRoot_deploy (named : deployIso ≠ "")
    (got : getDeployIsoFiles tools fs deployIso mountdir h = .ok (info, eImgRelPath, grubRelPath) hx)
    (built : createRootFs fs tmpdir (dictUpdate filesInfo info) hx = .ok () h')
    (isDir : h'.lookup (locate mountdir) = some .dir) :
    espRoot tools fs conf tmpdir mountdir (some deployIso) none filesInfo h =
      .ok (dictUpdate filesInfo info, eImgRelPath, joinPath tmpdir grubRelPath)
        (h'.removeTree (locate mountdir)) := by
  have chosen : truthy (some deployIso) = true := by simp [truthy, named]
  have pick : (truthy (some deployIso) && !truthy none) = true := by simp [truthy, named]
  have removed : rmtree mountdir h' = .ok () (h'.removeTree (locate mountdir)) := by
    simp only [rmtree, isDir]
  rw [espRoot, if_pos pick, Option.getD_some, run_bind_ok got]
  exact run_bind_ok (withFinally_ok (run_tryCatch_ok built) (by rwa [if_pos chosen]))

theorem createEspImageForUefi_deploy_tree (passes : ∀ n, fs.writeFailure n = none)
    (tmpName : fs.tempName host.draws = tmpdir) (mountName : fs.tempName (host.draws + 1) = mountdir)
    (tmpFree : host.lookup (locate tmpdir) = none) (mountFree : host.lookup (locate mountdir) = none)
    (apart : outside (locate tmpdir) (locate mountdir) = true)
    (apart' : outside (locate mountdir) (locate tmpdir) = true)
    (emptyTmp : ∀ key, isBelow (locate tmpdir) key = true → host.lookup key = none)
    (emptyMount : ∀ key, isBelow (locate mountdir) key = true → host.lookup key = none)
    (named : deployIso ≠ "") (found : host.lookup (locate deployIso) = some (.file image))
    (read : tools.readIso image = .ok entries) (walk : TopDown mountdir entries)
    (hasImg : HasIsoFile entries "efiboot.img") (hasCfg : HasIsoFile entries "grub.cfg")
    (sources : ∀ source ∈ [kernel, ramdisk] ++ injectFiles.map Prod.fst,
      outside (locate tmpdir) (locate source) = true ∧
        ∃ content, host.lookup (locate source) = some (.file content))
    (below : ∀ path ∈ ["vmlinuz", "initrd"] ++ injectFiles.map Prod.snd, staysBelow path = true)
    (noAncestor : ∀ a ∈ ["vmlinuz", "initrd"] ++ injectFiles.map Prod.snd ++ isoBootPaths entries,
      ∀ b ∈ ["vmlinuz", "initrd"] ++ injectFiles.map Prod.snd ++ isoBootPaths entries,
        resolve (joinPath tmpdir a) <+: resolve (joinPath tmpdir b) →
          resolve (joinPath tmpdir a) = resolve (joinPath tmpdir b))
    (rendered : generateCfg tools kernelParams conf.grubConfigTemplate
      [("linux", "/vmlinuz"), ("initrd", "/initrd")] = .ok grubConf) :
    ∃ seen extracted eImgRelPath grubRelPath,
      IsoFileAt entries "efiboot.img" eImgRelPath ∧ IsoFileAt entries "grub.cfg" grubRelPath ∧
      (∀ key, isBelow (locate mountdir) key = true → extracted.lookup key = isoNode mountdir entries key) ∧
      (∀ key, outside (locate mountdir) key = true → key ≠ locate tmpdir →
        extracted.lookup key = host.lookup key) ∧
      createEspImageForUefi tools fs conf outputFile kernel ramdisk (some deployIso) none
          kernelParams injectFiles publisherId host =
        withFinally (wrapProcessError "iso" (executeWriting tools
          (espMkisofsArgs outputFile tmpdir (uefiFilesInfo kernel ramdisk injectFiles
            (setItem (setItem [] (.path (joinPath mountdir eImgRelPath)) eImgRelPath)
              (.path (joinPath mountdir grubRelPath)) grubRelPath)) eImgRelPath publisherId)
          outputFile)) (removeTempDir tmpdir) seen ∧
      ∀ key, seen.lookup key =
        if isBelow (locate tmpdir) key then
          uefiRootNode extracted tmpdir (uefiFilesInfo kernel ramdisk injectFiles
            (setItem (setItem [] (.path (joinPath mountdir eImgRelPath)) eImgRelPath)
              (.path (joinPath mountdir grubRelPath)) grubRelPath))
            (joinPath tmpdir grubRelPath) grubConf key
        else if key = locate tmpdir then some .dir else host.lookup key := by
  have tmpMount : locate mountdir ≠ locate tmpdir := ne_of_outside apart
  obtain ⟨made₁, made₂⟩ := mkdtemp_twice tmpName mountName tmpFree mountFree tmpMount
  -- the host the extraction starts from
  have fileApart : ∀ {key content}, host.lookup key = some (.file content) →
      outside (locate mountdir) key = true ∧ key ≠ locate tmpdir := fun file =>
    ⟨outside_of_file mountFree emptyMount file, ne_of_outside (outside_of_file tmpFree emptyTmp file)⟩
  have emptyMount₂ : ∀ key, isBelow (locate mountdir) key = true →
      ((host.draw.put (locate tmpdir) .dir).draw.put (locate mountdir) .dir).lookup key = none :=
    fun key inMount => by
      rw [lookup_twoDirs (ne_of_isBelow inMount) (ne_of_outside (outside_of_apart apart' apart inMount)),
        emptyMount key inMount]
  have found₂ : ((host.draw.put (locate tmpdir) .dir).draw.put (locate mountdir) .dir).lookup
      (locate deployIso) = some (.file image) := by
    obtain ⟨inMount, notTmp⟩ := fileApart found
    rw [lookup_twoDirs (ne_of_outside inMount) notTmp, found]
  have isDir₂ : ((host.draw.put (locate tmpdir) .dir).draw.put (locate mountdir) .dir).lookup
      (locate mountdir) = some .dir := by rw [Host.lookup_put, if_pos rfl]
  -- `_get_deploy_iso_files`, and the two files it picks
  obtain ⟨hx, eImgRelPath, grubRelPath, -, extracted, got, ⟨eImgAt, eImgRelative⟩, grubAt, grubRelative⟩ :=
    (@getDeployIsoFiles_extracted tools fs _ _ _ _ _ found₂ read walk isDir₂ emptyMount₂ hasImg
      hasCfg).resolve_right fun ⟨_, _, n, _, _, failed⟩ => by rw [passes] at failed; cases failed
  obtain ⟨eImgBelow, ⟨eImgPath, eImgListed, eImgSame⟩, eImgContent, eImgFile⟩ :=
    eImgAt.picked extracted walk eImgRelative (.inl rfl)
  obtain ⟨grubBelow, ⟨grubPath, grubListed, grubSame⟩, grubContent, grubFile⟩ :=
    grubAt.picked extracted walk grubRelative (.inr rfl)
  -- what `_create_root_fs` reads and writes
  have belowF : ∀ entry ∈ uefiFilesInfo kernel ramdisk injectFiles
      (setItem (setItem [] (.path (joinPath mountdir eImgRelPath)) eImgRelPath)
        (.path (joinPath mountdir grubRelPath)) grubRelPath), staysBelow entry.2 = true := by
    intro entry mem
    rcases mem_uefiFilesInfo_pair mem with ⟨-, placed⟩ | rfl | rfl
    · exact below _ placed
    · exact eImgBelow
    · exact grubBelow
  have sourcesF : ∀ entry ∈ uefiFilesInfo kernel ramdisk injectFiles
      (setItem (setItem [] (.path (joinPath mountdir eImgRelPath)) eImgRelPath)
        (.path (joinPath mountdir grubRelPath)) grubRelPath), ∀ source, entry.1 = .path source →
      outside (locate tmpdir) (locate source) = true ∧
        ∃ content, hx.lookup (locate source) = some (.file content) := by
    intro entry mem source named
    rcases mem_uefiFilesInfo_pair mem with ⟨⟨source', listed, named'⟩, -⟩ | rfl | rfl
    · obtain rfl : source' = source := FileSource.path.inj (named'.symm.trans named)
      obtain ⟨away, content, file⟩ := sources _ listed
      obtain ⟨inMount, notTmp⟩ := fileApart file
      exact ⟨away, content, by
        rw [extracted.outsideKept _ inMount, lookup_twoDirs (ne_of_outside inMount) notTmp, file]⟩
    · cases named
      exact ⟨outside_of_apart apart' apart (isBelow_locate_joinPath eImgBelow), eImgContent, eImgFile⟩
    · cases named
      exact ⟨outside_of_apart apart' apart (isBelow_locate_joinPath grubBelow), grubContent, grubFile⟩
  have noAncestorF := @noAncestor_of_rep (uefiFilesInfo kernel ramdisk injectFiles
      (setItem (setItem [] (.path (joinPath mountdir eImgRelPath)) eImgRelPath)
        (.path (joinPath mountdir grubRelPath)) grubRelPath)) _ _ noAncestor fun entry mem => by
    rcases mem_uefiFilesInfo_pair mem with ⟨-, placed⟩ | rfl | rfl
    · exact ⟨_, List.mem_append_left _ placed, rfl⟩
    · exact ⟨eImgPath, List.mem_append_right _ eImgListed, eImgSame tmpdir⟩
    · exact ⟨grubPath, List.mem_append_right _ grubListed, grubSame tmpdir⟩
  -- `_create_root_fs`, then `mountdir` removed
  obtain ⟨h₃, ran₃, built⟩ := createRootFs_passes passes
    ((extracted.outsideKept _ apart').trans (lookup_twoDirs_tmpdir tmpMount))
    (fun key inTmp => by
      have away := outside_of_apart apart apart' inTmp
      rw [extracted.outsideKept key away, lookup_twoDirs (ne_of_outside away) (ne_of_isBelow inTmp),
        emptyTmp key inTmp])
    belowF sourcesF noAncestorF
  refine ⟨_, hx, eImgRelPath, grubRelPath, eImgAt, grubAt, extracted.belowRoot,
    fun key inMount notTmp =>
      (extracted.outsideKept key inMount).trans (lookup_twoDirs (ne_of_outside inMount) notTmp),
    createEspImageForUefi_eq made₁ (cleanedUp_removeTree mountdir h₃ ▸ withTempDir_ok made₂
      (espRoot_deploy named got ran₃ ((built.outsideKept _ apart).trans extracted.rootDir))) rendered
      (built.writeToFile_grub apart apart' passes mem_uefiFilesInfo_last belowF noAncestorF),
    built.uefiTree apart apart' grubBelow
      (fun key away inMount => (extracted.outsideKept key inMount).trans
        (lookup_twoDirs (ne_of_outside inMount) (ne_of_outside away)))
      mountFree emptyMount⟩

/-- `create_esp_image_for_uefi` with a deploy ISO runs `mkisofs` on `uefiRootNode` of the extracted
ISO, with its `efiboot.img` as boot image. -/
theorem createEspImageForUefi_deploy_root (passes : ∀ n, fs.writeFailure n = none)
    (tmpName : fs.tempName host.draws = tmpdir) (mountName : fs.tempName (host.draws + 1) = mountdir)
    (tmpFree : host.lookup (locate tmpdir) = none) (mountFree : host.lookup (locate mountdir) = none)
    (apart : outside (locate tmpdir) (locate mountdir) = true)
    (apart' : outside (locate mountdir) (locate tmpdir) = true)
    (emptyTmp : ∀ key, isBelow (locate tmpdir) key = true → host.lookup key = none)
    (emptyMount : ∀ key, isBelow (locate mountdir) key = true → host.lookup key = none)
    (named : deployIso ≠ "") (found : host.lookup (locate deployIso) = some (.file image))
    (read : tools.readIso image = .ok entries) (walk : TopDown mountdir entries)
    (hasImg : HasIsoFile entries "efiboot.img") (hasCfg : HasIsoFile entries "grub.cfg")
    (sources : ∀ source ∈ [kernel, ramdisk] ++ injectFiles.map Prod.fst,
      outside (locate tmpdir) (locate source) = true ∧
        ∃ content, host.lookup (locate source) = some (.file content))
    (below : ∀ path ∈ ["vmlinuz", "initrd"] ++ injectFiles.map Prod.snd, staysBelow path = true)
    (noAncestor : ∀ a ∈ ["vmlinuz", "initrd"] ++ injectFiles.map Prod.snd ++ isoBootPaths entries,
      ∀ b ∈ ["vmlinuz", "initrd"] ++ injectFiles.map Prod.snd ++ isoBootPaths entries,
        resolve (joinPath tmpdir a) <+: resolve (joinPath tmpdir b) →
          resolve (joinPath tmpdir a) = resolve (joinPath tmpdir b))
    (rendered : generateCfg tools kernelParams conf.grubConfigTemplate
      [("linux", "/vmlinuz"), ("initrd", "/initrd")] = .ok grubConf) :
    ∃ seen extracted eImgRelPath grubRelPath,
      IsoFileAt entries "efiboot.img" eImgRelPath ∧ IsoFileAt entries "grub.cfg" grubRelPath ∧
      (∀ key, isBelow (locate mountdir) key = true → extracted.lookup key = isoNode mountdir entries key) ∧
      (∀ key, outside (locate mountdir) key = true → key ≠ locate tmpdir →
        extracted.lookup key = host.lookup key) ∧
      createEspImageForUefi tools fs conf outputFile kernel ramdisk (some deployIso) none
          kernelParams injectFiles publisherId host =
        withFinally (wrapProcessError "iso" (executeWriting tools
          (espMkisofsArgs outputFile tmpdir (uefiFilesInfo kernel ramdisk injectFiles
            (setItem (setItem [] (.path (joinPath mountdir eImgRelPath)) eImgRelPath)
              (.path (joinPath mountdir grubRelPath)) grubRelPath)) eImgRelPath publisherId)
          outputFile)) (removeTempDir tmpdir) seen ∧
      ∀ key, seen.lookup key =
        if isBelow (locate tmpdir) key then
          uefiRootNode extracted tmpdir (uefiFilesInfo kernel ramdisk injectFiles
            (setItem (setItem [] (.path (joinPath mountdir eImgRelPath)) eImgRelPath)
              (.path (joinPath mountdir grubRelPath)) grubRelPath))
            (joinPath tmpdir grubRelPath) grubConf key
        else if key = locate tmpdir then some .dir else host.lookup key :=
  createEspImageForUefi_deploy_tree passes tmpName mountName tmpFree mountFree apart apart' emptyTmp
    emptyMount named found read walk hasImg hasCfg sources below noAncestor rendered

def deployIsoHost : Host :=
  Host.ofFiles [("/deploy/vmlinuz", [1]), ("/deploy/initrd", [2]), ("/deploy/deploy.iso", [9])]

def deployIsoTools : BootTools := { ddOnlyTools with readIso := fun _ => .ok deployIsoEntries }

example : isoBootPaths deployIsoEntries = ["EFI/BOOT/efiboot.img", "EFI/BOOT/grub.cfg"] := by decide

theorem createEspImageForUefi_deploy_root_sample :
    (∀ n, uefiFs.writeFailure n = none) ∧ uefiFs.tempName deployIsoHost.draws = "/tmp/root" ∧
      uefiFs.tempName (deployIsoHost.draws + 1) = "/tmp/mnt" ∧
      deployIsoHost.lookup (locate "/tmp/root") = none ∧ deployIsoHost.lookup (locate "/tmp/mnt") = none ∧
      outside (locate "/tmp/root") (locate "/tmp/mnt") = true ∧
      outside (locate "/tmp/mnt") (locate "/tmp/root") = true ∧
      (∀ key, isBelow (locate "/tmp/root") key = true → deployIsoHost.lookup key = none) ∧
      (∀ key, isBelow (locate "/tmp/mnt") key = true → deployIsoHost.lookup key = none) ∧
      "/deploy/deploy.iso" ≠ "" ∧
      deployIsoHost.lookup (locate "/deploy/deploy.iso") = some (.file [9]) ∧
      deployIsoTools.readIso [9] = .ok deployIsoEntries ∧ TopDown "/tmp/mnt" deployIsoEntries ∧
      HasIsoFile deployIsoEntries "efiboot.img" ∧ HasIsoFile deployIsoEntries "grub.cfg" ∧
      (∀ source ∈ ["/deploy/vmlinuz", "/deploy/initrd"] ++ ([] : List (String × String)).map Prod.fst,
        outside (locate "/tmp/root") (locate source) = true ∧
          ∃ content, deployIsoHost.lookup (locate source) = some (.file content)) ∧
      (∀ path ∈ ["vmlinuz", "initrd"] ++ ([] : List (String × String)).map Prod.snd,
        staysBelow path = true) ∧
      (∀ a ∈ ["vmlinuz", "initrd"] ++ ([] : List (String × String)).map Prod.snd ++
          isoBootPaths deployIsoEntries,
        ∀ b ∈ ["vmlinuz", "initrd"] ++ ([] : List (String × String)).map Prod.snd ++
          isoBootPaths deployIsoEntries,
          resolve (joinPath "/tmp/root" a) <+: resolve (joinPath "/tmp/root" b) →
            resolve (joinPath "/tmp/root" a) = resolve (joinPath "/tmp/root" b)) ∧
      generateCfg deployIsoTools none isoConf.grubConfigTemplate
        [("linux", "/vmlinuz"), ("initrd", "/initrd")] = .ok "" ∧
      ∃ seen extracted eImgRelPath grubRelPath,
        IsoFileAt deployIsoEntries "efiboot.img" eImgRelPath ∧
        IsoFileAt deployIsoEntries "grub.cfg" grubRelPath ∧
        (∀ key, isBelow (locate "/tmp/mnt") key = true →
          extracted.lookup key = isoNode "/tmp/mnt" deployIsoEntries key) ∧
        (∀ key, outside (locate "/tmp/mnt") key = true → key ≠ locate "/tmp/root" →
          extracted.lookup key = deployIsoHost.lookup key) ∧
        createEspImageForUefi deployIsoTools uefiFs isoConf "/images/boot.iso" "/deploy/vmlinuz"
            "/deploy/initrd" (some "/deploy/deploy.iso") none none [] none deployIsoHost =
          withFinally (wrapProcessError "iso" (executeWriting deployIsoTools
            (espMkisofsArgs "/images/boot.iso" "/tmp/root" (uefiFilesInfo "/deploy/vmlinuz"
              "/deploy/initrd" [] (setItem (setItem [] (.path (joinPath "/tmp/mnt" eImgRelPath))
                eImgRelPath) (.path (joinPath "/tmp/mnt" grubRelPath)) grubRelPath)) eImgRelPath none)
            "/images/boot.iso")) (removeTempDir "/tmp/root") seen ∧
        ∀ key, seen.lookup key =
          if isBelow (locate "/tmp/root") key then
            uefiRootNode extracted "/tmp/root" (uefiFilesInfo "/deploy/vmlinuz" "/deploy/initrd" []
              (setItem (setItem [] (.path (joinPath "/tmp/mnt" eImgRelPath)) eImgRelPath)
                (.path (joinPath "/tmp/mnt" grubRelPath)) grubRelPath))
              (joinPath "/tmp/root" grubRelPath) "" key
          else if key = locate "/tmp/root" then some .dir else deployIsoHost.lookup key := by
  have emptyTmp : ∀ key, isBelow (locate "/tmp/root") key = true → deployIsoHost.lookup key = none :=
    Host.lookup_ofFiles_below (by decide)
  have emptyMount : ∀ key, isBelow (locate "/tmp/mnt") key = true → deployIsoHost.lookup key = none :=
    Host.lookup_ofFiles_below (by decide)
  have hasImg : HasIsoFile deployIsoEntries "efiboot.img" :=
    ⟨"EFI/BOOT/efiboot.img", [1], by simp [deployIsoEntries], by decide⟩
  have hasCfg : HasIsoFile deployIsoEntries "grub.cfg" :=
    ⟨"EFI/BOOT/grub.cfg", [2], by simp [deployIsoEntries], by decide⟩
  have sources : ∀ source ∈ ["/deploy/vmlinuz", "/deploy/initrd"] ++
      ([] : List (String × String)).map Prod.fst,
      outside (locate "/tmp/root") (locate source) = true ∧
        ∃ content, deployIsoHost.lookup (locate source) = some (.file content) := by
    intro source mem
    simp only [List.map_nil, List.append_nil, List.mem_cons, List.mem_singleton,
      List.not_mem_nil, or_false] at mem
    rcases mem with rfl | rfl <;> exact ⟨rfl, _, rfl⟩
  have below : ∀ path ∈ ["vmlinuz", "initrd"] ++ ([] : List (String × String)).map Prod.snd,
      staysBelow path = true := by decide
  have noAncestor : ∀ a ∈ ["vmlinuz", "initrd"] ++ ([] : List (String × String)).map Prod.snd ++
        isoBootPaths deployIsoEntries,
      ∀ b ∈ ["vmlinuz", "initrd"] ++ ([] : List (String × String)).map Prod.snd ++
        isoBootPaths deployIsoEntries,
        resolve (joinPath "/tmp/root" a) <+: resolve (joinPath "/tmp/root" b) →
          resolve (joinPath "/tmp/root" a) = resolve (joinPath "/tmp/root" b) := by decide
  exact ⟨fun _ => rfl, rfl, rfl, rfl, rfl, rfl, rfl, emptyTmp, emptyMount, by decide, rfl, rfl,
    deployIsoEntries_topDown, hasImg, hasCfg, sources, below, noAncestor, rfl,
    createEspImageForUefi_deploy_root (fun _ => rfl) rfl rfl rfl rfl rfl rfl emptyTmp emptyMount
      (by decide) rfl rfl deployIsoEntries_topDown hasImg hasCfg sources below noAncestor rfl⟩

end DeployRoot

end Ironic
