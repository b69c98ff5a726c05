import Ironic.RootFs
import Ironic.Fetch

/-!
The boot media builders of `ironic.common.images`: `create_vfat_image`,
`create_isolinux_image_for_bios` and `create_esp_image_for_uefi`, with `_generate_cfg`,
`_label`, `_extract_iso` and `_get_deploy_iso_files`, and `create_boot_iso`, which fetches
the kernel, the ramdisk and the EFI boot source into a temporary directory and runs one of
the ISO builders on them. The programs they run (`dd`, `mkfs`,
`mcopy`, `mkisofs`), the template engine and the ISO reader are the fields of `BootTools`,
the options they read are `BootConfig`, and the file system's choices are `FileSystem`.
-/

namespace Ironic

/-- What `pycdlib` reads from an ISO image, in the order `walk` gives it: a directory or a
file, with its path relative to the image's root. -/
inductive IsoEntry where
  | dir (path : String)
  | file (path : String) (content : Bytes)

/-- The programs the builders run, each as a function of its command line and of the host it
runs on; `utils.render_template` on a template path and its options; and what `pycdlib`
reads from the bytes of an image. -/
structure BootTools where
  execute : List String → Host → ToolOutcome
  renderTemplate : String → List (String × String) → Except Error String
  readIso : Bytes → Except Error (List IsoEntry)

/-- The options the builders read: `[DEFAULT]isolinux_bin`, `ldlinux_c32`,
`isolinux_config_template`, `grub_config_template` and `grub_config_path`. -/
structure BootConfig where
  isolinuxBin : String
  ldlinuxC32 : Option String
  isolinuxConfigTemplate : String
  grubConfigTemplate : String
  grubConfigPath : String

/-- `ISOLINUX_BIN`. -/
def isolinuxBinPath : String := "isolinux/isolinux.bin"

/-- `ISOLINUX_CFG`. -/
def isolinuxCfgPath : String := "isolinux/isolinux.cfg"

/-- `LDLINUX_SRC_DIRS`. -/
def ldlinuxSrcDirs : List String := ["/usr/lib/syslinux/modules/bios", "/usr/share/syslinux"]

/-- `LDLINUX_BIN`. -/
def ldlinuxBinPath : String := "isolinux/ldlinux.c32"

/-- `EFIBOOT_LOCATION`. -/
def efibootLocation : String := "boot/grub/efiboot.img"

/-- `_label(files_info)`. -/
def label (filesInfo : List (FileSource × String)) : String :=
  if filesInfo.any fun item => "openstack/".data.isPrefixOf item.2.data then "config-2"
  else "VMEDIA_BOOT_ISO"

/-- `path.lstrip(' ' + os.sep)`. -/
def lstripSlash (path : String) : String := ⟨path.data.dropWhile fun c => c == ' ' || c == '/'⟩

/-- The last of `found` named `name`: the one the `rglob` loop of `_get_deploy_iso_files`
keeps. -/
def lastNamed (name : String) (found : List (String × String)) : Option (String × String) :=
  (found.filter fun item => baseName item.2 == name).getLast?

/-- The `dd` command line of `create_vfat_image`. -/
def ddArgs (outputFile : String) (fsSizeKib : Nat) : List String :=
  ["dd", "if=/dev/zero", "of=" ++ outputFile, "count=1", "bs=" ++ toString fsSizeKib ++ "KiB"]

/-- The `mkfs` command line of `create_vfat_image`. -/
def mkfsArgs (outputFile : String) : List String :=
  ["mkfs", "-t", "vfat", "-n", "ir-vfd-dev", outputFile]

/-- The `mkisofs` command line of `create_isolinux_image_for_bios`. -/
def isolinuxMkisofsArgs (outputFile tmpdir : String) (filesInfo : List (FileSource × String))
    (publisherId : Option String) : List String :=
  ["mkisofs", "-r", "-V", label filesInfo, "-J", "-l", "-publisher", publisherId.getD "None",
    "-no-emul-boot", "-boot-load-size", "4", "-boot-info-table", "-b", isolinuxBinPath,
    "-o", outputFile, tmpdir]

/-- The `mkisofs` command line of `create_esp_image_for_uefi`. -/
def espMkisofsArgs (outputFile tmpdir : String) (filesInfo : List (FileSource × String))
    (eImgRelPath : String) (publisherId : Option String) : List String :=
  if truthy publisherId then
    ["mkisofs", "-r", "-V", label filesInfo, "-l", "-publisher", publisherId.getD "", "-e",
      eImgRelPath, "-no-emul-boot", "-o", outputFile, tmpdir]
  else
    ["mkisofs", "-r", "-V", label filesInfo, "-l", "-e", eImgRelPath, "-no-emul-boot", "-o",
      outputFile, tmpdir]

section Builders

variable (tools : BootTools) (fs : FileSystem) (conf : BootConfig)

/-- `utils.execute(*argv)` of a program that writes `output`: what it writes, or what it
leaves behind when it fails, lands there. -/
def executeWriting (argv : List String) (output : String) : Run Unit := fun host =>
  let ran := host.record (.execute argv)
  match tools.execute argv host with
  | .wrote written => .ok () (ran.put (locate output) (.file written))
  | .failed error leftover => .error error (ran.leave (locate output) leftover)

/-- `except processutils.ProcessExecutionError as e: raise ImageCreationFailed(...)`. -/
def wrapProcessError (imageType : String) (x : Run Unit) : Run Unit :=
  tryCatch x fun error =>
    if error.isProcessExecutionError then throw (.imageCreationFailed imageType error)
    else throw error

/-- `except EnvironmentError as e: raise ImageCreationFailed(...)`. -/
def wrapOSError (imageType : String) (x : Run Unit) : Run Unit :=
  tryCatch x fun error =>
    if error.isOSError then throw (.imageCreationFailed imageType error) else throw error

/-- `_generate_cfg(kernel_params, template, options)`. -/
def generateCfg (kernelParams : Option (List String)) (template : String)
    (options : List (String × String)) : Except Error String :=
  tools.renderTemplate template
    (setItem options "kernel_params" (" ".intercalate (kernelParams.getD [])))

/-- The part of `create_vfat_image` under `except Exception`: the root of the image in
`tmpdir`, the parameters file, and `mcopy` of what `tmpdir` holds into the image. -/
def fillVfatImage (outputFile tmpdir : String) (filesInfo : List (FileSource × String))
    (parameters : List (String × String)) (parametersFile : String) : Run Unit := do
  (if filesInfo.isEmpty then pure () else createRootFs fs tmpdir filesInfo)
  (if parameters.isEmpty then pure ()
    else writeToFile fs (joinPath tmpdir parametersFile)
      ("\n".intercalate (parameters.map fun item => item.1 ++ "=" ++ item.2)))
  let fileList ← reading (iterdir tmpdir)
  if fileList.isEmpty then pure ()
  else executeWriting tools (["mcopy", "-s"] ++ fileList ++ ["-i", outputFile, "::"]) outputFile

/-- `create_vfat_image(output_file, files_info, parameters, parameters_file, fs_size_kib)`. -/
def createVfatImage (outputFile : String) (filesInfo : List (FileSource × String))
    (parameters : List (String × String)) (parametersFile : String) (fsSizeKib : Nat) :
    Run Unit := do
  wrapProcessError "vfat" (executeWriting tools (ddArgs outputFile fsSizeKib) outputFile)
  withTempDir fs fun tmpdir => do
    wrapProcessError "vfat" (executeWriting tools (mkfsArgs outputFile) outputFile)
    tryCatch (fillVfatImage tools fs outputFile tmpdir filesInfo parameters parametersFile)
      fun error => throw (.imageCreationFailed "vfat" error)

/-- The `ldlinux.c32` to copy: `[DEFAULT]ldlinux_c32`, or the first of `LDLINUX_SRC_DIRS` that
holds one. -/
def ldlinuxSource (host : Host) : Option String :=
  if truthy conf.ldlinuxC32 then conf.ldlinuxC32
  else (ldlinuxSrcDirs.map fun directory => joinPath directory "ldlinux.c32").find? (isFile host)

/-- The `files_info` of `create_isolinux_image_for_bios`. -/
def isolinuxFiles (kernel ramdisk : String) (injectFiles : List (String × String))
    (ldlinux : Option String) : List (FileSource × String) :=
  let filesInfo := setItem (setItem (setItem [] (.path kernel) "vmlinuz") (.path ramdisk) "initrd")
    (.path conf.isolinuxBin) isolinuxBinPath
  let filesInfo := dictUpdate filesInfo (injectFiles.map fun item => (.path item.1, item.2))
  match ldlinux with
  | some source => setItem filesInfo (.path source) ldlinuxBinPath
  | none => filesInfo

/-- The root `create_isolinux_image_for_bios` builds in `tmpdir`, up to `isolinux.cfg`; it
returns `files_info`. -/
def isolinuxRoot (tmpdir kernel ramdisk : String) (kernelParams : Option (List String))
    (injectFiles : List (String × String)) : Run (List (FileSource × String)) := do
  let filesInfo := isolinuxFiles conf kernel ramdisk injectFiles (← reading (ldlinuxSource conf))
  wrapOSError "iso" (createRootFs fs tmpdir filesInfo)
  let cfg ← ofExcept (generateCfg tools kernelParams conf.isolinuxConfigTemplate
    [("kernel", "/vmlinuz"), ("ramdisk", "/initrd")])
  writeToFile fs (joinPath tmpdir isolinuxCfgPath) cfg
  pure filesInfo

/-- `create_isolinux_image_for_bios(output_file, kernel, ramdisk, kernel_params,
inject_files, publisher_id)`. -/
def createIsolinuxImageForBios (outputFile kernel ramdisk : String)
    (kernelParams : Option (List String)) (injectFiles : List (String × String))
    (publisherId : Option String) : Run Unit :=
  withTempDir fs fun tmpdir => do
    let filesInfo ← isolinuxRoot tools fs conf tmpdir kernel ramdisk kernelParams injectFiles
    wrapProcessError "iso"
      (executeWriting tools (isolinuxMkisofsArgs outputFile tmpdir filesInfo publisherId) outputFile)

/-- The loop of `_extract_iso` over what `pycdlib` reads, below `extract_dir`. -/
def extractEntries (extractDir : String) : List IsoEntry → Run Unit
  | [] => pure ()
  | .dir path :: rest => do
      mkdirParents (resolve (joinPath extractDir path)).reverse
      extractEntries extractDir rest
  | .file path content :: rest => do
      writeBytes fs (joinPath extractDir path) content
      extractEntries extractDir rest

/-- `_extract_iso(extract_iso, extract_dir)`. -/
def extractIso (extractIsoPath extractDir : String) : Run Unit := do
  let image ← readFile (locate extractIsoPath)
  extractEntries fs extractDir (← ofExcept (tools.readIso image))

/-- `_get_deploy_iso_files(deploy_iso, mountdir)`: the EFI boot image and `grub.cfg` of the
deploy ISO extracted into `mountdir`, with their paths relative to it. -/
def getDeployIsoFiles (deployIso mountdir : String) :
    Run (List (FileSource × String) × String × String) := do
  tryCatch (extractIso tools fs deployIso mountdir) fun error =>
    throw (.imageCreationFailed "iso" error)
  let found ← reading (filesBelow mountdir)
  match lastNamed "efiboot.img" found, lastNamed "grub.cfg" found with
  | some (eImgPath, eImgRelPath), some (grubPath, grubRelPath) =>
      pure (setItem (setItem [] (.path eImgPath) eImgRelPath) (.path grubPath) grubRelPath,
        eImgRelPath, grubRelPath)
  | _, _ => do
      rmtree mountdir
      throw (.imageCreationFailed "iso" (.message "Deploy iso didn't contain efiboot.img or grub.cfg"))

/-- The part of `create_esp_image_for_uefi` inside `with utils.tempdir() as mountdir`, which
gives `files_info`, `e_img_rel_path` and `grub_cfg`. -/
def espRoot (tmpdir mountdir : String) (deployIso espImage : Option String)
    (filesInfo : List (FileSource × String)) :
    Run (List (FileSource × String) × String × String) := do
  let (uefiPathInfo, eImgRelPath, grubRelPath) ← (
    if truthy deployIso && !truthy espImage then
      getDeployIsoFiles tools fs (deployIso.getD "") mountdir
    else if truthy espImage && !truthy deployIso then
      let grubRelPath := lstripSlash conf.grubConfigPath
      pure (setItem (setItem [] (.path (espImage.getD "")) efibootLocation) (.path "/dev/null")
        grubRelPath, efibootLocation, grubRelPath)
    else throw (.imageCreationFailed "iso"
      (.message "Neither deploy ISO nor ESP image configured or both of them configured")))
  let filesInfo := dictUpdate filesInfo uefiPathInfo
  withFinally (wrapOSError "iso" (createRootFs fs tmpdir filesInfo))
    (if truthy deployIso then rmtree mountdir else pure ())
  pure (filesInfo, eImgRelPath, joinPath tmpdir grubRelPath)

/-- `create_esp_image_for_uefi(output_file, kernel, ramdisk, deploy_iso, esp_image,
kernel_params, inject_files, publisher_id)`. -/
def createEspImageForUefi (outputFile kernel ramdisk : String)
    (deployIso espImage : Option String) (kernelParams : Option (List String))
    (injectFiles : List (String × String)) (publisherId : Option String) : Run Unit :=
  withTempDir fs fun tmpdir => do
    let filesInfo := dictUpdate (setItem (setItem [] (.path kernel) "vmlinuz") (.path ramdisk) "initrd")
      (injectFiles.map fun item => (.path item.1, item.2))
    let (filesInfo, eImgRelPath, grubCfg) ← withTempDir fs fun mountdir =>
      espRoot tools fs conf tmpdir mountdir deployIso espImage filesInfo
    let grubConf ← ofExcept (generateCfg tools kernelParams conf.grubConfigTemplate
      [("linux", "/vmlinuz"), ("initrd", "/initrd")])
    writeToFile fs grubCfg grubConf
    wrapProcessError "iso" (executeWriting tools
      (espMkisofsArgs outputFile tmpdir filesInfo eImgRelPath publisherId) outputFile)

/-- `create_boot_iso`, where `espImage` is `[DEFAULT]esp_image`. -/
def createBootIso (conductor : Conductor) (converter : Tools) (fetcher : Fetcher)
    (espImage : Option String) (outputFilename kernelHref ramdiskHref : String)
    (deployIsoHref espImageHref rootUuid kernelParams bootMode : Option String)
    (injectFiles : List (String × String)) (publisherId : Option String) : Run Unit :=
  withTempDir fs fun tmpdir => do
    let kernelPath := joinPath tmpdir "kernel"
    let ramdiskPath := joinPath tmpdir "ramdisk"
    fetch conductor converter fetcher kernelHref kernelPath false none none
    fetch conductor converter fetcher ramdiskHref ramdiskPath false none none
    let params := (if truthy rootUuid then ["root=UUID=" ++ rootUuid.getD ""] else []) ++
      (if truthy kernelParams then [kernelParams.getD ""] else [])
    if bootMode = some "uefi" then do
      let (deployIsoPath, espImagePath) ← (
        if truthy deployIsoHref then do
          fetch conductor converter fetcher (deployIsoHref.getD "") (joinPath tmpdir "iso") false
            none none
          pure (some (joinPath tmpdir "iso"), (none : Option String))
        else if truthy espImageHref then do
          fetch conductor converter fetcher (espImageHref.getD "") (joinPath tmpdir "esp") false
            none none
          pure (none, some (joinPath tmpdir "esp"))
        else if truthy espImage then pure (none, espImage)
        else pure (none, none))
      createEspImageForUefi tools fs conf outputFilename kernelPath ramdiskPath deployIsoPath
        espImagePath (some params) injectFiles publisherId
    else
      createIsolinuxImageForBios tools fs conf outputFilename kernelPath ramdiskPath (some params)
        injectFiles publisherId

end Builders

/-! ## The programs and the wrappers around them -/

section Programs

variable {tools : BootTools} {argv : List String} {output : String} {host host' : Host}

theorem executeWriting_wrote {written : Bytes} (wrote : tools.execute argv host = .wrote written) :
    executeWriting tools argv output host =
      .ok () ((host.record (.execute argv)).put (locate output) (.file written)) := by
  simp [executeWriting, wrote]

theorem executeWriting_failed {error : Error} {leftover : Option Bytes}
    (failed : tools.execute argv host = .failed error leftover) :
    executeWriting tools argv output host =
      .error error ((host.record (.execute argv)).leave (locate output) leftover) := by
  simp [executeWriting, failed]

theorem executeWriting_eq_error {error : Error}
    (raised : executeWriting tools argv output host = .error error host') :
    ∃ leftover, tools.execute argv host = .failed error leftover ∧
      host' = (host.record (.execute argv)).leave (locate output) leftover := by
  cases outcome : tools.execute argv host with
  | wrote written => simp [executeWriting_wrote outcome] at raised
  | failed e leftover =>
      rw [executeWriting_failed outcome, EStateM.Result.error.injEq] at raised
      obtain ⟨rfl, rfl⟩ := raised
      exact ⟨leftover, rfl, rfl⟩

variable {imageType : String} {x : Run Unit} {error : Error}

theorem wrapProcessError_ok (ran : x host = .ok () host') :
    wrapProcessError imageType x host = .ok () host' :=
  run_tryCatch_ok ran

theorem wrapProcessError_error (ran : x host = .error error host')
    (exitCode : error.isProcessExecutionError = true) :
    wrapProcessError imageType x host = .error (.imageCreationFailed imageType error) host' := by
  rw [wrapProcessError, run_tryCatch_error ran]
  simp [exitCode]

theorem wrapProcessError_eq_error (raised : wrapProcessError imageType x host = .error error host') :
    ∃ error', x host = .error error' host' := by
  cases ran : x host with
  | ok u t => rw [wrapProcessError_ok ran] at raised; cases raised
  | error e t =>
      rw [wrapProcessError, run_tryCatch_error ran] at raised
      refine ⟨e, ?_⟩
      split at raised <;> simp only [run_throw, EStateM.Result.error.injEq] at raised <;>
        rw [raised.2]

end Programs

/-! ## Sample collaborators -/

def workFs : FileSystem := ⟨fun _ => "/tmp/work", fun _ => none⟩

def ddOnlyTools : BootTools where
  execute argv _ := match argv.head? with
    | some "dd" => .wrote [0, 0, 0, 0]
    | _ => .failed (.processExecutionError (argv.headD "")) none
  renderTemplate _ _ := .ok ""
  readIso _ := .ok []

def failingTools : BootTools where
  execute argv _ := .failed (.processExecutionError (argv.headD "")) none
  renderTemplate _ _ := .ok "default"
  readIso _ := .ok []

def unrenderableTools : BootTools where
  execute _ _ := .wrote [4]
  renderTemplate _ _ := .error (.other "UndefinedError")
  readIso _ := .ok []

def unavailableFetcher : Fetcher :=
  { sampleFetcher rawImage with getImageService := fun _ => .error (.other "ImageNotFound") }

def isoConf : BootConfig :=
  ⟨"/usr/lib/ISOLINUX/isolinux.bin", none, "/templates/isolinux.cfg.template",
    "/templates/grub.cfg.template", "/EFI/BOOT/grub.cfg"⟩

def deployHost : Host :=
  Host.ofFiles [("/deploy/vmlinuz", [1]), ("/deploy/initrd", [2]),
    ("/deploy/meta_data.json", [3]), ("/usr/lib/ISOLINUX/isolinux.bin", [5])]

/-! ## `create_vfat_image` -/

section Vfat

variable {tools : BootTools} {fs : FileSystem} {outputFile parametersFile : String}
  {filesInfo : List (FileSource × String)} {parameters : List (String × String)}
  {fsSizeKib : Nat} {host : Host}

theorem createVfatImage_mkfs_failed {zeros : Bytes} {error : Error}
    (dd : tools.execute (ddArgs outputFile fsSizeKib) host = .wrote zeros)
    (free : (host.lookup (locate (fs.tempName host.draws))).isSome = false)
    (away : outside (locate (fs.tempName host.draws)) (locate outputFile) = true)
    (mkfs : ∀ h, tools.execute (mkfsArgs outputFile) h = .failed error none)
    (exitCode : error.isProcessExecutionError = true) :
    ∃ host', createVfatImage tools fs outputFile filesInfo parameters parametersFile fsSizeKib
        host = .error (.imageCreationFailed "vfat" error) host' ∧
      host'.lookup (locate outputFile) = some (.file zeros) := by
  set written := (host.record (.execute (ddArgs outputFile fsSizeKib))).put (locate outputFile)
    (.file zeros)
  have tempNe : locate (fs.tempName host.draws) ≠ locate outputFile := by
    simpa using keyOf_append_ne away []
  have made : mkdtemp fs written = .ok (fs.tempName host.draws)
      (written.draw.put (locate (fs.tempName host.draws)) .dir) :=
    mkdtemp_free (by simpa [written, tempNe] using free)
  set made' := written.draw.put (locate (fs.tempName host.draws)) .dir
  have formatted : (wrapProcessError "vfat" (executeWriting tools (mkfsArgs outputFile) outputFile) >>=
      fun _ => tryCatch (fillVfatImage tools fs outputFile (fs.tempName host.draws) filesInfo
        parameters parametersFile) fun error => throw (.imageCreationFailed "vfat" error)) made' =
      .error (.imageCreationFailed "vfat" error) (made'.record (.execute (mkfsArgs outputFile))) :=
    run_bind_error (wrapProcessError_error (executeWriting_failed (mkfs _)) exitCode)
  refine ⟨cleanedUp (fs.tempName host.draws) (made'.record (.execute (mkfsArgs outputFile))), ?_, ?_⟩
  · rw [createVfatImage, run_bind_ok (wrapProcessError_ok (executeWriting_wrote dd)),
      withTempDir_run, made]
    dsimp only
    rw [formatted]
  · rw [cleanedUp_lookup away]
    simp [made', written, Ne.symm tempNe]

/-- A failed `mkfs` leaves the file `dd` created at `output_file`, and a template that does not
render raises the engine's error. -/
theorem createVfatImage_leaves_dd_output :
    (Host.ofFiles []).lookup (locate "/images/vfat.img") = none ∧
      (∃ host', createVfatImage ddOnlyTools workFs "/images/vfat.img" [] [] "parameters.txt" 100
          (Host.ofFiles []) = .error (.imageCreationFailed "vfat" (.processExecutionError "mkfs")) host' ∧
        host'.lookup (locate "/images/vfat.img") = some (.file [0, 0, 0, 0])) ∧
      ∃ host', createIsolinuxImageForBios unrenderableTools workFs isoConf "/images/boot.iso"
        "/deploy/vmlinuz" "/deploy/initrd" none [] none deployHost = .error (.other "UndefinedError") host' :=
  ⟨rfl, ⟨_, rfl, rfl⟩, _, rfl⟩

end Vfat

/-! ## `create_isolinux_image_for_bios` -/

section Isolinux

variable {tools : BootTools} {fs : FileSystem} {conf : BootConfig} {dir query : String}

theorem wrapOSError_keeps {imageType : String} {x : Run Unit} (body : Keeps dir query x) :
    Keeps dir query (wrapOSError imageType x) :=
  body.handle fun _ => Keeps.ite (Keeps.raises _) (Keeps.raises _)

theorem isolinuxFiles_staysBelow {kernel ramdisk : String} {injectFiles : List (String × String)}
    {ldlinux : Option String} (below : ∀ item ∈ injectFiles, staysBelow item.2 = true) :
    ∀ item ∈ isolinuxFiles conf kernel ramdisk injectFiles ldlinux, staysBelow item.2 = true := by
  have injected : ∀ item ∈ injectFiles.map fun item => (FileSource.path item.1, item.2),
      staysBelow item.2 = true := fun _ mem => by
    obtain ⟨injected, inside, rfl⟩ := List.mem_map.1 mem
    exact below injected inside
  have empty : ∀ item ∈ ([] : List (FileSource × String)), staysBelow item.2 = true :=
    fun _ none => absurd none (List.not_mem_nil _)
  have fixed : ∀ item ∈ isolinuxFiles conf kernel ramdisk injectFiles none,
      staysBelow item.2 = true :=
    dictUpdate_values (setItem_values (setItem_values (setItem_values empty (by rfl)) (by rfl))
      (by rfl)) injected
  cases ldlinux with
  | none => exact fixed
  | some source => exact setItem_values fixed (by rfl)

theorem isolinuxRoot_keeps {tmpdir kernel ramdisk : String} {kernelParams : Option (List String)}
    {injectFiles : List (String × String)} (away : outside (locate tmpdir) query = true)
    (below : ∀ item ∈ injectFiles, staysBelow item.2 = true) :
    Keeps (locate tmpdir) query
      (isolinuxRoot tools fs conf tmpdir kernel ramdisk kernelParams injectFiles) := by
  have cfgAway : locate (joinPath tmpdir isolinuxCfgPath) ≠ query := by
    rw [locate, resolve_joinPath (by decide : staysBelow isolinuxCfgPath = true)]
    exact keyOf_append_ne away _
  simp only [isolinuxRoot]
  exact (Keeps.reads _).bind fun _ =>
    (wrapOSError_keeps (createRootFs_keeps away _ (isolinuxFiles_staysBelow below))).bind fun _ =>
      (ofExcept_keeps _).bind fun _ => (writeToFile_keeps cfgAway).bind fun _ => Keeps.returns _

/-- A `create_isolinux_image_for_bios` that raises leaves `output_file` as it was, when the programs
it runs leave nothing behind on failure. -/
theorem createIsolinuxImageForBios_keeps_output {outputFile kernel ramdisk : String}
    {kernelParams : Option (List String)} {injectFiles : List (String × String)}
    {publisherId : Option String} {host host' : Host} {error : Error}
    (below : ∀ item ∈ injectFiles, staysBelow item.2 = true)
    (fresh : ∀ n, outside (locate (fs.tempName n)) (locate outputFile) = true)
    (noLeftover : ∀ argv h e leftover, tools.execute argv h = .failed e leftover → leftover = none)
    (raised : createIsolinuxImageForBios tools fs conf outputFile kernel ramdisk kernelParams
      injectFiles publisherId host = .error error host') :
    host'.lookup (locate outputFile) = host.lookup (locate outputFile) := by
  rw [createIsolinuxImageForBios, withTempDir_run] at raised
  cases made : mkdtemp fs host with
  | error e s =>
      rw [made, EStateM.Result.error.injEq] at raised
      rw [← raised.2]
      exact mkdtemp_eq_error made _
  | ok tmpdir s =>
      rw [made] at raised
      dsimp only at raised
      have away : outside (locate tmpdir) (locate outputFile) = true := by
        obtain ⟨n, rfl, -⟩ := mkdtemp_eq_ok made
        exact fresh n
      obtain ⟨isDir, placed⟩ := mkdtemp_lookup made away
      split at raised
      · cases raised
      · rename_i e t ran
        rw [EStateM.Result.error.injEq] at raised
        rw [← raised.2, cleanedUp_lookup away, ← placed]
        have rootKeeps := @isolinuxRoot_keeps tools fs conf _ tmpdir kernel ramdisk kernelParams
          injectFiles away below s isDir
        rcases run_bind_eq_error.1 ran with rootRaised | ⟨filesInfo, s₁, rootOk, mkisofsRaised⟩
        · simpa [rootRaised] using rootKeeps.2
        · obtain ⟨e', ranMkisofs⟩ := wrapProcessError_eq_error mkisofsRaised
          obtain ⟨leftover, failed, rfl⟩ := executeWriting_eq_error ranMkisofs
          rw [noLeftover _ _ _ _ failed]
          simpa [Host.leave, rootOk] using rootKeeps.2

theorem createIsolinuxImageForBios_keeps_output_failed :
    (∀ item ∈ [("/deploy/meta_data.json", "openstack/latest/meta_data.json")],
        staysBelow item.2 = true) ∧
      (∀ n, outside (locate (workFs.tempName n)) (locate "/images/boot.iso") = true) ∧
      (∀ argv h e leftover, failingTools.execute argv h = .failed e leftover → leftover = none) ∧
      ∃ host', createIsolinuxImageForBios failingTools workFs isoConf "/images/boot.iso"
          "/deploy/vmlinuz" "/deploy/initrd" none
          [("/deploy/meta_data.json", "openstack/latest/meta_data.json")] none deployHost =
          .error (.imageCreationFailed "iso" (.processExecutionError "mkisofs")) host' ∧
        host'.lookup (locate "/images/boot.iso") = deployHost.lookup (locate "/images/boot.iso") := by
  have below : ∀ item ∈ [("/deploy/meta_data.json", "openstack/latest/meta_data.json")],
      staysBelow item.2 = true := by decide
  have fresh : ∀ n, outside (locate (workFs.tempName n)) (locate "/images/boot.iso") = true :=
    fun _ => rfl
  have noLeftover : ∀ argv h e leftover, failingTools.execute argv h = .failed e leftover →
      leftover = none := by
    intro argv h e leftover failed
    cases failed
    rfl
  have raised : createIsolinuxImageForBios failingTools workFs isoConf "/images/boot.iso"
      "/deploy/vmlinuz" "/deploy/initrd" none
      [("/deploy/meta_data.json", "openstack/latest/meta_data.json")] none deployHost =
      .error (.imageCreationFailed "iso" (.processExecutionError "mkisofs")) _ := rfl
  exact ⟨below, fresh, noLeftover, _, raised,
    createIsolinuxImageForBios_keeps_output below fresh noLeftover raised⟩

end Isolinux

/-! ## What the builders raise -/

/-- What the ISO builders may raise: `ImageCreationFailed`, an error of the file system, the
template engine's error, or the error of an `mkisofs` that did not run to an exit status. -/
def IsoBuildError (tools : BootTools) (fs : FileSystem) (e : Error) : Prop :=
  (∃ cause, e = .imageCreationFailed "iso" cause) ∨ FsError fs e ∨
    (∃ template options, tools.renderTemplate template options = .error e) ∨
    (e.isProcessExecutionError = false ∧
      ∃ argv h leftover, argv.head? = some "mkisofs" ∧ tools.execute argv h = .failed e leftover)

section Raises

variable {tools : BootTools} {fs : FileSystem} {conf : BootConfig}

theorem executeWriting_raisesOnly (argv : List String) (output : String) :
    RaisesOnly (fun e => ∃ h leftover, tools.execute argv h = .failed e leftover)
      (executeWriting tools argv output) := by
  intro host e host' raised
  obtain ⟨leftover, failed, -⟩ := executeWriting_eq_error raised
  exact ⟨host, leftover, failed⟩

theorem wrapProcessError_raisesOnly {imageType : String} {caught : Error → Prop} {x : Run Unit}
    (body : RaisesOnly caught x) :
    RaisesOnly (fun e => (∃ cause, e = .imageCreationFailed imageType cause) ∨
      (e.isProcessExecutionError = false ∧ caught e)) (wrapProcessError imageType x) :=
  body.handle fun e ok => by
    by_cases exitCode : e.isProcessExecutionError
    · simpa [exitCode] using RaisesOnly.raises (.inl ⟨e, rfl⟩)
    · simpa [exitCode] using RaisesOnly.raises (.inr ⟨by simpa using exitCode, ok⟩)

theorem wrapOSError_raisesOnly {imageType : String} {caught : Error → Prop} {x : Run Unit}
    (body : RaisesOnly caught x) :
    RaisesOnly (fun e => (∃ cause, e = .imageCreationFailed imageType cause) ∨ caught e)
      (wrapOSError imageType x) :=
  body.handle fun e ok => RaisesOnly.ite (RaisesOnly.raises (.inl ⟨e, rfl⟩)) (RaisesOnly.raises (.inr ok))

theorem generateCfg_raisesOnly {kernelParams : Option (List String)} {template : String}
    {options : List (String × String)} :
    RaisesOnly (IsoBuildError tools fs) (ofExcept (generateCfg tools kernelParams template options) : Run String) :=
  ofExcept_raisesOnly fun _ failed => .inr (.inr (.inl ⟨_, _, failed⟩))

/-- `create_vfat_image` raises only `ImageCreationFailed`, the error of a `dd` or `mkfs` that did
not run, or the `OSError` of `tempfile.mkdtemp`. -/
theorem createVfatImage_raisesOnly {outputFile parametersFile : String}
    {filesInfo : List (FileSource × String)} {parameters : List (String × String)} {fsSizeKib : Nat} :
    RaisesOnly (fun e => (∃ cause, e = .imageCreationFailed "vfat" cause) ∨
        (e.isProcessExecutionError = false ∧
          ∃ argv ∈ [ddArgs outputFile fsSizeKib, mkfsArgs outputFile], ∃ h leftover,
            tools.execute argv h = .failed e leftover) ∨
        ∃ n, e = .osError (locate (fs.tempName n)))
      (createVfatImage tools fs outputFile filesInfo parameters parametersFile fsSizeKib) := by
  refine RaisesOnly.bind ?dd fun _ => withTempDir_raisesOnly (fun n => .inr (.inr ⟨n, rfl⟩))
    fun _ => RaisesOnly.bind ?mkfs fun _ =>
      RaisesOnly.catchAll fun e => RaisesOnly.raises (.inl ⟨e, rfl⟩)
  all_goals exact (wrapProcessError_raisesOnly (executeWriting_raisesOnly _ _)).mono fun _ raised =>
    raised.elim .inl fun ⟨exitCode, failed⟩ => .inr (.inl ⟨exitCode, _, by simp, failed⟩)

theorem isolinuxRoot_raisesOnly {tmpdir kernel ramdisk : String}
    {kernelParams : Option (List String)} {injectFiles : List (String × String)} :
    RaisesOnly (IsoBuildError tools fs)
      (isolinuxRoot tools fs conf tmpdir kernel ramdisk kernelParams injectFiles) := by
  simp only [isolinuxRoot]
  exact (RaisesOnly.reads _).bind fun _ =>
    ((wrapOSError_raisesOnly (createRootFs_raisesOnly _ _)).mono fun _ raised =>
      raised.elim .inl fun fsError => .inr (.inl fsError)).bind fun _ =>
    generateCfg_raisesOnly.bind fun _ =>
    ((writeToFile_raisesOnly _ _).mono fun _ fsError => .inr (.inl fsError)).bind fun _ =>
    RaisesOnly.returns _

theorem mkisofs_raisesOnly {argv : List String} {output : String}
    (mkisofs : argv.head? = some "mkisofs") :
    RaisesOnly (IsoBuildError tools fs) (wrapProcessError "iso" (executeWriting tools argv output)) :=
  (wrapProcessError_raisesOnly (executeWriting_raisesOnly _ _)).mono fun _ raised => by
    rcases raised with wrapped | ⟨exitCode, h, leftover, failed⟩
    · exact .inl wrapped
    · exact .inr (.inr (.inr ⟨exitCode, argv, h, leftover, mkisofs, failed⟩))

theorem createIsolinuxImageForBios_raisesOnly {outputFile kernel ramdisk : String}
    {kernelParams : Option (List String)} {injectFiles : List (String × String)}
    {publisherId : Option String} :
    RaisesOnly (IsoBuildError tools fs) (createIsolinuxImageForBios tools fs conf outputFile kernel
      ramdisk kernelParams injectFiles publisherId) :=
  withTempDir_raisesOnly (fun _ => .inr (.inl (.inl rfl))) fun _ =>
    isolinuxRoot_raisesOnly.bind fun _ => mkisofs_raisesOnly rfl

theorem getDeployIsoFiles_raisesOnly {deployIso mountdir : String} :
    RaisesOnly (IsoBuildError tools fs) (getDeployIsoFiles tools fs deployIso mountdir) := by
  unfold getDeployIsoFiles
  refine (RaisesOnly.catchAll fun e => RaisesOnly.raises (.inl ⟨e, rfl⟩)).bind fun _ =>
    (RaisesOnly.reads _).bind fun found => ?_
  split
  · exact RaisesOnly.returns _
  · exact ((rmtree_raisesOnly _).mono fun _ os => .inr (.inl (.inl os))).bind fun _ =>
      RaisesOnly.raises (.inl ⟨_, rfl⟩)

theorem espRoot_raisesOnly {tmpdir mountdir : String} {deployIso espImage : Option String}
    {filesInfo : List (FileSource × String)} :
    RaisesOnly (IsoBuildError tools fs)
      (espRoot tools fs conf tmpdir mountdir deployIso espImage filesInfo) := by
  unfold espRoot
  refine RaisesOnly.bind ?_ fun parts => ?_
  · exact RaisesOnly.ite getDeployIsoFiles_raisesOnly
      (RaisesOnly.ite (RaisesOnly.returns _) (RaisesOnly.raises (.inl ⟨_, rfl⟩)))
  obtain ⟨uefiPathInfo, eImgRelPath, grubRelPath⟩ := parts
  exact (RaisesOnly.withFinally
    ((wrapOSError_raisesOnly (createRootFs_raisesOnly _ _)).mono fun _ raised =>
      raised.elim .inl fun fsError => .inr (.inl fsError))
    (RaisesOnly.ite ((rmtree_raisesOnly _).mono fun _ os => .inr (.inl (.inl os)))
      (RaisesOnly.returns ()))).bind fun _ => RaisesOnly.returns _

theorem espMkisofsArgs_head {outputFile tmpdir eImgRelPath : String}
    {filesInfo : List (FileSource × String)} {publisherId : Option String} :
    (espMkisofsArgs outputFile tmpdir filesInfo eImgRelPath publisherId).head? = some "mkisofs" := by
  unfold espMkisofsArgs
  split <;> rfl

theorem createEspImageForUefi_raisesOnly {outputFile kernel ramdisk : String}
    {deployIso espImage : Option String} {kernelParams : Option (List String)}
    {injectFiles : List (String × String)} {publisherId : Option String} :
    RaisesOnly (IsoBuildError tools fs) (createEspImageForUefi tools fs conf outputFile kernel
      ramdisk deployIso espImage kernelParams injectFiles publisherId) := by
  refine withTempDir_raisesOnly (fun _ => .inr (.inl (.inl rfl))) fun tmpdir => ?_
  refine (withTempDir_raisesOnly (fun _ => .inr (.inl (.inl rfl))) fun _ =>
    espRoot_raisesOnly).bind fun parts => ?_
  obtain ⟨filesInfo, eImgRelPath, grubCfg⟩ := parts
  exact generateCfg_raisesOnly.bind fun _ =>
    ((writeToFile_raisesOnly _ _).mono fun _ fsError => .inr (.inl fsError)).bind fun _ =>
    mkisofs_raisesOnly espMkisofsArgs_head

end Raises

/-! ## `create_boot_iso` -/

section BootIso

variable {tools : BootTools} {fs : FileSystem} {conf : BootConfig} {conductor : Conductor}
  {converter : Tools} {fetcher : Fetcher} {espImage : Option String}
  {outputFilename kernelHref ramdiskHref : String}
  {deployIsoHref espImageHref rootUuid kernelParams bootMode : Option String}
  {injectFiles : List (String × String)} {publisherId : Option String}

/-- `create_boot_iso` raises what the ISO builders raise or, unwrapped, what `fetch` raises. -/
theorem createBootIso_raisesOnly :
    RaisesOnly (fun e => IsoBuildError tools fs e ∨ FetchError fetcher e)
      (createBootIso tools fs conf conductor converter fetcher espImage outputFilename kernelHref
        ramdiskHref deployIsoHref espImageHref rootUuid kernelParams bootMode injectFiles
        publisherId) := by
  have fetched : ∀ imageHref path, RaisesOnly (fun e => IsoBuildError tools fs e ∨ FetchError fetcher e)
      (fetch conductor converter fetcher imageHref path false none none) :=
    fun _ _ => (fetch_raisesOnly _ _ _ _).mono fun _ => .inr
  refine withTempDir_raisesOnly (fun _ => .inl (.inr (.inl (.inl rfl)))) fun tmpdir =>
    (fetched _ _).bind fun _ => (fetched _ _).bind fun _ => RaisesOnly.ite ?_
      (createIsolinuxImageForBios_raisesOnly.mono fun _ => .inl)
  refine RaisesOnly.bind ?_ fun paths => ?_
  · exact RaisesOnly.ite ((fetched _ _).bind fun _ => RaisesOnly.returns _)
      (RaisesOnly.ite ((fetched _ _).bind fun _ => RaisesOnly.returns _)
        (RaisesOnly.ite (RaisesOnly.returns _) (RaisesOnly.returns _)))
  obtain ⟨deployIsoPath, espImagePath⟩ := paths
  exact createEspImageForUefi_raisesOnly.mono fun _ => .inl

variable {host : Host}

/-- When no image service can be had for the kernel, `create_boot_iso` raises the error
`get_image_service` gave, not `ImageCreationFailed`. -/
theorem createBootIso_kernel_unavailable {e : Error}
    (unavailable : fetcher.getImageService kernelHref = .error e)
    (free : (host.lookup (locate (fs.tempName host.draws))).isSome = false)
    (kernelNotDir : host.lookup (joinPath (fs.tempName host.draws) "kernel") ≠ some .dir)
    (distinct : joinPath (fs.tempName host.draws) "kernel" ≠ locate (fs.tempName host.draws)) :
    ∃ host', createBootIso tools fs conf conductor converter fetcher espImage outputFilename
      kernelHref ramdiskHref deployIsoHref espImageHref rootUuid kernelParams bootMode injectFiles
      publisherId host = .error e host' := by
  have made : mkdtemp fs host = .ok (fs.tempName host.draws)
      (host.draw.put (locate (fs.tempName host.draws)) .dir) :=
    mkdtemp_free (by simpa using free)
  have failed : fetch conductor converter fetcher kernelHref (joinPath (fs.tempName host.draws) "kernel")
      false none none (host.draw.put (locate (fs.tempName host.draws)) .dir) =
      .error e ((host.draw.put (locate (fs.tempName host.draws)) .dir).erase
        (joinPath (fs.tempName host.draws) "kernel")) :=
    run_bind_error (removePathOnError_error
      (run_bind_error (run_bind_error (ofExcept_eq_error.2 ⟨unavailable, rfl⟩)))
      (by simp [distinct, kernelNotDir]))
  rw [createBootIso, withTempDir_run, made]
  dsimp only
  rw [run_bind_error failed]
  exact ⟨_, rfl⟩

theorem createBootIso_kernel_unavailable_imageNotFound :
    unavailableFetcher.getImageService "kernel" = .error (.other "ImageNotFound") ∧
      ((Host.ofFiles []).lookup (locate (workFs.tempName 0))).isSome = false ∧
      (Host.ofFiles []).lookup (joinPath (workFs.tempName 0) "kernel") ≠ some .dir ∧
      joinPath (workFs.tempName 0) "kernel" ≠ locate (workFs.tempName 0) ∧
      ∃ host', createBootIso failingTools workFs isoConf inspectingConductor sampleTools
        unavailableFetcher none "/images/boot.iso" "kernel" "ramdisk" none none none none none []
        none (Host.ofFiles []) = .error (.other "ImageNotFound") host' :=
  ⟨rfl, rfl, by decide, by decide, createBootIso_kernel_unavailable rfl rfl (by decide) (by decide)⟩

end BootIso

end Ironic
