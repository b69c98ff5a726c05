import Ironic.IsolinuxRoot
import Ironic.UefiDeploy

/-!
`create_boot_iso` in BIOS mode, from the fetches to the ISO. It makes `tmpdir`, fetches the
kernel and the ramdisk into it as `kernel` and `ramdisk`, and hands them to
`create_isolinux_image_for_bios` with the kernel command line made of `root_uuid` and
`kernel_params`. `createBootIso_fetched` says what the call is once both fetches return, and
`createBootIso_bios_root` says that, when the image services hand over the two images, the whole
call is `mkisofs` over the isolinux root built from the fetched host, followed by the removal of
the builder's directory and then of `tmpdir`. In UEFI mode with no deploy ISO, no ESP image and no
`[DEFAULT]esp_image`, `createBootIso_uefi_unconfigured` says the call fetches both images, raises
the error of `create_esp_image_for_uefi`, and leaves the host's paths as they were. With an ESP
image reference and no deploy ISO, `createBootIso_uefi_esp_root` says the call is `mkisofs` over
the UEFI root built from the fetched kernel, ramdisk and ESP image, and
`createBootIso_uefi_confEsp_root` says the same of `[DEFAULT]esp_image`; with a deploy ISO,
`createBootIso_uefi_deploy_root` says it is `mkisofs` over the UEFI root built from the fetched
kernel and ramdisk and the `efiboot.img` and `grub.cfg` of the fetched ISO.
-/

namespace Ironic

/-- The kernel command line of `create_boot_iso`: `root=UUID=<root_uuid>`, then `kernel_params`,
each when given. -/
def bootParams (rootUuid kernelParams : Option String) : List String :=
  (if truthy rootUuid then ["root=UUID=" ++ rootUuid.getD ""] else []) ++
    (if truthy kernelParams then [kernelParams.getD ""] else [])

/-- The host `create_boot_iso` builds the ISO from: `tmpdir` made, and the kernel and the ramdisk
fetched into it. -/
def fetchedHost (host : Host) (tmpdir : String) (kernelImage ramdiskImage : Bytes) : Host :=
  ((host.draw.put tmpdir .dir).put (joinPath tmpdir "kernel") (.file kernelImage)).put
    (joinPath tmpdir "ramdisk") (.file ramdiskImage)

/-- The host `create_boot_iso` builds a UEFI ISO from when it fetched an ESP image: the fetched
host with that image at `tmpdir/esp`. -/
def espFetchedHost (host : Host) (tmpdir : String) (kernelImage ramdiskImage espContent : Bytes) :
    Host :=
  (fetchedHost host tmpdir kernelImage ramdiskImage).put (joinPath tmpdir "esp") (.file espContent)

/-- The host `create_boot_iso` builds a UEFI ISO from when it fetched a deploy ISO: the fetched
host with that ISO at `tmpdir/iso`. -/
def isoFetchedHost (host : Host) (tmpdir : String) (kernelImage ramdiskImage isoImage : Bytes) :
    Host :=
  (fetchedHost host tmpdir kernelImage ramdiskImage).put (joinPath tmpdir "iso") (.file isoImage)

/-! ## Names in `tmpdir` -/

section Paths

variable {dir name : String}

theorem locate_joinPath_name (normal : locate dir = dir) (below : staysBelow name = true)
    (single : pathParts name = [name]) : locate (joinPath dir name) = joinPath dir name := by
  rw [locate_joinPath below, keyOf_append, single, show keyOf (resolve dir) = dir from normal]
  simp only [keyOf, joinPath, (staysBelow_iff.1 below).1, Bool.false_eq_true, if_false,
    String.append_empty, String.append_assoc]

theorem isBelow_joinPath_name (normal : locate dir = dir) (below : staysBelow name = true)
    (single : pathParts name = [name]) : isBelow dir (joinPath dir name) = true := by
  have inside := @isBelow_locate_joinPath dir name below
  rwa [normal, locate_joinPath_name normal below single] at inside

theorem joinPath_name_ne_empty (normal : locate dir = dir) (below : staysBelow name = true)
    (single : pathParts name = [name]) : joinPath dir name ≠ "" := fun same => by
  have inside := isBelow_joinPath_name normal below single
  rw [same] at inside
  simp [isBelow] at inside

theorem joinPath_ne_of_ne {name' : String} (relative : isAbsolute name = false)
    (relative' : isAbsolute name' = false) (differ : name ≠ name') :
    joinPath dir name ≠ joinPath dir name' := fun same => by
  simp only [joinPath, relative, relative', Bool.false_eq_true, if_false] at same
  exact differ ((append_left_cancel_iff _ _ _).1 same)

end Paths

/-! ## `create_boot_iso` in BIOS mode -/

section BootIso

variable {tools : BootTools} {fs : FileSystem} {conf : BootConfig} {conductor : Conductor}
  {converter : Tools} {fetcher : Fetcher} {espImage : Option String}
  {outputFilename kernelHref ramdiskHref : String}
  {deployIsoHref espImageHref rootUuid kernelParams bootMode : Option String}
  {injectFiles : List (String × String)} {publisherId : Option String} {host : Host}
  {tmpdir rootdir mountdir cfg grubConf key : String}
  {kernelImage ramdiskImage espContent isoImage : Bytes} {entries : List IsoEntry}

theorem fetchedHost_outside (normal : locate tmpdir = tmpdir) (away : outside tmpdir key = true) :
    (fetchedHost host tmpdir kernelImage ramdiskImage).lookup key = host.lookup key := by
  rw [fetchedHost, Host.lookup_put,
    if_neg (ne_of_outside_isBelow away (isBelow_joinPath_name normal (by decide) (by decide))),
    Host.lookup_put,
    if_neg (ne_of_outside_isBelow away (isBelow_joinPath_name normal (by decide) (by decide))),
    Host.lookup_put, if_neg (ne_of_outside away), Host.lookup_draw]

theorem fetchedHost_kernel :
    (fetchedHost host tmpdir kernelImage ramdiskImage).lookup (joinPath tmpdir "kernel") =
      some (.file kernelImage) := by
  have distinct : joinPath tmpdir "kernel" ≠ joinPath tmpdir "ramdisk" :=
    joinPath_ne_of_ne rfl rfl (by decide)
  rw [fetchedHost, Host.lookup_put, if_neg distinct, Host.lookup_put, if_pos rfl]

theorem fetchedHost_ramdisk :
    (fetchedHost host tmpdir kernelImage ramdiskImage).lookup (joinPath tmpdir "ramdisk") =
      some (.file ramdiskImage) := by
  rw [fetchedHost, Host.lookup_put, if_pos rfl]

theorem fetchedHost_tmpdir (normal : locate tmpdir = tmpdir) :
    (fetchedHost host tmpdir kernelImage ramdiskImage).lookup tmpdir = some .dir := by
  have kernelIn : isBelow tmpdir (joinPath tmpdir "kernel") = true :=
    isBelow_joinPath_name normal (by decide) (by decide)
  have ramdiskIn : isBelow tmpdir (joinPath tmpdir "ramdisk") = true :=
    isBelow_joinPath_name normal (by decide) (by decide)
  rw [fetchedHost, Host.lookup_put, if_neg (ne_of_isBelow ramdiskIn).symm, Host.lookup_put,
    if_neg (ne_of_isBelow kernelIn).symm, Host.lookup_put, if_pos rfl]

theorem fetched_source {name : String} {h : Host} {content : Bytes}
    (normal : locate tmpdir = tmpdir) (apart : outside tmpdir (locate rootdir) = true)
    (apart' : outside (locate rootdir) tmpdir = true) (below : staysBelow name = true)
    (single : pathParts name = [name]) (file : h.lookup (joinPath tmpdir name) = some (.file content)) :
    outside (locate rootdir) (locate (joinPath tmpdir name)) = true ∧
      ∃ content, h.lookup (locate (joinPath tmpdir name)) = some (.file content) := by
  rw [locate_joinPath_name normal below single]
  exact ⟨outside_of_apart apart apart' (isBelow_joinPath_name normal below single), content, file⟩

theorem fetchedHost_put_outside {name : String} {content : Bytes} (normal : locate tmpdir = tmpdir)
    (below : staysBelow name = true) (single : pathParts name = [name])
    (away : outside tmpdir key = true) :
    ((fetchedHost host tmpdir kernelImage ramdiskImage).put (joinPath tmpdir name)
      (.file content)).lookup key = host.lookup key := by
  rw [Host.lookup_put, if_neg (ne_of_outside_isBelow away (isBelow_joinPath_name normal below single)),
    fetchedHost_outside normal away]

theorem ldlinuxSource_congr {host' : Host} (same : ∀ directory ∈ ldlinuxSrcDirs,
    host'.lookup (locate (joinPath directory "ldlinux.c32")) =
      host.lookup (locate (joinPath directory "ldlinux.c32"))) :
    ldlinuxSource conf host' = ldlinuxSource conf host := by
  have isFileSame : ∀ directory ∈ ldlinuxSrcDirs,
      isFile host' (joinPath directory "ldlinux.c32") =
        isFile host (joinPath directory "ldlinux.c32") := fun directory mem => by
    unfold isFile
    rw [same directory mem]
  unfold ldlinuxSource
  simp only [ldlinuxSrcDirs, List.map_cons, List.map_nil, List.find?_cons, List.find?_nil,
    isFileSame _ (List.mem_cons_self _ _),
    isFileSame _ (List.mem_cons_of_mem _ (List.mem_cons_self _ _))]

theorem mkdtemp_normal (tmpName : fs.tempName host.draws = tmpdir) (normal : locate tmpdir = tmpdir)
    (tmpFree : host.lookup tmpdir = none) :
    mkdtemp fs host = .ok tmpdir (host.draw.put tmpdir .dir) := by
  have free : host.lookup (locate (fs.tempName host.draws)) = none := by
    rw [tmpName, normal]
    exact tmpFree
  rw [mkdtemp_free free, tmpName, normal]

theorem fetch_kernel (kernelServed : Serves conductor fetcher kernelHref kernelImage)
    (normal : locate tmpdir = tmpdir)
    (emptyTmp : ∀ key, isBelow tmpdir key = true → host.lookup key = none) :
    fetch conductor converter fetcher kernelHref (joinPath tmpdir "kernel") false none none
      (host.draw.put tmpdir .dir) =
      .ok () ((host.draw.put tmpdir .dir).put (joinPath tmpdir "kernel") (.file kernelImage)) := by
  have kernelIn : isBelow tmpdir (joinPath tmpdir "kernel") = true :=
    isBelow_joinPath_name normal (by decide) (by decide)
  refine fetch_serves kernelServed ?_
  rw [Host.lookup_put, if_neg (ne_of_isBelow kernelIn), Host.lookup_draw, emptyTmp _ kernelIn]
  simp

theorem fetch_ramdisk (ramdiskServed : Serves conductor fetcher ramdiskHref ramdiskImage)
    (normal : locate tmpdir = tmpdir)
    (emptyTmp : ∀ key, isBelow tmpdir key = true → host.lookup key = none) :
    fetch conductor converter fetcher ramdiskHref (joinPath tmpdir "ramdisk") false none none
      ((host.draw.put tmpdir .dir).put (joinPath tmpdir "kernel") (.file kernelImage)) =
      .ok () (fetchedHost host tmpdir kernelImage ramdiskImage) := by
  have ramdiskIn : isBelow tmpdir (joinPath tmpdir "ramdisk") = true :=
    isBelow_joinPath_name normal (by decide) (by decide)
  have distinct : joinPath tmpdir "ramdisk" ≠ joinPath tmpdir "kernel" :=
    joinPath_ne_of_ne rfl rfl (by decide)
  refine fetch_serves ramdiskServed ?_
  rw [Host.lookup_put, if_neg distinct, Host.lookup_put, if_neg (ne_of_isBelow ramdiskIn),
    Host.lookup_draw, emptyTmp _ ramdiskIn]
  simp

theorem fetch_beside {href name : String} {content : Bytes}
    (served : Serves conductor fetcher href content) (normal : locate tmpdir = tmpdir)
    (below : staysBelow name = true) (single : pathParts name = [name])
    (notKernel : name ≠ "kernel") (notRamdisk : name ≠ "ramdisk")
    (emptyTmp : ∀ key, isBelow tmpdir key = true → host.lookup key = none) :
    fetch conductor converter fetcher href (joinPath tmpdir name) false none none
      (fetchedHost host tmpdir kernelImage ramdiskImage) =
      .ok () ((fetchedHost host tmpdir kernelImage ramdiskImage).put (joinPath tmpdir name)
        (.file content)) := by
  have nameIn : isBelow tmpdir (joinPath tmpdir name) = true :=
    isBelow_joinPath_name normal below single
  have relative : isAbsolute name = false := (staysBelow_iff.1 below).1
  have apartRamdisk : joinPath tmpdir name ≠ joinPath tmpdir "ramdisk" :=
    joinPath_ne_of_ne relative rfl notRamdisk
  have apartKernel : joinPath tmpdir name ≠ joinPath tmpdir "kernel" :=
    joinPath_ne_of_ne relative rfl notKernel
  refine fetch_serves served ?_
  rw [fetchedHost, Host.lookup_put, if_neg apartRamdisk, Host.lookup_put, if_neg apartKernel,
    Host.lookup_put, if_neg (ne_of_isBelow nameIn), Host.lookup_draw, emptyTmp _ nameIn]
  simp

theorem createBootIso_fetched (kernelServed : Serves conductor fetcher kernelHref kernelImage)
    (ramdiskServed : Serves conductor fetcher ramdiskHref ramdiskImage)
    (tmpName : fs.tempName host.draws = tmpdir) (normal : locate tmpdir = tmpdir)
    (tmpFree : host.lookup tmpdir = none)
    (emptyTmp : ∀ key, isBelow tmpdir key = true → host.lookup key = none)
    (notUefi : bootMode ≠ some "uefi") :
    createBootIso tools fs conf conductor converter fetcher espImage outputFilename kernelHref
        ramdiskHref deployIsoHref espImageHref rootUuid kernelParams bootMode injectFiles
        publisherId host =
      withFinally (createIsolinuxImageForBios tools fs conf outputFilename
        (joinPath tmpdir "kernel") (joinPath tmpdir "ramdisk")
        (some (bootParams rootUuid kernelParams)) injectFiles publisherId) (removeTempDir tmpdir)
        (fetchedHost host tmpdir kernelImage ramdiskImage) := by
  rw [createBootIso, withTempDir, run_bind_ok (mkdtemp_normal tmpName normal tmpFree)]
  refine withFinally_congr ?_
  dsimp only
  rw [run_bind_ok (fetch_kernel kernelServed normal emptyTmp),
    run_bind_ok (fetch_ramdisk ramdiskServed normal emptyTmp), if_neg notUefi]
  rfl

example : bootParams (some "1be26c0b") (some "nofb") = ["root=UUID=1be26c0b", "nofb"] := rfl

theorem createBootIso_fetched_unconfigured
    (kernelServed : Serves conductor fetcher kernelHref kernelImage)
    (ramdiskServed : Serves conductor fetcher ramdiskHref ramdiskImage)
    (tmpName : fs.tempName host.draws = tmpdir) (normal : locate tmpdir = tmpdir)
    (tmpFree : host.lookup tmpdir = none)
    (emptyTmp : ∀ key, isBelow tmpdir key = true → host.lookup key = none)
    (uefi : bootMode = some "uefi") (noDeploy : truthy deployIsoHref = false)
    (noEsp : truthy espImageHref = false) (noConf : truthy espImage = false) :
    createBootIso tools fs conf conductor converter fetcher espImage outputFilename kernelHref
        ramdiskHref deployIsoHref espImageHref rootUuid kernelParams bootMode injectFiles
        publisherId host =
      withFinally (createEspImageForUefi tools fs conf outputFilename (joinPath tmpdir "kernel")
        (joinPath tmpdir "ramdisk") none none (some (bootParams rootUuid kernelParams)) injectFiles
        publisherId) (removeTempDir tmpdir) (fetchedHost host tmpdir kernelImage ramdiskImage) := by
  rw [createBootIso, withTempDir, run_bind_ok (mkdtemp_normal tmpName normal tmpFree)]
  refine withFinally_congr ?_
  dsimp only
  rw [run_bind_ok (fetch_kernel kernelServed normal emptyTmp),
    run_bind_ok (fetch_ramdisk ramdiskServed normal emptyTmp), if_pos uefi]
  simp only [noDeploy, noEsp, noConf, Bool.false_eq_true, if_false]
  rfl

/-- `create_boot_iso` in UEFI mode with no deploy ISO and no ESP image raises `ImageCreationFailed`
and leaves every path as it was. -/
theorem createBootIso_uefi_unconfigured
    (kernelServed : Serves conductor fetcher kernelHref kernelImage)
    (ramdiskServed : Serves conductor fetcher ramdiskHref ramdiskImage)
    (uefi : bootMode = some "uefi") (noDeploy : truthy deployIsoHref = false)
    (noEsp : truthy espImageHref = false) (noConf : truthy espImage = false)
    (tmpName : fs.tempName host.draws = tmpdir) (rootName : fs.tempName (host.draws + 1) = rootdir)
    (mountName : fs.tempName (host.draws + 2) = mountdir) (normal : locate tmpdir = tmpdir)
    (tmpFree : host.lookup tmpdir = none) (rootFree : host.lookup (locate rootdir) = none)
    (mountFree : host.lookup (locate mountdir) = none)
    (emptyTmp : ∀ key, isBelow tmpdir key = true → host.lookup key = none)
    (emptyRoot : ∀ key, isBelow (locate rootdir) key = true → host.lookup key = none)
    (emptyMount : ∀ key, isBelow (locate mountdir) key = true → host.lookup key = none)
    (apart : outside tmpdir (locate rootdir) = true)
    (apart' : outside (locate rootdir) tmpdir = true)
    (mountApart : outside tmpdir (locate mountdir) = true)
    (mountApart' : outside (locate mountdir) tmpdir = true)
    (espApart : outside (locate rootdir) (locate mountdir) = true)
    (espApart' : outside (locate mountdir) (locate rootdir) = true) :
    ∃ host', createBootIso tools fs conf conductor converter fetcher espImage outputFilename
        kernelHref ramdiskHref deployIsoHref espImageHref rootUuid kernelParams bootMode injectFiles
        publisherId host =
      .error (.imageCreationFailed "iso"
        (.message "Neither deploy ISO nor ESP image configured or both of them configured")) host' ∧
      ∀ key, host'.lookup key = host.lookup key := by
  have fetchedOut : ∀ key, outside tmpdir key = true →
      (fetchedHost host tmpdir kernelImage ramdiskImage).lookup key = host.lookup key :=
    fun key away => fetchedHost_outside normal away
  -- `create_esp_image_for_uefi` on the fetched host
  obtain ⟨host', raised, kept⟩ := @createEspImageForUefi_raises_unconfigured tools fs conf
    (fetchedHost host tmpdir kernelImage ramdiskImage) outputFilename (joinPath tmpdir "kernel")
    (joinPath tmpdir "ramdisk") rootdir mountdir none none (some (bootParams rootUuid kernelParams))
    injectFiles publisherId rfl rootName mountName ((fetchedOut _ apart).trans rootFree)
    ((fetchedOut _ mountApart).trans mountFree) espApart espApart'
    (fun key inRoot =>
      (fetchedOut key (outside_of_apart apart' apart inRoot)).trans (emptyRoot key inRoot))
    (fun key inMount => (fetchedOut key (outside_of_apart mountApart' mountApart inMount)).trans
      (emptyMount key inMount))
  -- then the removal of `tmpdir`
  have tmpDir : host'.lookup (locate tmpdir) = some .dir := by
    rw [kept, normal, fetchedHost_tmpdir normal]
  refine ⟨host'.removeTree (locate tmpdir), ?_, fun key => ?_⟩
  · rw [createBootIso_fetched_unconfigured kernelServed ramdiskServed tmpName normal tmpFree emptyTmp
      uefi noDeploy noEsp noConf, withFinally_returning (removeTempDir_run tmpdir), raised]
    dsimp only
    rw [cleanedUp, if_pos tmpDir]
  · rw [Host.lookup_removeTree, normal]
    split_ifs with away
    · rw [kept, fetchedOut key away]
    · by_cases same : key = tmpdir
      · rw [same, tmpFree]
      · rw [emptyTmp key ((outside_or_isBelow same).resolve_left away)]

def bootFs : FileSystem :=
  ⟨fun n => if n = 0 then "/tmp/boot" else if n = 1 then "/tmp/root" else "/tmp/mnt",
    fun _ => none⟩

theorem createBootIso_uefi_unconfigured_sample :
    Serves inspectingConductor (sampleFetcher [7]) "kernel" [7] ∧
      Serves inspectingConductor (sampleFetcher [7]) "ramdisk" [7] ∧
      (some "uefi" : Option String) = some "uefi" ∧ truthy none = false ∧
      truthy none = false ∧
      truthy none = false ∧ bootFs.tempName biosHost.draws = "/tmp/boot" ∧
      bootFs.tempName (biosHost.draws + 1) = "/tmp/root" ∧
      bootFs.tempName (biosHost.draws + 2) = "/tmp/mnt" ∧ locate "/tmp/boot" = "/tmp/boot" ∧
      biosHost.lookup "/tmp/boot" = none ∧ biosHost.lookup (locate "/tmp/root") = none ∧
      biosHost.lookup (locate "/tmp/mnt") = none ∧
      (∀ key, isBelow "/tmp/boot" key = true → biosHost.lookup key = none) ∧
      (∀ key, isBelow (locate "/tmp/root") key = true → biosHost.lookup key = none) ∧
      (∀ key, isBelow (locate "/tmp/mnt") key = true → biosHost.lookup key = none) ∧
      outside "/tmp/boot" (locate "/tmp/root") = true ∧
      outside (locate "/tmp/root") "/tmp/boot" = true ∧
      outside "/tmp/boot" (locate "/tmp/mnt") = true ∧
      outside (locate "/tmp/mnt") "/tmp/boot" = true ∧
      outside (locate "/tmp/root") (locate "/tmp/mnt") = true ∧
      outside (locate "/tmp/mnt") (locate "/tmp/root") = true ∧
      ∃ host', createBootIso ddOnlyTools bootFs isoConf inspectingConductor sampleTools
          (sampleFetcher [7]) none "/images/boot.iso" "kernel" "ramdisk" none none none none
          (some "uefi") [] none biosHost =
        .error (.imageCreationFailed "iso"
          (.message "Neither deploy ISO nor ESP image configured or both of them configured")) host' ∧
        ∀ key, host'.lookup key = biosHost.lookup key := by
  have served : ∀ imageHref, Serves inspectingConductor (sampleFetcher [7]) imageHref [7] :=
    fun _ => ⟨⟨_, rfl, nofun, rfl⟩, rfl⟩
  have emptyTmp : ∀ key, isBelow "/tmp/boot" key = true → biosHost.lookup key = none :=
    Host.lookup_ofFiles_below (by decide)
  have emptyRoot : ∀ key, isBelow (locate "/tmp/root") key = true →
      biosHost.lookup key = none :=
    Host.lookup_ofFiles_below (by decide)
  have emptyMount : ∀ key, isBelow (locate "/tmp/mnt") key = true →
      biosHost.lookup key = none :=
    Host.lookup_ofFiles_below (by decide)
  exact ⟨served _, served _, rfl, rfl, rfl, rfl, rfl, rfl, rfl, rfl, rfl, rfl, rfl, emptyTmp,
    emptyRoot, emptyMount, rfl, rfl, rfl, rfl, rfl, rfl,
    createBootIso_uefi_unconfigured (served _) (served _) rfl rfl rfl rfl rfl rfl rfl rfl rfl rfl
      rfl emptyTmp emptyRoot emptyMount rfl rfl rfl rfl rfl rfl⟩

/-! ## `create_boot_iso` in UEFI mode with an ESP image to fetch -/

theorem espFetchedHost_outside (normal : locate tmpdir = tmpdir)
    (away : outside tmpdir key = true) :
    (espFetchedHost host tmpdir kernelImage ramdiskImage espContent).lookup key =
      host.lookup key :=
  fetchedHost_put_outside normal (by decide) (by decide) away

theorem espFetchedHost_fetched (other : key ≠ joinPath tmpdir "esp") :
    (espFetchedHost host tmpdir kernelImage ramdiskImage espContent).lookup key =
      (fetchedHost host tmpdir kernelImage ramdiskImage).lookup key := by
  rw [espFetchedHost, Host.lookup_put, if_neg other]

theorem espFetchedHost_esp :
    (espFetchedHost host tmpdir kernelImage ramdiskImage espContent).lookup
      (joinPath tmpdir "esp") = some (.file espContent) := by
  rw [espFetchedHost, Host.lookup_put, if_pos rfl]

theorem createBootIso_fetched_esp (kernelServed : Serves conductor fetcher kernelHref kernelImage)
    (ramdiskServed : Serves conductor fetcher ramdiskHref ramdiskImage)
    (espServed : Serves conductor fetcher (espImageHref.getD "") espContent)
    (tmpName : fs.tempName host.draws = tmpdir) (normal : locate tmpdir = tmpdir)
    (tmpFree : host.lookup tmpdir = none)
    (emptyTmp : ∀ key, isBelow tmpdir key = true → host.lookup key = none)
    (uefi : bootMode = some "uefi") (noDeploy : truthy deployIsoHref = false)
    (espGiven : truthy espImageHref = true) :
    createBootIso tools fs conf conductor converter fetcher espImage outputFilename kernelHref
        ramdiskHref deployIsoHref espImageHref rootUuid kernelParams bootMode injectFiles
        publisherId host =
      withFinally (createEspImageForUefi tools fs conf outputFilename (joinPath tmpdir "kernel")
        (joinPath tmpdir "ramdisk") none (some (joinPath tmpdir "esp"))
        (some (bootParams rootUuid kernelParams)) injectFiles publisherId) (removeTempDir tmpdir)
        (espFetchedHost host tmpdir kernelImage ramdiskImage espContent) := by
  have espRan : (fetch conductor converter fetcher (espImageHref.getD "") (joinPath tmpdir "esp")
      false none none >>= fun _ => pure (none, some (joinPath tmpdir "esp")) :
        Run (Option String × Option String)) (fetchedHost host tmpdir kernelImage ramdiskImage) =
      .ok (none, some (joinPath tmpdir "esp")) (espFetchedHost host tmpdir kernelImage ramdiskImage
        espContent) := by
    rw [run_bind_ok (fetch_beside espServed normal (by decide) (by decide) (by decide) (by decide)
      emptyTmp)]
    rfl
  rw [createBootIso, withTempDir, run_bind_ok (mkdtemp_normal tmpName normal tmpFree)]
  refine withFinally_congr ?_
  dsimp only
  rw [run_bind_ok (fetch_kernel kernelServed normal emptyTmp),
    run_bind_ok (fetch_ramdisk ramdiskServed normal emptyTmp), if_pos uefi]
  simp only [noDeploy, espGiven, Bool.false_eq_true, if_false, if_true]
  rw [run_bind_ok espRan]
  rfl

/-- `create_boot_iso` in UEFI mode with an ESP image reference runs `mkisofs` on the UEFI root of
the three fetched images. -/
theorem createBootIso_uefi_esp_root (passes : ∀ n, fs.writeFailure n = none)
    (uefi : bootMode = some "uefi") (noDeploy : truthy deployIsoHref = false)
    (espGiven : truthy espImageHref = true)
    (kernelServed : Serves conductor fetcher kernelHref kernelImage)
    (ramdiskServed : Serves conductor fetcher ramdiskHref ramdiskImage)
    (espServed : Serves conductor fetcher (espImageHref.getD "") espContent)
    (tmpName : fs.tempName host.draws = tmpdir) (rootName : fs.tempName (host.draws + 1) = rootdir)
    (mountName : fs.tempName (host.draws + 2) = mountdir) (normal : locate tmpdir = tmpdir)
    (tmpFree : host.lookup tmpdir = none) (rootFree : host.lookup (locate rootdir) = none)
    (mountFree : host.lookup (locate mountdir) = none)
    (emptyTmp : ∀ key, isBelow tmpdir key = true → host.lookup key = none)
    (emptyRoot : ∀ key, isBelow (locate rootdir) key = true → host.lookup key = none)
    (emptyMount : ∀ key, isBelow (locate mountdir) key = true → host.lookup key = none)
    (apart : outside tmpdir (locate rootdir) = true)
    (apart' : outside (locate rootdir) tmpdir = true)
    (mountApart : outside tmpdir (locate mountdir) = true)
    (mountApart' : outside (locate mountdir) tmpdir = true)
    (espApart : outside (locate rootdir) (locate mountdir) = true)
    (espApart' : outside (locate mountdir) (locate rootdir) = true)
    (sources : ∀ source ∈ "/dev/null" :: injectFiles.map Prod.fst,
      ∃ content, host.lookup (locate source) = some (.file content))
    (below : ∀ path ∈ ["vmlinuz", "initrd", efibootLocation, lstripSlash conf.grubConfigPath] ++
      injectFiles.map Prod.snd, staysBelow path = true)
    (noAncestor : ∀ a ∈ ["vmlinuz", "initrd", efibootLocation, lstripSlash conf.grubConfigPath] ++
        injectFiles.map Prod.snd,
      ∀ b ∈ ["vmlinuz", "initrd", efibootLocation, lstripSlash conf.grubConfigPath] ++
        injectFiles.map Prod.snd,
        resolve (joinPath rootdir a) <+: resolve (joinPath rootdir b) →
          resolve (joinPath rootdir a) = resolve (joinPath rootdir b))
    (rendered : generateCfg tools (some (bootParams rootUuid kernelParams)) conf.grubConfigTemplate
      [("linux", "/vmlinuz"), ("initrd", "/initrd")] = .ok grubConf) :
    ∃ seen, createBootIso tools fs conf conductor converter fetcher espImage outputFilename
        kernelHref ramdiskHref deployIsoHref espImageHref rootUuid kernelParams bootMode injectFiles
        publisherId host =
      withFinally (withFinally (wrapProcessError "iso" (executeWriting tools
        (espMkisofsArgs outputFilename rootdir (uefiFilesInfo (joinPath tmpdir "kernel")
          (joinPath tmpdir "ramdisk") injectFiles
          (espPathInfo (joinPath tmpdir "esp") (lstripSlash conf.grubConfigPath))) efibootLocation
          publisherId) outputFilename)) (removeTempDir rootdir)) (removeTempDir tmpdir) seen ∧
      ∀ key, seen.lookup key =
        if isBelow (locate rootdir) key then
          uefiRootNode (espFetchedHost host tmpdir kernelImage ramdiskImage espContent) rootdir
            (uefiFilesInfo (joinPath tmpdir "kernel") (joinPath tmpdir "ramdisk") injectFiles
              (espPathInfo (joinPath tmpdir "esp") (lstripSlash conf.grubConfigPath)))
            (joinPath rootdir (lstripSlash conf.grubConfigPath)) grubConf key
        else if key = locate rootdir then some .dir
        else (espFetchedHost host tmpdir kernelImage ramdiskImage espContent).lookup key := by
  have espOut : ∀ key, outside tmpdir key = true →
      (espFetchedHost host tmpdir kernelImage ramdiskImage espContent).lookup key =
        host.lookup key :=
    fun key away => espFetchedHost_outside normal away
  have kernelNotEsp : joinPath tmpdir "kernel" ≠ joinPath tmpdir "esp" :=
    joinPath_ne_of_ne rfl rfl (by decide)
  have ramdiskNotEsp : joinPath tmpdir "ramdisk" ≠ joinPath tmpdir "esp" :=
    joinPath_ne_of_ne rfl rfl (by decide)
  -- what the ESP builder reads on the host with the three images fetched
  have sources' : ∀ source ∈ [joinPath tmpdir "kernel", joinPath tmpdir "ramdisk",
      joinPath tmpdir "esp", "/dev/null"] ++ injectFiles.map Prod.fst,
      outside (locate rootdir) (locate source) = true ∧ ∃ content,
        (espFetchedHost host tmpdir kernelImage ramdiskImage espContent).lookup (locate source) =
          some (.file content) := by
    intro source mem
    simp only [List.cons_append, List.nil_append] at mem
    rcases List.mem_cons.1 mem with rfl | mem
    · exact fetched_source normal apart apart' (by decide) (by decide)
        ((espFetchedHost_fetched kernelNotEsp).trans fetchedHost_kernel)
    rcases List.mem_cons.1 mem with rfl | mem
    · exact fetched_source normal apart apart' (by decide) (by decide)
        ((espFetchedHost_fetched ramdiskNotEsp).trans fetchedHost_ramdisk)
    rcases List.mem_cons.1 mem with rfl | mem
    · exact fetched_source normal apart apart' (by decide) (by decide) espFetchedHost_esp
    · obtain ⟨content, file⟩ := sources source mem
      exact ⟨outside_of_file rootFree emptyRoot file, content,
        (espOut _ (outside_of_file tmpFree emptyTmp file)).trans file⟩
  -- the ESP builder on that host
  have named : joinPath tmpdir "esp" ≠ "" := joinPath_name_ne_empty normal (by decide) (by decide)
  obtain ⟨seen, ran, tree⟩ := @createEspImageForUefi_esp_tree tools fs conf
    (espFetchedHost host tmpdir kernelImage ramdiskImage espContent) outputFilename
    (joinPath tmpdir "kernel") (joinPath tmpdir "ramdisk") (joinPath tmpdir "esp") rootdir mountdir
    grubConf (some (bootParams rootUuid kernelParams)) injectFiles publisherId passes rootName
    mountName ((espOut _ apart).trans rootFree) ((espOut _ mountApart).trans mountFree) espApart
    espApart'
    (fun key inRoot =>
      (espOut key (outside_of_apart apart' apart inRoot)).trans (emptyRoot key inRoot))
    (fun key inMount => (espOut key (outside_of_apart mountApart' mountApart inMount)).trans
      (emptyMount key inMount))
    named sources' below noAncestor rendered
  exact ⟨seen, (createBootIso_fetched_esp kernelServed ramdiskServed espServed tmpName normal tmpFree
    emptyTmp uefi noDeploy espGiven).trans (withFinally_congr ran), tree⟩

theorem createBootIso_uefi_esp_root_sample :
    (∀ n, bootFs.writeFailure n = none) ∧ (some "uefi" : Option String) = some "uefi" ∧
      truthy none = false ∧ truthy (some "esp") = true ∧
      Serves inspectingConductor (sampleFetcher [7]) "kernel" [7] ∧
      Serves inspectingConductor (sampleFetcher [7]) "ramdisk" [7] ∧
      Serves inspectingConductor (sampleFetcher [7]) ((some "esp").getD "") [7] ∧
      bootFs.tempName espHost.draws = "/tmp/boot" ∧
      bootFs.tempName (espHost.draws + 1) = "/tmp/root" ∧
      bootFs.tempName (espHost.draws + 2) = "/tmp/mnt" ∧ locate "/tmp/boot" = "/tmp/boot" ∧
      espHost.lookup "/tmp/boot" = none ∧ espHost.lookup (locate "/tmp/root") = none ∧
      espHost.lookup (locate "/tmp/mnt") = none ∧
      (∀ key, isBelow "/tmp/boot" key = true → espHost.lookup key = none) ∧
      (∀ key, isBelow (locate "/tmp/root") key = true → espHost.lookup key = none) ∧
      (∀ key, isBelow (locate "/tmp/mnt") key = true → espHost.lookup key = none) ∧
      outside "/tmp/boot" (locate "/tmp/root") = true ∧
      outside (locate "/tmp/root") "/tmp/boot" = true ∧
      outside "/tmp/boot" (locate "/tmp/mnt") = true ∧
      outside (locate "/tmp/mnt") "/tmp/boot" = true ∧
      outside (locate "/tmp/root") (locate "/tmp/mnt") = true ∧
      outside (locate "/tmp/mnt") (locate "/tmp/root") = true ∧
      (∀ source ∈ "/dev/null" :: ([] : List (String × String)).map Prod.fst,
        ∃ content, espHost.lookup (locate source) = some (.file content)) ∧
      (∀ path ∈ ["vmlinuz", "initrd", efibootLocation, lstripSlash isoConf.grubConfigPath],
        staysBelow path = true) ∧
      (∀ a ∈ ["vmlinuz", "initrd", efibootLocation, lstripSlash isoConf.grubConfigPath],
        ∀ b ∈ ["vmlinuz", "initrd", efibootLocation, lstripSlash isoConf.grubConfigPath],
          resolve (joinPath "/tmp/root" a) <+: resolve (joinPath "/tmp/root" b) →
            resolve (joinPath "/tmp/root" a) = resolve (joinPath "/tmp/root" b)) ∧
      generateCfg ddOnlyTools (some (bootParams none none)) isoConf.grubConfigTemplate
        [("linux", "/vmlinuz"), ("initrd", "/initrd")] = .ok "" ∧
      ∃ seen, createBootIso ddOnlyTools bootFs isoConf inspectingConductor sampleTools
          (sampleFetcher [7]) none "/images/boot.iso" "kernel" "ramdisk" none (some "esp") none none
          (some "uefi") [] none espHost =
        withFinally (withFinally (wrapProcessError "iso" (executeWriting ddOnlyTools
          (espMkisofsArgs "/images/boot.iso" "/tmp/root"
            (uefiFilesInfo (joinPath "/tmp/boot" "kernel") (joinPath "/tmp/boot" "ramdisk") []
              (espPathInfo (joinPath "/tmp/boot" "esp") (lstripSlash isoConf.grubConfigPath)))
            efibootLocation none) "/images/boot.iso"))
          (removeTempDir "/tmp/root")) (removeTempDir "/tmp/boot") seen ∧
        ∀ key, seen.lookup key =
          if isBelow (locate "/tmp/root") key then
            uefiRootNode (espFetchedHost espHost "/tmp/boot" [7] [7] [7]) "/tmp/root"
              (uefiFilesInfo (joinPath "/tmp/boot" "kernel") (joinPath "/tmp/boot" "ramdisk") []
                (espPathInfo (joinPath "/tmp/boot" "esp") (lstripSlash isoConf.grubConfigPath)))
              (joinPath "/tmp/root" (lstripSlash isoConf.grubConfigPath)) "" key
          else if key = locate "/tmp/root" then some .dir
          else (espFetchedHost espHost "/tmp/boot" [7] [7] [7]).lookup key := by
  have served : ∀ imageHref, Serves inspectingConductor (sampleFetcher [7]) imageHref [7] :=
    fun _ => ⟨⟨_, rfl, nofun, rfl⟩, rfl⟩
  have emptyTmp : ∀ key, isBelow "/tmp/boot" key = true → espHost.lookup key = none :=
    Host.lookup_ofFiles_below (by decide)
  have emptyRoot : ∀ key, isBelow (locate "/tmp/root") key = true → espHost.lookup key = none :=
    Host.lookup_ofFiles_below (by decide)
  have emptyMount : ∀ key, isBelow (locate "/tmp/mnt") key = true → espHost.lookup key = none :=
    Host.lookup_ofFiles_below (by decide)
  have sources : ∀ source ∈ "/dev/null" :: ([] : List (String × String)).map Prod.fst,
      ∃ content, espHost.lookup (locate source) = some (.file content) := by
    intro source mem
    rcases List.mem_singleton.1 mem with rfl
    exact ⟨_, rfl⟩
  have below :
      ∀ path ∈ ["vmlinuz", "initrd", efibootLocation, lstripSlash isoConf.grubConfigPath],
        staysBelow path = true := by decide
  have noAncestor :
      ∀ a ∈ ["vmlinuz", "initrd", efibootLocation, lstripSlash isoConf.grubConfigPath],
      ∀ b ∈ ["vmlinuz", "initrd", efibootLocation, lstripSlash isoConf.grubConfigPath],
        resolve (joinPath "/tmp/root" a) <+: resolve (joinPath "/tmp/root" b) →
          resolve (joinPath "/tmp/root" a) = resolve (joinPath "/tmp/root" b) := by decide
  exact ⟨fun _ => rfl, rfl, rfl, rfl, served _, served _, served _, rfl, rfl, rfl, rfl, rfl, rfl,
    rfl, emptyTmp, emptyRoot, emptyMount, rfl, rfl, rfl, rfl, rfl, rfl, sources, below, noAncestor, rfl,
    createBootIso_uefi_esp_root (fun _ => rfl) rfl rfl rfl (served _) (served _) (served _) rfl rfl
      rfl rfl rfl rfl rfl emptyTmp emptyRoot emptyMount rfl rfl rfl rfl rfl rfl sources below
      noAncestor rfl⟩

/-! ## `create_boot_iso` in UEFI mode with `[DEFAULT]esp_image` -/

theorem createBootIso_fetched_confEsp {espPath : String}
    (kernelServed : Serves conductor fetcher kernelHref kernelImage)
    (ramdiskServed : Serves conductor fetcher ramdiskHref ramdiskImage)
    (tmpName : fs.tempName host.draws = tmpdir) (normal : locate tmpdir = tmpdir)
    (tmpFree : host.lookup tmpdir = none)
    (emptyTmp : ∀ key, isBelow tmpdir key = true → host.lookup key = none)
    (uefi : bootMode = some "uefi") (noDeploy : truthy deployIsoHref = false)
    (noEsp : truthy espImageHref = false) (named : espPath ≠ "") :
    createBootIso tools fs conf conductor converter fetcher (some espPath) outputFilename
        kernelHref ramdiskHref deployIsoHref espImageHref rootUuid kernelParams bootMode
        injectFiles publisherId host =
      withFinally (createEspImageForUefi tools fs conf outputFilename (joinPath tmpdir "kernel")
        (joinPath tmpdir "ramdisk") none (some espPath) (some (bootParams rootUuid kernelParams))
        injectFiles publisherId) (removeTempDir tmpdir)
        (fetchedHost host tmpdir kernelImage ramdiskImage) := by
  have configured : truthy (some espPath) = true := by simp [truthy, named]
  rw [createBootIso, withTempDir, run_bind_ok (mkdtemp_normal tmpName normal tmpFree)]
  refine withFinally_congr ?_
  dsimp only
  rw [run_bind_ok (fetch_kernel kernelServed normal emptyTmp),
    run_bind_ok (fetch_ramdisk ramdiskServed normal emptyTmp), if_pos uefi]
  simp only [noDeploy, noEsp, configured, Bool.false_eq_true, if_false, if_true]
  rfl

/-- `create_boot_iso` in UEFI mode with `[DEFAULT]esp_image` set runs `mkisofs` on the UEFI root of
the fetched kernel and ramdisk and the configured ESP image. -/
theorem createBootIso_uefi_confEsp_root {espPath : String} (passes : ∀ n, fs.writeFailure n = none)
    (uefi : bootMode = some "uefi") (noDeploy : truthy deployIsoHref = false)
    (noEsp : truthy espImageHref = false) (named : espPath ≠ "")
    (kernelServed : Serves conductor fetcher kernelHref kernelImage)
    (ramdiskServed : Serves conductor fetcher ramdiskHref ramdiskImage)
    (tmpName : fs.tempName host.draws = tmpdir) (rootName : fs.tempName (host.draws + 1) = rootdir)
    (mountName : fs.tempName (host.draws + 2) = mountdir) (normal : locate tmpdir = tmpdir)
    (tmpFree : host.lookup tmpdir = none) (rootFree : host.lookup (locate rootdir) = none)
    (mountFree : host.lookup (locate mountdir) = none)
    (emptyTmp : ∀ key, isBelow tmpdir key = true → host.lookup key = none)
    (emptyRoot : ∀ key, isBelow (locate rootdir) key = true → host.lookup key = none)
    (emptyMount : ∀ key, isBelow (locate mountdir) key = true → host.lookup key = none)
    (apart : outside tmpdir (locate rootdir) = true)
    (apart' : outside (locate rootdir) tmpdir = true)
    (mountApart : outside tmpdir (locate mountdir) = true)
    (mountApart' : outside (locate mountdir) tmpdir = true)
    (espApart : outside (locate rootdir) (locate mountdir) = true)
    (espApart' : outside (locate mountdir) (locate rootdir) = true)
    (sources : ∀ source ∈ espPath :: "/dev/null" :: injectFiles.map Prod.fst,
      ∃ content, host.lookup (locate source) = some (.file content))
    (below : ∀ path ∈ ["vmlinuz", "initrd", efibootLocation, lstripSlash conf.grubConfigPath] ++
      injectFiles.map Prod.snd, staysBelow path = true)
    (noAncestor : ∀ a ∈ ["vmlinuz", "initrd", efibootLocation, lstripSlash conf.grubConfigPath] ++
        injectFiles.map Prod.snd,
      ∀ b ∈ ["vmlinuz", "initrd", efibootLocation, lstripSlash conf.grubConfigPath] ++
        injectFiles.map Prod.snd,
        resolve (joinPath rootdir a) <+: resolve (joinPath rootdir b) →
          resolve (joinPath rootdir a) = resolve (joinPath rootdir b))
    (rendered : generateCfg tools (some (bootParams rootUuid kernelParams)) conf.grubConfigTemplate
      [("linux", "/vmlinuz"), ("initrd", "/initrd")] = .ok grubConf) :
    ∃ seen, createBootIso tools fs conf conductor converter fetcher (some espPath) outputFilename
        kernelHref ramdiskHref deployIsoHref espImageHref rootUuid kernelParams bootMode injectFiles
        publisherId host =
      withFinally (withFinally (wrapProcessError "iso" (executeWriting tools
        (espMkisofsArgs outputFilename rootdir (uefiFilesInfo (joinPath tmpdir "kernel")
          (joinPath tmpdir "ramdisk") injectFiles
          (espPathInfo espPath (lstripSlash conf.grubConfigPath))) efibootLocation publisherId)
        outputFilename)) (removeTempDir rootdir)) (removeTempDir tmpdir) seen ∧
      ∀ key, seen.lookup key =
        if isBelow (locate rootdir) key then
          uefiRootNode (fetchedHost host tmpdir kernelImage ramdiskImage) rootdir
            (uefiFilesInfo (joinPath tmpdir "kernel") (joinPath tmpdir "ramdisk") injectFiles
              (espPathInfo espPath (lstripSlash conf.grubConfigPath)))
            (joinPath rootdir (lstripSlash conf.grubConfigPath)) grubConf key
        else if key = locate rootdir then some .dir
        else (fetchedHost host tmpdir kernelImage ramdiskImage).lookup key := by
  have fetchedOut : ∀ key, outside tmpdir key = true →
      (fetchedHost host tmpdir kernelImage ramdiskImage).lookup key = host.lookup key :=
    fun key away => fetchedHost_outside normal away
  -- what the ESP builder reads on the fetched host
  have sources' : ∀ source ∈ [joinPath tmpdir "kernel", joinPath tmpdir "ramdisk", espPath,
      "/dev/null"] ++ injectFiles.map Prod.fst,
      outside (locate rootdir) (locate source) = true ∧ ∃ content,
        (fetchedHost host tmpdir kernelImage ramdiskImage).lookup (locate source) =
          some (.file content) := by
    intro source mem
    simp only [List.cons_append, List.nil_append] at mem
    rcases List.mem_cons.1 mem with rfl | mem
    · exact fetched_source normal apart apart' (by decide) (by decide) fetchedHost_kernel
    rcases List.mem_cons.1 mem with rfl | mem
    · exact fetched_source normal apart apart' (by decide) (by decide) fetchedHost_ramdisk
    · obtain ⟨content, file⟩ := sources source mem
      exact ⟨outside_of_file rootFree emptyRoot file, content,
        (fetchedOut _ (outside_of_file tmpFree emptyTmp file)).trans file⟩
  -- the ESP builder on the fetched host
  obtain ⟨seen, ran, tree⟩ := @createEspImageForUefi_esp_tree tools fs conf
    (fetchedHost host tmpdir kernelImage ramdiskImage) outputFilename (joinPath tmpdir "kernel")
    (joinPath tmpdir "ramdisk") espPath rootdir mountdir grubConf
    (some (bootParams rootUuid kernelParams)) injectFiles publisherId passes rootName mountName
    ((fetchedOut _ apart).trans rootFree) ((fetchedOut _ mountApart).trans mountFree) espApart
    espApart'
    (fun key inRoot =>
      (fetchedOut key (outside_of_apart apart' apart inRoot)).trans (emptyRoot key inRoot))
    (fun key inMount => (fetchedOut key (outside_of_apart mountApart' mountApart inMount)).trans
      (emptyMount key inMount))
    named sources' below noAncestor rendered
  exact ⟨seen, (createBootIso_fetched_confEsp kernelServed ramdiskServed tmpName normal tmpFree
    emptyTmp uefi noDeploy noEsp named).trans (withFinally_congr ran), tree⟩

theorem createBootIso_uefi_confEsp_root_sample :
    (∀ n, bootFs.writeFailure n = none) ∧ (some "uefi" : Option String) = some "uefi" ∧
      truthy none = false ∧ truthy none = false ∧ "/deploy/esp.img" ≠ "" ∧
      Serves inspectingConductor (sampleFetcher [7]) "kernel" [7] ∧
      Serves inspectingConductor (sampleFetcher [7]) "ramdisk" [7] ∧
      bootFs.tempName espHost.draws = "/tmp/boot" ∧
      bootFs.tempName (espHost.draws + 1) = "/tmp/root" ∧
      bootFs.tempName (espHost.draws + 2) = "/tmp/mnt" ∧ locate "/tmp/boot" = "/tmp/boot" ∧
      espHost.lookup "/tmp/boot" = none ∧ espHost.lookup (locate "/tmp/root") = none ∧
      espHost.lookup (locate "/tmp/mnt") = none ∧
      (∀ key, isBelow "/tmp/boot" key = true → espHost.lookup key = none) ∧
      (∀ key, isBelow (locate "/tmp/root") key = true → espHost.lookup key = none) ∧
      (∀ key, isBelow (locate "/tmp/mnt") key = true → espHost.lookup key = none) ∧
      outside "/tmp/boot" (locate "/tmp/root") = true ∧
      outside (locate "/tmp/root") "/tmp/boot" = true ∧
      outside "/tmp/boot" (locate "/tmp/mnt") = true ∧
      outside (locate "/tmp/mnt") "/tmp/boot" = true ∧
      outside (locate "/tmp/root") (locate "/tmp/mnt") = true ∧
      outside (locate "/tmp/mnt") (locate "/tmp/root") = true ∧
      (∀ source ∈ "/deploy/esp.img" :: "/dev/null" :: ([] : List (String × String)).map Prod.fst,
        ∃ content, espHost.lookup (locate source) = some (.file content)) ∧
      (∀ path ∈ ["vmlinuz", "initrd", efibootLocation, lstripSlash isoConf.grubConfigPath],
        staysBelow path = true) ∧
      (∀ a ∈ ["vmlinuz", "initrd", efibootLocation, lstripSlash isoConf.grubConfigPath],
        ∀ b ∈ ["vmlinuz", "initrd", efibootLocation, lstripSlash isoConf.grubConfigPath],
          resolve (joinPath "/tmp/root" a) <+: resolve (joinPath "/tmp/root" b) →
            resolve (joinPath "/tmp/root" a) = resolve (joinPath "/tmp/root" b)) ∧
      generateCfg ddOnlyTools (some (bootParams none none)) isoConf.grubConfigTemplate
        [("linux", "/vmlinuz"), ("initrd", "/initrd")] = .ok "" ∧
      ∃ seen, createBootIso ddOnlyTools bootFs isoConf inspectingConductor sampleTools
          (sampleFetcher [7]) (some "/deploy/esp.img") "/images/boot.iso" "kernel" "ramdisk" none
          none none none (some "uefi") [] none espHost =
        withFinally (withFinally (wrapProcessError "iso" (executeWriting ddOnlyTools
          (espMkisofsArgs "/images/boot.iso" "/tmp/root"
            (uefiFilesInfo (joinPath "/tmp/boot" "kernel") (joinPath "/tmp/boot" "ramdisk") []
              (espPathInfo "/deploy/esp.img" (lstripSlash isoConf.grubConfigPath)))
            efibootLocation none) "/images/boot.iso"))
          (removeTempDir "/tmp/root")) (removeTempDir "/tmp/boot") seen ∧
        ∀ key, seen.lookup key =
          if isBelow (locate "/tmp/root") key then
            uefiRootNode (fetchedHost espHost "/tmp/boot" [7] [7]) "/tmp/root"
              (uefiFilesInfo (joinPath "/tmp/boot" "kernel") (joinPath "/tmp/boot" "ramdisk") []
                (espPathInfo "/deploy/esp.img" (lstripSlash isoConf.grubConfigPath)))
              (joinPath "/tmp/root" (lstripSlash isoConf.grubConfigPath)) "" key
          else if key = locate "/tmp/root" then some .dir
          else (fetchedHost espHost "/tmp/boot" [7] [7]).lookup key := by
  have served : ∀ imageHref, Serves inspectingConductor (sampleFetcher [7]) imageHref [7] :=
    fun _ => ⟨⟨_, rfl, nofun, rfl⟩, rfl⟩
  have emptyTmp : ∀ key, isBelow "/tmp/boot" key = true → espHost.lookup key = none :=
    Host.lookup_ofFiles_below (by decide)
  have emptyRoot : ∀ key, isBelow (locate "/tmp/root") key = true → espHost.lookup key = none :=
    Host.lookup_ofFiles_below (by decide)
  have emptyMount : ∀ key, isBelow (locate "/tmp/mnt") key = true → espHost.lookup key = none :=
    Host.lookup_ofFiles_below (by decide)
  have sources : ∀ source ∈ "/deploy/esp.img" :: "/dev/null" ::
      ([] : List (String × String)).map Prod.fst,
      ∃ content, espHost.lookup (locate source) = some (.file content) := by
    intro source mem
    rcases List.mem_cons.1 mem with rfl | mem
    · exact ⟨_, rfl⟩
    rcases List.mem_singleton.1 mem with rfl
    exact ⟨_, rfl⟩
  have below :
      ∀ path ∈ ["vmlinuz", "initrd", efibootLocation, lstripSlash isoConf.grubConfigPath],
        staysBelow path = true := by decide
  have noAncestor :
      ∀ a ∈ ["vmlinuz", "initrd", efibootLocation, lstripSlash isoConf.grubConfigPath],
      ∀ b ∈ ["vmlinuz", "initrd", efibootLocation, lstripSlash isoConf.grubConfigPath],
        resolve (joinPath "/tmp/root" a) <+: resolve (joinPath "/tmp/root" b) →
          resolve (joinPath "/tmp/root" a) = resolve (joinPath "/tmp/root" b) := by decide
  exact ⟨fun _ => rfl, rfl, rfl, rfl, by decide, served _, served _, rfl, rfl, rfl, rfl, rfl, rfl,
    rfl, emptyTmp, emptyRoot, emptyMount, rfl, rfl, rfl, rfl, rfl, rfl, sources, below, noAncestor,
    rfl, createBootIso_uefi_confEsp_root (fun _ => rfl) rfl rfl rfl (by decide) (served _)
      (served _) rfl rfl rfl rfl rfl rfl rfl emptyTmp emptyRoot emptyMount rfl rfl rfl rfl rfl rfl
      sources below noAncestor rfl⟩

/-! ## `create_boot_iso` in UEFI mode with a deploy ISO to fetch -/

theorem isoFetchedHost_fetched (other : key ≠ joinPath tmpdir "iso") :
    (isoFetchedHost host tmpdir kernelImage ramdiskImage isoImage).lookup key =
      (fetchedHost host tmpdir kernelImage ramdiskImage).lookup key := by
  rw [isoFetchedHost, Host.lookup_put, if_neg other]

theorem isoFetchedHost_iso :
    (isoFetchedHost host tmpdir kernelImage ramdiskImage isoImage).lookup
      (joinPath tmpdir "iso") = some (.file isoImage) := by
  rw [isoFetchedHost, Host.lookup_put, if_pos rfl]

theorem createBootIso_fetched_deploy (kernelServed : Serves conductor fetcher kernelHref kernelImage)
    (ramdiskServed : Serves conductor fetcher ramdiskHref ramdiskImage)
    (isoServed : Serves conductor fetcher (deployIsoHref.getD "") isoImage)
    (tmpName : fs.tempName host.draws = tmpdir) (normal : locate tmpdir = tmpdir)
    (tmpFree : host.lookup tmpdir = none)
    (emptyTmp : ∀ key, isBelow tmpdir key = true → host.lookup key = none)
    (uefi : bootMode = some "uefi") (deployGiven : truthy deployIsoHref = true) :
    createBootIso tools fs conf conductor converter fetcher espImage outputFilename kernelHref
        ramdiskHref deployIsoHref espImageHref rootUuid kernelParams bootMode injectFiles
        publisherId host =
      withFinally (createEspImageForUefi tools fs conf outputFilename (joinPath tmpdir "kernel")
        (joinPath tmpdir "ramdisk") (some (joinPath tmpdir "iso")) none
        (some (bootParams rootUuid kernelParams)) injectFiles publisherId) (removeTempDir tmpdir)
        (isoFetchedHost host tmpdir kernelImage ramdiskImage isoImage) := by
  have isoRan : (fetch conductor converter fetcher (deployIsoHref.getD "") (joinPath tmpdir "iso")
      false none none >>= fun _ => pure (some (joinPath tmpdir "iso"), (none : Option String)) :
        Run (Option String × Option String)) (fetchedHost host tmpdir kernelImage ramdiskImage) =
      .ok (some (joinPath tmpdir "iso"), none)
        (isoFetchedHost host tmpdir kernelImage ramdiskImage isoImage) := by
    rw [run_bind_ok (fetch_beside isoServed normal (by decide) (by decide) (by decide) (by decide)
      emptyTmp)]
    rfl
  rw [createBootIso, withTempDir, run_bind_ok (mkdtemp_normal tmpName normal tmpFree)]
  refine withFinally_congr ?_
  dsimp only
  rw [run_bind_ok (fetch_kernel kernelServed normal emptyTmp),
    run_bind_ok (fetch_ramdisk ramdiskServed normal emptyTmp), if_pos uefi]
  simp only [deployGiven, if_true]
  rw [run_bind_ok isoRan]
  rfl

/-- `create_boot_iso` in UEFI mode with a deploy ISO runs `mkisofs` on the UEFI root left by the
extraction of the fetched ISO. -/
theorem createBootIso_uefi_deploy_root (passes : ∀ n, fs.writeFailure n = none)
    (uefi : bootMode = some "uefi") (deployGiven : truthy deployIsoHref = true)
    (kernelServed : Serves conductor fetcher kernelHref kernelImage)
    (ramdiskServed : Serves conductor fetcher ramdiskHref ramdiskImage)
    (isoServed : Serves conductor fetcher (deployIsoHref.getD "") isoImage)
    (tmpName : fs.tempName host.draws = tmpdir) (rootName : fs.tempName (host.draws + 1) = rootdir)
    (mountName : fs.tempName (host.draws + 2) = mountdir) (normal : locate tmpdir = tmpdir)
    (tmpFree : host.lookup tmpdir = none) (rootFree : host.lookup (locate rootdir) = none)
    (mountFree : host.lookup (locate mountdir) = none)
    (emptyTmp : ∀ key, isBelow tmpdir key = true → host.lookup key = none)
    (emptyRoot : ∀ key, isBelow (locate rootdir) key = true → host.lookup key = none)
    (emptyMount : ∀ key, isBelow (locate mountdir) key = true → host.lookup key = none)
    (apart : outside tmpdir (locate rootdir) = true)
    (apart' : outside (locate rootdir) tmpdir = true)
    (mountApart : outside tmpdir (locate mountdir) = true)
    (mountApart' : outside (locate mountdir) tmpdir = true)
    (espApart : outside (locate rootdir) (locate mountdir) = true)
    (espApart' : outside (locate mountdir) (locate rootdir) = true)
    (read : tools.readIso isoImage = .ok entries) (walk : TopDown mountdir entries)
    (hasImg : HasIsoFile entries "efiboot.img") (hasCfg : HasIsoFile entries "grub.cfg")
    (sources : ∀ source ∈ injectFiles.map Prod.fst,
      ∃ content, host.lookup (locate source) = some (.file content))
    (below : ∀ path ∈ ["vmlinuz", "initrd"] ++ injectFiles.map Prod.snd, staysBelow path = true)
    (noAncestor : ∀ a ∈ ["vmlinuz", "initrd"] ++ injectFiles.map Prod.snd ++ isoBootPaths entries,
      ∀ b ∈ ["vmlinuz", "initrd"] ++ injectFiles.map Prod.snd ++ isoBootPaths entries,
        resolve (joinPath rootdir a) <+: resolve (joinPath rootdir b) →
          resolve (joinPath rootdir a) = resolve (joinPath rootdir b))
    (rendered : generateCfg tools (some (bootParams rootUuid kernelParams)) conf.grubConfigTemplate
      [("linux", "/vmlinuz"), ("initrd", "/initrd")] = .ok grubConf) :
    ∃ seen extracted eImgRelPath grubRelPath,
      IsoFileAt entries "efiboot.img" eImgRelPath ∧ IsoFileAt entries "grub.cfg" grubRelPath ∧
      (∀ key, isBelow (locate mountdir) key = true →
        extracted.lookup key = isoNode mountdir entries key) ∧
      (∀ key, outside (locate mountdir) key = true → key ≠ locate rootdir →
        extracted.lookup key = (isoFetchedHost host tmpdir kernelImage ramdiskImage isoImage).lookup key) ∧
      createBootIso tools fs conf conductor converter fetcher espImage outputFilename kernelHref
          ramdiskHref deployIsoHref espImageHref rootUuid kernelParams bootMode injectFiles
          publisherId host =
        withFinally (withFinally (wrapProcessError "iso" (executeWriting tools
          (espMkisofsArgs outputFilename rootdir (uefiFilesInfo (joinPath tmpdir "kernel")
            (joinPath tmpdir "ramdisk") injectFiles
            (setItem (setItem [] (.path (joinPath mountdir eImgRelPath)) eImgRelPath)
              (.path (joinPath mountdir grubRelPath)) grubRelPath)) eImgRelPath publisherId)
          outputFilename)) (removeTempDir rootdir)) (removeTempDir tmpdir) seen ∧
      ∀ key, seen.lookup key =
        if isBelow (locate rootdir) key then
          uefiRootNode extracted rootdir (uefiFilesInfo (joinPath tmpdir "kernel")
            (joinPath tmpdir "ramdisk") injectFiles
            (setItem (setItem [] (.path (joinPath mountdir eImgRelPath)) eImgRelPath)
              (.path (joinPath mountdir grubRelPath)) grubRelPath))
            (joinPath rootdir grubRelPath) grubConf key
        else if key = locate rootdir then some .dir
        else (isoFetchedHost host tmpdir kernelImage ramdiskImage isoImage).lookup key := by
  have isoOut : ∀ key, outside tmpdir key = true →
      (isoFetchedHost host tmpdir kernelImage ramdiskImage isoImage).lookup key = host.lookup key :=
    fun key away => fetchedHost_put_outside normal (by decide) (by decide) away
  have kernelNotIso : joinPath tmpdir "kernel" ≠ joinPath tmpdir "iso" :=
    joinPath_ne_of_ne rfl rfl (by decide)
  have ramdiskNotIso : joinPath tmpdir "ramdisk" ≠ joinPath tmpdir "iso" :=
    joinPath_ne_of_ne rfl rfl (by decide)
  -- what the deploy-ISO builder reads on the host with the three images fetched
  have sources' : ∀ source ∈ [joinPath tmpdir "kernel", joinPath tmpdir "ramdisk"] ++
      injectFiles.map Prod.fst,
      outside (locate rootdir) (locate source) = true ∧ ∃ content,
        (isoFetchedHost host tmpdir kernelImage ramdiskImage isoImage).lookup (locate source) =
          some (.file content) := by
    intro source mem
    simp only [List.cons_append, List.nil_append] at mem
    rcases List.mem_cons.1 mem with rfl | mem
    · exact fetched_source normal apart apart' (by decide) (by decide)
        ((isoFetchedHost_fetched kernelNotIso).trans fetchedHost_kernel)
    rcases List.mem_cons.1 mem with rfl | mem
    · exact fetched_source normal apart apart' (by decide) (by decide)
        ((isoFetchedHost_fetched ramdiskNotIso).trans fetchedHost_ramdisk)
    · obtain ⟨content, file⟩ := sources source mem
      exact ⟨outside_of_file rootFree emptyRoot file, content,
        (isoOut _ (outside_of_file tmpFree emptyTmp file)).trans file⟩
  have found : (isoFetchedHost host tmpdir kernelImage ramdiskImage isoImage).lookup
      (locate (joinPath tmpdir "iso")) = some (.file isoImage) := by
    rw [locate_joinPath_name normal (by decide) (by decide), isoFetchedHost_iso]
  -- the deploy-ISO builder on that host
  obtain ⟨seen, extracted, eImgRelPath, grubRelPath, eImgAt, grubAt, inMount, kept, ran, tree⟩ :=
    @createEspImageForUefi_deploy_tree tools fs conf
      (isoFetchedHost host tmpdir kernelImage ramdiskImage isoImage) outputFilename
      (joinPath tmpdir "kernel") (joinPath tmpdir "ramdisk") (joinPath tmpdir "iso") rootdir
      mountdir grubConf isoImage entries (some (bootParams rootUuid kernelParams)) injectFiles
      publisherId passes rootName mountName ((isoOut _ apart).trans rootFree)
      ((isoOut _ mountApart).trans mountFree) espApart espApart'
      (fun key inRoot =>
        (isoOut key (outside_of_apart apart' apart inRoot)).trans (emptyRoot key inRoot))
      (fun key inMount => (isoOut key (outside_of_apart mountApart' mountApart inMount)).trans
        (emptyMount key inMount))
      (joinPath_name_ne_empty normal (by decide) (by decide)) found read walk hasImg hasCfg
      sources' below noAncestor rendered
  exact ⟨seen, extracted, eImgRelPath, grubRelPath, eImgAt, grubAt, inMount, kept,
    (createBootIso_fetched_deploy kernelServed ramdiskServed isoServed tmpName normal tmpFree
      emptyTmp uefi deployGiven).trans (withFinally_congr ran), tree⟩

theorem createBootIso_uefi_deploy_root_sample :
    (∀ n, bootFs.writeFailure n = none) ∧ (some "uefi" : Option String) = some "uefi" ∧
      truthy (some "iso") = true ∧
      Serves inspectingConductor (sampleFetcher [7]) "kernel" [7] ∧
      Serves inspectingConductor (sampleFetcher [7]) "ramdisk" [7] ∧
      Serves inspectingConductor (sampleFetcher [7]) ((some "iso").getD "") [7] ∧
      bootFs.tempName deployIsoHost.draws = "/tmp/boot" ∧
      bootFs.tempName (deployIsoHost.draws + 1) = "/tmp/root" ∧
      bootFs.tempName (deployIsoHost.draws + 2) = "/tmp/mnt" ∧ locate "/tmp/boot" = "/tmp/boot" ∧
      deployIsoHost.lookup "/tmp/boot" = none ∧ deployIsoHost.lookup (locate "/tmp/root") = none ∧
      deployIsoHost.lookup (locate "/tmp/mnt") = none ∧
      (∀ key, isBelow "/tmp/boot" key = true → deployIsoHost.lookup key = none) ∧
      (∀ key, isBelow (locate "/tmp/root") key = true → deployIsoHost.lookup key = none) ∧
      (∀ key, isBelow (locate "/tmp/mnt") key = true → deployIsoHost.lookup key = none) ∧
      outside "/tmp/boot" (locate "/tmp/root") = true ∧
      outside (locate "/tmp/root") "/tmp/boot" = true ∧
      outside "/tmp/boot" (locate "/tmp/mnt") = true ∧
      outside (locate "/tmp/mnt") "/tmp/boot" = true ∧
      outside (locate "/tmp/root") (locate "/tmp/mnt") = true ∧
      outside (locate "/tmp/mnt") (locate "/tmp/root") = true ∧
      deployIsoTools.readIso [7] = .ok deployIsoEntries ∧ TopDown "/tmp/mnt" deployIsoEntries ∧
      HasIsoFile deployIsoEntries "efiboot.img" ∧ HasIsoFile deployIsoEntries "grub.cfg" ∧
      (∀ source ∈ ([] : List (String × String)).map Prod.fst,
        ∃ content, deployIsoHost.lookup (locate source) = some (.file content)) ∧
      (∀ path ∈ ["vmlinuz", "initrd"] ++ ([] : List (String × String)).map Prod.snd,
        staysBelow path = true) ∧
      (∀ a ∈ ["vmlinuz", "initrd"] ++ ([] : List (String × String)).map Prod.snd ++
          isoBootPaths deployIsoEntries,
        ∀ b ∈ ["vmlinuz", "initrd"] ++ ([] : List (String × String)).map Prod.snd ++
          isoBootPaths deployIsoEntries,
          resolve (joinPath "/tmp/root" a) <+: resolve (joinPath "/tmp/root" b) →
            resolve (joinPath "/tmp/root" a) = resolve (joinPath "/tmp/root" b)) ∧
      generateCfg deployIsoTools (some (bootParams none none)) isoConf.grubConfigTemplate
        [("linux", "/vmlinuz"), ("initrd", "/initrd")] = .ok "" ∧
      ∃ seen extracted eImgRelPath grubRelPath,
        IsoFileAt deployIsoEntries "efiboot.img" eImgRelPath ∧
        IsoFileAt deployIsoEntries "grub.cfg" grubRelPath ∧
        (∀ key, isBelow (locate "/tmp/mnt") key = true →
          extracted.lookup key = isoNode "/tmp/mnt" deployIsoEntries key) ∧
        (∀ key, outside (locate "/tmp/mnt") key = true → key ≠ locate "/tmp/root" →
          extracted.lookup key = (isoFetchedHost deployIsoHost "/tmp/boot" [7] [7] [7]).lookup key) ∧
        createBootIso deployIsoTools bootFs isoConf inspectingConductor sampleTools
            (sampleFetcher [7]) none "/images/boot.iso" "kernel" "ramdisk" (some "iso") none none
            none (some "uefi") [] none deployIsoHost =
          withFinally (withFinally (wrapProcessError "iso" (executeWriting deployIsoTools
            (espMkisofsArgs "/images/boot.iso" "/tmp/root"
              (uefiFilesInfo (joinPath "/tmp/boot" "kernel") (joinPath "/tmp/boot" "ramdisk") []
                (setItem (setItem [] (.path (joinPath "/tmp/mnt" eImgRelPath)) eImgRelPath)
                  (.path (joinPath "/tmp/mnt" grubRelPath)) grubRelPath)) eImgRelPath none)
            "/images/boot.iso")) (removeTempDir "/tmp/root")) (removeTempDir "/tmp/boot") seen ∧
        ∀ key, seen.lookup key =
          if isBelow (locate "/tmp/root") key then
            uefiRootNode extracted "/tmp/root"
              (uefiFilesInfo (joinPath "/tmp/boot" "kernel") (joinPath "/tmp/boot" "ramdisk") []
                (setItem (setItem [] (.path (joinPath "/tmp/mnt" eImgRelPath)) eImgRelPath)
                  (.path (joinPath "/tmp/mnt" grubRelPath)) grubRelPath))
              (joinPath "/tmp/root" grubRelPath) "" key
          else if key = locate "/tmp/root" then some .dir
          else (isoFetchedHost deployIsoHost "/tmp/boot" [7] [7] [7]).lookup key := by
  have served : ∀ imageHref, Serves inspectingConductor (sampleFetcher [7]) imageHref [7] :=
    fun _ => ⟨⟨_, rfl, nofun, rfl⟩, rfl⟩
  have emptyTmp : ∀ key, isBelow "/tmp/boot" key = true → deployIsoHost.lookup key = none :=
    Host.lookup_ofFiles_below (by decide)
  have emptyRoot : ∀ key, isBelow (locate "/tmp/root") key = true → deployIsoHost.lookup key = none :=
    Host.lookup_ofFiles_below (by decide)
  have emptyMount : ∀ key, isBelow (locate "/tmp/mnt") key = true → deployIsoHost.lookup key = none :=
    Host.lookup_ofFiles_below (by decide)
  have hasImg : HasIsoFile deployIsoEntries "efiboot.img" :=
    ⟨"EFI/BOOT/efiboot.img", [1], by simp [deployIsoEntries], by decide⟩
  have hasCfg : HasIsoFile deployIsoEntries "grub.cfg" :=
    ⟨"EFI/BOOT/grub.cfg", [2], by simp [deployIsoEntries], by decide⟩
  have sources : ∀ source ∈ ([] : List (String × String)).map Prod.fst,
      ∃ content, deployIsoHost.lookup (locate source) = some (.file content) := nofun
  have below : ∀ path ∈ ["vmlinuz", "initrd"] ++ ([] : List (String × String)).map Prod.snd,
      staysBelow path = true := by decide
  have noAncestor : ∀ a ∈ ["vmlinuz", "initrd"] ++ ([] : List (String × String)).map Prod.snd ++
        isoBootPaths deployIsoEntries,
      ∀ b ∈ ["vmlinuz", "initrd"] ++ ([] : List (String × String)).map Prod.snd ++
        isoBootPaths deployIsoEntries,
        resolve (joinPath "/tmp/root" a) <+: resolve (joinPath "/tmp/root" b) →
          resolve (joinPath "/tmp/root" a) = resolve (joinPath "/tmp/root" b) := by decide
  exact ⟨fun _ => rfl, rfl, rfl, served _, served _, served _, rfl, rfl, rfl, rfl, rfl, rfl, rfl,
    emptyTmp, emptyRoot, emptyMount, rfl, rfl, rfl, rfl, rfl, rfl, rfl, deployIsoEntries_topDown,
    hasImg, hasCfg, sources, below, noAncestor, rfl,
    createBootIso_uefi_deploy_root (fun _ => rfl) rfl rfl (served _) (served _) (served _) rfl rfl
      rfl rfl rfl rfl rfl emptyTmp emptyRoot emptyMount rfl rfl rfl rfl rfl rfl rfl
      deployIsoEntries_topDown hasImg hasCfg sources below noAncestor rfl⟩

end BootIso

end Ironic
