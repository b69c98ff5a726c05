import Ironic.UefiRoot

/-!
What `create_isolinux_image_for_bios` hands to `mkisofs`. The builder makes `tmpdir`, copies the
kernel, the ramdisk, `isolinux.bin`, the injected files and `ldlinux.c32`, where one is found,
into it with `_create_root_fs`, and renders `isolinux/isolinux.cfg` next to `isolinux.bin`.
`createIsolinuxImageForBios_root` says the builder is `mkisofs` run on a host whose `tmpdir`
holds that tree, followed by the removal of `tmpdir`.
-/

namespace Ironic

/-! ## Items a dict keeps -/

section Dicts

variable {κ ν : Type} [DecidableEq κ]

theorem mem_setItem_of_ne {items : List (κ × ν)} {key : κ} {value : ν} {item : κ × ν}
    (mem : item ∈ items) (other : item.1 ≠ key) : item ∈ setItem items key value := by
  unfold setItem
  split
  · exact List.mem_map.2 ⟨item, mem, if_neg other⟩
  · exact List.mem_append_left _ mem

theorem mem_dictUpdate_of_not_mem {items other : List (κ × ν)} {item : κ × ν}
    (mem : item ∈ items) (unnamed : item.1 ∉ other.map Prod.fst) : item ∈ dictUpdate items other := by
  induction other generalizing items with
  | nil => exact mem
  | cons first rest ih =>
      simp only [List.map_cons, List.mem_cons, not_or] at unnamed
      exact ih (mem_setItem_of_ne mem unnamed.1) unnamed.2

theorem setItem_forall {p : κ × ν → Prop} {items : List (κ × ν)} {key : κ} {value : ν}
    (old : ∀ item ∈ items, p item) (new : p (key, value)) : ∀ item ∈ setItem items key value, p item :=
  fun item mem => (mem_setItem mem).elim (old item) fun same => same ▸ new

theorem dictUpdate_forall {p : κ × ν → Prop} {items other : List (κ × ν)}
    (old : ∀ item ∈ items, p item) (added : ∀ item ∈ other, p item) :
    ∀ item ∈ dictUpdate items other, p item :=
  fun item mem => (mem_dictUpdate mem).elim (old item) (added item)

end Dicts

/-! ## `files_info` of the BIOS image -/

section FilesInfo

variable {conf : BootConfig} {kernel ramdisk : String} {injectFiles : List (String × String)}
  {ldlinux : Option String}

theorem isolinuxFiles_item :
    ∀ item ∈ isolinuxFiles conf kernel ramdisk injectFiles ldlinux,
      (∃ source ∈ [kernel, ramdisk, conf.isolinuxBin] ++ injectFiles.map Prod.fst ++ ldlinux.toList,
        item.1 = .path source) ∧
      item.2 ∈ ["vmlinuz", "initrd", isolinuxBinPath, ldlinuxBinPath] ++ injectFiles.map Prod.snd := by
  have update : isolinuxFiles conf kernel ramdisk injectFiles ldlinux =
      dictUpdate (dictUpdate (setItem (setItem (setItem [] (.path kernel) "vmlinuz") (.path ramdisk)
        "initrd") (.path conf.isolinuxBin) isolinuxBinPath)
        (injectFiles.map fun item => (.path item.1, item.2)))
        (ldlinux.toList.map fun source => (.path source, ldlinuxBinPath)) := by
    cases ldlinux <;> rfl
  rw [update]
  refine dictUpdate_forall (dictUpdate_forall (setItem_forall (setItem_forall (setItem_forall
    (fun _ none => absurd none (List.not_mem_nil _)) ⟨⟨kernel, by simp, rfl⟩, by simp⟩)
      ⟨⟨ramdisk, by simp, rfl⟩, by simp⟩) ⟨⟨conf.isolinuxBin, by simp, rfl⟩, by simp⟩)
    fun item mem => ?_) fun item mem => ?_
  · obtain ⟨inject, inside, rfl⟩ := List.mem_map.1 mem
    exact ⟨⟨inject.1, by simp [List.mem_map_of_mem Prod.fst inside], rfl⟩,
      by simp [List.mem_map_of_mem Prod.snd inside]⟩
  · obtain ⟨source, inside, rfl⟩ := List.mem_map.1 mem
    exact ⟨⟨source, by simp [inside], rfl⟩, by simp⟩

theorem isolinuxBin_mem (notInjected : conf.isolinuxBin ∉ injectFiles.map Prod.fst)
    (notLdlinux : ldlinux ≠ some conf.isolinuxBin) :
    (.path conf.isolinuxBin, isolinuxBinPath) ∈ isolinuxFiles conf kernel ramdisk injectFiles ldlinux := by
  have fixed : (FileSource.path conf.isolinuxBin, isolinuxBinPath) ∈
      dictUpdate (setItem (setItem (setItem [] (.path kernel) "vmlinuz") (.path ramdisk) "initrd")
        (.path conf.isolinuxBin) isolinuxBinPath) (injectFiles.map fun item => (.path item.1, item.2)) :=
    mem_dictUpdate_of_not_mem (mem_setItem_self _ _ _) fun named => notInjected (by
      obtain ⟨item, inside, same⟩ := List.mem_map.1 named
      obtain ⟨inject, member, rfl⟩ := List.mem_map.1 inside
      exact List.mem_map.2 ⟨inject, member, FileSource.path.inj same⟩)
  cases ldlinux with
  | none => exact fixed
  | some source =>
      exact mem_setItem_of_ne fixed fun same => notLdlinux (congrArg some (FileSource.path.inj same).symm)

end FilesInfo

/-! ## `create_isolinux_image_for_bios` -/

section Builder

variable {tools : BootTools} {fs : FileSystem} {conf : BootConfig} {host h₁ h₃ h₄ : Host}
  {outputFile kernel ramdisk tmpdir cfg : String} {kernelParams : Option (List String)}
  {injectFiles : List (String × String)} {publisherId : Option String} {ldlinux : Option String}

theorem isFile_put_dir {key : String} (free : host.lookup key = none) :
    isFile (host.draw.put key .dir) = isFile host := by
  funext path
  unfold isFile
  rw [Host.lookup_put, Host.lookup_draw]
  split_ifs with here
  · rw [here, free]
  · rfl

theorem isolinuxRoot_ok (found : ldlinuxSource conf host = ldlinux)
    (built : createRootFs fs tmpdir (isolinuxFiles conf kernel ramdisk injectFiles ldlinux) host = .ok () h₃)
    (rendered : generateCfg tools kernelParams conf.isolinuxConfigTemplate
      [("kernel", "/vmlinuz"), ("ramdisk", "/initrd")] = .ok cfg)
    (wrote : writeToFile fs (joinPath tmpdir isolinuxCfgPath) cfg h₃ = .ok () h₄) :
    isolinuxRoot tools fs conf tmpdir kernel ramdisk kernelParams injectFiles host =
      .ok (isolinuxFiles conf kernel ramdisk injectFiles ldlinux) h₄ := by
  have rendering : (ofExcept (generateCfg tools kernelParams conf.isolinuxConfigTemplate
      [("kernel", "/vmlinuz"), ("ramdisk", "/initrd")]) : Run String) h₃ = .ok cfg h₃ := by
    rw [rendered]; rfl
  rw [isolinuxRoot, run_bind_ok (show reading (ldlinuxSource conf) host = .ok ldlinux host by
    rw [← found]; rfl)]
  rw [run_bind_ok (show wrapOSError "iso" (createRootFs fs tmpdir
    (isolinuxFiles conf kernel ramdisk injectFiles ldlinux)) host = .ok () h₃ from run_tryCatch_ok built),
    run_bind_ok rendering, run_bind_ok wrote]
  rfl

theorem createIsolinuxImageForBios_tree (passes : ∀ n, fs.writeFailure n = none)
    (tmpName : fs.tempName host.draws = tmpdir) (tmpFree : host.lookup (locate tmpdir) = none)
    (emptyTmp : ∀ key, isBelow (locate tmpdir) key = true → host.lookup key = none)
    (sources : ∀ source ∈ [kernel, ramdisk, conf.isolinuxBin] ++ injectFiles.map Prod.fst ++
        (ldlinuxSource conf host).toList,
      outside (locate tmpdir) (locate source) = true ∧
        ∃ content, host.lookup (locate source) = some (.file content))
    (notInjected : conf.isolinuxBin ∉ injectFiles.map Prod.fst)
    (notLdlinux : ldlinuxSource conf host ≠ some conf.isolinuxBin)
    (below : ∀ path ∈ ["vmlinuz", "initrd", isolinuxBinPath, ldlinuxBinPath] ++
      injectFiles.map Prod.snd ++ [isolinuxCfgPath], staysBelow path = true)
    (noAncestor : ∀ a ∈ ["vmlinuz", "initrd", isolinuxBinPath, ldlinuxBinPath] ++
        injectFiles.map Prod.snd ++ [isolinuxCfgPath],
      ∀ b ∈ ["vmlinuz", "initrd", isolinuxBinPath, ldlinuxBinPath] ++
        injectFiles.map Prod.snd ++ [isolinuxCfgPath],
        resolve (joinPath tmpdir a) <+: resolve (joinPath tmpdir b) →
          resolve (joinPath tmpdir a) = resolve (joinPath tmpdir b))
    (rendered : generateCfg tools kernelParams conf.isolinuxConfigTemplate
      [("kernel", "/vmlinuz"), ("ramdisk", "/initrd")] = .ok cfg) :
    ∃ seen, createIsolinuxImageForBios tools fs conf outputFile kernel ramdisk kernelParams
        injectFiles publisherId host =
      withFinally (wrapProcessError "iso" (executeWriting tools
        (isolinuxMkisofsArgs outputFile tmpdir
          (isolinuxFiles conf kernel ramdisk injectFiles (ldlinuxSource conf host)) publisherId)
        outputFile)) (removeTempDir tmpdir) seen ∧
      ∀ key, seen.lookup key =
        if isBelow (locate tmpdir) key then
          if key = locate (joinPath tmpdir isolinuxCfgPath) then some (.file (encode cfg))
          else rootFsNode host tmpdir (isolinuxFiles conf kernel ramdisk injectFiles
            (ldlinuxSource conf host)) key
        else if key = locate tmpdir then some .dir else host.lookup key := by
  have made : mkdtemp fs host = .ok tmpdir (host.draw.put (locate tmpdir) .dir) := by
    subst tmpName
    exact mkdtemp_free tmpFree
  have lookup₁ : ∀ key, key ≠ locate tmpdir →
      (host.draw.put (locate tmpdir) .dir).lookup key = host.lookup key :=
    fun key other => by rw [Host.lookup_put, if_neg other, Host.lookup_draw]
  have found : ldlinuxSource conf (host.draw.put (locate tmpdir) .dir) = ldlinuxSource conf host := by
    unfold ldlinuxSource
    rw [isFile_put_dir tmpFree]
  have cfgListed : isolinuxCfgPath ∈ ["vmlinuz", "initrd", isolinuxBinPath, ldlinuxBinPath] ++
      injectFiles.map Prod.snd ++ [isolinuxCfgPath] := List.mem_append_right _ (List.mem_singleton_self _)
  -- what `_create_root_fs` reads and writes
  have placed := fun entry (mem : entry ∈ isolinuxFiles conf kernel ramdisk injectFiles
      (ldlinuxSource conf host)) => List.mem_append_left [isolinuxCfgPath] (isolinuxFiles_item entry mem).2
  have sourceKept : ∀ entry ∈ isolinuxFiles conf kernel ramdisk injectFiles (ldlinuxSource conf host),
      ∀ source, entry.1 = .path source → outside (locate tmpdir) (locate source) = true ∧
        ∃ content, (host.draw.put (locate tmpdir) .dir).lookup (locate source) = some (.file content) ∧
          host.lookup (locate source) = some (.file content) := by
    intro entry mem source named
    obtain ⟨source', listed, named'⟩ := (isolinuxFiles_item entry mem).1
    obtain rfl : source' = source := FileSource.path.inj (named'.symm.trans named)
    obtain ⟨away, content, file⟩ := sources _ listed
    exact ⟨away, content, by rw [lookup₁ _ (ne_of_outside away), file], file⟩
  have belowF := fun entry mem => below _ (placed entry mem)
  have noAncestorF := @noAncestor_of_rep (isolinuxFiles conf kernel ramdisk injectFiles
    (ldlinuxSource conf host)) _ _ noAncestor fun entry mem => ⟨_, placed entry mem, rfl⟩
  -- `_create_root_fs`, then `isolinux.cfg` beside `isolinux.bin`
  obtain ⟨h₃, ran₃, built⟩ := createRootFs_passes passes (by rw [Host.lookup_put, if_pos rfl])
    (fun key inTmp => by rw [lookup₁ key (ne_of_isBelow inTmp), emptyTmp key inTmp])
    belowF (fun entry mem source named =>
      let ⟨away, content, file, _⟩ := sourceKept entry mem source named; ⟨away, content, file⟩)
    noAncestorF
  have sameParent : (pathParts isolinuxCfgPath).dropLast = (pathParts isolinuxBinPath).dropLast := by
    decide
  have wrote := @Built.writeBytes_below _ _ _ _ fs built _ (below _ cfgListed) belowF
    (fun other mem => noAncestor _ cfgListed _ (placed other mem))
    (fun other mem => noAncestor _ (placed other mem) _ cfgListed)
    (.inr ⟨_, isolinuxBin_mem notInjected notLdlinux, sameParent ▸ List.prefix_rfl⟩)
    _ (fun _ _ => rfl) (encode cfg)
  rw [passes] at wrote
  refine ⟨h₃.draw.put (locate (joinPath tmpdir isolinuxCfgPath)) (.file (encode cfg)), ?_, fun key => ?_⟩
  · rw [createIsolinuxImageForBios, withTempDir, run_bind_ok made]
    refine withFinally_congr ?_
    dsimp only
    rw [run_bind_ok (isolinuxRoot_ok found ran₃ rendered wrote)]
  · have cfgTmp : isBelow (locate tmpdir) (locate (joinPath tmpdir isolinuxCfgPath)) = true :=
      isBelow_locate_joinPath (below _ cfgListed)
    rw [Host.lookup_put, Host.lookup_draw]
    by_cases inTmp : isBelow (locate tmpdir) key = true
    · rw [if_pos inTmp, built.belowRoot key inTmp, rootFsNode_congr fun entry mem source named =>
        let ⟨_, _, kept, file⟩ := sourceKept entry mem source named; kept.trans file.symm]
    · have notCfg : key ≠ locate (joinPath tmpdir isolinuxCfgPath) := fun same => inTmp (same ▸ cfgTmp)
      rw [if_neg notCfg, if_neg inTmp]
      by_cases root : key = locate tmpdir
      · rw [if_pos root, root, built.rootDir]
      · rw [if_neg root, built.outsideKept key ((outside_or_isBelow root).resolve_right inTmp),
          lookup₁ key root]

def biosHost : Host :=
  Host.ofFiles [("/deploy/vmlinuz", [1]), ("/deploy/initrd", [2]),
    ("/usr/lib/ISOLINUX/isolinux.bin", [5]), ("/usr/share/syslinux/ldlinux.c32", [6])]

example : ldlinuxSource isoConf biosHost = some "/usr/share/syslinux/ldlinux.c32" := by decide

end Builder

end Ironic
