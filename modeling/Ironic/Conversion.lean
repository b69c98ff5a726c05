import Ironic.Formats

/-!
`image_to_raw` and `force_raw_will_convert`: a staged download is checked, converted to raw
by `qemu-img` when it is not raw, gpt or iso already, and renamed into place. The external
collaborators (the inspector, the memory check and `qemu-img convert`) are the fields of
`Tools`, so that each theorem holds for every behaviour they can have.
-/

namespace Ironic

/-- The `[conductor]` options the image code reads. -/
structure Conductor where
  disableDeepImageInspection : Bool
  permittedImageFormats : List String
  disableFileChecksum : Bool
  disableZstandardDecompression : Bool

/-- The collaborators of the conversion: the format inspector, the memory check, and
`qemu-img convert` as a function of its input and of the source format it is given. -/
structure Tools where
  wrapper : InspectWrapper
  memory : Except Error Unit
  convert : Option Bytes → String → ToolOutcome

section Conversion

variable (conductor : Conductor) (tools : Tools)

/-- `get_source_format(image_href, path)`. -/
def getSourceFormat (imageHref path : String) : Run String := do
  ofExcept (sourceFormat tools.wrapper imageHref (← readFile path))

/-- `safety_check_image(image_path)`. -/
def safetyCheckImage (imagePath : String) : Run String := do
  ofExcept (safetyCheck tools.wrapper (← readFile imagePath))

/-- `utils.is_memory_insufficient(raise_if_fail=True)`. -/
def isMemoryInsufficient : Run Unit := fun host =>
  match tools.memory with
  | .ok () => .ok () (host.record .memoryChecked)
  | .error error => .error error host

/-- `qemu_img.convert_image(source, dest, out_format, source_format=...)`: it writes `dest`
and nothing else. -/
def convertImage (source dest outFormat sourceFormat : String) : Run Unit := fun host =>
  let input := Node.content? (host.lookup source)
  let host := host.record (.convertImage source dest outFormat sourceFormat input)
  match tools.convert input sourceFormat with
  | .wrote output => .ok () (host.put dest (.file output))
  | .failed error leftover => .error error (host.leave dest leftover)

/-- `force_raw_will_convert(image_href, path_tmp)`. -/
def forceRawWillConvert (imageHref pathTmp : String) : Run Bool := do
  let fmt ← removePathOnError pathTmp (getSourceFormat tools imageHref pathTmp)
  pure (fmt ∉ rawImageFormats)

/-- The format `image_to_raw` acts on: that of `path_tmp` after the safety check and the
permitted-format check, or, with deep inspection disabled, that of `path`. -/
def imageToRawFormat (imageHref path pathTmp : String) : Run String :=
  if !conductor.disableDeepImageInspection then do
    let fmt ← safetyCheckImage tools pathTmp
    if !imageFormatPermitted conductor.permittedImageFormats fmt then throw .invalidImage
    else pure fmt
  else getSourceFormat tools imageHref path

/-- The conversion branch of `image_to_raw`, after the memory check. -/
def convertStaged (imageHref path pathTmp fmt : String) : Run Unit :=
  let staged := withSuffix path ".converted"
  removePathOnError staged do
    convertImage tools pathTmp staged "raw" fmt
    unlink pathTmp
    let newFmt ← getSourceFormat tools imageHref staged
    if newFmt ∉ rawImageFormats then
      throw (.imageConvertFailed imageHref s!"Converted to raw, but format is now {newFmt}")
    else rename staged path

/-- Whether `image_to_raw` sends a file of format `fmt` through the converter. -/
def needsConversion (fmt : String) : Bool := fmt ∉ rawImageFormats ∧ fmt ≠ "iso"

/-- What `image_to_raw` does with a staged file of format `fmt`: it converts when the format
needs it, after the memory check, and renames the staged file into place otherwise. -/
def convertOrRename (imageHref path pathTmp fmt : String) : Run Unit :=
  if needsConversion fmt then do
    isMemoryInsufficient tools
    convertStaged tools imageHref path pathTmp fmt
  else rename pathTmp path

/-- `image_to_raw(image_href, path, path_tmp)`. -/
def imageToRaw (imageHref path pathTmp : String) : Run Unit :=
  removePathOnError pathTmp do
    let fmt ← imageToRawFormat conductor tools imageHref path pathTmp
    convertOrRename tools imageHref path pathTmp fmt

end Conversion

/-! ## What each collaborator does -/

section Collaborators

variable {conductor : Conductor} {tools : Tools} {imageHref path pathTmp source dest outFormat
  fmt : String} {host host' : Host} {e : Error}

theorem getSourceFormat_eq_ok :
    getSourceFormat tools imageHref path host = .ok fmt host' ↔
      ∃ content, host.lookup path = some (.file content) ∧
        sourceFormat tools.wrapper imageHref content = .ok fmt ∧ host' = host := by
  simp only [getSourceFormat, run_bind_eq_ok, readFile_eq_ok, ofExcept_eq_ok]
  constructor
  · rintro ⟨content, _, ⟨found, rfl⟩, ok, rfl⟩
    exact ⟨content, found, ok, rfl⟩
  · rintro ⟨content, found, ok, rfl⟩
    exact ⟨content, _, ⟨found, rfl⟩, ok, rfl⟩

theorem getSourceFormat_eq_error (raised : getSourceFormat tools imageHref path host = .error e host') :
    host' = host := by
  simp only [getSourceFormat, run_bind_eq_error, readFile_eq_ok, ofExcept_eq_error] at raised
  rcases raised with unread | ⟨_, _, ⟨_, rfl⟩, _, rfl⟩
  · exact (readFile_eq_error unread).1
  · rfl

theorem safetyCheckImage_eq_ok :
    safetyCheckImage tools path host = .ok fmt host' ↔
      ∃ content, host.lookup path = some (.file content) ∧
        safetyCheck tools.wrapper content = .ok fmt ∧ host' = host := by
  simp only [safetyCheckImage, run_bind_eq_ok, readFile_eq_ok, ofExcept_eq_ok]
  constructor
  · rintro ⟨content, _, ⟨found, rfl⟩, ok, rfl⟩
    exact ⟨content, found, ok, rfl⟩
  · rintro ⟨content, found, ok, rfl⟩
    exact ⟨content, _, ⟨found, rfl⟩, ok, rfl⟩

theorem safetyCheckImage_eq_error (raised : safetyCheckImage tools path host = .error e host') :
    host' = host := by
  simp only [safetyCheckImage, run_bind_eq_error, readFile_eq_ok, ofExcept_eq_error] at raised
  rcases raised with unread | ⟨_, _, ⟨_, rfl⟩, _, rfl⟩
  · exact (readFile_eq_error unread).1
  · rfl

theorem isMemoryInsufficient_eq_ok {u : Unit} :
    isMemoryInsufficient tools host = .ok u host' ↔
      tools.memory = .ok () ∧ host' = host.record .memoryChecked := by
  unfold isMemoryInsufficient
  split <;> simp_all [eq_comm]

theorem isMemoryInsufficient_eq_error (raised : isMemoryInsufficient tools host = .error e host') :
    host' = host := by
  unfold isMemoryInsufficient at raised
  split at raised <;> simp_all [eq_comm]

/-- The event `qemu_img.convert_image` leaves in the log, from `host`. -/
def convertEvent (host : Host) (source dest outFormat sourceFormat : String) : Event :=
  .convertImage source dest outFormat sourceFormat (Node.content? (host.lookup source))

theorem convertImage_eq_ok {u : Unit} :
    convertImage tools source dest outFormat fmt host = .ok u host' ↔
      ∃ output, tools.convert (Node.content? (host.lookup source)) fmt = .wrote output ∧
        host' = (host.record (convertEvent host source dest outFormat fmt)).put dest (.file output) := by
  cases outcome : tools.convert (Node.content? (host.lookup source)) fmt <;>
    simp [convertImage, convertEvent, outcome, eq_comm]

theorem convertImage_eq_error (raised : convertImage tools source dest outFormat fmt host = .error e host') :
    ∃ leftover, tools.convert (Node.content? (host.lookup source)) fmt = .failed e leftover ∧
      host' = (host.record (convertEvent host source dest outFormat fmt)).leave dest leftover := by
  cases outcome : tools.convert (Node.content? (host.lookup source)) fmt <;>
    simp only [convertImage, outcome, reduceCtorEq, EStateM.Result.error.injEq] at raised
  obtain ⟨rfl, rfl⟩ := raised
  exact ⟨_, rfl, rfl⟩

theorem imageToRawFormat_eq_error
    (raised : imageToRawFormat conductor tools imageHref path pathTmp host = .error e host') :
    host' = host := by
  unfold imageToRawFormat at raised
  split at raised
  · simp only [run_bind_eq_error, safetyCheckImage_eq_ok] at raised
    rcases raised with rejected | ⟨_, _, ⟨_, _, _, rfl⟩, refused⟩
    · exact safetyCheckImage_eq_error rejected
    · split at refused <;> simp_all
  · exact getSourceFormat_eq_error raised

theorem imageToRawFormat_eq_ok :
    imageToRawFormat conductor tools imageHref path pathTmp host = .ok fmt host' →
      host' = host := by
  unfold imageToRawFormat
  split
  · simp only [run_bind_eq_ok, safetyCheckImage_eq_ok]
    rintro ⟨_, _, ⟨_, _, _, rfl⟩, returned⟩
    split at returned <;> simp_all
  · exact fun returned => (getSourceFormat_eq_ok.1 returned).choose_spec.2.2

theorem imageToRawFormat_deep_eq_ok (deep : conductor.disableDeepImageInspection = false) :
    imageToRawFormat conductor tools imageHref path pathTmp host = .ok fmt host' ↔
      ∃ content, host.lookup pathTmp = some (.file content) ∧
        safetyCheck tools.wrapper content = .ok fmt ∧
        imageFormatPermitted conductor.permittedImageFormats fmt ∧ host' = host := by
  simp only [imageToRawFormat, deep, Bool.not_false, if_true, run_bind_eq_ok,
    safetyCheckImage_eq_ok]
  constructor
  · rintro ⟨checked, _, ⟨content, found, passed, rfl⟩, returned⟩
    rw [run_ite_eq] at returned
    rcases returned with ⟨_, thrown⟩ | ⟨allowed, kept⟩
    · simp at thrown
    · simp only [run_pure, EStateM.Result.ok.injEq] at kept
      obtain ⟨rfl, rfl⟩ := kept
      exact ⟨content, found, passed, by simpa using allowed, rfl⟩
  · rintro ⟨content, found, passed, allowed, rfl⟩
    exact ⟨fmt, _, ⟨content, found, passed, rfl⟩, by simp [allowed]⟩

end Collaborators

section Staging

variable {tools : Tools} {imageHref path pathTmp fmt : String} {host host' : Host} {e : Error}

theorem convertStaged_eq_ok (distinct : pathTmp ≠ withSuffix path ".converted") {u : Unit}
    (returned : convertStaged tools imageHref path pathTmp fmt host = .ok u host') :
    ∃ content output newFmt, host.lookup pathTmp = some (.file content) ∧
      tools.convert (some content) fmt = .wrote output ∧
      sourceFormat tools.wrapper imageHref output = .ok newFmt ∧ newFmt ∈ rawImageFormats ∧
      host' = (((((host.record (.convertImage pathTmp (withSuffix path ".converted") "raw" fmt
        (some content))).put (withSuffix path ".converted") (.file output)).erase pathTmp).erase
          (withSuffix path ".converted")).put path (.file output)) := by
  simp only [convertStaged, removePathOnError_eq_ok, run_bind_eq_ok] at returned
  obtain ⟨_, h1, converted, _, h2, unlinked, newFmt, h3, detected, check⟩ := returned
  obtain ⟨output, conv, rfl⟩ := convertImage_eq_ok.1 converted
  obtain ⟨content, found, rfl⟩ := unlink_eq_ok.1 unlinked
  obtain ⟨staged, foundStaged, ok, rfl⟩ := getSourceFormat_eq_ok.1 detected
  rw [run_ite_eq] at check
  rcases check with ⟨_, thrown⟩ | ⟨isRaw, renamed⟩
  · simp at thrown
  obtain ⟨moved, foundMoved, notDir, rfl⟩ := rename_eq_ok.1 renamed
  simp [distinct, Ne.symm distinct] at found foundStaged foundMoved
  subst foundStaged foundMoved
  refine ⟨content, output, newFmt, found, by simpa [found] using conv, ok, by simpa using isRaw, ?_⟩
  simp [convertEvent, found]

theorem convertStaged_eq_error (distinct : pathTmp ≠ withSuffix path ".converted")
    (stagedNotDir : host.lookup (withSuffix path ".converted") ≠ some .dir)
    (raised : convertStaged tools imageHref path pathTmp fmt host = .error e host') :
    host'.events = host.events ++ [convertEvent host pathTmp (withSuffix path ".converted") "raw" fmt] ∧
      host'.lookup (withSuffix path ".converted") = none ∧
      (host'.lookup pathTmp = host.lookup pathTmp ∨ host'.lookup pathTmp = none) ∧
      ∀ q, q ≠ pathTmp → q ≠ withSuffix path ".converted" → host'.lookup q = host.lookup q := by
  obtain ⟨e', s', failed, cleanup⟩ := removePathOnError_eq_error raised
  have inBody : s'.events = host.events ++ [convertEvent host pathTmp (withSuffix path ".converted") "raw" fmt] ∧
      s'.lookup (withSuffix path ".converted") ≠ some .dir ∧
      (s'.lookup pathTmp = host.lookup pathTmp ∨ s'.lookup pathTmp = none) ∧
      ∀ q, q ≠ pathTmp → q ≠ withSuffix path ".converted" → s'.lookup q = host.lookup q := by
    simp only [convertStaged, run_bind_eq_error] at failed
    rcases failed with convFail | ⟨_, h1, converted, unlinkFail | ⟨_, h2, unlinked, afterUnlink⟩⟩
    · obtain ⟨leftover, _, rfl⟩ := convertImage_eq_error convFail
      refine ⟨by simp, Host.lookup_leave_notDir _ _ _ (by simpa using stagedNotDir), .inl ?_,
        fun q tmp staged => ?_⟩
      · rw [Host.lookup_leave_ne _ _ distinct]; rfl
      · rw [Host.lookup_leave_ne _ _ staged]; rfl
    · obtain ⟨output, _, rfl⟩ := convertImage_eq_ok.1 converted
      obtain ⟨rfl, -⟩ := unlink_eq_error unlinkFail
      exact ⟨by simp, by simp, .inl (by simp [distinct]), fun q _ staged => by simp [staged]⟩
    · have kept : s' = h2 := by
        rcases afterUnlink with detectFail | ⟨_, h3, detected, checkFail⟩
        · exact getSourceFormat_eq_error detectFail
        obtain ⟨_, _, _, rfl⟩ := getSourceFormat_eq_ok.1 detected
        rw [run_ite_eq] at checkFail
        rcases checkFail with ⟨_, thrown⟩ | ⟨_, renameFail⟩
        · simp only [run_throw, EStateM.Result.error.injEq] at thrown
          exact thrown.2.symm
        · exact rename_eq_error renameFail
      obtain ⟨output, _, rfl⟩ := convertImage_eq_ok.1 converted
      obtain ⟨_, _, rfl⟩ := unlink_eq_ok.1 unlinked
      subst kept
      exact ⟨by simp, by simp [Ne.symm distinct], .inr (by simp),
        fun q tmp staged => by simp [staged, tmp]⟩
  obtain ⟨events, notDir, tmp, frame⟩ := inBody
  obtain ⟨rfl, rfl⟩ := cleanup notDir
  refine ⟨by simpa using events, by simp, ?_, fun q tmpNe stagedNe => ?_⟩
  · simpa [distinct] using tmp
  · simpa [stagedNe] using frame q tmpNe stagedNe

theorem withSuffix_ne (path : String) {extension : String} (nonempty : extension ≠ "") :
    path ≠ withSuffix path extension :=
  (append_ne_self nonempty).symm

theorem needsConversion_eq_false (fmt : String) :
    needsConversion fmt = false ↔ fmt ∈ rawImageFormats ∨ fmt = "iso" := by
  by_cases raw : fmt ∈ rawImageFormats <;> simp [needsConversion, raw]

theorem convertOrRename_rename {content : Bytes} (keeps : needsConversion fmt = false)
    (tmpFile : host.lookup pathTmp = some (.file content))
    (pathNotDir : host.lookup path ≠ some .dir) :
    convertOrRename tools imageHref path pathTmp fmt host =
      .ok () ((host.erase pathTmp).put path (.file content)) := by
  rw [convertOrRename, if_neg (by simp [keeps])]
  exact rename_file tmpFile pathNotDir

theorem convertOrRename_converts (converts : needsConversion fmt = true)
    (memoryOk : tools.memory = .ok ()) :
    convertOrRename tools imageHref path pathTmp fmt host =
      convertStaged tools imageHref path pathTmp fmt (host.record .memoryChecked) := by
  rw [convertOrRename, if_pos converts]
  exact run_bind_ok (show isMemoryInsufficient tools host = .ok () _ from
    isMemoryInsufficient_eq_ok.2 ⟨memoryOk, rfl⟩)

theorem convertOrRename_eq_ok (distinct : pathTmp ≠ withSuffix path ".converted") {u : Unit}
    (returned : convertOrRename tools imageHref path pathTmp fmt host = .ok u host') :
    (needsConversion fmt = false ∧ ∃ content, host.lookup pathTmp = some (.file content) ∧
        host' = (host.erase pathTmp).put path (.file content)) ∨
      (needsConversion fmt = true ∧ tools.memory = .ok () ∧
        ∃ content output newFmt, host.lookup pathTmp = some (.file content) ∧
          tools.convert (some content) fmt = .wrote output ∧
          sourceFormat tools.wrapper imageHref output = .ok newFmt ∧ newFmt ∈ rawImageFormats ∧
          host' = (((((host.record .memoryChecked).record (.convertImage pathTmp
            (withSuffix path ".converted") "raw" fmt (some content))).put
              (withSuffix path ".converted") (.file output)).erase pathTmp).erase
                (withSuffix path ".converted")).put path (.file output)) := by
  unfold convertOrRename at returned
  rw [run_ite_eq] at returned
  rcases returned with ⟨converts, staged⟩ | ⟨keeps, renamed⟩
  · obtain ⟨_, _, memoryOk, converted⟩ := run_bind_eq_ok.1 staged
    obtain ⟨memory, rfl⟩ := isMemoryInsufficient_eq_ok.1 memoryOk
    obtain ⟨content, output, newFmt, found, conv, detected, isRaw, rfl⟩ :=
      convertStaged_eq_ok distinct converted
    exact .inr ⟨converts, memory, content, output, newFmt, by simpa using found, conv, detected,
      isRaw, rfl⟩
  · obtain ⟨content, found, -, rfl⟩ := rename_eq_ok.1 renamed
    exact .inl ⟨by simpa using keeps, content, found, rfl⟩

theorem convertOrRename_eq_error (tmpPath : pathTmp ≠ path)
    (distinct : pathTmp ≠ withSuffix path ".converted")
    (stagedNotDir : host.lookup (withSuffix path ".converted") ≠ some .dir)
    (raised : convertOrRename tools imageHref path pathTmp fmt host = .error e host') :
    host'.lookup path = host.lookup path ∧
      (host'.lookup pathTmp = host.lookup pathTmp ∨ host'.lookup pathTmp = none) ∧
      (host'.lookup (withSuffix path ".converted") = host.lookup (withSuffix path ".converted") ∨
        host'.lookup (withSuffix path ".converted") = none) ∧
      (host'.events = host.events ∨ host'.events = host.events ++ [.memoryChecked] ∨
        (needsConversion fmt = true ∧ host'.events = host.events ++ [.memoryChecked,
          .convertImage pathTmp (withSuffix path ".converted") "raw" fmt
            (Node.content? (host.lookup pathTmp))])) := by
  unfold convertOrRename at raised
  rw [run_ite_eq] at raised
  rcases raised with ⟨converts, staged⟩ | ⟨_, renameFail⟩
  · rcases run_bind_eq_error.1 staged with memoryFail | ⟨_, _, memoryOk, convertFail⟩
    · obtain rfl := isMemoryInsufficient_eq_error memoryFail
      exact ⟨rfl, .inl rfl, .inl rfl, .inl rfl⟩
    · obtain ⟨-, rfl⟩ := isMemoryInsufficient_eq_ok.1 memoryOk
      obtain ⟨events, stagedNone, tmp, frame⟩ :=
        convertStaged_eq_error distinct (by simpa using stagedNotDir) convertFail
      refine ⟨by simpa using frame path (Ne.symm tmpPath) (withSuffix_ne path (by decide)),
        by simpa using tmp, .inr stagedNone, .inr (.inr ⟨converts, ?_⟩)⟩
      simpa [convertEvent] using events
  · obtain rfl := rename_eq_error renameFail
    exact ⟨rfl, .inl rfl, .inl rfl, .inl rfl⟩

end Staging

/-! ## A sample configuration -/

def inspectingConductor : Conductor := ⟨false, ["raw", "gpt", "qcow2", "iso"], false, false⟩

def insecureConductor : Conductor := { inspectingConductor with disableDeepImageInspection := true }

def sampleTools : Tools := ⟨sampleWrapper, .ok (), fun _ _ => .wrote rawImage⟩

/-! ## `image_to_raw` -/

section ImageToRaw

variable {conductor : Conductor} {tools : Tools} {imageHref path pathTmp fmt : String}
  {host host' : Host} {e : Error} {content : Bytes}

theorem imageToRaw_eq_error (tmpPath : pathTmp ≠ path)
    (tmpStaged : pathTmp ≠ withSuffix path ".converted")
    (tmpNotDir : host.lookup pathTmp ≠ some .dir)
    (stagedAbsent : host.lookup (withSuffix path ".converted") = none)
    (raised : imageToRaw conductor tools imageHref path pathTmp host = .error e host') :
    host'.lookup pathTmp = none ∧ host'.lookup (withSuffix path ".converted") = none ∧
      host'.lookup path = host.lookup path := by
  obtain ⟨e', s', failed, cleanup⟩ := removePathOnError_eq_error raised
  have inBody : s'.lookup pathTmp ≠ some .dir ∧
      s'.lookup (withSuffix path ".converted") = none ∧ s'.lookup path = host.lookup path := by
    rcases run_bind_eq_error.1 failed with formatFail | ⟨fmt, _, decided, branch⟩
    · obtain rfl := imageToRawFormat_eq_error formatFail
      exact ⟨tmpNotDir, stagedAbsent, rfl⟩
    · obtain rfl := imageToRawFormat_eq_ok decided
      obtain ⟨pathSame, tmp, staged, -⟩ :=
        convertOrRename_eq_error tmpPath tmpStaged (by simp [stagedAbsent]) branch
      refine ⟨?_, by rcases staged with same | none <;> simp_all, pathSame⟩
      rcases tmp with same | none <;> simp_all
  obtain ⟨notDir, stagedNone, pathSame⟩ := inBody
  obtain ⟨rfl, rfl⟩ := cleanup notDir
  exact ⟨by simp, by simp [Ne.symm tmpStaged, stagedNone], by simp [Ne.symm tmpPath, pathSame]⟩

theorem imageToRaw_tmpAbsent (tmpStaged : pathTmp ≠ withSuffix path ".converted")
    (tmpAbsent : host.lookup pathTmp = none) {u : Unit} :
    imageToRaw conductor tools imageHref path pathTmp host ≠ .ok u host' := by
  intro returned
  obtain ⟨fmt, _, decided, branch⟩ := run_bind_eq_ok.1 (removePathOnError_eq_ok.1 returned)
  obtain rfl := imageToRawFormat_eq_ok decided
  rcases convertOrRename_eq_ok tmpStaged branch with ⟨-, _, found, -⟩ | ⟨-, -, _, _, _, found, -⟩ <;>
    simp [tmpAbsent] at found

/-- With deep inspection, a run that returns leaves the staged file renamed into place, when it was
raw, gpt or iso, or the converter's output on it, which the inspector reads as raw or gpt. -/
theorem imageToRaw_deep_eq_ok (deep : conductor.disableDeepImageInspection = false)
    (tmpPath : pathTmp ≠ path) (tmpStaged : pathTmp ≠ withSuffix path ".converted")
    (tmpFile : host.lookup pathTmp = some (.file content))
    (stagedAbsent : host.lookup (withSuffix path ".converted") = none) {u : Unit}
    (returned : imageToRaw conductor tools imageHref path pathTmp host = .ok u host') :
    host'.lookup pathTmp = none ∧ host'.lookup (withSuffix path ".converted") = none ∧
      ((host'.lookup path = some (.file content) ∧ ∃ fmt,
          detectedName tools.wrapper content = some fmt ∧ (fmt ∈ rawImageFormats ∨ fmt = "iso")) ∨
        ∃ fmt output newFmt, detectedName tools.wrapper content = some fmt ∧
          tools.convert (some content) fmt = .wrote output ∧
          host'.lookup path = some (.file output) ∧
          detectedName tools.wrapper output = some newFmt ∧ newFmt ∈ rawImageFormats) := by
  obtain ⟨fmt, _, decided, branch⟩ := run_bind_eq_ok.1 (removePathOnError_eq_ok.1 returned)
  obtain ⟨_, found, passed, -, rfl⟩ := (imageToRawFormat_deep_eq_ok deep).1 decided
  obtain rfl := Host.lookup_file_inj tmpFile found
  have named := (safetyCheck_ok passed).1
  have pathStaged : path ≠ withSuffix path ".converted" := withSuffix_ne path (by decide)
  rcases convertOrRename_eq_ok tmpStaged branch with ⟨keeps, _, found, rfl⟩ |
    ⟨-, -, _, output, newFmt, found, conv, detected, isRaw, rfl⟩ <;>
    obtain rfl := Host.lookup_file_inj tmpFile found
  · exact ⟨by simp [tmpPath], by simp [Ne.symm tmpStaged, Ne.symm pathStaged, stagedAbsent],
      .inl ⟨by simp, fmt, named, (needsConversion_eq_false fmt).1 keeps⟩⟩
  · exact ⟨by simp [tmpPath], by simp [Ne.symm pathStaged],
      .inr ⟨fmt, output, newFmt, named, conv, by simp, sourceFormat_ok detected, isRaw⟩⟩

theorem imageToRaw_of_format
    (decided : imageToRawFormat conductor tools imageHref path pathTmp host = .ok fmt host) :
    imageToRaw conductor tools imageHref path pathTmp host =
      removePathOnError pathTmp (convertOrRename tools imageHref path pathTmp fmt) host :=
  removePathOnError_congr (run_bind_ok decided)

theorem imageToRaw_deep_eq_ok_qcow2 :
    ∃ host', imageToRaw inspectingConductor sampleTools "image" "disk" "disk.part"
        (Host.ofFiles [("disk.part", qcow2Image)]) = .ok () host' ∧
      host'.lookup "disk.part" = none ∧ host'.lookup (withSuffix "disk" ".converted") = none ∧
      ((host'.lookup "disk" = some (.file qcow2Image) ∧ ∃ fmt,
          detectedName sampleTools.wrapper qcow2Image = some fmt ∧
            (fmt ∈ rawImageFormats ∨ fmt = "iso")) ∨
        ∃ fmt output newFmt, detectedName sampleTools.wrapper qcow2Image = some fmt ∧
          sampleTools.convert (some qcow2Image) fmt = .wrote output ∧
          host'.lookup "disk" = some (.file output) ∧
          detectedName sampleTools.wrapper output = some newFmt ∧ newFmt ∈ rawImageFormats) := by
  have returned : imageToRaw inspectingConductor sampleTools "image" "disk" "disk.part"
      (Host.ofFiles [("disk.part", qcow2Image)]) = .ok () _ := rfl
  refine ⟨_, returned, imageToRaw_deep_eq_ok ?_ ?_ ?_ ?_ ?_ returned⟩ <;> first | rfl | decide

theorem imageToRaw_deep_rawOrIso (deep : conductor.disableDeepImageInspection = false)
    (tmpFile : host.lookup pathTmp = some (.file content))
    (pathNotDir : host.lookup path ≠ some .dir)
    (passed : safetyCheck tools.wrapper content = .ok fmt)
    (allowed : imageFormatPermitted conductor.permittedImageFormats fmt = true)
    (rawOrIso : fmt ∈ rawImageFormats ∨ fmt = "iso") :
    imageToRaw conductor tools imageHref path pathTmp host =
      .ok () ((host.erase pathTmp).put path (.file content)) := by
  rw [imageToRaw_of_format ((imageToRawFormat_deep_eq_ok deep).2
    ⟨content, tmpFile, passed, allowed, rfl⟩)]
  exact removePathOnError_ok
    (convertOrRename_rename ((needsConversion_eq_false fmt).2 rawOrIso) tmpFile pathNotDir)

/-- With deep inspection, `image_to_raw` runs only the memory check and then `qemu-img convert` of a
checked format other than raw, gpt and iso. -/
theorem imageToRaw_deep_events (deep : conductor.disableDeepImageInspection = false)
    (tmpPath : pathTmp ≠ path) (tmpStaged : pathTmp ≠ withSuffix path ".converted")
    (tmpFile : host.lookup pathTmp = some (.file content))
    (stagedAbsent : host.lookup (withSuffix path ".converted") = none)
    {result : EStateM.Result Error Host Unit}
    (ran : imageToRaw conductor tools imageHref path pathTmp host = result) :
    (after result).events = host.events ∨
      (after result).events = host.events ++ [.memoryChecked] ∨
      ∃ fmt, safetyCheck tools.wrapper content = .ok fmt ∧
        imageFormatPermitted conductor.permittedImageFormats fmt = true ∧
        needsConversion fmt = true ∧
        (after result).events = host.events ++ [.memoryChecked,
          .convertImage pathTmp (withSuffix path ".converted") "raw" fmt (some content)] := by
  cases result with
  | ok u host' =>
      obtain ⟨fmt, _, decided, branch⟩ := run_bind_eq_ok.1 (removePathOnError_eq_ok.1 ran)
      obtain ⟨_, found, passed, allowed, rfl⟩ := (imageToRawFormat_deep_eq_ok deep).1 decided
      obtain rfl := Host.lookup_file_inj tmpFile found
      rcases convertOrRename_eq_ok tmpStaged branch with ⟨-, _, -, rfl⟩ |
        ⟨converts, -, _, _, _, found, -, -, -, rfl⟩
      · exact .inl (by simp [after])
      · obtain rfl := Host.lookup_file_inj tmpFile found
        exact .inr (.inr ⟨fmt, passed, allowed, converts, by simp [after]⟩)
  | error e host' =>
      obtain ⟨e', s', failed, cleanup⟩ := removePathOnError_eq_error ran
      rcases run_bind_eq_error.1 failed with formatFail | ⟨fmt, _, decided, branch⟩
      · obtain rfl := imageToRawFormat_eq_error formatFail
        obtain ⟨-, rfl⟩ := cleanup (by simp [tmpFile])
        exact .inl (by simp [after])
      · obtain ⟨_, found, passed, allowed, rfl⟩ := (imageToRawFormat_deep_eq_ok deep).1 decided
        obtain ⟨-, tmp, -, events⟩ :=
          convertOrRename_eq_error tmpPath tmpStaged (by simp [stagedAbsent]) branch
        obtain ⟨-, rfl⟩ := cleanup (by rcases tmp with same | none <;> simp_all)
        simp only [after, Host.events_erase]
        rcases events with same | memory | ⟨converts, events⟩
        · exact .inl same
        · exact .inr (.inl memory)
        · obtain rfl := Host.lookup_file_inj tmpFile found
          exact .inr (.inr ⟨fmt, passed, allowed, converts, by simpa [tmpFile] using events⟩)

theorem imageToRaw_deep_events_qcow2 :
    (after (imageToRaw inspectingConductor sampleTools "image" "disk" "disk.part"
        (Host.ofFiles [("disk.part", qcow2Image)]))).events = [] ∨
      (after (imageToRaw inspectingConductor sampleTools "image" "disk" "disk.part"
        (Host.ofFiles [("disk.part", qcow2Image)]))).events = [] ++ [.memoryChecked] ∨
      ∃ fmt, safetyCheck sampleTools.wrapper qcow2Image = .ok fmt ∧
        imageFormatPermitted inspectingConductor.permittedImageFormats fmt = true ∧
        needsConversion fmt = true ∧
        (after (imageToRaw inspectingConductor sampleTools "image" "disk" "disk.part"
          (Host.ofFiles [("disk.part", qcow2Image)]))).events = [] ++ [.memoryChecked,
            .convertImage "disk.part" (withSuffix "disk" ".converted") "raw" fmt (some qcow2Image)] := by
  refine imageToRaw_deep_events ?_ ?_ ?_ ?_ ?_ rfl <;> first | rfl | decide

theorem forceRawWillConvert_deep (deep : conductor.disableDeepImageInspection = false)
    (decided : imageToRawFormat conductor tools imageHref path pathTmp host = .ok fmt host') :
    forceRawWillConvert tools imageHref pathTmp host = .ok (decide (fmt ∉ rawImageFormats)) host := by
  obtain ⟨content, found, passed, -, rfl⟩ := (imageToRawFormat_deep_eq_ok deep).1 decided
  have read : getSourceFormat tools imageHref pathTmp host' = .ok fmt host' :=
    getSourceFormat_eq_ok.2 ⟨content, found, safetyCheck_sourceFormat passed, rfl⟩
  simp [forceRawWillConvert, run_bind_ok (removePathOnError_ok read)]

/-! ### Deep inspection disabled -/

section Insecure

variable {existing : Bytes} (insecure : conductor.disableDeepImageInspection = true)
  (pathFile : host.lookup path = some (.file existing))
  (classified : sourceFormat tools.wrapper imageHref existing = .ok fmt)

include insecure pathFile classified in
theorem imageToRawFormat_insecure :
    imageToRawFormat conductor tools imageHref path pathTmp host = .ok fmt host := by
  rw [imageToRawFormat, if_neg (by simp [insecure])]
  exact getSourceFormat_eq_ok.2 ⟨existing, pathFile, classified, rfl⟩

include insecure pathFile classified in
theorem imageToRaw_insecure_rename (rawOrIso : fmt ∈ rawImageFormats ∨ fmt = "iso")
    (tmpFile : host.lookup pathTmp = some (.file content)) :
    imageToRaw conductor tools imageHref path pathTmp host =
      .ok () ((host.erase pathTmp).put path (.file content)) := by
  rw [imageToRaw_of_format (imageToRawFormat_insecure insecure pathFile classified)]
  exact removePathOnError_ok (convertOrRename_rename ((needsConversion_eq_false fmt).2 rawOrIso)
    tmpFile (by simp [pathFile]))

include insecure pathFile classified in
theorem imageToRaw_insecure_events (converts : needsConversion fmt = true)
    (memoryOk : tools.memory = .ok ()) (tmpStaged : pathTmp ≠ withSuffix path ".converted")
    (tmpFile : host.lookup pathTmp = some (.file content))
    (stagedAbsent : host.lookup (withSuffix path ".converted") = none) :
    (after (imageToRaw conductor tools imageHref path pathTmp host)).events =
      host.events ++ [.memoryChecked,
        .convertImage pathTmp (withSuffix path ".converted") "raw" fmt (some content)] := by
  rw [imageToRaw_of_format (imageToRawFormat_insecure insecure pathFile classified),
    removePathOnError_congr (convertOrRename_converts converts memoryOk)]
  cases ran : convertStaged tools imageHref path pathTmp fmt (host.record .memoryChecked) with
  | ok u host' =>
      obtain ⟨_, _, _, found, -, -, -, rfl⟩ := convertStaged_eq_ok tmpStaged ran
      obtain rfl := Host.lookup_file_inj tmpFile found
      simp [removePathOnError_ok ran, after]
  | error e host' =>
      obtain ⟨events, -, tmp, -⟩ := convertStaged_eq_error tmpStaged (by simp [stagedAbsent]) ran
      rw [removePathOnError_error ran (by rcases tmp with same | none <;> simp_all)]
      simpa [after, convertEvent, tmpFile] using events

end Insecure

end ImageToRaw

/-! ## Failing runs on sample images -/

/-- With deep inspection disabled and a raw image already at `disk`, a staged qcow2 image is
installed as it is. -/
theorem imageToRaw_insecure_installs_qcow2 :
    imageToRaw insecureConductor sampleTools "image" "disk" "disk.part"
        (Host.ofFiles [("disk", rawImage), ("disk.part", qcow2Image)]) =
      .ok () (((Host.ofFiles [("disk", rawImage), ("disk.part", qcow2Image)]).erase
        "disk.part").put "disk" (.file qcow2Image)) ∧
      detectedName sampleWrapper qcow2Image = some "qcow2" :=
  ⟨imageToRaw_insecure_rename rfl rfl rfl (.inl (by decide)) rfl, rfl⟩

/-- With deep inspection disabled and a qcow2 image already at `disk`, a staged raw image is handed
to the converter as qcow2. -/
theorem imageToRaw_insecure_converts_raw_as_qcow2 :
    (after (imageToRaw insecureConductor sampleTools "image" "disk" "disk.part"
        (Host.ofFiles [("disk", qcow2Image), ("disk.part", rawImage)]))).events =
      [.memoryChecked, .convertImage "disk.part" "disk.converted" "raw" "qcow2" (some rawImage)] ∧
      detectedName sampleWrapper rawImage = some "raw" :=
  ⟨imageToRaw_insecure_events rfl rfl rfl rfl rfl (by decide) rfl rfl, rfl⟩

/-- With deep inspection on, an ISO image is installed unconverted, while `force_raw_will_convert`
on the same staged file says it will be converted. -/
theorem forceRawWillConvert_iso :
    forceRawWillConvert sampleTools "image" "disk.part" (Host.ofFiles [("disk.part", isoImage)]) =
        .ok true (Host.ofFiles [("disk.part", isoImage)]) ∧
      imageToRaw inspectingConductor sampleTools "image" "disk" "disk.part"
          (Host.ofFiles [("disk.part", isoImage)]) =
        .ok () (((Host.ofFiles [("disk.part", isoImage)]).erase "disk.part").put "disk"
          (.file isoImage)) := by
  have decided : imageToRawFormat inspectingConductor sampleTools "image" "disk" "disk.part"
      (Host.ofFiles [("disk.part", isoImage)]) = .ok "iso" (Host.ofFiles [("disk.part", isoImage)]) :=
    (imageToRawFormat_deep_eq_ok rfl).2 ⟨isoImage, rfl, rfl, rfl, rfl⟩
  exact ⟨forceRawWillConvert_deep rfl decided,
    imageToRaw_deep_rawOrIso rfl rfl (by decide) rfl rfl (.inr rfl)⟩

end Ironic
