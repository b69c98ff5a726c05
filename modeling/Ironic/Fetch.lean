import Ironic.Conversion

/-!
`fetch`: the download of an image to `path`, the validation of its checksum, the
decompression of a zstd-compressed download, and, with `force_raw`, the conversion to raw.
The image services, the checksum validation and the `zstd` program are the fields of
`Fetcher`, so that each theorem holds for every behaviour they can have.
-/

namespace Ironic

/-- What `image_service.download(image_href, f)` did: it wrote the whole image, or raised
after writing `written`. -/
inductive Transfer where
  | completed (content : Bytes)
  | interrupted (error : Error) (written : Bytes)

/-- The properties `image_service.show(image_href)['properties']` gives, as far as
`is_whole_disk_image` reads them. -/
structure ImageProperties where
  imgType : Option String
  kernelId : Option String
  ramdiskId : Option String

/-- What `image_service.validate_href(image_href)` returns: its `headers`, if it has the
attribute, and its `url`, if it has that one. -/
structure HrefCheck where
  headers : Option (List (String × String))
  url : Option String

/-- The image service `service.get_image_service(image_href)` returns; `properties` is
`show(image_href)['properties']`. -/
structure ImageService where
  isAuthSetNeeded : Bool
  setImageAuth : Except Error Unit
  download : Transfer
  transferVerifiedChecksum : Option String
  properties : Except Error ImageProperties
  validateHref : Except Error HrefCheck

/-- The collaborators of `fetch` besides those of the conversion: the image services, the
checksum validation on the downloaded bytes, and `zstd -d` as a function of its input. -/
structure Fetcher where
  getImageService : String → Except Error ImageService
  validateChecksum : Bytes → String → Option String → Except Error Unit
  zstd : Option Bytes → ToolOutcome

/-- The zstd frame magic number, `28 b5 2f fd`. -/
def zstdMagic : Bytes := [0x28, 0xb5, 0x2f, 0xfd]

/-- `open(path, "wb")`: an empty file at `path`. -/
def openForWrite (path : String) : Run Unit := fun host =>
  match host.lookup path with
  | some .dir => .error (.osError path) host
  | _ => .ok () (host.put path (.file []))

/-- `image_service.download(image_href, f)` into the file opened at `path`. -/
def download (transfer : Transfer) (path : String) : Run Unit := fun host =>
  match transfer with
  | .completed content => .ok () (host.put path (.file content))
  | .interrupted error written => .error error (host.put path (.file written))

section Fetch

variable (conductor : Conductor) (tools : Tools) (fetcher : Fetcher)

/-- `fetch_into(context, image_href, path)`: the checksum the transfer verified, if any. -/
def fetchInto (imageHref path : String) : Run (Option String) := do
  let imageService ← ofExcept (fetcher.getImageService imageHref)
  (if imageService.isAuthSetNeeded then ofExcept imageService.setImageAuth else pure ())
  openForWrite path
  download imageService.download path
  if truthy imageService.transferVerifiedChecksum then pure imageService.transferVerifiedChecksum
  else pure none

/-- `checksum_utils.validate_checksum(path, checksum, checksum_algo)`. -/
def validateChecksum (path checksum : String) (checksumAlgo : Option String) : Run Unit := do
  ofExcept (fetcher.validateChecksum (← readFile path) checksum checksumAlgo)

/-- `utils.execute('zstd', '-d', '--rm', temp_path)`: it writes `path` and removes
`temp_path`. -/
def executeZstd (tempPath path : String) : Run Unit := fun host =>
  let input := Node.content? (host.lookup tempPath)
  let host := host.record (.execute ["zstd", "-d", "--rm", tempPath])
  match fetcher.zstd input with
  | .wrote output => .ok () ((host.erase tempPath).put path (.file output))
  | .failed error leftover => .error error (host.leave path leftover)

/-- `_handle_zstd_compression(path)`. -/
def handleZstdCompression (path : String) : Run Unit := do
  let read := (← readFile path).take 4
  if zstdMagic.isPrefixOf read && !conductor.disableZstandardDecompression then
    let tempPath := withSuffix path ".zstd"
    rename path tempPath
    tryCatch (executeZstd fetcher tempPath path) fun error =>
      if error.isOSError then rename tempPath path else throw error
  else pure ()

/-- The part of `fetch` under `remove_path_on_error(path)`: the download and, when the
transfer verified no checksum, the validation of the one given. -/
def fetchVerified (imageHref path : String) (checksum checksumAlgo : Option String) :
    Run Unit := do
  let transferChecksum ← fetchInto fetcher imageHref path
  if !truthy transferChecksum && !conductor.disableFileChecksum && truthy checksum then
    validateChecksum fetcher path (checksum.getD "") checksumAlgo
  else pure ()

/-- `fetch(context, image_href, path, force_raw, checksum, checksum_algo)`. -/
def fetch (imageHref path : String) (forceRaw : Bool) (checksum checksumAlgo : Option String) :
    Run Unit := do
  removePathOnError path (fetchVerified conductor fetcher imageHref path checksum checksumAlgo)
  handleZstdCompression conductor fetcher path
  if forceRaw then imageToRaw conductor tools imageHref path (withSuffix path ".part")
  else pure ()

end Fetch

/-! ## The paths each step writes -/

section Frames

variable (conductor : Conductor) (fetcher : Fetcher)

theorem openForWrite_confined (path : String) : Confined [path] (openForWrite path) := by
  intro host query outside
  unfold openForWrite
  split <;> simp_all

theorem download_confined (transfer : Transfer) (path : String) :
    Confined [path] (download transfer path) := by
  intro host query outside
  cases transfer <;> simp_all [download]

theorem executeZstd_confined (tempPath path : String) :
    Confined [tempPath, path] (executeZstd fetcher tempPath path) := by
  intro host query outside
  simp only [List.mem_cons, List.mem_singleton, not_or, List.not_mem_nil] at outside
  cases outcome : fetcher.zstd (Node.content? (host.lookup tempPath)) <;>
    simp [executeZstd, outcome, outside.1, outside.2, Host.lookup_leave_ne]

theorem fetchInto_confined (imageHref path : String) :
    Confined [path] (fetchInto fetcher imageHref path) :=
  (ofExcept_confined _).bind fun _ =>
    (Confined.ite (ofExcept_confined _) (Confined.returns ())).bind fun _ =>
      (openForWrite_confined path).bind fun _ => (download_confined _ path).bind fun _ =>
        Confined.ite (Confined.returns _) (Confined.returns _)

theorem fetchVerified_confined (imageHref path : String) (checksum checksumAlgo : Option String) :
    Confined [path] (fetchVerified conductor fetcher imageHref path checksum checksumAlgo) :=
  (fetchInto_confined fetcher imageHref path).bind fun _ =>
    Confined.ite ((readFile_confined path).bind fun _ => ofExcept_confined _) (Confined.returns ())

theorem handleZstdCompression_confined (path : String) :
    Confined [path, withSuffix path ".zstd"] (handleZstdCompression conductor fetcher path) :=
  (readFile_confined path).bind fun _ => Confined.ite
    ((rename_confined _ _).bind fun _ => ((executeZstd_confined fetcher _ _).mono (by simp)).handle
      fun _ => Confined.ite ((rename_confined _ _).mono (by simp)) (Confined.raises _))
    (Confined.returns ())

end Frames

/-! ## Sample collaborators -/

def zstdImage : Bytes := zstdMagic ++ [0x04, 0x00]

def sampleFetcher (image : Bytes) : Fetcher where
  getImageService _ := .ok ⟨false, .ok (), .completed image, none, .ok ⟨none, none, none⟩,
    .error (.other "ImageRefValidationFailed")⟩
  validateChecksum _ _ _ := .ok ()
  zstd _ := .failed (.processExecutionError "zstd") none

def decompressingFetcher : Fetcher :=
  { sampleFetcher zstdImage with zstd := fun _ => .wrote rawImage }

/-! ## `_handle_zstd_compression` -/

section Zstd

variable {conductor : Conductor} {fetcher : Fetcher} {path : String} {host : Host}
  {content : Bytes}

theorem executeZstd_eq_ok {tempPath : String} {u : Unit} {host' : Host} :
    executeZstd fetcher tempPath path host = .ok u host' ↔
      ∃ output, fetcher.zstd (Node.content? (host.lookup tempPath)) = .wrote output ∧
        host' = ((host.record (.execute ["zstd", "-d", "--rm", tempPath])).erase tempPath).put
          path (.file output) := by
  cases outcome : fetcher.zstd (Node.content? (host.lookup tempPath)) <;>
    simp [executeZstd, outcome, eq_comm]

theorem executeZstd_eq_error {tempPath : String} {error : Error} {host' : Host}
    (raised : executeZstd fetcher tempPath path host = .error error host') :
    ∃ leftover, fetcher.zstd (Node.content? (host.lookup tempPath)) = .failed error leftover ∧
      host' = (host.record (.execute ["zstd", "-d", "--rm", tempPath])).leave path leftover := by
  cases outcome : fetcher.zstd (Node.content? (host.lookup tempPath)) <;>
    simp only [executeZstd, outcome, reduceCtorEq, EStateM.Result.error.injEq] at raised
  obtain ⟨rfl, rfl⟩ := raised
  exact ⟨_, rfl, rfl⟩

theorem executeZstd_failed {tempPath : String} {error : Error} {leftover : Option Bytes}
    (found : host.lookup tempPath = some (.file content))
    (failed : fetcher.zstd (some content) = .failed error leftover) :
    executeZstd fetcher tempPath path host = .error error
      ((host.record (.execute ["zstd", "-d", "--rm", tempPath])).leave path leftover) := by
  simp [executeZstd, found, failed]

theorem handleZstdCompression_skip (pathFile : host.lookup path = some (.file content))
    (plain : (zstdMagic.isPrefixOf (content.take 4) &&
      !conductor.disableZstandardDecompression) = false) :
    handleZstdCompression conductor fetcher path host = .ok () host := by
  rw [handleZstdCompression, run_bind_ok (readFile_file pathFile)]
  simp [plain]

theorem handleZstdCompression_compressed (pathFile : host.lookup path = some (.file content))
    (compressed : (zstdMagic.isPrefixOf (content.take 4) &&
      !conductor.disableZstandardDecompression) = true)
    (tempNotDir : host.lookup (withSuffix path ".zstd") ≠ some .dir) :
    handleZstdCompression conductor fetcher path host =
      tryCatch (executeZstd fetcher (withSuffix path ".zstd") path) (fun error =>
          if error.isOSError then rename (withSuffix path ".zstd") path else throw error)
        ((host.erase path).put (withSuffix path ".zstd") (.file content)) := by
  rw [handleZstdCompression, run_bind_ok (readFile_file pathFile)]
  simp only [compressed, if_true]
  exact run_bind_ok (rename_file pathFile tempNotDir)

theorem handleZstdCompression_failed {error : Error} {leftover : Option Bytes}
    (pathFile : host.lookup path = some (.file content))
    (compressed : (zstdMagic.isPrefixOf (content.take 4) &&
      !conductor.disableZstandardDecompression) = true)
    (tempNotDir : host.lookup (withSuffix path ".zstd") ≠ some .dir)
    (failed : fetcher.zstd (some content) = .failed error leftover)
    (notOSError : error.isOSError = false) :
    handleZstdCompression conductor fetcher path host = .error error
      ((((host.erase path).put (withSuffix path ".zstd") (.file content)).record
        (.execute ["zstd", "-d", "--rm", withSuffix path ".zstd"])).leave path leftover) := by
  rw [handleZstdCompression_compressed pathFile compressed tempNotDir,
    run_tryCatch_error (executeZstd_failed (by simp) failed)]
  simp [notOSError]

theorem handleZstdCompression_eq_ok (tempAbsent : host.lookup (withSuffix path ".zstd") = none)
    {u : Unit} {host' : Host}
    (returned : handleZstdCompression conductor fetcher path host = .ok u host') :
    host'.lookup (withSuffix path ".zstd") = none ∧ ∃ content,
      host.lookup path = some (.file content) ∧ (host'.lookup path = some (.file content) ∨
        ∃ output, fetcher.zstd (some content) = .wrote output ∧
          host'.lookup path = some (.file output)) := by
  obtain ⟨content, pathFile⟩ : ∃ content, host.lookup path = some (.file content) := by
    obtain ⟨content, _, read, -⟩ := run_bind_eq_ok.1 returned
    exact ⟨content, (readFile_eq_ok.1 read).1⟩
  have tempPath : withSuffix path ".zstd" ≠ path := Ne.symm (withSuffix_ne path (by decide))
  cases compressed : (zstdMagic.isPrefixOf (content.take 4) &&
      !conductor.disableZstandardDecompression)
  · rw [handleZstdCompression_skip pathFile compressed, EStateM.Result.ok.injEq] at returned
    obtain ⟨-, rfl⟩ := returned
    exact ⟨tempAbsent, content, pathFile, .inl pathFile⟩
  · rw [handleZstdCompression_compressed pathFile compressed (by simp [tempAbsent]),
      run_tryCatch_eq_ok] at returned
    rcases returned with decompressed | ⟨e, _, failed, restored⟩
    · obtain ⟨output, wrote, rfl⟩ := executeZstd_eq_ok.1 decompressed
      exact ⟨by simp [tempPath], content, pathFile, .inr ⟨output, by simpa using wrote, by simp⟩⟩
    · obtain ⟨leftover, -, rfl⟩ := executeZstd_eq_error failed
      rw [run_ite_eq] at restored
      rcases restored with ⟨-, renamed⟩ | ⟨-, thrown⟩
      · obtain ⟨moved, found, -, rfl⟩ := rename_eq_ok.1 renamed
        obtain rfl : content = moved := by simpa [Host.lookup_leave_ne _ _ tempPath] using found
        exact ⟨by simp [tempPath], content, pathFile, .inl (by simp)⟩
      · simp at thrown

end Zstd

/-- A zstd-compressed download whose decompression exits non-zero is left at `disk.zstd`, and
nothing is left at `disk`. -/
theorem handleZstdCompression_nonzero_exit :
    ∃ host', handleZstdCompression inspectingConductor (sampleFetcher zstdImage) "disk"
        (Host.ofFiles [("disk", zstdImage)]) = .error (.processExecutionError "zstd") host' ∧
      host'.lookup "disk" = none ∧ host'.lookup "disk.zstd" = some (.file zstdImage) :=
  ⟨_, handleZstdCompression_failed rfl rfl (by decide) rfl rfl, rfl, rfl⟩

/-! ## What `fetch` raises -/

/-- What `fetch` without `force_raw` may raise: an `OSError`, or the error one of its
collaborators gives: `get_image_service`, the service's `set_image_auth` or `download`, the
checksum validation, or `zstd`. -/
def FetchError (fetcher : Fetcher) (e : Error) : Prop :=
  e.isOSError = true ∨ (∃ imageHref, fetcher.getImageService imageHref = .error e) ∨
    (∃ imageHref service, fetcher.getImageService imageHref = .ok service ∧
      (service.setImageAuth = .error e ∨ ∃ written, service.download = .interrupted e written)) ∨
    (∃ content checksum checksumAlgo,
      fetcher.validateChecksum content checksum checksumAlgo = .error e) ∨
    ∃ input leftover, fetcher.zstd input = .failed e leftover

section Raises

variable {conductor : Conductor} {fetcher : Fetcher}

theorem openForWrite_raisesOnly (path : String) :
    RaisesOnly (fun e => e.isOSError = true) (openForWrite path) := by
  intro host e host' raised
  unfold openForWrite at raised
  split at raised <;> cases raised
  rfl

theorem download_raisesOnly (transfer : Transfer) (path : String) :
    RaisesOnly (fun e => ∃ written, transfer = .interrupted e written) (download transfer path) := by
  intro host e host' raised
  cases transfer with
  | completed content => cases raised
  | interrupted error written =>
      cases raised
      exact ⟨written, rfl⟩

theorem fetchInto_raisesOnly (imageHref path : String) :
    RaisesOnly (FetchError fetcher) (fetchInto fetcher imageHref path) :=
  RaisesOnly.bindExcept (fun _ unavailable => .inr (.inl ⟨imageHref, unavailable⟩))
    fun service found =>
      (RaisesOnly.ite (ofExcept_raisesOnly fun _ refused =>
          .inr (.inr (.inl ⟨imageHref, service, found, .inl refused⟩)))
        (RaisesOnly.returns ())).bind fun _ =>
      ((openForWrite_raisesOnly path).mono fun _ => .inl).bind fun _ =>
      ((download_raisesOnly _ path).mono fun _ ⟨written, interrupted⟩ =>
        .inr (.inr (.inl ⟨imageHref, service, found, .inr ⟨written, interrupted⟩⟩))).bind fun _ =>
      RaisesOnly.ite (RaisesOnly.returns _) (RaisesOnly.returns _)

theorem validateChecksum_raisesOnly (path checksum : String) (checksumAlgo : Option String) :
    RaisesOnly (FetchError fetcher) (validateChecksum fetcher path checksum checksumAlgo) :=
  ((readFile_raisesOnly path).mono fun _ => .inl).bind fun content =>
    ofExcept_raisesOnly fun _ failed =>
      .inr (.inr (.inr (.inl ⟨content, checksum, checksumAlgo, failed⟩)))

theorem fetchVerified_raisesOnly (imageHref path : String) (checksum checksumAlgo : Option String) :
    RaisesOnly (FetchError fetcher)
      (fetchVerified conductor fetcher imageHref path checksum checksumAlgo) :=
  (fetchInto_raisesOnly imageHref path).bind fun _ =>
    RaisesOnly.ite (validateChecksum_raisesOnly _ _ _) (RaisesOnly.returns ())

theorem executeZstd_raisesOnly (tempPath path : String) :
    RaisesOnly (fun e => ∃ input leftover, fetcher.zstd input = .failed e leftover)
      (executeZstd fetcher tempPath path) := fun _ _ _ raised =>
  let ⟨leftover, failed, _⟩ := executeZstd_eq_error raised
  ⟨_, leftover, failed⟩

theorem handleZstdCompression_raisesOnly (path : String) :
    RaisesOnly (FetchError fetcher) (handleZstdCompression conductor fetcher path) :=
  ((readFile_raisesOnly path).mono fun _ => .inl).bind fun _ => RaisesOnly.ite
    (((rename_raisesOnly _ _).mono fun _ => .inl).bind fun _ =>
      (executeZstd_raisesOnly _ _).handle fun _ ⟨input, leftover, failed⟩ =>
        RaisesOnly.ite ((rename_raisesOnly _ _).mono fun _ => .inl)
          (RaisesOnly.raises (.inr (.inr (.inr (.inr ⟨input, leftover, failed⟩))))))
    (RaisesOnly.returns ())

theorem fetch_raisesOnly {tools : Tools} (imageHref path : String)
    (checksum checksumAlgo : Option String) :
    RaisesOnly (FetchError fetcher)
      (fetch conductor tools fetcher imageHref path false checksum checksumAlgo) :=
  (removePathOnError_raisesOnly (fetchVerified_raisesOnly _ _ _ _) fun _ => .inl).bind fun _ =>
    (handleZstdCompression_raisesOnly path).bind fun _ => RaisesOnly.returns ()

end Raises

/-! ## A `fetch` that returns -/

section Returns

variable {conductor : Conductor} {fetcher : Fetcher} {imageHref path : String} {host host' : Host}

theorem openForWrite_eq_ok {u : Unit} (opened : openForWrite path host = .ok u host') :
    host' = host.put path (.file []) := by
  unfold openForWrite at opened
  split at opened <;> cases opened
  rfl

theorem download_eq_ok {transfer : Transfer} {u : Unit}
    (downloaded : download transfer path host = .ok u host') :
    ∃ content, transfer = .completed content ∧ host' = host.put path (.file content) := by
  cases transfer with
  | completed content =>
      cases downloaded
      exact ⟨content, rfl, rfl⟩
  | interrupted error written => cases downloaded

theorem fetchInto_eq_ok {checksum : Option String}
    (returned : fetchInto fetcher imageHref path host = .ok checksum host') :
    ∃ service content, fetcher.getImageService imageHref = .ok service ∧
      service.download = .completed content ∧
      truthy checksum = truthy service.transferVerifiedChecksum ∧
      host'.lookup path = some (.file content) := by
  simp only [fetchInto, run_bind_eq_ok] at returned
  obtain ⟨service, _, got, _, _, -, _, _, opened, _, _, downloaded, final⟩ := returned
  obtain ⟨found, rfl⟩ := ofExcept_eq_ok.1 got
  obtain ⟨content, completed, rfl⟩ := download_eq_ok downloaded
  refine ⟨service, content, found, completed, ?_⟩
  cases verified : truthy service.transferVerifiedChecksum <;>
    simp only [verified, if_true, Bool.false_eq_true, if_false, run_pure,
      EStateM.Result.ok.injEq] at final <;>
    obtain ⟨rfl, rfl⟩ := final <;> exact ⟨by first | rfl | exact verified, by simp⟩

/-- What the image service for `image_href` hands `fetch`: `image` whole, after an
authentication setting that goes through when one is needed, and with no zstd frame that
`_handle_zstd_compression` would decompress. -/
structure Serves (conductor : Conductor) (fetcher : Fetcher) (imageHref : String) (image : Bytes) :
    Prop where
  service : ∃ service, fetcher.getImageService imageHref = .ok service ∧
    (service.isAuthSetNeeded = true → service.setImageAuth = .ok ()) ∧
      service.download = .completed image
  plain : (zstdMagic.isPrefixOf (image.take 4) && !conductor.disableZstandardDecompression) = false

theorem fetch_serves {tools : Tools} {image : Bytes}
    (served : Serves conductor fetcher imageHref image) (notDir : host.lookup path ≠ some .dir) :
    fetch conductor tools fetcher imageHref path false none none host =
      .ok () (host.put path (.file image)) := by
  obtain ⟨service, found, auth, completed⟩ := served.service
  have got : (ofExcept (fetcher.getImageService imageHref) : Run ImageService) host =
      .ok service host := by
    rw [found]; rfl
  have authRan : (if service.isAuthSetNeeded then ofExcept service.setImageAuth
      else pure () : Run Unit) host = .ok () host := by
    cases needed : service.isAuthSetNeeded
    · rfl
    · rw [if_pos rfl, auth needed]; rfl
  have opened : openForWrite path host = .ok () (host.put path (.file [])) := by
    unfold openForWrite
    split
    · contradiction
    · rfl
  have downloaded : download service.download path (host.put path (.file [])) =
      .ok () (host.put path (.file image)) := by
    rw [completed, download, Host.put_put]
  have fetched : fetchInto fetcher imageHref path host =
      .ok (if truthy service.transferVerifiedChecksum then service.transferVerifiedChecksum else none)
        (host.put path (.file image)) := by
    rw [fetchInto, run_bind_ok got, run_bind_ok authRan, run_bind_ok opened, run_bind_ok downloaded]
    split <;> rfl
  have verified : fetchVerified conductor fetcher imageHref path none none host =
      .ok () (host.put path (.file image)) := by
    rw [fetchVerified, run_bind_ok fetched]
    simp only [truthy, Bool.false_eq_true, decide_False, Bool.and_false, if_false]
    rfl
  rw [fetch, run_bind_ok (removePathOnError_ok verified),
    run_bind_ok (handleZstdCompression_skip (by rw [Host.lookup_put, if_pos rfl]) served.plain)]
  rfl

theorem validateChecksum_eq_ok {checksum : String} {checksumAlgo : Option String} {u : Unit}
    (validated : validateChecksum fetcher path checksum checksumAlgo host = .ok u host') :
    ∃ content, host.lookup path = some (.file content) ∧
      fetcher.validateChecksum content checksum checksumAlgo = .ok () ∧ host' = host := by
  obtain ⟨content, _, read, passed⟩ := run_bind_eq_ok.1 validated
  obtain ⟨found, rfl⟩ := readFile_eq_ok.1 read
  obtain ⟨ok, rfl⟩ := ofExcept_eq_ok.1 passed
  exact ⟨content, found, ok, rfl⟩

theorem fetchVerified_eq_ok {checksum checksumAlgo : Option String} {u : Unit}
    (returned : fetchVerified conductor fetcher imageHref path checksum checksumAlgo host =
      .ok u host') :
    ∃ service content, fetcher.getImageService imageHref = .ok service ∧
      service.download = .completed content ∧ host'.lookup path = some (.file content) ∧
      ((!truthy service.transferVerifiedChecksum && !conductor.disableFileChecksum &&
          truthy checksum) = true →
        fetcher.validateChecksum content (checksum.getD "") checksumAlgo = .ok ()) := by
  obtain ⟨_, _, fetched, checked⟩ := run_bind_eq_ok.1 returned
  obtain ⟨service, content, found, completed, verified, stored⟩ := fetchInto_eq_ok fetched
  rw [verified] at checked
  split at checked
  · obtain ⟨_, found', passed, rfl⟩ := validateChecksum_eq_ok checked
    obtain rfl := Host.lookup_file_inj stored found'
    exact ⟨service, _, found, completed, stored, fun _ => passed⟩
  · cases checked
    exact ⟨service, content, found, completed, stored, fun required => absurd required ‹_›⟩

/-- A `fetch` without `force_raw` that returns leaves at `path` the validated download, or the
output of `zstd` on it. -/
theorem fetch_eq_ok {tools : Tools} {checksum checksumAlgo : Option String} {u : Unit}
    (tempAbsent : host.lookup (withSuffix path ".zstd") = none)
    (returned : fetch conductor tools fetcher imageHref path false checksum checksumAlgo host =
      .ok u host') :
    ∃ service content, fetcher.getImageService imageHref = .ok service ∧
      service.download = .completed content ∧
      ((!truthy service.transferVerifiedChecksum && !conductor.disableFileChecksum &&
          truthy checksum) = true →
        fetcher.validateChecksum content (checksum.getD "") checksumAlgo = .ok ()) ∧
      host'.lookup (withSuffix path ".zstd") = none ∧
      (host'.lookup path = some (.file content) ∨
        ∃ output, fetcher.zstd (some content) = .wrote output ∧
          host'.lookup path = some (.file output)) := by
  obtain ⟨_, host₁, verified, rest⟩ := run_bind_eq_ok.1 returned
  obtain ⟨_, host₂, decompressed, last⟩ := run_bind_eq_ok.1 rest
  cases last
  have downloaded := removePathOnError_eq_ok.1 verified
  obtain ⟨service, content, found, completed, stored, validated⟩ := fetchVerified_eq_ok downloaded
  have tempAbsent₁ : host₁.lookup (withSuffix path ".zstd") = none := by
    have kept := fetchVerified_confined conductor fetcher imageHref path checksum checksumAlgo host
      (withSuffix path ".zstd") (by simpa using Ne.symm (@withSuffix_ne path ".zstd" (by decide)))
    rwa [downloaded, after_ok, tempAbsent] at kept
  obtain ⟨cleared, _, found', result⟩ := handleZstdCompression_eq_ok tempAbsent₁ decompressed
  obtain rfl := Host.lookup_file_inj stored found'
  exact ⟨service, _, found, completed, validated, cleared, result⟩

theorem fetch_eq_ok_decompressed :
    (Host.ofFiles []).lookup (withSuffix "disk" ".zstd") = none ∧
      ∃ host', fetch inspectingConductor sampleTools decompressingFetcher "image" "disk" false
          (some "0") none (Host.ofFiles []) = .ok () host' ∧
        ∃ service content, decompressingFetcher.getImageService "image" = .ok service ∧
          service.download = .completed content ∧
          ((!truthy service.transferVerifiedChecksum && !inspectingConductor.disableFileChecksum &&
              truthy (some "0")) = true →
            decompressingFetcher.validateChecksum content ((some "0").getD "") none = .ok ()) ∧
          host'.lookup (withSuffix "disk" ".zstd") = none ∧
          (host'.lookup "disk" = some (.file content) ∨
            ∃ output, decompressingFetcher.zstd (some content) = .wrote output ∧
              host'.lookup "disk" = some (.file output)) := by
  have tempAbsent : (Host.ofFiles []).lookup (withSuffix "disk" ".zstd") = none := rfl
  have returned : fetch inspectingConductor sampleTools decompressingFetcher "image" "disk" false
      (some "0") none (Host.ofFiles []) = .ok () _ := rfl
  exact ⟨tempAbsent, _, returned, fetch_eq_ok tempAbsent returned⟩

end Returns

/-! ## `fetch` with `force_raw` -/

section ForceRaw

variable {conductor : Conductor} {tools : Tools} {fetcher : Fetcher} {imageHref path : String}
  {checksum checksumAlgo : Option String} {host host₁ host₂ : Host}

theorem fetch_forceRaw_eq_error (partAbsent : host.lookup (withSuffix path ".part") = none)
    (convertedAbsent : host.lookup (withSuffix path ".converted") = none)
    (fetched : removePathOnError path
      (fetchVerified conductor fetcher imageHref path checksum checksumAlgo) host = .ok () host₁)
    (decompressed : handleZstdCompression conductor fetcher path host₁ = .ok () host₂) :
    ∃ e host', fetch conductor tools fetcher imageHref path true checksum checksumAlgo host =
      .error e host' ∧ host'.lookup path = host₂.lookup path := by
  have frame : ∀ query, query ∉ [path, withSuffix path ".zstd"] →
      host₂.lookup query = host.lookup query := by
    intro query outside
    have first := removePathOnError_confined (fetchVerified_confined conductor fetcher imageHref
      path checksum checksumAlgo) (List.mem_singleton_self path) host query
      (by simp_all)
    have second := handleZstdCompression_confined conductor fetcher path host₁ query outside
    rw [fetched, after_ok] at first
    rw [decompressed, after_ok] at second
    rw [second, first]
  have sibling : ∀ extension, extension ≠ "" → extension ≠ ".zstd" →
      withSuffix path extension ∉ [path, withSuffix path ".zstd"] := by
    intro extension nonempty other
    simp [withSuffix, append_ne_self nonempty, append_left_cancel_iff, other]
  have run : fetch conductor tools fetcher imageHref path true checksum checksumAlgo host =
      imageToRaw conductor tools imageHref path (withSuffix path ".part") host₂ :=
    (run_bind_ok fetched).trans (run_bind_ok decompressed)
  have partConverted : withSuffix path ".part" ≠ withSuffix path ".converted" := by
    simp [withSuffix, append_left_cancel_iff]
  have partAbsent₂ := (frame _ (sibling ".part" (by decide) (by decide))).trans partAbsent
  cases raised : imageToRaw conductor tools imageHref path (withSuffix path ".part") host₂ with
  | ok u host' => exact absurd raised (imageToRaw_tmpAbsent partConverted partAbsent₂)
  | error e host' =>
      refine ⟨e, host', run.trans raised, (imageToRaw_eq_error ?_ partConverted (by simp [partAbsent₂])
        ((frame _ (sibling ".converted" (by decide) (by decide))).trans convertedAbsent) raised).2.2⟩
      exact Ne.symm (withSuffix_ne path (by decide))

end ForceRaw

/-- With `force_raw`, a download that completes is left at `disk` while `fetch` raises. -/
theorem fetch_forceRaw_leaves_download :
    ∃ e host', fetch inspectingConductor sampleTools (sampleFetcher rawImage) "image" "disk" true
        none none (Host.ofFiles []) = .error e host' ∧
      host'.lookup "disk" = some (.file rawImage) := by
  obtain ⟨e, host', raised, kept⟩ : ∃ e host', fetch inspectingConductor sampleTools
      (sampleFetcher rawImage) "image" "disk" true none none (Host.ofFiles []) = .error e host' ∧
      host'.lookup "disk" = (Host.ofFiles [("disk", rawImage)]).lookup "disk" :=
    fetch_forceRaw_eq_error rfl rfl rfl (handleZstdCompression_skip rfl rfl)
  exact ⟨e, host', raised, kept⟩

end Ironic
