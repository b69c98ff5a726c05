import Ironic.Fetch

/-!
`is_whole_disk_image` and `is_source_a_path`: whether a node's image is a whole-disk image,
`none` standing for Python's `None` and an `Except` error for an exception that escapes.
How a reference is classified and what its image service answers are parameters.
-/

namespace Ironic

/-- The keys of a node's `instance_info` that `is_whole_disk_image` reads; a missing key is
`none`. -/
structure InstanceInfo where
  imageSource : Option String
  imageType : Option String
  kernel : Option String
  ramdisk : Option String

/-- `glance_utils.is_glance_image` and `service.is_container_registry_url`. -/
structure Classifier where
  isGlanceImage : String → Bool
  isContainerRegistryUrl : String → Bool

/-- `IMAGE_TYPE_PARTITION`. -/
def imageTypePartition : String := "partition"

section WholeDisk

variable (classifier : Classifier) (fetcher : Fetcher)

/-- `get_image_properties(context, image_href)`. -/
def getImageProperties (imageHref : String) : Except Error ImageProperties := do
  let imgService ← fetcher.getImageService imageHref
  imgService.properties

/-- `name in headers` and `headers[name]` on the headers of a response, which `requests` keeps
in a `CaseInsensitiveDict`, one entry per name: a name matches whatever the case of its ASCII
letters. -/
def headerValue (headers : List (String × String)) (name : String) : Option String :=
  (headers.find? fun header => header.1.data.map Char.toLower == name.data.map Char.toLower).map
    Prod.snd

/-- What `is_source_a_path` concludes from the answer of `validate_href`: a directory
listing, a file, or, with neither hint in the headers, what the URL ends with. Reading
`res.url` raises `AttributeError` when the result has none. -/
def pathFromHeaders (res : HrefCheck) : Except Error (Option Bool) :=
  let headers := res.headers.getD []
  let contentType := headerValue headers "Content-Type"
  if (contentType.map (·.startsWith "text/html")) = some true then pure (some true)
  else if contentType.isSome && contentType ≠ some "text/html" &&
      (headerValue headers "Content-Length").isSome then pure (some false)
  else match res.url with
    | some url => pure (some (url.endsWith "/"))
    | none => throw (.other "AttributeError")

/-- `is_source_a_path(ctx, image_source)`. -/
def isSourceAPath (imageSource : Option String) : Except Error (Option Bool) :=
  if !truthy imageSource then pure none
  else do
    let imageService ← fetcher.getImageService (imageSource.getD "")
    match imageService.validateHref with
    | .error _ => pure none
    | .ok res => pathFromHeaders res

/-- `is_whole_disk_image(ctx, instance_info)`. -/
def isWholeDiskImage (instanceInfo : InstanceInfo) : Except Error (Option Bool) :=
  if !truthy instanceInfo.imageSource then pure none
  else if truthy instanceInfo.imageType then
    pure (some (instanceInfo.imageType ≠ some imageTypePartition))
  else
    let imageSource := instanceInfo.imageSource.getD ""
    if classifier.isGlanceImage imageSource then
      match getImageProperties fetcher imageSource with
      | .error _ => pure none
      | .ok iproperties =>
          if truthy iproperties.imgType then
            pure (some (iproperties.imgType ≠ some imageTypePartition))
          else pure (some (!truthy iproperties.kernelId && !truthy iproperties.ramdiskId))
    else if classifier.isContainerRegistryUrl imageSource then pure (some true)
    else do
      if (← isSourceAPath fetcher instanceInfo.imageSource) = some true then pure none
      else pure (some (!truthy instanceInfo.kernel && !truthy instanceInfo.ramdisk))

end WholeDisk

def webImage : InstanceInfo := ⟨some "http://images.local/deploy.img", none, none, none⟩

def plainClassifier : Classifier := ⟨fun _ => false, fun _ => false⟩

section Answers

variable {classifier : Classifier} {fetcher : Fetcher} {instanceInfo : InstanceInfo}

theorem isWholeDiskImage_plain (source : truthy instanceInfo.imageSource = true)
    (untyped : truthy instanceInfo.imageType = false)
    (notGlance : classifier.isGlanceImage (instanceInfo.imageSource.getD "") = false)
    (notRegistry : classifier.isContainerRegistryUrl (instanceInfo.imageSource.getD "") = false) :
    isWholeDiskImage classifier fetcher instanceInfo =
      (isSourceAPath fetcher instanceInfo.imageSource).bind fun path =>
        if path = some true then pure none
        else pure (some (!truthy instanceInfo.kernel && !truthy instanceInfo.ramdisk)) := by
  simp [isWholeDiskImage, source, untyped, notGlance, notRegistry]
  rfl

theorem isWholeDiskImage_validateHref_error {imageService : ImageService} {e : Error}
    (source : truthy instanceInfo.imageSource = true)
    (untyped : truthy instanceInfo.imageType = false)
    (notGlance : classifier.isGlanceImage (instanceInfo.imageSource.getD "") = false)
    (notRegistry : classifier.isContainerRegistryUrl (instanceInfo.imageSource.getD "") = false)
    (found : fetcher.getImageService (instanceInfo.imageSource.getD "") = .ok imageService)
    (invalid : imageService.validateHref = .error e) :
    isWholeDiskImage classifier fetcher instanceInfo =
      .ok (some (!truthy instanceInfo.kernel && !truthy instanceInfo.ramdisk)) := by
  rw [isWholeDiskImage_plain source untyped notGlance notRegistry]
  simp [isSourceAPath, source, found, invalid, Except.bind, pure, Except.pure]

theorem isWholeDiskImage_getImageService_error {e : Error}
    (source : truthy instanceInfo.imageSource = true)
    (untyped : truthy instanceInfo.imageType = false)
    (notGlance : classifier.isGlanceImage (instanceInfo.imageSource.getD "") = false)
    (notRegistry : classifier.isContainerRegistryUrl (instanceInfo.imageSource.getD "") = false)
    (failed : fetcher.getImageService (instanceInfo.imageSource.getD "") = .error e) :
    isWholeDiskImage classifier fetcher instanceInfo = .error e := by
  rw [isWholeDiskImage_plain source untyped notGlance notRegistry]
  simp [isSourceAPath, source, failed, Except.bind]

/-- `is_whole_disk_image` raises only from `is_source_a_path`, when `get_image_service` raises or
`validate_href` gives no hint. -/
theorem isWholeDiskImage_eq_error {e : Error}
    (raised : isWholeDiskImage classifier fetcher instanceInfo = .error e) :
    ∃ source, instanceInfo.imageSource = some source ∧ source ≠ "" ∧
      classifier.isGlanceImage source = false ∧
      classifier.isContainerRegistryUrl source = false ∧
      isSourceAPath fetcher (some source) = .error e := by
  obtain ⟨_ | s, imageType, kernel, ramdisk⟩ := instanceInfo
  · simp [isWholeDiskImage, truthy, pure, Except.pure] at raised
  by_cases nonempty : s = ""
  · simp [isWholeDiskImage, truthy, nonempty, pure, Except.pure] at raised
  have source : truthy (some s) = true := by simpa [truthy] using nonempty
  cases typed : truthy imageType
  · cases glance : classifier.isGlanceImage s
    · cases registry : classifier.isContainerRegistryUrl s
      · rw [@isWholeDiskImage_plain classifier fetcher ⟨some s, imageType, kernel, ramdisk⟩ source
          typed glance registry] at raised
        refine ⟨s, rfl, nonempty, glance, registry, ?_⟩
        cases found : isSourceAPath fetcher (some s) with
        | error e' => simpa [found, Except.bind] using raised
        | ok path =>
            simp only [found, Except.bind] at raised
            split at raised <;> simp [pure, Except.pure] at raised
      · simp [isWholeDiskImage, source, typed, glance, registry, pure, Except.pure] at raised
    · cases props : getImageProperties fetcher s <;>
        simp [isWholeDiskImage, source, typed, glance, props, pure, Except.pure] at raised
      split at raised <;> simp at raised
  · simp [isWholeDiskImage, source, typed, pure, Except.pure] at raised

theorem isWholeDiskImage_eq_error_unavailable :
    isWholeDiskImage plainClassifier
        { sampleFetcher rawImage with getImageService := fun _ => .error (.other "ServiceUnavailable") }
        webImage = .error (.other "ServiceUnavailable") ∧
      ∃ source, webImage.imageSource = some source ∧ source ≠ "" ∧
        plainClassifier.isGlanceImage source = false ∧
        plainClassifier.isContainerRegistryUrl source = false ∧
        isSourceAPath
          { sampleFetcher rawImage with getImageService := fun _ => .error (.other "ServiceUnavailable") }
          (some source) = .error (.other "ServiceUnavailable") := by
  have raised : isWholeDiskImage plainClassifier
      { sampleFetcher rawImage with getImageService := fun _ => .error (.other "ServiceUnavailable") }
      webImage = .error (.other "ServiceUnavailable") := rfl
  exact ⟨raised, isWholeDiskImage_eq_error raised⟩

end Answers

/-- A plain URL whose `validate_href` raises is answered `True`, and one whose `get_image_service`
raises makes `is_whole_disk_image` raise. -/
theorem isWholeDiskImage_unvalidated :
    isWholeDiskImage plainClassifier (sampleFetcher rawImage) webImage = .ok (some true) ∧
      isWholeDiskImage plainClassifier
          { sampleFetcher rawImage with getImageService := fun _ => .error (.other "ServiceUnavailable") }
          webImage = .error (.other "ServiceUnavailable") :=
  ⟨isWholeDiskImage_validateHref_error rfl rfl rfl rfl rfl rfl,
    isWholeDiskImage_getImageService_error rfl rfl rfl rfl rfl⟩

end Ironic
