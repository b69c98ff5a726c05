import Ironic.Host

/-!
Format detection and the format policy of `ironic.common.images`: the streaming loop of
`detect_file_format` with its ISO+GPT exception, the two checks built on it
(`get_source_format`, `safety_check_image`), and `check_if_image_format_is_permitted`.
The inspector of oslo.utils is a parameter: a function of the bytes fed to it.
-/

namespace Ironic

/-- One of oslo.utils' format inspectors, as the modelled image code reads it: its name
(`str(inspector)`) and what its `safety_check()` raises if anything. -/
structure FormatInspector where
  name : String
  safetyCheck : Option Error
  deriving DecidableEq, Repr

/-- oslo.utils' `InspectWrapper` after it has been fed `fed`: `formats fed finished` is its
`formats` before and after `close()`, `format fed` its `format` after `close()`. -/
structure InspectWrapper where
  formats : Bytes → Bool → List FormatInspector
  format : Bytes → Except Error (Option FormatInspector)

namespace InspectWrapper

/-- The loop `while f.peek(): wrapper.read(4096); if wrapper.formats: break`: the bytes fed
when it stops, from `fed` with `windows` still unread. -/
def feed (wrapper : InspectWrapper) (fed : Bytes) : List Bytes → Bytes
  | [] => fed
  | window :: rest =>
      if (wrapper.formats (fed ++ window) false).isEmpty then wrapper.feed (fed ++ window) rest
      else fed ++ window

theorem feed_prefix (wrapper : InspectWrapper) (fed : Bytes) (windows : List Bytes) :
    fed <+: wrapper.feed fed windows ∧ wrapper.feed fed windows <+: fed ++ windows.flatten := by
  induction windows generalizing fed with
  | nil => simp [feed]
  | cons window rest ih =>
      have later := ih (fed ++ window)
      simp only [feed, List.flatten_cons, ← List.append_assoc]
      split
      · exact ⟨(List.prefix_append fed window).trans later.1, later.2⟩
      · exact ⟨List.prefix_append fed window, List.prefix_append _ _⟩

end InspectWrapper

/-- The file is read 4096 bytes at a time. -/
def readWindow : Nat := 4096

/-- The windows `f.read(size)` returns on `content`, `current` being the window it is
filling. -/
def windowsFrom (size : Nat) (current : Bytes) : Bytes → List Bytes
  | [] => if current.isEmpty then [] else [current]
  | byte :: rest =>
      if current.length + 1 = size then (current ++ [byte]) :: windowsFrom size [] rest
      else windowsFrom size (current ++ [byte]) rest

theorem flatten_windowsFrom (size : Nat) (current content : Bytes) :
    (windowsFrom size current content).flatten = current ++ content := by
  induction content generalizing current with
  | nil => cases current <;> simp [windowsFrom]
  | cons byte rest ih =>
      unfold windowsFrom
      split <;> simp [ih]

/-- `set(names) == {'iso', 'gpt'}`. -/
def isIsoGpt (names : List String) : Bool :=
  names.all (fun name => name == "iso" || name == "gpt") && names.contains "iso" &&
    names.contains "gpt"

theorem isIsoGpt_iff (names : List String) :
    isIsoGpt names = true ↔ ∀ name, name ∈ names ↔ name = "iso" ∨ name = "gpt" := by
  simp only [isIsoGpt, Bool.and_eq_true, List.all_eq_true, Bool.or_eq_true, beq_iff_eq,
    List.contains, List.elem_iff]
  constructor
  · rintro ⟨⟨only, iso⟩, gpt⟩ name
    exact ⟨only name, by rintro (rfl | rfl) <;> assumption⟩
  · intro same
    exact ⟨⟨fun name member => (same name).1 member, (same "iso").2 (.inl rfl)⟩,
      (same "gpt").2 (.inr rfl)⟩

/-- `detect_file_format`: the format of `content`, where several candidates are an
`ImageFormatError` unless they are exactly ISO and GPT, which count as ISO. -/
def detectFileFormat (wrapper : InspectWrapper) (content : Bytes) :
    Except Error (Option FormatInspector) :=
  let fed := wrapper.feed [] (windowsFrom readWindow [] content)
  match wrapper.format fed with
  | .error error =>
      let formats := wrapper.formats fed true
      if error = .imageFormatError ∧ isIsoGpt (formats.map (·.name)) then
        match formats.filter (·.name == "iso") with
        | iso :: _ => .ok (some iso)
        | [] => .error error
      else .error error
  | result => result

/-- The bytes the inspector sees before `detect_file_format` decides. -/
def fedBytes (wrapper : InspectWrapper) (content : Bytes) : Bytes :=
  wrapper.feed [] (windowsFrom readWindow [] content)

theorem fedBytes_prefix (wrapper : InspectWrapper) (content : Bytes) :
    fedBytes wrapper content <+: content := by
  have bounds := (wrapper.feed_prefix [] (windowsFrom readWindow [] content)).2
  rwa [List.nil_append, flatten_windowsFrom, List.nil_append] at bounds

theorem detectFileFormat_isoGpt (wrapper : InspectWrapper) (content : Bytes)
    (ambiguous : wrapper.format (fedBytes wrapper content) = .error .imageFormatError)
    (isoGpt : ∀ name, name ∈ (wrapper.formats (fedBytes wrapper content) true).map (·.name) ↔
      name = "iso" ∨ name = "gpt") :
    ∃ iso ∈ wrapper.formats (fedBytes wrapper content) true, iso.name = "iso" ∧
      detectFileFormat wrapper content = .ok (some iso) := by
  have named : isIsoGpt ((wrapper.formats (fedBytes wrapper content) true).map (·.name)) :=
    (isIsoGpt_iff _).2 isoGpt
  obtain ⟨iso, member, isIso⟩ := List.mem_map.1 ((isoGpt "iso").2 (.inl rfl))
  have present : iso ∈ (wrapper.formats (fedBytes wrapper content) true).filter
      (·.name == "iso") := List.mem_filter.2 ⟨member, by simpa using isIso⟩
  cases listed : (wrapper.formats (fedBytes wrapper content) true).filter (·.name == "iso") with
  | nil => simp [listed] at present
  | cons first rest =>
      have first_mem : first ∈ (wrapper.formats (fedBytes wrapper content) true).filter
          (·.name == "iso") := by simp [listed]
      obtain ⟨firstMember, firstIso⟩ := List.mem_filter.1 first_mem
      refine ⟨first, firstMember, by simpa using firstIso, ?_⟩
      simp only [fedBytes] at ambiguous named listed
      simp [detectFileFormat, ambiguous, named, listed]

theorem detectFileFormat_ambiguous (wrapper : InspectWrapper) (content : Bytes)
    (ambiguous : wrapper.format (fedBytes wrapper content) = .error .imageFormatError)
    (notIsoGpt : isIsoGpt ((wrapper.formats (fedBytes wrapper content) true).map (·.name)) = false) :
    detectFileFormat wrapper content = .error .imageFormatError := by
  simp only [fedBytes] at ambiguous notIsoGpt
  simp [detectFileFormat, ambiguous, notIsoGpt]

theorem detectFileFormat_decided (wrapper : InspectWrapper) (content : Bytes)
    (found : FormatInspector) (decided : wrapper.format (fedBytes wrapper content) = .ok found) :
    detectFileFormat wrapper content = .ok found := by
  simp only [fedBytes] at decided
  simp [detectFileFormat, decided]

/-! ## Format names the conductor accepts -/

/-- `RAW_IMAGE_FORMATS`: gpt is a whole-disk image. -/
def rawImageFormats : List String := ["raw", "gpt"]

/-- `image_format_permitted`: `permitted` is `[conductor]permitted_image_formats`, where
`raw` also admits `gpt`. -/
def imageFormatPermitted (permitted : List String) (imgFormat : String) : Bool :=
  let permitted := if "raw" ∈ permitted then permitted ++ rawImageFormats else permitted
  imgFormat ∈ permitted

/-- `image_format_matches`: `ari` and `aki` match anything, `raw` matches gpt. -/
def imageFormatMatches (actualFormat expectedFormat : String) : Bool :=
  if expectedFormat ∈ ["ari", "aki"] then true
  else if expectedFormat = "raw" ∧ actualFormat ∈ rawImageFormats then true
  else expectedFormat = actualFormat

/-- `check_if_image_format_is_permitted`. -/
def checkIfImageFormatIsPermitted (permitted : List String) (imgFormat : String)
    (expectedFormat : Option String) : Except Error Unit :=
  if !imageFormatPermitted permitted imgFormat then .error .invalidImage
  else match expectedFormat with
    | some expected =>
        if !imageFormatMatches imgFormat expected then .error .invalidImage else .ok ()
    | none => .ok ()

theorem imageFormatPermitted_iff (permitted : List String) (imgFormat : String) :
    imageFormatPermitted permitted imgFormat = true ↔
      imgFormat ∈ permitted ∨ ("raw" ∈ permitted ∧ imgFormat ∈ ["raw", "gpt"]) := by
  by_cases raw : "raw" ∈ permitted <;> simp [imageFormatPermitted, rawImageFormats, raw]

theorem imageFormatMatches_iff (actualFormat expectedFormat : String) :
    imageFormatMatches actualFormat expectedFormat = true ↔
      expectedFormat ∈ ["ari", "aki"] ∨ actualFormat = expectedFormat ∨
        (expectedFormat = "raw" ∧ actualFormat ∈ ["raw", "gpt"]) := by
  unfold imageFormatMatches rawImageFormats
  split_ifs with legacy raw <;> simp_all [eq_comm]

/-- A format passes the check exactly when it is permitted and, if a format is expected, matches it;
otherwise the check raises `InvalidImage`. -/
theorem checkIfImageFormatIsPermitted_eq (permitted : List String) (f : String)
    (e : Option String) :
    checkIfImageFormatIsPermitted permitted f e =
      if (f ∈ permitted ∨ ("raw" ∈ permitted ∧ f ∈ ["raw", "gpt"])) ∧
          (e = none ∨ ∃ expected, e = some expected ∧
            (expected ∈ ["ari", "aki"] ∨ f = expected ∨ (expected = "raw" ∧ f ∈ ["raw", "gpt"])))
      then .ok () else .error .invalidImage := by
  simp only [← imageFormatPermitted_iff, ← imageFormatMatches_iff]
  by_cases allowed : imageFormatPermitted permitted f
  · cases e with
    | none => simp [checkIfImageFormatIsPermitted, allowed]
    | some expected =>
        by_cases matched : imageFormatMatches f expected <;>
          simp [checkIfImageFormatIsPermitted, allowed, matched]
  · simp [checkIfImageFormatIsPermitted, allowed]

/-! ## The two checks that read a format -/

/-- `get_source_format` on the bytes of the file: an unparsable or unknown file is
`ImageUnacceptable`. -/
def sourceFormat (wrapper : InspectWrapper) (imageHref : String) (content : Bytes) :
    Except Error String :=
  match detectFileFormat wrapper content with
  | .ok (some inspector) => .ok inspector.name
  | .ok none => .error (.imageUnacceptable imageHref "parsing of the image failed.")
  | .error error =>
      if error = .imageFormatError then
        .error (.imageUnacceptable imageHref "parsing of the image failed.")
      else .error error

/-- `safety_check_image` on the bytes of the file: a file that cannot be parsed, matches no
format or fails its inspector's safety check is `InvalidImage`. -/
def safetyCheck (wrapper : InspectWrapper) (content : Bytes) : Except Error String :=
  match detectFileFormat wrapper content with
  | .ok (some inspector) =>
      match inspector.safetyCheck with
      | none => .ok inspector.name
      | some error =>
          if error = .imageFormatError ∨ error = .safetyCheckFailed then .error .invalidImage
          else .error error
  | .ok none => .error .invalidImage
  | .error error => if error = .imageFormatError then .error .invalidImage else .error error

/-- The name under which `detect_file_format` recognises `content`, if it does. -/
def detectedName (wrapper : InspectWrapper) (content : Bytes) : Option String :=
  match detectFileFormat wrapper content with
  | .ok (some inspector) => some inspector.name
  | _ => none

theorem sourceFormat_ok {wrapper : InspectWrapper} {imageHref : String} {content : Bytes}
    {format : String} (found : sourceFormat wrapper imageHref content = .ok format) :
    detectedName wrapper content = some format := by
  unfold sourceFormat at found
  unfold detectedName
  split at found <;> simp_all
  split at found <;> simp_all

theorem safetyCheck_ok {wrapper : InspectWrapper} {content : Bytes} {format : String}
    (passed : safetyCheck wrapper content = .ok format) :
    detectedName wrapper content = some format ∧
      ∃ inspector, detectFileFormat wrapper content = .ok (some inspector) ∧
        inspector.name = format ∧ inspector.safetyCheck = none := by
  unfold safetyCheck at passed
  unfold detectedName
  split at passed
  · rename_i inspector detected
    split at passed
    · rename_i clean
      simp only [Except.ok.injEq] at passed
      exact ⟨by simp [detected, passed], inspector, detected, passed, clean⟩
    · split at passed <;> simp at passed
  · simp at passed
  · split at passed <;> simp at passed

theorem safetyCheck_sourceFormat {wrapper : InspectWrapper} {imageHref : String}
    {content : Bytes} {format : String} (passed : safetyCheck wrapper content = .ok format) :
    sourceFormat wrapper imageHref content = .ok format := by
  obtain ⟨-, inspector, detected, named, -⟩ := safetyCheck_ok passed
  simp [sourceFormat, detected, named]

/-! ## A sample inspector -/

/-- `QFI\xfb`, the first bytes of a qcow2 image. -/
def qcow2Magic : Bytes := [0x51, 0x46, 0x49, 0xfb]

/-- `CD001`, the signature of an ISO 9660 volume descriptor. -/
def isoMagic : Bytes := [0x43, 0x44, 0x30, 0x30, 0x31]

def sampleInspector (fed : Bytes) : FormatInspector :=
  if qcow2Magic.isPrefixOf fed then ⟨"qcow2", none⟩
  else if isoMagic.isPrefixOf fed then ⟨"iso", none⟩
  else ⟨"raw", none⟩

def sampleWrapper : InspectWrapper where
  formats fed _ := [sampleInspector fed]
  format fed := .ok (some (sampleInspector fed))

def qcow2Image : Bytes := qcow2Magic ++ [0, 0, 0, 3]

def isoImage : Bytes := isoMagic ++ [1]

def rawImage : Bytes := [0xeb, 0x63, 0x90, 0x00]

end Ironic
