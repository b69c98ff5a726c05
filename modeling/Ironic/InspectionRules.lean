import Mathlib.Data.String.Basic
import Mathlib.Algebra.Order.Ring.Unbundled.Rat
import Ironic.Host

/-!
The Kubernetes controller of `inspection_rules_controller.py`. `sync_rules` lists the
InspectionRule resources, converts each into a rule, patches its status, and writes the
rules, without their `_k8s_` keys and by descending priority, over `output_path`. The
Kubernetes API, `uuid.uuid4` and the file writes are the fields of `Kube`, so that each
theorem holds for every behaviour they can have.
-/

namespace Ironic

/-- A JSON value as the Kubernetes client returns it: a number with a fraction or an exponent
is a Python `float`, here its exact value; a dict keeps its keys in order. -/
inductive Value where
  | null
  | bool (b : Bool)
  | int (n : Int)
  | float (x : ℚ)
  | str (s : String)
  | list (items : List Value)
  | dict (entries : List (String × Value))

namespace Value

/-- `bool(value)`. -/
def truthy : Value → Bool
  | null => false
  | bool b => b
  | int n => n ≠ 0
  | float x => x ≠ 0
  | str s => s ≠ ""
  | list items => !items.isEmpty
  | dict entries => !entries.isEmpty

/-- `value.get(key, default)`: only a dict has `get`. -/
def get (value : Value) (key : String) (default : Value) : Except Error Value :=
  match value with
  | dict entries => pure ((entries.lookup key).getD default)
  | _ => throw (.other "AttributeError")

/-- The entries of a dict, and none for anything else. -/
def entries : Value → List (String × Value)
  | dict entries => entries
  | _ => []

/-- The number a value stands for in `==` and `<`: `bool` is a subclass of `int`, and an `int`
compares with a `float` by exact value. -/
def number? : Value → Option ℚ
  | int n => some n
  | bool b => some (if b then 1 else 0)
  | float x => some x
  | _ => none

mutual
/-- `value == other`: numbers by value, strings and lists item by item, dicts key by key. A dict
from JSON has distinct keys, and on those checking both ways is Python's check of the lengths
and of each key of one dict in the other. -/
def pyEq : Value → Value → Bool
  | null, null => true
  | str a, str b => a == b
  | list xs, list ys => pyEqList xs ys
  | dict xs, dict ys => entriesWithin xs ys && entriesWithin ys xs
  | v, w => match v.number?, w.number? with
    | some a, some b => a == b
    | _, _ => false
  termination_by v w => sizeOf v + sizeOf w

def pyEqList : List Value → List Value → Bool
  | x :: xs, y :: ys => pyEq x y && pyEqList xs ys
  | [], [] => true
  | _, _ => false
  termination_by xs ys => sizeOf xs + sizeOf ys

/-- Each key of `entries` is in `other`, with an equal value. -/
def entriesWithin : List (String × Value) → List (String × Value) → Bool
  | [], _ => true
  | (key, v) :: rest, other => entryWithin key v other && entriesWithin rest other
  termination_by entries other => sizeOf entries + sizeOf other

/-- `other[key] == value`, with `False` for a missing key. -/
def entryWithin (key : String) (value : Value) : List (String × Value) → Bool
  | [] => false
  | (key', w) :: rest => if key = key' then pyEq value w else entryWithin key value rest
  termination_by other => sizeOf value + sizeOf other
end

mutual
/-- `value < other`: numbers compare with numbers, strings with strings, and lists item by
item up to the first pair that is not `==`, or by length when there is none; anything else
raises `TypeError`. -/
def lessThan : Value → Value → Except Error Bool
  | list xs, list ys => listLessThan xs ys
  | v, w => match v.number?, w.number?, v, w with
    | some a, some b, _, _ => pure (decide (a < b))
    | _, _, str a, str b => pure (decide (a < b))
    | _, _, _, _ => throw (.other "TypeError")

def listLessThan : List Value → List Value → Except Error Bool
  | x :: xs, y :: ys => if pyEq x y then listLessThan xs ys else lessThan x y
  | xs, ys => pure (decide (xs.length < ys.length))
end

end Value

/-- A rule as `_convert_crd_to_rule` builds it: a dict with its keys in insertion order. -/
abbrev Rule := List (String × Value)

/-- `except ApiException` catches exactly these. -/
def Error.isApiException : Error → Bool
  | .apiException _ => true
  | _ => false

/-- `str(e)`, as far as the model names exceptions. -/
def Error.text : Error → String
  | .other name => name
  | error => reprStr error

/-- A status patch `sync_rules` sent for `crd`: the name and namespace read from its
metadata, the state and message, and whether the API took it. -/
structure StatusPatch where
  crd : Value
  name : Value
  kubeNamespace : Value
  state : String
  message : Option String
  applied : Bool

/-- What the controller's collaborators do: the items `_get_all_rules` lists at its n-th
call, the outcome of the n-th status patch, the n-th value of `uuid.uuid4()`, and, for the
n-th rules-file write, the outcome of creating the temporary file (its name), of
`yaml.safe_dump` into it, and of `os.rename` over `output_path`. -/
structure Kube where
  items : Nat → Except Error (List Value)
  patchStatus : Nat → Except Error Unit
  uuid4 : Nat → String
  namedTemporaryFile : Nat → Except Error String
  safeDump : Nat → Except Error Unit
  rename : Nat → Except Error Unit

/-- The controller and what it has done so far: the calls of `_get_all_rules`, the status
patches in order, the `uuid.uuid4()` values drawn, the rules-file writes begun, the
temporary files left in the output directory, and the rules in the file at `output_path`. -/
structure Controller where
  listed : Nat
  patches : List StatusPatch
  drawn : Nat
  writes : Nat
  temporaries : List String
  output : Option (List Rule)

abbrev Reconcile := EStateM Error Controller

/-- The `_k8s_` keys are dropped before writing. -/
def isK8sKey (key : String) : Bool := "_k8s_".data.isPrefixOf key.data

/-- The dict `{k: v for k, v in rule.items() if not k.startswith('_k8s_')}`. -/
def cleanRule (rule : Rule) : Rule := rule.filter fun entry => !isK8sKey entry.1

/-- `r.get('priority', 0)`, the sort key. -/
def priority (rule : Rule) : Value := (rule.lookup "priority").getD (.int 0)

/-- One step of the stable sort `sort(key=priority, reverse=True)`: `rule` goes after every
rule whose priority is not below its own. -/
def insertByPriority (rule : Rule) : List Rule → Except Error (List Rule)
  | [] => pure [rule]
  | other :: rest => do
      let below ← (priority other).lessThan (priority rule)
      if below then pure (rule :: other :: rest)
      else (other :: ·) <$> insertByPriority rule rest

/-- `clean_rules.sort(key=lambda r: r.get('priority', 0), reverse=True)`. -/
def sortByPriority (rules : List Rule) : Except Error (List Rule) :=
  rules.foldlM (fun sorted rule => insertByPriority rule sorted) []

/-- `spec = crd.get('spec', {})` and `metadata = crd.get('metadata', {})`. -/
def specAndMetadata (crd : Value) : Except Error (Value × Value) := do
  pure (← crd.get "spec" (.dict []), ← crd.get "metadata" (.dict []))

/-- The rule `_convert_crd_to_rule` builds once `rule_uuid` is settled. -/
def buildRule (spec metadata ruleUuid : Value) : Except Error Rule := do
  let rule : Rule := [("uuid", ruleUuid), ("priority", ← spec.get "priority" (.int 0)),
    ("phase", ← spec.get "phase" (.str "main")), ("actions", ← spec.get "actions" (.list []))]
  let optional := ["description", "conditions", "sensitive", "scope"].filterMap fun key =>
    (spec.entries.lookup key).map (key, ·)
  let k8sMetadata := Value.dict [("name", ← metadata.get "name" .null),
    ("namespace", ← metadata.get "namespace" .null),
    ("resource_version", ← metadata.get "resourceVersion" .null)]
  pure (rule ++ optional ++ [("_k8s_metadata", k8sMetadata)])

section Controller

variable (kube : Kube)

/-- `_get_all_rules()`. -/
def getAllRules : Reconcile (List Value) := fun c =>
  let c' := { c with listed := c.listed + 1 }
  match kube.items c.listed with
  | .ok crds => .ok crds c'
  | .error e => .error e c'

/-- `str(uuid.uuid4())`. -/
def uuid4 : Reconcile String := fun c =>
  .ok (kube.uuid4 c.drawn) { c with drawn := c.drawn + 1 }

/-- `rule_uuid = spec.get('uuid')`, or `str(uuid.uuid4())` when that is falsy. -/
def chooseUuid (specUuid : Value) : Reconcile Value :=
  if specUuid.truthy then pure specUuid else Value.str <$> uuid4 kube

/-- `_convert_crd_to_rule(crd)`. -/
def convertCrdToRule (crd : Value) : Reconcile Rule := do
  let (spec, metadata) ← ofExcept (specAndMetadata crd)
  let specUuid ← ofExcept (spec.get "uuid" .null)
  let ruleUuid ← chooseUuid kube specUuid
  ofExcept (buildRule spec metadata ruleUuid)

/-- `_update_crd_status(name, namespace, state, message)` for `crd`: an `ApiException` from
the patch is logged and dropped, anything else propagates. -/
def updateCrdStatus (crd name kubeNamespace : Value) (state : String) (message : Option String) :
    Reconcile Unit := fun c =>
  let patch (applied : Bool) : StatusPatch := ⟨crd, name, kubeNamespace, state, message, applied⟩
  match kube.patchStatus c.patches.length with
  | .ok () => .ok () { c with patches := c.patches ++ [patch true] }
  | .error e =>
      let c := { c with patches := c.patches ++ [patch false] }
      if e.isApiException then .ok () c else .error e c

/-- The status update `sync_rules` makes for `crd`, with the name and namespace of its
metadata. -/
def reportStatus (crd : Value) (state : String) (message : String) : Reconcile Unit := do
  let metadata ← ofExcept (crd.get "metadata" (.dict []))
  updateCrdStatus kube crd (← ofExcept (metadata.get "name" .null))
    (← ofExcept (metadata.get "namespace" .null)) state (some message)

/-- One iteration of the loop of `sync_rules`: the rule is appended as soon as it is
converted, so it stays when the `Active` update after it raises. -/
def syncCrd (rules : List Rule) (crd : Value) : Reconcile (List Rule) := do
  match ← attempt (convertCrdToRule kube crd) with
  | .error e =>
      reportStatus kube crd "Error" ("Failed to process rule: " ++ e.text)
      pure rules
  | .ok rule =>
      tryCatch (do
          reportStatus kube crd "Active" "Rule synchronized successfully"
          pure (rules ++ [rule]))
        fun e => do
          reportStatus kube crd "Error" ("Failed to process rule: " ++ e.text)
          pure (rules ++ [rule])

/-- `_write_rules_file(rules)`: the rules, cleaned and sorted, are dumped into a new
temporary file, which is renamed over `output_path`. -/
def writeRulesFile (rules : List Rule) : Reconcile Unit := fun c =>
  let attempt := c.writes
  let c := { c with writes := attempt + 1 }
  match sortByPriority (rules.map cleanRule) with
  | .error e => .error e c
  | .ok cleanRules =>
      match kube.namedTemporaryFile attempt with
      | .error e => .error e c
      | .ok tmpPath =>
          let c := { c with temporaries := c.temporaries ++ [tmpPath] }
          match kube.safeDump attempt, kube.rename attempt with
          | .error e, _ => .error e c
          | .ok (), .error e => .error e c
          | .ok (), .ok () =>
              .ok () { c with output := some cleanRules, temporaries := c.temporaries.erase tmpPath }

/-- `sync_rules()`. -/
def syncRules : Reconcile Unit := do
  let crds ← getAllRules kube
  let rules ← crds.foldlM (syncCrd kube) []
  writeRulesFile kube rules

end Controller

/-! ## The rule a CRD converts to -/

/-- The rule `_convert_crd_to_rule` builds from `crd` when `uuid.uuid4()` gives `fresh`. -/
def ruleOf (crd : Value) (fresh : String) : Except Error Rule := do
  let (spec, metadata) ← specAndMetadata crd
  let specUuid ← spec.get "uuid" .null
  buildRule spec metadata (if specUuid.truthy then specUuid else .str fresh)

/-- Whether `crd` is a dict whose spec carries a truthy `uuid`. -/
def hasSpecUuid (crd : Value) : Bool :=
  match specAndMetadata crd >>= fun parts => parts.1.get "uuid" .null with
  | .ok specUuid => specUuid.truthy
  | .error _ => false

theorem ruleOf_fresh {crd : Value} (identified : hasSpecUuid crd = true) (fresh fresh' : String) :
    ruleOf crd fresh = ruleOf crd fresh' := by
  unfold hasSpecUuid at identified
  unfold ruleOf
  cases split : specAndMetadata crd with
  | error e => simp only [except_error_bind]
  | ok parts =>
      simp only [split, except_ok_bind] at identified ⊢
      cases got : parts.1.get "uuid" .null with
      | error e => simp only [except_error_bind]
      | ok specUuid => simp_all

section Conversion

variable {kube : Kube} {crd : Value} {c c' : Controller}

theorem chooseUuid_run (specUuid : Value) (c : Controller) :
    chooseUuid kube specUuid c =
      if specUuid.truthy then .ok specUuid c
      else .ok (.str (kube.uuid4 c.drawn)) { c with drawn := c.drawn + 1 } := by
  unfold chooseUuid
  split <;> rfl

theorem convertCrdToRule_eq_ok {rule : Rule}
    (returned : convertCrdToRule kube crd c = .ok rule c') :
    ruleOf crd (kube.uuid4 c.drawn) = .ok rule := by
  obtain ⟨⟨spec, metadata⟩, _, parts, afterParts⟩ := run_bind_eq_ok.1 returned
  obtain ⟨split, rfl⟩ := ofExcept_eq_ok.1 parts
  obtain ⟨specUuid, _, got, afterUuid⟩ := run_bind_eq_ok.1 afterParts
  obtain ⟨found, rfl⟩ := ofExcept_eq_ok.1 got
  obtain ⟨ruleUuid, _, chosen, built⟩ := run_bind_eq_ok.1 afterUuid
  obtain ⟨built, -⟩ := ofExcept_eq_ok.1 built
  rw [chooseUuid_run] at chosen
  simp only [ruleOf, split, found, except_ok_bind]
  split at chosen <;> simp_all

theorem convertCrdToRule_eq_error {e : Error}
    (raised : convertCrdToRule kube crd c = .error e c') :
    ruleOf crd (kube.uuid4 c.drawn) = .error e := by
  rcases run_bind_eq_error.1 raised with unparsed | ⟨⟨spec, metadata⟩, _, parts, afterParts⟩
  · simp [ruleOf, (ofExcept_eq_error.1 unparsed).1]
  obtain ⟨split, rfl⟩ := ofExcept_eq_ok.1 parts
  rcases run_bind_eq_error.1 afterParts with noUuid | ⟨specUuid, _, got, afterUuid⟩
  · simp [ruleOf, split, (ofExcept_eq_error.1 noUuid).1]
  obtain ⟨found, rfl⟩ := ofExcept_eq_ok.1 got
  rcases run_bind_eq_error.1 afterUuid with drawFailed | ⟨ruleUuid, _, chosen, built⟩
  · rw [chooseUuid_run] at drawFailed
    split at drawFailed <;> simp at drawFailed
  obtain ⟨built, -⟩ := ofExcept_eq_error.1 built
  rw [chooseUuid_run] at chosen
  simp only [ruleOf, split, found, except_ok_bind]
  split at chosen <;> simp_all

theorem syncCrd_eq_ok {rules rules' : List Rule}
    (returned : syncCrd kube rules crd c = .ok rules' c') :
    rules' = rules ++ (ruleOf crd (kube.uuid4 c.drawn)).toOption.toList := by
  obtain ⟨outcome, _, attempted, rest⟩ := run_bind_eq_ok.1 returned
  rw [attempt_run] at attempted
  cases converted : convertCrdToRule kube crd c with
  | ok rule _ =>
      simp only [converted, EStateM.Result.ok.injEq] at attempted
      obtain ⟨rfl, rfl⟩ := attempted
      rw [convertCrdToRule_eq_ok converted]
      rcases run_tryCatch_eq_ok.1 rest with reported | ⟨_, _, _, handled⟩ <;>
        obtain ⟨_, _, _, kept⟩ := run_bind_eq_ok.1 ‹_› <;>
        simp_all [Except.toOption]
  | error e _ =>
      simp only [converted, EStateM.Result.ok.injEq] at attempted
      obtain ⟨rfl, rfl⟩ := attempted
      obtain ⟨_, _, _, kept⟩ := run_bind_eq_ok.1 rest
      simp_all [convertCrdToRule_eq_error converted, Except.toOption]

theorem syncCrds_eq_ok {crds : List Value} {rules rules' : List Rule}
    (identified : ∀ crd ∈ crds, hasSpecUuid crd = true)
    (returned : crds.foldlM (syncCrd kube) rules c = .ok rules' c') :
    rules' = rules ++ crds.filterMap fun crd => (ruleOf crd "").toOption := by
  induction crds generalizing rules c with
  | nil =>
      simp only [List.foldlM_nil, run_pure, EStateM.Result.ok.injEq] at returned
      simp [returned.1]
  | cons crd rest ih =>
      rw [List.foldlM_cons] at returned
      obtain ⟨rules₁, _, first, later⟩ := run_bind_eq_ok.1 returned
      rw [ih (fun other member => identified other (List.mem_cons_of_mem crd member)) later,
        syncCrd_eq_ok first, ruleOf_fresh (identified crd (List.mem_cons_self crd rest)) _ ""]
      cases converted : ruleOf crd "" <;> simp [List.filterMap_cons, converted, Except.toOption]

theorem writeRulesFile_eq_ok {rules : List Rule} {u : Unit}
    (returned : writeRulesFile kube rules c = .ok u c') :
    ∃ sorted, sortByPriority (rules.map cleanRule) = .ok sorted ∧ c'.output = some sorted := by
  unfold writeRulesFile at returned
  cases sorting : sortByPriority (rules.map cleanRule) with
  | error e => simp [sorting] at returned
  | ok sorted =>
      simp only [sorting] at returned
      refine ⟨sorted, rfl, ?_⟩
      split at returned
      · simp at returned
      · split at returned <;> simp only [reduceCtorEq, EStateM.Result.ok.injEq] at returned
        rw [← returned.2]

theorem syncRules_output {crds : List Value} (seen : kube.items c.listed = .ok crds)
    (identified : ∀ crd ∈ crds, hasSpecUuid crd = true) {u : Unit}
    (returned : syncRules kube c = .ok u c') :
    ∃ sorted, sortByPriority ((crds.filterMap fun crd => (ruleOf crd "").toOption).map
      cleanRule) = .ok sorted ∧ c'.output = some sorted := by
  obtain ⟨listed, _, got, rest⟩ := run_bind_eq_ok.1 returned
  simp only [getAllRules, seen, EStateM.Result.ok.injEq] at got
  obtain ⟨rfl, rfl⟩ := got
  obtain ⟨rules, _, folded, written⟩ := run_bind_eq_ok.1 rest
  rw [syncCrds_eq_ok identified folded, List.nil_append] at written
  exact writeRulesFile_eq_ok written

end Conversion

/-- Two syncs that see the same CRDs, each carrying its own uuid, and that both return leave the
same rules at `output_path`, whatever the uuid values and the outcomes of the status patches. -/
theorem syncRules_output_eq {kube₁ kube₂ : Kube} {c₁ c₂ c₁' c₂' : Controller}
    {crds : List Value} (seen₁ : kube₁.items c₁.listed = .ok crds)
    (seen₂ : kube₂.items c₂.listed = .ok crds) (identified : ∀ crd ∈ crds, hasSpecUuid crd = true)
    (first : syncRules kube₁ c₁ = .ok () c₁') (second : syncRules kube₂ c₂ = .ok () c₂') :
    c₁'.output = c₂'.output := by
  obtain ⟨sorted₁, sorting₁, output₁⟩ := syncRules_output seen₁ identified first
  obtain ⟨sorted₂, sorting₂, output₂⟩ := syncRules_output seen₂ identified second
  rw [output₁, output₂, Except.ok.inj (sorting₁.symm.trans sorting₂)]

/-! ## A sync that raises leaves the rules file alone -/

/-- A step of the controller that leaves the rules file as it was, whether it returns or
raises. -/
def KeepsOutput {α : Type} (x : Reconcile α) : Prop := ∀ c, (after (x c)).output = c.output

section KeepsOutput

variable {α β : Type} {kube : Kube}

theorem KeepsOutput.returns (a : α) : KeepsOutput (pure a : Reconcile α) := fun _ => rfl

theorem ofExcept_keepsOutput (result : Except Error α) :
    KeepsOutput (ofExcept result : Reconcile α) := fun _ => by cases result <;> rfl

theorem KeepsOutput.bind {x : Reconcile α} {f : α → Reconcile β} (first : KeepsOutput x)
    (rest : ∀ a, KeepsOutput (f a)) : KeepsOutput (x >>= f) := by
  intro c
  have kept := first c
  cases ran : x c with
  | ok a c₁ =>
      rw [ran, after_ok] at kept
      rw [run_bind_ok ran]
      exact (rest a c₁).trans kept
  | error e c₁ =>
      rw [ran, after_error] at kept
      rw [run_bind_error ran]
      exact kept

theorem KeepsOutput.handle {x : Reconcile α} {handler : Error → Reconcile α}
    (body : KeepsOutput x) (handled : ∀ e, KeepsOutput (handler e)) :
    KeepsOutput (tryCatch x handler) := by
  intro c
  have kept := body c
  cases ran : x c with
  | ok a c₁ =>
      rw [run_tryCatch_ok ran]
      rwa [ran] at kept
  | error e c₁ =>
      rw [ran, after_error] at kept
      rw [run_tryCatch_error ran]
      exact (handled e c₁).trans kept

theorem KeepsOutput.attempt {x : Reconcile α} (body : KeepsOutput x) : KeepsOutput (attempt x) := by
  intro c
  rw [attempt_run, ← body c]
  cases x c <;> rfl

theorem getAllRules_keepsOutput : KeepsOutput (getAllRules kube) := fun c => by
  unfold getAllRules
  split <;> rfl

theorem convertCrdToRule_keepsOutput (crd : Value) : KeepsOutput (convertCrdToRule kube crd) :=
  (ofExcept_keepsOutput _).bind fun _ => (ofExcept_keepsOutput _).bind fun specUuid =>
    (show KeepsOutput (chooseUuid kube specUuid) from fun c => by
      rw [chooseUuid_run]
      split <;> rfl).bind fun _ => ofExcept_keepsOutput _

theorem updateCrdStatus_keepsOutput {crd name kubeNamespace : Value} {state : String}
    {message : Option String} :
    KeepsOutput (updateCrdStatus kube crd name kubeNamespace state message) := fun c => by
  unfold updateCrdStatus
  split
  · rfl
  · split <;> rfl

theorem reportStatus_keepsOutput {crd : Value} {state message : String} :
    KeepsOutput (reportStatus kube crd state message) :=
  (ofExcept_keepsOutput _).bind fun _ => (ofExcept_keepsOutput _).bind fun _ =>
    (ofExcept_keepsOutput _).bind fun _ => updateCrdStatus_keepsOutput

theorem syncCrds_keepsOutput (crds : List Value) (rules : List Rule) :
    KeepsOutput (crds.foldlM (syncCrd kube) rules) := by
  induction crds generalizing rules with
  | nil => exact KeepsOutput.returns rules
  | cons crd rest ih =>
      rw [List.foldlM_cons]
      refine KeepsOutput.bind ?_ ih
      refine (convertCrdToRule_keepsOutput crd).attempt.bind fun outcome => ?_
      cases outcome with
      | error e => exact reportStatus_keepsOutput.bind fun _ => KeepsOutput.returns _
      | ok rule =>
          exact (reportStatus_keepsOutput.bind fun _ => KeepsOutput.returns _).handle fun _ =>
            reportStatus_keepsOutput.bind fun _ => KeepsOutput.returns _

theorem writeRulesFile_eq_error {rules : List Rule} {c c' : Controller} {e : Error}
    (raised : writeRulesFile kube rules c = .error e c') : c'.output = c.output := by
  unfold writeRulesFile at raised
  cases sorting : sortByPriority (rules.map cleanRule) with
  | error e' =>
      simp only [sorting] at raised
      cases raised
      rfl
  | ok sorted =>
      simp only [sorting] at raised
      split at raised
      · cases raised
        rfl
      · split at raised <;> cases raised <;> rfl

theorem syncRules_eq_error {c c' : Controller} {e : Error}
    (raised : syncRules kube c = .error e c') : c'.output = c.output := by
  have listedKeeps := @getAllRules_keepsOutput kube c
  rcases run_bind_eq_error.1 raised with unlisted | ⟨crds, c₁, listed, rest⟩
  · rwa [unlisted] at listedKeeps
  rw [listed, after_ok] at listedKeeps
  have foldKeeps := @syncCrds_keepsOutput kube crds [] c₁
  rcases run_bind_eq_error.1 rest with unfolded | ⟨rules, c₂, folded, written⟩
  · rw [unfolded, after_error] at foldKeeps
    exact foldKeeps.trans listedKeeps
  · rw [folded, after_ok] at foldKeeps
    exact (writeRulesFile_eq_error written).trans (foldKeeps.trans listedKeeps)

end KeepsOutput

/-! ## Sample clusters -/

/-- The `uuid` of a rule, when it is a string. -/
def uuidText (rule : Rule) : Option String :=
  match rule.lookup "uuid" with
  | some (.str text) => some text
  | _ => none

def idle : Controller := ⟨0, [], 0, 0, [], none⟩

def inspectionRule (name : String) (spec : List (String × Value)) : Value :=
  .dict [("metadata", .dict [("name", .str name), ("namespace", .str "ironic")]),
    ("spec", .dict spec)]

def clusterOf (crds : List Value) : Kube where
  items _ := .ok crds
  patchStatus _ := .ok ()
  uuid4 n := toString n
  namedTemporaryFile _ := .ok ".inspection_rules_0.yaml.tmp"
  safeDump _ := .ok ()
  rename _ := .ok ()

def lldpRule : Value := inspectionRule "lldp" [("uuid", .str "lldp"), ("priority", .int 10)]

theorem syncRules_output_eq_identified :
    ∃ c₁ c₂, syncRules (clusterOf [lldpRule]) idle = .ok () c₁ ∧
      syncRules { clusterOf [lldpRule] with uuid4 := fun _ => "other" } idle = .ok () c₂ ∧
      c₁.output = c₂.output :=
  ⟨_, _, rfl, rfl, @syncRules_output_eq (clusterOf [lldpRule])
    { clusterOf [lldpRule] with uuid4 := fun _ => "other" } idle idle _ _ _ rfl rfl (by decide)
    rfl rfl⟩

/-- A rule without a `uuid` in its spec gets a fresh one at every sync, so two syncs of the same
resource write different rules. -/
theorem syncRules_fresh_uuid :
    ∃ c₁ c₂, syncRules (clusterOf [inspectionRule "lldp" [("priority", .int 10)]]) idle =
        .ok () c₁ ∧
      syncRules (clusterOf [inspectionRule "lldp" [("priority", .int 10)]]) c₁ = .ok () c₂ ∧
      c₁.output ≠ c₂.output :=
  ⟨⟨1, [⟨inspectionRule "lldp" [("priority", .int 10)], .str "lldp", .str "ironic", "Active",
      some "Rule synchronized successfully", true⟩], 1, 1, [],
      some [[("uuid", .str "0"), ("priority", .int 10), ("phase", .str "main"), ("actions", .list [])]]⟩,
    _, rfl, rfl, fun same => absurd (congrArg (Option.map (List.map uuidText)) same) (by decide)⟩

/-- Two rules whose priorities cannot be compared: both are reported `Active`, then the sort raises
`TypeError`, and the file is never written. -/
theorem syncRules_active_unwritten :
    ∃ c, syncRules (clusterOf [inspectionRule "lldp" [("uuid", .str "lldp"), ("priority", .int 10)],
        inspectionRule "bmc" [("uuid", .str "bmc"), ("priority", .str "high")]]) idle =
        .error (.other "TypeError") c ∧
      c.patches.map (fun patch => (patch.state, patch.applied)) =
        [("Active", true), ("Active", true)] ∧ c.output = none :=
  ⟨_, rfl, rfl, rfl⟩

end Ironic
