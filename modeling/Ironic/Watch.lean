import Ironic.InspectionRules

/-!
The loop of `watch_rules`: a first `sync_rules`, then, while the controller runs, one pass per
`w.stream(...)`: a full sync for every event the stream yields, then a periodic sync when none
has succeeded yet or the last one is older than `sync_interval`. What each stream yields and
what `time.time()` reads are the fields of `Watcher`, so that each theorem holds for every
behaviour of the API server and of the clock.
-/

namespace Ironic

/-- `value[key]`: a dict without `key` raises `KeyError`, anything but a dict `TypeError`. -/
def Value.index (value : Value) (key : String) : Except Error Value :=
  match value with
  | .dict entries =>
      match entries.lookup key with
      | some item => pure item
      | none => throw (.other "KeyError")
  | _ => throw (.other "TypeError")

/-- What one `w.stream(...)` yields: its events, then the exception that ends it, if any; a
stream that reaches `timeout_seconds` ends without one. -/
structure StreamRound where
  events : List Value
  ending : Option Error

/-- The collaborators of the loop besides those of `sync_rules`: the n-th stream, the n-th
reading of `time.time()`, in seconds, and `sync_interval`. -/
structure Watcher where
  stream : Nat → StreamRound
  time : Nat → Nat
  syncInterval : Nat

/-- The controller as `watch_rules` drives it: what `sync_rules` acts on, `last_sync_time`,
and the streams opened and clock readings taken so far. -/
structure WatchState where
  controller : Controller
  lastSyncTime : Option Nat
  streams : Nat
  readings : Nat

abbrev Watch := EStateM Error WatchState

section Loop

variable (kube : Kube) (watcher : Watcher)

/-- A step of `sync_rules`, run on the controller inside the loop. -/
def reconcile {α : Type} (x : Reconcile α) : Watch α := fun s =>
  match x s.controller with
  | .ok a c => .ok a { s with controller := c }
  | .error e c => .error e { s with controller := c }

/-- `time.time()`. -/
def readTime : Watch Nat := fun s =>
  .ok (watcher.time s.readings) { s with readings := s.readings + 1 }

/-- `sync_rules()` as the loop sees it: `syncRules`, then, once the rules file is written,
`self.last_sync_time = time.time()`. -/
def watchSync : Watch Unit := do
  reconcile (syncRules kube)
  let now ← readTime watcher
  modify fun s => { s with lastSyncTime := some now }

/-- The body of `for event in stream`: the fields of the event the log line reads, then a
full sync. -/
def handleEvent (event : Value) : Watch Unit := do
  let _ ← ofExcept (event.index "type")
  let obj ← ofExcept (event.index "object")
  let metadata ← ofExcept (obj.get "metadata" (.dict []))
  let _ ← ofExcept (metadata.get "namespace" .null)
  let _ ← ofExcept (metadata.get "name" .null)
  watchSync kube watcher

/-- `w.stream(...)`: the next stream. -/
def openStream : Watch StreamRound := fun s =>
  .ok (watcher.stream s.streams) { s with streams := s.streams + 1 }

/-- `stream = w.stream(...)` and `for event in stream`: the stream's events in order, then
the exception that ends it. -/
def streamEvents : Watch Unit := do
  let round ← openStream watcher
  round.events.forM (handleEvent kube watcher)
  match round.ending with
  | some e => throw e
  | none => pure ()

/-- `self.last_sync_time is None or time.time() - self.last_sync_time > self.sync_interval`:
`time.time()` is read only once a sync has succeeded. -/
def syncDue : Watch Bool := do
  match (← get).lastSyncTime with
  | none => pure true
  | some last =>
      let now ← readTime watcher
      pure (decide ((now : Int) - last > watcher.syncInterval))

/-- The check after each stream: a sync when one is due, whose exception is logged and
dropped. -/
def periodicSync : Watch Unit := do
  if ← syncDue watcher then tryCatch (watchSync kube watcher) fun _ => pure ()

/-- One pass of `while self.running:`. An `ApiException` with status 410 goes straight to the
next pass (`continue`), past the periodic check; any other exception is logged, and slept on,
before it. -/
def watchRound : Watch Unit := do
  match ← attempt (streamEvents kube watcher) with
  | .error (.apiException 410) => pure ()
  | _ => periodicSync kube watcher

/-- The loop of `watch_rules` for `rounds` passes: `stop()` sets `self.running = False`,
which the loop reads before each pass. -/
def watchLoop : Nat → Watch Unit
  | 0 => pure ()
  | rounds + 1 => do
      watchRound kube watcher
      watchLoop rounds

/-- `watch_rules()`, stopped after `rounds` passes of its loop. -/
def watchRules (rounds : Nat) : Watch Unit := do
  watchSync kube watcher
  watchLoop kube watcher rounds

end Loop

/-! ## Every pass returns -/

section Passes

variable {kube : Kube} {watcher : Watcher} {s s' : WatchState}

theorem catchAll_returns {σ : Type} (x : EStateM Error σ Unit) (state : σ) :
    ∃ state', (tryCatch x fun _ => pure ()) state = .ok () state' := by
  cases ran : x state with
  | ok u t => exact ⟨t, run_tryCatch_ok ran⟩
  | error e t => exact ⟨t, run_tryCatch_error ran⟩

theorem syncDue_returns (s : WatchState) : ∃ due s', syncDue watcher s = .ok due s' := by
  obtain ⟨controller, _ | last, streams, readings⟩ := s <;> exact ⟨_, _, rfl⟩

theorem periodicSync_returns (s : WatchState) : ∃ s', periodicSync kube watcher s = .ok () s' := by
  obtain ⟨due, s₁, decided⟩ := @syncDue_returns watcher s
  rw [periodicSync, run_bind_ok decided]
  cases due
  · exact ⟨s₁, rfl⟩
  · exact catchAll_returns _ s₁

theorem watchRound_returns (s : WatchState) : ∃ s', watchRound kube watcher s = .ok () s' := by
  obtain ⟨outcome, s₁, streamed⟩ : ∃ outcome s₁,
      attempt (streamEvents kube watcher) s = .ok outcome s₁ := by
    rw [attempt_run]
    cases streamEvents kube watcher s <;> exact ⟨_, _, rfl⟩
  rw [watchRound, run_bind_ok streamed]
  split
  · exact ⟨s₁, rfl⟩
  · exact periodicSync_returns s₁

theorem watchLoop_returns (rounds : Nat) (s : WatchState) :
    ∃ s', watchLoop kube watcher rounds s = .ok () s' := by
  induction rounds generalizing s with
  | zero => exact ⟨s, rfl⟩
  | succ rounds ih =>
      obtain ⟨s₁, passed⟩ := @watchRound_returns kube watcher s
      rw [watchLoop, run_bind_ok passed]
      exact ih s₁

theorem reconcile_ok {α : Type} {x : Reconcile α} {a : α} {c : Controller}
    (ran : x s.controller = .ok a c) : reconcile x s = .ok a { s with controller := c } := by
  simp only [reconcile, ran]

theorem reconcile_error {α : Type} {x : Reconcile α} {e : Error} {c : Controller}
    (ran : x s.controller = .error e c) : reconcile x s = .error e { s with controller := c } := by
  simp only [reconcile, ran]

theorem watchSync_eq_error {e : Error} :
    watchSync kube watcher s = .error e s' ↔
      ∃ c', syncRules kube s.controller = .error e c' ∧ s' = { s with controller := c' } := by
  cases synced : syncRules kube s.controller with
  | ok u c =>
      rw [watchSync, run_bind_ok (reconcile_ok synced)]
      constructor
      · intro raised
        cases raised
      · rintro ⟨c', failed, -⟩
        cases failed
  | error e' c =>
      rw [watchSync, run_bind_error (reconcile_error synced)]
      constructor
      · intro raised
        cases raised
        exact ⟨c, rfl, rfl⟩
      · rintro ⟨c', failed, rfl⟩
        cases failed
        rfl

/-- `watch_rules` raises only from its first `sync_rules`. -/
theorem watchRules_eq_error {rounds : Nat} {e : Error} :
    watchRules kube watcher rounds s = .error e s' ↔
      ∃ c', syncRules kube s.controller = .error e c' ∧ s' = { s with controller := c' } := by
  rw [← watchSync_eq_error]
  constructor
  · intro raised
    rcases run_bind_eq_error.1 raised with first | ⟨_, s₁, -, looped⟩
    · exact first
    · obtain ⟨s₂, returned⟩ := @watchLoop_returns kube watcher rounds s₁
      rw [returned] at looped
      cases looped
  · exact run_bind_error

end Passes

/-! ## The loop is a sequence of syncs -/

/-- `c'` is what a sequence of runs of `sync_rules`, each returning or raising, makes of
`c`. -/
inductive SyncsTo (kube : Kube) : Controller → Controller → Prop
  | done (c : Controller) : SyncsTo kube c c
  | sync {c c' : Controller} : SyncsTo kube (after (syncRules kube c)) c' → SyncsTo kube c c'

/-- Every run of `x`, returning or raising, changes the controller only by runs of
`sync_rules`. -/
def OnlySyncs {α : Type} (kube : Kube) (x : Watch α) : Prop :=
  ∀ s, SyncsTo kube s.controller (after (x s)).controller

section OnlySyncs

variable {α β : Type} {kube : Kube} {watcher : Watcher}

theorem SyncsTo.trans {c c₁ c₂ : Controller} (first : SyncsTo kube c c₁)
    (second : SyncsTo kube c₁ c₂) : SyncsTo kube c c₂ := by
  induction first with
  | done => exact second
  | sync _ ih => exact .sync (ih second)

theorem SyncsTo.output {c c' : Controller} (synced : SyncsTo kube c c') :
    c'.output = c.output ∨ ∃ c₀ c₁, SyncsTo kube c c₀ ∧ syncRules kube c₀ = .ok () c₁ ∧
      c'.output = c₁.output := by
  induction synced with
  | done => exact .inl rfl
  | @sync c c' _ ih =>
      rcases ih with same | ⟨c₀, c₁, reached, returned, written⟩
      · cases ran : syncRules kube c with
        | ok u c₁ => exact .inr ⟨c, c₁, .done c, ran, by rw [same, ran]; rfl⟩
        | error e c₁ =>
            rw [ran, after_error] at same
            exact .inl (same.trans (syncRules_eq_error ran))
      · exact .inr ⟨c₀, c₁, .sync reached, returned, written⟩

theorem OnlySyncs.keeps {x : Watch α} (same : ∀ s, (after (x s)).controller = s.controller) :
    OnlySyncs kube x := fun s => by
  rw [same s]
  exact .done _

theorem OnlySyncs.bind {x : Watch α} {f : α → Watch β} (first : OnlySyncs kube x)
    (rest : ∀ a, OnlySyncs kube (f a)) : OnlySyncs kube (x >>= f) := by
  intro s
  have synced := first s
  cases ran : x s with
  | ok a s₁ =>
      rw [ran, after_ok] at synced
      rw [run_bind_ok ran]
      exact synced.trans (rest a s₁)
  | error e s₁ =>
      rw [ran, after_error] at synced
      rw [run_bind_error ran]
      exact synced

theorem OnlySyncs.handle {x : Watch α} {handler : Error → Watch α} (body : OnlySyncs kube x)
    (handled : ∀ e, OnlySyncs kube (handler e)) : OnlySyncs kube (tryCatch x handler) := by
  intro s
  have synced := body s
  cases ran : x s with
  | ok a s₁ =>
      rw [run_tryCatch_ok ran]
      rwa [ran] at synced
  | error e s₁ =>
      rw [ran, after_error] at synced
      rw [run_tryCatch_error ran]
      exact synced.trans (handled e s₁)

theorem OnlySyncs.attempt {x : Watch α} (body : OnlySyncs kube x) :
    OnlySyncs kube (attempt x) := by
  intro s
  have synced := body s
  rw [attempt_run]
  cases ran : x s <;> rw [ran] at synced <;> exact synced

theorem OnlySyncs.ite {c : Prop} [Decidable c] {t f : Watch α} (yes : OnlySyncs kube t)
    (no : OnlySyncs kube f) : OnlySyncs kube (if c then t else f) := by
  by_cases holds : c <;> simpa [holds]

theorem OnlySyncs.forM {items : List α} {f : α → Watch Unit} (each : ∀ a, OnlySyncs kube (f a)) :
    OnlySyncs kube (items.forM f) := by
  induction items with
  | nil => exact OnlySyncs.keeps fun _ => rfl
  | cons item rest ih => exact (each item).bind fun _ => ih

theorem ofExcept_onlySyncs (result : Except Error α) :
    OnlySyncs kube (ofExcept result : Watch α) :=
  OnlySyncs.keeps fun _ => by cases result <;> rfl

theorem reconcile_after {x : Reconcile α} (s : WatchState) :
    (after (reconcile x s)).controller = after (x s.controller) := by
  unfold reconcile
  cases x s.controller <;> rfl

theorem readTime_onlySyncs : OnlySyncs kube (readTime watcher) := OnlySyncs.keeps fun _ => rfl

theorem openStream_onlySyncs : OnlySyncs kube (openStream watcher) := OnlySyncs.keeps fun _ => rfl

theorem watchSync_onlySyncs : OnlySyncs kube (watchSync kube watcher) :=
  OnlySyncs.bind (fun s => by rw [reconcile_after]; exact .sync (.done _)) fun _ =>
    readTime_onlySyncs.bind fun _ => OnlySyncs.keeps fun _ => rfl

theorem streamEvents_onlySyncs : OnlySyncs kube (streamEvents kube watcher) :=
  openStream_onlySyncs.bind fun round =>
    (OnlySyncs.forM fun _ => (ofExcept_onlySyncs _).bind fun _ =>
      (ofExcept_onlySyncs _).bind fun _ => (ofExcept_onlySyncs _).bind fun _ =>
        (ofExcept_onlySyncs _).bind fun _ => (ofExcept_onlySyncs _).bind fun _ =>
          watchSync_onlySyncs).bind fun _ => by
    cases round.ending <;> exact OnlySyncs.keeps fun _ => rfl

theorem periodicSync_onlySyncs : OnlySyncs kube (periodicSync kube watcher) :=
  (OnlySyncs.keeps fun s => by obtain ⟨c, _ | last, streams, readings⟩ := s <;> rfl).bind
    fun _ => OnlySyncs.ite (watchSync_onlySyncs.handle fun _ => OnlySyncs.keeps fun _ => rfl)
      (OnlySyncs.keeps fun _ => rfl)

theorem watchRound_onlySyncs : OnlySyncs kube (watchRound kube watcher) :=
  streamEvents_onlySyncs.attempt.bind fun _ => by
    split
    · exact OnlySyncs.keeps fun _ => rfl
    · exact periodicSync_onlySyncs

theorem watchRules_onlySyncs (rounds : Nat) : OnlySyncs kube (watchRules kube watcher rounds) := by
  refine watchSync_onlySyncs.bind fun _ => ?_
  induction rounds with
  | zero => exact OnlySyncs.keeps fun _ => rfl
  | succ rounds ih => exact watchRound_onlySyncs.bind fun _ => ih

/-- Whatever the streams yield, however each sync ends and however many passes the loop makes,
`watch_rules` changes the controller only by runs of `sync_rules`. -/
theorem watchRules_output (rounds : Nat) (s : WatchState) :
    (after (watchRules kube watcher rounds s)).controller.output = s.controller.output ∨
      ∃ c₀ c₁, SyncsTo kube s.controller c₀ ∧ syncRules kube c₀ = .ok () c₁ ∧
        (after (watchRules kube watcher rounds s)).controller.output = c₁.output :=
  (watchRules_onlySyncs rounds s).output

end OnlySyncs

/-! ## Expired streams -/

def expiringWatcher : Watcher := ⟨fun _ => ⟨[], some (.apiException 410)⟩, fun n => 3600 * n, 30⟩

section Expired

variable {kube : Kube} {watcher : Watcher} {s : WatchState}

theorem streamEvents_quiet (quiet : (watcher.stream s.streams).events = []) :
    streamEvents kube watcher s = match (watcher.stream s.streams).ending with
      | some e => .error e { s with streams := s.streams + 1 }
      | none => .ok () { s with streams := s.streams + 1 } := by
  have opened : openStream watcher s =
      .ok (watcher.stream s.streams) { s with streams := s.streams + 1 } := rfl
  rw [streamEvents, run_bind_ok opened, quiet]
  cases (watcher.stream s.streams).ending <;> rfl

theorem watchRound_expired
    (expired : watcher.stream s.streams = ⟨[], some (.apiException 410)⟩) :
    watchRound kube watcher s = .ok () { s with streams := s.streams + 1 } := by
  have streamed : streamEvents kube watcher s =
      .error (.apiException 410) { s with streams := s.streams + 1 } := by
    rw [streamEvents_quiet (by rw [expired]), expired]
  rw [watchRound, run_bind_ok (by rw [attempt_run, streamed])]
  rfl

theorem watchLoop_expired
    (expired : ∀ k, s.streams ≤ k → watcher.stream k = ⟨[], some (.apiException 410)⟩)
    (rounds : Nat) :
    watchLoop kube watcher rounds s = .ok () { s with streams := s.streams + rounds } := by
  induction rounds generalizing s with
  | zero => rfl
  | succ rounds ih =>
      rw [watchLoop, run_bind_ok (watchRound_expired (expired s.streams le_rfl)),
        ih fun k later => expired k (by simp only at later; omega)]
      simp only [Nat.add_assoc, Nat.add_comm 1 rounds]

/-- When every stream after a first sync that returns expires at once with 410, `watch_rules` never
syncs again. -/
theorem watchRules_expired_never_resyncs {s₁ : WatchState}
    (first : watchSync kube watcher s = .ok () s₁)
    (expired : ∀ k, s₁.streams ≤ k → watcher.stream k = ⟨[], some (.apiException 410)⟩)
    (rounds : Nat) :
    watchRules kube watcher rounds s = .ok () { s₁ with streams := s₁.streams + rounds } :=
  (run_bind_ok first).trans (watchLoop_expired expired rounds)

theorem watchRules_expired_never_resyncs_hourly :
    ∃ s₁, watchSync (clusterOf [lldpRule]) expiringWatcher ⟨idle, none, 0, 0⟩ = .ok () s₁ ∧
      (∀ k, s₁.streams ≤ k → expiringWatcher.stream k = ⟨[], some (.apiException 410)⟩) ∧
      watchRules (clusterOf [lldpRule]) expiringWatcher 24 ⟨idle, none, 0, 0⟩ =
        .ok () { s₁ with streams := s₁.streams + 24 } := by
  have first : watchSync (clusterOf [lldpRule]) expiringWatcher ⟨idle, none, 0, 0⟩ = .ok () _ := rfl
  exact ⟨_, first, fun _ _ => rfl, watchRules_expired_never_resyncs first (fun _ _ => rfl) 24⟩

end Expired

end Ironic
