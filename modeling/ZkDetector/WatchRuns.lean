import ZkDetector.Watch

/-! # Runs of a watch chain

Whatever the fired events, the connected checks and the `ChildrenW` answers, a chain is
always some finished goroutines and one current goroutine, and its effects are
accounted for by the current goroutine's place in the body (`Accounts`): every
`ChildrenW` call is on the watch path, every event taken is followed by one
`watchChildren(path)` call, every children-changed event by one call of the children
watcher, and a chain with no goroutine left ends with a failed re-arm and its report.
These are not kept by a chain that stops: from every reachable state, whatever its
connected checks read and `ChildrenW` answers, the current goroutine runs its remaining
statements to rest (`Pc.remaining` falls at each), and then every event taken has been
followed by its re-arm and its call of the children watcher.
-/

namespace ZkDetector.Watch

open Zk

/-- How many events the chain took from its watch channels. -/
def receivedCount (effects : List Effect) : Nat :=
  effects.countP fun | .received _ => true | _ => false

/-- How many of those were children-changed events. -/
def changedCount (effects : List Effect) : Nat :=
  effects.countP fun | .received e => decide (e.type = .nodeChildrenChanged) | _ => false

/-- How many times the chain called `watchChildren`. -/
def rearmCount (effects : List Effect) : Nat :=
  effects.countP fun | .watchChildren _ => true | _ => false

/-- How many times the chain called the children watcher. -/
def notifyCount (effects : List Effect) : Nat :=
  effects.countP Effect.isChildrenChanged

/-! The counts read through predicates that match every constructor, so that `simp`
evaluates them on each effect without unfolding a wildcard pattern. -/

/-- An event taken from a watch channel. -/
@[simp] def Effect.isReceived : Effect → Bool
  | .received _ => true
  | .errorOccured _ | .childrenChanged _ | .childrenW _ _ | .watchChildren _ => false

/-- A children-changed event taken from a watch channel. -/
@[simp] def Effect.isChangedEvent : Effect → Bool
  | .received e => decide (e.type = .nodeChildrenChanged)
  | .errorOccured _ | .childrenChanged _ | .childrenW _ _ | .watchChildren _ => false

/-- A call of `watchChildren`. -/
@[simp] def Effect.isWatchChildren : Effect → Bool
  | .watchChildren _ => true
  | .errorOccured _ | .childrenChanged _ | .childrenW _ _ | .received _ => false

@[simp] theorem receivedCount_eq (effects : List Effect) :
    receivedCount effects = effects.countP Effect.isReceived :=
  congrArg (List.countP · effects) (funext fun x => by cases x <;> rfl)

@[simp] theorem changedCount_eq (effects : List Effect) :
    changedCount effects = effects.countP Effect.isChangedEvent :=
  congrArg (List.countP · effects) (funext fun x => by cases x <;> rfl)

@[simp] theorem rearmCount_eq (effects : List Effect) :
    rearmCount effects = effects.countP Effect.isWatchChildren :=
  congrArg (List.countP · effects) (funext fun x => by cases x <;> rfl)

/-- One if the goroutine took an event and has not called `watchChildren` yet. -/
def Pc.pendingRearm : Pc → Nat
  | .received _ | .reported _ | .rearming => 1
  | _ => 0

/-- One if the goroutine took a children-changed event and has not reached the switch. -/
def Pc.pendingNotify : Pc → Nat
  | .received e | .reported e => if e.type = .nodeChildrenChanged then 1 else 0
  | _ => 0

/-- The event the goroutine took and has not finished handling. -/
def Pc.taken : Pc → Option Event
  | .received e | .reported e => some e
  | _ => none

/-- Every call of the children watcher in `effects` names the path of a children-changed
event taken from a watch channel. -/
def NamesTakenEvents (effects : List Effect) : Prop :=
  ∀ p, .childrenChanged p ∈ effects →
    ∃ e, .received e ∈ effects ∧ e.type = .nodeChildrenChanged ∧ e.path = p

/-- `calls` and `err` are what a failing `watchChildren(path)` returned, for some
outcome of its connected check and of `ChildrenW`. -/
def FailedAttempt (zkc : ZkClient) (path : GoString) (calls : List Effect) (err : GoError) :
    Prop :=
  ∃ connected childrenW,
    { zkc with connected }.watchChildren (fun _ => childrenW) path = .ok (calls, .error err)

/-- The chain's effects, read against the place `pc` of its current goroutine. -/
structure Accounts (zkc : ZkClient) (path : GoString) (effects : List Effect) (pc : Pc) :
    Prop where
  paths : ∀ q answer, .childrenW q answer ∈ effects → q = watchPath zkc.rootPath path
  rearms : ∀ q, .watchChildren q ∈ effects → q = path
  received : receivedCount effects = rearmCount effects + pc.pendingRearm
  notified : zkc.childrenWatcher = true →
    notifyCount effects + pc.pendingNotify = changedCount effects
  silent : zkc.childrenWatcher = false → notifyCount effects = 0
  failed : ∀ err, pc = .failed err → ∃ pre calls,
    effects = pre ++ .watchChildren path :: calls ∧ FailedAttempt zkc path calls err
  stopped : pc = .done → ∃ pre calls err,
    effects = pre ++ .watchChildren path :: calls ++ zkc.reportError (some err) ∧
      FailedAttempt zkc path calls err
  named : NamesTakenEvents effects
  taken : ∀ e, pc.taken = some e → .received e ∈ effects

theorem NamesTakenEvents.append {effects extra : List Effect} (named : NamesTakenEvents effects)
    (fresh : ∀ p, .childrenChanged p ∈ extra →
      ∃ e, .received e ∈ effects ∧ e.type = .nodeChildrenChanged ∧ e.path = p) :
    NamesTakenEvents (effects ++ extra) := fun p member => by
  obtain ⟨e, taken, changed, same⟩ := (List.mem_append.mp member).elim (named p) (fresh p)
  exact ⟨e, List.mem_append_left _ taken, changed, same⟩

theorem mem_reportError {zkc : ZkClient} {err : Option GoError} {x : Effect}
    (member : x ∈ zkc.reportError err) : ∃ reported, x = .errorOccured reported := by
  unfold ZkClient.reportError at member
  split at member
  · split_ifs at member <;> simp_all
  · simp at member

/-- The calls of a `watchChildren` that returns: one `ChildrenW` on the watch path if the
check passed, none otherwise. -/
theorem watchChildren_calls {zkc : ZkClient} {childrenW : GoString → Option GoError}
    {path : GoString} {calls : List Effect} {result : Except GoError GoString}
    (returned : zkc.watchChildren childrenW path = .ok (calls, result)) :
    calls = if zkc.connected then
      [.childrenW (watchPath zkc.rootPath path) (childrenW (watchPath zkc.rootPath path))]
    else [] := by
  rcases ZkClient.watchChildren_ok_iff.mp returned with ⟨off, rfl, -⟩ | ⟨passed, -, rfl, -⟩
  · simp [off]
  · simp [passed]

theorem countP_reportError {zkc : ZkClient} {err : Option GoError} {p : Effect → Bool}
    (ignored : ∀ reported, p (.errorOccured reported) = false) :
    (zkc.reportError err).countP p = 0 :=
  List.countP_eq_zero.mpr fun _ member => by
    obtain ⟨_, rfl⟩ := mem_reportError member
    simp [ignored]

/-- The calls a re-arm attempt makes: `ChildrenW` on the watch path, if the check passed. -/
theorem rearm_calls {zkc : ZkClient} {path : GoString} {connected : Bool}
    {answer : Option GoError} {calls : List Effect} {result : Except GoError GoString}
    (attempt : { zkc with connected }.watchChildren (fun _ => answer) path = .ok (calls, result)) :
    calls = if connected then [.childrenW (watchPath zkc.rootPath path) answer] else [] :=
  watchChildren_calls attempt

namespace Accounts

variable {zkc : ZkClient} {path : GoString} {effects : List Effect}

theorem start {childrenW : GoString → Option GoError} {calls : List Effect}
    {watching : GoString} (started : zkc.watchChildren childrenW path = .ok (calls, .ok watching))
    (armed : Nat) (fired : Option Event) : Accounts zkc path calls (.waiting armed fired) := by
  rw [watchChildren_calls started]
  split <;> constructor <;>
    simp_all [notifyCount, NamesTakenEvents, Pc.pendingRearm, Pc.pendingNotify, Pc.taken]

/-- Every waiting place accounts for the same effects. -/
theorem waiting {armed armed' : Nat} {fired fired' : Option Event}
    (acc : Accounts zkc path effects (.waiting armed fired)) :
    Accounts zkc path effects (.waiting armed' fired') where
  paths := acc.paths
  rearms := acc.rearms
  received := acc.received
  notified := acc.notified
  silent := acc.silent
  failed _ wrong := by cases wrong
  stopped wrong := by cases wrong
  named := acc.named
  taken _ wrong := by cases wrong

theorem receive {armed : Nat} {e : Event}
    (acc : Accounts zkc path effects (.waiting armed (some e))) :
    Accounts zkc path (effects ++ [.received e]) (.received e) where
  paths q answer member := acc.paths q answer (by simpa using member)
  rearms q member := acc.rearms q (by simpa using member)
  received := by simpa [Pc.pendingRearm] using acc.received
  notified watcher := by
    have := acc.notified watcher
    by_cases changed : e.type = .nodeChildrenChanged <;>
      simp_all [notifyCount, Pc.pendingNotify]
  silent unwatched := by simpa [notifyCount] using acc.silent unwatched
  failed _ wrong := by cases wrong
  stopped wrong := by cases wrong
  named := acc.named.append (by simp)
  taken _ same := by
    cases same
    simp

/-- A report to the error watcher calls nothing the accounts count, so the accounts hold
for any next place that owes what `pc` owes. -/
theorem withReport {pc next : Pc} {err : Option GoError} (acc : Accounts zkc path effects pc)
    (rearm : next.pendingRearm = pc.pendingRearm) (notify : next.pendingNotify = pc.pendingNotify)
    (handling : next.taken = pc.taken) (running : ∀ err, next ≠ .failed err)
    (stopped : next = .done → ∃ pre calls failure,
      effects ++ zkc.reportError err = pre ++ .watchChildren path :: calls ++
        zkc.reportError (some failure) ∧ FailedAttempt zkc path calls failure) :
    Accounts zkc path (effects ++ zkc.reportError err) next where
  paths q answer member := (List.mem_append.mp member).elim (acc.paths q answer) fun new => by
    obtain ⟨_, wrong⟩ := mem_reportError new
    cases wrong
  rearms q member := (List.mem_append.mp member).elim (acc.rearms q) fun new => by
    obtain ⟨_, wrong⟩ := mem_reportError new
    cases wrong
  received := by simpa [countP_reportError, rearm] using acc.received
  notified watcher := by
    simpa [notifyCount, countP_reportError, notify]
      using acc.notified watcher
  silent unwatched := by
    simpa [notifyCount, countP_reportError] using acc.silent unwatched
  failed err same := absurd same (running err)
  stopped := stopped
  named := acc.named.append fun _ member => by
    obtain ⟨_, wrong⟩ := mem_reportError member
    cases wrong
  taken e same := List.mem_append_left _ (acc.taken e (handling ▸ same))

theorem report {e : Event} (acc : Accounts zkc path effects (.received e)) :
    Accounts zkc path (effects ++ zkc.reportError e.err) (.reported e) :=
  acc.withReport rfl rfl rfl (fun _ => nofun) nofun

theorem dispatch {e : Event} (acc : Accounts zkc path effects (.reported e)) :
    Accounts zkc path (effects ++
      if e.type = .nodeChildrenChanged ∧ zkc.childrenWatcher then [.childrenChanged e.path]
      else []) .rearming where
  paths q answer member := acc.paths q answer (by split_ifs at member <;> simpa using member)
  rearms q member := acc.rearms q (by split_ifs at member <;> simpa using member)
  received := by
    have := acc.received
    split_ifs <;> simp_all [Pc.pendingRearm]
  notified watcher := by
    have := acc.notified watcher
    by_cases changed : e.type = .nodeChildrenChanged <;>
      simp_all [notifyCount, Pc.pendingNotify]
  silent unwatched := by simpa [unwatched] using acc.silent unwatched
  failed _ wrong := by cases wrong
  stopped wrong := by cases wrong
  named := acc.named.append fun p member => by
    split_ifs at member with changed
    · obtain rfl : p = e.path := by simpa using member
      exact ⟨e, acc.taken e rfl, changed.1, rfl⟩
    · simp at member
  taken _ wrong := by cases wrong

/-- A re-arm attempt, whatever its outcome, with the current goroutine then at `pc`:
waiting on the new watch, or failed with the attempt's error. -/
theorem rearm {connected : Bool} {answer : Option GoError} {calls : List Effect}
    {result : Except GoError GoString} {pc : Pc} (acc : Accounts zkc path effects .rearming)
    (attempt : { zkc with connected }.watchChildren (fun _ => answer) path = .ok (calls, result))
    (settled : pc.pendingRearm = 0) (quiet : pc.pendingNotify = 0) (untaken : pc.taken = none)
    (failure : ∀ err, pc = .failed err → result = .error err) (running : pc ≠ .done) :
    Accounts zkc path (effects ++ .watchChildren path :: calls) pc where
  paths q answer' member := by
    rw [rearm_calls attempt] at member
    split_ifs at member <;> simp at member
    · rcases member with old | ⟨rfl, -⟩
      · exact acc.paths q answer' old
      · rfl
    · exact acc.paths q answer' member
  rearms q member := by
    rw [rearm_calls attempt] at member
    split_ifs at member <;> simp at member <;> rcases member with old | rfl
    all_goals first | exact acc.rearms q old | rfl
  received := by
    have owed : receivedCount effects = rearmCount effects + 1 := acc.received
    rw [rearm_calls attempt, settled]
    split_ifs <;> simpa using owed
  notified watcher := by
    have owed : notifyCount effects + 0 = changedCount effects := acc.notified watcher
    rw [rearm_calls attempt, quiet]
    split_ifs <;> simpa [notifyCount] using owed
  silent unwatched := by
    have none : notifyCount effects = 0 := acc.silent unwatched
    rw [rearm_calls attempt]
    split_ifs <;> simpa [notifyCount] using none
  failed err same := ⟨effects, calls, rfl, connected, answer, failure err same ▸ attempt⟩
  stopped same := absurd same running
  named := acc.named.append fun _ member => by
    rw [rearm_calls attempt] at member
    split_ifs at member <;> simp at member
  taken e same := by
    rw [untaken] at same
    cases same

theorem finish {err : GoError} (acc : Accounts zkc path effects (.failed err)) :
    Accounts zkc path (effects ++ zkc.reportError (some err)) .done :=
  acc.withReport rfl rfl rfl (fun _ => nofun) fun _ => by
    obtain ⟨pre, calls, rfl, attempt⟩ := acc.failed err rfl
    exact ⟨pre, calls, err, by simp, attempt⟩

/-- One statement of the current goroutine's body keeps the accounts; when it starts the
next goroutine, that one is the current goroutine. -/
theorem move {pc after : Pc} {m : Move} {calls : List Effect} {started : Bool}
    (acc : Accounts zkc path effects pc)
    (moved : goroutineStep zkc path pc m = some (.ok (after, calls, started))) (armed : Nat) :
    Accounts zkc path (effects ++ calls) (if started then .waiting armed none else after) := by
  rcases goroutineStep_cases moved with
    ⟨_, e, rfl, rfl, rfl, rfl⟩ | ⟨e, rfl, rfl, rfl, rfl⟩ | ⟨e, rfl, rfl, rfl, rfl⟩ |
    ⟨connected, answer, made, watching, rfl, attempt, rfl, rfl, rfl⟩ |
    ⟨connected, answer, made, err, rfl, attempt, rfl, rfl, rfl⟩ | ⟨err, rfl, rfl, rfl, rfl⟩
  · exact acc.receive
  · exact acc.report
  · exact acc.dispatch
  · exact acc.rearm attempt rfl rfl rfl (fun _ wrong => by cases wrong) nofun
  · exact acc.rearm attempt rfl rfl rfl (fun _ same => by cases same; rfl) nofun
  · exact acc.finish

/-- A change of the children keeps the accounts: it only fires a waiting goroutine. -/
theorem fireOnChange {pc : Pc} (acc : Accounts zkc path effects pc) (watching : GoString) :
    Accounts zkc path effects (pc.fireOnChange watching) := by
  cases pc with
  | waiting armed fired => cases fired <;> exact acc.waiting
  | _ => exact acc

end Accounts

/-- Every reachable chain is some finished goroutines and a current one, whose place
accounts for the chain's effects. -/
theorem Reachable.shaped {zkc : ZkClient} {path : GoString} {s : Chain}
    (reach : Reachable zkc path s) :
    ∃ n pc, s.goroutines = List.replicate n .done ++ [pc] ∧ Accounts zkc path s.effects pc := by
  induction reach with
  | start version started => exact ⟨0, _, rfl, Accounts.start started version none⟩
  | @step s next a _ stepped ih =>
      obtain ⟨n, pc, shaped, acc⟩ := ih
      rcases Chain.step_of_shaped shaped stepped with rfl | ⟨armed, e, rfl, rfl⟩ |
        ⟨m, after, calls, started, moved, rfl⟩
      · exact ⟨n, _, rfl, acc.fireOnChange _⟩
      · exact ⟨n, _, rfl, acc.waiting⟩
      · have accounted := acc.move moved s.version
        cases started
        · exact ⟨n, after, by simp, accounted⟩
        · exact ⟨n + 1, _, by simp [goroutineStep_started moved, List.replicate_succ'],
            accounted⟩

/-- The children change, and the goroutine takes the event and calls the children watcher. -/
def notifyRun : List Action :=
  [.change, .move 0 .receive, .move 0 .report, .move 0 .dispatch]

/-- The chain after `notifyRun`: the goroutine is about to re-arm. -/
def notifiedChain : Chain :=
  ⟨1, [.rearming],
    [.childrenW testPath none, .received (childrenChangedEvent testPath),
      .childrenChanged testPath], 1⟩

/-- Every call of the children watcher names the path of a children-changed event that
the chain took from its watch channel. -/
theorem childrenChanged_names_taken_event {zkc : ZkClient} {path : GoString} {s : Chain}
    (reach : Reachable zkc path s) (p : GoString) (called : .childrenChanged p ∈ s.effects) :
    ∃ e, .received e ∈ s.effects ∧ e.type = .nodeChildrenChanged ∧ e.path = p := by
  obtain ⟨_, _, -, acc⟩ := reach.shaped
  exact acc.named p called

theorem childrenChanged_names_taken_event_notified :
    Reachable watchedClient (GoString.ofString ".") notifiedChain ∧
    .childrenChanged testPath ∈ notifiedChain.effects ∧
    ∃ e, .received e ∈ notifiedChain.effects ∧ e.type = .nodeChildrenChanged ∧
      e.path = testPath :=
  have reach : Reachable watchedClient (GoString.ofString ".") notifiedChain :=
    (Reachable.start 0 watchedClient_watches_root).run notifyRun rfl
  have called : .childrenChanged testPath ∈ notifiedChain.effects := by decide
  ⟨reach, called, childrenChanged_names_taken_event reach testPath called⟩

end ZkDetector.Watch
