import ZkDetector.WatchRuns

/-! # Changes of the children against the watch chain

While a goroutine waits on a watch that has not fired, the server's children are at the
version that watch was armed at: every change made while a watch is armed fires it. The
goroutine calls the children watcher before it re-arms, so between the fire and the
re-arm no watch is armed, and a change made there fires nothing. The next watch is armed
at the changed version, and no `childrenChanged` call ever starts for that change.
-/

namespace ZkDetector.Watch

open Zk

/-- A change of the children leaves no goroutine on an unfired watch. -/
theorem Pc.fireOnChange_ne_waiting (watching : GoString) (pc : Pc) (armed : Nat) :
    pc.fireOnChange watching ≠ .waiting armed none := by
  cases pc with
  | waiting armed fired => cases fired <;> simp [Pc.fireOnChange]
  | _ => simp [Pc.fireOnChange]

/-- A statement of the body never leaves its goroutine waiting. -/
theorem goroutineStep_ne_waiting {zkc : ZkClient} {path : GoString} {pc after : Pc} {m : Move}
    {calls : List Effect} {started : Bool}
    (moved : goroutineStep zkc path pc m = some (.ok (after, calls, started))) (armed : Nat)
    (fired : Option Event) : after ≠ .waiting armed fired := by
  rcases goroutineStep_cases moved with ⟨_, _, -, rfl, -⟩ | ⟨_, -, rfl, -⟩ |
    ⟨_, -, rfl, -⟩ | ⟨_, _, _, _, -, -, rfl, -⟩ | ⟨_, _, _, _, -, -, rfl, -⟩ |
    ⟨_, -, rfl, -⟩ <;> nofun

/-- In every reachable state, a goroutine waiting on a watch that has not fired waits on
one armed at the current version of the children. -/
theorem Reachable.armed_at_version {zkc : ZkClient} {path : GoString} {s : Chain}
    (reach : Reachable zkc path s) :
    ∀ armed, .waiting armed none ∈ s.goroutines → armed = s.version := by
  suffices current : ∃ n pc, s.goroutines = List.replicate n .done ++ [pc] ∧
      ∀ armed, pc = .waiting armed none → armed = s.version by
    obtain ⟨n, pc, shaped, onCurrent⟩ := current
    intro armed member
    rw [shaped] at member
    rcases List.mem_append.mp member with finished | last
    · exact absurd (List.eq_of_mem_replicate finished) nofun
    · exact onCurrent armed (List.mem_singleton.mp last).symm
  induction reach with
  | start version _ => exact ⟨0, _, rfl, fun _ same => by cases same; rfl⟩
  | @step s next a _ stepped ih =>
      obtain ⟨n, pc, shaped, onCurrent⟩ := ih
      rcases Chain.step_of_shaped shaped stepped with rfl | ⟨armed, e, rfl, rfl⟩ |
        ⟨m, after, calls, started, moved, rfl⟩
      · exact ⟨n, _, rfl, fun armed same => absurd same (Pc.fireOnChange_ne_waiting _ _ _)⟩
      · exact ⟨n, _, rfl, fun _ same => by cases same⟩
      · cases started
        · exact ⟨n, after, by simp, fun armed same =>
            absurd same (goroutineStep_ne_waiting moved armed none)⟩
        · exact ⟨n + 1, .waiting s.version none,
            by simp [goroutineStep_started moved, List.replicate_succ'],
            fun _ same => by cases same; rfl⟩

/-- Goroutine `g` handles the event of its fired watch and re-arms successfully, with
`before`, `taken`, `reported` and `dispatched` changes of the children made before each of
its statements. -/
def handleRun (g before taken reported dispatched : Nat) : List Action :=
  List.replicate before .change ++ (.move g .receive ::
    (List.replicate taken .change ++ (.move g .report ::
      (List.replicate reported .change ++ (.move g .dispatch ::
        (List.replicate dispatched .change ++ [.move g (.rearm true none)]))))))

/-- Changes while the current goroutine is off its watch, then one of its statements. -/
theorem Chain.run_changes_move {zkc : ZkClient} {path : GoString} {s : Chain} {n : Nat}
    {pc after : Pc} {m : Move} {calls : List Effect} {started : Bool}
    (shaped : s.goroutines = List.replicate n .done ++ [pc])
    (busy : ∀ armed, pc ≠ .waiting armed none)
    (moved : goroutineStep zkc path pc m = some (.ok (after, calls, started)))
    (k : Nat) (rest : List Action) :
    s.run zkc path (List.replicate k .change ++ .move n m :: rest) =
      Chain.run zkc path { s with
        version := s.version + k
        goroutines := List.replicate n .done ++ [after] ++
          (if started then [.waiting (s.version + k) none] else [])
        effects := s.effects ++ calls
        notifiedAt := if calls.any Effect.isChildrenChanged then s.version + k
          else s.notifiedAt } rest := by
  have unarmed : ∀ armed, .waiting armed none ∉ s.goroutines := fun armed member => by
    rw [shaped] at member
    rcases List.mem_append.mp member with finished | current
    · exact absurd (List.eq_of_mem_replicate finished) nofun
    · exact busy armed (List.mem_singleton.mp current).symm
  rw [Chain.run_append, Chain.run_changes unarmed, Option.some_bind]
  exact Chain.run_cons_ok rest (Chain.step_move shaped moved)

/-- Every change made while a watch is armed fires it: an unfired watch is at the current
version. The goroutine that took a fired watch's event calls the children watcher before
it re-arms, so the changes made anywhere between the fire and the re-arm fire no watch and
call nothing: the re-armed watch starts from the changed version, and only the event
taken was notified. -/
theorem changes_fire_armed_watch {zkc : ZkClient} {path : GoString} {s : Chain}
    (reach : Reachable zkc path s) :
    (∀ armed, .waiting armed none ∈ s.goroutines → armed = s.version) ∧
    ∀ g armed e, s.goroutines[g]? = some (.waiting armed (some e)) →
      ∀ before taken reported dispatched : Nat, ∃ next,
        s.run zkc path (handleRun g before taken reported dispatched) = some next ∧
        next.version = s.version + before + taken + reported + dispatched ∧
        next.goroutines = List.replicate (g + 1) .done ++ [.waiting next.version none] ∧
        next.effects = s.effects ++ .received e ::
          (if zkc.errorWatcher then e.err.toList.map .errorOccured else []) ++
          (if e.type = .nodeChildrenChanged ∧ zkc.childrenWatcher = true then
            [.childrenChanged e.path] else []) ++
          [.watchChildren path, .childrenW (watchPath zkc.rootPath path) none] ∧
        next.notifiedAt =
          if e.type = .nodeChildrenChanged ∧ zkc.childrenWatcher = true then
            s.version + before + taken + reported
          else s.notifiedAt := by
  refine ⟨reach.armed_at_version, fun g armed e found before taken reported dispatched => ?_⟩
  obtain ⟨n, pc, shaped, -⟩ := reach.shaped
  obtain ⟨rfl, rfl⟩ : g = n ∧ pc = .waiting armed (some e) := by
    rcases getElem?_shaped (shaped ▸ found) with wrong | same
    · cases wrong
    · exact ⟨same.1, same.2.symm⟩
  have attempt : ({ zkc with connected := true } : ZkClient).watchChildren (fun _ => none) path =
      .ok ([.childrenW (watchPath zkc.rootPath path) none], .ok (watchPath zkc.rootPath path)) :=
    ZkClient.watchChildren_ok_iff.mpr (.inr ⟨rfl, reach.conn, rfl, rfl⟩)
  have takeStep : goroutineStep zkc path (.waiting armed (some e)) .receive =
      some (.ok (.received e, [.received e], false)) := rfl
  have reportStep : goroutineStep zkc path (.received e) .report =
      some (.ok (.reported e, zkc.reportError e.err, false)) := rfl
  have dispatchStep : goroutineStep zkc path (.reported e) .dispatch =
      some (.ok (.rearming, if e.type = .nodeChildrenChanged ∧ zkc.childrenWatcher = true then
        [.childrenChanged e.path] else [], false)) := rfl
  have rearmStep : goroutineStep zkc path .rearming (.rearm true none) = some (.ok (.done,
      [.watchChildren path, .childrenW (watchPath zkc.rootPath path) none], true)) := by
    simp [goroutineStep, attempt]
  simp only [handleRun]
  rw [Chain.run_changes_move shaped (fun _ same => by cases same) takeStep,
    Chain.run_changes_move (by simp) (fun _ same => by cases same) reportStep,
    Chain.run_changes_move (by simp) (fun _ same => by cases same) dispatchStep,
    Chain.run_changes_move (by simp) (fun _ same => by cases same) rearmStep]
  refine ⟨_, rfl, by simp only [Nat.add_assoc], by simp [List.replicate_succ'], ?_, ?_⟩
  · dsimp only
    rw [ZkClient.reportError_eq]
    simp only [List.append_assoc, List.cons_append, List.singleton_append, List.nil_append]
  · dsimp only
    by_cases notified : e.type = .nodeChildrenChanged ∧ zkc.childrenWatcher = true <;>
      simp [notified]

/-- The watch of the test client's chain has fired on a change, and its event waits to be
taken. -/
def firedChain : Chain :=
  ⟨1, [.waiting 0 (some (childrenChangedEvent testPath))], [.childrenW testPath none], 0⟩

theorem changes_fire_armed_watch_fired :
    Reachable watchedClient (GoString.ofString ".") firedChain ∧
    (∀ armed, .waiting armed none ∈ firedChain.goroutines → armed = firedChain.version) ∧
    ∀ g armed e, firedChain.goroutines[g]? = some (.waiting armed (some e)) →
      ∀ before taken reported dispatched : Nat, ∃ next,
        firedChain.run watchedClient (GoString.ofString ".")
          (handleRun g before taken reported dispatched) = some next ∧
        next.version = firedChain.version + before + taken + reported + dispatched ∧
        next.goroutines = List.replicate (g + 1) .done ++ [.waiting next.version none] ∧
        next.effects = firedChain.effects ++ .received e ::
          (if watchedClient.errorWatcher then e.err.toList.map .errorOccured else []) ++
          (if e.type = .nodeChildrenChanged ∧ watchedClient.childrenWatcher = true then
            [.childrenChanged e.path] else []) ++
          [.watchChildren (GoString.ofString "."),
            .childrenW (watchPath watchedClient.rootPath (GoString.ofString ".")) none] ∧
        next.notifiedAt =
          if e.type = .nodeChildrenChanged ∧ watchedClient.childrenWatcher = true then
            firedChain.version + before + taken + reported
          else firedChain.notifiedAt :=
  have reach : Reachable watchedClient (GoString.ofString ".") firedChain :=
    (Reachable.start 0 watchedClient_watches_root).run [.change] rfl
  ⟨reach, changes_fire_armed_watch reach⟩

/-- The children change, the goroutine takes the event and calls the children watcher, the
children change again, and the re-arm succeeds. -/
def lostChangeRun : List Action :=
  [.change, .move 0 .receive, .move 0 .report, .move 0 .dispatch, .change,
    .move 0 (.rearm true none)]

/-- After `lostChangeRun` the goroutine waits on an unfired watch armed at version 2,
while the children watcher was called once, at version 1: the second change is never
notified. -/
theorem change_before_rearm_is_lost :
    ∃ s, Reachable watchedClient (GoString.ofString ".") s ∧
      .waiting 2 none ∈ s.goroutines ∧ s.version = 2 ∧ s.notifiedAt = 1 ∧
      notifyCount s.effects = 1 :=
  ⟨_, (Reachable.start 0 watchedClient_watches_root).run lostChangeRun rfl, by decide, rfl, rfl,
    by decide⟩

end ZkDetector.Watch
