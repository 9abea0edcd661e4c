import ZkDetector.Client

/-! # The watch goroutines of `watchChildren`

A successful `watchChildren(path)` arms a one-shot watch on the watch path and starts a
goroutine that waits on it. When the watch fires, the goroutine reports the event's
error, calls the children watcher on a children-changed event, and calls
`watchChildren(path)` again, which arms the next watch and starts the next goroutine;
if that call fails, the goroutine reports the failure and the chain ends. A call that
passes its connected check with no connection held panics on the nil `zkc.conn`; a chain
starts only through a call that went through one, and `connect` only ever replaces it.

The server's children carry a version that each change bumps. `ChildrenW` arms its watch
at the current version, and the first change after it fires the watch. The library may
also fire a watch with any other event, errors included. Each statement of the
goroutine's body is one step, so the environment's steps interleave with all of them.
`notifiedAt` is ghost state: the version when the latest `childrenChanged` call started.
-/

namespace ZkDetector.Watch

open Zk

/-- Where a goroutine of the chain is in its body: blocked on `<-ch` for the watch armed
at version `armed`, with `fired` the event in the channel once the watch has fired; past
taking `e`, next reporting `e.Err`; past the report, next the switch on `e.Type`; next
`watchChildren(path)`; past a `watchChildren(path)` that returned `err`, next its report;
or done. -/
inductive Pc
  | waiting (armed : Nat) (fired : Option Event)
  | received (e : Event)
  | reported (e : Event)
  | rearming
  | failed (err : GoError)
  | done
deriving DecidableEq, Repr

/-- A statement of the goroutine's body, with the environment's part in it: what
`zkc.connected` reads and what the connector's `ChildrenW` returns in the re-arm. -/
inductive Move
  | receive
  | report
  | dispatch
  | rearm (connected : Bool) (childrenW : Option GoError)
  | finish
deriving DecidableEq, Repr

/-- The event a change of the children fires: `EventNodeChildrenChanged` on the path. -/
def childrenChangedEvent (watching : GoString) : Event :=
  ⟨.nodeChildrenChanged, .syncConnected, watching, none⟩

/-- A change of the children fires the watch of a goroutine waiting on an unfired one. -/
def Pc.fireOnChange (watching : GoString) : Pc → Pc
  | .waiting armed none => .waiting armed (some (childrenChangedEvent watching))
  | pc => pc

/-- One statement of the goroutine's body from `pc`: the next pc, the calls it made, and
whether it started the next goroutine, or the panic that ended the process. `none` if
`move` is not the next statement. -/
def goroutineStep (zkc : ZkClient) (path : GoString) :
    Pc → Move → Option (Except GoPanic (Pc × List Effect × Bool))
  | .waiting _ (some e), .receive => some (.ok (.received e, [.received e], false))
  | .received e, .report => some (.ok (.reported e, zkc.reportError e.err, false))
  | .reported e, .dispatch =>
      some (.ok (.rearming,
        if e.type = .nodeChildrenChanged ∧ zkc.childrenWatcher then [.childrenChanged e.path]
        else [], false))
  | .rearming, .rearm connected childrenW =>
      match { zkc with connected }.watchChildren (fun _ => childrenW) path with
      | .ok (calls, .ok _) => some (.ok (.done, .watchChildren path :: calls, true))
      | .ok (calls, .error err) => some (.ok (.failed err, .watchChildren path :: calls, false))
      | .error p => some (.error p)
  | .failed err, .finish => some (.ok (.done, zkc.reportError (some err), false))
  | _, _ => none

/-- The chain: the server's version of the children, the chain's goroutines in the order
they were started, and what the chain did. -/
structure Chain where
  version : Nat
  goroutines : List Pc
  effects : List Effect
  notifiedAt : Nat
deriving DecidableEq, Repr

/-- What can happen next. -/
inductive Action
  | change
  | fire (g : Nat) (e : Event)
  | move (g : Nat) (m : Move)
deriving DecidableEq, Repr

/-- Whether a call is the children watcher's. -/
def Effect.isChildrenChanged : Effect → Bool
  | .childrenChanged _ => true
  | _ => false

section IsChildrenChanged

variable (err : GoError) (path : GoString) (e : Event)

@[simp] theorem Effect.isChildrenChanged_childrenChanged :
    Effect.isChildrenChanged (.childrenChanged path) = true := rfl
@[simp] theorem Effect.isChildrenChanged_errorOccured :
    Effect.isChildrenChanged (.errorOccured err) = false := rfl
@[simp] theorem Effect.isChildrenChanged_childrenW (answer : Option GoError) :
    Effect.isChildrenChanged (.childrenW path answer) = false := rfl
@[simp] theorem Effect.isChildrenChanged_watchChildren :
    Effect.isChildrenChanged (.watchChildren path) = false := rfl
@[simp] theorem Effect.isChildrenChanged_received :
    Effect.isChildrenChanged (.received e) = false := rfl

/-- A report to the error watcher calls no children watcher. -/
@[simp] theorem any_isChildrenChanged_reportError (zkc : ZkClient) (err : Option GoError) :
    (zkc.reportError err).any Effect.isChildrenChanged = false := by
  cases err with
  | none => rfl
  | some err => simp only [ZkClient.reportError]; split_ifs <;> rfl

end IsChildrenChanged

namespace Chain

/-- One step: `none` if the action is not enabled, `.error` if the goroutine panicked. -/
def step (zkc : ZkClient) (path : GoString) (s : Chain) : Action → Option (Except GoPanic Chain)
  | .change =>
      some (.ok { s with
        version := s.version + 1
        goroutines := s.goroutines.map (Pc.fireOnChange (watchPath zkc.rootPath path)) })
  | .fire g e =>
      match s.goroutines[g]? with
      | some (.waiting armed none) =>
          some (.ok { s with goroutines := s.goroutines.set g (.waiting armed (some e)) })
      | _ => none
  | .move g m =>
      match s.goroutines[g]? with
      | some pc =>
          (goroutineStep zkc path pc m).map (·.map fun (next, calls, started) =>
            { s with goroutines := s.goroutines.set g next ++
                        (if started then [.waiting s.version none] else []),
                     effects := s.effects ++ calls,
                     notifiedAt := if calls.any Effect.isChildrenChanged then s.version
                       else s.notifiedAt })
      | none => none

/-- Runs the actions in order; `none` if one is not enabled or a goroutine panics. -/
def run (zkc : ZkClient) (path : GoString) (s : Chain) : List Action → Option Chain
  | [] => some s
  | a :: rest =>
      match s.step zkc path a with
      | some (.ok next) => run zkc path next rest
      | _ => none

end Chain

/-- A finished goroutine runs no statement. -/
@[simp] theorem goroutineStep_done (zkc : ZkClient) (path : GoString) (m : Move) :
    goroutineStep zkc path .done m = none := by
  cases m <;> rfl

/-- Everything one statement of the body can do. -/
theorem goroutineStep_cases {zkc : ZkClient} {path : GoString} {pc after : Pc} {m : Move}
    {calls : List Effect} {started : Bool}
    (moved : goroutineStep zkc path pc m = some (.ok (after, calls, started))) :
    (∃ armed e, pc = .waiting armed (some e) ∧ after = .received e ∧ calls = [.received e] ∧
      started = false) ∨
    (∃ e, pc = .received e ∧ after = .reported e ∧ calls = zkc.reportError e.err ∧
      started = false) ∨
    (∃ e, pc = .reported e ∧ after = .rearming ∧
      calls = (if e.type = .nodeChildrenChanged ∧ zkc.childrenWatcher then
        [.childrenChanged e.path] else []) ∧ started = false) ∨
    (∃ connected answer made watching, pc = .rearming ∧
      { zkc with connected }.watchChildren (fun _ => answer) path = .ok (made, .ok watching) ∧
      after = .done ∧ calls = .watchChildren path :: made ∧ started = true) ∨
    (∃ connected answer made err, pc = .rearming ∧
      { zkc with connected }.watchChildren (fun _ => answer) path = .ok (made, .error err) ∧
      after = .failed err ∧ calls = .watchChildren path :: made ∧ started = false) ∨
    (∃ err, pc = .failed err ∧ after = .done ∧ calls = zkc.reportError (some err) ∧
      started = false) := by
  cases pc with
  | waiting armed fired =>
      cases fired <;> cases m <;> simp only [goroutineStep, reduceCtorEq] at moved
      cases moved
      exact .inl ⟨armed, _, rfl, rfl, rfl, rfl⟩
  | received e =>
      cases m <;> simp only [goroutineStep, reduceCtorEq] at moved
      cases moved
      exact .inr (.inl ⟨e, rfl, rfl, rfl, rfl⟩)
  | reported e =>
      cases m <;> simp only [goroutineStep, reduceCtorEq] at moved
      cases moved
      exact .inr (.inr (.inl ⟨e, rfl, rfl, rfl, rfl⟩))
  | rearming =>
      cases m <;> simp only [goroutineStep, reduceCtorEq] at moved
      rename_i connected answer
      cases attempt : { zkc with connected }.watchChildren (fun _ => answer) path with
      | error p =>
          rw [attempt] at moved
          cases moved
      | ok returned =>
          obtain ⟨made, result⟩ := returned
          rw [attempt] at moved
          cases result <;>
            simp only [Option.some.injEq, Except.ok.injEq, Prod.mk.injEq] at moved <;>
            obtain ⟨rfl, rfl, rfl⟩ := moved
          · exact .inr (.inr (.inr (.inr (.inl ⟨connected, answer, made, _, rfl, attempt, rfl,
              rfl, rfl⟩))))
          · exact .inr (.inr (.inr (.inl ⟨connected, answer, made, _, rfl, attempt, rfl, rfl,
              rfl⟩)))
  | failed err =>
      cases m <;> simp only [goroutineStep, reduceCtorEq] at moved
      cases moved
      exact .inr (.inr (.inr (.inr (.inr ⟨err, rfl, rfl, rfl, rfl⟩))))
  | done => simp [goroutineStep_done] at moved

/-- A statement panics only as a re-arm whose `watchChildren` panics. -/
theorem goroutineStep_error_iff {zkc : ZkClient} {path : GoString} {pc : Pc} {m : Move}
    {p : GoPanic} :
    goroutineStep zkc path pc m = some (.error p) ↔
      pc = .rearming ∧ ∃ connected answer, m = .rearm connected answer ∧
        { zkc with connected }.watchChildren (fun _ => answer) path = .error p := by
  constructor
  · intro panicked
    cases pc with
    | waiting armed fired =>
        cases fired <;> cases m <;> simp [goroutineStep] at panicked
    | rearming =>
        cases m <;> simp only [goroutineStep, reduceCtorEq] at panicked
        rename_i connected answer
        refine ⟨rfl, connected, answer, rfl, ?_⟩
        cases attempt : { zkc with connected }.watchChildren (fun _ => answer) path with
        | error q =>
            rw [attempt] at panicked
            cases panicked
            rfl
        | ok returned =>
            obtain ⟨made, result⟩ := returned
            rw [attempt] at panicked
            cases result <;> cases panicked
    | _ => cases m <;> simp [goroutineStep] at panicked
  · rintro ⟨rfl, connected, answer, rfl, attempt⟩
    simp [goroutineStep, attempt]

/-- A goroutine that starts the next one is done. -/
theorem goroutineStep_started {zkc : ZkClient} {path : GoString} {pc after : Pc} {m : Move}
    {calls : List Effect} (moved : goroutineStep zkc path pc m = some (.ok (after, calls, true))) :
    after = .done := by
  rcases goroutineStep_cases moved with ⟨_, _, -, -, -, ⟨⟩⟩ | ⟨_, -, -, -, ⟨⟩⟩ |
    ⟨_, -, -, -, ⟨⟩⟩ | ⟨_, _, _, _, -, -, done, -⟩ | ⟨_, _, _, _, -, -, -, -, ⟨⟩⟩ |
    ⟨_, -, -, -, ⟨⟩⟩
  exact done

section Shape

variable {n g : Nat} {pc q x : Pc}

theorem getElem?_shaped (found : (List.replicate n Pc.done ++ [pc])[g]? = some q) :
    q = .done ∨ (g = n ∧ q = pc) := by
  by_cases before : g < n
  · rw [List.getElem?_append_left (by simpa using before), List.getElem?_replicate,
      if_pos before] at found
    exact .inl (Option.some.inj found).symm
  · rw [List.getElem?_append_right (by simpa using before)] at found
    simp only [List.length_replicate] at found
    cases last : g - n with
    | zero =>
        simp only [last, List.getElem?_cons_zero, Option.some.injEq] at found
        exact .inr ⟨by omega, found.symm⟩
    | succ k => simp [last] at found

theorem set_shaped :
    (List.replicate n Pc.done ++ [pc]).set n x = List.replicate n .done ++ [x] := by
  rw [List.set_append_right _ _ (by simp)]
  simp

end Shape

namespace Chain

/-- A step of a chain whose goroutines are `n` finished ones and a current one at `pc`
acts on the current one: a change, a fire of its watch, or a statement of its body. -/
theorem step_of_shaped {zkc : ZkClient} {path : GoString} {s next : Chain} {a : Action}
    {n : Nat} {pc : Pc} (shaped : s.goroutines = List.replicate n .done ++ [pc])
    (stepped : s.step zkc path a = some (.ok next)) :
    next = { s with
      version := s.version + 1
      goroutines := List.replicate n .done ++ [pc.fireOnChange (watchPath zkc.rootPath path)] } ∨
    (∃ armed e, pc = .waiting armed none ∧
      next = { s with goroutines := List.replicate n .done ++ [.waiting armed (some e)] }) ∨
    (∃ m after calls started, goroutineStep zkc path pc m = some (.ok (after, calls, started)) ∧
      next = { s with
        goroutines := List.replicate n .done ++ [after] ++
          (if started then [.waiting s.version none] else []),
        effects := s.effects ++ calls,
        notifiedAt :=
          if calls.any Effect.isChildrenChanged then s.version else s.notifiedAt }) := by
  cases a with
  | change =>
      left
      cases stepped
      simp [shaped, Pc.fireOnChange]
  | fire g e =>
      simp only [step, shaped] at stepped
      split at stepped <;> try contradiction
      rename_i armed found
      rcases getElem?_shaped found with wrong | ⟨rfl, rfl⟩
      · cases wrong
      · cases stepped
        exact .inr (.inl ⟨armed, e, rfl, by simp [shaped, set_shaped]⟩)
  | move g m =>
      simp only [step, shaped] at stepped
      split at stepped <;> try contradiction
      rename_i current found
      rcases getElem?_shaped found with rfl | ⟨rfl, rfl⟩
      · rw [goroutineStep_done] at stepped
        cases stepped
      · obtain ⟨⟨after, calls, started⟩, moved, rfl⟩ := map_exceptMap_eq_some_ok.mp stepped
        exact .inr (.inr ⟨m, after, calls, started, moved, by simp [shaped, set_shaped]⟩)

/-- The converse: a statement of the current goroutine steps the chain. -/
theorem step_move {zkc : ZkClient} {path : GoString} {s : Chain} {n : Nat} {pc after : Pc}
    {m : Move} {calls : List Effect} {started : Bool}
    (shaped : s.goroutines = List.replicate n .done ++ [pc])
    (moved : goroutineStep zkc path pc m = some (.ok (after, calls, started))) :
    s.step zkc path (.move n m) = some (.ok { s with
      goroutines := List.replicate n .done ++ [after] ++
        (if started then [.waiting s.version none] else []),
      effects := s.effects ++ calls,
      notifiedAt := if calls.any Effect.isChildrenChanged then s.version else s.notifiedAt }) := by
  simp [step, shaped, moved, set_shaped, Except.map]

/-- With no goroutine on an unfired watch, a change fires nothing. -/
theorem step_change_unarmed {zkc : ZkClient} {path : GoString} {s : Chain}
    (unarmed : ∀ armed, .waiting armed none ∉ s.goroutines) :
    s.step zkc path .change = some (.ok { s with version := s.version + 1 }) := by
  have same : s.goroutines.map (Pc.fireOnChange (watchPath zkc.rootPath path)) = s.goroutines := by
    conv_rhs => rw [← List.map_id s.goroutines]
    refine List.map_congr_left fun pc member => ?_
    cases pc with
    | waiting armed fired =>
        cases fired with
        | none => exact absurd member (unarmed armed)
        | some e => rfl
    | _ => rfl
  simp only [step, same]

theorem run_append (zkc : ZkClient) (path : GoString) (s : Chain) (first rest : List Action) :
    s.run zkc path (first ++ rest) = (s.run zkc path first).bind (run zkc path · rest) := by
  induction first generalizing s with
  | nil => rfl
  | cons a first ih =>
      simp only [run, List.cons_append]
      split
      · exact ih _
      · rfl

theorem run_cons_ok {zkc : ZkClient} {path : GoString} {s next : Chain} {a : Action}
    (rest : List Action) (stepped : s.step zkc path a = some (.ok next)) :
    s.run zkc path (a :: rest) = next.run zkc path rest := by
  simp [run, stepped]

/-- `k` changes while no goroutine is on an unfired watch only move the version on. -/
theorem run_changes {zkc : ZkClient} {path : GoString} {s : Chain}
    (unarmed : ∀ armed, .waiting armed none ∉ s.goroutines) (k : Nat) :
    s.run zkc path (List.replicate k .change) = some { s with version := s.version + k } := by
  induction k generalizing s with
  | zero => rfl
  | succ k ih =>
      rw [List.replicate_succ]
      simp only [run, step_change_unarmed unarmed]
      rw [ih (s := { s with version := s.version + 1 }) unarmed, Nat.add_assoc, Nat.add_comm 1 k]

end Chain

/-- The chains that a successful `watchChildren(path)` on `zkc` starts, at server version
`version`, and every state they reach. -/
inductive Reachable (zkc : ZkClient) (path : GoString) : Chain → Prop
  | start {childrenW : GoString → Option GoError} {calls : List Effect} {watching : GoString}
      (version : Nat) : zkc.watchChildren childrenW path = .ok (calls, .ok watching) →
      Reachable zkc path ⟨version, [.waiting version none], calls, version⟩
  | step {s next : Chain} {a : Action} : Reachable zkc path s →
      s.step zkc path a = some (.ok next) → Reachable zkc path next

theorem Reachable.run {zkc : ZkClient} {path : GoString} {s next : Chain}
    (reach : Reachable zkc path s) (actions : List Action)
    (ran : s.run zkc path actions = some next) : Reachable zkc path next := by
  induction actions generalizing s with
  | nil => cases ran; exact reach
  | cons a rest ih =>
      simp only [Chain.run] at ran
      split at ran
      · exact ih (reach.step ‹_›) ran
      · contradiction

/-- A chain runs on a client that holds a connection: its first `ChildrenW` went through it. -/
theorem Reachable.conn {zkc : ZkClient} {path : GoString} {s : Chain}
    (reach : Reachable zkc path s) : zkc.conn ≠ none := by
  induction reach with
  | start _ started =>
      rcases ZkClient.watchChildren_ok_iff.mp started with ⟨-, -, wrong⟩ | ⟨-, held, -⟩
      · cases wrong
      · exact held
  | step _ _ ih => exact ih

/-- `TestZkClientWatchChildren`'s client: connected, with a children watcher. -/
def watchedClient : ZkClient := { testClient with childrenWatcher := true }

/-- `watchChildren(".")` arms the watch on the root path itself. -/
theorem watchedClient_watches_root :
    watchedClient.watchChildren (fun _ => none) (GoString.ofString ".") =
      .ok ([.childrenW testPath none], .ok testPath) :=
  rfl

/-- The chain `watchChildren(".")` starts on `watchedClient` at version 0. -/
def watchedStart : Chain := ⟨0, [.waiting 0 none], [.childrenW testPath none], 0⟩

end ZkDetector.Watch
