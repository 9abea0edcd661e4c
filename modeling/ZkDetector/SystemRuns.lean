import ZkDetector.System

/-! # What every run of the whole client keeps

Each component of the client behaves as its own model says, whatever the others do: the
`connect` part keeps `Connect`'s invariant, and every chain is a reachable chain of `Watch`
on the current client. What only the composition gives: a chain starts on a connected
client and nothing clears `connected`, so every re-arm of every chain passes its connected
check and reaches the connector's `ChildrenW`, and a chain ends only when `ChildrenW` fails.
The connection under the chains is not fixed: a `connect` caller that passed its check
before the client connected may still open a session and replace `zkc.conn`, but no other
caller can. `watchChildren` calls `ChildrenW` through `zkc.conn` once its check passes,
and the check passes only after a session has connected, by when `zkc.conn` holds one: the
nil dereference is unreachable, and only a session loop crashes the client, on a repeated
`StateConnected`.
-/

namespace ZkDetector

open Zk

namespace Watch

section SetConn

variable {zkc : ZkClient} {conn : Option Nat}

/-- A goroutine steps alike on every connection the client holds: it reaches `zkc.conn`
only through `ChildrenW`, whose answer is the environment's. -/
theorem goroutineStep_setConn (held : zkc.conn ≠ none) (still : conn ≠ none) (path : GoString)
    (pc : Pc) (m : Move) : goroutineStep { zkc with conn } path pc m = goroutineStep zkc path pc m := by
  cases pc with
  | waiting armed fired => cases fired <;> cases m <;> rfl
  | rearming =>
      cases m with
      | rearm connected answer =>
          have same : ({ zkc with conn, connected } : ZkClient).watchChildren =
              ({ zkc with connected } : ZkClient).watchChildren :=
            @ZkClient.watchChildren_setConn { zkc with connected } conn held still
          simp only [goroutineStep, same]
      | _ => rfl
  | _ => cases m <;> rfl

theorem Chain.step_setConn (held : zkc.conn ≠ none) (still : conn ≠ none) (path : GoString)
    (s : Chain) (a : Action) : s.step { zkc with conn } path a = s.step zkc path a := by
  cases a with
  | move g m => simp only [Chain.step, goroutineStep_setConn held still]
  | _ => rfl

theorem Reachable.setConn {path : GoString} {s : Chain} (reach : Reachable zkc path s)
    (still : conn ≠ none) : Reachable { zkc with conn } path s := by
  have held := reach.conn
  induction reach with
  | start version started =>
      exact .start version ((ZkClient.watchChildren_setConn held still).symm ▸ started)
  | step _ stepped ih =>
      exact ih.step ((Chain.step_setConn held still _ _ _).trans stepped)

end SetConn

/-- No statement of a goroutine panics while the client holds a connection. -/
theorem goroutineStep_ne_error {zkc : ZkClient} (held : zkc.conn ≠ none) (path : GoString)
    (pc : Pc) (m : Move) (p : GoPanic) : goroutineStep zkc path pc m ≠ some (.error p) :=
  fun panicked => by
    obtain ⟨-, _, _, -, attempt⟩ := goroutineStep_error_iff.mp panicked
    exact held (ZkClient.watchChildren_error_iff.mp attempt).2.1

theorem Chain.step_ne_error {zkc : ZkClient} (held : zkc.conn ≠ none) (path : GoString)
    (s : Chain) (a : Action) (p : GoPanic) : s.step zkc path a ≠ some (.error p) := by
  cases a with
  | change => nofun
  | fire g e =>
      simp only [Chain.step]
      split <;> nofun
  | move g m =>
      simp only [Chain.step]
      split
      · exact fun panicked =>
          goroutineStep_ne_error held path _ m p (map_exceptMap_eq_some_error.mp panicked)
      · nofun

end Watch

namespace Connect.Detector

variable {d next : Detector} {a : Action}

/-- `connect` and the session loops write only `conn` and `connected` of the client. -/
theorem step_zkc (stepped : d.step a = some (.ok next)) :
    ∃ conn connected, next.zkc = { d.zkc with conn, connected } := by
  rcases step_cases stepped with ⟨c, result, -, rfl⟩ | ⟨c, rfl⟩ | ⟨c, rfl⟩ |
    ⟨i, session, e, handled, -, passed, rfl⟩
  · exact ⟨_, _, rfl⟩
  · exact ⟨_, _, rfl⟩
  · exact ⟨_, _, rfl⟩
  · exact ⟨_, _, (handleSessionEvent_ok passed).1⟩

/-- Once `connected` is set, a step changes no field of the client but `conn`. -/
theorem step_zkc_of_connected (stepped : d.step a = some (.ok next))
    (connected : d.zkc.connected = true) : ∃ conn, next.zkc = { d.zkc with conn } := by
  obtain ⟨conn, flag, same⟩ := step_zkc stepped
  have kept := step_keeps_connected stepped connected
  rw [same] at kept
  refine ⟨conn, same.trans ?_⟩
  rw [show flag = d.zkc.connected from kept.trans connected.symm]

/-- Only a session loop panics, on `StateConnected` once its `waitConnCh` is closed. -/
theorem step_error_iff {p : GoPanic} :
    d.step a = some (.error p) ↔ ∃ i e session, a = .event i e ∧ d.sessions[i]? = some session ∧
      session.waitClosed = true ∧ e.state = .connected ∧ p = closeOfClosedChannel := by
  cases a with
  | event i e =>
      constructor
      · intro panicked
        simp only [step] at panicked
        split at panicked <;> try contradiction
        rename_i session found
        rw [handleSessionEvent_eq] at panicked
        split_ifs at panicked with panics
        · cases panicked
          exact ⟨i, e, session, rfl, found, panics.1, panics.2, rfl⟩
        · cases panicked
      · rintro ⟨i, e, session, ⟨⟩, found, closed, connected, rfl⟩
        simp [step, found, handleSessionEvent_eq, closed, connected, Except.map]
  | _ =>
      simp only [step]
      repeat' split
      all_goals simp

end Connect.Detector

namespace System

variable {hosts : List GoString} {root : GoString} {callers : Nat}

/-- A successful `watchChildren` ran on a connected client and called `ChildrenW` once. -/
theorem watchChildren_ok {zkc : ZkClient} {childrenW : GoString → Option GoError}
    {path watching : GoString} {calls : List Effect}
    (started : zkc.watchChildren childrenW path = .ok (calls, .ok watching)) :
    zkc.connected = true ∧
      calls = [.childrenW (watchPath zkc.rootPath path) (childrenW (watchPath zkc.rootPath path))] := by
  rcases ZkClient.watchChildren_ok_iff.mp started with ⟨-, -, wrong⟩ | ⟨connected, -, made, -⟩
  · cases wrong
  · exact ⟨connected, made⟩

theorem reportError_not_watchChildren {zkc : ZkClient} {err : Option GoError} :
    ∀ x ∈ zkc.reportError err, Watch.Effect.isWatchChildren x = false := fun _ member => by
  obtain ⟨_, rfl⟩ := Watch.mem_reportError member
  rfl

/-- The calls of one statement of a chain's goroutine: a re-arm's `watchChildren(path)`
with what that call made, or calls none of which is `watchChildren`. -/
theorem goroutineStep_calls {zkc : ZkClient} {path : GoString} {pc after : Watch.Pc}
    {m : Watch.Move} {calls : List Effect} {started : Bool}
    (moved : Watch.goroutineStep zkc path pc m = some (.ok (after, calls, started))) :
    (∃ checked answer made result, m = .rearm checked answer ∧
      { zkc with connected := checked }.watchChildren (fun _ => answer) path =
        .ok (made, result) ∧
      calls = .watchChildren path :: made) ∨
    (∀ x ∈ calls, Watch.Effect.isWatchChildren x = false) := by
  cases m with
  | rearm checked answer =>
      cases pc <;> simp only [Watch.goroutineStep, reduceCtorEq] at moved
      split at moved <;> cases moved <;> exact .inl ⟨checked, answer, _, _, rfl, ‹_›, rfl⟩
  | _ =>
      right
      rcases Watch.goroutineStep_cases moved with ⟨_, e, -, -, rfl, -⟩ | ⟨e, -, -, rfl, -⟩ |
        ⟨e, -, -, rfl, -⟩ | ⟨_, _, _, _, rfl, -⟩ | ⟨_, _, _, _, rfl, -⟩ | ⟨err, -, -, rfl, -⟩
      · simp
      · exact reportError_not_watchChildren
      · split_ifs <;> simp
      · simp [Watch.goroutineStep] at moved
      · simp [Watch.goroutineStep] at moved
      · exact reportError_not_watchChildren

section RearmsReach

variable {watching : GoString}

theorem RearmsReach.of_forall {calls : List Effect}
    (quiet : ∀ x ∈ calls, Watch.Effect.isWatchChildren x = false) :
    RearmsReach watching calls :=
  ⟨(List.pairwise_of_forall_mem_list fun x member _ _ rearm => by
      rw [quiet x member] at rearm
      cases rearm).chain',
    fun x last => quiet x (List.mem_of_mem_getLast? last)⟩

/-- A re-arm that passed its connected check: `watchChildren(path)`, then `ChildrenW`. -/
theorem RearmsReach.rearm (path : GoString) (answer : Option GoError) :
    RearmsReach watching [.watchChildren path, .childrenW watching answer] :=
  ⟨List.chain'_pair.mpr fun _ => by simp, by simp⟩

theorem RearmsReach.append {effects calls : List Effect} (before : RearmsReach watching effects)
    (after : RearmsReach watching calls) : RearmsReach watching (effects ++ calls) := by
  refine ⟨List.chain'_append.mpr ⟨before.1, after.1, fun x last _ _ rearm => ?_⟩,
    fun x last => ?_⟩
  · rw [before.2 x last] at rearm
    cases rearm
  · rw [List.getLast?_append] at last
    cases tail : calls.getLast? <;> simp only [tail, Option.or] at last
    · exact before.2 x last
    · exact after.2 x (tail ▸ last)

/-- What follows a `watchChildren` call is `ChildrenW` on `watching`. -/
theorem RearmsReach.next {pre post : List Effect} {q : GoString}
    (reach : RearmsReach watching (pre ++ .watchChildren q :: post)) :
    ∃ answer, post.head? = some (.childrenW watching answer) := by
  cases post with
  | nil => exact absurd (reach.2 (.watchChildren q) (by simp)) (by simp)
  | cons y rest =>
      have follows := (List.chain'_cons.mp (List.chain'_split.mp reach.1).2).1 rfl
      obtain ⟨answer, rfl⟩ := Effect.isChildrenWOn_iff.mp follows
      exact ⟨answer, rfl⟩

end RearmsReach

/-- A chain step whose connected check reads a set `connected` sends every new
`watchChildren` call on to `ChildrenW`. -/
theorem chainStep_rearmsReach {zkc : ZkClient} {path : GoString} {chain after : Watch.Chain}
    {a : Watch.Action} (stepped : chain.step zkc path a = some (.ok after))
    (passes : readsConnected true a = true)
    (reach : RearmsReach (watchPath zkc.rootPath path) chain.effects) :
    RearmsReach (watchPath zkc.rootPath path) after.effects := by
  cases a with
  | change =>
      cases stepped
      exact reach
  | fire g e =>
      simp only [Watch.Chain.step] at stepped
      split at stepped <;> cases stepped
      exact reach
  | move g m =>
      simp only [Watch.Chain.step] at stepped
      split at stepped <;> try contradiction
      obtain ⟨⟨next, calls, started⟩, moved, rfl⟩ := map_exceptMap_eq_some_ok.mp stepped
      refine reach.append ?_
      rcases goroutineStep_calls moved with ⟨checked, answer, made, result, rfl, attempt, rfl⟩ |
        quiet
      · obtain rfl : checked = true := by simpa [readsConnected] using passes
        rw [Watch.rearm_calls attempt, if_pos rfl]
        exact .rearm path answer
      · exact .of_forall quiet

section SessionBound

theorem countP_isDialing_set (callers : List Connect.Caller) (c : Nat) (caller : Connect.Caller)
    (settled : isDialing caller = false) :
    (callers.set c caller).countP isDialing ≤ callers.countP isDialing := by
  by_cases inside : c < callers.length
  · rw [List.countP_set _ _ _ _ inside, settled, if_neg Bool.false_ne_true, Nat.add_zero]
    exact Nat.sub_le _ _
  · rw [List.set_eq_of_length_le (Nat.le_of_not_lt inside)]

theorem countP_isDialing_set_dialing {callers : List Connect.Caller} {c : Nat}
    (caller : Connect.Caller) (found : callers[c]? = some .dialing)
    (settled : isDialing caller = false) :
    (callers.set c caller).countP isDialing + 1 = callers.countP isDialing := by
  obtain ⟨inside, dialing⟩ := List.getElem?_eq_some_iff.mp found
  have present : 0 < callers.countP isDialing :=
    List.countP_pos_iff.mpr ⟨_, List.getElem_mem inside, by simp [dialing]⟩
  rw [List.countP_set _ _ _ _ inside, dialing, settled]
  simp only [isDialing, ↓reduceIte, Bool.false_eq_true]
  omega

variable {d next : Connect.Detector} {a : Connect.Action}

theorem sessionBound_answer (d : Connect.Detector) (c : Nat) (result : Option GoError) :
    sessionBound (d.answer c result) ≤ sessionBound d :=
  Nat.add_le_add_left (countP_isDialing_set d.callers c (.returned result) rfl) _

/-- Once `connected` is set, no caller gets into `zk.Connect`: each session opened from then
on is opened by a caller that was inside it already. -/
theorem step_sessionBound (stepped : d.step a = some (.ok next))
    (connected : d.zkc.connected = true) : sessionBound next ≤ sessionBound d := by
  cases a with
  | connect c =>
      simp only [Connect.Detector.step, connected] at stepped
      split at stepped <;> try contradiction
      split_ifs at stepped
      cases stepped
      exact sessionBound_answer d c none
  | dial c dialed =>
      simp only [Connect.Detector.step] at stepped
      split at stepped <;> cases stepped
      · exact sessionBound_answer d c _
      · have dropped := countP_isDialing_set_dialing (.waiting d.sessions.length) ‹_› rfl
        simp only [sessionBound, Connect.Detector.openSession_sessions,
          Connect.Detector.openSession_callers, List.length_append, List.length_singleton]
        omega
  | event i e =>
      simp only [Connect.Detector.step] at stepped
      split at stepped <;> try contradiction
      rename_i session _
      cases handled : handleSessionEvent d.zkc session.waitClosed e <;>
        simp only [handled, Except.map, Option.some.injEq, reduceCtorEq, Except.ok.injEq] at stepped
      subst stepped
      simp [sessionBound]
  | confirm c =>
      simp only [Connect.Detector.step] at stepped
      repeat' split at stepped
      all_goals first | contradiction | (cases stepped; exact sessionBound_answer d c _)
  | timeout c =>
      simp only [Connect.Detector.step] at stepped
      split at stepped <;> cases stepped
      exact sessionBound_answer d c _

end SessionBound

/-- Everything a panicking step of the whole client can be: a step of `connect` or of a
session loop, a `watchChildren` call, or a step of a chain. -/
theorem Client.step_error_cases {s : Client} {a : Action} {p : GoPanic}
    (panicked : s.step a = some (.error p)) :
    (∃ a', a = .connect a' ∧ s.detector.step a' = some (.error p)) ∨
    (∃ (path : GoString) (childrenW : Option GoError),
      s.detector.zkc.watchChildren (fun _ => childrenW) path = .error p) ∨
    (∃ (k : Nat) (path : GoString) (chain : Watch.Chain) (a' : Watch.Action),
      s.chains[k]? = some (path, chain) ∧
      chain.step s.detector.zkc path a' = some (.error p)) := by
  cases a with
  | register =>
      simp only [Client.step] at panicked
      split_ifs at panicked
      cases panicked
  | connect a => exact .inl ⟨a, rfl, map_exceptMap_eq_some_error.mp panicked⟩
  | watch path childrenW version =>
      simp only [Client.step] at panicked
      split at panicked <;> cases panicked
      exact .inr (.inl ⟨path, childrenW, ‹_›⟩)
  | chain k a =>
      simp only [Client.step] at panicked
      split at panicked <;> try contradiction
      split_ifs at panicked
      exact .inr (.inr ⟨k, _, _, a, ‹_›, map_exceptMap_eq_some_error.mp panicked⟩)

namespace Client

/-- What holds in every reachable state of the whole client: the `connect` part keeps
`Connect`'s invariant; every chain is a reachable chain of `Watch` on the current client;
the client is connected while a chain runs; and every re-arm of a chain passed its
connected check and called `ChildrenW`. -/
structure Invariant (s : Client) : Prop where
  detector : s.detector.Invariant
  chains : ∀ path chain, (path, chain) ∈ s.chains → Watch.Reachable s.detector.zkc path chain
  connected : s.chains ≠ [] → s.detector.zkc.connected = true
  reached : ∀ path chain, (path, chain) ∈ s.chains →
    RearmsReach (watchPath s.detector.zkc.rootPath path) chain.effects

variable {s : Client}

theorem Invariant.register (inv : s.Invariant) (idle : s.chains = [])
    (childrenWatcher errorWatcher : Bool) :
    (s.register childrenWatcher errorWatcher).Invariant where
  detector := ⟨inv.detector.conn, inv.detector.connected, inv.detector.waiting,
    inv.detector.closed, inv.detector.answered⟩
  chains _ _ member := by simp [idle] at member
  connected running := absurd idle (by simpa using running)
  reached _ _ member := by simp [idle] at member

theorem Invariant.connect {a : Connect.Action} {d : Connect.Detector} (inv : s.Invariant)
    (stepped : s.detector.step a = some (.ok d)) :
    ({ s with detector := d } : Client).Invariant where
  detector := inv.detector.step stepped
  chains path chain member := by
    have running := inv.connected (List.ne_nil_of_mem member)
    obtain ⟨conn, same⟩ := Connect.Detector.step_zkc_of_connected stepped running
    have still : conn ≠ none := by
      simpa [same] using (inv.detector.step stepped).conn_of_connected
        (Connect.Detector.step_keeps_connected stepped running)
    rw [same]
    exact (inv.chains path chain member).setConn still
  connected running := Connect.Detector.step_keeps_connected stepped (inv.connected running)
  reached path chain member := by
    obtain ⟨conn, connected, same⟩ := Connect.Detector.step_zkc stepped
    rw [same]
    exact inv.reached path chain member

theorem Invariant.startChain {path watching : GoString} {childrenW : Option GoError}
    {calls : List Effect} (inv : s.Invariant)
    (started : s.detector.zkc.watchChildren (fun _ => childrenW) path = .ok (calls, .ok watching))
    (version : Nat) : (s.startChain path calls version).Invariant where
  detector := inv.detector
  chains path' chain member := by
    rcases List.mem_append.mp member with old | fresh
    · exact inv.chains path' chain old
    · obtain ⟨rfl, rfl⟩ := Prod.mk.inj (List.mem_singleton.mp fresh)
      exact .start version started
  connected _ := (watchChildren_ok started).1
  reached path' chain member := by
    rcases List.mem_append.mp member with old | fresh
    · exact inv.reached path' chain old
    · obtain ⟨rfl, rfl⟩ := Prod.mk.inj (List.mem_singleton.mp fresh)
      rw [(watchChildren_ok started).2]
      exact .of_forall (by simp)

theorem Invariant.setChain {k : Nat} {path : GoString} {chain after : Watch.Chain}
    {a : Watch.Action} (inv : s.Invariant) (found : s.chains[k]? = some (path, chain))
    (passes : readsConnected s.detector.zkc.connected a = true)
    (stepped : chain.step s.detector.zkc path a = some (.ok after)) :
    (s.setChain k path after).Invariant := by
  have present := List.getElem?_mem found
  have connected := inv.connected (List.ne_nil_of_mem present)
  refine ⟨inv.detector, fun path' chain' member => ?_, fun _ => connected,
    fun path' chain' member => ?_⟩
  · rcases List.mem_or_eq_of_mem_set member with old | same
    · exact inv.chains path' chain' old
    · obtain ⟨rfl, rfl⟩ := Prod.mk.inj same
      exact (inv.chains _ _ present).step stepped
  · rcases List.mem_or_eq_of_mem_set member with old | same
    · exact inv.reached path' chain' old
    · obtain ⟨rfl, rfl⟩ := Prod.mk.inj same
      exact chainStep_rearmsReach stepped (connected ▸ passes) (inv.reached _ _ present)

theorem Invariant.step {next : Client} {a : Action} (inv : s.Invariant)
    (stepped : s.step a = some (.ok next)) : next.Invariant := by
  rcases step_cases stepped with ⟨childrenWatcher, errorWatcher, idle, rfl⟩ |
    ⟨a, d, moved, rfl⟩ | ⟨path, childrenW, calls, watching, version, started, rfl⟩ | rfl |
    ⟨k, path, chain, a, after, found, passes, moved, rfl⟩
  · exact inv.register idle childrenWatcher errorWatcher
  · exact inv.connect moved
  · exact inv.startChain started version
  · exact inv
  · exact inv.setChain found passes moved

/-- While a chain runs, a step keeps one running and opens no session beyond the bound. -/
theorem Invariant.step_sessionBound {next : Client} {a : Action} (inv : s.Invariant)
    (watching : s.chains ≠ []) (stepped : s.step a = some (.ok next)) :
    next.chains ≠ [] ∧ sessionBound next.detector ≤ sessionBound s.detector := by
  rcases step_cases stepped with ⟨-, -, idle, rfl⟩ | ⟨a, d, moved, rfl⟩ |
    ⟨-, -, -, -, -, -, rfl⟩ | rfl | ⟨-, -, -, -, -, -, -, -, rfl⟩
  · exact absurd idle watching
  · exact ⟨watching, System.step_sessionBound moved (inv.connected watching)⟩
  · exact ⟨by simp, le_rfl⟩
  · exact ⟨watching, le_rfl⟩
  · exact ⟨by simpa using watching, le_rfl⟩

end Client

theorem Reachable.invariant {s : Client} (reach : Reachable hosts root callers s) :
    s.Invariant := by
  induction reach with
  | init created =>
      exact ⟨(Connect.Reachable.init created : Connect.Reachable hosts root callers _).invariant,
        nofun, fun running => absurd rfl running, nofun⟩
  | step _ stepped ih => exact ih.step stepped

theorem Reachable.run {s next : Client} (reach : Reachable hosts root callers s)
    (actions : List Action) (ran : s.run actions = some next) :
    Reachable hosts root callers next := by
  induction actions generalizing s with
  | nil => cases ran; exact reach
  | cons a rest ih =>
      simp only [Client.run] at ran
      split at ran
      · exact ih (reach.step ‹_›) ran
      · contradiction

/-- Two goroutines call `connect`; the second passes the `connected` check before the first
one's session connects. The owner then registers both watchers and watches the root. -/
def watchingRun : List Action :=
  [.connect (.connect 0), .connect (.connect 1), .connect (.dial 0 none),
    .connect (.event 0 (sessionEvent .connected)), .connect (.confirm 0), .register true true,
    .watch (GoString.ofString ".") none 0]

/-- The state after `watchingRun`: a chain waits on the root while the second caller is
still inside `zk.Connect`. -/
def watchingClient : Client :=
  ⟨⟨{ testClient with childrenWatcher := true, errorWatcher := true }, [⟨true, [.connected]⟩],
      [.returned none, .dialing], []⟩,
    [(GoString.ofString ".", Watch.watchedStart)]⟩

/-- The error of a `ChildrenW` on a node that no longer exists. -/
def noNodeError : GoError := ⟨"zk: node does not exist"⟩

/-- The second caller's `zk.Connect` returns and replaces `zkc.conn` under the chain; the
children change twice, and the second re-arm's `ChildrenW` fails. -/
def stopRun : List Action :=
  [.connect (.dial 1 none), .chain 0 .change, .chain 0 (.move 0 .receive),
    .chain 0 (.move 0 .report), .chain 0 (.move 0 .dispatch), .chain 0 (.move 0 (.rearm true none)),
    .chain 0 .change, .chain 0 (.move 1 .receive), .chain 0 (.move 1 .report),
    .chain 0 (.move 1 .dispatch), .chain 0 (.move 1 (.rearm true (some noNodeError))),
    .chain 0 (.move 1 .finish)]

/-- The chain after `stopRun`: both goroutines done, the last after reporting the error. -/
def stoppedChain : Watch.Chain :=
  ⟨2, [.done, .done],
    [.childrenW testPath none, .received (Watch.childrenChangedEvent testPath),
      .childrenChanged testPath, .watchChildren (GoString.ofString "."),
      .childrenW testPath none, .received (Watch.childrenChangedEvent testPath),
      .childrenChanged testPath, .watchChildren (GoString.ofString "."),
      .childrenW testPath (some noNodeError), .errorOccured noNodeError], 2⟩

/-- The state after `stopRun`: two sessions, the client holding the second. -/
def stoppedClient : Client :=
  ⟨⟨{ testClient with conn := some 1, childrenWatcher := true, errorWatcher := true },
      [⟨true, [.connected]⟩, ⟨false, []⟩],
      [.returned none, .waiting 1], []⟩,
    [(GoString.ofString ".", stoppedChain)]⟩

theorem watchingClient_reachable : Reachable testHosts testPath 2 watchingClient :=
  (Reachable.init rfl).run watchingRun rfl

theorem stoppedClient_reachable : Reachable testHosts testPath 2 stoppedClient :=
  watchingClient_reachable.run stopRun rfl

/-- Every chain of the whole client is a reachable chain of `Watch` on the client as it is
now, though `connect` may have replaced the connection since the chain started. -/
theorem chains_refine_watch {s : Client} (reach : Reachable hosts root callers s) :
    ∀ path chain, (path, chain) ∈ s.chains → Watch.Reachable s.detector.zkc path chain :=
  reach.invariant.chains

theorem chains_refine_watch_stopped :
    Reachable testHosts testPath 2 stoppedClient ∧
    Watch.Reachable stoppedClient.detector.zkc (GoString.ofString ".") stoppedChain :=
  ⟨stoppedClient_reachable,
    chains_refine_watch stoppedClient_reachable _ _ (by simp [stoppedClient])⟩

/-- A chain runs only on a connected client, and each of its `watchChildren` calls went
straight on to the connector's `ChildrenW` on the watch path: no re-arm fails its
connected check. -/
theorem rearm_reaches_childrenW {s : Client} (reach : Reachable hosts root callers s)
    {path : GoString} {chain : Watch.Chain} (member : (path, chain) ∈ s.chains) :
    s.detector.zkc.connected = true ∧
      ∀ pre q post, chain.effects = pre ++ .watchChildren q :: post →
        ∃ answer, post.head? = some (.childrenW (watchPath s.detector.zkc.rootPath path) answer) := by
  have inv := reach.invariant
  refine ⟨inv.connected (List.ne_nil_of_mem member), fun pre q post split => ?_⟩
  have reached := inv.reached path chain member
  rw [split] at reached
  exact reached.next

theorem rearm_reaches_childrenW_stopped :
    Reachable testHosts testPath 2 stoppedClient ∧
    (GoString.ofString ".", stoppedChain) ∈ stoppedClient.chains ∧
    stoppedClient.detector.zkc.connected = true ∧
    ∀ pre q post, stoppedChain.effects = pre ++ .watchChildren q :: post →
      ∃ answer, post.head? = some (.childrenW (watchPath stoppedClient.detector.zkc.rootPath
        (GoString.ofString ".")) answer) :=
  have member : (GoString.ofString ".", stoppedChain) ∈ stoppedClient.chains := by
    simp [stoppedClient]
  ⟨stoppedClient_reachable, member, rearm_reaches_childrenW stoppedClient_reachable member⟩

/-- A chain of the whole client whose goroutines have all finished ended with a re-arm
whose `ChildrenW` call answered an error, and the report of that error to the error
watcher, if one is registered: the connected check never ends a chain. -/
theorem chain_ends_on_childrenW_failure {s : Client} (reach : Reachable hosts root callers s)
    {path : GoString} {chain : Watch.Chain} (member : (path, chain) ∈ s.chains)
    (finished : ∀ pc ∈ chain.goroutines, pc = .done) :
    ∃ pre err, chain.effects = pre ++
      [.watchChildren path, .childrenW (watchPath s.detector.zkc.rootPath path) (some err)] ++
      (if s.detector.zkc.errorWatcher then [.errorOccured err] else []) := by
  have inv := reach.invariant
  obtain ⟨n, pc, shaped, acc⟩ := (inv.chains path chain member).shaped
  obtain ⟨pre, calls, err, effects, connected, answer, attempt⟩ :=
    acc.stopped (finished pc (by simp [shaped]))
  rw [ZkClient.reportError_eq] at effects
  have reached := inv.reached path chain member
  rw [effects, List.append_assoc, List.cons_append] at reached
  obtain ⟨_, follows⟩ := reached.next
  rcases ZkClient.watchChildren_ok_iff.mp attempt with ⟨-, rfl, -⟩ | ⟨-, -, rfl, failed⟩
  · split_ifs at follows <;> simp at follows
  · cases answer with
    | none => cases failed
    | some answer =>
        cases failed
        exact ⟨pre, _, effects⟩

theorem chain_ends_on_childrenW_failure_stopped :
    Reachable testHosts testPath 2 stoppedClient ∧
    (GoString.ofString ".", stoppedChain) ∈ stoppedClient.chains ∧
    (∀ pc ∈ stoppedChain.goroutines, pc = .done) ∧
    ∃ pre err, stoppedChain.effects = pre ++
      [.watchChildren (GoString.ofString "."),
        .childrenW (watchPath stoppedClient.detector.zkc.rootPath (GoString.ofString "."))
          (some err)] ++
      (if stoppedClient.detector.zkc.errorWatcher then [.errorOccured err] else []) :=
  have member : (GoString.ofString ".", stoppedChain) ∈ stoppedClient.chains := by
    simp [stoppedClient]
  have finished : ∀ pc ∈ stoppedChain.goroutines, pc = .done := by simp [stoppedChain]
  ⟨stoppedClient_reachable, member, finished,
    chain_ends_on_childrenW_failure stoppedClient_reachable member finished⟩

/-- Once a chain runs, the client opens at most one more session for each `connect` caller
already inside `zk.Connect`, so `zkc.conn` changes under the chains at most that often. -/
theorem sessions_bounded_while_watching {s t : Client} (reach : Reachable hosts root callers s)
    (watching : s.chains ≠ []) (actions : List Action) (ran : s.run actions = some t) :
    t.detector.sessions.length ≤
      s.detector.sessions.length + s.detector.callers.countP isDialing := by
  suffices bounded : sessionBound t.detector ≤ sessionBound s.detector by
    unfold sessionBound at bounded
    omega
  induction actions generalizing s with
  | nil =>
      cases ran
      exact le_rfl
  | cons a rest ih =>
      simp only [Client.run] at ran
      split at ran
      · obtain ⟨still, bound⟩ := reach.invariant.step_sessionBound watching ‹_›
        exact (ih (reach.step ‹_›) still ran).trans bound
      · contradiction

/-- The bound is reached: the caller inside `zk.Connect` when the watch started opens the
client's second session under the chain. -/
theorem sessions_bounded_while_watching_reached :
    Reachable testHosts testPath 2 watchingClient ∧ watchingClient.chains ≠ [] ∧
    watchingClient.run stopRun = some stoppedClient ∧
    stoppedClient.detector.sessions.length ≤
      watchingClient.detector.sessions.length +
        watchingClient.detector.callers.countP isDialing ∧
    stoppedClient.detector.sessions.length =
      watchingClient.detector.sessions.length +
        watchingClient.detector.callers.countP isDialing :=
  ⟨watchingClient_reachable, nofun, rfl,
    sessions_bounded_while_watching watchingClient_reachable nofun stopRun rfl, rfl⟩

/-- Of all the goroutines around the client, only a session loop crashes the process: a
step panics exactly when a loop takes `StateConnected` on a session that already reported
it. No registration, `watchChildren` call or step of a watch chain panics: the nil
dereference of `zkc.conn` in `watchChildren` needs a client that passed its connected check
with no session held, and none is reachable. -/
theorem panics_only_on_connected_again {s : Client} (reach : Reachable hosts root callers s)
    (a : Action) (p : GoPanic) :
    s.step a = some (.error p) ↔ ∃ i e session, a = .connect (.event i e) ∧
      s.detector.sessions[i]? = some session ∧ e.state = .connected ∧
      .connected ∈ session.reported ∧ p = closeOfClosedChannel := by
  have inv := reach.invariant
  have closed := inv.detector.closed
  constructor
  · intro panicked
    rcases Client.step_error_cases panicked with ⟨_, rfl, looped⟩ | ⟨path, childrenW, attempt⟩ |
      ⟨k, path, chain, a, found, stepped⟩
    · obtain ⟨i, e, session, rfl, found, waitClosed, connected, rfl⟩ :=
        Connect.Detector.step_error_iff.mp looped
      exact ⟨i, e, session, rfl, found, connected,
        (closed session (List.getElem?_mem found)).mp waitClosed, rfl⟩
    · obtain ⟨connected, unheld, -⟩ := ZkClient.watchChildren_error_iff.mp attempt
      exact absurd unheld (inv.detector.conn_of_connected connected)
    · exact absurd stepped (Watch.Chain.step_ne_error
        (inv.chains path chain (List.getElem?_mem found)).conn path chain a p)
  · rintro ⟨i, e, session, rfl, found, connected, reported, rfl⟩
    have panicked := Connect.Detector.step_error_iff.mpr ⟨i, e, session, rfl, found,
      (closed session (List.getElem?_mem found)).mpr reported, connected, rfl⟩
    simp [Client.step, panicked, Except.map]

/-- A second `StateConnected` on the first session crashes the client while it watches. -/
theorem panics_only_on_connected_again_watching :
    Reachable testHosts testPath 2 watchingClient ∧
    watchingClient.step (.connect (.event 0 (sessionEvent .connected))) =
      some (.error closeOfClosedChannel) ∧
    (watchingClient.step (.connect (.event 0 (sessionEvent .connected))) =
        some (.error closeOfClosedChannel) ↔
      ∃ i e session, Action.connect (.event 0 (sessionEvent .connected)) =
          .connect (.event i e) ∧
        watchingClient.detector.sessions[i]? = some session ∧ e.state = .connected ∧
        .connected ∈ session.reported ∧ closeOfClosedChannel = closeOfClosedChannel) :=
  ⟨watchingClient_reachable, rfl, panics_only_on_connected_again watchingClient_reachable _ _⟩

end System

end ZkDetector
