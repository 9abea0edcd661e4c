import ZkDetector.ConnectRuns
import ZkDetector.WatchRuns

/-! # The whole client

One `zkClient` shared by everything that runs on it: the goroutines that call `connect`,
the event loop of every session, and every watch chain that a successful `watchChildren`
started. The components are the two models of `Connect` and `Watch`, now reading the same
client: a chain's re-arm checks the client's own `connected`, which the session loops set,
and its `ChildrenW` goes through the connection that `connect` left in `zkc.conn`.

The owner registers its watchers before it starts the first watch, as the package's tests
do; assigning them later, while a chain's goroutine reads them, would be a data race. A
change of the children on the server is a `.change` of each chain that watches them, one
chain at a time: chains share nothing but the client, so each sees what it would see.
-/

namespace ZkDetector.System

open Zk

/-- The client with its `connect` callers and session loops, and the watch chains, each
with the path its `watchChildren` was called with. -/
structure Client where
  detector : Connect.Detector
  chains : List (GoString × Watch.Chain)
deriving DecidableEq, Repr

/-- What can happen next: the owner registers its children and error watchers; a
`connect` caller or a session loop steps; a goroutine calls `watchChildren(path)`, where
`childrenW` is the error the connector's `ChildrenW` returns and `version` the version of
the children it reads; or chain `k` takes `a`. -/
inductive Action
  | register (childrenWatcher errorWatcher : Bool)
  | connect (a : Connect.Action)
  | watch (path : GoString) (childrenW : Option GoError) (version : Nat)
  | chain (k : Nat) (a : Watch.Action)
deriving DecidableEq, Repr

/-- The connected check in `a` reads `connected`: a re-arm sees the client's own flag. -/
def readsConnected (connected : Bool) : Watch.Action → Bool
  | .move _ (.rearm checked _) => checked == connected
  | _ => true

namespace Client

/-- A client from `newZkClient`, `callers` goroutines outside `connect`, no chain. -/
def init (zkc : ZkClient) (callers : Nat) : Client :=
  ⟨Connect.Detector.init zkc callers, []⟩

/-- The owner sets the client's watcher fields. -/
def register (s : Client) (childrenWatcher errorWatcher : Bool) : Client :=
  { s with detector :=
      { s.detector with zkc := { s.detector.zkc with childrenWatcher, errorWatcher } } }

/-- `watchChildren(path)` succeeded with `calls`: its goroutine waits on the watch it armed
at `version`. -/
def startChain (s : Client) (path : GoString) (calls : List Effect) (version : Nat) : Client :=
  { s with chains := s.chains ++ [(path, ⟨version, [.waiting version none], calls, version⟩)] }

/-- Chain `k`, watching for `path`, is now `chain`. -/
def setChain (s : Client) (k : Nat) (path : GoString) (chain : Watch.Chain) : Client :=
  { s with chains := s.chains.set k (path, chain) }

/-- One step: `none` if the action is not enabled, `.error` if a goroutine panicked. -/
def step (s : Client) : Action → Option (Except GoPanic Client)
  | .register childrenWatcher errorWatcher =>
      if s.chains.isEmpty then some (.ok (s.register childrenWatcher errorWatcher)) else none
  | .connect a => (s.detector.step a).map (·.map fun d => { s with detector := d })
  | .watch path childrenW version =>
      match s.detector.zkc.watchChildren (fun _ => childrenW) path with
      | .ok (calls, .ok _) => some (.ok (s.startChain path calls version))
      | .ok (_, .error _) => some (.ok s)
      | .error p => some (.error p)
  | .chain k a =>
      match s.chains[k]? with
      | some (path, chain) =>
          if readsConnected s.detector.zkc.connected a then
            (chain.step s.detector.zkc path a).map (·.map fun next => s.setChain k path next)
          else none
      | none => none

/-- Runs the actions in order; `none` if one is not enabled or a goroutine panics. -/
def run (s : Client) : List Action → Option Client
  | [] => some s
  | a :: rest =>
      match s.step a with
      | some (.ok next) => next.run rest
      | _ => none

section Fields

variable {s : Client} {childrenWatcher errorWatcher : Bool} {path : GoString}
  {calls : List Effect} {version k : Nat} {chain : Watch.Chain}

@[simp] theorem register_chains : (s.register childrenWatcher errorWatcher).chains = s.chains :=
  rfl
@[simp] theorem startChain_detector : (s.startChain path calls version).detector = s.detector :=
  rfl
@[simp] theorem startChain_chains : (s.startChain path calls version).chains =
    s.chains ++ [(path, ⟨version, [.waiting version none], calls, version⟩)] := rfl
@[simp] theorem setChain_detector : (s.setChain k path chain).detector = s.detector := rfl
@[simp] theorem setChain_chains :
    (s.setChain k path chain).chains = s.chains.set k (path, chain) := rfl

end Fields

/-- Everything a step can do: the owner registers watchers while no chain runs; a
`connect` caller or a session loop steps without panicking; `watchChildren` starts a chain
or fails and changes nothing; or a chain steps, its re-arm reading the client's own
`connected`. -/
theorem step_cases {s next : Client} {a : Action} (stepped : s.step a = some (.ok next)) :
    (∃ childrenWatcher errorWatcher, s.chains = [] ∧
      next = s.register childrenWatcher errorWatcher) ∨
    (∃ a d, s.detector.step a = some (.ok d) ∧ next = { s with detector := d }) ∨
    (∃ path childrenW calls watching version,
      s.detector.zkc.watchChildren (fun _ => childrenW) path = .ok (calls, .ok watching) ∧
      next = s.startChain path calls version) ∨
    next = s ∨
    (∃ k path chain a after, s.chains[k]? = some (path, chain) ∧
      readsConnected s.detector.zkc.connected a = true ∧
      chain.step s.detector.zkc path a = some (.ok after) ∧ next = s.setChain k path after) := by
  cases a with
  | register childrenWatcher errorWatcher =>
      simp only [step] at stepped
      split_ifs at stepped with idle
      cases stepped
      exact .inl ⟨childrenWatcher, errorWatcher, List.isEmpty_iff.mp idle, rfl⟩
  | connect a =>
      obtain ⟨d, stepped', rfl⟩ := map_exceptMap_eq_some_ok.mp stepped
      exact .inr (.inl ⟨a, d, stepped', rfl⟩)
  | watch path childrenW version =>
      simp only [step] at stepped
      split at stepped <;> cases stepped
      · exact .inr (.inr (.inl ⟨path, childrenW, _, _, version, ‹_›, rfl⟩))
      · exact .inr (.inr (.inr (.inl rfl)))
  | chain k a =>
      simp only [step] at stepped
      split at stepped <;> try contradiction
      rename_i path chain found
      split_ifs at stepped with reads
      obtain ⟨after, stepped', rfl⟩ := map_exceptMap_eq_some_ok.mp stepped
      exact .inr (.inr (.inr (.inr ⟨k, path, chain, a, after, found, reads, stepped', rfl⟩)))

end Client

/-- The states reachable from a client that `newZkClient hosts root` made, with `callers`
goroutines calling `connect`. -/
inductive Reachable (hosts : List GoString) (root : GoString) (callers : Nat) : Client → Prop
  | init {zkc : ZkClient} : newZkClient hosts root = .ok zkc →
      Reachable hosts root callers (Client.init zkc callers)
  | step {s next : Client} {a : Action} : Reachable hosts root callers s →
      s.step a = some (.ok next) → Reachable hosts root callers next

/-- A call of the connector's `ChildrenW` on `watching`, whatever it answered. -/
@[simp] def Effect.isChildrenWOn (watching : GoString) : Effect → Bool
  | .childrenW path _ => path == watching
  | .errorOccured _ | .childrenChanged _ | .watchChildren _ | .received _ => false

theorem Effect.isChildrenWOn_iff {watching : GoString} {x : Effect} :
    Effect.isChildrenWOn watching x = true ↔ ∃ answer, x = .childrenW watching answer := by
  cases x <;> simp

/-- Every `watchChildren` call in `effects` went straight on to the connector's `ChildrenW`
on `watching`: none stopped at the connected check, and none is the last call. -/
def RearmsReach (watching : GoString) (effects : List Effect) : Prop :=
  effects.Chain' (fun x y => Watch.Effect.isWatchChildren x = true →
      Effect.isChildrenWOn watching y = true) ∧
    ∀ x ∈ effects.getLast?, Watch.Effect.isWatchChildren x = false

instance (watching : GoString) (effects : List Effect) :
    Decidable (RearmsReach watching effects) := by
  unfold RearmsReach
  infer_instance

/-- A `connect` caller past its `connected` check, inside `zk.Connect`. -/
@[simp] def isDialing : Connect.Caller → Bool
  | .dialing => true
  | .idle | .waiting _ | .returned _ => false

/-- The sessions opened so far, and one more for each caller inside `zk.Connect`: the most
sessions the detector can have opened without another `connect` passing its check. -/
def sessionBound (d : Connect.Detector) : Nat :=
  d.sessions.length + d.callers.countP isDialing

end ZkDetector.System
