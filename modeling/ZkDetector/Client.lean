import ZkDetector.Basic

/-! # The `zkClient` record and its synchronous methods

`newZkClient`, `disconnect`, `list`, `data` and the half of `watchChildren` that runs in
its caller. The connector held in `zkc.conn` is a go-zookeeper connection; its
`Children`, `Get` and `ChildrenW` answers are arguments of the methods that call it, so
each theorem holds for every answer the connector can give.
-/

namespace ZkDetector

open Zk

/-- The fields of `zkClient` that its methods read or write. `conn` is the number of the
session whose connection the client holds (`none` is Go's nil). A watcher field says
whether a watcher is registered: what the watcher does is its owner's code, seen here as
the calls the client makes to it. `stopCh` is read by no method and is left out. -/
structure ZkClient where
  conn : Option Nat
  hosts : List GoString
  connTimeout : Nat
  connected : Bool
  rootPath : GoString
  childrenWatcher : Bool
  errorWatcher : Bool
deriving DecidableEq, Repr

/-- `time.Second * 5` as a `time.Duration`, in nanoseconds. -/
def defaultConnTimeout : Nat := 5 * 1000000000

/-- `newZkClient`: no session, no watcher, the five-second connection timeout. -/
def newZkClient (hosts : List GoString) (path : GoString) : Except GoError ZkClient :=
  .ok { conn := none, hosts, connTimeout := defaultConnTimeout, connected := false,
        rootPath := path, childrenWatcher := false, errorWatcher := false }

/-- What the client's goroutines do that other code observes: calls of the registered
watchers, calls of the connector's `ChildrenW` with the error it answered (`none` for
nil), the watch goroutine's own `watchChildren` calls, and the events it takes from a
watch channel. -/
inductive Effect
  | errorOccured (err : GoError)
  | childrenChanged (path : GoString)
  | childrenW (path : GoString) (answer : Option GoError)
  | watchChildren (path : GoString)
  | received (event : Event)
deriving DecidableEq, Repr

/-- `if err != nil { ...; if zkc.errorWatcher != nil { zkc.errorWatcher.errorOccured(zkc, err) } }`,
the report shared by the session loop and the watch goroutine. -/
def ZkClient.reportError (zkc : ZkClient) : Option GoError → List Effect
  | some err => if zkc.errorWatcher then [.errorOccured err] else []
  | none => []

/-- `if !zkc.connected { return ..., errors.New(message) }`, the check that opens
`watchChildren`, `list` and `data`, each with its own message; `fail` builds what the
method returns with the error. -/
def ZkClient.ifConnected {β : Type} (zkc : ZkClient) (fail : GoError → β) (message : String)
    (proceed : β) : β :=
  if zkc.connected then proceed else fail ⟨message⟩

/-- `disconnect`: the client unchanged, and a nil error. -/
def ZkClient.disconnect (zkc : ZkClient) : ZkClient × Option GoError := (zkc, none)

/-- The path `watchChildren` watches: the root path, extended by `path` unless `path`
is `""` or `"."`. -/
def watchPath (rootPath path : GoString) : GoString :=
  if path != [] && path != GoString.ofString "." then rootPath ++ path else rootPath

/-- The part of `watchChildren` that runs in its caller: the connected check, then the
connector's `ChildrenW` on the watch path through `zkc.conn`, which panics when `zkc.conn`
is nil, and whose error `childrenW` gives. It returns the connector calls it made and its
result; on `.ok` the watch on the returned path is armed and a goroutine waits on it. -/
def ZkClient.watchChildren (zkc : ZkClient) (childrenW : GoString → Option GoError)
    (path : GoString) : Except GoPanic (List Effect × Except GoError GoString) :=
  zkc.ifConnected (fun err => .ok ([], .error err)) "Not connected to server." <|
    match zkc.conn with
    | none => .error nilDereference
    | some _ =>
        .ok ([.childrenW (watchPath zkc.rootPath path) (childrenW (watchPath zkc.rootPath path))],
          match childrenW (watchPath zkc.rootPath path) with
          | some err => .error err
          | none => .ok (watchPath zkc.rootPath path))

/-- `sort.Strings`: the names in increasing byte-wise order. Go sorts in place with an
unstable algorithm, but under a linear order the sorted permutation is unique
(`sortStrings_unique`), so insertion sort yields the same slice. -/
def sortStrings (names : List GoString) : List GoString :=
  names.insertionSort (· ≤ ·)

/-- `list`: the children that the connector's `Children` returns for `path`, sorted. The
call goes through `zkc.conn`, which every reachable client holds once `connected` is set
(`Connect.Detector.Invariant.conn_of_connected`), so its nil dereference is left out. -/
def ZkClient.list (zkc : ZkClient) (children : GoString → Except GoError (List GoString))
    (path : GoString) : Except GoError (List GoString) :=
  zkc.ifConnected .error "Unable to list children, client not connected." <|
    match children path with
    | .error err => .error err
    | .ok names => .ok (sortStrings names)

/-- `data`: the bytes that the connector's `Get` returns for `path`, through `zkc.conn` as
in `list`. -/
def ZkClient.data (zkc : ZkClient) (get : GoString → Except GoError (List UInt8))
    (path : GoString) : Except GoError (List UInt8) :=
  zkc.ifConnected .error "Unable to retrieve node data, client not connected." <|
    match get path with
    | .error err => .error err
    | .ok bytes => .ok bytes

/-- `test_zk_hosts` of the package's tests. -/
def testHosts : List GoString := [GoString.ofString "localhost:2181"]

/-- `test_zk_path` of the package's tests. -/
def testPath : GoString := GoString.ofString "/test"

/-- What `newZkClient testHosts testPath` returns. -/
def newTestClient : ZkClient :=
  { conn := none, hosts := testHosts, connTimeout := defaultConnTimeout, connected := false,
    rootPath := testPath, childrenWatcher := false, errorWatcher := false }

/-- The client of the package's tests, connected. -/
def testClient : ZkClient :=
  { conn := some 0, hosts := testHosts, connTimeout := defaultConnTimeout, connected := true,
    rootPath := testPath, childrenWatcher := false, errorWatcher := false }

section Guard

variable {β : Type} {zkc : ZkClient} {fail : GoError → β} {message : String} {proceed : β}

@[simp] theorem ZkClient.ifConnected_of_connected (connected : zkc.connected = true) :
    zkc.ifConnected fail message proceed = proceed := by
  simp [ZkClient.ifConnected, connected]

@[simp] theorem ZkClient.ifConnected_of_not_connected (disconnected : zkc.connected = false) :
    zkc.ifConnected fail message proceed = fail ⟨message⟩ := by
  simp [ZkClient.ifConnected, disconnected]

end Guard

/-- A report to the error watcher, spelled out. -/
theorem ZkClient.reportError_eq (zkc : ZkClient) (err : Option GoError) :
    zkc.reportError err = if zkc.errorWatcher then err.toList.map .errorOccured else [] := by
  cases err <;> simp [ZkClient.reportError]

section WatchChildren

variable {zkc : ZkClient} {childrenW : GoString → Option GoError} {path : GoString}

/-- `watchChildren` panics exactly when the check passes with no connection held. -/
theorem ZkClient.watchChildren_error_iff {p : GoPanic} :
    zkc.watchChildren childrenW path = .error p ↔
      zkc.connected = true ∧ zkc.conn = none ∧ p = nilDereference := by
  unfold ZkClient.watchChildren ZkClient.ifConnected
  cases zkc.connected <;> cases zkc.conn <;> simp [eq_comm]

/-- A `watchChildren` that returns: the failed check, which calls nothing, or one
`ChildrenW` on the watch path, whose answer is the call's result. -/
theorem ZkClient.watchChildren_ok_iff {calls : List Effect} {result : Except GoError GoString} :
    zkc.watchChildren childrenW path = .ok (calls, result) ↔
      (zkc.connected = false ∧ calls = [] ∧ result = .error ⟨"Not connected to server."⟩) ∨
      (zkc.connected = true ∧ zkc.conn ≠ none ∧
        calls = [.childrenW (watchPath zkc.rootPath path) (childrenW (watchPath zkc.rootPath path))] ∧
        result = match childrenW (watchPath zkc.rootPath path) with
          | some err => .error err
          | none => .ok (watchPath zkc.rootPath path)) := by
  unfold ZkClient.watchChildren ZkClient.ifConnected
  cases zkc.connected <;> cases zkc.conn <;> simp [eq_comm, and_comm]

/-- The connection `watchChildren` goes through matters only for being nil. -/
theorem ZkClient.watchChildren_setConn {conn : Option Nat} (held : zkc.conn ≠ none)
    (still : conn ≠ none) : ({ zkc with conn } : ZkClient).watchChildren = zkc.watchChildren := by
  obtain ⟨i, rfl⟩ := Option.ne_none_iff_exists'.mp still
  obtain ⟨j, same⟩ := Option.ne_none_iff_exists'.mp held
  funext childrenW path
  simp only [ZkClient.watchChildren, ZkClient.ifConnected, same]

end WatchChildren

/-- A new client fails every guarded method with that method's own message. -/
theorem newZkClient_not_connected {hosts : List GoString} {path : GoString} {zkc : ZkClient}
    (created : newZkClient hosts path = .ok zkc) :
    zkc.conn = none ∧ zkc.rootPath = path ∧
      (∀ children path, zkc.list children path =
        .error ⟨"Unable to list children, client not connected."⟩) ∧
      (∀ get path, zkc.data get path =
        .error ⟨"Unable to retrieve node data, client not connected."⟩) ∧
      ∀ childrenW path,
        zkc.watchChildren childrenW path = .ok ([], .error ⟨"Not connected to server."⟩) := by
  cases created
  exact ⟨rfl, rfl, fun _ _ => rfl, fun _ _ => rfl, fun _ _ => rfl⟩

theorem sortStrings_perm (names : List GoString) : (sortStrings names).Perm names :=
  List.perm_insertionSort _ names

theorem sortStrings_sorted (names : List GoString) :
    (sortStrings names).Sorted (· ≤ ·) :=
  List.sorted_insertionSort _ names

/-- Any sorted permutation of the names is the slice `sort.Strings` produces. -/
theorem sortStrings_unique {names sorted : List GoString} (permuted : sorted.Perm names)
    (ordered : sorted.Sorted (· ≤ ·)) : sorted = sortStrings names :=
  List.eq_of_perm_of_sorted (permuted.trans (sortStrings_perm names).symm) ordered
    (sortStrings_sorted names)

end ZkDetector
