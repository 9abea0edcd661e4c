import ZkDetector.Session

/-! # `connect` and the sessions it opens

The client, the goroutines that call `connect`, and the loop goroutine of every session
that `zk.Connect` opened, as one transition system. A `connect` call takes three steps:
the `connected` check, the return of `zk.Connect` up to the `select`, then the
`select`'s outcome, the closed `waitConnCh` or the timer. Between and after them the loops
handle their sessions' events in any order. Go's `select` picks at random among ready
cases, so both outcomes are enabled once the channel is closed. The result of `zk.Connect`
and the events are the environment's choice.
-/

namespace ZkDetector.Connect

open Zk

/-- A session that `zk.Connect` opened for the client: whether `waitConnCh` of the
`connect` call that opened it is closed, and the states its loop has handled, oldest
first. Nothing in the client closes a session, so every session stays open and its loop
keeps running. -/
structure Session where
  waitClosed : Bool
  reported : List State
deriving DecidableEq, Repr

/-- Where a goroutine that calls `connect` is: outside it; in `zk.Connect`, past the
`connected` check; in the `select`, on `waitConnCh` of `session` and on the timer; or
back from `connect` with `result` (`none` is a nil error). -/
inductive Caller
  | idle
  | dialing
  | waiting (session : Nat)
  | returned (result : Option GoError)
deriving DecidableEq, Repr

/-- A caller outside `connect`. -/
def Caller.free : Caller → Bool
  | .dialing | .waiting _ => false
  | .idle | .returned _ => true

/-- The client with the goroutines around it: every session `zk.Connect` opened, numbered
in order, the callers of `connect`, and the loops' calls of the error watcher, in order. -/
structure Detector where
  zkc : ZkClient
  sessions : List Session
  callers : List Caller
  effects : List Effect
deriving DecidableEq, Repr

/-- What can happen next: caller `caller` calls `connect`, which checks `connected`;
`zk.Connect` returns to `caller` with error `dialed`; the loop of `session` takes `e` from
the session's channel; the `select` of `caller` takes the closed `waitConnCh`; or the timer
of `caller`'s `select` fires. -/
inductive Action
  | connect (caller : Nat)
  | dial (caller : Nat) (dialed : Option GoError)
  | event (session : Nat) (e : Event)
  | confirm (caller : Nat)
  | timeout (caller : Nat)
deriving DecidableEq, Repr

/-- `connect`'s error when `waitConnCh` closed but `connected` is false. -/
def unconfirmedError : GoError := ⟨"Unabe to confirm connected state."⟩

/-- `fmt.Errorf("Unable to confirm connection after %v.", time.Second*5)`. -/
def timeoutError : GoError := ⟨"Unable to confirm connection after 5s."⟩

namespace Detector

/-- A client from `newZkClient`, no session yet, `callers` goroutines outside `connect`. -/
def init (zkc : ZkClient) (callers : Nat) : Detector :=
  ⟨zkc, [], List.replicate callers .idle, []⟩

/-- Caller `c` returns from `connect` with `result`. -/
def answer (d : Detector) (c : Nat) (result : Option GoError) : Detector :=
  { d with callers := d.callers.set c (.returned result) }

/-- Caller `c` found `connected` false and calls `zk.Connect`. -/
def startConnect (d : Detector) (c : Nat) : Detector :=
  { d with callers := d.callers.set c .dialing }

/-- `zk.Connect` succeeded for caller `c`: `zkc.conn = conn`, the new session's loop
starts with `waitConnCh` open, and the caller waits in the `select`. -/
def openSession (d : Detector) (c : Nat) : Detector :=
  { d with zkc := { d.zkc with conn := some d.sessions.length },
           sessions := d.sessions ++ [⟨false, []⟩],
           callers := d.callers.set c (.waiting d.sessions.length) }

/-- The loop of session `i` handled an event of `state`, leaving the client, the state
of `waitConnCh` and the error watcher's calls in `handled`. -/
def record (d : Detector) (i : Nat) (session : Session) (state : State)
    (handled : ZkClient × Bool × List Effect) : Detector :=
  { d with zkc := handled.1,
           sessions := d.sessions.set i ⟨handled.2.1, session.reported ++ [state]⟩,
           effects := d.effects ++ handled.2.2 }

/-- One step: `none` if the action is not enabled, `.error` if a loop panicked. -/
def step (d : Detector) : Action → Option (Except GoPanic Detector)
  | .connect c =>
      match d.callers[c]? with
      | some caller =>
          if !caller.free then none
          else if d.zkc.connected then some (.ok (d.answer c none))
          else some (.ok (d.startConnect c))
      | none => none
  | .dial c dialed =>
      match d.callers[c]?, dialed with
      | some .dialing, some err => some (.ok (d.answer c (some err)))
      | some .dialing, none => some (.ok (d.openSession c))
      | _, _ => none
  | .event i e =>
      match d.sessions[i]? with
      | some session =>
          some ((handleSessionEvent d.zkc session.waitClosed e).map (d.record i session e.state))
      | none => none
  | .confirm c =>
      match d.callers[c]? with
      | some (.waiting i) =>
          match d.sessions[i]? with
          | some session =>
              if session.waitClosed then
                some (.ok (d.answer c (if d.zkc.connected then none else some unconfirmedError)))
              else none
          | none => none
      | _ => none
  | .timeout c =>
      match d.callers[c]? with
      | some (.waiting _) => some (.ok (d.answer c (some timeoutError)))
      | _ => none

/-- Runs the actions in order; `none` if one is not enabled or a loop panics. -/
def run (d : Detector) : List Action → Option Detector
  | [] => some d
  | a :: rest =>
      match d.step a with
      | some (.ok next) => next.run rest
      | _ => none

section Fields

variable {d : Detector} {c i : Nat} {result : Option GoError} {session : Session}
  {state : State} {handled : ZkClient × Bool × List Effect}

@[simp] theorem answer_zkc : (d.answer c result).zkc = d.zkc := rfl
@[simp] theorem answer_sessions : (d.answer c result).sessions = d.sessions := rfl
@[simp] theorem answer_callers :
    (d.answer c result).callers = d.callers.set c (.returned result) := rfl
@[simp] theorem startConnect_zkc : (d.startConnect c).zkc = d.zkc := rfl
@[simp] theorem startConnect_sessions : (d.startConnect c).sessions = d.sessions := rfl
@[simp] theorem startConnect_callers : (d.startConnect c).callers = d.callers.set c .dialing :=
  rfl
@[simp] theorem openSession_zkc :
    (d.openSession c).zkc = { d.zkc with conn := some d.sessions.length } := rfl
@[simp] theorem openSession_sessions :
    (d.openSession c).sessions = d.sessions ++ [⟨false, []⟩] := rfl
@[simp] theorem openSession_callers :
    (d.openSession c).callers = d.callers.set c (.waiting d.sessions.length) := rfl
@[simp] theorem record_zkc : (d.record i session state handled).zkc = handled.1 := rfl
@[simp] theorem record_sessions : (d.record i session state handled).sessions =
    d.sessions.set i ⟨handled.2.1, session.reported ++ [state]⟩ := rfl
@[simp] theorem record_callers : (d.record i session state handled).callers = d.callers := rfl

end Fields

/-- Everything a step can do: a caller returns from `connect`, with nil only while
`connected` is set; a caller passes the `connected` check; `zk.Connect` opens a session
for a caller; or a loop handles an event without panicking. -/
theorem step_cases {d next : Detector} {a : Action} (stepped : d.step a = some (.ok next)) :
    (∃ c result, (result = none → d.zkc.connected = true) ∧ next = d.answer c result) ∨
    (∃ c, next = d.startConnect c) ∨
    (∃ c, next = d.openSession c) ∨
    (∃ i session e handled, d.sessions[i]? = some session ∧
      handleSessionEvent d.zkc session.waitClosed e = .ok handled ∧
      next = d.record i session e.state handled) := by
  cases a with
  | connect c =>
      simp only [step] at stepped
      split at stepped <;> try contradiction
      split_ifs at stepped with busy connected <;> cases stepped
      · exact .inl ⟨c, none, fun _ => connected, rfl⟩
      · exact .inr (.inl ⟨c, rfl⟩)
  | dial c dialed =>
      simp only [step] at stepped
      split at stepped <;> cases stepped
      · exact .inl ⟨c, _, fun dialed => (by cases dialed), rfl⟩
      · exact .inr (.inr (.inl ⟨c, rfl⟩))
  | event i e =>
      simp only [step] at stepped
      split at stepped <;> try contradiction
      rename_i session found
      cases handled : handleSessionEvent d.zkc session.waitClosed e <;>
        simp only [handled, Except.map, Option.some.injEq, reduceCtorEq, Except.ok.injEq] at stepped
      exact .inr (.inr (.inr ⟨i, session, e, _, found, handled, stepped.symm⟩))
  | confirm c =>
      simp only [step] at stepped
      split at stepped <;> try contradiction
      split at stepped <;> try contradiction
      split_ifs at stepped with _ connected <;> cases stepped
      · exact .inl ⟨c, _, fun _ => connected, rfl⟩
      · exact .inl ⟨c, some unconfirmedError, nofun, rfl⟩
  | timeout c =>
      simp only [step] at stepped
      split at stepped <;> cases stepped
      exact .inl ⟨c, some timeoutError, nofun, rfl⟩

end Detector

/-- The states reachable from a client that `newZkClient hosts path` made, with `callers`
goroutines calling `connect`. -/
inductive Reachable (hosts : List GoString) (path : GoString) (callers : Nat) :
    Detector → Prop
  | init {zkc : ZkClient} : newZkClient hosts path = .ok zkc →
      Reachable hosts path callers (Detector.init zkc callers)
  | step {d next : Detector} {a : Action} : Reachable hosts path callers d →
      d.step a = some (.ok next) → Reachable hosts path callers next

end ZkDetector.Connect
