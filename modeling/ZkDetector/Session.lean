import ZkDetector.Client

/-! # The session-event loop

`connect` starts one goroutine per session that handles every event of the session's
channel: it reports the event's error, sets `connected` on `StateConnected` and
`StateSyncConnected`, and closes `waitConnCh`, the channel `connect` waits on, at each
`StateConnected`. Closing a closed channel is a run-time panic, which ends the process:
`sessionLoop_eq` says the loop panics exactly when a second `StateConnected` arrives.
-/

namespace ZkDetector

open Zk

/-- The states on which the loop sets `connected`. -/
def Zk.State.setsConnected : State → Bool
  | .connected | .syncConnected => true
  | _ => false

/-- A session event as go-zookeeper delivers it: type `EventSession`, no path. -/
def sessionEvent (state : State) : Event := ⟨.other (-1), state, [], none⟩

/-- One pass of the loop's body on event `e`: the error report, then the switch on
`e.State`. `waitClosed` says whether `waitConnCh` is closed already. A panic ends the
process, and its outcome keeps no state: the report and the write of `connected` that run
before the second `close` are not kept. -/
def handleSessionEvent (zkc : ZkClient) (waitClosed : Bool) (e : Event) :
    Except GoPanic (ZkClient × Bool × List Effect) :=
  let reported := zkc.reportError e.err
  match e.state with
  | .connected =>
      if waitClosed then .error closeOfClosedChannel
      else .ok ({ zkc with connected := true }, true, reported)
  | .syncConnected => .ok ({ zkc with connected := true }, waitClosed, reported)
  | .disconnected => .ok (zkc.disconnect.1, waitClosed, reported)
  | _ => .ok (zkc, waitClosed, reported)

/-- The loop on a finite sequence of events: the client, whether `waitConnCh` is closed
and the calls made to the error watcher, or the panic that ended the process. -/
def sessionLoop (zkc : ZkClient) (waitClosed : Bool) :
    List Event → Except GoPanic (ZkClient × Bool × List Effect)
  | [] => .ok (zkc, waitClosed, [])
  | e :: rest => do
      let (zkc, closed, calls) ← handleSessionEvent zkc waitClosed e
      let (zkc, closed, more) ← sessionLoop zkc closed rest
      return (zkc, closed, calls ++ more)

/-- The number of `StateConnected` events in a sequence. -/
def connectedCount (events : List Event) : Nat :=
  events.countP (fun e => e.state == .connected)

@[simp] theorem ZkClient.reportError_setConnected (zkc : ZkClient) (connected : Bool) :
    ({ zkc with connected } : ZkClient).reportError = zkc.reportError := rfl

@[simp] theorem connectedCount_nil : connectedCount [] = 0 := rfl

@[simp] theorem connectedCount_cons (e : Event) (rest : List Event) :
    connectedCount (e :: rest) = connectedCount rest + (if e.state = .connected then 1 else 0) := by
  simp [connectedCount, List.countP_cons]

/-- One pass in closed form. -/
theorem handleSessionEvent_eq (zkc : ZkClient) (waitClosed : Bool) (e : Event) :
    handleSessionEvent zkc waitClosed e =
      if waitClosed ∧ e.state = .connected then .error closeOfClosedChannel
      else .ok ({ zkc with connected := zkc.connected || e.state.setsConnected },
        waitClosed || e.state == .connected, zkc.reportError e.err) := by
  cases state : e.state <;> cases waitClosed <;>
    simp [handleSessionEvent, ZkClient.disconnect, State.setsConnected, state]

/-- What a pass that does not panic leaves: `connected` set on a connected state,
`waitConnCh` closed on `StateConnected`, and the error report. -/
theorem handleSessionEvent_ok {zkc : ZkClient} {waitClosed : Bool} {e : Event}
    {handled : ZkClient × Bool × List Effect}
    (passed : handleSessionEvent zkc waitClosed e = .ok handled) :
    handled.1 = { zkc with connected := zkc.connected || e.state.setsConnected } ∧
      handled.2.1 = (waitClosed || e.state == .connected) ∧
      handled.2.2 = zkc.reportError e.err := by
  rw [handleSessionEvent_eq] at passed
  split_ifs at passed
  cases passed
  exact ⟨rfl, rfl, rfl⟩

/-- The whole loop: it panics exactly when `StateConnected` arrives with `waitConnCh`
closed, and otherwise sets `connected` if any event was `StateConnected` or
`StateSyncConnected`. -/
theorem sessionLoop_eq (zkc : ZkClient) (waitClosed : Bool) (events : List Event) :
    sessionLoop zkc waitClosed events =
      if 2 ≤ waitClosed.toNat + connectedCount events then .error closeOfClosedChannel
      else .ok ({ zkc with connected := zkc.connected || events.any (·.state.setsConnected) },
        waitClosed || decide (0 < connectedCount events),
        events.flatMap (fun e => zkc.reportError e.err)) := by
  induction events generalizing zkc waitClosed with
  | nil => cases waitClosed <;> simp [sessionLoop]
  | cons e rest ih =>
      rw [sessionLoop, handleSessionEvent_eq]
      by_cases panics : waitClosed ∧ e.state = .connected
      · obtain ⟨rfl, connected⟩ := panics
        simp [connected, bind, Except.bind]
        rw [if_pos (by omega)]
      · have count : (waitClosed || e.state == .connected).toNat + connectedCount rest =
            waitClosed.toNat + connectedCount (e :: rest) := by
          rw [connectedCount_cons]
          by_cases connected : e.state = .connected
          · obtain rfl : waitClosed = false := by simpa [connected] using panics
            simp [connected, Nat.add_comm]
          · simp [connected, beq_eq_false_iff_ne.mpr connected]
        rw [if_neg panics]
        simp only [bind, Except.bind, ih, count]
        split_ifs
        · rfl
        · by_cases connected : e.state = .connected
          · simp [connected, pure, Except.pure, Bool.or_assoc]
          · simp [connected, beq_eq_false_iff_ne.mpr connected, pure, Except.pure, Bool.or_assoc]

/-- The loop that `connect` starts, with `waitConnCh` open, panics exactly on a sequence
with two `StateConnected` events. On every other sequence it handles every event: it sets
`connected` if some event was `StateConnected` or `StateSyncConnected`, closes `waitConnCh`
on the `StateConnected`, and reports each event's error. -/
theorem sessionLoop_panics_iff (zkc : ZkClient) (events : List Event) :
    (sessionLoop zkc false events = .error closeOfClosedChannel ↔ 2 ≤ connectedCount events) ∧
    (connectedCount events < 2 →
      sessionLoop zkc false events =
        .ok ({ zkc with connected := zkc.connected || events.any (·.state.setsConnected) },
          decide (0 < connectedCount events), events.flatMap (fun e => zkc.reportError e.err))) := by
  rw [sessionLoop_eq]
  refine ⟨by split_ifs with twice <;> simp_all, fun once => ?_⟩
  rw [if_neg (by simpa using once)]
  simp

/-- A session that drops and comes back, reporting `StateConnected` a second time. -/
def reconnectEvents : List Event :=
  [sessionEvent .connected, sessionEvent .disconnected, sessionEvent .connecting,
    sessionEvent .connected]

theorem sessionLoop_reconnect_panics (zkc : ZkClient) :
    sessionLoop zkc false reconnectEvents = .error closeOfClosedChannel := by
  rw [sessionLoop_eq]
  rfl

end ZkDetector
