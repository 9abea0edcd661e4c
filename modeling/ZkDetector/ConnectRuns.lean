import ZkDetector.Connect

/-! # What every run of `connect` keeps, and what it does not

`Detector.Invariant` holds in every reachable state: `zkc.conn` holds the session opened
last, `connected` is set exactly when some session the client opened has reported
`StateConnected` or `StateSyncConnected`, a waiting caller waits on an open session, a
session's `waitConnCh` is closed exactly when it reported `StateConnected`, and a caller
answered with nil saw `connected` set. So a connected client holds a session, and the
nil dereference of `zkc.conn` behind every connected check is unreachable. No event and no
call sets `connected` back to false: `StateExpired` leaves it set, and a timed-out
`connect` leaves its session open and held in `zkc.conn`. A session's loop panics on its
second `StateConnected`.
-/

namespace ZkDetector.Connect

open Zk

theorem exists_mem_set_iff {α : Type} {P : α → Prop} {Q : Prop} {l : List α} {i : Nat}
    {old new : α} (found : l[i]? = some old) (grown : P new ↔ P old ∨ Q) :
    (∃ s ∈ l.set i new, P s) ↔ (∃ s ∈ l, P s) ∨ Q := by
  induction l generalizing i with
  | nil => simp at found
  | cons head tail ih =>
      cases i with
      | zero =>
          simp only [List.getElem?_cons_zero, Option.some.injEq] at found
          subst found
          simp only [List.set_cons_zero, List.mem_cons, or_and_right, exists_or, exists_eq_left,
            grown]
          exact or_right_comm
      | succ i =>
          simp only [List.set_cons_succ, List.mem_cons, or_and_right, exists_or, exists_eq_left,
            ih (by simpa using found)]
          exact or_assoc.symm

theorem getElem?_set_eq_some {α : Type} {l : List α} {c c' : Nat} {x y : α}
    (found : (l.set c x)[c']? = some y) : (c = c' ∧ y = x) ∨ l[c']? = some y := by
  rw [List.getElem?_set] at found
  split_ifs at found with same
  · exact .inl ⟨same, (Option.some.inj found).symm⟩
  · exact .inr found

namespace Detector

/-- What holds in every reachable state: `zkc.conn` holds the session opened last, and is
nil before the first; `connected` is set exactly when some session has reported a
connected state; a caller waits on a session that was opened; a session's `waitConnCh` is
closed exactly once the session reported `StateConnected`; a caller that `connect`
answered with nil saw `connected` set. -/
structure Invariant (d : Detector) : Prop where
  conn : ∀ i, d.zkc.conn = some i ↔ i + 1 = d.sessions.length
  connected : d.zkc.connected = true ↔
    ∃ s ∈ d.sessions, ∃ state ∈ s.reported, state.setsConnected = true
  waiting : ∀ c i : Nat, d.callers[c]? = some (.waiting i) → i < d.sessions.length
  closed : ∀ s ∈ d.sessions, s.waitClosed = true ↔ .connected ∈ s.reported
  answered : ∀ c : Nat, d.callers[c]? = some (.returned none) → d.zkc.connected = true

variable {d : Detector} {c i : Nat}

/-- A caller moving to `caller` keeps the invariant, unless it moves to a `select` or
returns nil while `connected` is false. -/
theorem Invariant.setCaller {caller : Caller} (inv : d.Invariant)
    (notWaiting : ∀ i, caller ≠ .waiting i)
    (nil : caller = .returned none → d.zkc.connected = true) :
    ({ d with callers := d.callers.set c caller } : Detector).Invariant where
  conn := inv.conn
  connected := inv.connected
  waiting c' i found := by
    rcases getElem?_set_eq_some found with ⟨-, same⟩ | found
    · exact absurd same.symm (notWaiting i)
    · exact inv.waiting c' i found
  closed := inv.closed
  answered c' found := by
    rcases getElem?_set_eq_some found with ⟨-, same⟩ | found
    · exact nil same.symm
    · exact inv.answered c' found

theorem Invariant.answer {result : Option GoError} (inv : d.Invariant)
    (nil : result = none → d.zkc.connected = true) : (d.answer c result).Invariant :=
  inv.setCaller nofun fun same => nil (by cases same; rfl)

theorem Invariant.startConnect (inv : d.Invariant) : (d.startConnect c).Invariant :=
  inv.setCaller nofun nofun

theorem Invariant.openSession (inv : d.Invariant) : (d.openSession c).Invariant where
  conn i := by simp; omega
  connected := by simpa [or_and_right, exists_or] using inv.connected
  waiting c' i found := by
    rcases getElem?_set_eq_some (by simpa using found) with ⟨-, opened⟩ | found
    · cases opened
      simp
    · simpa using Nat.lt_succ_of_lt (inv.waiting c' i found)
  closed s member := by
    rcases List.mem_append.mp member with old | fresh
    · exact inv.closed s old
    · simp [List.mem_singleton.mp fresh]
  answered c' found := by
    rcases getElem?_set_eq_some (by simpa using found) with ⟨-, wrong⟩ | found
    · cases wrong
    · exact inv.answered c' found

theorem Invariant.record {session : Session} {e : Event} {handled : ZkClient × Bool × List Effect}
    (inv : d.Invariant) (found : d.sessions[i]? = some session)
    (passed : handleSessionEvent d.zkc session.waitClosed e = .ok handled) :
    (d.record i session e.state handled).Invariant := by
  obtain ⟨client, shut, -⟩ := handleSessionEvent_ok passed
  refine ⟨?_, ?_, ?_, fun s member => ?_, fun c' found => ?_⟩
  · simpa [client] using inv.conn
  · rw [record_zkc, client, record_sessions, exists_mem_set_iff found (Q := e.state.setsConnected)
      (by simp [or_comm]), ← inv.connected]
    simp
  · simpa using inv.waiting
  · rcases List.mem_or_eq_of_mem_set member with old | rfl
    · exact inv.closed s old
    · simp [shut, inv.closed session (List.getElem?_mem found), @eq_comm _ State.connected]
  · simp [client, inv.answered c' (by simpa using found)]

theorem Invariant.step {next : Detector} {a : Action} (inv : d.Invariant)
    (stepped : d.step a = some (.ok next)) : next.Invariant := by
  rcases step_cases stepped with ⟨c, result, nil, rfl⟩ | ⟨c, rfl⟩ | ⟨c, rfl⟩ |
    ⟨i, session, e, handled, found, passed, rfl⟩
  · exact inv.answer nil
  · exact inv.startConnect
  · exact inv.openSession
  · exact inv.record found passed

/-- While `connected` is set, `zkc.conn` holds a session. -/
theorem Invariant.conn_of_connected (inv : d.Invariant) (connected : d.zkc.connected = true) :
    d.zkc.conn ≠ none := by
  obtain ⟨s, member, -⟩ := inv.connected.mp connected
  have opened : 0 < d.sessions.length := List.length_pos_of_mem member
  intro unheld
  simpa [unheld] using (inv.conn (d.sessions.length - 1)).mpr (by omega)

end Detector

variable {hosts : List GoString} {path : GoString} {callers : Nat}

theorem Reachable.invariant {d : Detector} (reach : Reachable hosts path callers d) :
    d.Invariant := by
  induction reach with
  | init created =>
      cases created
      have idle : ∀ (c : Nat) x, (List.replicate callers Caller.idle)[c]? = some x → x = .idle :=
        fun c x found => by
          rw [List.getElem?_replicate] at found
          split_ifs at found
          exact (Option.some.inj found).symm
      exact ⟨by simp [Detector.init], by simp [Detector.init],
        fun c _ waiting => (nomatch idle c _ waiting), by simp [Detector.init],
        fun c answered => nomatch idle c _ answered⟩
  | step _ stepped ih => exact ih.step stepped

theorem Reachable.run {d next : Detector} (reach : Reachable hosts path callers d)
    (actions : List Action) (ran : d.run actions = some next) :
    Reachable hosts path callers next := by
  induction actions generalizing d with
  | nil => cases ran; exact reach
  | cons a rest ih =>
      simp only [Detector.run] at ran
      split at ran
      · exact ih (reach.step ‹_›) ran
      · contradiction

namespace Detector

variable {d next : Detector} {a : Action}

/-- No step clears `connected`. -/
theorem step_keeps_connected (stepped : d.step a = some (.ok next))
    (connected : d.zkc.connected = true) : next.zkc.connected = true := by
  rcases step_cases stepped with ⟨c, result, -, rfl⟩ | ⟨c, rfl⟩ | ⟨c, rfl⟩ |
    ⟨i, session, e, handled, -, passed, rfl⟩
  · exact connected
  · exact connected
  · exact connected
  · simp [(handleSessionEvent_ok passed).1, connected]

/-- While `connected` is set, `connect` returns nil at once and opens no session. -/
theorem step_connect_of_connected {c : Nat} {caller : Caller}
    (connected : d.zkc.connected = true) (found : d.callers[c]? = some caller)
    (free : caller.free = true) :
    d.step (.connect c) = some (.ok (d.answer c none)) := by
  simp [step, found, free, connected]

end Detector

/-- A session that connects and then expires. -/
def expiryRun : List Action :=
  [.connect 0, .dial 0 none, .event 0 (sessionEvent .connected), .confirm 0,
    .event 0 (sessionEvent .expired)]

/-- The state after `expiryRun`: the caller back with nil, and the client's one session
connected and then expired. -/
def expiredDetector : Detector :=
  ⟨{ newTestClient with conn := some 0, connected := true }, [⟨true, [.connected, .expired]⟩],
    [.returned none], []⟩

/-- In every run, `connected` is set exactly when some session the client opened has
reported `StateConnected` or `StateSyncConnected`, and no step clears it, whatever the
sessions report afterwards; while it is set, `watchChildren`, `list` and `data` pass their
connected check and `connect` returns nil without opening a session. -/
theorem connected_iff_session_reported {d : Detector}
    (reach : Reachable hosts path callers d) :
    (d.zkc.connected = true ↔
      ∃ s ∈ d.sessions, ∃ state ∈ s.reported, state.setsConnected = true) ∧
    (∀ a next, d.step a = some (.ok next) → d.zkc.connected = true →
      next.zkc.connected = true) ∧
    (d.zkc.connected = true →
      (∀ (β : Type) (fail : GoError → β) (message : String) (proceed : β),
        d.zkc.ifConnected fail message proceed = proceed) ∧
      ∀ c caller, d.callers[c]? = some caller → caller.free = true →
        d.step (.connect c) = some (.ok (d.answer c none))) :=
  ⟨reach.invariant.connected, fun _ _ => Detector.step_keeps_connected,
    fun connected => ⟨fun _ _ _ _ => ZkClient.ifConnected_of_connected connected,
      fun _ _ found free => Detector.step_connect_of_connected connected found free⟩⟩

theorem connected_iff_session_reported_expired :
    Reachable testHosts testPath 1 expiredDetector ∧
    (expiredDetector.zkc.connected = true ↔
      ∃ s ∈ expiredDetector.sessions, ∃ state ∈ s.reported, state.setsConnected = true) ∧
    (∀ a next, expiredDetector.step a = some (.ok next) →
      expiredDetector.zkc.connected = true → next.zkc.connected = true) ∧
    (expiredDetector.zkc.connected = true →
      (∀ (β : Type) (fail : GoError → β) (message : String) (proceed : β),
        expiredDetector.zkc.ifConnected fail message proceed = proceed) ∧
      ∀ c caller, expiredDetector.callers[c]? = some caller → caller.free = true →
        expiredDetector.step (.connect c) = some (.ok (expiredDetector.answer c none))) :=
  have reach : Reachable testHosts testPath 1 expiredDetector :=
    (Reachable.init rfl).run expiryRun rfl
  ⟨reach, connected_iff_session_reported reach⟩

/-- A live session: the last of `StateConnected`, `StateSyncConnected` and `StateExpired`
the session reported is not `StateExpired`. -/
def sessionLive (reported : List State) : Bool :=
  reported.foldl (fun live state =>
    match state with
    | .connected | .syncConnected => true
    | .expired => false
    | _ => live) false

/-- The session held in `zkc.conn` is live. -/
def Detector.currentSessionLive (d : Detector) : Bool :=
  match d.zkc.conn.bind (d.sessions[·]?) with
  | some session => sessionLive session.reported
  | none => false

/-- After the session in `zkc.conn` expired, `connected` is still set, and `connect`
returns nil without opening a session. -/
theorem expired_session_stays_connected :
    ∃ d, Reachable testHosts testPath 1 d ∧ d.zkc.connected = true ∧
      d.currentSessionLive = false ∧ d.step (.connect 0) = some (.ok (d.answer 0 none)) :=
  ⟨_, (Reachable.init rfl).run expiryRun rfl, rfl, rfl, rfl⟩

/-- The single caller of a new test client, waiting in `connect` on the session it opened. -/
def waitingDetector : Detector := ((Detector.init newTestClient 1).startConnect 0).openSession 0

/-- The loop of a session panics on an event exactly when the event is `StateConnected`
and the session already reported `StateConnected`: its `waitConnCh` is then closed. -/
theorem event_panics_iff_connected_again {d : Detector}
    (reach : Reachable hosts path callers d) {i : Nat} {session : Session}
    (found : d.sessions[i]? = some session) (e : Event) :
    d.step (.event i e) = some (.error closeOfClosedChannel) ↔
      e.state = .connected ∧ .connected ∈ session.reported := by
  rw [← reach.invariant.closed session (List.getElem?_mem found), and_comm]
  simp only [Detector.step, found, handleSessionEvent_eq]
  split_ifs with panics <;> simp [Except.map, panics]

theorem event_panics_iff_connected_again_waiting :
    Reachable testHosts testPath 1 waitingDetector ∧
    waitingDetector.sessions[0]? = some ⟨false, []⟩ ∧
    (waitingDetector.step (.event 0 (sessionEvent .connected)) =
        some (.error closeOfClosedChannel) ↔
      (sessionEvent .connected).state = .connected ∧
        State.connected ∈ ([] : List State)) :=
  have reach : Reachable testHosts testPath 1 waitingDetector :=
    (Reachable.init rfl).run [.connect 0, .dial 0 none] rfl
  ⟨reach, rfl, event_panics_iff_connected_again reach rfl _⟩

/-- A caller that `connect` answered with nil finds `connected` set, then and in every
later state. -/
theorem nil_connect_means_connected {d : Detector} (reach : Reachable hosts path callers d)
    {c : Nat} (answered : d.callers[c]? = some (.returned none)) : d.zkc.connected = true :=
  reach.invariant.answered c answered

/-- A `connect` that the session confirms. -/
def confirmRun : List Action :=
  [.connect 0, .dial 0 none, .event 0 (sessionEvent .connected), .confirm 0]

/-- The state after `confirmRun`: one session, which reported `StateConnected`, and the
caller back from `connect` with nil. -/
def confirmedDetector : Detector :=
  ⟨{ newTestClient with conn := some 0, connected := true }, [⟨true, [.connected]⟩],
    [.returned none], []⟩

theorem nil_connect_means_connected_confirmed :
    Reachable testHosts testPath 1 confirmedDetector ∧
    confirmedDetector.callers[0]? = some (.returned none) ∧
    confirmedDetector.zkc.connected = true :=
  have reach : Reachable testHosts testPath 1 confirmedDetector :=
    (Reachable.init rfl).run confirmRun rfl
  ⟨reach, rfl, nil_connect_means_connected reach (c := 0) rfl⟩

end ZkDetector.Connect
