import Mathlib

/-! # Go values and the go-zookeeper types of the detector's client

A Go `string` is a sequence of bytes, and Go orders strings byte by byte, each byte
unsigned; `GoString` is that list of bytes under `List`'s lexicographic order.
`zk.State`, `zk.EventType` and `zk.Event` keep what `zkclient.go` reads of them: the
constructors it names, one catch-all constructor for the library's other values, and
the event fields `Type`, `State`, `Path` and `Err`.
-/

namespace ZkDetector

/-- Bytes in Go's unsigned order, the order of their `toNat`. -/
instance byteOrder : LinearOrder UInt8 where
  le := (· ≤ ·)
  lt := (· < ·)
  le_refl := UInt8.le_refl
  le_trans _ _ _ := UInt8.le_trans
  lt_iff_le_not_le _ _ := Nat.lt_iff_le_not_le
  le_antisymm _ _ below above := UInt8.toNat.inj (Nat.le_antisymm below above)
  le_total := UInt8.le_total
  decidableLE := inferInstance

/-- Go's `string`: immutable bytes, compared byte-wise by `<` and by `sort.Strings`. -/
abbrev GoString := List UInt8

/-- The UTF-8 bytes of a Go string literal. -/
def GoString.ofString (text : String) : GoString := text.toUTF8.data.toList

/-- A Go `error`, seen through the text its `Error()` method returns. -/
structure GoError where
  text : String
deriving DecidableEq, Repr

/-- A Go run-time panic. Raised in a goroutine and not recovered, it ends the process. -/
structure GoPanic where
  message : String
deriving DecidableEq, Repr

/-- What `close` raises on a channel that is already closed. -/
def closeOfClosedChannel : GoPanic := ⟨"close of closed channel"⟩

/-- What a method call through a nil interface value raises. -/
def nilDereference : GoPanic := ⟨"runtime error: invalid memory address or nil pointer dereference"⟩

section Outcome

variable {α β : Type} {f : α → β} {o : Option (Except GoPanic α)}

/-- A step lifted from an inner one through `f` returns exactly when the inner one does. -/
theorem map_exceptMap_eq_some_ok {b : β} :
    o.map (·.map f) = some (.ok b) ↔ ∃ a, o = some (.ok a) ∧ f a = b := by
  rcases o with _ | (_ | a) <;> simp [Except.map]

/-- A step lifted from an inner one panics exactly when the inner one does, with its panic. -/
theorem map_exceptMap_eq_some_error {p : GoPanic} :
    o.map (·.map f) = some (.error p) ↔ o = some (.error p) := by
  rcases o with _ | (_ | a) <;> simp [Except.map]

end Outcome

namespace Zk

/-- `zk.State`: the states a session reports on its event channel. -/
inductive State
  | connecting
  | connected
  | syncConnected
  | disconnected
  | expired
  | other (code : Int)
deriving DecidableEq, Repr

/-- `zk.EventType`: what a watch event is about. -/
inductive EventType
  | nodeChildrenChanged
  | other (code : Int)
deriving DecidableEq, Repr

/-- `zk.Event`, as delivered on a session channel or on a watch channel. `err` is
`none` where Go's `Err` is nil. -/
structure Event where
  type : EventType
  state : State
  path : GoString
  err : Option GoError
deriving DecidableEq, Repr

end Zk

end ZkDetector
