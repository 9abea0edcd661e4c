import ZkDetector.Client

/-! # Sequence numbers in child names

ZooKeeper names a sequential node by a prefix and a zero-padded decimal counter. For
such names the byte-wise order that `list` sorts by is the order of the counters, so the
first name `list` returns is the node with the lowest sequence number, which the
detector's callers take as the leader.
-/

namespace ZkDetector

/-- The ASCII digit `'0' + d`. -/
def decimalDigit (d : Nat) : UInt8 := UInt8.ofNat (48 + d)

/-- `n` in `width` decimal digits, most significant first, zero-padded on the left
(ZooKeeper writes its counter with `%010d`). -/
def zeroPad : Nat → Nat → GoString
  | 0, _ => []
  | width + 1, n => decimalDigit (n / 10 ^ width % 10) :: zeroPad width (n % 10 ^ width)

theorem decimalDigit_lt {d e : Nat} (digit : e < 10) (below : d < e) :
    decimalDigit d < decimalDigit e := by
  show (UInt8.ofNat (48 + d)).toNat < (UInt8.ofNat (48 + e)).toNat
  rw [UInt8.toNat_ofNat_of_lt (by unfold UInt8.size; omega),
    UInt8.toNat_ofNat_of_lt (by unfold UInt8.size; omega)]
  omega

/-- Below `10 ^ width`, a larger counter has a larger padded form. -/
theorem zeroPad_strictMonoOn (width : Nat) :
    StrictMonoOn (zeroPad width) {n | n < 10 ^ width} := by
  induction width with
  | zero =>
      intro n small m large below
      simp only [Set.mem_setOf_eq, Nat.pow_zero] at small large
      omega
  | succ width ih =>
      intro n small m large below
      simp only [Set.mem_setOf_eq, Nat.pow_succ] at small large
      have scale : 0 < 10 ^ width := Nat.pos_pow_of_pos _ (by decide)
      have highN : n / 10 ^ width < 10 := Nat.div_lt_of_lt_mul small
      have highM : m / 10 ^ width < 10 := Nat.div_lt_of_lt_mul large
      simp only [zeroPad, Nat.mod_eq_of_lt highN, Nat.mod_eq_of_lt highM]
      rcases (Nat.div_le_div_right below.le).lt_or_eq with higher | same
      · exact List.Lex.rel (decimalDigit_lt highM higher)
      · rw [same]
        refine List.Lex.cons (ih (Nat.mod_lt _ scale) (Nat.mod_lt _ scale) ?_)
        have splitN := Nat.div_add_mod n (10 ^ width)
        have splitM := Nat.div_add_mod m (10 ^ width)
        rw [same] at splitN
        show n % 10 ^ width < m % 10 ^ width
        omega

theorem append_strictMono (pre : GoString) : StrictMono (pre ++ · : GoString → GoString) :=
  fun _ _ below => List.Lex.append_left _ below pre

/-- Names made of one prefix and a `width`-digit counter below `10 ^ width` are ordered
as their counters are. -/
theorem sequenceName_le_iff {pre : GoString} {width n m : Nat} (smallN : n < 10 ^ width)
    (smallM : m < 10 ^ width) :
    pre ++ zeroPad width n ≤ pre ++ zeroPad width m ↔ n ≤ m :=
  (append_strictMono pre).le_iff_le.trans
    ((zeroPad_strictMonoOn width).le_iff_le smallN smallM)

theorem head_le_of_sorted {names : List GoString} {first : GoString}
    (ordered : names.Sorted (· ≤ ·)) (head : names.head? = some first) :
    ∀ name ∈ names, first ≤ name := by
  cases names with
  | nil => simp at head
  | cons name rest =>
      cases head
      intro other member
      rcases List.mem_cons.mp member with same | later
      · exact same ▸ le_refl _
      · exact List.rel_of_sorted_cons ordered other later

/-- `list` returns the children it was given, each as often, in non-decreasing byte-wise
order; when every child is a sequential node of one prefix and one counter width, the
first child is the one with the lowest counter. -/
theorem list_orders_children {zkc : ZkClient}
    {children : GoString → Except GoError (List GoString)} {path : GoString}
    {names : List GoString} (connected : zkc.connected = true)
    (answered : children path = .ok names) :
    ∃ sorted, zkc.list children path = .ok sorted ∧ sorted.Perm names ∧
      sorted.Sorted (· ≤ ·) ∧
      ∀ (pre : GoString) (width : Nat) (counters : List Nat),
        names = counters.map (fun n => pre ++ zeroPad width n) →
        (∀ n ∈ counters, n < 10 ^ width) →
        ∀ first, sorted.head? = some first →
          ∃ lowest ∈ counters, first = pre ++ zeroPad width lowest ∧
            ∀ n ∈ counters, lowest ≤ n := by
  refine ⟨sortStrings names, by simp [ZkClient.list, connected, answered],
    sortStrings_perm names, sortStrings_sorted names, ?_⟩
  intro pre width counters named bounded first head
  have listed : ∀ name, name ∈ sortStrings names ↔ name ∈ names :=
    fun _ => (sortStrings_perm names).mem_iff
  obtain ⟨lowest, member, rfl⟩ :=
    List.mem_map.mp (named ▸ (listed first).mp (List.mem_of_mem_head? head))
  refine ⟨lowest, member, rfl, fun n other => ?_⟩
  have below := head_le_of_sorted (sortStrings_sorted names) head (pre ++ zeroPad width n)
    ((listed _).mpr (named ▸ List.mem_map_of_mem _ other))
  exact (sequenceName_le_iff (bounded lowest member) (bounded n other)).mp below

/-- The children of `TestZkClientWatchChildren`'s mocked connector. -/
def testChildren : List GoString :=
  [GoString.ofString "x", GoString.ofString "a", GoString.ofString "d"]

example : testClient.list (fun _ => .ok testChildren) testPath =
    .ok [GoString.ofString "a", GoString.ofString "d", GoString.ofString "x"] :=
  rfl

theorem list_orders_test_children :
    (testClient.connected = true ∧
      (fun _ => .ok testChildren : GoString → Except GoError (List GoString))
        testPath = .ok testChildren) ∧
    ∃ sorted, testClient.list (fun _ => .ok testChildren) testPath =
      .ok sorted ∧ sorted.Perm testChildren ∧ sorted.Sorted (· ≤ ·) ∧
      ∀ (pre : GoString) (width : Nat) (counters : List Nat),
        testChildren = counters.map (fun n => pre ++ zeroPad width n) →
        (∀ n ∈ counters, n < 10 ^ width) →
        ∀ first, sorted.head? = some first →
          ∃ lowest ∈ counters, first = pre ++ zeroPad width lowest ∧
            ∀ n ∈ counters, lowest ≤ n :=
  ⟨⟨rfl, rfl⟩, list_orders_children rfl rfl⟩

end ZkDetector
