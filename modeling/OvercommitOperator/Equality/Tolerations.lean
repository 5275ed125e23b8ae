import OvercommitOperator.Equality.Maps

/-!
# Tolerations equality

`tolerationsEqual` keys each toleration by `createTolerationKey` (its key, operator, value, effect
and whether it has seconds, joined by dashes), collects the keys of `a`, and accepts `b` when it
has the same length and each of its tolerations has a key among those of `a`
(`tolerationsEqual_some_iff`). That is invariant under permuting either slice
(`tolerationsEqual_perm`) and reflexive (`tolerationsEqual_self`), but it is not the equality of
the two multisets of keys: a slice that repeats one toleration in place of another passes, and
the comparison does not turn around (`tolerationsEqual_duplicate`).
-/

namespace OvercommitOperator

/-- The comparison key of a toleration: the seconds are reduced to a nil flag. Reference:
`createTolerationKey` (`src/internal/utils/comparison.go:56`). -/
def createTolerationKey (tol : Toleration) : String :=
  "-".intercalate [tol.key, tol.operator, tol.value, tol.effect,
    if tol.tolerationSeconds.isSome then "seconds-not-nil" else "seconds-nil"]

/-- Two toleration slices compare equal when both are nil, or both are non-nil, have the same
length, and every toleration of `b` has its key among those of `a`. Reference:
`TolerationsEqual` (`src/internal/utils/comparison.go:17`). -/
def tolerationsEqual : Option (List Toleration) → Option (List Toleration) → Bool
  | none, none => true
  | none, some _ | some _, none => false
  | some a, some b =>
    if a.length ≠ b.length then false
    else
      let tolerationMapA := buildMap createTolerationKey a
      b.all fun tol => (tolerationMapA.lookup (createTolerationKey tol)).isSome

/-- What `tolerationsEqual` checks of two non-nil slices: equal lengths, and each key of `b` is a
key of `a`. -/
theorem tolerationsEqual_some_iff (a b : List Toleration) :
    tolerationsEqual (some a) (some b) = true ↔
      a.length = b.length ∧ ∀ t ∈ b, ∃ t' ∈ a, createTolerationKey t' = createTolerationKey t := by
  simp [tolerationsEqual, AList.lookup_isSome, mem_buildMap]

/-- `tolerationsEqual` is reflexive. -/
@[simp] theorem tolerationsEqual_self (a : Option (List Toleration)) :
    tolerationsEqual a a = true := by
  cases a with
  | none => rfl
  | some a => exact (tolerationsEqual_some_iff a a).2 ⟨rfl, fun t ht => ⟨t, ht, rfl⟩⟩

/-- Two tolerations of the operator's own test. -/
def notReady : Toleration := ⟨"node.kubernetes.io/not-ready", "Exists", "", "NoExecute", none⟩
def unreachable : Toleration := ⟨"node.kubernetes.io/unreachable", "Exists", "", "NoExecute", none⟩

/-- `tolerationsEqual` does not depend on the order of either slice. -/
theorem tolerationsEqual_perm {a a' b b' : List Toleration} (ha : a.Perm a') (hb : b.Perm b') :
    tolerationsEqual (some a) (some b) = tolerationsEqual (some a') (some b') := by
  apply Bool.eq_iff_iff.2
  simp only [tolerationsEqual_some_iff, ha.length_eq, hb.length_eq, ha.mem_iff, hb.mem_iff]

/-- Swapping the first slice of the operator's test leaves the comparison as it was. -/
theorem tolerationsEqual_swap :
    tolerationsEqual (some [notReady, unreachable]) (some [notReady, notReady]) =
      tolerationsEqual (some [unreachable, notReady]) (some [notReady, notReady]) :=
  tolerationsEqual_perm (.swap _ _ _) (.refl _)

/-- A slice that repeats `notReady` in place of `unreachable` compares equal to one that has
both, and not the other way round. -/
theorem tolerationsEqual_duplicate :
    tolerationsEqual (some [notReady, unreachable]) (some [notReady, notReady]) = true ∧
    tolerationsEqual (some [notReady, notReady]) (some [notReady, unreachable]) = false := by
  decide

end OvercommitOperator
