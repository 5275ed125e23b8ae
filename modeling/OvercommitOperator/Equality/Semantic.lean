import OvercommitOperator.Equality.Maps

/-!
# The equality `CreateOrUpdate` skips its Update on

controller-runtime's `CreateOrUpdate` sends no Update when the object the closure returns is
`equality.Semantic.DeepEqual` to the object it read. apimachinery's `DeepEqual` is Go's
`reflect.DeepEqual` but for one rule that matters here: a nil map or slice equals an empty one.
The model keeps nil and empty apart where the code tells them apart (a `StrMap`, the
tolerations); `Kind.semEqual` equates them as `DeepEqual` does: a map compares key by key with nil
read as empty (`StrMap.semEqual_iff`), the tolerations with nil read as empty, and every other
field as it is (the other slices are lists, where nil and empty are one value already).

The closures of the reconcilers tell nil and empty apart (`mapsEqual`, `TolerationsEqual`): a
closure that assigns an empty map over a nil one returns an object `DeepEqual` to the one read,
which `CreateOrUpdate` does not write back.
-/

namespace OvercommitOperator

namespace StrMap

/-- `DeepEqual` on two maps: the nil map is the empty one; two maps compare as `mapsEqual`
compares two non-nil maps. -/
def semEqual (a b : StrMap) : Bool := mapsEqual (some (a.getD ∅)) (some (b.getD ∅))

/-- Two maps are `DeepEqual` exactly when they hold the same value under every key. -/
theorem semEqual_iff (a b : StrMap) : semEqual a b = true ↔ ∀ key, a.get? key = b.get? key := by
  rw [semEqual, mapsEqual_some_iff]
  cases a <;> cases b <;> simp [get?]

@[simp] theorem semEqual_refl (a : StrMap) : semEqual a a = true :=
  (semEqual_iff a a).2 fun _ => rfl

/-- The nil map is `DeepEqual` to the empty one, which `mapsEqual` tells apart. -/
example : semEqual none (some ∅) = true ∧ mapsEqual none (some ∅) = false := ⟨rfl, rfl⟩

end StrMap

/-- `DeepEqual` on the tolerations: the nil slice is the empty one. -/
def tolerationsSemEqual (a b : Option (List Toleration)) : Bool := a.getD [] == b.getD []

@[simp] theorem tolerationsSemEqual_refl (a : Option (List Toleration)) :
    tolerationsSemEqual a a = true := by
  simp [tolerationsSemEqual]

/-- `DeepEqual` on object metadata. -/
def ObjectMeta.semEqual (a b : ObjectMeta) : Bool :=
  a.name == b.name && a.uid == b.uid && a.labels.semEqual b.labels &&
    a.annotations.semEqual b.annotations && a.creationTimestamp == b.creationTimestamp &&
    a.deletionTimestamp == b.deletionTimestamp && a.ownerReferences == b.ownerReferences &&
    a.finalizers == b.finalizers

/-- `DeepEqual` on a pod spec. -/
def PodSpec.semEqual (a b : PodSpec) : Bool :=
  a.containers == b.containers && a.nodeSelector.semEqual b.nodeSelector &&
    tolerationsSemEqual a.tolerations b.tolerations

/-- `DeepEqual` on a pod template. -/
def PodTemplateSpec.semEqual (a b : PodTemplateSpec) : Bool :=
  a.labels.semEqual b.labels && a.annotations.semEqual b.annotations && a.spec.semEqual b.spec

/-- `DeepEqual` on a Service spec. -/
def ServiceSpec.semEqual (a b : ServiceSpec) : Bool :=
  a.selector.semEqual b.selector && a.ports == b.ports && a.type == b.type

/-- `DeepEqual` on the body of each kind; Certificates and webhook lists hold no map and no
nil-able slice. -/
def Kind.bodySemEqual : (k : Kind) → k.Body → k.Body → Bool
  | .issuer, _, _ => true
  | .certificate, a, b => decide (a = b)
  | .deployment, a, b => PodTemplateSpec.semEqual a.template b.template
  | .service, a, b => ServiceSpec.semEqual a b
  | .validatingWebhookConfiguration, a, b | .mutatingWebhookConfiguration, a, b => decide (a = b)

/-- `equality.Semantic.DeepEqual` on two objects of kind `k`. -/
def Kind.semEqual (k : Kind) (a b : k.Obj) : Bool :=
  a.meta.semEqual b.meta && k.bodySemEqual a.body b.body

@[simp] theorem Kind.semEqual_refl (k : Kind) (a : k.Obj) : k.semEqual a a = true := by
  cases k <;>
    simp [Kind.semEqual, Kind.bodySemEqual, ObjectMeta.semEqual, PodTemplateSpec.semEqual,
      PodSpec.semEqual, ServiceSpec.semEqual]

end OvercommitOperator
