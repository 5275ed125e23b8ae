import OvercommitOperator.Api.Types

/-!
# Owner references and finalizers

The helpers of controller-runtime's `controllerutil` and apimachinery's `metav1` that the
reconcilers call, as those libraries define them. `setControllerReference` fails when another
object already controls the dependent; otherwise it writes the owner's reference over the first
one naming the same object (same API group, kind and name), or appends it. After a success the
dependent's controller is the owner (`getControllerOf_of_setControllerReference`), and a second
call changes nothing (`setControllerReference_idem`).
-/

namespace OvercommitOperator

/-- An `error` the reconcilers see: an API status error, controllerutil's
`AlreadyOwnedError`, a recovered panic, or any other failure. -/
inductive ApiError
  | notFound
  | conflict
  | alreadyExists
  | alreadyOwned
  | panic
  | other (reason : String)
  deriving DecidableEq, Repr

/-! ## Owner references -/

/-- The API group `schema.ParseGroupVersion` reads from an `apiVersion`: the part before the one
slash, `""` for a version alone, and `none` for a string with more than one slash. -/
def parseGroup (gv : String) : Option String :=
  if gv.data = [] ∨ gv = "/" then some ""
  else
    match gv.data.count '/' with
    | 0 => some ""
    | 1 => some ⟨gv.data.takeWhile (· ≠ '/')⟩
    | _ => none

/-- Two references point at the same object: same group, kind and name. Reference:
`referSameObject` (controller-runtime `controllerutil`). -/
def referSameObject (a b : OwnerReference) : Bool :=
  match parseGroup a.apiVersion, parseGroup b.apiVersion with
  | some ga, some gb => ga == gb && a.kind == b.kind && a.name == b.name
  | _, _ => false

/-- The first reference with `Controller` set to true. Reference: `metav1.GetControllerOf`. -/
def getControllerOf (refs : List OwnerReference) : Option OwnerReference :=
  refs.find? (·.controller == some true)

/-- A policy object as `SetControllerReference` refers to it: the group-version and kind the
scheme gives its type, which parse, and its name and UID. -/
structure Owner where
  apiVersion : String
  kind : String
  name : String
  uid : String
  apiVersion_parses : (parseGroup apiVersion).isSome

/-- The controller reference to an owner, with both flags set. -/
def Owner.ref (p : Owner) : OwnerReference :=
  ⟨p.apiVersion, p.kind, p.name, p.uid, some true, some true⟩

/-- Writes `ref` over the first reference to the same object, or appends it. Reference:
`upsertOwnerRef` and `indexOwnerRef` (controller-runtime `controllerutil`). -/
def upsertOwnerRef (ref : OwnerReference) : List OwnerReference → List OwnerReference
  | [] => [ref]
  | r :: rs => if referSameObject r ref then ref :: rs else r :: upsertOwnerRef ref rs

/-- Makes `owner` the controller of the object with metadata `meta`, unless another object
already controls it. The owner is cluster-scoped, so the namespace check always passes.
Reference: `SetControllerReference` (controller-runtime `controllerutil`). -/
def setControllerReference (owner : Owner) (meta : ObjectMeta) : Except ApiError ObjectMeta :=
  if (getControllerOf meta.ownerReferences).any (!referSameObject · owner.ref) then
    .error .alreadyOwned
  else .ok { meta with ownerReferences := upsertOwnerRef owner.ref meta.ownerReferences }

/-- An object's controller is `p`: its first controller reference is `p`'s. -/
def ControlledBy (p : Owner) (meta : ObjectMeta) : Prop :=
  getControllerOf meta.ownerReferences = some p.ref

instance (p : Owner) (meta : ObjectMeta) : Decidable (ControlledBy p meta) :=
  inferInstanceAs (Decidable (_ = _))

section SetControllerReference
variable {p : Owner} {meta meta' : ObjectMeta}

@[simp] theorem referSameObject_ref_ref (p : Owner) : referSameObject p.ref p.ref = true := by
  obtain ⟨g, hg⟩ := Option.isSome_iff_exists.1 p.apiVersion_parses
  simp [referSameObject, Owner.ref, hg]

theorem getControllerOf_upsertOwnerRef (p : Owner) :
    ∀ {refs : List OwnerReference},
      (getControllerOf refs).all (referSameObject · p.ref) = true →
      getControllerOf (upsertOwnerRef p.ref refs) = some p.ref
  | [], _ => List.find?_cons_of_pos _ (by simp [Owner.ref])
  | r :: rs, h => by
    cases hr : referSameObject r p.ref
    · have hc : (r.controller == some true) = false := by
        cases hc : r.controller == some true
        · rfl
        · simp [getControllerOf, List.find?_cons, hc, hr] at h
      simp only [getControllerOf, List.find?_cons, hc] at h
      simp only [upsertOwnerRef, hr, Bool.false_eq_true, if_false, getControllerOf,
        List.find?_cons, hc]
      exact getControllerOf_upsertOwnerRef p h
    · simp only [upsertOwnerRef, hr, if_true, getControllerOf]
      exact List.find?_cons_of_pos _ (by simp [Owner.ref])

theorem upsertOwnerRef_idem (p : Owner) :
    ∀ refs : List OwnerReference,
      upsertOwnerRef p.ref (upsertOwnerRef p.ref refs) = upsertOwnerRef p.ref refs
  | [] => by simp [upsertOwnerRef]
  | r :: rs => by
    by_cases hr : referSameObject r p.ref = true
    · simp [upsertOwnerRef, hr]
    · simp [upsertOwnerRef, hr, upsertOwnerRef_idem p rs]

/-- What a successful `setControllerReference` wrote. -/
theorem setControllerReference_eq_ok (h : setControllerReference p meta = .ok meta') :
    meta' = { meta with ownerReferences := upsertOwnerRef p.ref meta.ownerReferences } ∧
      (getControllerOf meta.ownerReferences).all (referSameObject · p.ref) = true := by
  unfold setControllerReference at h
  split at h
  · cases h
  · next hany =>
    cases h
    refine ⟨rfl, ?_⟩
    cases hc : getControllerOf meta.ownerReferences <;> simp_all

/-- After a successful `setControllerReference`, the object's controller is the owner. -/
theorem controlledBy_of_setControllerReference (h : setControllerReference p meta = .ok meta') :
    ControlledBy p meta' := by
  obtain ⟨rfl, hall⟩ := setControllerReference_eq_ok h
  exact getControllerOf_upsertOwnerRef p hall

/-- A second `setControllerReference` changes nothing. -/
theorem setControllerReference_idem (h : setControllerReference p meta = .ok meta') :
    setControllerReference p meta' = .ok meta' := by
  have hctl := controlledBy_of_setControllerReference h
  obtain ⟨rfl, -⟩ := setControllerReference_eq_ok h
  simp only [ControlledBy] at hctl
  simp [setControllerReference, hctl, upsertOwnerRef_idem]

end SetControllerReference

/-! ## Finalizers -/

/-- Reference: `ContainsFinalizer` (controller-runtime `controllerutil`). -/
def containsFinalizer (meta : ObjectMeta) (finalizer : String) : Bool :=
  meta.finalizers.contains finalizer

/-- Appends the finalizer unless present. Reference: `AddFinalizer`. -/
def addFinalizer (meta : ObjectMeta) (finalizer : String) : ObjectMeta :=
  if meta.finalizers.contains finalizer then meta
  else { meta with finalizers := meta.finalizers ++ [finalizer] }

/-- Drops every occurrence of the finalizer, keeping the others in order. Reference:
`RemoveFinalizer`. -/
def removeFinalizer (meta : ObjectMeta) (finalizer : String) : ObjectMeta :=
  { meta with finalizers := meta.finalizers.filter (· != finalizer) }

@[simp] theorem finalizer_mem_addFinalizer (meta : ObjectMeta) (f : String) :
    f ∈ (addFinalizer meta f).finalizers := by
  unfold addFinalizer; split <;> simp_all

@[simp] theorem finalizer_not_mem_removeFinalizer (meta : ObjectMeta) (f : String) :
    f ∉ (removeFinalizer meta f).finalizers := by
  simp [removeFinalizer]

end OvercommitOperator
