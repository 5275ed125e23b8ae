import OvercommitOperator.Reconcile.ClassRuns

/-!
# Laws of the mutate closures

Every closure the two reconcilers pass to `CreateOrUpdate` is one of the two shapes of
`Mutate.Shapes`, so each law is proved once per shape and read off for every member. A comparing
closure converges on an existing object (`Converges`): the fields it owns compare equal to the
desired ones afterwards, and it sets the controller reference only when it assigned a field. A
create-only closure leaves an existing object as it is (`LeavesExisting`). Every closure is
idempotent (`Idempotent`), and `CreateOrUpdate` with a closure at a fixpoint sends no write.
-/

namespace OvercommitOperator

section Laws
variable {B : Type}

/-- On an existing object, the closure's result has every owned field equal to the desired one;
the controller reference is set when a field was assigned, and the object is returned unchanged
when none was. -/
def Converges (owned : Object B → Bool) (p : Owner) (f : Object B → Except ApiError (Object B)) :
    Prop :=
  ∀ o o', o.meta.creationTimestamp ≠ 0 → f o = .ok o' →
    owned o' = true ∧ (owned o = false → ControlledBy p o'.meta) ∧ (owned o = true → o' = o)

/-- On an existing object, the closure returns `nil` and changes nothing. -/
def LeavesExisting (f : Object B → Except ApiError (Object B)) : Prop :=
  ∀ o, o.meta.creationTimestamp ≠ 0 → f o = .ok o

/-- Run again on its own result, the closure returns that result. -/
def Idempotent (f : Object B → Except ApiError (Object B)) : Prop :=
  ∀ o o', f o = .ok o' → f o' = .ok o'

variable {p : Owner} {a : Assign B} {s : Sync B}

theorem compareAndSet_converges : Converges s.owned p (compareAndSet p a s) :=
  fun _ _ hts h => compareAndSet_existing hts h

theorem createOnly_leavesExisting : LeavesExisting (createOnly p a) :=
  fun _ hts => createOnly_existing hts

/-- On an existing object, the re-run of a comparing closure finds every owned field equal, so it
assigns nothing and does not call `SetControllerReference`. -/
theorem owned_compareAndSet {o o' : Object B} (hts : o.meta.creationTimestamp ≠ 0)
    (h : compareAndSet p a s o = .ok o') : s.owned o' = true :=
  (compareAndSet_existing hts h).1

theorem compareAndSet_idempotent : Idempotent (compareAndSet p a s) :=
  fun _ _ h => compareAndSet_idem h

theorem createOnly_idempotent : Idempotent (createOnly p a) :=
  fun _ _ h => createOnly_idem h

/-- A create-only closure fails only when another controller owns the object. -/
theorem createOnly_error {o : Object B} {e : ApiError} (h : createOnly p a o = .error e) :
    e = .alreadyOwned := by
  unfold createOnly withControllerReference setControllerReference at h
  split at h
  · split at h <;> cases h
    rfl
  · cases h

/-- The singleton's Deployment closures are `compareAndSet` once the environment's image is set
into the desired Deployment. -/
theorem mutateOvercommitDeployment_eq {env : ImageEnv} {desired updated : Deployment}
    (h : withImageFromEnv env desired = .ok updated) :
    mutateOvercommitDeployment p env desired =
      compareAndSet p (.desired updated true true) (overcommitDeploymentSync updated) := by
  funext d
  simp [mutateOvercommitDeployment, h, bind, Except.bind]

theorem mutateOvercommitDeployment_idempotent {env : ImageEnv} {desired : Deployment} :
    Idempotent (mutateOvercommitDeployment p env desired) := by
  cases h : withImageFromEnv env desired with
  | ok updated => rw [mutateOvercommitDeployment_eq h]; exact compareAndSet_idempotent
  | error e =>
    intro _ _ hf
    simp [mutateOvercommitDeployment, h, bind, Except.bind] at hf

end Laws

/-- At a fixpoint of the closure, `CreateOrUpdate` on an existing object sends the Get and
nothing else: when the Get returns the object under its key, the rest of the tick returns it with
no request. -/
theorem createOrUpdate_fixpoint {k : Kind} {obj o : k.Obj} {f : k.Obj → Except ApiError k.Obj}
    (h : f o = .ok o) (hname : o.meta.name = obj.meta.name) :
    ∃ cont : Except ApiError k.Obj → Tick k.Obj,
      createOrUpdate k obj f = sendRaw (.get k obj.meta.name) >>= cont ∧ cont (.ok o) = pure o :=
  ⟨_, rfl, by simp [h, hname]⟩

/-! ## The closures of the two reconcilers -/

/-- The comparing closures on an existing object. -/
def Settles {B : Type} (owned : Object B → Bool) (f : Object B → Except ApiError (Object B)) :
    Prop :=
  Idempotent f ∧ ∀ o o', o.meta.creationTimestamp ≠ 0 → f o = .ok o' → owned o' = true

theorem compareAndSet_settles {B : Type} {p : Owner} {a : Assign B} {s : Sync B} :
    Settles s.owned (compareAndSet p a s) :=
  ⟨compareAndSet_idempotent, fun _ _ hts h => owned_compareAndSet hts h⟩

/-- **The closures on an existing object, as they are.** The comparing closures (the
Deployments' of both reconcilers, and the current class reconciler's Service, Certificate and
webhook configuration) converge on the fields they own and set the controller reference only
when they assigned one; the others (the Issuer's, the singleton's Services, Certificates and
webhook configurations, the older class reconciler's Service, Certificate and webhook
configuration) leave an existing object as it is. -/
theorem existing_objects_converge :
    (∀ p env desired updated, withImageFromEnv env desired = .ok updated →
      Converges (overcommitDeploymentOwned updated) p (mutateOvercommitDeployment p env desired)) ∧
    (∀ p desired, Converges (classDeploymentOwned desired) p (mutateClassDeployment p desired)) ∧
    (∀ p desired, Converges (classDeploymentV0Owned desired) p (mutateClassDeploymentV0 p desired)) ∧
    (∀ p desired, Converges (serviceOwned desired) p (mutateClassService p desired)) ∧
    (∀ p desired, Converges (certificateOwned desired) p (mutateClassCertificate p desired)) ∧
    (∀ p desired, Converges (webhookConfigurationOwned desired) p (mutateClassWebhook p desired)) ∧
    (∀ p, LeavesExisting (mutateIssuer p)) ∧
    (∀ (B : Type) p (desired : Object B), LeavesExisting (mutateNewBody p desired)) ∧
    (∀ p desired, LeavesExisting (mutateNewAnnotatedWebhooks p desired)) :=
  ⟨fun _ _ _ _ h => mutateOvercommitDeployment_eq h ▸ compareAndSet_converges,
    fun _ _ => compareAndSet_converges, fun _ _ => compareAndSet_converges,
    fun _ _ => compareAndSet_converges, fun _ _ => compareAndSet_converges,
    fun _ _ => compareAndSet_converges, fun _ => createOnly_leavesExisting,
    fun _ _ _ => createOnly_leavesExisting, fun _ _ => createOnly_leavesExisting⟩

/-- On an existing Service whose owned fields already match, the class closure returns it
without setting the controller reference; the singleton's Service closure returns an existing
Service whose selector has drifted; and the older class closure returns an existing Deployment
whose node selector has drifted. -/
theorem existing_object_counterexample :
    let desired : Service := ⟨.named "gold", ⟨none, [], "ClusterIP"⟩⟩
    let existing : Service := ⟨{ ObjectMeta.named "gold" with creationTimestamp := 1 }, desired.body⟩
    let drifted : Service := ⟨existing.meta, { desired.body with selector := some ∅ }⟩
    let desiredDeployment : Deployment := ⟨.named "gold", ⟨⟨none, none, ⟨[], none, none⟩⟩⟩⟩
    let driftedDeployment : Deployment := ⟨existing.meta, ⟨⟨none, none, ⟨[], some ∅, none⟩⟩⟩⟩
    mutateClassService (classOwner (goldClass [] none).meta) desired existing = .ok existing ∧
      ¬ ControlledBy (classOwner (goldClass [] none).meta) existing.meta ∧
      mutateNewBody (overcommitOwner clusterOvercommit.meta) desired drifted = .ok drifted ∧
      mapsEqual desired.body.selector drifted.body.selector = false ∧
      mutateClassDeploymentV0 (classOwner (goldClass [] none).meta) desiredDeployment
        driftedDeployment = .ok driftedDeployment ∧
      mapsEqual desiredDeployment.body.template.spec.nodeSelector
        driftedDeployment.body.template.spec.nodeSelector = false :=
  ⟨rfl, by decide, rfl, rfl, rfl, rfl⟩

/-- **Every closure reaches a fixpoint in one run.** Each closure is idempotent; on an existing
object a comparing closure leaves every owned field equal to the desired one, so its second run
assigns nothing and does not set the controller reference; and `CreateOrUpdate` with a closure at
a fixpoint sends no write. -/
theorem closures_reach_fixpoint :
    (∀ p, Idempotent (mutateIssuer p)) ∧
    (∀ (B : Type) p (desired : Object B), Idempotent (mutateNewBody p desired)) ∧
    (∀ p desired, Idempotent (mutateNewAnnotatedWebhooks p desired)) ∧
    (∀ p env desired, Idempotent (mutateOvercommitDeployment p env desired)) ∧
    (∀ p env desired updated, withImageFromEnv env desired = .ok updated →
      Settles (overcommitDeploymentOwned updated) (mutateOvercommitDeployment p env desired)) ∧
    (∀ p desired, Settles (classDeploymentOwned desired) (mutateClassDeployment p desired)) ∧
    (∀ p desired, Settles (classDeploymentV0Owned desired) (mutateClassDeploymentV0 p desired)) ∧
    (∀ p desired, Settles (serviceOwned desired) (mutateClassService p desired)) ∧
    (∀ p desired, Settles (certificateOwned desired) (mutateClassCertificate p desired)) ∧
    (∀ p desired, Settles (webhookConfigurationOwned desired) (mutateClassWebhook p desired)) ∧
    (∀ (k : Kind) (obj o : k.Obj) (f : k.Obj → Except ApiError k.Obj), f o = .ok o →
      o.meta.name = obj.meta.name → ∃ cont : Except ApiError k.Obj → Tick k.Obj,
        createOrUpdate k obj f = sendRaw (.get k obj.meta.name) >>= cont ∧ cont (.ok o) = pure o) :=
  ⟨fun _ => createOnly_idempotent, fun _ _ _ => createOnly_idempotent,
    fun _ _ => createOnly_idempotent, fun _ _ _ => mutateOvercommitDeployment_idempotent,
    fun _ _ _ _ h => mutateOvercommitDeployment_eq h ▸ compareAndSet_settles,
    fun _ _ => compareAndSet_settles, fun _ _ => compareAndSet_settles,
    fun _ _ => compareAndSet_settles, fun _ _ => compareAndSet_settles,
    fun _ _ => compareAndSet_settles, fun _ _ _ _ h hname => createOrUpdate_fixpoint h hname⟩

end OvercommitOperator
