import Mathlib.Logic.Function.Basic
import OvercommitOperator.Reconcile.Logic
import OvercommitOperator.Reconcile.Class

/-!
# The cluster of one class

What the ticks of the class reconciler for one class `n` act on: the class, and the objects by
kind and name. The API server answers each request (`Serves`): a read returns what is stored, a
write stores what the answer says, and any request may fail and leave the cluster as it was; a
`NotFound` from a Delete means the object is gone. The ticks race with users, who create and
delete the class, the API server, which removes a deleted class once it has no finalizers, and the
garbage collector, which deletes objects (`EnvStep`).

The templater names a class's managed objects by functions of the class name alone
(`ManagedNames`). `Inv` is the invariant of the finalizer protocol: while one of the managed
objects exists, the class exists and carries `overcommitclass.finalizer`.
-/

namespace OvercommitOperator

/-- What an Update stores: the written metadata, but for the fields the server owns. -/
def ObjectMeta.updatedBy (stored written : ObjectMeta) : ObjectMeta :=
  { written with name := stored.name, uid := stored.uid,
                 creationTimestamp := stored.creationTimestamp,
                 deletionTimestamp := stored.deletionTimestamp }

@[simp] theorem ObjectMeta.finalizers_updatedBy (stored written : ObjectMeta) :
    (stored.updatedBy written).finalizers = written.finalizers := rfl

/-- What a Delete does to an object with finalizers: it sets the deletion timestamp, unless one is
set already. -/
def ObjectMeta.markDeleted (meta : ObjectMeta) (t : Time) : ObjectMeta :=
  { meta with deletionTimestamp :=
      if isZero meta.deletionTimestamp then some t else meta.deletionTimestamp }

@[simp] theorem ObjectMeta.finalizers_markDeleted (meta : ObjectMeta) (t : Time) :
    (meta.markDeleted t).finalizers = meta.finalizers := rfl

/-- The class `n` and the objects of the cluster. The class, when it exists, is named `n`. -/
structure Cluster (n : String) where
  overcommitClass : Option OvercommitClass
  objects : (k : Kind) → String → Option k.Obj
  name_eq : ∀ c, overcommitClass = some c → c.meta.name = n

namespace Cluster
variable {n : String} {s s' : Cluster n} {k k' : Kind} {name name' : String}

/-- Stores (or with `none` removes) the object of kind `k` named `name`. -/
def setObject (s : Cluster n) (k : Kind) (name : String) (o : Option k.Obj) : Cluster n :=
  { s with objects := Function.update s.objects k (Function.update (s.objects k) name o) }

@[simp] theorem setObject_overcommitClass (o : Option k.Obj) :
    (s.setObject k name o).overcommitClass = s.overcommitClass := rfl

@[simp] theorem objects_setObject_self (o : Option k.Obj) :
    (s.setObject k name o).objects k name = o := by
  simp [setObject]

/-- Removing an object keeps every absent object absent. -/
theorem objects_setObject_none (h : s.objects k' name' = none) :
    (s.setObject k name none).objects k' name' = none := by
  unfold setObject
  by_cases hk : k' = k
  · subst hk
    by_cases hn : name' = name
    · subst hn; simp
    · simp [Function.update_noteq hn, h]
  · simp [Function.update_noteq hk, h]

end Cluster

/-- The names the templater gives the managed objects of a class, each a function of the class
name alone. -/
structure ManagedNames (T : Templater) where
  deployment : String → String
  service : String → String
  certificate : String → String
  webhook : String → String
  name_createDeployment : ∀ c, (T.createDeployment c).meta.name = deployment c.meta.name
  name_createService : ∀ name, (T.createService name).meta.name = service name
  name_createCertificate : ∀ name svc, (T.createCertificate name svc).meta.name = certificate name
  name_createMutatingWebhookConfiguration : ∀ c svc cert label,
    (T.createMutatingWebhookConfiguration c svc cert label).meta.name = webhook c.meta.name

/-- The name of the managed object of kind `k` of class `n`, for the four managed kinds. -/
def ManagedNames.nameOf {T : Templater} (N : ManagedNames T) (n : String) : Kind → Option String
  | .deployment => some (N.deployment n)
  | .service => some (N.service n)
  | .certificate => some (N.certificate n)
  | .mutatingWebhookConfiguration => some (N.webhook n)
  | .issuer | .validatingWebhookConfiguration => none

section Server
variable {n : String}

/-- The API server's answer `r` to `req`, taking the cluster from `s` to `s'`. A failed request
leaves the cluster as it was. Optimistic concurrency is left out: an Update of a stale object may
succeed, which only gives the ticks more runs. -/
def Serves : (req : Request) → Except ApiError req.Payload → Cluster n → Cluster n → Prop
  | .getClass _, .ok c, s, s' => s' = s ∧ s.overcommitClass = some c
  | .updateClass c, .ok _, s, s' => s'.objects = s.objects ∧ ∃ c₀,
      s.overcommitClass = some c₀ ∧ s'.overcommitClass = some ⟨c₀.meta.updatedBy c.meta, c.body⟩
  | .get k name, .ok o, s, s' => s' = s ∧ s.objects k name = some o
  | .create k o, .ok o', s, s' => s' = s.setObject k o.meta.name (some o')
  | .update k o, .ok o', s, s' => s' = s.setObject k o.meta.name (some o')
  | .delete k name, .ok _, s, s' => s' = s.setObject k name none
  | .delete k name, .error e, s, s' => s' = s ∧ (e = .notFound → s.objects k name = none)
  | _, _, s, s' => s' = s

/-- The environment: users create and delete the class (a deletion only marks a class that has
finalizers), the API server removes a marked class once its finalizers are gone, and the garbage
collector deletes objects. -/
inductive EnvStep : Cluster n → Cluster n → Prop
  | create {s s' : Cluster n} {c : OvercommitClass} :
      s.overcommitClass = none → c.meta.deletionTimestamp = none →
      s'.overcommitClass = some c → s'.objects = s.objects → EnvStep s s'
  | delete {s s' : Cluster n} {c : OvercommitClass} :
      s.overcommitClass = some c → c.meta.finalizers = [] →
      s'.overcommitClass = none → s'.objects = s.objects → EnvStep s s'
  | markDeleted {s s' : Cluster n} {c : OvercommitClass} {t : Time} :
      s.overcommitClass = some c → c.meta.finalizers ≠ [] → 0 < t →
      s'.overcommitClass = some ⟨c.meta.markDeleted t, c.body⟩ →
      s'.objects = s.objects → EnvStep s s'
  | finalize {s s' : Cluster n} {c : OvercommitClass} :
      s.overcommitClass = some c → isZero c.meta.deletionTimestamp = false →
      c.meta.finalizers = [] → s'.overcommitClass = none → s'.objects = s.objects → EnvStep s s'
  | collect {s : Cluster n} (k : Kind) (name : String) : EnvStep s (s.setObject k name none)

variable {T : Templater} (N : ManagedNames T)

/-- The class exists and carries its finalizer. -/
def ClassHeld (s : Cluster n) : Prop :=
  ∃ c, s.overcommitClass = some c ∧ classFinalizer ∈ c.meta.finalizers

/-- Some managed object of the class exists. -/
def Managed (s : Cluster n) : Prop :=
  ∃ k name, N.nameOf n k = some name ∧ s.objects k name ≠ none

/-- **The invariant of the finalizer protocol.** -/
def Inv (s : Cluster n) : Prop := Managed N s → ClassHeld s

variable {N} {s s' : Cluster n} {k : Kind} {name : String}

theorem classHeld_of_eq (h : s'.overcommitClass = s.overcommitClass) (hs : ClassHeld s) :
    ClassHeld s' := by
  obtain ⟨c, hc, hf⟩ := hs
  exact ⟨c, h.trans hc, hf⟩

theorem managed_of_objects_eq (h : s'.objects = s.objects) (hs : Managed N s') : Managed N s := by
  obtain ⟨k, name, hk, hne⟩ := hs
  exact ⟨k, name, hk, h ▸ hne⟩

theorem managed_of_setObject_none (hs : Managed N (s.setObject k name none)) : Managed N s := by
  obtain ⟨k', name', hk, hne⟩ := hs
  exact ⟨k', name', hk, fun h => hne (Cluster.objects_setObject_none h)⟩

/-- A cluster without a class, or with a class without finalizers, holds no managed object. -/
theorem not_managed_of_not_classHeld (hi : Inv N s) (h : ¬ ClassHeld s) : ¬ Managed N s :=
  fun hm => h (hi hm)

theorem not_classHeld_of_finalizers_nil {c : OvercommitClass} (hs : s.overcommitClass = some c)
    (hf : c.meta.finalizers = []) : ¬ ClassHeld s := by
  rintro ⟨c', hc', hm⟩
  cases hs.symm.trans hc'
  simp [hf] at hm

/-- The environment keeps the invariant. -/
theorem inv_envStep (h : EnvStep s s') (hi : Inv N s) : Inv N s' := by
  intro hm
  cases h with
  | create hs _ _ ho =>
    exact absurd (hi (managed_of_objects_eq ho hm)) fun ⟨_, hc, _⟩ => nomatch hs.symm.trans hc
  | delete hs hf _ ho =>
    exact absurd (hi (managed_of_objects_eq ho hm)) (not_classHeld_of_finalizers_nil hs hf)
  | markDeleted hs _ _ hs' ho =>
    obtain ⟨c, hc, hf⟩ := hi (managed_of_objects_eq ho hm)
    cases hs.symm.trans hc
    exact ⟨_, hs', by simpa using hf⟩
  | finalize hs _ hf _ ho =>
    exact absurd (hi (managed_of_objects_eq ho hm)) (not_classHeld_of_finalizers_nil hs hf)
  | collect => exact hi (managed_of_setObject_none hm)

/-- Once the class holds its finalizer, only the reconciler removes it. -/
theorem classHeld_stable : Stable EnvStep (Inv N) (ClassHeld (n := n)) := by
  intro s s' _ h hs
  cases h with
  | create hs₀ => exact absurd hs fun ⟨_, hc, _⟩ => nomatch hs₀.symm.trans hc
  | delete hs₀ hf => exact absurd hs (not_classHeld_of_finalizers_nil hs₀ hf)
  | markDeleted hs₀ _ _ hs' =>
    obtain ⟨c, hc, hf⟩ := hs
    cases hs₀.symm.trans hc
    exact ⟨_, hs', by simpa using hf⟩
  | finalize hs₀ _ hf => exact absurd hs (not_classHeld_of_finalizers_nil hs₀ hf)
  | collect => exact hs

/-- Once an object is gone, nothing in the environment brings it back. -/
theorem absent_stable : Stable EnvStep (Inv N) fun s : Cluster n => s.objects k name = none := by
  intro s s' _ h hs
  cases h with
  | create _ _ _ ho | delete _ _ _ ho | markDeleted _ _ _ _ ho | finalize _ _ _ _ ho => rwa [ho]
  | collect => exact Cluster.objects_setObject_none hs

end Server

end OvercommitOperator
