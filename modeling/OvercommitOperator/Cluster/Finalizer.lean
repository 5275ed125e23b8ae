import OvercommitOperator.Cluster.Server
import OvercommitOperator.Reconcile.ClassRuns

/-!
# The finalizer protocol of the class reconciler

Every tick of the class reconciler, with either version's closures, satisfies a triple from
`True` over the cluster of its class (`reconcileWith_triple`), so by the soundness of the logic,
every state reachable by ticks racing with users, the API server and the garbage collector
satisfies `Inv`: while a managed object of the class exists, the class exists and carries
`overcommitclass.finalizer`. The order of the tick's early returns is what makes this hold: the
finalizer is persisted before any object is created, and it is removed only after the four
managed objects are deleted.
-/

namespace OvercommitOperator

section Protocol
variable {T : Templater} (N : ManagedNames T)

/-- A triple of a tick over the cluster of class `n`. -/
abbrev ClassTriple (n : String) {α : Type} (A : Cluster n → Prop) (x : Tick α)
    (Q : α → Cluster n → Prop) : Prop :=
  TickTriple Serves EnvStep (Inv N) A x Q

variable {N} {n : String} {A : Cluster n → Prop} {s s' : Cluster n}

/-! ## Requests -/

/-- Every request but an Update of the class leaves the class as it was. -/
theorem overcommitClass_of_serves {req : Request} {r : Except ApiError req.Payload}
    (hreq : ∀ c, req ≠ .updateClass c) (h : Serves req r s s') :
    s'.overcommitClass = s.overcommitClass := by
  cases req <;> cases r <;> first
    | exact absurd rfl (hreq _)
    | (obtain ⟨rfl, -⟩ := h; rfl)

theorem inv_setObject_none {k : Kind} {name : String} (hi : Inv N s) :
    Inv N (s.setObject k name none) :=
  fun hm => classHeld_of_eq rfl (hi (managed_of_setObject_none hm))

/-- A request that leaves the class as it was keeps a held class held, and so the invariant. -/
theorem classHeld_serves {req : Request} (hreq : ∀ c, req ≠ .updateClass c)
    (r : Except ApiError req.Payload) (s s' : Cluster n) (_ : Inv N s) (hs : ClassHeld s)
    (h : Serves req r s s') : Inv N s' ∧ ClassHeld s' :=
  have h' := classHeld_of_eq (overcommitClass_of_serves hreq h) hs
  ⟨fun _ => h', h'⟩

theorem sendE_classHeld {req : Request} (hreq : ∀ c, req ≠ .updateClass c) :
    ClassTriple N n ClassHeld (sendE req) fun _ => ClassHeld :=
  TickTriple.sendE _ (classHeld_serves hreq) fun _ => classHeld_stable

theorem sendRaw_classHeld {req : Request} (hreq : ∀ c, req ≠ .updateClass c) :
    ClassTriple N n ClassHeld (sendRaw req) fun _ => ClassHeld :=
  TickTriple.sendRaw _ (classHeld_serves hreq) fun _ => classHeld_stable

/-- A request the server answers without changing the cluster keeps every stable assertion. -/
theorem sendE_keep {req : Request} (hreq : ∀ r (s s' : Cluster n), Serves req r s s' → s' = s)
    (hA : Stable EnvStep (Inv N) A) : ClassTriple N n A (sendE req) fun _ => A :=
  TickTriple.sendE (fun _ => A) (fun r s s' hi ha h => hreq r s s' h ▸ ⟨hi, ha⟩) fun _ => hA

theorem serves_getOvercommitLabel {r : Except ApiError String} :
    Serves .getOvercommitLabel r s s' → s' = s := by
  cases r <;> exact id

/-- The class read by the tick is named `n`, and when it carries the finalizer, the class
holds it from then on. -/
theorem getIgnoreNotFound_getClass :
    ClassTriple N n (fun _ => True) (getIgnoreNotFound (.getClass n)) fun oc s =>
      ∀ c : OvercommitClass, oc = some c →
        c.meta.name = n ∧ (classFinalizer ∈ c.meta.finalizers → ClassHeld s) := by
  unfold getIgnoreNotFound
  refine TickTriple.bind (Q := fun (r : Except ApiError OvercommitClass) (s : Cluster n) =>
      ∀ c : OvercommitClass, r = .ok c →
        c.meta.name = n ∧ (classFinalizer ∈ c.meta.finalizers → ClassHeld s))
    (TickTriple.sendRaw _ ?_ ?_) fun r => ?_
  · intro r s s' hi _ h
    cases r with
    | ok c =>
      obtain ⟨rfl, hc⟩ := h
      exact ⟨hi, fun c' hc' => by
        cases hc'
        exact ⟨Cluster.name_eq _ c hc, fun hf => ⟨c, hc, hf⟩⟩⟩
    | error e => cases h; exact ⟨hi, fun _ h => nomatch h⟩
  · exact fun _ _ _ hi he h c hc => ⟨(h c hc).1, fun hf => classHeld_stable hi he ((h c hc).2 hf)⟩
  · cases r with
    | ok c => exact TickTriple.pure' fun _ _ h c' hc' => h c' (by cases hc'; rfl)
    | error e =>
      dsimp only
      split
      · exact TickTriple.pure' fun _ _ _ _ h => nomatch h
      · exact TickTriple.throw'

/-- The objects named in `L` are gone. -/
def Absent (L : List (Kind × String)) (s : Cluster n) : Prop := ∀ p ∈ L, s.objects p.1 p.2 = none

theorem absent_stable_list {L : List (Kind × String)} : Stable EnvStep (Inv N) (Absent (n := n) L) :=
  fun _ _ hi he h p hp => absent_stable hi he (h p hp)

/-- After a Delete that succeeded or found nothing, the object is gone. -/
theorem deleteIgnoreNotFound_absent {k : Kind} {name : String} {L : List (Kind × String)} :
    ClassTriple N n (Absent L) (deleteIgnoreNotFound k name) fun _ => Absent ((k, name) :: L) := by
  unfold deleteIgnoreNotFound
  refine TickTriple.bind (Q := fun (r : Except ApiError Unit) (s : Cluster n) =>
      Absent L s ∧ (r = .ok () ∨ r = .error .notFound → s.objects k name = none))
    (TickTriple.sendRaw _ ?_ ?_) fun r => ?_
  · intro r s s' hi ha h
    cases r with
    | ok u =>
      cases h
      exact ⟨inv_setObject_none hi, fun p hp => Cluster.objects_setObject_none (ha p hp),
        fun _ => Cluster.objects_setObject_self none⟩
    | error e =>
      obtain ⟨rfl, he⟩ := h
      exact ⟨hi, ha, fun h => he (by simpa using h)⟩
  · exact fun _ _ _ hi he h => ⟨absent_stable_list hi he h.1, fun hr => absent_stable hi he (h.2 hr)⟩
  · cases r with
    | ok u =>
      exact TickTriple.pure' fun _ _ h => List.forall_mem_cons.2 ⟨h.2 (.inl rfl), h.1⟩
    | error e =>
      dsimp only
      split
      · next he =>
        exact TickTriple.pure' fun _ _ h => List.forall_mem_cons.2 ⟨h.2 (.inr (he ▸ rfl)), h.1⟩
      · exact TickTriple.throw'

/-- With its four objects gone, the class manages nothing. -/
theorem not_managed_of_absent (h : Absent [(.mutatingWebhookConfiguration, N.webhook n),
    (.certificate, N.certificate n), (.service, N.service n), (.deployment, N.deployment n)] s) :
    ¬ Managed N s := by
  rintro ⟨k, name, hk, hne⟩
  cases k <;> cases hk <;> exact hne (h (_, _) (by simp))

/-- The cleanup deletes the four managed objects of the class. Reference: `cleanupResources`
(`src/internal/controller/overcommitclass/utils.go:21`). -/
theorem cleanupResources_vacates {cl : OvercommitClass} (hc : cl.meta.name = n) :
    ClassTriple N n (fun _ => True) (OvercommitClassReconciler.cleanupResources T cl)
      fun _ s => ¬ Managed N s := by
  unfold OvercommitClassReconciler.cleanupResources
  refine (TickTriple.pre (A := Absent []) deleteIgnoreNotFound_absent fun _ _ _ _ h => nomatch h).bind
    fun _ => deleteIgnoreNotFound_absent.bind fun _ => deleteIgnoreNotFound_absent.bind fun _ =>
      (sendE_keep (fun _ _ _ => serves_getOvercommitLabel) absent_stable_list).bind fun _ =>
        deleteIgnoreNotFound_absent.post fun _ _ _ h => not_managed_of_absent ?_
  simpa only [N.name_createDeployment, N.name_createService, N.name_createCertificate,
    N.name_createMutatingWebhookConfiguration, hc] using h

/-- `CreateOrUpdate` writes only the object it upserts, so a held class stays held. -/
theorem createOrUpdate_classHeld {k : Kind} {obj : k.Obj} {f : k.Obj → Except ApiError k.Obj} :
    ClassTriple N n ClassHeld (createOrUpdate k obj f) fun _ => ClassHeld := by
  unfold createOrUpdate
  refine (sendRaw_classHeld fun _ => Request.noConfusion).bind fun r => ?_
  cases r with
  | error e =>
    dsimp only
    split
    · refine TickTriple.liftExcept.bind fun obj' => ?_
      split
      · simp only [ExceptT.bind_throw]
        exact TickTriple.throw'
      · exact (sendE_classHeld fun _ => Request.noConfusion).pre fun _ _ h => h.1
    · exact TickTriple.throw'
  | ok existing =>
    refine TickTriple.liftExcept.bind fun obj' => ?_
    dsimp only
    split
    · simp only [ExceptT.bind_throw]
      exact TickTriple.throw'
    · simp only [pure_bind]
      split
      · exact TickTriple.pure' fun _ _ h => h.1
      · exact (sendE_classHeld fun _ => Request.noConfusion).pre fun _ _ h => h.1

/-- The upsert of the managed objects, the gauge and the status keep a held class held. -/
theorem reconcileResources_classHeld {cl : ClassClosures} {label : String} {c : OvercommitClass} :
    ClassTriple N n ClassHeld (OvercommitClassReconciler.reconcileResources T cl label c)
      fun _ => ClassHeld := by
  unfold OvercommitClassReconciler.reconcileResources
  refine createOrUpdate_classHeld.bind fun _ => createOrUpdate_classHeld.bind fun _ =>
    createOrUpdate_classHeld.bind fun _ => createOrUpdate_classHeld.bind fun _ =>
      (sendRaw_classHeld fun _ => Request.noConfusion).bind fun r => ?_
  cases r
  · exact TickTriple.pure' fun _ _ h => h
  · exact (TickTriple.pure' fun _ _ h => h).bind fun _ =>
      (sendE_classHeld fun _ => Request.noConfusion).bind fun _ => TickTriple.pure' fun _ _ h => h

/-- An Update of the class that keeps its finalizer keeps the invariant. -/
theorem inv_serves_updateClass {c : OvercommitClass} {r : Except ApiError Unit}
    (hf : classFinalizer ∈ c.meta.finalizers) (hi : Inv N s) (h : Serves (.updateClass c) r s s') :
    Inv N s' := by
  cases r with
  | ok u =>
    obtain ⟨-, c₀, -, hs'⟩ := h
    exact fun _ => ⟨_, hs', by simpa using hf⟩
  | error e => cases h; exact hi

/-- Once the managed objects are gone, any Update of the class keeps the invariant. -/
theorem inv_serves_updateClass_of_vacated {c : OvercommitClass} {r : Except ApiError Unit}
    (hm : ¬ Managed N s) (h : Serves (.updateClass c) r s s') : Inv N s' := by
  cases r with
  | ok u =>
    obtain ⟨ho, -⟩ := h
    exact fun hm' => absurd (managed_of_objects_eq ho hm') hm
  | error e => cases h; exact fun hm' => absurd hm' hm

/-- **Every tick keeps the invariant.** The three writes of the class are safe for three
reasons: the deletion branch removes the finalizer after the cleanup, when no managed object is
left; the finalizer branch adds it; the owner branch writes it back, since the class read carried
it. Every create comes after a read of the class with its finalizer. Reference:
`OvercommitClassReconciler.Reconcile` (`src/unnamed/part_001:237-342`). -/
theorem reconcileWith_triple (cl : ClassClosures) :
    ClassTriple N n (fun _ => True) (OvercommitClassReconciler.reconcileWith T cl n)
      fun _ _ => True := by
  unfold OvercommitClassReconciler.reconcileWith
  refine (sendE_keep (fun _ _ _ => serves_getOvercommitLabel) stable_true).bind fun label =>
    getIgnoreNotFound_getClass.bind fun oc => ?_
  rcases oc with _ | c
  · exact TickTriple.pure' fun _ _ _ => by trivial
  refine TickTriple.pre (TickTriple.pure_pre fun hname => ?_) fun s _ h => h c rfl
  dsimp only
  split
  · refine ((cleanupResources_vacates hname).pre fun _ _ _ => trivial).bind fun _ => ?_
    refine (TickTriple.sendE (fun _ _ => True) ?_ fun _ => stable_true).bind fun _ =>
      TickTriple.pure' fun _ _ _ => by trivial
    exact fun _ _ _ _ hm h => ⟨inv_serves_updateClass_of_vacated hm h, trivial⟩
  split
  · refine (TickTriple.sendE (fun _ _ => True) ?_ fun _ => stable_true).bind fun _ =>
      TickTriple.pure' fun _ _ _ => by trivial
    exact fun _ _ _ hi _ h => ⟨inv_serves_updateClass (finalizer_mem_addFinalizer _ _) hi h, trivial⟩
  next hfin =>
  have hf : classFinalizer ∈ c.meta.finalizers := by simpa [containsFinalizer] using hfin
  refine ((TickTriple.pure' (Q := fun _ => ClassHeld) fun _ _ h => h hf).bind fun _ =>
    (sendE_classHeld fun _ => Request.noConfusion).bind fun ov => ?_)
  dsimp only
  split
  · refine TickTriple.liftExcept.bind fun meta => ?_
    refine (TickTriple.sendE (fun _ _ => True) ?_ fun _ => stable_true).bind fun _ =>
      TickTriple.pure' fun _ _ _ => by trivial
    rintro r s s' hi ⟨-, hmeta⟩ h
    obtain ⟨rfl, -⟩ := setControllerReference_eq_ok hmeta
    exact ⟨inv_serves_updateClass (by exact hf) hi h, trivial⟩
  · exact (TickTriple.pure' fun _ _ h => h).bind fun _ =>
      reconcileResources_classHeld.post fun _ _ _ _ => trivial

/-- A server step never removes the class. -/
theorem overcommitClass_ne_none_of_serves {req : Request} {r : Except ApiError req.Payload}
    (h : Serves req r s s') (hs : s.overcommitClass ≠ none) : s'.overcommitClass ≠ none := by
  by_cases hreq : ∀ c, req ≠ .updateClass c
  · rwa [overcommitClass_of_serves hreq h]
  · obtain ⟨c, rfl⟩ : ∃ c, req = .updateClass c := by simpa using hreq
    cases r with
    | ok u => obtain ⟨-, c₀, -, hs'⟩ := h; simp [hs']
    | error e => cases h; exact hs

/-- The class goes only by a user's Delete of a class without finalizers, or by the API server
once its finalizers are gone; either leaves the objects as they are. -/
theorem removal_step {tick : Prog (Except ApiError CtrlResult)} {c c' : Config (Cluster n) _}
    (h : Step Serves EnvStep tick c c') (hc : c.state.overcommitClass ≠ none)
    (hc' : c'.state.overcommitClass = none) :
    ¬ ClassHeld c.state ∧ c'.state.objects = c.state.objects := by
  cases h with
  | start | finish => exact absurd hc' hc
  | call hs => exact absurd hc' (overcommitClass_ne_none_of_serves hs hc)
  | env he =>
    cases he with
    | create hs => exact absurd hs hc
    | delete hs hf _ ho | finalize hs _ hf _ ho => exact ⟨not_classHeld_of_finalizers_nil hs hf, ho⟩
    | markDeleted _ _ _ hs' => simp [hs'] at hc'
    | collect => exact absurd hc' hc

end Protocol

section Theorem
variable {T : Templater} (N : ManagedNames T) {n : String}

/-- **A class outlives its managed objects.** In every state reachable by ticks of the class
reconciler (with either version's closures) racing with users, the API server and the garbage
collector, every request of every tick answered or failed at will, a managed object of the class
exists only while the class exists with `overcommitclass.finalizer`; so no step removes the class
while one of its managed objects remains. -/
theorem class_outlives_managed_objects (cl : ClassClosures)
    {c c' : Config (Cluster n) (Except ApiError CtrlResult)}
    (h : Reachable Serves EnvStep (OvercommitClassReconciler.reconcileWith T cl n).run (Inv N) c) :
    (Managed N c.state → ClassHeld c.state) ∧
      (Step Serves EnvStep (OvercommitClassReconciler.reconcileWith T cl n).run c c' →
        c.state.overcommitClass ≠ none → c'.state.overcommitClass = none → ¬ Managed N c'.state) := by
  have hi : Inv N c.state :=
    h.sound (fun _ h => h) (fun _ _ hi he => inv_envStep he hi) (reconcileWith_triple cl)
  refine ⟨hi, fun hstep hc hc' hm => ?_⟩
  obtain ⟨hheld, ho⟩ := removal_step hstep hc hc'
  exact not_managed_of_not_classHeld hi hheld (managed_of_objects_eq ho hm)

end Theorem

/-- The names `Templater.bare` gives a class's objects: the class name. -/
def Templater.bareNames : ManagedNames Templater.bare :=
  ⟨id, id, id, id, fun _ => rfl, fun _ => rfl, fun _ _ => rfl, fun _ _ _ _ => rfl⟩

/-- The four objects `Templater.bare` builds for the class `gold`, each under the class name. -/
def goldObjects : (k : Kind) → String → Option k.Obj
  | .deployment, "gold" => some (Templater.bare.createDeployment (goldClass [] none))
  | .service, "gold" => some (Templater.bare.createService "gold")
  | .certificate, "gold" =>
    some (Templater.bare.createCertificate "gold" (Templater.bare.createService "gold"))
  | .mutatingWebhookConfiguration, "gold" =>
    some (Templater.bare.createMutatingWebhookConfiguration (goldClass [] none)
      (Templater.bare.createService "gold")
      (Templater.bare.createCertificate "gold" (Templater.bare.createService "gold")) "")
  | _, _ => none

/-- The class `gold`, with its finalizer and the singleton's controller reference, and its four
objects. -/
def goldManaged : Cluster "gold" :=
  ⟨some (goldClass [clusterOwnerRef (some true)] none), goldObjects, fun _ h => by cases h; rfl⟩

/-- The same cluster once a user has deleted the class, which its finalizer keeps: the class is
only marked. -/
def goldMarked : Cluster "gold" :=
  ⟨some ⟨(goldClass [clusterOwnerRef (some true)] none).meta.markDeleted 5, ()⟩, goldObjects,
    fun _ h => by cases h; rfl⟩

/-- The class with its four objects, and a user's deletion of it: the state holds managed objects
and the class with its finalizer, and the deletion step leaves the class in place. -/
theorem class_outlives_managed_objects_marked :
    Managed Templater.bareNames goldManaged ∧
      Step Serves EnvStep (OvercommitClassReconciler.reconcileWith Templater.bare .current "gold").run
        ⟨goldManaged, none⟩ ⟨goldMarked, none⟩ ∧
      (Managed Templater.bareNames goldManaged → ClassHeld goldManaged) ∧
      (Step Serves EnvStep (OvercommitClassReconciler.reconcileWith Templater.bare .current "gold").run
          ⟨goldManaged, none⟩ ⟨goldMarked, none⟩ →
        goldManaged.overcommitClass ≠ none → goldMarked.overcommitClass = none →
          ¬ Managed Templater.bareNames goldMarked) :=
  ⟨⟨.deployment, "gold", rfl, by simp [goldManaged, goldObjects]⟩,
    .env (.markDeleted rfl (List.cons_ne_nil _ _) (by decide) rfl rfl),
    class_outlives_managed_objects Templater.bareNames .current
      (Reachable.init fun _ => ⟨_, rfl, List.mem_singleton_self _⟩)⟩

end OvercommitOperator
