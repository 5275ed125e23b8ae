import OvercommitOperator.Reconcile.Singleton

/-!
# What the reconcilers write, their policy object controls

Every object a tick creates or updates has the tick's policy object as its controller: the
singleton `Overcommit` for `OvercommitReconciler.Reconcile` (`reconcile_writes_controlled`), the
class for `OvercommitClassReconciler.Reconcile` in both of its versions
(`reconcileWith_writes_controlled`). The garbage collector deletes what a deleted owner controls,
so it removes every object the operator wrote along with that object's owner.

The proof lands in four steps:

* each closure shape gives what it changes the owner it is handed (`Owns`): the create branch sets
  the controller reference, and on an existing object `createOnly` returns it unchanged while
  `compareAndSet` returns it unchanged or sets the reference with the fields it assigns;
* `CreateOrUpdate` of a new templated object with such a closure writes only objects the owner
  controls, since a closure that returns the existing object makes it write nothing;
* the other requests of a tick write no managed object: reads, Deletes, the class and singleton
  Updates, the status update with its retries;
* a tick reads the label, then its policy object, and from then on the owner is fixed
  (`runs_label_then_get`).

The one assumption is that the templater builds new objects, with a zero creation time, as every
constructor in Go does (`Templater.Fresh`). An existing object without the reference whose owned
fields all compare equal is left as it is: the theorems are about what is written.
-/

namespace OvercommitOperator

/-- The metadata of the object a Create or an Update writes. -/
def Request.written : Request → Option ObjectMeta
  | .create _ o | .update _ o => some o.meta
  | _ => none

/-- Every object the request writes has the controller `p`. -/
def WritesControlled (p : Owner) (req : Request) : Prop :=
  ∀ meta, req.written = some meta → ControlledBy p meta

theorem writesControlled_of_written {p : Owner} {req : Request} (h : req.written = none) :
    WritesControlled p req :=
  fun _ h' => nomatch h.symm.trans h'

/-! ## Closures that give what they change an owner -/

section Closures
variable {B : Type} {p : Owner}

/-- A mutate closure that gives what it changes the controller `p`: its result has `p` as
controller, or is the existing object it was handed. -/
def Owns (p : Owner) (f : Object B → Except ApiError (Object B)) : Prop :=
  ∀ ⦃o o'⦄, f o = .ok o' → ControlledBy p o'.meta ∨ o.meta.creationTimestamp ≠ 0 ∧ o' = o

theorem createOnly_owns {a : Assign B} : Owns p (createOnly p a) := by
  intro o o' h
  unfold createOnly at h
  split at h
  · exact .inl (controlledBy_withControllerReference h)
  · exact .inr ⟨‹_›, (Except.ok.inj h).symm⟩

theorem compareAndSet_owns {a : Assign B} {s : Sync B} : Owns p (compareAndSet p a s) := by
  intro o o' h
  by_cases hts : o.meta.creationTimestamp = 0
  · unfold compareAndSet at h
    rw [if_pos hts] at h
    exact .inl (controlledBy_withControllerReference h)
  · obtain ⟨-, hctl, hsame⟩ := compareAndSet_existing hts h
    cases ho : s.owned o
    · exact .inl (hctl ho)
    · exact .inr ⟨hts, hsame ho⟩

theorem mutateOvercommitDeployment_owns {env : ImageEnv} {desired : Deployment} :
    Owns p (mutateOvercommitDeployment p env desired) := by
  intro o o' h
  unfold mutateOvercommitDeployment at h
  cases hu : withImageFromEnv env desired with
  | error e => rw [hu] at h; cases h
  | ok u => rw [hu] at h; exact compareAndSet_owns h

/-- Class closures each of which gives what it changes the owner it is handed. -/
def ClassClosures.Owning (cl : ClassClosures) : Prop :=
  ∀ p, (∀ d, Owns p (cl.deployment p d)) ∧ (∀ s, Owns p (cl.service p s)) ∧
    (∀ c, Owns p (cl.certificate p c)) ∧ ∀ w, Owns p (cl.webhook p w)

theorem ClassClosures.current_owning : ClassClosures.current.Owning :=
  fun _ => ⟨fun _ => compareAndSet_owns, fun _ => compareAndSet_owns,
    fun _ => compareAndSet_owns, fun _ => compareAndSet_owns⟩

theorem ClassClosures.older_owning : ClassClosures.older.Owning :=
  fun _ => ⟨fun _ => compareAndSet_owns, fun _ => createOnly_owns,
    fun _ => createOnly_owns, fun _ => createOnly_owns⟩

end Closures

/-! ## The upsert -/

/-- **`CreateOrUpdate` of a new object writes only what the closure's owner controls.** A closure
that returns the existing object makes it write nothing. -/
theorem createOrUpdate_writesControlled {p : Owner} {k : Kind} {obj : k.Obj}
    {f : k.Obj → Except ApiError k.Obj} (hf : Owns p f) (hts : obj.meta.creationTimestamp = 0) :
    Prog.Sends (WritesControlled p) (createOrUpdate k obj f).run := by
  unfold createOrUpdate
  refine sends_sendRaw_bind (writesControlled_of_written rfl) fun r => ?_
  cases r with
  | error e =>
    dsimp only
    split
    · cases hfo : f obj with
      | error => exact .ret _
      | ok obj' =>
        rw [liftExcept_ok_bind]
        split
        · exact .ret _
        · refine sends_sendE fun meta hm => ?_
          cases hm
          exact (hf hfo).resolve_right fun h => h.1 hts
    · exact .ret _
  | ok existing =>
    dsimp only
    cases hfo : f existing with
    | error => exact .ret _
    | ok obj' =>
      rw [liftExcept_ok_bind]
      split
      · exact .ret _
      · rw [pure_bind]
        split
        · exact .ret _
        · refine sends_sendE fun meta hm => ?_
          cases hm
          exact (hf hfo).resolve_right fun h => ‹¬k.semEqual existing obj' = true› (h.2 ▸ k.semEqual_refl _)

/-- The templater builds new objects: each has a zero creation time, as every object a Go
constructor returns. -/
structure Templater.Fresh (T : Templater) : Prop where
  issuer : ∀ i, T.generateIssuer = some i → i.meta.creationTimestamp = 0
  ocDeployment : ∀ o, (T.generateOvercommitClassValidatingDeployment o).meta.creationTimestamp = 0
  ocService : ∀ d, (T.generateOvercommitClassValidatingService d).meta.creationTimestamp = 0
  ocCertificate : ∀ i s,
    (T.generateCertificateValidatingOvercommitClass i s).meta.creationTimestamp = 0
  ocWebhook : ∀ d s c,
    (T.generateOvercommitClassValidatingWebhookConfiguration d s c).meta.creationTimestamp = 0
  podDeployment : ∀ o, (T.generatePodValidatingDeployment o).meta.creationTimestamp = 0
  podService : ∀ d, (T.generatePodValidatingService d).meta.creationTimestamp = 0
  podCertificate : ∀ i s, (T.generateCertificateValidatingPods i s).meta.creationTimestamp = 0
  podWebhook : ∀ d s c l,
    (T.generatePodValidatingWebhookConfiguration d s c l).meta.creationTimestamp = 0
  controllerDeployment : ∀ o,
    (T.generateOvercommitClassControllerDeployment o).meta.creationTimestamp = 0
  classDeployment : ∀ c, (T.createDeployment c).meta.creationTimestamp = 0
  classService : ∀ name, (T.createService name).meta.creationTimestamp = 0
  classCertificate : ∀ name s, (T.createCertificate name s).meta.creationTimestamp = 0
  classWebhook : ∀ c s cert l,
    (T.createMutatingWebhookConfiguration c s cert l).meta.creationTimestamp = 0

theorem Templater.bare_fresh : Templater.bare.Fresh where
  issuer _ h := by cases h; rfl
  ocDeployment _ := rfl
  ocService _ := rfl
  ocCertificate _ _ := rfl
  ocWebhook _ _ _ := rfl
  podDeployment _ := rfl
  podService _ := rfl
  podCertificate _ _ := rfl
  podWebhook _ _ _ _ := rfl
  controllerDeployment _ := rfl
  classDeployment _ := rfl
  classService _ := rfl
  classCertificate _ _ := rfl
  classWebhook _ _ _ _ := rfl

/-! ## The ticks -/

/-- The runs of a tick that reads the label, then its policy object NotFound-tolerant, and stops
when the object is gone: the two reads write nothing, and after them the tick sends what `Q` of
the object read allows. -/
theorem runs_label_then_get {β : Type} {get : Request} {f : String → Option get.Payload → Tick β}
    {Q : get.Payload → Request → Prop} (hget : get.written = none)
    (hnone : ∀ l, Prog.Sends (fun req => req.written = none) (f l none).run)
    (hsome : ∀ l a, Prog.Sends (Q a) (f l (some a)).run) {tr : List Prog.Exchange}
    {r : Except ApiError β}
    (h : Prog.Runs (sendE .getOvercommitLabel >>= fun l => getIgnoreNotFound get >>= f l).run tr r) :
    (∀ ex ∈ tr, ex.1.written = none) ∨
      ∃ l a rest, tr = ⟨.getOvercommitLabel, .ok l⟩ :: ⟨get, .ok a⟩ :: rest ∧ ∀ ex ∈ rest, Q a ex.1 := by
  rcases runs_tick_bind.1 h with ⟨_, tr, l, rfl, h₁, h₂⟩ | ⟨e, h₁, -⟩
  · rw [runs_sendE_iff.1 h₁]
    rcases runs_tick_bind.1 h₂ with ⟨_, tr, x, rfl, h₂, h₃⟩ | ⟨e, h₂, -⟩
    · obtain ⟨v, rfl, hv⟩ := runs_getIgnoreNotFound h₂
      cases x with
      | none =>
        exact .inl (List.forall_mem_cons.2 ⟨rfl, List.forall_mem_cons.2 ⟨hget, (hnone l).runs h₃⟩⟩)
      | some a =>
        cases hv a rfl
        exact .inr ⟨l, a, tr, rfl, (hsome l a).runs h₃⟩
    · obtain ⟨v, rfl, -⟩ := runs_getIgnoreNotFound h₂
      exact .inl (List.forall_mem_cons.2 ⟨rfl, List.forall_mem_cons.2 ⟨hget, fun _ h => nomatch h⟩⟩)
  · rw [runs_sendE_iff.1 h₁]
    exact .inl (List.forall_mem_cons.2 ⟨rfl, fun _ h => nomatch h⟩)

namespace OvercommitReconciler
variable (T : Templater) (env : ImageEnv) (now : Time)

/-- The status update, retries included, writes no managed object. -/
theorem updateOvercommitStatusSafelyLoop_written (attempt remaining : Nat) :
    Prog.Sends (fun req => req.written = none)
      (updateOvercommitStatusSafelyLoop T now attempt remaining).run := by
  induction remaining generalizing attempt with
  | zero => exact .ret _
  | succ n ih =>
    refine sends_sendRaw_bind rfl fun r => ?_
    cases r with
    | error e => dsimp only; split <;> exact .ret _
    | ok o =>
      refine sends_tick_bind (sends_lift ((updateOvercommitStatus_sends T).mono fun req h => ?_))
        fun r => ?_
      · cases req <;> first | rfl | exact False.elim h
      · cases r with
        | ok => exact .ret _
        | error e =>
          dsimp only
          split
          · exact .ret _
          · split
            · exact sends_sendRaw_bind rfl fun _ => ih _
            · exact .ret _

/-- **Every object the singleton's tick writes has the singleton as controller.** A run that
writes anything reads the label and the singleton `s` first, and every Create and Update after
them is of an object that `s` controls. -/
theorem reconcile_writes_controlled (hT : T.Fresh) {req : String} {tr : List Prog.Exchange}
    {r : Except ApiError CtrlResult} (h : Prog.Runs (reconcile T env now req).run tr r) :
    (∀ ex ∈ tr, ex.1.written = none) ∨ ∃ l s rest,
      tr = ⟨.getOvercommitLabel, .ok l⟩ :: ⟨.getOvercommitCR req, .ok s⟩ :: rest ∧
        ∀ ex ∈ rest, WritesControlled (overcommitOwner s.meta) ex.1 := by
  refine runs_label_then_get (by rfl) (fun _ => by exact .ret _) (fun l s => ?_) h
  have hc : ∀ {k : Kind} {obj : k.Obj} {f : k.Obj → Except ApiError k.Obj},
      Owns (overcommitOwner s.meta) f → obj.meta.creationTimestamp = 0 →
      Prog.Sends (WritesControlled (overcommitOwner s.meta)) (createOrUpdate k obj f).run :=
    createOrUpdate_writesControlled
  dsimp only
  rcases removeLegacyFinalizers s.meta with ⟨meta, _ | _⟩
  · simp only [Bool.false_eq_true, ↓reduceIte, pure_bind]
    rcases hi : T.generateIssuer with _ | issuer
    · exact .ret _
    -- the issuer, the Overcommit validator, the pod validator (its webhook configuration
    -- Conflict-tolerant), the class controller, and the status update
    exact sends_tick_bind (hc createOnly_owns (hT.issuer _ hi)) fun _ =>
      sends_tick_bind (hc createOnly_owns (hT.ocCertificate _ _)) fun _ =>
      sends_tick_bind (hc mutateOvercommitDeployment_owns (hT.ocDeployment _)) fun _ =>
      sends_tick_bind (hc createOnly_owns (hT.ocService _)) fun _ =>
      sends_tick_bind (hc createOnly_owns (hT.ocWebhook _ _ _)) fun _ =>
      sends_tick_bind (hc createOnly_owns (hT.podCertificate _ _)) fun _ =>
      sends_tick_bind (hc mutateOvercommitDeployment_owns (hT.podDeployment _)) fun _ =>
      sends_tick_bind (hc createOnly_owns (hT.podService _)) fun _ =>
      sends_tick_bind (sends_ignoreConflict (hc createOnly_owns (hT.podWebhook _ _ _ _))) fun _ =>
      sends_tick_bind (hc mutateOvercommitDeployment_owns (hT.controllerDeployment _)) fun _ =>
      sends_tick_bind (sends_lift ((updateOvercommitStatusSafelyLoop_written T now _ _).mono
        fun _ => writesControlled_of_written)) fun _ => .ret _
  · simp only [↓reduceIte]
    exact sends_tick_bind (sends_sendE (writesControlled_of_written rfl)) fun _ => .ret _

/-- The singleton's tick against the scripted server, which finds none of the objects. -/
def bareRun : List Prog.Exchange × Except ApiError CtrlResult :=
  Prog.exec (scriptedAnswer (goldClass [] none) (.ok defaultLabel) (.ok ()))
    (reconcile Templater.bare ⟨"", "", ""⟩ 0 "cluster").run

theorem reconcile_writes_controlled_bare :
    (∀ ex ∈ bareRun.1, ex.1.written = none) ∨ ∃ l s rest,
      bareRun.1 = ⟨.getOvercommitLabel, .ok l⟩ :: ⟨.getOvercommitCR "cluster", .ok s⟩ :: rest ∧
        ∀ ex ∈ rest, WritesControlled (overcommitOwner s.meta) ex.1 :=
  reconcile_writes_controlled Templater.bare ⟨"", "", ""⟩ 0 Templater.bare_fresh
    (Prog.runs_exec _ _)

end OvercommitReconciler

namespace OvercommitClassReconciler
variable (T : Templater)

/-- The cleanup only deletes. -/
theorem cleanupResources_written (c : OvercommitClass) :
    Prog.Sends (fun req => req.written = none) (cleanupResources T c).run :=
  sends_tick_bind (sends_deleteIgnoreNotFound rfl) fun _ =>
    sends_tick_bind (sends_deleteIgnoreNotFound rfl) fun _ =>
    sends_tick_bind (sends_deleteIgnoreNotFound rfl) fun _ =>
    sends_tick_bind (sends_sendE rfl) fun _ => sends_deleteIgnoreNotFound rfl

theorem reconcileResources_writesControlled (hT : T.Fresh) {cl : ClassClosures} (hcl : cl.Owning)
    (label : String) (c : OvercommitClass) :
    Prog.Sends (WritesControlled (classOwner c.meta)) (reconcileResources T cl label c).run := by
  obtain ⟨hd, hs, hc, hw⟩ := hcl (classOwner c.meta)
  -- the Deployment, Service, Certificate and webhook configuration, then the metrics refresh and
  -- the status update
  refine sends_tick_bind (createOrUpdate_writesControlled (hd _) (hT.classDeployment _)) fun _ =>
    sends_tick_bind (createOrUpdate_writesControlled (hs _) (hT.classService _)) fun _ =>
    sends_tick_bind (createOrUpdate_writesControlled (hc _) (hT.classCertificate _ _)) fun _ =>
    sends_tick_bind (createOrUpdate_writesControlled (hw _) (hT.classWebhook _ _ _ _)) fun _ =>
    sends_sendRaw_bind (writesControlled_of_written rfl) fun r => ?_
  cases r
  · exact .ret _
  · dsimp only
    exact sends_tick_bind (.ret _) fun _ =>
      sends_tick_bind (sends_sendE (writesControlled_of_written rfl)) fun _ => .ret _

/-- **Every object the class's tick writes has the class as controller**, with the closures of
either version. A run that writes anything reads the label and the class `c` first, and every
Create and Update after them is of an object that `c` controls. -/
theorem reconcileWith_writes_controlled (hT : T.Fresh) {cl : ClassClosures} (hcl : cl.Owning)
    {req : String} {tr : List Prog.Exchange} {r : Except ApiError CtrlResult}
    (h : Prog.Runs (reconcileWith T cl req).run tr r) :
    (∀ ex ∈ tr, ex.1.written = none) ∨ ∃ l c rest,
      tr = ⟨.getOvercommitLabel, .ok l⟩ :: ⟨.getClass req, .ok c⟩ :: rest ∧
        ∀ ex ∈ rest, WritesControlled (classOwner c.meta) ex.1 := by
  refine runs_label_then_get (by rfl) (fun _ => by exact .ret _) (fun l c => ?_) h
  have hno : ∀ {req : Request}, req.written = none → WritesControlled (classOwner c.meta) req :=
    writesControlled_of_written
  dsimp only
  -- the deletion; each `if` that does not return goes on after a `pure ()`
  split
  · exact sends_tick_bind ((cleanupResources_written T c).mono fun _ => hno) fun _ =>
      sends_tick_bind (sends_sendE (hno rfl)) fun _ => .ret _
  refine sends_tick_bind (.ret _) fun _ => ?_
  -- the finalizer
  split
  · exact sends_tick_bind (sends_sendE (hno rfl)) fun _ => .ret _
  -- the owner reference
  refine sends_tick_bind (.ret _) fun _ => sends_tick_bind (sends_sendE (hno rfl)) fun _ => ?_
  split
  · exact sends_tick_bind (.ret _) fun _ => sends_tick_bind (sends_sendE (hno rfl)) fun _ => .ret _
  · exact sends_tick_bind (.ret _) fun _ => reconcileResources_writesControlled T hT hcl l c

/-- The class tick against the scripted server, which finds none of the class's objects. -/
def goldRun : List Prog.Exchange × Except ApiError CtrlResult :=
  Prog.exec (scriptedAnswer (goldClass [clusterOwnerRef (some true)] none)
      (.ok "overcommit.domain/class") (.ok ()))
    (reconcile Templater.bare "gold").run

theorem reconcileWith_writes_controlled_gold :
    (∀ ex ∈ goldRun.1, ex.1.written = none) ∨ ∃ l c rest,
      goldRun.1 = ⟨.getOvercommitLabel, .ok l⟩ :: ⟨.getClass "gold", .ok c⟩ :: rest ∧
        ∀ ex ∈ rest, WritesControlled (classOwner c.meta) ex.1 :=
  reconcileWith_writes_controlled Templater.bare Templater.bare_fresh
    ClassClosures.current_owning (Prog.runs_exec _ _)

end OvercommitClassReconciler

end OvercommitOperator
