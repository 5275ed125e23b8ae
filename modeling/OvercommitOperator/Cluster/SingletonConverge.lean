import OvercommitOperator.Cluster.SingletonServer

/-!
# The singleton reconciler converges

The counterpart, for `OvercommitReconciler.Reconcile`, of the class reconciler's convergence, against
the reliable server of `Cluster.SingletonServer` with no other actor. What the tick writes depends
on the templater, so the templater is `Regular`: its generators read the singleton's metadata and
not its status, and it names the singleton's objects of one kind apart (two Deployments of one
name would overwrite each other in every tick, and no tick would be the last to write).

* The status update reads the ten objects, then writes (`updateOvercommitStatus_eq`); the reads
  depend on the objects alone (`statusRowsOn`), and a second write over the rows it wrote changes
  nothing (`setCondition_resourcesReady_idem`): the `ResourcesReady` condition keeps its
  transition time.
* A successful tick on a singleton with a legacy finalizer removes it (`legacyStage` falls);
  otherwise it leaves the ten managed objects at fixpoints of their closures and the status at a
  fixpoint of the status update (`SingletonSettled`, `reconcile_step`).
  The pod webhook's upsert tolerates a Conflict, which never comes: against this server
  `CreateOrUpdate` fails only in its closure or at the name check (`createOrUpdate_reliable_error`),
  and a create-only closure only with `AlreadyOwned`.
* From a settled cluster every tick, at any time, is quiet and succeeds (`reconcile_steady`).

So after `legacyStage + 1` successful ticks, at most two, every further tick leaves the cluster as
it is, status included, and writes nothing but the status it already holds
(`singleton_reconciler_converges`), and every such tick succeeds, requeueing after ten seconds
(`singleton_steady_state`).
-/

namespace OvercommitOperator

/-- What the convergence of the singleton reconciler asks of the templater: the generators read
the singleton's metadata and not its status, and the singleton's objects of one kind get distinct
names. -/
structure Templater.Regular (T : Templater) : Prop where
  ocDeployment_status : ∀ o (st : OvercommitStatus),
    T.generateOvercommitClassValidatingDeployment { o with status := st } =
      T.generateOvercommitClassValidatingDeployment o
  podDeployment_status : ∀ o (st : OvercommitStatus),
    T.generatePodValidatingDeployment { o with status := st } = T.generatePodValidatingDeployment o
  controller_status : ∀ o (st : OvercommitStatus),
    T.generateOvercommitClassControllerDeployment { o with status := st } =
      T.generateOvercommitClassControllerDeployment o
  ocDeployment_ne_podDeployment : ∀ o o',
    (T.generateOvercommitClassValidatingDeployment o).meta.name ≠
      (T.generatePodValidatingDeployment o').meta.name
  ocDeployment_ne_controller : ∀ o o',
    (T.generateOvercommitClassValidatingDeployment o).meta.name ≠
      (T.generateOvercommitClassControllerDeployment o').meta.name
  podDeployment_ne_controller : ∀ o o',
    (T.generatePodValidatingDeployment o).meta.name ≠
      (T.generateOvercommitClassControllerDeployment o').meta.name
  service_ne : ∀ d d',
    (T.generateOvercommitClassValidatingService d).meta.name ≠
      (T.generatePodValidatingService d').meta.name
  certificate_ne : ∀ i sv i' sv',
    (T.generateCertificateValidatingOvercommitClass i sv).meta.name ≠
      (T.generateCertificateValidatingPods i' sv').meta.name
  webhook_ne : ∀ d sv ct d' sv' ct' label,
    (T.generateOvercommitClassValidatingWebhookConfiguration d sv ct).meta.name ≠
      (T.generatePodValidatingWebhookConfiguration d' sv' ct' label).meta.name

theorem Request.IsObjectRead.isRead {req : Request} (h : req.IsObjectRead) : req.IsRead := by
  cases req <;> first | exact h.elim | trivial

namespace OvercommitReconciler
variable (T : Templater)

theorem statusReads_status (hT : T.Regular) (o : Overcommit) (st : OvercommitStatus) :
    statusReads T { o with status := st } = statusReads T o := by
  simp only [statusReads, hT.ocDeployment_status, hT.podDeployment_status, hT.controller_status]

/-- The retry loop writes no object and no spec. -/
theorem updateOvercommitStatusSafelyLoop_sends {now : Time} :
    ∀ {attempt remaining : Nat}, Prog.Sends (·.writesSpec = false)
      (updateOvercommitStatusSafelyLoop T now attempt remaining).run
  | _, 0 => .ret _
  | attempt, remaining + 1 => by
    rw [updateOvercommitStatusSafelyLoop]
    refine sends_sendRaw_bind rfl fun r => ?_
    cases r with
    | error e => dsimp only; split <;> exact .ret _
    | ok fresh =>
      refine sends_tick_bind (sends_lift ((updateOvercommitStatus_sends T).mono fun req h => ?_))
        fun r => ?_
      · cases req <;> first | rfl | exact h.elim
      cases r with
      | ok u => exact .ret _
      | error e =>
        dsimp only
        split
        · exact .ret _
        split
        · exact sends_sendRaw_bind rfl fun _ => updateOvercommitStatusSafelyLoop_sends
        · exact .ret _

end OvercommitReconciler

open OvercommitReconciler

/-- The rows the status reads for the singleton `o` return from the cluster `s`. -/
def statusRowsOn (T : Templater) (label : String) (s : OvercommitCluster) (o : Overcommit) :
    Except ApiError (List ResourceStatus) :=
  (Prog.exec (s.answer label) (statusReads T o).run).2

theorem Prog.exec_congr {α : Type} {P : Request → Prop}
    {ans ans' : (req : Request) → Except ApiError req.Payload} (h : ∀ req, P req → ans req = ans' req)
    {p : Prog α} (hp : Prog.Sends P p) : Prog.exec ans p = Prog.exec ans' p := by
  induction hp with
  | ret a => rfl
  | call hreq _ ih => simp only [Prog.exec, h _ hreq, ih]

/-- The status reads depend on the objects alone. -/
theorem statusRowsOn_congr {T : Templater} {label : String} {s s' : OvercommitCluster}
    (h : s.objects = s'.objects) (o : Overcommit) : statusRowsOn T label s o = statusRowsOn T label s' o :=
  congrArg Prod.snd <| Prog.exec_congr (fun req hreq => by
    cases req <;> first | exact hreq.elim | rfl | simp [OvercommitCluster.answer,
      OvercommitCluster.readObject, h]) (statusReads_sends T)

/-- The status reads do not read the singleton's status. -/
theorem statusRowsOn_status {T : Templater} (hT : T.Regular) {label : String} {s : OvercommitCluster}
    {o : Overcommit} {st : OvercommitStatus} :
    statusRowsOn T label s { o with status := st } = statusRowsOn T label s o := by
  rw [statusRowsOn, statusReads_status T hT, statusRowsOn]

/-- **The retry loop against the reliable server**: from a cluster holding `o`, whose reads return
`rows`, it reads the singleton, writes its status once and ends, and writes no object or spec. -/
theorem updateOvercommitStatusSafelyLoop_reliable (T : Templater) {label : String}
    {s s' : OvercommitCluster} {o : Overcommit} {rows : List ResourceStatus} {now : Time}
    {attempt n : Nat} {tr : List Prog.Exchange} {r : Except ApiError Unit}
    (ho : s.overcommit = some o) (hrows : statusRowsOn T label s o = .ok rows)
    (hr : Prog.Runs (updateOvercommitStatusSafelyLoop T now attempt (n + 1)).run tr r)
    (hs : Served (Reliable label) tr s s') :
    r = .ok () ∧ s' = s.updateStatus (setCondition now { o.status with resources := rows }
      (resourcesReadyCondition rows now)) ∧ ∀ ex ∈ tr, ex.1.writesSpec = false := by
  have hw := (updateOvercommitStatusSafelyLoop_sends T).runs hr
  rw [updateOvercommitStatusSafelyLoop, sendRaw_bind_run, Prog.runs_call_iff] at hr
  obtain ⟨v, tr, rfl, hr⟩ := hr
  obtain ⟨hv, hrest⟩ := served_read_cons hs trivial
  rw [show v = .ok o from hv.trans (s.readOvercommit_cluster ho)] at hr
  rw [lift_bind_run, Prog.runs_bind_iff, updateOvercommitStatus_eq] at hr
  obtain ⟨tr₁, tr₂, res, rfl, hu, hk⟩ := hr
  obtain ⟨s₁, hs₁, hs₂⟩ := served_append.1 hrest
  rcases runs_tick_bind.1 hu with ⟨tr₃, tr₄, rows', rfl, h₃, h₄⟩ | ⟨e, h₃, rfl⟩
  · obtain ⟨s₃, hs₃, hs₄⟩ := served_append.1 hs₁
    obtain ⟨hs₃', hex⟩ := reads_served ((statusReads_sends T).mono fun _ h => h.isRead) h₃ hs₃
    subst s₃
    obtain rfl : rows' = rows := Except.ok.inj ((congrArg Prod.snd hex).trans hrows)
    rw [runs_sendE_iff] at h₄
    subst h₄
    obtain _ | ⟨⟨hres, rfl⟩, _ | _⟩ := hs₄
    change res = s.writeOvercommit at hres
    rw [show s.writeOvercommit = .ok () by simp [OvercommitCluster.writeOvercommit, ho]] at hres
    subst hres
    obtain ⟨rfl, rfl⟩ := runs_pure_iff.1 hk
    cases hs₂
    exact ⟨rfl, rfl, hw⟩
  · obtain ⟨-, hex⟩ := reads_served ((statusReads_sends T).mono fun _ h => h.isRead) h₃ hs₁
    exact nomatch (congrArg Prod.snd hex).trans hrows

/-- **The status update is idempotent**: writing, at any time, the rows it last wrote leaves the
status as it is, and the `ResourcesReady` condition keeps its transition time. -/
theorem setCondition_resourcesReady_idem (now now' : Time) (st : OvercommitStatus)
    (rows : List ResourceStatus) :
    setCondition now' { setCondition now { st with resources := rows }
        (resourcesReadyCondition rows now) with resources := rows } (resourcesReadyCondition rows now') =
      setCondition now { st with resources := rows } (resourcesReadyCondition rows now) := by
  have hc (t : Time) : resourcesReadyCondition rows t =
      { resourcesReadyCondition rows 0 with lastTransitionTime := t } := by
    unfold resourcesReadyCondition; split <;> rfl
  rw [show { setCondition now { st with resources := rows } (resourcesReadyCondition rows now) with
      resources := rows } = setCondition now { st with resources := rows } (resourcesReadyCondition rows now)
    from OvercommitStatus.ext (resources_setCondition now { st with resources := rows } _).symm rfl, hc now, hc now']
  exact setCondition_setCondition _ _ _ _ rfl rfl rfl rfl

/-! ## Stages and settled clusters -/

/-- One while the singleton carries a legacy finalizer: the migration write comes first. -/
def legacyStage (o : Overcommit) : Nat := if (removeLegacyFinalizers o.meta).2 then 1 else 0

/-- The objects the ten `CreateOrUpdate` calls of a tick return, in the order of the tick. -/
structure Returned where
  issuer : Issuer
  ocCertificate : Certificate
  ocDeployment : Deployment
  ocService : Service
  ocWebhook : WebhookConfiguration
  podCertificate : Certificate
  podDeployment : Deployment
  podService : Service
  podWebhook : WebhookConfiguration
  controller : Deployment

/-- The eight upserts of the two validators, the latest first: each desired object, its closure as
the tick builds it from what the earlier upserts returned (`x`), and what it returned. -/
def validatorUpserts (T : Templater) (env : ImageEnv) (o : Overcommit) (issuer : Issuer)
    (x : Returned) : List Upsert :=
  let owner := overcommitOwner o.meta
  let ocDeployment := T.generateOvercommitClassValidatingDeployment o
  let ocService := T.generateOvercommitClassValidatingService ocDeployment
  let ocCertificate := T.generateCertificateValidatingOvercommitClass x.issuer ocService
  let ocWebhook :=
    T.generateOvercommitClassValidatingWebhookConfiguration ocDeployment ocService ocCertificate
  let podDeployment := T.generatePodValidatingDeployment o
  let podService := T.generatePodValidatingService podDeployment
  let podCertificate := T.generateCertificateValidatingPods x.issuer podService
  [⟨.service, podService, mutateNewBody owner (T.generatePodValidatingService x.podDeployment),
      x.podService⟩,
    ⟨.deployment, podDeployment,
      mutateOvercommitDeployment owner env (T.generatePodValidatingDeployment o), x.podDeployment⟩,
    ⟨.certificate, podCertificate,
      mutateNewBody owner (T.generateCertificateValidatingPods x.issuer podService), x.podCertificate⟩,
    ⟨.validatingWebhookConfiguration, ocWebhook, mutateNewAnnotatedWebhooks owner
      (T.generateOvercommitClassValidatingWebhookConfiguration x.ocDeployment x.ocService
        x.ocCertificate), x.ocWebhook⟩,
    ⟨.service, ocService,
      mutateNewBody owner (T.generateOvercommitClassValidatingService x.ocDeployment), x.ocService⟩,
    ⟨.deployment, ocDeployment, mutateOvercommitDeployment owner env
      (T.generateOvercommitClassValidatingDeployment o), x.ocDeployment⟩,
    ⟨.certificate, ocCertificate, mutateNewBody owner
      (T.generateCertificateValidatingOvercommitClass x.issuer ocService), x.ocCertificate⟩,
    ⟨.issuer, issuer, mutateIssuer owner, x.issuer⟩]

/-- The upsert of the pod webhook configuration, which the tick passes over on a Conflict. -/
def podWebhookUpsert (T : Templater) (label : String) (o : Overcommit) (x : Returned) : Upsert :=
  let podService := T.generatePodValidatingService (T.generatePodValidatingDeployment o)
  ⟨.validatingWebhookConfiguration,
    T.generatePodValidatingWebhookConfiguration (T.generatePodValidatingDeployment o) podService
      (T.generateCertificateValidatingPods x.issuer podService) label,
    mutateNewBody (overcommitOwner o.meta)
      (T.generatePodValidatingWebhookConfiguration x.podDeployment x.podService x.podCertificate label),
    x.podWebhook⟩

/-- The upsert of the class controller's Deployment, the last of the tick. -/
def controllerUpsert (T : Templater) (env : ImageEnv) (o : Overcommit) (x : Returned) : Upsert :=
  ⟨.deployment, T.generateOvercommitClassControllerDeployment o,
    mutateOvercommitDeployment (overcommitOwner o.meta) env (T.generateOvercommitClassControllerDeployment o),
    x.controller⟩

/-- The ten upserts of a tick for the singleton `o`, the latest first. -/
def singletonUpserts (T : Templater) (env : ImageEnv) (label : String) (o : Overcommit)
    (issuer : Issuer) (x : Returned) : List Upsert :=
  controllerUpsert T env o x :: podWebhookUpsert T label o x :: validatorUpserts T env o issuer x

/-- The cluster after a tick that reached the status update: the singleton is stored without a
legacy finalizer, its ten objects are at fixpoints of their closures, and its status is a fixpoint
of the status update over what the reads return. -/
def SingletonSettled (T : Templater) (env : ImageEnv) (label : String) (s : OvercommitCluster) :
    Prop :=
  ∃ o, s.overcommit = some o ∧ (removeLegacyFinalizers o.meta).2 = false ∧
    ∃ issuer, T.generateIssuer = some issuer ∧
    ∃ x, OvercommitCluster.store.AllFixed s (singletonUpserts T env label o issuer x) ∧
    ∀ rows, statusRowsOn T label s o = .ok rows → ∀ now : Time,
      setCondition now { o.status with resources := rows } (resourcesReadyCondition rows now) = o.status

/-! ## Ticks against the reliable server -/

section Reliable
variable {label : String}

/-- The label read answers `label`, and changes nothing. -/
theorem steady_sendE_label {s : OvercommitCluster} :
    Steady (Reliable label) s (sendE .getOvercommitLabel) (· = label) :=
  Steady.sendE rfl fun _ _ ⟨hr, hs⟩ =>
    ⟨by rw [hs, (show Request.getOvercommitLabel.IsRead from trivial).apply], label, hr, rfl⟩

/-- The NotFound-tolerant read of `cluster` returns the singleton stored, and changes nothing. -/
theorem getIgnoreNotFound_cluster_steady {s : OvercommitCluster} {o : Overcommit}
    (ho : s.overcommit = some o) :
    Steady (Reliable label) s (getIgnoreNotFound (.getOvercommitCR "cluster")) (· = some o) := by
  have hreq : (Request.getOvercommitCR "cluster").IsRead := trivial
  unfold getIgnoreNotFound
  refine Steady.bind (Steady.sendRaw
    (R := fun (r : Except ApiError (Request.getOvercommitCR "cluster").Payload) => r = .ok o)
    hreq.writesSpec fun r s' ⟨hr, hs⟩ => ⟨by rw [hs, hreq.apply], hr.trans (s.readOvercommit_cluster ho)⟩)
    fun r hr => ?_
  subst hr
  exact Steady.pure' rfl

/-- The migration write of the singleton stores its metadata. -/
theorem sendE_updateOvercommitCR_reliable {o : Overcommit} {meta : ObjectMeta} :
    SoloTriple (Reliable label) (fun s => s.overcommit = some o)
      (sendE (.updateOvercommitCR { o with meta := meta }))
      fun _ s => s.overcommit = some { o with meta := o.meta.updatedBy meta } :=
  TickTriple.sendE (fun _ s => s.overcommit = some { o with meta := o.meta.updatedBy meta })
    (fun r s s' _ ho ⟨hr, hs⟩ => by
      rw [show s.answer label (.updateOvercommitCR { o with meta := meta }) = .ok () by
        simp [OvercommitCluster.answer,
        OvercommitCluster.writeOvercommit, ho]] at hr
      subst hr hs
      exact ⟨trivial, by simp [OvercommitCluster.apply, OvercommitCluster.updateMeta, ho]⟩)
    fun _ => stable_noEnv _

/-- **`CreateOrUpdate` against the reliable server fails only in its closure or at the name
check**: the Create of an object found absent and the Update of one found present succeed. -/
theorem createOrUpdate_reliable_error {k : Kind} {obj : k.Obj} {f : k.Obj → Except ApiError k.Obj}
    {tr : List Prog.Exchange} {e : ApiError} {s s' : OvercommitCluster}
    (hr : Prog.Runs (createOrUpdate k obj f).run tr (.error e)) (hs : Served (Reliable label) tr s s') :
    (∃ x, f x = .error e) ∨ e = .other "MutateFn cannot mutate object name and/or namespace" := by
  unfold createOrUpdate at hr
  rw [sendRaw_bind_run, Prog.runs_call_iff] at hr
  obtain ⟨v, tr, rfl, hr⟩ := hr
  obtain ⟨hv, hrest⟩ := served_read_cons hs trivial
  rw [show v = s.readObject k obj.meta.name from hv] at hr
  cases hobj : s.objects k obj.meta.name with
  | none =>
    simp only [OvercommitCluster.readObject, hobj, ↓reduceIte] at hr
    rcases runs_tick_bind.1 hr with ⟨tr₁, tr₂, obj', rfl, h₁, h₂⟩ | ⟨e', h₁, he⟩
    · obtain ⟨rfl, -⟩ := runs_liftExcept_iff.1 h₁
      split at h₂
      · simp only [ExceptT.bind_throw, runs_throw_iff] at h₂
        exact .inr (Except.error.inj h₂.2)
      · next hname =>
        rw [pure_bind, runs_sendE_iff] at h₂
        subst h₂
        obtain _ | ⟨⟨hres, -⟩, -⟩ := hrest
        simp only [OvercommitCluster.answer, not_not.1 hname, hobj, ↓reduceIte] at hres
        cases hres
    · obtain ⟨-, hf⟩ := runs_liftExcept_iff.1 h₁
      cases he
      exact .inl ⟨obj, hf.symm⟩
  | some x =>
    simp only [OvercommitCluster.readObject, hobj] at hr
    rcases runs_tick_bind.1 hr with ⟨tr₁, tr₂, obj', rfl, h₁, h₂⟩ | ⟨e', h₁, he⟩
    · obtain ⟨rfl, -⟩ := runs_liftExcept_iff.1 h₁
      split at h₂
      · simp only [ExceptT.bind_throw, runs_throw_iff] at h₂
        exact .inr (Except.error.inj h₂.2)
      · next hname =>
        rw [pure_bind] at h₂
        split at h₂
        · exact nomatch (runs_pure_iff.1 h₂).2
        · rw [pure_bind, runs_sendE_iff] at h₂
          subst h₂
          obtain _ | ⟨⟨hres, -⟩, -⟩ := hrest
          simp only [OvercommitCluster.answer, OvercommitCluster.readObject, not_not.1 hname, hobj] at hres
          cases hres
    · obtain ⟨-, hf⟩ := runs_liftExcept_iff.1 h₁
      cases he
      exact .inl ⟨x, hf.symm⟩

end Reliable

/-! ## One tick -/

section Step
variable (T : Templater) (env : ImageEnv) {label : String}

/-- The migration write takes the singleton to stage zero. -/
theorem legacyStage_migrated {o : Overcommit} {meta : ObjectMeta}
    (hm : removeLegacyFinalizers o.meta = (meta, true)) :
    legacyStage { o with meta := o.meta.updatedBy meta } < legacyStage o := by
  have h := removeLegacyFinalizers_idem o.meta
  rw [hm, removeLegacyFinalizers_eq meta] at h
  have h' : (removeLegacyFinalizers (o.meta.updatedBy meta)).2 = false := by
    rw [removeLegacyFinalizers_eq, ObjectMeta.finalizers_updatedBy]
    exact congrArg Prod.snd h
  simp [legacyStage, hm, h']

/-- With an issuer, the status reads return rows from every cluster. -/
theorem statusRowsOn_ok {i : Issuer} (hi : T.generateIssuer = some i) (s : OvercommitCluster)
    (o : Overcommit) : ∃ rows, statusRowsOn T label s o = .ok rows := by
  unfold statusRowsOn
  rcases h : (Prog.exec (s.answer label) (statusReads T o).run).2 with e | rows
  · exact absurd (h ▸ Prog.runs_exec _ _) (statusReads_neverFails T hi _ e)
  · exact ⟨rows, rfl⟩

/-- The singleton's objects under a status: the generators are blind to it. -/
theorem singletonUpserts_status (hT : T.Regular) (o : Overcommit) (st : OvercommitStatus)
    (issuer : Issuer) (x : Returned) :
    singletonUpserts T env label { o with status := st } issuer x = singletonUpserts T env label o issuer x := by
  simp only [singletonUpserts, controllerUpsert, podWebhookUpsert, validatorUpserts,
    hT.ocDeployment_status, hT.podDeployment_status, hT.controller_status]

/-- **The status write settles the cluster**: after the ten upserts, the write of the rows read
leaves the status at a fixpoint of the status update. -/
theorem singletonSettled_updateStatus (hT : T.Regular) {s : OvercommitCluster} {o : Overcommit}
    {issuer : Issuer} {x : Returned} {rows : List ResourceStatus} (now : Time)
    (ho : s.overcommit = some o) (hleg : (removeLegacyFinalizers o.meta).2 = false)
    (hi : T.generateIssuer = some issuer)
    (hfix : OvercommitCluster.store.AllFixed s (singletonUpserts T env label o issuer x))
    (hrows : statusRowsOn T label s o = .ok rows) :
    SingletonSettled T env label (s.updateStatus (setCondition now { o.status with resources := rows }
      (resourcesReadyCondition rows now))) := by
  refine ⟨{ o with status := (setCondition now { o.status with resources := rows }
      (resourcesReadyCondition rows now)) }, by simp [OvercommitCluster.updateStatus, ho], hleg, issuer, hi,
    x, ?_, fun rows' h now' => ?_⟩
  · rw [singletonUpserts_status T env hT]
    exact hfix
  · rw [statusRowsOn_congr (show (s.updateStatus _).objects = s.objects from rfl), statusRowsOn_status hT,
      hrows] at h
    cases h
    exact setCondition_resourcesReady_idem now now' o.status rows

/-- An upsert of the tick keeps the singleton and the objects already upserted, and adds its own. -/
theorem upsert_reliable {o : Overcommit} {k : Kind} {obj : k.Obj} {f : k.Obj → Except ApiError k.Obj}
    {L : List Upsert} (hf : Idempotent f) (hne : ∀ u ∈ L, u.k ≠ k ∨ u.obj.meta.name ≠ obj.meta.name) :
    SoloTriple (Reliable label)
      (fun s => s.overcommit = some o ∧ OvercommitCluster.store.AllFixed s L) (createOrUpdate k obj f)
      fun v s => s.overcommit = some o ∧ OvercommitCluster.store.AllFixed s (⟨k, obj, f, v⟩ :: L) :=
  createOrUpdate_allFixed (reliable_server label) hf hne fun _ _ h => h

/-- **One successful tick against the reliable server**: on a singleton with a legacy finalizer it
removes them; otherwise it settles the cluster. -/
theorem reconcile_step (hT : T.Regular) (now : Time) {o : Overcommit} :
    SoloTriple (Reliable label) (fun s => s.overcommit = some o)
      (OvercommitReconciler.reconcile T env now "cluster") fun _ s => ∃ o', s.overcommit = some o' ∧
        (legacyStage o' < legacyStage o ∨ legacyStage o = 0 ∧ SingletonSettled T env label s) := by
  unfold OvercommitReconciler.reconcile
  refine TickTriple.bind (SoloTriple.of_quiet fun _ _ => steady_sendE_label.quiet) fun l =>
    TickTriple.pure_pre fun hl => ?_
  subst l
  refine TickTriple.bind (SoloTriple.of_quiet fun _ ho => (getIgnoreNotFound_cluster_steady ho).quiet)
    fun r => TickTriple.pure_pre fun hr => ?_
  subst hr
  dsimp only
  rcases hm : removeLegacyFinalizers o.meta with ⟨meta, _ | _⟩
  · have hleg : legacyStage o = 0 := by simp [legacyStage, hm]
    simp only [Bool.false_eq_true, ↓reduceIte, pure_bind]
    rcases hi : T.generateIssuer with _ | issuer
    · exact TickTriple.throw'
    dsimp only
    refine TickTriple.bind ((upsert_reliable createOnly_idempotent (List.forall_mem_nil _)).pre
      fun s _ h => ⟨h, List.forall_mem_nil _⟩) fun iss => ?_
    refine TickTriple.bind (upsert_reliable createOnly_idempotent (by simp)) fun ocCert => ?_
    refine TickTriple.bind (upsert_reliable mutateOvercommitDeployment_idempotent (by simp))
      fun ocDep => ?_
    refine TickTriple.bind (upsert_reliable createOnly_idempotent (by simp)) fun ocSvc => ?_
    refine TickTriple.bind (upsert_reliable createOnly_idempotent (by simp)) fun ocWh => ?_
    refine TickTriple.bind (upsert_reliable createOnly_idempotent (by simp [hT.certificate_ne]))
      fun podCert => ?_
    refine TickTriple.bind (upsert_reliable mutateOvercommitDeployment_idempotent
      (by simp [hT.ocDeployment_ne_podDeployment])) fun podDep => ?_
    refine TickTriple.bind (upsert_reliable createOnly_idempotent (by simp [hT.service_ne]))
      fun podSvc => ?_
    refine TickTriple.bind (SoloTriple.ignoreConflict
      (upsert_reliable createOnly_idempotent (by simp [hT.webhook_ne])) fun _ _ _ _ hr hs => ?_)
      fun _ => SoloTriple.exists_pre fun podWh => ?_
    · rcases createOrUpdate_reliable_error hr hs with ⟨_, hf⟩ | h
      · cases createOnly_error hf
      · cases h
    refine TickTriple.bind (upsert_reliable mutateOvercommitDeployment_idempotent
      (by simp [hT.ocDeployment_ne_controller, hT.podDeployment_ne_controller])) fun ctrl => ?_
    refine TickTriple.bind (TickTriple.lift (Triple.of_served fun s ⟨ho, hfix⟩ tr r s' hr hs => ?_))
      fun _ => TickTriple.pure' fun _ _ h => h
    obtain ⟨rows, hrows⟩ := statusRowsOn_ok T hi s o
    obtain ⟨-, rfl, -⟩ := updateOvercommitStatusSafelyLoop_reliable T ho hrows hr hs
    have hset := singletonSettled_updateStatus T env hT now ho (by rw [hm]) hi
      (show OvercommitCluster.store.AllFixed s (singletonUpserts T env label o issuer
        ⟨iss, ocCert, ocDep, ocSvc, ocWh, podCert, podDep, podSvc, podWh, ctrl⟩) from hfix) hrows
    obtain ⟨o', ho', -⟩ := id hset
    exact ⟨o', ho', .inr ⟨hleg, hset⟩⟩
  · simp only [↓reduceIte]
    exact TickTriple.bind sendE_updateOvercommitCR_reliable fun _ =>
      TickTriple.pure' fun _ _ h => ⟨_, h, .inl (legacyStage_migrated hm)⟩
end Step

/-! ## A settled cluster -/

section Steady
variable (T : Templater) (env : ImageEnv) {label : String}

/-- `CreateOrUpdate` of an object stored at a fixpoint of its closure reads it, writes nothing and
returns it. -/
theorem createOrUpdate_steady {s : OvercommitCluster} {k : Kind} {obj v : k.Obj}
    {f : k.Obj → Except ApiError k.Obj} (hfix : OvercommitCluster.store.Fixed s k obj f v) :
    Steady (Reliable label) s (createOrUpdate k obj f) (· = v) := by
  obtain ⟨w, hst, hname, hf, hsem⟩ := hfix
  have hreq : (Request.get k obj.meta.name).IsRead := trivial
  unfold createOrUpdate
  refine Steady.bind (Steady.sendRaw
    (R := fun (r : Except ApiError (Request.get k obj.meta.name).Payload) => r = .ok w)
    hreq.writesSpec fun r s' ⟨hr, hs⟩ => ⟨by rw [hs, hreq.apply], ?_⟩) fun r hr => ?_
  · change r = s.readObject k obj.meta.name at hr
    change s.objects k obj.meta.name = some w at hst
    rw [hr, OvercommitCluster.readObject, hst]
  subst hr
  dsimp only
  rw [hf, liftExcept_ok_bind]
  simp only [hname, hsem, ne_eq, not_true_eq_false, if_false, pure_bind, if_true]
  exact Steady.pure' rfl

/-- From a cluster whose status the status update would write again, the update succeeds and
changes nothing. -/
theorem updateOvercommitStatusSafely_steady {s : OvercommitCluster} {o : Overcommit}
    {rows : List ResourceStatus} {now : Time} (ho : s.overcommit = some o)
    (hrows : statusRowsOn T label s o = .ok rows)
    (hst : setCondition now { o.status with resources := rows } (resourcesReadyCondition rows now) =
      o.status) :
    Steady (Reliable label) s (updateOvercommitStatusSafely T now) fun _ => True := by
  refine ⟨fun tr r s' hr hs => ?_, fun tr e s' hr hs => ?_⟩
  · obtain ⟨-, rfl, hw⟩ := updateOvercommitStatusSafelyLoop_reliable T ho hrows hr hs
    rw [hst, s.updateStatus_self ho]
    exact ⟨rfl, hw, fun _ _ => trivial⟩
  · exact nomatch (updateOvercommitStatusSafelyLoop_reliable T ho hrows hr hs).1

/-- **From a settled cluster every tick is steady**, at any time: it reads the ten objects, finds
each at a fixpoint of its closure, writes the status the singleton holds, and succeeds, requeueing
after ten seconds. -/
theorem reconcile_steady {s : OvercommitCluster} (hset : SingletonSettled T env label s)
    (now : Time) : Steady (Reliable label) s (OvercommitReconciler.reconcile T env now "cluster")
      (· = { requeueAfter := 10 }) := by
  obtain ⟨o, ho, hleg, issuer, hi, x, hfix, hst⟩ := hset
  simp only [ObjectStore.AllFixed, singletonUpserts, controllerUpsert, podWebhookUpsert,
    validatorUpserts, List.forall_mem_cons] at hfix
  obtain ⟨hctrl, hpwh, hpsvc, hpdep, hpcert, howh, hosvc, hodep, hocert, hiss, -⟩ := hfix
  obtain ⟨rows, hrows⟩ : ∃ rows, statusRowsOn T label s o = .ok rows := statusRowsOn_ok T hi s o
  unfold OvercommitReconciler.reconcile
  refine steady_sendE_label.bind fun l hl => ?_
  subst l
  refine (getIgnoreNotFound_cluster_steady ho).bind fun r hr => ?_
  subst hr
  dsimp only
  rw [show removeLegacyFinalizers o.meta = ((removeLegacyFinalizers o.meta).1, false) from
    Prod.ext rfl hleg]
  simp only [Bool.false_eq_true, ↓reduceIte, pure_bind, hi]
  refine (createOrUpdate_steady hiss).bind fun _ h => ?_
  subst h
  refine (createOrUpdate_steady hocert).bind fun _ h => ?_
  subst h
  refine (createOrUpdate_steady hodep).bind fun _ h => ?_
  subst h
  refine (createOrUpdate_steady hosvc).bind fun _ h => ?_
  subst h
  refine (createOrUpdate_steady howh).bind fun _ _ => ?_
  refine (createOrUpdate_steady hpcert).bind fun _ h => ?_
  subst h
  refine (createOrUpdate_steady hpdep).bind fun _ h => ?_
  subst h
  refine (createOrUpdate_steady hpsvc).bind fun _ h => ?_
  subst h
  refine (createOrUpdate_steady hpwh).ignoreConflict.bind fun _ _ => ?_
  refine (createOrUpdate_steady hctrl).bind fun _ _ => ?_
  exact (updateOvercommitStatusSafely_steady T ho hrows (hst rows hrows now)).lift.bind
    fun _ _ => Steady.pure' rfl

end Steady

/-! ## Convergence -/

section Converge
variable (T : Templater) (env : ImageEnv) {label : String}

/-- Successful ticks, as many as the singleton's stage and one more, at any times, leave the
cluster settled. -/
theorem singleton_ticks_settle (hT : T.Regular) {s₀ s : OvercommitCluster} {o : Overcommit}
    {trs : List (Time × List Prog.Exchange)} (ho : s₀.overcommit = some o)
    (h : TicksAt (Reliable label) (fun now => OvercommitReconciler.reconcile T env now "cluster") s₀ trs s)
    (hlen : legacyStage o < trs.length) : SingletonSettled T env label s := by
  induction h generalizing o with
  | nil => exact absurd hlen (Nat.not_lt_zero _)
  | cons hr hs ht ih =>
    obtain ⟨o', ho', hstep⟩ := TickTriple.served (reconcile_step T env hT _) hr hs trivial ho
    rcases hstep with hlt | ⟨-, hset⟩
    · exact ih ho' (by simp only [List.length_cons] at hlen; omega)
    · obtain rfl := TicksAt.eq_of_quiet (fun now => (reconcile_steady T env hset now).quiet) ht
      exact hset

/-- **The singleton reconciler converges.** Against the reliable server and with no other actor,
take the singleton at stage `legacyStage o` (one while it carries a legacy finalizer). After that
many successful ticks and one more, each at its own time, the cluster is settled: the singleton
carries no legacy finalizer, the ten objects are stored at fixpoints of their closures and the
status at a fixpoint of the status update. So it is a fixpoint of the reconciler: every run of a
further tick, at any time, successful or not, leaves it as it is, the singleton's status included,
and writes no object and no spec. -/
theorem singleton_reconciler_converges (hT : T.Regular) {s₀ s : OvercommitCluster} {o : Overcommit}
    {trs : List (Time × List Prog.Exchange)} (ho : s₀.overcommit = some o)
    (h : TicksAt (Reliable label) (fun now => OvercommitReconciler.reconcile T env now "cluster") s₀ trs s)
    (hlen : legacyStage o < trs.length) :
    SingletonSettled T env label s ∧
      ∀ now tr r s', Prog.Runs (OvercommitReconciler.reconcile T env now "cluster").run tr r →
        Served (Reliable label) tr s s' → s' = s ∧ ∀ ex ∈ tr, ex.1.writesSpec = false := by
  have hset := singleton_ticks_settle T env hT ho h hlen
  refine ⟨hset, fun now tr r s' hr hs => ?_⟩
  obtain ⟨h₁, h₂, -⟩ := (reconcile_steady T env hset now).quiet tr r s' hr hs
  exact ⟨h₁, h₂⟩

/-- **The converged reconciler keeps succeeding.** Under the hypotheses of the convergence, at any
time a further tick has a run against the reliable server, which requeues after ten seconds and
leaves the cluster as it is; and every run of it succeeds so: the steady state raises no error,
neither the status update's, which the tick drops, nor the pod webhook's tolerated Conflict. -/
theorem singleton_steady_state (hT : T.Regular) {s₀ s : OvercommitCluster} {o : Overcommit}
    {trs : List (Time × List Prog.Exchange)} (ho : s₀.overcommit = some o)
    (h : TicksAt (Reliable label) (fun now => OvercommitReconciler.reconcile T env now "cluster") s₀ trs s)
    (hlen : legacyStage o < trs.length) (now : Time) :
    (∃ tr, Prog.Runs (OvercommitReconciler.reconcile T env now "cluster").run tr (.ok { requeueAfter := 10 }) ∧
      Served (Reliable label) tr s s) ∧
    ∀ tr r s', Prog.Runs (OvercommitReconciler.reconcile T env now "cluster").run tr r →
      Served (Reliable label) tr s s' → r = .ok { requeueAfter := 10 } := by
  have hst := reconcile_steady T env (singleton_ticks_settle T env hT ho h hlen) now
  obtain ⟨hr, hs⟩ := s.serve_spec label (OvercommitReconciler.reconcile T env now "cluster").run
  obtain ⟨hs', hok⟩ := hst.runs_eq hr hs
  rw [hs'] at hs
  exact ⟨⟨_, hok ▸ hr, hs⟩, fun _ _ _ hr hs => (hst.runs_eq hr hs).2⟩

/-- **The settled clusters are exactly the reconciler's fixpoints.** A cluster holding the singleton
is settled exactly when every tick from it, at any time, succeeds, requeueing after ten seconds, and
leaves it as it is: the abstract state of `SingletonSettled` is neither stronger nor weaker than
what the code stops at. -/
theorem singletonSettled_iff_fixpoint (hT : T.Regular) {s : OvercommitCluster} {o : Overcommit}
    (ho : s.overcommit = some o) :
    SingletonSettled T env label s ↔
      ∀ now tr r s', Prog.Runs (OvercommitReconciler.reconcile T env now "cluster").run tr r →
        Served (Reliable label) tr s s' → s' = s ∧ r = .ok { requeueAfter := 10 } := by
  refine ⟨fun hset now _ _ _ hr hs => (reconcile_steady T env hset now).runs_eq hr hs, fun h => ?_⟩
  · obtain ⟨hr, hs⟩ := s.serve_spec label (OvercommitReconciler.reconcile T env 0 "cluster").run
    obtain ⟨hs', hok⟩ := h _ _ _ _ hr hs
    rw [hok] at hr
    rw [hs'] at hs
    obtain ⟨o', ho', hstep⟩ := TickTriple.served (reconcile_step T env hT 0) hr hs trivial ho
    obtain rfl : o' = o := Option.some.inj (ho'.symm.trans ho)
    exact (hstep.resolve_left (Nat.lt_irrefl _)).2

end Converge

/-- The bare templater with one container in each of the singleton's Deployments, which the
Deployment closures need to set the image. -/
def Templater.oneContainer : Templater :=
  { Templater.bare with
    generateOvercommitClassValidatingDeployment := fun _ =>
      ⟨.named "oc", ⟨⟨none, none, ⟨[⟨"webhook", "", []⟩], none, none⟩⟩⟩⟩
    generatePodValidatingDeployment := fun _ =>
      ⟨.named "pod", ⟨⟨none, none, ⟨[⟨"webhook", "", []⟩], none, none⟩⟩⟩⟩
    generateOvercommitClassControllerDeployment := fun _ =>
      ⟨.named "controller", ⟨⟨none, none, ⟨[⟨"manager", "", []⟩], none, none⟩⟩⟩⟩ }

theorem Templater.oneContainer_regular : Templater.oneContainer.Regular where
  ocDeployment_status _ _ := rfl
  podDeployment_status _ _ := rfl
  controller_status _ _ := rfl
  ocDeployment_ne_podDeployment _ _ := show "oc" ≠ "pod" by decide
  ocDeployment_ne_controller _ _ := show "oc" ≠ "controller" by decide
  podDeployment_ne_controller _ _ := show "pod" ≠ "controller" by decide
  service_ne _ _ := show "oc" ≠ "pod" by decide
  certificate_ne _ _ _ _ := show "oc" ≠ "pod" by decide
  webhook_ne _ _ _ _ _ _ _ := show "oc" ≠ "pod" by decide

/-- An image environment. -/
def releaseEnv : ImageEnv := ⟨"registry.example", "k8s-overcommit", "1.0.0"⟩

/-- The first tick, at time 0: the migration. -/
def legacyTick₁ : List Prog.Exchange × Except ApiError CtrlResult × OvercommitCluster :=
  legacyCluster.serve defaultLabel
    (OvercommitReconciler.reconcile Templater.oneContainer releaseEnv 0 "cluster").run

/-- The second tick, at time 1: the ten creates and the status write. -/
def legacyTick₂ : List Prog.Exchange × Except ApiError CtrlResult × OvercommitCluster :=
  legacyTick₁.2.2.serve defaultLabel
    (OvercommitReconciler.reconcile Templater.oneContainer releaseEnv 1 "cluster").run

theorem legacyTick₁_runs :
    Prog.Runs (OvercommitReconciler.reconcile Templater.oneContainer releaseEnv 0 "cluster").run
      legacyTick₁.1 (.ok { requeueAfter := 1 }) :=
  (legacyCluster.serve_spec _ _).1

theorem legacyTick₂_runs :
    Prog.Runs (OvercommitReconciler.reconcile Templater.oneContainer releaseEnv 1 "cluster").run
      legacyTick₂.1 (.ok { requeueAfter := 10 }) :=
  (legacyTick₁.2.2.serve_spec _ _).1

/-- From the legacy cluster, the migration tick and one more settle the cluster. -/
theorem singleton_reconciler_converges_legacy :
    SingletonSettled Templater.oneContainer releaseEnv defaultLabel legacyTick₂.2.2 ∧
      ∀ now tr r s', Prog.Runs
          (OvercommitReconciler.reconcile Templater.oneContainer releaseEnv now "cluster").run tr r →
        Served (Reliable defaultLabel) tr legacyTick₂.2.2 s' →
          s' = legacyTick₂.2.2 ∧ ∀ ex ∈ tr, ex.1.writesSpec = false :=
  singleton_reconciler_converges Templater.oneContainer releaseEnv Templater.oneContainer_regular
    (rfl : legacyCluster.overcommit = some { clusterOvercommit with meta.finalizers := ["webhook.finalizer"] })
    (.cons legacyTick₁_runs (legacyCluster.serve_spec _ _).2
      (.cons legacyTick₂_runs (legacyTick₁.2.2.serve_spec _ _).2 .nil)) (by decide)

/-- From the legacy cluster, after the migration tick and one more, the tick at time 2 succeeds. -/
theorem singleton_steady_state_legacy :
    (∃ tr, Prog.Runs (OvercommitReconciler.reconcile Templater.oneContainer releaseEnv 2 "cluster").run tr
        (.ok { requeueAfter := 10 }) ∧ Served (Reliable defaultLabel) tr legacyTick₂.2.2 legacyTick₂.2.2) ∧
      ∀ tr r s', Prog.Runs (OvercommitReconciler.reconcile Templater.oneContainer releaseEnv 2 "cluster").run tr r →
        Served (Reliable defaultLabel) tr legacyTick₂.2.2 s' → r = .ok { requeueAfter := 10 } :=
  singleton_steady_state Templater.oneContainer releaseEnv Templater.oneContainer_regular
    (rfl : legacyCluster.overcommit = some { clusterOvercommit with meta.finalizers := ["webhook.finalizer"] })
    (.cons legacyTick₁_runs (legacyCluster.serve_spec _ _).2
      (.cons legacyTick₂_runs (legacyTick₁.2.2.serve_spec _ _).2 .nil)) (by decide) 2

/-- The cluster the two legacy ticks leave is settled, and so a fixpoint. -/
theorem singletonSettled_iff_fixpoint_legacy :
    ∃ o, legacyTick₂.2.2.overcommit = some o ∧
      (SingletonSettled Templater.oneContainer releaseEnv defaultLabel legacyTick₂.2.2 ↔
        ∀ now tr r s', Prog.Runs (OvercommitReconciler.reconcile Templater.oneContainer releaseEnv now
          "cluster").run tr r → Served (Reliable defaultLabel) tr legacyTick₂.2.2 s' →
            s' = legacyTick₂.2.2 ∧ r = .ok { requeueAfter := 10 }) :=
  ⟨_, rfl, singletonSettled_iff_fixpoint Templater.oneContainer releaseEnv Templater.oneContainer_regular rfl⟩

end OvercommitOperator
