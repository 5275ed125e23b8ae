import OvercommitOperator.Cluster.SingletonConverge

/-!
# What the tolerated Conflict costs

`OvercommitReconciler.Reconcile` passes over a Conflict of the pod webhook configuration's upsert
(`src/unnamed/part_000:309-325`). Against the reliable server the Conflict never comes
(`createOrUpdate_reliable_error`), and a successful tick settles all ten objects
(`reconcile_step`).

Against `Fallible`, the reliable server that may also fail any request with an error other than
NotFound and then changes nothing, a successful tick on a singleton without legacy finalizers
still leaves the class controller's Deployment and the eight objects of the two validators at
fixpoints of their closures (`reconcile_fallible_step`, `podWebhook_conflict_tolerance`): each of
their upserts succeeded, a failed upsert of the pod webhook configuration changes nothing
(`createOrUpdate_fallible_error`), and the status update writes no object
(`Fallible.objects_of_sends`). The pod webhook configuration is the one object the guard leaves
out: a server that answers its Create with a Conflict gives a successful tick after which it is
absent (`podWebhook_conflict_tolerance_fresh`).
-/

namespace OvercommitOperator

/-- The steps of a server that answers as the reliable one does, or fails the request with an error
other than NotFound and changes nothing. -/
def Fallible (label : String) (req : Request) (r : Except ApiError req.Payload)
    (s s' : OvercommitCluster) : Prop :=
  Reliable label req r s s' ∨ (∃ e, e ≠ .notFound ∧ r = .error e) ∧ s' = s

section Fallible
variable {label : String} {req : Request} {s s' : OvercommitCluster}

/-- An answer that succeeded is the reliable one. -/
theorem Fallible.reliable_of_ok {a : req.Payload} (h : Fallible label req (.ok a) s s') :
    Reliable label req (.ok a) s s' :=
  h.resolve_right fun ⟨⟨_, _, h⟩, _⟩ => nomatch h

/-- A failed request changes nothing. -/
theorem Fallible.eq_of_error {e : ApiError} (h : Fallible label req (.error e) s s') : s' = s := by
  rcases h with ⟨-, rfl⟩ | ⟨-, rfl⟩
  · exact s.apply_error req e
  · rfl

/-- A request that writes no object keeps the objects. -/
theorem Fallible.objects_eq {r : Except ApiError req.Payload} (h : Fallible label req r s s')
    (hw : req.writesSpec = false) : s'.objects = s.objects := by
  rcases h with ⟨-, rfl⟩ | ⟨-, rfl⟩
  · cases req <;> (try cases r) <;> first | rfl | cases hw
  · rfl

/-- The fallible server's Gets, Creates and Updates act on the cluster's store. -/
theorem fallible_server (label : String) : OvercommitCluster.store.Server (Fallible label) where
  get h := by
    rcases h with h | ⟨⟨e, he, rfl⟩, rfl⟩
    · exact (reliable_server label).get h
    · exact ⟨rfl, (fun _ h => nomatch h), fun h => absurd (Except.error.inj h) he⟩
  create h := (reliable_server label).create h.reliable_of_ok
  update h := (reliable_server label).update h.reliable_of_ok

/-- A run whose requests write no object keeps the objects. -/
theorem Fallible.objects_of_sends {α : Type} {p : Prog α} (hp : Prog.Sends (·.writesSpec = false) p)
    {tr : List Prog.Exchange} {a : α} (hr : Prog.Runs p tr a) {s s' : OvercommitCluster}
    (hs : Served (Fallible label) tr s s') : s'.objects = s.objects :=
  Served.keep (P := fun s₁ => s₁.objects = s.objects)
    (fun ex hex _ _ h h₁ => (h.objects_eq (hp.runs hr ex hex)).trans h₁) hs rfl

/-- **A failed `CreateOrUpdate` changes nothing** against the fallible server: its Get keeps the
cluster, and a write it sends is its last request, failed. -/
theorem createOrUpdate_fallible_error {k : Kind} {obj : k.Obj} {f : k.Obj → Except ApiError k.Obj}
    {tr : List Prog.Exchange} {e : ApiError}
    (hr : Prog.Runs (createOrUpdate k obj f).run tr (.error e)) (hs : Served (Fallible label) tr s s') :
    s' = s := by
  unfold createOrUpdate at hr
  rw [sendRaw_bind_run, Prog.runs_call_iff] at hr
  obtain ⟨v, tr, rfl, hr⟩ := hr
  obtain ⟨s₁, h₁, hrest⟩ := served_cons_iff.1 hs
  obtain rfl : s₁ = s := (fallible_server label).get h₁ |>.1
  rcases v with e' | x
  · dsimp only at hr
    split at hr
    · rcases runs_tick_bind.1 hr with ⟨tr₁, tr₂, obj', rfl, h₁, h₂⟩ | ⟨_, h₁, -⟩ <;>
        obtain ⟨rfl, -⟩ := runs_liftExcept_iff.1 h₁
      · split at h₂
        · simp only [ExceptT.bind_throw, runs_throw_iff] at h₂
          obtain ⟨rfl, -⟩ := h₂
          cases hrest
          rfl
        · rw [pure_bind, runs_sendE_iff] at h₂
          subst h₂
          obtain _ | ⟨h, _ | _⟩ := hrest
          exact h.eq_of_error
      · cases hrest
        rfl
    · obtain ⟨rfl, -⟩ := runs_throw_iff.1 hr
      cases hrest
      rfl
  · dsimp only at hr
    rcases runs_tick_bind.1 hr with ⟨tr₁, tr₂, obj', rfl, h₁, h₂⟩ | ⟨_, h₁, -⟩ <;>
      obtain ⟨rfl, -⟩ := runs_liftExcept_iff.1 h₁
    · split at h₂
      · simp only [ExceptT.bind_throw, runs_throw_iff] at h₂
        obtain ⟨rfl, -⟩ := h₂
        cases hrest
        rfl
      · rw [pure_bind] at h₂
        split at h₂
        · exact nomatch (runs_pure_iff.1 h₂).2
        · rw [pure_bind, runs_sendE_iff] at h₂
          subst h₂
          obtain _ | ⟨h, _ | _⟩ := hrest
          exact h.eq_of_error
    · cases hrest
      rfl

/-- The label read changes nothing, and answers `label` when it succeeds. -/
theorem sendE_label_fallible :
    Quiet (Fallible label) s (sendE .getOvercommitLabel) (· = label) :=
  Quiet.sendE rfl fun _ _ h => by
    rcases h with ⟨hr, hs⟩ | ⟨⟨_, -, hr⟩, hs⟩
    · exact ⟨by rw [hs, (show Request.getOvercommitLabel.IsRead from trivial).apply],
        fun _ ha => Except.ok.inj (ha.symm.trans hr)⟩
    · exact ⟨hs, fun _ ha => nomatch ha.symm.trans hr⟩

/-- The NotFound-tolerant read of `cluster` changes nothing, and returns the singleton stored
when it succeeds. -/
theorem getIgnoreNotFound_cluster_fallible {o : Overcommit} (ho : s.overcommit = some o) :
    Quiet (Fallible label) s (getIgnoreNotFound (.getOvercommitCR "cluster")) (· = some o) := by
  have hreq : (Request.getOvercommitCR "cluster").IsRead := trivial
  unfold getIgnoreNotFound
  refine Quiet.bind (Quiet.sendRaw
    (R := fun (r : Except ApiError (Request.getOvercommitCR "cluster").Payload) =>
      r = .ok o ∨ ∃ e, e ≠ .notFound ∧ r = .error e)
    hreq.writesSpec fun r s' h => ?_) fun r hr => ?_
  · rcases h with ⟨hr, hs⟩ | ⟨hr, hs⟩
    · exact ⟨by rw [hs, hreq.apply], .inl (hr.trans (s.readOvercommit_cluster ho))⟩
    · exact ⟨hs, .inr hr⟩
  rcases hr with rfl | ⟨e, he, rfl⟩
  · exact Quiet.pure' rfl
  · dsimp only
    rw [if_neg he]
    exact Quiet.throw'

/-- An upsert of the tick keeps the singleton and the objects already upserted, and adds its own. -/
theorem upsert_fallible {o : Overcommit} {k : Kind} {obj : k.Obj}
    {f : k.Obj → Except ApiError k.Obj} {L : List Upsert} (hf : Idempotent f)
    (hne : ∀ u ∈ L, u.k ≠ k ∨ u.obj.meta.name ≠ obj.meta.name) :
    SoloTriple (Fallible label)
      (fun s => s.overcommit = some o ∧ OvercommitCluster.store.AllFixed s L) (createOrUpdate k obj f)
      fun v s => s.overcommit = some o ∧ OvercommitCluster.store.AllFixed s (⟨k, obj, f, v⟩ :: L) :=
  createOrUpdate_allFixed (fallible_server label) hf hne fun _ _ h => h

/-- The tolerated upsert keeps the singleton and the objects already upserted, whether it succeeds
or fails with a Conflict. -/
theorem ignoreConflict_upsert_fallible {o : Overcommit} {k : Kind} {obj : k.Obj}
    {f : k.Obj → Except ApiError k.Obj} {L : List Upsert} (hf : Idempotent f)
    (hne : ∀ u ∈ L, u.k ≠ k ∨ u.obj.meta.name ≠ obj.meta.name) :
    SoloTriple (Fallible label)
      (fun s => s.overcommit = some o ∧ OvercommitCluster.store.AllFixed s L)
      (ignoreConflict (createOrUpdate k obj f))
      fun _ s => s.overcommit = some o ∧ OvercommitCluster.store.AllFixed s L :=
  (upsert_fallible hf hne).ignoreConflict_of_keep
    (fun _ _ ⟨ho, hl⟩ => ⟨ho, fun u hu => hl u (List.mem_cons_of_mem _ hu)⟩)
    fun _ hA _ _ hr hs => (createOrUpdate_fallible_error hr hs).symm ▸ hA

end Fallible

/-! ## A successful tick against the fallible server -/

section Step
variable (T : Templater) (env : ImageEnv) {label : String}

/-- **A successful tick against the fallible server** on a singleton without legacy finalizers
leaves the class controller's Deployment and the eight objects of the two validators at fixpoints of
their closures. -/
theorem reconcile_fallible_step (hT : T.Regular) (now : Time) {o : Overcommit}
    (hleg : (removeLegacyFinalizers o.meta).2 = false) :
    SoloTriple (Fallible label) (fun s => s.overcommit = some o)
      (OvercommitReconciler.reconcile T env now "cluster") fun _ s => ∃ issuer x,
        T.generateIssuer = some issuer ∧
        OvercommitCluster.store.AllFixed s
          (controllerUpsert T env o x :: validatorUpserts T env o issuer x) := by
  unfold OvercommitReconciler.reconcile
  refine TickTriple.bind (SoloTriple.of_quiet fun _ _ => sendE_label_fallible) fun l =>
    TickTriple.pure_pre fun hl => ?_
  subst l
  refine TickTriple.bind (SoloTriple.of_quiet fun _ ho => getIgnoreNotFound_cluster_fallible ho)
    fun r => TickTriple.pure_pre fun hr => ?_
  subst hr
  dsimp only
  rcases hm : removeLegacyFinalizers o.meta with ⟨meta, _ | _⟩
  · simp only [Bool.false_eq_true, ↓reduceIte, pure_bind]
    rcases hi : T.generateIssuer with _ | issuer
    · exact TickTriple.throw'
    dsimp only
    refine TickTriple.bind ((upsert_fallible createOnly_idempotent (List.forall_mem_nil _)).pre
      fun s _ h => ⟨h, List.forall_mem_nil _⟩) fun iss => ?_
    refine TickTriple.bind (upsert_fallible createOnly_idempotent (by simp)) fun ocCert => ?_
    refine TickTriple.bind (upsert_fallible mutateOvercommitDeployment_idempotent (by simp))
      fun ocDep => ?_
    refine TickTriple.bind (upsert_fallible createOnly_idempotent (by simp)) fun ocSvc => ?_
    refine TickTriple.bind (upsert_fallible createOnly_idempotent (by simp)) fun ocWh => ?_
    refine TickTriple.bind (upsert_fallible createOnly_idempotent (by simp [hT.certificate_ne]))
      fun podCert => ?_
    refine TickTriple.bind (upsert_fallible mutateOvercommitDeployment_idempotent
      (by simp [hT.ocDeployment_ne_podDeployment])) fun podDep => ?_
    refine TickTriple.bind (upsert_fallible createOnly_idempotent (by simp [hT.service_ne]))
      fun podSvc => ?_
    refine TickTriple.bind (ignoreConflict_upsert_fallible createOnly_idempotent
      (by simp [hT.webhook_ne])) fun _ => ?_
    refine TickTriple.bind (upsert_fallible mutateOvercommitDeployment_idempotent
      (by simp [hT.ocDeployment_ne_controller, hT.podDeployment_ne_controller])) fun ctrl => ?_
    refine TickTriple.bind (TickTriple.lift (Triple.of_served fun s ⟨ho, hfix⟩ tr r s' hr hs => ?_))
      fun _ => TickTriple.pure' fun _ _ h => h
    exact ⟨issuer, ⟨iss, ocCert, ocDep, ocSvc, ocWh, podCert, podDep, podSvc, ocWh, ctrl⟩, rfl,
      hfix.of_objects_eq (Fallible.objects_of_sends
        (OvercommitReconciler.updateOvercommitStatusSafelyLoop_sends T) hr hs)⟩
  · rw [hm] at hleg
    cases hleg

end Step

/-! ## The pod webhook needs the guard -/

/-- A server that answers the Create of the webhook configuration named `pod` with a Conflict, and
every other request as the reliable one. -/
def podWebhookConflict (label : String) (s : OvercommitCluster) :
    (req : Request) → Except ApiError req.Payload
  | .create .validatingWebhookConfiguration obj =>
    if obj.meta.name = "pod" then .error .conflict
    else s.answer label (.create .validatingWebhookConfiguration obj)
  | req => s.answer label req

theorem fallible_podWebhookConflict (label : String) (s : OvercommitCluster) (req : Request) :
    Fallible label req (podWebhookConflict label s req) s
      (s.apply ⟨req, podWebhookConflict label s req⟩) := by
  unfold podWebhookConflict
  split
  · split
    · exact .inr ⟨⟨.conflict, by decide, rfl⟩, s.apply_error _ _⟩
    · exact .inl ⟨rfl, rfl⟩
  · exact .inl ⟨rfl, rfl⟩

/-- The singleton `cluster` with no legacy finalizer, and no object. -/
def freshCluster : OvercommitCluster :=
  ⟨some clusterOvercommit, fun _ _ => none, fun _ h => by cases h; rfl⟩

/-- The first tick on it against that server. -/
def conflictTick : List Prog.Exchange × Except ApiError CtrlResult × OvercommitCluster :=
  freshCluster.serveBy (podWebhookConflict OvercommitReconciler.defaultLabel)
    (OvercommitReconciler.reconcile Templater.oneContainer releaseEnv 0 "cluster").run

theorem conflictTick_runs :
    Prog.Runs (OvercommitReconciler.reconcile Templater.oneContainer releaseEnv 0 "cluster").run
      conflictTick.1 (.ok { requeueAfter := 10 }) :=
  (freshCluster.serveBy_spec (fallible_podWebhookConflict OvercommitReconciler.defaultLabel) _).1

theorem conflictTick_served :
    Served (Fallible OvercommitReconciler.defaultLabel) conflictTick.1 freshCluster conflictTick.2.2 :=
  (freshCluster.serveBy_spec (fallible_podWebhookConflict OvercommitReconciler.defaultLabel) _).2

/-- **What the tolerated Conflict costs.** For every regular templater, a successful tick against the
fallible server, on a singleton without legacy finalizers, leaves the class controller's Deployment
and the eight objects of the two validators at fixpoints of their closures. -/
theorem podWebhook_conflict_tolerance (T : Templater) (env : ImageEnv) {label : String} {now : Time}
    {o : Overcommit} {tr : List Prog.Exchange} {a : CtrlResult} {s s' : OvercommitCluster}
    (hT : T.Regular) (hleg : (removeLegacyFinalizers o.meta).2 = false) (ho : s.overcommit = some o)
    (hr : Prog.Runs (OvercommitReconciler.reconcile T env now "cluster").run tr (.ok a))
    (hs : Served (Fallible label) tr s s') :
    ∃ issuer x, T.generateIssuer = some issuer ∧
      OvercommitCluster.store.AllFixed s'
        (controllerUpsert T env o x :: validatorUpserts T env o issuer x) :=
  TickTriple.served (reconcile_fallible_step T env hT now hleg) hr hs trivial ho

/-- The pod webhook configuration is not among them: on the fresh cluster, against the server that
answers its Create with a Conflict, the first tick succeeds, fixes the nine others, and leaves it
absent. -/
theorem podWebhook_conflict_tolerance_fresh :
    ∃ tr s',
      Prog.Runs (OvercommitReconciler.reconcile Templater.oneContainer releaseEnv 0 "cluster").run
        tr (.ok { requeueAfter := 10 }) ∧
      Served (Fallible OvercommitReconciler.defaultLabel) tr freshCluster s' ∧
      (∃ issuer x, Templater.oneContainer.generateIssuer = some issuer ∧
        OvercommitCluster.store.AllFixed s'
          (controllerUpsert Templater.oneContainer releaseEnv clusterOvercommit x ::
            validatorUpserts Templater.oneContainer releaseEnv clusterOvercommit issuer x)) ∧
      s'.objects .validatingWebhookConfiguration "pod" = none :=
  ⟨_, _, conflictTick_runs, conflictTick_served,
    podWebhook_conflict_tolerance _ _ Templater.oneContainer_regular rfl rfl conflictTick_runs
      conflictTick_served, rfl⟩

end OvercommitOperator
