import OvercommitOperator.Reconcile.Status

/-!
# The singleton reconciler

`OvercommitReconciler.Reconcile` as a tick: the legacy-finalizer migration, the issuer, the
OvercommitClass validator and the pod validator (certificate, deployment, service, webhook
configuration each), and the class controller's deployment. Go's pointers are respected: a
closure reads the objects its `CreateOrUpdate` calls have already overwritten with the server's
answer, and the objects still to be upserted as the templater built them.

The migration drops every legacy finalizer and keeps the others in order
(`removeLegacyFinalizers_eq`); the tick writes the singleton back and requeues exactly when one was
present (`reconcile_after_read`), and on its own result the step changes nothing
(`removeLegacyFinalizers_idem`), so the next tick goes on to the upserts.
-/

namespace OvercommitOperator

/-- The finalizers earlier versions of the operator put on the singleton. -/
def legacyFinalizers : List String := ["overcommit.finalizer", "webhook.finalizer"]

/-- The migration loop: every legacy finalizer present is removed; the flag says whether one
was. Reference: `src/unnamed/part_000:72-80`. -/
def removeLegacyFinalizers (meta : ObjectMeta) : ObjectMeta × Bool :=
  legacyFinalizers.foldl (fun (acc : ObjectMeta × Bool) f =>
    if containsFinalizer acc.1 f then (removeFinalizer acc.1 f, true) else acc) (meta, false)

/-- The migration loop over any list of names: the finalizers named are dropped, the others kept
in order, and the flag set when one was present. -/
theorem foldl_removeFinalizer (L : List String) (meta : ObjectMeta) (b : Bool) :
    L.foldl (fun (acc : ObjectMeta × Bool) f =>
        if containsFinalizer acc.1 f then (removeFinalizer acc.1 f, true) else acc) (meta, b) =
      ({ meta with finalizers := meta.finalizers.filter (· ∉ L) },
        b || meta.finalizers.any (· ∈ L)) := by
  induction L generalizing meta b with
  | nil => simp
  | cons x L ih =>
    rw [List.foldl_cons]
    by_cases hx : x ∈ meta.finalizers
    · rw [if_pos (by simpa [containsFinalizer] using hx), ih]
      have hf : (meta.finalizers.filter (· != x)).filter (· ∉ L) =
          meta.finalizers.filter (· ∉ x :: L) := by
        rw [List.filter_filter]
        exact List.filter_congr fun y _ => by by_cases h : y = x <;> simp [h]
      have ha : meta.finalizers.any (· ∈ x :: L) = true := List.any_eq_true.2 ⟨x, hx, by simp⟩
      simp only [removeFinalizer, hf, ha, Bool.true_or, Bool.or_true]
    · rw [if_neg (by simpa [containsFinalizer] using hx), ih]
      have hne : ∀ y ∈ meta.finalizers, y ≠ x := fun y hy h => hx (h ▸ hy)
      have hf : meta.finalizers.filter (· ∉ x :: L) = meta.finalizers.filter (· ∉ L) :=
        List.filter_congr fun y hy => by simp only [List.mem_cons, hne y hy, false_or]
      have ha : meta.finalizers.any (· ∈ x :: L) = meta.finalizers.any (· ∈ L) := by
        refine Bool.eq_iff_iff.2 ?_
        simp only [List.any_eq_true, decide_eq_true_eq, List.mem_cons]
        exact ⟨fun ⟨y, hy, h⟩ => ⟨y, hy, h.resolve_left (hne y hy)⟩,
          fun ⟨y, hy, h⟩ => ⟨y, hy, .inr h⟩⟩
      rw [hf, ha]

/-- The migration drops every legacy finalizer and keeps the others in order; the flag says
whether one was present. -/
theorem removeLegacyFinalizers_eq (meta : ObjectMeta) :
    removeLegacyFinalizers meta =
      ({ meta with finalizers := meta.finalizers.filter (· ∉ legacyFinalizers) },
        meta.finalizers.any (· ∈ legacyFinalizers)) := by
  rw [removeLegacyFinalizers, foldl_removeFinalizer, Bool.false_or]

/-- Both occurrences of a legacy finalizer go; the others stay in order. -/
example : removeLegacyFinalizers { ObjectMeta.named "cluster" with
      finalizers := ["a", "webhook.finalizer", "b", "webhook.finalizer"] } =
    ({ ObjectMeta.named "cluster" with finalizers := ["a", "b"] }, true) :=
  rfl

/-- A second migration changes nothing and sets no flag. -/
theorem removeLegacyFinalizers_idem (meta : ObjectMeta) :
    removeLegacyFinalizers (removeLegacyFinalizers meta).1 = ((removeLegacyFinalizers meta).1, false) := by
  rw [removeLegacyFinalizers_eq meta, removeLegacyFinalizers_eq]
  simp [List.filter_filter]

namespace OvercommitReconciler
variable (T : Templater) (env : ImageEnv) (now : Time)

/-- One tick of the singleton reconciler at time `now`. A failed upsert of the pod webhook
configuration is tolerated when it is a conflict; the error of the status update is logged and
dropped.
Reference: `OvercommitReconciler.Reconcile` (`src/unnamed/part_000:47`). -/
def reconcile (req : String) : Tick CtrlResult := do
  let label ← sendE .getOvercommitLabel
  let some (overcommit : Overcommit) ← getIgnoreNotFound (.getOvercommitCR req) | return {}
  let (meta, finalizerRemoved) := removeLegacyFinalizers overcommit.meta
  if finalizerRemoved then
    sendE (.updateOvercommitCR { overcommit with meta := meta })
    return { requeueAfter := 1 }
  let some issuer := T.generateIssuer | throw (.other "generated issuer is nil")
  let owner := overcommitOwner overcommit.meta
  let issuer ← createOrUpdate .issuer issuer (mutateIssuer owner)
  -- the OvercommitClass validator
  let ocDeployment := T.generateOvercommitClassValidatingDeployment overcommit
  let ocService := T.generateOvercommitClassValidatingService ocDeployment
  let ocCertificate := T.generateCertificateValidatingOvercommitClass issuer ocService
  let ocWebhook :=
    T.generateOvercommitClassValidatingWebhookConfiguration ocDeployment ocService ocCertificate
  let ocCertificate ← createOrUpdate .certificate ocCertificate
    (mutateNewBody owner (T.generateCertificateValidatingOvercommitClass issuer ocService))
  let ocDeployment ← createOrUpdate .deployment ocDeployment
    (mutateOvercommitDeployment owner env (T.generateOvercommitClassValidatingDeployment overcommit))
  let ocService ← createOrUpdate .service ocService
    (mutateNewBody owner (T.generateOvercommitClassValidatingService ocDeployment))
  let _ ← createOrUpdate .validatingWebhookConfiguration ocWebhook
    (mutateNewAnnotatedWebhooks owner
      (T.generateOvercommitClassValidatingWebhookConfiguration ocDeployment ocService ocCertificate))
  -- the pod validator
  let podDeployment := T.generatePodValidatingDeployment overcommit
  let podService := T.generatePodValidatingService podDeployment
  let podCertificate := T.generateCertificateValidatingPods issuer podService
  let podWebhook :=
    T.generatePodValidatingWebhookConfiguration podDeployment podService podCertificate label
  let podCertificate ← createOrUpdate .certificate podCertificate
    (mutateNewBody owner (T.generateCertificateValidatingPods issuer podService))
  let podDeployment ← createOrUpdate .deployment podDeployment
    (mutateOvercommitDeployment owner env (T.generatePodValidatingDeployment overcommit))
  let podService ← createOrUpdate .service podService
    (mutateNewBody owner (T.generatePodValidatingService podDeployment))
  ignoreConflict (createOrUpdate .validatingWebhookConfiguration podWebhook
    (mutateNewBody owner (T.generatePodValidatingWebhookConfiguration
      podDeployment podService podCertificate label)))
  -- the class controller
  let occontroller := T.generateOvercommitClassControllerDeployment overcommit
  let _ ← createOrUpdate .deployment occontroller
    (mutateOvercommitDeployment owner env (T.generateOvercommitClassControllerDeployment overcommit))
  let _ ← ExceptT.lift (updateOvercommitStatusSafely T now).run
  return { requeueAfter := 10 }

/-- The tick after it read the label and the singleton `s`: when `s` carries a legacy finalizer,
the Update of `s` without them and the requeue after a second; otherwise the issuer step. -/
theorem reconcile_after_read {req l : String} {s : Overcommit} {rest : List Prog.Exchange}
    {r : Except ApiError CtrlResult}
    (h : Prog.Runs (reconcile T env now req).run
      (⟨.getOvercommitLabel, .ok l⟩ :: ⟨.getOvercommitCR req, .ok s⟩ :: rest) r) :
    if (removeLegacyFinalizers s.meta).2 then
      ∃ w, rest = [⟨.updateOvercommitCR { s with meta := (removeLegacyFinalizers s.meta).1 }, w⟩] ∧
        r = w.map fun _ => { requeueAfter := 1 }
    else
      (∃ i, T.generateIssuer = some i ∧ ∃ v rest', rest = ⟨.get .issuer i.meta.name, v⟩ :: rest') ∨
        (T.generateIssuer = none ∧ rest = [] ∧ r = .error (.other "generated issuer is nil")) := by
  have h := runs_label_then_get_ok h
  rcases hm : removeLegacyFinalizers s.meta with ⟨meta, _ | _⟩ <;> dsimp only at h <;> rw [hm] at h <;>
    simp only [hm, Bool.false_eq_true, ↓reduceIte] at h ⊢
  · rw [pure_bind] at h
    cases hi : T.generateIssuer with
    | none =>
      rw [hi] at h
      obtain ⟨rfl, rfl⟩ := runs_throw_iff.1 h
      exact .inr ⟨rfl, rfl, rfl⟩
    | some i =>
      rw [hi] at h
      rcases runs_tick_bind.1 h with ⟨_, tr₂, _, rfl, h₁, -⟩ | ⟨_, h₁, -⟩ <;>
        obtain ⟨v, tr', rfl⟩ := runs_createOrUpdate_head h₁
      · exact .inl ⟨i, rfl, v, tr' ++ tr₂, rfl⟩
      · exact .inl ⟨i, rfl, v, tr', rfl⟩
  · rcases runs_tick_bind.1 h with ⟨_, _, a, rfl, h₁, h₂⟩ | ⟨e, h₁, rfl⟩
    · obtain ⟨rfl, rfl⟩ := runs_pure_iff.1 h₂
      exact ⟨.ok a, by rw [runs_sendE_iff.1 h₁]; rfl, rfl⟩
    · exact ⟨.error e, runs_sendE_iff.1 h₁, rfl⟩

end OvercommitReconciler

end OvercommitOperator
