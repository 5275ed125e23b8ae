import Mathlib.Algebra.Group.Nat.Basic
import Mathlib.Data.List.Chain
import OvercommitOperator.Reconcile.ClassRuns
import OvercommitOperator.Status.Conditions

/-!
# The singleton's status

`updateOvercommitStatus` reads each of the ten managed objects of the singleton (an object is
ready when its Get succeeds), sets the aggregated `ResourcesReady` condition through
`setCondition`, and writes the status. `updateOvercommitStatusSafely` fetches the singleton afresh
and retries the update on a conflict, at most `maxRetries` times, sleeping `50 ms · 2^attempt`
between attempts; any other error is returned at once.

The update is its reads, then the status write (`updateOvercommitStatus_eq`); the reads are
readiness checks and the label read, which never fail, so a run of the update ends with the
status write and returns its answer (`updateOvercommitStatus_runs`). Both loop facts are proved
over every run, from one lemma that says what an attempt can do
(`updateOvercommitStatusSafelyLoop_succ_runs`): the loop reads the singleton at most five times
and sleeps a prefix of 50, 100, 200 and 400 ms (`updateOvercommitStatusSafely_bounded`); a sleep
follows only a status write that failed with a Conflict, any other failure of that write ends the
loop, and the loop ends at the fetch of the singleton or at a status write
(`updateOvercommitStatusSafely_sleeps`).

On a prior status whose conditions have distinct types, every status the update can write keeps
them distinct, holds one `ResourcesReady` condition, `True` exactly when every row is ready, keeps
every other condition in its place, and leaves the conditions as they were when the old
`ResourcesReady` condition already said the same; once the issuer is generated, every run sends
such a write (`updateOvercommitStatus_conditions`).
-/

namespace OvercommitOperator

/-- The reads of a status update: Gets of objects and the label read. -/
def Request.IsObjectRead : Request → Prop
  | .get _ _ | .getOvercommitLabel => True
  | _ => False

/-- A read of a status update is neither a sleep nor a status write. -/
theorem Request.IsObjectRead.quiet {req : Request} (h : req.IsObjectRead) :
    req.sleepMs = none ∧ ∀ o, req ≠ .updateStatus o := by
  cases req <;> first | exact h.elim | exact ⟨rfl, fun _ h => nomatch h⟩

namespace OvercommitReconciler
variable (T : Templater)

/-- The label the status update uses when the read fails. -/
def defaultLabel : String := "overcommit.inditex.dev/class"

/-- A row of the status: the object is ready when its Get succeeds; Go's pointer then holds what
the server returned. Reference: `checkResourceStatus` (`utils.go:34`). -/
def checkResourceStatus (k : Kind) (obj : k.Obj) : Tick (ResourceStatus × k.Obj) := do
  match ← sendRaw (.get k obj.meta.name) with
  | .ok fetched => return (⟨obj.meta.name, true⟩, fetched)
  | .error _ => return (⟨obj.meta.name, false⟩, obj)

/-- The aggregated condition over the rows. Reference: `utils.go:116-141`. -/
def resourcesReadyCondition (rows : List ResourceStatus) (now : Time) : Condition :=
  if rows.all (·.ready) then
    ⟨"ResourcesReady", "True", "AllResourcesReady",
      "All " ++ toString rows.length ++ " managed resources are ready", now⟩
  else
    ⟨"ResourcesReady", "False", "ResourcesNotReady",
      toString (rows.countP (·.ready)) ++ " of " ++ toString rows.length ++ " resources are ready",
      now⟩

@[simp] theorem type_resourcesReadyCondition (rows : List ResourceStatus) (now : Time) :
    (resourcesReadyCondition rows now).type = "ResourcesReady" := by
  unfold resourcesReadyCondition; split <;> rfl

/-- The aggregated condition is `True` exactly when every row is ready. -/
theorem status_resourcesReadyCondition (rows : List ResourceStatus) (now : Time) :
    (resourcesReadyCondition rows now).status = "True" ↔ ∀ row ∈ rows, row.ready = true := by
  unfold resourcesReadyCondition
  split <;> simp_all

/-- Reads the ten managed objects and writes the status; `now` is the time `metav1.Now()` reads.
Reference: `updateOvercommitStatus` (`src/internal/controller/overcommit/utils.go:26`). -/
def updateOvercommitStatus (now : Time) (overcommitObject : Overcommit) : Tick Unit := do
  let some issuer := T.generateIssuer | throw .panic
  let (issuerRow, issuer) ← checkResourceStatus .issuer issuer
  let ocDeployment := T.generateOvercommitClassValidatingDeployment overcommitObject
  let (ocDeploymentRow, ocDeployment) ← checkResourceStatus .deployment ocDeployment
  let ocService := T.generateOvercommitClassValidatingService ocDeployment
  let (ocServiceRow, ocService) ← checkResourceStatus .service ocService
  let ocCertificate := T.generateCertificateValidatingOvercommitClass issuer ocService
  let (ocCertificateRow, ocCertificate) ← checkResourceStatus .certificate ocCertificate
  let ocWebhook :=
    T.generateOvercommitClassValidatingWebhookConfiguration ocDeployment ocService ocCertificate
  let (ocWebhookRow, _) ← checkResourceStatus .validatingWebhookConfiguration ocWebhook
  let podDeployment := T.generatePodValidatingDeployment overcommitObject
  let (podDeploymentRow, podDeployment) ← checkResourceStatus .deployment podDeployment
  let podService := T.generatePodValidatingService podDeployment
  let (podServiceRow, podService) ← checkResourceStatus .service podService
  let podCertificate := T.generateCertificateValidatingPods issuer podService
  let (podCertificateRow, podCertificate) ← checkResourceStatus .certificate podCertificate
  let label ← match ← sendRaw .getOvercommitLabel with
    | .ok label => pure label
    | .error _ => pure defaultLabel
  let podWebhook :=
    T.generatePodValidatingWebhookConfiguration podDeployment podService podCertificate label
  let (podWebhookRow, _) ← checkResourceStatus .validatingWebhookConfiguration podWebhook
  let ocController := T.generateOvercommitClassControllerDeployment overcommitObject
  let (ocControllerRow, _) ← checkResourceStatus .deployment ocController
  let rows := [issuerRow, ocDeploymentRow, ocServiceRow, ocCertificateRow, ocWebhookRow,
    podDeploymentRow, podServiceRow, podCertificateRow, podWebhookRow, ocControllerRow]
  let status := setCondition now { overcommitObject.status with resources := rows }
    (resourcesReadyCondition rows now)
  sendE (.updateStatus { overcommitObject with status := status })

/-- The number of attempts of the status update. -/
def maxRetries : Nat := 5

/-- The sleep before the attempt after `attempt`, in milliseconds. -/
def backoffDuration (attempt : Nat) : Nat := 2 ^ attempt * 50

/-- The retry loop from attempt `attempt`, with `remaining` attempts left. -/
def updateOvercommitStatusSafelyLoop (now : Time) : Nat → Nat → Tick Unit
  | _, 0 => throw (.other "failed to update status after 5 attempts")
  | attempt, remaining + 1 => do
    match ← sendRaw (.getOvercommitCR "cluster") with
    | .error e => if e = .notFound then return () else throw e
    | .ok freshOvercommit =>
      match ← ExceptT.lift (updateOvercommitStatus T now freshOvercommit).run with
      | .ok () => return ()
      | .error e =>
        if attempt = maxRetries - 1 then throw e
        else if e = .conflict then
          let _ ← sendRaw (.sleep (backoffDuration attempt))
          updateOvercommitStatusSafelyLoop now (attempt + 1) remaining
        else throw e

/-- Reference: `updateOvercommitStatusSafely`
(`src/internal/controller/overcommit/utils.go:162`). -/
def updateOvercommitStatusSafely (now : Time) : Tick Unit :=
  updateOvercommitStatusSafelyLoop T now 0 maxRetries

/-! ## The reads, then the write

`updateOvercommitStatus` is its reads, the ten Gets and the label read (`statusReads`), followed
by the write of the status over the rows read (`updateOvercommitStatus_eq`). The reads are built
from `checkResourceStatus` and the label read alone (`statusReads_induction`): they send only
these reads (`statusReads_sends`) and, once the issuer is generated, never fail
(`statusReads_neverFails`). So a run of the update is the reads followed by the status write,
whose answer it returns (`updateOvercommitStatus_runs`).
-/

/-- The reads of `updateOvercommitStatus`: the rows of the ten managed objects. -/
def statusReads (overcommitObject : Overcommit) : Tick (List ResourceStatus) := do
  let some issuer := T.generateIssuer | throw .panic
  let (issuerRow, issuer) ← checkResourceStatus .issuer issuer
  let ocDeployment := T.generateOvercommitClassValidatingDeployment overcommitObject
  let (ocDeploymentRow, ocDeployment) ← checkResourceStatus .deployment ocDeployment
  let ocService := T.generateOvercommitClassValidatingService ocDeployment
  let (ocServiceRow, ocService) ← checkResourceStatus .service ocService
  let ocCertificate := T.generateCertificateValidatingOvercommitClass issuer ocService
  let (ocCertificateRow, ocCertificate) ← checkResourceStatus .certificate ocCertificate
  let ocWebhook :=
    T.generateOvercommitClassValidatingWebhookConfiguration ocDeployment ocService ocCertificate
  let (ocWebhookRow, _) ← checkResourceStatus .validatingWebhookConfiguration ocWebhook
  let podDeployment := T.generatePodValidatingDeployment overcommitObject
  let (podDeploymentRow, podDeployment) ← checkResourceStatus .deployment podDeployment
  let podService := T.generatePodValidatingService podDeployment
  let (podServiceRow, podService) ← checkResourceStatus .service podService
  let podCertificate := T.generateCertificateValidatingPods issuer podService
  let (podCertificateRow, podCertificate) ← checkResourceStatus .certificate podCertificate
  let label ← match ← sendRaw .getOvercommitLabel with
    | .ok label => pure label
    | .error _ => pure defaultLabel
  let podWebhook :=
    T.generatePodValidatingWebhookConfiguration podDeployment podService podCertificate label
  let (podWebhookRow, _) ← checkResourceStatus .validatingWebhookConfiguration podWebhook
  let ocController := T.generateOvercommitClassControllerDeployment overcommitObject
  let (ocControllerRow, _) ← checkResourceStatus .deployment ocController
  return [issuerRow, ocDeploymentRow, ocServiceRow, ocCertificateRow, ocWebhookRow,
    podDeploymentRow, podServiceRow, podCertificateRow, podWebhookRow, ocControllerRow]

/-- The status update is its reads, then the write of the rows read and the `ResourcesReady`
condition over them. -/
theorem updateOvercommitStatus_eq (now : Time) (o : Overcommit) :
    updateOvercommitStatus T now o = statusReads T o >>= fun rows =>
      sendE (.updateStatus { o with status := (setCondition now { o.status with resources := rows }
        (resourcesReadyCondition rows now)) }) := by
  unfold updateOvercommitStatus statusReads
  rcases T.generateIssuer with _ | i
  · exact (ExceptT.bind_throw _).symm
  · simp only [bind_assoc, pure_bind]
    repeat refine bind_congr fun _ => ?_
    split <;> simp only [bind_assoc, pure_bind]

/-- A tick none of whose runs returns an error. -/
def NeverFails {α : Type} (x : Tick α) : Prop := ∀ tr e, ¬ Prog.Runs x.run tr (.error e)

section NeverFails
variable {α β : Type} {x : Tick α} {f : α → Tick β}

theorem NeverFails.pure' {a : α} : NeverFails (pure a : Tick α) :=
  fun _ _ h => nomatch (runs_pure_iff.1 h).2

theorem NeverFails.sendRaw {req : Request} : NeverFails (sendRaw req) := fun _ _ h => by
  cases h with
  | call h => cases h

theorem NeverFails.bind (hx : NeverFails x) (hf : ∀ a, NeverFails (f a)) :
    NeverFails (x >>= f) := fun _ _ h => by
  rcases runs_tick_bind.1 h with ⟨_, _, a, -, -, h₂⟩ | ⟨_, h₁, -⟩
  exacts [hf a _ _ h₂, hx _ _ h₁]

end NeverFails

/-- A readiness check sends the Get of its object. -/
theorem checkResourceStatus_sends {P : Request → Prop} {k : Kind} {obj : k.Obj}
    (h : P (.get k obj.meta.name)) : Prog.Sends P (checkResourceStatus k obj).run :=
  sends_sendRaw_bind h fun r => by cases r <;> exact .ret _

/-- A readiness check never fails: a failed Get is a row that is not ready. -/
theorem checkResourceStatus_neverFails {k : Kind} {obj : k.Obj} :
    NeverFails (checkResourceStatus k obj) :=
  NeverFails.sendRaw.bind fun r => by cases r <;> exact NeverFails.pure'

/-- The status reads are readiness checks and the label read, in the order of the code, once the
issuer is generated: a property of ticks that `bind` keeps, and that holds of `pure`, of every
check and of the label read, holds of them. -/
theorem statusReads_induction (Q : ∀ {α : Type}, Tick α → Prop) {o : Overcommit}
    (hpanic : T.generateIssuer = none → Q (throw .panic : Tick (List ResourceStatus)))
    (hpure : ∀ {α : Type} (a : α), Q (pure a : Tick α))
    (hbind : ∀ {α β : Type} {x : Tick α} {f : α → Tick β}, Q x → (∀ a, Q (f a)) → Q (x >>= f))
    (hcheck : ∀ k obj, Q (checkResourceStatus k obj))
    (hlabel : Q (sendRaw .getOvercommitLabel)) : Q (statusReads T o) := by
  unfold statusReads
  cases hi : T.generateIssuer with
  | none => exact hpanic hi
  | some issuer =>
    -- the Overcommit validator: issuer, Deployment, Service, Certificate, webhook configuration
    refine hbind (hcheck .issuer _) fun ⟨_, _⟩ => hbind (hcheck .deployment _) fun ⟨_, _⟩ =>
      hbind (hcheck .service _) fun ⟨_, _⟩ => hbind (hcheck .certificate _) fun ⟨_, _⟩ =>
      hbind (hcheck .validatingWebhookConfiguration _) fun ⟨_, _⟩ => ?_
    -- the pod validator: Deployment, Service, Certificate, then the label read
    refine hbind (hcheck .deployment _) fun ⟨_, _⟩ => hbind (hcheck .service _) fun ⟨_, _⟩ =>
      hbind (hcheck .certificate _) fun ⟨_, _⟩ => hbind hlabel fun r => ?_
    -- the label read or the default, the pod webhook configuration, and the class controller
    cases r <;>
      exact hbind (hpure _) fun _ => hbind (hcheck .validatingWebhookConfiguration _) fun ⟨_, _⟩ =>
        hbind (hcheck .deployment _) fun ⟨_, _⟩ => hpure _

theorem statusReads_sends {o : Overcommit} :
    Prog.Sends Request.IsObjectRead (statusReads T o).run :=
  statusReads_induction T (fun x => Prog.Sends Request.IsObjectRead x.run) (fun _ => .ret _)
    (fun _ => .ret _) sends_tick_bind (fun _ _ => checkResourceStatus_sends trivial)
    (sends_sendRaw trivial)

/-- With an issuer, the reads never fail. -/
theorem statusReads_neverFails {o : Overcommit} {i : Issuer} (hi : T.generateIssuer = some i) :
    NeverFails (statusReads T o) :=
  statusReads_induction T NeverFails (fun h => nomatch hi.symm.trans h) (fun _ => NeverFails.pure')
    NeverFails.bind (fun _ _ => checkResourceStatus_neverFails) NeverFails.sendRaw

theorem statusReads_none {o : Overcommit} (h : T.generateIssuer = none) :
    statusReads T o = throw .panic := by
  unfold statusReads
  rw [h]

/-- **A run of the status update**: with no issuer it panics and sends nothing; otherwise it is
the reads, and then the write of the status over the rows read, whose answer the update returns.
-/
theorem updateOvercommitStatus_runs {now : Time} {o : Overcommit} {tr : List Prog.Exchange}
    {r : Except ApiError Unit} (h : Prog.Runs (updateOvercommitStatus T now o).run tr r) :
    T.generateIssuer = none ∧ tr = [] ∧ r = .error .panic ∨
      ∃ reads rows, tr = reads ++ [⟨.updateStatus { o with status := (setCondition now
          { o.status with resources := rows } (resourcesReadyCondition rows now)) }, r⟩] ∧
        ∀ ex ∈ reads, ex.1.IsObjectRead := by
  rw [updateOvercommitStatus_eq] at h
  rcases runs_tick_bind.1 h with ⟨reads, _, rows, rfl, h₁, h₂⟩ | ⟨e, h₁, rfl⟩
  · exact .inr ⟨reads, rows, by rw [runs_sendE_iff.1 h₂], (statusReads_sends T).runs h₁⟩
  cases hi : T.generateIssuer with
  | none =>
    obtain ⟨rfl, he⟩ := runs_throw_iff.1 (statusReads_none T hi ▸ h₁)
    cases he
    exact .inl ⟨rfl, rfl, rfl⟩
  | some i => exact absurd h₁ (statusReads_neverFails T hi _ _)

/-! ## The conditions written

The status an update writes is the singleton it was handed with the rows read and the
`ResourcesReady` condition set over them (`updateOvercommitStatus_statusWrite`), whatever the reads
return. On conditions with distinct types, `setCondition`'s laws then give what the write does to
the conditions (`updateOvercommitStatus_conditions`).
-/

/-- The status an update of `o` at `now` writes: the rows read, and the `ResourcesReady`
condition set over them. -/
def StatusWrite (now : Time) (o : Overcommit) : Request → Prop
  | .updateStatus o' => ∃ rows : List ResourceStatus,
    o' = { o with status := (setCondition now { o.status with resources := rows }
      (resourcesReadyCondition rows now)) }
  | _ => True

theorem updateOvercommitStatus_statusWrite {now : Time} {o : Overcommit} :
    Prog.Sends (StatusWrite now o) (updateOvercommitStatus T now o).run := by
  rw [updateOvercommitStatus_eq]
  refine sends_tick_bind ((statusReads_sends T).mono fun req h => ?_) fun rows =>
    sends_sendE ⟨rows, rfl⟩
  cases req <;> trivial

/-- What a status write from `old` to `new` at `now` does to the conditions. -/
structure ConditionsUpdated (now : Time) (old new : OvercommitStatus) : Prop where
  distinct : (new.conditions.map (·.type)).Nodup
  resourcesReady : ∃ c, new.conditions.filter (·.type == "ResourcesReady") = [c] ∧
    (c.status = "True" ↔ ∀ row ∈ new.resources, row.ready = true)
  others : new.conditions.filter (·.type != "ResourcesReady") =
    old.conditions.filter (·.type != "ResourcesReady")
  unchanged : ∀ e ∈ old.conditions, e.type = "ResourcesReady" →
    e.status = (resourcesReadyCondition new.resources now).status →
    e.reason = (resourcesReadyCondition new.resources now).reason →
    e.message = (resourcesReadyCondition new.resources now).message →
    new.conditions = old.conditions

theorem conditionsUpdated_setCondition (now : Time) (st : OvercommitStatus)
    (rows : List ResourceStatus) (hnd : (st.conditions.map (·.type)).Nodup) :
    ConditionsUpdated now st
      (setCondition now { st with resources := rows } (resourcesReadyCondition rows now)) where
  distinct := nodup_setCondition _ _ _ hnd
  resourcesReady := by
    obtain ⟨c, hc, hs⟩ := filter_setCondition_eq now { st with resources := rows }
      (resourcesReadyCondition rows now) hnd
    rw [type_resourcesReadyCondition] at hc
    exact ⟨c, hc, by rw [hs, resources_setCondition]; exact status_resourcesReadyCondition rows now⟩
  others := by
    simpa using filter_setCondition_ne now { st with resources := rows }
      (resourcesReadyCondition rows now)
  unchanged e he ht hs hr hm := by
    rw [resources_setCondition] at hs hr hm
    refine setCondition_of_same _ _ _ ?_ hs hr hm
    rw [type_resourcesReadyCondition, ← ht]
    exact conditionOf_of_mem hnd he

/-- **What the status write does to the conditions.** On a prior status whose conditions have
distinct types, every status write the update sends updates the conditions as `setCondition`
does; and once the issuer is generated, every run of the update ends with such a write, whose
answer is the update's result. -/
theorem updateOvercommitStatus_conditions {now : Time} {o : Overcommit}
    (hnd : (o.status.conditions.map (·.type)).Nodup) :
    Prog.Sends (fun req => ∀ o', req = .updateStatus o' → ConditionsUpdated now o.status o'.status)
        (updateOvercommitStatus T now o).run ∧
      ∀ i, T.generateIssuer = some i → ∀ tr r, Prog.Runs (updateOvercommitStatus T now o).run tr r →
        ∃ tr' o', tr = tr' ++ [⟨.updateStatus o', r⟩] ∧ ConditionsUpdated now o.status o'.status := by
  refine ⟨(updateOvercommitStatus_statusWrite T).mono fun _ h o' ho' => ?_, fun i hi tr r h => ?_⟩
  · subst ho'
    obtain ⟨rows, rfl⟩ := h
    exact conditionsUpdated_setCondition now o.status rows hnd
  · rcases updateOvercommitStatus_runs T h with ⟨hn, -⟩ | ⟨reads, rows, rfl, -⟩
    · cases hi.symm.trans hn
    · exact ⟨reads, _, rfl, conditionsUpdated_setCondition now o.status rows hnd⟩

/-- The singleton with a stale `ResourcesReady` condition after one of another type. -/
def staleOvercommit : Overcommit :=
  { clusterOvercommit with
    status := ⟨[], [⟨"Degraded", "False", "", "", 1⟩,
      ⟨"ResourcesReady", "True", "AllResourcesReady", "All 10 managed resources are ready", 1⟩]⟩ }

theorem updateOvercommitStatus_conditions_stale :
    Prog.Sends (fun req => ∀ o', req = .updateStatus o' →
        ConditionsUpdated 2 staleOvercommit.status o'.status)
        (updateOvercommitStatus Templater.bare 2 staleOvercommit).run ∧
      ∀ i, Templater.bare.generateIssuer = some i → ∀ tr r,
        Prog.Runs (updateOvercommitStatus Templater.bare 2 staleOvercommit).run tr r →
        ∃ tr' o', tr = tr' ++ [⟨.updateStatus o', r⟩] ∧
          ConditionsUpdated 2 staleOvercommit.status o'.status :=
  updateOvercommitStatus_conditions Templater.bare (by decide)

/-! ## The retry loop -/

/-- The requests of one status update: reads of the managed objects and of the label, and the
status write. -/
def StatusRequest : Request → Prop
  | .get _ _ | .getOvercommitLabel | .updateStatus _ => True
  | _ => False

theorem updateOvercommitStatus_sends {now : Time} {o : Overcommit} :
    Prog.Sends StatusRequest (updateOvercommitStatus T now o).run := by
  rw [updateOvercommitStatus_eq]
  refine sends_tick_bind ((statusReads_sends T).mono fun req h => ?_) fun _ => sends_sendE trivial
  cases req <;> trivial

theorem StatusRequest.quiet {req : Request} (h : StatusRequest req) :
    req.sleepMs = none ∧ req.isOvercommitRead = false := by
  cases req <;> first | exact ⟨rfl, rfl⟩ | exact False.elim h

/-- A status update neither sleeps nor reads the singleton. -/
theorem updateOvercommitStatus_quiet {now : Time} {o : Overcommit} {tr : List Prog.Exchange}
    {res : Except ApiError Unit} (h : Prog.Runs (updateOvercommitStatus T now o).run tr res) :
    tr.filterMap (·.1.sleepMs) = [] ∧ tr.countP (·.1.isOvercommitRead) = 0 := by
  have hq ex (hex : ex ∈ tr) := StatusRequest.quiet ((updateOvercommitStatus_sends T).runs h ex hex)
  exact ⟨List.filterMap_eq_nil_iff.2 fun ex hex => (hq ex hex).1,
    List.countP_eq_zero.2 fun ex hex => by simp [(hq ex hex).2]⟩

/-- One attempt of the retry loop: the fetch of the singleton ends the loop when it fails;
otherwise the update runs, and the loop ends with the update's result, or after a Conflict that is
not on the last attempt it sleeps the attempt's backoff and goes on. -/
theorem updateOvercommitStatusSafelyLoop_succ_runs {now : Time} {attempt remaining : Nat}
    {tr : List Prog.Exchange} {r : Except ApiError Unit}
    (h : Prog.Runs (updateOvercommitStatusSafelyLoop T now attempt (remaining + 1)).run tr r) :
    (∃ a, tr = [⟨.getOvercommitCR "cluster", a⟩]) ∨
      ∃ fresh tr₁ tr₂ res, tr = ⟨.getOvercommitCR "cluster", .ok fresh⟩ :: (tr₁ ++ tr₂) ∧
        Prog.Runs (updateOvercommitStatus T now fresh).run tr₁ res ∧
        (tr₂ = [] ∧ r = res ∨ res = .error .conflict ∧ attempt ≠ maxRetries - 1 ∧ ∃ a tr₃,
          tr₂ = ⟨.sleep (backoffDuration attempt), a⟩ :: tr₃ ∧
          Prog.Runs (updateOvercommitStatusSafelyLoop T now (attempt + 1) remaining).run tr₃ r) := by
  rw [updateOvercommitStatusSafelyLoop, sendRaw_bind_run, Prog.runs_call_iff] at h
  obtain ⟨fetched, tr, rfl, h⟩ := h
  cases fetched with
  | error e =>
    refine .inl ⟨.error e, ?_⟩
    dsimp only at h
    split at h <;> rw [(Prog.runs_ret_iff.1 h).1]
  | ok fresh =>
    rw [lift_bind_run, Prog.runs_bind_iff] at h
    obtain ⟨tr₁, tr₂, res, rfl, hu, h⟩ := h
    refine .inr ⟨fresh, tr₁, tr₂, res, rfl, hu, ?_⟩
    rcases res with e | ⟨⟩
    · dsimp only at h
      split at h
      · exact .inl (Prog.runs_ret_iff.1 h)
      next hlast =>
      split at h
      · next he =>
        rw [sendRaw_bind_run, Prog.runs_call_iff] at h
        obtain ⟨a, tr₃, rfl, h⟩ := h
        exact .inr ⟨he ▸ rfl, hlast, a, tr₃, rfl, h⟩
      · exact .inl (Prog.runs_ret_iff.1 h)
    · exact .inl (Prog.runs_ret_iff.1 h)

/-- The retry loop from `attempt`, with `remaining` attempts left that make up the `maxRetries`:
a run reads the singleton at most `remaining` times, and sleeps the backoffs of `attempt`,
`attempt + 1`, … in order, stopping at the latest before the last attempt. -/
theorem updateOvercommitStatusSafelyLoop_bounded {now : Time} {remaining : Nat} :
    ∀ {attempt : Nat} {tr : List Prog.Exchange} {r : Except ApiError Unit},
      attempt + remaining = maxRetries →
      Prog.Runs (updateOvercommitStatusSafelyLoop T now attempt remaining).run tr r →
      tr.filterMap (·.1.sleepMs) <+: (List.range' attempt (remaining - 1)).map backoffDuration ∧
        tr.countP (·.1.isOvercommitRead) ≤ remaining := by
  induction remaining with
  | zero => intro _ _ _ _ h; cases h; simp
  | succ remaining ih =>
    intro attempt tr r hsum h
    rcases updateOvercommitStatusSafelyLoop_succ_runs T h with
      ⟨a, rfl⟩ | ⟨fresh, tr₁, tr₂, res, rfl, hu, hrest⟩
    · simp
    obtain ⟨hs₁, hc₁⟩ := updateOvercommitStatus_quiet T hu
    suffices tr₂.filterMap (·.1.sleepMs) <+: (List.range' attempt remaining).map backoffDuration ∧
        tr₂.countP (·.1.isOvercommitRead) ≤ remaining by
      simpa [hs₁, hc₁, Nat.add_comm 1]
    rcases hrest with ⟨rfl, -⟩ | ⟨-, hlast, a, tr₃, rfl, hloop⟩
    · simp
    obtain ⟨m, rfl⟩ : ∃ m, remaining = m + 1 :=
      ⟨remaining - 1, by simp only [maxRetries] at hsum hlast; omega⟩
    obtain ⟨hs, hc⟩ := ih (by omega) hloop
    exact ⟨by simpa [List.range'_succ] using hs, by simp; omega⟩

/-- **The status update gives up after `maxRetries` attempts.** Every run of
`updateOvercommitStatusSafely` reads the singleton at most five times, and sleeps, in order, a
prefix of 50, 100, 200 and 400 ms: no sleep follows the last attempt. -/
theorem updateOvercommitStatusSafely_bounded {now : Time} {tr : List Prog.Exchange}
    {r : Except ApiError Unit} (h : Prog.Runs (updateOvercommitStatusSafely T now).run tr r) :
    tr.filterMap (·.1.sleepMs) <+: [50, 100, 200, 400] ∧
      tr.countP (·.1.isOvercommitRead) ≤ maxRetries :=
  updateOvercommitStatusSafelyLoop_bounded T (Nat.zero_add maxRetries) h

/-- A server on which every status write conflicts. -/
def conflictingAnswer : (req : Request) → Except ApiError req.Payload
  | .updateStatus _ => .error .conflict
  | req => scriptedAnswer (goldClass [] none) (.ok defaultLabel) (.ok ()) req

/-- The run of the status update against `conflictingAnswer`. -/
def conflictingRun : List Prog.Exchange × Except ApiError Unit :=
  Prog.exec conflictingAnswer (updateOvercommitStatusSafely Templater.bare 0).run

/-- The bound is reached: when every write conflicts, the loop reads the singleton five times,
sleeps all four backoffs and returns the conflict. -/
theorem updateOvercommitStatusSafely_conflicting :
    (conflictingRun.1.filterMap (·.1.sleepMs) <+: [50, 100, 200, 400] ∧
        conflictingRun.1.countP (·.1.isOvercommitRead) ≤ maxRetries) ∧
      conflictingRun.1.filterMap (·.1.sleepMs) = [50, 100, 200, 400] ∧
      conflictingRun.1.countP (·.1.isOvercommitRead) = maxRetries ∧
      conflictingRun.2 = .error .conflict :=
  ⟨updateOvercommitStatusSafely_bounded Templater.bare (Prog.runs_exec _ _), rfl, rfl, rfl⟩

/-! ## Only a conflict is retried -/

/-- Consecutive exchanges `x`, `y` of the retry loop: `y` is a sleep only right after a status
write `x` that failed with a Conflict, and a status write is followed only after a Conflict, and
then by the sleep. -/
structure RetryStep (x y : Prog.Exchange) : Prop where
  sleepsAfterConflict : y.1.sleepMs ≠ none → ∃ o, x = ⟨.updateStatus o, .error .conflict⟩
  retriedAfterConflict : ∀ o a, x = ⟨.updateStatus o, a⟩ →
    a = .error .conflict ∧ y.1.sleepMs ≠ none

theorem retryStep_of_ne {x y : Prog.Exchange} (hx : ∀ o, x.1 ≠ .updateStatus o)
    (hy : y.1.sleepMs = none) : RetryStep x y :=
  ⟨fun h => absurd hy h, fun o _ h => absurd (congrArg Sigma.fst h) (hx o)⟩

/-- A stretch that neither sleeps nor writes the status, then an exchange that does not sleep: a
chain of retry steps. -/
theorem chain_retryStep {l : List Prog.Exchange} {w : Prog.Exchange}
    (hl : ∀ x ∈ l, x.1.sleepMs = none ∧ ∀ o, x.1 ≠ .updateStatus o) (hw : w.1.sleepMs = none) :
    (l ++ [w]).Chain' RetryStep := by
  induction l with
  | nil => exact List.chain'_singleton w
  | cons x l ih =>
    obtain ⟨⟨-, hx⟩, hl⟩ := List.forall_mem_cons.1 hl
    refine List.chain'_cons'.2 ⟨fun y hy => retryStep_of_ne hx ?_, ih hl⟩
    rcases List.mem_append.1 (List.mem_of_mem_head? hy) with hy | hy
    exacts [(hl y hy).1, List.mem_singleton.1 hy ▸ hw]

/-- A status write that conflicted, then the sleep. -/
theorem retryStep_conflict_sleep {o : Overcommit} {ms : Nat}
    {a : Except ApiError (Request.sleep ms).Payload} :
    RetryStep ⟨.updateStatus o, .error .conflict⟩ ⟨.sleep ms, a⟩ :=
  ⟨fun _ => ⟨o, rfl⟩, fun _ _ h => by cases h; exact ⟨rfl, by simp⟩⟩

/-- A sleep, then a chain of retry steps that does not start with a sleep. -/
theorem chain_retryStep_sleep {ms : Nat} {a : Except ApiError (Request.sleep ms).Payload}
    {tr : List Prog.Exchange} (hhead : ∀ ex ∈ tr.head?, ex.1.sleepMs = none)
    (hchain : tr.Chain' RetryStep) : (⟨.sleep ms, a⟩ :: tr : List Prog.Exchange).Chain' RetryStep :=
  List.chain'_cons'.2 ⟨fun y hy => retryStep_of_ne (fun _ h => nomatch h) (hhead y hy), hchain⟩

/-- In every run of the retry loop from `attempt`, with `remaining` attempts left that make up the
`maxRetries`: no sleep starts it, consecutive exchanges are retry steps, and it ends at the fetch
of the singleton or at a status write whose answer it returns. -/
theorem updateOvercommitStatusSafelyLoop_sleeps {now : Time} {remaining : Nat} :
    ∀ {attempt : Nat} {tr : List Prog.Exchange} {r : Except ApiError Unit},
      attempt + remaining = maxRetries →
      Prog.Runs (updateOvercommitStatusSafelyLoop T now attempt remaining).run tr r →
      (∀ ex ∈ tr.head?, ex.1.sleepMs = none) ∧ tr.Chain' RetryStep ∧
        ∀ ex ∈ tr.getLast?, (∃ a, ex = ⟨.getOvercommitCR "cluster", a⟩) ∨
          ∃ o, ex = ⟨.updateStatus o, r⟩ := by
  induction remaining with
  | zero => intro _ _ _ _ h; cases h; simp
  | succ remaining ih =>
    intro attempt tr r hsum h
    rcases updateOvercommitStatusSafelyLoop_succ_runs T h with
      ⟨a, rfl⟩ | ⟨fresh, tr₁, tr₂, res, rfl, hu, hrest⟩
    · exact ⟨by simp, List.chain'_singleton _, by simp⟩
    rcases updateOvercommitStatus_runs T hu with ⟨-, rfl, rfl⟩ | ⟨reads, rows, rfl, hreads⟩
    · rcases hrest with ⟨rfl, -⟩ | ⟨h, -⟩
      · exact ⟨by simp, List.chain'_singleton _, by simp⟩
      · cases h
    have hquiet : ∀ x ∈ (⟨.getOvercommitCR "cluster", .ok fresh⟩ :: reads : List Prog.Exchange),
        x.1.sleepMs = none ∧ ∀ o, x.1 ≠ .updateStatus o :=
      List.forall_mem_cons.2 ⟨⟨rfl, fun _ h => nomatch h⟩, fun x hx => (hreads x hx).quiet⟩
    rcases hrest with ⟨rfl, rfl⟩ | ⟨rfl, hlast, a, tr₃, rfl, hloop⟩
    -- the loop ends at the status write
    · rw [List.append_nil, ← List.cons_append]
      exact ⟨by simp, chain_retryStep hquiet rfl, by rw [List.getLast?_concat]; simp⟩
    -- a Conflict, the sleep, and the next attempt
    obtain ⟨m, rfl⟩ : ∃ m, remaining = m + 1 :=
      ⟨remaining - 1, by simp only [maxRetries] at hsum hlast; omega⟩
    obtain ⟨hhead, hchain, hend⟩ := ih (by omega) hloop
    obtain ⟨y, tr₄, rfl⟩ : ∃ y tr₄, tr₃ = y :: tr₄ := by
      rcases updateOvercommitStatusSafelyLoop_succ_runs T hloop with ⟨_, rfl⟩ | ⟨_, _, _, _, rfl, -⟩ <;>
        exact ⟨_, _, rfl⟩
    refine ⟨by simp, ?_, by simpa [List.getLast?_cons] using hend⟩
    rw [← List.cons_append, ← List.cons_append]
    refine (chain_retryStep hquiet (by rfl)).append (chain_retryStep_sleep hhead hchain)
      fun x hx z hz => ?_
    rw [List.getLast?_concat, Option.mem_some_iff] at hx
    rw [List.head?_cons, Option.mem_some_iff] at hz
    subst hx hz
    exact retryStep_conflict_sleep

/-- **Only a conflict is retried.** In every run of `updateOvercommitStatusSafely`, a sleep comes
only right after a status write that failed with a Conflict, and a status write is followed only
after a Conflict, by the sleep: any other failure of the write ends the loop. The run ends at the
fetch of the singleton or at a status write, whose answer the loop returns, so the reads of the
status update never end it. -/
theorem updateOvercommitStatusSafely_sleeps {now : Time} {tr : List Prog.Exchange}
    {r : Except ApiError Unit} (h : Prog.Runs (updateOvercommitStatusSafely T now).run tr r) :
    (∀ ex ∈ tr.head?, ex.1.sleepMs = none) ∧ tr.Chain' RetryStep ∧
      ∀ ex ∈ tr.getLast?, (∃ a, ex = ⟨.getOvercommitCR "cluster", a⟩) ∨
        ∃ o, ex = ⟨.updateStatus o, r⟩ :=
  updateOvercommitStatusSafelyLoop_sleeps T (Nat.zero_add maxRetries) h

theorem updateOvercommitStatusSafely_sleeps_conflicting :
    (∀ ex ∈ conflictingRun.1.head?, ex.1.sleepMs = none) ∧ conflictingRun.1.Chain' RetryStep ∧
      ∀ ex ∈ conflictingRun.1.getLast?, (∃ a, ex = ⟨.getOvercommitCR "cluster", a⟩) ∨
        ∃ o, ex = ⟨.updateStatus o, conflictingRun.2⟩ :=
  updateOvercommitStatusSafely_sleeps Templater.bare (Prog.runs_exec _ _)

end OvercommitReconciler

end OvercommitOperator
