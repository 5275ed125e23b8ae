import OvercommitOperator.Reconcile.Prog

/-!
# The class reconciler

`OvercommitClassReconciler.Reconcile` as a tick. The templater (`internal/resources`) is not in the
model: its generators are the fields of a `Templater`, a parameter of every tick. The repository
holds two versions of the class reconciler that differ only in their mutate closures
(`ClassClosures.current`, `src/unnamed/part_001`; `ClassClosures.older`,
`src/internal/controller/overcommitclass/overcommitclass_controller.go`), so one tick,
`OvercommitClassReconciler.reconcileWith`, takes the closures as a parameter.
-/

namespace OvercommitOperator

/-- The generators of `internal/resources`, which the model takes as given. -/
structure Templater where
  generateIssuer : Option Issuer
  generateOvercommitClassValidatingDeployment : Overcommit → Deployment
  generateOvercommitClassValidatingService : Deployment → Service
  generateCertificateValidatingOvercommitClass : Issuer → Service → Certificate
  generateOvercommitClassValidatingWebhookConfiguration :
    Deployment → Service → Certificate → WebhookConfiguration
  generatePodValidatingDeployment : Overcommit → Deployment
  generatePodValidatingService : Deployment → Service
  generateCertificateValidatingPods : Issuer → Service → Certificate
  generatePodValidatingWebhookConfiguration :
    Deployment → Service → Certificate → String → WebhookConfiguration
  generateOvercommitClassControllerDeployment : Overcommit → Deployment
  createDeployment : OvercommitClass → Deployment
  createService : String → Service
  createCertificate : String → Service → Certificate
  createMutatingWebhookConfiguration :
    OvercommitClass → Service → Certificate → String → WebhookConfiguration

/-- The group-version the scheme gives the operator's resources. -/
def groupVersion : String := "overcommit.inditex.dev/v1alphav1"

/-- The `Overcommit` singleton as an owner. -/
def overcommitOwner (meta : ObjectMeta) : Owner :=
  ⟨groupVersion, "Overcommit", meta.name, meta.uid, by decide⟩

/-- An `OvercommitClass` as an owner. -/
def classOwner (meta : ObjectMeta) : Owner :=
  ⟨groupVersion, "OvercommitClass", meta.name, meta.uid, by decide⟩

/-- The class finalizer. -/
def classFinalizer : String := "overcommitclass.finalizer"

/-- `metav1.Time.IsZero` on a `*metav1.Time`: nil or the zero time. -/
def isZero : Option Time → Bool
  | none => true
  | some t => t == 0

/-- The closures a version of the class reconciler passes, given the owner and the desired
object. -/
structure ClassClosures where
  deployment : Owner → Deployment → Deployment → Except ApiError Deployment
  service : Owner → Service → Service → Except ApiError Service
  certificate : Owner → Certificate → Certificate → Except ApiError Certificate
  webhook : Owner → WebhookConfiguration → WebhookConfiguration →
    Except ApiError WebhookConfiguration

/-- The closures of `src/unnamed/part_001`, which compare every owned field. -/
def ClassClosures.current : ClassClosures :=
  ⟨mutateClassDeployment, mutateClassService, mutateClassCertificate, mutateClassWebhook⟩

/-- The closures of `overcommitclass_controller.go`: Service, Certificate and webhook are only
created. -/
def ClassClosures.older : ClassClosures :=
  ⟨mutateClassDeploymentV0, mutateNewBody, mutateNewBody, mutateNewAnnotatedWebhooks⟩

namespace OvercommitClassReconciler
variable (T : Templater)

/-- Deletes the four managed objects of a class by name, tolerating not-found; the label is read
again before the webhook configuration. Reference: `cleanupResources`
(`src/internal/controller/overcommitclass/utils.go:21`). -/
def cleanupResources (overcommitClass : OvercommitClass) : Tick Unit := do
  let deployment := T.createDeployment overcommitClass
  deleteIgnoreNotFound .deployment deployment.meta.name
  let service := T.createService overcommitClass.meta.name
  deleteIgnoreNotFound .service service.meta.name
  let certificate := T.createCertificate overcommitClass.meta.name service
  deleteIgnoreNotFound .certificate certificate.meta.name
  let label ← sendE .getOvercommitLabel
  let webhookConfig := T.createMutatingWebhookConfiguration overcommitClass service certificate label
  deleteIgnoreNotFound .mutatingWebhookConfiguration webhookConfig.meta.name

/-- Some owner reference has the singleton's UID and kind `Overcommit`; its `Controller` flag is
not read. -/
def hasCorrectOwner (refs : List OwnerReference) (overcommitResource : Overcommit) : Bool :=
  refs.any fun r => r.uid == overcommitResource.meta.uid && r.kind == "Overcommit"

/-- The owner reference must be set: none at all, or none found by `hasCorrectOwner`. -/
def needsOwnerUpdate (refs : List OwnerReference) (overcommitResource : Overcommit) : Bool :=
  refs.isEmpty || !hasCorrectOwner refs overcommitResource

/-- The upsert of the four managed objects, the metrics refresh and the status update. A failed
`getTotalClasses` returns the `err` of the last upsert, which is nil there. Reference:
`src/unnamed/part_001:336-602`. -/
def reconcileResources (cl : ClassClosures) (label : String) (overcommitClass : OvercommitClass) :
    Tick CtrlResult := do
  let owner := classOwner overcommitClass.meta
  let deployment := T.createDeployment overcommitClass
  let service := T.createService overcommitClass.meta.name
  let certificate := T.createCertificate overcommitClass.meta.name service
  let webhookConfig :=
    T.createMutatingWebhookConfiguration overcommitClass service certificate label
  let _ ← createOrUpdate .deployment deployment
    (cl.deployment owner (T.createDeployment overcommitClass))
  let service ← createOrUpdate .service service
    (cl.service owner (T.createService overcommitClass.meta.name))
  let certificate ← createOrUpdate .certificate certificate
    (cl.certificate owner (T.createCertificate overcommitClass.meta.name service))
  let _ ← createOrUpdate .mutatingWebhookConfiguration webhookConfig
    (cl.webhook owner (T.createMutatingWebhookConfiguration overcommitClass service certificate label))
  match ← sendRaw .getTotalClasses with
  | .error _ => return {}
  | .ok _ => pure ()
  sendE (.updateResourcesStatus overcommitClass)
  return { requeueAfter := 10 }

/-- One tick of the class reconciler with the closures `cl`. Reference:
`OvercommitClassReconciler.Reconcile` (`src/unnamed/part_001:237`,
`overcommitclass_controller.go:161`). -/
def reconcileWith (cl : ClassClosures) (req : String) : Tick CtrlResult := do
  let label ← sendE .getOvercommitLabel
  let some (overcommitClass : OvercommitClass) ← getIgnoreNotFound (.getClass req) | return {}
  if !isZero overcommitClass.meta.deletionTimestamp then
    cleanupResources T overcommitClass
    sendE (.updateClass
      { overcommitClass with meta := removeFinalizer overcommitClass.meta classFinalizer })
    return {}
  if !containsFinalizer overcommitClass.meta classFinalizer then
    sendE (.updateClass
      { overcommitClass with meta := addFinalizer overcommitClass.meta classFinalizer })
    return {}
  let (overcommitResource : Overcommit) ← sendE .getOvercommit
  if needsOwnerUpdate overcommitClass.meta.ownerReferences overcommitResource then
    let meta ← liftExcept
      (setControllerReference (overcommitOwner overcommitResource.meta) overcommitClass.meta)
    sendE (.updateClass { overcommitClass with meta := meta })
    return {}
  reconcileResources T cl label overcommitClass

/-- The class reconciler of `src/unnamed/part_001`. -/
def reconcile : String → Tick CtrlResult := reconcileWith T .current

/-- The class reconciler of `overcommitclass_controller.go`. -/
def reconcileOlder : String → Tick CtrlResult := reconcileWith T .older

end OvercommitClassReconciler

end OvercommitOperator
