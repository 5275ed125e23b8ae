import OvercommitOperator.Mutate.Shapes

/-!
# The mutate closures of both reconcilers

The closures of `OvercommitReconciler.Reconcile` (`src/unnamed/part_000`), of the current
`OvercommitClassReconciler.Reconcile` (`src/unnamed/part_001`) and of the older one
(`src/internal/controller/overcommitclass/overcommitclass_controller.go`), each as an instance of
`createOnly` or `compareAndSet`. The comparing ones differ in what they own: the singleton's
Deployment closures index the first container unguarded (and so panic on a Deployment without
one) and override its image from the process environment first; the class's guard the index;
the older class Deployment closure does not compare the node selector or the tolerations.
-/

namespace OvercommitOperator

/-! ## Fields of an existing object -/

@[simp] theorem mapsEqual_syncValue (d c : StrMap) : mapsEqual d (syncValue mapsEqual d c) = true :=
  equal_syncValue mapsEqual_self d c

@[simp] theorem envVarsEqual_syncValue (d c : List EnvVar) :
    envVarsEqual d (syncValue envVarsEqual d c) = true :=
  equal_syncValue envVarsEqual_self d c

@[simp] theorem portsEqual_syncValue (d c : List ServicePort) :
    portsEqual d (syncValue portsEqual d c) = true :=
  equal_syncValue portsEqual_self d c

@[simp] theorem slicesEqual_syncValue (d c : List String) :
    slicesEqual d (syncValue slicesEqual d c) = true :=
  equal_syncValue slicesEqual_self d c

@[simp] theorem tolerationsEqual_syncValue (d c : Option (List Toleration)) :
    tolerationsEqual d (syncValue tolerationsEqual d c) = true :=
  equal_syncValue tolerationsEqual_self d c

@[simp] theorem beq_syncValue {β : Type} [DecidableEq β] (d c : β) :
    (d == syncValue (· == ·) d c) = true :=
  equal_syncValue (fun x => beq_self_eq_true x) d c

/-! ## Deployments -/

/-- The first container's image and environment, each assigned when it differs. -/
def syncFirstContainer (u c : Container) : Container :=
  { c with image := syncValue (· == ·) u.image c.image, env := syncValue envVarsEqual u.env c.env }

/-- The first containers agree on image and environment. -/
def firstContainerOwned (u c : Container) : Bool :=
  u.image == c.image && envVarsEqual u.env c.env

@[simp] theorem firstContainerOwned_sync (u c : Container) :
    firstContainerOwned u (syncFirstContainer u c) = true := by
  simp [firstContainerOwned, syncFirstContainer]

theorem syncFirstContainer_of_owned {u c : Container} (h : firstContainerOwned u c = true) :
    syncFirstContainer u c = c := by
  simp only [firstContainerOwned, Bool.and_eq_true] at h
  simp [syncFirstContainer, syncValue_of_equal h.1, syncValue_of_equal h.2]

/-- The pod-template fields the Deployment closures compare besides the first container:
annotations, labels, node selector and tolerations. -/
def templateOwned (ut t : PodTemplateSpec) : Bool :=
  mapsEqual ut.annotations t.annotations && mapsEqual ut.labels t.labels &&
    mapsEqual ut.spec.nodeSelector t.spec.nodeSelector &&
    tolerationsEqual ut.spec.tolerations t.spec.tolerations

/-- Assigns each of the `templateOwned` fields that differs. -/
def syncTemplate (ut t : PodTemplateSpec) : PodTemplateSpec :=
  { t with
    annotations := syncValue mapsEqual ut.annotations t.annotations
    labels := syncValue mapsEqual ut.labels t.labels
    spec.nodeSelector := syncValue mapsEqual ut.spec.nodeSelector t.spec.nodeSelector
    spec.tolerations := syncValue tolerationsEqual ut.spec.tolerations t.spec.tolerations }

@[simp] theorem templateOwned_sync (ut t : PodTemplateSpec) (cs : List Container) :
    templateOwned ut { syncTemplate ut t with spec.containers := cs } = true := by
  simp [templateOwned, syncTemplate]

theorem syncTemplate_of_owned {ut t : PodTemplateSpec} (h : templateOwned ut t = true) :
    syncTemplate ut t = t := by
  simp only [templateOwned, Bool.and_eq_true] at h
  obtain ⟨⟨⟨h1, h2⟩, h3⟩, h4⟩ := h
  simp [syncTemplate, syncValue_of_equal h1, syncValue_of_equal h2, syncValue_of_equal h3,
    syncValue_of_equal h4]

/-- What the singleton's Deployment closures compare on an existing Deployment: the first
container's image and environment and the `templateOwned` fields; a missing first container
panics, so nothing compares. Reference: `src/unnamed/part_000:144-175`. -/
def overcommitDeploymentOwned (updated d : Deployment) : Bool :=
  match updated.containers, d.containers with
  | u :: _, c :: _ => firstContainerOwned u c && templateOwned updated.body.template d.body.template
  | _, _ => false

/-- The existing-Deployment branch of the singleton's closures: it assigns each compared field
that differs, and panics when either Deployment has no container. -/
def overcommitDeploymentAssign (updated d : Deployment) : Except ApiError Deployment :=
  match updated.containers, d.containers with
  | u :: _, c :: cs =>
    .ok { d with body.template :=
      { syncTemplate updated.body.template d.body.template with
        spec.containers := syncFirstContainer u c :: cs } }
  | _, _ => .error .panic

/-- The existing-Deployment branch of the singleton's closures. -/
def overcommitDeploymentSync (updated : Deployment) : Sync DeploymentSpec where
  owned := overcommitDeploymentOwned updated
  assign := overcommitDeploymentAssign updated
  owned_of_assign {o o'} h := by
    unfold overcommitDeploymentAssign at h
    split at h
    · next u us c cs hu hc =>
      cases h
      simp only [Deployment.containers] at hu
      simp [overcommitDeploymentOwned, Deployment.containers, hu]
    · cases h
  assign_of_owned {o} h := by
    unfold overcommitDeploymentOwned at h
    split at h
    · next u us c cs hu hc =>
      simp only [Bool.and_eq_true] at h
      simp only [overcommitDeploymentAssign, hu, hc, syncFirstContainer_of_owned h.1,
        syncTemplate_of_owned h.2]
      rw [← hc]; rfl
    · cases h
  creationTimestamp_assign {o o'} h := by
    unfold overcommitDeploymentAssign at h
    split at h
    · cases h; rfl
    · cases h
  owned_ownerReferences _ _ := rfl

/-- The existing-object branch of a closure that cannot panic: an assignment of the differing
owned fields that leaves the creation time alone, and an `owned` that does not read the owner
references. -/
def Sync.ofPure {B : Type} (owned : Object B → Bool) (assign : Object B → Object B)
    (owned_assign : ∀ o, owned (assign o) = true)
    (assign_of_owned : ∀ o, owned o = true → assign o = o)
    (creationTimestamp_assign : ∀ o, (assign o).meta.creationTimestamp = o.meta.creationTimestamp)
    (owned_ownerReferences : ∀ o refs, owned { o with meta.ownerReferences := refs } = owned o) :
    Sync B where
  owned := owned
  assign o := .ok (assign o)
  owned_of_assign h := by cases h; exact owned_assign _
  assign_of_owned h := by simp only [assign_of_owned _ h]
  creationTimestamp_assign h := by cases h; exact creationTimestamp_assign _
  owned_ownerReferences := owned_ownerReferences

/-- The first containers agree, when both Deployments have one: the class closures guard the
index. -/
def containersOwned : List Container → List Container → Bool
  | u :: _, c :: _ => firstContainerOwned u c
  | _, _ => true

/-- The first container synced, when both Deployments have one. -/
def syncContainers : List Container → List Container → List Container
  | u :: _, c :: cs => syncFirstContainer u c :: cs
  | _, cs => cs

@[simp] theorem containersOwned_sync (us cs : List Container) :
    containersOwned us (syncContainers us cs) = true := by
  cases us <;> cases cs <;> simp [containersOwned, syncContainers]

theorem syncContainers_of_owned {us cs : List Container} (h : containersOwned us cs = true) :
    syncContainers us cs = cs := by
  cases us <;> cases cs <;> simp_all [containersOwned, syncContainers, syncFirstContainer_of_owned]

/-- What the class closure compares on an existing Deployment: the first container's image and
environment (when both have one) and the `templateOwned` fields. Reference:
`src/unnamed/part_001:356-404`. -/
def classDeploymentOwned (updated d : Deployment) : Bool :=
  containersOwned updated.containers d.containers &&
    templateOwned updated.body.template d.body.template

/-- The existing-Deployment branch of the class closure. -/
def classDeploymentAssign (updated d : Deployment) : Deployment :=
  { d with body.template :=
    { syncTemplate updated.body.template d.body.template with
      spec.containers := syncContainers updated.containers d.containers } }

def classDeploymentSync (updated : Deployment) : Sync DeploymentSpec :=
  .ofPure (classDeploymentOwned updated) (classDeploymentAssign updated)
    (fun _ => by simp [classDeploymentOwned, classDeploymentAssign, Deployment.containers])
    (fun d h => by
      simp only [classDeploymentOwned, Bool.and_eq_true] at h
      simp only [classDeploymentAssign, syncContainers_of_owned h.1, syncTemplate_of_owned h.2]
      rfl)
    (fun _ => rfl) (fun _ _ => rfl)

/-- The template annotations and labels, which the older class closure compares. -/
def templateMetaOwned (ut t : PodTemplateSpec) : Bool :=
  mapsEqual ut.annotations t.annotations && mapsEqual ut.labels t.labels

/-- Assigns each of the `templateMetaOwned` fields that differs. -/
def syncTemplateMeta (ut t : PodTemplateSpec) : PodTemplateSpec :=
  { t with
    annotations := syncValue mapsEqual ut.annotations t.annotations
    labels := syncValue mapsEqual ut.labels t.labels }

/-- What the older class closure compares on an existing Deployment: the first container's image
and environment (when both have one), and the template annotations and labels; not the node
selector or the tolerations. Reference:
`src/internal/controller/overcommitclass/overcommitclass_controller.go:280-316`. -/
def classDeploymentV0Owned (updated d : Deployment) : Bool :=
  containersOwned updated.containers d.containers &&
    templateMetaOwned updated.body.template d.body.template

def classDeploymentV0Assign (updated d : Deployment) : Deployment :=
  { d with body.template :=
    { syncTemplateMeta updated.body.template d.body.template with
      spec.containers := syncContainers updated.containers d.containers } }

def classDeploymentV0Sync (updated : Deployment) : Sync DeploymentSpec :=
  .ofPure (classDeploymentV0Owned updated) (classDeploymentV0Assign updated)
    (fun _ => by
      simp [classDeploymentV0Owned, classDeploymentV0Assign, templateMetaOwned, syncTemplateMeta,
        Deployment.containers])
    (fun d h => by
      simp only [classDeploymentV0Owned, templateMetaOwned, Bool.and_eq_true] at h
      obtain ⟨h1, h2, h3⟩ := h
      simp only [classDeploymentV0Assign, syncContainers_of_owned h1, syncTemplateMeta,
        syncValue_of_equal h2, syncValue_of_equal h3]
      rfl)
    (fun _ => rfl) (fun _ _ => rfl)

/-! ## Services, certificates and webhook configurations -/

/-- What the class closure compares on an existing Service: selector, ports, type, annotations
and labels. Reference: `src/unnamed/part_001:424-461`. -/
def serviceOwned (updated s : Service) : Bool :=
  mapsEqual updated.body.selector s.body.selector && portsEqual updated.body.ports s.body.ports &&
    updated.body.type == s.body.type && mapsEqual updated.meta.annotations s.meta.annotations &&
    mapsEqual updated.meta.labels s.meta.labels

def serviceAssign (updated s : Service) : Service :=
  { s with
    body.selector := syncValue mapsEqual updated.body.selector s.body.selector
    body.ports := syncValue portsEqual updated.body.ports s.body.ports
    body.type := syncValue (· == ·) updated.body.type s.body.type
    meta.annotations := syncValue mapsEqual updated.meta.annotations s.meta.annotations
    meta.labels := syncValue mapsEqual updated.meta.labels s.meta.labels }

def serviceSync (updated : Service) : Sync ServiceSpec :=
  .ofPure (serviceOwned updated) (serviceAssign updated)
    (fun _ => by simp [serviceOwned, serviceAssign])
    (fun s h => by
      simp only [serviceOwned, Bool.and_eq_true] at h
      obtain ⟨⟨⟨⟨h1, h2⟩, h3⟩, h4⟩, h5⟩ := h
      simp only [serviceAssign, syncValue_of_equal h1, syncValue_of_equal h2,
        syncValue_of_equal h3, syncValue_of_equal h4, syncValue_of_equal h5])
    (fun _ => rfl) (fun _ _ => rfl)

/-- Issuer references compare by name and kind. -/
def issuerRefEqual (a b : IssuerRef) : Bool := a.name == b.name && a.kind == b.kind

@[simp] theorem issuerRefEqual_syncValue (d c : IssuerRef) :
    issuerRefEqual d (syncValue issuerRefEqual d c) = true :=
  equal_syncValue (fun x => by simp [issuerRefEqual]) d c

/-- What the class closure compares on an existing Certificate: DNS names, issuer reference
(name and kind), secret name, annotations and labels. Reference:
`src/unnamed/part_001:482-520`. -/
def certificateOwned (updated c : Certificate) : Bool :=
  slicesEqual updated.body.dnsNames c.body.dnsNames &&
    issuerRefEqual updated.body.issuerRef c.body.issuerRef &&
    updated.body.secretName == c.body.secretName &&
    mapsEqual updated.meta.annotations c.meta.annotations &&
    mapsEqual updated.meta.labels c.meta.labels

def certificateAssign (updated c : Certificate) : Certificate :=
  { c with
    body.dnsNames := syncValue slicesEqual updated.body.dnsNames c.body.dnsNames
    body.issuerRef := syncValue issuerRefEqual updated.body.issuerRef c.body.issuerRef
    body.secretName := syncValue (· == ·) updated.body.secretName c.body.secretName
    meta.annotations := syncValue mapsEqual updated.meta.annotations c.meta.annotations
    meta.labels := syncValue mapsEqual updated.meta.labels c.meta.labels }

def certificateSync (updated : Certificate) : Sync CertificateSpec :=
  .ofPure (certificateOwned updated) (certificateAssign updated)
    (fun _ => by simp [certificateOwned, certificateAssign])
    (fun c h => by
      simp only [certificateOwned, Bool.and_eq_true] at h
      obtain ⟨⟨⟨⟨h1, h2⟩, h3⟩, h4⟩, h5⟩ := h
      simp only [certificateAssign, syncValue_of_equal h1, syncValue_of_equal h2,
        syncValue_of_equal h3, syncValue_of_equal h4, syncValue_of_equal h5])
    (fun _ => rfl) (fun _ _ => rfl)

/-- Two webhook lists compare equal when they have the same length and no webhook has changed
against the one at its index. Reference: `src/unnamed/part_001:557-573`. -/
def webhooksEqual (u c : List Webhook) : Bool :=
  u.length == c.length && !(u.zip c).any fun w => webhookChanged w.1 w.2

theorem any_zip_webhookChanged_self :
    ∀ l : List Webhook, ((l.zip l).any fun w => webhookChanged w.1 w.2) = false
  | [] => rfl
  | w :: l => by simp [List.zip_cons_cons, any_zip_webhookChanged_self l]

@[simp] theorem webhooksEqual_syncValue (d c : List Webhook) :
    webhooksEqual d (syncValue webhooksEqual d c) = true :=
  equal_syncValue (fun l => by simp [webhooksEqual, any_zip_webhookChanged_self]) d c

/-- What the class closure compares on an existing webhook configuration: annotations, labels,
and the webhooks (count, then each by `webhookChanged`). Reference:
`src/unnamed/part_001:545-573`. -/
def webhookConfigurationOwned (updated w : WebhookConfiguration) : Bool :=
  mapsEqual updated.meta.annotations w.meta.annotations &&
    mapsEqual updated.meta.labels w.meta.labels && webhooksEqual updated.body w.body

def webhookConfigurationAssign (updated w : WebhookConfiguration) : WebhookConfiguration :=
  { w with
    meta.annotations := syncValue mapsEqual updated.meta.annotations w.meta.annotations
    meta.labels := syncValue mapsEqual updated.meta.labels w.meta.labels
    body := syncValue webhooksEqual updated.body w.body }

def webhookConfigurationSync (updated : WebhookConfiguration) : Sync (List Webhook) :=
  .ofPure (webhookConfigurationOwned updated) (webhookConfigurationAssign updated)
    (fun _ => by simp [webhookConfigurationOwned, webhookConfigurationAssign])
    (fun w h => by
      simp only [webhookConfigurationOwned, Bool.and_eq_true] at h
      obtain ⟨⟨h1, h2⟩, h3⟩ := h
      simp only [webhookConfigurationAssign, syncValue_of_equal h1, syncValue_of_equal h2,
        syncValue_of_equal h3])
    (fun _ => rfl) (fun _ _ => rfl)

/-! ## The closures -/

/-- The image coordinates the singleton's Deployment closures read from the process environment. -/
structure ImageEnv where
  registry : String
  repository : String
  appVersion : String

/-- `IMAGE_REGISTRY/IMAGE_REPOSITORY:APP_VERSION`. -/
def ImageEnv.image (env : ImageEnv) : String :=
  env.registry ++ "/" ++ env.repository ++ ":" ++ env.appVersion

/-- The desired Deployment with its first container's image taken from the environment; a
Deployment without containers panics. -/
def withImageFromEnv (env : ImageEnv) (d : Deployment) : Except ApiError Deployment :=
  match d.containers with
  | c :: cs => .ok { d with body.template.spec.containers := { c with image := env.image } :: cs }
  | [] => .error .panic

/-- The Issuer closure: it sets the controller reference of a new Issuer only. Reference:
`src/unnamed/part_000:100`. -/
def mutateIssuer (owner : Owner) : Issuer → Except ApiError Issuer :=
  createOnly owner .id

/-- The closures that set only the body (spec or webhooks) of a new object: the singleton's
Certificates, Services and pod webhook (`src/unnamed/part_000:118`, `:189`, `:224`, `:295`, `:309`)
and the older class reconciler's Service and Certificate
(`overcommitclass_controller.go:325`, `:340`). -/
def mutateNewBody {B : Type} (owner : Owner) (desired : Object B) :
    Object B → Except ApiError (Object B) :=
  createOnly owner (.desired desired false false)

/-- The closures that set the annotations and webhooks of a new webhook configuration: the
singleton's OvercommitClass webhook (`src/unnamed/part_000:203`) and the older class reconciler's
(`overcommitclass_controller.go:355`). -/
def mutateNewAnnotatedWebhooks (owner : Owner) (desired : WebhookConfiguration) :
    WebhookConfiguration → Except ApiError WebhookConfiguration :=
  createOnly owner (.desired desired false true)

/-- The singleton's Deployment closures (`src/unnamed/part_000:132`, `:238`, `:330`). -/
def mutateOvercommitDeployment (owner : Owner) (env : ImageEnv) (desired d : Deployment) :
    Except ApiError Deployment := do
  let updated ← withImageFromEnv env desired
  compareAndSet owner (.desired updated true true) (overcommitDeploymentSync updated) d

/-- The class Deployment closure (`src/unnamed/part_001:345`). -/
def mutateClassDeployment (owner : Owner) (desired : Deployment) :
    Deployment → Except ApiError Deployment :=
  compareAndSet owner (.desired desired true true) (classDeploymentSync desired)

/-- The class Service closure (`src/unnamed/part_001:413`). -/
def mutateClassService (owner : Owner) (desired : Service) : Service → Except ApiError Service :=
  compareAndSet owner (.desired desired true true) (serviceSync desired)

/-- The class Certificate closure (`src/unnamed/part_001:471`). -/
def mutateClassCertificate (owner : Owner) (desired : Certificate) :
    Certificate → Except ApiError Certificate :=
  compareAndSet owner (.desired desired true true) (certificateSync desired)

/-- The class webhook-configuration closure (`src/unnamed/part_001:530`). -/
def mutateClassWebhook (owner : Owner) (desired : WebhookConfiguration) :
    WebhookConfiguration → Except ApiError WebhookConfiguration :=
  compareAndSet owner (.desired desired true true) (webhookConfigurationSync desired)

/-- The older class reconciler's Deployment closure (`overcommitclass_controller.go:269`). -/
def mutateClassDeploymentV0 (owner : Owner) (desired : Deployment) :
    Deployment → Except ApiError Deployment :=
  compareAndSet owner (.desired desired true true) (classDeploymentV0Sync desired)

end OvercommitOperator
