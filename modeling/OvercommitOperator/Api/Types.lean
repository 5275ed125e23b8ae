import Mathlib.Data.List.AList

/-!
# The API objects the operator reads and writes

The Go types of `k8s.io/api`, cert-manager and the operator's `api/v1alphav1`, cut down to the
fields that the reconcilers, the mutate closures and the equality kernel read or write. A Go
`map[string]string` is a `StrMap`: `none` is the nil map, and an `AList` holds a non-nil map, its
keys distinct as a Go map's are. A slice whose nil-ness the code tests (the tolerations) is an
`Option (List _)`; every other slice is a list. Every object is its `ObjectMeta` and a body: the
`Spec` of a Deployment, Service or Certificate, the `Webhooks` of a webhook configuration.
-/

namespace OvercommitOperator

/-- A Go `map[string]string`; `none` is the nil map. -/
abbrev StrMap := Option (AList fun _ : String => String)

namespace StrMap

/-- `len(m)`: the nil map has no entries. -/
def len : StrMap → Nat
  | none => 0
  | some m => m.entries.length

/-- `m[key]` with its `exists` flag; the nil map holds no key. -/
def get? (m : StrMap) (key : String) : Option String := m.bind (·.lookup key)

@[simp] theorem get?_none (key : String) : get? none key = none := rfl
@[simp] theorem get?_some (m : AList fun _ : String => String) (key : String) :
    get? (some m) key = m.lookup key := rfl

end StrMap

/-- A `metav1.Time` in seconds; `0` is Go's zero time, the one `IsZero` tests. -/
abbrev Time := Nat

/-- `metav1.OwnerReference`; `controller` is the `*bool` field, `none` for nil. -/
structure OwnerReference where
  apiVersion : String
  kind : String
  name : String
  uid : String
  controller : Option Bool
  blockOwnerDeletion : Option Bool
  deriving DecidableEq, Repr

/-- `metav1.ObjectMeta`. The namespace is left out: every owner here is cluster-scoped, so no
modelled function reads it. -/
structure ObjectMeta where
  name : String
  uid : String
  labels : StrMap
  annotations : StrMap
  creationTimestamp : Time
  deletionTimestamp : Option Time
  ownerReferences : List OwnerReference
  finalizers : List String
  deriving DecidableEq

/-- An API object: its metadata and the body the closures compare and assign. -/
structure Object (Body : Type) where
  meta : ObjectMeta
  body : Body
  deriving DecidableEq

/-! ## Workloads -/

/-- `corev1.Toleration`; `tolerationSeconds` is the `*int64` field. -/
structure Toleration where
  key : String
  operator : String
  value : String
  effect : String
  tolerationSeconds : Option Int
  deriving DecidableEq, Repr

/-- `corev1.EnvVar` with a literal value. -/
structure EnvVar where
  name : String
  value : String
  deriving DecidableEq, Repr

/-- `corev1.Container`. -/
structure Container where
  name : String
  image : String
  env : List EnvVar
  deriving DecidableEq, Repr

/-- `corev1.PodSpec`. -/
structure PodSpec where
  containers : List Container
  nodeSelector : StrMap
  tolerations : Option (List Toleration)
  deriving DecidableEq

/-- `corev1.PodTemplateSpec`: the template's labels and annotations, and its pod spec. -/
structure PodTemplateSpec where
  labels : StrMap
  annotations : StrMap
  spec : PodSpec
  deriving DecidableEq

/-- `appsv1.DeploymentSpec`. -/
structure DeploymentSpec where
  template : PodTemplateSpec
  deriving DecidableEq

/-! ## Services and certificates -/

/-- `intstr.IntOrString`. -/
inductive IntOrString
  | int (n : Int)
  | str (s : String)
  deriving DecidableEq, Repr

/-- `corev1.ServicePort`. -/
structure ServicePort where
  name : String
  port : Int
  targetPort : IntOrString
  protocol : String
  deriving DecidableEq, Repr

/-- `corev1.ServiceSpec`. -/
structure ServiceSpec where
  selector : StrMap
  ports : List ServicePort
  type : String
  deriving DecidableEq

/-- cert-manager's `cmmeta.ObjectReference` to an issuer. -/
structure IssuerRef where
  name : String
  kind : String
  group : String
  deriving DecidableEq, Repr

/-- cert-manager's `CertificateSpec`. -/
structure CertificateSpec where
  dnsNames : List String
  issuerRef : IssuerRef
  secretName : String
  deriving DecidableEq, Repr

/-! ## Webhook configurations -/

/-- `admissionv1.ServiceReference`. -/
structure ServiceReference where
  name : String
  «namespace» : String
  deriving DecidableEq, Repr

/-- `admissionv1.RuleWithOperations`, by its operations and resources. -/
structure RuleWithOperations where
  operations : List String
  resources : List String
  deriving DecidableEq, Repr

/-- `admissionv1.MatchCondition`. -/
structure MatchCondition where
  name : String
  expression : String
  deriving DecidableEq, Repr

/-- An `admissionv1.MutatingWebhook` (or `ValidatingWebhook`: the fields read are the same). -/
structure Webhook where
  name : String
  rules : List RuleWithOperations
  service : Option ServiceReference
  admissionReviewVersions : List String
  matchConditions : List MatchCondition
  deriving DecidableEq, Repr

/-! ## Object kinds -/

/-- The kinds of the managed objects. -/
inductive Kind
  | issuer
  | certificate
  | deployment
  | service
  | validatingWebhookConfiguration
  | mutatingWebhookConfiguration
  deriving DecidableEq, Repr

/-- The body of an object of each kind; an Issuer's spec is never read or written. -/
def Kind.Body : Kind → Type
  | .issuer => Unit
  | .certificate => CertificateSpec
  | .deployment => DeploymentSpec
  | .service => ServiceSpec
  | .validatingWebhookConfiguration | .mutatingWebhookConfiguration => List Webhook

instance Kind.decEqBody : (k : Kind) → DecidableEq k.Body
  | .issuer => inferInstanceAs (DecidableEq Unit)
  | .certificate => inferInstanceAs (DecidableEq CertificateSpec)
  | .deployment => inferInstanceAs (DecidableEq DeploymentSpec)
  | .service => inferInstanceAs (DecidableEq ServiceSpec)
  | .validatingWebhookConfiguration | .mutatingWebhookConfiguration =>
    inferInstanceAs (DecidableEq (List Webhook))

/-- An object of kind `k`. -/
abbrev Kind.Obj (k : Kind) := Object k.Body

abbrev Issuer := Object Unit
abbrev Certificate := Object CertificateSpec
abbrev Deployment := Object DeploymentSpec
abbrev Service := Object ServiceSpec
abbrev WebhookConfiguration := Object (List Webhook)

/-- The containers of a Deployment's pod template. -/
def Deployment.containers (d : Deployment) : List Container := d.body.template.spec.containers

/-! ## The operator's own resources -/

/-- `metav1.Condition`; `status` is the `ConditionStatus` string. -/
structure Condition where
  type : String
  status : String
  reason : String
  message : String
  lastTransitionTime : Time
  deriving DecidableEq, Repr

/-- A row of `Status.Resources`. -/
structure ResourceStatus where
  name : String
  ready : Bool
  deriving DecidableEq, Repr

/-- `OvercommitStatus`. -/
structure OvercommitStatus where
  resources : List ResourceStatus
  conditions : List Condition
  deriving DecidableEq, Repr

/-- The `Overcommit` singleton: its metadata and status. Its spec is read only by the templater
and by `GetOvercommitLabel`, which are parameters of the model. -/
structure Overcommit where
  meta : ObjectMeta
  status : OvercommitStatus
  deriving DecidableEq

/-- An `OvercommitClass`, by its metadata: no modelled function reads its spec or status. -/
abbrev OvercommitClass := Object Unit

end OvercommitOperator
