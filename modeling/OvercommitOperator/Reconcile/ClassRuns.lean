import OvercommitOperator.Reconcile.Class

/-!
# Runs of the class reconciler

Three places where a tick of the class reconciler does less than its error handling and owner
check set out to do. The label is read, and its error returned, before the tick looks at the
class, so a class being deleted keeps its finalizer while the label cannot be read
(`reconcileWith_getOvercommitLabel_error`). The owner check accepts any reference with the
singleton's UID and kind, so a plain reference lets the tick through to the upserts with no
controller reference (`needsOwnerUpdate_eq_false_iff`). A failed `getTotalClasses` returns the
`err` of the last upsert, which is nil. Each is shown on a run of the tick against a scripted API
server, with a templater that builds objects with their names and nothing else.
-/

namespace OvercommitOperator

namespace OvercommitClassReconciler

/-- A tick whose label read fails returns that error and sends nothing else, whatever the class.
Reference: `src/unnamed/part_001:241-245`. -/
theorem reconcileWith_getOvercommitLabel_error {T : Templater} {cl : ClassClosures} {req : String}
    {e : ApiError} {tr : List Prog.Exchange} {r : Except ApiError CtrlResult} :
    Prog.Runs (reconcileWith T cl req).run (⟨.getOvercommitLabel, .error e⟩ :: tr) r ↔
      tr = [] ∧ r = .error e := by
  constructor
  · rintro (_ | ⟨h⟩)
    cases h
    exact ⟨rfl, rfl⟩
  · rintro ⟨rfl, rfl⟩
    exact .call (.ret _)

/-- The owner check passes exactly when some reference has the singleton's UID and kind
`Overcommit`; whether that reference is the controller is not read. Reference:
`src/unnamed/part_001:301-316`. -/
theorem needsOwnerUpdate_eq_false_iff (refs : List OwnerReference) (overcommitResource : Overcommit) :
    needsOwnerUpdate refs overcommitResource = false ↔
      ∃ r ∈ refs, r.uid = overcommitResource.meta.uid ∧ r.kind = "Overcommit" := by
  simp only [needsOwnerUpdate, hasCorrectOwner, Bool.or_eq_false_iff, Bool.not_eq_false',
    List.any_eq_true, Bool.and_eq_true, beq_iff_eq, and_iff_right_iff_imp]
  rintro ⟨r, hr, -⟩
  cases refs <;> simp_all

end OvercommitClassReconciler

/-! ## A scripted server -/

/-- Metadata with a name and nothing else. -/
def ObjectMeta.named (name : String) : ObjectMeta := ⟨name, "", none, none, 0, none, [], []⟩

/-- A templater whose objects have a name and nothing else; a class's four objects are named
after the class, as the spec names them. -/
def Templater.bare : Templater where
  generateIssuer := some ⟨.named "issuer", ()⟩
  generateOvercommitClassValidatingDeployment _ := ⟨.named "oc", ⟨⟨none, none, ⟨[], none, none⟩⟩⟩⟩
  generateOvercommitClassValidatingService _ := ⟨.named "oc", ⟨none, [], ""⟩⟩
  generateCertificateValidatingOvercommitClass _ _ := ⟨.named "oc", ⟨[], ⟨"", "", ""⟩, ""⟩⟩
  generateOvercommitClassValidatingWebhookConfiguration _ _ _ := ⟨.named "oc", []⟩
  generatePodValidatingDeployment _ := ⟨.named "pod", ⟨⟨none, none, ⟨[], none, none⟩⟩⟩⟩
  generatePodValidatingService _ := ⟨.named "pod", ⟨none, [], ""⟩⟩
  generateCertificateValidatingPods _ _ := ⟨.named "pod", ⟨[], ⟨"", "", ""⟩, ""⟩⟩
  generatePodValidatingWebhookConfiguration _ _ _ _ := ⟨.named "pod", []⟩
  generateOvercommitClassControllerDeployment _ :=
    ⟨.named "controller", ⟨⟨none, none, ⟨[], none, none⟩⟩⟩⟩
  createDeployment c := ⟨.named c.meta.name, ⟨⟨none, none, ⟨[], none, none⟩⟩⟩⟩
  createService name := ⟨.named name, ⟨none, [], ""⟩⟩
  createCertificate name _ := ⟨.named name, ⟨[], ⟨"", "", ""⟩, ""⟩⟩
  createMutatingWebhookConfiguration c _ _ _ := ⟨.named c.meta.name, []⟩

/-- The singleton `cluster`. -/
def clusterOvercommit : Overcommit := ⟨{ ObjectMeta.named "cluster" with uid := "u" }, ⟨[], []⟩⟩

/-- A reference to the singleton, as the controller or not. -/
def clusterOwnerRef (controller : Option Bool) : OwnerReference :=
  ⟨groupVersion, "Overcommit", "cluster", "u", controller, controller⟩

/-- The class `gold` with its finalizer, the given owner references and deletion timestamp. -/
def goldClass (refs : List OwnerReference) (deletionTimestamp : Option Time) : OvercommitClass :=
  ⟨{ ObjectMeta.named "gold" with
      uid := "g", deletionTimestamp := deletionTimestamp, ownerReferences := refs,
      finalizers := [classFinalizer] }, ()⟩

/-- A server holding the singleton and the class `cls` and no managed object, accepting every
write; the label read and `getTotalClasses` answer as given. -/
def scriptedAnswer (cls : OvercommitClass) (label : Except ApiError String)
    (totalClasses : Except ApiError Unit) : (req : Request) → Except ApiError req.Payload
  | .getOvercommitLabel => label
  | .getOvercommit | .getOvercommitCR _ => .ok clusterOvercommit
  | .getClass _ => .ok cls
  | .get _ _ => .error .notFound
  | .create _ o | .update _ o => .ok o
  | .getTotalClasses => totalClasses
  | .updateOvercommitCR _ | .updateClass _ | .delete _ _ | .updateResourcesStatus _
  | .updateStatus _ | .sleep _ => .ok ()

namespace OvercommitClassReconciler

/-- A class being deleted whose label read fails keeps its finalizer: the tick returns the error
after its first request. -/
theorem reconcile_deleting_label_error :
    Prog.exec (scriptedAnswer (goldClass [clusterOwnerRef (some true)] (some 5)) (.error .notFound)
        (.ok ())) (reconcile Templater.bare "gold").run =
      ([⟨.getOvercommitLabel, .error .notFound⟩], .error .notFound) :=
  rfl

/-- A class whose only reference to the singleton is not a controller reference passes the owner
check: the tick creates the four objects and ends with its periodic requeue, and the class has
no controller. -/
theorem reconcile_plain_owner_reference :
    getControllerOf (goldClass [clusterOwnerRef none] none).meta.ownerReferences = none ∧
      (Prog.exec (scriptedAnswer (goldClass [clusterOwnerRef none] none) (.ok "overcommit.domain/class")
        (.ok ())) (reconcile Templater.bare "gold").run).2 = .ok { requeueAfter := 10 } :=
  ⟨rfl, rfl⟩

/-- After the four creates, a failed `getTotalClasses` ends the tick with neither an error nor a
requeue. -/
theorem reconcile_getTotalClasses_error :
    ∃ tr, Prog.exec (scriptedAnswer (goldClass [clusterOwnerRef (some true)] none)
        (.ok "overcommit.domain/class") (.error (.other "list failed")))
        (reconcile Templater.bare "gold").run = (tr, .ok {}) ∧
      tr.getLast?.map Sigma.fst = some .getTotalClasses :=
  ⟨_, rfl, rfl⟩

end OvercommitClassReconciler

end OvercommitOperator
