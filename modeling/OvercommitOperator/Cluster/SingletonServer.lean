import OvercommitOperator.Cluster.Server
import OvercommitOperator.Cluster.Store
import OvercommitOperator.Reconcile.Singleton

/-!
# The cluster of the singleton, and a reliable server

What the ticks of the singleton reconciler act on: the `Overcommit` singleton, which is
cluster-scoped and always named `cluster` (`src/internal/controller/overcommit/utils.go:165`), and
the objects by kind and name (`OvercommitCluster`).

The convergence of the singleton reconciler is stated against a server that answers every request
from the cluster and fails none of its own accord (`Reliable`): a read answers what is stored, and
NotFound only for what is absent; a Create of an absent object, an Update, and a Delete of a present
one succeed and do what they say; an Update of the singleton stores its metadata but for the fields
the server owns, and a status Update its status. The server is a function of the cluster
(`OvercommitCluster.answer`, `OvercommitCluster.apply`), so a tick that only reads runs as
`Prog.exec` against the cluster's answers and leaves the cluster as it is (`reads_served`).

Served from a cluster holding the singleton, a tick reads the label and the singleton; with a legacy
finalizer it then writes the singleton back without them, and the server stores it so
(`legacy_migration_spec`).
-/

namespace OvercommitOperator

/-- The singleton, always named `cluster`, and the objects of the cluster. -/
structure OvercommitCluster where
  overcommit : Option Overcommit
  objects : (k : Kind) → String → Option k.Obj
  name_eq : ∀ o, overcommit = some o → o.meta.name = "cluster"

namespace OvercommitCluster
variable (s : OvercommitCluster)

theorem ext {s s' : OvercommitCluster} (ho : s.overcommit = s'.overcommit)
    (hobj : s.objects = s'.objects) : s = s' := by
  cases s; cases s'; cases ho; cases hobj; rfl

/-- Stores (or with `none` removes) the object of kind `k` named `name`. -/
def setObject (k : Kind) (name : String) (x : Option k.Obj) : OvercommitCluster :=
  { s with objects := Function.update s.objects k (Function.update (s.objects k) name x) }

/-- What an Update of the singleton stores: the metadata written, but for the fields the server
owns. -/
def updateMeta (meta : ObjectMeta) : OvercommitCluster :=
  ⟨s.overcommit.map fun o => { o with meta := o.meta.updatedBy meta }, s.objects, fun _ h => by
    obtain ⟨o₀, h₀, rfl⟩ := Option.map_eq_some'.1 h
    exact s.name_eq o₀ h₀⟩

/-- What a status Update stores. -/
def updateStatus (st : OvercommitStatus) : OvercommitCluster :=
  ⟨s.overcommit.map fun o => { o with status := st }, s.objects, fun _ h => by
    obtain ⟨o₀, h₀, rfl⟩ := Option.map_eq_some'.1 h
    exact s.name_eq o₀ h₀⟩

@[simp] theorem overcommit_setObject (k : Kind) (name : String) (x : Option k.Obj) :
    (s.setObject k name x).overcommit = s.overcommit := rfl

/-- A read of the singleton named `name`. -/
def readOvercommit (name : String) : Except ApiError Overcommit :=
  match s.overcommit with
  | some o => if o.meta.name = name then .ok o else .error .notFound
  | none => .error .notFound

/-- A read of an object. -/
def readObject (k : Kind) (name : String) : Except ApiError k.Obj :=
  match s.objects k name with
  | some v => .ok v
  | none => .error .notFound

/-- A write of the singleton succeeds when it exists. -/
def writeOvercommit : Except ApiError Unit :=
  if s.overcommit.isSome then .ok () else .error .notFound

/-- The server's answer to each request, with `label` for the label read. The cluster of the
singleton holds no class. -/
def answer (label : String) : (req : Request) → Except ApiError req.Payload
  | .getOvercommitLabel => .ok label
  | .getOvercommit => s.readOvercommit "cluster"
  | .getOvercommitCR name => s.readOvercommit name
  | .updateOvercommitCR _ | .updateStatus _ => s.writeOvercommit
  | .getClass _ | .updateClass _ => .error .notFound
  | .get k name => s.readObject k name
  | .create k obj => if s.objects k obj.meta.name = none then .ok obj else .error .alreadyExists
  | .update k obj => (s.readObject k obj.meta.name).map fun _ => obj
  | .delete k name => (s.readObject k name).map fun _ => ()
  | .getTotalClasses | .updateResourcesStatus _ | .sleep _ => .ok ()

/-- The cluster after the server answered a request. -/
def apply : Prog.Exchange → OvercommitCluster
  | ⟨.create k obj, .ok v⟩ | ⟨.update k obj, .ok v⟩ => s.setObject k obj.meta.name (some v)
  | ⟨.delete k name, .ok _⟩ => s.setObject k name none
  | ⟨.updateOvercommitCR o, .ok _⟩ => s.updateMeta o.meta
  | ⟨.updateStatus o, .ok _⟩ => s.updateStatus o.status
  | _ => s

/-- A failed request changes nothing. -/
@[simp] theorem apply_error (req : Request) (e : ApiError) : s.apply ⟨req, .error e⟩ = s := by
  cases req <;> rfl

/-- Writing the status the singleton holds changes nothing. -/
theorem updateStatus_self {o : Overcommit} (h : s.overcommit = some o) : s.updateStatus o.status = s :=
  ext (by simp [updateStatus, h]) rfl

/-- The singleton stored is the one a read of `cluster` answers. -/
theorem readOvercommit_cluster {o : Overcommit} (h : s.overcommit = some o) :
    s.readOvercommit "cluster" = .ok o := by
  simp [readOvercommit, h, s.name_eq o h]

end OvercommitCluster

/-- The steps of the reliable server, with `label` for the label read. -/
def Reliable (label : String) (req : Request) (r : Except ApiError req.Payload)
    (s s' : OvercommitCluster) : Prop :=
  r = s.answer label req ∧ s' = s.apply ⟨req, r⟩

/-- The objects of the cluster as a store. -/
def OvercommitCluster.store : ObjectStore OvercommitCluster where
  objects := OvercommitCluster.objects
  setObject := OvercommitCluster.setObject
  objects_setObject_self s k name x := by simp [OvercommitCluster.setObject]
  objects_setObject_of_ne s k name x k' name' h := by
    unfold OvercommitCluster.setObject
    by_cases hk : k' = k
    · subst hk
      simp [Function.update_noteq (h.resolve_left (not_not.2 rfl))]
    · simp [Function.update_noteq hk]

/-- The reliable server's Gets, Creates and Updates act on the cluster's store. -/
theorem reliable_server (label : String) : OvercommitCluster.store.Server (Reliable label) where
  get {k name r s s'} h := by
    obtain ⟨rfl, rfl⟩ := h
    refine ⟨rfl, fun v h => ?_, fun h => ?_⟩ <;>
      simp only [OvercommitCluster.answer, OvercommitCluster.readObject] at h <;> split at h <;>
      first | (cases h; assumption) | cases h
  create {k obj v s s'} h := by
    obtain ⟨h, rfl⟩ := h
    simp only [OvercommitCluster.answer] at h
    split at h <;> cases h
    exact ⟨rfl, rfl⟩
  update {k obj v s s'} h := by
    obtain ⟨h, rfl⟩ := h
    simp only [OvercommitCluster.answer, OvercommitCluster.readObject] at h
    split at h <;> cases h
    exact ⟨rfl, rfl⟩

/-- A program run against a server answering by `answer`: the exchanges, the result, and the
cluster it leaves. -/
def OvercommitCluster.serveBy (answer : OvercommitCluster → (req : Request) → Except ApiError req.Payload)
    {α : Type} : OvercommitCluster → Prog α → List Prog.Exchange × α × OvercommitCluster
  | s, .ret a => ([], a, s)
  | s, .call req k =>
    let r := answer s req
    let (tr, a, s') := OvercommitCluster.serveBy answer (s.apply ⟨req, r⟩) (k r)
    (⟨req, r⟩ :: tr, a, s')

/-- The run is a run of the program, served by every server whose steps include the answers. -/
theorem OvercommitCluster.serveBy_spec
    {answer : OvercommitCluster → (req : Request) → Except ApiError req.Payload}
    {serves : (req : Request) → Except ApiError req.Payload → OvercommitCluster → OvercommitCluster → Prop}
    (hsv : ∀ s req, serves req (answer s req) s (s.apply ⟨req, answer s req⟩)) {α : Type}
    (s : OvercommitCluster) (p : Prog α) :
    Prog.Runs p (s.serveBy answer p).1 (s.serveBy answer p).2.1 ∧
      Served serves (s.serveBy answer p).1 s (s.serveBy answer p).2.2 := by
  induction p generalizing s with
  | ret a => exact ⟨.ret a, .nil⟩
  | call req k ih =>
    obtain ⟨hr, hs⟩ := ih (answer s req) (s.apply ⟨req, answer s req⟩)
    exact ⟨.call hr, .cons (hsv s req) hs⟩

/-- A program run against the reliable server. -/
def OvercommitCluster.serve (label : String) {α : Type} (s : OvercommitCluster) (p : Prog α) :
    List Prog.Exchange × α × OvercommitCluster :=
  s.serveBy (·.answer label) p

theorem OvercommitCluster.serve_spec (label : String) {α : Type} (s : OvercommitCluster) (p : Prog α) :
    Prog.Runs p (s.serve label p).1 (s.serve label p).2.1 ∧
      Served (Reliable label) (s.serve label p).1 s (s.serve label p).2.2 :=
  serveBy_spec (fun _ _ => ⟨rfl, rfl⟩) s p

/-! ## Ticks that only read -/

/-- The requests that read and change nothing. -/
def Request.IsRead : Request → Prop
  | .get _ _ | .getOvercommitLabel | .getOvercommit | .getOvercommitCR _ | .getClass _ => True
  | _ => False

theorem Request.IsRead.writesSpec {req : Request} (h : req.IsRead) : req.writesSpec = false := by
  cases req <;> first | rfl | exact h.elim

theorem Request.IsRead.apply {req : Request} (h : req.IsRead) (s : OvercommitCluster)
    (r : Except ApiError req.Payload) : s.apply ⟨req, r⟩ = s := by
  cases req <;> first | rfl | exact h.elim

/-- A served run that starts with a read: the read answered from the cluster, and the rest served
from the same cluster. -/
theorem served_read_cons {label : String} {req : Request} {v : Except ApiError req.Payload}
    {tr : List Prog.Exchange} {s s' : OvercommitCluster} (h : Served (Reliable label) (⟨req, v⟩ :: tr) s s')
    (hreq : req.IsRead) :
    v = s.answer label req ∧ Served (Reliable label) tr s s' := by
  obtain ⟨_, ⟨hv, rfl⟩, hrest⟩ := served_cons_iff.1 h
  exact ⟨hv, hreq.apply s v ▸ hrest⟩

/-- **A tick that only reads runs as against the cluster's answers**, and leaves the cluster as it
is. -/
theorem reads_served {label : String} {α : Type} {p : Prog α} (hp : Prog.Sends Request.IsRead p)
    {tr : List Prog.Exchange} {a : α} (hr : Prog.Runs p tr a) :
    ∀ {s s' : OvercommitCluster}, Served (Reliable label) tr s s' →
      s' = s ∧ (tr, a) = Prog.exec (s.answer label) p := by
  induction hr with
  | ret => intro s s' hs; cases hs; exact ⟨rfl, rfl⟩
  | call _ ih =>
    intro s s' hs
    cases hp with
    | call hreq hk =>
      obtain ⟨rfl, hs'⟩ := served_read_cons hs hreq
      obtain ⟨rfl, h⟩ := ih (hk _) hs'
      refine ⟨rfl, ?_⟩
      simp only [Prog.exec, ← h]

/-! ## The migration against the reliable server -/

section Migration
variable (T : Templater) (env : ImageEnv) (now : Time) {label : String} {s s' : OvercommitCluster}
  {o : Overcommit} {tr : List Prog.Exchange} {r : Except ApiError CtrlResult}

/-- A tick served from a cluster holding the singleton reads the label and the singleton first,
both answered from the cluster. -/
theorem reconcile_served_reads (ho : s.overcommit = some o)
    (hr : Prog.Runs (OvercommitReconciler.reconcile T env now "cluster").run tr r)
    (hs : Served (Reliable label) tr s s') :
    ∃ rest, tr = ⟨.getOvercommitLabel, .ok label⟩ :: ⟨.getOvercommitCR "cluster", .ok o⟩ :: rest ∧
      Served (Reliable label) rest s s' := by
  have hget : s.answer label (.getOvercommitCR "cluster") = .ok o := s.readOvercommit_cluster ho
  obtain _ | ⟨hr⟩ := hr
  obtain ⟨rfl, hs₁⟩ := served_read_cons hs (by trivial)
  obtain _ | ⟨-⟩ := hr
  obtain ⟨rfl, hs₂⟩ := served_read_cons hs₁ (by trivial)
  exact ⟨_, by rw [hget]; rfl, hs₂⟩

/-- **The legacy-finalizer migration, and the same step on its result.** The step drops every
legacy finalizer and keeps the others in order, and on its own result it changes nothing and sets
no flag. Served from a cluster holding the singleton, a tick reads the label and the singleton;
when the singleton carries a legacy finalizer, it sends the Update of the singleton with the other
finalizers and requeues after a second, and the singleton stored then carries those finalizers;
otherwise it sends no Update at this step and goes on to the issuer, its first upsert. -/
theorem legacy_migration_spec :
    (∀ meta : ObjectMeta, removeLegacyFinalizers meta =
      ({ meta with finalizers := meta.finalizers.filter (· ∉ legacyFinalizers) },
        meta.finalizers.any (· ∈ legacyFinalizers))) ∧
    (∀ meta : ObjectMeta, removeLegacyFinalizers (removeLegacyFinalizers meta).1 =
      ((removeLegacyFinalizers meta).1, false)) ∧
    ∀ (T : Templater) (env : ImageEnv) (now : Time) (label : String) (s s' : OvercommitCluster)
      (o : Overcommit) (tr : List Prog.Exchange) (r : Except ApiError CtrlResult),
      s.overcommit = some o → Prog.Runs (OvercommitReconciler.reconcile T env now "cluster").run tr r →
      Served (Reliable label) tr s s' →
      if o.meta.finalizers.any (· ∈ legacyFinalizers) then
        tr = [⟨.getOvercommitLabel, .ok label⟩, ⟨.getOvercommitCR "cluster", .ok o⟩,
          ⟨.updateOvercommitCR { o with meta :=
            { o.meta with finalizers := o.meta.finalizers.filter (· ∉ legacyFinalizers) } }, .ok ()⟩] ∧
        r = .ok { requeueAfter := 1 } ∧ ∃ o', s'.overcommit = some o' ∧
          o'.meta.finalizers = o.meta.finalizers.filter (· ∉ legacyFinalizers)
      else
        ∃ rest, tr = ⟨.getOvercommitLabel, .ok label⟩ :: ⟨.getOvercommitCR "cluster", .ok o⟩ :: rest ∧
          ((∃ i, T.generateIssuer = some i ∧ ∃ v rest', rest = ⟨.get .issuer i.meta.name, v⟩ :: rest') ∨
            (T.generateIssuer = none ∧ rest = [] ∧ r = .error (.other "generated issuer is nil"))) := by
  refine ⟨removeLegacyFinalizers_eq, removeLegacyFinalizers_idem,
    fun T env now label s s' o tr r ho hr hs => ?_⟩
  obtain ⟨rest, rfl, hrest⟩ := reconcile_served_reads T env now ho hr hs
  have h := OvercommitReconciler.reconcile_after_read T env now hr
  rw [removeLegacyFinalizers_eq] at h
  split
  next hc =>
    rw [if_pos hc] at h
    obtain ⟨w, rfl, rfl⟩ := h
    obtain ⟨_, ⟨hw, rfl⟩, hnil⟩ := served_cons_iff.1 hrest
    cases hnil
    obtain rfl : w = .ok () := by
      rw [show w = s.answer label _ from hw]
      simp [OvercommitCluster.answer, OvercommitCluster.writeOvercommit, ho]
    let m : ObjectMeta := { o.meta with finalizers := o.meta.finalizers.filter (· ∉ legacyFinalizers) }
    exact ⟨rfl, rfl, { o with meta := o.meta.updatedBy m },
      by simp [m, OvercommitCluster.apply, OvercommitCluster.updateMeta, ho], rfl⟩
  next hc =>
    rw [if_neg hc] at h
    exact ⟨rest, rfl, h⟩

/-- The singleton `cluster` with a legacy finalizer, and no object. -/
def legacyCluster : OvercommitCluster :=
  ⟨some { clusterOvercommit with meta.finalizers := ["webhook.finalizer"] }, fun _ _ => none,
    fun _ h => by cases h; rfl⟩

theorem legacy_migration_spec_legacy :
    let run := legacyCluster.serve defaultLabel
      (OvercommitReconciler.reconcile Templater.bare ⟨"", "", ""⟩ 0 "cluster").run
    let o : Overcommit := { clusterOvercommit with meta.finalizers := ["webhook.finalizer"] }
    if o.meta.finalizers.any (· ∈ legacyFinalizers) then
      run.1 = [⟨.getOvercommitLabel, .ok defaultLabel⟩, ⟨.getOvercommitCR "cluster", .ok o⟩,
        ⟨.updateOvercommitCR { o with meta :=
          { o.meta with finalizers := o.meta.finalizers.filter (· ∉ legacyFinalizers) } }, .ok ()⟩] ∧
      run.2.1 = .ok { requeueAfter := 1 } ∧ ∃ o', run.2.2.overcommit = some o' ∧
        o'.meta.finalizers = o.meta.finalizers.filter (· ∉ legacyFinalizers)
    else
      ∃ rest, run.1 = ⟨.getOvercommitLabel, .ok defaultLabel⟩ :: ⟨.getOvercommitCR "cluster", .ok o⟩ :: rest ∧
        ((∃ i, Templater.bare.generateIssuer = some i ∧ ∃ v rest',
            rest = ⟨.get .issuer i.meta.name, v⟩ :: rest') ∨
          (Templater.bare.generateIssuer = none ∧ rest = [] ∧
            run.2.1 = .error (.other "generated issuer is nil"))) :=
  legacy_migration_spec.2.2 Templater.bare ⟨"", "", ""⟩ 0 defaultLabel legacyCluster _ _ _ _ rfl
    (legacyCluster.serve_spec _ _).1 (legacyCluster.serve_spec _ _).2

end Migration

end OvercommitOperator
