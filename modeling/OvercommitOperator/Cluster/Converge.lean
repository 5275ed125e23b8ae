import OvercommitOperator.Cluster.Finalizer
import OvercommitOperator.Cluster.Store

/-!
# The class reconciler converges

A level-triggered controller has to settle: once a tick has brought the cluster to what it wants,
the next tick should write nothing. For the class reconciler, against an API server that answers
honestly (`Faithful`: it stores what it is sent, answers NotFound only for what is absent, and
answers the label and singleton reads with the same values each time), with no other actor and
with either version's closures:

* a successful tick on a live class that lacks its finalizer or the singleton's owner reference
  writes the class one step on (`classStage` falls); otherwise it leaves the four managed objects
  at fixpoints of their closures (`Settled`), since every closure is idempotent
  (`reconcileWith_step`);
* from a settled cluster, every tick, successful or not, leaves the cluster as it is and writes no
  object and no spec: each `CreateOrUpdate` reads an object its closure returns unchanged
  (`reconcileWith_quiet`).

So after `classStage + 1` successful ticks, at most three, every further tick only reads and
refreshes the class status (`class_reconciler_converges`).

A class marked for deletion converges the other way: one successful tick deletes its four managed
objects and then drops `overcommitclass.finalizer`, so once no other finalizer is left the API
server may remove the class, and nothing of it remains (`class_deletion_completes`). This is the
progress half of the finalizer protocol whose safety half is `class_outlives_managed_objects`.
-/

namespace OvercommitOperator

/-! ## An honest server -/

section Server
variable {n : String} (label : String) (o : Overcommit)

/-- What an honest API server adds to `Serves`: a Get answers NotFound only for what is absent, a
Create or an Update stores the object it was sent, and the label and singleton reads answer
`label` and `o`. -/
def Honest : (req : Request) → Except ApiError req.Payload → Cluster n → Prop
  | .getClass _, .error .notFound, s => s.overcommitClass = none
  | .get k name, .error .notFound, s => s.objects k name = none
  | .create _ obj, .ok obj', _ => obj' = obj
  | .update _ obj, .ok obj', _ => obj' = obj
  | .getOvercommitLabel, .ok l, _ => l = label
  | .getOvercommit, .ok o', _ => o' = o
  | _, _, _ => True

/-- The steps of the honest server. -/
def Faithful (req : Request) (r : Except ApiError req.Payload) (s s' : Cluster n) : Prop :=
  Serves req r s s' ∧ Honest label o req r s

/-- The class after an Update of it that succeeded. -/
def Cluster.updateClass (s : Cluster n) (c₀ : OvercommitClass) (h : s.overcommitClass = some c₀)
    (c : OvercommitClass) : Cluster n :=
  ⟨some ⟨c₀.meta.updatedBy c.meta, c.body⟩, s.objects, fun _ hc => by
    cases hc; exact s.name_eq c₀ h⟩

/-- The honest server as a function: the cluster after an exchange, or `none` for an answer the
honest server does not give. -/
def Cluster.serve (s : Cluster n) : Prog.Exchange → Option (Cluster n)
  | ⟨.getOvercommitLabel, .ok l⟩ => if @Eq String l label then some s else none
  | ⟨.getOvercommit, .ok o'⟩ => if @Eq Overcommit o' o then some s else none
  | ⟨.getClass _, .ok c⟩ => if s.overcommitClass = some c then some s else none
  | ⟨.getClass _, .error e⟩ => if e = .notFound ∧ s.overcommitClass ≠ none then none else some s
  | ⟨.updateClass c, .ok _⟩ =>
    match h : s.overcommitClass with
    | some c₀ => some (s.updateClass c₀ h c)
    | none => none
  | ⟨.get k name, .ok v⟩ => if s.objects k name = some v then some s else none
  | ⟨.get k name, .error e⟩ => if e = .notFound ∧ s.objects k name ≠ none then none else some s
  | ⟨.create k obj, .ok v⟩ | ⟨.update k obj, .ok v⟩ =>
    if @Eq k.Obj v obj then some (s.setObject k obj.meta.name (some v)) else none
  | ⟨.delete k name, .ok _⟩ => some (s.setObject k name none)
  | ⟨.delete k name, .error e⟩ => if e = .notFound ∧ s.objects k name ≠ none then none else some s
  | _ => some s

/-- The honest server answering a whole trace. -/
def Cluster.serveAll : List Prog.Exchange → Cluster n → Option (Cluster n)
  | [], s => some s
  | ex :: tr, s => (s.serve label o ex).bind (Cluster.serveAll tr)

variable {label o}

/-- The function is a step of the honest server. -/
theorem faithful_of_serve {s s' : Cluster n} :
    ∀ {ex : Prog.Exchange}, s.serve label o ex = some s' → Faithful label o ex.1 ex.2 s s'
  | ⟨req, r⟩, h => by
    cases req <;> cases r <;> dsimp only [Cluster.serve] at h <;> (try split at h) <;> cases h
    all_goals first
      | exact ⟨rfl, trivial⟩
      | exact ⟨rfl, ‹_›⟩
      | exact ⟨⟨rfl, ‹_›⟩, trivial⟩
      | exact ⟨⟨rfl, _, ‹_›, rfl⟩, trivial⟩
      | exact ⟨⟨rfl, fun he => not_not.1 fun hne => ‹¬(_ ∧ _)› ⟨he, hne⟩⟩, trivial⟩
      | (refine ⟨rfl, ?_⟩
         cases ‹ApiError› <;> first | trivial | exact not_not.1 fun hne => ‹¬(_ ∧ _)› ⟨rfl, hne⟩)

theorem served_of_serveAll : ∀ {tr : List Prog.Exchange} {s s' : Cluster n},
    Cluster.serveAll label o tr s = some s' → Served (Faithful label o) tr s s'
  | [], _, _, h => by cases h; exact .nil
  | ⟨_, _⟩ :: _, _, _, h => by
    obtain ⟨s₁, h₁, h₂⟩ := Option.bind_eq_some.1 h
    exact .cons (faithful_of_serve h₁) (served_of_serveAll h₂)

/-- The objects of the cluster as a store. -/
def Cluster.store : ObjectStore (Cluster n) where
  objects := Cluster.objects
  setObject := Cluster.setObject
  objects_setObject_self _ _ _ _ := Cluster.objects_setObject_self _
  objects_setObject_of_ne s k name x k' name' h := by
    unfold Cluster.setObject
    by_cases hk : k' = k
    · subst hk
      simp [Function.update_noteq (h.resolve_left (not_not.2 rfl))]
    · simp [Function.update_noteq hk]

/-- The honest server's Gets, Creates and Updates act on the cluster's store. -/
theorem faithful_server : (Cluster.store (n := n)).Server (Faithful label o) where
  get {k name r s s'} h := by
    obtain ⟨hs, hh⟩ := h
    rcases r with e | v
    · exact ⟨hs, (fun _ h => nomatch h), fun he => by cases he; exact hh⟩
    · obtain ⟨rfl, hv⟩ := hs
      exact ⟨rfl, (fun _ h => by cases h; exact hv), fun h => nomatch h⟩
  create h := ⟨h.2, h.1⟩
  update h := ⟨h.2, h.1⟩

end Server

/-! ## Fixpoints, stages and settled clusters -/

section Settled
variable {n : String}

variable (T : Templater) (cl : ClassClosures) (label : String)

/-- The cluster after the resource phase of class `c` under label `label`: each of the four
managed objects is stored under its templated name at a fixpoint of its closure, the Certificate's
and the webhook configuration's closures built from the stored Service and Certificate, as the tick
builds them from what `CreateOrUpdate` returns. -/
def Settled (c : OvercommitClass) (s : Cluster n) : Prop :=
  let owner := classOwner c.meta
  let deployment := T.createDeployment c
  let service := T.createService c.meta.name
  let certificate := T.createCertificate c.meta.name service
  let webhookConfig := T.createMutatingWebhookConfiguration c service certificate label
  (∃ d, Cluster.store.Fixed s .deployment deployment (cl.deployment owner deployment) d) ∧
  ∃ sv, Cluster.store.Fixed s .service service (cl.service owner service) sv ∧
  ∃ ct, Cluster.store.Fixed s .certificate certificate
    (cl.certificate owner (T.createCertificate c.meta.name sv)) ct ∧
  ∃ wh, Cluster.store.Fixed s .mutatingWebhookConfiguration webhookConfig
    (cl.webhook owner (T.createMutatingWebhookConfiguration c sv ct label)) wh

end Settled

open OvercommitClassReconciler in
/-- How many class writes stand between a live class and the resource phase, for the singleton
`o`: one when the finalizer is missing, one when the owner reference is. -/
def classStage (o : Overcommit) (c : OvercommitClass) : Nat :=
  (if containsFinalizer c.meta classFinalizer then 0 else 1) +
    (if needsOwnerUpdate c.meta.ownerReferences o then 1 else 0)

/-- The four closures of a version are idempotent, for every owner and desired object. -/
structure ClassClosures.Idempotent (cl : ClassClosures) : Prop where
  deployment : ∀ p d, OvercommitOperator.Idempotent (cl.deployment p d)
  service : ∀ p sv, OvercommitOperator.Idempotent (cl.service p sv)
  certificate : ∀ p ct, OvercommitOperator.Idempotent (cl.certificate p ct)
  webhook : ∀ p wh, OvercommitOperator.Idempotent (cl.webhook p wh)

theorem ClassClosures.idempotent_current : ClassClosures.current.Idempotent :=
  ⟨fun _ _ => compareAndSet_idempotent, fun _ _ => compareAndSet_idempotent,
    fun _ _ => compareAndSet_idempotent, fun _ _ => compareAndSet_idempotent⟩

theorem ClassClosures.idempotent_older : ClassClosures.older.Idempotent :=
  ⟨fun _ _ => compareAndSet_idempotent, fun _ _ => createOnly_idempotent,
    fun _ _ => createOnly_idempotent, fun _ _ => createOnly_idempotent⟩

/-! ## A tick that settles the cluster -/

section Tick
variable {n : String} {label : String} {o : Overcommit}

/-- A triple of a tick against the honest server with no other actor. -/
abbrev HonestTriple (label : String) (o : Overcommit) {α : Type} (A : Cluster n → Prop) (x : Tick α)
    (Q : α → Cluster n → Prop) : Prop :=
  SoloTriple (Faithful label o) A x Q

/-- A read the server answers from the cluster keeps the precondition, and its answer is the
honest one. -/
theorem sendE_honest {req : Request} {A : Cluster n → Prop}
    (hkeep : ∀ r (s s' : Cluster n), Serves req r s s' → s' = s) :
    HonestTriple label o A (sendE req) fun a s => Honest label o req (.ok a) s ∧ A s :=
  TickTriple.sendE (fun r s => Honest label o req r s ∧ A s)
    (fun r s s' _ hA ⟨hs, hh⟩ => by cases hkeep r s s' hs; exact ⟨trivial, hh, hA⟩)
    fun _ => stable_noEnv _

/-- The class read of a cluster that holds `c` returns it, or fails with no change. -/
theorem getIgnoreNotFound_getClass_quiet {s : Cluster n} {c : OvercommitClass}
    (hc : s.overcommitClass = some c) :
    Quiet (Faithful label o) s (getIgnoreNotFound (.getClass n)) (· = some c) := by
  unfold getIgnoreNotFound
  refine Quiet.bind (Quiet.sendRaw (R := fun (r : Except ApiError (Request.getClass n).Payload) =>
    r = .ok c ∨ ∃ e, e ≠ .notFound ∧ r = .error e) rfl ?_) fun r hr => ?_
  · rintro (e | c') s' ⟨hs, hh⟩
    · cases hs
      refine ⟨rfl, .inr ⟨e, fun he => ?_, rfl⟩⟩
      subst he
      exact nomatch hc.symm.trans hh
    · obtain ⟨rfl, hc'⟩ := hs
      exact ⟨rfl, .inl (by rw [Option.some.inj (hc'.symm.trans hc)])⟩
  rcases hr with rfl | ⟨e, he, rfl⟩
  · exact Quiet.pure' rfl
  · dsimp only
    rw [if_neg he]
    exact Quiet.throw'

/-- The class read returns the class stored. -/
theorem getIgnoreNotFound_getClass_honest {c : OvercommitClass} :
    HonestTriple label o (fun s : Cluster n => s.overcommitClass = some c)
      (getIgnoreNotFound (.getClass n)) fun oc s => oc = some c ∧ s.overcommitClass = some c :=
  SoloTriple.of_quiet fun _ hc => getIgnoreNotFound_getClass_quiet hc

variable (T : Templater) {cl : ClassClosures}

/-- **The resource phase settles the cluster**: when it succeeds, the four managed objects are at
fixpoints of their closures, and the class is as it was. -/
theorem reconcileResources_settles (hcl : cl.Idempotent) {c : OvercommitClass} :
    HonestTriple label o (fun s : Cluster n => s.overcommitClass = some c)
      (OvercommitClassReconciler.reconcileResources T cl label c)
      fun _ s => s.overcommitClass = some c ∧ Settled T cl label c s := by
  unfold OvercommitClassReconciler.reconcileResources
  refine (createOrUpdate_fixed faithful_server (hcl.deployment _ _) fun _ _ h => h).bind fun d =>
    (createOrUpdate_fixed faithful_server (hcl.service _ _) fun _ _ ⟨h₀, h₁⟩ =>
      ⟨h₀, h₁.setObject (.inl (by decide)) _⟩).bind fun sv =>
    (createOrUpdate_fixed faithful_server (hcl.certificate _ _) fun _ _ ⟨⟨h₀, h₁⟩, h₂⟩ =>
      ⟨⟨h₀, h₁.setObject (.inl (by decide)) _⟩, h₂.setObject (.inl (by decide)) _⟩).bind fun ct =>
    (createOrUpdate_fixed faithful_server (hcl.webhook _ _) fun _ _ ⟨⟨⟨h₀, h₁⟩, h₂⟩, h₃⟩ =>
      ⟨⟨⟨h₀, h₁.setObject (.inl (by decide)) _⟩, h₂.setObject (.inl (by decide)) _⟩,
        h₃.setObject (.inl (by decide)) _⟩).bind fun wh =>
    TickTriple.bind (SoloTriple.sendRaw_keep fun _ _ _ h => h.1) fun r => ?_
  cases r
  · exact TickTriple.pure' fun _ _ ⟨⟨⟨⟨hc, hd⟩, hsv⟩, hct⟩, hwh⟩ =>
      ⟨hc, ⟨d, hd⟩, sv, hsv, ct, hct, wh, hwh⟩
  · simp only [pure_bind]
    exact TickTriple.bind (SoloTriple.sendE_keep fun _ _ _ h => h.1) fun _ =>
      TickTriple.pure' fun _ _ ⟨⟨⟨⟨hc, hd⟩, hsv⟩, hct⟩, hwh⟩ =>
        ⟨hc, ⟨d, hd⟩, sv, hsv, ct, hct, wh, hwh⟩


end Tick

/-! ## Stages of the class -/

section Stage
open OvercommitClassReconciler
variable {o : Overcommit} {c : OvercommitClass}

theorem mem_upsertOwnerRef (r : OwnerReference) : ∀ refs, r ∈ upsertOwnerRef r refs
  | [] => List.mem_singleton_self r
  | r' :: rs => by
    unfold upsertOwnerRef
    split
    · exact List.mem_cons_self _ _
    · exact List.mem_cons_of_mem _ (mem_upsertOwnerRef r rs)

/-- Once the singleton's reference is written, the owner check passes. -/
theorem needsOwnerUpdate_upsertOwnerRef (refs : List OwnerReference) :
    needsOwnerUpdate (upsertOwnerRef (overcommitOwner o.meta).ref refs) o = false := by
  have h := mem_upsertOwnerRef (overcommitOwner o.meta).ref refs
  simp only [needsOwnerUpdate, hasCorrectOwner, Bool.or_eq_false_iff, List.isEmpty_eq_false,
    Bool.not_eq_false', List.any_eq_true, Bool.and_eq_true, beq_iff_eq]
  exact ⟨List.ne_nil_of_mem h, _, h, rfl, rfl⟩

/-- Adding the finalizer takes the class one stage on. -/
theorem classStage_addFinalizer (hf : containsFinalizer c.meta classFinalizer = false) (b : Unit) :
    classStage o ⟨c.meta.updatedBy (addFinalizer c.meta classFinalizer), b⟩ < classStage o c := by
  have hf' : classFinalizer ∉ c.meta.finalizers := by simpa [containsFinalizer] using hf
  simp [classStage, containsFinalizer, addFinalizer, ObjectMeta.updatedBy, hf']

/-- Writing the singleton's controller reference takes the class one stage on. -/
theorem classStage_setControllerReference {meta : ObjectMeta}
    (hn : needsOwnerUpdate c.meta.ownerReferences o = true)
    (h : setControllerReference (overcommitOwner o.meta) c.meta = .ok meta) (b : Unit) :
    classStage o ⟨c.meta.updatedBy meta, b⟩ < classStage o c := by
  obtain ⟨rfl, -⟩ := setControllerReference_eq_ok h
  have hu := needsOwnerUpdate_upsertOwnerRef (o := o) c.meta.ownerReferences
  simp [classStage, ObjectMeta.updatedBy, containsFinalizer, hn, hu]

end Stage

/-! ## One tick -/

section Step
open OvercommitClassReconciler
variable {n label : String} {o : Overcommit} (T : Templater) {cl : ClassClosures}

theorem serves_getOvercommit {r : Except ApiError Overcommit} {s s' : Cluster n} :
    Serves .getOvercommit r s s' → s' = s := by
  cases r <;> exact id

/-- An Update of the class read, `c`, with metadata `meta`, that the server accepts stores `c` with
`meta`'s finalizers and owner references, and leaves the objects as they are. -/
theorem sendE_updateClass_honest {c : OvercommitClass} {meta : ObjectMeta} {A Q : Cluster n → Prop}
    (hA : ∀ s, A s → s.overcommitClass = some c)
    (hQ : ∀ s s' : Cluster n, A s → s'.objects = s.objects →
      s'.overcommitClass = some ⟨c.meta.updatedBy meta, c.body⟩ → Q s') :
    HonestTriple label o A (sendE (.updateClass { c with meta := meta })) fun _ => Q :=
  (TickTriple.sendE
    (fun (r : Except ApiError (Request.updateClass { c with meta := meta }).Payload) s =>
      ∀ u, r = .ok u → Q s)
    (fun r s s' _ hs₀ ⟨hs, _⟩ => ⟨trivial, fun u hu => by
      subst hu
      obtain ⟨ho, c₀, hc₀, hs'⟩ := hs
      cases (hA s hs₀).symm.trans hc₀
      exact hQ s s' hs₀ ho hs'⟩)
    fun _ => stable_noEnv _).post fun u _ _ h => h u rfl

/-- **One successful tick on a live class**: it writes the class one stage on; or, at stage zero,
it leaves the class as it was and settles the cluster. -/
theorem reconcileWith_step (hcl : cl.Idempotent) {c : OvercommitClass}
    (hlive : isZero c.meta.deletionTimestamp = true) :
    HonestTriple label o (fun s : Cluster n => s.overcommitClass = some c) (reconcileWith T cl n)
      fun _ s => ∃ c', s.overcommitClass = some c' ∧
        c'.meta.deletionTimestamp = c.meta.deletionTimestamp ∧
        (classStage o c' < classStage o c ∨ classStage o c = 0 ∧ c' = c ∧ Settled T cl label c s) := by
  unfold reconcileWith
  refine TickTriple.bind (sendE_honest fun _ _ _ => serves_getOvercommitLabel) fun l =>
    TickTriple.pure_pre fun (hl : l = label) => ?_
  subst hl
  refine TickTriple.bind getIgnoreNotFound_getClass_honest fun oc =>
    TickTriple.pure_pre fun hoc => ?_
  subst hoc
  dsimp only
  split
  · next h => simp [hlive] at h
  simp only [pure_bind]
  split
  · next hfin =>
    refine TickTriple.bind (sendE_updateClass_honest (fun _ h => h) fun _ s _ _ hs => ?_) fun _ =>
      TickTriple.pure' fun _ _ h => h
    exact ⟨_, hs, rfl, .inl (classStage_addFinalizer (by simpa using hfin) _)⟩
  next hfin =>
  refine TickTriple.bind (sendE_honest fun _ _ _ => serves_getOvercommit) fun ov =>
    TickTriple.pure_pre fun (hov : ov = o) => ?_
  subst hov
  split
  · next hn =>
    refine TickTriple.bind TickTriple.liftExcept fun meta => TickTriple.pre (TickTriple.pure_pre
      fun hmeta => ?_) fun _ _ h => ⟨h.2, h.1⟩
    refine TickTriple.bind (sendE_updateClass_honest (fun _ h => h) fun _ s _ _ hs => ?_) fun _ =>
      TickTriple.pure' fun _ _ h => h
    exact ⟨_, hs, rfl, .inl (classStage_setControllerReference hn hmeta _)⟩
  next hn =>
  refine (reconcileResources_settles T hcl).post fun _ s _ ⟨hs, hset⟩ =>
    ⟨c, hs, rfl, .inr ⟨?_, rfl, hset⟩⟩
  simp_all [classStage]

end Step

section Honest
variable (T : Templater) {cl : ClassClosures} {n label : String} {o : Overcommit} {s : Cluster n}

/-- From a settled cluster the resource phase writes nothing. -/
theorem reconcileResources_quiet {c : OvercommitClass} (hset : Settled T cl label c s) :
    Quiet (Faithful label o) s (OvercommitClassReconciler.reconcileResources T cl label c)
      fun _ => True := by
  obtain ⟨⟨d, hd⟩, sv, hsv, ct, hct, wh, hwh⟩ := hset
  unfold OvercommitClassReconciler.reconcileResources
  refine Quiet.bind (createOrUpdate_quiet faithful_server hd) fun _ h => ?_
  subst h
  refine Quiet.bind (createOrUpdate_quiet faithful_server hsv) fun _ h => ?_
  subst h
  refine Quiet.bind (createOrUpdate_quiet faithful_server hct) fun _ h => ?_
  subst h
  refine Quiet.bind (createOrUpdate_quiet faithful_server hwh) fun _ h => ?_
  subst h
  refine Quiet.bind (Quiet.sendRaw (R := fun _ => True) rfl fun r s' ⟨hs, _⟩ => ⟨?_, trivial⟩)
    fun r _ => ?_
  · cases r <;> exact hs
  cases r
  · exact Quiet.pure' trivial
  · simp only [pure_bind]
    exact Quiet.bind (Quiet.sendE rfl fun r s' ⟨hs, _⟩ => ⟨by cases r <;> exact hs, fun _ _ => trivial⟩)
      fun _ _ => Quiet.pure' trivial

open OvercommitClassReconciler in
/-- A class at stage zero holds its finalizer and the singleton's owner reference. -/
theorem classStage_eq_zero {c : OvercommitClass} :
    classStage o c = 0 ↔
      containsFinalizer c.meta classFinalizer = true ∧ needsOwnerUpdate c.meta.ownerReferences o = false := by
  unfold classStage
  split <;> split <;> simp_all

/-- **From a settled cluster every tick is quiet**: with the class live, at stage zero, and its
objects settled, each run of a tick, successful or not, leaves the cluster as it is and writes no
object and no spec. -/
theorem reconcileWith_quiet {c : OvercommitClass} (hc : s.overcommitClass = some c)
    (hlive : isZero c.meta.deletionTimestamp = true) (h0 : classStage o c = 0)
    (hset : Settled T cl label c s) :
    Quiet (Faithful label o) s (OvercommitClassReconciler.reconcileWith T cl n) fun _ => True := by
  obtain ⟨hfin, hown⟩ := classStage_eq_zero.1 h0
  unfold OvercommitClassReconciler.reconcileWith
  refine Quiet.bind (Quiet.sendE (R := fun (l : Request.getOvercommitLabel.Payload) => l = label) rfl
    fun r s' ⟨hs, hh⟩ => ⟨serves_getOvercommitLabel hs, fun l hl => by subst hl; exact hh⟩)
    fun l hl => ?_
  subst hl
  refine Quiet.bind (getIgnoreNotFound_getClass_quiet hc) fun oc hoc => ?_
  subst hoc
  dsimp only
  rw [if_neg (by simp [hlive]), pure_bind, if_neg (by simp [hfin]), pure_bind]
  refine Quiet.bind (Quiet.sendE (R := fun (ov : Request.getOvercommit.Payload) => ov = o) rfl
    fun r s' ⟨hs, hh⟩ => ⟨serves_getOvercommit hs, fun ov hov => by subst hov; exact hh⟩)
    fun ov hov => ?_
  subst hov
  rw [if_neg (by simp [hown])]
  exact reconcileResources_quiet T hset

end Honest

section Converge
variable (T : Templater) {cl : ClassClosures} {n label : String} {o : Overcommit}

/-- Successful ticks from a live class, as many as its stage and one more, leave the class at stage
zero and the cluster settled. -/
theorem ticks_settle (hcl : cl.Idempotent) {c : OvercommitClass} {s₀ s : Cluster n}
    {trs : List (List Prog.Exchange)} (hc : s₀.overcommitClass = some c)
    (hlive : isZero c.meta.deletionTimestamp = true)
    (h : Ticks (Faithful label o) (OvercommitClassReconciler.reconcileWith T cl n) s₀ trs s)
    (hlen : classStage o c < trs.length) :
    ∃ c', s.overcommitClass = some c' ∧ isZero c'.meta.deletionTimestamp = true ∧
      classStage o c' = 0 ∧ Settled T cl label c' s := by
  induction h generalizing c with
  | nil => exact absurd hlen (Nat.not_lt_zero _)
  | cons hr hs ht ih =>
    obtain ⟨c', hc', hdel, hstep⟩ := TickTriple.served (reconcileWith_step T hcl hlive) hr hs trivial hc
    rw [← hdel] at hlive
    rcases hstep with hlt | ⟨h0, rfl, hset⟩
    · exact ih hc' hlive (by simp only [List.length_cons] at hlen; omega)
    · obtain rfl := Ticks.eq_of_quiet (reconcileWith_quiet T hc' hlive h0 hset) ht
      exact ⟨_, hc', hlive, h0, hset⟩

/-- **The class reconciler converges.** Against the honest server and with no other actor, take a
live class at stage `classStage o c` (at most two: its finalizer and the singleton's owner reference
may be missing). After that many successful ticks and one more, with either version's closures,
the class is live at stage zero and the cluster settled: its four managed objects are stored at
fixpoints of their closures. So the cluster is a fixpoint of the reconciler: every run of a further
tick, successful or not, leaves it as it is and writes no object and no spec, so it only reads and
refreshes the class status. -/
theorem class_reconciler_converges (hcl : cl.Idempotent) {c : OvercommitClass} {s₀ s : Cluster n}
    {trs : List (List Prog.Exchange)} (hc : s₀.overcommitClass = some c)
    (hlive : isZero c.meta.deletionTimestamp = true)
    (h : Ticks (Faithful label o) (OvercommitClassReconciler.reconcileWith T cl n) s₀ trs s)
    (hlen : classStage o c < trs.length) :
    (∃ c', s.overcommitClass = some c' ∧ isZero c'.meta.deletionTimestamp = true ∧
        classStage o c' = 0 ∧ Settled T cl label c' s) ∧
      ∀ tr r s', Prog.Runs (OvercommitClassReconciler.reconcileWith T cl n).run tr r →
        Served (Faithful label o) tr s s' → s' = s ∧ ∀ ex ∈ tr, ex.1.writesSpec = false := by
  obtain ⟨c', hc', hlive', h0, hset⟩ := ticks_settle T hcl hc hlive h hlen
  refine ⟨⟨c', hc', hlive', h0, hset⟩, fun tr r s' hr hs => ?_⟩
  obtain ⟨h₁, h₂, -⟩ := reconcileWith_quiet T hc' hlive' h0 hset tr r s' hr hs
  exact ⟨h₁, h₂⟩

end Converge

/-- The class `gold`, with its finalizer and the singleton's controller reference, alone on its
cluster. -/
def goldStart : Cluster "gold" :=
  ⟨some (goldClass [clusterOwnerRef (some true)] none), fun _ _ => none, fun _ h => by cases h; rfl⟩

/-- A tick on it against the scripted server, which answers as the honest server does. -/
def goldTick : List Prog.Exchange × Except ApiError CtrlResult :=
  Prog.exec (scriptedAnswer (goldClass [clusterOwnerRef (some true)] none)
      (.ok "overcommit.domain/class") (.ok ()))
    (OvercommitClassReconciler.reconcileWith Templater.bare .current "gold").run

theorem goldTick_runs :
    Prog.Runs (OvercommitClassReconciler.reconcileWith Templater.bare .current "gold").run goldTick.1
      (.ok { requeueAfter := 10 }) :=
  Prog.runs_exec _ _

/-- The cluster the tick leaves. -/
def goldSettled : Cluster "gold" :=
  (Cluster.serveAll "overcommit.domain/class" clusterOvercommit goldTick.1 goldStart).getD goldStart

theorem class_reconciler_converges_gold :
    (∃ c', goldSettled.overcommitClass = some c' ∧ isZero c'.meta.deletionTimestamp = true ∧
        classStage clusterOvercommit c' = 0 ∧
        Settled Templater.bare .current "overcommit.domain/class" c' goldSettled) ∧
      ∀ tr r s', Prog.Runs (OvercommitClassReconciler.reconcileWith Templater.bare .current "gold").run tr r →
        Served (Faithful "overcommit.domain/class" clusterOvercommit) tr goldSettled s' →
          s' = goldSettled ∧ ∀ ex ∈ tr, ex.1.writesSpec = false :=
  class_reconciler_converges Templater.bare ClassClosures.idempotent_current
    (rfl : goldStart.overcommitClass = some (goldClass [clusterOwnerRef (some true)] none)) rfl
    (.cons goldTick_runs (served_of_serveAll rfl) .nil) (by decide)

/-! ## A deleted class is released -/

section Delete
open OvercommitClassReconciler
variable (T : Templater) {cl : ClassClosures} {n label : String} {o : Overcommit} {c : OvercommitClass}

/-- A Delete that succeeded or found nothing leaves the object gone and the class as it was. -/
theorem deleteIgnoreNotFound_honest {k : Kind} {name : String} {L : List (Kind × String)} :
    HonestTriple label o (fun s : Cluster n => s.overcommitClass = some c ∧ Absent L s)
      (deleteIgnoreNotFound k name) fun _ s => s.overcommitClass = some c ∧ Absent ((k, name) :: L) s := by
  unfold deleteIgnoreNotFound
  refine TickTriple.bind (TickTriple.sendRaw
      (fun (r : Except ApiError (Request.delete k name).Payload) (s : Cluster n) =>
        (s.overcommitClass = some c ∧ Absent L s) ∧
          (r = .ok () ∨ r = .error .notFound → s.objects k name = none))
      ?_ fun _ => stable_noEnv _) fun r => ?_
  · rintro (e | u) s s' - ⟨hc, ha⟩ ⟨hs, -⟩
    · obtain ⟨rfl, he⟩ := hs
      exact ⟨trivial, ⟨hc, ha⟩, fun h => he (by simpa using h)⟩
    · subst hs
      exact ⟨trivial, ⟨hc, fun p hp => Cluster.objects_setObject_none (ha p hp)⟩,
        fun _ => Cluster.objects_setObject_self none⟩
  cases r with
  | ok u =>
    exact TickTriple.pure' fun _ _ ⟨⟨hc, ha⟩, h⟩ => ⟨hc, List.forall_mem_cons.2 ⟨h (.inl rfl), ha⟩⟩
  | error e =>
    dsimp only
    split
    · next he =>
      exact TickTriple.pure' fun _ _ ⟨⟨hc, ha⟩, h⟩ =>
        ⟨hc, List.forall_mem_cons.2 ⟨h (.inr (he ▸ rfl)), ha⟩⟩
    · exact TickTriple.throw'

variable (N : ManagedNames T)

/-- The cleanup deletes the four managed objects and leaves the class as it was. -/
theorem cleanupResources_honest (hc : c.meta.name = n) :
    HonestTriple label o (fun s : Cluster n => s.overcommitClass = some c) (cleanupResources T c)
      fun _ s => s.overcommitClass = some c ∧ ¬ Managed N s := by
  unfold cleanupResources
  refine (TickTriple.pre (A := fun s : Cluster n => s.overcommitClass = some c ∧ Absent [] s)
      deleteIgnoreNotFound_honest fun _ _ h => ⟨h, fun _ h => nomatch h⟩).bind fun _ =>
    deleteIgnoreNotFound_honest.bind fun _ => deleteIgnoreNotFound_honest.bind fun _ =>
      (SoloTriple.sendE_keep fun _ _ _ h => serves_getOvercommitLabel h.1).bind fun _ =>
        deleteIgnoreNotFound_honest.post fun _ _ _ ⟨hcl, h⟩ => ⟨hcl, not_managed_of_absent ?_⟩
  simpa only [N.name_createDeployment, N.name_createService, N.name_createCertificate,
    N.name_createMutatingWebhookConfiguration, hc] using h

/-- **A successful tick on a deleted class** deletes the four managed objects, then stores the
class without its finalizer. -/
theorem reconcileWith_deleting (hc : c.meta.name = n) (hdel : isZero c.meta.deletionTimestamp = false) :
    HonestTriple label o (fun s : Cluster n => s.overcommitClass = some c) (reconcileWith T cl n)
      fun _ s => ¬ Managed N s ∧
        s.overcommitClass = some ⟨c.meta.updatedBy (removeFinalizer c.meta classFinalizer), c.body⟩ := by
  unfold reconcileWith
  refine TickTriple.bind (SoloTriple.sendE_keep fun _ _ _ h => serves_getOvercommitLabel h.1) fun _ =>
    TickTriple.bind getIgnoreNotFound_getClass_honest fun oc => TickTriple.pure_pre fun hoc => ?_
  subst hoc
  dsimp only
  rw [if_pos (by simp [hdel])]
  exact (cleanupResources_honest T N hc).bind fun _ =>
    TickTriple.bind (sendE_updateClass_honest (fun _ h => h.1) fun _ _ ⟨_, hm⟩ ho hs' =>
      ⟨fun h => hm (managed_of_objects_eq ho h), hs'⟩) fun _ => TickTriple.pure' fun _ _ h => h

/-- **A deleted class is released.** Against the honest server and with no other actor, a
successful tick on a class marked for deletion, with either version's closures, leaves none of its
four managed objects, and stores the class with its deletion timestamp and without
`overcommitclass.finalizer`, the other finalizers kept in order. When that finalizer was its only
one, the API server may then remove the class, which leaves neither the class nor a managed
object. -/
theorem class_deletion_completes (cl : ClassClosures) {s₀ s : Cluster n} {tr : List Prog.Exchange}
    {a : CtrlResult} (hc : s₀.overcommitClass = some c) (hdel : isZero c.meta.deletionTimestamp = false)
    (hr : Prog.Runs (reconcileWith T cl n).run tr (.ok a)) (hs : Served (Faithful label o) tr s₀ s) :
    ¬ Managed N s ∧
      (∃ c', s.overcommitClass = some c' ∧ c'.meta.deletionTimestamp = c.meta.deletionTimestamp ∧
        c'.meta.finalizers = c.meta.finalizers.filter (· != classFinalizer)) ∧
      ((∀ f ∈ c.meta.finalizers, f = classFinalizer) →
        ∃ s', EnvStep s s' ∧ s'.overcommitClass = none ∧ ¬ Managed N s') := by
  obtain ⟨hm, hs'⟩ := TickTriple.served (reconcileWith_deleting T N (s₀.name_eq c hc) hdel) hr hs
    trivial hc
  refine ⟨hm, ⟨_, hs', rfl, rfl⟩, fun hf => ⟨⟨none, s.objects, fun _ h => nomatch h⟩,
    .finalize hs' (by simpa [ObjectMeta.updatedBy] using hdel) ?_ rfl rfl, rfl, hm⟩⟩
  simpa [ObjectMeta.updatedBy, removeFinalizer, List.filter_eq_nil_iff] using hf

end Delete

/-- The class `gold` marked for deletion, with its four objects. -/
def goldDeleted : Cluster "gold" :=
  ⟨some (goldClass [clusterOwnerRef (some true)] (some 5)), goldObjects, fun _ h => by cases h; rfl⟩

/-- A tick on it against the scripted server, which answers as the honest server does. -/
def goldDeleteTick : List Prog.Exchange × Except ApiError CtrlResult :=
  Prog.exec (scriptedAnswer (goldClass [clusterOwnerRef (some true)] (some 5))
      (.ok "overcommit.domain/class") (.ok ()))
    (OvercommitClassReconciler.reconcileWith Templater.bare .current "gold").run

theorem goldDeleteTick_runs :
    Prog.Runs (OvercommitClassReconciler.reconcileWith Templater.bare .current "gold").run
      goldDeleteTick.1 (.ok {}) :=
  Prog.runs_exec _ _

/-- The cluster the deletion tick leaves. -/
def goldReleased : Cluster "gold" :=
  (Cluster.serveAll "overcommit.domain/class" clusterOvercommit goldDeleteTick.1 goldDeleted).getD
    goldDeleted

/-- From the marked class with its four objects, the deletion tick leaves none of them, and the
class without finalizers, which the API server may then remove. -/
theorem class_deletion_completes_gold :
    Managed Templater.bareNames goldDeleted ∧ ¬ Managed Templater.bareNames goldReleased ∧
      (∃ c', goldReleased.overcommitClass = some c' ∧ c'.meta.deletionTimestamp = some 5 ∧
        c'.meta.finalizers = []) ∧
      ((∀ f ∈ [classFinalizer], f = classFinalizer) →
        ∃ s', EnvStep goldReleased s' ∧ s'.overcommitClass = none ∧
          ¬ Managed Templater.bareNames s') :=
  ⟨⟨.deployment, "gold", rfl, by simp [goldDeleted, goldObjects]⟩,
    class_deletion_completes Templater.bare Templater.bareNames .current
      (rfl : goldDeleted.overcommitClass = some (goldClass [clusterOwnerRef (some true)] (some 5)))
      rfl goldDeleteTick_runs (served_of_serveAll (rfl : Cluster.serveAll "overcommit.domain/class"
        clusterOvercommit goldDeleteTick.1 goldDeleted = some goldReleased))⟩

end OvercommitOperator
