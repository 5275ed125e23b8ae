import OvercommitOperator.Reconcile.Singleton

/-!
# The failures the reconcilers let pass

`OvercommitReconciler.Reconcile` returns the error of a failed request, but for three kinds of
failure that the code lets pass on purpose: a Get that finds nothing (the singleton is gone, or an
object is still to be created), a Conflict on the upsert of the pod webhook configuration, and any
failure inside the status update, whose error is logged and dropped
(`reconcile_failures_tolerated`). `OvercommitClassReconciler.Reconcile` lets pass a Get or a
Delete that finds nothing, and besides these any failure of `getTotalClasses`
(`reconcileWith_failures_tolerated`).

`Tolerant P Q x` says that every run of the tick `x` that succeeds is a stretch whose failed
requests satisfy `P`, followed by a stretch that satisfies `Q`. It has one rule per way a tick is
built (`pure`, `throw`, `bind`, a raw request, a lifted program) and one lemma per request helper,
and each theorem assembles them over a whole tick (`reconcile_tolerant`, `reconcileWith_tolerant`).
`OkAfter E b x` says that every run of `x` in which an exchange satisfies `E` returns `b`: the runs
that reach the status update, and those in which `getTotalClasses` failed, return success
(`reconcile_okAfter_statusRead`, `reconcileWith_totalFailed_ok`).
-/

namespace OvercommitOperator

/-- The error of an exchange, if its request failed. -/
def Prog.Exchange.failure : Prog.Exchange → Option ApiError
  | ⟨_, .error e⟩ => some e
  | ⟨_, .ok _⟩ => none

@[simp] theorem Prog.Exchange.failure_error (req : Request) (e : ApiError) :
    Prog.Exchange.failure ⟨req, .error e⟩ = some e := rfl

@[simp] theorem Prog.Exchange.failure_ok (req : Request) (a : req.Payload) :
    Prog.Exchange.failure ⟨req, .ok a⟩ = none := rfl

/-- A Get of the singleton, of a class or of a managed object. -/
def Request.isGet : Request → Bool
  | .getOvercommitCR _ | .getClass _ | .get _ _ => true
  | _ => false

/-- A Delete of a managed object. -/
def Request.isDelete : Request → Bool
  | .delete _ _ => true
  | _ => false

/-- The managed object a Get, Create or Update is about, by kind and name. -/
def Request.target : Request → Option (Kind × String)
  | .get k name => some (k, name)
  | .create k o | .update k o => some (k, o.meta.name)
  | _ => none

/-! ## Runs of the request helpers -/

section Helpers
variable {k : Kind} {obj : k.Obj} {tr : List Prog.Exchange}

/-- The write of `CreateOrUpdate`: one request about the upserted object, whose failure is the
upsert's error. -/
theorem sendE_write_runs {req : Request} {t : Kind × String} {r : Except ApiError req.Payload}
    (ht : req.target = some t) (h : Prog.Runs (sendE req).run tr r) :
    ∀ ex ∈ tr, ex.1.target = some t ∧
      ∀ e, ex.failure = some e → (e = .notFound ∧ ex.1.isGet) ∨ r = .error e := by
  rw [runs_sendE_iff.1 h]
  cases r <;> simp [ht]

/-- Every request of `CreateOrUpdate` is about the object it upserts, and each failure is its Get
finding nothing, or the error the upsert returns. -/
theorem createOrUpdate_runs {f : k.Obj → Except ApiError k.Obj} {r : Except ApiError k.Obj}
    (h : Prog.Runs (createOrUpdate k obj f).run tr r) :
    ∀ ex ∈ tr, ex.1.target = some (k, obj.meta.name) ∧
      ∀ e, ex.failure = some e → (e = .notFound ∧ ex.1.isGet) ∨ r = .error e := by
  unfold createOrUpdate at h
  rw [sendRaw_bind_run, Prog.runs_call_iff] at h
  obtain ⟨r₀, tr, rfl, h⟩ := h
  cases r₀ with
  | error e =>
    dsimp only at h
    split at h
    · next he =>
      subst he
      refine List.forall_mem_cons.2
        ⟨⟨rfl, fun _ he => .inl ⟨(Option.some.inj he).symm, rfl⟩⟩, ?_⟩
      cases hf : f obj with
      | error e' => rw [hf] at h; obtain ⟨rfl, -⟩ := Prog.runs_ret_iff.1 h; simp
      | ok obj' =>
        rw [hf, liftExcept_ok_bind] at h
        split at h
        · obtain ⟨rfl, -⟩ := Prog.runs_ret_iff.1 h; simp
        · next hname =>
          rw [pure_bind] at h
          exact sendE_write_runs (by simpa [Request.target] using hname) h
    · obtain ⟨rfl, rfl⟩ := runs_throw_iff.1 h
      simp [Request.target]
  | ok existing =>
    dsimp only at h
    refine List.forall_mem_cons.2 ⟨⟨rfl, fun _ he => by simp at he⟩, ?_⟩
    cases hf : f existing with
    | error e' => rw [hf] at h; obtain ⟨rfl, -⟩ := Prog.runs_ret_iff.1 h; simp
    | ok obj' =>
      rw [hf, liftExcept_ok_bind] at h
      split at h
      · obtain ⟨rfl, -⟩ := Prog.runs_ret_iff.1 h; simp
      · next hname =>
        rw [pure_bind] at h
        split at h
        · obtain ⟨rfl, -⟩ := runs_pure_iff.1 h; simp
        · rw [pure_bind] at h
          exact sendE_write_runs (by simpa [Request.target] using hname) h

end Helpers

/-! ## Ticks that let some failures pass -/

section Tolerant
variable {α β γ : Type} {P : Prog.Exchange → Prop} {Q : List Prog.Exchange → Prop}

/-- Every run of `x` that succeeds is a stretch whose failed requests satisfy `P`, followed by a
stretch that satisfies `Q`. -/
def Tolerant (P : Prog.Exchange → Prop) (Q : List Prog.Exchange → Prop) (x : Tick α) : Prop :=
  ∀ tr a, Prog.Runs x.run tr (.ok a) →
    ∃ tr₁ tr₂, tr = tr₁ ++ tr₂ ∧ (∀ ex ∈ tr₁, ex.failure ≠ none → P ex) ∧ Q tr₂

namespace Tolerant

theorem of_runs {x : Tick α}
    (h : ∀ tr a, Prog.Runs x.run tr (.ok a) → ∀ ex ∈ tr, ex.failure ≠ none → P ex) :
    Tolerant P (· = []) x :=
  fun tr a hr => ⟨tr, [], by simp, h tr a hr, rfl⟩

theorem pure' {a : α} (hQ : Q []) : Tolerant P Q (pure a : Tick α) := by
  intro tr b h
  obtain ⟨rfl, -⟩ := runs_pure_iff.1 h
  exact ⟨[], [], rfl, by simp, hQ⟩

theorem throw' {e : ApiError} : Tolerant P Q (throw e : Tick α) :=
  fun _ _ h => nomatch (runs_throw_iff.1 h).2

theorem bind {x : Tick α} {f : α → Tick β} (hx : Tolerant P (· = []) x)
    (hf : ∀ a, Tolerant P Q (f a)) : Tolerant P Q (x >>= f) := by
  intro tr b h
  rcases runs_tick_bind.1 h with ⟨tr₁, tr₂, a, rfl, h₁, h₂⟩ | ⟨e, -, he⟩
  · obtain ⟨u₁, u₂, rfl, hu, rfl⟩ := hx tr₁ a h₁
    obtain ⟨v₁, v₂, rfl, hv, hQ⟩ := hf a tr₂ b h₂
    refine ⟨u₁ ++ v₁, v₂, by simp, fun ex hex => ?_, hQ⟩
    rcases List.mem_append.1 hex with hex | hex
    exacts [hu ex hex, hv ex hex]
  · cases he

/-- A request whose error ends the tick lets no failure pass. -/
theorem sendE {req : Request} : Tolerant P (· = []) (sendE req) :=
  of_runs fun _ _ h => by simp [runs_sendE_iff.1 h]

/-- A tick that ends by running a program, whatever it returns: its requests are the final
stretch. -/
theorem lift_final {p : Prog γ} {b : β} (hp : ∀ tr c, Prog.Runs p tr c → Q tr) :
    Tolerant P Q (ExceptT.lift p >>= fun _ => (Pure.pure b : Tick β)) := by
  intro tr a h
  rw [lift_bind_run, Prog.runs_bind_iff] at h
  obtain ⟨tr₁, tr₂, c, rfl, h₁, h₂⟩ := h
  obtain ⟨rfl, -⟩ := runs_pure_iff.1 h₂
  exact ⟨[], tr₁, by simp, by simp, hp tr₁ c h₁⟩

/-- A program lifted into the tick whose Conflict is dropped: the failures of its runs that end
well or in a Conflict are those that pass. -/
theorem ignoreConflict {x : Tick α}
    (h : ∀ tr r, Prog.Runs x.run tr r → (∀ e, r = .error e → e = .conflict) →
      ∀ ex ∈ tr, ex.failure ≠ none → P ex) :
    Tolerant P (· = []) (ignoreConflict x) := by
  refine of_runs fun tr a hr => ?_
  unfold OvercommitOperator.ignoreConflict at hr
  rw [lift_bind_run, Prog.runs_bind_iff] at hr
  obtain ⟨tr₁, tr₂, r, rfl, h₁, h₂⟩ := hr
  cases r with
  | error e =>
    dsimp only at h₂
    split at h₂
    · obtain ⟨rfl, -⟩ := runs_pure_iff.1 h₂
      simpa using h tr₁ _ h₁ fun _ he => by cases he; assumption
    · cases (runs_throw_iff.1 h₂).2
  | ok b =>
    obtain ⟨rfl, -⟩ := runs_pure_iff.1 h₂
    simpa using h tr₁ _ h₁ fun _ he => nomatch he

/-- A raw request whose answer the rest of the tick inspects: a failure passes only if the rest
can still succeed after it, and then `P` must allow it. -/
theorem sendRaw_bind {req : Request} {f : Except ApiError req.Payload → Tick β}
    (hf : ∀ r, Tolerant P Q (f r))
    (hP : ∀ e tr a, Prog.Runs (f (.error e)).run tr (.ok a) → P ⟨req, .error e⟩) :
    Tolerant P Q (sendRaw req >>= f) := by
  intro tr a h
  rw [sendRaw_bind_run, Prog.runs_call_iff] at h
  obtain ⟨r, tr, rfl, h⟩ := h
  obtain ⟨tr₁, tr₂, rfl, h₁, hQ⟩ := hf r tr a h
  refine ⟨⟨req, r⟩ :: tr₁, tr₂, rfl, List.forall_mem_cons.2 ⟨fun hr => ?_, h₁⟩, hQ⟩
  cases r with
  | error e => exact hP e _ _ h
  | ok _ => exact absurd rfl hr

/-- A local computation sends nothing. -/
theorem liftExcept {e : Except ApiError α} : Tolerant P (· = []) (liftExcept e) :=
  of_runs fun _ _ h => by simp [(runs_liftExcept_iff.1 h).1]

/-- `client.IgnoreNotFound` on a Delete: its NotFound passes. -/
theorem deleteIgnoreNotFound {k : Kind} {name : String}
    (hP : P ⟨.delete k name, .error .notFound⟩) :
    Tolerant P (· = []) (deleteIgnoreNotFound k name) := by
  unfold OvercommitOperator.deleteIgnoreNotFound
  refine sendRaw_bind (fun r => ?_) fun e _ _ h => ?_
  · rcases r with e | u
    · dsimp only
      split
      exacts [pure' rfl, throw']
    · exact pure' rfl
  · dsimp only at h
    split at h
    · next he => exact he ▸ hP
    · cases (runs_throw_iff.1 h).2

/-- `client.IgnoreNotFound` on a Get: its NotFound passes. -/
theorem getIgnoreNotFound {req : Request} (hP : P ⟨req, .error .notFound⟩) :
    Tolerant P (· = []) (getIgnoreNotFound req) := by
  unfold OvercommitOperator.getIgnoreNotFound
  refine sendRaw_bind (fun r => ?_) fun e _ _ h => ?_
  · rcases r with e | o
    · dsimp only
      split
      exacts [pure' rfl, throw']
    · exact pure' rfl
  · dsimp only at h
    split at h
    · next he => exact he ▸ hP
    · cases (runs_throw_iff.1 h).2

/-- `CreateOrUpdate` lets a NotFound on its Get pass, and nothing else. -/
theorem createOrUpdate {k : Kind} {obj : k.Obj} {f : k.Obj → Except ApiError k.Obj}
    (hP : ∀ ex : Prog.Exchange, ex.failure = some .notFound → ex.1.isGet → P ex) :
    Tolerant P (· = []) (createOrUpdate k obj f) :=
  of_runs fun _ _ h ex hex hf => by
    obtain ⟨e, he⟩ := Option.ne_none_iff_exists'.1 hf
    rcases (createOrUpdate_runs h ex hex).2 e he with ⟨rfl, hget⟩ | hr
    exacts [hP ex he hget, nomatch hr]

end Tolerant

end Tolerant

/-! ## Failures that come too late to fail the tick -/

section OkAfter
variable {α β γ : Type} {E : Prog.Exchange → Prop} {b : β}

/-- Every run of `x` in which an exchange satisfies `E` returns `b`: once `E` happens, nothing the
tick does after it makes it fail. -/
def OkAfter (E : Prog.Exchange → Prop) (b : β) (x : Tick β) : Prop :=
  ∀ tr r, Prog.Runs x.run tr r → (∃ ex ∈ tr, E ex) → r = .ok b

namespace OkAfter

/-- A tick none of whose requests `E` can hold of. -/
theorem of_sends {x : Tick β} (h : Prog.Sends (fun req => ∀ a, ¬ E ⟨req, a⟩) x.run) :
    OkAfter E b x :=
  fun _ _ hr ⟨ex, hex, hE⟩ => absurd hE (h.runs hr ex hex ex.2)

theorem bind {x : Tick α} {f : α → Tick β} (hx : Prog.Sends (fun req => ∀ a, ¬ E ⟨req, a⟩) x.run)
    (hf : ∀ a, OkAfter E b (f a)) : OkAfter E b (x >>= f) := by
  intro tr r h ⟨ex, hex, hE⟩
  rcases runs_tick_bind.1 h with ⟨tr₁, tr₂, a, rfl, h₁, h₂⟩ | ⟨e, h₁, -⟩
  · rcases List.mem_append.1 hex with hex | hex
    exacts [absurd hE (hx.runs h₁ ex hex ex.2), hf a _ _ h₂ ⟨ex, hex, hE⟩]
  · exact absurd hE (hx.runs h₁ ex hex ex.2)

/-- A tick that ends by running a program and returning `b`, whatever the program returns. -/
theorem lift_final {p : Prog γ} : OkAfter E b (ExceptT.lift p >>= fun _ => (pure b : Tick β)) := by
  intro tr r h _
  rw [lift_bind_run, Prog.runs_bind_iff] at h
  obtain ⟨_, _, _, -, -, h₂⟩ := h
  exact (runs_pure_iff.1 h₂).2

/-- A raw request whose answer the rest of the tick inspects: when `E` holds of the exchange, the
rest returns `b`. -/
theorem sendRaw_bind {req : Request} {f : Except ApiError req.Payload → Tick β}
    (hnow : ∀ r, E ⟨req, r⟩ → ∀ tr r', Prog.Runs (f r).run tr r' → r' = .ok b)
    (hf : ∀ r, OkAfter E b (f r)) : OkAfter E b (sendRaw req >>= f) := by
  intro tr r' h ⟨ex, hex, hE⟩
  rw [sendRaw_bind_run, Prog.runs_call_iff] at h
  obtain ⟨r, tr, rfl, h⟩ := h
  rcases List.mem_cons.1 hex with rfl | hex
  exacts [hnow r hE tr r' h, hf r tr r' h ⟨ex, hex, hE⟩]

/-- A tick that reads the label, then its policy object NotFound-tolerant: once `E` happens after
these two reads, it returns `b` when what follows the reads does. -/
theorem label_then_get {get : Request} {f : String → Option get.Payload → Tick β}
    (hf : ∀ l a, OkAfter E b (f l a)) {tr : List Prog.Exchange} {r : Except ApiError β}
    (h : Prog.Runs (sendE .getOvercommitLabel >>= fun l => getIgnoreNotFound get >>= f l).run tr r)
    (hE : ∃ ex ∈ tr.drop 2, E ex) : r = .ok b := by
  rcases runs_tick_bind.1 h with ⟨_, tr, l, rfl, h₁, h₂⟩ | ⟨e, h₁, -⟩
  · rw [runs_sendE_iff.1 h₁] at hE
    rcases runs_tick_bind.1 h₂ with ⟨_, tr, x, rfl, h₂, h₃⟩ | ⟨e, h₂, -⟩
    · obtain ⟨v, rfl, -⟩ := runs_getIgnoreNotFound h₂
      exact hf l x tr r h₃ hE
    · obtain ⟨v, rfl, -⟩ := runs_getIgnoreNotFound h₂
      simp at hE
  · rw [runs_sendE_iff.1 h₁] at hE
    simp at hE

end OkAfter

end OkAfter

/-! ## The singleton reconciler -/

namespace OvercommitReconciler
variable (T : Templater) (env : ImageEnv) (now : Time)

/-- The failures a tick of the singleton reconciler lets pass before its status update: a Get
that found nothing, and a Conflict on a request about the pod webhook configuration `podWebhook`.
Reference: `src/unnamed/part_000:47-397`. -/
def Tolerated (podWebhook : String) (ex : Prog.Exchange) : Prop :=
  ex.failure = some .notFound ∧ ex.1.isGet ∨
    ex.failure = some .conflict ∧ ex.1.target = some (.validatingWebhookConfiguration, podWebhook)

instance (podWebhook : String) : DecidablePred (Tolerated podWebhook) :=
  fun _ => inferInstanceAs (Decidable (_ ∨ _))

/-- The runs of the pod webhook's upsert that end well or in a Conflict fail only as `Tolerated`
allows. -/
theorem podWebhook_tolerant {W : String} {obj : Kind.validatingWebhookConfiguration.Obj}
    {f : Kind.validatingWebhookConfiguration.Obj →
      Except ApiError Kind.validatingWebhookConfiguration.Obj}
    (hW : obj.meta.name = W) :
    Tolerant (Tolerated W) (· = [])
      (ignoreConflict (createOrUpdate .validatingWebhookConfiguration obj f)) :=
  Tolerant.ignoreConflict fun _ _ h hr ex hex hf => by
    obtain ⟨e, he⟩ := Option.ne_none_iff_exists'.1 hf
    obtain ⟨ht, hfail⟩ := createOrUpdate_runs h ex hex
    rcases hfail e he with ⟨rfl, hget⟩ | hr'
    exacts [.inl ⟨he, hget⟩, .inr ⟨(hr e hr') ▸ he, hW ▸ ht⟩]

/-- In every run of a tick that succeeds, each request before the status update that failed was a
Get that found nothing or a Conflict on the pod webhook configuration `W`; the rest of the run is
the status update. -/
theorem reconcile_tolerant {W : String}
    (hW : ∀ d s c l, (T.generatePodValidatingWebhookConfiguration d s c l).meta.name = W)
    (req : String) :
    Tolerant (Tolerated W)
      (fun tr => tr = [] ∨ ∃ r, Prog.Runs (updateOvercommitStatusSafely T now).run tr r)
      (reconcile T env now req) := by
  have hget : ∀ ex : Prog.Exchange, ex.failure = some .notFound → ex.1.isGet → Tolerated W ex :=
    fun _ h₁ h₂ => .inl ⟨h₁, h₂⟩
  unfold reconcile
  refine Tolerant.sendE.bind fun l =>
    (Tolerant.getIgnoreNotFound (hget _ rfl (by rfl))).bind fun o => ?_
  rcases o with _ | o
  · exact Tolerant.pure' (.inl rfl)
  dsimp only
  rcases removeLegacyFinalizers o.meta with ⟨meta, _ | _⟩
  · simp only [Bool.false_eq_true, ↓reduceIte, pure_bind]
    rcases T.generateIssuer with _ | issuer
    · exact Tolerant.throw'
    -- the issuer, the Overcommit validator, the pod validator (its webhook configuration
    -- Conflict-tolerant), the class controller, and the status update
    exact (Tolerant.createOrUpdate hget).bind fun _ => (Tolerant.createOrUpdate hget).bind fun _ =>
      (Tolerant.createOrUpdate hget).bind fun _ => (Tolerant.createOrUpdate hget).bind fun _ =>
      (Tolerant.createOrUpdate hget).bind fun _ => (Tolerant.createOrUpdate hget).bind fun _ =>
      (Tolerant.createOrUpdate hget).bind fun _ => (Tolerant.createOrUpdate hget).bind fun _ =>
      (podWebhook_tolerant (hW _ _ _ _)).bind fun _ => (Tolerant.createOrUpdate hget).bind fun _ =>
      Tolerant.lift_final fun _ _ h => .inr ⟨_, h⟩
  · simp only [↓reduceIte]
    exact Tolerant.sendE.bind fun _ => Tolerant.pure' (.inl rfl)

/-- Past its first two requests, a tick reads the singleton only in its status update, and every
run that gets there requeues after ten seconds, whatever the update meets. -/
theorem reconcile_okAfter_statusRead {req : String} {tr : List Prog.Exchange}
    {r : Except ApiError CtrlResult} (h : Prog.Runs (reconcile T env now req).run tr r)
    (hread : ∃ ex ∈ tr.drop 2, ex.1.isOvercommitRead) : r = .ok { requeueAfter := 10 } := by
  have hq : ∀ {α : Type} {x : Tick α}, Prog.Sends (·.isOvercommitRead = false) x.run →
      Prog.Sends (fun req => ∀ a, ¬ (⟨req, a⟩ : Prog.Exchange).1.isOvercommitRead) x.run :=
    fun h => h.mono fun _ h _ => by simp [h]
  have hup : ∀ {k : Kind} {obj : k.Obj} {f : k.Obj → Except ApiError k.Obj},
      Prog.Sends (fun req => ∀ a, ¬ (⟨req, a⟩ : Prog.Exchange).1.isOvercommitRead)
        (createOrUpdate k obj f).run :=
    hq (sends_createOrUpdate rfl fun _ => ⟨rfl, rfl⟩)
  unfold reconcile at h
  refine OkAfter.label_then_get (fun l o => ?_) h hread
  rcases o with _ | o
  · exact OkAfter.of_sends (.ret _)
  dsimp only
  rcases removeLegacyFinalizers o.meta with ⟨meta, _ | _⟩
  · simp only [Bool.false_eq_true, ↓reduceIte, pure_bind]
    rcases T.generateIssuer with _ | issuer
    · exact OkAfter.of_sends (.ret _)
    exact OkAfter.bind hup fun _ => OkAfter.bind hup fun _ => OkAfter.bind hup fun _ =>
      OkAfter.bind hup fun _ => OkAfter.bind hup fun _ => OkAfter.bind hup fun _ =>
      OkAfter.bind hup fun _ => OkAfter.bind hup fun _ =>
      OkAfter.bind (sends_ignoreConflict hup) fun _ => OkAfter.bind hup fun _ => OkAfter.lift_final
  · simp only [↓reduceIte]
    exact OkAfter.of_sends (sends_tick_bind (hq (sends_sendE rfl)) fun _ => .ret _)

/-- **The singleton reconciler returns the error of every failure it does not mean to let pass,
and no failure of its status update.** In every run of a tick that succeeds, each request before
the status update that failed was a Get that found nothing or a Conflict on the pod webhook
configuration, named `W` by the templater; the rest of the run is the status update. And every run
that reaches the status update, which starts with the tick's only read of the singleton after its
first two requests, succeeds and requeues after ten seconds, whatever the update meets. -/
theorem reconcile_failures_tolerated {W : String}
    (hW : ∀ d s c l, (T.generatePodValidatingWebhookConfiguration d s c l).meta.name = W)
    (req : String) :
    Tolerant (Tolerated W)
        (fun tr => tr = [] ∨ ∃ r, Prog.Runs (updateOvercommitStatusSafely T now).run tr r)
        (reconcile T env now req) ∧
      ∀ tr r, Prog.Runs (reconcile T env now req).run tr r →
        (∃ ex ∈ tr.drop 2, ex.1.isOvercommitRead) → r = .ok { requeueAfter := 10 } :=
  ⟨reconcile_tolerant T env now hW req, fun _ _ => reconcile_okAfter_statusRead T env now⟩

theorem reconcile_failures_tolerated_bare :
    Tolerant (Tolerated "pod")
        (fun tr => tr = [] ∨ ∃ r, Prog.Runs (updateOvercommitStatusSafely Templater.bare 0).run tr r)
        (reconcile Templater.bare ⟨"", "", ""⟩ 0 "cluster") ∧
      ∀ tr r, Prog.Runs (reconcile Templater.bare ⟨"", "", ""⟩ 0 "cluster").run tr r →
        (∃ ex ∈ tr.drop 2, ex.1.isOvercommitRead) → r = .ok { requeueAfter := 10 } :=
  reconcile_failures_tolerated Templater.bare ⟨"", "", ""⟩ 0 (fun _ _ _ _ => rfl) "cluster"

end OvercommitReconciler

/-! ## The class reconciler -/

namespace OvercommitClassReconciler
variable (T : Templater)

/-- The failures a successful tick of the class reconciler may contain: a Get or a Delete that
found nothing, and any failure of `getTotalClasses`, after which the tick returns with no error.
Reference: `src/unnamed/part_001:237-603`. -/
def ClassTolerated (ex : Prog.Exchange) : Prop :=
  ex.failure = some .notFound ∧ (ex.1.isGet ∨ ex.1.isDelete) ∨ ex.1 = .getTotalClasses

theorem cleanupResources_tolerant (c : OvercommitClass) :
    Tolerant ClassTolerated (· = []) (cleanupResources T c) :=
  have hdel : ∀ k name, ClassTolerated ⟨.delete k name, .error .notFound⟩ :=
    fun _ _ => .inl ⟨rfl, .inr rfl⟩
  (Tolerant.deleteIgnoreNotFound (hdel _ _)).bind fun _ =>
    (Tolerant.deleteIgnoreNotFound (hdel _ _)).bind fun _ =>
    (Tolerant.deleteIgnoreNotFound (hdel _ _)).bind fun _ =>
    Tolerant.sendE.bind fun _ => Tolerant.deleteIgnoreNotFound (hdel _ _)

/-- The upserts let a NotFound on their Gets pass, and a failed `getTotalClasses` ends the tick
with no error. -/
theorem reconcileResources_tolerant (cl : ClassClosures) (label : String) (c : OvercommitClass) :
    Tolerant ClassTolerated (· = []) (reconcileResources T cl label c) := by
  have hget : ∀ ex : Prog.Exchange, ex.failure = some .notFound → ex.1.isGet → ClassTolerated ex :=
    fun _ h₁ h₂ => .inl ⟨h₁, .inl h₂⟩
  refine (Tolerant.createOrUpdate hget).bind fun _ => (Tolerant.createOrUpdate hget).bind fun _ =>
    (Tolerant.createOrUpdate hget).bind fun _ => (Tolerant.createOrUpdate hget).bind fun _ =>
    Tolerant.sendRaw_bind (fun r => ?_) fun e _ _ _ => .inr rfl
  cases r
  · exact Tolerant.pure' rfl
  · exact Tolerant.sendE.bind fun _ => Tolerant.pure' rfl

/-- A failure of `getTotalClasses`. -/
def TotalFailed (ex : Prog.Exchange) : Prop := ∃ e, ex = ⟨.getTotalClasses, .error e⟩

theorem sends_not_totalFailed {α : Type} {x : Tick α} (h : Prog.Sends (· ≠ .getTotalClasses) x.run) :
    Prog.Sends (fun req => ∀ a, ¬ TotalFailed ⟨req, a⟩) x.run :=
  h.mono fun _ hne _ ⟨_, he⟩ => hne (congrArg Sigma.fst he)

/-- The cleanup deletes the four objects and reads the label; it never calls `getTotalClasses`. -/
theorem cleanupResources_sends (c : OvercommitClass) :
    Prog.Sends (· ≠ .getTotalClasses) (cleanupResources T c).run :=
  sends_tick_bind (sends_deleteIgnoreNotFound (by nofun)) fun _ =>
    sends_tick_bind (sends_deleteIgnoreNotFound (by nofun)) fun _ =>
    sends_tick_bind (sends_deleteIgnoreNotFound (by nofun)) fun _ =>
    sends_tick_bind (sends_sendE (by nofun)) fun _ => sends_deleteIgnoreNotFound (by nofun)

/-- Once `getTotalClasses` has failed, the upserts' tail returns with no error. -/
theorem reconcileResources_okAfter (cl : ClassClosures) (label : String) (c : OvercommitClass) :
    OkAfter TotalFailed {} (reconcileResources T cl label c) := by
  have hup : ∀ {k : Kind} {obj : k.Obj} {f : k.Obj → Except ApiError k.Obj},
      Prog.Sends (fun req => ∀ a, ¬ TotalFailed ⟨req, a⟩) (createOrUpdate k obj f).run :=
    sends_not_totalFailed (sends_createOrUpdate (by nofun) fun _ => ⟨by nofun, by nofun⟩)
  refine OkAfter.bind hup fun _ => OkAfter.bind hup fun _ => OkAfter.bind hup fun _ =>
    OkAfter.bind hup fun _ => OkAfter.sendRaw_bind (fun r ⟨e, he⟩ tr r' h => ?_) fun r => ?_
  · cases he
    exact (Prog.runs_ret_iff.1 h).2
  · refine OkAfter.of_sends (sends_not_totalFailed ?_)
    cases r
    · exact .ret _
    · dsimp only
      exact sends_tick_bind (.ret _) fun _ => sends_tick_bind (sends_sendE (by nofun)) fun _ => .ret _

/-- In every run of a tick of either version that succeeds, each request that failed was a Get or
a Delete that found nothing, or `getTotalClasses`. -/
theorem reconcileWith_tolerant (cl : ClassClosures) (req : String) :
    Tolerant ClassTolerated (· = []) (reconcileWith T cl req) := by
  have hget : ∀ ex : Prog.Exchange, ex.failure = some .notFound → ex.1.isGet → ClassTolerated ex :=
    fun _ h₁ h₂ => .inl ⟨h₁, .inl h₂⟩
  unfold reconcileWith
  refine Tolerant.sendE.bind fun _ =>
    (Tolerant.getIgnoreNotFound (hget _ rfl (by rfl))).bind fun c => ?_
  rcases c with _ | c
  · exact Tolerant.pure' rfl
  dsimp only
  split
  · exact (cleanupResources_tolerant T c).bind fun _ => Tolerant.sendE.bind fun _ => Tolerant.pure' rfl
  split
  · exact Tolerant.sendE.bind fun _ => Tolerant.pure' rfl
  refine Tolerant.sendE.bind fun _ => ?_
  split
  · exact Tolerant.liftExcept.bind fun _ => Tolerant.sendE.bind fun _ => Tolerant.pure' rfl
  · exact reconcileResources_tolerant T cl _ c

/-- Every run of a tick in which `getTotalClasses` failed returns no error, with no requeue: only
the upserts call it, last. Each `if` that does not return goes on after a `pure ()`. -/
theorem reconcileWith_totalFailed_ok (cl : ClassClosures) (req : String) :
    OkAfter TotalFailed {} (reconcileWith T cl req) := by
  unfold reconcileWith
  refine OkAfter.bind (sends_not_totalFailed (sends_sendE (by nofun))) fun _ =>
    OkAfter.bind (sends_not_totalFailed (sends_getIgnoreNotFound (by nofun))) fun c => ?_
  rcases c with _ | c
  · exact OkAfter.of_sends (.ret _)
  dsimp only
  split
  · exact OkAfter.of_sends (sends_not_totalFailed (sends_tick_bind (cleanupResources_sends T c)
      fun _ => sends_tick_bind (sends_sendE (by nofun)) fun _ => .ret _))
  refine OkAfter.bind (.ret _) fun _ => ?_
  split
  · exact OkAfter.of_sends (sends_not_totalFailed
      (sends_tick_bind (sends_sendE (by nofun)) fun _ => .ret _))
  refine OkAfter.bind (.ret _) fun _ =>
    OkAfter.bind (sends_not_totalFailed (sends_sendE (by nofun))) fun _ => ?_
  split
  · exact OkAfter.of_sends (sends_not_totalFailed (sends_tick_bind (.ret _) fun _ =>
      sends_tick_bind (sends_sendE (by nofun)) fun _ => .ret _))
  · exact OkAfter.bind (.ret _) fun _ => reconcileResources_okAfter T cl _ c

/-- **The class reconciler returns the error of every failure but one kind it does not mean to
let pass, and not that one.** In every run of a tick of either version that succeeds, each request
that failed was a Get or a Delete that found nothing, or `getTotalClasses`; and every run in which
`getTotalClasses` failed returns no error, with no requeue. -/
theorem reconcileWith_failures_tolerated (cl : ClassClosures) (req : String) :
    Tolerant ClassTolerated (· = []) (reconcileWith T cl req) ∧
      ∀ tr r e, Prog.Runs (reconcileWith T cl req).run tr r →
        ⟨.getTotalClasses, .error e⟩ ∈ tr → r = .ok {} :=
  ⟨reconcileWith_tolerant T cl req, fun tr r e h he =>
    reconcileWith_totalFailed_ok T cl req tr r h ⟨_, he, e, rfl⟩⟩

theorem reconcileWith_failures_tolerated_gold :
    Tolerant ClassTolerated (· = []) (reconcileWith Templater.bare .current "gold") ∧
      ∀ tr r e, Prog.Runs (reconcileWith Templater.bare .current "gold").run tr r →
        ⟨.getTotalClasses, .error e⟩ ∈ tr → r = .ok {} :=
  reconcileWith_failures_tolerated Templater.bare .current "gold"

end OvercommitClassReconciler

end OvercommitOperator
