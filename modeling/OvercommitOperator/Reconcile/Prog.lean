import OvercommitOperator.Mutate.Closures
import OvercommitOperator.Equality.Semantic

/-!
# Reconciler ticks as programs of API requests

A tick of a reconciler is a `Prog`: a tree whose nodes are the requests it sends to the API server
(or to the helpers of the operator that are not in the model, `GetOvercommitLabel`,
`GetOvercommit`, `getTotalClasses` and `updateResourcesStatus`, or to the clock for a sleep), each
branching on the answer. The
reconcilers are written in `ExceptT ApiError Prog`, where `←` on a request returns its error as
Go's `if err != nil { return ctrl.Result{}, err }` does. `Prog.Runs` relates a program to each
sequence of answers and the result it then returns; `Prog.exec` runs it against a fixed answering
function. `createOrUpdate` is controller-runtime's `CreateOrUpdate` over these requests.
-/

namespace OvercommitOperator

/-- The requests a tick sends. -/
inductive Request
  /-- `utils.GetOvercommitLabel`. -/
  | getOvercommitLabel
  /-- `utils.GetOvercommit`. -/
  | getOvercommit
  /-- `r.Get` of the `Overcommit` the tick reconciles. -/
  | getOvercommitCR (name : String)
  /-- `r.Update` of that `Overcommit`. -/
  | updateOvercommitCR (o : Overcommit)
  /-- `r.Get` of the `OvercommitClass` the tick reconciles. -/
  | getClass (name : String)
  /-- `r.Update` of that class. -/
  | updateClass (c : OvercommitClass)
  | get (k : Kind) (name : String)
  | create (k : Kind) (o : k.Obj)
  | update (k : Kind) (o : k.Obj)
  | delete (k : Kind) (name : String)
  /-- `getTotalClasses`, which refreshes the class-count gauge. -/
  | getTotalClasses
  /-- `r.updateResourcesStatus` of a class. -/
  | updateResourcesStatus (c : OvercommitClass)
  /-- `r.Status().Update` of the singleton. -/
  | updateStatus (o : Overcommit)
  /-- `time.Sleep`, in milliseconds. -/
  | sleep (ms : Nat)

/-- What a successful request returns; a write returns the object as the server stored it. -/
def Request.Payload : Request → Type
  | .getOvercommitLabel => String
  | .getOvercommit | .getOvercommitCR _ => Overcommit
  | .getClass _ => OvercommitClass
  | .get k _ | .create k _ | .update k _ => k.Obj
  | _ => Unit

/-- The sleep a request asks for, if it is one. -/
def Request.sleepMs : Request → Option Nat
  | .sleep ms => some ms
  | _ => none

/-- The request reads the singleton. -/
def Request.isOvercommitRead : Request → Bool
  | .getOvercommitCR _ => true
  | _ => false

@[simp] theorem Request.sleepMs_sleep (ms : Nat) : (Request.sleep ms).sleepMs = some ms := rfl
@[simp] theorem Request.sleepMs_getOvercommitCR (name : String) :
    (Request.getOvercommitCR name).sleepMs = none := rfl
@[simp] theorem Request.isOvercommitRead_sleep (ms : Nat) :
    (Request.sleep ms).isOvercommitRead = false := rfl
@[simp] theorem Request.isOvercommitRead_getOvercommitCR (name : String) :
    (Request.getOvercommitCR name).isOvercommitRead = true := rfl

/-- A tick: a tree of requests, each branching on its answer. -/
inductive Prog (α : Type) : Type
  | ret (a : α)
  | call (req : Request) (k : Except ApiError req.Payload → Prog α)

namespace Prog
variable {α β : Type}

def bind : Prog α → (α → Prog β) → Prog β
  | ret a, f => f a
  | call req k, f => call req fun r => bind (k r) f

instance : Monad Prog where
  pure := ret
  bind := bind

instance : LawfulMonad Prog := LawfulMonad.mk' Prog
  (fun x => by
    induction x with
    | ret a => rfl
    | call req k ih => exact congrArg (call req) (funext ih))
  (fun _ _ => rfl)
  (fun x f g => by
    induction x with
    | ret a => rfl
    | call req k ih => exact congrArg (call req) (funext ih))

@[simp] theorem bind_ret (a : α) (f : α → Prog β) : (ret a >>= f) = f a := rfl
@[simp] theorem bind_call (req : Request) (k : Except ApiError req.Payload → Prog α)
    (f : α → Prog β) : (call req k >>= f) = call req fun r => k r >>= f := rfl

/-- Sends a request and returns its answer, error included. -/
def send (req : Request) : Prog (Except ApiError req.Payload) := call req ret

/-- A request and the answer it got. -/
abbrev Exchange := (req : Request) × Except ApiError req.Payload

/-- `Runs p tr a`: given the answers of `tr`, in order, `p` sends the requests of `tr` and returns
`a`. -/
inductive Runs : Prog α → List Exchange → α → Prop
  | ret (a : α) : Runs (ret a) [] a
  | call {req : Request} {k : Except ApiError req.Payload → Prog α} {r : Except ApiError req.Payload}
      {tr : List Exchange} {a : α} : Runs (k r) tr a → Runs (call req k) (⟨req, r⟩ :: tr) a

/-- Runs `p` answering every request by `answer`: the exchanges and the result. -/
def exec (answer : (req : Request) → Except ApiError req.Payload) : Prog α → List Exchange × α
  | ret a => ([], a)
  | call req k =>
    let r := answer req
    let (tr, a) := exec answer (k r)
    (⟨req, r⟩ :: tr, a)

@[simp] theorem runs_ret_iff {a b : α} {tr : List Exchange} : Runs (ret a) tr b ↔ tr = [] ∧ b = a :=
  ⟨fun h => by cases h; exact ⟨rfl, rfl⟩, fun ⟨h₁, h₂⟩ => h₁ ▸ h₂ ▸ .ret a⟩

theorem runs_call_iff {req : Request} {k : Except ApiError req.Payload → Prog α} {tr : List Exchange}
    {b : α} : Runs (call req k) tr b ↔ ∃ r tr', tr = ⟨req, r⟩ :: tr' ∧ Runs (k r) tr' b :=
  ⟨fun h => by cases h with | call h => exact ⟨_, _, rfl, h⟩,
    fun ⟨_, _, h₁, h₂⟩ => h₁ ▸ .call h₂⟩

/-- A run of `p >>= f` is a run of `p` followed by a run of `f` on its result. -/
theorem runs_bind_iff {p : Prog α} {f : α → Prog β} {tr : List Exchange} {b : β} :
    Runs (p >>= f) tr b ↔ ∃ tr₁ tr₂ a, tr = tr₁ ++ tr₂ ∧ Runs p tr₁ a ∧ Runs (f a) tr₂ b := by
  induction p generalizing tr with
  | ret a => exact ⟨fun h => ⟨[], tr, a, rfl, .ret a, h⟩, fun ⟨_, _, _, h, h₁, h₂⟩ => by
      cases h₁; exact h ▸ h₂⟩
  | call req k ih =>
    rw [bind_call, runs_call_iff]
    constructor
    · rintro ⟨r, tr', rfl, h⟩
      obtain ⟨tr₁, tr₂, a, rfl, h₁, h₂⟩ := (ih r).1 h
      exact ⟨_ :: tr₁, tr₂, a, rfl, .call h₁, h₂⟩
    · rintro ⟨tr₁, tr₂, a, rfl, h₁, h₂⟩
      obtain ⟨r, tr', rfl, hk⟩ := runs_call_iff.1 h₁
      exact ⟨r, tr' ++ tr₂, rfl, (ih r).2 ⟨_, _, _, rfl, hk, h₂⟩⟩

/-- Every request `p` may send satisfies `P`. -/
inductive Sends (P : Request → Prop) : Prog α → Prop
  | ret (a : α) : Sends P (ret a)
  | call {req : Request} {k : Except ApiError req.Payload → Prog α} :
      P req → (∀ r, Sends P (k r)) → Sends P (call req k)

theorem Sends.runs {P : Request → Prop} {p : Prog α} {tr : List Exchange} {a : α}
    (h : Sends P p) (hr : Runs p tr a) : ∀ ex ∈ tr, P ex.1 := by
  induction hr with
  | ret => exact fun _ h => nomatch h
  | call _ ih =>
    cases h with
    | call hreq hk => exact List.forall_mem_cons.2 ⟨hreq, ih (hk _)⟩

theorem Sends.bind {P : Request → Prop} {p : Prog α} {f : α → Prog β} (h : Sends P p)
    (hf : ∀ a, Sends P (f a)) : Sends P (p >>= f) := by
  induction h with
  | ret a => exact hf a
  | call hreq _ ih => exact .call hreq ih

theorem Sends.mono {P Q : Request → Prop} {p : Prog α} (h : Sends P p)
    (hPQ : ∀ req, P req → Q req) : Sends Q p := by
  induction h with
  | ret a => exact .ret a
  | call hreq _ ih => exact .call (hPQ _ hreq) ih

theorem runs_exec (answer : (req : Request) → Except ApiError req.Payload) :
    ∀ p : Prog α, Runs p (exec answer p).1 (exec answer p).2
  | ret a => .ret a
  | call req k => .call (runs_exec answer (k (answer req)))

end Prog

/-- The result of a tick: `ctrl.Result`, by its `RequeueAfter` in seconds. -/
structure CtrlResult where
  requeueAfter : Nat := 0
  deriving DecidableEq, Repr

/-- A tick in Go's `(ctrl.Result, error)` convention. -/
abbrev Tick := ExceptT ApiError Prog

/-- A run of a tick `x >>= f`: `x` succeeds and `f` runs on its result, or `x` fails and the tick
ends with its error. -/
theorem runs_tick_bind {α β : Type} {x : Tick α} {f : α → Tick β} {tr : List Prog.Exchange}
    {r : Except ApiError β} :
    Prog.Runs (x >>= f).run tr r ↔
      (∃ tr₁ tr₂ a, tr = tr₁ ++ tr₂ ∧ Prog.Runs x.run tr₁ (.ok a) ∧ Prog.Runs (f a).run tr₂ r) ∨
        ∃ e, Prog.Runs x.run tr (.error e) ∧ r = .error e := by
  rw [ExceptT.run_bind, Prog.runs_bind_iff]
  constructor
  · rintro ⟨tr₁, tr₂, e | a, rfl, h₁, h₂⟩
    · obtain ⟨rfl, rfl⟩ := Prog.runs_ret_iff.1 h₂
      exact .inr ⟨e, by simpa using h₁, rfl⟩
    · exact .inl ⟨tr₁, tr₂, a, rfl, h₁, h₂⟩
  · rintro (⟨tr₁, tr₂, a, rfl, h₁, h₂⟩ | ⟨e, h₁, rfl⟩)
    · exact ⟨tr₁, tr₂, .ok a, rfl, h₁, h₂⟩
    · exact ⟨tr, [], .error e, by simp, h₁, .ret _⟩

theorem sends_tick_bind {α β : Type} {P : Request → Prop} {x : Tick α} {f : α → Tick β}
    (h : Prog.Sends P x.run) (hf : ∀ a, Prog.Sends P (f a).run) : Prog.Sends P (x >>= f).run :=
  h.bind fun
    | .ok a => hf a
    | .error _ => .ret _

/-- Sends a request, returning its error as the tick's. -/
def sendE (req : Request) : Tick req.Payload := ExceptT.mk (Prog.send req)

/-- Sends a request and returns its answer, error included, in a tick. -/
def sendRaw (req : Request) : Tick (Except ApiError req.Payload) := ExceptT.lift (Prog.send req)

/-- A local computation that may fail (a closure, `SetControllerReference`), in a tick. -/
def liftExcept {α : Type} (e : Except ApiError α) : Tick α := ExceptT.mk (.ret e)

@[simp] theorem liftExcept_ok_bind {α β : Type} (a : α) (f : α → Tick β) :
    (liftExcept (.ok a) >>= f) = f a :=
  rfl

@[simp] theorem runs_pure_iff {α : Type} {a : α} {tr : List Prog.Exchange} {r : Except ApiError α} :
    Prog.Runs (pure a : Tick α).run tr r ↔ tr = [] ∧ r = .ok a :=
  Prog.runs_ret_iff

@[simp] theorem runs_throw_iff {α : Type} {e : ApiError} {tr : List Prog.Exchange}
    {r : Except ApiError α} : Prog.Runs (throw e : Tick α).run tr r ↔ tr = [] ∧ r = .error e :=
  Prog.runs_ret_iff

@[simp] theorem runs_liftExcept_iff {α : Type} {e : Except ApiError α} {tr : List Prog.Exchange}
    {r : Except ApiError α} : Prog.Runs (liftExcept e).run tr r ↔ tr = [] ∧ r = e :=
  Prog.runs_ret_iff

/-- A run of `sendE req` is the one exchange, whose answer is the result. -/
@[simp] theorem runs_sendE_iff {req : Request} {tr : List Prog.Exchange}
    {r : Except ApiError req.Payload} : Prog.Runs (sendE req).run tr r ↔ tr = [⟨req, r⟩] := by
  constructor
  · rintro (_ | ⟨h⟩)
    cases h
    rfl
  · rintro rfl
    exact .call (.ret _)

/-- A tick that starts with a raw request sends it, then runs the rest on its answer. -/
theorem sendRaw_bind_run {β : Type} (req : Request) (f : Except ApiError req.Payload → Tick β) :
    (sendRaw req >>= f).run = .call req fun r => (f r).run :=
  rfl

/-- A tick that starts with a lifted program runs it, then the rest on its result. -/
theorem lift_bind_run {α β : Type} (p : Prog α) (f : α → Tick β) :
    (ExceptT.lift p >>= f).run = p >>= fun a => (f a).run := by
  rw [ExceptT.run_bind, ExceptT.run_lift, bind_map_left]

section SendsRules
variable {α β : Type} {P : Request → Prop}

theorem sends_lift {p : Prog α} (h : Prog.Sends P p) : Prog.Sends P (ExceptT.lift p : Tick α).run :=
  h.bind fun _ => .ret _

theorem sends_sendE {req : Request} (h : P req) : Prog.Sends P (sendE req).run :=
  .call h fun _ => .ret _

theorem sends_sendRaw {req : Request} (h : P req) : Prog.Sends P (sendRaw req).run :=
  sends_lift (.call h fun _ => .ret _)

theorem sends_sendRaw_bind {req : Request} {f : Except ApiError req.Payload → Tick β}
    (h : P req) (hf : ∀ r, Prog.Sends P (f r).run) : Prog.Sends P (sendRaw req >>= f).run :=
  .call h hf

end SendsRules

/-- `r.Get` with `client.IgnoreNotFound`: `none` when the object does not exist. -/
def getIgnoreNotFound (req : Request) : Tick (Option req.Payload) := do
  match ← sendRaw req with
  | .ok o => return some o
  | .error e => if e = .notFound then return none else throw e

theorem sends_getIgnoreNotFound {P : Request → Prop} {req : Request} (h : P req) :
    Prog.Sends P (getIgnoreNotFound req).run := by
  refine sends_sendRaw_bind h fun r => ?_
  cases r
  · dsimp only; split <;> exact .ret _
  · exact .ret _

/-- A Get, NotFound-tolerant, sends its one request; when it returns an object, that is the
answer. -/
theorem runs_getIgnoreNotFound {req : Request} {tr : List Prog.Exchange}
    {r : Except ApiError (Option req.Payload)} (h : Prog.Runs (getIgnoreNotFound req).run tr r) :
    ∃ v, tr = [⟨req, v⟩] ∧ ∀ a, r = .ok (some a) → v = .ok a := by
  unfold getIgnoreNotFound at h
  rw [sendRaw_bind_run, Prog.runs_call_iff] at h
  obtain ⟨v, tr, rfl, h⟩ := h
  cases v with
  | ok a =>
    obtain ⟨rfl, rfl⟩ := runs_pure_iff.1 h
    exact ⟨_, rfl, fun _ h => by cases h; rfl⟩
  | error e =>
    dsimp only at h
    split at h <;> obtain ⟨rfl, rfl⟩ := Prog.runs_ret_iff.1 h <;>
      exact ⟨_, rfl, fun _ h => nomatch h⟩

/-- A Get, NotFound-tolerant, whose object was found returns it. -/
theorem runs_getIgnoreNotFound_ok {req : Request} {a : req.Payload}
    {r : Except ApiError (Option req.Payload)}
    (h : Prog.Runs (getIgnoreNotFound req).run [⟨req, .ok a⟩] r) : r = .ok (some a) := by
  unfold getIgnoreNotFound at h
  rw [sendRaw_bind_run] at h
  cases h with
  | call h => exact (runs_pure_iff.1 h).2

/-- A run of a tick that reads the label, then its policy object, continues with the object read. -/
theorem runs_label_then_get_ok {β : Type} {get : Request} {f : String → Option get.Payload → Tick β}
    {l : String} {a : get.Payload} {rest : List Prog.Exchange} {r : Except ApiError β}
    (h : Prog.Runs (sendE .getOvercommitLabel >>= fun l => getIgnoreNotFound get >>= f l).run
      (⟨.getOvercommitLabel, .ok l⟩ :: ⟨get, .ok a⟩ :: rest) r) :
    Prog.Runs (f l (some a)).run rest r := by
  obtain _ | ⟨h⟩ := h
  obtain _ | ⟨h⟩ := h
  exact h

/-- `r.Delete` with `client.IgnoreNotFound`. -/
def deleteIgnoreNotFound (k : Kind) (name : String) : Tick Unit := do
  match ← sendRaw (.delete k name) with
  | .ok _ => return ()
  | .error e => if e = .notFound then return () else throw e

theorem sends_deleteIgnoreNotFound {P : Request → Prop} {k : Kind} {name : String}
    (h : P (.delete k name)) : Prog.Sends P (deleteIgnoreNotFound k name).run := by
  refine sends_sendRaw_bind h fun r => ?_
  cases r
  · dsimp only; split <;> exact .ret _
  · exact .ret _

/-- A tick whose Conflict error is logged and dropped (`errors.IsConflict`); any other error is
returned. -/
def ignoreConflict {α : Type} (x : Tick α) : Tick Unit := do
  match ← ExceptT.lift x.run with
  | .error e => if e = .conflict then pure () else throw e
  | .ok _ => pure ()

theorem sends_ignoreConflict {α : Type} {P : Request → Prop} {x : Tick α} (h : Prog.Sends P x.run) :
    Prog.Sends P (ignoreConflict x).run := by
  refine sends_tick_bind (sends_lift h) fun r => ?_
  cases r
  · dsimp only; split <;> exact .ret _
  · exact .ret _

/-- controller-runtime's `CreateOrUpdate`: read the object by its name (the key); when it does
not exist, run the closure on the templated object and create it; otherwise run the closure on the
object read, and update it unless the result is `equality.Semantic.DeepEqual` to the object read
(`Kind.semEqual`). The closure's result must keep the key (`mutate`). The result is what Go's
pointer holds afterwards: the object as the server last returned it, or the closure's result when
no Update was sent. -/
def createOrUpdate (k : Kind) (obj : k.Obj) (f : k.Obj → Except ApiError k.Obj) : Tick k.Obj := do
  match ← sendRaw (.get k obj.meta.name) with
  | .error e =>
    if e = .notFound then
      let obj' ← liftExcept (f obj)
      if obj'.meta.name ≠ obj.meta.name then
        throw (.other "MutateFn cannot mutate object name and/or namespace")
      sendE (.create k obj')
    else throw e
  | .ok existing =>
    let obj' ← liftExcept (f existing)
    if obj'.meta.name ≠ obj.meta.name then
      throw (.other "MutateFn cannot mutate object name and/or namespace")
    if k.semEqual existing obj' then return obj'
    sendE (.update k obj')

/-- `CreateOrUpdate` starts with the Get of its object. -/
theorem runs_createOrUpdate_head {k : Kind} {obj : k.Obj} {f : k.Obj → Except ApiError k.Obj}
    {tr : List Prog.Exchange} {r : Except ApiError k.Obj}
    (h : Prog.Runs (createOrUpdate k obj f).run tr r) :
    ∃ v tr', tr = ⟨.get k obj.meta.name, v⟩ :: tr' := by
  unfold createOrUpdate at h
  rw [sendRaw_bind_run, Prog.runs_call_iff] at h
  obtain ⟨v, tr', rfl, -⟩ := h
  exact ⟨v, tr', rfl⟩


/-- `CreateOrUpdate` sends its Get, and then at most a Create or an Update of its kind. -/
theorem sends_createOrUpdate {P : Request → Prop} {k : Kind} {obj : k.Obj}
    {f : k.Obj → Except ApiError k.Obj} (hget : P (.get k obj.meta.name))
    (hwrite : ∀ o, P (.create k o) ∧ P (.update k o)) :
    Prog.Sends P (createOrUpdate k obj f).run := by
  unfold createOrUpdate
  refine sends_sendRaw_bind hget fun r => ?_
  cases r with
  | error e =>
    dsimp only
    split
    · refine sends_tick_bind (.ret _) fun _ => ?_
      split
      exacts [.ret _, sends_sendE (hwrite _).1]
    · exact .ret _
  | ok existing =>
    refine sends_tick_bind (.ret _) fun _ => ?_
    dsimp only
    split
    · exact .ret _
    split
    exacts [.ret _, sends_sendE (hwrite _).2]

end OvercommitOperator
