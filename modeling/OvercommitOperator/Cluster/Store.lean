import OvercommitOperator.Reconcile.Logic
import OvercommitOperator.Mutate.Laws

/-!
# Ticks against a store of objects

What the convergence proofs of both reconcilers share. A state holds objects by kind and name
(`ObjectStore`, with the two laws of a store), and the server's Gets, Creates and Updates of
objects act on it (`ObjectStore.Server`): a Get answers what is stored, and NotFound only for what
is absent; a write that succeeds stores what it was sent. With no other actor (`SoloTriple`):

* `CreateOrUpdate` with an idempotent closure leaves its object at a fixpoint of the closure, and
  writes no other object (`createOrUpdate_fixed`);
* `CreateOrUpdate` of an object stored at a fixpoint of its closure reads it and writes nothing
  (`createOrUpdate_quiet`). A tick all of whose steps are so is `Quiet`: every run of it leaves
  the state as it is and sends no request that writes an object or a spec, and successful ticks
  from such a state, at any times, leave it where it is (`Ticks.eq_of_quiet`,
  `TicksAt.eq_of_quiet`), and a tick quiet from every state of a precondition keeps it
  (`SoloTriple.of_quiet`). A quiet tick that moreover never fails is `Steady`; a lifted steady tick
  succeeds with its value.

A served run keeps what each of its exchanges keeps (`Served.keep`), whatever its result; ticks
each successful or not, one after another, are `TriesAt`.
-/

namespace OvercommitOperator

/-- A request that writes an object or the spec of a policy object: a Create, an Update or a
Delete of a managed object, an Update of the class or of the singleton. Reads, status updates and
sleeps are not. -/
def Request.writesSpec : Request → Bool
  | .create _ _ | .update _ _ | .delete _ _ | .updateClass _ | .updateOvercommitCR _ => true
  | _ => false

/-- A state holding objects by kind and name, with the two laws of a store. -/
structure ObjectStore (S : Type) where
  objects : S → (k : Kind) → String → Option k.Obj
  setObject : S → (k : Kind) → String → Option k.Obj → S
  objects_setObject_self : ∀ s k name x, objects (setObject s k name x) k name = x
  objects_setObject_of_ne : ∀ s k name x k' name', k' ≠ k ∨ name' ≠ name →
    objects (setObject s k name x) k' name' = objects s k' name'

/-- What an upsert leaves: the kind, the desired object, the closure, and the object stored. -/
structure Upsert where
  k : Kind
  obj : k.Obj
  f : k.Obj → Except ApiError k.Obj
  v : k.Obj

namespace ObjectStore
variable {S : Type} (st : ObjectStore S)

/-- The server's Gets, Creates and Updates of objects act on the store: a Get changes nothing,
answers the stored object, and NotFound only for an absent one; a Create or an Update that succeeds
stores the object it was sent and returns it. -/
structure Server (serves : (req : Request) → Except ApiError req.Payload → S → S → Prop) : Prop where
  get {k : Kind} {name : String} {r : Except ApiError k.Obj} {s s' : S} :
    serves (.get k name) r s s' → s' = s ∧ (∀ v, r = .ok v → st.objects s k name = some v) ∧
      (r = .error .notFound → st.objects s k name = none)
  create {k : Kind} {obj v : k.Obj} {s s' : S} :
    serves (.create k obj) (.ok v) s s' → v = obj ∧ s' = st.setObject s k obj.meta.name (some v)
  update {k : Kind} {obj v : k.Obj} {s s' : S} :
    serves (.update k obj) (.ok v) s s' → v = obj ∧ s' = st.setObject s k obj.meta.name (some v)

/-- The object of kind `k` under `obj`'s name is stored as `w`, which the closure `f` takes to
`v`: `v` keeps `obj`'s name and is `DeepEqual` to `w`. `CreateOrUpdate` of `obj` then writes
nothing and returns `v` (`createOrUpdate_quiet`); when `v` is `w` itself, `w` is a fixpoint of
`f`. -/
def Fixed (s : S) (k : Kind) (obj : k.Obj) (f : k.Obj → Except ApiError k.Obj) (v : k.Obj) :
    Prop :=
  ∃ w, st.objects s k obj.meta.name = some w ∧ v.meta.name = obj.meta.name ∧ f w = .ok v ∧
    k.semEqual w v = true

variable {st}

/-- Writing another object keeps a fixpoint. -/
theorem Fixed.setObject {s : S} {k k' : Kind} {obj : k.Obj} {f : k.Obj → Except ApiError k.Obj}
    {v : k.Obj} {name : String} (h : st.Fixed s k obj f v) (hne : k ≠ k' ∨ obj.meta.name ≠ name)
    (x : Option k'.Obj) : st.Fixed (st.setObject s k' name x) k obj f v := by
  rw [Fixed, st.objects_setObject_of_ne _ _ _ _ _ _ hne]
  exact h

variable (st) in
/-- Every object of the list is stored at a fixpoint of its closure. -/
def AllFixed (s : S) (L : List Upsert) : Prop := ∀ u ∈ L, st.Fixed s u.k u.obj u.f u.v

/-- Writing an object named apart from those of the list keeps them at their fixpoints. -/
theorem AllFixed.setObject {s : S} {L : List Upsert} {k' : Kind} {name : String}
    (h : st.AllFixed s L) (hne : ∀ u ∈ L, u.k ≠ k' ∨ u.obj.meta.name ≠ name) (x : Option k'.Obj) :
    st.AllFixed (st.setObject s k' name x) L :=
  fun u hu => (h u hu).setObject (hne u hu) x

/-- Fixpoints are a property of the objects alone. -/
theorem AllFixed.of_objects_eq {s s' : S} {L : List Upsert} (h : st.AllFixed s L)
    (hobj : st.objects s' = st.objects s) : st.AllFixed s' L := fun u hu =>
  let ⟨w, h₁, h₂⟩ := h u hu
  ⟨w, (congrFun (congrFun hobj u.k) _).trans h₁, h₂⟩

end ObjectStore

/-- A served run that starts with an exchange: the server's step, then the rest. -/
theorem served_cons_iff {S : Type} {serves : (req : Request) → Except ApiError req.Payload → S → S → Prop}
    {ex : Prog.Exchange} {tr : List Prog.Exchange} {s s' : S} :
    Served serves (ex :: tr) s s' ↔ ∃ s₁, serves ex.1 ex.2 s s₁ ∧ Served serves tr s₁ s' :=
  ⟨fun h => by cases h with | cons h₁ h₂ => exact ⟨_, h₁, h₂⟩, fun ⟨_, h₁, h₂⟩ => .cons h₁ h₂⟩

/-- A served run keeps what each of its exchanges, as the server answers it, keeps. -/
theorem Served.keep {S : Type} {serves : (req : Request) → Except ApiError req.Payload → S → S → Prop}
    {P : S → Prop} {tr : List Prog.Exchange} {s s' : S}
    (hstep : ∀ ex ∈ tr, ∀ s₁ s₂, serves ex.1 ex.2 s₁ s₂ → P s₁ → P s₂)
    (hs : Served serves tr s s') (h : P s) : P s' := by
  induction hs with
  | nil => exact h
  | cons hsv _ ih =>
    exact ih (fun ex hex => hstep ex (List.mem_cons_of_mem _ hex))
      (hstep _ (List.mem_cons_self _ _) _ _ hsv h)

/-! ## Ticks with no other actor -/

section Solo
variable {S : Type} (serves : (req : Request) → Except ApiError req.Payload → S → S → Prop)

/-- A triple of a tick with no other actor: no environment step, and no invariant. -/
abbrev SoloTriple {α : Type} (A : S → Prop) (x : Tick α) (Q : α → S → Prop) : Prop :=
  TickTriple serves (fun _ _ => False) (fun _ => True) A x Q

variable {serves}

theorem stable_noEnv (A : S → Prop) : Stable (fun _ _ : S => False) (fun _ => True) A :=
  fun _ _ _ h => h.elim

/-- A request the server answers without changing the state keeps every precondition. -/
theorem SoloTriple.sendRaw_keep {req : Request} {A : S → Prop}
    (hkeep : ∀ r s s', serves req r s s' → s' = s) : SoloTriple serves A (sendRaw req) fun _ => A :=
  TickTriple.sendRaw (fun _ => A) (fun r s s' _ hA hs => by cases hkeep r s s' hs; exact ⟨trivial, hA⟩)
    fun _ => stable_noEnv _

theorem SoloTriple.sendE_keep {req : Request} {A : S → Prop}
    (hkeep : ∀ r s s', serves req r s s' → s' = s) : SoloTriple serves A (sendE req) fun _ => A :=
  TickTriple.sendE (fun _ => A) (fun r s s' _ hA hs => by cases hkeep r s s' hs; exact ⟨trivial, hA⟩)
    fun _ => stable_noEnv _

/-- With no other actor, a triple is what the served runs show: a property of the end of every
run from a state of the precondition. -/
theorem Triple.of_served {α : Type} {p : Prog α} {A : S → Prop} {Q : α → S → Prop}
    (h : ∀ s, A s → ∀ tr a s', Prog.Runs p tr a → Served serves tr s s' → Q a s') :
    Triple serves (fun _ _ => False) (fun _ => True) A p Q := by
  induction p generalizing A with
  | ret a => exact .ret fun s _ hA => h s hA [] a s (.ret a) .nil
  | call req k ih =>
    refine .call (fun r s' => ∃ s, A s ∧ serves req r s s') (fun r s s' _ hA hs => ⟨trivial, s, hA, hs⟩)
      (fun _ => stable_noEnv _) fun r => ih r fun s₁ ⟨s, hA, hs⟩ tr a s' hr hs' =>
        h s hA _ a s' (.call hr) (.cons hs hs')

/-- A precondition that hides a value is split into one triple for each value. -/
theorem SoloTriple.exists_pre {α ι : Type} {x : Tick α} {A : ι → S → Prop} {Q : α → S → Prop}
    (h : ∀ i, SoloTriple serves (A i) x Q) : SoloTriple serves (fun s => ∃ i, A i s) x Q :=
  Triple.of_served fun _ ⟨i, hA⟩ _ _ _ hr hs a ha => by
    subst ha
    exact TickTriple.served (h i) hr hs trivial hA

/-- A lifted program: its result is the tick's value. -/
theorem TickTriple.lift {α : Type} {p : Prog (Except ApiError α)} {A : S → Prop}
    {Q : Except ApiError α → S → Prop}
    (h : Triple serves (fun _ _ => False) (fun _ => True) A p Q) :
    SoloTriple serves A (ExceptT.lift p) Q := by
  unfold SoloTriple TickTriple
  rw [ExceptT.run_lift, ← bind_pure_comp]
  exact h.bind fun r => .ret fun _ _ hq _ h' => by cases h'; exact hq

/-- `ignoreConflict` of a tick: what holds after its success or after a run that failed with a
Conflict holds after it. -/
theorem SoloTriple.ignoreConflict_of_keep {α : Type} {x : Tick α} {A A' : S → Prop}
    {Q : α → S → Prop} (h : SoloTriple serves A x Q) (hQ : ∀ a s, Q a s → A' s)
    (herr : ∀ s, A s → ∀ tr s', Prog.Runs x.run tr (.error .conflict) → Served serves tr s s' → A' s') :
    SoloTriple serves A (OvercommitOperator.ignoreConflict x) fun _ => A' := by
  unfold OvercommitOperator.ignoreConflict
  refine TickTriple.bind (TickTriple.lift (Triple.of_served
    (Q := fun r s => (r = .error .conflict → A' s) ∧ ∀ a, r = .ok a → Q a s)
    fun s hA tr r s' hr hs => ⟨fun hc => ?_, fun a ha => ?_⟩)) fun r => ?_
  · subst hc
    exact herr s hA tr s' hr hs
  · subst ha
    exact TickTriple.served h hr hs trivial hA
  cases r with
  | ok a => exact TickTriple.pure' fun _ _ ⟨_, hq⟩ => hQ a _ (hq a rfl)
  | error e =>
    dsimp only
    split
    · next he => exact TickTriple.pure' fun _ _ ⟨hc, _⟩ => hc (he ▸ rfl)
    · exact TickTriple.throw'

/-- A tick whose failures are never a conflict: `ignoreConflict` of it succeeds only when it
does. -/
theorem SoloTriple.ignoreConflict {α : Type} {x : Tick α} {A : S → Prop} {Q : α → S → Prop}
    (h : SoloTriple serves A x Q)
    (hnc : ∀ s, A s → ∀ tr s', Prog.Runs x.run tr (.error .conflict) → Served serves tr s s' → False) :
    SoloTriple serves A (OvercommitOperator.ignoreConflict x) fun _ s => ∃ a, Q a s :=
  h.ignoreConflict_of_keep (fun a _ hq => ⟨a, hq⟩) fun s hA tr s' hr hs => (hnc s hA tr s' hr hs).elim

end Solo

/-! ## `CreateOrUpdate` reaches a fixpoint -/

section Upsert
variable {S : Type} {st : ObjectStore S}
  {serves : (req : Request) → Except ApiError req.Payload → S → S → Prop}
  {k : Kind} {obj obj' x : k.Obj} {f : k.Obj → Except ApiError k.Obj} {P : S → Prop}

/-- A write of the closure's result `obj'` that the server stores leaves it at a fixpoint of an
idempotent closure. -/
theorem fixed_of_write (hf : Idempotent f)
    (hP : ∀ s v, P s → P (st.setObject s k obj.meta.name (some v)))
    (hname : obj'.meta.name = obj.meta.name) {s s' : S} {v : k.Obj}
    (hs : v = obj' ∧ s' = st.setObject s k obj'.meta.name (some v)) (hPs : P s)
    (hx : f x = .ok obj') : P s' ∧ st.Fixed s' k obj f v := by
  obtain ⟨rfl, rfl⟩ := hs
  rw [hname]
  exact ⟨hP _ _ hPs, _, st.objects_setObject_self _ _ _ _, hname, hf _ _ hx, k.semEqual_refl _⟩

theorem sendE_create_fixed (hsv : st.Server serves) (hf : Idempotent f)
    (hP : ∀ s v, P s → P (st.setObject s k obj.meta.name (some v)))
    (hname : obj'.meta.name = obj.meta.name) :
    SoloTriple serves (fun s => P s ∧ f x = .ok obj') (sendE (.create k obj'))
      fun v s => P s ∧ st.Fixed s k obj f v :=
  (TickTriple.sendE (fun (r : Except ApiError (Request.create k obj').Payload) s =>
      ∀ v : k.Obj, r = .ok v → P s ∧ st.Fixed s k obj f v)
    (fun r s s' _ ⟨hPs, hx⟩ hs => ⟨trivial, fun v hv => by
      subst hv; exact fixed_of_write hf hP hname (hsv.create hs) hPs hx⟩)
    fun _ => stable_noEnv _).post fun v _ _ h => h v rfl

theorem sendE_update_fixed (hsv : st.Server serves) (hf : Idempotent f)
    (hP : ∀ s v, P s → P (st.setObject s k obj.meta.name (some v)))
    (hname : obj'.meta.name = obj.meta.name) :
    SoloTriple serves (fun s => P s ∧ f x = .ok obj') (sendE (.update k obj'))
      fun v s => P s ∧ st.Fixed s k obj f v :=
  (TickTriple.sendE (fun (r : Except ApiError (Request.update k obj').Payload) s =>
      ∀ v : k.Obj, r = .ok v → P s ∧ st.Fixed s k obj f v)
    (fun r s s' _ ⟨hPs, hx⟩ hs => ⟨trivial, fun v hv => by
      subst hv; exact fixed_of_write hf hP hname (hsv.update hs) hPs hx⟩)
    fun _ => stable_noEnv _).post fun v _ _ h => h v rfl

/-- **`CreateOrUpdate` leaves its object at a fixpoint** of an idempotent closure, and writes no
other object. -/
theorem createOrUpdate_fixed (hsv : st.Server serves) (hf : Idempotent f)
    (hP : ∀ s v, P s → P (st.setObject s k obj.meta.name (some v))) :
    SoloTriple serves P (createOrUpdate k obj f) fun v s => P s ∧ st.Fixed s k obj f v := by
  unfold createOrUpdate
  refine TickTriple.bind (TickTriple.sendRaw
      (fun (r : Except ApiError (Request.get k obj.meta.name).Payload) s =>
        P s ∧ ∀ e : k.Obj, r = .ok e → st.objects s k obj.meta.name = some e)
      (fun r s s' _ hPs h => ?_) fun _ => stable_noEnv _) fun r => ?_
  · obtain ⟨rfl, hok, -⟩ := hsv.get h
    exact ⟨trivial, hPs, hok⟩
  cases r with
  | error e =>
    dsimp only
    split
    · refine TickTriple.liftExcept.bind fun obj' => ?_
      split
      · simp only [ExceptT.bind_throw]; exact TickTriple.throw'
      · next hname =>
        exact (sendE_create_fixed hsv hf hP (not_not.1 hname)).pre fun _ _ ⟨⟨h, _⟩, hx⟩ => ⟨h, hx⟩
    · exact TickTriple.throw'
  | ok existing =>
    refine TickTriple.liftExcept.bind fun obj' => ?_
    dsimp only
    split
    · simp only [ExceptT.bind_throw]; exact TickTriple.throw'
    · next hname =>
      simp only [pure_bind]
      split
      · next hsem =>
        exact TickTriple.pure' fun _ _ ⟨⟨hPs, hst⟩, hx⟩ =>
          ⟨hPs, existing, hst _ rfl, not_not.1 hname, hx, hsem⟩
      · exact (sendE_update_fixed hsv hf hP (not_not.1 hname)).pre fun _ _ ⟨⟨h, _⟩, hx⟩ => ⟨h, hx⟩

/-- `CreateOrUpdate` of an object named apart from those of `L` keeps them at their fixpoints and
adds its own. -/
theorem createOrUpdate_allFixed (hsv : st.Server serves) (hf : Idempotent f) {L : List Upsert}
    (hne : ∀ u ∈ L, u.k ≠ k ∨ u.obj.meta.name ≠ obj.meta.name)
    (hP : ∀ s v, P s → P (st.setObject s k obj.meta.name (some v))) :
    SoloTriple serves (fun s => P s ∧ st.AllFixed s L) (createOrUpdate k obj f)
      fun v s => P s ∧ st.AllFixed s (⟨k, obj, f, v⟩ :: L) :=
  (createOrUpdate_fixed hsv hf fun s v ⟨hp, hl⟩ => ⟨hP s v hp, hl.setObject hne _⟩).post
    fun _ _ _ ⟨⟨hp, hl⟩, hfix⟩ => ⟨hp, List.forall_mem_cons.2 ⟨hfix, hl⟩⟩

end Upsert

/-! ## Quiet ticks -/

section Quiet
variable {S : Type} {serves : (req : Request) → Except ApiError req.Payload → S → S → Prop}
  {α β : Type} {s : S}

variable (serves) in
/-- From `s`, every served run of `x` leaves `s` as it is and sends no request that writes an
object or a spec; a result it returns satisfies `R`. -/
def Quiet (s : S) (x : Tick α) (R : α → Prop) : Prop :=
  ∀ tr r s', Prog.Runs x.run tr r → Served serves tr s s' →
    s' = s ∧ (∀ ex ∈ tr, ex.1.writesSpec = false) ∧ ∀ a, r = .ok a → R a

namespace Quiet

theorem pure' {a : α} {R : α → Prop} (h : R a) : Quiet serves s (pure a) R := by
  intro tr r s' hr hs
  obtain ⟨rfl, rfl⟩ := runs_pure_iff.1 hr
  cases hs
  exact ⟨rfl, (fun _ h => nomatch h), fun _ ha => by cases ha; exact h⟩

theorem throw' {e : ApiError} {R : α → Prop} : Quiet serves s (throw e : Tick α) R := by
  intro tr r s' hr hs
  obtain ⟨rfl, rfl⟩ := runs_throw_iff.1 hr
  cases hs
  exact ⟨rfl, (fun _ h => nomatch h), fun _ ha => nomatch ha⟩

theorem bind {x : Tick α} {f : α → Tick β} {R : α → Prop} {R' : β → Prop}
    (h : Quiet serves s x R) (hf : ∀ a, R a → Quiet serves s (f a) R') :
    Quiet serves s (x >>= f) R' := by
  intro tr r s' hr hs
  rcases runs_tick_bind.1 hr with ⟨tr₁, tr₂, a, rfl, h₁, h₂⟩ | ⟨e, h₁, rfl⟩
  · obtain ⟨s₁, hs₁, hs₂⟩ := served_append.1 hs
    obtain ⟨rfl, hw₁, ha⟩ := h _ _ _ h₁ hs₁
    obtain ⟨rfl, hw₂, hb⟩ := hf a (ha a rfl) _ _ _ h₂ hs₂
    exact ⟨rfl, fun ex hex => (List.mem_append.1 hex).elim (hw₁ ex) (hw₂ ex), hb⟩
  · obtain ⟨rfl, hw, -⟩ := h _ _ _ h₁ hs
    exact ⟨rfl, hw, fun _ h => nomatch h⟩

/-- A request that writes no object or spec, answered with no change. -/
theorem sendRaw {req : Request} {R : Except ApiError req.Payload → Prop}
    (hw : req.writesSpec = false) (h : ∀ r s', serves req r s s' → s' = s ∧ R r) :
    Quiet serves s (OvercommitOperator.sendRaw req) R := by
  intro tr r s' hr hs
  obtain _ | ⟨hr⟩ := hr
  obtain ⟨⟩ := hr
  obtain _ | ⟨hsv, _ | _⟩ := hs
  obtain ⟨rfl, hR⟩ := h _ _ hsv
  exact ⟨rfl, List.forall_mem_singleton.2 hw, fun _ ha => by cases ha; exact hR⟩

/-- A lifted tick is as quiet as the tick, whether it succeeds or not. -/
theorem lift {x : Tick α} {R : α → Prop} (h : Quiet serves s x R) :
    Quiet serves s (ExceptT.lift x.run) fun r => ∀ a, r = .ok a → R a := by
  intro tr r s' hr hs
  rw [ExceptT.run_lift, ← bind_pure_comp, Prog.runs_bind_iff] at hr
  obtain ⟨tr₁, tr₂, b, rfl, h₁, h₂⟩ := hr
  obtain ⟨rfl, rfl⟩ := Prog.runs_ret_iff.1 h₂
  rw [List.append_nil] at hs ⊢
  obtain ⟨rfl, hw, hR⟩ := h _ _ _ h₁ hs
  exact ⟨rfl, hw, fun _ ha => by cases ha; exact hR⟩

theorem ignoreConflict {x : Tick α} {R : α → Prop} (h : Quiet serves s x R) :
    Quiet serves s (OvercommitOperator.ignoreConflict x) fun _ => True := by
  refine Quiet.bind h.lift fun r _ => ?_
  cases r
  · dsimp only
    split
    · exact Quiet.pure' trivial
    · exact Quiet.throw'
  · exact Quiet.pure' trivial

theorem sendE {req : Request} {R : req.Payload → Prop} (hw : req.writesSpec = false)
    (h : ∀ r s', serves req r s s' → s' = s ∧ ∀ a, r = .ok a → R a) :
    Quiet serves s (OvercommitOperator.sendE req) R := by
  intro tr r s' hr hs
  rw [runs_sendE_iff.1 hr] at hs ⊢
  obtain _ | ⟨hsv, _ | _⟩ := hs
  obtain ⟨rfl, hR⟩ := h _ _ hsv
  exact ⟨rfl, List.forall_mem_singleton.2 hw, hR⟩

end Quiet

/-- A tick quiet from every state of `A` keeps `A`, and returns what the quiet tick promises. -/
theorem SoloTriple.of_quiet {x : Tick α} {A : S → Prop} {R : α → Prop}
    (h : ∀ s, A s → Quiet serves s x R) : SoloTriple serves A x fun a s => R a ∧ A s :=
  Triple.of_served fun s hA _ _ _ hr hs => by
    obtain ⟨rfl, -, hR⟩ := h s hA _ _ _ hr hs
    exact fun a ha => ⟨hR a ha, hA⟩

/-- Successful ticks from a state where every tick is quiet leave it as it is. -/
theorem Ticks.eq_of_quiet {x : Tick α} {R : α → Prop} {s' : S} {trs : List (List Prog.Exchange)}
    (hq : Quiet serves s x R) (h : Ticks serves x s trs s') : s' = s := by
  induction h with
  | nil => rfl
  | cons hr hs _ ih =>
    obtain ⟨rfl, -⟩ := hq _ _ _ hr hs
    exact ih hq

variable (serves) in
/-- Successful ticks of `x`, each at its own time, one after another. -/
inductive TicksAt (x : Time → Tick α) : S → List (Time × List Prog.Exchange) → S → Prop
  | nil {s : S} : TicksAt x s [] s
  | cons {now : Time} {tr : List Prog.Exchange} {a : α} {s s₁ s' : S}
      {trs : List (Time × List Prog.Exchange)} :
      Prog.Runs (x now).run tr (.ok a) → Served serves tr s s₁ → TicksAt x s₁ trs s' →
      TicksAt x s ((now, tr) :: trs) s'

variable (serves) in
/-- Ticks of `x`, each at its own time, successful or not, one after another. -/
inductive TriesAt (x : Time → Tick α) : S → List (Time × List Prog.Exchange) → S → Prop
  | nil {s : S} : TriesAt x s [] s
  | cons {now : Time} {tr : List Prog.Exchange} {r : Except ApiError α} {s s₁ s' : S}
      {trs : List (Time × List Prog.Exchange)} :
      Prog.Runs (x now).run tr r → Served serves tr s s₁ → TriesAt x s₁ trs s' →
      TriesAt x s ((now, tr) :: trs) s'

/-- Successful ticks, at any times, from a state where every tick is quiet leave it as it is. -/
theorem TicksAt.eq_of_quiet {x : Time → Tick α} {R : α → Prop} {s' : S}
    {trs : List (Time × List Prog.Exchange)} (hq : ∀ now, Quiet serves s (x now) R)
    (h : TicksAt serves x s trs s') : s' = s := by
  induction h with
  | nil => rfl
  | cons hr hs _ ih =>
    obtain ⟨rfl, -⟩ := hq _ _ _ _ hr hs
    exact ih hq

/-- **`CreateOrUpdate` of an object stored at a fixpoint of its closure is quiet**: it reads the
object, the closure returns it unchanged, and nothing is written. -/
theorem createOrUpdate_quiet {st : ObjectStore S} (hsv : st.Server serves) {k : Kind}
    {obj v : k.Obj} {f : k.Obj → Except ApiError k.Obj} (hfix : st.Fixed s k obj f v) :
    Quiet serves s (createOrUpdate k obj f) (· = v) := by
  obtain ⟨w, hst, hname, hf, hsem⟩ := hfix
  unfold createOrUpdate
  refine Quiet.bind (Quiet.sendRaw (R := fun (r : Except ApiError (Request.get k obj.meta.name).Payload) =>
    r = .ok w ∨ ∃ e, e ≠ .notFound ∧ r = .error e) rfl fun r s' h => ?_) fun r hr => ?_
  · obtain ⟨rfl, hok, hnf⟩ := hsv.get h
    refine ⟨rfl, ?_⟩
    rcases r with e | v'
    · exact .inr ⟨e, (fun he => nomatch hst.symm.trans (hnf (he ▸ rfl))), rfl⟩
    · exact .inl (by rw [Option.some.inj ((hok v' rfl).symm.trans hst)])
  rcases hr with rfl | ⟨e, he, rfl⟩
  · dsimp only
    rw [hf, liftExcept_ok_bind]
    simp only [hname, hsem, ne_eq, not_true_eq_false, if_false, pure_bind, if_true]
    exact Quiet.pure' rfl
  · dsimp only
    rw [if_neg he]
    exact Quiet.throw'

/-! ## Steady ticks -/

variable (serves) in
/-- From `s`, a quiet tick that never fails. -/
structure Steady (s : S) (x : Tick α) (R : α → Prop) : Prop where
  quiet : Quiet serves s x R
  noError : ∀ tr e s', Prog.Runs x.run tr (.error e) → Served serves tr s s' → False

namespace Steady

theorem pure' {a : α} {R : α → Prop} (h : R a) : Steady serves s (pure a) R :=
  ⟨Quiet.pure' h, fun _ _ _ hr _ => nomatch (runs_pure_iff.1 hr).2⟩

theorem bind {x : Tick α} {f : α → Tick β} {R : α → Prop} {R' : β → Prop}
    (h : Steady serves s x R) (hf : ∀ a, R a → Steady serves s (f a) R') :
    Steady serves s (x >>= f) R' := by
  refine ⟨h.quiet.bind fun a ha => (hf a ha).quiet, fun tr e s' hr hs => ?_⟩
  rcases runs_tick_bind.1 hr with ⟨tr₁, tr₂, a, rfl, h₁, h₂⟩ | ⟨e, h₁, -⟩
  · obtain ⟨s₁, hs₁, hs₂⟩ := served_append.1 hs
    obtain ⟨rfl, -, ha⟩ := h.quiet _ _ _ h₁ hs₁
    exact (hf a (ha a rfl)).noError _ _ _ h₂ hs₂
  · exact h.noError _ _ _ h₁ hs

/-- A request answered with no change and never with an error. -/
theorem sendRaw {req : Request} {R : Except ApiError req.Payload → Prop}
    (hw : req.writesSpec = false) (h : ∀ r s', serves req r s s' → s' = s ∧ R r) :
    Steady serves s (OvercommitOperator.sendRaw req) R := by
  refine ⟨Quiet.sendRaw hw h, fun tr e s' hr _ => ?_⟩
  obtain _ | ⟨hr⟩ := hr
  obtain ⟨⟩ := hr

theorem sendE {req : Request} {R : req.Payload → Prop} (hw : req.writesSpec = false)
    (h : ∀ r s', serves req r s s' → s' = s ∧ ∃ a, r = .ok a ∧ R a) :
    Steady serves s (OvercommitOperator.sendE req) R := by
  refine ⟨Quiet.sendE hw fun r s' hs => ?_, fun tr e s' hr hs => ?_⟩
  · obtain ⟨h₁, a, rfl, hR⟩ := h r s' hs
    exact ⟨h₁, fun _ ha => by cases ha; exact hR⟩
  · rw [runs_sendE_iff.1 hr] at hs
    obtain _ | ⟨hsv, _⟩ := hs
    obtain ⟨-, _, h, -⟩ := h _ _ hsv
    cases h

/-- A lifted steady tick succeeds with the tick's value. -/
theorem lift {x : Tick α} {R : α → Prop} (h : Steady serves s x R) :
    Steady serves s (ExceptT.lift x.run) fun r => ∃ a, r = .ok a ∧ R a := by
  refine ⟨fun tr r s' hr hs => ?_, fun tr e s' hr _ => ?_⟩ <;>
    rw [ExceptT.run_lift, ← bind_pure_comp, Prog.runs_bind_iff] at hr <;>
    obtain ⟨tr₁, tr₂, b, rfl, h₁, h₂⟩ := hr
  · obtain ⟨rfl, rfl⟩ := Prog.runs_ret_iff.1 h₂
    rw [List.append_nil] at hs ⊢
    obtain ⟨rfl, hw, hR⟩ := h.quiet _ _ _ h₁ hs
    refine ⟨rfl, hw, fun _ hb => ?_⟩
    cases hb
    rcases b with e | a
    · exact (h.noError _ _ _ h₁ hs).elim
    · exact ⟨a, rfl, hR a rfl⟩
  · exact nomatch (Prog.runs_ret_iff.1 h₂).2

theorem ignoreConflict {x : Tick α} {R : α → Prop} (h : Steady serves s x R) :
    Steady serves s (OvercommitOperator.ignoreConflict x) fun _ => True :=
  h.lift.bind fun _ ⟨_, hr, _⟩ => by subst hr; exact Steady.pure' trivial

/-- Every served run of a steady tick with one possible value ends where it started, with that
value. -/
theorem runs_eq {x : Tick α} {b : α} (h : Steady serves s x (· = b)) {tr : List Prog.Exchange}
    {r : Except ApiError α} {s' : S} (hr : Prog.Runs x.run tr r) (hs : Served serves tr s s') :
    s' = s ∧ r = .ok b := by
  obtain ⟨hs', -, ha⟩ := h.quiet _ _ _ hr hs
  rcases r with e | a
  · exact (h.noError _ _ _ hr hs).elim
  · exact ⟨hs', by rw [ha a rfl]⟩

end Steady

end Quiet

end OvercommitOperator
