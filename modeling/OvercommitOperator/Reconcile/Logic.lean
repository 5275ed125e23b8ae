import OvercommitOperator.Reconcile.Prog

/-!
# Ticks racing with the environment

A reconciler's tick is not atomic: between two of its requests, users and the garbage collector
change the cluster. `Triple A p Q` is a program logic for this setting. From a state where the
invariant `inv` and `A` hold, every request `p` sends keeps `inv` whatever the server answers, and
leaves an assertion for the rest of `p` that no environment step falsifies (`Stable`); `Q` holds of
the result. The rules (`pre`, `post`, `bind`, and their forms for `Tick`) are what the client proofs
use, never the tree of the program.

`Reachable` is the run of the whole system: ticks of one program, started one after another and
serialised as controller-runtime serialises the ticks of one key, each request answered by a
server step `serves`, with environment steps `env` anywhere. `Reachable.sound` is the soundness
theorem: when the tick satisfies a triple from `True`, every reachable state satisfies `inv`.
-/

namespace OvercommitOperator

section Logic
variable {S : Type} (serves : (req : Request) → Except ApiError req.Payload → S → S → Prop)
  (env : S → S → Prop) (inv : S → Prop)

/-- An assertion no environment step falsifies, from a state of the invariant. -/
def Stable (A : S → Prop) : Prop := ∀ ⦃s s'⦄, inv s → env s s' → A s → A s'

/-- `Triple A p Q`: from a state where `inv` and `A` hold, each request of `p` keeps `inv` and
establishes a stable assertion for the rest of `p`, whatever the answer; `Q` holds at the end. -/
inductive Triple {α : Type} : (S → Prop) → Prog α → (α → S → Prop) → Prop
  | ret {A : S → Prop} {Q : α → S → Prop} {a : α} :
      (∀ s, inv s → A s → Q a s) → Triple A (.ret a) Q
  | call {A : S → Prop} {Q : α → S → Prop} {req : Request}
      {k : Except ApiError req.Payload → Prog α} (B : Except ApiError req.Payload → S → Prop) :
      (∀ r s s', inv s → A s → serves req r s s' → inv s' ∧ B r s') →
      (∀ r, Stable env inv (B r)) → (∀ r, Triple (B r) (k r) Q) → Triple A (.call req k) Q

/-- A triple for a tick: its post-assertion holds when the tick succeeds; a failed tick ends with
no promise. -/
def TickTriple {α : Type} (A : S → Prop) (x : Tick α) (Q : α → S → Prop) : Prop :=
  Triple serves env inv A x.run fun r s => ∀ a, r = .ok a → Q a s

variable {serves env inv} {α β : Type} {A A' : S → Prop} {Q Q' : α → S → Prop}

theorem stable_true : Stable env inv fun _ => True := fun _ _ _ _ h => h

theorem stable_const (P : Prop) : Stable env inv fun _ => P := fun _ _ _ _ h => h

namespace Triple

/-- Strengthening the precondition. -/
theorem pre {p : Prog α} (h : Triple serves env inv A p Q) (hA : ∀ s, inv s → A' s → A s) :
    Triple serves env inv A' p Q := by
  cases h with
  | ret hq => exact .ret fun s hi ha => hq s hi (hA s hi ha)
  | call B hB hs hk => exact .call B (fun r s s' hi ha => hB r s s' hi (hA s hi ha)) hs hk

/-- Weakening the postcondition. -/
theorem post {p : Prog α} (h : Triple serves env inv A p Q) (hQ : ∀ a s, inv s → Q a s → Q' a s) :
    Triple serves env inv A p Q' := by
  induction h with
  | ret hq => exact .ret fun s hi ha => hQ _ s hi (hq s hi ha)
  | call B hB hs _ ih => exact .call B hB hs fun r => ih r hQ

/-- A program run from no state at all satisfies every triple. -/
theorem of_false (p : Prog α) : Triple serves env inv (fun _ => False) p Q := by
  induction p with
  | ret a => exact .ret fun _ _ h => h.elim
  | call req k ih =>
    exact .call (fun _ _ => False) (fun _ _ _ _ h => h.elim) (fun _ => stable_const False) ih

/-- Sequencing: the postcondition of the first program is the precondition of the second. -/
theorem bind {p : Prog α} {f : α → Prog β} {R : β → S → Prop} (h : Triple serves env inv A p Q)
    (hf : ∀ a, Triple serves env inv (Q a) (f a) R) : Triple serves env inv A (p >>= f) R := by
  induction h with
  | ret hq => exact (hf _).pre hq
  | call B hB hs _ ih => exact .call B hB hs fun r => ih r hf

end Triple

namespace TickTriple

theorem pre {x : Tick α} (h : TickTriple serves env inv A x Q) (hA : ∀ s, inv s → A' s → A s) :
    TickTriple serves env inv A' x Q :=
  Triple.pre h hA

theorem post {x : Tick α} (h : TickTriple serves env inv A x Q)
    (hQ : ∀ a s, inv s → Q a s → Q' a s) : TickTriple serves env inv A x Q' :=
  Triple.post h fun _ s hi hq a ha => hQ a s hi (hq a ha)

/-- A fact of the precondition that does not depend on the state may be assumed. -/
theorem pure_pre {P : Prop} {x : Tick α} (h : P → TickTriple serves env inv A x Q) :
    TickTriple serves env inv (fun s => P ∧ A s) x Q := by
  by_cases hP : P
  · exact (h hP).pre fun _ _ h => h.2
  · exact (Triple.of_false _).pre fun _ _ h => hP h.1

theorem bind {x : Tick α} {f : α → Tick β} {R : β → S → Prop} (h : TickTriple serves env inv A x Q)
    (hf : ∀ a, TickTriple serves env inv (Q a) (f a) R) : TickTriple serves env inv A (x >>= f) R :=
  Triple.bind h fun
    | .ok a => (hf a).pre fun _ _ hq => hq a rfl
    | .error _ => .ret fun _ _ _ _ h => nomatch h

theorem pure' {a : α} (h : ∀ s, inv s → A s → Q a s) :
    TickTriple serves env inv A (pure a : Tick α) Q :=
  .ret fun s hi ha _ h' => by cases h'; exact h s hi ha

theorem throw' {e : ApiError} : TickTriple serves env inv A (throw e : Tick α) Q :=
  .ret fun _ _ _ _ h => nomatch h

/-- A local computation leaves the state, so its precondition, as it is. -/
theorem liftExcept {e : Except ApiError α} :
    TickTriple serves env inv A (liftExcept e) fun a s => A s ∧ e = .ok a :=
  .ret fun _ _ ha _ h => ⟨ha, h⟩

/-- A request that returns its error as the tick's: the rule of `Triple.call`. -/
theorem sendE {req : Request} (B : Except ApiError req.Payload → S → Prop)
    (hB : ∀ r s s', inv s → A s → serves req r s s' → inv s' ∧ B r s')
    (hs : ∀ r, Stable env inv (B r)) :
    TickTriple serves env inv A (sendE req) fun a => B (.ok a) :=
  .call B hB hs fun _ => .ret fun _ _ hb _ ha => by cases ha; exact hb

/-- A request whose error the tick handles itself. -/
theorem sendRaw {req : Request} (B : Except ApiError req.Payload → S → Prop)
    (hB : ∀ r s s', inv s → A s → serves req r s s' → inv s' ∧ B r s')
    (hs : ∀ r, Stable env inv (B r)) :
    TickTriple serves env inv A (sendRaw req) B :=
  .call B hB hs fun _ => .ret fun _ _ hb _ ha => by cases ha; exact hb

end TickTriple

end Logic

/-! ## Interleaved runs -/

section Runs
variable {S β : Type} (serves : (req : Request) → Except ApiError req.Payload → S → S → Prop)
  (env : S → S → Prop) (inv : S → Prop)

/-- The system: the state, and the tick in flight, if any. -/
structure Config (S β : Type) where
  state : S
  tick : Option (Prog β)

variable (tick : Prog β)

/-- A step of the system: a tick starts when none is in flight, sends a request the server
answers, or ends; or the environment moves. -/
inductive Step : Config S β → Config S β → Prop
  | start {s : S} : Step ⟨s, none⟩ ⟨s, some tick⟩
  | call {s s' : S} {req : Request} {k : Except ApiError req.Payload → Prog β}
      {r : Except ApiError req.Payload} :
      serves req r s s' → Step ⟨s, some (.call req k)⟩ ⟨s', some (k r)⟩
  | finish {s : S} {b : β} : Step ⟨s, some (.ret b)⟩ ⟨s, none⟩
  | env {s s' : S} {t : Option (Prog β)} : env s s' → Step ⟨s, t⟩ ⟨s', t⟩

/-- The configurations reachable from a state of `init` with no tick in flight. -/
inductive Reachable (init : S → Prop) : Config S β → Prop
  | init {s : S} : init s → Reachable init ⟨s, none⟩
  | step {c c' : Config S β} : Reachable init c → Step serves env tick c c' → Reachable init c'

/-- The invariant of the system: `inv`, and a stable assertion the tick in flight was proved
from. -/
def Safe (R : β → S → Prop) (c : Config S β) : Prop :=
  inv c.state ∧ ∀ p, c.tick = some p → ∃ A, Stable env inv A ∧ A c.state ∧ Triple serves env inv A p R

variable {serves env inv tick}

theorem Safe.step {R : β → S → Prop} {c c' : Config S β}
    (henv : ∀ s s', inv s → env s s' → inv s') (htick : Triple serves env inv (fun _ => True) tick R)
    (hc : Safe serves env inv R c) (h : Step serves env tick c c') : Safe serves env inv R c' := by
  obtain ⟨hi, ht⟩ := hc
  cases h with
  | start => exact ⟨hi, fun p hp => ⟨_, stable_true, trivial, Option.some_injective _ hp ▸ htick⟩⟩
  | call hs =>
    obtain ⟨A, -, ha, hp⟩ := ht _ rfl
    cases hp with
    | call B hB hst hk =>
      obtain ⟨hi', hb⟩ := hB _ _ _ hi ha hs
      exact ⟨hi', fun p hp => ⟨_, hst _, hb, Option.some_injective _ hp ▸ hk _⟩⟩
  | finish => exact ⟨hi, fun _ hp => nomatch hp⟩
  | env he =>
    refine ⟨henv _ _ hi he, fun p hp => ?_⟩
    obtain ⟨A, hA, ha, hp⟩ := ht p hp
    exact ⟨A, hA, hA hi he ha, hp⟩

/-- **Soundness.** When the invariant holds initially, is kept by the environment, and the tick
satisfies a triple from `True`, every reachable configuration satisfies the invariant. -/
theorem Reachable.sound {init : S → Prop} {R : β → S → Prop} {c : Config S β}
    (hinit : ∀ s, init s → inv s) (henv : ∀ s s', inv s → env s s' → inv s')
    (htick : Triple serves env inv (fun _ => True) tick R) (h : Reachable serves env tick init c) :
    inv c.state := by
  suffices Safe serves env inv R c from this.1
  induction h with
  | init hs => exact ⟨hinit _ hs, fun _ hp => nomatch hp⟩
  | step _ hstep ih => exact ih.step henv htick hstep

end Runs

/-! ## Runs served one request after another

With no environment step between its requests, a run of a tick is its exchanges answered by the
server in order (`Served`), and successful ticks follow one another (`Ticks`). A triple gives the
state a served run leaves (`Triple.served`).
-/

section Served
variable {S : Type} (serves : (req : Request) → Except ApiError req.Payload → S → S → Prop)

/-- The server takes the state from `s` to `s'` answering the exchanges of `tr` in order. -/
inductive Served : List Prog.Exchange → S → S → Prop
  | nil {s : S} : Served [] s s
  | cons {req : Request} {r : Except ApiError req.Payload} {tr : List Prog.Exchange} {s s₁ s' : S} :
      serves req r s s₁ → Served tr s₁ s' → Served (⟨req, r⟩ :: tr) s s'

/-- Successful ticks of `x`, one after another, each served from the state the one before left. -/
inductive Ticks {α : Type} (x : Tick α) : S → List (List Prog.Exchange) → S → Prop
  | nil {s : S} : Ticks x s [] s
  | cons {tr : List Prog.Exchange} {a : α} {s s₁ s' : S} {trs : List (List Prog.Exchange)} :
      Prog.Runs x.run tr (.ok a) → Served serves tr s s₁ → Ticks x s₁ trs s' →
      Ticks x s (tr :: trs) s'

variable {serves}

theorem served_append {tr₁ tr₂ : List Prog.Exchange} {s s' : S} :
    Served serves (tr₁ ++ tr₂) s s' ↔ ∃ s₁, Served serves tr₁ s s₁ ∧ Served serves tr₂ s₁ s' := by
  induction tr₁ generalizing s with
  | nil => exact ⟨fun h => ⟨s, .nil, h⟩, fun ⟨_, h₁, h₂⟩ => by cases h₁; exact h₂⟩
  | cons ex tr ih =>
    obtain ⟨req, r⟩ := ex
    constructor
    · rintro (_ | ⟨hs, h⟩)
      obtain ⟨s₁, h₁, h₂⟩ := ih.1 h
      exact ⟨s₁, .cons hs h₁, h₂⟩
    · rintro ⟨s₁, _ | ⟨hs, h₁⟩, h₂⟩
      exact .cons hs (ih.2 ⟨s₁, h₁, h₂⟩)

/-- **A triple holds of every served run**: from a state of `inv` and `A`, the run leaves a state
of `inv` and of the postcondition. -/
theorem Triple.served {env : S → S → Prop} {inv : S → Prop} {α : Type} {A : S → Prop}
    {Q : α → S → Prop} {p : Prog α} (h : Triple serves env inv A p Q) {tr : List Prog.Exchange}
    {a : α} {s s' : S} (hr : Prog.Runs p tr a) (hs : Served serves tr s s') (hi : inv s)
    (hA : A s) : inv s' ∧ Q a s' := by
  induction hr generalizing A s with
  | ret a =>
    cases hs
    cases h with
    | ret hq => exact ⟨hi, hq _ hi hA⟩
  | call _ ih =>
    obtain _ | ⟨hsv, hs⟩ := hs
    cases h with
    | call B hB _ hk =>
      obtain ⟨hi', hb⟩ := hB _ _ _ hi hA hsv
      exact ih (hk _) hs hi' hb

theorem TickTriple.served {env : S → S → Prop} {inv : S → Prop} {α : Type} {A : S → Prop}
    {Q : α → S → Prop} {x : Tick α} (h : TickTriple serves env inv A x Q) {tr : List Prog.Exchange}
    {a : α} {s s' : S} (hr : Prog.Runs x.run tr (.ok a)) (hs : Served serves tr s s') (hi : inv s)
    (hA : A s) : Q a s' :=
  (Triple.served h hr hs hi hA).2 a rfl

end Served

end OvercommitOperator
