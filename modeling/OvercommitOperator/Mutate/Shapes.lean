import OvercommitOperator.Equality.Tolerations
import OvercommitOperator.Api.Controllerutil

/-!
# The two shapes of a mutate closure

Every closure the reconcilers hand to `controllerutil.CreateOrUpdate` is a function of the object
`CreateOrUpdate` read (the templated one when the read found nothing). Its create branch, taken
when the object's creation time is zero, assigns fields of the desired object (`Assign`) and sets
the policy object as controller. On an existing object a closure has one of two shapes:
`createOnly` returns it untouched, and `compareAndSet` assigns each owned field that does not
compare equal to the desired one (`Sync`) and sets the controller reference only when it assigned
one. `Assign` and `Sync` carry the laws the closure theorems rest on, so each kind proves them
once, next to its definition.
-/

namespace OvercommitOperator

variable {B : Type}

/-- One owned field of an existing object, `if !equal(desired, current) { current = desired }`:
the current value when it compares equal to the desired one, the desired value otherwise. -/
def syncValue {β : Type} (equal : β → β → Bool) (desired current : β) : β :=
  if equal desired current then current else desired

theorem equal_syncValue {β : Type} {equal : β → β → Bool} (hrefl : ∀ x, equal x x = true)
    (desired current : β) : equal desired (syncValue equal desired current) = true := by
  unfold syncValue; split <;> simp_all

theorem syncValue_of_equal {β : Type} {equal : β → β → Bool} {desired current : β}
    (h : equal desired current = true) : syncValue equal desired current = current := if_pos h

/-- `ctrl.SetControllerReference` on a whole object. -/
def withControllerReference (owner : Owner) (o : Object B) : Except ApiError (Object B) :=
  (setControllerReference owner o.meta).map fun meta => { o with meta := meta }

section ControllerReference
variable {p : Owner} {o o' : Object B}

theorem withControllerReference_eq_ok (h : withControllerReference p o = .ok o') :
    ∃ meta, setControllerReference p o.meta = .ok meta ∧ o' = { o with meta := meta } := by
  unfold withControllerReference at h
  cases hs : setControllerReference p o.meta with
  | error e => simp [hs, Except.map] at h
  | ok meta => simp only [hs, Except.map, Except.ok.injEq] at h; exact ⟨meta, rfl, h.symm⟩

theorem creationTimestamp_withControllerReference (h : withControllerReference p o = .ok o') :
    o'.meta.creationTimestamp = o.meta.creationTimestamp := by
  obtain ⟨meta, hs, rfl⟩ := withControllerReference_eq_ok h
  obtain ⟨rfl, -⟩ := setControllerReference_eq_ok hs
  rfl

theorem withControllerReference_ownerReferences (h : withControllerReference p o = .ok o') :
    o' = { o with meta.ownerReferences := o'.meta.ownerReferences } := by
  obtain ⟨meta, hs, rfl⟩ := withControllerReference_eq_ok h
  obtain ⟨rfl, -⟩ := setControllerReference_eq_ok hs
  rfl

theorem controlledBy_withControllerReference (h : withControllerReference p o = .ok o') :
    ControlledBy p o'.meta := by
  obtain ⟨meta, hs, rfl⟩ := withControllerReference_eq_ok h
  exact controlledBy_of_setControllerReference hs

theorem withControllerReference_idem (h : withControllerReference p o = .ok o') :
    withControllerReference p o' = .ok o' := by
  obtain ⟨meta, hs, rfl⟩ := withControllerReference_eq_ok h
  simp [withControllerReference, setControllerReference_idem hs, Except.map]

end ControllerReference

/-! ## Create branches -/

/-- What a create branch assigns: fields other than the creation time and the owner references,
so that assigning twice is assigning once. -/
structure Assign (B : Type) where
  run : Object B → Object B
  run_run : ∀ o, run (run o) = run o
  creationTimestamp_run : ∀ o, (run o).meta.creationTimestamp = o.meta.creationTimestamp
  run_ownerReferences : ∀ o refs,
    run { o with meta.ownerReferences := refs } = { run o with meta.ownerReferences := refs }

/-- A create branch that assigns nothing (the Issuer's). -/
def Assign.id : Assign B where
  run o := o
  run_run _ := rfl
  creationTimestamp_run _ := rfl
  run_ownerReferences _ _ := rfl

/-- A create branch that assigns the desired body, and the desired labels and annotations when
it assigns them. -/
def Assign.desired (desired : Object B) (labels annotations : Bool) : Assign B where
  run o := { o with
    body := desired.body
    meta.labels := if labels then desired.meta.labels else o.meta.labels
    meta.annotations := if annotations then desired.meta.annotations else o.meta.annotations }
  run_run _ := by cases labels <;> cases annotations <;> rfl
  creationTimestamp_run _ := rfl
  run_ownerReferences _ _ := rfl

/-! ## Existing-object branches -/

/-- The existing-object branch of a comparing closure for one kind: `owned o` says that every owned
field of `o` compares equal to the desired one, and `assign` assigns those that do not (or
panics). -/
structure Sync (B : Type) where
  owned : Object B → Bool
  assign : Object B → Except ApiError (Object B)
  owned_of_assign : ∀ {o o'}, assign o = .ok o' → owned o' = true
  assign_of_owned : ∀ {o}, owned o = true → assign o = .ok o
  creationTimestamp_assign : ∀ {o o'}, assign o = .ok o' →
    o'.meta.creationTimestamp = o.meta.creationTimestamp
  owned_ownerReferences : ∀ o refs, owned { o with meta.ownerReferences := refs } = owned o

/-- A closure that only creates: on an existing object it returns `nil` and changes nothing. -/
def createOnly (owner : Owner) (a : Assign B) (o : Object B) : Except ApiError (Object B) :=
  if o.meta.creationTimestamp = 0 then withControllerReference owner (a.run o) else .ok o

/-- A comparing closure: on an existing object it assigns the owned fields that differ, and sets
the controller reference only when it assigned one. -/
def compareAndSet (owner : Owner) (a : Assign B) (s : Sync B) (o : Object B) :
    Except ApiError (Object B) :=
  if o.meta.creationTimestamp = 0 then withControllerReference owner (a.run o)
  else do
    let o' ← s.assign o
    if s.owned o then pure o' else withControllerReference owner o'

/-! ## Laws of the two shapes -/

section Laws
variable {p : Owner} {a : Assign B} {s : Sync B} {o o' : Object B}

/-- The result of a create branch is still new, and its assignment is already made. -/
theorem create_branch (hts : o.meta.creationTimestamp = 0)
    (h : withControllerReference p (a.run o) = .ok o') :
    o'.meta.creationTimestamp = 0 ∧ a.run o' = o' := by
  refine ⟨by rw [creationTimestamp_withControllerReference h, a.creationTimestamp_run, hts], ?_⟩
  rw [withControllerReference_ownerReferences h, a.run_ownerReferences, a.run_run]

/-- Running a create branch again on its own result gives the same result. -/
theorem create_branch_idem (hts : o.meta.creationTimestamp = 0)
    (h : withControllerReference p (a.run o) = .ok o') :
    withControllerReference p (a.run o') = .ok o' := by
  rw [(create_branch hts h).2, withControllerReference_idem h]

/-- On an existing object, `createOnly` returns it unchanged. -/
theorem createOnly_existing (hts : o.meta.creationTimestamp ≠ 0) : createOnly p a o = .ok o :=
  if_neg hts

theorem createOnly_idem (h : createOnly p a o = .ok o') : createOnly p a o' = .ok o' := by
  unfold createOnly at h
  split at h
  · next hts =>
    unfold createOnly
    rw [if_pos (create_branch hts h).1, create_branch_idem hts h]
  · cases h; exact createOnly_existing ‹_›

/-- The existing-object branch of `compareAndSet`, unfolded. -/
theorem compareAndSet_existing_eq (hts : o.meta.creationTimestamp ≠ 0)
    (h : compareAndSet p a s o = .ok o') :
    ∃ o₁, s.assign o = .ok o₁ ∧
      (s.owned o = true → o' = o₁) ∧ (s.owned o = false → withControllerReference p o₁ = .ok o') := by
  unfold compareAndSet at h
  rw [if_neg hts] at h
  cases ha : s.assign o with
  | error e => simp [ha, bind, Except.bind] at h
  | ok o₁ =>
    refine ⟨o₁, rfl, fun ho => ?_, fun ho => ?_⟩ <;>
      simp only [ha, ho, bind, Except.bind, if_true, pure, Except.pure, Except.ok.injEq,
        Bool.false_eq_true, if_false] at h
    · exact h.symm
    · exact h

/-- **A comparing closure converges on an existing object.** When it returns, every owned field
compares equal to the desired one; if one did not, the policy object is now the controller; if
all did, the object is unchanged. -/
theorem compareAndSet_existing (hts : o.meta.creationTimestamp ≠ 0)
    (h : compareAndSet p a s o = .ok o') :
    s.owned o' = true ∧ (s.owned o = false → ControlledBy p o'.meta) ∧
      (s.owned o = true → o' = o) := by
  obtain ⟨o₁, ha, hown, hset⟩ := compareAndSet_existing_eq hts h
  cases ho : s.owned o
  · have hc := hset ho
    refine ⟨?_, fun _ => controlledBy_withControllerReference hc, fun h => absurd h (by decide)⟩
    rw [withControllerReference_ownerReferences hc, s.owned_ownerReferences]
    exact s.owned_of_assign ha
  · have ho₁ : o = o₁ := by rwa [s.assign_of_owned ho, Except.ok.injEq] at ha
    obtain rfl := hown ho
    subst ho₁
    exact ⟨ho, fun h => absurd h (by decide), fun _ => rfl⟩

/-- The result of the existing-object branch is still an existing object. -/
theorem creationTimestamp_compareAndSet (hts : o.meta.creationTimestamp ≠ 0)
    (h : compareAndSet p a s o = .ok o') : o'.meta.creationTimestamp ≠ 0 := by
  obtain ⟨o₁, ha, hown, hset⟩ := compareAndSet_existing_eq hts h
  cases ho : s.owned o
  · rw [creationTimestamp_withControllerReference (hset ho), s.creationTimestamp_assign ha]
    exact hts
  · rw [hown ho, s.creationTimestamp_assign ha]; exact hts

/-- On an existing object whose owned fields all compare equal, `compareAndSet` returns it. -/
theorem compareAndSet_of_owned (hts : o.meta.creationTimestamp ≠ 0) (ho : s.owned o = true) :
    compareAndSet p a s o = .ok o := by
  simp [compareAndSet, hts, s.assign_of_owned ho, ho, bind, Except.bind, pure, Except.pure]

theorem compareAndSet_idem (h : compareAndSet p a s o = .ok o') :
    compareAndSet p a s o' = .ok o' := by
  by_cases hts : o.meta.creationTimestamp = 0
  · unfold compareAndSet at h ⊢
    rw [if_pos hts] at h
    rw [if_pos (create_branch hts h).1, create_branch_idem hts h]
  · exact compareAndSet_of_owned (creationTimestamp_compareAndSet hts h)
      (compareAndSet_existing hts h).1

end Laws

end OvercommitOperator
