import OvercommitOperator.Api.Types

/-!
# Status conditions

`setCondition` finds the first condition of the new condition's type and writes over it only when
the status, reason or message differs, moving the transition time to the call's `now` only when
the status differs; a type it does not find is appended. Everything below reads a status through
`conditionOf`, the condition `setCondition` finds, and `conditionOf_setCondition` is the one
fact about a call that the rest uses. On the whole list a call writes over the first condition of
its type, or appends, and moves nothing else (`setCondition_cases`): on conditions with distinct
types it keeps them distinct, leaves one condition of its type and every other in place.

The transition-time law is about runs. A call of `updateOvercommitStatus` passes a condition
stamped with its own `now`, so a run is a list of conditions, each applied at its own transition
time (`applyConditions`). The status a type holds after a run is that of the latest call of the
type (`statusOf_applyConditions`), and its transition time is the time of the latest call that
inserted the type or changed its status (`lastTransitionTime_applyConditions`).
-/

namespace OvercommitOperator

/-- What the loop of `setCondition` writes over an existing condition of the same type: the new
condition when its status, reason or message differs, its transition time moved to `now` only
when the status differs, and the existing condition otherwise. -/
def transitionCondition (now : Time) (existing new : Condition) : Condition :=
  if existing.status ≠ new.status ∨ existing.reason ≠ new.reason ∨
      existing.message ≠ new.message then
    if existing.status ≠ new.status then { new with lastTransitionTime := now }
    else { new with lastTransitionTime := existing.lastTransitionTime }
  else existing

/-- The loop of `setCondition`: the first condition of the new one's type is written over, and
`none` says the loop ran off the end. -/
def setConditionLoop (now : Time) (newCondition : Condition) :
    List Condition → Option (List Condition)
  | [] => none
  | existing :: rest =>
    if existing.type = newCondition.type then
      some (transitionCondition now existing newCondition :: rest)
    else (setConditionLoop now newCondition rest).map (existing :: ·)

/-- A condition with a zero transition time gets `now`. -/
def stampCondition (now : Time) (c : Condition) : Condition :=
  if c.lastTransitionTime = 0 then { c with lastTransitionTime := now } else c

/-- Sets a condition on a status; both of its calls of `metav1.Now()` read `now`. Reference:
`setCondition` (`src/internal/controller/overcommit/utils.go:217`). -/
def setCondition (now : Time) (status : OvercommitStatus) (newCondition : Condition) :
    OvercommitStatus :=
  let newCondition := stampCondition now newCondition
  match setConditionLoop now newCondition status.conditions with
  | some conditions => { status with conditions := conditions }
  | none => { status with conditions := status.conditions ++ [newCondition] }

/-- The condition of type `T`: the first one, which is the one `setCondition` finds. -/
def conditionOf (st : OvercommitStatus) (T : String) : Option Condition :=
  st.conditions.find? (·.type == T)

/-- The status of the condition of type `T`. -/
def statusOf (st : OvercommitStatus) (T : String) : Option String :=
  (conditionOf st T).map (·.status)

/-- The transition time of the condition of type `T`. -/
def lastTransitionTimeOf (st : OvercommitStatus) (T : String) : Option Time :=
  (conditionOf st T).map (·.lastTransitionTime)

theorem OvercommitStatus.ext {a b : OvercommitStatus} (hr : a.resources = b.resources)
    (hc : a.conditions = b.conditions) : a = b := by
  cases a; cases b; cases hr; cases hc; rfl

/-! ## One call -/

section Call
variable (now : Time) (e c : Condition)

@[simp] theorem type_stampCondition : (stampCondition now c).type = c.type := by
  unfold stampCondition; split <;> rfl

@[simp] theorem status_stampCondition : (stampCondition now c).status = c.status := by
  unfold stampCondition; split <;> rfl

@[simp] theorem reason_stampCondition : (stampCondition now c).reason = c.reason := by
  unfold stampCondition; split <;> rfl

@[simp] theorem message_stampCondition : (stampCondition now c).message = c.message := by
  unfold stampCondition; split <;> rfl

theorem type_transitionCondition (h : e.type = c.type) :
    (transitionCondition now e c).type = c.type := by
  unfold transitionCondition; split_ifs <;> simp [h]

@[simp] theorem status_transitionCondition : (transitionCondition now e c).status = c.status := by
  unfold transitionCondition; split_ifs <;> simp_all

theorem lastTransitionTime_transitionCondition :
    (transitionCondition now e c).lastTransitionTime =
      if e.status = c.status then e.lastTransitionTime else now := by
  unfold transitionCondition; split_ifs <;> simp_all

/-- A call whose condition carries its own `now` keeps that time. -/
@[simp] theorem stampCondition_self : stampCondition c.lastTransitionTime c = c := by
  unfold stampCondition; split <;> rfl

end Call

theorem setConditionLoop_eq_none {now : Time} {c : Condition} :
    ∀ {l : List Condition}, setConditionLoop now c l = none ↔ l.find? (·.type == c.type) = none
  | [] => by simp [setConditionLoop]
  | e :: l => by
    by_cases h : e.type = c.type
    · simp [setConditionLoop, h]
    · simp [setConditionLoop, h, setConditionLoop_eq_none (l := l)]

/-- **The loop writes over the first condition of the new one's type and nothing else.** -/
theorem setConditionLoop_eq_some {now : Time} {c : Condition} :
    ∀ {l l' : List Condition}, setConditionLoop now c l = some l' →
      ∃ l₁ e l₂, l = l₁ ++ e :: l₂ ∧ (∀ x ∈ l₁, x.type ≠ c.type) ∧ e.type = c.type ∧
        l' = l₁ ++ transitionCondition now e c :: l₂
  | [], _, h => nomatch h
  | e :: l, l', h => by
    by_cases he : e.type = c.type
    · simp only [setConditionLoop, he, if_true, Option.some.injEq] at h
      exact ⟨[], e, l, rfl, (fun _ h => nomatch h), he, h.symm⟩
    · simp only [setConditionLoop, he, if_false, Option.map_eq_some'] at h
      obtain ⟨l₀, h₀, rfl⟩ := h
      obtain ⟨l₁, e', l₂, rfl, hl₁, he', rfl⟩ := setConditionLoop_eq_some h₀
      exact ⟨e :: l₁, e', l₂, rfl, List.forall_mem_cons.2 ⟨he, hl₁⟩, he', rfl⟩

/-- The loop writes over the first condition of the new one's type and leaves the conditions of
every other type where they are. -/
theorem find?_setConditionLoop {now : Time} {c : Condition} (T : String) :
    ∀ {l l' : List Condition}, setConditionLoop now c l = some l' →
      l'.find? (·.type == T) =
        if c.type = T then (l.find? (·.type == T)).map (transitionCondition now · c)
        else l.find? (·.type == T)
  | [], _, h => by simp [setConditionLoop] at h
  | e :: l, l', h => by
    by_cases he : e.type = c.type
    · simp only [setConditionLoop, he, if_true, Option.some.injEq] at h
      subst h
      by_cases hT : c.type = T <;>
        simp [List.find?_cons, type_transitionCondition now e c he, he, hT]
    · simp only [setConditionLoop, he, if_false, Option.map_eq_some'] at h
      obtain ⟨l₁, h₁, rfl⟩ := h
      rw [List.find?_cons, List.find?_cons, find?_setConditionLoop T h₁]
      by_cases heT : e.type = T
      · have : c.type ≠ T := fun h => he (heT.trans h.symm)
        simp [heT, this]
      · have : (e.type == T) = false := by simpa using heT
        simp only [this]

/-- What a call does to the list of conditions: it writes over the first condition of its type,
or appends its stamped condition when there is none. -/
theorem setCondition_cases (now : Time) (st : OvercommitStatus) (c : Condition) :
    (∃ l₁ e l₂, st.conditions = l₁ ++ e :: l₂ ∧ (∀ x ∈ l₁, x.type ≠ c.type) ∧ e.type = c.type ∧
      (setCondition now st c).conditions =
        l₁ ++ transitionCondition now e (stampCondition now c) :: l₂) ∨
    ((∀ x ∈ st.conditions, x.type ≠ c.type) ∧
      (setCondition now st c).conditions = st.conditions ++ [stampCondition now c]) := by
  unfold setCondition
  dsimp only
  cases h : setConditionLoop now (stampCondition now c) st.conditions with
  | some l' =>
    obtain ⟨l₁, e, l₂, hst, hl₁, he, rfl⟩ := setConditionLoop_eq_some h
    exact .inl ⟨l₁, e, l₂, hst, by simpa using hl₁, by simpa using he, rfl⟩
  | none =>
    rw [setConditionLoop_eq_none, List.find?_eq_none] at h
    exact .inr ⟨fun x hx => by simpa using h x hx, rfl⟩

@[simp] theorem resources_setCondition (now : Time) (st : OvercommitStatus) (c : Condition) :
    (setCondition now st c).resources = st.resources := by
  unfold setCondition; dsimp only; split <;> rfl

/-- **What one call does to the condition of a type.** A call of another type leaves it; a call
of its type writes the transition over it, or inserts the (stamped) condition. -/
theorem conditionOf_setCondition (now : Time) (st : OvercommitStatus) (c : Condition)
    (T : String) :
    conditionOf (setCondition now st c) T =
      if c.type = T then
        some ((conditionOf st T).elim (stampCondition now c)
          fun e => transitionCondition now e (stampCondition now c))
      else conditionOf st T := by
  unfold setCondition conditionOf
  cases h : setConditionLoop now (stampCondition now c) st.conditions with
  | some l' =>
    simp only [h, find?_setConditionLoop T h, type_stampCondition]
    split
    · next hT =>
      have hne : st.conditions.find? (·.type == T) ≠ none := fun hn => by
        rw [setConditionLoop_eq_none.2 (by rwa [type_stampCondition, hT])] at h; cases h
      obtain ⟨e, he⟩ := Option.ne_none_iff_exists'.1 hne
      simp [he]
    · rfl
  | none =>
    simp only [h]
    rw [setConditionLoop_eq_none, type_stampCondition] at h
    by_cases hT : c.type = T
    · subst hT; simp [h]
    · simp [hT]

/-- The status a call leaves: its own for its type, the old one for the others. -/
theorem statusOf_setCondition (now : Time) (st : OvercommitStatus) (c : Condition) (T : String) :
    statusOf (setCondition now st c) T = if c.type = T then some c.status else statusOf st T := by
  unfold statusOf
  rw [conditionOf_setCondition]
  split
  · cases conditionOf st T <;> simp
  · rfl

/-- The transition time a call at its own `now` leaves: `now` when it inserts the type or
changes its status, the old time otherwise. -/
theorem lastTransitionTimeOf_setCondition (st : OvercommitStatus) (c : Condition) (T : String) :
    lastTransitionTimeOf (setCondition c.lastTransitionTime st c) T =
      if c.type = T ∧ statusOf st T ≠ some c.status then some c.lastTransitionTime
      else lastTransitionTimeOf st T := by
  unfold lastTransitionTimeOf statusOf
  rw [conditionOf_setCondition, stampCondition_self]
  by_cases hT : c.type = T
  · cases h : conditionOf st T with
    | none => simp [hT]
    | some e =>
      by_cases hs : e.status = c.status <;>
        simp [hT, hs, lastTransitionTime_transitionCondition]
  · simp [hT]

/-! ## Distinct types

Nothing declares the conditions a map keyed by type, but `setCondition` keeps them so: a call
writes over the first condition of its type and touches nothing else, or appends
(`setCondition_cases`). On conditions with distinct types a call keeps them distinct, leaves
exactly one condition of its type, with its status, keeps every condition of another type in its
place, and changes nothing when the condition of its type already has its status, reason and
message.
-/

/-- In a list of conditions with distinct types, the conditions of one type are the one `find?`
returns. -/
theorem filter_type_of_nodup (T : String) :
    ∀ {l : List Condition}, (l.map (·.type)).Nodup →
      l.filter (·.type == T) = (l.find? (·.type == T)).toList
  | [], _ => rfl
  | x :: l, hnd => by
    rw [List.map_cons, List.nodup_cons] at hnd
    rw [List.filter_cons, List.find?_cons, filter_type_of_nodup T hnd.2]
    by_cases hx : x.type = T
    · have hl : l.find? (·.type == T) = none := List.find?_eq_none.2 fun y hy h => hnd.1 (by
        rw [hx, ← beq_iff_eq.1 h]; exact List.mem_map_of_mem _ hy)
      simp [hx, hl]
    · have : (x.type == T) = false := by simpa using hx
      simp [this]

/-- With distinct types, a condition is the one of its type. -/
theorem conditionOf_of_mem {st : OvercommitStatus} (hnd : (st.conditions.map (·.type)).Nodup)
    {e : Condition} (he : e ∈ st.conditions) : conditionOf st e.type = some e := by
  have h : e ∈ st.conditions.filter (·.type == e.type) := List.mem_filter.2 ⟨he, by simp⟩
  rw [filter_type_of_nodup _ hnd] at h
  simpa using h

section Distinct
variable (now : Time) (st : OvercommitStatus) (c : Condition)

/-- The condition written over one of its type keeps the type. -/
theorem type_transitionCondition_stamp {e : Condition} (he : e.type = c.type) :
    (transitionCondition now e (stampCondition now c)).type = c.type := by
  rw [type_transitionCondition now e _ (by rw [type_stampCondition, he]), type_stampCondition]

/-- A call keeps the types of the conditions distinct. -/
theorem nodup_setCondition (hnd : (st.conditions.map (·.type)).Nodup) :
    ((setCondition now st c).conditions.map (·.type)).Nodup := by
  rcases setCondition_cases now st c with ⟨l₁, e, l₂, hst, -, he, h⟩ | ⟨hno, h⟩
  · rw [hst] at hnd
    simpa [h, type_transitionCondition_stamp now c he, he] using hnd
  · rw [h, List.map_append, List.nodup_append]
    refine ⟨hnd, List.nodup_singleton _, fun a ha hc => ?_⟩
    obtain ⟨x, hx, rfl⟩ := List.mem_map.1 ha
    exact hno x hx (by simpa using hc)

/-- A call leaves the conditions of every other type as they were, in their order. -/
theorem filter_setCondition_ne :
    (setCondition now st c).conditions.filter (·.type != c.type) =
      st.conditions.filter (·.type != c.type) := by
  rcases setCondition_cases now st c with ⟨l₁, e, l₂, hst, -, he, h⟩ | ⟨-, h⟩
  · rw [h, hst]
    simp [List.filter_append, List.filter_cons, he, type_transitionCondition_stamp now c he]
  · simp [h, List.filter_append]

/-- With distinct types, a call leaves exactly one condition of its type, with its status. -/
theorem filter_setCondition_eq (hnd : (st.conditions.map (·.type)).Nodup) :
    ∃ x, (setCondition now st c).conditions.filter (·.type == c.type) = [x] ∧
      x.status = c.status := by
  rw [filter_type_of_nodup _ (nodup_setCondition now st c hnd)]
  have h := statusOf_setCondition now st c c.type
  rw [if_pos rfl] at h
  obtain ⟨x, hx, hs⟩ := Option.map_eq_some'.1 h
  exact ⟨x, by rw [← conditionOf, hx]; rfl, hs⟩

/-- A call whose condition says what the condition of its type already says changes nothing. -/
theorem setCondition_of_same {e : Condition} (he : conditionOf st c.type = some e)
    (hs : e.status = c.status) (hr : e.reason = c.reason) (hm : e.message = c.message) :
    (setCondition now st c).conditions = st.conditions := by
  rcases setCondition_cases now st c with ⟨l₁, e', l₂, hst, hl₁, he', h⟩ | ⟨hno, -⟩
  · have hfind : (l₁ ++ e' :: l₂).find? (·.type == c.type) = some e' := by
      rw [List.find?_append, List.find?_eq_none.2 fun x hx h => hl₁ x hx (by simpa using h)]
      simp [he']
    obtain rfl : e' = e := Option.some.inj (hfind.symm.trans (hst ▸ he))
    rw [h, hst]
    simp [transitionCondition, hs, hr, hm]
  · exact (hno e (List.mem_of_find?_eq_some he) (by simpa using List.find?_some he)).elim

/-- The condition a call leaves for its type says what the call's condition says. -/
theorem conditionOf_setCondition_self :
    ∃ e, conditionOf (setCondition now st c) c.type = some e ∧ e.status = c.status ∧
      e.reason = c.reason ∧ e.message = c.message := by
  rw [conditionOf_setCondition, if_pos rfl]
  refine ⟨_, rfl, ?_⟩
  cases conditionOf st c.type with
  | none => simp
  | some e => simp only [Option.elim]; unfold transitionCondition; split_ifs <;> simp_all

/-- **A repeated call changes nothing.** A call whose condition says what the previous call said,
at any time, leaves the status as it is: the condition of the type keeps its transition time. -/
theorem setCondition_setCondition (now' : Time) {c' : Condition} (ht : c'.type = c.type)
    (hs : c'.status = c.status) (hr : c'.reason = c.reason) (hm : c'.message = c.message) :
    setCondition now' (setCondition now st c) c' = setCondition now st c := by
  obtain ⟨e, he, hes, her, hem⟩ := conditionOf_setCondition_self now st c
  refine OvercommitStatus.ext (resources_setCondition _ _ _) ?_
  exact setCondition_of_same now' _ c' (by rw [ht]; exact he) (hes.trans hs.symm)
    (her.trans hr.symm) (hem.trans hm.symm)

end Distinct

/-! ## Runs of calls -/

/-- A run of calls, each at its own `now`, the transition time of the condition it passes, as
`updateOvercommitStatus` calls `setCondition`. -/
def applyConditions (st : OvercommitStatus) (run : List Condition) : OvercommitStatus :=
  run.foldl (fun st c => setCondition c.lastTransitionTime st c) st

@[simp] theorem applyConditions_nil (st : OvercommitStatus) : applyConditions st [] = st := rfl

@[simp] theorem applyConditions_append_singleton (st : OvercommitStatus) (run : List Condition)
    (c : Condition) :
    applyConditions st (run ++ [c]) = setCondition c.lastTransitionTime (applyConditions st run) c :=
  List.foldl_append _ _ _ _

/-- The status a type holds after a run, read from the run alone: that of the latest call of
the type, or the initial one. -/
def statusAfter (init : String → Option String) (run : List Condition) (T : String) :
    Option String :=
  ((run.filter (·.type == T)).getLast?.map (·.status)).or (init T)

/-- Call `i` of `run` inserts `T` or changes its status: it has type `T`, and the status `T` holds
before it is not its own. -/
def TransitionAt (init : String → Option String) (run : List Condition) (T : String) (i : Nat) :
    Prop :=
  ∃ c, run[i]? = some c ∧ c.type = T ∧ statusAfter init (run.take i) T ≠ some c.status

/-- The status of a type after a run is the one `statusAfter` reads from the run. -/
theorem statusOf_applyConditions (st : OvercommitStatus) (run : List Condition) (T : String) :
    statusOf (applyConditions st run) T = statusAfter (statusOf st) run T := by
  induction run using List.reverseRecOn with
  | nil => simp [statusAfter]
  | append_singleton run c ih =>
    rw [applyConditions_append_singleton, statusOf_setCondition, ih]
    by_cases hT : c.type = T <;> simp [statusAfter, hT]

section Transitions
variable {init : String → Option String} {run : List Condition} {c : Condition} {T : String}
  {i : Nat}

theorem lt_length_of_transitionAt (h : TransitionAt init run T i) : i < run.length := by
  obtain ⟨c, hc, -⟩ := h
  exact (List.getElem?_eq_some_iff.1 hc).1

theorem transitionAt_append_of_lt (hi : i < run.length) :
    TransitionAt init (run ++ [c]) T i ↔ TransitionAt init run T i := by
  simp only [TransitionAt, List.getElem?_append_left hi, List.take_append_of_le_length hi.le]

theorem transitionAt_append_length :
    TransitionAt init (run ++ [c]) T run.length ↔
      c.type = T ∧ statusAfter init run T ≠ some c.status := by
  simp [TransitionAt, List.getElem?_concat_length, List.take_left']

end Transitions

/-- **The transition time of a type is that of its latest transition.** After any run of calls,
each at its own `now`, the condition of type `T` has the transition time of the latest call that
inserted `T` or changed its status; when no call did, the initial one. -/
theorem lastTransitionTime_applyConditions (st : OvercommitStatus) (run : List Condition)
    (T : String) :
    (∀ i, TransitionAt (statusOf st) run T i →
      (∀ j, i < j → ¬ TransitionAt (statusOf st) run T j) →
      lastTransitionTimeOf (applyConditions st run) T = run[i]?.map (·.lastTransitionTime)) ∧
    ((∀ i, ¬ TransitionAt (statusOf st) run T i) →
      lastTransitionTimeOf (applyConditions st run) T = lastTransitionTimeOf st T) := by
  induction run using List.reverseRecOn with
  | nil => exact ⟨fun i hi => absurd (lt_length_of_transitionAt hi) (Nat.not_lt_zero i), fun _ => rfl⟩
  | append_singleton run c ih =>
    rw [applyConditions_append_singleton, lastTransitionTimeOf_setCondition,
      statusOf_applyConditions]
    have hlen : ∀ {i}, TransitionAt (statusOf st) (run ++ [c]) T i → i ≤ run.length :=
      fun hi => by simpa [Nat.lt_succ_iff] using lt_length_of_transitionAt hi
    by_cases hlast : c.type = T ∧ statusAfter (statusOf st) run T ≠ some c.status
    · have hat := transitionAt_append_length.2 hlast
      rw [if_pos hlast]
      refine ⟨fun i hi hmax => ?_, fun hnone => absurd hat (hnone _)⟩
      obtain rfl : i = run.length :=
        (hlen hi).eq_or_lt.elim id fun h => absurd hat (hmax _ h)
      simp [List.getElem?_concat_length]
    · rw [if_neg hlast]
      have hnot := mt transitionAt_append_length.1 hlast
      have hlt : ∀ {i}, TransitionAt (statusOf st) (run ++ [c]) T i → i < run.length :=
        fun hi => (hlen hi).lt_of_ne fun h => hnot (h ▸ hi)
      refine ⟨fun i hi hmax => ?_, fun hnone => ih.2 fun i hi => ?_⟩
      · have hi' := (transitionAt_append_of_lt (hlt hi)).1 hi
        rw [ih.1 i hi' fun j hij hj =>
            hmax j hij ((transitionAt_append_of_lt (lt_length_of_transitionAt hj)).2 hj),
          List.getElem?_append_left (hlt hi)]
      · exact hnone i ((transitionAt_append_of_lt (lt_length_of_transitionAt hi)).2 hi)

/-- A status flip at time 2 is the transition; a later change of reason at time 3 is not. -/
example : lastTransitionTimeOf (applyConditions ⟨[], []⟩
    [⟨"ResourcesReady", "True", "a", "", 1⟩, ⟨"ResourcesReady", "False", "b", "", 2⟩,
      ⟨"ResourcesReady", "False", "c", "", 3⟩]) "ResourcesReady" = some 2 := by
  decide

/-- A call that keeps the status of its type (it changes only the reason or the message, or
nothing) leaves every transition time where it was. -/
theorem lastTransitionTimeOf_setCondition_of_status (st : OvercommitStatus) (c : Condition)
    (h : statusOf st c.type = some c.status) (T : String) :
    lastTransitionTimeOf (setCondition c.lastTransitionTime st c) T = lastTransitionTimeOf st T := by
  rw [lastTransitionTimeOf_setCondition, if_neg]
  rintro ⟨rfl, hne⟩
  exact hne h

theorem lastTransitionTime_tracks_status :
    (∀ (st : OvercommitStatus) (run : List Condition) (T : String),
      (∀ i, TransitionAt (statusOf st) run T i →
        (∀ j, i < j → ¬ TransitionAt (statusOf st) run T j) →
        lastTransitionTimeOf (applyConditions st run) T = run[i]?.map (·.lastTransitionTime)) ∧
      ((∀ i, ¬ TransitionAt (statusOf st) run T i) →
        lastTransitionTimeOf (applyConditions st run) T = lastTransitionTimeOf st T)) ∧
    (∀ (st : OvercommitStatus) (c : Condition), statusOf st c.type = some c.status →
      ∀ T, lastTransitionTimeOf (setCondition c.lastTransitionTime st c) T =
        lastTransitionTimeOf st T) :=
  ⟨lastTransitionTime_applyConditions, lastTransitionTimeOf_setCondition_of_status⟩

end OvercommitOperator
