import Mathlib.Data.List.Perm.Subperm
import OvercommitOperator.Api.Types

/-!
# The map comparators of the equality kernel

`mapsEqual` compares two Go maps: both nil, or both non-nil with equal lengths and every entry of
the first found in the second. Since a Go map's keys are distinct, equal lengths and one-way
inclusion give equal maps (`lookup_eq_of_entries_subset`), so `mapsEqual` is exactly equality of
the key-value pairs, with nil apart from empty (`mapsEqual_spec`).

The keyed-list comparators `envVarsEqual`, `portsEqual` and `slicesEqual` share one shape,
`keyedEqual`: equal slice lengths, then a map from key to element built from each slice (the last
element of a key wins), then one-way inclusion. A slice may repeat a key, so the slice lengths do
not bound the map sizes and the inclusion does not turn around: the comparators are not the
equality of the two maps (`envVarsEqual_duplicate_key`); on slices with distinct keys they are
(`keyedEqual_iff_of_nodup`). Each is reflexive (`keyedEqual_self`), which is what the mutate
closures need.
-/

namespace OvercommitOperator

/-! ## `mapsEqual` -/

/-- Two maps compare equal when both are nil, or both are non-nil, have the same length, and
every entry of `a` is an entry of `b`. Reference: `mapsEqual`
(`src/internal/controller/overcommit/utils.go:279`, `overcommitclass/utils.go:104`). -/
def mapsEqual : StrMap → StrMap → Bool
  | none, none => true
  | none, some _ | some _, none => false
  | some a, some b =>
    if a.entries.length ≠ b.entries.length then false
    else a.entries.all fun e => b.lookup e.1 == some e.2

/-- The keys of a map lie among those of a map of the same size: they are the same keys. -/
theorem keys_perm_of_subset {β : Type} {a b : AList fun _ : String => β}
    (hlen : a.entries.length = b.entries.length) (hsub : a.keys ⊆ b.keys) : a.keys.Perm b.keys :=
  (a.keys_nodup.subperm hsub).perm_of_length_le (by simp [AList.keys, List.keys, hlen])

/-- Equal lengths and one-way inclusion of the entries make two maps equal: the keys of `a` are
distinct and lie among those of `b`, which are no more. -/
theorem lookup_eq_of_entries_subset {β : Type} {a b : AList fun _ : String => β}
    (hlen : a.entries.length = b.entries.length)
    (hsub : ∀ e ∈ a.entries, b.lookup e.1 = some e.2) (key : String) :
    a.lookup key = b.lookup key := by
  have hmem : ∀ {k v}, a.lookup k = some v → b.lookup k = some v :=
    fun hv => hsub _ (AList.mem_lookup_iff.1 hv)
  have hperm : a.keys.Perm b.keys := keys_perm_of_subset hlen fun k hk => by
    obtain ⟨v, hv⟩ := Option.isSome_iff_exists.1 (AList.lookup_isSome.2 (AList.mem_keys.2 hk))
    exact AList.mem_keys.1 (AList.lookup_isSome.1 (by rw [hmem hv]; rfl))
  cases ha : a.lookup key with
  | some v => exact (hmem ha).symm
  | none =>
    rw [eq_comm, AList.lookup_eq_none]
    exact fun hb => AList.lookup_eq_none.1 ha
      (AList.mem_keys.2 (hperm.mem_iff.2 (AList.mem_keys.1 hb)))

/-- Maps with the same lookups have the same length. -/
theorem length_eq_of_lookup_eq {β : Type} {a b : AList fun _ : String => β}
    (h : ∀ key, a.lookup key = b.lookup key) : a.entries.length = b.entries.length := by
  have hperm : a.keys.Perm b.keys := (List.perm_ext_iff_of_nodup a.keys_nodup b.keys_nodup).2
    fun k => by rw [← AList.mem_keys, ← AList.mem_keys, ← AList.lookup_isSome,
      ← AList.lookup_isSome, h]
  simpa [AList.keys, List.keys] using hperm.length_eq

/-- `mapsEqual` on two non-nil maps is the equality of their key-value pairs. -/
theorem mapsEqual_some_iff (a b : AList fun _ : String => String) :
    mapsEqual (some a) (some b) = true ↔ ∀ key, a.lookup key = b.lookup key := by
  simp only [mapsEqual, ne_eq, ite_not, Bool.if_false_right, Bool.and_eq_true, decide_eq_true_eq,
    List.all_eq_true, beq_iff_eq]
  constructor
  · exact fun ⟨hlen, hsub⟩ => lookup_eq_of_entries_subset hlen hsub
  · intro h
    exact ⟨length_eq_of_lookup_eq h, fun e he => (h e.1).symm.trans (AList.mem_lookup_iff.2 he)⟩

/-- **`mapsEqual` is equality of maps, nil apart from empty.** -/
theorem mapsEqual_iff (a b : StrMap) :
    mapsEqual a b = true ↔
      (a = none ∧ b = none) ∨ (a ≠ none ∧ b ≠ none ∧ ∀ key, a.get? key = b.get? key) := by
  cases a <;> cases b
  case some.some a b => simpa using mapsEqual_some_iff a b
  all_goals simp [mapsEqual]

/-- `mapsEqual` is reflexive. -/
@[simp] theorem mapsEqual_self (a : StrMap) : mapsEqual a a = true := by
  cases a <;> simp [mapsEqual_iff]

/-- `mapsEqual` is symmetric. -/
theorem mapsEqual_comm (a b : StrMap) : mapsEqual a b = mapsEqual b a := by
  apply Bool.eq_iff_iff.2
  simp only [mapsEqual_iff]
  constructor <;> rintro (h | ⟨h1, h2, h3⟩)
  all_goals first | exact .inl ⟨h.2, h.1⟩ | exact .inr ⟨h2, h1, fun k => (h3 k).symm⟩

theorem mapsEqual_spec :
    (∀ a b : StrMap, mapsEqual a b = true ↔
      (a = none ∧ b = none) ∨ (a ≠ none ∧ b ≠ none ∧ ∀ key, a.get? key = b.get? key)) ∧
    (∀ a : StrMap, mapsEqual a a = true) ∧
    (∀ a b : StrMap, mapsEqual a b = mapsEqual b a) :=
  ⟨mapsEqual_iff, mapsEqual_self, mapsEqual_comm⟩

/-! ## Keyed-list comparators -/

section Keyed
variable {α : Type} (key : α → String)

/-- The Go loop `m := make(map[string]T); for _, x := range l { m[key(x)] = x }`: the last
element of each key wins. -/
def buildMap (l : List α) : AList fun _ : String => α :=
  l.foldl (fun m x => m.insert (key x) x) ∅

theorem mem_foldl_insert (l : List α) (m : AList fun _ : String => α) (k : String) :
    k ∈ l.foldl (fun m x => m.insert (key x) x) m ↔ k ∈ m ∨ ∃ x ∈ l, key x = k := by
  induction l generalizing m with
  | nil => simp
  | cons x l ih =>
    simp only [List.foldl_cons, ih, AList.mem_insert, List.mem_cons, exists_eq_or_imp]
    tauto

/-- The keys of the map built from a slice are the keys of its elements. -/
theorem mem_buildMap (l : List α) (k : String) : k ∈ buildMap key l ↔ ∃ x ∈ l, key x = k := by
  simp [buildMap, mem_foldl_insert, AList.not_mem_empty]

/-- The shape of `envVarsEqual`, `portsEqual` and `slicesEqual`: equal slice lengths, then every
entry of the map built from `a` has an entry of the same key in the map built from `b` that
`same` accepts. -/
def keyedEqual (same : α → α → Bool) (a b : List α) : Bool :=
  if a.length ≠ b.length then false
  else
    let mapB := buildMap key b
    (buildMap key a).entries.all fun e =>
      match mapB.lookup e.1 with
      | some y => same e.2 y
      | none => false

/-- A keyed-list comparator whose field comparison is reflexive is reflexive. -/
theorem keyedEqual_self {same : α → α → Bool} (hsame : ∀ x, same x x = true) (a : List α) :
    keyedEqual key same a a = true := by
  simp only [keyedEqual, ne_eq, not_true_eq_false, if_false, List.all_eq_true]
  intro e he
  have hl : (buildMap key a).lookup e.1 = some e.2 := AList.mem_lookup_iff.2 he
  simp only [hl, hsame]

/-- Inserting elements of distinct new keys adds one entry each. -/
theorem length_foldl_insert (l : List α) (m : AList fun _ : String => α)
    (hl : (l.map key).Nodup) (hm : ∀ x ∈ l, key x ∉ m) :
    (l.foldl (fun m x => m.insert (key x) x) m).entries.length = m.entries.length + l.length := by
  induction l generalizing m with
  | nil => simp
  | cons x l ih =>
    simp only [List.map_cons, List.nodup_cons, List.mem_map, not_exists, not_and] at hl
    have hfresh : ∀ y ∈ l, key y ∉ m.insert (key x) x := fun y hy h =>
      ((AList.mem_insert _).1 h).elim (hl.1 y hy) (hm y (.tail _ hy))
    rw [List.foldl_cons, ih _ hl.2 hfresh, AList.insert_entries_of_neg (hm x (.head _))]
    simp only [List.length_cons]
    omega

/-- A slice with distinct keys gives a map with one entry per element. -/
theorem length_buildMap {l : List α} (hl : (l.map key).Nodup) :
    (buildMap key l).entries.length = l.length := by
  simpa using length_foldl_insert key l ∅ hl fun _ _ => AList.not_mem_empty _

/-- **On slices with distinct keys, a keyed-list comparator is the equality of the two maps**:
the same length, and key by key both maps have no entry, or entries that `same` accepts. -/
theorem keyedEqual_iff_of_nodup {same : α → α → Bool} {a b : List α} (ha : (a.map key).Nodup)
    (hb : (b.map key).Nodup) :
    keyedEqual key same a b = true ↔ a.length = b.length ∧
      ∀ k, Option.Rel (fun x y => same x y = true)
        ((buildMap key a).lookup k) ((buildMap key b).lookup k) := by
  simp only [keyedEqual, ne_eq, ite_not, Bool.if_false_right, Bool.and_eq_true,
    decide_eq_true_eq, List.all_eq_true]
  refine and_congr_right fun hlen => ⟨fun h k => ?_, fun h e he => ?_⟩
  · have hlook : ∀ {k x}, (buildMap key a).lookup k = some x →
        ∃ y, (buildMap key b).lookup k = some y ∧ same x y = true := fun {k x} hx => by
      have := h ⟨k, x⟩ (AList.mem_lookup_iff.1 hx)
      cases hy : (buildMap key b).lookup k <;> simp_all
    have hperm : (buildMap key a).keys.Perm (buildMap key b).keys :=
      keys_perm_of_subset (by rw [length_buildMap key ha, length_buildMap key hb, hlen])
        fun k hk => by
          obtain ⟨x, hx⟩ := Option.isSome_iff_exists.1 (AList.lookup_isSome.2 (AList.mem_keys.2 hk))
          obtain ⟨y, hy, -⟩ := hlook hx
          exact AList.mem_keys.1 (AList.lookup_isSome.1 (by rw [hy]; rfl))
    cases hx : (buildMap key a).lookup k with
    | none =>
      rw [AList.lookup_eq_none.2 fun hb' => AList.lookup_eq_none.1 hx (AList.mem_keys.2
        (hperm.mem_iff.2 (AList.mem_keys.1 hb')))]
      exact .none
    | some x =>
      obtain ⟨y, hy, hs⟩ := hlook hx
      rw [hy]
      exact .some hs
  · have hrel := h e.1
    rw [AList.mem_lookup_iff.2 he] at hrel
    revert hrel
    generalize (buildMap key b).lookup e.1 = o
    rintro ⟨hs⟩
    exact hs

/-- Two slices of the same two variables in either order: the comparison is the comparison of
their maps. -/
theorem keyedEqual_envVars_swapped :
    keyedEqual EnvVar.name (fun x y => x.value == y.value) [⟨"x", "1"⟩, ⟨"y", "2"⟩]
        [⟨"y", "2"⟩, ⟨"x", "1"⟩] = true ↔
      2 = 2 ∧ ∀ k, Option.Rel (fun x y => (x.value == y.value) = true)
        ((buildMap EnvVar.name [⟨"x", "1"⟩, ⟨"y", "2"⟩]).lookup k)
        ((buildMap EnvVar.name [⟨"y", "2"⟩, ⟨"x", "1"⟩]).lookup k) :=
  keyedEqual_iff_of_nodup EnvVar.name (by decide) (by decide)

end Keyed

/-- Environment variables compare equal by slice length and, key by key of the first map from
name to value, the value of the second. Reference: `envVarsEqual`
(`src/internal/controller/overcommitclass/utils.go:76`, `overcommit/utils.go:251`). -/
def envVarsEqual : List EnvVar → List EnvVar → Bool :=
  keyedEqual EnvVar.name fun x y => x.value == y.value

/-- Service ports compare equal by slice length and, name by name of the first map, the port,
target port and protocol of the second. Reference: `portsEqual`
(`src/internal/controller/overcommitclass/utils.go:127`). -/
def portsEqual : List ServicePort → List ServicePort → Bool :=
  keyedEqual ServicePort.name fun x y =>
    x.port == y.port && x.targetPort == y.targetPort && x.protocol == y.protocol

/-- String slices compare equal by length and membership of the first's items in the second.
Reference: `slicesEqual` (`src/internal/controller/overcommitclass/utils.go:158`). -/
def slicesEqual : List String → List String → Bool :=
  keyedEqual id fun _ _ => true

@[simp] theorem envVarsEqual_self (a : List EnvVar) : envVarsEqual a a = true :=
  keyedEqual_self _ (by simp) a

@[simp] theorem portsEqual_self (a : List ServicePort) : portsEqual a a = true :=
  keyedEqual_self _ (by simp) a

@[simp] theorem slicesEqual_self (a : List String) : slicesEqual a a = true :=
  keyedEqual_self _ (fun _ => rfl) a

/-- A first slice that repeats a name passes the length check against a second slice with an
extra name, and the comparison does not turn around. -/
theorem envVarsEqual_duplicate_key :
    envVarsEqual [⟨"x", "1"⟩, ⟨"x", "1"⟩] [⟨"x", "1"⟩, ⟨"y", "2"⟩] = true ∧
    envVarsEqual [⟨"x", "1"⟩, ⟨"y", "2"⟩] [⟨"x", "1"⟩, ⟨"x", "1"⟩] = false := by
  decide

/-! ## `webhookChanged` -/

/-- The client-config comparison of `webhookChanged`: two services differ by name or
namespace, and a nil service differs from a non-nil one. -/
def clientConfigServiceChanged : Option ServiceReference → Option ServiceReference → Bool
  | some u, some c => u.name != c.name || u.namespace != c.namespace
  | none, none => false
  | _, _ => true

/-- A webhook has changed when its name, its number of rules, its client-config service, its
admission review versions (in order) or its match conditions (in order, by name and expression)
differ. The type assertions to `MutatingWebhook` succeed on a configuration's own webhooks, so
their failure branch is not modelled. Reference: `webhookChanged`
(`src/internal/controller/overcommitclass/utils.go:186`). -/
def webhookChanged (updated current : Webhook) : Bool :=
  updated.name != current.name ||
  updated.rules.length != current.rules.length ||
  clientConfigServiceChanged updated.service current.service ||
  updated.admissionReviewVersions.length != current.admissionReviewVersions.length ||
  (updated.admissionReviewVersions.enum.any fun (i, v) =>
    current.admissionReviewVersions[i]? != some v) ||
  updated.matchConditions.length != current.matchConditions.length ||
  (updated.matchConditions.enum.any fun (i, c) =>
    match current.matchConditions[i]? with
    | none => true
    | some c' => c.name != c'.name || c.expression != c'.expression)

/-- A webhook has not changed against itself. -/
@[simp] theorem webhookChanged_self (w : Webhook) : webhookChanged w w = false := by
  have hsvc : clientConfigServiceChanged w.service w.service = false := by
    cases w.service <;> simp [clientConfigServiceChanged]
  have henum {β : Type} (l : List β) : ∀ x ∈ l.enum, l[x.1]? = some x.2 :=
    fun _ h => List.mem_enum_iff_getElem?.1 h
  simp only [webhookChanged, hsvc, bne_self_eq_false, Bool.or_false, Bool.false_or,
    Bool.or_eq_false_iff, List.any_eq_false]
  exact ⟨fun x hx => by simp [henum _ x hx], fun x hx => by simp [henum _ x hx]⟩

end OvercommitOperator
