import Mathlib

/-!
# Hash maps with an unspecified iteration order

A hash map is an association list whose keys are distinct.  Lookups do not see the order of its
entries; a loop over the map does, and takes that order from an `IterationOrder`, an arbitrary
permutation.
-/

namespace Foundation

/-- A hash map: an association list that carries the distinctness of its keys. -/
abbrev HashMap (κ ν : Type*) := AList fun _ : κ => ν

/-- The order in which one loop walks the entries of a map. -/
structure IterationOrder (κ ν : Type*) where
  /-- The entries in the order the loop meets them. -/
  walk : List (Σ _ : κ, ν) → List (Σ _ : κ, ν)
  /-- Every entry is met exactly once. -/
  perm : ∀ entries, (walk entries).Perm entries

namespace IterationOrder

/-- The walk that follows the entry list. -/
def inOrder (κ ν : Type*) : IterationOrder κ ν where
  walk := id
  perm entries := List.Perm.refl entries

variable {κ ν : Type*}

theorem nodupKeys (order : IterationOrder κ ν) {entries : List (Σ _ : κ, ν)}
    (distinct : entries.NodupKeys) : (order.walk entries).NodupKeys :=
  (List.perm_nodupKeys (order.perm entries)).mpr distinct

theorem dlookup_walk [DecidableEq κ] (order : IterationOrder κ ν) (m : HashMap κ ν) (key : κ) :
    (order.walk m.entries).dlookup key = m.lookup key :=
  List.perm_dlookup key (order.nodupKeys m.nodupKeys) (order.perm m.entries)

theorem mem_walk_iff [DecidableEq κ] (order : IterationOrder κ ν) {m : HashMap κ ν} {key : κ}
    {value : ν} : ⟨key, value⟩ ∈ order.walk m.entries ↔ m.lookup key = some value :=
  (order.perm m.entries).mem_iff.trans AList.mem_lookup_iff.symm

end IterationOrder

namespace HashMap

variable {κ ν μ : Type*} [DecidableEq κ]

/-- `HashMap::retain`. -/
def retain (keep : κ → ν → Bool) (m : HashMap κ ν) : HashMap κ ν where
  entries := m.entries.filter fun entry => keep entry.1 entry.2
  nodupKeys := m.nodupKeys.sublist List.filter_sublist

@[simp]
theorem lookup_retain (keep : κ → ν → Bool) (m : HashMap κ ν) (key : κ) :
    (retain keep m).lookup key = (m.lookup key).filter (keep key) := by
  ext value
  rw [Option.filter_eq_some_iff]
  change value ∈ AList.lookup key (retain keep m) ↔
    value ∈ AList.lookup key m ∧ keep key value = true
  rw [AList.mem_lookup_iff, AList.mem_lookup_iff]
  simp [retain]

/-- The map a loop builds by inserting `convert key value` for the entries it does not skip. -/
def collect (convert : κ → ν → Option μ) (entries : List (Σ _ : κ, ν)) : HashMap κ μ :=
  entries.foldl (fun built entry =>
    match convert entry.1 entry.2 with
    | some value => built.insert entry.1 value
    | none => built) ∅

private theorem lookup_collect_from (convert : κ → ν → Option μ) (key : κ)
    {entries : List (Σ _ : κ, ν)} (distinct : entries.NodupKeys) (built : HashMap κ μ) :
    (entries.foldl (fun built entry =>
      match convert entry.1 entry.2 with
      | some value => built.insert entry.1 value
      | none => built) built).lookup key =
        ((entries.dlookup key).bind (convert key)).or (built.lookup key) := by
  induction entries generalizing built with
  | nil => simp
  | cons entry entries induction =>
      obtain ⟨head, value⟩ := entry
      obtain ⟨fresh, distinct⟩ := List.nodupKeys_cons.mp distinct
      rw [List.foldl_cons, induction distinct]
      by_cases same : key = head
      · subst same
        rw [List.dlookup_eq_none.mpr fresh, List.dlookup_cons_eq]
        cases converted : convert key value <;> simp [converted]
      · have later : (Sigma.mk head value :: entries).dlookup key = entries.dlookup key :=
          List.dlookup_cons_ne entries (Sigma.mk head value) same
        rw [later]
        cases convert head value <;> simp [AList.lookup_insert_ne same]

/-- Each key of a collected map holds the conversion of its own entry, in every order. -/
theorem lookup_collect (convert : κ → ν → Option μ) {entries : List (Σ _ : κ, ν)}
    (distinct : entries.NodupKeys) (key : κ) :
    (collect convert entries).lookup key = (entries.dlookup key).bind (convert key) := by
  rw [collect, lookup_collect_from convert key distinct]
  simp

/-! ## Properties of all entries -/

/-- Every entry of the map has the property. -/
def All (property : κ → ν → Prop) (m : HashMap κ ν) : Prop :=
  ∀ key value, m.lookup key = some value → property key value

theorem all_empty (property : κ → ν → Prop) : All property (∅ : HashMap κ ν) := by
  intro key value found
  simp at found

theorem All.imp {property property' : κ → ν → Prop} {m : HashMap κ ν} (all : All property m)
    (implies : ∀ key value, property key value → property' key value) : All property' m :=
  fun key value found => implies key value (all key value found)

theorem All.insert {property : κ → ν → Prop} {m : HashMap κ ν} (all : All property m) {key : κ}
    {value : ν} (holds : property key value) : All property (m.insert key value) := by
  intro other other_value found
  by_cases same : other = key
  · subst same
    rw [AList.lookup_insert, Option.some.injEq] at found
    exact found ▸ holds
  · rw [AList.lookup_insert_ne same] at found
    exact all other other_value found

theorem All.erase {property : κ → ν → Prop} {m : HashMap κ ν} (all : All property m) (key : κ) :
    All property (m.erase key) := by
  intro other value found
  by_cases same : other = key
  · subst same
    simp at found
  · rw [AList.lookup_erase_ne same] at found
    exact all other value found

/-- The entries of one map are entries of another. -/
def Submap (part whole : HashMap κ ν) : Prop :=
  part.All fun key value => whole.lookup key = some value

theorem Submap.insert {part whole : HashMap κ ν} (submap : Submap part whole) (key : κ)
    (value : ν) : Submap (part.insert key value) (whole.insert key value) := by
  intro other other_value found
  by_cases same : other = key
  · subst same
    rw [AList.lookup_insert] at found ⊢
    exact found
  · rw [AList.lookup_insert_ne same] at found ⊢
    exact submap other other_value found

/-! ## Keys -/

theorem mem_keys_iff_lookup {m : HashMap κ ν} {key : κ} :
    key ∈ m.keys ↔ (m.lookup key).isSome := by
  rw [AList.lookup_isSome, AList.mem_keys]

theorem eq_empty_iff_lookup {m : HashMap κ ν} : m = ∅ ↔ ∀ key, m.lookup key = none := by
  constructor
  · rintro rfl key
    exact AList.lookup_empty key
  · intro missing
    apply AList.ext
    rw [AList.empty_entries, List.eq_nil_iff_forall_not_mem]
    rintro ⟨key, value⟩ member
    have found := (AList.mem_lookup_iff (s := m)).mpr member
    rw [Option.mem_def, missing key] at found
    simp at found

/-! ## Counters -/

/-- A counter kept in a map does not overflow when it goes up from below a limit. -/
theorem toNat_succ_of_lt {count limit : UInt32} (below : count < limit) :
    (count + 1).toNat = count.toNat + 1 := by
  have lower := UInt32.lt_iff_toNat_lt.mp below
  have size := limit.toNat_lt
  rw [UInt32.toNat_add, show (1 : UInt32).toNat = 1 from rfl, Nat.mod_eq_of_lt (by omega)]

end HashMap
end Foundation
