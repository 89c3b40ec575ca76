import Mathlib.Data.List.Nodup
import Mathlib.Data.List.Basic

/-! # Insertion-ordered maps and sets

The `Map` and `Set` of the modelled language iterate in insertion order,
`set` on an existing key keeps its position, and `delete` of an absent key is
a no-op. Both carry the distinctness of their keys as a field, so a lookup
never has to consider a second entry. -/

namespace DshRemote

/-- An insertion-ordered map with at most one entry for each key. -/
@[ext] structure OrderedMap (Key : Type u) (Value : Type v) where
  entries : List (Key × Value)
  nodup : (entries.map Prod.fst).Nodup
deriving DecidableEq

namespace OrderedMap

variable {Key : Type u} {Value : Type v}

def empty : OrderedMap Key Value where
  entries := []
  nodup := by simp

def keys (map : OrderedMap Key Value) : List Key := map.entries.map Prod.fst

def values (map : OrderedMap Key Value) : List Value := map.entries.map Prod.snd

/-- Keep the entries that pass a test, in their order. -/
def filter (map : OrderedMap Key Value) (keep : Key → Value → Bool) :
    OrderedMap Key Value where
  entries := map.entries.filter fun entry => keep entry.1 entry.2
  nodup := map.nodup.sublist (List.Sublist.map _ List.filter_sublist)

/-- Replace every value without touching the keys or their order. -/
def mapValues (map : OrderedMap Key Value) (change : Key → Value → Value) :
    OrderedMap Key Value where
  entries := map.entries.map fun entry => (entry.1, change entry.1 entry.2)
  nodup := by simpa [Function.comp_def] using map.nodup

private theorem nodup_snoc (map : OrderedMap Key Value) (key : Key) (value : Value)
    (absent : key ∉ map.keys) :
    ((map.entries ++ [(key, value)]).map Prod.fst).Nodup := by
  simpa [List.nodup_append, keys] using ⟨map.nodup, fun other otherValue member equal =>
    absent (by simpa [keys, ← equal] using ⟨otherValue, member⟩)⟩

variable [DecidableEq Key]

def get (map : OrderedMap Key Value) (key : Key) : Option Value :=
  (map.entries.find? fun entry => entry.1 = key).map Prod.snd

def has (map : OrderedMap Key Value) (key : Key) : Bool := (map.get key).isSome

def delete (map : OrderedMap Key Value) (key : Key) : OrderedMap Key Value :=
  map.filter fun other _ => other ≠ key

def set (map : OrderedMap Key Value) (key : Key) (value : Value) :
    OrderedMap Key Value :=
  if present : key ∈ map.keys then
    map.mapValues fun other current => if other = key then value else current
  else
    { entries := map.entries ++ [(key, value)]
      nodup := map.nodup_snoc key value present }

/-! ## Lookup -/

theorem get_eq_some_iff (map : OrderedMap Key Value) (key : Key) (value : Value) :
    map.get key = some value ↔ (key, value) ∈ map.entries := by
  rcases map with ⟨entries, nodup⟩
  simp only [get]
  induction entries with
  | nil => simp
  | cons head tail induction =>
      rcases head with ⟨headKey, headValue⟩
      rcases List.nodup_cons.mp nodup with ⟨fresh, tailNodup⟩
      by_cases equal : headKey = key
      · subst equal
        have absent : (headKey, value) ∉ tail := fun member =>
          fresh (List.mem_map.mpr ⟨_, member, rfl⟩)
        simp [absent, eq_comm]
      · simp [equal, Ne.symm equal, induction tailNodup]

theorem mem_keys_iff (map : OrderedMap Key Value) (key : Key) :
    key ∈ map.keys ↔ ∃ value, map.get key = some value := by
  simp [keys, get_eq_some_iff]

theorem get_eq_none_iff (map : OrderedMap Key Value) (key : Key) :
    map.get key = none ↔ key ∉ map.keys := by
  rw [mem_keys_iff, ← Option.ne_none_iff_exists', not_not]

theorem mem_values_of_get {map : OrderedMap Key Value} {key : Key} {value : Value}
    (found : map.get key = some value) : value ∈ map.values :=
  List.mem_map.mpr ⟨(key, value), (map.get_eq_some_iff key value).mp found, rfl⟩

theorem exists_get_of_mem_values {map : OrderedMap Key Value} {value : Value}
    (member : value ∈ map.values) : ∃ key, map.get key = some value := by
  rcases List.mem_map.mp member with ⟨⟨key, found⟩, entry, rfl⟩
  exact ⟨key, (map.get_eq_some_iff key found).mpr entry⟩

@[simp] theorem get_empty (key : Key) :
    (empty : OrderedMap Key Value).get key = none := rfl

theorem get_filter (map : OrderedMap Key Value) (keep : Key → Value → Bool)
    (key : Key) :
    (map.filter keep).get key = (map.get key).filter (keep key) := by
  ext value
  simp [get_eq_some_iff, filter, Option.filter_eq_some_iff]

theorem get_mapValues (map : OrderedMap Key Value) (change : Key → Value → Value)
    (key : Key) :
    (map.mapValues change).get key = (map.get key).map (change key) := by
  ext value
  simp only [get_eq_some_iff, mapValues, List.mem_map, Option.map_eq_some_iff,
    Prod.mk.injEq, Prod.exists]
  constructor
  · rintro ⟨_, current, member, rfl, rfl⟩
    exact ⟨current, member, rfl⟩
  · rintro ⟨current, member, rfl⟩
    exact ⟨key, current, member, rfl, rfl⟩

@[simp] theorem get_delete_self (map : OrderedMap Key Value) (key : Key) :
    (map.delete key).get key = none := by
  cases found : map.get key <;> simp [delete, get_filter, found]

theorem get_delete_other (map : OrderedMap Key Value) {key other : Key}
    (different : other ≠ key) : (map.delete key).get other = map.get other := by
  cases found : map.get other <;> simp [delete, get_filter, found, different]

theorem get_delete (map : OrderedMap Key Value) (key other : Key) :
    (map.delete key).get other = if other = key then none else map.get other := by
  split
  · next equal => simp [equal]
  · next different => exact map.get_delete_other different

/-- What is found after a deletion was there, under another key. -/
theorem of_get_delete {map : OrderedMap Key Value} {key other : Key} {value : Value}
    (found : (map.delete key).get other = some value) :
    other ≠ key ∧ map.get other = some value := by
  rw [get_delete] at found
  split at found
  · cases found
  · next different => exact ⟨different, found⟩

@[simp] theorem get_set_self (map : OrderedMap Key Value) (key : Key)
    (value : Value) : (map.set key value).get key = some value := by
  unfold set
  split
  · next present =>
      rcases (map.mem_keys_iff key).mp present with ⟨current, found⟩
      simp [get_mapValues, found]
  · simp [get_eq_some_iff]

theorem get_set_other (map : OrderedMap Key Value) {key other : Key} (value : Value)
    (different : other ≠ key) : (map.set key value).get other = map.get other := by
  unfold set
  split
  · cases found : map.get other <;> simp [get_mapValues, found, different]
  · ext found
    simp [get_eq_some_iff, different]

theorem get_set (map : OrderedMap Key Value) (key other : Key) (value : Value) :
    (map.set key value).get other =
      if other = key then some value else map.get other := by
  split
  · next equal => simp [equal]
  · next different => exact map.get_set_other value different

/-- What is found after a write is what was written, or was there under another key. -/
theorem of_get_set {map : OrderedMap Key Value} {key other : Key} {value found : Value}
    (isFound : (map.set key value).get other = some found) :
    other = key ∧ value = found ∨ other ≠ key ∧ map.get other = some found := by
  rw [get_set] at isFound
  split at isFound
  · next same => exact Or.inl ⟨same, Option.some.inj isFound⟩
  · next different => exact Or.inr ⟨different, isFound⟩

theorem mem_keys_set_iff {map : OrderedMap Key Value} {key other : Key} {value : Value} :
    other ∈ (map.set key value).keys ↔ other = key ∨ other ∈ map.keys := by
  rw [mem_keys_iff, mem_keys_iff, get_set]
  by_cases same : other = key <;> simp [same]

theorem mem_keys_delete_iff {map : OrderedMap Key Value} {key other : Key} :
    other ∈ (map.delete key).keys ↔ other ≠ key ∧ other ∈ map.keys := by
  rw [mem_keys_iff, mem_keys_iff, get_delete]
  by_cases same : other = key <;> simp [same]

theorem get_foldl_set_of_notMem {Entry : Type w} {entries : List Entry} {key : Entry → Key}
    {value : Entry → Value} {other : Key} (map : OrderedMap Key Value)
    (absent : other ∉ entries.map key) :
    (entries.foldl (fun map entry => map.set (key entry) (value entry)) map).get other =
      map.get other := by
  induction entries generalizing map with
  | nil => rfl
  | cons entry rest induction =>
      rw [List.map_cons, List.mem_cons, not_or] at absent
      rw [List.foldl_cons, induction _ absent.2, get_set_other _ _ absent.1]

/-- Entries with distinct keys are all found after they were set one by one. -/
theorem get_foldl_set_of_mem {Entry : Type w} {entries : List Entry} {key : Entry → Key}
    {value : Entry → Value} (map : OrderedMap Key Value) (nodup : (entries.map key).Nodup)
    {entry : Entry} (member : entry ∈ entries) :
    (entries.foldl (fun map entry => map.set (key entry) (value entry)) map).get (key entry) =
      some (value entry) := by
  induction entries generalizing map with
  | nil => cases member
  | cons head rest induction =>
      rcases List.nodup_cons.mp nodup with ⟨fresh, restNodup⟩
      rw [List.foldl_cons]
      rcases List.mem_cons.mp member with rfl | later
      · rw [get_foldl_set_of_notMem _ fresh, get_set_self]
      · exact induction _ restNodup later

@[simp] theorem has_eq_true_iff (map : OrderedMap Key Value) (key : Key) :
    map.has key = true ↔ ∃ value, map.get key = some value := by
  simp [has, Option.isSome_iff_exists]

/-! ## Entries -/

theorem get_of_has_eq_false {map : OrderedMap Key Value} {key : Key}
    (absent : map.has key = false) : map.get key = none :=
  Option.not_isSome_iff_eq_none.mp (Bool.not_eq_true _ ▸ absent)

theorem delete_eq_self_of_absent {map : OrderedMap Key Value} {key : Key}
    (absent : map.get key = none) : map.delete key = map := by
  have keysApart : ∀ entry ∈ map.entries, entry.1 ≠ key := fun entry member equal =>
    (map.get_eq_none_iff key).mp absent (List.mem_map.mpr ⟨entry, member, equal⟩)
  rcases map with ⟨entries, nodup⟩
  simpa [delete, filter] using fun other value member => keysApart (other, value) member

/-- Deleting a key that was just added to a map without it gives the map back. -/
theorem delete_set_of_absent {map : OrderedMap Key Value} {key : Key} (value : Value)
    (absent : map.get key = none) : (map.set key value).delete key = map := by
  have notKey := (map.get_eq_none_iff key).mp absent
  have unchanged := congrArg entries (delete_eq_self_of_absent absent)
  rcases map with ⟨entries, nodup⟩
  simp only [set, notKey, dite_false]
  simpa [delete, filter] using unchanged

theorem entries_set_of_mem {map : OrderedMap Key Value} {key : Key}
    (present : key ∈ map.keys) (value : Value) :
    (map.set key value).entries =
      map.entries.map fun entry => (entry.1, if entry.1 = key then value else entry.2) := by
  simp [set, present, mapValues]

theorem entries_set_of_notMem {map : OrderedMap Key Value} {key : Key}
    (absent : key ∉ map.keys) (value : Value) :
    (map.set key value).entries = map.entries ++ [(key, value)] := by
  simp [set, absent]

theorem values_set_of_absent {map : OrderedMap Key Value} {key : Key}
    (absent : map.get key = none) (value : Value) :
    (map.set key value).values = map.values ++ [value] := by
  rw [values, entries_set_of_notMem ((map.get_eq_none_iff key).mp absent), List.map_append]
  rfl

/-- What is deleted was one of the values. -/
theorem values_delete_perm {map : OrderedMap Key Value} {key : Key} {value : Value}
    (found : map.get key = some value) : map.values.Perm (value :: (map.delete key).values) := by
  rcases List.append_of_mem ((map.get_eq_some_iff key value).mp found) with ⟨first, rest, split⟩
  have distinct := map.nodup
  rw [split, List.map_append, List.map_cons, List.nodup_middle, List.nodup_cons] at distinct
  have others {entries : List (Key × Value)} (absent : key ∉ entries.map Prod.fst) :
      entries.filter (fun entry => decide (entry.1 ≠ key)) = entries :=
    List.filter_eq_self.mpr fun entry member =>
      decide_eq_true fun same => absent (List.mem_map.mpr ⟨entry, member, same⟩)
  rw [List.mem_append, not_or] at distinct
  have deleted : (map.delete key).entries = first ++ rest := by
    show map.entries.filter (fun entry => decide (entry.1 ≠ key)) = first ++ rest
    rw [split, List.filter_append, List.filter_cons, others distinct.1.1, others distinct.1.2]
    simp
  rw [values, values, split, deleted, List.map_append, List.map_append, List.map_cons]
  exact List.perm_middle

theorem mem_keys_set_self (map : OrderedMap Key Value) (key : Key) (value : Value) :
    key ∈ (map.set key value).keys :=
  mem_keys_set_iff.mpr (Or.inl rfl)

/-- Writing the value a key already has changes nothing, not even the order. -/
theorem set_eq_self_of_get {map : OrderedMap Key Value} {key : Key} {value : Value}
    (found : map.get key = some value) : map.set key value = map := by
  ext1
  rw [entries_set_of_mem ((map.mem_keys_iff key).mpr ⟨value, found⟩)]
  refine (List.map_congr_left ?_).trans (List.map_id _)
  rintro ⟨other, current⟩ member
  by_cases same : other = key
  · subst same
    have held := (map.get_eq_some_iff other current).mpr member
    rw [found] at held
    cases held
    simp
  · simp [same]

theorem set_set (map : OrderedMap Key Value) (key : Key) (first second : Value) :
    (map.set key first).set key second = map.set key second := by
  ext1
  rw [entries_set_of_mem (map.mem_keys_set_self key first)]
  by_cases present : key ∈ map.keys
  · rw [entries_set_of_mem present, entries_set_of_mem present, List.map_map]
    refine List.map_congr_left fun entry _ => ?_
    by_cases same : entry.1 = key <;> simp [same]
  · rw [entries_set_of_notMem present, entries_set_of_notMem present, List.map_append]
    congr 1
    · refine (List.map_congr_left ?_).trans (List.map_id _)
      intro entry member
      have apart : entry.1 ≠ key := fun same =>
        present (List.mem_map.mpr ⟨entry, member, same⟩)
      simp [apart]
    · simp

end OrderedMap

/-- An insertion-ordered set. -/
structure OrderedSet (α : Type u) where
  elements : List α
  nodup : elements.Nodup
deriving DecidableEq

namespace OrderedSet

variable {α : Type u}

def empty : OrderedSet α where
  elements := []
  nodup := by simp

instance : Membership α (OrderedSet α) := ⟨fun set value => value ∈ set.elements⟩

def isEmpty (set : OrderedSet α) : Bool := set.elements.isEmpty

@[simp] theorem mem_elements (set : OrderedSet α) (value : α) :
    value ∈ set.elements ↔ value ∈ set := Iff.rfl

@[simp] theorem notMem_empty (value : α) : value ∉ (empty : OrderedSet α) :=
  List.not_mem_nil

theorem isEmpty_iff (set : OrderedSet α) :
    set.isEmpty = true ↔ ∀ value, value ∉ set := by
  rw [isEmpty, List.isEmpty_iff, List.eq_nil_iff_forall_not_mem]
  rfl

variable [DecidableEq α]

instance (set : OrderedSet α) (value : α) : Decidable (value ∈ set) :=
  inferInstanceAs (Decidable (value ∈ set.elements))

def add (set : OrderedSet α) (value : α) : OrderedSet α :=
  if present : value ∈ set.elements then set
  else
    { elements := set.elements ++ [value]
      nodup := List.nodup_append.mpr ⟨set.nodup, List.nodup_singleton value, by
        intro other member added isValue equal
        exact present (List.mem_singleton.mp isValue ▸ equal ▸ member)⟩ }

def delete (set : OrderedSet α) (value : α) : OrderedSet α where
  elements := set.elements.filter fun other => other ≠ value
  nodup := set.nodup.filter _

/-- The set of a list's values, in the order of their first occurrence. -/
def ofList (values : List α) : OrderedSet α := values.foldl add empty

@[simp] theorem mem_add (set : OrderedSet α) (value other : α) :
    other ∈ set.add value ↔ other ∈ set ∨ other = value := by
  unfold add
  split
  · next present =>
      constructor
      · exact Or.inl
      · rintro (member | rfl)
        · exact member
        · exact present
  · simp [← mem_elements]

@[simp] theorem mem_delete (set : OrderedSet α) (value other : α) :
    other ∈ set.delete value ↔ other ∈ set ∧ other ≠ value := by
  simp [← mem_elements, delete]

@[simp] theorem mem_ofList (values : List α) (value : α) :
    value ∈ ofList values ↔ value ∈ values := by
  have general : ∀ (set : OrderedSet α),
      value ∈ values.foldl add set ↔ value ∈ set ∨ value ∈ values := by
    induction values with
    | nil => simp
    | cons head tail induction =>
        intro set
        simp [induction, or_assoc]
  simpa [ofList] using general empty

/-- Deleting a value that was just added to a set without it gives the set back. -/
theorem delete_add_of_notMem {set : OrderedSet α} {value : α} (absent : value ∉ set) :
    (set.add value).delete value = set := by
  rcases set with ⟨elements, nodup⟩
  have absentElements : value ∉ elements := absent
  have kept : elements.filter (fun other => other ≠ value) = elements :=
    List.filter_eq_self.mpr fun other member => by
      simpa using fun equal : other = value => absentElements (equal ▸ member)
  simpa [add, delete, absentElements] using kept

end OrderedSet

end DshRemote
