/-! Maps with text keys that remember the order in which their keys arrived. Writing a key that is
present keeps its place. -/
namespace Tenancy

structure OrderedMap (α : Type) where
  entries : List (String × α)

namespace OrderedMap

variable {α : Type}

def empty : OrderedMap α := ⟨[]⟩

instance : EmptyCollection (OrderedMap α) := ⟨empty⟩

def isEmpty (m : OrderedMap α) : Bool := m.entries.isEmpty

def size (m : OrderedMap α) : Nat := m.entries.length

def keys (m : OrderedMap α) : List String := m.entries.map (·.1)

def find? (key : String) : List (String × α) → Option α
  | [] => none
  | (k, value) :: rest => if k = key then some value else find? key rest

def get? (m : OrderedMap α) (key : String) : Option α := find? key m.entries

def contains (m : OrderedMap α) (key : String) : Bool := (m.get? key).isSome

def put (key : String) (value : α) : List (String × α) → List (String × α)
  | [] => [(key, value)]
  | (k, old) :: rest => if k = key then (k, value) :: rest else (k, old) :: put key value rest

def insert (m : OrderedMap α) (key : String) (value : α) : OrderedMap α :=
  ⟨put key value m.entries⟩

def erase (m : OrderedMap α) (key : String) : OrderedMap α :=
  ⟨m.entries.filter (fun entry => entry.1 ≠ key)⟩

def ofList (entries : List (String × α)) : OrderedMap α :=
  entries.foldl (fun m entry => m.insert entry.1 entry.2) ∅

theorem find?_put_self (key : String) (value : α) (entries : List (String × α)) :
    find? key (put key value entries) = some value := by
  induction entries with
  | nil => simp [put, find?]
  | cons entry rest ih =>
    simp only [put]
    split <;> simp_all [find?]

theorem find?_put_ne {key other : String} (different : other ≠ key) (value : α)
    (entries : List (String × α)) : find? other (put key value entries) = find? other entries := by
  induction entries with
  | nil => simp [put, find?, Ne.symm different]
  | cons entry rest ih =>
    simp only [put]
    split <;> simp_all [find?, Ne.symm different]

theorem find?_isSome_iff {key : String} {entries : List (String × α)} :
    (find? key entries).isSome = true ↔ key ∈ entries.map (·.1) := by
  induction entries with
  | nil => simp [find?]
  | cons entry rest ih =>
    rw [find?, List.map_cons, List.mem_cons, ← ih]
    split
    · rename_i same
      simp [same]
    · rename_i other
      simp [Ne.symm other]

theorem contains_iff {m : OrderedMap α} {key : String} : m.contains key = true ↔ key ∈ m.keys :=
  find?_isSome_iff

theorem isEmpty_iff {m : OrderedMap α} : m.isEmpty = true ↔ m.entries = [] := List.isEmpty_iff

@[simp] theorem get?_insert_self (m : OrderedMap α) (key : String) (value : α) :
    (m.insert key value).get? key = some value := find?_put_self key value m.entries

theorem get?_insert_ne (m : OrderedMap α) {key other : String} (different : other ≠ key)
    (value : α) : (m.insert key value).get? other = m.get? other :=
  find?_put_ne different value m.entries

theorem find?_filter_ne (key other : String) (entries : List (String × α)) :
    find? other (entries.filter fun entry => entry.1 ≠ key) =
      if other = key then none else find? other entries := by
  induction entries with
  | nil => simp [find?]
  | cons entry rest ih =>
    by_cases erased : entry.1 = key
    · rw [List.filter_cons_of_neg (by simpa using erased), ih, find?, erased]
      by_cases same : other = key
      · rw [if_pos same, if_pos same]
      · rw [if_neg same, if_neg same, if_neg (Ne.symm same)]
    · rw [List.filter_cons_of_pos (by simpa using erased), find?, find?, ih]
      by_cases found : entry.1 = other
      · have different : other ≠ key := fun same => erased (found.trans same)
        rw [if_pos found, if_pos found, if_neg different]
      · rw [if_neg found, if_neg found]

theorem get?_erase (m : OrderedMap α) (key other : String) :
    (m.erase key).get? other = if other = key then none else m.get? other :=
  find?_filter_ne key other m.entries

end OrderedMap
end Tenancy
