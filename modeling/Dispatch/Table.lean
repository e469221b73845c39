import Dispatch.Fields

/-!
# Tables

A table lists values under names, in ascending order of the names' code points, each name
once. That order is also the order of the names' UTF-8 bytes. A table is what it has under each
name (`Table.ext`).

## Main definitions

* `Table`: named values in order.
* `Table.get?`, `Table.insert`, `Table.insertIfNew`, `Table.filterMap`, `Table.ofList`.
-/
namespace Dispatch

/-- Values under names that ascend. -/
structure Table (α : Type) where
  fields : Fields α
  sorted : fields.Sorted
  deriving DecidableEq, Repr

namespace Table

variable {α β : Type}

instance : EmptyCollection (Table α) := ⟨⟨[], .nil⟩⟩

instance : Inhabited (Table α) := ⟨∅⟩

/-- The names in order. -/
def names (t : Table α) : List String := t.fields.names

/-- The value under a name. -/
def get? (t : Table α) (name : String) : Option α := t.fields.get? name

/-- Whether a name has a value. -/
def contains (t : Table α) (name : String) : Bool := t.fields.contains name

/-- Puts a value under a name, in place of an earlier one. -/
def insert (t : Table α) (name : String) (value : α) : Table α :=
  ⟨t.fields.insert name value, t.sorted.insert name value⟩

/-- Puts a value under a name that has none. -/
def insertIfNew (t : Table α) (name : String) (value : α) : Table α :=
  if t.contains name then t else t.insert name value

/-- Replaces the values by what is made of them, and leaves out those nothing is made of. -/
def filterMap (f : String → α → Option β) (t : Table α) : Table β :=
  ⟨t.fields.filterMap f, t.sorted.filterMap f⟩

/-- The table of a list of named values; of two under one name the later counts. -/
def ofList (entries : List (String × α)) : Table α :=
  entries.foldl (fun t entry => t.insert entry.1 entry.2) ∅

@[simp] theorem names_empty : (∅ : Table α).names = [] := rfl

@[simp] theorem get?_empty (name : String) : (∅ : Table α).get? name = none := rfl

@[simp] theorem get?_insert_self (t : Table α) (name : String) (value : α) :
    (t.insert name value).get? name = some value :=
  t.fields.get?_insert_self name value

theorem get?_insert_of_ne {t : Table α} {name other : String} (value : α)
    (h : other ≠ name) : (t.insert name value).get? other = t.get? other :=
  Fields.get?_insert_of_ne value h

/-- What a table holds under a name after an insertion. -/
theorem get?_insert (t : Table α) (name other : String) (value : α) :
    (t.insert name value).get? other = if other = name then some value else t.get? other := by
  by_cases h : other = name
  · simp [h]
  · simp [h, get?_insert_of_ne value h]

theorem get?_insertIfNew (t : Table α) (name other : String) (value : α) :
    (t.insertIfNew name value).get? other =
      (t.get? other).or (if name = other then some value else none) := by
  have known : t.contains name = (t.get? name).isSome := rfl
  rw [insertIfNew, known]
  by_cases same : name = other
  · subst same
    cases held : t.get? name <;> simp [held]
  · split
    · simp
    · simp [get?_insert_of_ne value (Ne.symm same)]

theorem get?_filterMap (f : String → α → Option β) (t : Table α) (name : String) :
    (t.filterMap f).get? name = (t.get? name).bind (f name) :=
  t.sorted.get?_filterMap f name

/-- **A table is what it has under each name.** -/
@[ext]
theorem ext {t t' : Table α} (same : ∀ name, t.get? name = t'.get? name) : t = t' :=
  (mk.injEq ..).mpr (t.sorted.ext t'.sorted same)

/-- A name has a value exactly when the table lists it. -/
theorem get?_eq_none_iff {t : Table α} {name : String} : t.get? name = none ↔ name ∉ t.names :=
  Fields.get?_eq_none_iff

theorem mem_names_insert {t : Table α} {name other : String} {value : α} :
    other ∈ (t.insert name value).names ↔ other = name ∨ other ∈ t.names :=
  Fields.mem_names_insert

/-- A name that is listed already brings no other. -/
theorem names_insert {t : Table α} {name : String} (known : name ∈ t.names) (value : α) :
    (t.insert name value).names = t.names :=
  t.sorted.names_insert known value

/-- No name is listed twice. -/
theorem nodup_names (t : Table α) : t.names.Nodup := t.sorted.nodup_names

end Table

end Dispatch
