/-!
# Named values

Lists of values under names, as the objects of JSON and the tables of TOML hold them, and the
operations that keep them in ascending order of the names' code points, each name once.

## Main definitions

* `Fields`: a list of named values; `Fields.Sorted` is the order its operations keep.
* `Fields.get?`, `Fields.insert`, `Fields.filterMap`.
-/
namespace Dispatch

/-- Values under names. -/
abbrev Fields (α : Type) : Type := List (String × α)

namespace Fields

variable {α : Type}

/-- The names in order. -/
def names (fields : Fields α) : List String := fields.map (·.1)

/-- The names ascend strictly. -/
def Sorted (fields : Fields α) : Prop := fields.Pairwise fun a b => a.1 < b.1

/-- The value under a name. -/
def get? : Fields α → String → Option α
  | [], _ => none
  | (k, v) :: rest, name => if k = name then some v else get? rest name

/-- Whether a name has a value. -/
def contains (fields : Fields α) (name : String) : Bool := (fields.get? name).isSome

/-- Puts a value under a name, in place of an earlier one. -/
def insert : Fields α → String → α → Fields α
  | [], name, value => [(name, value)]
  | (k, v) :: rest, name, value =>
    if name < k then (name, value) :: (k, v) :: rest
    else if name = k then (name, value) :: rest
    else (k, v) :: insert rest name value

/-- Replaces the values by what is made of them, and leaves out those nothing is made of. -/
def filterMap {β : Type} (f : String → α → Option β) (fields : Fields α) : Fields β :=
  List.filterMap (fun entry => (f entry.1 entry.2).map (entry.1, ·)) fields

@[simp] theorem get?_nil (name : String) : get? ([] : Fields α) name = none := rfl

theorem get?_cons (k : String) (v : α) (rest : Fields α) (name : String) :
    get? ((k, v) :: rest) name = if k = name then some v else get? rest name := rfl

theorem get?_insert_self (fields : Fields α) (name : String) (value : α) :
    (fields.insert name value).get? name = some value := by
  induction fields with
  | nil => simp [insert, get?]
  | cons entry rest ih =>
    obtain ⟨k, v⟩ := entry
    simp only [insert]
    split
    · simp [get?]
    · split
      · simp [get?]
      · next other => simp [get?, Ne.symm other, ih]

theorem get?_insert_of_ne {fields : Fields α} {name other : String} (value : α)
    (h : other ≠ name) : (fields.insert name value).get? other = fields.get? other := by
  induction fields with
  | nil => simp [insert, get?, Ne.symm h]
  | cons entry rest ih =>
    obtain ⟨k, v⟩ := entry
    simp only [insert]
    split
    · simp [get?, Ne.symm h]
    · split
      · next same =>
        subst same
        simp [get?, Ne.symm h]
      · simp [get?, ih]

theorem mem_names_insert {fields : Fields α} {name other : String} {value : α} :
    other ∈ (fields.insert name value).names ↔ other = name ∨ other ∈ fields.names := by
  induction fields with
  | nil => simp [insert, names]
  | cons entry rest ih =>
    obtain ⟨k, v⟩ := entry
    simp only [insert]
    split
    · simp [names]
    · split
      · next same => simp [names, same]
      · simp only [names, List.map_cons, List.mem_cons] at ih ⊢
        rw [ih]
        exact or_left_comm

/-- A name has no value exactly when it is not listed. -/
theorem get?_eq_none_iff {fields : Fields α} {name : String} :
    fields.get? name = none ↔ name ∉ fields.names := by
  induction fields with
  | nil => simp [names]
  | cons entry rest ih =>
    obtain ⟨k, v⟩ := entry
    simp only [names, List.map_cons, List.mem_cons, not_or] at ih ⊢
    rw [get?_cons]
    by_cases same : k = name
    · simp [same]
    · simp [same, Ne.symm same, ih]

/-- When no name is listed twice, a value is listed exactly under the name that has it. -/
theorem mem_iff_get? {fields : Fields α} (once : fields.names.Nodup) {name : String} {value : α} :
    (name, value) ∈ fields ↔ fields.get? name = some value := by
  induction fields with
  | nil => simp
  | cons entry rest ih =>
    obtain ⟨k, v⟩ := entry
    obtain ⟨other, later⟩ := List.nodup_cons.1 once
    rw [List.mem_cons, ih later, get?_cons]
    by_cases same : k = name
    · subst same
      simp [get?_eq_none_iff.2 other, eq_comm]
    · simp [same, Ne.symm same]

namespace Sorted

variable {fields fields' : Fields α}

/-- The first name is below all others. -/
theorem lt_of_mem {k : String} {v : α} {rest : Fields α} (h : Sorted ((k, v) :: rest))
    {name : String} (later : name ∈ rest.names) : k < name := by
  obtain ⟨entry, among, rfl⟩ := List.mem_map.1 later
  exact (List.pairwise_cons.1 h).1 entry among

/-- A name below the first has no value. -/
theorem get?_of_lt {k : String} {v : α} {rest : Fields α} (h : Sorted ((k, v) :: rest))
    {name : String} (below : name < k) : get? ((k, v) :: rest) name = none := by
  rw [get?_eq_none_iff]
  intro listed
  rcases List.mem_cons.1 listed with rfl | later
  · exact String.lt_irrefl _ below
  · exact String.lt_irrefl _ (String.lt_trans below (h.lt_of_mem later))

/-- The first name has no other value. -/
theorem get?_rest {k : String} {v : α} {rest : Fields α} (h : Sorted ((k, v) :: rest)) :
    get? rest k = none :=
  get?_eq_none_iff.2 fun later => String.lt_irrefl k (h.lt_of_mem later)

/-- Insertion keeps the order. -/
theorem insert (h : fields.Sorted) (name : String) (value : α) :
    (Fields.insert fields name value).Sorted := by
  induction fields with
  | nil => simp [Fields.insert, Sorted]
  | cons entry rest ih =>
    obtain ⟨k, v⟩ := entry
    simp only [Fields.insert]
    obtain ⟨above, ascends⟩ := List.pairwise_cons.1 h
    split
    · next below =>
      refine List.pairwise_cons.2 ⟨fun e among => ?_, h⟩
      rcases List.mem_cons.1 among with rfl | later
      · exact below
      · exact String.lt_trans below (above e later)
    · split
      · next same =>
        subst same
        exact List.pairwise_cons.2 ⟨above, ascends⟩
      · next not_below other =>
        refine List.pairwise_cons.2 ⟨fun e among => ?_, ih ascends⟩
        have listed : e.1 ∈ names (Fields.insert rest name value) := List.mem_map_of_mem among
        rcases mem_names_insert.1 listed with new | old
        · rw [new]
          exact Std.lt_of_le_of_ne (String.not_lt.1 not_below) (Ne.symm other)
        · exact h.lt_of_mem old

/-- Values may be replaced and left out under their names. -/
theorem filterMap (h : fields.Sorted) {β : Type} (f : String → α → Option β) :
    (Fields.filterMap f fields).Sorted := by
  refine List.Pairwise.filterMap _ (fun a b less a' made b' made' => ?_) h
  obtain ⟨_, -, rfl⟩ := Option.map_eq_some_iff.1 made
  obtain ⟨_, -, rfl⟩ := Option.map_eq_some_iff.1 made'
  exact less

/-- What is left under a name depends on the value there alone. -/
theorem get?_filterMap (h : fields.Sorted) {β : Type} (f : String → α → Option β)
    (name : String) : (Fields.filterMap f fields).get? name = (fields.get? name).bind (f name) := by
  induction fields with
  | nil => rfl
  | cons entry rest ih =>
    obtain ⟨k, v⟩ := entry
    have others := ih (List.pairwise_cons.1 h).2
    simp only [Fields.filterMap, List.filterMap_cons, get?_cons] at others ⊢
    by_cases same : k = name
    · subst same
      rw [h.get?_rest] at others
      cases left : f k v with
      | none => simpa [left] using others
      | some w => simp [left, get?_cons]
    · cases left : f k v with
      | none => simpa [left, same] using others
      | some w => simpa [left, get?_cons, same] using others

/-- No name is listed twice. -/
theorem nodup_names (h : fields.Sorted) : fields.names.Nodup := by
  refine List.pairwise_map.2 (List.Pairwise.imp (fun {a b} less same => ?_) h)
  exact String.lt_irrefl a.1 (same ▸ less)

/-- A name that is listed already brings no other. -/
theorem names_insert (h : fields.Sorted) {name : String} (known : name ∈ fields.names)
    (value : α) : (Fields.insert fields name value).names = fields.names := by
  induction fields with
  | nil => simp [names] at known
  | cons entry rest ih =>
    obtain ⟨k, v⟩ := entry
    simp only [Fields.insert]
    split
    · next before => exact absurd known (get?_eq_none_iff.1 (h.get?_of_lt before))
    · split
      · next same => simp [names, same]
      · next other =>
        have later : name ∈ names rest := (List.mem_cons.1 known).resolve_left other
        simpa [names] using ih (List.pairwise_cons.1 h).2 later

/-- Named values in order are determined by the value under each name. -/
theorem ext (h : fields.Sorted) (h' : fields'.Sorted)
    (same : ∀ name, fields.get? name = fields'.get? name) : fields = fields' := by
  induction fields generalizing fields' with
  | nil =>
    cases fields' with
    | nil => rfl
    | cons entry' rest' => simpa [get?] using same entry'.1
  | cons entry rest ih =>
    obtain ⟨k, v⟩ := entry
    cases fields' with
    | nil => simpa [get?] using same k
    | cons entry' rest' =>
      obtain ⟨k', v'⟩ := entry'
      -- the lower of two different first names would have a value on one side only
      have first : k = k' := by
        apply String.le_antisymm
        · exact String.not_lt.1 fun below => by simpa [get?_cons, h.get?_of_lt below] using same k'
        · exact String.not_lt.1 fun below => by simpa [get?_cons, h'.get?_of_lt below] using same k
      subst first
      have value : v = v' := by simpa [get?_cons] using same k
      have others : rest = rest' := by
        refine ih (List.pairwise_cons.1 h).2 (List.pairwise_cons.1 h').2 fun name => ?_
        by_cases here : k = name
        · rw [← here, h.get?_rest, h'.get?_rest]
        · simpa [get?_cons, here] using same name
      rw [value, others]

end Sorted

end Fields

end Dispatch
