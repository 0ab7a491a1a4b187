/-! # Dictionaries

A dictionary maps names to values and lists its entries by name, each name once. The order is part
of the type, so two dictionaries that answer every look-up alike are equal.
-/

namespace SqlQuery

/-- Entries sorted by strictly increasing name. -/
structure Dictionary (α : Type) where
  entries : List (String × α)
  sorted : entries.Pairwise (fun a b => a.1 < b.1)

namespace Dictionary

variable {α β : Type}

/-- Adds an entry at its place, replacing the value of a name already present. -/
def insertEntry (name : String) (value : α) : List (String × α) → List (String × α)
  | [] => [(name, value)]
  | (key, old) :: rest =>
    if name < key then (name, value) :: (key, old) :: rest
    else if name = key then (name, value) :: rest
    else (key, old) :: insertEntry name value rest

theorem mem_insertEntry {name : String} {value : α} {entry : String × α}
    {entries : List (String × α)} (member : entry ∈ insertEntry name value entries) :
    entry = (name, value) ∨ entry ∈ entries := by
  induction entries with
  | nil => simpa [insertEntry] using member
  | cons head rest ih =>
    obtain ⟨key, old⟩ := head
    rw [insertEntry] at member
    split at member
    · simpa using member
    · split at member
      · rcases List.mem_cons.mp member with same | later
        · exact .inl same
        · exact .inr (List.mem_cons_of_mem _ later)
      · rcases List.mem_cons.mp member with same | later
        · exact .inr (by simp [same])
        · exact (ih later).imp id (List.mem_cons_of_mem _)

theorem pairwise_insertEntry (name : String) (value : α) {entries : List (String × α)}
    (sorted : entries.Pairwise (fun a b => a.1 < b.1)) :
    (insertEntry name value entries).Pairwise (fun a b => a.1 < b.1) := by
  induction entries with
  | nil => simp [insertEntry]
  | cons head rest ih =>
    obtain ⟨key, old⟩ := head
    rw [insertEntry]
    have above := (List.pairwise_cons.mp sorted).1
    have tail := (List.pairwise_cons.mp sorted).2
    split
    · rename_i before
      refine List.pairwise_cons.mpr ⟨?_, sorted⟩
      intro entry member
      rcases List.mem_cons.mp member with same | later
      · simpa [same] using before
      · exact String.lt_trans before (above entry later)
    · rename_i notBefore
      split
      · rename_i same
        subst same
        exact List.pairwise_cons.mpr ⟨above, tail⟩
      · rename_i different
        refine List.pairwise_cons.mpr ⟨?_, ih tail⟩
        intro entry member
        rcases mem_insertEntry member with same | later
        · subst same
          have atMost : key ≤ name := String.not_lt.mp notBefore
          by_cases strict : key < name
          · exact strict
          · exact absurd (String.le_antisymm (String.not_lt.mp strict) atMost) different
        · exact above entry later

def empty : Dictionary α := ⟨[], List.Pairwise.nil⟩

instance : EmptyCollection (Dictionary α) := ⟨empty⟩

instance : Inhabited (Dictionary α) := ⟨empty⟩

/-- Sets the value of a name. -/
def insert (dictionary : Dictionary α) (name : String) (value : α) : Dictionary α :=
  ⟨insertEntry name value dictionary.entries, pairwise_insertEntry name value dictionary.sorted⟩

/-- The value of the first entry with a name. -/
def entryValue? (name : String) : List (String × α) → Option α
  | [] => none
  | (key, value) :: rest => if name = key then some value else entryValue? name rest

def find? (dictionary : Dictionary α) (name : String) : Option α :=
  entryValue? name dictionary.entries

def contains (dictionary : Dictionary α) (name : String) : Bool :=
  (dictionary.find? name).isSome

def size (dictionary : Dictionary α) : Nat :=
  dictionary.entries.length

def isEmpty (dictionary : Dictionary α) : Bool :=
  dictionary.entries.isEmpty

def names (dictionary : Dictionary α) : List String :=
  dictionary.entries.map (·.1)

/-- Of several entries with one name the last one counts. -/
def ofList (entries : List (String × α)) : Dictionary α :=
  entries.foldl (fun dictionary entry => dictionary.insert entry.1 entry.2) empty

@[ext] theorem ext {left right : Dictionary α} (same : left.entries = right.entries) :
    left = right := by
  cases left
  cases right
  simp_all

theorem entryValue?_insertEntry (name key : String) (value : α) (entries : List (String × α)) :
    entryValue? key (insertEntry name value entries) =
      if key = name then some value else entryValue? key entries := by
  induction entries with
  | nil => rfl
  | cons head rest ih =>
    obtain ⟨first, old⟩ := head
    rw [insertEntry]
    split
    · rfl
    · split
      · rename_i equal
        subst equal
        by_cases same : key = name <;> simp [entryValue?, same]
      · rename_i different
        by_cases same : key = name
        · subst same
          simpa [entryValue?, different] using ih
        · simp [entryValue?, ih, same]

theorem find?_insert (dictionary : Dictionary α) (name key : String) (value : α) :
    (dictionary.insert name value).find? key =
      if key = name then some value else dictionary.find? key :=
  entryValue?_insertEntry name key value dictionary.entries

@[simp] theorem find?_empty (key : String) : (empty : Dictionary α).find? key = none := rfl

end Dictionary

end SqlQuery
