import SqlQuery.Bindings

/-! # Automatic names

Bindings that were all made without a name hold `p_0`, `p_1`, … in the order of binding: the next
number is always the number of values bound so far, so no name is ever taken twice.
-/

namespace SqlQuery

namespace Dictionary

variable {α : Type}

theorem length_insertEntry_of_absent {name : String} {value : α} {entries : List (String × α)}
    (absent : entryValue? name entries = none) :
    (insertEntry name value entries).length = entries.length + 1 := by
  induction entries with
  | nil => rfl
  | cons head rest ih =>
    obtain ⟨key, old⟩ := head
    rw [entryValue?] at absent
    split at absent
    · contradiction
    · rename_i different
      rw [insertEntry, if_neg different]
      split
      · rfl
      · simp only [List.length_cons, ih absent]

theorem size_insert_of_absent {dictionary : Dictionary α} {name : String} {value : α}
    (absent : dictionary.find? name = none) :
    (dictionary.insert name value).size = dictionary.size + 1 :=
  length_insertEntry_of_absent absent

end Dictionary

namespace Bindings

theorem automaticName_injective {first second : Nat}
    (same : automaticName first = automaticName second) : first = second := by
  have characters := congrArg String.toList same
  simp only [automaticName, String.toList_append] at characters
  have digits := List.append_cancel_left characters
  have read := congrArg (fun cs => Nat.ofDigitChars 10 cs 0) digits
  simpa [Nat.toString_eq_ofList_toDigits] using read

theorem firstFree_of_free {taken : Nat → Bool} {index : Nat} (free : taken index = false)
    (probes : Nat) : firstFree taken probes index = index := by
  cases probes <;> simp [firstFree, free]

/-- Bindings that hold the values, in order, under automatic names and nothing else. -/
structure Automatic (bindings : Bindings) (values : List Value) : Prop where
  size_eq : bindings.values.size = values.length
  find_iff : ∀ name value, bindings.values.find? name = some value ↔
    ∃ index, name = automaticName index ∧ values[index]? = some value

namespace Automatic

variable {bindings : Bindings} {values : List Value}

theorem fresh (marker : String) : Automatic { marker } [] where
  size_eq := rfl
  find_iff name value := by
    have absent : (∅ : Parameters).find? name = none := rfl
    simp [absent]

theorem find_automaticName (automatic : Automatic bindings values) (index : Nat) :
    bindings.values.find? (automaticName index) = values[index]? := by
  apply Option.ext
  intro value
  rw [automatic.find_iff]
  constructor
  · rintro ⟨other, same, found⟩
    rwa [automaticName_injective same]
  · intro found
    exact ⟨index, rfl, found⟩

theorem nextIndex_eq (automatic : Automatic bindings values) :
    bindings.nextIndex = values.length := by
  rw [nextIndex, automatic.size_eq]
  apply firstFree_of_free
  simp [Dictionary.contains, automatic.find_automaticName]

/-- Binding one more value gives the placeholder of its number. -/
theorem bind_fst (automatic : Automatic bindings values) (value : Value) :
    (bindings.bind value).1 = bindings.marker ++ automaticName values.length := by
  rw [bind, automatic.nextIndex_eq]
  rfl

theorem bind_snd (automatic : Automatic bindings values) (value : Value) :
    Automatic (bindings.bind value).2 (values ++ [value]) := by
  rw [bind, automatic.nextIndex_eq]
  have absent : bindings.values.find? (automaticName values.length) = none := by
    simp [automatic.find_automaticName]
  constructor
  · simp only [bindNamed, Dictionary.size_insert_of_absent absent, automatic.size_eq,
      List.length_append, List.length_singleton]
  · intro name found
    simp only [bindNamed, Dictionary.find?_insert, List.getElem?_append]
    by_cases last : name = automaticName values.length
    · subst last
      rw [if_pos rfl]
      constructor
      · intro same
        refine ⟨values.length, rfl, ?_⟩
        simpa using same
      · rintro ⟨index, same, bound⟩
        obtain rfl := automaticName_injective same
        simpa using bound
    · rw [if_neg last, automatic.find_iff]
      constructor
      · rintro ⟨index, rfl, bound⟩
        refine ⟨index, rfl, ?_⟩
        have before : index < values.length := (List.getElem?_eq_some_iff.mp bound).1
        rwa [if_pos before]
      · rintro ⟨index, rfl, bound⟩
        refine ⟨index, rfl, ?_⟩
        split at bound
        · exact bound
        · rename_i beyond
          have single := (List.getElem?_eq_some_iff.mp bound).1
          simp only [List.length_singleton] at single
          have equal : index = values.length := by omega
          exact absurd (congrArg automaticName equal) last

end Automatic

end Bindings

end SqlQuery
