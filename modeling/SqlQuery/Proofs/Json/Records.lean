import SqlQuery.Expression.Json
import SqlQuery.Proofs.Json.RoundTrip

/-! # Written records are read back

What the decoders of records do on a record that was written: each field is found by its name, given
once, and the kind of a tagged record is told from its other fields. A tree of tagged records is
read from its leaves up.
-/

namespace SqlQuery

/-! ## Entries in order -/

namespace Dictionary

variable {α : Type}

theorem insertEntry_of_forall_lt {name : String} (value : α) {entries : List (String × α)}
    (below : ∀ entry ∈ entries, entry.1 < name) :
    insertEntry name value entries = entries ++ [(name, value)] := by
  induction entries with
  | nil => rfl
  | cons head rest ih =>
    obtain ⟨first, others⟩ := List.forall_mem_cons.mp below
    rw [insertEntry, if_neg (String.lt_asymm first), if_neg (String.ne_of_lt first).symm,
      ih others, List.cons_append]

/-- Entries in order are added each behind the ones before. -/
theorem entries_foldl_insert (entries : List (String × α)) (dictionary : Dictionary α)
    (sorted : (dictionary.entries ++ entries).Pairwise fun a b => a.1 < b.1) :
    (entries.foldl (fun dictionary entry => dictionary.insert entry.1 entry.2)
      dictionary).entries = dictionary.entries ++ entries := by
  induction entries generalizing dictionary with
  | nil => rw [List.foldl_nil, List.append_nil]
  | cons entry rest ih =>
    have below : ∀ other ∈ dictionary.entries, other.1 < entry.1 := fun other belongs =>
      (List.pairwise_append.mp sorted).2.2 other belongs entry List.mem_cons_self
    have added : (dictionary.insert entry.1 entry.2).entries = dictionary.entries ++ [entry] :=
      insertEntry_of_forall_lt entry.2 below
    rw [List.foldl_cons, ih, added, List.append_assoc, List.singleton_append]
    rwa [added, List.append_assoc, List.singleton_append]

@[simp] theorem ofList_entries (dictionary : Dictionary α) :
    ofList dictionary.entries = dictionary :=
  ext (entries_foldl_insert dictionary.entries empty dictionary.sorted)

end Dictionary

namespace Json

/-! ## Fields by name -/

namespace Record

variable {α β : Type} {name key : String} {value : α} {members : List (String × α)}

@[simp] theorem withName_nil : withName name ([] : List (String × α)) = [] := rfl

@[simp] theorem withName_self :
    withName name ((name, value) :: members) = (name, value) :: withName name members := by
  simp [withName]

@[simp] theorem withName_of_ne (different : key ≠ name) :
    withName name ((key, value) :: members) = withName name members := by
  simp [withName, different]

@[simp] theorem fits_named (arity : Nat) : (named members).fits arity = true := rfl

/-- The kind of a tagged record stands before its fields. -/
theorem tagged?_named (kind : α) (others : "kind" ∉ members.map Prod.fst) :
    (named (("kind", kind) :: members)).tagged? = some (kind, named members) := by
  have different : ∀ member ∈ members, member.1 ≠ "kind" := by
    rintro member belongs same
    exact others (List.mem_map.mpr ⟨member, belongs, same⟩)
  have kinds : withName "kind" members = [] := by
    simpa [withName] using different
  have fields : members.filter (fun member => member.1 ≠ "kind") = members := by
    simpa using different
  rw [tagged?, withName_self, kinds, List.filter_cons_of_neg (by simp), fields]

end Record

@[simp] theorem record?_object (members : List (String × Json)) :
    record? (object members) = some (.named members) := rfl

/-! ## Scalars -/

section Scalars

@[simp] theorem bool?_bool (value : Bool) : bool? (bool value) = some value := rfl

@[simp] theorem string?_string (value : String) : string? (string value) = some value := rfl

@[simp] theorem character?_ofCharacter (c : Char) : character? (ofCharacter c) = some c := by
  rw [ofCharacter, character?, String.toList_singleton]

@[simp] theorem uint64?_integer (value : UInt64) :
    uint64? (integer value.toNat) = some value := by
  have bound : (value.toNat : Int) < 18446744073709551616 := Int.ofNat_lt.mpr value.toNat_lt
  simp [uint64?, natural?, bound]

@[simp] theorem uint16?_integer (value : UInt16) :
    uint16? (integer value.toNat) = some value := by
  have bound : (value.toNat : Int) < 65536 := Int.ofNat_lt.mpr value.toNat_lt
  simp [uint16?, natural?, bound]

/-- What is written as null is read as none, provided that nothing else is. -/
theorem nullable_ofOption {α : Type} {encode : α → Json} {decode : Json → Option α}
    (given : Option α) (decoded : ∀ value ∈ given, decode (encode value) = some value)
    (nonNull : ∀ value ∈ given, encode value ≠ null) :
    nullable decode (ofOption encode given) = some given := by
  cases given with
  | none => rfl
  | some value =>
    have read := decoded value rfl
    have other := nonNull value rfl
    rw [ofOption, nullable, read, Option.map_some]
    exact other

@[simp] theorem nullable_string (given : Option String) :
    nullable string? (ofOption string given) = some given :=
  nullable_ofOption given (fun _ _ => rfl) (fun _ _ => nofun)

@[simp] theorem nullable_character (given : Option Char) :
    nullable character? (ofOption ofCharacter given) = some given :=
  nullable_ofOption given (fun c _ => character?_ofCharacter c) (fun _ _ => nofun)

/-- What is written item by item is read item by item. -/
theorem mapM_map_eq_some {α β : Type} {encode : α → β} {decode : β → Option α} {values : List α}
    (decoded : ∀ value ∈ values, decode (encode value) = some value) :
    (values.map encode).mapM decode = some values := by
  induction values with
  | nil => rfl
  | cons value rest ih =>
    obtain ⟨head, tail⟩ := List.forall_mem_cons.mp decoded
    rw [List.map_cons, List.mapM_cons, head, ih tail]
    rfl

theorem list?_map {α : Type} {encode : α → Json} {decode : Json → Option α} (values : List α)
    (decoded : ∀ value ∈ values, decode (encode value) = some value) :
    list? decode (array (values.map encode)) = some values := by
  rw [list?, mapM_map_eq_some decoded]

end Scalars

/-! ## Dictionaries -/

section Dictionaries

variable {α : Type}

theorem dictionary?_entries {encode : α → Json} {decode : Json → Option α}
    (dictionary : Dictionary α)
    (decoded : ∀ entry ∈ dictionary.entries, decode (encode entry.2) = some entry.2) :
    dictionary? decode (object (dictionary.entries.map fun entry => (entry.1, encode entry.2))) =
      some dictionary := by
  have each : (dictionary.entries.map fun entry => (entry.1, encode entry.2)).mapM (fun member =>
      (decode member.2).map fun value => (member.1, value)) = some dictionary.entries := by
    apply mapM_map_eq_some
    intro entry belongs
    rw [decoded entry belongs, Option.map_some]
  rw [dictionary?, each, Option.map_some, Dictionary.ofList_entries]

end Dictionaries

/-! ## Written parts -/

namespace Faithful

variable {double? : Numeral → Option Binary64}

theorem tagged (kind : String) {fields : List (String × Json)}
    (each : ∀ field ∈ fields, Faithful double? field.2) : Faithful double? (.tagged kind fields) :=
  .object (List.forall_mem_cons.mpr ⟨.string kind, each⟩)

theorem natural {value : Nat} (below : value < UInt64.size) :
    Faithful double? (.integer value) := by
  refine .integer ?_
  have above : Int64.minValue.toInt ≤ value := Int.le_trans (by decide) (Int.natCast_nonneg value)
  rw [integerInRange, Bool.and_eq_true]
  exact ⟨decide_eq_true above, decide_eq_true (Int.ofNat_lt.mpr below)⟩

theorem map {α : Type} {encode : α → Json} {values : List α}
    (each : ∀ value ∈ values, Faithful double? (encode value)) :
    Faithful double? (.array (values.map encode)) :=
  .array (List.forall_mem_map.mpr each)

theorem ofOption {α : Type} {encode : α → Json} {given : Option α}
    (each : ∀ value ∈ given, Faithful double? (encode value)) :
    Faithful double? (.ofOption encode given) := by
  cases given with
  | none => exact .null
  | some value => exact each value rfl

theorem character (given : Option Char) : Faithful double? (.ofOption .ofCharacter given) :=
  ofOption fun c _ => .string (String.singleton c)

theorem text (given : Option String) : Faithful double? (.ofOption .string given) :=
  ofOption fun value _ => .string value

end Faithful

/-! ## Trees -/

section Trees

variable {α : Type} {assemble : Json → Record (Node α) → Option α}

@[simp] theorem json_node (json : Json) : (node assemble json).json = json := by
  cases json <;> rfl

theorem nodes_eq_map (items : List Json) : nodes assemble items = items.map (node assemble) := by
  induction items with
  | nil => rfl
  | cons item rest ih => rw [nodes, ih, List.map_cons]

theorem memberNodes_eq_map (members : List (String × Json)) :
    memberNodes assemble members =
      members.map fun member => (member.1, node assemble member.2) := by
  induction members with
  | nil => rfl
  | cons member rest ih => rw [memberNodes, ih, List.map_cons]

/-- A tagged record is assembled from its kind and the nodes of its fields. -/
theorem ofContent?_tagged (whole : Json → Record (Node α) → Option α) (kind : String)
    {fields : List (String × Json)} (others : "kind" ∉ fields.map Prod.fst) :
    ofContent? whole (.named (memberNodes assemble (("kind", .string kind) :: fields))) =
      whole (.string kind) (.named (memberNodes assemble fields)) := by
  have names : "kind" ∉ (memberNodes assemble fields).map Prod.fst := by
    simpa [memberNodes_eq_map] using others
  rw [ofContent?, memberNodes, Record.tagged?_named _ names]
  rfl

theorem list_node_map {encode : α → Json} {values : List α}
    (each : ∀ value ∈ values, (node assemble (encode value)).single = some value) :
    (node assemble (array (values.map encode))).list = some values := by
  change (nodes assemble (values.map encode)).mapM Node.single = some values
  rw [nodes_eq_map, List.map_map]
  exact mapM_map_eq_some each

/-- A tree is read as its node, given that kinds are read alike inside and outside a record. -/
theorem tree?_tagged {assemble : Bool → Json → Record (Node α) → Option α}
    (alike : ∀ kind fields, assemble false (.string kind) fields =
      assemble true (.string kind) fields) {kind : String} {fields : List (String × Json)}
    (others : "kind" ∉ fields.map Prod.fst) (readable : (tagged kind fields).isReadable = true) :
    tree? assemble (tagged kind fields) = (node (assemble true) (tagged kind fields)).single := by
  have outside : tree? assemble (tagged kind fields) = ofContent? (assemble false)
      (.named (memberNodes (assemble true) (("kind", .string kind) :: fields))) := by
    rw [tagged] at readable ⊢
    rw [tree?, if_pos readable]
  have inside : (node (assemble true) (tagged kind fields)).single = ofContent? (assemble true)
      (.named (memberNodes (assemble true) (("kind", .string kind) :: fields))) := rfl
  rw [outside, inside, ofContent?_tagged _ kind others, ofContent?_tagged _ kind others, alike]

end Trees

end Json

end SqlQuery
