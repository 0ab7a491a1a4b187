import Mathlib.Data.List.Forall2
import SqlQuery.Proofs.Number.Shortest

/-! # Written JSON is read back

A value without unreadable parts whose numbers are all read back is read back as a whole, from its
compact and from its pretty form. The induction shows of each part that its text is cut into tokens
which the reader delivers as that part, wherever it stands.
-/

namespace SqlQuery.Json

/-- A rule for numbers gives a number back from the numeral that it is written as. -/
def Restores (double? : Numeral → Option Binary64) (x : Binary64) : Prop :=
  ∀ numeral, readNumber? (doubleText x).toList = some (numeral, []) → double? numeral = some x

instance (double? : Numeral → Option Binary64) (x : Binary64) : Decidable (Restores double? x) :=
  decidable_of_iff
    (∀ read ∈ readNumber? (doubleText x).toList, read.2 = [] → double? read.1 = some x)
    ⟨fun each numeral read => each (numeral, []) read rfl, fun given read found ended =>
      given read.1 (by rw [← ended]; exact found)⟩

/-- JSON that a text can hold. -/
inductive Faithful (double? : Numeral → Option Binary64) : Json → Prop
  | null : Faithful double? null
  | bool (value : Bool) : Faithful double? (bool value)
  | integer {value : Int} (inRange : integerInRange value = true) :
    Faithful double? (integer value)
  | double {value : Binary64} (finite : value.isFinite = true) (restored : Restores double? value) :
    Faithful double? (double value)
  | string (value : String) : Faithful double? (string value)
  | array {items : List Json} (each : ∀ item ∈ items, Faithful double? item) :
    Faithful double? (array items)
  | object {members : List (String × Json)}
    (each : ∀ member ∈ members, Faithful double? member.2) : Faithful double? (object members)

variable {double? : Numeral → Option Binary64}

/-! ## Delivered values -/

/-- Tokens that are taken as a value, also where the first item of an array is expected. -/
structure Delivers (double? : Numeral → Option Binary64) (tokens : List Token) (json : Json) :
    Prop where
  value : ∀ stack rest, Reading.run double? (.value stack) (tokens ++ rest) =
    Reading.run double? (Reading.deliver json stack) rest
  first : ∀ stack rest, Reading.run double? (.firstItem stack) (tokens ++ rest) =
    Reading.run double? (Reading.deliver json (.array [] :: stack)) rest

/-- Only a closing bracket is treated differently where a first item is expected. -/
theorem Delivers.of_takeValue {token : Token} {others : List Token} {json : Json}
    (opens : token ≠ .closeArray)
    (taken : ∀ stack rest, (Reading.takeValue double? stack token).bind
      (fun next => Reading.run double? next (others ++ rest)) =
        Reading.run double? (Reading.deliver json stack) rest) :
    Delivers double? (token :: others) json := by
  refine ⟨?_, ?_⟩
  · intro stack rest
    rw [← taken stack rest, List.cons_append, Reading.run, Reading.step]
    cases Reading.takeValue double? stack token <;> rfl
  · intro stack rest
    have step : Reading.step double? (.firstItem stack) token =
        Reading.takeValue double? (.array [] :: stack) token := by
      cases token <;> first | rfl | contradiction
    rw [← taken (.array [] :: stack) rest, List.cons_append, Reading.run, step]
    cases Reading.takeValue double? (.array [] :: stack) token <;> rfl

/-- The tokens of parts, with commas between them. -/
def joined : List (List Token) → List Token
  | [] => []
  | first :: rest => first ++ rest.flatMap (.comma :: ·)

theorem run_items {tokens : List (List Token)} {items : List Json}
    (each : List.Forall₂ (Delivers double?) tokens items) (read : List Json) (stack : List Frame)
    (rest : List Token) :
    Reading.run double? (.afterItem read stack)
        (tokens.flatMap (.comma :: ·) ++ .closeArray :: rest) =
      Reading.run double? (Reading.deliver (.array (read.reverse ++ items)) stack) rest := by
  induction each generalizing read with
  | nil =>
    rw [List.append_nil]
    rfl
  | @cons first item others items head _ ih =>
    have next := head.value (.array read :: stack)
      (others.flatMap (.comma :: ·) ++ .closeArray :: rest)
    have later := ih (item :: read)
    rw [List.reverse_cons, List.append_assoc, List.singleton_append] at later
    rw [List.flatMap_cons, List.append_assoc, List.cons_append, Reading.run]
    exact next.trans later

theorem delivers_array {tokens : List (List Token)} {items : List Json}
    (each : List.Forall₂ (Delivers double?) tokens items) :
    Delivers double? (.openArray :: (joined tokens ++ [.closeArray])) (array items) := by
  refine .of_takeValue (by simp) ?_
  intro stack rest
  cases each with
  | nil => rfl
  | @cons first item others items head tail =>
    have next := head.first stack (others.flatMap (.comma :: ·) ++ .closeArray :: rest)
    have later := run_items tail [item] stack rest
    simp only [joined, List.append_assoc, List.singleton_append]
    exact next.trans later

/-- The tokens of a member. -/
def DeliversMember (double? : Numeral → Option Binary64) (tokens : List Token)
    (member : String × Json) : Prop :=
  ∃ value, tokens = .string (some member.1) :: .colon :: value ∧
    Delivers double? value member.2

/-- Every name has a text, so the object is readable. -/
theorem objectOf_named (members : List (String × Json)) :
    Reading.objectOf (members.map fun member => (some member.1, member.2)).reverse =
      .object members := by
  have names : (members.map fun member => (some member.1, member.2)).mapM
      (fun member => member.1.map fun name => (name, member.2)) = some members := by
    induction members with
    | nil => rfl
    | cons member rest ih => simp [ih]
  rw [Reading.objectOf, List.reverse_reverse, names]

theorem run_members {tokens : List (List Token)} {members : List (String × Json)}
    (each : List.Forall₂ (DeliversMember double?) tokens members)
    (read : List (String × Json)) (stack : List Frame) (rest : List Token) :
    Reading.run double?
        (.afterMember (read.map fun member => (some member.1, member.2)).reverse stack)
        (tokens.flatMap (.comma :: ·) ++ .closeObject :: rest) =
      Reading.run double? (Reading.deliver (.object (read ++ members)) stack) rest := by
  induction each generalizing read with
  | nil =>
    rw [List.append_nil, List.flatMap_nil, List.nil_append, Reading.run, Reading.step,
      objectOf_named]
  | @cons first member others members head _ ih =>
    obtain ⟨value, rfl, delivers⟩ := head
    have next := delivers.value
      (.member (some member.1) (read.map fun member => (some member.1, member.2)).reverse :: stack)
      (others.flatMap (.comma :: ·) ++ .closeObject :: rest)
    have later := ih (read ++ [member])
    rw [List.map_append, List.reverse_append, List.append_assoc] at later
    rw [List.flatMap_cons, List.append_assoc, List.cons_append, Reading.run]
    exact next.trans later

theorem delivers_object {tokens : List (List Token)} {members : List (String × Json)}
    (each : List.Forall₂ (DeliversMember double?) tokens members) :
    Delivers double? (.openObject :: (joined tokens ++ [.closeObject])) (object members) := by
  refine .of_takeValue (by simp) ?_
  intro stack rest
  cases each with
  | nil => rfl
  | @cons first member others members head tail =>
    obtain ⟨value, rfl, delivers⟩ := head
    have next := delivers.value (.member (some member.1) [] :: stack)
      (others.flatMap (.comma :: ·) ++ .closeObject :: rest)
    have later := run_members tail [member] stack rest
    simp only [joined, List.append_assoc, List.singleton_append]
    exact next.trans later

/-! ## Spelled values -/

/-- A text that spells a value. -/
def Spells (double? : Numeral → Option Binary64) (text : String) (json : Json) : Prop :=
  ∃ tokens, YieldsBeforeStop text tokens ∧ Delivers double? tokens json

theorem Spells.readWith?_eq {text : String} {json : Json} (spells : Spells double? text json) :
    readWith? double? text = some json := by
  obtain ⟨tokens, yields, delivers⟩ := spells
  have cut := yields [] [] (by simp) .nil
  have run := delivers.value [] []
  rw [List.append_nil, List.append_nil] at cut
  rw [List.append_nil] at run
  rw [readWith?, cut.tokens?_eq]
  simp only [run]
  rfl

def startsWithStop (text : String) : Bool :=
  text.toList.head?.any isStop

theorem isStop_of_startsWithStop {text : String} (starts : startsWithStop text) (rest : List Char) :
    ∀ c ∈ (text.toList ++ rest).head?, isStop c := by
  rw [startsWithStop] at starts
  intro c first
  rw [List.head?_append] at first
  cases head : text.toList.head? with
  | none => simp [head] at starts
  | some d =>
    rw [head, Option.some_or, Option.mem_some_iff] at first
    simpa [head, first] using starts

/-- How an array or an object is written: what stands before, between and after its parts. -/
structure IsBracketing (opening separator closing : String) (first last : Token) : Prop where
  opens : Yields opening [first]
  separates : Yields separator [.comma]
  closes : Yields closing [last]
  stops : startsWithStop separator
  ends : startsWithStop closing

theorem yields_intercalate {separator : String} (separates : Yields separator [.comma])
    (stops : startsWithStop separator) {texts : List String} {tokens : List (List Token)}
    (each : List.Forall₂ YieldsBeforeStop texts tokens) (given : texts ≠ []) :
    YieldsBeforeStop (separator.intercalate texts) (joined tokens) := by
  induction each with
  | nil => contradiction
  | @cons text first texts tokens head tail ih =>
    cases tail with
    | nil => simpa [joined] using head
    | @cons text' second texts tokens next others =>
      intro rest after stopped lexes
      have later := ih (by simp) rest after stopped lexes
      have parted := separates _ _ later
      have whole := head _ _ (isStop_of_startsWithStop stops _) parted
      rw [String.intercalate_cons_cons]
      simpa [joined] using whole

theorem IsBracketing.yields {opening separator closing : String} {first last : Token}
    (bracketing : IsBracketing opening separator closing first last) {texts : List String}
    {tokens : List (List Token)} (each : List.Forall₂ YieldsBeforeStop texts tokens)
    (given : texts ≠ []) :
    Yields (opening ++ separator.intercalate texts ++ closing)
      (first :: (joined tokens ++ [last])) := by
  intro rest others lexes
  have inside := yields_intercalate bracketing.separates bracketing.stops each given
  have ended := bracketing.closes _ _ lexes
  have parts := inside _ _ (isStop_of_startsWithStop bracketing.ends rest) ended
  have whole := bracketing.opens _ _ parts
  simpa using whole

theorem exists_forall₂_tokens {α : Type} {related : String → List Token → Prop}
    {related' : List Token → α → Prop} {texts : List String} {parts : List α}
    (each : List.Forall₂ (fun text part => ∃ tokens, related text tokens ∧ related' tokens part)
      texts parts) :
    ∃ tokens, List.Forall₂ related texts tokens ∧ List.Forall₂ related' tokens parts := by
  induction each with
  | nil => exact ⟨[], .nil, .nil⟩
  | cons head _ ih =>
    obtain ⟨first, left, right⟩ := head
    obtain ⟨rest, lefts, rights⟩ := ih
    exact ⟨first :: rest, .cons left lefts, .cons right rights⟩

theorem yields_mark {text : String} {c : Char} {token : Token} (single : text.toList = [c])
    (solid : isWhitespace c = false)
    (read : ∀ rest, Token.read? (c :: rest) = some (token, rest)) : Yields text [token] := by
  intro rest others lexes
  rw [single]
  exact .token solid (read rest) (Nat.le_refl _) lexes

theorem yields_colonBlank : Yields ": " [.colon] :=
  fun _ _ lexes => .token rfl rfl (Nat.le_refl _) (.space rfl lexes)

theorem yields_newline (level : Nat) : Yields (newline level) [] := by
  intro rest others lexes
  rw [newline, String.toList_ofList, List.cons_append]
  refine .space rfl ?_
  induction 2 * level with
  | zero => exact lexes
  | succ n ih => exact .space rfl ih

theorem isBracketing_array : IsBracketing "[" "," "]" .openArray .closeArray where
  opens := yields_mark rfl rfl fun _ => rfl
  separates := yields_mark rfl rfl fun _ => rfl
  closes := yields_mark rfl rfl fun _ => rfl
  stops := rfl
  ends := rfl

theorem isBracketing_object : IsBracketing "\x7b" "," "\x7d" .openObject .closeObject where
  opens := yields_mark rfl rfl fun _ => rfl
  separates := yields_mark rfl rfl fun _ => rfl
  closes := yields_mark rfl rfl fun _ => rfl
  stops := rfl
  ends := rfl

/-- Line breaks after the opening, after the separator and before the closing change nothing. -/
theorem IsBracketing.lines {opening closing : String} {first last : Token}
    (bracketing : IsBracketing opening "," closing first last) (level : Nat) :
    IsBracketing (opening ++ newline (level + 1)) ("," ++ newline (level + 1))
      (newline level ++ closing) first last where
  opens := yields_append bracketing.opens (yields_newline _)
  separates := yields_append bracketing.separates (yields_newline _)
  closes := yields_append (yields_newline _) bracketing.closes
  stops := by simp [startsWithStop]; rfl
  ends := by simp [startsWithStop, newline]; rfl

/-- A text that spells a member of an object. -/
def SpellsMember (double? : Numeral → Option Binary64) (text : String) (member : String × Json) :
    Prop :=
  ∃ tokens, YieldsBeforeStop text tokens ∧ DeliversMember double? tokens member

theorem Spells.member {text colon : String} {value : Json} (colons : Yields colon [.colon])
    (spells : Spells double? text value) (name : String) :
    SpellsMember double? (quoted name ++ colon ++ text) (name, value) := by
  obtain ⟨tokens, yields, delivers⟩ := spells
  refine ⟨.string (some name) :: .colon :: tokens, ?_, tokens, rfl, delivers⟩
  intro rest others stopped lexes
  have start := yields_append (yields_quoted name) colons
  have whole := start _ _ (yields rest others stopped lexes)
  simpa using whole

theorem spells_array {opening separator closing : String}
    (bracketing : IsBracketing opening separator closing .openArray .closeArray)
    {texts : List String} {items : List Json} (each : List.Forall₂ (Spells double?) texts items)
    (given : texts ≠ []) :
    Spells double? (opening ++ separator.intercalate texts ++ closing) (array items) := by
  obtain ⟨tokens, yields, delivers⟩ := exists_forall₂_tokens each
  exact ⟨_, (bracketing.yields yields given).beforeStop, delivers_array delivers⟩

theorem spells_object {opening separator closing : String}
    (bracketing : IsBracketing opening separator closing .openObject .closeObject)
    {texts : List String} {members : List (String × Json)}
    (each : List.Forall₂ (SpellsMember double?) texts members) (given : texts ≠ []) :
    Spells double? (opening ++ separator.intercalate texts ++ closing) (object members) := by
  obtain ⟨tokens, yields, delivers⟩ := exists_forall₂_tokens each
  exact ⟨_, (bracketing.yields yields given).beforeStop, delivers_object delivers⟩

theorem spells_emptyArray : Spells double? "[]" (array []) :=
  ⟨_, (yields_append isBracketing_array.opens isBracketing_array.closes).beforeStop,
    delivers_array .nil⟩

theorem spells_emptyObject : Spells double? "\x7b\x7d" (object []) :=
  ⟨_, (yields_append isBracketing_object.opens isBracketing_object.closes).beforeStop,
    delivers_object .nil⟩

/-! ## Scalars -/

theorem delivers_number {numeral : Numeral} {json : Json}
    (number : ofNumeral double? numeral = json) : Delivers double? [.number numeral] json := by
  refine .of_takeValue (by simp) ?_
  intro stack rest
  rw [Reading.takeValue, number]
  rfl

theorem spells_null : Spells double? "null" null :=
  ⟨[.null], fun _ _ _ lexes => .token rfl rfl (by simp; omega) lexes,
    .of_takeValue (by simp) fun _ _ => rfl⟩

theorem spells_bool (value : Bool) :
    Spells double? (if value then "true" else "false") (bool value) := by
  refine ⟨[.bool value], ?_, .of_takeValue (by simp) fun _ _ => rfl⟩
  intro rest others _ lexes
  cases value with
  | true => exact .token rfl rfl (by simp; omega) lexes
  | false => exact .token rfl rfl (by simp; omega) lexes

theorem spells_integer {value : Int} (inRange : integerInRange value = true) :
    Spells double? (toString value) (integer value) := by
  have number : ofNumeral double? (.ofInt value) = integer value := by
    rw [ofNumeral, Numeral.toInt?_ofInt, Option.filter_some, if_pos inRange]
  exact ⟨_, yieldsBeforeStop_number (Numeral.isWellFormed_ofInt value)
    (Numeral.characters_ofInt value).symm, delivers_number number⟩

/-- The numeral that a finite double is written as and read from. -/
theorem exists_readNumber?_doubleText {value : Binary64} (finite : value.isFinite = true) :
    ∃ numeral : Numeral, numeral.IsWellFormed ∧ (doubleText value).toList = numeral.characters ∧
      numeral.toInt? = none ∧ numeral.nearest? = some value ∧
      readNumber? (doubleText value).toList = some (numeral, []) := by
  obtain ⟨numeral, wellFormed, written, other, nearest⟩ := Binary64.exists_numeral finite
  have text : (doubleText value).toList = numeral.characters := by
    rw [doubleText, if_pos finite, written]
  have read := readNumber?_append wellFormed (by simp : ∀ c ∈ ([] : List Char).head?, isStop c)
  rw [List.append_nil, ← text] at read
  exact ⟨numeral, wellFormed, text, other, nearest, read⟩

/-- Taking the nearest double gives every finite double back. -/
theorem restores_nearest? {x : Binary64} (finite : x.isFinite = true) :
    Restores Numeral.nearest? x := by
  intro numeral read
  obtain ⟨written, -, -, -, nearest, same⟩ := exists_readNumber?_doubleText finite
  rw [same] at read
  obtain ⟨rfl, -⟩ := Prod.mk.inj (Option.some.inj read)
  exact nearest

theorem spells_double {value : Binary64} (finite : value.isFinite = true)
    (restored : Restores double? value) : Spells double? (doubleText value) (double value) := by
  obtain ⟨numeral, wellFormed, text, other, -, read⟩ := exists_readNumber?_doubleText finite
  have number : ofNumeral double? numeral = double value := by
    simp [ofNumeral, other, restored numeral read]
  exact ⟨_, yieldsBeforeStop_number wellFormed text, delivers_number number⟩

theorem spells_string (value : String) : Spells double? (quoted value) (string value) :=
  ⟨_, (yields_quoted value).beforeStop, .of_takeValue (by simp) fun _ _ => rfl⟩

/-! ## Both forms -/

theorem compactItems_eq_map (items : List Json) : compactItems items = items.map compact := by
  induction items with
  | nil => rfl
  | cons item rest ih => rw [compactItems, ih, List.map_cons]

theorem compactMembers_eq_map (members : List (String × Json)) :
    compactMembers members = members.map fun member => quoted member.1 ++ ":" ++ compact member.2 := by
  induction members with
  | nil => rfl
  | cons member rest ih => rw [compactMembers, ih, List.map_cons]

theorem prettyItems_eq_map (level : Nat) (items : List Json) :
    prettyItems level items = items.map (prettyAt level) := by
  induction items with
  | nil => rfl
  | cons item rest ih => rw [prettyItems, ih, List.map_cons]

theorem prettyMembers_eq_map (level : Nat) (members : List (String × Json)) :
    prettyMembers level members =
      members.map fun member => quoted member.1 ++ ": " ++ prettyAt level member.2 := by
  induction members with
  | nil => rfl
  | cons member rest ih => rw [prettyMembers, ih, List.map_cons]

/-! ## Nesting -/

mutual

/-- How deep arrays and objects are nested. -/
def depth : Json → Nat
  | array items => itemsDepth items + 1
  | object members => membersDepth members + 1
  | null | bool _ | integer _ | double _ | string _ | unreadable => 0

def itemsDepth : List Json → Nat
  | [] => 0
  | item :: rest => max (depth item) (itemsDepth rest)

def membersDepth : List (String × Json) → Nat
  | [] => 0
  | (_, value) :: rest => max (depth value) (membersDepth rest)

end

theorem depth_le_itemsDepth {items : List Json} {item : Json} (member : item ∈ items) :
    item.depth ≤ itemsDepth items := by
  induction items with
  | nil => contradiction
  | cons first rest ih =>
    rw [itemsDepth]
    rcases List.mem_cons.mp member with rfl | later
    · exact Nat.le_max_left ..
    · exact Nat.le_trans (ih later) (Nat.le_max_right ..)

theorem depth_le_membersDepth {members : List (String × Json)} {named : String × Json}
    (member : named ∈ members) : named.2.depth ≤ membersDepth members := by
  induction members with
  | nil => contradiction
  | cons first rest ih =>
    rw [membersDepth]
    rcases List.mem_cons.mp member with rfl | later
    · exact Nat.le_max_left ..
    · exact Nat.le_trans (ih later) (Nat.le_max_right ..)

theorem membersDepth_le {members : List (String × Json)} {bound : Nat}
    (each : ∀ named ∈ members, named.2.depth ≤ bound) : membersDepth members ≤ bound := by
  induction members with
  | nil => exact Nat.zero_le _
  | cons first rest ih =>
    obtain ⟨head, tail⟩ := List.forall_mem_cons.mp each
    rw [membersDepth]
    exact Nat.max_le.mpr ⟨head, ih tail⟩

theorem limitItems_of_forall {limit : Nat} {items : List Json}
    (each : ∀ item ∈ items, limitNesting limit item = item) : limitItems limit items = items := by
  induction items with
  | nil => rfl
  | cons item rest ih =>
    obtain ⟨head, tail⟩ := List.forall_mem_cons.mp each
    rw [limitItems, head, ih tail]

theorem limitMembers_of_forall {limit : Nat} {members : List (String × Json)}
    (each : ∀ member ∈ members, limitNesting limit member.2 = member.2) :
    limitMembers limit members = members := by
  induction members with
  | nil => rfl
  | cons member rest ih =>
    obtain ⟨head, tail⟩ := List.forall_mem_cons.mp each
    rw [limitMembers, head, ih tail]

theorem areReadable_of_forall {items : List Json} (each : ∀ item ∈ items, item.isReadable = true) :
    areReadable items = true := by
  induction items with
  | nil => rfl
  | cons item rest ih =>
    obtain ⟨head, tail⟩ := List.forall_mem_cons.mp each
    rw [areReadable, head, ih tail, Bool.and_self]

theorem haveReadableValues_of_forall {members : List (String × Json)}
    (each : ∀ member ∈ members, member.2.isReadable = true) :
    haveReadableValues members = true := by
  induction members with
  | nil => rfl
  | cons member rest ih =>
    obtain ⟨head, tail⟩ := List.forall_mem_cons.mp each
    rw [haveReadableValues, head, ih tail, Bool.and_self]

namespace Faithful

variable {json : Json}

theorem spells_compact (faithful : Faithful double? json) : Spells double? (compact json) json := by
  induction faithful with
  | null => exact spells_null
  | bool value => exact spells_bool value
  | integer inRange => exact spells_integer inRange
  | double finite restored => exact spells_double finite restored
  | string value => exact spells_string value
  | @array items _ each =>
    rcases items with - | ⟨item, rest⟩
    · exact spells_emptyArray
    · rw [compact, compactItems_eq_map]
      refine spells_array isBracketing_array ?_ (by simp)
      exact List.forall₂_map_left_iff.mpr (List.forall₂_same.mpr each)
  | @object members _ each =>
    rcases members with - | ⟨member, rest⟩
    · exact spells_emptyObject
    · rw [compact, compactMembers_eq_map]
      refine spells_object isBracketing_object ?_ (by simp)
      refine List.forall₂_map_left_iff.mpr (List.forall₂_same.mpr fun member belongs => ?_)
      exact (each member belongs).member (yields_mark rfl rfl fun _ => rfl) member.1

theorem spells_pretty (faithful : Faithful double? json) (level : Nat) :
    Spells double? (prettyAt level json) json := by
  induction faithful generalizing level with
  | null => exact spells_null
  | bool value => exact spells_bool value
  | integer inRange => exact spells_integer inRange
  | double finite restored => exact spells_double finite restored
  | string value => exact spells_string value
  | @array items _ each =>
    rcases items with - | ⟨item, rest⟩
    · exact spells_emptyArray
    · rw [prettyAt, prettyItems_eq_map, bracketed, if_neg (by simp),
        @String.append_assoc _ (newline level)]
      refine spells_array (isBracketing_array.lines level) ?_ (by simp)
      exact List.forall₂_map_left_iff.mpr
        (List.forall₂_same.mpr fun item belongs => each item belongs (level + 1))
  | @object members _ each =>
    rcases members with - | ⟨member, rest⟩
    · exact spells_emptyObject
    · rw [prettyAt, prettyMembers_eq_map, bracketed, if_neg (by simp),
        @String.append_assoc _ (newline level)]
      refine spells_object (isBracketing_object.lines level) ?_ (by simp)
      refine List.forall₂_map_left_iff.mpr (List.forall₂_same.mpr fun member belongs => ?_)
      exact (each member belongs (level + 1)).member yields_colonBlank member.1

theorem isReadable (faithful : Faithful double? json) : json.isReadable = true := by
  induction faithful with
  | null | bool | integer | double | string => rfl
  | array _ each => exact areReadable_of_forall each
  | object _ each => exact haveReadableValues_of_forall each

/-- What is nested no deeper than the limit is left as it is. -/
theorem limitNesting_eq (faithful : Faithful double? json) {limit : Nat}
    (shallow : json.depth ≤ limit) : json.limitNesting limit = json := by
  induction faithful generalizing limit with
  | null | bool | integer | double | string => cases limit <;> rfl
  | @array items _ each =>
    rw [depth] at shallow
    cases limit with
    | zero => contradiction
    | succ limit =>
      rw [limitNesting, limitItems_of_forall]
      intro item member
      have bound := depth_le_itemsDepth member
      exact each item member (by omega)
  | @object members _ each =>
    rw [depth] at shallow
    cases limit with
    | zero => contradiction
    | succ limit =>
      rw [limitNesting, limitMembers_of_forall]
      intro named member
      have bound := depth_le_membersDepth member
      exact each named member (by omega)

end Faithful

/-- Reads a text by a rule for numbers, up to the nesting limit. -/
def readBy? (double? : Numeral → Option Binary64) (text : String) : Option Json :=
  (readWith? double? text).map (limitNesting nestingLimit)

theorem read?_eq_readBy? : read? = readBy? Numeral.scaled? := rfl

theorem Faithful.readBy?_eq {json : Json} (faithful : Faithful double? json)
    (shallow : json.depth ≤ nestingLimit) :
    readBy? double? (compact json) = some json ∧ readBy? double? (pretty json) = some json := by
  rw [readBy?, readBy?, faithful.spells_compact.readWith?_eq, pretty,
    (faithful.spells_pretty 0).readWith?_eq, Option.map_some, faithful.limitNesting_eq shallow]
  exact ⟨rfl, rfl⟩

/-- Whether a value is read back from both of its texts, on one line and on several. -/
def ReadsBack {α : Type} (double? : Numeral → Option Binary64) (encode : α → Json)
    (decode : Json → Option α) (value : α) : Prop :=
  (readBy? double? (compact (encode value))).bind decode = some value ∧
    (readBy? double? (pretty (encode value))).bind decode = some value

theorem Faithful.readsBack {α : Type} {encode : α → Json} {decode : Json → Option α} {value : α}
    (faithful : Faithful double? (encode value)) (shallow : (encode value).depth ≤ nestingLimit)
    (decoded : decode (encode value) = some value) : ReadsBack double? encode decode value := by
  obtain ⟨line, lines⟩ := faithful.readBy?_eq shallow
  rw [ReadsBack, line, lines, Option.bind_some]
  exact ⟨decoded, decoded⟩

end SqlQuery.Json
