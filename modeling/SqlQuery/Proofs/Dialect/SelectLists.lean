import SqlQuery.Mapping
import SqlQuery.Proofs.Dialect.Identifiers
import SqlQuery.Proofs.Expression.Reader

/-! # Select lists read back

A reader takes a select apart into its items, each a column and the name that the result gives it, and
the parts of the name after FROM. The select of a mapped table is read back as its columns, each under
the name of its field, whatever the names hold.
-/

namespace SqlQuery

open Reader (plain)

/-! ## Texts before a break -/

namespace Lexis

/-- Characters that are read as given tokens, if a break or the end comes next. -/
def ReadsToBreak (lexis : Lexis) (cs : List Char) (tokens : List Token) : Prop :=
  ∀ rest, (∀ c ∈ rest.head?, isBreak c) →
    lexis.scanFrom .outside (cs ++ rest) = (lexis.scanFrom .outside rest).map (tokens ++ ·)

namespace ReadsToBreak

variable {lexis : Lexis} {first second : List Char} {tokens tokens' : List Token}

theorem scan_eq {text : String} (reads : lexis.ReadsToBreak text.toList tokens) :
    lexis.scan text = some tokens := by
  have whole := reads [] (by simp)
  simpa [scan, scanFrom, Place.finish] using whole

theorem opening (reads : lexis.Reads first tokens) (reads' : lexis.ReadsToBreak second tokens') :
    lexis.ReadsToBreak (first ++ second) (tokens ++ tokens') := by
  intro rest broken
  rw [List.append_assoc, reads, reads' rest broken, Option.map_map]
  simp [Function.comp_def]

/-- A separator breaks off what is before it. -/
theorem parted {separator : String} (separates : lexis.Reads separator.toList (plain separator))
    (broken : breaks separator) (reads : lexis.ReadsToBreak first tokens)
    (reads' : lexis.ReadsToBreak second tokens') :
    lexis.ReadsToBreak (first ++ (separator.toList ++ second))
      (tokens ++ (plain separator ++ tokens')) := by
  intro rest ended
  have next : ∀ c ∈ (separator.toList ++ second ++ rest).head?, isBreak c := by
    obtain ⟨c, head, isBreak⟩ := (Option.any_eq_true _ _).mp broken
    simpa [List.head?_append, head] using isBreak
  rw [List.append_assoc, reads _ next, opening separates reads' rest ended, Option.map_map]
  simp [Function.comp_def]

/-- Texts that a separator breaks off from each other are read one by one. -/
theorem intercalate {separator : String} (separates : lexis.Reads separator.toList (plain separator))
    (broken : breaks separator) {α : Type} {text : α → String} {tokens : α → List Token}
    {members : List α}
    (each : ∀ member ∈ members, lexis.ReadsToBreak (text member).toList (tokens member)) :
    lexis.ReadsToBreak (separator.intercalate (members.map text)).toList
      ((plain separator).intercalate (members.map tokens)) := by
  induction members with
  | nil =>
    intro rest _
    simp
  | cons first rest ih =>
    obtain ⟨head, tail⟩ := List.forall_mem_cons.mp each
    cases rest with
    | nil => simpa using head
    | cons second others =>
      have joined := parted separates broken head (ih tail)
      simpa [String.intercalate_cons_cons, List.intercalate_cons_cons] using joined

end ReadsToBreak

theorem Fits.reads_plain {lexis : Lexis} {dialect : Dialect} (fits : lexis.Fits dialect)
    (text : String) (basic : isBasic text) : lexis.Reads text.toList (plain text) :=
  fits.reads_basic basic

theorem Fits.readsToBreak_quote {lexis : Lexis} {dialect : Dialect} (fits : lexis.Fits dialect)
    (name : String) :
    lexis.ReadsToBreak (dialect.quote name).toList [.identifier (lexis.denoted name)] := by
  intro rest broken
  rw [fits.quote_eq, fits.scanFrom_quoteCharacters _ broken, String.ofList_toList]
  rfl

end Lexis

/-! ## The reader -/

/-- An item of a select list: a column, and its name in the result. -/
structure SelectItem where
  column : String
  output : String
  deriving DecidableEq, Repr

/-- A select of columns, and the parts of the name it selects from. -/
structure SelectList where
  items : List SelectItem
  source : List String
  deriving DecidableEq, Repr

namespace Reader

variable {α β : Type}

def identifier? : List Token → Option (String × List Token)
  | .identifier name :: rest => some (name, rest)
  | _ => none

/-- Reads a column and its alias; without one the column gives the name. -/
def selectItem? (tokens : List Token) : Option (SelectItem × List Token) := do
  let (column, rest) ← identifier? tokens
  match after? " AS " rest with
  | none => return (⟨column, column⟩, rest)
  | some rest =>
    let (output, rest) ← identifier? rest
    return (⟨column, output⟩, rest)

/-- Reads members as long as a separator follows; the bound is on their number. -/
def separated? (read : List Token → Option (α × List Token)) (separator : String) :
    Nat → List Token → Option (List α × List Token)
  | 0, _ => none
  | bound + 1, tokens => do
    let (first, rest) ← read tokens
    match after? separator rest with
    | none => return ([first], rest)
    | some rest =>
      let (others, rest) ← separated? read separator bound rest
      return (first :: others, rest)

/-- Reads the parts of a name to the end; there may be none. -/
def source? (tokens : List Token) : Option (List String) :=
  if tokens.isEmpty then some []
  else do
    let (names, rest) ← separated? identifier? "." tokens.length tokens
    if rest.isEmpty then return names else none

def selectList? (lexis : Lexis) (text : String) : Option SelectList := do
  let tokens ← lexis.scan text
  let rest ← after? "SELECT " tokens
  let (items, rest) ← separated? selectItem? ", " rest.length rest
  let rest ← after? " FROM " rest
  let source ← source? rest
  return ⟨items, source⟩

/-- Members are read one by one, if each is read wherever it stops. -/
theorem separated?_intercalate {read : List Token → Option (α × List Token)} {separator : String}
    (stops : List Token → Prop) {written : β → List Token} {result : β → α} {members : List β}
    {tail : List Token} {bound : Nat} (nonempty : members ≠ [])
    (each : ∀ member ∈ members, ∀ rest, stops rest →
      read (written member ++ rest) = some (result member, rest))
    (separates : ∀ rest, stops (plain separator ++ rest)) (stopped : stops tail)
    (ended : after? separator tail = none) (enough : members.length ≤ bound) :
    separated? read separator bound
      ((plain separator).intercalate (members.map written) ++ tail) =
        some (members.map result, tail) := by
  induction members generalizing bound with
  | nil => contradiction
  | cons first rest ih =>
    obtain ⟨head, others⟩ := List.forall_mem_cons.mp each
    obtain ⟨bound, rfl⟩ := Nat.exists_eq_add_one_of_ne_zero (Nat.ne_zero_of_lt enough)
    cases rest with
    | nil =>
      rw [List.map_singleton, List.intercalate_singleton, separated?, head tail stopped]
      simp [ended]
    | cons second more =>
      have later := ih (List.cons_ne_nil second more) others (Nat.le_of_succ_le_succ enough)
      simp only [List.map_cons] at later ⊢
      rw [List.intercalate_cons_cons, List.append_assoc, List.append_assoc, separated?,
        head _ (separates _)]
      simp [after?_append, later]

/-- There are at least as many tokens as members, if each member has one. -/
theorem length_le_length_intercalate {written : β → List α} {separator : List α} {members : List β}
    (some_written : ∀ member ∈ members, written member ≠ []) :
    members.length ≤ (separator.intercalate (members.map written)).length := by
  induction members with
  | nil => exact Nat.zero_le _
  | cons first rest ih =>
    obtain ⟨head, tail⟩ := List.forall_mem_cons.mp some_written
    have positive := List.length_pos_iff.mpr head
    cases rest with
    | nil => simpa using Nat.succ_le_of_lt positive
    | cons second others =>
      have later := ih tail
      rw [List.map_cons] at later ⊢
      rw [List.map_cons, List.intercalate_cons_cons, List.length_append, List.length_append,
        List.length_cons]
      omega

end Reader

/-! ## Tables -/

variable {lexis : Lexis} {dialect : Dialect}

namespace Column

def tokens (lexis : Lexis) (column : Column) : List Token :=
  .identifier (lexis.denoted column.name) ::
    if column.field = column.name then []
    else plain " AS " ++ [.identifier (lexis.denoted column.field)]

/-- A column under the name of its field. -/
def item (lexis : Lexis) (column : Column) : SelectItem :=
  ⟨lexis.denoted column.name, lexis.denoted column.field⟩

theorem readsToBreak_selectItem (fits : lexis.Fits dialect) (column : Column) :
    lexis.ReadsToBreak (column.selectItem dialect).toList (column.tokens lexis) := by
  have name := fits.readsToBreak_quote column.name
  have field := fits.readsToBreak_quote column.field
  rw [selectItem, tokens]
  split
  · exact name
  · have whole := name.parted (fits.reads_plain " AS " rfl) rfl field
    simpa [quotedName] using whole

theorem selectItem?_tokens (lexis : Lexis) (column : Column) {rest : List Token}
    (stopped : Reader.after? " AS " rest = none) :
    Reader.selectItem? (column.tokens lexis ++ rest) = some (column.item lexis, rest) := by
  rw [tokens, item]
  split
  · rename_i same
    simp [Reader.selectItem?, Reader.identifier?, stopped, same]
  · simp [Reader.selectItem?, Reader.identifier?, Reader.after?_append]

end Column

namespace Table

/-- What the name of a table is made of: the parts that are not empty. -/
def nameParts (table : Table) (catalog schema : Option String) : List String :=
  (catalog.toList ++ schema.toList ++ [table.name]).filter fun part => !part.isEmpty

def nameTokens (lexis : Lexis) (names : List String) : List Token :=
  (plain ".").intercalate (names.map fun name => [.identifier (lexis.denoted name)])

def itemTokens (lexis : Lexis) (columns : List Column) : List Token :=
  (plain ", ").intercalate (columns.map (Column.tokens lexis))

theorem separated?_itemTokens (lexis : Lexis) {columns : List Column} (mapped : columns ≠ [])
    {tail : List Token} (stopped : Reader.after? " AS " tail = none)
    (ended : Reader.after? ", " tail = none) :
    Reader.separated? Reader.selectItem? ", " (itemTokens lexis columns ++ tail).length
      (itemTokens lexis columns ++ tail) = some (columns.map (Column.item lexis), tail) := by
  refine Reader.separated?_intercalate (Reader.after? " AS " · = none) mapped
    (fun column _ rest stopped => column.selectItem?_tokens lexis stopped) (fun rest => rfl) stopped
    ended ?_
  have counted : columns.length ≤ (itemTokens lexis columns).length :=
    Reader.length_le_length_intercalate fun column _ => List.cons_ne_nil _ _
  rw [List.length_append]
  exact Nat.le_add_right_of_le counted

theorem source?_nameTokens (lexis : Lexis) (names : List String) :
    Reader.source? (nameTokens lexis names) = some (names.map lexis.denoted) := by
  by_cases empty : names = []
  · subst empty
    rfl
  · have counted : names.length ≤ (nameTokens lexis names).length :=
      Reader.length_le_length_intercalate fun name _ => List.cons_ne_nil _ _
    have read : Reader.separated? Reader.identifier? "." _ (nameTokens lexis names ++ []) =
        some (names.map lexis.denoted, []) :=
      Reader.separated?_intercalate (fun _ => True) empty (fun name _ rest _ => rfl)
        (fun _ => trivial) trivial rfl counted
    have some_tokens : (nameTokens lexis names).isEmpty = false := by
      rw [List.isEmpty_eq_false_iff, ← List.length_pos_iff]
      exact Nat.lt_of_lt_of_le (List.length_pos_iff.mpr empty) counted
    rw [List.append_nil] at read
    simp [Reader.source?, some_tokens, read]

theorem readsToBreak_selectAll (fits : lexis.Fits dialect) (catalog schema : Option String)
    {table : Table} (mapped : table.columns ≠ []) :
    lexis.ReadsToBreak (table.selectAll dialect catalog schema).toList
      (plain "SELECT " ++ (itemTokens lexis table.columns ++
        (plain " FROM " ++ nameTokens lexis (table.nameParts catalog schema)))) := by
  have items : lexis.ReadsToBreak _ (itemTokens lexis table.columns) :=
    .intercalate (fits.reads_plain ", " rfl) rfl
      fun column _ => column.readsToBreak_selectItem fits
  have name : lexis.ReadsToBreak (table.qualifiedName dialect catalog schema).toList
      (nameTokens lexis (table.nameParts catalog schema)) :=
    .intercalate (fits.reads_plain "." rfl) rfl
      fun part _ => fits.readsToBreak_quote part
  have whole := (items.parted (fits.reads_plain " FROM " rfl) rfl name).opening
    (fits.reads_plain "SELECT " rfl)
  have some_columns : table.columns.isEmpty = false := List.isEmpty_eq_false_iff.mpr mapped
  rw [selectAll, some_columns]
  simpa only [Bool.false_eq_true, if_false, String.toList_append, List.append_assoc] using whole

/-- The select of a mapped table is read back as its columns in order, each under the name of its
field, and as the parts of its name that are not empty. -/
theorem selectList?_selectAll (kind : DialectKind) (catalog schema : Option String) (table : Table)
    (mapped : table.columns ≠ []) :
    Reader.selectList? kind.lexis (table.selectAll kind.dialect catalog schema) = some
      { items := table.columns.map (Column.item kind.lexis)
        source := (table.nameParts catalog schema).map kind.lexis.denoted } := by
  have scanned := (readsToBreak_selectAll kind.lexis_fits catalog schema mapped).scan_eq
  have source := source?_nameTokens kind.lexis (table.nameParts catalog schema)
  have items (rest : List Token) := separated?_itemTokens kind.lexis mapped
    (rfl : Reader.after? " AS " (plain " FROM " ++ rest) = none) rfl
  simp only [Reader.selectList?, scanned, Reader.after?_append, items, source,
    Option.bind_eq_bind, Option.bind_some]
  rfl

/-- Names with delimiters, separators and keywords in them, some of them quoted already. -/
theorem selectList?_of_delimited :
    let table : Table :=
      { name := "a.b] FROM [c"
        columns := [⟨"id", "id"⟩, ⟨"full] AS [name", "[na]]me]"⟩, ⟨"x, y", ""⟩] }
    table.columns ≠ [] ∧
      Reader.selectList? DialectKind.sqlserver.lexis
        (table.selectAll DialectKind.sqlserver.dialect (some "") (some "[dbo]")) = some
          { items := [⟨"id", "id"⟩, ⟨"na]me", "full] AS [name"⟩, ⟨"", "x, y"⟩]
            source := ["dbo", "a.b] FROM [c"] } := by
  intro table
  have mapped : table.columns ≠ [] := List.cons_ne_nil _ _
  refine ⟨mapped, (selectList?_selectAll .sqlserver (some "") (some "[dbo]") table mapped).trans ?_⟩
  decide +kernel

end Table

end SqlQuery
