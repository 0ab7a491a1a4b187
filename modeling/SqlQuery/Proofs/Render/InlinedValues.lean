import SqlQuery.Proofs.Dialect.Lexis
import SqlQuery.Proofs.Number.PlainTexts
import SqlQuery.Proofs.Render.Modes

/-! # Values read back from their literals

Where booleans are spelled as keywords, a literal is read back as a keyword, a numeral or a text. This
tells the value, unless the numeral is an integer: a float without fraction is written without a
point, so an integer may have the same literal.
-/

namespace SqlQuery

/-- A literal as an engine reads it. -/
inductive Constant
  | null
  | bool (value : Bool)
  | number (numeral : Numeral)
  | text (value : String)
  deriving DecidableEq, Repr

/-- Reads a literal. -/
def Constant.read? (lexis : Lexis) (sql : String) : Option Constant :=
  match Json.readNumber? sql.toList with
  | some (numeral, []) => some (.number numeral)
  | _ =>
    match lexis.scan sql with
    | some [.literal value] => some (.text value)
    | _ =>
      if sql = "NULL" then some .null
      else if sql = "TRUE" then some (.bool true)
      else if sql = "FALSE" then some (.bool false)
      else none

namespace Value

/-- What the literal of a value is read as. The numeral of a float is one whose nearest double it is,
and an integer only if the shortest decimal of the float is this integer. -/
inductive ReadsAs : Value → Constant → Prop
  | null : ReadsAs .null .null
  | bool (value : Bool) : ReadsAs (.bool value) (.bool value)
  | int (n : Int64) : ReadsAs (.int n) (.number (.ofInt n.toInt))
  | float {x : Binary64} {numeral : Numeral} (finite : x.isFinite = true)
    (nearest : numeral.nearest? = some x)
    (integral : ∀ n, numeral = .ofInt n ↔ x.shortestInteger? = some n) :
    ReadsAs (.float x) (.number numeral)
  | text (value : String) : ReadsAs (.text value) (.text value)

/-- A float and an integer with one literal: the integer is the shortest decimal of the float. -/
inductive Merges : Value → Value → Prop
  | intro {x : Binary64} {n : Int64} (finite : x.isFinite = true)
    (shortest : x.shortestInteger? = some n.toInt) : Merges (.float x) (.int n)

/-- Values that are read alike are the same, or a float and an integer that merge. -/
theorem ReadsAs.eq_or_merges {first second : Value} {constant constant' : Constant}
    (reads : first.ReadsAs constant) (reads' : second.ReadsAs constant')
    (same : constant = constant') :
    first = second ∨ first.Merges second ∨ second.Merges first := by
  cases reads with
  | null =>
    cases reads' with
    | null => exact .inl rfl
    | bool | int | float | text => contradiction
  | bool value =>
    cases reads' with
    | bool value' => exact .inl (congrArg Value.bool (Constant.bool.inj same))
    | null | int | float | text => contradiction
  | int n =>
    cases reads' with
    | int n' =>
      have same := congrArg Numeral.toInt? (Constant.number.inj same)
      rw [Numeral.toInt?_ofInt, Numeral.toInt?_ofInt] at same
      exact .inl (congrArg Value.int (Int64.toInt_inj.mp (Option.some.inj same)))
    | float finite nearest integral =>
      exact .inr (.inr ⟨finite, (integral _).mp (Constant.number.inj same).symm⟩)
    | null | bool | text => contradiction
  | float finite nearest integral =>
    cases reads' with
    | int n => exact .inr (.inl ⟨finite, (integral _).mp (Constant.number.inj same)⟩)
    | float finite' nearest' integral' =>
      rw [Constant.number.inj same, nearest'] at nearest
      exact .inl (congrArg Value.float (Option.some.inj nearest).symm)
    | null | bool | text => contradiction
  | text value =>
    cases reads' with
    | text value' => exact .inl (congrArg Value.text (Constant.text.inj same))
    | null | bool | int | float => contradiction

end Value

namespace DialectKind

/-- The text of a value in literal mode, which binds nothing. -/
def Inlines (kind : DialectKind) (value : Value) (text : String) : Prop :=
  ∀ table before, ((Expression.value value).render ⟨kind.dialect, table, false⟩).run before =
    (.ok text, before)

variable {kind : DialectKind} {first second : Value} {text other : String}

theorem inlines_iff {value : Value} : kind.Inlines value text ↔
    Renderer.literal ⟨kind.dialect, none, false⟩ value = .ok text := by
  have run (table : Option Table) (before : Bindings) :
      ((Expression.value value).render ⟨kind.dialect, table, false⟩).run before =
        (Renderer.literal ⟨kind.dialect, none, false⟩ value, before) := by
    have dialect : Renderer.literal ⟨kind.dialect, table, false⟩ value =
        Renderer.literal ⟨kind.dialect, none, false⟩ value := rfl
    rw [Expression.render, Renderer.value, if_neg Bool.false_ne_true, dialect]
    cases Renderer.literal ⟨kind.dialect, none, false⟩ value <;> rfl
  constructor
  · intro inlined
    have same := inlined none { marker := "" }
    rw [run] at same
    exact congrArg Prod.fst same
  · intro literal table before
    rw [run, literal]

theorem inlines_float {x : Binary64} :
    kind.Inlines (.float x) text ↔ x.isFinite = true ∧ x.finiteText .plain = text := by
  rw [inlines_iff, Renderer.literal]
  split <;> simp [*]

theorem inlines_int {n : Int64} : kind.Inlines (.int n) text ↔ toString n.toInt = text := by
  simp [inlines_iff, Renderer.literal]

/-! ## Reading literals -/

theorem read?_numeral {lexis : Lexis} {numeral : Numeral} (wellFormed : numeral.IsWellFormed)
    (written : text.toList = numeral.characters) :
    Constant.read? lexis text = some (.number numeral) := by
  rw [Constant.read?, written, Numeral.readNumber?_characters wellFormed]

theorem read?_quoteLiteral (value : String) :
    Constant.read? kind.lexis (kind.dialect.quoteLiteral value) = some (.text value) := by
  have scanned : kind.lexis.scan (kind.dialect.quoteLiteral value) = some [.literal value] := by
    have scanned := @Lexis.Fits.scanFrom_quoteLiteral _ _ kind.lexis_fits value [] nofun
    rwa [List.append_nil] at scanned
  have number : Json.readNumber? (kind.dialect.quoteLiteral value).toList = none := by
    rw [Dialect.quoteLiteral, Text.quoteLiteral, Text.quoteWith, Text.quoteCharacters,
      String.toList_ofList]
    rfl
  rw [Constant.read?, number, scanned]

theorem read?_keyword : Constant.read? kind.lexis "NULL" = some .null ∧
    Constant.read? kind.lexis "TRUE" = some (.bool true) ∧
    Constant.read? kind.lexis "FALSE" = some (.bool false) := by
  cases kind <;> decide +kernel

/-- The literal of a value is read as what the value is. -/
theorem Inlines.exists_readsAs (spelledTrue : kind.dialect.booleanLiteral true = "TRUE")
    (spelledFalse : kind.dialect.booleanLiteral false = "FALSE") {value : Value}
    (inlined : kind.Inlines value text) :
    ∃ constant, Constant.read? kind.lexis text = some constant ∧ value.ReadsAs constant := by
  obtain ⟨null, true, false⟩ := @read?_keyword kind
  cases value with
  | null =>
    obtain rfl := Except.ok.inj (inlines_iff.mp inlined)
    exact ⟨_, null, .null⟩
  | bool value =>
    obtain rfl := Except.ok.inj (inlines_iff.mp inlined)
    cases value with
    | true => exact ⟨_, spelledTrue ▸ true, .bool _⟩
    | false => exact ⟨_, spelledFalse ▸ false, .bool _⟩
  | int n =>
    obtain rfl := inlines_int.mp inlined
    exact ⟨_, read?_numeral (Numeral.isWellFormed_ofInt n.toInt)
      (Numeral.characters_ofInt n.toInt).symm, .int n⟩
  | float x =>
    obtain ⟨finite, rfl⟩ := inlines_float.mp inlined
    obtain ⟨numeral, wellFormed, written, nearest, integral⟩ := Binary64.exists_plain_numeral finite
    exact ⟨_, read?_numeral wellFormed written, .float finite nearest integral⟩
  | text value =>
    obtain rfl := Except.ok.inj (inlines_iff.mp inlined)
    exact ⟨_, read?_quoteLiteral value, .text value⟩

/-- Merged values have one literal. -/
theorem eq_of_merges (inlined : kind.Inlines first text) (inlined' : kind.Inlines second other)
    (merges : first.Merges second) : text = other := by
  obtain ⟨finite, shortest⟩ := merges
  obtain ⟨-, rfl⟩ := inlines_float.mp inlined
  obtain rfl := inlines_int.mp inlined'
  exact (Binary64.finiteText_plain_eq_toString_iff finite).mpr shortest

/-- Every value but a float that is not finite has a literal. Two values share one if and only if they
are the same, or one is a float and the other the integer that its shortest decimal is. There is such
an integer for the floats without fraction in the range, except the negative zero, and the float is
the one nearest to it; and a float without fraction is never written with a point. -/
theorem literals_shared_iff (spelledTrue : kind.dialect.booleanLiteral true = "TRUE")
    (spelledFalse : kind.dialect.booleanLiteral false = "FALSE") :
    (∀ value, (∃ text, kind.Inlines value text) ↔ ∀ x, value = .float x → x.isFinite = true) ∧
    (∀ {first second text other}, kind.Inlines first text → kind.Inlines second other →
      (text = other ↔ first = second ∨ first.Merges second ∨ second.Merges first)) ∧
    (∀ x, x.isFinite = true → ((∃ n, Value.Merges (.float x) (.int n)) ↔
      x ≠ .ofMagnitude true 0 ∧ ∃ m : Int, m.natAbs < 2 ^ 63 ∧ x.toRat? = some (m : ℚ))) ∧
    (∀ x n, Value.Merges (.float x) (.int n) → .ofInt n.toInt = x) ∧
    (∀ x text, kind.Inlines (.float x) text → ('.' ∈ text.toList ↔ x.isWhole = false)) := by
  refine ⟨?_, ?_, ?_, ?_, ?_⟩
  · intro value
    simp only [inlines_iff]
    constructor
    · rintro ⟨text, inlined⟩ x rfl
      exact (inlines_float.mp (inlines_iff.mpr inlined)).1
    · exact Renderer.literal_of_finite _
  · intro first second text other inlined inlined'
    constructor
    · rintro rfl
      obtain ⟨constant, read, reads⟩ := inlined.exists_readsAs spelledTrue spelledFalse
      obtain ⟨constant', read', reads'⟩ := inlined'.exists_readsAs spelledTrue spelledFalse
      exact reads.eq_or_merges reads' (Option.some.inj (read.symm.trans read'))
    · rintro (rfl | merges | merges)
      · exact Except.ok.inj ((inlines_iff.mp inlined).symm.trans (inlines_iff.mp inlined'))
      · exact eq_of_merges inlined inlined' merges
      · exact (eq_of_merges inlined' inlined merges).symm
  · intro x finite
    rw [← Binary64.exists_int64_iff finite]
    refine exists_congr fun n => ⟨?_, .intro finite⟩
    rintro ⟨-, shortest⟩
    exact shortest
  · rintro x n ⟨finite, shortest⟩
    exact Binary64.ofInt_eq_of_shortestInteger? finite shortest
  · intro x text inlined
    obtain ⟨finite, rfl⟩ := inlines_float.mp inlined
    exact Binary64.point_mem_finiteText_iff finite

/-- A text that looks like a number is none. -/
theorem literals_apart_in_mysql :
    mysql.dialect.booleanLiteral true = "TRUE" ∧ mysql.dialect.booleanLiteral false = "FALSE" ∧
      ∃ text other, mysql.Inlines (.text "1") text ∧ mysql.Inlines (.int 1) other ∧
        text ≠ other := by
  have shared := @literals_shared_iff mysql rfl rfl
  obtain ⟨text, inlined⟩ := (shared.1 (.text "1")).mpr nofun
  obtain ⟨other, inlined'⟩ := (shared.1 (.int 1)).mpr nofun
  refine ⟨rfl, rfl, text, other, inlined, inlined', fun same => ?_⟩
  rcases (shared.2.1 inlined inlined').mp same with same | merges | merges
  · contradiction
  · cases merges
  · cases merges

/-- The number one as a float and as an integer. -/
theorem one_inlined_twice :
    generic.dialect.booleanLiteral true = "TRUE" ∧ generic.dialect.booleanLiteral false = "FALSE" ∧
      Value.float ⟨0x3FF0000000000000⟩ ≠ .int 1 ∧
      generic.Inlines (.float ⟨0x3FF0000000000000⟩) "1" ∧ generic.Inlines (.int 1) "1" := by
  refine ⟨rfl, rfl, nofun, inlines_float.mpr ⟨by decide, ?_⟩, inlines_int.mpr rfl⟩
  decide +kernel

end DialectKind

end SqlQuery
