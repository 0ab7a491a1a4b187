import Mathlib.Data.List.Basic
import Mathlib.Order.Filter.AtTopBot.Basic
import SqlQuery.Proofs.Expression.Regrouping
import SqlQuery.Proofs.Text.Scanner

/-! # Reading conditions

A reader takes the tokens of a condition by recursive descent. Tests belong to the operand they
follow, and the operand of an open negation takes all tests up to its end, as the upper bound of a
range does. So each operand is read in its regrouped form, with what follows it. The depth of the
descent is bounded; what counts is what the reader gives once the bound is large enough.
-/

namespace SqlQuery

namespace Reader

/-- The tokens of a text without literals and identifiers. -/
def plain (text : String) : List Token :=
  text.toList.map .plain

/-- What comes after a text at the start of the tokens. -/
def after? (text : String) (tokens : List Token) : Option (List Token) :=
  (plain text).isPrefixOf? tokens

theorem after?_append (text : String) (tail : List Token) :
    after? text (plain text ++ tail) = some tail :=
  List.isPrefixOf?_eq_some_iff_append_eq.mpr rfl

/-- The first of some keywords that is at the start of the tokens, and what comes after it. -/
def keyword? {α : Type} (text : α → String) (keywords : List α) (tokens : List Token) :
    Option (α × List Token) :=
  keywords.findSome? fun keyword => (after? (text keyword) tokens).map (keyword, ·)

/-- What is said of the operand before it. -/
inductive Test
  | null
  | notNull
  | between
  | inValues

def Test.text : Test → String
  | null => " is null"
  | notNull => " is not null"
  | between => " between "
  | inValues => " in ("

def tests : List Test := [.null, .notNull, .between, .inValues]

/-- What stands between operands in parentheses. -/
inductive Joint
  | comparison (operator : String)
  | connective (kind : Connective)

def Joint.text : Joint → String
  | comparison operator => " " ++ operator ++ " "
  | connective kind => " " ++ kind.operator ++ " "

def comparisons : List String := ["=", "<>", "<", "<=", ">", ">="]

def joints : List Joint :=
  comparisons.map Joint.comparison ++ [Joint.connective .and, Joint.connective .or]

/-! In what follows `closed` tells whether negations have their operand in parentheses, and `resolve?`
gives the field behind a name. -/

section

variable (closed : Bool) (resolve? : String → Option String)

mutual

/-- Reads an operand with the tests that follow it. -/
def operand? : Nat → List Token → Option (Expression × List Token)
  | 0, _ => none
  | bound + 1, .identifier name :: rest => do
    let field ← resolve? name
    tests? bound (.field field) rest
  | bound + 1, tokens =>
    match after? "(" tokens with
    | some rest => group? bound rest
    | none => do
      let rest ← after? "not " tokens
      if closed then
        let rest ← after? "(" rest
        let (inner, rest) ← operand? bound rest
        let rest ← after? ")" rest
        tests? bound (.not inner) rest
      else
        let (inner, rest) ← operand? bound rest
        return (.not inner, rest)

/-- Reads a comparison or a junction, after its opening parenthesis. -/
def group? : Nat → List Token → Option (Expression × List Token)
  | 0, _ => none
  | bound + 1, tokens => do
    let (first, rest) ← operand? bound tokens
    let (joint, rest) ← keyword? Joint.text joints rest
    joined? bound first joint rest

/-- Reads what is joined to the first operand. -/
def joined? : Nat → Expression → Joint → List Token → Option (Expression × List Token)
  | 0, _, _, _ => none
  | bound + 1, first, .comparison operator, tokens => do
    let (second, rest) ← operand? bound tokens
    let rest ← after? ")" rest
    tests? bound (.simple first operator second) rest
  | bound + 1, first, .connective kind, tokens => do
    let (others, rest) ← items? bound (" " ++ kind.operator ++ " ") tokens
    let rest ← after? ")" rest
    tests? bound (.junction kind (first :: others)) rest

/-- Reads the tests of an operand. -/
def tests? : Nat → Expression → List Token → Option (Expression × List Token)
  | 0, _, _ => none
  | bound + 1, operand, tokens =>
    match keyword? Test.text tests tokens with
    | none => some (operand, tokens)
    | some (.null, rest) => tests? bound (.null operand) rest
    | some (.notNull, rest) => tests? bound (.notNull operand) rest
    | some (.between, rest) => do
      let (lower, rest) ← operand? bound rest
      let rest ← after? " and " rest
      let (upper, rest) ← operand? bound rest
      return (.between operand lower upper, rest)
    | some (.inValues, rest) => do
      let (values, rest) ← items? bound ", " rest
      let rest ← after? ")" rest
      tests? bound (.inValues operand values) rest

/-- Reads operands with a separator between them. -/
def items? : Nat → String → List Token → Option (List Expression × List Token)
  | 0, _, _ => none
  | bound + 1, separator, tokens => do
    let (first, rest) ← operand? bound tokens
    match after? separator rest with
    | none => return ([first], rest)
    | some rest =>
      let (others, rest) ← items? bound separator rest
      return (first :: others, rest)

end

end

/-- What a reader gives under every bound that is large enough. -/
def Gives {α : Type} (read : Nat → Option α) (result : α) : Prop :=
  ∀ᶠ bound in Filter.atTop, read bound = some result

namespace Gives

variable {α : Type} {read : Nat → Option α} {result result' : α}

theorem of_succ (given : Gives (fun bound => read (bound + 1)) result) : Gives read result := by
  rw [Gives, ← Filter.map_add_atTop_eq_nat 1]
  exact Filter.eventually_map.mpr given

/-- A reader gives one result at most. -/
theorem unique (given : Gives read result) (given' : Gives read result') : result = result' := by
  obtain ⟨bound, equal, equal'⟩ := (given.and given').exists
  exact Option.some.inj (equal.symm.trans equal')

end Gives

/-! ## Legible tokens -/

variable {closed : Bool} {resolve? : String → Option String}

/-- Tokens that are read as an operand, whatever follows them: `read` gives the expression from what
the tests that follow make of their operand. -/
def Legible (closed : Bool) (resolve? : String → Option String) (tokens : List Token)
    (read : (Expression → Expression) → Expression) : Prop :=
  ∀ outer tail rest,
    (∀ inner, Gives (tests? closed resolve? · inner tail) (outer inner, rest)) →
      Gives (operand? closed resolve? · (tokens ++ tail)) (read outer, rest)

/-- Tokens that are read as items, up to a closing parenthesis. -/
def LegibleItems (closed : Bool) (resolve? : String → Option String) (separator : String)
    (tokens : List Token) (read : List Expression) : Prop :=
  ∀ tail, Gives (items? closed resolve? · separator (tokens ++ (plain ")" ++ tail)))
    (read, plain ")" ++ tail)

/-- A joint is read as it is written, and ends the tests before it. -/
theorem keyword?_joint : ∀ joint ∈ joints, ∀ tail,
    keyword? Joint.text joints (plain joint.text ++ tail) = some (joint, tail) ∧
      keyword? Test.text tests (plain joint.text ++ tail) = none := by
  simp only [joints, comparisons, List.map_cons, List.map_nil, List.cons_append, List.nil_append,
    List.forall_mem_cons]
  exact ⟨fun _ => ⟨rfl, rfl⟩, fun _ => ⟨rfl, rfl⟩, fun _ => ⟨rfl, rfl⟩, fun _ => ⟨rfl, rfl⟩,
    fun _ => ⟨rfl, rfl⟩, fun _ => ⟨rfl, rfl⟩, fun _ => ⟨rfl, rfl⟩, fun _ => ⟨rfl, rfl⟩, by simp⟩

theorem gives_tests_of_stopped {tokens : List Token}
    (stopped : keyword? Test.text tests tokens = none) (inner : Expression) :
    Gives (tests? closed resolve? · inner tokens) (inner, tokens) := by
  refine .of_succ (.of_forall fun bound => ?_)
  simp only [tests?, stopped]

namespace Legible

variable {tokens tokens' : List Token} {read read' : (Expression → Expression) → Expression}

/-- Nothing is added to an operand where no test follows. -/
theorem ended (legible : Legible closed resolve? tokens read) {tail : List Token}
    (stopped : keyword? Test.text tests tail = none) :
    Gives (operand? closed resolve? · (tokens ++ tail)) (read id, tail) :=
  legible id tail tail (gives_tests_of_stopped stopped)

theorem field {name field : String} (resolved : resolve? name = some field) :
    Legible closed resolve? [.identifier name] fun outer => outer (.field field) := by
  intro outer tail rest tested
  refine .of_succ ?_
  filter_upwards [tested (.field field)] with bound equal
  rw [List.singleton_append, operand?, resolved]
  exact equal

theorem openNot (legible : Legible false resolve? tokens read) :
    Legible false resolve? (plain "not " ++ tokens) fun outer => .not (read outer) := by
  intro outer tail rest tested
  refine .of_succ ?_
  filter_upwards [legible outer tail rest tested] with bound operand
  have step : operand? false resolve? (bound + 1) (plain "not " ++ (tokens ++ tail)) =
      (do
        let (inner, rest) ← operand? false resolve? bound (tokens ++ tail)
        return (.not inner, rest)) := rfl
  rw [List.append_assoc, step, operand]
  rfl

theorem closedNot (legible : Legible true resolve? tokens read) :
    Legible true resolve? (plain "not (" ++ tokens ++ plain ")") fun outer =>
      outer (.not (read id)) := by
  intro outer tail rest tested
  have inside : Gives (operand? true resolve? · (tokens ++ (plain ")" ++ tail))) _ :=
    legible.ended rfl
  refine .of_succ ?_
  filter_upwards [inside, tested (.not (read id))] with bound operand equal
  have step : operand? true resolve? (bound + 1) (plain "not (" ++ (tokens ++ (plain ")" ++ tail))) =
      (do
        let (inner, rest) ← operand? true resolve? bound (tokens ++ (plain ")" ++ tail))
        let rest ← after? ")" rest
        tests? true resolve? bound (.not inner) rest) := rfl
  rw [List.append_assoc, List.append_assoc, step, operand]
  exact equal

/-- A test that is read by itself is applied to the operand before it. -/
theorem tested {test : List Token} {apply : Expression → Expression}
    (legible : Legible closed resolve? tokens read)
    (step : ∀ inner tail result, Gives (tests? closed resolve? · (apply inner) tail) result →
      Gives (tests? closed resolve? · inner (test ++ tail)) result) :
    Legible closed resolve? (tokens ++ test) fun outer => read fun inner => outer (apply inner) := by
  intro outer tail rest tested
  rw [List.append_assoc]
  apply legible
  intro inner
  exact step inner tail _ (tested (apply inner))

theorem null (legible : Legible closed resolve? tokens read) :
    Legible closed resolve? (tokens ++ plain " is null") fun outer =>
      read fun inner => outer (.null inner) := by
  apply legible.tested
  intro inner tail result given
  exact .of_succ given

theorem notNull (legible : Legible closed resolve? tokens read) :
    Legible closed resolve? (tokens ++ plain " is not null") fun outer =>
      read fun inner => outer (.notNull inner) := by
  apply legible.tested
  intro inner tail result given
  exact .of_succ given

theorem inValues {items : List Token} {values : List Expression}
    (legible : Legible closed resolve? tokens read)
    (members : LegibleItems closed resolve? ", " items values) :
    Legible closed resolve? (tokens ++ (plain " in (" ++ items ++ plain ")")) fun outer =>
      read fun inner => outer (.inValues inner values) := by
  apply legible.tested
  intro inner tail result given
  refine .of_succ ?_
  filter_upwards [members tail, given] with bound each equal
  have step : tests? closed resolve? (bound + 1) inner
      (plain " in (" ++ (items ++ (plain ")" ++ tail))) =
      (do
        let (values, rest) ← items? closed resolve? bound ", " (items ++ (plain ")" ++ tail))
        let rest ← after? ")" rest
        tests? closed resolve? bound (.inValues inner values) rest) := rfl
  rw [List.append_assoc, List.append_assoc, step, each]
  exact equal

/-- The upper bound of a range takes the tests that follow the range. -/
theorem between {lower upper : List Token}
    {readLower readUpper : (Expression → Expression) → Expression}
    (legible : Legible closed resolve? tokens read)
    (lowers : Legible closed resolve? lower readLower)
    (uppers : Legible closed resolve? upper readUpper) :
    Legible closed resolve? (tokens ++ plain " between " ++ lower ++ plain " and " ++ upper)
      fun outer => read fun inner => .between inner (readLower id) (readUpper outer) := by
  intro outer tail rest tested
  simp only [List.append_assoc]
  apply legible
  intro inner
  have least : Gives (operand? closed resolve? · (lower ++ (plain " and " ++ (upper ++ tail)))) _ :=
    lowers.ended rfl
  refine .of_succ ?_
  filter_upwards [least, uppers outer tail rest tested] with bound first second
  have step : tests? closed resolve? (bound + 1) inner
      (plain " between " ++ (lower ++ (plain " and " ++ (upper ++ tail)))) =
      (do
        let (lower, rest) ←
          operand? closed resolve? bound (lower ++ (plain " and " ++ (upper ++ tail)))
        let rest ← after? " and " rest
        let (upper, rest) ← operand? closed resolve? bound rest
        return (.between inner lower upper, rest)) := rfl
  have other : (do
      let (upper, rest) ← operand? closed resolve? bound (upper ++ tail)
      return (Expression.between inner (readLower id) upper, rest)) =
        some (.between inner (readLower id) (readUpper outer), rest) := by
    rw [second]
    rfl
  rw [step, first]
  exact other

/-- After an opening parenthesis and an operand, the joint decides how to go on. -/
theorem group (legible : Legible closed resolve? tokens read) {joint : Joint}
    (known : joint ∈ joints) {tail : List Token} {result : Expression × List Token}
    (given : Gives (joined? closed resolve? · (read id) joint tail) result) :
    Gives (operand? closed resolve? · (plain "(" ++ (tokens ++ (plain joint.text ++ tail))))
      result := by
  obtain ⟨found, stopped⟩ := keyword?_joint joint known tail
  refine .of_succ (.of_succ ?_)
  filter_upwards [legible.ended stopped, given] with bound first equal
  have start : operand? closed resolve? (bound + 1 + 1)
      (plain "(" ++ (tokens ++ (plain joint.text ++ tail))) =
        group? closed resolve? (bound + 1) (tokens ++ (plain joint.text ++ tail)) := rfl
  rw [start, group?, first]
  simp only [Option.bind_eq_bind, Option.bind_some, found, equal]

theorem simple {operator : String} (known : operator ∈ comparisons)
    (legible : Legible closed resolve? tokens read)
    (legible' : Legible closed resolve? tokens' read') :
    Legible closed resolve?
      (plain "(" ++ tokens ++ plain (" " ++ operator ++ " ") ++ tokens' ++ plain ")")
      fun outer => outer (.simple (read id) operator (read' id)) := by
  intro outer tail rest tested
  have joint : Joint.comparison operator ∈ joints :=
    List.mem_append_left _ (List.mem_map_of_mem known)
  have right : Gives (operand? closed resolve? · (tokens' ++ (plain ")" ++ tail))) _ :=
    legible'.ended rfl
  simp only [List.append_assoc]
  refine legible.group joint (.of_succ ?_)
  filter_upwards [right, tested (.simple (read id) operator (read' id))] with bound second equal
  rw [joined?, second]
  exact equal

theorem junction {kind : Connective} {items : List Token} {values : List Expression}
    (legible : Legible closed resolve? tokens read)
    (members : LegibleItems closed resolve? (" " ++ kind.operator ++ " ") items values) :
    Legible closed resolve?
      (plain "(" ++ tokens ++ plain (" " ++ kind.operator ++ " ") ++ items ++ plain ")")
      fun outer => outer (.junction kind (read id :: values)) := by
  intro outer tail rest tested
  have joint : Joint.connective kind ∈ joints := by
    cases kind <;> simp [joints]
  simp only [List.append_assoc]
  refine legible.group joint (.of_succ ?_)
  filter_upwards [members tail, tested (.junction kind (read id :: values))] with bound each equal
  rw [joined?, each]
  exact equal

end Legible

/-- A separator that ends the tests before it, and is no closing parenthesis. -/
structure IsSeparator (separator : String) : Prop where
  stopped : ∀ tail, keyword? Test.text tests (plain separator ++ tail) = none
  ended : ∀ tail, after? separator (plain ")" ++ tail) = none

theorem isSeparator_comma : IsSeparator ", " := ⟨fun _ => rfl, fun _ => rfl⟩

theorem isSeparator_connective (kind : Connective) : IsSeparator (" " ++ kind.operator ++ " ") := by
  cases kind <;> exact ⟨fun _ => rfl, fun _ => rfl⟩

namespace LegibleItems

variable {separator : String} {tokens items : List Token} {values : List Expression}
  {read : (Expression → Expression) → Expression}

theorem single (separates : IsSeparator separator) (legible : Legible closed resolve? tokens read) :
    LegibleItems closed resolve? separator tokens [read id] := by
  intro tail
  have item : Gives (operand? closed resolve? · (tokens ++ (plain ")" ++ tail))) _ :=
    legible.ended rfl
  refine .of_succ ?_
  filter_upwards [item] with bound first
  rw [items?, first]
  simp only [Option.bind_eq_bind, Option.bind_some, separates.ended tail]
  rfl

theorem cons (separates : IsSeparator separator) (legible : Legible closed resolve? tokens read)
    (others : LegibleItems closed resolve? separator items values) :
    LegibleItems closed resolve? separator (tokens ++ plain separator ++ items)
      (read id :: values) := by
  intro tail
  have after : after? separator (plain separator ++ (items ++ (plain ")" ++ tail))) = _ :=
    after?_append separator _
  simp only [List.append_assoc]
  refine .of_succ ?_
  filter_upwards [legible.ended (separates.stopped _), others tail] with bound first each
  rw [items?, first]
  simp only [Option.bind_eq_bind, Option.bind_some, after, each]
  rfl

end LegibleItems

end Reader

end SqlQuery
