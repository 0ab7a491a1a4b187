import SqlQuery.Dialect.Basic

/-! # Regular dialects

Basic texts hold letters, digits and plain punctuation: no quotation mark, no delimiter of
identifiers, no marker of placeholders. A dialect is regular when its own texts are basic, and its
constant functions satisfy a given condition. The known dialects are regular if `datetime('now')`
satisfies it.
-/

namespace SqlQuery

def isBasicCharacter (c : Char) : Bool :=
  c.isAlphanum || [' ', '(', ')', '*', ',', '.', '=', '|', '+', '-', '_'].contains c

def isBasic (text : String) : Bool :=
  text.toList.all isBasicCharacter

theorem isBasic_append {first second : String} (basic : isBasic first) (basic' : isBasic second) :
    isBasic (first ++ second) := by
  rw [isBasic, String.toList_append, List.all_append, Bool.and_eq_true]
  exact ⟨basic, basic'⟩

theorem isBasicCharacter_of_isDigit {c : Char} (digit : c.isDigit) : isBasicCharacter c := by
  simp [isBasicCharacter, Char.isAlphanum, digit]

theorem isBasic_toString (n : Nat) : isBasic (toString n) := by
  rw [isBasic, Nat.toString_eq_ofList_toDigits, String.toList_ofList, List.all_eq_true]
  intro c member
  exact isBasicCharacter_of_isDigit (Nat.isDigit_of_mem_toDigits (by decide) (by decide) member)

/-- A character that continues neither a word nor a quoted form. -/
def isBreak (c : Char) : Bool :=
  [' ', ')', ',', '.'].contains c

def breaks (text : String) : Bool :=
  text.toList.head?.any isBreak

theorem breaks_append {first : String} (broken : breaks first) (second : String) :
    breaks (first ++ second) := by
  rw [breaks, String.toList_append, List.head?_append]
  rw [breaks] at broken
  cases head : first.toList.head? with
  | none => simp [head] at broken
  | some c => simpa [head] using broken

theorem breaks_operator (operator : String) : breaks (" " ++ operator ++ " ") :=
  breaks_append (breaks_append rfl operator) " "

namespace Dictionary

variable {α : Type} {name : String} {value : α}

theorem mem_of_find?_foldl_insert {entries : List (String × α)} {start : Dictionary α}
    (found : (entries.foldl (fun dictionary entry => dictionary.insert entry.1 entry.2)
      start).find? name = some value) :
    start.find? name = some value ∨ (name, value) ∈ entries := by
  induction entries generalizing start with
  | nil => exact .inl found
  | cons entry rest ih =>
    rcases ih found with before | after
    · rw [find?_insert] at before
      split at before
      · rename_i same
        obtain rfl := Option.some.inj before
        exact .inr (same ▸ List.mem_cons_self ..)
      · exact .inl before
    · exact .inr (List.mem_cons_of_mem _ after)

/-- An entry that is found by its name is one of the entries given. -/
theorem mem_of_find?_ofList {entries : List (String × α)}
    (found : (ofList entries).find? name = some value) : (name, value) ∈ entries := by
  rcases mem_of_find?_foldl_insert found with absent | member
  · simp at absent
  · exact member

end Dictionary

/-! ## Functions -/

def SqlFunction.Regular (fixed : String → Prop) : SqlFunction → Prop
  | call name => isBasic name
  | constant sql => fixed sql
  | enclosing opening separator closing =>
    isBasic opening ∧ (isBasic separator ∧ breaks separator) ∧ isBasic closing ∧ breaks closing

namespace Functions

variable {fixed : String → Prop}

theorem regular_of_find?_standardWith {changes : List (String × SqlFunction)}
    (basic : ∀ text, isBasic text → fixed text)
    (changed : ∀ change ∈ changes, change.2.Regular fixed) {name : String} {function : SqlFunction}
    (found : (standardWith changes).find? name = some function) : function.Regular fixed := by
  simp only [Functions.find?, standardWith] at found
  have entry : (Text.lowercase name, function) ∈ standardEntries ++ changes :=
    Dictionary.mem_of_find?_ofList found
  rw [List.mem_append, standardEntries, List.mem_append] at entry
  rcases entry with (calls | special) | change
  · obtain ⟨usual, known, same⟩ := List.mem_map.mp calls
    obtain ⟨-, rfl⟩ := Prod.mk.inj same
    have all : ∀ usual ∈ ["count", "sum", "avg", "min", "max", "lower", "upper", "abs", "coalesce",
        "length"], isBasic usual := by decide
    exact all usual known
  · simp only [List.mem_cons, Prod.mk.injEq, List.not_mem_nil, or_false] at special
    rcases special with ⟨-, rfl⟩ | ⟨-, rfl⟩
    · exact basic "current_timestamp" rfl
    · exact ⟨rfl, ⟨rfl, rfl⟩, rfl, rfl⟩
  · exact changed _ change

end Functions

/-! ## Dialects -/

structure Dialect.Regular (fixed : String → Prop) (dialect : Dialect) : Prop where
  basic : ∀ text, isBasic text → fixed text
  lower : isBasic dialect.lowerFunction
  booleans : ∀ value, isBasic (dialect.booleanLiteral value)
  functions : ∀ name function, dialect.functions.find? name = some function →
    function.Regular fixed

theorem DialectKind.regular (kind : DialectKind) {fixed : String → Prop}
    (basic : ∀ text, isBasic text → fixed text) (now : fixed "datetime('now')") :
    kind.dialect.Regular fixed where
  basic := basic
  lower := by cases kind <;> rfl
  booleans value := by cases kind <;> cases value <;> rfl
  functions name function found := by
    cases kind with
    | generic => exact Functions.regular_of_find?_standardWith basic (by simp) found
    | postgres =>
      refine Functions.regular_of_find?_standardWith basic ?_ found
      exact List.forall_mem_singleton.mpr (basic "now()" rfl)
    | mysql =>
      refine Functions.regular_of_find?_standardWith basic ?_ found
      simp only [List.forall_mem_cons, SqlFunction.Regular]
      exact ⟨rfl, rfl, by simp⟩
    | sqlite =>
      refine Functions.regular_of_find?_standardWith basic ?_ found
      exact List.forall_mem_singleton.mpr now
    | sqlserver =>
      refine Functions.regular_of_find?_standardWith basic ?_ found
      simp only [List.forall_mem_cons, SqlFunction.Regular]
      exact ⟨rfl, basic "getdate()" rfl, ⟨rfl, ⟨rfl, rfl⟩, rfl, rfl⟩, by simp⟩

end SqlQuery
