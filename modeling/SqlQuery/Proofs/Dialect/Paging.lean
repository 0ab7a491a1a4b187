import SqlQuery.Proofs.Number.Numerals
import SqlQuery.Proofs.Render.Agreement

/-! # Paging clauses are read back

Each dialect has a grammar for the clause that restricts a select to a window of rows. The clause is
cut into words, and the grammar says which of the numbers is the limit and which is the offset. What
stands behind the select and its order is read back as the limit and the offset that were given, so
all dialects ask for the same rows.
-/

namespace SqlQuery

/-! ## Words -/

namespace Text

/-- The words of a text, given the one that it starts with, if any, and those after it. -/
def startWith : List Char × List (List Char) → List (List Char)
  | ([], later) => later
  | (c :: word, later) => (c :: word) :: later

/-- The word that a text starts with and the words after it; a comma is a word of its own. -/
def splitWord : List Char → List Char × List (List Char)
  | [] => ([], [])
  | c :: rest =>
    if c = ' ' then ([], startWith (splitWord rest))
    else if c = ',' then ([], [','] :: startWith (splitWord rest))
    else (c :: (splitWord rest).1, (splitWord rest).2)

def words (text : String) : List String :=
  (startWith (splitWord text.toList)).map String.ofList

/-- Some characters, none of which parts words. -/
def IsWord (word : String) : Prop :=
  word ≠ "" ∧ ∀ c ∈ word.toList, c ≠ ' ' ∧ c ≠ ','

theorem isWord_of_all {word : String} (given : word.toList.isEmpty = false)
    (solid : word.toList.all (fun c => c != ' ' && c != ',') = true) : IsWord word := by
  refine ⟨?_, fun c member => ?_⟩
  · rintro rfl
    contradiction
  · simpa using List.all_eq_true.mp solid c member

theorem isWord_toString (n : Nat) : IsWord (toString n) := by
  have digits : ∀ c ∈ (toString n).toList, c.isDigit = true := by
    rw [Nat.toString_eq_ofList_toDigits, String.toList_ofList]
    exact fun c member => Nat.isDigit_of_mem_toDigits (by decide) (by decide) member
  refine ⟨by simp, fun c member => ⟨?_, ?_⟩⟩
  · rintro rfl
    exact absurd (digits _ member) (by decide)
  · rintro rfl
    exact absurd (digits _ member) (by decide)

theorem splitWord_append {word : List Char} (solid : ∀ c ∈ word, c ≠ ' ' ∧ c ≠ ',')
    (rest : List Char) :
    splitWord (word ++ rest) = (word ++ (splitWord rest).1, (splitWord rest).2) := by
  induction word with
  | nil => rfl
  | cons c others ih =>
    obtain ⟨⟨blank, comma⟩, later⟩ := List.forall_mem_cons.mp solid
    rw [List.cons_append, splitWord, if_neg blank, if_neg comma, ih later, List.cons_append]

theorem words_blank (text : String) : words (" " ++ text) = words text := by
  rw [words, String.toList_append]
  rfl

theorem words_comma (text : String) : words ("," ++ text) = "," :: words text := by
  rw [words, String.toList_append]
  rfl

/-- A text that goes on with no word. -/
def EndsWord (text : String) : Prop :=
  (splitWord text.toList).1 = []

theorem endsWord_empty : EndsWord "" := rfl

theorem endsWord_blank (text : String) : EndsWord (" " ++ text) := by
  rw [EndsWord, String.toList_append]
  rfl

theorem endsWord_comma (text : String) : EndsWord ("," ++ text) := by
  rw [EndsWord, String.toList_append]
  rfl

theorem words_append {word text : String} (isWord : IsWord word) (ends : EndsWord text) :
    words (word ++ text) = word :: words text := by
  obtain ⟨given, solid⟩ := isWord
  have split := splitWord_append solid text.toList
  have after : startWith (splitWord text.toList) = (splitWord text.toList).2 := by
    rw [EndsWord] at ends
    cases split : splitWord text.toList with
    | mk first later =>
      rw [split] at ends
      cases ends
      rfl
  have before (later : List (List Char)) :
      startWith (word.toList, later) = word.toList :: later := by
    cases cs : word.toList with
    | nil => exact absurd (String.toList_eq_nil_iff.mp cs) given
    | cons c others => rfl
  rw [EndsWord] at ends
  rw [words, words, String.toList_append, split, ends, List.append_nil, before, after,
    List.map_cons, String.ofList_toList]

/-- Words with a blank before each. -/
def spaced : List String → String
  | [] => ""
  | word :: later => " " ++ word ++ spaced later

theorem endsWord_spaced {later : List String} {text : String} (ends : EndsWord text) :
    EndsWord (spaced later ++ text) := by
  cases later with
  | nil => rwa [spaced, String.empty_append]
  | cons word others =>
    rw [spaced, String.append_assoc, String.append_assoc]
    exact endsWord_blank _

theorem words_spaced {given : List String} (each : ∀ word ∈ given, IsWord word) {text : String}
    (ends : EndsWord text) : words (spaced given ++ text) = given ++ words text := by
  induction given with
  | nil => rw [spaced, String.empty_append, List.nil_append]
  | cons word later ih =>
    obtain ⟨isWord, others⟩ := List.forall_mem_cons.mp each
    rw [spaced, String.append_assoc, String.append_assoc, words_blank,
      words_append isWord (endsWord_spaced ends), ih others, List.cons_append]

theorem words_of_spaced {text : String} {given : List String}
    (same : text.toList = (spaced given).toList) (each : ∀ word ∈ given, IsWord word) :
    words text = given := by
  rw [String.toList_inj.mp same]
  have read := words_spaced each endsWord_empty
  rwa [String.append_empty, show words "" = [] from rfl, List.append_nil] at read

theorem words_limit (limit : Nat) :
    words (" LIMIT " ++ toString limit) = ["LIMIT", toString limit] := by
  refine words_of_spaced (by simp [spaced]) ?_
  simp only [List.forall_mem_cons, List.not_mem_nil, false_implies, implies_true, and_true]
  exact ⟨isWord_of_all rfl rfl, isWord_toString limit⟩

theorem words_limit_offset (limit offset : Nat) :
    words (" LIMIT " ++ toString limit ++ " OFFSET " ++ toString offset) =
      ["LIMIT", toString limit, "OFFSET", toString offset] := by
  refine words_of_spaced (by simp [spaced]) ?_
  simp only [List.forall_mem_cons, List.not_mem_nil, false_implies, implies_true, and_true]
  exact ⟨isWord_of_all rfl rfl, isWord_toString limit, isWord_of_all rfl rfl,
    isWord_toString offset⟩

theorem words_offset_limit (limit offset : Nat) :
    words (" LIMIT " ++ toString offset ++ ", " ++ toString limit) =
      ["LIMIT", toString offset, ",", toString limit] := by
  have text : " LIMIT " ++ toString offset ++ ", " ++ toString limit =
      spaced ["LIMIT", toString offset] ++ ("," ++ spaced [toString limit]) := by
    rw [← String.toList_inj]
    simp [spaced]
  have each : ∀ word ∈ ["LIMIT", toString offset], IsWord word :=
    List.forall_mem_cons.mpr
      ⟨isWord_of_all rfl rfl, List.forall_mem_singleton.mpr (isWord_toString offset)⟩
  have last : words (spaced [toString limit]) = [toString limit] :=
    words_of_spaced rfl (List.forall_mem_singleton.mpr (isWord_toString limit))
  rw [text, words_spaced each (endsWord_comma _), words_comma, last]
  rfl

theorem words_offset_fetch (limit offset : Nat) :
    words (" OFFSET " ++ toString offset ++ " ROWS FETCH NEXT " ++ toString limit ++ " ROWS ONLY") =
      ["OFFSET", toString offset, "ROWS", "FETCH", "NEXT", toString limit, "ROWS", "ONLY"] := by
  refine words_of_spaced (by simp [spaced]) ?_
  simp only [List.forall_mem_cons, List.not_mem_nil, false_implies, implies_true, and_true]
  exact ⟨isWord_of_all rfl rfl, isWord_toString offset, isWord_of_all rfl rfl, isWord_of_all rfl rfl,
    isWord_of_all rfl rfl, isWord_toString limit, isWord_of_all rfl rfl, isWord_of_all rfl rfl⟩

end Text

/-! ## Grammars -/

/-- At most `limit` rows after the first `offset`. -/
structure Page where
  limit : Nat
  offset : Nat
  deriving DecidableEq, Repr

namespace Page

def number? (word : String) : Option Nat :=
  Numeral.natural? word.toList

theorem number?_toString (n : Nat) : number? (toString n) = some n := by
  have digits := Numeral.isDigits_toDigits n
  have all : (Nat.toDigits 10 n).all Char.isDigit = true := List.all_eq_true.mpr digits.2
  have given : (Nat.toDigits 10 n).isEmpty = false := List.isEmpty_eq_false_iff.mpr digits.1
  rw [number?, Nat.toString_eq_ofList_toDigits, String.toList_ofList, Numeral.natural?, all, given,
    Numeral.digitsValue_toDigits]
  rfl

/-- Reads `LIMIT n`, or `LIMIT n OFFSET m`. -/
def ofLimitOffset? : List String → Option Page
  | ["LIMIT", limit] => do
    return ⟨← number? limit, 0⟩
  | ["LIMIT", limit, "OFFSET", offset] => do
    return ⟨← number? limit, ← number? offset⟩
  | _ => none

/-- Reads `LIMIT n`, or `LIMIT m, n`. -/
def ofLimitPair? : List String → Option Page
  | ["LIMIT", limit] => do
    return ⟨← number? limit, 0⟩
  | ["LIMIT", offset, ",", limit] => do
    return ⟨← number? limit, ← number? offset⟩
  | _ => none

/-- Reads `OFFSET m ROWS FETCH NEXT n ROWS ONLY`. -/
def ofOffsetFetch? : List String → Option Page
  | ["OFFSET", offset, "ROWS", "FETCH", "NEXT", limit, "ROWS", "ONLY"] => do
    return ⟨← number? limit, ← number? offset⟩
  | _ => none

end Page

namespace DialectKind

/-- The page that a dialect takes a clause for. -/
def page? (kind : DialectKind) (clause : String) : Option Page :=
  match kind with
  | generic | postgres | sqlite => Page.ofLimitOffset? (Text.words clause)
  | mysql => Page.ofLimitPair? (Text.words clause)
  | sqlserver => Page.ofOffsetFetch? (Text.words clause)

/-- What stands between a select and the clause: the order, if there is one. Where the clause may
only follow an order, a constant one takes its place. -/
def ordering (kind : DialectKind) : Option String → String
  | some order => " " ++ order
  | none => if kind = sqlserver then " ORDER BY (SELECT NULL)" else ""

/-- What each dialect writes for a window, it takes for that window. -/
theorem page?_windowText (kind : DialectKind) (limit offset : UInt64) :
    kind.page? (kind.dialect.windowText limit offset) = some ⟨limit.toNat, offset.toNat⟩ := by
  have limits := Page.number?_toString limit.toNat
  have offsets := Page.number?_toString offset.toNat
  have nothing (missing : ¬ 0 < offset) : offset.toNat = 0 := by
    have zero : offset = 0 := by simpa using UInt64.not_lt.mp missing
    rw [zero]
    rfl
  cases kind with
  | generic | postgres | sqlite =>
    change Page.ofLimitOffset? (Text.words (if 0 < offset then _ else _)) = _
    split
    · rw [Text.words_limit_offset, Page.ofLimitOffset?, limits, offsets]
      rfl
    · rw [Text.words_limit, Page.ofLimitOffset?, limits, nothing ‹_›]
      rfl
  | mysql =>
    change Page.ofLimitPair? (Text.words (if 0 < offset then _ else _)) = _
    split
    · rw [Text.words_offset_limit, Page.ofLimitPair?, limits, offsets]
      rfl
    · rw [Text.words_limit, Page.ofLimitPair?, limits, nothing ‹_›]
      rfl
  | sqlserver =>
    change Page.ofOffsetFetch? (Text.words (" OFFSET " ++ toString offset.toNat ++
      " ROWS FETCH NEXT " ++ toString limit.toNat ++ " ROWS ONLY")) = _
    rw [Text.words_offset_fetch, Page.ofOffsetFetch?, limits, offsets]
    rfl

theorem page_eq_ordering (kind : DialectKind) (select : String) (order : Option String)
    (limit offset : UInt64) :
    kind.dialect.page select order limit offset =
      select ++ kind.ordering order ++ kind.dialect.windowText limit offset := by
  have ordered (clause : String) :
      Dialect.withOrder select (some clause) = select ++ (" " ++ clause) :=
    String.append_assoc ..
  rw [Dialect.page_eq]
  cases order with
  | some clause =>
    rw [ordering, ← ordered]
    cases kind <;> rfl
  | none =>
    cases kind with
    | sqlserver => exact congrArg (· ++ _) (ordered _)
    | generic | postgres | mysql | sqlite => exact congrArg (· ++ _) (String.append_empty ..).symm

/-- Behind each select and its order, or the constant order that takes its place, stands the same
clause, which the dialect takes for the limit and the offset that were given. So the clauses of all
dialects ask for the same page. -/
theorem page_asks_for_window (limit offset : UInt64) :
    ∃ clause : DialectKind → String,
      (∀ kind : DialectKind,
        (∀ (select : String) (order : Option String),
          kind.dialect.page select order limit offset =
            select ++ kind.ordering order ++ clause kind) ∧
        kind.page? (clause kind) = some ⟨limit.toNat, offset.toNat⟩) ∧
      ∀ first second : DialectKind, first.page? (clause first) = second.page? (clause second) := by
  refine ⟨fun kind => kind.dialect.windowText limit offset, fun kind => ⟨?_, ?_⟩, ?_⟩
  · exact fun select order => kind.page_eq_ordering select order limit offset
  · exact kind.page?_windowText limit offset
  · intro first second
    rw [first.page?_windowText, second.page?_windowText]

end DialectKind

end SqlQuery
