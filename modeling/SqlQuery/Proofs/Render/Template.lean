import SqlQuery.Render.Tree

/-! # Templates

A template is what both modes of rendering share: the fixed parts of a statement, with a hole for
each value. Holes are numbered in the order in which their values are bound, and a value whose place
is dropped from the text still takes a number. A draft is a template together with the cause for
which rendering stops after it, if it does stop.
-/

namespace SqlQuery

/-- A part of a statement. -/
inductive Piece
  /-- SQL as it stands. -/
  | sql (text : String)
  /-- A quoted identifier. -/
  | name (identifier : String)
  /-- A literal that is inlined in either mode. -/
  | quoted (text : String)
  /-- The place of a value. -/
  | hole (value : Value)
  /-- A value that is bound, but has no place in the text. -/
  | dropped (value : Value)
  deriving DecidableEq, Repr

abbrev Template := List Piece

namespace Piece

/-- The value that a piece binds. -/
def value? : Piece → Option Value
  | hole value => some value
  | dropped value => some value
  | _ => none

/-- Takes a piece out of the text; its value stays bound. -/
def drop? : Piece → Option Piece
  | hole value => some (dropped value)
  | dropped value => some (dropped value)
  | _ => none

/-- Whether a piece has a place in the text. -/
def isShown : Piece → Bool
  | dropped _ => false
  | _ => true

end Piece

namespace Template

/-- The bound values, in the order of binding. -/
def values (template : Template) : List Value :=
  template.filterMap Piece.value?

@[simp] theorem values_hole (value : Value) (rest : Template) :
    values (.hole value :: rest) = value :: values rest := rfl

@[simp] theorem values_dropped (value : Value) (rest : Template) :
    values (.dropped value :: rest) = value :: values rest := rfl

@[simp] theorem values_sql (text : String) (rest : Template) :
    values (.sql text :: rest) = values rest := rfl

@[simp] theorem values_name (identifier : String) (rest : Template) :
    values (.name identifier :: rest) = values rest := rfl

@[simp] theorem values_quoted (text : String) (rest : Template) :
    values (.quoted text :: rest) = values rest := rfl

theorem values_append (first second : Template) :
    values (first ++ second) = values first ++ values second :=
  List.filterMap_append

/-- The text, where `write` is given the number and the value of each hole; the numbers count from
`index`. -/
def fillFrom (dialect : Dialect) (write : Nat → Value → String) : Nat → Template → String
  | _, [] => ""
  | index, .sql text :: rest => text ++ fillFrom dialect write index rest
  | index, .name identifier :: rest =>
    dialect.quote identifier ++ fillFrom dialect write index rest
  | index, .quoted text :: rest => dialect.quoteLiteral text ++ fillFrom dialect write index rest
  | index, .hole value :: rest => write index value ++ fillFrom dialect write (index + 1) rest
  | index, .dropped _ :: rest => fillFrom dialect write (index + 1) rest

def fill (template : Template) (dialect : Dialect) (write : Nat → Value → String) : String :=
  template.fillFrom dialect write 0

/-- The holes with their numbers, which count from `index`. -/
def holesFrom : Nat → Template → List (Nat × Value)
  | _, [] => []
  | index, .hole value :: rest => (index, value) :: holesFrom (index + 1) rest
  | index, .dropped _ :: rest => holesFrom (index + 1) rest
  | index, _ :: rest => holesFrom index rest

def holes (template : Template) : List (Nat × Value) :=
  template.holesFrom 0

/-- The pieces that have a place in the text. -/
def shown (template : Template) : Template :=
  template.filter Piece.isShown

theorem shown_cons (piece : Piece) (rest : Template) :
    shown (piece :: rest) = if piece.isShown then piece :: shown rest else shown rest :=
  List.filter_cons

/-- Every hole is labelled with the value of its number. -/
theorem getElem?_of_mem_holesFrom {template : Template} {start index : Nat} {value : Value}
    (member : (index, value) ∈ holesFrom start template) :
    start ≤ index ∧ template.values[index - start]? = some value := by
  induction template generalizing start with
  | nil => simp [holesFrom] at member
  | cons piece rest ih =>
    have later (other : (index, value) ∈ holesFrom (start + 1) rest) (skipped : Value) :
        start ≤ index ∧ (skipped :: values rest)[index - start]? = some value := by
      obtain ⟨bound, found⟩ := ih other
      refine ⟨by omega, ?_⟩
      rw [show index - start = index - (start + 1) + 1 by omega, List.getElem?_cons_succ]
      exact found
    cases piece with
    | hole first =>
      rcases List.mem_cons.mp member with same | other
      · obtain ⟨rfl, rfl⟩ := Prod.mk.inj same
        simp [values, Piece.value?]
      · exact later other first
    | dropped first => exact later member first
    | sql text => exact ih member
    | name identifier => exact ih member
    | quoted text => exact ih member

theorem pairwise_holesFrom (start : Nat) (template : Template) :
    (holesFrom start template).Pairwise fun hole later => hole.1 < later.1 := by
  induction template generalizing start with
  | nil => exact .nil
  | cons piece rest ih =>
    cases piece with
    | hole value =>
      refine .cons ?_ (ih (start + 1))
      intro later member
      have bound := (getElem?_of_mem_holesFrom member).1
      omega
    | dropped value => exact ih (start + 1)
    | sql | name | quoted => exact ih start

end Template

/-- A template, and the cause for which rendering stops after it, if it does. -/
structure Draft where
  pieces : Template := []
  failure : Option RenderError := none
  deriving Repr

namespace Draft

/-- Nothing. -/
def blank : Draft := {}

def piece (piece : Piece) : Draft := { pieces := [piece] }

def text (sql : String) : Draft := piece (.sql sql)

def failed (cause : RenderError) : Draft := { failure := some cause }

/-- One draft after another; nothing comes after a failure. -/
def append (first second : Draft) : Draft :=
  match first.failure with
  | none => ⟨first.pieces ++ second.pieces, second.failure⟩
  | some cause => ⟨first.pieces, some cause⟩

instance : Append Draft := ⟨append⟩

/-- Drafts with a separator between them. -/
def join (separator : String) : List Draft → Draft
  | [] => blank
  | [only] => only
  | first :: rest => first ++ text separator ++ join separator rest

/-- A draft without its text; its values stay bound. -/
def dropped (draft : Draft) : Draft :=
  { draft with pieces := draft.pieces.filterMap Piece.drop? }

@[simp] theorem append_blank (draft : Draft) : draft ++ blank = draft := by
  obtain ⟨pieces, failure⟩ := draft
  change append _ _ = _
  cases failure <;> simp [append, blank]

theorem append_assoc (first second third : Draft) :
    first ++ second ++ third = first ++ (second ++ third) := by
  obtain ⟨pieces, failure⟩ := first
  change append (append _ _) _ = append _ (append _ _)
  cases failure with
  | some cause => rfl
  | none => cases failed : second.failure <;> simp [append, failed]

section

variable {first second : Draft}

theorem failure_append : (first ++ second).failure = none ↔
    first.failure = none ∧ second.failure = none := by
  change (append _ _).failure = none ↔ _
  rw [append]
  cases first.failure <;> simp

theorem pieces_append (complete : first.failure = none) :
    (first ++ second).pieces = first.pieces ++ second.pieces := by
  change (append _ _).pieces = _
  rw [append, complete]

theorem values_append (complete : first.failure = none) :
    (first ++ second).pieces.values = first.pieces.values ++ second.pieces.values := by
  rw [pieces_append complete, Template.values_append]

/-- A separator binds nothing: joined drafts bind the values of each in turn. -/
theorem values_join {separator : String} {drafts : List Draft}
    (complete : (join separator drafts).failure = none) :
    (join separator drafts).pieces.values = drafts.flatMap (·.pieces.values) := by
  induction drafts with
  | nil => rfl
  | cons head rest ih =>
    cases rest with
    | nil => exact (List.append_nil _).symm
    | cons next others =>
      obtain ⟨before, after⟩ := failure_append.mp complete
      have separated : (head ++ text separator).pieces.values = head.pieces.values :=
        (values_append (failure_append.mp before).1).trans (List.append_nil _)
      rw [List.flatMap_cons, ← ih after, ← separated]
      exact values_append before

end

end Draft

end SqlQuery
