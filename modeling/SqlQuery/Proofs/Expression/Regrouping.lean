import SqlQuery.Proofs.Expression.Induction
import SqlQuery.Proofs.Render.Draft

/-! # Regrouped conditions

A test (null, range or list) is written after its operand without parentheses, and most dialects
write a negation before its operand in the same way. So a text does not tell how tests are nested.
Regrouping hands each test to the nearest operand: it changes no text, and it changes nothing at all
where no test is applied to a range or to an open negation.
-/

namespace SqlQuery

open Draft (text)

namespace Expression

mutual

/-- The expression with each test at the nearest operand, where `outer` is what the tests that follow
make of their operand. -/
def regroup (closed : Bool) : Expression → (Expression → Expression) → Expression
  | not operand, outer =>
    if closed then outer (not (regroup closed operand id)) else not (regroup closed operand outer)
  | notNull operand, outer => regroup closed operand fun inner => outer (notNull inner)
  | null operand, outer => regroup closed operand fun inner => outer (null inner)
  | between operand lower upper, outer =>
    regroup closed operand fun inner =>
      between inner (regroup closed lower id) (regroup closed upper outer)
  | inValues operand values, outer =>
    if values.isEmpty then outer (inValues operand values)
    else regroup closed operand fun inner => outer (inValues inner (regroupAll closed values))
  | simple left operator right, outer =>
    outer (simple (regroup closed left id) operator (regroup closed right id))
  | junction connective members, outer => outer (junction connective (regroupAll closed members))
  | other, outer => outer other

def regroupAll (closed : Bool) : List Expression → List Expression
  | [] => []
  | expression :: rest => regroup closed expression id :: regroupAll closed rest

end

theorem regroupAll_eq_map (closed : Bool) (expressions : List Expression) :
    regroupAll closed expressions = expressions.map (regroup closed · id) := by
  induction expressions with
  | nil => rfl
  | cons head rest ih => rw [regroupAll, ih, List.map_cons]

section Draft

variable (dialect : Dialect) (table : Option Table)

/-- Regrouping leaves what is written as it is, and so does what follows it. -/
theorem draft_regroup (expression : Expression) {outer : Expression → Expression} {after : Draft}
    (written : ∀ inner, (outer inner).draft dialect table = inner.draft dialect table ++ after) :
    (expression.regroup dialect.parenthesizesNot outer).draft dialect table =
      expression.draft dialect table ++ after := by
  have alone (inner : Expression) :
      (id inner).draft dialect table = inner.draft dialect table ++ .blank :=
    (Draft.append_blank _).symm
  have all {members : List Expression} (each : ∀ member ∈ members, (member.regroup
      dialect.parenthesizesNot id).draft dialect table = member.draft dialect table ++ .blank) :
      draftAll dialect table (regroupAll dialect.parenthesizesNot members) =
        draftAll dialect table members := by
    rw [draftAll_eq_map, draftAll_eq_map, regroupAll_eq_map, List.map_map]
    apply List.map_congr_left
    intro member belongs
    rw [Function.comp_apply, each member belongs, Draft.append_blank]
  have isEmpty (members : List Expression) :
      (regroupAll dialect.parenthesizesNot members).isEmpty = members.isEmpty := by
    cases members <;> rfl
  induction expression generalizing outer after with
  | not operand ih =>
    rw [regroup]
    split
    · rw [written, draft, ih alone, Draft.append_blank, draft]
    · rename_i opened
      rw [draft, ih written, draft, if_neg opened, if_neg opened, Draft.append_assoc]
  | notNull operand ih | null operand ih =>
    rw [regroup, draft, ih, Draft.append_assoc]
    intro inner
    rw [written, draft, Draft.append_assoc]
  | between operand lower upper operands lowers uppers =>
    rw [regroup, draft, operands]
    · simp only [Draft.append_assoc]
      rfl
    · intro inner
      rw [draft, lowers alone, uppers written, Draft.append_blank]
      simp only [Draft.append_assoc]
  | inValues operand values operands members =>
    rw [regroup]
    split
    · exact written _
    · rename_i given
      have tested (inner : Expression) :
          (outer (inValues inner (regroupAll dialect.parenthesizesNot values))).draft dialect table =
            inner.draft dialect table ++ (text " in (" ++
              (.join ", " (draftAll dialect table values) ++ (text ")" ++ after))) := by
        rw [written, draft, isEmpty, if_neg given, all fun member belongs =>
          members member belongs alone]
        simp only [Draft.append_assoc]
      rw [operands tested, draft, if_neg given]
      simp only [Draft.append_assoc]
  | simple left operator right lefts rights =>
    rw [regroup, written, draft, lefts alone, rights alone, Draft.append_blank, Draft.append_blank,
      draft]
  | junction connective members each =>
    rw [regroup, written, draft, all fun member belongs => each member belongs alone, isEmpty, draft]
  | _ => exact written _

theorem draft_regroup_id (expression : Expression) :
    (expression.regroup dialect.parenthesizesNot id).draft dialect table =
      expression.draft dialect table := by
  have written (inner : Expression) :
      (id inner).draft dialect table = inner.draft dialect table ++ .blank :=
    (Draft.append_blank _).symm
  rw [draft_regroup dialect table expression written, Draft.append_blank]

end Draft

/-- Whether the expression ends with an operand that takes a test after it. -/
def isOpen (closed : Bool) : Expression → Bool
  | not _ => !closed
  | between .. => true
  | _ => false

/-- A condition where no test is applied to an open expression. -/
inductive Parted (closed : Bool) : Expression → Prop
  | field (name : String) : Parted closed (field name)
  | not {operand : Expression} (operands : Parted closed operand) : Parted closed (not operand)
  | notNull {operand : Expression} (ended : operand.isOpen closed = false)
    (operands : Parted closed operand) : Parted closed (notNull operand)
  | null {operand : Expression} (ended : operand.isOpen closed = false)
    (operands : Parted closed operand) : Parted closed (null operand)
  | between {operand lower upper : Expression} (ended : operand.isOpen closed = false)
    (operands : Parted closed operand) (lowers : Parted closed lower)
    (uppers : Parted closed upper) : Parted closed (between operand lower upper)
  | inValues {operand : Expression} {values : List Expression}
    (ended : operand.isOpen closed = false) (operands : Parted closed operand)
    (members : ∀ member ∈ values, Parted closed member) : Parted closed (inValues operand values)
  | simple {left right : Expression} (operator : String) (lefts : Parted closed left)
    (rights : Parted closed right) : Parted closed (simple left operator right)
  | junction {members : List Expression} (connective : Connective)
    (each : ∀ member ∈ members, Parted closed member) : Parted closed (junction connective members)

variable {closed : Bool}

theorem regroupAll_of_forall {members : List Expression}
    (each : ∀ member ∈ members, member.regroup closed id = member) :
    regroupAll closed members = members := by
  rw [regroupAll_eq_map, List.map_congr_left each, List.map_id']

/-- A parted condition is regrouped as it is, and taken as a whole unless it is open. -/
theorem Parted.regroup_eq {expression : Expression} (parted : expression.Parted closed) :
    expression.regroup closed id = expression ∧
      (expression.isOpen closed = false →
        ∀ outer, expression.regroup closed outer = outer expression) := by
  induction parted with
  | field name => exact ⟨rfl, fun _ _ => rfl⟩
  | not _ ih =>
    obtain ⟨alone, -⟩ := ih
    cases closed with
    | true => simp [regroup, alone]
    | false => simp [regroup, alone, isOpen]
  | notNull ended _ ih | null ended _ ih =>
    have whole := ih.2 ended
    simp [regroup, whole]
  | between ended _ _ _ operands lowers uppers =>
    have whole := operands.2 ended
    simp [regroup, whole, lowers.1, uppers.1, isOpen]
  | inValues ended _ _ operands members =>
    have whole := operands.2 ended
    have all := regroupAll_of_forall fun member belongs => (members member belongs).1
    simp [regroup, whole, all]
  | simple operator _ _ lefts rights => simp [regroup, lefts.1, rights.1]
  | junction connective _ each =>
    have all := regroupAll_of_forall fun member belongs => (each member belongs).1
    simp [regroup, all]

end Expression

end SqlQuery
