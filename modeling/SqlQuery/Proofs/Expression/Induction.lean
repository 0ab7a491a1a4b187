import SqlQuery.Expression.Projection

/-! # Induction on trees

Expressions and projections hold lists of trees. Their induction principles have one case for each
form, where the property may be assumed of every member of such a list.
-/

namespace SqlQuery

@[elab_as_elim, induction_eliminator]
theorem Expression.induction {motive : Expression → Prop}
    (field : ∀ name, motive (.field name))
    (value : ∀ bound, motive (.value bound))
    (plain : ∀ sql, motive (.plain sql))
    (simple : ∀ left operator right, motive left → motive right →
      motive (.simple left operator right))
    (logical : ∀ left operator right, motive left → motive right →
      motive (.logical left operator right))
    (property : ∀ left operator right, motive (.property left operator right))
    (not : ∀ operand, motive operand → motive (.not operand))
    (notNull : ∀ operand, motive operand → motive (.notNull operand))
    (null : ∀ operand, motive operand → motive (.null operand))
    (between : ∀ operand lower upper, motive operand → motive lower → motive upper →
      motive (.between operand lower upper))
    (like : ∀ operand pattern mode escape ignoreCase, motive operand →
      motive (.like operand pattern mode escape ignoreCase))
    (ilike : ∀ operand pattern mode escape, motive operand →
      motive (.ilike operand pattern mode escape))
    (inValues : ∀ operand values, motive operand → (∀ value ∈ values, motive value) →
      motive (.inValues operand values))
    (junction : ∀ connective members, (∀ member ∈ members, motive member) →
      motive (.junction connective members))
    (function : ∀ name arguments, (∀ argument ∈ arguments, motive argument) →
      motive (.function name arguments))
    (expression : Expression) : motive expression :=
  @Expression.rec motive (fun expressions => ∀ member ∈ expressions, motive member)
    field value plain simple logical property not notNull null between like ilike inValues junction
    function (by simp) (fun _ _ head tail => List.forall_mem_cons.mpr ⟨head, tail⟩) expression

@[elab_as_elim, induction_eliminator]
theorem Projection.induction {motive : Projection → Prop}
    (aggregate : ∀ function argument distinct label grouped,
      motive (.aggregate function argument distinct label grouped))
    (rowCount : ∀ label, motive (.rowCount label))
    (property : ∀ field label grouped, motive (.property field label grouped))
    (expression : ∀ inner label, motive (.expression inner label))
    (list : ∀ members, (∀ member ∈ members, motive member) → motive (.list members))
    (projection : Projection) : motive projection :=
  @Projection.rec motive (fun projections => ∀ member ∈ projections, motive member)
    aggregate rowCount property expression list (by simp)
    (fun _ _ head tail => List.forall_mem_cons.mpr ⟨head, tail⟩) projection

end SqlQuery
