import SqlQuery.Proofs.Query.Core

/-! # Values that show

A value has a place in the text of a tree, unless it is an argument of a function that takes none.
Rendered after further bindings, a text that shows a value has another placeholder there, so it is
another text. A text that shows no value stays the same.
-/

namespace SqlQuery

open Bindings (automaticName automaticName_injective)

/-! ## Trees that show a value -/

/-- Whether a call shows its arguments; a function that takes none drops them. -/
def Dialect.showsArguments (dialect : Dialect) (function : String) : Bool :=
  match dialect.functions.find? function with
  | some (.constant _) => false
  | _ => true

mutual

/-- Whether a value, or the pattern of a LIKE, has a place in the text of an expression. -/
def Expression.showsValue (dialect : Dialect) : Expression → Bool
  | .value _ | .like _ _ _ _ _ | .ilike _ _ _ _ => true
  | .field _ | .plain _ | .property _ _ _ => false
  | .simple left _ right | .logical left _ right =>
    left.showsValue dialect || right.showsValue dialect
  | .not operand | .notNull operand | .null operand => operand.showsValue dialect
  | .between operand lower upper =>
    operand.showsValue dialect || lower.showsValue dialect || upper.showsValue dialect
  | .inValues operand values =>
    !values.isEmpty && (operand.showsValue dialect || anyShowsValue dialect values)
  | .junction _ members => anyShowsValue dialect members
  | .function name arguments => dialect.showsArguments name && anyShowsValue dialect arguments

def Expression.anyShowsValue (dialect : Dialect) : List Expression → Bool
  | [] => false
  | expression :: rest => expression.showsValue dialect || anyShowsValue dialect rest

end

theorem Expression.anyShowsValue_eq_any (dialect : Dialect) (expressions : List Expression) :
    anyShowsValue dialect expressions = expressions.any (·.showsValue dialect) := by
  induction expressions with
  | nil => rfl
  | cons first rest ih => rw [anyShowsValue, ih, List.any_cons]

/-- Whether a value has a place in the text of a leaf. -/
def Projection.showsValue (dialect : Dialect) : Projection → Bool
  | aggregate function argument _ _ _ =>
    dialect.showsArguments function && argument.showsValue dialect
  | expression inner _ => inner.showsValue dialect
  | rowCount _ | property _ _ _ | list _ => false

/-! ## Drafts that show a value -/

def Piece.isHole : Piece → Bool
  | hole _ => true
  | _ => false

/-- A draft that shows a value or shows none, provided that it is complete. -/
def Draft.Shows (draft : Draft) (shown : Bool) : Prop :=
  draft.failure = none → draft.pieces.any Piece.isHole = shown

namespace Draft.Shows

variable {dialect : Dialect} {first second draft : Draft} {left right shown : Bool}

theorem text (sql : String) : (Draft.text sql).Shows false := fun _ => rfl

theorem name (identifier : String) : (Draft.piece (.name identifier)).Shows false := fun _ => rfl

theorem value (bound : Value) : (Draft.value bound).Shows true := fun _ => rfl

theorem pattern (pattern : String) (mode : MatchMode) :
    (Draft.pattern pattern mode).Shows true := value _

theorem append (shows : first.Shows left) (shows' : second.Shows right) :
    (first ++ second).Shows (left || right) := by
  intro complete
  change (Draft.append first second).failure = none at complete
  change (Draft.append first second).pieces.any _ = _
  cases stopped : first.failure with
  | some cause => simp [Draft.append, stopped] at complete
  | none =>
    simp only [Draft.append, stopped] at complete ⊢
    rw [List.any_append, shows stopped, shows' complete]

theorem closing (shows : draft.Shows shown) (sql : String) : (draft ++ Draft.text sql).Shows shown := by
  simpa using shows.append (text sql)

theorem opening (sql : String) (shows : draft.Shows shown) : (Draft.text sql ++ draft).Shows shown := by
  simpa using (text sql).append shows

/-- Text between two drafts shows nothing. -/
theorem parted (shows : first.Shows left) (sql : String) (shows' : second.Shows right) :
    (first ++ Draft.text sql ++ second).Shows (left || right) :=
  (shows.closing sql).append shows'

theorem join (separator : String) {α : Type} {drafted : α → Draft} {shown : α → Bool}
    {members : List α} (each : ∀ member ∈ members, (drafted member).Shows (shown member)) :
    (Draft.join separator (members.map drafted)).Shows (members.any shown) := by
  induction members with
  | nil => exact fun _ => rfl
  | cons first rest ih =>
    obtain ⟨head, tail⟩ := List.forall_mem_cons.mp each
    rw [List.any_cons]
    cases rest with
    | nil => simpa [Draft.join] using head
    | cons second others => exact head.parted separator (ih tail)

/-- A dropped draft shows nothing. -/
theorem dropped (draft : Draft) : draft.dropped.Shows false := by
  intro _
  rw [Draft.dropped, List.any_eq_false]
  intro piece member
  obtain ⟨whole, -, kept⟩ := List.mem_filterMap.mp member
  cases whole <;> cases kept <;> exact Bool.false_ne_true

theorem field (table : Option Table) (name : String) : (Draft.field table name).Shows false := by
  rw [Draft.field]
  split
  · exact .name _
  · exact text name

theorem operation (operator : String) (shows : first.Shows left) (shows' : second.Shows right) :
    (Draft.operation first operator second).Shows (left || right) :=
  ((shows.opening "(").parted _ shows').closing ")"

theorem escaped (shows : draft.Shows shown) (escape : Option Char) :
    (Draft.escaped draft escape).Shows shown := by
  cases escape with
  | none => exact shows
  | some c =>
    have quoted : (Draft.piece (.quoted (String.singleton c))).Shows false := fun _ => rfl
    have whole := shows.parted " escape " quoted
    rwa [Bool.or_false] at whole

/-- A call shows what its arguments show, unless it drops them. -/
theorem call {function : String} {found : SqlFunction} {arguments : List Draft}
    (known : dialect.functions.find? function = some found)
    (joined : ∀ separator, (Draft.join separator arguments).Shows shown) :
    (Draft.call found arguments).Shows (dialect.showsArguments function && shown) := by
  rw [Dialect.showsArguments, known]
  cases found with
  | call name => exact ((joined ", ").opening (name ++ "(")).closing ")"
  | constant sql => exact (dropped _).closing sql
  | enclosing opening separator closing =>
    exact ((joined separator).opening opening).closing closing

theorem lookupFirst (function : String) {arguments : List Draft}
    (joined : ∀ separator, (Draft.join separator arguments).Shows shown) :
    (Draft.lookupFirst dialect function arguments).Shows
      (dialect.showsArguments function && shown) := by
  rw [Draft.lookupFirst]
  cases known : dialect.functions.find? function with
  | some found => exact call known joined
  | none =>
    intro complete
    cases complete

theorem lookupLast (function : String) {argument : Draft} (shows : argument.Shows shown) :
    (Draft.lookupLast dialect function [argument]).Shows
      (dialect.showsArguments function && shown) := by
  rw [Draft.lookupLast]
  cases known : dialect.functions.find? function with
  | some found => exact call known fun _ => shows
  | none =>
    intro complete
    change (Draft.append argument _).failure = none at complete
    rw [Draft.append] at complete
    split at complete <;> cases complete

end Draft.Shows

section

variable (dialect : Dialect) (table : Option Table)

theorem Expression.shows_join (separator : String) {expressions : List Expression}
    (each : ∀ member ∈ expressions,
      (member.draft dialect table).Shows (member.showsValue dialect)) :
    (Draft.join separator (Expression.draftAll dialect table expressions)).Shows
      (Expression.anyShowsValue dialect expressions) := by
  rw [draftAll_eq_map, anyShowsValue_eq_any]
  exact .join separator each

theorem Expression.shows_draft (expression : Expression) :
    (expression.draft dialect table).Shows (expression.showsValue dialect) := by
  induction expression with
  | field name => exact .field table name
  | value bound => exact .value bound
  | plain sql => exact .text sql
  | simple left operator right shows shows' => exact .operation operator shows shows'
  | logical left operator right shows shows' => exact .operation operator shows shows'
  | property left operator right =>
    exact .operation operator (.field table left) (.field table right)
  | not operand shows =>
    rw [Expression.draft, Expression.showsValue]
    split
    · exact (shows.opening "not (").closing ")"
    · exact shows.opening "not "
  | notNull operand shows => exact shows.closing _
  | null operand shows => exact shows.closing _
  | between operand lower upper shows shows_lower shows_upper =>
    exact (shows.parted " between " shows_lower).parted " and " shows_upper
  | like operand pattern mode escape ignoreCase shows =>
    rw [Expression.draft, Expression.showsValue]
    have subject : (if ignoreCase then Draft.lowered dialect (operand.draft dialect table)
        else operand.draft dialect table).Shows (operand.showsValue dialect) := by
      split
      · exact (shows.opening _).closing ")"
      · exact shows
    simpa only [Bool.or_true] using
      (subject.parted " like " (.pattern pattern mode)).escaped escape
  | ilike operand pattern mode escape shows =>
    rw [Expression.draft, Expression.showsValue]
    have subject : (if dialect.nativeIlike then operand.draft dialect table ++ Draft.text " ilike "
        else Draft.lowered dialect (operand.draft dialect table) ++ Draft.text " like ").Shows
          (operand.showsValue dialect) := by
      split
      · exact shows.closing _
      · exact ((shows.opening _).closing ")").closing _
    simpa only [Bool.or_true] using
      (subject.append (.pattern pattern mode)).escaped escape
  | inValues operand values shows each =>
    rw [Expression.draft, Expression.showsValue]
    cases values.isEmpty with
    | true => exact .text "1=0"
    | false =>
      simpa using (shows.parted " in (" (shows_join dialect table ", " each)).closing ")"
  | junction connective members each =>
    rw [Expression.draft, Expression.showsValue]
    split
    · rename_i empty
      rw [List.isEmpty_iff.mp empty]
      exact .text "1=1"
    · exact ((shows_join dialect table _ each).opening "(").closing ")"
  | function name arguments each =>
    exact .lookupFirst name fun separator => shows_join dialect table separator each

end

/-! ## Texts with other numbers -/

/-- A way to write values by number, where a greater number takes no less room and is never written
alike. -/
structure Numbers (write : Nat → Value → String) : Prop where
  length_le : ∀ {m n : Nat}, m ≤ n → ∀ value, (write m value).length ≤ (write n value).length
  eq_of_eq : ∀ {m n : Nat} {value : Value}, write m value = write n value → m = n

theorem length_toString_le {m n : Nat} (order : m ≤ n) :
    (toString m).length ≤ (toString n).length := by
  have positive : 0 < (Nat.toDigits 10 n).length := Nat.length_toDigits_pos
  have bound := (Nat.length_toDigits_le_iff (by decide) positive).mp (Nat.le_refl _)
  simp only [Nat.toString_eq_ofList_toDigits, String.length_ofList]
  exact (Nat.length_toDigits_le_iff (by decide) positive).mpr (Nat.lt_of_le_of_lt order bound)

theorem numbers_placeholder (marker : String) :
    Numbers fun index _ => marker ++ automaticName index where
  length_le order value := by
    have digits := length_toString_le order
    simp only [automaticName, String.length_append]
    omega
  eq_of_eq same := automaticName_injective ((String.append_right_inj marker).mp same)

namespace Template

variable {write : Nat → Value → String} (dialect : Dialect)

theorem length_fillFrom_le (numbers : Numbers write) (template : Template) {m n : Nat}
    (order : m ≤ n) :
    (template.fillFrom dialect write m).length ≤ (template.fillFrom dialect write n).length := by
  induction template generalizing m n with
  | nil => exact Nat.le_refl _
  | cons piece rest ih =>
    have same := ih order
    have next := ih (Nat.add_le_add_right order 1)
    cases piece with
    | hole value =>
      have here := numbers.length_le order value
      simp only [fillFrom, String.length_append]
      omega
    | dropped value => exact next
    | sql | name | quoted =>
      simp only [fillFrom, String.length_append]
      omega

/-- A text in which no number is written does not depend on the numbers. -/
theorem fillFrom_congr {template : Template}
    (written : template.any Piece.isHole = true → ∀ m n value, write m value = write n value)
    (m n : Nat) : template.fillFrom dialect write m = template.fillFrom dialect write n := by
  induction template generalizing m n with
  | nil => rfl
  | cons piece rest ih =>
    have later := ih fun holed => written (by simp [holed])
    cases piece with
    | hole value => simp only [fillFrom, later (m + 1) (n + 1), written rfl m n]
    | dropped value => exact later _ _
    | sql | name | quoted => simp only [fillFrom, later m n]

/-- With a hole the text changes with the number that the holes count from: where two texts agree in
length, the first hole has different numbers in the same place. -/
theorem fillFrom_ne (numbers : Numbers write) {template : Template}
    (holed : template.any Piece.isHole = true) {m n : Nat} (order : m < n) :
    template.fillFrom dialect write m ≠ template.fillFrom dialect write n := by
  induction template generalizing m n with
  | nil => contradiction
  | cons piece rest ih =>
    have onward (more : rest.any Piece.isHole = true) {m n : Nat} (order : m < n) (before : String) :
        before ++ fillFrom dialect write m rest ≠ before ++ fillFrom dialect write n rest :=
      fun same => ih more order ((String.append_right_inj before).mp same)
    cases piece with
    | hole value =>
      intro same
      have here := numbers.length_le (Nat.le_of_lt order) value
      have later := length_fillFrom_le dialect numbers rest
        (Nat.add_le_add_right (Nat.le_of_lt order) 1)
      have lengths := congrArg String.length same
      simp only [fillFrom, String.length_append] at lengths
      have characters := congrArg String.toList same
      simp only [fillFrom, String.toList_append] at characters
      have equal : (write m value).toList = (write n value).toList :=
        (List.append_inj characters (by simp only [String.length_toList]; omega)).1
      exact Nat.ne_of_lt order (numbers.eq_of_eq (String.toList_inj.mp equal))
    | dropped value => exact ih holed (Nat.succ_lt_succ order)
    | sql text => exact onward holed order text
    | name identifier => exact onward holed order _
    | quoted text => exact onward holed order _

theorem values_ne_nil_of_hole {template : Template} (holed : template.any Piece.isHole = true) :
    template.values ≠ [] := by
  obtain ⟨piece, member, isHole⟩ := List.any_eq_true.mp holed
  cases piece with
  | hole value =>
    exact List.ne_nil_of_mem (List.mem_filterMap.mpr ⟨_, member, rfl⟩)
  | sql | name | quoted | dropped => contradiction

end Template

/-! ## Rendering from different bindings -/

/-- What a renderer writes in a hole. -/
def Renderer.write (renderer : Renderer) (marker : String) (index : Nat) (value : Value) : String :=
  if renderer.parameterized then marker ++ automaticName index else renderer.literalText value

namespace Draft

variable {renderer : Renderer} {draft : Draft} {before after before' after' : Bindings}
  {text text' : String} {values values' : List Value}

theorem text_of_run (automatic : before.Automatic values)
    (run : (draft.render renderer).run before = (.ok text, after)) :
    text = draft.pieces.fillFrom renderer.dialect (renderer.write before.marker) values.length := by
  have complete := Complete.of_run run
  have ended {filled : String} {between : Bindings}
      (ran : (Template.render renderer draft.pieces).run before = (.ok filled, between)) :
      text = filled := by
    rw [Draft.render, Rendering.run_bind_ok ran, complete.failure] at run
    cases run
    rfl
  cases mode : renderer.parameterized with
  | true =>
    obtain ⟨_, ran, -⟩ := Template.run_parameterized renderer mode draft.pieces automatic
    rw [ended ran]
    congr 1
    funext index value
    rw [Renderer.write, mode, if_pos rfl]
  | false =>
    obtain ⟨texts, all⟩ := (renderer.mapM_literal_eq_ok_iff _).mpr (complete.literals mode)
    have literal := Template.render_literal renderer mode draft.pieces values.length
    rw [all] at literal
    rw [ended (congrArg (·.run before) literal)]
    congr 1
    funext index value
    rw [Renderer.write, mode, if_neg Bool.false_ne_true]

/-- A draft has the same text from two bindings if and only if no placeholder shows, provided that
the second bindings hold all that the first rendering has bound. -/
theorem text_eq_iff {shown : Bool} (shows : draft.Shows shown) (automatic : before.Automatic values)
    (run : (draft.render renderer).run before = (.ok text, after))
    (automatic' : before'.Automatic values')
    (run' : (draft.render renderer).run before' = (.ok text', after'))
    (marked : before'.marker = before.marker) (later : after.values.size ≤ before'.values.size) :
    text' = text ↔ renderer.parameterized = false ∨ shown = false := by
  rw [text_of_run automatic run, text_of_run automatic' run', marked]
  have same := shows (Complete.of_run run).failure
  cases mode : renderer.parameterized with
  | false =>
    have literal (m n : Nat) (value : Value) :
        renderer.write before.marker m value = renderer.write before.marker n value := by
      simp only [Renderer.write, mode, Bool.false_eq_true, if_false]
    exact iff_of_true (Template.fillFrom_congr _ (fun _ => literal) _ _) (.inl rfl)
  | true =>
    cases shown with
    | false =>
      refine iff_of_true (Template.fillFrom_congr _ ?_ _ _) (.inr rfl)
      exact fun holed => absurd (same.symm.trans holed) Bool.false_ne_true
    | true =>
      have placeholder : renderer.write before.marker =
          fun index _ => before.marker ++ automaticName index := by
        funext index value
        rw [Renderer.write, mode, if_pos rfl]
      -- The first rendering has bound what it shows, so the second one counts from a greater number.
      have held := (Complete.automatic_of_run automatic run).size_eq
      rw [Renderer.bound, mode, if_pos rfl, List.length_append] at held
      have some_bound := List.length_pos_iff.mpr (Template.values_ne_nil_of_hole same)
      have greater : values.length < values'.length := by
        have size := automatic'.size_eq
        omega
      rw [placeholder]
      refine iff_of_false (Ne.symm ?_) (by decide)
      exact Template.fillFrom_ne _ (numbers_placeholder _) same greater

end Draft

end SqlQuery
