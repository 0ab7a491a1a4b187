import SqlQuery.Proofs.Expression.LikeTests

/-! # Where patterns are anchored

A match mode puts a wildcard in front of a pattern, behind it, or on both sides. Then the pattern
matches a subject of which it matched a part before: a prefix, a suffix, or any contiguous part. The
statement carries one and the same pattern in either mode, bound to a parameter or as a literal that
is decoded to it.
-/

namespace SqlQuery

/-! ## Patterns one after the other -/

namespace Like

/-- A well-formed pattern leaves no escape for what comes after it. -/
theorem partsFrom?_append {escape : Option Char} {escaped : Bool} {first : List Char}
    {parts : List Wildcard} (read : partsFrom? escape escaped first = some parts)
    (second : List Char) :
    partsFrom? escape escaped (first ++ second) =
      (partsFrom? escape false second).map (parts ++ ·) := by
  induction first generalizing escaped parts with
  | nil =>
    cases escaped with
    | true => contradiction
    | false =>
      obtain rfl := Option.some.inj read
      simp
  | cons c rest ih =>
    cases escaped with
    | true =>
      obtain ⟨later, remaining, rfl⟩ := Option.map_eq_some_iff.mp read
      rw [List.cons_append, partsFrom?, ih remaining, Option.map_map]
      rfl
    | false =>
      rw [partsFrom?] at read
      rw [List.cons_append, partsFrom?]
      split at read
      · rw [if_pos ‹_›, ih read]
      · obtain ⟨later, remaining, rfl⟩ := Option.map_eq_some_iff.mp read
        rw [if_neg ‹_›, ih remaining, Option.map_map]
        rfl

/-- Parts fit one after the other. -/
theorem fits_append_iff {first second : List Wildcard} {subject : List Char} :
    fits (first ++ second) subject = true ↔
      ∃ front back, subject = front ++ back ∧ fits first front = true ∧ fits second back = true := by
  induction first generalizing subject with
  | nil =>
    constructor
    · exact fun fit => ⟨[], subject, rfl, rfl, fit⟩
    · rintro ⟨front, back, rfl, empty, fit⟩
      rw [fits, List.isEmpty_iff] at empty
      rwa [empty]
  | cons part rest ih =>
    cases part with
    | run =>
      simp only [List.cons_append, fits_run_iff, ih]
      constructor
      · rintro ⟨skipped, -, rfl, front, back, rfl, fit, fit'⟩
        exact ⟨skipped ++ front, back, by simp, ⟨skipped, front, rfl, fit⟩, fit'⟩
      · rintro ⟨-, back, rfl, ⟨skipped, front, rfl, fit⟩, fit'⟩
        exact ⟨skipped, front ++ back, by simp, front, back, rfl, fit, fit'⟩
    | one =>
      simp only [List.cons_append, fits_one_iff, ih]
      constructor
      · rintro ⟨c, -, rfl, front, back, rfl, fit, fit'⟩
        exact ⟨c :: front, back, rfl, ⟨c, front, rfl, fit⟩, fit'⟩
      · rintro ⟨-, back, rfl, ⟨c, front, rfl, fit⟩, fit'⟩
        exact ⟨c, front ++ back, rfl, front, back, rfl, fit, fit'⟩
    | exactly c =>
      simp only [List.cons_append, fits_exactly_iff, ih]
      constructor
      · rintro ⟨-, rfl, front, back, rfl, fit, fit'⟩
        exact ⟨c :: front, back, rfl, ⟨front, rfl, fit⟩, fit'⟩
      · rintro ⟨-, back, rfl, ⟨front, rfl, fit⟩, fit'⟩
        exact ⟨front ++ back, rfl, front, back, rfl, fit, fit'⟩

theorem fits_run (subject : List Char) : fits [.run] subject = true :=
  fits_run_iff.mpr ⟨subject, [], by simp, rfl⟩

/-- A wildcard behind the parts lets them fit a prefix. -/
theorem fits_append_run_iff {parts : List Wildcard} {subject : List Char} :
    fits (parts ++ [.run]) subject = true ↔
      ∃ front, front <+: subject ∧ fits parts front = true := by
  rw [fits_append_iff]
  constructor
  · rintro ⟨front, back, rfl, fit, -⟩
    exact ⟨front, List.prefix_append front back, fit⟩
  · rintro ⟨front, ⟨back, rfl⟩, fit⟩
    exact ⟨front, back, rfl, fit, fits_run back⟩

/-- A wildcard in front of the parts lets them fit a suffix. -/
theorem fits_cons_run_iff {parts : List Wildcard} {subject : List Char} :
    fits (.run :: parts) subject = true ↔ ∃ back, back <:+ subject ∧ fits parts back = true := by
  rw [fits_run_iff]
  constructor
  · rintro ⟨front, back, rfl, fit⟩
    exact ⟨back, List.suffix_append front back, fit⟩
  · rintro ⟨back, ⟨front, rfl⟩, fit⟩
    exact ⟨front, back, rfl, fit⟩

end Like

/-- The part of a subject that a pattern has to match in a mode. -/
def MatchMode.Finds (mode : MatchMode) (subject part : List Char) : Prop :=
  match mode with
  | exact => part = subject
  | start => part <+: subject
  | ending => part <:+ subject
  | anywhere => part <:+: subject

namespace Like

variable {escape : Option Char} {pattern : String} {parts : List Wildcard}

/-- The parts of a pattern with the wildcards of its mode. -/
theorem exists_parts?_pattern (mode : MatchMode) (free : escape ≠ some '%')
    (read : parts? escape pattern.toList = some parts) :
    ∃ anchored, parts? escape (mode.pattern pattern).toList = some anchored ∧
      ∀ subject, fits anchored subject = true ↔
        ∃ part, mode.Finds subject part ∧ fits parts part = true := by
  rw [parts?] at read
  have behind : partsFrom? escape false ['%'] = some [.run] := by
    rw [partsFrom?, if_neg free]
    rfl
  have inFront (rest : List Char) : partsFrom? escape false ('%' :: rest) =
      (partsFrom? escape false rest).map (.run :: ·) := by
    rw [partsFrom?, if_neg free]
    rfl
  have wildcard : "%".toList = ['%'] := rfl
  cases mode with
  | exact => exact ⟨parts, read, fun subject => by simp [MatchMode.Finds]⟩
  | start =>
    refine ⟨parts ++ [.run], ?_, fun subject => fits_append_run_iff⟩
    rw [MatchMode.pattern, String.toList_append, wildcard, parts?, partsFrom?_append read, behind]
    rfl
  | ending =>
    refine ⟨.run :: parts, ?_, fun subject => fits_cons_run_iff⟩
    rw [MatchMode.pattern, String.toList_append, wildcard, parts?, List.singleton_append, inFront,
      read]
    rfl
  | anywhere =>
    refine ⟨.run :: (parts ++ [.run]), ?_, fun subject => ?_⟩
    · rw [MatchMode.pattern, String.toList_append, String.toList_append, wildcard, parts?,
        List.singleton_append, List.cons_append, inFront, partsFrom?_append read, behind]
      rfl
    · rw [fits_cons_run_iff]
      simp only [fits_append_run_iff, MatchMode.Finds, List.infix_iff_prefix_suffix]
      constructor
      · rintro ⟨back, later, part, first, fit⟩
        exact ⟨part, ⟨back, first, later⟩, fit⟩
      · rintro ⟨part, ⟨back, first, later⟩, fit⟩
        exact ⟨back, later, part, first, fit⟩

/-- With the wildcards of its mode, a pattern matches a subject if it matches the part alone. -/
theorem accepts_pattern_iff (mode : MatchMode) (free : escape ≠ some '%')
    (formed : (parts? escape pattern.toList).isSome) (subject : List Char) :
    accepts escape (mode.pattern pattern).toList subject = true ↔
      ∃ part, mode.Finds subject part ∧ accepts escape pattern.toList part = true := by
  obtain ⟨parts, read⟩ := Option.isSome_iff_exists.mp formed
  obtain ⟨anchored, read', fit_iff⟩ := exists_parts?_pattern mode free read
  simp only [accepts, read, read', Option.any_some, fit_iff]

end Like

/-! ## Patterns in statements -/

/-- The tests of an operand with a pattern. -/
inductive Expression.IsLikeTest (operand : Expression) (pattern : String) (mode : MatchMode)
    (escape : Option Char) : Expression → Prop
  | like (ignoreCase : Bool) :
    IsLikeTest operand pattern mode escape (.like operand pattern mode escape ignoreCase)
  | ilike : IsLikeTest operand pattern mode escape (.ilike operand pattern mode escape)

namespace LikeTest

/-- A pattern as a statement carries it: bound to the next parameter, or as a literal that is decoded
to it. -/
inductive Carries (kind : DialectKind) (pattern : String) (before : Bindings) :
    Bool → String → Bindings → Prop
  | bound : Carries kind pattern before true (before.bind (.text pattern)).1
    (before.bind (.text pattern)).2
  | inlined {literal : String} (decoded : kind.lexis.scan literal = some [.literal pattern]) :
    Carries kind pattern before false literal before

theorem exists_carries (kind : DialectKind) (table : Option Table) (parameterized : Bool)
    (pattern : String) (mode : MatchMode) (before : Bindings) :
    ∃ spelled after,
      (Renderer.pattern ⟨kind.dialect, table, parameterized⟩ pattern mode).run before =
        (.ok spelled, after) ∧
      Carries kind (mode.pattern pattern) before parameterized spelled after := by
  cases parameterized with
  | true => exact ⟨_, _, Renderer.run_value_parameterized rfl _ before, .bound⟩
  | false =>
    have ended : ∀ c ∈ ([] : List Char).head?, isBreak c := nofun
    have literal := kind.lexis_fits.scanFrom_quoteLiteral (mode.pattern pattern) ended
    rw [List.append_nil] at literal
    exact ⟨_, before, rfl, .inlined literal⟩

/-- A test is rendered as its operand in some form, the pattern and the escape. -/
theorem exists_form {operand node : Expression} {pattern : String} {mode : MatchMode}
    {escape : Option Char} (test : Expression.IsLikeTest operand pattern mode escape node)
    (renderer : Renderer) : ∃ form : LikeForm, node.render renderer = (do
      let text ← operand.render renderer
      let spelled ← renderer.pattern pattern mode
      return renderer.escaped (form.front renderer.dialect.lowerFunction text ++ spelled) escape) := by
  cases test with
  | like ignoreCase => exact ⟨_, render_like renderer operand pattern mode escape ignoreCase⟩
  | ilike => exact ⟨_, render_ilike renderer operand pattern mode escape⟩

/-- A well-formed pattern of a test is turned into one pattern that both modes carry, and this matches
a subject if the given pattern matches the part of the subject that the match mode tells. -/
theorem match_modes_anchor {operand node : Expression} {pattern : String} {mode : MatchMode}
    {escape : Option Char} (test : Expression.IsLikeTest operand pattern mode escape node)
    (formed : (Like.parts? escape pattern.toList).isSome) (free : escape ≠ some '%') :
    ∃ whole : String,
      (∀ subject, Like.accepts escape whole.toList subject = true ↔
        ∃ part, mode.Finds subject part ∧ Like.accepts escape pattern.toList part = true) ∧
      ∀ (kind : DialectKind) table parameterized before text between,
        (operand.render ⟨kind.dialect, table, parameterized⟩).run before = (.ok text, between) →
          ∃ form spelled after, Carries kind whole between parameterized spelled after ∧
            (node.render ⟨kind.dialect, table, parameterized⟩).run before =
              (.ok (LikeForm.front kind.dialect.lowerFunction text form ++ spelled ++
                escapeText kind.dialect escape), after) := by
  refine ⟨mode.pattern pattern, Like.accepts_pattern_iff mode free formed, ?_⟩
  intro kind table parameterized before text between ran
  obtain ⟨form, node_eq⟩ := exists_form test ⟨kind.dialect, table, parameterized⟩
  obtain ⟨spelled, after, patterned, carries⟩ :=
    exists_carries kind table parameterized pattern mode between
  refine ⟨form, spelled, after, carries, ?_⟩
  rw [node_eq, Rendering.run_bind_ok ran, Rendering.run_bind_ok patterned, escaped_eq]
  rfl

/-- A pattern that ends in an escaped percent sign after a backslash, inlined where a backslash is
an escape as well. -/
theorem match_modes_anchor_escaped :
    let node := Expression.like (.field "path") "a\\!%" .start (some '!') false
    Expression.IsLikeTest (.field "path") "a\\!%" .start (some '!') node ∧
      (Like.parts? (some '!') "a\\!%".toList).isSome ∧ some '!' ≠ some '%' ∧
      ∃ whole : String, Like.accepts (some '!') whole.toList "a\\%b".toList = true ∧
        ∃ form spelled after, Carries .mysql whole ⟨":", ∅⟩ false spelled after ∧
          (node.render ⟨DialectKind.mysql.dialect, none, false⟩).run ⟨":", ∅⟩ =
            (.ok (LikeForm.front "lower" "path" form ++ spelled ++
              escapeText DialectKind.mysql.dialect (some '!')), after) := by
  intro node
  have test : Expression.IsLikeTest (.field "path") "a\\!%" .start (some '!') node := .like false
  have formed : (Like.parts? (some '!') "a\\!%".toList).isSome := by decide
  obtain ⟨whole, anchored, carried⟩ := match_modes_anchor test formed (by decide)
  have found : Like.accepts (some '!') whole.toList "a\\%b".toList = true :=
    (anchored _).mpr ⟨"a\\%".toList, ⟨"b".toList, by decide⟩, by decide⟩
  exact ⟨test, formed, by decide, whole, found, carried .mysql none false ⟨":", ∅⟩ "path" _ rfl⟩

end LikeTest

end SqlQuery
