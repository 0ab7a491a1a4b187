import Mathlib.Data.List.TakeWhile
import SqlQuery.Proofs.Postgres.Segments

/-! # Segments of any text

How a text is cut into segments, whatever it holds: quoted text that is never closed, markers before
unknown names, placeholders next to each other. The segments spell the text, placeholders stand
outside quotes, and once they are replaced by positions no placeholder is left to find. All that is
asked of the marker is that its characters are signs.
-/

namespace SqlQuery.Postgres

/-- A character of no name, no position and no quotation mark. -/
def IsSign (c : Char) : Prop :=
  isNameCharacter c = false ∧ c ≠ '\'' ∧ c ≠ '"' ∧ c ≠ '$'

instance : DecidablePred IsSign := fun c =>
  inferInstanceAs (Decidable (isNameCharacter c = false ∧ c ≠ '\'' ∧ c ≠ '"' ∧ c ≠ '$'))

/-! ## Quoted text -/

/-- The quotation mark that is open after a character. -/
def quoteStep : Option Char → Char → Option Char
  | some mark, c => if c = mark then none else some mark
  | none, c => if c = '\'' || c = '"' then some c else none

/-- The quotation mark that is open after a text. -/
def openQuote (quote : Option Char) (cs : List Char) : Option Char :=
  cs.foldl quoteStep quote

/-- The quoted characters of a text, with their quotation marks. -/
def quotedPart : Option Char → List Char → List Char
  | _, [] => []
  | quote, c :: rest =>
    if quote.isSome || (quoteStep quote c).isSome then c :: quotedPart (quoteStep quote c) rest
    else quotedPart (quoteStep quote c) rest

/-- Text without quotation marks. -/
def Unquoted (cs : List Char) : Prop :=
  ∀ c ∈ cs, c ≠ '\'' ∧ c ≠ '"'

theorem openQuote_append (quote : Option Char) (first second : List Char) :
    openQuote quote (first ++ second) = openQuote (openQuote quote first) second :=
  List.foldl_append

namespace Unquoted

variable {cs : List Char}

theorem openQuote_eq (unquoted : Unquoted cs) : openQuote none cs = none := by
  induction cs with
  | nil => rfl
  | cons c rest ih =>
    obtain ⟨⟨single, double⟩, tail⟩ := List.forall_mem_cons.mp unquoted
    have outside : quoteStep none c = none := by simp [quoteStep, single, double]
    rw [openQuote, List.foldl_cons, outside]
    exact ih tail

theorem quotedPart_append (unquoted : Unquoted cs) (rest : List Char) :
    quotedPart none (cs ++ rest) = quotedPart none rest := by
  induction cs with
  | nil => rfl
  | cons c others ih =>
    obtain ⟨⟨single, double⟩, tail⟩ := List.forall_mem_cons.mp unquoted
    have outside : quoteStep none c = none := by simp [quoteStep, single, double]
    rw [List.cons_append, quotedPart, outside]
    exact ih tail

theorem of_names (named : ∀ c ∈ cs, isNameCharacter c) : Unquoted cs := by
  intro c member
  have word := named c member
  refine ⟨?_, ?_⟩
  · rintro rfl
    contradiction
  · rintro rfl
    contradiction

theorem of_signs (signs : ∀ c ∈ cs, IsSign c) : Unquoted cs := by
  intro c member
  obtain ⟨-, single, double, -⟩ := signs c member
  exact ⟨single, double⟩

theorem append {rest : List Char} (unquoted : Unquoted cs) (unquoted' : Unquoted rest) :
    Unquoted (cs ++ rest) :=
  List.forall_mem_append.mpr ⟨unquoted, unquoted'⟩

end Unquoted

/-! ## Names after markers -/

section

variable {marker : List Char} {isParameter : String → Bool}

theorem leadingName?_append (present : marker ≠ []) (rest : List Char) :
    leadingName? marker isParameter (marker ++ rest) =
      let name := rest.takeWhile isNameCharacter
      if !name.isEmpty && isParameter (String.ofList name) then some name else none := by
  simp [leadingName?, present]

theorem head?_dropWhile (cs : List Char) :
    ∀ c ∈ (cs.dropWhile isNameCharacter).head?, isNameCharacter c = false := by
  intro c first
  have stopped := List.head?_dropWhile_not isNameCharacter cs
  rw [first] at stopped
  exact stopped

theorem exists_of_leadingName? {cs name : List Char}
    (leading : leadingName? marker isParameter cs = some name) :
    ∃ rest, cs = marker ++ (name ++ rest) ∧ marker ≠ [] ∧ name ≠ [] ∧
      (∀ c ∈ name, isNameCharacter c) ∧ (∀ c ∈ rest.head?, isNameCharacter c = false) ∧
      isParameter (String.ofList name) := by
  rw [leadingName?] at leading
  split at leading
  · rename_i marked
    simp only [Bool.and_eq_true, Bool.not_eq_true', List.isEmpty_eq_false_iff,
      List.isPrefixOf_iff_prefix] at marked
    obtain ⟨present, after, rfl⟩ := marked
    simp only [List.drop_left] at leading
    split at leading
    · rename_i named
      simp only [Bool.and_eq_true, Bool.not_eq_true', List.isEmpty_eq_false_iff] at named
      obtain rfl := Option.some.inj leading
      refine ⟨after.dropWhile isNameCharacter, ?_, present, named.1, ?_, head?_dropWhile after,
        named.2⟩
      · rw [List.takeWhile_append_dropWhile]
      · exact fun c member => List.mem_takeWhile_imp member
    · contradiction
  · contradiction

end

/-! ## Reading into segments -/

/-- How a text is read into segments while a quotation mark may be open. -/
inductive Segmented (marker : List Char) (isParameter : String → Bool) :
    Option Char → List Char → List Segment → Prop
  | ended (quote : Option Char) : Segmented marker isParameter quote [] []
  /-- Outside quotes, no placeholder starts at a character that stands for itself. -/
  | character {quote : Option Char} {c : Char} {rest : List Char} {segments : List Segment}
    (absent : quote = none → quoteStep none c = none →
      leadingName? marker isParameter (c :: rest) = none)
    (later : Segmented marker isParameter (quoteStep quote c) rest segments) :
    Segmented marker isParameter quote (c :: rest) (.character c :: segments)
  | placeholder {name rest : List Char} {segments : List Segment}
    (marked : marker ≠ []) (present : name ≠ []) (named : ∀ c ∈ name, isNameCharacter c)
    (ended : ∀ c ∈ rest.head?, isNameCharacter c = false)
    (known : isParameter (String.ofList name))
    (later : Segmented marker isParameter none rest segments) :
    Segmented marker isParameter none (marker ++ (name ++ rest))
      (.placeholder (String.ofList name) :: segments)

/-- What the scanner reads; the characters to skip belong to a placeholder already found. -/
theorem segmented_drop (marker : List Char) (isParameter : String → Bool) (quote : Option Char)
    (skip : Nat) (cs : List Char) :
    Segmented marker isParameter quote (cs.drop skip)
      (segmentsFrom marker isParameter quote skip cs) := by
  induction cs generalizing quote skip with
  | nil =>
    rw [List.drop_nil, segmentsFrom]
    exact .ended quote
  | cons c rest ih =>
    cases skip with
    | succ skip =>
      rw [List.drop_succ_cons, segmentsFrom]
      exact ih quote skip
    | zero =>
      rw [List.drop_zero]
      cases quote with
      | some mark =>
        rw [segmentsFrom]
        refine .character ?_ (ih (quoteStep (some mark) c) 0)
        intro unquoted
        contradiction
      | none =>
        by_cases quotes : (c = '\'' || c = '"') = true
        · have opened : quoteStep none c = some c := by rw [quoteStep, if_pos quotes]
          rw [segmentsFrom, if_pos quotes]
          refine .character ?_ ?_
          · simp [opened]
          · rw [opened]
            exact ih (some c) 0
        · have unopened : quoteStep none c = none := by rw [quoteStep, if_neg quotes]
          have marks : c ≠ '\'' ∧ c ≠ '"' := by simpa using quotes
          cases leading : leadingName? marker isParameter (c :: rest) with
          | none =>
            rw [segmentsFrom_character marks.1 marks.2 leading]
            refine .character (fun _ _ => leading) ?_
            rw [unopened]
            exact ih none 0
          | some name =>
            obtain ⟨after, spelled, marked, present, named, ended, known⟩ :=
              exists_of_leadingName? leading
            have skipped : rest.drop (marker.length + name.length - 1) = after := by
              have whole : (c :: rest).drop (marker.length + name.length) = after := by
                rw [spelled, ← List.append_assoc, List.drop_left' (List.length_append ..)]
              have length := List.length_pos_iff.mpr marked
              rwa [show marker.length + name.length = marker.length + name.length - 1 + 1 by omega,
                List.drop_succ_cons] at whole
            have later := ih none (marker.length + name.length - 1)
            rw [skipped] at later
            rw [segmentsFrom_name marks.1 marks.2 leading, spelled]
            exact .placeholder marked present named ended known later

theorem segmented (marker : List Char) (isParameter : String → Bool) (cs : List Char) :
    Segmented marker isParameter none cs (segmentsFrom marker isParameter none 0 cs) :=
  segmented_drop marker isParameter none 0 cs

/-! ## Texts of segments -/

namespace Segment

/-- The text of a segment. -/
def source (marker : List Char) : Segment → List Char
  | character c => [c]
  | placeholder name => marker ++ name.toList

/-- The text of a segment when names are replaced by positions. -/
def target (names : List String) : Segment → List Char
  | character c => [c]
  | placeholder name => positional names name

end Segment

def sourceText (marker : List Char) (segments : List Segment) : List Char :=
  segments.flatMap (Segment.source marker)

def targetText (names : List String) (segments : List Segment) : List Char :=
  segments.flatMap (Segment.target names)

/-- The characters of a position. -/
theorem mem_positional {names : List String} {name : String} {c : Char}
    (member : c ∈ positional names name) : c = '$' ∨ c.isDigit := by
  rcases List.mem_cons.mp member with dollar | digit
  · exact .inl dollar
  · exact .inr (Nat.isDigit_of_mem_toDigits (by decide) (by decide) digit)

theorem unquoted_positional (names : List String) (name : String) :
    Unquoted (positional names name) := by
  intro c member
  rcases mem_positional member with rfl | digit
  · decide
  · refine ⟨?_, ?_⟩
    · rintro rfl
      contradiction
    · rintro rfl
      contradiction

/-- No marker of signs starts within a position. -/
theorem quiet_positional {marker : List Char} (signs : ∀ c ∈ marker, IsSign c)
    (names : List String) (name : String) : Quiet marker (positional names name) := by
  apply quiet_of_forall
  intro c member
  obtain ⟨single, double⟩ := unquoted_positional names name c member
  refine ⟨single, double, ?_⟩
  intro head
  obtain ⟨unnamed, -, -, undollared⟩ := signs c (List.mem_of_mem_head? head)
  rcases mem_positional member with dollar | digit
  · exact undollared dollar
  · simp [isNameCharacter, Char.isAlphanum, digit] at unnamed

section

variable {marker : List Char} (names : List String)

/-- Without `$`, what the replaced text starts with stands in front of the text itself. -/
theorem exists_of_prefix_targetText {front : List Char} (undollared : ∀ c ∈ front, c ≠ '$')
    {segments : List Segment} (starts : front <+: targetText names segments) :
    ∃ later, targetText names segments = front ++ targetText names later ∧
      sourceText marker segments = front ++ sourceText marker later := by
  induction front generalizing segments with
  | nil => exact ⟨segments, rfl, rfl⟩
  | cons c rest ih =>
    obtain ⟨different, tail⟩ := List.forall_mem_cons.mp undollared
    cases segments with
    | nil => simp [targetText] at starts
    | cons segment others =>
      cases segment with
      | placeholder name =>
        exact absurd (List.cons_prefix_cons.mp starts).1 different
      | character d =>
        obtain ⟨rfl, continues⟩ := List.cons_prefix_cons.mp starts
        obtain ⟨later, target, source⟩ := ih tail continues
        exact ⟨later, congrArg (c :: ·) target, congrArg (c :: ·) source⟩

/-- A name in front of the replaced text is the name in front of the text. -/
theorem takeWhile_targetText (signs : ∀ c ∈ marker, IsSign c) (marked : marker ≠ [])
    (segments : List Segment) :
    (targetText names segments).takeWhile isNameCharacter =
      (sourceText marker segments).takeWhile isNameCharacter := by
  induction segments with
  | nil => rfl
  | cons segment rest ih =>
    cases segment with
    | character c =>
      change List.takeWhile isNameCharacter (c :: targetText names rest) =
        List.takeWhile isNameCharacter (c :: sourceText marker rest)
      rw [List.takeWhile_cons, List.takeWhile_cons, ih]
    | placeholder name =>
      obtain ⟨mark, more, rfl⟩ := List.exists_cons_of_ne_nil marked
      have unnamed := (signs mark (List.mem_cons_self ..)).1
      change List.takeWhile isNameCharacter ('$' :: _) = List.takeWhile isNameCharacter (mark :: _)
      rw [List.takeWhile_cons, List.takeWhile_cons, unnamed]
      rfl

/-- The replaced text starts with no placeholder unless the text itself does. -/
theorem leadingName?_targetText {isParameter : String → Bool} (signs : ∀ c ∈ marker, IsSign c)
    {segments : List Segment}
    (absent : leadingName? marker isParameter (sourceText marker segments) = none) :
    leadingName? marker isParameter (targetText names segments) = none := by
  by_cases marked : marker = []
  · subst marked
    rfl
  by_cases starts : marker <+: targetText names segments
  · have undollared : ∀ c ∈ marker, c ≠ '$' := fun c member => (signs c member).2.2.2
    obtain ⟨later, target, source⟩ :=
      @exists_of_prefix_targetText marker names marker undollared segments starts
    rw [source, leadingName?_append marked] at absent
    rw [target, leadingName?_append marked, takeWhile_targetText names signs marked]
    exact absent
  · have unmarked : marker.isPrefixOf (targetText names segments) = false := by
      rw [Bool.eq_false_iff, Ne, List.isPrefixOf_iff_prefix]
      exact starts
    rw [leadingName?, unmarked, Bool.and_false]
    rfl

end

/-! ## What segments keep -/

namespace Segmented

variable {marker : List Char} {isParameter : String → Bool} {quote : Option Char}
  {cs : List Char} {segments : List Segment}

theorem sourceText_eq (segmented : Segmented marker isParameter quote cs segments) :
    sourceText marker segments = cs := by
  induction segmented with
  | ended => rfl
  | character absent later ih => exact congrArg (_ :: ·) ih
  | placeholder marked present named ended known later ih =>
    rw [sourceText, List.flatMap_cons, Segment.source, String.toList_ofList, List.append_assoc]
    exact congrArg (fun rest => marker ++ (_ ++ rest)) ih

theorem known (segmented : Segmented marker isParameter quote cs segments) {name : String}
    (member : .placeholder name ∈ segments) : isParameter name := by
  induction segmented with
  | ended => contradiction
  | character absent later ih => exact ih ((List.mem_cons.mp member).resolve_left nofun)
  | placeholder marked present named ended known later ih =>
    rcases List.mem_cons.mp member with same | after
    · obtain rfl := Segment.placeholder.inj same
      exact known
    · exact ih after

section

variable (signs : ∀ c ∈ marker, IsSign c)

include signs

/-- A placeholder stands outside quotes, and no character of a name follows it. -/
theorem outside (segmented : Segmented marker isParameter quote cs segments)
    {before after : List Segment} {name : String}
    (split : segments = before ++ .placeholder name :: after) :
    openQuote quote (sourceText marker before) = none ∧
      ∀ c ∈ (sourceText marker after).head?, isNameCharacter c = false := by
  induction segmented generalizing before with
  | ended => simp at split
  | character absent later ih =>
    cases before with
    | nil => cases split
    | cons first before =>
      obtain ⟨rfl, others⟩ := List.cons.inj split
      exact ih others
  | placeholder marked present named ended known later ih =>
    cases before with
    | nil =>
      obtain ⟨-, rfl⟩ := List.cons.inj split
      rw [later.sourceText_eq]
      exact ⟨rfl, ended⟩
    | cons first before =>
      obtain ⟨rfl, others⟩ := List.cons.inj split
      have unquoted := (Unquoted.of_signs signs).append (.of_names named)
      rw [sourceText, List.flatMap_cons, openQuote_append, Segment.source, String.toList_ofList,
        unquoted.openQuote_eq]
      exact ih others

/-- Nothing quoted is replaced. -/
theorem quotedPart_targetText (segmented : Segmented marker isParameter quote cs segments)
    (names : List String) : quotedPart quote (targetText names segments) = quotedPart quote cs := by
  induction segmented with
  | ended => rfl
  | @character quote c rest segments absent later ih =>
    change quotedPart quote (c :: targetText names segments) = _
    rw [quotedPart, quotedPart, ih]
  | placeholder marked present named ended known later ih =>
    rw [targetText, List.flatMap_cons, Segment.target,
      (unquoted_positional names _).quotedPart_append, ← List.append_assoc,
      ((Unquoted.of_signs signs).append (.of_names named)).quotedPart_append]
    exact ih

/-- In the replaced text every character stands for itself. -/
theorem segmentsFrom_targetText (segmented : Segmented marker isParameter quote cs segments)
    (names : List String) :
    segmentsFrom marker isParameter quote 0 (targetText names segments) =
      (targetText names segments).map .character := by
  induction segmented with
  | ended => rfl
  | @character quote c rest segments absent later ih =>
    change segmentsFrom marker isParameter quote 0 (c :: targetText names segments) =
      .character c :: (targetText names segments).map .character
    rw [← ih]
    cases quote with
    | some mark =>
      rw [segmentsFrom]
      rfl
    | none =>
      by_cases quotes : (c = '\'' || c = '"') = true
      · rw [segmentsFrom, if_pos quotes, quoteStep, if_pos quotes]
      · have unopened : quoteStep none c = none := by rw [quoteStep, if_neg quotes]
        have marks : c ≠ '\'' ∧ c ≠ '"' := by simpa using quotes
        have source : leadingName? marker isParameter
            (sourceText marker (.character c :: segments)) = none := by
          change leadingName? marker isParameter (c :: sourceText marker segments) = none
          rw [later.sourceText_eq]
          exact absent rfl unopened
        have unnamed : leadingName? marker isParameter (c :: targetText names segments) = none :=
          leadingName?_targetText names signs source
        rw [segmentsFrom_character marks.1 marks.2 unnamed, unopened]
  | placeholder marked present named ended known later ih =>
    rw [targetText, List.flatMap_cons, Segment.target, quiet_positional signs, List.map_append]
    exact congrArg (_ ++ ·) ih

end

end Segmented

end SqlQuery.Postgres
