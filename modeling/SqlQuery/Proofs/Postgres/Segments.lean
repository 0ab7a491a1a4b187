import SqlQuery.Postgres.Placeholders
import SqlQuery.Proofs.Bindings.Automatic
import SqlQuery.Proofs.Render.Tidy
import SqlQuery.Proofs.Text.Quoting

/-! # Placeholders of rendered statements

The segments of a filled template are its pieces: a placeholder for each hole, and characters for
everything else. So the placeholders that are found are those that were written, and the positions
count the holes that are shown.
-/

namespace SqlQuery.Postgres

open Bindings (automaticName)

variable {marker : List Char} {isParameter : String → Bool}

/-! ## Texts without placeholders -/

/-- Characters that stand for themselves outside quotes, whatever comes next. -/
def Quiet (marker cs : List Char) : Prop :=
  ∀ isParameter rest, segmentsFrom marker isParameter none 0 (cs ++ rest) =
    cs.map .character ++ segmentsFrom marker isParameter none 0 rest

theorem Quiet.append {first second : List Char} (quiet : Quiet marker first)
    (quiet' : Quiet marker second) : Quiet marker (first ++ second) := by
  intro isParameter rest
  rw [List.append_assoc, quiet, quiet', List.map_append, List.append_assoc]

/-- What a marker has to start with: neither a quotation mark nor a basic character. -/
def IsMarker (marker : List Char) : Prop :=
  ∃ mark more, marker = mark :: more ∧ mark ≠ '\'' ∧ mark ≠ '"' ∧ isBasicCharacter mark = false

theorem segmentsFrom_character {c : Char} (single : c ≠ '\'') (double : c ≠ '"')
    {rest : List Char} (absent : leadingName? marker isParameter (c :: rest) = none) :
    segmentsFrom marker isParameter none 0 (c :: rest) =
      .character c :: segmentsFrom marker isParameter none 0 rest := by
  simp [segmentsFrom, single, double, absent]

theorem segmentsFrom_name {c : Char} (single : c ≠ '\'') (double : c ≠ '"')
    {name rest : List Char} (leading : leadingName? marker isParameter (c :: rest) = some name) :
    segmentsFrom marker isParameter none 0 (c :: rest) =
      .placeholder (String.ofList name) ::
        segmentsFrom marker isParameter none (marker.length + name.length - 1) rest := by
  simp [segmentsFrom, single, double, leading]

theorem leadingName?_of_head?_ne {c : Char} (other : marker.head? ≠ some c) (rest : List Char) :
    leadingName? marker isParameter (c :: rest) = none := by
  cases marker with
  | nil => rfl
  | cons mark more =>
    have different : mark ≠ c := by simpa using other
    simp [leadingName?, different]

theorem quiet_of_forall {cs : List Char}
    (plain : ∀ c ∈ cs, c ≠ '\'' ∧ c ≠ '"' ∧ marker.head? ≠ some c) : Quiet marker cs := by
  intro isParameter rest
  induction cs with
  | nil => rfl
  | cons c others ih =>
    obtain ⟨⟨single, double, other⟩, tail⟩ := List.forall_mem_cons.mp plain
    rw [List.cons_append, segmentsFrom_character single double (leadingName?_of_head?_ne other _),
      ih tail]
    rfl

theorem quiet_of_isBasic (isMarker : IsMarker marker) {text : String} (basic : isBasic text) :
    Quiet marker text.toList := by
  apply quiet_of_forall
  intro c member
  have basic := List.all_eq_true.mp basic c member
  obtain ⟨mark, more, rfl, -, -, special⟩ := isMarker
  refine ⟨?_, ?_, ?_⟩
  · rintro rfl
    contradiction
  · rintro rfl
    contradiction
  · rintro ⟨⟩
    simp [special] at basic

/-- Inside quotes a doubled mark closes them and opens them again. -/
theorem segmentsFrom_doubled {mark : Char} (quotes : mark = '\'' ∨ mark = '"')
    (body rest : List Char) :
    segmentsFrom marker isParameter (some mark) 0 (Text.doubled mark body ++ mark :: rest) =
      (Text.doubled mark body).map .character ++
        .character mark :: segmentsFrom marker isParameter none 0 rest := by
  induction body with
  | nil => simp [Text.doubled, segmentsFrom]
  | cons c others ih =>
    by_cases same : c = mark
    · simp [Text.doubled, same, segmentsFrom, quotes, ih]
    · simp [Text.doubled, same, segmentsFrom, ih]

theorem quiet_quoteCharacters {mark : Char} (quotes : mark = '\'' ∨ mark = '"')
    (body : List Char) : Quiet marker (Text.quoteCharacters mark mark body) := by
  intro isParameter rest
  simp [Text.quoteCharacters, segmentsFrom, quotes, segmentsFrom_doubled quotes]

theorem quiet_quoteLiteral (dialect : Dialect) (text : String) :
    Quiet marker (dialect.quoteLiteral text).toList := by
  rw [Dialect.quoteLiteral, Text.quoteLiteral, Text.quoteWith, String.toList_ofList]
  exact quiet_quoteCharacters (.inl rfl) _

theorem quiet_quote {dialect : Dialect} (opening : dialect.openQuote = '"')
    (closing : dialect.closeQuote = '"') (identifier : String) :
    Quiet marker (dialect.quote identifier).toList := by
  obtain ⟨body, written⟩ := dialect.exists_quote_eq identifier
  rw [written, opening, closing]
  exact quiet_quoteCharacters (.inr rfl) body

/-! ## Placeholders -/

theorem segmentsFrom_skip (quote : Option Char) (skipped rest : List Char) :
    segmentsFrom marker isParameter quote skipped.length (skipped ++ rest) =
      segmentsFrom marker isParameter quote 0 rest := by
  induction skipped with
  | nil => rfl
  | cons c others ih =>
    rw [List.length_cons, List.cons_append, segmentsFrom, ih]

theorem segmentsFrom_placeholder (isMarker : IsMarker marker) {name rest : List Char}
    (present : name ≠ []) (named : ∀ c ∈ name, isNameCharacter c)
    (ended : ∀ c ∈ rest.head?, isNameCharacter c = false)
    (known : isParameter (String.ofList name)) :
    segmentsFrom marker isParameter none 0 (marker ++ (name ++ rest)) =
      .placeholder (String.ofList name) :: segmentsFrom marker isParameter none 0 rest := by
  have whole : (name ++ rest).takeWhile isNameCharacter = name := by
    rw [List.takeWhile_append_of_pos named]
    cases rest with
    | nil => simp
    | cons c others => simp [ended c rfl]
  have leading : leadingName? marker isParameter (marker ++ (name ++ rest)) = some name := by
    obtain ⟨mark, more, rfl, -⟩ := isMarker
    have empty : name.isEmpty = false := by simpa using present
    rw [leadingName?, List.drop_left, whole]
    simp [known, empty]
  obtain ⟨mark, more, rfl, single, double, -⟩ := isMarker
  rw [List.cons_append] at leading ⊢
  have length : (mark :: more).length + name.length - 1 = (more ++ name).length := by
    simp only [List.length_cons, List.length_append]
    omega
  rw [segmentsFrom_name single double leading, length, ← List.append_assoc, segmentsFrom_skip]

theorem automaticName_ne_nil (index : Nat) : (automaticName index).toList ≠ [] := by
  simp [automaticName]

theorem isNameCharacter_automaticName (index : Nat) :
    ∀ c ∈ (automaticName index).toList, isNameCharacter c := by
  intro c member
  rw [automaticName, String.toList_append] at member
  rcases List.mem_append.mp member with start | number
  · have letters : c = 'p' ∨ c = '_' := by simpa using start
    rcases letters with rfl | rfl <;> rfl
  · rw [Nat.toString_eq_ofList_toDigits, String.toList_ofList] at number
    have digit := Nat.isDigit_of_mem_toDigits (by decide) (by decide) number
    simp [isNameCharacter, Char.isAlphanum, digit]

theorem isNameCharacter_of_isBreak {c : Char} (broken : isBreak c) : isNameCharacter c = false := by
  simp only [isBreak, List.contains_iff_mem, List.mem_cons, List.not_mem_nil, or_false] at broken
  rcases broken with rfl | rfl | rfl | rfl <;> rfl

/-! ## Filled templates -/

/-- The segments of a template: a placeholder for each hole, characters for the rest. -/
def templateSegments (dialect : Dialect) : Nat → Template → List Segment
  | _, [] => []
  | index, .sql text :: rest => text.toList.map .character ++ templateSegments dialect index rest
  | index, .name identifier :: rest =>
    (dialect.quote identifier).toList.map .character ++ templateSegments dialect index rest
  | index, .quoted text :: rest =>
    (dialect.quoteLiteral text).toList.map .character ++ templateSegments dialect index rest
  | index, .hole _ :: rest =>
    .placeholder (automaticName index) :: templateSegments dialect (index + 1) rest
  | index, .dropped _ :: rest => templateSegments dialect (index + 1) rest

/-- The placeholders found are those that were written, in their places. -/
theorem segmentsFrom_fillFrom {dialect : Dialect} (isMarker : IsMarker dialect.marker.toList)
    (opening : dialect.openQuote = '"') (closing : dialect.closeQuote = '"') {template : Template}
    (tidy : template.Tidy fun text => Quiet dialect.marker.toList text.toList) {start : Nat}
    (known : ∀ index < start + template.values.length, isParameter (automaticName index)) :
    segmentsFrom dialect.marker.toList isParameter none 0
        (template.fillFrom dialect (fun index _ => dialect.marker ++ automaticName index)
          start).toList =
      templateSegments dialect start template := by
  induction template generalizing start with
  | nil => rfl
  | cons piece rest ih =>
    have next (later : ∀ index < start + 1 + (Template.values rest).length,
        isParameter (automaticName index)) := ih tidy.tail later
    cases piece with
    | sql text =>
      have quiet := tidy.texts text (List.mem_cons_self ..)
      rw [Template.fillFrom, String.toList_append, quiet, ih tidy.tail known]
      rfl
    | name identifier =>
      rw [Template.fillFrom, String.toList_append, quiet_quote opening closing, ih tidy.tail known]
      rfl
    | quoted text =>
      rw [Template.fillFrom, String.toList_append, quiet_quoteLiteral, ih tidy.tail known]
      rfl
    | hole value =>
      simp only [Template.values_hole, List.length_cons] at known
      have parameter : isParameter (String.ofList (automaticName start).toList) := by
        rw [String.ofList_toList]
        exact known start (by omega)
      have broken := tidy.isBreak_of_head? rfl dialect
        (fun index _ => dialect.marker ++ automaticName index) (start + 1)
      rw [Template.fillFrom, String.toList_append, String.toList_append, List.append_assoc,
        segmentsFrom_placeholder isMarker (automaticName_ne_nil start)
          (isNameCharacter_automaticName start)
          (fun c first => isNameCharacter_of_isBreak (broken c first)) parameter,
        next fun index bound => known index (by omega), String.ofList_toList]
      rfl
    | dropped value =>
      simp only [Template.values_dropped, List.length_cons] at known
      rw [Template.fillFrom, next fun index bound => known index (by omega)]
      rfl

/-! ## Numbering -/

theorem number_characters (names : List String) (cs : List Char) (segments : List Segment) :
    number names (cs.map .character ++ segments) =
      (cs ++ (number names segments).1, (number names segments).2) := by
  induction cs with
  | nil => rfl
  | cons c rest ih => rw [List.map_cons, List.cons_append, number, ih]; rfl

theorem number_new {names : List String} {name : String} (new : name ∉ names)
    (segments : List Segment) :
    number names (.placeholder name :: segments) =
      ('$' :: Nat.toDigits 10 (names.length + 1) ++ (number (names ++ [name]) segments).1,
        (number (names ++ [name]) segments).2) := by
  have place : (names ++ [name]).idxOf name = names.length := by
    simp [List.idxOf_append_of_notMem new]
  rw [number, withName, if_neg new]
  simp only [positional, place]

/-- Each hole takes the next position, as its name has not occurred before. -/
theorem number_templateSegments (dialect : Dialect) {names : List String} {start : Nat}
    (earlier : ∀ name ∈ names, ∃ index < start, name = automaticName index)
    (template : Template) :
    number names (templateSegments dialect start template) =
      ((template.shown.fillFrom dialect (fun place _ => "$" ++ toString (place + 1))
          names.length).toList,
        names ++ (template.holesFrom start).map fun hole => automaticName hole.1) := by
  -- All names met so far have smaller numbers; the rest starts with one more of them.
  induction template generalizing names start with
  | nil => simp [templateSegments, number, Template.shown, Template.fillFrom, Template.holesFrom]
  | cons piece rest ih =>
    have still : ∀ name ∈ names, ∃ index < start + 1, name = automaticName index := by
      intro name member
      obtain ⟨index, before, same⟩ := earlier name member
      exact ⟨index, by omega, same⟩
    cases piece with
    | sql text | name identifier | quoted text =>
      rw [templateSegments, number_characters, ih earlier]
      simp [Template.shown_cons, Piece.isShown, Template.fillFrom, Template.holesFrom]
    | hole value =>
      have new : automaticName start ∉ names := by
        intro member
        obtain ⟨index, before, same⟩ := earlier _ member
        have equal := Bindings.automaticName_injective same
        omega
      have extended : ∀ name ∈ names ++ [automaticName start],
          ∃ index < start + 1, name = automaticName index := by
        intro name member
        rcases List.mem_append.mp member with old | last
        · exact still name old
        · exact ⟨start, by omega, List.mem_singleton.mp last⟩
      rw [templateSegments, number_new new, ih extended]
      simp [Template.shown_cons, Piece.isShown, Template.fillFrom, Template.holesFrom]
    | dropped value =>
      rw [templateSegments, ih still]
      simp [Template.shown_cons, Piece.isShown, Template.holesFrom]

/-- Placeholders become positions that count the shown holes, and nothing else changes. -/
theorem toPositional_fill {dialect : Dialect} (isMarker : IsMarker dialect.marker.toList)
    (opening : dialect.openQuote = '"') (closing : dialect.closeQuote = '"') {template : Template}
    (tidy : template.Tidy fun text => Quiet dialect.marker.toList text.toList)
    (known : ∀ index < template.values.length, isParameter (automaticName index)) :
    toPositional (template.fill dialect fun index _ => dialect.marker ++ automaticName index)
        dialect.marker isParameter =
      (template.shown.fill dialect (fun place _ => "$" ++ toString (place + 1)),
        template.holes.map fun hole => automaticName hole.1) := by
  have from_zero : ∀ index < 0 + template.values.length, isParameter (automaticName index) := by
    simpa using known
  have found := segmentsFrom_fillFrom isMarker opening closing tidy from_zero
  rw [toPositional, Template.fill, found, number_templateSegments dialect (by simp)]
  simp [Template.fill, Template.holes]

end SqlQuery.Postgres
