import SqlQuery.Proofs.Postgres.Exchange
import SqlQuery.Proofs.Postgres.Segmentation

/-! # Positions in the place of names

Whatever a text holds, its placeholders are replaced by positions and nothing else changes. The
positions count the names in the order in which they first occur, each name has one position, and a
server gets the values of exactly these names. No placeholder is left in the result.
-/

namespace SqlQuery.Postgres

/-! ## Numbering -/

section

variable {names all : List String} {name : String}

theorem prefix_withName (names : List String) (name : String) : names <+: withName names name := by
  rw [withName]
  split
  · exact List.prefix_rfl
  · exact List.prefix_append _ _

theorem mem_withName {other : String} :
    other ∈ withName names name ↔ other ∈ names ∨ other = name := by
  rw [withName]
  split
  · rename_i old
    exact ⟨.inl, fun member => member.elim id fun same => same ▸ old⟩
  · rw [List.mem_append, List.mem_singleton]

theorem nodup_withName (distinct : names.Nodup) : (withName names name).Nodup := by
  rw [withName]
  split
  · exact distinct
  · rename_i new
    exact List.nodup_append.mpr ⟨distinct, List.pairwise_singleton .., fun _ old _ last same =>
      new (List.mem_singleton.mp last ▸ same ▸ old)⟩

/-- Names that come later leave the place of a name. -/
theorem idxOf_eq_of_extended (extended : names <+: all) (member : name ∈ names) :
    all.idxOf name = names.idxOf name := by
  obtain ⟨more, rfl⟩ := extended
  rw [List.idxOf_append, if_pos member]

theorem prefix_number (names : List String) (segments : List Segment) :
    names <+: (number names segments).2 := by
  induction segments generalizing names with
  | nil => exact List.prefix_rfl
  | cons segment rest ih =>
    cases segment with
    | character c => exact ih names
    | placeholder name => exact (prefix_withName names name).trans (ih (withName names name))

theorem nodup_number (distinct : names.Nodup) (segments : List Segment) :
    (number names segments).2.Nodup := by
  induction segments generalizing names with
  | nil => exact distinct
  | cons segment rest ih =>
    cases segment with
    | character c => exact ih distinct
    | placeholder name => exact ih (nodup_withName distinct)

/-- The names are those met before and those of the placeholders. -/
theorem mem_number {segments : List Segment} :
    name ∈ (number names segments).2 ↔ name ∈ names ∨ .placeholder name ∈ segments := by
  induction segments generalizing names with
  | nil => simp [number]
  | cons segment rest ih =>
    cases segment with
    | character c =>
      change name ∈ (number names rest).2 ↔ _
      simp [ih]
    | placeholder first =>
      change name ∈ (number (withName names first) rest).2 ↔ _
      simp [ih, mem_withName, or_assoc]

/-- Every placeholder has the position of its name among all names. -/
theorem number_fst (names : List String) (segments : List Segment) :
    (number names segments).1 = targetText (number names segments).2 segments := by
  induction segments generalizing names with
  | nil => rfl
  | cons segment rest ih =>
    cases segment with
    | character c => exact congrArg (c :: ·) (ih names)
    | placeholder name =>
      have present : name ∈ withName names name := mem_withName.mpr (.inr rfl)
      have place := idxOf_eq_of_extended (prefix_number (withName names name) rest) present
      change positional (withName names name) name ++ (number (withName names name) rest).1 =
        positional (number (withName names name) rest).2 name ++
          targetText (number (withName names name) rest).2 rest
      rw [← ih, positional, positional, place]

/-- A position is used only after all smaller ones. The names met so far have their positions
already; the next new name takes the one after them. -/
theorem earlier_of_number {segments before after : List Segment}
    (split : segments = before ++ .placeholder name :: after) {earlier : Nat}
    (smaller : earlier < (number names segments).2.idxOf name) :
    earlier < names.length ∨ ∃ other, .placeholder other ∈ before ∧
      (number names segments).2.idxOf other = earlier := by
  induction segments generalizing names before with
  | nil => simp at split
  | cons segment rest ih =>
    cases before with
    | nil =>
      obtain ⟨rfl, rfl⟩ := List.cons.inj split
      change earlier < (number (withName names name) rest).2.idxOf name at smaller
      rw [idxOf_eq_of_extended (prefix_number _ rest) (mem_withName.mpr (.inr rfl)), withName]
        at smaller
      left
      split at smaller
      · exact smaller.trans (List.idxOf_lt_length_of_mem ‹_›)
      · rename_i new
        rw [List.idxOf_append_of_notMem new] at smaller
        simpa using smaller
    | cons first before =>
      obtain ⟨rfl, others⟩ := List.cons.inj split
      cases segment with
      | character c =>
        refine (ih others smaller).imp_right ?_
        rintro ⟨other, member, place⟩
        exact ⟨other, List.mem_cons_of_mem _ member, place⟩
      | placeholder first =>
        change earlier < (number (withName names first) rest).2.idxOf name at smaller
        rcases ih others smaller with met | ⟨other, member, place⟩
        · have place := idxOf_eq_of_extended (prefix_number (withName names first) rest)
            (mem_withName.mpr (.inr rfl))
          rw [withName] at met place
          split at met
          · exact .inl met
          · rename_i new
            rw [if_neg new, List.idxOf_append_of_notMem new] at place
            by_cases old : earlier < names.length
            · exact .inl old
            · refine .inr ⟨first, List.mem_cons_self .., ?_⟩
              change (number (withName names first) rest).2.idxOf first = earlier
              rw [withName, if_neg new, place]
              simp at met ⊢
              omega
        · exact .inr ⟨other, List.mem_cons_of_mem _ member, place⟩

end

/-! ## Parts -/

/-- A part of a text with positions, which count from zero. -/
inductive Part
  | character (c : Char)
  | position (index : Nat)
  deriving DecidableEq, Repr

namespace Part

/-- The text of a part, where positions are written from one. -/
def numbered : Part → List Char
  | character c => [c]
  | position index => '$' :: Nat.toDigits 10 (index + 1)

/-- The text of a part when the marker and the name are put back in the place of a position. -/
def named (marker : List Char) (names : List String) : Part → List Char
  | character c => [c]
  | position index => marker ++ (names[index]?.getD "").toList

/-- Parts that turn one text into another, by the names of the positions. -/
structure Rewrite (marker : List Char) (names : List String) (parts : List Part)
    (sql text : List Char) : Prop where
  numbered_eq : parts.flatMap numbered = text
  named_eq : parts.flatMap (named marker names) = sql
  used : ∀ index, .position index ∈ parts ↔ index < names.length
  outside : ∀ before index after, parts = before ++ .position index :: after →
    openQuote none (before.flatMap (named marker names)) = none
  /-- The name of a position ends where its characters do. -/
  whole : ∀ before index after, parts = before ++ .position index :: after →
    ∀ c ∈ (after.flatMap (named marker names)).head?, isNameCharacter c = false
  ordered : ∀ before index after, parts = before ++ .position index :: after →
    ∀ earlier < index, .position earlier ∈ before

end Part

def Segment.part (names : List String) : Segment → Part
  | character c => .character c
  | placeholder name => .position (names.idxOf name)

theorem numbered_map_part (names : List String) (segments : List Segment) :
    (segments.map (Segment.part names)).flatMap Part.numbered = targetText names segments := by
  rw [List.flatMap_map]
  refine List.flatMap_congr ?_
  intro segment _
  cases segment <;> rfl

theorem named_map_part {names : List String} {segments : List Segment} (marker : List Char)
    (among : ∀ name, .placeholder name ∈ segments → name ∈ names) :
    (segments.map (Segment.part names)).flatMap (Part.named marker names) =
      sourceText marker segments := by
  rw [List.flatMap_map]
  refine List.flatMap_congr ?_
  intro segment member
  cases segment with
  | character c => rfl
  | placeholder name =>
    have inside := List.idxOf_lt_length_of_mem (among name member)
    rw [Segment.part, Part.named, List.getElem?_eq_getElem inside, List.getElem_idxOf]
    rfl

theorem rewrite_of_segmented {marker : List Char} {isParameter : String → Bool}
    {sql : List Char} {segments : List Segment} (signs : ∀ c ∈ marker, IsSign c)
    (segmented : Segmented marker isParameter none sql segments) :
    let numbering := number [] segments
    Part.Rewrite marker numbering.2 (segments.map (Segment.part numbering.2)) sql numbering.1 := by
  intro numbering
  have among : ∀ name, .placeholder name ∈ segments ↔ name ∈ numbering.2 := by
    intro name
    rw [mem_number]
    simp
  have distinct : numbering.2.Nodup := nodup_number .nil segments
  -- Parts split where segments do.
  have splits {before after : List Part} {index : Nat}
      (split : segments.map (Segment.part numbering.2) = before ++ .position index :: after) :
      ∃ earlier name later, segments = earlier ++ .placeholder name :: later ∧
        numbering.2.idxOf name = index ∧ before = earlier.map (Segment.part numbering.2) ∧
        before.flatMap (Part.named marker numbering.2) = sourceText marker earlier ∧
        after.flatMap (Part.named marker numbering.2) = sourceText marker later := by
    obtain ⟨earlier, rest, split, rfl, mapped⟩ := List.map_eq_append_iff.mp split
    obtain ⟨segment, later, rfl, place, rfl⟩ := List.map_eq_cons_iff.mp mapped
    cases segment with
    | character c => cases place
    | placeholder name =>
      refine ⟨earlier, name, later, split, Part.position.inj place, rfl, ?_, ?_⟩
      · exact named_map_part marker fun other member =>
          (among other).mp (split ▸ List.mem_append_left _ member)
      · exact named_map_part marker fun other member =>
          (among other).mp (split ▸ List.mem_append_right _ (List.mem_cons_of_mem _ member))
  constructor
  case numbered_eq => rw [numbered_map_part, number_fst]
  case named_eq =>
    rw [named_map_part marker fun name member => (among name).mp member, segmented.sourceText_eq]
  case used =>
    intro index
    constructor
    · intro member
      obtain ⟨segment, present, place⟩ := List.mem_map.mp member
      cases segment with
      | character c => cases place
      | placeholder name =>
        rw [← Part.position.inj place]
        exact List.idxOf_lt_length_of_mem ((among name).mp present)
    · intro inside
      refine List.mem_map.mpr ⟨.placeholder numbering.2[index], ?_, ?_⟩
      · exact (among _).mpr (List.getElem_mem inside)
      · rw [Segment.part, distinct.idxOf_getElem]
  case outside =>
    intro before index after split
    obtain ⟨earlier, name, later, parted, -, -, text, -⟩ := splits split
    rw [text]
    exact (segmented.outside signs parted).1
  case whole =>
    intro before index after split
    obtain ⟨earlier, name, later, parted, -, -, -, text⟩ := splits split
    rw [text]
    exact (segmented.outside signs parted).2
  case ordered =>
    intro before index after split smaller less
    obtain ⟨earlier, name, later, parted, rfl, rfl, -, -⟩ := splits split
    rcases earlier_of_number parted less with met | ⟨other, member, place⟩
    · contradiction
    · refine List.mem_map.mpr ⟨.placeholder other, member, ?_⟩
      rw [Segment.part, place]

/-! ## Texts by position -/

/-- A text by position, with the names of its positions, in the place of a text with placeholders. -/
structure ByPosition (marker : String) (parameters : Parameters) (sql text : String)
    (names : List String) : Prop where
  distinct : names.Nodup
  known : ∀ name ∈ names, parameters.contains name
  /-- A server gets the text, and the values of the names in their order, none left out. -/
  sent : ∃ values, names.map parameters.find? = values.map some ∧
    ∀ (server : Server) (target : Option Target) (prepared : String) (bound : List Datum),
      (exchange server marker ⟨target, sql, parameters⟩).2 = some ⟨prepared, some bound⟩ ↔
        prepared = text ∧ Text.hasZero prepared = false ∧ ∃ reply, server prepared = some reply ∧
          Sends reply.parameterTypes values bound
  rewrite : ∃ parts, Part.Rewrite marker.toList names parts sql.toList text.toList
  quoted : quotedPart none text.toList = quotedPart none sql.toList
  /-- No placeholder is left. -/
  settled : toPositional text marker parameters.contains = (text, [])

/-- Names of parameters all have values. -/
theorem exists_values {parameters : Parameters} {names : List String}
    (known : ∀ name ∈ names, parameters.contains name) :
    names.map parameters.find? = (names.filterMap parameters.find?).map some := by
  induction names with
  | nil => rfl
  | cons name rest ih =>
    obtain ⟨first, others⟩ := List.forall_mem_cons.mp known
    obtain ⟨value, found⟩ := Option.isSome_iff_exists.mp first
    rw [List.map_cons, List.filterMap_cons, found, ih others, List.map_cons]

/-- Any text is rewritten by position, whatever the parameters are, if the marker is made of signs. -/
theorem toPositional_byPosition {marker : String} (signs : ∀ c ∈ marker.toList, IsSign c)
    (parameters : Parameters) (sql : String) :
    ByPosition marker parameters sql (toPositional sql marker parameters.contains).1
      (toPositional sql marker parameters.contains).2 := by
  have reading := segmented marker.toList parameters.contains sql.toList
  generalize read : segmentsFrom marker.toList parameters.contains none 0 sql.toList = segments
    at reading
  have result : toPositional sql marker parameters.contains =
      (String.ofList (number [] segments).1, (number [] segments).2) := by
    rw [toPositional, read]
  have known : ∀ name ∈ (number [] segments).2, parameters.contains name := by
    intro name member
    exact reading.known ((mem_number.mp member).resolve_left (by simp))
  rw [result]
  constructor
  case distinct => exact nodup_number .nil segments
  case known => exact known
  case sent =>
    refine ⟨_, exists_values known, ?_⟩
    intro server target prepared bound
    rw [exchange_bound_iff, result]
  case rewrite =>
    rw [String.toList_ofList]
    exact ⟨_, rewrite_of_segmented signs reading⟩
  case quoted =>
    rw [String.toList_ofList, number_fst]
    exact reading.quotedPart_targetText signs _
  case settled =>
    have again := reading.segmentsFrom_targetText signs (number [] segments).2
    have unchanged := number_characters [] (targetText (number [] segments).2 segments) []
    rw [List.append_nil] at unchanged
    rw [toPositional, String.toList_ofList, number_fst, again, unchanged]
    simp [number]

/-- Casts, quoted text, unknown names and positions that stood in the text before stay as they are. -/
theorem byPosition_mixed :
    let sql := "a::id = ':id' AND b=:id_2OR c = $1::id AND \":id\" = :key OR :keys = :id"
    let text := "a:$1 = ':id' AND b=:id_2OR c = $1:$1 AND \":id\" = $2 OR :keys = $1"
    let parameters : Parameters := .ofList [("id", .int 1), ("id_2", .int 2), ("key", .null)]
    (∀ c ∈ ":".toList, IsSign c) ∧
      toPositional sql ":" parameters.contains = (text, ["id", "key"]) ∧
      ByPosition ":" parameters sql text ["id", "key"] := by
  intro sql text parameters
  have signs : ∀ c ∈ ":".toList, IsSign c := by
    intro c member
    obtain rfl := List.mem_singleton.mp member
    decide
  have positions : toPositional sql ":" parameters.contains = (text, ["id", "key"]) := by
    decide +kernel
  have replaced := toPositional_byPosition signs parameters sql
  rw [positions] at replaced
  exact ⟨signs, positions, replaced⟩

end SqlQuery.Postgres
