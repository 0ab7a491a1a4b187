import Mathlib

/-! # Matching with LIKE

In a pattern, a percent sign fits any run of characters, an underscore any one, and any other
character itself. An escape character takes the next character literally; a pattern that ends in an
escape is not well formed and fits nothing. Case is that of the letters A to Z.
-/

namespace SqlQuery

/-- A part of a pattern. -/
inductive Wildcard
  | run
  | one
  | exactly (c : Char)
  deriving DecidableEq, Repr

namespace Wildcard

def ofCharacter (c : Char) : Wildcard :=
  if c = '%' then run else if c = '_' then one else exactly c

def lowered : Wildcard → Wildcard
  | run => run
  | one => one
  | exactly c => exactly c.toLower

end Wildcard

namespace Like

/-- The parts of the rest of a pattern, behind an escape or not. -/
def partsFrom? (escape : Option Char) : Bool → List Char → Option (List Wildcard)
  | false, [] => some []
  | true, [] => none
  | true, c :: rest => (partsFrom? escape false rest).map (.exactly c :: ·)
  | false, c :: rest =>
    if escape = some c then partsFrom? escape true rest
    else (partsFrom? escape false rest).map (.ofCharacter c :: ·)

/-- The parts of a pattern, if it is well formed. -/
def parts? (escape : Option Char) (pattern : List Char) : Option (List Wildcard) :=
  partsFrom? escape false pattern

def fits : List Wildcard → List Char → Bool
  | [], subject => subject.isEmpty
  | .run :: rest, subject => subject.tails.any (fits rest)
  | .one :: _, [] => false
  | .one :: rest, _ :: subject => fits rest subject
  | .exactly _ :: _, [] => false
  | .exactly c :: rest, first :: subject => c = first && fits rest subject

/-- Whether a pattern matches a subject. -/
def accepts (escape : Option Char) (pattern subject : List Char) : Bool :=
  (parts? escape pattern).any fun parts => fits parts subject

def lowered (cs : List Char) : List Char :=
  cs.map Char.toLower

/-! ## What fits -/

theorem fits_run_iff {rest : List Wildcard} {subject : List Char} :
    fits (.run :: rest) subject = true ↔ ∃ skipped tail, subject = skipped ++ tail ∧ fits rest tail := by
  simp only [fits, List.any_eq_true, List.mem_tails]
  constructor
  · rintro ⟨tail, ⟨skipped, rfl⟩, fit⟩
    exact ⟨skipped, tail, rfl, fit⟩
  · rintro ⟨skipped, tail, rfl, fit⟩
    exact ⟨tail, ⟨skipped, rfl⟩, fit⟩

theorem fits_exactly_iff {c : Char} {rest : List Wildcard} {subject : List Char} :
    fits (.exactly c :: rest) subject = true ↔ ∃ tail, subject = c :: tail ∧ fits rest tail := by
  cases subject with
  | nil => simp [fits]
  | cons first tail =>
    simp only [fits, Bool.and_eq_true, decide_eq_true_eq, List.cons.injEq]
    constructor
    · rintro ⟨rfl, fit⟩
      exact ⟨tail, ⟨rfl, rfl⟩, fit⟩
    · rintro ⟨_, ⟨rfl, rfl⟩, fit⟩
      exact ⟨rfl, fit⟩

theorem fits_one_iff {rest : List Wildcard} {subject : List Char} :
    fits (.one :: rest) subject = true ↔ ∃ c tail, subject = c :: tail ∧ fits rest tail := by
  cases subject with
  | nil => simp [fits]
  | cons first tail => simp [fits]

/-- A subject has the characters that its pattern spells. -/
theorem mem_of_fits {parts : List Wildcard} {subject : List Char} {c : Char}
    (fit : fits parts subject = true) (member : .exactly c ∈ parts) : c ∈ subject := by
  induction parts generalizing subject with
  | nil => contradiction
  | cons part rest ih =>
    cases part with
    | run =>
      obtain ⟨skipped, tail, rfl, later⟩ := fits_run_iff.mp fit
      have found : .exactly c ∈ rest := by simpa using member
      exact List.mem_append_right skipped (ih later found)
    | one =>
      obtain ⟨first, tail, rfl, later⟩ := fits_one_iff.mp fit
      have found : .exactly c ∈ rest := by simpa using member
      exact List.mem_cons_of_mem first (ih later found)
    | exactly other =>
      obtain ⟨tail, rfl, later⟩ := fits_exactly_iff.mp fit
      rcases List.mem_cons.mp member with same | found
      · cases same
        exact List.mem_cons_self ..
      · exact List.mem_cons_of_mem other (ih later found)

/-- What fits still fits in lower case. -/
theorem fits_lowered {parts : List Wildcard} {subject : List Char}
    (fit : fits parts subject = true) : fits (parts.map .lowered) (lowered subject) = true := by
  induction parts generalizing subject with
  | nil =>
    rw [fits, List.isEmpty_iff] at fit
    rw [fit]
    rfl
  | cons part rest ih =>
    cases part with
    | run =>
      obtain ⟨skipped, tail, rfl, later⟩ := fits_run_iff.mp fit
      exact fits_run_iff.mpr ⟨lowered skipped, lowered tail, List.map_append, ih later⟩
    | one =>
      obtain ⟨first, tail, rfl, later⟩ := fits_one_iff.mp fit
      exact fits_one_iff.mpr ⟨first.toLower, lowered tail, rfl, ih later⟩
    | exactly c =>
      obtain ⟨tail, rfl, later⟩ := fits_exactly_iff.mp fit
      exact fits_exactly_iff.mpr ⟨lowered tail, rfl, ih later⟩

/-- A shortest text that parts fit. -/
def sample : List Wildcard → List Char
  | [] => []
  | .run :: rest => sample rest
  | .one :: rest => '_' :: sample rest
  | .exactly c :: rest => c :: sample rest

theorem fits_sample (parts : List Wildcard) : fits parts (sample parts) = true := by
  induction parts with
  | nil => rfl
  | cons part rest ih =>
    cases part with
    | run => exact fits_run_iff.mpr ⟨[], sample rest, rfl, ih⟩
    | one => exact fits_one_iff.mpr ⟨'_', sample rest, rfl, ih⟩
    | exactly c => exact fits_exactly_iff.mpr ⟨sample rest, rfl, ih⟩

/-! ## Patterns in lower case -/

theorem isUpper_of_mem_lowered {cs : List Char} {c : Char} (member : c ∈ lowered cs) :
    c.isUpper = false := by
  obtain ⟨original, -, rfl⟩ := List.mem_map.mp member
  exact Char.isUpper_toLower_eq_false original

theorem toLower_eq_self {c : Char} (lower : c.isUpper = false) : c.toLower = c :=
  Char.toLower_eq_of_not_isUpper (Bool.not_eq_true _ ▸ lower)

theorem lowered_eq_self {cs : List Char} (lower : ∀ c ∈ cs, c.isUpper = false) :
    lowered cs = cs :=
  (List.map_congr_left fun c member => toLower_eq_self (lower c member)).trans (List.map_id' cs)

/-- A character that is no letter is met only where it was. -/
theorem toLower_eq_iff {c other : Char} (unlettered : c.isAlpha = false) :
    other.toLower = c ↔ other = c := by
  have lower {c : Char} (unlettered : c.isAlpha = false) : c.isUpper = false := by
    rw [Char.isAlpha, Bool.or_eq_false_iff] at unlettered
    exact unlettered.1
  constructor
  · intro same
    have alpha := Char.isAlpha_toLower_eq_isAlpha other
    rw [same, unlettered] at alpha
    rw [← same, toLower_eq_self (lower alpha.symm)]
  · rintro rfl
    exact toLower_eq_self (lower unlettered)

theorem ofCharacter_toLower (c : Char) :
    Wildcard.ofCharacter c.toLower = (Wildcard.ofCharacter c).lowered := by
  simp only [Wildcard.ofCharacter, toLower_eq_iff (show Char.isAlpha '%' = false from rfl),
    toLower_eq_iff (show Char.isAlpha '_' = false from rfl)]
  split
  · rfl
  · split <;> rfl

variable {escape : Option Char} (unlettered : ∀ c ∈ escape, c.isAlpha = false)

include unlettered

theorem escape_toLower_iff (c : Char) : escape = some c.toLower ↔ escape = some c := by
  cases escape with
  | none => simp
  | some mark =>
    rw [Option.some_inj, Option.some_inj, eq_comm, toLower_eq_iff (unlettered mark rfl), eq_comm]

/-- A pattern in lower case has its parts in lower case. -/
theorem partsFrom?_lowered (escaped : Bool) (pattern : List Char) :
    partsFrom? escape escaped (lowered pattern) =
      (partsFrom? escape escaped pattern).map (·.map .lowered) := by
  induction pattern generalizing escaped with
  | nil => cases escaped <;> rfl
  | cons c rest ih =>
    cases escaped with
    | true =>
      change (partsFrom? escape false (lowered rest)).map (.exactly c.toLower :: ·) = _
      rw [ih, partsFrom?, Option.map_map, Option.map_map]
      rfl
    | false =>
      change (if escape = some c.toLower then partsFrom? escape true (lowered rest)
        else (partsFrom? escape false (lowered rest)).map (.ofCharacter c.toLower :: ·)) = _
      simp only [escape_toLower_iff unlettered, partsFrom?, ih, ofCharacter_toLower]
      split
      · rfl
      · rw [Option.map_map, Option.map_map]
        rfl

/-- A capital in a pattern stands for itself. -/
theorem exactly_mem_of_isUpper {c : Char} (upper : c.isUpper = true) {escaped : Bool}
    {pattern : List Char} {parts : List Wildcard}
    (read : partsFrom? escape escaped pattern = some parts) (member : c ∈ pattern) :
    .exactly c ∈ parts := by
  have unescaping : escape ≠ some c := by
    rintro rfl
    have alpha := unlettered c rfl
    rw [Char.isAlpha, upper] at alpha
    contradiction
  have spelled : Wildcard.ofCharacter c = .exactly c := by
    have percent : c ≠ '%' := by
      rintro rfl
      contradiction
    have underscore : c ≠ '_' := by
      rintro rfl
      contradiction
    rw [Wildcard.ofCharacter, if_neg percent, if_neg underscore]
  induction pattern generalizing escaped parts with
  | nil => contradiction
  | cons first rest ih =>
    cases escaped with
    | true =>
      obtain ⟨later, remaining, rfl⟩ := Option.map_eq_some_iff.mp read
      rcases List.mem_cons.mp member with rfl | found
      · exact List.mem_cons_self ..
      · exact List.mem_cons_of_mem _ (ih remaining found)
    | false =>
      rw [partsFrom?] at read
      split at read
      · rename_i escapes
        rcases List.mem_cons.mp member with rfl | found
        · contradiction
        · exact ih read found
      · obtain ⟨later, remaining, rfl⟩ := Option.map_eq_some_iff.mp read
        rcases List.mem_cons.mp member with rfl | found
        · rw [spelled]
          exact List.mem_cons_self ..
        · exact List.mem_cons_of_mem _ (ih remaining found)

/-! ## Lowering one side or both -/

/-- A pattern with a capital matches nothing in lower case. -/
theorem accepts_lowered_of_isUpper {c : Char} {pattern : List Char} (member : c ∈ pattern)
    (upper : c.isUpper = true) (subject : List Char) :
    accepts escape pattern (lowered subject) = false := by
  rw [Bool.eq_false_iff]
  intro accepted
  obtain ⟨parts, read, fit⟩ := (Option.any_eq_true ..).mp accepted
  have spelled := exactly_mem_of_isUpper unlettered upper read member
  have lower := isUpper_of_mem_lowered (mem_of_fits fit spelled)
  rw [upper] at lower
  contradiction

/-- A well-formed pattern matches something when both are in lower case. -/
theorem exists_accepts_lowered {pattern : List Char} (formed : (parts? escape pattern).isSome) :
    ∃ subject, accepts escape (lowered pattern) (lowered subject) = true := by
  obtain ⟨parts, read⟩ := Option.isSome_iff_exists.mp formed
  refine ⟨sample parts, ?_⟩
  rw [parts?] at read
  rw [accepts, parts?, partsFrom?_lowered unlettered, read]
  exact fits_lowered (fits_sample parts)

/-- Lowering the subject alone is lowering both, unless the pattern has a capital. -/
theorem accepts_lowered_iff (pattern : List Char) :
    (∀ subject, accepts escape pattern (lowered subject) =
        accepts escape (lowered pattern) (lowered subject)) ↔
      parts? escape pattern = none ∨ ∀ c ∈ pattern, c.isUpper = false := by
  constructor
  · intro agree
    by_contra capital
    push Not at capital
    obtain ⟨formed, c, member, upper⟩ := capital
    obtain ⟨subject, accepted⟩ :=
      exists_accepts_lowered unlettered (Option.isSome_iff_ne_none.mpr formed)
    rw [← agree, accepts_lowered_of_isUpper unlettered member
      (Bool.not_eq_false _ ▸ upper)] at accepted
    contradiction
  · rintro (malformed | lower) subject
    · rw [parts?] at malformed
      rw [accepts, accepts, parts?, parts?, partsFrom?_lowered unlettered, malformed]
      rfl
    · rw [lowered_eq_self lower]

end Like

end SqlQuery
