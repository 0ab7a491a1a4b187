import SqlQuery.Postgres.ConnectionString

/-! # Connection strings as keywords and values

PostgreSQL reads a connection string as settings `keyword=value` with blanks between them. A value
stands in quotation marks or ends at a blank, and in either case a backslash makes the next
character part of the value. So a value that is written as it is means itself if and only if it is
not empty, has no blank and no backslash and does not start with a quotation mark; an empty value
means itself at the very end. The parts of the settings are written as they are.
-/

namespace SqlQuery.Postgres.KeywordValues

def isSpace (c : Char) : Bool :=
  c = ' ' || (9 ≤ c.toNat && c.toNat ≤ 13)

/-- The value at the front of a text, and the rest. -/
def value? : List Char → Option (List Char × List Char)
  | '\'' :: rest =>
    match unescapedUntil (· = '\'') rest with
    | (value, _ :: left) => some (value, left)
    | (_, []) => none
  | cs => some (unescapedUntil isSpace cs)

def isKeywordCharacter (c : Char) : Bool :=
  c ≠ '=' && !isSpace c

/-- The setting at the front of a text, and the rest. Blanks may stand around the equals sign. -/
def setting? (cs : List Char) : Option ((String × String) × List Char) :=
  match (cs.dropWhile isKeywordCharacter).dropWhile isSpace with
  | '=' :: rest =>
    (value? (rest.dropWhile isSpace)).map fun (value, left) =>
      ((String.ofList (cs.takeWhile isKeywordCharacter), String.ofList value), left)
  | _ => none

theorem length_value {cs value left : List Char} (found : value? cs = some (value, left)) :
    left.length ≤ cs.length := by
  unfold value? at found
  split at found
  · rename_i rest
    have bound := length_unescapedUntil (· = '\'') rest
    split at found
    · rename_i same
      cases found
      simp_all
      omega
    · cases found
  · have bound := length_unescapedUntil isSpace cs
    obtain same := Option.some.inj found
    rwa [same] at bound

theorem length_setting {cs left : List Char} {setting : String × String}
    (found : setting? cs = some (setting, left)) : left.length < cs.length := by
  unfold setting? at found
  split at found
  · rename_i rest same
    obtain ⟨⟨value, after⟩, read, equal⟩ := Option.map_eq_some_iff.mp found
    cases equal
    have whole := ((List.dropWhile_sublist isSpace).trans
      (List.dropWhile_sublist isKeywordCharacter (l := cs))).length_le
    have tail := (List.dropWhile_sublist isSpace (l := rest)).length_le
    have bound := length_value read
    rw [same, List.length_cons] at whole
    omega
  · cases found

/-- The settings in a text. -/
def settings? (cs : List Char) : Option (List (String × String)) :=
  let start := cs.dropWhile isSpace
  if start.isEmpty then some []
  else
    match found : setting? start with
    | none => none
    | some (setting, left) =>
      have : left.length < cs.length :=
        Nat.lt_of_lt_of_le (length_setting found) (List.dropWhile_sublist _).length_le
      (settings? left).map (setting :: ·)
termination_by cs.length

example : settings? "host='a b' user = c\\ d port=".toList =
    some [("host", "a b"), ("user", "c d"), ("port", "")] := by cbv

/-! ## What a value takes -/

/-- The characters that a value takes from a text, up to a stop. -/
inductive Unescapes (isStop : Char → Bool) : (taken value : List Char) → Prop
  | nil : Unescapes isStop [] []
  | plain {c : Char} {taken value : List Char} (goes : isStop c = false) (plain : c ≠ '\\')
      (rest : Unescapes isStop taken value) : Unescapes isStop (c :: taken) (c :: value)
  | escaped {taken value : List Char} (d : Char) (rest : Unescapes isStop taken value) :
      Unescapes isStop ('\\' :: d :: taken) (d :: value)
  | lone : Unescapes isStop ['\\'] []

theorem exists_unescapes (isStop : Char → Bool) (cs : List Char) :
    ∃ taken, cs = taken ++ (unescapedUntil isStop cs).2 ∧
      Unescapes isStop taken (unescapedUntil isStop cs).1 ∧
      ∀ c ∈ (unescapedUntil isStop cs).2.head?, isStop c = true := by
  fun_induction unescapedUntil isStop cs with
  | case1 => exact ⟨[], rfl, .nil, by simp⟩
  | case2 c rest stop => exact ⟨[], rfl, .nil, by simpa using stop⟩
  | case3 => exact ⟨['\\'], rfl, .lone, by simp⟩
  | case4 d rest value left same goes ih =>
    simp only [same] at ih
    obtain ⟨taken, equal, unescapes, stops⟩ := ih
    exact ⟨'\\' :: d :: taken, by simp [equal], .escaped d unescapes, stops⟩
  | case5 c rest goes plain value left same ih =>
    simp only [same] at ih
    obtain ⟨taken, equal, unescapes, stops⟩ := ih
    exact ⟨c :: taken, by simp [equal], .plain (by simpa using goes) plain unescapes, stops⟩

namespace Unescapes

variable {isStop : Char → Bool} {taken value : List Char}

/-- Only backslashes are taken without becoming part of the value. -/
theorem countP_eq (unescapes : Unescapes isStop taken value) {p : Char → Bool}
    (other : p '\\' = false) : taken.countP p = value.countP p := by
  induction unescapes with
  | nil => rfl
  | plain goes plain rest ih => rw [List.countP_cons, List.countP_cons, ih]
  | escaped d rest ih =>
    rw [List.countP_cons_of_neg (by simp [other]), List.countP_cons, List.countP_cons, ih]
  | lone => simp [other]

theorem length_le (unescapes : Unescapes isStop taken value) : value.length ≤ taken.length := by
  induction unescapes with
  | nil | lone => simp
  | plain goes plain rest ih => simpa using ih
  | escaped d rest ih =>
    rw [List.length_cons, List.length_cons, List.length_cons]
    omega

/-- A value that has all characters that were taken has neither a stop nor a backslash. -/
theorem eq_of_length_eq (unescapes : Unescapes isStop taken value)
    (same : value.length = taken.length) :
    taken = value ∧ ∀ c ∈ value, isStop c = false ∧ c ≠ '\\' := by
  induction unescapes with
  | nil => simp
  | lone => simp at same
  | plain goes plain rest ih =>
    obtain ⟨rfl, each⟩ := ih (by simpa using same)
    exact ⟨rfl, List.forall_mem_cons.mpr ⟨⟨goes, plain⟩, each⟩⟩
  | escaped d rest ih =>
    have bound := rest.length_le
    simp only [List.length_cons] at same
    omega

end Unescapes

/-! ## Values that mean themselves -/

/-- A value that can be written as it is. -/
structure IsPlain (word : List Char) : Prop where
  ne_nil : word ≠ []
  head : word.head? ≠ some '\''
  each : ∀ c ∈ word, isSpace c = false ∧ c ≠ '\\'

instance (word : List Char) : Decidable (IsPlain word) :=
  decidable_of_iff (word ≠ [] ∧ word.head? ≠ some '\'' ∧
      word.all fun c => isSpace c = false ∧ c ≠ '\\') <| by
    simp only [List.all_eq_true, decide_eq_true_eq]
    exact ⟨fun ⟨ne_nil, head, each⟩ => ⟨ne_nil, head, each⟩,
      fun plain => ⟨plain.ne_nil, plain.head, plain.each⟩⟩

theorem value?_of_head? {cs : List Char} (unquoted : cs.head? ≠ some '\'') :
    value? cs = some (unescapedUntil isSpace cs) := by
  unfold value?
  split
  · exact absurd rfl unquoted
  · rfl

theorem unescapedUntil_append {word rest : List Char} {isStop : Char → Bool}
    (each : ∀ c ∈ word, isStop c = false ∧ c ≠ '\\')
    (stops : ∀ c ∈ rest.head?, isStop c = true) :
    unescapedUntil isStop (word ++ rest) = (word, rest) := by
  induction word with
  | nil =>
    cases rest with
    | nil => rfl
    | cons c tail =>
      have stop := stops c rfl
      rw [List.nil_append, unescapedUntil.eq_def]
      simp [stop]
  | cons c word ih =>
    obtain ⟨⟨goes, plain⟩, others⟩ := List.forall_mem_cons.mp each
    rw [List.cons_append, unescapedUntil.eq_def]
    simp [goes, plain, ih others]

/-- A plain value ends at the blank after it. -/
theorem IsPlain.value?_eq {word rest : List Char} (plain : IsPlain word)
    (stops : ∀ c ∈ rest.head?, isSpace c = true) :
    value? ((word ++ rest).dropWhile isSpace) = some (word, rest) := by
  obtain ⟨c, others, rfl⟩ := List.exists_cons_of_ne_nil plain.ne_nil
  have goes := (plain.each c (List.mem_cons_self ..)).1
  have unquoted : (c :: (others ++ rest)).head? ≠ some '\'' := plain.head
  rw [List.cons_append, List.dropWhile_cons_of_neg (by simp [goes]), value?_of_head? unquoted,
    ← List.cons_append, unescapedUntil_append plain.each stops]

/-- Whether a character may be left out of the value that it is written in. -/
def isMark (c : Char) : Bool :=
  isSpace c || c = '\\' || c = '\''

/-- What a value without quotation marks before some rest takes. -/
structure TakesBare (word left taken : List Char) : Prop where
  unescapes : Unescapes isSpace taken word
  starts : ∀ c ∈ (taken ++ left).head?, isSpace c = false ∧ c ≠ '\''
  stops : ∀ c ∈ left.head?, isSpace c = true

/-- What a value before some rest takes, without or with quotation marks. -/
inductive Takes (word left : List Char) : (taken : List Char) → Prop
  | bare {taken : List Char} (bare : TakesBare word left taken) : Takes word left taken
  | quoted {inner : List Char} (unescapes : Unescapes (· = '\'') inner word) :
      Takes word left ('\'' :: inner ++ ['\''])

theorem exists_takes {cs word left : List Char}
    (read : value? (cs.dropWhile isSpace) = some (word, left)) :
    ∃ blanks taken, cs = blanks ++ taken ++ left ∧ (∀ c ∈ blanks, isSpace c = true) ∧
      Takes word left taken := by
  have whole : cs = cs.takeWhile isSpace ++ cs.dropWhile isSpace :=
    List.takeWhile_append_dropWhile.symm
  suffices ∃ taken, cs.dropWhile isSpace = taken ++ left ∧ Takes word left taken by
    obtain ⟨taken, equal, takes⟩ := this
    refine ⟨cs.takeWhile isSpace, taken, ?_, List.all_eq_true.mp List.all_takeWhile, takes⟩
    rwa [List.append_assoc, ← equal]
  have stripped : ∀ c ∈ (cs.dropWhile isSpace).head?, isSpace c = false := by
    intro c first
    have goes := List.head?_dropWhile_not isSpace cs
    rw [Option.mem_def.mp first] at goes
    simpa using goes
  generalize cs.dropWhile isSpace = body at read stripped
  by_cases marked : body.head? = some '\''
  · obtain ⟨rest, rfl⟩ := List.head?_eq_some_iff.mp marked
    obtain ⟨inner, equal, unescapes, stops⟩ := exists_unescapes (· = '\'') rest
    rw [value?] at read
    split at read
    · rename_i value c after same
      rw [same] at equal unescapes stops
      obtain ⟨rfl, rfl⟩ := Prod.mk.inj (Option.some.inj read)
      obtain rfl : c = '\'' := by simpa using stops
      exact ⟨_, by simp [equal], .quoted unescapes⟩
    · contradiction
  · rw [value?_of_head? marked] at read
    obtain ⟨taken, equal, unescapes, stops⟩ := exists_unescapes isSpace body
    rw [Option.some.inj read] at equal unescapes stops
    refine ⟨taken, equal, .bare ⟨unescapes, fun c first => ?_, stops⟩⟩
    rw [← equal] at first
    exact ⟨stripped c first, fun quote => marked (quote ▸ first)⟩

theorem Takes.length_le {word left taken : List Char} (takes : Takes word left taken) :
    word.length ≤ taken.length := by
  cases takes with
  | bare bare => exact bare.unescapes.length_le
  | quoted unescapes =>
    have bound := unescapes.length_le
    simp only [List.cons_append, List.length_cons, List.length_append]
    omega

/-- There is no room for two quotation marks in one character more than the word has. -/
theorem Takes.bare_of_length_le {word left taken : List Char} (takes : Takes word left taken)
    (short : taken.length ≤ word.length + 1) : TakesBare word left taken := by
  cases takes with
  | bare bare => exact bare
  | quoted unescapes =>
    have bound := unescapes.length_le
    simp only [List.cons_append, List.length_cons, List.length_append] at short
    omega

/-- Every character that may not be left out becomes part of the value. -/
theorem Takes.countP_eq {word left taken : List Char} (takes : Takes word left taken) :
    taken.countP (fun c => !isMark c) = word.countP fun c => !isMark c := by
  have slash : (!isMark '\\') = false := rfl
  cases takes with
  | bare bare => exact bare.unescapes.countP_eq slash
  | quoted unescapes =>
    rw [← unescapes.countP_eq slash, List.cons_append, List.countP_cons_of_neg (by decide),
      List.countP_append, List.countP_singleton]
    rfl

/-- What may follow a value: nothing, or a blank and then a setting. -/
def Follows (rest : List Char) : Prop :=
  rest = [] ∨ ∃ c tail, rest = ' ' :: c :: tail ∧ isMark c = false

/-- Reading a word back takes at most the blank after it: what is left out of the value are marks,
and behind the blank is none. -/
theorem exists_more {word rest blanks taken left : List Char} (follows : Follows rest)
    (equal : word ++ rest = blanks ++ taken ++ left) (spaces : ∀ c ∈ blanks, isSpace c = true)
    (takes : Takes word left taken) :
    (blanks ++ taken = word ∧ left = rest) ∨
      ∃ c tail, rest = ' ' :: c :: tail ∧ isMark c = false ∧ blanks ++ taken = word ++ [' '] ∧
        left = c :: tail := by
  -- The value has the length of the word, so it does not end within the word.
  obtain ⟨more, extended, equal⟩ :
      ∃ more, blanks ++ taken = word ++ more ∧ rest = more ++ left := by
    rcases List.append_eq_append_iff.mp equal with longer | ⟨missing, shorter, equal⟩
    · exact longer
    · have bound := takes.length_le
      have lengths := congrArg List.length shorter
      simp only [List.length_append] at lengths
      obtain rfl := List.eq_nil_of_length_eq_zero (show missing.length = 0 by omega)
      exact ⟨[], by simpa using shorter.symm, equal.symm⟩
  -- All characters of the value that cannot be left out are in the word already.
  have none_unmarked : more.countP (fun c => !isMark c) = 0 := by
    have counts := congrArg (List.countP fun c => !isMark c) extended
    have blank : blanks.countP (fun c => !isMark c) = 0 :=
      List.countP_eq_zero.mpr fun c member => by simp [isMark, spaces c member]
    rw [List.countP_append, List.countP_append, takes.countP_eq, blank] at counts
    omega
  rcases follows with rfl | ⟨c, tail, rfl, unmarked⟩
  · obtain ⟨rfl, rfl⟩ := List.nil_eq_append_iff.mp equal
    exact .inl ⟨by simpa using extended, rfl⟩
  · match more, equal with
    | [], equal => exact .inl ⟨by simpa using extended, equal.symm⟩
    | [_], equal =>
      obtain ⟨rfl, rfl⟩ := List.cons.inj equal
      exact .inr ⟨c, tail, rfl, unmarked, extended, rfl⟩
    | _ :: d :: others, equal =>
      have same : c = d := (List.cons.inj (List.cons.inj equal).2).1
      have member := List.countP_eq_zero.mp none_unmarked d (by simp)
      rw [← same, unmarked] at member
      contradiction

/-- A word that takes itself, blanks before it included, is plain if it is not empty. -/
theorem TakesBare.isPlain {word left blanks taken : List Char} (bare : TakesBare word left taken)
    (whole : blanks ++ taken = word) (filled : word ≠ []) : IsPlain word := by
  have lengths := congrArg List.length whole
  have within := bare.unescapes.length_le
  rw [List.length_append] at lengths
  obtain ⟨rfl, each⟩ := bare.unescapes.eq_of_length_eq (by omega)
  refine ⟨filled, fun quote => ?_, each⟩
  exact (bare.starts '\'' (by rw [List.head?_append, quote]; rfl)).2 rfl

/-- A word does not take the blank after it as well: the blank is left out, so it would be the one
blank before the value, and the word would start with a blank that it keeps. -/
theorem TakesBare.append_ne {word left blanks taken : List Char} (bare : TakesBare word left taken)
    (spaces : ∀ c ∈ blanks, isSpace c = true) (goes : ∃ c ∈ left.head?, isSpace c = false) :
    blanks ++ taken ≠ word ++ [' '] := by
  intro whole
  have counts := congrArg (List.countP isSpace) whole
  have lengths := congrArg List.length whole
  have before : blanks.countP isSpace = blanks.length := List.countP_eq_length.mpr spaces
  have space : [' '].countP isSpace = 1 := rfl
  rw [List.countP_append, List.countP_append, before, bare.unescapes.countP_eq (by decide), space]
    at counts
  rw [List.length_append, List.length_append, List.length_singleton] at lengths
  obtain ⟨rfl, each⟩ := bare.unescapes.eq_of_length_eq (by omega)
  cases taken with
  | nil =>
    obtain ⟨c, first, goes⟩ := goes
    exact absurd (bare.stops c first) (by simp [goes])
  | cons d others =>
    obtain ⟨b, rfl⟩ := List.length_eq_one_iff.mp (show blanks.length = 1 by omega)
    obtain ⟨rfl, -⟩ := List.cons.inj whole
    have clash := spaces b (List.mem_singleton_self b)
    rw [(each b (List.mem_cons_self ..)).1] at clash
    contradiction

/-- A word that is read back is plain, or it is empty and the last one. -/
theorem isPlain_of_value? {word rest left : List Char} (follows : Follows rest)
    (read : value? ((word ++ rest).dropWhile isSpace) = some (word, left)) :
    IsPlain word ∨ word = [] ∧ rest = [] := by
  obtain ⟨blanks, taken, equal, spaces, takes⟩ := exists_takes read
  rcases exists_more follows equal spaces takes with
    ⟨whole, rfl⟩ | ⟨c, tail, rfl, unmarked, whole, rfl⟩
  all_goals
    have lengths := congrArg List.length whole
    simp only [List.length_append, List.length_singleton] at lengths
    have bare := takes.bare_of_length_le (by omega)
  · by_cases empty : word = []
    · obtain ⟨rfl, rfl⟩ := List.append_eq_nil_iff.mp (whole.trans empty)
      rcases follows with rfl | ⟨c, tail, rfl, -⟩
      · exact .inr ⟨empty, rfl⟩
      · exact absurd (bare.starts ' ' rfl).1 (by decide)
    · exact .inl (bare.isPlain whole empty)
  · have goes : isSpace c = false := by
      simp only [isMark, Bool.or_eq_false_iff] at unmarked
      exact unmarked.1.1
    exact absurd whole (bare.append_ne spaces ⟨c, rfl, goes⟩)

/-! ## Settings -/

/-- A keyword that is read as it is written. -/
structure IsKeyword (keyword : String) : Prop where
  ne_nil : keyword.toList ≠ []
  each : ∀ c ∈ keyword.toList, isKeywordCharacter c = true ∧ isMark c = false

instance (keyword : String) : Decidable (IsKeyword keyword) :=
  decidable_of_iff (keyword.toList ≠ [] ∧
      keyword.toList.all fun c => isKeywordCharacter c = true ∧ isMark c = false) <| by
    simp only [List.all_eq_true, decide_eq_true_eq]
    exact ⟨fun ⟨ne_nil, each⟩ => ⟨ne_nil, each⟩, fun valid => ⟨valid.ne_nil, valid.each⟩⟩

/-- Settings as they are written, each after a blank. -/
def written (settings : List (String × String)) : List Char :=
  settings.flatMap fun (keyword, value) => ' ' :: keyword.toList ++ '=' :: value.toList

/-- Settings with values that mean themselves where they are written. -/
def ReadBack : List (String × String) → Prop
  | [] => True
  | (_, value) :: rest => (IsPlain value.toList ∨ value = "" ∧ rest = []) ∧ ReadBack rest

theorem settings?_eq (cs : List Char) :
    settings? cs = if (cs.dropWhile isSpace).isEmpty then some []
      else (setting? (cs.dropWhile isSpace)).bind fun read =>
        (settings? read.2).map (read.1 :: ·) := by
  rw [settings?]
  simp only
  split
  · rfl
  · split <;> simp [*]

theorem settings?_nil : settings? [] = some [] := by
  rw [settings?_eq]
  rfl

theorem settings?_space (cs : List Char) : settings? (' ' :: cs) = settings? cs := by
  have same : (' ' :: cs).dropWhile isSpace = cs.dropWhile isSpace := rfl
  rw [settings?_eq, settings?_eq cs, same]

theorem IsKeyword.setting?_eq {keyword : String} (valid : IsKeyword keyword) (cs : List Char) :
    setting? (keyword.toList ++ '=' :: cs) = (value? (cs.dropWhile isSpace)).map fun read =>
      ((keyword, String.ofList read.1), read.2) := by
  have each : ∀ c ∈ keyword.toList, isKeywordCharacter c = true := fun c member =>
    (valid.each c member).1
  have name : (keyword.toList ++ '=' :: cs).takeWhile isKeywordCharacter = keyword.toList := by
    rw [List.takeWhile_append_of_pos each, List.takeWhile_cons_of_neg (by decide), List.append_nil]
  have rest : (keyword.toList ++ '=' :: cs).dropWhile isKeywordCharacter = '=' :: cs := by
    rw [List.dropWhile_append_of_pos each, List.dropWhile_cons_of_neg (by decide)]
  rw [setting?, rest, List.dropWhile_cons_of_neg (by decide), name, String.ofList_toList]
  rfl

theorem IsKeyword.settings?_eq {keyword : String} (valid : IsKeyword keyword) (cs : List Char) :
    settings? (' ' :: keyword.toList ++ '=' :: cs) =
      (value? (cs.dropWhile isSpace)).bind fun read =>
        (settings? read.2).map ((keyword, String.ofList read.1) :: ·) := by
  obtain ⟨c, others, characters⟩ := List.exists_cons_of_ne_nil valid.ne_nil
  have start : (keyword.toList ++ '=' :: cs).dropWhile isSpace = keyword.toList ++ '=' :: cs := by
    have first := valid.each c (by rw [characters]; exact List.mem_cons_self ..)
    rw [characters, List.cons_append, List.dropWhile_cons_of_neg]
    intro space
    simp [isMark, space] at first
  rw [List.cons_append, settings?_space, KeywordValues.settings?_eq, start, valid.setting?_eq,
    if_neg (by simp), Option.bind_map]
  rfl

theorem written_cons (keyword value : String) (rest : List (String × String)) :
    written ((keyword, value) :: rest) =
      ' ' :: keyword.toList ++ '=' :: (value.toList ++ written rest) := by
  simp [written]

theorem written_eq_nil_iff {settings : List (String × String)} :
    written settings = [] ↔ settings = [] := by
  cases settings with
  | nil => simp [written]
  | cons setting rest => simp [written]

theorem follows_written {settings : List (String × String)}
    (valid : ∀ setting ∈ settings, IsKeyword setting.1) : Follows (written settings) := by
  cases settings with
  | nil => exact .inl rfl
  | cons setting rest =>
    have first := valid setting (List.mem_cons_self ..)
    obtain ⟨c, others, characters⟩ := List.exists_cons_of_ne_nil first.ne_nil
    rw [written_cons, characters]
    exact .inr ⟨c, _, rfl, (first.each c (by rw [characters]; exact List.mem_cons_self ..)).2⟩

/-- Settings are read back as they were written if and only if each value means itself. -/
theorem settings?_written_iff {settings : List (String × String)}
    (valid : ∀ setting ∈ settings, IsKeyword setting.1) :
    settings? (written settings) = some settings ↔ ReadBack settings := by
  induction settings with
  | nil => simp [written, settings?_nil, ReadBack]
  | cons setting rest ih =>
    obtain ⟨keyword, value⟩ := setting
    obtain ⟨first, others⟩ := List.forall_mem_cons.mp valid
    have follows := follows_written others
    have stops : ∀ c ∈ (written rest).head?, isSpace c = true := by
      rcases follows with none | ⟨c, tail, some, -⟩
      · simp [none]
      · rw [some]
        simp [isSpace]
    rw [written_cons, first.settings?_eq, ReadBack, ← ih others]
    constructor
    · intro read
      obtain ⟨⟨word, left⟩, taken, read⟩ := Option.bind_eq_some_iff.mp read
      obtain ⟨later, after, equal⟩ := Option.map_eq_some_iff.mp read
      obtain ⟨same, rest_eq⟩ := List.cons.inj equal
      rw [rest_eq] at after
      obtain rfl : word = value.toList := by
        rw [← (Prod.mk.inj same).2, String.toList_ofList]
      have stands := isPlain_of_value? follows taken
      rcases stands with plain | ⟨empty, none⟩
      · rw [plain.value?_eq stops] at taken
        obtain ⟨-, rfl⟩ := Prod.mk.inj (Option.some.inj taken)
        exact ⟨.inl plain, after⟩
      · obtain rfl : value = "" := String.toList_inj.mp empty
        obtain rfl := written_eq_nil_iff.mp none
        exact ⟨.inr ⟨rfl, rfl⟩, settings?_nil⟩
    · rintro ⟨plain | ⟨rfl, rfl⟩, after⟩
      · rw [plain.value?_eq stops]
        simp [after]
      · simp [written, value?, unescapedUntil, settings?_nil]

end SqlQuery.Postgres.KeywordValues

/-! ## The parts of a server's settings -/

namespace SqlQuery.PostgresSettings

open Postgres.KeywordValues

/-- The settings that the parts ask for, with their keywords. -/
def configured (host user database : String) (port : UInt16) (password : Option String)
    (ssl : Bool) : List (String × String) :=
  [("host", host), ("port", toString (if port = 0 then 5432 else port.toNat)), ("user", user),
      ("dbname", database)] ++
    (password.map fun password => ("password", password)).toList ++
    if ssl then [("sslmode", "require")] else []

theorem isKeyword_configured (host user database : String) (port : UInt16)
    (password : Option String) (ssl : Bool) :
    ∀ setting ∈ configured host user database port password ssl, IsKeyword setting.1 := by
  have keywords : ∀ setting ∈ configured host user database port password ssl,
      setting.1 ∈ ["host", "port", "user", "dbname", "password", "sslmode"] := by
    cases password <;> cases ssl <;> simp [configured]
  have valid : ∀ keyword ∈ ["host", "port", "user", "dbname", "password", "sslmode"],
      IsKeyword keyword := by
    decide
  exact fun setting member => valid setting.1 (keywords setting member)

theorem isPlain_toString (n : Nat) : IsPlain (toString n).toList := by
  have text : (toString n).toList = Nat.toDigits 10 n := by
    rw [Nat.toString_eq_ofList_toDigits, String.toList_ofList]
  have digit : ∀ c ∈ Nat.toDigits 10 n, 48 ≤ c.toNat ∧ c.toNat ≤ 57 := fun c member => by
    have isDigit := Nat.isDigit_of_mem_toDigits (by decide) (by decide) member
    simpa [Char.isDigit, UInt32.le_iff_toNat_le] using isDigit
  have other {c d : Char} (member : c ∈ Nat.toDigits 10 n) (outside : d.toNat < 48 ∨ 57 < d.toNat) :
      c ≠ d := by
    rintro rfl
    have inside := digit c member
    omega
  rw [text]
  refine ⟨Nat.toDigits_ne_nil, fun quote => ?_, fun c member => ⟨?_, other member (by decide)⟩⟩
  · exact other (List.mem_of_head? quote) (by decide) rfl
  · have blank := other member (show ' '.toNat < 48 ∨ _ by decide)
    have inside := digit c member
    simp only [isSpace, blank, decide_false, Bool.false_or, Bool.and_eq_false_iff,
      decide_eq_false_iff_not]
    omega

theorem readBack_configured_iff (host user database : String) (port : UInt16)
    (password : Option String) (ssl : Bool) :
    ReadBack (configured host user database port password ssl) ↔
      IsPlain host.toList ∧ IsPlain user.toList ∧
        (IsPlain database.toList ∨ database = "" ∧ password = none ∧ ssl = false) ∧
        ∀ secret ∈ password, IsPlain secret.toList ∨ secret = "" ∧ ssl = false := by
  have digits := isPlain_toString (if port = 0 then 5432 else port.toNat)
  have require : IsPlain "require".toList := by decide
  unfold configured
  generalize toString (if port = 0 then 5432 else port.toNat) = shown at digits
  generalize "require" = mode at require
  cases password <;> cases ssl <;> simp [ReadBack, digits, require]

/-- The connection string of the parts is the text of their settings. -/
theorem exists_written_configured (host user database : String) (port : UInt16)
    (password : Option String) (ssl : Bool) :
    ∃ text, toConnectionString
        { host := some host, user := some user, database := some database, port, password, ssl } =
          .ok text ∧
      written (configured host user database port password ssl) = ' ' :: text.toList := by
  refine ⟨_, rfl, ?_⟩
  have shown : (if port = 0 then defaultPort else port).toNat =
      if port = 0 then 5432 else port.toNat := by
    split <;> rfl
  rw [shown]
  cases password <;> cases ssl <;> simp [configured, written]

/-- The connection string of the parts of a server's settings, read by the rules of keywords and
values, has the settings that the parts ask for if and only if each part can be written as it is. An
empty part is fine at the very end. -/
theorem connection_string_read_back_iff (host user database : String) (port : UInt16)
    (password : Option String) (ssl : Bool) :
    ∃ text, toConnectionString
        { host := some host, user := some user, database := some database, port, password, ssl } =
          .ok text ∧
      (settings? text.toList = some (configured host user database port password ssl) ↔
        IsPlain host.toList ∧ IsPlain user.toList ∧
          (IsPlain database.toList ∨ database = "" ∧ password = none ∧ ssl = false) ∧
          ∀ secret ∈ password, IsPlain secret.toList ∨ secret = "" ∧ ssl = false) := by
  obtain ⟨text, renders, same⟩ := exists_written_configured host user database port password ssl
  refine ⟨text, renders, ?_⟩
  rw [← readBack_configured_iff, ← settings?_space, ← same]
  exact settings?_written_iff (isKeyword_configured host user database port password ssl)

/-- A password with a blank sets the host a second time. -/
theorem password_sets_host :
    ∃ text, toConnectionString
        { host := some "localhost", user := some "u", database := some "d",
          password := some "x host=evil" } = .ok text ∧
      settings? text.toList = some [("host", "localhost"), ("port", "5432"), ("user", "u"),
        ("dbname", "d"), ("password", "x"), ("host", "evil")] ∧
      settings? text.toList ≠
        some (configured "localhost" "u" "d" 0 (some "x host=evil") false) := by
  have read : settings? "host=localhost port=5432 user=u dbname=d password=x host=evil".toList =
      some [("host", "localhost"), ("port", "5432"), ("user", "u"), ("dbname", "d"),
        ("password", "x"), ("host", "evil")] := by cbv
  exact ⟨_, rfl, read, fun asked => absurd (read.symm.trans asked) (by decide)⟩

end SqlQuery.PostgresSettings
