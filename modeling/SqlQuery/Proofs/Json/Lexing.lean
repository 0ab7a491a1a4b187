import SqlQuery.Json.Printer
import SqlQuery.Json.Reader

/-! # Cutting written JSON into tokens

Marks and strings are cut off whatever comes next; a number ends where a stop follows: a comma, a
closing bracket, a line break or the end. White space between tokens leaves them as they are.
-/

namespace SqlQuery

/-! ## Numerals -/

namespace Numeral

def IsDigits (digits : List Char) : Prop :=
  digits ≠ [] ∧ ∀ c ∈ digits, c.isDigit = true

/-- The digits are there, and the whole part has no leading zero. -/
structure IsWellFormed (numeral : Numeral) : Prop where
  whole : IsDigits numeral.whole
  leading : numeral.whole.head? = some '0' → numeral.whole = ['0']
  fraction : ∀ digits ∈ numeral.fraction, IsDigits digits
  exponent : ∀ exponent ∈ numeral.exponent, IsDigits exponent.2

def fractionCharacters : Option (List Char) → List Char
  | none => []
  | some digits => '.' :: digits

def exponentCharacters : Option (Bool × List Char) → List Char
  | none => []
  | some (negative, digits) => 'e' :: (if negative then '-' else '+') :: digits

/-- How a numeral is written. -/
def characters (numeral : Numeral) : List Char :=
  (if numeral.negative then ['-'] else []) ++ numeral.whole ++
    fractionCharacters numeral.fraction ++ exponentCharacters numeral.exponent

end Numeral

namespace Json

open Numeral (IsDigits fractionCharacters exponentCharacters)

/-- What may follow a value in a written text. -/
def isStop (c : Char) : Bool :=
  [',', ']', '\x7d', '\n'].contains c

theorem isDigit_of_isStop {c : Char} (stop : isStop c) : c.isDigit = false := by
  have stops : [',', ']', '\x7d', '\n'].all (fun stop => !stop.isDigit) = true := by decide
  have noDigit := List.all_eq_true.mp stops c (by simpa [isStop] using stop)
  rwa [Bool.not_eq_true'] at noDigit

theorem readDigits?_append {digits : List Char} (isDigits : IsDigits digits) {rest : List Char}
    (ended : ∀ c ∈ rest.head?, c.isDigit = false) :
    readDigits? (digits ++ rest) = some (digits, rest) := by
  obtain ⟨some, all⟩ := isDigits
  have taken : rest.takeWhile Char.isDigit = [] := by
    cases rest with
    | nil => rfl
    | cons c others => simp [ended c rfl]
  have dropped : rest.dropWhile Char.isDigit = rest := by
    cases rest with
    | nil => rfl
    | cons c others => simp [ended c rfl]
  rw [readDigits?, List.takeWhile_append_of_pos all, List.dropWhile_append_of_pos all, taken,
    dropped, List.append_nil]
  cases digits with
  | nil => contradiction
  | cons c others => rfl

theorem readWhole?_append {digits : List Char} (isDigits : IsDigits digits)
    (leading : digits.head? = some '0' → digits = ['0']) {rest : List Char}
    (ended : ∀ c ∈ rest.head?, c.isDigit = false) :
    readWhole? (digits ++ rest) = some (digits, rest) := by
  by_cases zero : digits.head? = some '0'
  · rw [leading zero]
    rfl
  · rw [readWhole?]
    · exact readDigits?_append isDigits ended
    · rintro others equal
      cases digits with
      | nil => exact isDigits.1 rfl
      | cons c remaining =>
        obtain ⟨rfl, -⟩ := List.cons.inj equal
        exact zero rfl

theorem readExponent?_append {exponent : Option (Bool × List Char)}
    (isDigits : ∀ written ∈ exponent, IsDigits written.2) {rest : List Char}
    (stopped : ∀ c ∈ rest.head?, isStop c) :
    readExponent? (exponentCharacters exponent ++ rest) = some (exponent, rest) := by
  cases exponent with
  | none =>
    cases rest with
    | nil => rfl
    | cons c others =>
      have stop := stopped c rfl
      have different : ¬ (c = 'e' ∨ c = 'E') := by
        rintro (rfl | rfl) <;> contradiction
      simp [exponentCharacters, readExponent?, different]
  | some written =>
    obtain ⟨negative, digits⟩ := written
    have ended : ∀ c ∈ rest.head?, c.isDigit = false :=
      fun c first => isDigit_of_isStop (stopped c first)
    have read := readDigits?_append (isDigits _ rfl) ended
    cases negative <;> simp [exponentCharacters, readExponent?, read]

theorem readFraction?_append {fraction : Option (List Char)}
    (isDigits : ∀ digits ∈ fraction, IsDigits digits) {rest : List Char}
    (ended : ∀ c ∈ rest.head?, c.isDigit = false ∧ c ≠ '.') :
    readFraction? (fractionCharacters fraction ++ rest) = some (fraction, rest) := by
  cases fraction with
  | none =>
    rw [fractionCharacters, List.nil_append, readFraction?]
    rintro others rfl
    exact (ended '.' rfl).2 rfl
  | some digits =>
    have read := readDigits?_append (isDigits _ rfl) fun c first => (ended c first).1
    simp [fractionCharacters, readFraction?, read]

/-- A numeral is read up to the stop that follows it. -/
theorem readNumber?_append {numeral : Numeral} (wellFormed : numeral.IsWellFormed)
    {rest : List Char} (stopped : ∀ c ∈ rest.head?, isStop c) :
    readNumber? (numeral.characters ++ rest) = some (numeral, rest) := by
  obtain ⟨negative, whole, fraction, exponent⟩ := numeral
  obtain ⟨digits, leading, fractions, exponents⟩ := wellFormed
  have afterFraction : ∀ c ∈ (exponentCharacters exponent ++ rest).head?,
      c.isDigit = false ∧ c ≠ '.' := by
    cases exponent with
    | none =>
      intro c first
      have stop := stopped c first
      refine ⟨isDigit_of_isStop stop, ?_⟩
      rintro rfl
      contradiction
    | some written => simp [exponentCharacters]
  have afterWhole : ∀ c ∈ (fractionCharacters fraction ++
      (exponentCharacters exponent ++ rest)).head?, c.isDigit = false := by
    cases fraction with
    | none => exact fun c first => (afterFraction c first).1
    | some digits => simp [fractionCharacters]
  have readWhole := readWhole?_append digits leading afterWhole
  have readFraction := readFraction?_append fractions afterFraction
  have readExponent := readExponent?_append exponents stopped
  cases negative with
  | true => simp [Numeral.characters, readNumber?, readWhole, readFraction, readExponent]
  | false =>
    have unsigned : ∀ others, whole ++ (fractionCharacters fraction ++
        (exponentCharacters exponent ++ rest)) ≠ '-' :: others := by
      intro others equal
      cases whole with
      | nil => exact digits.1 rfl
      | cons c remaining =>
        obtain ⟨rfl, -⟩ := List.cons.inj equal
        exact absurd (digits.2 '-' (List.mem_cons_self ..)) (by decide)
    simp only [Numeral.characters, Bool.false_eq_true, if_false, List.nil_append,
      List.append_assoc]
    rw [readNumber?]
    · simp [readWhole, readFraction, readExponent]
    · exact unsigned

/-! ## Strings -/

/-- The piece that a written character is read as: control characters without a letter of their own
are written by number. -/
def pieceOf (c : Char) : Piece :=
  if c.toNat < 0x20 ∧ c ∉ ['\x08', '\x0C', '\n', '\r', '\t'] then .unit c.toNat
  else .character c

theorem hexDigit?_hexDigit : ∀ value < 16, hexDigit? (hexDigit value) = some value := by decide

theorem readPieces_escapeCharacter (c : Char) (rest : List Char) :
    readPieces (escapeCharacter c ++ rest) =
      (readPieces rest).map fun (pieces, left) => (pieceOf c :: pieces, left) := by
  by_cases lettered : c ∈ ['"', '\\', '\x08', '\x0C', '\n', '\r', '\t']
  · have each : ∀ c ∈ ['"', '\\', '\x08', '\x0C', '\n', '\r', '\t'], ∀ rest,
        readPieces (escapeCharacter c ++ rest) =
          (readPieces rest).map fun (pieces, left) => (pieceOf c :: pieces, left) := by
      simp only [List.forall_mem_cons]
      exact ⟨fun _ => rfl, fun _ => rfl, fun _ => rfl, fun _ => rfl, fun _ => rfl, fun _ => rfl,
        fun _ => rfl, by simp⟩
    exact each c lettered rest
  · simp only [List.mem_cons, List.not_mem_nil, or_false, not_or] at lettered
    obtain ⟨quote, slash, back, feed, line, carriage, tab⟩ := lettered
    rw [escapeCharacter, if_neg quote, if_neg slash, if_neg back, if_neg feed, if_neg line,
      if_neg carriage, if_neg tab]
    split
    · rename_i control
      have high := hexDigit?_hexDigit (c.toNat / 16) (by omega)
      have low := hexDigit?_hexDigit (c.toNat % 16) (by omega)
      have zero : hexDigit? '0' = some 0 := rfl
      have whole : c.toNat / 16 * 16 + c.toNat % 16 = c.toNat := by omega
      have piece : pieceOf c = .unit c.toNat := by
        rw [pieceOf, if_pos]
        simp [control, back, feed, line, carriage, tab]
      simp [readPieces, unit?, zero, high, low, whole, piece]
    · rename_i printable
      have piece : pieceOf c = .character c := by
        rw [pieceOf, if_neg]
        exact fun control => printable control.1
      rw [List.singleton_append, readPieces, if_neg, piece]
      · simpa [slash] using printable
      · exact quote
      · exact fun _ _ _ _ _ same _ => slash same
      · exact fun _ _ same _ => slash same

theorem charactersOf?_unit {value : Nat} (control : value < 0x20) (pieces : List Piece) :
    charactersOf? (.unit value :: pieces) = (charactersOf? pieces).map (Char.ofNat value :: ·) := by
  have high : isHighSurrogate value = false := by simp [isHighSurrogate]; omega
  have low : isLowSurrogate value = false := by simp [isLowSurrogate]; omega
  cases pieces with
  | nil => simp [charactersOf?, high, low]
  | cons piece rest => cases piece <;> simp [charactersOf?, high, low]

/-- Pieces of written characters have no half of a surrogate pair. -/
theorem charactersOf?_map_pieceOf (cs : List Char) : charactersOf? (cs.map pieceOf) = some cs := by
  induction cs with
  | nil => rfl
  | cons c rest ih =>
    rw [List.map_cons, pieceOf]
    split
    · rename_i numbered
      rw [charactersOf?_unit numbered.1, ih, Option.map_some, Char.ofNat_toNat]
    · rw [charactersOf?, ih, Option.map_some]

theorem readPieces_quoted (cs rest : List Char) :
    readPieces (cs.flatMap escapeCharacter ++ '"' :: rest) = some (cs.map pieceOf, rest) := by
  induction cs with
  | nil => rfl
  | cons c others ih =>
    rw [List.flatMap_cons, List.append_assoc, readPieces_escapeCharacter, ih]
    rfl

/-! ## Tokens -/

/-- Characters that are cut into given tokens. -/
def Lexes (cs : List Char) (tokens : List Token) : Prop :=
  ∀ fuel, cs.length ≤ fuel → tokensWithin fuel cs = some tokens

namespace Lexes

theorem nil : Lexes [] [] := by
  intro fuel _
  cases fuel <;> rfl

theorem space {c : Char} {cs : List Char} {tokens : List Token} (white : isWhitespace c)
    (lexes : Lexes cs tokens) : Lexes (c :: cs) tokens := by
  intro fuel enough
  have skipped := lexes fuel (Nat.le_of_succ_le enough)
  rw [tokensWithin] at skipped ⊢
  rwa [List.dropWhile_cons_of_pos white]

theorem token {c : Char} {cs left : List Char} {token : Token} {tokens : List Token}
    (solid : isWhitespace c = false) (read : Token.read? (c :: cs) = some (token, left))
    (shorter : left.length ≤ cs.length) (lexes : Lexes left tokens) :
    Lexes (c :: cs) (token :: tokens) := by
  intro fuel enough
  cases fuel with
  | zero => contradiction
  | succ fuel =>
    have rest := lexes fuel (by
      rw [List.length_cons] at enough
      omega)
    rw [tokensWithin, List.dropWhile_cons_of_neg (by simp [solid])]
    simp only [read, rest, Option.map_some]

theorem tokens?_eq {text : String} {tokens : List Token} (lexes : Lexes text.toList tokens) :
    tokens? text = some tokens :=
  lexes text.length (Nat.le_of_eq String.length_toList)

end Lexes

/-- A text that is cut into given tokens, whatever comes next. -/
def Yields (text : String) (tokens : List Token) : Prop :=
  ∀ rest others, Lexes rest others → Lexes (text.toList ++ rest) (tokens ++ others)

/-- A text that is cut into given tokens when a stop comes next. -/
def YieldsBeforeStop (text : String) (tokens : List Token) : Prop :=
  ∀ rest others, (∀ c ∈ rest.head?, isStop c) → Lexes rest others →
    Lexes (text.toList ++ rest) (tokens ++ others)

theorem Yields.beforeStop {text : String} {tokens : List Token} (yields : Yields text tokens) :
    YieldsBeforeStop text tokens :=
  fun rest others _ lexes => yields rest others lexes

theorem yields_quoted (text : String) : Yields (quoted text) [.string (some text)] := by
  intro rest others lexes
  have read : Token.read? ('"' :: (text.toList.flatMap escapeCharacter ++ '"' :: rest)) =
      some (.string (some text), rest) := by
    rw [Token.read?, readPieces_quoted]
    simp only [Option.map_some, charactersOf?_map_pieceOf, String.ofList_toList]
  rw [quoted, String.toList_ofList, List.cons_append, List.append_assoc, List.singleton_append]
  refine .token rfl read ?_ lexes
  rw [List.length_append, List.length_cons]
  omega

theorem yields_append {first second : String} {tokens tokens' : List Token}
    (yields : Yields first tokens) (yields' : Yields second tokens') :
    Yields (first ++ second) (tokens ++ tokens') := by
  intro rest others lexes
  rw [String.toList_append, List.append_assoc, List.append_assoc]
  exact yields _ _ (yields' _ _ lexes)

theorem Token.read?_number {c : Char} (start : c = '-' ∨ c.isDigit = true) (cs : List Char) :
    Token.read? (c :: cs) =
      (readNumber? (c :: cs)).map fun (numeral, rest) => (.number numeral, rest) := by
  rcases start with rfl | digit
  · rfl
  · rw [Token.read?]
    · nofun
    all_goals
      rintro rest ⟨⟩
      exact absurd digit (by decide)

/-- A numeral starts with a sign or a digit. -/
theorem exists_characters_eq {numeral : Numeral} (wellFormed : numeral.IsWellFormed) :
    ∃ c cs, numeral.characters = c :: cs ∧ (c = '-' ∨ c.isDigit = true) := by
  obtain ⟨negative, whole, fraction, exponent⟩ := numeral
  obtain ⟨some, digits⟩ := wellFormed.whole
  cases negative with
  | true => exact ⟨'-', _, rfl, .inl rfl⟩
  | false =>
    cases whole with
    | nil => contradiction
    | cons c others => exact ⟨c, _, rfl, .inr (digits c (List.mem_cons_self ..))⟩

theorem yieldsBeforeStop_number {text : String} {numeral : Numeral}
    (wellFormed : numeral.IsWellFormed) (written : text.toList = numeral.characters) :
    YieldsBeforeStop text [.number numeral] := by
  intro rest others stopped lexes
  obtain ⟨c, cs, starts, start⟩ := exists_characters_eq wellFormed
  have read := Token.read?_number start (cs ++ rest)
  have solid : isWhitespace c = false := by
    rcases start with rfl | digit
    · rfl
    · have other (space : Char) (noDigit : space.isDigit = false) : c ≠ space := by
        rintro rfl
        simp [noDigit] at digit
      simp [isWhitespace, other ' ' rfl, other '\n' rfl, other '\r' rfl, other '\t' rfl]
  rw [← List.cons_append, ← starts, readNumber?_append wellFormed stopped, starts] at read
  rw [written, starts]
  exact .token solid read (by simp) lexes

end Json

end SqlQuery
