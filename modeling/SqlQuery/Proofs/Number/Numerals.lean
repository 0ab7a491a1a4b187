import SqlQuery.Proofs.Json.Lexing
import SqlQuery.Proofs.Number.Rounding

/-! # Written numbers are numerals

Integers and decimals are written as well-formed numerals. The numeral of an integer spells that
integer; the one of a decimal is the same number, and it has a fraction or an exponent, so it is
never taken for an integer.
-/

namespace SqlQuery

namespace Numeral

theorem isDigits_toDigits (n : Nat) : IsDigits (Nat.toDigits 10 n) :=
  ⟨Nat.toDigits_ne_nil, fun _ => Nat.isDigit_of_mem_toDigits (by decide) (by decide)⟩

theorem head?_toDigits_ne {n : Nat} (positive : 0 < n) : (Nat.toDigits 10 n).head? ≠ some '0' := by
  induction n using Nat.strongRecOn with
  | ind n ih =>
    by_cases small : n < 10
    · rw [Nat.toDigits_of_lt_base small]
      have head : n.digitChar ≠ '0' := by simp; omega
      simpa using head
    · rw [Nat.toDigits_of_base_le (by decide) (by omega), List.head?_append]
      have earlier := ih (n / 10) (by omega) (by omega)
      cases head : (Nat.toDigits 10 (n / 10)).head? with
      | none => exact absurd (List.head?_eq_none_iff.mp head) Nat.toDigits_ne_nil
      | some c => simpa [head] using earlier

/-- Only zero is written with a leading zero. -/
theorem toDigits_of_leading_zero {n : Nat} (zero : (Nat.toDigits 10 n).head? = some '0') :
    Nat.toDigits 10 n = ['0'] := by
  rcases Nat.eq_zero_or_pos n with rfl | positive
  · rfl
  · exact absurd zero (head?_toDigits_ne positive)

theorem digitsValue_toDigits (n : Nat) : digitsValue (Nat.toDigits 10 n) = n := by
  have value := @Nat.ofDigitChars_ten_toDigits n
  rw [Nat.ofDigitChars_eq_foldl] at value
  rw [digitsValue]
  simpa only [digitValue, Nat.mul_comm] using value

theorem digitsValue_append (first second : List Char) :
    digitsValue (first ++ second) = digitsValue first * 10 ^ second.length + digitsValue second := by
  have step (start : Nat) : second.foldl (fun value c => value * 10 + digitValue c) start =
      start * 10 ^ second.length + digitsValue second := by
    induction second generalizing start with
    | nil => simp [digitsValue]
    | cons c rest ih =>
      rw [digitsValue, List.foldl_cons, List.foldl_cons, ih, ih, List.length_cons]
      ring
  rw [digitsValue, List.foldl_append, step]
  rfl

@[simp] theorem digitsValue_zeros (count : Nat) : digitsValue (List.replicate count '0') = 0 := by
  induction count with
  | zero => rfl
  | succ count ih => exact ih

theorem readNumber?_characters {numeral : Numeral} (wellFormed : numeral.IsWellFormed) :
    Json.readNumber? numeral.characters = some (numeral, []) := by
  simpa using @Json.readNumber?_append numeral wellFormed [] nofun

/-- Different numerals are written differently. -/
theorem characters_injective {first second : Numeral} (wellFormed : first.IsWellFormed)
    (wellFormed' : second.IsWellFormed) (same : first.characters = second.characters) :
    first = second := by
  have read := readNumber?_characters wellFormed
  rw [same, readNumber?_characters wellFormed'] at read
  exact (Prod.mk.inj (Option.some.inj read)).1.symm

/-! ## Signs -/

def withSign (numeral : Numeral) (negative : Bool) : Numeral :=
  { numeral with negative }

theorem toDecimal_withSign (numeral : Numeral) (negative : Bool) :
    (numeral.withSign negative).toDecimal = numeral.toDecimal := rfl

/-- A fraction and an exponent stay with any sign. -/
theorem toInt?_withSign {numeral : Numeral} (negative : Bool) (other : numeral.toInt? = none)
    (unsigned : numeral.negative = false) : (numeral.withSign negative).toInt? = none := by
  obtain ⟨sign, whole, fraction, exponent⟩ := numeral
  obtain rfl : sign = false := unsigned
  cases fraction with
  | some digits => rfl
  | none =>
    cases exponent with
    | some power => rfl
    | none => contradiction

/-! ## Integers -/

def ofInt (n : Int) : Numeral :=
  ⟨n < 0, Nat.toDigits 10 n.natAbs, none, none⟩

theorem isWellFormed_ofInt (n : Int) : (ofInt n).IsWellFormed where
  whole := isDigits_toDigits _
  leading := toDigits_of_leading_zero
  fraction := nofun
  exponent := nofun

theorem characters_ofInt (n : Int) : (ofInt n).characters = (toString n).toList := by
  cases n with
  | ofNat n =>
    change ([] ++ Nat.toDigits 10 n ++ [] ++ []) = n.repr.toList
    rw [Nat.toList_repr]
    simp
  | negSucc n =>
    have written : (toString (Int.negSucc n)).toList = '-' :: (n + 1).repr.toList :=
      String.toList_append
    rw [written, Nat.toList_repr, ofInt, characters]
    simp [Int.negSucc_lt_zero, fractionCharacters, exponentCharacters]

theorem toInt?_ofInt (n : Int) : (ofInt n).toInt? = some n := by
  rw [ofInt, toInt?]
  simp only [digitsValue_toDigits, decide_eq_true_eq]
  split
  · rename_i negative
    rw [if_neg (by omega), Option.some_inj]
    omega
  · rw [Option.some_inj]
    omega

/-! ## Decimals -/

/-- A text that is a numeral of a number without sign, and that has a fraction or an exponent. -/
def IsFractional (value : ℚ) (text : String) : Prop :=
  ∃ numeral : Numeral, numeral.IsWellFormed ∧ numeral.negative = false ∧
    text.toList = numeral.characters ∧ numeral.toInt? = none ∧ numeral.toDecimal.toRat = value

/-- Digits on both sides of a point. -/
theorem isFractional_point {whole fraction : List Char} (wholes : IsDigits whole)
    (leading : whole.head? = some '0' → whole = ['0']) (fractions : IsDigits fraction) :
    IsFractional (digitsValue (whole ++ fraction) * 10 ^ (-fraction.length : Int))
      (String.ofList (whole ++ '.' :: fraction)) := by
  refine ⟨⟨false, whole, some fraction, none⟩, ⟨wholes, leading, ?_, by simp⟩, rfl, ?_, rfl, ?_⟩
  · simpa using fractions
  · simp [characters, fractionCharacters, exponentCharacters]
  · simp [toDecimal, Decimal.toRat, power]

theorem isDigits_zero : IsDigits ['0'] := ⟨by simp, by simp⟩

theorem isDigits_zeros (count : Nat) : ∀ c ∈ List.replicate count '0', c.isDigit = true := by
  intro c member
  obtain rfl := List.eq_of_mem_replicate member
  rfl

/-- An integral number is written with zeros up to the point, and one after it. -/
theorem isFractional_integral {cs : List Char} (isDigits : IsDigits cs)
    (leading : cs.head? ≠ some '0') (zeros : Nat) :
    IsFractional (digitsValue cs * 10 ^ (zeros : Int))
      (String.ofList (cs ++ List.replicate zeros '0') ++ ".0") := by
  obtain ⟨given, digits⟩ := isDigits
  have whole : IsDigits (cs ++ List.replicate zeros '0') :=
    ⟨by simp [given], List.forall_mem_append.mpr ⟨digits, isDigits_zeros _⟩⟩
  have head : (cs ++ List.replicate zeros '0').head? = cs.head? := by
    cases cs with
    | nil => contradiction
    | cons c others => rfl
  have text : String.ofList (cs ++ List.replicate zeros '0') ++ ".0" =
      String.ofList (cs ++ List.replicate zeros '0' ++ '.' :: ['0']) :=
    String.ofList_append.symm
  have value : (digitsValue cs : ℚ) * 10 ^ (zeros : Int) =
      digitsValue (cs ++ List.replicate zeros '0' ++ ['0']) * 10 ^ (-['0'].length : Int) := by
    rw [digitsValue_append, digitsValue_append, digitsValue_zeros]
    simp [show digitsValue ['0'] = 0 from rfl]
  rw [text, value]
  exact isFractional_point whole (fun zero => absurd (head.symm.trans zero) leading) isDigits_zero

/-- The last digits stand after the point, with zeros before them when there are too few. -/
theorem isFractional_places {cs : List Char} (isDigits : IsDigits cs)
    (leading : cs.head? ≠ some '0') {places : Nat} (positive : 0 < places) :
    IsFractional (digitsValue cs * 10 ^ (-places : Int))
      (String.ofList ((if cs.length - places = 0 then ['0'] else cs.take (cs.length - places)) ++
        '.' :: (List.replicate (places - cs.length) '0' ++ cs.drop (cs.length - places)))) := by
  obtain ⟨given, digits⟩ := isDigits
  have length_eq : (List.replicate (places - cs.length) '0' ++
      cs.drop (cs.length - places)).length = places := by
    simp
    omega
  have fraction : IsDigits
      (List.replicate (places - cs.length) '0' ++ cs.drop (cs.length - places)) := by
    refine ⟨?_, List.forall_mem_append.mpr ⟨isDigits_zeros _, ?_⟩⟩
    · exact List.ne_nil_of_length_pos (length_eq.symm ▸ positive)
    · exact fun c member => digits c (List.mem_of_mem_drop member)
  split
  · rename_i small
    have value : digitsValue cs = digitsValue
        (['0'] ++ (List.replicate (places - cs.length) '0' ++ cs.drop (cs.length - places))) := by
      rw [small, List.drop_zero, ← List.append_assoc, digitsValue_append (_ ++ _),
        digitsValue_append, digitsValue_zeros]
      simp [show digitsValue ['0'] = 0 from rfl]
    have text := isFractional_point isDigits_zero (fun _ => rfl) fraction
    rwa [← value, length_eq] at text
  · rename_i integral
    have head : (cs.take (cs.length - places)).head? = cs.head? := by
      rw [List.head?_take, if_neg integral]
    have whole : IsDigits (cs.take (cs.length - places)) := by
      refine ⟨?_, fun c member => digits c (List.mem_of_mem_take member)⟩
      rw [Ne, List.take_eq_nil_iff]
      exact not_or.mpr ⟨integral, given⟩
    have value : cs.take (cs.length - places) ++
        (List.replicate (places - cs.length) '0' ++ cs.drop (cs.length - places)) = cs := by
      rw [(by omega : places - cs.length = 0), List.replicate_zero, List.nil_append,
        List.take_append_drop]
    have text := isFractional_point whole (fun zero => absurd (head.symm.trans zero) leading)
      fraction
    rwa [value, length_eq] at text

theorem isFractional_positionalText {cs : List Char} (isDigits : IsDigits cs)
    (leading : cs.head? ≠ some '0') (exponent : Int) :
    IsFractional (digitsValue cs * 10 ^ exponent) (Layout.positionalText ".0" cs exponent) := by
  rw [Layout.positionalText]
  split
  · rename_i up
    obtain ⟨power, rfl⟩ := Int.eq_ofNat_of_zero_le up
    exact isFractional_integral isDigits leading power
  · rename_i down
    obtain ⟨places, same⟩ := Int.eq_ofNat_of_zero_le (by omega : 0 ≤ -exponent)
    obtain rfl : exponent = -(places : Int) := by omega
    rw [neg_neg, Int.toNat_natCast]
    exact isFractional_places isDigits leading (by omega)

theorem isFractional_exponentText {cs : List Char} (isDigits : IsDigits cs)
    (leading : cs.head? ≠ some '0') (exponent : Int) :
    IsFractional (digitsValue cs * 10 ^ (exponent - (cs.length - 1 : Nat)))
      (Layout.exponentText cs exponent) := by
  obtain ⟨given, digits⟩ := isDigits
  cases cs with
  | nil => contradiction
  | cons c others =>
    have first : IsDigits [c] := ⟨by simp, by simpa using digits c (List.mem_cons_self ..)⟩
    have exponents := isDigits_toDigits exponent.natAbs
    have rest : ∀ c ∈ others, c.isDigit = true :=
      fun c member => digits c (List.mem_cons_of_mem _ member)
    have lead : [c].head? = some '0' → [c] = ['0'] := fun zero => absurd zero leading
    rw [Layout.exponentText]
    have sign : (if exponent < 0 then "-" else "+").toList =
        [if (decide (exponent < 0)) = true then '-' else '+'] := by
      by_cases negative : exponent < 0 <;> simp [negative]
    have scale (whole : List Char) (fraction : Option (List Char)) :
        power ⟨false, whole, fraction, some (exponent < 0, Nat.toDigits 10 exponent.natAbs)⟩ =
          exponent := by
      simp only [power, digitsValue_toDigits, decide_eq_true_eq]
      split <;> omega
    cases others with
    | nil =>
      refine ⟨⟨false, [c], none, some (exponent < 0, Nat.toDigits 10 exponent.natAbs)⟩,
        ⟨first, lead, nofun, ?_⟩, rfl, ?_, rfl, ?_⟩
      · simpa using exponents
      · simp [characters, fractionCharacters, exponentCharacters, sign]
      · rw [toDecimal, scale]
        rfl
    | cons d later =>
      refine ⟨⟨false, [c], some (d :: later), some (exponent < 0, Nat.toDigits 10 exponent.natAbs)⟩,
        ⟨first, lead, ?_, ?_⟩, rfl, ?_, rfl, ?_⟩
      · simpa [IsDigits] using rest
      · simpa using exponents
      · simp [characters, fractionCharacters, exponentCharacters, sign]
      · rw [toDecimal, scale]
        rfl

/-- The text of a decimal is a numeral of the same number. -/
theorem isFractional_decimalText {decimal : Decimal} (positive : 0 < decimal.digits) :
    IsFractional decimal.toRat (Layout.json.decimalText decimal) := by
  have digits := isDigits_toDigits decimal.digits
  have leading := head?_toDigits_ne positive
  have positional := isFractional_positionalText digits leading decimal.exponent
  have scientific := isFractional_exponentText digits leading
    (decimal.exponent + ((Nat.toDigits 10 decimal.digits).length - 1 : Nat))
  rw [digitsValue_toDigits] at positional scientific
  rw [add_sub_cancel_right] at scientific
  have either (spelled : Bool) : IsFractional decimal.toRat
      (if spelled then Layout.positionalText ".0" (Nat.toDigits 10 decimal.digits) decimal.exponent
      else Layout.exponentText (Nat.toDigits 10 decimal.digits)
        (decimal.exponent + ((Nat.toDigits 10 decimal.digits).length - 1 : Nat))) := by
    cases spelled with
    | true => exact positional
    | false => exact scientific
  exact either _

theorem isFractional_zero : IsFractional 0 ("0" ++ Layout.json.integralMark) := by
  have text := isFractional_point isDigits_zero (fun _ => rfl) isDigits_zero
  rwa [show digitsValue (['0'] ++ ['0']) = 0 from rfl, Nat.cast_zero, zero_mul] at text

end Numeral

end SqlQuery
