import SqlQuery.Postgres.Wire
import SqlQuery.Proofs.Number.Rounding

/-! # Bound values as a server receives them

A server takes the bytes of a parameter for a datum of the declared type, or refuses them. A value
whose bytes are written in the format of the type arrives as itself. The other values are sent in
their own format, whatever the type is: mostly the server refuses them, but bytes that happen to be
a representation of the type arrive as a different datum.
-/

namespace SqlQuery.Postgres

/-! ## Bytes read back -/

theorem ofIntegerBytes_integerBytes {width : Nat} {n : Int} (low : -(capacity width : Int) ≤ 2 * n)
    (high : 2 * n < capacity width) : ofIntegerBytes (integerBytes width n) = n := by
  have nonneg : 0 ≤ n % capacity width := Int.emod_nonneg _ (by omega)
  have below : n % capacity width < capacity width := Int.emod_lt_of_pos _ (by omega)
  have spelled : ofBigEndian (integerBytes width n) = (n % capacity width).toNat := by
    rw [integerBytes, ofBigEndian_bigEndian, Nat.mod_eq_of_lt (by omega)]
  have length : (integerBytes width n).length = width := length_bigEndian ..
  rw [ofIntegerBytes, spelled, length]
  by_cases negative : n < 0
  · have wrapped : n % capacity width = n + capacity width := by
      rw [← Int.add_emod_right, Int.emod_eq_of_lt (by omega) (by omega)]
    rw [wrapped, if_neg (by omega)]
    omega
  · have same : n % capacity width = n := Int.emod_eq_of_lt (by omega) (by omega)
    rw [same, if_pos (by omega)]
    omega

theorem ofBigEndian_word (x : Binary64) :
    ofBigEndian (bigEndian 8 x.word.toNat) = x.word.toNat := by
  rw [ofBigEndian_bigEndian]
  exact Nat.mod_eq_of_lt x.word.toNat_lt

@[simp] theorem ofTextBytes?_textBytes (text : String) :
    ofTextBytes? (textBytes text) = some text := by
  rw [ofTextBytes?, textBytes, Array.toArray_toList, String.fromUTF8?]
  exact dif_pos text.isValidUTF8

@[simp] theorem length_textBytes (text : String) : (textBytes text).length = text.utf8ByteSize :=
  Array.length_toList

/-! ## What a server receives -/

/-- The types of parameters that values are sent for. -/
def boundTypes : List ColumnType := [.bool, .int2, .int4, .int8, .float8, .text, .varchar]

/-- The number of bytes in a datum of a type, if all have the same. -/
def ColumnType.width? : ColumnType → Option Nat
  | .bool => some 1
  | .int2 => some 2
  | .int4 => some 4
  | .int8 | .float8 => some 8
  | _ => none

/-- The integer types with the number of bytes in their data. -/
def integerTypes : List (ColumnType × Nat) := [(.int2, 2), (.int4, 4), (.int8, 8)]

/-- The integer that a server takes bytes for. -/
def receivedInteger? (width : Nat) (bytes : List UInt8) : Option Value :=
  if bytes.length = width then some (.int (Int64.ofInt (ofIntegerBytes bytes))) else none

/-- The datum that a server takes bytes for; it refuses those that are none of the type. Plain UTF-8 is
the format assumed for texts, so a zero byte counts as data. -/
def received? (type : ColumnType) (bytes : List UInt8) : Option Value :=
  match type with
  | .bool =>
    match bytes with
    | [byte] => some (.bool (byte ≠ 0))
    | _ => none
  | .int2 => receivedInteger? 2 bytes
  | .int4 => receivedInteger? 4 bytes
  | .int8 => receivedInteger? 8 bytes
  | .float8 =>
    if bytes.length = 8 then some (.float ⟨UInt64.ofNat (ofBigEndian bytes)⟩) else none
  | .text | .varchar => (ofTextBytes? bytes).map .text
  | _ => none

/-- Cells are read in the formats that parameters are received in. -/
theorem decode_eq_received? {type : ColumnType} (bindable : type ∈ boundTypes)
    (bytes : List UInt8) : decode type (some bytes) = (received? type bytes).getD .null := by
  cases type with
  | bool =>
    match bytes with
    | [byte] => rfl
    | [] | _ :: _ :: _ => rfl
  | int2 | int4 | int8 =>
    rw [decode, decodeInteger, received?, receivedInteger?]
    split <;> rfl
  | float8 =>
    rw [decode, received?]
    split <;> rfl
  | text | varchar =>
    rw [decode, decodeText, received?]
    cases ofTextBytes? bytes <;> rfl
  | float4 | bpchar | name | unknown | other => simp [boundTypes] at bindable

theorem received?_eq_none_of_length {type : ColumnType} {width : Nat} {bytes : List UInt8}
    (fixed : type.width? = some width) (other : bytes.length ≠ width) :
    received? type bytes = none := by
  cases type with
  | bool =>
    obtain rfl := Option.some.inj fixed
    match bytes with
    | [] | _ :: _ :: _ => rfl
    | [_] => contradiction
  | int2 | int4 | int8 | float8 =>
    obtain rfl := Option.some.inj fixed
    exact if_neg other
  | float4 | text | varchar | bpchar | name | unknown | other => contradiction

theorem received?_bool (value : Bool) :
    received? .bool [if value then 1 else 0] = some (.bool value) := by
  cases value <;> rfl

theorem received?_integer {type : ColumnType} {width : Nat} {bytes : List UInt8}
    (integer : (type, width) ∈ integerTypes) (length : bytes.length = width) :
    received? type bytes = some (.int (Int64.ofInt (ofIntegerBytes bytes))) := by
  simp only [integerTypes, List.mem_cons, Prod.mk.injEq, List.not_mem_nil, or_false] at integer
  rcases integer with ⟨rfl, rfl⟩ | ⟨rfl, rfl⟩ | ⟨rfl, rfl⟩ <;> exact if_pos length

theorem received?_float8 (x : Binary64) :
    received? .float8 (bigEndian 8 x.word.toNat) = some (.float x) := by
  rw [received?, if_pos (length_bigEndian ..), ofBigEndian_word, UInt64.ofNat_toNat]

theorem received?_text {type : ColumnType} (texts : type = .text ∨ type = .varchar)
    (bytes : List UInt8) : received? type bytes = (ofTextBytes? bytes).map .text := by
  rcases texts with rfl | rfl <;> rfl

/-- A datum is the value's own: it is the value, the same number, or the digits of the integer. -/
def Keeps : Value → Value → Prop
  | .int n, .float x => x.toInt? = some n.toInt
  | .float x, .int n => x.toInt? = some n.toInt
  | .int n, .text digits => digits = toString n.toInt
  | value, datum => datum = value

theorem Keeps.self (value : Value) : Keeps value value := by
  cases value <;> rfl

/-- Whatever a server receives of a value in a type is the value's own. -/
def Faithful (value : Value) (type : ColumnType) : Prop :=
  ∀ bytes datum, encode value type = .ok (some bytes) → received? type bytes = some datum →
    Keeps value datum

/-- The values that a server takes for others. -/
def Misread : Value → ColumnType → Prop
  | .bool _, .text | .bool _, .varchar => True
  | .int n, .float8 => ∀ x : Binary64, x.toInt? ≠ some n.toInt
  | .float x, .int8 => x ≠ .zero
  | .float x, .text | .float x, .varchar => (ofTextBytes? (bigEndian 8 x.word.toNat)).isSome
  | .text text, type => type.width? = some text.utf8ByteSize
  | _, _ => False

/-- The values that a type has. -/
def Fits : Value → ColumnType → Prop
  | .bool _, .bool => True
  | .int n, .int2 => -2 ^ 15 ≤ n.toInt ∧ n.toInt < 2 ^ 15
  | .int n, .int4 => -2 ^ 31 ≤ n.toInt ∧ n.toInt < 2 ^ 31
  | .int _, .int8 | .int _, .text | .int _, .varchar => True
  | .int n, .float8 => ∃ x : Binary64, x.toInt? = some n.toInt
  | .float _, .float8 => True
  | .text _, .text | .text _, .varchar => True
  | _, _ => False

section

variable {value : Value} {type : ColumnType} {bytes : List UInt8} {datum : Value}

theorem faithful_iff_of_received (encoded : encode value type = .ok (some bytes))
    (received : received? type bytes = some datum) : Faithful value type ↔ Keeps value datum := by
  constructor
  · exact fun faithful => faithful bytes datum encoded received
  · intro keeps bytes' datum' encoded' received'
    cases encoded.symm.trans encoded'
    cases received.symm.trans received'
    exact keeps

theorem faithful_of_refused (encoded : encode value type = .ok (some bytes))
    (refused : received? type bytes = none) : Faithful value type := by
  intro bytes' datum encoded' received
  cases encoded.symm.trans encoded'
  cases refused.symm.trans received

theorem faithful_of_error {cause : WireError} (rejected : encode value type = .error cause) :
    Faithful value type := by
  intro bytes datum encoded
  cases rejected.symm.trans encoded

end

/-! ## Bytes of values -/

theorem narrow_of_fits {width : Nat} {n : Int} (low : -(capacity width / 2 : Int) ≤ n)
    (high : n < capacity width / 2) : narrow width n = .ok (some (integerBytes width n)) := by
  rw [narrow, if_neg (by omega), if_neg (by omega)]

theorem narrow_of_not_fits {width : Nat} {n : Int}
    (beyond : ¬ (-(capacity width / 2 : Int) ≤ n ∧ n < capacity width / 2)) :
    ∃ cause, narrow width n = .error cause := by
  rw [narrow]
  split
  · exact ⟨_, rfl⟩
  · exact ⟨_, if_pos (by omega)⟩

/-- An integer in the bytes of an integer type is received as itself. -/
theorem received?_integerBytes {type : ColumnType} {width : Nat}
    (integer : (type, width) ∈ integerTypes) {n : Int64}
    (low : -(capacity width : Int) ≤ 2 * n.toInt) (high : 2 * n.toInt < capacity width) :
    received? type (integerBytes width n.toInt) = some (.int n) := by
  have length : (integerBytes width n.toInt).length = width := length_bigEndian ..
  rw [received?_integer integer length, ofIntegerBytes_integerBytes low high, Int64.ofInt_toInt]

theorem received?_textBytes {type : ColumnType} (texts : type = .text ∨ type = .varchar)
    (text : String) : received? type (textBytes text) = some (.text text) := by
  rw [received?_text texts, ofTextBytes?_textBytes, Option.map_some]

/-- The bits of a double as an integer. -/
theorem ofIntegerBytes_word (x : Binary64) :
    ofIntegerBytes (bigEndian 8 x.word.toNat) = x.wordInt := by
  have word := x.word.toNat_lt
  rw [ofIntegerBytes, ofBigEndian_word, length_bigEndian, show capacity 8 = 2 ^ 64 from rfl,
    Binary64.wordInt, Binary64.isNegative, Binary64.magnitude,
    show BinaryFormat.double.signBit = 2 ^ 63 from rfl]
  simp only [decide_eq_true_eq]
  split <;> split <;> omega

theorem received?_int8_word (x : Binary64) :
    ∃ n : Int64, received? .int8 (bigEndian 8 x.word.toNat) = some (.int n) ∧
      n.toInt = x.wordInt := by
  refine ⟨Int64.ofInt x.wordInt, ?_, ?_⟩
  · rw [received?_integer (by decide : (_, 8) ∈ integerTypes) (length_bigEndian ..),
      ofIntegerBytes_word]
  · have bounded := x.magnitude_lt
    apply Int64.toInt_ofInt_of_le <;> rw [Binary64.wordInt] <;> split <;> omega

theorem toInt?_eq_wordInt_iff (x : Binary64) : x.toInt? = some x.wordInt ↔ x = .zero := by
  constructor
  · intro same
    obtain ⟨magnitude, sign⟩ := Binary64.magnitude_eq_zero_of_toInt?_eq_wordInt same
    simp only [Binary64.isNegative, Binary64.magnitude, decide_eq_false_iff_not,
      show BinaryFormat.double.signBit = 2 ^ 63 from rfl] at magnitude sign
    have word : x.word = 0 := UInt64.toNat_inj.mp (by simp; omega)
    cases x
    cases word
    rfl
  · rintro rfl
    exact Binary64.toInt?_eq_some_iff.mpr ⟨0, -1074, by decide, 0,
      by rw [Nat.zero_mul, Nat.zero_mul], by decide⟩

/-! ## What each kind of value arrives as -/

theorem faithful_null (type : ColumnType) : Faithful .null type := by
  intro bytes datum encoded
  cases encoded

theorem faithful_bool_iff (value : Bool) {type : ColumnType} (bindable : type ∈ boundTypes) :
    Faithful (.bool value) type ↔ ¬ Misread (.bool value) type := by
  have own : Faithful (.bool value) .bool :=
    (faithful_iff_of_received rfl (received?_bool value)).mpr (.self _)
  have refused (width : Nat) (fixed : type.width? = some width) (wide : 1 ≠ width) :
      Faithful (.bool value) type :=
    faithful_of_refused rfl (received?_eq_none_of_length fixed wide)
  -- The byte of a boolean is a character.
  have misread (texts : type = .text ∨ type = .varchar) : ¬ Faithful (.bool value) type := by
    have received := received?_textBytes texts (if value then "\u0001" else "\u0000")
    have bytes : textBytes (if value then "\u0001" else "\u0000") = [if value then 1 else 0] := by
      cases value <;> decide
    rw [bytes] at received
    rw [faithful_iff_of_received rfl received]
    exact fun keeps => Value.noConfusion keeps
  cases type with
  | bool => simpa [Misread] using own
  | int2 => simpa [Misread] using refused 2 rfl (by decide)
  | int4 => simpa [Misread] using refused 4 rfl (by decide)
  | int8 | float8 => simpa [Misread] using refused 8 rfl (by decide)
  | text => simpa [Misread] using misread (.inl rfl)
  | varchar => simpa [Misread] using misread (.inr rfl)
  | _ => simp [boundTypes] at bindable

/-- An integer of a narrower type is sent only if the type has it. -/
theorem faithful_of_narrow {n : Int64} {type : ColumnType} {width : Nat}
    (integer : (type, width) ∈ integerTypes)
    (encoded : encode (.int n) type = narrow width n.toInt) : Faithful (.int n) type := by
  by_cases fits : -(capacity width / 2 : Int) ≤ n.toInt ∧ n.toInt < capacity width / 2
  · have received := received?_integerBytes integer (n := n) (by omega) (by omega)
    rw [narrow_of_fits fits.1 fits.2] at encoded
    exact (faithful_iff_of_received encoded received).mpr (.self _)
  · obtain ⟨cause, rejected⟩ := narrow_of_not_fits fits
    exact faithful_of_error (encoded.trans rejected)

/-- The double that an integer is sent as is the integer, unless no double is. -/
theorem toInt?_ofInt_int64_iff (n : Int64) :
    (Binary64.ofInt n.toInt).toInt? = some n.toInt ↔ ∃ x : Binary64, x.toInt? = some n.toInt := by
  constructor
  · exact fun exact => ⟨_, exact⟩
  · rintro ⟨x, exact⟩
    exact Binary64.toInt?_ofInt exact

theorem faithful_int_iff (n : Int64) {type : ColumnType} (bindable : type ∈ boundTypes) :
    Faithful (.int n) type ↔ ¬ Misread (.int n) type := by
  have low := n.le_toInt
  have high := n.toInt_lt
  have digits (texts : type = .text ∨ type = .varchar)
      (encoded : encode (.int n) type = .ok (some (textBytes (toString n.toInt)))) :
      Faithful (.int n) type :=
    (faithful_iff_of_received encoded (received?_textBytes texts _)).mpr (.refl (toString n.toInt))
  cases type with
  | bool =>
    have refused : received? .bool (integerBytes 8 n.toInt) = none :=
      received?_eq_none_of_length rfl (by simp [integerBytes])
    simpa [Misread] using faithful_of_refused rfl refused
  | int2 => simpa [Misread] using faithful_of_narrow (by decide : (_, 2) ∈ integerTypes) rfl
  | int4 => simpa [Misread] using faithful_of_narrow (by decide : (_, 4) ∈ integerTypes) rfl
  | int8 =>
    have received : received? .int8 (integerBytes 8 n.toInt) = some (.int n) :=
      received?_integerBytes (by decide) (by change -(2 ^ 64 : Int) ≤ _; omega)
        (by change _ < (2 ^ 64 : Int); omega)
    simpa [Misread] using (faithful_iff_of_received rfl received).mpr (.self _)
  | float8 =>
    rw [faithful_iff_of_received rfl (received?_float8 (.ofInt n.toInt))]
    simpa [Keeps, Misread] using toInt?_ofInt_int64_iff n
  | text => simpa [Misread] using digits (.inl rfl) rfl
  | varchar => simpa [Misread] using digits (.inr rfl) rfl
  | _ => simp [boundTypes] at bindable

theorem faithful_float_iff (x : Binary64) {type : ColumnType} (bindable : type ∈ boundTypes) :
    Faithful (.float x) type ↔ ¬ Misread (.float x) type := by
  have refused (width : Nat) (fixed : type.width? = some width) (wide : 8 ≠ width)
      (encoded : encode (.float x) type = .ok (some (bigEndian 8 x.word.toNat))) :
      Faithful (.float x) type := by
    refine faithful_of_refused encoded (received?_eq_none_of_length fixed ?_)
    rwa [length_bigEndian]
  -- Words that are UTF-8 arrive as texts.
  have read (texts : type = .text ∨ type = .varchar)
      (encoded : encode (.float x) type = .ok (some (bigEndian 8 x.word.toNat))) :
      Faithful (.float x) type ↔ ¬ (ofTextBytes? (bigEndian 8 x.word.toNat)).isSome := by
    have received := received?_text texts (bigEndian 8 x.word.toNat)
    cases spelled : ofTextBytes? (bigEndian 8 x.word.toNat) with
    | none =>
      rw [spelled] at received
      simpa using faithful_of_refused encoded received
    | some text =>
      rw [spelled] at received
      rw [faithful_iff_of_received encoded received]
      simp [Keeps]
  cases type with
  | bool => simpa [Misread] using refused 1 rfl (by decide) rfl
  | int2 => simpa [Misread] using refused 2 rfl (by decide) rfl
  | int4 => simpa [Misread] using refused 4 rfl (by decide) rfl
  | int8 =>
    obtain ⟨n, received, spelled⟩ := received?_int8_word x
    rw [faithful_iff_of_received rfl received]
    simp [Keeps, Misread, spelled, toInt?_eq_wordInt_iff]
  | float8 =>
    simpa [Misread] using
      (faithful_iff_of_received rfl (received?_float8 x)).mpr (.self _)
  | text => exact read (.inl rfl) rfl
  | varchar => exact read (.inr rfl) rfl
  | _ => simp [boundTypes] at bindable

/-- Bytes of the width of a type are a datum of it, and no text. -/
theorem exists_received?_of_length {type : ColumnType} {bytes : List UInt8}
    (fixed : type.width? = some bytes.length) :
    ∃ datum, received? type bytes = some datum ∧ ∀ text, datum ≠ .text text := by
  cases type with
  | bool =>
    match bytes with
    | [byte] => exact ⟨.bool (byte ≠ 0), rfl, nofun⟩
    | [] | _ :: _ :: _ => simp [ColumnType.width?] at fixed
  | int2 | int4 | int8 =>
    have length := (Option.some.inj fixed).symm
    exact ⟨_, received?_integer (by decide) length, nofun⟩
  | float8 =>
    have length := (Option.some.inj fixed).symm
    exact ⟨.float ⟨UInt64.ofNat (ofBigEndian bytes)⟩, if_pos length, nofun⟩
  | float4 | text | varchar | bpchar | name | unknown | other => contradiction

theorem faithful_text_iff (text : String) {type : ColumnType} (bindable : type ∈ boundTypes) :
    Faithful (.text text) type ↔ ¬ Misread (.text text) type := by
  have own (texts : type = .text ∨ type = .varchar) : Faithful (.text text) type :=
    (faithful_iff_of_received rfl (received?_textBytes texts text)).mpr (.self _)
  have measured (width : Nat) (fixed : type.width? = some width) :
      Faithful (.text text) type ↔ ¬ width = text.utf8ByteSize := by
    by_cases length : width = text.utf8ByteSize
    · have fits : type.width? = some (textBytes text).length := by
        rw [fixed, length, length_textBytes]
      obtain ⟨datum, received, other⟩ := exists_received?_of_length fits
      rw [faithful_iff_of_received rfl received]
      simpa [Keeps, length] using other text
    · have refused : received? type (textBytes text) = none :=
        received?_eq_none_of_length fixed (by rw [length_textBytes]; exact Ne.symm length)
      simpa [length] using faithful_of_refused rfl refused
  cases type with
  | bool => simpa [Misread, ColumnType.width?] using measured 1 rfl
  | int2 => simpa [Misread, ColumnType.width?] using measured 2 rfl
  | int4 => simpa [Misread, ColumnType.width?] using measured 4 rfl
  | int8 | float8 => simpa [Misread, ColumnType.width?] using measured 8 rfl
  | text => simpa [Misread, ColumnType.width?] using own (.inl rfl)
  | varchar => simpa [Misread, ColumnType.width?] using own (.inr rfl)
  | _ => simp [boundTypes] at bindable

/-! ## All values -/

/-- A value that the type has is received. -/
theorem exists_received?_of_fits {value : Value} {type : ColumnType} (fits : Fits value type) :
    ∃ bytes datum, encode value type = .ok (some bytes) ∧ received? type bytes = some datum := by
  cases value with
  | null => cases type <;> contradiction
  | bool value =>
    cases type with
    | bool => exact ⟨_, _, rfl, received?_bool value⟩
    | _ => contradiction
  | int n =>
    have narrowed {type : ColumnType} {width : Nat} (integer : (type, width) ∈ integerTypes)
        (encoded : encode (.int n) type = narrow width n.toInt)
        (low : -(capacity width / 2 : Int) ≤ n.toInt) (high : n.toInt < capacity width / 2) :
        ∃ bytes datum, encode (.int n) type = .ok (some bytes) ∧
          received? type bytes = some datum :=
      ⟨_, _, encoded.trans (narrow_of_fits low high),
        received?_integerBytes integer (by omega) (by omega)⟩
    cases type with
    | int2 => exact narrowed (by decide : (_, 2) ∈ integerTypes) rfl fits.1 fits.2
    | int4 => exact narrowed (by decide : (_, 4) ∈ integerTypes) rfl fits.1 fits.2
    | int8 => exact ⟨_, _, rfl, received?_integer (by decide) (length_bigEndian ..)⟩
    | float8 => exact ⟨_, _, rfl, received?_float8 _⟩
    | text => exact ⟨_, _, rfl, received?_textBytes (.inl rfl) _⟩
    | varchar => exact ⟨_, _, rfl, received?_textBytes (.inr rfl) _⟩
    | _ => contradiction
  | float x =>
    cases type with
    | float8 => exact ⟨_, _, rfl, received?_float8 x⟩
    | _ => contradiction
  | text text =>
    cases type with
    | text => exact ⟨_, _, rfl, received?_textBytes (.inl rfl) text⟩
    | varchar => exact ⟨_, _, rfl, received?_textBytes (.inr rfl) text⟩
    | _ => contradiction

theorem not_misread_of_fits {value : Value} {type : ColumnType} (fits : Fits value type) :
    ¬ Misread value type := by
  cases value <;> cases type <;> simp_all [Fits, Misread, ColumnType.width?]

theorem narrow_ne_null (width : Nat) (n : Int) : narrow width n ≠ .ok none := by
  rw [narrow]
  split
  · nofun
  · split <;> nofun

theorem encode_eq_null_iff {value : Value} {type : ColumnType} :
    encode value type = .ok none ↔ value = .null := by
  constructor
  · intro encoded
    cases value with
    | null => rfl
    | bool | float | text => cases type <;> simp [encode] at encoded
    | int n =>
      cases type with
      | int2 => exact absurd encoded (narrow_ne_null 2 _)
      | int4 => exact absurd encoded (narrow_ne_null 4 _)
      | _ => simp [encode] at encoded
  · rintro rfl
    rfl

/-- A null is sent for nulls alone. Whatever the server receives of another value is the value's
own, up to the pairs of a value and a type that are misread, and what the type has is received. -/
theorem received_of_encode (value : Value) {type : ColumnType} (bindable : type ∈ boundTypes) :
    (encode value type = .ok none ↔ value = .null) ∧
      (Faithful value type ↔ ¬ Misread value type) ∧
      (Fits value type → ∃ bytes datum, encode value type = .ok (some bytes) ∧
        received? type bytes = some datum ∧ Keeps value datum) := by
  have faithful : Faithful value type ↔ ¬ Misread value type := by
    cases value with
    | null => simpa [Misread] using faithful_null type
    | bool value => exact faithful_bool_iff value bindable
    | int n => exact faithful_int_iff n bindable
    | float x => exact faithful_float_iff x bindable
    | text text => exact faithful_text_iff text bindable
  refine ⟨encode_eq_null_iff, faithful, fun fits => ?_⟩
  obtain ⟨bytes, datum, encoded, received⟩ := exists_received?_of_fits fits
  exact ⟨bytes, datum, encoded, received,
    faithful.mpr (not_misread_of_fits fits) bytes datum encoded received⟩

/-- The double one as a parameter of an eight-byte integer. -/
theorem received_of_encode_one_as_int8 :
    ColumnType.int8 ∈ boundTypes ∧ ¬ Faithful (.float ⟨0x3FF0000000000000⟩) .int8 := by
  refine ⟨by decide, ?_⟩
  rw [(received_of_encode _ (by decide)).2.1]
  exact not_not.mpr (by decide : (⟨0x3FF0000000000000⟩ : Binary64) ≠ .zero)

/-- One arrives as the integer that has its bits. -/
theorem one_as_int8_misread :
    ∃ bytes, encode (.float ⟨0x3FF0000000000000⟩) .int8 = .ok (some bytes) ∧
      received? .int8 bytes = some (.int 4607182418800017408) ∧
      ¬ Keeps (.float ⟨0x3FF0000000000000⟩) (.int 4607182418800017408) :=
  ⟨_, rfl, by decide +kernel, by rw [Keeps]; decide +kernel⟩

end SqlQuery.Postgres
