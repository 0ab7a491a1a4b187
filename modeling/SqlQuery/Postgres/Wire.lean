import SqlQuery.Value

/-! # PostgreSQL's binary formats

Values are sent in the format of the declared parameter type where that matters, and read back by
the type of their column. Integers are big-endian in two's complement, floats are their words,
texts are UTF-8. A cell that does not have the form of its type reads as null.
-/

namespace SqlQuery.Postgres

inductive ColumnType
  | bool
  | int2
  | int4
  | int8
  | float4
  | float8
  | text
  | varchar
  | bpchar
  | name
  | unknown
  | other (name : String)
  deriving DecidableEq, Repr

def ColumnType.ofName : String → ColumnType
  | "bool" => bool
  | "int2" => int2
  | "int4" => int4
  | "int8" => int8
  | "float4" => float4
  | "float8" => float8
  | "text" => text
  | "varchar" => varchar
  | "bpchar" => bpchar
  | "name" => name
  | "unknown" => unknown
  | otherName => other otherName

/-- A datum as it is sent; none is null. -/
abbrev Datum := Option (List UInt8)

/-- How many values so many bytes can take. -/
def capacity (width : Nat) : Nat :=
  Nat.pow 256 width

@[simp] theorem capacity_zero : capacity 0 = 1 := rfl

theorem capacity_succ (width : Nat) : capacity (width + 1) = capacity width * 256 := rfl

/-- The low `width` bytes of a number, the most significant first. -/
def bigEndian : Nat → Nat → List UInt8
  | 0, _ => []
  | width + 1, n => UInt8.ofNat (n / capacity width) :: bigEndian width n

/-- The number that bytes spell, the most significant first. -/
def ofBigEndian (bytes : List UInt8) : Nat :=
  bytes.foldl (fun n byte => n * 256 + byte.toNat) 0

@[simp] theorem length_bigEndian (width n : Nat) : (bigEndian width n).length = width := by
  induction width with
  | zero => rfl
  | succ width ih => simp [bigEndian, ih]

/-- The bytes of a number spell it, as far as they are wide enough for it. -/
theorem ofBigEndian_bigEndian (width n : Nat) :
    ofBigEndian (bigEndian width n) = n % capacity width := by
  have shifted (start : Nat) : (bigEndian width n).foldl (fun n byte => n * 256 + byte.toNat) start =
      start * capacity width + n % capacity width := by
    induction width generalizing start with
    | zero => simp [bigEndian, Nat.mod_one]
    | succ width ih =>
      have byte : (UInt8.ofNat (n / capacity width)).toNat = n / capacity width % 256 := by simp
      rw [bigEndian, List.foldl_cons, ih, byte, capacity_succ, Nat.mod_mul, Nat.add_mul,
        Nat.mul_assoc, Nat.mul_comm 256, Nat.mul_comm (n / capacity width % 256)]
      omega
  simpa [ofBigEndian] using shifted 0

/-- An integer in two's complement. -/
def integerBytes (width : Nat) (n : Int) : List UInt8 :=
  bigEndian width (n % capacity width).toNat

/-- The integer that bytes in two's complement spell. -/
def ofIntegerBytes (bytes : List UInt8) : Int :=
  let n := ofBigEndian bytes
  if 2 * n < capacity bytes.length then n else (n : Int) - capacity bytes.length

def textBytes (text : String) : List UInt8 :=
  text.toUTF8.data.toList

def ofTextBytes? (bytes : List UInt8) : Option String :=
  String.fromUTF8? ⟨bytes.toArray⟩

/-- Why a value cannot be sent. -/
inductive WireError
  | tooLarge
  | tooSmall
  deriving DecidableEq, Repr

def WireError.message : WireError → String
  | tooLarge => "number too large to fit in target type"
  | tooSmall => "number too small to fit in target type"

/-- An integer in so many bytes, if it fits. -/
def narrow (width : Nat) (n : Int) : Except WireError Datum :=
  let bound : Int := capacity width / 2
  if n < -bound then .error .tooSmall
  else if bound ≤ n then .error .tooLarge
  else .ok (some (integerBytes width n))

/-- A value as a parameter of a type. -/
def encode (value : Value) (type : ColumnType) : Except WireError Datum :=
  match value, type with
  | .null, _ => .ok none
  | .bool value, _ => .ok (some [if value then 1 else 0])
  | .int n, .int2 => narrow 2 n.toInt
  | .int n, .int4 => narrow 4 n.toInt
  | .int n, .float4 => .ok (some (bigEndian 4 (Binary64.singleWordOfInt n.toInt)))
  | .int n, .float8 => .ok (some (bigEndian 8 (Binary64.ofInt n.toInt).word.toNat))
  | .int n, .text => .ok (some (textBytes (toString n.toInt)))
  | .int n, .varchar => .ok (some (textBytes (toString n.toInt)))
  | .int n, _ => .ok (some (integerBytes 8 n.toInt))
  | .float x, .float4 => .ok (some (bigEndian 4 x.toSingleWord))
  | .float x, _ => .ok (some (bigEndian 8 x.word.toNat))
  | .text text, _ => .ok (some (textBytes text))

/-- An integer cell of so many bytes. -/
def decodeInteger (width : Nat) (bytes : List UInt8) : Value :=
  if bytes.length = width then .int (Int64.ofInt (ofIntegerBytes bytes)) else .null

def decodeText (bytes : List UInt8) : Value :=
  match ofTextBytes? bytes with
  | some text => .text text
  | none => .null

/-- The value of a cell. -/
def decode (type : ColumnType) : Datum → Value
  | none => .null
  | some bytes =>
    match type with
    | .bool =>
      match bytes with
      | [byte] => .bool (byte ≠ 0)
      | _ => .null
    | .int2 => decodeInteger 2 bytes
    | .int4 => decodeInteger 4 bytes
    | .int8 => decodeInteger 8 bytes
    | .float4 =>
      if bytes.length = 4 then .float (Binary64.ofSingleWord (ofBigEndian bytes)) else .null
    | .float8 =>
      if bytes.length = 8 then .float ⟨UInt64.ofNat (ofBigEndian bytes)⟩ else .null
    | .text | .varchar | .bpchar | .name | .unknown => decodeText bytes
    | .other _ => .null

end SqlQuery.Postgres
