import SqlQuery.Json.Reader
import SqlQuery.Json.Printer
import SqlQuery.Data.Dictionary

/-! # Records in JSON

A record is written as an object, whose unknown members are passed over, even unreadable ones, or as
an array of its fields in the declared order. A field given twice is an error; one left out takes its
default, if it has one. A tagged record names its kind in the member `kind`, or in the first item; it
is taken in whole before its kind is known, so no part of it may be unreadable.
-/

namespace SqlQuery.Json

/-- The content of a record: fields by position or by name. -/
inductive Record (α : Type)
  | listed (items : List α)
  | named (members : List (String × α))

namespace Record

variable {α β : Type}

/-- The members with a name. -/
def withName (name : String) (members : List (String × α)) : List (String × α) :=
  members.filter fun member => member.1 = name

/-- A field that must be given. -/
def required (record : Record α) (index : Nat) (name : String) (decode : α → Option β) : Option β :=
  match record with
  | listed items => items[index]?.bind decode
  | named members =>
    match withName name members with
    | [(_, value)] => decode value
    | _ => none

/-- A field with a default. -/
def optional (record : Record α) (index : Nat) (name : String) (default : β)
    (decode : α → Option β) : Option β :=
  match record with
  | listed items =>
    match items[index]? with
    | none => some default
    | some value => decode value
  | named members =>
    match withName name members with
    | [] => some default
    | [(_, value)] => decode value
    | _ => none

/-- Whether a record of so many fields can have this content. -/
def fits (record : Record α) (arity : Nat) : Bool :=
  match record with
  | listed items => items.length ≤ arity
  | named _ => true

/-- The kind and the other fields of a tagged record. -/
def tagged? : Record α → Option (α × Record α)
  | listed [] => none
  | listed (kind :: rest) => some (kind, listed rest)
  | named members =>
    match withName "kind" members with
    | [(_, kind)] => some (kind, named (members.filter fun member => member.1 ≠ "kind"))
    | _ => none

end Record

def record? : Json → Option (Record Json)
  | array items => some (.listed items)
  | object members => some (.named members)
  | _ => none

/-! ## Fields -/

section Fields

variable {α : Type}

def bool? : Json → Option Bool
  | bool value => some value
  | _ => none

def string? : Json → Option String
  | string value => some value
  | _ => none

/-- A string of one character. -/
def character? : Json → Option Char
  | string value =>
    match value.toList with
    | [c] => some c
    | _ => none
  | _ => none

/-- An integer literal below a bound. -/
def natural? (bound : Nat) : Json → Option Nat
  | integer value => if 0 ≤ value && value < bound then some value.toNat else none
  | _ => none

def uint64? (value : Json) : Option UInt64 :=
  (natural? UInt64.size value).map UInt64.ofNat

def uint16? (value : Json) : Option UInt16 :=
  (natural? UInt16.size value).map UInt16.ofNat

/-- A value that may be null. -/
def nullable (decode : Json → Option α) : Json → Option (Option α)
  | null => some none
  | value => (decode value).map some

def list? (decode : Json → Option α) : Json → Option (List α)
  | array items => items.mapM decode
  | _ => none

/-- An object as a dictionary; of several members with one name the last one counts. -/
def dictionary? (decode : Json → Option α) : Json → Option (Dictionary α)
  | object members =>
    (members.mapM fun member => (decode member.2).map fun value => (member.1, value)).map
      Dictionary.ofList
  | _ => none

/-- The name of one of several choices without content: a string, or an object whose only member has
that name and no content. Inside a tagged record an empty object has no content either. -/
def choice? (inTagged : Bool) : Json → Option String
  | string name => some name
  | object [(name, null)] => some name
  | object [(name, object [])] => if inTagged then some name else none
  | _ => none

/-- The kind of a tagged record: its name, or inside another tagged record also its position. -/
def kind? (kinds : List String) (inTagged : Bool) : Json → Option String
  | string name => some name
  | integer value => if inTagged && 0 ≤ value then kinds[value.toNat]? else none
  | _ => none

end Fields

/-! ## Trees of tagged records -/

/-- A part of a tree with what it is when read as one record or as a list of records. -/
structure Node (α : Type) where
  json : Json
  single : Option α
  list : Option (List α)

section Trees

variable {α : Type}

/-- Reads content as a tagged record, given how to read one with its kind. -/
def ofContent? (assemble : Json → Record (Node α) → Option α) (content : Record (Node α)) :
    Option α :=
  content.tagged?.bind fun (kind, fields) => assemble kind.json fields

mutual

/-- Reads every part of a tree, from the leaves up. -/
def node (assemble : Json → Record (Node α) → Option α) : Json → Node α
  | array items =>
    let parts := nodes assemble items
    ⟨array items, ofContent? assemble (.listed parts), parts.mapM Node.single⟩
  | object members =>
    ⟨object members, ofContent? assemble (.named (memberNodes assemble members)), none⟩
  | null => ⟨null, none, none⟩
  | bool value => ⟨bool value, none, none⟩
  | integer value => ⟨integer value, none, none⟩
  | double value => ⟨double value, none, none⟩
  | string value => ⟨string value, none, none⟩
  | unreadable => ⟨unreadable, none, none⟩

def nodes (assemble : Json → Record (Node α) → Option α) : List Json → List (Node α)
  | [] => []
  | item :: rest => node assemble item :: nodes assemble rest

def memberNodes (assemble : Json → Record (Node α) → Option α) :
    List (String × Json) → List (String × Node α)
  | [] => []
  | (name, value) :: rest => (name, node assemble value) :: memberNodes assemble rest

end

/-- Reads a tree of tagged records. `assemble` is told whether the record stands inside another. -/
def tree? (assemble : Bool → Json → Record (Node α) → Option α) (json : Json) : Option α :=
  if json.isReadable then
    match json with
    | array items => ofContent? (assemble false) (.listed (nodes (assemble true) items))
    | object members => ofContent? (assemble false) (.named (memberNodes (assemble true) members))
    | _ => none
  else none

end Trees

end SqlQuery.Json
