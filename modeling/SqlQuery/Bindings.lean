import SqlQuery.Value

/-! # Bindings

The values that a statement binds, by parameter name. A value bound without a name gets the first
free name `p_n`, counting from the number of bindings.
-/

namespace SqlQuery

abbrev Parameters := Dictionary Value

structure Bindings where
  /-- What a placeholder starts with. -/
  marker : String
  values : Parameters := ∅

namespace Bindings

def placeholder (bindings : Bindings) (name : String) : String :=
  bindings.marker ++ name

def automaticName (index : Nat) : String :=
  "p_" ++ toString index

/-- The first number from `index` on that is not taken, giving up after `probes` numbers. -/
def firstFree (taken : Nat → Bool) : Nat → Nat → Nat
  | 0, index => index
  | probes + 1, index => if taken index then firstFree taken probes (index + 1) else index

/-- The number of the next automatic name. As many probes as there are bindings suffice: if they all
hit, the next number is free. -/
def nextIndex (bindings : Bindings) : Nat :=
  firstFree (fun index => bindings.values.contains (automaticName index)) bindings.values.size
    bindings.values.size

/-- Binds a value to a name, and gives the placeholder. -/
def bindNamed (bindings : Bindings) (name : String) (value : Value) : String × Bindings :=
  (bindings.placeholder name, { bindings with values := bindings.values.insert name value })

/-- Binds a value to the next automatic name, and gives the placeholder. -/
def bind (bindings : Bindings) (value : Value) : String × Bindings :=
  bindings.bindNamed (automaticName bindings.nextIndex) value

end Bindings

end SqlQuery
