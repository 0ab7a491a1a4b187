import SqlQuery.Expression.Json
import SqlQuery.Query.Basic

/-! # Queries in files

A query file names an entity, its conditions, projection and orders, and a window of rows.
-/

namespace SqlQuery

structure QueryFile where
  entity : String
  conditions : List Expression := []
  projection : Option Projection := none
  orders : List Order := []
  window : Window := {}

namespace QueryFile

def toJson (file : QueryFile) : Json :=
  .object
    [("entity", .string file.entity),
      ("conditions", .array (file.conditions.map Expression.toJson)),
      ("projection", .ofOption Projection.toJson file.projection),
      ("orders", .array (file.orders.map Order.toJson)),
      ("limit", .ofOption (fun limit : UInt64 => .integer limit.toNat) file.window.limit),
      ("offset", .integer file.window.offset.toNat)]

def ofJson? (json : Json) : Option QueryFile := do
  let fields ← json.record?
  let entity ← fields.required 0 "entity" Json.string?
  let conditions ← fields.optional 1 "conditions" [] (Json.list? Expression.ofJson?)
  let projection ← fields.optional 2 "projection" none (Json.nullable Projection.ofJson?)
  let orders ← fields.optional 3 "orders" [] (Json.list? Order.ofJson?)
  let limit ← fields.optional 4 "limit" none (Json.nullable Json.uint64?)
  let offset ← fields.optional 5 "offset" 0 Json.uint64?
  if fields.fits 6 then return ⟨entity, conditions, projection, orders, ⟨limit, offset⟩⟩
  else failure

/-- Adds the conditions, orders and projection to a query; the window stays. -/
def apply (file : QueryFile) (query : Query) : Query :=
  let query := file.conditions.foldl Query.add query
  let query := file.orders.foldl Query.addOrder query
  match file.projection with
  | some projection => query.setProjection projection
  | none => query

end QueryFile

end SqlQuery
