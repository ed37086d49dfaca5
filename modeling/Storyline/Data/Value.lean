-- SUMMARY: Stored data: its declared shapes, and the values that have them.

/-!
# Stored data

Design documents, settings, levels and saved sessions are stored as text in one of two formats. Both
hold the same kind of data: a *value* built from truth values, numbers, texts, names, lists and records.
A *shape* declares which values are expected, and a format is read by a shape.
-/

namespace Storyline.Data

/-- May a field of a record be left out? -/
inductive Presence where
  /-- The field must be there. -/
  | required
  /-- The field may be left out where fields are written with their names. -/
  | omittable
  /-- The field may always be left out. -/
  | defaulted
  deriving DecidableEq

mutual

/-- What values are expected. -/
inductive Shape where
  | bool
  | text
  /-- A 64-bit word. -/
  | word
  /-- A signed 32-bit number. -/
  | level
  /-- One of a few names. -/
  | name (choices : List String)
  | optional (inner : Shape)
  | list (item : Shape)
  /-- A map from texts to values. -/
  | dict (item : Shape)
  | record (name : String) (fields : Fields)

/-- The fields of a record, in the order of their declaration. -/
inductive Fields where
  | nil
  | cons (name : String) (presence : Presence) (shape : Shape) (rest : Fields)

end

/-- Stored data. In a record, the fields that were left out are missing. -/
inductive Value where
  | bool (b : Bool)
  | text (s : String)
  | number (n : Int)
  | name (s : String)
  | none
  | some (inner : Value)
  | list (items : List Value)
  | dict (entries : List (String × Value))
  | record (fields : List (String × Value))

instance : Inhabited Value := ⟨.none⟩

namespace Fields

/-- The names of the fields. -/
def names : Fields → List String
  | nil => []
  | cons name _ _ rest => name :: rest.names

end Fields

namespace Value

/-- The field of a record. -/
def field? (name : String) : Value → Option Value
  | record fields => fields.lookup name
  | _ => Option.none

def toBool? : Value → Option Bool
  | bool b => Option.some b
  | _ => Option.none

def toText? : Value → Option String
  | text s => Option.some s
  | _ => Option.none

def toInt? : Value → Option Int
  | number n => Option.some n
  | _ => Option.none

def toNat? : Value → Option Nat
  | number n => Option.some n.toNat
  | _ => Option.none

def toName? : Value → Option String
  | name s => Option.some s
  | _ => Option.none

/-- The items of a list, each read by `item`. -/
def toList? {α : Type} (item : Value → Option α) : Value → Option (List α)
  | list items => items.mapM item
  | _ => Option.none

/-- The entries of a map, each value read by `item`. -/
def toDict? {α : Type} (item : Value → Option α) : Value → Option (List (String × α))
  | dict entries => entries.mapM fun (key, value) => (item value).map fun a => (key, a)
  | _ => Option.none

/-- An optional value, its content read by `inner`. -/
def toOption? {α : Type} (inner : Value → Option α) : Value → Option (Option α)
  | none => Option.some Option.none
  | some value => (inner value).map Option.some
  | _ => Option.none

/-- The field of a record, read by `inner`. -/
def required? {α : Type} (name : String) (inner : Value → Option α) (value : Value) : Option α :=
  (value.field? name).bind inner

/-- The field of a record, read by `inner`; if it was left out, the default. -/
def defaulted? {α : Type} (name : String) (default : α) (inner : Value → Option α) (value : Value) :
    Option α :=
  match value.field? name with
  | Option.some found => inner found
  | Option.none => Option.some default

/-- The value of an optional. -/
def ofOption {α : Type} (inner : α → Value) : Option α → Value
  | Option.none => none
  | Option.some a => some (inner a)

end Value

end Storyline.Data
