-- SUMMARY: Reading a JSON text, first as a tree and then as the data of a declared shape.
import Storyline.Data.Value
import Storyline.Json.Token

/-!
# Reading JSON

The second half of reading JSON: tokens become a tree, and a tree is fitted to a shape.

The tree is built with an explicit stack of open arrays and objects, so a text may nest to any depth.
Fitting looks only at what the shape asks for: unknown fields of a record may hold anything.
-/

namespace Storyline

/-- A JSON tree. Strings that are no texts are kept as `none`. -/
inductive Json where
  | null
  | bool (b : Bool)
  | number (integer : Option Int)
  | string (text : Option String)
  | array (items : List Json)
  | object (members : List (Option String × Json))

instance : Inhabited Json := ⟨.null⟩

namespace Json

/-! ## Trees -/

/-- An array or object that is not closed yet, with its content last one first. An object is either
between two members or waits for the value of a key. -/
inductive Frame where
  | array (front : List Json)
  | object (front : List (Option String × Json))
  | member (front : List (Option String × Json)) (key : Option String)

/-- What may come next. -/
inductive Expected where
  | value
  /-- A value, or the end of the array that was just opened. -/
  | firstItem
  | key
  /-- A key, or the end of the object that was just opened. -/
  | firstKey
  | colon
  /-- A comma or the end of what is open, behind this value. -/
  | after (done : Json)

/-- Builds a tree from tokens inside open arrays and objects. -/
def build : Expected → List Frame → List Token → Option Json
  | .after done, [], [] => some done
  | .after done, .array front :: stack, .comma :: rest => build .value (.array (done :: front) :: stack) rest
  | .after done, .array front :: stack, .closeArray :: rest =>
    build (.after (.array (done :: front).reverse)) stack rest
  | .after done, .member front key :: stack, .comma :: rest =>
    build .key (.object ((key, done) :: front) :: stack) rest
  | .after done, .member front key :: stack, .closeObject :: rest =>
    build (.after (.object ((key, done) :: front).reverse)) stack rest
  | .firstItem, .array front :: stack, .closeArray :: rest =>
    build (.after (.array front.reverse)) stack rest
  | .firstKey, .object front :: stack, .closeObject :: rest =>
    build (.after (.object front.reverse)) stack rest
  | .firstKey, .object front :: stack, .string key :: rest =>
    build .colon (.member front key :: stack) rest
  | .key, .object front :: stack, .string key :: rest => build .colon (.member front key :: stack) rest
  | .colon, stack, .colon :: rest => build .value stack rest
  | .value, stack, token :: rest => buildValue stack token rest
  | .firstItem, stack, token :: rest => buildValue stack token rest
  | _, _, _ => none
where
  /-- Goes on with a token that begins a value. -/
  buildValue (stack : List Frame) (token : Token) (rest : List Token) : Option Json :=
    match token with
    | .null => build (.after .null) stack rest
    | .bool b => build (.after (.bool b)) stack rest
    | .number n => build (.after (.number n)) stack rest
    | .string s => build (.after (.string s)) stack rest
    | .openArray => build .firstItem (.array [] :: stack) rest
    | .openObject => build .firstKey (.object [] :: stack) rest
    | _ => none

/-- Reads a text as one tree. -/
def parse? (s : String) : Option Json :=
  (tokens? s.toList).bind (build .value [])

/-! ## Fitting a tree to a shape -/

open Data

/-- The members of an object whose keys are all texts. -/
def textKeys? (members : List (Option String × Json)) : Option (List (String × Json)) :=
  members.mapM fun (key, value) => key.map fun key => (key, value)

mutual

/-- The data of the given shape that a tree holds. -/
def fit? : Shape → Json → Option Value
  | .bool, .bool b => some (.bool b)
  | .text, .string (some s) => some (.text s)
  | .word, .number (some n) => if 0 ≤ n ∧ Text.fitsWord n.toNat then some (.number n) else none
  | .level, .number (some n) => if Text.fitsLevel n then some (.number n) else none
  | .name choices, .string (some s) => if s ∈ choices then some (.name s) else none
  | .name choices, .object [(some s, .null)] => if s ∈ choices then some (.name s) else none
  | .optional _, .null => some .none
  | .optional inner, tree => (fit? inner tree).map .some
  | .list item, .array items => (items.mapM (fit? item)).map .list
  | .dict item, .object members => do
    let members ← textKeys? members
    let entries ← members.mapM fun (key, tree) => (fit? item tree).map fun value => (key, value)
    some (.dict entries)
  | .record _ fields, .object members => do
    let members ← textKeys? members
    (fitMembers fields members).map .record
  | .record _ fields, .array items => (fitItems fields items).map .record
  | _, _ => none

/-- The fields of a record that is written as an object. A field may not be written twice. -/
def fitMembers : Fields → List (String × Json) → Option (List (String × Value))
  | .nil, _ => some []
  | .cons name presence shape rest, members =>
    match members.filter (·.1 == name) with
    | [] => if presence = .required then none else fitMembers rest members
    | [(_, tree)] => do
      let value ← fit? shape tree
      let values ← fitMembers rest members
      some ((name, value) :: values)
    | _ => none

/-- The fields of a record that is written as an array, in the order of their declaration. -/
def fitItems : Fields → List Json → Option (List (String × Value))
  | .nil, [] => some []
  | .nil, _ :: _ => none
  | .cons _ presence _ rest, [] => if presence = .defaulted then fitItems rest [] else none
  | .cons name _ shape rest, tree :: trees => do
    let value ← fit? shape tree
    let values ← fitItems rest trees
    some ((name, value) :: values)

end

/-- Reads a text as data of the given shape. -/
def read? (shape : Shape) (s : String) : Option Value :=
  (parse? s).bind (fit? shape)

end Json

end Storyline
