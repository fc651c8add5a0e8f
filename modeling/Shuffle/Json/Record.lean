import Shuffle.Json.Value

/-!
# Records in JSON

A record is an object with one member for each field, or an array of the fields in order. Members
with unknown names are ignored; a field may be given once only. Fields at the end may be missing
if they have a value of their own.

- `Json.slots?` is what is given for each field.
- `Json.required`, `Json.withDefault` and `Json.optional` read one field.
- `Json.variant?` reads a choice: its name, or an object with the name as its only member.
-/

namespace Shuffle.Json

/-! ## §1 Simple values -/

/-- A text. -/
def text? : Json → Option String
  | .text s => s
  | _ => none

/-- A truth value. -/
def bool? : Json → Option Bool
  | .bool b => some b
  | _ => none

/-- A 16-bit number. -/
def uint16? (j : Json) : Option UInt16 := (j.natUpTo? (UInt16.size - 1)).map UInt16.ofNat

/-- A 32-bit number. -/
def uint32? (j : Json) : Option UInt32 := (j.natUpTo? (UInt32.size - 1)).map UInt32.ofNat

/-- A 64-bit number. -/
def uint64? (j : Json) : Option UInt64 := (j.natUpTo? (UInt64.size - 1)).map UInt64.ofNat

/-- A whole number from `low` to `high`. -/
def intWithin? (low high : Int) (j : Json) : Option Int :=
  j.int?.filter fun n => low ≤ n && n ≤ high

/-- An array of values of one kind. -/
def listOf? {α : Type} (read : Json → Option α) : Json → Option (List α)
  | .array items => items.mapM read
  | _ => none

/-! ## §2 Fields -/

/-- The value of a member. -/
def member? (name : String) (members : List (Option String × Json)) : Option Json :=
  (members.find? (·.1 = some name)).map (·.2)

/-- How often a name occurs. -/
def occurrences (name : String) (members : List (Option String × Json)) : Nat :=
  members.countP (·.1 = some name)

/-- What is given for each of the named fields. -/
def slots? (names : List String) : Json → Option (List (Option Json))
  | .array items =>
    if items.length ≤ names.length then
      some (items.map some ++ List.replicate (names.length - items.length) none)
    else none
  | .object members =>
    if members.all (·.1.isSome) && names.all (occurrences · members ≤ 1) then
      some (names.map (member? · members))
    else none
  | _ => none

/-- A field that has to be given. -/
def required {α : Type} (read : Json → Option α) (slot : Option Json) : Option α :=
  slot.bind read

/-- A field with a value of its own if it is not given. -/
def withDefault {α : Type} (value : α) (read : Json → Option α) : Option Json → Option α
  | none => some value
  | some j => read j

/-- A field that may be missing or null. -/
def optional {α : Type} (read : Json → Option α) : Option Json → Option (Option α)
  | none => some none
  | some .null => some none
  | some j => (read j).map some

/-! ## §3 Choices -/

/-- The name of a choice and what comes with it. A name alone comes with nothing. -/
def variant? : Json → Option (String × Option Json)
  | .text (some name) => some (name, none)
  | .object [(some name, content)] => some (name, some content)
  | _ => none

/-- A choice without content: its name, alone or with null. -/
def unitVariant? {α : Type} (ofName? : String → Option α) (j : Json) : Option α :=
  match j.variant? with
  | some (name, none) => ofName? name
  | some (name, some .null) => ofName? name
  | _ => none

end Shuffle.Json
