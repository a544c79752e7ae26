/-!
# JSON values

* `Json` — a value.  The fields of an object keep their order and may repeat a name.  A whole number
  is an `integer`; any other number, `-0` among them, is a `decimal` and keeps its spelling.
* A text is an `Option String`: `none` stands for a string literal that is well formed but denotes no
  text, because an escape in it names half of a surrogate pair.
* `Json.slots` — the values given for the fields of a record, by name or by position.
-/

set_option autoImplicit false

namespace Roster

/-- A JSON value. -/
inductive Json where
  | null
  | bool (b : Bool)
  | integer (n : Int)
  | decimal (spelling : String)
  | string (text : Option String)
  | array (items : List Json)
  | object (fields : List (Option String × Json))
deriving Repr, Inhabited

namespace Json

/-! ## Building -/

def str (s : String) : Json := .string (some s)

def nat (n : Nat) : Json := .integer n

def obj (fields : List (String × Json)) : Json := .object (fields.map fun f => (some f.1, f.2))

def strs (ss : List String) : Json := .array (ss.map str)

/-- The value of an optional part, `null` when there is none. -/
def orNull {α : Type} (f : α → Json) : Option α → Json
  | none => .null
  | some a => f a

/-- A field that is left out when there is no value. -/
def field? {α : Type} (name : String) (f : α → Json) : Option α → List (String × Json)
  | none => []
  | some a => [(name, f a)]

/-! ## Reading scalars -/

def asString? : Json → Option String
  | .string t => t
  | _ => none

def asBool? : Json → Option Bool
  | .bool b => some b
  | _ => none

def asInt? : Json → Option Int
  | .integer n => some n
  | _ => none

/-- A whole number of 64 bits without sign. -/
def asUInt64? (v : Json) : Option UInt64 :=
  v.asInt?.bind fun n => if 0 ≤ n ∧ n.toNat < UInt64.size then some (UInt64.ofNat n.toNat) else none

/-- A whole number of 32 bits without sign. -/
def asUInt32? (v : Json) : Option UInt32 :=
  v.asInt?.bind fun n => if 0 ≤ n ∧ n.toNat < UInt32.size then some (UInt32.ofNat n.toNat) else none

/-- A whole number of 64 bits with sign. -/
def asInt64? (v : Json) : Option Int64 :=
  v.asInt?.bind fun n =>
    if Int64.minValue.toInt ≤ n ∧ n ≤ Int64.maxValue.toInt then some (Int64.ofInt n) else none

/-- The items of an array, each read by `f`. -/
def asList? {α : Type} (f : Json → Option α) : Json → Option (List α)
  | .array items => items.mapM f
  | _ => none

/-! ## Reading records -/

/-- The values of the named fields of an object.  A field that is not named is passed over; a named one
may not be given twice, and every name has to be a text. -/
def namedSlots (names : List String) (fields : List (Option String × Json)) :
    Option (List (Option Json)) :=
  if fields.any fun f => f.1.isNone then none
  else names.mapM fun name =>
    match fields.filter fun f => f.1 = some name with
    | [] => some none
    | [f] => some (some f.2)
    | _ => none

/-- The values of the fields of a record, in the order of the names: an object gives them by name, an
array by position, where some may be missing at the end. -/
def slots (names : List String) : Json → Option (List (Option Json))
  | .object fields => namedSlots names fields
  | .array items =>
    if items.length ≤ names.length then
      some (items.map some ++ List.replicate (names.length - items.length) none)
    else none
  | _ => none

/-- A field that has to be given. -/
def required {α : Type} (f : Json → Option α) (slot : Option Json) : Option α := slot.bind f

/-- A field with a value of its own when it is missing. -/
def defaulted {α : Type} (d : α) (f : Json → Option α) : Option Json → Option α
  | none => some d
  | some v => f v

/-- A field that may be missing or `null`. -/
def optional {α : Type} (f : Json → Option α) : Option Json → Option (Option α)
  | none => some none
  | some .null => some none
  | some v => (f v).map some

end Json

/-- Records with a JSON form. -/
class JsonRecord (α : Type) where
  toJson : α → Json
  ofJson? : Json → Option α

end Roster
