/-!
# JSON values

A JSON value as a text writes it: the members of an object stand in the order of the text, and a key
may occur more than once. `Json.canonical` gives the value that such a text denotes: the members
sorted by key, with the last member of each key.

Whole numbers that fit 64 bits, with or without a sign, are kept exactly; all other numbers are
binary floating point numbers.

## Main definitions

* `FilterSql.Json.Number`, `FilterSql.Json`: numbers and values.
* `FilterSql.Json.canonical`: the value with its objects sorted and without repeated keys.
* `FilterSql.Json.find?`: the member of an object with a key.
-/

namespace FilterSql

namespace Json

/-- The whole numbers that JSON keeps exactly: those of 64 bits, with or without a sign. -/
def Exact (n : Int) : Prop := -0x8000000000000000 ≤ n ∧ n < 0x10000000000000000

instance (n : Int) : Decidable (Exact n) := inferInstanceAs (Decidable (_ ∧ _))

/-- A JSON number. -/
inductive Number where
  /-- A whole number that is kept exactly. -/
  | int (n : Int) (exact : Exact n)
  /-- Any other number. -/
  | float (x : Float)

namespace Number

/-- The number as a whole number of 64 bits with a sign, if it is one. -/
def toInt64? : Number → Option Int
  | int n _ => if n < 0x8000000000000000 then some n else none
  | float _ => none

/-- The number as a binary floating point number. -/
def toFloat : Number → Float
  | int n _ => Float.ofInt n
  | float x => x

/-- Equality of numbers; no number equals what is not a number. -/
def same : Number → Number → Bool
  | int m _, int n _ => m == n
  | float x, float y => x == y
  | _, _ => false

instance : BEq Number := ⟨same⟩

end Number

end Json

/-- A JSON value. -/
inductive Json where
  /-- The word `null`. -/
  | null
  /-- A boolean. -/
  | bool (b : Bool)
  /-- A number. -/
  | number (n : Json.Number)
  /-- A text. -/
  | string (s : String)
  /-- A list. -/
  | array (items : List Json)
  /-- An object, with its members in the order of the text. -/
  | object (members : List (String × Json))

namespace Json

instance : Inhabited Json := ⟨null⟩

mutual

/-- Equality of values, member by member in the order given. -/
def same : Json → Json → Bool
  | null, null => true
  | bool a, bool b => a == b
  | number m, number n => m == n
  | string s, string t => s == t
  | array xs, array ys => sameItems xs ys
  | object xs, object ys => sameMembers xs ys
  | _, _ => false
termination_by structural x => x

/-- Equality of lists of values. -/
def sameItems : List Json → List Json → Bool
  | [], [] => true
  | x :: xs, y :: ys => same x y && sameItems xs ys
  | _, _ => false
termination_by structural xs => xs

/-- Equality of lists of members. -/
def sameMembers : List (String × Json) → List (String × Json) → Bool
  | [], [] => true
  | (k, x) :: xs, (l, y) :: ys => k == l && same x y && sameMembers xs ys
  | _, _ => false
termination_by structural xs => xs

end

instance : BEq Json := ⟨same⟩

/-- The members with one more, in its place by key; a member with the same key gives way. -/
def insert {α : Type} (key : String) (value : α) : List (String × α) → List (String × α)
  | [] => [(key, value)]
  | (k, v) :: rest =>
    if key = k then (key, value) :: rest
    else if key < k then (key, value) :: (k, v) :: rest
    else (k, v) :: insert key value rest

/-- The members sorted by key, with the last one of each key. -/
def sorted {α : Type} (members : List (String × α)) : List (String × α) :=
  members.foldl (fun acc m => insert m.1 m.2 acc) []

mutual

/-- The value with its objects sorted by key, each key with its last member. -/
def canonical : Json → Json
  | array items => array (canonicalItems items)
  | object members => object (sorted (canonicalMembers members))
  | null => null
  | bool b => bool b
  | number n => number n
  | string s => string s
termination_by structural x => x

/-- The canonical form of each value of a list. -/
def canonicalItems : List Json → List Json
  | [] => []
  | x :: xs => canonical x :: canonicalItems xs
termination_by structural xs => xs

/-- The members with their values in canonical form. -/
def canonicalMembers : List (String × Json) → List (String × Json)
  | [] => []
  | (k, x) :: xs => (k, canonical x) :: canonicalMembers xs
termination_by structural xs => xs

end

/-- The value of the member with a key. -/
def find? (key : String) (members : List (String × Json)) : Option Json :=
  members.lookup key

/-- The text of a value that is a text. -/
def string? : Json → Option String
  | string s => some s
  | _ => none

end Json

end FilterSql
