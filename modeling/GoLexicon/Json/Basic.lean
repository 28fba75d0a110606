import GoLexicon.Number.Binary64
/-!
# JSON values

The values of a JSON document, with integers kept apart from other numbers. An object keeps its
members in the order in which their names first came; a name that comes again replaces the value.
-/

namespace GoLexicon

/-- A JSON value. -/
inductive Json where
  | null
  | bool (b : Bool)
  | integer (n : Int)
  | number (x : Binary64)
  | text (t : Text)
  | list (items : List Json)
  | object (members : List (Text × Json))

namespace Json

/-- The members of an object with one more: at the place of the member of that name, or last. -/
def withMember (name : Text) (value : Json) : List (Text × Json) → List (Text × Json)
  | [] => [(name, value)]
  | (other, old) :: rest =>
    if other = name then (name, value) :: rest else (other, old) :: withMember name value rest

/-- An object from its members in the order of the document. -/
def ofMembers (members : List (Text × Json)) : Json :=
  .object (members.foldl (fun done (name, value) => withMember name value done) [])

/-- The member of a name. -/
def member? (members : List (Text × Json)) (name : Text) : Option Json := members.lookup name

/-- Does the value say anything? Null, false, zero and what is empty do not. -/
def isFilled : Json → Bool
  | null => false
  | bool b => b
  | integer n => n ≠ 0
  | number x => !x.isZero
  | text t => !t.isEmpty
  | list items => !items.isEmpty
  | object members => !members.isEmpty

/-- The word for the kind of a value, as messages use it. -/
def kindName : Json → Text
  | null => "NoneType"
  | bool _ => "bool"
  | integer _ => "int"
  | number _ => "float"
  | text _ => "str"
  | list _ => "list"
  | object _ => "dict"

/-- The number that a value counts as: truth values count as zero and one. -/
def count? : Json → Option (Int ⊕ Binary64)
  | bool b => some (.inl (if b then 1 else 0))
  | integer n => some (.inl n)
  | number x => some (match x.toInt? with | some n => .inl n | none => .inr x)
  | _ => none

/-- What a value counts as, as a fraction with a positive denominator, if it is finite. -/
def fraction? (v : Json) : Option (Int × Nat) :=
  match v.count? with
  | some (.inl n) => some (n, 1)
  | some (.inr x) => x.fraction?
  | none => none

/-- Is a value the infinity of a sign? -/
def isInfinity (negative : Bool) : Json → Bool
  | number x => x = .infinite negative
  | _ => false

/-- Does one value count at most as much as another one? -/
def countAtMost (a b : Json) : Bool :=
  match a.fraction?, b.fraction? with
  | some (n, d), some (m, e) => n * e ≤ m * d
  | _, _ => a.isInfinity true || b.isInfinity false

/-- Are two values that are neither lists nor objects equal? Numbers are compared by value. -/
def sameScalar : Json → Json → Bool
  | null, null => true
  | text t, text u => t = u
  | a, b =>
    match a.count?, b.count? with
    | some (.inl n), some (.inl m) => n = m
    | some (.inr x), some (.inr y) => x.same y
    | _, _ => false

end Json

end GoLexicon
