import MatrixFlow.Number.Basic

/-!
# JSON values

* `Json`: a value. The fields of an object stand in the order in which they are written.
* `Json.insertField`, `Json.ofFields`: objects whose fields are sorted by name, the last of two
  fields of one name winning.
* `Json.equal`: equality of values, numbers compared by `Number.equal`.
-/

namespace MatrixFlow

/-- A JSON value. -/
inductive Json where
  | null
  | bool (value : Bool)
  | num (value : Number)
  | str (value : String)
  | arr (items : List Json)
  | obj (fields : List (String × Json))
deriving Repr, Inhabited

namespace Json

mutual

/-- Equality of values. -/
def equal : Json → Json → Bool
  | null, null => true
  | bool a, bool b => a == b
  | num a, num b => a.equal b
  | str a, str b => a == b
  | arr a, arr b => equalItems a b
  | obj a, obj b => equalFields a b
  | _, _ => false

/-- Equality of lists of values. -/
def equalItems : List Json → List Json → Bool
  | [], [] => true
  | a :: as, b :: bs => equal a b && equalItems as bs
  | _, _ => false

/-- Equality of lists of fields. -/
def equalFields : List (String × Json) → List (String × Json) → Bool
  | [], [] => true
  | (k, a) :: as, (l, b) :: bs => k == l && equal a b && equalFields as bs
  | _, _ => false

end

/-- Puts a field into a list sorted by name, in the place of one of that name if there is one. -/
def insertField (name : String) (value : Json) :
    List (String × Json) → List (String × Json)
  | [] => [(name, value)]
  | (k, v) :: rest =>
    if name = k then (k, value) :: rest
    else if name < k then (name, value) :: (k, v) :: rest
    else (k, v) :: insertField name value rest

/-- The object with the given fields, sorted by name. -/
def ofFields (fields : List (String × Json)) : Json :=
  obj (fields.foldl (fun acc (k, v) => insertField k v acc) [])

end Json

end MatrixFlow
