/-!
# JSON values

The values of JSON documents whose numbers are integers. Objects keep the order of their members:
`insertMember` replaces the value of a known key where it stands and appends an unknown one.
-/

namespace AdapterReport

/-- A JSON value whose numbers are integers. -/
inductive Json where
  | null
  | bool (b : Bool)
  | number (n : Int)
  | text (s : String)
  | array (items : List Json)
  | object (members : List (String × Json))

namespace Json

/-- Sets the value of a key: in its old place if the key is there, at the end if it is not. -/
def insertMember (members : List (String × Json)) (key : String) (value : Json) :
    List (String × Json) :=
  match members with
  | [] => [(key, value)]
  | (k, v) :: rest =>
    if k = key then (k, value) :: rest else (k, v) :: insertMember rest key value

/-- The members set one after the other in an empty object. -/
def ofMembers (members : List (String × Json)) : Json :=
  .object (members.foldl (fun m kv => insertMember m kv.1 kv.2) [])

/-- A text, or null where there is none. -/
def ofText? : Option String → Json
  | none => .null
  | some s => .text s

end Json

end AdapterReport
