/-! Documents of JSON, as far as a reader of settings looks into them. -/

namespace LineBridge

/-- A JSON value. Of numbers only the plain ones count, digits without sign, fraction or
exponent. A string is `none` if its escapes name half of a surrogate pair. -/
inductive Json where
  | null
  | bool (value : Bool)
  | natural (value : Nat)
  | otherNumber
  | string (value : Option String)
  | array (items : List Json)
  | object (members : List (Option String × Json))

end LineBridge
