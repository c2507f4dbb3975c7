import DocFilter.Json.Basic

/-!
# Compact JSON text

The text of a value without any white space.  In strings only the quote, the backslash and the
control characters below the space are escaped.
-/

namespace DocFilter
namespace Json

/-- A character as it stands in a quoted string. -/
def escape (c : Char) : List Char :=
  match c with
  | '"' => ['\\', '"']
  | '\\' => ['\\', '\\']
  | '\x08' => ['\\', 'b']
  | '\x0c' => ['\\', 'f']
  | '\n' => ['\\', 'n']
  | '\r' => ['\\', 'r']
  | '\t' => ['\\', 't']
  | c =>
    if c.toNat < 0x20 then
      ['\\', 'u', '0', '0', Nat.digitChar (c.toNat / 16), Nat.digitChar (c.toNat % 16)]
    else [c]

/-- A string in quotes. -/
def quoted (s : String) : List Char := '"' :: s.toList.flatMap escape ++ ['"']

mutual

/-- The compact text of a value. -/
def compact : Json → List Char
  | null => "null".toList
  | bool b => (toString b).toList
  | number n => n.text
  | string s => quoted s
  | array items => '[' :: compactItems items ++ [']']
  | object members => '\x7b' :: compactMembers members ++ ['\x7d']
termination_by structural v => v

/-- The items of an array, with commas between them. -/
def compactItems : List Json → List Char
  | [] => []
  | [v] => compact v
  | v :: items => compact v ++ ',' :: compactItems items
termination_by structural items => items

/-- The members of an object, with commas between them. -/
def compactMembers : List (String × Json) → List Char
  | [] => []
  | [(key, v)] => quoted key ++ ':' :: compact v
  | (key, v) :: members => quoted key ++ ':' :: compact v ++ ',' :: compactMembers members
termination_by structural members => members

end

end Json
end DocFilter
