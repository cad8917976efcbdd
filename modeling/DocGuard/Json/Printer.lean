import DocGuard.Json.Basic

/-!
# Writing JSON

Two layouts: everything on one line without spaces, and one item or member per line with two
spaces of indentation for each level.
-/

namespace DocGuard.Json

open DocGuard.Text

/-- A character of a text in quotes. Quotes, backslashes and control characters are escaped; other
characters stand for themselves. -/
def escapeChar (c : Char) : String :=
  if c = '"' then "\\\""
  else if c = '\\' then "\\\\"
  else if c = '\x08' then "\\b"
  else if c = '\x0c' then "\\f"
  else if c = '\n' then "\\n"
  else if c = '\r' then "\\r"
  else if c = '\t' then "\\t"
  else if c.toNat < 0x20 then "\\u" ++ paddedHex 4 c.toNat
  else String.ofList [c]

def quote (s : String) : String :=
  "\"" ++ String.join (s.toList.map escapeChar) ++ "\""

/-- A number. Doubles that are no numbers have no JSON form and are written as null. -/
def showNumber : JsonNumber → String
  | .whole n => toString n
  | .float x => (Decimal.json? x).getD "null"

def breakLine (level : Nat) : String :=
  String.ofList ('\n' :: List.replicate (2 * level) ' ')

mutual

def compact : Json → String
  | .null => "null"
  | .unreadable => "null"
  | .bool b => if b then "true" else "false"
  | .number n => showNumber n
  | .text s => quote s
  | .array items => "[" ++ joinWith "," (compactItems items) ++ "]"
  | .object members => "\x7b" ++ joinWith "," (compactMembers members) ++ "\x7d"

def compactItems : List Json → List String
  | [] => []
  | j :: rest => compact j :: compactItems rest

def compactMembers : List (String × Json) → List String
  | [] => []
  | (k, j) :: rest => (quote k ++ ":" ++ compact j) :: compactMembers rest

end

mutual

def indented (level : Nat) : Json → String
  | .array (j :: rest) =>
    "[" ++ breakLine (level + 1) ++
      joinWith ("," ++ breakLine (level + 1)) (indentedItems (level + 1) (j :: rest)) ++
      breakLine level ++ "]"
  | .object (m :: rest) =>
    "\x7b" ++ breakLine (level + 1) ++
      joinWith ("," ++ breakLine (level + 1)) (indentedMembers (level + 1) (m :: rest)) ++
      breakLine level ++ "\x7d"
  | j => compact j

def indentedItems (level : Nat) : List Json → List String
  | [] => []
  | j :: rest => indented level j :: indentedItems level rest

def indentedMembers (level : Nat) : List (String × Json) → List String
  | [] => []
  | (k, j) :: rest => (quote k ++ ": " ++ indented level j) :: indentedMembers level rest

end

def pretty (j : Json) : String :=
  indented 0 j

end DocGuard.Json
