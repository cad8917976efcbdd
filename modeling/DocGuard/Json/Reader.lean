import DocGuard.Json.Number

/-!
# Reading JSON

The reader accepts exactly the JSON grammar. A step that descends into a value or goes on to the
next one uses up a character of the text, so twice its length bounds the number of steps.
-/

namespace DocGuard.Json

open DocGuard.Text

def isSpace (c : Char) : Bool :=
  c = ' ' ∨ c = '\n' ∨ c = '\t' ∨ c = '\r'

def skipSpace (cs : List Char) : List Char :=
  cs.dropWhile isSpace

def isHighHalf (n : Nat) : Bool :=
  0xD800 ≤ n && n < 0xDC00

def isLowHalf (n : Nat) : Bool :=
  0xDC00 ≤ n && n < 0xE000

/-- The characters that code points stand for, halves of pairs joined; a half alone is none. -/
def joinHalves : List Nat → Option (List Char)
  | [] => some []
  | [n] => if isHighHalf n || isLowHalf n then none else some [Char.ofNat n]
  | n :: m :: rest =>
    if isHighHalf n then
      if isLowHalf m then
        (joinHalves rest).map (Char.ofNat (0x10000 + (n - 0xD800) * 0x400 + (m - 0xDC00)) :: ·)
      else none
    else if isLowHalf n then none
    else (joinHalves (m :: rest)).map (Char.ofNat n :: ·)

def escapedChar? (c : Char) : Option Char :=
  match c with
  | '"' => some '"'
  | '\\' => some '\\'
  | '/' => some '/'
  | 'b' => some '\x08'
  | 'f' => some '\x0c'
  | 'n' => some '\n'
  | 'r' => some '\r'
  | 't' => some '\t'
  | _ => none

/-- The code points of a string literal behind its opening quote, and what follows the closing
one. -/
def scanString : List Char → Option (List Nat × List Char)
  | '"' :: rest => some ([], rest)
  | '\\' :: 'u' :: a :: b :: c :: d :: rest => do
    let n ← readHex? [a, b, c, d]
    let (points, rest) ← scanString rest
    return (n :: points, rest)
  | '\\' :: e :: rest => do
    let c ← escapedChar? e
    let (points, rest) ← scanString rest
    return (c.toNat :: points, rest)
  | c :: rest =>
    if c.toNat < 0x20 then none
    else (scanString rest).map fun (points, rest) => (c.toNat :: points, rest)
  | [] => none

def textOf? (points : List Nat) : Option String :=
  (joinHalves points).map String.ofList

def word? (cs : List Char) : Option (Json × List Char) :=
  match dropLead "null".toList cs with
  | some rest => some (.null, rest)
  | none =>
    match dropLead "true".toList cs with
    | some rest => some (.bool true, rest)
    | none => (dropLead "false".toList cs).map fun rest => (.bool false, rest)

/-- An object with members, unreadable if one of the names is. -/
def ofMembers (members : List (Option String × Json)) : Json :=
  match members.mapM fun m => m.1.map fun name => (name, m.2) with
  | some named => .object named
  | none => .unreadable

mutual

def scanValue : Nat → List Char → Option (Json × List Char)
  | 0, _ => none
  | steps + 1, cs =>
    match skipSpace cs with
    | '"' :: rest => do
      let (points, rest) ← scanString rest
      return (((textOf? points).map Json.text).getD .unreadable, rest)
    | '[' :: rest =>
      match skipSpace rest with
      | ']' :: after => some (.array [], after)
      | _ => do
        let (items, after) ← scanItems steps rest
        return (.array items, after)
    | '\x7b' :: rest =>
      match skipSpace rest with
      | '\x7d' :: after => some (.object [], after)
      | _ => do
        let (members, after) ← scanMembers steps rest
        return (ofMembers members, after)
    | c :: rest =>
      if c = '-' ∨ isDigit c then do
        let (literal, after) ← NumberLiteral.scan (c :: rest)
        return ((literal.value?.map Json.number).getD .unreadable, after)
      else word? (c :: rest)
    | [] => none

/-- The items of an array up to its closing bracket; at least one is expected. -/
def scanItems : Nat → List Char → Option (List Json × List Char)
  | 0, _ => none
  | steps + 1, cs => do
    let (item, after) ← scanValue steps cs
    match skipSpace after with
    | ',' :: rest => do
      let (items, after) ← scanItems steps rest
      return (item :: items, after)
    | ']' :: rest => some ([item], rest)
    | _ => none

/-- The members of an object up to its closing brace; at least one is expected. -/
def scanMembers : Nat → List Char → Option (List (Option String × Json) × List Char)
  | 0, _ => none
  | steps + 1, cs =>
    match skipSpace cs with
    | '"' :: rest => do
      let (points, after) ← scanString rest
      match skipSpace after with
      | ':' :: rest => do
        let (item, after) ← scanValue steps rest
        match skipSpace after with
        | ',' :: rest => do
          let (members, after) ← scanMembers steps rest
          return ((textOf? points, item) :: members, after)
        | '\x7d' :: rest => some ([(textOf? points, item)], rest)
        | _ => none
      | _ => none
    | _ => none

end

/-- The value of a text that holds one JSON value and spaces around it. -/
def read? (cs : List Char) : Option Json :=
  match scanValue (2 * cs.length + 2) cs with
  | some (j, rest) => if skipSpace rest = [] then some j else none
  | none => none

def maxHeight : Nat := 127

/-- The value of a text all of whose parts can be read and are not nested too deep, each name once
in every object. -/
def readWhole? (cs : List Char) : Option Json :=
  (read? cs).bind fun j =>
    if j.isReadable ∧ j.height ≤ maxHeight then some j.merged else none

end DocGuard.Json
