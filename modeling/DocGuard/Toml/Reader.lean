import DocGuard.Calendar
import DocGuard.Decimal.Numeral
import DocGuard.Toml.Basic

/-!
# Reading TOML

A file is read line by line: a header, a key with its value, or nothing, and a comment behind it.
Only values may go on over several lines.
-/

namespace DocGuard.Toml

open DocGuard.Text

def isGap (c : Char) : Bool :=
  c = ' ' ∨ c = '\t'

def skipGap (cs : List Char) : List Char :=
  cs.dropWhile isGap

def isPlain (c : Char) : Bool :=
  c = '\t' ∨ (0x20 ≤ c.toNat ∧ c.toNat ≠ 0x7F)

def takeBreak? : List Char → Option (List Char)
  | '\n' :: rest => some rest
  | '\r' :: '\n' :: rest => some rest
  | _ => none

def skipComment : List Char → List Char
  | '#' :: rest => rest.dropWhile isPlain
  | cs => cs

/-! ## Texts -/

def charOf? (n : Nat) : Option Char :=
  if n < 0xD800 ∨ (0xE000 ≤ n ∧ n < 0x110000) then some (Char.ofNat n) else none

def scanEscape : List Char → Option (Char × List Char)
  | 'b' :: rest => some ('\x08', rest)
  | 't' :: rest => some ('\t', rest)
  | 'n' :: rest => some ('\n', rest)
  | 'f' :: rest => some ('\x0c', rest)
  | 'r' :: rest => some ('\r', rest)
  | '"' :: rest => some ('"', rest)
  | '\\' :: rest => some ('\\', rest)
  | 'u' :: a :: b :: c :: d :: rest => do
    return (← charOf? (← readHex? [a, b, c, d]), rest)
  | 'U' :: a :: b :: c :: d :: e :: f :: g :: h :: rest => do
    return (← charOf? (← readHex? [a, b, c, d, e, f, g, h]), rest)
  | _ => none

def scanQuoted : Nat → List Char → Option (List Char × List Char)
  | 0, _ => none
  | _ + 1, '"' :: rest => some ([], rest)
  | n + 1, '\\' :: rest => do
    let (c, rest) ← scanEscape rest
    let (cs, rest) ← scanQuoted n rest
    return (c :: cs, rest)
  | n + 1, c :: rest =>
    if isPlain c then (scanQuoted n rest).map fun (cs, rest) => (c :: cs, rest) else none
  | _, [] => none

def scanLiteral : List Char → Option (List Char × List Char)
  | '\'' :: rest => some ([], rest)
  | c :: rest =>
    if isPlain c then (scanLiteral rest).map fun (cs, rest) => (c :: cs, rest) else none
  | [] => none

def skipLines : Nat → List Char → List Char
  | 0, cs => cs
  | n + 1, cs =>
    match takeBreak? cs with
    | some rest => skipLines n rest
    | none =>
      match cs with
      | c :: rest => if isGap c then skipLines n rest else cs
      | [] => []

/-- The text behind a backslash at the end of a line: the next character that is neither a blank nor
a line break. -/
def joinLine? (cs : List Char) : Option (List Char) :=
  (takeBreak? (skipGap cs)).map fun rest => skipLines rest.length rest

/-- The rest of a text over several lines, which ends at three quotes; `escapes` tells whether
backslashes mean anything. Up to two quotes in front of the end belong to the text. Each character
takes a step. -/
def scanLong (quote : Char) (escapes : Bool) : Nat → List Char → Option (List Char × List Char)
  | 0, _ => none
  | n + 1, cs =>
    let quotes := (cs.takeWhile (· == quote)).length
    -- of five quotes the first two belong to the text and the others end it
    if 3 ≤ quotes then
      let extra := min (quotes - 3) 2
      some (List.replicate extra quote, cs.drop (extra + 3))
    else
      match takeBreak? cs with
      | some rest => (scanLong quote escapes n rest).map fun (t, rest) => ('\n' :: t, rest)
      | none =>
        match cs with
        | c :: rest =>
          if escapes ∧ c = '\\' then
            match joinLine? rest with
            | some rest => scanLong quote escapes n rest
            | none => do
              let (e, rest) ← scanEscape rest
              let (t, rest) ← scanLong quote escapes n rest
              return (e :: t, rest)
          else if isPlain c then
            (scanLong quote escapes n rest).map fun (t, rest) => (c :: t, rest)
          else none
        | [] => none

def dropFirstBreak (cs : List Char) : List Char :=
  (takeBreak? cs).getD cs

def scanText (cs : List Char) : Option (String × List Char) :=
  let found : Option (List Char × List Char) := match cs with
    | '"' :: '"' :: '"' :: rest => scanLong '"' true (rest.length + 1) (dropFirstBreak rest)
    | '\'' :: '\'' :: '\'' :: rest => scanLong '\'' false (rest.length + 1) (dropFirstBreak rest)
    | '"' :: rest => scanQuoted (rest.length + 1) rest
    | '\'' :: rest => scanLiteral rest
    | _ => none
  found.map fun (t, rest) => (String.ofList t, rest)

/-! ## Keys -/

def isBare (c : Char) : Bool :=
  ('A' ≤ c ∧ c ≤ 'Z') ∨ ('a' ≤ c ∧ c ≤ 'z') ∨ isDigit c ∨ c = '_' ∨ c = '-'

def scanName (cs : List Char) : Option (String × List Char) :=
  match cs with
  | '"' :: rest => (scanQuoted (rest.length + 1) rest).map fun (t, rest) => (String.ofList t, rest)
  | '\'' :: rest => (scanLiteral rest).map fun (t, rest) => (String.ofList t, rest)
  | _ =>
    let name := cs.takeWhile isBare
    if name = [] then none else some (String.ofList name, cs.dropWhile isBare)

/-- A key: names with points between them, at least one, of which each takes a step. The last name
stands apart. -/
def scanKey : Nat → List Char → Option ((List String × String) × List Char)
  | 0, _ => none
  | n + 1, cs => do
    let (name, rest) ← scanName cs
    match skipGap rest with
    | '.' :: more => do
      let ((path, last), rest) ← scanKey n (skipGap more)
      return ((name :: path, last), rest)
    | _ => some (([], name), rest)

/-! ## Numbers and moments -/

/-- Digits with single underscores between them, the underscores removed. -/
def scanDigits (isOne : Char → Bool) : List Char → List Char × List Char
  | '_' :: c :: rest =>
    if isOne c then
      let (ds, rest) := scanDigits isOne rest
      (c :: ds, rest)
    else ([], '_' :: c :: rest)
  | c :: rest =>
    if isOne c then
      let (ds, rest) := scanDigits isOne rest
      (c :: ds, rest)
    else ([], c :: rest)
  | [] => ([], [])

/-- Digits with underscores between them, at least one, beginning with a digit. -/
def scanNumber (isOne : Char → Bool) (cs : List Char) : Option (List Char × List Char) :=
  match cs with
  | c :: _ => if isOne c then some (scanDigits isOne cs) else none
  | [] => none

def takeSign : List Char → List Char × List Char
  | '+' :: rest => ([], rest)
  | '-' :: rest => (['-'], rest)
  | cs => ([], cs)

/-- A decimal integer: its sign and digits, without a zero in front of others. -/
def scanDecimal (cs : List Char) : Option (List Char × List Char) :=
  let (sign, rest) := takeSign cs
  match rest with
  | '0' :: rest => some (sign ++ ['0'], rest)
  | _ => (scanNumber isDigit rest).map fun (ds, rest) => (sign ++ ds, rest)

def scanExponent : List Char → Option (List Char × List Char)
  | e :: rest =>
    if e = 'e' ∨ e = 'E' then
      let (sign, rest) := takeSign rest
      (scanNumber isDigit rest).map fun (ds, rest) => ('e' :: sign ++ ds, rest)
    else none
  | [] => none

def scanFraction : List Char → Option (List Char × List Char)
  | '.' :: rest => (scanNumber isDigit rest).map fun (ds, rest) => ('.' :: ds, rest)
  | _ => none

/-- A number with a fraction, an exponent or both. It must not be too large for a double. -/
def scanDecimalFloat (cs : List Char) : Option (Toml × List Char) := do
  let (whole, rest) ← scanDecimal cs
  let (tail, rest) ← match scanFraction rest with
    | some (fraction, rest) =>
      match scanExponent rest with
      | some (exponent, rest) => some (fraction ++ exponent, rest)
      | none => some (fraction, rest)
    | none => scanExponent rest
  match Decimal.readDouble? (whole ++ tail) with
  | some x => if x == Decimal.infinity then none else return (.float, rest)
  | none => none

def scanWordFloat (cs : List Char) : Option (Toml × List Char) :=
  let (_, rest) := takeSign cs
  ((dropLead "inf".toList rest).or (dropLead "nan".toList rest)).map fun rest => (.float, rest)

def holdInteger (n : Int) (rest : List Char) : Option (Toml × List Char) :=
  if -(Int.pow 2 63) ≤ n ∧ n < Int.pow 2 63 then some (.integer n, rest) else none

/-- An integer in a base that its first two characters tell. -/
def scanBased (base : Nat) (isOne : Char → Bool) (cs : List Char) : Option (Toml × List Char) := do
  let (ds, rest) ← scanNumber isOne cs
  holdInteger (foldDigits base 0 (ds.map fun c => (hexDigit? c).getD 0)) rest

def scanInteger (cs : List Char) : Option (Toml × List Char) :=
  match cs with
  | '0' :: 'x' :: rest => scanBased 16 (fun c => (hexDigit? c).isSome) rest
  | '0' :: 'o' :: rest => scanBased 8 (fun c => '0' ≤ c ∧ c ≤ '7') rest
  | '0' :: 'b' :: rest => scanBased 2 (fun c => c = '0' ∨ c = '1') rest
  | _ => do
    let (digits, rest) ← scanDecimal cs
    holdInteger (← readInt? digits) rest

def scanDate (cs : List Char) : Option (List Char) := do
  let (year, cs) ← Calendar.takeDigits? 4 cs
  let cs ← Calendar.expect? (· == '-') cs
  let (month, cs) ← Calendar.takeDigits? 2 cs
  let cs ← Calendar.expect? (· == '-') cs
  let (day, cs) ← Calendar.takeDigits? 2 cs
  if month < 1 ∨ 12 < month ∨ day < 1 ∨ Calendar.daysIn year month < day then none else return cs

/-- A time of day. The last minute of a day may have 61 seconds. -/
def scanTime (cs : List Char) : Option (List Char) := do
  let (hour, cs) ← Calendar.takeDigits? 2 cs
  let cs ← Calendar.expect? (· == ':') cs
  let (minute, cs) ← Calendar.takeDigits? 2 cs
  let cs ← Calendar.expect? (· == ':') cs
  let (second, cs) ← Calendar.takeDigits? 2 cs
  if 23 < hour ∨ 59 < minute ∨ 60 < second then none
  else
    let (_, cs) ← Calendar.readFraction? cs
    return cs

def skipOffset (cs : List Char) : List Char :=
  match cs with
  | 'Z' :: rest => rest
  | 'z' :: rest => rest
  | _ => if (Calendar.readOffset? (cs.take 6)).isSome then cs.drop 6 else cs

/-- A moment: a date, a time, or both with an optional offset. -/
def scanMoment (cs : List Char) : Option (Toml × List Char) :=
  match scanDate cs with
  | some rest =>
    match (Calendar.expect? (fun c => c == 'T' || c == 't' || c == ' ') rest).bind scanTime with
    | some rest => some (.moment, skipOffset rest)
    | none => some (.moment, rest)
  | none => (scanTime cs).map fun rest => (.moment, rest)

def scanWord (cs : List Char) : Option (Toml × List Char) :=
  match dropLead "true".toList cs with
  | some rest => some (.bool true, rest)
  | none => (dropLead "false".toList cs).map fun rest => (.bool false, rest)

def scanSimple (cs : List Char) : Option (Toml × List Char) :=
  (((scanMoment cs).or (scanDecimalFloat cs)).or (scanInteger cs)).or
    ((scanWordFloat cs).or (scanWord cs))

/-! ## Values -/

def skipBetween : Nat → List Char → List Char
  | 0, cs => cs
  | n + 1, cs =>
    let next := skipComment (skipLines cs.length cs)
    if next.length < cs.length then skipBetween n next else cs

def skipAll (cs : List Char) : List Char :=
  skipBetween cs.length cs

def maxDepth : Nat := 80

mutual

def scanValue (depth : Nat) : Nat → List Char → Option (Toml × List Char)
  | 0, _ => none
  | n + 1, cs =>
    if maxDepth ≤ depth then none
    else
      match cs with
      | '[' :: rest =>
        match skipAll rest with
        | ']' :: rest => some (.array [], rest)
        | inner => (scanItems (depth + 1) n inner).map fun (l, rest) => (.array l, rest)
      | '\x7b' :: rest =>
        match skipGap rest with
        | '\x7d' :: rest => some (.table .inline [], rest)
        | inner => (scanPairs (depth + 1) [] n inner).map fun (e, rest) => (.table .inline e, rest)
      | '"' :: _ => (scanText cs).map fun (s, rest) => (.text s, rest)
      | '\'' :: _ => (scanText cs).map fun (s, rest) => (.text s, rest)
      | _ => scanSimple cs

/-- The items of an array up to its end; a comma may stand behind the last. -/
def scanItems (depth : Nat) : Nat → List Char → Option (List Toml × List Char)
  | 0, _ => none
  | n + 1, cs => do
    let (item, rest) ← scanValue depth n cs
    match skipAll rest with
    | ']' :: rest => some ([item], rest)
    | ',' :: rest =>
      match skipAll rest with
      | ']' :: rest => some ([item], rest)
      | rest => (scanItems depth n rest).map fun (l, rest) => (item :: l, rest)
    | _ => none

/-- The entries of a table on one line, on top of those read so far, up to its end. -/
def scanPairs (depth : Nat) (sofar : Entries) : Nat → List Char → Option (Entries × List Char)
  | 0, _ => none
  | n + 1, cs => do
    let ((path, name), rest) ← scanKey cs.length (skipGap cs)
    let rest ← Calendar.expect? (· == '=') (skipGap rest)
    let (v, rest) ← scanValue depth n (skipGap rest)
    let entries ← addKey path name v sofar
    match skipGap rest with
    | '\x7d' :: rest => some (entries, rest)
    | ',' :: rest => scanPairs depth entries n rest
    | _ => none

end

/-! ## Lines -/

structure Draft where
  entries : Entries
  header : List String

def scanLine (d : Draft) (cs : List Char) : Option (Draft × List Char) :=
  match cs with
  | '[' :: '[' :: rest => do
    let ((path, name), rest) ← scanKey rest.length (skipGap rest)
    let rest ← dropLead "]]".toList (skipGap rest)
    return (⟨← changeAt false (openItem name) path false d.entries, path ++ [name]⟩, rest)
  | '[' :: rest => do
    let ((path, name), rest) ← scanKey rest.length (skipGap rest)
    let rest ← Calendar.expect? (· == ']') (skipGap rest)
    return (⟨← changeAt false (openTable name) path false d.entries, path ++ [name]⟩, rest)
  | c :: _ =>
    if c = '#' ∨ c = '\n' ∨ c = '\r' then some (d, cs)
    else do
      let ((path, name), rest) ← scanKey cs.length cs
      let rest ← Calendar.expect? (· == '=') (skipGap rest)
      let (v, rest) ← scanValue 0 (2 * rest.length + 2) (skipGap rest)
      return ({ d with entries := ← addUnder d.header path name v d.entries }, rest)
  | [] => some (d, [])

def scanLines : Nat → Draft → List Char → Option Draft
  | 0, _, _ => none
  | n + 1, d, cs => do
    let (d, rest) ← scanLine d (skipGap cs)
    match skipComment (skipGap rest) with
    | [] => some d
    | rest => scanLines n d (← takeBreak? rest)

/-- The entries of a file. A byte order mark in front is skipped. -/
def read? (cs : List Char) : Option Entries :=
  let cs := match cs with
    | '\ufeff' :: rest => rest
    | cs => cs
  (scanLines (cs.length + 1) ⟨[], []⟩ cs).map Draft.entries

end DocGuard.Toml
