import DocGuard.Text.Blank

/-!
# The reader's place in a pattern

What is left of the text of a pattern, and whether blanks and comments in it count. A comment
starts with `#` and ends with its line.
-/

namespace DocGuard.Pattern

open DocGuard.Text

/-- The text that is left, and whether blanks and comments in it are skipped. -/
structure Cursor where
  rest : List Char
  verbose : Bool

/-- The text behind blanks and comments; the first argument tells whether it begins within a
comment. -/
def skipBlanks : Bool → List Char → List Char
  | _, [] => []
  | true, c :: cs => skipBlanks (c ≠ '\n') cs
  | false, c :: cs =>
    if c = '#' then skipBlanks true cs
    else if isBlank c then skipBlanks false cs
    else c :: cs

/-- The first character that is no blank, looked for within a comment or in front of one. -/
def firstPlain? : Bool → List Char → Option Char
  | _, [] => none
  | inComment, c :: cs =>
    if isBlank c then firstPlain? inComment cs
    else if c = '#' ∧ !inComment then firstPlain? true cs
    else some c

namespace Cursor

def settle (k : Cursor) : Cursor :=
  if k.verbose then { k with rest := skipBlanks false k.rest } else k

def skip (k : Cursor) : Cursor :=
  { k with rest := k.rest.drop 1 }

def next (k : Cursor) : Cursor :=
  k.skip.settle

def head? (k : Cursor) : Option Char :=
  k.rest.head?

/-- The character after the next. If blanks are skipped they are skipped here too, but a comment
does not end with its line: its first character that is no blank is taken. If there is none, the
blank itself is taken. -/
def peek? (k : Cursor) : Option Char :=
  let after := k.rest.drop 1
  if k.verbose then (firstPlain? false after).or after.head? else after.head?

example : skipBlanks false [' ', '#', 'a', '\n', ' ', 'b'] = ['b'] := by decide

example : (Cursor.mk ['-', '#', ' ', ']', '\n', 'a'] true).peek? = some ']' := by decide

end Cursor

end DocGuard.Pattern
