import DocGuard.Text.Split
import DocGuard.Text.Digits

/-!
# Shell scripts

A script is a list of pipelines with a condition on each: it runs always, or only after success or
failure. Words may be quoted; nothing in them is expanded.
-/

namespace DocGuard.Shell

open DocGuard.Text

inductive Token where
  | word (text : String)
  | redirect (stream : Nat) (sign : String)
  | pipe
  | both
  | either
  | next (line : Nat)
deriving DecidableEq, Repr

def endsWord (c : Char) : Bool :=
  c = ' ' ∨ c = '\t' ∨ c = '\n' ∨ c = ';' ∨ c = '&' ∨ c = '|' ∨ c = '<' ∨ c = '>'

/-- The rest of a word in double quotes, where a backslash escapes only a few characters. -/
def scanDouble : List Char → Option (List Char × List Char)
  | [] => none
  | '"' :: rest => some ([], rest)
  | '\\' :: c :: rest =>
    (scanDouble rest).map fun (w, rest) =>
      if c = '\n' then (w, rest)
      else if c = '"' ∨ c = '\\' ∨ c = '$' ∨ c = '\x60' then (c :: w, rest)
      else ('\\' :: c :: w, rest)
  | c :: rest => (scanDouble rest).map fun (w, rest) => (c :: w, rest)

/-- A word and what follows it; each part of it takes a step. An open quote is refused. -/
def scanWord : Nat → List Char → Option (List Char × List Char)
  | 0, cs => some ([], cs)
  | _, [] => some ([], [])
  | n + 1, c :: rest =>
    if c = '\'' then do
      let (inside, rest) ← cutAt '\'' rest
      let (w, rest) ← scanWord n rest
      return (inside ++ w, rest)
    else if c = '"' then do
      let (inside, rest) ← scanDouble rest
      let (w, rest) ← scanWord n rest
      return (inside ++ w, rest)
    else if c = '\\' then
      match rest with
      | [] => some (['\\'], [])
      | '\n' :: rest => scanWord n rest
      | e :: rest => (scanWord n rest).map fun (w, rest) => (e :: w, rest)
    else if endsWord c then some ([], c :: rest)
    else (scanWord n rest).map fun (w, rest) => (c :: w, rest)

def scanSign (c : Char) : List Char → String × List Char
  | '&' :: rest => (String.ofList [c, '&'], rest)
  | '>' :: rest => (String.ofList [c, '>'], rest)
  | rest => (String.ofList [c], rest)

/-- The tokens of a script from a line on; each takes a step. -/
def scanTokens : Nat → Nat → List Char → Option (List Token)
  | 0, _, _ => some []
  | _, _, [] => some []
  | n + 1, line, c :: rest =>
    if c = ' ' ∨ c = '\t' then scanTokens n line rest
    else if c = '\n' then (scanTokens n (line + 1) rest).map (.next (line + 1) :: ·)
    else if c = ';' then (scanTokens n line rest).map (.next line :: ·)
    else if c = '#' then scanTokens n line (rest.dropWhile (· ≠ '\n'))
    else if c = '&' then
      match rest with
      | '&' :: rest => (scanTokens n line rest).map (.both :: ·)
      | _ => (scanTokens n line rest).map (.next line :: ·)
    else if c = '|' then
      match rest with
      | '|' :: rest => (scanTokens n line rest).map (.either :: ·)
      | _ => (scanTokens n line rest).map (.pipe :: ·)
    else if c = '<' ∨ c = '>' then
      let (sign, rest) := scanSign c rest
      (scanTokens n line rest).map (.redirect (if c = '<' then 0 else 1) sign :: ·)
    else
      match decimalDigit? c, rest with
      | some d, '>' :: more =>
        let (sign, more) := scanSign '>' more
        (scanTokens n line more).map (.redirect d sign :: ·)
      | _, _ => do
        let (w, rest) ← scanWord (rest.length + 1) (c :: rest)
        let tokens ← scanTokens n line rest
        return .word (String.ofList w) :: tokens

structure Redirection where
  stream : Nat
  sign : String
  target : String
deriving DecidableEq, Repr

structure Command where
  words : List String
  redirections : List Redirection
deriving DecidableEq, Repr

inductive Condition where
  | always
  | afterSuccess
  | afterFailure
deriving DecidableEq, Repr

structure Step where
  condition : Condition
  commands : List Command
  line : Nat
deriving DecidableEq, Repr

def Command.empty : Command :=
  ⟨[], []⟩

def Command.isEmpty (c : Command) : Bool :=
  c.words.isEmpty && c.redirections.isEmpty

/-- The steps that tokens make, given the step and the command under way. Commands may be missing
only where a line or a semicolon ends. -/
def readSteps (step : Step) (command : Command) : List Token → Option (List Step)
  | [] =>
    if command.isEmpty then
      if step.commands.isEmpty ∧ step.condition = .always then some [] else none
    else some [{ step with commands := step.commands ++ [command] }]
  | .word w :: rest => readSteps step { command with words := command.words ++ [w] } rest
  | .redirect stream sign :: .word w :: rest =>
    readSteps step
      { command with redirections := command.redirections ++ [⟨stream, sign, w⟩] } rest
  | .redirect _ _ :: _ => none
  | .pipe :: rest =>
    if command.isEmpty then none
    else readSteps { step with commands := step.commands ++ [command] } .empty rest
  | .both :: rest =>
    if command.isEmpty then none
    else (readSteps ⟨.afterSuccess, [], step.line⟩ .empty rest).map
      ({ step with commands := step.commands ++ [command] } :: ·)
  | .either :: rest =>
    if command.isEmpty then none
    else (readSteps ⟨.afterFailure, [], step.line⟩ .empty rest).map
      ({ step with commands := step.commands ++ [command] } :: ·)
  | .next line :: rest =>
    if command.isEmpty then
      if step.commands.isEmpty then readSteps { step with line } .empty rest else none
    else (readSteps ⟨.always, [], line⟩ .empty rest).map
      ({ step with commands := step.commands ++ [command] } :: ·)

def readScript (cs : List Char) : Option (List Step) :=
  (scanTokens (cs.length + 1) 1 cs).bind (readSteps ⟨.always, [], 1⟩ .empty)

example : readScript "cat > /dev/null; echo 'a b'".toList =
    some [⟨.always, [⟨["cat"], [⟨1, ">", "/dev/null"⟩]⟩], 1⟩,
      ⟨.always, [⟨["echo", "a b"], []⟩], 1⟩] := by
  decide +kernel

end DocGuard.Shell
