import DocGuard.Decimal.Numeral
import DocGuard.Shell.Script
import DocGuard.Text.Bytes

/-!
# Running commands

A small set of commands is run by the library itself: a shell, `cat`, `sleep`, `echo`, `printf` and
a few more words of the shell. A run is a pure function of the command and its input, and tells how
long it would take.
-/

namespace DocGuard.Shell

open DocGuard.Text

/-- What a run left behind: its output, its error output, what it did not read of its input, its
exit status, the microseconds that it took, and whether it ended the script around it. -/
structure Trace where
  output : List UInt8
  errors : List UInt8
  input : List UInt8
  status : Nat
  micros : Nat
  exited : Bool

namespace Trace

def ending (n : Nat) (input : List UInt8) : Trace :=
  ⟨[], [], input, n, 0, false⟩

def written (bytes input : List UInt8) : Trace :=
  ⟨bytes, [], input, 0, 0, false⟩

def failed (n : Nat) (complaint : String) (input : List UInt8) : Trace :=
  ⟨[], bytesOf (complaint ++ "\n"), input, n, 0, false⟩

def andThen (first second : Trace) : Trace :=
  ⟨first.output ++ second.output, first.errors ++ second.errors, second.input, second.status,
    first.micros + second.micros, second.exited⟩

end Trace

/-! ## Texts with escapes -/

/-- Up to `n` octal digits at the front of a text: their value, how many there are, and what
follows them. -/
def takeOctal : Nat → List Char → Nat × Nat × List Char
  | 0, cs => (0, 0, cs)
  | n + 1, c :: rest =>
    if '0' ≤ c ∧ c ≤ '7' then
      let d := c.toNat - '0'.toNat
      let (v, used, rest) := takeOctal n rest
      (d * Nat.pow 8 used + v, used + 1, rest)
    else (0, 0, c :: rest)
  | _, [] => (0, 0, [])

def charBytes (c : Char) : List UInt8 :=
  bytesOf (String.ofList [c])

def escapeByte? (c : Char) : Option UInt8 :=
  match c with
  | 'a' => some 7
  | 'b' => some 8
  | 'f' => some 12
  | 'n' => some 10
  | 'r' => some 13
  | 't' => some 9
  | 'v' => some 11
  | '\\' => some 92
  | _ => none

/-- The bytes of an escape behind its backslash, and what follows it. Octal digits may have a zero
in front where `zero` says so. -/
def takeEscape (zero : Bool) : List Char → List UInt8 × List Char
  | [] => ([92], [])
  | c :: rest =>
    match escapeByte? c with
    | some b => ([b], rest)
    | none =>
      if zero then
        if c = '0' then
          let (v, _, rest) := takeOctal 3 rest
          ([UInt8.ofNat v], rest)
        else (92 :: charBytes c, rest)
      else
        match takeOctal 3 (c :: rest) with
        | (_, 0, _) => (92 :: charBytes c, rest)
        | (v, _, rest) => ([UInt8.ofNat v], rest)

/-- A text with its escapes replaced, and whether it was cut off; each character takes a step. -/
def expandEscapes : Nat → List Char → List UInt8 × Bool
  | 0, _ => ([], false)
  | _, [] => ([], false)
  | n + 1, c :: rest =>
    if c = '\\' then
      if rest.head? = some 'c' then ([], true)
      else
        let (bytes, rest) := takeEscape true rest
        let (more, cut) := expandEscapes n rest
        (bytes ++ more, cut)
    else
      let (more, cut) := expandEscapes n rest
      (charBytes c ++ more, cut)

def echoBytes (args : List String) : List UInt8 :=
  let (breaks, words) := match args with
    | "-n" :: rest => (false, rest)
    | rest => (true, rest)
  let text := (joinWith " " words).toList
  let (bytes, cut) := expandEscapes (text.length + 1) text
  bytes ++ (if breaks && !cut then [10] else [])

/-- One pass of `printf` over its format: what it writes, the arguments it leaves, and whether it
used any. -/
def formatPass : Nat → List Char → List String → List UInt8 × List String × Bool
  | 0, _, args => ([], args, false)
  | _, [], args => ([], args, false)
  | n + 1, c :: rest, args =>
    if c = '\\' then
      let (bytes, rest) := takeEscape false rest
      let (more, args, used) := formatPass n rest args
      (bytes ++ more, args, used)
    else if c = '%' then
      match rest with
      | [] => ([37], args, false)
      | '%' :: rest =>
        let (more, args, used) := formatPass n rest args
        (37 :: more, args, used)
      | kind :: rest =>
        let word := args.headD ""
        let bytes := if kind = 'b' then (expandEscapes (word.length + 1) word.toList).1
          else if kind = 'd' then
            bytesOf (toString (((readInt? word.toList).getD 0) : Int))
          else if kind = 'c' then bytesOf (String.ofList (word.toList.take 1))
          else bytesOf word
        let (more, args, _) := formatPass n rest args.tail
        (bytes ++ more, args, true)
    else
      let (more, args, used) := formatPass n rest args
      (charBytes c ++ more, args, used)

/-- What `printf` writes: the format is used again while arguments are left. -/
def formatBytes : Nat → List Char → List String → List UInt8
  | 0, _, _ => []
  | n + 1, format, args =>
    let (bytes, left, used) := formatPass (format.length + 1) format args
    if used ∧ left ≠ [] then bytes ++ formatBytes n format left else bytes

/-! ## Commands -/

/-- The microseconds of a duration: seconds, or another unit with its letter. -/
def micros? (text : String) : Option Nat :=
  let cs := text.toList
  let (digits, unit) := match cs.getLast? with
    | some 's' => (cs.dropLast, 1)
    | some 'm' => (cs.dropLast, 60)
    | some 'h' => (cs.dropLast, 3600)
    | some 'd' => (cs.dropLast, 86400)
    | _ => (cs, 1)
  (Decimal.Numeral.read? digits).bind fun n =>
    if n.negative then none
    else
      let scaled := n.coefficient * unit * 1000000
      if 0 ≤ n.exponent then some (scaled * Nat.pow 10 n.exponent.toNat)
      else some (scaled / Nat.pow 10 n.exponent.natAbs)

def runSleep (args : List String) (input : List UInt8) : Trace :=
  let hint := "\nTry 'sleep --help' for more information."
  match args with
  | [] => .failed 1 ("sleep: missing operand" ++ hint) input
  | _ =>
    match args.find? fun a => (micros? a).isNone with
    | some a => .failed 1 ("sleep: invalid time interval ‘" ++ a ++ "’" ++ hint) input
    | none => { Trace.ending 0 input with micros := (args.filterMap micros?).foldr (· + ·) 0 }

def runCat : List String → List UInt8 → Trace
  | [], input => .written input []
  | args, input => args.foldl (fun t a =>
      let next : Trace :=
        if a = "-" then .written t.input []
        else if a = "/dev/null" then .ending 0 t.input
        else .failed 1 ("cat: " ++ a ++ ": No such file or directory") t.input
      { t.andThen next with status := max t.status next.status }) (.ending 0 input)

def runExit (place : String) (last : Nat) (args : List String) (input : List UInt8) : Trace :=
  match args with
  | [] => { Trace.ending last input with exited := true }
  | a :: _ =>
    match readNat? a.toList with
    | some n => { Trace.ending (n % 256) input with exited := true }
    | none =>
      { Trace.failed 2 (place ++ "exit: Illegal number: " ++ a) input with exited := true }

def runProgram? (words : List String) (input : List UInt8) : Option Trace :=
  match words with
  | "cat" :: args => some (runCat args input)
  | "/bin/cat" :: args => some (runCat args input)
  | "sleep" :: args => some (runSleep args input)
  | "/bin/sleep" :: args => some (runSleep args input)
  | "echo" :: args => some (.written (echoBytes args) input)
  | "true" :: _ => some (.ending 0 input)
  | "false" :: _ => some (.ending 1 input)
  | _ => none

/-- The run of `kill` in a script, which can reach the shell itself alone. -/
def runKill (args : List String) (input : List UInt8) : Trace :=
  if "$$" ∈ args then { Trace.ending 143 input with exited := true }
  else .failed 1 "sh: 1: kill: No such process" input

def runWords (line last : Nat) (words : List String) (input : List UInt8) : Trace :=
  let place := "sh: " ++ toString line ++ ": "
  match words with
  | [] => .ending 0 input
  | ":" :: _ => .ending 0 input
  | "exit" :: args => runExit place last args input
  | "kill" :: args => runKill args input
  | "exec" :: word :: args =>
    match runProgram? (word :: args) input with
    | some t => { t with exited := true }
    | none => { Trace.failed 127 (place ++ "exec: " ++ word ++ ": not found") input with
        exited := true }
  | "printf" :: format :: args =>
    .written (formatBytes (args.length + 1) format.toList args) input
  | name :: _ =>
    match runProgram? words input with
    | some t => t
    | none => .failed 127 (place ++ name ++ ": not found") input

inductive Sink where
  | output
  | errors
  | nowhere
deriving DecidableEq, Repr

def Redirection.apply (sinks : Sink × Sink) (r : Redirection) : Sink × Sink :=
  let target := if r.sign = ">&" then
      (if r.target = "1" then sinks.1 else if r.target = "2" then sinks.2 else .nowhere)
    else if r.target = "/dev/stderr" then sinks.2
    else if r.target = "/dev/stdout" then sinks.1
    else .nowhere
  if r.stream = 1 then (target, sinks.2) else if r.stream = 2 then (sinks.1, target) else sinks

def gather (sinks : Sink × Sink) (t : Trace) (sink : Sink) : List UInt8 :=
  (if sinks.1 = sink then t.output else []) ++ (if sinks.2 = sink then t.errors else [])

def runCommand (line last : Nat) (c : Command) (input : List UInt8) : Trace :=
  -- an input from elsewhere leaves the one of the script unread
  let closed := c.redirections.any fun r => r.stream = 0
  let t := runWords line last c.words (if closed then [] else input)
  let sinks := c.redirections.foldl Redirection.apply (.output, .errors)
  { t with
    output := gather sinks t .output, errors := gather sinks t .errors
    input := if closed then input else t.input }

/-- The run of commands each of which reads what the one before it wrote. -/
def runPipeline (line last : Nat) : List Command → List UInt8 → Trace
  | [], input => .ending last input
  | [c], input => runCommand line last c input
  | c :: rest, input =>
    let left := runCommand line last c input
    let right := runPipeline line last rest left.output
    -- all run at the same time, and each in a shell of its own that alone it can end
    { right with
      errors := left.errors ++ right.errors, input := left.input
      micros := max left.micros right.micros, exited := false }

def runSteps (sofar : Trace) : List Step → Trace
  | [] => sofar
  | step :: rest =>
    let runs := match step.condition with
      | .always => true
      | .afterSuccess => sofar.status = 0
      | .afterFailure => sofar.status ≠ 0
    if runs then
      let t := sofar.andThen (runPipeline step.line sofar.status step.commands sofar.input)
      if t.exited then t else runSteps t rest
    else runSteps sofar rest

def runScript (script : List Char) (input : List UInt8) : Trace :=
  match readScript script with
  | some steps => runSteps (.ending 0 input) steps
  | none => .failed 2 "sh: 1: Syntax error" input

def run? (words : List String) (input : List UInt8) : Option Trace :=
  match words with
  | shell :: args =>
    if shell = "sh" ∨ shell = "/bin/sh" then
      match args with
      | "-c" :: script :: _ => some (runScript script.toList input)
      | "-c" :: [] => some (.failed 2 "sh: 0: -c requires an argument" input)
      | [] => some (runScript (decodeBytes input) [])
      | file :: _ => some (.failed 2 ("sh: 0: cannot open " ++ file ++ ": No such file") input)
    else runProgram? words input
  | [] => none

end DocGuard.Shell
