import DocGuard.ExtendedJson.Answer
import DocGuard.ExtendedJson.Relaxed
import DocGuard.Function.Registry
import DocGuard.Json.Printer
import DocGuard.Json.Reader
import DocGuard.Shell.Run

/-!
# Functions run by a command

A command is given the function, its arguments and its context as one JSON object, and answers with
one JSON value. No output at all stands for null.
-/

namespace DocGuard

open DocGuard.Text

def functionRequest (f : StoredFunction) (args : List Value) (context : CallContext) : Json :=
  .object [
    ("name", .text f.name),
    ("source", .text f.source),
    ("args", .array (args.map Value.relaxed)),
    ("context", .object [
      ("user", (Value.doc context.user).relaxed),
      ("run_as_system", .bool context.asSystem)])]

def answerOf (output : List UInt8) : Except Fault Value :=
  let text := trim (decodeBytes output)
  if text = [] then .ok .null
  else
    match Json.readWhole? text with
    | none => .error (.json "no JSON value")
    | some j =>
      match Value.ofAnswer j with
      | .ok v => .ok v
      | .error reason => .error (.functionAnswer reason)

/-- The runtime that runs each function by a command, for less than some seconds. -/
def Runtime.byCommand (command : List String) (seconds : Nat) : Runtime :=
  fun f args context =>
    match Shell.run? command (bytesOf (functionRequest f args context).compact) with
    | none => .error (.io "no such program")
    | some t =>
      if seconds * 1000000 ≤ t.micros then .error (.functionTimeout f.name)
      else if t.status ≠ 0 then
        .error (.function (String.ofList (trim (decodeBytes t.errors))))
      else answerOf t.output

/-- The runtime for a command, which has to name a program. -/
def Runtime.ofCommand (command : List String) (seconds : Nat) : Except Fault Runtime :=
  if command.isEmpty then .error (.config .commandRequired)
  else .ok (.byCommand command seconds)

end DocGuard
