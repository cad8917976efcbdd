import DocGuard.Function.Call
import DocGuard.Naming

/-!
# Stored functions

Functions are declared by name. An executor looks a name up, raises the context of a function that
runs as system, and leaves the run to a runtime.
-/

namespace DocGuard

structure StoredFunction where
  name : String
  source : String
  hidden : Bool
  asSystem : Bool
deriving DecidableEq, Repr

def StoredFunction.named (name : String) : StoredFunction :=
  ⟨name, "", false, false⟩

abbrev Registry := Table StoredFunction

/-- Declares a function, in place of one of its name. -/
def Registry.declare (r : Registry) (f : StoredFunction) : Registry :=
  r.set f.name f

def Registry.ofList (fs : List StoredFunction) : Registry :=
  fs.foldl Registry.declare []

abbrev Runtime := StoredFunction → List Value → CallContext → Except Fault Value

abbrev Handler := List Value → CallContext → Except Fault Value

def Runtime.ofHandlers (handlers : Table Handler) : Runtime := fun f args context =>
  match handlers.find? f.name with
  | some handler => handler args context
  | none => .error (.functionNotFound f.name)

structure Executor where
  registry : Registry
  runtime : Runtime

def StoredFunction.raise (f : StoredFunction) (context : CallContext) : CallContext :=
  if f.asSystem then { context with asSystem := true } else context

def Executor.caller (e : Executor) : Caller := fun name args context =>
  match e.registry.find? name with
  | some f => e.runtime f args (f.raise context)
  | none => .error (.functionNotFound name)

/-- The handler run that a call leads to, as the function's name and whether it runs as system;
calls of unknown functions and of those without a handler lead to none. -/
def handlerRun? (registry : Registry) (handlers : Table Handler) (c : Call) :
    Option (String × Bool) :=
  match registry.find? c.name with
  | some f =>
    if (handlers.find? f.name).isSome then some (f.name, (f.raise c.context).asSystem) else none
  | none => none

end DocGuard
