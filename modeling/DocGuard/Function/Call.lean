import DocGuard.Fault

/-!
# Function calls

Rules may ask user functions. A caller is a function from the name, the arguments and the context
of a call to its answer; a traced computation remembers which calls it made, in order, also when it
fails. Its result is that of the same computation without the memory (`result_bind`).
-/

namespace DocGuard

structure CallContext where
  user : Document
  asSystem : Bool

def CallContext.ofUser (user : Document) : CallContext :=
  ⟨user, false⟩

def CallContext.system : CallContext :=
  ⟨[], true⟩

structure Call where
  name : String
  args : List Value
  context : CallContext

abbrev Caller := String → List Value → CallContext → Except Fault Value

/-- A computation that may call functions: its calls in order, and how it ended. -/
structure Traced (α : Type) where
  calls : List Call
  result : Except Fault α

namespace Traced

variable {α β : Type}

protected def pure (a : α) : Traced α :=
  ⟨[], .ok a⟩

/-- One computation after another; a fault ends both. -/
protected def bind (x : Traced α) (f : α → Traced β) : Traced β :=
  match x.result with
  | .ok a =>
    let y := f a
    ⟨x.calls ++ y.calls, y.result⟩
  | .error e => ⟨x.calls, .error e⟩

instance : Monad Traced where
  pure := Traced.pure
  bind := Traced.bind

def lift (r : Except Fault α) : Traced α :=
  ⟨[], r⟩

instance : MonadLift (Except Fault) Traced := ⟨lift⟩

def fail (e : Fault) : Traced α :=
  ⟨[], .error e⟩

def call (caller : Caller) (name : String) (args : List Value) (context : CallContext) :
    Traced Value :=
  ⟨[⟨name, args, context⟩], caller name args context⟩

/-- All computations, one after another, whether they fail or not; the first fault is the result. -/
def gather : List (Traced α) → Traced (List α)
  | [] => Traced.pure []
  | x :: rest =>
    let others := gather rest
    ⟨x.calls ++ others.calls, do return (← x.result) :: (← others.result)⟩

/-- Computations for all items, one after another up to the first fault. -/
def forAll (f : β → Traced Unit) : List β → Traced Unit
  | [] => Traced.pure ()
  | b :: rest => (f b).bind fun _ => forAll f rest

@[simp] theorem result_pure (a : α) : (pure a : Traced α).result = .ok a := rfl

@[simp] theorem result_lift (r : Except Fault α) : (lift r).result = r := rfl

@[simp] theorem result_fail (e : Fault) : (fail e : Traced α).result = .error e := rfl

@[simp] theorem result_call (caller : Caller) (name : String) (args : List Value)
    (context : CallContext) : (call caller name args context).result = caller name args context :=
  rfl

@[simp] theorem result_bind (x : Traced α) (f : α → Traced β) :
    (x >>= f).result = x.result >>= fun a => (f a).result := by
  show (Traced.bind x f).result = _
  unfold Traced.bind
  cases x.result <;> rfl

end Traced

end DocGuard
