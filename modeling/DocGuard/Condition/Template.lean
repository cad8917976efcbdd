import DocGuard.Document.Path

/-!
# Templates

Rules and filters speak of their context through tokens such as `%%user.id`. Expansion puts values
in the place of token texts, once: what it puts in is not expanded again. Names of entries stay as
they are, so that they can still be read as paths.
-/

namespace DocGuard

open DocGuard.Text

/-- What a token stands for: the substitution of that very name, or a path into the one in front
of its first point. A path that leads nowhere gives null; an unknown name gives nothing. -/
def resolveToken (substitutions : Document) (token : String) : Option Value :=
  match substitutions.get? token with
  | some v => some v
  | none =>
    match cutAt '.' token.toList with
    | none => none
    | some (head, path) =>
      match substitutions.get? (String.ofList head) with
      | none => none
      -- the name is known, so a path that fails in it is null and does not stay a token
      | some (.doc d) => some ((Document.getPath d (String.ofList path)).getD .null)
      | some _ => some .null

def isToken (s : String) : Bool :=
  beginsWith s "%%"

mutual

def expandValue (substitutions : Document) : Value → Value
  | .doc entries => .doc (expandEntries substitutions entries)
  | .array items => .array (expandItems substitutions items)
  | .str s => if isToken s then (resolveToken substitutions s).getD (.str s) else .str s
  | v => v

def expandItems (substitutions : Document) : List Value → List Value
  | [] => []
  | v :: rest => expandValue substitutions v :: expandItems substitutions rest

def expandEntries (substitutions : Document) : List (String × Value) → List (String × Value)
  | [] => []
  | (k, v) :: rest => (k, expandValue substitutions v) :: expandEntries substitutions rest

end

def Document.expand (template substitutions : Document) : Document :=
  expandEntries substitutions template

end DocGuard
