import DocGuard.Guard.Basic

/-!
# Guarded reading

A refused document looks like a missing one: the search for a single document then gives an empty
document, and a list leaves it out. Pipelines are run without regard to the rules.
-/

namespace DocGuard

namespace Guard

/-- The first document that satisfies a filter, as far as the user may see it. Where there are
roles, a miss looks like a refusal. -/
def findOne (g : Guard) (c : Collection) (filter : Document) : Traced (Option Document) :=
  if g.asSystem then .lift (c.findOne filter)
  else do
    match ← c.findOne (← g.narrow filter) with
    | some d => return some ((← g.validate d .read).getD [])
    | none => return if g.roles.isEmpty then none else some []

def find (g : Guard) (c : Collection) (filter : Document) (w : Window) :
    Traced (List Document) :=
  if g.asSystem then .lift (c.find filter w)
  else do
    let found ← c.find (← g.narrow filter) w
    let seen ← Traced.gather (found.map fun d => g.validate d .read)
    return seen.filterMap id

def aggregate (_ : Guard) (c : Collection) (pipeline : List Document) :
    Except Fault (List Document) :=
  c.aggregate pipeline

end Guard

end DocGuard
