import DocGuard.Proofs.Path

/-!
# What stands in a value

Paths lead through documents and lists, and expansion goes through them. What stands in a value has
an address there, which counts off the contents on the way; whatever a path leads to is among it.
-/

namespace DocGuard

open DocGuard.Text

namespace Value

/-- The values that are expanded with a value: its items, or the values of its entries. The scope
of code is not among them. -/
def contents : Value → List Value
  | .doc entries => entries.map Prod.snd
  | .array items => items
  | _ => []

/-- The value at an address: each number counts off one of the contents. -/
def atAddress : List Nat → Value → Option Value
  | [], v => some v
  | i :: rest, v => (v.contents[i]?).bind (atAddress rest)

theorem atAddress_append (front back : List Nat) (v : Value) :
    atAddress (front ++ back) v = (atAddress front v).bind (atAddress back) := by
  induction front generalizing v with
  | nil => rfl
  | cons i rest ih =>
    rw [List.cons_append, atAddress, atAddress]
    cases v.contents[i]? with
    | none => rfl
    | some inner => exact ih inner

/-- Whether a value holds another one at some address, be it itself. -/
def Holds (v w : Value) : Prop :=
  ∃ address, v.atAddress address = some w

theorem Holds.refl (v : Value) : v.Holds v :=
  ⟨[], rfl⟩

theorem Holds.trans {v inner w : Value} (h : v.Holds inner) (hw : inner.Holds w) : v.Holds w := by
  obtain ⟨front, hfront⟩ := h
  obtain ⟨back, hback⟩ := hw
  refine ⟨front ++ back, ?_⟩
  rw [atAddress_append, hfront]
  exact hback

theorem holds_of_mem {v w : Value} (h : w ∈ v.contents) : v.Holds w := by
  obtain ⟨i, hi⟩ := List.mem_iff_getElem?.mp h
  refine ⟨[i], ?_⟩
  rw [atAddress, hi]
  rfl

theorem holds_of_get? {entries : Document} {key : String} {v : Value}
    (h : entries.get? key = some v) : (Value.doc entries).Holds v :=
  holds_of_mem (List.mem_map_of_mem (Document.mem_of_get? h))

theorem holds_of_walk {path : List String} {v w : Value} (h : walk path v = some w) :
    v.Holds w := by
  induction path generalizing v with
  | nil =>
    cases h
    exact Holds.refl w
  | cons segment rest ih =>
    cases v with
    | doc entries =>
      obtain ⟨inner, hinner, hrest⟩ := Option.bind_eq_some_iff.mp h
      exact (holds_of_get? hinner).trans (ih hrest)
    | array items =>
      obtain ⟨i, _, hitem⟩ := Option.bind_eq_some_iff.mp h
      obtain ⟨inner, hinner, hrest⟩ := Option.bind_eq_some_iff.mp hitem
      exact (holds_of_mem (List.mem_of_getElem? hinner)).trans (ih hrest)
    | _ => cases h

/-- What is read in a document stands in it. -/
theorem holds_of_getPath {d : Document} {path : String} {w : Value}
    (h : d.getPath path = some w) : (Value.doc d).Holds w := by
  cases hname : d.get? path with
  | some v =>
    rw [Document.getPath_of_get? hname] at h
    cases h
    exact holds_of_get? hname
  | none =>
    rw [Document.getPath_of_get?_eq_none hname] at h
    obtain ⟨s, rest, hsegments⟩ := exists_segments path
    rw [hsegments] at h
    obtain ⟨inner, hinner, hrest⟩ := Option.bind_eq_some_iff.mp h
    exact (holds_of_get? hinner).trans (holds_of_walk hrest)

end Value

end DocGuard
