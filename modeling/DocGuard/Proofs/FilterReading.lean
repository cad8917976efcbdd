import DocGuard.Guard.Watching

/-!
# What filters read

A filter reads a document at the paths that it names and nowhere else. A filter whose paths stand
under a name therefore decides for one document what the filter itself decides for another, if the
first document answers at each of the paths under the name like the second one at the path.
-/

namespace DocGuard

open DocGuard.Text

mutual

/-- The paths that a filter names, in order. -/
def filterPaths : List (String × Value) → List String
  | [] => []
  | (key, spec) :: rest => filterEntryPaths key spec ++ filterPaths rest

def filterEntryPaths (key : String) : Value → List String
  | .array children =>
    if key = "$and" ∨ key = "$or" ∨ key = "$nor" then filterChildPaths children else [key]
  | _ => if key = "$and" ∨ key = "$or" ∨ key = "$nor" then [] else [key]

def filterChildPaths : List Value → List String
  | [] => []
  | .doc filter :: rest => filterPaths filter ++ filterChildPaths rest
  | _ :: rest => filterChildPaths rest

end

/-- A path within the document under a name. A path that begins with a dollar stays as it is. -/
def prefixPath (name path : String) : String :=
  if beginsWith path "$" then path else name ++ "." ++ path

/-- Whether a document answers at each of some paths under a name like another one at the path. -/
def AnswersUnder (name : String) (outer d : Document) (paths : List String) : Prop :=
  ∀ path ∈ paths, outer.getPath (prefixPath name path) = d.getPath path

section

variable {name key : String} {outer d : Document} {spec : Value}

theorem AnswersUnder.left {p q : List String} (h : AnswersUnder name outer d (p ++ q)) :
    AnswersUnder name outer d p :=
  fun path hpath => h path (List.mem_append_left q hpath)

theorem AnswersUnder.right {p q : List String} (h : AnswersUnder name outer d (p ++ q)) :
    AnswersUnder name outer d q :=
  fun path hpath => h path (List.mem_append_right p hpath)

/-! ## Entries -/

theorem matchesEntry_field (hkey : ¬ (key = "$and" ∨ key = "$or" ∨ key = "$nor")) (d : Document)
    (spec : Value) : matchesEntry d key spec = matchesField (d.getPath key) spec := by
  obtain ⟨hand, hor⟩ := not_or.mp hkey
  obtain ⟨hor, hnor⟩ := not_or.mp hor
  cases spec with
  | array children => rw [matchesEntry, if_neg hand, if_neg hor, if_neg hnor]
  | _ => rw [matchesEntry, if_neg hkey]; exact fun _ => Value.noConfusion

theorem matchesEntry_noList (hkey : key = "$and" ∨ key = "$or" ∨ key = "$nor")
    (hspec : ∀ children, spec ≠ .array children) (d : Document) :
    matchesEntry d key spec = .error (.store (.filterListExpected key)) := by
  rw [matchesEntry, if_pos hkey]
  exact hspec

/-- Filters apply an operator as conditions do, except for the four that they read in a way of their
own. -/
theorem matchesOperator_other {operator : String} (hoptions : operator ≠ "$options")
    (hexists : operator ≠ "$exists") (heq : operator ≠ "$eq") (hne : operator ≠ "$ne")
    (actual flags : Option Value) (expected : Value) :
    matchesOperator actual flags operator expected =
      Operator.ofName operator >>= fun op => op.apply actual (some expected) flags := by
  rw [matchesOperator, if_neg hoptions, if_neg hexists, if_neg heq, if_neg hne]

theorem filterEntryPaths_field (hkey : ¬ (key = "$and" ∨ key = "$or" ∨ key = "$nor"))
    (spec : Value) : filterEntryPaths key spec = [key] := by
  cases spec with
  | array children => rw [filterEntryPaths, if_neg hkey]
  | _ => rw [filterEntryPaths, if_neg hkey]; exact fun _ => Value.noConfusion

theorem beginsWith_dollar_of_logical (hkey : key = "$and" ∨ key = "$or" ∨ key = "$nor") :
    beginsWith key "$" = true := by
  rcases hkey with rfl | rfl | rfl <;> decide

theorem prefixEntry_field (hkey : ¬ (key = "$and" ∨ key = "$or" ∨ key = "$nor")) (spec : Value) :
    prefixEntry name key spec = (prefixPath name key, spec) := by
  unfold prefixPath
  cases spec with
  | array children => rw [prefixEntry, if_neg hkey]; split <;> rfl
  | _ => rw [prefixEntry]; split <;> rfl; exact fun _ => Value.noConfusion

theorem prefixEntry_noList (hkey : key = "$and" ∨ key = "$or" ∨ key = "$nor")
    (hspec : ∀ children, spec ≠ .array children) : prefixEntry name key spec = (key, spec) := by
  rw [prefixEntry, if_pos (beginsWith_dollar_of_logical hkey)]
  exact hspec

theorem prefixPath_not_logical (hkey : ¬ (key = "$and" ∨ key = "$or" ∨ key = "$nor")) :
    ¬ (prefixPath name key = "$and" ∨ prefixPath name key = "$or" ∨
      prefixPath name key = "$nor") := by
  unfold prefixPath
  split
  · exact hkey
  · have hpoint : '.' ∈ (name ++ "." ++ key).toList := by
      rw [String.toList_append, String.toList_append]
      exact List.mem_append_left _ (List.mem_append_right _ (List.mem_singleton_self '.'))
    rintro (h | h | h) <;> rw [h] at hpoint <;> exact absurd hpoint (by decide)

theorem requireFilters_prefixChildren (name key : String) (children : List Value) :
    requireFilters key (prefixChildren name children) = requireFilters key children := by
  induction children with
  | nil => rfl
  | cons child rest ih =>
    cases child with
    | doc filter => exact ih
    | _ => rfl

end

/-! ## Filters -/

mutual

/-- A filter under a name decides what the filter decides. -/
theorem matchesFilter_prefixFields {name : String} {outer d : Document}
    (filter : List (String × Value)) (h : AnswersUnder name outer d (filterPaths filter)) :
    matchesFilter outer (prefixFields name filter) = matchesFilter d filter := by
  match filter with
  | [] => rfl
  | (key, spec) :: rest =>
    have hhead := matchesEntry_prefixEntry key spec h.left
    have htail := matchesFilter_prefixFields rest h.right
    rw [prefixFields, matchesFilter, matchesFilter, hhead, htail]

theorem matchesEntry_prefixEntry {name : String} {outer d : Document} (key : String) (spec : Value)
    (h : AnswersUnder name outer d (filterEntryPaths key spec)) :
    matchesEntry outer (prefixEntry name key spec).1 (prefixEntry name key spec).2 =
      matchesEntry d key spec := by
  by_cases hkey : key = "$and" ∨ key = "$or" ∨ key = "$nor"
  · cases spec with
    | array children =>
      rw [filterEntryPaths, if_pos hkey] at h
      have hall := matchesAll_prefixChildren children h
      have hsome := matchesSome_prefixChildren children h
      have hrequire := requireFilters_prefixChildren name key children
      rw [prefixEntry, if_pos hkey, matchesEntry, matchesEntry, hrequire, hall, hsome]
      rcases hkey with rfl | rfl | rfl <;> rfl
    | _ =>
      rw [prefixEntry_noList hkey, matchesEntry_noList hkey, matchesEntry_noList hkey] <;>
        exact fun _ => Value.noConfusion
  -- under any other key stands a path, also where its value is a list
  · rw [filterEntryPaths_field hkey] at h
    have hpath := h key (List.mem_singleton_self key)
    rw [prefixEntry_field hkey, matchesEntry_field hkey,
      matchesEntry_field (prefixPath_not_logical hkey), hpath]

theorem matchesAll_prefixChildren {name : String} {outer d : Document} (children : List Value)
    (h : AnswersUnder name outer d (filterChildPaths children)) :
    matchesAll outer (prefixChildren name children) = matchesAll d children := by
  match children with
  | [] => rfl
  | child :: rest =>
    cases child with
    | doc filter =>
      have hhead := matchesFilter_prefixFields filter h.left
      have htail := matchesAll_prefixChildren rest h.right
      rw [prefixChildren, matchesAll, matchesAll, hhead, htail]
    | _ => exact matchesAll_prefixChildren rest h

theorem matchesSome_prefixChildren {name : String} {outer d : Document} (children : List Value)
    (h : AnswersUnder name outer d (filterChildPaths children)) :
    matchesSome outer (prefixChildren name children) = matchesSome d children := by
  match children with
  | [] => rfl
  | child :: rest =>
    cases child with
    | doc filter =>
      have hhead := matchesFilter_prefixFields filter h.left
      have htail := matchesSome_prefixChildren rest h.right
      rw [prefixChildren, matchesSome, matchesSome, hhead, htail]
    | _ => exact matchesSome_prefixChildren rest h

end

end DocGuard
