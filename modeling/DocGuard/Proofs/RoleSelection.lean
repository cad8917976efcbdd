import DocGuard.Proofs.Path
import DocGuard.Proofs.Template
import DocGuard.Rules.Selection

/-!
# Conditions on the user

A role whose condition speaks of the user alone applies to all documents or to none, as long as
the documents do not hold entries under the written paths of the condition. Such entries win over
the walk into the user's data, and texts of the user's data that are put in the place of tokens can
refer to the document.
-/

namespace DocGuard

open DocGuard.Text

/-- Whether a path leads to the user or into the user's data. -/
def IsUserPath (path : String) : Prop :=
  path = userKey ∨ beginsWith path (userKey ++ ".") = true

/-- Whether a condition names only user paths, at any depth, and refers to no other path. -/
def SpeaksOfUser (condition : Document) : Prop :=
  (∀ path ∈ conditionPaths none condition, IsUserPath path) ∧
    conditionReferences none condition = []

/-- A condition that is written to speak of the user alone does so with its tokens replaced, as long
as its lists are written out and no text of the user's data refers to a path. -/
theorem speaksOfUser_expand {condition user : Document}
    (hpaths : ∀ path ∈ conditionPaths none condition, IsUserPath path)
    (hwritten : listsWritten condition = true)
    (hcondition : entriesReferNowhere condition = true)
    (huser : entriesReferNowhere user = true) :
    SpeaksOfUser (condition.expand (ruleContext user)) := by
  have hcontext : entriesReferNowhere (ruleContext user) = true :=
    Bool.and_eq_true_iff.mpr ⟨huser, rfl⟩
  have hexpanded := entriesReferNowhere_expandEntries hcontext condition hcondition
  constructor
  · rw [Document.expand, conditionPaths_expand condition hwritten]
    exact hpaths
  · exact conditionReferences_of_referNowhere _ hexpanded

/-- A user path reads the same beside all documents that hold the same under it as a name. -/
theorem getPath_user {user a b : Document} {path : String} (huser : IsUserPath path)
    (hname : path ≠ userKey → a.get? path = b.get? path) :
    Document.getPath (a.insert userKey (.doc user)) path =
      Document.getPath (b.insert userKey (.doc user)) path := by
  by_cases hkey : path = userKey
  · subst hkey
    rw [Document.getPath_of_get? (Document.get?_insert_self a userKey _),
      Document.getPath_of_get? (Document.get?_insert_self b userKey _)]
  · have ha := Document.get?_insert_of_ne a (.doc user) hkey
    have hb := Document.get?_insert_of_ne b (.doc user) hkey
    rw [hname hkey] at ha
    cases hheld : b.get? path with
    | some v =>
      rw [hheld] at ha hb
      rw [Document.getPath_of_get? ha, Document.getPath_of_get? hb]
    | none =>
      rw [hheld] at ha hb
      rw [Document.getPath_of_get?_eq_none ha, Document.getPath_of_get?_eq_none hb]
      obtain ⟨rest, hrest⟩ :=
        segments_of_beginsWith (by decide) (huser.resolve_left hkey)
      rw [hrest, Document.walk, Document.walk, Document.get?_insert_self,
        Document.get?_insert_self]

/-- A condition that, with its tokens replaced, speaks of the user alone gives the same answer for
all documents that hold the same under the names of its paths. -/
theorem applies_eq_of_speaksOfUser {condition user a b : Document}
    (huser : SpeaksOfUser (condition.expand (ruleContext user)))
    (hnames : ∀ path ∈ conditionPaths none (condition.expand (ruleContext user)),
      path ≠ userKey → a.get? path = b.get? path) :
    applies condition user a = applies condition user b := by
  obtain ⟨hpaths, hreferences⟩ := huser
  unfold applies
  rw [checkCondition_congr]
  · exact fun path hpath => getPath_user (hpaths path hpath) (hnames path hpath)
  · rw [hreferences]
    exact fun path hpath => absurd hpath List.not_mem_nil

/-- The condition of a role for administrators. -/
def administratorsOnly : Document :=
  [("%%user.role", .str "admin")]

/-- The role of administrators does not depend on the documents of a guest. -/
theorem applies_administratorsOnly :
    applies administratorsOnly [("role", .str "guest")] [("role", .str "admin")] =
      applies administratorsOnly [("role", .str "guest")] [] := by
  have huser : ∀ path ∈ conditionPaths none administratorsOnly, IsUserPath path := by
    intro path hpath
    exact .inr (by rw [List.mem_singleton.mp hpath]; decide)
  refine applies_eq_of_speaksOfUser (speaksOfUser_expand huser rfl rfl rfl) fun path hpath _ => ?_
  rw [Document.expand, conditionPaths_expand administratorsOnly rfl] at hpath
  rw [List.mem_singleton.mp hpath]
  rfl

/-- A condition on the user alone can be met by a document: by an entry under the written path, by
an entry that the user's data refer to, and by an entry that a condition in the user's data
names. -/
theorem applies_depends_on_document :
    (SpeaksOfUser administratorsOnly ∧
      applies administratorsOnly [("role", .str "guest")] [] = .ok false ∧
      applies administratorsOnly [("role", .str "guest")] [("%%user.role", .str "admin")] =
        .ok true) ∧
    (SpeaksOfUser [("%%user.id", .str "%%user.alias")] ∧
      applies [("%%user.id", .str "%%user.alias")]
        [("id", .str "ann"), ("alias", .str "$ref:owner")] [] = .ok false ∧
      applies [("%%user.id", .str "%%user.alias")]
        [("id", .str "ann"), ("alias", .str "$ref:owner")] [("owner", .str "ann")] = .ok true) ∧
    (SpeaksOfUser [("$and", .str "%%user.terms")] ∧
      applies [("$and", .str "%%user.terms")]
        [("terms", .array [.doc [("owner", .str "ann")]])] [] = .ok false ∧
      applies [("$and", .str "%%user.terms")]
        [("terms", .array [.doc [("owner", .str "ann")]])] [("owner", .str "ann")] = .ok true) := by
  refine ⟨⟨⟨fun path hpath => ?_, rfl⟩, rfl, rfl⟩, ⟨⟨fun path hpath => ?_, rfl⟩, rfl, rfl⟩,
    ⟨fun path hpath => ?_, rfl⟩, rfl, rfl⟩
  · exact .inr (by rw [List.mem_singleton.mp hpath]; decide)
  · exact .inr (by rw [List.mem_singleton.mp hpath]; decide)
  · exact absurd hpath List.not_mem_nil

end DocGuard
