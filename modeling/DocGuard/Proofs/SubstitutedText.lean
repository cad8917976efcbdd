import DocGuard.Proofs.ConditionReading
import DocGuard.Proofs.Token
import DocGuard.Rules.Selection

/-!
# Texts out of the user's data

A token that names a field of the user is replaced by what the field holds before the condition is
read. So a text that comes in this way is read like one written in the condition: three kinds of
texts say something else than that the text itself is expected.
-/

namespace DocGuard

open DocGuard.Text

/-- Whether a text in a condition stands for itself: it is neither a demand for any value nor a
reference. -/
def standsForItself (text : String) : Bool :=
  text != "$required" && text != "$exists" && !beginsWith text "$ref:"

/-! ## Texts in leaves -/

section

variable {text : String} (lead : PathLead) (data : Document) (path : String)

theorem checkLeaf_presence (h : text = "$required" ∨ text = "$exists") :
    checkLeaf lead data path (.str text) =
      .ok (!isEmptyValue (data.getPath (resolvePath lead path))) := by
  rw [checkLeaf, Demand.ofValue, if_pos h]
  show Except.ok (!isEmptyValue (data.getPath (resolvePath lead path)) == true) = _
  rw [beq_true]

theorem checkLeaf_text (h : ¬ (text = "$required" ∨ text = "$exists")) :
    checkLeaf lead data path (.str text) =
      .ok (sameValue (data.getPath (resolvePath lead path))
        (followReference lead data (some (.str text)))) := by
  rw [checkLeaf, Demand.ofValue, if_neg h]
  rfl

theorem checkLeaf_itself (h : standsForItself text = true) :
    checkLeaf lead data path (.str text) =
      .ok (sameValue (data.getPath (resolvePath lead path)) (some (.str text))) := by
  simp only [standsForItself, Bool.and_eq_true, bne_iff_ne, Bool.not_eq_true'] at h
  obtain ⟨⟨hrequired, hexists⟩, hreference⟩ := h
  have hnowhere : referredPath? lead (some (.str text)) = none := by
    rw [referredPath?, afterLead?_eq_none hreference, Option.map_none]
  rw [checkLeaf_text lead data path (not_or.mpr ⟨hrequired, hexists⟩),
    followReference_eq_self hnowhere]

theorem followReference_reference (target : String) :
    followReference lead data (some (.str ("$ref:" ++ target))) =
      data.getPath (resolvePath lead target) := by
  simp only [followReference, afterLead?_append]

theorem checkLeaf_reference (target : String) :
    checkLeaf lead data path (.str ("$ref:" ++ target)) =
      .ok (sameValue (data.getPath (resolvePath lead path))
        (data.getPath (resolvePath lead target))) := by
  -- neither of the two words begins like a reference
  have hword : ¬ ("$ref:" ++ target = "$required" ∨ "$ref:" ++ target = "$exists") := by
    rintro (h | h)
    all_goals
      have hlead := afterLead?_append "$ref:" target
      rw [h] at hlead
      cases hlead
  rw [checkLeaf_text lead data path hword, followReference_reference]

end

/-! ## Tokens for fields of the user -/

/-- The token for a field of the user. -/
def userToken (field : String) : String :=
  userKey ++ "." ++ field

theorem isToken_userToken (field : String) : isToken (userToken field) = true := by
  have hlead : (userToken field).toList = "%%".toList ++ ("user." ++ field).toList := by
    rw [userToken, toList_append_point, String.toList_append]
    rfl
  rw [isToken, beginsWith, dropLead_eq_some_iff.mpr hlead]
  rfl

/-- The token for a field holds a point, so it is none of the names of the context itself. -/
theorem get?_ruleContext_userToken (user : Document) (field : String) :
    (ruleContext user).get? (userToken field) = none := by
  have hpoint : '.' ∈ (userToken field).toList := by
    rw [userToken, toList_append_point]
    simp
  rw [Document.get?_eq_none_iff]
  intro hkey
  have hnames : userToken field = userKey ∨ userToken field = trueKey := by
    simpa [ruleContext, Document.keys] using hkey
  rcases hnames with h | h
  all_goals
    rw [h] at hpoint
    revert hpoint
    decide

theorem resolveToken_userToken (user : Document) (field : String) :
    resolveToken (ruleContext user) (userToken field) =
      some ((user.getPath field).getD .null) := by
  have huser : (ruleContext user).get? userKey = some (.doc user) := rfl
  exact resolveToken_of_head (by decide) (get?_ruleContext_userToken user field) huser

theorem expandValue_userToken {user : Document} {field : String} {v : Value}
    (h : user.get? field = some v) :
    expandValue (ruleContext user) (.str (userToken field)) = v := by
  rw [expandValue, if_pos (isToken_userToken field), resolveToken_userToken,
    Document.getPath_of_get? h]
  rfl

/-! ## Conditions on the user -/

theorem checkCondition_single (lead : PathLead) (data : Document) (key : String) (spec : Value) :
    checkCondition lead data [(key, spec)] = checkEntry lead data key spec := by
  rw [checkCondition]
  cases checkEntry lead data key spec with
  | error e => rfl
  | ok b => cases b <;> rfl

/-- A condition that compares a path with a field of the user checks a leaf with what the user has
there. -/
theorem applies_userToken {path field : String} {v : Value} {user : Document}
    (hpath : isPlainPath path = true) (hfield : user.get? field = some v) (document : Document) :
    applies [(path, .str (userToken field))] user document =
      checkLeaf none (document.insert userKey (.doc user)) path v := by
  have hkey : ¬ (path = "$and" ∨ path = "$or") :=
    fun h => not_logical_of_plain hpath (h.imp_right .inl)
  have hexpand : Document.expand [(path, .str (userToken field))] (ruleContext user) =
      [(path, v)] := by
    show [(path, expandValue _ _)] = _
    rw [expandValue_userToken hfield]
  rw [applies, hexpand]
  show checkCondition none _ [(path, v)] = _
  rw [checkCondition_single, checkEntry_leaf hkey]

/-- A condition that compares a path with a text of the user holds if the text itself is found at
the path, as long as the text stands for itself. The two words for any value ask for some value
there, and a reference asks for what it refers to. -/
theorem applies_userText {path field text : String} {user : Document}
    (hpath : isPlainPath path = true) (hfield : user.get? field = some (.str text))
    (document : Document) :
    let data := document.insert userKey (.doc user)
    let answer := applies [(path, .str (userToken field))] user document
    (standsForItself text = true →
      answer = .ok (sameValue (data.getPath path) (some (.str text)))) ∧
    (text = "$required" ∨ text = "$exists" → answer = .ok (!isEmptyValue (data.getPath path))) ∧
    (∀ target, text = "$ref:" ++ target →
      answer = .ok (sameValue (data.getPath path) (data.getPath (resolvePath none target)))) := by
  intro data answer
  have hleaf : answer = checkLeaf none data path (.str text) :=
    applies_userToken hpath hfield document
  have hread : resolvePath none path = path := resolvePath_of_plain hpath
  refine ⟨?_, ?_, ?_⟩
  · intro hitself
    rw [hleaf, checkLeaf_itself none data path hitself, hread]
  · intro hpresence
    rw [hleaf, checkLeaf_presence none data path hpresence, hread]
  · intro target htext
    rw [hleaf, htext, checkLeaf_reference, hread]

/-- The owner is found by the name that the user has, also by one with points and signs in it. -/
theorem applies_ownName :
    isPlainPath "owner" = true ∧
      Document.get? [("name", .str "%%root.$x")] "name" = some (.str "%%root.$x") ∧
      standsForItself "%%root.$x" = true ∧
      applies [("owner", .str (userToken "name"))] [("name", .str "%%root.$x")]
        [("owner", .str "%%root.$x")] = .ok true := by
  have hfield : Document.get? [("name", .str "%%root.$x")] "name" = some (.str "%%root.$x") := rfl
  have hpath : isPlainPath "owner" = true := rfl
  have hitself : standsForItself "%%root.$x" = true := rfl
  have hholds := (applies_userText hpath hfield [("owner", .str "%%root.$x")]).1 hitself
  exact ⟨hpath, hfield, hitself, hholds⟩

/-- A text of the user can make a condition hold where another text is found, and fail where the
text itself is found. -/
theorem applies_otherText :
    (applies [("owner", .str (userToken "name"))] [("name", .str "$ref:owner")]
        [("owner", .str "bob")] = .ok true ∧
      sameValue (some (.str "bob")) (some (.str "$ref:owner")) = false) ∧
    (applies [("owner", .str (userToken "name"))] [("name", .str "$required")]
        [("owner", .str "bob")] = .ok true ∧
      sameValue (some (.str "bob")) (some (.str "$required")) = false) ∧
    (applies [("owner", .str (userToken "name"))] [("name", .str "$ref:nobody")]
        [("owner", .str "$ref:nobody")] = .ok false ∧
      sameValue (some (.str "$ref:nobody")) (some (.str "$ref:nobody")) = true) := by
  exact ⟨⟨rfl, rfl⟩, ⟨rfl, rfl⟩, rfl, rfl⟩

end DocGuard
