import DocGuard.Condition.Template
import DocGuard.Proofs.Contents

/-!
# What tokens stand for

A token is a name of the substitutions, or it is cut at its first point into such a name and a path.
A value that it stands for is one of theirs, or null where the path leads nowhere.
-/

namespace DocGuard

open DocGuard.Text

/-- What a token stands for, read off its form: the substitution of its name, or behind a head, the
name in front of the first point, what is found in a document under that head, if only null. -/
inductive StandsFor (substitutions : Document) : String → Value → Prop
  | name {token : String} {v : Value} : substitutions.get? token = some v →
    StandsFor substitutions token v
  | path {head path : String} {d : Document} : '.' ∉ head.toList →
    substitutions.get? (head ++ "." ++ path) = none → substitutions.get? head = some (.doc d) →
      StandsFor substitutions (head ++ "." ++ path) ((d.getPath path).getD .null)
  | nothing {head path : String} {v : Value} : '.' ∉ head.toList →
    substitutions.get? (head ++ "." ++ path) = none → substitutions.get? head = some v →
      (∀ d, v ≠ .doc d) → StandsFor substitutions (head ++ "." ++ path) .null

section

variable {substitutions : Document} {token : String} {v : Value}

theorem standsFor_of_resolveToken (h : resolveToken substitutions token = some v) :
    StandsFor substitutions token v := by
  unfold resolveToken at h
  cases hname : substitutions.get? token with
  | some held =>
    rw [hname] at h
    cases h
    exact .name hname
  | none =>
    rw [hname] at h
    cases hcut : cutAt '.' token.toList with
    | none => rw [hcut] at h; cases h
    | some cut =>
      obtain ⟨head, path⟩ := cut
      obtain ⟨hhead, htoken⟩ := eq_append_of_cutAt hcut
      have hparts : token = String.ofList head ++ "." ++ String.ofList path := by
        rw [← String.toList_inj, toList_append_point, String.toList_ofList, String.toList_ofList]
        exact htoken
      rw [← String.toList_ofList (l := head)] at hhead
      -- from here on the token is its two parts, in the form of the constructors
      subst hparts
      rw [hcut] at h
      cases hheld : substitutions.get? (String.ofList head) with
      | none => simp only [hheld] at h; cases h
      | some held =>
        simp only [hheld] at h
        cases held with
        | doc d =>
          cases h
          exact .path hhead hname hheld
        -- in anything but a document nothing is found
        | _ =>
          cases h
          exact .nothing hhead hname hheld fun _ => Value.noConfusion

theorem resolveToken_of_head {head path : String} (hhead : '.' ∉ head.toList)
    (hname : substitutions.get? (head ++ "." ++ path) = none)
    (hheld : substitutions.get? head = some v) :
    resolveToken substitutions (head ++ "." ++ path) =
      match v with
      | .doc d => some ((Document.getPath d path).getD .null)
      | _ => some .null := by
  have hcut : cutAt '.' (head ++ "." ++ path).toList = some (head.toList, path.toList) := by
    rw [toList_append_point]
    exact cutAt_append_sep hhead _
  unfold resolveToken
  simp only [hname, hcut, String.ofList_toList, hheld]
  cases v <;> rfl

theorem resolveToken_eq_some_iff :
    resolveToken substitutions token = some v ↔ StandsFor substitutions token v := by
  constructor
  · exact standsFor_of_resolveToken
  · intro h
    cases h with
    | name hname => rw [resolveToken, hname]
    | path hhead hname hheld => exact resolveToken_of_head hhead hname hheld
    | nothing hhead hname hheld hdoc =>
      rename_i held
      rw [resolveToken_of_head hhead hname hheld]
      cases held with
      | doc d => exact absurd rfl (hdoc d)
      | _ => rfl

/-- What a token stands for is null or stands in the substitutions. -/
theorem StandsFor.null_or_holds (h : StandsFor substitutions token v) :
    v = .null ∨ (Value.doc substitutions).Holds v := by
  cases h with
  | name hname => exact .inr (Value.holds_of_get? hname)
  | @path head path d _ _ hheld =>
    cases hfound : d.getPath path with
    -- a path that leads nowhere in a known substitution gives null
    | none => exact .inl rfl
    | some found =>
      exact .inr ((Value.holds_of_get? hheld).trans (Value.holds_of_getPath hfound))
  | nothing => exact .inl rfl

end

end DocGuard
