import DocGuard.Guard.Watching
import DocGuard.Proofs.Redaction

/-!
# What watchers learn from updates

A watcher is shown the changed document and, apart from it, the fields that the update set. These
are read as a document of their own, so that another role may apply to them or the same role may
permit more. Where reading them is decided no more freely than reading the document, they hold
nothing that the document does not show.
-/

namespace DocGuard

theorem Difference.updated_subset (before after : Document) :
    (between before after).updated ⊆ after :=
  fun _ he => (List.mem_filter.mp he).1

/-- Whether a change shows no updated field but with the value that the document in it has. -/
def Change.UpdatedWithinFull (change : Change) : Prop :=
  ∃ full x, change.full = some full ∧ change.difference = some x ∧ x.updated ⊆ full

namespace Guard

variable {g : Guard} {d part : Document}

/-- Whether the document is read in full, or the same role applies to it and to a part of it, with
a permission to write, which is one to read as well, that is given for the part only if it is given
for the document. -/
def ReadsPartAlike (g : Guard) (part d : Document) : Prop :=
  (g.validate d .read).result = .ok (some d) ∨
    ∃ role, winningRole? d g.user g.roles = .ok (some role) ∧
      winningRole? part g.user g.roles = .ok (some role) ∧
      (((g.judge role part .read).permits role.write).result = .ok true →
        ((g.judge role d .read).permits role.write).result = .ok true)

/-- Of a part that is read alike, a user sees only what is seen of the document. -/
theorem subset_of_readsPartAlike {seen seenPart : Document} (hpart : part ⊆ d)
    (halike : g.ReadsPartAlike part d) (hseen : (g.validate d .read).result = .ok (some seen))
    (hseenPart : (g.validate part .read).result = .ok (some seenPart)) : seenPart ⊆ seen := by
  have hwhole : seenPart ⊆ d := List.Subset.trans (subset_of_validate_read hseenPart) hpart
  rcases halike with hfull | ⟨role, hrole, hrolePart, hwrite⟩
  · rw [hfull] at hseen
    cases hseen
    exact hwhole
  · rcases validate_read_eq_some hrole hseen with ⟨-, rfl⟩ | ⟨hread, hrefused, rfl⟩
    · exact hwhole
    · rcases validate_read_eq_some hrolePart hseenPart with ⟨hpermits, -⟩ | ⟨-, -, rfl⟩
      · -- no permission to read is stated, so the part would be one that may be written
        rcases hpermits with hreads | hwrites
        · rw [hread, Judge.permits_none] at hreads
          cases hreads
        · rw [hwrite hwrites] at hrefused
          cases hrefused
      · exact fun e he =>
          List.mem_filter.mpr ⟨hpart (List.mem_filter.mp he).1, (List.mem_filter.mp he).2⟩

/-- A reviewed difference has lost its updated fields or holds what reading them leaves. -/
theorem reviewDifference_eq_ok {x y : Difference} (h : (g.reviewDifference x).result = .ok y) :
    y.updated = [] ∨ (g.validate x.updated .read).result = .ok (some y.updated) := by
  unfold reviewDifference at h
  by_cases hempty : x.updated.isEmpty = true
  · rw [if_pos hempty] at h
    cases h
    exact .inl (List.isEmpty_iff.mp hempty)
  · rw [if_neg hempty, Traced.result_bind] at h
    obtain ⟨part, hpart, h⟩ := bind_eq_ok.mp h
    cases h
    cases part with
    | none => exact .inl rfl
    | some seenPart => exact .inr hpart

/-- An update that a watcher is told of shows what reading the document leaves, and the difference
as it was reviewed. -/
theorem review_update_eq_ok {name : String} {before after : Document} {shown : Change}
    (hsystem : g.asSystem = false)
    (h : (g.review (.ofUpdate name before after)).result = .ok (some shown)) :
    ∃ seen x, shown.full = some seen ∧ shown.difference = some x ∧
      (g.validate after .read).result = .ok (some seen) ∧
      (g.reviewDifference (.between before after)).result = .ok x := by
  unfold review at h
  rw [hsystem, if_neg (by decide)] at h
  change (g.validate after .read >>= _ : Traced (Option Change)).result = _ at h
  rw [Traced.result_bind] at h
  obtain ⟨part, hpart, h⟩ := bind_eq_ok.mp h
  cases part with
  | none => cases h
  | some seen =>
    change ((g.reviewDifference (.between before after) >>= _) >>= _ :
      Traced (Option Change)).result = _ at h
    rw [Traced.result_bind] at h
    obtain ⟨change, hchange, h⟩ := bind_eq_ok.mp h
    rw [Traced.result_bind] at hchange
    obtain ⟨x, hx, hchange⟩ := bind_eq_ok.mp hchange
    cases hchange
    cases h
    exact ⟨seen, x, rfl, rfl, hpart, hx⟩

/-- A role that may read titles. -/
def titleReader : Role :=
  { Role.bare "reader" with fields := [("title", ⟨some true, none⟩)] }

/-- Such a role for a user who may write their own documents. -/
def ownWriter : Role :=
  { titleReader with write := some (.condition [("%%root.owner", .str "%%user.id")]) }

/-- Such a role for drafts alone. -/
def draftReader : Role :=
  { titleReader with applyWhen := [("draft", .bool true)] }

/-- Such a role that may write what is not locked. -/
def unlockedWriter : Role :=
  { titleReader with
    write := some (.condition [("%%root.locked", .doc [("$exists", .bool false)])]) }

def draft : Document :=
  [("_id", .int32 1), ("owner", .str "bob"), ("draft", .bool true), ("locked", .bool true)]

/-- What an update adds to it. -/
def titleAndNotes : Document :=
  [("title", .str "b"), ("notes", .str "x")]

/-- A watcher is shown no updated field but with the value that the shown document has for it, if
the updated fields are read no more freely than the document. -/
theorem review_shows_updated_within_full {name : String} {before after : Document} {shown : Change}
    (halike : g.ReadsPartAlike (Difference.between before after).updated after)
    (hshown : (g.review (.ofUpdate name before after)).result = .ok (some shown)) :
    shown.UpdatedWithinFull := by
  have hsubset := Difference.updated_subset before after
  cases hsystem : g.asSystem with
  | true =>
    -- the system is shown every change as it is
    unfold review at hshown
    rw [hsystem, if_pos rfl] at hshown
    cases hshown
    exact ⟨after, .between before after, rfl, rfl, hsubset⟩
  | false =>
    obtain ⟨full, x, hfull, hx, hseen, hreviewed⟩ := review_update_eq_ok hsystem hshown
    refine ⟨full, x, hfull, hx, ?_⟩
    rcases reviewDifference_eq_ok hreviewed with hblank | hpart
    · rw [hblank]
      exact List.nil_subset full
    · exact subset_of_readsPartAlike hsubset halike hseen hpart

/-- Of a new title and new notes on the document of somebody else, a watcher who may write only
their own documents is shown the title. -/
theorem review_shows_title :
    ∃ shown, ((underRole ownWriter).review
        (.ofUpdate "todos" draft (draft ++ titleAndNotes))).result = .ok (some shown) ∧
      shown.UpdatedWithinFull := by
  have hshown : ((underRole ownWriter).review
      (.ofUpdate "todos" draft (draft ++ titleAndNotes))).result = .ok (some
        { Change.ofUpdate "todos" draft (draft ++ titleAndNotes) with
          full := some [("title", .str "b")]
          difference := some ⟨[("title", .str "b")], []⟩ }) := rfl
  have hrefused : (((underRole ownWriter).judge ownWriter titleAndNotes .read).permits
      ownWriter.write).result = .ok false := rfl
  have halike : (underRole ownWriter).ReadsPartAlike titleAndNotes (draft ++ titleAndNotes) := by
    refine .inr ⟨ownWriter, rfl, rfl, fun hgiven => ?_⟩
    rw [hrefused] at hgiven
    cases hgiven
  exact ⟨_, hshown, review_shows_updated_within_full halike hshown⟩

/-- A change that shows notes apart from a document without them. -/
theorem not_updatedWithinFull_notes :
    ¬ { Change.ofUpdate "todos" draft (draft ++ titleAndNotes) with
        full := some [("title", .str "b")] }.UpdatedWithinFull := by
  rintro ⟨full, x, hfull, hx, hsubset⟩
  cases hfull
  cases hx
  have hnotes : ("notes", Value.str "x") ∈ [("title", Value.str "b")] :=
    hsubset (.tail _ (.head _))
  exact absurd (congrArg Prod.fst (List.mem_singleton.mp hnotes)) (by decide)

/-- Updated fields reach a watcher from whom the document hides them: where the role for drafts does
not apply to them, for they carry no mark of a draft, and where that role may write what carries no
lock. -/
theorem review_reveals_notes :
    (∃ shown, ((underRole draftReader).review
        (.ofUpdate "todos" draft (draft ++ titleAndNotes))).result = .ok (some shown) ∧
      ¬ shown.UpdatedWithinFull) ∧
    ∃ shown, ((underRole unlockedWriter).review
        (.ofUpdate "todos" draft (draft ++ titleAndNotes))).result = .ok (some shown) ∧
      ¬ shown.UpdatedWithinFull :=
  ⟨⟨_, rfl, not_updatedWithinFull_notes⟩, ⟨_, rfl, not_updatedWithinFull_notes⟩⟩

end Guard

end DocGuard
