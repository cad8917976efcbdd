import DocGuard.Proofs.Redaction
import DocGuard.Proofs.RowFilter

/-!
# What guarded reading answers

A search finds what satisfies the query of the row filter and the filter asked, cuts the window out
of it, and shows of each document what the user may read. What is shown of a document is a part of
it: entries with their names and values, in their order.
-/

namespace DocGuard
namespace Guard

/-- Whether a document is in the user's reach: it satisfies the query of the row filter, if there
is one. -/
def reaches (g : Guard) (d : Document) : Bool :=
  g.rowQuery?.all (satisfies · d)

theorem satisfies_of_narrow {g : Guard} {filter query : Document}
    (h : g.narrow filter = .ok query) (d : Document) :
    satisfies query d = (g.reaches d && satisfies filter d) := by
  rw [narrow_eq_ok h]
  unfold reaches
  cases g.rowQuery? with
  | none => rfl
  | some rows => exact satisfies_conjoin rows filter d

/-- Whether an optional document is, if there is one, a part of another document. -/
def ShowsPart (d : Document) (shown : Option Document) : Prop :=
  ∀ part, shown = some part → part.Sublist d

/-- The answer to a search comes from the stored documents that are in the user's reach and satisfy
the filter, in their order and cut to the window: each is put in the form in which the user may read
it, which is a part of it, and those that the user may not read are left out. -/
theorem find_shows_parts {g : Guard} {c : Collection} {filter : Document} {w : Window}
    {answer : List Document} (hsystem : g.asSystem = false)
    (hok : (g.find c filter w).result = .ok answer) :
    ∃ seen, List.Forall₂ (fun d s => (g.validate d .read).result = .ok s ∧ ShowsPart d s)
        (w.cut (c.documents.filter fun d => g.reaches d && satisfies filter d)) seen ∧
      answer = seen.filterMap id := by
  obtain ⟨query, found, seen, hquery, hfound, hseen, hanswer⟩ := find_eq_ok hsystem hok
  have hselected : found = c.documents.filter fun d => g.reaches d && satisfies filter d := by
    rw [select_eq_filter hfound]
    exact List.filter_congr fun d _ => satisfies_of_narrow hquery d
  rw [hselected] at hseen
  refine ⟨seen, hseen.imp fun d s hvalid => ⟨hvalid, ?_⟩, hanswer⟩
  rintro part rfl
  exact sublist_of_validate_read hvalid

/-- A guard for a user who reaches only documents of their own and reads only their titles. -/
def ofOwnTitles : Guard :=
  { ofOwnRows with
    rules := [("todos", ⟨[{ Role.bare "reader" with fields := [("title", ⟨some true, none⟩)] }],
      [⟨"own", [], some [("owner", .str "%%user.id")]⟩]⟩)] }

/-- Documents of that user and of another one, one of them without a title. -/
def titledAndUntitled : Collection :=
  .ofDocuments "todos" [
    [("_id", .int32 1), ("owner", .str "ann"), ("title", .str "a")],
    [("_id", .int32 2), ("owner", .str "bob"), ("title", .str "b")],
    [("_id", .int32 3), ("owner", .str "ann")],
    [("_id", .int32 4), ("owner", .str "ann"), ("title", .str "d")],
    [("_id", .int32 5), ("owner", .str "ann"), ("title", .str "e")]]

/-- Of the second and third document of their own the user sees one title. -/
theorem find_shows_title :
    (ofOwnTitles.find titledAndUntitled [] ⟨some 1, some 2⟩).result =
        .ok [[("title", .str "d")]] ∧
      ∃ seen, List.Forall₂
          (fun d s => (ofOwnTitles.validate d .read).result = .ok s ∧ ShowsPart d s)
          (Window.cut ⟨some 1, some 2⟩ (titledAndUntitled.documents.filter fun d =>
            ofOwnTitles.reaches d && satisfies [] d)) seen ∧
        [[("title", .str "d")]] = seen.filterMap id := by
  have hok : (ofOwnTitles.find titledAndUntitled [] ⟨some 1, some 2⟩).result =
      .ok [[("title", .str "d")]] := rfl
  exact ⟨hok, find_shows_parts rfl hok⟩

end Guard
end DocGuard
