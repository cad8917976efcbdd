import DocGuard.Proofs.Equality
import DocGuard.Proofs.Requirements
import DocGuard.Proofs.Template

/-!
# Expansion as a single pass

Expansion changes a template at the texts that are tokens and nowhere else: every document keeps
its names and every list its length, and what stands for a token is put in as it is. So everything
in an expanded template was written there or is in a value that was put in. Where these values hold
no token themselves, a second expansion finds nothing to do.
-/

namespace DocGuard

open DocGuard.Text

/-! ## Values without tokens -/

namespace Value

/-- Whether no text in a value, at whatever depth, is written as a token. -/
def HoldsNoToken (v : Value) : Prop :=
  ∀ text, v.Holds (.str text) → isToken text = false

theorem HoldsNoToken.of_holds {v w : Value} (h : v.HoldsNoToken) (hw : v.Holds w) :
    w.HoldsNoToken :=
  fun text htext => h text (hw.trans htext)

theorem holdsNoToken_of_contents {v : Value} (hv : ∀ text, v ≠ .str text)
    (h : ∀ w ∈ v.contents, w.HoldsNoToken) : v.HoldsNoToken := by
  rintro text ⟨address, htext⟩
  cases address with
  | nil => exact absurd (Option.some.inj htext) (hv text)
  | cons i rest =>
    obtain ⟨inner, hinner, hrest⟩ := Option.bind_eq_some_iff.mp htext
    exact h inner (List.mem_of_getElem? hinner) text ⟨rest, hrest⟩

theorem holdsNoToken_str {text : String} (h : isToken text = false) :
    (Value.str text).HoldsNoToken := by
  rintro other ⟨address, hother⟩
  cases address with
  | nil =>
    cases hother
    exact h
  | cons i rest => cases hother

end Value

theorem StandsFor.holdsNoToken {substitutions : Document} {token : String} {v : Value}
    (h : StandsFor substitutions token v)
    (hsubstitutions : (Value.doc substitutions).HoldsNoToken) : v.HoldsNoToken := by
  rcases h.null_or_holds with rfl | hholds
  · exact Value.holdsNoToken_of_contents (fun _ => Value.noConfusion) (List.forall_mem_nil _)
  · exact hsubstitutions.of_holds hholds

/-! ## Expanding once -/

theorem expandItems_eq_map (substitutions : Document) (items : List Value) :
    expandItems substitutions items = items.map (expandValue substitutions) := by
  induction items with
  | nil => rfl
  | cons v rest ih => rw [expandItems, List.map_cons, ih]

theorem keys_expandEntries (substitutions entries : Document) :
    Document.keys (expandEntries substitutions entries) = entries.keys := by
  rw [expandEntries_eq_map, Document.keys, List.map_map]
  rfl

theorem contents_expandValue (substitutions : Document) {v : Value} (hv : ∀ text, v ≠ .str text) :
    (expandValue substitutions v).contents = v.contents.map (expandValue substitutions) := by
  cases v with
  | doc entries =>
    rw [expandValue, expandEntries_eq_map, Value.contents, Value.contents, List.map_map,
      List.map_map]
    rfl
  | array items => rw [expandValue, expandItems_eq_map, Value.contents, Value.contents]
  | str text => exact absurd rfl (hv text)
  | _ => rfl

theorem atAddress_expandValue {substitutions : Document} {address : List Nat} {v w : Value}
    (h : v.atAddress address = some w) :
    (expandValue substitutions v).atAddress address = some (expandValue substitutions w) := by
  induction address generalizing v with
  | nil =>
    cases h
    rfl
  | cons i rest ih =>
    obtain ⟨inner, hinner, hrest⟩ := Option.bind_eq_some_iff.mp h
    -- a text has no contents
    have hv : ∀ text, v ≠ .str text := by
      rintro text rfl
      cases hinner
    rw [Value.atAddress, contents_expandValue substitutions hv, List.getElem?_map, hinner]
    exact ih hrest

/-- What a value of a template is filled with: a document with the same names in the same order, a
list of the same length, for a token just what it stands for, and for anything else itself. -/
def FilledWith (substitutions : Document) : Value → Value → Prop
  | .doc entries, w => ∃ filled : Document, w = .doc filled ∧ filled.keys = Document.keys entries
  | .array items, w => ∃ filled : List Value, w = .array filled ∧ filled.length = items.length
  | .str text, w =>
    (isToken text = true ∧ StandsFor substitutions text w) ∨
      ((isToken text = false ∨ ∀ x, ¬ StandsFor substitutions text x) ∧ w = .str text)
  | v, w => w = v

theorem filledWith_expandValue (substitutions : Document) (v : Value) :
    FilledWith substitutions v (expandValue substitutions v) := by
  cases v with
  | doc entries => exact ⟨_, rfl, keys_expandEntries substitutions entries⟩
  | array items =>
    refine ⟨_, rfl, ?_⟩
    rw [expandItems_eq_map, List.length_map]
  | str text =>
    rw [expandValue]
    by_cases htoken : isToken text = true
    · rw [if_pos htoken]
      cases hresolved : resolveToken substitutions text with
      | some x => exact .inl ⟨htoken, resolveToken_eq_some_iff.mp hresolved⟩
      | none =>
        refine .inr ⟨.inr fun x hx => ?_, rfl⟩
        rw [resolveToken_eq_some_iff.mpr hx] at hresolved
        cases hresolved
    · rw [if_neg htoken]
      exact .inr ⟨.inl (Bool.eq_false_of_not_eq_true htoken), rfl⟩
  | _ => exact rfl

/-- What stands in an expanded value stands at an address of the value itself, or is a part of what
one of its tokens stands for. -/
theorem exists_of_atAddress_expandValue {substitutions : Document} {address : List Nat}
    {v w : Value} (h : (expandValue substitutions v).atAddress address = some w) :
    (∃ x, v.atAddress address = some x) ∨
      ∃ front back token x, address = front ++ back ∧ v.atAddress front = some (.str token) ∧
        isToken token = true ∧ StandsFor substitutions token x ∧ x.atAddress back = some w := by
  induction address generalizing v with
  | nil => exact .inl ⟨v, rfl⟩
  | cons i rest ih =>
    by_cases hv : ∃ text, v = .str text
    -- below a text there is something only if it is a token that was replaced
    · obtain ⟨text, rfl⟩ := hv
      rcases filledWith_expandValue substitutions (.str text) with ⟨htoken, hx⟩ | ⟨-, hself⟩
      · exact .inr ⟨[], i :: rest, text, _, rfl, rfl, htoken, hx, h⟩
      · rw [hself] at h
        cases h
    · rw [Value.atAddress, contents_expandValue substitutions fun text htext => hv ⟨text, htext⟩,
        List.getElem?_map] at h
      obtain ⟨_, hmap, hrest⟩ := Option.bind_eq_some_iff.mp h
      obtain ⟨inner, hinner, rfl⟩ := Option.map_eq_some_iff.mp hmap
      have hstep : ∀ more, v.atAddress (i :: more) = inner.atAddress more := by
        intro more
        rw [Value.atAddress, hinner]
        rfl
      rcases ih hrest with ⟨x, hx⟩ | ⟨front, back, token, x, rfl, hfront, htail⟩
      · exact .inl ⟨x, (hstep rest).trans hx⟩
      · exact .inr ⟨i :: front, back, token, x, rfl, (hstep front).trans hfront, htail⟩

/-! ## Expanding twice -/

theorem expandValue_ne_str (substitutions : Document) {v : Value} (hv : ∀ text, v ≠ .str text)
    (text : String) : expandValue substitutions v ≠ .str text := by
  cases v with
  | str own => exact absurd rfl (hv own)
  | doc entries => exact Value.noConfusion
  | array items => exact Value.noConfusion
  | _ => exact hv text

theorem expandValue_eq_self {substitutions : Document} {v : Value} (hv : ∀ text, v ≠ .str text)
    (h : ∀ w ∈ v.contents, expandValue substitutions w = w) : expandValue substitutions v = v := by
  cases v with
  | doc entries =>
    have hentries : ∀ e ∈ entries, (e.1, expandValue substitutions e.2) = e := by
      intro e he
      rw [h e.2 (List.mem_map_of_mem he)]
    rw [expandValue, expandEntries_eq_map, List.map_congr_left hentries, List.map_id']
  | array items =>
    have hitems : ∀ w ∈ items, expandValue substitutions w = w := h
    rw [expandValue, expandItems_eq_map, List.map_congr_left hitems, List.map_id']
  | str text => exact absurd rfl (hv text)
  | _ => rfl

theorem Value.mem_parts_of_mem_contents {v w : Value} (h : w ∈ v.contents) : w ∈ v.parts := by
  cases v with
  | doc entries => exact h
  | array items => exact h
  | _ => cases h

/-- In a value without tokens there is nothing to expand. -/
theorem expandValue_of_holdsNoToken {substitutions : Document} {v : Value}
    (h : v.HoldsNoToken) :
    expandValue substitutions v = v := by
  induction v using Value.parts_induction with
  | step v ih =>
    by_cases hv : ∃ text, v = .str text
    · obtain ⟨text, rfl⟩ := hv
      exact expandValue_text (by rw [h text (Value.Holds.refl _)]; rfl)
    · refine expandValue_eq_self (fun text htext => hv ⟨text, htext⟩) fun w hw => ?_
      exact ih w (Value.mem_parts_of_mem_contents hw) (h.of_holds (Value.holds_of_mem hw))

/-- Where the substitutions hold no token, an expanded value is left as it is. -/
theorem expandValue_expandValue {substitutions : Document}
    (h : (Value.doc substitutions).HoldsNoToken) (v : Value) :
    expandValue substitutions (expandValue substitutions v) = expandValue substitutions v := by
  induction v using Value.parts_induction with
  | step v ih =>
    by_cases hv : ∃ text, v = .str text
    · obtain ⟨text, rfl⟩ := hv
      -- what was put in holds no token
      rcases filledWith_expandValue substitutions (.str text) with ⟨-, hfound⟩ | ⟨-, hself⟩
      · exact expandValue_of_holdsNoToken (hfound.holdsNoToken h)
      -- a text that is left is left again
      · rw [hself, hself]
    · have hv : ∀ text, v ≠ .str text := fun text htext => hv ⟨text, htext⟩
      refine expandValue_eq_self (expandValue_ne_str substitutions hv) ?_
      rw [contents_expandValue substitutions hv, List.forall_mem_map]
      exact fun w hw => ih w (Value.mem_parts_of_mem_contents hw)

/-! ## Templates -/

/-- Expansion is a single pass. A template that was expanded with values in which no text is written
as a token stays as it is. And whatever the values are, what stands at an address of the template is
filled there, and all that stands in the expanded template was at an address of the template or is a
part of what one of its tokens stands for, unchanged. -/
theorem expand_once (template substitutions : Document) :
    ((Value.doc substitutions).HoldsNoToken →
      (template.expand substitutions).expand substitutions = template.expand substitutions) ∧
    (∀ address v, (Value.doc template).atAddress address = some v →
      ∃ w, (Value.doc (template.expand substitutions)).atAddress address = some w ∧
        FilledWith substitutions v w) ∧
    ∀ address w, (Value.doc (template.expand substitutions)).atAddress address = some w →
      (∃ v, (Value.doc template).atAddress address = some v) ∨
        ∃ front back token x, address = front ++ back ∧
          (Value.doc template).atAddress front = some (.str token) ∧ isToken token = true ∧
          StandsFor substitutions token x ∧ x.atAddress back = some w := by
  have hexpand : expandValue substitutions (.doc template) =
      .doc (template.expand substitutions) := rfl
  refine ⟨?_, ?_, ?_⟩
  · intro h
    exact Value.doc.inj (expandValue_expandValue h (.doc template))
  · intro address v hv
    exact ⟨expandValue substitutions v, hexpand ▸ atAddress_expandValue hv,
      filledWith_expandValue substitutions v⟩
  · intro address w hw
    exact exists_of_atAddress_expandValue (hexpand ▸ hw)

/-- A user is put in as it is, also where its id is written as a token itself. -/
theorem expand_once_owner :
    let template : Document := [("owner", .str "%%user")]
    let plain : Document := [("%%user", .doc [("id", .str "u1")])]
    let nested : Document := [("%%user", .doc [("id", .str "%%true")]), ("%%true", .bool true)]
    (Value.doc plain).HoldsNoToken ∧
      (template.expand plain).expand plain = template.expand plain ∧
      (Value.doc template).atAddress [0] = some (.str "%%user") ∧
      (∃ w, (Value.doc (template.expand nested)).atAddress [0] = some w ∧
        FilledWith nested (.str "%%user") w) ∧
      (Value.doc (template.expand nested)).atAddress [0, 0] = some (.str "%%true") ∧
      ((∃ v, (Value.doc template).atAddress [0, 0] = some v) ∨
        ∃ front back token x, [0, 0] = front ++ back ∧
          (Value.doc template).atAddress front = some (.str token) ∧ isToken token = true ∧
          StandsFor nested token x ∧ x.atAddress back = some (.str "%%true")) := by
  intro template plain nested
  have hid : (Value.str "u1").HoldsNoToken := Value.holdsNoToken_str rfl
  have huser : (Value.doc [("id", .str "u1")]).HoldsNoToken :=
    Value.holdsNoToken_of_contents (fun _ => Value.noConfusion) (List.forall_mem_singleton.mpr hid)
  have hplain : (Value.doc plain).HoldsNoToken :=
    Value.holdsNoToken_of_contents (fun _ => Value.noConfusion)
      (List.forall_mem_singleton.mpr huser)
  have htoken : (Value.doc template).atAddress [0] = some (.str "%%user") := rfl
  have hinside : (Value.doc (template.expand nested)).atAddress [0, 0] = some (.str "%%true") := rfl
  obtain ⟨-, hfilled, hfrom⟩ := expand_once template nested
  exact ⟨hplain, (expand_once template plain).1 hplain, htoken, hfilled [0] _ htoken, hinside,
    hfrom [0, 0] _ hinside⟩

-- the token that came with the user is found when the outcome is expanded once more
example :
    let nested : Document := [("%%user", .doc [("id", .str "%%true")]), ("%%true", .bool true)]
    (Document.expand [("owner", .str "%%user")] nested).expand nested =
      [("owner", .doc [("id", .bool true)])] := by
  rfl

end DocGuard
