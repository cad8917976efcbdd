import Mathlib
import DocGuard.Document.Value

/-!
# When equality of values is an equivalence

Equality of values is transitive. It is symmetric where the first value repeats no name in any of
its documents, since then as many entries found in another document are all entries of that. And a
value that repeats no name is equal to itself exactly where no double in it is not a number. So on
the values that can be keys, which have both, equality is an equivalence; and a value that is equal
to a key is a key itself.
-/

namespace DocGuard

/-! ## Names that are set -/

namespace Document

theorem keys_insert (d : Document) (key : String) (value : Value) :
    (d.insert key value).keys = if key ∈ d.keys then d.keys else d.keys ++ [key] := by
  induction d with
  | nil => rfl
  | cons e rest ih =>
    obtain ⟨name, w⟩ := e
    by_cases hname : name = key
    · simp [insert, keys, hname]
    · have hinsert : insert ((name, w) :: rest) key value = (name, w) :: insert rest key value :=
        if_neg hname
      have hmem : key ∈ keys ((name, w) :: rest) ↔ key ∈ keys rest := by
        simp [keys, Ne.symm hname]
      rw [hinsert]
      change name :: keys (insert rest key value) = _
      rw [ih]
      by_cases hkey : key ∈ keys rest
      · rw [if_pos hkey, if_pos (hmem.mpr hkey)]
        rfl
      · rw [if_neg hkey, if_neg (hmem.not.mpr hkey)]
        rfl

theorem nodup_keys_insert {d : Document} (h : d.keys.Nodup) (key : String) (v : Value) :
    (d.insert key v).keys.Nodup := by
  rw [keys_insert]
  split
  · exact h
  · next hnew =>
    rw [← List.concat_eq_append]
    exact h.concat hnew

end Document

/-! ## What a value consists of -/

namespace Value

/-- The values that stand directly in a value. -/
def parts : Value → List Value
  | .array items => items
  | .doc entries => entries.map Prod.snd
  | .codeWithScope _ scope => scope.map Prod.snd
  | _ => []

def names : Value → List String
  | .doc entries => Document.keys entries
  | .codeWithScope _ scope => Document.keys scope
  | _ => []

def isNaN : Value → Bool
  | .double x => x.isNaN
  | .negativeNaN => true
  | _ => false

/-- Whether a value and everything in it has a property. -/
inductive Throughout (p : Value → Prop) : Value → Prop
  | intro {v : Value} (here : p v) (parts : ∀ w ∈ v.parts, Throughout p w) : Throughout p v

theorem throughout_iff {p : Value → Prop} {v : Value} :
    v.Throughout p ↔ p v ∧ ∀ w ∈ v.parts, w.Throughout p :=
  ⟨fun ⟨here, parts⟩ => ⟨here, parts⟩, fun ⟨here, parts⟩ => ⟨here, parts⟩⟩

/-- Whether no double in a value is not a number. -/
abbrev NaNFree (v : Value) : Prop :=
  v.Throughout fun w => w.isNaN = false

/-- Whether no document in a value repeats a name. -/
abbrev NamesDistinct (v : Value) : Prop :=
  v.Throughout fun w => w.names.Nodup

theorem sizeOf_lt_of_mem_entries {entries : Document} {w : Value}
    (h : w ∈ entries.map Prod.snd) : sizeOf w < sizeOf entries := by
  obtain ⟨⟨name, value⟩, hmem, rfl⟩ := List.mem_map.mp h
  have hentry : sizeOf value < sizeOf (name, value) := by
    rw [Prod.mk.sizeOf_spec]
    omega
  exact Nat.lt_trans hentry (List.sizeOf_lt_of_mem hmem)

theorem sizeOf_lt_of_mem_parts {v w : Value} (h : w ∈ v.parts) : sizeOf w < sizeOf v := by
  cases v with
  | array items =>
    have hsize : sizeOf w < sizeOf items := List.sizeOf_lt_of_mem h
    rw [array.sizeOf_spec]
    omega
  | doc entries =>
    have hsize := sizeOf_lt_of_mem_entries h
    rw [doc.sizeOf_spec]
    omega
  | codeWithScope text scope =>
    have hsize := sizeOf_lt_of_mem_entries h
    rw [codeWithScope.sizeOf_spec]
    omega
  | _ => cases h

theorem parts_induction {motive : Value → Prop}
    (step : ∀ v : Value, (∀ w ∈ v.parts, motive w) → motive v) (v : Value) : motive v :=
  step v fun w hw =>
    have := sizeOf_lt_of_mem_parts hw
    parts_induction step w
termination_by sizeOf v

/-! ## How equal values look -/

theorem equalItems_iff {xs ys : List Value} :
    equalItems xs ys = true ↔ List.Forall₂ (fun v w => equal v w = true) xs ys := by
  induction xs generalizing ys with
  | nil => cases ys <;> simp [equalItems]
  | cons x xs ih => cases ys <;> simp [equalItems, ih]

theorem entriesWithin_iff {xs ys : Document} :
    entriesWithin xs ys = true ↔
      ∀ e ∈ xs, ∃ w, ys.get? e.1 = some w ∧ equal e.2 w = true := by
  induction xs with
  | nil => simp [entriesWithin]
  | cons e rest ih =>
    obtain ⟨name, value⟩ := e
    rw [entriesWithin, Bool.and_eq_true, ih, List.forall_mem_cons]
    refine and_congr_left fun _ => ?_
    cases ys.get? name <;> simp

end Value

theorem Document.equal_iff {xs ys : Document} :
    xs.equal ys = true ↔ xs.length = ys.length ∧
      ∀ e ∈ xs, ∃ w, ys.get? e.1 = some w ∧ Value.equal e.2 w = true := by
  rw [Document.equal, Bool.and_eq_true, beq_iff_eq, Value.entriesWithin_iff]

namespace Value

/-- The ways in which two values can be equal: the same value, which equals itself; or doubles,
lists, documents or scopes that are equal as such. -/
inductive Alike : Value → Value → Prop
  | same {v : Value} (h : equal v v = true) : Alike v v
  | double {x y : Float} (h : (x == y) = true) : Alike (.double x) (.double y)
  | array {xs ys : List Value} (h : List.Forall₂ (fun v w => equal v w = true) xs ys) :
    Alike (.array xs) (.array ys)
  | doc {xs ys : Document} (h : xs.equal ys = true) : Alike (.doc xs) (.doc ys)
  | codeWithScope (text : String) {xs ys : Document} (h : xs.equal ys = true) :
    Alike (.codeWithScope text xs) (.codeWithScope text ys)

theorem Alike.equal {a b : Value} (h : Alike a b) : equal a b = true := by
  cases h with
  | same h => exact h
  | double h => exact h
  | array h => exact equalItems_iff.mpr h
  | doc h => exact h
  | codeWithScope text h => exact Bool.and_eq_true_iff.mpr ⟨beq_self_eq_true text, h⟩

theorem alike_of_equal {a b : Value} (h : equal a b = true) : Alike a b := by
  have hequal := h
  revert h hequal
  fun_cases equal a b <;> intro h hequal
  case case6 => exact .double h
  case case8 => exact .array (equalItems_iff.mp h)
  case case9 => exact .doc h
  case case17 =>
    obtain ⟨htext, hscope⟩ := Bool.and_eq_true_iff.mp h
    cases eq_of_beq htext
    exact .codeWithScope _ hscope
  -- a value without parts is equal to itself only
  all_goals first
    | exact .same hequal
    | cases eq_of_beq h; exact .same hequal
    | obtain ⟨hleft, hright⟩ := Bool.and_eq_true_iff.mp h
      cases eq_of_beq hleft
      cases eq_of_beq hright
      exact .same hequal
    | cases h

end Value

/-! ## Symmetry and transitivity -/

namespace Document

variable {xs ys zs : Document}

theorem entries_of_equal (hnames : xs.keys.Nodup) (h : xs.equal ys = true) :
    ys.keys.Nodup ∧ ∀ e ∈ ys, ∃ v, (e.1, v) ∈ xs ∧ Value.equal v e.2 = true := by
  obtain ⟨hlength, hwithin⟩ := equal_iff.mp h
  have hsubset : xs.keys ⊆ ys.keys := by
    intro name hname
    obtain ⟨e, he, rfl⟩ := List.mem_map.mp hname
    obtain ⟨w, hw, -⟩ := hwithin e he
    have hmem : (e.1, w) ∈ ys := mem_of_get? hw
    exact List.mem_map.mpr ⟨_, hmem, rfl⟩
  -- names that differ and are as many as there are in the other document are all of its names
  have hkeys : ys.keys.length ≤ xs.keys.length := by
    simp only [keys, List.length_map, hlength, le_refl]
  have hperm : xs.keys.Perm ys.keys :=
    (List.subperm_of_subset hnames hsubset).perm_of_length_le hkeys
  have hnodup : ys.keys.Nodup := hperm.nodup_iff.mp hnames
  refine ⟨hnodup, fun e he => ?_⟩
  have hname : e.1 ∈ xs.keys := hperm.mem_iff.mpr (List.mem_map_of_mem he)
  obtain ⟨⟨name, v⟩, hv, hsame⟩ := List.mem_map.mp hname
  cases hsame
  obtain ⟨w, hw, hequal⟩ := hwithin _ hv
  -- the entry that is found is the given one, for no name repeats there either
  have hfound : ys.get? e.1 = some e.2 := get?_of_mem hnodup he
  cases hfound.symm.trans hw
  exact ⟨v, hv, hequal⟩

theorem parts_of_equal {p : Value → Prop} (hnames : xs.keys.Nodup)
    (hparts : ∀ v ∈ xs.map Prod.snd, ∀ w, Value.equal v w = true → p w)
    (h : xs.equal ys = true) : ys.keys.Nodup ∧ ∀ w ∈ ys.map Prod.snd, p w := by
  obtain ⟨hnodup, hentries⟩ := entries_of_equal hnames h
  refine ⟨hnodup, List.forall_mem_map.mpr fun e he => ?_⟩
  obtain ⟨v, hv, hequal⟩ := hentries e he
  exact hparts v (List.mem_map_of_mem hv) e.2 hequal

theorem equal_symm (hnames : xs.keys.Nodup)
    (hparts : ∀ v ∈ xs.map Prod.snd, ∀ w, Value.equal v w = true → Value.equal w v = true)
    (h : xs.equal ys = true) : ys.equal xs = true := by
  refine equal_iff.mpr ⟨(equal_iff.mp h).1.symm, fun e he => ?_⟩
  obtain ⟨v, hv, hequal⟩ := (entries_of_equal hnames h).2 e he
  exact ⟨v, get?_of_mem hnames hv, hparts v (List.mem_map_of_mem hv) e.2 hequal⟩

theorem equal_trans
    (hparts : ∀ u ∈ xs.map Prod.snd, ∀ v w, Value.equal u v = true → Value.equal v w = true →
      Value.equal u w = true)
    (hxy : xs.equal ys = true) (hyz : ys.equal zs = true) : xs.equal zs = true := by
  obtain ⟨hlength, hwithin⟩ := equal_iff.mp hxy
  obtain ⟨hlength', hwithin'⟩ := equal_iff.mp hyz
  refine equal_iff.mpr ⟨hlength.trans hlength', fun e he => ?_⟩
  obtain ⟨v, hv, hequal⟩ := hwithin e he
  obtain ⟨w, hw, hequal'⟩ := hwithin' _ (mem_of_get? hv)
  exact ⟨w, hw, hparts e.2 (List.mem_map_of_mem he) v w hequal hequal'⟩

theorem equal_self_iff (hnames : xs.keys.Nodup) :
    xs.equal xs = true ↔ ∀ v ∈ xs.map Prod.snd, Value.equal v v = true := by
  rw [equal_iff, List.forall_mem_map]
  refine (and_iff_right rfl).trans (forall₂_congr fun e he => ?_)
  simp only [get?_of_mem hnames he, Option.some.injEq, exists_eq_left']

end Document

namespace Value

theorem double_symm {x y : Float} (h : (x == y) = true) : (y == x) = true := by
  rw [Float.beq_iff_ne_nan_and_eq] at h ⊢
  obtain ⟨hx, hy, heq | ⟨hx0, hy0⟩ | ⟨hx0, hy0⟩⟩ := h
  · exact ⟨hy, hx, .inl heq.symm⟩
  · exact ⟨hy, hx, .inr (.inr ⟨hy0, hx0⟩)⟩
  · exact ⟨hy, hx, .inr (.inl ⟨hy0, hx0⟩)⟩

theorem double_trans {x y z : Float} (hxy : (x == y) = true) (hyz : (y == z) = true) :
    (x == z) = true := by
  rw [Float.beq_iff_ne_nan_and_eq] at hxy hyz ⊢
  obtain ⟨hx, -, hxy⟩ := hxy
  obtain ⟨-, hz, hyz⟩ := hyz
  -- doubles are equal if they are the same or both are a zero
  exact ⟨hx, hz, by grind⟩

theorem equal_symm {a b : Value} (hnames : a.NamesDistinct) (h : equal a b = true) :
    equal b a = true := by
  induction hnames generalizing b with
  | intro here _ ih =>
    cases alike_of_equal h with
    | same h => exact h
    | double h => exact double_symm h
    | array hitems =>
      have hflip := (List.forall₂_and_left _ _).mpr ⟨ih, hitems⟩
      exact equalItems_iff.mpr (hflip.imp fun v w h => h.1 h.2).flip
    | doc hdoc =>
      exact Document.equal_symm here (fun v hv _ => ih v hv) hdoc
    | codeWithScope text hscope =>
      refine (Alike.codeWithScope text ?_).equal
      exact Document.equal_symm here (fun v hv _ => ih v hv) hscope

theorem equal_trans {a b c : Value} (hab : equal a b = true) (hbc : equal b c = true) :
    equal a c = true := by
  induction a using parts_induction generalizing b c with
  | step a ih =>
    cases alike_of_equal hab with
    | same => exact hbc
    | double hxy =>
      cases alike_of_equal hbc with
      | same => exact hab
      | double hyz => exact double_trans hxy hyz
    | array hxy =>
      cases alike_of_equal hbc with
      | same => exact hab
      | array hyz =>
        obtain ⟨hlength, hitems⟩ := List.forall₂_iff_get.mp hxy
        obtain ⟨hlength', hitems'⟩ := List.forall₂_iff_get.mp hyz
        refine (Alike.array (List.forall₂_iff_get.mpr ⟨hlength.trans hlength', ?_⟩)).equal
        intro i hi hi''
        have hi' := hlength ▸ hi
        exact ih _ (List.get_mem _ ⟨i, hi⟩) (hitems i hi hi') (hitems' i hi' hi'')
    | doc hxy =>
      cases alike_of_equal hbc with
      | same => exact hab
      | doc hyz =>
        exact Document.equal_trans (fun u hu _ _ => ih u hu) hxy hyz
    | codeWithScope text hxy =>
      cases alike_of_equal hbc with
      | same => exact hab
      | codeWithScope _ hyz =>
        refine (Alike.codeWithScope text ?_).equal
        exact Document.equal_trans (fun u hu _ _ => ih u hu) hxy hyz

/-! ## Values that are equal to themselves -/

theorem equal_self_iff_parts {v : Value} (hnames : v.names.Nodup) :
    equal v v = true ↔ v.isNaN = false ∧ ∀ w ∈ v.parts, equal w w = true := by
  cases v with
  | double x =>
    have hnumber : x.isNaN = false ↔ x ≠ Float.nan := by
      rw [Float.isNaN_eq_decide_eq_nan, decide_eq_false_iff_not]
    refine (Float.beq_self_iff.trans hnumber.symm).trans (and_iff_left ?_).symm
    exact fun w hw => absurd hw List.not_mem_nil
  | array items =>
    refine equalItems_iff.trans (List.forall₂_same.trans ?_)
    exact (and_iff_right rfl).symm
  | doc entries => exact (Document.equal_self_iff hnames).trans (and_iff_right rfl).symm
  | codeWithScope text scope =>
    have htext : (text == text) = true := beq_self_eq_true text
    refine (Bool.and_eq_true_iff.trans (and_iff_right htext)).trans ?_
    exact (Document.equal_self_iff hnames).trans (and_iff_right rfl).symm
  | _ => simp [equal, isNaN, parts]

/-- A value that repeats no name is equal to itself exactly if no double in it is not a number. -/
theorem equal_self_iff {v : Value} (hnames : v.NamesDistinct) :
    equal v v = true ↔ v.NaNFree := by
  induction hnames with
  | intro here _ ih =>
    refine (equal_self_iff_parts here).trans (Iff.trans ?_ throughout_iff.symm)
    exact and_congr_right fun _ => forall₂_congr ih

theorem namesDistinct_of_equal {a b : Value} (hnames : a.NamesDistinct) (h : equal a b = true) :
    b.NamesDistinct := by
  induction hnames generalizing b with
  | intro here parts ih =>
    cases alike_of_equal h with
    | same => exact .intro here parts
    | double => exact .intro .nil (nofun)
    | array hitems =>
      have hboth := (List.forall₂_and_left _ _).mpr ⟨ih, hitems⟩
      have hflip : List.Forall₂ (fun w v => w.NamesDistinct ∧ equal v w = true) _ _ :=
        (hboth.imp fun v w h => ⟨h.1 h.2, h.2⟩).flip
      exact .intro .nil ((List.forall₂_and_left _ _).mp hflip).1
    | doc hdoc =>
      obtain ⟨hnodup, hvalues⟩ := Document.parts_of_equal here (fun v hv _ => ih v hv) hdoc
      exact .intro hnodup hvalues
    | codeWithScope text hscope =>
      obtain ⟨hnodup, hvalues⟩ := Document.parts_of_equal here (fun v hv _ => ih v hv) hscope
      exact .intro hnodup hvalues

/-! ## Keys -/

/-- Whether a value can be a key: no name repeats in it, as in any document that was built by
setting names, and no double in it is not a number. -/
structure IsKey (v : Value) : Prop where
  names : v.NamesDistinct
  numbers : v.NaNFree

namespace IsKey

variable {a b : Value}

theorem of_parts_nil (hparts : a.parts = []) (hnames : a.names = []) (hnumber : a.isNaN = false) :
    a.IsKey where
  names := .intro (hnames ▸ .nil) (by simp [hparts])
  numbers := .intro hnumber (by simp [hparts])

theorem equal_self (h : a.IsKey) : equal a a = true :=
  (equal_self_iff h.names).mpr h.numbers

theorem equal_comm (ha : a.IsKey) (hb : b.IsKey) : equal a b = equal b a :=
  Bool.eq_iff_iff.mpr ⟨equal_symm ha.names, equal_symm hb.names⟩

theorem of_equal (h : a.IsKey) (hequal : equal a b = true) : b.IsKey :=
  have hnames := namesDistinct_of_equal h.names hequal
  ⟨hnames, (equal_self_iff hnames).mp (equal_trans (equal_symm h.names hequal) hequal)⟩

theorem equal_congr (h : a.IsKey) (hequal : equal a b = true) (c : Value) :
    equal a c = equal b c :=
  Bool.eq_iff_iff.mpr ⟨equal_trans (equal_symm h.names hequal), equal_trans hequal⟩

end IsKey

end Value
end DocGuard
