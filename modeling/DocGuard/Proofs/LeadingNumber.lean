import DocGuard.Document.Coercion
import DocGuard.Proofs.NumeralForm

/-!
# The number with which a text begins

The bound of a comparison that is given as text is the number with which the text begins: an
infinity, written as a word behind at most one sign, or else the longest numeral. Reading it that
way has one exception. In front of the word for infinity any number of signs is skipped, so that a
text without a number, because it has two signs, is read as an infinity.
-/

namespace DocGuard

open DocGuard.Text DocGuard.Decimal

def infinityWord : List Char := "Infinity".toList

theorem infinityWord_eq : infinityWord = ['I', 'n', 'f', 'i', 'n', 'i', 't', 'y'] := rfl

/-- The infinity with the sign in front of it. -/
def infinityOf (sign : List Char) : Float :=
  if sign.head? = some '-' then -infinity else infinity

/-- Whether a text begins with the word for infinity behind at most one sign. -/
def BeginsWithInfinity (cs : List Char) : Prop :=
  ∃ sign, IsSign sign ∧ sign ++ infinityWord <+: cs

/-- The number with which a text begins: the infinity or else the longest numeral that stands there,
and no number where neither does. -/
inductive BeginsWithNumber (cs : List Char) : Float → Prop
  | infinity {sign : List Char} (hsign : IsSign sign) (h : sign ++ infinityWord <+: cs) :
    BeginsWithNumber cs (infinityOf sign)
  | numeral {p : List Char} {x : Float} (hfinite : ¬ BeginsWithInfinity cs)
      (hp : IsLongestNumeral cs p) (hx : readDouble? p = some x) : BeginsWithNumber cs x
  | nothing (hfinite : ¬ BeginsWithInfinity cs) (h : ∀ p, p <+: cs → ¬ IsNumeral p) :
    BeginsWithNumber cs nan

/-! ## Signs -/

def isSignCharacter (c : Char) : Bool :=
  c == '+' || c == '-'

def AllSigns (cs : List Char) : Prop :=
  ∀ c ∈ cs, isSignCharacter c = true

variable {cs signs : List Char}

theorem eq_of_isSignCharacter {c : Char} (h : isSignCharacter c = true) : c = '+' ∨ c = '-' := by
  rwa [isSignCharacter, Bool.or_eq_true, beq_iff_eq, beq_iff_eq] at h

theorem allSigns_of_isSign (h : IsSign signs) : AllSigns signs := by
  cases h <;> exact List.all_eq_true.mp rfl

theorem isSign_of_length_le (h : AllSigns signs) (hlength : signs.length ≤ 1) : IsSign signs := by
  match signs with
  | [] => exact .none
  | [c] =>
    rcases eq_of_isSignCharacter (h c List.mem_cons_self) with rfl | rfl
    · exact .plus
    · exact .minus
  | _ :: _ :: _ =>
    simp only [List.length_cons] at hlength
    omega

/-- The signs in front of the word for infinity are all the signs in front of the text. -/
theorem signs_of_infinity (hsigns : AllSigns signs) (h : signs ++ infinityWord <+: cs) :
    cs.takeWhile isSignCharacter = signs ∧ infinityWord <+: dropSigns cs := by
  obtain ⟨rest, rfl⟩ := h
  rw [List.append_assoc]
  change _ ∧ infinityWord <+: List.dropWhile isSignCharacter _
  rw [List.takeWhile_append_of_pos hsigns, List.dropWhile_append_of_pos hsigns]
  exact ⟨List.append_nil _, rest, rfl⟩

theorem head_of_signs (hsigns : AllSigns signs) (h : signs ++ infinityWord <+: cs) :
    cs.head? = some '-' ↔ signs.head? = some '-' := by
  obtain ⟨rest, rfl⟩ := h
  rw [infinityWord_eq]
  cases signs with
  | nil => simp
  | cons c signs => rfl

/-! ## Reading -/

theorem leadingNumber_of_infinity {s : List Char} (hsigns : AllSigns signs)
    (h : signs ++ infinityWord <+: trimLeft s) : leadingNumber s = infinityOf signs := by
  obtain ⟨-, rest, hrest⟩ := signs_of_infinity hsigns h
  have hword : dropLead infinityWord (dropSigns (trimLeft s)) = some rest :=
    dropLead_eq_some_iff.mpr hrest.symm
  have hfound : (dropLead "Infinity".toList (dropSigns (trimLeft s))).isSome = true :=
    Option.isSome_iff_exists.mpr ⟨rest, hword⟩
  unfold leadingNumber infinityOf
  dsimp only
  rw [if_pos hfound]
  simp only [head_of_signs hsigns h]

/-- Without the word for infinity behind any signs a text is read as the numeral that a scan
finds. -/
theorem leadingNumber_of_finite {s : List Char}
    (h : ¬ ∃ signs, AllSigns signs ∧ signs ++ infinityWord <+: trimLeft s) :
    leadingNumber s =
      match Numeral.scan (trimLeft s) with
      | some (n, _) => n.toFloat
      | none => nan := by
  have hfound : (dropLead "Infinity".toList (dropSigns (trimLeft s))).isSome ≠ true := by
    intro hfound
    obtain ⟨rest, hrest⟩ := Option.isSome_iff_exists.mp hfound
    have hword : dropSigns (trimLeft s) = infinityWord ++ rest := dropLead_eq_some_iff.mp hrest
    refine h ⟨(trimLeft s).takeWhile isSignCharacter, ?_, rest, ?_⟩
    · exact List.all_eq_true.mp List.all_takeWhile
    · rw [List.append_assoc, ← hword]
      exact List.takeWhile_append_dropWhile
  unfold leadingNumber
  dsimp only
  refine (if_neg hfound).trans ?_
  cases Numeral.scan (trimLeft s) <;> rfl

theorem readDouble?_of_read? {p : List Char} {n : Numeral} (h : Numeral.read? p = some n) :
    readDouble? p = some n.toFloat := by
  rw [readDouble?, h]

/-- A text begins with one number at most. -/
theorem BeginsWithNumber.unique {x y : Float} (hx : BeginsWithNumber cs x)
    (hy : BeginsWithNumber cs y) : x = y := by
  cases hx with
  | @infinity sign hsign h =>
    cases hy with
    | @infinity sign' hsign' h' =>
      obtain ⟨hsame, -⟩ := signs_of_infinity (allSigns_of_isSign hsign) h
      obtain ⟨hsame', -⟩ := signs_of_infinity (allSigns_of_isSign hsign') h'
      rw [← hsame, ← hsame']
    | numeral hfinite => exact absurd ⟨sign, hsign, h⟩ hfinite
    | nothing hfinite => exact absurd ⟨sign, hsign, h⟩ hfinite
  | numeral hfinite hp hread =>
    cases hy with
    | @infinity sign hsign h => exact absurd ⟨sign, hsign, h⟩ hfinite
    | numeral _ hp' hread' =>
      rw [hp.unique hp', hread'] at hread
      exact (Option.some.inj hread).symm
    | nothing _ hnone => exact absurd hp.isNumeral (hnone _ hp.leads)
  | nothing hfinite hnone =>
    cases hy with
    | @infinity sign hsign h => exact absurd ⟨sign, hsign, h⟩ hfinite
    | numeral _ hp => exact absurd hp.isNumeral (hnone _ hp.leads)
    | nothing => rfl

theorem beginsWithNumber_leadingNumber {s : List Char}
    (h : ¬ ∃ signs, AllSigns signs ∧ 2 ≤ signs.length ∧ signs ++ infinityWord <+: trimLeft s) :
    BeginsWithNumber (trimLeft s) (leadingNumber s) := by
  by_cases hinfinity : ∃ signs, AllSigns signs ∧ signs ++ infinityWord <+: trimLeft s
  · obtain ⟨signs, hsigns, hword⟩ := hinfinity
    have hlength : signs.length ≤ 1 := by
      by_contra hlength
      exact h ⟨signs, hsigns, by omega, hword⟩
    rw [leadingNumber_of_infinity hsigns hword]
    exact .infinity (isSign_of_length_le hsigns hlength) hword
  · have hfinite : ¬ BeginsWithInfinity (trimLeft s) := fun ⟨sign, hsign, hword⟩ =>
      hinfinity ⟨sign, allSigns_of_isSign hsign, hword⟩
    rw [leadingNumber_of_finite hinfinity]
    cases hscan : Numeral.scan (trimLeft s) with
    | none => exact .nothing hfinite fun p hleads => not_isNumeral_of_scan hscan hleads
    | some found =>
      obtain ⟨n, rest⟩ := found
      obtain ⟨p, hp, hread⟩ := isLongestNumeral_of_scan hscan
      exact .numeral hfinite hp (readDouble?_of_read? hread)

/-- Behind two signs a scan finds nothing. -/
theorem scan_of_signs {c c' : Char} (hc : isSignCharacter c = true)
    (hc' : isSignCharacter c' = true) (rest : List Char) :
    Numeral.scan (c :: c' :: rest) = none := by
  have hsign : (takeSign (c :: c' :: rest)).2 = c' :: rest := by
    rcases eq_of_isSignCharacter hc with rfl | rfl <;> rfl
  have hends : EndsMantissa (c' :: rest) := by
    intro d hd
    cases hd
    rcases eq_of_isSignCharacter hc' with rfl | rfl <;> decide
  rw [scan_eq, hsign, if_pos hends.mantissa.1]

theorem beginsWithNumber_of_signs (hsigns : AllSigns signs) (hlength : 2 ≤ signs.length)
    (h : signs ++ infinityWord <+: cs) : BeginsWithNumber cs nan := by
  have hfinite : ¬ BeginsWithInfinity cs := by
    rintro ⟨sign, hsign, hword⟩
    obtain ⟨hsame, -⟩ := signs_of_infinity hsigns h
    obtain ⟨hsame', -⟩ := signs_of_infinity (allSigns_of_isSign hsign) hword
    rw [← hsame, hsame'] at hlength
    cases hsign <;> simp at hlength
  have hscan : Numeral.scan cs = none := by
    obtain ⟨rest, rfl⟩ := h
    match signs with
    | [] => simp at hlength
    | [_] => simp at hlength
    | c :: c' :: signs =>
      exact scan_of_signs (hsigns c List.mem_cons_self)
        (hsigns c' (List.mem_cons_of_mem _ List.mem_cons_self)) _
  exact .nothing hfinite fun p hleads => not_isNumeral_of_scan hscan hleads

/-- A text that is given as a bound is read as the number with which it begins, unless that would be
no number because of two or more signs in front of the word for infinity: then it is read as the
infinity with the first of these signs. -/
theorem toBound_text (s : String) :
    ((¬ ∃ signs, AllSigns signs ∧ 2 ≤ signs.length ∧ signs ++ infinityWord <+: trimLeft s.toList) →
      ∀ x, BeginsWithNumber (trimLeft s.toList) x ↔ x = toBound (some (.str s))) ∧
    ∀ signs, AllSigns signs → 2 ≤ signs.length → signs ++ infinityWord <+: trimLeft s.toList →
      toBound (some (.str s)) = infinityOf signs ∧
        ∀ x, BeginsWithNumber (trimLeft s.toList) x ↔ x = nan := by
  have hbound : toBound (some (.str s)) = leadingNumber s.toList := rfl
  rw [hbound]
  constructor
  · intro h x
    have hread := beginsWithNumber_leadingNumber h
    exact ⟨fun hx => hx.unique hread, fun hx => hx ▸ hread⟩
  · intro signs hsigns hlength h
    have hread := beginsWithNumber_of_signs hsigns hlength h
    refine ⟨leadingNumber_of_infinity hsigns h, fun x => ?_⟩
    exact ⟨fun hx => hx.unique hread, fun hx => hx ▸ hread⟩

/-- Two signs in front of the word for infinity begin no number, and are read as an infinity. -/
theorem toBound_overlooks_signs :
    ¬ ∀ (s : String) (x : Float), BeginsWithNumber (trimLeft s.toList) x ↔
      x = toBound (some (.str s)) := by
  intro hall
  have hleads : ['-', '-'] ++ infinityWord <+: trimLeft "--Infinity".toList := ⟨[], rfl⟩
  have hnothing : BeginsWithNumber (trimLeft "--Infinity".toList) nan :=
    beginsWithNumber_of_signs (List.all_eq_true.mp rfl) (by decide) hleads
  have hsame := (hall "--Infinity" nan).mp hnothing
  have hinfinity : toBound (some (.str "--Infinity")) = -infinity := rfl
  rw [hinfinity] at hsame
  exact absurd (congrArg Float.isNaN hsame) (by decide)

end DocGuard
