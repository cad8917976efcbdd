import DocGuard.Decimal.Numeral
import Mathlib.Data.List.Basic

/-!
# The form of numerals

The grammar of decimal numerals, and what scanning a text for one finds: the longest leading part of
the text that has this form, or nothing if no leading part has.
-/

namespace DocGuard.Decimal

open DocGuard.Text

/-! ## The grammar -/

/-- At most one sign. -/
inductive IsSign : List Char → Prop
  | none : IsSign []
  | plus : IsSign ['+']
  | minus : IsSign ['-']

def AllDigits (cs : List Char) : Prop :=
  ∀ c ∈ cs, isDigit c = true

/-- Digits, which a point may follow with any number of digits behind it, or a point and digits. -/
inductive IsMantissa : List Char → Prop
  | whole {ds : List Char} (hds : AllDigits ds) (hne : ds ≠ []) : IsMantissa ds
  | pointed {ds fs : List Char} (hds : AllDigits ds) (hne : ds ≠ []) (hfs : AllDigits fs) :
    IsMantissa (ds ++ '.' :: fs)
  | fraction {fs : List Char} (hfs : AllDigits fs) (hne : fs ≠ []) : IsMantissa ('.' :: fs)

/-- Nothing, or a letter for the exponent, at most one sign, and digits. -/
inductive IsExponent : List Char → Prop
  | none : IsExponent []
  | some {e : Char} {sign ds : List Char} (he : e = 'e' ∨ e = 'E') (hsign : IsSign sign)
      (hds : AllDigits ds) (hne : ds ≠ []) : IsExponent (e :: (sign ++ ds))

/-- A decimal numeral. -/
inductive IsNumeral : List Char → Prop
  | intro {sign mantissa exponent : List Char} (hsign : IsSign sign)
      (hmantissa : IsMantissa mantissa) (hexponent : IsExponent exponent) :
    IsNumeral (sign ++ (mantissa ++ exponent))

/-- Whether a text is the longest numeral with which another one begins. -/
structure IsLongestNumeral (cs p : List Char) : Prop where
  leads : p <+: cs
  isNumeral : IsNumeral p
  longest : ∀ q, q <+: cs → IsNumeral q → q.length ≤ p.length

/-! ## Runs of digits -/

def NoDigit (cs : List Char) : Prop :=
  ∀ c ∈ cs.head?, isDigit c = false

variable {ds fs rest cs : List Char}

theorem takeWhile_digits (h : AllDigits ds) (rest : List Char) :
    (ds ++ rest).takeWhile isDigit = ds ++ rest.takeWhile isDigit :=
  List.takeWhile_append_of_pos h

theorem dropWhile_digits (h : AllDigits ds) (rest : List Char) :
    (ds ++ rest).dropWhile isDigit = rest.dropWhile isDigit :=
  List.dropWhile_append_of_pos h

theorem NoDigit.takeWhile (h : NoDigit rest) : rest.takeWhile isDigit = [] := by
  cases rest with
  | nil => rfl
  | cons c rest => simp [h c rfl]

theorem NoDigit.dropWhile (h : NoDigit rest) : rest.dropWhile isDigit = rest := by
  cases rest with
  | nil => rfl
  | cons c rest => simp [h c rfl]

theorem allDigits_takeWhile (cs : List Char) : AllDigits (cs.takeWhile isDigit) :=
  List.all_eq_true.mp List.all_takeWhile

theorem noDigit_dropWhile (cs : List Char) : NoDigit (cs.dropWhile isDigit) := by
  intro c hc
  have hhead := List.head?_dropWhile_not isDigit cs
  rw [Option.mem_def.mp hc] at hhead
  simpa using hhead

theorem isDigit_point : isDigit '.' = false := by decide

theorem isDigit_exponentLetter {e : Char} (he : e = 'e' ∨ e = 'E') : isDigit e = false := by
  rcases he with rfl | rfl <;> decide

/-! ## The parts of a scan -/

theorem takeSign_append {sign : List Char} (h : IsSign sign) {body : List Char}
    (hbody : ∀ c ∈ body.head?, c ≠ '-' ∧ c ≠ '+') :
    takeSign (sign ++ body) = ((takeSign sign).1, body) := by
  cases h with
  | plus => rfl
  | minus => rfl
  | none =>
    cases body with
    | nil => rfl
    | cons c body =>
      obtain ⟨hminus, hplus⟩ := hbody c rfl
      rw [List.nil_append, takeSign.eq_3]
      · rfl
      · intro cs h; exact hminus (List.cons.inj h).1
      · intro cs h; exact hplus (List.cons.inj h).1

theorem exists_sign (cs : List Char) :
    ∃ sign, IsSign sign ∧ cs = sign ++ (takeSign cs).2 ∧ (takeSign sign).1 = (takeSign cs).1 := by
  fun_cases takeSign cs with
  | case1 rest => exact ⟨['-'], .minus, rfl, rfl⟩
  | case2 rest => exact ⟨['+'], .plus, rfl, rfl⟩
  | case3 cs => exact ⟨[], .none, rfl, rfl⟩

theorem takeFraction_of_head (h : ∀ c ∈ cs.head?, c ≠ '.') : takeFraction cs = ([], cs) := by
  cases cs with
  | nil => rfl
  | cons c rest =>
    rw [takeFraction.eq_2]
    intro tail htail
    exact h c rfl (List.cons.inj htail).1

theorem length_takeFraction_le (cs : List Char) : (takeFraction cs).2.length ≤ cs.length := by
  fun_cases takeFraction cs with
  | case1 rest =>
    exact Nat.le_succ_of_le (List.dropWhile_sublist _).length_le
  | case2 => exact Nat.le_refl _

theorem takeExponent_cons {e : Char} (he : e = 'e' ∨ e = 'E') (rest : List Char) :
    takeExponent (e :: rest) =
      if (takeSign rest).2.takeWhile isDigit = [] then (0, e :: rest)
      else
        let n : Int := decimalValue ((takeSign rest).2.takeWhile isDigit)
        (if (takeSign rest).1 then -n else n, (takeSign rest).2.dropWhile isDigit) := by
  rw [takeExponent, if_pos he]

theorem takeExponent_of_head (h : ∀ c ∈ cs.head?, ¬ (c = 'e' ∨ c = 'E')) :
    takeExponent cs = (0, cs) := by
  cases cs with
  | nil => rfl
  | cons c rest => rw [takeExponent, if_neg (h c rfl)]

/-- Digits begin neither with a sign nor with a point. -/
theorem head_of_digits (hds : AllDigits ds) (hne : ds ≠ []) (rest : List Char) :
    ∀ c ∈ (ds ++ rest).head?, c ≠ '-' ∧ c ≠ '+' ∧ c ≠ '.' := by
  obtain ⟨d, ds, rfl⟩ := List.exists_cons_of_ne_nil hne
  intro c hc
  obtain rfl : d = c := Option.some.inj hc
  have hdigit : isDigit d = true := hds d List.mem_cons_self
  refine ⟨?_, ?_, ?_⟩ <;> rintro rfl <;> revert hdigit <;> decide

/-- An exponent that is written out is taken whole, with the digits that follow it. -/
theorem takeExponent_append {e : Char} {sign : List Char} (he : e = 'e' ∨ e = 'E')
    (hsign : IsSign sign) (hds : AllDigits ds) (hne : ds ≠ []) (rest : List Char) :
    takeExponent (e :: (sign ++ (ds ++ rest))) =
      let n : Int := decimalValue (ds ++ rest.takeWhile isDigit)
      (if (takeSign sign).1 then -n else n, rest.dropWhile isDigit) := by
  have hbody : ∀ c ∈ (ds ++ rest).head?, c ≠ '-' ∧ c ≠ '+' := by
    intro c hc
    obtain ⟨hminus, hplus, -⟩ := head_of_digits hds hne rest c hc
    exact ⟨hminus, hplus⟩
  rw [takeExponent_cons he, takeSign_append hsign hbody, takeWhile_digits hds,
    dropWhile_digits hds, if_neg (List.append_ne_nil_of_left_ne_nil hne _)]

theorem exists_exponent (cs : List Char) :
    ∃ x, IsExponent x ∧ cs = x ++ (takeExponent cs).2 ∧
      takeExponent x = ((takeExponent cs).1, []) := by
  by_cases hhead : ∀ c ∈ cs.head?, ¬ (c = 'e' ∨ c = 'E')
  · rw [takeExponent_of_head hhead]
    exact ⟨[], .none, rfl, rfl⟩
  · obtain ⟨e, rest, rfl, he⟩ : ∃ e rest, cs = e :: rest ∧ (e = 'e' ∨ e = 'E') := by
      cases cs with
      | nil => exact absurd (fun c hc => by cases hc) hhead
      | cons e rest =>
        refine ⟨e, rest, rfl, not_not.mp fun h => hhead fun c hc => ?_⟩
        cases hc
        exact h
    rw [takeExponent_cons he]
    split
    · exact ⟨[], .none, rfl, rfl⟩
    · next hne =>
      obtain ⟨sign, hsign, hrest, hnegative⟩ := exists_sign rest
      have hdigits := allDigits_takeWhile (takeSign rest).2
      have hwhole := takeExponent_append he hsign hdigits hne []
      rw [List.append_nil, List.takeWhile_nil, List.append_nil] at hwhole
      refine ⟨_, .some he hsign hdigits hne, ?_, ?_⟩
      · rw [List.cons_append, List.append_assoc, List.takeWhile_append_dropWhile, ← hrest]
      · rw [hwhole, hnegative]
        rfl

theorem length_takeExponent_le (cs : List Char) : (takeExponent cs).2.length ≤ cs.length := by
  obtain ⟨x, -, hcs, -⟩ := exists_exponent cs
  have hlength := congrArg List.length hcs
  rw [List.length_append] at hlength
  omega

/-! ## The mantissa of a scan -/

def fractionDigits (cs : List Char) : List Char :=
  (takeFraction (cs.dropWhile isDigit)).1

def mantissaDigits (cs : List Char) : List Char :=
  cs.takeWhile isDigit ++ fractionDigits cs

def afterMantissa (cs : List Char) : List Char :=
  (takeFraction (cs.dropWhile isDigit)).2

/-- Whether a mantissa in front of a text goes no further in it. -/
def EndsMantissa (cs : List Char) : Prop :=
  ∀ c ∈ cs.head?, isDigit c = false ∧ c ≠ '.'

theorem EndsMantissa.noDigit (h : EndsMantissa cs) : NoDigit cs := fun c hc => (h c hc).1

theorem IsExponent.endsMantissa {x : List Char} (h : IsExponent x) (rest : List Char)
    (hrest : x = [] → EndsMantissa rest) : EndsMantissa (x ++ rest) := by
  cases h with
  | none => exact hrest rfl
  | some he =>
    intro c hc
    cases hc
    refine ⟨isDigit_exponentLetter he, ?_⟩
    rintro rfl
    revert he
    decide

theorem mantissa_digits (hds : AllDigits ds) (rest : List Char) :
    mantissaDigits (ds ++ rest) = ds ++ mantissaDigits rest ∧
      fractionDigits (ds ++ rest) = fractionDigits rest ∧
      afterMantissa (ds ++ rest) = afterMantissa rest := by
  unfold mantissaDigits fractionDigits afterMantissa
  rw [takeWhile_digits hds, dropWhile_digits hds, List.append_assoc]
  exact ⟨rfl, rfl, rfl⟩

theorem mantissa_point (rest : List Char) :
    mantissaDigits ('.' :: rest) = rest.takeWhile isDigit ∧
      fractionDigits ('.' :: rest) = rest.takeWhile isDigit ∧
      afterMantissa ('.' :: rest) = rest.dropWhile isDigit := by
  have hpoint : NoDigit ('.' :: rest) := by
    intro c hc
    cases hc
    exact isDigit_point
  unfold mantissaDigits fractionDigits afterMantissa
  rw [hpoint.takeWhile, hpoint.dropWhile]
  exact ⟨rfl, rfl, rfl⟩

theorem EndsMantissa.mantissa (h : EndsMantissa cs) :
    mantissaDigits cs = [] ∧ fractionDigits cs = [] ∧ afterMantissa cs = cs := by
  unfold mantissaDigits fractionDigits afterMantissa
  rw [h.noDigit.takeWhile, h.noDigit.dropWhile, takeFraction_of_head fun c hc => (h c hc).2]
  exact ⟨rfl, rfl, rfl⟩

theorem length_afterMantissa_le (cs : List Char) : (afterMantissa cs).length ≤ cs.length :=
  Nat.le_trans (length_takeFraction_le _) (List.dropWhile_sublist _).length_le

/-- A mantissa that is written out is taken whole. -/
theorem IsMantissa.scanned {m : List Char} (h : IsMantissa m) (rest : List Char) :
    mantissaDigits (m ++ rest) ≠ [] ∧ (afterMantissa (m ++ rest)).length ≤ rest.length ∧
      (EndsMantissa rest → afterMantissa (m ++ rest) = rest) := by
  have hlength : (rest.dropWhile isDigit).length ≤ rest.length :=
    (List.dropWhile_sublist _).length_le
  cases h with
  | whole hds hne =>
    obtain ⟨hdigits, -, hafter⟩ := mantissa_digits hds rest
    rw [hdigits, hafter]
    exact ⟨List.append_ne_nil_of_left_ne_nil hne _, length_afterMantissa_le rest,
      fun hrest => hrest.mantissa.2.2⟩
  | @pointed ds fs hds hne hfs =>
    obtain ⟨hdigits, -, hafter⟩ := mantissa_digits hds ('.' :: (fs ++ rest))
    rw [List.append_assoc, List.cons_append, hdigits, hafter, (mantissa_point _).2.2,
      dropWhile_digits hfs]
    exact ⟨List.append_ne_nil_of_left_ne_nil hne _, hlength, fun hrest => hrest.noDigit.dropWhile⟩
  | @fraction fs hfs hne =>
    obtain ⟨hdigits, -, hafter⟩ := mantissa_point (fs ++ rest)
    rw [List.cons_append, hdigits, hafter, takeWhile_digits hfs, dropWhile_digits hfs]
    exact ⟨List.append_ne_nil_of_left_ne_nil hne _, hlength, fun hrest => hrest.noDigit.dropWhile⟩

/-- What a mantissa has behind its first digits reads the same in front of anything that ends it. -/
theorem exists_fraction {tail : List Char} (h : NoDigit tail) :
    ∃ f, tail = f ++ afterMantissa tail ∧
      (∀ ds, AllDigits ds → ds ++ mantissaDigits tail ≠ [] → IsMantissa (ds ++ f)) ∧
      ∀ rest, EndsMantissa rest → mantissaDigits (f ++ rest) = mantissaDigits tail ∧
        fractionDigits (f ++ rest) = fractionDigits tail ∧ afterMantissa (f ++ rest) = rest := by
  by_cases hpoint : ∃ after, tail = '.' :: after
  · obtain ⟨after, rfl⟩ := hpoint
    have hfs := allDigits_takeWhile after
    obtain ⟨hdigits, hfraction, hafter⟩ := mantissa_point after
    refine ⟨'.' :: after.takeWhile isDigit, ?_, fun ds hds hne => ?_, fun rest hrest => ?_⟩
    · rw [hafter, List.cons_append, List.takeWhile_append_dropWhile]
    · rw [hdigits] at hne
      by_cases hds' : ds = []
      · subst hds'
        exact .fraction hfs hne
      · exact .pointed hds hds' hfs
    · obtain ⟨hdigits', hfraction', hafter'⟩ := mantissa_point (after.takeWhile isDigit ++ rest)
      rw [List.cons_append, hdigits', hfraction', hafter', hdigits, hfraction,
        takeWhile_digits hfs, dropWhile_digits hfs, hrest.noDigit.takeWhile,
        hrest.noDigit.dropWhile, List.append_nil]
      exact ⟨rfl, rfl, rfl⟩
  · have hends : EndsMantissa tail := by
      intro c hc
      refine ⟨h c hc, ?_⟩
      rintro rfl
      obtain ⟨after, rfl⟩ := List.head?_eq_some_iff.mp hc
      exact hpoint ⟨after, rfl⟩
    obtain ⟨hdigits, hfraction, hafter⟩ := hends.mantissa
    refine ⟨[], hafter.symm, fun ds hds hne => ?_, fun rest hrest => ?_⟩
    · rw [hdigits, List.append_nil] at hne
      rw [List.append_nil]
      exact .whole hds hne
    · rw [hdigits, hfraction]
      exact hrest.mantissa

/-- The mantissa with which a text begins reads the same in front of anything that ends it. -/
theorem exists_mantissa (hne : mantissaDigits cs ≠ []) :
    ∃ m, IsMantissa m ∧ cs = m ++ afterMantissa cs ∧
      ∀ rest, EndsMantissa rest → mantissaDigits (m ++ rest) = mantissaDigits cs ∧
        fractionDigits (m ++ rest) = fractionDigits cs ∧ afterMantissa (m ++ rest) = rest := by
  have hds := allDigits_takeWhile cs
  obtain ⟨f, htail, hform, hreads⟩ := exists_fraction (noDigit_dropWhile cs)
  obtain ⟨hdigits, hfraction, hafter⟩ := mantissa_digits hds (cs.dropWhile isDigit)
  rw [List.takeWhile_append_dropWhile] at hdigits hfraction hafter
  refine ⟨cs.takeWhile isDigit ++ f, hform _ hds (hdigits ▸ hne), ?_, fun rest hrest => ?_⟩
  · rw [List.append_assoc, hafter, ← htail, List.takeWhile_append_dropWhile]
  · obtain ⟨hdigits', hfraction', hafter'⟩ := mantissa_digits hds (f ++ rest)
    obtain ⟨hsame, hplaces, hbehind⟩ := hreads rest hrest
    rw [List.append_assoc, hdigits', hfraction', hafter', hsame, hplaces, hbehind, hdigits,
      hfraction]
    exact ⟨rfl, rfl, rfl⟩

/-! ## What a scan finds -/

theorem scan_eq (cs : List Char) :
    Numeral.scan cs =
      if mantissaDigits (takeSign cs).2 = [] then none
      else some
        (⟨(takeSign cs).1, decimalValue (mantissaDigits (takeSign cs).2),
          (takeExponent (afterMantissa (takeSign cs).2)).1 -
            (fractionDigits (takeSign cs).2).length⟩,
        (takeExponent (afterMantissa (takeSign cs).2)).2) := rfl

/-- A mantissa begins with no sign. -/
theorem IsMantissa.head {m : List Char} (h : IsMantissa m) (rest : List Char) :
    ∀ c ∈ (m ++ rest).head?, c ≠ '-' ∧ c ≠ '+' := by
  have hdigits : ∀ {ds : List Char}, AllDigits ds → ds ≠ [] → ∀ rest,
      ∀ c ∈ (ds ++ rest).head?, c ≠ '-' ∧ c ≠ '+' := by
    intro ds hds hne rest c hc
    obtain ⟨hminus, hplus, -⟩ := head_of_digits hds hne rest c hc
    exact ⟨hminus, hplus⟩
  cases h with
  | whole hds hne => exact hdigits hds hne rest
  | pointed hds hne _ =>
    rw [List.append_assoc]
    exact hdigits hds hne _
  | fraction =>
    intro c hc
    cases hc
    decide

/-- A scan finds at least the numeral that is written there. -/
theorem IsNumeral.scanned {q : List Char} (h : IsNumeral q) (rest : List Char) :
    ∃ n left, Numeral.scan (q ++ rest) = some (n, left) ∧ left.length ≤ rest.length := by
  obtain @⟨sign, m, x, hsign, hm, hx⟩ := h
  rw [scan_eq, List.append_assoc, List.append_assoc, takeSign_append hsign (hm.head _)]
  obtain ⟨hdigits, hlength, hafter⟩ := hm.scanned (x ++ rest)
  refine ⟨_, _, if_neg hdigits, ?_⟩
  cases hx with
  | none => exact Nat.le_trans (length_takeExponent_le _) hlength
  | @some e sign' ds he hsign' hds hne =>
    have hends : EndsMantissa (e :: (sign' ++ ds) ++ rest) :=
      (IsExponent.some he hsign' hds hne).endsMantissa rest fun h => by cases h
    have hexponent := takeExponent_append he hsign' hds hne rest
    rw [← List.append_assoc] at hexponent
    change takeExponent (e :: (sign' ++ ds) ++ rest) = _ at hexponent
    rw [hafter hends, hexponent]
    exact (List.dropWhile_sublist _).length_le

/-- What a scan takes is a numeral, and the same as that numeral is from end to end. -/
theorem exists_numeral_of_scan {n : Numeral} (h : Numeral.scan cs = some (n, rest)) :
    ∃ p, IsNumeral p ∧ cs = p ++ rest ∧ Numeral.read? p = some n := by
  rw [scan_eq] at h
  by_cases hne : mantissaDigits (takeSign cs).2 = []
  · rw [if_pos hne] at h
    cases h
  · rw [if_neg hne] at h
    cases h
    obtain ⟨sign, hsign, hcs, hnegative⟩ := exists_sign cs
    obtain ⟨m, hm, hbody, hreads⟩ := exists_mantissa hne
    obtain ⟨x, hx, hafter, hexponent⟩ := exists_exponent (afterMantissa (takeSign cs).2)
    have hends : EndsMantissa x := by
      have hends := hx.endsMantissa [] fun _ c hc => by cases hc
      rwa [List.append_nil] at hends
    obtain ⟨hdigits, hfraction, hrest⟩ := hreads x hends
    refine ⟨sign ++ (m ++ x), ⟨hsign, hm, hx⟩, ?_, ?_⟩
    · rw [List.append_assoc, List.append_assoc, ← hafter, ← hbody, ← hcs]
    · rw [Numeral.read?, scan_eq, takeSign_append hsign (hm.head _), hdigits, if_neg hne,
        hfraction, hrest, hexponent, hnegative]

/-- A scan that succeeds finds the longest numeral with which the text begins. -/
theorem isLongestNumeral_of_scan {n : Numeral} (h : Numeral.scan cs = some (n, rest)) :
    ∃ p, IsLongestNumeral cs p ∧ Numeral.read? p = some n := by
  obtain ⟨p, hp, hcs, hread⟩ := exists_numeral_of_scan h
  refine ⟨p, ⟨⟨rest, hcs.symm⟩, hp, fun q hleads hq => ?_⟩, hread⟩
  obtain ⟨behind, hbehind⟩ := hleads
  obtain ⟨n', left, hscan, hlength⟩ := hq.scanned behind
  rw [hbehind, h] at hscan
  cases hscan
  have hsame := congrArg List.length (hbehind.trans hcs)
  rw [List.length_append, List.length_append] at hsame
  omega

/-- A scan fails only where no numeral begins the text. -/
theorem not_isNumeral_of_scan (h : Numeral.scan cs = none) {q : List Char} (hleads : q <+: cs) :
    ¬ IsNumeral q := by
  intro hq
  obtain ⟨behind, rfl⟩ := hleads
  obtain ⟨n, left, hscan, -⟩ := hq.scanned behind
  rw [h] at hscan
  cases hscan

theorem IsLongestNumeral.unique {p q : List Char} (hp : IsLongestNumeral cs p)
    (hq : IsLongestNumeral cs q) : p = q := by
  have hlength : p.length = q.length :=
    Nat.le_antisymm (hq.longest p hp.leads hp.isNumeral) (hp.longest q hq.leads hq.isNumeral)
  exact (List.prefix_of_prefix_length_le hp.leads hq.leads (Nat.le_of_eq hlength)).eq_of_length
    hlength

end DocGuard.Decimal
