import DocGuard.Proofs.Operand

/-!
# Sums of integers

A sum of integers is held within 64 bits after each of them. So it is the sum that they have as
numbers, as long as no sum of leading operands leaves 64 bits, and then it does not depend on their
order. It takes more than `2^32` operands of 32 bits to leave them. The sum has 32 bits itself if all
operands have and it fits.
-/

namespace DocGuard

namespace Value

/-- The integer that a value of an integer kind holds. -/
def integer? : Value → Option Int
  | .int32 n => some n.toInt
  | .int64 n => some n.toInt
  | _ => none

def isInt32 : Value → Bool
  | .int32 _ => true
  | _ => false

theorem eq_of_integer? {a b : Value} {n : Int} (ha : a.integer? = some n) (hb : b.integer? = some n)
    (hwidth : a.isInt32 = b.isInt32) : a = b := by
  have hsame : a.integer? = b.integer? := ha.trans hb.symm
  cases a with
  | int32 x =>
    cases b with
    | int32 y => rw [Int32.toInt_inj.mp (Option.some.inj hsame)]
    | _ => cases hwidth
  | int64 x =>
    cases b with
    | int64 y => rw [Int64.toInt_inj.mp (Option.some.inj hsame)]
    | int32 y => cases hwidth
    | _ => cases hb
  | _ => cases ha

end Value

def integersOf (values : List Value) : List Int :=
  values.filterMap Value.integer?

/-! ## Bounds -/

def FitsInt32 (n : Int) : Prop :=
  -(Int.pow 2 31) ≤ n ∧ n < Int.pow 2 31

def FitsInt64 (n : Int) : Prop :=
  leastInt64 ≤ n ∧ n ≤ greatestInt64

instance (n : Int) : Decidable (FitsInt32 n) :=
  inferInstanceAs (Decidable (_ ∧ _))

instance (n : Int) : Decidable (FitsInt64 n) :=
  inferInstanceAs (Decidable (_ ∧ _))

variable {n sum : Int} {ns : List Int}

theorem fitsInt64_iff : FitsInt64 n ↔ -9223372036854775808 ≤ n ∧ n ≤ 9223372036854775807 := Iff.rfl

theorem holdInt64_of_fits (h : FitsInt64 n) : holdInt64 n = n := by
  unfold holdInt64
  rw [min_eq_left h.2, max_eq_right h.1]

theorem fitsInt64_holdInt64 (n : Int) : FitsInt64 (holdInt64 n) := by
  have hbounds : leastInt64 ≤ greatestInt64 := by decide
  exact ⟨le_max_left _ _, max_le hbounds (min_le_right _ _)⟩

/-! ## Held sums -/

/-- A sum and further integers, held within 64 bits after each of them. -/
def heldFrom (sum : Int) (ns : List Int) : Int :=
  ns.foldl (fun sum n => holdInt64 (sum + n)) sum

/-- The sum of integers, held within 64 bits after each of them. -/
abbrev heldSum (ns : List Int) : Int :=
  heldFrom 0 ns

/-- Whether no sum of leading integers leaves 64 bits. -/
def StaysInt64 (ns : List Int) : Prop :=
  ∀ front ∈ ns.inits, FitsInt64 front.sum

instance (ns : List Int) : Decidable (StaysInt64 ns) :=
  inferInstanceAs (Decidable (∀ front ∈ ns.inits, FitsInt64 front.sum))

theorem heldFrom_cons (sum n : Int) (ns : List Int) :
    heldFrom sum (n :: ns) = heldFrom (holdInt64 (sum + n)) ns := rfl

theorem fitsInt64_heldFrom (h : FitsInt64 sum) (ns : List Int) : FitsInt64 (heldFrom sum ns) := by
  induction ns generalizing sum with
  | nil => exact h
  | cons n rest ih => exact ih (fitsInt64_holdInt64 (sum + n))

theorem heldFrom_eq_add (h : ∀ front, front <+: ns → FitsInt64 (sum + front.sum)) :
    heldFrom sum ns = sum + ns.sum := by
  induction ns generalizing sum with
  | nil => exact (Int.add_zero sum).symm
  | cons n rest ih =>
    have hfirst : FitsInt64 (sum + n) := by
      have hsum := h [n] (List.cons_prefix_cons.mpr ⟨rfl, List.nil_prefix⟩)
      rwa [List.sum_singleton] at hsum
    rw [heldFrom_cons, holdInt64_of_fits hfirst, ih, List.sum_cons, Int.add_assoc]
    -- the sums on the way from here are those from the start, the first number taken in
    intro front hfront
    have hsum := h (n :: front) (List.cons_prefix_cons.mpr ⟨rfl, hfront⟩)
    rwa [List.sum_cons, ← Int.add_assoc] at hsum

theorem heldSum_eq_sum (h : StaysInt64 ns) : heldSum ns = ns.sum := by
  have hfits : ∀ front, front <+: ns → FitsInt64 (0 + front.sum) := by
    intro front hfront
    rw [Int.zero_add]
    exact h front ((List.mem_inits front ns).mpr hfront)
  rw [heldSum, heldFrom_eq_add hfits, Int.zero_add]

/-- No sum of up to `2^32` integers of 32 bits leaves 64 bits. -/
theorem staysInt64_of_fitsInt32 (h : ∀ n ∈ ns, FitsInt32 n) (hlength : ns.length ≤ Nat.pow 2 32) :
    StaysInt64 ns := by
  intro front hfront
  have hpart : front <+: ns := (List.mem_inits front ns).mp hfront
  have hcount : front.length ≤ 4294967296 := hpart.length_le.trans hlength
  have hfits : ∀ n ∈ front, FitsInt32 n := fun n hn => h n (hpart.subset hn)
  -- so many of the least and of the greatest of them come to 64 bits
  have hleast := List.card_nsmul_le_sum front (-2147483648) fun n hn => (hfits n hn).1
  have hgreatest := List.sum_le_card_nsmul front 2147483647 fun n hn =>
    Int.le_of_lt_add_one (hfits n hn).2
  rw [nsmul_eq_mul] at hleast hgreatest
  rw [fitsInt64_iff]
  omega

/-! ## Sums under way -/

namespace Sum

variable {s : Sum} {operands : List Value}

/-- The total of integers alone is the integer that they come to, of 32 bits if all terms are and it
fits. -/
theorem total_of_allWhole (hwhole : s.allWhole = true) (hfits : FitsInt64 s.whole) :
    s.total.integer? = some s.whole ∧
      (s.total.isInt32 = true ↔ s.allInt32 = true ∧ FitsInt32 s.whole) := by
  by_cases hnarrow : s.allInt32 = true ∧ FitsInt32 s.whole
  · have htotal : s.total = .int32 (Int32.ofInt s.whole) := if_pos hnarrow
    have hheld : (Int32.ofInt s.whole).toInt = s.whole :=
      Int32.toInt_ofInt_of_le hnarrow.2.1 hnarrow.2.2
    rw [htotal]
    exact ⟨congrArg some hheld, iff_of_true rfl hnarrow⟩
  · have htotal : s.total = .int64 (Int64.ofInt s.whole) := (if_neg hnarrow).trans (if_pos hwhole)
    have hheld : (Int64.ofInt s.whole).toInt = s.whole := by
      rw [fitsInt64_iff] at hfits
      exact Int64.toInt_ofInt_of_le (by omega) (by omega)
    rw [htotal]
    exact ⟨congrArg some hheld, iff_of_false Bool.false_ne_true hnarrow⟩

/-- Integers are added to the integer so far, and one of 64 bits makes the sum one of 64 bits. -/
theorem run_of_integers (hwhole : s.allWhole = true)
    (h : ∀ v ∈ operands, v.integer?.isSome = true) :
    ∃ s' : Sum, s.run operands = .ok s'.total ∧ s'.allWhole = true ∧
      s'.whole = heldFrom s.whole (integersOf operands) ∧
      s'.allInt32 = (s.allInt32 && operands.all Value.isInt32) := by
  induction operands generalizing s with
  | nil => exact ⟨s, rfl, hwhole, rfl, (Bool.and_true _).symm⟩
  | cons v rest ih =>
    obtain ⟨hv, hrest⟩ := List.forall_mem_cons.mp h
    cases v with
    | int32 n =>
      -- nothing but the integer and the double changes
      let next : Sum := { s with
        whole := holdInt64 (s.whole + n.toInt), float := s.float + Float.ofInt n.toInt }
      exact ih (s := next) hwhole hrest
    | int64 n =>
      let next : Sum := { s with
        whole := holdInt64 (s.whole + n.toInt), float := s.float + Float.ofInt n.toInt
        allInt32 := false }
      obtain ⟨s', hrun, hwhole', hsum, hwidth⟩ := ih (s := next) hwhole hrest
      exact ⟨s', hrun, hwhole', hsum, hwidth.trans (Bool.and_false _).symm⟩
    | _ => cases hv

end Sum

/-! ## Additions -/

variable {d : Document} {element : Option Value} {args operands : List Value}

theorem evaluate_add (hargs : evaluateItems d element args = .ok operands) :
    evaluate d element (.doc [("$add", .array args)]) = (do return some (← addValues operands)) := by
  rw [evaluate, if_pos (by decide), evaluateOperator, if_neg (by decide), if_neg (by decide), hargs]
  rfl

/-- The sum of integers, in whatever order, is an integer: the one that they come to when each sum on
the way is held within 64 bits. -/
theorem addValues_of_integers (h : ∀ v ∈ operands, v.integer?.isSome = true) :
    ∃ total, addValues operands = .ok total ∧
      total.integer? = some (heldSum (integersOf operands)) ∧
      (total.isInt32 = true ↔
        (∀ v ∈ operands, v.isInt32 = true) ∧ FitsInt32 (heldSum (integersOf operands))) := by
  obtain ⟨s, hrun, hwhole, hsum, hwidth⟩ := Sum.run_of_integers (s := Sum.zero) rfl h
  have hheld : s.whole = heldSum (integersOf operands) := hsum
  have hzero : FitsInt64 0 := by decide
  obtain ⟨hinteger, hnarrow⟩ := Sum.total_of_allWhole hwhole (hsum ▸ fitsInt64_heldFrom hzero _)
  refine ⟨s.total, hrun, hheld ▸ hinteger, hheld ▸ hnarrow.trans (and_congr_left' ?_)⟩
  rw [hwidth, ← List.all_eq_true]
  rfl

/-- `$add` with integers as operands gives an integer: the one that they come to when each sum on the
way is held within 64 bits. It has 32 bits exactly if all operands have and it fits. As long as no sum
of leading operands leaves 64 bits, it is the sum that they have as numbers, and the same for any
order of which this holds too; and it does hold of up to `2^32` operands of 32 bits. -/
theorem evaluate_add_of_integers (hargs : evaluateItems d element args = .ok operands)
    (h : ∀ v ∈ operands, v.integer?.isSome = true) :
    ∃ total n, evaluate d element (.doc [("$add", .array args)]) = .ok (some total) ∧
      total.integer? = some n ∧ n = heldSum (integersOf operands) ∧
      (total.isInt32 = true ↔ (∀ v ∈ operands, v.isInt32 = true) ∧ FitsInt32 n) ∧
      (StaysInt64 (integersOf operands) → n = (integersOf operands).sum ∧
        ∀ args' operands', evaluateItems d element args' = .ok operands' →
          operands'.Perm operands → StaysInt64 (integersOf operands') →
          evaluate d element (.doc [("$add", .array args')]) = .ok (some total)) ∧
      ((∀ v ∈ operands, v.isInt32 = true) → operands.length ≤ Nat.pow 2 32 →
        StaysInt64 (integersOf operands)) := by
  obtain ⟨total, htotal, hinteger, hnarrow⟩ := addValues_of_integers h
  refine ⟨total, _, ?_, hinteger, rfl, hnarrow, fun hstays => ⟨heldSum_eq_sum hstays, ?_⟩, ?_⟩
  · rw [evaluate_add hargs, htotal]
    rfl
  · intro args' operands' hargs' hperm hstays'
    obtain ⟨total', htotal', hinteger', hnarrow'⟩ :=
      addValues_of_integers fun v hv => h v (hperm.subset hv)
    -- both orders have the same sum, and it is held in neither
    have hsum : heldSum (integersOf operands') = heldSum (integersOf operands) := by
      rw [heldSum_eq_sum hstays', heldSum_eq_sum hstays]
      exact (hperm.filterMap Value.integer?).sum_eq
    have hwidth : total'.isInt32 = total.isInt32 := by
      rw [Bool.eq_iff_iff, hnarrow', hnarrow, hsum]
      exact and_congr_left' (forall_congr' fun v => imp_congr_left hperm.mem_iff)
    have hsame : total' = total := Value.eq_of_integer? (hsum ▸ hinteger') hinteger hwidth
    rw [evaluate_add hargs', htotal', hsame]
    rfl
  · intro hnarrows hlength
    refine staysInt64_of_fitsInt32 (fun n hn => ?_) ((List.length_filterMap_le _ _).trans hlength)
    obtain ⟨v, hv, hvalue⟩ := List.mem_filterMap.mp hn
    have hv32 := hnarrows v hv
    cases v with
    | int32 m =>
      cases hvalue
      exact ⟨m.le_toInt, m.toInt_lt⟩
    | _ => cases hv32

/-- The greatest integer of 64 bits is reached from below, in either order. -/
theorem evaluate_add_greatest :
    let d : Document := [("n", .int64 9223372036854775806)]
    let args : List Value := [.str "$n", .int32 (-1), .int32 2]
    ∃ total, evaluate d none (.doc [("$add", .array args)]) = .ok (some total) ∧
      total.integer? = some 9223372036854775807 ∧ total.isInt32 = false ∧
      evaluate d none (.doc [("$add", .array args.reverse)]) = .ok (some total) := by
  intro d args
  let operands : List Value := [.int64 9223372036854775806, .int32 (-1), .int32 2]
  have hargs : evaluateItems d none args = .ok operands := rfl
  have hreverse : evaluateItems d none args.reverse = .ok operands.reverse := rfl
  obtain ⟨total, n, htotal, hinteger, -, hnarrow, hstays, -⟩ :=
    evaluate_add_of_integers hargs (by decide)
  obtain ⟨rfl, horder⟩ := hstays (by decide)
  refine ⟨total, htotal, hinteger, ?_, horder _ _ hreverse operands.reverse_perm (by decide)⟩
  rw [← Bool.not_eq_true, hnarrow]
  decide

/-- But a sum on the way that leaves 64 bits is held there: what comes behind it starts from less than
the operands in front have come to, and in another order they come to something else. -/
theorem addValues_holds_on_the_way :
    (¬ ∀ (operands : List Value) (total : Value), (∀ v ∈ operands, v.integer?.isSome = true) →
      addValues operands = .ok total → total.integer? = some (integersOf operands).sum) ∧
    ¬ ∀ operands operands' : List Value, (∀ v ∈ operands, v.integer?.isSome = true) →
      operands'.Perm operands → addValues operands' = addValues operands := by
  let operands : List Value := [.int64 9223372036854775807, .int32 1, .int32 (-1)]
  have hheld : addValues operands = .ok (.int64 9223372036854775806) := rfl
  constructor
  · intro hall
    exact absurd (hall operands _ (by decide) hheld) (by decide)
  · intro hall
    have hsame := hall operands [.int64 9223372036854775807, .int32 (-1), .int32 1] (by decide)
      (.cons _ (.swap _ _ _))
    rw [hheld] at hsame
    exact absurd (Value.int64.inj (Except.ok.inj hsame)) (by decide)

end DocGuard
