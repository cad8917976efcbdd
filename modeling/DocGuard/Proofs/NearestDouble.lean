import Mathlib.Algebra.Order.Ring.Int

/-!
# The nearest double of an integer

A double has 53 significant binary digits. An integer with more of them is rounded to the nearest
number that has 53, and one halfway between two to that whose last digit is even. So no other integer
is rounded to one of up to 53 digits, and beyond them several are rounded to the same.
-/

namespace DocGuard

/-! ## Rounding -/

/-- A quotient, rounded to the nearest number, and one halfway between two to the even one. -/
def roundedQuotient (n unit : Nat) : Nat :=
  if 2 * (n % unit) < unit then n / unit
  else if 2 * (n % unit) = unit then n / unit + n / unit % 2
  else n / unit + 1

/-- The value of the last of the 53 leading binary digits of a number. -/
def lastPlace (n : Nat) : Nat :=
  2 ^ (n.log2 - 52)

/-- A number, rounded to 53 significant binary digits. -/
def roundToPlaces (n : Nat) : Nat :=
  roundedQuotient n (lastPlace n) * lastPlace n

/-- The value of the nearest double of an integer. -/
def nearestDouble (n : Int) : Int :=
  n.sign * roundToPlaces n.natAbs

section

variable {n unit : Nat}

theorem div_le_roundedQuotient (n unit : Nat) : n / unit ≤ roundedQuotient n unit := by
  unfold roundedQuotient
  split
  · exact Nat.le_refl _
  · split <;> omega

theorem roundedQuotient_le (n unit : Nat) : roundedQuotient n unit ≤ n / unit + 1 := by
  unfold roundedQuotient
  split
  · omega
  · split <;> omega

theorem roundedQuotient_one (n : Nat) : roundedQuotient n 1 = n := by
  unfold roundedQuotient
  rw [Nat.mod_one, if_pos (by decide), Nat.div_one]

theorem roundedQuotient_mul_right {c : Nat} (hc : 0 < c) (n unit : Nat) :
    roundedQuotient (n * c) (unit * c) = roundedQuotient n unit := by
  unfold roundedQuotient
  rw [Nat.mul_mod_mul_right, Nat.mul_div_mul_right _ _ hc, ← Nat.mul_assoc]
  simp only [Nat.mul_lt_mul_right hc, Nat.mul_left_inj (Nat.pos_iff_ne_zero.mp hc)]

theorem lastPlace_pos (n : Nat) : 0 < lastPlace n :=
  Nat.two_pow_pos _

theorem lastPlace_of_lt (h : n < 2 ^ 53) : lastPlace n = 1 := by
  unfold lastPlace
  have hlog : n.log2 ≤ 52 := by
    rcases Nat.eq_zero_or_pos n with rfl | hpos
    · decide
    · exact Nat.le_of_lt_succ ((Nat.log2_lt (Nat.pos_iff_ne_zero.mp hpos)).mpr h)
  rw [Nat.sub_eq_zero_of_le hlog, Nat.pow_zero]

theorem le_log2 (h : 2 ^ 52 ≤ n) : 52 ≤ n.log2 :=
  (Nat.le_log2 (by omega)).mpr h

/-- The leading 53 digits are a number of 53 digits. -/
theorem div_lastPlace_bounds (h : 2 ^ 52 ≤ n) :
    2 ^ 52 ≤ n / lastPlace n ∧ n / lastPlace n < 2 ^ 53 := by
  have hlog := le_log2 h
  have hlow : 2 ^ n.log2 ≤ n := Nat.log2_self_le (by omega)
  have hhigh : n < 2 ^ (n.log2 + 1) := Nat.lt_log2_self
  constructor
  · rw [Nat.le_div_iff_mul_le (lastPlace_pos n), lastPlace, ← Nat.pow_add,
      Nat.add_sub_cancel' hlog]
    exact hlow
  · rw [Nat.div_lt_iff_lt_mul (lastPlace_pos n), lastPlace, ← Nat.pow_add,
      show 53 + (n.log2 - 52) = n.log2 + 1 by omega]
    exact hhigh

theorem div_lastPlace_mul (h : n ≤ 2 ^ 53) : n / lastPlace n * lastPlace n = n := by
  rcases Nat.lt_or_eq_of_le h with hlt | rfl
  · rw [lastPlace_of_lt hlt, Nat.div_one, Nat.mul_one]
  · decide

theorem roundToPlaces_of_lt (h : n < 2 ^ 53) : roundToPlaces n = n := by
  rw [roundToPlaces, lastPlace_of_lt h, roundedQuotient_one, Nat.mul_one]

/-- Rounding takes no number of 54 or more digits below them. -/
theorem le_roundToPlaces (h : 2 ^ 53 ≤ n) : 2 ^ 53 ≤ roundToPlaces n := by
  have hlog : 53 ≤ n.log2 := (Nat.le_log2 (by omega)).mpr h
  have hquotient : 2 ^ 52 ≤ roundedQuotient n (lastPlace n) :=
    (div_lastPlace_bounds (by omega)).1.trans (div_le_roundedQuotient _ _)
  have hplace : 2 ^ 1 ≤ lastPlace n := Nat.pow_le_pow_right (by decide) (by omega)
  calc 2 ^ 53 = 2 ^ 52 * 2 ^ 1 := by decide
    _ ≤ roundToPlaces n := Nat.mul_le_mul hquotient hplace

theorem roundToPlaces_pos (h : 0 < n) : 0 < roundToPlaces n := by
  rcases Nat.lt_or_ge n (2 ^ 53) with hlt | hge
  · rwa [roundToPlaces_of_lt hlt]
  · exact Nat.lt_of_lt_of_le (by decide) (le_roundToPlaces hge)

theorem roundToPlaces_le (n : Nat) : roundToPlaces n ≤ 2 * n := by
  rcases Nat.lt_or_ge n (2 ^ 53) with hlt | hge
  · rw [roundToPlaces_of_lt hlt]
    omega
  · have hplace : lastPlace n ≤ n :=
      (Nat.pow_le_pow_right (by decide) (Nat.sub_le _ _)).trans (Nat.log2_self_le (by omega))
    calc roundToPlaces n ≤ (n / lastPlace n + 1) * lastPlace n :=
          Nat.mul_le_mul_right _ (roundedQuotient_le _ _)
      _ = n / lastPlace n * lastPlace n + lastPlace n := Nat.succ_mul _ _
      _ ≤ n + n := Nat.add_le_add (Nat.div_mul_le_self _ _) hplace
      _ = 2 * n := (Nat.two_mul n).symm

theorem log2_mul_two_pow (h : 0 < n) (k : Nat) : (n * 2 ^ k).log2 = n.log2 + k := by
  have hn : n ≠ 0 := Nat.pos_iff_ne_zero.mp h
  rw [Nat.log2_eq_iff (Nat.mul_ne_zero hn (Nat.two_pow_pos k).ne'), Nat.pow_add,
    Nat.add_right_comm, Nat.pow_add]
  exact ⟨Nat.mul_le_mul_right _ (Nat.log2_self_le hn),
    Nat.mul_lt_mul_of_pos_right Nat.lt_log2_self (Nat.two_pow_pos k)⟩

theorem roundToPlaces_mul_two_pow (h : 2 ^ 52 ≤ n) (k : Nat) :
    roundToPlaces (n * 2 ^ k) = roundToPlaces n * 2 ^ k := by
  have hplace : lastPlace (n * 2 ^ k) = lastPlace n * 2 ^ k := by
    have hlog := le_log2 h
    rw [lastPlace, lastPlace, log2_mul_two_pow (by omega), ← Nat.pow_add]
    exact congrArg (2 ^ ·) (by omega)
  rw [roundToPlaces, hplace, roundedQuotient_mul_right (Nat.two_pow_pos k), ← Nat.mul_assoc]
  rfl

theorem nearestDouble_natCast (n : Nat) : nearestDouble n = roundToPlaces n := by
  rcases Nat.eq_zero_or_pos n with rfl | hpos
  · rfl
  · rw [nearestDouble, Int.sign_eq_one_of_pos (Int.natCast_pos.mpr hpos), Int.one_mul,
      Int.natAbs_natCast]

theorem nearestDouble_neg (n : Int) : nearestDouble (-n) = -nearestDouble n := by
  rw [nearestDouble, nearestDouble, Int.sign_neg, Int.natAbs_neg, Int.neg_mul]

theorem natAbs_nearestDouble (n : Int) : (nearestDouble n).natAbs = roundToPlaces n.natAbs := by
  obtain ⟨k, rfl | rfl⟩ := n.eq_nat_or_neg
  · rw [nearestDouble_natCast, Int.natAbs_natCast, Int.natAbs_natCast]
  · rw [nearestDouble_neg, nearestDouble_natCast, Int.natAbs_neg, Int.natAbs_neg,
      Int.natAbs_natCast, Int.natAbs_natCast]

theorem nearestDouble_of_lt {n : Int} (h : n.natAbs < 2 ^ 53) : nearestDouble n = n := by
  rw [nearestDouble, roundToPlaces_of_lt h, Int.sign_mul_natAbs]

/-- An integer of up to 53 digits is the nearest double of no other integer. -/
theorem nearestDouble_eq_iff {m n : Int} (hm : m.natAbs < 2 ^ 53) :
    nearestDouble m = nearestDouble n ↔ m = n := by
  refine ⟨fun h => ?_, congrArg nearestDouble⟩
  rw [nearestDouble_of_lt hm] at h
  rcases Nat.lt_or_ge n.natAbs (2 ^ 53) with hlt | hge
  · rw [h, nearestDouble_of_lt hlt]
  · have hrounded := le_roundToPlaces hge
    rw [← natAbs_nearestDouble, ← h] at hrounded
    omega

end

/-! ## Nearness -/

/-- Whether a number has at most 53 significant binary digits. -/
def HasPlaces (n : Nat) : Prop :=
  ∃ digits exponent, digits < 2 ^ 53 ∧ n = digits * 2 ^ exponent

theorem HasPlaces.le_or_le {n x : Nat} (h : 2 ^ 53 ≤ n) (hx : HasPlaces x) :
    x ≤ n / lastPlace n * lastPlace n ∨ (n / lastPlace n + 1) * lastPlace n ≤ x := by
  obtain ⟨digits, exponent, hdigits, rfl⟩ := hx
  obtain ⟨hlow, -⟩ := div_lastPlace_bounds (n := n) (by omega)
  rcases Nat.lt_or_ge exponent (n.log2 - 52) with hlt | hge
  · -- a number with more digits behind the point is below all that the quotient can be
    left
    have hpow : 2 ^ 53 * 2 ^ exponent ≤ 2 ^ 52 * lastPlace n := by
      rw [lastPlace, ← Nat.pow_add, ← Nat.pow_add]
      exact Nat.pow_le_pow_right (by decide) (by omega)
    calc digits * 2 ^ exponent ≤ 2 ^ 53 * 2 ^ exponent := Nat.mul_le_mul_right _ hdigits.le
      _ ≤ 2 ^ 52 * lastPlace n := hpow
      _ ≤ n / lastPlace n * lastPlace n := Nat.mul_le_mul_right _ hlow
  · -- and otherwise it is a multiple of the last place
    have hmultiple : digits * 2 ^ exponent =
        digits * 2 ^ (exponent - (n.log2 - 52)) * lastPlace n := by
      rw [lastPlace, Nat.mul_assoc, ← Nat.pow_add, Nat.sub_add_cancel hge]
    rw [hmultiple]
    rcases Nat.lt_or_ge (n / lastPlace n) (digits * 2 ^ (exponent - (n.log2 - 52))) with hlt | hle
    · exact .inr (Nat.mul_le_mul_right _ hlt)
    · exact .inl (Nat.mul_le_mul_right _ hle)

/-- What is rounded has at most 53 significant digits, also if it has come to `2^53`. -/
theorem hasPlaces_roundToPlaces (n : Nat) : HasPlaces (roundToPlaces n) := by
  rcases Nat.lt_or_ge n (2 ^ 53) with hlt | hge
  · exact ⟨n, 0, hlt, by rw [roundToPlaces_of_lt hlt, Nat.pow_zero, Nat.mul_one]⟩
  have hquotient : roundedQuotient n (lastPlace n) ≤ 2 ^ 53 :=
    (roundedQuotient_le _ _).trans (div_lastPlace_bounds (by omega)).2
  rcases Nat.lt_or_eq_of_le hquotient with hlt | heq
  · exact ⟨_, _, hlt, rfl⟩
  · refine ⟨1, 53 + (n.log2 - 52), by decide, ?_⟩
    rw [roundToPlaces, heq, Nat.one_mul, Nat.pow_add]
    rfl

/-- No number of 53 significant digits is nearer than the rounded one. -/
theorem roundToPlaces_nearest (n : Nat) {x : Nat} (hx : HasPlaces x) :
    ((n : Int) - roundToPlaces n).natAbs ≤ ((n : Int) - x).natAbs := by
  rcases Nat.lt_or_ge n (2 ^ 53) with hlt | hge
  · rw [roundToPlaces_of_lt hlt]
    omega
  have hside := hx.le_or_le hge
  have hpos := lastPlace_pos n
  have hsplit := Nat.div_add_mod n (lastPlace n)
  have hrest := Nat.mod_lt n hpos
  rw [Nat.mul_comm] at hsplit
  rw [Nat.succ_mul] at hside
  unfold roundToPlaces roundedQuotient
  split
  · omega
  · split
    · rcases Nat.mod_two_eq_zero_or_one (n / lastPlace n) with heven | hodd
      · rw [heven, Nat.add_zero]
        omega
      · rw [hodd, Nat.succ_mul]
        omega
    · rw [Nat.succ_mul]
      omega

/-- The nearest double has 53 significant digits, and no number that has them is nearer. -/
theorem nearestDouble_nearest (n : Int) :
    HasPlaces (nearestDouble n).natAbs ∧
      ∀ x : Int, HasPlaces x.natAbs → (n - nearestDouble n).natAbs ≤ (n - x).natAbs := by
  rw [natAbs_nearestDouble]
  refine ⟨hasPlaces_roundToPlaces _, fun x hx => ?_⟩
  have hnearest := roundToPlaces_nearest n.natAbs hx
  -- the magnitudes are no further apart than the numbers
  have hmagnitudes : (n - nearestDouble n).natAbs =
      ((n.natAbs : Int) - roundToPlaces n.natAbs).natAbs := by
    obtain ⟨k, rfl | rfl⟩ := n.eq_nat_or_neg
    · rw [nearestDouble_natCast, Int.natAbs_natCast]
    · rw [nearestDouble_neg, nearestDouble_natCast, Int.natAbs_neg, Int.natAbs_natCast]
      omega
  omega

end DocGuard
