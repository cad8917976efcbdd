import DocGuard.Proofs.NearestDouble
import DocGuard.Proofs.SameValue

/-!
# Integers as doubles

An integer of 64 bits, read as a double, has the value of its nearest double. A reading shifts the
integer until it has 53 digits, rounds and multiplies, and none of these loses more than the rounding.
As the digits of a double begin with a one, its mantissa and exponent are determined by its value, and
doubles are equal exactly if their values are.
-/

namespace DocGuard

/-! ## Rounding of unpacked doubles -/

section

open Float.Model (Format UnpackedFloat totalExponent)
open Float.Model.UnpackedFloat

/-- A mantissa that is shifted keeps the first digit that falls off, and whether another of them is
not zero. -/
theorem repeat_shiftRightOne (m k : Nat) :
    k.repeat ExtendedMantissa.shiftRightOne ⟨m, false, false⟩ =
      ⟨m / 2 ^ k, decide (2 ^ k ≤ 2 * (m % 2 ^ k)),
        decide (2 * (m % 2 ^ k) ≠ 0 ∧ 2 * (m % 2 ^ k) ≠ 2 ^ k)⟩ := by
  induction k with
  | zero =>
    rw [Nat.repeat, Nat.pow_zero, Nat.mod_one, Nat.div_one]
    rfl
  | succ k ih =>
    have hrest : m % 2 ^ k < 2 ^ k := Nat.mod_lt _ (Nat.two_pow_pos k)
    have hmod : m % 2 ^ (k + 1) = m % 2 ^ k + 2 ^ k * (m / 2 ^ k % 2) := by
      rw [Nat.pow_succ, Nat.mod_mul]
    rw [Nat.repeat, ih, ExtendedMantissa.shiftRightOne, hmod, Nat.pow_succ,
      ← Nat.div_div_eq_div_mul, ExtendedMantissa.mk.injEq]
    refine ⟨rfl, ?_, ?_⟩
    -- the digit that falls off now stands before all that have fallen off
    all_goals
      rcases Nat.mod_two_eq_zero_or_one (m / 2 ^ k) with hbit | hbit
      all_goals
        rw [Bool.eq_iff_iff]
        simp only [hbit, bne_iff_ne, Bool.or_eq_true, decide_eq_true_eq]
        omega

theorem roundedMantissa_repeat (m k : Nat) :
    (k.repeat ExtendedMantissa.shiftRightOne ⟨m, false, false⟩).roundedMantissa =
      roundedQuotient m (2 ^ k) := by
  have hunit : 0 < 2 ^ k := Nat.two_pow_pos k
  rw [repeat_shiftRightOne, roundedQuotient]
  split
  · next hbelow =>
    rw [decide_eq_false (by omega)]
    -- nothing and less than a half both round down
    cases decide (2 * (m % 2 ^ k) ≠ 0 ∧ 2 * (m % 2 ^ k) ≠ 2 ^ k) <;> rfl
  · split
    · next hhalf =>
      rw [decide_eq_true (by omega), decide_eq_false (by omega)]
      rfl
    · rw [decide_eq_true (by omega), decide_eq_true (by omega)]
      rfl

theorem shiftToTargetExponent_of_le {m : Nat} {e : Int} (h : 2 ^ 52 ≤ m) (he : -1074 ≤ e) :
    shiftToTargetExponent .binary64 m e .exact =
      ((m.log2 - 52).repeat ExtendedMantissa.shiftRightOne ⟨m, false, false⟩,
        e + (m.log2 - 52 : Nat)) := by
  have hlog := le_log2 h
  have hshift : (Format.binary64.targetExponent (totalExponent m e) - e).toNat = m.log2 - 52 := by
    simp only [Format.targetExponent, totalExponent, Format.mantissaBits, Format.minExponent]
    omega
  unfold shiftToTargetExponent shiftToExponent
  dsimp only
  rw [hshift]
  rfl

theorem roundWithAccuracy_of_shifts {spec : Format} {m q : Nat} {e e' e'' : Int} {a : Accuracy}
    {first second : ExtendedMantissa} (s : Sign)
    (hfirst : shiftToTargetExponent spec m e a = (first, e'))
    (hrounded : first.roundedMantissa = q)
    (hsecond : shiftToTargetExponent spec q e' .exact = (second, e''))
    (hpos : 0 < second.mantissa) :
    roundWithAccuracy spec s m e a = .finite s second.mantissa e'' hpos := by
  simp only [roundWithAccuracy, hfirst, hrounded, hsecond]
  exact dif_neg (Nat.pos_iff_ne_zero.mp hpos)

/-- Rounding gives a mantissa of 53 digits, and keeps the value of what has been rounded. -/
theorem exists_roundWithAccuracy {m : Nat} {e : Int} (s : Sign) (h : 2 ^ 52 ≤ m) (he : -1074 ≤ e) :
    ∃ m' e' hpos, roundWithAccuracy .binary64 s m e .exact = .finite s m' e' hpos ∧
      2 ^ 52 ≤ m' ∧ m' < 2 ^ 53 ∧ e ≤ e' ∧ m' * 2 ^ (e' - e).toNat = roundToPlaces m := by
  let q := roundedQuotient m (lastPlace m)
  obtain ⟨hlow, hhigh⟩ := div_lastPlace_bounds h
  have hq : 2 ^ 52 ≤ q := hlow.trans (div_le_roundedQuotient m (lastPlace m))
  have hq' : q ≤ 2 ^ 53 := (roundedQuotient_le m (lastPlace m)).trans hhigh
  obtain ⟨hlow', hhigh'⟩ := div_lastPlace_bounds hq
  have hpos : 0 < q / lastPlace q := by omega
  refine ⟨q / lastPlace q, e + (m.log2 - 52 : Nat) + (q.log2 - 52 : Nat), hpos, ?_, hlow', hhigh',
    by omega, ?_⟩
  · have hfirst := shiftToTargetExponent_of_le h he
    -- the quotient is shifted once more, which matters if it has come to 54 digits
    have hsecond := shiftToTargetExponent_of_le hq (e := e + (m.log2 - 52 : Nat)) (by omega)
    rw [repeat_shiftRightOne] at hsecond
    exact roundWithAccuracy_of_shifts s hfirst (roundedMantissa_repeat m _) hsecond hpos
  · have hshift : (e + (m.log2 - 52 : Nat) + (q.log2 - 52 : Nat) - e).toNat =
        (q.log2 - 52) + (m.log2 - 52) := by omega
    rw [hshift, Nat.pow_add, ← Nat.mul_assoc]
    change q / lastPlace q * lastPlace q * lastPlace m = q * lastPlace m
    rw [div_lastPlace_mul hq']

/-- The mantissa and the exponent are determined by the value. -/
theorem eq_of_mul_eq {m m' k k' : Nat} (hlow : 2 ^ 52 ≤ m) (hhigh : m < 2 ^ 53)
    (hlow' : 2 ^ 52 ≤ m') (hhigh' : m' < 2 ^ 53) (h : m * 2 ^ k = m' * 2 ^ k') :
    m = m' ∧ k = k' := by
  have hlog {m k : Nat} (hlow : 2 ^ 52 ≤ m) (hhigh : m < 2 ^ 53) :
      (m * 2 ^ k).log2 = 52 + k := by
    rw [log2_mul_two_pow (by omega), (Nat.log2_eq_iff (by omega)).mpr ⟨hlow, hhigh⟩]
  have hk : k = k' := by
    have hsame := congrArg Nat.log2 h
    rw [hlog hlow hhigh, hlog hlow' hhigh'] at hsame
    omega
  subst hk
  exact ⟨Nat.eq_of_mul_eq_mul_right (Nat.two_pow_pos k) h, rfl⟩

/-- A mantissa of 53 digits is not rounded. -/
theorem roundWithAccuracy_of_lt {m : Nat} {e : Int} (s : Sign) (hlow : 2 ^ 52 ≤ m)
    (hhigh : m < 2 ^ 53) (he : -1074 ≤ e) :
    roundWithAccuracy .binary64 s m e .exact = .finite s m e (by omega) := by
  obtain ⟨m', e', hpos, hrounds, hlow', hhigh', he', hvalue⟩ := exists_roundWithAccuracy s hlow he
  have hsame : m' * 2 ^ (e' - e).toNat = m * 2 ^ 0 := by
    rw [hvalue, roundToPlaces_of_lt hhigh, Nat.pow_zero, Nat.mul_one]
  obtain ⟨rfl, hexponent⟩ := eq_of_mul_eq hlow' hhigh' hlow hhigh hsame
  have : e' = e := by omega
  subst this
  exact hrounds

def signOf (n : Int) : Sign :=
  if n < 0 then .negative else .positive

/-- An unpacked double is the zero without a sign, or has a mantissa of 53 digits, and its value is so
many times `2^-104`. A product of two integers of 53 digits as doubles has no smaller part. -/
inductive HasValue : UnpackedFloat → Int → Prop
  | zero : HasValue (.zero .positive) 0
  | finite {n : Int} (m : Nat) (e : Int) (hpos : 0 < m) (hlow : 2 ^ 52 ≤ m) (hhigh : m < 2 ^ 53)
      (he : -104 ≤ e) (hn : n.natAbs = m * 2 ^ (e + 104).toNat) :
      HasValue (.finite (signOf n) m e hpos) n

theorem hasValue_roundWithAccuracy {m : Nat} {e : Int} (h : 2 ^ 52 ≤ m) (he : -104 ≤ e) :
    HasValue (roundWithAccuracy .binary64 .positive m e .exact)
      (roundToPlaces m * 2 ^ (e + 104).toNat : Nat) := by
  obtain ⟨m', e', hpos, hrounds, hlow, hhigh, he', hvalue⟩ :=
    exists_roundWithAccuracy .positive h (e := e) (by omega)
  rw [hrounds, ← hvalue, Nat.mul_assoc, ← Nat.pow_add,
    show (e' - e).toNat + (e + 104).toNat = (e' + 104).toNat by omega]
  have hsign : signOf (m' * 2 ^ (e' + 104).toNat : Nat) = .positive :=
    if_neg (Int.not_lt.mpr (Int.natCast_nonneg _))
  rw [← hsign]
  exact .finite m' e' hpos hlow hhigh (by omega) (Int.natAbs_natCast _)

namespace HasValue

variable {f g : UnpackedFloat} {m n : Int}

theorem ne_notANumber (h : HasValue f n) : f ≠ .notANumber := by
  cases h <;> exact UnpackedFloat.noConfusion

theorem ne_negativeZero (h : HasValue f n) : f ≠ .zero .negative := by
  cases h <;> intro h <;> cases h

theorem unique (hf : HasValue f n) (hg : HasValue g n) : f = g := by
  cases hf with
  | zero =>
    cases hg with
    | zero => rfl
    | finite m e hpos _ _ _ hn => exact absurd hn (Nat.mul_pos hpos (Nat.two_pow_pos _)).ne
  | finite m e hpos hlow hhigh he hn =>
    cases hg with
    | zero => exact absurd hn (Nat.mul_pos hpos (Nat.two_pow_pos _)).ne
    | finite m' e' hpos' hlow' hhigh' he' hn' =>
      obtain ⟨rfl, hexponent⟩ := eq_of_mul_eq hlow hhigh hlow' hhigh' (hn.symm.trans hn')
      have : e = e' := by omega
      subst this
      rfl

theorem value_unique (hm : HasValue f m) (hn : HasValue f n) : m = n := by
  cases hm with
  | zero => cases hn; rfl
  | finite s e hpos hlow hhigh he h =>
    generalize hsign : signOf m = s at hn
    cases hn with
    | finite _ _ _ _ _ _ h' =>
      have habs := h.trans h'.symm
      unfold signOf at hsign
      split at hsign <;> split at hsign <;> first | omega | cases hsign

theorem beq_iff (hf : HasValue f m) (hg : HasValue g n) : f.beq g = true ↔ m = n := by
  rw [beq_iff_ne_notANumber_and_eq]
  constructor
  · rintro ⟨-, -, rfl | ⟨-, hzero⟩ | ⟨hzero, -⟩⟩
    · exact value_unique hf hg
    · exact absurd hzero hg.ne_negativeZero
    · exact absurd hzero hf.ne_negativeZero
  · rintro rfl
    exact ⟨hf.ne_notANumber, hg.ne_notANumber, .inl (unique hf hg)⟩

theorem neg (h : HasValue f n) (hn : n ≠ 0) : HasValue f.neg (-n) := by
  cases h with
  | zero => exact absurd rfl hn
  | finite m e hpos hlow hhigh he habs =>
    have hsign : -signOf n = signOf (-n) := by
      unfold signOf
      rcases Int.lt_or_gt_of_ne hn with hlt | hgt
      · rw [if_pos hlt, if_neg (by omega)]
        rfl
      · rw [if_neg (by omega), if_pos (by omega)]
        rfl
    rw [UnpackedFloat.neg, hsign]
    exact .finite m e hpos hlow hhigh he ((Int.natAbs_neg n).trans habs)

end HasValue

/-- Packing keeps what is normal. -/
theorem unpack_pack_finite (s : Sign) {m : Nat} {e : Int} (hpos : 0 < m) (hlow : 2 ^ 52 ≤ m)
    (hhigh : m < 2 ^ 53) (he : -1074 ≤ e) (he' : e ≤ 971) :
    unpack .binary64 (pack .binary64 (.finite s m e hpos)) = .finite s m e hpos := by
  have hlog : m.log2 = 52 := (Nat.log2_eq_iff (by omega)).mpr ⟨hlow, hhigh⟩
  obtain ⟨biased, hbiased⟩ : ∃ biased : Nat, e + 1075 = biased := Int.eq_ofNat_of_zero_le (by omega)
  have hpack : pack .binary64 (.finite s m e hpos) =
      packComponents .binary64 s (BitVec.ofNat 11 biased) (BitVec.ofNat 52 m) := by
    have hexponent : (e + Format.binary64.exponentBias +
        Format.binary64.mantissaBitsWithoutImplicit).toNat = biased := by
      change (e + 1023 + 52).toNat = biased
      omega
    rw [pack, hexponent, hlog, if_neg (show ¬ 2 ^ 11 ≤ biased + 1 by omega)]
    rfl
  have hexponent : (BitVec.ofNat 11 biased).toNat = biased := by
    rw [BitVec.toNat_ofNat, Nat.mod_eq_of_lt (by omega)]
  have hmantissa : (1#1 ++ BitVec.ofNat 52 m).toNat = m := by
    rw [BitVec.toNat_append, BitVec.toNat_ofNat]
    change 2 ^ 52 ||| m % 2 ^ 52 = m
    rw [Nat.or_comm, Nat.or_two_pow_eq_add_of_lt (Nat.mod_lt m (Nat.two_pow_pos 52))]
    omega
  rw [hpack, unpack]
  simp only [unpackMantissa_packComponents, unpackExponent_packComponents,
    unpackSign_packComponents, Sign.ofBitVec_toBitVec]
  -- the exponent is neither that of the infinities nor that of what is not normal
  rw [if_neg fun h => ?infinite, if_neg fun h => ?zero]
  · simp only [hmantissa, hexponent]
    rw [UnpackedFloat.finite.injEq]
    refine ⟨rfl, rfl, ?_⟩
    change (biased : Int) - (1023 + 52) = e
    omega
  case infinite =>
    have hall := congrArg BitVec.toNat h
    rw [hexponent] at hall
    change biased = 2047 at hall
    omega
  case zero =>
    have hzero := congrArg BitVec.toNat h
    rw [hexponent] at hzero
    change biased = 0 at hzero
    omega

theorem HasValue.unpack_pack {f : UnpackedFloat} {n : Int} (h : HasValue f n)
    (hn : n.natAbs < 2 ^ 232) : unpack .binary64 (pack .binary64 f) = f := by
  cases h with
  | zero => exact unpack_packedZero
  | finite m e hpos hlow hhigh he habs =>
    -- the exponent is small, as the value is
    have hexponent : 52 + (e + 104).toNat < 232 := by
      rw [← Nat.pow_lt_pow_iff_right (show 1 < 2 by decide), Nat.pow_add]
      calc 2 ^ 52 * 2 ^ (e + 104).toNat ≤ m * 2 ^ (e + 104).toNat := Nat.mul_le_mul_right _ hlow
        _ = n.natAbs := habs.symm
        _ < 2 ^ 232 := hn
    exact unpack_pack_finite _ hpos hlow hhigh (by omega) (by omega)

/-! ## Integers -/

/-- A number of at most 53 digits has 53 when zeros are appended. -/
theorem exists_shift {n : Nat} (hpos : 0 < n) (h : n < 2 ^ 53) :
    ∃ k ≤ 52, 2 ^ 52 ≤ n * 2 ^ k ∧ n * 2 ^ k < 2 ^ 53 := by
  have hn : n ≠ 0 := Nat.pos_iff_ne_zero.mp hpos
  have hlog : n.log2 ≤ 52 := Nat.le_of_lt_succ ((Nat.log2_lt hn).mpr h)
  have hshifted : (n * 2 ^ (52 - n.log2)).log2 = 52 := by
    rw [log2_mul_two_pow hpos]
    omega
  have hpos' : n * 2 ^ (52 - n.log2) ≠ 0 := Nat.mul_ne_zero hn (Nat.two_pow_pos _).ne'
  exact ⟨52 - n.log2, Nat.sub_le _ _, (Nat.log2_eq_iff hpos').mp hshifted⟩

theorem ofNat_of_bounds {n k : Nat} (hpos : 0 < n * 2 ^ k) (hk : k ≤ 52)
    (hlow : 2 ^ 52 ≤ n * 2 ^ k) (hhigh : n * 2 ^ k < 2 ^ 53) :
    UnpackedFloat.ofNat .binary64 n = .finite .positive (n * 2 ^ k) (-k) hpos := by
  have hn : 0 < n := Nat.pos_of_mul_pos_right hpos
  have hlog : n.log2 + k = 52 := by
    rw [← log2_mul_two_pow hn, Nat.log2_eq_iff hpos.ne']
    exact ⟨hlow, hhigh⟩
  have hcompare : compare (n : Int) 0 = .gt := Int.compare_eq_gt.mpr (by omega)
  have htarget : Format.binary64.targetExponent (totalExponent n 0) = -k := by
    simp only [Format.targetExponent, totalExponent, Format.mantissaBits, Format.minExponent]
    omega
  have hshift : decreaseExponent n 0 (-k) = (n * 2 ^ k, -(k : Int)) := by
    unfold decreaseExponent
    dsimp only
    rw [show ((0 : Int) - -(k : Int)).toNat = k by omega, Nat.shiftLeft_eq, Int.zero_sub]
  have hround : UnpackedFloat.round .binary64 .positive n 0 =
      roundWithAccuracy .binary64 .positive (n * 2 ^ k) (-k) .exact := by
    unfold UnpackedFloat.round
    dsimp only
    rw [htarget, hshift]
  unfold UnpackedFloat.ofNat UnpackedFloat.ofInt UnpackedFloat.normalize
  rw [hcompare]
  exact hround.trans (roundWithAccuracy_of_lt _ hlow hhigh (by omega))

theorem unpack_toFloat {n : Nat} (h : n < 2 ^ 64) :
    n.toUInt64.toFloat.toModel.unpack =
      unpack .binary64 (pack .binary64 (UnpackedFloat.ofNat .binary64 n)) := by
  have hn : n.toUInt64.toNat = n := Nat.mod_eq_of_lt h
  change unpack .binary64 (pack .binary64 (UnpackedFloat.ofNat .binary64 n.toUInt64.toNat)) = _
  rw [hn]

theorem ofScientific_of_pos {n : Nat} (hpos : 0 < n) :
    UnpackedFloat.ofScientific .binary64 n 0 =
      roundWithAccuracy .binary64 .positive (n * 2 ^ 53) (-53) .exact := by
  have hdigits : ¬ (0 : Int) < -(2 ^ 11 + n.log2) := by omega
  unfold UnpackedFloat.ofScientific
  rw [dif_neg (Nat.pos_iff_ne_zero.mp hpos), if_neg (by decide), if_neg hdigits,
    if_pos (Int.le_refl 0), UnpackedFloat.mul]
  simp only [Nat.shiftLeft_eq]
  change roundWithAccuracy _ _ (n * 2 ^ 53 * 1) (-53 + 0) _ = _
  rw [Nat.mul_one, Int.add_zero]
  rfl

theorem scaled_lt {n : Nat} (h : n < 2 ^ 64) : roundToPlaces n * 2 ^ 104 < 2 ^ 232 := by
  have hbound := roundToPlaces_le n
  omega

theorem HasValue.unpack_pack_of_lt {f : UnpackedFloat} {n : Nat} (hn : n < 2 ^ 64)
    (h : HasValue f (roundToPlaces n * 2 ^ 104 : Nat)) :
    HasValue (unpack .binary64 (pack .binary64 f)) (roundToPlaces n * 2 ^ 104 : Nat) := by
  rwa [h.unpack_pack (scaled_lt hn)]

/-- The product with one is rounded from twice as many digits, of which the last are zeros. -/
theorem hasValue_mul_one {n k : Nat} (hpos : 0 < n * 2 ^ k) (hk : k ≤ 52)
    (hlow : 2 ^ 52 ≤ n * 2 ^ k) (hhigh : n * 2 ^ k < 2 ^ 53) :
    HasValue (UnpackedFloat.mul .binary64 (.finite .positive (n * 2 ^ k) (-k) hpos)
      (.finite .positive (2 ^ 52) (-52) (by decide))) (n * 2 ^ 104 : Nat) := by
  have hproduct := hasValue_roundWithAccuracy (m := n * 2 ^ k * 2 ^ 52) (e := -k + -52)
    (by omega) (by omega)
  rw [roundToPlaces_mul_two_pow hlow, roundToPlaces_of_lt hhigh] at hproduct
  have hvalue : n * 2 ^ k * 2 ^ 52 * 2 ^ (-(k : Int) + -52 + 104).toNat = n * 2 ^ 104 := by
    rw [Nat.mul_assoc, Nat.mul_assoc, ← Nat.pow_add, ← Nat.pow_add]
    congr 2
    omega
  rwa [hvalue] at hproduct

theorem hasValue_ofNat {n : Nat} (h : n < 2 ^ 64) :
    HasValue (Float.ofNat n).toModel.unpack (roundToPlaces n * 2 ^ 104 : Nat) := by
  rcases Nat.eq_zero_or_pos n with rfl | hpos
  · exact .zero
  change HasValue (Float.ofScientific n false 0).toModel.unpack _
  unfold Float.ofScientific
  split
  · -- a small number is multiplied by one
    next hsmall =>
    obtain ⟨k, hk, hlow, hhigh⟩ := exists_shift hpos hsmall.1
    have hone : (Float.ofBits 0x3FF0000000000000).toModel.unpack =
        .finite .positive (2 ^ 52) (-52) (by decide) := rfl
    have hfactor : n.toUInt64.toFloat.toModel.unpack =
        .finite .positive (n * 2 ^ k) (-k) (by omega) := by
      rw [unpack_toFloat h, ofNat_of_bounds (by omega) hk hlow hhigh]
      exact unpack_pack_finite _ _ hlow hhigh (by omega) (by omega)
    refine .unpack_pack_of_lt h ?_
    change HasValue (UnpackedFloat.mul _ n.toUInt64.toFloat.toModel.unpack
      (Float.ofBits 0x3FF0000000000000).toModel.unpack) _
    rw [hone, hfactor, roundToPlaces_of_lt hsmall.1]
    exact hasValue_mul_one _ hk hlow hhigh
  · -- and a great one by `10 ^ 0`, after a shift
    next hlarge =>
    have hge : 2 ^ 53 ≤ n := by omega
    refine .unpack_pack_of_lt h ?_
    change HasValue (UnpackedFloat.ofScientific .binary64 n 0) _
    have hproduct := hasValue_roundWithAccuracy (m := n * 2 ^ 53) (e := -53) (by omega) (by omega)
    rw [roundToPlaces_mul_two_pow (by omega), Nat.mul_assoc, ← Nat.pow_add] at hproduct
    rwa [ofScientific_of_pos hpos]

/-- An integer of 64 bits, read as a double, has the value of the nearest double. -/
theorem hasValue_ofInt {n : Int} (h : n.natAbs < 2 ^ 64) :
    HasValue (Float.ofInt n).toModel.unpack (nearestDouble n * 2 ^ 104) := by
  cases n with
  | ofNat n =>
    rw [Int.ofNat_eq_natCast, nearestDouble_natCast]
    exact hasValue_ofNat h
  | negSucc n =>
    have hpos : 0 < roundToPlaces n.succ * 2 ^ 104 :=
      Nat.mul_pos (roundToPlaces_pos n.succ_pos) (by decide)
    have hvalue : nearestDouble (.negSucc n) * 2 ^ 104 =
        -((roundToPlaces n.succ * 2 ^ 104 : Nat) : Int) := by
      rw [Int.negSucc_eq, nearestDouble_neg, Int.neg_mul]
      exact congrArg (fun m : Int => -(m * 2 ^ 104)) (nearestDouble_natCast n.succ)
    have hmagnitude : HasValue (Float.ofNat n.succ).toModel.unpack
        (roundToPlaces n.succ * 2 ^ 104 : Nat) := hasValue_ofNat h
    have hneg := hmagnitude.neg (by omega)
    have hsmall : (-((roundToPlaces n.succ * 2 ^ 104 : Nat) : Int)).natAbs < 2 ^ 232 := by
      rw [Int.natAbs_neg]
      exact scaled_lt h
    rw [hvalue]
    change HasValue (unpack .binary64 (pack .binary64 (Float.ofNat n.succ).toModel.unpack.neg)) _
    rwa [hneg.unpack_pack hsmall]

/-- Integers of 64 bits are equal as doubles exactly if they have the same nearest double. -/
theorem ofInt_beq_ofInt_iff {m n : Int} (hm : m.natAbs < 2 ^ 64) (hn : n.natAbs < 2 ^ 64) :
    (Float.ofInt m == Float.ofInt n) = true ↔ nearestDouble m = nearestDouble n := by
  change (Float.ofInt m).toModel.unpack.beq (Float.ofInt n).toModel.unpack = true ↔ _
  rw [(hasValue_ofInt hm).beq_iff (hasValue_ofInt hn)]
  exact Int.mul_eq_mul_right_iff (by decide)

end

end DocGuard
