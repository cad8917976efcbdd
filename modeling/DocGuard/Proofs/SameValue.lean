import DocGuard.Document.Coercion
import DocGuard.Proofs.Equality

/-!
# Equality with one kind of number

Rules and lists compare numbers of all widths as doubles. An integer, read as a double, is a number,
so that a value that can be a key is the same as itself. And being the same is transitive.
-/

namespace DocGuard

/-! ## Integers as doubles -/

section

open Float.Model (Format UnpackedFloat)
open Float.Model.UnpackedFloat

theorem unpack_eq_notANumber_iff {spec : Format} {b : BitVec spec.numBits} :
    unpack spec b = .notANumber ↔ unpackExponent b = -1#_ ∧ unpackMantissa b ≠ 0#_ := by
  unfold unpack
  dsimp only
  split
  · split <;> simp_all
  · split
    · split <;> simp_all
    · simp_all

/-- Packing makes nothing that is not a number: the greatest exponent is left to the infinities. -/
theorem unpack_pack_eq_notANumber {spec : Format} {f : UnpackedFloat}
    (h : unpack spec (pack spec f) = .notANumber) : f = .notANumber := by
  obtain ⟨hexponent, hmantissa⟩ := unpack_eq_notANumber_iff.mp h
  revert hexponent hmantissa
  fun_cases pack spec f with
  | case1 => exact fun _ _ => rfl
  | case2 s => simp [packedInfinity]
  | case3 s => simp [packedZero]
  | case4 s m e hm biased hover => simp [packedInfinity]
  | case5 s m e hm bits biased hover hnormal =>
    intro hexponent
    rw [unpackExponent_packComponents, BitVec.neg_one_eq_allOnes, ← BitVec.toNat_inj,
      BitVec.toNat_ofNat, BitVec.toNat_allOnes, Nat.mod_eq_of_lt (by omega)] at hexponent
    omega
  | case6 s m e hm bits biased hover hsub => simp [Nat.pos_iff_ne_zero.mp spec.he]

theorem isNaN_ofModel_pack {f : UnpackedFloat} (h : f ≠ .notANumber) :
    (Float.ofModel (.pack f)).isNaN = false := by
  rw [← Bool.not_eq_true]
  exact fun hnan => h (unpack_pack_eq_notANumber (isNaN_iff.mp hnan))

theorem roundWithAccuracy_ne_notANumber (spec : Format) (s : Sign) (m : Nat) (e : Int)
    (a : Accuracy) : roundWithAccuracy spec s m e a ≠ .notANumber := by
  unfold roundWithAccuracy
  dsimp only
  split <;> exact UnpackedFloat.noConfusion

theorem ofNat_ne_notANumber (spec : Format) (n : Nat) :
    UnpackedFloat.ofNat spec n ≠ .notANumber := by
  unfold UnpackedFloat.ofNat UnpackedFloat.ofInt UnpackedFloat.normalize
  split
  · exact roundWithAccuracy_ne_notANumber _ _ _ _ _
  · exact UnpackedFloat.noConfusion
  · exact roundWithAccuracy_ne_notANumber _ _ _ _ _

theorem mul_finite_ne_notANumber {spec : Format} {f : UnpackedFloat} (h : f ≠ .notANumber)
    (s : Sign) (m : Nat) (e : Int) (hm : 0 < m) :
    UnpackedFloat.mul spec f (.finite s m e hm) ≠ .notANumber := by
  cases f with
  | notANumber => exact absurd rfl h
  | finite => exact roundWithAccuracy_ne_notANumber _ _ _ _ _
  | _ => exact UnpackedFloat.noConfusion

theorem ofScientific_ne_notANumber (spec : Format) (m e : Nat) :
    UnpackedFloat.ofScientific spec m (.ofNat e) ≠ .notANumber := by
  fun_cases UnpackedFloat.ofScientific with
  | case4 => exact mul_finite_ne_notANumber (fun h => UnpackedFloat.noConfusion h) _ _ _ _
  | case5 _ _ _ hnegative => exact absurd (Int.natCast_nonneg e) hnegative
  | _ => exact UnpackedFloat.noConfusion

theorem isNaN_ofNat (n : Nat) : (Float.ofNat n).isNaN = false := by
  change (Float.ofScientific n false 0).isNaN = false
  unfold Float.ofScientific
  split
  · -- a small number is multiplied by one
    have hone : (Float.ofBits 0x3FF0000000000000).toModel.unpack =
        .finite .positive (Nat.pow 2 52) (-52) (by decide) := rfl
    have hsmall : n.toUInt64.toFloat.toModel.unpack ≠ .notANumber :=
      fun h => ofNat_ne_notANumber .binary64 _ (unpack_pack_eq_notANumber h)
    refine isNaN_ofModel_pack ?_
    change UnpackedFloat.mul _ _ (Float.ofBits 0x3FF0000000000000).toModel.unpack ≠ _
    rw [hone]
    exact mul_finite_ne_notANumber hsmall _ _ _ _
  · exact isNaN_ofModel_pack (ofScientific_ne_notANumber _ n 0)

theorem neg_ne_notANumber {f : UnpackedFloat} (h : f ≠ .notANumber) : f.neg ≠ .notANumber := by
  cases f with
  | notANumber => exact absurd rfl h
  | _ => exact UnpackedFloat.noConfusion

/-- An integer, read as a double, is a number. -/
theorem isNaN_ofInt (n : Int) : (Float.ofInt n).isNaN = false := by
  cases n with
  | ofNat n => exact isNaN_ofNat n
  | negSucc n =>
    refine isNaN_ofModel_pack (neg_ne_notANumber fun h => ?_)
    have hnan : (Float.ofNat n.succ).isNaN = true := isNaN_iff.mpr h
    rw [isNaN_ofNat] at hnan
    cases hnan

end

/-! ## The same value -/

namespace Value

variable {a b c : Value}

theorem isNaN_of_number? {x : Float} (h : a.number? = some x) (hnumber : a.isNaN = false) :
    x.isNaN = false := by
  cases a with
  | double y => cases h; exact hnumber
  | int32 n => cases h; exact isNaN_ofInt n.toInt
  | int64 n => cases h; exact isNaN_ofInt n.toInt
  | negativeNaN => cases hnumber
  | _ => cases h

end Value

theorem sameValue_some (a b : Value) :
    sameValue (some a) (some b) =
      match a.number?, b.number? with
      | some x, some y => x == y
      | none, none => a == b
      | _, _ => false := by
  cases a <;> rfl

/-- A value that can be a key is the same as itself. -/
theorem sameValue_self {v : Value} (h : v.IsKey) : sameValue (some v) (some v) = true := by
  rw [sameValue_some]
  cases hnumber : v.number? with
  | none => exact h.equal_self
  | some x =>
    have hx := Value.isNaN_of_number? hnumber (Value.throughout_iff.mp h.numbers).1
    rw [Float.isNaN_eq_decide_eq_nan, decide_eq_false_iff_not] at hx
    exact Float.beq_self_iff.mpr hx

theorem sameValue_trans {a b c : Value} (hab : sameValue (some a) (some b) = true)
    (hbc : sameValue (some b) (some c) = true) : sameValue (some a) (some c) = true := by
  rw [sameValue_some] at hab hbc ⊢
  cases ha : a.number? <;> cases hb : b.number? <;> cases hc : c.number? <;>
    simp only [ha, hb, hc] at hab hbc ⊢
  -- numbers are the same only as numbers, and all else only as what is no number
  case none.none.none => exact Value.equal_trans hab hbc
  case some.some.some => exact Value.double_trans hab hbc
  all_goals first | cases hab | cases hbc

end DocGuard
