import DocGuard.Condition.Operator
import DocGuard.Proofs.IntegerAsDouble
import DocGuard.Proofs.IntegerSum

/-!
# The same integer

Integers are compared as doubles, so two are the same exactly if they have the same nearest double.
The same integer in 32 and in 64 bits is, and an integer of up to 53 binary digits is the same as no
other. A longer one can be the same as others, and is then found in a list that holds only those.
-/

namespace DocGuard

variable {a b : Value} {m n : Int} {items : List Value} {flags : Option Value}

namespace Value

theorem number?_of_integer? (h : a.integer? = some m) : a.number? = some (Float.ofInt m) := by
  cases a with
  | int32 x => cases h; rfl
  | int64 x => cases h; rfl
  | _ => cases h

theorem natAbs_lt_of_integer? (h : a.integer? = some m) : m.natAbs < 2 ^ 64 := by
  cases a with
  | int32 x =>
    cases h
    have hlow := x.le_toInt
    have hhigh := x.toInt_lt
    omega
  | int64 x =>
    cases h
    have hlow := x.le_toInt
    have hhigh := x.toInt_lt
    omega
  | _ => cases h

theorem toItems_of_integer? (h : a.integer? = some m) : toItems (some a) = [a] := by
  cases a with
  | int32 x => rfl
  | int64 x => rfl
  | _ => cases h

end Value

theorem sameValue_integers_iff (ha : a.integer? = some m) (hb : b.integer? = some n) :
    sameValue (some a) (some b) = true ↔ nearestDouble m = nearestDouble n := by
  rw [sameValue_some, Value.number?_of_integer? ha, Value.number?_of_integer? hb]
  exact ofInt_beq_ofInt_iff (Value.natAbs_lt_of_integer? ha) (Value.natAbs_lt_of_integer? hb)

/-- Integers are the same if they are equal, and if one of them has up to 53 digits, not otherwise. -/
theorem nearestDouble_eq_iff_of_short (h : m.natAbs < 2 ^ 53 ∨ n.natAbs < 2 ^ 53) :
    nearestDouble m = nearestDouble n ↔ m = n := by
  rcases h with hm | hn
  · exact nearestDouble_eq_iff hm
  · exact eq_comm.trans ((nearestDouble_eq_iff hn).trans eq_comm)

theorem within_apply (ha : a.integer? = some m) :
    Operator.within.apply (some a) (some (.array items)) flags =
      .ok (items.any fun v => sameValue (some a) (some v)) := by
  change Except.ok (items.any (oneOf (toItems (some a)))) = _
  rw [Value.toItems_of_integer? ha]
  refine congrArg (fun p => Except.ok (items.any p)) (funext fun v => ?_)
  rw [oneOf, List.any_cons, List.any_nil, Bool.or_false]

theorem any_sameValue_iff (ha : a.integer? = some m)
    (hitems : ∀ v ∈ items, v.integer?.isSome = true) :
    (items.any fun v => sameValue (some a) (some v)) = true ↔
      ∃ n ∈ integersOf items, nearestDouble m = nearestDouble n := by
  rw [List.any_eq_true]
  constructor
  · rintro ⟨v, hv, hsame⟩
    obtain ⟨n, hn⟩ := Option.isSome_iff_exists.mp (hitems v hv)
    exact ⟨n, List.mem_filterMap.mpr ⟨v, hv, hn⟩, (sameValue_integers_iff ha hn).mp hsame⟩
  · rintro ⟨n, hn, hnearest⟩
    obtain ⟨v, hv, hvalue⟩ := List.mem_filterMap.mp hn
    exact ⟨v, hv, (sameValue_integers_iff ha hvalue).mpr hnearest⟩

/-- An integer is the same as another, of whichever width, exactly if both have the same nearest
double: so if they are equal, and as long as one of them has up to 53 binary digits, only then. And it
is found in a list of integers exactly if the list holds one with the same nearest double: so if the
list holds it, and as long as it or all that the list holds have up to 53 digits, only then. -/
theorem sameValue_of_integers (ha : a.integer? = some m) :
    (∀ b n, b.integer? = some n →
      (sameValue (some a) (some b) = true ↔ nearestDouble m = nearestDouble n) ∧
      (m = n → sameValue (some a) (some b) = true) ∧
      (m.natAbs < 2 ^ 53 ∨ n.natAbs < 2 ^ 53 → (sameValue (some a) (some b) = true ↔ m = n))) ∧
    ∀ items flags, (∀ v ∈ items, v.integer?.isSome = true) →
      ∃ found, Operator.within.apply (some a) (some (.array items)) flags = .ok found ∧
        (found = true ↔ ∃ n ∈ integersOf items, nearestDouble m = nearestDouble n) ∧
        (m ∈ integersOf items → found = true) ∧
        (m.natAbs < 2 ^ 53 ∨ (∀ n ∈ integersOf items, n.natAbs < 2 ^ 53) →
          (found = true ↔ m ∈ integersOf items)) := by
  constructor
  · intro b n hb
    have hiff := sameValue_integers_iff ha hb
    exact ⟨hiff, fun h => hiff.mpr (congrArg nearestDouble h),
      fun hshort => hiff.trans (nearestDouble_eq_iff_of_short hshort)⟩
  · intro items flags hitems
    have hiff := any_sameValue_iff ha hitems
    refine ⟨_, within_apply ha, hiff, fun h => hiff.mpr ⟨m, h, rfl⟩, fun hshort => hiff.trans ?_⟩
    constructor
    · rintro ⟨n, hn, hnearest⟩
      have heq := (nearestDouble_eq_iff_of_short (hshort.imp_right fun h => h n hn)).mp hnearest
      exact heq ▸ hn
    · exact fun h => ⟨m, h, rfl⟩

/-- An integer of 32 bits is found in a list that holds it in 64, and not beside others. -/
theorem sameValue_of_widths :
    sameValue (some (.int32 7)) (some (.int64 7)) = true ∧
      Operator.within.apply (some (.int32 7)) (some (.array [.int64 9007199254740993, .int64 7]))
        none = .ok true ∧
      Operator.within.apply (some (.int32 7)) (some (.array [.int64 9007199254740993, .int32 8]))
        none = .ok false := by
  have hseven : (Value.int32 7).integer? = some 7 := rfl
  obtain ⟨hsame, hwithin⟩ := sameValue_of_integers hseven
  refine ⟨(hsame (.int64 7) 7 rfl).2.1 rfl, ?_, ?_⟩
  · obtain ⟨found, hfound, -, hheld, -⟩ :=
      hwithin [.int64 9007199254740993, .int64 7] none (by decide)
    rw [hfound, hheld (by decide)]
  · obtain ⟨found, hfound, -, -, hshort⟩ :=
      hwithin [.int64 9007199254740993, .int32 8] none (by decide)
    have hmissed : ¬ found = true := fun h => absurd ((hshort (.inl (by decide))).mp h) (by decide)
    rw [hfound, Bool.eq_false_iff.mpr hmissed]

/-- But `2^53` and the integer after it have the same nearest double, and each is found in the place
of the other. -/
theorem sameValue_overlooks_last_digit :
    (¬ ∀ (a b : Value) (m n : Int), a.integer? = some m → b.integer? = some n →
      (sameValue (some a) (some b) = true ↔ m = n)) ∧
    ¬ ∀ (a : Value) (m : Int) (items : List Value), a.integer? = some m →
      (∀ v ∈ items, v.integer?.isSome = true) →
      (Operator.within.apply (some a) (some (.array items)) none = .ok true ↔
        m ∈ integersOf items) := by
  have hshort : (Value.int64 9007199254740992).integer? = some 9007199254740992 := rfl
  have hlong : (Value.int64 9007199254740993).integer? = some 9007199254740993 := rfl
  have hsame : sameValue (some (.int64 9007199254740993)) (some (.int64 9007199254740992)) = true :=
    (sameValue_integers_iff hlong hshort).mpr (by decide)
  constructor
  · intro hall
    exact absurd ((hall _ _ _ _ hlong hshort).mp hsame) (by decide)
  · intro hall
    have hfound : Operator.within.apply (some (.int64 9007199254740993))
        (some (.array [.int64 9007199254740992])) none = .ok true := by
      rw [within_apply hlong, List.any_cons, hsame, Bool.true_or]
    exact absurd ((hall _ _ [.int64 9007199254740992] hlong (by decide)).mp hfound) (by decide)

end DocGuard
