import DocGuard.Function.Call
import Mathlib.Data.List.Forall2

/-!
# Computations

Laws of computations that may fail, and of traced ones, which remember their calls. The results of
a list of traced computations are told apart from the calls that led to them.
-/

namespace DocGuard

variable {α β γ : Type}

/-- Along related lists each item of the first is related to one of the second. -/
theorem exists_mem_of_forall₂ {R : α → β → Prop} {xs : List α} {ys : List β}
    (h : List.Forall₂ R xs ys) {x : α} (hx : x ∈ xs) : ∃ y ∈ ys, R x y := by
  induction h with
  | nil => exact absurd hx List.not_mem_nil
  | cons hxy _ ih =>
    rcases List.mem_cons.mp hx with rfl | hmem
    · exact ⟨_, List.mem_cons_self, hxy⟩
    · obtain ⟨y, hy, hrel⟩ := ih hmem
      exact ⟨y, List.mem_cons_of_mem _ hy, hrel⟩

/-- A sequence has a value exactly if both of its parts have one. -/
theorem bind_eq_ok {x : Except Fault α} {f : α → Except Fault β} {b : β} :
    x >>= f = .ok b ↔ ∃ a, x = .ok a ∧ f a = .ok b := by
  cases x with
  | error e => simp [bind, Except.bind]
  | ok a => simp only [bind, Except.bind, Except.ok.injEq, exists_eq_left']

theorem except_map_eq_ok {x : Except Fault α} {f : α → β} {b : β} :
    x.map f = .ok b ↔ ∃ a, x = .ok a ∧ f a = b := by
  cases x with
  | error e => simp [Except.map]
  | ok a => simp only [Except.map, Except.ok.injEq, exists_eq_left']

namespace Traced

theorem bind_eq (x : Traced α) (f : α → Traced β) : x >>= f = Traced.bind x f := rfl

theorem bind_of_ok {x : Traced α} {a : α} (h : x.result = .ok a) (f : α → Traced β) :
    x >>= f = ⟨x.calls ++ (f a).calls, (f a).result⟩ := by
  rw [bind_eq, Traced.bind, h]

theorem bind_of_error {x : Traced α} {e : Fault} (h : x.result = .error e) (f : α → Traced β) :
    x >>= f = ⟨x.calls, .error e⟩ := by
  rw [bind_eq, Traced.bind, h]

theorem id_map (x : Traced α) : id <$> x = x := by
  obtain ⟨calls, e | a⟩ := x
  · rfl
  · change (⟨calls ++ [], .ok a⟩ : Traced α) = _
    rw [List.append_nil]

theorem bind_assoc (x : Traced α) (f : α → Traced β) (g : β → Traced γ) :
    x >>= f >>= g = x >>= fun a => f a >>= g := by
  cases hx : x.result with
  | error e => rw [bind_of_error hx, bind_of_error hx, bind_of_error rfl]
  | ok a =>
    rw [bind_of_ok hx, bind_of_ok hx]
    cases hf : (f a).result with
    | error e => rw [bind_of_error rfl, bind_of_error hf]
    | ok b => rw [bind_of_ok rfl, bind_of_ok hf, List.append_assoc]

/-- Traced computations form a monad: a pure one adds no calls, and calls are put together in the
order in which they are made. -/
instance : LawfulMonad Traced :=
  LawfulMonad.mk' Traced id_map (fun _ _ => rfl) bind_assoc

theorem map_eq_ok {f : α → β} {x : Traced α} {b : β} :
    (f <$> x).result = .ok b ↔ ∃ a, x.result = .ok a ∧ f a = b := by
  rw [map_eq_pure_bind, result_bind, bind_eq_ok]
  simp only [result_pure, Except.ok.injEq]

/-- What follows a result without calls matters only where there is a value. -/
theorem lift_bind_congr {r : Except Fault α} {f g : α → Traced β}
    (h : ∀ a, r = .ok a → f a = g a) : lift r >>= f = lift r >>= g := by
  cases r with
  | error e => rfl
  | ok a => rw [bind_of_ok rfl, bind_of_ok rfl, h a rfl]

/-- The values that are gathered are those of the items, in order. -/
theorem forall₂_of_gather {f : β → Traced α} {items : List β} {values : List α}
    (h : (gather (items.map f)).result = .ok values) :
    List.Forall₂ (fun b a => (f b).result = .ok a) items values := by
  induction items generalizing values with
  | nil => cases h; exact .nil
  | cons first rest ih =>
    obtain ⟨value, hvalue, hrest⟩ := bind_eq_ok.mp h
    obtain ⟨others, hothers, hvalues⟩ := bind_eq_ok.mp hrest
    cases hvalues
    exact .cons hvalue (ih hothers)

theorem forAll_cons_eq_ok {f : β → Traced Unit} {b : β} {rest : List β} :
    (forAll f (b :: rest)).result = .ok () ↔
      (f b).result = .ok () ∧ (forAll f rest).result = .ok () := by
  show (f b >>= fun _ => forAll f rest).result = .ok () ↔ _
  rw [result_bind, bind_eq_ok]
  exact ⟨fun ⟨_, hb, hrest⟩ => ⟨hb, hrest⟩, fun ⟨hb, hrest⟩ => ⟨(), hb, hrest⟩⟩

theorem calls_forAll_cons {f : β → Traced Unit} {b : β} (h : (f b).result = .ok ())
    (rest : List β) : (forAll f (b :: rest)).calls = (f b).calls ++ (forAll f rest).calls := by
  show (f b >>= fun _ => forAll f rest).calls = _
  rw [bind_of_ok h]

/-- If computations for all items succeed, each of them does. -/
theorem result_of_forAll {f : β → Traced Unit} {items : List β}
    (h : (forAll f items).result = .ok ()) {b : β} (hb : b ∈ items) : (f b).result = .ok () := by
  induction items with
  | nil => exact absurd hb List.not_mem_nil
  | cons first rest ih =>
    obtain ⟨hfirst, hrest⟩ := forAll_cons_eq_ok.mp h
    rcases List.mem_cons.mp hb with rfl | hmem
    · exact hfirst
    · exact ih hrest hmem

end Traced

end DocGuard
