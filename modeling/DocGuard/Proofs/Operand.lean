import DocGuard.Proofs.Equality
import DocGuard.Proofs.Pipeline
import DocGuard.Proofs.Place

/-!
# Operands of updates

Each operator puts its operand into an expression for the new value of a path. It is quoted there,
so that it counts as written, whatever it looks like, and the new value depends on the operand and
on what is found at the path alone. Only what `$inc` adds is not quoted: an operand that refers to
another field adds that field.
-/

namespace DocGuard

open DocGuard.Text

variable {d : Document} {element : Option Value}

/-! ## Quotation -/

theorem evaluateOperator_literal (d : Document) (element : Option Value) (v : Value) :
    evaluateOperator d element "$literal" v = .ok (some v) := by
  cases v <;> simp [evaluateOperator]

theorem evaluate_quoteValue (d : Document) (element : Option Value) (v : Value) :
    evaluate d element (quoteValue v) = .ok (some v) := by
  unfold quoteValue
  rw [evaluate, if_pos (by decide), evaluateOperator_literal]

theorem evaluateItems_quoteValue (d : Document) (element : Option Value) (items : List Value) :
    evaluateItems d element (items.map quoteValue) = .ok items := by
  induction items with
  | nil => rw [List.map_nil, evaluateItems]
  | cons v rest ih =>
    rw [List.map_cons, evaluateItems, evaluate_quoteValue, ih]
    rfl

theorem evaluate_addedList (d : Document) (v : Value) :
    evaluate d none (addedList v) = .ok (some (.array (addedItems v))) := by
  unfold addedList
  rw [evaluate, evaluateItems_quoteValue]
  rfl

/-! ## References -/

/-- A text that does not begin with a part does not begin with a longer one. -/
theorem beginsWith_append_eq_false {s lead : String} (h : beginsWith s lead = false)
    (more : String) : beginsWith s (lead ++ more) = false := by
  rw [← Bool.not_eq_true] at h ⊢
  intro hmore
  obtain ⟨rest, hrest⟩ := Option.isSome_iff_exists.mp hmore
  refine h (Option.isSome_iff_exists.mpr ⟨more.toList ++ rest, dropLead_eq_some_iff.mpr ?_⟩)
  rw [dropLead_eq_some_iff.mp hrest, String.toList_append, List.append_assoc]

/-- What is found, or a fallback for nothing and for null. -/
def presentOr (fallback : Value) : Option Value → Value
  | none => fallback
  | some .null => fallback
  | some v => v

theorem presentOr_ne_null {fallback : Value} (h : fallback ≠ .null) (found : Option Value) :
    presentOr fallback found ≠ .null := by
  unfold presentOr
  split
  · exact h
  · exact h
  · next hfound => exact fun hnull => hfound hnull

theorem beginsWith_reference (path : String) :
    beginsWith ("$" ++ path) "$$this" = beginsWith path "$this" := by
  unfold beginsWith
  rw [String.toList_append]
  rfl

/-- A reference to a path stands for what is found there, unless it reads like one to the element
under test. -/
theorem evaluate_pathReference (d : Document) {path : String}
    (h : beginsWith path "$this" = false) :
    evaluate d none (pathReference path) = .ok (d.getPath path) := by
  unfold pathReference
  rw [evaluate, resolveReference, beginsWith_reference, h, if_neg (by decide), afterLead?_append]

theorem evaluate_pathReference_this (d : Document) {path : String}
    (h : beginsWith path "$this" = true) :
    evaluate d none (pathReference path) = .error (.store .elementOutsideFilter) := by
  unfold pathReference
  rw [evaluate, resolveReference, beginsWith_reference, h, if_pos rfl]

theorem evaluate_orElse (d : Document) (path : String) (fallback : Value)
    (hfallback : evaluate d none fallback = .ok (some fallback)) :
    evaluate d none (orElse path fallback) = (do
      let found ← evaluate d none (pathReference path)
      return some (presentOr fallback found)) := by
  unfold orElse
  rw [evaluate, if_pos (by decide), evaluateOperator, if_neg (by decide), if_pos (by decide),
    evaluatePair, if_pos rfl]
  cases evaluate d none (pathReference path) with
  | error e => rfl
  | ok found =>
    cases found with
    | none => exact hfallback
    | some v =>
      cases v with
      | null => exact hfallback
      | _ => rfl

theorem evaluate_currentList (d : Document) (path : String) :
    evaluate d none (currentList path) = (do
      let found ← evaluate d none (pathReference path)
      return some (presentOr (.array []) found)) :=
  evaluate_orElse d path (.array []) (by simp only [evaluate, evaluateItems]; rfl)

/-! ## Operators -/

/-- An operator that combines values has the value that it makes of those of its arguments. -/
theorem evaluate_listOperator {name : String} {combine : List Value → Except Fault Value}
    (hcombine : listOperator? name = some combine) (hdollar : beginsWith name "$" = true)
    (hliteral : name ≠ "$literal") (hpair : isPairOperator name = false) (d : Document)
    (a b : Value) :
    evaluate d none (.doc [(name, .array [a, b])]) = (do
      let x ← evaluate d none a
      let y ← evaluate d none b
      return some (← combine [x.getD .null, y.getD .null])) := by
  rw [evaluate, if_pos hdollar, evaluateOperator, if_neg hliteral, hpair, if_neg (by decide),
    hcombine]
  dsimp only
  rw [evaluateItems, evaluateItems, evaluateItems]
  simp only [bind_assoc, pure_bind]
  rfl

theorem keepItems_of_ok {test : Value → Except Fault (Option Value)} {keep : Value → Bool}
    (h : ∀ v, test v = .ok (some (.bool (keep v)))) (items : List Value) :
    keepItems test items = .ok (items.filter keep) := by
  induction items with
  | nil => rfl
  | cons v rest ih =>
    rw [keepItems, h, ih, List.filter_cons]
    rfl

/-- What an element filter makes of its input: a list is filtered, and null stands for nothing. -/
def keepWithin (test : Value → Except Fault (Option Value)) :
    Option Value → Except Fault (Option Value)
  | none => .ok (some .null)
  | some v =>
    match v with
    | .null => .ok (some .null)
    | .array items => do return some (.array (← keepItems test items))
    | other => .error (.store (.elementFilterInput other))

theorem evaluate_filter (d : Document) (input cond : Value) :
    evaluate d none (.doc [("$filter", .doc [("input", input), ("cond", cond)])]) = (do
      keepWithin (fun v => evaluate d (some v) cond) (← evaluate d none input)) := by
  have htest : ∀ v, evaluateNamed d (some v) "cond" [("input", input), ("cond", cond)] =
      evaluate d (some v) cond := by
    intro v
    rw [evaluateNamed, if_neg (by decide), evaluateNamed, if_pos rfl]
  rw [evaluate, if_pos (by decide), evaluateOperator, if_neg (by decide), if_pos rfl,
    if_neg (by simp [Document.has, Document.get?]), if_neg (by simp [Document.has, Document.get?]),
    evaluateNamed, if_pos rfl]
  simp only [htest]
  refine bind_congr fun found => ?_
  cases found with
  | none => rfl
  | some v => cases v <;> rfl

namespace UpdateOperator

/-- What an operator with an operand makes of what is found at its path: the new value there, or
none for a path to remove. Where nothing or null is found, a list is empty and a number is zero. -/
def newValue (x : Value) (found : Option Value) : UpdateOperator → Except Fault (Option Value)
  | set => .ok (some x)
  | unset => .ok none
  | inc => do return some (← addValues [presentOr (.int32 0) found, x])
  | push =>
    match presentOr (.array []) found with
    | .array items => .ok (some (.array (items ++ addedItems x)))
    | v => .error (.store (.concatListExpected v))
  | addToSet =>
    match presentOr (.array []) found with
    | .array items => .ok (some (.array (addDistinct (addDistinct [] items) (addedItems x))))
    | _ => .error (.store .unionListExpected)
  | pull =>
    match presentOr (.array []) found with
    | .array items => .ok (some (.array (items.filter fun v => !sameValue (some v) (some x))))
    | v => .error (.store (.elementFilterInput v))

/-- The operand with which an operator works. That of `$inc` is evaluated first, and null stands for
none; all others count as they are written. -/
def operandIn (d : Document) (x : Value) : UpdateOperator → Except Fault Value
  | inc => do return (← evaluate d none x).getD .null
  | _ => .ok x

/-- Whether an operator looks at what is found at its path. -/
def readsPath : UpdateOperator → Bool
  | set => false
  | unset => false
  | _ => true

variable {path : String} {x expression : Value} {op : UpdateOperator}

theorem evaluate_push (d : Document) (path : String) (x : Value) :
    evaluate d none (.doc [("$concatArrays", .array [currentList path, addedList x])]) = (do
      push.newValue x (← evaluate d none (pathReference path))) := by
  rw [evaluate_listOperator rfl (by decide) (by decide) (by decide), evaluate_currentList,
    evaluate_addedList]
  cases evaluate d none (pathReference path) with
  | error e => rfl
  | ok found =>
    change (do return some (← concatLists [] [presentOr (.array []) found, .array (addedItems x)]))
      = newValue x found push
    have hnull : presentOr (.array []) found ≠ .null :=
      presentOr_ne_null Value.noConfusion found
    unfold newValue
    cases hpresent : presentOr (.array []) found with
    | null => exact absurd hpresent hnull
    | array items => rfl
    | _ => rfl

theorem evaluate_addToSet (d : Document) (path : String) (x : Value) :
    evaluate d none (.doc [("$setUnion", .array [currentList path, addedList x])]) = (do
      addToSet.newValue x (← evaluate d none (pathReference path))) := by
  rw [evaluate_listOperator rfl (by decide) (by decide) (by decide), evaluate_currentList,
    evaluate_addedList]
  cases evaluate d none (pathReference path) with
  | error e => rfl
  | ok found =>
    change (do return some (← uniteLists [] [presentOr (.array []) found, .array (addedItems x)]))
      = newValue x found addToSet
    unfold newValue
    cases presentOr (.array []) found <;> rfl

theorem evaluate_inc (d : Document) (path : String) (x : Value) :
    evaluate d none (.doc [("$add", .array [orElse path (.int32 0), x])]) = (do
      let found ← evaluate d none (pathReference path)
      inc.newValue (← inc.operandIn d x) found) := by
  rw [evaluate_listOperator rfl (by decide) (by decide) (by decide),
    evaluate_orElse d path (.int32 0) rfl]
  unfold operandIn
  simp only [bind_assoc, pure_bind]
  rfl

theorem evaluate_pull (d : Document) (path : String) (x : Value) :
    evaluate d none (.doc [("$filter", .doc [
        ("input", currentList path),
        ("cond", .doc [("$ne", .array [.str "$$this", quoteValue x])])])]) = (do
      pull.newValue x (← evaluate d none (pathReference path))) := by
  -- the condition holds for the items that are not the same as the operand
  have htest : ∀ v, evaluate d (some v) (.doc [("$ne", .array [.str "$$this", quoteValue x])]) =
      .ok (some (.bool (!sameValue (some v) (some x)))) := by
    intro v
    have hthis : evaluate d (some v) (.str "$$this") = .ok (some v) := by
      rw [evaluate]
      rfl
    rw [evaluate, if_pos (by decide), evaluateOperator, if_neg (by decide), if_pos (by decide),
      evaluatePair, if_neg (by decide), hthis, evaluate_quoteValue]
    change Except.ok (some (Value.bool (sameValue (some v) (some x) == false))) = _
    rw [beq_false]
  rw [evaluate_filter, evaluate_currentList]
  cases evaluate d none (pathReference path) with
  | error e => rfl
  | ok found =>
    change keepWithin _ (some (presentOr (.array []) found)) = newValue x found pull
    have hnull : presentOr (.array []) found ≠ .null :=
      presentOr_ne_null Value.noConfusion found
    unfold newValue
    cases hpresent : presentOr (.array []) found with
    | null => exact absurd hpresent hnull
    | array items =>
      rw [keepWithin, keepItems_of_ok htest]
      rfl
    | _ => rfl

/-- The expression of an operator has the new value that the operator makes of its operand and of
what is found at the path. -/
theorem evaluate_expression? (h : op.expression? path x = some expression)
    (hpath : op.readsPath = true → beginsWith path "$this" = false) (d : Document) :
    evaluate d none expression = (do op.newValue (← op.operandIn d x) (d.getPath path)) := by
  cases op with
  | set => cases h; exact evaluate_quoteValue d none x
  | unset => cases h
  | inc =>
    cases h
    rw [evaluate_inc, evaluate_pathReference d (hpath rfl)]
    rfl
  | push => cases h; rw [evaluate_push, evaluate_pathReference d (hpath rfl)]; rfl
  | addToSet => cases h; rw [evaluate_addToSet, evaluate_pathReference d (hpath rfl)]; rfl
  | pull => cases h; rw [evaluate_pull, evaluate_pathReference d (hpath rfl)]; rfl

/-- A path that reads like the element under test is found nowhere. -/
theorem evaluate_expression?_this (h : op.expression? path x = some expression)
    (hreads : op.readsPath = true) (hpath : beginsWith path "$this" = true) (d : Document) :
    evaluate d none expression = .error (.store .elementOutsideFilter) := by
  cases op with
  | set => cases hreads
  | unset => cases hreads
  | inc => cases h; rw [evaluate_inc, evaluate_pathReference_this d hpath]; rfl
  | push => cases h; rw [evaluate_push, evaluate_pathReference_this d hpath]; rfl
  | addToSet => cases h; rw [evaluate_addToSet, evaluate_pathReference_this d hpath]; rfl
  | pull => cases h; rw [evaluate_pull, evaluate_pathReference_this d hpath]; rfl

/-! ## A single operator -/

/-- What an update with a single operator and a single path makes of a document. -/
def applied (path : String) (x : Value) (d : Document) (op : UpdateOperator) :
    Except Fault (List Document) := do
  runPipeline (← updateStages [(op.name, .doc [(path, x)])]) [d]

theorem applied_of_expression? (h : op.expression? path x = some expression) (d : Document) :
    op.applied path x d = (do return [d.assignPath path (← evaluate d none expression)]) := by
  have hstages : updateStages [(op.name, .doc [(path, x)])] =
      .ok [[("$set", .doc [(path, expression)])]] := by
    cases op <;> cases h <;> rfl
  unfold applied
  rw [hstages]
  change runPipeline [[("$set", .doc [(path, expression)])]] [d] = _
  rw [runPipeline_set, Document.assign, assignedValues, assignedValues]
  cases evaluate d none expression <;> rfl

theorem applied_eq (hpath : op.readsPath = true → beginsWith path "$this" = false) (x : Value)
    (d : Document) :
    op.applied path x d = (do
      let y ← op.operandIn d x
      return [d.assignPath path (← op.newValue y (d.getPath path))]) := by
  cases hexpression : op.expression? path x with
  | some expression =>
    rw [applied_of_expression? hexpression, evaluate_expression? hexpression hpath, bind_assoc]
  | none =>
    cases op with
    | unset => rfl
    | _ => cases hexpression

end UpdateOperator

/-! ## Values that stand for themselves -/

namespace Value

/-- Whether a value is evaluated, and not taken as it is written: a text with a dollar in front, or
a document with a single entry whose name has one. -/
def isExpression : Value → Bool
  | .str s => beginsWith s "$"
  | .doc [(name, _)] => beginsWith name "$"
  | _ => false

/-- Whether there is nothing to evaluate in a value. -/
abbrev StandsForItself (v : Value) : Prop :=
  v.Throughout fun w => w.isExpression = false

end Value

/-- A text without a dollar in front refers to nothing. -/
theorem resolveReference_of_not_beginsWith {s : String} (h : beginsWith s "$" = false)
    (d : Document) : resolveReference d element s = .ok (some (.str s)) := by
  have hthis : beginsWith s "$$this" = false := beginsWith_append_eq_false h "$this"
  unfold resolveReference
  rw [hthis, if_neg (by decide), afterLead?_eq_none h]

theorem evaluateItems_of_forall {items : List Value}
    (h : ∀ v ∈ items, evaluate d element v = .ok (some v)) :
    evaluateItems d element items = .ok items := by
  induction items with
  | nil => rw [evaluateItems]
  | cons v rest ih =>
    obtain ⟨hv, hrest⟩ := List.forall_mem_cons.mp h
    rw [evaluateItems, hv, ih hrest]
    rfl

theorem evaluateEntries_of_forall {entries : List (String × Value)}
    (h : ∀ v ∈ entries.map Prod.snd, evaluate d element v = .ok (some v)) :
    evaluateEntries d element entries = .ok entries := by
  induction entries with
  | nil => rw [evaluateEntries]
  | cons e rest ih =>
    obtain ⟨hv, hrest⟩ := List.forall_mem_cons.mp h
    rw [evaluateEntries, hv, ih hrest]
    rfl

theorem evaluate_of_standsForItself {v : Value} (h : v.StandsForItself) (d : Document) :
    evaluate d none v = .ok (some v) := by
  induction v using Value.parts_induction with
  | step v ih =>
    obtain ⟨hv, hparts⟩ := Value.throughout_iff.mp h
    have hall : ∀ w ∈ v.parts, evaluate d none w = .ok (some w) :=
      fun w hw => ih w hw (hparts w hw)
    cases v with
    | str s => rw [evaluate, resolveReference_of_not_beginsWith hv]
    | array items =>
      have hitems : evaluateItems d none items = .ok items := evaluateItems_of_forall hall
      rw [evaluate, hitems]
      rfl
    | doc entries =>
      match entries, hv, hall with
      | [], _, _ => simp only [evaluate, evaluateEntries]; rfl
      | [(name, w)], hv, hall =>
        -- the only entry would make an operator of a name with a dollar in front
        rw [evaluate, if_neg (by rw [show beginsWith name "$" = false from hv]; decide),
          hall w (List.mem_singleton_self w)]
        rfl
      | e :: e' :: rest, _, hall =>
        rw [evaluate, evaluateEntries_of_forall hall]
        · rfl
        · intro name args hsingle
          cases hsingle
    | _ => simp only [evaluate]

/-! ## Sums -/

namespace Sum

theorem run_of_number? {v : Value} (h : v.number?.isSome = true) (s : Sum) :
    ∃ s' : Sum, ∀ rest, s.run (v :: rest) = s'.run rest := by
  cases v <;> first | exact ⟨_, fun _ => rfl⟩ | cases h

theorem run_of_not_number {v : Value} (h : v.number? = none) (hnull : v ≠ .null) (s : Sum)
    (rest : List Value) : s.run (v :: rest) = .error (.store (.numberExpected v)) := by
  cases v with
  | null => exact absurd rfl hnull
  | int32 n => cases h
  | int64 n => cases h
  | double n => cases h
  | negativeNaN => cases h
  | _ => rfl

end Sum

/-- A sum of something and what is neither a number nor null is refused. -/
theorem exists_error_addValues {a b : Value} (ha : a ≠ .null) (hb : b.number? = none)
    (hnull : b ≠ .null) : ∃ e, addValues [a, b] = .error e := by
  unfold addValues
  cases hnumber : a.number? with
  | none => exact ⟨_, Sum.run_of_not_number hnumber ha Sum.zero [b]⟩
  | some n =>
    obtain ⟨s, hs⟩ := Sum.run_of_number? (by rw [hnumber]; rfl) Sum.zero
    exact ⟨_, (hs [b]).trans (Sum.run_of_not_number hb hnull s [])⟩

/-! ## What operands count for -/

namespace UpdateOperator

variable {path : String} {x : Value}

/-- All operands but those of `$inc` are quoted, and a number is what it is. -/
theorem operandIn_eq_self (op : UpdateOperator) (h : op ≠ inc ∨ x.number?.isSome = true)
    (d : Document) : op.operandIn d x = .ok x := by
  cases op with
  | inc =>
    have hnumber : x.number?.isSome = true := h.resolve_left fun hne => hne rfl
    unfold operandIn
    cases x <;> first | (simp only [evaluate]; rfl) | cases hnumber
  | _ => rfl

theorem exists_error_inc (hpath : beginsWith path "$this" = false) (hnumber : x.number? = none)
    (hnull : x ≠ .null) (hself : x.StandsForItself) (d : Document) :
    ∃ e, inc.applied path x d = .error e := by
  have hfound : presentOr (.int32 0) (d.getPath path) ≠ .null :=
    presentOr_ne_null Value.noConfusion (d.getPath path)
  obtain ⟨e, he⟩ := exists_error_addValues hfound hnumber hnull
  refine ⟨e, ?_⟩
  rw [applied_eq (fun _ => hpath), operandIn, evaluate_of_standsForItself hself]
  change (do return [d.assignPath path (← inc.newValue x (d.getPath path))]) = _
  rw [newValue, he]
  rfl

/-- What an operator assigns to a path without a dollar in front is made of what is found there and
of the operand as it is written, whatever stands elsewhere in the document. Only `$inc` evaluates
its operand: there, the same holds for numbers; an operand in which there is nothing to evaluate is
refused if it is neither a number nor null; and any other counts as what it evaluates to. -/
theorem applied_from_operand (op : UpdateOperator) (hpath : beginsWith path "$" = false) (x : Value)
    (d : Document) :
    (op ≠ inc ∨ x.number?.isSome = true →
      op.applied path x d = (do return [d.assignPath path (← op.newValue x (d.getPath path))])) ∧
    (x.number? = none → x ≠ .null → x.StandsForItself → ∃ e, inc.applied path x d = .error e) ∧
    (inc.applied path x d = (do
      let y := (← evaluate d none x).getD .null
      return [d.assignPath path (← inc.newValue y (d.getPath path))])) ∧
    ∀ found, (d.assignPath path found).place? (segments path) = found := by
  have hthis : beginsWith path "$this" = false := beginsWith_append_eq_false hpath "this"
  refine ⟨fun h => ?_, fun hnumber hnull hself => ?_, ?_, d.place?_assignPath_self path⟩
  · rw [applied_eq (fun _ => hthis), op.operandIn_eq_self h]
    rfl
  · exact exists_error_inc hthis hnumber hnull hself d
  · rw [applied_eq (fun _ => hthis), operandIn, bind_assoc]
    rfl

/-- A text that looks like a reference is appended as a text, a number is added, and a text without
a dollar in front cannot be added. -/
theorem applied_to_tags :
    beginsWith "tags" "$" = false ∧ push ≠ inc ∧
    push.applied "tags" (.str "$m") [("tags", .array [.str "a"]), ("m", .int32 5)] =
      .ok [[("tags", .array [.str "a", .str "$m"]), ("m", .int32 5)]] ∧
    beginsWith "n" "$" = false ∧ (Value.int32 2).number?.isSome = true ∧
    inc.applied "n" (.int32 2) [("n", .int32 1), ("m", .int32 5)] =
      .ok [[("n", .int32 3), ("m", .int32 5)]] ∧
    (Value.str "two").StandsForItself ∧
    ∃ e, inc.applied "n" (.str "two") [("n", .int32 1)] = .error e := by
  have htext : (Value.str "two").StandsForItself := .intro rfl (List.forall_mem_nil _)
  refine ⟨rfl, by decide, ?_, rfl, rfl, ?_, htext, ?_⟩
  · exact (applied_from_operand push rfl (.str "$m") _).1 (.inl (by decide))
  · exact (applied_from_operand inc rfl (.int32 2) _).1 (.inr rfl)
  · exact (applied_from_operand inc rfl (.str "two") _).2.1 rfl Value.noConfusion htext

/-- But `$inc` takes operands that are no numbers, and adds what they refer to elsewhere. -/
theorem inc_reads_elsewhere :
    (¬ ∀ (path : String) (x : Value) (d : Document), beginsWith path "$" = false →
      x.number? = none → ∃ e, inc.applied path x d = .error e) ∧
    ¬ ∀ (path : String) (x : Value) (d d' after after' : Document),
      beginsWith path "$" = false → d.getPath path = d'.getPath path →
      inc.applied path x d = .ok [after] → inc.applied path x d' = .ok [after'] →
      after.getPath path = after'.getPath path := by
  constructor
  · intro hall
    obtain ⟨e, he⟩ := hall "n" (.str "$m") [("n", .int32 1), ("m", .int32 5)] rfl rfl
    cases he
  · intro hall
    have hsame : some (Value.int32 6) = some (Value.int32 8) :=
      hall "n" (.str "$m") [("n", .int32 1), ("m", .int32 5)] [("n", .int32 1), ("m", .int32 7)]
        [("n", .int32 6), ("m", .int32 5)] [("n", .int32 8), ("m", .int32 7)] rfl rfl rfl rfl
    exact absurd (Value.int32.inj (Option.some.inj hsame)) (by decide)

end UpdateOperator

end DocGuard
