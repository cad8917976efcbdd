import DocGuard.Decimal.Decimal128

/-!
# Values and documents

A document is a list of named values in the order in which the names were first set. Documents
nest, so values and lists of entries are one recursive type. The document operations keep the
order: setting a name that is there keeps its place, and removing one keeps the order of the
others.
-/

namespace DocGuard

open DocGuard.Decimal

/-- An object id: twelve bytes that were given, or one that a store made up. The ids that a store
makes up are numbered, so they differ from one another and from every given id. -/
inductive ObjectId where
  | given (number : Nat)
  | minted (serial : Nat)
deriving DecidableEq, Repr

/-- A value of a document. A `Float` that is no number has no sign, so the double that is no number
with its sign set is a value of its own. -/
inductive Value where
  | null
  | undefined
  | bool (b : Bool)
  | int32 (n : Int32)
  | int64 (n : Int64)
  | double (x : Float)
  | negativeNaN
  | str (s : String)
  | array (items : List Value)
  | doc (entries : List (String × Value))
  | objectId (id : ObjectId)
  | dateTime (millis : Int64)
  | regex (pattern options : String)
  | timestamp (time increment : UInt32)
  | binary (subtype : UInt8) (bytes : List UInt8)
  | decimal128 (d : Decimal128)
  | code (text : String)
  | codeWithScope (text : String) (scope : List (String × Value))
  | symbol (text : String)
  | pointer (collection : String) (id : ObjectId)
  | minKey
  | maxKey
deriving Inhabited

def Value.ofBits (bits : UInt64) : Value :=
  let x := Float.ofBits bits
  if x.isNaN ∧ Nat.pow 2 63 ≤ bits.toNat then .negativeNaN else .double x

/-- Named values in insertion order. -/
abbrev Document := List (String × Value)

namespace Document

def get? : Document → String → Option Value
  | [], _ => none
  | (k, v) :: rest, key => if k = key then some v else get? rest key

def has (d : Document) (key : String) : Bool :=
  (d.get? key).isSome

def keys (d : Document) : List String :=
  d.map Prod.fst

/-- Sets a name: in its place if it is set already, else at the end. -/
def insert : Document → String → Value → Document
  | [], key, value => [(key, value)]
  | (k, v) :: rest, key, value =>
    if k = key then (k, value) :: rest else (k, v) :: insert rest key value

def erase (d : Document) (key : String) : Document :=
  d.filter fun e => e.1 ≠ key

def ofEntries (entries : List (String × Value)) : Document :=
  entries.foldl (fun d e => d.insert e.1 e.2) []

@[simp] theorem get?_nil (key : String) : get? [] key = none := rfl

theorem get?_cons (k : String) (v : Value) (rest : Document) (key : String) :
    get? ((k, v) :: rest) key = if k = key then some v else get? rest key := rfl

theorem mem_of_get? {d : Document} {key : String} {v : Value} (h : d.get? key = some v) :
    (key, v) ∈ d := by
  induction d with
  | nil => cases h
  | cons e rest ih =>
    obtain ⟨k, w⟩ := e
    rw [get?_cons] at h
    by_cases hk : k = key
    · rw [if_pos hk] at h
      cases h
      exact hk ▸ List.mem_cons_self
    · rw [if_neg hk] at h
      exact List.mem_cons_of_mem _ (ih h)

theorem get?_eq_none_iff {d : Document} {key : String} : d.get? key = none ↔ key ∉ d.keys := by
  induction d with
  | nil => simp [keys]
  | cons e rest ih =>
    obtain ⟨k, v⟩ := e
    by_cases hk : k = key
    · simp [get?_cons, keys, hk]
    · simpa [get?_cons, keys, hk, Ne.symm hk] using ih

/-- Where no name repeats, each entry is the one found under its name. -/
theorem get?_of_mem {d : Document} {key : String} {v : Value} (hnames : d.keys.Nodup)
    (h : (key, v) ∈ d) : d.get? key = some v := by
  induction d with
  | nil => cases h
  | cons e rest ih =>
    obtain ⟨k, w⟩ := e
    obtain ⟨hnew, hrest⟩ := List.nodup_cons.mp hnames
    rw [get?_cons]
    rcases List.mem_cons.mp h with heq | hmem
    · cases heq
      exact if_pos rfl
    · have hkey : key ∈ keys rest := List.mem_map_of_mem hmem
      have hk : k ≠ key := fun heq => hnew (heq ▸ hkey)
      rw [if_neg hk]
      exact ih hrest hmem

@[simp] theorem get?_insert_self (d : Document) (key : String) (value : Value) :
    (d.insert key value).get? key = some value := by
  induction d with
  | nil => simp [insert, get?]
  | cons e rest ih =>
    obtain ⟨k, v⟩ := e
    by_cases h : k = key
    · simp [insert, get?, h]
    · simp [insert, get?, h, ih]

theorem get?_insert_of_ne (d : Document) {key other : String} (value : Value) (h : other ≠ key) :
    (d.insert key value).get? other = d.get? other := by
  induction d with
  | nil => simp [insert, get?, Ne.symm h]
  | cons e rest ih =>
    obtain ⟨k, v⟩ := e
    by_cases hk : k = key
    · simp [insert, get?, hk, Ne.symm h]
    · by_cases ho : k = other
      · subst ho
        simp [insert, get?, h]
      · simp [insert, get?, hk, ho, ih]

@[simp] theorem get?_erase_self (d : Document) (key : String) : (d.erase key).get? key = none := by
  induction d with
  | nil => rfl
  | cons e rest ih =>
    obtain ⟨k, v⟩ := e
    by_cases h : k = key
    · simpa [erase, h] using ih
    · simpa [erase, h, get?] using ih

theorem get?_erase_of_ne (d : Document) {key other : String} (h : other ≠ key) :
    (d.erase key).get? other = d.get? other := by
  induction d with
  | nil => rfl
  | cons e rest ih =>
    obtain ⟨k, v⟩ := e
    by_cases hk : k = key
    · simpa [erase, hk, get?, Ne.symm h] using ih
    · by_cases ho : k = other
      · subst ho
        simp [erase, get?, h]
      · simpa [erase, hk, get?, ho] using ih

end Document

mutual

/-- Equality of values. Documents are equal when they hold equal values under the same names, in
whatever order; numbers of different width differ; and a double that is not a number differs from
itself. -/
def Value.equal : Value → Value → Bool
  | .null, .null => true
  | .undefined, .undefined => true
  | .bool a, .bool b => a == b
  | .int32 a, .int32 b => a == b
  | .int64 a, .int64 b => a == b
  | .double a, .double b => a == b
  | .str a, .str b => a == b
  | .array xs, .array ys => Value.equalItems xs ys
  | .doc xs, .doc ys => xs.length == ys.length && Value.entriesWithin xs ys
  | .objectId a, .objectId b => a == b
  | .dateTime a, .dateTime b => a == b
  | .regex p o, .regex p' o' => p == p' && o == o'
  | .timestamp t i, .timestamp t' i' => t == t' && i == i'
  | .binary s bs, .binary s' bs' => s == s' && bs == bs'
  | .decimal128 a, .decimal128 b => a == b
  | .code a, .code b => a == b
  | .codeWithScope a xs, .codeWithScope b ys =>
    a == b && (xs.length == ys.length && Value.entriesWithin xs ys)
  | .symbol a, .symbol b => a == b
  | .pointer c a, .pointer c' b => c == c' && a == b
  | .minKey, .minKey => true
  | .maxKey, .maxKey => true
  | _, _ => false

def Value.equalItems : List Value → List Value → Bool
  | [], [] => true
  | x :: xs, y :: ys => Value.equal x y && Value.equalItems xs ys
  | _, _ => false

def Value.entriesWithin : List (String × Value) → Document → Bool
  | [], _ => true
  | (k, v) :: rest, ys =>
    (match Document.get? ys k with
      | some w => Value.equal v w
      | none => false) && Value.entriesWithin rest ys

end

instance : BEq Value := ⟨Value.equal⟩

/-- Equality of documents: as many entries, and each of the first in the second. -/
def Document.equal (a b : Document) : Bool :=
  a.length == b.length && Value.entriesWithin a b

def Value.isJust (found : Option Value) (v : Value) : Bool :=
  match found with
  | some w => Value.equal w v
  | none => false

end DocGuard
