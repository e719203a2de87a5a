import ChannelGateway.Json.Number
/-!
# JSON values

Objects keep their fields in the order of insertion: writing an existing key replaces its value in
place, a new key goes to the end.
-/

namespace ChannelGateway

inductive Json where
  | null
  | bool (value : Bool)
  | number (value : JsonNumber)
  | string (value : String)
  | array (items : List Json)
  | object (fields : List (String × Json))
deriving Inhabited

/-- The fields of an object, in order. -/
abbrev Fields := List (String × Json)

namespace Json

mutual

def decEq : (a b : Json) → Decidable (a = b)
  | .null, .null => isTrue rfl
  | .bool a, .bool b => decidable_of_iff (a = b) (by simp)
  | .number a, .number b => decidable_of_iff (a = b) (by simp)
  | .string a, .string b => decidable_of_iff (a = b) (by simp)
  | .array as, .array bs =>
    match decEqItems as bs with
    | isTrue h => isTrue (by rw [h])
    | isFalse h => isFalse (by simpa using h)
  | .object as, .object bs =>
    match decEqFields as bs with
    | isTrue h => isTrue (by rw [h])
    | isFalse h => isFalse (by simpa using h)
  | .null, .bool _ | .null, .number _ | .null, .string _ | .null, .array _ | .null, .object _
  | .bool _, .null | .bool _, .number _ | .bool _, .string _ | .bool _, .array _
  | .bool _, .object _
  | .number _, .null | .number _, .bool _ | .number _, .string _ | .number _, .array _
  | .number _, .object _
  | .string _, .null | .string _, .bool _ | .string _, .number _ | .string _, .array _
  | .string _, .object _
  | .array _, .null | .array _, .bool _ | .array _, .number _ | .array _, .string _
  | .array _, .object _
  | .object _, .null | .object _, .bool _ | .object _, .number _ | .object _, .string _
  | .object _, .array _ => isFalse (by simp)

def decEqItems : (as bs : List Json) → Decidable (as = bs)
  | [], [] => isTrue rfl
  | a :: as, b :: bs =>
    match decEq a b, decEqItems as bs with
    | isTrue h, isTrue hs => isTrue (by rw [h, hs])
    | isFalse h, _ => isFalse (fun e => h (List.cons.inj e).1)
    | _, isFalse hs => isFalse (fun e => hs (List.cons.inj e).2)
  | [], _ :: _ | _ :: _, [] => isFalse (by simp)

def decEqFields : (as bs : List (String × Json)) → Decidable (as = bs)
  | [], [] => isTrue rfl
  | (k, a) :: as, (l, b) :: bs =>
    match decEq a b, decEqFields as bs with
    | isTrue h, isTrue hs => decidable_of_iff (k = l) (by simp [h, hs])
    | isFalse h, _ => isFalse (by simp [h])
    | _, isFalse hs => isFalse (by simp [hs])
  | [], _ :: _ | _ :: _, [] => isFalse (by simp)

end

instance : DecidableEq Json := decEq

def ofInt (n : Int) : Json := .number (.int n)

def ofNat (n : Nat) : Json := .number (.int n)

def ofString? : Option String → Json
  | some s => .string s
  | none => .null

def string? : Json → Option String
  | .string s => some s
  | _ => none

def bool? : Json → Option Bool
  | .bool b => some b
  | _ => none

def number? : Json → Option JsonNumber
  | .number n => some n
  | _ => none

def items? : Json → Option (List Json)
  | .array items => some items
  | _ => none

def fields? : Json → Option Fields
  | .object fields => some fields
  | _ => none

def isObject (j : Json) : Bool := j.fields?.isSome

def get? (j : Json) (key : String) : Option Json :=
  match j with
  | .object fields => fields.lookup key
  | _ => none

mutual

def size : Json → Nat
  | .array items => 1 + sizeItems items
  | .object fields => 1 + sizeFields fields
  | _ => 1

def sizeItems : List Json → Nat
  | [] => 0
  | item :: rest => size item + sizeItems rest

def sizeFields : List (String × Json) → Nat
  | [] => 0
  | (_, value) :: rest => size value + sizeFields rest

end

mutual

/-- Whether two values are equal with numbers compared by their exact values.  The fields of
objects are compared in their order. -/
def isSame : (a b : Json) → Bool
  | .null, .null => true
  | .bool a, .bool b => a == b
  | .number a, .number b => a.toRat == b.toRat
  | .string a, .string b => a == b
  | .array as, .array bs => sameItems as bs
  | .object as, .object bs => sameFields as bs
  | _, _ => false

def sameItems : (as bs : List Json) → Bool
  | [], [] => true
  | a :: as, b :: bs => isSame a b && sameItems as bs
  | _, _ => false

def sameFields : (as bs : List (String × Json)) → Bool
  | [], [] => true
  | (k, a) :: as, (l, b) :: bs => k == l && isSame a b && sameFields as bs
  | _, _ => false

end

mutual

def withSortedFields : Json → Json
  | .array items => .array (withSortedItems items)
  | .object fields => .object ((withSortedValues fields).mergeSort fun a b => decide (a.1 ≤ b.1))
  | j => j

def withSortedItems : List Json → List Json
  | [] => []
  | item :: rest => withSortedFields item :: withSortedItems rest

def withSortedValues : List (String × Json) → List (String × Json)
  | [] => []
  | (key, value) :: rest => (key, withSortedFields value) :: withSortedValues rest

end

end Json

namespace Fields

def keys (fields : Fields) : List String := fields.map Prod.fst

def contains (fields : Fields) (key : String) : Bool := (fields.lookup key).isSome

/-- Writes a field: in place if the key is present, at the end if it is new. -/
def insert (key : String) (value : Json) : Fields → Fields
  | [] => [(key, value)]
  | (k, v) :: rest => if k = key then (k, value) :: rest else (k, v) :: insert key value rest

def ofList (pairs : List (String × Json)) : Fields :=
  pairs.foldl (fun fields pair => fields.insert pair.1 pair.2) []

/-- Removes a field; the last field takes its place. -/
def erase (key : String) : Fields → Fields
  | [] => []
  | (k, v) :: rest =>
    if k = key then
      match rest.getLast? with
      | none => []
      | some last => last :: rest.dropLast
    else (k, v) :: erase key rest

/-- The fields sorted by key, for output that fixes that order. -/
def sorted (fields : Fields) : Fields := fields.mergeSort fun a b => decide (a.1 ≤ b.1)

theorem sizeOf_lt_of_lookup {k : String} {v : Json} {fields : List (String × Json)}
    (h : fields.lookup k = some v) : sizeOf v < sizeOf fields := by
  induction fields with
  | nil => cases h
  | cons first rest ih =>
    obtain ⟨l, w⟩ := first
    rw [List.lookup_cons] at h
    split at h
    · cases h
      simp +arith
    · have := ih h
      simp only [List.cons.sizeOf_spec]
      omega

end Fields

end ChannelGateway
