import ChannelGateway.Json.Pointer
/-!
# Local references

An object with a string under `$ref` stands for another part of the document.  Resolving inlines the
parts that references point at.  A reference that is met again while its own target is being inlined
stays a reference: it is aimed at an `$id` that the outermost inlined copy receives, so a recursive
schema comes out as a finite tree that refers to itself.

Resolving terminates because every nested step either walks a smaller value or puts one more of the
document's references on the stack of references being inlined, which holds none of them twice.
-/

namespace ChannelGateway

def referenceKey : String := "$ref"

def identifierKey : String := "$id"

namespace Json

/-- The reference that an object is, if it has a string under the reference key. -/
def reference? (fields : Fields) : Option String := (fields.lookup referenceKey).bind string?

mutual

/-- All strings under a reference key, at any depth. -/
def references : Json → List String
  | .array items => referencesOfItems items
  | .object fields => referencesOfFields fields
  | _ => []

def referencesOfItems : List Json → List String
  | [] => []
  | item :: rest => item.references ++ referencesOfItems rest

def referencesOfFields : List (String × Json) → List String
  | [] => []
  | (key, value) :: rest =>
    (if key = referenceKey then value.string?.toList else []) ++ value.references ++
      referencesOfFields rest

end

theorem references_subset_of_mem_items {item : Json} {items : List Json} (h : item ∈ items) :
    item.references ⊆ referencesOfItems items := by
  induction items with
  | nil => cases h
  | cons first rest ih =>
    rw [referencesOfItems]
    cases h with
    | head => exact List.subset_append_left ..
    | tail _ h => exact List.subset_append_of_subset_right _ (ih h)

theorem references_subset_of_lookup {key : String} {value : Json} {fields : Fields}
    (h : fields.lookup key = some value) : value.references ⊆ referencesOfFields fields := by
  induction fields with
  | nil => cases h
  | cons first rest ih =>
    obtain ⟨k, v⟩ := first
    rw [referencesOfFields]
    rw [List.lookup_cons] at h
    split at h
    · cases h
      exact List.subset_append_of_subset_left _ (List.subset_append_right ..)
    · exact List.subset_append_of_subset_right _ (ih h)

theorem mem_references_of_reference? {r : String} {fields : Fields}
    (h : reference? fields = some r) : r ∈ referencesOfFields fields := by
  induction fields with
  | nil => cases h
  | cons first rest ih =>
    obtain ⟨k, v⟩ := first
    rw [referencesOfFields]
    rw [reference?, List.lookup_cons] at h
    split at h
    · rename_i hk
      have hk : k = referenceKey := (beq_iff_eq.1 hk).symm
      simp only [Option.bind_some] at h
      simp [hk, h]
    · exact List.mem_append_right _ (ih h)

theorem references_subset_of_step? {j target : Json} {token : String}
    (h : Pointer.step? j token = some target) : target.references ⊆ j.references := by
  unfold Pointer.step? at h
  split at h
  · exact references_subset_of_lookup h
  · obtain ⟨i, -, hi⟩ := Option.bind_eq_some_iff.1 h
    exact references_subset_of_mem_items (List.mem_of_getElem? hi)
  · cases h

theorem references_subset_of_steps? {tokens : List String} {j target : Json}
    (h : tokens.foldlM Pointer.step? j = some target) : target.references ⊆ j.references := by
  induction tokens generalizing j with
  | nil => cases h; exact List.Subset.refl _
  | cons token rest ih =>
    rw [List.foldlM_cons] at h
    obtain ⟨next, hnext, h⟩ := Option.bind_eq_some_iff.1 h
    exact List.Subset.trans (ih h) (references_subset_of_step? hnext)

theorem references_subset_of_lookup? {pointer : List Char} {j target : Json}
    (h : Pointer.lookup? pointer j = some target) : target.references ⊆ j.references := by
  obtain ⟨tokens, -, h⟩ := Option.bind_eq_some_iff.1 h
  exact references_subset_of_steps? h

end Json

inductive ReferenceError where
  /-- It does not start with `#`, or nothing is where it points. -/
  | unresolved (reference : String)
  /-- It leads back to itself through references alone. -/
  | circular (reference : String)
deriving DecidableEq, Repr

namespace Reference

def pointer? (reference : String) : Option (List Char) :=
  match reference.toList with
  | '#' :: pointer => some pointer
  | _ => none

def target? (root : Json) (reference : String) : Option Json :=
  (pointer? reference).bind fun pointer => Pointer.lookup? pointer root

/-- The `$id` of the inlined copy that a recursive reference is aimed at. -/
def identifier (reference : String) : String :=
  let name := reference.toList.dropWhile fun c => c = '#' || c = '/'
  let safe (c : Char) := if c.isAlphanum || c = '-' || c = '.' then c else ':'
  "urn:asyncgate:ref:" ++ String.ofList (name.map safe)

/-- Whether an object holds a reference and nothing else. -/
def isBare (fields : Fields) : Bool := fields.length = 1 && Fields.contains fields referenceKey

/-- A value with its references inlined, and the references that were met in it while their targets
were being inlined further out. -/
structure Resolved where
  value : Json
  recursive : List String

/-- Gives an inlined copy the `$id` that its recursive references are aimed at.  A copy that is no
object, or a bare reference itself, cannot carry one. -/
def stamp? (reference : String) : Json → Option Json
  | .object fields =>
    if isBare fields then none
    else some (.object (Fields.insert identifierKey (.string (identifier reference)) fields))
  | _ => none

def complete (reference : String) (target : Resolved) : Except ReferenceError Resolved :=
  if reference ∈ target.recursive then
    match stamp? reference target.value with
    | some value => .ok ⟨value, target.recursive.filter (· ≠ reference)⟩
    | none => .error (.circular reference)
  else .ok target

/-- The number of known references that are not being inlined yet. -/
def pending (known stack : List String) : Nat := (known.filter (· ∉ stack)).length

theorem pending_cons_lt {known stack : List String} {r : String} (hk : r ∈ known) (hs : r ∉ stack) :
    pending known (r :: stack) < pending known stack := by
  unfold pending
  have hsub : known.filter (· ∉ r :: stack) = (known.filter (· ∉ stack)).filter (· ≠ r) := by
    rw [List.filter_filter]
    congr 1
    funext x
    by_cases hx : x = r <;> simp [hx]
  rw [hsub]
  refine List.length_filter_lt_length_iff_exists.2 ⟨r, ?_, by simp⟩
  exact List.mem_filter.2 ⟨hk, by simpa using hs⟩

mutual

/-- Inlines the references of a value.  `stack` holds the references whose targets are being
inlined, and `known` all references of the document. -/
def resolve (root : Json) (known : List String) (hroot : root.references ⊆ known)
    (stack : List String) (value : Json) (hvalue : value.references ⊆ known) :
    Except ReferenceError Resolved :=
  match value with
  | .object fields =>
    match h : Json.reference? fields with
    | some r => resolveReference root known hroot stack r
        (hvalue (by rw [Json.references]; exact Json.mem_references_of_reference? h))
    | none =>
      match resolveFields root known hroot stack fields
        (by rw [Json.references] at hvalue; exact hvalue) with
      | .ok (fields, recursive) => .ok ⟨.object fields, recursive⟩
      | .error e => .error e
  | .array items =>
    match resolveItems root known hroot stack items
      (by rw [Json.references] at hvalue; exact hvalue) with
    | .ok (items, recursive) => .ok ⟨.array items, recursive⟩
    | .error e => .error e
  | value => .ok ⟨value, []⟩
termination_by (pending known stack, sizeOf value)

/-- Inlines one reference: looks its target up and resolves it, or leaves the reference if it is met
again inside its own target. -/
def resolveReference (root : Json) (known : List String) (hroot : root.references ⊆ known)
    (stack : List String) (r : String) (_hr : r ∈ known) : Except ReferenceError Resolved :=
  match pointer? r with
  | none => .error (.unresolved r)
  | some pointer =>
    if _hs : r ∈ stack then .ok ⟨.object [(referenceKey, .string (identifier r))], [r]⟩
    else
      match h : Pointer.lookup? pointer root with
      | none => .error (.unresolved r)
      | some target =>
        match resolve root known hroot (r :: stack) target
            (List.Subset.trans (Json.references_subset_of_lookup? h) hroot) with
        | .ok resolved => complete r resolved
        | .error e => .error e
termination_by (pending known stack, 0)
decreasing_by
  exact Prod.Lex.left _ _ (pending_cons_lt ‹r ∈ known› ‹r ∉ stack›)

def resolveItems (root : Json) (known : List String) (hroot : root.references ⊆ known)
    (stack : List String) (items : List Json) (hitems : Json.referencesOfItems items ⊆ known) :
    Except ReferenceError (List Json × List String) :=
  match items with
  | [] => .ok ([], [])
  | item :: rest =>
    match resolve root known hroot stack item
        (fun _ h => hitems (by rw [Json.referencesOfItems]; exact List.mem_append_left _ h)) with
    | .error e => .error e
    | .ok first =>
      match resolveItems root known hroot stack rest
          (fun _ h => hitems (by rw [Json.referencesOfItems]; exact List.mem_append_right _ h)) with
      | .error e => .error e
      | .ok (values, recursive) => .ok (first.value :: values, first.recursive ++ recursive)
termination_by (pending known stack, sizeOf items)

def resolveFields (root : Json) (known : List String) (hroot : root.references ⊆ known)
    (stack : List String) (fields : List (String × Json))
    (hfields : Json.referencesOfFields fields ⊆ known) :
    Except ReferenceError (List (String × Json) × List String) :=
  match fields with
  | [] => .ok ([], [])
  | (key, value) :: rest =>
    match resolve root known hroot stack value
        (fun _ h => hfields (by
          rw [Json.referencesOfFields]
          exact List.mem_append_left _ (List.mem_append_right _ h))) with
    | .error e => .error e
    | .ok first =>
      match resolveFields root known hroot stack rest
          (fun _ h =>
            hfields (by rw [Json.referencesOfFields]; exact List.mem_append_right _ h)) with
      | .error e => .error e
      | .ok (values, recursive) => .ok ((key, first.value) :: values, first.recursive ++ recursive)
termination_by (pending known stack, sizeOf fields)

end

end Reference

def resolveReferences (root node : Json) : Except ReferenceError Json :=
  (Reference.resolve root (root.references ++ node.references) (List.subset_append_left ..) [] node
    (List.subset_append_right ..)).map (·.value)

end ChannelGateway
