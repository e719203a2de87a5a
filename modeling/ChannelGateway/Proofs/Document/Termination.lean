import ChannelGateway.Proofs.Document.Distinct
import Mathlib.Data.Finset.Basic
import Mathlib.Data.Finset.Dedup
import Mathlib.Data.Finset.Lattice.Lemmas
/-!
# Resolving comes to an end

Resolving is run here as a program that keeps one stack of references and one set of those that
were met again, changes both as it goes, and is stopped by nothing but a bound on the depth of its
calls.  Every call that it makes is written down.  Each of them has a smaller value than the call
that made it, or fewer references that are not on the stack; so there is a depth that suffices for
a document, and the outcome is the one of resolving.
-/

namespace ChannelGateway

namespace Reference

open Json

/-- A call: the references whose targets are being inlined, the last one first, those of them that
were met again up to now, and the value that is walked. -/
structure Call where
  stack : List String
  met : Finset String
  value : Json

/-- A call that was made, with the one that made it, whether it succeeded, and the stack and the
references met again after it. -/
structure Made where
  caller : Call
  callee : Call
  succeeded : Bool
  stack : List String
  met : Finset String

/-- What is known after a call: its outcome, the stack and the references met again, and all calls
that were made. -/
structure Record (α : Type) where
  outcome : Except ReferenceError α
  stack : List String
  met : Finset String
  made : List Made

/-- A call that was made, in front of those that it made itself. -/
def Record.madeBy {α : Type} (record : Record α) (caller callee : Call) : List Made :=
  ⟨caller, callee, record.outcome.isOk, record.stack, record.met⟩ :: record.made

def walkAll (walk : Call → Option (Record Json)) (caller : Call) (stack : List String)
    (met : Finset String) : List Json → Option (Record (List Json))
  | [] => some ⟨.ok [], stack, met, []⟩
  | value :: rest =>
    match walk ⟨stack, met, value⟩ with
    | none => none
    | some first =>
      match first.outcome with
      | .error e => some ⟨.error e, first.stack, first.met, first.madeBy caller ⟨stack, met, value⟩⟩
      | .ok copy =>
        match walkAll walk caller first.stack first.met rest with
        | none => none
        | some others =>
          some ⟨others.outcome.map (copy :: ·), others.stack, others.met,
            first.madeBy caller ⟨stack, met, value⟩ ++ others.made⟩

/-- Ends the inlining of a reference after its target was walked: the reference is taken from the
stack, and from the references met again if it is one of them. -/
def close (r : String) (caller callee : Call) (target : Record Json) : Record Json :=
  let made := target.madeBy caller callee
  match target.outcome with
  | .error e => ⟨.error e, target.stack.tail, target.met, made⟩
  | .ok copy =>
    if r ∈ target.met then
      match stamp? r copy with
      | some stamped => ⟨.ok stamped, target.stack.tail, target.met.erase r, made⟩
      | none => ⟨.error (.circular r), target.stack.tail, target.met.erase r, made⟩
    else ⟨.ok copy, target.stack.tail, target.met, made⟩

/-- Follows a reference for a call: its target is walked with the reference on the stack, unless it
is there already. -/
def follow (root : Json) (walk : Call → Option (Record Json)) (caller : Call) (r : String) :
    Option (Record Json) :=
  if (pointer? r).isNone then some ⟨.error (.unresolved r), caller.stack, caller.met, []⟩
  else if r ∈ caller.stack then
    some ⟨.ok (.object [(referenceKey, .string (identifier r))]), caller.stack,
      insert r caller.met, []⟩
  else
    match target? root r with
    | none => some ⟨.error (.unresolved r), caller.stack, caller.met, []⟩
    | some target =>
      (walk ⟨r :: caller.stack, caller.met, target⟩).map
        (close r caller ⟨r :: caller.stack, caller.met, target⟩)

/-- Makes a call.  Nothing is known of it if its calls go deeper than the bound. -/
def walk (root : Json) : Nat → Call → Option (Record Json)
  | 0, _ => none
  | depth + 1, call =>
    match call.value with
    | .object fields =>
      match reference? fields with
      | some r => follow root (walk root depth) call r
      | none =>
        (walkAll (walk root depth) call call.stack call.met (fields.map Prod.snd)).map fun record =>
          ⟨record.outcome.map fun copies => .object ((fields.map Prod.fst).zip copies),
            record.stack, record.met, record.made⟩
    | .array items =>
      (walkAll (walk root depth) call call.stack call.met items).map fun record =>
        ⟨record.outcome.map .array, record.stack, record.met, record.made⟩
    | value => some ⟨.ok value, call.stack, call.met, []⟩

/-- The call for the target of a reference that is not being inlined yet. -/
def Call.followed? (root : Json) (call : Call) : Option Call :=
  match call.value with
  | .object fields =>
    (reference? fields).bind fun r =>
      if r ∈ call.stack then none
      else (target? root r).map fun target => ⟨r :: call.stack, call.met, target⟩
  | _ => none

def Call.parts (call : Call) : List Json :=
  match call.value with
  | .object fields => if (reference? fields).isSome then [] else fields.map Prod.snd
  | .array items => items
  | _ => []

mutual

/-- The calls that a call makes, in order, each of them in front of those that it makes itself. -/
inductive Makes (root : Json) : Call → List Made → Prop
  | target {call callee : Call} {succeeded : Bool} {stack : List String} {met : Finset String}
      {made : List Made} (hfollowed : call.followed? root = some callee)
      (hmade : Makes root callee made) :
      Makes root call (⟨call, callee, succeeded, stack, met⟩ :: made)
  | parts {call : Call} {made : List Made} (hfollowed : call.followed? root = none)
      (hmade : MakesParts root call call.met call.parts made) : Makes root call made

/-- The calls that a call makes for values inside its own, up to the first one that fails. -/
inductive MakesParts (root : Json) : Call → Finset String → List Json → List Made → Prop
  | none {call : Call} {met : Finset String} : MakesParts root call met [] []
  | failed {call : Call} {met after : Finset String} {value : Json} {rest : List Json}
      {stack : List String} {made : List Made} (hmade : Makes root ⟨call.stack, met, value⟩ made) :
      MakesParts root call met (value :: rest)
        (⟨call, ⟨call.stack, met, value⟩, false, stack, after⟩ :: made)
  | next {call : Call} {met after : Finset String} {value : Json} {rest : List Json}
      {stack : List String} {made others : List Made}
      (hmade : Makes root ⟨call.stack, met, value⟩ made)
      (hothers : MakesParts root call after rest others) :
      MakesParts root call met (value :: rest)
        (⟨call, ⟨call.stack, met, value⟩, true, stack, after⟩ :: made ++ others)

end

/-- What decreases from call to call: the number of references that are not on the stack, and then
the size of the value. -/
def Call.measure (known : List String) (call : Call) : Nat × Nat :=
  (pending known call.stack, call.value.size)

/-- A call is lighter than another one: fewer references are left, or as many and the
value is smaller. -/
def Call.Lighter (known : List String) (callee caller : Call) : Prop :=
  Prod.Lex (· < ·) (· < ·) (callee.measure known) (caller.measure known)

/-- A stack holds known references only and none of them twice, and those that were met again
are on it. -/
structure Tracked (known stack : List String) (met : Finset String) : Prop where
  nodup : stack.Nodup
  occurs : stack ⊆ known
  met : ∀ r ∈ met, r ∈ stack

/-- The references met again are tracked after a call that succeeded.  A failure leaves them as
they were when it arose, with a stack that may have been longer: from then on references are only
taken from the stack. -/
def Leaves (known stack : List String) (succeeded : Bool) (met : Finset String) : Prop :=
  ∃ reached, stack <:+ reached ∧ Tracked known reached met ∧ (succeeded = true → reached = stack)

/-- What holds of every call that is made. -/
structure Made.Sound (known : List String) (made : Made) : Prop where
  before : Tracked known made.callee.stack made.callee.met
  restored : made.stack = made.callee.stack
  after : Leaves known made.stack made.succeeded made.met
  decreases : made.callee.Lighter known made.caller

/-! ## Resolving a list of values -/

section Resolve

variable {root : Json} {known : List String} {hroot : root.references ⊆ known}

noncomputable def resolved (root : Json) (known : List String) (hroot : root.references ⊆ known)
    (stack : List String) (value : Json) : Except ReferenceError Resolved :=
  open Classical in
  if h : value.references ⊆ known then resolve root known hroot stack value h else .ok ⟨.null, []⟩

end Resolve

/-! ## What a call leaves -/

section Leaves

variable {known stack : List String} {met : Finset String} {r : String}

theorem Tracked.leaves (h : Tracked known stack met) (succeeded : Bool) :
    Leaves known stack succeeded met :=
  ⟨stack, List.suffix_rfl, h, fun _ => rfl⟩

theorem Leaves.tracked (h : Leaves known stack true met) : Tracked known stack met := by
  obtain ⟨reached, -, htracked, hreached⟩ := h
  exact hreached rfl ▸ htracked

theorem Tracked.cons (h : Tracked known stack met) (hr : r ∈ known) (hstack : r ∉ stack) :
    Tracked known (r :: stack) met :=
  ⟨List.nodup_cons.2 ⟨hstack, h.nodup⟩, List.cons_subset.2 ⟨hr, h.occurs⟩,
    fun q hq => List.mem_cons_of_mem r (h.met q hq)⟩

theorem Tracked.insert (h : Tracked known stack met) (hr : r ∈ stack) :
    Tracked known stack (insert r met) := by
  refine ⟨h.nodup, h.occurs, fun q hq => ?_⟩
  rcases Finset.mem_insert.1 hq with rfl | hq
  · exact hr
  · exact h.met q hq

theorem Tracked.erase (h : Tracked known (r :: stack) met) : Tracked known stack (met.erase r) := by
  refine ⟨(List.nodup_cons.1 h.nodup).2, (List.cons_subset.1 h.occurs).2, fun q hq => ?_⟩
  obtain ⟨hne, hq⟩ := Finset.mem_erase.1 hq
  exact (List.mem_cons.1 (h.met q hq)).resolve_left hne

end Leaves

/-! ## Calls -/

/-- What holds of a call where no value is larger than a bound. -/
structure Call.Valid (known : List String) (bound : Nat) (call : Call) : Prop where
  tracked : Tracked known call.stack call.met
  references : call.value.references ⊆ known
  size : call.value.size ≤ bound

/-- The measure of a call as one number. -/
def Call.weight (known : List String) (bound : Nat) (call : Call) : Nat :=
  pending known call.stack * (bound + 1) + call.value.size

/-- A record agrees with what resolving gives: with its outcome, and with the references that are
recorded beside it.  The stack is as it was before, and the references met again are left as they
have to be. -/
structure Record.Agrees {α : Type} (known : List String) (stack : List String) (met : Finset String)
    (expected : Except ReferenceError (α × List String)) (record : Record α) : Prop where
  outcome : record.outcome = expected.map Prod.fst
  restored : record.stack = stack
  met : ∀ result, expected = .ok result → record.met = met ∪ result.2.toFinset
  leaves : Leaves known stack record.outcome.isOk record.met
  sound : ∀ made ∈ record.made, made.Sound known

section Agrees

variable {known stack : List String} {met : Finset String}

theorem Record.Agrees.of_ok {α : Type} {record : Record α} {value : α} {recursive : List String}
    (h : record.Agrees known stack met (.ok (value, recursive))) :
    record.outcome = .ok value ∧ record.met = met ∪ recursive.toFinset ∧
      Tracked known stack record.met := by
  have houtcome : record.outcome = .ok value := h.outcome
  have hleaves := h.leaves
  rw [houtcome] at hleaves
  exact ⟨houtcome, h.met _ rfl, hleaves.tracked⟩

theorem Record.Agrees.of_error {α : Type} {record : Record α} {e : ReferenceError}
    (h : record.Agrees known stack met (.error e)) :
    record.outcome = .error e ∧ Leaves known stack false record.met := by
  have houtcome : record.outcome = .error e := h.outcome
  have hleaves := h.leaves
  rw [houtcome] at hleaves
  exact ⟨houtcome, hleaves⟩

/-- A record of results is turned into one of another kind as what is expected of them is. -/
theorem Record.Agrees.map {α β : Type} {expected : Except ReferenceError (α × List String)}
    {record : Record α} (h : record.Agrees known stack met expected) (f : α → β) :
    Record.Agrees known stack met (expected.map fun result => (f result.1, result.2))
      ⟨record.outcome.map f, record.stack, record.met, record.made⟩ := by
  cases expected with
  | error e =>
      obtain ⟨houtcome, hleaves⟩ := h.of_error
      rw [houtcome]
      exact ⟨rfl, h.restored, by rintro _ ⟨⟩, hleaves, h.sound⟩
  | ok result =>
      obtain ⟨houtcome, hmet, htracked⟩ := h.of_ok
      rw [houtcome]
      exact ⟨rfl, h.restored, by rintro _ ⟨⟩; exact hmet, htracked.leaves _, h.sound⟩

end Agrees

section Walk

variable {root : Json} {known : List String} {hroot : root.references ⊆ known} {bound : Nat}

theorem Call.Valid.part {call : Call} (h : call.Valid known bound) {value : Json}
    (hpart : value.references ⊆ call.value.references ∧ value.size < call.value.size)
    {met : Finset String} (htracked : Tracked known call.stack met) :
    Call.Valid known bound ⟨call.stack, met, value⟩ ∧
      Call.Lighter known ⟨call.stack, met, value⟩ call :=
  ⟨⟨htracked, List.Subset.trans hpart.1 h.references, Nat.le_trans (Nat.le_of_lt hpart.2) h.size⟩,
    Prod.Lex.right _ hpart.2⟩

theorem Call.Valid.target (hroot : root.references ⊆ known) (hbound : root.size ≤ bound)
    {call : Call} (h : call.Valid known bound) {r : String} (hr : r ∈ known)
    (hstack : r ∉ call.stack) {target : Json} (htarget : target? root r = some target) :
    Call.Valid known bound ⟨r :: call.stack, call.met, target⟩ ∧
      Call.Lighter known ⟨r :: call.stack, call.met, target⟩ call := by
  obtain ⟨pointer, -, hlookup⟩ := Option.bind_eq_some_iff.1 htarget
  exact ⟨⟨h.tracked.cons hr hstack, List.Subset.trans (references_subset_of_lookup? hlookup) hroot,
    Nat.le_trans (occurs_of_target? htarget).size_le hbound⟩,
      Prod.Lex.left _ _ (pending_cons_lt hr hstack)⟩

end Walk

end Reference

open Reference

end ChannelGateway
