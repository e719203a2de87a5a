import ChannelGateway.Controller.Binding
import ChannelGateway.Proofs.Lists.Search
import ChannelGateway.Proofs.Text.Segments
/-!
# Looking up controllers

A registry finds a controller by the segments that a base and a reference name together,
however they are spelled.  Of the controllers that were registered under these segments, the
last one counts.
-/

namespace ChannelGateway

namespace Directory

variable {α : Type}

theorem lookup_cons_eq_if (name other : String) (value : α) (rest : Directory α) :
    List.lookup other ((name, value) :: rest) =
      if other = name then some value else rest.lookup other := by
  rw [List.lookup_cons]
  by_cases h : other = name
  · simp [h]
  · simp [h, beq_false_of_ne h]

theorem lookup_insert (name other : String) (value : α) (d : Directory α) :
    (insert name value d).lookup other = if other = name then some value else d.lookup other := by
  induction d with
  | nil => exact lookup_cons_eq_if name other value []
  | cons entry rest ih =>
      obtain ⟨first, old⟩ := entry
      rw [insert]
      split
      · next hname =>
          rw [lookup_cons_eq_if, lookup_cons_eq_if, ← hname]
          split <;> rfl
      · next hname =>
          split
          · exact lookup_cons_eq_if name other value _
          · rw [lookup_cons_eq_if, lookup_cons_eq_if, ih]
            by_cases h : other = first
            · rw [if_pos h, if_pos h, if_neg (h ▸ Ne.symm hname)]
            · rw [if_neg h, if_neg h]

end Directory

/-! ## Keys of modules -/

namespace ModuleKey

theorem segments_eq_filter_split (path : List Char) :
    segments path = (Segments.split path).filter (· != ['.']) := by
  rw [segments, Segments.split, List.filter_filter]
  exact congrArg (List.filter · _) (funext fun segment => Bool.and_comm _ _)

theorem segments_append_slash (front back : List Char) :
    segments (front ++ '/' :: back) = segments front ++ segments back := by
  rw [segments_eq_filter_split, Segments.split_append_slash, List.filter_append,
    ← segments_eq_filter_split, ← segments_eq_filter_split]

theorem segments_append_blank {blank : String} (h : blank ∈ ["", "."]) (front back : String) :
    segments (front ++ "/" ++ blank ++ "/" ++ back).toList =
      segments (front ++ "/" ++ back).toList := by
  have hblank : segments blank.toList = [] := by
    rcases List.mem_pair.1 h with rfl | rfl <;> decide
  have hslash : "/".toList = ['/'] := rfl
  simp only [String.toList_append, hslash, List.append_assoc, List.cons_append, List.nil_append,
    segments_append_slash, hblank]

theorem mem_segments {path segment : List Char} (h : segment ∈ segments path) :
    (segment ≠ [] ∧ '/' ∉ segment) ∧ segment ≠ ['.'] := by
  rw [segments_eq_filter_split, List.mem_filter] at h
  exact ⟨Segments.mem_split h.1, bne_iff_ne.1 h.2⟩

/-- The segments that a base and a reference name, one after the other. -/
def named (base reference : String) : List (List Char) :=
  segments base.toList ++ segments reference.toList

theorem segments_ofReference (base reference : String) :
    segments (ofReference base reference).toList = named base reference := by
  have hmem : ∀ segment ∈ named base reference,
      (segment ≠ [] ∧ '/' ∉ segment) ∧ segment ≠ ['.'] := by
    intro segment h
    exact (List.mem_append.1 h).elim mem_segments mem_segments
  rw [ofReference, String.toList_ofList, ← named, segments_eq_filter_split,
    Segments.split_join_of_mem fun segment h => (hmem segment h).1, List.filter_eq_self]
  exact fun segment h => bne_iff_ne.2 (hmem segment h).2

theorem ofReference_eq_iff {base reference base' reference' : String} :
    ofReference base reference = ofReference base' reference' ↔
      named base reference = named base' reference' := by
  constructor
  · intro h
    rw [← segments_ofReference, h, segments_ofReference]
  · intro h
    rw [ofReference, ofReference, ← named, ← named, h]

theorem named_empty (path : String) : named "" path = segments path.toList := rfl

theorem named_append_slash (front middle back : String) :
    named (front ++ "/" ++ middle) back = named front (middle ++ "/" ++ back) := by
  have hslash : "/".toList = ['/'] := rfl
  simp only [named, String.toList_append, hslash, List.append_assoc, List.singleton_append,
    segments_append_slash]

end ModuleKey

/-! ## Registries -/

namespace ControllerRegistry

def ofCalls (calls : List (String × Controller)) : ControllerRegistry :=
  calls.foldl (fun registry call => registry.register call.1 call.2) []

theorem lookup_register (registry : ControllerRegistry) (path key : String)
    (controller : Controller) :
    (registry.register path controller).lookup key =
      if key = ModuleKey.ofReference "" path then some controller else registry.lookup key :=
  Directory.lookup_insert _ _ _ _

theorem lookup_foldl_register {calls : List (String × Controller)} {key : String}
    (h : ∀ call ∈ calls, key ≠ ModuleKey.ofReference "" call.1) (registry : ControllerRegistry) :
    (calls.foldl (fun registry call => registry.register call.1 call.2) registry).lookup key =
      registry.lookup key := by
  induction calls generalizing registry with
  | nil => rfl
  | cons call rest ih =>
      obtain ⟨hcall, hrest⟩ := List.forall_mem_cons.1 h
      rw [List.foldl_cons, ih hrest, lookup_register, if_neg hcall]

/-- A controller was registered under segments, and none after it. -/
def RegistersLast (calls : List (String × Controller)) (segments : List (List Char))
    (controller : Controller) : Prop :=
  ∃ before path after, calls = before ++ (path, controller) :: after ∧
    ModuleKey.segments path.toList = segments ∧
    ∀ later ∈ after, ModuleKey.segments later.1.toList ≠ segments

section Lookup

variable {calls : List (String × Controller)} {base reference : String}

theorem ne_ofReference_of_segments_ne {path : String}
    (h : ModuleKey.segments path.toList ≠ ModuleKey.named base reference) :
    ModuleKey.ofReference base reference ≠ ModuleKey.ofReference "" path := by
  intro heq
  rw [ModuleKey.ofReference_eq_iff, ModuleKey.named_empty] at heq
  exact h heq.symm

theorem lookup_ofCalls_of_none
    (h : ∀ call ∈ calls, ModuleKey.segments call.1.toList ≠ ModuleKey.named base reference) :
    (ofCalls calls).lookup (ModuleKey.ofReference base reference) = none :=
  lookup_foldl_register (fun call hcall => ne_ofReference_of_segments_ne (h call hcall)) []

theorem lookup_ofCalls_of_last {controller : Controller}
    (h : RegistersLast calls (ModuleKey.named base reference) controller) :
    (ofCalls calls).lookup (ModuleKey.ofReference base reference) = some controller := by
  obtain ⟨before, path, after, rfl, hpath, hafter⟩ := h
  rw [ofCalls, List.foldl_append, List.foldl_cons,
    lookup_foldl_register fun call hcall => ne_ofReference_of_segments_ne (hafter call hcall),
    lookup_register, if_pos]
  rw [ModuleKey.ofReference_eq_iff, ModuleKey.named_empty, hpath]

theorem RegistersLast.unique {first second : Controller}
    (h : RegistersLast calls (ModuleKey.named base reference) first)
    (h' : RegistersLast calls (ModuleKey.named base reference) second) : first = second :=
  Option.some.inj ((lookup_ofCalls_of_last h).symm.trans (lookup_ofCalls_of_last h'))

theorem none_or_registersLast (calls : List (String × Controller)) (segments : List (List Char)) :
    (∀ call ∈ calls, ModuleKey.segments call.1.toList ≠ segments) ∨
      ∃ controller, RegistersLast calls segments controller := by
  by_cases h : ∀ call ∈ calls, ModuleKey.segments call.1.toList ≠ segments
  · exact Or.inl h
  · obtain ⟨before, ⟨path, controller⟩, after, hsplit, hpath, hafter⟩ := exists_last_of_not_all h
    exact Or.inr ⟨controller, before, path, after, hsplit, not_not.1 hpath, hafter⟩

end Lookup

end ControllerRegistry

/-! ## Operations -/

/-- A handler gives stages: its own, or those of the handler that it makes, if this is
no factory. -/
inductive Handler.Gives : Handler → List Stage → Prop
  | direct (stage : Stage) : Gives (.direct stage) [stage]
  | sequence (stages : List Stage) : Gives (.sequence stages) stages
  | madeDirect (stage : Stage) : Gives (.factory (.direct stage)) [stage]
  | madeSequence (stages : List Stage) : Gives (.factory (.sequence stages)) stages

theorem Handler.resolve_eq_ok_iff {handler : Handler} {module operationId : String}
    {stages : List Stage} :
    (handler.resolve module operationId).outcome = .ok stages ↔ handler.Gives stages := by
  constructor
  · intro h
    match handler with
    | .direct stage =>
        cases h
        exact .direct stage
    | .sequence stages =>
        cases h
        exact .sequence stages
    | .factory (.direct stage) =>
        cases h
        exact .madeDirect stage
    | .factory (.sequence stages) =>
        cases h
        exact .madeSequence stages
    | .factory (.factory _) => cases h
  · intro h
    cases h <;> rfl

theorem Handler.resolve_eq_error_iff {handler : Handler} {module operationId : String}
    {e : ResolveError} :
    (handler.resolve module operationId).outcome = .error e ↔
      e = .nestedFactory operationId ∧ ∃ product, handler = .factory (.factory product) := by
  match handler with
  | .direct _ | .sequence _ | .factory (.direct _) | .factory (.sequence _) =>
    simp [Handler.resolve]
  | .factory (.factory product) =>
      simp only [Handler.resolve, Except.error.injEq, Handler.factory.injEq, exists_eq', and_true]
      exact eq_comm

/-- What an operation resolves to in a controller that is known under a key. -/
structure Controller.Resolves (controller : Controller) (key operationId : String)
    (outcome : Except ResolveError (List Stage)) : Prop where
  /-- The stages are those that the export of the operation's name gives. -/
  ok_iff : ∀ stages, outcome = .ok stages ↔
    ∃ handler, controller.lookup operationId = some (.handler handler) ∧ handler.Gives stages
  /-- There is no such export, or it is a mere value. -/
  notCallable_iff : outcome = .error (.notCallable operationId key) ↔
    ∀ handler, controller.lookup operationId ≠ some (.handler handler)
  /-- The export is a factory that makes another one. -/
  nestedFactory_iff : outcome = .error (.nestedFactory operationId) ↔
    ∃ product, controller.lookup operationId = some (.handler (.factory (.factory product)))

namespace Resolver

variable {resolver : Resolver} {operationId key : String} {reference : Option String}

theorem resolve_of_lookup_none (hid : operationId ≠ "")
    (hkey : ModuleKey.ofReference resolver.base (reference.getD "") = key)
    (h : resolver.registry.lookup key = none) :
    resolver.resolve operationId reference = ⟨.error (.moduleNotLoadable key), []⟩ := by
  rw [resolve, if_neg hid]
  simp only [hkey, h]

theorem resolves_of_lookup {controller : Controller} (hid : operationId ≠ "")
    (hkey : ModuleKey.ofReference resolver.base (reference.getD "") = key)
    (h : resolver.registry.lookup key = some controller) :
    controller.Resolves key operationId (resolver.resolve operationId reference).outcome := by
  rw [resolve, if_neg hid]
  simp only [hkey, h]
  cases hexport : controller.lookup operationId with
  | none => exact ⟨by simp [hexport], by simp [hexport], by simp [hexport]⟩
  | some found =>
      cases found with
      | value _ => exact ⟨by simp [hexport], by simp [hexport], by simp [hexport]⟩
      | handler handler =>
          refine ⟨fun stages => ?_, ?_, ?_⟩
          · simp [hexport, Handler.resolve_eq_ok_iff]
          · simp [hexport, Handler.resolve_eq_error_iff]
          · simp [hexport, Handler.resolve_eq_error_iff]

end Resolver

open ControllerRegistry in
/-- Controllers are looked up by the segments of paths.  An operation resolves in the controller of
the last registration whose path has the segments that the base and the reference name together, to
the stages that the export of its name gives; without such a registration it fails with the key of
these segments.  Nothing but the segments counts, so neither further slashes and dot segments nor
the place where the base ends and the reference begins. -/
theorem resolve_last_registered (calls : List (String × Controller)) (base : String)
    (reference : Option String) {operationId : String} (hid : operationId ≠ "") (stubs : Bool) :
    let resolve (base : String) (reference : Option String) : Resolution :=
      Resolver.resolve ⟨ofCalls calls, base, stubs⟩ operationId reference
    let segments := ModuleKey.named base (reference.getD "")
    let key := ModuleKey.ofReference base (reference.getD "")
    ModuleKey.segments key.toList = segments ∧
    (((∀ call ∈ calls, ModuleKey.segments call.1.toList ≠ segments) ∧
        (resolve base reference).outcome = .error (.moduleNotLoadable key)) ∨
      ∃ controller, RegistersLast calls segments controller ∧
        controller.Resolves key operationId (resolve base reference).outcome) ∧
    (∀ base' reference', ModuleKey.named base' (reference'.getD "") = segments →
      resolve base' reference' = resolve base reference) ∧
    (∀ blank ∈ ["", "."], ∀ front back,
      resolve (front ++ "/" ++ blank ++ "/" ++ back) reference =
        resolve (front ++ "/" ++ back) reference ∧
      resolve base (some (front ++ "/" ++ blank ++ "/" ++ back)) =
        resolve base (some (front ++ "/" ++ back))) ∧
    ∀ front middle back, resolve (front ++ "/" ++ middle) (some back) =
      resolve front (some (middle ++ "/" ++ back)) := by
  intro resolve segments key
  have hspelling : ∀ first first' second second',
      ModuleKey.named first (second.getD "") = ModuleKey.named first' (second'.getD "") →
        resolve first second = resolve first' second' := by
    intro first first' second second' h
    simp only [resolve, Resolver.resolve, if_neg hid, ModuleKey.ofReference_eq_iff.2 h]
  let resolver : Resolver := ⟨ofCalls calls, base, stubs⟩
  refine ⟨ModuleKey.segments_ofReference _ _, ?_, ?_, ?_, ?_⟩
  · rcases none_or_registersLast calls segments with hnone | ⟨controller, hlast⟩
    · left
      have hlookup : resolver.registry.lookup key = none := lookup_ofCalls_of_none hnone
      have hresolve := resolver.resolve_of_lookup_none hid rfl hlookup
      exact ⟨hnone, congrArg Resolution.outcome hresolve⟩
    · right
      have hlookup : resolver.registry.lookup key = some controller := lookup_ofCalls_of_last hlast
      exact ⟨controller, hlast, resolver.resolves_of_lookup hid rfl hlookup⟩
  · intro base' reference' h
    exact hspelling _ _ _ _ h
  · intro blank hblank front back
    have hsegments := ModuleKey.segments_append_blank hblank front back
    constructor
    · apply hspelling
      rw [ModuleKey.named, ModuleKey.named, hsegments]
    · apply hspelling
      rw [Option.getD_some, Option.getD_some, ModuleKey.named, ModuleKey.named, hsegments]
  · intro front middle back
    apply hspelling
    rw [Option.getD_some, Option.getD_some, ModuleKey.named_append_slash]

def lampCalls : List (String × Controller) :=
  [("handlers/lamps", [("onLamp", .value .null)]),
    ("./handlers//lamps/",
      [("onLamp", .handler (.factory (.sequence [Stage.echo, Stage.record "seen"])))]),
    ("handlers", [("onLamp", .handler (.direct Stage.echo))])]

/-- The later registration counts, however base and reference are spelled. -/
theorem resolve_last_registered_lamps :
    let resolve (base reference : String) : Resolution :=
      Resolver.resolve ⟨ControllerRegistry.ofCalls lampCalls, base, false⟩ "onLamp" (some reference)
    (resolve "handlers/" "/lamps").outcome = .ok [Stage.echo, Stage.record "seen"] ∧
      resolve "" "handlers/./lamps" = resolve "handlers/" "/lamps" := by
  obtain ⟨-, hfound, hspelling, -⟩ :=
    resolve_last_registered lampCalls "handlers/" (some "/lamps") (by decide : "onLamp" ≠ "") false
  refine ⟨?_, hspelling "" (some "handlers/./lamps") (by decide)⟩
  have hlast : ControllerRegistry.RegistersLast lampCalls (ModuleKey.named "handlers/" "/lamps")
      [("onLamp", .handler (.factory (.sequence [Stage.echo, Stage.record "seen"])))] :=
    ⟨_, _, _, List.singleton_append.symm, by decide, by decide⟩
  rcases hfound with ⟨hnone, -⟩ | ⟨controller, hcontroller, hresolves⟩
  · exact absurd (by decide) (hnone _ (List.mem_cons_of_mem _ List.mem_cons_self))
  · cases hcontroller.unique hlast
    exact (hresolves.ok_iff _).2 ⟨_, rfl, .madeSequence _⟩

end ChannelGateway
