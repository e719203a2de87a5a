import ChannelGateway.Registration.Compiler
/-!
# Steps of compiling a route

A route is compiled in four steps, which are its three schemas and its handler.  It is compiled if
no step fails, and otherwise the first step that fails tells why.  The same holds of the routes of
a document, one after the other.
-/

namespace ChannelGateway

def RequestPart.order : List RequestPart := [params, headers, body]

theorem RequestPart.mem_order (part : RequestPart) : part ∈ order := by
  cases part <;> decide

def Binding.status : Binding → HandlerStatus
  | resolved _ => .resolved
  | stubbed _ reason => .stubbed reason.message

namespace RouteCompiler

def compilePart (c : RouteCompiler) (spec : RouteSpec) (part : RequestPart) :
    Except Schema.SchemaError Schema.CompiledSchema :=
  Schema.CompiledSchema.ofJson (part.effectiveSchema (partSchema spec part)) c.formats

def Compiles (c : RouteCompiler) (spec : RouteSpec)
    (compiled : RequestPart → Schema.CompiledSchema) :
    Prop :=
  ∀ part, c.compilePart spec part = .ok (compiled part)

def bindHandler (c : RouteCompiler) (spec : RouteSpec) : BindingResult :=
  c.resolver.bind (spec.operationId.getD "") spec.controller

/-- The stages of a route's handler, none where no handlers are asked for. -/
def Handles (c : RouteCompiler) (spec : RouteSpec) (handlers : List Stage)
    (status : HandlerStatus) :
    Prop :=
  if c.options.requireController then
    ∃ binding, (c.bindHandler spec).outcome = .ok binding ∧ handlers = binding.stages ∧
      status = binding.status
  else handlers = [] ∧ status = .suppressed

def validatorOf (spec : RouteSpec) (compiled : RequestPart → Schema.CompiledSchema)
    (part : RequestPart) :
    Validator :=
  ⟨part.effectiveSchema (partSchema spec part), compiled part, part.coercion⟩

def checks (spec : RouteSpec) (compiled : RequestPart → Schema.CompiledSchema)
    (parts : List RequestPart) : List Stage :=
  parts.map fun part => Stage.check part (validatorOf spec compiled part)

inductive CompileStep where
  | schema (part : RequestPart)
  | handler
deriving DecidableEq

def CompileStep.order : List CompileStep := RequestPart.order.map schema ++ [handler]

/-- The error of a step, if it fails.  Where no handlers are asked for, binding one cannot fail. -/
def stepError? (c : RouteCompiler) (spec : RouteSpec) : CompileStep → Option RegistrationError
  | .schema part =>
    match c.compilePart spec part with
    | .error e => some (.schema spec.channel part e)
    | .ok _ => none
  | .handler =>
    if c.options.requireController then
      match (c.bindHandler spec).outcome with
      | .error e => some (.handler spec.channel e)
      | .ok _ => none
    else none

def routeError? (c : RouteCompiler) (spec : RouteSpec) : Option RegistrationError :=
  CompileStep.order.findSome? (c.stepError? spec)

section Route

variable {c : RouteCompiler} {spec : RouteSpec}

theorem validationStage_of_ok {part : RequestPart} {compiled : Schema.CompiledSchema}
    (h : c.compilePart spec part = .ok compiled) :
    c.validationStage spec part =
      .ok (Stage.check part ⟨part.effectiveSchema (partSchema spec part), compiled,
        part.coercion⟩) := by
  rw [compilePart] at h
  simp only [validationStage, Stage.validation, Validator.ofSchema, h, Except.map]

theorem validationStage_of_error {part : RequestPart} {e : Schema.SchemaError}
    (h : c.compilePart spec part = .error e) :
    c.validationStage spec part = .error (.schema spec.channel part e) := by
  rw [compilePart] at h
  simp only [validationStage, Stage.validation, Validator.ofSchema, h, Except.map]

theorem stepError?_schema_of_ok {part : RequestPart} {compiled : Schema.CompiledSchema}
    (h : c.compilePart spec part = .ok compiled) : c.stepError? spec (.schema part) = none := by
  rw [stepError?, h]

theorem stepError?_schema_of_error {part : RequestPart} {e : Schema.SchemaError}
    (h : c.compilePart spec part = .error e) :
    c.stepError? spec (.schema part) = some (.schema spec.channel part e) := by
  rw [stepError?, h]

theorem validationStages_of_compiles {compiled : RequestPart → Schema.CompiledSchema}
    (h : c.Compiles spec compiled) :
    c.validationStages spec = .ok (checks spec compiled RequestPart.order) := by
  have hstage := fun part => validationStage_of_ok (h part)
  simp only [validationStages, hstage, bind, Except.bind, pure, Except.pure]
  rfl

theorem exists_compiled_of_stepError? {part : RequestPart}
    (h : c.stepError? spec (.schema part) = none) :
    ∃ compiled, c.compilePart spec part = .ok compiled := by
  cases hpart : c.compilePart spec part with
  | error e =>
      rw [stepError?_schema_of_error hpart] at h
      cases h
  | ok compiled => exact ⟨compiled, rfl⟩

theorem validationStages_eq_mapM (c : RouteCompiler) (spec : RouteSpec) :
    c.validationStages spec = RequestPart.order.mapM (c.validationStage spec) := by
  simp only [validationStages, RequestPart.order, List.mapM_cons, List.mapM_nil,
    bind_assoc, pure_bind]

theorem mapM_validationStage_of_error {parts : List RequestPart} {e : RegistrationError}
    (h : (parts.map CompileStep.schema).findSome? (c.stepError? spec) = some e) :
    parts.mapM (c.validationStage spec) = .error e := by
  induction parts with
  | nil => cases h
  | cons part rest ih =>
      rw [List.map_cons, List.findSome?_cons] at h
      rw [List.mapM_cons]
      cases hpart : c.compilePart spec part with
      | error e' =>
          rw [stepError?_schema_of_error hpart] at h
          cases h
          rw [validationStage_of_error hpart]
          rfl
      | ok compiled =>
          rw [stepError?_schema_of_ok hpart] at h
          rw [validationStage_of_ok hpart, ih h]
          rfl

/-- Either all the schemas of a route are compiled, or the first one that is refused tells why. -/
theorem exists_compiles_or_error (c : RouteCompiler) (spec : RouteSpec) :
    (∃ compiled, c.Compiles spec compiled) ∨
      ∃ e, (RequestPart.order.map CompileStep.schema).findSome? (c.stepError? spec) = some e ∧
        c.validationStages spec = .error e := by
  cases hfirst : (RequestPart.order.map CompileStep.schema).findSome? (c.stepError? spec) with
  | some e =>
      right
      refine ⟨e, rfl, ?_⟩
      rw [validationStages_eq_mapM, mapM_validationStage_of_error hfirst]
  | none =>
      left
      rw [List.findSome?_eq_none_iff] at hfirst
      have hparts : ∀ part, ∃ compiled, c.compilePart spec part = .ok compiled := fun part =>
        exists_compiled_of_stepError? (hfirst _ (List.mem_map_of_mem part.mem_order))
      exact Classical.skolem.1 hparts

theorem routeError?_of_compiles {compiled : RequestPart → Schema.CompiledSchema}
    (h : c.Compiles spec compiled) : c.routeError? spec = c.stepError? spec .handler := by
  have hschemas : (RequestPart.order.map CompileStep.schema).findSome? (c.stepError? spec) =
      none := by
    rw [List.findSome?_eq_none_iff]
    intro step hstep
    obtain ⟨part, -, rfl⟩ := List.mem_map.1 hstep
    exact stepError?_schema_of_ok (h part)
  rw [routeError?, CompileStep.order, List.findSome?_append, hschemas, Option.none_or,
    List.findSome?_singleton]

theorem Compiles.unique {a b : RequestPart → Schema.CompiledSchema} (ha : c.Compiles spec a)
    (hb : c.Compiles spec b) : a = b := by
  funext part
  have h := ha part
  rw [hb part] at h
  exact (Except.ok.inj h).symm

theorem Handles.unique {first second : List Stage} {status status' : HandlerStatus}
    (h : c.Handles spec first status) (h' : c.Handles spec second status') :
    first = second ∧ status = status' := by
  unfold Handles at h h'
  split at h
  · obtain ⟨binding, hbinding, rfl, rfl⟩ := h
    rw [if_pos ‹_›] at h'
    obtain ⟨binding', hbinding', rfl, rfl⟩ := h'
    rw [hbinding] at hbinding'
    cases hbinding'
    exact ⟨rfl, rfl⟩
  · rw [if_neg ‹_›] at h'
    exact ⟨h.1.trans h'.1.symm, h.2.trans h'.2.symm⟩

theorem stepError?_handler_of_handles {handlers : List Stage} {status : HandlerStatus}
    (h : c.Handles spec handlers status) : c.stepError? spec .handler = none := by
  unfold Handles at h
  rw [stepError?]
  split at h
  · obtain ⟨binding, hbinding, -, -⟩ := h
    rw [if_pos ‹_›, hbinding]
  · rw [if_neg ‹_›]

/-- A route is compiled, with its three checks in front of its handler, or the first step that fails
tells why it is not. -/
theorem outcome_compileRoute (c : RouteCompiler) (spec : RouteSpec) :
    (∃ e, c.routeError? spec = some e ∧ (c.compileRoute spec).outcome = .error e) ∨
    ∃ compiled handlers status, c.Compiles spec compiled ∧ c.Handles spec handlers status ∧
      c.routeError? spec = none ∧
      (c.compileRoute spec).outcome =
        .ok (routeOf spec (checks spec compiled RequestPart.order ++ handlers) status) := by
  rcases exists_compiles_or_error c spec with ⟨compiled, hcompiled⟩ | ⟨e, herror, hstages⟩
  · have hstages := validationStages_of_compiles hcompiled
    have herror := routeError?_of_compiles hcompiled
    by_cases hrequired : c.options.requireController = true
    · cases hbinding : (c.bindHandler spec).outcome with
      | error e =>
          left
          refine ⟨.handler spec.channel e, ?_, ?_⟩
          · simp only [herror, stepError?, hrequired, if_true, hbinding]
          · rw [bindHandler] at hbinding
            simp only [compileRoute, hstages, hrequired, Bool.not_true,
              Bool.false_eq_true, if_false, hbinding]
      | ok binding =>
          right
          refine ⟨compiled, binding.stages, binding.status, hcompiled, ?_, ?_, ?_⟩
          · rw [Handles, if_pos hrequired]
            exact ⟨binding, hbinding, rfl, rfl⟩
          · simp only [herror, stepError?, hrequired, if_true, hbinding]
          · rw [bindHandler] at hbinding
            simp only [compileRoute, hstages, hrequired, Bool.not_true,
              Bool.false_eq_true, if_false, hbinding]
            cases binding <;> rfl
    · right
      refine ⟨compiled, [], .suppressed, hcompiled, ?_, ?_, ?_⟩
      · rw [Handles, if_neg hrequired]
        exact ⟨rfl, rfl⟩
      · rw [herror, stepError?, if_neg hrequired]
      · rw [Bool.not_eq_true] at hrequired
        simp only [compileRoute, hstages, hrequired, Bool.not_false, if_true, List.append_nil]
  · left
    refine ⟨e, ?_, ?_⟩
    · rw [routeError?, CompileStep.order, List.findSome?_append, herror, Option.some_or]
    · rw [compileRoute, hstages]

theorem compileRoute_eq_error_iff {e : RegistrationError} :
    (c.compileRoute spec).outcome = .error e ↔ c.routeError? spec = some e := by
  rcases outcome_compileRoute c spec with ⟨found, herror, houtcome⟩ |
    ⟨_, _, _, -, -, hnone, houtcome⟩
  · rw [herror, houtcome, Except.error.injEq, Option.some.injEq]
  · rw [hnone, houtcome]
    simp

theorem compileRoute_eq_ok_iff {route : CompiledRoute} :
    (c.compileRoute spec).outcome = .ok route ↔
      ∃ compiled handlers status, c.Compiles spec compiled ∧ c.Handles spec handlers status ∧
        route = routeOf spec (checks spec compiled RequestPart.order ++ handlers) status := by
  rcases outcome_compileRoute c spec with ⟨e, herror, houtcome⟩ |
    ⟨compiled, handlers, status, hcompiled, hhandles, hnone, houtcome⟩
  · rw [houtcome]
    constructor
    · intro h
      cases h
    · rintro ⟨compiled, handlers, status, hcompiled, hhandles, -⟩
      rw [routeError?_of_compiles hcompiled, stepError?_handler_of_handles hhandles] at herror
      cases herror
  · rw [houtcome, Except.ok.injEq]
    constructor
    · rintro rfl
      exact ⟨compiled, handlers, status, hcompiled, hhandles, rfl⟩
    · rintro ⟨compiled', handlers', status', hcompiled', hhandles', rfl⟩
      rw [hcompiled.unique hcompiled', (hhandles.unique hhandles').1, (hhandles.unique hhandles').2]

theorem routeError?_of_ok {route : CompiledRoute} (h : (c.compileRoute spec).outcome = .ok route) :
    c.routeError? spec = none := by
  cases hfirst : c.routeError? spec with
  | none => rfl
  | some e =>
      rw [compileRoute_eq_error_iff.2 hfirst] at h
      cases h

theorem mem_events_compileRoute {event : Event} (h : event ∈ (c.compileRoute spec).trace.events) :
    ∃ operationId reason, event = .stubInstalled operationId reason := by
  unfold compileRoute at h
  split at h
  · cases h
  · split at h
    · cases h
    · dsimp only at h
      have hbound : event ∈ (c.bindHandler spec).events := by
        split at h
        · exact h
        · exact h
      rw [bindHandler, Resolver.bind] at hbound
      split at hbound
      · cases hbound
      · split at hbound
        · exact ⟨_, _, List.mem_singleton.1 hbound⟩
        · cases hbound

end Route

/-! ## Routes in order -/

section Routes

variable {c : RouteCompiler}

theorem compileRoutes_eq_error_iff {specs : List RouteSpec} {e : RegistrationError} :
    (c.compileRoutes specs).outcome = .error e ↔ specs.findSome? c.routeError? = some e := by
  induction specs with
  | nil => simp [compileRoutes]
  | cons spec rest ih =>
      rw [compileRoutes, List.findSome?_cons]
      cases houtcome : (c.compileRoute spec).outcome with
      | error first =>
          have hfirst := compileRoute_eq_error_iff.1 houtcome
          simp only [hfirst, Except.error.injEq, Option.some.injEq]
      | ok route =>
          simp only [routeError?_of_ok houtcome, ← ih]
          cases (c.compileRoutes rest).outcome with
          | error other => simp [Except.map]
          | ok routes => simp [Except.map]

theorem mem_events_compileRoutes {specs : List RouteSpec} {event : Event}
    (h : event ∈ (c.compileRoutes specs).trace.events) :
    ∃ operationId reason, event = .stubInstalled operationId reason := by
  induction specs with
  | nil => cases h
  | cons spec rest ih =>
      rw [compileRoutes] at h
      split at h
      · exact mem_events_compileRoute h
      · rcases List.mem_append.1 h with h | h
        · exact mem_events_compileRoute h
        · exact ih h

end Routes

end RouteCompiler

end ChannelGateway
