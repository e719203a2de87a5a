import ChannelGateway.Proofs.Document.Inlining
import ChannelGateway.Proofs.Host.Dispatch
import ChannelGateway.Proofs.Pipeline.Gate
import ChannelGateway.Proofs.Registration.Mounting
import ChannelGateway.Proofs.Route.Parameters
import ChannelGateway.Proofs.Route.Plain
import ChannelGateway.Proofs.Schema.Parameters
/-!
# Reaching channels without parameters

The layer of a channel that has no parameters is to be reached by the path that clients request
for the channel's address.  The layer matches the path as it is requested, so it is reached if
the address is the same in paths; an address of which something is escaped, or rewritten in the
route, is not.
-/

namespace ChannelGateway

open RouteSpec RouteCompiler

/-- A layer admits a request: its pattern has no captures and matches, and the stage that
comes first continues. -/
def Layer.Admits (layer : Layer) (request : Request) : Prop :=
  layer.pattern.captureNames = [] ∧
    ∃ start check behind, layer.Starts request start ∧ layer.pipeline.stages = check :: behind ∧
      (check.run start).outcome = .ok .continue

theorem RoutePattern.erase_matchPath? {p : RoutePattern} {path : List Char} {params : Fields}
    (hnames : p.captureNames = []) (h : p.matchPath? path = some params) :
    Fields.erase remainderKey params = [] := by
  have hkeys := mem_keys_matchPath h
  simp only [hnames, List.map_nil, List.not_mem_nil, and_false, iff_false] at hkeys
  exact List.map_eq_nil_iff.1 (List.eq_nil_iff_forall_not_mem.2 hkeys)

section Compiled

variable {c : RouteCompiler} {channel : Channel} {operation : Operation} {route : CompiledRoute}

theorem fits_params_of_nil {compiled : RequestPart → Schema.CompiledSchema} {request : Request}
    (hparameters : channel.parameters = [])
    (hcompiled : c.Compiles (ofOperation channel operation) compiled)
    (hrequest : Fields.erase RoutePattern.remainderKey request.params = []) :
    Fits (ofOperation channel operation) compiled request .params := by
  have hschema : (ofOperation channel operation).parametersSchema = parametersSchemaOf [] := by
    rw [ofOperation, hparameters]
  have hread : Schema.CompiledSchema.ofJson (parametersSchemaOf []) c.formats =
      .ok (compiled .params) := by
    rw [← hschema]
    exact hcompiled .params
  obtain ⟨members, hmembers, hkeys⟩ := exists_coerce_parametersSchemaOf [] []
  have hnone : members = [] := List.map_eq_nil_iff.1 hkeys
  have hnames : (([] : List Parameter).map (·.name)).Nodup := List.nodup_nil
  rw [Fits, candidate, hrequest, hschema, hmembers, hnone,
    mismatches_eq_nil_iff hnames (readsParameters_of_ofJson hread)]
  exact ⟨[], rfl, fun name => Iff.rfl, by simp⟩

theorem pattern_layer {spec : RouteSpec} (hroute : (c.compileRoute spec).outcome = .ok route) :
    route.layer.pattern = spec.pattern := by
  obtain ⟨_, _, _, -, -, rfl⟩ := compileRoute_eq_ok_iff.1 hroute
  rfl

theorem admits_iff (hparameters : channel.parameters = [])
    (hroute : (c.compileRoute (ofOperation channel operation)).outcome = .ok route)
    (request : Request) :
    route.layer.Admits request ↔
      Piece.captures (routeOfAddress channel.name.toList) = [] ∧
        ((ofOperation channel operation).pattern.matchPath? request.path.toList).isSome := by
  obtain ⟨compiled, handlers, status, hcompiled, -, rfl⟩ := compileRoute_eq_ok_iff.1 hroute
  have hnames : (ofOperation channel operation).pattern.captureNames =
      Piece.captures (routeOfAddress channel.name.toList) := by
    rw [pattern_ofOperation, RoutePattern.captureNames_parse]
  constructor
  · rintro ⟨hcaptures, start, _, _, ⟨captured, hmatch, -⟩, -⟩
    exact ⟨hnames ▸ hcaptures, Option.isSome_iff_exists.2 ⟨captured, hmatch⟩⟩
  · rintro ⟨hcaptures, hsome⟩
    obtain ⟨captured, hmatch⟩ := Option.isSome_iff_exists.1 hsome
    rw [← hnames] at hcaptures
    let start : Request := { request with params := captured }
    have hfits : Fits (ofOperation channel operation) compiled start .params :=
      fits_params_of_nil hparameters hcompiled (RoutePattern.erase_matchPath? hcaptures hmatch)
    refine ⟨hcaptures, start, _, _, ⟨captured, hmatch, rfl⟩, rfl, ?_⟩
    rw [check_run_pass (Leaves.nil _ _) hfits]

end Compiled

/-- A channel without parameters is reached by the path that clients request for its address if and
only if the path starts with the segments of its route, and the route captures nothing.  This holds
if the address is plain, and then nothing is left of the path; and unless segments of the address
are lost in the route, which are those of closing braces only, it holds of no other address. -/
theorem parameterless_channel_reachable {root : Json} {document : Document} {channel : Channel}
    {operation : Operation} (h : Document.ofJson root = .ok document)
    (hchannel : channel ∈ document.channels) (hpublish : channel.publish = some operation)
    (hparameters : channel.parameters = []) :
    let spec := ofOperation channel operation
    let address := channel.name.toList
    spec ∈ ofDocument document none ∧ Address.placeholders address = [] ∧
    (Address.IsPlain address → spec.pattern.matchPath? (Address.requestPath address) = some []) ∧
    ∀ (c : RouteCompiler) (route : CompiledRoute) (request : Request),
      (c.compileRoute spec).outcome = .ok route →
      request.path.toList = Address.requestPath address →
      (route.layer.Admits request ↔ Piece.captures (routeOfAddress address) = [] ∧
        Segments.split (routeOfAddress address) <+: Segments.split (Address.requestPath address)) ∧
      (Address.IsPlain address → route.layer.Admits request) ∧
      ((∀ segment ∈ Segments.split address, ∃ d ∈ segment, d ≠ '\x7d') →
        (route.layer.Admits request ↔ Address.IsPlain address)) := by
  intro spec address
  have hpattern : spec.pattern = RoutePattern.parse (routeOfAddress address) :=
    pattern_ofOperation channel operation
  refine ⟨?_, ?_, fun hplain => ?_, fun c route request hroute hpath => ?_⟩
  · refine List.mem_filterMap.2 ⟨channel, hchannel, ?_⟩
    simp [hpublish, spec]
  · have hnames := Document.mem_parameters_iff h hchannel
    simp only [hparameters, List.map_nil, List.not_mem_nil, false_iff] at hnames
    exact List.map_eq_nil_iff.1 (List.eq_nil_iff_forall_not_mem.2 hnames)
  · rw [hpattern]
    exact RoutePattern.matchPath?_of_split_eq hplain.route.1 hplain.route.2
  · have hadmits : route.layer.Admits request ↔ Piece.captures (routeOfAddress address) = [] ∧
        Segments.split (routeOfAddress address) <+: Segments.split
          (Address.requestPath address) := by
      rw [admits_iff hparameters hroute, hpath]
      refine and_congr_right fun hcaptures => ?_
      rw [← RoutePattern.isSome_matchPath?_iff hcaptures]
      exact iff_of_eq (congrArg (fun p => (RoutePattern.matchPath? p _).isSome = true) hpattern)
    have hof_plain : Address.IsPlain address → route.layer.Admits request := fun hplain =>
      hadmits.2 ⟨hplain.route.1, hplain.route.2 ▸ List.prefix_rfl⟩
    refine ⟨hadmits, hof_plain, fun hkept => ⟨fun hrequest => ?_, hof_plain⟩⟩
    obtain ⟨hcaptures, hstarts⟩ := hadmits.1 hrequest
    exact Address.isPlain_of_route hcaptures hstarts hkept

def statusDescription (address : String) : Json :=
  Document.describing
    [(address, .object [("publish", .object [("operationId", .string "onStatus")])])] []

def statusChannel (address : String) : Channel :=
  { name := address
    description := none
    parameters := []
    publish := some ⟨some "onStatus", none, [], none, Document.emptyMessage, []⟩
    subscribe := none }

theorem exists_document_statusDescription (address : String)
    (haddress : Address.parameterNames address = []) :
    ∃ document channel operation, Document.ofJson (statusDescription address) = .ok document ∧
      channel ∈ document.channels ∧ channel.publish = some operation ∧ channel.parameters = [] ∧
      channel.name = address := by
  have hresolved : resolveReferences (statusDescription address)
      (.object [("publish", .object [("operationId", .string "onStatus")])]) =
        .ok (.object [("publish", .object [("operationId", .string "onStatus")])]) := by
    apply Reference.resolveReferences_self
    rfl
  have hread : Document.readChannel address (.object
      [("publish", .object [("operationId", .string "onStatus")])]) =
        pure (some (statusChannel address)) :=
    Document.readChannel_eq_pure rfl haddress
      (Document.readOperation_eq_pure rfl rfl (by decide)) rfl
  obtain ⟨document, hdocument, hchannels⟩ := Document.ofJson_describing_one hresolved hread rfl
  let published := Document.annotateOperation (statusChannel address).publish 0
  refine ⟨document, { statusChannel address with publish := published.1 }, _, hdocument, ?_,
    rfl, rfl, rfl⟩
  rw [hchannels]
  exact List.mem_singleton.2 rfl

/-- Colons that capture nothing do not keep a channel from being reached. -/
theorem parameterless_channel_reachable_urn : ∃ document channel operation,
    Document.ofJson (statusDescription "urn:/lights-1.0/~on:") = .ok document ∧
    channel ∈ document.channels ∧ channel.publish = some operation ∧ channel.parameters = [] ∧
    (ofOperation channel operation).pattern.matchPath? "/urn:/lights-1.0/~on:".toList = some [] ∧
    ∀ (c : RouteCompiler) (route : CompiledRoute) (request : Request),
      (c.compileRoute (ofOperation channel operation)).outcome = .ok route →
      request.path = "/urn:/lights-1.0/~on:" → route.layer.Admits request := by
  obtain ⟨document, channel, operation, hdocument, hchannel, hpublish, hparameters, hname⟩ :=
    exists_document_statusDescription "urn:/lights-1.0/~on:" (by decide +kernel)
  have hpath : Address.requestPath channel.name.toList = "/urn:/lights-1.0/~on:".toList := by
    rw [hname]
    decide +kernel
  have hplain : Address.IsPlain channel.name.toList := by
    rw [hname]
    constructor
    · rw [← List.all_eq_true]
      decide +kernel
    · rw [Piece.Bare]
      simp only [String.reduceToList]
      decide
  obtain ⟨-, -, hmatch, hadmits⟩ :=
    parameterless_channel_reachable hdocument hchannel hpublish hparameters
  rw [← hpath]
  refine ⟨document, channel, operation, hdocument, hchannel, hpublish, hparameters,
    hmatch hplain, ?_⟩
  intro c route request hroute hrequest
  have hsame : request.path.toList = Address.requestPath channel.name.toList := by
    rw [hrequest, hpath]
  exact (hadmits c route request hroute hsame).2.1 hplain

/-- A blank is escaped in paths but not in routes: an accepted channel without parameters is not
reached by the path of its address, and an application of nothing but its layer answers that
there is none. -/
theorem living_room_not_reachable : ∃ document channel operation,
    Document.ofJson (statusDescription "living room") = .ok document ∧
    channel ∈ document.channels ∧ channel.publish = some operation ∧ channel.parameters = [] ∧
    Address.requestPath channel.name.toList = "/living%20room".toList ∧
    (ofOperation channel operation).pattern.matchPath? "/living%20room".toList = none ∧
    ∀ (c : RouteCompiler) (route : CompiledRoute) (request : Request) (app : App),
      (c.compileRoute (ofOperation channel operation)).outcome = .ok route →
      request.path = "/living%20room" → app.layers = [route.layer] →
      ¬ route.layer.Admits request ∧ (app.dispatch request).response.status = 404 := by
  obtain ⟨document, channel, operation, hdocument, hchannel, hpublish, hparameters, hname⟩ :=
    exists_document_statusDescription "living room" (by decide +kernel)
  have hpath : Address.requestPath channel.name.toList = "/living%20room".toList := by
    rw [hname]
    decide +kernel
  have hmatch : (ofOperation channel operation).pattern.matchPath? "/living%20room".toList =
      none := by
    rw [pattern_ofOperation, hname]
    decide +kernel
  refine ⟨document, channel, operation, hdocument, hchannel, hpublish, hparameters,
    hpath, hmatch, ?_⟩
  intro c route request app hroute hrequest hlayers
  constructor
  · intro hadmits
    have hsome := ((admits_iff hparameters hroute request).1 hadmits).2
    rw [hrequest, hmatch] at hsome
    cases hsome
  · rw [← pattern_layer hroute, ← hrequest] at hmatch
    simp only [App.dispatch, hlayers, App.dispatchLayers, hmatch]
    rfl

end ChannelGateway
