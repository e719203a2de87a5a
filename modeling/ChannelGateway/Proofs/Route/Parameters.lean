import ChannelGateway.Proofs.Document.Acceptance
import ChannelGateway.Proofs.Document.Inlining
import ChannelGateway.Proofs.Route.Address
import ChannelGateway.Proofs.Route.Matching
/-!
# Parameters of routes

The parameters of a channel are read three times: its address names them in braces, the pattern of
its route captures them, and the schema of its route requires them.  The first and the last agree
in every accepted document.  The pattern agrees with them if and only if the address is regular.
-/

namespace ChannelGateway

open RouteSpec

namespace RouteSpec

def pattern (spec : RouteSpec) : RoutePattern := RoutePattern.parse spec.route.toList

def captureNames (spec : RouteSpec) : List String := spec.pattern.captureNames.map String.ofList

def requiredNames (spec : RouteSpec) : List String :=
  (((spec.parametersSchema.get? "required").bind Json.items?).getD []).filterMap Json.string?

theorem pattern_ofOperation (channel : Channel) (operation : Operation) :
    (ofOperation channel operation).pattern =
      RoutePattern.parse (routeOfAddress channel.name.toList) := by
  rw [pattern, ofOperation, String.toList_ofList]

theorem captureNames_ofOperation (channel : Channel) (operation : Operation) :
    (ofOperation channel operation).captureNames =
      (Piece.captures (routeOfAddress channel.name.toList)).map String.ofList := by
  rw [captureNames, pattern_ofOperation, RoutePattern.captureNames_parse]

theorem requiredNames_ofOperation (channel : Channel) (operation : Operation) :
    (ofOperation channel operation).requiredNames = channel.parameters.map (·.name) := by
  have hrequired : (ofOperation channel operation).requiredNames =
      (channel.parameters.map fun p => Json.string p.name).filterMap Json.string? := rfl
  rw [hrequired, List.filterMap_map, ← List.filterMap_eq_map]
  rfl

/-- The pattern of a route captures the declared parameters of its channel: the same names, each of
them once, and none under the key of what is left of a path. -/
structure CapturesParameters (channel : Channel) (spec : RouteSpec) : Prop where
  same : ∀ name, name ∈ spec.captureNames ↔ name ∈ channel.parameters.map (·.name)
  once : spec.captureNames.Nodup
  notRemainder : RoutePattern.remainderKey ∉ spec.captureNames

end RouteSpec

theorem ofList_mem_map {name : List Char} {names : List (List Char)} :
    String.ofList name ∈ names.map String.ofList ↔ name ∈ names :=
  List.mem_map_of_injective fun _ _ => String.ofList_injective

/-- The names of an accepted channel: declared, required and in braces are the same. -/
theorem Document.mem_parameters_iff {root : Json} {document : Document}
    (h : Document.ofJson root = .ok document) {channel : Channel}
    (hchannel : channel ∈ document.channels) (name : String) :
    name ∈ channel.parameters.map (·.name) ↔ name ∈ Address.parameterNames channel.name := by
  obtain ⟨_, entry, read, -, -, ⟨fields, -, hread⟩, n, m, rfl⟩ :=
    exists_reads_of_mem_channels h hchannel
  have haddress := hread.address name
  rw [← hread.name_eq] at haddress
  exact haddress

/-- The pattern of an address captures the names in its braces if and only if the
address is regular. -/
theorem capturesParameters_iff {channel : Channel} {operation : Operation}
    (hdeclared : ∀ name, name ∈ channel.parameters.map (·.name) ↔
      name ∈ Address.parameterNames channel.name) :
    CapturesParameters channel (ofOperation channel operation) ↔
      Address.IsRegular channel.name.toList := by
  have hnames := captureNames_ofOperation channel operation
  constructor
  · rintro ⟨hsame, honce, hremainder⟩
    rw [hnames] at hsame honce hremainder
    apply Address.isRegular_of_captures
    · intro name
      have h := hsame (String.ofList name)
      rw [hdeclared, ofList_mem_map, Address.parameterNames, ofList_mem_map] at h
      exact h
    · exact List.Nodup.of_map _ honce
    · intro h
      apply hremainder
      rw [← String.ofList_toList (s := RoutePattern.remainderKey), ofList_mem_map]
      exact h
  · intro h
    have hcaptures := Address.captures_routeOfAddress _ h.named h.delimited
    rw [hcaptures] at hnames
    refine ⟨fun name => ?_, ?_, ?_⟩
    · rw [hnames, hdeclared]
      rfl
    · rw [hnames]
      exact h.distinct.map fun _ _ => String.ofList_injective
    · rw [hnames, ← String.ofList_toList (s := RoutePattern.remainderKey), ofList_mem_map]
      exact h.notRemainder

/-- A request that reaches a route brings the declared parameters if the pattern captures them. -/
theorem RouteSpec.CapturesParameters.mem_keys {channel : Channel} {spec : RouteSpec}
    (h : CapturesParameters channel spec) {path : List Char} {params : Fields}
    (hpath : spec.pattern.matchPath? path = some params) (name : String) :
    name ∈ Fields.keys (Fields.erase RoutePattern.remainderKey params) ↔
      name ∈ channel.parameters.map (·.name) := by
  rw [RoutePattern.mem_keys_matchPath hpath, ← h.same]
  constructor
  · exact And.right
  · intro hname
    exact ⟨fun heq => h.notRemainder (heq ▸ hname), hname⟩

/-- In an accepted document the declared parameters of a channel are the names in braces of its
address and the names that its route's schema requires.  The route's pattern captures them, each
once and none under the key of what is left of a path, if and only if the address is regular; then
it captures them in the order of the address, there are paths that it matches, and every one of
them brings exactly the required parameters. -/
theorem route_captures_parameters {root : Json} {document : Document} {channel : Channel}
    {operation : Operation} (h : Document.ofJson root = .ok document)
    (hchannel : channel ∈ document.channels) (hpublish : channel.publish = some operation) :
    let spec := ofOperation channel operation
    spec ∈ ofDocument document none ∧
    spec.requiredNames = channel.parameters.map (·.name) ∧
    (∀ name, name ∈ channel.parameters.map (·.name) ↔
      name ∈ Address.parameterNames channel.name) ∧
    (CapturesParameters channel spec ↔ Address.IsRegular channel.name.toList) ∧
    (Address.IsRegular channel.name.toList →
      spec.captureNames = Address.parameterNames channel.name ∧
      (∃ path params, spec.pattern.matchPath? path = some params) ∧
      ∀ path params, spec.pattern.matchPath? path = some params →
        ∀ name, name ∈ Fields.keys (Fields.erase RoutePattern.remainderKey params) ↔
          name ∈ spec.requiredNames) := by
  intro spec
  have hdeclared := Document.mem_parameters_iff h hchannel
  have hregular : CapturesParameters channel spec ↔ Address.IsRegular channel.name.toList :=
    capturesParameters_iff hdeclared
  have hrequired := requiredNames_ofOperation channel operation
  refine ⟨?_, hrequired, hdeclared, hregular,
    fun haddress => ⟨?_, ?_, fun path params hpath name => ?_⟩⟩
  · refine List.mem_filterMap.2 ⟨channel, hchannel, ?_⟩
    simp [hpublish, spec]
  · rw [captureNames_ofOperation,
      Address.captures_routeOfAddress _ haddress.named haddress.delimited]
    rfl
  · obtain ⟨params, hparams⟩ := Option.isSome_iff_exists.1
      (RoutePattern.matchPath?_self spec.route.toList)
    exact ⟨_, params, hparams⟩
  · rw [hrequired]
    exact (hregular.2 haddress).mem_keys hpath name

def userDescription (address parameter : String) : Json :=
  Document.describing
    [(address, .object
      [("parameters", .object [(parameter, .object [])]),
        ("publish", .object [("operationId", .string "onUser")])])] []

def userChannel (address parameter : String) : Channel :=
  { name := address
    description := none
    parameters := [⟨parameter, none, .object [], none⟩]
    publish := some ⟨some "onUser", none, [], none, Document.emptyMessage, []⟩
    subscribe := none }

theorem exists_document_userDescription (address parameter : String)
    (haddress : Address.parameterNames address = [parameter]) :
    ∃ document channel operation,
      Document.ofJson (userDescription address parameter) = .ok document ∧
      channel ∈ document.channels ∧ channel.publish = some operation ∧ channel.name = address ∧
      channel.parameters.map (·.name) = [parameter] := by
  let fields : Fields := [("parameters", .object [(parameter, .object [])]),
    ("publish", .object [("operationId", .string "onUser")])]
  have hresolved : resolveReferences (userDescription address parameter) (.object fields) =
      .ok (.object fields) := by
    apply Reference.resolveReferences_self
    simp only [fields, Json.references, Json.referencesOfFields, Json.string?,
      Option.toList_none, ite_self, List.append_nil]
    rfl
  have hread : Document.readChannel address (.object fields) =
      pure (some (userChannel address parameter)) := by
    refine Document.readChannel_eq_some.2 ⟨fields, rfl, rfl, rfl, fun placeholder => ?_,
      Document.readOperation_eq_pure rfl rfl (by decide), rfl, rfl⟩
    rw [haddress]
    rfl
  obtain ⟨document, hdocument, hchannels⟩ := Document.ofJson_describing_one hresolved hread rfl
  let published := Document.annotateOperation (userChannel address parameter).publish 0
  refine ⟨document, { userChannel address parameter with publish := published.1 }, _, hdocument, ?_,
    rfl, rfl, rfl⟩
  rw [hchannels]
  exact List.mem_singleton.2 rfl

/-- The pattern of a regular address captures its parameter. -/
theorem route_captures_parameters_of_id : ∃ document channel operation,
    Document.ofJson (userDescription "users/\x7bid\x7d" "id") = .ok document ∧
    channel ∈ document.channels ∧ channel.publish = some operation ∧
    (ofOperation channel operation).captureNames = ["id"] := by
  obtain ⟨document, channel, operation, hdocument, hchannel, hpublish, hname, -⟩ :=
    exists_document_userDescription "users/\x7bid\x7d" "id" (by decide +kernel)
  have hnames : Address.placeholders channel.name.toList = [['i', 'd']] := by
    rw [hname]
    decide +kernel
  have houtline : Address.outline channel.name.toList = ['u', 's', 'e', 'r', 's', '/', ':'] := by
    rw [hname]
    decide +kernel
  have hregular : Address.IsRegular channel.name.toList := by
    refine ⟨?_, ?_, ?_, ?_⟩
    · rw [Address.Named, hnames, List.forall_mem_singleton, List.forall_mem_cons,
        List.forall_mem_singleton]
      decide
    · rw [hnames]
      decide
    · rw [hnames]
      decide
    · rw [houtline, Piece.Bare]
      decide
  obtain ⟨-, -, -, -, h⟩ := route_captures_parameters hdocument hchannel hpublish
  refine ⟨document, channel, operation, hdocument, hchannel, hpublish, ?_⟩
  rw [(h hregular).1, hname]
  decide +kernel

/-- A hyphen ends the name of a capture: the route of an accepted document captures another name
than the one that is declared and required, and does not match the paths of its address. -/
theorem route_of_hyphenated_name : ∃ document channel operation,
    Document.ofJson (userDescription "users/\x7buser-id\x7d" "user-id") = .ok document ∧
    channel ∈ document.channels ∧ channel.publish = some operation ∧
    ¬ CapturesParameters channel (ofOperation channel operation) ∧
    (ofOperation channel operation).requiredNames = ["user-id"] ∧
    (ofOperation channel operation).captureNames = ["user"] ∧
    (ofOperation channel operation).pattern.matchPath? "/users/42".toList = none := by
  obtain ⟨document, channel, operation, hdocument, hchannel, hpublish, hname, hdeclared⟩ :=
    exists_document_userDescription "users/\x7buser-id\x7d" "user-id" (by decide +kernel)
  have hroute : (ofOperation channel operation).route = "users/:user-id" := by
    have hof : (ofOperation channel operation).route =
        String.ofList (routeOfAddress channel.name.toList) := rfl
    rw [hof, hname]
    decide +kernel
  have hcaptures : (ofOperation channel operation).captureNames = ["user"] := by
    rw [captureNames, pattern, hroute]
    decide +kernel
  refine ⟨document, channel, operation, hdocument, hchannel, hpublish, ?_, ?_, hcaptures, ?_⟩
  · intro h
    have hsame := h.same "user"
    rw [hcaptures, hdeclared] at hsame
    exact absurd (hsame.1 (by decide)) (by decide)
  · rw [requiredNames_ofOperation, hdeclared]
  · rw [pattern, hroute]
    decide +kernel

end ChannelGateway
