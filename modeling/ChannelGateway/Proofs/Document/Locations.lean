import ChannelGateway.Proofs.Document.Acceptance
import ChannelGateway.Proofs.Document.Inlining
import ChannelGateway.Proofs.Json.Fields
import ChannelGateway.Proofs.Json.Pointer
/-!
# Where issues are located

Whatever is noted about a channel is located at the channel or below it.  The text of such a
location begins with the channel's own pointer, so the channel can be told from the text alone,
whichever characters its key is made of.
-/

namespace ChannelGateway

namespace Checked

/-- Whatever is noted on the way to a value lies at a location or below it. -/
def Under {α : Type} (location : Location) (x : Checked α) : Prop :=
  ∀ issue ∈ x.issues, location <+: issue.location

section Under

variable {α β : Type} {location : Location}

theorem under_pure (a : α) : Under location (pure a : Checked α) := by
  intro issue hissue
  cases hissue

theorem under_wrong {below : Location} (h : location <+: below) (cause : IssueCause) (a : α) :
    Under location (wrong below cause a) := by
  intro issue hissue
  rw [issues_wrong, List.mem_singleton] at hissue
  subst hissue
  exact h

theorem Under.bind {x : Checked α} {f : α → Checked β} (hx : Under location x)
    (hf : ∀ a, Under location (f a)) : Under location (x >>= f) := by
  intro issue hissue
  rw [issues_bind, List.mem_append] at hissue
  rcases hissue with hissue | hissue
  · exact hx issue hissue
  · exact hf x.value issue hissue

theorem under_forList {read : α → Checked β} (h : ∀ a, Under location (read a)) (xs : List α) :
    Under location (forList read xs) := by
  intro issue hissue
  rw [issues_forList, List.mem_flatMap] at hissue
  obtain ⟨a, -, hissue⟩ := hissue
  exact h a issue hissue

theorem Under.above {x : Checked α} {above : Location} (h : Under location x)
    (habove : above <+: location) : Under above x :=
  fun issue hissue => habove.trans (h issue hissue)

end Under

end Checked

namespace Document

open Checked

/-! ## Reading one channel -/

section Parts

variable (location : Location)

theorem under_readParameters (channel : Fields) :
    Under location (readParameters location channel) := by
  unfold readParameters
  split
  · exact under_pure _
  · refine Under.bind (under_forList (fun field => ?_) _) fun _ => under_pure _
    split
    · exact under_pure _
    · exact under_wrong (List.prefix_append _ _) _ _
  · exact under_wrong (List.prefix_append _ _) _ _

theorem under_checkAddress (name : String) (parameters : List Parameter) :
    Under location (checkAddress location name parameters) := by
  refine Under.bind (under_forList (fun placeholder => ?_) _) fun _ =>
    Under.bind (under_forList (fun parameter => ?_) _) fun _ => under_pure _
  · split
    · exact under_pure _
    · exact under_wrong List.prefix_rfl _ _
  · split
    · exact under_pure _
    · exact under_wrong (List.prefix_append _ _) _ _

theorem under_readTags (operation : Fields) : Under location (readTags location operation) := by
  unfold readTags
  split
  · exact under_pure _
  · refine Under.bind (under_forList (fun tag => ?_) _) fun _ => under_pure _
    split
    · exact under_pure _
    · exact under_wrong (List.prefix_append _ _) _ _
  · exact under_wrong (List.prefix_append _ _) _ _

theorem under_readController (operation : Fields) :
    Under location (readController location operation) := by
  unfold readController
  split
  · exact under_pure _
  · exact under_pure _
  · exact under_wrong (List.prefix_append _ _) _ _

theorem under_readMessage (operation : Fields) :
    Under location (readMessage location operation) := by
  unfold readMessage
  split
  · exact under_pure _
  · split
    · exact under_wrong (List.prefix_append _ _) _ _
    · exact under_pure _
  · exact under_wrong (List.prefix_append _ _) _ _

theorem under_readOperation (value : Option Json) :
    Under location (readOperation location value) := by
  unfold readOperation
  split
  · exact under_pure _
  · next operation =>
      exact (under_readTags location operation).bind fun _ =>
        (under_readController location operation).bind fun _ =>
          (under_readMessage location operation).bind fun _ => under_pure _
  · exact under_wrong List.prefix_rfl _ _

end Parts

theorem under_readChannel (name : String) (resolved : Json) :
    Under (channelLocation name) (readChannel name resolved) := by
  have hoperation (key : String) (value : Option Json) :
      Under (channelLocation name) (readOperation (channelLocation name ++ [key]) value) :=
    (under_readOperation _ value).above (List.prefix_append _ _)
  unfold readChannel
  split
  · next channel =>
      exact (under_readParameters _ channel).bind fun parameters =>
        (under_checkAddress _ name parameters).bind fun _ =>
          (hoperation "publish" _).bind fun _ =>
            (hoperation "subscribe" _).bind fun _ => under_pure _
  · exact under_wrong List.prefix_rfl _ _

theorem name_of_readChannel {name : String} {resolved : Json} {channel : Channel}
    (h : (readChannel name resolved).value = some channel) : channel.name = name := by
  unfold readChannel at h
  split at h
  · cases h
    rfl
  · cases h

/-! ## Reading the channels -/

/-- What is read of one entry of the channels: no channel, if a reference in it leads
back to itself. -/
def readEntry (root : Json) (entry : String × Json) :
    Except DocumentError (Checked (Option Channel)) :=
  match resolveReferences root entry.2 with
  | .ok resolved => .ok (readChannel entry.1 resolved)
  | .error (.unresolved r) => .error (.unresolvedReference r)
  | .error (.circular r) => .ok (wrong (channelLocation entry.1) (.circularReference r) none)

section Entries

variable {root : Json} {entry : String × Json} {entries : Fields}

theorem under_readEntry {read : Checked (Option Channel)} (h : readEntry root entry = .ok read) :
    Under (channelLocation entry.1) read := by
  unfold readEntry at h
  split at h
  · cases h
    exact under_readChannel _ _
  · cases h
  · cases h
    exact under_wrong List.prefix_rfl _ _

theorem name_of_readEntry {read : Checked (Option Channel)} (h : readEntry root entry = .ok read)
    {channel : Channel} (hchannel : read.value = some channel) : channel.name = entry.1 := by
  unfold readEntry at h
  split at h
  · cases h
    exact name_of_readChannel hchannel
  · cases h
  · cases h
    cases hchannel

theorem readChannels_cons :
    readChannels root (entry :: entries) =
      match readEntry root entry with
      | .error e => .error e
      | .ok first =>
        match readChannels root entries with
        | .error e => .error e
        | .ok others =>
          .ok ⟨first.value.toList ++ others.value, first.issues ++ others.issues⟩ := by
  rw [readChannels, readEntry]
  cases resolveReferences root entry.2 with
  | ok resolved =>
      cases readChannels root entries with
      | error e => rfl
      | ok others => simp [bind]
  | error e =>
      cases e with
      | unresolved r => rfl
      | circular r =>
          cases readChannels root entries with
          | error e => rfl
          | ok others => simp [bind]

theorem readChannels_cons_eq_ok {read : Checked (List Channel)} :
    readChannels root (entry :: entries) = .ok read ↔
      ∃ first others, readEntry root entry = .ok first ∧ readChannels root entries = .ok others ∧
        ⟨first.value.toList ++ others.value, first.issues ++ others.issues⟩ = read := by
  rw [readChannels_cons]
  cases readEntry root entry with
  | error e => simp
  | ok first =>
      cases readChannels root entries with
      | error e => simp
      | ok others => simp

theorem readChannels_eq_error {e : DocumentError} (h : readChannels root entries = .error e) :
    ∃ reference, e = .unresolvedReference reference := by
  induction entries with
  | nil => cases h
  | cons entry rest ih =>
      rw [readChannels_cons] at h
      split at h
      · next error hentry =>
          cases h
          unfold readEntry at hentry
          split at hentry
          · cases hentry
          · next reference _ =>
              cases hentry
              exact ⟨reference, rfl⟩
          · cases hentry
      · split at h
        · next error hrest =>
            cases h
            exact ih hrest
        · cases h

/-- What is noted while the channels are read is noted while one of them is. -/
theorem mem_issues_readChannels {read : Checked (List Channel)}
    (h : readChannels root entries = .ok read) {issue : Issue} :
    issue ∈ read.issues ↔
      ∃ entry ∈ entries, ∃ first, readEntry root entry = .ok first ∧ issue ∈ first.issues := by
  induction entries generalizing read with
  | nil =>
      cases h
      simp
  | cons entry rest ih =>
      obtain ⟨first, others, hfirst, hothers, rfl⟩ := readChannels_cons_eq_ok.1 h
      rw [List.mem_append, ih hothers, List.exists_mem_cons_iff]
      simp [hfirst]

end Entries

/-! ## Comparing operation ids -/

/-- The operation ids that are known with their first places after more of them were compared. -/
def remember (seen : List (String × Location)) : List (String × Location) → List (String × Location)
  | [] => seen
  | (id, location) :: rest =>
    match seen.lookup id with
    | some _ => remember seen rest
    | none => remember (seen ++ [(id, location)]) rest

theorem remember_append (seen ids more : List (String × Location)) :
    remember seen (ids ++ more) = remember (remember seen ids) more := by
  induction ids generalizing seen with
  | nil => rfl
  | cons first rest ih =>
      rw [List.cons_append, remember, remember]
      split
      · exact ih seen
      · exact ih _

theorem issues_checkOperationIds_append (seen ids more : List (String × Location)) :
    (checkOperationIds seen (ids ++ more)).issues =
      (checkOperationIds seen ids).issues ++
        (checkOperationIds (remember seen ids) more).issues := by
  induction ids generalizing seen with
  | nil => rfl
  | cons first rest ih =>
      rw [List.cons_append, checkOperationIds, checkOperationIds, remember]
      cases seen.lookup first.1 with
      | some earlier => simp only [issues_bind, ih, List.append_assoc]
      | none => exact ih _

/-- An issue about an operation id is located at an operation that has it. -/
theorem location_of_mem_checkOperationIds {seen ids : List (String × Location)} {issue : Issue}
    (h : issue ∈ (checkOperationIds seen ids).issues) : issue.location ∈ ids.map Prod.snd := by
  induction ids generalizing seen with
  | nil => cases h
  | cons first rest ih =>
      rw [checkOperationIds] at h
      rw [List.map_cons, List.mem_cons]
      split at h
      · rw [issues_bind, issues_wrong, List.mem_append, List.mem_singleton] at h
        rcases h with rfl | h
        · exact Or.inl rfl
        · exact Or.inr (ih h)
      · exact Or.inr (ih h)

theorem prefix_of_mem_operationIds {channels : List Channel} {location : Location}
    (h : location ∈ (operationIds channels).map Prod.snd) :
    ∃ channel ∈ channels, channelLocation channel.name <+: location := by
  obtain ⟨⟨id, _⟩, hmem, rfl⟩ := List.mem_map.1 h
  obtain ⟨channel, hchannel, hmem⟩ := List.mem_flatMap.1 hmem
  obtain ⟨⟨kind, operation⟩, -, hsome⟩ := List.mem_filterMap.1 hmem
  obtain ⟨_, -, heq⟩ := Option.map_eq_some_iff.1 hsome
  cases heq
  exact ⟨channel, hchannel, List.prefix_append _ _⟩

section Comparing

variable {root : Json} {entry : String × Json} {entries : Fields} {issue : Issue}

/-- An issue about an operation id is noted at one of the entries, of which those before it say
what is known by then. -/
theorem mem_issues_checkOperationIds {read : Checked (List Channel)}
    (h : readChannels root entries = .ok read) {seen : List (String × Location)} :
    issue ∈ (checkOperationIds seen (operationIds read.value)).issues ↔
      ∃ before entry after earlier own, entries = before ++ entry :: after ∧
        readChannels root before = .ok earlier ∧ readEntry root entry = .ok own ∧
        issue ∈ (checkOperationIds (remember seen (operationIds earlier.value))
          (operationIds own.value.toList)).issues := by
  induction entries generalizing read seen with
  | nil =>
      cases h
      simp [checkOperationIds, operationIds]
  | cons first rest ih =>
      obtain ⟨own, others, hown, hothers, rfl⟩ := readChannels_cons_eq_ok.1 h
      have hids (later : List Channel) :
          operationIds (own.value.toList ++ later) =
            operationIds own.value.toList ++ operationIds later := List.flatMap_append
      simp only [hids, issues_checkOperationIds_append, List.mem_append, ih hothers]
      -- What the first entry brings is remembered when its successors are compared.
      constructor
      · rintro (hissue | ⟨before, entry, after, earlier, its, rfl, hearlier, hits, hissue⟩)
        · exact ⟨[], first, rest, pure [], own, rfl, rfl, hown, hissue⟩
        · refine ⟨first :: before, entry, after, _, its, rfl,
            readChannels_cons_eq_ok.2 ⟨own, earlier, hown, hearlier, rfl⟩, hits, ?_⟩
          simp only [hids, remember_append]
          exact hissue
      · rintro ⟨before, entry, after, earlier, its, hsplit, hearlier, hits, hissue⟩
        cases before with
        | nil =>
            cases hsplit
            cases hearlier
            cases hown.symm.trans hits
            exact Or.inl hissue
        | cons _ before =>
            cases hsplit
            obtain ⟨_, later, hfirst, hlater, rfl⟩ := readChannels_cons_eq_ok.1 hearlier
            cases hown.symm.trans hfirst
            simp only [hids, remember_append] at hissue
            exact Or.inr ⟨before, entry, after, later, its, rfl, hlater, hits, hissue⟩

end Comparing

/-! ## Issues of a document -/

def channelEntries (root : Json) : Fields := ((root.get? "channels").bind Json.fields?).getD []

/-- An issue is raised for an entry of the channels: while the entry is read, or while
the operation ids of its channel are compared with each other and with those of the
entries before it. -/
inductive RaisedFor (root : Json) (entry : String × Json) (issue : Issue) : Prop
  | reading {own : Checked (Option Channel)} (hmem : entry ∈ channelEntries root)
      (hown : readEntry root entry = .ok own) (hissue : issue ∈ own.issues)
  | comparing {before after : Fields} {earlier : Checked (List Channel)}
      {own : Checked (Option Channel)} (hsplit : channelEntries root = before ++ entry :: after)
      (hearlier : readChannels root before = .ok earlier) (hown : readEntry root entry = .ok own)
      (hissue : issue ∈ (checkOperationIds (remember [] (operationIds earlier.value))
        (operationIds own.value.toList)).issues)

section Raised

variable {root : Json} {entry : String × Json} {issue : Issue}

theorem RaisedFor.mem_channelEntries (h : RaisedFor root entry issue) :
    entry ∈ channelEntries root := by
  cases h with
  | reading hmem => exact hmem
  | comparing hsplit =>
      rw [hsplit]
      exact List.mem_append_right _ List.mem_cons_self

theorem RaisedFor.located (h : RaisedFor root entry issue) :
    channelLocation entry.1 <+: issue.location := by
  cases h with
  | reading _ hown hissue => exact under_readEntry hown issue hissue
  | comparing _ _ hown hissue =>
      obtain ⟨channel, hchannel, hbelow⟩ :=
        prefix_of_mem_operationIds (location_of_mem_checkOperationIds hissue)
      rwa [name_of_readEntry hown (Option.mem_toList.1 hchannel)] at hbelow

end Raised

def ownLocations : List Location := [[], ["info"], ["channels"]]

theorem text_of_mem_ownLocations {location : Location} (h : location ∈ ownLocations) :
    location.text ∈ ["/", "/info", "/channels"] := by
  revert h location
  decide

theorem location_checkRootKeys {fields : Fields} {issue : Issue}
    (h : issue ∈ (checkRootKeys fields).issues) : issue.location ∈ ownLocations := by
  rw [checkRootKeys, issues_bind, issues_pure, List.append_nil, issues_forList,
    List.mem_flatMap] at h
  obtain ⟨field, -, h⟩ := h
  split at h
  · cases h
  · rw [issues_wrong, List.mem_singleton] at h
    subst h
    exact List.mem_cons_self

theorem location_readInfo {fields : Fields} {issue : Issue} (h : issue ∈ (readInfo fields).issues) :
    issue.location ∈ ownLocations := by
  have hinfo : ["info"] ∈ ownLocations := by decide
  have hrequired {info : Fields} {key : String} {cause : IssueCause}
      (h : issue ∈ (readRequired info key ["info"] cause).issues) :
      issue.location ∈ ownLocations := by
    unfold readRequired at h
    split at h
    · cases h
    · rw [issues_wrong, List.mem_singleton] at h
      subst h
      exact hinfo
  unfold readInfo at h
  split at h
  · rw [issues_wrong, List.mem_singleton] at h
    subst h
    exact List.mem_cons_self
  · simp only [issues_bind, issues_pure, List.append_nil, List.mem_append] at h
    exact h.elim hrequired hrequired

section Channels

variable {fields : Fields}

theorem channelEntries_object {entries : Fields}
    (h : fields.lookup "channels" = some (.object entries)) :
    channelEntries (.object fields) = entries := by
  simp [channelEntries, Json.get?, h, Json.fields?]

theorem channelEntries_of_ne (h : ∀ entries, fields.lookup "channels" ≠ some (.object entries)) :
    channelEntries (.object fields) = [] := by
  rw [channelEntries, Json.get?]
  cases hlookup : fields.lookup "channels" with
  | none => rfl
  | some value =>
      cases value with
      | object entries => exact absurd hlookup (h entries)
      | _ => rfl

theorem exists_of_mem_channelEntries {root : Json} {entry : String × Json}
    (h : entry ∈ channelEntries root) :
    ∃ fields entries, root = .object fields ∧ fields.lookup "channels" = some (.object entries) ∧
      entry ∈ entries := by
  cases root with
  | object fields =>
      by_cases hobject : ∃ entries, fields.lookup "channels" = some (.object entries)
      · obtain ⟨entries, hentries⟩ := hobject
        rw [channelEntries_object hentries] at h
        exact ⟨fields, entries, rfl, hentries, h⟩
      · rw [channelEntries_of_ne (not_exists.1 hobject)] at h
        cases h
  | _ => cases h

/-- The channels are read from their entries, of which there are none where something else stands in
place of the object of channels. -/
theorem exists_readChannels {checked : Checked (List Channel)}
    (h : readChannelsOf (.object fields) fields = .ok checked) :
    ∃ read own, readChannels (.object fields) (channelEntries (.object fields)) = .ok read ∧
      checked = ⟨read.value, own ++ read.issues⟩ ∧
        ∀ issue ∈ own, issue.location ∈ ownLocations := by
  unfold readChannelsOf at h
  split at h
  · next entries hentries =>
      rw [channelEntries_object hentries]
      exact ⟨checked, [], h, rfl, by simp⟩
  · next value hvalue hlookup =>
      have hnone : channelEntries (.object fields) = [] :=
        channelEntries_of_ne fun entries hentries =>
          hvalue entries (Option.some.inj (hlookup.symm.trans hentries))
      cases h
      rw [hnone]
      exact ⟨pure [], [⟨["channels"], .notAnObject⟩], rfl, rfl, by decide⟩
  · next hlookup =>
      have hnone : channelEntries (.object fields) = [] :=
        channelEntries_of_ne fun entries hentries => by simp [hlookup] at hentries
      cases h
      rw [hnone]
      exact ⟨pure [], [⟨[], .missingChannels⟩], rfl, rfl, by decide⟩

theorem readChannelsOf_ne_invalid {root : Json} (issues : List Issue) :
    readChannelsOf root fields ≠ .error (.invalid issues) := by
  intro h
  unfold readChannelsOf at h
  split at h
  · obtain ⟨_, hreference⟩ := readChannels_eq_error h
    cases hreference
  · cases h
  · cases h

end Channels

def issuesOf (fields : Fields) (checked : Checked (List Channel)) : List Issue :=
  (checkRootKeys fields).issues ++ ((readInfo fields).issues ++
    (checked.issues ++ (checkOperationIds [] (operationIds checked.value)).issues))

theorem ofJson_object {fields : Fields} {version : String} {checked : Checked (List Channel)}
    (hversion : readVersion fields = .ok version)
    (hchannels : readChannelsOf (.object fields) fields = .ok checked) :
    ofJson (.object fields) =
      if issuesOf fields checked = [] then .ok (assemble fields version checked.value)
      else .error (.invalid (issuesOf fields checked)) := by
  simp only [ofJson, readObject, hversion, hchannels, issues_bind, issues_pure, List.append_nil,
    List.isEmpty_iff]
  rfl

/-- A value is rejected with the issues of its parts, if nothing else ends the reading. -/
theorem ofJson_eq_invalid {root : Json} {issues : List Issue} :
    ofJson root = .error (.invalid issues) ↔
      ∃ fields version checked, root = .object fields ∧ readVersion fields = .ok version ∧
        readChannelsOf root fields = .ok checked ∧ issuesOf fields checked = issues ∧
          issues ≠ [] := by
  constructor
  · intro h
    cases root with
    | object fields =>
        cases hversion : readVersion fields with
        | error e => simp [ofJson, hversion] at h
        | ok version =>
            cases hchannels : readChannelsOf (.object fields) fields with
            | error e =>
                simp only [ofJson, readObject, hversion, hchannels, Except.error.injEq] at h
                subst h
                exact absurd hchannels (readChannelsOf_ne_invalid issues)
            | ok checked =>
                rw [ofJson_object hversion hchannels] at h
                split at h
                · cases h
                · next hne =>
                    cases h
                    exact ⟨fields, version, checked, rfl, hversion, hchannels, rfl, hne⟩
    | _ => cases h
  · rintro ⟨fields, version, checked, rfl, hversion, hchannels, rfl, hne⟩
    rw [ofJson_object hversion hchannels, if_neg hne]

/-- The issues of a document are those of the root and those that are raised for the entries of its
channels. -/
theorem mem_issues_iff {root : Json} {issues : List Issue}
    (h : ofJson root = .error (.invalid issues)) :
    ∃ own : List Issue, (∀ issue ∈ own, issue.location ∈ ownLocations) ∧
      ∀ issue, issue ∈ issues ↔ issue ∈ own ∨ ∃ entry, RaisedFor root entry issue := by
  obtain ⟨fields, version, checked, rfl, -, hchecked, rfl, -⟩ := ofJson_eq_invalid.1 h
  obtain ⟨read, own, hread, rfl, hown⟩ := exists_readChannels hchecked
  refine ⟨(checkRootKeys fields).issues ++ ((readInfo fields).issues ++ own), ?_, fun issue => ?_⟩
  · intro issue hissue
    simp only [List.mem_append] at hissue
    rcases hissue with hissue | hissue | hissue
    · exact location_checkRootKeys hissue
    · exact location_readInfo hissue
    · exact hown issue hissue
  · have hraised :
      (issue ∈ read.issues ∨ issue ∈ (checkOperationIds [] (operationIds read.value)).issues) ↔
        ∃ entry, RaisedFor (.object fields) entry issue := by
      rw [mem_issues_readChannels hread, mem_issues_checkOperationIds hread]
      constructor
      · rintro (⟨entry, hmem, own, hown, hissue⟩ |
          ⟨before, entry, after, earlier, own, hsplit, hearlier, hown, hissue⟩)
        · exact ⟨entry, .reading hmem hown hissue⟩
        · exact ⟨entry, .comparing hsplit hearlier hown hissue⟩
      · rintro ⟨entry, hraised⟩
        cases hraised with
        | reading hmem hown hissue => exact Or.inl ⟨entry, hmem, _, hown, hissue⟩
        | comparing hsplit hearlier hown hissue =>
            exact Or.inr ⟨_, entry, _, _, _, hsplit, hearlier, hown, hissue⟩
    rw [← hraised]
    simp only [issuesOf, List.mem_append, or_assoc]

/-! ## Texts of locations -/

/-- The text of a location begins with the pointer of an entry of the channels: two
tokens that stand for `channels` and for the entry's key, and that lead from the root to
what the entry holds. -/
def LeadsTo (root : Json) (entry : String × Json) (location : List Char) : Prop :=
  ∃ first second others, location.splitOn '/' = [] :: first :: second :: others ∧
    Pointer.decodeToken first = "channels".toList ∧ Pointer.decodeToken second = entry.1.toList ∧
    '/' :: first ++ '/' :: second <+: location ∧
    Pointer.lookup? ('/' :: first ++ '/' :: second) root = some entry.2

theorem LeadsTo.unique {root : Json} {entry other : String × Json} {location : List Char}
    (h : LeadsTo root entry location) (hother : LeadsTo root other location) : entry = other := by
  obtain ⟨first, second, others, hsplit, -, hkey, -, hvalue⟩ := h
  obtain ⟨_, _, _, hsplit', -, hkey', -, hvalue'⟩ := hother
  cases hsplit.symm.trans hsplit'
  exact Prod.ext (String.toList_injective (hkey.symm.trans hkey'))
    (Option.some.inj (hvalue.symm.trans hvalue'))

theorem foldlM_step?_channelLocation {root : Json}
    (hdistinct : (Fields.keys (channelEntries root)).Nodup) {entry : String × Json}
    (h : entry ∈ channelEntries root) :
    (channelLocation entry.1).foldlM Pointer.step? root = some entry.2 := by
  obtain ⟨fields, entries, rfl, hentries, hmem⟩ := exists_of_mem_channelEntries h
  rw [channelEntries_object hentries] at hdistinct
  simp [channelLocation, Pointer.step?, hentries, Fields.lookup_of_mem hdistinct hmem]

theorem leadsTo_of_below {root : Json} (hdistinct : (Fields.keys (channelEntries root)).Nodup)
    {entry : String × Json} (h : entry ∈ channelEntries root) {location : Location}
    (hbelow : channelLocation entry.1 <+: location) : LeadsTo root entry location.text.toList := by
  obtain ⟨rest, rfl⟩ := hbelow
  have htext : Location.text (channelLocation entry.1 ++ rest) =
      Pointer.text (channelLocation entry.1 ++ rest) := rfl
  have hpointer : (Pointer.text (channelLocation entry.1)).toList =
      '/' :: Pointer.escape "channels".toList ++ '/' :: Pointer.escape entry.1.toList := by
    simp [Pointer.toList_text, channelLocation]
  have hdecode (token : String) : Pointer.decodeToken (Pointer.escape token.toList) =
      token.toList := by
    rw [← Pointer.unescape_eq_decodeToken, Pointer.unescape_escape]
  rw [htext]
  refine ⟨_, _, _, Pointer.splitOn_text _, hdecode _, hdecode _, ?_, ?_⟩
  · rw [← hpointer, Pointer.toList_text, Pointer.toList_text, List.flatMap_append]
    exact List.prefix_append _ _
  · rw [← hpointer, Pointer.lookup?_text, foldlM_step?_channelLocation hdistinct h]

/-- Every issue of a document that is noted about a channel, an operation, a parameter or an
operation id of it names the channel.  The keys of the channels are distinct, as those of all
objects that are read. -/
theorem issues_name_their_channel {root : Json} {issues : List Issue}
    (h : ofJson root = .error (.invalid issues))
    (hdistinct : (Fields.keys (channelEntries root)).Nodup) :
    (∀ issue ∈ issues, issue.location.text ∈ ["/", "/info", "/channels"] ∨
      ∃ entry, RaisedFor root entry issue) ∧
    (∀ entry issue, RaisedFor root entry issue →
      issue ∈ issues ∧ LeadsTo root entry issue.location.text.toList) ∧
    ∀ entry issue other otherIssue, RaisedFor root entry issue → RaisedFor root other otherIssue →
      entry ≠ other → issue.location.text ≠ otherIssue.location.text := by
  obtain ⟨own, hown, hissues⟩ := mem_issues_iff h
  have hleads {entry : String × Json} {issue : Issue} (hraised : RaisedFor root entry issue) :
      LeadsTo root entry issue.location.text.toList :=
    leadsTo_of_below hdistinct hraised.mem_channelEntries hraised.located
  refine ⟨fun issue hissue => ?_, fun entry issue hraised => ?_,
    fun entry issue other otherIssue hraised hraised' hne heq => ?_⟩
  · rcases (hissues issue).1 hissue with hissue | hraised
    · exact Or.inl (text_of_mem_ownLocations (hown issue hissue))
    · exact Or.inr hraised
  · exact ⟨(hissues issue).2 (Or.inr ⟨entry, hraised⟩), hleads hraised⟩
  · have hother := hleads hraised'
    rw [← heq] at hother
    exact hne ((hleads hraised).unique hother)

theorem ofJson_describing_eq_invalid {channels components : Fields} {read : Checked (List Channel)}
    {issues : List Issue}
    (hread : readChannels (describing channels components) channels = .ok read)
    (hissues : read.issues ++ (checkOperationIds [] (operationIds read.value)).issues = issues)
    (hne : issues ≠ []) : ofJson (describing channels components) = .error (.invalid issues) := by
  have hversion : readVersion (describingFields channels components) = .ok "2.6.0" := rfl
  have hkeys : (checkRootKeys (describingFields channels components)).issues = [] := rfl
  have hinfo : (readInfo (describingFields channels components)).issues = [] := rfl
  have hchannels : readChannelsOf (.object (describingFields channels components))
      (describingFields channels components) = .ok read := hread
  refine ofJson_eq_invalid.2 ⟨_, "2.6.0", read, rfl, hversion, hchannels, ?_, hne⟩
  rw [issuesOf, hkeys, hinfo, hissues, List.nil_append, List.nil_append]

theorem readEntry_of_references {root value : Json} {name : String} (h : value.references = []) :
    readEntry root (name, value) = .ok (readChannel name value) := by
  rw [readEntry, Reference.resolveReferences_self h]

def publishing (id : String) : Json := .object [("publish", .object [("operationId", .string id)])]

/-- Channels whose keys hold the characters of escapes, two of them with the same operation id. -/
def imitatingChannels : Fields :=
  [("", .object [("publish", .array [])]), ("/", publishing "x"), ("~1", publishing "x")]

def imitatingIssues : List Issue :=
  [⟨["channels", "", "publish"], .operationNotAnObject⟩,
    ⟨["channels", "~1", "publish"], .repeatedOperationId "x" "/channels/~1/publish"⟩]

theorem issues_name_their_channel_imitating :
    ofJson (describing imitatingChannels []) = .error (.invalid imitatingIssues) ∧
      (Fields.keys (channelEntries (describing imitatingChannels []))).Nodup ∧
      imitatingIssues.map (·.location.text) = ["/channels//publish", "/channels/~01/publish"] ∧
      ∀ issue ∈ imitatingIssues, ∃ entry ∈ imitatingChannels,
        LeadsTo (describing imitatingChannels []) entry issue.location.text.toList := by
  have hempty : readEntry (describing imitatingChannels []) ("", .object [("publish", .array [])]) =
      .ok ⟨some ⟨"", none, [], none, none⟩,
        [⟨["channels", "", "publish"], .operationNotAnObject⟩]⟩ := by
    have hissues : (readChannel "" (.object [("publish", .array [])])).issues =
        [⟨["channels", "", "publish"], .operationNotAnObject⟩] := by
      decide +kernel
    rw [readEntry_of_references rfl, ← hissues]
    rfl
  have hslash : readEntry (describing imitatingChannels []) ("/", publishing "x") =
      .ok ⟨some ⟨"/", none, [], some ⟨some "x", none, [], none, emptyMessage, []⟩, none⟩, []⟩ :=
    (readEntry_of_references rfl).trans
      (congrArg Except.ok (readChannel_eq_pure rfl (by decide +kernel)
      (readOperation_eq_pure rfl rfl (by decide)) rfl))
  have hescape : readEntry (describing imitatingChannels []) ("~1", publishing "x") =
      .ok ⟨some ⟨"~1", none, [], some ⟨some "x", none, [], none, emptyMessage, []⟩, none⟩, []⟩ :=
    (readEntry_of_references rfl).trans
      (congrArg Except.ok (readChannel_eq_pure rfl (by decide +kernel)
      (readOperation_eq_pure rfl rfl (by decide)) rfl))
  have hrejected : ofJson (describing imitatingChannels []) =
      .error (.invalid imitatingIssues) := by
    refine ofJson_describing_eq_invalid (readChannels_cons_eq_ok.2 ⟨_, _, hempty,
      readChannels_cons_eq_ok.2
        ⟨_, _, hslash, readChannels_cons_eq_ok.2 ⟨_, _, hescape, rfl, rfl⟩, rfl⟩,
      rfl⟩) ?_ (by decide)
    decide +kernel
  have hdistinct : (Fields.keys (channelEntries (describing imitatingChannels []))).Nodup := by
    decide
  have htexts : imitatingIssues.map (·.location.text) =
      ["/channels//publish", "/channels/~01/publish"] := by
    decide
  obtain ⟨hown, hraised, -⟩ := issues_name_their_channel hrejected hdistinct
  refine ⟨hrejected, hdistinct, htexts, fun issue hissue => ?_⟩
  rcases hown issue hissue with hroot | ⟨entry, hentry⟩
  · have hbelow : ∀ issue ∈ imitatingIssues, issue.location.text ∉ ["/", "/info", "/channels"] := by
      decide
    exact absurd hroot (hbelow issue hissue)
  · exact ⟨entry, hentry.mem_channelEntries, (hraised entry issue hentry).2⟩

end Document

end ChannelGateway
