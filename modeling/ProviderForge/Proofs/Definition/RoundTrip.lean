import ProviderForge.Definition.Load
import ProviderForge.Proofs.Definition.AttributeReading
import ProviderForge.Proofs.Json.Reader

namespace ProviderForge

open Document Result Assembly

section

variable {document : Document} {origin : Origin}

theorem PageHooks.read_members {hooks : PageHooks}
    (hholds : Holds document (.object
      [("read_model", .ofOption .string hooks.itemModel),
        ("read_init_loop", .ofOption .string hooks.initLoop),
        ("read_pre_iterate", .ofOption .string hooks.preIterate),
        ("read_post_iterate", .ofOption .string hooks.postIterate)])) :
    assembly.read origin {} document = .ok hooks := by
  have htakes : assembly.Takes {}
      [("read_model", .ofOption .string hooks.itemModel),
        ("read_init_loop", .ofOption .string hooks.initLoop),
        ("read_pre_iterate", .ofOption .string hooks.preIterate),
        ("read_post_iterate", .ofOption .string hooks.postIterate)] hooks :=
    .cons (by decide) (fun _ hvalue => by simp only [assembly, hvalue.optionalString_eq]; rfl)
      (.cons (by decide) (fun _ hvalue => by simp only [assembly, hvalue.optionalString_eq]; rfl)
        (.cons (by decide) (fun _ hvalue => by simp only [assembly, hvalue.optionalString_eq]; rfl)
          (.cons (by decide)
            (fun _ hvalue => by simp only [assembly, hvalue.optionalString_eq]; rfl) .nil)))
  exact htakes.read_eq (by simp) rfl hholds origin

theorem ReadStrategy.ofDocument_toJson {strategy : ReadStrategy}
    (hholds : Holds document strategy.toJson) : ofDocument origin document = .ok strategy := by
  cases strategy with
  | simple =>
      obtain ⟨content, htagged, hcontent⟩ := hholds.taggedChoice_eq (by simp) origin "ReadStrategy"
        (by decide : _ ∈ ["simple", "paginate"])
      cases hcontent
      simp [ofDocument, htagged, checkPlainChoice]
  | paginate hooks =>
      obtain ⟨content, htagged, hcontent⟩ := hholds.taggedChoice_eq (by simp) origin "ReadStrategy"
        (by decide : _ ∈ ["simple", "paginate"])
      simp [ofDocument, htagged, PageHooks.read_members hcontent]

theorem DataSourceApi.read_toJson {api : DataSourceApi} (hholds : Holds document api.toJson) :
    (assembly origin).read origin {} document = .ok api := by
  have hnames : ∀ {key : String},
      key ∈ ["model", "read_method", "read_request_attributes", "read_strategy"] →
        key ∈ (assembly origin).shape.names := fun hknown => hknown
  have htakes : (assembly origin).Takes {}
      [("model", .string api.model), ("read_method", .string api.readMethod),
        ("read_request_attributes", .strings api.readArguments),
        ("read_strategy", api.strategy.toJson)]
      ⟨some api.model, some api.readMethod, api.readArguments, api.strategy⟩ :=
    .cons (hnames (by decide)) (fun _ hvalue => by simp only [assembly, hvalue.string_eq]; rfl)
      (.cons (hnames (by decide)) (fun _ hvalue => by simp only [assembly, hvalue.string_eq]; rfl)
        (.cons (hnames (by decide))
          (fun _ hvalue => by simp only [assembly, hvalue.strings_eq]; rfl)
          (.cons (hnames (by decide))
            (fun _ hvalue => by
              simp only [assembly, ReadStrategy.ofDocument_toJson hvalue]; rfl)
            .nil)))
  exact htakes.read_eq (by simp) rfl hholds origin

theorem DataSource.read_options {isFilled : Bool}
    (hholds : Holds document (.object [("model_fillers", .bool isFilled)])) :
    optionsAssembly.read origin false document = .ok isFilled := by
  have htakes : optionsAssembly.Takes false [("model_fillers", .bool isFilled)] isFilled :=
    .cons (by decide) (fun _ hvalue => by simp only [optionsAssembly, hvalue.flag_eq]) .nil
  exact htakes.read_eq (by simp) rfl hholds origin

theorem DataSource.ofDocument_toJson {declared : DataSource} (horigin : origin ≠ .yaml)
    (hholds : Holds document declared.toJson) : ofDocument origin document = .ok declared := by
  have hnames : ∀ {key : String}, key ∈ ["name", "description", "api", "generate", "attributes"] →
      key ∈ (assembly origin).shape.names := fun hknown => hknown
  have htakes : (assembly origin).Takes {}
      [("name", .string declared.name), ("description", .string declared.description),
        ("api", declared.api.toJson),
        ("generate", .object [("model_fillers", .bool declared.modelFillers)]),
        ("attributes", .array (Attribute.listToJson declared.attributes))]
      ⟨some declared.name, some declared.description, some declared.api, declared.modelFillers,
        some declared.attributes⟩ :=
    .cons (hnames (by decide)) (fun _ hvalue => by simp only [assembly, hvalue.string_eq]; rfl)
      (.cons (hnames (by decide)) (fun _ hvalue => by simp only [assembly, hvalue.string_eq]; rfl)
        (.cons (hnames (by decide))
          (fun _ hvalue => by simp only [assembly, DataSourceApi.read_toJson hvalue]; rfl)
          (.cons (hnames (by decide))
            (fun _ hvalue => by simp only [assembly, read_options hvalue]; rfl)
            (.cons (hnames (by decide))
              (fun _ hvalue => by
                simp only [assembly, Attribute.listOfDocument_toJson horigin hvalue]; rfl)
              .nil))))
  exact htakes.read_eq (by simp) rfl hholds origin

theorem Operation.ofDocument_toJson {operation : Operation}
    (hholds : Holds document operation.toJson) : ofDocument origin document = .ok operation := by
  have htakes : assembly.Takes {}
      [("method", .string operation.method), ("request_attributes", .strings operation.arguments)]
      ⟨some operation.method, operation.arguments⟩ :=
    .cons (by decide) (fun _ hvalue => by simp only [assembly, hvalue.string_eq]; rfl)
      (.cons (by decide) (fun _ hvalue => by simp only [assembly, hvalue.strings_eq]; rfl) .nil)
  exact htakes.read_eq (by simp) rfl hholds origin

theorem ListRead.word32_toNat {word : UInt32} (hholds : Holds document (.integer word.toNat)) :
    word32 document = .ok word := by
  rw [word32, hholds.natural_eq word.toNat_lt]
  exact congrArg Except.ok word.ofNat_toNat

theorem ListRead.word64_toNat {word : UInt64} (hholds : Holds document (.integer word.toNat)) :
    word64 document = .ok word := by
  rw [word64, hholds.natural_eq word.toNat_lt]
  exact congrArg Except.ok word.ofNat_toNat

theorem ListRead.ofDocument_toJson {listed : ListRead} (hholds : Holds document listed.toJson) :
    ofDocument origin document = .ok listed := by
  have htakes : assembly.Takes {}
      [("read_model", .ofOption .string listed.itemModel),
        ("cursor_field", .string listed.cursorField),
        ("has_more_field", .string listed.hasMoreField),
        ("page_limit", .integer listed.pageLimit.toNat),
        ("retry_attempts", .integer listed.retryAttempts.toNat),
        ("retry_delay_secs", .integer listed.retryDelaySeconds.toNat),
        ("init_loop", .ofOption .string listed.initLoop),
        ("pre_iterate", .ofOption .string listed.preIterate),
        ("post_iterate", .ofOption .string listed.postIterate)] listed :=
    .cons (by decide) (fun _ hvalue => by simp only [assembly, hvalue.optionalString_eq]; rfl)
      (.cons (by decide) (fun _ hvalue => by simp only [assembly, hvalue.string_eq]; rfl)
        (.cons (by decide) (fun _ hvalue => by simp only [assembly, hvalue.string_eq]; rfl)
          (.cons (by decide) (fun _ hvalue => by simp only [assembly, word32_toNat hvalue]; rfl)
            (.cons (by decide) (fun _ hvalue => by simp only [assembly, word32_toNat hvalue]; rfl)
              (.cons (by decide) (fun _ hvalue => by simp only [assembly, word64_toNat hvalue]; rfl)
                (.cons (by decide)
                  (fun _ hvalue => by simp only [assembly, hvalue.optionalString_eq]; rfl)
                  (.cons (by decide)
                    (fun _ hvalue => by simp only [assembly, hvalue.optionalString_eq]; rfl)
                    (.cons (by decide)
                      (fun _ hvalue => by simp only [assembly, hvalue.optionalString_eq]; rfl)
                      .nil))))))))
  exact htakes.read_eq (by simp) rfl hholds origin

theorem ResourceApi.read_toJson {api : ResourceApi} (hholds : Holds document api.toJson) :
    (assembly origin).read origin {} document = .ok api := by
  have hnames : ∀ {key : String},
      key ∈ ["model", "create", "read", "paginated_read", "update", "delete"] →
        key ∈ (assembly origin).shape.names := fun hknown => hknown
  have hlistRead : ∀ {part : Document}, Holds part (.ofOption ListRead.toJson api.listRead) →
      part.optionally (ListRead.ofDocument origin) = .ok api.listRead := fun hpart =>
    hpart.optionally_eq (by simp [ListRead.toJson]) fun _ _ hread =>
      ListRead.ofDocument_toJson hread
  have hoperation : ∀ {part : Document} {operation : Option Operation},
      Holds part (.ofOption Operation.toJson operation) →
        part.optionally (Operation.ofDocument origin) = .ok operation := fun hpart =>
    hpart.optionally_eq (by simp [Operation.toJson]) fun _ _ hread =>
      Operation.ofDocument_toJson hread
  have htakes : (assembly origin).Takes {}
      [("model", .ofOption .string api.model), ("create", api.create.toJson),
        ("read", api.read.toJson), ("paginated_read", .ofOption ListRead.toJson api.listRead),
        ("update", .ofOption Operation.toJson api.update),
        ("delete", .ofOption Operation.toJson api.delete)]
      ⟨api.model, some api.create, some api.read, api.listRead, api.update, api.delete⟩ :=
    .cons (hnames (by decide))
      (fun _ hvalue => by simp only [assembly, hvalue.optionalString_eq]; rfl)
      (.cons (hnames (by decide))
        (fun _ hvalue => by simp only [assembly, Operation.ofDocument_toJson hvalue]; rfl)
        (.cons (hnames (by decide))
          (fun _ hvalue => by simp only [assembly, Operation.ofDocument_toJson hvalue]; rfl)
          (.cons (hnames (by decide))
            (fun _ hvalue => by simp only [assembly, hlistRead hvalue]; rfl)
            (.cons (hnames (by decide))
              (fun _ hvalue => by simp only [assembly, hoperation hvalue]; rfl)
              (.cons (hnames (by decide))
                (fun _ hvalue => by simp only [assembly, hoperation hvalue]; rfl)
                .nil)))))
  exact htakes.read_eq (by simp) rfl hholds origin

theorem Resource.ofDocument_toJson {declared : Resource} (horigin : origin ≠ .yaml)
    (hholds : Holds document declared.toJson) : ofDocument origin document = .ok declared := by
  have hnames : ∀ {key : String},
      key ∈ ["name", "description", "api", "import_state_attributes", "attributes"] →
        key ∈ (assembly origin).shape.names := fun hknown => hknown
  have htakes : (assembly origin).Takes {}
      [("name", .string declared.name), ("description", .string declared.description),
        ("api", declared.api.toJson),
        ("import_state_attributes", .strings declared.importAttributes),
        ("attributes", .array (Attribute.listToJson declared.attributes))]
      ⟨some declared.name, some declared.description, some declared.api, declared.importAttributes,
        some declared.attributes⟩ :=
    .cons (hnames (by decide)) (fun _ hvalue => by simp only [assembly, hvalue.string_eq]; rfl)
      (.cons (hnames (by decide)) (fun _ hvalue => by simp only [assembly, hvalue.string_eq]; rfl)
        (.cons (hnames (by decide))
          (fun _ hvalue => by simp only [assembly, ResourceApi.read_toJson hvalue]; rfl)
          (.cons (hnames (by decide))
            (fun _ hvalue => by simp only [assembly, hvalue.strings_eq]; rfl)
            (.cons (hnames (by decide))
              (fun _ hvalue => by
                simp only [assembly, Attribute.listOfDocument_toJson horigin hvalue]; rfl)
              .nil))))
  exact htakes.read_eq (by simp) rfl hholds origin

theorem Definitions.ofDocument_toJson {definitions : Definitions} (horigin : origin ≠ .yaml)
    (hholds : Holds document definitions.toJson) :
    ofDocument origin document = .ok definitions := by
  have hnames : ∀ {key : String}, key ∈ ["data_sources", "resources"] →
      key ∈ (assembly origin).shape.names := fun hknown => hknown
  have htakes : (assembly origin).Takes {}
      [("data_sources", .array (definitions.dataSources.map (·.toJson))),
        ("resources", .array (definitions.resources.map (·.toJson)))] definitions :=
    .cons (hnames (by decide))
      (fun _ hvalue => by
        have hlist := hvalue.list_eq fun _ _ _ hpart => DataSource.ofDocument_toJson horigin hpart
        simp only [assembly, hlist]; rfl)
      (.cons (hnames (by decide))
        (fun _ hvalue => by
          have hlist := hvalue.list_eq fun _ _ _ hpart => Resource.ofDocument_toJson horigin hpart
          simp only [assembly, hlist]; rfl)
        .nil)
  exact htakes.read_eq (by simp) rfl hholds origin

end

/-! The integers of definitions are page limits, counts and delays of at most 64 bits. -/

namespace Json

theorem membersHaveWords_append {members others : List (String × Json)} :
    MembersHaveWords (members ++ others) ↔ MembersHaveWords members ∧ MembersHaveWords others := by
  induction members with
  | nil => simp [MembersHaveWords]
  | cons member members ih => simp [MembersHaveWords, ih, and_assoc]

theorem itemsHaveWords_map {α : Type} {encode : α → Json} {values : List α}
    (hvalues : ∀ value ∈ values, (encode value).HasWords) : ItemsHaveWords (values.map encode) := by
  induction values with
  | nil => exact trivial
  | cons value values ih =>
      exact ⟨hvalues value (by simp), ih fun other hmem => hvalues other (by simp [hmem])⟩

@[simp]
theorem strings_hasWords (values : List String) : (strings values).HasWords :=
  itemsHaveWords_map fun _ _ => trivial

theorem ofOption_hasWords {α : Type} {encode : α → Json} (hencode : ∀ part, (encode part).HasWords)
    (value : Option α) : (ofOption encode value).HasWords := by
  cases value with
  | none => exact trivial
  | some part => exact hencode part

theorem optionalText_hasWords : ∀ text : Option String, (ofOption .string text).HasWords :=
  ofOption_hasWords fun _ => trivial

theorem optionalMember_haveWords {α : Type} {encode : α → Json} (key : String) (value : Option α)
    (hencode : ∀ part, (encode part).HasWords) :
    MembersHaveWords (optionalMember key encode value) := by
  cases value with
  | none => exact trivial
  | some part => exact ⟨hencode part, trivial⟩

theorem listMember_haveWords (key : String) (values : List String) :
    MembersHaveWords (listMember key values) := by
  cases values with
  | nil => exact trivial
  | cons value values => exact ⟨strings_hasWords _, trivial⟩

end Json

open Json

theorem AttributeOptions.members_haveWords (options : AttributeOptions) :
    MembersHaveWords options.members := by
  simp only [members, membersHaveWords_append]
  refine ⟨⟨⟨⟨⟨⟨⟨⟨⟨⟨?_, ?_⟩, ?_⟩, ?_⟩, ?_⟩, ?_⟩, ?_⟩, ?_⟩, ?_⟩, ?_⟩, ?_⟩
  all_goals
    first
    | exact optionalMember_haveWords _ _ fun _ => by simp [HasWords]
    | exact listMember_haveWords ..
    | simp [MembersHaveWords, HasWords]

theorem PlainShape.members_haveWords (shape : PlainShape) : MembersHaveWords shape.members := by
  cases shape <;> simp [members, MembersHaveWords, HasWords]

mutual
theorem Attribute.toJson_hasWords : (declared : Attribute) → declared.toJson.HasWords
  | .plain options shape => by
      rw [toJson, HasWords, membersHaveWords_append]
      exact ⟨options.members_haveWords, shape.members_haveWords⟩
  | .nested options children model => by
      rw [toJson, HasWords, membersHaveWords_append]
      exact ⟨options.members_haveWords, trivial, Attribute.listToJson_haveWords children, trivial,
        trivial⟩

theorem Attribute.listToJson_haveWords :
    (declared : List Attribute) → ItemsHaveWords (Attribute.listToJson declared)
  | [] => trivial
  | declared :: rest => ⟨declared.toJson_hasWords, Attribute.listToJson_haveWords rest⟩
end

theorem ReadStrategy.toJson_hasWords (strategy : ReadStrategy) : strategy.toJson.HasWords := by
  cases strategy with
  | simple => exact ⟨trivial, trivial⟩
  | paginate hooks =>
      exact ⟨trivial, optionalText_hasWords _, optionalText_hasWords _, optionalText_hasWords _,
        optionalText_hasWords _, trivial⟩

theorem DataSource.toJson_hasWords (declared : DataSource) : declared.toJson.HasWords :=
  ⟨trivial, trivial,
    ⟨trivial, trivial, strings_hasWords _, declared.api.strategy.toJson_hasWords, trivial⟩,
    ⟨trivial, trivial⟩, Attribute.listToJson_haveWords _, trivial⟩

theorem Operation.toJson_hasWords (operation : Operation) : operation.toJson.HasWords :=
  ⟨trivial, strings_hasWords _, trivial⟩

theorem ListRead.toJson_hasWords (listed : ListRead) : listed.toJson.HasWords := by
  have hword32 : ∀ word : UInt32, Reader.IsWord64 word.toNat := fun word => by
    have hbound := word.toNat_lt
    unfold Reader.IsWord64
    omega
  have hword64 : ∀ word : UInt64, Reader.IsWord64 word.toNat := fun word => by
    have hbound := word.toNat_lt
    unfold Reader.IsWord64
    omega
  exact ⟨optionalText_hasWords _, trivial, trivial, hword32 _, hword32 _, hword64 _,
    optionalText_hasWords _, optionalText_hasWords _, optionalText_hasWords _, trivial⟩

theorem Resource.toJson_hasWords (declared : Resource) : declared.toJson.HasWords :=
  ⟨trivial, trivial,
    ⟨optionalText_hasWords _, declared.api.create.toJson_hasWords,
      declared.api.read.toJson_hasWords, ofOption_hasWords ListRead.toJson_hasWords _,
      ofOption_hasWords Operation.toJson_hasWords _, ofOption_hasWords Operation.toJson_hasWords _,
      trivial⟩,
    strings_hasWords _, Attribute.listToJson_haveWords _, trivial⟩

theorem Definitions.toJson_hasWords (definitions : Definitions) : definitions.toJson.HasWords :=
  ⟨itemsHaveWords_map fun declared _ => declared.toJson_hasWords,
    itemsHaveWords_map fun declared _ => declared.toJson_hasWords, trivial⟩

theorem Definitions.decode_write (style : Style) {definitions : Definitions}
    (hdepth : definitions.toJson.depth < Reader.depthLimit) :
    Format.json.decode (definitions.toJson.write style 0) = .ok definitions := by
  obtain ⟨document, hread, hholds⟩ := Reader.read_write style definitions.toJson_hasWords hdepth
  have hdefinitions := ofDocument_toJson (by decide : Origin.text ≠ .yaml) hholds
  simp [Format.decode, Reader.decode, hread, hdefinitions]

theorem Definitions.parse_write (style : Style) {definitions : Definitions}
    (hdepth : definitions.toJson.depth < Reader.depthLimit) :
    Format.json.parse (String.ofList (definitions.toJson.write style 0)) = .ok definitions := by
  rw [Format.parse, String.toList_ofList, decode_write style hdepth]
  rfl

/-- Definitions are what both their texts declare, when their JSON opens at most 127 brackets at
once. -/
theorem Definitions.parse_compact_indented (definitions : Definitions)
    (hdepth : definitions.toJson.depth ≤ 127) :
    Format.json.parse definitions.toJson.compact = .ok definitions ∧
      Format.json.parse definitions.toJson.indented = .ok definitions := by
  have hopen : definitions.toJson.depth < Reader.depthLimit := by
    rw [Reader.depthLimit]
    omega
  exact ⟨parse_write .compact hopen, parse_write .indented hopen⟩

/-- Nested attributes under a text that needs every kind of escape, and a paginated read. -/
def quotedProjects : Definitions where
  dataSources := [{ BuiltIn.allProjects with description := "\"All\"\t\\ projects\r\n\x01\x7f é" }]
  resources := [BuiltIn.clientKey]

theorem quotedProjects_parse :
    quotedProjects.toJson.depth ≤ 127 ∧
      Format.json.parse quotedProjects.toJson.compact = .ok quotedProjects ∧
      Format.json.parse quotedProjects.toJson.indented = .ok quotedProjects := by
  have hdepth : quotedProjects.toJson.depth ≤ 127 := by decide +kernel
  exact ⟨hdepth, Definitions.parse_compact_indented quotedProjects hdepth⟩

end ProviderForge
