import ProviderForge.Definition.Decode
import ProviderForge.Definition.Encode
import ProviderForge.Proofs.Document.Request

namespace ProviderForge

open Document Result Assembly

theorem Requiredness.ofDocument_name {document : Document} {requiredness : Requiredness}
    {origin : Origin} (horigin : origin ≠ .yaml)
    (hholds : Holds document (.string requiredness.name)) :
    ofDocument origin document = .ok requiredness := by
  have hknown : requiredness.name ∈ all.map name := by cases requiredness <;> decide
  simp [ofDocument, hholds.choice_eq horigin hknown]

theorem ElementType.ofDocument_name {document : Document} {element : ElementType}
    {origin : Origin} (horigin : origin ≠ .yaml) (hholds : Holds document (.string element.name)) :
    ofDocument origin document = .ok element := by
  cases element
  simp [ofDocument, hholds.choice_eq horigin (by decide : _ ∈ [string.name])]

theorem SourceForm.ofDocument_name {document : Document} {form : SourceForm} {origin : Origin}
    (horigin : origin ≠ .yaml) (hholds : Holds document (.string form.name)) :
    ofDocument origin document = .ok form := by
  cases form
  simp [ofDocument, hholds.choice_eq horigin (by decide : _ ∈ [time.name])]

theorem Json.optionalMember_keys {α : Type} (key : String) (encode : α → Json) (value : Option α) :
    ((optionalMember key encode value).map Prod.fst).Sublist [key] := by
  cases value with
  | none => exact List.nil_sublist _
  | some value => exact List.Sublist.refl _

theorem Json.listMember_keys (key : String) (values : List String) :
    ((listMember key values).map Prod.fst).Sublist [key] := by
  cases values with
  | nil => exact List.nil_sublist _
  | cons value values => exact List.Sublist.refl _

theorem AttributeOptions.members_keys (options : AttributeOptions) :
    (options.members.map Prod.fst).Sublist Attribute.Draft.shape.names := by
  simp only [members, List.map_append]
  refine .append (.append (.append (.append (.append (.append (.append (.append (.append (.append
    (.refl _) (Json.optionalMember_keys ..)) (.refl _)) (Json.listMember_keys ..))
    (Json.listMember_keys ..)) (.refl _)) (Json.optionalMember_keys ..))
    (Json.optionalMember_keys ..)) (Json.optionalMember_keys ..)) (.refl _))
    (Json.optionalMember_keys ..)

namespace Attribute

theorem Draft.names_nodup : shape.names.Nodup := by decide

def Draft.ofOptions (options : AttributeOptions) : Draft where
  name := some options.name
  description := some options.description
  deprecation := options.deprecation
  requiredness := some options.requiredness
  sensitive := options.sensitive
  validators := options.validators
  planModifiers := options.planModifiers
  nullable := options.nullable
  source := options.source
  sourceForm := options.sourceForm
  destination := options.destination
  skipFill := options.skipFill
  customFill := options.customFill

section

variable {origin : Origin} {readChildren : Document → Except Fault (List Attribute)}

theorem takes_options (horigin : origin ≠ .yaml) (options : AttributeOptions) :
    (assembly origin readChildren).Takes {} options.members (.ofOptions options) := by
  have hfield : ∀ {key : String}, key ∈ Draft.shape.names →
      key ∈ (assembly origin readChildren).shape.names := fun hknown => hknown
  let named : Draft :=
    { name := some options.name, description := some options.description }
  let deprecated : Draft := { named with deprecation := options.deprecation }
  let required : Draft :=
    { deprecated with
      requiredness := some options.requiredness
      sensitive := options.sensitive }
  let validated : Draft := { required with validators := options.validators }
  let modified : Draft := { validated with planModifiers := options.planModifiers }
  let admitted : Draft := { modified with nullable := options.nullable }
  let sourced : Draft := { admitted with source := options.source }
  let formed : Draft := { sourced with sourceForm := options.sourceForm }
  let aimed : Draft := { formed with destination := options.destination }
  let skipped : Draft := { aimed with skipFill := options.skipFill }
  have hnamed : (assembly origin readChildren).Takes {}
      [("name", .string options.name), ("description", .string options.description)] named :=
    .cons (hfield (by decide))
      (fun _ hvalue => by simp [assembly, Draft.take, hvalue.string_eq]; rfl)
      (.cons (hfield (by decide))
        (fun _ hvalue => by simp [assembly, Draft.take, hvalue.string_eq]; rfl) .nil)
  have hdeprecated := Takes.optionalMember "deprecation_message" .string options.deprecation
    (fun value => { named with deprecation := value }) (hfield (by decide)) rfl
    fun part _ hvalue => by
      simp [assembly, Draft.take, @Holds.optionalString_eq _ (some part) hvalue]
  have hrequired : (assembly origin readChildren).Takes deprecated
      [("computed_optional_required", .string options.requiredness.name),
        ("sensitive", .bool options.sensitive)] required :=
    .cons (hfield (by decide))
      (fun _ hvalue => by
        simp [assembly, Draft.take, Requiredness.ofDocument_name horigin hvalue]; rfl)
      (.cons (hfield (by decide))
        (fun _ hvalue => by simp [assembly, Draft.take, hvalue.flag_eq]; rfl) .nil)
  have hvalidated := Takes.listMember "validators" options.validators
    (fun values => { required with validators := values }) (hfield (by decide)) rfl
    fun _ hvalue => by simp [assembly, Draft.take, hvalue.strings_eq]
  have hmodified := Takes.listMember "plan_modifiers" options.planModifiers
    (fun values => { validated with planModifiers := values }) (hfield (by decide)) rfl
    fun _ hvalue => by simp [assembly, Draft.take, hvalue.strings_eq]
  have hadmitted : (assembly origin readChildren).Takes modified
      [("nullable", .bool options.nullable)] admitted :=
    .cons (hfield (by decide)) (fun _ hvalue => by simp [assembly, Draft.take, hvalue.flag_eq]; rfl)
      .nil
  have hsourced := Takes.optionalMember "source_attribute" .strings options.source
    (fun value => { admitted with source := value }) (hfield (by decide)) rfl
    fun part _ hvalue => by
      simp [assembly, Draft.take, @Holds.optionalStrings_eq _ (some part) hvalue]
  have hformed := Takes.optionalMember "source_type" (fun form => .string form.name)
    options.sourceForm
    (fun value => { sourced with sourceForm := value }) (hfield (by decide)) rfl
    fun part _ hvalue => by
      simp [assembly, Draft.take, hvalue.optionally_present (by simp),
        SourceForm.ofDocument_name horigin hvalue]
  have haimed := Takes.optionalMember "destination_attribute" .strings options.destination
    (fun value => { formed with destination := value }) (hfield (by decide)) rfl
    fun part _ hvalue => by
      simp [assembly, Draft.take, @Holds.optionalStrings_eq _ (some part) hvalue]
  have hskipped : (assembly origin readChildren).Takes aimed
      [("skip_fill", .bool options.skipFill)] skipped :=
    .cons (hfield (by decide)) (fun _ hvalue => by simp [assembly, Draft.take, hvalue.flag_eq]; rfl)
      .nil
  have hcustom := Takes.optionalMember "custom_fill" .string options.customFill
    (fun value => { skipped with customFill := value }) (hfield (by decide)) rfl
    fun part _ hvalue => by
      simp [assembly, Draft.take, @Holds.optionalString_eq _ (some part) hvalue]
  exact hnamed.append hdeprecated |>.append hrequired |>.append hvalidated |>.append hmodified
    |>.append hadmitted |>.append hsourced |>.append hformed |>.append haimed |>.append hskipped
    |>.append hcustom

variable (origin readChildren) in
/-- Members of the shape are none of the attribute's own fields and are kept, copied. -/
theorem takeEntries_shape {entries : List (Entry Document)} {members : List (String × Json)}
    (hholds : EntriesHold entries members)
    (hshape : ∀ key ∈ members.map Prod.fst, key ∉ Draft.shape.names) (seen : List String)
    (draft : Draft) :
    ∃ kept, (assembly origin readChildren).takeEntries origin entries seen draft =
        .ok { draft with others := kept.reverse ++ draft.others } ∧ EntriesHold kept members := by
  induction members generalizing entries draft with
  | nil =>
      cases hholds
      exact ⟨[], rfl, .nil⟩
  | cons member members ih =>
      cases hholds with
      | @cons entry name json entries _ hkey hvalue hentries =>
          obtain ⟨value, hcopy, hcopyHolds⟩ := hvalue.copied
          have hunknown : name ∉ Draft.shape.names := hshape name (by simp)
          have hfield : (assembly origin readChildren).shape.fieldOf? origin entry.key = .ok none :=
            fieldOf?_unknown hkey hunknown
          have hkeep : (assembly origin readChildren).pass draft entry =
              .ok { draft with
                others := ⟨.ofAtom (.string name), value, none, none⟩ :: draft.others } := by
            simp [assembly, Draft.keep, hkey.string_eq, hcopy]
          obtain ⟨kept, hkept, hkeptHold⟩ := ih hentries
            (fun key hmem => hshape key (by simp [hmem])) { draft with
              others := ⟨.ofAtom (.string name), value, none, none⟩ :: draft.others }
          refine ⟨⟨.ofAtom (.string name), value, none, none⟩ :: kept, ?_,
            .cons .string hcopyHolds hkeptHold⟩
          rw [takeEntries, hfield]
          simp [hkeep, hkept]

/-- An attribute is made of its options and of what its other members, copied, tell. -/
theorem read_of_parts (horigin : origin ≠ .yaml) {options : AttributeOptions}
    {members : List (String × Json)} {declared : Attribute}
    (hshape : ∀ key ∈ members.map Prod.fst, key ∉ Draft.shape.names)
    (hparts : ∀ others, EntriesHold others members →
      ofParts readChildren options others = .ok declared)
    {document : Document} (hholds : Holds document (.object (options.members ++ members))) :
    (assembly origin readChildren).read origin {} document = .ok declared := by
  cases hholds with
  | @object entries _ location start hentries =>
      obtain ⟨first, rest, rfl, hfirst, hrest⟩ := hentries.append_inv
      have hnodup : (options.members.map Prod.fst).Nodup :=
        Draft.names_nodup.sublist options.members_keys
      have htakes : (assembly origin readChildren).Takes {} options.members (.ofOptions options) :=
        takes_options horigin options
      have htaken := htakes.takeEntries_eq hfirst [] hnodup (by simp) origin rest
      obtain ⟨others, hothers, hothersHold⟩ := takeEntries_shape origin readChildren hrest hshape
        ((options.members.map Prod.fst).reverse ++ []) (.ofOptions options)
      have hcomplete : (assembly origin readChildren).complete { Draft.ofOptions options with
          others := others.reverse ++ (Draft.ofOptions options).others } = .ok declared := by
        have hoptions : Draft.options { Draft.ofOptions options with
            others := others.reverse ++ (Draft.ofOptions options).others } = .ok options := rfl
        simp only [assembly, hoptions, ok_bind]
        simpa [Draft.ofOptions] using hparts others hothersHold
      rw [Assembly.read]
      simp only [resolved, htaken, hothers, ok_bind, Ending.check, hcomplete, locate_ok]

theorem kind_mem (kind : AttributeKind) : kind.name ∈ AttributeKind.all.map (·.name) := by
  cases kind <;> decide

theorem splitChoice_kind (kind : AttributeKind) {entries : List (Entry Document)}
    {members : List (String × Json)}
    (hholds : EntriesHold entries (("type", .string kind.name) :: members))
    (htag : "type" ∉ members.map Prod.fst) :
    ∃ others, splitChoice .copy "type" (AttributeKind.all.map (·.name)) entries none =
        .ok (some kind.name, others) ∧
      Holds (.mapping none others (.closed none) none) (.object members) := by
  obtain ⟨others, hsplit, hothers⟩ := hholds.splitChoice_eq htag .copy (kind_mem kind)
  exact ⟨others, hsplit, .object hothers⟩

theorem read_element {document : Document} {element : ElementType}
    (hholds : Holds document (.object [("element_type", .string element.name)])) :
    elementAssembly.read .copy none document = .ok element := by
  have htakes : elementAssembly.Takes none [("element_type", .string element.name)]
      (some element) :=
    .cons (by decide)
      (fun _ hvalue => by
        have hread := ElementType.ofDocument_name (by decide : Origin.copy ≠ .yaml) hvalue
        simp only [elementAssembly, hread]
        rfl)
      .nil
  exact htakes.read_eq (by simp) rfl hholds .copy

theorem ofParts_plain {entries : List (Entry Document)} {shape : PlainShape}
    (options : AttributeOptions) (hholds : EntriesHold entries shape.members) :
    ofParts readChildren options entries = .ok (plain options shape) := by
  cases shape with
  | string =>
      obtain ⟨others, hsplit, -⟩ := splitChoice_kind .string hholds (by simp)
      simp [ofParts, hsplit, present]
  | int =>
      obtain ⟨others, hsplit, -⟩ := splitChoice_kind .int hholds (by simp)
      simp [ofParts, hsplit, present]
  | bool =>
      obtain ⟨others, hsplit, -⟩ := splitChoice_kind .bool hholds (by simp)
      simp [ofParts, hsplit, present]
  | object =>
      obtain ⟨others, hsplit, -⟩ := splitChoice_kind .object hholds (by simp)
      simp [ofParts, hsplit, present]
  | list element =>
      obtain ⟨others, hsplit, hothers⟩ := splitChoice_kind .list hholds (by simp)
      simp [ofParts, hsplit, present, read_element hothers]
  | set element =>
      obtain ⟨others, hsplit, hothers⟩ := splitChoice_kind .set hholds (by simp)
      simp [ofParts, hsplit, present, read_element hothers]

theorem ofParts_nested {entries : List (Entry Document)} {children : List Attribute}
    {model : String} (options : AttributeOptions)
    (hholds : EntriesHold entries
      [("type", .string AttributeKind.setNested.name), ("attributes", .array (listToJson children)),
        ("model", .string model)])
    (hchildren : ∀ document, Holds document (.array (listToJson children)) →
      readChildren document = .ok children) :
    ofParts readChildren options entries = .ok (nested options children model) := by
  obtain ⟨others, hsplit, hothers⟩ := splitChoice_kind .setNested hholds (by simp)
  have htakes : (nestedAssembly readChildren).Takes {}
      [("attributes", .array (listToJson children)), ("model", .string model)]
      ⟨some children, some model⟩ :=
    .cons (by simp [nestedAssembly, Shape.names, Field.required])
      (fun document hvalue => by simp [nestedAssembly, hchildren document hvalue]; rfl)
      (.cons (by simp [nestedAssembly, Shape.names, Field.required])
        (fun _ hvalue => by simp [nestedAssembly, hvalue.string_eq]) .nil)
  have hread := htakes.read_eq (by simp) rfl hothers .copy
  simp [ofParts, hsplit, present, hread]

end

theorem listToJson_eq_map (declared : List Attribute) :
    listToJson declared = declared.map toJson := by
  induction declared with
  | nil => rfl
  | cons first rest ih => rw [listToJson, ih, List.map_cons]

theorem ofDocumentWithin_toJson (fuel : Nat) {declared : Attribute} {document : Document}
    {origin : Origin} (horigin : origin ≠ .yaml) (hdepth : declared.toJson.depth ≤ fuel)
    (hholds : Holds document declared.toJson) :
    ofDocumentWithin fuel origin document = .ok declared := by
  induction fuel generalizing declared document origin with
  | zero =>
      cases declared <;> simp [toJson, Json.depth] at hdepth
  | succ fuel ih =>
      cases declared with
      | plain options shape =>
          rw [toJson] at hholds
          refine read_of_parts horigin ?_ (fun others hothers => ofParts_plain options hothers)
            hholds
          rcases shape with _ | _ | _ | ⟨⟨⟩⟩ | ⟨⟨⟩⟩ | _ <;> decide
      | nested options children model =>
          rw [toJson] at hholds hdepth
          refine read_of_parts horigin ?_ (fun others hothers => ofParts_nested options hothers ?_)
            hholds
          · simp only [List.map_cons, List.map_nil]
            decide
          · intro document hvalue
            rw [listToJson_eq_map] at hvalue
            refine hvalue.list_eq fun child hmem part hpart => ih (by decide) ?_ hpart
            have hchild := Json.depth_le_of_mem_items (List.mem_map_of_mem (f := toJson) hmem)
            have hmem : ("attributes", .array (listToJson children)) ∈ options.members ++
                [("type", .string AttributeKind.setNested.name),
                  ("attributes", .array (listToJson children)), ("model", .string model)] := by simp
            have hmember := Json.depth_le_of_mem_members hmem
            rw [listToJson_eq_map] at hmember hdepth
            simp only [Json.depth] at hmember hdepth
            omega

theorem ofDocument_toJson {declared : Attribute} {document : Document} {origin : Origin}
    (horigin : origin ≠ .yaml) (hholds : Holds document declared.toJson) :
    ofDocument origin document = .ok declared := by
  refine ofDocumentWithin_toJson _ horigin ?_ hholds
  rw [hholds.depth]
  exact Nat.le_succ _

theorem listOfDocument_toJson {declared : List Attribute} {document : Document} {origin : Origin}
    (horigin : origin ≠ .yaml) (hholds : Holds document (.array (listToJson declared))) :
    listOfDocument origin document = .ok declared := by
  rw [listToJson_eq_map] at hholds
  exact hholds.list_eq fun _ _ _ hpart => ofDocument_toJson horigin hpart

end Attribute

end ProviderForge
