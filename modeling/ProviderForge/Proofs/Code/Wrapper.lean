import ProviderForge.Model
import ProviderForge.Proofs.Code.Decision
import ProviderForge.Proofs.Code.Reading
import ProviderForge.Proofs.Token.Quoted

namespace ProviderForge

open Code Result

namespace AttributeKind

def typeFamily : AttributeKind → String
  | string => "StringType"
  | int => "Int64Type"
  | bool => "BoolType"
  | list => "ListTypeOf"
  | set => "SetTypeOf"
  | setNested => "SetNestedObjectTypeOf"
  | object => "ObjectType"

def valueFamily : AttributeKind → String
  | string => "StringValue"
  | int => "Int64Value"
  | bool => "BoolValue"
  | list => "ListValueOf"
  | set => "SetValueOf"
  | setNested => "SetNestedObjectValueOf"
  | object => "ObjectValue"

def ofFamily? (family : AttributeKind → String) (text : String) : Option AttributeKind :=
  all.find? (family · == text)

end AttributeKind

/-- A wrapper, with the type of what it holds where that type is told. -/
structure Wrapper where
  kind : AttributeKind
  argument : Option String
deriving DecidableEq

namespace Wrapper

def argument? : Code → Option String
  | .punct '<' _ :: .ident name :: .punct '>' _ :: _ => some name
  | .punct ':' _ :: .punct ':' _ :: .punct '<' _ :: .ident name :: .punct '>' _ :: _ => some name
  | _ => none

def read? (family : AttributeKind → String) : Code → Option Wrapper
  | .ident "supertypes" :: .punct ':' _ :: .punct ':' _ :: .ident found :: rest =>
      (AttributeKind.ofFamily? family found).map fun kind => ⟨kind, argument? rest⟩
  | _ => none

end Wrapper

namespace Attribute

def childName? (parent : String) : Attribute → Option String
  | plain _ _ => none
  | nested options _ _ => some (Name.nestedType parent options.name)

/-- The wrapper that an attribute of the model `parent` is to have everywhere. -/
def wrapper (parent : String) : Attribute → Wrapper
  | plain _ .string => ⟨.string, none⟩
  | plain _ .int => ⟨.int, none⟩
  | plain _ .bool => ⟨.bool, none⟩
  | plain _ (.list .string) => ⟨.list, some "String"⟩
  | plain _ (.set .string) => ⟨.set, some "String"⟩
  | plain _ .object => ⟨.object, none⟩
  | nested options _ _ => ⟨.setNested, some (Name.nestedType parent options.name)⟩

@[simp] theorem kind_wrapper (parent : String) (declared : Attribute) :
    (declared.wrapper parent).kind = declared.kind := by
  rcases declared with ⟨options, _ | _ | _ | ⟨⟨⟩⟩ | ⟨⟨⟩⟩ | _⟩ | _ <;> rfl

end Attribute

namespace Schema

def entries (table : Code) : List Code :=
  groups .parenthesis (inside .bracket (inside .parenthesis table))

def key? : Code → Option String
  | .literal text :: _ => Quoted.value? text
  | _ => none

def wrapper? (entry : Code) : Option Wrapper :=
  Wrapper.read? AttributeKind.typeFamily (fieldValue "custom_type" (inside .brace entry))

def nestedTable (entry : Code) : Code :=
  fieldValue "attributes" (inside .brace (fieldValue "nested_object" (inside .brace entry)))

theorem size_nestedTable_lt {table entry : Code} (hmem : entry ∈ entries table) :
    Code.size (nestedTable entry) < Code.size table := by
  have hentry : Code.size entry < Code.size (inside .bracket (inside .parenthesis table)) :=
    size_groups hmem
  have hwithin : Code.size (inside .bracket (inside .parenthesis table)) ≤ Code.size table :=
    Nat.le_trans size_inside_le size_inside_le
  have hnested : Code.size (nestedTable entry) ≤ Code.size entry :=
    Nat.le_trans size_fieldValue_le (Nat.le_trans size_inside_le
      (Nat.le_trans size_fieldValue_le size_inside_le))
  omega

def entryTypes (entry : Code) (further : List String) : List String :=
  match wrapper? entry with
  | some ⟨.setNested, some child⟩ => child :: further
  | _ => []

/-- The types that a schema names for the items of nested sets, parents first. -/
def childTypes (table : Code) : List String :=
  (entries table).attach.flatMap fun ⟨entry, _⟩ => entryTypes entry (childTypes (nestedTable entry))
termination_by Code.size table
decreasing_by exact size_nestedTable_lt (by assumption)

theorem childTypes_eq (table : Code) :
    childTypes table =
      (entries table).flatMap fun entry => entryTypes entry (childTypes (nestedTable entry)) := by
  rw [childTypes, List.flatMap_subtype fun _ _ => rfl, List.unattach_attach]
  rfl

def memberContent (declared : Attribute) (value : Code) : Code :=
  ownedText declared.name ++ mark ',' ++ invoke value "into" []

theorem entries_table_cons (declared : Attribute) (value : Code) (members : List Code) :
    entries (table (member declared value :: members)) =
      memberContent declared value :: entries (table members) := by
  have hentries : ∀ codes, entries (table codes) = groups .parenthesis (listed codes) :=
    fun _ => rfl
  have hmember : groups .parenthesis (member declared value) = [memberContent declared value] := rfl
  rw [hentries, hentries, groups_listed_cons, hmember, List.singleton_append]

def leadingFields (declared : Attribute) : Code :=
  entry "markdown_description" (ownedText declared.markdownDescription) ++
    (match declared.options.deprecation with
      | some notice => entry "deprecation_message" (call (word "Some") (ownedText notice))
      | none => []) ++
    declared.options.requiredness.flags ++
    (if declared.options.sensitive then entry "sensitive" (word "true") else [])

theorem lacks_leadingFields (declared : Attribute) {fieldName : String}
    (hname : fieldName = "custom_type" ∨ fieldName = "nested_object") :
    Lacks (Token.isIdent fieldName) (leadingFields declared) := by
  simp only [leadingFields, lacks_append]
  refine ⟨⟨⟨?_, ?_⟩, ?_⟩, ?_⟩
  · rcases hname with rfl | rfl <;> rfl
  · cases declared.options.deprecation <;> rcases hname with rfl | rfl <;> rfl
  · cases declared.options.requiredness <;> rcases hname with rfl | rfl <;> rfl
  · cases declared.options.sensitive <;> rcases hname with rfl | rfl <;> rfl

variable {declared : Attribute} {validators planModifiers customType nested : Code}

theorem inside_memberContent : inside .brace (memberContent declared
      (assemble declared validators planModifiers customType nested)) =
    leadingFields declared ++ entry "custom_type" customType ++
      (nested ++ validators ++ planModifiers ++ remainingDefaults) := by
  have hleft : Lacks (Token.isGroup .brace)
      (ownedText declared.name ++ mark ',' ++ entryType declared.kind) := by
    cases declared.kind <;> rfl
  have hcontent : memberContent declared
      (assemble declared validators planModifiers customType nested) =
      (ownedText declared.name ++ mark ',' ++ entryType declared.kind) ++
        .group .brace (leadingFields declared ++ entry "custom_type" customType ++
          (nested ++ validators ++ planModifiers ++ remainingDefaults)) ::
        (mark '.' ++ word "into" ++ parens []) := by
    cases hdeprecation : declared.options.deprecation <;>
      simp [memberContent, assemble, leadingFields, hdeprecation, invoke, call, field, braces]
  rw [hcontent, inside_append hleft, inside_group]

theorem fieldValue_customType (hcustomType : Lacks (Token.isMark ',') customType) :
    fieldValue "custom_type" (inside .brace (memberContent declared
      (assemble declared validators planModifiers customType nested))) = customType := by
  rw [inside_memberContent]
  exact fieldValue_entry (lacks_leadingFields declared (.inl rfl)) hcustomType

/-- The type of the entry does not hide the field behind it. -/
theorem nestedTable_content {members : List Code}
    (hcustomType : Lacks (Token.isIdent "nested_object") customType) :
    nestedTable (memberContent declared
      (assemble declared validators planModifiers customType (nestedObject (table members)))) =
      table members := by
  have hleft : Lacks (Token.isIdent "nested_object")
      (leadingFields declared ++ entry "custom_type" customType) := by
    have htype : Lacks (Token.isIdent "nested_object") (entry "custom_type" customType) := by
      simp only [entry, lacks_append]
      exact ⟨⟨⟨rfl, rfl⟩, hcustomType⟩, rfl⟩
    exact lacks_append.mpr ⟨lacks_leadingFields declared (.inr rfl), htype⟩
  have hobject : inside .brace (memberContent declared
      (assemble declared validators planModifiers customType (nestedObject (table members)))) =
      (leadingFields declared ++ entry "custom_type" customType) ++
        entry "nested_object" (path ["schema", "NestedAttributeObject"] ++
          braces (entry "attributes" (table members))) ++
        (validators ++ planModifiers ++ remainingDefaults) := by
    rw [inside_memberContent, nestedObject]
    simp
  have hattributes : fieldValue "attributes" (entry "attributes" (table members)) =
      table members := by
    simpa using @fieldValue_entry [] [] "attributes" (table members) rfl rfl
  rw [nestedTable, hobject, fieldValue_entry hleft (by rfl)]
  exact hattributes

end Schema

/-- The name of the items' type is no name of a field: it has an ending of its own. -/
theorem nestedType_ne_nestedObject (parent member : String) :
    Name.nestedType parent member ≠ "nested_object" := by
  intro heq
  have hlast := congrArg (fun name => name.toList.getLast?) heq
  simp [Name.nestedType] at hlast

open Schema

namespace Attribute

theorem plainType_wrapper (parent : String) (options : AttributeOptions) (shape : PlainShape) :
    Wrapper.read? AttributeKind.typeFamily (plainType shape) =
      some ((plain options shape).wrapper parent) := by
  rcases shape with _ | _ | _ | ⟨⟨⟩⟩ | ⟨⟨⟩⟩ | _ <;> rfl

theorem key?_memberContent {declared : Attribute} (hname : Name.fault? declared.name = none)
    (value : Code) : key? (memberContent declared value) = some declared.name :=
  Quoted.value?_quote (Name.fault?_eq_none.mp hname).1

theorem schemaEntry_plain {parent : String} {options : AttributeOptions} {shape : PlainShape}
    {value : Code} (hvalue : (plain options shape).schemaEntry parent = .ok value) :
    wrapper? (memberContent (plain options shape) value) =
      some ((plain options shape).wrapper parent) := by
  simp only [schemaEntry, bind_eq_ok, pure_eq_ok] at hvalue
  obtain ⟨validators, -, planModifiers, -, rfl⟩ := hvalue
  have hcomma : Lacks (Token.isMark ',') (plainType shape) := by
    rcases shape with _ | _ | _ | ⟨⟨⟩⟩ | ⟨⟨⟩⟩ | _ <;> rfl
  rw [wrapper?, fieldValue_customType hcomma, plainType_wrapper parent]

theorem schemaEntry_nested {parent : String} {options : AttributeOptions}
    {children : List Attribute} {record : String} {value : Code}
    (hvalue : (nested options children record).schemaEntry parent = .ok value) :
    wrapper? (memberContent (nested options children record) value) =
        some ((nested options children record).wrapper parent) ∧
      schemaTable (Name.nestedType parent options.name) children =
        .ok (nestedTable (memberContent (nested options children record) value)) := by
  simp only [schemaEntry, bind_eq_ok, pure_eq_ok] at hvalue
  obtain ⟨validators, -, planModifiers, -, child, hchild, members, hmembers, rfl⟩ := hvalue
  obtain ⟨-, -, rfl⟩ := Identifier.type_eq_ok.mp hchild
  have hother := nestedType_ne_nestedObject parent options.name
  have hobject : Lacks (Token.isIdent "nested_object")
      (Schema.nestedType ⟨Name.nestedType parent options.name⟩) := by
    simp [Lacks, Schema.nestedType, collectionFamily, defaultOf, within, path, separated, call,
      colons, operator, angled, mark, word, ident, Identifier.token, parens, Token.isIdent, hother]
  constructor
  · rw [wrapper?, fieldValue_customType (by rfl)]
    rfl
  · rw [nestedTable_content hobject, schemaTable, hmembers]
    rfl

end Attribute

end ProviderForge
