import ProviderForge.Code.DataSource
import ProviderForge.Code.Resource
import ProviderForge.Proofs.Code.Attributes
import ProviderForge.Proofs.Code.Reading
import ProviderForge.Proofs.Code.Registry

namespace ProviderForge

open Code Result

namespace Code

def pathNames? : Code → Option (List String)
  | [.ident name] => some [name]
  | .ident name :: .punct ':' .joint :: .punct ':' .alone :: rest =>
      (pathNames? rest).map (name :: ·)
  | _ => none

/-- The elements of the slice that a static of this name holds, behind their type. -/
def slice? (tableName : String) (file : Code) : Option (Code × List Code) :=
  match after (Token.isIdent tableName) file with
  | .punct ':' .alone :: .punct '&' .alone :: .group .bracket elementType ::
      .punct '=' .alone :: .punct '&' .alone :: .group .bracket elements ::
      .punct ';' .alone :: _ => some (elementType, pieces elements)
  | _ => none

/-- The file declares a public type of this name and, in an implementation of its own, a public
function `new` without parameters that gives the product. -/
structure Declares (typeName : String) (product file : Code) : Prop where
  type : ∃ members,
    word "pub" ++ word "struct" ++ word typeName ++ braces members <:+: file
  constructor : ∃ members body,
    word "impl" ++ word typeName ++ braces members <:+: file ∧
      word "pub" ++ word "fn" ++ call (word "new") [] ++ arrow ++ product ++ braces body <:+:
        members

theorem Declares.mono {typeName : String} {product file larger : Code}
    (hdeclares : Declares typeName product file) (hlarger : file <:+: larger) :
    Declares typeName product larger := by
  obtain ⟨⟨members, htype⟩, ⟨others, body, hconstructor, hnew⟩⟩ := hdeclares
  exact ⟨⟨members, htype.trans hlarger⟩, ⟨others, body, hconstructor.trans hlarger, hnew⟩⟩

end Code

namespace Registry

structure Constructor where
  moduleName : String
  typeName : String
deriving DecidableEq, Repr

def constructor? (entry : Code) : Option Constructor :=
  match pathNames? entry with
  | some ["super", moduleName, typeName, "new"] => some ⟨moduleName, typeName⟩
  | _ => none

def constructorType (product : Code) : Code :=
  call (word "fn") [] ++ arrow ++ product

def Holds (file : Code) (tableName : String) (product : Code) (constructors : List Constructor) :
    Prop :=
  ∃ entries, slice? tableName file = some (constructorType product, entries) ∧
    entries.map constructor? = constructors.map some

theorem constructor?_constructorPath (moduleName typeName : String) :
    constructor? (constructorPath moduleName typeName) = some ⟨moduleName, typeName⟩ := rfl

theorem lacks_comma_constructorPath (moduleName typeName : String) :
    Lacks (Token.isMark ',') (constructorPath moduleName typeName) := rfl

theorem holds_table {left : Code} {tableName : String}
    (hleft : Lacks (Token.isIdent tableName) (left ++ word "pub" ++ word "static"))
    (role traitName : String) (constructors : List Constructor) (right : Code) :
    Holds (left ++ table tableName role traitName
        (constructors.map fun made => constructorPath made.moduleName made.typeName) ++ right)
      tableName (Lifecycle.boxedTrait role traitName) constructors := by
  refine ⟨constructors.map fun made => constructorPath made.moduleName made.typeName, ?_, ?_⟩
  · have hname : Token.isIdent tableName (.ident tableName) = true := by simp [Token.isIdent]
    have hpieces : pieces (terminated (constructors.map fun made =>
        constructorPath made.moduleName made.typeName)) = _ :=
      pieces_terminated (by simp [lacks_comma_constructorPath])
    have hcode : left ++ table tableName role traitName (constructors.map fun made =>
          constructorPath made.moduleName made.typeName) ++ right =
        (left ++ word "pub" ++ word "static") ++ .ident tableName ::
          (mark ':' ++
            reference (brackets (constructorType (Lifecycle.boxedTrait role traitName))) ++
            mark '=' ++ statement (reference (brackets (terminated (constructors.map fun made =>
              constructorPath made.moduleName made.typeName)))) ++ right) := by
      simp [table, constructorType, word]
    rw [slice?, hcode, after_append hleft hname]
    simp [mark, reference, brackets, statement, hpieces]
  · simp [constructor?_constructorPath]

/-- Whatever a constructor in the registry is, it is the path of the type in its module. -/
theorem constructor_ok {beginning ending entity : String} {code : Code}
    (hfields : ∀ keyword ∈ Name.rawKeywords, ¬ beginning.toList <+: keyword.toList)
    (hcode : constructor (beginning ++ entity) (Name.upperCamel entity ++ ending) = .ok code) :
    code = constructorPath (beginning ++ entity) (Name.upperCamel entity ++ ending) := by
  simp only [constructor, bind_eq_ok, Identifier.field_eq_ok, Identifier.type_eq_ok,
    pure_eq_ok] at hcode
  obtain ⟨_, ⟨-, rfl⟩, _, ⟨-, -, rfl⟩, rfl⟩ := hcode
  have hkeyword : Name.isKeyword (beginning ++ entity) = false := by
    rw [Name.isKeyword, ← Bool.not_eq_true, List.contains_iff_mem]
    refine fun hmem => hfields _ hmem ?_
    rw [String.toList_append]
    exact List.prefix_append _ _
  simp [hkeyword, constructorPath, ident, Identifier.token, word]

theorem code_holds {definitions : Definitions} {code : Code}
    (hcode : Registry.code definitions = .ok code) :
    Holds code "AUTO_GENERATED_RESOURCES" (Lifecycle.boxedTrait "resource" "Resource")
        ((sortedNames (definitions.resources.map (·.name))).map fun name =>
          ⟨Name.resourceModule name, Name.resourceType name⟩) ∧
      Holds code "AUTO_GENERATED_DATA_SOURCES" (Lifecycle.boxedTrait "datasource" "DataSource")
        ((sortedNames (definitions.dataSources.map (·.name))).map fun name =>
          ⟨Name.dataSourceModule name, Name.dataSourceType name⟩) := by
  simp only [Registry.code, bind_eq_ok, pure_eq_ok] at hcode
  obtain ⟨resources, hresources, dataSources, hdataSources, rfl⟩ := hcode
  have hresourceCodes : resources.map id =
      (sortedNames (definitions.resources.map (·.name))).map fun name =>
        constructorPath (Name.resourceModule name) (Name.resourceType name) :=
    map_of_mapM_ok hresources fun _ _ hentry => constructor_ok (by decide) hentry
  have hdataSourceCodes : dataSources.map id =
      (sortedNames (definitions.dataSources.map (·.name))).map fun name =>
        constructorPath (Name.dataSourceModule name) (Name.dataSourceType name) :=
    map_of_mapM_ok hdataSources fun _ _ hentry => constructor_ok (by decide) hentry
  rw [List.map_id] at hresourceCodes hdataSourceCodes
  constructor
  · have hholds := holds_table
      (rfl : Lacks (Token.isIdent "AUTO_GENERATED_RESOURCES")
        (statement (word "use" ++ path ["super", "prelude"] ++ colons ++ mark '*') ++ word "pub" ++
          word "static"))
      "resource" "Resource"
      ((sortedNames (definitions.resources.map (·.name))).map fun name =>
        ⟨Name.resourceModule name, Name.resourceType name⟩)
      (table "AUTO_GENERATED_DATA_SOURCES" "datasource" "DataSource" dataSources)
    rw [List.map_map] at hholds
    rw [hresourceCodes]
    exact hholds
  · have hholds := holds_table
      (rfl : Lacks (Token.isIdent "AUTO_GENERATED_DATA_SOURCES")
        (statement (word "use" ++ path ["super", "prelude"] ++ colons ++ mark '*') ++
          table "AUTO_GENERATED_RESOURCES" "resource" "Resource" resources ++ word "pub" ++
          word "static"))
      "datasource" "DataSource"
      ((sortedNames (definitions.dataSources.map (·.name))).map fun name =>
        ⟨Name.dataSourceModule name, Name.dataSourceType name⟩) []
    rw [List.map_map, List.append_nil] at hholds
    rw [hdataSourceCodes]
    exact hholds

end Registry

theorem Lifecycle.declares_entityType (typeName base role traitName : String) :
    Declares typeName (boxedTrait role traitName)
      (entityType ⟨typeName⟩ base role traitName) := by
  have hcode : entityType ⟨typeName⟩ base role traitName =
      derive ["Debug", "Default"] ++
        (word "pub" ++ word "struct" ++ word typeName ++ braces (entry "base" (word base))) ++
        (word "impl" ++ word typeName ++ braces
          (word "pub" ++ word "fn" ++ call (word "new") [] ++ arrow ++ boxedTrait role traitName ++
            braces (call (path ["Box", "new"]) (call (path ["Self", "default"]) [])))) := by
    simp [entityType, ident, Identifier.token, word]
  rw [hcode]
  exact ⟨⟨_, List.infix_append _ _ _⟩,
    ⟨_, _, (List.suffix_append _ _).isInfix, List.infix_refl _⟩⟩

theorem DataSource.declares_code {declared : DataSource} {code : Code}
    (hcode : declared.code.result = .ok code) :
    Declares (Name.dataSourceType declared.name) (Lifecycle.boxedTrait "datasource" "DataSource")
      code := by
  simp only [DataSource.code, Traced.result_bind, Traced.result_ofExcept, Traced.result_report,
    Traced.result_pure, ok_bind, bind_eq_ok, head, Identifier.type_eq_ok, pure_eq_ok,
    Except.ok.injEq] at hcode
  obtain ⟨_, ⟨_, ⟨-, -, rfl⟩, _, -, table, -, body, -, rfl⟩, model, -, _, -, rfl⟩ := hcode
  exact (Lifecycle.declares_entityType _ _ _ _).mono
    ((List.infix_append _ _ _).trans (List.prefix_append _ _).isInfix)

theorem Resource.declares_code {declared : Resource} {code : Code}
    (hcode : declared.code.result = .ok code) :
    Declares (Name.resourceType declared.name) (Lifecycle.boxedTrait "resource" "Resource")
      code := by
  simp only [Resource.code, Traced.result_bind, Traced.result_ofExcept, Traced.result_report,
    Traced.result_pure, ok_bind, bind_eq_ok, head, Identifier.type_eq_ok, pure_eq_ok,
    Except.ok.injEq] at hcode
  obtain ⟨_, ⟨_, ⟨-, -, rfl⟩, _, -, _, -, _, -, _, -, _, -, _, -, rfl⟩, imports, -, model, -, _, -,
    rfl⟩ := hcode
  have hhead : ∀ before own behind imports models : Code,
      own <:+: before ++ own ++ behind ++ imports ++ models := fun before own behind _ _ =>
    (List.infix_append before own behind).trans
      ((List.prefix_append _ _).trans (List.prefix_append _ _)).isInfix
  exact (Lifecycle.declares_entityType _ _ _ _).mono (hhead _ _ _ _ _)

end ProviderForge
