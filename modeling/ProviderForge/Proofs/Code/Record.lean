import ProviderForge.Proofs.Code.Wrapper

namespace ProviderForge

open Code Result

def Code.nameBehind? (keyword : String) (code : Code) : Option String :=
  match after (Token.isIdent keyword) code with
  | .ident name :: _ => some name
  | _ => none

theorem Code.nameBehind?_inherent (identifier : Identifier) (content : Code) :
    nameBehind? "struct" (word "impl" ++ ident identifier ++ braces content) = none := by
  by_cases hname : identifier.text = "struct" <;>
    simp [nameBehind?, after, word, ident, Identifier.token, braces, Token.isIdent, hname]

namespace Record

def fields (declaration : Code) : List Code :=
  pieces (inside .brace declaration)

def wrapper? (field : Code) : Option Wrapper :=
  Wrapper.read? AttributeKind.valueFamily ((after (Token.isIdent "pub") field).drop 2)

theorem inside_recordDeclaration (identifier : Identifier) (members : List Code) :
    inside .brace (Model.recordDeclaration identifier members) = terminated members := rfl

theorem nameBehind?_recordDeclaration (identifier : Identifier) (members : List Code) :
    nameBehind? "struct" (Model.recordDeclaration identifier members) = some identifier.text := rfl

end Record

namespace Attribute

variable {parent : String}

theorem valueType_wrapper {declared : Attribute} {code : Code}
    (hcode : declared.valueType parent = .ok code) :
    Wrapper.read? AttributeKind.valueFamily code = some (declared.wrapper parent) ∧
      Lacks (Token.isMark ',') code := by
  cases declared with
  | plain options shape =>
      rw [← pure_eq_ok.mp hcode]
      rcases shape with _ | _ | _ | ⟨⟨⟩⟩ | ⟨⟨⟩⟩ | _ <;> exact ⟨rfl, rfl⟩
  | nested options children record =>
      simp only [valueType, bind_eq_ok, pure_eq_ok] at hcode
      obtain ⟨child, hchild, rfl⟩ := hcode
      obtain ⟨-, -, rfl⟩ := Identifier.type_eq_ok.mp hchild
      exact ⟨rfl, rfl⟩

/-- A field carries the attribute's name and its wrapper, and no comma ends it early. -/
theorem fieldDeclaration_reads {declared : Attribute} {code : Code}
    (hcode : declared.fieldDeclaration parent = .ok code) :
    (∃ identifier, Identifier.field declared.name = .ok identifier ∧
        nameBehind? "pub" code = some identifier.text) ∧
      Record.wrapper? code = some (declared.wrapper parent) ∧ Lacks (Token.isMark ',') code := by
  simp only [fieldDeclaration, bind_eq_ok, pure_eq_ok] at hcode
  obtain ⟨identifier, hidentifier, type, htype, rfl⟩ := hcode
  obtain ⟨hwrapper, hcomma⟩ := valueType_wrapper htype
  refine ⟨⟨identifier, hidentifier, rfl⟩, hwrapper, ?_⟩
  simp only [lacks_append]
  exact ⟨⟨⟨⟨rfl, rfl⟩, rfl⟩, rfl⟩, hcomma⟩

end Attribute

namespace Fill

def body (fill : Code) : Code :=
  inside .brace (inside .brace fill)

/-- The assignments of a conversion: one, or one in each branch of a condition. -/
def assignments : Code → List (Code × Code)
  | .ident "if" :: rest => (groups .brace rest).map assignment
  | code => [assignment code]

/-- The types whose default values the closures in the arguments of a value begin with. -/
def children (value : Code) : List String :=
  let closures := (groups .parenthesis (inside .parenthesis value)).flatMap (groups .brace)
  closures.filterMap fun closure => match after (Token.isMark '=') closure with
    | .ident child :: .punct ':' _ :: .punct ':' _ :: .ident "default" :: _ => some child
    | _ => none

theorem body_fillDeclaration (identifier : Identifier) (sourceType code : Code) :
    body (Model.fillDeclaration identifier sourceType code) = code := rfl

theorem nameBehind?_fillDeclaration (identifier : Identifier) (sourceType code : Code) :
    nameBehind? "impl" (Model.fillDeclaration identifier sourceType code) =
      some identifier.text := rfl

theorem lacks_accessPath {wanted : Token → Bool} {root : String}
    (hword : ∀ text, wanted (.ident text) = false) (hpoint : wanted (.punct '.' .alone) = false)
    (members : List Identifier) : Lacks wanted (accessPath root members) := by
  have hroot : Lacks wanted (word root) := by simp [Lacks, word, hword]
  refine lacks_append.mpr ⟨hroot, ?_⟩
  induction members with
  | nil => rfl
  | cons first rest ih =>
      rw [List.flatMap_cons]
      refine lacks_append.mpr ⟨?_, ih⟩
      simp [Lacks, mark, ident, Identifier.token, hword, hpoint]

theorem assignments_assign {target : List Identifier} {value : Code}
    (hvalue : Lacks (Token.isMark ';') value) :
    assignments (assign (accessPath "self" target) value) =
      [(accessPath "self" target, value)] := by
  have htarget : Lacks (Token.isMark '=') (accessPath "self" target) :=
    lacks_accessPath (fun _ => rfl) rfl target
  have hself : assignments (assign (accessPath "self" target) value) =
      [assignment (assign (accessPath "self" target) value)] := rfl
  rw [hself, assignment_assign htarget hvalue]

theorem assignments_when {condition yes no : Code}
    (hcondition : Lacks (Token.isGroup .brace) condition) :
    assignments (when condition yes ++ word "else" ++ braces no) =
      [assignment yes, assignment no] := by
  have hcode : assignments (when condition yes ++ word "else" ++ braces no) =
      (groups .brace (condition ++ (braces yes ++ word "else" ++ braces no))).map assignment := by
    simp [when, word, assignments]
  rw [hcode, groups_append, groups_of_lacks hcondition]
  rfl

theorem groups_accessPath (delimiter : Delimiter) (root : String) (members : List Identifier) :
    groups delimiter (accessPath root members) = [] :=
  groups_of_lacks (lacks_accessPath (fun _ => rfl) rfl members)

/-- Only a closure with a body begins with a default value. -/
theorem children_wrapped_of_groups {family constructor : String} {arguments : Code}
    (harguments : ∀ inner ∈ groups .parenthesis arguments, groups .brace inner = []) :
    children (wrapped family constructor arguments) = [] := by
  have hinside : inside .parenthesis (wrapped family constructor arguments) = arguments := rfl
  have hclosures : (groups .parenthesis arguments).flatMap (groups .brace) = [] :=
    List.flatMap_eq_nil_iff.mpr harguments
  simp [children, hinside, hclosures]

theorem groups_invoke (delimiter : Delimiter) (object : Code) (method : String)
    (arguments : Code) : groups delimiter (invoke object method arguments) =
      groups delimiter object ++ groups delimiter (parens arguments) := by
  have hmethod : groups delimiter (mark '.' ++ word method) = [] := groups_of_lacks rfl
  simp only [invoke, call, field, List.append_assoc, groups_append] at hmethod ⊢
  rw [← List.append_assoc (groups delimiter (mark '.')), hmethod, List.nil_append]

theorem groups_invoke_access (origin : List Identifier) (method : String) :
    ∀ inner ∈ groups .parenthesis (invoke (accessPath "data" origin) method []),
      groups .brace inner = [] := by
  have hinvoke : groups .parenthesis (invoke (accessPath "data" origin) method []) = [[]] := by
    rw [groups_invoke, groups_accessPath]
    rfl
  simp [hinvoke, groups]

theorem children_nested (child : Identifier) (origin : List Identifier) :
    children (wrapped "SetNestedObjectValueOf" "from_values"
      (invoke (invoke (invoke (accessPath "data" origin) "iter" []) "map"
        (closure (word "item") (braces
          (bindMutable "model" (defaultOf (ident child)) ++
            statement (invoke (word "diags") "append"
              (invoke (word "model") "fill" (word "item"))) ++
            word "model")))) "collect" [] ++ mark ',')) = [child.text] := by
  have hinside : ∀ arguments, inside .parenthesis
      (wrapped "SetNestedObjectValueOf" "from_values" arguments) = arguments := fun _ => rfl
  simp only [children, hinside, groups_append, groups_invoke, groups_accessPath]
  rfl

end Fill

namespace Attribute

/-- An assignment to the attribute: it writes to the attribute's own path, wraps the value as its
kind is wrapped, and starts from the default values of the items' type alone. -/
structure IsAssigned (parent : String) (declared : Attribute) (made : Code × Code) : Prop where
  target : fieldPath "self" (declared.options.destination.getD [declared.name]) = .ok made.1
  kind : (Wrapper.read? AttributeKind.valueFamily made.2).map Wrapper.kind =
    some (declared.wrapper parent).kind
  children : Fill.children made.2 = (declared.childName? parent).toList

structure IsFilledBy (parent : String) (declared : Attribute) (conversion : Code) : Prop where
  assigns : Fill.assignments conversion ≠ []
  isAssigned : ∀ made ∈ Fill.assignments conversion, declared.IsAssigned parent made

section

variable {parent : String} {declared : Attribute} {target : List Identifier}
  (htarget : fieldPath "self" (declared.options.destination.getD [declared.name]) =
    .ok (accessPath "self" target))

include htarget

theorem isAssigned_wrapped {constructor : String} {arguments : Code}
    (hchildren : Fill.children (Fill.wrapped declared.kind.valueFamily constructor arguments) =
      (declared.childName? parent).toList) :
    declared.IsAssigned parent (accessPath "self" target,
      Fill.wrapped declared.kind.valueFamily constructor arguments) := by
  refine ⟨htarget, ?_, hchildren⟩
  rw [kind_wrapper]
  cases declared.kind <;> rfl

theorem isFilledBy_assign {constructor : String} {arguments : Code}
    (hchildren : Fill.children (Fill.wrapped declared.kind.valueFamily constructor arguments) =
      (declared.childName? parent).toList) :
    declared.IsFilledBy parent (assign (accessPath "self" target)
      (Fill.wrapped declared.kind.valueFamily constructor arguments)) := by
  have hassignments := @Fill.assignments_assign target
    (Fill.wrapped declared.kind.valueFamily constructor arguments) rfl
  have hmade := isAssigned_wrapped htarget hchildren
  exact ⟨by simp [hassignments], by simpa [hassignments] using hmade⟩

end

section

variable {parent : String} {options : AttributeOptions} {target : List Identifier}
  (htarget : fieldPath "self" (options.destination.getD [options.name]) =
    .ok (accessPath "self" target)) (origin : List Identifier)

include htarget

theorem isFilledBy_of_groups {shape : PlainShape} {constructor : String} {arguments : Code}
    (harguments : ∀ inner ∈ groups .parenthesis arguments, groups .brace inner = []) :
    (plain options shape).IsFilledBy parent (assign (accessPath "self" target)
      (Fill.wrapped shape.kind.valueFamily constructor arguments)) :=
  @isFilledBy_assign parent (plain options shape) target htarget constructor arguments
    (Fill.children_wrapped_of_groups harguments)

theorem isFilledBy_string : (plain options .string).IsFilledBy parent
    (Fill.string options (accessPath "data" origin) (accessPath "self" target)) := by
  unfold Fill.string
  split
  · have hcondition : Lacks (Token.isGroup .brace) (word "let" ++
        call (word "Some") (word "value") ++ mark '=' ++
        invoke (accessPath "data" origin) "as_ref" []) := by
      have haccess : Lacks (Token.isGroup .brace) (accessPath "data" origin) :=
        Fill.lacks_accessPath (fun _ => rfl) rfl origin
      simp only [invoke, call, field, lacks_append]
      exact ⟨⟨⟨rfl, rfl, rfl⟩, rfl⟩, ⟨⟨haccess, rfl⟩, rfl⟩, rfl⟩
    have htargetLacks : Lacks (Token.isMark '=') (accessPath "self" target) :=
      Fill.lacks_accessPath (fun _ => rfl) rfl target
    have hvalue := assignment_assign htargetLacks (by rfl : Lacks (Token.isMark ';')
      (Fill.wrapped "StringValue" "new_or_null" (invoke (word "value") "clone" [])))
    have hnull := assignment_assign htargetLacks (by rfl : Lacks (Token.isMark ';')
      (Fill.wrapped "StringValue" "null" []))
    have hmade := @isAssigned_wrapped parent (plain options .string) target htarget "new_or_null"
      (invoke (word "value") "clone" []) rfl
    have hother := @isAssigned_wrapped parent (plain options .string) target htarget "null" [] rfl
    constructor
    · rw [Fill.assignments_when hcondition]
      simp
    · rw [Fill.assignments_when hcondition, hvalue, hnull]
      exact List.forall_mem_cons.mpr ⟨hmade, List.forall_mem_cons.mpr ⟨hother, by simp⟩⟩
  · split
    all_goals
      exact isFilledBy_of_groups htarget (Fill.groups_invoke_access origin _)

theorem isFilledBy_plain (shape : PlainShape) : (plain options shape).IsFilledBy parent
    (Fill.plain options (accessPath "data" origin) (accessPath "self" target) shape) := by
  have horigin := Fill.groups_accessPath .parenthesis "data" origin
  have hreference : groups .parenthesis (reference (accessPath "data" origin)) = [] := horigin
  cases shape with
  | string => exact isFilledBy_string htarget origin
  | int | bool => exact isFilledBy_of_groups htarget (by simp [horigin])
  | list element | set element => exact isFilledBy_of_groups htarget (by simp [hreference])
  | object => exact isFilledBy_of_groups htarget (Fill.groups_invoke_access origin _)

theorem isFilledBy_nested {children : List Attribute} {record : String} {child : Identifier}
    (hchild : Identifier.type (Name.nestedType parent options.name) = .ok child) :
    (nested options children record).IsFilledBy parent
      (Fill.nested child (accessPath "data" origin) (accessPath "self" target)) := by
  obtain ⟨-, -, rfl⟩ := Identifier.type_eq_ok.mp hchild
  exact @isFilledBy_assign parent (nested options children record) target htarget _ _
    (Fill.children_nested _ origin)

end

/-- Without a statement of its own, what fills an attribute assigns to it as declared. -/
theorem conversion_isFilledBy {parent : String} {declared : Attribute} {code : Code}
    (hcustom : declared.options.customFill = none)
    (hcode : declared.conversion parent "data" "self" = .ok code) :
    declared.IsFilledBy parent code := by
  simp only [conversion, hcustom, bind_eq_ok] at hcode
  obtain ⟨origin, horigin, target, htarget, hcode⟩ := hcode
  have hdata := horigin
  rw [fieldPath_eq (.inr rfl)] at hdata
  obtain ⟨originMembers, -, rfl⟩ := map_eq_ok.mp hdata
  have hself := htarget
  rw [fieldPath_eq (.inl rfl)] at hself
  obtain ⟨targetMembers, -, rfl⟩ := map_eq_ok.mp hself
  cases declared with
  | plain options shape =>
      rw [← pure_eq_ok.mp hcode]
      exact isFilledBy_plain htarget originMembers shape
  | nested options children record =>
      simp only [bind_eq_ok, pure_eq_ok] at hcode
      obtain ⟨child, hchild, rfl⟩ := hcode
      exact isFilledBy_nested htarget originMembers hchild

end Attribute

end ProviderForge
