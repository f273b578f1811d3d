import ProviderForge.Code.Lifecycle
import ProviderForge.Proofs.Code.Reading

namespace ProviderForge

namespace Code

def endsItem : Token → Bool
  | .punct character _ => character == ';'
  | .group delimiter _ => delimiter == .brace
  | _ => false

/-- The pieces that semicolons and blocks end. -/
def items : Code → List Code
  | [] => []
  | token :: rest =>
      if endsItem token then [token] :: items rest
      else match items rest with
        | [] => [[token]]
        | first :: others => (token :: first) :: others

def isComplete (code : Code) : Bool :=
  code.getLast?.all endsItem

theorem items_cons_of_ends {token : Token} (hends : endsItem token = true) (rest : Code) :
    items (token :: rest) = [token] :: items rest := by
  simp [items, hends]

theorem items_cons_of_goes_on {token : Token} (hends : endsItem token = false) {rest first : Code}
    {others : List Code} (hrest : items rest = first :: others) :
    items (token :: rest) = (token :: first) :: others := by
  simp [items, hends, hrest]

theorem exists_items_cons (token : Token) (rest : Code) :
    ∃ first others, items (token :: rest) = first :: others := by
  unfold items
  split
  · exact ⟨_, _, rfl⟩
  · split <;> exact ⟨_, _, rfl⟩

theorem items_append {left : Code} (hleft : isComplete left = true) (right : Code) :
    items (left ++ right) = items left ++ items right := by
  induction left with
  | nil => rfl
  | cons token rest ih =>
      rw [List.cons_append]
      cases rest with
      | nil =>
          have hends : endsItem token = true := hleft
          rw [items_cons_of_ends hends, items_cons_of_ends hends]
          rfl
      | cons next rest =>
          have hrest := ih hleft
          cases hends : endsItem token with
          | true =>
              rw [items_cons_of_ends hends, items_cons_of_ends hends, hrest]
              rfl
          | false =>
              obtain ⟨first, others, hitems⟩ := exists_items_cons next rest
              rw [hitems] at hrest
              rw [items_cons_of_goes_on hends hitems, items_cons_of_goes_on hends hrest]
              rfl

inductive Declaration
  | record (name : String) (fields : List Code)
  | inherent (typeName : String) (content : Code)
  | implementation (role traitName typeName : String) (content : Code)

def declaration? : Code → Option Declaration
  | .punct '#' _ :: .group .bracket _ :: .ident "pub" :: .ident "struct" :: .ident name ::
      .group .brace members :: [] => some (.record name (pieces members))
  | .ident "impl" :: .ident typeName :: .group .brace content :: [] =>
      some (.inherent typeName content)
  | .ident "impl" :: .ident role :: .punct ':' _ :: .punct ':' _ :: .ident traitName ::
      .ident "for" :: .ident typeName :: .group .brace content :: [] =>
      some (.implementation role traitName typeName content)
  | _ => none

def declarations (file : Code) : List Declaration :=
  (items file).filterMap declaration?

def function? : Code → Option (String × Code)
  | .ident "fn" :: .ident name :: .group .parenthesis _ :: .group .brace body :: [] =>
      some (name, body)
  | .ident "async" :: .ident "fn" :: .ident name :: .group .parenthesis _ ::
      .group .brace body :: [] => some (name, body)
  | _ => none

def functions (content : Code) : List (String × Code) :=
  (items content).filterMap function?

/-- The code declares the function of this name and body, and goes on with other functions. -/
def IsFunction (name : String) (body code : Code) : Prop :=
  ∀ rest, functions (code ++ rest) = (name, body) :: functions rest

def modelType? : Code → Option String
  | .ident "let" :: .ident "mut" :: .ident "data" :: .punct '=' _ :: .ident typeName ::
      .punct ':' _ :: _ => some typeName
  | _ => none

/-- The element type of the vector that a statement declares for records. -/
def elementType? : Code → Option Code
  | .ident "let" :: .ident "mut" :: .ident "model_instances" :: .punct ':' _ :: .ident "Vec" ::
      .punct '<' _ :: rest => some (before (Token.isMark '>') rest)
  | _ => none

def filledFrom? : Code → Option Code
  | [.ident "resp", .punct '.' _, .ident "diagnostics", .punct '.' _, .ident "append",
      .group .parenthesis [.ident "data", .punct '.' _, .ident "fill", .group .parenthesis origin],
      .punct ';' _] => some origin
  | _ => none

def collectedType? (body : Code) : Option Code :=
  (items body).findSome? elementType?

def filledFrom (body : Code) : Option Code :=
  ((items body).filterMap filledFrom?).getLast?

theorem isComplete_append {left right : Code} (hright : right ≠ []) :
    isComplete (left ++ right) = isComplete right := by
  rw [isComplete, isComplete, List.getLast?_append,
    List.getLast?_eq_some_getLast hright, Option.some_or]

namespace Declaration

def fields? (recordName : String) : Declaration → Option (List Code)
  | .record name fields => if name = recordName then some fields else none
  | _ => none

def fillSource? (recordName : String) : Declaration → Option Code
  | .inherent typeName (.ident "pub" :: .ident "fn" :: .ident "fill" ::
      .group .parenthesis (.punct '&' _ :: .ident "mut" :: .ident "self" :: .punct ',' _ ::
        .ident "data" :: .punct ':' _ :: .punct '&' _ :: sourceType) :: _) =>
      if typeName = recordName then some sourceType else none
  | _ => none

def functions? (traitName typeName : String) : Declaration → Option (List (String × Code))
  | .implementation _ found owner content =>
      if found = traitName ∧ owner = typeName then some (functions content) else none
  | _ => none

end Declaration

def recordFields? (recordName : String) (file : Code) : Option (List Code) :=
  (declarations file).findSome? (Declaration.fields? recordName)

def fillSource? (recordName : String) (file : Code) : Option Code :=
  (declarations file).findSome? (Declaration.fillSource? recordName)

def traitFunctions (traitName typeName : String) (file : Code) : List (String × Code) :=
  ((declarations file).findSome? (Declaration.functions? traitName typeName)).getD []

end Code

open Code

namespace Lifecycle

def front (identifier : Identifier) (base role traitName : String) (content : Code) : Code :=
  imports ++ entityType identifier base role traitName ++
    implementation role traitName identifier content

theorem isFunction_asyncMethod (role stem methodName requestName : String) (body : Code) :
    IsFunction methodName body (asyncMethod role stem methodName requestName body) := fun _ => rfl

theorem filledFrom_fillFrom {ahead : Code} (hahead : isComplete ahead = true) (origin : Code) :
    filledFrom (ahead ++ (fillFrom origin ++ store)) = some origin := by
  have hfilled : (items (fillFrom origin ++ store)).filterMap filledFrom? = [origin] := rfl
  rw [filledFrom, items_append hahead, List.filterMap_append, hfilled, List.getLast?_concat]

variable (identifier : Identifier) (base role traitName : String) (content rest : Code)

theorem declarations_front :
    ∃ members constructor, declarations (front identifier base role traitName content ++ rest) =
      .record identifier.text members :: .inherent identifier.text constructor ::
        .implementation role traitName identifier.text content :: declarations rest :=
  ⟨_, _, rfl⟩

theorem traitFunctions_front :
    traitFunctions traitName identifier.text
        (front identifier base role traitName content ++ rest) = functions content := by
  obtain ⟨members, constructor, hfront⟩ :=
    declarations_front identifier base role traitName content rest
  simp [traitFunctions, hfront, List.findSome?_cons, Declaration.functions?]

/-- The entity's own record has another name than its model. -/
theorem recordFields?_front {recordName : String} (hname : identifier.text ≠ recordName) :
    recordFields? recordName (front identifier base role traitName content ++ rest) =
      recordFields? recordName rest := by
  obtain ⟨members, constructor, hfront⟩ :=
    declarations_front identifier base role traitName content rest
  simp [recordFields?, hfront, List.findSome?_cons, Declaration.fields?, hname]

theorem fillSource?_front (recordName : String) :
    fillSource? recordName (front identifier base role traitName content ++ rest) =
      fillSource? recordName rest := rfl

theorem recordFields?_implementation (recordName : String) :
    recordFields? recordName (implementation role traitName identifier content ++ rest) =
      recordFields? recordName rest := rfl

theorem fillSource?_implementation (recordName : String) :
    fillSource? recordName (implementation role traitName identifier content ++ rest) =
      fillSource? recordName rest := rfl

end Lifecycle

namespace Model

theorem recordFields?_recordDeclaration (identifier : Identifier) (members : List Code)
    (rest : Code) :
    recordFields? identifier.text (recordDeclaration identifier members ++ rest) =
      some (pieces (terminated members)) := by
  have hrecord : declarations (recordDeclaration identifier members ++ rest) =
      .record identifier.text (pieces (terminated members)) :: declarations rest := rfl
  simp [recordFields?, hrecord, Declaration.fields?]

theorem fillSource?_recordDeclaration (recordName : String) (identifier : Identifier)
    (members : List Code) (rest : Code) :
    fillSource? recordName (recordDeclaration identifier members ++ rest) =
      fillSource? recordName rest := rfl

theorem fillSource?_fillDeclaration (identifier : Identifier) (sourceType body rest : Code) :
    fillSource? identifier.text (fillDeclaration identifier sourceType body ++ rest) =
      some sourceType := by
  have hfill : ∃ content, declarations (fillDeclaration identifier sourceType body ++ rest) =
      .inherent identifier.text content :: declarations rest ∧
        Declaration.fillSource? identifier.text (.inherent identifier.text content) =
          if identifier.text = identifier.text then some sourceType else none := ⟨_, rfl, rfl⟩
  obtain ⟨content, hcode, hsource⟩ := hfill
  rw [if_pos rfl] at hsource
  rw [fillSource?, hcode, List.findSome?_cons, hsource]

end Model

end ProviderForge
