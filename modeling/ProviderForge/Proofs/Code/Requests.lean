import ProviderForge.Code.DataSource
import ProviderForge.Code.Resource
import ProviderForge.Proofs.Code.Calls
import ProviderForge.Proofs.Code.Record
import ProviderForge.Proofs.Definition.Nesting

namespace ProviderForge

open Code Result

theorem Identifier.method_text {operation : String} {method : Identifier}
    (hmethod : Identifier.method operation = .ok method) :
    method.text = Name.fieldText (Name.snake operation) := by
  rw [Identifier.method, field_eq_ok] at hmethod
  rw [hmethod.2, Name.fieldText]

/-- A plain value that code reads from a field of the model. -/
structure Access where
  field : String
  kind : AttributeKind

namespace Access

def kind? : String → Option AttributeKind
  | "value_string" => some .string
  | "value_int64" => some .int
  | "value_bool" => some .bool
  | _ => none

def read? : Code → Option Access
  | [.ident root, .punct '.' _, .ident field, .punct '.' _, .ident accessor,
      .group .parenthesis []] =>
      if root = "data" then (kind? accessor).map fun kind => ⟨field, kind⟩ else none
  | _ => none

def code (field accessor : String) : Code :=
  [.ident "data", .punct '.' .alone, .ident field, .punct '.' .alone, .ident accessor,
    .group .parenthesis []]

theorem read?_code (field accessor : String) :
    read? (code field accessor) = (kind? accessor).map fun kind => ⟨field, kind⟩ := rfl

theorem lacks_comma_code (field accessor : String) :
    Lacks (Token.isMark ',') (code field accessor) := rfl

theorem code_ne_nil (field accessor : String) : code field accessor ≠ [] :=
  List.cons_ne_nil _ _

theorem remoteCalls_code (field accessor : String) : remoteCalls (code field accessor) = [] := rfl

end Access

namespace Attribute

theorem kind?_of_extractor? {kind : AttributeKind} {accessor : String}
    (haccessor : extractor? kind = some accessor) : Access.kind? accessor = some kind := by
  cases kind <;> simp only [extractor?, reduceCtorEq, Option.some.injEq] at haccessor <;>
    subst haccessor <;> rfl

theorem code_of_extraction {declared : Attribute} {code : Code}
    (hcode : declared.extraction "data" = .ok code) :
    Name.fault? declared.name = none ∧ ∃ accessor, extractor? declared.kind = some accessor ∧
      code = Access.code (Name.fieldText declared.name) accessor := by
  simp only [extraction, fieldPath_eq (.inr rfl), bind_eq_ok, map_eq_ok, List.mapM_cons,
    List.mapM_nil, pure_eq_ok, exists_eq_left', Identifier.field_eq_ok] at hcode
  obtain ⟨value, ⟨members, ⟨identifier, ⟨hname, rfl⟩, rfl⟩, rfl⟩, hcode⟩ := hcode
  cases haccessor : extractor? declared.kind with
  | none => simp [haccessor] at hcode
  | some accessor =>
      rw [haccessor] at hcode
      exact ⟨hname, accessor, rfl, (pure_eq_ok.mp hcode).symm⟩

end Attribute

namespace ClientCall

variable {entity context : String} {siblings : List Attribute} {requested : List String}
  {codes : List Code}

theorem argument_ok {name : String} {code : Code}
    (hcode : (match lookup? siblings name with
      | some declared => declared.extraction "data"
      | none => .error (.unknownAttribute entity name context)) = .ok code) :
    ∃ declared ∈ siblings, declared.name = name ∧ declared.extraction "data" = .ok code := by
  cases hlookup : lookup? siblings name with
  | none => simp [hlookup] at hcode
  | some declared =>
      rw [hlookup] at hcode
      have hname : declared.name = name := by simpa using List.find?_some hlookup
      exact ⟨declared, Attribute.mem_of_lookup? hlookup, hname, hcode⟩

theorem exists_of_arguments
    (hcodes : arguments entity context siblings requested "data" = .ok codes) :
    ∀ code ∈ codes, ∃ declared ∈ siblings, declared.extraction "data" = .ok code := by
  intro code hmem
  obtain ⟨name, -, hcode⟩ := exists_of_mapM_ok hcodes code hmem
  obtain ⟨declared, hdeclared, -, hextraction⟩ := argument_ok hcode
  exact ⟨declared, hdeclared, hextraction⟩

theorem fields_of_arguments
    (hcodes : arguments entity context siblings requested "data" = .ok codes) :
    codes.map (fun code => (Access.read? code).map Access.field) =
      requested.map fun name => some (Name.fieldText name) := by
  refine map_of_mapM_ok hcodes fun name code hcode => ?_
  obtain ⟨declared, -, rfl, hextraction⟩ := argument_ok hcode
  obtain ⟨-, accessor, haccessor, rfl⟩ := Attribute.code_of_extraction hextraction
  rw [Access.read?_code, Attribute.kind?_of_extractor? haccessor]
  rfl

def AreAccesses (codes : List Code) : Prop :=
  ∀ code ∈ codes, ∃ field accessor, code = Access.code field accessor

theorem areAccesses (hcodes : arguments entity context siblings requested "data" = .ok codes) :
    AreAccesses codes := by
  intro code hmem
  obtain ⟨declared, -, hextraction⟩ := exists_of_arguments hcodes code hmem
  obtain ⟨-, accessor, -, rfl⟩ := Attribute.code_of_extraction hextraction
  exact ⟨_, accessor, rfl⟩

namespace AreAccesses

theorem lacks_comma (hcodes : AreAccesses codes) :
    ∀ code ∈ codes, Lacks (Token.isMark ',') code ∧ code ≠ [] := by
  intro code hmem
  obtain ⟨field, accessor, rfl⟩ := hcodes code hmem
  exact ⟨Access.lacks_comma_code field accessor, Access.code_ne_nil field accessor⟩

theorem pieces_terminated (hcodes : AreAccesses codes) :
    pieces (terminated codes ++ []) = codes := by
  rw [List.append_nil]
  exact Code.pieces_terminated fun code hmem => (hcodes.lacks_comma code hmem).1

theorem pieces_terminated_reference (hcodes : AreAccesses codes) (name : String) :
    pieces (terminated codes ++ reference (word name)) = codes ++ [reference (word name)] :=
  pieces_terminated_append (fun code hmem => (hcodes.lacks_comma code hmem).1) _

theorem flatMap_remoteCalls (hcodes : AreAccesses codes) : codes.flatMap remoteCalls = [] := by
  refine List.flatMap_eq_nil_iff.mpr fun code hmem => ?_
  obtain ⟨field, accessor, rfl⟩ := hcodes code hmem
  exact Access.remoteCalls_code field accessor

theorem remoteCalls_listed (hcodes : AreAccesses codes) : remoteCalls (listed codes) = [] := by
  rw [Code.remoteCalls_listed, hcodes.flatMap_remoteCalls]

theorem remoteCalls_terminated (hcodes : AreAccesses codes) (trailing : Code) :
    remoteCalls (terminated codes ++ trailing) = remoteCalls trailing := by
  rw [Code.remoteCalls_terminated, hcodes.flatMap_remoteCalls, List.nil_append]

end AreAccesses

variable {method : Identifier} {arguments : Code}

theorem remoteCalls_bindResponse (harguments : remoteCalls arguments = []) (verb : String)
    (rest : Code) :
    remoteCalls (bindResponse (call (field Lifecycle.client (ident method)) arguments) verb ++
        rest) =
      ⟨method.text, pieces arguments⟩ :: remoteCalls rest := by
  have hcalls : remoteCalls
      (bindResponse (call (field Lifecycle.client (ident method)) arguments) verb ++ rest) =
        ⟨method.text, pieces arguments⟩ :: (remoteCalls arguments ++ remoteCalls rest) := rfl
  rw [hcalls, harguments, List.nil_append]

theorem remoteCalls_checked (harguments : remoteCalls arguments = []) (verb : String)
    (failure : CallFailure) (rest : Code) :
    remoteCalls
        (checked (call (field Lifecycle.client (ident method)) arguments) verb failure ++ rest) =
      ⟨method.text, pieces arguments⟩ :: remoteCalls rest := by
  cases failure with
  | diagnostic =>
      simp only [checked, List.append_assoc]
      rw [remoteCalls_bindResponse harguments]
      rfl
  | propagate =>
      have hcalls : ∀ behind : Code, remoteCalls (bind response
          (invoke (awaited (call (field Lifecycle.client (ident method)) arguments)) "map_err"
            (closure (word "err") (formatted (transportMessage verb))) ++ mark '?') ++ behind) =
          ⟨method.text, pieces arguments⟩ :: (remoteCalls arguments ++ remoteCalls behind) :=
        fun _ => rfl
      simp only [checked, List.append_assoc]
      rw [hcalls, harguments, List.nil_append]
      rfl

theorem isFresh_checked (call : Code) (verb : String) (failure : CallFailure) (rest : Code) :
    isFresh (checked call verb failure ++ rest) = true := by
  cases failure <;> rfl

/-- A loop over pages makes the calls of the code around its one call, and that call. -/
theorem remoteCalls_pages (harguments : remoteCalls arguments = []) (verb : String)
    (failure : CallFailure) (initLoop preIterate behind rest : Code) :
    remoteCalls (initLoop ++ (loop (preIterate ++
        (checked (call (field Lifecycle.client (ident method)) arguments) verb failure ++
          behind)) ++ rest)) =
      remoteCalls initLoop ++ remoteCalls preIterate ++
        ⟨method.text, pieces arguments⟩ :: remoteCalls behind ++ remoteCalls rest := by
  have hloop : ∀ body : Code, remoteCalls (loop body ++ rest) =
      remoteCalls body ++ remoteCalls rest := fun _ => rfl
  rw [remoteCalls_append_fresh initLoop rfl, hloop,
    remoteCalls_append_fresh preIterate (isFresh_checked _ _ _ _), remoteCalls_checked harguments]
  simp only [List.append_assoc]

end ClientCall

theorem Lifecycle.remoteCalls_load (model : Identifier) (origin : String) (rest : Code) :
    remoteCalls (load model origin ++ rest) = remoteCalls rest := rfl

namespace DataSource

variable {method : Identifier} {arguments : List Code}

theorem remoteCalls_simpleRead (harguments : ClientCall.AreAccesses arguments)
    (model : Identifier) :
    remoteCalls (Lifecycle.load model "config" ++ simpleRead method arguments ++
        Lifecycle.store) = [⟨method.text, arguments⟩] := by
  simp only [simpleRead, List.append_assoc]
  rw [Lifecycle.remoteCalls_load, ClientCall.remoteCalls_checked harguments.remoteCalls_listed,
    pieces_listed harguments.lacks_comma]
  rfl

theorem remoteCalls_paginatedRead (harguments : ClientCall.AreAccesses arguments)
    (model element parameters : Identifier) (initLoop preIterate postIterate : Code) :
    remoteCalls (Lifecycle.load model "config" ++
        paginatedRead method element parameters arguments initLoop preIterate postIterate ++
        Lifecycle.store) =
      remoteCalls initLoop ++ remoteCalls preIterate ++
        ⟨method.text, arguments ++ [reference (word "params")]⟩ :: remoteCalls postIterate := by
  have hahead : ∀ rest : Code, remoteCalls (word "let" ++ (word "mut" ++ (word "model_instances" ++
      (mark ':' ++ (word "Vec" ++ (angled (Model.remoteType element) ++ (mark '=' ++
        (statement (call (path ["Vec", "new"]) []) ++ (bindMutable "params"
          (defaultOf (within (word "apiclient") (ident parameters))) ++ rest))))))))) =
      remoteCalls rest := fun _ => rfl
  have htrailing := harguments.remoteCalls_terminated (reference (word "params"))
  simp only [paginatedRead, List.append_assoc]
  have hnext : ∀ behind : Code, remoteCalls (statement
      (invoke (word "model_instances") "extend_from_slice" (word "body")) ++ (advance ++ behind)) =
        remoteCalls behind := fun _ => rfl
  rw [Lifecycle.remoteCalls_load, hahead, ClientCall.remoteCalls_pages htrailing, hnext,
    harguments.pieces_terminated_reference]
  have hbehind : remoteCalls (Lifecycle.fillFrom (reference (word "model_instances")) ++
      Lifecycle.store) = [] := rfl
  rw [hbehind, List.append_nil, List.append_assoc]

end DataSource

namespace Resource

open ClientCall

theorem operationCall_ok {declared : Resource} {operation : Operation} {context : String}
    {trailing code : Code} (hcode : operationCall declared operation context trailing = .ok code) :
    ∃ method arguments, Identifier.method operation.method = .ok method ∧
      ClientCall.arguments declared.name context declared.attributes operation.arguments "data" =
        .ok arguments ∧
      code = call (field Lifecycle.client (ident method)) (terminated arguments ++ trailing) := by
  simp only [operationCall, bind_eq_ok, pure_eq_ok] at hcode
  obtain ⟨method, hmethod, arguments, harguments, rfl⟩ := hcode
  exact ⟨method, arguments, hmethod, harguments, rfl⟩

variable {method : Identifier} {arguments : List Code}

theorem remoteCalls_send (harguments : AreAccesses arguments) (model : Identifier)
    (builder verb : String) :
    remoteCalls (Lifecycle.load model "plan" ++ bindRequestBody builder ++
        checked (call (field Lifecycle.client (ident method))
          (terminated arguments ++ reference (word "request_body"))) verb .diagnostic ++
        Lifecycle.fillFrom (word "body") ++ Lifecycle.store) =
      [⟨method.text, arguments ++ [reference (word "request_body")]⟩] := by
  have hbuilt : ∀ rest, remoteCalls (bindRequestBody builder ++ rest) = remoteCalls rest :=
    fun _ => rfl
  simp only [List.append_assoc]
  rw [Lifecycle.remoteCalls_load, hbuilt,
    remoteCalls_checked (harguments.remoteCalls_terminated _),
    harguments.pieces_terminated_reference]
  rfl

theorem remoteCalls_directRead (harguments : AreAccesses arguments)
    (model : Identifier) :
    remoteCalls (Lifecycle.load model "state" ++
        (checked (call (field Lifecycle.client (ident method)) (terminated arguments ++ []))
          "read" .diagnostic ++ Lifecycle.fillFrom (word "body")) ++ Lifecycle.store) =
      [⟨method.text, arguments⟩] := by
  simp only [List.append_assoc]
  rw [Lifecycle.remoteCalls_load,
    remoteCalls_checked (harguments.remoteCalls_terminated _), harguments.pieces_terminated]
  rfl

theorem remoteCalls_delete (harguments : AreAccesses arguments) (model : Identifier) :
    remoteCalls (Lifecycle.load model "state" ++
        checkDeleted (call (field Lifecycle.client (ident method)) (terminated arguments ++ []))) =
      [⟨method.text, arguments⟩] := by
  simp only [checkDeleted, List.append_assoc]
  rw [Lifecycle.remoteCalls_load,
    remoteCalls_bindResponse (harguments.remoteCalls_terminated _), harguments.pieces_terminated]
  rfl

theorem remoteCalls_scan (harguments : AreAccesses arguments) {parts : ListParts}
    (hcall : parts.call = call (field Lifecycle.client (ident method))
      (terminated arguments ++ reference (word "params"))) (limit : Nat) :
    remoteCalls (scan parts limit) =
      remoteCalls parts.initLoop ++ remoteCalls parts.preIterate ++
        ⟨method.text, arguments ++ [reference (word "params")]⟩ ::
          remoteCalls parts.postIterate := by
  have hparameters : ∀ rest, remoteCalls (listParameters parts.parameters limit ++ rest) =
      remoteCalls rest := fun _ => rfl
  have hmatch : ∀ rest, remoteCalls (returnMatch ++ (advance parts.hasMore parts.cursor ++ rest)) =
      remoteCalls rest := fun _ => rfl
  simp only [scan, hcall, List.append_assoc]
  rw [hparameters, remoteCalls_pages (harguments.remoteCalls_terminated _), hmatch,
    harguments.pieces_terminated_reference]
  have hending : remoteCalls (call (word "Err") (ownedText notFoundInList)) = [] := rfl
  rw [hending, List.append_nil, List.append_assoc]

theorem remoteCalls_listedRead (options : ListRead) (parts : ListParts) (model : Identifier) :
    remoteCalls (Lifecycle.load model "state" ++ listedRead options parts ++ Lifecycle.store) =
      remoteCalls (scan parts options.pageLimit.toNat) := by
  have hretried : ∀ (attempts delay : Nat) (attempt rest : Code),
      remoteCalls (bind (word "result") (awaited (call (path ["retry", "with_fixed_delay"])
        (listed [number attempts,
          call (path ["std", "time", "Duration", "from_secs"]) (number delay),
          operator '|' '|' ++ (word "async" ++ braces attempt)]))) ++ rest) =
        remoteCalls attempt ++ [] ++ remoteCalls rest :=
    fun _ _ _ _ => rfl
  simp only [listedRead, List.append_assoc]
  rw [Lifecycle.remoteCalls_load, hretried, List.append_nil]
  have hrest : remoteCalls (bind (word "response_data") (choose (word "result")
      (arm (call (word "Ok") (word "item")) (word "item") ++
        armBlock (call (word "Err") (word "err"))
          (addError "Client Error" (word "err") ++ statement (word "return")))) ++
      (Lifecycle.fillFrom (reference (word "response_data")) ++ Lifecycle.store)) = [] := rfl
  rw [hrest, List.append_nil]

end Resource

end ProviderForge
