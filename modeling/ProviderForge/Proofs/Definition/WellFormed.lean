import ProviderForge.Definition.BuiltIn
import ProviderForge.Proofs.Definition.Nesting

namespace ProviderForge

open Result

/-- An ASCII identifier that is not reserved. -/
def Name.IsIdentifier (name : String) : Prop :=
  (∃ first rest, name.toList = first :: rest ∧ (first.isAlpha = true ∨ first = '_') ∧
    ∀ character ∈ rest, character.isAlphanum = true ∨ character = '_') ∧
  name ∉ ["self", "Self", "super", "crate", "_"]

namespace Name

theorem canStart_iff {character : Char} :
    canStart character = true ↔ character.isAlpha = true ∨ character = '_' := by
  have hupper : character.isUpper = (decide ('A' ≤ character) && decide (character ≤ 'Z')) :=
    Bool.decide_and _ _
  have hletter : Text.isAsciiLetter character = (character.isLower || character.isUpper) := by
    rw [hupper]
    rfl
  have halpha : character.isAlpha = (character.isUpper || character.isLower) := rfl
  rw [canStart, hletter, halpha, Bool.or_comm character.isLower, Bool.or_eq_true, beq_iff_eq]

theorem canContinue_iff {character : Char} :
    canContinue character = true ↔ character.isAlphanum = true ∨ character = '_' := by
  have hstart : canStart character = true ↔ character.isAlpha = true ∨ character = '_' :=
    canStart_iff
  simp only [canStart, Bool.or_eq_true, beq_iff_eq] at hstart
  simp only [canContinue, Char.isAlphanum, Char.isDigit, Text.isAsciiDigit, Bool.or_eq_true,
    Bool.and_eq_true, decide_eq_true_eq, beq_iff_eq, ge_iff_le]
  rw [or_right_comm, hstart, or_right_comm]
  rfl

theorem isIdentifier_iff {name : String} : IsIdentifier name ↔ fault? name = none := by
  rw [fault?_eq_none, IsIdentifier, IsWord]
  simp only [canStart_iff, List.all_eq_true, canContinue_iff]
  rfl

end Name

theorem Identifier.exists_field_eq_ok {name : String} :
    (∃ identifier, field name = .ok identifier) ↔ Name.IsIdentifier name := by
  simp only [field_eq_ok, exists_and_left, exists_eq, and_true, Name.isIdentifier_iff]

theorem Name.validate_eq_error {name : String} {failure : Failure} :
    validate name = .error failure ↔
      ∃ fault, fault? name = some fault ∧ failure = .invalidIdentifier name fault := by
  unfold validate
  cases fault? name with
  | none => simp
  | some fault =>
      simp only [Except.error.injEq, Option.some.injEq, exists_eq_left']
      exact eq_comm

theorem Identifier.field_eq_error {name : String} {failure : Failure} :
    field name = .error failure ↔
      ∃ fault, Name.fault? name = some fault ∧ failure = .invalidIdentifier name fault := by
  rw [field, bind_eq_error, Name.validate_eq_error, or_iff_left]
  rintro ⟨_, -, hlater⟩
  split at hlater <;> simp at hlater

namespace Attribute

/-- The lists of attributes that are declared side by side, at every depth. -/
def levels (attributes : List Attribute) : List (List Attribute) :=
  attributes :: (everywhere attributes).map children

theorem withNested_eq (declared : Attribute) :
    declared.withNested = declared :: everywhere declared.children := by
  cases declared <;> rfl

theorem levels_cons (first : Attribute) (rest : List Attribute) :
    (everywhere (first :: rest)).map children =
      levels first.children ++ (everywhere rest).map children := by
  rw [everywhere_cons, withNested_eq, List.map_append, List.map_cons]
  rfl

theorem checkChildren_eq (entity : String) (declared : Attribute) :
    declared.checkChildren entity = checkSiblings entity [] declared.children := by
  cases declared with
  | plain options shape => rfl
  | nested options children model => rfl

mutual
/-- What holds of a list of attributes if it holds of what its first one nests and of the rest. -/
theorem siblings_induction {motive : List Attribute → Prop} (nil : motive [])
    (cons : ∀ first rest, motive first.children → motive rest → motive (first :: rest)) :
    (siblings : List Attribute) → motive siblings
  | [] => nil
  | first :: rest =>
      cons first rest (children_induction nil cons first) (siblings_induction nil cons rest)

theorem children_induction {motive : List Attribute → Prop} (nil : motive [])
    (cons : ∀ first rest, motive first.children → motive rest → motive (first :: rest)) :
    (declared : Attribute) → motive declared.children
  | plain _ _ => nil
  | nested _ children _ => siblings_induction nil cons children
end

/-- `seen` counts as declared before the siblings. -/
theorem checkSiblings_eq_ok {entity : String} {seen : List String} (siblings : List Attribute)
    (hseen : seen.Nodup) :
    checkSiblings entity seen siblings = .ok () ↔
      (∀ inner ∈ everywhere siblings, Name.IsIdentifier inner.name) ∧
        (seen ++ siblings.map (·.name)).Nodup ∧
        ∀ level ∈ (everywhere siblings).map children, (level.map (·.name)).Nodup := by
  induction siblings using siblings_induction generalizing seen with
  | nil => simp [checkSiblings, everywhere, hseen]
  | cons first rest ihchildren ihrest =>
      have horder : (seen ++ (first :: rest).map (·.name)).Perm
          (first.name :: seen ++ rest.map (·.name)) := List.perm_middle
      rw [checkSiblings, checkChildren_eq, levels_cons, everywhere_cons, withNested_eq,
        horder.nodup_iff]
      by_cases hmem : first.name ∈ seen
      · simp [hmem]
      · have hnext : (first.name :: seen).Nodup := List.nodup_cons.mpr ⟨hmem, hseen⟩
        simp only [List.contains_eq_mem, hmem, decide_false, Bool.false_eq_true, if_false,
          bind_eq_ok, exists_unit, ihchildren List.nodup_nil, ihrest hnext, exists_and_right,
          Identifier.exists_field_eq_ok, List.nil_append, levels, List.forall_mem_append,
          List.forall_mem_cons]
        constructor
        · rintro ⟨hfirst, ⟨hchildren, hlevel, hlevels⟩, hrest, hnodup, hothers⟩
          exact ⟨⟨⟨hfirst, hchildren⟩, hrest⟩, hnodup, ⟨hlevel, hlevels⟩, hothers⟩
        · rintro ⟨⟨⟨hfirst, hchildren⟩, hrest⟩, hnodup, ⟨hlevel, hlevels⟩, hothers⟩
          exact ⟨hfirst, ⟨hchildren, hlevel, hlevels⟩, hrest, hnodup, hothers⟩

theorem checkSiblings_error {entity : String} {seen : List String} (siblings : List Attribute)
    {failure : Failure} (herror : checkSiblings entity seen siblings = .error failure) :
    (∃ inner ∈ everywhere siblings, ∃ fault, Name.fault? inner.name = some fault ∧
        failure = .invalidIdentifier inner.name fault) ∨
      ∃ name, failure = .duplicateAttribute entity name ∧
        (2 ≤ (seen ++ siblings.map (·.name)).count name ∨
          ∃ inner ∈ everywhere siblings, 2 ≤ (inner.children.map (·.name)).count name) := by
  induction siblings using siblings_induction generalizing seen with
  | nil => simp [checkSiblings] at herror
  | cons first rest ihchildren ihrest =>
      rw [everywhere_cons, withNested_eq]
      simp only [checkSiblings, checkChildren_eq, bind_eq_error] at herror
      rcases herror with hfirst | ⟨_, -, hafter⟩
      · obtain ⟨fault, hfault, rfl⟩ := Identifier.field_eq_error.mp hfirst
        exact .inl ⟨first, by simp, fault, hfault, rfl⟩
      split at hafter
      next hseen =>
        obtain rfl : Failure.duplicateAttribute entity first.name = failure := by
          simpa using hafter
        have hbefore : 0 < seen.count first.name := List.count_pos_iff.mpr (by simpa using hseen)
        refine .inr ⟨first.name, rfl, .inl ?_⟩
        simp only [List.map_cons, List.count_append, List.count_cons_self]
        omega
      next hseen =>
        simp only [bind_eq_error] at hafter
        rcases hafter with hchildren | ⟨_, -, hrest⟩
        · rcases ihchildren hchildren with ⟨inner, hmem, hfault⟩ |
            ⟨name, rfl, htwice | ⟨inner, hmem, htwice⟩⟩
          · exact .inl ⟨inner, by simp [hmem], hfault⟩
          · exact .inr ⟨name, rfl, .inr ⟨first, by simp, by simpa using htwice⟩⟩
          · exact .inr ⟨name, rfl, .inr ⟨inner, by simp [hmem], htwice⟩⟩
        · rcases ihrest hrest with ⟨inner, hmem, hfault⟩ |
            ⟨name, rfl, htwice | ⟨inner, hmem, htwice⟩⟩
          · exact .inl ⟨inner, by simp [hmem], hfault⟩
          · have horder : (seen ++ (first :: rest).map (·.name)).Perm
                (first.name :: seen ++ rest.map (·.name)) := List.perm_middle
            exact .inr ⟨name, rfl, .inl (by rwa [horder.count_eq])⟩
          · exact .inr ⟨name, rfl, .inr ⟨inner, by simp [hmem], htwice⟩⟩

theorem lookup?_of_mem {siblings : List Attribute} (hnodup : (siblings.map (·.name)).Nodup)
    {declared : Attribute} (hmem : declared ∈ siblings) :
    ClientCall.lookup? siblings declared.name = some declared := by
  induction siblings with
  | nil => simp at hmem
  | cons first rest ih =>
      obtain ⟨hfresh, hrest⟩ := List.nodup_cons.mp hnodup
      rcases List.mem_cons.mp hmem with rfl | hmem
      · simp [ClientCall.lookup?]
      · have hne : first.name ≠ declared.name :=
          fun heq => hfresh (List.mem_map.mpr ⟨declared, hmem, heq.symm⟩)
        simpa [ClientCall.lookup?, hne] using ih hrest hmem

theorem lookup?_eq_some {siblings : List Attribute} (hnodup : (siblings.map (·.name)).Nodup)
    {requested : String} {declared : Attribute} :
    ClientCall.lookup? siblings requested = some declared ↔
      declared ∈ siblings ∧ declared.name = requested := by
  constructor
  · intro hlookup
    exact ⟨mem_of_lookup? hlookup, by simpa using List.find?_some hlookup⟩
  · rintro ⟨hmem, rfl⟩
    exact lookup?_of_mem hnodup hmem

theorem resolve_eq_error {entity context requested : String} {siblings : List Attribute}
    {failure : Failure} :
    resolve entity context siblings requested = .error failure ↔
      (∀ declared ∈ siblings, declared.name ≠ requested) ∧
        failure = .unknownAttribute entity requested context := by
  unfold resolve
  cases hlookup : ClientCall.lookup? siblings requested with
  | none =>
      have habsent : ∀ declared ∈ siblings, declared.name ≠ requested := by
        simpa [ClientCall.lookup?] using hlookup
      rw [Except.error.injEq, eq_comm]
      exact ⟨fun hfailure => ⟨habsent, hfailure⟩, And.right⟩
  | some declared =>
      have hname : declared.name = requested := by simpa using List.find?_some hlookup
      have hmem := mem_of_lookup? hlookup
      simp only [reduceCtorEq, false_iff, not_and]
      exact fun habsent => absurd hname (habsent declared hmem)

theorem isPrimitive_iff {kind : AttributeKind} :
    kind.isPrimitive = true ↔ kind = .string ∨ kind = .int ∨ kind = .bool := by
  cases kind <;> simp [AttributeKind.isPrimitive]

theorem checkRequest_eq_ok {entity context : String} {siblings : List Attribute}
    (hnodup : (siblings.map (·.name)).Nodup) {requested : List String} :
    checkRequest entity context siblings requested = .ok () ↔
      ∀ name ∈ requested, ∃ declared ∈ siblings, declared.name = name ∧
        (declared.kind = .string ∨ declared.kind = .int ∨ declared.kind = .bool) := by
  rw [checkRequest, forM_eq_ok]
  refine forall₂_congr fun name _ => ?_
  simp only [bind_eq_ok, resolve_eq_ok, lookup?_eq_some hnodup, ← isPrimitive_iff, and_assoc]
  refine exists_congr fun declared => and_congr_right fun _ => and_congr_right fun _ => ?_
  split <;> simp [*]

theorem checkRequest_error {entity context : String} {siblings : List Attribute}
    {requested : List String} {failure : Failure}
    (herror : checkRequest entity context siblings requested = .error failure) :
    ∃ name ∈ requested,
      ((∀ declared ∈ siblings, declared.name ≠ name) ∧
        failure = .unknownAttribute entity name context) ∨
      ∃ declared ∈ siblings, declared.name = name ∧ declared.kind.isPrimitive = false ∧
        failure = .notPrimitive name declared.kind.name := by
  obtain ⟨before, name, after, rfl, -, hname⟩ := forM_eq_error.mp herror
  refine ⟨name, by simp, ?_⟩
  rcases bind_eq_error.mp hname with hunknown | ⟨declared, hresolve, hkind⟩
  · exact .inl (resolve_eq_error.mp hunknown)
  · have hlookup := resolve_eq_ok.mp hresolve
    refine .inr ⟨declared, mem_of_lookup? hlookup, by simpa using List.find?_some hlookup, ?_⟩
    split at hkind
    next => simp at hkind
    next hprimitive => exact ⟨by simpa using hprimitive, (throw_eq_error.mp hkind).symm⟩

end Attribute

structure Entity where
  name : String
  attributes : List Attribute
  /-- The names that each operation asks for, with the context in which they are reported. -/
  requests : List (String × List String)
  imports : List String

def DataSource.entity (declared : DataSource) : Entity where
  name := declared.name
  attributes := declared.attributes
  requests := [("read request", declared.api.readArguments)]
  imports := []

def Resource.entity (declared : Resource) : Entity where
  name := declared.name
  attributes := declared.attributes
  requests :=
    [("create request", declared.api.create.arguments),
      ("read request", declared.api.read.arguments)] ++
    (declared.api.update.map fun operation => ("update request", operation.arguments)).toList ++
    (declared.api.delete.map fun operation => ("delete request", operation.arguments)).toList
  imports := declared.importAttributes

namespace Entity

def check (entity : Entity) : Except Failure Unit := do
  Name.validate entity.name
  Attribute.checkSiblings entity.name [] entity.attributes
  entity.requests.forM fun (context, requested) =>
    Attribute.checkRequest entity.name context entity.attributes requested
  entity.imports.forM fun requested => do
    let _ ← Attribute.resolve entity.name "import state" entity.attributes requested

def Asks (entity : Entity) (context name : String) : Prop :=
  ∃ requested, (context, requested) ∈ entity.requests ∧ name ∈ requested

structure IsWellFormed (entity : Entity) : Prop where
  name : Name.IsIdentifier entity.name
  names : ∀ inner ∈ Attribute.everywhere entity.attributes, Name.IsIdentifier inner.name
  distinct : ∀ siblings ∈ Attribute.levels entity.attributes, (siblings.map (·.name)).Nodup
  requests : ∀ context name, entity.Asks context name →
    ∃ declared ∈ entity.attributes, declared.name = name ∧
      (declared.kind = .string ∨ declared.kind = .int ∨ declared.kind = .bool)
  imports : ∀ name ∈ entity.imports, ∃ declared ∈ entity.attributes, declared.name = name

/-- The failure tells of something that is wrong with the entity. -/
inductive Blames (entity : Entity) : Failure → Prop
  | invalidIdentifier {name : String} {fault : IdentifierFault}
      (huser : name = entity.name ∨
        ∃ inner ∈ Attribute.everywhere entity.attributes, inner.name = name)
      (hfault : Name.fault? name = some fault) (hinvalid : ¬ Name.IsIdentifier name) :
      Blames entity (.invalidIdentifier name fault)
  | duplicateAttribute {name : String} {siblings : List Attribute}
      (hlevel : siblings ∈ Attribute.levels entity.attributes)
      (htwice : 2 ≤ (siblings.map (·.name)).count name) :
      Blames entity (.duplicateAttribute entity.name name)
  | unknownAttribute {name context : String}
      (hasked : entity.Asks context name ∨ context = "import state" ∧ name ∈ entity.imports)
      (habsent : ∀ declared ∈ entity.attributes, declared.name ≠ name) :
      Blames entity (.unknownAttribute entity.name name context)
  | notPrimitive {name context : String} {declared : Attribute}
      (hasked : entity.Asks context name) (hmem : declared ∈ entity.attributes)
      (hname : declared.name = name)
      (hkind : declared.kind ∈ [.list, .set, .setNested, .object]) :
      Blames entity (.notPrimitive name declared.kind.name)

theorem check_eq_ok {entity : Entity} : entity.check = .ok () ↔ entity.IsWellFormed := by
  simp only [check, bind_eq_ok, exists_unit, Name.validate_eq_ok, ← Name.isIdentifier_iff,
    Attribute.checkSiblings_eq_ok _ List.nodup_nil, List.nil_append, forM_eq_ok, Prod.forall,
    Attribute.resolve_eq_ok, pure_eq_ok, and_true]
  constructor
  · rintro ⟨hname, ⟨hnames, htop, hnested⟩, hrequests, himports⟩
    refine ⟨hname, hnames, List.forall_mem_cons.mpr ⟨htop, hnested⟩, ?_, fun name hmem => ?_⟩
    · rintro context name ⟨requested, hrequest, hmem⟩
      exact (Attribute.checkRequest_eq_ok htop).mp (hrequests context requested hrequest) name hmem
    · obtain ⟨declared, hlookup⟩ := himports name hmem
      exact ⟨declared, (Attribute.lookup?_eq_some htop).mp hlookup⟩
  · rintro ⟨hname, hnames, hdistinct, hrequests, himports⟩
    obtain ⟨htop, hnested⟩ := List.forall_mem_cons.mp hdistinct
    refine ⟨hname, ⟨hnames, htop, hnested⟩, fun context requested hrequest => ?_,
      fun name hmem => ?_⟩
    · exact (Attribute.checkRequest_eq_ok htop).mpr fun name hmem =>
        hrequests context name ⟨requested, hrequest, hmem⟩
    · obtain ⟨declared, hdeclared⟩ := himports name hmem
      exact ⟨declared, (Attribute.lookup?_eq_some htop).mpr hdeclared⟩

theorem Blames.ofIdentifier {entity : Entity} {name : String} {fault : IdentifierFault}
    (huser : name = entity.name ∨
      ∃ inner ∈ Attribute.everywhere entity.attributes, inner.name = name)
    (hfault : Name.fault? name = some fault) :
    entity.Blames (.invalidIdentifier name fault) := by
  refine .invalidIdentifier huser hfault fun hidentifier => ?_
  rw [Name.isIdentifier_iff.mp hidentifier] at hfault
  cases hfault

theorem blames_of_check {entity : Entity} {failure : Failure}
    (herror : entity.check = .error failure) : entity.Blames failure := by
  simp only [check, bind_eq_error, exists_unit] at herror
  rcases herror with hname | ⟨-, hsiblings | ⟨-, hrequests | ⟨-, himports⟩⟩⟩
  · obtain ⟨fault, hfault, rfl⟩ := Name.validate_eq_error.mp hname
    exact .ofIdentifier (.inl rfl) hfault
  · rcases Attribute.checkSiblings_error _ hsiblings with ⟨inner, hmem, fault, hfault, rfl⟩ |
      ⟨name, rfl, htwice | ⟨inner, hmem, htwice⟩⟩
    · exact .ofIdentifier (.inr ⟨inner, hmem, rfl⟩) hfault
    · exact .duplicateAttribute List.mem_cons_self htwice
    · exact .duplicateAttribute (List.mem_cons_of_mem _ (List.mem_map_of_mem hmem)) htwice
  · obtain ⟨before, ⟨context, requested⟩, after, hsplit, -, hrequest⟩ := forM_eq_error.mp hrequests
    obtain ⟨name, hmem, hfailure⟩ := Attribute.checkRequest_error hrequest
    have hasked : entity.Asks context name := ⟨requested, by simp [hsplit], hmem⟩
    rcases hfailure with ⟨habsent, rfl⟩ | ⟨declared, hdeclared, hname, hkind, rfl⟩
    · exact .unknownAttribute (.inl hasked) habsent
    · refine .notPrimitive hasked hdeclared hname ?_
      revert hkind
      cases declared.kind <;> simp [AttributeKind.isPrimitive]
  · obtain ⟨before, name, after, hsplit, -, hresolve⟩ := forM_eq_error.mp himports
    simp only [bind_eq_error, pure_eq_error, and_false, exists_false, or_false,
      Attribute.resolve_eq_error] at hresolve
    obtain ⟨habsent, rfl⟩ := hresolve
    exact .unknownAttribute (.inr ⟨rfl, by simp [hsplit]⟩) habsent

end Entity

theorem DataSource.check_entity (declared : DataSource) :
    declared.entity.check = declared.check := by
  unfold Entity.check DataSource.check
  simp [DataSource.entity]

theorem Resource.check_entity (declared : Resource) :
    declared.entity.check = declared.check := by
  have hrequests : declared.entity.requests =
      declared.requests.map fun request => (request.1, request.2.arguments) := by
    simp only [entity, requests, List.map_append, List.map_cons, List.map_nil]
    cases declared.api.update <;> cases declared.api.delete <;> rfl
  unfold Entity.check Resource.check
  simp only [hrequests, List.forM_eq_forM, List.forM_map]
  rfl

/-- The check accepts exactly the well-formed entities, and its failure tells what is wrong. -/
theorem accepts_wellFormed :
    (∀ declared : DataSource,
      (declared.check = .ok () ↔ declared.entity.IsWellFormed) ∧
      ∀ failure, declared.check = .error failure → declared.entity.Blames failure) ∧
    ∀ declared : Resource,
      (declared.check = .ok () ↔ declared.entity.IsWellFormed) ∧
      ∀ failure, declared.check = .error failure → declared.entity.Blames failure := by
  constructor
  · intro declared
    rw [← declared.check_entity]
    exact ⟨Entity.check_eq_ok, fun _ => Entity.blames_of_check⟩
  · intro declared
    rw [← declared.check_entity]
    exact ⟨Entity.check_eq_ok, fun _ => Entity.blames_of_check⟩

theorem accepts_wellFormed_repeated :
    let declared : DataSource := { BuiltIn.organization with
      attributes := [.setNested "projects" "" "Project"
        [.string "slug" "", .setNested "teams" "" "Team" [.string "slug" "", .int "slug" ""]]] }
    declared.check = .error (.duplicateAttribute "organization" "slug") ∧
      declared.entity.Blames (.duplicateAttribute "organization" "slug") :=
  ⟨by decide +kernel, (accepts_wellFormed.1 _).2 _ (by decide +kernel)⟩

end ProviderForge
