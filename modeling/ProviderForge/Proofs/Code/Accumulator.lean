import ProviderForge.Proofs.Code.Record

namespace ProviderForge

open Code Result

namespace Code

def isAppend : Code → Bool
  | .ident root :: .punct character _ :: .ident method :: .group .parenthesis _ :: _ =>
      root == "diags" && character == '.' && method == "append"
  | _ => false

theorem isAppend_iff {code : Code} :
    isAppend code = true ↔ ∃ spacing arguments rest,
      code = .ident "diags" :: .punct '.' spacing :: .ident "append" ::
        .group .parenthesis arguments :: rest := by
  constructor
  · intro happend
    unfold isAppend at happend
    split at happend
    next root character spacing method arguments rest =>
      simp only [Bool.and_eq_true, beq_iff_eq] at happend
      obtain ⟨⟨rfl, rfl⟩, rfl⟩ := happend
      exact ⟨spacing, arguments, rest, rfl⟩
    next => cases happend
  · rintro ⟨spacing, arguments, rest, rfl⟩
    rfl

mutual
def appendsWithin : Token → Bool
  | .group _ content => hasAppend content
  | _ => false

/-- Whether `diags.append` is called somewhere, at any depth. -/
def hasAppend : List Token → Bool
  | [] => false
  | token :: rest => isAppend (token :: rest) || appendsWithin token || hasAppend rest
end

theorem hasAppend_cons (token : Token) (rest : Code) :
    hasAppend (token :: rest) =
      (isAppend (token :: rest) || appendsWithin token || hasAppend rest) := rfl

/-- Whether a call of `append` that has begun can go on with the code. -/
def continues : Code → Bool
  | .punct character _ :: rest => character == '.' &&
      match rest with
      | .ident method :: .group .parenthesis _ :: _ => method == "append"
      | _ => false
  | .ident method :: .group .parenthesis _ :: _ => method == "append"
  | .group .parenthesis _ :: _ => true
  | _ => false

theorem isAppend_append (token : Token) (rest : Code) {right : Code}
    (hright : continues right = false) :
    isAppend (token :: rest ++ right) = isAppend (token :: rest) := by
  rw [Bool.eq_iff_iff, isAppend_iff, isAppend_iff]
  constructor
  · rintro ⟨spacing, arguments, behind, hwhole⟩
    rcases rest with _ | ⟨second, _ | ⟨third, _ | ⟨fourth, rest⟩⟩⟩
    case cons.cons.cons =>
      simp only [List.cons_append, List.cons.injEq] at hwhole
      obtain ⟨rfl, rfl, rfl, rfl, -⟩ := hwhole
      exact ⟨spacing, arguments, rest, rfl⟩
    all_goals
      simp only [List.cons_append, List.nil_append, List.cons.injEq] at hwhole
      simp [hwhole, continues] at hright
  · rintro ⟨spacing, arguments, behind, hwhole⟩
    exact ⟨spacing, arguments, behind ++ right, by rw [hwhole]; rfl⟩

theorem hasAppend_append (left : Code) {right : Code} (hright : continues right = false) :
    hasAppend (left ++ right) = (hasAppend left || hasAppend right) := by
  induction left with
  | nil => rfl
  | cons token rest ih =>
      have hfirst := isAppend_append token rest hright
      rw [List.cons_append] at hfirst ⊢
      rw [hasAppend_cons, hasAppend_cons, hfirst, ih]
      simp only [Bool.or_assoc]

theorem hasAppend_of_lacks {code : Code}
    (hlacks : ∀ delimiter, Lacks (Token.isGroup delimiter) code) : hasAppend code = false := by
  induction code with
  | nil => rfl
  | cons token rest ih =>
      have hown : isAppend (token :: rest) = false := by
        rw [← Bool.not_eq_true, isAppend_iff]
        rintro ⟨spacing, arguments, behind, hwhole⟩
        have hparenthesis := hlacks .parenthesis
        simp [hwhole, Lacks, Token.isGroup] at hparenthesis
      have hinside : appendsWithin token = false := by
        cases token with
        | group delimiter content =>
            have hgroup := hlacks delimiter
            simp [Lacks, Token.isGroup] at hgroup
        | _ => rfl
      have hrest := ih fun delimiter => by
        have hwhole := hlacks delimiter
        simp only [Lacks, List.all_cons, Bool.and_eq_true] at hwhole
        exact hwhole.2
      rw [hasAppend_cons, hown, hinside, hrest]
      rfl

@[simp] theorem hasAppend_accessPath (root : String) (members : List Identifier) :
    hasAppend (accessPath root members) = false :=
  hasAppend_of_lacks fun _ => Fill.lacks_accessPath (fun _ => rfl) rfl members

@[simp] theorem hasAppend_parens (content : Code) :
    hasAppend (parens content) = hasAppend content :=
  Bool.or_false _

theorem hasAppend_invoke (object : Code) {method : String} (hmethod : method ≠ "append")
    (arguments : Code) :
    hasAppend (invoke object method arguments) = (hasAppend object || hasAppend arguments) := by
  have hcontinues : continues (mark '.' ++ (word method ++ parens arguments)) = false := by
    simp [continues, mark, word, parens, hmethod]
  have hwhole : invoke object method arguments =
      object ++ (mark '.' ++ (word method ++ parens arguments)) := by
    simp only [invoke, call, field, List.append_assoc]
  have hcall : hasAppend (mark '.' ++ (word method ++ parens arguments)) =
      hasAppend (parens arguments) := rfl
  rw [hwhole, hasAppend_append object hcontinues, hcall, hasAppend_parens]

@[simp] theorem hasAppend_wrapped (family constructor : String) (arguments : Code) :
    hasAppend (Fill.wrapped family constructor arguments) = hasAppend arguments :=
  Bool.or_false _

/-- Ahead of any code, the code appends nothing. -/
def IsSilent (code : Code) : Prop :=
  ∀ rest, hasAppend (code ++ rest) = hasAppend rest

namespace IsSilent

theorem hasAppend_eq {code : Code} (hsilent : IsSilent code) : hasAppend code = false := by
  have hcode := hsilent []
  rwa [List.append_nil] at hcode

theorem flatten {codes : List Code} (hsilent : ∀ code ∈ codes, IsSilent code) :
    IsSilent codes.flatten := by
  induction codes with
  | nil => exact fun _ => rfl
  | cons first rest ih =>
      obtain ⟨hfirst, hrest⟩ := List.forall_mem_cons.mp hsilent
      intro behind
      rw [List.flatten_cons, List.append_assoc, hfirst, ih hrest]

end IsSilent

end Code

namespace Fill

theorem hasAppend_assign (target : List Identifier) (family constructor : String)
    (arguments rest : Code) :
    hasAppend (assign (accessPath "self" target) (wrapped family constructor arguments) ++ rest) =
      (hasAppend arguments || hasAppend rest) := by
  have hwhole : assign (accessPath "self" target) (wrapped family constructor arguments) ++ rest =
      accessPath "self" target ++ (mark '=' ++ (wrapped family constructor arguments ++
        (mark ';' ++ rest))) := by
    simp only [assign, List.append_assoc]
  have hvalue : hasAppend (mark '=' ++ (wrapped family constructor arguments ++
      (mark ';' ++ rest))) = hasAppend (wrapped family constructor arguments ++
        (mark ';' ++ rest)) := rfl
  have hrest : hasAppend (mark ';' ++ rest) = hasAppend rest := rfl
  rw [hwhole, hasAppend_append _ rfl, hasAppend_accessPath, Bool.false_or, hvalue,
    hasAppend_append _ rfl, hasAppend_wrapped, hrest]

theorem isSilent_assign (target : List Identifier) (family constructor : String)
    {arguments : Code} (harguments : hasAppend arguments = false) :
    IsSilent (assign (accessPath "self" target) (wrapped family constructor arguments)) := by
  intro rest
  rw [hasAppend_assign, harguments, Bool.false_or]

theorem hasAppend_invoke_access (origin : List Identifier) {method : String}
    (hmethod : method ≠ "append") :
    hasAppend (invoke (accessPath "data" origin) method []) = false := by
  rw [hasAppend_invoke _ hmethod, hasAppend_accessPath]
  rfl

theorem isSilent_when (origin target : List Identifier) :
    IsSilent (when (word "let" ++ call (word "Some") (word "value") ++ mark '=' ++
          invoke (accessPath "data" origin) "as_ref" [])
        (assign (accessPath "self" target)
          (wrapped "StringValue" "new_or_null" (invoke (word "value") "clone" []))) ++
      word "else" ++
      braces (assign (accessPath "self" target) (wrapped "StringValue" "null" []))) := by
  intro rest
  generalize hcondition : word "let" ++ call (word "Some") (word "value") ++ mark '=' ++
    invoke (accessPath "data" origin) "as_ref" [] = condition
  have hsilent : hasAppend (word "if" ++ condition) = false := by
    rw [← hcondition]
    exact @hasAppend_invoke_access origin "as_ref" (by decide)
  have hpresent := @isSilent_assign target "StringValue" "new_or_null"
    (invoke (word "value") "clone" []) rfl
  have habsent := @isSilent_assign target "StringValue" "null" [] rfl
  generalize assign (accessPath "self" target) (wrapped "StringValue" "null" []) = absent at *
  generalize assign (accessPath "self" target) (wrapped "StringValue" "new_or_null"
    (invoke (word "value") "clone" [])) = present at *
  have hwhole : when condition present ++ word "else" ++ braces absent ++ rest =
      word "if" ++ condition ++ (braces present ++ (word "else" ++ (braces absent ++ rest))) := by
    simp only [when, List.append_assoc]
  have hbranches : hasAppend (braces present ++ (word "else" ++ (braces absent ++ rest))) =
      (hasAppend present || (hasAppend absent || hasAppend rest)) := rfl
  rw [hwhole, hasAppend_append _ rfl, hsilent, hbranches, hpresent.hasAppend_eq,
    habsent.hasAppend_eq]
  rfl

theorem isSilent_string (options : AttributeOptions) (origin target : List Identifier) :
    IsSilent (string options (accessPath "data" origin) (accessPath "self" target)) := by
  unfold string
  split
  · exact isSilent_when origin target
  · split
    · exact isSilent_assign target _ _ (hasAppend_invoke_access origin (by decide))
    · exact isSilent_assign target _ _ (hasAppend_invoke_access origin (by decide))

theorem isSilent_plain (options : AttributeOptions) (origin target : List Identifier)
    (shape : PlainShape) :
    IsSilent (plain options (accessPath "data" origin) (accessPath "self" target) shape) := by
  have horigin := hasAppend_accessPath "data" origin
  cases shape with
  | string => exact isSilent_string options origin target
  | int | bool => exact isSilent_assign target _ _ horigin
  | list element | set element => exact isSilent_assign target _ _ horigin
  | object => exact isSilent_assign target _ _ (hasAppend_invoke_access origin (by decide))

theorem hasAppend_nested (child : Identifier) (origin target : List Identifier) :
    hasAppend (nested child (accessPath "data" origin) (accessPath "self" target)) = true := by
  have hassigned := hasAppend_assign target "SetNestedObjectValueOf" "from_values"
    (invoke (invoke (invoke (accessPath "data" origin) "iter" []) "map"
      (closure (word "item") (braces
        (bindMutable "model" (defaultOf (ident child)) ++
          statement (invoke (word "diags") "append"
            (invoke (word "model") "fill" (word "item"))) ++
          word "model")))) "collect" [] ++ mark ',') []
  rw [List.append_nil] at hassigned
  refine hassigned.trans ?_
  rw [hasAppend_append _ rfl, hasAppend_invoke _ (by decide), hasAppend_invoke _ (by decide),
    hasAppend_invoke _ (by decide), hasAppend_accessPath]
  rfl

end Fill

namespace Attribute

/-- What is generated for a nested set appends, and what is generated for any other attribute does
not, whatever follows it. -/
theorem conversion_appends {parent : String} {declared : Attribute} {code : Code}
    (hcustom : declared.options.customFill = none)
    (hcode : declared.conversion parent "data" "self" = .ok code) :
    if declared.kind = .setNested then hasAppend code = true else IsSilent code := by
  simp only [conversion, hcustom, bind_eq_ok] at hcode
  obtain ⟨origin, horigin, target, htarget, hcode⟩ := hcode
  rw [fieldPath_eq (.inr rfl)] at horigin
  obtain ⟨originMembers, -, rfl⟩ := map_eq_ok.mp horigin
  rw [fieldPath_eq (.inl rfl)] at htarget
  obtain ⟨targetMembers, -, rfl⟩ := map_eq_ok.mp htarget
  cases declared with
  | plain options shape =>
      obtain rfl := pure_eq_ok.mp hcode
      have hsilent := Fill.isSilent_plain options originMembers targetMembers shape
      cases shape <;> exact hsilent
  | nested options children record =>
      simp only [bind_eq_ok, pure_eq_ok] at hcode
      obtain ⟨child, -, rfl⟩ := hcode
      exact Fill.hasAppend_nested child originMembers targetMembers

end Attribute

namespace Model

theorem diagnosticsBinding_cases (siblings : List Attribute) :
    diagnosticsBinding siblings = bind (word "diags") emptyDiagnostics ∨
      diagnosticsBinding siblings = bindMutable "diags" emptyDiagnostics := by
  unfold diagnosticsBinding
  split
  · exact .inr rfl
  · exact .inl rfl

theorem diagnosticsBinding_of_hasAppend {parent : String} {filled : List Attribute}
    {conversions : List Code}
    (hconversions : filled.mapM (fun declared => declared.conversion parent "data" "self") =
      .ok conversions)
    (happend : hasAppend (diagnosticsBinding filled ++ conversions.flatten ++ word "diags") =
      true) :
    diagnosticsBinding filled = bindMutable "diags" emptyDiagnostics := by
  by_cases hany : filled.any appends
  · simp [diagnosticsBinding, hany]
  have hsilent : ∀ code ∈ conversions, IsSilent code := by
    intro code hmem
    obtain ⟨declared, hdeclared, hcode⟩ := exists_of_mapM_ok hconversions code hmem
    have hplain : appends declared = false := by
      rw [List.any_eq_true, not_exists] at hany
      simpa [hdeclared] using hany declared
    simp only [appends, Bool.or_eq_false_iff, Option.isSome_eq_false_iff, Option.isNone_iff_eq_none,
      beq_eq_false_iff_ne] at hplain
    have hown := Attribute.conversion_appends hplain.1 hcode
    rwa [if_neg hplain.2] at hown
  have hbinding : diagnosticsBinding filled = bind (word "diags") emptyDiagnostics := by
    simp [diagnosticsBinding, hany]
  have hbody : hasAppend (bind (word "diags") emptyDiagnostics ++
      (conversions.flatten ++ word "diags")) =
        hasAppend (conversions.flatten ++ word "diags") := rfl
  rw [hbinding, List.append_assoc, hbody, IsSilent.flatten hsilent] at happend
  cases happend

end Model

end ProviderForge
