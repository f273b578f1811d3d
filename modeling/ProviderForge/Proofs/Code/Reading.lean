import ProviderForge.Code.Build

namespace ProviderForge

namespace Token

def isIdent (text : String) : Token → Bool
  | ident found => found == text
  | _ => false

def isMark (character : Char) : Token → Bool
  | punct found _ => found == character
  | _ => false

def isGroup (delimiter : Delimiter) : Token → Bool
  | group found _ => found == delimiter
  | _ => false

end Token

namespace Code

/-- No token of the code is wanted; what groups hold is not looked at. -/
def Lacks (wanted : Token → Bool) (code : Code) : Prop :=
  code.all (fun token => !wanted token) = true

def before (wanted : Token → Bool) (code : Code) : Code :=
  code.takeWhile fun token => !wanted token

def after (wanted : Token → Bool) (code : Code) : Code :=
  (code.dropWhile fun token => !wanted token).tail

variable {wanted : Token → Bool} {delimiter : Delimiter} {left right code : Code}

@[simp] theorem lacks_append :
    Lacks wanted (left ++ right) ↔ Lacks wanted left ∧ Lacks wanted right := by
  simp [Lacks, List.all_append]

theorem before_append (hleft : Lacks wanted left) {token : Token} (htoken : wanted token = true) :
    before wanted (left ++ token :: right) = left := by
  rw [Lacks, List.all_eq_true] at hleft
  simp [before, List.takeWhile_append_of_pos hleft, htoken]

theorem after_append (hleft : Lacks wanted left) {token : Token} (htoken : wanted token = true) :
    after wanted (left ++ token :: right) = right := by
  rw [Lacks, List.all_eq_true] at hleft
  simp [after, List.dropWhile_append_of_pos hleft, htoken]

def groups (delimiter : Delimiter) : Code → List Code
  | [] => []
  | .group found content :: rest =>
      if found = delimiter then content :: groups delimiter rest else groups delimiter rest
  | _ :: rest => groups delimiter rest

def inside (delimiter : Delimiter) (code : Code) : Code :=
  (groups delimiter code).head?.getD []

theorem groups_append :
    groups delimiter (left ++ right) = groups delimiter left ++ groups delimiter right := by
  fun_induction groups delimiter left with
  | case1 => rfl
  | case2 content rest ih => simp [groups, ih]
  | case3 found content rest hother ih => simp [groups, hother, ih]
  | case4 token rest hplain ih => cases token <;> simp_all [groups]

theorem groups_of_lacks (hlacks : Lacks (Token.isGroup delimiter) code) :
    groups delimiter code = [] := by
  induction code with
  | nil => rfl
  | cons token rest ih =>
      simp only [Lacks, List.all_cons, Bool.and_eq_true] at hlacks ih
      cases token with
      | group found content =>
          have hother : found ≠ delimiter := by simpa [Token.isGroup] using hlacks.1
          simp [groups, hother, ih hlacks.2]
      | ident _ | punct _ _ | literal _ => exact ih hlacks.2

theorem inside_append (hleft : Lacks (Token.isGroup delimiter) left) :
    inside delimiter (left ++ right) = inside delimiter right := by
  simp [inside, groups_append, groups_of_lacks hleft]

@[simp] theorem inside_group (content : Code) :
    inside delimiter (.group delimiter content :: right) = content := by
  simp [inside, groups]

theorem size_groups {content : Code} (hmem : content ∈ groups delimiter code) :
    Code.size content < Code.size code := by
  fun_induction groups delimiter code with
  | case1 => simp at hmem
  | case2 found rest ih =>
      rw [Code.size_cons, Token.size]
      rcases List.mem_cons.mp hmem with rfl | hmem
      · omega
      · have := ih hmem
        omega
  | case3 found other rest hother ih =>
      have := ih hmem
      rw [Code.size_cons]
      omega
  | case4 token rest hplain ih =>
      have := ih hmem
      rw [Code.size_cons]
      omega

theorem size_inside_le : Code.size (inside delimiter code) ≤ Code.size code := by
  unfold inside
  cases hgroups : groups delimiter code with
  | nil => simp
  | cons first others =>
      have hfirst : first ∈ groups delimiter code := by simp [hgroups]
      exact Nat.le_of_lt (size_groups hfirst)

theorem size_before_le : Code.size (before wanted code) ≤ Code.size code := by
  unfold before
  induction code with
  | nil => simp
  | cons token rest ih =>
      rw [List.takeWhile_cons]
      split
      · simp only [Code.size_cons]
        omega
      · simp

theorem size_drop_le (count : Nat) : Code.size (code.drop count) ≤ Code.size code := by
  calc Code.size (code.drop count)
      ≤ Code.size (code.take count) + Code.size (code.drop count) := by omega
    _ = Code.size code := by rw [← Code.size_append, List.take_append_drop]

theorem size_after_le : Code.size (after wanted code) ≤ Code.size code := by
  unfold after
  induction code with
  | nil => simp
  | cons token rest ih =>
      rw [List.dropWhile_cons]
      split
      · simp only [Code.size_cons]
        omega
      · simp only [List.tail_cons, Code.size_cons]
        omega

/-- The pieces that commas end or separate. -/
def pieces : Code → List Code
  | [] => []
  | token :: rest =>
      if token.isMark ',' then [] :: pieces rest
      else match pieces rest with
        | [] => [[token]]
        | first :: others => (token :: first) :: others

theorem pieces_comma {first : Code} (hfirst : Lacks (Token.isMark ',') first) (rest : Code) :
    pieces (first ++ mark ',' ++ rest) = first :: pieces rest := by
  induction first with
  | nil => simp [pieces, mark, Token.isMark]
  | cons token first ih =>
      simp only [Lacks, List.all_cons, Bool.and_eq_true, Bool.not_eq_true'] at hfirst
      have hrest := ih hfirst.2
      simp only [List.cons_append, List.append_assoc] at hrest ⊢
      simp [pieces, hfirst.1, hrest]

theorem pieces_terminated_append {codes : List Code}
    (hcodes : ∀ code ∈ codes, Lacks (Token.isMark ',') code) (behind : Code) :
    pieces (terminated codes ++ behind) = codes ++ pieces behind := by
  induction codes with
  | nil => rfl
  | cons first rest ih =>
      obtain ⟨hfirst, hrest⟩ := List.forall_mem_cons.mp hcodes
      rw [terminated_cons, List.append_assoc, pieces_comma hfirst, ih hrest, List.cons_append]

theorem pieces_terminated {codes : List Code}
    (hcodes : ∀ code ∈ codes, Lacks (Token.isMark ',') code) :
    pieces (terminated codes) = codes := by
  have hpieces := pieces_terminated_append hcodes []
  rwa [List.append_nil, pieces, List.append_nil] at hpieces

theorem pieces_of_lacks {code : Code} (hcode : Lacks (Token.isMark ',') code) (hne : code ≠ []) :
    pieces code = [code] := by
  induction code with
  | nil => exact absurd rfl hne
  | cons token rest ih =>
      simp only [Lacks, List.all_cons, Bool.and_eq_true, Bool.not_eq_true'] at hcode
      cases rest with
      | nil => simp [pieces, hcode.1]
      | cons next rest =>
          have hrest := ih hcode.2 (List.cons_ne_nil next rest)
          rw [pieces, hrest]
          simp [hcode.1]

theorem pieces_listed {codes : List Code}
    (hcodes : ∀ code ∈ codes, Lacks (Token.isMark ',') code ∧ code ≠ []) :
    pieces (listed codes) = codes := by
  induction codes with
  | nil => rfl
  | cons first rest ih =>
      obtain ⟨⟨hfirst, hne⟩, hrest⟩ := List.forall_mem_cons.mp hcodes
      cases rest with
      | nil => exact pieces_of_lacks hfirst hne
      | cons second rest =>
          have hlisted : listed (first :: second :: rest) =
              first ++ mark ',' ++ listed (second :: rest) := rfl
          rw [hlisted, pieces_comma hfirst, ih hrest]

theorem groups_listed_cons (first : Code) (rest : List Code) :
    groups delimiter (listed (first :: rest)) =
      groups delimiter first ++ groups delimiter (listed rest) := by
  have hcomma : groups delimiter (mark ',') = [] := by rfl
  cases rest with
  | nil => simp [listed, groups]
  | cons second rest => simp [listed, separated, groups_append, hcomma]

/-- The value of a field of a record expression: what stands between the colon behind the name
of the field and the next comma. -/
def fieldValue (fieldName : String) (record : Code) : Code :=
  before (Token.isMark ',') ((after (Token.isIdent fieldName) record).drop 1)

theorem fieldValue_entry {fieldName : String} {value : Code}
    (hleft : Lacks (Token.isIdent fieldName) left) (hvalue : Lacks (Token.isMark ',') value) :
    fieldValue fieldName (left ++ entry fieldName value ++ right) = value := by
  have hafter : after (Token.isIdent fieldName) (left ++ entry fieldName value ++ right) =
      mark ':' ++ value ++ mark ',' ++ right := by
    simpa [entry, word] using after_append hleft (by simp [Token.isIdent] :
      Token.isIdent fieldName (.ident fieldName) = true)
  have hcomma : Token.isMark ',' (.punct ',' .alone) = true := rfl
  rw [fieldValue, hafter]
  simpa [mark] using before_append hvalue hcomma

theorem size_fieldValue_le {fieldName : String} {record : Code} :
    Code.size (fieldValue fieldName record) ≤ Code.size record :=
  Nat.le_trans size_before_le (Nat.le_trans (size_drop_le 1) size_after_le)

def assignment (code : Code) : Code × Code :=
  (before (Token.isMark '=') code, before (Token.isMark ';') (after (Token.isMark '=') code))

theorem assignment_assign {target value : Code} (htarget : Lacks (Token.isMark '=') target)
    (hvalue : Lacks (Token.isMark ';') value) :
    assignment (assign target value) = (target, value) := by
  have hequals : Token.isMark '=' (.punct '=' .alone) = true := rfl
  have hsemicolon : Token.isMark ';' (.punct ';' .alone) = true := rfl
  have hcode : assign target value =
      target ++ .punct '=' .alone :: (value ++ .punct ';' .alone :: []) := by
    simp [assign, mark]
  rw [assignment, hcode, before_append htarget hequals, after_append htarget hequals,
    before_append hvalue hsemicolon]

end Code

end ProviderForge
