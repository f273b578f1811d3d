import ProviderForge.Proofs.Grammar.Item

namespace ProviderForge

open Code Result

theorem Parser.within_ok {α : Type} {delimiter : Delimiter} {parser : Parser α}
    {content rest behind : Code} {value : α}
    (hrun : Parser.within delimiter parser (.group delimiter content :: rest) =
      .ok (value, behind)) :
    behind = rest := by
  simp only [Parser.within, Parser.bind_run, Parser.group_run, ok_bind] at hrun
  cases hresult : parser.whole delimiter content with
  | error fault => simp [hresult, throw, throwThe, MonadExceptOf.throw, StateT.lift] at hrun
  | ok found =>
      simp only [hresult] at hrun
      cases hrun
      rfl

theorem Parser.repeated_ok {α : Type} {continues : Code → Bool} {parser : Parser α} {fuel : Nat}
    {code behind : Code} {values : List α} (hcontinues : continues code = true)
    (hfuel : code.length < fuel)
    (hrun : Parser.repeated continues parser fuel code = .ok (values, behind)) :
    ∃ first rest later, parser code = .ok (first, rest) ∧ values = first :: later ∧
      Parser.repeated continues parser (fuel - 1) rest = .ok (later, behind) := by
  obtain ⟨fuel, rfl⟩ := Nat.exists_eq_add_one_of_ne_zero (Nat.ne_zero_of_lt hfuel)
  simp only [Parser.repeated, Parser.bind_run, Parser.looksAt_run, ok_bind, hcontinues, if_true,
    bind_eq_ok] at hrun
  obtain ⟨⟨first, rest⟩, hfirst, ⟨later, last⟩, hlater, hvalues⟩ := hrun
  cases hvalues
  exact ⟨first, rest, later, hfirst, rfl, hlater⟩

namespace Grammar

/-- The items that are read of the code, up to the place where the reading ends. -/
def ReadsItems (depth : Nat) (code : Code) (items : List Syntax) : Prop :=
  ∃ fuel behind, code.length < fuel ∧
    Parser.repeated (!·.isEmpty) (read depth .item) fuel code = .ok (items, behind)

/-- Whoever reads items from the code on comes to what stands behind it. -/
def Passes (code : Code) : Prop :=
  ∀ depth rest items, 4 * Code.size code ≤ depth → ReadsItems depth (code ++ rest) items →
    ∃ later, ReadsItems depth rest later ∧ ∀ item ∈ later, item ∈ items

/-- Whoever reads items from the code on reads one of these. -/
def Holds (wanted : Syntax → Prop) (code : Code) : Prop :=
  ∀ depth rest items, 4 * Code.size code ≤ depth → ReadsItems depth (code ++ rest) items →
    ∃ item ∈ items, wanted item

variable {code first second : Code} {wanted : Syntax → Prop}

theorem ReadsItems.cons {depth : Nat} {rest : Code} {items : List Syntax}
    (hnonempty : code ≠ []) (hitems : ReadsItems depth (code ++ rest) items)
    (hstops : ∀ node behind, read depth .item (code ++ rest) = .ok (node, behind) → behind = rest) :
    ∃ node later, read depth .item (code ++ rest) = .ok (node, rest) ∧ items = node :: later ∧
      ReadsItems depth rest later := by
  obtain ⟨fuel, behind, hfuel, hrun⟩ := hitems
  obtain ⟨node, stop, later, hnode, hcons, hlater⟩ :=
    Parser.repeated_ok (by simp [hnonempty]) hfuel hrun
  obtain rfl := hstops node stop hnode
  have hlength := List.length_pos_iff.mpr hnonempty
  rw [List.length_append] at hfuel
  exact ⟨node, later, hnode, hcons, fuel - 1, behind, by omega, hlater⟩

theorem Passes.nil : Passes [] :=
  fun _ _ items _ hitems => ⟨items, hitems, fun _ => id⟩

theorem Passes.append (hfirst : Passes first) (hsecond : Passes second) :
    Passes (first ++ second) := by
  intro depth rest items hdepth hitems
  rw [Code.size_append] at hdepth
  rw [List.append_assoc] at hitems
  obtain ⟨middle, hmiddle, hsub⟩ := hfirst depth (second ++ rest) items (by omega) hitems
  obtain ⟨later, hlater, hsubLater⟩ := hsecond depth rest middle (by omega) hmiddle
  exact ⟨later, hlater, fun item hmem => hsub item (hsubLater item hmem)⟩

theorem Holds.append_left (hfirst : Holds wanted first) (second : Code) :
    Holds wanted (first ++ second) := by
  intro depth rest items hdepth hitems
  rw [Code.size_append] at hdepth
  rw [List.append_assoc] at hitems
  exact hfirst depth (second ++ rest) items (by omega) hitems

theorem Passes.holds_append (hfirst : Passes first) (hsecond : Holds wanted second) :
    Holds wanted (first ++ second) := by
  intro depth rest items hdepth hitems
  rw [Code.size_append] at hdepth
  rw [List.append_assoc] at hitems
  obtain ⟨later, hlater, hsub⟩ := hfirst depth (second ++ rest) items (by omega) hitems
  obtain ⟨item, hmem, hwanted⟩ := hsecond depth rest later (by omega) hlater
  exact ⟨item, hsub item hmem, hwanted⟩

/-- One item that is read to its end, if it is read at all. -/
theorem Passes.of_stops (hnonempty : code ≠ [])
    (hstops : ∀ depth rest node behind, 4 * Code.size code ≤ depth →
      read depth .item (code ++ rest) = .ok (node, behind) → behind = rest) : Passes code := by
  intro depth rest items hdepth hitems
  obtain ⟨node, later, -, rfl, hlater⟩ :=
    hitems.cons hnonempty fun node behind => hstops depth rest node behind hdepth
  exact ⟨later, hlater, fun item hmem => List.mem_cons_of_mem _ hmem⟩

theorem IsItems.passes (hcode : IsItems code) : Passes code := by
  obtain ⟨pieces, rfl, hpieces⟩ := hcode
  induction pieces with
  | nil => exact .nil
  | cons piece pieces ih =>
      obtain ⟨⟨hpiece, -⟩, hothers⟩ := List.forall_mem_cons.mp hpieces
      refine Passes.append (.of_stops hpiece.nonempty ?_) (ih hothers)
      intro depth rest node behind hdepth hrun
      obtain ⟨value, hvalue⟩ := hpiece.run depth rest hdepth trivial
      cases hvalue.symm.trans hrun
      rfl

/-- What stands in the braces of an implementation does not reach out of them. -/
theorem passes_implementation {typeName : String} (hname : Token.isName typeName = true)
    (members : Code) : Passes (word "impl" ++ word typeName ++ braces members) := by
  refine .of_stops (by simp [word]) ?_
  intro depth rest node behind hdepth hrun
  simp only [word, braces, Code.size_append, Code.size_cons, Code.size_nil, Token.size_ident,
    Token.size_group] at hdepth
  obtain ⟨depth, rfl⟩ := Nat.exists_eq_add_of_le' (by omega : 1 ≤ depth)
  obtain ⟨owner, heq⟩ := implementation_run hname (by omega : 4 ≤ depth) members rest
  rw [heq, bind_eq_ok] at hrun
  obtain ⟨found, hfound, hnode⟩ := hrun
  cases hnode
  exact Parser.within_ok hfound

theorem passes_traitImplementation {contract : Code} {typeName : String}
    (hcontract : IsPath false contract) (hname : Token.isName typeName = true) (members : Code) :
    Passes (word "impl" ++ contract ++ word "for" ++ word typeName ++ braces members) := by
  refine .of_stops (by simp [word]) ?_
  intro depth rest node behind hdepth hrun
  simp only [word, braces, Code.size_append, Code.size_cons, Code.size_nil, Token.size_ident,
    Token.size_group] at hdepth
  obtain ⟨depth, rfl⟩ := Nat.exists_eq_add_of_le' (by omega : 2 ≤ depth)
  obtain ⟨names, owner, heq⟩ :=
    traitImplementation_run hcontract hname (by omega : _ ≤ depth) members rest
  rw [heq, bind_eq_ok] at hrun
  obtain ⟨found, hfound, hnode⟩ := hrun
  cases hnode
  exact Parser.within_ok hfound

/-- A file that begins with no attribute has every item that its code holds. -/
theorem Holds.ofCode (hcode : Holds wanted code) (hhash : code.atMark ['#'] = false)
    {file : SourceFile} (hfile : SourceFile.ofCode code = .ok file) :
    ∃ item ∈ file.items, wanted item := by
  simp only [SourceFile.ofCode, Grammar.file, Parser.bind_run, innerAttributes_none hhash,
    ok_bind, bind_eq_ok] at hfile
  obtain ⟨_, ⟨⟨items, behind⟩, hitems, hread⟩, hresult⟩ := hfile
  cases hread
  cases hresult
  refine hcode (depth code) [] items (by simp only [depth]; omega) ?_
  rw [List.append_nil]
  exact ⟨code.length + 1, behind, Nat.lt_succ_self _, hitems⟩

end Grammar

end ProviderForge
