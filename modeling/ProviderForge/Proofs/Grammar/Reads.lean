import ProviderForge.Code.Build
import ProviderForge.Proofs.Grammar.Run

namespace ProviderForge

open Code Result
open ProviderForge.Parser (many repeated repeatedList list commaList)

variable {α : Type}

/-- The parser reads the code and stops where it ends. It is given the depth to which the rules
may call one another: four for each token are enough. -/
structure Reads (parser : Nat → Parser α) (ends : Code → Prop) (code : Code) : Prop where
  nonempty : code ≠ []
  run : ∀ depth rest, 4 * Code.size code ≤ depth → ends rest →
    ∃ value, parser depth (code ++ rest) = .ok (value, rest)

namespace Reads

variable {parser : Nat → Parser α} {ends fewer : Code → Prop} {code : Code}

theorem whole (hreads : Reads parser ends code) (hend : ends []) {depth : Nat}
    (hdepth : 4 * Code.size code ≤ depth) : ∃ value, parser depth code = .ok (value, []) := by
  have hrun := hreads.run depth [] hdepth hend
  rwa [List.append_nil] at hrun

end Reads

theorem Token.size_pos (token : Token) : 0 < token.size := by
  cases token <;> simp [Token.size]

theorem Code.length_le_size (code : Code) : code.length ≤ Code.size code := by
  induction code with
  | nil => simp
  | cons token rest ih =>
      have hpos := Token.size_pos token
      simp only [List.length_cons, Code.size_cons]
      omega

theorem Code.size_pos {code : Code} (hcode : code ≠ []) : 0 < Code.size code :=
  Nat.lt_of_lt_of_le (List.length_pos_iff.mpr hcode) (Code.length_le_size code)

@[simp] theorem Token.size_ident (text : String) : (Token.ident text).size = 1 := rfl

@[simp] theorem Token.size_punct (character : Char) (spacing : Spacing) :
    (Token.punct character spacing).size = 1 := rfl

@[simp] theorem Token.size_literal (text : String) : (Token.literal text).size = 1 := rfl

@[simp] theorem Token.size_group (delimiter : Delimiter) (content : Code) :
    (Token.group delimiter content).size = Code.size content + 2 := rfl

/-- Pieces up to the end, each of which may stand behind another one. -/
def IsSequence (parser : Nat → Parser α) (ends : Code → Prop) (code : Code) : Prop :=
  ∃ pieces : List Code, code = pieces.flatten ∧
    ∀ piece ∈ pieces, Reads parser ends piece ∧ ∀ rest, ends (piece ++ rest)

namespace IsSequence

variable {parser : Nat → Parser α} {ends : Code → Prop} {code later : Code}

theorem nil : IsSequence parser ends [] :=
  ⟨[], rfl, by simp⟩

theorem single (hreads : Reads parser ends code) (hstarts : ∀ rest, ends (code ++ rest)) :
    IsSequence parser ends code :=
  ⟨[code], by simp, by simpa using ⟨hreads, hstarts⟩⟩

theorem append (hcode : IsSequence parser ends code) (hlater : IsSequence parser ends later) :
    IsSequence parser ends (code ++ later) := by
  obtain ⟨pieces, rfl, hpieces⟩ := hcode
  obtain ⟨laterPieces, rfl, hlaterPieces⟩ := hlater
  refine ⟨pieces ++ laterPieces, by simp, ?_⟩
  intro piece hmem
  exact (List.mem_append.mp hmem).elim (hpieces piece) (hlaterPieces piece)

theorem ends_of (hcode : IsSequence parser ends code) (hend : ends []) : ends code := by
  obtain ⟨pieces, rfl, hpieces⟩ := hcode
  cases pieces with
  | nil => exact hend
  | cons piece rest => exact (hpieces piece List.mem_cons_self).2 _

theorem repeated_run (hend : ends []) {pieces : List Code}
    (hpieces : ∀ piece ∈ pieces, Reads parser ends piece ∧ ∀ rest, ends (piece ++ rest))
    {depth : Nat} (fuel : Nat) (hdepth : 4 * Code.size pieces.flatten ≤ depth)
    (hfuel : pieces.flatten.length < fuel) :
    ∃ values, repeated (!·.isEmpty) (parser depth) fuel pieces.flatten = .ok (values, []) := by
  induction pieces generalizing fuel with
  | nil =>
      obtain ⟨fuel, rfl⟩ := Nat.exists_eq_add_one_of_ne_zero (Nat.ne_of_gt hfuel)
      exact ⟨[], by simp [repeated]⟩
  | cons piece pieces ih =>
      obtain ⟨fuel, rfl⟩ := Nat.exists_eq_add_one_of_ne_zero (Nat.ne_zero_of_lt hfuel)
      obtain ⟨hpiece, hothers⟩ := List.forall_mem_cons.mp hpieces
      simp only [List.flatten_cons, Code.size_append, List.length_append] at hdepth hfuel
      have hlength := List.length_pos_iff.mpr hpiece.1.nonempty
      have hnext : ends pieces.flatten := ends_of ⟨pieces, rfl, hothers⟩ hend
      obtain ⟨value, hvalue⟩ := hpiece.1.run depth pieces.flatten (by omega) hnext
      obtain ⟨values, hvalues⟩ := ih hothers fuel (by omega) (by omega)
      refine ⟨value :: values, ?_⟩
      have hstart : (piece ++ pieces.flatten).isEmpty = false := by
        simp [hpiece.1.nonempty]
      simp [repeated, hstart, hvalue, hvalues]

theorem many_run (hcode : IsSequence parser ends code) (hend : ends []) {depth : Nat}
    (hdepth : 4 * Code.size code ≤ depth) :
    ∃ values, many (!·.isEmpty) (parser depth) code = .ok (values, []) := by
  obtain ⟨pieces, rfl, hpieces⟩ := hcode
  exact repeated_run hend hpieces _ hdepth (Nat.lt_succ_self _)

end IsSequence

/-- Elements with a comma behind each, which the last one need not have. -/
def IsListing (element : Code → Prop) (code : Code) : Prop :=
  ∃ codes last, code = terminated codes ++ last ∧ (∀ code ∈ codes, element code) ∧
    (last = [] ∨ element last)

namespace IsListing

variable {element : Code → Prop} {code : Code}

theorem terminated {codes : List Code} (hcodes : ∀ code ∈ codes, element code) :
    IsListing element (terminated codes) :=
  ⟨codes, [], by simp, hcodes, .inl rfl⟩

theorem terminated_append {codes : List Code} (hcodes : ∀ code ∈ codes, element code)
    (hlast : element code) : IsListing element (Code.terminated codes ++ code) :=
  ⟨codes, code, rfl, hcodes, .inr hlast⟩

theorem nil : IsListing element [] :=
  ⟨[], [], rfl, by simp, .inl rfl⟩

theorem single (hcode : element code) : IsListing element code :=
  ⟨[], code, rfl, by simp, .inr hcode⟩

theorem mono {larger : Code → Prop} (hcode : IsListing element code)
    (hlarger : ∀ part, element part → larger part) : IsListing larger code := by
  obtain ⟨codes, last, rfl, hcodes, hlast⟩ := hcode
  exact ⟨codes, last, rfl, fun code hmem => hlarger code (hcodes code hmem),
    hlast.imp_right (hlarger last)⟩

theorem cons {first : Code} (hfirst : element first) (hcode : IsListing element code) :
    IsListing element (first ++ mark ',' ++ code) := by
  obtain ⟨codes, last, rfl, hcodes, hlast⟩ := hcode
  exact ⟨first :: codes, last, by simp, List.forall_mem_cons.mpr ⟨hfirst, hcodes⟩, hlast⟩

theorem listed {codes : List Code} (hcodes : ∀ code ∈ codes, element code) :
    IsListing element (listed codes) := by
  induction codes with
  | nil => exact nil
  | cons first rest ih =>
      obtain ⟨hfirst, hrest⟩ := List.forall_mem_cons.mp hcodes
      cases rest with
      | nil => exact single hfirst
      | cons second rest => exact (ih hrest).cons hfirst

end IsListing

section

variable {parser : Nat → Parser α} {ends : Code → Prop}

/-- Each element but the last one is among the values as it is read where it stands. -/
theorem repeatedList_run (hend : ends []) (hcomma : ∀ rest, ends (.punct ',' .alone :: rest))
    {codes : List Code} {last : Code} (hcodes : ∀ code ∈ codes, Reads parser ends code)
    (hlast : last = [] ∨ Reads parser ends last) {depth : Nat} (fuel : Nat)
    (hdepth : 4 * Code.size (terminated codes ++ last) ≤ depth)
    (hfuel : (terminated codes ++ last).length < fuel) :
    ∃ values, repeatedList (·.isEmpty) [','] (parser depth) fuel (terminated codes ++ last) =
      .ok (values, []) ∧
      ∀ code ∈ codes, ∃ rest, ∃ value ∈ values,
        parser depth (code ++ rest) = .ok (value, rest) := by
  induction codes generalizing fuel with
  | nil =>
      obtain ⟨fuel, rfl⟩ := Nat.exists_eq_add_one_of_ne_zero (Nat.ne_zero_of_lt hfuel)
      rcases hlast with rfl | hlast
      · exact ⟨[], by simp [repeatedList]⟩
      · obtain ⟨value, hvalue⟩ := hlast.whole hend (by simpa using hdepth)
        refine ⟨[value], ?_⟩
        simp [repeatedList, hlast.nonempty, hvalue]
  | cons code codes ih =>
      obtain ⟨fuel, rfl⟩ := Nat.exists_eq_add_one_of_ne_zero (Nat.ne_zero_of_lt hfuel)
      obtain ⟨hcode, hothers⟩ := List.forall_mem_cons.mp hcodes
      simp only [terminated_cons, mark, List.append_assoc, List.cons_append, List.nil_append,
        Code.size_append, Code.size_cons, Token.size_punct, List.length_append,
        List.length_cons] at hdepth hfuel ⊢
      obtain ⟨value, hvalue⟩ := hcode.run depth
        (.punct ',' .alone :: (terminated codes ++ last)) (by omega) (hcomma _)
      obtain ⟨values, hvalues, hmem⟩ := ih hothers fuel
        (by simp only [Code.size_append]; omega) (by simp only [List.length_append]; omega)
      refine ⟨value :: values, ?_, List.forall_mem_cons.mpr ⟨?_, fun code hcode => ?_⟩⟩
      · simp [repeatedList, hcode.nonempty, hvalue, hvalues]
      · exact ⟨_, value, List.mem_cons_self, hvalue⟩
      · obtain ⟨rest, found, hfound, hrun⟩ := hmem code hcode
        exact ⟨rest, found, List.mem_cons_of_mem _ hfound, hrun⟩

theorem commaList_run {code : Code} (hcode : IsListing (Reads parser ends) code)
    (hend : ends []) (hcomma : ∀ rest, ends (.punct ',' .alone :: rest)) {depth : Nat}
    (hdepth : 4 * Code.size code ≤ depth) :
    ∃ values, commaList (parser depth) code = .ok (values, []) := by
  obtain ⟨codes, last, rfl, hcodes, hlast⟩ := hcode
  obtain ⟨values, hvalues, -⟩ :=
    repeatedList_run hend hcomma hcodes hlast _ hdepth (Nat.lt_succ_self _)
  exact ⟨values, hvalues⟩

theorem terminated_run {codes : List Code} (hcodes : ∀ code ∈ codes, Reads parser ends code)
    (hend : ends []) (hcomma : ∀ rest, ends (.punct ',' .alone :: rest)) {depth : Nat}
    (hdepth : 4 * Code.size (terminated codes) ≤ depth) :
    ∃ values, commaList (parser depth) (terminated codes) = .ok (values, []) ∧
      ∀ code ∈ codes, ∃ rest, ∃ value ∈ values,
        parser depth (code ++ rest) = .ok (value, rest) := by
  have hrun := repeatedList_run hend hcomma hcodes (.inl rfl) ((terminated codes).length + 1)
    (by simpa using hdepth) (by simp)
  simpa [commaList, list] using hrun

end

end ProviderForge
