import ProviderForge.Proofs.Layout.Balanced
import ProviderForge.Proofs.Layout.Comment

namespace ProviderForge

open Layout

namespace Layout

/-- The drawing writes the pieces one next to the other, the first of them last, and nothing drawn
behind takes them back. `within` tells where they stand in the groups that are open before. -/
def Drawing.Writes (drawing : Drawing) (within : List Draft → Draft → Prop) (pieces : Draft) :
    Prop :=
  ∀ draft, ∃ earlier, within (openGroups draft) earlier ∧ pieces ++ earlier <:+ drawing draft

/-- In no further group. -/
def Directly (groups : List Draft) (earlier : Draft) : Prop :=
  openGroups earlier = groups

/-- In an item that stands behind an attribute. -/
def InItem (groups : List Draft) (earlier : Draft) : Prop :=
  ∃ before, openGroups before = groups ∧ openGroups earlier = itemGroup before :: groups

theorem Drawing.Keeps.suffix (drawing : Drawing) [drawing.Keeps] {value : String}
    {others draft : Draft} (hsuffix : .text value :: others <:+ draft) :
    .text value :: others <:+ drawing draft := by
  have hsettled : settled (.text value :: others) <:+ settled draft :=
    settled_suffix_settled hsuffix
  exact hsettled.trans (settled_suffix draft)

namespace Drawing.Writes

variable {first second : Drawing} {within : List Draft → Draft → Prop} {pieces others : Draft}
  {value : String}

theorem append_right (hsecond : second.Writes within pieces) (first : Drawing) [first.Balanced] :
    (first ++ second).Writes within pieces := by
  intro draft
  obtain ⟨earlier, hwithin, hsuffix⟩ := hsecond (first draft)
  rw [Balanced.openGroups_eq] at hwithin
  exact ⟨earlier, hwithin, hsuffix⟩

theorem append_left (hfirst : first.Writes within (.text value :: others)) (second : Drawing)
    [second.Keeps] : (first ++ second).Writes within (.text value :: others) := by
  intro draft
  obtain ⟨earlier, hwithin, hsuffix⟩ := hfirst draft
  exact ⟨earlier, hwithin, Keeps.suffix second hsuffix⟩

theorem all {drawings : List Drawing} (hbalanced : ∀ drawing ∈ drawings, drawing.Balanced)
    {drawing : Drawing} (hmem : drawing ∈ drawings)
    (hdrawing : drawing.Writes within (.text value :: others)) :
    (Drawing.all drawings).Writes within (.text value :: others) := by
  induction drawings with
  | nil => cases hmem
  | cons first later ih =>
      obtain ⟨hfirst, hlater⟩ := List.forall_mem_cons.mp hbalanced
      have hrest := Balanced.all hlater
      rcases List.mem_cons.mp hmem with rfl | hmem
      · exact hdrawing.append_left (Drawing.all later)
      · exact (ih hlater hmem).append_right first

end Drawing.Writes

end Layout

/-- The attribute that documents what it stands at. -/
def Syntax.documentation (text : String) : Syntax :=
  .valueAttribute false "doc" (.literal (Quoted.quote text))

namespace Layout

theorem draw_documentation (text : String) (place : Place) :
    draw (.documentation text) place = (documentation? false text.toList).getD
      (word "#[" ++ word "doc" ++ word " = " ++ word (Quoted.quote text) ++ word "]" ++ space) := by
  have hcomment : attributeComment? false "doc" (Quoted.quote text) =
      documentation? false text.toList := by
    simp [attributeComment?, Quoted.value?_quote_text]
  rw [← hcomment]
  rfl

/-- What shows a documentation: the last word, and the other pieces, the latest one first. A comment
ends its line, so its last word is the first one of the next line. -/
inductive ShowsDocumentation (text : List Char) : String → Draft → Prop
  | comment {mark : String} {words : List String}
      (hwords : words.flatMap String.toList = documentation text) :
      ShowsDocumentation text mark
        (.possible { blank := infinity } :: (words.map .text).reverse)
  | inAttribute {last : String} {words : List String} (hdrawing : documentation? false text = none)
      (hwords : (words ++ [last]).flatMap String.toList = documentation text) :
      ShowsDocumentation text last (words.map .text).reverse

theorem writes_field (text mark : String) (type : Syntax) (place : Place) :
    ∃ value others, ShowsDocumentation text.toList value others ∧
      (draw (.attributed [.documentation text] (.prefixed mark type)) place).Writes Directly
        (.text value :: others) := by
  have hdraw : draw (.attributed [.documentation text] (.prefixed mark type)) place =
      draw (.documentation text) .inline ++ (word mark ++ draw type .inline) := rfl
  rw [hdraw, draw_documentation]
  cases documentation_cases text.toList with
  | line _ _ hdrawing htext =>
      refine ⟨mark, _, .comment (by simp [htext] : ["///",
        String.ofList (withoutTrailingSpaces text.toList)].flatMap String.toList = _), ?_⟩
      rw [hdrawing]
      exact fun draft => ⟨draft, rfl, Drawing.Keeps.suffix (draw type .inline) (List.suffix_refl _)⟩
  | block _ _ _ hdrawing htext =>
      refine ⟨mark, _, .comment (by simp [htext] : ["/**",
        String.ofList (withoutInnerSpaces text.toList), "*/"].flatMap String.toList = _), ?_⟩
      rw [hdrawing]
      exact fun draft => ⟨draft, rfl, Drawing.Keeps.suffix (draw type .inline) (List.suffix_refl _)⟩
  | inAttribute hdrawing htext =>
      refine ⟨"]", _, .inAttribute hdrawing (by simp [htext] :
        (["#[", "doc", " = ", Quoted.quote text] ++ ["]"]).flatMap String.toList = _), ?_⟩
      rw [hdrawing]
      exact fun draft => ⟨draft, rfl,
        Drawing.Keeps.suffix (space ++ (word mark ++ draw type .inline)) (List.suffix_refl _)⟩

end Layout

/-- The item is a record behind an attribute, with a field that is documented like this. -/
def Syntax.HasDocumented (text : String) : Syntax → Prop
  | .attributed [.attribute _ _ _] (.recordItem _ _ _ fields) =>
      ∃ mark type, .attributed [.documentation text] (.prefixed mark type) ∈ fields
  | _ => False

namespace Layout

variable {within : List Draft → Draft → Prop} {others : Draft} {value : String}

theorem mem_layAll {node : Syntax} {nodes : List Syntax} (hmem : node ∈ nodes) :
    ⟨node, draw node⟩ ∈ layAll nodes := by
  induction nodes with
  | nil => cases hmem
  | cons first others ih =>
      rcases List.mem_cons.mp hmem with rfl | hmem
      · exact List.mem_cons_self
      · exact List.mem_cons_of_mem _ (ih hmem)

theorem writes_inOrder {node : Syntax} {nodes : List Syntax} (hmem : node ∈ nodes)
    (hnode : (draw node .inline).Writes within (.text value :: others)) :
    (inOrder (layAll nodes)).Writes within (.text value :: others) :=
  .all (AllBalanced.inlines inferInstance) (List.mem_map_of_mem (mem_layAll hmem)) hnode

theorem writes_fields {field : Syntax} {fields : List Syntax} (hmem : field ∈ fields)
    (hfield : (draw field .inline).Writes within (.text value :: others)) :
    (Drawing.all ((layAll fields).map fun laid => laid.inline ++ word "," ++ hardBreak)).Writes
      within (.text value :: others) := by
  have hbalanced : ∀ drawing ∈ (layAll fields).map fun laid =>
      laid.inline ++ word "," ++ hardBreak, drawing.Balanced := by
    intro drawing hdrawing
    obtain ⟨laid, hlaid, rfl⟩ := List.mem_map.mp hdrawing
    have hnode := AllBalanced.of_mem laid hlaid
    infer_instance
  exact .all hbalanced (List.mem_map_of_mem (mem_layAll hmem))
    ((hfield.append_left (word ",")).append_left hardBreak)

theorem writes_recordItem {field : Syntax} {fields : List Syntax} (hmem : field ∈ fields)
    (hfield : (draw field .inline).Writes Directly (.text value :: others)) (isInner : Bool)
    (path head : String) (arguments : Code) (parameters requirements : List Syntax)
    (place : Place) :
    (draw (.attributed [.attribute isInner path arguments]
      (.recordItem head parameters requirements fields)) place).Writes InItem
        (.text value :: others) := by
  intro draft
  let attributed := attributeMark isInner ++ word path ++ attributeArguments arguments ++ word "]"
  let before := attributed draft
  let opening := word head ++ parameterList (layAll parameters) ++
    requirementsBeforeBody (layAll requirements) ++ word "\x7b" ++ hardBreakIfNonempty
  obtain ⟨earlier, hdirectly, hsuffix⟩ :=
    writes_fields hmem hfield (opening (itemGroup before))
  have hattributed : attributed.Balanced := inferInstance
  have hbefore : openGroups before = openGroups draft := hattributed.openGroups_eq draft
  have hopening : openGroups (opening (itemGroup before)) = openGroups (itemGroup before) :=
    Drawing.Balanced.openGroups_eq _
  have hitem : openGroups (itemGroup before) = itemGroup before :: openGroups before := rfl
  refine ⟨earlier, ⟨before, hbefore, ?_⟩, Drawing.Keeps.suffix (braceEnd ++ hardBreak) hsuffix⟩
  rw [← hbefore, ← hitem, ← hopening]
  exact hdirectly

theorem writes_hasDocumented {text : String} {item : Syntax} (hitem : item.HasDocumented text)
    (place : Place) :
    ∃ value others, ShowsDocumentation text.toList value others ∧
      (draw item place).Writes InItem (.text value :: others) := by
  unfold Syntax.HasDocumented at hitem
  split at hitem
  next isInner path arguments head parameters requirements fields =>
    obtain ⟨mark, type, hmem⟩ := hitem
    obtain ⟨value, others, hshows, hfield⟩ := writes_field text mark type .inline
    exact ⟨value, others, hshows,
      writes_recordItem hmem hfield isInner path head arguments parameters requirements place⟩
  next => exact hitem.elim

theorem exists_of_showsDocumentation {text : List Char} {value : String} {others earlier : Draft}
    (hshows : ShowsDocumentation text value others) {drawing : Drawing} {before : Draft}
    (hbefore : openGroups before = [fileGroup])
    (hopen : openGroups earlier = [itemGroup before, fileGroup])
    (hsuffix : .text value :: others ++ earlier <:+ drawing []) :
    ∃ front behind, drawing.text.toList = front ++ documentation text ++ behind ∧
      ((documentation? false text).isSome → behind.head? = some '\n') := by
  obtain ⟨later, hdraft⟩ := hsuffix
  cases hshows with
  | @comment words hwords =>
      have hdraft : drawing [] = (later ++ [.text value] ++ [.possible { blank := infinity }]) ++
          ((words.map .text).reverse ++ earlier) := by
        rw [← hdraft]
        simp
      obtain ⟨front, htext⟩ := toList_text_of_words hdraft
      rw [hwords] at htext
      rw [← openGroups_words words] at hopen
      exact ⟨front, _, htext, fun _ => head?_addedAll_hardBreak hbefore hopen _⟩
  | @inAttribute words hdrawing hwords =>
      have hdraft : drawing [] = later ++ (((words ++ [value]).map .text).reverse ++ earlier) := by
        rw [← hdraft]
        simp
      obtain ⟨front, htext⟩ := toList_text_of_words hdraft
      rw [hwords] at htext
      refine ⟨front, _, htext, fun hsome => ?_⟩
      rw [hdrawing] at hsome
      cases hsome

end Layout

/-- The documentation of each field stands in the text of the file, with the end of the line behind
it if it is a comment. -/
theorem SourceFile.toList_text_documented {file : SourceFile} {item : Syntax} {text : String}
    (hmem : item ∈ file.items) (hitem : item.HasDocumented text) :
    ∃ before behind,
      file.text.toList = before ++ Layout.documentation text.toList ++ behind ∧
        ((documentation? false text.toList).isSome → behind.head? = some '\n') := by
  obtain ⟨value, others, hshows, hwrites⟩ := writes_hasDocumented hitem .inline
  have hitems : (inOrder (layAll file.attributes) ++ inOrder (layAll file.items)).Writes InItem
      (.text value :: others) := (writes_inOrder hmem hwrites).append_right _
  obtain ⟨earlier, ⟨before, hbefore, hopen⟩, hsuffix⟩ := hitems fileGroup
  exact exists_of_showsDocumentation hshows hbefore hopen (Drawing.Keeps.suffix finish hsuffix)

end ProviderForge
