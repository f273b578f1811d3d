import ProviderForge.Layout.File
import ProviderForge.Proofs.Layout.Group

namespace ProviderForge.Layout

def Piece.isText : Piece → Bool
  | text _ => true
  | _ => false

/-- The draft up to its latest text. What follows that text may still be changed. -/
def settled (draft : Draft) : Draft :=
  draft.dropWhile (!·.isText)

theorem settled_suffix (draft : Draft) : settled draft <:+ draft :=
  List.dropWhile_suffix _

theorem settled_cons {piece : Piece} (hpiece : piece.isText = false) (draft : Draft) :
    settled (piece :: draft) = settled draft := by
  simp [settled, hpiece]

theorem settled_settled (draft : Draft) : settled (settled draft) = settled draft := by
  induction draft with
  | nil => rfl
  | cons piece draft ih =>
      cases hpiece : piece.isText with
      | true => simp [settled, hpiece]
      | false => rw [settled_cons hpiece, ih]

theorem settled_suffix_settled {draft later : Draft} (hsuffix : settled draft <:+ later) :
    settled draft <:+ settled later := by
  obtain ⟨pieces, rfl⟩ := hsuffix
  induction pieces with
  | nil => simp only [List.nil_append, settled_settled, List.suffix_refl]
  | cons piece pieces ih =>
      cases hpiece : piece.isText with
      | true => exact ⟨piece :: pieces, by simp [settled, hpiece]⟩
      | false => rwa [List.cons_append, settled_cons hpiece]

namespace Drawing

/-- The drawing takes back no text. -/
class Keeps (drawing : Drawing) : Prop where
  settled_suffix : ∀ draft, settled draft <:+ drawing draft

theorem Keeps.of_cons {drawing : Drawing} {piece : Piece}
    (hdrawing : ∀ draft, drawing draft = piece :: draft) : drawing.Keeps where
  settled_suffix draft := by
    rw [hdrawing]
    exact (Layout.settled_suffix draft).trans (List.suffix_cons piece draft)

/-- The drawing takes back no text, and leaves the groups open that it finds open. -/
class Balanced (drawing : Drawing) : Prop extends drawing.Keeps where
  openGroups_eq : ∀ draft, openGroups (drawing draft) = openGroups draft

/-- The drawing takes back no text, and opens a group. -/
class Opens (drawing : Drawing) : Prop extends drawing.Keeps where
  openGroups_tail : ∀ draft, (openGroups (drawing draft)).tail = openGroups draft

/-- The drawing takes back no text, and closes the innermost group. -/
class Closes (drawing : Drawing) : Prop extends drawing.Keeps where
  openGroups_eq : ∀ draft, openGroups (drawing draft) = (openGroups draft).tail

instance {first second : Drawing} [first.Keeps] [second.Keeps] : (first ++ second).Keeps where
  settled_suffix draft :=
    (settled_suffix_settled (Keeps.settled_suffix draft)).trans
      (Keeps.settled_suffix (first draft))

instance {first second : Drawing} [first.Balanced] [second.Balanced] :
    (first ++ second).Balanced where
  openGroups_eq draft :=
    (Balanced.openGroups_eq (first draft)).trans (Balanced.openGroups_eq draft)

instance {first second : Drawing} [first.Opens] [second.Closes] : (first ++ second).Balanced where
  openGroups_eq draft :=
    (Closes.openGroups_eq (first draft)).trans (Opens.openGroups_tail draft)

instance {first second : Drawing} [first.Opens] [second.Balanced] : (first ++ second).Opens where
  openGroups_tail draft :=
    (congrArg List.tail (Balanced.openGroups_eq (first draft))).trans
      (Opens.openGroups_tail draft)

instance {first second : Drawing} [first.Balanced] [second.Opens] : (first ++ second).Opens where
  openGroups_tail draft :=
    (Opens.openGroups_tail (first draft)).trans (Balanced.openGroups_eq draft)

instance {first second : Drawing} [first.Balanced] [second.Closes] : (first ++ second).Closes where
  openGroups_eq draft :=
    (Closes.openGroups_eq (first draft)).trans
      (congrArg List.tail (Balanced.openGroups_eq draft))

instance {first second : Drawing} [first.Closes] [second.Balanced] : (first ++ second).Closes where
  openGroups_eq draft :=
    (Balanced.openGroups_eq (first draft)).trans (Closes.openGroups_eq draft)

instance {condition : Prop} [Decidable condition] {first second : Drawing} [first.Balanced]
    [second.Balanced] : (if condition then first else second).Balanced := by
  split <;> infer_instance

instance {condition : Prop} [Decidable condition] {first second : Drawing} [first.Opens]
    [second.Opens] : (if condition then first else second).Opens := by
  split <;> infer_instance

instance : empty.Balanced where
  settled_suffix := Layout.settled_suffix
  openGroups_eq _ := rfl

instance (text : String) : (word text).Balanced where
  toKeeps := .of_cons fun _ => rfl
  openGroups_eq _ := rfl

instance (spot : Break) : (possible spot).Balanced where
  toKeeps := .of_cons fun _ => rfl
  openGroups_eq _ := rfl

instance (offset : Int) : (consistent offset).Opens where
  toKeeps := .of_cons fun _ => rfl
  openGroups_tail _ := rfl

instance (offset : Int) : (inconsistent offset).Opens where
  toKeeps := .of_cons fun _ => rfl
  openGroups_tail _ := rfl

instance : finish.Closes where
  settled_suffix draft := by
    unfold finish
    split
    · rw [settled_cons rfl, settled_cons rfl]
      exact Layout.settled_suffix _
    · rw [settled_cons rfl]
      split
      · exact (Layout.settled_suffix _).trans (List.suffix_cons _ _)
      · exact ((Layout.settled_suffix _).trans (List.suffix_cons _ _)).trans (List.suffix_cons _ _)
    · exact (Layout.settled_suffix _).trans (List.suffix_cons _ _)
  openGroups_eq draft := by
    unfold finish
    split
    · rfl
    · split <;> rfl
    · rfl

instance (limit : Nat) : (finishWithin limit).Closes where
  settled_suffix draft := by
    simp only [finishWithin]
    split
    · rw [← settled_cons (rfl : Piece.filler.isText = false)]
      exact Keeps.settled_suffix (.filler :: draft)
    · exact Keeps.settled_suffix draft
  openGroups_eq draft := by
    simp only [finishWithin]
    split
    · exact Closes.openGroups_eq (.filler :: draft)
    · exact Closes.openGroups_eq draft

instance (offset : Int) : (shift offset).Balanced where
  settled_suffix draft := by
    unfold shift
    split
    · rw [settled_cons rfl]
      exact (Layout.settled_suffix _).trans (List.suffix_cons _ _)
    · exact Layout.settled_suffix _
  openGroups_eq draft := by
    unfold shift
    split <;> rfl

instance {condition : Bool} {drawing : Drawing} [drawing.Balanced] :
    (only condition drawing).Balanced := by
  unfold only
  infer_instance

section

variable {drawings : List Drawing} (hdrawings : ∀ drawing ∈ drawings, drawing.Balanced)
include hdrawings

theorem Balanced.all : (all drawings).Balanced := by
  induction drawings with
  | nil => exact inferInstanceAs empty.Balanced
  | cons first rest ih =>
      obtain ⟨hfirst, hrest⟩ := List.forall_mem_cons.mp hdrawings
      have hothers := ih hrest
      exact inferInstanceAs (first ++ Drawing.all rest).Balanced

theorem Balanced.separated {separator : Drawing} [separator.Balanced] :
    (separated separator drawings).Balanced := by
  induction drawings with
  | nil => exact inferInstanceAs empty.Balanced
  | cons first rest ih =>
      obtain ⟨hfirst, hrest⟩ := List.forall_mem_cons.mp hdrawings
      cases rest with
      | nil => exact hfirst
      | cons second rest =>
          have hothers := ih hrest
          exact inferInstanceAs
            (first ++ separator ++ Drawing.separated separator (second :: rest)).Balanced

theorem Balanced.ended {ending : Bool → Drawing} [∀ isLast, (ending isLast).Balanced] :
    (ended ending drawings).Balanced := by
  induction drawings with
  | nil => exact inferInstanceAs empty.Balanced
  | cons first rest ih =>
      obtain ⟨hfirst, hrest⟩ := List.forall_mem_cons.mp hdrawings
      have hothers := ih hrest
      exact inferInstanceAs (first ++ ending rest.isEmpty ++ Drawing.ended ending rest).Balanced

end

end Drawing

instance (character : Char) : (letter character).Balanced :=
  inferInstanceAs (word _).Balanced

instance : blank.Balanced :=
  inferInstanceAs (word _).Balanced

instance : zeroBreak.Balanced :=
  inferInstanceAs (possible _).Balanced

instance : space.Balanced :=
  inferInstanceAs (possible _).Balanced

instance : hardBreak.Balanced :=
  inferInstanceAs (possible _).Balanced

instance : spaceIfNonempty.Balanced :=
  inferInstanceAs (possible _).Balanced

instance : hardBreakIfNonempty.Balanced :=
  inferInstanceAs (possible _).Balanced

instance : neverBreak.Balanced :=
  inferInstanceAs (possible _).Balanced

instance : outdent.Balanced :=
  inferInstanceAs (shift _).Balanced

instance {inner : Drawing} [inner.Balanced] (offset : Int) : (boxed offset inner).Balanced := by
  unfold boxed
  infer_instance

instance {inner : Drawing} [inner.Balanced] (offset : Int) : (packed offset inner).Balanced := by
  unfold packed
  infer_instance

instance (isLast : Bool) : (comma isLast).Balanced := by
  unfold comma
  infer_instance

instance (isLast : Bool) : (commaOrSpace isLast).Balanced := by
  unfold commaOrSpace
  infer_instance

class Laid.Balanced (laid : Laid) : Prop where
  balanced_draw : ∀ place, (laid.draw place).Balanced

class AllBalanced (nodes : List Laid) : Prop where
  of_mem : ∀ node ∈ nodes, node.Balanced

class OptionBalanced (node : Option Laid) : Prop where
  of_mem : ∀ laid ∈ node, laid.Balanced

section

variable {laid : Laid} [laid.Balanced]

instance (place : Place) : (laid.draw place).Balanced :=
  Laid.Balanced.balanced_draw place

instance : laid.inline.Balanced :=
  Laid.Balanced.balanced_draw _

instance : laid.atLineStart.Balanced :=
  Laid.Balanced.balanced_draw _

instance (atLineStart : Bool) : (laid.linked atLineStart).Balanced := by
  unfold Laid.linked
  infer_instance

instance (place : Place) : (directBase laid place).Balanced := by
  cases place <;> (unfold directBase; infer_instance)

instance (place : Place) : (accessBase laid place).Balanced := by
  unfold accessBase
  infer_instance

instance : (condition laid).Balanced := by
  unfold condition
  infer_instance

instance : (branchCondition laid).Balanced := by
  unfold branchCondition
  infer_instance

instance (isTerminated : Bool) (place : Place) : (statement laid isTerminated place).Balanced := by
  cases place <;> (unfold statement; infer_instance)

instance (isTerminated : Bool) : (macroStatement laid isTerminated).Balanced := by
  unfold macroStatement
  infer_instance

instance : (macroItem laid).Balanced := by
  unfold macroItem
  infer_instance

instance (head : String) : (importing head laid).Balanced := by
  unfold importing
  infer_instance

end

theorem Drawing.Balanced.maybe {node : Option Laid} [OptionBalanced node] {draw : Laid → Drawing}
    (hdraw : ∀ laid : Laid, laid.Balanced → (draw laid).Balanced) : (maybe node draw).Balanced := by
  cases node with
  | none => exact inferInstanceAs Drawing.empty.Balanced
  | some laid => exact hdraw laid (OptionBalanced.of_mem laid rfl)

instance {node : Option Laid} [OptionBalanced node] : (maybe node Laid.inline).Balanced :=
  .maybe fun _ _ => inferInstance

instance : AllBalanced [] where
  of_mem _ hmem := absurd hmem List.not_mem_nil

instance {node : Laid} {nodes : List Laid} [hnode : node.Balanced] [hnodes : AllBalanced nodes] :
    AllBalanced (node :: nodes) where
  of_mem := List.forall_mem_cons.mpr ⟨hnode, hnodes.of_mem⟩

theorem AllBalanced.of_cons {node : Laid} {others : List Laid}
    (hnodes : AllBalanced (node :: others)) : node.Balanced ∧ AllBalanced others :=
  (List.forall_mem_cons.mp hnodes.of_mem).imp_right AllBalanced.mk

theorem AllBalanced.inlines {nodes : List Laid} (hnodes : AllBalanced nodes) :
    ∀ drawing ∈ inlines nodes, drawing.Balanced := by
  intro drawing hmem
  obtain ⟨node, hnode, rfl⟩ := List.mem_map.mp hmem
  have hbalanced := hnodes.of_mem node hnode
  infer_instance

theorem AllBalanced.map {nodes : List Laid} (hnodes : AllBalanced nodes) {draw : Laid → Drawing}
    (hdraw : ∀ laid : Laid, laid.Balanced → (draw laid).Balanced) :
    (Drawing.all (nodes.map draw)).Balanced := by
  refine .all fun drawing hmem => ?_
  obtain ⟨node, hnode, rfl⟩ := List.mem_map.mp hmem
  exact hdraw node (hnodes.of_mem node hnode)

section

variable {nodes : List Laid} [hnodes : AllBalanced nodes]

instance : (inOrder nodes).Balanced :=
  .all hnodes.inlines

instance {separator : Drawing} [separator.Balanced] :
    (Drawing.separated separator (inlines nodes)).Balanced :=
  .separated hnodes.inlines

instance {ending : Bool → Drawing} [∀ isLast, (ending isLast).Balanced] :
    (Drawing.ended ending (inlines nodes)).Balanced :=
  .ended hnodes.inlines

instance : AllBalanced (lifetimesFirst nodes) where
  of_mem node hmem := by
    simp only [lifetimesFirst, List.mem_append, List.mem_filter] at hmem
    exact hnodes.of_mem node (hmem.elim And.left And.left)

instance : (commaSeparated nodes).Balanced := by
  unfold commaSeparated
  infer_instance

instance : (enclosed nodes).Balanced := by
  unfold enclosed
  infer_instance

instance (hasComma : Bool) : (enclosedTuple nodes hasComma).Balanced := by
  unfold enclosedTuple
  split
  · obtain ⟨hnode, -⟩ := hnodes.of_cons
    infer_instance
  · infer_instance

instance {first : Drawing} [first.Balanced] : (summed first nodes).Balanced := by
  cases nodes with
  | nil => exact inferInstanceAs Drawing.empty.Balanced
  | cons node others =>
      obtain ⟨hnode, hothers⟩ := hnodes.of_cons
      have hlater :
          (Drawing.all (others.map fun node => space ++ word "+ " ++ node.inline)).Balanced :=
        hothers.map fun _ _ => inferInstance
      unfold summed
      infer_instance

instance : (plusSeparated nodes).Balanced := by
  unfold plusSeparated
  infer_instance

instance (isGlobal : Bool) : (pathDrawing isGlobal nodes).Balanced := by
  unfold pathDrawing
  infer_instance

instance (isExpression : Bool) (name : String) :
    (genericSegment isExpression name nodes).Balanced := by
  unfold genericSegment
  infer_instance

instance {output : Option Laid} [OptionBalanced output] : (result output).Balanced :=
  .maybe fun _ _ => inferInstance

instance (name : String) {output : Option Laid} [OptionBalanced output] :
    (callableSegment name nodes output).Balanced := by
  unfold callableSegment
  infer_instance

instance : (quantifier nodes).Balanced := by
  unfold quantifier
  infer_instance

instance {owner : Laid} [owner.Balanced] {contract : Option Laid} [OptionBalanced contract] :
    (qualifiedPath owner contract nodes).Balanced := by
  have hcontract : (maybe contract fun path => word " as " ++ path.inline).Balanced :=
    .maybe fun _ _ => inferInstance
  have hsegments : (Drawing.all (nodes.map fun segment => word "::" ++ segment.inline)).Balanced :=
    hnodes.map fun _ _ => inferInstance
  unfold qualifiedPath
  infer_instance

instance {variadic : Option Laid} [OptionBalanced variadic] :
    (inputList nodes variadic).Balanced := by
  have hvariadic : (maybe variadic fun node => node.inline ++ zeroBreak).Balanced :=
    .maybe fun _ _ => inferInstance
  unfold inputList
  infer_instance

instance (keywords : String) {variadic output : Option Laid} [OptionBalanced variadic]
    [OptionBalanced output] : (functionType keywords nodes variadic output).Balanced := by
  unfold functionType
  infer_instance

instance : (alternatives nodes).Balanced := by
  unfold alternatives
  infer_instance

instance {path : Laid} [path.Balanced] {rest : Option Laid} [OptionBalanced rest] :
    (recordPattern path nodes rest).Balanced := by
  have hrest : (maybe rest fun node => node.inline ++ space).Balanced :=
    .maybe fun _ _ => inferInstance
  unfold recordPattern
  infer_instance

end

instance {inner : Drawing} [inner.Balanced] (place : Place) : (chainLink place inner).Balanced := by
  cases place <;> (unfold chainLink; infer_instance)

section

variable {base value type : Laid} [base.Balanced] [value.Balanced] [type.Balanced]

instance (member : String) (place : Place) : (fieldAccess base member place).Balanced := by
  unfold fieldAccess
  infer_instance

instance (operator : String) : (binary base operator value).Balanced := by
  unfold binary
  infer_instance

instance : (cast value type).Balanced := by
  unfold cast
  infer_instance

instance : (assignment base value).Balanced := by
  unfold assignment
  infer_instance

end

instance {start finish : Option Laid} [OptionBalanced start] [OptionBalanced finish]
    (operator : String) : (range start operator finish).Balanced := by
  unfold range
  infer_instance

instance {value : Option Laid} [OptionBalanced value] (keyword : String) :
    (jump keyword value).Balanced := by
  have hvalue : (maybe value fun value => blank ++ value.inline).Balanced :=
    .maybe fun _ _ => inferInstance
  unfold jump
  infer_instance

instance {body : Laid} {drawn : Drawing} [drawn.Balanced] (closing : String)
    (unbroken : Option Char) : (looseBody body drawn closing unbroken).Balanced := by
  unfold looseBody
  infer_instance

section

variable {pattern body : Laid} [pattern.Balanced] [body.Balanced] {guard : Option Laid}
  [OptionBalanced guard]

instance : (armHead pattern guard).Balanced := by
  have hguard : (maybe guard fun guard => word " if " ++ guard.inline).Balanced :=
    .maybe fun _ _ => inferInstance
  unfold armHead
  infer_instance

instance : (arm pattern guard body).Balanced := by
  unfold arm
  infer_instance

end

section

variable {nodes others : List Laid} [hnodes : AllBalanced nodes] [hothers : AllBalanced others]

instance : (argumentList nodes).Balanced := by
  unfold argumentList
  split
  · obtain ⟨hargument, -⟩ := hnodes.of_cons
    infer_instance
  · infer_instance

instance {callee : Laid} [callee.Balanced] (place : Place) :
    (call callee nodes place).Balanced := by
  cases place <;> (unfold call; infer_instance)

instance {receiver method : Laid} [receiver.Balanced] [method.Balanced] (place : Place) :
    (methodCall receiver method nodes place).Balanced := by
  unfold methodCall
  infer_instance

instance : (array nodes).Balanced := by
  unfold array
  infer_instance

instance {path : Laid} [path.Balanced] {rest : Option Laid} [OptionBalanced rest] :
    (record path nodes rest).Balanced := by
  have hrest : (maybe rest fun rest => word ".." ++ rest.inline ++ space).Balanced :=
    .maybe fun _ _ => inferInstance
  unfold record
  infer_instance

instance : (smallBlock nodes others).Balanced := by
  unfold smallBlock
  dsimp only
  split
  · infer_instance
  · split
    · obtain ⟨hbody, -⟩ := hothers.of_cons
      have hdrawn := hbody.balanced_draw .lineStart
      infer_instance
    · infer_instance

instance : braceEnd.Closes := by
  unfold braceEnd
  infer_instance

instance : (bodyLines nodes others).Balanced := by
  unfold bodyLines
  infer_instance

instance (label : String) : (endlessLoop label nodes others).Balanced := by
  unfold endlessLoop
  infer_instance

instance {tested : Laid} [tested.Balanced] (label : String) :
    (whileLoop label tested nodes others).Balanced := by
  unfold whileLoop
  infer_instance

instance {pattern iterated : Laid} [pattern.Balanced] [iterated.Balanced] (label : String) :
    (forLoop label pattern iterated nodes others).Balanced := by
  unfold forLoop
  infer_instance

instance {scrutinee : Laid} [scrutinee.Balanced] : (selection scrutinee nodes others).Balanced := by
  unfold selection
  infer_instance

instance {pattern : Laid} [pattern.Balanced] {guard : Option Laid} [OptionBalanced guard]
    (label : String) : (blockArm pattern guard label nodes others).Balanced := by
  unfold blockArm
  infer_instance

instance {tested : Laid} [tested.Balanced] {next : Option Laid} [hnext : OptionBalanced next] :
    (conditional tested nodes next).Balanced := by
  cases next with
  | none =>
      unfold conditional
      infer_instance
  | some next =>
      have hlater : next.Balanced := hnext.of_mem next rfl
      unfold conditional
      infer_instance

instance {tested next : Option Laid} [OptionBalanced tested] [OptionBalanced next] :
    (otherwise tested nodes next).Balanced := by
  have htested : (maybe tested branchCondition).Balanced := .maybe fun _ _ => inferInstance
  unfold otherwise
  infer_instance

instance {opening : Drawing} [opening.Balanced] {output : Option Laid}
    [houtput : OptionBalanced output] {body : Laid} [body.Balanced] :
    (closure opening nodes output body).Balanced := by
  cases output with
  | none =>
      unfold closure
      infer_instance
  | some type =>
      have htype : type.Balanced := houtput.of_mem type rfl
      unfold closure
      infer_instance

end

section

variable {nodes others : List Laid} [hnodes : AllBalanced nodes] [hothers : AllBalanced others]

instance : (parameterList nodes).Balanced := by
  unfold parameterList
  infer_instance

instance (name : String) {fallback : Option Laid} [OptionBalanced fallback] :
    (typeParameter name nodes fallback).Balanced := by
  have hfallback : (maybe fallback fun type => space ++ word "= " ++ type.inline).Balanced :=
    .maybe fun _ _ => inferInstance
  unfold typeParameter
  infer_instance

instance {subject : Laid} [subject.Balanced] : (constraint subject nodes).Balanced := by
  unfold constraint
  infer_instance

instance {subject : Laid} [subject.Balanced] : (requirement subject nodes).Balanced := by
  unfold requirement
  infer_instance

instance : (Drawing.all (nodes.map fun node => node.inline ++ word "," ++ hardBreak)).Balanced :=
  hnodes.map fun _ _ => inferInstance

instance : (requirementsBeforeBody nodes).Balanced := by
  unfold requirementsBeforeBody
  infer_instance

instance {between : Drawing} [between.Balanced] (isLast : Bool) :
    (lastEnding between isLast).Balanced := by
  unfold lastEnding
  infer_instance

instance : (requirementsBeforeEnd nodes).Balanced := by
  unfold requirementsBeforeEnd
  infer_instance

instance : (requirementsInLine nodes).Balanced := by
  unfold requirementsInLine
  infer_instance

instance : (requirementsAtLineEnd nodes).Balanced := by
  unfold requirementsAtLineEnd
  infer_instance

instance {inner : Drawing} [inner.Balanced] : (itemLine inner).Balanced := by
  unfold itemLine
  infer_instance

instance {head content : Drawing} [head.Balanced] [content.Balanced] :
    (itemBody head content).Balanced := by
  unfold itemBody
  infer_instance

instance {pattern : Laid} [pattern.Balanced] {value otherwise : Option Laid} [OptionBalanced value]
    [hotherwise : OptionBalanced otherwise] : (binding pattern value otherwise).Balanced := by
  have hvalue : (maybe value fun value => word " = " ++ neverBreak ++ value.inline).Balanced :=
    .maybe fun _ _ => inferInstance
  cases otherwise with
  | none =>
      unfold binding
      infer_instance
  | some block =>
      have hblock : block.Balanced := hotherwise.of_mem block rfl
      unfold binding
      infer_instance

instance (head : String) {type : Laid} [type.Balanced] {value : Option Laid}
    [OptionBalanced value] : (constant head type value).Balanced := by
  have hvalue : (maybe value fun value => word " = " ++ neverBreak ++ value.inline).Balanced :=
    .maybe fun _ _ => inferInstance
  unfold constant
  infer_instance

section

variable {parameters inputs bounds requirements fields supertraits attributes items : List Laid}
  [AllBalanced parameters] [AllBalanced inputs] [AllBalanced bounds] [AllBalanced requirements]
  [AllBalanced fields] [AllBalanced supertraits] [AllBalanced attributes] [AllBalanced items]
  (head : String)

instance {variadic output : Option Laid} [OptionBalanced variadic] [OptionBalanced output] :
    (signature head parameters inputs variadic output).Balanced := by
  unfold signature
  infer_instance

instance {signature : Laid} [signature.Balanced] :
    (function signature requirements attributes items).Balanced := by
  unfold function
  infer_instance

instance {definition : Option Laid} [OptionBalanced definition] (isRequiredFirst : Bool) :
    (typeAlias head parameters bounds requirements definition isRequiredFirst).Balanced := by
  have hdefined (mark : String) :
      (maybe definition fun type =>
        word mark ++ neverBreak ++ packed (-indent) type.inline).Balanced :=
    .maybe fun _ _ => inferInstance
  unfold typeAlias
  infer_instance

instance : (foreignType head parameters).Balanced := by
  unfold foreignType
  infer_instance

instance : (recordItem head parameters requirements fields).Balanced := by
  unfold recordItem
  infer_instance

instance : (tupleFields fields).Balanced := by
  unfold tupleFields
  infer_instance

instance : (tupleItem head parameters fields requirements).Balanced := by
  unfold tupleItem
  infer_instance

instance : (unitItem head parameters requirements).Balanced := by
  unfold unitItem
  infer_instance

instance : (recordVariant head fields).Balanced := by
  unfold recordVariant
  infer_instance

instance : (traitItem head parameters supertraits requirements attributes items).Balanced := by
  unfold traitItem
  infer_instance

instance : (traitAlias head parameters bounds requirements).Balanced := by
  unfold traitAlias
  infer_instance

instance {contract : Option Laid} [OptionBalanced contract] {owner : Laid} [owner.Balanced] :
    (implementation head parameters contract owner requirements attributes items).Balanced := by
  have hcontract : (maybe contract fun path => path.inline ++ space ++ word "for ").Balanced :=
    .maybe fun _ _ => inferInstance
  unfold implementation
  infer_instance

instance : (moduleItem head attributes items).Balanced := by
  unfold moduleItem
  infer_instance

end

theorem AllBalanced.trees {trees : List Laid} (htrees : AllBalanced trees) :
    (importTrees trees).Balanced := by
  fun_induction importTrees trees with
  | case1 => infer_instance
  | case2 last =>
      obtain ⟨hlast, -⟩ := htrees.of_cons
      infer_instance
  | case3 first rest _ ih =>
      obtain ⟨hfirst, hrest⟩ := htrees.of_cons
      have hothers := ih hrest
      infer_instance

instance : (importGroup nodes).Balanced := by
  have htrees := hnodes.trees
  unfold importGroup
  dsimp only
  split
  · obtain ⟨honly, -⟩ := hnodes.of_cons
    infer_instance
  · infer_instance

end

instance (mark : String) (text : List Char) : (commentLine mark text).Balanced := by
  unfold commentLine
  infer_instance

instance (mark : String) (text : List Char) : (commentBlock mark text).Balanced := by
  unfold commentBlock
  infer_instance

instance (isInner : Bool) : (attributeMark isInner).Balanced := by
  unfold attributeMark
  infer_instance

theorem Drawing.Balanced.documentation {isInner : Bool} {text : List Char} {drawing : Drawing}
    (hdrawing : documentation? isInner text = some drawing) : drawing.Balanced := by
  unfold documentation? at hdrawing
  split at hdrawing
  · cases hdrawing
    infer_instance
  · split at hdrawing
    · cases hdrawing
      infer_instance
    · cases hdrawing

theorem Drawing.Balanced.comment {text : List Char} {drawing : Drawing}
    (hdrawing : comment? text = some drawing) : drawing.Balanced := by
  unfold comment? at hdrawing
  split at hdrawing
  · cases hdrawing
    infer_instance
  · split at hdrawing
    · cases hdrawing
      infer_instance
    · cases hdrawing

theorem Drawing.Balanced.attributeComment {isInner : Bool} {path literal : String}
    {drawing : Drawing} (hdrawing : attributeComment? isInner path literal = some drawing) :
    drawing.Balanced := by
  simp only [attributeComment?, Option.bind_eq_bind, Option.bind_eq_some_iff] at hdrawing
  obtain ⟨text, -, hdrawing⟩ := hdrawing
  split at hdrawing
  · exact .documentation hdrawing
  · exact .comment hdrawing
  · cases hdrawing

instance (isInner : Bool) (path : String) {value : Laid} [value.Balanced] :
    (valueAttribute isInner path value).Balanced := by
  have hwritten : (attributeMark isInner ++ word path ++ word " = " ++ value.inline ++ word "]" ++
      space).Balanced := inferInstance
  unfold valueAttribute
  dsimp only
  split
  next literal _ =>
    cases hcomment : attributeComment? isInner path literal with
    | none => exact hwritten
    | some drawing => exact .attributeComment hcomment
  next => exact hwritten

mutual
theorem balanced_drawnToken (isMatcher : Bool) : ∀ token, (drawnToken isMatcher token).Balanced
  | .ident _ | .punct _ _ | .literal _ => by
      unfold drawnToken
      infer_instance
  | .group _ content => by
      have hcontent := balanced_tokens isMatcher .start true content
      unfold drawnToken
      infer_instance

theorem balanced_tokens (isMatcher : Bool) : ∀ (context : Context) (attached : Bool) (code : Code),
    (tokens isMatcher context attached code).Balanced
  | _, _, [] => inferInstanceAs Drawing.empty.Balanced
  | context, _, token :: rest => by
      have htoken := balanced_drawnToken isMatcher token
      have hrest :=
        balanced_tokens isMatcher (follow isMatcher context token).2 (isAttached token) rest
      unfold tokens
      infer_instance
end

instance (isMatcher : Bool) (gap : Drawing) [gap.Balanced] (code : Code) :
    (indentedTokens isMatcher gap code).Balanced := by
  have htokens := balanced_tokens isMatcher .start true code
  unfold indentedTokens macroTokens
  infer_instance

theorem balanced_macroRules (part : RulePart) (code : Code) : (macroRules part code).Balanced := by
  fun_induction macroRules part code <;> infer_instance

instance (path : String) (name : Option String) (delimiter : Delimiter) (content : Code) :
    (macroCall path name delimiter content).Balanced := by
  unfold macroCall
  split
  next name =>
    have hrules := balanced_macroRules .start content
    unfold macroDefinition
    infer_instance
  next =>
    have hname : (Drawing.optional (name.map fun name => blank ++ word name)).Balanced := by
      cases name
      · exact inferInstanceAs Drawing.empty.Balanced
      · exact inferInstanceAs (blank ++ word _).Balanced
    infer_instance

/-- The drawing closes what arguments in this delimiter open; only parentheses open a group. -/
def Drawing.ClosesArguments (drawing : Drawing) : Delimiter → Prop
  | .parenthesis => drawing.Closes
  | _ => drawing.Balanced

theorem Drawing.ClosesArguments.append {first second : Drawing} [first.Balanced]
    {delimiter : Delimiter} (hsecond : second.ClosesArguments delimiter) :
    (first ++ second).ClosesArguments delimiter := by
  cases delimiter with
  | parenthesis =>
      have hcloses : second.Closes := hsecond
      exact inferInstanceAs (first ++ second).Closes
  | brace | bracket =>
      have hbalanced : second.Balanced := hsecond
      exact inferInstanceAs (first ++ second).Balanced

theorem Drawing.ClosesArguments.opened {inner : Drawing} {delimiter : Delimiter}
    (hinner : inner.ClosesArguments delimiter) :
    (argumentOpening delimiter ++ inner).Balanced := by
  cases delimiter with
  | parenthesis =>
      have hcloses : inner.Closes := hinner
      exact inferInstanceAs (word "(" ++ consistent indent ++ zeroBreak ++ inner).Balanced
  | brace | bracket =>
      have hbalanced : inner.Balanced := hinner
      exact inferInstanceAs (letter _ ++ inner).Balanced

theorem closesArguments_argumentClosing (context : ArgumentContext) (delimiter : Delimiter) :
    (argumentClosing context delimiter).ClosesArguments delimiter := by
  cases delimiter with
  | parenthesis =>
      exact inferInstanceAs
        (Drawing.only (context != .trailingComma) zeroBreak ++ outdent ++ finish ++
          word ")").Closes
  | brace | bracket => exact inferInstanceAs (letter _).Balanced

mutual
theorem balanced_drawnArgument : ∀ (context : ArgumentContext) (token : Token),
    (drawnArgument context token).Balanced
  | _, .ident _ | _, .literal _ => by
      unfold drawnArgument
      infer_instance
  | _, .punct _ _ => by
      unfold drawnArgument argumentMark
      infer_instance
  | _, .group delimiter content => by
      unfold drawnArgument
      exact (closesArguments_argumentTokens delimiter .mark content).opened

theorem closesArguments_argumentTokens (delimiter : Delimiter) :
    ∀ (context : ArgumentContext) (code : Code),
      (argumentTokens delimiter context code).ClosesArguments delimiter
  | context, [] => by
      unfold argumentTokens
      exact closesArguments_argumentClosing context delimiter
  | context, token :: rest => by
      have htoken := balanced_drawnArgument context token
      have hrest := fun next => closesArguments_argumentTokens delimiter next rest
      unfold argumentTokens
      dsimp only
      split
      next hcode => cases hcode
      next => exact (closesArguments_argumentClosing _ delimiter).append
      next hcode =>
        cases hcode
        exact (hrest _).append
end

instance (code : Code) : (attributeArguments code).Balanced := by
  unfold attributeArguments
  split
  next delimiter content => exact (closesArguments_argumentTokens delimiter .mark content).opened
  next => infer_instance

instance (isInner : Bool) (path : String) (arguments : Code) :
    («attribute» isInner path arguments).Balanced := by
  unfold «attribute»
  infer_instance

instance {node : Syntax} {draw : Place → Drawing} [∀ place, (draw place).Balanced] :
    Laid.Balanced ⟨node, draw⟩ where
  balanced_draw _ := inferInstance

instance : OptionBalanced none where
  of_mem _ hmem := nomatch hmem

instance {node : Laid} [hnode : node.Balanced] : OptionBalanced (some node) where
  of_mem _ hmem := Option.some.inj hmem ▸ hnode

/-- No node takes back what is written before it, and each closes the groups that it opens. -/
theorem balanced_layout : (∀ node place, (draw node place).Balanced) ∧
    (∀ node, OptionBalanced (layOption node)) ∧ ∀ nodes, AllBalanced (layAll nodes) := by
  apply draw.mutual_induct
  -- what the induction gives for the parts of a node is found as instances of what it is drawn by
  all_goals
    intros
    simp only [draw, layAll, layOption]
    infer_instance

instance (node : Syntax) (place : Place) : (draw node place).Balanced :=
  balanced_layout.1 node place

instance (nodes : List Syntax) : AllBalanced (layAll nodes) :=
  balanced_layout.2.2 nodes

end ProviderForge.Layout
