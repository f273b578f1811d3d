import ProviderForge.Proofs.Code.Record

namespace ProviderForge

open Result

namespace Code

/-- A call of a method of `self.base.client`. -/
structure RemoteCall where
  method : String
  arguments : List Code

def callAt? : Code → Option RemoteCall
  | .ident root :: .punct '.' _ :: .ident base :: .punct '.' _ :: .ident client :: .punct '.' _ ::
      .ident method :: .group .parenthesis arguments :: _ =>
      if root = "self" ∧ base = "base" ∧ client = "client" then some ⟨method, pieces arguments⟩
      else none
  | _ => none

mutual
def callsWithin : Token → List RemoteCall
  | .group _ content => remoteCalls content
  | _ => []

def remoteCalls : List Token → List RemoteCall
  | [] => []
  | token :: rest => (callAt? (token :: rest)).toList ++ callsWithin token ++ remoteCalls rest
end

theorem remoteCalls_cons (token : Token) (rest : Code) :
    remoteCalls (token :: rest) =
      (callAt? (token :: rest)).toList ++ callsWithin token ++ remoteCalls rest := rfl

inductive Spells : RemoteCall → Code → Prop
  | intro (method : String) (arguments : Code) (first second third : Spacing) :
      Spells ⟨method, pieces arguments⟩
        [.ident "self", .punct '.' first, .ident "base", .punct '.' second, .ident "client",
          .punct '.' third, .ident method, .group .parenthesis arguments]

theorem callAt?_eq_some {code : Code} {call : RemoteCall} :
    callAt? code = some call ↔ ∃ own rest, Spells call own ∧ code = own ++ rest := by
  constructor
  · intro hcall
    unfold callAt? at hcall
    split at hcall
    next root first base second client third method arguments rest =>
      split at hcall
      next hnames =>
        obtain ⟨rfl, rfl, rfl⟩ := hnames
        obtain rfl := Option.some.inj hcall
        exact ⟨_, rest, .intro method arguments first second third, rfl⟩
      next => cases hcall
    next => cases hcall
  · rintro ⟨own, rest, ⟨method, arguments, first, second, third⟩, rfl⟩
    rfl

/-- A call that begins in a code ends in it, or it goes on behind. -/
theorem callAt?_append (code right : Code) :
    callAt? (code ++ right) = callAt? code ∨
      ∃ call behind rest, Spells call (code ++ behind) ∧ behind ≠ [] ∧ right = behind ++ rest := by
  cases hwhole : callAt? (code ++ right) with
  | none =>
      left
      cases hown : callAt? code with
      | none => rfl
      | some call =>
          obtain ⟨own, rest, hspells, rfl⟩ := callAt?_eq_some.mp hown
          rw [List.append_assoc, callAt?_eq_some.mpr ⟨own, _, hspells, rfl⟩] at hwhole
          cases hwhole
  | some call =>
      obtain ⟨own, rest, hspells, hcode⟩ := callAt?_eq_some.mp hwhole
      rcases List.append_eq_append_iff.mp hcode with ⟨behind, rfl, rfl⟩ | ⟨inner, rfl, rfl⟩
      · by_cases hbehind : behind = []
        · left
          subst hbehind
          exact (callAt?_eq_some.mpr ⟨_, [], hspells, by simp⟩).symm
        · exact .inr ⟨call, behind, rest, hspells, hbehind, rfl⟩
      · exact .inl (callAt?_eq_some.mpr ⟨own, inner, hspells, rfl⟩).symm

/-- No call that has begun goes on with the code. -/
def isFresh : Code → Bool
  | .ident name :: .group delimiter _ :: _ =>
      name != "base" && name != "client" && delimiter != .parenthesis
  | .ident name :: _ => name != "base" && name != "client"
  | .punct character _ :: _ => character != '.'
  | .group delimiter _ :: _ => delimiter != .parenthesis
  | _ => true

theorem Spells.not_fresh {call : RemoteCall} {front behind : Code}
    (hspells : Spells call (front ++ behind)) (hfront : front ≠ []) (hbehind : behind ≠ [])
    (rest : Code) : isFresh (behind ++ rest) = false := by
  obtain ⟨token, front, rfl⟩ := List.exists_cons_of_ne_nil hfront
  have hsuffix : behind <:+ (token :: front ++ behind).tail := List.suffix_append front behind
  generalize token :: front ++ behind = own at hspells hsuffix
  cases hspells with
  | intro method arguments first second third =>
      simp only [List.tail_cons, List.suffix_cons_iff, List.suffix_nil] at hsuffix
      rcases hsuffix with rfl | rfl | rfl | rfl | rfl | rfl | rfl | rfl
      case inr.inr.inr.inr.inr.inr.inr => exact absurd rfl hbehind
      all_goals simp [isFresh]

theorem remoteCalls_append {left right : Code}
    (hseam : ∀ own, own <:+ left → own ≠ [] → callAt? (own ++ right) = callAt? own) :
    remoteCalls (left ++ right) = remoteCalls left ++ remoteCalls right := by
  induction left with
  | nil => rfl
  | cons token rest ih =>
      have hrest := ih fun own hown => hseam own (hown.trans (List.suffix_cons token rest))
      have hfirst := hseam _ (List.suffix_refl _) (List.cons_ne_nil token rest)
      rw [List.cons_append] at hfirst ⊢
      rw [remoteCalls_cons, remoteCalls_cons, hfirst, hrest]
      simp only [List.append_assoc]

theorem remoteCalls_append_fresh (left : Code) {right : Code} (hright : isFresh right = true) :
    remoteCalls (left ++ right) = remoteCalls left ++ remoteCalls right := by
  refine remoteCalls_append fun own _ hne => (callAt?_append own right).resolve_right ?_
  rintro ⟨call, behind, rest, hspells, hbehind, rfl⟩
  rw [hspells.not_fresh hne hbehind] at hright
  cases hright

theorem remoteCalls_listed (codes : List Code) :
    remoteCalls (listed codes) = codes.flatMap remoteCalls := by
  induction codes with
  | nil => rfl
  | cons first rest ih =>
      cases rest with
      | nil => exact (List.append_nil _).symm
      | cons second rest =>
          have hlisted : listed (first :: second :: rest) =
              first ++ (mark ',' ++ listed (second :: rest)) := List.append_assoc _ _ _
          have hcomma : remoteCalls (mark ',' ++ listed (second :: rest)) =
              remoteCalls (listed (second :: rest)) := rfl
          rw [hlisted, remoteCalls_append_fresh first rfl, hcomma, ih]
          rfl

theorem remoteCalls_terminated (codes : List Code) (trailing : Code) :
    remoteCalls (terminated codes ++ trailing) =
      codes.flatMap remoteCalls ++ remoteCalls trailing := by
  induction codes with
  | nil => rfl
  | cons first rest ih =>
      have hcomma : remoteCalls (mark ',' ++ (terminated rest ++ trailing)) =
          remoteCalls (terminated rest ++ trailing) := rfl
      rw [terminated_cons, List.append_assoc, List.append_assoc, remoteCalls_append_fresh first rfl,
        hcomma, ih, List.flatMap_cons, List.append_assoc]

/-- Ahead of any code, the code adds these calls. -/
def Adds (code : Code) (calls : List RemoteCall) : Prop :=
  ∀ rest, remoteCalls (code ++ rest) = calls ++ remoteCalls rest

namespace Adds

variable {left right code : Code} {calls others : List RemoteCall}

theorem nil : Adds [] [] := fun _ => rfl

theorem append (hleft : Adds left calls) (hright : Adds right others) :
    Adds (left ++ right) (calls ++ others) := by
  intro rest
  rw [List.append_assoc, hleft, hright, List.append_assoc]

theorem remoteCalls_eq (hcode : Adds code calls) : remoteCalls code = calls := by
  have hcalls := hcode []
  rwa [List.append_nil, remoteCalls, List.append_nil] at hcalls

theorem entry (fieldName : String) (value : Code) :
    Adds (Code.entry fieldName value) (remoteCalls value) := by
  intro rest
  have hvalue : remoteCalls (Code.entry fieldName value ++ rest) =
      remoteCalls (value ++ (mark ',' ++ rest)) := by
    rw [Code.entry, List.append_assoc, List.append_assoc]
    rfl
  rw [hvalue, remoteCalls_append_fresh value rfl]
  rfl

end Adds

/-- The calls in the fragments that a definition brings along. -/
def fragmentCalls (fragments : List (Option String)) : List RemoteCall :=
  fragments.flatMap fun fragment =>
    remoteCalls ((fragment.bind fun text => ofText? text.toList).getD [])

theorem fragmentCalls_cons {context : String} {fragment : Option String} {code : Code}
    (hcode : ofFragment? context fragment = .ok code) (rest : List (Option String)) :
    fragmentCalls (fragment :: rest) = remoteCalls code ++ fragmentCalls rest := by
  cases fragment with
  | none =>
      obtain rfl : [] = code := by simpa [ofFragment?] using hcode
      rfl
  | some text =>
      rw [ofFragment?, ofFragment] at hcode
      split at hcode
      next found hfound =>
        obtain rfl := Except.ok.inj hcode
        simp [fragmentCalls, hfound]
      next => cases hcode

theorem fragmentCalls_append (fragments others : List (Option String)) :
    fragmentCalls (fragments ++ others) = fragmentCalls fragments ++ fragmentCalls others :=
  List.flatMap_append

theorem remoteCalls_fragments {context : String} {fragments : List String} {codes : List Code}
    (hcodes : ofFragments context fragments = .ok codes) :
    codes.flatMap remoteCalls = fragmentCalls (fragments.map some) := by
  have hcalls : codes.map remoteCalls = fragments.map fun fragment =>
      fragmentCalls [some fragment] := by
    refine map_of_mapM_ok hcodes fun fragment code hcode => ?_
    have hlexed : ofFragment? context (some fragment) = .ok code := hcode
    exact ((fragmentCalls_cons hlexed []).trans (List.append_nil _)).symm
  rw [List.flatMap_def, hcalls]
  simp [fragmentCalls, List.flatMap_def, Function.comp_def]

end Code

end ProviderForge
