import ProviderForge.CommandLine.Invocation
import ProviderForge.Proofs.Result

namespace ProviderForge.CommandLine

open Result

namespace Parameter

theorem ofLetter?_ne_dryRun {letter : Char} {parameter : Parameter}
    (hletter : ofLetter? letter = some parameter) : parameter ≠ .dryRun := by
  rintro rfl
  have hfound := List.find?_some hletter
  simp [letter?] at hfound

theorem name_of_ofName? {name : String} {parameter : Parameter}
    (hname : ofName? name = some parameter) : parameter.name = name := by
  simpa using List.find?_some hname

theorem ne_dryRun_of_takesValue {parameter : Parameter} (htakes : parameter.takesValue = true) :
    parameter ≠ .dryRun := by
  rintro rfl
  simp [takesValue] at htakes

end Parameter

namespace Progress

@[simp] theorem refuse_eq_ok {fault : UsageFault} {value : α} :
    (refuse fault : Except Stop α) = .ok value ↔ False := by
  simp [refuse]

def take (progress : Progress) (argument : String) : Except Stop Progress :=
  match argument.toList with
  | '-' :: '-' :: name => progress.takeName name
  | '-' :: letter :: letters => progress.takeLetters (letter :: letters)
  | _ => progress.takeFree argument

theorem takeAll_cons {argument : String} (hgoesOn : argument ≠ "--") (progress : Progress)
    (rest : List String) :
    progress.takeAll (argument :: rest) = progress.take argument >>= (·.takeAll rest) := by
  have hletters : argument.toList ≠ ['-', '-'] := by
    intro heq
    exact hgoesOn (String.toList_inj.mp heq)
  rw [takeAll.eq_def, take]
  dsimp only
  split
  next heq => exact absurd heq hletters
  next name _ heq => simp only [heq]
  next letter letters hend hname heq =>
    simp only [heq]
  next hname hletter =>
    split
    next name heq => exact absurd heq (hname name)
    next letter letters _ heq => exact absurd heq (hletter letter letters)
    next => rfl

theorem text_of_splitAssignment {text : List Char} {name : String}
    (hsplit : splitAssignment text = (name, none)) : text = name.toList := by
  unfold splitAssignment at hsplit
  obtain ⟨hname, hrest⟩ := Prod.mk.inj hsplit
  split at hrest
  · simp at hrest
  next hnil =>
    have hwhole := List.IsPrefix.eq_of_length_le (List.takeWhile_prefix (· != '='))
      (List.drop_eq_nil_iff.mp hnil)
    rw [← hname, String.toList_ofList, hwhole]

/-- `told` has been given what `plain` has, and where `isDry` the dry run besides. -/
structure Follows (isDry : Bool) (told plain : Progress) : Prop where
  invocation : told.invocation = { plain.invocation with isDryRun := isDry }
  isReal : plain.invocation.isDryRun = false
  given : ∀ parameter, parameter ∈ told.given ↔
    parameter ∈ plain.given ∨ isDry = true ∧ parameter = .dryRun
  notGiven : .dryRun ∉ plain.given
  pending : told.pending = plain.pending
  takesValue : ∀ parameter value, plain.pending = some (parameter, value) →
    parameter.takesValue = true

/-- A dry run that comes behind a value settles it, which happens later without it. -/
def Trails (isDry : Bool) (told plain : Progress) : Prop :=
  Follows isDry told plain ∨
    told.pending = none ∧ ∃ settled, plain.settle = .ok settled ∧ Follows isDry told settled

section

variable {isDry : Bool} {told next plain : Progress}

theorem Follows.contains_given (hfollows : Follows isDry told plain) {parameter : Parameter}
    (hother : parameter ≠ .dryRun) :
    told.given.contains parameter = plain.given.contains parameter := by
  simp [hfollows.given, hother]

theorem Follows.await (hfollows : Follows isDry told plain)
    {pending : Option (Parameter × Option String)}
    (htakes : ∀ parameter value, pending = some (parameter, value) →
      parameter.takesValue = true) :
    Follows isDry { told with pending } { plain with pending } where
  invocation := hfollows.invocation
  isReal := hfollows.isReal
  given := hfollows.given
  notGiven := hfollows.notGiven
  pending := rfl
  takesValue := htakes

theorem Follows.assign (hfollows : Follows isDry told plain) {parameter : Parameter}
    (htakes : parameter.takesValue = true) {value : String}
    (hassign : told.assign parameter value = .ok next) :
    ∃ later, plain.assign parameter value = .ok later ∧ Follows isDry next later ∧
      next.pending = told.pending := by
  have hother := Parameter.ne_dryRun_of_takesValue htakes
  unfold Progress.assign at hassign ⊢
  rw [hfollows.contains_given hother] at hassign
  split at hassign
  · simp at hassign
  next hnew =>
    split at hassign
    · simp at hassign
    next hvalue =>
      obtain rfl := Except.ok.inj hassign
      rw [if_neg hnew, if_neg hvalue]
      refine ⟨_, rfl, ⟨?_, ?_, fun other => ?_, ?_, hfollows.pending, hfollows.takesValue⟩, rfl⟩
      · rw [hfollows.invocation]
        cases parameter <;> rfl
      · cases parameter <;> exact hfollows.isReal
      · simp only [List.mem_append, List.mem_singleton, hfollows.given]
        exact or_right_comm
      · simp [hfollows.notGiven, Ne.symm hother]

theorem Follows.settle (hfollows : Follows isDry told plain) (hsettle : told.settle = .ok next) :
    ∃ later, plain.settle = .ok later ∧ Follows isDry next later ∧ next.pending = none := by
  unfold Progress.settle at hsettle ⊢
  rw [← hfollows.pending]
  cases hpending : told.pending with
  | none =>
      simp only [hpending, Except.ok.injEq] at hsettle
      exact ⟨plain, rfl, hsettle ▸ hfollows, hsettle ▸ hpending⟩
  | some found =>
      obtain ⟨parameter, _ | value⟩ := found
      · simp [hpending] at hsettle
      · simp only [hpending] at hsettle ⊢
        have htakes := hfollows.takesValue parameter _ (hfollows.pending ▸ hpending)
        have hcleared := @Follows.await isDry told plain hfollows none (by simp)
        exact hcleared.assign htakes hsettle

theorem Trails.settle (htrails : Trails isDry told plain) (hsettle : told.settle = .ok next) :
    ∃ later, plain.settle = .ok later ∧ Follows isDry next later ∧ next.pending = none := by
  rcases htrails with hfollows | ⟨hpending, settled, hsettled, hfollows⟩
  · exact hfollows.settle hsettle
  · simp only [Progress.settle, hpending, Except.ok.injEq] at hsettle
    exact ⟨settled, hsettled, hsettle ▸ hfollows, hsettle ▸ hpending⟩

/-- A dry run is refused the second time, and every other parameter is taken alike. -/
theorem Trails.flag (htrails : Trails isDry told plain) {parameter : Parameter}
    (htakes : parameter.takesValue = false) (hother : isDry = true ∨ parameter ≠ .dryRun)
    (hflag : told.flag parameter = .ok next) :
    ∃ later, plain.flag parameter = .ok later ∧ Follows isDry next later := by
  unfold Progress.flag at hflag ⊢
  rw [bind_eq_ok] at hflag
  obtain ⟨middle, hsettle, hflag⟩ := hflag
  obtain ⟨settled, hsettled, hfollows, -⟩ := htrails.settle hsettle
  rw [hsettled, ok_bind]
  cases parameter with
  | filter | output | definitions => simp [Parameter.takesValue] at htakes
  | help | version => simp at hflag
  | dryRun =>
      have hdry : isDry = true := hother.resolve_right (· rfl)
      simp [hfollows.given, hdry] at hflag
  | verbose =>
      obtain rfl := pure_eq_ok.mp hflag
      refine ⟨_, rfl, ?_, hfollows.isReal, fun other => ?_, ?_, hfollows.pending,
        hfollows.takesValue⟩
      · rw [hfollows.invocation]
      · have herase : ∀ given : List Parameter,
            other ∈ given.erase .verbose ++ [.verbose] ↔ other ∈ given ∨ other = .verbose := by
          intro given
          by_cases heq : other = .verbose
          · simp [heq]
          · simp [List.mem_erase_of_ne heq, heq]
        rw [herase, herase, hfollows.given]
        exact or_right_comm
      · have hgiven := hfollows.notGiven
        simp [List.mem_erase_of_ne, hgiven]

theorem Trails.valued (htrails : Trails isDry told plain) {parameter : Parameter}
    (htakes : parameter.takesValue = true) {value : Option String}
    (hvalued : told.valued parameter value = .ok next) :
    ∃ later, plain.valued parameter value = .ok later ∧ Follows isDry next later := by
  unfold Progress.valued at hvalued ⊢
  rw [bind_eq_ok] at hvalued
  obtain ⟨middle, hsettle, hvalued⟩ := hvalued
  obtain ⟨settled, hsettled, hfollows, -⟩ := htrails.settle hsettle
  rw [hsettled, ok_bind]
  cases value with
  | some text =>
      obtain ⟨later, hlater, hnext, -⟩ := hfollows.assign htakes hvalued
      exact ⟨later, hlater, hnext⟩
  | none =>
      obtain rfl := pure_eq_ok.mp hvalued
      refine ⟨_, rfl, hfollows.await ?_⟩
      rintro _ _ ⟨⟩
      exact htakes

theorem Trails.takeLetters (htrails : Trails isDry told plain) {letters : List Char}
    (hne : letters ≠ []) (hletters : told.takeLetters letters = .ok next) :
    ∃ later, plain.takeLetters letters = .ok later ∧ Follows isDry next later := by
  induction letters generalizing told plain with
  | nil => exact absurd rfl hne
  | cons letter rest ih =>
      unfold Progress.takeLetters at hletters ⊢
      cases hletter : Parameter.ofLetter? letter with
      | none => simp [hletter] at hletters
      | some parameter =>
          have hother := Parameter.ofLetter?_ne_dryRun hletter
          simp only [hletter] at hletters ⊢
          split at hletters
          next htakes =>
            rw [if_pos htakes]
            exact htrails.valued htakes hletters
          next htakes =>
            rw [if_neg htakes]
            rw [bind_eq_ok] at hletters
            obtain ⟨middle, hflag, hrest⟩ := hletters
            obtain ⟨later, hlater, hfollows⟩ :=
              htrails.flag ((Bool.not_eq_true _).mp htakes) (.inr hother) hflag
            rw [hlater, ok_bind]
            cases rest with
            | nil =>
                obtain rfl := Except.ok.inj hrest
                exact ⟨later, rfl, hfollows⟩
            | cons other letters => exact ih (.inl hfollows) (List.cons_ne_nil _ _) hrest

theorem Trails.takeName (htrails : Trails isDry told plain) {text : List Char}
    (hother : isDry = true ∨ text ≠ "dry-run".toList) (hname : told.takeName text = .ok next) :
    ∃ later, plain.takeName text = .ok later ∧ Follows isDry next later := by
  unfold Progress.takeName at hname ⊢
  rcases hsplit : splitAssignment text with ⟨name, value⟩
  simp only [hsplit] at hname ⊢
  cases hparameter : Parameter.ofName? name with
  | none => simp [hparameter] at hname
  | some parameter =>
      simp only [hparameter] at hname ⊢
      split at hname
      next htakes =>
        rw [if_pos htakes]
        exact htrails.valued htakes hname
      next htakes =>
        rw [if_neg htakes]
        cases value with
        | some surplus => simp at hname
        | none =>
            refine htrails.flag ((Bool.not_eq_true _).mp htakes) (hother.imp_right ?_) hname
            rintro hne rfl
            apply hne
            rw [text_of_splitAssignment hsplit, ← Parameter.name_of_ofName? hparameter]
            rfl

theorem Trails.takeFree (htrails : Trails isDry told plain) {argument : String}
    (hfree : told.takeFree argument = .ok next) :
    ∃ later, plain.takeFree argument = .ok later ∧ Follows isDry next later := by
  unfold Progress.takeFree at hfree ⊢
  split at hfree
  next parameter hpending =>
    rcases htrails with hfollows | ⟨hnone, -⟩
    · have hsame := hfollows.pending
      rw [hpending] at hsame
      obtain rfl := Except.ok.inj hfree
      rw [← hsame]
      refine ⟨_, rfl, hfollows.await ?_⟩
      rintro _ _ ⟨⟩
      exact hfollows.takesValue parameter none hsame.symm
    · simp [hpending] at hnone
  next => simp at hfree

theorem Trails.take (htrails : Trails isDry told plain) {argument : String}
    (hother : isDry = true ∨ argument ≠ "--dry-run") (htake : told.take argument = .ok next) :
    ∃ later, plain.take argument = .ok later ∧ Follows isDry next later := by
  unfold Progress.take at htake ⊢
  split
  next name heq =>
    simp only [heq] at htake
    refine htrails.takeName (hother.imp_right fun hne hname => hne ?_) htake
    rw [← String.toList_inj, heq, hname]
    rfl
  next letter letters hdash heq =>
    simp only [heq] at htake
    exact htrails.takeLetters (List.cons_ne_nil _ _) htake
  next hname hletter =>
    split at htake
    next name heq => exact absurd heq (hname name)
    next letter letters _ heq => exact absurd heq (hletter letter letters)
    next => exact htrails.takeFree htake

end

theorem takeAll_dashes {progress last : Progress} {rest : List String}
    (hall : progress.takeAll ("--" :: rest) = .ok last) : rest = [] := by
  cases rest with
  | nil => rfl
  | cons free others => simp [takeAll] at hall

section

variable {told plain last : Progress}

theorem Trails.takeAll {isDry : Bool} {arguments : List String}
    (htrails : Trails isDry told plain) (hother : isDry = true ∨ "--dry-run" ∉ arguments)
    (hall : told.takeAll arguments = .ok last) :
    ∃ later, plain.takeAll arguments = .ok later ∧ Follows isDry last later := by
  induction arguments generalizing told plain with
  | nil =>
      obtain ⟨later, hlater, hfollows, -⟩ := htrails.settle hall
      exact ⟨later, hlater, hfollows⟩
  | cons argument rest ih =>
      by_cases hgoesOn : argument = "--"
      · subst hgoesOn
        obtain rfl := takeAll_dashes hall
        obtain ⟨later, hlater, hfollows, -⟩ := htrails.settle hall
        exact ⟨later, hlater, hfollows⟩
      · rw [takeAll_cons hgoesOn, bind_eq_ok] at hall
        obtain ⟨next, htake, hrest⟩ := hall
        obtain ⟨later, hlater, hfollows⟩ :=
          htrails.take (hother.imp_right fun hout heq => hout (by simp [heq])) htake
        rw [takeAll_cons hgoesOn, hlater, ok_bind]
        exact ih (.inl hfollows) (hother.imp_right fun hout => (not_or.mp (by simpa using hout)).2)
          hrest

theorem Follows.dryRun {next : Progress} (hfollows : Follows false told plain)
    (htake : told.take "--dry-run" = .ok next) : Trails true next plain := by
  have hflag : told.flag .dryRun = .ok next := htake
  unfold Progress.flag at hflag
  rw [bind_eq_ok] at hflag
  obtain ⟨middle, hsettle, hflag⟩ := hflag
  obtain ⟨settled, hsettled, hmiddle, hpending⟩ := hfollows.settle hsettle
  dsimp only at hflag
  split at hflag
  · simp at hflag
  · obtain rfl := pure_eq_ok.mp hflag
    refine .inr ⟨hpending, settled, hsettled, ?_, hmiddle.isReal, fun other => ?_,
      hmiddle.notGiven, hmiddle.pending, hmiddle.takesValue⟩
    · rw [hmiddle.invocation]
    · simp [hmiddle.given]

end

end Progress

namespace Invocation

open Progress

end Invocation

end ProviderForge.CommandLine
