import ProviderForge.CommandLine.Usage

/-!
Invocations of the command, read from its arguments. A value is given in the same argument or
in the next one. A value in the next argument is looked at only when the arguments after it
are.
-/

namespace ProviderForge.CommandLine

structure Invocation where
  filter : Option String := none
  output : String := "internal/provider"
  definitions : Option String := none
  isDryRun : Bool := false
  verbosity : Nat := 0
deriving DecidableEq, Repr

inductive Stop
  | help
  | version
  | refused (fault : UsageFault)
deriving DecidableEq, Repr

structure Progress where
  invocation : Invocation := {}
  given : List Parameter := []
  /-- A parameter whose value is in the next argument, and that argument. -/
  pending : Option (Parameter × Option String) := none
deriving DecidableEq, Repr

namespace Progress

def refuse (fault : UsageFault) : Except Stop α :=
  .error (.refused fault)

def store (invocation : Invocation) (parameter : Parameter) (value : String) : Invocation :=
  match parameter with
  | .filter => { invocation with filter := some value }
  | .output => { invocation with output := value }
  | .definitions => { invocation with definitions := some value }
  | _ => invocation

def assign (progress : Progress) (parameter : Parameter) (value : String) :
    Except Stop Progress :=
  if progress.given.contains parameter then refuse (.repeated parameter)
  else if parameter.isPath && value.isEmpty then refuse (.noValue parameter)
  else .ok { progress with
    invocation := store progress.invocation parameter value
    given := progress.given ++ [parameter] }

def settle (progress : Progress) : Except Stop Progress :=
  match progress.pending with
  | none => .ok progress
  | some (parameter, none) => refuse (.noValue parameter)
  | some (parameter, some value) => { progress with pending := none }.assign parameter value

/-- The parameters that a refusal of a later argument mentions. -/
def mentioned (progress : Progress) : List Parameter :=
  match progress.pending with
  | some (parameter, some _) =>
      if progress.given.contains parameter then progress.given.erase parameter
      else progress.given ++ [parameter]
  | _ => progress.given

def flag (progress : Progress) (parameter : Parameter) : Except Stop Progress := do
  let progress ← progress.settle
  match parameter with
  | .help => throw .help
  | .version => throw .version
  | .verbose =>
      return { progress with
        invocation := { progress.invocation with verbosity := progress.invocation.verbosity + 1 }
        given := progress.given.erase parameter ++ [parameter] }
  | _ =>
      if progress.given.contains parameter then refuse (.repeated parameter)
      else return { progress with
        invocation := { progress.invocation with isDryRun := true }
        given := progress.given ++ [parameter] }

/-- A parameter whose value is given along with it, or in the next argument. -/
def valued (progress : Progress) (parameter : Parameter) (value : Option String) :
    Except Stop Progress := do
  let progress ← progress.settle
  match value with
  | some value => progress.assign parameter value
  | none => return { progress with pending := some (parameter, none) }

/-- Letters behind one dash. What follows a parameter that takes a value is its value. -/
def takeLetters (progress : Progress) : List Char → Except Stop Progress
  | [] => .ok progress
  | letter :: rest =>
      match Parameter.ofLetter? letter with
      | none => refuse (.unknown (String.ofList ['-', letter]) none [])
      | some parameter =>
          if parameter.takesValue then
            let value := match rest with
              | [] => none
              | '=' :: value => some (String.ofList value)
              | value => some (String.ofList value)
            progress.valued parameter value
          else do (← progress.flag parameter).takeLetters rest

def splitAssignment (text : List Char) : String × Option String :=
  let name := text.takeWhile (· != '=')
  (String.ofList name,
    match text.drop name.length with
    | _ :: value => some (String.ofList value)
    | [] => none)

def takeName (progress : Progress) (text : List Char) : Except Stop Progress :=
  let (name, value) := splitAssignment text
  match Parameter.ofName? name, value with
  | none, _ => refuse (.unknown ("--" ++ name) (Parameter.similar? name) progress.mentioned)
  | some parameter, value =>
      if parameter.takesValue then progress.valued parameter value
      else match value with
        | some value => refuse (.surplusValue value parameter progress.given)
        | none => progress.flag parameter

/-- A free argument is the value of the parameter before it. -/
def takeFree (progress : Progress) (argument : String) : Except Stop Progress :=
  match progress.pending with
  | some (parameter, none) => .ok { progress with pending := some (parameter, some argument) }
  | _ => refuse (.unknown argument none [])

/-- After two dashes alone every argument is free, and none is a value. -/
def takeAll (progress : Progress) : List String → Except Stop Progress
  | [] => progress.settle
  | argument :: rest =>
      match argument.toList with
      | ['-', '-'] =>
          match rest with
          | [] => progress.settle
          | free :: _ => refuse (.unknown free none [])
      | '-' :: '-' :: name => do (← progress.takeName name).takeAll rest
      | '-' :: letter :: letters => do (← progress.takeLetters (letter :: letters)).takeAll rest
      | _ => do (← progress.takeFree argument).takeAll rest

end Progress

def Invocation.ofArguments (arguments : List String) : Except Stop Invocation :=
  (Progress.takeAll {} arguments).map (·.invocation)

end ProviderForge.CommandLine
