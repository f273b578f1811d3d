import ProviderForge.Token.Quoted

/-!
Events that a run reports on its way, and computations that report them. Events survive a
failure: what was reported before it stays reported.
-/

namespace ProviderForge

inductive Level
  | warn
  | info
  | debug
deriving DecidableEq, Repr, Inhabited

namespace Level

def name : Level → String
  | .warn => "WARN"
  | .info => "INFO"
  | .debug => "DEBUG"

def rank : Level → Nat
  | .warn => 0
  | .info => 1
  | .debug => 2

end Level

/-- A value named in an event; a quoted text is shown between quotes. -/
inductive EventValue
  | text (value : String)
  | quoted (value : String)
  | natural (value : Nat)
  | flag (value : Bool)
deriving DecidableEq, Repr

inductive Event
  | compilingModel (model : String) (attributes : Nat)
  | repeatedTypeName (entity typeName : String) (count : Nat)
  | generatingDataSource (name : String)
  | generatingResource (name : String)
  | noImportState (resource : String) (arity : Nat)
  | builtInDefinitions
  | loadedDefinitions (path : String) (dataSources resources : Nat)
  | generating (dataSources resources : Nat) (output : String)
  | planned (tasks : Nat) (dryRun : Bool)
  | generated (task path : String)
  | taskFailed (task fault : String)
deriving DecidableEq, Repr

namespace Event

def level : Event → Level
  | repeatedTypeName .. | taskFailed .. => .warn
  | generating .. | generated .. => .info
  | _ => .debug

def message : Event → String
  | compilingModel .. => "compiling model"
  | repeatedTypeName .. => "synthesized type name declared more than once"
  | generatingDataSource .. => "generating data source"
  | generatingResource .. => "generating resource"
  | noImportState .. => "no import state for this arity"
  | builtInDefinitions => "using built-in definitions"
  | loadedDefinitions .. => "loaded definitions file"
  | generating .. => "generating provider code"
  | planned .. => "planned generation tasks"
  | generated .. => "generated"
  | taskFailed .. => "generation task failed"

def fields : Event → List (String × EventValue)
  | compilingModel model attributes =>
      [("model", .quoted model), ("attributes", .natural attributes)]
  | repeatedTypeName entity typeName count =>
      [("entity", .quoted entity), ("type_name", .quoted typeName), ("count", .natural count)]
  | generatingDataSource name => [("data_source", .text name)]
  | generatingResource name => [("resource", .text name)]
  | noImportState resource arity => [("resource", .text resource), ("arity", .natural arity)]
  | builtInDefinitions => []
  | loadedDefinitions path dataSources resources =>
      [("path", .text path), ("data_sources", .natural dataSources),
        ("resources", .natural resources)]
  | generating dataSources resources output =>
      [("data_sources", .natural dataSources), ("resources", .natural resources),
        ("output", .text output)]
  | planned tasks dryRun => [("tasks", .natural tasks), ("dry_run", .flag dryRun)]
  | generated task path => [("task", .text task), ("path", .text path)]
  | taskFailed task fault => [("task", .text task), ("error", .text fault)]

/-- What filters may ask the event to have. The message is a field, too. -/
def fieldNames (event : Event) : List String :=
  "message" :: event.fields.map (·.1)

def source : Event → String
  | compilingModel .. | repeatedTypeName .. => "providergen_gen::codegen::model"
  | generatingDataSource _ => "providergen_gen::codegen::data_source"
  | generatingResource _ | noImportState .. => "providergen_gen::codegen::resource"
  | builtInDefinitions | loadedDefinitions .. => "providergen_gen::config"
  | generating .. => "providergen"
  | planned .. | generated .. | taskFailed .. => "providergen_gen::orchestrator"

def isAtMost (limit : Level) (event : Event) : Bool :=
  event.level.rank ≤ limit.rank

end Event

/-- A result together with the events reported on the way to it. -/
structure Traced (ε α : Type) where
  result : Except ε α
  events : List Event

namespace Traced

def report (event : Event) : Traced ε Unit :=
  ⟨.ok (), [event]⟩

def reportAll (events : List Event) : Traced ε Unit :=
  ⟨.ok (), events⟩

def ofExcept (result : Except ε α) : Traced ε α :=
  ⟨result, []⟩

protected def bind (first : Traced ε α) (next : α → Traced ε β) : Traced ε β :=
  match first.result with
  | .error failure => ⟨.error failure, first.events⟩
  | .ok value =>
      let second := next value
      ⟨second.result, first.events ++ second.events⟩

instance : Monad (Traced ε) where
  pure value := ⟨.ok value, []⟩
  bind := Traced.bind

instance : MonadLift (Except ε) (Traced ε) where
  monadLift := ofExcept

@[simp] theorem result_pure (value : α) :
    (pure value : Traced ε α).result = .ok value := rfl

@[simp] theorem events_pure (value : α) : (pure value : Traced ε α).events = [] := rfl

@[simp] theorem result_ofExcept (result : Except ε α) : (ofExcept result).result = result := rfl

@[simp] theorem events_ofExcept (result : Except ε α) : (ofExcept result).events = [] := rfl

theorem result_bind (first : Traced ε α) (next : α → Traced ε β) :
    (first >>= next).result = first.result >>= fun value => (next value).result := by
  show (Traced.bind first next).result = _
  cases h : first.result <;> simp [Traced.bind, h, bind, Except.bind]

end Traced

end ProviderForge
