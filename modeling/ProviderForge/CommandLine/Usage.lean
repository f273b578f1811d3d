import ProviderForge.CommandLine.Parameter

namespace ProviderForge.CommandLine

inductive UsageFault
  /-- An argument that is no parameter, a similar one, and those given before. -/
  | unknown (argument : String) (similar : Option Parameter) (given : List Parameter)
  | noValue (parameter : Parameter)
  | repeated (parameter : Parameter)
  /-- A value for a parameter that takes none, and those given before. -/
  | surplusValue (value : String) (parameter : Parameter) (given : List Parameter)
deriving DecidableEq, Repr

namespace Usage

def commandName : String := "providergen"

def versionText : String := commandName ++ " 0.1.0\n"

def ofParts (parts : List String) : String :=
  "Usage: " ++ commandName ++ " " ++
    (if parts.isEmpty then "[OPTIONS]" else String.intercalate " " parts)

def summary (given : List Parameter) : String :=
  ofParts (given.eraseDups.map (·.shown))

def anyOption : String :=
  "<" ++ String.intercalate "|" ((Parameter.all.filter (·.isOption)).map (·.shown)) ++ ">"

/-- The usage of a parameter behind others. Once an option is given, it may be any. -/
def following (given : List Parameter) (parameter : Parameter) : String :=
  if given.isEmpty then summary [parameter]
  else if parameter.isOption then ofParts [anyOption]
  else ofParts [parameter.shown, anyOption]

def helpLines : List String := [
  "Code generator for providergen data source and resource definitions",
  "",
  summary [],
  "",
  "Options:",
  "      --filter <FILTER>            Only generate the data source or resource with this name",
  "  -o, --output <OUTPUT>            Output directory for generated code [default: internal/provider]",
  "  -d, --definitions <DEFINITIONS>  Load definitions from a JSON or YAML file instead of the built-in set",
  "      --dry-run                    Print generated code without writing files",
  "  -v, --verbose...                 Increase verbosity (-v, -vv, -vvv)",
  "  -h, --help                       Print help",
  "  -V, --version                    Print version"]

def unlines (lines : List String) : String :=
  String.join (lines.map (· ++ "\n"))

def helpText : String :=
  unlines helpLines

end Usage

namespace UsageFault

def reason : UsageFault → String
  | unknown argument _ _ => s!"unexpected argument '{argument}' found"
  | noValue parameter =>
      s!"a value is required for '{parameter.shown}' but none was supplied"
  | repeated parameter =>
      s!"the argument '{parameter.shown}' cannot be used multiple times"
  | surplusValue value parameter _ =>
      s!"unexpected value '{value}' for '{parameter.shown}' found; no more were expected"

def suggestion : UsageFault → List String
  | unknown _ (some parameter) _ =>
      ["", s!"  tip: a similar argument exists: '--{parameter.name}'"]
  | _ => []

/-- The usage that the fault reminds of. A similar parameter counts as given. -/
def reminder : UsageFault → List String
  | unknown _ similar given => ["", Usage.summary (given ++ similar.toList)]
  | noValue _ => []
  | repeated _ => ["", Usage.summary []]
  | surplusValue _ parameter given => ["", Usage.following given parameter]

def message (fault : UsageFault) : String :=
  Usage.unlines (["error: " ++ fault.reason] ++ fault.suggestion ++ fault.reminder ++
    ["", "For more information, try '--help'."])

end UsageFault

end ProviderForge.CommandLine
