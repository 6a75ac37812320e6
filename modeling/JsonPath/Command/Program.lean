import JsonPath.Command.Arguments

/-!
# Running the program

A run turns a command line and the text of standard input into an exit code and two texts. It exits
with 0 if it succeeds, with 1 if the command fails and with 2 if the line is not understood.
-/

namespace JsonPath.Command

/-- What a run leaves behind. -/
structure Outcome where
  exitCode : Nat
  output : String := ""
  errors : String := ""

/-- How the program is used. -/
def usageText : String :=
  "usage: query|paths|check|remove EXPRESSION, replace EXPRESSION --value JSON, " ++
    "set PATH --value JSON, flatten, unflatten"

/-- The name and the version of the program. -/
def versionText : String := "jpq 0.1.0"

/-- The value or the message that a request gives for an input. -/
def respond (r : Request) (pretty : Bool) (input : Option String) : Result String :=
  let render := (Json.render pretty ·)
  match r with
  | .check text => (check text).map fun _ => "Expression is valid"
  | .query text o maxDepth => (query text o maxDepth input).map render
  | .remove text => (remove text input).map render
  | .replace text value => (replace text value input).map render
  | .set path value create => (set path value create input).map render
  | .flatten => (flatten input).map render
  | .unflatten => (unflatten input).map render

/-- Runs a request on the input given with it, or else on the text of standard input. -/
def Invocation.run (i : Invocation) (standardInput : Option String) : Outcome :=
  match respond i.request i.pretty (i.input.or standardInput) with
  | .ok text => { exitCode := 0, output := text ++ "\n" }
  | .error e => { exitCode := 1, errors := e.message ++ "\n" }

/-- Whether a run looks at standard input. -/
def Invocation.readsStandardInput (i : Invocation) : Bool :=
  match i.request with
  | .check _ => false
  | _ => i.input.isNone

/-- Runs what a command line asks for. -/
def Reading.run (r : Reading) (standardInput : Option String) : Outcome :=
  match r with
  | .invocation i => i.run standardInput
  | .help => { exitCode := 0, output := usageText ++ "\n" }
  | .version => { exitCode := 0, output := versionText ++ "\n" }
  | .usage => { exitCode := 2, errors := usageText ++ "\n" }

end JsonPath.Command
