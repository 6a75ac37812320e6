import JsonPath.Command.Commands
import JsonPath.Number.Notation

/-!
# Command lines

A command line names a command and gives it words and options, in any order. An option with a value
takes it from the rest of its own word or from the next word, which must not look like an option;
after `--` every word counts as it stands. No option is given twice.
-/

namespace JsonPath.Command

/-- What a command line asks for. -/
inductive Request where
  | check (text : String)
  | query (text : String) (o : OutputForm) (maxDepth : Option Nat)
  | remove (text : String)
  | replace (text value : String)
  | set (path value : String) (create : Bool)
  | flatten
  | unflatten

/-- A request, with the input and the form of output that go with it. -/
structure Invocation where
  request : Request
  input : Option String := none
  pretty : Bool := false

/-- What reading a command line gives. -/
inductive Reading where
  | invocation (i : Invocation)
  | help
  | version
  /-- The line is none that the program understands. -/
  | usage

/-! ## Words and options -/

/-- The options that a command knows, by their long names. -/
structure Options where
  /-- Options without a value. -/
  flags : List String
  /-- Options that take a value. -/
  valued : List String

/-- The long name of a one-letter option. -/
def longName? : Char → Option String
  | 'i' => some "input"
  | 'p' => some "pretty"
  | _ => none

/-- What a command line gives: words, flags, and options with their values. -/
structure Given where
  words : List String := []
  flags : List String := []
  values : List (String × String) := []

/-- How reading the words of a line may end early. -/
inductive Stop where
  | help
  | usage

namespace Given

def addFlag (g : Given) (name : String) : Except Stop Given :=
  if g.flags.contains name then .error .usage else .ok { g with flags := name :: g.flags }

def addValue (g : Given) (name value : String) : Except Stop Given :=
  if (g.values.lookup name).isSome then .error .usage
  else .ok { g with values := (name, value) :: g.values }

def addWord (g : Given) (word : String) : Given := { g with words := g.words ++ [word] }

def has (g : Given) (name : String) : Bool := g.flags.contains name

def value? (g : Given) (name : String) : Option String := g.values.lookup name

end Given

/-- Whether a word looks like an option. -/
def looksLikeOption (word : String) : Bool :=
  match word.toList with
  | '-' :: _ :: _ => true
  | _ => false

/-- What the letters after one hyphen give: flags, or at last an option whose value is the rest. The
name of an option that takes the next word comes with the result. -/
def readLetters (o : Options) (g : Given) : List Char → Except Stop (Given × Option String)
  | [] => .ok (g, none)
  | 'h' :: _ => .error .help
  | c :: rest =>
    match longName? c with
    | none => .error .usage
    | some name =>
      if o.flags.contains name then do readLetters o (← g.addFlag name) rest
      else if o.valued.contains name then
        match rest with
        | [] => .ok (g, some name)
        | '=' :: value => do return (← g.addValue name (String.ofList value), none)
        | value => do return (← g.addValue name (String.ofList value), none)
      else .error .usage

/-- What a word after two hyphens gives, in the same way. -/
def readLong (o : Options) (g : Given) (word : List Char) :
    Except Stop (Given × Option String) :=
  let name := String.ofList (word.takeWhile (· != '='))
  let value? := match word.dropWhile (· != '=') with
    | _ :: value => some (String.ofList value)
    | [] => none
  match value? with
  | none =>
    if name == "help" then .error .help
    else if o.flags.contains name then do return (← g.addFlag name, none)
    else if o.valued.contains name then .ok (g, some name)
    else .error .usage
  | some value =>
    if o.valued.contains name then do return (← g.addValue name value, none) else .error .usage

/-- Reads the words of a line; `pending` is the option that takes the next one. -/
def readWords (o : Options) (g : Given) (pending : Option String) :
    List String → Except Stop Given
  | [] => if pending.isNone then .ok g else .error .usage
  | word :: rest =>
    match pending with
    | some name =>
      if looksLikeOption word then .error .usage
      else do readWords o (← g.addValue name word) none rest
    | none =>
      if word == "--" then .ok (rest.foldl Given.addWord g)
      else if !looksLikeOption word then readWords o (g.addWord word) none rest
      else do
        let (g, pending) ←
          if word.startsWith "--" then readLong o g (word.toList.drop 2)
          else readLetters o g (word.toList.drop 1)
        readWords o g pending rest

/-! ## Requests -/

/-- A number of levels: digits, with an optional plus sign. -/
def readLimit? (s : String) : Option Nat :=
  let digits := match s.toList with
    | '+' :: rest => rest
    | cs => cs
  let n := Number.ofDigits digits
  if digits.isEmpty || !digits.all Char.isDigit || Nat.pow 2 64 ≤ n then none else some n

/-- The options of reading and printing, which most commands have. -/
def ioOptions : Options := ⟨["pretty"], ["input"]⟩

/-- The input and the form of output given. -/
def invocation (g : Given) (r : Request) : Invocation := ⟨r, g.value? "input", g.has "pretty"⟩

/-- What a command takes: the options it knows, and its request for what is given. -/
structure Form where
  options : Options
  request? : Given → Option Request

def queryCommand : Form where
  options :=
    ⟨["paths", "pairs", "dedup", "sort", "sort-desc"] ++ ioOptions.flags,
      "max-depth" :: ioOptions.valued⟩
  request? g :=
    match g.words with
    | [text] => do
      let paths := g.has "paths"
      let pairs := g.has "pairs"
      let limit ← match g.value? "max-depth" with
        | none => some none
        | some s => (readLimit? s).map some
      if paths && pairs then none
      else
        let o : OutputForm :=
          { values := !paths
            paths := paths || pairs
            distinct := g.has "dedup"
            ascending := g.has "sort"
            descending := g.has "sort-desc" }
        some (.query text o limit)
    | _ => none

/-- Distinct paths in ascending order. -/
def pathsCommand : Form where
  options := ioOptions
  request? g :=
    match g.words with
    | [text] => some (.query text { paths := true, distinct := true, ascending := true } none)
    | _ => none

def checkCommand : Form where
  options := ⟨[], []⟩
  request? g :=
    match g.words with
    | [text] => some (.check text)
    | _ => none

def removeCommand : Form where
  options := ioOptions
  request? g :=
    match g.words with
    | [text] => some (.remove text)
    | _ => none

def replaceCommand : Form where
  options := ⟨ioOptions.flags, "value" :: ioOptions.valued⟩
  request? g :=
    match g.words, g.value? "value" with
    | [text], some value => some (.replace text value)
    | _, _ => none

def setCommand : Form where
  options := ⟨"create" :: ioOptions.flags, "value" :: ioOptions.valued⟩
  request? g :=
    match g.words, g.value? "value" with
    | [path], some value => some (.set path value (g.has "create"))
    | _, _ => none

def flattenCommand : Form where
  options := ioOptions
  request? g := if g.words.isEmpty then some .flatten else none

def unflattenCommand : Form where
  options := ioOptions
  request? g := if g.words.isEmpty then some .unflatten else none

/-- The commands by name. -/
def commands : List (String × Form) := [
  ("query", queryCommand),
  ("paths", pathsCommand),
  ("check", checkCommand),
  ("remove", removeCommand),
  ("replace", replaceCommand),
  ("set", setCommand),
  ("flatten", flattenCommand),
  ("unflatten", unflattenCommand)]

/-- Reads a command line. -/
def readLine (args : List String) : Reading :=
  match args with
  | [] => .usage
  | name :: rest =>
    if name == "--help" || name == "-h" then .help
    else if name == "--version" || name == "-V" then .version
    else if name == "help" then
      match rest with
      | [] => .help
      | [topic] => if topic == "help" || (commands.lookup topic).isSome then .help else .usage
      | _ => .usage
    else
      match commands.lookup name with
      | none => .usage
      | some command =>
        match readWords command.options {} none rest with
        | .error .help => .help
        | .error .usage => .usage
        | .ok g =>
          match command.request? g with
          | some r => .invocation (invocation g r)
          | none => .usage

end JsonPath.Command
