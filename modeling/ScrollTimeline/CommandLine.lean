import ScrollTimeline.Encoding
import ScrollTimeline.FileTree
import ScrollTimeline.Json.Reader
import ScrollTimeline.Render

/-!
The command line: `compile`, `sample` and `extent`, each on one scene file.

An option may be given once, as `--name value` or `--name=value`; only `-v` may be repeated. A value
that stands alone does not start with a dash, except a negative scroll position.
-/
set_option autoImplicit false

namespace ScrollTimeline.CommandLine

inductive Task where
  | compile (pretty : Bool)
  | sample (scroll : Float)
  | extent

structure Command where
  task : Task
  path : String
  strict : Bool

inductive Stop where
  | version
  | help
  | usage
deriving DecidableEq, Repr

inductive TaskName where
  | compile
  | sample
  | extent
deriving DecidableEq, Repr

def TaskName.ofText? : String → Option TaskName
  | "compile" => some compile
  | "sample" => some sample
  | "extent" => some extent
  | _ => none

structure Given where
  path : Option String
  scroll : Option Float
  strict : Bool
  pretty : Bool

def Given.none : Given := ⟨Option.none, Option.none, false, false⟩

def isExponentMark (c : Char) : Bool := c = 'e' || c = 'E'

/-- Digits with at most one point, which does not come first, and at most one exponent mark, which
comes neither first nor last and not before the point. -/
def looksLikeNumber (text : List Char) : Bool :=
  let mantissa := text.takeWhile fun c => !isExponentMark c
  let exponent := text.dropWhile fun c => !isExponentMark c
  let whole := mantissa.takeWhile (· ≠ '.')
  let fraction := (mantissa.dropWhile (· ≠ '.')).drop 1
  whole.all Char.isDigit && fraction.all Char.isDigit && (mantissa = [] || whole ≠ []) &&
    (exponent = [] || (mantissa ≠ [] && exponent.length ≠ 1 && (exponent.drop 1).all Char.isDigit))

def isValue (negativeNumbers : Bool) (word : String) : Bool :=
  match word.toList with
  | '-' :: rest => rest = [] || (negativeNumbers && looksLikeNumber rest)
  | _ => true

def checkFlags (version : Bool) : List Char → Except Stop Unit
  | [] => .ok ()
  | 'v' :: rest => checkFlags version rest
  | 'h' :: _ => .error .help
  | 'V' :: _ => if version then .error .version else .error .usage
  | _ :: _ => .error .usage

namespace Given

def addPath (given : Given) (value : String) : Except Stop Given :=
  if given.path.isSome || value = "" then .error .usage
  else .ok { given with path := some value }

def addScroll (given : Given) (name : TaskName) (value : String) : Except Stop Given :=
  if name ≠ .sample || given.scroll.isSome then .error .usage
  else
    match Binary.ofWord? value.toList with
    | some scroll => .ok { given with scroll := some scroll }
    | Option.none => .error .usage

def addWord (given : Given) (name : TaskName) (word : String) : Except Stop Given :=
  match word.toList with
  | '-' :: '-' :: rest =>
    let long := String.ofList (rest.takeWhile (· ≠ '='))
    let value := String.ofList ((rest.dropWhile (· ≠ '=')).drop 1)
    if rest.contains '=' then
      if long = "in" then given.addPath value
      else if long = "at" then given.addScroll name value
      else .error .usage
    else if long = "verbose" then .ok given
    else if long = "help" then .error .help
    else if long = "strict" && !given.strict then .ok { given with strict := true }
    else if long = "pretty" && name = .compile && !given.pretty then
      .ok { given with pretty := true }
    else .error .usage
  | '-' :: c :: rest => (checkFlags false (c :: rest)).map fun _ => given
  | _ => .error .usage

/-- All options of a command. After a double dash there are none, and nothing else may follow
either. -/
def addAll (given : Given) (name : TaskName) : List String → Except Stop Given
  | [] => .ok given
  | "--in" :: value :: rest => do
    if !isValue false value then .error .usage
    (← given.addPath value).addAll name rest
  | "--at" :: value :: rest => do
    if !isValue true value then .error .usage
    (← given.addScroll name value).addAll name rest
  | "--" :: rest => if rest = [] then .ok given else .error .usage
  | word :: rest => do (← given.addWord name word).addAll name rest

def command (given : Given) (name : TaskName) : Except Stop Command :=
  match given.path, name, given.scroll with
  | some path, .compile, _ => .ok ⟨.compile given.pretty, path, given.strict⟩
  | some path, .extent, _ => .ok ⟨.extent, path, given.strict⟩
  | some path, .sample, some scroll => .ok ⟨.sample scroll, path, given.strict⟩
  | _, _, _ => .error .usage

end Given

def parse : List String → Except Stop Command
  | [] => .error .usage
  | "help" :: names =>
    match names with
    | [] => .error .help
    | [name] =>
      if name = "help" || (TaskName.ofText? name).isSome then .error .help else .error .usage
    | _ => .error .usage
  | "--verbose" :: rest => parse rest
  | "--help" :: _ => .error .help
  | "--version" :: _ => .error .version
  | word :: rest =>
    match TaskName.ofText? word with
    | some name => do (← Given.none.addAll name rest).command name
    | none =>
      match word.toList with
      | '-' :: c :: flags => do
        checkFlags true (c :: flags)
        parse rest
      | _ => .error .usage

structure Outcome where
  status : Nat
  stdout : String
  error : Option String
deriving DecidableEq, Repr

def programName : String := "scrollcue"

def versionText : String := programName ++ " 0.1.0\n"

def usageText : String :=
  "Usage: " ++ programName ++ " [-v] <compile|sample|extent> --in <SCENE> [--strict]\n" ++
    "  compile [--pretty]   print the compilation report as JSON\n" ++
    "  sample --at <AT>     print every element at one scroll position\n" ++
    "  extent               print the total scrollable extent\n"

def Stop.outcome : Stop → Outcome
  | version => ⟨0, versionText, none⟩
  | help => ⟨0, usageText, none⟩
  | usage => ⟨2, "", some usageText⟩

def indentAfterFirst (indentation message : String) : String :=
  String.ofList (message.toList.flatMap fun c =>
    if c = '\n' then '\n' :: indentation.toList else [c])

/-- What failed, and below it the errors that it goes back to; several of them are numbered. -/
def failure (context : String) (causes : List String) : Outcome :=
  let lines :=
    match causes with
    | [cause] => ["\n    " ++ indentAfterFirst "    " cause]
    | causes => causes.mapIdx fun index cause =>
      "\n    " ++ toString index ++ ": " ++ indentAfterFirst "       " cause
  ⟨1, "", some ("Error: " ++ context ++ "\n\nCaused by:" ++ String.join lines)⟩

def Task.print (report : Report Float) : Task → String
  | compile pretty =>
    (if pretty then report.toJson.indented else report.toJson.compact) ++ "\n"
  | sample scroll => ((report.render scroll Sink.renderer).run (.empty none false)).2.content
  | extent => Decimal.plain report.totalExtent ++ "\n"

/-- Runs a command on the text of its scene file. A file that opens but cannot be read has none. -/
def Command.run (command : Command) (opened : Except OpenError (Option String)) : Outcome :=
  let reading := "read scene '" ++ command.path ++ "'"
  match opened with
  | .error error =>
    failure reading
      [invalidInput ("open scene JSON '" ++ command.path ++ "': " ++ error.message)]
  | .ok text? =>
    match text? >>= Json.read? >>= Scene.ofJson? with
    | none => failure reading ["serialization error: parse scene JSON"]
    | some scene =>
      match scene.compile ⟨command.strict, CompileOptions.default.idPrefix⟩ with
      | .error error => failure ("compile scene '" ++ command.path ++ "'") error.causes
      | .ok report => ⟨0, command.task.print report, none⟩

def Command.runIn (command : Command) (root : FileTree) (workingDirectory : String) : Outcome :=
  command.run ((root.follow workingDirectory command.path).map FileTree.text?)

def run (args : List String) (root : FileTree) (workingDirectory : String) : Outcome :=
  match parse args with
  | .error stop => stop.outcome
  | .ok command => command.runIn root workingDirectory

end ScrollTimeline.CommandLine
