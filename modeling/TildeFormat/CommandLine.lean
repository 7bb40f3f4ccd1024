/-
The command line program: one template, from the command line or from a
file, rendered against values from a file and from the command line, to
the standard output or to a file.

Output is put out in the last stage, after everything that can fail but
the writing itself. The libraries the program leaves work to are a
parameter of a run.
-/
import TildeFormat.CommandLine.Invocation
import TildeFormat.CommandLine.Report
import TildeFormat.Text.Blank

namespace TildeFormat.CommandLine

/-- The name of the program. -/
def programName : String := "clformat"

/-- The version of the program. -/
def versionText : Text := word (programName ++ " 0.3.0\n")

/-- How the program is called. -/
def usageText : Text :=
  word ("usage: " ++ programName
    ++ " [-h] [--templateFile TEMPLATEFILE] [--argsFile ARGSFILE]\n"
    ++ "                [--output OUTPUT] [--highlight] [-v] [-V]\n"
    ++ "                [template] [arguments ...]\n")

/-- What a run works on: the text of the template, the arguments of the
command line that go with it, and the arguments file. -/
structure Task where
  template : Text
  arguments : List Text
  argsFile : Option Path

-- ============================================================== stages

/-- The template of an invocation with its arguments. With a template
file every operand is an argument. -/
def findTemplate (i : Invocation) (files : Files) :
    Stage (Text × List Text) :=
  match i.templateFile, i.template with
  | some path, operand =>
    if !files.has path then .stop (.templateMissing path)
    else
      match files.read path with
      | .error .isDirectory => .stop (.crash (.directory path))
      | .error (.undecodable fault) => .stop (.crash (.undecodable fault))
      | .ok template => do
        .log 2 (word "Read " ++ Numeral.digits template.length
          ++ word " characters from " ++ path.text)
        .done (template, operand.toList ++ i.arguments)
  | none, some template => .done (template, i.arguments)
  | none, none => .stop .noTemplate

/-- The task of an invocation. -/
def findTask (i : Invocation) (files : Files) : Stage Task := do
  .log 2 (word "Checking environment...")
  let (template, arguments) ← findTemplate i files
  match i.argsFile with
  | some path =>
    if files.has path then .done ⟨template, arguments, some path⟩
    else .stop (.argumentsMissing path)
  | none => .done ⟨template, arguments, none⟩

/-- The template of a task, compiled. -/
def compileTemplate (libraries : Libraries) (formatter : Formatter)
    (i : Invocation) (template : Text) : Stage Compiled := do
  .tell (if i.highlight then [.listing (libraries.listing template)]
    else [])
  .log 2 (word "Parsing template...")
  let reply := formatter.compile template
  .tell (Notice.logs reply.log)
  match reply.result with
  | .error e => .stop (.refused template e)
  | .ok compiled => do
    .log 2 (word "Parsed " ++ Numeral.digits compiled.tree.length
      ++ word " top-level nodes")
    .done compiled

/-- The values of a file: the items of a list, none of nothing, and
otherwise the one value the file holds. -/
def fileValues : Value → List Value
  | .nothing => []
  | .list items => items
  | v => [v]

/-- The values of the arguments file, if there is one. -/
def loadFile (libraries : Libraries) (files : Files) :
    Option Path → Stage (List Value)
  | none => .done []
  | some path =>
    match files.read path with
    | .error .isDirectory =>
      .stop (.argumentsUnreadable (PlaceFault.isDirectory.text path))
    | .error (.undecodable fault) => .stop (.crash (.undecodable fault))
    | .ok document =>
      match libraries.load document with
      | .error failure => .stop (.ofLoading failure)
      | .ok v => .done (fileValues v)

/-- An argument that says in so many words that it stands for nothing. -/
def saysNothing (argument : Text) : Bool :=
  let t := argument.stripped isBlank
  t == word "null" || t == word "~"

/-- The value of an argument: that of the document it is. An argument
that is no document is the text it is, and so is one that stands for
nothing without saying so. -/
def decodeArgument (libraries : Libraries) (argument : Text) :
    Except Breakdown Value :=
  match libraries.load argument with
  | .error (.unreadable _) => .ok (.str argument)
  | .error (.broken breakdown) => .error breakdown
  | .ok .nothing =>
    .ok (if saysNothing argument then .nothing else .str argument)
  | .ok v => .ok v

/-- The values of arguments of the command line. -/
def decodeAll (libraries : Libraries) (arguments : List Text) :
    Stage (List Value) :=
  match arguments.mapM (decodeArgument libraries) with
  | .error breakdown => .stop (.crash (.loading breakdown))
  | .ok values => .done values

/-- The values of a task: those of the file, then those of the command
line. -/
def loadValues (libraries : Libraries) (files : Files) (task : Task) :
    Stage (List Value) := do
  let inFile ← loadFile libraries files task.argsFile
  let values := inFile ++ (← decodeAll libraries task.arguments)
  .log 2 (word "Loaded " ++ Numeral.digits values.length
    ++ word " argument(s)")
  .done values

/-- A compiled template rendered against values. -/
def renderValues (formatter : Formatter) (template : Compiled)
    (values : List Value) : Stage Text := do
  .log 2 (word "Rendering template...")
  let run := TildeFormat.render formatter.registry template.tree values
  .tell (Notice.logs (LogEntry.ofRun run))
  match run.result with
  | .ok t => .done t
  | .error failure => .stop (.ofFailure template.text failure)

/-- What an invocation renders. -/
def renderTask (libraries : Libraries) (formatter : Formatter)
    (i : Invocation) (files : Files) : Stage Text := do
  let task ← findTask i files
  let template ← compileTemplate libraries formatter i task.template
  let values ← loadValues libraries files task
  renderValues formatter template values

/-- What the last stage comes to: what goes to the standard output, and
the files, which may have changed although the stage ends the run. -/
structure Delivery where
  stage : Stage Text
  files : Files

/-- A text put out. The standard output takes it as a whole or not at
all. -/
def putOut (output : Option Path) (files : Files) (t : Text) : Delivery :=
  match output with
  | none =>
    match Utf8.encode t with
    | .error fault => ⟨.stop (.crash (.unencodable fault)), files⟩
    | .ok _ => ⟨.done t, files⟩
  | some path =>
    match files.write path t with
    | (some fault, files) => ⟨.stop (.ofWriting path fault), files⟩
    | (none, files) =>
      let stage : Stage Text := do
        .log 1 (word "Wrote " ++ Numeral.digits t.length
          ++ word " characters to " ++ path.text)
        .done []
      ⟨stage, files⟩

/-- What a stage renders, put out. -/
def deliver (output : Option Path) (files : Files)
    (rendering : Stage Text) : Delivery :=
  match rendering.result with
  | .error complaint => ⟨⟨rendering.notices, .error complaint⟩, files⟩
  | .ok t =>
    let delivery := putOut output files t
    { delivery with stage := rendering.andThen fun _ => delivery.stage }

-- ================================================================ runs

/-- The report of a delivery at a verbosity; a failed render is told in
full where `full` says so. -/
def Delivery.report (delivery : Delivery) (verbosity : Nat) (full : Bool) :
    Report :=
  let shown := delivery.stage.notices.filter (Notice.isShown verbosity)
  match delivery.stage.result with
  | .ok stdout => ⟨.exit 0, stdout, shown, delivery.files⟩
  | .error complaint =>
    ⟨complaint.outcome, [], shown ++ complaint.notices full,
      delivery.files⟩

/-- The formatter a run starts with. -/
def startFormatter (settings : Settings) : Formatter where
  registry := .builtin settings
  cache := { maxsize := settings.cacheMaxsize }

/-- A run of an invocation. -/
def execute (libraries : Libraries) (settings : Settings) (i : Invocation)
    (files : Files) : Report :=
  let rendering := renderTask libraries (startFormatter settings) i files
  (deliver i.output files rendering).report i.verbosity
    (settings.debugMode || decide (3 ≤ i.verbosity))

/-- A run of the program. -/
def run (libraries : Libraries) (settings : Settings)
    (arguments : List Text) (files : Files) : Report :=
  match Request.ofTexts arguments with
  | .error fault =>
    let line := word (programName ++ ": error: ") ++ fault.text
    ⟨.exit 2, [], [.usage, .line line], files⟩
  | .ok .version => ⟨.exit 0, versionText, [], files⟩
  | .ok .help => ⟨.exit 0, usageText, [], files⟩
  | .ok (.run invocation) => execute libraries settings invocation files

end TildeFormat.CommandLine
