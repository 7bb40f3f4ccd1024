/-
What a run of the program comes to: how it ends, what it puts on its
standard output, what it tells on the side, and the files after it.

A run goes through stages. A stage tells what it does and either hands a
result on or ends the run with a complaint, which has words of its own
and the last say.
-/
import TildeFormat.CommandLine.Files
import TildeFormat.CommandLine.Libraries
import TildeFormat.Formatter

namespace TildeFormat.CommandLine

-- ============================================================= notices

/-- Something told on the side.

- `log`: a message of the log.
- `line`: a line of text.
- `listing`: a template in colours.
- `usage`: how the program is called.
- `unreadable`: the arguments file cannot be read, for a reason.
- `details`: all there is to say about a failure. -/
inductive Notice where
  | log (entry : LogEntry)
  | line (t : Text)
  | listing (t : Text)
  | usage
  | unreadable (reason : Text)
  | details (error : RenderError)
deriving DecidableEq

/-- A notice that is shown at a verbosity. Only log messages can be left
out. -/
def Notice.isShown (verbosity : Nat) : Notice → Bool
  | log entry => entry.level ≤ verbosity
  | _ => true

/-- Messages of the log as notices. -/
def Notice.logs (entries : List LogEntry) : List Notice :=
  entries.map .log

-- ============================================================= endings

/-- A failure the program has no words for.

- `fault`, `escape`: of a render.
- `loading`: of the loader.
- `directory`: the template file is one.
- `undecodable`: the octets of a file are no text.
- `unencodable`: the text that is put out has no octets.
- `unnamed`: the output file cannot have its name. -/
inductive Crash where
  | fault (fault : Fault)
  | escape
  | loading (breakdown : Breakdown)
  | directory (path : Path)
  | undecodable (fault : Utf8.DecodeFault)
  | unencodable (fault : Utf8.EncodeFault)
  | unnamed (fault : NameFault)
deriving DecidableEq

/-- The text of a crash. -/
def Crash.text : Crash → Text
  | fault f => Text.ofString f.message
  | escape => escapeName
  | loading breakdown => breakdown.message
  | directory path => PlaceFault.isDirectory.text path
  | undecodable f => f.text
  | unencodable f => f.text
  | unnamed f => f.text

/-- How a run ends. -/
inductive Outcome where
  | exit (code : Nat)
  | crash (crash : Crash)
deriving DecidableEq

/-- What a run comes to. -/
structure Report where
  outcome : Outcome
  stdout : Text
  notices : List Notice
  files : Files

-- ========================================================== complaints

/-- Why a run ends without its output. -/
inductive Complaint where
  | noTemplate
  | templateMissing (path : Path)
  | argumentsMissing (path : Path)
  | argumentsUnreadable (reason : Text)
  | refused (template : Text) (error : ParseError)
  | failed (error : RenderError) (soFar : Text)
  | unwritable (path : Path) (fault : PlaceFault)
  | crash (crash : Crash)

namespace Complaint

/-- How a complaint ends the run. -/
def outcome : Complaint → Outcome
  | crash c => .crash c
  | _ => .exit 1

/-- What a complaint tells; a failed render in full where `full` says
so. -/
def notices (full : Bool) : Complaint → List Notice
  | noTemplate =>
    [.line (word
      "Error: No template given (pass TEMPLATE or --templateFile)")]
  | templateMissing path =>
    [.line (word "Error: Template file not found: " ++ path.text)]
  | argumentsMissing path =>
    [.line (word "Error: Arguments file not found: " ++ path.text)]
  | argumentsUnreadable reason => [.unreadable reason]
  | refused template error =>
    [.line (word "Parse error: " ++ error.text template)]
  | failed error soFar =>
    .line (word "Render error: " ++ error.text)
      :: (if soFar.isEmpty then []
        else
          [.line (word "Output before the error: " ++ soFar.displayed)])
      ++ (if full then [.details error] else [])
  | unwritable path fault =>
    [.line (word "Error writing output file: " ++ fault.text path)]
  | crash _ => []

end Complaint

/-- The complaint of a failure to format a template. -/
def Complaint.ofFailure (template : Text) : Failure → Complaint
  | .parse error => .refused template error
  | .render error soFar => .failed error soFar
  | .fault f => .crash (.fault f)
  | .escape => .crash .escape

/-- The complaint of a failure to load the arguments file. -/
def Complaint.ofLoading : LoadFailure → Complaint
  | .unreadable reason => .argumentsUnreadable reason
  | .broken breakdown => .crash (.loading breakdown)

/-- The complaint of a failure to write the output file. -/
def Complaint.ofWriting (path : Path) : WriteFault → Complaint
  | .unopened (.place fault) => .unwritable path fault
  | .unopened (.name fault) => .crash (.unnamed fault)
  | .unencodable fault => .crash (.unencodable fault)

-- ============================================================== stages

/-- A stage of a run. -/
structure Stage (α : Type) where
  notices : List Notice
  result : Except Complaint α

namespace Stage

/-- A stage that tells nothing and hands on a value. -/
def done {α : Type} (a : α) : Stage α := ⟨[], .ok a⟩

/-- A stage that ends the run. -/
def stop {α : Type} (complaint : Complaint) : Stage α :=
  ⟨[], .error complaint⟩

/-- A stage, and the stage that follows it when it does not end the
run. -/
def andThen {α β : Type} (stage : Stage α) (next : α → Stage β) :
    Stage β :=
  match stage.result with
  | .ok a =>
    let following := next a
    ⟨stage.notices ++ following.notices, following.result⟩
  | .error complaint => ⟨stage.notices, .error complaint⟩

instance : Monad Stage where
  pure := done
  bind := andThen

/-- A stage that tells something. -/
def tell (notices : List Notice) : Stage Unit := ⟨notices, .ok ()⟩

/-- A stage that puts a message on the log. -/
def log (level : Nat) (message : Text) : Stage Unit :=
  tell [.log ⟨level, message⟩]

end Stage

end TildeFormat.CommandLine
