/-
The program. It looks at the files its command line names, works out
what the run comes to, and then prints, writes and exits as the report
says.
-/
import TildeFormat.CommandLine
import TildeFormat.CommandLine.Bundled
import TildeFormat.Settings.Environment

namespace TildeFormat.CommandLine

/-- The variables settings are read from. -/
def settingVariables : List String :=
  [ "CLFORMAT_CACHE_MAXSIZE", "CLFORMAT_COMMA_CHAR",
    "CLFORMAT_COMMA_INTERVAL", "CLFORMAT_DEBUG_MODE" ]

/-- The variables that are set. -/
def readEnvironment : IO Settings.Environment := do
  let set ← settingVariables.filterMapM fun name => do
    return (← IO.getEnv name).map fun value =>
      (Text.ofString name, Text.ofString value)
  return set

/-- What is at a path, added to the files. -/
def lookAt (files : Files) (path : Path) : IO Files := do
  try
    let octets ← IO.FS.readBinFile path.text.string
    return { files with entries := (path, octets.toList) :: files.entries }
  catch
    | .noFileOrDirectory .. => return files
    | _ => return { files with directories := path :: files.directories }

/-- The paths that matter to an invocation. -/
def Invocation.paths (i : Invocation) : List Path :=
  i.templateFile.toList ++ i.argsFile.toList
    ++ i.output.toList.flatMap fun p => p :: p.parents

/-- A notice as it is printed. -/
def Notice.text : Notice → Text
  | log entry => entry.message ++ [.scalar '\n']
  | line t => t ++ [.scalar '\n']
  | listing t => t
  | usage => usageText
  | unreadable reason =>
    word "Error reading arguments file: " ++ reason ++ [.scalar '\n']
  | details error =>
    word error.cause.family.name ++ word ": " ++ error.text
      ++ [.scalar '\n']

/-- A file written, where it has other octets than before. -/
def writeBack (before after : Files) (path : Path) : IO Unit := do
  let octets := after.contents? path
  if octets != before.contents? path then
    IO.FS.writeBinFile path.text.string ⟨(octets.getD []).toArray⟩

/-- A report carried out: what is printed, what is written, and the exit
code. -/
def Report.carryOut (report : Report) (output : Option Path)
    (files : Files) : IO UInt32 := do
  let stderr ← IO.getStderr
  for notice in report.notices do
    stderr.putStr notice.text.string
  IO.print report.stdout.string
  output.forM (writeBack files report.files)
  match report.outcome with
  | .exit code => return UInt32.ofNat code
  | .crash c =>
    stderr.putStrLn c.text.string
    return 1

/-- A run of the program under settings. -/
def runProgram (settings : Settings) (arguments : List Text) :
    IO UInt32 := do
  let invocation : Invocation :=
    match Request.ofTexts arguments with
    | .ok (.run invocation) => invocation
    | _ => {}
  let files ← invocation.paths.foldlM lookAt {}
  let report := run .bundled settings arguments files
  report.carryOut invocation.output files

end TildeFormat.CommandLine

open TildeFormat in
/-- Run the program on its command line. -/
def main (arguments : List String) : IO UInt32 := do
  match Settings.ofEnvironment (← CommandLine.readEnvironment) with
  | .ok settings =>
    CommandLine.runProgram settings (arguments.map Text.ofString)
  | .error faults =>
    for (name, fault) in faults do
      IO.eprintln (name ++ ": " ++ fault.code)
    return 1
