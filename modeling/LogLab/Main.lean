import LogLab.CommandLine.Run

/-! # The command line program

Reads arguments, files and the input, and prints what the commands give. Practice goes line by line
as the learner types.
-/

namespace LogLab.Program

open CommandLine

/-- The whole input. -/
partial def readInput (input : IO.FS.Stream) (read : String := "") : IO String := do
  let line ← input.getLine
  if line.isEmpty then pure read else readInput input (read ++ line)

def readFile? (path : String) : IO (Option String) := do
  try
    let text ← IO.FS.readFile path
    pure (some text)
  catch _ => pure none

def readFiles (paths : List String) : IO (List (String × String)) := do
  let texts ← paths.mapM readFile?
  pure ((paths.zip texts).filterMap fun (path, text) => text.map fun t => (path, t))

/-- Follows the lines of the input up to the one that ends the loop. -/
partial def practiceLoop (lab : Lab) (state : Practice.State) (input output : IO.FS.Stream) :
    IO (Practice.Result Session) := do
  output.putStr (Practice.prompt state)
  output.flush
  let line ← input.getLine
  if line.isEmpty then
    let (text, result) := Practice.finish lab state
    output.putStr text
    pure result
  else
    let (text, result) := Practice.step lab state line.toList
    output.putStr text
    match result with
    | .ok (some state') => practiceLoop lab state' input output
    | .ok none => pure (.ok state.session)
    | .error halt => pure (.error halt)

def practice (lab : Lab) (session : Session) : IO (Practice.Result Session) := do
  let output ← IO.getStdout
  output.putStr (Practice.opening lab session)
  let result ← practiceLoop lab { session } (← IO.getStdin) output
  output.putStr (Practice.closing lab result)
  pure result

def report (ending : Ending) : IO UInt32 := do
  IO.print ending.output
  match ending with
  | .done _ => pure ()
  | .failed _ why => IO.eprintln ("Error: " ++ why.message)
  | .crashed _ => IO.eprintln "crashed: a text was cut inside a character"
  | .misused =>
    IO.eprintln ("error: invalid arguments\n\nUsage: " ++ Topic.usage .program ++
      "\n\nFor more information, try '--help'.")
  pure (UInt32.ofNat ending.exitCode)

def invoke (i : Invocation) : IO UInt32 := do
  let files ← readFiles i.paths
  let read (path : String) : Option String := files.lookup path
  match i.command with
  | .practice dialect lesson =>
    let lab := openLab ⟨"", read⟩ i.dataDir
    match startSession lab.curriculum dialect lesson with
    | .error why => report (.failed "" why)
    | .ok session =>
      let result ← practice lab session
      report (.ofResult "" ((result.map fun _ => ()).mapError (.map .curriculum)))
  | command =>
    let input ← match command with
      | .run _ _ _ _ "-" => readInput (← IO.getStdin)
      | _ => pure ""
    let surroundings : Surroundings := ⟨input, read⟩
    let (output, result) := execute surroundings (openLab surroundings i.dataDir) command
    report (.ofResult output result)

def run (args : List String) : IO UInt32 := do
  let environment ← IO.getEnv "SIEMLAB_DATA_DIR"
  match parse environment args with
  | .ok invocation => invoke invocation
  | .error .wrong => report .misused
  | .error (.help topic) => report (.done (help environment topic))
  | .error .version => report (.done versionText)

end LogLab.Program

def main (args : List String) : IO UInt32 :=
  LogLab.Program.run args
