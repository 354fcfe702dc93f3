import TexSplice.Command.Edit
import TexSplice.Command.Flags
import TexSplice.Command.Scan
import TexSplice.Pacing.Rehearsal

/-! # The command line

`scan` prints the outline of a document, `edit` carries out one instruction. Without a reply at
hand, `edit` shows the prompt on standard error and takes what comes on standard input for the
generator's answer. -/
namespace TexSplice.Command

def readText (path : Text) : IO Text := do
  return (← IO.FS.readFile (String.ofList path)).toList

def complain (message : Text) : IO UInt32 := do
  IO.eprintln ("error: " ++ String.ofList message)
  return usageExit.toUInt32

def appendTo (path : Text) (lines : Text) : IO Unit :=
  IO.FS.withFile (String.ofList path) .append fun h => h.putStr (String.ofList lines)

def leave (o : Outcome) (outputPath logPath : Option Text) : IO UInt32 := do
  if let (some path, some document) := (outputPath, o.output) then
    IO.FS.writeFile (String.ofList path) (String.ofList document)
  if let (some path, some lines) := (logPath, o.log) then appendTo path lines
  IO.print (String.ofList o.stdout)
  return o.exitCode.toUInt32

def runScan (flags : Flags) : IO UInt32 := do
  match flags.value? "document" with
  | none => complain "the following arguments are required: --document".toList
  | some path => leave (scan (← readText path) (flags.value? "section")) none none

/-- The summary of a session whose generator answers once, from standard input. -/
def runSession (job : EditJob) (file : Text) (useStore : Bool) :
    IO (Except Fault Summary) := do
  let key := (← IO.getEnv "MISTRAL_API_KEY").map String.toList
  match Client.create none key useStore with
  | .error f => return .error f
  | .ok client =>
    let task : Session.Task :=
      ⟨Text.unifyLineEnds file, job.instruction, job.selection, job.cursor⟩
    if let .ok prompt := task.prompt then IO.eprintln (String.ofList prompt)
    let answer ← (← IO.getStdin).readToEnd
    let clock : Pacing.Rehearsal Float ChatAnswer :=
      { now := 0, factors := [], script := [.ok (.text (some answer.toList))] }
    let access : Client.Access (Pacing.Rehearsal Float ChatAnswer) Float :=
      { rules := .standard
        origin := 0
        surroundings := Pacing.Rehearsal.surroundings 1
        send := fun _ r => r.answer 0 (.ok .none) }
    let shared : Shared (Pacing.Rehearsal Float ChatAnswer) Float :=
      { store := {}, pacer := .fresh 0 1, world := clock }
    return (job.session file (generatorOf client access) shared).1.map Summary.ofSession

/-- The reply that is given on the command line, a file before a text. -/
def replyOf (flags : Flags) : IO (Option Text) := do
  match flags.value? "completion-file" with
  | some path => return some (Text.unifyLineEnds (← readText path))
  | none => return flags.value? "completion"

def runEdit (flags : Flags) : IO UInt32 := do
  match flags.value? "document", flags.value? "instruction" with
  | some path, some instruction =>
    let arguments : EditArguments :=
      { instruction
        selection := flags.value? "selection"
        cursor := flags.value? "cursor"
        toFile := (flags.value? "output").isSome
        logged := (flags.value? "log-file").isSome }
    match arguments.read with
    | .error e => complain e.message
    | .ok job =>
      let file ← readText path
      let summary ←
        match ← replyOf flags with
        | some reply => pure (.ok (Summary.ofApplied (job.replay file reply)))
        | none => runSession job file (!flags.has "no-cache")
      match summary with
      | .error f =>
        IO.eprintln ("error: " ++ String.ofList f.message)
        return 1
      | .ok summary =>
        leave (summary.outcome job Json.floatFormat.write) (flags.value? "output")
          (flags.value? "log-file")
  | _, _ => complain "the following arguments are required: --document, --instruction".toList

end TexSplice.Command

open TexSplice.Command in
def main (args : List String) : IO UInt32 :=
  match args with
  | "scan" :: flags => runScan flags
  | "edit" :: flags => runEdit flags
  | _ => complain "the command is scan or edit".toList
