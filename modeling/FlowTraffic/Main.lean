import FlowTraffic.Program

/-!
# The command line program

Reads the arguments, lets the program run on a machine that is held in memory, and prints its log.
-/

open FlowTraffic

def filesFor : CommandLine.Command → IO Disk
  | .barrage { config := some path, .. } => do
    try return ({} : Disk).put path (.file (← IO.FS.readFile path))
    catch _ => return {}
  | _ => return {}

/-- Runs a command line. The exit code tells how it went. -/
def main (args : List String) : IO UInt32 := do
  match CommandLine.parse args with
  | .error e =>
    if e.exitCode = 0 then IO.println e.message else IO.eprintln e.message
    return UInt32.ofNat e.exitCode
  | .ok { command := .version, .. } =>
    IO.print Program.versionText
    return 0
  | .ok { command, .. } =>
    let words := Words.congruential (UInt32.ofNat (← IO.rand 0 0xFFFFFFFF))
    let machine : Program.Machine := { network := .routed, disk := ← filesFor command }
    let ((result, trace), _) := (Program.run machine {} command).run words
    for entry in trace.log do
      IO.println entry.line
    match result with
    | .ok () => return 0
    | .error e =>
      IO.eprintln e.message
      return 1
