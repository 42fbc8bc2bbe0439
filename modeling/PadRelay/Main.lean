import PadRelay.Program

/-!
# PadRelay.Main

The command line. The stream of updates comes on standard input; as no connection is made here,
posts are reported as unanswered.
-/

namespace PadRelay

/-- The reads of a stream up to its end. -/
partial def readInputs (stream : IO.FS.Stream) (done : List Input) : IO (List Input) := do
  let bytes ← stream.read readSize.toUSize
  if bytes.isEmpty then return done.reverse
  else readInputs stream (.received bytes.data.toList :: done)

def readFileBytes (path : String) : IO (Except ReadFailure Bytes) := do
  try
    let bytes ← IO.FS.readBinFile path
    return .ok bytes.data.toList
  catch e => return .error (.other (toString e))

def runOptions (o : CommandLine.Options) : IO UInt32 := do
  let file ← readFileBytes o.config
  let inputs ← readInputs (← IO.getStdin) []
  let (seen, well) := Program.run o ⟨fun _ => file, .ok inputs, Network.unreachable, none⟩
  let filter := Filter.choose (← IO.getEnv "RUST_LOG") (CommandLine.directive o.logLevel)
  for line in lines filter seen do
    IO.println line
  return if well then 0 else 1

end PadRelay

open PadRelay in
def main (args : List String) : IO UInt32 := do
  match CommandLine.parse args with
  | .ok o => runOptions o
  | .error .version =>
    IO.print CommandLine.versionText
    return 0
  | .error .help =>
    IO.println CommandLine.usage
    return 0
  | .error _ =>
    IO.eprintln CommandLine.usage
    return 1
