import SocketWatch.CommandLine.Arguments
import SocketWatch.CommandLine.Run

namespace SocketWatch

def readPath (path : String) : IO FileContent := do
  try
    return .bytes (← IO.FS.readBinFile path)
  catch
    | .noFileOrDirectory .. => return .missing
    | _ => return .directory

partial def repeatForever {σ : Type} (step : σ → IO σ) (start : σ) : IO Unit := do
  repeatForever step (← step start)

def sleep (milliseconds : Nat) : IO Unit := do
  if milliseconds < UInt32.size then IO.sleep milliseconds.toUInt32
  else
    IO.sleep (UInt32.ofNat (UInt32.size - 1))
    sleep (milliseconds - (UInt32.size - 1))
termination_by milliseconds
decreasing_by simp [UInt32.size] at *; omega

def facilities : Facilities IO where
  file := readPath
  input := do (← IO.getStdin).readBinToEnd
  print line := do
    IO.println line
    (← IO.getStdout).flush
  now := IO.monoNanosNow
  pause := sleep
  forever := repeatForever

end SocketWatch

open SocketWatch

def main (arguments : List String) : IO UInt32 := do
  match Options.ofArguments arguments (← IO.getEnv "CONNVIEW_CONFIG") with
  | .error .version =>
    IO.println Options.version
    return 0
  | .error .help => return 0
  | .error .usage =>
    IO.eprintln "usage: connview [OPTIONS] <watch|list|reconcile|filter|print-filter>"
    return 2
  | .ok options =>
    let colours := (← (← IO.getStdout).isTty) && !options.noColour
    match ← facilities.run options colours with
    | .ok () => return 0
    | .error failure =>
      IO.eprintln s!"Error: {failure.message}"
      return 1
