import LineBridge.Tool.Run

/-! The command line. Files are read before the run, which itself is pure: a job is done on a
fresh bridge in the same process, and a bridge that is served takes its one client from
standard input. -/

namespace LineBridge.CommandLine

def faultOf : IO.Error → FileFault
  | .noFileOrDirectory .. => .missing
  | .inappropriateType _ 20 _ => .notDirectory
  | .inappropriateType _ 21 _ => .isDirectory
  | e => .other (toString e)

def readFile (path : String) : IO (Except FileFault Bytes) := do
  try
    let content ← IO.FS.readBinFile path
    pure (.ok content.toList)
  catch e => pure (.error (faultOf e))

/-- The files that a request may read, as they are now. -/
def readFiles (r : Tool.Request) : IO Tool.Files := do
  let loaded ← r.paths.mapM fun path => do
    let content ← readFile path
    pure (path, content)
  pure fun path => (loaded.lookup path).getD (.error .missing)

def clientsOf (r : Tool.Request) : IO (List Bytes) := do
  match r.task with
  | .job _ => pure []
  | .serve .. =>
    let input ← IO.getStdin
    let content ← input.readBinToEnd
    pure [content.toList]

/-- Runs the words of a command line on files and clients from outside. -/
def outcome (words : List String) : IO Tool.Outcome := do
  match Tool.Request.ofArguments words with
  | .error _ => pure (Tool.run (fun _ => .error .missing) [] {} words)
  | .ok r =>
    let files ← readFiles r
    let clients ← clientsOf r
    pure (Tool.run files clients {} words)

end LineBridge.CommandLine

def main (words : List String) : IO UInt32 := do
  let o ← LineBridge.CommandLine.outcome words
  let output ← IO.getStdout
  output.putStr o.output
  output.write (ByteArray.mk o.replies.flatten.toArray)
  output.flush
  match o.ending.complaint? with
  | some text => IO.eprintln text
  | none => pure ()
  pure o.ending.status.toUInt32
