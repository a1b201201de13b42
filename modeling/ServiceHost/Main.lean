import ServiceHost.CommandLine.Server
import ServiceHost.Demo

/-!
# The program

Runs the demo application from the command line: reads the files that the configuration
names, and writes what the command gives. There is no network here, so the interrupt comes as
soon as every connector is bound or over.
-/

open ServiceHost

/-- Reads a file of the disk, if it is there. -/
def readEntry (path : String) : IO (List (String × FileEntry)) := do
  try
    let bytes ← IO.FS.readBinFile path
    return [(path, .file bytes.toList)]
  catch
    | .noFileOrDirectory .. => return []
    | _ => return [(path, .directory)]

/-- The files that a call names: its configuration, and the key pairs named in it. -/
def readFiles (args : List String) : IO FileTree := do
  match CommandLine.Invocation.ofArgs args with
  | .server path | .check path =>
    let files : FileTree := ⟨← readEntry path⟩
    let specs := match Configuration.load files path with
      | .ok c => c.server.applicationConnectors ++ c.server.adminConnectors
      | .error _ => []
    let paths := specs.flatMap fun s => s.certFile.toList ++ s.keyFile.toList
    return ⟨files.entries ++ (← paths.mapM readEntry).flatten⟩
  | _ => return {}

/-- Writes what a program gives. -/
def ServiceHost.CommandLine.Output.write : CommandLine.Output → IO Unit
  | .text s => IO.print s
  | .log lines => lines.forM fun line => IO.println line.render
  | .usage => IO.println "usage: (server | check) CONFIG"

/-- Runs the program. -/
def main (args : List String) : IO UInt32 := do
  let host : Host := { files := ← readFiles args }
  let override ← IO.getEnv "RUST_LOG"
  match CommandLine.run Demo.application .onceSettled host override args with
  | none => return 0
  | some outcome =>
    outcome.output.write
    (← IO.getStderr).putStr outcome.errorText
    return outcome.exitCode.toUInt32
