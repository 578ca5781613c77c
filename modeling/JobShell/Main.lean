import JobShell.Programs
import JobShell.Startup

/-!
# The program

Runs the shell on a machine in memory, with the usual directories, the null device, the set of small
programs, and the document that the command line names. Its input is read to the end before it
starts, and all that appeared is written out after it has ended.
-/

namespace JobShell

/-- The rest of a stream. -/
partial def readAll (stream : IO.FS.Stream) (before : Bytes) : IO Bytes := do
  let block ← stream.read 4096
  if block.isEmpty then return before else readAll stream (before ++ block.toList)

/-- Where the shell starts, and where it goes when no directory is named. -/
def homePlace : Place := ["home"]

/-- The shell's process id. -/
def ownPid : Pid := 1000

def memoryEnvironment : Environment where
  pid := ownPid
  superuser := true
  brokenPipe := .ignore
  home := some homePlace.path
  programs := Programs.find? Place.path

/-- The files of the machine, with the document that the arguments name if it can be read. -/
def loadTree (arguments : List String) : IO FileTree := do
  match CommandLine.parse arguments with
  | .ok (.shell { config := some path, .. }) =>
    try
      let document ← IO.FS.readBinFile path
      let place := FileTree.spelled homePlace path
      return FileTree.system.addFile place FileTree.newFileMode document.toList
    catch _ => return FileTree.system
  | _ => return FileTree.system

/-- Writes out what appeared on the streams. -/
def writeOut (transcript : Transcript) : IO Unit := do
  let out ← IO.getStdout
  let err ← IO.getStderr
  for entry in transcript do
    out.write (entry.bytesOn toString .out).toByteArray
    err.write (entry.bytesOn toString .err).toByteArray
  out.flush
  err.flush

end JobShell

open JobShell in
def main (arguments : List String) : IO UInt32 := do
  let tree ← loadTree arguments
  let input ← readAll (← IO.getStdin) []
  let after := (Startup.of tree homePlace arguments).run memoryEnvironment
    (Machine.start tree homePlace (ownPid + 1) input)
  writeOut after.machine.transcript
  return (after.status.getD 1).toUInt32
