import Fortune.Command.Line

/-!
The program. It reads the request from its arguments, the pack from the disk, and prints the report.
-/
namespace Fortune

/-- Why a directory cannot be listed. -/
def lockText : IO.Error → String
  | .permissionDenied _ code details => details ++ " (os error " ++ toString code ++ ")"
  | e => toString e

/-- An entry of the disk with everything inside it. -/
partial def readTree (entry : IO.FS.DirEntry) : IO Tree := do
  if ← entry.path.isDir then
    try
      let mut entries := []
      for inner in ← entry.path.readDir do
        entries := Keyed.insert inner.fileName (← readTree inner) entries
      return .directory entries
    catch e => return .locked (lockText e)
  else
    try return .file (some (← IO.FS.readFile entry.path))
    catch _ => return .file none

def readData (path : String) : IO (Option Tree) := do
  let entry : IO.FS.DirEntry := ⟨(← IO.currentDir) / path, "data"⟩
  if ← entry.path.pathExists then return some (← readTree entry) else return none

def freshUuid : IO Uuid := do
  let bytes ← IO.getRandomBytes 16
  return .ofRandom (BitVec.ofNat 128 (bytes.toList.foldl (fun n b => 256 * n + b.toNat) 0))

end Fortune

open Fortune in
def main (arguments : List String) : IO UInt32 := do
  let request := Command.Request.parse arguments
  let data ← match request.directory? with
    | some path => readData path
    | none => pure none
  let report := request.report data (← freshUuid)
  (← IO.getStdout).putStr report.output
  (← IO.getStderr).putStr report.errors
  return UInt32.ofNat report.code
