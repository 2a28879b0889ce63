import PhpLint.CommandLine.Program

namespace PhpLint

/-!
# The executable

It takes a picture of the working directory, runs the program on it, and writes
what the program has changed.
-/

/-- The items below a directory, whose own parts come first. -/
partial def snapshot (directory : List Bytes) (entries : Array IO.FS.DirEntry) :
    IO (List (List Bytes × Disk.Item)) := do
  let mut items := []
  for entry in entries do
    let parts := directory ++ [utf8 entry.fileName]
    if ← entry.path.isDir then
      items := items ++ [(parts, Disk.Item.directory)]
      items := items ++ (← snapshot parts (← entry.path.readDir))
    else
      let content ← IO.FS.readBinFile entry.path
      items := items ++ [(parts, Disk.Item.file content.toList)]
  return items

/-- A text as the operating system takes it. -/
def nativeText (bytes : Bytes) : String :=
  String.ofList (Utf8.chars bytes)

/-- Writes the files that are not as they were. -/
def saveChanges (before after : Disk) : IO Unit := do
  for (parts, item) in after.items do
    match item with
    | .directory => pure ()
    | .file content =>
      unless before.item? parts = some item do
        IO.FS.writeBinFile (nativeText (Bytes.join (utf8 "/") parts)) ⟨content.toArray⟩

def readEnvironment : IO Environment := do
  let names := ["GITHUB_ACTIONS", "NO_COLOR", "PHPSANITY_CONFIG", "PHPSANITY_LOG_LEVEL"]
  let mut settings := []
  for name in names do
    if let some value ← IO.getEnv name then
      settings := settings ++ [(utf8 name, utf8 value)]
  return settings

end PhpLint

open PhpLint CommandLine in
def main (arguments : List String) : IO UInt32 := do
  let disk : Disk := { items := ← snapshot [] (← (← IO.currentDir).readDir) }
  let invocation : Invocation := {
    arguments := arguments.map utf8
    environment := ← readEnvironment
    disk := disk }
  match runProgram invocation with
  | none =>
    (← IO.getStderr).putStrLn "ignore_files has an element that is null"
    return 2
  | some outcome =>
    (← IO.getStdout).write ⟨outcome.output.toArray⟩
    (← IO.getStderr).write ⟨(outcome.errorText invocation.version).toArray⟩
    saveChanges disk outcome.disk
    return UInt32.ofNat outcome.exitCode
