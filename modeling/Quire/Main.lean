import Quire.Command

/-! The program: reads the files in reach, carries out the command line, prints
what is to be printed and writes the files that changed. -/

open Quire

namespace Quire.Program

/-- The files under a folder, however deep. -/
partial def readUnder (dir : String) (t : FileTree) : IO FileTree := do
  let mut t := (t.makeFolders (FileName.ofString dir)).toOption.getD t
  for entry in ← (← IO.FS.realPath dir).readDir do
    let name := dir ++ "/" ++ entry.fileName
    let kind := (← entry.path.metadata).type
    if kind matches .dir then t ← readUnder name t
    else if kind matches .file then
      let bytes ← IO.FS.readBinFile entry.path
      t := (t.write (FileName.ofString name) bytes.toList).toOption.getD t
  return t

def writeChanges (before after : FileTree) : IO Unit := do
  for (place, bytes) in before.changed after do
    let folder := "/" ++ "/".intercalate place.dropLast
    IO.FS.createDirAll folder
    IO.FS.writeBinFile ("/" ++ "/".intercalate place) (ByteArray.mk bytes.toArray)

def surroundings : Command.Surroundings := ⟨.still, "-", .int 0⟩

def usage : String := "usage: docweave [-h] [--log-level LOG_LEVEL] (run | build | validate | plan) ..."

/-- Carries out a line in the current folder. -/
def carryOut (line : Command.Line) : IO UInt32 := do
  let home := toString (← IO.currentDir)
  let before ← readUnder home (FileTree.empty (FileName.ofString home).parts)
  let (code, console) := (Command.execute surroundings line).run { tree := before }
  writeChanges before console.tree
  IO.print console.output
  IO.eprint console.errors
  if let .error e := code then IO.eprintln (e.label ++ ": " ++ e.text)
  return (Command.exitCode code).toUInt32

end Quire.Program

def main (args : List String) : IO UInt32 := do
  match Command.Line.parse args with
  | .ok line => Quire.Program.carryOut line
  | .error halt =>
    if halt = .help then IO.println Quire.Program.usage else IO.eprintln Quire.Program.usage
    return halt.code.toUInt32
