import WikiEntry.CommandLine.Run

/-!
# The program

The outer layer of the command line: it reads the files that a run may need, and writes and prints what the
run leaves.
-/

namespace WikiEntry
namespace CommandLine

def readFile (p : Path) : IO (Option (Path × StoredFile)) := do
  try
    let t ← IO.FS.readFile (String.ofList p.render)
    return some (p.normal, ⟨t.toList, 0⟩)
  catch _ => return none

def readFiles (paths : List Path) : IO FileTree := do
  return ⟨(← paths.mapM readFile).filterMap id⟩

def writeFiles (before after : FileTree) : IO Unit := do
  for (p, f) in after.files do
    if before.files.lookup p != some f then
      IO.FS.writeFile (String.ofList p.render) (String.ofList f.content)

end CommandLine
end WikiEntry

open WikiEntry CommandLine in
def main (arguments : List String) : IO UInt32 := do
  let arguments := arguments.map String.toList
  let paths := (readOptions arguments).elim [] readable
  let before ← readFiles paths
  let f := finish arguments before 1
  writeFiles before f.files
  IO.print (String.ofList f.output)
  IO.eprint (String.ofList f.complaint)
  return f.exitCode.toUInt32
