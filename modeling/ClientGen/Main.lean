import ClientGen.CommandLine.Session

/-! The program. It reads what its command line refers to, runs the session on it and writes the
files that the session changed. No address of the web answers. -/
namespace ClientGen.Main

def look (files : Files) (path : Path) : IO Files := do
  try
    let found ← IO.FS.realPath path.text
    if ← found.isDir then return files.addDirectory path
    return files.add path (.ofBytes (← IO.FS.readBinFile found))
  catch _ => return files

def save (change : Location × FileContent) : IO Unit := do
  let (location, content) := change
  let directory : Location := ⟨location.origin, location.names.dropLast⟩
  unless directory.names.isEmpty do IO.FS.createDirAll directory.text
  match content with
  | .text s => IO.FS.writeFile location.text s
  | .raw bytes => IO.FS.writeBinFile location.text ⟨bytes.toArray⟩

end ClientGen.Main

open ClientGen in
def main (words : List String) : IO UInt32 := do
  let files ← (CommandLine.inputs words).foldlM Main.look Files.empty
  match CommandLine.run ⟨files, []⟩ words with
  | .ok ending => do
    (ending.files.changes files).forM Main.save
    IO.eprint ending.err
    IO.print ending.out
    return ending.exit.toUInt32
  | .error fault => do
    IO.eprintln (CommandLine.failureText fault)
    return 1
