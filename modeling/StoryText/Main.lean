import StoryText.CommandLine.Run
import StoryText.Files.Bytes

namespace StoryText.Main

open Files (Entry Place Tree)

def entryAt (p : Place) : IO (Option Entry) := do
  try
    return some (.file (.ofBytes (← IO.FS.readBinFile (String.ofList p.path))))
  catch
    | .noFileOrDirectory .. => return none
    | _ => return some .directory

def snapshot (places : List Place) : IO Tree :=
  places.foldlM (fun t p => do
    if p.isAbove then return t
    return (← entryAt p).elim t (t.put p)) Tree.empty

def commit (places : List Place) (old new : Tree) : IO Unit :=
  places.forM fun p => do
    match new.at? p with
    | some (.file (.text s)) =>
      if old.at? p ≠ new.at? p then IO.FS.writeFile (String.ofList p.path) (String.ofList s)
    | _ => return

end StoryText.Main

/-- Takes a snapshot of the files that the command line names, carries it out on that, and writes
what it leaves behind. -/
def main (args : List String) : IO UInt32 := do
  let ts := args.map String.toList
  let places := (StoryText.CommandLine.mentioned ts).flatMap StoryText.Files.Place.ofPath
  let files ← StoryText.Main.snapshot places
  let setting := (← IO.getEnv "RUST_LOG").map String.toList
  let o := StoryText.CommandLine.run files setting ts
  (← IO.getStderr).putStr (String.ofList o.stderr)
  try
    StoryText.Main.commit places files o.files
  catch e =>
    (← IO.getStderr).putStrLn ("Error: IO error: " ++ toString e)
    return 1
  (← IO.getStdout).putStr (String.ofList o.stdout)
  return o.exit.toUInt32
