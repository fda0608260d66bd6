import SnippetDetect.CommandLine.Run

/-!
The program: hands the arguments and what a command may look at to the command line, and
prints what comes of it. There is no syntax highlighter to ask, so its detector has no
answers.
-/

namespace SnippetDetect.CommandLine

/-- The variables that hold settings. -/
def variableNames : List String := [
  "FENCE_LANG_CONFIDENCE_THRESHOLD", "FENCE_LANG_DETECTION_ORDER",
  "FENCE_LANG_PATTERN_LANGUAGES", "FENCE_LANG_CACHE", "FENCE_LANG_CACHE_SIZE",
  "FENCE_LANG_CACHE_MAX_AGE", "FENCE_LANG_PATTERNS_DIR", "FENCE_LANG_LOG_LEVEL"]

def readEnvironment : IO Environment :=
  variableNames.filterMapM fun name => do return (← IO.getEnv name).map (name, ·)

/-- The file that a command reads its text from; none for the standard input. -/
def Command.source? : Command → Option String
  | .detect r => r.file.filter (· ≠ "-")
  | .config .import file _ => file.filter (· ≠ "-")
  | _ => none

/-- The paths that a command line may look at. -/
def pathsOf (environment : Environment) (args : List String) : List FilePath :=
  match Command.read args, Settings.ofEnvironment environment with
  | .ok command, .ok settings =>
      settings.languagesFolder.toList ++
        (command.configFile.toList ++ command.source?.toList).map FilePath.ofString
  | _, _ => []

/-- Where a path leads from a place. -/
def placeOf (base : List String) (path : FilePath) : List String :=
  path.names.foldl (fun place name => if name = ".." then place.dropLast else place ++ [name])
    (if path.slashes = 0 then base else [])

def bytesOf (bytes : ByteArray) : List Nat := bytes.toList.map UInt8.toNat

/-- What stands at a path, with the files right below it. -/
def lookAt (base : List String) (path : FilePath) :
    IO (List (List String × Option (List Nat))) := do
  let place := placeOf base path
  let real ← IO.FS.realPath path.text
  if ← real.isDir then
    let inside ← (← real.readDir).toList.mapM fun entry => do
      let content ←
        if ← entry.path.isDir then pure none
        else pure (some (bytesOf (← IO.FS.readBinFile entry.path)))
      return (place ++ [entry.fileName], content)
    return (place, none) :: inside
  else if ← real.pathExists then
    return [(place, some (bytesOf (← IO.FS.readBinFile real)))]
  else return []

/-- All bytes of a stream. -/
partial def readAll (stream : IO.FS.Stream) (read : ByteArray) : IO ByteArray := do
  let chunk ← stream.read 65536
  if chunk.isEmpty then return read else readAll stream (read ++ chunk)

/-- Whether a command line reads the standard input. -/
def readsInput (args : List String) : Bool :=
  match Command.read args with
  | .ok (.detect r) => r.file.all (· = "-")
  | .ok (.config .import file _) => file.all (· = "-")
  | _ => false

/-- How deep the containers of a JSON text may nest. -/
def maxDepth : Nat := 980

/-- What a command line may look at, as it is now. -/
def survey (args : List String) : IO Surroundings := do
  let environment ← readEnvironment
  let base := (FilePath.ofString (← IO.currentDir).toString).names
  let entries ← (pathsOf environment args).mapM (lookAt base)
  let input ← if readsInput args then readAll (← IO.getStdin) .empty else pure .empty
  return {
    environment
    files := ⟨base, entries.flatten⟩
    input := bytesOf input
    lexers := .absent
    depth := maxDepth
    clock := Binary64.ofNat ((← IO.monoMsNow) / 1000) }

def usage : String :=
  "usage: fence-lang [-h] [--verbose] [--log-level LEVEL] detect|languages|config ..."

/-- Print what came of a command line, and give the exit status. -/
def report : Outcome → IO UInt32
  | .help => do
      IO.println usage
      return 0
  | .misuse reason => do
      IO.eprintln usage
      for reason in reason do IO.eprintln ("fence-lang: error: " ++ reason)
      return 2
  | .printed printout => do
      IO.print (textOf printout.lines)
      IO.eprint (textOf printout.errors)
      return printout.status.toUInt32

/-- Read and carry out a command line in its surroundings. -/
def perform (args : List String) : IO UInt32 := do
  report (run (← survey args) args)

end SnippetDetect.CommandLine

def main (args : List String) : IO UInt32 :=
  SnippetDetect.CommandLine.perform args
