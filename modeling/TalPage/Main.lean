import TalPage.Command.Run

/-!
# The program

Runs a command line on the files of the machine: what the command may look at is read first, and what
it has changed is written afterwards.
-/

namespace TalPage.Program

open File (Path Store Location Entry)

/-- The names that lead from the root to a place of the machine. -/
def locationOf (path : String) : Location := (Path.ofText path).names.map File.nameBytes

/-- The path to a location, if all names on it are texts. -/
def pathTo? (l : Location) : Option String := do
  let names ← l.mapM fun name => String.fromUTF8? ⟨name.toArray⟩
  return "/" ++ "/".intercalate names

/-- What stands at a location of the machine. -/
def look (l : Location) : IO (Option Entry) := do
  let some path := pathTo? l | return none
  match ← (IO.FS.realPath path).toBaseIO with
  | .error _ => return none
  | .ok path =>
    if ← path.isDir then return some .directory
    else return some (.file (← IO.FS.readBinFile path).toList)

/-- The locations that a path leads through, from a first one on. -/
def route (start : Location) (names : Location) : List Location :=
  match names with
  | [] => [start]
  | name :: names => start :: route (if name = Store.twoDots then start.dropLast else start ++ [name]) names

/-- Takes over into the store what the machine has on the way of a path. -/
def fetch (s : Store) (p : Path) : IO Store :=
  (route (if p.isAbsolute then [] else s.working) (p.names.map File.nameBytes)).foldlM (fun s l => do
    match ← look l with
    | some e => return s.put l e
    | none => return s) s

/-- Writes to the machine what a run has changed. -/
def commit (old new : Store) : IO Unit :=
  new.entries.reverse.forM fun (l, e) => do
    if old.get? l = some e then return
    let some path := pathTo? l | return
    match e with
    | .directory => IO.FS.createDir path
    | .file bytes => IO.FS.writeBinFile path ⟨bytes.toArray⟩

/-- The store that a request needs. -/
def prepare (request : Command.Request) : IO Store := do
  let empty : Store := { working := locationOf (← IO.currentDir).toString }
  let s ← (Command.settingsPaths request).foldlM fetch empty
  (Command.workPaths s request).foldlM fetch s

/-- The code that the program ends with; a fault that the command does not report is told here. -/
def exitCode : Command.Ending → IO UInt32
  | .code n => return UInt32.ofNat n
  | .file fault => do
    (← IO.getStderr).putStrLn fault.message
    return 1
  | .document fault => do
    (← IO.getStderr).putStrLn ("Faulty document. " ++ fault.message)
    return 1
  | .dump fault => do
    (← IO.getStderr).putStrLn fault.message
    return 1

/-- A text for a stream of the machine, with an escape for each surrogate. -/
def shown (ps : Text.Points) : String :=
  String.ofList (ps.flatMap fun
    | .char c => [c]
    | p => Text.codeEscape p.toNat)

def run (words : List String) : IO UInt32 := do
  let words := words.map Text.points
  let request := Command.readLine words
  let store ← match request with
    | .ok request => prepare request
    | .error _ => pure {}
  let stdin ←
    if request.toOption.any Command.Request.readsInput then (← IO.getStdin).readBinToEnd else pure .empty
  let outcome := Command.run (some .utf8) words stdin.toList store
  commit store outcome.session.store
  (← IO.getStdout).putStr (shown outcome.session.stdout)
  (← IO.getStderr).putStr (shown outcome.session.stderr)
  exitCode outcome.ending

end TalPage.Program

def main (words : List String) : IO UInt32 :=
  TalPage.Program.run words
