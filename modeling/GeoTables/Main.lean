import GeoTables.Service.Answer
import GeoTables.Service.Arguments

/-!
# The command line

The program reads table definitions, writes their rows into a store and then
answers requests, one a line: a method, an address and the rest of the line as
the body.  An answer is the status, the media type and the body.
-/

namespace GeoTables.Main

/-- The request of a line. -/
def requestOf (line : String) : Request :=
  let isBlank := fun (character : Char) => character == ' '
  let characters := line.toList.filter fun character => character != '\n'
  let afterMethod := (characters.dropWhile (!isBlank ·)).drop 1
  { method := Method.ofName (String.ofList (characters.takeWhile (!isBlank ·)))
    address := afterMethod.takeWhile (!isBlank ·)
    body := (afterMethod.dropWhile (!isBlank ·)).drop 1 }

/-- The line of a response. -/
def lineOf (response : Response) : String :=
  Text.natText response.status ++ " " ++ response.contentType.getD "-" ++ " "
    ++ String.ofList response.body

/-- The definitions in a document, or the wording of what is wrong with it. -/
def definitionsOf (path : Option String) : IO (List TableDefinition) := do
  match path with
  | none => return []
  | some path =>
      match TableDefinition.listOfText (← IO.FS.readFile path) with
      | .ok definitions => return definitions
      | .error fault => throw (IO.userError fault.message)

/-- The service of a configuration. -/
def start (configuration : Configuration) : IO Service := do
  let definitions ← definitionsOf configuration.tablesPath
  let (described, registry) := (Registry.ofDefinitions definitions).describeAll .asRegistered
  if let .error fault := described then
    throw (IO.userError fault.message)
  let (seeded, registry, store) := registry.seed .empty (fun _ => .absent) definitions
  if let .error failure := seeded then
    throw (IO.userError failure.message)
  return ⟨configuration, registry, store.served, .insertion⟩

/-- Answer requests until the input ends. -/
partial def serve (service : Service) (input output : IO.FS.Stream) : IO Unit := do
  let line ← input.getLine
  if line.isEmpty then
    return
  output.putStrLn (lineOf (service.answer (requestOf line)))
  output.flush
  serve service input output

end GeoTables.Main

/-- Read the arguments and answer requests. -/
def main (arguments : List String) : IO UInt32 := do
  match GeoTables.Configuration.ofArguments arguments with
  | .error fault =>
      (← IO.getStderr).putStrLn fault.message
      return 2
  | .ok configuration =>
      GeoTables.Main.serve (← GeoTables.Main.start configuration) (← IO.getStdin)
        (← IO.getStdout)
      return 0
