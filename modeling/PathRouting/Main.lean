import PathRouting.CommandLine
import PathRouting.RoutesFile
import PathRouting.Service

/-!
# The program

The program loads a routes file and answers requests that it reads line by line: a method, a target
and, for a registration, a body in JSON.
-/

namespace PathRouting

/-- The text that explains the command line. -/
def usage : String :=
  "Resolves request paths against an ordered table of URL templates\n\n"
    ++ "Usage: routemap [OPTIONS]\n\n"
    ++ "Options:\n"
    ++ "  -r, --routes <ROUTES>  Path to a YAML file containing route definitions\n"
    ++ "  -b, --bind <ADDRESS>   Address to listen on [default: 127.0.0.1:3000]\n"
    ++ "  -h, --help             Print help"

/-- The request of a line. -/
def requestOfLine? (line : Text) : Option Request := do
  let (method, rest) ← Text.splitFirst ' ' line
  let (target, body) := (Text.splitFirst ' ' rest).getD (rest, [])
  return { method, uri := ← Uri.parse? target, body, contentType := "application/json".toList }

/-- A response as a line. -/
def lineOfResponse (r : Response) : String :=
  let body := String.ofList (r.body.elim [] Json.render)
  s!"{r.status} {body}"

/-- Answers the requests of a stream. -/
partial def serve (table : RouteTable) (input : IO.FS.Stream) : IO Unit := do
  let line ← input.getLine
  if line.isEmpty then return
  match requestOfLine? (line.toList.takeWhile (· != '\n')) with
  | none =>
    IO.println "400 "
    serve table input
  | some request =>
    let (response, table) := Service.handle table request
    IO.println (lineOfResponse response)
    serve table input

/-- What the file at a path holds. -/
def readFile? (path : Text) : IO (Option Text) := do
  try
    return some (← IO.FS.readFile (String.ofList path)).toList
  catch _ =>
    return none

/-- Loads the routes file that the options ask for and serves it. -/
def run (options : CommandLine.Options) : IO UInt32 := do
  let path := options.routesPath.getD RoutesFile.defaultPath
  let contents ← readFile? path
  match RoutesFile.load (fun _ => contents) (some path) with
  | .error e =>
    IO.eprintln e.message
    if let some cause := e.cause? then IO.eprintln cause.message
    return 1
  | .ok table =>
    serve table (← IO.getStdin)
    return 0

end PathRouting

def main (arguments : List String) : IO UInt32 := do
  match PathRouting.CommandLine.parse (arguments.map String.toList) with
  | .ok options => PathRouting.run options
  | .error .help =>
    IO.println PathRouting.usage
    return 0
  | .error _ =>
    IO.eprintln PathRouting.usage
    return 2
