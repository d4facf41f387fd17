import PathRouting.RouteTable
import PathRouting.Settings.Entry

/-!
# Routes files

A routes file is a YAML sequence of entries, which are registered in order. It is loaded as a whole
or not at all: the first entry at fault ends the loading.
-/

namespace PathRouting.RoutesFile

/-- The file that is read when no other one is asked for. -/
def defaultPath : Text :=
  "routes.yml".toList

/-- Why a routes file is refused. -/
inductive Error where
  /-- The file cannot be read. -/
  | unreadable (path : Text)
  /-- The file is no sequence. -/
  | notSequence (e : Yaml.Error)
  /-- An entry, counted from one, is no template and no definition. -/
  | invalidEntry (number : Nat) (e : RouteError)
  /-- The route of an entry, counted from one, is refused. -/
  | refusedRoute (number : Nat) (template : Text) (e : RouteError)
deriving DecidableEq

/-- An error in words, without its cause. -/
def Error.message : Error → String
  | unreadable path =>
    let path := String.ofList path
    s!"Could not read routes file {path}"
  | notSequence _ => "Routes file must be a YAML sequence"
  | invalidEntry number _ => s!"Invalid route entry #{number}"
  | refusedRoute number template _ =>
    let template := String.ofList template
    s!"Could not register route #{number} ({template})"

/-- The refusal of a route that is behind an error. -/
def Error.cause? : Error → Option RouteError
  | invalidEntry _ e => some e
  | refusedRoute _ _ e => some e
  | _ => none

/-- Registers the entry with a number. -/
def addEntry (t : RouteTable) (number : Nat) (v : Yaml.Value) : Except Error RouteTable := do
  let entry ← (RouteEntry.ofValue v).mapError
    fun e => .invalidEntry number (.invalidRoute (.definition e))
  let route := entry.toRoute
  (t.add route).mapError fun e => .refusedRoute number route.template e

/-- Registers entries, the first of which has a number. -/
def addEntries (t : RouteTable) (number : Nat) : List Yaml.Value → Except Error RouteTable
  | [] => .ok t
  | v :: rest => do
    let t ← addEntry t number v
    addEntries t (number + 1) rest

/-- The table of a routes file. -/
def parse (text : Text) : Except Error RouteTable := do
  let entries ← (Yaml.Value.readItems text).mapError .notSequence
  addEntries ∅ 1 entries

/-- The table of the file at a path, given what files hold. -/
def load (contents : Text → Option Text) (path : Option Text) : Except Error RouteTable :=
  let path := path.getD defaultPath
  match contents path with
  | none => .error (.unreadable path)
  | some text => parse text

end PathRouting.RoutesFile
