import PathRouting.Text.Basic

/-!
# The command line

Two options take a value, which is attached to them or follows as the next argument. An option that
stands last may still be waiting for its value; it is settled when the next option starts or the
arguments end.
-/

namespace PathRouting.CommandLine

/-- An option that takes a value. -/
inductive Name where
  /-- The path of the routes file. -/
  | routes
  /-- The address to listen on. -/
  | bind
deriving DecidableEq, Repr

/-- What a command line asks for. -/
structure Options where
  /-- The path of the routes file. -/
  routesPath : Option Text := none
  /-- The address to listen on. -/
  bind : Text
deriving DecidableEq

/-- Why a command line is not carried out. -/
inductive Problem where
  /-- An option has no value. -/
  | missingValue
  /-- An option is given twice. -/
  | repeatedOption
  /-- An argument is unknown. -/
  | unknownArgument
  /-- Something that takes no value has one. -/
  | unneededValue
  /-- Help is asked for. -/
  | help
deriving DecidableEq, Repr

/-- The address that is listened on if none is given. -/
def defaultBind : Text :=
  "127.0.0.1:3000".toList

/-- Arguments of which some have been read. -/
structure State where
  /-- The value of the first option. -/
  routes : Option Text := none
  /-- The value of the second option. -/
  bind : Option Text := none
  /-- The option that came last, with its value if there is one. -/
  pending : Option (Name × Option Text) := none
  /-- Whether only plain arguments may follow. -/
  isEscaped : Bool := false

namespace State

/-- Gives an option its value. -/
def give (s : State) (name : Name) (value : Text) : Except Problem State :=
  match name with
  | .routes =>
    if s.routes.isSome then .error .repeatedOption else .ok { s with routes := some value }
  | .bind => if s.bind.isSome then .error .repeatedOption else .ok { s with bind := some value }

/-- Settles the option that came last. -/
def settle (s : State) : Except Problem State :=
  match s.pending with
  | none => .ok s
  | some (_, none) => .error .missingValue
  | some (name, some value) => { s with pending := none }.give name value

/-- Starts an option, with the value that is attached to it if there is one. -/
def start (s : State) (name : Name) (attached : Option Text) : Except Problem State := do
  let s ← s.settle
  match attached with
  | some value => s.give name value
  | none => return { s with pending := some (name, none) }

/-- Asks for help, once the option that came last is settled. -/
def askHelp (s : State) : Except Problem State := do
  let _ ← s.settle
  .error .help

/-- Reads an argument that starts with two hyphens. -/
def long (s : State) (t : Text) : Except Problem State :=
  let (name, attached) := match Text.splitFirst '=' t with
    | some (name, value) => (name, some value)
    | none => (t, none)
  if name = "routes".toList then s.start .routes attached
  else if name = "bind".toList then s.start .bind attached
  else if name = "help".toList then
    if attached.isSome then .error .unneededValue else s.askHelp
  else .error .unknownArgument

/-- The value that is attached to a letter; an equals sign before it may be written. -/
def attachedValue? : Text → Option Text
  | [] => none
  | '=' :: value => some value
  | value => some value

/-- Reads an argument that starts with one hyphen, of which a letter and what follows are given. -/
def short (s : State) (letter : Char) (rest : Text) : Except Problem State :=
  if letter = 'r' then s.start .routes (attachedValue? rest)
  else if letter = 'b' then s.start .bind (attachedValue? rest)
  else if letter = 'h' then s.askHelp
  else .error .unknownArgument

/-- Reads an argument that is no option: the value of the option that waits for one. -/
def plain (s : State) (t : Text) : Except Problem State :=
  match s.isEscaped, s.pending with
  | false, some (name, none) => .ok { s with pending := some (name, some t) }
  | _, _ => .error .unknownArgument

/-- Reads an argument. -/
def read (s : State) (t : Text) : Except Problem State :=
  if s.isEscaped then s.plain t
  else match t with
    | ['-', '-'] => .ok { s with isEscaped := true }
    | '-' :: '-' :: rest => s.long rest
    | '-' :: letter :: rest => s.short letter rest
    | _ => s.plain t

end State

/-- The options of a command line. -/
def parse (arguments : List Text) : Except Problem Options := do
  let s ← arguments.foldlM State.read {}
  let s ← s.settle
  return ⟨s.routes, s.bind.getD defaultBind⟩

end PathRouting.CommandLine
