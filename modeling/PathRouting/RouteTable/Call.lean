import PathRouting.RouteTable
import PathRouting.Run

/-!
# Calls of a route table

What can be asked of a route table, and what it answers. A route that is accepted changes the table
for the next call; a route that is refused and the questions that are put to the table leave it as
it is.
-/

namespace PathRouting.RouteTable

/-- Registers a route that is given by its parts, of which all but the template may be missing. -/
def addRoute (t : RouteTable) (name : Option Text) (template : Text)
    (defaults : Option (Dict ParameterDefault)) (constraints : Option (Dict Text)) :
    Except RouteError RouteTable :=
  t.add { name, template, defaults := defaults.getD ∅, constraints := constraints.getD ∅ }

/-- What can be asked of a route table. -/
inductive Call where
  /-- Registers a route. -/
  | add (r : Route)
  /-- Registers a route that is given by its parts. -/
  | addRoute (name : Option Text) (template : Text) (defaults : Option (Dict ParameterDefault))
    (constraints : Option (Dict Text))
  /-- Asks for the match of a request path. -/
  | resolve (path : Text) (query : Values)
  /-- Asks for the route with a name. -/
  | find (name : Text)

/-- What a route table answers. -/
inductive Answer where
  /-- The route is registered. -/
  | accepted
  /-- The route is not registered. -/
  | refused (e : RouteError)
  /-- The match of a request path, if there is one. -/
  | resolved (m : Option RouteMatch)
  /-- The route with a name, if there is one. -/
  | found (r : Option Route)
deriving DecidableEq

/-- The route that a call wants to register. -/
def Call.offered? : Call → Option Route
  | add r => some r
  | addRoute name template defaults constraints =>
    some { name, template, defaults := defaults.getD ∅, constraints := constraints.getD ∅ }
  | resolve .. => none
  | find _ => none

/-- The route that a call has registered, given the answer to the call. -/
def Call.accepted? (call : Call) (answer : Answer) : Option Route :=
  if answer = .accepted then call.offered? else none

/-- The answer to the registration of a route, with the table for the next call. -/
def outcome (t : RouteTable) : Except RouteError RouteTable → Answer × RouteTable
  | .ok bigger => (.accepted, bigger)
  | .error e => (.refused e, t)

/-- Answers a call, with the table for the next call. -/
def answer (t : RouteTable) : Call → Answer × RouteTable
  | .add r => t.outcome (t.add r)
  | .addRoute name template defaults constraints =>
    t.outcome (t.addRoute name template defaults constraints)
  | .resolve path query => (.resolved (t.resolve path query), t)
  | .find name => (.found (t.find? name), t)

/-- The answers to calls one after another. -/
def answers (t : RouteTable) (calls : List Call) : List Answer :=
  Run.answers answer t calls

/-- The table after calls one after another. -/
def after (t : RouteTable) (calls : List Call) : RouteTable :=
  Run.after answer t calls

end PathRouting.RouteTable
