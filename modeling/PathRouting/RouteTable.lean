import PathRouting.Route.Compiled

/-!
# Route tables

A route table keeps its routes in the order in which they were registered, and the first one that
matches a path answers for it. Routes are checked when they are added, and no two have the same
name.
-/

namespace PathRouting

/-- The routes of an application. -/
structure RouteTable where
  /-- The routes, in the order of their registration. -/
  routes : List Route := []
deriving DecidableEq

namespace RouteTable

/-- The table without routes. -/
def empty : RouteTable :=
  ⟨[]⟩

instance : EmptyCollection RouteTable :=
  ⟨empty⟩

/-- The number of routes. -/
def size (t : RouteTable) : Nat :=
  t.routes.length

/-- Whether there are no routes. -/
def isEmpty (t : RouteTable) : Bool :=
  t.routes.isEmpty

/-- The route with a name. -/
def find? (t : RouteTable) (name : Text) : Option Route :=
  t.routes.find? fun r => r.name == some name

/-- Whether another route already has the name of a route. -/
def hasNameOf (t : RouteTable) (r : Route) : Bool :=
  r.name.any fun name => (t.find? name).isSome

/-- Registers a route behind all others. It has to compile and its name has to be new. -/
def add (t : RouteTable) (r : Route) : Except RouteError RouteTable := do
  if t.hasNameOf r then .error (.duplicateName (r.name.getD []))
  let _ ← r.compile ∅
  return ⟨t.routes ++ [r]⟩

/-- Registers routes one after another, until one is refused. -/
def addAll (t : RouteTable) : List Route → Except RouteError RouteTable
  | [] => .ok t
  | r :: rest => do
    let t ← t.add r
    t.addAll rest

/-- A request path without its query string and without slashes around it. -/
def normalizePath (path : Text) : Text :=
  Text.trim '/' (path.takeWhile (· != '?'))

/-- The match of a route with a normalized path. A route that does not compile matches nothing. -/
def matchRoute? (path : Text) (query : Values) (r : Route) : Option RouteMatch := do
  let compiled ← (r.compile query).toOption
  let values ← compiled.valuesIn? path query
  return ⟨{ r with defaults := compiled.defaults }, values⟩

/-- The match of the first route that matches a request path. -/
def resolve (t : RouteTable) (path : Text) (query : Values) : Option RouteMatch :=
  t.routes.findSome? (matchRoute? (normalizePath path) query)

end RouteTable

end PathRouting
