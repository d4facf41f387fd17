import PathRouting.Http.MediaType
import PathRouting.Http.Uri
import PathRouting.RouteTable
import PathRouting.Settings.Body
import PathRouting.Text.Query

/-!
# The service

The service answers requests from a route table. One path shows the table and takes further routes;
every other request is resolved, whatever its method.
-/

namespace PathRouting

/-- A request. -/
structure Request where
  /-- The method. -/
  method : Text := "GET".toList
  /-- The target. -/
  uri : Uri
  /-- The media type of the body, as it is written. -/
  contentType : Option Text := none
  /-- The body, in which U+0000 stands for whatever is no text. JSON has no place for either. -/
  body : Text := []

/-- The answer to a request. -/
structure Response where
  /-- The status code. -/
  status : Nat
  /-- The body, if there is one. -/
  body : Option Json

namespace Service

/-- Why a request fails. -/
inductive Error where
  /-- Nothing is there. -/
  | notFound (message : String)
  /-- The request is at fault. -/
  | badRequest (message : String)
  /-- The service is at fault. -/
  | internal (message : String)
deriving DecidableEq, Repr

/-- The failure of a request whose route is refused. -/
def Error.ofRoute (e : RouteError) : Error :=
  badRequest e.message

/-- A failure in words. -/
def Error.message : Error → String
  | notFound message => s!"Not found: {message}"
  | badRequest message => s!"Bad request: {message}"
  | internal message => s!"Internal error: {message}"

/-- The status code of a failure. -/
def Error.status : Error → Nat
  | notFound _ => 404
  | badRequest _ => 400
  | internal _ => 500

/-- The answer to a request that fails. -/
def Error.response (e : Error) : Response :=
  ⟨e.status, some (.object [("error".toList, .string e.message.toList)])⟩

/-- Defaults as JSON. -/
def defaultsJson (d : Dict ParameterDefault) : Json :=
  Json.ofDict (fun d => Json.ofText? d.value?) d

/-- A route as JSON. -/
def routeJson (r : Route) : Json :=
  .object <|
    (r.name.map fun name => ("name".toList, Json.string name)).toList
    ++ [("template".toList, .string r.template), ("defaults".toList, defaultsJson r.defaults),
      ("constraints".toList, Json.ofDict .string r.constraints)]

/-- A match as JSON. -/
def matchJson (m : RouteMatch) : Json :=
  .object <|
    (m.route.name.map fun name => ("route".toList, Json.string name)).toList
    ++ [("template".toList, .string m.route.template),
      ("values".toList, Json.ofDict .string m.values),
      ("defaults".toList, defaultsJson m.route.defaults)]

/-- The path that shows the table. -/
def tablePath : Text :=
  "/_routes".toList

/-- The answer that shows the routes of a table. -/
def list (t : RouteTable) : Response :=
  ⟨200, some (.array (t.routes.map routeJson))⟩

/-- Whether the body of a request is JSON. -/
def hasJson (r : Request) : Bool :=
  (r.contentType.bind MediaType.parse?).any (·.isJson)

/-- The bound on the length of a body that is read, in bytes. -/
def bodyLimit : Nat := 2097152

/-- Registers the route that the body of a request defines. -/
def register (t : RouteTable) (r : Request) : Response × RouteTable :=
  if !hasJson r then (⟨415, none⟩, t)
  else if bodyLimit < Text.utf8Length r.body then (⟨413, none⟩, t)
  else match Settings.parse r.body with
    | .error .notJson => (⟨400, none⟩, t)
    | .error .notDefinition => (⟨422, none⟩, t)
    | .ok settings =>
      let route := settings.toRoute
      match t.add route with
      | .ok t => (⟨201, some (routeJson route)⟩, t)
      | .error e => ((Error.ofRoute e).response, t)

/-- Resolves the target of a request. -/
def resolve (t : RouteTable) (u : Uri) : Response :=
  match t.resolve u.path (Query.parse? u.query) with
  | some m => ⟨200, some (matchJson m)⟩
  | none =>
    let path := String.ofList u.path
    (Error.notFound s!"no route matches {path}").response

/-- Whether the answer to a request goes without its body. -/
def hidesBody (method : Text) (status : Nat) : Bool :=
  method == "HEAD".toList
    || (method == "CONNECT".toList && 200 ≤ status && status < 300)

/-- Answers a request, with the table for the next one. -/
def handle (t : RouteTable) (r : Request) : Response × RouteTable :=
  let (response, t) :=
    if r.uri.path ≠ tablePath then (resolve t r.uri, t)
    else if r.method = "GET".toList ∨ r.method = "HEAD".toList then (list t, t)
    else if r.method = "POST".toList then register t r
    else (⟨405, none⟩, t)
  if hidesBody r.method response.status then ({ response with body := none }, t)
  else (response, t)

end Service

end PathRouting
