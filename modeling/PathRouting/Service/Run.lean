import PathRouting.Run
import PathRouting.Service

/-!
# Runs of the service

Requests are answered one after another, each from the table that the requests before it have left.
The table itself is hidden, but a client that keeps the requests with their answers knows what is
in it.
-/

namespace PathRouting.Service

/-- The answers to requests one after another. -/
def answers (t : RouteTable) (requests : List Request) : List Response :=
  Run.answers handle t requests

/-- The route that a request has registered, given the answer to the request. -/
def registered? (q : Request) (answer : Response) : Option Route :=
  if q.method = "POST".toList ∧ q.uri.path = tablePath ∧ answer.status = 201 then
    (Settings.parse q.body).toOption.map (·.toRoute)
  else none

/-- The table as it is known from requests and their answers: the initial routes and, behind them,
those that the requests have registered. -/
def known (t : RouteTable) (requests : List Request) : RouteTable :=
  ⟨t.routes ++ (requests.zip (answers t requests)).filterMap fun (q, answer) =>
    registered? q answer⟩

end PathRouting.Service
