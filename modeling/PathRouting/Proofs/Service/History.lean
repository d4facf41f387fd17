import PathRouting.Proofs.RouteTable.Precedence
import PathRouting.Proofs.Run
import PathRouting.Service.Run

/-!
# What the service remembers

The service answers each request from the routes that it started with and those that it has
registered since, in the order of the requests. A registration that is answered with status 201 adds
its route, and no other request leaves a trace.
-/

namespace PathRouting.Service

/-- An answer as it is sent. -/
def sent (method : Text) (answer : Response) : Response :=
  if hidesBody method answer.status then { answer with body := none } else answer

section

variable {t : RouteTable} {q : Request}

/-- The status of an answer is sent with it. -/
@[simp] theorem sent_status (method : Text) (answer : Response) :
    (sent method answer).status = answer.status := by
  unfold sent
  split <;> rfl

/-- A request for another path is resolved. -/
theorem handle_of_ne (hpath : q.uri.path ≠ tablePath) :
    handle t q = (sent q.method (resolve t q.uri), t) := by
  unfold handle sent
  rw [if_pos hpath]
  dsimp only
  split <;> rfl

/-- A request to see the table is answered with its routes. -/
theorem handle_of_get (hpath : q.uri.path = tablePath)
    (hmethod : q.method = "GET".toList ∨ q.method = "HEAD".toList) :
    handle t q = (sent q.method (list t), t) := by
  unfold handle sent
  rw [if_neg (not_not_intro hpath), if_pos hmethod]
  dsimp only
  split <;> rfl

/-- A request to extend the table is a registration. -/
theorem handle_of_post (hpath : q.uri.path = tablePath) (hmethod : q.method = "POST".toList) :
    handle t q = register t q := by
  have hother : ¬(q.method = "GET".toList ∨ q.method = "HEAD".toList) := by
    rw [hmethod]
    decide
  have hshown : ∀ status, hidesBody q.method status = false := by
    intro status
    rw [hmethod]
    rfl
  unfold handle
  rw [if_neg (not_not_intro hpath), if_neg hother, if_pos hmethod]
  dsimp only
  rw [hshown, if_neg Bool.false_ne_true]

/-- Nothing else can be done with the table. -/
theorem handle_of_other (hpath : q.uri.path = tablePath) (hget : q.method ≠ "GET".toList)
    (hhead : q.method ≠ "HEAD".toList) (hpost : q.method ≠ "POST".toList) :
    handle t q = (sent q.method ⟨405, none⟩, t) := by
  unfold handle sent
  rw [if_neg (not_not_intro hpath), if_neg (not_or.mpr ⟨hget, hhead⟩), if_neg hpost]
  dsimp only
  split <;> rfl

/-- A failure is not answered like a registration. -/
theorem Error.status_ne (e : Error) : e.response.status ≠ 201 := by
  cases e <;> exact of_decide_eq_true rfl

end

/-- What a request can do: it registers the route of its body behind all others, or it leaves the
table as it is. -/
inductive Step (t : RouteTable) (q : Request) : Prop
  /-- The route is registered. -/
  | registered {r : Route} (hroute : registered? q (handle t q).1 = some r)
    (hadd : t.add r = .ok ⟨t.routes ++ [r]⟩)
    (hanswer : handle t q = (⟨201, some (routeJson r)⟩, ⟨t.routes ++ [r]⟩))
  /-- No route is registered. -/
  | same (hstatus : (handle t q).1.status ≠ 201) (hsame : (handle t q).2 = t)

variable {t : RouteTable} {q : Request}

/-- A request that is answered otherwise than a registration, and leaves the table as it is. -/
theorem step_of_handle {answer : Response} (h : handle t q = (answer, t))
    (hstatus : answer.status ≠ 201) : Step t q := by
  refine .same ?_ (congrArg Prod.snd h)
  rw [h]
  exact hstatus

/-- A registration succeeds, or it has no effect. -/
theorem step_of_post (hpath : q.uri.path = tablePath) (hmethod : q.method = "POST".toList) :
    Step t q := by
  have hhandle : handle t q = register t q := handle_of_post hpath hmethod
  unfold register at hhandle
  split at hhandle
  · exact step_of_handle hhandle (by decide : 415 ≠ 201)
  split at hhandle
  · exact step_of_handle hhandle (by decide : 413 ≠ 201)
  split at hhandle
  · exact step_of_handle hhandle (by decide : 400 ≠ 201)
  · exact step_of_handle hhandle (by decide : 422 ≠ 201)
  rename_i settings hsettings
  dsimp only at hhandle
  split at hhandle
  · rename_i bigger hadd
    obtain ⟨-, -, rfl⟩ := RouteTable.add_eq_ok_iff.mp hadd
    refine .registered ?_ hadd hhandle
    unfold registered?
    rw [hhandle, if_pos ⟨hmethod, hpath, rfl⟩, hsettings]
    rfl
  · rename_i e hadd
    exact step_of_handle hhandle (Error.status_ne _)

/-- What a request can do to a table. -/
theorem step (t : RouteTable) (q : Request) : Step t q := by
  by_cases hpath : q.uri.path = tablePath
  · by_cases hget : q.method = "GET".toList ∨ q.method = "HEAD".toList
    · exact step_of_handle (handle_of_get hpath hget)
        ((sent_status _ _).trans_ne (by decide : 200 ≠ 201))
    by_cases hpost : q.method = "POST".toList
    · exact step_of_post hpath hpost
    rw [not_or] at hget
    exact step_of_handle (handle_of_other hpath hget.1 hget.2 hpost)
      ((sent_status _ _).trans_ne (by decide : 405 ≠ 201))
  · have hstatus : (resolve t q.uri).status ≠ 201 := by
      unfold resolve
      split
      · exact (by decide : 200 ≠ 201)
      · exact Error.status_ne _
    exact step_of_handle (handle_of_ne hpath) ((sent_status _ _).trans_ne hstatus)

/-- The table that requests leave is known from the requests and their answers. -/
theorem after_eq_known (t : RouteTable) (requests : List Request) :
    Run.after handle t requests = known t requests := by
  have hroutes : (Run.after handle t requests).routes = (known t requests).routes := by
    refine Run.log_after (fun t q => ?_) t requests
    cases step t q with
    | registered hroute hadd hanswer => rw [hroute, hanswer, Option.toList_some]
    | same hstatus hsame =>
      have hnone : registered? q (handle t q).1 = none := if_neg fun h => hstatus h.2.2
      rw [hnone, hsame, Option.toList_none, List.append_nil]
  exact congrArg RouteTable.mk hroutes

/-- The answers to later requests are those from the table that is known. -/
theorem answers_append (t : RouteTable) (requests later : List Request) :
    answers t (requests ++ later) = answers t requests ++ answers (known t requests) later := by
  rw [← after_eq_known]
  exact Run.answers_append t requests later

/-- An answer is the one that a request gets from a table. -/
structure AnswersFrom (t : RouteTable) (q : Request) (answer : Response) : Prop where
  /-- Asked for the routes, it shows them. -/
  listed : q.uri.path = tablePath → q.method = "GET".toList →
    answer = ⟨200, some (.array (t.routes.map routeJson))⟩
  /-- Asked for another path, it shows the match, unless the method does without a body. -/
  matched : q.uri.path ≠ tablePath →
    ∀ m, t.resolve q.uri.path (Query.parse? q.uri.query) = some m →
      answer = ⟨200, if hidesBody q.method 200 then none else some (matchJson m)⟩
  /-- Asked for a path without a match, it fails. -/
  unmatched : q.uri.path ≠ tablePath →
    t.resolve q.uri.path (Query.parse? q.uri.query) = none → answer.status = 404
  /-- If its status is 201, it shows the route that has been registered. -/
  registered : answer.status = 201 →
    ∃ r, registered? q answer = some r ∧ answer.body = some (routeJson r)

/-- A request is answered from the table. -/
theorem answersFrom (t : RouteTable) (q : Request) : AnswersFrom t q (handle t q).1 where
  listed hpath hmethod := by
    rw [handle_of_get hpath (.inl hmethod), hmethod]
    rfl
  matched hpath m hm := by
    rw [handle_of_ne hpath]
    unfold resolve
    rw [hm]
    dsimp only
    unfold sent
    split <;> rfl
  unmatched hpath hnone := by
    rw [handle_of_ne hpath]
    unfold resolve
    rw [hnone]
    exact sent_status _ _
  registered hstatus := by
    cases step t q with
    | @registered r hroute hadd hanswer =>
      refine ⟨r, hroute, ?_⟩
      rw [hanswer]
    | same hother hsame => exact absurd hstatus hother

/-- A run of the service, as its clients see it. Whatever has been asked before, a request is answered
from the initial routes and those that have been registered since, in this order. If its own answer
has not status 201, the answers to all later requests are the same as without it. -/
theorem answers_eq_append (t : RouteTable) (before : List Request) (q : Request)
    (rest : List Request) :
    ∃ answer later, answers t (before ++ q :: rest) = answers t before ++ answer :: later ∧
      AnswersFrom (known t before) q answer ∧
      (answer.status ≠ 201 → answers t (before ++ rest) = answers t before ++ later) := by
  refine ⟨(handle (known t before) q).1, answers (handle (known t before) q).2 rest, ?_,
    answersFrom _ q, fun hstatus => ?_⟩
  · exact answers_append t before (q :: rest)
  · rw [answers_append]
    cases step (known t before) q with
    | registered hroute hadd hanswer =>
      rw [hanswer] at hstatus
      exact absurd rfl hstatus
    | same hother hsame => rw [hsame]

/-- A table with a single page. -/
def aboutTable : RouteTable :=
  ⟨[{ template := "about".toList }]⟩

/-- A request for the head of this page. -/
def aboutHead : Request :=
  { method := "HEAD".toList, uri := ⟨"/about".toList, none⟩ }

/-- Not every request that is matched is shown the match: the answer to a request for a head has no
body. -/
theorem not_always_shown : ¬∀ (t : RouteTable) (q : Request), q.uri.path ≠ tablePath →
    ∀ m, t.resolve q.uri.path (Query.parse? q.uri.query) = some m →
      answers t [q] = [⟨200, some (matchJson m)⟩] := by
  intro h
  have hm : aboutTable.resolve aboutHead.uri.path (Query.parse? aboutHead.uri.query) =
      some ⟨{ template := "about".toList }, ∅⟩ := by decide +kernel
  have hbody : (answers aboutTable [aboutHead]).map (·.body.isSome) = [false] := by decide +kernel
  rw [h aboutTable aboutHead (by decide) _ hm] at hbody
  cases hbody

end PathRouting.Service
