import Fleet.Scaleway.Wire

/-!
# A rehearsed interface

Replies are prepared in queues, one for each method and path. A request takes the next reply of its
queue; the last reply is given again and again, and a request for which nothing is prepared is told
that there is no such route. Every request is kept.
-/

namespace Fleet.Rehearsal

open Scaleway (Reply Request)

/-- The prepared replies and the requests made so far, by method and path. -/
structure Routes where
  replies : Table (List Reply) := Table.empty
  requests : Table (List Request) := Table.empty

namespace Routes

/-- The reply to a request for which nothing is prepared. -/
def noRoute : Reply :=
  .answered 404 "\x7b\"message\":\"no route\",\"type\":\"not_found\"\x7d"

/-- The replies that are left after the next one has been taken. -/
def rest : List Reply → List Reply
  | [] => []
  | [last] => [last]
  | _ :: second :: others => second :: others

/-- The routes with one more request on record. -/
def record (routes : Routes) (request : Request) : Routes :=
  { routes with
    requests := routes.requests.insert request.route
      ((routes.requests.find? request.route).getD [] ++ [request]) }

/-- Answer a request. -/
def answer (request : Request) (routes : Routes) : Reply × Routes :=
  match routes.replies.find? request.route with
  | some (reply :: others) =>
    (reply,
      { routes with
        replies := routes.replies.insert request.route (rest (reply :: others)) }.record request)
  | _ => (noRoute, routes.record request)

end Routes

/-- Exchanges with the rehearsed interface. -/
def exchange {σ : Type} (place : Part σ Routes) : Scaleway.Exchange σ := fun request =>
  Activity.focus place (Activity.perform fun _ routes => routes.answer request)

end Fleet.Rehearsal
