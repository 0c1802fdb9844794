import Fleet.Document.Service
import Fleet.Rehearsal.Provider
import Fleet.Rehearsal.World

/-!
# Documents of rehearsals

The arrangements of a rehearsed network and of a rehearsed provider, and the record of what sessions
did, by endpoint.
-/

namespace Fleet.Rehearsal

/-- The address that a document writes. -/
def addressOf (text : String) : Address :=
  (Address.ofText? text).getD (.v4 0 0 0 0)

/-- The endpoint that a text writes. -/
def endpointOf (text : String) : Endpoint :=
  (Endpoint.ofText? text).getD { address := .v4 0 0 0 0, port := 0 }

/-- A rule for answering commands, from a document. -/
def ruleOf (json : Json) : String × Response :=
  (json.textAt "needle" "", Response.ofJson json)

/-- The network of two documents, about ports and about sessions. -/
def Network.ofJson (ports sessions : Json) : Network :=
  { opensAfter := ports.natAt "opens_after" 0
    closed := (ports.itemsAt "closed").map fun json => addressOf json.asText
    rules := (sessions.itemsAt "rules").map ruleOf
    unreachable := (sessions.itemsAt "unreachable").map fun json => addressOf json.asText }

/-- The document of an event. -/
def Event.toJson : Event → Json
  | connect _ account accepted => .list [.text "connect", .text account, .bool accepted]
  | execute _ command => .list [.text "exec", .text command]
  | disconnect _ => .list [.text "disconnect"]

/-- Events in order, by the text of their endpoint. -/
def Event.byEndpoint (events : List Event) : Table (List Event) :=
  events.foldl
    (fun table event =>
      let key := event.endpoint.toText
      table.insert key ((table.find? key).getD [] ++ [event]))
    Table.empty

/-- The document of what sessions did. -/
def Network.eventsToJson (network : Network) : Json :=
  .object ((Event.byEndpoint network.events).entries.map fun (key, events) =>
    (key, .list (events.map Event.toJson)))

/-- A prepared answer from a document. -/
def Prepared.ofJson {α : Type} (decode : Json → α) (json : Json) : Prepared α :=
  let delay := Duration.ofMilliseconds (json.natAt "delay" 0)
  if json.boolAt "hang" false then
    .silence
  else
    match json.textAt? "fail" with
    | some kind =>
      .answer delay (.error
        { kind := FailureKind.ofName kind, message := json.textAt "message" "scripted" })
    | none => .answer delay (.ok (decode ((json.field? "ok").getD .null)))

/-- The queue in a field. -/
def queueAt
    {α : Type}
    (json : Json)
    (name : String)
    (decode : Json → α) :
    Queue α :=
  (json.itemsAt name).map (Prepared.ofJson decode)

/-- The queues in a field, by node. -/
def queuesAt
    {α : Type}
    (json : Json)
    (name : String)
    (decode : Json → α) :
    Table (Queue α) :=
  Table.ofList ((json.valueAt name).asFields.map fun (id, queue) =>
    (id, queue.asList.map (Prepared.ofJson decode)))

/-- The scenario of a document. -/
def Scenario.ofJson (json : Json) : Scenario :=
  { loginAccount := json.textAt? "login"
    create := queueAt json "create" Node.ofJson
    list := queueAt json "list" fun items => items.asList.map Node.ofJson
    images := queueAt json "images" fun items => items.asList.map Image.ofJson
    sizes := queueAt json "sizes" fun items => items.asList.map Size.ofJson
    locations := queueAt json "locations" fun items => items.asList.map Location.ofJson
    get := queuesAt json "get" Node.ofJson
    reboot := queuesAt json "reboot" fun _ => ()
    destroy := queuesAt json "destroy" fun _ => () }

/-- The document of how often each queue was asked. -/
def Scenario.callsToJson (scenario : Scenario) : Json :=
  .object (scenario.calls.entries.map fun (name, count) => (name, Json.ofNat count))

end Fleet.Rehearsal
