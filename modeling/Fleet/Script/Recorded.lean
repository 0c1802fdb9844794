import Fleet.Script.Run

/-!
# Sessions with a record of their calls

The result of a run does not say what was done on its sessions. A recording transport does what the
transport under it does, and keeps a record beside the state of the world: every call as it is made,
and every answer as it comes. A session is made without an action on the world, so its creation
enters the record together with the first call on it.
-/

namespace Fleet

variable {σ S α : Type}

/-- Something that happens on a session. -/
inductive SessionEvent where
  | created (endpoint : Endpoint) (login : Credentials)
  | connecting
  | connected (answer : Except SessionError Unit)
  | executing (command : String)
  | executed (answer : Except SessionError Response)
  | disconnecting

/-- What happened on sessions so far. -/
abbrev SessionRecord := List SessionEvent

/-- A session with what happened on it and is not on record yet. -/
structure Tracked (S : Type) where
  session : S
  unrecorded : SessionRecord := []

namespace SessionRecord

/-- Put events on record. -/
def note (events : SessionRecord) : Activity (σ × SessionRecord) Unit :=
  Activity.modify fun whole => (whole.1, whole.2 ++ events)

/-- A call on a session between what is noted before it and what is noted of its answer. -/
def around
    (before : SessionRecord)
    (call : Activity σ (α × S))
    (after : α → SessionRecord) :
    Activity (σ × SessionRecord) (α × Tracked S) := do
  note before
  let (answer, session) ← call.focus (Part.first σ SessionRecord)
  note (after answer)
  pure (answer, { session := session })

end SessionRecord

/-- The transport with a record of its calls. -/
def Transport.recording (transport : Transport σ S) :
    Transport (σ × SessionRecord) (Tracked S) where
  create endpoint login :=
    { session := transport.create endpoint login, unrecorded := [.created endpoint login] }
  connect tracked :=
    SessionRecord.around (tracked.unrecorded ++ [.connecting])
      (transport.connect tracked.session) fun answer => [.connected answer]
  execute tracked command :=
    SessionRecord.around (tracked.unrecorded ++ [.executing command])
      (transport.execute tracked.session command) fun answer => [.executed answer]
  disconnect tracked := do
    SessionRecord.note (tracked.unrecorded ++ [.disconnecting])
    let session ← (transport.disconnect tracked.session).focus (Part.first σ SessionRecord)
    pure { session := session }

/-- The executor with a record of what it does on sessions. -/
def Executor.recording (executor : Executor σ S) :
    Executor (σ × SessionRecord) (Tracked S) where
  transport := executor.transport.recording
  probe endpoint := (executor.probe endpoint).focus (Part.first σ SessionRecord)
  freshToken := executor.freshToken.focus (Part.first σ SessionRecord)

end Fleet
