import Fleet.Session.Client

/-!
# Rehearsed local programs

A runner that hands out prepared outputs in order and keeps every call. When no output is left a
call fails as if the program could not be started.
-/

namespace Fleet.Rehearsal

/-- The prepared outputs and the calls made so far. -/
structure Programs where
  outputs : List ProcessOutput := []
  invocations : List Invocation := []
  deriving DecidableEq, Repr

/-- Answer a call with the next output. -/
def Programs.call (invocation : Invocation) (programs : Programs) :
    Except SessionError ProcessOutput × Programs :=
  let kept := programs.invocations ++ [invocation]
  match programs.outputs with
  | [] =>
    (.error (.spawn invocation.program "no scripted response available"),
      { programs with invocations := kept })
  | output :: rest => (.ok output, { outputs := rest, invocations := kept })

/-- The runner over the prepared outputs. -/
def runner {σ : Type} (place : Part σ Programs) : Runner σ := fun invocation =>
  Activity.focus place (Activity.perform fun _ programs => programs.call invocation)

end Fleet.Rehearsal
