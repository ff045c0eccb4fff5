import ManagedCluster.Provider

/-! # A provider that follows a script

Programs can be rehearsed without a provider. The answers come from a script; a request that the
script says nothing about gets the answer of a provider that is willing but slow. The clock moves by
sleeping only.
-/

namespace ManagedCluster

/-- The answers to come, by the kind of request. -/
structure Script where
  createCluster : List (Except ApiError Operation) := []
  patchCluster : List (Except ApiError Operation) := []
  getCluster : List (Except ApiError Report) := []
  deleteCluster : List (Except ApiError Operation) := []
  getOperation : List (Except ApiError Operation) := []
  listObjects : List (Except ApiError (List String)) := []
  deleteObject : List (Except ApiError Unit) := []
  deleteBucket : List (Except ApiError Unit) := []

/-- The state of a rehearsal. -/
structure Rehearsal where
  script : Script := {}
  /-- How often an operation was looked at since the script was set. -/
  looks : Nat := 0
  /-- What the clock shows, in nanoseconds. -/
  time : Nat := 0
  /-- The last cluster whose creation was accepted. -/
  created : Option Report := none

namespace Rehearsal

/-- After this many looks at operations all further ones fail. -/
def maxLooks : Nat := 500

/-- The answer to a look beyond the limit. -/
def lookRefused : ApiError := .rejected (-1) "poll limit"

/-- The operation that an accepted request starts. -/
def started : Operation := { name := "op" }

def follow (state : Rehearsal) (script : Script) : Rehearsal :=
  { state with script := script, looks := 0 }

/-- The next scripted answer, or else the given one, and the answers after it. -/
def next {α : Type} (answers : List α) (otherwise : α) : α × List α :=
  (answers.headD otherwise, answers.tail)

def answer (request : Request) (state : Rehearsal) : request.Answer × Rehearsal :=
  let script := state.script
  match request with
  | .createCluster _ _ cluster =>
    let (answer, rest) := next script.createCluster (.ok started)
    (answer, { state with
      script := { script with createCluster := rest }
      created := if answer.isOk then some cluster else state.created })
  | .patchCluster _ _ _ =>
    let (answer, rest) := next script.patchCluster (.ok started)
    (answer, { state with script := { script with patchCluster := rest } })
  | .getCluster target =>
    let otherwise := match state.created with
      | some cluster => .ok cluster
      | none => .error (.notFound target.text)
    let (answer, rest) := next script.getCluster otherwise
    (answer, { state with script := { script with getCluster := rest } })
  | .deleteCluster _ =>
    let (answer, rest) := next script.deleteCluster (.ok started)
    (answer, { state with script := { script with deleteCluster := rest } })
  | .getOperation name =>
    let (answer, rest) := next script.getOperation (.ok { name := name })
    (if state.looks < maxLooks then answer else .error lookRefused,
      { state with script := { script with getOperation := rest }, looks := state.looks + 1 })
  | .listObjects bucket =>
    let (answer, rest) := next script.listObjects (.error (.notFound bucket))
    (answer, { state with script := { script with listObjects := rest } })
  | .deleteObject _ _ =>
    let (answer, rest) := next script.deleteObject (.ok ())
    (answer, { state with script := { script with deleteObject := rest } })
  | .deleteBucket _ =>
    let (answer, rest) := next script.deleteBucket (.ok ())
    (answer, { state with script := { script with deleteBucket := rest } })

def world : World Request Request.Answer Rehearsal where
  answer := answer
  readClock state := (state.time, state)
  sleep duration state := { state with time := state.time + duration.nanos }

/-- A wait during a rehearsal is never cut off with this patience. -/
def patience : Nat := maxLooks + 1

end Rehearsal

end ManagedCluster
