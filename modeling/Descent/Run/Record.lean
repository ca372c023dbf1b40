import Descent.Run.Basic
/-!
Recording what an observer sees, as a list of events.
-/

namespace Descent

/-- A call of an observer. Productions that end come with their ticket. -/
inductive Event where
  | start (name : String) (position : Nat)
  | token (kind : TokenKind) (first stop : Nat)
  | finish (name : String) (ticket : Ticket) (position : Nat) (values : List Value)
  | backtrack (name : String) (ticket : Ticket)
  | cancel (name : String) (ticket : Ticket) (position : Nat)
  | error (name : String) (error : ParseError)

structure Recording where
  /-- How many productions have started. -/
  started : Nat
  events : Array Event

namespace Recording

def empty : Recording := ⟨0, #[]⟩

def add (recording : Recording) (event : Event) : Recording :=
  { recording with events := recording.events.push event }

/-- The observer that records everything. Its tickets count the productions that started. Without
`distinguishCancel`, a production that failed is recorded as if it had declined. -/
def observer (distinguishCancel : Bool) : Observer Recording where
  start profile position recording :=
    let started := recording.started + 1
    (⟨position, started⟩, { recording with started }.add (.start profile.name position))
  token kind first stop recording := recording.add (.token kind first stop)
  finish profile ticket values position recording :=
    (.nothing, recording.add (.finish profile.name ticket position values))
  backtrack profile ticket recording := recording.add (.backtrack profile.name ticket)
  cancel profile ticket position recording :=
    recording.add <|
      if distinguishCancel then .cancel profile.name ticket position
      else .backtrack profile.name ticket
  error profile error recording := recording.add (.error profile.name error)
  sink _ := .list

end Recording
end Descent
