import Mathlib.Data.List.Induction

/-! Runs of calls that may be refused. A refused call leaves a state like any other, and the run
goes on from there. -/

namespace Descent

variable {S A E : Type} (call : S → A → S × Except E Unit)

def stateAfter (state : S) (calls : List A) : S :=
  calls.foldl (fun state argument => (call state argument).1) state

/-- The calls among these that are not refused. -/
def acceptedCalls (state : S) : List A → List A
  | [] => []
  | argument :: rest =>
    let rest := acceptedCalls (call state argument).1 rest
    if (call state argument).2.isOk then argument :: rest else rest

variable {call} {state : S}

private theorem stateAfter_concat (calls : List A) (argument : A) :
    stateAfter call state (calls ++ [argument]) =
      (call (stateAfter call state calls) argument).1 := by
  rw [stateAfter, List.foldl_append]
  rfl

/-- The last of some calls is made after the other ones. -/
theorem acceptedCalls_concat (calls : List A) (argument : A) :
    acceptedCalls call state (calls ++ [argument]) =
      if (call (stateAfter call state calls) argument).2.isOk then
        acceptedCalls call state calls ++ [argument]
      else acceptedCalls call state calls := by
  induction calls generalizing state with
  | nil => rfl
  | cons first rest ih =>
    rw [List.cons_append, acceptedCalls, acceptedCalls, ih, stateAfter, stateAfter, List.foldl_cons]
    split <;> split <;> rfl

/-- What each call keeps, whether it is refused or not, is kept by a run. -/
theorem stateAfter_keeps {kept : S → List A → Prop} (first : kept state [])
    (keeps : ∀ state taken argument, kept state taken →
      kept (call state argument).1
        (if (call state argument).2.isOk then taken ++ [argument] else taken))
    (calls : List A) : kept (stateAfter call state calls) (acceptedCalls call state calls) := by
  induction calls using List.reverseRecOn with
  | nil => exact first
  | append_singleton calls argument ih =>
    rw [stateAfter_concat, acceptedCalls_concat]
    exact keeps _ _ argument ih

end Descent
