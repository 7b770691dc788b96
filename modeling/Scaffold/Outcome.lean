/-
# What a step did to a text

Every step that edits a file answers with the new content and says whether it
changed anything.  Steps are chained; the flag stays set once it is set.
-/
import Scaffold.Text.Basic

namespace Scaffold

/-- Content after a step, and whether the step changed it. -/
structure Outcome where
  content : Text
  changed : Bool
deriving DecidableEq, Repr

namespace Outcome

def same (content : Text) : Outcome := ⟨content, false⟩

def edited (content : Text) : Outcome := ⟨content, true⟩

/-- Goes on with another step on the content reached. -/
def andThen (o : Outcome) (step : Text → Outcome) : Outcome :=
  let next := step o.content
  ⟨next.content, o.changed || next.changed⟩

@[simp]
theorem same_andThen (content : Text) (step : Text → Outcome) :
    (same content).andThen step = step content := by
  simp [same, andThen]

@[simp]
theorem content_andThen (o : Outcome) (step : Text → Outcome) :
    (o.andThen step).content = (step o.content).content := rfl

end Outcome

end Scaffold
