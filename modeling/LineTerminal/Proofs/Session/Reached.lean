import LineTerminal.Proofs.Session.Traversal.Steps

/-!
# Reached states

The states between the steps of a session, for all sessions at once: any steps can follow one
another, with reactions up to any depth.  A session can be restricted to steps of a kind.  The moments
that a session visits are those between its steps and those in the middle of a step, in a reaction
as well.
-/

namespace LineTerminal
namespace Session

/-- The steps that are carried out in a step of the session: itself, and those of reactions. -/
def stepsOf (step : Step) (events : List Event) : List Step :=
  step :: events.filterMap fun
    | .stepped s _ => some s
    | _ => none

/-- The states that a session gets to by steps that are allowed. -/
inductive Reached (allowed : Step → Prop) : World → Prop
  /-- A session starts without anything, with threads or without. -/
  | start (threaded : Bool) : Reached allowed { threaded }
  /-- A step is carried out with all steps of reactions within it. -/
  | step {w : World} (reached : Reached allowed w) (depth : Nat) (step : Step)
      (only : ∀ s ∈ stepsOf step (runStep depth step w).events, allowed s) :
      Reached allowed (runStep depth step w).after

theorem mem_stepsOf {step s : Step} {events : List Event} :
    s ∈ stepsOf step events ↔ s = step ∨ ∃ answer, .stepped s answer ∈ events := by
  unfold stepsOf
  rw [List.mem_cons, List.mem_filterMap]
  refine or_congr_right ?_
  constructor
  · rintro ⟨e, member, found⟩
    cases e <;> simp at found
    next answer =>
    subst found
    exact ⟨answer, member⟩
  · rintro ⟨answer, member⟩
    exact ⟨_, member, rfl⟩

/-- All states of a run are reached, if the run has only steps that are allowed. -/
theorem Reached.runSteps
    {allowed : Step → Prop}
    {w : World}
    (reached : Reached allowed w)
    (depth : Nat)
    (steps : List Step)
    (only : ∀ step o, (step, o) ∈ steps.zip (runSteps depth steps w) →
      ∀ s ∈ stepsOf step o.events, allowed s) :
    ∀ o ∈ Session.runSteps depth steps w, Reached allowed o.after := by
  induction steps generalizing w with
  | nil => simp [Session.runSteps]
  | cons step rest ih =>
      have first := reached.step depth step (only step _ List.mem_cons_self)
      intro o member
      rcases List.mem_cons.mp member with rfl | later
      · exact first
      · exact ih first (fun step o pair => only step o (List.mem_cons_of_mem _ pair)) o later

/-! ### Visited moments -/

/-- What leads from a moment of a session to the next. -/
inductive Turn : Moment → Moment → Prop
  /-- A move is made. -/
  | move {m m' : Moment} (move : Move m m') : Turn m m'
  /-- A step of the session itself ends, of which no event tells. -/
  | leave {w : World} {step : Step} : Turn ⟨[.doing step], w⟩ ⟨[], w⟩

/-- The moments that a session gets to. -/
def Visited (m : Moment) : Prop := Relation.ReflTransGen Turn ⟨[], {}⟩ m

theorem Visited.path
    {m m' : Moment}
    (visited : Visited m)
    (path : Path m m') :
    Visited m' := by
  induction path with
  | refl => exact visited
  | tail _ move ih => exact .tail ih (.move move)

/-- The states between the steps of a session are visited. -/
theorem Reached.visited
    {allowed : Step → Prop}
    {w : World}
    (reached : Reached allowed w) :
    Visited ⟨[], w⟩ := by
  induction reached with
  | start threaded => exact .path .refl (.of_quiet ⟨rfl, rfl, rfl, rfl, rfl, rfl, rfl, rfl⟩)
  | step _ depth step _ ih =>
      have begun : Visited ⟨[.doing step], _⟩ := .tail ih (.move (.begin step))
      exact .tail (begun.path (path_runStep depth step _)) .leave

end Session
end LineTerminal
