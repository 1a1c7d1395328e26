import LineTerminal.Proofs.Act
import LineTerminal.Session.Run
import Mathlib.Logic.Relation

/-!
# Moves of a session

A callback may start any step again while other steps are under way.  So a session is looked at
moment by moment: a moment is the state together with the duties, which say what has been begun and
is still to be ended.  A move leads from a moment to the next.  It is small enough that nothing is
called back in the middle of it, and large enough that its parts belong together.
-/

namespace LineTerminal
namespace Session

/-- What has been begun and is still to be ended. -/
inductive Duty where
  /-- A step is being carried out. -/
  | doing (step : Step)
  /-- A next objective has been noted with this event, and is being dealt with. -/
  | requesting (e : Event)
  /-- The group service is reporting an event. -/
  | reporting (event : GroupEvent) (key : GroupKey)
  /-- An objective has got a ticket and has not been handed on yet. -/
  | holding (ticket : Ticket)
  /-- The context of an objective has to be told how it ended. -/
  | telling (ticket : Ticket) (ending : Ending)

/-- A moment of a session. -/
structure Moment where
  /-- What is still to be ended, the latest first. -/
  duties : List Duty
  /-- The state. -/
  world : World

/-! ### Parts of a state -/

/-- A pipeline without what says whether it listens and sweeps. -/
def Pipeline.core (p : Pipeline) : Pipeline :=
  { p with listening := false, sweeping := false, stopping := false, launches := 0 }

/-- Adds events to a state. -/
def World.note (w : World) (es : List Event) : World := { w with events := w.events ++ es }

/-- Replaces the tracker of a pipeline. -/
def World.setTracker (w : World) (i : Nat) (t : Tracker NextTicket Float) : World :=
  { w with pipelines := w.pipelines.modify i fun p => { p with tracker := t } }

theorem getElem?_setTracker
    {w : World}
    {i : Nat}
    {p : Pipeline}
    (found : w.pipelines[i]? = some p)
    (t : Tracker NextTicket Float) :
    (w.setTracker i t).pipelines[i]? = some { p with tracker := t } := by
  simp [World.setTracker, found]

/-- A change that concerns neither the clock, objectives and events, nor the answers to requests. -/
structure World.Quiet (w w' : World) : Prop where
  time : w'.time = w.time
  clockBroken : w'.clockBroken = w.clockBroken
  groupMode : w'.groupMode = w.groupMode
  batches : w'.batches = w.batches
  records : w'.records = w.records
  tickets : w'.tickets = w.tickets
  events : w'.events = w.events
  pipelines : w'.pipelines.map Pipeline.core = w.pipelines.map Pipeline.core

/-- What is noted when the context of an objective is told how it ended. -/
def Ticket.told (t : Ticket) (e : Ending) : List Event :=
  match t.reaction with
  | .silent => []
  | .recording _ _ _ => [.ended t e]

/-- The notices and pauses that say nothing about a next objective that was accepted. -/
def Event.Plain : Event → Prop
  | .waited _ => True
  | .logged .unknownOperation => False
  | .logged _ => True
  | _ => False

/--
The events that a pipeline notes when it accepts a next objective: a request, or that the operation
is unknown.
-/
def Event.Accepts (device : String) (key : GroupKey) (e : Event) : Prop :=
  (∃ request buckets app, e = .group request device key buckets app) ∨
    e = .logged .unknownOperation

/-- The key that a step names, as the pipelines stand. -/
def KeyRef.Names (w : World) : KeyRef → GroupKey → Prop
  | .key k, named => k = named
  | .ofId _ id, named => ∃ p ∈ w.pipelines, p.keySpace.keyFor? id = some named

/-- How a confirmed request is answered: the record is stored, and the context is told. -/
def confirmation (fails : Bool) (r : Request NextTicket Float) : List Event :=
  .store r.subject.id r.key fails ::
    if fails then
      .logged (.storeFailed r.key r.subject.id) ::
        r.subject.ticket.told (.failure .groupInstallationFailed)
    else
      r.subject.ticket.told .success

/-- The records after a confirmed request is stored. -/
def recordsAfter (w : World) (r : Request NextTicket Float) : List (Value × StoredRecord) :=
  if w.storeFails then w.records else insertPair r.subject.id (.group r.key) w.records

/-! ### Moves -/

/-- What can happen next in a session. -/
inductive Move : Moment → Moment → Prop
  /-- A change of the groups, the registry, or what listens and sweeps. -/
  | quiet {d : List Duty} {w w' : World} (quiet : w.Quiet w') : Move ⟨d, w⟩ ⟨d, w'⟩
  /-- A plain event is noted. -/
  | note {d : List Duty} {w : World} {e : Event} (plain : e.Plain) :
      Move ⟨d, w⟩ ⟨d, w.note [e]⟩
  /-- A pipeline is built. -/
  | build {d : List Duty} {w : World} (device : String) (settings : Settings) :
      Move ⟨d, w⟩ ⟨d, { w with pipelines := w.pipelines ++ [{ device, settings }] }⟩
  /-- A step begins. -/
  | begin {d : List Duty} {w : World} (step : Step) : Move ⟨d, w⟩ ⟨.doing step :: d, w⟩
  /-- A step ends. -/
  | finish {d : List Duty} {w : World} {step : Step} (answer : Except Fault Answer) :
      Move ⟨.doing step :: d, w⟩ ⟨d, w.note [.stepped step answer]⟩
  /-- A step sets the clock forward. -/
  | advance {d : List Duty} {w : World} {seconds : Float} (asked : .doing (.advance seconds) ∈ d) :
      Move ⟨d, w⟩ ⟨d, { w with time := w.time + seconds }⟩
  /-- A step breaks or mends the clock. -/
  | clock {d : List Duty} {w : World} {broken : Bool} (asked : .doing (.clock broken) ∈ d) :
      Move ⟨d, w⟩ ⟨d, { w with clockBroken := broken }⟩
  /-- A step sets how the services behave. -/
  | mode {d : List Duty} {w : World} {flow : Option FlowMode} {groups : Option GroupMode}
      {storeFails : Option Bool} (asked : .doing (.mode flow groups storeFails) ∈ d) :
      Move ⟨d, w⟩
        ⟨d, { w with
          flowMode := flow.getD w.flowMode
          groupMode := groups.getD w.groupMode
          storeFails := storeFails.getD w.storeFails }⟩
  /-- A step stores a record. -/
  | putRecord {d : List Duty} {w : World} {id : Value} {ref : RecordRef} {stored : StoredRecord}
      (asked : .doing (.putRecord id ref) ∈ d) :
      Move ⟨d, w⟩ ⟨d, { w with records := insertPair id stored w.records }⟩
  /-- An objective gets a ticket. -/
  | issue {d : List Duty} {w : World} (tag : String) (reaction : Reaction) :
      Move ⟨d, w⟩ ⟨.holding ⟨w.tickets, tag, reaction⟩ :: d, { w with tickets := w.tickets + 1 }⟩
  /-- An objective is given up. -/
  | abandon {d : List Duty} {w : World} {t : Ticket} : Move ⟨.holding t :: d, w⟩ ⟨d, w⟩
  /-- An objective ends without a request to a service. -/
  | answer {d : List Duty} {w : World} {t : Ticket} (e : Ending) :
      Move ⟨.holding t :: d, w⟩ ⟨.telling t e :: d, w⟩
  /-- A batch is handed to the flow rule service. -/
  | send {d : List Duty} {w : World} {t : Ticket} (b : Batch) :
      Move ⟨.holding t :: d, w⟩
        ⟨d, { w with
          batches := w.batches ++ [{ batch := b, ticket := t }]
          events := w.events ++ [.batch w.batches.length b] }⟩
  /-- The first outcome of a batch is passed on. -/
  | relay {d : List Duty} {w : World} {number : Nat} {sent : SentBatch} (e : Ending)
      (found : w.batches[number]? = some sent) (open_ : sent.settled = false) :
      Move ⟨d, w⟩
        ⟨.telling sent.ticket e :: d,
          { w with batches := w.batches.set number { sent with settled := true } }⟩
  /-- The context of an objective is told how it ended. -/
  | tell {d : List Duty} {w : World} {t : Ticket} {e : Ending} :
      Move ⟨.telling t e :: d, w⟩ ⟨d, w.note (t.told e)⟩
  /-- A next objective is accepted. -/
  | enter {d : List Duty} {w : World} {t : Ticket} {i : Nat} {p : Pipeline} {id : Value}
      {key : GroupKey} {e : Event}
      (found : w.pipelines[i]? = some p) (named : p.keySpace.keyFor? id = some key)
      (accepts : e.Accepts p.device key) :
      Move ⟨.holding t :: d, w⟩
        ⟨.requesting e :: d,
          (w.setTracker i (p.tracker.put key { ticket := t, id } w.time)).note [e]⟩
  /-- A next objective has been dealt with. -/
  | dealt {d : List Duty} {w : World} {e : Event} : Move ⟨.requesting e :: d, w⟩ ⟨d, w⟩
  /-- The group service begins to report an event, on its own account or in answer to a request. -/
  | report {d : List Duty} {w : World} {event : GroupEvent} {key : GroupKey}
      (cause :
        (∃ device ref, .doing (.emit event device ref) ∈ d ∧ ref.Names w key) ∨
        (event = .added ∧ w.groupMode = .sync ∧
          ∃ device buckets app, .requesting (.group .add device key buckets app) ∈ d)) :
      Move ⟨d, w⟩ ⟨.reporting event key :: d, w⟩
  /-- An event has been reported. -/
  | reported {d : List Duty} {w : World} {event : GroupEvent} {key : GroupKey} :
      Move ⟨.reporting event key :: d, w⟩ ⟨d, w⟩
  /-- An event confirms a request in time.  The record is stored and the context is told. -/
  | confirm {d : List Duty} {w : World} {event : GroupEvent} {i : Nat} {p : Pipeline}
      {r : Request NextTicket Float}
      (reported : .reporting event r.key ∈ d) (confirms : event.Confirms)
      (found : w.pipelines[i]? = some p) (live : p.tracker.get? r.key = some r)
      (early : ¬p.tracker.Due w.time r) :
      Move ⟨d, w⟩
        ⟨d, { (w.setTracker i ((p.tracker.erase r.key).settle r .resolved)).note
                (confirmation w.storeFails r) with records := recordsAfter w r }⟩
  /-- An event comes too late for a request, which expires. -/
  | lapse {d : List Duty} {w : World} {event : GroupEvent} {i : Nat} {p : Pipeline}
      {r : Request NextTicket Float}
      (reported : .reporting event r.key ∈ d) (confirms : event.Confirms)
      (found : w.pipelines[i]? = some p) (live : p.tracker.get? r.key = some r)
      (late : p.tracker.Due w.time r) :
      Move ⟨d, w⟩
        ⟨.telling r.subject.ticket (.failure .groupInstallationFailed) :: d,
          w.setTracker i ((p.tracker.erase r.key).settle r .expired)⟩
  /-- An event finds a request, and the clock cannot be read.  The request is out of reach. -/
  | lose {d : List Duty} {w : World} {event : GroupEvent} {i : Nat} {p : Pipeline} {key : GroupKey}
      (reported : .reporting event key ∈ d) (confirms : event.Confirms)
      (found : w.pipelines[i]? = some p) (broken : w.clockBroken = true) :
      Move ⟨d, w⟩ ⟨d, w.setTracker i (p.tracker.erase key)⟩
  /-- A pipeline is swept. -/
  | sweep {d : List Duty} {w : World} {i : Nat} {p : Pipeline}
      (found : w.pipelines[i]? = some p) :
      Move ⟨d, w⟩
        ⟨((p.tracker.due w.time).map fun r =>
            .telling r.subject.ticket (.failure .groupInstallationFailed)) ++ d,
          w.setTracker i (p.tracker.sweep w.time)⟩

/-- What can happen in a session, move by move. -/
abbrev Path : Moment → Moment → Prop := Relation.ReflTransGen Move

namespace Path

/-- The states that a session can get to while some duties stand, as they stood before. -/
def Along (d : List Duty) (w w' : World) : Prop := Path ⟨d, w⟩ ⟨d, w'⟩

instance (d : List Duty) : Std.Refl (Along d) := ⟨fun _ => .refl⟩

instance (d : List Duty) : IsTrans World (Along d) :=
  ⟨fun _ _ _ first second => Relation.ReflTransGen.trans first second⟩

end Path
end Session
end LineTerminal
