import LineTerminal.Proofs.Pending.Keeper
import LineTerminal.Proofs.Pending.Tracker
import LineTerminal.Proofs.Session.Move

/-!
# Services as paths of moves

For each operation there is one lemma: it leads along a path of moves from the moment in which it
begins to the moment in which it ends, whatever it ends in, provided that the scripts of reactions
do the same.  The operations of this module are those that call contexts back: batches, sweeps and
group events.
-/

namespace LineTerminal
namespace Session
open LineTerminal.Session.Path (Along)

/-! ### Events and quiet changes -/

@[simp] theorem World.note_nil (w : World) : w.note [] = w := by simp [World.note]

theorem World.note_note (w : World) (es fs : List Event) :
    (w.note es).note fs = w.note (es ++ fs) := by
  simp [World.note]

@[simp] theorem after_record_bind {α : Type} (e : Event) (rest : Unit → Act World α) (w : World) :
    (record e >>= rest).after w = (rest ()).after (w.note [e]) := rfl

/-- A change of what says whether a pipeline listens and sweeps is quiet. -/
theorem World.Quiet.modify
    (w : World)
    (i : Nat)
    {f : Pipeline → Pipeline}
    (same : ∀ p, (f p).core = p.core) :
    w.Quiet { w with pipelines := w.pipelines.modify i f } where
  time := rfl
  clockBroken := rfl
  groupMode := rfl
  batches := rfl
  records := rfl
  tickets := rfl
  events := rfl
  pipelines := by
    apply List.ext_getElem?
    intro j
    rw [List.getElem?_map, List.getElem?_map, List.getElem?_modify]
    cases w.pipelines[j]? with
    | none => rfl
    | some p => by_cases here : i = j <;> simp [here, same]

namespace Path
variable {d : List Duty} {w w' : World}

theorem of_quiet (quiet : w.Quiet w') : Along d w w' :=
  .single (.quiet quiet)

theorem of_note {e : Event} (plain : e.Plain) : Along d w (w.note [e]) :=
  .single (.note plain)

end Path

/-- Acts in sequence lead along a path when each part does, also when the first one fails. -/
theorem Path.bind
    {α β : Type}
    {m : Moment}
    {d d' : List Duty}
    {w : World}
    {act : Act World α}
    {rest : α → Act World β}
    (first : Path m ⟨d, act.after w⟩)
    (failed : ∀ v, Path ⟨d, v⟩ ⟨d', v⟩)
    (second : ∀ a v, Path ⟨d, v⟩ ⟨d', (rest a).after v⟩) :
    Path m ⟨d', (act >>= rest).after w⟩ := by
  unfold Act.after at first ⊢
  rw [Act.runIn_bind]
  cases done : act.runIn w with
  | mk outcome v =>
      rw [done] at first
      cases outcome with
      | ok a => exact first.trans (second a v)
      | error f => exact first.trans (failed v)

theorem follows_record {d : List Duty} {e : Event} (plain : e.Plain) :
    (record e).Follows (Along d) :=
  fun _ => Path.of_note plain

/-! ### What only looks at the state -/

theorem after_named (name : String) (w : World) : (named name).after w = w := by
  unfold named
  rw [Act.after_get_bind]
  cases lookupPair? name w.names <;> rfl

theorem after_pipeline (i : Nat) (w : World) : (pipeline i).after w = w := by
  unfold pipeline
  rw [Act.after_get_bind]
  cases w.pipelines[i]? <;> rfl

/-- The first entry is found under its key, and under another key those behind it are. -/
theorem lookupPair?_cons
    {κ α : Type}
    [DecidableEq κ]
    (key : κ)
    (entry : κ × α)
    (rest : List (κ × α)) :
    lookupPair? key (entry :: rest) =
      if entry.1 = key then some entry.2 else lookupPair? key rest := by
  unfold lookupPair?
  by_cases here : entry.1 = key <;> simp [here]

theorem runIn_named_of_some {name : String} {w : World} {i : Nat}
    (entry : lookupPair? name w.names = some i) :
    (named name).runIn w = (.ok i, w) := by
  simp [named, Act.runIn_bind, entry, Act.orFault]

theorem runIn_named_of_none {name : String} {w : World}
    (missing : lookupPair? name w.names = none) :
    (named name).runIn w = (.error (.noPipeline name), w) := by
  simp [named, Act.runIn_bind, missing, Act.orFault]

theorem runIn_pipeline_of_some {i : Nat} {w : World} {p : Pipeline}
    (found : w.pipelines[i]? = some p) :
    (pipeline i).runIn w = (.ok p, w) := by
  change (Act.orFault (.noPipeline "") w.pipelines[i]? : Act World Pipeline).runIn w = _
  rw [found]
  rfl

theorem runIn_pipeline_of_none {i : Nat} {w : World}
    (missing : w.pipelines[i]? = none) :
    (pipeline i).runIn w = (.error (.noPipeline ""), w) := by
  change (Act.orFault (.noPipeline "") w.pipelines[i]? : Act World Pipeline).runIn w = _
  rw [missing]
  rfl

/-! ### Trackers in a state -/

theorem World.setTracker_setTracker
    (w : World)
    (i : Nat)
    (t u : Tracker NextTicket Float) :
    (w.setTracker i t).setTracker i u = w.setTracker i u := by
  simp [World.setTracker, List.modify_modify_eq, Function.comp_def]

theorem World.setTracker_of_none
    {w : World}
    {i : Nat}
    (missing : w.pipelines[i]? = none)
    (t : Tracker NextTicket Float) :
    w.setTracker i t = w := by
  have beyond := List.getElem?_eq_none_iff.mp missing
  simp [World.setTracker, List.modify_eq_self beyond]

theorem trackerOf_of_some
    {w : World}
    {i : Nat}
    {p : Pipeline}
    (found : w.pipelines[i]? = some p) :
    trackerOf i w = p.tracker := by
  simp [trackerOf, found]

theorem trackerOf_setTracker
    {w : World}
    {i : Nat}
    {p : Pipeline}
    (found : w.pipelines[i]? = some p)
    (t : Tracker NextTicket Float) :
    trackerOf i (w.setTracker i t) = t := by
  simp [trackerOf, World.setTracker, found]

/-- A request that is found is one of a pipeline. -/
theorem exists_of_get?_trackerOf
    {w : World}
    {i : Nat}
    {key : GroupKey}
    {r : Request NextTicket Float}
    (live : (trackerOf i w).get? key = some r) :
    ∃ p, w.pipelines[i]? = some p ∧ p.tracker.get? key = some r := by
  cases found : w.pipelines[i]? with
  | none => simp [trackerOf, found, Tracker.get?] at live
  | some p =>
      rw [trackerOf_of_some found] at live
      exact ⟨p, rfl, live⟩

/-- Acknowledges a request that was confirmed in time. -/
def acknowledge (nested : Nested) (r : Request NextTicket Float) : Act World Unit := do
  match ← (storeRecord r.subject.id r.key).attempt with
  | .ok _ => callBack nested r.subject.ticket .success
  | .error _ =>
    log (.storeFailed r.key r.subject.id)
    callBack nested r.subject.ticket (.failure .groupInstallationFailed)

section
variable {nested : Nested}

theorem runIn_now_of_clockBroken (i : Nat) {w : World} (broken : w.clockBroken = true) :
    (keeper nested i).now.runIn w = (.error (.outage .clock), w) := by
  simp [keeper, readClock, Act.runIn_bind, broken]

theorem runIn_now_of_clockWorking (i : Nat) {w : World} (working : w.clockBroken = false) :
    (keeper nested i).now.runIn w = (.ok w.time, w) := by
  simp [keeper, readClock, Act.runIn_bind, working]

/-- A request that is put is refused when the clock cannot be read, and made otherwise. -/
theorem runIn_put (i : Nat) (key : GroupKey) (subject : NextTicket) (w : World) :
    ((keeper nested i).put key subject).runIn w =
      if w.clockBroken then (.error (.outage .clock), w)
      else (.ok ((trackerOf i w).get? key),
        w.setTracker i ((trackerOf i w).put key subject w.time)) := by
  cases broken : w.clockBroken with
  | true => exact Keeper.runIn_put_of_error (runIn_now_of_clockBroken i broken) key subject
  | false => exact Keeper.runIn_put_of_ok (runIn_now_of_clockWorking i broken) key subject

/-- A next objective is put into the tracker of its pipeline. -/
theorem runIn_discard_put
    (nested : Nested)
    {i : Nat}
    {p : Pipeline}
    {w : World}
    (found : w.pipelines[i]? = some p)
    (key : GroupKey)
    (subject : NextTicket) :
    (discard ((keeper nested i).put key subject)).runIn w =
      if w.clockBroken then (.error (.outage .clock), w)
      else (.ok ⟨⟩, w.setTracker i (p.tracker.put key subject w.time)) := by
  rw [Act.runIn_discard, runIn_put, trackerOf_of_some found]
  split <;> rfl

/-! ### Calling contexts back -/

theorem runIn_startScript (serial : Nat) (success : Bool) (w : World) :
    (startScript serial success).runIn w =
      if (serial, success) ∈ w.started then (.ok false, w)
      else (.ok true, { w with started := (serial, success) :: w.started }) := by
  unfold startScript
  rw [Act.runIn_bind]
  dsimp only [Act.runIn_get]
  split <;> rfl

theorem follows_startScript (d : List Duty) (serial : Nat) (success : Bool) :
    (startScript serial success).Follows (Along d) := by
  intro w
  rw [Act.after, runIn_startScript]
  split
  · exact .refl
  · exact Path.of_quiet ⟨rfl, rfl, rfl, rfl, rfl, rfl, rfl, rfl⟩

/-- A context is told, and then the steps are carried out that it takes. -/
theorem after_callBack (ticket : Ticket) (ending : Ending) (w : World) :
    ∃ started,
      let told : World := { w.note (ticket.told ending) with started }
      (callBack nested ticket ending).after w = told ∨ ∃ fails onSuccess onError,
        ticket.reaction = .recording fails onSuccess onError ∧
          (callBack nested ticket ending).after w =
            (nested (if ending = .success then onSuccess else onError)).after told := by
  unfold callBack Ticket.told
  cases ticket.reaction with
  | silent =>
      rw [World.note_nil]
      exact ⟨w.started, .inl rfl⟩
  | recording fails onSuccess onError =>
      -- What the context ends in does not change the state.
      have last (v : World) :
          (if fails = true then throw (.outage .context) else pure () : Act World Unit).after v =
            v := by
        cases fails <;> rfl
      have begun := runIn_startScript ticket.serial (ending = .success) (w.note [.ended ticket ending])
      rw [after_record_bind]
      by_cases again : (ticket.serial, decide (ending = .success)) ∈
          (w.note [.ended ticket ending]).started
      · rw [if_pos again] at begun
        rw [Act.after_bind_ok _ begun]
        exact ⟨w.started, .inl (last _)⟩
      · rw [if_neg again] at begun
        rw [Act.after_bind_ok _ begun]
        refine ⟨(ticket.serial, decide (ending = .success)) :: w.started,
          .inr ⟨fails, onSuccess, onError, rfl, ?_⟩⟩
        exact Act.after_bind_of_after_eq fun _ => last _

/-- The state in which a batch has been handed over. -/
def World.send (w : World) (ticket : Ticket) (b : Batch) : World :=
  { w with
    batches := w.batches ++ [{ batch := b, ticket }]
    events := w.events ++ [.batch w.batches.length b] }

/-- What the flow rule service does of its own with a batch that has been handed over. -/
def answerBatch (nested : Nested) (number : Nat) : FlowMode → Act World Unit
  | .succeed => completeBatch nested number true
  | .fail => completeBatch nested number false
  | .hold => pure ()
  | .succeedThenFail => do
    completeBatch nested number true
    completeBatch nested number false
  | .failThenSucceed => do
    completeBatch nested number false
    completeBatch nested number true
  | .refuse => throw (.outage .flowRules)

/-- A batch is noted before the service answers it. -/
theorem after_applyBatch (ticket : Ticket) (b : Batch) (w : World) :
    (applyBatch nested ticket b).after w =
      (answerBatch nested w.batches.length w.flowMode).after (w.send ticket b) := by
  unfold applyBatch
  rw [Act.after_get_bind]
  dsimp only
  rw [Act.after_set_bind, after_record_bind]
  change Act.after _ (w.send ticket b) = _
  cases w.flowMode <;> rfl

/-- The first outcome of a batch settles it. -/
theorem runIn_settleBatch? (number : Nat) (w : World) :
    (settleBatch? number).runIn w =
      match w.batches[number]? with
      | none => (.ok none, w)
      | some sent =>
        if sent.settled then (.ok none, w)
        else (.ok (some sent),
          { w with batches := w.batches.set number { sent with settled := true } }) := by
  unfold settleBatch?
  rw [Act.runIn_bind]
  simp only [Act.runIn_get]
  cases w.batches[number]? with
  | none => rfl
  | some sent =>
      dsimp only
      split
      · rfl
      · rfl

/-- The outcome of a batch is ignored if there is no batch, or if one has been passed on before. -/
theorem runIn_completeBatch_of_settled
    {w : World}
    {number : Nat}
    (settled : ∀ sent, w.batches[number]? = some sent → sent.settled = true)
    (success : Bool) :
    (completeBatch nested number success).runIn w = (.ok (), w) := by
  unfold completeBatch
  rw [Act.runIn_bind, runIn_settleBatch?]
  cases found : w.batches[number]? with
  | none => rfl
  | some sent =>
      dsimp only
      rw [if_pos (settled sent found)]
      rfl

/-- How the context of an objective is told of the outcome of its batch. -/
def outcomeOf (success : Bool) : Ending :=
  if success then .success else .failure .flowInstallationFailed

/-- What is noted of the outcome of a batch before its context is told. -/
def SentBatch.noted (sent : SentBatch) (success : Bool) : List Event :=
  if success then [] else [.logged (.batchFailed sent.batch.length)]

/-- The state in which the outcome of a batch is being passed on. -/
def World.settle (w : World) (number : Nat) (sent : SentBatch) : World :=
  { w with batches := w.batches.set number { sent with settled := true } }

/-- The first outcome of a batch is passed on. -/
theorem after_completeBatch_of_open
    {w : World}
    {number : Nat}
    {sent : SentBatch}
    (found : w.batches[number]? = some sent)
    (open_ : sent.settled = false)
    (success : Bool) :
    (completeBatch nested number success).after w =
      (callBack nested sent.ticket (outcomeOf success)).after
        ((w.settle number sent).note (sent.noted success)) := by
  have settled := runIn_settleBatch? number w
  rw [found] at settled
  simp only [open_, Bool.false_eq_true, if_false] at settled
  unfold completeBatch
  rw [Act.after_bind_ok _ settled]
  cases success with
  | true => exact congrArg (callBack nested sent.ticket .success).after (World.note_nil _).symm
  | false => rfl

/-- What is noted of the outcome of a batch is plain. -/
theorem along_noted (d : List Duty) (w : World) (sent : SentBatch) (success : Bool) :
    Along d w (w.note (sent.noted success)) := by
  cases success with
  | true =>
      rw [SentBatch.noted, if_pos rfl, World.note_nil]
      exact .refl
  | false => exact .of_note trivial

variable (within : ∀ d script, (nested script).Follows (Along d))
include within

/-- A context is told, and then its reaction is carried out. -/
theorem along_callBack
    (d : List Duty)
    (ticket : Ticket)
    (ending : Ending)
    (w : World) :
    Along d (w.note (ticket.told ending)) ((callBack nested ticket ending).after w) := by
  unfold callBack Ticket.told
  cases ticket.reaction with
  | silent =>
      rw [World.note_nil]
      exact .refl
  | recording fails onSuccess onError =>
      rw [after_record_bind]
      refine Act.Follows.bind (follows_startScript d _ _) (fun first => ?_) _
      have last : (if fails = true then throw (.outage .context) else pure () :
          Act World Unit).Follows (Along d) :=
        .ite (.throw _) (.pure _)
      exact .ite (.bind (within d _) fun _ => last) last

/-- A context is told when that is the next duty. -/
theorem path_callBack
    (d : List Duty)
    (ticket : Ticket)
    (ending : Ending)
    (w : World) :
    Path ⟨.telling ticket ending :: d, w⟩ ⟨d, (callBack nested ticket ending).after w⟩ :=
  .head .tell (along_callBack within d ticket ending w)

/-- The context of an objective is told at once. -/
theorem path_answer
    (d : List Duty)
    (ticket : Ticket)
    (ending : Ending)
    (w : World) :
    Path ⟨.holding ticket :: d, w⟩ ⟨d, (callBack nested ticket ending).after w⟩ :=
  .head (.answer ending) (path_callBack within d ticket ending w)

/-! ### Batches -/

/-- The outcome of a batch is passed on once. -/
theorem follows_completeBatch (d : List Duty) (number : Nat) (success : Bool) :
    (completeBatch nested number success).Follows (Along d) := by
  intro w
  by_cases settled : ∀ sent, w.batches[number]? = some sent → sent.settled = true
  · rw [Act.after, runIn_completeBatch_of_settled settled]
    exact .refl
  · simp only [not_forall, Bool.not_eq_true] at settled
    obtain ⟨sent, found, open_⟩ := settled
    rw [after_completeBatch_of_open found open_ success]
    refine .head (.relay (outcomeOf success) found open_) ?_
    exact (along_noted _ _ sent success).trans (path_callBack within d _ _ _)

/-- When a batch has been handed over, its outcome may come at once. -/
theorem along_applyBatch
    (d : List Duty)
    (ticket : Ticket)
    (b : Batch)
    (w : World) :
    Along d (w.send ticket b) ((applyBatch nested ticket b).after w) := by
  have complete := fun success => follows_completeBatch within d w.batches.length success
  rw [after_applyBatch]
  cases w.flowMode with
  | succeed => exact complete true _
  | fail => exact complete false _
  | hold => exact .refl
  | succeedThenFail => exact (complete true).bind (fun _ => complete false) _
  | failThenSucceed => exact (complete false).bind (fun _ => complete true) _
  | refuse => exact .refl

/-- A batch is handed over. -/
theorem path_applyBatch
    (d : List Duty)
    (ticket : Ticket)
    (b : Batch)
    (w : World) :
    Path ⟨.holding ticket :: d, w⟩ ⟨d, (applyBatch nested ticket b).after w⟩ :=
  .head (.send b) (along_applyBatch within d ticket b w)

theorem path_submitBatch
    (d : List Duty)
    (ticket : Ticket)
    (b : Batch)
    (w : World) :
    Path ⟨.holding ticket :: d, w⟩ ⟨d, (submitBatch nested ticket b).after w⟩ := by
  unfold submitBatch
  split
  · exact path_answer within d ticket .success w
  · exact path_applyBatch within d ticket b w

/-! ### Requests that expire -/

/-- A context is told that its request has expired, and a failure to hear it goes no further. -/
theorem path_announce
    (d : List Duty)
    (i : Nat)
    (r : Request NextTicket Float)
    (w : World) :
    ∃ w', ((keeper nested i).announce r).runIn w = (.ok (), w') ∧
      Path ⟨.telling r.subject.ticket (.failure .groupInstallationFailed) :: d, w⟩ ⟨d, w'⟩ := by
  have noted : Path
      ⟨.telling r.subject.ticket (.failure .groupInstallationFailed) :: d, w⟩
      ⟨.telling r.subject.ticket (.failure .groupInstallationFailed) :: d,
        w.note [.logged (.unconfirmed r.key r.subject.id (trackerOf i w).timeToLive)]⟩ :=
    Path.of_note trivial
  have told := noted.trans (path_callBack within d r.subject.ticket
    (.failure .groupInstallationFailed) _)
  have opened : ((keeper nested i).announce r).runIn w =
      ((callBack nested r.subject.ticket (.failure .groupInstallationFailed)).attempt >>=
        fun outcome => match outcome with
          | .ok _ => pure ()
          | .error _ => log (.callbackFailed r.key)).runIn
        (w.note [.logged (.unconfirmed r.key r.subject.id (trackerOf i w).timeToLive)]) := rfl
  rw [opened, Act.runIn_bind, Act.runIn_attempt]
  cases heard : (callBack nested r.subject.ticket (.failure .groupInstallationFailed)).runIn
      (w.note [.logged (.unconfirmed r.key r.subject.id (trackerOf i w).timeToLive)]) with
  | mk outcome v =>
      rw [Act.after, heard] at told ⊢
      cases outcome with
      | ok _ => exact ⟨v, rfl, told⟩
      | error _ => exact ⟨v.note [.logged (.callbackFailed r.key)], rfl, told.tail (.note trivial)⟩

/-- The contexts of several expired requests are told in turn. -/
theorem path_announceAll
    (d : List Duty)
    (i : Nat)
    (rs : List (Request NextTicket Float))
    (w : World) :
    ∃ w', ((keeper nested i).announceAll rs).runIn w = (.ok (), w') ∧
      Path
        ⟨(rs.map fun r =>
          .telling r.subject.ticket (.failure .groupInstallationFailed)) ++ d, w⟩
        ⟨d, w'⟩ := by
  induction rs generalizing w with
  | nil => exact ⟨w, rfl, .refl⟩
  | cons r rest ih =>
      obtain ⟨v, announced, first⟩ := path_announce within
        ((rest.map fun r => .telling r.subject.ticket (.failure .groupInstallationFailed)) ++ d)
        i r w
      obtain ⟨w', others, later⟩ := ih v
      refine ⟨w', ?_, first.trans later⟩
      unfold Keeper.announceAll
      rw [Act.runIn_bind, announced]
      exact others

/-- A sweep expires all requests that are due, and tells their contexts. -/
theorem follows_expire (d : List Duty) (i : Nat) :
    ((keeper nested i).expire).Follows (Along d) := by
  intro w
  cases broken : w.clockBroken with
  | true =>
      rw [Act.after, Keeper.runIn_expire_of_error (runIn_now_of_clockBroken i broken)]
      exact .refl
  | false =>
      obtain ⟨w', told, later⟩ := path_announceAll within d i ((trackerOf i w).due w.time)
        (w.setTracker i ((trackerOf i w).sweep w.time))
      have swept : ((keeper nested i).expire).after w = w' := by
        rw [Act.after, Keeper.runIn_expire_of_ok (runIn_now_of_clockWorking i broken)]
        exact Act.after_bind_ok (fun _ => pure ((trackerOf i w).due w.time)) told
      rw [swept]
      refine .trans ?_ later
      cases found : w.pipelines[i]? with
      | none =>
          rw [World.setTracker_of_none found]
          have idle : trackerOf i w = { timeToLive := 1 } := by simp [trackerOf, found]
          rw [idle]
          exact .refl
      | some p =>
          rw [trackerOf_of_some found]
          exact .single (.sweep found)

/-! ### Group events -/

omit within in
/-- How an event that finds a request begins: the request is taken out, and the clock is read. -/
theorem runIn_resolve_of_some
    {i : Nat}
    {p : Pipeline}
    {r : Request NextTicket Float}
    {w : World}
    (found : w.pipelines[i]? = some p)
    (live : p.tracker.get? r.key = some r) :
    ((keeper nested i).resolve r.key).runIn w =
      if w.clockBroken then (.error (.outage .clock), w.setTracker i (p.tracker.erase r.key))
      else if p.tracker.Due w.time r then
        ((keeper nested i).announce r >>= fun _ => pure none).runIn
          (w.setTracker i ((p.tracker.erase r.key).settle r .expired))
      else
        (.ok (some r), w.setTracker i ((p.tracker.erase r.key).settle r .resolved)) := by
  rw [← trackerOf_of_some found] at live ⊢
  let taken : World := w.setTracker i ((trackerOf i w).erase r.key)
  have erased : trackerOf i taken = (trackerOf i w).erase r.key := trackerOf_setTracker found _
  have settled (fate : Fate) :
      (keeper nested i).setTracker ((trackerOf i taken).settle r fate) taken =
        w.setTracker i (((trackerOf i w).erase r.key).settle r fate) := by
    rw [erased]
    exact World.setTracker_setTracker ..
  -- Taking a request out leaves the time to live alone, so it is judged as before.
  have judged : (trackerOf i taken).Due w.time r ↔ (trackerOf i w).Due w.time r := by
    rw [erased]
    rfl
  cases broken : w.clockBroken with
  | true => exact Keeper.runIn_resolve_of_error live (runIn_now_of_clockBroken i broken)
  | false =>
      have read : (keeper nested i).now.runIn taken = (.ok w.time, taken) :=
        runIn_now_of_clockWorking i broken
      rw [if_neg (by decide)]
      by_cases late : (trackerOf i w).Due w.time r
      · rw [if_pos late, ← settled]
        exact Keeper.runIn_resolve_of_due live read (judged.mpr late)
      · rw [if_neg late, ← settled]
        exact Keeper.runIn_resolve_of_not_due live read (mt judged.mp late)

omit within in
/-- Storing a record fails when the store takes none. -/
theorem runIn_storeRecord (id : Value) (key : GroupKey) (w : World) :
    (storeRecord id key).runIn w =
      if w.storeFails then (.error (.outage .store), w.note [.store id key true])
      else (.ok (), { w.note [.store id key false] with
        records := insertPair id (.group key) w.records }) := by
  unfold storeRecord
  rw [Act.runIn_get_bind]
  cases w.storeFails <;> rfl

omit within in
/-- What an event does that finds a request. -/
theorem runIn_hear_of_get?
    {event : GroupEvent}
    {i : Nat}
    {p : Pipeline}
    {r : Request NextTicket Float}
    {w : World}
    (confirms : event.Confirms)
    (found : w.pipelines[i]? = some p)
    (live : p.tracker.get? r.key = some r) :
    (hear nested event r.key i).runIn w =
      if w.clockBroken then (.error (.outage .clock), w.setTracker i (p.tracker.erase r.key))
      else if p.tracker.Due w.time r then
        ((keeper nested i).announce r).runIn
          (w.setTracker i ((p.tracker.erase r.key).settle r .expired))
      else
        (acknowledge nested r).runIn
          (w.setTracker i ((p.tracker.erase r.key).settle r .resolved)) := by
  unfold hear
  rw [if_pos confirms, Act.runIn_bind, runIn_resolve_of_some found live]
  cases w.clockBroken with
  | true => rfl
  | false =>
      simp only [Bool.false_eq_true, if_false]
      by_cases late : p.tracker.Due w.time r
      · rw [if_pos late, if_pos late, Act.runIn_bind]
        cases ((keeper nested i).announce r).runIn
          (w.setTracker i ((p.tracker.erase r.key).settle r .expired)) with
        | mk outcome v => cases outcome <;> rfl
      · rw [if_neg late, if_neg late]
        rfl

omit within in
/-- An event that finds no request does nothing. -/
theorem runIn_hear_of_none
    {event : GroupEvent}
    {key : GroupKey}
    {i : Nat}
    {w : World}
    (idle : event.Confirms → (trackerOf i w).get? key = none) :
    (hear nested event key i).runIn w = (.ok (), w) := by
  unfold hear
  split
  · next confirms => rw [Act.runIn_bind, Keeper.runIn_resolve_of_none (idle confirms)]; rfl
  · rfl

omit within in
/-- An event finds a live request at a pipeline, or it concerns none of its requests. -/
theorem quiet_or_live (event : GroupEvent) (key : GroupKey) (i : Nat) (w : World) :
    (event.Confirms → (trackerOf i w).get? key = none) ∨
      event.Confirms ∧ ∃ p r, w.pipelines[i]? = some p ∧ p.tracker.get? r.key = some r ∧
        r.key = key := by
  by_cases confirms : event.Confirms
  · cases live : (trackerOf i w).get? key with
    | none => exact .inl fun _ => rfl
    | some r =>
        obtain ⟨p, found, live⟩ := exists_of_get?_trackerOf live
        obtain rfl : r.key = key := (Tracker.mem_of_get? live).2
        exact .inr ⟨confirms, p, r, found, live, rfl⟩
  · exact .inl fun h => absurd h confirms

/-- A confirmed request is stored, and its context is told. -/
theorem along_acknowledge
    (d : List Duty)
    (r : Request NextTicket Float)
    (w : World) :
    Along d { w.note (confirmation w.storeFails r) with records := recordsAfter w r }
      ((acknowledge nested r).after w) := by
  have stored := runIn_storeRecord r.subject.id r.key w
  have attempted : ((storeRecord r.subject.id r.key).attempt).runIn w = _ := Act.runIn_attempt _ w
  rw [Act.after, stored] at attempted
  unfold acknowledge confirmation recordsAfter
  rw [Act.after_bind_ok _ attempted]
  cases w.storeFails with
  | true =>
      have told := along_callBack within d r.subject.ticket (.failure .groupInstallationFailed)
        ((w.note [.store r.subject.id r.key true]).note [.logged (.storeFailed r.key r.subject.id)])
      rw [World.note_note, World.note_note] at told
      exact told
  | false =>
      have told := along_callBack within d r.subject.ticket .success
        { w.note [.store r.subject.id r.key false] with
          records := insertPair r.subject.id (.group r.key) w.records }
      simp only [World.note, List.append_assoc, List.cons_append, List.nil_append] at told
      exact told

/-- An event that finds a request takes it out before anything else happens. -/
theorem path_hear_of_get?
    {d : List Duty}
    {event : GroupEvent}
    {i : Nat}
    {p : Pipeline}
    {r : Request NextTicket Float}
    {w : World}
    (reporting : .reporting event r.key ∈ d)
    (confirms : event.Confirms)
    (found : w.pipelines[i]? = some p)
    (live : p.tracker.get? r.key = some r) :
    ∃ m : Moment, ∃ t : Tracker NextTicket Float,
      Move ⟨d, w⟩ m ∧ Path m ⟨d, (hear nested event r.key i).after w⟩ ∧
      m.world.pipelines[i]? = some { p with tracker := t } ∧
      t.requests = p.tracker.requests ∧ t.live = (p.tracker.erase r.key).live := by
  have heard := @runIn_hear_of_get? nested event i p r w confirms found live
  have kept (t : Tracker NextTicket Float) := getElem?_setTracker found t
  rw [Act.after]
  cases broken : w.clockBroken with
  | true =>
      rw [heard, if_pos broken]
      exact ⟨_, _, .lose reporting confirms found broken, .refl, kept _, rfl, rfl⟩
  | false =>
      simp only [broken, Bool.false_eq_true, if_false] at heard
      by_cases late : p.tracker.Due w.time r
      · obtain ⟨w', announced, told⟩ := path_announce within d i r
          (w.setTracker i ((p.tracker.erase r.key).settle r .expired))
        rw [heard, if_pos late, announced]
        exact ⟨_, _, .lapse reporting confirms found live late, told, kept _,
          Tracker.requests_settle _ _, rfl⟩
      · rw [heard, if_neg late]
        exact ⟨_, _, .confirm reporting confirms found live late, along_acknowledge within d r _,
          kept _, Tracker.requests_settle _ _, rfl⟩

/-- An event is heard by one pipeline. -/
theorem along_hear
    {d : List Duty}
    {event : GroupEvent}
    {key : GroupKey}
    (reporting : .reporting event key ∈ d)
    (i : Nat) :
    (hear nested event key i).Follows (Along d) := by
  intro w
  rcases quiet_or_live event key i w with quiet | ⟨confirms, p, r, found, live, rfl⟩
  · rw [Act.after, runIn_hear_of_none quiet]
    exact .refl
  · obtain ⟨m, -, first, later, -⟩ := path_hear_of_get? within reporting confirms found live
    exact .head first later

theorem follows_hearAll
    {d : List Duty}
    {event : GroupEvent}
    {key : GroupKey}
    (reporting : .reporting event key ∈ d)
    (listeners : List Nat) :
    (hearAll nested event key listeners).Follows (Along d) := by
  induction listeners with
  | nil => exact .pure _
  | cons i rest ih =>
      unfold hearAll
      exact .bind (along_hear within reporting i) fun _ => ih

theorem follows_emit
    {d : List Duty}
    {event : GroupEvent}
    {key : GroupKey}
    (reporting : .reporting event key ∈ d) :
    (emit nested event key).Follows (Along d) :=
  .bind .get fun w => follows_hearAll within reporting w.listeners

end
end Session
end LineTerminal
