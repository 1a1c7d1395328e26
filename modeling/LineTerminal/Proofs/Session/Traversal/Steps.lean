import LineTerminal.Proofs.Session.Traversal.Services

/-!
# Steps as paths of moves

What is proved of moves holds of whole steps.  Objectives, the life of a pipeline and the other
steps lead along paths, and so do the scripts of reactions, whose depth is unbounded.
-/

namespace LineTerminal
namespace Session
open LineTerminal.Session.Path (Along)

/-! ### What only looks at the state -/

/-- A key reference is looked up without a change, and names the key that is found. -/
theorem runIn_keyOf (ref : KeyRef) (w : World) :
    (∃ key, (keyOf ref).runIn w = (.ok key, w) ∧ ref.Names w key) ∨
      ∃ f, (keyOf ref).runIn w = (.error f, w) := by
  cases ref with
  | key k => exact .inl ⟨k, rfl, rfl⟩
  | ofId name id =>
      unfold keyOf
      cases entry : lookupPair? name w.names with
      | none =>
          rw [Act.runIn_bind, runIn_named_of_none entry]
          exact .inr ⟨_, rfl⟩
      | some i =>
          rw [Act.runIn_bind_ok _ (runIn_named_of_some entry)]
          cases found : w.pipelines[i]? with
          | none =>
              rw [Act.runIn_bind, runIn_pipeline_of_none found]
              exact .inr ⟨_, rfl⟩
          | some p =>
              rw [Act.runIn_bind_ok _ (runIn_pipeline_of_some found)]
              cases key : p.keySpace.keyFor? id with
              | none => exact .inr ⟨_, rfl⟩
              | some k => exact .inl ⟨k, rfl, p, List.mem_of_getElem? found, key⟩

section
variable {R : World → World → Prop} [Std.Refl R]

theorem follows_named (name : String) : (named name).Follows R :=
  .of_after_eq (after_named name)

theorem follows_pipeline (i : Nat) : (pipeline i).Follows R :=
  .of_after_eq (after_pipeline i)

theorem follows_awaitSweeper (i : Nat) (p : Pipeline) : (awaitSweeper i p).Follows R := by
  refine .of_after_eq fun w => ?_
  unfold awaitSweeper
  rw [Act.after_get_bind]
  split <;> rfl

theorem follows_keyOf (ref : KeyRef) : (keyOf ref).Follows R := by
  refine .of_after_eq fun w => ?_
  rcases runIn_keyOf ref w with ⟨key, found, -⟩ | ⟨f, failed⟩
  · rw [Act.after, found]
  · rw [Act.after, failed]

theorem follows_settingsOf (draft : Draft) : (settingsOf draft).Follows R := by
  unfold settingsOf
  cases draft.check with
  | ok s => exact .pure s
  | error e => exact .throw _

theorem follows_dataOf (stored : StoredRecord) : (dataOf stored).Follows R :=
  .orFault _ _

theorem follows_mappings
    [IsTrans World R]
    (p : Pipeline)
    (stored : StoredRecord) :
    (mappings p stored).Follows R := by
  refine .bind (follows_dataOf stored) fun data => ?_
  cases GroupRecord.decode (data.getD []) with
  | error e => exact .throw _
  | ok key =>
      refine .bind (.bind .get fun w => .pure _) fun group => ?_
      cases group with
      | none => exact .pure _
      | some group =>
          refine Act.Follows.mapM (fun bucket => ?_) group.buckets
          refine .bind ?_ fun id => .pure _
          cases hexId group.id with
          | ok text => exact .pure text
          | error f => exact .throw f

end

section
variable {nested : Nested}
variable (within : ∀ d script, (nested script).Follows (Along d))
include within

/-! ### Objectives -/

/-- What follows the note of a request at the group service. -/
theorem along_requestGroup
    {d : List Duty}
    {request : GroupRequest}
    {device : String}
    {key : GroupKey}
    {buckets : List Treatment}
    {app : String}
    (requesting : .requesting (.group request device key buckets app) ∈ d)
    (w : World) :
    Along d (w.note [.group request device key buckets app])
      ((requestGroup nested request device key buckets app).after w) := by
  unfold requestGroup
  rw [after_record_bind, Act.after_get_bind]
  dsimp only
  split
  · exact .refl
  · split
    case isFalse => exact .refl
    case isTrue adds =>
      subst adds
      rw [Act.after_set_bind]
      split
      · next answers =>
        refine .trans ?quiet (.head (.report (.inr ⟨rfl, ?sync, device, buckets, app, requesting⟩))
          (.tail (follows_emit within List.mem_cons_self _) .reported))
        case sync => exact answers
        case quiet => exact Path.of_quiet ⟨rfl, rfl, rfl, rfl, rfl, rfl, rfl, rfl⟩
      · exact Path.of_quiet ⟨rfl, rfl, rfl, rfl, rfl, rfl, rfl, rfl⟩

/-- An objective is refused. -/
theorem path_refuse
    (d : List Duty)
    (kind : ObjectiveKind)
    (p : Pipeline)
    (ticket : Ticket)
    (r : Refusal)
    (w : World) :
    Path ⟨.holding ticket :: d, w⟩ ⟨d, (refuse nested kind p ticket r).after w⟩ :=
  .head (.note (e := .logged (.refused kind p.device r)) trivial)
    (path_answer within d ticket (.failure r.code) _)

theorem path_filter
    (d : List Duty)
    (p : Pipeline)
    (ticket : Ticket)
    (o : FilteringObjective)
    (w : World) :
    Path ⟨.holding ticket :: d, w⟩ ⟨d, (filter nested p ticket o).after w⟩ := by
  unfold filter
  split
  · exact path_submitBatch within d ticket _ w
  · exact path_refuse within d .filtering p ticket _ w
  · exact .single .abandon

theorem path_forward
    (d : List Duty)
    (p : Pipeline)
    (ticket : Ticket)
    (o : ForwardingObjective)
    (w : World) :
    Path ⟨.holding ticket :: d, w⟩ ⟨d, (forward nested p ticket o).after w⟩ := by
  unfold forward
  rw [Act.after_get_bind]
  split
  next rules _ =>
    cases batchFor rules o.operation with
    | error f => exact .single .abandon
    | ok batch => exact path_submitBatch within d ticket batch w
  · exact path_refuse within d .forwarding p ticket _ w
  · exact .single .abandon

omit within in
/-- The key of an accepted next objective is the one of its identifier. -/
theorem keyFor?_of_keyOfNext
    {p : Pipeline}
    {o : NextObjective}
    {key : GroupKey}
    (accepted : keyOfNext p o = .ok key) :
    p.keySpace.keyFor? o.id = some key := by
  unfold keyOfNext at accepted
  split at accepted
  · simp at accepted
  · split at accepted
    · simp at accepted
    · split at accepted
      · next found => rw [found, Except.ok.inj accepted]
      · simp at accepted

/--
A next objective that is accepted while the clock works is pending before its group is requested, so
an event in answer to the request can confirm it.
-/
theorem path_next_accepted
    (d : List Duty)
    {i : Nat}
    {p : Pipeline}
    (ticket : Ticket)
    (o : NextObjective)
    {key : GroupKey}
    {w : World}
    (found : w.pipelines[i]? = some p)
    (accepted : keyOfNext p o = .ok key)
    (working : w.clockBroken = false) :
    ∃ e : Event, e.Accepts p.device key ∧
      Path
        ⟨.requesting e :: d,
          (w.setTracker i (p.tracker.put key { ticket, id := o.id } w.time)).note [e]⟩
        ⟨d, (next nested i p ticket o).after w⟩ := by
  have put := runIn_discard_put nested found key { ticket, id := o.id }
  rw [if_neg (by simp [working])] at put
  unfold next
  rw [accepted]
  dsimp only
  rw [Act.after_bind_ok _ put]
  have asked (request : GroupRequest) (buckets : List Treatment) :
      ∃ e : Event, e.Accepts p.device key ∧
        Path
          ⟨.requesting e :: d,
            (w.setTracker i (p.tracker.put key { ticket, id := o.id } w.time)).note [e]⟩
          ⟨d, (requestGroup nested request p.device key buckets o.app).after
            (w.setTracker i (p.tracker.put key { ticket, id := o.id } w.time))⟩ :=
    ⟨_, .inl ⟨request, buckets, o.app, rfl⟩,
      .tail (along_requestGroup within List.mem_cons_self _) .dealt⟩
  cases o.operation with
  | none => exact ⟨_, .inr rfl, .single .dealt⟩
  | some operation =>
      cases operation with
      | add => exact asked .add o.members
      | remove => exact asked .remove []
      | addToExisting => exact asked (.addBuckets key) o.members
      | removeFromExisting => exact asked (.removeBuckets key) o.members

omit within in
/-- A next objective is given up when the clock cannot be read. -/
theorem runIn_next_of_clockBroken
    {i : Nat}
    {p : Pipeline}
    (ticket : Ticket)
    (o : NextObjective)
    {key : GroupKey}
    {w : World}
    (accepted : keyOfNext p o = .ok key)
    (broken : w.clockBroken = true) :
    (next nested i p ticket o).runIn w = (.error (.outage .clock), w) := by
  have put := Act.runIn_discard ((keeper nested i).put key { ticket, id := o.id }) w
  rw [runIn_put, if_pos broken] at put
  unfold next
  rw [accepted]
  dsimp only
  rw [Act.runIn_bind, put]
  rfl

/-- A next objective is refused, given up, or accepted and dealt with. -/
theorem path_next
    (d : List Duty)
    {i : Nat}
    {p : Pipeline}
    (ticket : Ticket)
    (o : NextObjective)
    {w : World}
    (found : w.pipelines[i]? = some p) :
    Path ⟨.holding ticket :: d, w⟩ ⟨d, (next nested i p ticket o).after w⟩ := by
  cases accepted : keyOfNext p o with
  | error r =>
      unfold next
      rw [accepted]
      exact path_refuse within d .next p ticket r w
  | ok key =>
      cases working : w.clockBroken with
      | true =>
          rw [Act.after, runIn_next_of_clockBroken ticket o accepted working]
          exact .single .abandon
      | false =>
          obtain ⟨e, accepts, path⟩ := path_next_accepted within d ticket o found accepted working
          exact .head (.enter found (keyFor?_of_keyOfNext accepted) accepts) path

/-- An objective is submitted to a pipeline. -/
theorem path_submit
    (d : List Duty)
    (i : Nat)
    (ticket : Ticket)
    (o : Objective)
    (w : World) :
    Path ⟨.holding ticket :: d, w⟩ ⟨d, (submit nested i ticket o).after w⟩ := by
  unfold submit
  cases found : w.pipelines[i]? with
  | none =>
      rw [Act.after_bind_error _ (runIn_pipeline_of_none found)]
      exact .single .abandon
  | some p =>
      rw [Act.after_bind_ok _ (runIn_pipeline_of_some found)]
      cases o with
      | filter o => exact path_filter within d p ticket o w
      | forward o => exact path_forward within d p ticket o w
      | next o => exact path_next within d ticket o found

/-! ### Pipelines -/

omit within in
theorem follows_modifyPipeline
    (d : List Duty)
    (i : Nat)
    {f : Pipeline → Pipeline}
    (same : ∀ p, (f p).core = p.core) :
    (modifyPipeline i f).Follows (Along d) :=
  fun w => Path.of_quiet (.modify w i same)

omit within in
theorem follows_listen (d : List Duty) (i : Nat) : (listen i).Follows (Along d) := by
  unfold listen
  refine .bind (follows_pipeline i) fun p => ?_
  refine .ite (.bind ?_ fun _ => ?_) (.pure _)
  · exact fun w => Path.of_quiet ⟨rfl, rfl, rfl, rfl, rfl, rfl, rfl, rfl⟩
  · exact follows_modifyPipeline d i fun _ => rfl

omit within in
/-- Which sweeper is at work concerns no objective. -/
theorem follows_sweeper (d : List Duty) (sweeper : Option (Nat × Nat)) :
    (modify fun w => { w with sweeper } : Act World Unit).Follows (Along d) :=
  fun _ => Path.of_quiet ⟨rfl, rfl, rfl, rfl, rfl, rfl, rfl, rfl⟩

theorem follows_sweepRound (d : List Duty) (i : Nat) :
    (sweepRound nested i).Follows (Along d) := by
  unfold sweepRound
  refine .bind (follows_pipeline i) fun p => .bind .get fun w => ?_
  refine .bind (follows_sweeper d (some (i, p.launches))) fun _ => ?_
  refine .bind ?_ fun _ => follows_sweeper d w.sweeper
  unfold Keeper.round
  refine .bind (.attempt (follows_expire within d i)) fun outcome => ?_
  have paused : (record (.waited p.settings.sweepInterval)).Follows (Along d) :=
    follows_record trivial
  cases outcome with
  | ok _ => exact paused
  | error _ => exact .bind (follows_record (e := .logged .sweepFailed) trivial) fun _ => paused

theorem follows_start (d : List Duty) (i : Nat) : (start nested i).Follows (Along d) := by
  unfold start
  refine .bind (follows_listen d i) fun _ => .bind (follows_pipeline i) fun p => ?_
  refine .ite (.bind (follows_modifyPipeline d i fun _ => rfl) fun _ => ?_) (.pure _)
  exact follows_sweepRound within d i

omit within in
theorem follows_stop (d : List Duty) (i : Nat) : (stop i).Follows (Along d) := by
  unfold stop
  refine .bind (follows_pipeline i) fun p => ?_
  refine .bind (follows_modifyPipeline d i fun _ => rfl) fun _ => ?_
  refine .bind (follows_awaitSweeper i p) fun _ => ?_
  refine .bind (follows_modifyPipeline d i fun _ => rfl) fun _ => .ite ?_ (.pure _)
  exact fun w => Path.of_quiet ⟨rfl, rfl, rfl, rfl, rfl, rfl, rfl, rfl⟩

theorem follows_tick (d : List Duty) (i : Nat) : (tick nested i).Follows (Along d) := by
  unfold tick
  refine .bind (follows_pipeline i) fun p => .ite ?_ (.pure _)
  exact .bind (follows_sweepRound within d i) fun _ => .pure _

theorem follows_build
    (d : List Duty)
    (device : String)
    (settings : Settings)
    (autostart : Bool) :
    (build nested device settings autostart).Follows (Along d) := by
  unfold build construct
  refine .bind ?_ fun i => ?_
  · intro w
    rw [Act.after_get_bind]
    dsimp only
    rw [Act.after_modify_bind]
    refine .head (.build device settings) ?_
    exact Act.Follows.bind (follows_listen d _) (fun _ => .pure _) _
  · exact .ite (.bind (follows_start within d i) fun _ => .pure _) (.pure _)

theorem follows_buildAll
    (d : List Duty)
    (settings : Settings)
    (autostart : Bool)
    (devices : List String)
    (built : List (String × Nat)) :
    (buildAll nested settings autostart devices built).Follows (Along d) := by
  induction devices generalizing built with
  | nil => exact .pure _
  | cons device rest ih =>
      unfold buildAll
      refine .bind (follows_build within d device settings autostart) fun i => ?_
      exact .ite (.bind (.throw _) fun _ => ih _) (ih _)

/-! ### Steps -/

omit within in
theorem follows_registered (d : List Duty) (device : String) :
    (registered device).Follows (Along d) := by
  refine .bind .get fun w => ?_
  cases lookupPair? device w.registry with
  | some i => exact .pure i
  | none =>
      exact .bind (follows_record (e := .logged (.notRegistered device)) trivial) fun _ => .throw _

/-- An objective gets a ticket and is submitted, if its pipeline is found. -/
theorem follows_issue_submit
    (d : List Duty)
    (tag : String)
    (reaction : Reaction)
    (find : Act World Nat)
    (finds : ∀ d, find.Follows (Along d))
    (o : Objective) :
    (do
      let ticket ← issue tag reaction
      submit nested (← find) ticket o
      return Answer.done : Act World Answer).Follows (Along d) := by
  intro w
  have issued : (issue tag reaction).runIn w =
      (.ok ⟨w.tickets, tag, reaction⟩, { w with tickets := w.tickets + 1 }) := rfl
  rw [Act.after_bind_ok _ issued]
  refine .head (.issue tag reaction) ?_
  refine Path.bind (finds _ _) (fun _ => .single .abandon) fun i v => ?_
  exact Path.bind (path_submit within d i _ o v) (fun _ => .refl) fun _ _ => .refl

/-- An event is reported under the key that the step names. -/
theorem follows_emit_keyOf
    {d : List Duty}
    {event : GroupEvent}
    {device : String}
    {ref : KeyRef}
    (doing : .doing (.emit event device ref) ∈ d) :
    (do
      emit nested event (← keyOf ref)
      return Answer.done : Act World Answer).Follows (Along d) := by
  intro w
  rcases runIn_keyOf ref w with ⟨key, found, named⟩ | ⟨f, failed⟩
  · rw [Act.after_bind_ok _ found]
    have along : (emit nested event key >>= fun _ => pure Answer.done).Follows
        (Along (.reporting event key :: d)) :=
      .bind (follows_emit within List.mem_cons_self) fun _ => .pure _
    refine .head (.report (.inl ⟨device, ref, doing, named⟩)) ?_
    exact .tail (along w) .reported
  · rw [Act.after_bind_error _ failed]
    exact .refl

/-- Every step is a path of moves. -/
theorem follows_perform
    {d : List Duty}
    {step : Step}
    (doing : .doing step ∈ d) :
    (perform nested step).Follows (Along d) := by
  cases step with
  | build name device draft autostart =>
      refine .bind (follows_settingsOf draft) fun settings => ?_
      refine .bind (follows_build within d device settings autostart) fun i => ?_
      refine .bind (fun w => ?_) fun _ => .pure _
      exact Path.of_quiet ⟨rfl, rfl, rfl, rfl, rfl, rfl, rfl, rfl⟩
  | buildRegistry devices draft autostart =>
      refine .bind (follows_settingsOf draft) fun settings => ?_
      refine .bind (follows_buildAll within d settings autostart devices []) fun built => ?_
      refine .bind (fun w => ?_) fun _ => .pure _
      exact Path.of_quiet ⟨rfl, rfl, rfl, rfl, rfl, rfl, rfl, rfl⟩
  | register device name =>
      refine .bind (follows_named name) fun i => .bind .get fun v => ?_
      refine .ite (.bind (.throw _) fun _ => ?_) ?_
      all_goals
        refine .bind (fun w => ?_) fun _ => .pure _
        exact Path.of_quiet ⟨rfl, rfl, rfl, rfl, rfl, rfl, rfl, rfl⟩
  | unregister device => exact fun w => Path.of_quiet ⟨rfl, rfl, rfl, rfl, rfl, rfl, rfl, rfl⟩
  | get device => exact .bind .get fun w => .pure _
  | devices => exact .bind .get fun w => .pure _
  | handle device objective tag reaction =>
      cases objective with
      | none => exact .throw _
      | some o =>
          exact follows_issue_submit within d tag reaction _ (follows_registered · device) o
  | submit name objective tag reaction =>
      refine .bind (follows_named name) fun i => ?_
      exact follows_issue_submit within d tag reaction (pure i) (fun _ => .pure i) objective
  | start name =>
      exact .bind (follows_named name) fun i =>
        .bind (follows_start within d i) fun _ => .pure _
  | stop name | close name =>
      exact .bind (follows_named name) fun i => .bind (follows_stop d i) fun _ => .pure _
  | tick name => exact .bind (follows_named name) fun i => follows_tick within d i
  | expire name =>
      refine .bind (follows_named name) fun i => .bind (follows_expire within d i) fun rs => ?_
      exact .bind (.bind .get fun w => .pure _) fun _ => .pure _
  | advance seconds => exact fun w => .single (.advance doing)
  | clock broken => exact fun w => .single (.clock doing)
  | emit event device ref => exact follows_emit_keyOf within doing
  | complete number success =>
      refine .bind .get fun w => .ite ?_ (.pure _)
      exact .bind (follows_completeBatch within d _ success) fun _ => .pure _
  | batch number => exact .bind .get fun w => .pure _
  | mode flow groups storeFails => exact fun w => .single (.mode doing)
  | putRecord id ref =>
      have stores (stored : StoredRecord) : (do
          modify fun w => { w with records := insertPair id stored w.records }
          return Answer.done : Act World Answer).Follows (Along d) :=
        fun w => .single (.putRecord doing)
      cases ref with
      | raw data => exact stores (.raw data)
      | group key => exact .bind (.map _ (follows_keyOf key)) stores
  | getRecord id =>
      refine .bind .get fun w => ?_
      cases lookupPair? id w.records with
      | none => exact .pure _
      | some stored => exact .bind (follows_dataOf stored) fun _ => .pure _
  | mappings name source =>
      refine .bind .get fun w => ?_
      dsimp only
      split
      · exact .pure _
      · refine .bind (follows_named name) fun i => .bind (follows_pipeline i) fun p => ?_
        exact .bind (follows_mappings p _) fun _ => .pure _
  | setGroup device key group =>
      refine .bind (follows_keyOf key) fun k w => ?_
      exact Path.of_quiet ⟨rfl, rfl, rfl, rfl, rfl, rfl, rfl, rfl⟩
  | dropGroup device key =>
      refine .bind (follows_keyOf key) fun k w => ?_
      exact Path.of_quiet ⟨rfl, rfl, rfl, rfl, rfl, rfl, rfl, rfl⟩
  | info name =>
      exact .bind (follows_named name) fun i => .bind (follows_pipeline i) fun p => .pure _
  | illegible action e => exact .throw _

/-- A script leads along a path of moves, on which each of its steps begins and ends. -/
theorem follows_performEach (d : List Duty) (script : List Step) :
    (performEach nested script).Follows (Along d) := by
  induction script with
  | nil => exact .pure _
  | cons step rest ih =>
      unfold performEach
      intro w
      refine .head (.begin step) ?_
      rw [Act.after_bind_ok _ (Act.runIn_attempt _ w), after_record_bind]
      have performed := follows_perform within (List.mem_cons_self (a := .doing step) (l := d)) w
      exact performed.trans (.head (.finish _) (ih _))

end

/-- The scripts of reactions lead along a path of moves, up to any depth. -/
theorem follows_reactTo (depth : Nat) (d : List Duty) (script : List Step) :
    (reactTo depth script).Follows (Along d) := by
  induction depth generalizing d script with
  | zero => exact .pure _
  | succ depth ih => exact follows_performEach ih d script

/-- A step of the session itself leads along a path of moves. -/
theorem path_runStep (depth : Nat) (step : Step) (w : World) :
    Path ⟨[.doing step], w⟩ ⟨[.doing step], (runStep depth step w).after⟩ :=
  follows_perform (follows_reactTo depth) List.mem_cons_self w

end Session
end LineTerminal
