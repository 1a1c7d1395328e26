import LineTerminal.Proofs.Session.Routing

/-!
# Listeners follow the lives of pipelines

All pipelines of a session are listed by one group service.  Whether a pipeline is listed, and
whether its sweeper runs, depends on nothing but the last call that concerned its life: it is listed
once when it was constructed or started last, and not at all when it was stopped.  No call disturbs
the others, and the service is never asked to take off a pipeline that is not listed.
-/

namespace LineTerminal
namespace Session

/-! ### Calls -/

/-- The phase that a pipeline is in after a call that concerns its life. -/
inductive Phase where
  | constructed
  | started
  | stopped
deriving DecidableEq

/-- Whether a pipeline listens in a phase, and whether its sweeper runs. -/
def Phase.life : Phase → Bool × Bool
  | constructed => (true, false)
  | started => (true, true)
  | stopped => (false, false)

/-- Whether a pipeline listens, and whether its sweeper runs. -/
def Pipeline.life (p : Pipeline) : Bool × Bool := (p.listening, p.sweeping)

/-- No pipeline begins or ends to listen or to sweep. -/
structure World.Unaltered (w w' : World) : Prop where
  listeners : w'.listeners = w.listeners
  lives : w'.pipelines.map Pipeline.life = w.pipelines.map Pipeline.life

/-- What a start does before the sweeper makes its first round. -/
def launch (i : Nat) : Act World Unit := do
  listen i
  let p ← pipeline i
  if ¬p.sweeping then
    modifyPipeline i fun p =>
      { p with sweeping := true, stopping := false, launches := p.launches + 1 }

/-- A stop of the pipeline would come from the thread of its sweeper, which cannot wait for itself. -/
def World.WaitsForItself (w : World) (i : Nat) : Prop :=
  ∃ p ∈ w.pipelines[i]?, w.InSweeperOf i p

instance (w : World) (i : Nat) : Decidable (w.WaitsForItself i) :=
  inferInstanceAs (Decidable (∃ p ∈ w.pipelines[i]?, _))

/--
The calls that a session has made, the latest first, and a state that it can be in by then.  Between
the calls it can do anything that is no such call.  A call may come in the middle of a step, but a
stop that a sweeper makes of its own pipeline is not among the calls: it fails.
-/
inductive World.Lived : List (Nat × Phase) → World → Prop
  /-- A session starts without pipelines, with threads or without. -/
  | begin (threaded : Bool) : World.Lived [] { threaded }
  /-- Something else is done. -/
  | idle {calls : List (Nat × Phase)} {w w' : World} (lived : World.Lived calls w)
      (unaltered : w.Unaltered w') : World.Lived calls w'
  /-- A pipeline is constructed and gets the next number. -/
  | construct {calls : List (Nat × Phase)} {w : World} (lived : World.Lived calls w)
      (device : String) (settings : Settings) :
      World.Lived ((w.pipelines.length, .constructed) :: calls)
        ((construct device settings).after w)
  /-- A pipeline is started. -/
  | launch {calls : List (Nat × Phase)} {w : World} {i : Nat} (lived : World.Lived calls w)
      (there : i < w.pipelines.length) :
      World.Lived ((i, .started) :: calls) ((launch i).after w)
  /-- A pipeline is stopped, by anyone but its own sweeper. -/
  | stop {calls : List (Nat × Phase)} {w : World} {i : Nat} (lived : World.Lived calls w)
      (there : i < w.pipelines.length) (apart : ¬w.WaitsForItself i) :
      World.Lived ((i, .stopped) :: calls) ((stop i).after w)

/-- The pipelines and the list of listeners are as the last calls want them. -/
structure World.Registered (calls : List (Nat × Phase)) (w : World) : Prop where
  /-- The pipelines are those that were called for, each in the phase of its last call. -/
  lives : ∀ i, w.pipelines[i]?.map Pipeline.life = (lookupPair? i calls).map Phase.life
  /-- A pipeline is listed once after its construction or a start, and not at all after a stop. -/
  listed : ∀ i, w.listeners.count i =
    if lookupPair? i calls = some .constructed ∨ lookupPair? i calls = some .started then 1 else 0

/-- A pipeline gets into a phase, and nothing else about listeners and sweepers is changed. -/
structure World.Passes (i : Nat) (phase : Phase) (w w' : World) : Prop where
  life : w'.pipelines[i]?.map Pipeline.life = some phase.life
  listed : w'.listeners.count i = if phase = .stopped then 0 else 1
  /-- The others are in the phases they were in. -/
  lives : ∀ j ≠ i, w'.pipelines[j]?.map Pipeline.life = w.pipelines[j]?.map Pipeline.life
  /-- The others are listed as often as they were, and in the same order. -/
  others : w'.listeners.filter (· ≠ i) = w.listeners.filter (· ≠ i)

section
variable {calls : List (Nat × Phase)}
variable {w w' : World}
variable {i : Nat}
variable {p : Pipeline}

theorem World.Registered.passes
    {phase : Phase}
    (registered : w.Registered calls)
    (passes : World.Passes i phase w w') :
    w'.Registered ((i, phase) :: calls) where
  lives j := by
    by_cases here : j = i
    · subst here
      simp [passes.life, lookupPair?_cons]
    · rw [passes.lives j here, lookupPair?_cons, if_neg (Ne.symm here), registered.lives]
  listed j := by
    by_cases here : j = i
    · subst here
      rw [passes.listed, lookupPair?_cons, if_pos rfl]
      cases phase <;> simp
    · have counted := congrArg (List.count j) passes.others
      rw [List.count_filter (by simpa using here), List.count_filter (by simpa using here)]
        at counted
      rw [counted, lookupPair?_cons, if_neg (Ne.symm here), registered.listed]

/-- A known pipeline is listed if it says that it listens. -/
theorem World.Registered.count_of_some
    (registered : w.Registered calls)
    (found : w.pipelines[i]? = some p) :
    w.listeners.count i = if p.listening then 1 else 0 := by
  have life := registered.lives i
  rw [found, Option.map_some, eq_comm, Option.map_eq_some_iff] at life
  obtain ⟨phase, last, life⟩ := life
  rw [registered.listed, last]
  obtain ⟨listens, -⟩ := Prod.mk.inj life
  rw [← listens]
  cases phase <;> rfl

/-! ### What the calls do -/

/-- A call that changes one pipeline brings it into a phase. -/
theorem World.Passes.of_modify
    {phase : Phase}
    {f : Pipeline → Pipeline}
    {listeners : List Nat}
    (found : w.pipelines[i]? = some p)
    (life : (f p).life = phase.life)
    (listed : listeners.count i = if phase = .stopped then 0 else 1)
    (others : listeners.filter (· ≠ i) = w.listeners.filter (· ≠ i)) :
    w.Passes i phase { w with pipelines := w.pipelines.modify i f, listeners } where
  life := by simp [found, life]
  listed := listed
  lives j other := by simp [other.symm]
  others := others

theorem World.Registered.passes_construct
    (registered : w.Registered calls)
    (device : String)
    (settings : Settings) :
    w.Passes w.pipelines.length .constructed ((construct device settings).after w) := by
  have unlisted : w.listeners.count w.pipelines.length = 0 := by
    have life := registered.lives w.pipelines.length
    rw [List.getElem?_eq_none (Nat.le_refl _), Option.map_none, eq_comm,
      Option.map_eq_none_iff] at life
    rw [registered.listed, life]
    rfl
  rw [Act.after, runIn_construct]
  constructor
  case life => simp [World.built, Pipeline.life, Phase.life]
  case listed => simp [World.built, unlisted]
  case lives =>
    intro j other
    rcases Nat.lt_or_gt_of_ne other with lt | gt
    · simp [World.built, List.getElem?_append_left lt]
    · have before : w.pipelines.length ≤ j := by omega
      have after : (w.built [device] settings).pipelines.length ≤ j := by
        simp only [World.built, List.length_append, List.length_map, List.length_singleton]
        exact gt
      rw [List.getElem?_eq_none before, List.getElem?_eq_none after]
  case others => simp [World.built]

/-- What comes of telling a pipeline to listen. -/
def World.listened (w : World) (i : Nat) (p : Pipeline) : World :=
  if p.listening then w
  else { w with
    listeners := w.listeners ++ [i]
    pipelines := w.pipelines.modify i fun p => { p with listening := true } }

theorem runIn_listen_of_some (found : w.pipelines[i]? = some p) :
    (listen i).runIn w = (.ok ⟨⟩, w.listened i p) := by
  cases listening : p.listening with
  | true =>
      unfold listen World.listened
      rw [Act.runIn_bind_ok _ (runIn_pipeline_of_some found),
        if_neg (by simp [listening]), if_pos listening]
      rfl
  | false =>
      unfold World.listened
      rw [runIn_listen found listening, if_neg (by simp [listening])]

theorem getElem?_listened (found : w.pipelines[i]? = some p) :
    (w.listened i p).pipelines[i]? = some { p with listening := true } := by
  unfold World.listened
  cases listening : p.listening with
  | true =>
      rw [if_pos rfl, found, ← listening]
  | false => simp [found]

/-- A pipeline that listens is started or constructed, as it has a sweeper or not. -/
theorem World.Registered.passes_listened
    {phase : Phase}
    (registered : w.Registered calls)
    (found : w.pipelines[i]? = some p)
    (life : phase.life = (true, p.sweeping)) :
    w.Passes i phase (w.listened i p) := by
  have count := registered.count_of_some found
  have listed : phase ≠ .stopped := by
    rintro rfl
    cases life
  unfold World.listened
  cases listening : p.listening with
  | true =>
      rw [listening] at count
      constructor
      case life => rw [if_pos rfl, found, Option.map_some, life, Pipeline.life, listening]
      case listed => rw [if_pos rfl, if_neg listed, count, if_pos rfl]
      case lives => exact fun j _ => rfl
      case others => rfl
  | false =>
      rw [listening] at count
      exact .of_modify found life.symm (by simp [count, listed]) (by simp)

theorem after_launch_of_some (found : w.pipelines[i]? = some p) :
    (launch i).after w =
      if p.sweeping then w.listened i p
      else { w.listened i p with
        pipelines := (w.listened i p).pipelines.modify i fun p =>
          { p with sweeping := true, stopping := false, launches := p.launches + 1 } } := by
  unfold launch
  rw [Act.after_bind_ok _ (runIn_listen_of_some found),
    Act.after_bind_ok _ (runIn_pipeline_of_some (getElem?_listened found))]
  cases p.sweeping <;> rfl

theorem World.Registered.passes_launch
    (registered : w.Registered calls)
    (found : w.pipelines[i]? = some p) :
    w.Passes i .started ((launch i).after w) := by
  rw [after_launch_of_some found]
  cases sweeping : p.sweeping with
  | true => exact registered.passes_listened found (by rw [sweeping]; rfl)
  | false =>
      have listened : w.Passes i .constructed (w.listened i p) :=
        registered.passes_listened found (by rw [sweeping]; rfl)
      constructor
      case life => simp [getElem?_listened found, Pipeline.life, Phase.life]
      case listed => exact listened.listed
      case lives =>
        intro j other
        rw [← listened.lives j other]
        simp [other.symm]
      case others => exact listened.others

/-- Stops a pipeline, given how it is taken off the listeners. -/
def stopBy (remove : Nat → Act World Unit) (i : Nat) : Act World Unit := do
  let p ← pipeline i
  modifyPipeline i fun p => { p with stopping := true }
  awaitSweeper i p
  modifyPipeline i fun p => { p with sweeping := false, listening := false }
  if p.listening then
    remove i

/-- Takes a pipeline off the listeners if it is there, and does nothing otherwise. -/
def removeLeniently (i : Nat) : Act World Unit :=
  modify fun w => { w with listeners := w.listeners.erase i }

/-- Takes a pipeline off the listeners, and fails if it is not there. -/
def removeStrictly (i : Nat) : Act World Unit := do
  if i ∈ (← get).listeners then removeLeniently i else throw (.outage .groups)

theorem stop_eq_stopBy : stop = stopBy removeLeniently := rfl

theorem World.waitsForItself_iff (found : w.pipelines[i]? = some p) :
    w.WaitsForItself i ↔ w.InSweeperOf i p := by
  simp [WaitsForItself, found]

theorem runIn_awaitSweeper_of_inside (inside : w.InSweeperOf i p) :
    (awaitSweeper i p).runIn w = (.error .waitsForItself, w) := by
  unfold awaitSweeper
  rw [Act.runIn_get_bind, if_pos inside]
  rfl

theorem runIn_awaitSweeper_of_apart (apart : ¬w.InSweeperOf i p) :
    (awaitSweeper i p).runIn w = (.ok ⟨⟩, w) := by
  unfold awaitSweeper
  rw [Act.runIn_get_bind, if_neg apart]
  rfl

/-- The sweeper of a pipeline is asked to end. -/
def World.endAsked (w : World) (i : Nat) : World :=
  { w with pipelines := w.pipelines.modify i fun p => { p with stopping := true } }

theorem runIn_stopBy_of_some
    (remove : Nat → Act World Unit)
    (found : w.pipelines[i]? = some p)
    (apart : ¬w.WaitsForItself i) :
    (stopBy remove i).runIn w =
      (if p.listening then remove i else pure ⟨⟩).runIn { w with
        pipelines := w.pipelines.modify i fun p =>
          { p with stopping := true, sweeping := false, listening := false } } := by
  have asked : (awaitSweeper i p).runIn (w.endAsked i) = (.ok ⟨⟩, w.endAsked i) :=
    runIn_awaitSweeper_of_apart (mt (World.waitsForItself_iff found).mpr apart)
  unfold stopBy
  rw [Act.runIn_bind, runIn_pipeline_of_some found]
  change ((awaitSweeper i p >>= _).runIn (w.endAsked i) : _ × World) = _
  rw [Act.runIn_bind, asked]
  change (Act.runIn _ { w with pipelines := (w.pipelines.modify i _).modify i _ } : _ × World) = _
  rw [List.modify_modify_eq]
  rfl

theorem after_stop_of_some
    (found : w.pipelines[i]? = some p)
    (apart : ¬w.WaitsForItself i) :
    (stop i).after w = { w with
      pipelines := w.pipelines.modify i fun p =>
        { p with stopping := true, sweeping := false, listening := false }
      listeners := if p.listening then w.listeners.erase i else w.listeners } := by
  rw [stop_eq_stopBy, Act.after, runIn_stopBy_of_some _ found apart]
  cases p.listening <;> rfl

/-- A sweeper that would stop its own pipeline is asked to end, and nothing else comes of it. -/
theorem World.WaitsForItself.runIn_stop (inside : w.WaitsForItself i) :
    (stop i).runIn w = (.error .waitsForItself, w.endAsked i) := by
  obtain ⟨p, found, inside⟩ := inside
  have asked : (awaitSweeper i p).runIn (w.endAsked i) = (.error .waitsForItself, w.endAsked i) :=
    runIn_awaitSweeper_of_inside inside
  unfold stop
  rw [Act.runIn_bind, runIn_pipeline_of_some found]
  change ((awaitSweeper i p >>= _).runIn (w.endAsked i) : _ × World) = _
  rw [Act.runIn_bind, asked]

theorem World.WaitsForItself.unaltered (inside : w.WaitsForItself i) :
    w.Unaltered ((stop i).after w) := by
  rw [Act.after, inside.runIn_stop]
  refine ⟨rfl, List.ext_getElem? fun j => ?_⟩
  simp only [World.endAsked, List.getElem?_map, List.getElem?_modify]
  cases w.pipelines[j]? with
  | none => rfl
  | some q => by_cases here : i = j <;> simp [here, Pipeline.life]

/-- The group service is not asked to take off a pipeline that is not listed. -/
theorem World.Registered.runIn_stopBy
    (registered : w.Registered calls)
    (found : w.pipelines[i]? = some p)
    (apart : ¬w.WaitsForItself i) :
    (stopBy removeStrictly i).runIn w = (.ok ⟨⟩, (stop i).after w) := by
  have count := registered.count_of_some found
  rw [runIn_stopBy_of_some _ found apart, after_stop_of_some found apart]
  cases listening : p.listening with
  | false => rfl
  | true =>
      have listed : i ∈ w.listeners := by
        rw [← List.count_pos_iff, count, listening]
        decide
      have removed (v : World) (listed : i ∈ v.listeners) :
          (removeStrictly i).runIn v = (.ok ⟨⟩, { v with listeners := v.listeners.erase i }) := by
        unfold removeStrictly
        rw [Act.runIn_get_bind, if_pos listed]
        rfl
      exact removed _ listed

theorem World.Registered.passes_stop
    (registered : w.Registered calls)
    (found : w.pipelines[i]? = some p)
    (apart : ¬w.WaitsForItself i) :
    w.Passes i .stopped ((stop i).after w) := by
  have count := registered.count_of_some found
  rw [after_stop_of_some found apart]
  refine .of_modify found rfl ?_ ?_
  · cases listening : p.listening with
    | true =>
        rw [listening] at count
        simp [List.count_erase_self, count]
    | false =>
        rw [listening] at count
        simpa using count
  · split
    · rw [← List.erase_filter, List.erase_of_not_mem (by simp)]
    · rfl

/-- What the last calls want holds after every sequence of calls. -/
theorem World.Lived.registered (lived : w.Lived calls) : w.Registered calls := by
  induction lived with
  | begin _ => exact ⟨by simp [lookupPair?], by simp [lookupPair?]⟩
  | idle _ unaltered ih =>
      refine ⟨fun i => ?_, fun i => ?_⟩
      · rw [← ih.lives, ← List.getElem?_map, ← List.getElem?_map, unaltered.lives]
      · rw [unaltered.listeners, ih.listed]
  | construct _ device settings ih => exact ih.passes (ih.passes_construct device settings)
  | launch _ there ih => exact ih.passes (ih.passes_launch (List.getElem?_eq_getElem there))
  | stop _ there apart ih =>
      exact ih.passes (ih.passes_stop (List.getElem?_eq_getElem there) apart)

end

/-! ### Everything else -/

/-- The second state comes from the first one by some calls, and whatever else was done. -/
def World.Prolongs (w w' : World) : Prop :=
  ∀ calls, w.Lived calls → ∃ more, w'.Lived (more ++ calls)

/-- Some calls may have been made, but unless one of them is noted nothing was altered. -/
structure World.GoesOn (w w' : World) : Prop where
  noted : ∃ noted, w'.events = w.events ++ noted ∧
    ((∀ s answer, .stepped s answer ∈ noted → ¬s.Manages) → w.Unaltered w')
  prolongs : w.Prolongs w'

namespace World
variable {u w w' : World}

theorem Unaltered.of_same
    (listeners : w'.listeners = w.listeners)
    (pipelines : w'.pipelines = w.pipelines) :
    w.Unaltered w' :=
  ⟨listeners, by rw [pipelines]⟩

theorem Unaltered.trans (first : u.Unaltered w) (second : w.Unaltered w') : u.Unaltered w' :=
  ⟨second.listeners.trans first.listeners, second.lives.trans first.lives⟩

/-- What an operation does of its own alters nothing. -/
theorem Unaltered.of_allows {e : Effects} (allowed : e.Allows w w') : w.Unaltered w' where
  listeners := allowed.listeners
  lives := by
    have lives := congrArg (List.map Pipeline.life) allowed.pipelines
    rwa [List.map_map, List.map_map] at lives

theorem Unaltered.prolongs (unaltered : w.Unaltered w') : w.Prolongs w' :=
  fun _ lived => ⟨[], lived.idle unaltered⟩

theorem Prolongs.trans (first : u.Prolongs w) (second : w.Prolongs w') : u.Prolongs w' := by
  intro calls lived
  obtain ⟨more, lived⟩ := first calls lived
  obtain ⟨more', lived⟩ := second _ lived
  exact ⟨more' ++ more, by rwa [List.append_assoc]⟩

instance : Std.Refl World.Prolongs := ⟨fun _ => Unaltered.prolongs (.of_same rfl rfl)⟩

instance : IsTrans World World.Prolongs := ⟨fun _ _ _ => Prolongs.trans⟩

theorem GoesOn.of_unaltered
    {noted : List Event}
    (events : w'.events = w.events ++ noted)
    (unaltered : w.Unaltered w') :
    w.GoesOn w' :=
  ⟨⟨noted, events, fun _ => unaltered⟩, unaltered.prolongs⟩

theorem GoesOn.trans (first : u.GoesOn w) (second : w.GoesOn w') : u.GoesOn w' where
  noted := by
    obtain ⟨es, grown, unaltered⟩ := first.noted
    obtain ⟨es', grown', unaltered'⟩ := second.noted
    refine ⟨es ++ es', by rw [grown', grown, List.append_assoc], fun kept => ?_⟩
    simp only [List.mem_append] at kept
    exact (unaltered fun s answer noted => kept s answer (.inl noted)).trans
      (unaltered' fun s answer noted => kept s answer (.inr noted))
  prolongs := first.prolongs.trans second.prolongs

instance : Std.Refl World.GoesOn :=
  ⟨fun w => .of_unaltered (List.append_nil w.events).symm (.of_same rfl rfl)⟩

instance : IsTrans World World.GoesOn := ⟨fun _ _ _ => GoesOn.trans⟩

theorem GoesOn.of_allows {e : Effects} (allowed : e.Allows w w') : w.GoesOn w' := by
  obtain ⟨noted, grown, -⟩ := allowed.events
  exact .of_unaltered grown (.of_allows allowed)

end World

section
variable {nested : Nested}

/-- A start launches the pipeline, and then its sweeper makes a round unless it ran before. -/
theorem after_start_of_some
    {w : World}
    {i : Nat}
    {p : Pipeline}
    (found : w.pipelines[i]? = some p) :
    (start nested i).after w =
      if p.sweeping then (launch i).after w
      else (sweepRound nested i).after ((launch i).after w) := by
  rw [after_launch_of_some found]
  unfold start
  rw [Act.after_bind_ok _ (runIn_listen_of_some found),
    Act.after_bind_ok _ (runIn_pipeline_of_some (getElem?_listened found))]
  cases p.sweeping <;> rfl

theorem prolongs_construct (device : String) (settings : Settings) :
    (construct device settings).Follows World.Prolongs :=
  fun _ _ lived => ⟨[_], lived.construct device settings⟩

theorem prolongs_stop (i : Nat) : (stop i).Follows World.Prolongs := by
  intro w calls lived
  by_cases there : i < w.pipelines.length
  · by_cases inside : w.WaitsForItself i
    · exact inside.unaltered.prolongs calls lived
    · exact ⟨[_], lived.stop there inside⟩
  · have missing : w.pipelines[i]? = none := List.getElem?_eq_none (Nat.le_of_not_lt there)
    refine ⟨[], ?_⟩
    unfold stop
    rwa [Act.after_bind_error _ (runIn_pipeline_of_none missing)]

variable (within : ∀ script, (nested script).Follows World.GoesOn)
include within

theorem goesOn_of_interleaved
    {α : Type}
    {act : Act World α}
    (follows : act.Follows (Interleaved anyEffects nested)) :
    act.Follows World.GoesOn :=
  fun w => (follows w).follows World.GoesOn.of_allows within

theorem goesOn_sweepRound (i : Nat) : (sweepRound nested i).Follows World.GoesOn :=
  goesOn_of_interleaved within (follows_own_sweepRound anyEffects_routine i)

/-- A step that does not manage pipelines makes no call of its own. -/
theorem goesOn_perform
    {step : Step}
    (manages : ¬step.Manages) :
    (perform nested step).Follows World.GoesOn := by
  by_cases registers : step.Registers
  case neg => exact goesOn_of_interleaved within (follows_own_perform manages registers)
  cases step with
  | buildRegistry => exact absurd trivial manages
  | register device name =>
      refine .bind (follows_named name) fun i => .bind .get fun w => ?_
      refine .ite (.bind (.throw _) fun _ => ?_) ?_
      all_goals exact fun w => .of_unaltered (List.append_nil w.events).symm (.of_same rfl rfl)
  | unregister device =>
      exact fun w => .of_unaltered (List.append_nil w.events).symm (.of_same rfl rfl)
  | _ => cases registers

theorem prolongs_start (i : Nat) : (start nested i).Follows World.Prolongs := by
  intro w calls lived
  cases found : w.pipelines[i]? with
  | none =>
      have missing : (listen i).runIn w = (.error (.noPipeline ""), w) := by
        unfold listen
        rw [Act.runIn_bind, runIn_pipeline_of_none found]
      refine ⟨[], ?_⟩
      unfold start
      rwa [Act.after_bind_error _ missing]
  | some p =>
      obtain ⟨there, -⟩ := List.getElem?_eq_some_iff.mp found
      have launched := lived.launch there
      rw [after_start_of_some found]
      split
      · exact ⟨[_], launched⟩
      · obtain ⟨more, lived⟩ := (goesOn_sweepRound within i _).prolongs _ launched
        exact ⟨more ++ [_], by rwa [List.append_assoc]⟩

theorem prolongs_build (device : String) (settings : Settings) (autostart : Bool) :
    (build nested device settings autostart).Follows World.Prolongs := by
  refine .bind (prolongs_construct device settings) fun i => ?_
  exact .ite (.bind (prolongs_start within i) fun _ => .pure _) (.pure _)

theorem prolongs_buildAll
    (settings : Settings)
    (autostart : Bool)
    (devices : List String)
    (built : List (String × Nat)) :
    (buildAll nested settings autostart devices built).Follows World.Prolongs := by
  induction devices generalizing built with
  | nil => exact .pure _
  | cons device rest ih =>
      unfold buildAll
      refine .bind (prolongs_build within device settings autostart) fun i => ?_
      exact .ite (.bind (.throw _) fun _ => ih _) (ih _)

/-- Every step makes calls, if any, and whatever else is done. -/
theorem prolongs_perform (step : Step) : (perform nested step).Follows World.Prolongs := by
  by_cases manages : step.Manages
  case neg => exact fun w => (goesOn_perform within manages w).prolongs
  have renamed (f : World → World) (listeners : ∀ w, (f w).listeners = w.listeners)
      (pipelines : ∀ w, (f w).pipelines = w.pipelines) :
      (modify f : Act World Unit).Follows World.Prolongs :=
    fun w => World.Unaltered.prolongs (.of_same (listeners w) (pipelines w))
  cases step with
  | build name device draft autostart =>
      refine .bind (follows_settingsOf draft) fun settings => ?_
      refine .bind (prolongs_build within device settings autostart) fun i => ?_
      exact .bind (renamed _ (fun _ => rfl) fun _ => rfl) fun _ => .pure _
  | buildRegistry devices draft autostart =>
      refine .bind (follows_settingsOf draft) fun settings => ?_
      refine .bind (prolongs_buildAll within settings autostart devices []) fun built => ?_
      exact .bind (renamed _ (fun _ => rfl) fun _ => rfl) fun _ => .pure _
  | start name =>
      exact .bind (follows_named name) fun i => .bind (prolongs_start within i) fun _ => .pure _
  | stop name | close name =>
      exact .bind (follows_named name) fun i => .bind (prolongs_stop i) fun _ => .pure _
  | _ => cases manages

end

theorem goesOn_reactTo (depth : Nat) (script : List Step) :
    (reactTo depth script).Follows World.GoesOn := by
  refine follows_reactTo_of_noted (fun depth within step answer w => ?_) depth script
  have noted (v : World) : v.GoesOn (v.note [.stepped step answer]) :=
    .of_unaltered rfl (.of_same rfl rfl)
  by_cases manages : step.Manages
  · -- A step that manages pipelines is noted as it ends, so nothing is promised then.
    obtain ⟨es, grown⟩ := (path_runStep depth step w).grows.events
    refine ⟨⟨es ++ [.stepped step answer], ?_, fun kept => ?_⟩, ?_⟩
    · rw [← List.append_assoc, grown]
      rfl
    · exact absurd manages (kept step answer (by simp))
    · exact (prolongs_perform within step w).trans (noted _).prolongs
  · exact (goesOn_perform within manages w).trans (noted _)

/-! ### Whole sessions -/

section
variable {calls : List (Nat × Phase)}
variable {w w' : World}
variable {i : Nat}

/-- The calls that have been made meanwhile are none unless one of them is noted. -/
theorem World.GoesOn.lived
    (goesOn : w.GoesOn w')
    (lived : w.Lived calls) :
    ∃ more, w'.Lived (more ++ calls) ∧
      ((∀ s answer, .stepped s answer ∈ w'.events.drop w.events.length → ¬s.Manages) →
        more = [] ∧ w.Unaltered w') := by
  obtain ⟨noted, grown, unaltered⟩ := goesOn.noted
  rw [grown, List.drop_left]
  by_cases only : ∀ s answer, .stepped s answer ∈ noted → ¬s.Manages
  · exact ⟨[], lived.idle (unaltered only), fun _ => ⟨rfl, unaltered only⟩⟩
  · obtain ⟨more, lived⟩ := goesOn.prolongs calls lived
    exact ⟨more, lived, fun kept => absurd kept only⟩

/-- What comes after a launch is a round of the sweeper, if anything. -/
theorem goesOn_start
    {p : Pipeline}
    (found : w.pipelines[i]? = some p)
    (depth : Nat) :
    ((launch i).after w).GoesOn ((start (reactTo depth) i).after w) := by
  rw [after_start_of_some found]
  split
  · exact refl_of World.GoesOn _
  · exact goesOn_sweepRound (goesOn_reactTo depth) i _

theorem events_launch
    {p : Pipeline}
    (found : w.pipelines[i]? = some p) :
    ((launch i).after w).events = w.events := by
  have listened : (w.listened i p).events = w.events := by
    unfold World.listened
    split <;> rfl
  rw [after_launch_of_some found]
  split <;> exact listened

/-- Nothing is altered after a pipeline has passed into a phase. -/
theorem World.Passes.unaltered
    {v : World}
    {phase : Phase}
    (passes : w.Passes i phase v)
    (unaltered : v.Unaltered w') :
    w.Passes i phase w' := by
  have same (j : Nat) : w'.pipelines[j]?.map Pipeline.life = v.pipelines[j]?.map Pipeline.life := by
    rw [← List.getElem?_map, ← List.getElem?_map, unaltered.lives]
  constructor
  case life => rw [same, passes.life]
  case listed => rw [unaltered.listeners, passes.listed]
  case lives => exact fun j other => (same j).trans (passes.lives j other)
  case others => rw [unaltered.listeners, passes.others]

/-- How the calls that were made so far, and any others, act on the list of listeners. -/
structure World.FollowsCalls (calls : List (Nat × Phase)) (w : World) : Prop where
  /-- The listeners and the sweepers are as the last calls want them. -/
  registered : w.Registered calls
  /-- A construction concerns the new pipeline only. -/
  construct : ∀ device settings,
    w.Passes w.pipelines.length .constructed ((construct device settings).after w)
  /-- A start concerns its pipeline only, but its sweeper may start reactions at once. -/
  start : ∀ depth, ∀ i < w.pipelines.length,
    let w' := (start (reactTo depth) i).after w
    ∃ more, w'.Lived (more ++ (i, .started) :: calls) ∧
      ((∀ s answer, .stepped s answer ∈ w'.events.drop w.events.length → ¬s.Manages) →
        more = [] ∧ w.Passes i .started w')
  /-- A stop concerns its pipeline only, and takes it off the listeners only if it is listed. -/
  stop : ∀ i < w.pipelines.length, ¬w.WaitsForItself i →
    w.Passes i .stopped ((stop i).after w) ∧
      (stopBy removeStrictly i).runIn w = (.ok ⟨⟩, (stop i).after w)
  /-- A stop that the sweeper of the pipeline itself makes fails, and no listener is altered. -/
  waits : ∀ i, w.WaitsForItself i →
    ((Session.stop i).runIn w).1 = .error .waitsForItself ∧
      w.Unaltered ((Session.stop i).after w)
  /-- The steps make these calls. -/
  steps : ∀ nested name i, lookupPair? name w.names = some i →
    (perform nested (.start name)).after w = (Session.start nested i).after w ∧
      (perform nested (.stop name)).after w = (Session.stop i).after w ∧
      (perform nested (.close name)).after w = (Session.stop i).after w
  /-- No other step makes a call, but for those in reactions. -/
  others : ∀ depth step, ∃ more, (runStep depth step w).after.Lived (more ++ calls) ∧
    ((∀ s ∈ stepsOf step (runStep depth step w).events, ¬s.Manages) → more = [])
  /-- An event of the group service is heard by all that are listed, once each. -/
  heard : w.listeners.Nodup ∧ ∀ nested event key,
    (emit nested event key).runIn w = (hearAll nested event key w.listeners).runIn w

/--
However constructions, starts and stops of any pipelines follow one another, a pipeline is listed
once if it was constructed or started last and not at all if it was stopped last, its sweeper runs
from a start to the next stop, and all others stay listed as they were.  A stop that a sweeper makes
of its own pipeline is no such call: it fails, and all listeners and sweepers stay what they were.
-/
theorem listeners_follow_calls (lived : w.Lived calls) : w.FollowsCalls calls := by
  have registered := lived.registered
  refine ⟨registered, registered.passes_construct, ?_, ?_, ?_, ?_, ?_, ?_, fun _ _ _ => rfl⟩
  · intro depth i there w'
    have found := List.getElem?_eq_getElem there
    obtain ⟨more, later, only⟩ := (goesOn_start found depth).lived (lived.launch there)
    rw [events_launch found] at only
    refine ⟨more, later, fun kept => ?_⟩
    obtain ⟨none, unaltered⟩ := only kept
    exact ⟨none, (registered.passes_launch found).unaltered unaltered⟩
  · intro i there apart
    have found := List.getElem?_eq_getElem there
    exact ⟨registered.passes_stop found apart, registered.runIn_stopBy found apart⟩
  · intro i inside
    exact ⟨by rw [inside.runIn_stop], inside.unaltered⟩
  · intro nested name i entry
    have known := runIn_named_of_some entry
    have done (act : Act World Unit) :
        (act >>= fun _ => (pure .done : Act World Answer)).after w = act.after w :=
      Act.after_bind_of_after_eq fun _ => rfl
    exact ⟨(Act.after_bind_ok _ known).trans (done _), (Act.after_bind_ok _ known).trans (done _),
      (Act.after_bind_ok _ known).trans (done _)⟩
  · intro depth step
    by_cases manages : step.Manages
    · obtain ⟨more, later⟩ := prolongs_perform (goesOn_reactTo depth) step w calls lived
      exact ⟨more, later, fun kept => absurd manages (kept step (mem_stepsOf.mpr (.inl rfl)))⟩
    · obtain ⟨more, later, only⟩ :=
        (goesOn_perform (goesOn_reactTo depth) manages w).lived lived
      refine ⟨more, later, fun kept => (only fun s answer noted => ?_).1⟩
      exact kept s (mem_stepsOf.mpr (.inr ⟨answer, noted⟩))
  · rw [List.nodup_iff_count_le_one]
    intro i
    rw [registered.listed]
    split <;> omega

/--
The sweeper of the first of two pipelines stops the second, but cannot stop its own, which is stopped
twice after the round and started again.
-/
theorem listeners_follow_calls_restarted :
    let first := (construct "olt:1" usualSettings).after { threaded := true }
    let built := (construct "olt:2" usualSettings).after first
    let sweeping := { (launch 0).after built with sweeper := some (0, 1) }
    let inside := (stop 1).after sweeping
    let outside := { (stop 0).after inside with sweeper := none }
    let stopped := (stop 0).after ((stop 0).after outside)
    let restarted := (launch 0).after stopped
    let calls := [(0, .started), (0, .stopped), (0, .stopped), (1, .stopped), (0, .started),
      (1, .constructed), (0, .constructed)]
    restarted.Lived calls ∧ restarted.FollowsCalls calls ∧ inside.WaitsForItself 0 ∧
      inside.FollowsCalls (calls.drop 3) ∧ outside.listeners.count 0 = 1 ∧
      stopped.listeners.count 0 = 0 ∧ restarted.listeners.count 0 = 1 ∧
      restarted.listeners.count 1 = 0 := by
  intro first built sweeping inside outside stopped restarted calls
  have constructed : built.Lived [(1, .constructed), (0, .constructed)] :=
    .construct (.construct (.begin true) "olt:1" usualSettings) "olt:2" usualSettings
  have begun : sweeping.Lived (calls.drop 4) :=
    .idle (.launch constructed (by decide)) (.of_same rfl rfl)
  have within : inside.Lived (calls.drop 3) := .stop begun (by decide) (by decide)
  have waits : inside.WaitsForItself 0 := by decide
  have ended : outside.Lived (calls.drop 3) :=
    .idle (.idle within waits.unaltered) (.of_same rfl rfl)
  have halted : stopped.Lived (calls.drop 1) :=
    .stop (.stop ended (by decide) (by decide)) (by decide) (by decide)
  have lived : restarted.Lived calls := .launch halted (by decide)
  exact ⟨lived, listeners_follow_calls lived, waits, listeners_follow_calls within,
    (listeners_follow_calls ended).registered.listed 0,
    (listeners_follow_calls halted).registered.listed 0,
    (listeners_follow_calls lived).registered.listed 0,
    (listeners_follow_calls lived).registered.listed 1⟩

end
end Session
end LineTerminal
