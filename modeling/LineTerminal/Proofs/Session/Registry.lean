import LineTerminal.Proofs.Session.PipelineEffects
import LineTerminal.Proofs.Session.Reached

/-!
# A registry that stays

Only three steps change the registry.  As long as none of them is carried out, in a reaction either,
the registry stays, and every pipeline keeps its number, its device and its settings.
-/

namespace LineTerminal
namespace Session

/-- A step that changes the registry. -/
def Step.Registers : Step → Prop
  | .buildRegistry _ _ _ | .register _ _ | .unregister _ => True
  | _ => False

instance : DecidablePred Step.Registers := fun s => by
  unfold Step.Registers
  split <;> infer_instance

/-- A step that builds, starts or stops pipelines. -/
def Step.Manages : Step → Prop
  | .build _ _ _ _ | .buildRegistry _ _ _ | .start _ | .stop _ | .close _ => True
  | _ => False

/-- The registry is the same, and so are the devices and the settings of the pipelines. -/
structure World.Undisturbed (w w' : World) : Prop where
  registry : w'.registry = w.registry
  pipelines : ∀ (i : Nat) (p : Pipeline), w.pipelines[i]? = some p →
    ∃ q, w'.pipelines[i]? = some q ∧ q.device = p.device ∧ q.settings = p.settings

/-- Unless it is noted that a step has changed the registry, it is undisturbed. -/
def World.KeepsRegistry (w w' : World) : Prop :=
  ∃ noted, w'.events = w.events ++ noted ∧
    ((∀ s answer, .stepped s answer ∈ noted → ¬s.Registers) → w.Undisturbed w')

namespace World
variable {u v w w' : World}

theorem Undisturbed.refl : w.Undisturbed w :=
  ⟨rfl, fun _ p found => ⟨p, found, rfl, rfl⟩⟩

theorem Undisturbed.trans
    (first : u.Undisturbed v)
    (second : v.Undisturbed w) :
    u.Undisturbed w where
  registry := second.registry.trans first.registry
  pipelines i p found := by
    obtain ⟨q, kept, device, settings⟩ := first.pipelines i p found
    obtain ⟨q', kept', device', settings'⟩ := second.pipelines i q kept
    exact ⟨q', kept', device'.trans device, settings'.trans settings⟩

theorem Undisturbed.of_pipelines_eq
    (registry : w'.registry = w.registry)
    (pipelines : w'.pipelines = w.pipelines) :
    w.Undisturbed w' where
  registry := registry
  pipelines _ p found := ⟨p, pipelines ▸ found, rfl, rfl⟩

/-- Pipelines may be changed, but for their devices and their settings. -/
theorem Undisturbed.modify
    (w : World)
    (i : Nat)
    {f : Pipeline → Pipeline}
    (device : ∀ p, (f p).device = p.device)
    (settings : ∀ p, (f p).settings = p.settings) :
    w.Undisturbed { w with pipelines := w.pipelines.modify i f } where
  registry := rfl
  pipelines j p found := by
    rw [List.getElem?_modify, found]
    by_cases here : i = j
    · exact ⟨f p, by simp [here], device p, settings p⟩
    · exact ⟨p, by simp [here], rfl, rfl⟩

/-- Pipelines may be added. -/
theorem Undisturbed.append
    (w : World)
    (added : List Pipeline) :
    w.Undisturbed { w with pipelines := w.pipelines ++ added } where
  registry := rfl
  pipelines i p found := by
    obtain ⟨inside, -⟩ := List.getElem?_eq_some_iff.mp found
    refine ⟨p, ?_, rfl, rfl⟩
    rwa [List.getElem?_append_left inside]

/-- What an operation does of its own leaves the registry undisturbed. -/
theorem Undisturbed.of_allows {e : Effects} (allowed : e.Allows w w') : w.Undisturbed w' where
  registry := allowed.registry
  pipelines i p found := by
    have same := congrArg (·[i]?) allowed.pipelines
    simp only [List.getElem?_map, found, Option.map_some, Option.map_eq_some_iff] at same
    obtain ⟨q, kept, same⟩ := same
    have device : q.untracked.device = p.untracked.device := by rw [same]
    have settings : q.untracked.settings = p.untracked.settings := by rw [same]
    exact ⟨q, kept, device, settings⟩

namespace KeepsRegistry

theorem of_undisturbed
    (events : w'.events = w.events)
    (undisturbed : w.Undisturbed w') :
    w.KeepsRegistry w' :=
  ⟨[], by rw [events, List.append_nil], fun _ => undisturbed⟩

/-- A change of neither the registry, the pipelines nor the events. -/
theorem of_same
    (registry : w'.registry = w.registry)
    (pipelines : w'.pipelines = w.pipelines)
    (events : w'.events = w.events) :
    w.KeepsRegistry w' :=
  of_undisturbed events (.of_pipelines_eq registry pipelines)

theorem trans
    (first : u.KeepsRegistry v)
    (second : v.KeepsRegistry w) :
    u.KeepsRegistry w := by
  obtain ⟨es, grown, undisturbed⟩ := first
  obtain ⟨es', grown', undisturbed'⟩ := second
  refine ⟨es ++ es', by rw [grown', grown, List.append_assoc], fun kept => ?_⟩
  simp only [List.mem_append] at kept
  exact (undisturbed fun s answer noted => kept s answer (.inl noted)).trans
    (undisturbed' fun s answer noted => kept s answer (.inr noted))

instance : Std.Refl World.KeepsRegistry := ⟨fun _ => of_same rfl rfl rfl⟩

instance : IsTrans World World.KeepsRegistry := ⟨fun _ _ _ => trans⟩

theorem of_allows {e : Effects} (allowed : e.Allows w w') : w.KeepsRegistry w' := by
  obtain ⟨noted, grown, -⟩ := allowed.events
  exact ⟨noted, grown, fun _ => .of_allows allowed⟩

end KeepsRegistry
end World

/-! ### Steps -/

theorem anyEffects_routine (x : Event) (_ : x.Routine) : anyEffects.notes x := trivial

section
variable {nested : Nested}

/-- A change of neither the registry, the pipelines, the listeners nor the events. -/
theorem interleaved_of_same
    {e : Effects}
    {w w' : World}
    (registry : w'.registry = w.registry)
    (listeners : w'.listeners = w.listeners)
    (pipelines : w'.pipelines = w.pipelines)
    (events : w'.events = w.events) :
    Interleaved e nested w w' :=
  .own (.of_pipelines_eq registry listeners pipelines
    (events.trans (List.append_nil _).symm) (by simp))

theorem follows_own_registered (device : String) :
    (registered device).Follows (Interleaved anyEffects nested) := by
  refine .bind .get fun w => ?_
  cases lookupPair? device w.registry with
  | some i => exact .pure i
  | none => exact .bind (follows_own_record trivial) fun _ => .throw _

theorem follows_own_submit (i : Nat) (ticket : Ticket) (o : Objective) :
    (submit nested i ticket o).Follows (Interleaved anyEffects nested) := by
  intro w
  cases found : w.pipelines[i]? with
  | none =>
      unfold submit
      rw [Act.after_bind_error _ (runIn_pipeline_of_none found)]
      exact .refl
  | some p => exact Interleaved.any (interleaved_submit ticket o found)

/-- A step that neither manages pipelines nor registers them does nothing of the kind of its own. -/
theorem follows_own_perform
    {step : Step}
    (manages : ¬step.Manages)
    (registers : ¬step.Registers) :
    (perform nested step).Follows (Interleaved anyEffects nested) := by
  cases step with
  | buildRegistry | build | start | stop | close => exact absurd trivial manages
  | register | unregister => exact absurd trivial registers
  | get device => exact .bind .get fun w => .pure _
  | devices => exact .bind .get fun w => .pure _
  | handle device objective tag reaction =>
      cases objective with
      | none => exact .throw _
      | some o =>
          refine .bind (fun w => interleaved_of_same rfl rfl rfl rfl) fun ticket => ?_
          refine .bind (follows_own_registered device) fun i => ?_
          exact .bind (follows_own_submit i ticket o) fun _ => .pure _
  | submit name o tag reaction =>
      refine .bind (follows_named name) fun i => ?_
      refine .bind (fun w => interleaved_of_same rfl rfl rfl rfl) fun ticket => ?_
      exact .bind (follows_own_submit i ticket o) fun _ => .pure _
  | tick name =>
      refine .bind (follows_named name) fun i => .bind (follows_pipeline i) fun p => ?_
      exact .ite (.bind (follows_own_sweepRound anyEffects_routine i) fun _ => .pure _) (.pure _)
  | expire name =>
      refine .bind (follows_named name) fun i => .bind ?_ fun rs => ?_
      · exact follows_own_expire anyEffects_routine i
      · exact .bind (.bind .get fun w => .pure _) fun _ => .pure _
  | advance | clock | mode => exact fun w => interleaved_of_same rfl rfl rfl rfl
  | emit event device ref =>
      refine .bind (follows_keyOf ref) fun key => .bind ?_ fun _ => .pure _
      exact follows_own_emit anyEffects_routine event key
  | complete number success =>
      refine .bind .get fun w => .ite (.bind ?_ fun _ => .pure _) (.pure _)
      exact follows_own_completeBatch anyEffects_routine _ success
  | batch number => exact .bind .get fun w => .pure _
  | putRecord id ref =>
      have stores (stored : StoredRecord) : (do
          modify fun w => { w with records := insertPair id stored w.records }
          return Answer.done : Act World Answer).Follows (Interleaved anyEffects nested) :=
        fun w => interleaved_of_same rfl rfl rfl rfl
      cases ref with
      | raw data => exact stores (.raw data)
      | group key => exact .bind (.map _ (follows_keyOf key)) stores
  | getRecord id =>
      refine .bind .get fun w => ?_
      cases lookupPair? id w.records with
      | none => exact .pure _
      | some stored => exact .bind (follows_dataOf stored) fun _ => .pure _
  | mappings name source =>
      refine .bind .get fun w => ?_
      dsimp only
      split
      · exact .pure _
      · refine .bind (follows_named name) fun i => .bind (follows_pipeline i) fun p => ?_
        exact .bind (follows_mappings p _) fun _ => .pure _
  | setGroup device key group =>
      exact .bind (follows_keyOf key) fun k w => interleaved_of_same rfl rfl rfl rfl
  | dropGroup device key =>
      exact .bind (follows_keyOf key) fun k w => interleaved_of_same rfl rfl rfl rfl
  | info name =>
      exact .bind (follows_named name) fun i => .bind (follows_pipeline i) fun p => .pure _
  | illegible action e => exact .throw _

theorem keepsRegistry_record (x : Event) : (record x).Follows World.KeepsRegistry :=
  fun _ => ⟨[x], rfl, fun _ => .of_pipelines_eq rfl rfl⟩

theorem keepsRegistry_modifyPipeline
    (i : Nat)
    {f : Pipeline → Pipeline}
    (device : ∀ p, (f p).device = p.device)
    (settings : ∀ p, (f p).settings = p.settings) :
    (modifyPipeline i f).Follows World.KeepsRegistry :=
  fun w => .of_undisturbed rfl (.modify w i device settings)

theorem keepsRegistry_listen (i : Nat) : (listen i).Follows World.KeepsRegistry := by
  refine .bind (follows_pipeline i) fun p => .ite (.bind ?_ fun _ => ?_) (.pure _)
  · exact fun w => .of_same rfl rfl rfl
  · exact keepsRegistry_modifyPipeline i (fun _ => rfl) (fun _ => rfl)

theorem keepsRegistry_stop (i : Nat) : (stop i).Follows World.KeepsRegistry := by
  have kept {f : Pipeline → Pipeline} (device : ∀ p, (f p).device = p.device)
      (settings : ∀ p, (f p).settings = p.settings) :
      (modifyPipeline i f).Follows World.KeepsRegistry :=
    keepsRegistry_modifyPipeline i device settings
  refine .bind (follows_pipeline i) fun p => .bind (kept (fun _ => rfl) fun _ => rfl) fun _ => ?_
  refine .bind (follows_awaitSweeper i p) fun _ => ?_
  refine .bind (kept (fun _ => rfl) fun _ => rfl) fun _ => .ite ?_ (.pure _)
  exact fun w => .of_same rfl rfl rfl

variable (within : ∀ script, (nested script).Follows World.KeepsRegistry)
include within

theorem keepsRegistry_of_interleaved
    {α : Type}
    {act : Act World α}
    {e : Effects}
    (follows : act.Follows (Interleaved e nested)) :
    act.Follows World.KeepsRegistry :=
  fun w => (follows w).follows World.KeepsRegistry.of_allows within

theorem keepsRegistry_sweepRound (i : Nat) : (sweepRound nested i).Follows World.KeepsRegistry :=
  keepsRegistry_of_interleaved within (follows_own_sweepRound anyEffects_routine i)

theorem keepsRegistry_start (i : Nat) : (start nested i).Follows World.KeepsRegistry := by
  refine .bind (keepsRegistry_listen i) fun _ => .bind (follows_pipeline i) fun p => ?_
  refine .ite (.bind ?_ fun _ => keepsRegistry_sweepRound within i) (.pure _)
  exact keepsRegistry_modifyPipeline i (fun _ => rfl) (fun _ => rfl)

theorem keepsRegistry_build (device : String) (settings : Settings) (autostart : Bool) :
    (build nested device settings autostart).Follows World.KeepsRegistry := by
  unfold build construct
  refine .bind (.bind .get fun w => ?_) fun i => ?_
  · refine .bind ?_ fun _ => .bind (keepsRegistry_listen _) fun _ => .pure _
    exact fun v => .of_undisturbed rfl (.append v _)
  · exact .ite (.bind (keepsRegistry_start within i) fun _ => .pure _) (.pure _)

/-- Every other step keeps the registry. -/
theorem keepsRegistry_perform
    {step : Step}
    (other : ¬step.Registers) :
    (perform nested step).Follows World.KeepsRegistry := by
  by_cases manages : step.Manages
  case neg => exact keepsRegistry_of_interleaved within (follows_own_perform manages other)
  cases step with
  | buildRegistry => exact absurd trivial other
  | build name device draft autostart =>
      refine .bind (follows_settingsOf draft) fun settings => ?_
      refine .bind (keepsRegistry_build within device settings autostart) fun i => ?_
      exact .bind (fun w => .of_same rfl rfl rfl) fun _ => .pure _
  | start name =>
      exact .bind (follows_named name) fun i =>
        .bind (keepsRegistry_start within i) fun _ => .pure _
  | stop name | close name =>
      exact .bind (follows_named name) fun i => .bind (keepsRegistry_stop i) fun _ => .pure _
  | _ => cases manages

end

/-- The scripts of reactions follow a relation if every step does that is noted as it ends. -/
theorem follows_reactTo_of_noted
    {R : World → World → Prop}
    [Std.Refl R]
    [IsTrans World R]
    (each : ∀ depth, (∀ script, (reactTo depth script).Follows R) → ∀ step answer w,
      R w (((perform (reactTo depth) step).after w).note [.stepped step answer]))
    (depth : Nat)
    (script : List Step) :
    (reactTo depth script).Follows R := by
  induction depth generalizing script with
  | zero => exact .pure _
  | succ depth deeper =>
      change (performEach (reactTo depth) script).Follows R
      induction script with
      | nil => exact .pure _
      | cons step rest ih =>
          intro w
          unfold performEach
          rw [Act.after_bind_ok _ (Act.runIn_attempt _ w), after_record_bind]
          exact trans_of R (each depth deeper step _ w) (ih _)

/-- The scripts of reactions keep the registry unless they note that they do not. -/
theorem keepsRegistry_reactTo (depth : Nat) (script : List Step) :
    (reactTo depth script).Follows World.KeepsRegistry := by
  refine follows_reactTo_of_noted (fun depth within step answer w => ?_) depth script
  by_cases registers : step.Registers
  · -- A step that changes the registry is noted as it ends, so nothing is promised then.
    obtain ⟨noted, grown⟩ := (path_runStep depth step w).grows.events
    refine ⟨noted ++ [.stepped step answer], ?_, fun kept => ?_⟩
    · rw [← List.append_assoc, grown]
      rfl
    · exact absurd registers (kept step answer (by simp))
  · exact (keepsRegistry_perform within registers w).trans (keepsRegistry_record _ _)

/-! ### Later states -/

/-- What leads from a state to a later one while no step changes the registry. -/
inductive World.Proceeds : World → World → Prop
  /-- A step is carried out, with all steps of reactions within it. -/
  | step {w : World} (depth : Nat) (step : Step)
      (only : ∀ s ∈ stepsOf step (runStep depth step w).events, ¬s.Registers) :
      w.Proceeds (runStep depth step w).after
  /-- An operation, which is still under way, makes a change of its own. -/
  | own {w w' : World} {e : Effects} (allowed : e.Allows w w') : w.Proceeds w'

/-- The states from a state on, between steps and in the middle of operations. -/
abbrev World.Later : World → World → Prop := Relation.ReflTransGen World.Proceeds

/-- The registry is undisturbed as long as no step changes it. -/
theorem World.Later.undisturbed {w w' : World} (later : w.Later w') : w.Undisturbed w' := by
  induction later with
  | refl => exact .refl
  | tail _ proceeds ih =>
      refine ih.trans ?_
      cases proceeds with
      | own allowed => exact .of_allows allowed
      | step depth step only =>
          have other : ¬step.Registers := only step (mem_stepsOf.mpr (.inl rfl))
          obtain ⟨noted, grown, kept⟩ :=
            keepsRegistry_perform (keepsRegistry_reactTo depth) other _
          refine kept fun s answer member => only s (mem_stepsOf.mpr (.inr ⟨answer, ?_⟩))
          change Event.stepped s answer ∈ ((perform (reactTo depth) step).after _).events.drop _
          rwa [grown, List.drop_left]

end Session
end LineTerminal
