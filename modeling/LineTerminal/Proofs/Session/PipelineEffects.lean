import LineTerminal.Proofs.Session.Interleaved
import LineTerminal.Proofs.Translation

/-!
# What a pipeline makes of an objective

All rules that an objective comes down to are of the device of its pipeline, and in the tables and
of the priorities that the settings of the pipeline say.  Groups are requested at this device, under
keys of its key space.  Whatever the scripts of reactions do meanwhile, a pipeline does nothing else
of its own for an objective, and no other pipeline gets a request.
-/

namespace LineTerminal

/--
A rule as a layout puts it: on the device, in one of the two tables, and of the usual priority, but
for a rule that drops packets.
-/
structure Rule.Fits (r : Rule) (l : Layout) (usual : Int) : Prop where
  device : r.device = l.device
  table : r.table = 0 ∨ r.table = l.serviceTable
  priority : r.priority = usual ∨ r.priority = l.dropPriority ∧ r.treatment = .empty

namespace Layout
variable {l : Layout} {app : String} {priority : Int} {s : Selector} {t : Treatment}

theorem fits_classifying : (l.classifying app priority s t).Fits l priority :=
  ⟨rfl, .inl rfl, .inl rfl⟩

theorem fits_serving : (l.serving app priority s t).Fits l priority :=
  ⟨rfl, .inr rfl, .inl rfl⟩

theorem fits_dropping : (l.classifying app l.dropPriority s .empty).Fits l priority :=
  ⟨rfl, .inl rfl, .inr ⟨rfl, rfl⟩⟩

end Layout

/-- The rule of a filter fits the layout. -/
theorem FilteringObjective.fits_of_compile
    {o : FilteringObjective}
    {l : Layout}
    {change : Change}
    {rules : List Rule}
    (compiled : o.compile l = .ok (change, rules)) :
    ∀ r ∈ rules, r.Fits l o.priority := by
  simp only [compile, bind_eq_ok_iff] at compiled
  obtain ⟨output, -, selector, -, change, -, rules_eq⟩ := compiled
  cases rules_eq
  intro r member
  rw [List.mem_singleton.mp member]
  exact Layout.fits_classifying

namespace ForwardingObjective
variable {o : ForwardingObjective} {l : Layout} {rules : List Rule}

theorem fits_of_fromSubscriber (compiled : o.fromSubscriber l = .ok rules) :
    ∀ r ∈ rules, r.Fits l o.priority := by
  obtain ⟨inner, outer, output, inPort, -, -, -, rfl⟩ := fromSubscriber_eq_ok_iff.1 compiled
  split
  · simp only [fromSubscriberAny, List.forall_mem_cons]
    exact ⟨Layout.fits_classifying, Layout.fits_dropping, Layout.fits_serving, nofun⟩
  · simp only [fromSubscriberFixed, List.forall_mem_cons]
    exact ⟨Layout.fits_classifying, Layout.fits_serving, nofun⟩

theorem fits_of_toSubscriber (compiled : o.toSubscriber l = .ok rules) :
    ∀ r ∈ rules, r.Fits l o.priority := by
  obtain ⟨output, outerVlan, innerVlan, inPort, word, -, -, -, -, -,
    ⟨-, rfl⟩ | ⟨-, pair, -, rfl⟩⟩ := toSubscriber_eq_ok_iff.1 compiled
  · simp only [toSubscriberAny, List.forall_mem_cons]
    exact ⟨Layout.fits_serving, Layout.fits_classifying, nofun⟩
  · simp only [toSubscriberFixed, List.forall_mem_cons]
    exact ⟨Layout.fits_serving, Layout.fits_classifying, nofun⟩

/-- All rules of a forwarding objective fit the layout. -/
theorem fits_of_compile
    {groupOf : Value → Except Rejection Value}
    (compiled : o.compile l groupOf = .ok rules) :
    ∀ r ∈ rules, r.Fits l o.priority := by
  have alone {s : Selector} {t : Treatment} :
      ∀ r ∈ [l.classifying o.app o.priority s t], r.Fits l o.priority := by
    simpa using Layout.fits_classifying
  unfold compile at compiled
  split at compiled
  · cases compiled
  · rw [bind_eq_ok_iff] at compiled
    obtain ⟨group, -, rules_eq⟩ := compiled
    cases rules_eq
    exact alone
  · unfold unicast at compiled
    split at compiled
    · exact fits_of_fromSubscriber compiled
    · exact fits_of_toSubscriber compiled
    · split at compiled
      · cases compiled
      · simp only [passthrough, bind_eq_ok_iff] at compiled
        obtain ⟨output, -, inPort, -, outerVlan, -, innerVlan, -, rules_eq⟩ := compiled
        cases rules_eq
        exact alone

end ForwardingObjective

namespace Session

/-- A batch that an objective comes down to at a pipeline. -/
def Pipeline.Batches (p : Pipeline) (b : Batch) : Objective → Prop
  | .filter o => ∃ change rules, o.compile p.layout = .ok (change, rules) ∧
      b = .ofRules change rules ∧ ∀ r ∈ rules, r.Fits p.layout o.priority
  | .forward o => ∃ w rules, o.compile p.layout (groupOf w p) = .ok rules ∧
      batchFor rules o.operation = .ok b ∧ ∀ r ∈ rules, r.Fits p.layout o.priority
  | .next _ => False

/-- The group key of an objective at a pipeline. -/
def Pipeline.Keys (p : Pipeline) (key : GroupKey) : Objective → Prop
  | .next o => p.keySpace.keyFor? o.id = some key
  | _ => False

/-- What a pipeline may do of its own for an objective. -/
def Pipeline.effects (p : Pipeline) (i : Nat) (ticket : Ticket) (o : Objective) : Effects where
  notes
    | .batch _ b => p.Batches b o
    | .group _ device key _ _ => device = p.device ∧ p.Keys key o
    | .stepped _ _ => False
    | _ => True
  makes j r := j = i ∧ r.subject.ticket = ticket ∧ p.Keys r.key o

section
variable {nested : Nested} {i : Nat} {p : Pipeline} {ticket : Ticket} {w : World}

theorem Pipeline.notes_routine {o : Objective} {x : Event} (routine : x.Routine) :
    (p.effects i ticket o).notes x := by
  cases x with
  | batch | group | stepped => cases routine
  | _ => trivial

theorem follows_own_refuse
    {e : Effects}
    (routine : ∀ x : Event, x.Routine → e.notes x)
    (kind : ObjectiveKind)
    (ticket : Ticket)
    (r : Refusal) :
    (refuse nested kind p ticket r).Follows (Interleaved e nested) :=
  .bind (follows_own_record (routine _ trivial)) fun _ => follows_own_callBack routine _ _

theorem follows_own_filter (o : FilteringObjective) :
    (filter nested p ticket o).Follows (Interleaved (p.effects i ticket (.filter o)) nested) := by
  unfold filter
  split
  · next change rules compiled =>
    have noted (number : Nat) :
        (p.effects i ticket (.filter o)).notes (.batch number (.ofRules change rules)) :=
      ⟨change, rules, compiled, rfl, FilteringObjective.fits_of_compile compiled⟩
    exact follows_own_submitBatch (fun _ => Pipeline.notes_routine) noted ticket
  · exact follows_own_refuse (fun _ => Pipeline.notes_routine) _ _ _
  · exact .throw _

theorem follows_own_forward (o : ForwardingObjective) :
    (forward nested p ticket o).Follows (Interleaved (p.effects i ticket (.forward o)) nested) := by
  refine .bind .get fun w => ?_
  split
  · next rules compiled =>
    cases batched : batchFor rules o.operation with
    | error f => exact .throw f
    | ok b =>
        have noted (number : Nat) : (p.effects i ticket (.forward o)).notes (.batch number b) :=
          ⟨w, rules, compiled, batched, ForwardingObjective.fits_of_compile compiled⟩
        exact follows_own_submitBatch (fun _ => Pipeline.notes_routine) noted ticket
  · exact follows_own_refuse (fun _ => Pipeline.notes_routine) _ _ _
  · exact .throw _

/-- A next objective makes a request at its pipeline, and then its group is asked for. -/
theorem interleaved_next
    (o : NextObjective)
    (found : w.pipelines[i]? = some p) :
    Interleaved (p.effects i ticket (.next o)) nested w
      ((next nested i p ticket o).after w) := by
  unfold next
  split
  · exact follows_own_refuse (fun _ => Pipeline.notes_routine) _ _ _ w
  · next key accepted =>
    have keyed : p.Keys key (.next o) := keyFor?_of_keyOfNext accepted
    have put := runIn_discard_put nested found key { ticket, id := o.id }
    split at put
    · rw [Act.after_bind_error _ put]
      exact .refl
    · have made : (p.effects i ticket (.next o)).makes i
          ⟨p.tracker.history.length, key, { ticket, id := o.id }, w.time⟩ :=
        ⟨rfl, rfl, keyed⟩
      -- The request is pending before the group service hears of it.
      rw [Act.after_bind_ok _ put]
      refine .trans (.own (.setTracker found (.put made))) ?_
      have asked (request : GroupRequest) (buckets : List Treatment) :
          (requestGroup nested request p.device key buckets o.app).Follows
            (Interleaved (p.effects i ticket (.next o)) nested) :=
        follows_own_requestGroup (fun _ => Pipeline.notes_routine) ⟨rfl, keyed⟩
      split
      · exact asked _ _ _
      · exact asked _ _ _
      · exact asked _ _ _
      · exact asked _ _ _
      · exact follows_own_record trivial _

/-- For an objective, a pipeline does nothing of its own but what it may. -/
theorem interleaved_submit
    (ticket : Ticket)
    (o : Objective)
    (found : w.pipelines[i]? = some p) :
    Interleaved (p.effects i ticket o) nested w ((submit nested i ticket o).after w) := by
  unfold submit
  rw [Act.after_bind_ok _ (runIn_pipeline_of_some found)]
  cases o with
  | filter o => exact follows_own_filter o w
  | forward o => exact follows_own_forward o w
  | next o => exact interleaved_next o found

end
end Session
end LineTerminal
