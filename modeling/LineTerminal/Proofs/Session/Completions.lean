import LineTerminal.Proofs.Session.Tickets

/-!
# How the outcomes of batches are passed on

The flow rule service may report outcomes of its batches whenever it likes: in any order, late, as
often as it likes, and from within a callback.  The first outcome of a batch is passed on at once to
the context of its objective, and to no other one.  Later ones are passed on to nobody.
-/

namespace LineTerminal
namespace Session
open LineTerminal.Session.Path (Along)

/-! ### Reports of outcomes -/

/-- What is noted when an outcome of a batch is reported. -/
def reportOf (number : Nat) (success : Bool) : Event :=
  .stepped (.complete number success) (.ok .done)

/-- An outcome of a batch is noted and then reported, if there is such a batch. -/
def report (nested : Nested) (number : Nat) (success : Bool) : Act World Unit := do
  if number < (← get).batches.length then
    record (reportOf number success)
    discard (completeBatch nested number success).attempt

/-- A batch is submitted for a new objective. -/
def handOver (nested : Nested) (tag : String) (context : Reaction) (b : Batch) :
    Act World Unit := do
  let ticket ← issue tag context
  discard (submitBatch nested ticket b).attempt

/--
What is reported and submitted, one after the other.  When that leads to a callback, the context
does what its reaction says before it returns or fails.
-/
inductive Conduct where
  /-- Nothing further. -/
  | done
  /-- An outcome of a batch is reported. -/
  | report (number : Nat) (success : Bool) (reaction next : Conduct)
  /-- A batch is submitted for a new objective. -/
  | submit (tag : String) (context : Reaction) (b : Batch) (reaction next : Conduct)

/-- Carries out a conduct.  What fails does not stop what follows. -/
def Conduct.perform : Conduct → Act World Unit
  | .done => pure ()
  | .report number success reaction next => do
    Session.report (fun _ => reaction.perform) number success
    next.perform
  | .submit tag context b reaction next => do
    handOver (fun _ => reaction.perform) tag context b
    next.perform

/-- What is noted when an outcome of a batch is passed on. -/
def SentBatch.passed (sent : SentBatch) (success : Bool) : List Event :=
  sent.noted success ++ sent.ticket.told (outcomeOf success)

/-- What a service reports first of a batch before it has taken it over. -/
def FlowMode.first? : FlowMode → Option Bool
  | .succeed | .succeedThenFail => some true
  | .fail | .failThenSucceed => some false
  | .hold | .refuse => none

/-- Before anything is reported of a batch, and before its context is told. -/
structure SentBatch.Before (sent : SentBatch) (number : Nat) (es : List Event) : Prop where
  unreported : ∀ success, reportOf number success ∉ es
  untold : endings sent.ticket.serial es = []

/--
How a batch fares in a series of events, if `immediate` tells what is reported as soon as it is
handed over.
-/
inductive SentBatch.Fares (sent : SentBatch) (number : Nat) (immediate : Option Bool)
    (es : List Event) : Prop
  /-- Nothing has been reported, and the context has not been told anything. -/
  | waits (later : immediate = none) (open_ : sent.settled = false) (before : sent.Before number es)
  /-- The first report has been passed on, and nothing else. -/
  | reported {earlier more : List Event} {success : Bool} (later : immediate = none)
      (settled : sent.settled = true)
      (split : es = earlier ++ (reportOf number success :: sent.passed success ++ more))
      (before : sent.Before number earlier) (untold : endings sent.ticket.serial more = [])
  /-- The outcome has been passed on as soon as the batch was handed over, and nothing else. -/
  | immediate {earlier more : List Event} {success : Bool} (at_once : immediate = some success)
      (settled : sent.settled = true)
      (split : es = earlier ++ (.batch number sent.batch :: sent.passed success ++ more))
      (before : sent.Before number earlier) (untold : endings sent.ticket.serial more = [])

/-! ### Conducts as paths -/

theorem after_report (nested : Nested) (number : Nat) (success : Bool) (w : World) :
    (report nested number success).after w =
      if number < w.batches.length then
        (completeBatch nested number success).after (w.note [reportOf number success])
      else w := by
  unfold report
  rw [Act.after_get_bind]
  split
  · rw [after_record_bind, Act.after, Act.runIn_discard]
    rfl
  · rfl

theorem after_handOver (nested : Nested) (tag : String) (context : Reaction) (b : Batch)
    (w : World) :
    (handOver nested tag context b).after w =
      (submitBatch nested ⟨w.tickets, tag, context⟩ b).after w.issued := by
  have issued : (issue tag context).runIn w = (.ok ⟨w.tickets, tag, context⟩, w.issued) := rfl
  unfold handOver
  rw [Act.after_bind_ok _ issued, Act.after, Act.runIn_discard]
  rfl

/-- A conduct leads along a path of moves. -/
theorem Conduct.follows (c : Conduct) (d : List Duty) : c.perform.Follows (Along d) := by
  induction c generalizing d with
  | done => exact .pure _
  | report number success reaction next inner ih =>
      refine .bind (fun w => ?_) fun _ => ih d
      rw [after_report]
      split
      · have noted : Along d w (w.note [reportOf number success]) :=
          .head (.begin (.complete number success)) (.single (.finish (.ok .done)))
        exact noted.trans (follows_completeBatch (fun d _ => inner d) d number success _)
      · exact .refl
  | submit tag context b reaction next inner ih =>
      refine .bind (fun w => ?_) fun _ => ih d
      rw [after_handOver]
      exact .head (.issue tag context) (path_submitBatch (fun d _ => inner d) d _ b w.issued)

/-! ### What is known of batches -/

/-- What a batch keeps when its outcome is passed on. -/
def SentBatch.matter (sent : SentBatch) : Batch × Ticket := (sent.batch, sent.ticket)

/-- A batch under a number whose outcome has not been passed on, or that is still to come. -/
def World.Awaits (w : World) (number : Nat) : Prop :=
  ∀ sent, w.batches[number]? = some sent → sent.settled = false

/-- What is reported of a batch as soon as it is handed over, if it is handed over later on. -/
def World.immediate (w : World) (number : Nat) : Option Bool :=
  if number < w.batches.length then none else w.flowMode.first?

/-- What is known of the state `v` when `es` has happened since the state `w`. -/
structure Since (d : List Duty) (w : World) (es : List Event) (v : World) : Prop where
  /-- The same duties stand. -/
  visited : Visited ⟨d, v⟩
  events : v.events = w.events ++ es
  mode : v.flowMode = w.flowMode
  /-- No batch is lost, and none changes its contents or its objective. -/
  kept : w.batches.map SentBatch.matter <+: v.batches.map SentBatch.matter
  /-- Nothing is reported of a batch before there is one. -/
  reported : ∀ number success, reportOf number success ∈ es → number < v.batches.length
  /-- The first report of a batch, and no other one, is passed on, if that was still to come. -/
  fares : ∀ number sent, v.batches[number]? = some sent → w.Awaits number →
    endings sent.ticket.serial w.events = [] ∧ sent.Fares number (w.immediate number) es

theorem reportOf_inj {n m : Nat} {a b : Bool} : reportOf n a = reportOf m b ↔ n = m ∧ a = b := by
  simp only [reportOf, Event.stepped.injEq, Step.complete.injEq, Int.natCast_inj, and_true]

theorem reportOf_not_mem_passed (sent : SentBatch) (success : Bool) (number : Nat) (again : Bool) :
    reportOf number again ∉ sent.passed success := by
  unfold SentBatch.passed SentBatch.noted Ticket.told reportOf
  cases success <;> cases sent.ticket.reaction <;> simp

theorem endings_passed (s : Nat) (sent : SentBatch) (success : Bool) :
    endings s (sent.passed success) =
      if sent.ticket.serial = s then sent.ticket.heard (outcomeOf success) else [] := by
  have quiet : endings s (sent.noted success) = [] := by
    cases success <;> rfl
  rw [SentBatch.passed, endings_append, quiet, endings_told, List.nil_append]

theorem SentBatch.Before.append
    {sent : SentBatch}
    {number : Nat}
    {es more : List Event}
    (before : sent.Before number es)
    (later : sent.Before number more) :
    sent.Before number (es ++ more) where
  unreported success member :=
    (List.mem_append.mp member).elim (before.unreported success) (later.unreported success)
  untold := by rw [endings_append, before.untold, later.untold, List.append_nil]

/-- A batch fares as before when nothing is said of it that matters. -/
theorem SentBatch.Fares.append
    {sent : SentBatch}
    {number : Nat}
    {immediate : Option Bool}
    {es more : List Event}
    (fares : sent.Fares number immediate es)
    (unreported : sent.settled = false → ∀ success, reportOf number success ∉ more)
    (untold : endings sent.ticket.serial more = []) :
    sent.Fares number immediate (es ++ more) := by
  cases fares with
  | waits later open_ before =>
      exact .waits later open_ (before.append ⟨unreported open_, untold⟩)
  | @reported earlier rest success later settled split before last =>
      have split' : es ++ more =
          earlier ++ (reportOf number success :: sent.passed success ++ (rest ++ more)) := by
        rw [split]
        simp only [List.append_assoc]
      refine .reported later settled split' before ?_
      rw [endings_append, last, untold, List.append_nil]
  | @immediate earlier rest success at_once settled split before last =>
      have split' : es ++ more =
          earlier ++ (.batch number sent.batch :: sent.passed success ++ (rest ++ more)) := by
        rw [split]
        simp only [List.append_assoc]
      refine .immediate at_once settled split' before ?_
      rw [endings_append, last, untold, List.append_nil]

/-- Every batch is known at the start, as nothing has happened. -/
theorem Since.start
    {d : List Duty}
    {w : World}
    (visited : Visited ⟨d, w⟩) :
    Since d w [] w where
  visited := visited
  events := (List.append_nil _).symm
  mode := rfl
  kept := List.prefix_rfl
  reported := by simp
  fares number sent found awaits := by
    have open_ := awaits sent found
    have inside := (List.getElem?_eq_some_iff.mp found).1
    have held : sent.ticket.serial ∈ Moment.outstanding ⟨d, w⟩ := by
      refine List.mem_append_right _ (List.mem_append_left _ (List.mem_filterMap.mpr ?_))
      exact ⟨sent, List.mem_of_getElem? found, by simp [SentBatch.held?, open_]⟩
    refine ⟨visited.tallied.endings_eq_nil held, .waits (if_pos inside) open_ ⟨by simp, rfl⟩⟩

namespace Since
variable {d : List Duty}
variable {w v v' : World}
variable {es more : List Event}

/-- Two batches are for different objectives. -/
theorem serial_ne
    (visited : Visited ⟨d, v⟩)
    {j k : Nat}
    {a b : SentBatch}
    (first : v.batches[j]? = some a)
    (second : v.batches[k]? = some b)
    (other : j ≠ k) :
    a.ticket.serial ≠ b.ticket.serial := by
  have apart : (v.batches.map (·.ticket.serial)).Nodup :=
    (List.nodup_append.mp visited.tallied.apart).1
  have inside : j < (v.batches.map (·.ticket.serial)).length := by
    rw [List.length_map]
    exact (List.getElem?_eq_some_iff.mp first).1
  intro same
  refine other ((List.getElem?_inj inside apart).mp ?_)
  rw [List.getElem?_map, List.getElem?_map, first, second, Option.map_some, Option.map_some, same]

/-- No batch goes away. -/
theorem longer (since : Since d w es v) : w.batches.length ≤ v.batches.length := by
  have le := since.kept.length_le
  rwa [List.length_map, List.length_map] at le

/-- Something happens that changes no batch. -/
theorem elsewhere
    (since : Since d w es v)
    (visited : Visited ⟨d, v'⟩)
    (events : v'.events = v.events ++ more)
    (mode : v'.flowMode = v.flowMode)
    (batches : v'.batches = v.batches)
    (reported : ∀ number success, reportOf number success ∈ more →
      ∃ sent, v.batches[number]? = some sent ∧ sent.settled = true)
    (untold : ∀ sent ∈ v.batches, endings sent.ticket.serial more = []) :
    Since d w (es ++ more) v' where
  visited := visited
  events := by rw [events, since.events, List.append_assoc]
  mode := mode.trans since.mode
  kept := batches ▸ since.kept
  reported number success member := by
    rw [batches]
    rcases List.mem_append.mp member with earlier | later
    · exact since.reported number success earlier
    · obtain ⟨sent, found, -⟩ := reported number success later
      exact (List.getElem?_eq_some_iff.mp found).1
  fares number sent found awaits := by
    rw [batches] at found
    obtain ⟨fresh, fares⟩ := since.fares number sent found awaits
    refine ⟨fresh, fares.append (fun open_ success member => ?_)
      (untold sent (List.mem_of_getElem? found))⟩
    obtain ⟨other, found', settled⟩ := reported number success member
    cases found.symm.trans found'
    rw [open_] at settled
    exact Bool.false_ne_true settled

/-- A batch is handed over, and its outcome may be passed on at once. -/
theorem handedOver
    {sent : SentBatch}
    (since : Since d w es v)
    (visited : Visited ⟨d, v'⟩)
    (events : v'.events = v.events ++ more)
    (mode : v'.flowMode = v.flowMode)
    (batches : v'.batches = v.batches ++ [sent])
    (unreported : ∀ number success, reportOf number success ∉ more)
    (untold : ∀ other ∈ v.batches, endings other.ticket.serial more = [])
    (fresh : endings sent.ticket.serial v.events = [])
    (fares : sent.Before v.batches.length es →
      sent.Fares v.batches.length w.flowMode.first? (es ++ more)) :
    Since d w (es ++ more) v' where
  visited := visited
  events := by rw [events, since.events, List.append_assoc]
  mode := mode.trans since.mode
  kept := by
    rw [batches, List.map_append]
    exact since.kept.trans (List.prefix_append _ _)
  reported number success member := by
    rw [batches, List.length_append]
    rcases List.mem_append.mp member with earlier | later
    · exact Nat.lt_add_right _ (since.reported number success earlier)
    · exact absurd later (unreported number success)
  fares number other found awaits := by
    rw [batches] at found
    rcases Nat.lt_or_ge number v.batches.length with earlier | new
    · rw [List.getElem?_append_left earlier] at found
      obtain ⟨fresh, fares⟩ := since.fares number other found awaits
      exact ⟨fresh, fares.append (fun _ => unreported number)
        (untold other (List.mem_of_getElem? found))⟩
    · have inside := (List.getElem?_eq_some_iff.mp found).1
      rw [List.length_append, List.length_singleton] at inside
      obtain rfl : number = v.batches.length := by omega
      rw [List.getElem?_concat_length] at found
      obtain rfl := Option.some.inj found
      rw [since.events, endings_append, List.append_eq_nil_iff] at fresh
      have before : sent.Before v.batches.length es :=
        ⟨fun success member => Nat.lt_irrefl _ (since.reported _ success member), fresh.2⟩
      have immediate : w.immediate v.batches.length = w.flowMode.first? :=
        if_neg (Nat.not_lt.mpr since.longer)
      rw [immediate]
      exact ⟨fresh.1, fares before⟩

/-- The first outcome of a batch is reported, and passed on at once. -/
theorem settled
    {number : Nat}
    {sent : SentBatch}
    (since : Since d w es v)
    (visited : Visited ⟨d, v'⟩)
    (found : v.batches[number]? = some sent)
    (open_ : sent.settled = false)
    (success : Bool)
    (events : v'.events = v.events ++ (reportOf number success :: sent.passed success))
    (mode : v'.flowMode = v.flowMode)
    (batches : v'.batches = v.batches.set number { sent with settled := true }) :
    Since d w (es ++ (reportOf number success :: sent.passed success)) v' where
  visited := visited
  events := by rw [events, since.events, List.append_assoc]
  mode := mode.trans since.mode
  kept := by
    rw [batches, map_settle found SentBatch.matter rfl]
    exact since.kept
  reported n again member := by
    rw [batches, List.length_set]
    rcases List.mem_append.mp member with earlier | later
    · exact since.reported n again earlier
    · rcases List.mem_cons.mp later with this | passed
      · obtain ⟨rfl, -⟩ := reportOf_inj.mp this
        exact (List.getElem?_eq_some_iff.mp found).1
      · exact absurd passed (reportOf_not_mem_passed sent success n again)
  fares n other found' awaits := by
    rw [batches, List.getElem?_set] at found'
    by_cases here : number = n
    · subst here
      rw [if_pos rfl, if_pos (List.getElem?_eq_some_iff.mp found).1] at found'
      obtain rfl := Option.some.inj found'
      obtain ⟨fresh, fares⟩ := since.fares number sent found awaits
      refine ⟨fresh, ?_⟩
      cases fares with
      | waits later _ before =>
          refine .reported later rfl (congrArg (es ++ ·) (List.append_nil _).symm) ?_ rfl
          exact ⟨before.unreported, before.untold⟩
      | reported _ settled | immediate _ settled =>
          rw [open_] at settled
          exact absurd settled Bool.false_ne_true
    · rw [if_neg here] at found'
      obtain ⟨fresh, fares⟩ := since.fares n other found' awaits
      refine ⟨fresh, fares.append (fun _ again member => ?_) ?_⟩
      · rcases List.mem_cons.mp member with this | passed
        · obtain ⟨rfl, -⟩ := reportOf_inj.mp this
          exact here rfl
        · exact reportOf_not_mem_passed sent success n again passed
      · have apart := serial_ne since.visited found found' here
        have passed := endings_passed other.ticket.serial sent success
        rwa [if_neg apart] at passed

end Since

/-! ### What a conduct does -/

section
variable {d : List Duty}
variable {w v : World}
variable {es : List Event}

/-- The first outcome of a batch has been passed on. -/
theorem Visited.passed
    (visited : Visited ⟨d, v⟩)
    {number : Nat}
    {sent : SentBatch}
    (found : v.batches[number]? = some sent)
    (open_ : sent.settled = false)
    (success : Bool)
    (started : List (Nat × Bool)) :
    Visited ⟨d, { (v.settle number sent).note (sent.passed success) with started }⟩ := by
  have relayed : Visited ⟨.telling sent.ticket (outcomeOf success) :: d, v.settle number sent⟩ :=
    .tail visited (.move (.relay (outcomeOf success) found open_))
  have noted := relayed.path (along_noted _ _ sent success)
  have told := noted.path (.single .tell)
  rw [World.note_note] at told
  exact .tail told (.move (.quiet ⟨rfl, rfl, rfl, rfl, rfl, rfl, rfl, rfl⟩))

/-- An objective that is held is not the one of a batch. -/
theorem Visited.serial_ne
    {t : Ticket}
    (held : Visited ⟨.holding t :: d, v⟩)
    {sent : SentBatch}
    (member : sent ∈ v.batches) :
    t.serial ≠ sent.ticket.serial := by
  have apart := (List.nodup_append.mp held.tallied.apart).2.2
  exact (apart _ (List.mem_map.mpr ⟨sent, member, rfl⟩) _ List.mem_cons_self).symm

/-- The context of an objective that is held is told of nothing that a batch could be told of. -/
theorem Visited.endings_told
    {t : Ticket}
    (held : Visited ⟨.holding t :: d, v⟩)
    (e : Ending) :
    ∀ sent ∈ v.batches, endings sent.ticket.serial (t.told e) = [] := by
  intro sent member
  rw [Session.endings_told, if_neg (held.serial_ne member)]

/-- What is known of batches is known when a ticket has been issued. -/
theorem Since.issued
    (since : Since d w es v)
    (tag : String)
    (context : Reaction) :
    Since d w es v.issued :=
  { since with visited := .tail (since.visited.issue tag context) (.move .abandon) }

/-- What is reported after the first outcome of a fresh batch is ignored. -/
theorem Since.ignored
    (since : Since d w es v)
    {number : Nat}
    (new : w.batches.length ≤ number)
    {first : Bool}
    (at_once : w.flowMode.first? = some first)
    (again : Bool) :
    (completeBatch nested number again).after v = v := by
  have awaits : w.Awaits number := by
    intro old found
    rw [List.getElem?_eq_none new] at found
    cases found
  have immediate : w.immediate number = some first :=
    (if_neg (Nat.not_lt.mpr new)).trans at_once
  have settled : ∀ sent, v.batches[number]? = some sent → sent.settled = true := by
    intro sent found
    cases (since.fares number sent found awaits).2 with
    | waits later => rw [immediate] at later; cases later
    | reported later => rw [immediate] at later; cases later
    | immediate _ settled => exact settled
  rw [Act.after, runIn_completeBatch_of_settled settled]

/-- What is known of batches stays known while an act is carried out. -/
def Keeps (d : List Duty) (w : World) (act : Act World Unit) : Prop :=
  ∀ es v, Since d w es v → ∃ es', Since d w es' (act.after v)

variable {nested : Nested}
variable (inner : ∀ script, Keeps d w (nested script))
include inner

/-- Whatever a context does, it does after it has been told. -/
theorem keeps_callBack
    {ticket : Ticket}
    {e : Ending}
    (es : List Event)
    (told : ∀ started, Since d w es { v.note (ticket.told e) with started }) :
    ∃ es', Since d w es' ((callBack nested ticket e).after v) := by
  obtain ⟨started, quiet | ⟨fails, onSuccess, onError, -, reacted⟩⟩ :=
    @after_callBack nested ticket e v
  · rw [quiet]
    exact ⟨es, told started⟩
  · rw [reacted]
    exact inner _ es _ (told started)

theorem keeps_report (number : Nat) (success : Bool) :
    Keeps d w (report nested number success) := by
  intro es v since
  rw [after_report]
  split
  · next inside =>
    have noted : Visited ⟨d, v.note [reportOf number success]⟩ :=
      since.visited.path (.head (.begin (.complete number success)) (.single (.finish (.ok .done))))
    have found : v.batches[number]? = some v.batches[number] := List.getElem?_eq_getElem inside
    cases settled : v.batches[number].settled with
    | true =>
        have ignored : ∀ sent, v.batches[number]? = some sent → sent.settled = true := by
          intro sent found'
          rwa [← Option.some.inj (found.symm.trans found')]
        rw [Act.after, runIn_completeBatch_of_settled (w := v.note _) ignored]
        refine ⟨_, since.elsewhere noted rfl rfl rfl (fun n again member => ?_) fun _ _ => rfl⟩
        obtain ⟨rfl, -⟩ := reportOf_inj.mp (List.mem_singleton.mp member)
        exact ⟨_, found, settled⟩
    | false =>
        rw [after_completeBatch_of_open (w := v.note _) found settled]
        refine keeps_callBack inner
          (es ++ reportOf number success :: v.batches[number].passed success) fun started => ?_
        rw [World.note_note]
        exact since.settled (noted.passed found settled success started) found settled success
          (List.append_assoc _ _ _) rfl rfl
  · exact ⟨es, since⟩

/-- An objective without changes is reported as a success. -/
theorem keeps_nothing
    {t : Ticket}
    (since : Since d w es v)
    (held : Visited ⟨.holding t :: d, v⟩) :
    ∃ es', Since d w es' ((callBack nested t .success).after v) := by
  refine keeps_callBack inner (es ++ t.told .success) fun started => ?_
  have told : Visited ⟨d, v.note (t.told .success)⟩ :=
    held.path (.head (.answer .success) (.single .tell))
  refine since.elsewhere (.tail told (.move (.quiet ⟨rfl, rfl, rfl, rfl, rfl, rfl, rfl, rfl⟩)))
    rfl rfl rfl (fun number success member => ?_) (held.endings_told .success)
  unfold Ticket.told reportOf at member
  cases reaction : t.reaction <;> simp [reaction] at member

/-- The outcome of a batch may be passed on as soon as it is handed over. -/
theorem keeps_first
    {t : Ticket}
    {success : Bool}
    (since : Since d w es v)
    (held : Visited ⟨.holding t :: d, v⟩)
    (at_once : w.flowMode.first? = some success)
    (b : Batch) :
    ∃ es', Since d w es' ((completeBatch nested v.batches.length success).after (v.send t b)) := by
  have sent : Visited ⟨d, v.send t b⟩ := .tail held (.move (.send b))
  have found : (v.send t b).batches[v.batches.length]? = some { batch := b, ticket := t } :=
    List.getElem?_concat_length
  have batches : ((v.send t b).settle v.batches.length { batch := b, ticket := t }).batches =
      v.batches ++ [{ batch := b, ticket := t, settled := true }] := by
    simp [World.settle, World.send]
  let passed := SentBatch.passed { batch := b, ticket := t } success
  rw [after_completeBatch_of_open found rfl]
  refine keeps_callBack inner (es ++ .batch v.batches.length b :: passed) fun started => ?_
  rw [World.note_note]
  refine since.handedOver (sent.passed found rfl success started) (List.append_assoc _ _ _) rfl
    batches ?_ ?_ ?_ ?_
  · intro number again member
    rcases List.mem_cons.mp member with this | passed
    · cases this
    · exact reportOf_not_mem_passed _ success number again passed
  · intro other member
    have passed := endings_passed other.ticket.serial { batch := b, ticket := t } success
    rwa [if_neg (held.serial_ne member)] at passed
  · exact held.tallied.endings_eq_nil List.mem_cons_self
  · intro before
    exact .immediate at_once rfl (congrArg (es ++ ·) (List.append_nil _).symm) before rfl

theorem keeps_applyBatch
    {t : Ticket}
    (since : Since d w es v)
    (held : Visited ⟨.holding t :: d, v⟩)
    (b : Batch) :
    ∃ es', Since d w es' ((applyBatch nested t b).after v) := by
  -- The service may have taken the batch over without a word.
  have silent (quiet : w.flowMode.first? = none) : ∃ es', Since d w es' (v.send t b) := by
    refine ⟨_, since.handedOver (.tail held (.move (.send b))) rfl rfl rfl (fun number again => ?_)
      (fun _ _ => rfl) (held.tallied.endings_eq_nil List.mem_cons_self) fun before => ?_⟩
    · exact List.not_mem_cons_of_ne_of_not_mem nofun List.not_mem_nil
    · refine .waits quiet rfl (before.append ⟨fun success => ?_, rfl⟩)
      exact List.not_mem_cons_of_ne_of_not_mem nofun List.not_mem_nil
  rw [after_applyBatch]
  have first := @keeps_first d w v es nested inner t
  -- A further outcome is reported to nobody.
  have twice (success again : Bool) (at_once : w.flowMode.first? = some success) :
      ∃ es', Since d w es' ((do
        completeBatch nested v.batches.length success
        completeBatch nested v.batches.length again : Act World Unit).after (v.send t b)) := by
    obtain ⟨es', later⟩ := first since held at_once b
    refine ⟨es', ?_⟩
    rwa [Act.after_bind_of_after_eq fun _ => later.ignored since.longer at_once again]
  have mode := since.mode
  cases answers : v.flowMode with
  | succeed => exact first since held (by rw [← mode, answers]; rfl) b
  | fail => exact first since held (by rw [← mode, answers]; rfl) b
  | hold => exact silent (by rw [← mode, answers]; rfl)
  | succeedThenFail => exact twice true false (by rw [← mode, answers]; rfl)
  | failThenSucceed => exact twice false true (by rw [← mode, answers]; rfl)
  | refuse => exact silent (by rw [← mode, answers]; rfl)

theorem keeps_handOver (tag : String) (context : Reaction) (b : Batch) :
    Keeps d w (handOver nested tag context b) := by
  intro es v since
  have held := since.visited.issue tag context
  rw [after_handOver]
  unfold submitBatch
  split
  · exact keeps_nothing inner (since.issued tag context) held
  · exact keeps_applyBatch inner (since.issued tag context) held b

omit inner in
/-- Acts in sequence keep what is known when each of them does. -/
theorem Keeps.bind
    {act : Act World Unit}
    {rest : Unit → Act World Unit}
    (first : Keeps d w act)
    (second : Keeps d w (rest ())) :
    Keeps d w (act >>= rest) := by
  intro es v since
  obtain ⟨es', later⟩ := first es v since
  unfold Act.after at later ⊢
  rw [Act.runIn_bind]
  cases done : act.runIn v with
  | mk outcome v' =>
      rw [done] at later
      cases outcome with
      | ok _ => exact second es' v' later
      | error f => exact ⟨es', later⟩

omit inner in
/-- A conduct keeps what is known of batches. -/
theorem Conduct.keeps (c : Conduct) : Keeps d w c.perform := by
  induction c with
  | done => exact fun es v since => ⟨es, since⟩
  | report number success reaction next inner later =>
      exact (keeps_report (fun _ => inner) number success).bind later
  | submit tag context b reaction next inner later =>
      exact (keeps_handOver (fun _ => inner) tag context b).bind later

end

/-- When the first outcome of a batch is reported, its context is told once and for all. -/
theorem Visited.endings_completeBatch
    {d : List Duty}
    {w : World}
    (visited : Visited ⟨d, w⟩)
    {nested : Nested}
    (within : ∀ d script, (nested script).Follows (Along d))
    {number : Nat}
    {sent : SentBatch}
    (found : w.batches[number]? = some sent)
    (open_ : sent.settled = false)
    (success : Bool)
    {m : Moment}
    (later : Relation.ReflTransGen Turn ⟨d, (completeBatch nested number success).after w⟩ m) :
    endings sent.ticket.serial m.world.events = sent.ticket.heard (outcomeOf success) := by
  let telling : Moment := ⟨.telling sent.ticket (outcomeOf success) :: d, w.settle number sent⟩
  have relayed : Visited telling := .tail visited (.move (.relay (outcomeOf success) found open_))
  have gone := relayed.tallied.not_mem_outstanding rfl
  have issued := relayed.tallied.issued List.mem_cons_self
  have untold : endings sent.ticket.serial w.events = [] :=
    relayed.tallied.endings_eq_nil List.mem_cons_self
  have path := along_callBack within d sent.ticket (outcomeOf success)
    ((w.settle number sent).note (sent.noted success))
  rw [← after_completeBatch_of_open found open_, World.note_note] at path
  have told : endings sent.ticket.serial (w.events ++ sent.passed success) =
      sent.ticket.heard (outcomeOf success) := by
    rw [endings_append, untold, endings_passed, if_pos rfl, List.nil_append]
  exact (endings_eq_of_gone (path.turns.trans later) issued gone).trans told

/--
Whatever is submitted and reported, the first outcome of a batch is passed on at once to the context
of its objective, and nothing else is, whatever happens afterwards.  An objective without changes has
succeeded.
-/
theorem Conduct.outcomes_passed_on_once
    {d : List Duty}
    {w : World}
    (visited : Visited ⟨d, w⟩)
    (c : Conduct)
    {nested : Nested}
    (within : ∀ d script, (nested script).Follows (Along d)) :
    (∃ es, Since d w es (c.perform.after w)) ∧
      (∀ number sent success, w.batches[number]? = some sent →
        (sent.settled = true →
          (completeBatch nested number success).runIn w = (.ok (), w)) ∧
        (sent.settled = false → endings sent.ticket.serial w.events = [] ∧
          ∀ m, Relation.ReflTransGen Turn ⟨d, (completeBatch nested number success).after w⟩ m →
            endings sent.ticket.serial m.world.events =
              sent.ticket.heard (outcomeOf success))) ∧
      ∀ tag context,
        let ticket : Ticket := ⟨w.tickets, tag, context⟩
        let after := (submitBatch nested ticket []).after w.issued
        endings ticket.serial after.events = ticket.heard .success ∧
          after.batchesFor ticket.serial = [] := by
  refine ⟨c.keeps [] w (.start visited), fun number sent success found => ⟨?_, ?_⟩, ?_⟩
  · intro settled
    refine runIn_completeBatch_of_settled (fun other found' => ?_) success
    rwa [← Option.some.inj (found.symm.trans found')]
  · intro open_
    have awaits : w.Awaits number := by
      intro other found'
      rwa [← Option.some.inj (found.symm.trans found')]
    refine ⟨((Since.start visited).fares number sent found awaits).1, fun m later => ?_⟩
    exact visited.endings_completeBatch within found open_ success later
  · intro tag context
    have held := visited.issue tag context
    have unsent : w.issued.batchesFor w.tickets = [] :=
      visited.tallied.batchesFor_eq_nil (Nat.le_refl _)
    obtain ⟨told, sent⟩ := held.callBack within .success
    exact ⟨told, sent.trans unsent⟩

/-- A batch with one change. -/
def oneRule : Batch :=
  .ofRules .add
    [{ device := "olt"
       app := "olt"
       table := 0
       priority := 1000
       selector := .ofList [.inPort (.number 7)]
       treatment := {} }]

/-- Two batches are submitted, each for an objective of its own. -/
def twoBatches : Conduct :=
  .submit "first" (.recording true [] []) oneRule .done <|
  .submit "second" (.recording false [] []) oneRule .done .done

/--
The first of two batches fails.  While its context is told, both are reported to have succeeded; then
the second one is reported to have failed.
-/
def mixedReports : Conduct :=
  .report 0 false (.report 0 true .done (.report 1 true .done .done)) <|
  .report 1 false .done .done

/-- The first report of a batch decides, and a batch without changes succeeds. -/
theorem outcomes_passed_on_once_twoBatches :
    let nested := reactTo 0
    let w : World := twoBatches.perform.after { flowMode := .hold }
    let v : World := mixedReports.perform.after w
    let third : Ticket := ⟨v.tickets, "third", .recording false [] []⟩
    (∃ es, Since [] w es v) ∧
      endings 0 ((completeBatch nested 0 false).after w).events =
        [.failure .flowInstallationFailed] ∧
      (completeBatch nested 0 true).runIn v = (.ok (), v) ∧
      endings third.serial ((submitBatch nested third []).after v.issued).events =
        third.heard .success := by
  intro nested w v third
  have step : Turn ⟨[.doing (.mode (some .hold) none none)], {}⟩
      ⟨[.doing (.mode (some .hold) none none)], { flowMode := .hold }⟩ :=
    .move (.mode List.mem_cons_self)
  have held : Visited ⟨[], { flowMode := .hold }⟩ :=
    .tail (.tail (.single (.move (.begin _))) step) .leave
  have within := follows_reactTo 0
  obtain ⟨_, submitted⟩ := (twoBatches.outcomes_passed_on_once held within).1
  have first := mixedReports.outcomes_passed_on_once submitted.visited within
  obtain ⟨_, reported⟩ := first.1
  have later := Conduct.done.outcomes_passed_on_once reported.visited within
  have decided : v.batches[0]?.map SentBatch.settled = some true := by decide +kernel
  obtain ⟨sent, found, settled⟩ := Option.map_eq_some_iff.mp decided
  refine ⟨first.1, ?_, (later.2.1 0 sent true found).1 settled, (later.2.2 "third" _).1⟩
  exact ((first.2.1 0 _ false rfl).2 rfl).2 _ .refl

end Session
end LineTerminal
