import LineTerminal.Proofs.Session.Move

/-!
# The books of a session

Every submitted objective has a ticket with a number of its own.  At each moment the number of a
ticket is held by a duty or by a batch that is under way, or a next objective with it has been
accepted, or it has been dealt with.  The books show who holds which number, whose context is still
to be told, the accepted next objectives with their fates, and what has happened.
-/

namespace LineTerminal
namespace Session

/-- The answers of the context of a ticket to one call. -/
def Ticket.heard (t : Ticket) (e : Ending) : List Ending :=
  match t.reaction with
  | .silent => []
  | .recording _ _ _ => [e]

/-- How the context of the objective with a number was told that it ended, in order. -/
def endings (serial : Nat) (events : List Event) : List Ending :=
  events.filterMap fun
    | .ended t e => if t.serial = serial then some e else none
    | _ => none

/-- Whether an event notes that a next objective was accepted. -/
def Event.isAcceptance : Event → Bool
  | .group _ _ _ _ _ => true
  | .logged .unknownOperation => true
  | _ => false

/-- Whether an event hands the record of a group to the store. -/
def Event.isStore (id : Value) (key : GroupKey) : Event → Bool
  | .store i k _ => i = id ∧ k = key
  | _ => false

/-- Whether a next objective with an identifier and a key was confirmed. -/
def resolvedFor (id : Value) (key : GroupKey) (entry : Request NextTicket Float × Fate) : Bool :=
  entry.1.subject.id = id ∧ entry.1.key = key ∧ entry.2 = .resolved

/--
A confirmed request has been answered.  Its record was handed to the store.  If the store took it,
the context was told of a success right after that; if the store failed, this was noted, and the
context was told of a failure.  The context was told nothing else.
-/
def Confirmed (events : List Event) (r : Request NextTicket Float) : Prop :=
  ∃ fails, confirmation fails r <:+: events ∧
    endings r.subject.ticket.serial events =
      r.subject.ticket.heard (if fails then .failure .groupInstallationFailed else .success)

/-- How often the context of the objective with a number has to be told. -/
def owing (owed : List (Ticket × Ending)) (s : Nat) : Nat := owed.countP fun o => o.1.serial = s

/-- How many next objectives with a number were accepted. -/
def made (entries : List (Request NextTicket Float × Fate)) (s : Nat) : Nat :=
  entries.countP fun entry => entry.1.subject.ticket.serial = s

/-- How the context of an accepted next objective has been told so far, by its fate. -/
def Answers
    (owed : List (Ticket × Ending))
    (events : List Event)
    (r : Request NextTicket Float) :
    Fate → Prop
  | .pending | .superseded =>
    owing owed r.subject.ticket.serial = 0 ∧ endings r.subject.ticket.serial events = []
  | .expired =>
    ((r.subject.ticket, .failure .groupInstallationFailed) ∈ owed ∧
      endings r.subject.ticket.serial events = []) ∨
    (owing owed r.subject.ticket.serial = 0 ∧
      endings r.subject.ticket.serial events =
        r.subject.ticket.heard (.failure .groupInstallationFailed))
  | .resolved => owing owed r.subject.ticket.serial = 0 ∧ Confirmed events r

/-- The numbers of tickets, the accepted next objectives, and what has happened. -/
structure Books where
  /-- How many tickets were issued. -/
  tickets : Nat
  /-- The numbers that a duty or a batch holds. -/
  held : List Nat
  /-- The tickets whose context has to be told, and what. -/
  owed : List (Ticket × Ending)
  /-- The accepted next objectives and their fates. -/
  entries : List (Request NextTicket Float × Fate)
  /-- What has happened. -/
  events : List Event

/--
How often a number may be held, owed an answer, made an entry and told.  A number that was not
issued is nowhere.  A number is held once at most, and not after its objective was accepted.  Its
context is told once at most, and not while the number is held.
-/
def Tallies (issued : Prop) (held owed made told : Nat) : Prop :=
  (¬issued → held + owed + made + told = 0) ∧ held + made ≤ 1 ∧ owed + told ≤ 1 ∧
    (0 < held → owed + told = 0)

/-- The books are balanced when no number is in two places and everybody is told once. -/
structure Books.Balanced (b : Books) : Prop where
  /-- The numbers tally. -/
  tallies : ∀ s, Tallies (s < b.tickets) (b.held.count s) (owing b.owed s) (made b.entries s)
    (endings s b.events).length
  /-- The contexts of accepted next objectives have been told as their fates demand. -/
  answered : ∀ entry ∈ b.entries, Answers b.owed b.events entry.1 entry.2
  /-- Every acceptance leaves one entry. -/
  accepted : b.events.countP Event.isAcceptance = b.entries.length
  /-- A record is stored once for every confirmed entry, and for no other. -/
  stored : ∀ id key, b.events.countP (Event.isStore id key) = b.entries.countP (resolvedFor id key)

/-! ### Owing and making -/

@[simp] theorem owing_cons (o : Ticket × Ending) (owed : List (Ticket × Ending)) (s : Nat) :
    owing (o :: owed) s = owing owed s + if o.1.serial = s then 1 else 0 := by
  simp [owing, List.countP_cons]

@[simp] theorem made_cons
    (entry : Request NextTicket Float × Fate)
    (entries : List (Request NextTicket Float × Fate))
    (s : Nat) :
    made (entry :: entries) s =
      made entries s + if entry.1.subject.ticket.serial = s then 1 else 0 := by
  simp [made, List.countP_cons]

theorem owing_pos_of_mem {o : Ticket × Ending} {owed : List (Ticket × Ending)} (member : o ∈ owed) :
    0 < owing owed o.1.serial := by
  rw [owing, List.countP_pos_iff]
  exact ⟨o, member, by simp⟩

theorem made_pos_of_mem
    {entry : Request NextTicket Float × Fate}
    {entries : List (Request NextTicket Float × Fate)}
    (member : entry ∈ entries) :
    0 < made entries entry.1.subject.ticket.serial := by
  rw [made, List.countP_pos_iff]
  exact ⟨entry, member, by simp⟩

/-! ### Endings -/

@[simp] theorem endings_nil (s : Nat) : endings s [] = [] := rfl

@[simp] theorem endings_append (s : Nat) (es fs : List Event) :
    endings s (es ++ fs) = endings s es ++ endings s fs := by
  simp [endings]

theorem endings_told (s : Nat) (t : Ticket) (e : Ending) :
    endings s (t.told e) = if t.serial = s then t.heard e else [] := by
  unfold Ticket.told Ticket.heard
  cases t.reaction with
  | silent => simp
  | recording fails onSuccess onError => by_cases same : t.serial = s <;> simp [endings, same]

theorem endings_confirmation (s : Nat) (fails : Bool) (r : Request NextTicket Float) :
    endings s (confirmation fails r) =
      if r.subject.ticket.serial = s then
        r.subject.ticket.heard (if fails then .failure .groupInstallationFailed else .success)
      else [] := by
  have told := endings_told s r.subject.ticket
  cases fails with
  | true => exact told _
  | false => exact told _

theorem length_heard_le (t : Ticket) (e : Ending) : (t.heard e).length ≤ 1 := by
  unfold Ticket.heard
  cases t.reaction <;> simp

/-- An event that is neither an answer, a record to store, nor an acceptance. -/
def Event.Neutral : Event → Prop
  | .ended _ _ | .store _ _ _ | .group _ _ _ _ _ | .logged .unknownOperation => False
  | _ => True

theorem Event.Plain.neutral {e : Event} (plain : e.Plain) : e.Neutral := by
  unfold Event.Plain at plain
  unfold Event.Neutral
  split at plain <;> simp_all

namespace Event.Neutral
variable {e : Event}

theorem endings_singleton (neutral : e.Neutral) (s : Nat) : endings s [e] = [] := by
  cases e <;> first | rfl | exact neutral.elim

theorem isStore (neutral : e.Neutral) (id : Value) (key : GroupKey) :
    Event.isStore id key e = false := by
  cases e <;> first | rfl | exact neutral.elim

theorem isAcceptance (neutral : e.Neutral) : e.isAcceptance = false := by
  cases e with
  | logged n => cases n <;> first | rfl | exact neutral.elim
  | _ => first | rfl | exact neutral.elim

end Event.Neutral

theorem countP_isStore_told (id : Value) (key : GroupKey) (t : Ticket) (e : Ending) :
    (t.told e).countP (Event.isStore id key) = 0 := by
  unfold Ticket.told
  cases t.reaction <;> rfl

theorem countP_isAcceptance_told (t : Ticket) (e : Ending) :
    (t.told e).countP Event.isAcceptance = 0 := by
  unfold Ticket.told
  cases t.reaction <;> rfl

theorem countP_isAcceptance_confirmation (fails : Bool) (r : Request NextTicket Float) :
    (confirmation fails r).countP Event.isAcceptance = 0 := by
  have told := countP_isAcceptance_told r.subject.ticket
  cases fails <;> simp [confirmation, Event.isAcceptance, told]

theorem countP_isStore_confirmation
    (id : Value)
    (key : GroupKey)
    (fails : Bool)
    (r : Request NextTicket Float) :
    (confirmation fails r).countP (Event.isStore id key) =
      if r.subject.id = id ∧ r.key = key then 1 else 0 := by
  have told := countP_isStore_told id key r.subject.ticket
  cases fails <;> by_cases same : r.subject.id = id ∧ r.key = key <;>
    simp [confirmation, Event.isStore, told, same]

/-- What has been answered stays answered while the context is not told again. -/
theorem Confirmed.append
    {events : List Event}
    {r : Request NextTicket Float}
    (confirmed : Confirmed events r)
    {later : List Event}
    (quiet : endings r.subject.ticket.serial later = []) :
    Confirmed (events ++ later) r := by
  obtain ⟨fails, block, told⟩ := confirmed
  refine ⟨fails, block.trans (List.prefix_append events later).isInfix, ?_⟩
  rw [endings_append, quiet, List.append_nil, told]

/-- What is owed and told to others does not concern an accepted next objective. -/
theorem Answers.keep
    {owed owed' : List (Ticket × Ending)}
    {events : List Event}
    {r : Request NextTicket Float}
    {fate : Fate}
    (answers : Answers owed events r fate)
    (owes : ∀ e, (r.subject.ticket, e) ∈ owed → (r.subject.ticket, e) ∈ owed')
    (counted : owing owed' r.subject.ticket.serial = owing owed r.subject.ticket.serial)
    {later : List Event}
    (quiet : endings r.subject.ticket.serial later = []) :
    Answers owed' (events ++ later) r fate := by
  have same : endings r.subject.ticket.serial (events ++ later) =
      endings r.subject.ticket.serial events := by
    rw [endings_append, quiet, List.append_nil]
  cases fate with
  | pending | superseded =>
      obtain ⟨none, untold⟩ := answers
      exact ⟨counted.trans none, same.trans untold⟩
  | expired =>
      rcases answers with ⟨member, untold⟩ | ⟨none, told⟩
      · exact .inl ⟨owes _ member, same.trans untold⟩
      · exact .inr ⟨counted.trans none, same.trans told⟩
  | resolved =>
      obtain ⟨none, confirmed⟩ := answers
      exact ⟨counted.trans none, confirmed.append quiet⟩

/-- An accepted next objective is told what it is owed, and others are not concerned. -/
theorem Answers.tell
    {t : Ticket}
    {e : Ending}
    {owed : List (Ticket × Ending)}
    {events : List Event}
    {r : Request NextTicket Float}
    {fate : Fate}
    (answers : Answers ((t, e) :: owed) events r fate)
    (once : owing ((t, e) :: owed) r.subject.ticket.serial ≤ 1) :
    Answers owed (events ++ t.told e) r fate := by
  by_cases same : t.serial = r.subject.ticket.serial
  · rw [owing_cons, if_pos same] at once
    have settled : owing owed r.subject.ticket.serial = 0 := by omega
    have owes : owing ((t, e) :: owed) r.subject.ticket.serial ≠ 0 := by
      rw [owing_cons, if_pos same]
      omega
    cases fate with
    | pending | superseded | resolved => exact absurd answers.1 owes
    | expired =>
        rcases answers with ⟨member, untold⟩ | ⟨none, -⟩
        · refine .inr ⟨settled, ?_⟩
          rcases List.mem_cons.mp member with first | later
          · obtain ⟨rfl, rfl⟩ := Prod.mk.inj first
            rw [endings_append, untold, endings_told, if_pos rfl, List.nil_append]
          · have positive := owing_pos_of_mem later
            rw [settled] at positive
            exact absurd positive (Nat.lt_irrefl 0)
        · exact absurd none owes
  · refine answers.keep ?_ ?_ ?_
    · intro e' owes
      rcases List.mem_cons.mp owes with first | later
      · exact absurd (congrArg Ticket.serial (Prod.mk.inj first).1).symm same
      · exact later
    · rw [owing_cons, if_neg same, Nat.add_zero]
    · rw [endings_told, if_neg same]

namespace Books

/-- The same books, written in another order. -/
structure Same (b c : Books) : Prop where
  tickets : b.tickets = c.tickets
  held : b.held.Perm c.held
  owed : b.owed.Perm c.owed
  entries : b.entries.Perm c.entries
  events : b.events = c.events

/-- The order of the books does not matter. -/
theorem Balanced.of_same
    {b c : Books}
    (balanced : b.Balanced)
    (same : b.Same c) :
    c.Balanced := by
  obtain ⟨tickets, held, owed, entries, events⟩ := same
  have owes (s : Nat) : owing c.owed s = owing b.owed s := (owed.countP_eq _).symm
  have makes (s : Nat) : made c.entries s = made b.entries s := (entries.countP_eq _).symm
  refine ⟨?_, ?_, ?_, ?_⟩
  · intro s
    rw [← held.count_eq, owes, makes, ← events, ← tickets]
    exact balanced.tallies s
  · intro entry member
    have answers := balanced.answered entry (entries.mem_iff.mpr member)
    have kept := answers.keep (fun e owed' => owed.mem_iff.mp owed') (owes _) (endings_nil _)
    rwa [List.append_nil, events] at kept
  · rw [← events, ← entries.length_eq]
    exact balanced.accepted
  · intro id key
    rw [← events, ← entries.countP_eq]
    exact balanced.stored id key

/-- There are no objectives at the start of a session. -/
theorem Balanced.start : (⟨0, [], [], [], []⟩ : Books).Balanced :=
  ⟨by simp [owing, made, Tallies], by simp, rfl, fun _ _ => rfl⟩

namespace Balanced
variable {tickets s : Nat}
variable {held : List Nat}
variable {owed : List (Ticket × Ending)}
variable {entries : List (Request NextTicket Float × Fate)}
variable {events : List Event}
variable {r : Request NextTicket Float}

theorem perm_held
    (balanced : (⟨tickets, held, owed, entries, events⟩ : Books).Balanced)
    {held' : List Nat}
    (same : held.Perm held') :
    (⟨tickets, held', owed, entries, events⟩ : Books).Balanced :=
  balanced.of_same ⟨rfl, same, .refl _, .refl _, rfl⟩

theorem perm_owed
    (balanced : (⟨tickets, held, owed, entries, events⟩ : Books).Balanced)
    {owed' : List (Ticket × Ending)}
    (same : owed.Perm owed') :
    (⟨tickets, held, owed', entries, events⟩ : Books).Balanced :=
  balanced.of_same ⟨rfl, .refl _, same, .refl _, rfl⟩

theorem perm_entries
    (balanced : (⟨tickets, held, owed, entries, events⟩ : Books).Balanced)
    {entries' : List (Request NextTicket Float × Fate)}
    (same : entries.Perm entries') :
    (⟨tickets, held, owed, entries', events⟩ : Books).Balanced :=
  balanced.of_same ⟨rfl, .refl _, .refl _, same, rfl⟩

/-- An event that says nothing about objectives keeps the books balanced. -/
theorem note
    (balanced : (⟨tickets, held, owed, entries, events⟩ : Books).Balanced)
    {e : Event}
    (neutral : e.Neutral) :
    (⟨tickets, held, owed, entries, events ++ [e]⟩ : Books).Balanced := by
  obtain ⟨tallies, answered, accepted, stored⟩ := balanced
  refine ⟨?_, ?_, ?_, ?_⟩
  · intro n
    have told : endings n (events ++ [e]) = endings n events := by
      rw [endings_append, neutral.endings_singleton, List.append_nil]
    rw [told]
    exact tallies n
  · intro entry member
    exact (answered entry member).keep (fun _ h => h) rfl (neutral.endings_singleton _)
  · simp [neutral.isAcceptance, accepted]
  · intro id key
    simp [neutral.isStore, stored]

/-- A new number is issued. -/
theorem issue
    (balanced : (⟨tickets, held, owed, entries, events⟩ : Books).Balanced) :
    (⟨tickets + 1, tickets :: held, owed, entries, events⟩ : Books).Balanced := by
  obtain ⟨tallies, answered, accepted, stored⟩ := balanced
  refine ⟨?_, answered, accepted, stored⟩
  intro n
  have before := tallies n
  simp only [Tallies, List.count_cons, beq_iff_eq] at before ⊢
  split <;> omega

/-- A number is not held any longer. -/
theorem release
    (balanced : (⟨tickets, s :: held, owed, entries, events⟩ : Books).Balanced) :
    (⟨tickets, held, owed, entries, events⟩ : Books).Balanced := by
  obtain ⟨tallies, answered, accepted, stored⟩ := balanced
  refine ⟨?_, answered, accepted, stored⟩
  intro n
  have before := tallies n
  simp only [Tallies, List.count_cons] at before ⊢
  omega

/-- The objective of a number that is held is not among those that were accepted. -/
theorem ne_of_held
    (balanced : (⟨tickets, s :: held, owed, entries, events⟩ : Books).Balanced)
    {entry : Request NextTicket Float × Fate}
    (member : entry ∈ entries) :
    s ≠ entry.1.subject.ticket.serial := by
  rintro rfl
  have before := balanced.tallies entry.1.subject.ticket.serial
  have made := made_pos_of_mem member
  simp only [Tallies, List.count_cons_self] at before
  omega

/-- The context of a ticket that was held is to be told. -/
theorem owe
    {t : Ticket}
    (balanced : (⟨tickets, t.serial :: held, owed, entries, events⟩ : Books).Balanced)
    (e : Ending) :
    (⟨tickets, held, (t, e) :: owed, entries, events⟩ : Books).Balanced := by
  have apart : ∀ entry ∈ entries, t.serial ≠ entry.1.subject.ticket.serial :=
    fun entry member => balanced.ne_of_held member
  obtain ⟨tallies, answered, accepted, stored⟩ := balanced
  refine ⟨?_, ?_, accepted, stored⟩
  · intro n
    have before := tallies n
    simp only [Tallies, List.count_cons, beq_iff_eq, owing_cons] at before ⊢
    by_cases same : t.serial = n
    · simp only [if_pos same] at before ⊢
      omega
    · simp only [if_neg same] at before ⊢
      omega
  · intro entry member
    have counted : owing ((t, e) :: owed) entry.1.subject.ticket.serial =
        owing owed entry.1.subject.ticket.serial := by
      rw [owing_cons, if_neg (apart entry member), Nat.add_zero]
    have kept := (answered entry member).keep (fun _ owes => List.mem_cons_of_mem (t, e) owes)
      counted (endings_nil _)
    rwa [List.append_nil] at kept

/-- A context is told what it is owed. -/
theorem tell
    {t : Ticket}
    {e : Ending}
    (balanced : (⟨tickets, held, (t, e) :: owed, entries, events⟩ : Books).Balanced) :
    (⟨tickets, held, owed, entries, events ++ t.told e⟩ : Books).Balanced := by
  obtain ⟨tallies, answered, accepted, stored⟩ := balanced
  refine ⟨?_, ?_, ?_, ?_⟩
  · intro n
    have before := tallies n
    have once := length_heard_le t e
    simp only [Tallies, owing_cons, endings_append, endings_told, List.length_append] at before ⊢
    by_cases same : t.serial = n
    · simp only [if_pos same] at before ⊢
      omega
    · simp only [if_neg same, List.length_nil] at before ⊢
      omega
  · intro entry member
    obtain ⟨-, -, once, -⟩ := tallies entry.1.subject.ticket.serial
    exact (answered entry member).tell (Nat.le_of_add_right_le once)
  · rw [List.countP_append, countP_isAcceptance_told]
    exact accepted
  · intro id key
    rw [List.countP_append, countP_isStore_told]
    exact stored id key

/-- A next objective whose number was held is accepted. -/
theorem enter
    (balanced :
      (⟨tickets, r.subject.ticket.serial :: held, owed, entries, events⟩ : Books).Balanced)
    {e : Event}
    {device : String}
    (accepts : e.Accepts device r.key) :
    (⟨tickets, held, owed, (r, .pending) :: entries, events ++ [e]⟩ : Books).Balanced := by
  have untold (n : Nat) : endings n [e] = [] := by
    rcases accepts with ⟨request, buckets, app, rfl⟩ | rfl <;> rfl
  obtain ⟨tallies, answered, accepted, stored⟩ := balanced
  refine ⟨?_, ?_, ?_, ?_⟩
  · intro n
    have before := tallies n
    simp only [Tallies, List.count_cons, beq_iff_eq, made_cons, endings_append, untold,
      List.append_nil] at before ⊢
    omega
  · intro entry member
    rcases List.mem_cons.mp member with rfl | earlier
    · have before := tallies r.subject.ticket.serial
      simp only [Tallies, List.count_cons_self] at before
      have none : owing owed r.subject.ticket.serial = 0 := by omega
      have quiet : (endings r.subject.ticket.serial events).length = 0 := by omega
      refine ⟨none, ?_⟩
      rw [endings_append, untold, List.append_nil]
      exact List.length_eq_zero_iff.mp quiet
    · exact (answered entry earlier).keep (fun _ owes => owes) rfl (untold _)
  · have counted : [e].countP Event.isAcceptance = 1 := by
      rcases accepts with ⟨request, buckets, app, rfl⟩ | rfl <;> rfl
    rw [List.countP_append, counted, List.length_cons]
    exact congrArg (· + 1) accepted
  · intro id key
    have counted : [e].countP (Event.isStore id key) = 0 := by
      rcases accepts with ⟨request, buckets, app, rfl⟩ | rfl <;> rfl
    have pending : resolvedFor id key (r, .pending) = false := by simp [resolvedFor]
    rw [List.countP_append, counted, List.countP_cons_of_neg (by simp [pending])]
    exact stored id key

/-- Another accepted next objective has another number. -/
theorem serial_ne
    {fate : Fate}
    (balanced : (⟨tickets, held, owed, (r, fate) :: entries, events⟩ : Books).Balanced)
    {entry : Request NextTicket Float × Fate}
    (member : entry ∈ entries) :
    r.subject.ticket.serial ≠ entry.1.subject.ticket.serial := by
  intro same
  have before := balanced.tallies entry.1.subject.ticket.serial
  have made := made_pos_of_mem member
  simp only [Tallies, made_cons, if_pos same] at before
  omega

/-- A pending request is superseded. -/
theorem supersede
    (balanced : (⟨tickets, held, owed, (r, .pending) :: entries, events⟩ : Books).Balanced) :
    (⟨tickets, held, owed, (r, .superseded) :: entries, events⟩ : Books).Balanced := by
  obtain ⟨tallies, answered, accepted, stored⟩ := balanced
  refine ⟨?_, ?_, accepted, ?_⟩
  · intro n
    have before := tallies n
    simp only [made_cons] at before ⊢
    exact before
  · intro entry member
    rcases List.mem_cons.mp member with rfl | other
    · exact answered (r, .pending) List.mem_cons_self
    · exact answered entry (List.mem_cons_of_mem _ other)
  · intro id key
    have counted := stored id key
    simpa [List.countP_cons, resolvedFor] using counted

/-- A pending request expires, and its context is to be told. -/
theorem expire
    (balanced : (⟨tickets, held, owed, (r, .pending) :: entries, events⟩ : Books).Balanced) :
    (⟨tickets, held, (r.subject.ticket, .failure .groupInstallationFailed) :: owed,
      (r, .expired) :: entries, events⟩ : Books).Balanced := by
  have apart : ∀ entry ∈ entries, r.subject.ticket.serial ≠ entry.1.subject.ticket.serial :=
    fun entry member => balanced.serial_ne member
  obtain ⟨tallies, answered, accepted, stored⟩ := balanced
  obtain ⟨none, untold⟩ := answered (r, .pending) List.mem_cons_self
  refine ⟨?_, ?_, accepted, ?_⟩
  · intro n
    have before := tallies n
    simp only [Tallies, made_cons, owing_cons] at before ⊢
    by_cases same : r.subject.ticket.serial = n
    · subst same
      simp only [if_true, untold, none, List.length_nil] at before ⊢
      omega
    · simp only [if_neg same] at before ⊢
      omega
  · intro entry member
    rcases List.mem_cons.mp member with rfl | other
    · exact .inl ⟨List.mem_cons_self, untold⟩
    · have counted :
          owing ((r.subject.ticket, .failure .groupInstallationFailed) :: owed)
              entry.1.subject.ticket.serial =
            owing owed entry.1.subject.ticket.serial := by
        rw [owing_cons, if_neg (apart entry other), Nat.add_zero]
      have kept := (answered entry (List.mem_cons_of_mem _ other)).keep
        (fun _ => List.mem_cons_of_mem (r.subject.ticket, Ending.failure .groupInstallationFailed))
        counted (endings_nil _)
      rwa [List.append_nil] at kept
  · intro id key
    have counted := stored id key
    simpa [List.countP_cons, resolvedFor] using counted

/-- A pending request is confirmed, and its context is told. -/
theorem confirm
    (balanced : (⟨tickets, held, owed, (r, .pending) :: entries, events⟩ : Books).Balanced)
    (fails : Bool) :
    (⟨tickets, held, owed, (r, .resolved) :: entries,
      events ++ confirmation fails r⟩ : Books).Balanced := by
  have apart : ∀ entry ∈ entries, r.subject.ticket.serial ≠ entry.1.subject.ticket.serial :=
    fun entry member => balanced.serial_ne member
  obtain ⟨tallies, answered, accepted, stored⟩ := balanced
  obtain ⟨none, untold⟩ := answered (r, .pending) List.mem_cons_self
  refine ⟨?_, ?_, ?_, ?_⟩
  · intro n
    have before := tallies n
    have once := length_heard_le r.subject.ticket
      (if fails then .failure .groupInstallationFailed else .success)
    simp only [Tallies, made_cons, endings_append, endings_confirmation, List.length_append]
      at before ⊢
    by_cases same : r.subject.ticket.serial = n
    · subst same
      simp only [if_true, untold, none, List.length_nil] at before ⊢
      omega
    · simp only [if_neg same, List.length_nil] at before ⊢
      omega
  · intro entry member
    rcases List.mem_cons.mp member with rfl | other
    · refine ⟨none, fails, (List.suffix_append _ _).isInfix, ?_⟩
      rw [endings_append, untold, endings_confirmation, if_pos rfl, List.nil_append]
    · refine (answered entry (List.mem_cons_of_mem _ other)).keep (fun _ owes => owes) rfl ?_
      rw [endings_confirmation, if_neg (apart entry other)]
  · rw [List.countP_append, countP_isAcceptance_confirmation]
    exact accepted
  · intro id key
    have counted := stored id key
    rw [List.countP_append, countP_isStore_confirmation, counted]
    by_cases same : r.subject.id = id ∧ r.key = key <;>
      simp [resolvedFor, same]

end Balanced
end Books
end Session
end LineTerminal
