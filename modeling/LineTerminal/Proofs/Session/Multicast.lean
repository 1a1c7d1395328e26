import LineTerminal.Proofs.Group.Record
import LineTerminal.Proofs.Session.Confirmed
import LineTerminal.Proofs.Session.ForwardVerdict

/-!
# Multicast through confirmed next objectives

The record of a confirmed next objective leads multicast traffic to its group: the key in the record
is the one of the identifier, and the group is the one that the device has under this key now.
-/

namespace LineTerminal
namespace Session
open ForwardingObjective

section
variable {w : World}
variable {p : Pipeline}
variable {id : Value}
variable {key : GroupKey}

/-- A stored key leads to the group that the device has under it. -/
theorem groupOf_of_stored
    (named : id ≠ .absent)
    (stored : lookupPair? id w.records = some (.group key))
    (short : key.bytes.length ≤ GroupRecord.maxKeyLength) :
    (lookupPair? (p.device, key) w.groups = none →
      groupOf w p id = .error (.refused (.groupNotInstalled key))) ∧
    ∀ group, lookupPair? (p.device, key) w.groups = some group →
      groupOf w p id = .ok group.id := by
  obtain ⟨data, encoded, decoded⟩ := GroupRecord.decode_encode short
  have read : (StoredRecord.group key).data = some (some data) := by
    rw [StoredRecord.data, encoded, Option.map_some]
  unfold groupOf
  cases id with
  | absent => exact absurd rfl named
  | number n | text t =>
      simp only [stored, read, Option.getD_some, decoded]
      exact ⟨fun missing => by simp only [missing], fun group found => by simp only [found]⟩

/-- A bucket is described by a line with the identifier of its group. -/
def bucketLine (n : Int) (bucket : Treatment) : String :=
  "0x" ++ Numeral.hex 0 n ++ " -> " ++ bucket.described

/-- The buckets of the group that a stored key leads to are described in order. -/
theorem runIn_mappings
    (short : key.bytes.length ≤ GroupRecord.maxKeyLength) :
    (lookupPair? (p.device, key) w.groups = none →
      (mappings p (.group key)).runIn w = (.ok [], w)) ∧
    ∀ group n, lookupPair? (p.device, key) w.groups = some group → group.id = .number n →
      (mappings p (.group key)).runIn w = (.ok (group.buckets.map (bucketLine n)), w) := by
  obtain ⟨data, encoded, decoded⟩ := GroupRecord.decode_encode short
  have read : (dataOf (.group key)).runIn w = (.ok (some data), w) := by
    rw [dataOf, StoredRecord.data, encoded]
    rfl
  unfold mappings
  rw [Act.runIn_bind, read]
  dsimp only [Option.getD_some]
  rw [decoded]
  dsimp only
  have installed : (group? p.device key).runIn w =
      (.ok (lookupPair? (p.device, key) w.groups), w) := rfl
  rw [Act.runIn_bind_ok _ installed]
  refine ⟨fun missing => ?_, fun group n found number => ?_⟩
  · rw [missing]
    rfl
  · rw [found]
    dsimp only
    rw [number]
    exact Act.runIn_mapM_of_ok (fun _ _ => rfl) group.buckets w

/-- A multicast destination is recognized. -/
theorem isMulticast_of_toMany
    {o : ForwardingObjective}
    (many : o.ToMany) :
    o.selector.isMulticast = .ok true := by
  obtain ⟨block, ⟨c, member, on_destination, reads⟩, multicast⟩ := many
  unfold Selector.isMulticast
  rw [Selector.get?_eq_some_iff.mpr ⟨member, on_destination⟩]
  dsimp only
  rw [reads]
  exact congrArg Except.ok multicast

/-- The one rule that leads the traffic of an objective to a group. -/
def groupRule (p : Pipeline) (o : ForwardingObjective) (group : Group) : Rule :=
  { device := p.device
    app := o.app
    table := 0
    priority := o.priority
    selector := o.selector
    treatment := { immediate := [.group group.id], deferred := [] } }

/-- Multicast traffic for a next objective with a stored record. -/
theorem forward_of_stored
    (named : id ≠ .absent)
    (stored : lookupPair? id w.records = some (.group key))
    (short : key.bytes.length ≤ GroupRecord.maxKeyLength)
    {o : ForwardingObjective}
    (many : o.ToMany)
    (points : o.nextId = id)
    (nested : Nested)
    (ticket : Ticket) :
    (lookupPair? (p.device, key) w.groups = none →
      (Verdict.refused .groupMissing).Given nested .forwarding p ticket
        (forward nested p ticket o) w) ∧
    ∀ group operation,
      lookupPair? (p.device, key) w.groups = some group → o.operation = some operation →
      (verdict [groupRule p o group] operation).Given nested .forwarding p ticket
        (forward nested p ticket o) w := by
  have opened : (forward nested p ticket o).runIn w = _ := Act.runIn_bind get _ w
  have compiled : o.compile p.layout (groupOf w p) =
      (groupOf w p id).bind fun group => .ok (o.multicast p.layout group) := by
    unfold compile
    rw [isMulticast_of_toMany many, points]
    rfl
  obtain ⟨without, leads⟩ := @groupOf_of_stored w p id key named stored short
  refine ⟨fun missing => Verdict.given_of_done ⟨.groupNotInstalled key, rfl, ?_⟩,
    fun group operation found known => Verdict.given_of_done ?_⟩
  · rw [without missing] at compiled
    rw [opened]
    dsimp only [Act.runIn_get]
    rw [compiled]
    rfl
  · rw [leads group found] at compiled
    cases operation with
    | add | remove | addToExisting | removeFromExisting =>
        change (forward nested p ticket o).runIn w = _
        rw [opened]
        dsimp only [Act.runIn_get]
        rw [compiled, known]
        rfl

end

/--
Once the success of a next objective is reported, its record holds the key of its identifier, as
long as no other record is put for the identifier.  At every pipeline the record leads multicast
traffic to the group that the device has under the key, and describes the buckets of this group; if
there is none, such traffic is refused for that reason.
-/
theorem confirmed_next_serves_multicast
    {m₀ m₁ : Moment}
    (visited : Visited m₀)
    (turn : Turn m₀ m₁)
    {q : Pipeline}
    (owner : q ∈ m₁.world.pipelines)
    {r : Request NextTicket Float}
    (accepted : r ∈ q.tracker.requests)
    (reported : .ended r.subject.ticket .success ∈
      m₁.world.events.drop m₀.world.events.length)
    (short : (Bytes.ofText q.settings.keySpace).length ≤ 65530)
    {d : List Duty}
    {w : World}
    (since : Relation.ReflTransGen (LeavesRecord r.subject.id) m₁ ⟨d, w⟩) :
    ∃ key,
      q.keySpace.keyFor? r.subject.id = some key ∧
      lookupPair? r.subject.id w.records = some (.group key) ∧
      ∀ p : Pipeline,
        (lookupPair? (p.device, key) w.groups = none →
          (mappings p (.group key)).runIn w = (.ok [], w) ∧
          ∀ nested ticket (o : ForwardingObjective), o.ToMany → o.nextId = r.subject.id →
            (Verdict.refused .groupMissing).Given nested .forwarding p ticket
              (forward nested p ticket o) w) ∧
        ∀ group, lookupPair? (p.device, key) w.groups = some group →
          (∀ n, group.id = .number n →
            (mappings p (.group key)).runIn w = (.ok (group.buckets.map (bucketLine n)), w)) ∧
          ∀ nested ticket (o : ForwardingObjective), o.ToMany → o.nextId = r.subject.id →
            ∀ operation, o.operation = some operation →
              (verdict [groupRule p o group] operation).Given nested .forwarding p ticket
                (forward nested p ticket o) w := by
  have keyed := ((Visited.filed (visited.tail turn)).pipelines q owner).keyed r accepted
  have stored : lookupPair? r.subject.id w.records = some (.group r.key) :=
    (lookup_of_leavesRecord since).trans
      (visited.stored_of_reported turn owner accepted reported)
  have named : r.subject.id ≠ .absent := by
    intro absent
    rw [absent] at keyed
    cases keyed
  have length := KeySpace.length_of_keyFor? keyed
  have fits : r.key.bytes.length ≤ GroupRecord.maxKeyLength := by
    rw [length]
    exact Nat.add_le_add_right short 5
  refine ⟨r.key, keyed, stored, fun p => ⟨fun missing => ⟨?_, ?_⟩, fun group found => ⟨?_, ?_⟩⟩⟩
  · exact (runIn_mappings fits).1 missing
  · exact fun nested ticket o many points =>
      (forward_of_stored named stored fits many points nested ticket).1 missing
  · exact fun n number => (runIn_mappings fits).2 group n found number
  · exact fun nested ticket o many points operation known =>
      (forward_of_stored named stored fits many points nested ticket).2 group operation found known

/-- A next objective for broadcast to one member. -/
def channelRequest : Step :=
  .submit "p"
    (.next
      { id := .number 42
        kind := some .broadcast
        members := [{}]
        app := "olt"
        operation := some .add })
    "n" (.recording false [] [])

/-- The key of the next objective. -/
def channelKey : GroupKey :=
  KeySpace.keyOf ⟨usualSettings.keySpace, usualSettings.keySpace_ne_empty⟩ 42

/-- The state in which the group has been installed, and has not been reported yet. -/
def channelInstalled : World :=
  (runStep 1 (.setGroup "olt" (.key channelKey) { id := .number 16, buckets := [{}] })
    (runStep 1 channelRequest (runStep 1 (.build "p" "olt" {} false) {}).after).after).after

/-- Multicast traffic for the next objective. -/
def channelForward : ForwardingObjective :=
  { selector := .ofList [.ipv4Destination (.text "239.1.2.3")]
    treatment := {}
    priority := 1000
    app := "olt"
    operation := some .add
    nextId := .number 42 }

theorem channelForward_toMany : channelForward.ToMany := by
  have listed : Criterion.ipv4Destination (.text "239.1.2.3") ∈ channelForward.selector.toList := by
    decide
  have read : (Network.Block.ofText? "239.1.2.3".toList).map Network.Block.isMulticast =
      some true := by
    decide +kernel
  obtain ⟨block, reads, multicast⟩ := Option.map_eq_some_iff.mp read
  exact ⟨block, ⟨_, listed, rfl, reads⟩, multicast⟩

/-- When the group is reported, the traffic is led to it from then on. -/
theorem confirmed_next_serves_multicast_channel :
    ∃ d w p group,
      Visited ⟨d, w⟩ ∧ lookupPair? ("olt", channelKey) w.groups = some group ∧
      (∃ line, (mappings p (.group channelKey)).runIn w = (.ok [line], w)) ∧
      ∀ nested ticket, (Verdict.submitted [(.add, groupRule p channelForward group)]).Given
        nested .forwarding p ticket (forward nested p ticket channelForward) w := by
  have ready : ((channelInstalled.pipelines[0]?).bind fun p =>
      (p.tracker.get? channelKey).map fun r =>
        (p.device, p.keySpace.keyFor? (.number 42), r.subject.id,
          decide (p.tracker.Due channelInstalled.time r),
          (r.subject.ticket.told .success).length,
          decide ((Bytes.ofText p.settings.keySpace).length ≤ 65530))) =
      some ("olt", some channelKey, .number 42, false, 1, true) := by
    decide +kernel
  obtain ⟨p, found, rest⟩ := Option.bind_eq_some_iff.mp ready
  obtain ⟨r, live, facts⟩ := Option.map_eq_some_iff.mp rest
  simp only [Prod.mk.injEq, decide_eq_false_iff_not, decide_eq_true_eq] at facts
  obtain ⟨device, named, identified, early, told, short⟩ := facts
  have keyed : r.key = channelKey := (Tracker.mem_of_get? live).2
  -- The group is reported while the request is pending.
  let step : Step := .emit .added "olt" (.key r.key)
  have opened : Reached (fun _ => True) channelInstalled :=
    .step (.step (.step (.start false) 1 _ fun _ _ => trivial) 1 _ fun _ _ => trivial) 1 _
      fun _ _ => trivial
  have begun : Visited ⟨[.doing step], channelInstalled⟩ :=
    .tail opened.visited (.move (.begin step))
  have visited : Visited ⟨[.reporting .added r.key, .doing step], channelInstalled⟩ :=
    .tail begun (.move (.report (.inl ⟨"olt", .key r.key, List.mem_cons_self, rfl⟩)))
  let d : List Duty := [.reporting .added r.key, .doing step]
  let w : World :=
    { (channelInstalled.setTracker 0 ((p.tracker.erase r.key).settle r .resolved)).note
        (confirmation channelInstalled.storeFails r) with
      records := recordsAfter channelInstalled r }
  have turn : Turn ⟨d, channelInstalled⟩ ⟨d, w⟩ :=
    .move (.confirm List.mem_cons_self (.inl rfl) found (keyed ▸ live) early)
  have owner := List.mem_of_getElem?
    (getElem?_setTracker found ((p.tracker.erase r.key).settle r .resolved))
  have requested : r ∈ p.tracker.requests :=
    (visited.filed.pipelines p (List.mem_of_getElem? found)).live (Tracker.mem_of_get? live).1
  have accepted : r ∈ ((p.tracker.erase r.key).settle r .resolved).requests := by
    rwa [requests_conclude]
  have stores : channelInstalled.storeFails = false := by decide +kernel
  have heard : .ended r.subject.ticket .success ∈ r.subject.ticket.told .success := by
    unfold Ticket.told at told ⊢
    cases reaction : r.subject.ticket.reaction with
    | silent => simp [reaction] at told
    | recording => exact List.mem_singleton.mpr rfl
  have reported : .ended r.subject.ticket .success ∈
      w.events.drop channelInstalled.events.length := by
    change _ ∈ (channelInstalled.events ++ confirmation channelInstalled.storeFails r).drop _
    rw [List.drop_left, stores]
    exact List.mem_cons_of_mem _ heard
  obtain ⟨key, named', -, served⟩ :=
    confirmed_next_serves_multicast visited turn owner accepted reported short .refl
  rw [identified] at named'
  obtain rfl := Option.some.inj (named'.symm.trans named)
  have installed : (lookupPair? ("olt", channelKey) channelInstalled.groups).map
      (fun group => (group.id, group.buckets)) = some (.number 16, [{}]) := by
    decide +kernel
  obtain ⟨group, found', facts⟩ := Option.map_eq_some_iff.mp installed
  obtain ⟨number, buckets⟩ := Prod.mk.inj facts
  have group_found : lookupPair? (p.device, channelKey) w.groups = some group := by
    rw [device]
    exact found'
  obtain ⟨described, forwarded⟩ := (served p).2 group group_found
  have described := described 16 number
  rw [buckets] at described
  exact ⟨d, w, p, group, visited.tail turn, found', ⟨_, described⟩, fun nested ticket =>
    forwarded nested ticket channelForward channelForward_toMany identified.symm .add rfl⟩

end Session
end LineTerminal
