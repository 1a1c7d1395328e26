import LineTerminal.Proofs.Precedence
import LineTerminal.Proofs.Selector
import LineTerminal.Proofs.Session.Verdict

/-!
# Which filters are accepted

A filter can have seven flaws.  The first one in the order of the checks decides how the filter is
refused.  A filter without a flaw installs or removes one rule, which matches what makes up the
trapped traffic and sends it to the controller.
-/

namespace LineTerminal

namespace FilteringObjective

/-- The first condition on a field asks for a number. -/
def Asks (o : FilteringObjective) (field : Field) (n : Int) : Prop :=
  ∃ c, IsFirst (·.field = field) o.conditions c ∧ c.value = .number n

/-- The filter is for IGMP. -/
def ForIgmp (o : FilteringObjective) : Prop := o.Asks .ipProtocol WellKnown.protocolIgmp

/-- The filter is for DHCP. -/
def ForDhcp (o : FilteringObjective) : Prop :=
  o.Asks .ipProtocol WellKnown.protocolUdp ∧ o.Asks .udpSource WellKnown.dhcpClientPort ∧
    o.Asks .udpDestination WellKnown.dhcpServerPort

/-- What can be wrong with a filter. -/
inductive Flaw where
  /-- No immediate instruction of the trap is an output. -/
  | noOutput
  /-- The first immediate output does not lead to the controller. -/
  | notToController
  /-- The key is missing or no port. -/
  | keyNotPort
  /-- No condition is on the ether type. -/
  | noEtherType
  /-- The ether type is unknown. -/
  | etherTypeUnknown
  /-- IPv4 traffic is neither IGMP nor DHCP. -/
  | trafficUnknown
  /-- The filter neither permits nor denies. -/
  | noMode
deriving DecidableEq

namespace Flaw

/-- All flaws in the order of the checks. -/
def all : List Flaw :=
  [noOutput, notToController, keyNotPort, noEtherType, etherTypeUnknown, trafficUnknown, noMode]

/-- The failure that is reported for a flaw. -/
def code : Flaw → ErrorCode
  | noOutput | keyNotPort | noEtherType => .badParameters
  | notToController | etherTypeUnknown | trafficUnknown | noMode => .unsupported

/-- Whether a filter has a flaw. -/
def In (o : FilteringObjective) : Flaw → Prop
  | noOutput => ∀ t, o.trap = some t → ∀ i ∈ t.immediate, i.action ≠ .output
  | notToController => ∃ t output, o.trap = some t ∧
      IsFirst (·.action = .output) t.immediate output ∧
      output.value ≠ .number WellKnown.controllerPort
  | keyNotPort => ∀ key, o.key = some key → key.field ≠ .inPort
  | noEtherType => ∀ c ∈ o.conditions, c.field ≠ .etherType
  | etherTypeUnknown => (∃ c ∈ o.conditions, c.field = .etherType) ∧
      ¬o.Asks .etherType WellKnown.etherEapol ∧ ¬o.Asks .etherType WellKnown.etherLldp ∧
      ¬o.Asks .etherType WellKnown.etherIpv4
  | trafficUnknown => o.Asks .etherType WellKnown.etherIpv4 ∧ ¬o.ForIgmp ∧ ¬o.ForDhcp
  | noMode => o.mode = none

end Flaw

/-- The fields beside the port that the trapped traffic is told by. -/
inductive ToldBy (o : FilteringObjective) : List Field → Prop where
  | eapol (type : o.Asks .etherType WellKnown.etherEapol) : ToldBy o [.etherType]
  | lldp (type : o.Asks .etherType WellKnown.etherLldp) : ToldBy o [.etherType]
  | igmp (type : o.Asks .etherType WellKnown.etherIpv4) (protocol : o.ForIgmp) :
      ToldBy o [.etherType, .ipProtocol]
  | dhcp (type : o.Asks .etherType WellKnown.etherIpv4) (protocol : o.ForDhcp) :
      ToldBy o [.etherType, .ipProtocol, .udpSource, .udpDestination]

/-- The rule that a filter without flaws comes down to on a device. -/
structure Traps (o : FilteringObjective) (device : String) (rule : Rule) : Prop where
  device_eq : rule.device = device
  app_eq : rule.app = o.app
  table_eq : rule.table = 0
  priority_eq : rule.priority = o.priority
  permanent : rule.permanent = true
  /-- The rule matches the port and what tells the traffic, and nothing else. -/
  selects : ∃ fields, o.ToldBy fields ∧ ∀ c, c ∈ rule.selector.toList ↔
    o.key = some c ∨ ∃ field ∈ fields, IsFirst (·.field = field) o.conditions c
  /-- The only instruction is the first immediate output, to the controller. -/
  treats : ∃ t output, o.trap = some t ∧ IsFirst (·.action = .output) t.immediate output ∧
    output.value = .number WellKnown.controllerPort ∧
    rule.treatment = { immediate := [output], deferred := [] }

/-! ### The checks -/

variable {o : FilteringObjective}

/-- What is found for a field is the first condition on it. -/
theorem find?_conditions_eq_some_iff {field : Field} {c : Criterion} :
    Criterion.find? o.conditions field = some c ↔ IsFirst (·.field = field) o.conditions c :=
  find?_eq_some_iff_isFirst

theorem asks_iff_of_find? {field : Field} {c : Criterion} {n : Int}
    (found : Criterion.find? o.conditions field = some c) :
    o.Asks field n ↔ c.value = .number n := by
  have first := find?_conditions_eq_some_iff.mp found
  constructor
  · rintro ⟨d, first', value⟩
    rwa [first.unique first']
  · intro value
    exact ⟨c, first, value⟩

theorem not_asks_of_find?_eq_none {field : Field}
    (missing : Criterion.find? o.conditions field = none) (n : Int) :
    ¬o.Asks field n := by
  rintro ⟨c, first, -⟩
  rw [find?_conditions_eq_some_iff.mpr first] at missing
  cases missing

theorem find?_eq_none_iff {field : Field} :
    Criterion.find? o.conditions field = none ↔ ∀ c ∈ o.conditions, c.field ≠ field := by
  simp [Criterion.find?]

/-- What is known of the output after its check. -/
def TrapOutput (o : FilteringObjective) (output : Instruction) : Prop :=
  ∃ t, o.trap = some t ∧ IsFirst (·.action = .output) t.immediate output ∧
    output.value = .number WellKnown.controllerPort

theorem checks_trapOutput :
    Checks (Flaw.In o) Flaw.code [.noOutput, .notToController] o.trapOutput o.TrapOutput := by
  have found_iff {output : Instruction} :
      o.trap.bind Treatment.immediateOutput? = some output ↔
        ∃ t, o.trap = some t ∧ IsFirst (·.action = .output) t.immediate output := by
    simp only [Option.bind_eq_some_iff]
    exact exists_congr fun t => and_congr_right fun _ => find?_eq_some_iff_isFirst
  refine .bind (.orRefuse Flaw.noOutput rfl ?missing) fun output there => ?_
  case missing =>
    simp [Flaw.In, Option.bind_eq_none_iff, Treatment.immediateOutput?, Instruction.first?]
  obtain ⟨t, trap, first⟩ := found_iff.mp there
  refine .bind (.require Flaw.notToController rfl ?elsewhere) fun _ toController => ?_
  case elsewhere =>
    constructor
    · exact fun elsewhere => ⟨t, output, trap, first, elsewhere⟩
    · rintro ⟨t', output', trap', first', elsewhere⟩
      cases trap.symm.trans trap'
      rwa [first.unique first']
  exact .ok ⟨t, trap, first, toController⟩

theorem checks_portKey :
    Checks (Flaw.In o) Flaw.code [.keyNotPort] o.portKey fun key =>
      o.key = some key ∧ key.field = .inPort := by
  unfold portKey
  cases there : o.key with
  | none =>
      have flawed : Flaw.keyNotPort.In o := fun key present => nomatch there.symm.trans present
      exact .stop flawed rfl
  | some key =>
      dsimp only
      split
      · next port =>
        have absent : ¬Flaw.keyNotPort.In o := fun flawed => flawed key there port
        exact .skip absent (.ok ⟨rfl, port⟩)
      · next other =>
        have flawed : Flaw.keyNotPort.In o := by
          intro key' present
          cases there.symm.trans present
          exact other
        exact .stop flawed rfl

/-- What is known of the criteria beside the port and the ether type of IPv4 traffic. -/
inductive Ipv4Criteria (o : FilteringObjective) : List Criterion → Prop where
  | igmp {protocol : Criterion}
      (first : IsFirst (·.field = .ipProtocol) o.conditions protocol)
      (igmp : o.ForIgmp) :
      Ipv4Criteria o [protocol]
  | dhcp {protocol source destination : Criterion}
      (first : IsFirst (·.field = .ipProtocol) o.conditions protocol)
      (from_client : IsFirst (·.field = .udpSource) o.conditions source)
      (to_server : IsFirst (·.field = .udpDestination) o.conditions destination)
      (dhcp : o.ForDhcp) :
      Ipv4Criteria o [protocol, source, destination]

/-- UDP traffic is checked for its ports. -/
theorem checks_ports
    {protocol : Criterion}
    (first : IsFirst (·.field = .ipProtocol) o.conditions protocol)
    (udp : o.Asks .ipProtocol WellKnown.protocolUdp)
    (flawed : ¬o.ForDhcp → Flaw.trafficUnknown.In o) :
    Checks (Flaw.In o) Flaw.code [.trafficUnknown]
      (do
        let source ← orRefuse .portsUnsupported (Criterion.find? o.conditions .udpSource)
        let destination ← orRefuse .portsUnsupported
          (Criterion.find? o.conditions .udpDestination)
        require (source.value = .number WellKnown.dhcpClientPort
          ∧ destination.value = .number WellKnown.dhcpServerPort) .portsUnsupported
        return [protocol, source, destination])
      o.Ipv4Criteria := by
  cases source_found : Criterion.find? o.conditions .udpSource with
  | none =>
      have asks_none := not_asks_of_find?_eq_none source_found
      exact .stop (flawed fun dhcp => asks_none _ dhcp.2.1) rfl
  | some source =>
      rw [orRefuse_some_bind]
      cases destination_found : Criterion.find? o.conditions .udpDestination with
      | none =>
          have asks_none := not_asks_of_find?_eq_none destination_found
          exact .stop (flawed fun dhcp => asks_none _ dhcp.2.2) rfl
      | some destination =>
          have ports_iff : (source.value = .number WellKnown.dhcpClientPort ∧
              destination.value = .number WellKnown.dhcpServerPort) ↔ o.ForDhcp := by
            rw [← asks_iff_of_find? source_found, ← asks_iff_of_find? destination_found]
            exact (and_iff_right udp).symm
          rw [orRefuse_some_bind]
          refine .bind (.require Flaw.trafficUnknown rfl ?_) fun _ ports => ?_
          · rw [ports_iff]
            exact ⟨flawed, fun flaw => flaw.2.2⟩
          · exact .ok (.dhcp first (find?_conditions_eq_some_iff.mp source_found)
              (find?_conditions_eq_some_iff.mp destination_found) (ports_iff.mp ports))

theorem checks_ipv4Criteria (ipv4 : o.Asks .etherType WellKnown.etherIpv4) :
    Checks (Flaw.In o) Flaw.code [.trafficUnknown] o.ipv4Criteria o.Ipv4Criteria := by
  -- IPv4 traffic is refused at five places of the check, all of them for this one flaw.
  have flawed (igmp : ¬o.ForIgmp) (dhcp : ¬o.ForDhcp) : Flaw.trafficUnknown.In o :=
    ⟨ipv4, igmp, dhcp⟩
  unfold ipv4Criteria
  cases found : Criterion.find? o.conditions .ipProtocol with
  | none =>
      have asks_none := not_asks_of_find?_eq_none found
      exact .stop (flawed (asks_none _) fun dhcp => asks_none _ dhcp.1) rfl
  | some protocol =>
      have asks_iff := fun n => asks_iff_of_find? (n := n) found
      have first := find?_conditions_eq_some_iff.mp found
      rw [orRefuse_some_bind]
      split
      · next igmp =>
        have for_igmp : o.ForIgmp := (asks_iff _).mpr igmp
        exact .skip (fun flaw => flaw.2.1 for_igmp) (.ok (.igmp first for_igmp))
      · next not_igmp =>
        replace not_igmp : ¬o.ForIgmp := mt (asks_iff _).mp not_igmp
        split
        · next udp => exact checks_ports first ((asks_iff _).mpr udp) (flawed not_igmp)
        · next not_udp =>
          exact .stop (flawed not_igmp fun dhcp => not_udp ((asks_iff _).mp dhcp.1)) rfl

/-- What is known of the selector after its checks. -/
def TrapSelector (o : FilteringObjective) (s : Selector) : Prop :=
  ∃ fields, o.ToldBy fields ∧ ∀ c, c ∈ s.toList ↔
    o.key = some c ∨ ∃ field ∈ fields, IsFirst (·.field = field) o.conditions c

/-- A criterion is among those found for some fields if it is the first one on such a field. -/
theorem mem_iff_of_forall₂
    {fields : List Field}
    {criteria : List Criterion}
    (found : fields.Forall₂ (fun field => IsFirst (·.field = field) o.conditions) criteria)
    {c : Criterion} :
    c ∈ criteria ↔ ∃ field ∈ fields, IsFirst (·.field = field) o.conditions c := by
  induction found with
  | nil => simp
  | @cons field d fields criteria first rest ih =>
      simp only [List.mem_cons, ih, exists_eq_or_imp]
      refine or_congr_left ⟨?_, ?_⟩
      · rintro rfl
        exact first
      · exact fun first' => first'.unique first

/-- The criteria found for some fields are on these fields. -/
theorem map_field_of_forall₂
    {fields : List Field}
    {criteria : List Criterion}
    (found : fields.Forall₂ (fun field => IsFirst (·.field = field) o.conditions) criteria) :
    criteria.map (·.field) = fields := by
  induction found with
  | nil => rfl
  | cons first rest ih => rw [List.map_cons, ih, first.holds]

/-- A selector of the port and of what is found for later fields. -/
theorem trapSelector_ofList
    {key : Criterion}
    (key_eq : o.key = some key)
    {fields : List Field}
    (told : o.ToldBy fields)
    {criteria : List Criterion}
    (found : fields.Forall₂ (fun field => IsFirst (·.field = field) o.conditions) criteria)
    (ordered : (key.field :: fields).Pairwise fun f g => f.rank < g.rank) :
    o.TrapSelector (.ofList (key :: criteria)) := by
  have in_order : (key :: criteria).Pairwise Criterion.Before := by
    rw [← map_field_of_forall₂ found, ← List.map_cons, List.pairwise_map] at ordered
    exact ordered
  refine ⟨fields, told, fun c => ?_⟩
  rw [Selector.toList_ofList in_order, List.mem_cons, mem_iff_of_forall₂ found, key_eq,
    Option.some.injEq, eq_comm]

theorem checks_trapSelector
    (numeric : ∀ c, IsFirst (·.field = .etherType) o.conditions c → ∃ n, c.value = .number n) :
    Checks (Flaw.In o) Flaw.code [.keyNotPort, .noEtherType, .etherTypeUnknown, .trafficUnknown]
      o.trapSelector o.TrapSelector := by
  refine .bind checks_portKey fun key ⟨key_eq, port⟩ => ?_
  refine .bind (.orRefuse Flaw.noEtherType rfl find?_eq_none_iff) fun type found => ?_
  have first := find?_conditions_eq_some_iff.mp found
  have asks_iff := fun n => asks_iff_of_find? (n := n) found
  split
  · next special =>
    have not_ipv4 : ¬o.Asks .etherType WellKnown.etherIpv4 := by
      rw [asks_iff]
      rcases special with eapol | lldp
      · rw [eapol]
        decide
      · rw [lldp]
        decide
    have known : ¬Flaw.etherTypeUnknown.In o := fun flaw =>
      special.elim (fun eapol => flaw.2.1 ((asks_iff _).mpr eapol))
        fun lldp => flaw.2.2.1 ((asks_iff _).mpr lldp)
    have told : o.ToldBy [.etherType] :=
      special.elim (fun eapol => .eapol ((asks_iff _).mpr eapol))
        fun lldp => .lldp ((asks_iff _).mpr lldp)
    refine .skip known (.skip (fun flaw => not_ipv4 flaw.1) (.ok ?_))
    exact trapSelector_ofList key_eq told (.cons first .nil) (by rw [port]; decide)
  · next not_special =>
    obtain ⟨not_eapol, not_lldp⟩ := not_or.mp not_special
    split
    · next ipv4 =>
      replace ipv4 := (asks_iff _).mpr ipv4
      refine .skip (fun flaw => flaw.2.2.2 ipv4) (.bind (checks_ipv4Criteria ipv4) ?_)
      rintro _ (⟨protocol, igmp⟩ | ⟨protocol, source, destination, dhcp⟩)
      · exact .ok (trapSelector_ofList key_eq (.igmp ipv4 igmp) (.cons first (.cons protocol .nil))
          (by rw [port]; decide))
      · exact .ok (trapSelector_ofList key_eq (.dhcp ipv4 dhcp)
          (.cons first (.cons protocol (.cons source (.cons destination .nil))))
          (by rw [port]; decide))
    · next not_ipv4 =>
      have unknown : Flaw.etherTypeUnknown.In o :=
        ⟨⟨type, first.mem, first.holds⟩, mt (asks_iff _).mp not_eapol, mt (asks_iff _).mp not_lldp,
          mt (asks_iff _).mp not_ipv4⟩
      -- The refusal shows the ether type as a number.  Anything else would end in a fault.
      obtain ⟨n, value⟩ := numeric type first
      rw [value]
      exact .stop unknown rfl

theorem checks_change :
    Checks (Flaw.In o) Flaw.code [.noMode] o.change fun change =>
      o.mode = some (match change with | .add => .permit | .remove => .deny) := by
  unfold change
  cases there : o.mode with
  | none =>
      have flawed : Flaw.noMode.In o := there
      exact .stop flawed rfl
  | some mode =>
      have absent : ¬Flaw.noMode.In o := fun flawed => nomatch there.symm.trans flawed
      cases mode with
      | permit => exact .skip absent (.ok rfl)
      | deny => exact .skip absent (.ok rfl)

/-- What a filter comes down to on a device. -/
theorem checks_compile
    (numeric : ∀ c, IsFirst (·.field = .etherType) o.conditions c → ∃ n, c.value = .number n)
    (l : Layout) :
    Checks (Flaw.In o) Flaw.code Flaw.all (o.compile l) fun (change, rules) =>
      o.mode = some (match change with | .add => .permit | .remove => .deny) ∧
        ∃ rule, rules = [rule] ∧ o.Traps l.device rule := by
  refine .bind checks_trapOutput fun output ⟨t, trap, first, toController⟩ => ?_
  refine .bind (checks_trapSelector numeric) fun selector selects => ?_
  refine .bind checks_change fun change mode => .ok ⟨mode, _, rfl, ?_⟩
  exact ⟨rfl, rfl, rfl, rfl, rfl, selects, t, output, trap, first, toController, rfl⟩

end FilteringObjective

namespace Session
open FilteringObjective

/--
A filter with flaws is refused for the first one.  The rule of a filter without flaws is installed
if the filter permits, and removed if it denies.
-/
theorem filter_judged
    (nested : Nested)
    (p : Pipeline)
    (ticket : Ticket)
    (o : FilteringObjective)
    (w : World)
    (numeric : ∀ c, IsFirst (·.field = .etherType) o.conditions c → ∃ n, c.value = .number n) :
    (∃ flaw : Flaw, IsFirst (Flaw.In o) Flaw.all flaw ∧
      (Verdict.refused flaw.code).Given nested .filtering p ticket
        (filter nested p ticket o) w) ∨
    (∀ flaw, ¬Flaw.In o flaw) ∧ ∃ change rule,
      o.mode = some (match change with | .add => .permit | .remove => .deny) ∧
      o.Traps p.device rule ∧
      (Verdict.submitted [(change, rule)]).Given nested .filtering p ticket
        (filter nested p ticket o) w := by
  rcases (checks_compile numeric p.layout).total with
    ⟨flaw, r, first, code_eq, refused⟩ | ⟨absent, ⟨change, _⟩, passed, mode, rule, rfl, traps⟩
  · refine .inl ⟨flaw, first, Verdict.given_of_done ⟨r, code_eq, ?_⟩⟩
    unfold filter
    rw [refused]
  · refine .inr ⟨fun flaw => absent flaw (by cases flaw <;> decide), change, rule, mode, traps, ?_⟩
    refine Verdict.given_of_done ?_
    unfold filter
    rw [passed]
    rfl

/-- A filter for DHCP with its conditions in no order, and a second ether type. -/
def dhcpFilter : FilteringObjective :=
  { key := some (.inPort (.number 1))
    conditions :=
      [.udpDestination (.number 67), .etherType (.number 0x0800), .udpSource (.number 68),
        .etherType (.number 0x888E), .ipProtocol (.number 17)]
    mode := some .permit
    priority := 1000
    app := "olt"
    trap := some { immediate := [.meter (.number 4), .output (.number 0xFFFFFFFD)] } }

/-- The filter for DHCP has its rule installed. -/
theorem filter_judged_dhcp :
    let p : Pipeline := { device := "of:1", settings := usualSettings }
    let ticket : Ticket := { serial := 0, tag := "dhcp", reaction := .silent }
    ∃ rule, dhcpFilter.Traps "of:1" rule ∧
      (Verdict.submitted [(.add, rule)]).Given (reactTo 0) .filtering p ticket
        (filter (reactTo 0) p ticket dhcpFilter) {} := by
  intro p ticket
  have type : IsFirst (·.field = .etherType) dhcpFilter.conditions (.etherType (.number 0x0800)) :=
    ⟨[_], _, rfl, rfl, by decide⟩
  have source : IsFirst (·.field = .udpSource) dhcpFilter.conditions (.udpSource (.number 68)) :=
    ⟨[_, _], _, rfl, rfl, by decide⟩
  have destination : IsFirst (·.field = .udpDestination) dhcpFilter.conditions
      (.udpDestination (.number 67)) :=
    ⟨[], _, rfl, rfl, by simp⟩
  have protocol : IsFirst (·.field = .ipProtocol) dhcpFilter.conditions
      (.ipProtocol (.number 17)) :=
    ⟨[_, _, _, _], _, rfl, rfl, by decide⟩
  have numeric : ∀ c, IsFirst (·.field = .etherType) dhcpFilter.conditions c →
      ∃ n, c.value = .number n := by
    intro c first
    rw [first.unique type]
    exact ⟨0x0800, rfl⟩
  rcases filter_judged (reactTo 0) p ticket dhcpFilter {} numeric with
    ⟨flaw, first, -⟩ | ⟨-, change, rule, mode, traps, given⟩
  · have flawed := first.holds
    cases flaw with
    | noOutput => exact absurd rfl (flawed _ rfl (.output (.number 0xFFFFFFFD)) (by decide))
    | notToController =>
        obtain ⟨t, output, trap, first', elsewhere⟩ := flawed
        cases trap
        rw [first'.unique ⟨[_], [], rfl, rfl, by decide⟩] at elsewhere
        exact absurd rfl elsewhere
    | keyNotPort => exact absurd rfl (flawed _ rfl)
    | noEtherType => exact absurd rfl (flawed _ type.mem)
    | etherTypeUnknown => exact absurd ⟨_, type, rfl⟩ flawed.2.2.2
    | trafficUnknown =>
        exact absurd ⟨⟨_, protocol, rfl⟩, ⟨_, source, rfl⟩, ⟨_, destination, rfl⟩⟩ flawed.2.2
    | noMode => cases flawed
  · cases change with
    | add => exact ⟨rule, traps, given⟩
    | remove => cases mode

end Session
end LineTerminal
