import LineTerminal.Proofs.Session.Registry
import LineTerminal.Proofs.Session.Verdict
import LineTerminal.Settings.Section

/-!
# Requests find the pipeline of their device

A registry that is built for a list of devices has a pipeline for each of them, in order.  As long
as no step changes the registry, an objective for one of these devices is handled by its pipeline,
with the settings that the registry was built with.  An objective for another device is turned away.
-/

namespace LineTerminal

namespace Session

/-! ### Numbered devices -/

section
variable {devices : List String} {device : String}

theorem lookupPair?_zipIdx
    (distinct : devices.Nodup)
    {k : Nat}
    (listed : devices[k]? = some device)
    (first : Nat) :
    lookupPair? device (devices.zipIdx first) = some (first + k) := by
  induction devices generalizing first k with
  | nil => simp at listed
  | cons d rest ih =>
      rw [List.nodup_cons] at distinct
      cases k with
      | zero =>
          obtain rfl : d = device := by simpa using listed
          simp [List.zipIdx_cons, lookupPair?_cons]
      | succ k =>
          have later : rest[k]? = some device := by simpa using listed
          have other : d ≠ device := by
            rintro rfl
            exact distinct.1 (List.mem_of_getElem? later)
          rw [List.zipIdx_cons, lookupPair?_cons, if_neg other, ih distinct.2 later]
          congr 1
          omega

theorem lookupPair?_zipIdx_of_not_mem
    (unlisted : device ∉ devices)
    (first : Nat) :
    lookupPair? device (devices.zipIdx first) = none := by
  have missing : (devices.zipIdx first).find? (fun entry => entry.1 = device) = none := by
    rw [List.find?_eq_none]
    intro entry member same
    have listed := List.fst_mem_of_mem_zipIdx member
    exact unlisted (of_decide_eq_true same ▸ listed)
  simp [lookupPair?, missing]

end

/-! ### Building a registry -/

/-- The state in which pipelines have been built that listen, one for each of several devices. -/
def World.built (w : World) (devices : List String) (settings : Settings) : World :=
  { w with
    pipelines := w.pipelines ++ devices.map fun device => { device, settings, listening := true }
    listeners := w.listeners ++ List.range' w.pipelines.length devices.length }

/-- The state in which a registry has been built. -/
def World.enrol (w : World) (devices : List String) (settings : Settings) : World :=
  { w.built devices settings with
    registry := devices.zipIdx w.pipelines.length
    names := devices.zipIdx w.pipelines.length }

section
variable {nested : Nested} {devices : List String} {settings : Settings}

/-- A pipeline that does not listen yet begins to. -/
theorem runIn_listen
    {i : Nat}
    {p : Pipeline}
    {w : World}
    (found : w.pipelines[i]? = some p)
    (idle : p.listening = false) :
    (listen i).runIn w =
      (.ok ⟨⟩, { w with
        listeners := w.listeners ++ [i]
        pipelines := w.pipelines.modify i fun p => { p with listening := true } }) := by
  unfold listen
  rw [Act.runIn_bind_ok _ (runIn_pipeline_of_some found), if_pos (by simp [idle])]
  rfl

theorem runIn_construct (device : String) (w : World) :
    (construct device settings).runIn w =
      (.ok w.pipelines.length, w.built [device] settings) := by
  let p : Pipeline := { device, settings }
  have found : (w.pipelines ++ [p])[w.pipelines.length]? = some p := by simp
  change (listen w.pipelines.length >>= fun _ => pure w.pipelines.length).runIn
    { w with pipelines := w.pipelines ++ [p] } = _
  rw [Act.runIn_bind_pure, runIn_listen found rfl]
  simp [World.built, List.modify_eq_set_getElem?, Except.map, p]

theorem runIn_build (device : String) (w : World) :
    (build nested device settings false).runIn w =
      (.ok w.pipelines.length, w.built [device] settings) := by
  unfold build
  rw [Act.runIn_bind, runIn_construct]
  rfl

theorem World.built_cons (w : World) (device : String) (rest : List String) :
    (w.built [device] settings).built rest settings = w.built (device :: rest) settings := by
  simp [World.built, List.range'_succ]

/-- Each device gets the next number. -/
theorem runIn_buildAll
    {built : List (String × Nat)}
    (distinct : (built.map (·.1) ++ devices).Nodup)
    (w : World) :
    (buildAll nested settings false devices built).runIn w =
      (.ok (built ++ devices.zipIdx w.pipelines.length), w.built devices settings) := by
  induction devices generalizing built w with
  | nil => simp [buildAll, World.built]
  | cons device rest ih =>
      -- The device is looked for among those before it, after its pipeline has been built.
      have new : ¬(built.any fun entry => entry.1 = device) = true := by
        have apart := (List.nodup_append.mp distinct).2.2
        simp only [List.any_eq_true, decide_eq_true_eq, not_exists, not_and]
        intro entry member
        exact apart _ (List.mem_map_of_mem member) _ List.mem_cons_self
      have distinct' : ((built ++ [(device, w.pipelines.length)]).map (·.1) ++ rest).Nodup := by
        simpa using distinct
      unfold buildAll
      rw [Act.runIn_bind_ok _ (runIn_build _ _), if_neg new, ih distinct', World.built_cons]
      simp [World.built, List.zipIdx_cons]

/-- A registry is built without a fault for devices that differ. -/
theorem runIn_buildRegistry
    (distinct : devices.Nodup)
    (w : World) :
    (perform nested (.buildRegistry devices settings.toDraft false)).runIn w =
      (.ok .done, w.enrol devices settings) := by
  have accepted : (settingsOf settings.toDraft).runIn w = (.ok settings, w) := by
    unfold settingsOf
    rw [Draft.check_eq_ok_iff.mpr rfl]
    rfl
  have built := @runIn_buildAll nested devices settings [] (by simpa using distinct) w
  unfold perform
  rw [Act.runIn_bind_ok _ accepted, Act.runIn_bind, built]
  rfl

end

/-! ### Requests -/

/--
Requests for a device are handled by the pipeline with a number, which has these settings.  What it
does of its own is what it may do, and without reactions there is nothing else.
-/
def World.Directs (w : World) (device : String) (settings : Settings) (i : Nat) : Prop :=
  ∃ p, w.pipelines[i]? = some p ∧ p.device = device ∧ p.settings = settings ∧
    ∀ (o : Objective) (tag : String) (reaction : Reaction),
      let ticket : Ticket := { serial := w.tickets, tag, reaction }
      let issued : World := { w with tickets := w.tickets + 1 }
      let handle (nested : Nested) := perform nested (.handle device (some o) tag reaction)
      (∀ nested, (handle nested).runIn w =
        (submit nested i ticket o >>= fun _ => pure .done).runIn issued) ∧
      (∀ nested, Interleaved (p.effects i ticket o) nested issued ((handle nested).after w)) ∧
      (p.effects i ticket o).Allows issued ((handle (reactTo 0)).after w)

section
variable {w : World} {device : String} {i : Nat}

theorem runIn_registered_of_some (entry : lookupPair? device w.registry = some i) :
    (registered device).runIn w = (.ok i, w) := by
  unfold registered
  rw [Act.runIn_get_bind, entry]
  rfl

theorem runIn_registered_of_none (missing : lookupPair? device w.registry = none) :
    (registered device).runIn w =
      (.error (.notRegistered device), w.note [.logged (.notRegistered device)]) := by
  unfold registered
  rw [Act.runIn_get_bind, missing]
  rfl

/-- An objective gets a ticket before the pipeline of its device is looked up. -/
theorem runIn_handle
    (nested : Nested)
    (device : String)
    (o : Objective)
    (tag : String)
    (reaction : Reaction)
    (w : World) :
    (perform nested (.handle device (some o) tag reaction)).runIn w =
      (registered device >>= fun i =>
        submit nested i { serial := w.tickets, tag, reaction } o >>= fun _ => pure .done).runIn
        { w with tickets := w.tickets + 1 } :=
  rfl

/-- The registered pipeline handles the requests for its device. -/
theorem World.Directs.of_registered
    {p : Pipeline}
    {settings : Settings}
    (entry : lookupPair? device w.registry = some i)
    (found : w.pipelines[i]? = some p)
    (device_eq : p.device = device)
    (settings_eq : p.settings = settings) :
    w.Directs device settings i := by
  refine ⟨p, found, device_eq, settings_eq, fun o tag reaction => ?_⟩
  intro ticket issued handle
  have handled (nested : Nested) :
      (handle nested).runIn w =
        (submit nested i ticket o >>= fun _ => pure .done).runIn issued := by
    have known : (registered device).runIn issued = (.ok i, issued) :=
      runIn_registered_of_some entry
    change (perform nested (.handle device (some o) tag reaction)).runIn w = _
    rw [runIn_handle, Act.runIn_bind, known]
  have interleaved (nested : Nested) :
      Interleaved (p.effects i ticket o) nested issued ((handle nested).after w) := by
    rw [Act.after, handled, Act.runIn_bind_pure]
    exact interleaved_submit ticket o found
  exact ⟨handled, interleaved, (interleaved (reactTo 0)).allows fun _ _ => rfl⟩

/-- An objective for a device that is not registered is turned away. -/
theorem runIn_handle_of_none
    (nested : Nested)
    (o : Objective)
    (tag : String)
    (reaction : Reaction)
    (missing : lookupPair? device w.registry = none) :
    (perform nested (.handle device (some o) tag reaction)).runIn w =
      (.error (.notRegistered device),
        { w with tickets := w.tickets + 1 }.note [.logged (.notRegistered device)]) := by
  have unknown : (registered device).runIn { w with tickets := w.tickets + 1 } =
      (.error (.notRegistered device),
        { w with tickets := w.tickets + 1 }.note [.logged (.notRegistered device)]) :=
    runIn_registered_of_none missing
  rw [runIn_handle, Act.runIn_bind, unknown]

end

/-- A registry serves these devices, by the pipelines whose numbers begin with the first. -/
structure World.Serves (w : World) (devices : List String) (settings : Settings) (first : Nat) :
    Prop where
  /-- The registry lists the devices in order. -/
  lists (nested : Nested) : (perform nested .devices).runIn w = (.ok (.devices devices), w)
  /-- Each device has its pipeline. -/
  directs (k : Nat) (device : String) (listed : devices[k]? = some device) :
    w.Directs device settings (first + k)
  /-- An objective for another device is turned away, which is noted. -/
  rejects (nested : Nested) (device : String) (o : Objective) (tag : String) (reaction : Reaction)
    (unlisted : device ∉ devices) :
    (perform nested (.handle device (some o) tag reaction)).runIn w =
      (.error (.notRegistered device),
        { w with tickets := w.tickets + 1 }.note [.logged (.notRegistered device)])
  /-- What is no objective changes nothing. -/
  ignores (nested : Nested) (device tag : String) (reaction : Reaction) :
    (perform nested (.handle device none tag reaction)).runIn w = (.error .unknownRequest, w)

/-- A registry that has been built serves its devices as long as it is undisturbed. -/
theorem World.Undisturbed.serves
    {w v : World}
    {devices : List String}
    {settings : Settings}
    (undisturbed : (w.enrol devices settings).Undisturbed v)
    (distinct : devices.Nodup) :
    v.Serves devices settings w.pipelines.length where
  lists nested := by
    have answered : (perform nested .devices).runIn v =
        (.ok (.devices (v.registry.map (·.1))), v) := rfl
    rw [answered, undisturbed.registry]
    simp [World.enrol]
  directs k device listed := by
    have entry : lookupPair? device v.registry = some (w.pipelines.length + k) := by
      rw [undisturbed.registry]
      exact lookupPair?_zipIdx distinct listed _
    have built : (w.enrol devices settings).pipelines[w.pipelines.length + k]? =
        some { device, settings, listening := true } := by
      simp [World.enrol, World.built, List.getElem?_append_right, listed]
    obtain ⟨p, found, device_eq, settings_eq⟩ := undisturbed.pipelines _ _ built
    exact .of_registered entry found device_eq settings_eq
  rejects nested device o tag reaction unlisted := by
    refine runIn_handle_of_none nested o tag reaction ?_
    rw [undisturbed.registry]
    exact lookupPair?_zipIdx_of_not_mem unlisted _
  ignores _ _ _ _ := rfl

/--
For every list of devices and every section of settings that are accepted, a registry is built
without a fault: there is one more pipeline that listens for each device, in order.  From then on,
as long as no step changes the registry, it serves these devices with these settings.
-/
theorem registry_serves
    {listed : Tree}
    {devices : List String}
    {entries : List (Tree × Tree)}
    {settings : Settings}
    (listing : devicesOf listed = .ok devices)
    (accepted : Settings.ofSection entries = .ok settings) :
    ∃ proposal, Proposal.ofSection entries = .ok proposal ∧ proposal.draft = settings.toDraft ∧
      ∀ w : World,
        (∀ nested, (perform nested (.buildRegistry devices proposal.draft false)).runIn w =
          (.ok .done, w.enrol devices settings)) ∧
        (w.enrol devices settings).listeners =
          w.listeners ++ List.range' w.pipelines.length devices.length ∧
        ∀ v, (w.enrol devices settings).Later v →
          v.Serves devices settings w.pipelines.length := by
  obtain ⟨proposal, read, checked⟩ := Settings.ofSection_eq_ok_iff.mp accepted
  have distinct := nodup_of_devicesOf listing
  have same : settings.toDraft = proposal.draft := Draft.check_eq_ok_iff.mp checked
  refine ⟨proposal, read, same.symm, fun w => ⟨fun nested => ?_, rfl, fun v later => ?_⟩⟩
  · rw [← same]
    exact runIn_buildRegistry distinct w
  · exact later.undisturbed.serves distinct

/-- A next objective for a group with one member. -/
def broadcastObjective : NextObjective :=
  { id := .number 42
    kind := some .broadcast
    members := [{}]
    app := "app"
    operation := some .add }

/--
A registry for two devices, with a service table and a key space of their own, still serves both when
it has handled an objective for each, and what was no objective.
-/
theorem registry_serves_twoDevices :
    let section_ : List (Tree × Tree) :=
      [(.ofString "qq_table", .int 7), (.ofString "group_key_namespace", .ofString "edge")]
    let settings : Settings :=
      { usualSettings with
        serviceTable := 7
        keySpace := "edge"
        serviceTable_nonneg := by decide
        keySpace_ne_empty := by decide }
    let handle (device : String) (o : Option Objective) (w : World) : World :=
      (runStep 1 (.handle device o "tag" (.recording false [] [])) w).after
    let built := ({} : World).enrol ["of:1", "of:2"] settings
    let later := handle "of:1" none <| handle "of:2" (some (.next broadcastObjective)) <|
      handle "of:1" (some (.next broadcastObjective)) built
    devicesOf (.list [.ofString "of:1", .ofString "of:2"]) = .ok ["of:1", "of:2"] ∧
      Settings.ofSection section_ = .ok settings ∧ built.Later later ∧
      later.Serves ["of:1", "of:2"] settings 0 := by
  intro section_ settings handle built later
  have listing : devicesOf (.list [.ofString "of:1", .ofString "of:2"]) =
      .ok ["of:1", "of:2"] := by
    rfl
  have accepted : Settings.ofSection section_ = .ok settings :=
    Settings.ofSection_eq_ok_iff.mpr
      ⟨{ serviceTable := some 7, keySpace := some "edge" }, rfl, Draft.check_eq_ok_iff.mpr rfl⟩
  have handled : built.Later later :=
    .tail (.tail (.single (.step 1 _ (by decide +kernel))) (.step 1 _ (by decide +kernel)))
      (.step 1 _ (by decide +kernel))
  obtain ⟨_, _, _, serves⟩ := registry_serves listing accepted
  exact ⟨listing, accepted, handled, (serves {}).2.2 later handled⟩

end Session
end LineTerminal
