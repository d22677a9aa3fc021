import LinkControl.Server.Frame

/-!
# Link server — changes confined to one device

`Touched d s s'`: between `s` and `s'` only device `d` changed, its client list and
its entries in the lists of the clients at most shrank, and whatever the trace
gained is about `d`. Every transition of `alter_device_status` and every
disconnection is of this kind (`touched_alterDeviceStatus`,
`touched_disconnectClientFromDevice`).

The module also names what the code makes of the next command's result
(`launchResult`) and states the three link commands in terms of it.
-/

namespace LinkControl

open ReturnCode

/-- Only device `d` changed, and its clients and mentions at most went away. -/
structure Touched (d : DevPtr) (s s' : State) : Prop where
  gDevices : s'.gDevices = s.gDevices
  gClients : s'.gClients = s.gClients
  mallocs : s'.mallocs = s.mallocs
  other : ∀ d', d' ≠ d → s'.dev d' = s.dev d'
  name : (s'.dev d).deviceName = (s.dev d).deviceName
  clients : (s'.dev d).clientsConnected.Sublist (s.dev d).clientsConnected
  sa : ∀ c, (s'.cli c).sa = (s.cli c).sa
  heard : ∀ c, (s'.cli c).lastHeardFrom = (s.cli c).lastHeardFrom
  devices : ∀ c, (s'.cli c).devicesConnected.Sublist (s.cli c).devicesConnected
  elsewhere : ∀ c d', d' ≠ d → d' ∈ (s.cli c).devicesConnected →
    d' ∈ (s'.cli c).devicesConnected
  clock : s.clock ≤ s'.clock
  trace : ∃ new, s'.trace = new ++ s.trace ∧
    ∀ e ∈ new, e.device = some d ∧ s.clock ≤ e.time

namespace Touched

variable {d : DevPtr} {s s' s'' : State}

theorem refl (d : DevPtr) (s : State) : Touched d s s where
  gDevices := rfl
  gClients := rfl
  mallocs := rfl
  other _ _ := rfl
  name := rfl
  clients := List.Sublist.refl _
  sa _ := rfl
  heard _ := rfl
  devices _ := List.Sublist.refl _
  elsewhere _ _ _ h := h
  clock := le_rfl
  trace := ⟨[], rfl, fun _ h => absurd h List.not_mem_nil⟩

/-- Composition. -/
theorem trans (h : Touched d s s') (h' : Touched d s' s'') : Touched d s s'' where
  gDevices := h'.gDevices.trans h.gDevices
  gClients := h'.gClients.trans h.gClients
  mallocs := h'.mallocs.trans h.mallocs
  other d' hd := (h'.other d' hd).trans (h.other d' hd)
  name := h'.name.trans h.name
  clients := h'.clients.trans h.clients
  sa c := (h'.sa c).trans (h.sa c)
  heard c := (h'.heard c).trans (h.heard c)
  devices c := (h'.devices c).trans (h.devices c)
  elsewhere c d' hd hMem := h'.elsewhere c d' hd (h.elsewhere c d' hd hMem)
  clock := h.clock.trans h'.clock
  trace := by
    obtain ⟨new, hEq, hNew⟩ := h.trace
    obtain ⟨new', hEq', hNew'⟩ := h'.trace
    refine ⟨new' ++ new, by rw [hEq', hEq, List.append_assoc], fun e he => ?_⟩
    rcases List.mem_append.mp he with he | he
    · exact ⟨(hNew' e he).1, h.clock.trans (hNew' e he).2⟩
    · exact hNew e he

/-- Every device keeps its name. -/
theorem deviceName (h : Touched d s s') (d' : DevPtr) :
    (s'.dev d').deviceName = (s.dev d').deviceName := by
  rcases eq_or_ne d' d with rfl | hd
  · exact h.name
  · rw [h.other d' hd]

/-- No device gains a client. -/
theorem clientsConnected (h : Touched d s s') (d' : DevPtr) :
    (s'.dev d').clientsConnected.Sublist (s.dev d').clientsConnected := by
  rcases eq_or_ne d' d with rfl | hd
  · exact h.clients
  · rw [h.other d' hd]

/-- The lists of the clients differ in `d` at most. -/
theorem mem_devices (h : Touched d s s') {c : CliPtr} {d' : DevPtr} (hd : d' ≠ d) :
    d' ∈ (s'.cli c).devicesConnected ↔ d' ∈ (s.cli c).devicesConnected :=
  ⟨fun h' => (h.devices c).subset h', h.elsewhere c d' hd⟩

end Touched

-- ---------------------------------------------------------------------------
-- Single assignments
-- ---------------------------------------------------------------------------

section Assignments

variable (w : World) (d : DevPtr) (s : State)

theorem touched_setErrno (e : Errno) : Touched d s (s.setErrno e) :=
  { Touched.refl d s with }

theorem touched_advance : Touched d s (advance w s) :=
  { Touched.refl d s with clock := by rw [advance_clock]; omega }

theorem touched_sleep (n : Nat) : Touched d s (sleep w n s) :=
  { Touched.refl d s with clock := by rw [sleep_clock, advance_clock]; omega }

theorem touched_setRetries (n : Int) : Touched d s (s.setRetries d n) :=
  { Touched.refl d s with
    other := fun d' hd => by simp [hd]
    name := by simp
    clients := by simp }

theorem touched_setStatus (st : DeviceStatus) : Touched d s (s.setStatus d st) :=
  { Touched.refl d s with
    other := fun d' hd => by simp [hd]
    name := by simp
    clients := by simp
    trace := ⟨[.status s.clock d (s.dev d).status st], rfl, by simp [Effect.device, Effect.time]⟩ }

theorem touched_setConnectTime : Touched d s (setConnectTime w d s) :=
  { touched_advance w d s with
    other := fun d' hd => by simp [hd]
    name := by simp
    clients := by simp }

/-- A client list may only shrink. -/
theorem touched_setClientsConnected {pp : List CliPtr}
    (h : pp.Sublist (s.dev d).clientsConnected) : Touched d s (s.setClientsConnected d pp) :=
  { Touched.refl d s with
    other := fun d' hd => by simp [hd]
    name := by simp
    clients := by simpa using h }

theorem touched_gaveUp : Touched d s (s.log (.gaveUp s.clock d)) :=
  { Touched.refl d s with
    trace := ⟨[.gaveUp s.clock d], rfl, by simp [Effect.device, Effect.time]⟩ }

/-- Running a command takes time and is noted. -/
theorem touched_ran (command : Command) : Touched d s (ran w d command s) :=
  { touched_advance w d s with
    trace := ⟨[.ran s.clock d command (w.system s.commands).result], rfl,
      by simp [Effect.device, Effect.time]⟩ }

/-- A client forgets this device and no other. -/
theorem touched_forgetDevice (c : CliPtr) : Touched d s (forgetDevice d c s).2 := by
  obtain ⟨e, h⟩ := forgetDevice_eq d c s
  rw [h]
  exact { Touched.refl d s with
    sa := fun c' => by rcases eq_or_ne c' c with rfl | hc <;> simp [*]
    heard := fun c' => by rcases eq_or_ne c' c with rfl | hc <;> simp [*]
    devices := fun c' => by
      rcases eq_or_ne c' c with rfl | hc
      · simpa using List.erase_sublist
      · simp [hc]
    elsewhere := fun c' d' hd hMem => by
      rcases eq_or_ne c' c with rfl | hc
      · simpa using (List.mem_erase_of_ne hd).mpr hMem
      · simpa [hc] using hMem }

/-- Wiping a device clears its own list, and no client forgets another device. -/
theorem touched_wiped : Touched d s (wiped d s) :=
  (touched_setClientsConnected d s (List.nil_sublist _)).trans
    (untilFailure_invariant' (I := Touched d (s.setClientsConnected d []))
      (fun c _ s' h => h.trans (touched_forgetDevice d s' c)) _ (Touched.refl d _))

end Assignments

-- ---------------------------------------------------------------------------
-- Link commands
-- ---------------------------------------------------------------------------

/-- What the code makes of the result of the next command: 127 counts as a failure
to run it at all. -/
def launchResult (w : World) (s : State) : Int :=
  if (w.system s.commands).result = 127 then -1 else (w.system s.commands).result

/-- A launch returns its result and runs the command. -/
theorem launch_eq (w : World) (d : DevPtr) (command : Command) (s : State) :
    launch w d command s = (launchResult w s, ran w d command s) := rfl

/-- `link_up` and `link_down` take the connect time when the command returned exactly 0. -/
theorem launchTimed_eq (w : World) (d : DevPtr) (command : Command) (s : State) :
    launchTimed w d command s = (launchResult w s,
      if launchResult w s = 0 then setConnectTime w d (ran w d command s)
      else ran w d command s) := rfl

/-- `link_force_down` wipes the device when the command returned exactly 0. -/
theorem linkForceDown_eq (w : World) (d : DevPtr) (s : State) :
    linkForceDown w d s = (launchResult w s,
      if launchResult w s = 0 then wiped d (ran w d .linkForceDown s)
      else ran w d .linkForceDown s) := by
  unfold linkForceDown
  rw [launch_eq]
  by_cases h : launchResult w s = 0
  · simp only [h, if_true]
    rw [unlessFails_of_nonneg (by simp [removeAllClientsFromDevice]),
      unlessFails_of_nonneg (removeDeviceFromAllClients_fst d _).ge]
    rfl
  · simp only [h, if_false]

section Links

variable (w : World) (cfg : Config) (d : DevPtr) (s : State)

theorem touched_launchTimed (command : Command) : Touched d s (launchTimed w d command s).2 := by
  rw [launchTimed_eq]
  show Touched d s (if launchResult w s = 0 then setConnectTime w d (ran w d command s)
    else ran w d command s)
  split
  · exact (touched_ran w d s command).trans (touched_setConnectTime w d _)
  · exact touched_ran w d s command

theorem touched_linkForceDown : Touched d s (linkForceDown w d s).2 := by
  rw [linkForceDown_eq]
  show Touched d s (if launchResult w s = 0 then wiped d (ran w d .linkForceDown s)
    else ran w d .linkForceDown s)
  split
  · exact (touched_ran w d s _).trans (touched_wiped d _)
  · exact touched_ran w d s _

-- ---------------------------------------------------------------------------
-- alter_device_status and disconnection
-- ---------------------------------------------------------------------------

theorem touched_alterToDown : Touched d s (alterToDown w d s).2 := by
  have hForce := touched_linkForceDown w d s
  have hDone := fun s' => touched_setStatus d s' .down
  unfold alterToDown
  split
  · exact hDone s
  all_goals exact unlessFails_post (fun _ => hForce) fun _ => hForce.trans (hDone _)

theorem touched_redial : Touched d s (redial w d s).2 := by
  have hRetries := touched_setRetries d s ((s.dev d).retries - 1)
  unfold redial
  dsimp only
  split
  · exact (hRetries.trans (touched_gaveUp d _)).trans (touched_alterToDown w d _)
  · have hUp := hRetries.trans (touched_launchTimed w d _ .linkUp)
    exact unlessFails_post (fun _ => hUp) fun _ =>
      (hUp.trans (touched_setConnectTime w d _)).trans (touched_setStatus d _ _)

theorem touched_alterToConnecting : Touched d s (alterToConnecting w cfg d s).2 := by
  have hForce := touched_linkForceDown w d s
  unfold alterToConnecting
  split
  · exact unlessFails_post (fun _ => hForce) fun _ =>
      ((hForce.trans (touched_sleep w d _ 2)).trans (touched_setRetries d _ _)).trans
        (touched_redial w d _)
  · exact (touched_setRetries d s _).trans (touched_redial w d _)
  · exact touched_redial w d s
  · exact touched_setErrno d s _

theorem touched_alterToDisconnecting : Touched d s (alterToDisconnecting w d s).2 := by
  have hForce := touched_linkForceDown w d s
  have hDown := touched_launchTimed w d s .linkDown
  have hDone := fun s' st => touched_setStatus d s' st
  unfold alterToDisconnecting
  split
  · exact unlessFails_post (fun _ => hForce) fun _ => hForce.trans (hDone _ _)
  · exact unlessFails_post (fun _ => hForce) fun _ => hForce.trans (hDone _ _)
  · exact unlessFails_post (fun _ => hDown) fun _ => hDown.trans (hDone _ _)
  · exact touched_setErrno d s _

theorem touched_alterToUp : Touched d s (alterToUp w d s).2 := by
  unfold alterToUp
  split
  any_goals exact touched_setErrno d s _
  exact (touched_setConnectTime w d s).trans (touched_setStatus d _ _)

/-- Whatever status is asked for. -/
theorem touched_alterDeviceStatus (new : DeviceStatus) :
    Touched d s (alterDeviceStatus w cfg d new s).2 := by
  cases new with
  | connecting => exact touched_alterToConnecting w cfg d s
  | disconnecting => exact touched_alterToDisconnecting w d s
  | up => exact touched_alterToUp w d s
  | down => exact touched_alterToDown w d s

/-- `rm_client` on the list of a device, as `disconnect_client_from_device` uses it:
there is nothing to do, or the client goes, and the last one to go has the link
brought down. -/
theorem disconnectClientFromDevice_eq (c : CliPtr) :
    disconnectClientFromDevice w cfg c d s =
      if c ∈ (s.dev d).clientsConnected then
        if (s.dev d).clientsConnected.erase c = [] then
          unlessFails (alterToDisconnecting w d (s.setClientsConnected d []))
            (forgetDevice d c)
        else forgetDevice d c
          (s.setClientsConnected d ((s.dev d).clientsConnected.erase c))
      else forgetDevice d c (s.setErrno .enodev) := by
  unfold disconnectClientFromDevice rmClient
  rw [rmCell_eq]
  by_cases hc : c ∈ (s.dev d).clientsConnected
  · by_cases hLast : (s.dev d).clientsConnected.erase c = []
    · simp [hc, hLast, alterDeviceStatus]
    · simp [hc, hLast]
  · simp [hc]

/-- Leaving a device touches no other. -/
theorem touched_disconnectClientFromDevice (c : CliPtr) :
    Touched d s (disconnectClientFromDevice w cfg c d s).2 := by
  rw [disconnectClientFromDevice_eq]
  split
  · split
    · have hAlter := (touched_setClientsConnected d s (List.nil_sublist _)).trans
        (touched_alterToDisconnecting w d _)
      exact unlessFails_post (fun _ => hAlter) fun _ =>
        hAlter.trans (touched_forgetDevice d _ c)
    · exact (touched_setClientsConnected d s List.erase_sublist).trans
        (touched_forgetDevice d _ c)
  · exact (touched_setErrno d s _).trans (touched_forgetDevice d _ c)

end Links

/-- An expiry leaves what the disconnection leaves. -/
theorem removeClientFromDevice_snd (w : World) (cfg : Config) (c : CliPtr) (d : DevPtr)
    (s : State) : (removeClientFromDevice w cfg c d s).2 =
      (disconnectClientFromDevice w cfg c d s).2 := by
  unfold removeClientFromDevice
  dsimp only
  split <;> rfl

/-- Neither does the round of the sweep that leaves one device. -/
theorem touched_removeClientFromDevice (w : World) (cfg : Config) (d : DevPtr) (s : State)
    (c : CliPtr) : Touched d s (removeClientFromDevice w cfg c d s).2 := by
  rw [removeClientFromDevice_snd]
  exact touched_disconnectClientFromDevice w cfg d s c

end LinkControl
