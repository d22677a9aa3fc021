import LinkControl.Server.Invariants

/-!
# Link server — the lists stay well formed

Well-formedness is an invariant of the server whatever the commands and the
allocator do (`wellFormed_kept`), and the devices that `read_config` loads satisfy
it (`booted_boot`), so it holds in every reachable state (`wellFormed_run`).

The point of interest is the expiry of a client. Its structure is freed after a
pass over all devices whose calls can fail, can be skipped through a stale `errno`,
and can edit the lists of the clients; `Kept.dropped` asks only what a completed pass
guarantees, that no device lists the client any more.
-/

namespace LinkControl

open ReturnCode

variable {w : World} {cfg : Config}

-- ---------------------------------------------------------------------------
-- Every call keeps the lists well formed
-- ---------------------------------------------------------------------------

/-- A state that differs in the counters and `errno` only. -/
theorem quiet_counters (s : State) (n : Nat) (e : Errno) :
    Quiet s { s with mallocs := n, errno := e } :=
  { Quiet.refl s with }

theorem WellFormed.noteDevice_call {s : State} (h : WellFormed s) (c : CliPtr) {d : DevPtr}
    (hd : d ∈ s.gDevices) : WellFormed (LinkControl.noteDevice w c d s).2 := by
  rcases noteDevice_cases w c d s with ⟨-, hEq⟩ | ⟨-, -, hEq⟩ | ⟨hNew, -, hEq⟩ <;> rw [hEq]
  · exact h.quiet (quiet_setErrno s _)
  · exact h.quiet (quiet_counters s _ _)
  · exact (h.quiet (quiet_counters s (s.mallocs + 1) .enodev)).noteDevice hd
      fun hMem => hNew d hMem rfl

/-- A client and a device that are both listed may be noted at each other. -/
theorem WellFormed.noteClient_call {s : State} (h : WellFormed s) {c : CliPtr} {d : DevPtr}
    (hc : c ∈ s.gClients) (hd : d ∈ s.gDevices) :
    WellFormed (LinkControl.noteClient w c d s).2 := by
  rcases noteClient_cases w c d s with ⟨-, hEq⟩ | ⟨-, -, hEq⟩ | ⟨hNew, -, hEq⟩ <;> rw [hEq]
  · exact (h.quiet (quiet_setErrno s _)).noteDevice_call c hd
  · exact h.quiet (quiet_counters s _ _)
  · exact ((h.quiet (quiet_counters s (s.mallocs + 1) .enodev)).noteClient hc
      fun hMem => hNew c hMem rfl).noteDevice_call c hd

/-- Connecting notes only a client and a device that are listed. -/
theorem WellFormed.connect_call {s : State} (h : WellFormed s) {c : CliPtr} {d : DevPtr}
    (hc : c ∈ s.gClients) (hd : d ∈ s.gDevices) :
    WellFormed (connectClientToDevice w cfg c d s).2 := by
  unfold connectClientToDevice
  split
  · have ht := (touched_setRetries d s cfg.gRetries).trans
      (touched_alterDeviceStatus w cfg d (s.setRetries d cfg.gRetries) .connecting)
    exact unlessFails_post (fun _ => h.touched ht) fun _ =>
      (h.touched ht).noteClient_call (ht.gClients ▸ hc) (ht.gDevices ▸ hd)
  · exact h.noteClient_call hc hd

/-- Every call but a connection touches its own device only. -/
theorem touched_run {o : Op} {s : State} (hOp : ∀ c d, o ≠ .connect c d) :
    Touched o.device s (o.run w cfg s).2 := by
  cases o with
  | connect c d => exact absurd rfl (hOp c d)
  | disconnect c d => exact touched_disconnectClientFromDevice w cfg d s c
  | isUp d => exact touched_alterDeviceStatus w cfg d s .up
  | isDown d => exact touched_alterDeviceStatus w cfg d s .down
  | forceDown d =>
    have ht := touched_alterDeviceStatus w cfg d s .down
    exact unlessFails_post (fun _ => ht) fun _ =>
      ht.trans (touched_setClientsConnected d _ (List.nil_sublist _))
  | timeout d => exact touched_alterDeviceStatus w cfg d s _
  | expire c d => exact touched_removeClientFromDevice w cfg d s c

/-- **Call rule.** Every call on listed clients and devices keeps the lists well formed. -/
theorem WellFormed.run {o : Op} {s : State} (h : WellFormed s) (hApplies : o.Applies cfg s) :
    WellFormed (o.run w cfg s).2 := by
  cases o with
  | connect c d => exact h.connect_call hApplies.1 hApplies.2
  | _ => exact h.touched (touched_run (by simp))

theorem WellFormed.log {s : State} (h : WellFormed s) (e : Effect) : WellFormed (s.log e) :=
  ⟨h.addrs, h.names, h.clientsNodup, h.devicesNodup, h.clientsKnown, h.devicesKnown⟩

/-- Well-formedness is an invariant, whatever the calls meet. -/
theorem wellFormed_kept : Kept w cfg (fun _ _ => True) WellFormed (fun _ => WellFormed) :=
  Kept.uniform (fun h => h) (fun hq h => h.quiet hq) (fun hj h => h.joined hj)
    (fun _ _ h => h.log _) (fun h hApplies _ => h.run hApplies)
    (fun h _ hGone => h.dropped hGone)

-- ---------------------------------------------------------------------------
-- The state after read_config
-- ---------------------------------------------------------------------------

/-- No client is known, nothing has happened, every device is down and free. -/
structure Booted (s : State) : Prop where
  gClients : s.gClients = []
  trace : s.trace = []
  crashed : s.crashed = false
  status : ∀ d ∈ s.gDevices, (s.dev d).status = .down
  clients : ∀ d ∈ s.gDevices, (s.dev d).clientsConnected = []
  names : (s.gDevices.map fun d => (s.dev d).deviceName).Nodup

/-- A server without clients has nothing to dangle. -/
theorem Booted.wellFormed {s : State} (h : Booted s) : WellFormed s where
  addrs := by simp [h.gClients]
  names := h.names
  clientsNodup d hd := by simp [h.clients d hd]
  devicesNodup c hc := by simp [h.gClients] at hc
  clientsKnown d hd c hc := by simp [h.clients d hd] at hc
  devicesKnown c hc := by simp [h.gClients] at hc

theorem booted_emptyState (w : World) : Booted (emptyState w) := by
  constructor <;> simp [emptyState]

/-- Loading a section at a block of its own. -/
theorem Booted.loadDevice {s : State} (h : Booted s) {p : DevPtr}
    (hFresh : ∀ d ∈ s.gDevices, d < p) (sec : DeviceSection) :
    Booted (LinkControl.loadDevice w p sec s) ∧
      ∀ d ∈ (LinkControl.loadDevice w p sec s).gDevices, d < p + 1 := by
  have hLater : ∀ d ∈ s.gDevices, d < p + 1 := fun d hd => Nat.lt_succ_of_lt (hFresh d hd)
  unfold LinkControl.loadDevice
  cases hName : sec.name with
  | none => exact ⟨h, hLater⟩
  | some name =>
    dsimp only
    set s₁ : State := { s with dev := Function.update s.dev p (sec.device name) } with hs₁
    have hOld : ∀ d ∈ s.gDevices, s₁.dev d = s.dev d := fun d hd =>
      Function.update_of_ne (Nat.ne_of_lt (hFresh d hd)) _ _
    have hSelf : s₁.dev p = sec.device name := Function.update_self ..
    -- the list as it was, in the memory that now holds the new block
    have hSame : ∀ n e, Booted { s₁ with mallocs := n, errno := e } := fun n e =>
      { h with
        status := fun d hd => by rw [hOld d hd]; exact h.status d hd
        clients := fun d hd => by rw [hOld d hd]; exact h.clients d hd
        names := by
          rw [List.map_congr_left fun d hd => congrArg Device.deviceName (hOld d hd)]
          exact h.names }
    unfold addDevice
    rcases hGet : getDevice s.gDevices (s₁.dev p).deviceName s₁ with ⟨_ | d, s'⟩
    · obtain ⟨hNone, rfl⟩ := getDevice_none hGet
      have hNew : p ∉ s.gDevices := fun hp => absurd (hFresh p hp) (Nat.lt_irrefl p)
      rcases appendCell_cases w (s₁.setErrno .enodev) hNew with ⟨-, hEq⟩ | ⟨-, hEq⟩ <;>
        dsimp only <;> rw [hEq]
      · exact ⟨hSame _ _, hLater⟩
      · refine ⟨⟨h.gClients, h.trace, h.crashed, fun d hd => ?_, fun d hd => ?_, ?_⟩,
          fun d hd => ?_⟩
        · rcases List.mem_append.mp hd with hd | hd
          · exact (hSame 0 .enodev).status d hd
          · rw [List.mem_singleton.mp hd]
            exact congrArg Device.status hSelf
        · rcases List.mem_append.mp hd with hd | hd
          · exact (hSame 0 .enodev).clients d hd
          · rw [List.mem_singleton.mp hd]
            exact congrArg Device.clientsConnected hSelf
        · show ((s.gDevices ++ [p]).map fun d => (s₁.dev d).deviceName).Nodup
          rw [List.map_append]
          refine (hSame 0 .enodev).names.append (List.nodup_singleton _) fun n hn hn' => ?_
          obtain ⟨d, hd, rfl⟩ := List.mem_map.mp hn
          exact hNone d hd (by simpa using hn')
        · rcases List.mem_append.mp hd with hd | hd
          · exact hLater d hd
          · rw [List.mem_singleton.mp hd]
            exact Nat.lt_succ_self p
    · obtain ⟨-, -, rfl⟩ := getDevice_some hGet
      exact ⟨hSame _ _, hLater⟩

/-- Each section adds a device that is new and down, or nothing. -/
theorem Booted.loadDevices {s : State} (h : Booted s) :
    ∀ {sections : List DeviceSection} {p : DevPtr}, (∀ d ∈ s.gDevices, d < p) →
      Booted (LinkControl.loadDevices w p sections s) := by
  intro sections
  induction sections generalizing s with
  | nil => exact fun _ => h
  | cons sec rest ih =>
    intro p hFresh
    obtain ⟨h', hFresh'⟩ := h.loadDevice (w := w) hFresh sec
    exact ih h' hFresh'

/-- The server starts without clients, and every device is down. -/
theorem booted_boot (w : World) (sections : List DeviceSection) : Booted (boot w sections) :=
  (booted_emptyState w).loadDevices (by simp [emptyState])

-- ---------------------------------------------------------------------------
-- Runs
-- ---------------------------------------------------------------------------

theorem along_of_calls {P : Op → State → Prop} (h : ∀ o s, P o s) (es : List Event) (s : State) :
    Runs.Along (fun e s => (step w cfg e s).2) (StepCalls w cfg P) es s :=
  Runs.along_of_forall (calls_of_forall h) es s

/-- **Run rule.** The lists are well formed in every reachable state, whatever the commands and
the memory do. -/
theorem wellFormed_run (w : World) (cfg : Config) (sections : List DeviceSection)
    (es : List Event) : WellFormed (serverRun w cfg es (boot w sections)) :=
  wellFormed_kept.run (booted_boot w sections).wellFormed
    (along_of_calls (fun _ _ => trivial) es _)

/-- **No dangling reference and no duplicate.** Whatever the commands return and
whether or not memory runs out, in every reachable state: addresses in `g_clients`
and names in `g_devices` are distinct, no membership list has an entry twice, every
client a device lists is still in `g_clients` (so none that was freed is), and every
device a client lists is in `g_devices`. -/
theorem lists_sound (w : World) (cfg : Config) (sections : List DeviceSection)
    (es : List Event) :
    let s := serverRun w cfg es (boot w sections)
    (s.gClients.map fun c => (s.cli c).sa.addr).Nodup ∧
    (s.gDevices.map fun d => (s.dev d).deviceName).Nodup ∧
    (∀ d ∈ s.gDevices, (s.dev d).clientsConnected.Nodup) ∧
    (∀ c ∈ s.gClients, (s.cli c).devicesConnected.Nodup) ∧
    (∀ d ∈ s.gDevices, ∀ c ∈ (s.dev d).clientsConnected, c ∈ s.gClients) ∧
    (∀ c ∈ s.gClients, ∀ d ∈ (s.cli c).devicesConnected, d ∈ s.gDevices) := by
  have h := wellFormed_run w cfg sections es
  exact ⟨h.addrs, h.names, h.clientsNodup, h.devicesNodup, h.clientsKnown, h.devicesKnown⟩

end LinkControl
