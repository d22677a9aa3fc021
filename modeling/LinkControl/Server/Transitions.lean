import LinkControl.Server.Integrity

/-!
# Link server — what each transition can do

One case lemma for every case of `alter_device_status` and for the two calls built on
it. Each lists the outcomes with their guards: the status met, whether the command
could be run (`launchResult`), and the state left, written with `forcedDown` and
`commanded` for what the link commands leave. Later modules go by these lemmas and
by the field lemmas next to the two definitions, and never unfold a transition.
-/

namespace LinkControl

open ReturnCode

variable {w : World} {cfg : Config} {c : CliPtr} {d : DevPtr} {s : State}

-- ---------------------------------------------------------------------------
-- What the link commands leave
-- ---------------------------------------------------------------------------

/-- The state `link_force_down` leaves: the lists are wiped when the command
returned 0, and only then. -/
def forcedDown (w : World) (d : DevPtr) (s : State) : State :=
  if launchResult w s = 0 then wiped d (ran w d .linkForceDown s)
  else ran w d .linkForceDown s

/-- The state `link_up` or `link_down` leaves: the connect time is set when the
command returned 0, and only then. -/
def commanded (w : World) (d : DevPtr) (command : Command) (s : State) : State :=
  if launchResult w s = 0 then setConnectTime w d (ran w d command s) else ran w d command s

/-- `link_force_down` returns what its launch did and leaves the device forced down. -/
theorem linkForceDown_forcedDown (w : World) (d : DevPtr) (s : State) :
    linkForceDown w d s = (launchResult w s, forcedDown w d s) := linkForceDown_eq w d s

/-- `link_up` and `link_down` return what their launch did and leave the command run. -/
theorem launchTimed_commanded (w : World) (d : DevPtr) (command : Command) (s : State) :
    launchTimed w d command s = (launchResult w s, commanded w d command s) :=
  launchTimed_eq w d command s

section Fields

variable (w d s)

@[simp] theorem launchResult_setRetries (n : Int) :
    launchResult w (s.setRetries d n) = launchResult w s := rfl

@[simp] theorem launchResult_setClientsConnected (pp : List CliPtr) :
    launchResult w (s.setClientsConnected d pp) = launchResult w s := rfl

theorem touched_forcedDown : Touched d s (forcedDown w d s) := by
  have h := touched_linkForceDown w d s
  rwa [linkForceDown_forcedDown] at h

theorem touched_commanded (command : Command) : Touched d s (commanded w d command s) := by
  have h := touched_launchTimed w d s command
  rwa [launchTimed_commanded] at h

@[simp] theorem forcedDown_status : ((forcedDown w d s).dev d).status = (s.dev d).status := by
  unfold forcedDown; split <;> simp

@[simp] theorem forcedDown_retries : ((forcedDown w d s).dev d).retries = (s.dev d).retries := by
  unfold forcedDown; split <;> simp

@[simp] theorem forcedDown_connectTime :
    ((forcedDown w d s).dev d).connectTime = (s.dev d).connectTime := by
  unfold forcedDown; split <;> simp

/-- Killing the connection clears the client list if the command returned exactly 0. -/
theorem forcedDown_clients : ((forcedDown w d s).dev d).clientsConnected =
    if launchResult w s = 0 then [] else (s.dev d).clientsConnected := by
  unfold forcedDown; split <;> simp

@[simp] theorem forcedDown_trace : (forcedDown w d s).trace =
    .ran s.clock d .linkForceDown (w.system s.commands).result :: s.trace := by
  unfold forcedDown; split <;> simp

@[simp] theorem forcedDown_clock : (forcedDown w d s).clock = s.clock + w.tick s.ticks := by
  unfold forcedDown; split <;> simp

@[simp] theorem forcedDown_commands : (forcedDown w d s).commands = s.commands + 1 := by
  unfold forcedDown; split <;> simp

@[simp] theorem forcedDown_gDevices : (forcedDown w d s).gDevices = s.gDevices :=
  (touched_forcedDown w d s).gDevices

@[simp] theorem forcedDown_gClients : (forcedDown w d s).gClients = s.gClients :=
  (touched_forcedDown w d s).gClients

/-- The clients forget the device together with its list. -/
theorem forcedDown_cli (hNodup : s.gClients.Nodup) (hc : c ∈ s.gClients) :
    (forcedDown w d s).cli c = if launchResult w s = 0 then
      { s.cli c with devicesConnected := (s.cli c).devicesConnected.erase d } else s.cli c := by
  unfold forcedDown
  split
  · rw [wiped_cli d (s := ran w d .linkForceDown s) hNodup]
    exact if_pos hc
  · rfl

variable (command : Command)

@[simp] theorem commanded_status :
    ((commanded w d command s).dev d).status = (s.dev d).status := by
  unfold commanded; split <;> simp

@[simp] theorem commanded_retries :
    ((commanded w d command s).dev d).retries = (s.dev d).retries := by
  unfold commanded; split <;> simp

@[simp] theorem commanded_clients :
    ((commanded w d command s).dev d).clientsConnected = (s.dev d).clientsConnected := by
  unfold commanded; split <;> simp

/-- The connect time is taken anew if the command returned exactly 0. -/
theorem commanded_connectTime : ((commanded w d command s).dev d).connectTime =
    if launchResult w s = 0 then (commanded w d command s).clock
    else (s.dev d).connectTime := by
  unfold commanded; split <;> simp

@[simp] theorem commanded_trace : (commanded w d command s).trace =
    .ran s.clock d command (w.system s.commands).result :: s.trace := by
  unfold commanded; split <;> simp

/-- The clock is read once more for it. -/
theorem commanded_clock : (commanded w d command s).clock =
    if launchResult w s = 0 then s.clock + w.tick s.ticks + w.tick (s.ticks + 1)
    else s.clock + w.tick s.ticks := by
  unfold commanded; split <;> simp

@[simp] theorem commanded_cli : (commanded w d command s).cli = s.cli := by
  unfold commanded; split <;> rfl

@[simp] theorem commanded_gClients : (commanded w d command s).gClients = s.gClients :=
  (touched_commanded w d s command).gClients

@[simp] theorem forgetDevice_dev : (forgetDevice d c s).2.dev = s.dev := by
  obtain ⟨e, h⟩ := forgetDevice_eq d c s; rw [h]

@[simp] theorem forgetDevice_trace : (forgetDevice d c s).2.trace = s.trace := by
  obtain ⟨e, h⟩ := forgetDevice_eq d c s; rw [h]

@[simp] theorem forgetDevice_clock : (forgetDevice d c s).2.clock = s.clock := by
  obtain ⟨e, h⟩ := forgetDevice_eq d c s; rw [h]

@[simp] theorem forgetDevice_gClients : (forgetDevice d c s).2.gClients = s.gClients := by
  obtain ⟨e, h⟩ := forgetDevice_eq d c s; rw [h]

theorem forgetDevice_cli : (forgetDevice d c s).2.cli = Function.update s.cli c
    { s.cli c with devicesConnected := (s.cli c).devicesConnected.erase d } := by
  obtain ⟨e, h⟩ := forgetDevice_eq d c s; rw [h]

end Fields

-- ---------------------------------------------------------------------------
-- The cases of alter_device_status
-- ---------------------------------------------------------------------------

/-- The state in which a successful dial leaves a device: one retry fewer, and the
connect time set once more than `link_up` did. -/
def dialled (w : World) (d : DevPtr) (s : State) : State :=
  (setConnectTime w d (commanded w d .linkUp
    (s.setRetries d ((s.dev d).retries - 1)))).setStatus d .connecting

/-- The state in which a dial that could not be run leaves a device. -/
def undialled (w : World) (d : DevPtr) (s : State) : State :=
  commanded w d .linkUp (s.setRetries d ((s.dev d).retries - 1))

/-- The state in which the retries are found to be used up. -/
def exhausted (d : DevPtr) (s : State) : State :=
  (s.setRetries d ((s.dev d).retries - 1)).log (.gaveUp s.clock d)

/-- The state in which a dial starts from a device that is down or hanging up: the
old connection is killed first where there is one, and all retries are left. -/
def readied (w : World) (cfg : Config) (d : DevPtr) (s : State) : State :=
  if (s.dev d).status = .disconnecting then
    (sleep w 2 (forcedDown w d s)).setRetries d cfg.gRetries
  else s.setRetries d cfg.gRetries

/-- The command that hangs up a device, and where the device goes when it works: a
connection that is still being made, or one that does not end by itself, is killed. -/
def hungUp (w : World) (d : DevPtr) (s : State) : State :=
  match (s.dev d).status with
  | .up => commanded w d .linkDown s
  | _ => forcedDown w d s

section NamedStates

variable (w : World) (cfg : Config) (d : DevPtr) (s : State)

theorem touched_dialled : Touched d s (dialled w d s) :=
  (((touched_setRetries d s _).trans (touched_commanded w d _ .linkUp)).trans
    (touched_setConnectTime w d _)).trans (touched_setStatus d _ _)

theorem touched_undialled : Touched d s (undialled w d s) :=
  (touched_setRetries d s _).trans (touched_commanded w d _ .linkUp)

theorem touched_readied : Touched d s (readied w cfg d s) := by
  unfold readied
  split
  · exact ((touched_forcedDown w d s).trans (touched_sleep w d _ 2)).trans
      (touched_setRetries d _ _)
  · exact touched_setRetries d s _

theorem touched_hungUp : Touched d s (hungUp w d s) := by
  unfold hungUp
  split
  · exact touched_commanded w d s _
  · exact touched_forcedDown w d s

theorem touched_exhausted : Touched d s (exhausted d s) :=
  (touched_setRetries d s _).trans (touched_gaveUp d _)

@[simp] theorem dialled_status : ((dialled w d s).dev d).status = .connecting := by
  simp [dialled]

@[simp] theorem dialled_retries :
    ((dialled w d s).dev d).retries = (s.dev d).retries - 1 := by
  simp [dialled]

@[simp] theorem dialled_clients :
    ((dialled w d s).dev d).clientsConnected = (s.dev d).clientsConnected := by
  simp [dialled]

@[simp] theorem dialled_connectTime :
    ((dialled w d s).dev d).connectTime = (dialled w d s).clock := by
  simp [dialled]

@[simp] theorem dialled_trace : (dialled w d s).trace =
    .status (dialled w d s).clock d (s.dev d).status .connecting ::
      .ran s.clock d .linkUp (w.system s.commands).result :: s.trace := by
  simp [dialled]

@[simp] theorem dialled_cli : (dialled w d s).cli = s.cli :=
  commanded_cli w d (s.setRetries d ((s.dev d).retries - 1)) .linkUp

@[simp] theorem undialled_status : ((undialled w d s).dev d).status = (s.dev d).status := by
  simp [undialled]

@[simp] theorem undialled_clients :
    ((undialled w d s).dev d).clientsConnected = (s.dev d).clientsConnected := by
  simp [undialled]

@[simp] theorem undialled_trace : (undialled w d s).trace =
    .ran s.clock d .linkUp (w.system s.commands).result :: s.trace := by
  simp [undialled]

@[simp] theorem undialled_cli : (undialled w d s).cli = s.cli :=
  commanded_cli w d (s.setRetries d ((s.dev d).retries - 1)) .linkUp

/-- A dial that could not be made leaves the connect time alone. -/
theorem undialled_connectTime (h : launchResult w s < 0) :
    ((undialled w d s).dev d).connectTime = (s.dev d).connectTime := by
  unfold undialled
  rw [commanded_connectTime, if_neg (by simpa using h.ne)]
  simp

@[simp] theorem readied_status : ((readied w cfg d s).dev d).status = (s.dev d).status := by
  unfold readied; split <;> simp

@[simp] theorem readied_retries : ((readied w cfg d s).dev d).retries = cfg.gRetries := by
  unfold readied; split <;> simp

@[simp] theorem readied_connectTime :
    ((readied w cfg d s).dev d).connectTime = (s.dev d).connectTime := by
  unfold readied; split <;> simp

/-- A dial meets the next command, or the one after it when the old connection was
killed first. -/
theorem launchResult_readied : launchResult w (readied w cfg d s) =
    if (s.dev d).status = .disconnecting then
      launchResult w { s with commands := s.commands + 1 }
    else launchResult w s := by
  unfold readied launchResult
  split <;> simp

/-- Only a device that was disconnecting is forgotten by its clients before the dial. -/
theorem readied_cli (hNodup : s.gClients.Nodup) (hc : c ∈ s.gClients) :
    (readied w cfg d s).cli c =
      if (s.dev d).status = .disconnecting ∧ launchResult w s = 0 then
        { s.cli c with devicesConnected := (s.cli c).devicesConnected.erase d }
      else s.cli c := by
  unfold readied
  by_cases hStatus : (s.dev d).status = .disconnecting
  · rw [if_pos hStatus]
    simpa [hStatus] using forcedDown_cli w d s hNodup hc
  · rw [if_neg hStatus, if_neg fun h => hStatus h.1]
    rfl

@[simp] theorem hungUp_status : ((hungUp w d s).dev d).status = (s.dev d).status := by
  unfold hungUp; split <;> simp

@[simp] theorem hungUp_retries : ((hungUp w d s).dev d).retries = (s.dev d).retries := by
  unfold hungUp; split <;> simp

@[simp] theorem hungUp_clock_le : s.clock ≤ (hungUp w d s).clock := (touched_hungUp w d s).clock

@[simp] theorem hungUp_trace : (hungUp w d s).trace = .ran s.clock d
    (if (s.dev d).status = .up then .linkDown else .linkForceDown)
    (w.system s.commands).result :: s.trace := by
  unfold hungUp
  cases (s.dev d).status <;> simp

@[simp] theorem exhausted_status : ((exhausted d s).dev d).status = (s.dev d).status := by
  simp [exhausted]

@[simp] theorem exhausted_clients :
    ((exhausted d s).dev d).clientsConnected = (s.dev d).clientsConnected := by
  simp [exhausted]

@[simp] theorem exhausted_connectTime :
    ((exhausted d s).dev d).connectTime = (s.dev d).connectTime := by
  simp [exhausted]

@[simp] theorem exhausted_trace :
    (exhausted d s).trace = .gaveUp s.clock d :: s.trace := by
  simp [exhausted]

@[simp] theorem launchResult_exhausted : launchResult w (exhausted d s) = launchResult w s := rfl

end NamedStates

/-- A device that is disconnecting is down without a command; any other is killed first, and
stays what it is if that fails. -/
theorem alterToDown_cases (w : World) (d : DevPtr) (s : State) :
    ((s.dev d).status = .disconnecting ∧ alterToDown w d s = (0, s.setStatus d .down)) ∨
    ((s.dev d).status ≠ .disconnecting ∧ launchResult w s < 0 ∧
      alterToDown w d s = (-1, forcedDown w d s)) ∨
    ((s.dev d).status ≠ .disconnecting ∧ 0 ≤ launchResult w s ∧
      alterToDown w d s = (0, (forcedDown w d s).setStatus d .down)) := by
  have hForce := unlessFails_cases (linkForceDown w d s) (succeed d .down)
  rw [linkForceDown_forcedDown] at hForce
  unfold alterToDown
  rw [linkForceDown_forcedDown]
  cases hStatus : (s.dev d).status with
  | disconnecting => exact Or.inl ⟨rfl, rfl⟩
  | _ =>
    rcases hForce with ⟨h, hEq⟩ | ⟨h, hEq⟩
    · exact Or.inr (Or.inl ⟨by simp, h, hEq⟩)
    · exact Or.inr (Or.inr ⟨by simp, h, hEq⟩)

/-- Out of retries, a dial that could not be made, a dial. -/
theorem redial_cases (w : World) (d : DevPtr) (s : State) :
    ((s.dev d).retries < 0 ∧ redial w d s = alterToDown w d (exhausted d s)) ∨
    (0 ≤ (s.dev d).retries ∧ launchResult w s < 0 ∧ redial w d s = (-1, undialled w d s)) ∨
    (0 ≤ (s.dev d).retries ∧ 0 ≤ launchResult w s ∧ redial w d s = (0, dialled w d s)) := by
  have hUp := unlessFails_cases (linkUp w d (s.setRetries d ((s.dev d).retries - 1)))
    fun s => succeed d .connecting (setConnectTime w d s)
  unfold linkUp at hUp
  rw [launchTimed_commanded] at hUp
  unfold redial linkUp
  dsimp only
  rw [launchTimed_commanded]
  by_cases hNone : (s.dev d).retries < 0
  · exact Or.inl ⟨hNone, if_pos hNone⟩
  · rw [if_neg hNone]
    rcases hUp with ⟨h, hEq⟩ | ⟨h, hEq⟩
    · exact Or.inr (Or.inl ⟨Int.not_lt.mp hNone, h, hEq⟩)
    · exact Or.inr (Or.inr ⟨Int.not_lt.mp hNone, h, hEq⟩)

/-- Refused in Link Up; one more dial while connecting; a first dial in Link Down, and while
disconnecting once the old connection has been killed. -/
theorem alterToConnecting_cases (w : World) (cfg : Config) (d : DevPtr) (s : State) :
    ((s.dev d).status = .up ∧ alterToConnecting w cfg d s = (-1, s.setErrno .einval)) ∨
    ((s.dev d).status = .connecting ∧ alterToConnecting w cfg d s = redial w d s) ∨
    ((s.dev d).status = .disconnecting ∧ launchResult w s < 0 ∧
      alterToConnecting w cfg d s = (-1, forcedDown w d s)) ∨
    (((s.dev d).status = .down ∨ (s.dev d).status = .disconnecting ∧ 0 ≤ launchResult w s) ∧
      alterToConnecting w cfg d s = redial w d (readied w cfg d s)) := by
  have hForce := unlessFails_cases (linkForceDown w d s)
    fun s => redial w d ((sleep w 2 s).setRetries d cfg.gRetries)
  rw [linkForceDown_forcedDown] at hForce
  unfold alterToConnecting readied
  rw [linkForceDown_forcedDown]
  cases hStatus : (s.dev d).status with
  | up => exact Or.inl ⟨rfl, rfl⟩
  | connecting => exact Or.inr (Or.inl ⟨rfl, rfl⟩)
  | down => exact Or.inr (Or.inr (Or.inr ⟨Or.inl rfl, rfl⟩))
  | disconnecting =>
    rcases hForce with ⟨h, hEq⟩ | ⟨h, hEq⟩
    · exact Or.inr (Or.inr (Or.inl ⟨rfl, h, hEq⟩))
    · exact Or.inr (Or.inr (Or.inr ⟨Or.inr ⟨rfl, h⟩, hEq⟩))

/-- Refused in Link Down; given up while disconnecting; otherwise hung up, unless the command
could not be run. -/
theorem alterToDisconnecting_cases (w : World) (d : DevPtr) (s : State) :
    ((s.dev d).status = .down ∧ alterToDisconnecting w d s = (-1, s.setErrno .einval)) ∨
    ((s.dev d).status ≠ .down ∧ launchResult w s < 0 ∧
      alterToDisconnecting w d s = (-1, hungUp w d s)) ∨
    ((s.dev d).status = .disconnecting ∧ 0 ≤ launchResult w s ∧
      alterToDisconnecting w d s = (0, (forcedDown w d s).setStatus d .down)) ∨
    (((s.dev d).status = .connecting ∨ (s.dev d).status = .up) ∧ 0 ≤ launchResult w s ∧
      alterToDisconnecting w d s = (0, (hungUp w d s).setStatus d .disconnecting)) := by
  have hForce := fun st => unlessFails_cases (linkForceDown w d s) (succeed d st)
  have hDown := unlessFails_cases (linkDown w d s) (succeed d .disconnecting)
  rw [linkForceDown_forcedDown] at hForce
  unfold linkDown at hDown
  rw [launchTimed_commanded] at hDown
  unfold alterToDisconnecting hungUp linkDown
  rw [linkForceDown_forcedDown, launchTimed_commanded]
  cases hStatus : (s.dev d).status with
  | down => exact Or.inl ⟨rfl, rfl⟩
  | disconnecting =>
    rcases hForce .down with ⟨h, hEq⟩ | ⟨h, hEq⟩
    · exact Or.inr (Or.inl ⟨by simp, h, hEq⟩)
    · exact Or.inr (Or.inr (Or.inl ⟨rfl, h, hEq⟩))
  | connecting =>
    rcases hForce .disconnecting with ⟨h, hEq⟩ | ⟨h, hEq⟩
    · exact Or.inr (Or.inl ⟨by simp, h, hEq⟩)
    · exact Or.inr (Or.inr (Or.inr ⟨Or.inl rfl, h, hEq⟩))
  | up =>
    rcases hDown with ⟨h, hEq⟩ | ⟨h, hEq⟩
    · exact Or.inr (Or.inl ⟨by simp, h, hEq⟩)
    · exact Or.inr (Or.inr (Or.inr ⟨Or.inr rfl, h, hEq⟩))

/-- Granted while connecting, refused otherwise. -/
theorem alterToUp_cases (w : World) (d : DevPtr) (s : State) :
    ((s.dev d).status ≠ .connecting ∧ alterToUp w d s = (-1, s.setErrno .einval)) ∨
    ((s.dev d).status = .connecting ∧
      alterToUp w d s = (0, (setConnectTime w d s).setStatus d .up)) := by
  unfold alterToUp
  cases hStatus : (s.dev d).status with
  | connecting => exact Or.inr ⟨rfl, rfl⟩
  | _ => exact Or.inl ⟨by simp, rfl⟩

-- ---------------------------------------------------------------------------
-- Connecting
-- ---------------------------------------------------------------------------

/-- The first client of a device has the server dial. -/
theorem connectClientToDevice_of_free (w : World) (cfg : Config) (c : CliPtr)
    (h : (s.dev d).clientsConnected = []) : connectClientToDevice w cfg c d s =
      unlessFails (alterToConnecting w cfg d (s.setRetries d cfg.gRetries))
        (noteClient w c d) :=
  if_pos h

/-- Any other client is only noted. -/
theorem connectClientToDevice_of_clients (w : World) (cfg : Config) (c : CliPtr)
    (h : (s.dev d).clientsConnected ≠ []) :
    connectClientToDevice w cfg c d s = noteClient w c d s :=
  if_neg h

/-- The client joins the others, or the server has dialled for it, or that has failed and it is
not entered. -/
theorem connectClientToDevice_cases (w : World) (cfg : Config) (c : CliPtr) (d : DevPtr)
    (s : State) :
    ((s.dev d).clientsConnected ≠ [] ∧
      connectClientToDevice w cfg c d s = noteClient w c d s) ∨
    ((s.dev d).clientsConnected = [] ∧
      (alterToConnecting w cfg d (s.setRetries d cfg.gRetries)).1 < 0 ∧
      connectClientToDevice w cfg c d s =
        (-1, (alterToConnecting w cfg d (s.setRetries d cfg.gRetries)).2)) ∨
    ((s.dev d).clientsConnected = [] ∧
      0 ≤ (alterToConnecting w cfg d (s.setRetries d cfg.gRetries)).1 ∧
      connectClientToDevice w cfg c d s =
        noteClient w c d (alterToConnecting w cfg d (s.setRetries d cfg.gRetries)).2) := by
  by_cases hFree : (s.dev d).clientsConnected = []
  · rw [connectClientToDevice_of_free w cfg c hFree]
    rcases unlessFails_cases (alterToConnecting w cfg d (s.setRetries d cfg.gRetries))
      (noteClient w c d) with ⟨h, hEq⟩ | ⟨h, hEq⟩
    · exact Or.inr (Or.inl ⟨hFree, h, hEq⟩)
    · exact Or.inr (Or.inr ⟨hFree, h, hEq⟩)
  · exact Or.inl ⟨hFree, connectClientToDevice_of_clients w cfg c hFree⟩

theorem State.setRetries_setRetries (s : State) (d : DevPtr) (m n : Int) :
    (s.setRetries d m).setRetries d n = s.setRetries d n := by
  simp [State.setRetries]

/-- The dial of `connect_client_to_device`. The retries have just been reset, so it
never gives up. -/
theorem dial_cases (hRetries : 0 ≤ cfg.gRetries) (w : World) (d : DevPtr) (s : State) :
    ((s.dev d).status = .up ∧ alterToConnecting w cfg d (s.setRetries d cfg.gRetries) =
      (-1, (s.setRetries d cfg.gRetries).setErrno .einval)) ∨
    ((s.dev d).status = .disconnecting ∧ launchResult w s < 0 ∧
      alterToConnecting w cfg d (s.setRetries d cfg.gRetries) =
        (-1, forcedDown w d (s.setRetries d cfg.gRetries))) ∨
    ((s.dev d).status ≠ .up ∧ launchResult w (readied w cfg d (s.setRetries d cfg.gRetries)) < 0 ∧
      ((s.dev d).status = .disconnecting → 0 ≤ launchResult w s) ∧
      alterToConnecting w cfg d (s.setRetries d cfg.gRetries) =
        (-1, undialled w d (readied w cfg d (s.setRetries d cfg.gRetries)))) ∨
    ((s.dev d).status ≠ .up ∧ 0 ≤ launchResult w (readied w cfg d (s.setRetries d cfg.gRetries)) ∧
      ((s.dev d).status = .disconnecting → 0 ≤ launchResult w s) ∧
      alterToConnecting w cfg d (s.setRetries d cfg.gRetries) =
        (0, dialled w d (readied w cfg d (s.setRetries d cfg.gRetries)))) := by
  set s₀ := s.setRetries d cfg.gRetries with hs₀
  have hStatus : (s₀.dev d).status = (s.dev d).status := by simp [hs₀]
  have hRedial := redial_cases w d (readied w cfg d s₀)
  rw [readied_retries] at hRedial
  rcases alterToConnecting_cases w cfg d s₀ with ⟨h, hEq⟩ | ⟨h, hEq⟩ | ⟨h, hLaunch, hEq⟩ |
    ⟨h, hEq⟩ <;> rw [hStatus] at h
  · exact Or.inl ⟨h, hEq⟩
  · have hReady : readied w cfg d s₀ = s₀ := by
      rw [readied, hStatus, if_neg (by simp [h]), hs₀, State.setRetries_setRetries]
    rw [hReady] at hRedial ⊢
    rcases hRedial with ⟨hNone, -⟩ | ⟨-, hUp, hEq'⟩ | ⟨-, hUp, hEq'⟩
    · exact absurd hRetries (Int.not_le.mpr hNone)
    · exact Or.inr (Or.inr (Or.inl ⟨by simp [h], hUp, by simp [h], hEq.trans hEq'⟩))
    · exact Or.inr (Or.inr (Or.inr ⟨by simp [h], hUp, by simp [h], hEq.trans hEq'⟩))
  · exact Or.inr (Or.inl ⟨h, hLaunch, hEq⟩)
  · have hNotUp : (s.dev d).status ≠ .up := by rcases h with h | ⟨h, -⟩ <;> simp [h]
    have hKilled : (s.dev d).status = .disconnecting → 0 ≤ launchResult w s := by
      intro hHang
      rcases h with h | ⟨-, h⟩
      · rw [h] at hHang
        cases hHang
      · exact h
    rcases hRedial with ⟨hNone, -⟩ | ⟨-, hUp, hEq'⟩ | ⟨-, hUp, hEq'⟩
    · exact absurd hRetries (Int.not_le.mpr hNone)
    · exact Or.inr (Or.inr (Or.inl ⟨hNotUp, hUp, hKilled, hEq.trans hEq'⟩))
    · exact Or.inr (Or.inr (Or.inr ⟨hNotUp, hUp, hKilled, hEq.trans hEq'⟩))

/-- The outcomes of an UP request, while retries are configured at all. -/
theorem connect_cases (hRetries : 0 ≤ cfg.gRetries) (w : World) (c : CliPtr) (d : DevPtr)
    (s : State) :
    ((s.dev d).clientsConnected ≠ [] ∧
      connectClientToDevice w cfg c d s = noteClient w c d s) ∨
    ((s.dev d).clientsConnected = [] ∧ (s.dev d).status = .up ∧
      connectClientToDevice w cfg c d s = (-1, (s.setRetries d cfg.gRetries).setErrno .einval)) ∨
    ((s.dev d).clientsConnected = [] ∧ (s.dev d).status = .disconnecting ∧
      launchResult w s < 0 ∧ connectClientToDevice w cfg c d s =
        (-1, forcedDown w d (s.setRetries d cfg.gRetries))) ∨
    ((s.dev d).clientsConnected = [] ∧ (s.dev d).status ≠ .up ∧
      launchResult w (readied w cfg d (s.setRetries d cfg.gRetries)) < 0 ∧
      ((s.dev d).status = .disconnecting → 0 ≤ launchResult w s) ∧
      connectClientToDevice w cfg c d s =
        (-1, undialled w d (readied w cfg d (s.setRetries d cfg.gRetries)))) ∨
    ((s.dev d).clientsConnected = [] ∧ (s.dev d).status ≠ .up ∧
      0 ≤ launchResult w (readied w cfg d (s.setRetries d cfg.gRetries)) ∧
      ((s.dev d).status = .disconnecting → 0 ≤ launchResult w s) ∧
      connectClientToDevice w cfg c d s =
        noteClient w c d (dialled w d (readied w cfg d (s.setRetries d cfg.gRetries)))) := by
  by_cases hFree : (s.dev d).clientsConnected = []
  · right
    rw [connectClientToDevice_of_free w cfg c hFree]
    rcases dial_cases hRetries w d s with ⟨hUp, hEq⟩ | ⟨hHang, hFail, hEq⟩ |
      ⟨hNotUp, hFail, hKilled, hEq⟩ | ⟨hNotUp, hDial, hKilled, hEq⟩ <;> rw [hEq]
    · exact Or.inl ⟨hFree, hUp, unlessFails_of_neg (by simp)⟩
    · exact Or.inr (Or.inl ⟨hFree, hHang, hFail, unlessFails_of_neg (by simp)⟩)
    · exact Or.inr (Or.inr (Or.inl ⟨hFree, hNotUp, hFail, hKilled, unlessFails_of_neg (by simp)⟩))
    · exact Or.inr (Or.inr (Or.inr ⟨hFree, hNotUp, hDial, hKilled, unlessFails_of_nonneg le_rfl⟩))
  · exact Or.inl ⟨hFree, connectClientToDevice_of_clients w cfg c hFree⟩

@[simp] theorem noteDevice_dev (w : World) (c : CliPtr) (d : DevPtr) (s : State) :
    (noteDevice w c d s).2.dev = s.dev := by
  rcases noteDevice_cases w c d s with ⟨-, hEq⟩ | ⟨-, -, hEq⟩ | ⟨-, -, hEq⟩ <;> rw [hEq] <;> rfl

/-- Between listed pointers, `add_device` finds a device by its name exactly when the
client lists it. -/
theorem WellFormed.noteDevice_cases (h : WellFormed s) (hc : c ∈ s.gClients)
    (hd : d ∈ s.gDevices) (w : World) :
    (d ∈ (s.cli c).devicesConnected ∧
      LinkControl.noteDevice w c d s = (0, s.setErrno .ealready)) ∨
    (d ∉ (s.cli c).devicesConnected ∧ w.malloc s.mallocs = none ∧
      LinkControl.noteDevice w c d s =
        (-1, { s with mallocs := s.mallocs + 1, errno := .enomem })) ∨
    (d ∉ (s.cli c).devicesConnected ∧ (w.malloc s.mallocs).isSome ∧
      LinkControl.noteDevice w c d s = (0, State.setDevicesConnected
        { s with mallocs := s.mallocs + 1, errno := .enodev } c
        ((s.cli c).devicesConnected ++ [d]))) := by
  rcases LinkControl.noteDevice_cases w c d s with ⟨⟨d', hd', hName⟩, hEq⟩ | ⟨hNew, hm, hEq⟩ |
    ⟨hNew, hm, hEq⟩
  · obtain rfl := h.device_ext (h.devicesKnown c hc d' hd') hd hName
    exact Or.inl ⟨hd', hEq⟩
  · exact Or.inr (Or.inl ⟨fun hMem => hNew d hMem rfl, hm, hEq⟩)
  · exact Or.inr (Or.inr ⟨fun hMem => hNew d hMem rfl, hm, hEq⟩)

/-- Between listed pointers, `add_client` finds a client by its address exactly when the
device lists it. -/
theorem WellFormed.noteClient_cases (h : WellFormed s) (hc : c ∈ s.gClients)
    (hd : d ∈ s.gDevices) (w : World) :
    (c ∈ (s.dev d).clientsConnected ∧
      LinkControl.noteClient w c d s = LinkControl.noteDevice w c d (s.setErrno .ealready)) ∨
    (c ∉ (s.dev d).clientsConnected ∧ w.malloc s.mallocs = none ∧
      LinkControl.noteClient w c d s =
        (-1, { s with mallocs := s.mallocs + 1, errno := .enomem })) ∨
    (c ∉ (s.dev d).clientsConnected ∧ (w.malloc s.mallocs).isSome ∧
      LinkControl.noteClient w c d s = LinkControl.noteDevice w c d (State.setClientsConnected
        { s with mallocs := s.mallocs + 1, errno := .enodev } d
        ((s.dev d).clientsConnected ++ [c]))) := by
  rcases LinkControl.noteClient_cases w c d s with ⟨⟨c', hc', hAddr⟩, hEq⟩ | ⟨hNew, hm, hEq⟩ |
    ⟨hNew, hm, hEq⟩
  · obtain rfl := h.client_ext (h.clientsKnown d hd c' hc') hc hAddr
    exact Or.inl ⟨hc', hEq⟩
  · exact Or.inr (Or.inl ⟨fun hMem => hNew c hMem rfl, hm, hEq⟩)
  · exact Or.inr (Or.inr ⟨fun hMem => hNew c hMem rfl, hm, hEq⟩)

/-- With memory, noting a device at a client adds this pair, and nothing else. -/
theorem WellFormed.noteDevice_adds (h : WellFormed s) (hc : c ∈ s.gClients)
    (hd : d ∈ s.gDevices) (hAlloc : ∀ k, (w.malloc k).isSome) :
    (LinkControl.noteDevice w c d s).1 = 0 ∧
    ∀ c' d', d' ∈ ((LinkControl.noteDevice w c d s).2.cli c').devicesConnected ↔
      d' ∈ (s.cli c').devicesConnected ∨ (c' = c ∧ d' = d) := by
  rcases h.noteDevice_cases hc hd w with ⟨hMem, hEq⟩ | ⟨-, hNone, -⟩ | ⟨-, -, hEq⟩
  · refine ⟨by rw [hEq], fun c' d' => ?_⟩
    rw [hEq, State.setErrno_cli]
    constructor
    · exact Or.inl
    · intro hAdded
      rcases hAdded with hOld | ⟨rfl, rfl⟩
      · exact hOld
      · exact hMem
  · exact absurd (hAlloc s.mallocs) (by simp [hNone])
  · refine ⟨by rw [hEq], fun c' d' => ?_⟩
    rw [hEq]
    rcases eq_or_ne c' c with rfl | hOther
    · simp
    · simp [hOther]

/-- With memory, noting a client and a device at each other adds this pair to both
lists, and nothing else. -/
theorem WellFormed.noteClient_adds (h : WellFormed s) (hc : c ∈ s.gClients)
    (hd : d ∈ s.gDevices) (hAlloc : ∀ k, (w.malloc k).isSome) :
    (LinkControl.noteClient w c d s).1 = 0 ∧
    (∀ c', c' ∈ ((LinkControl.noteClient w c d s).2.dev d).clientsConnected ↔
      c' ∈ (s.dev d).clientsConnected ∨ c' = c) ∧
    ∀ c' d', d' ∈ ((LinkControl.noteClient w c d s).2.cli c').devicesConnected ↔
      d' ∈ (s.cli c').devicesConnected ∨ (c' = c ∧ d' = d) := by
  rcases h.noteClient_cases hc hd w with ⟨hMem, hEq⟩ | ⟨-, hNone, -⟩ | ⟨hNew, -, hEq⟩
  · have hAdds := (h.quiet (quiet_setErrno s .ealready)).noteDevice_adds hc hd hAlloc
    rw [hEq]
    refine ⟨hAdds.1, fun c' => ?_, hAdds.2⟩
    rw [noteDevice_dev, State.setErrno_dev]
    constructor
    · exact Or.inl
    · intro hAdded
      rcases hAdded with hOld | rfl
      · exact hOld
      · exact hMem
  · exact absurd (hAlloc s.mallocs) (by simp [hNone])
  · have hNoted := (h.quiet (quiet_counters s (s.mallocs + 1) .enodev)).noteClient hc hNew
    have hAdds := hNoted.noteDevice_adds hc hd hAlloc
    rw [hEq]
    refine ⟨hAdds.1, fun c' => ?_, hAdds.2⟩
    rw [noteDevice_dev]
    simp

/-- What noting a client and a device at each other can change, whether or not there
is memory for it. -/
structure Noted (c : CliPtr) (d : DevPtr) (s s' : State) : Prop where
  other : ∀ d', d' ≠ d → s'.dev d' = s.dev d'
  device : ∃ cs, (cs = (s.dev d).clientsConnected ∨ cs = (s.dev d).clientsConnected ++ [c]) ∧
    s'.dev d = { s.dev d with clientsConnected := cs }
  gDevices : s'.gDevices = s.gDevices
  gClients : s'.gClients = s.gClients
  trace : s'.trace = s.trace
  clock : s'.clock = s.clock

/-- Noting the device with the client is half of it. -/
theorem noted_noteDevice (w : World) (c : CliPtr) (d : DevPtr) (s : State) :
    Noted c d s (noteDevice w c d s).2 := by
  rcases noteDevice_cases w c d s with ⟨-, hEq⟩ | ⟨-, -, hEq⟩ | ⟨-, -, hEq⟩ <;> rw [hEq] <;>
    exact ⟨fun _ _ => rfl, ⟨_, Or.inl rfl, rfl⟩, rfl, rfl, rfl, rfl⟩

/-- Noting the client with the device changes the two lists alone. -/
theorem noted_noteClient (w : World) (c : CliPtr) (d : DevPtr) (s : State) :
    Noted c d s (noteClient w c d s).2 := by
  rcases noteClient_cases w c d s with ⟨-, hEq⟩ | ⟨-, -, hEq⟩ | ⟨-, -, hEq⟩ <;> rw [hEq]
  · exact { noted_noteDevice w c d (s.setErrno .ealready) with }
  · exact ⟨fun _ _ => rfl, ⟨_, Or.inl rfl, rfl⟩, rfl, rfl, rfl, rfl⟩
  · set s₁ : State := State.setClientsConnected
      { s with mallocs := s.mallocs + 1, errno := .enodev } d
      ((s.dev d).clientsConnected ++ [c]) with hs₁
    have hOther : ∀ d', d' ≠ d → s₁.dev d' = s.dev d' := fun d' hd => by simp [hs₁, hd]
    have h := noted_noteDevice w c d s₁
    exact {
      other := fun d' hd => (h.other d' hd).trans (hOther d' hd)
      device := ⟨_, Or.inr rfl, by rw [noteDevice_dev]; simp [hs₁]⟩
      gDevices := h.gDevices
      gClients := h.gClients
      trace := h.trace
      clock := h.clock }

/-- With memory for one cell the device has a client afterwards. -/
theorem noteClient_clients (c : CliPtr) (d : DevPtr) (h : w.malloc s.mallocs ≠ none) :
    ((noteClient w c d s).2.dev d).clientsConnected ≠ [] := by
  rcases noteClient_cases w c d s with ⟨⟨c', hc', -⟩, hEq⟩ | ⟨-, hNone, -⟩ | ⟨-, -, hEq⟩
  · rw [hEq, noteDevice_dev]
    exact List.ne_nil_of_mem hc'
  · exact absurd hNone h
  · rw [hEq, noteDevice_dev]
    simp

namespace Noted

variable {s' : State}

theorem status (h : Noted c d s s') : (s'.dev d).status = (s.dev d).status := by
  obtain ⟨cs, -, hEq⟩ := h.device; rw [hEq]

theorem retries (h : Noted c d s s') : (s'.dev d).retries = (s.dev d).retries := by
  obtain ⟨cs, -, hEq⟩ := h.device; rw [hEq]

theorem connectTime (h : Noted c d s s') :
    (s'.dev d).connectTime = (s.dev d).connectTime := by
  obtain ⟨cs, -, hEq⟩ := h.device; rw [hEq]

/-- A device that had clients still has clients. -/
theorem clients (h : Noted c d s s') :
    (s'.dev d).clientsConnected = [] → (s.dev d).clientsConnected = [] := by
  obtain ⟨cs, hcs, hEq⟩ := h.device
  rw [hEq]
  rcases hcs with rfl | rfl
  · exact id
  · simp

end Noted

-- ---------------------------------------------------------------------------
-- Disconnecting
-- ---------------------------------------------------------------------------

/-- The client was not there, was not alone, or the device is hung up without it: refused in
Link Down, failed, given up, or started. -/
theorem disconnectClientFromDevice_cases (w : World) (cfg : Config) (c : CliPtr) (d : DevPtr)
    (s : State) :
    (c ∉ (s.dev d).clientsConnected ∧
      disconnectClientFromDevice w cfg c d s = forgetDevice d c (s.setErrno .enodev)) ∨
    (c ∈ (s.dev d).clientsConnected ∧ (s.dev d).clientsConnected ≠ [c] ∧
      disconnectClientFromDevice w cfg c d s = forgetDevice d c
        (s.setClientsConnected d ((s.dev d).clientsConnected.erase c))) ∨
    ((s.dev d).clientsConnected = [c] ∧ (s.dev d).status = .down ∧
      disconnectClientFromDevice w cfg c d s =
        (-1, (s.setClientsConnected d []).setErrno .einval)) ∨
    ((s.dev d).clientsConnected = [c] ∧ (s.dev d).status ≠ .down ∧ launchResult w s < 0 ∧
      disconnectClientFromDevice w cfg c d s =
        (-1, hungUp w d (s.setClientsConnected d []))) ∨
    ((s.dev d).clientsConnected = [c] ∧ (s.dev d).status = .disconnecting ∧
      0 ≤ launchResult w s ∧ disconnectClientFromDevice w cfg c d s = forgetDevice d c
        ((forcedDown w d (s.setClientsConnected d [])).setStatus d .down)) ∨
    ((s.dev d).clientsConnected = [c] ∧
      ((s.dev d).status = .connecting ∨ (s.dev d).status = .up) ∧
      0 ≤ launchResult w s ∧ disconnectClientFromDevice w cfg c d s = forgetDevice d c
        ((hungUp w d (s.setClientsConnected d [])).setStatus d .disconnecting)) := by
  rw [disconnectClientFromDevice_eq]
  by_cases hc : c ∈ (s.dev d).clientsConnected
  · rw [if_pos hc]
    by_cases hLast : (s.dev d).clientsConnected = [c]
    · rw [if_pos (by simp [hLast])]
      have hStatus : ((s.setClientsConnected d []).dev d).status = (s.dev d).status := by simp
      have hAlter := alterToDisconnecting_cases w d (s.setClientsConnected d [])
      rw [hStatus, launchResult_setClientsConnected] at hAlter
      right; right
      rcases hAlter with ⟨h, hEq⟩ | ⟨h, hLaunch, hEq⟩ | ⟨h, hLaunch, hEq⟩ | ⟨h, hLaunch, hEq⟩ <;>
        rw [hEq]
      · exact Or.inl ⟨hLast, h, unlessFails_of_neg (by simp)⟩
      · exact Or.inr (Or.inl ⟨hLast, h, hLaunch, unlessFails_of_neg (by simp)⟩)
      · exact Or.inr (Or.inr (Or.inl ⟨hLast, h, hLaunch, unlessFails_of_nonneg le_rfl⟩))
      · exact Or.inr (Or.inr (Or.inr ⟨hLast, h, hLaunch, unlessFails_of_nonneg le_rfl⟩))
    · have hMore : (s.dev d).clientsConnected.erase c ≠ [] := by
        rw [ne_eq, List.erase_eq_nil_iff]
        intro hNil
        rcases hNil with hNobody | hAlone
        · rw [hNobody] at hc
          exact absurd hc List.not_mem_nil
        · exact hLast hAlone
      rw [if_neg hMore]
      exact Or.inr (Or.inl ⟨hc, hLast, rfl⟩)
  · rw [if_neg hc]
    exact Or.inl ⟨hc, rfl⟩

-- ---------------------------------------------------------------------------
-- The other calls
-- ---------------------------------------------------------------------------

@[simp] theorem run_connect :
    (Op.connect c d).run w cfg s = connectClientToDevice w cfg c d s := rfl

@[simp] theorem run_expire : ((Op.expire c d).run w cfg s).2 =
    (disconnectClientFromDevice w cfg c d s).2 := removeClientFromDevice_snd w cfg c d s

@[simp] theorem run_isUp : (Op.isUp d).run w cfg s = alterToUp w d s := rfl

/-- FORCE_DOWN clears the clients of the device once more when it has worked. -/
theorem forceDown_cases (w : World) (cfg : Config) (d : DevPtr) (s : State) :
    ((s.dev d).status = .disconnecting ∧ (Op.forceDown d).run w cfg s =
      (0, (s.setStatus d .down).setClientsConnected d [])) ∨
    ((s.dev d).status ≠ .disconnecting ∧ launchResult w s < 0 ∧
      (Op.forceDown d).run w cfg s = (-1, forcedDown w d s)) ∨
    ((s.dev d).status ≠ .disconnecting ∧ 0 ≤ launchResult w s ∧ (Op.forceDown d).run w cfg s =
      (0, ((forcedDown w d s).setStatus d .down).setClientsConnected d [])) := by
  unfold Op.run alterDeviceStatus
  dsimp only
  rcases alterToDown_cases w d s with ⟨h, hEq⟩ | ⟨h, hLaunch, hEq⟩ | ⟨h, hLaunch, hEq⟩ <;> rw [hEq]
  · refine Or.inl ⟨h, ?_⟩
    rw [unlessFails_of_nonneg le_rfl, removeAllClientsFromDevice, freeCells_eq_zero]
  · exact Or.inr (Or.inl ⟨h, hLaunch, unlessFails_of_neg (by simp)⟩)
  · refine Or.inr (Or.inr ⟨h, hLaunch, ?_⟩)
    rw [unlessFails_of_nonneg le_rfl, removeAllClientsFromDevice, freeCells_eq_zero]

/-- A device that is due dials again, gives up, or is taken down. -/
theorem timeout_cases (w : World) {cfg : Config} {d : DevPtr} {s : State} (h : Due cfg d s) :
    ((s.dev d).status = .connecting ∧ (s.dev d).retries < 0 ∧ launchResult w s < 0 ∧
      (Op.timeout d).run w cfg s = (-1, forcedDown w d (exhausted d s))) ∨
    ((s.dev d).status = .connecting ∧ (s.dev d).retries < 0 ∧ 0 ≤ launchResult w s ∧
      (Op.timeout d).run w cfg s =
        (0, (forcedDown w d (exhausted d s)).setStatus d .down)) ∨
    ((s.dev d).status = .connecting ∧ 0 ≤ (s.dev d).retries ∧ launchResult w s < 0 ∧
      (Op.timeout d).run w cfg s = (-1, undialled w d s)) ∨
    ((s.dev d).status = .connecting ∧ 0 ≤ (s.dev d).retries ∧ 0 ≤ launchResult w s ∧
      (Op.timeout d).run w cfg s = (0, dialled w d s)) ∨
    ((s.dev d).status = .disconnecting ∧ launchResult w s < 0 ∧
      (Op.timeout d).run w cfg s = (-1, forcedDown w d s)) ∨
    ((s.dev d).status = .disconnecting ∧ 0 ≤ launchResult w s ∧
      (Op.timeout d).run w cfg s = (0, (forcedDown w d s).setStatus d .down)) := by
  have hRun : (Op.timeout d).run w cfg s = alterDeviceStatus w cfg d (s.dev d).status s := rfl
  rcases h with ⟨hStatus, -⟩ | ⟨hStatus, -⟩ <;> rw [hRun, hStatus] <;>
    unfold alterDeviceStatus <;> dsimp only
  · have hRedial : alterToConnecting w cfg d s = redial w d s := by
      unfold alterToConnecting
      rw [hStatus]
    rw [hRedial]
    rcases redial_cases w d s with ⟨hNone, hEq⟩ | ⟨hSome, hLaunch, hEq⟩ | ⟨hSome, hLaunch, hEq⟩ <;>
      rw [hEq]
    · rcases alterToDown_cases w d (exhausted d s) with ⟨hSt, -⟩ | ⟨-, hLaunch, hEq'⟩ |
        ⟨-, hLaunch, hEq'⟩
      · simp [hStatus] at hSt
      · exact Or.inl ⟨rfl, hNone, hLaunch, hEq'⟩
      · exact Or.inr (Or.inl ⟨rfl, hNone, hLaunch, hEq'⟩)
    · exact Or.inr (Or.inr (Or.inl ⟨rfl, hSome, hLaunch, rfl⟩))
    · exact Or.inr (Or.inr (Or.inr (Or.inl ⟨rfl, hSome, hLaunch, rfl⟩)))
  · have hHungUp : hungUp w d s = forcedDown w d s := by
      unfold hungUp
      rw [hStatus]
    right; right; right; right
    rcases alterToDisconnecting_cases w d s with ⟨hSt, -⟩ | ⟨-, hLaunch, hEq⟩ |
      ⟨-, hLaunch, hEq⟩ | ⟨hSt, -⟩
    · simp [hStatus] at hSt
    · exact Or.inl ⟨rfl, hLaunch, hHungUp ▸ hEq⟩
    · exact Or.inr ⟨rfl, hLaunch, hEq⟩
    · simp [hStatus] at hSt

end LinkControl
