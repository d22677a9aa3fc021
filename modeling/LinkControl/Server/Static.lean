import LinkControl.Server.Local

/-!
# Link server — what the configuration has settled

No function changes the list of devices, the name of a device, its description or its
commands: what `parse_device_section` has put there is there in every later state
(`static_step`, `static_run`). And nothing ends the process but a NULL description
(`Described`), which `send_device_list` gives to `strlen`.
-/

namespace LinkControl

open ReturnCode

/-- The strings of a device, in the shape of the section they come from. -/
def Device.options (v : Device) : DeviceSection :=
  ⟨some v.deviceName, v.deviceDescription, v.linkUpCommand, v.linkDownCommand,
    v.linkForceDownCommand⟩

/-- The list of devices and all their strings are the same, and the server has not
crashed. -/
structure Static (s s' : State) : Prop where
  gDevices : s'.gDevices = s.gDevices
  options : ∀ d, (s'.dev d).options = (s.dev d).options
  crashed : s'.crashed = s.crashed

/-- The names of the devices, in order. -/
def deviceNames (s : State) : List CStr := s.gDevices.map fun d => (s.dev d).deviceName

/-- Every device has a description. -/
def Described (s : State) : Prop := ∀ d ∈ s.gDevices, (s.dev d).deviceDescription.isSome

namespace Static

variable {s s' s'' : State}

theorem refl (s : State) : Static s s := ⟨rfl, fun _ => rfl, rfl⟩

theorem trans (h : Static s s') (h' : Static s' s'') : Static s s'' where
  gDevices := h'.gDevices.trans h.gDevices
  options d := (h'.options d).trans (h.options d)
  crashed := h'.crashed.trans h.crashed

theorem deviceName (h : Static s s') (d : DevPtr) :
    (s'.dev d).deviceName = (s.dev d).deviceName :=
  Option.some.inj (congrArg DeviceSection.name (h.options d))

theorem deviceDescription (h : Static s s') (d : DevPtr) :
    (s'.dev d).deviceDescription = (s.dev d).deviceDescription :=
  congrArg DeviceSection.description (h.options d)

/-- The names of the devices are settled. -/
theorem deviceNames (h : Static s s') : deviceNames s' = deviceNames s := by
  unfold LinkControl.deviceNames
  rw [h.gDevices, List.map_congr_left fun d _ => h.deviceName d]

/-- So are their descriptions. -/
theorem described (h : Static s s') (hDescribed : Described s) : Described s' := by
  intro d hd
  rw [h.deviceDescription d]
  exact hDescribed d (h.gDevices ▸ hd)

end Static

-- ---------------------------------------------------------------------------
-- Single assignments
-- ---------------------------------------------------------------------------

section Assignments

variable (w : World) (d : DevPtr) (s : State)

/-- A change of a device that leaves its options alone. -/
theorem static_dev {v : Device} (h : v.options = (s.dev d).options) :
    Static s { s with dev := Function.update s.dev d v } := by
  refine ⟨rfl, fun d' => ?_, rfl⟩
  rcases eq_or_ne d' d with rfl | hd
  · simpa using h
  · simp [hd]

theorem static_setErrno (e : Errno) : Static s (s.setErrno e) := ⟨rfl, fun _ => rfl, rfl⟩

theorem static_advance : Static s (advance w s) := ⟨rfl, fun _ => rfl, rfl⟩

theorem static_sleep (n : Nat) : Static s (sleep w n s) := ⟨rfl, fun _ => rfl, rfl⟩

theorem static_log (e : Effect) : Static s (s.log e) := ⟨rfl, fun _ => rfl, rfl⟩

theorem static_ran (command : Command) : Static s (ran w d command s) :=
  ⟨rfl, fun _ => rfl, rfl⟩

theorem static_setRetries (n : Int) : Static s (s.setRetries d n) := static_dev d s rfl

theorem static_setConnectTime : Static s (setConnectTime w d s) :=
  (static_advance w s).trans (static_dev d (advance w s) rfl)

theorem static_setClientsConnected (pp : List CliPtr) :
    Static s (s.setClientsConnected d pp) := static_dev d s rfl

/-- The status is not one of the options. -/
theorem static_setStatus (st : DeviceStatus) : Static s (s.setStatus d st) := by
  have hDev : Static s { s with dev := Function.update s.dev d { s.dev d with status := st } } :=
    static_dev d s rfl
  exact hDev.trans (static_log _ (.status s.clock d (s.dev d).status st))

theorem static_malloc : Static s (malloc w s).2 := by
  unfold malloc
  split <;> exact ⟨rfl, fun _ => rfl, rfl⟩

theorem static_sendReply (c : CliPtr) (text : CStr) : Static s (sendReply w c text s).2 := by
  unfold sendReply
  split <;> exact ⟨rfl, fun _ => rfl, rfl⟩

theorem static_getDevice (pp : List DevPtr) (name : CStr) : Static s (getDevice pp name s).2 := by
  unfold getDevice
  split
  · exact Static.refl s
  · exact static_setErrno s _

theorem static_forgetDevice (c : CliPtr) : Static s (forgetDevice d c s).2 := by
  obtain ⟨e, h⟩ := forgetDevice_eq d c s
  rw [h]
  exact ⟨rfl, fun _ => rfl, rfl⟩

/-- Wiping a device clears lists. -/
theorem static_wiped : Static s (wiped d s) := by
  obtain ⟨e, f, h⟩ := wiped_eq d s
  rw [h]
  exact (static_setClientsConnected d s []).trans ⟨rfl, fun _ => rfl, rfl⟩

end Assignments

-- ---------------------------------------------------------------------------
-- Transitions and membership
-- ---------------------------------------------------------------------------

section Calls

variable (w : World) (cfg : Config) (d : DevPtr) (s : State)

theorem static_launchTimed (command : Command) : Static s (launchTimed w d command s).2 := by
  have hRan := static_ran w d s command
  rw [launchTimed_eq]
  show Static s (if launchResult w s = 0 then setConnectTime w d (ran w d command s)
    else ran w d command s)
  split
  · exact hRan.trans (static_setConnectTime w d _)
  · exact hRan

theorem static_linkForceDown : Static s (linkForceDown w d s).2 := by
  have hRan := static_ran w d s .linkForceDown
  rw [linkForceDown_eq]
  show Static s (if launchResult w s = 0 then wiped d (ran w d .linkForceDown s)
    else ran w d .linkForceDown s)
  split
  · exact hRan.trans (static_wiped d _)
  · exact hRan

theorem static_alterToDown : Static s (alterToDown w d s).2 := by
  have hForce := static_linkForceDown w d s
  have hDone := fun s' => static_setStatus d s' .down
  unfold alterToDown
  split
  · exact hDone s
  all_goals exact unlessFails_post (fun _ => hForce) fun _ => hForce.trans (hDone _)

theorem static_redial : Static s (redial w d s).2 := by
  have hRetries := static_setRetries d s ((s.dev d).retries - 1)
  unfold redial
  dsimp only
  split
  · exact (hRetries.trans (static_log _ _)).trans (static_alterToDown w d _)
  · have hUp := hRetries.trans (static_launchTimed w d _ .linkUp)
    exact unlessFails_post (fun _ => hUp) fun _ =>
      (hUp.trans (static_setConnectTime w d _)).trans (static_setStatus d _ _)

theorem static_alterToConnecting : Static s (alterToConnecting w cfg d s).2 := by
  have hForce := static_linkForceDown w d s
  unfold alterToConnecting
  split
  · exact unlessFails_post (fun _ => hForce) fun _ =>
      ((hForce.trans (static_sleep w _ 2)).trans (static_setRetries d _ _)).trans
        (static_redial w d _)
  · exact (static_setRetries d s _).trans (static_redial w d _)
  · exact static_redial w d s
  · exact static_setErrno s _

theorem static_alterToDisconnecting : Static s (alterToDisconnecting w d s).2 := by
  have hForce := static_linkForceDown w d s
  have hDown := static_launchTimed w d s .linkDown
  have hDone := fun s' st => static_setStatus d s' st
  unfold alterToDisconnecting
  split
  · exact unlessFails_post (fun _ => hForce) fun _ => hForce.trans (hDone _ _)
  · exact unlessFails_post (fun _ => hForce) fun _ => hForce.trans (hDone _ _)
  · exact unlessFails_post (fun _ => hDown) fun _ => hDown.trans (hDone _ _)
  · exact static_setErrno s _

theorem static_alterToUp : Static s (alterToUp w d s).2 := by
  unfold alterToUp
  split
  any_goals exact static_setErrno s _
  exact (static_setConnectTime w d s).trans (static_setStatus d _ _)

/-- No change of status touches the options. -/
theorem static_alterDeviceStatus (new : DeviceStatus) :
    Static s (alterDeviceStatus w cfg d new s).2 := by
  cases new with
  | connecting => exact static_alterToConnecting w cfg d s
  | disconnecting => exact static_alterToDisconnecting w d s
  | up => exact static_alterToUp w d s
  | down => exact static_alterToDown w d s

theorem static_disconnectClientFromDevice (c : CliPtr) :
    Static s (disconnectClientFromDevice w cfg c d s).2 := by
  have hLess := fun pp => static_setClientsConnected d s pp
  rw [disconnectClientFromDevice_eq]
  split
  · split
    · have hAlter := (hLess []).trans (static_alterToDisconnecting w d _)
      exact unlessFails_post (fun _ => hAlter) fun _ =>
        hAlter.trans (static_forgetDevice d _ c)
    · exact (hLess _).trans (static_forgetDevice d _ c)
  · exact (static_setErrno s _).trans (static_forgetDevice d _ c)

theorem static_noteDevice (c : CliPtr) : Static s (noteDevice w c d s).2 := by
  rcases noteDevice_cases w c d s with ⟨-, hEq⟩ | ⟨-, -, hEq⟩ | ⟨-, -, hEq⟩ <;> rw [hEq] <;>
    exact ⟨rfl, fun _ => rfl, rfl⟩

theorem static_noteClient (c : CliPtr) : Static s (noteClient w c d s).2 := by
  rcases noteClient_cases w c d s with ⟨-, hEq⟩ | ⟨-, -, hEq⟩ | ⟨-, -, hEq⟩ <;> rw [hEq]
  · exact (static_setErrno s _).trans (static_noteDevice w d _ c)
  · exact ⟨rfl, fun _ => rfl, rfl⟩
  · have hMalloc : Static s { s with mallocs := s.mallocs + 1, errno := .enodev } :=
      ⟨rfl, fun _ => rfl, rfl⟩
    exact (hMalloc.trans (static_setClientsConnected d _ _)).trans (static_noteDevice w d _ c)

/-- Connecting touches the options of no device. -/
theorem static_connectClientToDevice (c : CliPtr) :
    Static s (connectClientToDevice w cfg c d s).2 := by
  have hDial := (static_setRetries d s cfg.gRetries).trans
    (static_alterDeviceStatus w cfg d _ .connecting)
  unfold connectClientToDevice
  split
  · exact unlessFails_post (fun _ => hDial) fun _ => hDial.trans (static_noteClient w d _ c)
  · exact static_noteClient w d s c

theorem static_removeClientFromDevice (c : CliPtr) :
    Static s (removeClientFromDevice w cfg c d s).2 := by
  rw [removeClientFromDevice_snd]
  exact static_disconnectClientFromDevice w cfg d s c

/-- No call changes a string. -/
theorem static_op (o : Op) : Static s (o.run w cfg s).2 := by
  cases o with
  | connect c d => exact static_connectClientToDevice w cfg d s c
  | disconnect c d => exact static_disconnectClientFromDevice w cfg d s c
  | isUp d => exact static_alterDeviceStatus w cfg d s .up
  | isDown d => exact static_alterDeviceStatus w cfg d s .down
  | forceDown d =>
    have hDown := static_alterDeviceStatus w cfg d s .down
    exact unlessFails_post (fun _ => hDown) fun _ =>
      hDown.trans (static_setClientsConnected d _ _)
  | timeout d => exact static_alterDeviceStatus w cfg d s _
  | expire c d => exact static_removeClientFromDevice w cfg d s c

end Calls

-- ---------------------------------------------------------------------------
-- Replies
-- ---------------------------------------------------------------------------

section Replies

variable (w : World) (c : CliPtr) (d : DevPtr) (s : State)

/-- The loop of `send_device_list`, when no description is NULL. -/
theorem static_appendDevices (ds : List DevPtr) (text : CStr)
    (h : ∀ d ∈ ds, (s.dev d).deviceDescription.isSome) :
    Static s (appendDevices w ds text s).2 := by
  induction ds generalizing text s with
  | nil => exact Static.refl s
  | cons d rest ih =>
    obtain ⟨description, hDescription⟩ := Option.isSome_iff_exists.mp (h d (List.mem_cons_self ..))
    have hMalloc := static_malloc w s
    unfold appendDevices
    rw [hDescription]
    dsimp only
    split <;> rename_i hEq <;> rw [hEq] at hMalloc
    · exact hMalloc
    · refine hMalloc.trans (ih _ _ fun d' hd' => ?_)
      rw [hMalloc.deviceDescription d']
      exact h d' (List.mem_cons_of_mem _ hd')

/-- The list of devices is read, not written, as long as every device has a description. -/
theorem static_sendDeviceList (h : Described s) : Static s (sendDeviceList w c s).2 := by
  have hMalloc := static_malloc w s
  unfold sendDeviceList
  split <;> rename_i hEq <;> rw [hEq] at hMalloc
  · exact hMalloc
  · rename_i s₁
    have hText := hMalloc.trans
      (static_appendDevices w s₁ s₁.gDevices serverDevices (hMalloc.described h))
    split <;> rename_i hEq' <;> rw [hEq'] at hText
    · exact hText
    · exact hText.trans (static_sendReply w _ c _)

theorem static_printDeviceStatus : Static s (printDeviceStatus w d s).2 := by
  have hMalloc := static_malloc w s
  unfold printDeviceStatus
  split <;> rename_i hEq <;> rw [hEq] at hMalloc
  · exact hMalloc
  · rename_i s₁
    split
    · have hParams := (static_advance w s₁).trans (static_malloc w (advance w s₁))
      dsimp only
      split <;> rename_i hEq' <;> rw [hEq'] at hParams <;> exact hMalloc.trans hParams
    · exact hMalloc

theorem static_sendDeviceStatus : Static s (sendDeviceStatus w c d s).2 := by
  have hMalloc := static_malloc w s
  unfold sendDeviceStatus
  split <;> rename_i hEq <;> rw [hEq] at hMalloc
  · exact hMalloc
  · rename_i s₁
    have hPrint := hMalloc.trans (static_printDeviceStatus w d s₁)
    split <;> rename_i hEq' <;> rw [hEq'] at hPrint
    · exact hPrint
    · exact hPrint.trans (static_sendReply w _ c _)

theorem static_appendNames (ds : List DevPtr) (text : CStr) :
    Static s (appendNames w ds text s).2 := by
  induction ds generalizing text s with
  | nil => exact Static.refl s
  | cons d rest ih =>
    have hMalloc := static_malloc w s
    unfold appendNames
    split <;> rename_i hEq <;> rw [hEq] at hMalloc
    · exact hMalloc
    · exact hMalloc.trans (ih _ _)

theorem static_sendClientStatus : Static s (sendClientStatus w c s).2 := by
  have hMalloc := static_malloc w s
  unfold sendClientStatus
  split <;> rename_i hEq <;> rw [hEq] at hMalloc
  · exact hMalloc
  · rename_i s₁
    split
    · exact hMalloc.trans (static_sendReply w _ c _)
    · rename_i d rest _
      have hFirst := hMalloc.trans (static_malloc w s₁)
      split <;> rename_i hEq' <;> rw [hEq'] at hFirst
      · exact hFirst
      · rename_i s₂
        have hNames := hFirst.trans
          (static_appendNames w s₂ rest (serverClientStatus ++ (s₂.dev d).deviceName))
        split <;> rename_i hEq'' <;> rw [hEq''] at hNames
        · exact hNames
        · exact hNames.trans (static_sendReply w _ c _)

end Replies

-- ---------------------------------------------------------------------------
-- Events
-- ---------------------------------------------------------------------------

section Events

variable (w : World) (cfg : Config) (s : State)

theorem static_appendCell (pp : List Nat) (p : Nat) : Static s (appendCell w pp p s).2 := by
  have hMalloc := static_malloc w s
  unfold appendCell
  split <;> rename_i hEq <;> rw [hEq] at hMalloc
  · exact hMalloc
  · split
    · exact hMalloc.trans (static_setErrno _ _)
    · exact hMalloc

theorem static_getClient (pp : List CliPtr) (addr : Nat) :
    Static s (getClient pp addr s).2 := by
  unfold getClient
  split
  · exact Static.refl s
  · exact static_setErrno s _

theorem static_addClient (pp : List CliPtr) (new : CliPtr) :
    Static s (addClient w pp new s).2 := by
  have hGet := static_getClient s pp (s.cli new).sa.addr
  unfold addClient
  split <;> rename_i hEq <;> rw [hEq] at hGet
  · exact hGet.trans (static_setErrno _ _)
  · exact hGet.trans (static_appendCell w _ pp new)

theorem static_knownClient (cli : SockAddr) : Static s (knownClient w cli s).2 := by
  have hGet := static_getClient s s.gClients cli.addr
  unfold knownClient
  split <;> rename_i hEq <;> rw [hEq] at hGet
  · exact hGet
  · rename_i s₁
    have hMalloc := hGet.trans (static_malloc w s₁)
    split <;> rename_i hEq' <;> rw [hEq'] at hMalloc
    · exact hMalloc
    · rename_i p s₂
      dsimp only
      have hNew : Static s₂ { s₂ with
          cli := Function.update s₂.cli (freshClient s₂ p) ⟨cli, 0, []⟩ } :=
        ⟨rfl, fun _ => rfl, rfl⟩
      have hAdd := (hMalloc.trans hNew).trans
        (static_addClient w _ s₂.gClients (freshClient s₂ p))
      split <;> rename_i hEq'' <;> rw [hEq''] at hAdd
      · exact hAdd
      · exact hAdd.trans ⟨rfl, fun _ => rfl, rfl⟩

/-- No request touches the options. -/
theorem static_clientRequest (h : Described s) (c : CliPtr) (message : CStr) :
    Static s (clientRequest w cfg c message s).2 := by
  cases hOp : clientOp c message s with
  | some o =>
    rw [clientRequest_of_op w cfg hOp, unlessFails_done]
    exact static_op w cfg s o
  | none =>
    unfold clientOp at hOp
    unfold clientRequest
    cases hMsg : clientMessage message with
    | ping => exact Static.refl s
    | devices => exact static_sendDeviceList w c s h
    | up name =>
      have hGet := static_getDevice s s.gDevices name
      rcases hEq : getDevice s.gDevices name s with ⟨_ | d, s'⟩
      · rw [hEq] at hGet
        simpa only [hEq] using hGet
      · simp [hMsg, hEq] at hOp
    | down name =>
      have hGet := static_getDevice s (s.cli c).devicesConnected name
      rcases hEq : getDevice (s.cli c).devicesConnected name s with ⟨_ | d, s'⟩
      · rw [hEq] at hGet
        simpa only [hEq] using hGet
      · simp [hMsg, hEq] at hOp
    | forceDown name =>
      have hGet := static_getDevice s s.gDevices name
      rcases hEq : getDevice s.gDevices name s with ⟨_ | d, s'⟩
      · rw [hEq] at hGet
        simpa only [hEq] using hGet.trans (static_setErrno s' .enodev)
      · simp [hMsg, hEq] at hOp
    | status name =>
      have hGet := static_getDevice s s.gDevices name
      dsimp only
      rcases hEq : getDevice s.gDevices name s with ⟨_ | d, s'⟩ <;> rw [hEq] at hGet
      · exact hGet
      · exact hGet.trans (static_sendDeviceStatus w c d s')
    | clientStatus => exact static_sendClientStatus w c s
    | unknown => exact static_setErrno s _

/-- **No datagram changes what the configuration file has set.** -/
theorem static_processClient (h : Described s) (cli : SockAddr) (message : CStr) :
    Static s (processClient w cfg cli message s).2 := by
  have hKnown := static_knownClient w s cli
  unfold processClient
  split <;> rename_i hEq <;> rw [hEq] at hKnown
  · exact hKnown
  · rename_i c s₁
    have hUpdate : Static s (updateClient w c cli s₁) :=
      hKnown.trans ⟨rfl, fun _ => rfl, rfl⟩
    exact hUpdate.trans (static_clientRequest w cfg _ (hUpdate.described h) c message)

/-- Neither does a notice of the peer, -/
theorem static_processPeer (message : CStr) : Static s (processPeer w cfg message s).2 := by
  have hGet := fun name => static_getDevice s s.gDevices name
  unfold processPeer
  cases peerMessage message with
  | isup name =>
    have hName := hGet name
    dsimp only
    split <;> rename_i hEq <;> rw [hEq] at hName
    · exact hName
    · exact hName.trans (static_alterDeviceStatus w cfg _ _ _)
  | isdown name =>
    have hName := hGet name
    dsimp only
    split <;> rename_i hEq <;> rw [hEq] at hName
    · exact hName
    · exact hName.trans (static_alterDeviceStatus w cfg _ _ _)
  | unknown => exact static_setErrno s _

/-- nor the sweep over the devices, -/
theorem static_timeoutOldDevice (d : DevPtr) : Static s (timeoutOldDevice w cfg d s).2 := by
  have hAlter := fun new => (static_advance w s).trans
    (static_alterDeviceStatus w cfg d (advance w s) new)
  unfold timeoutOldDevice
  split
  any_goals exact Static.refl s
  all_goals
    dsimp only
    split
    · rw [unlessFails_done]
      exact hAlter _
    · exact static_advance w s

theorem static_dropClient (c : CliPtr) : Static s (dropClient c s).2 := by
  unfold dropClient rmClient
  cases rmCell c s.gClients <;> exact ⟨rfl, fun _ => rfl, rfl⟩

/-- nor the sweep over the clients. -/
theorem static_timeoutOldClient (c : CliPtr) : Static s (timeoutOldClient w cfg c s).2 := by
  have hNow := static_advance w s
  unfold timeoutOldClient
  dsimp only
  split
  · have hDevices : Static s (removeClientFromAllDevices w cfg c (noteExpired w c s)).2 :=
      untilFailure_invariant' (I := Static s)
        (fun d _ s' h => h.trans (static_removeClientFromDevice w cfg d s' c)) _
        (hNow.trans (static_log _ _))
    exact unlessFails_post (fun _ => hDevices) fun _ => hDevices.trans (static_dropClient _ c)
  · exact hNow

/-- No event changes a string, and none ends the process while every device has a
description. -/
theorem static_step (h : Described s) (e : Event) : Static s (step w cfg e s).2 := by
  have hNow := static_advance w s
  unfold step
  split
  · exact Static.refl s
  · cases e with
    | client cli message =>
      exact hNow.trans (static_processClient w cfg _ (hNow.described h) cli message)
    | peer message => exact hNow.trans (static_processPeer w cfg _ message)
    | timeoutOldClients =>
      exact untilFailure_invariant' (I := Static s)
        (fun c _ s' h => h.trans (static_timeoutOldClient w cfg s' c)) _ hNow
    | timeoutOldDevices =>
      exact untilFailure_invariant' (I := Static s)
        (fun d _ s' h => h.trans (static_timeoutOldDevice w cfg s' d)) _ hNow

/-- What the configuration has settled stays so in every run. -/
theorem static_run (h : Described s) (es : List Event) : Static s (serverRun w cfg es s) :=
  Runs.run_invariant (P := fun _ _ => True) (I := Static s)
    (fun e s' hs _ => hs.trans (static_step w cfg s' (hs.described h) e)) es s
    (Static.refl s) (Runs.along_of_forall (fun _ _ => trivial) es s)

end Events

-- ---------------------------------------------------------------------------
-- Names
-- ---------------------------------------------------------------------------

/-- No call changes the names, also where a description is NULL. -/
theorem deviceNames_kept (w : World) (cfg : Config) (names : List CStr) :
    Kept w cfg (fun _ _ => True) (fun s => WellFormed s ∧ deviceNames s = names)
      (fun _ s => WellFormed s ∧ deviceNames s = names) := by
  have hSame : ∀ {s s' : State}, s'.gDevices = s.gDevices → s'.dev = s.dev →
      deviceNames s' = deviceNames s := by
    intro s s' hList hDev
    rw [deviceNames, hList, hDev, deviceNames]
  refine Kept.uniform And.left ?_ ?_ ?_ ?_ ?_
  · exact fun hq h => ⟨h.1.quiet hq, (hSame hq.gDevices hq.dev).trans h.2⟩
  · exact fun hj h => ⟨h.1.joined hj, (hSame hj.gDevices hj.dev).trans h.2⟩
  · exact fun _ _ h => ⟨h.1.log _, h.2⟩
  · intro o s h hApplies _
    exact ⟨h.1.run hApplies, (static_op w cfg s o).deviceNames.trans h.2⟩
  · exact fun h _ hGone => ⟨h.1.dropped hGone, h.2⟩

/-- The names survive every event. -/
theorem deviceNames_step (w : World) (cfg : Config) {s : State} (h : WellFormed s) (e : Event) :
    WellFormed (step w cfg e s).2 ∧ deviceNames (step w cfg e s).2 = deviceNames s :=
  (deviceNames_kept w cfg (deviceNames s)).step ⟨h, rfl⟩ (calls_of_forall (fun _ _ => trivial) e s)

end LinkControl
