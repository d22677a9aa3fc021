import LinkControl.Server.Requests
import LinkControl.Server.Stranded

/-!
# Link server — while every command returns 0

Commands that always work leave a call few outcomes. `Tidy` is the invariant of such runs,
whether or not memory runs out: a device with clients is up or about to be, and a device
that a client lists, lists the client.

`Op.onDevice` says what a call makes of its device and `Op.onClient` what it makes of the
list of a client; in a tidy state, and when no allocation fails, this is all the call does
(`does_run`). The clock enters in one place: a new connect time is the clock at the end of
the call.
-/

namespace LinkControl

open ReturnCode

variable {w : World} {cfg : Config} {c : CliPtr} {d : DevPtr} {o : Op} {s s₁ s' : State}

/-- Every command returns 0. -/
def Obeyed (w : World) : Prop := ∀ k, (w.system k).result = 0

@[simp] theorem Obeyed.launchResult (hw : Obeyed w) (s : State) :
    LinkControl.launchResult w s = 0 :=
  launchResult_eq_zero.mpr (hw s.commands)

/-- A client that lists the device is listed by it. -/
def Listed (d : DevPtr) (s : State) : Prop :=
  ∀ c ∈ s.gClients, d ∈ (s.cli c).devicesConnected → c ∈ (s.dev d).clientsConnected

/-- The invariant of runs in which every command returns 0. -/
structure Tidy (s : State) : Prop where
  wellFormed : WellFormed s
  served : ∀ d ∈ s.gDevices, Served d s
  listed : ∀ d ∈ s.gDevices, Listed d s

/-- No allocation between the two states failed. -/
def Allocated (w : World) (s s' : State) : Prop :=
  ∀ k, s.mallocs ≤ k → k < s'.mallocs → (w.malloc k).isSome

-- ---------------------------------------------------------------------------
-- What a call does
-- ---------------------------------------------------------------------------

/-- The device a client has left; the link is hung up after the last one. -/
def Device.left (v : Device) (c : CliPtr) (t : Int) : Device :=
  if v.clientsConnected = [c] then
    { v with
      clientsConnected := []
      status := .disconnecting
      connectTime := if v.status = .up then t else v.connectTime }
  else { v with clientsConnected := v.clientsConnected.erase c }

/-- The device a client has asked for. The first client has the server dial, unless the
device is up for nobody. -/
def Device.joined (v : Device) (cfg : Config) (c : CliPtr) (t : Int) : Device :=
  if v.clientsConnected = [] then
    if v.status = .up then { v with retries := cfg.gRetries }
    else
      { v with
        clientsConnected := [c]
        status := .connecting
        retries := cfg.gRetries - 1
        connectTime := t }
  else if c ∈ v.clientsConnected then v
  else { v with clientsConnected := v.clientsConnected ++ [c] }

/-- What a call makes of its device, if the clock is at `t` at its end. Timeouts are no
requests, and are left out. -/
def Op.onDevice (cfg : Config) (t : Int) : Op → Device → Device
  | .connect c _, v => v.joined cfg c t
  | .disconnect c _, v | .expire c _, v => v.left c t
  | .isUp _, v => if v.status = .connecting then { v with status := .up, connectTime := t } else v
  | .isDown _, v | .forceDown _, v => { v with status := .down, clientsConnected := [] }
  | .timeout _, v => v

/-- What a call on a device `v` makes of the list of a client. -/
def Op.onClient (v : Device) : Op → CliPtr → List DevPtr → List DevPtr
  | .connect c d, c', ds =>
    if c' = c ∧ d ∉ ds ∧ ¬ (v.clientsConnected = [] ∧ v.status = .up) then ds ++ [d] else ds
  | .disconnect c d, c', ds | .expire c d, c', ds => if c' = c then ds.erase d else ds
  | .isDown d, _, ds | .forceDown d, _, ds => ds.erase d
  | .isUp _, _, ds | .timeout _, _, ds => ds

/-- The call has done what it has to do, and nothing else. -/
structure Does (cfg : Config) (o : Op) (s s' : State) : Prop where
  dev : s'.dev = Function.update s.dev o.device (o.onDevice cfg s'.clock (s.dev o.device))
  devices : ∀ c ∈ s.gClients, (s'.cli c).devicesConnected =
    o.onClient (s.dev o.device) c (s.cli c).devicesConnected
  gDevices : s'.gDevices = s.gDevices
  gClients : s'.gClients = s.gClients
  sa : ∀ c, (s'.cli c).sa = (s.cli c).sa

/-- For a change confined to the device of the call, the device and the lists remain to
be looked at. -/
theorem Touched.does (ht : Touched o.device s s')
    (hDevice : s'.dev o.device = o.onDevice cfg s'.clock (s.dev o.device))
    (hDevices : ∀ c ∈ s.gClients, (s'.cli c).devicesConnected =
      o.onClient (s.dev o.device) c (s.cli c).devicesConnected) : Does cfg o s s' where
  dev := by
    funext d
    rcases eq_or_ne d o.device with rfl | hOther
    · rw [Function.update_self, hDevice]
    · rw [Function.update_of_ne hOther, ht.other d hOther]
  devices := hDevices
  gDevices := ht.gDevices
  gClients := ht.gClients
  sa := ht.sa

-- ---------------------------------------------------------------------------
-- Devices without clients
-- ---------------------------------------------------------------------------

namespace Tidy

/-- A device that is neither up nor connecting has no clients. -/
theorem free (h : Tidy s) (hd : d ∈ s.gDevices)
    (hStatus : (s.dev d).status = .down ∨ (s.dev d).status = .disconnecting) :
    (s.dev d).clientsConnected = [] := by
  by_contra hClients
  have hUp := h.served d hd hClients
  rcases hStatus with hStatus | hStatus <;> simp [hStatus] at hUp

/-- A device without clients is in no list of a client. -/
theorem unlisted (h : Tidy s) (hd : d ∈ s.gDevices) (hFree : (s.dev d).clientsConnected = []) :
    ∀ c ∈ s.gClients, d ∉ (s.cli c).devicesConnected := by
  intro c hc hMem
  have hListed := h.listed d hd c hc hMem
  rw [hFree] at hListed
  exact absurd hListed List.not_mem_nil

end Tidy

/-- The device a successful force-down command leaves. -/
theorem Obeyed.forcedDown_dev (hw : Obeyed w) (d : DevPtr) (s : State) :
    (forcedDown w d s).dev d = { s.dev d with clientsConnected := [] } := by
  unfold forcedDown
  rw [if_pos (hw.launchResult s)]
  simp

/-- The lists of the clients a successful force-down command leaves. -/
theorem Obeyed.forcedDown_devices (hw : Obeyed w) (hNodup : s.gClients.Nodup)
    (hc : c ∈ s.gClients) : ((forcedDown w d s).cli c).devicesConnected =
      (s.cli c).devicesConnected.erase d := by
  rw [forcedDown_cli w d s hNodup hc, if_pos (hw.launchResult s)]

-- ---------------------------------------------------------------------------
-- Going up and down
-- ---------------------------------------------------------------------------

theorem does_isUp (w : World) (cfg : Config) (d : DevPtr) (s : State) :
    Does cfg (.isUp d) s ((Op.isUp d).run w cfg s).2 := by
  have ht := touched_alterToUp w d s
  rw [run_isUp]
  rcases alterToUp_cases w d s with ⟨hNot, hEq⟩ | ⟨hStatus, hEq⟩ <;> rw [hEq] at ht ⊢
  · refine Touched.does (o := .isUp d) ht ?_ fun _ _ => rfl
    exact (if_neg hNot).symm
  · refine Touched.does (o := .isUp d) ht ?_ fun _ _ => rfl
    simp [Op.device, Op.onDevice, hStatus]

/-- Taking a device down, whichever way. -/
theorem does_alterToDown (cfg : Config) (hw : Obeyed w) (h : Tidy s) (hd : d ∈ s.gDevices) :
    (alterToDown w d s).1 = 0 ∧ Does cfg (.isDown d) s (alterToDown w d s).2 := by
  have ht := touched_alterToDown w d s
  rcases alterToDown_cases w d s with ⟨hStatus, hEq⟩ | ⟨-, hLaunch, -⟩ | ⟨-, -, hEq⟩
  · -- nobody was left on it, so there is nothing to forget
    have hFree := h.free hd (Or.inr hStatus)
    rw [hEq] at ht ⊢
    refine ⟨rfl, Touched.does (o := .isDown d) ht ?_ fun c hc => ?_⟩
    · simp [Op.device, Op.onDevice, ← hFree]
    · exact (List.erase_of_not_mem (h.unlisted hd hFree c hc)).symm
  · simp [hw] at hLaunch
  · rw [hEq] at ht ⊢
    refine ⟨rfl, Touched.does (o := .isDown d) ht ?_ fun c hc => ?_⟩
    · simp [Op.device, Op.onDevice, hw.forcedDown_dev]
    · exact hw.forcedDown_devices h.wellFormed.clients_nodup hc

theorem does_forceDown (cfg : Config) (hw : Obeyed w) (h : Tidy s) (hd : d ∈ s.gDevices) :
    Does cfg (.forceDown d) s ((Op.forceDown d).run w cfg s).2 := by
  obtain ⟨hRet, hDown⟩ := does_alterToDown cfg hw h hd
  have hRun : (Op.forceDown d).run w cfg s = unlessFails (alterToDown w d s)
    (removeAllClientsFromDevice d) := rfl
  have ht : Touched d s ((Op.forceDown d).run w cfg s).2 :=
    touched_run (o := .forceDown d) (by simp)
  rw [hRun, unlessFails_of_nonneg hRet.ge] at ht ⊢
  refine Touched.does (o := .forceDown d) ht ?_ hDown.devices
  -- the list is empty already
  have hDevice := congrFun hDown.dev d
  simp only [Op.device, Function.update_self] at hDevice
  simp [removeAllClientsFromDevice, hDevice, Op.device, Op.onDevice]

-- ---------------------------------------------------------------------------
-- Leaving
-- ---------------------------------------------------------------------------

/-- A link command that works sets the connect time, and nothing else of the device. -/
theorem Obeyed.commanded_dev (hw : Obeyed w) (d : DevPtr) (command : Command) (s : State) :
    (commanded w d command s).dev d =
      { s.dev d with connectTime := (commanded w d command s).clock } := by
  unfold commanded
  rw [if_pos (hw.launchResult s)]
  simp

/-- Hanging up a device that nobody uses any more. -/
theorem Obeyed.hungUp_dev (hw : Obeyed w) (hFree : (s.dev d).clientsConnected = []) :
    (hungUp w d s).dev d = { s.dev d with
      connectTime := if (s.dev d).status = .up then (hungUp w d s).clock
        else (s.dev d).connectTime } := by
  unfold hungUp
  cases hStatus : (s.dev d).status with
  | up =>
    dsimp only
    rw [hw.commanded_dev]
    simp [hStatus]
  | _ =>
    dsimp only
    rw [hw.forcedDown_dev, ← hFree]
    simp [hStatus]

/-- Hanging up takes the device off no list but those it was off already. -/
theorem Obeyed.hungUp_devices (hw : Obeyed w) (hNodup : s.gClients.Nodup) (hc : c ∈ s.gClients) :
    ((hungUp w d s).cli c).devicesConnected =
      if (s.dev d).status = .up then (s.cli c).devicesConnected
      else (s.cli c).devicesConnected.erase d := by
  unfold hungUp
  cases hStatus : (s.dev d).status with
  | up => simp
  | _ => simp [hw.forcedDown_devices hNodup hc]

theorem does_disconnect (cfg : Config) (hw : Obeyed w) (h : Tidy s) (hc : c ∈ s.gClients)
    (hd : d ∈ s.gDevices) :
    Does cfg (.disconnect c d) s (disconnectClientFromDevice w cfg c d s).2 := by
  have ht := touched_disconnectClientFromDevice w cfg d s c
  have hForget : ∀ (s' : State) (c' : CliPtr), (s'.cli c').devicesConnected =
      (s.cli c').devicesConnected → ((forgetDevice d c s').2.cli c').devicesConnected =
      (Op.disconnect c d).onClient (s.dev d) c' (s.cli c').devicesConnected := by
    intro s' c' hSame
    rw [forgetDevice_cli, Op.onClient]
    rcases eq_or_ne c' c with rfl | hOther
    · simp [hSame]
    · simp [hOther, hSame]
  rcases disconnectClientFromDevice_cases w cfg c d s with ⟨hNot, hEq⟩ | ⟨hMem, hMore, hEq⟩ |
    ⟨hLast, hStatus, -⟩ | ⟨-, -, hLaunch, -⟩ | ⟨hLast, hStatus, -⟩ | ⟨hLast, hStatus, -, hEq⟩
  · rw [hEq] at ht ⊢
    refine Touched.does (o := .disconnect c d) ht ?_ fun c' _ => hForget _ c' rfl
    have hMore : (s.dev d).clientsConnected ≠ [c] := by
      intro hLast
      exact hNot (by simp [hLast])
    simp [Op.device, Op.onDevice, Device.left, hMore, List.erase_of_not_mem hNot]
  · rw [hEq] at ht ⊢
    refine Touched.does (o := .disconnect c d) ht ?_ fun c' _ => hForget _ c' rfl
    simp [Op.device, Op.onDevice, Device.left, hMore]
  · have hFree := h.free hd (Or.inl hStatus)
    simp [hLast] at hFree
  · simp [hw] at hLaunch
  · have hFree := h.free hd (Or.inr hStatus)
    simp [hLast] at hFree
  · set s₀ := s.setClientsConnected d [] with hs₀
    have hFree : (s₀.dev d).clientsConnected = [] := by simp [hs₀]
    rw [hEq] at ht ⊢
    refine Touched.does (o := .disconnect c d) ht ?_ fun c' hc' => ?_
    · have hHung := hw.hungUp_dev hFree
      simp only [forgetDevice_dev, State.setStatus_dev, Op.device, Function.update_self, hHung]
      simp [Op.onDevice, Device.left, hLast, hs₀]
    · rw [forgetDevice_cli, State.setStatus_cli, Op.onClient]
      have hLists := fun {x} (hx : x ∈ s.gClients) =>
        hw.hungUp_devices (d := d) (s := s₀) h.wellFormed.clients_nodup hx
      have hNodup := h.wellFormed.devicesNodup c hc
      rcases eq_or_ne c' c with rfl | hOther
      · rw [Function.update_self, if_pos rfl, hLists hc]
        split
        · rfl
        · exact List.erase_of_not_mem hNodup.not_mem_erase
      · -- the device was listed by its only client alone
        have hGone : d ∉ (s.cli c').devicesConnected := by
          intro hMem
          have hListed := h.listed d hd c' hc' hMem
          rw [hLast, List.mem_singleton] at hListed
          exact hOther hListed
        rw [Function.update_of_ne hOther, if_neg hOther, State.setStatus_cli, hLists hc']
        split
        · rfl
        · exact List.erase_of_not_mem hGone

-- ---------------------------------------------------------------------------
-- Joining
-- ---------------------------------------------------------------------------

/-- With memory, noting a client and a device at each other completes the two lists. -/
theorem noteClient_completes (h : WellFormed s) (hc : c ∈ s.gClients) (hd : d ∈ s.gDevices)
    (hAlloc : Allocated w s (noteClient w c d s).2) :
    (noteClient w c d s).2.dev d = { s.dev d with
      clientsConnected := if c ∈ (s.dev d).clientsConnected then (s.dev d).clientsConnected
        else (s.dev d).clientsConnected ++ [c] } ∧
    (∀ c', ((noteClient w c d s).2.cli c').devicesConnected =
      if c' = c ∧ d ∉ (s.cli c').devicesConnected then (s.cli c').devicesConnected ++ [d]
      else (s.cli c').devicesConnected) ∧
    ∀ c', ((noteClient w c d s).2.cli c').sa = (s.cli c').sa := by
  -- the second half, from the state the first half leaves
  have hDevice : ∀ s₁ : State, WellFormed s₁ → c ∈ s₁.gClients → d ∈ s₁.gDevices →
      s₁.cli = s.cli → s.mallocs ≤ s₁.mallocs → Allocated w s (noteDevice w c d s₁).2 →
      (∀ c', ((noteDevice w c d s₁).2.cli c').devicesConnected =
        if c' = c ∧ d ∉ (s.cli c').devicesConnected then (s.cli c').devicesConnected ++ [d]
        else (s.cli c').devicesConnected) ∧
      ∀ c', ((noteDevice w c d s₁).2.cli c').sa = (s.cli c').sa := by
    intro s₁ hWF₁ hc₁ hd₁ hCli hLater hAlloc₁
    rcases hWF₁.noteDevice_cases hc₁ hd₁ w with ⟨hMem, hEq⟩ | ⟨-, hNone, hEq⟩ | ⟨hNot, -, hEq⟩ <;>
      rw [hEq] at hAlloc₁ ⊢
    · rw [hCli] at hMem
      refine ⟨fun c' => ?_, fun c' => by simp [hCli]⟩
      rw [State.setErrno_cli, hCli, if_neg]
      rintro ⟨rfl, hNot⟩
      exact hNot hMem
    · have hSome := hAlloc₁ s₁.mallocs hLater (Nat.lt_succ_self _)
      rw [hNone] at hSome
      exact absurd hSome (by simp)
    · rw [hCli] at hNot ⊢
      refine ⟨fun c' => ?_, fun c' => ?_⟩ <;> rcases eq_or_ne c' c with rfl | hOther
      · simp [hNot]
      · simp [hOther]
      · simp
      · simp [hOther]
  rcases h.noteClient_cases hc hd w with ⟨hMem, hEq⟩ | ⟨-, hNone, hEq⟩ | ⟨hNot, -, hEq⟩ <;>
    rw [hEq] at hAlloc ⊢
  · refine ⟨?_, hDevice _ (h.quiet (quiet_setErrno s .ealready)) hc hd rfl le_rfl hAlloc⟩
    rw [noteDevice_dev, if_pos hMem]
    rfl
  · have hSome := hAlloc s.mallocs le_rfl (Nat.lt_succ_self _)
    rw [hNone] at hSome
    exact absurd hSome (by simp)
  · have hNoted := (h.quiet (quiet_counters s (s.mallocs + 1) .enodev)).noteClient hc hNot
    refine ⟨?_, hDevice _ hNoted hc hd rfl (Nat.le_succ _) hAlloc⟩
    rw [noteDevice_dev, if_neg hNot]
    simp

/-- A dial that works. -/
theorem Obeyed.dialled_dev (hw : Obeyed w) (d : DevPtr) (s : State) :
    (dialled w d s).dev d = { s.dev d with
      status := .connecting
      retries := (s.dev d).retries - 1
      connectTime := (dialled w d s).clock } := by
  have hUp := hw.commanded_dev d .linkUp (s.setRetries d ((s.dev d).retries - 1))
  unfold dialled
  simp [hUp]

/-- Getting a device without clients ready for a dial. -/
theorem Obeyed.readied_dev (hw : Obeyed w) (hFree : (s.dev d).clientsConnected = []) :
    (readied w cfg d s).dev d = { s.dev d with retries := cfg.gRetries } := by
  unfold readied
  split
  · simp only [State.setRetries_dev, sleep_dev, advance_dev, Function.update_self,
      hw.forcedDown_dev, ← hFree]
  · simp

/-- The first client has the server dial, and then is noted. -/
theorem does_dial (hw : Obeyed w) (h : Tidy s) (hc : c ∈ s.gClients) (hd : d ∈ s.gDevices)
    (hFree : (s.dev d).clientsConnected = []) (hUp : (s.dev d).status ≠ .up)
    (hAlloc : Allocated w s
      (noteClient w c d (dialled w d (readied w cfg d (s.setRetries d cfg.gRetries)))).2) :
    Does cfg (.connect c d) s
      (noteClient w c d (dialled w d (readied w cfg d (s.setRetries d cfg.gRetries)))).2 := by
  set s₀ := s.setRetries d cfg.gRetries with hs₀
  set s₁ := dialled w d (readied w cfg d s₀) with hs₁
  have hFree₀ : (s₀.dev d).clientsConnected = [] := by simpa [hs₀] using hFree
  have ht : Touched d s s₁ := ((touched_setRetries d s _).trans (touched_readied w cfg d s₀)).trans
    (touched_dialled w d _)
  have hDialled : s₁.dev d = { s.dev d with
      status := .connecting
      retries := cfg.gRetries - 1
      connectTime := s₁.clock } := by
    rw [hs₁, hw.dialled_dev, hw.readied_dev hFree₀, hs₀]
    simp
  have hLists : ∀ c' ∈ s.gClients, (s₁.cli c').devicesConnected =
      (s.cli c').devicesConnected := by
    intro c' hc'
    have hReadied := readied_cli w cfg d s₀ h.wellFormed.clients_nodup hc'
    rw [hs₁, dialled_cli, hReadied]
    split
    · exact List.erase_of_not_mem (h.unlisted hd hFree c' hc')
    · rfl
  have hNoted := noted_noteClient w c d s₁
  obtain ⟨hDev, hCli, hSa⟩ := noteClient_completes (h.wellFormed.touched ht) (ht.gClients ▸ hc)
    (ht.gDevices ▸ hd) (fun k hk => hAlloc k (ht.mallocs ▸ hk))
  exact {
    dev := by
      funext d'
      rcases eq_or_ne d' d with rfl | hOther
      · rw [Op.device, Function.update_self, hDev, hDialled, hNoted.clock]
        simp [Op.onDevice, Device.joined, hFree, hUp]
      · rw [Op.device, Function.update_of_ne hOther, hNoted.other d' hOther, ht.other d' hOther]
    devices := fun c' hc' => by
      rw [hCli, hLists c' hc', Op.onClient]
      simp [Op.device, hUp]
    gDevices := hNoted.gDevices.trans ht.gDevices
    gClients := hNoted.gClients.trans ht.gClients
    sa := fun c' => (hSa c').trans (ht.sa c') }

theorem does_connect (hw : Obeyed w) (hRetries : 0 ≤ cfg.gRetries) (h : Tidy s)
    (hc : c ∈ s.gClients) (hd : d ∈ s.gDevices)
    (hAlloc : Allocated w s (connectClientToDevice w cfg c d s).2) :
    Does cfg (.connect c d) s (connectClientToDevice w cfg c d s).2 := by
  rcases connect_cases hRetries w c d s with ⟨hMore, hEq⟩ | ⟨hFree, hUp, hEq⟩ |
    ⟨-, -, hLaunch, -⟩ | ⟨-, -, hLaunch, -⟩ | ⟨hFree, hUp, -, -, hEq⟩
  · have hNoted := noted_noteClient w c d s
    rw [hEq] at hAlloc ⊢
    obtain ⟨hDev, hCli, hSa⟩ := noteClient_completes h.wellFormed hc hd hAlloc
    exact {
      dev := by
        funext d'
        rcases eq_or_ne d' d with rfl | hOther
        · rw [Op.device, Function.update_self, hDev]
          by_cases hMem : c ∈ (s.dev d').clientsConnected <;>
            simp [Op.onDevice, Device.joined, hMore, hMem]
        · rw [Op.device, Function.update_of_ne hOther, hNoted.other d' hOther]
      devices := fun c' _ => by
        rw [hCli, Op.onClient]
        simp [Op.device, hMore]
      gDevices := hNoted.gDevices
      gClients := hNoted.gClients
      sa := hSa }
  · -- the device is up for nobody: there is nothing to dial, and the client is turned away
    have ht := (touched_setRetries d s cfg.gRetries).trans
      (touched_setErrno d (s.setRetries d cfg.gRetries) .einval)
    rw [hEq]
    refine Touched.does (o := .connect c d) ht ?_ fun c' _ => ?_
    · simp [Op.device, Op.onDevice, Device.joined, hFree, hUp]
    · simp [Op.device, Op.onClient, hFree, hUp]
  · simp [hw] at hLaunch
  · simp [hw] at hLaunch
  · rw [hEq] at hAlloc ⊢
    exact does_dial hw h hc hd hFree hUp hAlloc

/-- **What a call does**, in a tidy state, while commands return 0 and memory suffices. -/
theorem does_run (hw : Obeyed w) (hRetries : 0 ≤ cfg.gRetries) (h : Tidy s)
    (hApplies : o.Applies cfg s) (hMessage : ∀ d, o ≠ .timeout d)
    (hAlloc : Allocated w s (o.run w cfg s).2) : Does cfg o s (o.run w cfg s).2 := by
  cases o with
  | connect c d => exact does_connect hw hRetries h hApplies.1 hApplies.2 hAlloc
  | disconnect c d => exact does_disconnect cfg hw h hApplies.1 hApplies.2
  | expire c d =>
    rw [run_expire]
    exact { does_disconnect cfg hw h hApplies.1 hApplies.2 with }
  | isUp d => exact does_isUp w cfg d s
  | isDown d => exact { (does_alterToDown cfg hw h hApplies).2 with }
  | forceDown d => exact does_forceDown cfg hw h hApplies
  | timeout d => exact absurd rfl (hMessage d)

-- ---------------------------------------------------------------------------
-- The invariant
-- ---------------------------------------------------------------------------

/-- Lists of clients that shrink do no harm while the list of the device stays. -/
theorem Listed.touched (h : Listed d s) (ht : Touched d s s')
    (hClients : (s'.dev d).clientsConnected = (s.dev d).clientsConnected) : Listed d s' := by
  intro c hc hMem
  rw [hClients]
  exact h c (ht.gClients ▸ hc) ((ht.devices c).subset hMem)

/-- Nor does a change of another device. -/
theorem Listed.other {d' : DevPtr} (h : Listed d' s) (ht : Touched d s s') (hOther : d' ≠ d) :
    Listed d' s' := by
  intro c hc hMem
  rw [ht.other d' hOther]
  exact h c (ht.gClients ▸ hc) ((ht.mem_devices hOther).mp hMem)

/-- Nobody lists a device that the force-down command has cleared. -/
theorem listed_forcedDown (hw : Obeyed w) (hWF : WellFormed s) :
    Listed d ((forcedDown w d s).setStatus d .down) := by
  intro c hc hMem
  have hKnown : c ∈ s.gClients := (touched_forcedDown w d s).gClients ▸ hc
  rw [State.setStatus_cli, hw.forcedDown_devices hWF.clients_nodup hKnown] at hMem
  exact absurd hMem (hWF.devicesNodup c hKnown).not_mem_erase

/-- A client gains the device only when the device has the client. -/
theorem listed_noteClient (hWF : WellFormed s) (hc : c ∈ s.gClients) (hd : d ∈ s.gDevices)
    (h : ∀ d ∈ s.gDevices, Listed d s) : ∀ d' ∈ s.gDevices, Listed d' (noteClient w c d s).2 := by
  -- the second half, once the device has the client
  have hDevice : ∀ s₁ : State, c ∈ (s₁.dev d).clientsConnected →
      (∀ d' ∈ s.gDevices, Listed d' s₁) → ∀ d' ∈ s.gDevices, Listed d' (noteDevice w c d s₁).2 := by
    intro s₁ hMem h₁ d' hd' c' hc' hMem'
    rw [(noted_noteDevice w c d s₁).gClients] at hc'
    rw [noteDevice_dev]
    rcases noteDevice_cases w c d s₁ with ⟨-, hEq⟩ | ⟨-, -, hEq⟩ | ⟨-, -, hEq⟩ <;> rw [hEq] at hMem'
    · exact h₁ d' hd' c' hc' hMem'
    · exact h₁ d' hd' c' hc' hMem'
    · rcases eq_or_ne c' c with rfl | hOther
      · rw [State.setDevicesConnected_cli, Function.update_self, List.mem_append,
          List.mem_singleton] at hMem'
        rcases hMem' with hOld | rfl
        · exact h₁ d' hd' c' hc' hOld
        · exact hMem
      · rw [State.setDevicesConnected_cli, Function.update_of_ne hOther] at hMem'
        exact h₁ d' hd' c' hc' hMem'
  rcases hWF.noteClient_cases hc hd w with ⟨hMem, hEq⟩ | ⟨-, -, hEq⟩ | ⟨-, -, hEq⟩ <;> rw [hEq]
  · exact hDevice _ hMem h
  · exact h
  · refine hDevice _ (by simp) fun d' hd' c' hc' hMem => ?_
    have hOld := h d' hd' c' hc' hMem
    rcases eq_or_ne d' d with rfl | hOther
    · rw [State.setClientsConnected_dev, Function.update_self]
      exact List.mem_append_left _ hOld
    · rw [State.setClientsConnected_dev, Function.update_of_ne hOther]
      exact hOld

theorem listed_connect (hw : Obeyed w) (hRetries : 0 ≤ cfg.gRetries) (h : Tidy s)
    (hc : c ∈ s.gClients) (hd : d ∈ s.gDevices) :
    ∀ d' ∈ s.gDevices, Listed d' (connectClientToDevice w cfg c d s).2 := by
  have hTouched : ∀ {s'}, Touched d s s' →
      (s'.dev d).clientsConnected = (s.dev d).clientsConnected →
      ∀ d' ∈ s.gDevices, Listed d' s' := by
    intro s' ht hClients d' hd'
    rcases eq_or_ne d' d with rfl | hOther
    · exact (h.listed d' hd').touched ht hClients
    · exact (h.listed d' hd').other ht hOther
  have hReset := touched_setRetries d s cfg.gRetries
  rcases connect_cases hRetries w c d s with ⟨-, hEq⟩ | ⟨-, -, hEq⟩ | ⟨-, -, hLaunch, -⟩ |
    ⟨-, -, hLaunch, -⟩ | ⟨hFree, -, -, -, hEq⟩
  · rw [hEq]
    exact listed_noteClient h.wellFormed hc hd h.listed
  · rw [hEq]
    exact hTouched (hReset.trans (touched_setErrno d _ _)) (by simp)
  · simp [hw] at hLaunch
  · simp [hw] at hLaunch
  · have ht := (hReset.trans (touched_readied w cfg d _)).trans (touched_dialled w d _)
    have hNobody := List.eq_nil_of_sublist_nil (hFree ▸ ht.clients)
    have hNow := hTouched ht (hNobody.trans hFree.symm)
    rw [hEq]
    rw [← ht.gDevices] at hd hNow ⊢
    exact listed_noteClient (h.wellFormed.touched ht) (ht.gClients ▸ hc) hd hNow

/-- Nobody lists a device that has been taken down. -/
theorem Does.listed_down (hDoes : Does cfg (.isDown d) s s') (hWF : WellFormed s) :
    Listed d s' := by
  intro c hc hMem
  have hKnown : c ∈ s.gClients := hDoes.gClients ▸ hc
  rw [hDoes.devices c hKnown] at hMem
  exact absurd hMem (hWF.devicesNodup c hKnown).not_mem_erase

/-- A client that lists the device is not the one that has left it. -/
theorem Does.listed_left (hDoes : Does cfg (.disconnect c d) s s') (h : Tidy s)
    (hd : d ∈ s.gDevices) : Listed d s' := by
  intro c' hc' hMem
  have hKnown : c' ∈ s.gClients := hDoes.gClients ▸ hc'
  rw [hDoes.devices c' hKnown, Op.onClient] at hMem
  split at hMem
  · exact absurd hMem (h.wellFormed.devicesNodup c' hKnown).not_mem_erase
  · rename_i hOther
    have hOld := h.listed d hd c' hKnown hMem
    have hMore : (s.dev d).clientsConnected ≠ [c] := by
      intro hLast
      rw [hLast, List.mem_singleton] at hOld
      exact hOther hOld
    rw [hDoes.dev, Op.device, Function.update_self, Op.onDevice, Device.left, if_neg hMore]
    exact (List.mem_erase_of_ne hOther).mpr hOld

theorem listed_timeout (hw : Obeyed w) (h : Tidy s) (hd : d ∈ s.gDevices) (hDue : Due cfg d s) :
    Listed d ((Op.timeout d).run w cfg s).2 := by
  have ht : Touched d s ((Op.timeout d).run w cfg s).2 := touched_run (o := .timeout d) (by simp)
  rcases timeout_cases w hDue with ⟨-, -, hLaunch, -⟩ | ⟨-, -, -, hEq⟩ | ⟨-, -, hLaunch, -⟩ |
    ⟨-, -, -, hEq⟩ | ⟨-, hLaunch, -⟩ | ⟨-, -, hEq⟩
  · simp [hw] at hLaunch
  · rw [hEq]
    exact listed_forcedDown hw (h.wellFormed.touched (touched_exhausted d s))
  · simp [hw] at hLaunch
  · rw [hEq] at ht ⊢
    exact (h.listed d hd).touched ht (by simp)
  · simp [hw] at hLaunch
  · rw [hEq]
    exact listed_forcedDown hw h.wellFormed

/-- Every call keeps the lists of the clients within those of the devices. -/
theorem listed_run (hw : Obeyed w) (hRetries : 0 ≤ cfg.gRetries) (h : Tidy s)
    (hApplies : o.Applies cfg s) : ∀ d ∈ s.gDevices, Listed d (o.run w cfg s).2 := by
  have hRest : (∀ c d, o ≠ .connect c d) → Listed o.device (o.run w cfg s).2 →
      ∀ d ∈ s.gDevices, Listed d (o.run w cfg s).2 := by
    intro hOp hOwn d hd
    rcases eq_or_ne d o.device with rfl | hOther
    · exact hOwn
    · exact (h.listed d hd).other (touched_run hOp) hOther
  cases o with
  | connect c d => exact listed_connect hw hRetries h hApplies.1 hApplies.2
  | disconnect c d =>
    exact hRest (by simp) ((does_disconnect cfg hw h hApplies.1 hApplies.2).listed_left h
      hApplies.2)
  | expire c d =>
    refine hRest (by simp) ?_
    rw [run_expire]
    exact (does_disconnect cfg hw h hApplies.1 hApplies.2).listed_left h hApplies.2
  | isUp d =>
    refine hRest (by simp) ((h.listed d hApplies).touched (touched_run (o := .isUp d) (by simp)) ?_)
    rw [(does_isUp w cfg d s).dev, Op.device, Function.update_self, Op.onDevice]
    split <;> rfl
  | isDown d =>
    exact hRest (by simp) ((does_alterToDown cfg hw h hApplies).2.listed_down h.wellFormed)
  | forceDown d =>
    have hDoes : Does cfg (.isDown d) s ((Op.forceDown d).run w cfg s).2 :=
      { does_forceDown cfg hw h hApplies with }
    exact hRest (by simp) (hDoes.listed_down h.wellFormed)
  | timeout d => exact hRest (by simp) (listed_timeout hw h hApplies.1 hApplies.2)

/-- **Tidiness is an invariant** while every command returns 0, also when memory runs
out. -/
theorem tidy_kept (hw : Obeyed w) (hRetries : 0 ≤ cfg.gRetries) :
    Kept w cfg (fun _ _ => True) Tidy (fun _ => Tidy) := by
  refine Kept.uniform (fun h => h.wellFormed) ?_ ?_ ?_ ?_ ?_
  · intro s s' hq h
    refine ⟨h.wellFormed.quiet hq, fun d hd => ?_, fun d hd c hc hMem => ?_⟩
    · rw [Served, hq.dev]
      exact h.served d (hq.gDevices ▸ hd)
    · rw [hq.gClients] at hc
      rw [hq.devices c hc] at hMem
      rw [hq.dev]
      exact h.listed d (hq.gDevices ▸ hd) c hc hMem
  · intro c s s' hj h
    refine ⟨h.wellFormed.joined hj, fun d hd => ?_, fun d hd c' hc' hMem => ?_⟩
    · rw [Served, hj.dev]
      exact h.served d (hj.gDevices ▸ hd)
    · rw [hj.gClients, List.mem_append, List.mem_singleton] at hc'
      rw [hj.dev]
      rcases hc' with hOld | rfl
      · rw [hj.old c' hOld] at hMem
        exact h.listed d (hj.gDevices ▸ hd) c' hOld hMem
      · simp [hj.devices] at hMem
  · exact fun _ _ h => ⟨h.wellFormed.log _, h.served, h.listed⟩
  · intro o s h hApplies _
    have hc := confined_run w cfg o s
    refine ⟨h.wellFormed.run hApplies, fun d hd => ?_, ?_⟩
    · rw [hc.gDevices] at hd
      rcases eq_or_ne d o.device with rfl | hOther
      · refine served_run hRetries (h.served _ hd) hApplies ?_
        cases o <;> simp [Strands, hw]
      · rw [Served, hc.other d hOther]
        exact h.served d hd
    · rw [hc.gDevices]
      exact listed_run hw hRetries h hApplies
  · intro c s h hc hGone
    refine ⟨h.wellFormed.dropped hGone, h.served, fun d hd c' hc' hMem => ?_⟩
    exact h.listed d hd c' (List.mem_of_mem_erase hc') hMem

theorem tidy_run (hw : Obeyed w) (hRetries : 0 ≤ cfg.gRetries) (sections : List DeviceSection)
    (es : List Event) : Tidy (serverRun w cfg es (boot w sections)) := by
  have hStart := booted_boot w sections
  refine (tidy_kept hw hRetries).run ⟨hStart.wellFormed, fun d hd => ?_, fun d hd c hc => ?_⟩
    (along_of_calls (fun _ _ => trivial) es _)
  · exact served_of_free (hStart.clients d hd)
  · simp [hStart.gClients] at hc

end LinkControl
