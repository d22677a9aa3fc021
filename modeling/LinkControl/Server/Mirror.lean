import LinkControl.Server.Local

/-!
# Link server — the two membership lists

The server records twice who uses which device: a device lists its clients, and a
client lists its devices. `Mirrored none s` says that the two agree for every client,
and `Mirrored (some c) s` that they agree for every client but `c`, which is what is
left of it while the devices of the expired client `c` are gone through.

Two calls make the lists disagree (`Splits`). FORCE_DOWN empties the list of the
device whatever its command returned, while the clients forget the device only when it
returned 0. And disconnecting the last client takes it off the device before the link
is hung up; when that fails, the client goes on listing the device.
-/

namespace LinkControl

open ReturnCode

variable {w : World} {cfg : Config} {out : Option CliPtr} {c : CliPtr} {d : DevPtr}
  {s s' : State}

/-- A client other than `out` lists exactly the devices that list it, and a device that
is hanging up lists nobody. -/
structure Mirrored (out : Option CliPtr) (s : State) : Prop where
  wellFormed : WellFormed s
  mirror : ∀ d ∈ s.gDevices, ∀ c ∈ s.gClients, some c ≠ out →
    (c ∈ (s.dev d).clientsConnected ↔ d ∈ (s.cli c).devicesConnected)
  freed : ∀ d ∈ s.gDevices, (s.dev d).status = .disconnecting → (s.dev d).clientsConnected = []

/-- The call makes the two lists disagree. -/
def Splits (w : World) (o : Op) (s : State) : Prop :=
  match o with
  | .disconnect c d => (s.dev d).clientsConnected = [c] ∧
      ((s.dev d).status = .down ∨ launchResult w s < 0)
  | .expire c d => (s.dev d).clientsConnected = [c] ∧
      ((s.dev d).status = .down ∨
        launchResult w s < 0 ∧ (w.system s.commands).errno.getD s.errno ≠ .enodev)
  | .forceDown d => (s.dev d).clientsConnected ≠ [] ∧ (s.dev d).status ≠ .disconnecting ∧
      0 < launchResult w s
  | _ => False

instance (w : World) (s : State) : ∀ o, Decidable (Splits w o s)
  | .disconnect _ _ | .expire _ _ | .forceDown _ => inferInstanceAs (Decidable (_ ∧ _))
  | .connect _ _ | .isUp _ | .isDown _ | .timeout _ => isFalse id

-- ---------------------------------------------------------------------------
-- Changes of one device
-- ---------------------------------------------------------------------------

/-- The lists agree on device `d`. -/
def Agree (out : Option CliPtr) (d : DevPtr) (s : State) : Prop :=
  ∀ c ∈ s.gClients, some c ≠ out →
    (c ∈ (s.dev d).clientsConnected ↔ d ∈ (s.cli c).devicesConnected)

/-- A change confined to one device, which the lists still agree on. -/
theorem Mirrored.touched (h : Mirrored out s) (ht : Touched d s s') (hAgree : Agree out d s')
    (hFreed : (s'.dev d).status = .disconnecting → (s'.dev d).clientsConnected = []) :
    Mirrored out s' where
  wellFormed := h.wellFormed.touched ht
  mirror d' hd' c hc hOut := by
    rcases eq_or_ne d' d with rfl | hOther
    · exact hAgree c hc hOut
    · rw [ht.other d' hOther, ht.mem_devices hOther]
      exact h.mirror d' (ht.gDevices ▸ hd') c (ht.gClients ▸ hc) hOut
  freed d' hd' := by
    rcases eq_or_ne d' d with rfl | hOther
    · exact hFreed
    · rw [ht.other d' hOther]
      exact h.freed d' (ht.gDevices ▸ hd')

/-- Only the lists of the device and of the clients matter. -/
theorem Agree.same (h : Agree out d s) (hGClients : s'.gClients = s.gClients)
    (hClients : (s'.dev d).clientsConnected = (s.dev d).clientsConnected)
    (hCli : s'.cli = s.cli) : Agree out d s' := by
  unfold Agree
  rw [hGClients, hClients, hCli]
  exact h

/-- `link_force_down` clears both lists or neither. -/
theorem agree_forcedDown (hWF : WellFormed s) (h : Agree out d s) :
    Agree out d (forcedDown w d s) := by
  intro c hc hOut
  rw [forcedDown_gClients] at hc
  rw [forcedDown_clients, forcedDown_cli w d s hWF.clients_nodup hc]
  split
  · simp [(hWF.devicesNodup c hc).not_mem_erase]
  · exact h c hc hOut

/-- Hanging up clears both sides of the device, or neither. -/
theorem agree_hungUp (hWF : WellFormed s) (h : Agree out d s) : Agree out d (hungUp w d s) := by
  unfold hungUp
  split
  · exact h.same (by simp) (by simp) (by simp)
  · exact agree_forcedDown hWF h

/-- So does getting ready for a dial. -/
theorem agree_readied (hWF : WellFormed s) (h : Agree out d s) :
    Agree out d (readied w cfg d s) := by
  unfold readied
  split
  · exact (agree_forcedDown hWF h).same rfl (by simp) rfl
  · exact h.same rfl (by simp) rfl

/-- Nobody lists the device, and it lists nobody. -/
theorem Mirrored.free (h : Mirrored out s) (hd : d ∈ s.gDevices)
    (hFree : (s.dev d).clientsConnected = []) :
    ∀ c ∈ s.gClients, some c ≠ out → d ∉ (s.cli c).devicesConnected :=
  fun c hc hOut hMem => by simpa [hFree] using (h.mirror d hd c hc hOut).mpr hMem

-- ---------------------------------------------------------------------------
-- Taking a device down, up, or on to the next dial
-- ---------------------------------------------------------------------------

/-- Taking a device down clears both sides, or neither. -/
theorem mirrored_alterToDown (h : Mirrored out s) (hd : d ∈ s.gDevices) :
    Mirrored out (alterToDown w d s).2 := by
  have hAgree : Agree out d s := h.mirror d hd
  have hForced := agree_forcedDown (w := w) h.wellFormed hAgree
  refine h.touched (touched_alterToDown w d s) ?_ ?_ <;>
    rcases alterToDown_cases w d s with ⟨-, hEq⟩ | ⟨hNot, -, hEq⟩ | ⟨-, -, hEq⟩ <;> rw [hEq]
  · exact hAgree.same rfl (by simp) rfl
  · exact hForced
  · exact hForced.same rfl (by simp) rfl
  · simp
  · exact fun hStatus => absurd (by simpa using hStatus) hNot
  · simp

theorem mirrored_alterToUp (h : Mirrored out s) (hd : d ∈ s.gDevices) :
    Mirrored out (alterToUp w d s).2 := by
  have hAgree : Agree out d s := h.mirror d hd
  refine h.touched (touched_alterToUp w d s) ?_ ?_ <;>
    rcases alterToUp_cases w d s with ⟨-, hEq⟩ | ⟨-, hEq⟩ <;> rw [hEq]
  · exact hAgree.same rfl (by simp) rfl
  · exact hAgree.same rfl (by simp) rfl
  · exact h.freed d hd
  · simp

/-- A dial touches no list, and giving up clears both sides. -/
theorem mirrored_redial (h : Mirrored out s) (hd : d ∈ s.gDevices) :
    Mirrored out (redial w d s).2 := by
  have hAgree : Agree out d s := h.mirror d hd
  rcases redial_cases w d s with ⟨-, hEq⟩ | ⟨-, -, hEq⟩ | ⟨-, -, hEq⟩ <;> rw [hEq]
  · refine mirrored_alterToDown (h.touched (touched_exhausted d s) ?_ ?_) hd
    · exact hAgree.same rfl (by simp) rfl
    · simpa using h.freed d hd
  · refine h.touched (touched_undialled w d s) ?_ ?_
    · exact hAgree.same (touched_undialled w d s).gClients (by simp) (by simp)
    · simpa using h.freed d hd
  · refine h.touched (touched_dialled w d s) ?_ (by simp)
    exact hAgree.same (touched_dialled w d s).gClients (by simp) (by simp)

theorem mirrored_forcedDown (h : Mirrored out s) (hd : d ∈ s.gDevices) :
    Mirrored out (forcedDown w d s) := by
  refine h.touched (touched_forcedDown w d s) (agree_forcedDown h.wellFormed (h.mirror d hd)) ?_
  intro hStatus
  have hFree := h.freed d hd (by simpa using hStatus)
  exact List.eq_nil_of_sublist_nil (hFree ▸ (touched_forcedDown w d s).clients)

/-- On the way to Connecting the device loses all its clients or none. -/
theorem mirrored_alterToConnecting (h : Mirrored out s) (hd : d ∈ s.gDevices) :
    Mirrored out (alterToConnecting w cfg d s).2 := by
  rcases alterToConnecting_cases w cfg d s with ⟨-, hEq⟩ | ⟨-, hEq⟩ | ⟨-, -, hEq⟩ | ⟨-, hEq⟩ <;>
    rw [hEq]
  · exact h.touched (touched_setErrno d s _) (Agree.same (h.mirror d hd) rfl rfl rfl)
      (h.freed d hd)
  · exact mirrored_redial h hd
  · exact mirrored_forcedDown h hd
  · have ht := touched_readied w cfg d s
    refine mirrored_redial (h.touched ht (agree_readied h.wellFormed (h.mirror d hd)) ?_)
      (ht.gDevices ▸ hd)
    intro hStatus
    have hFree := h.freed d hd (by simpa using hStatus)
    exact List.eq_nil_of_sublist_nil (hFree ▸ ht.clients)

/-- A sweep that acts on a device clears both sides, or neither. -/
theorem mirrored_timeout (hDue : Due cfg d s) (h : Mirrored out s) (hd : d ∈ s.gDevices) :
    Mirrored out ((Op.timeout d).run w cfg s).2 := by
  have hRun : (Op.timeout d).run w cfg s = alterDeviceStatus w cfg d (s.dev d).status s := rfl
  rcases timeout_cases w hDue with ⟨hSt, -⟩ | ⟨hSt, -⟩ | ⟨hSt, -⟩ | ⟨hSt, -⟩ | ⟨-, -, hEq⟩ |
    ⟨-, -, hEq⟩
  any_goals
    rw [hRun, hSt]
    exact mirrored_alterToConnecting h hd
  · rw [hEq]
    exact mirrored_forcedDown h hd
  · have hForced := mirrored_forcedDown (w := w) h hd
    rw [hEq]
    exact hForced.touched (touched_setStatus d _ .down)
      (Agree.same (hForced.mirror d (by simpa using hd)) rfl (by simp) rfl) (by simp)

-- ---------------------------------------------------------------------------
-- Connecting and disconnecting
-- ---------------------------------------------------------------------------

/-- A successful dial leaves no device hanging up. -/
theorem alterToConnecting_status (h : 0 ≤ (alterToConnecting w cfg d s).1) :
    ((alterToConnecting w cfg d s).2.dev d).status ≠ .disconnecting := by
  have hRedial : ∀ {s : State}, 0 ≤ (redial w d s).1 →
      ((redial w d s).2.dev d).status ≠ .disconnecting := by
    intro s h
    rcases redial_cases w d s with ⟨-, hEq⟩ | ⟨-, -, hEq⟩ | ⟨-, -, hEq⟩ <;> rw [hEq] at h ⊢
    · rcases alterToDown_cases w d (exhausted d s) with ⟨-, hEq⟩ | ⟨-, -, hEq⟩ | ⟨-, -, hEq⟩ <;>
        rw [hEq] at h ⊢
      · simp
      · exact absurd h (by simp)
      · simp
    · exact absurd h (by simp)
    · simp
  rcases alterToConnecting_cases w cfg d s with ⟨-, hEq⟩ | ⟨-, hEq⟩ | ⟨-, -, hEq⟩ | ⟨-, hEq⟩ <;>
    rw [hEq] at h ⊢
  · exact absurd h (by simp)
  · exact hRedial h
  · exact absurd h (by simp)
  · exact hRedial h

/-- With memory for both cells, a client is noted on both sides. -/
theorem mirrored_noteClient (hAlloc : ∀ k, (w.malloc k).isSome) (h : Mirrored none s)
    (hc : c ∈ s.gClients) (hd : d ∈ s.gDevices) (hStatus : (s.dev d).status ≠ .disconnecting) :
    Mirrored none (noteClient w c d s).2 := by
  have hNoted := noted_noteClient w c d s
  obtain ⟨-, hClients, hDevices⟩ := h.wellFormed.noteClient_adds hc hd hAlloc
  refine ⟨h.wellFormed.noteClient_call hc hd, fun d' hd' c' hc' _ => ?_, fun d' hd' hSt => ?_⟩
  · rw [hNoted.gDevices] at hd'
    rw [hNoted.gClients] at hc'
    have hOld := h.mirror d' hd' c' hc' (by simp)
    rw [hDevices]
    rcases eq_or_ne d' d with rfl | hOther
    · rw [hClients, hOld]
      simp
    · rw [hNoted.other d' hOther, hOld]
      simp [hOther]
  · rw [hNoted.gDevices] at hd'
    rcases eq_or_ne d' d with rfl | hOther
    · exact absurd (hNoted.status.symm.trans hSt) hStatus
    · rw [hNoted.other d' hOther] at hSt ⊢
      exact h.freed d' hd' hSt

/-- Connecting notes the client on both sides, once the device has been dialled. -/
theorem mirrored_connect (hAlloc : ∀ k, (w.malloc k).isSome) (h : Mirrored none s)
    (hc : c ∈ s.gClients) (hd : d ∈ s.gDevices) :
    Mirrored none (connectClientToDevice w cfg c d s).2 := by
  have hReset : Mirrored none (s.setRetries d cfg.gRetries) :=
    h.touched (touched_setRetries d s _) (Agree.same (h.mirror d hd) rfl (by simp) rfl)
      (by simpa using h.freed d hd)
  have ht := (touched_setRetries d s cfg.gRetries).trans
    (touched_alterToConnecting w cfg d (s.setRetries d cfg.gRetries))
  rcases connectClientToDevice_cases w cfg c d s with ⟨hClients, hEq⟩ | ⟨-, -, hEq⟩ |
    ⟨-, hDialled, hEq⟩ <;> rw [hEq]
  · exact mirrored_noteClient hAlloc h hc hd fun hStatus => hClients (h.freed d hd hStatus)
  · exact mirrored_alterToConnecting hReset hd
  · exact mirrored_noteClient hAlloc (mirrored_alterToConnecting hReset hd) (ht.gClients ▸ hc)
      (ht.gDevices ▸ hd) (alterToConnecting_status hDialled)

/-- Forgetting a device at a client that is off its list already. -/
theorem agree_forgetDevice (hWF : WellFormed s) (h : Agree (some c) d s)
    (hGone : c ∉ (s.dev d).clientsConnected) : Agree none d (forgetDevice d c s).2 := by
  intro c' hc' _
  rw [forgetDevice_gClients] at hc'
  rw [forgetDevice_dev, forgetDevice_cli]
  rcases eq_or_ne c' c with rfl | hOther
  · rw [Function.update_self]
    simp [hGone, (hWF.devicesNodup c' hc').not_mem_erase]
  · rw [Function.update_of_ne hOther]
    exact h c' hc' (by simpa using hOther)

theorem Agree.weaken (h : Agree none d s) (out : Option CliPtr) : Agree out d s :=
  fun c hc _ => h c hc (by simp)

/-- Taking a client off a device concerns nobody else. -/
theorem agree_erase (h : Agree (some c) d s) :
    Agree (some c) d (s.setClientsConnected d ((s.dev d).clientsConnected.erase c)) := by
  intro c' hc' hOut
  have hOther : c' ≠ c := by simpa using hOut
  rw [State.setClientsConnected_dev, Function.update_self, List.mem_erase_of_ne hOther]
  exact h c' hc' hOut

/-- A disconnection that works makes the lists agree on the device; one that fails may
leave out the client. -/
theorem agree_disconnect (hWF : WellFormed s) (hd : d ∈ s.gDevices) (h : Agree (some c) d s) :
    Agree (some c) d (disconnectClientFromDevice w cfg c d s).2 ∧
      (0 ≤ (disconnectClientFromDevice w cfg c d s).1 →
        Agree none d (disconnectClientFromDevice w cfg c d s).2) := by
  have hNodup := hWF.clientsNodup d hd
  have hForget : ∀ {s : State}, WellFormed s → Agree (some c) d s →
      c ∉ (s.dev d).clientsConnected →
      Agree (some c) d (forgetDevice d c s).2 ∧
        (0 ≤ (forgetDevice d c s).1 → Agree none d (forgetDevice d c s).2) :=
    fun hWF h hGone =>
      have hNone := agree_forgetDevice hWF h hGone
      ⟨hNone.weaken _, fun _ => hNone⟩
  -- the last client goes before the link is hung up
  have hEmptied : (s.dev d).clientsConnected = [c] →
      Agree (some c) d (s.setClientsConnected d []) ∧
        WellFormed (s.setClientsConnected d []) := by
    intro hLast
    refine ⟨?_, hWF.touched (touched_setClientsConnected d s (List.nil_sublist _))⟩
    have hErase := agree_erase h
    rwa [hLast, List.erase_cons_head] at hErase
  rcases disconnectClientFromDevice_cases w cfg c d s with ⟨hNot, hEq⟩ | ⟨-, -, hEq⟩ |
    ⟨hLast, -, hEq⟩ | ⟨hLast, -, -, hEq⟩ | ⟨hLast, -, -, hEq⟩ | ⟨hLast, -, -, hEq⟩ <;> rw [hEq]
  · exact hForget (hWF.quiet (quiet_setErrno s _)) (h.same rfl rfl rfl) hNot
  · refine hForget (hWF.touched (touched_setClientsConnected d s List.erase_sublist))
      (agree_erase h) ?_
    simpa using hNodup.not_mem_erase
  · exact ⟨(hEmptied hLast).1.same rfl rfl rfl, fun hRet => absurd hRet (by simp)⟩
  · obtain ⟨hAgree, hWF'⟩ := hEmptied hLast
    exact ⟨agree_hungUp hWF' hAgree, fun hRet => absurd hRet (by simp)⟩
  · obtain ⟨hAgree, hWF'⟩ := hEmptied hLast
    have ht := (touched_forcedDown w d (s.setClientsConnected d [])).trans
      (touched_setStatus d _ .down)
    refine hForget (hWF'.touched ht) ((agree_forcedDown hWF' hAgree).same rfl (by simp) rfl) ?_
    exact fun hMem => absurd (ht.clients.subset hMem) (by simp)
  · obtain ⟨hAgree, hWF'⟩ := hEmptied hLast
    have ht := (touched_hungUp w d (s.setClientsConnected d [])).trans
      (touched_setStatus d _ .disconnecting)
    refine hForget (hWF'.touched ht) ((agree_hungUp hWF' hAgree).same rfl (by simp) rfl) ?_
    exact fun hMem => absurd (ht.clients.subset hMem) (by simp)

/-- A device that starts hanging up has just lost its last client. -/
theorem disconnect_freed
    (h : (s.dev d).status = .disconnecting → (s.dev d).clientsConnected = [])
    (hStatus : ((disconnectClientFromDevice w cfg c d s).2.dev d).status = .disconnecting) :
    ((disconnectClientFromDevice w cfg c d s).2.dev d).clientsConnected = [] := by
  have ht := touched_hungUp w d (s.setClientsConnected d [])
  rcases disconnectClientFromDevice_cases w cfg c d s with ⟨-, hEq⟩ | ⟨hMem, -, hEq⟩ |
    ⟨-, -, hEq⟩ | ⟨-, -, -, hEq⟩ | ⟨-, -, -, hEq⟩ | ⟨-, -, -, hEq⟩ <;> rw [hEq] at hStatus ⊢
  · simpa using h (by simpa using hStatus)
  · have hFree := h (by simpa using hStatus)
    rw [hFree] at hMem
    exact absurd hMem List.not_mem_nil
  · simp
  · exact List.eq_nil_of_sublist_nil (by simpa using ht.clients)
  · simp at hStatus
  · rw [forgetDevice_dev, State.setStatus_dev, Function.update_self]
    exact List.eq_nil_of_sublist_nil (by simpa using ht.clients)

/-- A disconnection fails only for the last client of a device. -/
theorem disconnect_fails (h : (disconnectClientFromDevice w cfg c d s).1 < 0) :
    (s.dev d).clientsConnected = [c] ∧
      ((s.dev d).status = .down ∧
          (disconnectClientFromDevice w cfg c d s).2.errno = .einval ∨
        launchResult w s < 0 ∧ (disconnectClientFromDevice w cfg c d s).2.errno =
          (w.system s.commands).errno.getD s.errno) := by
  rcases disconnectClientFromDevice_cases w cfg c d s with ⟨-, hEq⟩ | ⟨-, -, hEq⟩ |
    ⟨hLast, hStatus, hEq⟩ | ⟨hLast, -, hLaunch, hEq⟩ | ⟨-, -, -, hEq⟩ | ⟨-, -, -, hEq⟩ <;>
    rw [hEq] at h ⊢
  · exact absurd h (by simp)
  · exact absurd h (by simp)
  · exact ⟨hLast, Or.inl ⟨hStatus, rfl⟩⟩
  · refine ⟨hLast, Or.inr ⟨hLaunch, ?_⟩⟩
    have hNot : ¬ launchResult w (s.setClientsConnected d []) = 0 := by simpa using hLaunch.ne
    unfold hungUp commanded forcedDown
    rw [if_neg hNot, if_neg hNot]
    split <;> rfl
  · exact absurd h (by simp)
  · exact absurd h (by simp)

/-- Leaving a device takes the client off both sides, unless the hanging up fails in between. -/
theorem mirrored_disconnect (h : Mirrored none s) (hd : d ∈ s.gDevices)
    (hP : ¬ Splits w (.disconnect c d) s) :
    Mirrored none (disconnectClientFromDevice w cfg c d s).2 := by
  have hAgree : Agree none d s := h.mirror d hd
  refine h.touched (touched_disconnectClientFromDevice w cfg d s c)
    ((agree_disconnect h.wellFormed hd (hAgree.weaken _)).2 ?_) (disconnect_freed (h.freed d hd))
  by_contra hFail
  obtain ⟨hLast, hWhy⟩ := disconnect_fails (Int.not_le.mp hFail)
  exact hP ⟨hLast, hWhy.imp And.left And.left⟩

/-- While a client is leaving, its own entries do not matter. -/
theorem mirrored_expire (h : Mirrored (some c) s) (hd : d ∈ s.gDevices) :
    Mirrored (some c) (disconnectClientFromDevice w cfg c d s).2 :=
  h.touched (touched_disconnectClientFromDevice w cfg d s c)
    (agree_disconnect h.wellFormed hd (h.mirror d hd)).1 (disconnect_freed (h.freed d hd))

/-- Forcing a device down clears both sides, unless only the list of the device gets cleared. -/
theorem mirrored_forceDown (h : Mirrored none s) (hd : d ∈ s.gDevices)
    (hP : ¬ Splits w (.forceDown d) s) : Mirrored none ((Op.forceDown d).run w cfg s).2 := by
  have ht : Touched d s ((Op.forceDown d).run w cfg s).2 :=
    touched_run (o := .forceDown d) (by simp)
  have hForced := mirrored_forcedDown (w := w) h hd
  have hNobody : ∀ {s' : State}, Touched d s s' → (s'.dev d).clientsConnected = [] →
      (∀ c ∈ s.gClients, d ∉ (s'.cli c).devicesConnected) → Agree none d s' := by
    intro s' ht hFree hGone c hc _
    rw [hFree]
    simpa using hGone c (ht.gClients ▸ hc)
  rcases forceDown_cases w cfg d s with ⟨hStatus, hEq⟩ | ⟨-, -, hEq⟩ | ⟨hStatus, hLaunch, hEq⟩ <;>
    rw [hEq] at ht ⊢
  · refine h.touched ht (hNobody ht (by simp) fun c hc => ?_) (by simp)
    exact h.free hd (h.freed d hd hStatus) c hc (by simp)
  · exact hForced
  · refine h.touched ht (hNobody ht (by simp) fun c hc => ?_) (by simp)
    -- the list was cleared by the command, or there was nothing to clear
    have hFree : ((forcedDown w d s).dev d).clientsConnected = [] := by
      rw [forcedDown_clients]
      split
      · rfl
      · by_contra hClients
        exact hP ⟨hClients, hStatus, by omega⟩
    exact hForced.free (by simpa using hd) hFree c (by simpa using hc) (by simp)

-- ---------------------------------------------------------------------------
-- Runs
-- ---------------------------------------------------------------------------

theorem Mirrored.quiet (h : Mirrored out s) (hq : Quiet s s') : Mirrored out s' where
  wellFormed := h.wellFormed.quiet hq
  mirror d hd c hc hOut := by
    rw [hq.gClients] at hc
    rw [hq.dev, hq.devices c hc]
    exact h.mirror d (hq.gDevices ▸ hd) c hc hOut
  freed d hd := by
    rw [hq.dev]
    exact h.freed d (hq.gDevices ▸ hd)

/-- A new client starts with no devices. -/
theorem Mirrored.joined (h : Mirrored none s) (hj : Joined c s s') : Mirrored none s' where
  wellFormed := h.wellFormed.joined hj
  mirror d hd c' hc' _ := by
    rw [hj.gDevices] at hd
    rw [hj.gClients, List.mem_append, List.mem_singleton] at hc'
    rcases hc' with hc' | rfl
    · rw [hj.dev, hj.old c' hc']
      exact h.mirror d hd c' hc' (by simp)
    · -- nobody lists a client that was not there
      rw [hj.dev, hj.devices]
      simpa using fun hMem => hj.fresh (h.wellFormed.clientsKnown d hd c' hMem)
  freed d hd := by
    rw [hj.dev]
    exact h.freed d (hj.gDevices ▸ hd)

theorem Mirrored.log (h : Mirrored none s) (e : Effect) : Mirrored none (s.log e) :=
  ⟨h.wellFormed.log e, h.mirror, h.freed⟩

theorem Mirrored.weaken (h : Mirrored none s) (out : Option CliPtr) : Mirrored out s :=
  ⟨h.wellFormed, fun d hd c hc _ => h.mirror d hd c hc (by simp), h.freed⟩

/-- Once the expired client is dropped, the lists agree again. -/
theorem Mirrored.dropped (h : Mirrored (some c) s)
    (hGone : ∀ d ∈ s.gDevices, c ∉ (s.dev d).clientsConnected) :
    Mirrored none { s with gClients := s.gClients.erase c } where
  wellFormed := h.wellFormed.dropped hGone
  mirror d hd c' hc' _ := by
    obtain ⟨hNe, hMem⟩ := h.wellFormed.clients_nodup.mem_erase_iff.mp hc'
    exact h.mirror d hd c' hMem (by simpa using hNe)
  freed := h.freed

/-- **Call rule.** Every call keeps the two families of lists in agreement, but for those that
split them. -/
theorem mirrored_run (hAlloc : ∀ k, (w.malloc k).isSome) {o : Op} (h : Mirrored none s)
    (hApplies : o.Applies cfg s) (hP : ¬ Splits w o s) (hExpire : ∀ c d, o ≠ .expire c d) :
    Mirrored none (o.run w cfg s).2 := by
  cases o with
  | connect c d => exact mirrored_connect hAlloc h hApplies.1 hApplies.2
  | disconnect c d => exact mirrored_disconnect h hApplies.2 hP
  | isUp d => exact mirrored_alterToUp h hApplies
  | isDown d => exact mirrored_alterToDown h hApplies
  | forceDown d => exact mirrored_forceDown h hApplies hP
  | timeout d => exact mirrored_timeout hApplies.2 h hApplies.1
  | expire c d => exact absurd rfl (hExpire c d)

/-- They agree along every run without such a call; in the middle of an expiry, but for the
client that is being removed. -/
theorem mirrored_kept (hAlloc : ∀ k, (w.malloc k).isSome) :
    Kept w cfg (fun o s => ¬ Splits w o s) (Mirrored none) (fun c => Mirrored (some c)) where
  wellFormed h := h.wellFormed
  quiet hq h := h.quiet hq
  joined hj h := h.joined hj
  op h hApplies hP hExpire := mirrored_run hAlloc h hApplies hP hExpire
  expired _ _ h := (h.log _).weaken _
  expiring h := h.wellFormed
  expire h _ hd _ _ := by
    rw [removeClientFromDevice_snd]
    exact mirrored_expire h hd
  expireFailed := by
    -- only a failure that is not ignored ends the sweep, and those are the splits
    intro c d s _ _ _ hP hFail
    exfalso
    unfold removeClientFromDevice at hFail
    dsimp only at hFail
    split at hFail
    · rename_i hWhy
      obtain ⟨hLast, hWhy'⟩ := disconnect_fails hWhy.1
      refine hP ⟨hLast, hWhy'.imp And.left fun hLaunch => ⟨hLaunch.1, ?_⟩⟩
      exact hLaunch.2 ▸ hWhy.2
    · exact absurd hFail (by simp)
  dropped h _ hGone := h.dropped hGone

/-- **The two membership lists agree**, for every known client and device, in any run in
which memory suffices, the force-down command never exits with a positive status when
FORCE_DOWN asks for it, and hanging up for the last client never fails. -/
theorem lists_agree (w : World) (cfg : Config) (sections : List DeviceSection)
    (es : List Event) (hAlloc : ∀ k, (w.malloc k).isSome)
    (hCalls : Runs.Along (fun e s => (step w cfg e s).2)
      (StepCalls w cfg fun o s => ¬ Splits w o s) es (boot w sections)) :
    let s := serverRun w cfg es (boot w sections)
    ∀ d ∈ s.gDevices, ∀ c ∈ s.gClients,
      (c ∈ (s.dev d).clientsConnected ↔ d ∈ (s.cli c).devicesConnected) := by
  have hStart := booted_boot w sections
  have h : Mirrored none (serverRun w cfg es (boot w sections)) :=
    (mirrored_kept hAlloc).run ⟨hStart.wellFormed, fun d _ c hc => by simp [hStart.gClients] at hc,
      fun d hd _ => hStart.clients d hd⟩ hCalls
  exact fun d hd c hc => h.mirror d hd c hc (by simp)

/-- A link is used by two clients, one leaves and the other expires. -/
theorem lists_agree_expiry :
    let w := calmWorld 700 []
    let s := serverRun w defaultConfig [aboutPpp clientUp 1, aboutPpp clientUp 2,
      noticeAboutPpp notifyIsup, aboutPpp clientDown 2, aboutPpp clientStatus 2,
      .timeoutOldClients] (boot w [pppSection])
    ∀ d ∈ s.gDevices, ∀ c ∈ s.gClients,
      (c ∈ (s.dev d).clientsConnected ↔ d ∈ (s.cli c).devicesConnected) :=
  lists_agree _ _ _ _ (fun _ => rfl) (by decide +kernel)

/-- FORCE_DOWN with a force-down command that exits with 1 (`system ()` returns 256):
the device lists nobody, and the client goes on listing the device. -/
theorem lists_disagree :
    let w := calmWorld 0 [0, 256]
    let s := serverRun w defaultConfig [aboutPpp clientUp 1, aboutPpp clientForceDown 1]
      (boot w [pppSection])
    0 ∈ s.gDevices ∧ ∃ c ∈ s.gClients,
      c ∉ (s.dev 0).clientsConnected ∧ 0 ∈ (s.cli c).devicesConnected := by
  decide +kernel

end LinkControl
