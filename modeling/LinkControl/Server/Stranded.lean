import LinkControl.Server.Local

/-!
# Link server — stranded clients

A client that is recorded at a device which is down or hanging up is stranded:
`connect_client_to_device` dials only for the first client of a device, so its next
UP request changes nothing.

`link_force_down` takes the clients off a device only when the command returned
exactly 0, while `alter_device_status` takes any result that is not negative for
success. Two paths to `LINK_DOWN` rely on it alone: ISDOWN, and the last retry
(`Strands`). Every other path leaves a served device served (`served_run`).
-/

namespace LinkControl

open ReturnCode

variable {w : World} {cfg : Config} {d : DevPtr} {s : State}

/-- A device with clients is up or about to be. -/
def Served (d : DevPtr) (s : State) : Prop :=
  (s.dev d).clientsConnected ≠ [] → (s.dev d).status = .connecting ∨ (s.dev d).status = .up

/-- The call takes a device with clients down, and the force-down command exits with
a positive status. -/
def Strands (w : World) (o : Op) (s : State) : Prop :=
  match o with
  | .isDown d => (s.dev d).clientsConnected ≠ [] ∧ 0 < launchResult w s
  | .timeout d => (s.dev d).clientsConnected ≠ [] ∧ 0 < launchResult w s ∧
      (s.dev d).status = .connecting ∧ (s.dev d).retries < 0
  | _ => False

instance (w : World) (s : State) : ∀ o, Decidable (Strands w o s)
  | .isDown _ | .timeout _ => inferInstanceAs (Decidable (_ ∧ _))
  | .connect _ _ | .disconnect _ _ | .expire _ _ | .isUp _ | .forceDown _ => isFalse id

/-- It is a matter of the device alone. -/
theorem local_served : Local Served := by
  intro d s s' hDev _ _ h
  rw [Served, hDev]
  exact h

theorem served_of_free (h : (s.dev d).clientsConnected = []) : Served d s :=
  fun hClients => absurd h hClients

theorem served_of_connecting (h : (s.dev d).status = .connecting) : Served d s :=
  fun _ => Or.inl h

-- ---------------------------------------------------------------------------
-- Every call
-- ---------------------------------------------------------------------------

/-- Taking a device down, unless its command exits with a positive status. -/
theorem served_alterToDown (h : Served d s)
    (hP : ¬ ((s.dev d).clientsConnected ≠ [] ∧ 0 < launchResult w s)) :
    Served d (alterToDown w d s).2 := by
  rcases alterToDown_cases w d s with ⟨hStatus, hEq⟩ | ⟨-, -, hEq⟩ | ⟨-, hLaunch, hEq⟩ <;> rw [hEq]
  · -- a device that is hanging up has no clients to strand
    refine served_of_free ?_
    by_contra hClients
    have := h (by simpa using hClients)
    simp [hStatus] at this
  · intro hClients
    have hKept : (s.dev d).clientsConnected ≠ [] := by
      intro hNil
      exact hClients (List.eq_nil_of_sublist_nil (hNil ▸ (touched_forcedDown w d s).clients))
    simpa using h hKept
  · refine served_of_free ?_
    rw [State.setStatus_dev, Function.update_self, forcedDown_clients]
    split
    · rfl
    · by_contra hClients
      exact hP ⟨hClients, by omega⟩

/-- Whoever connects has the device dialled, or finds it dialled. -/
theorem served_connect (hRetries : 0 ≤ cfg.gRetries) (c : CliPtr) (h : Served d s) :
    Served d (connectClientToDevice w cfg c d s).2 := by
  have hNote : ∀ {s : State}, (s.dev d).status = .connecting ∨ (s.dev d).status = .up →
      Served d (noteClient w c d s).2 := fun {s} hStatus _ => by
    rwa [(noted_noteClient w c d s).status]
  -- where the dial fails, nobody was there before
  have hFailed : ∀ {s'}, Touched d (s.setRetries d cfg.gRetries) s' →
      (s.dev d).clientsConnected = [] → Served d s' := fun ht hFree =>
    served_of_free (List.eq_nil_of_sublist_nil
      (hFree ▸ ((touched_setRetries d s cfg.gRetries).trans ht).clients))
  rcases connect_cases hRetries w c d s with ⟨hClients, hEq⟩ | ⟨hFree, -, hEq⟩ |
    ⟨hFree, -, -, hEq⟩ | ⟨hFree, -, -, -, hEq⟩ | ⟨-, -, -, -, hEq⟩ <;> rw [hEq]
  · exact hNote (h hClients)
  · exact hFailed (touched_setErrno d _ _) hFree
  · exact hFailed (touched_forcedDown w d _) hFree
  · exact hFailed ((touched_readied w cfg d _).trans (touched_undialled w d _)) hFree
  · exact hNote (Or.inl (by simp))

/-- Hanging up clears the list first. -/
theorem served_disconnect (c : CliPtr) (h : Served d s) :
    Served d (disconnectClientFromDevice w cfg c d s).2 := by
  have ht := touched_disconnectClientFromDevice w cfg d s c
  by_cases hLast : (s.dev d).clientsConnected = [c]
  · -- the only client goes, whatever becomes of the link
    refine served_of_free ?_
    have hGone := disconnectClientFromDevice_gone w cfg c d (s := s) (by simp [hLast])
    have hSub := ht.clients
    rw [hLast] at hSub
    rcases List.sublist_singleton.mp hSub with hNil | hSame
    · exact hNil
    · rw [hSame] at hGone
      exact absurd (List.mem_singleton_self c) hGone
  · intro hClients
    have hKept : (s.dev d).clientsConnected ≠ [] := by
      intro hNil
      exact hClients (List.eq_nil_of_sublist_nil (hNil ▸ ht.clients))
    rcases disconnectClientFromDevice_cases w cfg c d s with ⟨-, hEq⟩ | ⟨-, -, hEq⟩ |
      ⟨hOne, -⟩ | ⟨hOne, -⟩ | ⟨hOne, -⟩ | ⟨hOne, -⟩
    · simpa [hEq] using h hKept
    · simpa [hEq] using h hKept
    all_goals exact absurd hOne hLast

/-- A device that is given up loses its clients, unless the force-down command exits with a
positive status. -/
theorem served_timeout (hDue : Due cfg d s) (h : Served d s)
    (hP : ¬ Strands w (.timeout d) s) : Served d ((Op.timeout d).run w cfg s).2 := by
  have hFree : (s.dev d).status = .disconnecting → (s.dev d).clientsConnected = [] := by
    intro hStatus
    by_contra hClients
    have := h hClients
    simp [hStatus] at this
  have ht : Touched d s ((Op.timeout d).run w cfg s).2 :=
    touched_alterDeviceStatus w cfg d s (s.dev d).status
  rcases timeout_cases w hDue with ⟨hStatus, -, -, hEq⟩ | ⟨hStatus, hNone, hLaunch, hEq⟩ |
    ⟨hStatus, -, -, hEq⟩ | ⟨hStatus, -, -, hEq⟩ | ⟨hStatus, -⟩ | ⟨hStatus, -⟩
  · exact hEq ▸ served_of_connecting (by simpa using hStatus)
  · -- the last retry: the clients go exactly when the command returned 0
    rw [hEq]
    refine served_of_free ?_
    rw [State.setStatus_dev, Function.update_self, forcedDown_clients]
    split
    · rfl
    · rename_i hNot
      by_contra hClients
      refine hP ⟨by simpa using hClients, ?_, hStatus, hNone⟩
      rw [launchResult_exhausted] at hNot
      omega
  · exact hEq ▸ served_of_connecting (by simpa using hStatus)
  · exact hEq ▸ served_of_connecting (by simp)
  all_goals exact served_of_free (List.eq_nil_of_sublist_nil (hFree hStatus ▸ ht.clients))

/-- **Call rule.** Every call that strands nobody keeps the clients served. -/
theorem served_run (hRetries : 0 ≤ cfg.gRetries) {o : Op} (h : Served o.device s)
    (hApplies : o.Applies cfg s) (hP : ¬ Strands w o s) :
    Served o.device (o.run w cfg s).2 := by
  cases o with
  | connect c d => exact served_connect hRetries c h
  | disconnect c d => exact served_disconnect c h
  | expire c d =>
    rw [run_expire]
    exact served_disconnect c h
  | isUp d =>
    rw [run_isUp]
    rcases alterToUp_cases w d s with ⟨-, hEq⟩ | ⟨-, hEq⟩ <;> rw [hEq]
    · exact h
    · exact fun _ => Or.inr (by simp [Op.device])
  | isDown d => exact served_alterToDown h hP
  | forceDown d =>
    -- when the transition works the client list is emptied once more
    dsimp only [Op.device] at h ⊢
    rcases forceDown_cases w cfg d s with ⟨-, hEq⟩ | ⟨-, hLaunch, hEq⟩ | ⟨-, -, hEq⟩ <;> rw [hEq]
    · exact served_of_free (by simp)
    · intro hClients
      rw [forcedDown_clients, if_neg hLaunch.ne] at hClients
      simpa using h hClients
    · exact served_of_free (by simp)
  | timeout d => exact served_timeout hApplies.2 h hP

/-- Along runs in which no call strands a client, no client is stranded. -/
theorem served_kept (hRetries : 0 ≤ cfg.gRetries) :
    Kept w cfg (fun o s => ¬ Strands w o s) (Everywhere Served) (fun _ => Everywhere Served) :=
  Kept.ofLocal local_served fun h hApplies hP =>
    served_run hRetries (h.all _ hApplies.device_mem) hApplies hP

/-- **No client is stranded**, in any run in which the force-down command never exits
with a positive status when ISDOWN or the last retry takes a device with clients
down. -/
theorem no_client_stranded (w : World) (cfg : Config) (sections : List DeviceSection)
    (es : List Event) (hRetries : 0 ≤ cfg.gRetries)
    (hCalls : Runs.Along (fun e s => (step w cfg e s).2)
      (StepCalls w cfg fun o s => ¬ Strands w o s) es (boot w sections)) :
    let s := serverRun w cfg es (boot w sections)
    ∀ d ∈ s.gDevices, (s.dev d).clientsConnected ≠ [] →
      (s.dev d).status = .connecting ∨ (s.dev d).status = .up :=
  ((served_kept hRetries).run
    ((booted_boot w sections).everywhere fun _ _ hFree _ => served_of_free hFree) hCalls).all

/-- Two clients, one of which leaves, and a device that goes down by itself. -/
theorem no_client_stranded_isdown :
    let es := [aboutPpp clientUp 1, aboutPpp clientUp 2, noticeAboutPpp notifyIsup,
      aboutPpp clientDown 1, noticeAboutPpp notifyIsdown]
    let s := serverRun (calmWorld 1 []) defaultConfig es (boot (calmWorld 1 []) [pppSection])
    ∀ d ∈ s.gDevices, (s.dev d).clientsConnected ≠ [] →
      (s.dev d).status = .connecting ∨ (s.dev d).status = .up :=
  no_client_stranded _ _ _ _ (by decide) (by decide +kernel)

/-- The link is up for a client, the peer says it is down, and the force-down command
exits with 1 (`system ()` returns 256): the device is down and the client stays. -/
theorem client_stranded :
    let w := calmWorld 0 [0, 256]
    let s := serverRun w defaultConfig
      [aboutPpp clientUp 1, noticeAboutPpp notifyIsup, noticeAboutPpp notifyIsdown]
      (boot w [pppSection])
    0 ∈ s.gDevices ∧ (s.dev 0).clientsConnected ≠ [] ∧
      ¬ ((s.dev 0).status = .connecting ∨ (s.dev 0).status = .up) := by
  decide +kernel

end LinkControl
