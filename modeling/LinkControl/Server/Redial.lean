import LinkControl.Server.Local

/-!
# Link server — bounded redialling

While a device is connecting, the dials made in this phase and the retries left add up
to `g_retries` (`Budget`), and the retries never fall below -1; so a phase has at most
`g_retries + 1` dials, and exactly that many when the connect timeout ends it.

What makes the sum work is that a connecting device has a client:
`connect_client_to_device` resets the retries when it finds the client list empty. It
dials before it allocates the cell for the client, so when that allocation fails
(`Unnoted`) the device is left connecting for nobody, and the next UP starts over.
-/

namespace LinkControl

open ReturnCode

variable {w : World} {cfg : Config} {c : CliPtr} {d : DevPtr} {s s' : State}

/-- How often `link_up` called `system ()` since the device was last taken out of Connecting, or
since the server started. In a connecting device these are the dials of the phase it
is in, the one that entered it included. A device without a command is dialled in the same
way, only that nothing is run. -/
def dials : List Effect → Nat
  | [] => 0
  | .ran _ _ .linkUp _ :: rest => dials rest + 1
  | .ran _ _ .linkDown _ :: rest | .ran _ _ .linkForceDown _ :: rest => dials rest
  | .status _ _ .connecting .connecting :: rest => dials rest
  | .status _ _ .connecting _ :: _ => 0
  | .status _ _ _ _ :: rest => dials rest
  | .gaveUp _ _ :: rest | .expired _ _ :: rest => dials rest

/-- At every moment of the past, the phase had at most `n + 1` dials. -/
def Bounded (n : Int) (past : List Effect) : Prop :=
  ∀ h, h <:+ past → (dials h : Int) ≤ n + 1

/-- No phase had more than `n + 1` dials, and there were none outside of a phase. -/
structure Counted (n : Int) (d : DevPtr) (s : State) : Prop where
  idle : (s.dev d).status ≠ .connecting → dials (history d s) = 0
  bounded : Bounded n (history d s)

/-- A connecting device has a client, and its dials and its retries add up to `n`. -/
structure Budget (n : Int) (d : DevPtr) (s : State) : Prop extends Counted n d s where
  clients : (s.dev d).status = .connecting → (s.dev d).clientsConnected ≠ []
  spent : (s.dev d).status = .connecting →
    dials (history d s) + (s.dev d).retries = n ∧ -1 ≤ (s.dev d).retries

/-- The device is dialled for a client, and there is no memory to note the client. -/
def Unnoted (w : World) (o : Op) (s : State) : Prop :=
  match o with
  | .connect _ d => (s.dev d).clientsConnected = [] ∧ (s.dev d).status ≠ .up ∧
      w.malloc s.mallocs = none
  | _ => False

instance (w : World) (s : State) : ∀ o, Decidable (Unnoted w o s)
  | .connect _ _ => inferInstanceAs (Decidable (_ ∧ _))
  | .disconnect _ _ | .expire _ _ | .isUp _ | .isDown _ | .forceDown _ | .timeout _ => isFalse id

-- ---------------------------------------------------------------------------
-- Counting
-- ---------------------------------------------------------------------------

/-- One more entry: the count so far stays within the bound, and so did all before it. -/
theorem bounded_cons {n : Int} {e : Effect} {past : List Effect} :
    Bounded n (e :: past) ↔ (dials (e :: past) : Int) ≤ n + 1 ∧ Bounded n past := by
  constructor
  · exact fun h => ⟨h _ (List.suffix_refl _), fun h' hSuffix =>
      h h' (hSuffix.trans (List.suffix_cons e past))⟩
  · intro h' h hSuffix
    obtain ⟨hNow, hPast⟩ := h'
    rcases List.suffix_cons_iff.mp hSuffix with rfl | hSuffix
    · exact hNow
    · exact hPast h hSuffix

/-- Only `link_up` dials. -/
@[simp] theorem dials_ran {t : Int} {command : Command} {r : Int} {past : List Effect} :
    dials (.ran t d command r :: past) =
      dials past + if command = .linkUp then 1 else 0 := by
  cases command <;> simp [dials]

@[simp] theorem dials_gaveUp {t : Int} {past : List Effect} :
    dials (.gaveUp t d :: past) = dials past := rfl

/-- Leaving Connecting ends the count; dialling again does not. -/
@[simp] theorem dials_status {t : Int} {old new : DeviceStatus} {past : List Effect} :
    dials (.status t d old new :: past) =
      if old = .connecting ∧ new ≠ .connecting then 0 else dials past := by
  cases old <;> cases new <;> simp [dials]

/-- The budget is a matter of the device and its past. -/
theorem local_budget (n : Int) : Local (Budget n) := by
  intro d s s' hDev hHistory _ h
  exact ⟨⟨by rw [hDev, hHistory]; exact h.idle, hHistory ▸ h.bounded⟩, hDev ▸ h.clients,
    by rw [hDev, hHistory]; exact h.spent⟩

section Calls

variable {n : Int}

namespace Counted

/-- In every phase so far there is room for the dials there were. -/
theorem dials_le (h : Counted n d s) : (dials (history d s) : Int) ≤ n + 1 :=
  h.bounded _ (List.suffix_refl _)

theorem setClientsConnected (h : Counted n d s) (pp : List CliPtr) :
    Counted n d (s.setClientsConnected d pp) :=
  ⟨by simpa using h.idle, h.bounded⟩

/-- A command other than a dial does not count. -/
theorem ran (h : Counted n d s) {e : Effect} (hHistory : history d s' = e :: history d s)
    (hDials : dials (e :: history d s) = dials (history d s))
    (hStatus : (s'.dev d).status = (s.dev d).status) : Counted n d s' := by
  refine ⟨by rw [hHistory, hDials, hStatus]; exact h.idle, ?_⟩
  rw [hHistory, bounded_cons, hDials]
  exact ⟨h.dials_le, h.bounded⟩

/-- Killing the connection does not count as a dial. -/
theorem forcedDown (h : Counted n d s) : Counted n d (LinkControl.forcedDown w d s) :=
  h.ran (history_forcedDown w d s) (by simp) (forcedDown_status w d s)

/-- Hanging up does not count as a dial. -/
theorem hungUp (h : Counted n d s) : Counted n d (LinkControl.hungUp w d s) := by
  refine h.ran (history_hungUp w d s) ?_ (hungUp_status w d s)
  rw [dials_ran]
  split <;> simp_all

/-- Giving up does not count as a dial. -/
theorem exhausted (h : Counted n d s) : Counted n d (LinkControl.exhausted d s) :=
  h.ran (history_exhausted d s) (by simp) (exhausted_status d s)

/-- Outside of a phase there is nothing more to ask for. -/
theorem budget (h : Counted n d s) (hStatus : (s.dev d).status ≠ .connecting) : Budget n d s :=
  ⟨h, fun hSt => absurd hSt hStatus, fun hSt => absurd hSt hStatus⟩

/-- Assigning a status other than Connecting ends the phase. -/
theorem setStatus (h : Counted n d s) (hn : 0 ≤ n) {st : DeviceStatus} (hst : st ≠ .connecting) :
    Budget n d (s.setStatus d st) := by
  have hDials : dials (history d (s.setStatus d st)) = 0 := by
    rw [history_setStatus, dials_status]
    split
    · rfl
    · rename_i hNot
      exact h.idle fun hOld => hNot ⟨hOld, hst⟩
  refine Counted.budget ⟨fun _ => hDials, ?_⟩ (by simpa using hst)
  rw [history_setStatus] at hDials ⊢
  rw [bounded_cons, hDials]
  exact ⟨by omega, h.bounded⟩

end Counted

/-- A change that leaves the status, the retries and the past alone, and does not take
the last client away. -/
theorem Budget.same (h : Budget n d s) (hStatus : (s'.dev d).status = (s.dev d).status)
    (hRetries : (s'.dev d).retries = (s.dev d).retries)
    (hHistory : history d s' = history d s)
    (hClients : (s'.dev d).clientsConnected = [] → (s.dev d).clientsConnected = []) :
    Budget n d s' := by
  refine ⟨⟨?_, hHistory ▸ h.bounded⟩, fun hSt => ?_, ?_⟩
  · rw [hStatus, hHistory]
    exact h.idle
  · exact mt hClients (h.clients (hStatus ▸ hSt))
  · rw [hStatus, hRetries, hHistory]
    exact h.spent

/-- A dial: one more in the past, one retry fewer. -/
theorem dialled_spent (hDials : dials (history d s) + (s.dev d).retries = n)
    (hRetries : 0 ≤ (s.dev d).retries) (hBounded : Bounded n (history d s)) :
    dials (history d (dialled w d s)) + ((dialled w d s).dev d).retries = n ∧
      -1 ≤ ((dialled w d s).dev d).retries ∧ Bounded n (history d (dialled w d s)) := by
  have hCount : dials (history d (dialled w d s)) = dials (history d s) + 1 := by
    rw [history_dialled, dials_status, if_neg (by simp), dials_ran, if_pos rfl]
  refine ⟨by rw [hCount, dialled_retries]; omega, by rw [dialled_retries]; omega, ?_⟩
  rw [history_dialled] at hCount ⊢
  rw [bounded_cons, bounded_cons, hCount, dials_ran, if_pos rfl]
  exact ⟨by omega, by omega, hBounded⟩

-- ---------------------------------------------------------------------------
-- Every call
-- ---------------------------------------------------------------------------

/-- Noting a client spends nothing. -/
theorem budget_noteClient (h : Budget n d s) : Budget n d (noteClient w c d s).2 :=
  have hNoted := noted_noteClient w c d s
  h.same hNoted.status hNoted.retries (history_noteClient w c d s) hNoted.clients

/-- The first client of a device starts a new phase. -/
theorem budget_dial (hRetries : 0 ≤ cfg.gRetries) (h : Budget cfg.gRetries d s)
    (hIdle : (s.dev d).status ≠ .connecting)
    (hMemory : w.malloc s.mallocs ≠ none) :
    Budget cfg.gRetries d (noteClient w c d
      (dialled w d (readied w cfg d (s.setRetries d cfg.gRetries)))).2 := by
  set s₀ := s.setRetries d cfg.gRetries with hs₀
  set s₁ := readied w cfg d s₀ with hs₁
  have hPast : dials (history d s₁) = 0 ∧ Bounded cfg.gRetries (history d s₁) := by
    have h₀ := h.idle hIdle
    rw [hs₁, history_readied]
    split
    · rw [bounded_cons, dials_ran, if_neg (by simp)]
      exact ⟨h₀, by rw [hs₀, history_setRetries, h₀]; omega, h.bounded⟩
    · exact ⟨h₀, h.bounded⟩
  have hLeft : (s₁.dev d).retries = cfg.gRetries := by simp [hs₁]
  obtain ⟨hSpent, hLow, hBounded⟩ := dialled_spent (w := w) (s := s₁) (n := cfg.gRetries)
    (by omega) (by omega) hPast.2
  have hNoted := noted_noteClient w c d (dialled w d s₁)
  have hHistory := history_noteClient w c d (dialled w d s₁)
  have hMallocs : (dialled w d s₁).mallocs = s.mallocs :=
    (touched_dialled w d s₁).mallocs.trans (touched_readied w cfg d s₀).mallocs
  refine ⟨⟨fun hSt => ?_, hHistory ▸ hBounded⟩,
    fun _ => noteClient_clients c d (hMallocs ▸ hMemory), fun _ => ?_⟩
  · exact absurd (hNoted.status.trans (dialled_status w d s₁)) hSt
  · rw [hHistory, hNoted.retries]
    exact ⟨hSpent, hLow⟩

/-- A client that connects joins the phase, or starts one if it is the first and can be noted.
-/
theorem budget_connect (hRetries : 0 ≤ cfg.gRetries) (hLaunch : ∀ s, 0 ≤ launchResult w s)
    (h : Budget cfg.gRetries d s) (hP : ¬ Unnoted w (.connect c d) s) :
    Budget cfg.gRetries d (connectClientToDevice w cfg c d s).2 := by
  have hIdle : (s.dev d).clientsConnected = [] → (s.dev d).status ≠ .connecting :=
    fun hFree hSt => h.clients hSt hFree
  rcases connect_cases hRetries w c d s with ⟨-, hEq⟩ | ⟨hFree, -, hEq⟩ | ⟨-, -, hFail, -⟩ |
    ⟨-, -, hFail, -⟩ | ⟨hFree, hNotUp, -, -, hEq⟩
  · exact hEq ▸ budget_noteClient h
  · rw [hEq]
    exact Counted.budget ⟨by simpa using h.idle, h.bounded⟩ (by simpa using hIdle hFree)
  · exact absurd (hLaunch _) (Int.not_le.mpr hFail)
  · exact absurd (hLaunch _) (Int.not_le.mpr hFail)
  · rw [hEq]
    exact budget_dial hRetries h (hIdle hFree) fun hNone => hP ⟨hFree, hNotUp, hNone⟩

/-- The last client's departure ends the phase; any other leaves it as it is. -/
theorem budget_disconnect (hn : 0 ≤ n) (hLaunch : ∀ s, 0 ≤ launchResult w s)
    (h : Budget n d s) (c : CliPtr) :
    Budget n d (disconnectClientFromDevice w cfg c d s).2 := by
  have hForget : ∀ {s}, Budget n d s → Budget n d (forgetDevice d c s).2 := fun h =>
    h.same (by simp) (by simp) (by simp) (by simp)
  have hEmptied := h.setClientsConnected []
  rcases disconnectClientFromDevice_cases w cfg c d s with ⟨-, hEq⟩ | ⟨hc, hMore, hEq⟩ |
    ⟨-, hDown, hEq⟩ | ⟨-, -, hFail, -⟩ | ⟨-, -, -, hEq⟩ | ⟨-, -, -, hEq⟩
  · rw [hEq]
    exact hForget (h.same rfl rfl rfl id)
  · rw [hEq]
    refine hForget (h.same (by simp) (by simp) rfl fun hNil => ?_)
    rw [State.setClientsConnected_dev, Function.update_self, List.erase_eq_nil_iff] at hNil
    exact hNil.resolve_right hMore
  · rw [hEq]
    exact Counted.budget ⟨by simpa using h.idle, h.bounded⟩ (by simp [hDown])
  · exact absurd (hLaunch s) (Int.not_le.mpr hFail)
  · exact hEq ▸ hForget (hEmptied.forcedDown.setStatus hn (by simp))
  · exact hEq ▸ hForget (hEmptied.hungUp.setStatus hn (by simp))

/-- Going down ends the phase. -/
theorem budget_alterToDown (hn : 0 ≤ n) (hLaunch : ∀ s, 0 ≤ launchResult w s)
    (h : Budget n d s) : Budget n d (alterToDown w d s).2 := by
  rcases alterToDown_cases w d s with ⟨-, hEq⟩ | ⟨-, hFail, -⟩ | ⟨-, -, hEq⟩
  · exact hEq ▸ h.setStatus hn (by simp)
  · exact absurd (hLaunch s) (Int.not_le.mpr hFail)
  · exact hEq ▸ h.forcedDown.setStatus hn (by simp)

/-- A sweep dials once more while there are retries, and ends the phase when there are none. -/
theorem budget_timeout (hn : 0 ≤ n) (hLaunch : ∀ s, 0 ≤ launchResult w s) (hDue : Due cfg d s)
    (h : Budget n d s) : Budget n d ((Op.timeout d).run w cfg s).2 := by
  rcases timeout_cases w hDue with ⟨-, -, hFail, -⟩ | ⟨-, -, -, hEq⟩ | ⟨-, -, hFail, -⟩ |
    ⟨hStatus, hLeft, -, hEq⟩ | ⟨-, hFail, -⟩ | ⟨-, -, hEq⟩
  · exact absurd (hLaunch s) (Int.not_le.mpr hFail)
  · exact hEq ▸ h.exhausted.forcedDown.setStatus hn (by simp)
  · exact absurd (hLaunch s) (Int.not_le.mpr hFail)
  · obtain ⟨hSpent, hLow, hBounded⟩ :=
      dialled_spent (w := w) (h.spent hStatus).1 hLeft h.bounded
    rw [hEq]
    exact ⟨⟨by simp, hBounded⟩, fun _ => by simpa using h.clients hStatus,
      fun _ => ⟨hSpent, hLow⟩⟩
  · exact absurd (hLaunch s) (Int.not_le.mpr hFail)
  · exact hEq ▸ h.forcedDown.setStatus hn (by simp)

/-- **Call rule.** Every call keeps the budget of its device, if the client that it dials for
can be noted. -/
theorem budget_run (hRetries : 0 ≤ cfg.gRetries) (hLaunch : ∀ s, 0 ≤ launchResult w s)
    {o : Op} (h : Budget cfg.gRetries o.device s) (hApplies : o.Applies cfg s)
    (hP : ¬ Unnoted w o s) : Budget cfg.gRetries o.device (o.run w cfg s).2 := by
  cases o with
  | connect c d => exact budget_connect hRetries hLaunch h hP
  | disconnect c d => exact budget_disconnect hRetries hLaunch h c
  | expire c d =>
    rw [run_expire]
    exact budget_disconnect hRetries hLaunch h c
  | isUp d =>
    rw [run_isUp]
    rcases alterToUp_cases w d s with ⟨-, hEq⟩ | ⟨-, hEq⟩ <;> rw [hEq]
    · exact h.same rfl rfl rfl id
    · refine Counted.setStatus (s := setConnectTime w d s) ⟨?_, h.bounded⟩ hRetries (by simp)
      simpa [Op.device] using h.idle
  | isDown d => exact budget_alterToDown hRetries hLaunch h
  | forceDown d =>
    dsimp only [Op.device] at h ⊢
    rcases forceDown_cases w cfg d s with ⟨-, hEq⟩ | ⟨-, hFail, -⟩ | ⟨-, -, hEq⟩
    · have hDown := h.setStatus hRetries (show DeviceStatus.down ≠ .connecting by simp)
      exact hEq ▸ (hDown.setClientsConnected []).budget (by simp)
    · exact absurd (hLaunch s) (Int.not_le.mpr hFail)
    · have hDown := (h.forcedDown (w := w)).setStatus hRetries
        (show DeviceStatus.down ≠ .connecting by simp)
      exact hEq ▸ (hDown.setClientsConnected []).budget (by simp)
  | timeout d => exact budget_timeout hRetries hLaunch hApplies.2 h

end Calls

/-- A command that can be run gives `link_up` and its siblings no reason to fail. -/
theorem launchResult_nonneg (h : ∀ k, 0 ≤ (w.system k).result ∧ (w.system k).result ≠ 127)
    (s : State) : 0 ≤ launchResult w s := by
  unfold launchResult
  rw [if_neg (h s.commands).2]
  exact (h s.commands).1

/-- The budget holds along every run whose calls can all note their clients. -/
theorem budget_kept (hRetries : 0 ≤ cfg.gRetries)
    (hLaunch : ∀ s, 0 ≤ launchResult w s) :
    Kept w cfg (fun o s => ¬ Unnoted w o s) (Everywhere (Budget cfg.gRetries))
      (fun _ => Everywhere (Budget cfg.gRetries)) :=
  Kept.ofLocal (local_budget cfg.gRetries) fun h hApplies hP =>
    budget_run hRetries hLaunch (h.all _ hApplies.device_mem) hApplies hP

/-- A sweep that takes a device out of Connecting does so after `n + 1` dials, by giving
up and running the force-down command. -/
theorem Budget.timeout {n : Int} (h : Budget n d s) (hLaunch : ∀ s, 0 ≤ launchResult w s)
    (hDue : Due cfg d s) (hStatus : (s.dev d).status = .connecting)
    (hLeft : (((Op.timeout d).run w cfg s).2.dev d).status ≠ .connecting) :
    dials (history d s) = n + 1 ∧ (((Op.timeout d).run w cfg s).2.dev d).status = .down ∧
      ∃ t t' r, history d ((Op.timeout d).run w cfg s).2 = [.status t d .connecting .down,
        .ran t' d .linkForceDown r, .gaveUp t' d] ++ history d s := by
  rcases timeout_cases w hDue with ⟨-, -, hFail, -⟩ | ⟨-, hNone, -, hEq⟩ | ⟨-, -, hFail, -⟩ |
    ⟨-, -, -, hEq⟩ | ⟨hSt, -⟩ | ⟨hSt, -⟩
  · exact absurd (hLaunch s) (Int.not_le.mpr hFail)
  · obtain ⟨hSpent, hLow⟩ := h.spent hStatus
    rw [hEq]
    refine ⟨by omega, by simp, ?_⟩
    simp only [history_setStatus, history_forcedDown, history_exhausted, forcedDown_status,
      exhausted_status, hStatus]
    exact ⟨_, _, _, rfl⟩
  · exact absurd (hLaunch s) (Int.not_le.mpr hFail)
  · exact absurd (by rw [hEq]; simp) hLeft
  · simp [hStatus] at hSt
  · simp [hStatus] at hSt

/-- **Bounded redialling.** When every command can be run, and there is always memory
to note the client a device is dialled for, no phase of Connecting ever has more than
`n + 1` dials, there are none outside of these phases, and a phase that a sweep ends had
exactly `n + 1` of them before the force-down command took the device down. What is counted
are the calls of `system ()`, which are runs of the command for a device that has one. -/
theorem redials_bounded (w : World) (cfg : Config) (sections : List DeviceSection)
    (es : List Event) (hRetries : 0 ≤ cfg.gRetries)
    (hCommands : ∀ k, 0 ≤ (w.system k).result ∧ (w.system k).result ≠ 127)
    (hCalls : Runs.Along (fun e s => (step w cfg e s).2)
      (StepCalls w cfg fun o s => ¬ Unnoted w o s) es (boot w sections)) :
    let s := serverRun w cfg es (boot w sections)
    (∀ d ∈ s.gDevices, (∀ past, past <:+ history d s → (dials past : Int) ≤ cfg.gRetries + 1) ∧
      ((s.dev d).status ≠ .connecting → dials (history d s) = 0)) ∧
    Visits (timeoutOldDevice w cfg) (fun d s' =>
      let s'' := (timeoutOldDevice w cfg d s').2
      (s'.dev d).status = .connecting → (s''.dev d).status ≠ .connecting →
        dials (history d s') = cfg.gRetries + 1 ∧ (s''.dev d).status = .down ∧
        ∃ t t' r, history d s'' = [.status t d .connecting .down,
          .ran t' d .linkForceDown r, .gaveUp t' d] ++ history d s')
      s.gDevices (advance w s) := by
  intro s
  have hLaunch := launchResult_nonneg hCommands
  have hKept := budget_kept (w := w) hRetries hLaunch
  have hStart : Everywhere (Budget cfg.gRetries) (boot w sections) :=
    (booted_boot w sections).everywhere fun d hDown _ hPast =>
      Counted.budget ⟨fun _ => by rw [hPast, dials], by
        rw [hPast]
        intro past hSuffix
        rw [List.suffix_nil.mp hSuffix]
        simp [dials]
        omega⟩ (by simp [hDown])
  have h : Everywhere (Budget cfg.gRetries) s := hKept.run hStart hCalls
  refine ⟨fun d hd => ⟨(h.all d hd).bounded, (h.all d hd).idle⟩, ?_⟩
  have hNow : Everywhere (Budget cfg.gRetries) (advance w s) :=
    hKept.quiet (quiet_advance w s) h
  refine (hKept.visits_devices hNow (visits_of_forall ?_ _ _)).mono ?_
  · exact fun d s' _ hUnnoted => hUnnoted
  · intro d s' h s'' hStatus hLeft
    obtain ⟨hAt, hd, -⟩ := h
    have hBudget := (hKept.quiet (quiet_advance w s') hAt).all d hd
    by_cases hDue : Due cfg d (advance w s')
    · have hEq : s'' = ((Op.timeout d).run w cfg (advance w s')).2 :=
        timeoutOldDevice_snd_of_due w cfg hDue
      rw [hEq] at hLeft ⊢
      exact hBudget.timeout hLaunch hDue hStatus hLeft
    · have hq : Quiet s' s'' := (timeoutOldDevice_of_not_due w cfg hDue).2
      rw [hq.dev] at hLeft
      exact absurd hStatus hLeft

/-- Two clients come while a device is connecting, and nobody answers the modem: three
dials, and the fourth sweep gives up. -/
theorem redials_bounded_unanswered :
    let w := calmWorld 61 []
    let s := serverRun w defaultConfig [aboutPpp clientUp 1, aboutPpp clientUp 2,
      .timeoutOldDevices, .timeoutOldDevices, aboutPpp clientStatus 2] (boot w [pppSection])
    dials (history 0 s) = 3 ∧ (∀ past, past <:+ history 0 s → (dials past : Int) ≤ 2 + 1) :=
  ⟨by decide +kernel, ((redials_bounded (calmWorld 61 []) defaultConfig [pppSection] _
    (by decide) (fun k => by simp [calmWorld]) (by decide +kernel)).1 0 (by decide +kernel)).1⟩

/-- There is no memory to note the first client after the device was dialled for it, and
the next client starts over: four dials in one phase, with two retries. -/
theorem redials_unbounded :
    let w := { calmWorld 61 [] with malloc := fun k => if k = 3 then none else some k }
    let s := serverRun w defaultConfig [aboutPpp clientUp 1, aboutPpp clientUp 2,
      .timeoutOldDevices, .timeoutOldDevices] (boot w [pppSection])
    (s.dev 0).status = .connecting ∧ dials (history 0 s) = 4 ∧ defaultConfig.gRetries = 2 := by
  decide +kernel

end LinkControl
