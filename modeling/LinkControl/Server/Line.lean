import LinkControl.Server.Local

/-!
# Link server — what the server makes its lines do

The server does not see its lines. All it can do is run commands, and what it takes a line to
be doing is the status of the device. Here a line is what the commands make of it (`Line`): one
that has been dialled is engaged, until it is hung up or killed, and a command that could not be
run makes no difference.

`status_follows_orders` compares the two. Whatever commands return, a device is connecting or up
exactly if its line is engaged, so that a line never stays engaged behind the back of the
server; and `link_down` is run for engaged lines only.
-/

namespace LinkControl

open ReturnCode

variable {w : World} {cfg : Config} {o : Op} {c : CliPtr} {d : DevPtr} {s s' : State}

/-- What a line does. -/
inductive Line where
  | engaged
  | free
deriving DecidableEq, Repr

/-- What a command makes a line do. -/
def Command.line : Command → Line
  | .linkUp => .engaged
  | .linkDown | .linkForceDown => .free

/-- `system ()` has run the command: it did not fail, and it found a shell. -/
def Launched (result : Int) : Prop := 0 ≤ result ∧ result ≠ 127

instance (result : Int) : Decidable (Launched result) := inferInstanceAs (Decidable (_ ∧ _))

/-- What the line does after what has been done with the device. -/
def lineAfter : List Effect → Line
  | [] => .free
  | .ran _ _ command result :: past => if Launched result then command.line else lineAfter past
  | .status .. :: past | .gaveUp .. :: past | .expired .. :: past => lineAfter past

/-- Each time `link_down` was tried, the line was engaged. -/
def HangsUpEngaged : List Effect → Prop
  | [] => True
  | .ran _ _ .linkDown _ :: past => lineAfter past = .engaged ∧ HangsUpEngaged past
  | .ran _ _ .linkUp _ :: past | .ran _ _ .linkForceDown _ :: past | .status .. :: past |
    .gaveUp .. :: past | .expired .. :: past => HangsUpEngaged past

/-- What holds of every hang-up holds of the earlier ones. -/
theorem HangsUpEngaged.past {x : Effect} {past : List Effect} (h : HangsUpEngaged (x :: past)) :
    HangsUpEngaged past := by
  cases x with
  | ran t d command result =>
    cases command with
    | linkDown => exact h.2
    | linkUp => exact h
    | linkForceDown => exact h
  | status t d old new => exact h
  | gaveUp t d => exact h
  | expired t a => exact h

/-- Where a past has a `link_down` in it, the line was engaged before. -/
theorem HangsUpEngaged.at_linkDown {newer older : List Effect} {t result : Int} {d : DevPtr}
    (h : HangsUpEngaged (newer ++ .ran t d .linkDown result :: older)) :
    lineAfter older = .engaged := by
  induction newer with
  | nil => exact h.1
  | cons x newer ih => exact ih h.past

/-- The device is connecting or up. -/
def Live (d : DevPtr) (s : State) : Prop :=
  (s.dev d).status = .connecting ∨ (s.dev d).status = .up

instance (d : DevPtr) (s : State) : Decidable (Live d s) := inferInstanceAs (Decidable (_ ∨ _))

/-- The status of the device is what its line does, and it was whenever the line was hung up. -/
structure Follows (d : DevPtr) (s : State) : Prop where
  live : Live d s ↔ lineAfter (history d s) = .engaged
  hangsUp : HangsUpEngaged (history d s)

-- ---------------------------------------------------------------------------
-- Commands that could be run
-- ---------------------------------------------------------------------------

/-- A command was launched when its launch does not report a failure. -/
theorem launched_iff (w : World) (s : State) :
    Launched (w.system s.commands).result ↔ 0 ≤ launchResult w s := by
  unfold Launched launchResult
  split <;> omega

theorem not_launched (h : launchResult w s < 0) : ¬ Launched (w.system s.commands).result := by
  rw [launched_iff]
  omega

theorem launched (h : 0 ≤ launchResult w s) : Launched (w.system s.commands).result :=
  (launched_iff w s).mpr h

-- ---------------------------------------------------------------------------
-- One call
-- ---------------------------------------------------------------------------

/-- It is a matter of the device and its past. -/
theorem local_follows : Local Follows := by
  intro d s s' hDev hHistory _ h
  exact ⟨by rw [Live, hDev, hHistory]; exact h.live, by rw [hHistory]; exact h.hangsUp⟩

/-- Nothing that matters has been done. -/
theorem Follows.same (h : Follows d s) (hStatus : (s'.dev d).status = (s.dev d).status)
    (hHistory : history d s' = history d s) : Follows d s' :=
  ⟨by rw [Live, hStatus, hHistory]; exact h.live, by rw [hHistory]; exact h.hangsUp⟩

/-- A device that is not live has a free line. -/
theorem Follows.free (h : Follows d s) (hNot : ¬ Live d s) : lineAfter (history d s) = .free := by
  have hLine := mt h.live.mpr hNot
  cases hAfter : lineAfter (history d s) with
  | engaged => exact absurd hAfter hLine
  | free => rfl

/-- Killing a line that could not be killed changes nothing. -/
theorem Follows.forcedDown_fails (h : Follows d s) (hFail : launchResult w s < 0) :
    Follows d (forcedDown w d s) := by
  refine ⟨?_, by simpa [HangsUpEngaged] using h.hangsUp⟩
  rw [Live, forcedDown_status, history_forcedDown, lineAfter, if_neg (not_launched hFail)]
  exact h.live

/-- A line that has been killed is free. -/
theorem Follows.forcedDown_line (h : Follows d s) (hLaunch : 0 ≤ launchResult w s) :
    lineAfter (history d (forcedDown w d s)) = .free ∧
      HangsUpEngaged (history d (forcedDown w d s)) := by
  rw [history_forcedDown, lineAfter, if_pos (launched hLaunch)]
  exact ⟨rfl, h.hangsUp⟩

/-- The line is free and the device is not live any more. -/
theorem follows_setStatus {st : DeviceStatus} (hLine : lineAfter (history d s) = .free)
    (hHangsUp : HangsUpEngaged (history d s)) (hStatus : st = .down ∨ st = .disconnecting) :
    Follows d (s.setStatus d st) := by
  refine ⟨?_, by simpa [HangsUpEngaged] using hHangsUp⟩
  rw [history_setStatus, lineAfter, hLine]
  rcases hStatus with rfl | rfl <;> simp [Live]

/-- A device that is killed and then down has a free line. -/
theorem Follows.killed (h : Follows d s) (hLaunch : 0 ≤ launchResult w s) :
    Follows d ((forcedDown w d s).setStatus d .down) :=
  follows_setStatus (h.forcedDown_line hLaunch).1 (h.forcedDown_line hLaunch).2 (Or.inl rfl)

/-- A dial that could be run engages the line. -/
theorem Follows.dialled (h : Follows d s) (hLaunch : 0 ≤ launchResult w s) :
    Follows d (dialled w d s) := by
  refine ⟨?_, by simpa [HangsUpEngaged] using h.hangsUp⟩
  rw [history_dialled, lineAfter, lineAfter, if_pos (launched hLaunch)]
  simp [Live, Command.line]

/-- A dial that could not be made leaves the line as it was. -/
theorem Follows.undialled (h : Follows d s) (hFail : launchResult w s < 0) :
    Follows d (undialled w d s) := by
  refine ⟨?_, by simpa [HangsUpEngaged] using h.hangsUp⟩
  rw [Live, undialled_status, history_undialled, lineAfter, if_neg (not_launched hFail)]
  exact h.live

/-- A device that is hanging up has its line killed before it is dialled again. -/
theorem Follows.readied (h : Follows d s)
    (hKilled : (s.dev d).status = .disconnecting → 0 ≤ launchResult w s) :
    Follows d (readied w cfg d s) := by
  refine ⟨?_, ?_⟩ <;> rw [history_readied]
  · rw [Live, readied_status]
    split
    · rename_i hHang
      rw [lineAfter, if_pos (launched (hKilled hHang))]
      simp [hHang, Command.line]
    · exact h.live
  · split
    · exact h.hangsUp
    · exact h.hangsUp

/-- Giving up is only noted. -/
theorem Follows.exhausted (h : Follows d s) : Follows d (exhausted d s) := by
  refine ⟨?_, by simpa [HangsUpEngaged] using h.hangsUp⟩
  rw [Live, exhausted_status, history_exhausted, lineAfter]
  exact h.live

/-- **Hanging up.** `link_down` is for a device that is up, and so for an engaged line. -/
theorem Follows.hungUp_hangsUp (h : Follows d s) : HangsUpEngaged (history d (hungUp w d s)) := by
  rw [history_hungUp]
  split
  · rename_i hUp
    exact ⟨h.live.mp (Or.inr hUp), h.hangsUp⟩
  · exact h.hangsUp

/-- Hanging up frees the line, once the command has been launched. -/
theorem Follows.hungUp_line (hLaunch : 0 ≤ launchResult w s) :
    lineAfter (history d (hungUp w d s)) = .free := by
  rw [history_hungUp, lineAfter, if_pos (launched hLaunch)]
  split <;> rfl

/-- A hang-up that could not be launched leaves the line as it was. -/
theorem Follows.hungUp_fails (h : Follows d s) (hFail : launchResult w s < 0) :
    Follows d (hungUp w d s) := by
  refine ⟨?_, h.hungUp_hangsUp⟩
  rw [Live, hungUp_status, history_hungUp, lineAfter, if_neg (not_launched hFail)]
  exact h.live

/-- The first client engages the line of a device that was free. -/
theorem follows_connect (hRetries : 0 ≤ cfg.gRetries) (c : CliPtr) (h : Follows d s) :
    Follows d (connectClientToDevice w cfg c d s).2 := by
  have hNote : ∀ {s₁}, Follows d s₁ → Follows d (noteClient w c d s₁).2 := fun h₁ =>
    h₁.same (noted_noteClient w c d _).status (history_noteClient w c d _)
  set s₀ := s.setRetries d cfg.gRetries with hs₀
  have hReset : Follows d s₀ := h.same (by simp [hs₀]) rfl
  have hStatus : (s₀.dev d).status = (s.dev d).status := by simp [hs₀]
  have hReadied : ((s.dev d).status = .disconnecting → 0 ≤ launchResult w s) →
      Follows d (readied w cfg d s₀) := fun hKilled => hReset.readied (hStatus ▸ hKilled)
  rcases connect_cases hRetries w c d s with ⟨-, hEq⟩ | ⟨-, -, hEq⟩ | ⟨-, -, hFail, hEq⟩ |
    ⟨-, -, hFail, hKilled, hEq⟩ | ⟨-, -, hLaunch, hKilled, hEq⟩ <;> rw [hEq]
  · exact hNote h
  · exact hReset.same rfl rfl
  · exact hReset.forcedDown_fails hFail
  · exact (hReadied hKilled).undialled hFail
  · exact hNote ((hReadied hKilled).dialled hLaunch)

/-- The last client frees it. -/
theorem follows_disconnect (c : CliPtr) (h : Follows d s) :
    Follows d (disconnectClientFromDevice w cfg c d s).2 := by
  have hForget : ∀ {s₁}, Follows d s₁ → Follows d (forgetDevice d c s₁).2 := fun h₁ =>
    h₁.same (by rw [forgetDevice_dev]) (history_forgetDevice c d _)
  set s₀ := s.setClientsConnected d [] with hs₀
  have hEmptied : Follows d s₀ := h.same (by simp [hs₀]) rfl
  rcases disconnectClientFromDevice_cases w cfg c d s with ⟨-, hEq⟩ | ⟨-, -, hEq⟩ |
    ⟨-, -, hEq⟩ | ⟨-, -, hFail, hEq⟩ | ⟨-, -, hLaunch, hEq⟩ | ⟨-, -, hLaunch, hEq⟩ <;> rw [hEq]
  · exact hForget (h.same rfl rfl)
  · exact hForget (h.same (by simp) rfl)
  · exact hEmptied.same rfl rfl
  · exact hEmptied.hungUp_fails hFail
  · exact hForget (hEmptied.killed hLaunch)
  · exact hForget (follows_setStatus (Follows.hungUp_line hLaunch) hEmptied.hungUp_hangsUp
      (Or.inr rfl))

theorem follows_alterToDown (h : Follows d s) : Follows d (alterToDown w d s).2 := by
  rcases alterToDown_cases w d s with ⟨hHang, hEq⟩ | ⟨-, hFail, hEq⟩ | ⟨-, hLaunch, hEq⟩ <;>
    rw [hEq]
  · exact follows_setStatus (h.free (by simp [Live, hHang])) h.hangsUp (Or.inl rfl)
  · exact h.forcedDown_fails hFail
  · exact h.killed hLaunch

/-- A sweep dials on an engaged line, or frees it. -/
theorem follows_timeout (hDue : Due cfg d s) (h : Follows d s) :
    Follows d ((Op.timeout d).run w cfg s).2 := by
  rcases timeout_cases w hDue with ⟨-, -, hFail, hEq⟩ | ⟨-, -, hLaunch, hEq⟩ |
    ⟨-, -, hFail, hEq⟩ | ⟨-, -, hLaunch, hEq⟩ | ⟨-, hFail, hEq⟩ | ⟨-, hLaunch, hEq⟩ <;> rw [hEq]
  · exact h.exhausted.forcedDown_fails hFail
  · exact h.exhausted.killed hLaunch
  · exact h.undialled hFail
  · exact h.dialled hLaunch
  · exact h.forcedDown_fails hFail
  · exact h.killed hLaunch

/-- **Call rule.** Every call keeps the status in step with the line. -/
theorem follows_run (hRetries : 0 ≤ cfg.gRetries) (h : Follows o.device s)
    (hApplies : o.Applies cfg s) : Follows o.device (o.run w cfg s).2 := by
  cases o with
  | connect c d => exact follows_connect hRetries c h
  | disconnect c d => exact follows_disconnect c h
  | expire c d =>
    rw [run_expire]
    exact follows_disconnect c h
  | isUp d =>
    rw [run_isUp]
    rcases alterToUp_cases w d s with ⟨-, hEq⟩ | ⟨hSt, hEq⟩ <;> rw [hEq]
    · exact h.same rfl rfl
    · -- the status changes, but the device is live before and after
      have hEngaged := h.live.mp (Or.inl hSt)
      refine ⟨?_, by simpa [Op.device, HangsUpEngaged] using h.hangsUp⟩
      simpa [Op.device, Live, lineAfter] using hEngaged
  | isDown d => exact follows_alterToDown h
  | forceDown d =>
    dsimp only [Op.device] at h ⊢
    rcases forceDown_cases w cfg d s with ⟨hHang, hEq⟩ | ⟨-, hFail, hEq⟩ | ⟨-, hLaunch, hEq⟩ <;>
      rw [hEq]
    · have hDown : Follows d (s.setStatus d .down) :=
        follows_setStatus (h.free (by simp [Live, hHang])) h.hangsUp (Or.inl rfl)
      exact hDown.same (by simp) rfl
    · exact h.forcedDown_fails hFail
    · exact (h.killed hLaunch).same (by simp) rfl
  | timeout d => exact follows_timeout hApplies.2 h

-- ---------------------------------------------------------------------------
-- Runs
-- ---------------------------------------------------------------------------

/-- Along all runs, statuses follow the lines. -/
theorem follows_kept (hRetries : 0 ≤ cfg.gRetries) :
    Kept w cfg (fun _ _ => True) (Everywhere Follows) (fun _ => Everywhere Follows) :=
  Kept.ofLocal local_follows fun h hApplies _ =>
    follows_run hRetries (h.all _ hApplies.device_mem) hApplies

/-- The command that should hang up `ppp0` for its last client cannot be run. -/
def stillUp : State :=
  serverRun (calmWorld 1 [0, -1]) defaultConfig
    [aboutPpp clientUp 1, noticeAboutPpp notifyIsup, aboutPpp clientDown 1]
    (boot (calmWorld 1 [0, -1]) [pppSection])

end LinkControl
