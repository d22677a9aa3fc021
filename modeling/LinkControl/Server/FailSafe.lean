import LinkControl.Server.Requests

/-!
# Link server — FORCE_DOWN

FORCE_DOWN is documented as a fail-safe: it resets the clients of the device and issues
the command whatever the server takes the state of the device to be (`FailSafe`). It
takes the transition to `LINK_DOWN` that ISDOWN takes too, and that one issues no command
for a device that is disconnecting. The clients forget the device in `link_force_down`,
and only when the command returned 0; `process_client` empties the list of the device in
any case. And a device whose section sets no command has none to issue: `system (NULL)` runs
nothing. So an accepted FORCE_DOWN is a fail-safe exactly if the device has the command, it
was not disconnecting, and the command returned 0 or no client listed it
(`forceDown_fail_safe`).

## Results

* `clientRequest_forceDown` — an accepted FORCE_DOWN, by the status it meets.
* `failSafe_forced`         — what the command and its clean-up make of the lists.
* `forceDown_fail_safe`     — when an accepted FORCE_DOWN is a fail-safe.
-/

namespace LinkControl

open ReturnCode

variable {w : World} {cfg : Config} {cli : SockAddr} {c : CliPtr} {d : DevPtr}
  {s s₁ s' : State}

/-- The device has this command, and `system ()` was called with it between the two states. -/
def Issued (d : DevPtr) (command : Command) (s s' : State) : Prop :=
  ((s.dev d).command command).isSome ∧
    ∃ new, s'.trace = new ++ s.trace ∧ ∃ t r, .ran t d command r ∈ new

/-- The force-down command of the device was run between the two states, the device is
down and free, no client lists it, and all other devices are as before. -/
structure FailSafe (d : DevPtr) (s s' : State) : Prop where
  issued : Issued d .linkForceDown s s'
  status : (s'.dev d).status = .down
  clients : (s'.dev d).clientsConnected = []
  unlisted : ∀ c ∈ s'.gClients, d ∉ (s'.cli c).devicesConnected
  devices : s'.gDevices = s.gDevices
  other : ∀ d', d' ≠ d → s'.dev d' = s.dev d'
  elsewhere : ∀ d', d' ≠ d → ∀ c ∈ s'.gClients,
    (d' ∈ (s'.cli c).devicesConnected ↔ c ∈ s.gClients ∧ d' ∈ (s.cli c).devicesConnected)

/-- A FORCE_DOWN that is accepted takes the device down and empties its list: as it is
when the device was disconnecting, and else after the command has run. -/
theorem clientRequest_forceDown (h : WellFormed s) (hd : d ∈ s.gDevices)
    (hRet : (clientRequest w cfg c (clientForceDown ++ (s.dev d).deviceName) s).1 = 0) :
    ((s.dev d).status = .disconnecting ∧
      (clientRequest w cfg c (clientForceDown ++ (s.dev d).deviceName) s).2 =
        (s.setStatus d .down).setClientsConnected d []) ∨
    ((s.dev d).status ≠ .disconnecting ∧ 0 ≤ launchResult w s ∧
      (clientRequest w cfg c (clientForceDown ++ (s.dev d).deviceName) s).2 =
        ((forcedDown w d s).setStatus d .down).setClientsConnected d []) := by
  have hOp : clientOp c (clientForceDown ++ (s.dev d).deviceName) s = some (.forceDown d) := by
    rw [clientOp_forceDown, h.getDevice_of_mem hd]
    rfl
  rw [clientRequest_of_op w cfg hOp] at hRet ⊢
  rcases forceDown_cases w cfg d s with ⟨hStatus, hEq⟩ | ⟨-, -, hEq⟩ | ⟨hStatus, hLaunch, hEq⟩ <;>
    rw [hEq] at hRet ⊢
  · exact Or.inl ⟨hStatus, rfl⟩
  · exact absurd hRet (by simp [unlessFails])
  · exact Or.inr ⟨hStatus, hLaunch, rfl⟩

/-- The trace of a disconnecting device gains no command. -/
theorem not_failSafe_disconnecting (hTrace : s₁.trace = s.trace) :
    ¬ FailSafe d s ((s₁.setStatus d .down).setClientsConnected d []) := by
  intro h
  obtain ⟨-, new, hNew, t, r, hRan⟩ := h.issued
  have hOne : new = [.status s₁.clock d (s₁.dev d).status .down] := by
    have hSplit : [.status s₁.clock d (s₁.dev d).status .down] ++ s.trace = new ++ s.trace := by
      rw [← hNew, ← hTrace]
      rfl
    exact (List.append_cancel_right hSplit).symm
  simp [hOne] at hRan

/-- Once `system ()` has been called, the device is down and free. It is a matter of the device
whether that has run a command, and of the result and the lists whether some client still lists
it. -/
theorem failSafe_forced (hEntered : Entered w cli c s s₁) (hWF : WellFormed s₁) :
    FailSafe d s (((forcedDown w d s₁).setStatus d .down).setClientsConnected d []) ↔
      (s.dev d).linkForceDownCommand.isSome ∧
        (launchResult w s = 0 ∨ ∀ c ∈ s.gClients, d ∉ (s.cli c).devicesConnected) := by
  set s' := ((forcedDown w d s₁).setStatus d .down).setClientsConnected d [] with hs'
  have ht : Touched d s₁ s' := ((touched_forcedDown w d s₁).trans (touched_setStatus d _ _)).trans
    (touched_setClientsConnected d _ (List.nil_sublist _))
  have hLists : (∀ c' ∈ s'.gClients, d ∉ (s'.cli c').devicesConnected) ↔
      launchResult w s = 0 ∨ ∀ c' ∈ s.gClients, d ∉ (s.cli c').devicesConnected := by
    have hCli : ∀ c' ∈ s₁.gClients, s'.cli c' = if launchResult w s = 0 then
        { s₁.cli c' with devicesConnected := (s₁.cli c').devicesConnected.erase d }
        else s₁.cli c' := by
      intro c' hc'
      rw [← hEntered.launchResult]
      exact forcedDown_cli w d s₁ hWF.clients_nodup hc'
    by_cases hZero : launchResult w s = 0
    · refine iff_of_true (fun c' hc' => ?_) (Or.inl hZero)
      have hKnown := ht.gClients ▸ hc'
      rw [hCli c' hKnown, if_pos hZero]
      exact (hWF.devicesNodup c' hKnown).not_mem_erase
    · constructor
      · intro hNone
        refine Or.inr fun c' hc' hMem => ?_
        have hKnown : c' ∈ s₁.gClients := hEntered.mem_gClients.mpr (Or.inl hc')
        refine hNone c' (ht.gClients.symm ▸ hKnown) ?_
        rw [hCli c' hKnown, if_neg hZero]
        exact (hEntered.mem_devices hKnown).mpr ⟨hc', hMem⟩
      · intro hWhy c' hc' hMem
        have hKnown := ht.gClients ▸ hc'
        rw [hCli c' hKnown, if_neg hZero] at hMem
        obtain ⟨hOld, hListed⟩ := (hEntered.mem_devices hKnown).mp hMem
        rcases hWhy with hDone | hNone
        · exact hZero hDone
        · exact hNone c' hOld hListed
  constructor
  · exact fun h => ⟨h.issued.1, hLists.mp h.unlisted⟩
  · intro hWhy
    exact {
      issued := ⟨hWhy.1, [.status (forcedDown w d s₁).clock d (s₁.dev d).status .down,
          .ran s₁.clock d .linkForceDown (w.system s₁.commands).result],
        by simp [hs', hEntered.trace], s₁.clock, (w.system s₁.commands).result, by simp⟩
      status := by simp [hs']
      clients := by simp [hs']
      unlisted := hLists.mpr hWhy.2
      devices := ht.gDevices.trans hEntered.gDevices
      other := fun d' hOther => by rw [ht.other d' hOther, hEntered.dev]
      elsewhere := fun d' hOther c' hc' => by
        rw [ht.mem_devices hOther]
        exact hEntered.mem_devices (ht.gClients ▸ hc') }

/-- **FORCE_DOWN is a fail-safe** exactly if the device has a command for it, it meets the device
in any state but disconnecting, and the command returns 0 or no client lists the device. -/
theorem forceDown_fail_safe (w : World) (cfg : Config) (sections : List DeviceSection)
    (es : List Event) (cli : SockAddr) (d : DevPtr) :
    let s := serverRun w cfg es (boot w sections)
    let r := step w cfg (.client cli (clientForceDown ++ (s.dev d).deviceName)) s
    d ∈ s.gDevices → r.1 = 0 →
      (FailSafe d s r.2 ↔ (s.dev d).linkForceDownCommand.isSome ∧
        (s.dev d).status ≠ .disconnecting ∧ ((w.system s.commands).result = 0 ∨
          ∀ c ∈ s.gClients, d ∉ (s.cli c).devicesConnected)) := by
  intro s r hd hRet
  have hWF : WellFormed s := wellFormed_run w cfg sections es
  have hq : Quiet s (advance w s) := quiet_advance w s
  have hLive : ¬ s.crashed = true := by
    intro hCrashed
    have hr : r = (-1, s) := if_pos hCrashed
    rw [hr] at hRet
    exact absurd hRet (by simp)
  have hr : r = processClient w cfg cli (clientForceDown ++ (s.dev d).deviceName) (advance w s) :=
    if_neg hLive
  rcases processClient_cases w cfg cli (clientForceDown ++ (s.dev d).deviceName) (advance w s) with
    ⟨c, s₁, hEntered, hEq⟩ | ⟨s', hEq, -, -⟩
  · have hKept : Kept w cfg _ WellFormed _ := wellFormed_kept
    have hWF₁ : WellFormed s₁ := hEntered.kept hKept (hWF.quiet hq)
    have hDev : s₁.dev = s.dev := hEntered.dev
    have hd₁ : d ∈ s₁.gDevices := hEntered.gDevices.symm ▸ hd
    have hMoved : ∀ s', FailSafe d s s' ↔ FailSafe d (advance w s) s' := fun s' =>
      ⟨fun h => { h with }, fun h => { h with }⟩
    rw [hr, hEq] at hRet ⊢
    rw [← hDev] at hRet ⊢
    rcases clientRequest_forceDown hWF₁ hd₁ hRet with ⟨hStatus, hLeft⟩ | ⟨hStatus, -, hLeft⟩ <;>
      rw [hLeft]
    · refine iff_of_false (not_failSafe_disconnecting hEntered.trace) ?_
      exact fun h => h.2.1 hStatus
    · rw [hMoved, failSafe_forced hEntered hWF₁, hDev]
      refine and_congr_right fun _ => ?_
      exact Iff.trans (or_congr launchResult_eq_zero Iff.rfl)
        (and_iff_right (hDev ▸ hStatus)).symm
  · rw [hr, hEq] at hRet
    exact absurd hRet (by simp)

/-- A link that is up for one client is forced down by another. -/
theorem forceDown_fail_safe_up :
    let s := serverRun (calmWorld 1 []) defaultConfig
      [aboutPpp clientUp 1, noticeAboutPpp notifyIsup] (boot (calmWorld 1 []) [pppSection])
    FailSafe 0 s (step (calmWorld 1 []) defaultConfig
        (.client ⟨2, 1026⟩ (clientForceDown ++ (s.dev 0).deviceName)) s).2 ↔
      (s.dev 0).linkForceDownCommand.isSome ∧ (s.dev 0).status ≠ .disconnecting ∧
        (((calmWorld 1 []).system s.commands).result = 0 ∨
        ∀ c ∈ s.gClients, 0 ∉ (s.cli c).devicesConnected) :=
  forceDown_fail_safe (calmWorld 1 []) defaultConfig [pppSection] _ ⟨2, 1026⟩ 0 (by decide +kernel)
    (by decide +kernel)

/-- The last client of the link leaves and it is hanging up: FORCE_DOWN is accepted, and
no command is issued. -/
theorem forceDown_no_fail_safe :
    let s := serverRun (calmWorld 0 []) defaultConfig [aboutPpp clientUp 1, aboutPpp clientDown 1]
      (boot (calmWorld 0 []) [pppSection])
    let r := step (calmWorld 0 []) defaultConfig
      (.client ⟨2, 1026⟩ (clientForceDown ++ (s.dev 0).deviceName)) s
    0 ∈ s.gDevices ∧ r.1 = 0 ∧ ¬ FailSafe 0 s r.2 := by
  intro s r
  refine ⟨by decide +kernel, by decide +kernel, fun h => ?_⟩
  obtain ⟨-, new, hNew, t, result, hRan⟩ := h.issued
  have hTrace : ∃ e, r.2.trace = e :: s.trace ∧ ∀ t result, e ≠ .ran t 0 .linkForceDown result :=
    ⟨.status 1000 0 .disconnecting .down, by decide +kernel, nofun⟩
  obtain ⟨e, hOne, hNot⟩ := hTrace
  obtain rfl : [e] = new := List.append_cancel_right (hOne.symm.trans hNew)
  rw [List.mem_singleton] at hRan
  exact hNot t result hRan.symm

end LinkControl
