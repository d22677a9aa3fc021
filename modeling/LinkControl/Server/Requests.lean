import LinkControl.Server.Interest

/-!
# Link server — one message

What a single message does, in terms of its call. A client message first makes its
sender known (`Entered`): the client is found or added, its address is renewed, and
nothing else has changed when the branch of the message begins (`processClient_cases`).
A message then makes the call it names (`processClient_of_op`), or is quiet.
-/

namespace LinkControl

open ReturnCode CString

variable {w : World} {cfg : Config} {cli : SockAddr} {c : CliPtr} {d : DevPtr}
  {message name : CStr} {s s₁ s' : State}

/-- The sender has become client `c`, and the branch of its message is next: the client was
listed and has been renewed, or it has been added. -/
structure Entered (w : World) (cli : SockAddr) (c : CliPtr) (s s₁ : State) : Prop where
  path : Quiet s s₁ ∨ ∃ s', Joined c s s' ∧ Quiet s' s₁
  known : c ∈ s₁.gClients
  sa : (s₁.cli c).sa = cli
  heard : (s₁.cli c).lastHeardFrom = s₁.clock
  others : ∀ c' ∈ s.gClients, c' ≠ c → s₁.cli c' = s.cli c'
  commands : s₁.commands = s.commands
  mallocs : s.mallocs ≤ s₁.mallocs
  clock : s₁.clock = s.clock + w.tick s.ticks
  ticks : s₁.ticks = s.ticks + 1

-- ---------------------------------------------------------------------------
-- The sender
-- ---------------------------------------------------------------------------

/-- Looking for the sender takes no time. -/
theorem knownClient_clock (w : World) (cli : SockAddr) (s : State) :
    (knownClient w cli s).2.clock = s.clock ∧ (knownClient w cli s).2.ticks = s.ticks := by
  have hMalloc : ∀ s, (malloc w s).2.clock = s.clock ∧ (malloc w s).2.ticks = s.ticks := by
    intro s
    unfold malloc
    split <;> exact ⟨rfl, rfl⟩
  have hGet : ∀ pp addr s, (getClient pp addr s).2.clock = s.clock ∧
      (getClient pp addr s).2.ticks = s.ticks := by
    intro pp addr s
    unfold getClient
    split <;> exact ⟨rfl, rfl⟩
  have hAppend : ∀ pp p s, (appendCell w pp p s).2.clock = s.clock ∧
      (appendCell w pp p s).2.ticks = s.ticks := by
    intro pp p s
    have h := hMalloc s
    unfold appendCell
    split <;> rename_i hEq <;> rw [hEq] at h
    · exact h
    · split <;> exact h
  have hAdd : ∀ pp c s, (addClient w pp c s).2.clock = s.clock ∧
      (addClient w pp c s).2.ticks = s.ticks := by
    intro pp c s
    have h := hGet pp (s.cli c).sa.addr s
    unfold addClient
    split <;> rename_i hEq <;> rw [hEq] at h
    · exact h
    · exact ⟨(hAppend ..).1.trans h.1, (hAppend ..).2.trans h.2⟩
  have h := hGet s.gClients cli.addr s
  unfold knownClient
  split <;> rename_i hEq <;> rw [hEq] at h
  · exact h
  · rename_i s₁
    have h₁ := hMalloc s₁
    split <;> rename_i hEq₁ <;> rw [hEq₁] at h₁
    · exact ⟨h₁.1.trans h.1, h₁.2.trans h.2⟩
    · rename_i p s₂
      have h₂ := hAdd s₂.gClients (freshClient s₂ p)
        { s₂ with cli := Function.update s₂.cli (freshClient s₂ p) ⟨cli, 0, []⟩ }
      dsimp only at h₂ ⊢
      split <;> rename_i hEq₂ <;> rw [hEq₂] at h₂ <;>
        exact ⟨h₂.1.trans (h₁.1.trans h.1), h₂.2.trans (h₁.2.trans h.2)⟩

/-- A client message runs its branch as a client that is listed, or there is no memory to
list its sender. -/
theorem processClient_cases (w : World) (cfg : Config) (cli : SockAddr) (message : CStr)
    (s : State) :
    (∃ c s₁, Entered w cli c s s₁ ∧
      processClient w cfg cli message s = clientRequest w cfg c message s₁) ∨
    (∃ s', processClient w cfg cli message s = (-1, s') ∧ Quiet s s' ∧
      ∃ k, s.mallocs ≤ k ∧ k < s'.mallocs ∧ w.malloc k = none) := by
  have hClock := knownClient_clock w cli s
  unfold processClient
  rcases knownClient_cases w cli s with ⟨c, hEq, hc, hAddr⟩ |
    ⟨c, s', hEq, hj, hSa, hCommands, hMallocs⟩ | ⟨s', hEq, hq, hNone⟩
  · have hq := quiet_updateClient (w := w) (c := c) hAddr
    rw [hEq]
    exact Or.inl ⟨c, updateClient w c cli s,
      { path := Or.inl hq
        known := hc
        sa := by simp
        heard := by simp
        others := fun c' _ hOther => by simp [hOther]
        commands := rfl
        mallocs := le_rfl
        clock := rfl
        ticks := rfl }, rfl⟩
  · have hq := quiet_updateClient (w := w) (c := c) (congrArg SockAddr.addr hSa)
    rw [hEq] at hClock ⊢
    exact Or.inl ⟨c, updateClient w c cli s',
      { path := Or.inr ⟨s', hj, hq⟩
        known := by simp [hj.gClients]
        sa := by simp
        heard := by simp
        others := fun c' hc' hOther => by simpa [hOther] using hj.old c' hc'
        commands := hCommands
        mallocs := by
          show s.mallocs ≤ s'.mallocs
          omega
        clock := by
          show s'.clock + w.tick s'.ticks = _
          rw [hClock.1, hClock.2]
        ticks := congrArg (· + 1) hClock.2 }, rfl⟩
  · rw [hEq]
    exact Or.inr ⟨s', rfl, hq, hNone⟩

-- ---------------------------------------------------------------------------
-- The lists once the sender is known
-- ---------------------------------------------------------------------------

namespace Entered

/-- Invariants of the server hold when the branch of the message begins. -/
theorem kept {P : Op → State → Prop} {I : State → Prop} {M : CliPtr → State → Prop}
    (h : Entered w cli c s s₁) (hI : Kept w cfg P I M) (hs : I s) : I s₁ := by
  rcases h.path with hq | ⟨s', hj, hq⟩
  · exact hI.quiet hq hs
  · exact hI.quiet hq (hI.joined hj hs)

/-- Entering the sender changes no device, -/
theorem dev (h : Entered w cli c s s₁) : s₁.dev = s.dev := by
  rcases h.path with hq | ⟨s', hj, hq⟩
  · exact hq.dev
  · exact hq.dev.trans hj.dev

/-- nor which devices there are, -/
theorem gDevices (h : Entered w cli c s s₁) : s₁.gDevices = s.gDevices := by
  rcases h.path with hq | ⟨s', hj, hq⟩
  · exact hq.gDevices
  · exact hq.gDevices.trans hj.gDevices

/-- and nothing is done with them. -/
theorem trace (h : Entered w cli c s s₁) : s₁.trace = s.trace := by
  rcases h.path with hq | ⟨s', hj, hq⟩
  · exact hq.trace
  · exact hq.trace.trans hj.trace

/-- The sender is listed, and the others are as they were. -/
theorem mem_gClients (h : Entered w cli c s s₁) {c' : CliPtr} :
    c' ∈ s₁.gClients ↔ c' ∈ s.gClients ∨ c' = c := by
  have hKnown := h.known
  rcases h.path with hq | ⟨s', hj, hq⟩ <;> rw [hq.gClients] at hKnown ⊢
  · constructor
    · exact Or.inl
    · intro hMem
      rcases hMem with hMem | rfl
      · exact hMem
      · exact hKnown
  · simp [hj.gClients]

/-- A client that was listed keeps its address. -/
theorem addr (h : Entered w cli c s s₁) {c' : CliPtr} (hc' : c' ∈ s.gClients) :
    (s₁.cli c').sa.addr = (s.cli c').sa.addr := by
  rcases h.path with hq | ⟨s', hj, hq⟩
  · exact hq.addr c' hc'
  · rw [hq.addr c' (by simp [hj.gClients, hc']), hj.old c' hc']

/-- Nobody lists a device that did not list it before. -/
theorem mem_devices (h : Entered w cli c s s₁) {c' : CliPtr} (hc' : c' ∈ s₁.gClients) :
    d ∈ (s₁.cli c').devicesConnected ↔ c' ∈ s.gClients ∧ d ∈ (s.cli c').devicesConnected := by
  rcases h.path with hq | ⟨s', hj, hq⟩ <;> rw [hq.gClients] at hc' <;> rw [hq.devices c' hc']
  · exact (and_iff_right hc').symm
  · rw [hj.gClients, List.mem_append, List.mem_singleton] at hc'
    rcases hc' with hOld | rfl
    · rw [hj.old c' hOld]
      exact (and_iff_right hOld).symm
    · simp [hj.devices, hj.fresh]

theorem launchResult (h : Entered w cli c s s₁) :
    LinkControl.launchResult w s₁ = LinkControl.launchResult w s := by
  unfold LinkControl.launchResult
  rw [h.commands]

end Entered

/-- What the code makes of a result is 0 exactly when the result is. -/
theorem launchResult_eq_zero : launchResult w s = 0 ↔ (w.system s.commands).result = 0 := by
  unfold launchResult
  split <;> omega

-- ---------------------------------------------------------------------------
-- The call of a message that names a listed device
-- ---------------------------------------------------------------------------

/-- A device that is listed is found by its name. -/
theorem WellFormed.getDevice_of_mem (h : WellFormed s) (hd : d ∈ s.gDevices) :
    getDevice s.gDevices (s.dev d).deviceName s = (some d, s) := by
  rcases hGet : getDevice s.gDevices (s.dev d).deviceName s with ⟨_ | d', s'⟩
  · exact absurd rfl ((getDevice_none hGet).1 d hd)
  · obtain ⟨hMem, hName, rfl⟩ := getDevice_some hGet
    rw [h.device_ext hMem hd hName]

theorem clientMessage_up (name : CStr) : clientMessage (clientUp ++ name) = .up name := rfl

theorem clientMessage_down (name : CStr) : clientMessage (clientDown ++ name) = .down name := rfl

theorem clientMessage_forceDown (name : CStr) :
    clientMessage (clientForceDown ++ name) = .forceDown name := rfl

/-- An UP connects to the first device of the name. -/
theorem clientOp_up (c : CliPtr) (name : CStr) (s : State) :
    clientOp c (clientUp ++ name) s = (getDevice s.gDevices name s).1.map (.connect c) := rfl

/-- A DOWN leaves a device of the name that the client has. -/
theorem clientOp_down (c : CliPtr) (name : CStr) (s : State) :
    clientOp c (clientDown ++ name) s =
      (getDevice (s.cli c).devicesConnected name s).1.map (.disconnect c) := rfl

/-- A FORCE_DOWN takes down the first device of the name, whoever uses it. -/
theorem clientOp_forceDown (c : CliPtr) (name : CStr) (s : State) :
    clientOp c (clientForceDown ++ name) s = (getDevice s.gDevices name s).1.map .forceDown := rfl

end LinkControl
