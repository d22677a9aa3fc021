import LinkControl.Server.Causes

/-!
# Link server — who uses a device

The users of a device are the addresses its list of clients holds: as long as it has one, the
server keeps the link up. `use_changes_for_cause` says what it takes to become a user, and to be
one no longer. Nobody is made a user by anybody else, and nobody's use ends because of what
other clients do with their own.

What is behind it: a device that is hanging up has no users (`Freed`), so that what is done to
it affects nobody, and every call keeps the users of a device but for those that `Ends` and
`Begins` name.
-/

namespace LinkControl

open ReturnCode

variable {w : World} {cfg : Config} {e : Event} {o : Op} {c : CliPtr} {d : DevPtr} {a : Nat}
  {s s' : State}

/-- The client at this address uses the device. -/
def Uses (a : Nat) (d : DevPtr) (s : State) : Prop :=
  ∃ c ∈ (s.dev d).clientsConnected, (s.cli c).sa.addr = a

/-- A device that is hanging up has no users. -/
def Freed (d : DevPtr) (s : State) : Prop :=
  (s.dev d).status = .disconnecting → (s.dev d).clientsConnected = []

/-- The call makes the address a user of the device. -/
def Begins (a : Nat) (d : DevPtr) (s : State) : Op → Prop
  | .connect c d' => d' = d ∧ (s.cli c).sa.addr = a
  | _ => False

/-- The call ends the use of the device by the address: the client leaves, or expires, or the
device is taken down, or gives up. -/
def Ends (a : Nat) (d : DevPtr) (s : State) : Op → Prop
  | .disconnect c d' | .expire c d' => d' = d ∧ (s.cli c).sa.addr = a
  | .forceDown d' | .isDown d' => d' = d
  | .timeout d' => d' = d ∧ (s.dev d).status = .connecting ∧ (s.dev d).retries < 0
  | .connect _ _ | .isUp _ => False

-- ---------------------------------------------------------------------------
-- Devices that are hanging up
-- ---------------------------------------------------------------------------

/-- It is a matter of the device alone. -/
theorem local_freed : Local Freed := by
  intro d s s' hDev _ _ h
  rw [Freed, hDev]
  exact h

theorem freed_of_free (h : (s.dev d).clientsConnected = []) : Freed d s := fun _ => h

theorem freed_of_status (h : (s.dev d).status ≠ .disconnecting) : Freed d s :=
  fun hHang => absurd hHang h

/-- A call that only takes clients off, and does not start hanging up. -/
theorem Touched.freed (ht : Touched d s s') (h : Freed d s)
    (hStatus : (s'.dev d).status = .disconnecting → (s.dev d).status = .disconnecting) :
    Freed d s' := by
  intro hHang
  exact List.eq_nil_of_sublist_nil (h (hStatus hHang) ▸ ht.clients)

/-- A device that is taken down is not hanging up, and one that could not be is as it was. -/
theorem freed_alterToDown (h : Freed d s) : Freed d (alterToDown w d s).2 := by
  rcases alterToDown_cases w d s with ⟨-, hEq⟩ | ⟨-, -, hEq⟩ | ⟨-, -, hEq⟩ <;> rw [hEq]
  · exact freed_of_status (by simp)
  · exact (touched_forcedDown w d s).freed h (by simp)
  · exact freed_of_status (by simp)

/-- The hanging up starts when the last client has left the list. -/
theorem freed_disconnect (c : CliPtr) (h : Freed d s) :
    Freed d (disconnectClientFromDevice w cfg c d s).2 := by
  rcases disconnectClientFromDevice_cases w cfg c d s with ⟨-, hEq⟩ | ⟨-, -, hEq⟩ |
    ⟨-, -, hEq⟩ | ⟨-, -, -, hEq⟩ | ⟨-, -, -, hEq⟩ | ⟨-, -, -, hEq⟩ <;> rw [hEq]
  · exact fun hHang => by simpa using h (by simpa using hHang)
  · intro hHang
    have := h (by simpa using hHang)
    simp [this]
  · exact freed_of_free (by simp)
  · refine freed_of_free ?_
    have ht := (touched_hungUp w d (s.setClientsConnected d [])).clients
    exact List.eq_nil_of_sublist_nil (by simpa using ht)
  · exact freed_of_status (by simp)
  · refine freed_of_free ?_
    have ht := (touched_hungUp w d (s.setClientsConnected d [])).clients
    have hNil := List.eq_nil_of_sublist_nil (by simpa using ht :
      ((hungUp w d (s.setClientsConnected d [])).dev d).clientsConnected.Sublist [])
    simp [hNil]

/-- A device that was hanging up is hanging up no more when somebody is noted. -/
theorem freed_connect (hRetries : 0 ≤ cfg.gRetries) (c : CliPtr) (h : Freed d s) :
    Freed d (connectClientToDevice w cfg c d s).2 := by
  have hFailed : ∀ {s'}, Touched d (s.setRetries d cfg.gRetries) s' →
      (s.dev d).clientsConnected = [] → Freed d s' := fun ht hFree =>
    freed_of_free (List.eq_nil_of_sublist_nil
      (hFree ▸ ((touched_setRetries d s cfg.gRetries).trans ht).clients))
  rcases connect_cases hRetries w c d s with ⟨hClients, hEq⟩ | ⟨hFree, -, hEq⟩ |
    ⟨hFree, -, -, hEq⟩ | ⟨hFree, -, -, -, hEq⟩ | ⟨-, -, -, -, hEq⟩ <;> rw [hEq]
  · refine freed_of_status ?_
    rw [(noted_noteClient w c d s).status]
    exact fun hHang => hClients (h hHang)
  · exact hFailed (touched_setErrno d _ _) hFree
  · exact hFailed (touched_forcedDown w d _) hFree
  · exact hFailed ((touched_readied w cfg d _).trans (touched_undialled w d _)) hFree
  · refine freed_of_status ?_
    rw [(noted_noteClient w c d _).status]
    simp

/-- A device that times out is connecting or down then, or as it was. -/
theorem freed_timeout (hDue : Due cfg d s) (h : Freed d s) :
    Freed d ((Op.timeout d).run w cfg s).2 := by
  rcases timeout_cases w hDue with ⟨hStatus, -, -, hEq⟩ | ⟨-, -, -, hEq⟩ |
    ⟨hStatus, -, -, hEq⟩ | ⟨-, -, -, hEq⟩ | ⟨hStatus, -, hEq⟩ | ⟨-, -, hEq⟩ <;> rw [hEq]
  · exact freed_of_status (by simp [hStatus])
  · exact freed_of_status (by simp)
  · exact freed_of_status (by simp [hStatus])
  · exact freed_of_status (by simp)
  · exact (touched_forcedDown w d s).freed h (by simp)
  · exact freed_of_status (by simp)

/-- **Call rule.** Every call keeps a device that is hanging up free of users. -/
theorem freed_run (hRetries : 0 ≤ cfg.gRetries) (h : Freed o.device s)
    (hApplies : o.Applies cfg s) : Freed o.device (o.run w cfg s).2 := by
  cases o with
  | connect c d => exact freed_connect hRetries c h
  | disconnect c d => exact freed_disconnect c h
  | expire c d =>
    rw [run_expire]
    exact freed_disconnect c h
  | isUp d =>
    rw [run_isUp]
    rcases alterToUp_cases w d s with ⟨-, hEq⟩ | ⟨-, hEq⟩ <;> rw [hEq]
    · exact h
    · exact freed_of_status (by simp [Op.device])
  | isDown d => exact freed_alterToDown h
  | forceDown d =>
    dsimp only [Op.device] at h ⊢
    rcases forceDown_cases w cfg d s with ⟨-, hEq⟩ | ⟨-, -, hEq⟩ | ⟨-, -, hEq⟩ <;> rw [hEq]
    · exact freed_of_free (by simp)
    · exact (touched_forcedDown w d s).freed h (by simp)
    · exact freed_of_free (by simp)
  | timeout d => exact freed_timeout hApplies.2 h

/-- That holds along every run. -/
theorem freed_kept (hRetries : 0 ≤ cfg.gRetries) :
    Kept w cfg (fun _ _ => True) (Everywhere Freed) (fun _ => Everywhere Freed) :=
  Kept.ofLocal local_freed fun h hApplies _ =>
    freed_run hRetries (h.all _ hApplies.device_mem) hApplies

/-- The other devices are not touched. -/
theorem freed_everywhere (hRetries : 0 ≤ cfg.gRetries) (h : Everywhere Freed s)
    (hApplies : o.Applies cfg s) : Everywhere Freed (o.run w cfg s).2 := by
  have hFreed := freed_kept (w := w) hRetries
  cases o with
  | expire c d =>
    rw [run_expire]
    exact hFreed.op (o := .disconnect c d) h hApplies trivial (by simp)
  | _ => exact hFreed.op h hApplies trivial (by simp)

-- ---------------------------------------------------------------------------
-- Users
-- ---------------------------------------------------------------------------

theorem noteDevice_sa (w : World) (c : CliPtr) (d : DevPtr) (s : State) (c' : CliPtr) :
    ((noteDevice w c d s).2.cli c').sa = (s.cli c').sa := by
  rcases noteDevice_cases w c d s with ⟨-, hEq⟩ | ⟨-, -, hEq⟩ | ⟨-, -, hEq⟩ <;> rw [hEq]
  · rfl
  · rcases eq_or_ne c' c with rfl | hOther
    · simp
    · simp [hOther]

theorem noteClient_sa (w : World) (c : CliPtr) (d : DevPtr) (s : State) (c' : CliPtr) :
    ((noteClient w c d s).2.cli c').sa = (s.cli c').sa := by
  rcases noteClient_cases w c d s with ⟨-, hEq⟩ | ⟨-, -, hEq⟩ | ⟨-, -, hEq⟩ <;> rw [hEq]
  · exact noteDevice_sa w c d _ c'
  · exact noteDevice_sa w c d _ c'

/-- No call changes an address. -/
theorem op_sa (w : World) (cfg : Config) (o : Op) (s : State) (c' : CliPtr) :
    ((o.run w cfg s).2.cli c').sa = (s.cli c').sa := by
  cases o with
  | connect c d =>
    have ht := (touched_setRetries d s cfg.gRetries).trans
      (touched_alterToConnecting w cfg d (s.setRetries d cfg.gRetries))
    rw [run_connect]
    rcases connectClientToDevice_cases w cfg c d s with ⟨-, hEq⟩ | ⟨-, -, hEq⟩ | ⟨-, -, hEq⟩ <;>
      rw [hEq]
    · exact noteClient_sa w c d s c'
    · exact ht.sa c'
    · exact (noteClient_sa w c d _ c').trans (ht.sa c')
  | _ => exact (touched_run (by simp)).sa c'

/-- The clients of a device after a connection: those there were, and perhaps the new one. -/
theorem connect_clients (hRetries : 0 ≤ cfg.gRetries) (w : World) (c : CliPtr) (d : DevPtr)
    (s : State) : ∃ cs, (cs = (s.dev d).clientsConnected ∨ cs = (s.dev d).clientsConnected ++ [c]) ∧
      ((connectClientToDevice w cfg c d s).2.dev d).clientsConnected = cs := by
  have hNote : ∀ s₁ : State, (s₁.dev d).clientsConnected = (s.dev d).clientsConnected →
      ∃ cs, (cs = (s.dev d).clientsConnected ∨ cs = (s.dev d).clientsConnected ++ [c]) ∧
        ((noteClient w c d s₁).2.dev d).clientsConnected = cs := by
    intro s₁ hSame
    obtain ⟨cs, hcs, hDev⟩ := (noted_noteClient w c d s₁).device
    exact ⟨cs, hSame ▸ hcs, by rw [hDev]⟩
  have hNone : ∀ {s₁ : State}, Touched d (s.setRetries d cfg.gRetries) s₁ →
      (s.dev d).clientsConnected = [] →
      (s₁.dev d).clientsConnected = (s.dev d).clientsConnected := by
    intro s₁ ht hFree
    have hSub := ((touched_setRetries d s cfg.gRetries).trans ht).clients
    rw [hFree] at hSub ⊢
    exact List.eq_nil_of_sublist_nil hSub
  rcases connect_cases hRetries w c d s with ⟨-, hEq⟩ | ⟨hFree, -, hEq⟩ |
    ⟨hFree, -, -, hEq⟩ | ⟨hFree, -, -, -, hEq⟩ | ⟨hFree, -, -, -, hEq⟩ <;> rw [hEq]
  · exact hNote s rfl
  · exact ⟨_, Or.inl rfl, hNone (touched_setErrno d _ _) hFree⟩
  · exact ⟨_, Or.inl rfl, hNone (touched_forcedDown w d _) hFree⟩
  · exact ⟨_, Or.inl rfl, hNone ((touched_readied w cfg d _).trans (touched_undialled w d _)) hFree⟩
  · exact hNote _ (hNone ((touched_readied w cfg d _).trans (touched_dialled w d _)) hFree)

/-- A disconnection takes no other client off the device. -/
theorem disconnect_clients (w : World) (cfg : Config) (c : CliPtr) (d : DevPtr) (s : State)
    {c' : CliPtr} (hMem : c' ∈ (s.dev d).clientsConnected) (hOther : c' ≠ c) :
    c' ∈ ((disconnectClientFromDevice w cfg c d s).2.dev d).clientsConnected := by
  have hNotAlone : (s.dev d).clientsConnected ≠ [c] := by
    intro hAlone
    exact hOther (List.mem_singleton.mp (hAlone ▸ hMem))
  rcases disconnectClientFromDevice_cases w cfg c d s with ⟨-, hEq⟩ | ⟨-, -, hEq⟩ |
    ⟨hAlone, -⟩ | ⟨hAlone, -⟩ | ⟨hAlone, -⟩ | ⟨hAlone, -⟩
  · rw [hEq]
    simpa using hMem
  · rw [hEq]
    simpa using (List.mem_erase_of_ne hOther).mpr hMem
  all_goals exact absurd hAlone hNotAlone

/-- **A call takes off the users that it is to take off**, and nobody else. -/
theorem still_uses_run (hRetries : 0 ≤ cfg.gRetries) (hFreed : Freed o.device s)
    (hApplies : o.Applies cfg s) (h : Uses a d s) (hEnds : ¬ Ends a d s o) :
    Uses a d (o.run w cfg s).2 := by
  obtain ⟨c', hMem, hAddr⟩ := h
  refine ⟨c', ?_, by rw [op_sa, hAddr]⟩
  rcases eq_or_ne d o.device with rfl | hOther
  · cases o with
    | connect c d =>
      obtain ⟨cs, hcs, hEq⟩ := connect_clients hRetries w c d s
      rw [run_connect, show (Op.connect c d).device = d from rfl, hEq]
      rcases hcs with rfl | rfl
      · exact hMem
      · exact List.mem_append_left _ hMem
    | disconnect c d =>
      exact disconnect_clients w cfg c d s hMem fun hEq => hEnds ⟨rfl, hEq ▸ hAddr⟩
    | expire c d =>
      rw [run_expire]
      exact disconnect_clients w cfg c d s hMem fun hEq => hEnds ⟨rfl, hEq ▸ hAddr⟩
    | isUp d =>
      rw [run_isUp]
      rcases alterToUp_cases w d s with ⟨-, hEq⟩ | ⟨-, hEq⟩ <;> rw [hEq]
      · exact hMem
      · simpa [Op.device] using hMem
    | isDown d => exact absurd rfl hEnds
    | forceDown d => exact absurd rfl hEnds
    | timeout d =>
      dsimp only [Op.device] at hMem hFreed hEnds ⊢
      rcases timeout_cases w hApplies.2 with ⟨hSt, hNone, -⟩ | ⟨hSt, hNone, -⟩ |
        ⟨-, -, -, hEq⟩ | ⟨-, -, -, hEq⟩ | ⟨hSt, -⟩ | ⟨hSt, -⟩
      · exact absurd ⟨rfl, hSt, hNone⟩ hEnds
      · exact absurd ⟨rfl, hSt, hNone⟩ hEnds
      · rw [hEq]
        simpa using hMem
      · rw [hEq]
        simpa using hMem
      all_goals
        rw [hFreed hSt] at hMem
        exact absurd hMem List.not_mem_nil
  · rw [(confined_run w cfg o s).other d hOther]
    exact hMem

/-- **A call makes nobody a user but the client it connects.** -/
theorem not_uses_run (hRetries : 0 ≤ cfg.gRetries) (h : ¬ Uses a d s)
    (hBegins : ¬ Begins a d s o) : ¬ Uses a d (o.run w cfg s).2 := by
  intro hNow
  obtain ⟨c', hMem, hAddr⟩ := hNow
  rw [op_sa] at hAddr
  rcases eq_or_ne d o.device with rfl | hOther
  · cases o with
    | connect c d =>
      obtain ⟨cs, hcs, hEq⟩ := connect_clients hRetries w c d s
      rw [run_connect, show (Op.connect c d).device = d from rfl, hEq] at hMem
      rcases hcs with rfl | rfl
      · exact h ⟨c', hMem, hAddr⟩
      · rcases List.mem_append.mp hMem with hMem | hMem
        · exact h ⟨c', hMem, hAddr⟩
        · exact hBegins ⟨rfl, List.mem_singleton.mp hMem ▸ hAddr⟩
    | _ => exact h ⟨c', (touched_run (by simp)).clients.subset hMem, hAddr⟩
  · rw [(confined_run w cfg o s).other d hOther] at hMem
    exact h ⟨c', hMem, hAddr⟩

-- ---------------------------------------------------------------------------
-- Events and runs
-- ---------------------------------------------------------------------------

/-- A quiet change makes and loses no user. -/
theorem Quiet.uses_iff (hq : Quiet s s') (h : WellFormed s) (hd : d ∈ s.gDevices) :
    Uses a d s' ↔ Uses a d s := by
  have hAddr : ∀ c ∈ (s.dev d).clientsConnected, (s'.cli c).sa.addr = (s.cli c).sa.addr :=
    fun c hc => hq.addr c (h.clientsKnown d hd c hc)
  unfold Uses
  rw [hq.dev]
  constructor
  · rintro ⟨c, hc, hEq⟩
    exact ⟨c, hc, (hAddr c hc).symm.trans hEq⟩
  · rintro ⟨c, hc, hEq⟩
    exact ⟨c, hc, (hAddr c hc).trans hEq⟩

/-- A client that joins uses nothing yet. -/
theorem Joined.uses_iff (hj : Joined c s s') (h : WellFormed s) (hd : d ∈ s.gDevices) :
    Uses a d s' ↔ Uses a d s := by
  have hOld : ∀ c ∈ (s.dev d).clientsConnected, s'.cli c = s.cli c :=
    fun c hc => hj.old c (h.clientsKnown d hd c hc)
  unfold Uses
  rw [hj.dev]
  constructor
  · rintro ⟨c, hc, hEq⟩
    exact ⟨c, hc, hOld c hc ▸ hEq⟩
  · rintro ⟨c, hc, hEq⟩
    exact ⟨c, hc, (hOld c hc).symm ▸ hEq⟩

/-- What calls meeting `P` keep about the users of a device, an event keeps whose calls meet
it. -/
theorem kept_use_step (hRetries : 0 ≤ cfg.gRetries) {U : Prop → Prop} (h : Everywhere Freed s)
    (hd : d ∈ s.gDevices) (hU : U (Uses a d s))
    (hOp : ∀ {o s₁}, Makes w cfg e s o s₁ → Freed o.device s₁ → o.Applies cfg s₁ →
      U (Uses a d s₁) → U (Uses a d (o.run w cfg s₁).2)) : U (Uses a d (step w cfg e s).2) := by
  have hFreed := freed_kept (w := w) hRetries
  have hKept : Kept w cfg (Makes w cfg e s)
      (fun s => Everywhere Freed s ∧ d ∈ s.gDevices ∧ U (Uses a d s))
      fun _ s => Everywhere Freed s ∧ d ∈ s.gDevices ∧ U (Uses a d s) := by
    refine Kept.uniform (fun h => h.1.wellFormed) ?_ ?_ ?_ ?_ ?_
    · intro s s' hq ⟨hAll, hd, hU⟩
      have hSame : Uses a d s' = Uses a d s := propext (hq.uses_iff hAll.wellFormed hd)
      exact ⟨hFreed.quiet hq hAll, hq.gDevices ▸ hd, hSame ▸ hU⟩
    · intro c s s' hj ⟨hAll, hd, hU⟩
      have hSame : Uses a d s' = Uses a d s := propext (hj.uses_iff hAll.wellFormed hd)
      exact ⟨hFreed.joined hj hAll, hj.gDevices ▸ hd, hSame ▸ hU⟩
    · exact fun t a' h => ⟨hFreed.expired (c := 0) t a' h.1, h.2.1, h.2.2⟩
    · intro o s₁ ⟨hAll, hd, hU⟩ hApplies hMade
      exact ⟨freed_everywhere hRetries hAll hApplies, (confined_run w cfg o s₁).gDevices ▸ hd,
        hOp hMade (hAll.all _ hApplies.device_mem) hApplies hU⟩
    · exact fun h hc hGone => ⟨hFreed.dropped h.1 hc hGone, h.2.1, h.2.2⟩
  exact (hKept.step ⟨h, hd, hU⟩ (stepCalls_makes w cfg e s)).2.2

/-- **Whoever is no longer a user was made one no longer by a call that says so**, and that call
was asked for. -/
theorem loses_use (hRetries : 0 ≤ cfg.gRetries) (h : Everywhere Freed s) (hd : d ∈ s.gDevices)
    (hBefore : Uses a d s) (hAfter : ¬ Uses a d (step w cfg e s).2) :
    ∃ o s₁, Makes w cfg e s o s₁ ∧ Asks cfg s₁ e o ∧ Ends a d s₁ o := by
  by_contra hNone
  refine hAfter (kept_use_step (U := id) hRetries h hd hBefore ?_)
  intro o s₁ hMade hFreed hApplies hUses
  exact still_uses_run hRetries hFreed hApplies hUses fun hEnds =>
    hNone ⟨o, s₁, hMade, hMade.asks, hEnds⟩

/-- **Whoever is a user now was made one by a connection** that was asked for. -/
theorem gains_use (hRetries : 0 ≤ cfg.gRetries) (h : Everywhere Freed s) (hd : d ∈ s.gDevices)
    (hBefore : ¬ Uses a d s) (hAfter : Uses a d (step w cfg e s).2) :
    ∃ o s₁, Makes w cfg e s o s₁ ∧ Asks cfg s₁ e o ∧ Begins a d s₁ o := by
  by_contra hNone
  refine kept_use_step (U := Not) hRetries h hd hBefore ?_ hAfter
  intro o s₁ hMade _ _ hUses
  exact not_uses_run hRetries hUses fun hBegins => hNone ⟨o, s₁, hMade, hMade.asks, hBegins⟩

end LinkControl
