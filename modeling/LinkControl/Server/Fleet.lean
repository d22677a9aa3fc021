import LinkControl.Lib.Channel
import LinkControl.Server.MainLoop

/-!
# Link server — several servers on a network

Servers that start, serve, broadcast and quit, each at its address. A server may be started again
at its address, with other devices. The broadcasts of all of them go over a channel that loses,
repeats and delays them (`Channels`) to a client that listens; each is kept together with the
reports it was made from (`Broadcast`).

* `listener_keeps` — what a listener may rely on: every broadcast is one of the three messages,
  and the reports of a status message have distinct names.
* `status_origin` — what it wants to know: whatever a status message says was so.
-/

namespace LinkControl

open Channels

/-- A server that is running, and the group it broadcasts to. -/
structure Host where
  w : World
  cfg : Config
  group : Option SockAddr
  s : State

abbrev Fleet := SockAddr → Option Host

/-- A broadcast: where it comes from, its text, and the reports the text is made from. -/
structure Broadcast where
  sa : SockAddr
  text : CStr
  reports : List Report
deriving DecidableEq, Repr

inductive FleetEvent where
  /-- a server starts, in place of one that may have been running there -/
  | start (sa : SockAddr) (w : World) (cfg : Config) (group : Option SockAddr)
      (sections : List DeviceSection)
  /-- something happens to a server -/
  | serve (sa : SockAddr) (e : Event)
  /-- a server polls its clients -/
  | poll (sa : SockAddr)
  | quit (sa : SockAddr)

namespace Fleet

/-- What happens to the server at an address, if there is one. -/
def change (sa : SockAddr) (f : Host → Option Host) (fleet : Fleet) : Fleet :=
  match fleet sa with
  | none => fleet
  | some host => Function.update fleet sa (f host)

def act : FleetEvent → Fleet → Fleet
  | .start sa w cfg group sections, fleet =>
    Function.update fleet sa
      (some ⟨w, cfg, group, (broadcastInitMessage w group (boot w sections)).2⟩)
  | .serve sa e, fleet =>
    fleet.change sa fun host => some { host with s := (step host.w host.cfg e host.s).2 }
  | .poll sa, fleet =>
    fleet.change sa fun host => some { host with s := LinkControl.poll host.w host.group host.s }
  | .quit sa, fleet => fleet.change sa fun host => if host.s.crashed then some host else none

/-- The texts a call has sent. -/
def saidSince (s s' : State) : List CStr := ((outbox s').drop (outbox s).length).map Prod.snd

/-- The broadcasts of an event. -/
def tells : FleetEvent → Fleet → List Broadcast
  | .start sa w _ group sections, _ =>
    (saidSince (boot w sections) (broadcastInitMessage w group (boot w sections)).2).map
      fun text => ⟨sa, text, []⟩
  | .serve _ _, _ => []
  | .poll sa, fleet =>
    match fleet sa with
    | none => []
    | some host => (saidSince host.s (LinkControl.poll host.w host.group host.s)).map
        fun text => ⟨sa, text, reports host.w host.s⟩
  | .quit sa, fleet =>
    match fleet sa with
    | none => []
    | some host =>
      if host.s.crashed then []
      else (saidSince host.s (broadcastQuitMessage host.w host.group host.s).2).map
        fun text => ⟨sa, text, []⟩

end Fleet

open Fleet

-- ---------------------------------------------------------------------------
-- What a server says
-- ---------------------------------------------------------------------------

section Said

variable {w : World} {group : Option SockAddr} {s s' : State} {text : CStr}

theorem saidSince_eq_nil (h : outbox s' = outbox s) : saidSince s s' = [] := by
  simp [saidSince, h]

/-- A broadcast says only the one text. -/
theorem mem_saidSince_copy {copy : CStr} (h : text ∈ saidSince s (broadcastCopy w group copy s).2) :
    text = copy := by
  rcases broadcastCopy_outbox w group copy s with hSame | ⟨sa, -, hSent⟩
  · rw [saidSince_eq_nil hSame] at h
    exact absurd h List.not_mem_nil
  · simpa [saidSince, hSent] using h

theorem broadcastMessage_clock (w : World) (group : Option SockAddr) (text : CStr) (s : State) :
    (broadcastMessage w group text s).2.clock = s.clock := by
  unfold broadcastMessage
  split
  · rfl
  · split <;> rfl

/-- A status message that goes out has been built. -/
theorem mem_saidSince_poll (h : text ∈ saidSince s (poll w group s)) :
    ∃ s₁, statusMessage w s = (some text, s₁) ∧ (poll w group s).clock = s₁.clock := by
  unfold poll at h ⊢
  split at h
  · rw [saidSince_eq_nil rfl] at h
    exact absurd h List.not_mem_nil
  · rename_i hAlive
    rw [if_neg hAlive]
    unfold broadcastStatusMessage at h ⊢
    have hSent := statusMessage_sent w s
    split at h <;> rename_i hEq <;> rw [hEq] at hSent ⊢
    · rw [saidSince_eq_nil (outbox_eq hSent)] at h
      exact absurd h List.not_mem_nil
    · rename_i message s₁
      have hOutbox : outbox s₁ = outbox s := outbox_eq hSent
      rcases broadcastMessage_outbox w group message s₁ with hSame | ⟨sa, -, hOne⟩
      · rw [saidSince_eq_nil (hSame.trans hOutbox)] at h
        exact absurd h List.not_mem_nil
      · obtain rfl : text = message := by simpa [saidSince, hOne, hOutbox] using h
        exact ⟨s₁, rfl, broadcastMessage_clock w group text s₁⟩

/-- The report is what there was to say about this device of a server, at some time while the
server polled. -/
def ReportOf (host : Host) (r : Report) (d : DevPtr) : Prop :=
  ∃ now, host.s.clock ≤ now ∧ now ≤ (poll host.w host.group host.s).clock ∧
    r = reportAt now (host.s.dev d)

/-- **Reports are true.** Each report of a status message is about a device of the server, as it
was when the message was built. -/
theorem report_true (cfg : Config) (h : WellFormed s)
    (hText : text ∈ saidSince s (poll w group s)) {r : Report} (hr : r ∈ reports w s) :
    ∃ d ∈ s.gDevices, ReportOf ⟨w, cfg, group, s⟩ r d := by
  obtain ⟨s₁, hMessage, hClock⟩ := mem_saidSince_poll hText
  have hNodup : ((reports w s).map Report.name).Nodup := by
    rw [reports_names]
    exact h.names
  have hMem : r.name ∈ (reports w s).map Report.name := List.mem_map_of_mem hr
  rw [reports_names] at hMem
  obtain ⟨d, hd, hName⟩ := List.mem_map.mp hMem
  obtain ⟨now, hLow, hHigh, hReport⟩ := reports_devices hMessage d hd
  exact ⟨d, hd, now, hLow, hClock ▸ hHigh, List.inj_on_of_nodup_map hNodup hr hReport hName.symm⟩

/-- Entries that belong together by a name they share. -/
theorem forall₂_of_map_eq {α β γ : Type*} {f : α → γ} {g : β → γ} {R : α → β → Prop} {xs : List α}
    {ys : List β} (h : xs.map f = ys.map g) (hR : ∀ x ∈ xs, ∀ y ∈ ys, f x = g y → R x y) :
    List.Forall₂ R xs ys := by
  induction xs generalizing ys with
  | nil =>
    rw [List.map_nil] at h
    rw [List.map_eq_nil_iff.mp h.symm]
    exact .nil
  | cons x xs ih =>
    cases ys with
    | nil => simp at h
    | cons y ys =>
      rw [List.map_cons, List.map_cons, List.cons.injEq] at h
      exact .cons (hR x (List.mem_cons_self ..) y (List.mem_cons_self ..) h.1)
        (ih h.2 fun x' hx y' hy =>
          hR x' (List.mem_cons_of_mem _ hx) y' (List.mem_cons_of_mem _ hy))

/-- Each entry of one list belongs to one of the other. -/
theorem exists_of_forall₂ {α β : Type*} {R : α → β → Prop} {xs : List α} {ys : List β}
    (h : List.Forall₂ R xs ys) {x : α} (hx : x ∈ xs) : ∃ y ∈ ys, R x y := by
  induction h with
  | nil => exact absurd hx List.not_mem_nil
  | cons hHead _ ih =>
    rcases List.mem_cons.mp hx with rfl | hx
    · exact ⟨_, List.mem_cons_self .., hHead⟩
    · obtain ⟨y, hy, hR⟩ := ih hx
      exact ⟨y, List.mem_cons_of_mem _ hy, hR⟩

/-- A status message has one true report of every device, in order. -/
theorem reports_true (cfg : Config) (h : WellFormed s)
    (hText : text ∈ saidSince s (poll w group s)) :
    List.Forall₂ (ReportOf ⟨w, cfg, group, s⟩) (reports w s) s.gDevices := by
  refine forall₂_of_map_eq (reports_names w s) fun r hr d hd hName => ?_
  obtain ⟨d', hd', now, hLow, hHigh, rfl⟩ := report_true cfg h hText hr
  obtain rfl := h.device_ext hd' hd hName
  exact ⟨now, hLow, hHigh, rfl⟩

-- How long a status message gets: its numbers are those of an int.

/-- An `int` has at most ten digits and a sign. -/
theorem length_decimal_toInt (n : Int) : (decimal (toInt n)).length ≤ 11 := by
  have hAbs : (toInt n).natAbs ≤ 2147483648 := by
    unfold toInt
    rw [Int.bmod_def]
    omega
  have hDigits : (Nat.toDigits 10 (toInt n).natAbs).length ≤ 10 :=
    (Nat.length_toDigits_le_iff (by decide) (by decide)).mpr (by omega)
  unfold decimal
  split
  · rw [List.length_cons]
    omega
  · omega

/-- The line of a device is at most 28 characters longer than its name. -/
theorem length_text_le (r : Report) : r.text.length ≤ r.name.length + 28 := by
  have hUptime := length_decimal_toInt r.uptime
  have hUsers := length_decimal_toInt r.users
  have hWord : ∀ status, (statusWord status).length ≤ 13 := by
    intro status
    cases status <;> decide
  have hStatus := hWord r.status
  unfold Report.text Report.numbers
  split
  · rename_i hUp
    rw [hUp]
    simp only [List.length_append, List.length_singleton]
    have : (statusWord .up).length = 2 := rfl
    omega
  · simp only [List.length_append, List.length_singleton, List.length_nil]
    omega

/-- The report is at most as long as that for all its lines together. -/
theorem length_reportText_le (rs : List Report) :
    (reportText rs).length ≤ ((rs.map Report.name).map fun name => name.length + 28).sum := by
  induction rs with
  | nil => exact Nat.zero_le _
  | cons r rs ih =>
    have hText : reportText (r :: rs) = r.text ++ reportText rs := List.flatMap_cons ..
    rw [hText, List.length_append, List.map_cons, List.map_cons, List.sum_cons]
    exact Nat.add_le_add (length_text_le r) ih

end Said

-- ---------------------------------------------------------------------------
-- What all servers keep
-- ---------------------------------------------------------------------------

variable {P : SockAddr → List CStr → Prop} {fleet : Fleet} {e : FleetEvent}

/-- The names of the devices of every server are such as `P` allows at its address. -/
def Manned (P : SockAddr → List CStr → Prop) (fleet : Fleet) : Prop :=
  ∀ sa host, fleet sa = some host → WellFormed host.s ∧ P sa (deviceNames host.s)

/-- A server that starts has names that `P` allows. -/
def Admits (P : SockAddr → List CStr → Prop) : FleetEvent → Prop
  | .start sa w _ _ sections => P sa (deviceNames (boot w sections))
  | .serve _ _ | .poll _ | .quit _ => True

/-- One host changes, and the names of its devices are allowed. -/
theorem Manned.update (h : Manned P fleet) {sa : SockAddr} {new : Option Host}
    (hNew : ∀ host, new = some host → WellFormed host.s ∧ P sa (deviceNames host.s)) :
    Manned P (Function.update fleet sa new) := by
  intro sa' host hAt
  rcases eq_or_ne sa' sa with rfl | hOther
  · exact hNew host (by simpa using hAt)
  · exact h sa' host (by simpa [hOther] using hAt)

/-- What is done at one host matters to that host alone. -/
theorem Manned.change (h : Manned P fleet) {sa : SockAddr} {f : Host → Option Host}
    (hf : ∀ host host', WellFormed host.s → P sa (deviceNames host.s) → f host = some host' →
      WellFormed host'.s ∧ P sa (deviceNames host'.s)) : Manned P (fleet.change sa f) := by
  unfold Fleet.change
  cases hAt : fleet sa with
  | none => exact h
  | some host =>
    obtain ⟨hWF, hNames⟩ := h sa host hAt
    exact h.update fun host' hNew => hf host host' hWF hNames hNew

theorem Quiet.deviceNames {s s' : State} (h : Quiet s s') : deviceNames s' = deviceNames s := by
  rw [LinkControl.deviceNames, h.gDevices, h.dev, LinkControl.deviceNames]

/-- **Act rule.** Whatever a host does, the names of its devices stay allowed. -/
theorem manned_act (h : Manned P fleet) (hAdmits : Admits P e) : Manned P (Fleet.act e fleet) := by
  cases e with
  | start sa w cfg group sections =>
    refine h.update fun host hNew => ?_
    have hq := quiet_broadcastCopy w group broadcastInit (boot w sections)
    rw [← Option.some.inj hNew]
    exact ⟨(booted_boot w sections).wellFormed.quiet hq, hq.deviceNames.symm ▸ hAdmits⟩
  | serve sa e =>
    refine h.change fun host host' hWF hNames hNew => ?_
    obtain ⟨hNext, hSame⟩ := deviceNames_step host.w host.cfg hWF e
    rw [← Option.some.inj hNew]
    exact ⟨hNext, hSame.symm ▸ hNames⟩
  | poll sa =>
    refine h.change fun host host' hWF hNames hNew => ?_
    have hq := quiet_poll host.w host.group host.s
    rw [← Option.some.inj hNew]
    exact ⟨hWF.quiet hq, hq.deviceNames.symm ▸ hNames⟩
  | quit sa =>
    refine h.change fun host host' hWF hNames hNew => ?_
    split at hNew
    · rw [← Option.some.inj hNew]
      exact ⟨hWF, hNames⟩
    · exact absurd hNew (by simp)

/-- What servers broadcast. -/
inductive Authentic (P : SockAddr → List CStr → Prop) : Broadcast → Prop
  | init (sa : SockAddr) : Authentic P ⟨sa, broadcastInit, []⟩
  | quit (sa : SockAddr) : Authentic P ⟨sa, broadcastQuit, []⟩
  | status (sa : SockAddr) (rs : List Report) : P sa (rs.map Report.name) →
      (rs.map Report.name).Nodup → Authentic P ⟨sa, broadcastStatus ++ reportText rs, rs⟩

/-- **Every broadcast is authentic.** -/
theorem authentic_tells (h : Manned P fleet) {m : Broadcast} (hm : m ∈ Fleet.tells e fleet) :
    Authentic P m := by
  cases e with
  | start sa w cfg group sections =>
    obtain ⟨text, hText, rfl⟩ := List.mem_map.mp hm
    obtain rfl := mem_saidSince_copy hText
    exact .init sa
  | serve sa e => exact absurd hm List.not_mem_nil
  | poll sa =>
    simp only [Fleet.tells] at hm
    split at hm
    · exact absurd hm List.not_mem_nil
    · rename_i host hAt
      obtain ⟨text, hText, rfl⟩ := List.mem_map.mp hm
      obtain ⟨s₁, hMessage, -⟩ := mem_saidSince_poll hText
      obtain ⟨hWF, hNames⟩ := h sa host hAt
      rw [reports_text hMessage]
      refine .status sa _ ?_ ?_ <;> rw [reports_names]
      · exact hNames
      · exact hWF.names
  | quit sa =>
    simp only [Fleet.tells] at hm
    split at hm
    · exact absurd hm List.not_mem_nil
    · split at hm
      · exact absurd hm List.not_mem_nil
      · obtain ⟨text, hText, rfl⟩ := List.mem_map.mp hm
        obtain rfl := mem_saidSince_copy hText
        exact .quit sa

/-- **What is broadcast about devices is true**: it is a report for every device of a server that
is running, in order, as the device is while the server polls. -/
theorem tells_true (h : Manned P fleet) {m : Broadcast} (hm : m ∈ Fleet.tells e fleet)
    (hStatus : broadcastStatus <+: m.text) : ∃ host, e = .poll m.sa ∧ fleet m.sa = some host ∧
      List.Forall₂ (ReportOf host) m.reports host.s.gDevices := by
  cases e with
  | start sa w cfg group sections =>
    obtain ⟨text, hText, rfl⟩ := List.mem_map.mp hm
    obtain rfl := mem_saidSince_copy hText
    exact absurd hStatus (show ¬ broadcastStatus <+: broadcastInit by decide)
  | serve sa e => exact absurd hm List.not_mem_nil
  | poll sa =>
    simp only [Fleet.tells] at hm
    split at hm
    · exact absurd hm List.not_mem_nil
    · rename_i host hAt
      obtain ⟨text, hText, rfl⟩ := List.mem_map.mp hm
      exact ⟨host, rfl, hAt, reports_true host.cfg (h sa host hAt).1 hText⟩
  | quit sa =>
    simp only [Fleet.tells] at hm
    split at hm
    · exact absurd hm List.not_mem_nil
    · split at hm
      · exact absurd hm List.not_mem_nil
      · obtain ⟨text, hText, rfl⟩ := List.mem_map.mp hm
        obtain rfl := mem_saidSince_copy hText
        exact absurd hStatus (show ¬ broadcastStatus <+: broadcastQuit by decide)

-- ---------------------------------------------------------------------------
-- A listener
-- ---------------------------------------------------------------------------

section Listener

variable {I R : Type*} {hears : Broadcast → I → R → R} {r : R} {es : List (Happening FleetEvent I)}
  {m : Broadcast}

/-- Servers, channel and a listener. -/
def listening (hears : Broadcast → I → R → R) : Rules Fleet FleetEvent Broadcast I R :=
  ⟨Fleet.act, Fleet.tells, hears⟩

/-- No server has been started. -/
def silence (r : R) : Channel Fleet Broadcast R := ⟨fun _ => none, [], r⟩

/-- What these events lead to. -/
def netRun (hears : Broadcast → I → R → R) (r : R) (es : List (Happening FleetEvent I)) :
    Channel Fleet Broadcast R :=
  Runs.run (Channels.step (listening hears)) es (silence r)

/-- Each server starts with names that `P` allows. -/
def Starts (P : SockAddr → List CStr → Prop) (es : List (Happening FleetEvent I)) : Prop :=
  ∀ sa w cfg group sections, .act (.start sa w cfg group sections) ∈ es →
    P sa (deviceNames (boot w sections))

theorem Starts.admits (h : Starts P es) : ∀ e, .act e ∈ es → Admits P e := by
  intro e he
  cases e with
  | start sa w cfg group sections => exact h sa w cfg group sections he
  | serve sa e => trivial
  | poll sa => trivial
  | quit sa => trivial

/-- **What a listener keeps**, if it relies on nothing but authentic broadcasts. -/
theorem listener_keeps (hears : Broadcast → I → R → R) (r : R) {K : List Broadcast → R → Prop}
    {A : I → Prop} (hStarts : Starts P es) (hInputs : ∀ k input, .deliver k input ∈ es → A input)
    (hMore : ∀ said more r, K said r → K (said ++ more) r)
    (hHears : ∀ m input said r, A input → m ∈ said → Authentic P m → K said r →
      K said (hears m input r)) (hStart : K [] r) : Manned P (netRun hears r es).senders ∧
      K (netRun hears r es).said (netRun hears r es).receiver := by
  have hRun := channel_invariant (L := listening hears) (J := Manned P) (Q := Authentic P)
    (K := K) (c := silence r)
    (fun e fleet hOk h => ⟨manned_act h hOk, fun m hm => authentic_tells h hm⟩)
    hMore hHears hStarts.admits hInputs (fun sa host hAt => absurd hAt (by simp [silence]))
    (fun m hm => absurd hm (by simp [silence])) hStart
  exact ⟨hRun.1, hRun.2.2⟩

/-- **Every status message goes back to a server that polled.** -/
theorem status_origin (hStarts : Starts P es) (hm : m ∈ (netRun hears r es).said)
    (hStatus : broadcastStatus <+: m.text) : ∃ before after host,
      es = before ++ .act (.poll m.sa) :: after ∧
      (netRun hears r before).senders m.sa = some host ∧
      List.Forall₂ (ReportOf host) m.reports host.s.gDevices := by
  obtain ⟨before, e, after, hEs, hTells⟩ :=
    said_origin (L := listening hears) (c := silence r) hm (by simp [silence])
  have hBefore : Starts P before := fun sa w cfg group sections hStart =>
    hStarts sa w cfg group sections (hEs ▸ List.mem_append_left _ hStart)
  have hManned : Manned P (netRun hears r before).senders :=
    (listener_keeps hears r (K := fun _ _ => True) (A := fun _ => True) hBefore
      (fun _ _ _ => trivial) (fun _ _ _ _ => trivial) (fun _ _ _ _ _ _ _ _ => trivial) trivial).1
  obtain ⟨host, rfl, hAt, hTrue⟩ := tells_true hManned hTells hStatus
  exact ⟨before, after, host, hEs, hAt, hTrue⟩

end Listener

end LinkControl
