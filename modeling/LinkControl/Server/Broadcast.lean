import LinkControl.Server.Frame
import LinkControl.Lib.Numbers

/-!
# Link server — broadcasts

`poll_clients.c`: the three messages the server sends to its multicast group.

The status message is the text of a list of reports (`reports_text`). A `Report` is what
`print_device_status` looks up about one device: its name, its status, how long it has
been connected and by how many users. Clients are told no more than that, so the two
decoders are compared with the reports.
-/

namespace LinkControl

open ReturnCode Numbers

-- ---------------------------------------------------------------------------
-- The messages (poll_clients.c)
-- ---------------------------------------------------------------------------

def broadcastPrefix : CStr := "BROADCAST ".toList
def broadcastInit : CStr := broadcastPrefix ++ "INIT".toList
def broadcastStatus : CStr := broadcastPrefix ++ "STATUS ".toList
def broadcastQuit : CStr := broadcastPrefix ++ "QUIT".toList

/-- `broadcast_message`. `group` is what `inet_aton ()` makes of `g_multicast_group`, with
the port. -/
def broadcastMessage (w : World) (group : Option SockAddr) (sendBuffer : CStr) (s : State) :
    Int × State :=
  match group with
  | none => (-1, s)
  | some sa =>
    match w.sendto s.sends with
    | none => (0, { s with sends := s.sends + 1, sent := (sa, sendBuffer) :: s.sent })
    | some e => (-1, { s with sends := s.sends + 1, errno := e })

/-- The loop of `broadcast_status_message`. -/
def appendStatuses (w : World) : List DevPtr → CStr → State → Option CStr × State
  | [], message, s => (some message, s)
  | d :: rest, message, s =>
    match printDeviceStatus w d s with
    | (none, s) => (none, s)
    | (some devStat, s) =>
      match malloc w s with
      | (none, s) => (none, s)
      | (some _, s) => appendStatuses w rest (message ++ devStat ++ ['\n']) s

/-- The message that `broadcast_status_message` builds; `none` if memory runs out. -/
def statusMessage (w : World) (s : State) : Option CStr × State :=
  match malloc w s with
  | (none, s) => (none, s)
  | (some _, s) => appendStatuses w s.gDevices broadcastStatus s

/-- `broadcast_status_message` -/
def broadcastStatusMessage (w : World) (group : Option SockAddr) (s : State) : Int × State :=
  match statusMessage w s with
  | (none, s) => (-1, s)
  | (some message, s) => broadcastMessage w group message s

/-- The body that `broadcast_init_message` and `broadcast_quit_message` share. The result of
`strdup ()` goes to `strlen ()` without a check. -/
def broadcastCopy (w : World) (group : Option SockAddr) (text : CStr) (s : State) : Int × State :=
  match malloc w s with
  | (none, s) => (-1, { s with crashed := true })
  | (some _, s) => broadcastMessage w group text s

/-- `broadcast_init_message` -/
def broadcastInitMessage (w : World) (group : Option SockAddr) (s : State) : Int × State :=
  broadcastCopy w group broadcastInit s

/-- `broadcast_quit_message` -/
def broadcastQuitMessage (w : World) (group : Option SockAddr) (s : State) : Int × State :=
  broadcastCopy w group broadcastQuit s

-- ---------------------------------------------------------------------------
-- Reports
-- ---------------------------------------------------------------------------

/-- What a status message says about a device. -/
structure Report where
  name : CStr
  status : DeviceStatus
  uptime : Int
  users : Nat
deriving DecidableEq, Repr

/-- The words after the tab. -/
def statusWord : DeviceStatus → CStr
  | .down => "DOWN".toList
  | .up => "UP".toList
  | .connecting => "CONNECTING".toList
  | .disconnecting => "DISCONNECTING".toList

/-- The numbers behind a status: those of a device that is up. -/
def Report.numbers (r : Report) : CStr :=
  if r.status = .up then
    [' '] ++ decimal (toInt r.uptime) ++ [' '] ++ decimal (toInt r.users)
  else []

/-- The line of a report. -/
def Report.text (r : Report) : CStr :=
  r.name ++ ['\t'] ++ statusWord r.status ++ r.numbers ++ ['\n']

/-- The text of a list of reports. -/
def reportText (rs : List Report) : CStr := rs.flatMap Report.text

/-- What there is to report about a device at a time. -/
def reportAt (now : Int) (d : Device) : Report where
  name := d.deviceName
  status := d.status
  uptime := if d.status = .up then now - d.connectTime else 0
  users := d.clientsConnected.length

/-- The report made at the next look at the clock. -/
def report (w : World) (d : DevPtr) (s : State) : Report :=
  reportAt (advance w s).clock (s.dev d)

/-- The reports of the devices, each made when the loop of `broadcast_status_message` comes
to it. -/
def reportsFrom (w : World) : List DevPtr → State → List Report
  | [], _ => []
  | d :: rest, s =>
    report w d (malloc w s).2 :: reportsFrom w rest (malloc w (printDeviceStatus w d s).2).2

/-- The reports in the message that `broadcast_status_message` builds. -/
def reports (w : World) (s : State) : List Report := reportsFrom w s.gDevices (malloc w s).2

variable {w : World} {s s' : State}

theorem malloc_some {p : Nat} (h : malloc w s = (some p, s')) :
    s' = { s with mallocs := s.mallocs + 1 } := by
  unfold malloc at h
  split at h
  · exact (Prod.mk.inj h).2.symm
  · exact absurd (Prod.mk.inj h).1 (by simp)

theorem gLinkStatusMessage_eq (status : DeviceStatus) : gLinkStatusMessage status =
    ['\t'] ++ statusWord status ++ if status = .up then [' '] else [] := by
  cases status <;> rfl

/-- `print_device_status` prints a report. -/
theorem printDeviceStatus_text {d : DevPtr} {devStat : CStr}
    (h : printDeviceStatus w d s = (some devStat, s')) :
    devStat ++ ['\n'] = (report w d (malloc w s).2).text := by
  unfold printDeviceStatus at h
  rcases hFirst : malloc w s with ⟨_ | p, s₁⟩
  · simp [hFirst] at h
  obtain rfl := malloc_some hFirst
  rw [hFirst] at h
  dsimp only at h
  rw [gLinkStatusMessage_eq] at h
  by_cases hUp : (s.dev d).status = .up
  · rw [if_pos hUp, if_pos hUp] at h
    rcases hSecond : malloc w (advance w { s with mallocs := s.mallocs + 1 }) with ⟨_ | q, s₂⟩
    · simp [hSecond] at h
    · rw [hSecond] at h
      dsimp only at h
      rw [Prod.mk.injEq, Option.some.injEq] at h
      rw [← h.1]
      simp only [Report.text, Report.numbers, report, reportAt, advance_dev, hUp, if_true,
        List.append_assoc]
  · rw [if_neg hUp, if_neg hUp, Prod.mk.injEq, Option.some.injEq] at h
    rw [← h.1]
    simp only [Report.text, Report.numbers, report, reportAt, hUp, if_false, List.append_assoc,
      List.append_nil]

theorem appendStatuses_text {ds : List DevPtr} {message text : CStr}
    (h : appendStatuses w ds message s = (some text, s')) :
    text = message ++ reportText (reportsFrom w ds s) := by
  induction ds generalizing message s with
  | nil =>
    obtain ⟨hText, -⟩ := Prod.mk.inj h
    simp [reportsFrom, reportText, Option.some.inj hText]
  | cons d rest ih =>
    rw [appendStatuses] at h
    rcases hPrint : printDeviceStatus w d s with ⟨_ | devStat, s₁⟩
    · simp [hPrint] at h
    rcases hMalloc : malloc w s₁ with ⟨_ | p, s₂⟩
    · simp [hPrint, hMalloc] at h
    simp only [hPrint, hMalloc] at h
    rw [ih h, reportsFrom, hPrint, hMalloc, List.append_assoc message devStat,
      printDeviceStatus_text hPrint]
    simp [reportText, List.append_assoc]

/-- **The status message.** What `broadcast_status_message` sends is the text of the reports
of its devices. -/
theorem reports_text {text : CStr} (h : statusMessage w s = (some text, s')) :
    text = broadcastStatus ++ reportText (reports w s) := by
  unfold statusMessage at h
  rcases hMalloc : malloc w s with ⟨_ | p, s₁⟩
  · simp [hMalloc] at h
  · have hSame : s₁.gDevices = s.gDevices := by rw [malloc_some hMalloc]
    simp only [hMalloc] at h
    rw [appendStatuses_text h, reports, hMalloc, hSame]

/-- Making a report changes nothing that reports are about. -/
theorem quiet_printed (w : World) (d : DevPtr) (s : State) :
    Quiet s (malloc w (printDeviceStatus w d s).2).2 :=
  (quiet_printDeviceStatus w d s).trans (quiet_malloc w _)

/-- The names in the reports of some devices are theirs, in order. -/
theorem reportsFrom_names (w : World) (ds : List DevPtr) (s : State) :
    (reportsFrom w ds s).map Report.name = ds.map fun d => (s.dev d).deviceName := by
  induction ds generalizing s with
  | nil => rfl
  | cons d rest ih =>
    rw [reportsFrom, List.map_cons, List.map_cons, ih, (quiet_printed w d s).dev]
    show ((malloc w s).2.dev d).deviceName :: _ = _
    rw [(quiet_malloc w s).dev]

/-- The names in the reports are those of the devices, in order. -/
theorem reports_names (w : World) (s : State) :
    (reports w s).map Report.name = s.gDevices.map fun d => (s.dev d).deviceName := by
  rw [reports, reportsFrom_names, (quiet_malloc w s).dev]

/-- A report is made while its device is printed. -/
theorem report_printed {d : DevPtr} {devStat : CStr}
    (h : printDeviceStatus w d s = (some devStat, s')) : ∃ now, s.clock ≤ now ∧ now ≤ s'.clock ∧
      report w d (malloc w s).2 = reportAt now (s.dev d) := by
  have hq := quiet_malloc w s
  by_cases hUp : (s.dev d).status = .up
  · refine ⟨s.clock + w.tick s.ticks, by omega, ?_, ?_⟩
    · unfold printDeviceStatus at h
      rcases hFirst : malloc w s with ⟨_ | p, s₁⟩
      · simp [hFirst] at h
      obtain rfl := malloc_some hFirst
      rw [hFirst] at h
      dsimp only at h
      rw [if_pos hUp] at h
      rcases hSecond : malloc w (advance w { s with mallocs := s.mallocs + 1 }) with ⟨_ | q, s₂⟩
      · simp [hSecond] at h
      · simp only [hSecond, Prod.mk.injEq] at h
        rw [← h.2, malloc_some hSecond]
        exact le_rfl
    · rw [report, hq.dev, advance_clock]
      unfold malloc
      split <;> rfl
  · refine ⟨s.clock, le_rfl, ?_, ?_⟩
    · have := (quiet_printDeviceStatus w d s).clock
      rwa [h] at this
    · rw [report, hq.dev, reportAt, reportAt, if_neg hUp, if_neg hUp]

/-- Every device is in the reports, as it was at some moment while the message was built. -/
theorem appendStatuses_reports {ds : List DevPtr} {message text : CStr}
    (h : appendStatuses w ds message s = (some text, s')) : s.clock ≤ s'.clock ∧ ∀ d ∈ ds,
      ∃ now, s.clock ≤ now ∧ now ≤ s'.clock ∧ reportAt now (s.dev d) ∈ reportsFrom w ds s := by
  induction ds generalizing message s with
  | nil =>
    obtain ⟨-, rfl⟩ := Prod.mk.inj h
    exact ⟨le_rfl, fun _ hd => absurd hd List.not_mem_nil⟩
  | cons d rest ih =>
    rw [appendStatuses] at h
    rcases hPrint : printDeviceStatus w d s with ⟨_ | devStat, s₁⟩
    · simp [hPrint] at h
    rcases hMalloc : malloc w s₁ with ⟨_ | p, s₂⟩
    · simp [hPrint, hMalloc] at h
    simp only [hPrint, hMalloc] at h
    have hPrinted := quiet_printDeviceStatus w d s
    have hNext := quiet_malloc w s₁
    rw [hPrint] at hPrinted
    rw [hMalloc] at hNext
    have hFirst : s.clock ≤ s₁.clock := hPrinted.clock
    have hSecond : s₁.clock ≤ s₂.clock := hNext.clock
    have hDev : s₂.dev = s.dev := hNext.dev.trans hPrinted.dev
    obtain ⟨hClock, hRest⟩ := ih h
    refine ⟨by omega, fun x hx => ?_⟩
    rw [reportsFrom, hPrint, hMalloc]
    rcases List.mem_cons.mp hx with rfl | hx
    · obtain ⟨now, hLow, hHigh, hReport⟩ := report_printed hPrint
      exact ⟨now, hLow, by omega, hReport ▸ List.mem_cons_self ..⟩
    · obtain ⟨now, hLow, hHigh, hMem⟩ := hRest x hx
      rw [hDev] at hMem
      exact ⟨now, by omega, hHigh, List.mem_cons_of_mem _ hMem⟩

theorem reports_devices {text : CStr} (h : statusMessage w s = (some text, s')) :
    ∀ d ∈ s.gDevices, ∃ now, s.clock ≤ now ∧ now ≤ s'.clock ∧
      reportAt now (s.dev d) ∈ reports w s := by
  intro d hd
  unfold statusMessage at h
  rcases hMalloc : malloc w s with ⟨_ | p, s₁⟩
  · simp [hMalloc] at h
  · have hEq := malloc_some hMalloc
    simp only [hMalloc] at h
    obtain ⟨now, hLow, hHigh, hMem⟩ := (appendStatuses_reports h).2 d (by rw [hEq]; exact hd)
    rw [reports, hMalloc]
    rw [hEq] at hLow hMem ⊢
    exact ⟨now, hLow, hHigh, hMem⟩

end LinkControl
