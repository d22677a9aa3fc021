import LinkControl.LinuxClient.ListenStatus

/-!
# Linux client — a status broadcast is understood

`process_status_message` on the text that `broadcast_status_message` builds. The two meet
at the list of reports: the server's text is the text of the reports (`reports_text`), and
every report that the client reads puts one entry into its table (`readRecords_report`):
under its name if the name is known, else at the end. So a broadcast is a
`Keyed.placeAll` of what the client receives about each device (`received`), and that is
what it is to show (`shown`) while uptimes fit an `int`.
-/

namespace LinkControl.LinuxClient

open CString Tokens Numbers Keyed

variable {w : Surroundings} {pp : List Device} {mallocs : Nat} {r : Report} {rs : List Report}

/-- What the client is to show about a device: the numbers only of one that is up. -/
def shown (r : Report) : Device where
  deviceName := some r.name
  status := r.status
  connectTime := if r.status = .up then r.uptime else 0
  noUsers := if r.status = .up then toUnsigned r.users else 0

/-- What the client receives about a device: its uptime has been converted to `int`. -/
def received (r : Report) : Device where
  deviceName := some r.name
  status := r.status
  connectTime := if r.status = .up then toInt r.uptime else 0
  noUsers := if r.status = .up then toUnsigned r.users else 0

/-- A name that the format can carry. -/
def Sendable (name : CStr) : Prop := name ≠ [] ∧ '\t' ∉ name ∧ '\n' ∉ name

/-- A report that survives the conversion of its uptime to `int`. -/
def Printable (r : Report) : Prop := r.status = .up → 0 ≤ r.uptime ∧ r.uptime ≤ 2147483647

instance (name : CStr) : Decidable (Sendable name) := inferInstanceAs (Decidable (_ ∧ _))

instance (r : Report) : Decidable (Printable r) :=
  inferInstanceAs (Decidable (r.status = .up → _))

-- ---------------------------------------------------------------------------
-- Numbers
-- ---------------------------------------------------------------------------

variable {rest : CStr}

/-- A printed number is read modulo 2^64. -/
theorem strtoul_decimal {n : Int} (h : n.natAbs ≤ ulongMax) (hRest : ∀ c ∈ rest.head?, isspace c) :
    (strtoul (decimal n ++ rest) : Int) = n % 18446744073709551616 := by
  unfold decimal
  have hMax : ulongMax = 18446744073709551615 := rfl
  split
  · rw [strtoul_neg_toDigits h hRest, hMax]
    omega
  · rw [strtoul_toDigits h hRest]
    omega

/-- No `int` is farther from 0 than the smallest one. -/
theorem natAbs_toInt (n : Int) : (toInt n).natAbs ≤ 2147483648 := by
  unfold toInt
  rw [Int.bmod_def]
  omega

/-- A number that an `int` can hold is itself. -/
theorem toInt_eq_self {n : Int} (hLow : 0 ≤ n) (hHigh : n ≤ 2147483647) : toInt n = n := by
  unfold toInt
  rw [Int.bmod_def]
  omega

/-- A number that has gone through an `unsigned long` comes back with its sign. -/
theorem toTime_eq_self {n : Int} {m : Nat} (h : (m : Int) = n % 18446744073709551616)
    (hAbs : n.natAbs ≤ 2147483648) : toTime m = n := by
  unfold toTime
  rw [Int.bmod_def]
  omega

/-- A number that was printed as an `int` is read back. -/
theorem toTime_strtoul (n : Int) (hRest : ∀ c ∈ rest.head?, isspace c) :
    toTime (strtoul (decimal (toInt n) ++ rest)) = toInt n := by
  have hAbs := natAbs_toInt n
  have hMax : ulongMax = 18446744073709551615 := rfl
  exact toTime_eq_self (strtoul_decimal (by omega) hRest) hAbs

theorem toUnsigned_eq {n m : Nat} (h : (m : Int) = toInt n % 18446744073709551616) :
    toUnsigned m = toUnsigned n := by
  unfold toUnsigned
  unfold toInt at h
  rw [Int.bmod_def] at h
  omega

/-- So is a count, as an `unsigned int`. -/
theorem toUnsigned_strtoul (n : Nat) (hRest : ∀ c ∈ rest.head?, isspace c) :
    toUnsigned (strtoul (decimal (toInt n) ++ rest)) = toUnsigned n := by
  have hAbs := natAbs_toInt n
  have hMax : ulongMax = 18446744073709551615 := rfl
  exact toUnsigned_eq (strtoul_decimal (by omega) hRest)

/-- There is no white space and no delimiter in a printed number. -/
theorem not_mem_decimal {c : Char} (hDigit : c.isDigit = false) (hMinus : c ≠ '-') (n : Int) :
    c ∉ decimal n := by
  have hDigits : c ∉ Nat.toDigits 10 n.natAbs := by
    intro hMem
    have := Nat.isDigit_of_mem_toDigits (by decide) (by decide) hMem
    rw [hDigit] at this
    exact absurd this (by simp)
  unfold decimal
  split
  · rw [List.mem_cons, not_or]
    exact ⟨hMinus, hDigits⟩
  · exact hDigits

-- ---------------------------------------------------------------------------
-- One record
-- ---------------------------------------------------------------------------

/-- A text without tabs and newlines is not cut. -/
theorem not_delims {s : CStr} (hTab : '\t' ∉ s) (hNewline : '\n' ∉ s) :
    ∀ c ∈ s, delims c = false := by
  intro c hc
  rw [delims, decide_eq_false_iff_not, not_or]
  constructor
  · intro hEq
    exact hNewline (hEq ▸ hc)
  · intro hEq
    exact hTab (hEq ▸ hc)

/-- Every status is printed as some word. -/
theorem statusWord_ne_nil (status : DeviceStatus) : statusWord status ≠ [] := by
  cases status <;> decide

/-- The status of a report, with its numbers, is one token. -/
theorem not_delims_status (r : Report) : ∀ c ∈ statusWord r.status ++ r.numbers, delims c = false := by
  have hWord : ∀ status, ∀ c ∈ statusWord status, delims c = false := by
    intro status
    cases status <;> decide
  have hDecimal : ∀ n, ∀ c ∈ decimal n, delims c = false := fun n =>
    not_delims (not_mem_decimal rfl (by decide) n) (not_mem_decimal rfl (by decide) n)
  intro c hc
  rcases List.mem_append.mp hc with hc | hc
  · exact hWord _ c hc
  · unfold Report.numbers at hc
    split at hc
    · simp only [List.mem_append, List.mem_singleton] at hc
      rcases hc with ((rfl | hc) | rfl) | hc
      · rfl
      · exact hDecimal _ c hc
      · rfl
      · exact hDecimal _ c hc
    · exact absurd hc List.not_mem_nil

/-- The word for Link Up is followed by two numbers, and they are read. -/
theorem readStatus_up {uptime users : CStr} (hSpace : ' ' ∉ uptime) (behind : Option CStr)
    (d : Device) :
    readStatus (statusWord .up ++ ([' '] ++ uptime ++ [' '] ++ users)) behind d = some { d with
      status := .up
      connectTime := toTime (strtoul (uptime ++ ' ' :: users))
      noUsers := toUnsigned (strtoul users) } := by
  set numbers := uptime ++ ' ' :: users with hNumbers
  have hWord : statusWord .up = ['U', 'P'] := rfl
  have hText : statusWord .up ++ ([' '] ++ uptime ++ [' '] ++ users) =
      'U' :: 'P' :: ' ' :: numbers := by rw [hWord, hNumbers]; simp
  have hUp : strncmpEq ('U' :: 'P' :: ' ' :: numbers) "UP".toList "UP".length = true := rfl
  have hLength : ¬ ('U' :: 'P' :: ' ' :: numbers).length < 3 := by simp
  have hDrop : ('U' :: 'P' :: ' ' :: numbers).drop 3 = numbers := rfl
  have hUsers : numbers.drop (uptime.length + 1) = users := by simp [hNumbers]
  rw [hText, readStatus, if_pos hUp, if_neg hLength, hDrop, hNumbers]
  rw [hNumbers] at hUsers
  simp only [strchr_append hSpace, hUsers]

/-- The status of a report says what the client receives. -/
theorem readStatus_report (r : Report) (behind : Option CStr) (d : Device) :
    readStatus (statusWord r.status ++ r.numbers) behind d =
      some { received r with deviceName := d.deviceName } := by
  by_cases hUp : r.status = .up
  · have hSpace : ' ' ∉ decimal (toInt r.uptime) := not_mem_decimal rfl (by decide) _
    have hUptime : toTime (strtoul (decimal (toInt r.uptime) ++ ' ' :: decimal (toInt r.users))) =
        toInt r.uptime := toTime_strtoul r.uptime (by simp [isspace])
    have hUsers : toUnsigned (strtoul (decimal (toInt r.users) ++ [])) = toUnsigned r.users :=
      toUnsigned_strtoul r.users (by simp)
    rw [List.append_nil] at hUsers
    rw [Report.numbers, received, hUp, if_pos rfl, if_pos rfl, if_pos rfl, readStatus_up hSpace,
      hUptime, hUsers]
  · rw [Report.numbers, received, if_neg hUp, if_neg hUp, if_neg hUp, List.append_nil]
    cases hStatus : r.status with
    | up => exact absurd hStatus hUp
    | _ => rfl

/-- Every name in the list is set. -/
def Named (pp : List Device) : Prop := ∀ d ∈ pp, d.deviceName.isSome

instance (pp : List Device) : Decidable (Named pp) := inferInstanceAs (Decidable (∀ d ∈ pp, _))

/-- In a table whose records all have names, the lookup finds the first record of the name. -/
theorem getDevice_named (hNamed : Named pp) (name : CStr) :
    getDevice (some name) pp = some (pp.findIdx? fun d => d.deviceName = some name) := by
  induction pp with
  | nil => rfl
  | cons d pp ih =>
    obtain ⟨n, hn⟩ := Option.isSome_iff_exists.mp (hNamed d (List.mem_cons_self ..))
    unfold getDevice
    rw [List.findIdx?_cons, ih fun x hx => hNamed x (List.mem_cons_of_mem _ hx)]
    by_cases hEq : n = name
    · simp [hEq, hn]
    · simp [hEq, hn]

theorem named_place (hNamed : Named pp) (r : Report) :
    Named (place Device.deviceName (received r) pp) := by
  have hKeys : ∀ n ∈ (place Device.deviceName (received r) pp).map Device.deviceName, n.isSome := by
    have hOld : ∀ n ∈ pp.map Device.deviceName, n.isSome := by
      intro n hn
      obtain ⟨d, hd, rfl⟩ := List.mem_map.mp hn
      exact hNamed d hd
    rw [keys_place]
    split
    · exact hOld
    · intro n hn
      rcases List.mem_append.mp hn with hn | hn
      · exact hOld n hn
      · rw [List.mem_singleton.mp hn]
        rfl
  exact fun d hd => hKeys _ (List.mem_map_of_mem hd)

/-- A table with names keeps having them. -/
theorem named_placeAll (hNamed : Named pp) (rs : List Report) :
    Named (placeAll Device.deviceName (rs.map received) pp) := by
  induction rs generalizing pp with
  | nil => exact hNamed
  | cons r rs ih => exact ih (named_place hNamed r)

/-- A record is at least one character. -/
theorem length_reportText (rs : List Report) : rs.length ≤ (reportText rs).length := by
  induction rs with
  | nil => exact Nat.zero_le _
  | cons r rs ih =>
    have hText : reportText (r :: rs) = r.text ++ reportText rs := List.flatMap_cons ..
    have hPos : 0 < r.text.length := by simp [Report.text]
    rw [hText, List.length_append, List.length_cons]
    omega

section Memory

variable (hMemory : ∀ k, (w.malloc k).isSome)
include hMemory

/-- With memory, the device of a record is found or entered at the end. -/
theorem knownDevice_eq (hNamed : Named pp) (name : CStr) (mallocs : Nat) :
    ∃ pp' place mallocs', knownDevice w name pp mallocs = some (some (pp', place), mallocs') ∧
      (∃ d, pp'[place]? = some d ∧ d.deviceName = some name) ∧
      ∀ x : Device, x.deviceName = some name →
        pp'.set place x = Keyed.place Device.deviceName x pp := by
  have hFind := getDevice_named hNamed name
  unfold knownDevice
  rw [hFind]
  cases hPlace : pp.findIdx? fun d => d.deviceName = some name with
  | some i =>
    refine ⟨pp, i, mallocs, rfl, ?_, fun x hx => ?_⟩
    · obtain ⟨hLt, hName, -⟩ := List.findIdx?_eq_some_iff_getElem.mp hPlace
      exact ⟨pp[i], List.getElem?_eq_getElem hLt, by simpa using hName⟩
    · rw [place_of_findIdx?]
      rw [hx]
      exact hPlace
  | none =>
    obtain ⟨p, hp⟩ := Option.isSome_iff_exists.mp (hMemory mallocs)
    obtain ⟨q, hq⟩ := Option.isSome_iff_exists.mp (hMemory (mallocs + 1))
    obtain ⟨c, hc⟩ := Option.isSome_iff_exists.mp (hMemory (mallocs + 2))
    have hAdd : addDevice w pp ⟨some name, .down, 0, 0⟩ (mallocs + 2) =
        some (some (pp ++ [⟨some name, .down, 0, 0⟩]), mallocs + 3) := by
      rw [addDevice, hFind, hPlace]
      simp only [hc]
    refine ⟨pp ++ [⟨some name, .down, 0, 0⟩], pp.length, mallocs + 3, ?_, ?_, fun x hx => ?_⟩
    · simp [hp, hq, hAdd]
    · exact ⟨⟨some name, .down, 0, 0⟩, by simp, rfl⟩
    · rw [place_of_findIdx?_none (by rw [hx]; exact hPlace), List.set_append_right _ _ le_rfl]
      simp

/-- **One record.** The client reads one report, and the rest of the message is left. -/
theorem readRecords_report (hNamed : Named pp) (hName : Sendable r.name) (fuel : Nat)
    (mallocs : Nat) : ∃ mallocs', readRecords w (fuel + 1) (r.text ++ rest) pp mallocs =
      readRecords w fuel rest (place Device.deviceName (received r) pp) mallocs' := by
  obtain ⟨hNe, hTab, hNewline⟩ := hName
  have hText : r.text ++ rest =
      [] ++ r.name ++ '\t' :: ([] ++ (statusWord r.status ++ r.numbers) ++ '\n' :: rest) := by
    simp [Report.text, List.append_assoc]
  have hFirst : strtok delims ([] ++ r.name ++ '\t' ::
      ([] ++ (statusWord r.status ++ r.numbers) ++ '\n' :: rest)) = some (r.name,
      some ([] ++ (statusWord r.status ++ r.numbers) ++ '\n' :: rest)) :=
    strtok_append (by simp) hNe (not_delims hTab hNewline) rfl
  have hWord : statusWord r.status ++ r.numbers ≠ [] :=
    List.append_ne_nil_of_left_ne_nil (statusWord_ne_nil r.status) _
  have hSecond : strtok delims ([] ++ (statusWord r.status ++ r.numbers) ++ '\n' :: rest) =
      some (statusWord r.status ++ r.numbers, some rest) :=
    strtok_append (by simp) hWord (not_delims_status r) rfl
  obtain ⟨pp', i, mallocs', hKnown, ⟨d, hd, hdName⟩, hSet⟩ :=
    knownDevice_eq hMemory hNamed r.name mallocs
  refine ⟨mallocs', ?_⟩
  rw [hText, readRecords, hFirst]
  simp only [Option.getD_some]
  rw [hSecond]
  simp only [hKnown, hd, readStatus_report, hdName, Option.getD_some]
  rw [hSet { received r with deviceName := some r.name } rfl]
  rfl

/-- **A list of records.** -/
theorem readRecords_reports (hNames : ∀ r ∈ rs, Sendable r.name) (hNamed : Named pp) {fuel : Nat}
    (hFuel : rs.length < fuel) (mallocs : Nat) :
    ∃ mallocs', readRecords w fuel (reportText rs) pp mallocs =
      some (0, placeAll Device.deviceName (rs.map received) pp, mallocs') := by
  induction rs generalizing pp fuel mallocs with
  | nil =>
    obtain ⟨fuel, rfl⟩ := Nat.exists_eq_succ_of_ne_zero (Nat.ne_of_gt hFuel)
    exact ⟨mallocs, rfl⟩
  | cons r rs ih =>
    obtain ⟨fuel, rfl⟩ := Nat.exists_eq_succ_of_ne_zero (Nat.ne_of_gt (Nat.zero_lt_of_lt hFuel))
    obtain ⟨mallocs', hRecord⟩ : ∃ mallocs',
        readRecords w (fuel + 1) (r.text ++ reportText rs) pp mallocs = readRecords w fuel
          (reportText rs) (place Device.deviceName (received r) pp) mallocs' :=
      readRecords_report hMemory hNamed (hNames r (List.mem_cons_self ..)) fuel mallocs
    have hText : reportText (r :: rs) = r.text ++ reportText rs := List.flatMap_cons ..
    rw [hText, hRecord]
    exact ih (fun x hx => hNames x (List.mem_cons_of_mem _ hx)) (named_place hNamed r)
      (by simpa using hFuel) mallocs'

/-- What the client makes of the text of a list of reports. -/
theorem processStatusMessage_reports (hNames : ∀ r ∈ rs, Sendable r.name) (hNamed : Named pp)
    (mallocs : Nat) : ∃ mallocs', processStatusMessage w (reportText rs) pp mallocs =
      some (0, placeAll Device.deviceName (rs.map received) pp, mallocs') :=
  readRecords_reports hMemory hNames hNamed (Nat.lt_succ_of_le (length_reportText rs)) mallocs

end Memory

-- ---------------------------------------------------------------------------
-- The broadcast
-- ---------------------------------------------------------------------------

/-- An uptime that an `int` can hold arrives as it is. -/
theorem received_eq_shown (h : Printable r) : received r = shown r := by
  by_cases hUp : r.status = .up
  · obtain ⟨hLow, hHigh⟩ := h hUp
    rw [received, shown, toInt_eq_self hLow hHigh]
  · rw [received, shown, if_neg hUp, if_neg hUp, if_neg hUp]

/-- Where the numbers can be printed, what is received is what is shown. -/
theorem map_received_eq_shown (h : ∀ r ∈ rs, Printable r) : rs.map received = rs.map shown :=
  List.map_congr_left fun r hr => received_eq_shown (h r hr)

/-- **A status broadcast is understood.** Whatever devices the client holds for the server,
under distinct names: while it has memory, `process_status_message` on the text that
`broadcast_status_message` has built succeeds and leaves a table that has every device of
the server, with its status, and with its uptime and its number of users (as an `unsigned
int`) if it is up and 0 and 0 if not; every device of the table that the message does not
name is what and where it was; no name occurs twice, and known devices keep their places.
The uptime is the one at some moment while the text was built. -/
theorem status_round_trip (v : World) (w : Surroundings) (s s' : LinkControl.State)
    (text : CStr) (pp : List Device) (mallocs : Nat)
    (hText : statusMessage v s = (some text, s'))
    (hDistinct : (s.gDevices.map fun d => (s.dev d).deviceName).Nodup)
    (hNames : ∀ d ∈ s.gDevices, Sendable (s.dev d).deviceName)
    (hUptimes : ∀ r ∈ reports v s, Printable r)
    (hNamed : Named pp) (hHeld : (pp.map Device.deviceName).Nodup)
    (hMemory : ∀ k, (w.malloc k).isSome) :
    ∃ table mallocs', processStatusMessage w (text.drop broadcastStatus.length) pp mallocs =
        some (0, table, mallocs') ∧
      (∀ d ∈ s.gDevices, ∃ now, s.clock ≤ now ∧ now ≤ s'.clock ∧
        shown (reportAt now (s.dev d)) ∈ table) ∧
      (∀ (i : Nat) x, pp[i]? = some x →
        (∀ d ∈ s.gDevices, x.deviceName ≠ some (s.dev d).deviceName) → table[i]? = some x) ∧
      (table.map Device.deviceName).Nodup ∧
      pp.map Device.deviceName <+: table.map Device.deviceName := by
  have hSendable : ∀ r ∈ reports v s, Sendable r.name := by
    intro r hr
    have hMem : r.name ∈ (reports v s).map Report.name := List.mem_map_of_mem hr
    rw [reports_names] at hMem
    obtain ⟨d, hd, hName⟩ := List.mem_map.mp hMem
    exact hName ▸ hNames d hd
  have hKeys : ((reports v s).map shown).map Device.deviceName =
      s.gDevices.map fun d => some (s.dev d).deviceName := by
    have hSome := congrArg (List.map some) (reports_names v s)
    rw [List.map_map, List.map_map] at hSome
    rw [List.map_map]
    exact hSome
  have hKeysDistinct : (((reports v s).map shown).map Device.deviceName).Nodup := by
    rw [hKeys]
    have hSome := hDistinct.map (Option.some_injective CStr)
    rwa [List.map_map] at hSome
  obtain ⟨mallocs', hRead⟩ :=
    processStatusMessage_reports hMemory hSendable hNamed mallocs
  rw [map_received_eq_shown hUptimes] at hRead
  refine ⟨placeAll Device.deviceName ((reports v s).map shown) pp, mallocs', ?_, fun d hd => ?_,
    fun i x hx hOther => ?_, nodup_placeAll hHeld, keys_placeAll _ _ pp⟩
  · rw [reports_text hText, List.drop_left]
    exact hRead
  · obtain ⟨now, hLow, hHigh, hMem⟩ := reports_devices hText d hd
    exact ⟨now, hLow, hHigh, mem_placeAll hKeysDistinct (List.mem_map_of_mem hMem)⟩
  · refine getElem?_placeAll ?_ hx
    rw [hKeys]
    intro hMem
    obtain ⟨d, hd, hName⟩ := List.mem_map.mp hMem
    exact hOther d hd hName.symm

/-- The server after one client has brought `ppp0` up. -/
def upServer : LinkControl.State :=
  serverRun (calmWorld 1 []) defaultConfig [aboutPpp clientUp 1, noticeAboutPpp notifyIsup]
    (boot (calmWorld 1 []) [pppSection])

/-- The broadcast of a server whose device is up, to a client that knows another one. -/
theorem status_round_trip_up :
    ∃ table mallocs', processStatusMessage ⟨some, fun _ => 0⟩
        (((statusMessage (calmWorld 1 []) upServer).1.getD []).drop broadcastStatus.length)
        [⟨some "isdn0".toList, .down, 0, 0⟩] 0 = some (0, table, mallocs') ∧
      (∀ d ∈ upServer.gDevices, ∃ now, upServer.clock ≤ now ∧
        now ≤ (statusMessage (calmWorld 1 []) upServer).2.clock ∧
        shown (reportAt now (upServer.dev d)) ∈ table) ∧
      (∀ (i : Nat) x, [(⟨some "isdn0".toList, .down, 0, 0⟩ : Device)][i]? = some x →
        (∀ d ∈ upServer.gDevices, x.deviceName ≠ some (upServer.dev d).deviceName) →
        table[i]? = some x) ∧
      (table.map Device.deviceName).Nodup ∧
      [some "isdn0".toList] <+: table.map Device.deviceName :=
  status_round_trip _ _ _ _ _ _ 0 (Prod.ext (by decide +kernel) rfl) (by decide +kernel)
    (by decide +kernel) (by decide +kernel) (by decide) (by decide) (fun _ => rfl)

/-- A client that has no memory left does not enter the device. -/
theorem status_round_trip_no_memory :
    processStatusMessage ⟨fun _ => none, fun _ => 0⟩
        (((statusMessage (calmWorld 1 []) upServer).1.getD []).drop broadcastStatus.length)
        [] 0 = some (-1, [], 1) ∧
      ¬ ∀ d ∈ upServer.gDevices, ∃ now, shown (reportAt now (upServer.dev d)) ∈ ([] : List Device) := by
  refine ⟨by decide +kernel, fun hAll => ?_⟩
  obtain ⟨now, hMem⟩ := hAll 0 (by decide +kernel)
  exact absurd hMem List.not_mem_nil

end LinkControl.LinuxClient
