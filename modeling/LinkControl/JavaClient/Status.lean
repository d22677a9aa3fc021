import LinkControl.JavaClient.Packets
import LinkControl.LinuxClient.RoundTrip

/-!
# Java client — a status broadcast is read

`parseMessage ()` and `updateDeviceStatus ()` on the text of `broadcast_status_message`.
The tokens of a report are its name, its word and its numbers (`tokens_reportText`), if the
name has no blank in it; each report then changes the one device of its name (`heard`). A
device whose name no token is equal to stays as it was (`updateDeviceStatus_untouched`).
-/

namespace LinkControl.JavaClient

open Tokens

variable {J : JavaLang} {r : Report} {rs : List Report} {rest toke : CStr}

/-- The state that a status says. -/
def linkDeviceState : DeviceStatus → LinkDeviceState
  | .down => .down
  | .up => .up
  | .connecting => .connecting
  | .disconnecting => .disconnecting

/-- The report as the client's decoder has it. -/
def decoded (J : JavaLang) (r : Report) : Report := { r with name := J.decode r.name }

-- ---------------------------------------------------------------------------
-- Numbers
-- ---------------------------------------------------------------------------

/-- The digits of a number are read back. -/
theorem parseDigits_toDigits (J : JavaLang) (n : Nat) : parseDigits J (Nat.toDigits 10 n) = some n := by
  have hDigit : ∀ c ∈ Nat.toDigits 10 n, c.isDigit := fun c hc =>
    Nat.isDigit_of_mem_toDigits (by decide) (by decide) hc
  have hMap : ∀ s : CStr, (∀ c ∈ s, c.isDigit) →
      s.mapM J.digit = some (s.map fun c => c.toNat - 48) := by
    intro s hs
    induction s with
    | nil => rfl
    | cons c s ih =>
      rw [List.mapM_cons, J.digit_ascii c (hs c (List.mem_cons_self ..)),
        ih fun x hx => hs x (List.mem_cons_of_mem _ hx)]
      rfl
  have hFold : ∀ (s : CStr) (m : Nat),
      (s.map fun c => c.toNat - 48).foldl (fun n d => 10 * n + d) m = Nat.ofDigitChars 10 s m := by
    intro s m
    rw [List.foldl_map, Nat.ofDigitChars_eq_foldl]
    rfl
  rw [parseDigits, if_neg Nat.toDigits_ne_nil, hMap _ hDigit, Option.map_some, hFold,
    Nat.ofDigitChars_ten_toDigits]

/-- A number that an `int` can hold is read as it was printed. -/
theorem parseInt_decimal (J : JavaLang) {n : Int} (hLow : -2147483648 ≤ n) (hHigh : n ≤ 2147483647) :
    parseInt J (decimal n) = some n := by
  have hDigits := parseDigits_toDigits J n.natAbs
  unfold decimal
  split
  · rw [parseInt, hDigits, Option.bind_some, if_pos (by omega)]
    congr 1
    omega
  · obtain ⟨c, s, hEq⟩ := List.exists_cons_of_ne_nil (Nat.toDigits_ne_nil (n := n.natAbs) (b := 10))
    have hc : c.isDigit := Nat.isDigit_of_mem_toDigits (b := 10) (n := n.natAbs) (by decide)
      (by decide) (by simp [hEq])
    rw [hEq] at hDigits ⊢
    have hParse : parseInt J (c :: s) =
        (parseDigits J (c :: s)).bind fun n => if n ≤ 2147483647 then some ↑n else none := by
      unfold parseInt
      split
      · rename_i hMinus
        rw [(List.cons.inj hMinus).1] at hc
        exact absurd hc (by decide)
      · rename_i hPlus
        rw [(List.cons.inj hPlus).1] at hc
        exact absurd hc (by decide)
      · rfl
    rw [hParse, hDigits, Option.bind_some, if_pos (by omega)]
    congr 1
    omega

/-- What an `int` can hold. -/
def FitsInt (n : Int) : Prop := -2147483648 ≤ n ∧ n ≤ 2147483647

instance (n : Int) : Decidable (FitsInt n) := inferInstanceAs (Decidable (_ ∧ _))

/-- What `%d` prints is an `int`. -/
theorem fitsInt_toInt (n : Int) : FitsInt (toInt n) := by
  unfold FitsInt toInt
  rw [Int.bmod_def]
  omega

/-- A number is printed as itself when it fits. -/
theorem toInt_eq_iff {n : Int} : toInt n = n ↔ FitsInt n := by
  unfold FitsInt toInt
  rw [Int.bmod_def]
  omega

/-- A number that was printed as an `int` is read back. -/
theorem parseInt_toInt (J : JavaLang) (n : Int) : parseInt J (decimal (toInt n)) = some (toInt n) :=
  parseInt_decimal J (fitsInt_toInt n).1 (fitsInt_toInt n).2

-- ---------------------------------------------------------------------------
-- The text
-- ---------------------------------------------------------------------------

/-- A printed number is digits, and perhaps a sign. -/
theorem mem_decimal {n : Int} {c : Char} (h : c ∈ decimal n) : c.isDigit ∨ c = '-' := by
  have hDigit : ∀ c ∈ Nat.toDigits 10 n.natAbs, c.isDigit := fun c hc =>
    Nat.isDigit_of_mem_toDigits (by decide) (by decide) hc
  unfold decimal at h
  split at h
  · rcases List.mem_cons.mp h with rfl | h
    · exact Or.inr rfl
    · exact Or.inl (hDigit c h)
  · exact Or.inl (hDigit c h)

theorem decimal_ne_nil (n : Int) : decimal n ≠ [] := by
  unfold decimal
  split
  · simp
  · exact Nat.toDigits_ne_nil

/-- Neither a digit nor a sign is a blank or a control character. -/
theorem visible_decimal {n : Int} {c : Char} (h : c ∈ decimal n) :
    32 < c.toNat ∧ c.toNat < 128 := by
  rcases mem_decimal h with hDigit | rfl
  · obtain ⟨hLow, hHigh⟩ := Numbers.isDigit_iff.mp hDigit
    have hLow' : 48 ≤ c.toNat := hLow
    have hHigh' : c.toNat ≤ 57 := hHigh
    omega
  · decide

/-- The words for the statuses are visible ASCII. -/
theorem visible_statusWord (status : DeviceStatus) :
    ∀ c ∈ statusWord status, 32 < c.toNat ∧ c.toNat < 128 := by
  cases status <;> decide

/-- The numbers are blanks and printed numbers. -/
theorem ascii_numbers (r : Report) : ∀ c ∈ r.numbers, c.toNat < 128 := by
  intro c hc
  unfold Report.numbers at hc
  split at hc
  · simp only [List.mem_append, List.mem_singleton] at hc
    rcases hc with ((rfl | hc) | rfl) | hc
    · decide
    · exact (visible_decimal hc).2
    · decide
    · exact (visible_decimal hc).2
  · exact absurd hc List.not_mem_nil

/-- What is behind the name is ASCII, so names are decoded one by one. -/
theorem decode_reportText (J : JavaLang) (rs : List Report) :
    J.decode (reportText rs) = reportText (rs.map (decoded J)) := by
  induction rs with
  | nil => exact J.decode_nil
  | cons r rs ih =>
    set words := ['\t'] ++ statusWord r.status ++ r.numbers ++ ['\n'] with hWords
    have hText : reportText (r :: rs) = r.name ++ words ++ reportText rs := by
      rw [reportText, List.flatMap_cons, Report.text, hWords, ← reportText]
      simp
    have hDecoded : reportText ((r :: rs).map (decoded J)) =
        J.decode r.name ++ words ++ reportText (rs.map (decoded J)) := by
      rw [List.map_cons, reportText, List.flatMap_cons, Report.text, hWords, ← reportText]
      simp [decoded, Report.numbers]
    have hAscii : ∀ c ∈ words, c.toNat < 128 := by
      intro c hc
      simp only [hWords, List.mem_append, List.mem_singleton] at hc
      rcases hc with ((rfl | hc) | hc) | rfl
      · decide
      · exact (visible_statusWord _ c hc).2
      · exact ascii_numbers r c hc
      · decide
    rw [hText, hDecoded, decode_ascii_between J (by simp [hWords]) hAscii, ih]

-- ---------------------------------------------------------------------------
-- The tokens
-- ---------------------------------------------------------------------------

/-- The tokens of a report. -/
def reportTokens (r : Report) : List CStr :=
  [r.name, statusWord r.status] ++
    if r.status = .up then [decimal (toInt r.uptime), decimal (toInt r.users)] else []

/-- A name that is one token. -/
def IsToken (name : CStr) : Prop := name ≠ [] ∧ ∀ c ∈ name, delims c = false

theorem visible_of_delims {c : Char} (h : delims c) : c.toNat ≤ 32 := by
  simp only [delims, decide_eq_true_eq] at h
  rcases h with rfl | rfl | rfl <;> decide

/-- A visible text is one token. -/
theorem isToken_of_visible {s : CStr} (hNe : s ≠ []) (h : ∀ c ∈ s, 32 < c.toNat) : IsToken s := by
  refine ⟨hNe, fun c hc => ?_⟩
  by_contra hDelim
  have hLow := visible_of_delims (c := c) (by simpa using hDelim)
  have hHigh := h c hc
  omega

/-- A number is one token, -/
theorem isToken_decimal (n : Int) : IsToken (decimal n) :=
  isToken_of_visible (decimal_ne_nil n) fun _ hc => (visible_decimal hc).1

/-- and so is the word for a status. -/
theorem isToken_statusWord (status : DeviceStatus) : IsToken (statusWord status) :=
  isToken_of_visible (LinuxClient.statusWord_ne_nil status) fun c hc => (visible_statusWord _ c hc).1

/-- Tokens in front of a text: each is followed by one delimiter. -/
theorem tokens_up {name word uptime users : CStr} (hName : IsToken name) (hWord : IsToken word)
    (hUptime : IsToken uptime) (hUsers : IsToken users) :
    tokens delims (name ++ ['\t'] ++ word ++ ([' '] ++ uptime ++ [' '] ++ users) ++ ['\n'] ++ rest) =
      [name, word, uptime, users] ++ tokens delims rest := by
  have hText : name ++ ['\t'] ++ word ++ ([' '] ++ uptime ++ [' '] ++ users) ++ ['\n'] ++ rest =
      name ++ '\t' :: (word ++ ' ' :: (uptime ++ ' ' :: (users ++ '\n' :: rest))) := by simp
  rw [hText, tokens_append_cons hName.1 hName.2 rfl, tokens_append_cons hWord.1 hWord.2 rfl,
    tokens_append_cons hUptime.1 hUptime.2 rfl, tokens_append_cons hUsers.1 hUsers.2 rfl]
  rfl

/-- A line without numbers is two tokens. -/
theorem tokens_idle {name word : CStr} (hName : IsToken name) (hWord : IsToken word) :
    tokens delims (name ++ ['\t'] ++ word ++ [] ++ ['\n'] ++ rest) =
      [name, word] ++ tokens delims rest := by
  have hText : name ++ ['\t'] ++ word ++ [] ++ ['\n'] ++ rest =
      name ++ '\t' :: (word ++ '\n' :: rest) := by simp
  rw [hText, tokens_append_cons hName.1 hName.2 rfl, tokens_append_cons hWord.1 hWord.2 rfl]
  rfl

/-- **The tokens of one report.** -/
theorem tokens_report (hName : IsToken r.name) :
    tokens delims (r.text ++ rest) = reportTokens r ++ tokens delims rest := by
  have hWord := isToken_statusWord r.status
  by_cases hUp : r.status = .up
  · rw [Report.text, Report.numbers, reportTokens, if_pos hUp, if_pos hUp,
      tokens_up hName hWord (isToken_decimal _) (isToken_decimal _)]
    rfl
  · rw [Report.text, Report.numbers, reportTokens, if_neg hUp, if_neg hUp, tokens_idle hName hWord]
    rfl

/-- **The tokens of a list of reports.** -/
theorem tokens_reportText (hNames : ∀ r ∈ rs, IsToken r.name) :
    tokens delims (reportText rs) = rs.flatMap reportTokens := by
  induction rs with
  | nil => rfl
  | cons r rs ih =>
    rw [reportText, List.flatMap_cons, ← reportText, tokens_report (hNames r (List.mem_cons_self ..)),
      ih fun x hx => hNames x (List.mem_cons_of_mem _ hx), List.flatMap_cons]

/-- The words a status message starts with; the blank behind them is not one of them. -/
def broadcastStatusWords : CStr := Protocol.broadcastPrefix ++ [' '] ++ Protocol.broadcastStatus

/-- What is trimmed off a status message is delimiters. -/
theorem trimmed_reports (rs : List Report) : ∃ gap, (∀ c ∈ gap, delims c) ∧
    ' ' :: reportText rs = (' ' :: reportText rs).rdropWhile (· ≤ ' ') ++ gap := by
  induction rs using List.reverseRecOn with
  | nil => exact ⟨[' '], by decide, rfl⟩
  | append_singleton rs r _ =>
    set line := ' ' :: reportText rs ++ r.name ++ ['\t'] ++ (statusWord r.status ++ r.numbers)
      with hLine
    have hText : ' ' :: reportText (rs ++ [r]) = line ++ ['\n'] := by
      simp [hLine, reportText, Report.text]
    have hLast : ∀ c ∈ line.getLast?, ¬ c ≤ ' ' := by
      intro c hc
      have hWord := LinuxClient.statusWord_ne_nil r.status
      have hEnd : c ∈ (statusWord r.status ++ r.numbers).getLast? := by
        rwa [hLine, List.getLast?_append_of_ne_nil _
          (List.append_ne_nil_of_left_ne_nil hWord _)] at hc
      have hVisible : 32 < c.toNat := by
        by_cases hUp : r.status = .up
        · rw [Report.numbers, if_pos hUp, List.getLast?_append_of_ne_nil _ (by simp),
            List.getLast?_append_of_ne_nil _ (decimal_ne_nil _)] at hEnd
          exact (visible_decimal (List.mem_of_getLast? hEnd)).1
        · rw [Report.numbers, if_neg hUp, List.append_nil] at hEnd
          exact (visible_statusWord _ c (List.mem_of_getLast? hEnd)).1
      intro hLe
      have hLow : c.toNat ≤ 32 := hLe
      omega
    have hNewline : List.rdropWhile (fun c => decide (c ≤ ' ')) ['\n'] = [] := rfl
    refine ⟨['\n'], by decide, ?_⟩
    rw [hText, rdropWhile_append_neg (by simp [hLine]) fun c hc => by simpa using hLast c hc,
      hNewline, List.append_nil]

/-- **The tokens of a status message.** -/
theorem tokens_status (rs : List Report) :
    tokens delims (trim (broadcastStatus ++ reportText rs)) =
      Protocol.broadcastPrefix :: Protocol.broadcastStatus :: tokens delims (reportText rs) := by
  obtain ⟨gap, hGap, hText⟩ := trimmed_reports rs
  have hWords : broadcastStatus ++ reportText rs = broadcastStatusWords ++ ' ' :: reportText rs := rfl
  rw [hWords, trim_append (by decide) (by decide) (by decide),
    ← tokens_append_gap (s := broadcastStatusWords ++ _) hGap, List.append_assoc, ← hText]
  have hStart : broadcastStatusWords ++ ' ' :: reportText rs =
      Protocol.broadcastPrefix ++ ' ' :: (Protocol.broadcastStatus ++ ' ' :: reportText rs) := rfl
  rw [hStart, tokens_append_cons (by decide) (by decide) rfl,
    tokens_append_cons (by decide) (by decide) rfl]

/-- **A status message in a packet**, as the listener takes it apart. -/
theorem parseMessage_status (request : Request) (server : LinkServer) (l : Listener)
    (hLength : (broadcastStatus ++ reportText rs).length ≤ Protocol.maxPacketSize) :
    parseMessage J request (packetData (broadcastStatus ++ reportText rs)) server l =
      let (thrown, devices) := updateDeviceStatus J (tokens delims (reportText (rs.map (decoded J))))
        server.devicesControlled
      (thrown, { l with linkServers := setDevicesControlled server devices l.linkServers }) := by
  have hAscii : ∀ c ∈ broadcastStatus, c.toNat < 128 := by decide
  have hTokens := tokens_status (rs.map (decoded J))
  rw [← decode_reportText, ← decode_append J hAscii, ← trim_decode_packetData J hLength,
    decode_reportText] at hTokens
  unfold parseMessage
  rw [hTokens]
  rfl

-- ---------------------------------------------------------------------------
-- What the tokens do
-- ---------------------------------------------------------------------------

variable {toke : List CStr} {devices : List LinkDevice}

/-- **Invariant rule** of `updateDeviceStatus ()`: all it does is set the status of a device
that a token names. -/
theorem updateDeviceStatus_keeps {P : List LinkDevice → Prop}
    (hStep : ∀ deviceName ∈ toke, ∀ devices place state time users,
      getDevice J deviceName devices = some place → P devices →
        P (devices.modify place (LinkDevice.setStatus state time users)))
    (h : P devices) : P (updateDeviceStatus J toke devices).2 := by
  fun_induction updateDeviceStatus J toke devices with
  | case1 devices => exact h
  | case2 _ devices => exact h
  | case3 deviceName state toke devices hInvalid ih =>
    exact ih (fun name hName => hStep name (by simp [hName])) h
  | case4 deviceName state toke devices _ _ hUnknown => exact h
  | case5 deviceName state devices place hPlace => exact h
  | case6 deviceName state devices place hPlace time => exact h
  | case7 deviceName state devices place hPlace time users toke n m hUsers hTime hUp ih =>
    refine ih (fun name hName => hStep name (by simp [hName])) ?_
    exact hStep deviceName (by simp) devices place _ _ _ hPlace h
  | case8 deviceName state devices place hPlace time users toke => exact h
  | case9 deviceName state toke devices place hPlace _ ih =>
    exact ih (fun name hName => hStep name (by simp [hName])) h
  | case10 deviceName state toke devices place hPlace deviceState _ _ _ ih =>
    refine ih (fun name hName => hStep name (by simp [hName])) ?_
    exact hStep deviceName (by simp) devices place _ _ _ hPlace h

/-- A new status changes no name. -/
theorem names_modify (devices : List LinkDevice) (place : Nat) (state : LinkDeviceState)
    (time users : Int) :
    (devices.modify place (LinkDevice.setStatus state time users)).map LinkDevice.name =
      devices.map LinkDevice.name := by
  refine List.ext_getElem? fun i => ?_
  rw [List.getElem?_map, List.getElem?_map]
  rcases eq_or_ne place i with rfl | hNe
  · rw [List.getElem?_modify_eq]
    cases devices[place]? <;> rfl
  · rw [List.getElem?_modify_ne _ _ hNe]

/-- A device is looked for by its name alone. -/
theorem getDevice_congr {devices' : List LinkDevice}
    (h : devices'.map LinkDevice.name = devices.map LinkDevice.name) (name : CStr) :
    getDevice J name devices' = getDevice J name devices := by
  have hNames : ∀ ds : List LinkDevice,
      getDevice J name ds = (ds.map LinkDevice.name).findIdx? (equalsIgnoreCase J name) := by
    intro ds
    rw [List.findIdx?_map]
    rfl
  rw [hNames, hNames, h]

/-- **A device that no token leads to stays as it is.** -/
theorem updateDeviceStatus_untouched {i : Nat}
    (h : ∀ deviceName ∈ toke, getDevice J deviceName devices ≠ some i) :
    (updateDeviceStatus J toke devices).2[i]? = devices[i]? := by
  refine (updateDeviceStatus_keeps (P := fun ds =>
    ds.map LinkDevice.name = devices.map LinkDevice.name ∧ ds[i]? = devices[i]?) ?_ ⟨rfl, rfl⟩).2
  intro deviceName hToken ds place state time users hPlace hKept
  obtain ⟨hNames, hSame⟩ := hKept
  refine ⟨(names_modify ds place state time users).trans hNames, ?_⟩
  have hNe : place ≠ i := by
    rintro rfl
    rw [getDevice_congr hNames] at hPlace
    exact h deviceName hToken hPlace
  rw [List.getElem?_modify_ne _ _ hNe, hSame]

-- ---------------------------------------------------------------------------
-- What a report does
-- ---------------------------------------------------------------------------

/-- What a report says about the device of its name. -/
def heard (r : Report) : LinkDevice → LinkDevice :=
  LinkDevice.setStatus (linkDeviceState r.status) (if r.status = .up then toInt r.uptime else 0)
    (if r.status = .up then toInt r.users else 0)

/-- Every status is recognised by its word. -/
theorem getValue_statusWord (status : DeviceStatus) :
    getValue (statusWord status) = some (linkDeviceState status) := by
  cases status <;> rfl

/-- **One report**: the first device of its name is changed, and an unknown name is an
`Error`. -/
theorem updateDeviceStatus_report (J : JavaLang) (r : Report) (toke : List CStr)
    (devices : List LinkDevice) : updateDeviceStatus J (reportTokens r ++ toke) devices =
      match getDevice J r.name devices with
      | none => (some .error, devices)
      | some place => updateDeviceStatus J toke (devices.modify place (heard r)) := by
  have hValue := getValue_statusWord r.status
  cases hPlace : getDevice J r.name devices with
  | none => simp only [reportTokens, List.cons_append, updateDeviceStatus, hValue, hPlace]
  | some place =>
    cases hStatus : r.status with
    | up =>
      have hUptime := parseInt_toInt J r.uptime
      have hUsers := parseInt_toInt J r.users
      rw [hStatus] at hValue
      rw [reportTokens, heard, hStatus, if_pos rfl, if_pos rfl, if_pos rfl]
      generalize decimal (toInt r.uptime) = time at *
      generalize decimal (toInt r.users) = users at *
      simp only [List.cons_append, List.nil_append, updateDeviceStatus, hValue, linkDeviceState,
        hPlace, hUptime, hUsers]
    | _ =>
      rw [hStatus] at hValue
      simp [reportTokens, heard, hStatus, updateDeviceStatus, hValue, linkDeviceState, hPlace]

/-- What the reports make of the devices, if every name is known. -/
def hearAll (J : JavaLang) : List Report → List LinkDevice → List LinkDevice
  | [], devices => devices
  | r :: rs, devices =>
    hearAll J rs (match getDevice J r.name devices with
      | none => devices
      | some place => devices.modify place (heard r))

/-- **A list of reports** about known devices. -/
theorem updateDeviceStatus_reports (hKnown : ∀ r ∈ rs, (getDevice J r.name devices).isSome) :
    updateDeviceStatus J (rs.flatMap reportTokens) devices = (none, hearAll J rs devices) := by
  induction rs generalizing devices with
  | nil => rfl
  | cons r rs ih =>
    obtain ⟨place, hPlace⟩ := Option.isSome_iff_exists.mp (hKnown r (List.mem_cons_self ..))
    have hNames : (devices.modify place (heard r)).map LinkDevice.name =
        devices.map LinkDevice.name := names_modify ..
    rw [List.flatMap_cons, updateDeviceStatus_report, hearAll, hPlace]
    refine ih fun x hx => ?_
    rw [getDevice_congr hNames]
    exact hKnown x (List.mem_cons_of_mem _ hx)

/-- The first name that is not known ends it. -/
theorem updateDeviceStatus_unknown (hUnknown : ∃ r ∈ rs, getDevice J r.name devices = none) :
    (updateDeviceStatus J (rs.flatMap reportTokens) devices).1 = some .error := by
  induction rs generalizing devices with
  | nil => simp at hUnknown
  | cons r rs ih =>
    rw [List.flatMap_cons, updateDeviceStatus_report]
    cases hPlace : getDevice J r.name devices with
    | none => rfl
    | some place =>
      obtain ⟨x, hx, hNone⟩ := hUnknown
      have hNames : (devices.modify place (heard r)).map LinkDevice.name =
          devices.map LinkDevice.name := names_modify ..
      rcases List.mem_cons.mp hx with rfl | hx
      · rw [hPlace] at hNone
        exact absurd hNone (by simp)
      · exact ih ⟨x, hx, by rw [getDevice_congr hNames]; exact hNone⟩

end LinkControl.JavaClient
