import LinkControl.LinuxClient.RoundTrip

/-!
# Linux client — status messages that are no broadcasts

What `process_status_message` does with a text that was not built by
`broadcast_status_message`, or was cut off by the receive buffer. It takes the text apart
into records (`records`); a status that starts with `UP` is searched for a blank from its
fourth character on, and what the search returns is used whether it has found one or not
(`ReadsOn`).

`status_message_safe_iff` says exactly which messages do no harm.
-/

namespace LinkControl.LinuxClient

open CString Tokens Keyed

-- ---------------------------------------------------------------------------
-- The records of a message
-- ---------------------------------------------------------------------------

/-- A name and a status as `strtok ()` finds them, and what is behind the status. -/
structure Record where
  name : CStr
  status : CStr
  behind : Option CStr
deriving DecidableEq, Repr

/-- The records of a text, at most `fuel` of them. -/
def recordsFrom : Nat → CStr → List Record
  | 0, _ => []
  | fuel + 1, message =>
    match strtok delims message with
    | none => []
    | some (name, rest) =>
      match strtok delims (rest.getD []) with
      | none => []
      | some (status, behind) => ⟨name, status, behind⟩ :: recordsFrom fuel (behind.getD [])

def records (message : CStr) : List Record := recordsFrom (message.length + 1) message

/-- A status that starts with `UP` has a blank behind its third character; for the status
`UP` this is in the text behind it. -/
def ReadsOn (r : Record) : Prop :=
  strncmpEq r.status "UP".toList "UP".length →
    ∃ x ∈ (if r.status.length < 3 then r.behind else some (r.status.drop 3)), ' ' ∈ x

/-- The names of a table, NULL where there was no memory for a copy. -/
def names (pp : List Device) : List (Option CStr) := pp.map Device.deviceName

/-- The records do no harm to a table with these names, `k` being how much memory has been
asked for: no NULL name is met in the search for a name, a name that is entered has been
copied, and the status can be read. -/
def Safe (w : Surroundings) : List Record → List (Option CStr) → Nat → Prop
  | [], _, _ => True
  | r :: rs, held, k =>
    none ∉ held.takeWhile (· ≠ some r.name) ∧
    if some r.name ∈ held then ReadsOn r ∧ Safe w rs held k
    else if (w.malloc k).isSome then
      if (w.malloc (k + 1)).isSome then
        (w.malloc (k + 2)).isSome → ReadsOn r ∧ Safe w rs (held ++ [some r.name]) (k + 3)
      -- get_device () compares the name of the new device only if there is another one
      else held = [] ∧ w.malloc (k + 2) = none
    else True

/-- No record has the name of the device. -/
def Unnamed (rs : List Record) (d : Device) : Bool := rs.all fun r => d.deviceName ≠ some r.name

/-- The message is read to an end, or until there is no memory for a device; names that were
distinct are, and devices that the message does not name are what they were. -/
def HandlesSafely (w : Surroundings) (message : CStr) (pp : List Device) (mallocs : Nat) : Prop :=
  ∃ result pp' mallocs',
    processStatusMessage w message pp mallocs = some (result, pp', mallocs') ∧
    ((names pp).Nodup → (names pp').Nodup) ∧
    pp'.filter (Unnamed (records message)) = pp.filter (Unnamed (records message))

-- ---------------------------------------------------------------------------
-- The loop, record by record
-- ---------------------------------------------------------------------------

/-- The loop of `process_status_message` on the records. -/
def readAll (w : Surroundings) : List Record → List Device → Nat →
    Option (Int × List Device × Nat)
  | [], pp, mallocs => some (0, pp, mallocs)
  | r :: rs, pp, mallocs =>
    match knownDevice w r.name pp mallocs with
    | none => none
    | some (none, mallocs) => some (-1, pp, mallocs)
    | some (some (pp, place), mallocs) =>
      match pp[place]? with
      | none => none
      | some d =>
        match readStatus r.status r.behind d with
        | none => none
        | some d => readAll w rs (pp.set place d) mallocs

variable {w : Surroundings} {pp : List Device} {mallocs : Nat} {r : Record} {rs : List Record}

/-- What is left of the message gets shorter with every token. -/
theorem strtok_length {message token : CStr} {rest : Option CStr}
    (h : strtok delims message = some (token, rest)) :
    (rest.getD []).length < message.length := by
  obtain ⟨⟨token', rest'⟩, hNext, hEq⟩ := Option.map_eq_some_iff.mp h
  obtain ⟨-, rfl⟩ := Prod.mk.inj hEq
  have hShorter := nextToken_length hNext
  cases rest' with
  | nil => simpa using hShorter
  | cons c tail =>
    rw [List.length_cons] at hShorter
    show tail.length < _
    omega

/-- The loop reads the records that the text has, one after the other. -/
theorem readRecords_eq {fuel : Nat} {message : CStr} (hFuel : message.length < fuel) :
    readRecords w fuel message pp mallocs = readAll w (recordsFrom fuel message) pp mallocs := by
  induction fuel generalizing message pp mallocs with
  | zero => omega
  | succ fuel ih =>
    unfold readRecords recordsFrom
    cases hName : strtok delims message with
    | none => rfl
    | some found =>
      obtain ⟨name, rest⟩ := found
      dsimp only
      cases hStatus : strtok delims (rest.getD []) with
      | none => rfl
      | some found =>
        obtain ⟨status, behind⟩ := found
        have hShorter : (behind.getD []).length < fuel := by
          have := strtok_length hName
          have := strtok_length hStatus
          omega
        simp only [ih hShorter]
        rfl

/-- The message is read record by record. -/
theorem processStatusMessage_eq (message : CStr) :
    processStatusMessage w message pp mallocs = readAll w (records message) pp mallocs :=
  readRecords_eq (Nat.lt_succ_self _)

-- ---------------------------------------------------------------------------
-- One record
-- ---------------------------------------------------------------------------

/-- The search for a name stops at a NULL. -/
theorem getDevice_eq (name : CStr) (pp : List Device) :
    getDevice (some name) pp =
      if none ∈ (names pp).takeWhile (· ≠ some name) then none
      else some (pp.findIdx? fun d => d.deviceName = some name) := by
  induction pp with
  | nil => rfl
  | cons d pp ih =>
    unfold getDevice
    cases hName : d.deviceName with
    | none => simp [names, hName]
    | some n =>
      dsimp only
      rw [ih]
      by_cases hSame : n = name
      · simp [names, hName, hSame, List.findIdx?_cons]
      · by_cases hNull : none ∈ (names pp).takeWhile (· ≠ some name)
        · have hCons : none ∈ (names (d :: pp)).takeWhile (· ≠ some name) := by
            simpa [names, hName, hSame] using hNull
          rw [if_neg hSame, if_pos hNull, if_pos hCons]
          rfl
        · have hCons : none ∉ (names (d :: pp)).takeWhile (· ≠ some name) := by
            simpa [names, hName, hSame] using hNull
          rw [if_neg hSame, if_neg hNull, if_neg hCons, List.findIdx?_cons]
          simp [hName, hSame]

/-- What is read into a device, and when it can be. -/
theorem readStatus_isSome (r : Record) (d : Device) :
    (∃ d', readStatus r.status r.behind d = some d' ∧ d'.deviceName = d.deviceName) ∧ ReadsOn r ∨
      readStatus r.status r.behind d = none ∧ ¬ ReadsOn r := by
  unfold readStatus ReadsOn
  by_cases hUp : strncmpEq r.status "UP".toList "UP".length = true
  · rw [if_pos hUp]
    cases hNumbers : if r.status.length < 3 then r.behind else some (r.status.drop 3) with
    | none => exact Or.inr ⟨rfl, fun h => absurd (h hUp) (by simp)⟩
    | some x =>
      dsimp only
      cases hBlank : strchr ' ' x with
      | none =>
        refine Or.inr ⟨rfl, fun h => ?_⟩
        obtain ⟨y, hy, hMem⟩ := h hUp
        obtain rfl := Option.some.inj hy
        exact strchr_none hBlank hMem
      | some n =>
        exact Or.inl ⟨⟨_, rfl, rfl⟩, fun _ => ⟨x, rfl, (strchr_some hBlank).1⟩⟩
  · rw [if_neg hUp]
    refine Or.inl ⟨?_, fun h => absurd h hUp⟩
    split
    · exact ⟨_, rfl, rfl⟩
    · split
      · exact ⟨_, rfl, rfl⟩
      · split
        · exact ⟨_, rfl, rfl⟩
        · exact ⟨_, rfl, rfl⟩

theorem mem_names {n : Option CStr} : n ∈ names pp ↔ ∃ d ∈ pp, d.deviceName = n := List.mem_map

/-- `get_device` with the name of a device whose name could not be copied. -/
theorem getDevice_null (pp : List Device) :
    getDevice none pp = if pp = [] then some none else none := by
  cases pp with
  | nil => rfl
  | cons d pp => cases hName : d.deviceName <;> simp [getDevice, hName]

/-- A record about a device of the table: it is read into the device, if it can be. -/
theorem readAll_known (w : Surroundings) (rs : List Record) (mallocs : Nat)
    (hNull : none ∉ (names pp).takeWhile (· ≠ some r.name))
    (hKnown : some r.name ∈ names pp) :
    (∃ d : Device, d.deviceName = some r.name ∧
      readAll w (r :: rs) pp mallocs = readAll w rs (place Device.deviceName d pp) mallocs) ∧
      ReadsOn r ∨
    readAll w (r :: rs) pp mallocs = none ∧ ¬ ReadsOn r := by
  obtain ⟨i, hPlace⟩ : ∃ i, pp.findIdx? (fun d => d.deviceName = some r.name) = some i := by
    rw [← Option.isSome_iff_exists, List.findIdx?_isSome, List.any_eq_true]
    obtain ⟨d, hd, hName⟩ := mem_names.mp hKnown
    exact ⟨d, hd, decide_eq_true hName⟩
  obtain ⟨hLt, hName, -⟩ := List.findIdx?_eq_some_iff_getElem.mp hPlace
  have hDevice : knownDevice w r.name pp mallocs = some (some (pp, i), mallocs) := by
    unfold knownDevice
    rw [getDevice_eq, if_neg hNull, hPlace]
  rcases readStatus_isSome r pp[i] with ⟨⟨d, hRead, hSame⟩, hOn⟩ | ⟨hRead, hOn⟩
  · have hd : d.deviceName = some r.name := hSame.trans (of_decide_eq_true hName)
    refine Or.inl ⟨⟨d, hd, ?_⟩, hOn⟩
    rw [readAll, hDevice]
    simp only [List.getElem?_eq_getElem hLt, hRead]
    rw [place_of_findIdx?]
    rw [hd]
    exact hPlace
  · refine Or.inr ⟨?_, hOn⟩
    rw [readAll, hDevice]
    simp only [List.getElem?_eq_getElem hLt, hRead]

/-- A device that is not in the table, when the search meets no NULL: it is entered if there is
memory for it, for its name and for the cell. -/
theorem knownDevice_new {name : CStr} (hNull : none ∉ (names pp).takeWhile (· ≠ some name))
    (hNew : some name ∉ names pp) :
    knownDevice w name pp mallocs =
      match w.malloc mallocs, w.malloc (mallocs + 1), w.malloc (mallocs + 2) with
      | none, _, _ => some (none, mallocs + 1)
      | some _, some _, none => some (none, mallocs + 3)
      | some _, some _, some _ =>
        some (some (pp ++ [⟨some name, .down, 0, 0⟩], pp.length), mallocs + 3)
      | some _, none, none => if pp = [] then some (none, mallocs + 3) else none
      | some _, none, some _ =>
        if pp = [] then some (some ([⟨none, .down, 0, 0⟩], 0), mallocs + 3) else none := by
  have hPlace : pp.findIdx? (fun d => d.deviceName = some name) = none := by
    rw [List.findIdx?_eq_none_iff]
    intro d hd
    exact decide_eq_false fun hName => hNew (mem_names.mpr ⟨d, hd, hName⟩)
  have hFind : getDevice (some name) pp = some none := by
    rw [getDevice_eq, if_neg hNull, hPlace]
  unfold knownDevice addDevice
  rw [hFind]
  cases w.malloc mallocs with
  | none => rfl
  | some block =>
    cases w.malloc (mallocs + 1) with
    | none =>
      by_cases hEmpty : pp = []
      · subst hEmpty
        cases w.malloc (mallocs + 2) <;> rfl
      · simp only [Option.map_none, getDevice_null, if_neg hEmpty]
        cases w.malloc (mallocs + 2) <;> rfl
    | some copy =>
      simp only [Option.map_some, hFind]
      cases w.malloc (mallocs + 2) <;> rfl

/-- A device whose name could not be copied stays as it is, and no other joins it. -/
theorem readAll_nameless {d : Device} (hName : d.deviceName = none) {result : Int}
    {pp' : List Device} {mallocs' : Nat}
    (h : readAll w rs [d] mallocs = some (result, pp', mallocs')) : pp' = [d] := by
  cases rs with
  | nil =>
    rw [readAll, Option.some.injEq, Prod.mk.injEq, Prod.mk.injEq] at h
    exact h.2.1.symm
  | cons r rs =>
    have hNone : knownDevice w r.name [d] mallocs = none := by
      simp [knownDevice, getDevice, hName]
    rw [readAll, hNone] at h
    exact absurd h (by simp)

-- ---------------------------------------------------------------------------
-- All records
-- ---------------------------------------------------------------------------

/-- What the loop leaves is what it should be, `all` being the records of the message. -/
def Leaves (all : List Record) (pp : List Device) (r : Option (Int × List Device × Nat)) : Prop :=
  ∃ result pp' mallocs', r = some (result, pp', mallocs') ∧
    ((names pp).Nodup → (names pp').Nodup) ∧ pp'.filter (Unnamed all) = pp.filter (Unnamed all)

variable {all : List Record}

/-- A message that crashes the client leaves nothing. -/
theorem leaves_none : ¬ Leaves all pp none := by
  intro h
  obtain ⟨_, _, _, hSome, -⟩ := h
  exact absurd hSome (by simp)

/-- A client that goes on with the table it had has taken nothing over. -/
theorem leaves_same (result : Int) (mallocs : Nat) : Leaves all pp (some (result, pp, mallocs)) :=
  ⟨result, pp, mallocs, rfl, id, rfl⟩

/-- The entry of a record that has been read makes no difference. -/
theorem leaves_place {d : Device} (hName : d.deviceName = some r.name) (hMem : r ∈ all)
    {x : Option (Int × List Device × Nat)} :
    Leaves all (place Device.deviceName d pp) x ↔ Leaves all pp x := by
  have hNamed : ∀ y : Device, y.deviceName = d.deviceName → Unnamed all y = false := by
    intro y hy
    rw [Unnamed, List.all_eq_false]
    exact ⟨r, hMem, by simp [hy, hName]⟩
  have hNodup : (names (place Device.deviceName d pp)).Nodup ↔ (names pp).Nodup := by
    unfold names
    rw [keys_place]
    split
    · rfl
    · rename_i hNew
      rw [List.nodup_append]
      constructor
      · exact And.left
      · intro h
        refine ⟨h, List.nodup_singleton _, ?_⟩
        intro a ha b hb
        rw [List.mem_singleton.mp hb]
        rintro rfl
        exact hNew ha
  unfold Leaves
  rw [hNodup, filter_place (hNamed d rfl) hNamed]

/-- A record of a new name goes to the end of the table. -/
theorem place_new {d : Device} (hName : d.deviceName = some r.name) (hNew : some r.name ∉ names pp) :
    pp ++ [d] = place Device.deviceName d pp := by
  rw [place_of_findIdx?_none]
  rw [List.findIdx?_eq_none_iff]
  intro y hy
  refine decide_eq_false fun hSame => hNew (mem_names.mpr ⟨y, hy, ?_⟩)
  rw [hSame, hName]

/-- The loop is safe exactly if the records are. -/
theorem readAll_leaves_iff (hAll : ∀ r ∈ rs, r ∈ all) :
    Leaves all pp (readAll w rs pp mallocs) ↔ Safe w rs (names pp) mallocs := by
  induction rs generalizing pp mallocs with
  | nil => exact iff_of_true (leaves_same 0 mallocs) trivial
  | cons r rs ih =>
    have hMem : r ∈ all := hAll r (List.mem_cons_self ..)
    have hRest : ∀ x ∈ rs, x ∈ all := fun x hx => hAll x (List.mem_cons_of_mem _ hx)
    rw [Safe]
    by_cases hNull : none ∈ (names pp).takeWhile (· ≠ some r.name)
    · -- the name of a device that has none is compared
      have hCrash : readAll w (r :: rs) pp mallocs = none := by
        rw [readAll, knownDevice, getDevice_eq, if_pos hNull]
      rw [hCrash]
      exact iff_of_false leaves_none fun h => h.1 hNull
    rw [and_iff_right hNull]
    by_cases hKnown : some r.name ∈ names pp
    · rw [if_pos hKnown]
      rcases readAll_known w rs mallocs hNull hKnown with
        ⟨⟨d, hName, hRead⟩, hOn⟩ | ⟨hCrash, hOn⟩
      · have hNames : names (place Device.deviceName d pp) = names pp := by
          unfold names at hKnown ⊢
          rw [keys_place, hName, if_pos hKnown]
        rw [hRead, ← leaves_place hName hMem, ih hRest, hNames, and_iff_right hOn]
      · rw [hCrash]
        exact iff_of_false leaves_none fun h => hOn h.1
    · rw [if_neg hKnown, readAll, knownDevice_new hNull hKnown]
      cases w.malloc mallocs with
      | none => exact iff_of_true (leaves_same _ _) trivial
      | some block =>
        rw [if_pos Option.isSome_some]
        cases w.malloc (mallocs + 1) with
        | some copy =>
          rw [if_pos Option.isSome_some]
          cases w.malloc (mallocs + 2) with
          | none => exact iff_of_true (leaves_same _ _) (by simp)
          | some cell =>
            have hLast : ∀ d : Device, (pp ++ [d])[pp.length]? = some d := by simp
            have hSet : ∀ d d' : Device, (pp ++ [d]).set pp.length d' = pp ++ [d'] := by
              intro d d'
              rw [List.set_append_right _ _ le_rfl]
              simp
            simp only [hLast, hSet, Option.isSome_some, forall_true_left]
            rcases readStatus_isSome r ⟨some r.name, .down, 0, 0⟩ with
              ⟨⟨d, hRead, hName⟩, hOn⟩ | ⟨hCrash, hOn⟩
            · have hNames : names (pp ++ [d]) = names pp ++ [some r.name] := by
                simp [names, hName]
              simp only [hRead]
              rw [← hNames, ← ih hRest, and_iff_right hOn, place_new hName hKnown,
                leaves_place hName hMem]
            · simp only [hCrash]
              exact iff_of_false leaves_none fun h => hOn h.1
        | none =>
          rw [if_neg (show ¬ (none : Option Nat).isSome = true by simp)]
          by_cases hEmpty : pp = []
          · subst hEmpty
            cases w.malloc (mallocs + 2) with
            | none => exact iff_of_true (leaves_same _ _) ⟨rfl, rfl⟩
            | some cell =>
              refine iff_of_false (fun h => ?_) (by simp)
              -- a device without a name is entered
              obtain ⟨result, pp', mallocs', hRead, -, hFilter⟩ := h
              rcases readStatus_isSome r ⟨none, .down, 0, 0⟩ with
                ⟨⟨d, hStatus, hName⟩, -⟩ | ⟨hStatus, -⟩
              · have hTable : readAll w rs [d] (mallocs + 3) = some (result, pp', mallocs') := by
                  simpa [hStatus] using hRead
                have hUnnamed : Unnamed all d = true := by
                  rw [Unnamed, List.all_eq_true]
                  exact fun x _ => by simp [hName]
                rw [readAll_nameless hName hTable, List.filter_cons_of_pos hUnnamed] at hFilter
                exact absurd hFilter (by simp)
              · simp [hStatus] at hRead
          · -- the name that could not be copied is compared
            have hNames : names pp ≠ [] := by simpa [names] using hEmpty
            refine iff_of_false ?_ fun h => hNames h.1
            cases w.malloc (mallocs + 2) <;> simp only [if_neg hEmpty] <;> exact leaves_none

/-- **Which messages do no harm.** Whatever the text and the table are,
`process_status_message` reads to the end, within the text and without using the result of
a search that has failed, and changes only the devices that the message names, if and only
if each record, up to the first for which there is no memory, can be read. -/
theorem status_message_safe_iff (w : Surroundings) (message : CStr) (pp : List Device)
    (mallocs : Nat) :
    HandlesSafely w message pp mallocs ↔ Safe w (records message) (names pp) mallocs := by
  unfold HandlesSafely
  rw [processStatusMessage_eq]
  exact readAll_leaves_iff fun _ hr => hr

/-- The broadcast of a device that is up, cut off behind its uptime. -/
theorem status_message_truncated :
    let report : Report := ⟨"ppp0".toList, .up, 12, 3⟩
    "ppp0\tUP 12".toList <+: report.text ∧
      processStatusMessage ⟨some, fun _ => 0⟩ "ppp0\tUP 12".toList [] 0 = none ∧
      ¬ HandlesSafely ⟨some, fun _ => 0⟩ "ppp0\tUP 12".toList [] 0 := by
  intro report
  have hCrash : processStatusMessage ⟨some, fun _ => 0⟩ "ppp0\tUP 12".toList [] 0 = none := by
    decide +kernel
  refine ⟨by decide +kernel, hCrash, fun h => ?_⟩
  obtain ⟨_, _, _, hSome, -⟩ := h
  rw [hCrash] at hSome
  exact absurd hSome (by simp)

end LinkControl.LinuxClient
