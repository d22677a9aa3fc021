import LinkControl.Config.DeviceOptions
import LinkControl.Server.Static
import LinkControl.Server.DeviceList
import LinkControl.LinuxClient.RoundTrip

/-!
# Link server — what the configuration establishes

The functions that write messages and run commands take the strings of the devices as they
are: `send_device_list` gives the description to `strlen`, the link commands go to
`system ()`, and a name or a description with a tab or a newline in it breaks the records
that the clients take apart again. None of them tests a string, so the configuration has to.

`Established` is what it has to see to, `Encodable` what then holds of every record and every
command, and `encodable_iff` says for which configurations both hold throughout: the parser
supplies no default, accepts an empty name and takes tabs.
-/

namespace LinkControl

open ReturnCode

/-- Neither a tab nor a newline. -/
def Plain (text : CStr) : Prop := '\t' ∉ text ∧ '\n' ∉ text

/-- The strings of a device are fit to be sent and to be run. -/
structure Device.Fit (v : Device) : Prop where
  name : LinuxClient.Sendable v.deviceName
  description : ∃ text, v.deviceDescription = some text ∧ Plain text
  command : ∀ command, (v.command command).isSome

/-- The strings of all devices are fit, and no two devices have the same name. -/
structure Established (s : State) : Prop where
  fit : ∀ d ∈ s.gDevices, (s.dev d).Fit
  distinct : (deviceNames s).Nodup

/-- A record of two fields that can be read in one way only. -/
def TwoFields (record : CStr) : Prop :=
  ∃! fields : CStr × CStr, record = fields.1 ++ ['\t'] ++ fields.2 ++ ['\n'] ∧
    Plain fields.1 ∧ Plain fields.2

/-- No NULL string has been used, and all records have two fields. -/
structure Encodable (s : State) : Prop where
  /-- `send_device_list` was given no NULL description -/
  crashed : s.crashed = false
  /-- `system ()` was given no NULL command -/
  ran : ∀ t d command result, .ran t d command result ∈ s.trace →
    ((s.dev d).command command).isSome
  line : ∀ d ∈ s.gDevices, TwoFields (deviceLine (s.dev d))
  report : ∀ d ∈ s.gDevices, ∀ now, TwoFields (reportAt now (s.dev d)).text

/-- The sections that get a place in `g_devices`: those that have a name, not that of a
section with a place, when there is memory for the list cell. `p` and `k` count the sections
and the cells asked for. -/
def placed (w : World) : DevPtr → Nat → List CStr → List (Option CStr) → List DevPtr
  | _, _, _, [] => []
  | p, k, names, none :: rest => placed w (p + 1) k names rest
  | p, k, names, some name :: rest =>
    if names.contains name then placed w (p + 1) k names rest
    else if (w.malloc k).isSome then p :: placed w (p + 1) (k + 1) (name :: names) rest
    else placed w (p + 1) (k + 1) names rest

/-- The lines of every block. -/
def blockLines (m : Nat → SectionMemory) (fuel : Nat) :
    Nat → List Block → List (List (LineMemory × CStr))
  | _, [] => []
  | j, block :: rest => sectionLines (m j) fuel block.bytes :: blockLines m fuel (j + 1) rest

/-- The lines of every section that `read_config` reads. -/
def configLines (heap : Heap) (m : Nat → SectionMemory) (fuel : Nat) (text : CStr) :
    List (List (LineMemory × CStr)) :=
  match readConfig heap text fuel with
  | none => []
  | some (_, blocks) => blockLines m fuel 0 blocks

/-- The lines set a name that is not empty and a description, both without a tab, and the
three commands. -/
structure Complete (lines : List (LineMemory × CStr)) : Prop where
  name : ∃ text, lastValue lines .name = some text ∧ text ≠ [] ∧ '\t' ∉ text
  description : ∃ text, lastValue lines .description = some text ∧ '\t' ∉ text
  linkUp : (lastValue lines .linkUp).isSome
  linkDown : (lastValue lines .linkDown).isSome
  linkForceDown : (lastValue lines .linkForceDown).isSome

instance (lines : List (LineMemory × CStr)) : Decidable (Complete lines) :=
  decidable_of_iff
    ((∃ text ∈ lastValue lines .name, text ≠ [] ∧ '\t' ∉ text) ∧
      (∃ text ∈ lastValue lines .description, '\t' ∉ text) ∧
      (lastValue lines .linkUp).isSome ∧ (lastValue lines .linkDown).isSome ∧
      (lastValue lines .linkForceDown).isSome)
    ⟨fun ⟨hName, hText, hUp, hDown, hForce⟩ => ⟨hName, hText, hUp, hDown, hForce⟩,
      fun h => ⟨h.name, h.description, h.linkUp, h.linkDown, h.linkForceDown⟩⟩

-- ---------------------------------------------------------------------------
-- The list of devices
-- ---------------------------------------------------------------------------

section Loading

variable {w : World} {p : DevPtr} {s : State}

/-- A section without a name adds no device. -/
theorem loadDevice_of_none {sec : DeviceSection} (hName : sec.name = none) :
    loadDevice w p sec s = s := by
  unfold loadDevice
  rw [hName]

/-- A section with a name is written to its own block, and the block is entered if the name
is new and there is memory for the cell. -/
theorem loadDevice_cases {sec : DeviceSection} {name : CStr} (hName : sec.name = some name)
    (hFresh : ∀ d ∈ s.gDevices, d < p) :
    (loadDevice w p sec s).dev = Function.update s.dev p (sec.device name) ∧
    ((name ∈ deviceNames s ∧ (loadDevice w p sec s).gDevices = s.gDevices ∧
        (loadDevice w p sec s).mallocs = s.mallocs) ∨
      (name ∉ deviceNames s ∧ (loadDevice w p sec s).mallocs = s.mallocs + 1 ∧
        (loadDevice w p sec s).gDevices =
          if (w.malloc s.mallocs).isSome then s.gDevices ++ [p] else s.gDevices)) := by
  unfold loadDevice deviceNames
  rw [hName]
  dsimp only
  set s₁ : State := { s with dev := Function.update s.dev p (sec.device name) } with hs₁
  have hOld : ∀ d ∈ s.gDevices, (s₁.dev d).deviceName = (s.dev d).deviceName := fun d hd =>
    congrArg Device.deviceName (Function.update_of_ne (Nat.ne_of_lt (hFresh d hd)) _ _)
  have hSelf : (s₁.dev p).deviceName = name :=
    congrArg Device.deviceName (Function.update_self p (sec.device name) s.dev)
  unfold addDevice
  rcases hGet : getDevice s.gDevices (s₁.dev p).deviceName s₁ with ⟨_ | d, s'⟩
  · obtain ⟨hNone, rfl⟩ := getDevice_none hGet
    have hNew : p ∉ s.gDevices := fun hp => absurd (hFresh p hp) (Nat.lt_irrefl p)
    have hNotIn : name ∉ s.gDevices.map fun d => (s.dev d).deviceName := by
      intro hMem
      obtain ⟨d, hd, hEq⟩ := List.mem_map.mp hMem
      exact hNone d hd ((hOld d hd).trans (hEq.trans hSelf.symm))
    rcases appendCell_cases w (s₁.setErrno .enodev) hNew with ⟨hm, hEq⟩ | ⟨hm, hEq⟩ <;>
      dsimp only <;> rw [hEq] <;> refine ⟨rfl, Or.inr ⟨hNotIn, rfl, ?_⟩⟩
    · have hNoCell : ¬ (w.malloc s.mallocs).isSome = true := by
        rw [show w.malloc s.mallocs = none from hm]
        simp
      exact (if_neg hNoCell).symm
    · exact (if_pos hm).symm
  · obtain ⟨hd, hEq, rfl⟩ := getDevice_some hGet
    refine ⟨rfl, Or.inl ⟨?_, rfl, rfl⟩⟩
    exact List.mem_map.mpr ⟨d, hd, (hOld d hd).symm.trans (hEq.trans hSelf)⟩

/-- What the list holds that a list of sections leaves, and what the blocks of the sections
then hold. -/
structure Loaded (w : World) (p : DevPtr) (names : List CStr) (sections : List DeviceSection)
    (s s' : State) : Prop where
  gDevices : s'.gDevices =
    s.gDevices ++ placed w p s.mallocs names (sections.map DeviceSection.name)
  old : ∀ d < p, s'.dev d = s.dev d
  new : ∀ i sec name, sections[i]? = some sec → sec.name = some name →
    s'.dev (p + i) = sec.device name

/-- One section, and the rest. -/
theorem Loaded.cons {s₁ s' : State} {sec : DeviceSection} {rest : List DeviceSection}
    {names names₁ : List CStr} (h : Loaded w (p + 1) names₁ rest s₁ s')
    (hOld : ∀ d < p, s₁.dev d = s.dev d)
    (hSelf : ∀ name, sec.name = some name → s₁.dev p = sec.device name)
    (hList : s₁.gDevices ++ placed w (p + 1) s₁.mallocs names₁ (rest.map DeviceSection.name) =
      s.gDevices ++ placed w p s.mallocs names (sec.name :: rest.map DeviceSection.name)) :
    Loaded w p names (sec :: rest) s s' where
  gDevices := h.gDevices.trans hList
  old d hd := (h.old d (Nat.lt_succ_of_lt hd)).trans (hOld d hd)
  new i sec' name hAt hName := by
    cases i with
    | zero =>
      obtain rfl : sec = sec' := by simpa using hAt
      exact (h.old p (Nat.lt_succ_self p)).trans (hSelf name hName)
    | succ i =>
      have hIndex : p + i.succ = p + 1 + i := (Nat.succ_add_eq_add_succ p i).symm
      rw [hIndex]
      exact h.new i sec' name (by simpa using hAt) hName

theorem loaded_loadDevices {sections : List DeviceSection} {names : List CStr}
    (hFresh : ∀ d ∈ s.gDevices, d < p) (hNames : ∀ name, name ∈ names ↔ name ∈ deviceNames s) :
    Loaded w p names sections s (loadDevices w p sections s) := by
  induction sections generalizing p s names with
  | nil => exact ⟨by simp [loadDevices, placed], fun _ _ => rfl, by simp⟩
  | cons sec rest ih =>
    have hLater : ∀ d ∈ s.gDevices, d < p + 1 := fun d hd => Nat.lt_succ_of_lt (hFresh d hd)
    rw [loadDevices]
    cases hName : sec.name with
    | none =>
      rw [loadDevice_of_none hName]
      refine (ih hLater hNames).cons (fun _ _ => rfl) (fun name hSome => ?_) ?_
      · simp [hName] at hSome
      · rw [hName, placed]
    | some name =>
      obtain ⟨hDev, hCases⟩ := loadDevice_cases (w := w) hName hFresh
      set s₁ := loadDevice w p sec s with hs₁
      have hOld : ∀ d < p, s₁.dev d = s.dev d := fun d hd => by
        rw [hDev, Function.update_of_ne (Nat.ne_of_lt hd)]
      have hSelf : s₁.dev p = sec.device name := by rw [hDev, Function.update_self]
      have hSame : s.gDevices.map (fun d => (s₁.dev d).deviceName) = deviceNames s :=
        List.map_congr_left fun d hd => congrArg Device.deviceName (hOld d (hFresh d hd))
      have hKnown : s₁.gDevices = s.gDevices → ∀ n, n ∈ names ↔ n ∈ deviceNames s₁ := by
        intro hList n
        rw [hNames, ← hSame, ← hList]
        rfl
      have hSelf' : ∀ name', sec.name = some name' → s₁.dev p = sec.device name' := by
        intro name' hSome
        rw [hSelf, Option.some.inj (hName.symm.trans hSome)]
      rcases hCases with ⟨hIn, hList, hMallocs⟩ | ⟨hNotIn, hMallocs, hList⟩
      · refine (ih (hList ▸ hLater) (hKnown hList)).cons hOld hSelf' ?_
        rw [hList, hMallocs, hName, placed,
          if_pos (List.contains_iff_mem.mpr ((hNames name).mpr hIn))]
      · have hNew : ¬ names.contains name = true := fun hMem =>
          hNotIn ((hNames name).mp (List.contains_iff_mem.mp hMem))
        by_cases hCell : (w.malloc s.mallocs).isSome
        · rw [if_pos hCell] at hList
          have hNames₁ : ∀ n, n ∈ name :: names ↔ n ∈ deviceNames s₁ := by
            intro n
            rw [deviceNames, hList, List.map_append, hSame, List.mem_append, List.mem_cons, hNames]
            simp [hSelf, DeviceSection.device, or_comm]
          refine (ih (fun d hd => ?_) hNames₁).cons hOld hSelf' ?_
          · rw [hList] at hd
            rcases List.mem_append.mp hd with hd | hd
            · exact hLater d hd
            · rw [List.mem_singleton.mp hd]
              exact Nat.lt_succ_self p
          · rw [hList, hMallocs, hName, placed, if_neg hNew, if_pos hCell, List.append_assoc]
            rfl
        · rw [if_neg hCell] at hList
          refine (ih (hList ▸ hLater) (hKnown hList)).cons hOld hSelf' ?_
          rw [hList, hMallocs, hName, placed, if_neg hNew, if_neg hCell]

/-- A place is taken by a section that has a name. -/
theorem mem_placed {k : Nat} {names : List CStr} {l : List (Option CStr)} {d : DevPtr}
    (h : d ∈ placed w p k names l) : ∃ i name, d = p + i ∧ l[i]? = some (some name) := by
  induction l generalizing p k names with
  | nil => exact absurd h List.not_mem_nil
  | cons head rest ih =>
    have hLater : ∀ {k names}, d ∈ placed w (p + 1) k names rest →
        ∃ i name, d = p + i ∧ (head :: rest)[i]? = some (some name) := by
      intro k names hd
      obtain ⟨i, name, rfl, hAt⟩ := ih hd
      exact ⟨i + 1, name, by rw [Nat.add_comm i 1, Nat.add_assoc], by simpa using hAt⟩
    cases head with
    | none =>
      rw [placed] at h
      exact hLater h
    | some name =>
      rw [placed] at h
      split at h
      · exact hLater h
      · split at h
        · rcases List.mem_cons.mp h with rfl | h
          · exact ⟨0, name, rfl, rfl⟩
          · exact hLater h
        · exact hLater h

/-- The devices of the server as it starts are the sections with a place. -/
theorem boot_gDevices (w : World) (sections : List DeviceSection) :
    (boot w sections).gDevices = placed w 0 0 [] (sections.map DeviceSection.name) :=
  (loaded_loadDevices (s := emptyState w) (by simp [emptyState])
    (by simp [deviceNames, emptyState])).gDevices

/-- Every device of the server comes from a section of the file that names it. -/
theorem boot_dev {sections : List DeviceSection} {d : DevPtr}
    (h : d ∈ (boot w sections).gDevices) : ∃ sec name, sections[d]? = some sec ∧
      sec.name = some name ∧ (boot w sections).dev d = sec.device name := by
  have hLoaded : Loaded w 0 [] sections (emptyState w) (boot w sections) :=
    loaded_loadDevices (by simp [emptyState]) (by simp [deviceNames, emptyState])
  rw [boot_gDevices] at h
  obtain ⟨i, name, hd, hAt⟩ := mem_placed h
  rw [Nat.zero_add] at hd
  subst hd
  rw [List.getElem?_map] at hAt
  obtain ⟨sec, hSec, hName⟩ := Option.map_eq_some_iff.mp hAt
  refine ⟨sec, name, hSec, hName, ?_⟩
  have hBlock := hLoaded.new d sec name hSec hName
  rwa [Nat.zero_add] at hBlock

end Loading

-- ---------------------------------------------------------------------------
-- Records
-- ---------------------------------------------------------------------------

/-- Two plain fields are all there is to the record they make. -/
theorem twoFields_of_plain {a b : CStr} (ha : Plain a) (hb : Plain b) :
    TwoFields (a ++ ['\t'] ++ b ++ ['\n']) := by
  have hFirst : ∀ {x y : CStr}, Plain x →
      (x ++ ['\t'] ++ y ++ ['\n']).takeWhile (· ≠ '\t') = x := by
    intro x y hx
    rw [List.append_assoc, List.append_assoc, List.takeWhile_append_of_pos]
    · simp
    · intro c hc
      exact decide_eq_true fun hEq => hx.1 (hEq ▸ hc)
  refine ⟨(a, b), ⟨rfl, ha, hb⟩, ?_⟩
  rintro ⟨a', b'⟩ ⟨hEq, ha', -⟩
  dsimp only at hEq ha'
  have hSame : a' = a := by rw [← hFirst (y := b') ha', ← hEq, hFirst ha]
  subst hSame
  have hRest : b = b' := by simpa using hEq
  rw [hRest]

/-- The line of a fit device has exactly two fields. -/
theorem twoFields_deviceLine {v : Device} (h : v.Fit) : TwoFields (deviceLine v) := by
  obtain ⟨text, hText, hPlain⟩ := h.description
  have hLine : deviceLine v = v.deviceName ++ ['\t'] ++ text ++ ['\n'] := by
    rw [deviceLine, hText]
    rfl
  rw [hLine]
  exact twoFields_of_plain h.name.2 hPlain

/-- So has the line that reports its status. -/
theorem twoFields_report {r : Report} (hName : Plain r.name) : TwoFields r.text := by
  have hNot : ∀ {c}, LinuxClient.delims c = true → c ∉ statusWord r.status ++ r.numbers := by
    intro c hDelim hMem
    rw [LinuxClient.not_delims_status r c hMem] at hDelim
    exact absurd hDelim (by simp)
  have hText : r.text = r.name ++ ['\t'] ++ (statusWord r.status ++ r.numbers) ++ ['\n'] := by
    rw [Report.text]
    simp
  rw [hText]
  exact twoFields_of_plain hName ⟨hNot (by decide), hNot (by decide)⟩

-- ---------------------------------------------------------------------------
-- Runs
-- ---------------------------------------------------------------------------

variable {w : World} {cfg : Config} {s s' : State}

/-- Fitness is a matter of the options. -/
theorem Device.Fit.of_options {v v' : Device} (h : v.Fit) (hSame : v'.options = v.options) :
    v'.Fit := by
  have hName : v'.deviceName = v.deviceName :=
    Option.some.inj (congrArg DeviceSection.name hSame)
  have hDescription : v'.deviceDescription = v.deviceDescription :=
    congrArg DeviceSection.description hSame
  have hCommand : ∀ command, v'.command command = v.command command := by
    intro command
    cases command with
    | linkUp => exact congrArg DeviceSection.linkUp hSame
    | linkDown => exact congrArg DeviceSection.linkDown hSame
    | linkForceDown => exact congrArg DeviceSection.linkForceDown hSame
  exact ⟨hName ▸ h.name, hDescription ▸ h.description, fun c => hCommand c ▸ h.command c⟩

/-- Every device of such a server has a description. -/
theorem Established.described (h : Established s) : Described s := by
  intro d hd
  obtain ⟨text, hText, -⟩ := (h.fit d hd).description
  rw [hText]
  rfl

/-- What is established stays so. -/
theorem Established.static (h : Established s) (hStatic : Static s s') : Established s' where
  fit d hd := (h.fit d (hStatic.gDevices ▸ hd)).of_options (hStatic.options d)
  distinct := hStatic.deviceNames.symm ▸ h.distinct

/-- Every command that was run is one of a listed device. -/
def Recorded (s : State) : Prop := ∀ e ∈ s.trace, ∀ d, e.device = some d → d ∈ s.gDevices

/-- Nothing that happens to the server changes what was recorded. -/
theorem recorded_kept : Kept w cfg (fun _ _ => True) (fun s => WellFormed s ∧ Recorded s)
    (fun _ s => WellFormed s ∧ Recorded s) := by
  refine Kept.uniform And.left ?_ ?_ ?_ ?_ ?_
  · intro s s' hq h
    refine ⟨h.1.quiet hq, fun e he d hd => ?_⟩
    rw [hq.gDevices]
    exact h.2 e (hq.trace ▸ he) d hd
  · intro c s s' hj h
    refine ⟨h.1.joined hj, fun e he d hd => ?_⟩
    rw [hj.gDevices]
    exact h.2 e (hj.trace ▸ he) d hd
  · intro s t a h
    refine ⟨h.1.log _, fun e he d hd => ?_⟩
    rcases List.mem_cons.mp he with rfl | he
    · simp [Effect.device] at hd
    · exact h.2 e he d hd
  · intro o s h hApplies _
    have hc := confined_run w cfg o s
    obtain ⟨new, hTrace, hNew⟩ := hc.trace
    refine ⟨h.1.run hApplies, fun e he d hd => ?_⟩
    rw [hc.gDevices]
    rw [hTrace] at he
    rcases List.mem_append.mp he with he | he
    · have hDevice : d = o.device := Option.some.inj (hd.symm.trans (hNew e he))
      rw [hDevice]
      exact hApplies.device_mem
    · exact h.2 e he d hd
  · exact fun h _ hGone => ⟨h.1.dropped hGone, h.2⟩

/-- Records and commands, in a state in which the strings are as they should be. -/
theorem Established.encodable (h : Established s) (hCrashed : s.crashed = false)
    (hRecorded : Recorded s) : Encodable s where
  crashed := hCrashed
  ran _ d command _ hMem := (h.fit d (hRecorded _ hMem d rfl)).command command
  line d hd := twoFields_deviceLine (h.fit d hd)
  report d hd _ := twoFields_report (h.fit d hd).name.2

/-- What the configuration has established holds in every run, and all that is sent and run
relies on it rightly. -/
theorem Established.run {sections : List DeviceSection} (h : Established (boot w sections))
    (es : List Event) : Established (serverRun w cfg es (boot w sections)) ∧
      Encodable (serverRun w cfg es (boot w sections)) := by
  have hBooted := booted_boot w sections
  have hStatic := static_run w cfg (boot w sections) h.described es
  have hStart : WellFormed (boot w sections) ∧ Recorded (boot w sections) :=
    ⟨hBooted.wellFormed, fun e he => by simp [hBooted.trace] at he⟩
  have hKept : Kept w cfg (fun _ _ => True) (fun s => WellFormed s ∧ Recorded s)
      (fun _ s => WellFormed s ∧ Recorded s) := recorded_kept
  have hRecorded := hKept.run hStart (along_of_calls (fun _ _ => trivial) es _)
  have hLater := h.static hStatic
  exact ⟨hLater, hLater.encodable (hStatic.crashed.trans hBooted.crashed) hRecorded.2⟩

-- ---------------------------------------------------------------------------
-- The configurations that establish it
-- ---------------------------------------------------------------------------

variable {m : Nat → SectionMemory} {fuel : Nat} {blocks : List Block}
  {sections : List DeviceSection}

/-- A section holds what its lines say. -/
structure ReadFrom (sec : DeviceSection) (lines : List (LineMemory × CStr)) : Prop where
  get : ∀ o, sec.get o = lastValue lines o
  newline : ∀ o text, lastValue lines o = some text → '\n' ∉ text

theorem readFrom_parse {ms : SectionMemory} {block : List Char} {sec : DeviceSection}
    (h : parseDeviceSection ms fuel block = some sec) :
    ReadFrom sec (sectionLines ms fuel block) :=
  ⟨parseDeviceSection_get h, fun _ _ hText => lastValue_newline hText⟩

/-- Every section holds what its lines say. -/
theorem readFrom_sections {j : Nat} (h : parseDeviceSections m fuel j blocks = some sections) :
    List.Forall₂ ReadFrom sections (blockLines m fuel j blocks) := by
  induction blocks generalizing j sections with
  | nil =>
    obtain rfl : [] = sections := by simpa [parseDeviceSections] using h
    exact List.Forall₂.nil
  | cons block rest ih =>
    rw [parseDeviceSections] at h
    obtain ⟨sec, hSec, hRest⟩ := Option.bind_eq_some_iff.mp h
    obtain ⟨secs, hSecs, rfl⟩ := Option.map_eq_some_iff.mp hRest
    exact List.Forall₂.cons (readFrom_parse hSec) (ih hSecs)

/-- The names are the last values that the sections give. -/
theorem map_name_of_readFrom {lines : List (List (LineMemory × CStr))}
    (h : List.Forall₂ ReadFrom sections lines) :
    sections.map DeviceSection.name = lines.map fun lines => lastValue lines .name := by
  induction h with
  | nil => rfl
  | cons hHead _ ih => rw [List.map_cons, List.map_cons, ih, ← hHead.get .name]; rfl

/-- The device of a section with a name is fit when the lines of the section say all they
have to. -/
theorem fit_iff_complete {sec : DeviceSection} {lines : List (LineMemory × CStr)} {name : CStr}
    (h : ReadFrom sec lines) (hName : sec.name = some name) :
    (sec.device name).Fit ↔ Complete lines := by
  have hNameLine : lastValue lines .name = some name := (h.get .name).symm.trans hName
  have hText : sec.description = lastValue lines .description := h.get .description
  have hUp : (sec.device name).command .linkUp = lastValue lines .linkUp := h.get .linkUp
  have hDown : (sec.device name).command .linkDown = lastValue lines .linkDown := h.get .linkDown
  have hForce : (sec.device name).command .linkForceDown = lastValue lines .linkForceDown :=
    h.get .linkForceDown
  constructor
  · intro hFit
    obtain ⟨text, hSome, hPlain⟩ := hFit.description
    refine ⟨⟨name, hNameLine, hFit.name.1, hFit.name.2.1⟩,
      ⟨text, hText.symm.trans hSome, hPlain.1⟩, ?_, ?_, ?_⟩
    · exact hUp ▸ hFit.command .linkUp
    · exact hDown ▸ hFit.command .linkDown
    · exact hForce ▸ hFit.command .linkForceDown
  · intro hComplete
    obtain ⟨name', hSome, hNotNil, hTab⟩ := hComplete.name
    obtain ⟨text, hSomeText, hTextTab⟩ := hComplete.description
    obtain rfl : name = name' := Option.some.inj (hNameLine.symm.trans hSome)
    refine ⟨⟨hNotNil, hTab, h.newline .name name hSome⟩,
      ⟨text, hText.trans hSomeText, hTextTab, h.newline .description text hSomeText⟩, ?_⟩
    intro command
    cases command with
    | linkUp => exact hUp.symm ▸ hComplete.linkUp
    | linkDown => exact hDown.symm ▸ hComplete.linkDown
    | linkForceDown => exact hForce.symm ▸ hComplete.linkForceDown

/-- The device of a section with a place, and the lines of the section. -/
theorem boot_lines {lines : List (List (LineMemory × CStr))}
    (h : List.Forall₂ ReadFrom sections lines) {d : DevPtr}
    (hd : d ∈ (boot w sections).gDevices) :
    ∃ here, lines[d]? = some here ∧ (((boot w sections).dev d).Fit ↔ Complete here) := by
  obtain ⟨sec, name, hSec, hName, hDev⟩ := boot_dev hd
  obtain ⟨hSize, hEach⟩ := List.forall₂_iff_get.mp h
  obtain ⟨hLt, hGet⟩ := List.getElem?_eq_some_iff.mp hSec
  have hLt' : d < lines.length := hSize ▸ hLt
  have hHere := hEach d hLt hLt'
  simp only [List.get_eq_getElem, hGet] at hHere
  refine ⟨lines[d], List.getElem?_eq_getElem hLt', ?_⟩
  rw [hDev]
  exact fit_iff_complete hHere hName

/-- What `read_config` leaves when it returns 0. -/
theorem configured_some {heap : Heap} {text : CStr} (h : configured w heap m fuel text = some s) :
    ∃ sections, s = boot w sections ∧
      List.Forall₂ ReadFrom sections (configLines heap m fuel text) := by
  obtain ⟨⟨server, blocks⟩, hRead, hRest⟩ := Option.bind_eq_some_iff.mp h
  obtain ⟨sections, hParse, rfl⟩ := Option.map_eq_some_iff.mp hRest
  refine ⟨sections, rfl, ?_⟩
  unfold configLines
  rw [hRead]
  exact readFrom_sections hParse

/-- **Which configurations establish what the encoders rely on.** When `read_config` returns
0, the following holds in every run: every device has a name that is not empty, a
description and three commands, names and descriptions have neither tab nor newline, names
are distinct, `send_device_list` and the link commands are never given a NULL string, and
every record has two fields; if and only if every section that gets a place in `g_devices`
says all it has to. -/
theorem encodable_iff (w : World) (cfg : Config) (heap : Heap) (m : Nat → SectionMemory)
    (fuel : Nat) (text : CStr) (s : State) (h : configured w heap m fuel text = some s) :
    (∀ es, Established (serverRun w cfg es s) ∧ Encodable (serverRun w cfg es s)) ↔
      ∀ d ∈ placed w 0 0 [] ((configLines heap m fuel text).map (lastValue · .name)),
        ∀ lines ∈ (configLines heap m fuel text)[d]?, Complete lines := by
  obtain ⟨sections, rfl, hRead⟩ := configured_some h
  rw [← map_name_of_readFrom hRead, ← boot_gDevices]
  constructor
  · intro hRuns d hd lines hLines
    have hStart : Established (boot w sections) := (hRuns []).1
    obtain ⟨here, hHere, hIff⟩ := boot_lines hRead hd
    obtain rfl : here = lines := Option.some.inj (hHere.symm.trans hLines)
    exact hIff.mp (hStart.fit d hd)
  · intro hComplete
    refine Established.run ⟨fun d hd => ?_, (booted_boot w sections).names⟩
    obtain ⟨here, hHere, hIff⟩ := boot_lines hRead hd
    exact hIff.mpr (hComplete d hd here hHere)

/-- Memory that never runs out, with nothing behind any block. -/
def roomyMemory : Nat → SectionMemory := fun _ =>
  ⟨[], true, true, fun _ => ⟨[], true, true, true, true⟩⟩

/-- A section that says all it has to, and a last line that ends without a newline, so that
nothing is read from behind its block. -/
def completeText : CStr := ("[Device]\nname = \"ppp0\"\ndescription = \"ISP\"\n" ++
  "link_up = \"pon\"\nlink_down = \"poff\"\nlink_force_down = \"pkill\"\n#").toList

/-- The section has a terminator behind it and a description in it: whatever is asked of the
server, its device can be encoded. -/
theorem encodable_complete : ∃ s,
    configured (calmWorld 1 []) (fun _ => some nul) roomyMemory 10 completeText = some s ∧
    s.gDevices = [0] ∧ ∀ es, Established (serverRun (calmWorld 1 []) defaultConfig es s) ∧
      Encodable (serverRun (calmWorld 1 []) defaultConfig es s) := by
  have hList : (configured (calmWorld 1 []) (fun _ => some nul) roomyMemory 10 completeText).map
      State.gDevices = some [0] := by decide +kernel
  obtain ⟨s, hs, hDevices⟩ := Option.map_eq_some_iff.mp hList
  exact ⟨s, hs, hDevices, (encodable_iff _ _ _ _ _ _ s hs).mpr (by decide +kernel)⟩

/-- A section with a name only. The description that is to be the empty string by default is
NULL, and the first client that asks for the device list ends the server. -/
theorem encodable_name_only : ∃ s,
    configured (calmWorld 1 []) (fun _ => some nul) roomyMemory 10
      "[Device]\nname = \"ppp0\"\n#".toList = some s ∧
    s.gDevices = [0] ∧ (s.dev 0).deviceDescription = none ∧
    (serverRun (calmWorld 1 []) defaultConfig [.client ⟨7, 1026⟩ clientDevices] s).crashed ∧
    ¬ ∀ es, Established (serverRun (calmWorld 1 []) defaultConfig es s) ∧
      Encodable (serverRun (calmWorld 1 []) defaultConfig es s) := by
  have hRun : (configured (calmWorld 1 []) (fun _ => some nul) roomyMemory 10
      "[Device]\nname = \"ppp0\"\n#".toList).map (fun s => (s.gDevices,
        (s.dev 0).deviceDescription,
        (serverRun (calmWorld 1 []) defaultConfig [.client ⟨7, 1026⟩ clientDevices] s).crashed)) =
      some ([0], none, true) := by decide +kernel
  obtain ⟨s, hs, hFacts⟩ := Option.map_eq_some_iff.mp hRun
  obtain ⟨hDevices, hNull, hCrashed⟩ : s.gDevices = [0] ∧ (s.dev 0).deviceDescription = none ∧
      (serverRun (calmWorld 1 []) defaultConfig [.client ⟨7, 1026⟩ clientDevices] s).crashed =
        true := by
    simpa using hFacts
  refine ⟨s, hs, hDevices, hNull, hCrashed, fun h => ?_⟩
  have hLive := (h [.client ⟨7, 1026⟩ clientDevices]).2.crashed
  rw [hCrashed] at hLive
  exact absurd hLive (by simp)

end LinkControl
