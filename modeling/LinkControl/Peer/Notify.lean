import LinkControl.Config.CommandLine
import LinkControl.Config.DeviceSections
import LinkControl.Server.Receive

/-!
# Peer — a notification

`notify.c`, from the arguments to the datagram, and what `process_command` of the server makes of
it. The command line is a list of items (`items`), and `parse_command_line` does what they say
one after the other (`parseCommandLine_items`).

`notify_reports` says for which command lines there is a datagram, and that it takes effect on
the device that the last argument without a switch names. There is none without a device, or
without a command: `ip-up.local` and `ip-down.local`, which give neither a switch nor the name of
a device, report nothing.
-/

namespace LinkControl.Peer

open CString

-- ---------------------------------------------------------------------------
-- The configuration file (read_config.c)
-- ---------------------------------------------------------------------------

def peerHeader : CStr := "[Peer]".toList

/-- `get_peer_section`: NULL if there is none. -/
def getPeerSection (heap : Heap) (text : CStr) : Option (Option Block) :=
  match strstr peerHeader text with
  | none => some none
  | some start => (copySection heap text start 0).map some

/-- What is found under the name of a configuration file. -/
inductive ConfigFile where
  /-- `ENOENT` -/
  | missing
  | unreadable
  | text (text : CStr)

/-- What a run of `notify` meets with: memory for copies of its arguments, files, memory for the
section and its lines, how many turns the section parser may take, and what is on the stack where
`send_buffer` is. -/
structure Process where
  memory : Nat → Bool
  files : CStr → ConfigFile
  heap : Heap
  peerSection : SectionMemory
  fuel : Nat
  stack : CStr

/-- `read_config`: what it returns, and the variables. `none` if it has crashed or is still
running. -/
def readConfig (p : Process) (v : PeerGlobals) : Option (Int × PeerGlobals) :=
  match v.gConfigFile.map p.files with
  | none => some (0, v)
  | some .missing => some (0, v)
  | some .unreadable => some (-1, v)
  | some (.text text) =>
    match getPeerSection p.heap text with
    | none => none
    | some none => some (0, v)
    | some (some block) =>
      (parsePeerSection p.peerSection p.fuel block.bytes v.toPeerVariables).map fun options =>
        (0, { v with toPeerVariables := options })

-- ---------------------------------------------------------------------------
-- main (notify.c)
-- ---------------------------------------------------------------------------

/-- What the variables are initialised with. -/
def PeerGlobals.initial : PeerGlobals where
  gDebug := 0
  gServAddr := some "192.168.55.103".toList
  gServPort := 9876
  gConfigFile := some "/etc/link_peer.conf".toList
  gCommand := .up
  gDevice := none

/-- How `main` ends: with a datagram for a server, with `EXIT_FAILURE`, or not as it should. -/
inductive Outcome where
  | sends (addr : CStr) (port : Nat) (datagram : CStr)
  | fails
  | crashes
deriving DecidableEq, Repr

/-- The verb of a command. -/
def Command.verb : Command → Verb
  | .up => .isup
  | .down => .isdown

/-- What is sent once the command line and the configuration have been read. Neither `inet_aton ()`
nor `strcat ()` survives NULL, and a text that does not fit `send_buffer` is written behind it. -/
def send (p : Process) (v : PeerGlobals) : Outcome :=
  match v.gServAddr, v.gDevice with
  | some addr, some device =>
    let text := request v.gCommand.verb device
    if text.length < maxSendBuffer then .sends addr v.gServPort (sendBuffer p.stack text)
    else .crashes
  | _, _ => .crashes

/-- `main` -/
def main (p : Process) (argv : List CStr) : Outcome :=
  match parseCommandLine p.memory argv .initial with
  | none | some (.crashed, _) => .crashes
  | some (.invalid, _) => .fails
  | some (.success, s) =>
    match readConfig p s.globals with
    | none => .crashes
    | some (result, v) => if result < 0 then .fails else send p v

-- ---------------------------------------------------------------------------
-- What a command line says
-- ---------------------------------------------------------------------------

/-- What an argument says, or two of them. -/
inductive Item where
  | debug
  | configFile (name : CStr)
  | command (command : Command)
  | device (name : CStr)
  | unrecognised
deriving DecidableEq, Repr

/-- What an argument says by itself; `none` if it needs another one. -/
def item : CStr → Option Item
  | '-' :: letters =>
    match letters.head? with
    | some 'd' => some .debug
    | some 'c' => none
    | some 'U' => some (.command .up)
    | some 'D' => some (.command .down)
    | _ => some .unrecognised
  | name => some (.device name)

/-- The items of a command line; `none` if the last argument needs another one. -/
def items : List CStr → Option (List Item)
  | [] => some []
  | arg :: rest =>
    match item arg, rest with
    | some x, rest => (items rest).map (x :: ·)
    | none, [] => none
    | none, name :: rest => (items rest).map (.configFile name :: ·)

def Item.command? : Item → Option Command
  | .command c => some c
  | _ => none

def Item.device? : Item → Option CStr
  | .device name => some name
  | _ => none

def commands (l : List Item) : List Command := l.filterMap Item.command?

def devices (l : List Item) : List CStr := l.filterMap Item.device?

/-- What an item does. -/
def Item.apply (v : PeerGlobals) : Item → PeerGlobals
  | .debug => { v with gDebug := 1 }
  | .configFile name => { v with gConfigFile := some name }
  | .command c => { v with gCommand := c }
  | .device name => { v with gDevice := some name }
  | .unrecognised => v

/-- What all of them do, one after the other. -/
def applyAll (l : List Item) (v : PeerGlobals) : PeerGlobals := l.foldl Item.apply v

variable {p : Process} {memory : Nat → Bool} {argv rest : List CStr} {arg name : CStr} {i k : Nat}
  {s s₁ s' : Scan PeerGlobals} {x : Item} {l : List Item} {ended : Ended} {v : PeerGlobals}

theorem applyAll_gCommand (l : List Item) (v : PeerGlobals) :
    (applyAll l v).gCommand = (commands l).getLastD v.gCommand := by
  induction l generalizing v with
  | nil => rfl
  | cons x l ih =>
    rw [applyAll, List.foldl_cons, ← applyAll, ih]
    cases x with
    | command c =>
      have hCommands : commands (.command c :: l) = c :: commands l := rfl
      rw [hCommands, List.getLastD_cons]
      rfl
    | _ => rfl

theorem applyAll_gDevice (l : List Item) (v : PeerGlobals) :
    (applyAll l v).gDevice = ((devices l).getLast?).or v.gDevice := by
  induction l generalizing v with
  | nil => rfl
  | cons x l ih =>
    rw [applyAll, List.foldl_cons, ← applyAll, ih]
    cases x with
    | device name =>
      have hDevices : devices (.device name :: l) = name :: devices l := rfl
      rw [hDevices, List.getLast?_cons]
      cases (devices l).getLast? <;> rfl
    | _ => rfl

-- ---------------------------------------------------------------------------
-- One turn of the loop
-- ---------------------------------------------------------------------------

/-- The `case` of an argument that needs another one. -/
theorem item_eq_none (h : item arg = none) : ∃ letters, arg = '-' :: letters ∧
    peerAction letters.head? = .operand missingConfigFile
      (fun memory value v => { v with gConfigFile := copied memory value }) false := by
  unfold item at h
  split at h
  · rename_i letters
    split at h <;> try contradiction
    rename_i hHead
    exact ⟨letters, rfl, by rw [hHead]; rfl⟩
  · contradiction

/-- The `case` of a switch that is an item by itself. -/
theorem item_switch {letters : CStr} (h : item ('-' :: letters) = some x) :
    (x = .debug ∧ peerAction letters.head? = .flag fun v => { v with gDebug := 1 }) ∨
    (∃ c, x = .command c ∧
      peerAction letters.head? = .command onlyOneCommand fun v => { v with gCommand := c }) ∨
    (x = .unrecognised ∧ peerAction letters.head? = .unrecognised) := by
  simp only [item] at h
  split at h
  · rename_i hHead
    exact Or.inl ⟨(Option.some.inj h).symm, by rw [hHead]; rfl⟩
  · contradiction
  · rename_i hHead
    exact Or.inr (Or.inl ⟨.up, (Option.some.inj h).symm, by rw [hHead]; rfl⟩)
  · rename_i hHead
    exact Or.inr (Or.inl ⟨.down, (Option.some.inj h).symm, by rw [hHead]; rfl⟩)
  · rename_i hDebug hConfig hUp hDown
    refine Or.inr (Or.inr ⟨(Option.some.inj h).symm, ?_⟩)
    unfold peerAction
    split <;> first | rfl | contradiction

/-- **An item** does what it says, unless it is a second command. -/
theorem turn_item (hMemory : ∀ i, memory i = true) (h : item arg = some x)
    (hOnce : s.commandSet = true → x.command? = none) (argv : List CStr) (i : Nat) :
    ∃ s', turn peerProgram memory argv i arg s = .goOn i s' ∧ s'.globals = x.apply s.globals ∧
      s'.commandSet = (s.commandSet || x.command?.isSome) := by
  by_cases hSwitch : ∃ letters, arg = '-' :: letters
  · obtain ⟨letters, rfl⟩ := hSwitch
    rcases item_switch h with ⟨rfl, hAction⟩ | ⟨c, rfl, hAction⟩ | ⟨rfl, hAction⟩
    · exact ⟨(s.use i .switch).set fun v => { v with gDebug := 1 },
        by simp only [turn, peerProgram, hAction], rfl, by simp [Scan.use, Scan.set, Item.command?]⟩
    · have hUnset : s.commandSet = false := by
        by_contra hSet
        exact absurd (hOnce (by simpa using hSet)) (by simp [Item.command?])
      refine ⟨{ (s.use i .switch).set fun v => { v with gCommand := c } with commandSet := true },
        ?_, rfl, by simp [Item.command?]⟩
      simp only [turn, peerProgram, hAction, Scan.use, hUnset]
      rfl
    · exact ⟨(s.use i .switch).unrecognised ('-' :: letters),
        by simp only [turn, peerProgram, hAction], rfl,
        by simp [Scan.use, Scan.unrecognised, Scan.print, Item.command?]⟩
  · have hName : x = .device arg := by
      unfold item at h
      split at h
      · exact absurd ⟨_, rfl⟩ hSwitch
      · exact (Option.some.inj h).symm
    subst hName
    have hTurn : turn peerProgram memory argv i arg s = .goOn i
        { s.use i .positional with
          globals := { s.globals with gDevice := copied (memory i) arg }
          stderr := s.stderr ++ [] } := by
      unfold turn
      split
      · exact absurd ⟨_, rfl⟩ hSwitch
      · rfl
    exact ⟨_, hTurn, by simp [Item.apply, copied, hMemory i], by simp [Scan.use, Item.command?]⟩

/-- A second command ends the loop. -/
theorem turn_again (h : item arg = some x) (hSet : s.commandSet = true)
    (hCommand : x.command?.isSome) (memory : Nat → Bool) (argv : List CStr) (i : Nat) :
    ∃ s', turn peerProgram memory argv i arg s = .ends .invalid s' := by
  by_cases hSwitch : ∃ letters, arg = '-' :: letters
  · obtain ⟨letters, rfl⟩ := hSwitch
    rcases item_switch h with ⟨rfl, hAction⟩ | ⟨c, rfl, hAction⟩ | ⟨rfl, hAction⟩
    · contradiction
    · exact ⟨(s.use i .switch).print onlyOneCommand.toList,
        by simp only [turn, peerProgram, hAction, Scan.use, hSet, if_true]⟩
    · contradiction
  · unfold item at h
    split at h
    · exact absurd ⟨_, rfl⟩ hSwitch
    · rw [← Option.some.inj h] at hCommand
      contradiction

/-- A switch and the argument it needs. -/
theorem turn_configFile (hMemory : ∀ i, memory i = true) (h : item arg = none)
    (hNext : argv[i + 1]? = some name) (s : Scan PeerGlobals) :
    ∃ s', turn peerProgram memory argv i arg s = .goOn (i + 1) s' ∧
      s'.globals = Item.apply s.globals (.configFile name) ∧ s'.commandSet = s.commandSet := by
  obtain ⟨letters, rfl, hAction⟩ := item_eq_none h
  obtain ⟨hRange, -⟩ := List.getElem?_eq_some_iff.mp hNext
  have hNot : ¬ i + 1 > argv.length := by omega
  refine ⟨((s.use i .switch).use (i + 1) .operand).set fun v =>
    { v with gConfigFile := copied (memory (i + 1)) name }, ?_, ?_, rfl⟩
  · simp only [turn, peerProgram, hAction, if_neg hNot, hNext]
    rfl
  · simp [Item.apply, Scan.set, Scan.use, copied, hMemory]

-- ---------------------------------------------------------------------------
-- The whole loop
-- ---------------------------------------------------------------------------

/-- What is to come of the arguments that are left: the items have been applied, if they are all
there, with one command at most. -/
def Reads (rest : List CStr) (s : Scan PeerGlobals) (ended : Ended) (s' : Scan PeerGlobals) :
    Prop :=
  (∀ l, items rest = some l → (commands l).length + s.commandSet.toNat ≤ 1 →
    ended = .success ∧ s'.globals = applyAll l s.globals ∧
      s'.commandSet = (s.commandSet || !(commands l).isEmpty)) ∧
  (ended = .success → ∃ l, items rest = some l ∧ (commands l).length + s.commandSet.toNat ≤ 1)

theorem commands_cons (x : Item) (l : List Item) :
    commands (x :: l) = x.command?.toList ++ commands l := by
  cases x <;> rfl

/-- One item, and the rest. -/
theorem Reads.cons {args : List CStr} (h : Reads rest s₁ ended s')
    (hItems : items args = (items rest).map (x :: ·)) (hGlobals : s₁.globals = x.apply s.globals)
    (hSet : s₁.commandSet = (s.commandSet || x.command?.isSome))
    (hOnce : s.commandSet = true → x.command? = none) : Reads args s ended s' := by
  have hCount : ∀ l, (commands (x :: l)).length + s.commandSet.toNat =
      (commands l).length + s₁.commandSet.toNat := by
    intro l
    rw [commands_cons, hSet]
    cases hCommand : x.command? with
    | none => simp
    | some c =>
      have hUnset : s.commandSet = false := by
        by_contra hNot
        simp [hOnce (by simpa using hNot)] at hCommand
      simp [hUnset]
  obtain ⟨hReads, hSuccess⟩ := h
  refine ⟨fun l hl hLength => ?_, fun hEnded => ?_⟩
  · rw [hItems] at hl
    obtain ⟨l, hRest, rfl⟩ := Option.map_eq_some_iff.mp hl
    obtain ⟨hEnded, hApplied, hCommandSet⟩ := hReads l hRest (hCount l ▸ hLength)
    refine ⟨hEnded, ?_, ?_⟩
    · rw [hApplied, hGlobals]
      rfl
    · rw [hCommandSet, hSet, commands_cons]
      cases x.command? <;> simp
  · obtain ⟨l, hl, hLength⟩ := hSuccess hEnded
    exact ⟨x :: l, by rw [hItems, hl]; rfl, (hCount l).symm ▸ hLength⟩

/-- **The loop**, from an argument on: it reads the items that are left. -/
theorem scan_reads (hMemory : ∀ i, memory i = true) {fuel : Nat} (hRest : argv.drop k = rest)
    (hFuel : rest.length < fuel) (s : Scan PeerGlobals) :
    ∃ ended s', scan peerProgram memory argv fuel k s = some (ended, s') ∧
      Reads rest s ended s' := by
  induction hn : rest.length using Nat.strong_induction_on generalizing rest k fuel s with
  | _ n ih =>
  obtain ⟨fuel, rfl⟩ := Nat.exists_eq_add_one.mpr (Nat.zero_lt_of_lt hFuel)
  cases rest with
  | nil =>
    have hEnd : argv[k]? = none := List.getElem?_eq_none (List.drop_eq_nil_iff.mp hRest)
    have hItems : items [] = some [] := rfl
    refine ⟨.success, s, by simp only [scan, hEnd], fun l hl hLength => ?_, fun _ => ?_⟩
    · obtain rfl := Option.some.inj (hItems.symm.trans hl)
      exact ⟨rfl, rfl, by simp [commands]⟩
    · exact ⟨[], hItems, by simpa [commands] using s.commandSet.toNat_le⟩
  | cons arg rest =>
    have hArg : argv[k]? = some arg := by rw [← List.head?_drop, hRest, List.head?_cons]
    have hBehind : argv.drop (k + 1) = rest := by rw [← List.tail_drop, hRest, List.tail_cons]
    simp only [List.length_cons] at hFuel hn
    have hLess : rest.length < fuel := by omega
    cases hItem : item arg with
    | some x =>
      have hItems : items (arg :: rest) = (items rest).map (x :: ·) := by
        rw [items.eq_def]
        simp only [hItem]
      by_cases hAgain : s.commandSet = true ∧ x.command?.isSome
      · obtain ⟨s', hTurn⟩ := turn_again hItem hAgain.1 hAgain.2 memory argv k
        refine ⟨.invalid, s', by simp only [scan, hArg, hTurn], fun l hl hLength => ?_,
          fun hEnded => by contradiction⟩
        -- two commands are one too many
        rw [hItems] at hl
        obtain ⟨l, -, rfl⟩ := Option.map_eq_some_iff.mp hl
        obtain ⟨c, hCommand⟩ := Option.isSome_iff_exists.mp hAgain.2
        rw [commands_cons, hCommand, hAgain.1] at hLength
        simp at hLength
      · have hOnce : s.commandSet = true → x.command? = none := fun hSet =>
          Option.not_isSome_iff_eq_none.mp fun hCommand => hAgain ⟨hSet, hCommand⟩
        obtain ⟨s₁, hTurn, hGlobals, hSet⟩ := turn_item hMemory hItem hOnce argv k
        obtain ⟨ended, s', hScan, hReads⟩ := ih rest.length (by omega) hBehind hLess s₁ rfl
        exact ⟨ended, s', by simp only [scan, hArg, hTurn]; exact hScan,
          hReads.cons hItems hGlobals hSet hOnce⟩
    | none =>
      cases rest with
      | nil =>
        obtain ⟨letters, rfl, hAction⟩ := item_eq_none hItem
        have hLast : argv.length = k + 1 := by
          have hLength := congrArg List.length hRest
          simp only [List.length_drop, List.length_cons, List.length_nil] at hLength
          omega
        have hNot : ¬ k + 1 > argv.length := by omega
        have hNull : argv[k + 1]? = none := List.getElem?_eq_none (by omega)
        have hItems : items ['-' :: letters] = none := by
          rw [items.eq_def]
          simp only [hItem]
        refine ⟨.crashed, (s.use k .switch).use (k + 1) .operand, ?_, fun l hl => ?_,
          fun hEnded => by contradiction⟩
        · simp only [scan, hArg, turn, peerProgram, hAction, if_neg hNot, hNull]
        · rw [hItems] at hl
          contradiction
      | cons name rest =>
        have hName : argv[k + 1]? = some name := by
          rw [← List.head?_drop, hBehind, List.head?_cons]
        have hBoth : argv.drop (k + 2) = rest := by rw [← List.tail_drop, hBehind, List.tail_cons]
        have hItems : items (arg :: name :: rest) = (items rest).map (.configFile name :: ·) := by
          rw [items.eq_def]
          simp only [hItem]
        simp only [List.length_cons] at hLess hn
        have hLess : rest.length < fuel := by omega
        obtain ⟨s₁, hTurn, hGlobals, hSet⟩ := turn_configFile hMemory hItem hName s
        obtain ⟨ended, s', hScan, hReads⟩ := ih rest.length (by omega) hBoth hLess s₁ rfl
        exact ⟨ended, s', by simp only [scan, hArg, hTurn]; exact hScan,
          hReads.cons hItems hGlobals (by simp [hSet, Item.command?]) fun _ => rfl⟩

theorem parseCommandLine_of_scan (hArgs : argv.length ≠ 1)
    (h : scan peerProgram memory argv (argv.length + 1) 1 (.start v) = some (ended, s)) :
    parseCommandLine memory argv v =
      some (if ended = .success then commandNeeded s else (ended, s)) := by
  unfold parseCommandLine
  rw [scanArguments, if_neg hArgs, h, Option.map_some]
  cases ended with
  | success => simp only [if_neg hArgs, if_true]
  | invalid => rfl
  | crashed => rfl

/-- **`parse_command_line`**, given arguments: it succeeds if they are all there, with one command,
and has then done what they say. -/
theorem parseCommandLine_items (hMemory : ∀ i, memory i = true) (hArgs : argv.length ≠ 1)
    (v : PeerGlobals) : ∃ ended s, parseCommandLine memory argv v = some (ended, s) ∧
      (ended = .success ↔ ∃ l c, items (argv.drop 1) = some l ∧ commands l = [c]) ∧
      (ended = .success → ∀ l, items (argv.drop 1) = some l → s.globals = applyAll l v) := by
  have hFuel : (argv.drop 1).length < argv.length + 1 := by
    rw [List.length_drop]
    omega
  obtain ⟨ended, s, hScan, hReads, hSuccess⟩ := scan_reads hMemory rfl hFuel (.start v)
  have hStart : (Scan.start v).commandSet.toNat = 0 := rfl
  have hParse := parseCommandLine_of_scan hArgs hScan
  by_cases hEnded : ended = .success
  · subst hEnded
    obtain ⟨l, hl, hLength⟩ := hSuccess rfl
    obtain ⟨-, hGlobals, hSet⟩ := hReads l hl hLength
    have hOnly : ∀ l', items (argv.drop 1) = some l' → l' = l := fun l' hl' =>
      Option.some.inj (hl'.symm.trans hl)
    cases hCommands : commands l with
    | nil =>
      have hUnset : s.commandSet = false := by simp [hSet, hCommands, Scan.start]
      refine ⟨.invalid, _, by simp only [hParse, if_true, commandNeeded, hUnset]; rfl, ?_,
        fun h => by contradiction⟩
      refine iff_of_false (by simp) ?_
      rintro ⟨l', c, hl', hc⟩
      rw [hOnly l' hl', hCommands] at hc
      contradiction
    | cons c rest =>
      have hRest : rest = [] := by
        rw [hCommands, List.length_cons, hStart] at hLength
        exact List.length_eq_zero_iff.mp (by omega)
      have hDone : s.commandSet = true := by simp [hSet, hCommands]
      refine ⟨.success, s, by simp only [hParse, if_true, commandNeeded, hDone], ?_,
        fun _ l' hl' => by rw [hOnly l' hl', hGlobals]; rfl⟩
      exact iff_of_true rfl ⟨l, c, hl, by rw [hCommands, hRest]⟩
  · rw [if_neg hEnded] at hParse
    refine ⟨ended, s, hParse, iff_of_false hEnded ?_, fun h => absurd h hEnded⟩
    rintro ⟨l, c, hl, hc⟩
    exact hEnded (hReads l hl (by rw [hc, hStart]; rfl)).1

-- ---------------------------------------------------------------------------
-- The datagram
-- ---------------------------------------------------------------------------

/-- The configuration file says nothing about the command and the device. -/
theorem readConfig_keeps {result : Int} {v' : PeerGlobals}
    (h : readConfig p v = some (result, v')) :
    v'.gCommand = v.gCommand ∧ v'.gDevice = v.gDevice ∧ (result = 0 ∨ result = -1) := by
  unfold readConfig at h
  split at h
  · obtain ⟨rfl, rfl⟩ := Prod.mk.inj (Option.some.inj h)
    exact ⟨rfl, rfl, Or.inl rfl⟩
  · obtain ⟨rfl, rfl⟩ := Prod.mk.inj (Option.some.inj h)
    exact ⟨rfl, rfl, Or.inl rfl⟩
  · obtain ⟨rfl, rfl⟩ := Prod.mk.inj (Option.some.inj h)
    exact ⟨rfl, rfl, Or.inr rfl⟩
  · split at h
    · contradiction
    · obtain ⟨rfl, rfl⟩ := Prod.mk.inj (Option.some.inj h)
      exact ⟨rfl, rfl, Or.inl rfl⟩
    · obtain ⟨options, -, hEq⟩ := Option.map_eq_some_iff.mp h
      obtain ⟨rfl, rfl⟩ := Prod.mk.inj hEq
      exact ⟨rfl, rfl, Or.inl rfl⟩

/-- The command line is complete, with one command; the last argument without a switch is the
device; the configuration names this address and this port; and the text fits `send_buffer`. -/
def Says (p : Process) (argv : List CStr) (c : Command) (device addr : CStr) (port : Nat) : Prop :=
  ∃ l v, items (argv.drop 1) = some l ∧ commands l = [c] ∧ (devices l).getLast? = some device ∧
    readConfig p (applyAll l .initial) = some (0, v) ∧ v.gServAddr = some addr ∧
    v.gServPort = port ∧ (request c.verb device).length < maxSendBuffer

theorem send_eq {c : Command} {device : CStr} (hCommand : v.gCommand = c)
    (hDevice : v.gDevice = some device) {addr datagram : CStr} {port : Nat} :
    send p v = .sends addr port datagram ↔ v.gServAddr = some addr ∧ v.gServPort = port ∧
      (request c.verb device).length < maxSendBuffer ∧
      datagram = sendBuffer p.stack (request c.verb device) := by
  unfold send
  rw [hDevice, hCommand]
  cases hAddr : v.gServAddr with
  | none => simp
  | some addr' =>
    dsimp only
    split
    · rename_i hFits
      simp only [Outcome.sends.injEq, Option.some.injEq, hFits, true_and]
      exact ⟨fun ⟨h, h', h''⟩ => ⟨h, h', h''.symm⟩, fun ⟨h, h', h''⟩ => ⟨h, h', h''.symm⟩⟩
    · rename_i hLong
      simp [hLong]

/-- Without a device, NULL is given to `strcat ()`. -/
theorem send_of_none (h : v.gDevice = none) : send p v = .crashes := by
  unfold send
  rw [h]
  cases v.gServAddr <;> rfl

/-- **When a datagram is sent**, and which. -/
theorem main_sends_iff (hMemory : ∀ i, p.memory i = true) {addr datagram : CStr} {port : Nat} :
    main p argv = .sends addr port datagram ↔ ∃ c device, Says p argv c device addr port ∧
      datagram = sendBuffer p.stack (request c.verb device) := by
  by_cases hArgs : argv.length = 1
  · -- it returns before it comes to the test of command_set
    have hNone : argv.drop 1 = [] := List.drop_eq_nil_of_le (Nat.le_of_eq hArgs)
    have hParse : parseCommandLine p.memory argv .initial =
        some (.success, .start .initial) := by
      simp only [parseCommandLine, scanArguments, if_pos hArgs, Option.map_some]
    refine iff_of_false ?_ ?_
    · unfold main
      rw [hParse]
      dsimp only
      cases hConfig : readConfig p (Scan.start .initial).globals with
      | none => simp
      | some read =>
        obtain ⟨result, v⟩ := read
        obtain ⟨-, hDevice, -⟩ := readConfig_keeps hConfig
        simp only [send_of_none hDevice]
        split <;> simp
    · rintro ⟨c, device, ⟨l, v, hItems, hCommands, -⟩, -⟩
      rw [hNone] at hItems
      obtain rfl := Option.some.inj hItems
      contradiction
  · obtain ⟨ended, s, hParse, hSuccess, hGlobals⟩ :=
      parseCommandLine_items hMemory hArgs PeerGlobals.initial
    unfold main
    rw [hParse]
    by_cases hEnded : ended = .success
    · subst hEnded
      obtain ⟨l, c, hItems, hCommands⟩ := hSuccess.mp rfl
      have hApplied := hGlobals rfl l hItems
      have hCommand : s.globals.gCommand = c := by
        rw [hApplied, applyAll_gCommand, hCommands]
        rfl
      have hDevice : s.globals.gDevice = (devices l).getLast? := by
        rw [hApplied, applyAll_gDevice, PeerGlobals.initial, Option.or_none]
      dsimp only
      constructor
      · intro hSends
        cases hConfig : readConfig p s.globals with
        | none => simp [hConfig] at hSends
        | some read =>
          obtain ⟨result, v⟩ := read
          obtain ⟨hSame, hSame', hResult⟩ := readConfig_keeps hConfig
          rw [hConfig] at hSends
          dsimp only at hSends
          obtain rfl : result = 0 := by
            rcases hResult with rfl | rfl
            · rfl
            · simp at hSends
          rw [if_neg (by decide)] at hSends
          cases hLast : (devices l).getLast? with
          | none =>
            rw [send_of_none (hSame'.trans (hDevice.trans hLast))] at hSends
            contradiction
          | some device =>
            obtain ⟨hAddr, hPort, hFits, hDatagram⟩ :=
              (send_eq (hSame.trans hCommand) (hSame'.trans (hDevice.trans hLast))).mp hSends
            exact ⟨c, device, ⟨l, v, hItems, hCommands, hLast, hApplied ▸ hConfig, hAddr, hPort,
              hFits⟩, hDatagram⟩
      · rintro ⟨c', device, ⟨l', v, hItems', hCommands', hLast, hConfig, hAddr, hPort, hFits⟩,
          hDatagram⟩
        obtain rfl : l' = l := Option.some.inj (hItems'.symm.trans hItems)
        obtain rfl : c' = c := by simpa using hCommands'.symm.trans hCommands
        rw [← hApplied] at hConfig
        obtain ⟨hSame, hSame', -⟩ := readConfig_keeps hConfig
        rw [hConfig]
        dsimp only
        rw [if_neg (by decide)]
        exact (send_eq (hSame.trans hCommand) (hSame'.trans (hDevice.trans hLast))).mpr
          ⟨hAddr, hPort, hFits, hDatagram⟩
    · refine iff_of_false ?_ ?_
      · cases ended with
        | success => contradiction
        | invalid => simp
        | crashed => simp
      · rintro ⟨c, device, ⟨l, v, hItems, hCommands, -⟩, -⟩
        exact hEnded (hSuccess.mpr ⟨l, c, hItems, hCommands⟩)

-- ---------------------------------------------------------------------------
-- What the server makes of it
-- ---------------------------------------------------------------------------

/-- A device that is named is one of the arguments. -/
theorem mem_devices (h : items rest = some l) (hName : name ∈ devices l) : name ∈ rest := by
  induction hn : rest.length using Nat.strong_induction_on generalizing rest l with
  | _ n ih =>
  cases rest with
  | nil =>
    obtain rfl : [] = l := Option.some.inj h
    exact absurd hName List.not_mem_nil
  | cons arg rest =>
    rw [items.eq_def] at h
    dsimp only at h
    simp only [List.length_cons] at hn
    cases hItem : item arg with
    | some x =>
      simp only [hItem] at h
      obtain ⟨l, hl, rfl⟩ := Option.map_eq_some_iff.mp h
      by_cases hSelf : x = .device name
      · subst hSelf
        unfold item at hItem
        split at hItem
        · split at hItem <;> simp at hItem
        · obtain rfl : arg = name := by simpa using hItem
          exact List.mem_cons_self ..
      · refine List.mem_cons_of_mem _ (ih rest.length (by omega) hl ?_ rfl)
        cases x with
        | device name' =>
          rcases List.mem_cons.mp (show name ∈ name' :: devices l from hName) with rfl | hMem
          · exact absurd rfl hSelf
          · exact hMem
        | _ => exact hName
    | none =>
      simp only [hItem] at h
      cases rest with
      | nil => contradiction
      | cons value rest =>
        obtain ⟨l, hl, rfl⟩ := Option.map_eq_some_iff.mp h
        simp only [List.length_cons] at hn
        exact List.mem_cons_of_mem _ (List.mem_cons_of_mem _
          (ih rest.length (by omega) hl hName rfl))

/-- A text in a buffer of the size of `recv_buffer` is read up to its NUL. -/
theorem recvBuffer_sendBuffer {stack text : CStr} (hStack : stack.length = maxSendBuffer)
    (hFits : text.length < maxSendBuffer) (hNul : '\x00' ∉ text) :
    recvBuffer (sendBuffer stack text) = text := by
  have hSize : recvSize (sendBuffer stack text) = (sendBuffer stack text).length := by
    rw [recvSize, length_sendBuffer hStack hFits]
    rfl
  rw [recvBuffer, hSize, List.take_length, sendBuffer]
  exact takeWhile_nul hNul (by simp)

/-- What a server does about a device that is reported up or down. -/
def noticed (w : World) (cfg : Config) (c : Command) (device : CStr) (s : State) : Int × State :=
  match getDevice s.gDevices device s with
  | (none, s) => (-1, s)
  | (some d, s) =>
    match c with
    | .up => (0, (alterDeviceStatus w cfg d .up s).2)
    | .down => alterDeviceStatus w cfg d .down s

theorem processCommand_request {c : Command} {device datagram : CStr}
    (h : recvBuffer datagram = request c.verb device) (w : World) (cfg : Config) (cli : SockAddr)
    (s : State) : processCommand w cfg (some (cli, datagram)) s = noticed w cfg c device s := by
  have hBranch : branchOf (recvBuffer datagram) = c.verb.branch device := by
    rw [h, branchOf_request]
  rw [processCommand_eq, hBranch, h]
  cases c <;> rfl

/-- A run of `notify` with memory, without a configuration file, on a stack of zeros. -/
def plainProcess : Process where
  memory _ := true
  files _ := .missing
  heap _ := none
  peerSection := ⟨[], true, true, fun _ => ⟨[], true, true, true, true⟩⟩
  fuel := 0
  stack := List.replicate maxSendBuffer '\x00'

-- What ip-up.local runs: the text is taken for a device, and there is no command.
example (p : Process) :
    main p ["/opt/link_control/bin/notify".toList, "NOTIFY ISUP".toList] = .fails := rfl

end LinkControl.Peer
