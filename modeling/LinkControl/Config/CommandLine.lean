import LinkControl.Config.Sections

/-!
# The command lines — server, Linux client and peer

`parse_command_line` of the three `read_config.c`. They share the loop over `argv` and differ
in the cases of their `switch` (`Program`). A `Scan` keeps, besides the variables, what every
argument was used for.

`argv[argc]` is NULL, which `strdup ()` and `atoi ()` do not survive. The test of `i` in front
of them is off by one, so that they get it from a switch in the last place:
`command_lines_iff` says that this and a second `-U` or `-D` of the peer are the only things
that go wrong.
-/

namespace LinkControl

open CString Numbers

-- ---------------------------------------------------------------------------
-- The loop
-- ---------------------------------------------------------------------------

/-- What an argument is used for. -/
inductive Use where
  | switch
  | operand
  | positional
deriving DecidableEq, Repr

/-- How `parse_command_line` ends: it returns 0, or -1 with `errno` set to `EINVAL`, or has
been given NULL by itself. -/
inductive Ended where
  | success
  | invalid
  | crashed
deriving DecidableEq, Repr

/-- The state of the loop. -/
structure Scan (V : Type) where
  globals : V
  /-- `command_set`, which the peer alone has -/
  commandSet : Bool
  /-- the arguments used so far -/
  uses : List (Nat × Use)
  stderr : List CStr
deriving DecidableEq, Repr

/-- The `case` of a switch. -/
inductive Action (V : Type) where
  /-- sets a variable -/
  | flag (set : V → V)
  /-- needs an operand, which `set` gets with whether there is memory for a copy of it; says
  `missing` if there is none; may have no `break` -/
  | operand (missing : String) (set : Bool → CStr → V → V) (fallsThrough : Bool)
  /-- sets a variable, and says `again` the second time -/
  | command (again : String) (set : V → V)
  | unrecognised

/-- What tells one program from another: the `switch`, and what is done with an argument that
is none, with the message about it. -/
structure Program (V : Type) where
  action : Option Char → Action V
  positional : Bool → CStr → V → V × Option CStr

section Loop

variable {V : Type}

namespace Scan

/-- The state at the start of the loop. -/
def start (v : V) : Scan V := ⟨v, false, [], []⟩

def use (i : Nat) (how : Use) (s : Scan V) : Scan V := { s with uses := s.uses ++ [(i, how)] }

def print (text : CStr) (s : Scan V) : Scan V := { s with stderr := s.stderr ++ [text] }

def set (f : V → V) (s : Scan V) : Scan V := { s with globals := f s.globals }

/-- The `default` of the `switch`. -/
def unrecognised (curArg : CStr) (s : Scan V) : Scan V :=
  s.print ("Unrecognised switch: ".toList ++ curArg ++ ['\n'])

end Scan

/-- What a turn of the loop leads to. -/
inductive Turn (V : Type) where
  | goOn (i : Nat) (s : Scan V)
  | ends (ended : Ended) (s : Scan V)

variable (p : Program V) (memory : Nat → Bool) (argv : List CStr)

/-- The body of the loop. -/
def turn (i : Nat) (curArg : CStr) (s : Scan V) : Turn V :=
  match curArg with
  | '-' :: letters =>
    let s := s.use i .switch
    match p.action letters.head? with
    | .flag set => .goOn i (s.set set)
    | .operand missing set fallsThrough =>
      let i := i + 1
      if i > argv.length then
        let s := s.print missing.toList
        .goOn i (if fallsThrough then s.unrecognised curArg else s)
      else
        let s := s.use i .operand
        match argv[i]? with
        | none => .ends .crashed s
        | some value =>
          let s := s.set (set (memory i) value)
          .goOn i (if fallsThrough then s.unrecognised curArg else s)
    | .command again set =>
      if s.commandSet then .ends .invalid (s.print again.toList)
      else .goOn i { s.set set with commandSet := true }
    | .unrecognised => .goOn i (s.unrecognised curArg)
  | _ =>
    let s := s.use i .positional
    let (globals, message) := p.positional (memory i) curArg s.globals
    .goOn i { s with globals, stderr := s.stderr ++ message.toList }

/-- The loop, from index `i` on; `none` if it takes more than `fuel` tests. -/
def scan : Nat → Nat → Scan V → Option (Ended × Scan V)
  | 0, _, _ => none
  | fuel + 1, i, s =>
    match argv[i]? with
    | none => some (.success, s)
    | some curArg =>
      match turn p memory argv i curArg s with
      | .goOn i s => scan fuel (i + 1) s
      | .ends ended s => some (ended, s)

/-- `parse_command_line`, up to what the peer does behind the loop. -/
def scanArguments (v : V) : Option (Ended × Scan V) :=
  if argv.length = 1 then some (.success, .start v)
  else scan p memory argv (argv.length + 1) 1 (.start v)

end Loop

/-- `strtol (s, NULL, 10)` -/
def strtol (s : CStr) : Int :=
  match s.dropWhile isspace with
  | '-' :: s => max (-9223372036854775808) (-(leadingDigits 10 s : Int))
  | '+' :: s => min 9223372036854775807 (leadingDigits 10 s : Int)
  | s => min 9223372036854775807 (leadingDigits 10 s : Int)

/-- `atoi ()` -/
def atoi (s : CStr) : Int := toInt (strtol s)

/-- `strdup ()` of an argument. -/
def copied (memory : Bool) (s : CStr) : Option CStr := if memory then some s else none

def missingConfigFile : String := "You didn't specify the name of the configuration file.\n"

/-- An argument that is no switch, where there is no use for one. -/
def unrecognisedOption {V : Type} (_ : Bool) (curArg : CStr) (v : V) : V × Option CStr :=
  (v, some ("Unrecognised option: ".toList ++ curArg ++ ['\n']))

-- ---------------------------------------------------------------------------
-- The server (server/read_config.c)
-- ---------------------------------------------------------------------------

/-- The variables of the server that are on its command line or in its section. -/
structure ServerGlobals extends ServerVariables where
  gConfigFile : Option CStr
deriving DecidableEq, Repr

/-- The `switch` of `parse_command_line`. The case of `p` has no `break`. -/
def serverAction : Option Char → Action ServerGlobals
  | some 'f' => .flag fun v => { v with gFork := 0 }
  | some 'd' => .flag fun v => { v with gDebug := 1 }
  | some 'c' => .operand missingConfigFile
      (fun memory value v => { v with gConfigFile := copied memory value }) false
  | some 'p' => .operand "You didn't specify the poll time.\n"
      (fun _ value v => { v with gPollTime := atoi value }) true
  | _ => .unrecognised

def serverProgram : Program ServerGlobals := ⟨serverAction, unrecognisedOption⟩

/-- `parse_command_line` -/
def parseCommandLine (memory : Nat → Bool) (argv : List CStr) (v : ServerGlobals) :
    Option (Ended × Scan ServerGlobals) :=
  scanArguments serverProgram memory argv v

-- ---------------------------------------------------------------------------
-- The Linux client (linux_client/read_config.c)
-- ---------------------------------------------------------------------------

namespace LinuxClient

/-- The variables of the client that are on its command line or in its section. -/
structure ClientGlobals extends ClientVariables where
  gConfigFile : Option CStr
deriving DecidableEq, Repr

/-- The `switch` of `parse_command_line`. -/
def clientAction : Option Char → Action ClientGlobals
  | some 'd' => .flag fun v => { v with gDebug := 1 }
  | some 'c' => .operand missingConfigFile
      (fun memory value v => { v with gConfigFile := copied memory value }) false
  | _ => .unrecognised

def clientProgram : Program ClientGlobals := ⟨clientAction, unrecognisedOption⟩

/-- `parse_command_line` -/
def parseCommandLine (memory : Nat → Bool) (argv : List CStr) (v : ClientGlobals) :
    Option (Ended × Scan ClientGlobals) :=
  scanArguments clientProgram memory argv v

end LinuxClient

-- ---------------------------------------------------------------------------
-- The peer (peer/read_config.c)
-- ---------------------------------------------------------------------------

namespace Peer

/-- `command_t` -/
inductive Command where
  | up
  | down
deriving DecidableEq, Repr

/-- The variables of the peer that are on its command line or in its section. -/
structure PeerGlobals extends PeerVariables where
  gConfigFile : Option CStr
  gCommand : Command
  gDevice : Option CStr
deriving DecidableEq, Repr

def onlyOneCommand : String := "You can only specify one of -U or -D\n"

/-- The `switch` of `parse_command_line`. -/
def peerAction : Option Char → Action PeerGlobals
  | some 'd' => .flag fun v => { v with gDebug := 1 }
  | some 'c' => .operand missingConfigFile
      (fun memory value v => { v with gConfigFile := copied memory value }) false
  | some 'U' => .command onlyOneCommand fun v => { v with gCommand := .up }
  | some 'D' => .command onlyOneCommand fun v => { v with gCommand := .down }
  | _ => .unrecognised

/-- The name of the device is the only argument without a switch. -/
def peerProgram : Program PeerGlobals where
  action := peerAction
  positional memory curArg v := ({ v with gDevice := copied memory curArg }, none)

/-- What is done behind the loop. -/
def commandNeeded (s : Scan PeerGlobals) : Ended × Scan PeerGlobals :=
  if s.commandSet then (.success, s)
  else (.invalid, s.print ("You must specify one of -U or -D to specify" ++
    "that the link is up or down respectively.\n").toList)

/-- `parse_command_line`. Without any arguments it returns before it comes to the test. -/
def parseCommandLine (memory : Nat → Bool) (argv : List CStr) (v : PeerGlobals) :
    Option (Ended × Scan PeerGlobals) :=
  (scanArguments peerProgram memory argv v).map fun
    | (.success, s) => if argv.length = 1 then (.success, s) else commandNeeded s
    | (ended, s) => (ended, s)

end Peer

-- ---------------------------------------------------------------------------
-- What is to hold of a command line
-- ---------------------------------------------------------------------------

section Program

variable {V : Type}

/-- How many arguments go with one. -/
inductive Kind where
  | single
  | operand (missing : String)
  | command
deriving DecidableEq, Repr

def Program.kind (p : Program V) : CStr → Kind
  | '-' :: letters =>
    match p.action letters.head? with
    | .operand missing _ _ => .operand missing
    | .command _ _ => .command
    | _ => .single
  | _ => .single

/-- What there is to say about the last of the arguments, if it is a switch that needs an
operand. -/
def lastLacks (p : Program V) : List CStr → Option String
  | [] => none
  | arg :: rest =>
    match p.kind arg, rest with
    | .operand missing, [] => some missing
    | .operand _, _ :: rest => lastLacks p rest
    | .command, rest => lastLacks p rest
    | .single, rest => lastLacks p rest

/-- There are arguments behind the second switch that gives a command. -/
def cutOff (p : Program V) : Bool → List CStr → Bool
  | _, [] => false
  | commandSet, arg :: rest =>
    match p.kind arg, rest with
    | .operand _, [] => false
    | .operand _, _ :: rest => cutOff p commandSet rest
    | .command, rest => if commandSet then !rest.isEmpty else cutOff p true rest
    | .single, rest => cutOff p commandSet rest

/-- What is to hold when `argv` has been scanned: no operand comes from `argv[argc]` or beyond;
a switch in the last place whose operand is missing is reported, and the variables are as the
arguments in front of it have left them; and every argument is used once, an operand for the
switch in front of it. -/
structure InRange (p : Program V) (memory : Nat → Bool) (argv : List CStr) (v : V) (s : Scan V) :
    Prop where
  operands : ∀ i, (i, Use.operand) ∈ s.uses → i < argv.length
  reported : ∀ missing, lastLacks p (argv.drop 1) = some missing →
    missing.toList ∈ s.stderr ∧ ∀ ended before,
      scanArguments p memory argv.dropLast v = some (ended, before) → s.globals = before.globals
  once : ∀ i, 1 ≤ i → i < argv.length → (s.uses.map Prod.fst).count i = 1
  behind : ∀ i, (i, Use.operand) ∈ s.uses → ∃ k, i = k + 1 ∧ (k, Use.switch) ∈ s.uses

variable {p : Program V} {memory : Nat → Bool} {argv : List CStr} {arg : CStr} {i : Nat}
  {s s' : Scan V}

-- ---------------------------------------------------------------------------
-- One turn
-- ---------------------------------------------------------------------------

/-- An argument of its own is used up in its turn. -/
theorem turn_single (memory : Nat → Bool) (argv : List CStr) (i : Nat) (s : Scan V)
    (h : p.kind arg = .single) : ∃ how s', how ≠ Use.operand ∧
    turn p memory argv i arg s = .goOn i s' ∧ s'.uses = s.uses ++ [(i, how)] ∧
    s'.commandSet = s.commandSet := by
  unfold Program.kind at h
  split at h
  · rename_i letters
    cases hAction : p.action letters.head? with
    | flag set =>
      exact ⟨.switch, (s.use i .switch).set set, by decide, by simp only [turn, hAction], rfl, rfl⟩
    | operand missing set fallsThrough => simp [hAction] at h
    | command again set => simp [hAction] at h
    | unrecognised =>
      exact ⟨.switch, (s.use i .switch).unrecognised ('-' :: letters), by decide,
        by simp only [turn, hAction], rfl, rfl⟩
  · rename_i hNoSwitch
    have hTurn : turn p memory argv i arg s = .goOn i
        { s.use i .positional with
          globals := (p.positional (memory i) arg s.globals).1
          stderr := s.stderr ++ (p.positional (memory i) arg s.globals).2.toList } := by
      unfold turn
      split
      · exact absurd rfl (hNoSwitch _)
      · rfl
    exact ⟨.positional, _, by decide, hTurn, rfl, rfl⟩

theorem kind_operand {missing : String} (h : p.kind arg = .operand missing) :
    ∃ letters set fallsThrough, arg = '-' :: letters ∧
      p.action letters.head? = .operand missing set fallsThrough := by
  unfold Program.kind at h
  split at h
  · rename_i letters
    cases hAction : p.action letters.head? with
    | operand missing' set fallsThrough =>
      obtain rfl : missing' = missing := by simpa [hAction] using h
      exact ⟨letters, set, fallsThrough, rfl, hAction⟩
    | _ => simp [hAction] at h
  · contradiction

/-- A switch with an operand takes two arguments. -/
theorem turn_operand (memory : Nat → Bool) (s : Scan V) {missing : String} {value : CStr}
    (h : p.kind arg = .operand missing)    (hNext : argv[i + 1]? = some value) :
    ∃ s', turn p memory argv i arg s = .goOn (i + 1) s' ∧
      s'.uses = s.uses ++ [(i, .switch), (i + 1, .operand)] ∧ s'.commandSet = s.commandSet := by
  obtain ⟨letters, set, fallsThrough, rfl, hAction⟩ := kind_operand h
  obtain ⟨hRange, -⟩ := List.getElem?_eq_some_iff.mp hNext
  have hNot : ¬ i + 1 > argv.length := by omega
  have hTurn : turn p memory argv i ('-' :: letters) s = .goOn (i + 1)
      (if fallsThrough then
        (((s.use i .switch).use (i + 1) .operand).set (set (memory (i + 1)) value)).unrecognised
          ('-' :: letters)
      else ((s.use i .switch).use (i + 1) .operand).set (set (memory (i + 1)) value)) := by
    simp only [turn, hAction, if_neg hNot, hNext]
  refine ⟨_, hTurn, ?_, ?_⟩
  · split <;> simp [Scan.unrecognised, Scan.print, Scan.set, Scan.use]
  · split <;> rfl

/-- In the last place it takes the NULL behind the arguments. -/
theorem turn_operand_last (memory : Nat → Bool) (s : Scan V) {missing : String}
    (h : p.kind arg = .operand missing)    (hLast : argv.length = i + 1) :
    ∃ s', turn p memory argv i arg s = .ends .crashed s' ∧
      s'.uses = s.uses ++ [(i, .switch), (i + 1, .operand)] := by
  obtain ⟨letters, set, fallsThrough, rfl, hAction⟩ := kind_operand h
  have hNot : ¬ i + 1 > argv.length := by omega
  have hNull : argv[i + 1]? = none := List.getElem?_eq_none (by omega)
  exact ⟨(s.use i .switch).use (i + 1) .operand, by simp only [turn, hAction, if_neg hNot, hNull],
    by simp [Scan.use]⟩

/-- The second switch that gives a command ends the loop. -/
theorem turn_command (memory : Nat → Bool) (argv : List CStr) (i : Nat) (s : Scan V)
    (h : p.kind arg = .command) :
    if s.commandSet then
      ∃ s', turn p memory argv i arg s = .ends .invalid s' ∧ s'.uses = s.uses ++ [(i, .switch)]
    else ∃ s', turn p memory argv i arg s = .goOn i s' ∧ s'.uses = s.uses ++ [(i, .switch)] ∧
      s'.commandSet = true := by
  unfold Program.kind at h
  split at h
  · rename_i letters
    cases hAction : p.action letters.head? with
    | command again set =>
      split
      · rename_i hSet
        exact ⟨(s.use i .switch).print again.toList,
          by simp only [turn, hAction, Scan.use, hSet, if_true], rfl⟩
      · rename_i hUnset
        exact ⟨{ (s.use i .switch).set set with commandSet := true },
          by simp only [turn, hAction, Scan.use, hUnset]; rfl, rfl, rfl⟩
    | _ => simp [hAction] at h
  · contradiction

-- ---------------------------------------------------------------------------
-- The whole loop
-- ---------------------------------------------------------------------------

/-- Every operand has its switch in front of it. -/
def Behind (uses : List (Nat × Use)) : Prop :=
  ∀ i, (i, Use.operand) ∈ uses → ∃ k, i = k + 1 ∧ (k, Use.switch) ∈ uses

theorem behind_append {uses : List (Nat × Use)} {how : Use} (h : Behind uses)
    (hHow : how ≠ .operand) : Behind (uses ++ [(i, how)]) := by
  intro j hj
  rcases List.mem_append.mp hj with hj | hj
  · obtain ⟨k, hk, hMem⟩ := h j hj
    exact ⟨k, hk, List.mem_append_left _ hMem⟩
  · exact absurd (Prod.mk.inj (List.mem_singleton.mp hj)).2.symm hHow

theorem behind_append_operand {uses : List (Nat × Use)} (h : Behind uses) :
    Behind (uses ++ [(i, .switch), (i + 1, .operand)]) := by
  intro j hj
  rcases List.mem_append.mp hj with hj | hj
  · obtain ⟨k, hk, hMem⟩ := h j hj
    exact ⟨k, hk, List.mem_append_left _ hMem⟩
  · obtain rfl : j = i + 1 := by simpa using hj
    exact ⟨i, rfl, by simp⟩

/-- The arguments used at the end of the loop: not all of them if the scan is cut off, one too
many if the last one lacks its operand, else all of them, in order. -/
def UsedUp (p : Program V) (argv : List CStr) (commandSet : Bool) (rest : List CStr)
    (uses : List (Nat × Use)) : Prop :=
  if cutOff p commandSet rest then
    ∃ k, k + 1 < argv.length ∧ uses.map Prod.fst = List.range' 1 k
  else if (lastLacks p rest).isSome then (argv.length, Use.operand) ∈ uses
  else uses.map Prod.fst = List.range' 1 (argv.length - 1)

theorem range'_append_one (k : Nat) : List.range' 1 k ++ [k + 1] = List.range' 1 (k + 1) := by
  rw [List.range'_concat]
  simp [Nat.add_comm]

/-- **The loop**, when `k` arguments have been used. -/
theorem scan_used {rest : List CStr} {k fuel : Nat} (hRest : argv.drop (k + 1) = rest)
    (hLength : argv.length - 1 = k + rest.length) (hUses : s.uses.map Prod.fst = List.range' 1 k)
    (hBehind : Behind s.uses) (hFuel : rest.length < fuel) :
    ∃ ended s', scan p memory argv fuel (k + 1) s = some (ended, s') ∧ Behind s'.uses ∧
      UsedUp p argv s.commandSet rest s'.uses := by
  induction hn : rest.length using Nat.strong_induction_on generalizing rest k fuel s with
  | _ n ih =>
  obtain ⟨fuel, rfl⟩ := Nat.exists_eq_add_one.mpr (Nat.zero_lt_of_lt hFuel)
  cases rest with
  | nil =>
    have hEnd : argv[k + 1]? = none := List.getElem?_eq_none (List.drop_eq_nil_iff.mp hRest)
    refine ⟨.success, s, by simp only [scan, hEnd], hBehind, ?_⟩
    have hAll : argv.length - 1 = k := hLength
    simp only [UsedUp, cutOff, lastLacks, hAll, hUses]
    simp
  | cons arg rest =>
    have hArg : argv[k + 1]? = some arg := by
      rw [← List.head?_drop, hRest, List.head?_cons]
    have hBehindIt : argv.drop (k + 1 + 1) = rest := by
      rw [← List.tail_drop, hRest, List.tail_cons]
    have hOne : ∀ how, (s.uses ++ [(k + 1, how)]).map Prod.fst = List.range' 1 (k + 1) := by
      intro how
      rw [List.map_append, hUses]
      exact range'_append_one k
    simp only [List.length_cons] at hLength hFuel hn
    have hLess : rest.length < fuel := by omega
    cases hKind : p.kind arg with
    | single =>
      obtain ⟨how, s₁, hHow, hTurn, hUses₁, hSet⟩ := turn_single memory argv (k + 1) s hKind
      obtain ⟨ended, s', hScan, hEnd, hUsed⟩ := ih rest.length (by omega) hBehindIt (by omega)
        (hUses₁ ▸ hOne how) (hUses₁ ▸ behind_append hBehind hHow) hLess rfl
      refine ⟨ended, s', by simp only [scan, hArg, hTurn, hScan], hEnd, ?_⟩
      simpa only [UsedUp, cutOff, lastLacks, hKind, hSet] using hUsed
    | operand missing =>
      cases rest with
      | nil =>
        have hLast : argv.length = k + 1 + 1 := by simp only [List.length_nil] at hLength; omega
        obtain ⟨s', hTurn, hUses'⟩ := turn_operand_last memory s hKind hLast
        refine ⟨.crashed, s', by simp only [scan, hArg, hTurn],
          hUses' ▸ behind_append_operand hBehind, ?_⟩
        simp [UsedUp, cutOff, lastLacks, hKind, hUses', hLast]
      | cons value rest =>
        have hValue : argv[k + 1 + 1]? = some value := by
          rw [← List.head?_drop, hBehindIt, List.head?_cons]
        have hBehindBoth : argv.drop (k + 2 + 1) = rest := by
          rw [← List.tail_drop, hBehindIt, List.tail_cons]
        simp only [List.length_cons] at hLength hFuel hn
        have hLess : rest.length < fuel := by omega
        obtain ⟨s₁, hTurn, hUses₁, hSet⟩ := turn_operand memory s hKind hValue
        have hTwo : s₁.uses.map Prod.fst = List.range' 1 (k + 2) := by
          rw [hUses₁, ← range'_append_one, ← range'_append_one, List.map_append, hUses,
            List.append_assoc]
          rfl
        obtain ⟨ended, s', hScan, hEnd, hUsed⟩ := ih rest.length (by omega) hBehindBoth (by omega)
          hTwo (hUses₁ ▸ behind_append_operand hBehind) hLess rfl
        have hCut : cutOff p s.commandSet (arg :: value :: rest) = cutOff p s.commandSet rest := by
          rw [cutOff.eq_def p s.commandSet (arg :: value :: rest)]
          simp only [hKind]
        have hLacks : lastLacks p (arg :: value :: rest) = lastLacks p rest := by
          rw [lastLacks.eq_def p (arg :: value :: rest)]
          simp only [hKind]
        refine ⟨ended, s', by simp only [scan, hArg, hTurn]; exact hScan, hEnd, ?_⟩
        simpa only [UsedUp, hCut, hLacks, hSet] using hUsed
    | command =>
      have hTurn := turn_command memory argv (k + 1) s hKind
      by_cases hCommand : s.commandSet = true
      · rw [if_pos hCommand] at hTurn
        obtain ⟨s', hTurn, hUses'⟩ := hTurn
        refine ⟨.invalid, s', by simp only [scan, hArg, hTurn],
          hUses' ▸ behind_append hBehind (by decide), ?_⟩
        have hUsed : s'.uses.map Prod.fst = List.range' 1 (k + 1) := hUses' ▸ hOne .switch
        cases rest with
        | nil =>
          have hAll : argv.length - 1 = k + 1 := hLength
          simp [UsedUp, cutOff, lastLacks, hKind, hCommand, hAll, hUsed]
        | cons next rest =>
          simp only [List.length_cons] at hLength
          have hMore : k + 1 + 1 < argv.length := by omega
          simp only [UsedUp, cutOff, hKind, hCommand, if_true]
          exact ⟨k + 1, hMore, hUsed⟩
      · rw [if_neg hCommand] at hTurn
        obtain ⟨s₁, hTurn, hUses₁, hSet⟩ := hTurn
        obtain ⟨ended, s', hScan, hEnd, hUsed⟩ := ih rest.length (by omega) hBehindIt (by omega)
          (hUses₁ ▸ hOne .switch) (hUses₁ ▸ behind_append hBehind (by decide)) hLess rfl
        refine ⟨ended, s', by simp only [scan, hArg, hTurn, hScan], hEnd, ?_⟩
        simpa only [UsedUp, cutOff, lastLacks, hKind, hSet, hCommand, Bool.false_eq_true, if_false]
          using hUsed

/-- **The scan** always ends. -/
theorem scanArguments_used (p : Program V) (memory : Nat → Bool) (argv : List CStr) (v : V) :
    ∃ ended s, scanArguments p memory argv v = some (ended, s) ∧ Behind s.uses ∧
      UsedUp p argv false (argv.drop 1) s.uses := by
  have hBehind : Behind (Scan.start v).uses := fun i hi => absurd hi List.not_mem_nil
  by_cases hNone : argv.length = 1
  · refine ⟨.success, .start v, if_pos hNone, hBehind, ?_⟩
    rw [List.drop_eq_nil_of_le (Nat.le_of_eq hNone)]
    simp [UsedUp, cutOff, lastLacks, hNone, Scan.start]
  · have hLength : argv.length - 1 = 0 + (argv.drop 1).length := by
      rw [List.length_drop, Nat.zero_add]
    have hFuel : (argv.drop 1).length < argv.length + 1 := by
      rw [List.length_drop]
      omega
    obtain ⟨ended, s, hScan, hUsed⟩ := scan_used (p := p) rfl hLength rfl hBehind hFuel
    exact ⟨ended, s, (if_neg hNone).trans hScan, hUsed⟩

/-- What the loop has done so far tells how it ends. -/
theorem inRange_iff (memory : Nat → Bool) (v : V) (hBehind : Behind s.uses)
    (hUsed : UsedUp p argv false (argv.drop 1) s.uses) :
    InRange p memory argv v s ↔
      lastLacks p (argv.drop 1) = none ∧ cutOff p false (argv.drop 1) = false := by
  unfold UsedUp at hUsed
  constructor
  · intro h
    cases hCut : cutOff p false (argv.drop 1) with
    | true =>
      -- the last argument is not used
      rw [hCut, if_pos rfl] at hUsed
      obtain ⟨k, hk, hUses⟩ := hUsed
      have hOnce := h.once (argv.length - 1) (by omega) (by omega)
      rw [hUses, List.count_eq_zero_of_not_mem] at hOnce
      · contradiction
      · rw [List.mem_range'_1]
        omega
    | false =>
      rw [hCut, if_neg Bool.false_ne_true] at hUsed
      cases hLacks : lastLacks p (argv.drop 1) with
      | some missing =>
        rw [hLacks, Option.isSome_some, if_pos rfl] at hUsed
        exact absurd (h.operands _ hUsed) (Nat.lt_irrefl _)
      | none => exact ⟨rfl, rfl⟩
  · intro ⟨hLacks, hCut⟩
    rw [hCut, hLacks, if_neg Bool.false_ne_true, Option.isSome_none,
      if_neg Bool.false_ne_true] at hUsed
    refine ⟨fun i hi => ?_, fun missing hMissing => ?_, fun i hLow hHigh => ?_, hBehind⟩
    · have hMem : i ∈ s.uses.map Prod.fst := List.mem_map_of_mem (f := Prod.fst) hi
      rw [hUsed, List.mem_range'_1] at hMem
      omega
    · rw [hLacks] at hMissing
      contradiction
    · rw [hUsed]
      refine List.count_eq_one_of_mem List.nodup_range' ?_
      rw [List.mem_range'_1]
      omega

/-- Without a switch that gives a command, every scan gets to the end. -/
theorem cutOff_eq_false (h : ∀ arg, p.kind arg ≠ .command) (commandSet : Bool) (rest : List CStr) :
    cutOff p commandSet rest = false := by
  induction commandSet, rest using cutOff.induct p <;> simp_all [cutOff]

/-- A program without commands takes no argument for one. -/
theorem kind_ne_command (h : ∀ c again set, p.action c ≠ .command again set) (arg : CStr) :
    p.kind arg ≠ .command := by
  unfold Program.kind
  split
  · split
    · simp
    · rename_i hAction
      exact absurd hAction (h _ _ _)
    · simp
  · simp

end Program

-- ---------------------------------------------------------------------------
-- The three of them
-- ---------------------------------------------------------------------------

/-- The server's `parse_command_line` does what is to hold of it. -/
def ServerInRange (memory : Nat → Bool) (argv : List CStr) (v : ServerGlobals) : Prop :=
  ∃ ended s, parseCommandLine memory argv v = some (ended, s) ∧
    InRange serverProgram memory argv v s

/-- The Linux client's `parse_command_line` does what is to hold of it. -/
def LinuxClient.ClientInRange (memory : Nat → Bool) (argv : List CStr) (v : ClientGlobals) : Prop :=
  ∃ ended s, parseCommandLine memory argv v = some (ended, s) ∧
    InRange clientProgram memory argv v s

/-- The peer's `parse_command_line` does what is to hold of it. -/
def Peer.PeerInRange (memory : Nat → Bool) (argv : List CStr) (v : PeerGlobals) : Prop :=
  ∃ ended s, parseCommandLine memory argv v = some (ended, s) ∧
    InRange peerProgram memory argv v s

/-- **The argument loop stays in range** exactly when the last argument lacks no operand, and no
command is cut off. -/
theorem scanArguments_inRange_iff {V : Type} (p : Program V) (memory : Nat → Bool)
    (argv : List CStr) (v : V) :
    (∃ ended s, scanArguments p memory argv v = some (ended, s) ∧ InRange p memory argv v s) ↔
      lastLacks p (argv.drop 1) = none ∧ cutOff p false (argv.drop 1) = false := by
  obtain ⟨ended, s, hScan, hBehind, hUsed⟩ := scanArguments_used p memory argv v
  rw [← inRange_iff memory v hBehind hUsed, hScan]
  constructor
  · intro ⟨ended', s', hSame, hIn⟩
    obtain ⟨-, rfl⟩ := Prod.mk.inj (Option.some.inj hSame)
    exact hIn
  · exact fun hIn => ⟨ended, s, rfl, hIn⟩

/-- **The command lines.** For the server and the client all is well exactly if the last
argument is not a switch that needs an operand, for the peer if besides nothing stands behind a
second `-U` or `-D`. -/
theorem command_lines_iff (memory : Nat → Bool) (argv : List CStr) (server : ServerGlobals)
    (client : LinuxClient.ClientGlobals) (peer : Peer.PeerGlobals) :
    (ServerInRange memory argv server ↔ lastLacks serverProgram (argv.drop 1) = none) ∧
    (LinuxClient.ClientInRange memory argv client ↔
      lastLacks LinuxClient.clientProgram (argv.drop 1) = none) ∧
    (Peer.PeerInRange memory argv peer ↔
      lastLacks Peer.peerProgram (argv.drop 1) = none ∧
        cutOff Peer.peerProgram false (argv.drop 1) = false) := by
  refine ⟨?_, ?_, ?_⟩
  · have hKind : ∀ arg, serverProgram.kind arg ≠ .command := kind_ne_command fun c again set => by
      show serverAction c ≠ _
      unfold serverAction
      split <;> simp
    have hCut := cutOff_eq_false hKind false (argv.drop 1)
    have hIff := scanArguments_inRange_iff serverProgram memory argv server
    rwa [hCut, and_iff_left rfl] at hIff
  · have hKind : ∀ arg, LinuxClient.clientProgram.kind arg ≠ .command :=
      kind_ne_command fun c again set => by
        show LinuxClient.clientAction c ≠ _
        unfold LinuxClient.clientAction
        split <;> simp
    have hCut := cutOff_eq_false hKind false (argv.drop 1)
    have hIff := scanArguments_inRange_iff LinuxClient.clientProgram memory argv client
    rwa [hCut, and_iff_left rfl] at hIff
  · -- what the peer does behind the loop changes neither the uses nor the variables
    obtain ⟨ended, s, hScan, hBehind, hUsed⟩ := scanArguments_used Peer.peerProgram memory argv peer
    obtain ⟨ended', s', hParse, hUses⟩ : ∃ ended' s',
        Peer.parseCommandLine memory argv peer = some (ended', s') ∧ s'.uses = s.uses := by
      unfold Peer.parseCommandLine Peer.commandNeeded
      rw [hScan, Option.map_some]
      cases ended with
      | success =>
        dsimp only
        split
        · exact ⟨_, _, rfl, rfl⟩
        · split
          · exact ⟨_, _, rfl, rfl⟩
          · exact ⟨_, _, rfl, rfl⟩
      | invalid => exact ⟨_, _, rfl, rfl⟩
      | crashed => exact ⟨_, _, rfl, rfl⟩
    rw [← hUses] at hBehind hUsed
    unfold Peer.PeerInRange
    rw [← inRange_iff memory peer hBehind hUsed, hParse]
    constructor
    · intro ⟨ended'', s'', hSame, hIn⟩
      obtain ⟨-, rfl⟩ := Prod.mk.inj (Option.some.inj hSame)
      exact hIn
    · exact fun hIn => ⟨ended', s', rfl, hIn⟩

/-- What the variables of the server are before its command line is read. -/
def ServerGlobals.initial : ServerGlobals :=
  { ServerVariables.initial with gConfigFile := some "/etc/link_server.conf".toList }

/-- `link_server -c` gives `argv[2]`, which is NULL, to `strdup ()`. -/
theorem command_line_null :
    (parseCommandLine (fun _ => true) ["link_server".toList, "-c".toList] .initial).map
        (fun r => (r.1, r.2.uses, r.2.stderr)) =
      some (.crashed, [(1, .switch), (2, .operand)], []) ∧
    ¬ ServerInRange (fun _ => true) ["link_server".toList, "-c".toList] .initial := by
  refine ⟨by decide +kernel, fun ⟨ended, s, hParse, hIn⟩ => ?_⟩
  have hUses : (parseCommandLine (fun _ => true) ["link_server".toList, "-c".toList] .initial).map
      (fun r => r.2.uses) = some [(1, .switch), (2, .operand)] := by
    decide +kernel
  rw [hParse, Option.map_some] at hUses
  have hMem : (2, Use.operand) ∈ s.uses := by
    rw [Option.some.inj hUses]
    decide
  exact absurd (hIn.operands 2 hMem) (by decide)

end LinkControl
