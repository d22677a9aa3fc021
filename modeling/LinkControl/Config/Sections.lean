import LinkControl.Config.DeviceOptions
import LinkControl.Lib.Numbers

/-!
# The section parsers — server, Linux client and peer

`parse_server_section`, `parse_client_section` and `parse_peer_section` of the three
`read_config.c`. They go through the lines of their block as `parse_device_section` does,
and each has a chain of `strcasecmp` tests of its own. Unlike `parse_device_section` they
never free the name and the value, so a line for which `parse_line` sets only one of the two
is read with the other one of an earlier line (`LinePointers`).

`parseSectionLines_eq` says that what such a parser does is a fold over the lines that its
loop comes to, which are the same for all of them.
-/

namespace LinkControl

open CString Numbers

-- ---------------------------------------------------------------------------
-- The loop
-- ---------------------------------------------------------------------------

section Loop

variable {σ : Type} (turn : LineMemory → CStr → σ → Option σ)

/-- The loop that the section parsers have in common, from line `i` on, which starts at
`prevPos`: `turn` is what a turn makes of the line it has copied. `none` if it has crashed
or is still running. -/
def parseSectionLines (m : SectionMemory) (block : List Char) : Nat → Nat → Nat → σ → Option σ
  | 0, _, _, _ => none
  | fuel + 1, i, prevPos, s =>
    let bytes := block ++ (m.lines i).behind
    match strpbrk ['\n'] (cString (bytes.drop (prevPos + 1))) with
    | none => some s
    | some n =>
      let pos := prevPos + 1 + n
      if (m.lines i).line then
        let line := cString ((bytes.drop prevPos).take (pos - prevPos))
        (turn (m.lines i) line s).bind (parseSectionLines m block fuel (i + 1) (pos + 1))
      else none

/-- A section parser: its first line is copied, and not looked at. -/
def parseSection (m : SectionMemory) (fuel : Nat) (block : List Char) (s : σ) : Option σ :=
  match strpbrk ['\n'] (cString (block ++ m.behind)) with
  | none => none
  | some pos => if m.header then parseSectionLines turn m block fuel 0 (pos + 1) s else none

end Loop

-- ---------------------------------------------------------------------------
-- A line with an option
-- ---------------------------------------------------------------------------

/-- `strdup ()` -/
def strdup (m : LineMemory) (value : CStr) : Option CStr := if m.copy then some value else none

/-- `int numeric_value = strtoul (value, &end_ptr, 0)` -/
def numericValue (value : CStr) : Int := toInt (strtoul value)

/-- `number_valid` -/
def numberValid (value : CStr) : Bool := value ≠ [] && strtoulEnd value = []

/-- What is stored in an `unsigned short`. -/
def toUshort (n : Int) : Nat := (n % 65536).toNat

/-- One turn of the loop of a section parser that assigns options to variables, `parse`
being its `parse_line`. -/
def parseOptionLine {V : Type} (parse : LineMemory → CStr → Option (Int × CharPtr × CharPtr))
    (setOption : LineMemory → CStr → CStr → V → V) (m : LineMemory) (line : CStr)
    (x : V × LinePointers) : Option (V × LinePointers) :=
  if line = [] then some x
  else
    match parse m line with
    | none => none
    | some (result, name, value) =>
      let p : LinePointers := ⟨name.after x.2.name, value.after x.2.value⟩
      if result < 0 then some (x.1, p)
      else
        -- strtoul () and strcasecmp () need strings
        match p.name, p.value with
        | .string name, .string value => some (setOption m name value x.1, p)
        | _, _ => none

-- ---------------------------------------------------------------------------
-- The server (server/read_config.c)
-- ---------------------------------------------------------------------------

/-- The variables that the server section is for. -/
structure ServerVariables where
  gFork : Int
  gDebug : Int
  gPollTime : Int
  gSrvInaddr : Option CStr
  gSrvPort : Nat
  gMulticastGroup : Option CStr
  gMulticastPort : Nat
  gClientTimeout : Int
  gRetries : Int
  gConnectTimeout : Int
  gDisconnectTimeout : Int
deriving DecidableEq, Repr

/-- What the variables are initialised with. -/
def ServerVariables.initial : ServerVariables where
  gFork := 1
  gDebug := 0
  gPollTime := 5
  gSrvInaddr := none
  gSrvPort := 9876
  gMulticastGroup := some "239.255.42.42".toList
  gMulticastPort := 6789
  gClientTimeout := 2 * 60 * 20
  gRetries := 2
  gConnectTimeout := 60
  gDisconnectTimeout := 60

/-- The chain of tests in `parse_server_section`. -/
def setServerOption (m : LineMemory) (name value : CStr) (v : ServerVariables) : ServerVariables :=
  if strcasecmpEq name "fork".toList && numberValid value then
    { v with gFork := numericValue value }
  else if strcasecmpEq name "debug".toList && numberValid value then
    { v with gDebug := numericValue value }
  else if strcasecmpEq name "poll_time".toList && numberValid value then
    { v with gPollTime := numericValue value }
  else if strcasecmpEq name "srv_port".toList && numberValid value then
    { v with gSrvPort := toUshort (numericValue value) }
  else if strcasecmpEq name "srv_inaddr".toList && numberValid value then
    { v with gSrvInaddr := strdup m value }
  else if strcasecmpEq name "client_timeout".toList && numberValid value then
    { v with gClientTimeout := numericValue value }
  else if strcasecmpEq name "multicast_group".toList then
    { v with gMulticastGroup := strdup m value }
  else if strcasecmpEq name "retries".toList && numberValid value then
    { v with gRetries := numericValue value }
  else if strcasecmpEq name "connect_timeout".toList && numberValid value then
    { v with gConnectTimeout := numericValue value }
  else if strcasecmpEq name "disconnect_timeout".toList && numberValid value then
    { v with gDisconnectTimeout := numericValue value }
  else v

/-- `parse_server_section`, which returns 0. -/
def parseServerSection (m : SectionMemory) (fuel : Nat) (block : List Char) (v : ServerVariables) :
    Option ServerVariables :=
  (parseSection (parseOptionLine parseLine setServerOption) m fuel block (v, unset)).map Prod.fst

-- ---------------------------------------------------------------------------
-- The Linux client (linux_client/read_config.c)
-- ---------------------------------------------------------------------------

namespace LinuxClient

/-- The variables that the client section is for. -/
structure ClientVariables where
  gDebug : Int
  gServerTimeout : Int
  gMulticastGroup : Option CStr
  gMulticastPort : Nat
deriving DecidableEq, Repr

/-- `parse_line`, the same as that of the server. -/
def parseLine (m : LineMemory) (line : CStr) : Option (Int × CharPtr × CharPtr) :=
  LinkControl.parseLine m line

/-- The chain of tests in `parse_client_section`. -/
def setClientOption (m : LineMemory) (name value : CStr) (v : ClientVariables) : ClientVariables :=
  if strcasecmpEq name "debug".toList && numberValid value then
    { v with gDebug := numericValue value }
  else if strcasecmpEq name "server_timeout".toList && numberValid value then
    { v with gServerTimeout := numericValue value }
  else if strcasecmpEq name "multicast_group".toList then
    { v with gMulticastGroup := strdup m value }
  else if strcasecmpEq name "multicast_port".toList && numberValid value then
    { v with gMulticastPort := toUshort (numericValue value) }
  else v

/-- `parse_client_section`, which returns 0. -/
def parseClientSection (m : SectionMemory) (fuel : Nat) (block : List Char) (v : ClientVariables) :
    Option ClientVariables :=
  (parseSection (parseOptionLine parseLine setClientOption) m fuel block (v, unset)).map Prod.fst

end LinuxClient

-- ---------------------------------------------------------------------------
-- The peer (peer/read_config.c)
-- ---------------------------------------------------------------------------

namespace Peer

/-- The variables that the peer section is for. -/
structure PeerVariables where
  gDebug : Int
  gServAddr : Option CStr
  gServPort : Nat
deriving DecidableEq, Repr

/-- `parse_line`, the same as that of the server. -/
def parseLine (m : LineMemory) (line : CStr) : Option (Int × CharPtr × CharPtr) :=
  LinkControl.parseLine m line

/-- The chain of tests in `parse_peer_section`. -/
def setPeerOption (m : LineMemory) (name value : CStr) (v : PeerVariables) : PeerVariables :=
  if strcasecmpEq name "debug".toList && numberValid value then
    { v with gDebug := numericValue value }
  else if strcasecmpEq name "serv_addr".toList then
    { v with gServAddr := strdup m value }
  else if strcasecmpEq name "serv_port".toList && numberValid value then
    { v with gServPort := toUshort (numericValue value) }
  else v

/-- `parse_peer_section`, which returns 0. -/
def parsePeerSection (m : SectionMemory) (fuel : Nat) (block : List Char) (v : PeerVariables) :
    Option PeerVariables :=
  (parseSection (parseOptionLine parseLine setPeerOption) m fuel block (v, unset)).map Prod.fst

end Peer

-- ---------------------------------------------------------------------------
-- The parsers as folds over their lines
-- ---------------------------------------------------------------------------

/-- The loop ends. -/
def endsFrom (m : SectionMemory) (block : List Char) : Nat → Nat → Nat → Bool
  | 0, _, _ => false
  | fuel + 1, i, prevPos =>
    let bytes := block ++ (m.lines i).behind
    match strpbrk ['\n'] (cString (bytes.drop (prevPos + 1))) with
    | none => true
    | some n => endsFrom m block fuel (i + 1) (prevPos + n + 2)

/-- The first line of the block ends, and so does the loop. -/
def sectionEnds (m : SectionMemory) (fuel : Nat) (block : List Char) : Bool :=
  match strpbrk ['\n'] (cString (block ++ m.behind)) with
  | none => false
  | some pos => endsFrom m block fuel 0 (pos + 1)

section Fold

variable {σ : Type} (turn : LineMemory → CStr → σ → Option σ)

/-- A turn of the loop: there must be memory for the line. -/
def lineTurn (s : σ) (x : LineMemory × CStr) : Option σ :=
  if x.1.line then turn x.1 x.2 s else none

/-- What a parser makes of the lines that its loop comes to. -/
def foldSection (m : SectionMemory) (fuel : Nat) (block : List Char) (s : σ) : Option σ :=
  if m.header && sectionEnds m fuel block then
    (sectionLines m fuel block).foldlM (lineTurn turn) s
  else none

variable (m : SectionMemory) (block : List Char)

theorem parseSectionLines_eq (fuel i prevPos : Nat) (s : σ) :
    parseSectionLines turn m block fuel i prevPos s =
      if endsFrom m block fuel i prevPos then
        (linesFrom m block fuel i prevPos).foldlM (lineTurn turn) s
      else none := by
  induction fuel generalizing i prevPos s with
  | zero => rfl
  | succ fuel ih =>
    unfold parseSectionLines endsFrom linesFrom
    obtain ⟨found, hEnd⟩ : ∃ found,
        strpbrk ['\n'] (cString ((block ++ (m.lines i).behind).drop (prevPos + 1))) = found :=
      ⟨_, rfl⟩
    simp only [hEnd]
    cases found with
    | none => rfl
    | some n =>
      dsimp only
      rw [show prevPos + 1 + n - prevPos = n + 1 by omega,
        show prevPos + 1 + n + 1 = prevPos + n + 2 by omega]
      simp only [List.foldlM_cons, lineTurn]
      by_cases hLine : (m.lines i).line
      · rw [if_pos hLine, if_pos hLine]
        cases turn (m.lines i) _ s with
        | none => simp
        | some s' => exact ih (i + 1) (prevPos + n + 2) s'
      · simp [hLine]

theorem parseSection_eq (fuel : Nat) (s : σ) :
    parseSection turn m fuel block s = foldSection turn m fuel block s := by
  unfold parseSection foldSection sectionEnds sectionLines
  cases strpbrk ['\n'] (cString (block ++ m.behind)) with
  | none => simp
  | some pos =>
    dsimp only
    cases m.header with
    | false => rfl
    | true => exact parseSectionLines_eq turn m block fuel 0 (pos + 1) s

theorem parseDeviceLines_eq (fuel i prevPos : Nat) (x : DeviceSection × LinePointers) :
    parseDeviceLines m block fuel i prevPos x =
      parseSectionLines parseDeviceLine m block fuel i prevPos x := by
  induction fuel generalizing i prevPos x with
  | zero => rfl
  | succ fuel ih =>
    have hNext : ∀ n, parseDeviceLines m block fuel (i + 1) n =
        parseSectionLines parseDeviceLine m block fuel (i + 1) n :=
      fun n => funext fun x => ih (i + 1) n x
    unfold parseDeviceLines
    simp only [hNext]
    rfl

/-- `parse_device_section` has the same loop. -/
theorem parseDeviceSection_eq (fuel : Nat) :
    parseDeviceSection m fuel block =
      if m.device then (parseSection parseDeviceLine m fuel block (.empty, unset)).map Prod.fst
      else none := by
  unfold parseDeviceSection parseSection
  simp only [parseDeviceLines_eq]
  cases m.device with
  | false => rfl
  | true =>
    cases strpbrk ['\n'] (cString (block ++ m.behind)) with
    | none => rfl
    | some pos => cases m.header <;> rfl

end Fold

end LinkControl
