import LinkControl.Config.ParseLine

/-!
# Link server — the options of the server section

The head of `server/read_config.c` lists eleven options (`ServerOption`). The chain of tests
in `parse_server_section` has no arm for `multicast_port`, and the one for the address asks
for `srv_inaddr` and for a number (`ServerOption.sets`).

* `parseServerSection_get` — each variable holds what the last of the lines with an arm for
  it sets it to.
* `server_options_iff` — which sections of well-formed lines have the effect that the
  documentation gives them.
-/

namespace LinkControl

open CString Numbers

-- ---------------------------------------------------------------------------
-- What the documentation says
-- ---------------------------------------------------------------------------

inductive ServerOption where
  | fork
  | debug
  | pollTime
  | srvAddr
  | srvPort
  | multicastGroup
  | multicastPort
  | clientTimeout
  | retries
  | connectTimeout
  | disconnectTimeout
deriving DecidableEq, Repr

def ServerOption.name : ServerOption → String
  | .fork => "fork"
  | .debug => "debug"
  | .pollTime => "poll_time"
  | .srvAddr => "srv_addr"
  | .srvPort => "srv_port"
  | .multicastGroup => "multicast_group"
  | .multicastPort => "multicast_port"
  | .clientTimeout => "client_timeout"
  | .retries => "retries"
  | .connectTimeout => "connect_timeout"
  | .disconnectTimeout => "disconnect_timeout"

/-- What a variable holds. -/
inductive Setting where
  | number (n : Int)
  | text (text : Option CStr)
deriving DecidableEq, Repr

/-- The variable that an option is for. -/
def ServerVariables.get (v : ServerVariables) : ServerOption → Setting
  | .fork => .number v.gFork
  | .debug => .number v.gDebug
  | .pollTime => .number v.gPollTime
  | .srvAddr => .text v.gSrvInaddr
  | .srvPort => .number v.gSrvPort
  | .multicastGroup => .text v.gMulticastGroup
  | .multicastPort => .number v.gMulticastPort
  | .clientTimeout => .number v.gClientTimeout
  | .retries => .number v.gRetries
  | .connectTimeout => .number v.gConnectTimeout
  | .disconnectTimeout => .number v.gDisconnectTimeout

/-- A value as it is written. -/
inductive OptionValue where
  | number (n : Nat)
  | quoted (text : CStr)
deriving DecidableEq, Repr

def OptionValue.text : OptionValue → CStr
  | .number n => Nat.toDigits 10 n
  | .quoted text => text

def OptionValue.written : OptionValue → CStr
  | .number n => Nat.toDigits 10 n
  | .quoted text => '"' :: (text ++ ['"'])

def OptionValue.setting : OptionValue → Setting
  | .number n => .number n
  | .quoted text => .text (some text)

/-- The value has the type of the option, and its variable can hold it. -/
def ServerOption.Documented : ServerOption → OptionValue → Prop
  | .srvAddr, .quoted text => '"' ∉ text ∧ IsLine text
  | .multicastGroup, .quoted text => '"' ∉ text ∧ IsLine text
  | .srvAddr, .number _ => False
  | .multicastGroup, .number _ => False
  | .srvPort, .number n => n ≤ 65535
  | .multicastPort, .number n => n ≤ 65535
  | _, .number n => n ≤ 2147483647
  | _, .quoted _ => False

/-- Spaces and tabs. -/
def Blank (text : CStr) : Prop := ∀ c ∈ text, c = ' ' ∨ c = '\t'

/-- A line `name = value` with a documented option. -/
structure ServerLine where
  option : ServerOption
  value : OptionValue
  before : CStr
  after : CStr
  blankBefore : Blank before
  blankAfter : Blank after
  documented : option.Documented value

def ServerLine.text (l : ServerLine) : CStr :=
  l.option.name.toList ++ l.before ++ '=' :: (l.after ++ l.value.written)

/-- What the last of the lines with the option says, or else what the variable holds. -/
def said (ls : List ServerLine) (o : ServerOption) (old : Setting) : Setting :=
  ((ls.filter fun l => l.option = o).getLast?.map fun l => l.value.setting).getD old

-- ---------------------------------------------------------------------------
-- What the code does
-- ---------------------------------------------------------------------------

/-- A line that has been taken apart. -/
structure OptionText where
  memory : LineMemory
  name : CStr
  value : CStr
deriving DecidableEq, Repr

/-- The name that the chain of tests has for an option. -/
def ServerOption.arm : ServerOption → Option String
  | .srvAddr => some "srv_inaddr"
  | .multicastPort => none
  | o => some o.name

/-- The line passes the test of the option; all but one ask for a number. -/
def ServerOption.tests (o : ServerOption) (x : OptionText) : Bool :=
  match o.arm with
  | none => false
  | some arm => strcasecmpEq x.name arm.toList && (o = .multicastGroup || numberValid x.value)

/-- What the variable of an option holds when this number or this text is stored in it. -/
def ServerOption.stored (o : ServerOption) (n : Int) (text : Option CStr) : Setting :=
  match o with
  | .srvAddr | .multicastGroup => .text text
  | .srvPort => .number (toUshort n)
  | _ => .number n

/-- What the variable of an option is then set to. -/
def ServerOption.assigned (o : ServerOption) (x : OptionText) : Setting :=
  o.stored (numericValue x.value) (strdup x.memory x.value)

/-- What the last of the lines that pass the test of the option sets its variable to, or else
what the variable holds. -/
def taken (xs : List OptionText) (o : ServerOption) (old : Setting) : Setting :=
  ((xs.filter o.tests).getLast?.map o.assigned).getD old

-- ---------------------------------------------------------------------------
-- The chain of tests
-- ---------------------------------------------------------------------------

/-- The options in the order of the tests. -/
def serverArms : List ServerOption :=
  [.fork, .debug, .pollTime, .srvPort, .srvAddr, .clientTimeout, .multicastGroup, .retries,
    .connectTimeout, .disconnectTimeout]

/-- The assignment in the arm of an option. -/
def ServerVariables.put (v : ServerVariables) (o : ServerOption) (n : Int) (text : Option CStr) :
    ServerVariables :=
  match o with
  | .fork => { v with gFork := n }
  | .debug => { v with gDebug := n }
  | .pollTime => { v with gPollTime := n }
  | .srvAddr => { v with gSrvInaddr := text }
  | .srvPort => { v with gSrvPort := toUshort n }
  | .multicastGroup => { v with gMulticastGroup := text }
  | .multicastPort => v
  | .clientTimeout => { v with gClientTimeout := n }
  | .retries => { v with gRetries := n }
  | .connectTimeout => { v with gConnectTimeout := n }
  | .disconnectTimeout => { v with gDisconnectTimeout := n }

/-- The chain of `strcmp` calls is a search for the first option whose name is the line's. -/
theorem setServerOption_eq (x : OptionText) (v : ServerVariables) :
    setServerOption x.memory x.name x.value v =
      (serverArms.find? (·.tests x)).elim v fun o =>
        v.put o (numericValue x.value) (strdup x.memory x.value) := by
  generalize hn : numericValue x.value = n
  generalize hText : strdup x.memory x.value = text
  have hNext : ∀ (o : ServerOption) (os : List ServerOption),
      ((o :: os).find? (·.tests x)).elim v (fun o => v.put o n text) =
        if o.tests x then v.put o n text
        else (os.find? (·.tests x)).elim v fun o => v.put o n text := by
    intro o os
    cases hTest : o.tests x <;> simp [hTest]
  simp only [serverArms, hNext, List.find?_nil, Option.elim_none]
  simp only [setServerOption, hn, hText, ServerOption.tests, ServerOption.arm, ServerOption.name,
    reduceCtorEq, decide_true, decide_false, Bool.true_or, Bool.false_or, Bool.and_true,
    ServerVariables.put]

/-- The chain has an arm for an option exactly when the option is stored at all. -/
theorem mem_serverArms {o : ServerOption} : o ∈ serverArms ↔ o.arm.isSome := by
  cases o <;> simp [serverArms, ServerOption.arm]

/-- No two tests have the same name. -/
theorem arm_injective : ∀ o ∈ serverArms, ∀ o' ∈ serverArms,
    o.arm.map (fun arm => arm.toList.map Char.toLower) =
      o'.arm.map (fun arm => arm.toList.map Char.toLower) → o = o' := by
  decide +kernel

/-- A line passes one test at most. -/
theorem tests_unique {o o' : ServerOption} {x : OptionText} (h : o.tests x) (h' : o'.tests x) :
    o = o' := by
  unfold ServerOption.tests strcasecmpEq at h h'
  cases hArm : o.arm with
  | none => simp [hArm] at h
  | some arm =>
    cases hArm' : o'.arm with
    | none => simp [hArm'] at h'
    | some arm' =>
      simp only [hArm, hArm', Bool.and_eq_true, beq_iff_eq] at h h'
      refine arm_injective o (mem_serverArms.mpr (by rw [hArm]; rfl)) o'
        (mem_serverArms.mpr (by rw [hArm']; rfl)) ?_
      rw [hArm, hArm', Option.map_some, Option.map_some, ← h.1, ← h'.1]

/-- An arm stores into its own variable. -/
theorem put_get (v : ServerVariables) {o : ServerOption} (h : o ∈ serverArms) (n : Int)
    (text : Option CStr) (o' : ServerOption) :
    (v.put o n text).get o' = if o = o' then o.stored n text else v.get o' := by
  by_cases hNone : o = .multicastPort
  · subst hNone
    exact absurd h (by simp [serverArms])
  · cases o <;> first
      | exact absurd rfl hNone
      | (cases o' <;> rfl)

/-- What the chain of tests makes of a line. -/
theorem setServerOption_get (x : OptionText) (v : ServerVariables) (o : ServerOption) :
    (setServerOption x.memory x.name x.value v).get o =
      if o.tests x then o.assigned x else v.get o := by
  rw [setServerOption_eq]
  cases hFind : serverArms.find? (·.tests x) with
  | none =>
    rw [List.find?_eq_none] at hFind
    rw [Option.elim_none, if_neg]
    intro hTest
    refine hFind o (mem_serverArms.mpr ?_) hTest
    cases hArm : o.arm with
    | none => simp [ServerOption.tests, hArm] at hTest
    | some arm => rfl
  | some o' =>
    have hTest := List.find?_some hFind
    rw [Option.elim_some, put_get v (List.mem_of_find?_eq_some hFind)]
    by_cases hSame : o' = o
    · subst hSame
      rw [if_pos rfl, if_pos hTest]
      rfl
    · rw [if_neg hSame, if_neg fun hOther => hSame (tests_unique hTest hOther)]

/-- And of several. -/
theorem foldl_setServerOption_get (xs : List OptionText) (v : ServerVariables) (o : ServerOption) :
    (xs.foldl (fun v x => setServerOption x.memory x.name x.value v) v).get o =
      taken xs o (v.get o) := by
  induction xs generalizing v with
  | nil => rfl
  | cons x xs ih =>
    rw [List.foldl_cons, ih, setServerOption_get]
    unfold taken
    by_cases hTest : o.tests x = true
    · rw [List.filter_cons_of_pos hTest, List.getLast?_cons, if_pos hTest]
      cases (xs.filter o.tests).getLast? <;> rfl
    · rw [List.filter_cons_of_neg hTest, if_neg hTest]

-- ---------------------------------------------------------------------------
-- The lines that are taken apart
-- ---------------------------------------------------------------------------

/-- The lines that a section parser compares the names of, and what it leaves in its two
pointers. `none` is a crash. -/
def optionTexts (parse : LineMemory → CStr → Option (Int × CharPtr × CharPtr)) :
    List (LineMemory × CStr) → LinePointers → Option (List OptionText × LinePointers)
  | [], p => some ([], p)
  | (m, line) :: rest, p =>
    if m.line then
      if line = [] then optionTexts parse rest p
      else
        match parse m line with
        | none => none
        | some (result, name, value) =>
          let p : LinePointers := ⟨name.after p.name, value.after p.value⟩
          if result < 0 then optionTexts parse rest p
          else
            match p.name, p.value with
            | .string name, .string value =>
              (optionTexts parse rest p).map fun r => (⟨m, name, value⟩ :: r.1, r.2)
            | _, _ => none
    else none

section Texts

variable {parse : LineMemory → CStr → Option (Int × CharPtr × CharPtr)}

/-- The lines are gone through in order, with the pointers handed on. -/
theorem optionTexts_append (xs ys : List (LineMemory × CStr)) (p : LinePointers) :
    optionTexts parse (xs ++ ys) p =
      (optionTexts parse xs p).bind fun r =>
        (optionTexts parse ys r.2).map fun r' => (r.1 ++ r'.1, r'.2) := by
  induction xs generalizing p with
  | nil =>
    cases hRest : optionTexts parse ys p <;> simp [optionTexts, hRest]
  | cons x xs ih =>
    obtain ⟨m, line⟩ := x
    simp only [List.cons_append, optionTexts]
    split
    · split
      · exact ih p
      · cases parse m line with
        | none => rfl
        | some r =>
          obtain ⟨result, name, value⟩ := r
          dsimp only
          split
          · exact ih _
          · generalize name.after p.name = name'
            generalize value.after p.value = value'
            cases name' <;> cases value' <;> try rfl
            dsimp only
            rw [ih]
            cases optionTexts parse xs _ with
            | none => rfl
            | some r =>
              cases hRest : optionTexts parse ys r.2 <;> simp [hRest]
    · rfl

/-- The variables after the loop of a section parser. -/
theorem foldlM_parseOptionLine {V : Type} (setOption : LineMemory → CStr → CStr → V → V)
    (xs : List (LineMemory × CStr)) (v : V) (p : LinePointers) :
    xs.foldlM (lineTurn (parseOptionLine parse setOption)) (v, p) =
      (optionTexts parse xs p).map fun r =>
        (r.1.foldl (fun v x => setOption x.memory x.name x.value v) v, r.2) := by
  induction xs generalizing v p with
  | nil => rfl
  | cons x xs ih =>
    obtain ⟨m, line⟩ := x
    have hTurn : lineTurn (parseOptionLine parse setOption) (v, p) (m, line) =
        if m.line then parseOptionLine parse setOption m line (v, p) else none := rfl
    rw [List.foldlM_cons, hTurn, parseOptionLine]
    simp only [optionTexts]
    split
    · split
      · exact ih v p
      · cases parse m line with
        | none => rfl
        | some r =>
          obtain ⟨result, name, value⟩ := r
          dsimp only
          split
          · exact ih v _
          · generalize name.after p.name = name'
            generalize value.after p.value = value'
            cases name' <;> cases value' <;> try rfl
            rename_i name' value'
            rw [Option.bind_eq_bind, Option.bind_some, ih]
            dsimp only
            cases optionTexts parse xs _ <;> rfl
    · rfl

end Texts

-- ---------------------------------------------------------------------------
-- A well-formed line
-- ---------------------------------------------------------------------------

/-- The names of the options are words that a line may start with. -/
theorem name_fit (o : ServerOption) :
    Free separators o.name.toList ∧ IsLine o.name.toList ∧ o.name.toList ≠ [] := by
  cases o <;> decide +kernel

/-- A text that is written as digits. -/
theorem digits_fit (n : Nat) : ∃ c rest, Nat.toDigits 10 n = c :: rest ∧ c.isDigit ∧
    IsLine (c :: rest) := by
  obtain ⟨c, rest, hEq⟩ := List.exists_cons_of_ne_nil (Nat.toDigits_ne_nil (n := n) (b := 10))
  have hDigit : ∀ x ∈ c :: rest, x.isDigit := fun x hx => isDigit_of_mem_toDigits (n := n) (hEq ▸ hx)
  refine ⟨c, rest, hEq, hDigit c (List.mem_cons_self ..), fun hMem => ?_, fun hMem => ?_⟩
  · exact absurd (hDigit _ hMem) (by decide)
  · exact absurd (hDigit _ hMem) (by decide)

namespace ServerLine

variable (l : ServerLine)

/-- Only the two addresses are written in quotes. -/
theorem quoted_fit {text : CStr} (h : l.value = .quoted text) :
    (l.option = .srvAddr ∨ l.option = .multicastGroup) ∧ '"' ∉ text ∧ IsLine text := by
  have hDocumented := l.documented
  rw [h] at hDocumented
  cases hOption : l.option <;> rw [hOption] at hDocumented <;>
    first
    | exact ⟨Or.inl rfl, hDocumented⟩
    | exact ⟨Or.inr rfl, hDocumented⟩
    | exact absurd hDocumented (by simp [ServerOption.Documented])

/-- A number is written where an `int` or a port is stored. -/
theorem number_fit {n : Nat} (h : l.value = .number n) :
    l.option ≠ .srvAddr ∧ l.option ≠ .multicastGroup ∧ n ≤ 2147483647 ∧
      (l.option = .srvPort → n ≤ 65535) := by
  have hDocumented := l.documented
  rw [h] at hDocumented
  cases hOption : l.option <;> rw [hOption] at hDocumented <;>
    simp only [ServerOption.Documented] at hDocumented <;>
    refine ⟨by decide, by decide, by omega, fun hPort => ?_⟩ <;>
    first
    | exact hDocumented
    | exact absurd hPort (by decide)

theorem blank_fit {text : CStr} (h : Blank text) : Free valueStarts text ∧ IsLine text := by
  have hSpace : ∀ c ∈ text, c ∉ valueStarts ∧ c ≠ '\n' ∧ c ≠ nul := by
    intro c hc
    rcases h c hc with rfl | rfl <;> decide
  exact ⟨fun c hc => (hSpace c hc).1, fun hMem => (hSpace _ hMem).2.1 rfl,
    fun hMem => (hSpace _ hMem).2.2 rfl⟩

theorem isLine_append {a b : CStr} : IsLine (a ++ b) ↔ IsLine a ∧ IsLine b := by
  unfold IsLine
  rw [List.mem_append, List.mem_append]
  tauto

theorem isLine_cons {c : Char} {a : CStr} : IsLine (c :: a) ↔ (c ≠ '\n' ∧ c ≠ nul) ∧ IsLine a := by
  unfold IsLine
  rw [List.mem_cons, List.mem_cons, not_or, not_or]
  tauto

/-- Every value is written on one line. -/
theorem written_fit : IsLine l.value.written := by
  cases hValue : l.value with
  | number n =>
    obtain ⟨c, rest, hEq, -, hLine⟩ := digits_fit n
    rw [OptionValue.written, hEq]
    exact hLine
  | quoted text =>
    obtain ⟨-, -, hLine⟩ := l.quoted_fit hValue
    rw [OptionValue.written, isLine_cons, isLine_append]
    exact ⟨by decide, hLine, by decide⟩

/-- So is every line that is written properly, and it is not empty. -/
theorem text_fit : IsLine l.text ∧ l.text ≠ [] := by
  obtain ⟨-, hName, hNonempty⟩ := name_fit l.option
  constructor
  · rw [text, isLine_append, isLine_append, isLine_cons, isLine_append]
    exact ⟨⟨hName, (blank_fit l.blankBefore).2⟩, by decide, (blank_fit l.blankAfter).2, l.written_fit⟩
  · simp [text, hNonempty]

/-- Such a line is in the grammar. -/
theorem optionLine : OptionLine l.text l.option.name.toList l.value.text := by
  obtain ⟨hName, -, -⟩ := name_fit l.option
  have hBefore := (blank_fit l.blankBefore).1
  have hAfter := (blank_fit l.blankAfter).1
  -- the separator is the first blank in front of the `=`, if there is one
  obtain ⟨sep, between, hSep, hBetween, hText⟩ : ∃ sep between, sep ∈ separators ∧
      Free valueStarts between ∧
      l.text = l.option.name.toList ++ sep :: (between ++ l.value.written) := by
    cases hBlank : l.before with
    | nil =>
      exact ⟨'=', l.after, by decide, hAfter, by simp [text, hBlank]⟩
    | cons c rest =>
      rw [hBlank] at hBefore
      refine ⟨c, rest ++ '=' :: l.after, ?_, ?_, by simp [text, hBlank]⟩
      · rcases l.blankBefore c (by simp [hBlank]) with rfl | rfl <;> decide
      · intro x hx
        rcases List.mem_append.mp hx with hx | hx
        · exact hBefore x (List.mem_cons_of_mem _ hx)
        · rcases List.mem_cons.mp hx with rfl | hx
          · decide
          · exact hAfter x hx
  rw [hText]
  cases hValue : l.value with
  | number n =>
    obtain ⟨c, rest, hEq, hDigit, -⟩ := digits_fit n
    rw [OptionValue.written, OptionValue.text, hEq]
    exact .number rest hName hSep hBetween hDigit
  | quoted text =>
    obtain ⟨-, hQuote, -⟩ := l.quoted_fit hValue
    exact .quoted [] hName hSep hBetween hQuote

/-- What `parse_line` makes of the line, if there is memory for its two strings. -/
def read (m : LineMemory) (l : ServerLine) : Option OptionText :=
  if m.name && m.value then some ⟨m, l.option.name.toList, l.value.text⟩ else none

/-- What it leaves in the two pointers. -/
def leaves (m : LineMemory) (l : ServerLine) (p : LinePointers) : LinePointers :=
  if m.name then
    ⟨.string l.option.name.toList, if m.value then .string l.value.text else .null⟩
  else ⟨.null, p.value⟩

/-- One line that is written properly: what it says, and the pointers it leaves. -/
theorem optionTexts_cons (m : LineMemory) (rest : List (LineMemory × CStr)) (p : LinePointers)
    (hLine : m.line = true) :
    optionTexts parseLine ((m, l.text) :: rest) p =
      (optionTexts parseLine rest (l.leaves m p)).map fun r => ((l.read m).toList ++ r.1, r.2) := by
  have hOption := l.optionLine
  simp only [optionTexts]
  rw [if_pos hLine, if_neg l.text_fit.2]
  cases hName : m.name with
  | false =>
    rw [parseLine_of_not_name (not_free_of_optionLine hOption) hName]
    simp [read, leaves, hName, CharPtr.after]
  | true =>
    rw [parseLine_optionLine hOption hName]
    cases hValue : m.value <;> simp [read, leaves, hName, hValue, CharPtr.after]

end ServerLine

-- ---------------------------------------------------------------------------
-- The lines of a section
-- ---------------------------------------------------------------------------

/-- The lines of the section, each with what its turn meets. -/
def ownLines (m : SectionMemory) (ls : List ServerLine) : List (LineMemory × ServerLine) :=
  ls.zipIdx.map fun x => (m.lines x.2, x.1)

/-- What becomes of them. -/
def ownTexts (m : SectionMemory) (ls : List ServerLine) : List OptionText :=
  (ownLines m ls).flatMap fun x => (x.2.read x.1).toList

/-- The two pointers behind them. -/
def ownPointers (m : SectionMemory) (ls : List ServerLine) : LinePointers :=
  (ownLines m ls).foldl (fun p x => x.2.leaves x.1 p) unset

/-- The lines that the loop goes on to find in the memory behind the section. -/
def linesBehind (m : SectionMemory) (fuel : Nat) (header : CStr) (ls : List ServerLine) :
    List (LineMemory × CStr) :=
  linesFrom m (sectionBytes header (ls.map ServerLine.text)) (fuel - ls.length) ls.length
    ((sectionBytes header (ls.map ServerLine.text)).length - 1)

/-- The loop ends there. -/
def endsBehind (m : SectionMemory) (fuel : Nat) (header : CStr) (ls : List ServerLine) : Bool :=
  endsFrom m (sectionBytes header (ls.map ServerLine.text)) (fuel - ls.length) ls.length
    ((sectionBytes header (ls.map ServerLine.text)).length - 1)

/-- There is memory for everything, and no newline between the end of the section and the next
NUL in memory. -/
structure Undisturbed (m : SectionMemory) (ls : List ServerLine) : Prop where
  header : m.header = true
  lines : ∀ x ∈ ownLines m ls, x.1.line ∧ x.1.name ∧ x.1.value ∧ x.1.copy
  behind : '\n' ∉ cString (m.lines ls.length).behind

/-- The parser ends, and every variable holds what the section says. -/
def TakesEffect (m : SectionMemory) (fuel : Nat) (header : CStr) (ls : List ServerLine)
    (v : ServerVariables) : Prop :=
  ∃ v', parseServerSection m fuel (sectionBytes header (ls.map ServerLine.text)) v = some v' ∧
    ∀ o, v'.get o = said ls o (v.get o)

/-- The lines that are written properly are all read, if there is memory for each of them. -/
theorem optionTexts_own (xs : List (LineMemory × ServerLine)) (p : LinePointers) :
    optionTexts parseLine (xs.map fun x => (x.1, x.2.text)) p =
      if ∀ x ∈ xs, x.1.line = true then
        some (xs.flatMap fun x => (x.2.read x.1).toList,
          xs.foldl (fun p x => x.2.leaves x.1 p) p)
      else none := by
  induction xs generalizing p with
  | nil => simp [optionTexts]
  | cons x xs ih =>
    obtain ⟨m, l⟩ := x
    rw [List.map_cons]
    cases hLine : m.line with
    | false => simp [optionTexts, hLine]
    | true =>
      rw [l.optionTexts_cons m _ p hLine, ih]
      simp only [List.forall_mem_cons, hLine, true_and]
      split <;> simp

/-- The section is read line by line, and then what is behind it. -/
theorem sectionLines_own (m : SectionMemory) {fuel : Nat} {header : CStr} (hHeader : IsLine header)
    (ls : List ServerLine) (hFuel : ls.length ≤ fuel) :
    sectionLines m fuel (sectionBytes header (ls.map ServerLine.text)) =
      (ownLines m ls).map (fun x => (x.1, x.2.text)) ++ linesBehind m fuel header ls ∧
    sectionEnds m fuel (sectionBytes header (ls.map ServerLine.text)) =
      endsBehind m fuel header ls := by
  obtain ⟨hStart, hDrop⟩ := section_starts hHeader (ls.map ServerLine.text) m.behind
  have hLines : ∀ l ∈ ls.map ServerLine.text, IsLine l ∧ l ≠ [] := by
    intro line hMem
    obtain ⟨l, -, rfl⟩ := List.mem_map.mp hMem
    exact l.text_fit
  obtain ⟨hEnds, hFrom⟩ := loop_of_nonempty (m := m) hLines hDrop (fuel - ls.length) 0
  rw [List.length_map, Nat.add_sub_cancel' hFuel, Nat.zero_add] at hEnds hFrom
  constructor
  · simp only [sectionLines, hStart, linesBehind]
    rw [hFrom, ownLines, List.zipIdx_map, List.map_map, List.map_map]
    rfl
  · simp only [sectionEnds, hStart, endsBehind, hEnds]

/-- What the parser makes of the section. -/
theorem parseServerSection_own (m : SectionMemory) {fuel : Nat} {header : CStr}
    (hHeader : IsLine header) (ls : List ServerLine) (hFuel : ls.length ≤ fuel)
    (v v' : ServerVariables) :
    parseServerSection m fuel (sectionBytes header (ls.map ServerLine.text)) v = some v' ↔
      m.header = true ∧ endsBehind m fuel header ls = true ∧
      (∀ x ∈ ownLines m ls, x.1.line = true) ∧
      ∃ r, optionTexts parseLine (linesBehind m fuel header ls) (ownPointers m ls) = some r ∧
        (ownTexts m ls ++ r.1).foldl (fun v x => setServerOption x.memory x.name x.value v) v =
          v' := by
  obtain ⟨hLines, hEnds⟩ := sectionLines_own m hHeader ls hFuel
  have hOwn : optionTexts parseLine ((ownLines m ls).map fun x => (x.1, x.2.text)) unset =
      if ∀ x ∈ ownLines m ls, x.1.line = true then some (ownTexts m ls, ownPointers m ls)
      else none := optionTexts_own _ _
  unfold parseServerSection
  rw [parseSection_eq, foldSection, hLines, hEnds, foldlM_parseOptionLine, optionTexts_append, hOwn]
  cases m.header with
  | false => simp
  | true =>
    cases endsBehind m fuel header ls with
    | false => simp
    | true =>
      by_cases hMemory : ∀ x ∈ ownLines m ls, x.1.line = true
      · rw [if_pos hMemory, and_iff_right hMemory, Option.bind_some]
        cases optionTexts parseLine (linesBehind m fuel header ls) (ownPointers m ls) <;> simp
      · rw [if_neg hMemory]
        exact iff_of_false (by simp) fun h => hMemory h.2.2.1

-- ---------------------------------------------------------------------------
-- What is taken and what is said
-- ---------------------------------------------------------------------------

theorem numberValid_toDigits (n : Nat) : numberValid (Nat.toDigits 10 n) = true := by
  simp [numberValid, strtoulEnd_toDigits, Nat.toDigits_ne_nil]

/-- A number up to the largest `int` is read as it was written. -/
theorem numericValue_toDigits {n : Nat} (h : n ≤ 2147483647) :
    numericValue (Nat.toDigits 10 n) = n := by
  have hRead : strtoul (Nat.toDigits 10 n ++ []) = n :=
    strtoul_toDigits (by unfold ulongMax; omega) (by simp)
  rw [List.append_nil] at hRead
  rw [numericValue, hRead, toInt_of_lt (by omega)]

/-- The options in the order of the documentation. -/
def serverOptions : List ServerOption :=
  [.fork, .debug, .pollTime, .srvAddr, .srvPort, .multicastGroup, .multicastPort, .clientTimeout,
    .retries, .connectTimeout, .disconnectTimeout]

theorem mem_serverOptions (o : ServerOption) : o ∈ serverOptions := by
  cases o <;> simp [serverOptions]

/-- Only the name of the address is not the one that is tested for. -/
theorem arm_name : ∀ o ∈ serverArms, ∀ o' ∈ serverOptions,
    o.arm.map (fun arm => strcasecmpEq o'.name.toList arm.toList) =
      some (decide (o' = o ∧ o ≠ .srvAddr)) := by
  decide +kernel

/-- Which of the tests such a line passes. -/
theorem tests_own (m : LineMemory) (l : ServerLine) (o : ServerOption) :
    o.tests ⟨m, l.option.name.toList, l.value.text⟩ ↔
      l.option = o ∧ o ≠ .srvAddr ∧ o ≠ .multicastPort := by
  unfold ServerOption.tests
  cases hArm : o.arm with
  | none =>
    have hPort : o = .multicastPort := by
      cases o <;> first
        | rfl
        | exact absurd hArm (by simp [ServerOption.arm])
    simp [hPort]
  | some arm =>
    have hMem : o ∈ serverArms := mem_serverArms.mpr (by rw [hArm]; rfl)
    have hNotPort : o ≠ .multicastPort := by
      rintro rfl
      exact absurd hArm (by simp [ServerOption.arm])
    have hName := arm_name o hMem l.option (mem_serverOptions _)
    rw [hArm, Option.map_some, Option.some.injEq] at hName
    dsimp only
    rw [hName, Bool.and_eq_true, decide_eq_true_eq]
    constructor
    · intro h
      exact ⟨h.1.1, h.1.2, hNotPort⟩
    · intro h
      obtain ⟨rfl, hNotAddr, -⟩ := h
      refine ⟨⟨rfl, hNotAddr⟩, ?_⟩
      by_cases hGroup : l.option = .multicastGroup
      · simp [hGroup]
      · cases hValue : l.value with
        | number n => simp [OptionValue.text, numberValid_toDigits]
        | quoted text =>
          rcases (l.quoted_fit hValue).1 with hAddr | hSame
          · exact absurd hAddr hNotAddr
          · exact absurd hSame hGroup

/-- What a proper line stores is what it says, if its value could be copied. -/
theorem assigned_own {m : LineMemory} (hCopy : m.copy = true) (l : ServerLine) :
    l.option.assigned ⟨m, l.option.name.toList, l.value.text⟩ = l.value.setting := by
  unfold ServerOption.assigned
  cases hValue : l.value with
  | number n =>
    obtain ⟨hAddr, hGroup, hLe, hPort⟩ := l.number_fit hValue
    simp only [OptionValue.text, OptionValue.setting, numericValue_toDigits hLe]
    cases hOption : l.option <;> try rfl
    · exact absurd hOption hAddr
    · have hSmall := hPort hOption
      simp only [ServerOption.stored, toUshort, Setting.number.injEq]
      omega
    · exact absurd hOption hGroup
  | quoted text =>
    obtain ⟨hOption, -, -⟩ := l.quoted_fit hValue
    rcases hOption with hOption | hOption <;> rw [hOption] <;>
      simp [ServerOption.stored, OptionValue.text, OptionValue.setting, strdup, hCopy]

section Taken

variable {m : SectionMemory} {ls : List ServerLine} (o : ServerOption) (old : Setting)

/-- What the section says of an option is said by the last line about it. -/
theorem said_eq (m : SectionMemory) (ls : List ServerLine) :
    said ls o old =
      (((ownLines m ls).filter fun x => x.2.option = o).getLast?.map fun x =>
        x.2.value.setting).getD old := by
  have hLines : (ownLines m ls).map Prod.snd = ls := by
    rw [ownLines, List.map_map]
    exact List.zipIdx_map_fst 0 ls
  unfold said
  conv => lhs; rw [← hLines]
  rw [List.filter_map, List.getLast?_map, Option.map_map]
  rfl

/-- Undisturbed lines are read as they were written. -/
theorem ownTexts_eq (h : Undisturbed m ls) :
    ownTexts m ls =
      (ownLines m ls).map fun x => ⟨x.1, x.2.option.name.toList, x.2.value.text⟩ := by
  unfold ownTexts
  rw [← List.flatMap_singleton' ((ownLines m ls).map _), List.flatMap_map]
  refine List.flatMap_congr fun x hx => ?_
  obtain ⟨-, hName, hValue, -⟩ := h.lines x hx
  simp [ServerLine.read, hName, hValue]

/-- What the section says is taken, but for the two options that are not tested for. -/
theorem taken_ownTexts (h : Undisturbed m ls) :
    taken (ownTexts m ls) o old =
      if o ≠ .srvAddr ∧ o ≠ .multicastPort then said ls o old else old := by
  unfold taken
  rw [ownTexts_eq h, List.filter_map, List.getLast?_map, Option.map_map, said_eq o old m ls]
  by_cases hTested : o ≠ .srvAddr ∧ o ≠ .multicastPort
  · have hSame : ((ownLines m ls).filter
        (o.tests ∘ fun x => ⟨x.1, x.2.option.name.toList, x.2.value.text⟩)) =
        (ownLines m ls).filter fun x => x.2.option = o := by
      refine List.filter_congr fun x _ => ?_
      rw [Bool.eq_iff_iff, Function.comp_apply, tests_own, decide_eq_true_eq]
      exact and_iff_left hTested
    rw [if_pos hTested, hSame]
    cases hLast : ((ownLines m ls).filter fun x => x.2.option = o).getLast? with
    | none => rfl
    | some x =>
      obtain ⟨hMem, hOption⟩ := List.mem_filter.mp (List.mem_of_getLast? hLast)
      obtain rfl : x.2.option = o := of_decide_eq_true hOption
      exact assigned_own (h.lines x hMem).2.2.2 x.2
  · have hNone : ((ownLines m ls).filter
        (o.tests ∘ fun x => ⟨x.1, x.2.option.name.toList, x.2.value.text⟩)) = [] := by
      rw [List.filter_eq_nil_iff]
      intro x _
      rw [Function.comp_apply, tests_own]
      exact fun hTests => hTested hTests.2
    rw [if_neg hTested, hNone]
    rfl

end Taken

/-- Nothing is read behind the section. -/
theorem linesBehind_eq_nil {m : SectionMemory} {ls : List ServerLine} (h : Undisturbed m ls)
    {fuel : Nat} (header : CStr) (hFuel : ls.length < fuel) :
    linesBehind m fuel header ls = [] ∧ endsBehind m fuel header ls = true := by
  obtain ⟨k, hk⟩ : ∃ k, fuel - ls.length = k + 1 := ⟨fuel - ls.length - 1, by omega⟩
  have hLength : (sectionBytes header (ls.map ServerLine.text)).length - 1 + 1 =
      (sectionBytes header (ls.map ServerLine.text)).length := by
    simp [sectionBytes]
    omega
  have hNone : strpbrk ['\n'] (cString (m.lines ls.length).behind) = none := by
    rw [strpbrk, List.findIdx?_eq_none_iff]
    intro c hc
    simpa using fun hEq : c = '\n' => h.behind (hEq ▸ hc)
  unfold linesBehind endsBehind
  rw [hk]
  simp only [linesFrom, endsFrom, hLength, List.drop_left, hNone]
  exact ⟨trivial, trivial⟩

/-- **Which sections take effect.** With memory for everything and nothing to read behind the
section, each variable holds what the last line with its option says if and only if, for
`srv_addr` and for `multicast_port`, that is what it has held before. In general the lines for
which there is no memory do not count, and those that are found behind the section do. -/
theorem server_options_iff (m : SectionMemory) (fuel : Nat) {header : CStr}
    (hHeader : IsLine header) (ls : List ServerLine) (hFuel : ls.length < fuel)
    (v : ServerVariables) :
    (Undisturbed m ls →
      (TakesEffect m fuel header ls v ↔
        ∀ o ∈ [ServerOption.srvAddr, .multicastPort], said ls o (v.get o) = v.get o)) ∧
    (TakesEffect m fuel header ls v ↔
      m.header = true ∧ endsBehind m fuel header ls = true ∧
      (∀ x ∈ ownLines m ls, x.1.line = true) ∧
      ∃ r, optionTexts parseLine (linesBehind m fuel header ls) (ownPointers m ls) = some r ∧
        ∀ o, taken (ownTexts m ls ++ r.1) o (v.get o) = said ls o (v.get o)) := by
  have hGeneral : TakesEffect m fuel header ls v ↔
      m.header = true ∧ endsBehind m fuel header ls = true ∧
      (∀ x ∈ ownLines m ls, x.1.line = true) ∧
      ∃ r, optionTexts parseLine (linesBehind m fuel header ls) (ownPointers m ls) = some r ∧
        ∀ o, taken (ownTexts m ls ++ r.1) o (v.get o) = said ls o (v.get o) := by
    unfold TakesEffect
    simp only [parseServerSection_own m hHeader ls hFuel.le v, ← foldl_setServerOption_get]
    constructor
    · intro h
      obtain ⟨v', ⟨hMemory, hEnds, hLines, r, hRead, rfl⟩, hSaid⟩ := h
      exact ⟨hMemory, hEnds, hLines, r, hRead, hSaid⟩
    · intro h
      obtain ⟨hMemory, hEnds, hLines, r, hRead, hSaid⟩ := h
      exact ⟨_, ⟨hMemory, hEnds, hLines, r, hRead, rfl⟩, hSaid⟩
  refine ⟨fun h => ?_, hGeneral⟩
  obtain ⟨hNone, hEnds⟩ := linesBehind_eq_nil h header hFuel
  rw [hGeneral, hNone]
  constructor
  · intro hTakes o ho
    obtain ⟨-, -, -, r, hRead, hSaid⟩ := hTakes
    obtain rfl := Option.some.inj hRead
    have hOne := hSaid o
    rw [List.append_nil, taken_ownTexts o _ h, if_neg] at hOne
    · exact hOne.symm
    · rintro ⟨hAddr, hPort⟩
      simp only [List.mem_cons, List.not_mem_nil, or_false] at ho
      rcases ho with rfl | rfl
      · exact hAddr rfl
      · exact hPort rfl
  · intro hOld
    refine ⟨h.header, hEnds, fun x hx => (h.lines x hx).1, _, rfl, fun o => ?_⟩
    rw [List.append_nil, taken_ownTexts o _ h]
    split
    · rfl
    · rename_i hUntested
      refine (hOld o ?_).symm
      by_contra hNot
      simp only [List.mem_cons, List.not_mem_nil, or_false, not_or] at hNot
      exact hUntested hNot

/-- `fork = 0` -/
def forkLine : ServerLine where
  option := .fork
  value := .number 0
  before := " ".toList
  after := " ".toList
  blankBefore := by simp [Blank]
  blankAfter := by simp [Blank]
  documented := by simp [ServerOption.Documented]

/-- `multicast_group = "224.0.0.5"` -/
def groupLine : ServerLine where
  option := .multicastGroup
  value := .quoted "224.0.0.5".toList
  before := " ".toList
  after := " ".toList
  blankBefore := by simp [Blank]
  blankAfter := by simp [Blank]
  documented := by
    show '"' ∉ "224.0.0.5".toList ∧ IsLine "224.0.0.5".toList
    decide +kernel

/-- `fork=1` -/
def forkLineAgain : ServerLine where
  option := .fork
  value := .number 1
  before := []
  after := []
  blankBefore := by simp [Blank]
  blankAfter := by simp [Blank]
  documented := by simp [ServerOption.Documented]

/-- `srv_addr = "10.0.0.1"` -/
def addressLine : ServerLine where
  option := .srvAddr
  value := .quoted "10.0.0.1".toList
  before := " ".toList
  after := " ".toList
  blankBefore := by simp [Blank]
  blankAfter := by simp [Blank]
  documented := by
    show '"' ∉ "10.0.0.1".toList ∧ IsLine "10.0.0.1".toList
    decide +kernel

/-- `multicast_port = 7000` -/
def portLine : ServerLine where
  option := .multicastPort
  value := .number 7000
  before := " ".toList
  after := " ".toList
  blankBefore := by simp [Blank]
  blankAfter := by simp [Blank]
  documented := by simp [ServerOption.Documented]

/-- `fork` is the last arm of the chain; a value that comes later wins, and no line disturbs
another. -/
theorem server_options_fork :
    TakesEffect (plenty []) 4 "[Server]".toList [forkLine, groupLine, forkLineAgain] .initial ∧
    parseServerSection (plenty []) 4 (sectionBytes "[Server]".toList
        ([forkLine, groupLine, forkLineAgain].map ServerLine.text)) .initial =
      some { ServerVariables.initial with gMulticastGroup := some "224.0.0.5".toList } := by
  refine ⟨((server_options_iff (plenty []) 4 (by decide +kernel)
    [forkLine, groupLine, forkLineAgain] (by decide) .initial).1 ⟨rfl, ?_, by decide⟩).mpr ?_,
    by decide +kernel⟩
  · simp [ownLines, plenty]
  · simp [said, forkLine, groupLine, forkLineAgain]

/-- The address and the port are read, reported as invalid options, and left as they were. -/
theorem server_options_untested :
    parseServerSection (plenty []) 3 (sectionBytes "[Server]".toList
      ([addressLine, portLine].map ServerLine.text)) .initial = some .initial ∧
    ¬ TakesEffect (plenty []) 3 "[Server]".toList [addressLine, portLine] .initial := by
  have hParse : parseServerSection (plenty []) 3 (sectionBytes "[Server]".toList
      ([addressLine, portLine].map ServerLine.text)) .initial = some .initial := by decide +kernel
  refine ⟨hParse, fun h => ?_⟩
  obtain ⟨v', hSome, hSaid⟩ := h
  rw [hParse] at hSome
  obtain rfl := Option.some.inj hSome
  exact absurd (hSaid .multicastPort) (by decide +kernel)

end LinkControl
