import Fuzzing.Settings

/-!
Command lines as a source of settings. A switch has its value behind it or behind an equals sign; a switch of one
character also at once, and one that takes no value can be followed by others. All arguments are told apart before
any of them counts. Every field has one or two switches, a section one that takes it as JSON text. Keywords change for
one reading how a command line is read.
-/
namespace Fuzzing.Settings.CommandLine

/-- Why a command line cannot be read. -/
inductive Misuse where
  /-- It is no list. -/
  | notAList (form : String)
  /-- An argument is no text. -/
  | notAText (form : String)
  /-- The start of all names is none of a name. -/
  | badStart (text : String)
  /-- Switches that no sign opens. -/
  | unsigned
  /-- Spellings of a switch that others have already. -/
  | conflicting (title : String) (spellings : List String)
  | valueMissing (title : String)
  | valueGiven (title value : String)
  | leftOver (arguments : List String)
  /-- What is wrong is shown, or what was asked for, and the program ends. -/
  | ended (status : Nat)
  | failed (why : Failure Float)

namespace Misuse

def label : Misuse → String
  | notAText _ => "TypeError"
  | unsigned => "ValueError"
  | conflicting .. => "ArgumentError"
  | ended _ => "SystemExit"
  | failed why => why.label
  | _ => "SettingsError"

/-- What is wrong with an argument of a switch. -/
private def onSwitch (title problem : String) : String := "argument " ++ title ++ ": " ++ problem

def message : Misuse → String
  | notAText form => "expected string or bytes-like object, got '" ++ form ++ "'"
  | notAList form => "cli_parse_args must be a list or tuple of strings, received <class '" ++ form ++ "'>"
  | badStart text => "CLI settings source prefix is invalid: " ++ text
  | unsigned => "dest supplied twice for positional argument"
  | conflicting title spellings =>
    onSwitch title ("conflicting option string" ++ (if spellings.length = 1 then "" else "s") ++ ": " ++
      String.intercalate ", " spellings)
  | valueMissing title => "error parsing CLI: " ++ onSwitch title "expected one argument"
  | valueGiven title value =>
    "error parsing CLI: " ++ onSwitch title ("ignored explicit argument " ++ Text.quoted value)
  | leftOver arguments => "error parsing CLI: unrecognized arguments: " ++ String.intercalate " " arguments
  | ended status => toString status
  | failed why => why.message

/-- The same misuse where arguments that do not fit end the program. -/
private def ending : Misuse → Misuse
  | valueMissing _ | valueGiven .. | leftOver _ => ended 2
  | why => why

end Misuse

/-- The switches that truth values have. -/
inductive Flagging where
  /-- One that takes the value, as all others do. -/
  | never
  /-- One for each value, and none of them takes anything. -/
  | paired
  /-- One for the value that does not stand. -/
  | toggled

/-- How a command line is read. -/
structure Manner where
  /-- The signs that can open a switch. -/
  signs : List Char
  /-- What the names of all variables begin with. -/
  start : String
  /-- Whether words are joined by hyphens. -/
  hyphens : Bool
  flagging : Flagging
  /-- Whether a section can be given as JSON text. -/
  takesTexts : Bool
  /-- Whether arguments may be left over. -/
  lenient : Bool
  /-- Whether arguments that do not fit end the program. -/
  isFinal : Bool
  /-- Whether a switch is also known in capital letters. -/
  folds : Bool
  /-- The text that stands for a missing value. -/
  missing : Option String
  /-- Further names of variables. -/
  shortcuts : Document Float

namespace Manner

private def isTrue (d : Document Float) : Bool := d.isTruthy (· == 0.0)

/-- The signs that open switches. A name of several characters is opened by all of them twice. -/
private def signsOf : Document Float → Except Misuse (List Char)
  | .text s => if s = "" then .error (.failed (.outOfRange .letters)) else .ok s.toList
  | .list [] => .error (.failed (.outOfRange .growing))
  | .list _ => .error .unsigned
  | d => .error (.failed (.notSearched d.form))

/-- Refuses signs that cannot be doubled. -/
private def ensureDoubled : Document Float → Except Misuse Unit
  | .record fields => .error (.failed (.noOperation "*" (Document.record fields : Document Float).form "int"))
  | _ => .ok ()

/-- Whether the names of variables can begin with words with points between them. -/
private def canStart (text : String) : Bool :=
  let cs := text.toList
  cs.head? ≠ some '.' && cs.getLast? ≠ some '.' && Text.isWord (cs.filter (· ≠ '.'))

/-- What the names of variables begin with. An empty value of a form with parts is refused later. -/
private def startOf : Document Float → Except Misuse String
  | .text s => if s = "" then .ok "" else if canStart s then .ok (s ++ ".") else .error (.badStart s)
  | d =>
    if isTrue d then .error (.failed (.noAttribute d.form "startswith"))
    else
      match d.length? with
      | .error why => .error (.failed why)
      | .ok _ => .ok ""

/-- The switches that truth values have. -/
private def flaggingOf (d : Document Float) : Flagging :=
  if d matches .text "toggle" then .toggled else if isTrue d then .paired else .never

private def complaint {α : Type} (path : List String) : Except Fault α → List Complaint
  | .ok _ => []
  | .error fault => [⟨path,fault⟩]

/-- What is wrong with how words are joined: a truth value is needed, or one of two words. -/
private def joiningComplaints (d : Document Float) : List Complaint :=
  match d, asTruth d with
  | .text "all", _ | .text "no_enums", _ | _, .ok _ => []
  | _, .error fault => [⟨["kebab_case","bool"],fault⟩,⟨["kebab_case","literal['all','no_enums']"],.notAmong⟩]

/-- What is wrong with keywords, each for itself. -/
def complaints (given : String → Option (Document Float)) : List Complaint :=
  let onKeyword (name : String) (test : Document Float → List Complaint) : List Complaint :=
    (given name).elim [] test
  onKeyword "_cli_prefix" (fun d => complaint ["arg_prefix"] (asText d)) ++
    onKeyword "_case_sensitive" (fun d => complaint ["case_sensitive"] (asTruth d)) ++
    onKeyword "_cli_hide_none_type" (fun d => complaint ["hide_none_type"] (asTruth d)) ++
    onKeyword "_cli_kebab_case" joiningComplaints

/-- The text that stands for a missing value, by the keyword for variables or that for a command line. -/
private def missingOf (given : String → Option (Document Float)) : Option String :=
  let standard := if (given "_cli_avoid_json").any (· matches .bool true) then "None" else "null"
  let chosen := ["_env_parse_none_str","_cli_parse_none_str"].filterMap fun name => (given name).filter isTrue
  match chosen.headD (.text standard) with
  | .text s => some s
  | _ => none

def ofKeywords (given : String → Option (Document Float)) : Except Misuse Manner := do
  let truth (name : String) : Bool := (given name).any isTrue
  let sign := (given "_cli_flag_prefix_char").getD (.text "-")
  ensureDoubled sign
  let start ← startOf ((given "_cli_prefix").getD (.text ""))
  let signs ← signsOf sign
  pure
    { signs, start, hyphens := (given "_cli_kebab_case").any (!·.isZero)
      flagging := flaggingOf ((given "_cli_implicit_flags").getD .null), takesTexts := !truth "_cli_avoid_json"
      lenient := truth "_cli_ignore_unknown_args", isFinal := ((given "_cli_exit_on_error").map isTrue).getD true
      folds := ((given "_case_sensitive").getD (.bool false)) matches .bool false
      missing := missingOf given, shortcuts := (given "_cli_shortcuts").getD .null }

/-- The signs that open a name of several characters. -/
private def opening (m : Manner) : String := String.ofList (m.signs ++ m.signs)

private def joined (m : Manner) (name : String) : String :=
  if m.hyphens then String.ofList (name.toList.map fun c => if c = '_' then '-' else c) else name

/-- The spelling of a switch, with something between the signs and the name. One sign is enough for a name of one
    character, with nothing in between. -/
private def spelled (m : Manner) (between name : String) : String :=
  if Text.length name = 1 then String.ofList (m.signs.take 1) ++ name else m.opening ++ between ++ name

end Manner

/-- What a switch takes. -/
inductive Intake where
  | one
  /-- One value, or none and another one stands in for it. -/
  | oneOr (standing : String)
  /-- None. The switch says that something holds, or by its spelling that it does not. -/
  | paired
  /-- None. The switch says it all. -/
  | always (value : Bool)
  /-- None. The switch asks which others there are. -/
  | inquiry

/-- A switch and the variable that it sets. -/
structure Switch where
  spellings : List String
  target : String
  intake : Intake

/-- What complaints call a switch. -/
private def Switch.title (s : Switch) : String := String.intercalate "/" s.spellings

/-- Opens the spelling that says no. -/
private def negation : String := "--no-"

/-- The value that a switch sets by itself, where it takes none. -/
private def Switch.own? (s : Switch) (spelling : String) : Option Bool :=
  match s.intake with
  | .paired => some (!negation.toList.isPrefixOf spelling.toList)
  | .always value => some value
  | .inquiry => some true
  | _ => none

/-- Switches, and the names that are taken. -/
structure Board where
  switches : List Switch
  taken : List String

namespace Board

private def find? (b : Board) (spelling : String) : Option Switch := b.switches.find? (·.spellings.contains spelling)

/-- Adds a switch. No other one may have one of its spellings. -/
private def put? (b : Board) (s : Switch) : Except Misuse Board :=
  match s.spellings.filter fun spelling => (b.find? spelling).isSome with
  | [] => .ok { b with switches := b.switches ++ [s] }
  | known => .error (.conflicting s.title known)

/-- Takes names. -/
private def taking (b : Board) (names : List String) : Board := { b with taken := b.taken ++ names }

end Board

namespace Manner

/-- The further names that a value is. -/
private def aliasesOf : Document Float → Except (Failure Float) (List String)
  | .text s => .ok [s]
  | d => do
    (← d.parts?).mapM fun part => do
      let _ ← part.length?
      pure part.plain

/-- The names of a variable that are not taken, its own one first. A further name can have further names. -/
private def namesOf? (m : Manner) (taken : List String) (path : String) : Except Misuse (List String) :=
  let own := [m.joined (m.start ++ path)].filter (!taken.contains ·)
  match m.shortcuts with
  | .record entries =>
    entries.foldlM
      (fun names e => do
        if names.contains e.1 then
          let aliases ← (aliasesOf e.2).mapError .failed
          pure (names ++ aliases.filter (!taken.contains ·))
        else pure names)
      own
  | d => if isTrue d then .error (.failed (.noAttribute d.form "items")) else .ok own

/-- The spellings of a pair of switches: where a spelling has two signs, another one says no. -/
private def pairSpellings (m : Manner) (name : String) : List String :=
  let spelling := m.spelled "" name
  match spelling.toList with
  | '-' :: '-' :: rest => [spelling,negation ++ String.ofList rest]
  | _ => [spelling]

/-- The switch of a field, by its names and its standing value. -/
private def switchOf (m : Manner) (names : List String) (target : String) (standing : Document Float) : Switch :=
  match standing, m.flagging with
  | .bool _, .paired => { spellings := names.flatMap m.pairSpellings, target, intake := .paired }
  | .bool true, .toggled => { spellings := names.map (m.spelled "no-"), target, intake := .always false }
  | .bool false, .toggled => { spellings := names.map (m.spelled ""), target, intake := .always true }
  | _, _ => { spellings := names.map (m.spelled ""), target, intake := .one }

/-- Adds the switch of a field, if a name is left for it. -/
private def putField? (m : Manner) (group : String) (b : Board) (field : String × Document Float) : Except Misuse Board := do
  let path := group ++ field.1
  let names ← m.namesOf? b.taken path
  if names.isEmpty || b.taken.contains (m.start ++ path) then pure b
  else
    let next ← b.put? (m.switchOf names (m.start ++ path) field.2)
    pure (next.taking names)

/-- Adds the switches of a section and its fields, if a name is left for it. -/
private def putSection? (m : Manner) (b : Board) (name : String) (fields : Fields Float) : Except Misuse Board := do
  let names ← m.namesOf? b.taken name
  if names.isEmpty || b.taken.contains (m.start ++ name) then pure b
  else
    let whole : Switch :=
      { spellings := names.map (m.opening ++ ·), target := m.start ++ name, intake := .oneOr "\x7b\x7d" }
    let next ← if m.takesTexts then (b.taking (names.take 1)).put? whole else pure b
    fields.foldlM (m.putField? (name ++ ".")) next

/-- The switch that every command line has. -/
private def inquiry (m : Manner) : Switch :=
  let sign := if m.signs.contains '-' then ['-'] else m.signs.take 1
  { spellings := [String.ofList sign ++ "h",String.ofList (sign ++ sign) ++ "help"], target := "help"
    intake := .inquiry }

/-- The switches for standing values, sections among them. -/
def board? (m : Manner) (standing : Fields Float) : Except Misuse Board :=
  standing.foldlM
    (fun b field =>
      match field.2 with
      | .record fields => m.putSection? b field.1 fields
      | _ => m.putField? "" b field)
    ⟨[m.inquiry],[]⟩

end Manner

/-- A sign that ends the word that names a switch. -/
private def endsWord (c : Char) : Bool := Text.isBlank c || (28 ≤ c.toNat && c.toNat ≤ 31) || c = '='

/-- An argument with the name of a known switch in small letters. Only names of several characters are known by
    other letters; of what follows one, only the first line is kept. -/
private def lowered (m : Manner) (b : Board) (argument : String) : String :=
  let cs := argument.toList
  let word := cs.takeWhile (!endsWord ·)
  if m.opening.toList.isPrefixOf word && m.opening.length < word.length then
    let name := String.ofList word
    let known := (b.find? (Text.smalls name)).isSome
    (if known then Text.smalls name else name) ++ String.ofList ((cs.drop word.length).takeWhile (· ≠ '\n'))
  else argument

/-- A digit of any script. -/
private def isDigit (c : Char) : Bool := (Text.plainDigit c).isDigit

/-- Characters without the end of a line at their own end. -/
private def withoutLineEnd (cs : List Char) : List Char := if cs.getLast? = some '\n' then cs.dropLast else cs

/-- Whether characters are a number below zero. -/
private def isNegativeNumber (cs : List Char) : Bool :=
  match withoutLineEnd cs with
  | '-' :: digits =>
    let behind := digits.dropWhile isDigit
    (!digits.isEmpty && behind.isEmpty) ||
      match behind with
      | '.' :: rest => !rest.isEmpty && rest.all isDigit
      | _ => false
  | _ => false

/-- A value that is given together with a switch. -/
structure Attached where
  /-- Whether an equals sign is in between. -/
  isSeparate : Bool
  value : List Char

/-- What an argument is taken for. -/
inductive Slot where
  | value (d : Document Float)
  /-- The end of all switches. -/
  | barrier
  | switch (s : Switch) (spelling : String) (attached : Option Attached)
  /-- A switch that is not known. -/
  | stranger (argument : String)

/-- The switch that an argument names, with what is attached to it. -/
private def switchIn? (m : Manner) (b : Board) (argument : String) : Option Slot :=
  let cs := argument.toList
  let name := cs.takeWhile (· ≠ '=')
  let separate : Option Slot :=
    if name.length < cs.length then
      (b.find? (String.ofList name)).map fun s =>
        .switch s (String.ofList name) (some ⟨true,cs.drop (name.length + 1)⟩)
    else none
  let atOnce : Option Slot :=
    match cs with
    | sign :: c :: rest =>
      if m.signs.contains c then none
      else
        let spelling := String.ofList [sign,c]
        (b.find? spelling).map fun s => .switch s spelling (some ⟨false,rest⟩)
    | _ => none
  match b.find? argument with
  | some s => some (.switch s argument none)
  | none => if cs.length = 1 then none else separate <|> atOnce

/-- Whether an argument that names no switch is a value all the same. A number below zero is one, unless there are
    switches that look like that. -/
private def isValue (b : Board) (argument : String) : Bool :=
  let hasNumbers := b.switches.any (·.spellings.any fun spelling => isNegativeNumber spelling.toList)
  argument.length = 1 || (isNegativeNumber argument.toList && !hasNumbers) || argument.contains ' '

/-- What a text is taken for. -/
private def slotOfText (m : Manner) (b : Board) (argument : String) : Slot :=
  if argument.toList.head?.any m.signs.contains then
    (switchIn? m b argument).getD (if isValue b argument then .value (.text argument) else .stranger argument)
  else .value (.text argument)

/-- Whether characters are one of the signs, none or all of them. -/
private def isAmong (signs cs : List Char) : Bool := cs = signs || (cs.length ≤ 1 && cs.all signs.contains)

/-- What an argument of any form is taken for. Its first part is looked for among the signs. -/
private def slotOf? (m : Manner) (b : Board) : Document Float → Except (Failure Float) Slot
  | .text s => .ok (slotOfText m b s)
  | d =>
    if !Manner.isTrue d then .ok (.value d)
    else do
      match ← d.part? 0 with
      | .text s => if isAmong m.signs s.toList then .error (.notHashable d.form) else .ok (.value d)
      | part => .error (.notSearchable part.form)

/-- What arguments are taken for. Behind the end of all switches, everything is a value. -/
private def slots? (m : Manner) (b : Board) : List (Document Float) → Except (Failure Float) (List Slot)
  | [] => .ok []
  | .text "--" :: rest => .ok (.barrier :: rest.map .value)
  | d :: rest => do
    let slot ← slotOf? m b d
    pure (slot :: (← slots? m b rest))

/-- A text in a list, written as JSON: numbers and words with a meaning as they are, others in quotes. -/
private def memberText (m : Manner) (text : String) : String :=
  let cs := Text.trimmed text.toList
  let word := String.ofList cs
  if (Decimal.written? cs).isSome || ["true","false","null"].contains word || cs.head? = some '"' then word
  else if m.missing = some word then "null"
  else "\"" ++ word ++ "\""

/-- The texts in front of the first part of another form. -/
private def leadingTexts : List (Document Float) → List String
  | .text s :: rest => s :: leadingTexts rest
  | _ => []

/-- A value as a variable has it: a list becomes its JSON text. -/
private def asVariable (m : Manner) : Document Float → Document Float
  | .list items => .text ("[" ++ String.intercalate "," ((leadingTexts items).map (memberText m)) ++ "]")
  | d => d

/-- Values of variables, and arguments that are left over. -/
structure Parsed where
  values : Fields Float
  left : List (Document Float)
  /-- Whether the switches were asked for. -/
  asked : Bool

namespace Parsed

def empty : Parsed := ⟨[],[],false⟩

/-- What a switch with a value says. -/
private def setting (p : Parsed) (s : Switch) (d : Document Float) : Parsed :=
  match s.intake with
  | .inquiry => { p with asked := true }
  | _ => { p with values := Table.put s.target d p.values }

/-- Leaves an argument behind. -/
private def leaving (p : Parsed) (d : Document Float) : Parsed := { p with left := p.left ++ [d] }

/-- Refuses what is left over, which has to be texts to be told of. -/
private def ensureNothingLeft (p : Parsed) : Except Misuse Unit := do
  let texts ← p.left.zipIdx.mapM fun e =>
    match e.1 with
    | .text s => .ok s
    | d => .error (.failed (.notJoined e.2 d.form))
  if texts.isEmpty then pure () else .error (.leftOver texts)

end Parsed

/-- A switch without a value so far, or nothing more to be done about an argument. -/
private abbrev Pending := Option (Switch × String)

/-- Takes what is attached to a switch: its value, or where it takes none, further switches of one character. -/
private def unpack? (m : Manner) (b : Board) (p : Parsed) (s : Switch) (spelling : String) (isSeparate : Bool) :
    List Char → Except Misuse (Parsed × Pending)
  | [] =>
    match s.own? spelling with
    | none => .ok (p.setting s (.text ""),none)
    | some _ => .error (.valueGiven s.title "")
  | c :: rest =>
    match s.own? spelling with
    | none => .ok (p.setting s (.text (String.ofList (c :: rest))),none)
    | some value =>
      let isLong := (spelling.toList[1]?).any m.signs.contains
      if isLong || isSeparate || m.signs.contains c then .error (.valueGiven s.title (String.ofList (c :: rest)))
      else
        let sign := spelling.toList.take 1
        let next := String.ofList (sign ++ [c])
        let p := p.setting s (.bool value)
        match b.find? next, rest with
        | none, _ => .ok (p.leaving (.text (String.ofList (sign ++ c :: rest))),none)
        | some s, [] => .ok (p,some (s,next))
        | some s, '=' :: rest => unpack? m b p s next true rest
        | some s, rest => unpack? m b p s next false rest
termination_by cs => cs.length

/-- Takes what is attached to a switch, if anything is. -/
private def opened? (m : Manner) (b : Board) (p : Parsed) (s : Switch) (spelling : String) :
    Option Attached → Except Misuse (Parsed × Pending)
  | none => .ok (p,some (s,spelling))
  | some a => unpack? m b p s spelling a.isSeparate a.value

/-- Reads what arguments are taken for in order, behind what was read before, until the switches are asked for. -/
private def run? (m : Manner) (b : Board) (p : Parsed) (slots : List Slot) : Except Misuse Parsed :=
  if p.asked then .error (.ended 0)
  else
    match slots with
    | [] => .ok p
    | .value d :: rest => run? m b (p.leaving d) rest
    | .stranger argument :: rest => run? m b (p.leaving (.text argument)) rest
    | .barrier :: rest => run? m b (p.leaving (.text "--")) rest
    | .switch s spelling attached :: rest =>
      match opened? m b p s spelling attached with
      | .error why => .error why
      | .ok (p,none) => run? m b p rest
      | .ok (p,some (s,spelling)) =>
        match s.own? spelling with
        | some value => run? m b (p.setting s (.bool value)) rest
        | none =>
          match s.intake, rest with
          | _, .value d :: more => run? m b (p.setting s (asVariable m d)) more
          | .oneOr standing, [] => run? m b (p.setting s (.text standing)) []
          | .oneOr standing, slot :: more => run? m b (p.setting s (.text standing)) (slot :: more)
          | _, _ => .error (.valueMissing s.title)
termination_by slots.length

/-- The arguments that the parts of a value are. -/
private def arguments? (d : Document Float) : Except Misuse (List (Document Float)) :=
  match d with
  | .list items => .ok items
  | .bool _ => .ok []
  | d => if d.isZero then .ok [] else .error (.notAList d.form)

/-- An argument as a text. An empty one of any form is an empty text. -/
private def textOf? : Document Float → Except Misuse String
  | .text s => .ok s
  | d => if Manner.isTrue d then .error (.notAText d.form) else .ok ""

/-- What a command line says about variables. -/
def variables? (m : Manner) (b : Board) (line : Document Float) : Except Misuse (Fields Float) := do
  let given ← arguments? line
  let arguments ←
    if m.folds then pure ((← given.mapM textOf?).map fun s => .text (lowered m b s)) else pure given
  let slots ← (slots? m b arguments).mapError .failed
  let parsed : Except Misuse Parsed := do
    let parsed ← run? m b .empty slots
    if m.lenient then pure () else parsed.ensureNothingLeft
    pure parsed
  match parsed with
  | .ok p => pure p.values
  | .error why => .error (if m.isFinal then why.ending else why)

end Fuzzing.Settings.CommandLine
