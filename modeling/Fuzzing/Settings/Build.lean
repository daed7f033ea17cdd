import Fuzzing.Settings.CommandLine
import Fuzzing.Settings.Environment

/-!
Settings from a command line, keywords and the environment. A command line comes before keywords, keywords before the
environment, and the environment before the standard values. Reading goes on after a refused field, so that all
complaints about a section are found at once; unknown fields of a section are refused, unknown
fields beside the sections ignored.
-/
namespace Fuzzing.Settings

/-- Why settings cannot be built. -/
inductive Rejection where
  /-- The JSON text of a section cannot be read. -/
  | unreadable (onCommandLine : Bool) (name : String) (why : Document.Unreadable)
  /-- The variable of a field has no name. -/
  | unnamed (name : String)
  /-- The command line cannot be read. -/
  | garbled (why : CommandLine.Misuse)
  /-- How variables are to be read makes no sense. -/
  | misused (why : Failure Float)
  | invalid (complaints : List Complaint)

/-- The outcome of reading. A standard value that cannot be built stops the reading. -/
inductive Reading (α : Type) where
  | accepted (x : α)
  | refused (complaints : List Complaint)
  | stopped (why : Rejection)

namespace Reading

variable {α β : Type}

/-- Applies a function that was read to a value that was read, and collects the complaints. -/
def apply (f : Reading (α → β)) (x : Reading α) : Reading β :=
  match f, x with
  | stopped why, _ => stopped why
  | _, stopped why => stopped why
  | refused cs, refused ds => refused (cs ++ ds)
  | refused cs, accepted _ => refused cs
  | accepted _, refused cs => refused cs
  | accepted f, accepted x => accepted (f x)

instance : Applicative Reading where
  pure := accepted
  seq f x := apply f (x ())

/-- Adds complaints. -/
def objecting (more : List Complaint) (r : Reading α) : Reading α :=
  match more, r with
  | [], r => r
  | more, accepted _ => refused more
  | more, refused cs => refused (cs ++ more)
  | _, stopped why => stopped why

/-- Refuses a value that was read but is not consistent. -/
def ensuring (consistent : α → Bool) (r : Reading α) : Reading α :=
  match r with
  | accepted x => if consistent x then accepted x else refused [⟨[],.inconsistent⟩]
  | r => r

/-- The same outcome as a part of a larger record. -/
def inside (name : String) (r : Reading α) : Reading α :=
  match r with
  | refused cs => refused (cs.map fun c => { c with path := name :: c.path })
  | r => r

/-- The same outcome where a complaint stops everything. -/
def orStop (r : Reading α) : Reading α :=
  match r with
  | refused cs => stopped (.invalid cs)
  | r => r

/-- The value read, or why there is none. -/
def toExcept (r : Reading α) : Except Rejection α :=
  match r with
  | accepted x => .ok x
  | refused cs => .error (.invalid cs)
  | stopped why => .error why

end Reading

/-- A coercion followed by a test of bounds. -/
def bounded {α : Type} (coerce : Document Float → Except Fault α) (test : α → Except Fault α)
    (d : Document Float) : Except Fault α :=
  match coerce d with
  | .ok x => test x
  | .error e => .error e

/-- Reads a field, with a standard value where it is not given. -/
def field {α : Type} (given : Fields Float) (name : String) (coerce : Document Float → Except Fault α)
    (standard : α) : Reading α :=
  match Table.get? name given with
  | none => .accepted standard
  | some d =>
    match coerce d with
    | .ok x => .accepted x
    | .error fault => .refused [⟨[name],fault⟩]

/-- A share between zero and one. -/
def asShare : Document Float → Except Fault Float := bounded asNumber (numberWithin 0.0 1.0)

def asAtLeast (least : Int) : Document Float → Except Fault Int := bounded asInteger (integerWithin least none)

def readSelection (given : Fields Float) : Reading (SelectionPolicy Float) :=
  let standard : SelectionPolicy Float := .standard
  SelectionPolicy.mk <$> field given "min_executions_for_stats" (asAtLeast 1) standard.threshold
    <*> field given "coverage_weight" asShare standard.coverageWeight
    <*> field given "crash_weight" asShare standard.crashWeight
    <*> field given "speed_weight" asShare standard.speedWeight
    <*> field given "min_score" (bounded asNumber (numberAbove 0.0 1.0)) standard.floor

def readMutation (given : Fields Float) : Reading MutationLimits :=
  let standard := MutationLimits.standard
  MutationLimits.mk
    <$> field given "max_mutations" (bounded asInteger (integerWithin 1 (some 100))) standard.maxMutations
    <*> field given "max_insert_growth" (asAtLeast 1) standard.maxInsertGrowth

def readCampaign (given : Fields Float) : Reading (CampaignPolicy Float) :=
  let standard : CampaignPolicy Float := .standard
  CampaignPolicy.mk <$> field given "iterations" (asAtLeast 1) standard.iterations
    <*> field given "seed" (asAtLeast 0) standard.seed
    <*> field given "corpus_selection_probability" asShare standard.corpusProbability
    <*> field given "timeout_ms" (asAtLeast 1) standard.timeout
    <*> field given "report_interval" (asAtLeast 1) standard.reportInterval
    <*> field given "max_input_size" (asAtLeast 2) standard.maxInputSize
    <*> field given "guided" asTruth standard.guided

private def readLogging (given : Fields Float) : Reading LoggingPolicy :=
  let standard := LoggingPolicy.standard
  LoggingPolicy.mk <$> field given "log_level" asLevel standard.level
    <*> field given "log_format" asText standard.format

namespace Rejection

/-- The name of the failure to read the JSON text of a section. -/
private def unreadableLabel : Document.Unreadable → String
  | .malformed => "SettingsError"
  | .tooManyLists | .tooManyRecords => "RecursionError"

private def sourceText (onCommandLine : Bool) : String := if onCommandLine then "CliSettingsSource" else "EnvSettingsSource"

/-- What is wrong with a section that cannot be read. -/
private def unreadableText (onCommandLine : Bool) (name : String) : Document.Unreadable → String
  | .malformed =>
    "error parsing value for field \"" ++ name ++ "\" from source \"" ++ sourceText onCommandLine ++ "\""
  | .tooManyLists => "maximum recursion depth exceeded while decoding a JSON array from a unicode string"
  | .tooManyRecords => "maximum recursion depth exceeded while decoding a JSON object from a unicode string"

/-- A refused field in reports: where it is, and why it is refused. -/
private def complaintItem (c : Complaint) : Document Float :=
  .list [.text (String.intercalate "." c.path),.text c.fault.text]

/-- Whether a section that is rejected counts as one with a wrong value. -/
def isComplaint : Rejection → Bool
  | unreadable _ _ why => unreadableLabel why == "SettingsError"
  | unnamed _ => true
  | garbled why => why.label == "SettingsError" || why.label == "ValueError"
  | misused why => why.label == "ValueError"
  | invalid _ => false

def fields : Rejection → Fields Float
  | unreadable onCommandLine name why =>
    [("error",.text (unreadableLabel why)),("message",.text (unreadableText onCommandLine name why))]
  | unnamed name =>
    [("error",.text "SettingsError"),
     ("message",.text ("error getting value for field \"" ++ name ++ "\" from source \"" ++ sourceText false ++ "\""))]
  | garbled why => [("error",.text why.label),("message",.text why.message)]
  | misused why => why.fields
  | invalid complaints => [("error",.text "ValidationError"),("errors",.list (complaints.map complaintItem))]

end Rejection

/-- Where values come from besides keywords. -/
structure Sources where
  /-- How the variables of the environment are read. -/
  convention : Convention
  /-- How the variables of a command line are read. -/
  spoken : Convention
  /-- What a command line says. -/
  commandLine : Environment

/-- What takes the place of all sources: nothing at all, or no source that could be asked. -/
private def replaced? (d : Document Float) : Except (Failure Float) Unit :=
  match d.parts? with
  | .error _ => .error (.notDivisible d.form)
  | .ok [sources,_] =>
    if !sources.isTruthy (· == 0.0) then .ok ()
    else
      match sources.parts? with
      | .error e => .error e
      | .ok parts => .error (.notCallable (parts.headD .null).form)
  | .ok parts => .error (.wrongParts 2 parts.length)

/-- The variables of a command line, by the convention that its manner is. A variable beside the sections that is
    given as missing, and not by a text, is not given. -/
private def ofCommandLine (standing : Fields Float) (exact : Bool) (given : String → Option (Document Float))
    (line : Document Float) : Except Rejection (Convention × Environment) := do
  let manner ← (CommandLine.Manner.ofKeywords given).mapError .garbled
  let complaints := CommandLine.Manner.complaints given
  if !complaints.isEmpty then .error (.invalid complaints) else pure ()
  let board ← (manner.board? standing).mapError .garbled
  let values ← (CommandLine.variables? manner board line).mapError .garbled
  let isAbsent (e : String × Document Float) : Bool :=
    e.2 matches .null && standing.any fun field => manner.start ++ field.1 == e.1
  pure
    ({ Convention.startingWith manner.start with exact, delimiter := ['.'], missing := manner.missing },
     values.filter fun e => !isAbsent e)

/-- The sources that keywords leave, if they leave any. The standing values tell what can be set. -/
def sourcesOf (convention : Convention) (standing keywords : Fields Float) : Except Rejection (Option Sources) := do
  let given := Convention.given? keywords
  (Convention.ensureNames keywords).mapError .misused
  if let some d := given "_build_sources" then
    (replaced? d).mapError .misused
    pure none
  else
    let convention ← (convention.changedBy keywords).mapError .misused
    match given "_cli_parse_args" with
    | none => pure (some { convention, spoken := .startingWith "", commandLine := [] })
    | some line => do
      let (spoken,commandLine) ← ofCommandLine standing convention.exact given line
      pure (some { convention, spoken, commandLine })

/-- What fails once all variables are read. -/
def Sources.settle (s : Sources) : Except Rejection Unit :=
  match s.convention.trailing with
  | some why => .error (.misused why)
  | none => .ok ()

private def namesOf (fields : Fields Float) : List String := fields.map (·.1)

/-- A section: where it is found, its fields, and how it is read. -/
structure Chapter (α : Type) where
  /-- The name among the settings. -/
  name : String
  /-- How the variables of its fields are read where it stands alone. -/
  convention : Convention
  /-- Its fields with their standing values. -/
  standing : Fields Float
  read : Fields Float → Reading α
  /-- What has to hold of all fields together. -/
  consistent : α → Bool

namespace Chapter

/-- How mutators are selected. -/
def selection : Chapter (SelectionPolicy Float) :=
  { name := "selection", convention := .startingWith "IO_FUZZER_SELECTION_"
    standing := SelectionPolicy.standard.fields, read := readSelection
    consistent := fun _ => true }

/-- How far mutations may go. -/
def mutation : Chapter MutationLimits :=
  { name := "mutation", convention := .startingWith "IO_FUZZER_MUTATION_"
    standing := MutationLimits.standard.fields, read := readMutation
    consistent := fun _ => true }

/-- How a campaign runs. -/
def campaign : Chapter (CampaignPolicy Float) :=
  { name := "loop", convention := .startingWith "IO_FUZZER_LOOP_"
    standing := CampaignPolicy.standard.fields, read := readCampaign
    consistent := fun _ => true }

/-- How events are logged: as records or for people. -/
def logging : Chapter LoggingPolicy :=
  { name := "logging", convention := .startingWith "IO_FUZZER_LOGGING_"
    standing := LoggingPolicy.standard.fields, read := readLogging
    consistent := fun p => p.format == "json" || p.format == "console" }

variable {α : Type}

def fieldNames (c : Chapter α) : List String := namesOf c.standing

/-- The fields that variables give to a section that stands alone. -/
def ambient (c : Chapter α) (convention : Convention) (env : Environment) : Fields Float :=
  c.fieldNames.filterMap fun name => (Environment.get? convention env name).map fun value => (name,value)

/-- Builds a section from keywords, and what comes before and behind them. A name with half a character is not
    looked at together with anything else. -/
def assemble (c : Chapter α) (ambient keywords foremost : Fields Float) : Reading α :=
  let given := Environment.firstSpelled c.fieldNames keywords
  let extras := (given.filter fun e => !c.fieldNames.contains e.1).map fun e => ⟨[e.1],.unknownField⟩
  if given.all fun e => Text.isWhole e.1 then
    ((c.read (Table.putAll (Table.putAll ambient given) foremost)).objecting extras).ensuring c.consistent
  else .refused [⟨[],.brokenText⟩]

/-- Builds a section from keywords, a command line among them, and the environment. -/
def build (c : Chapter α) (env : Environment) (keywords : Fields Float) : Reading α :=
  match sourcesOf c.convention c.standing keywords with
  | .error (.invalid complaints) => .refused complaints
  | .error why => .stopped why
  | .ok none => c.assemble [] [] []
  | .ok (some s) =>
    if s.convention.start.isNone then .stopped (.unnamed (c.fieldNames.headD ""))
    else
      match s.settle with
      | .error why => .stopped why
      | .ok () =>
        c.assemble (c.ambient s.convention env) (Convention.otherFields keywords) (c.ambient s.spoken s.commandLine)

/-- Builds a section of the settings. One that is not given stands alone. -/
def buildWithin (c : Chapter α) (env : Environment) (given : Fields Float) : Reading α :=
  match Table.get? c.name given with
  | none => (c.build env []).orStop
  | some (.record fields) =>
    match c.build env fields with
    | .stopped why => if why.isComplaint then .refused [⟨[c.name],.inconsistent⟩] else .stopped why
    | r => r.inside c.name
  | some _ => .refused [⟨[c.name],.notASection⟩]

end Chapter

/-- How the variables of all settings are read. -/
def convention : Convention :=
  { Convention.startingWith "IO_FUZZER_" with delimiter := ['_','_'], findsFiles := true }

private def sectionOf {α : Type} (onCommandLine : Bool) (c : Chapter α) (convention : Convention) (env : Environment) :
    Except Rejection (Fields Float) :=
  match env.sectionOf convention c.name c.fieldNames with
  | .error (.text why) => .error (.unreadable onCommandLine c.name why)
  | .error (.failed why) => .error (.misused why)
  | .ok none => .ok []
  | .ok (some d) => .ok [(c.name,d)]

/-- What variables say about a field beside the sections. -/
private def fieldOf (convention : Convention) (env : Environment) (name : String) : Fields Float :=
  ((Environment.get? convention env name).map fun value => (name,value)).toList

def ofVariables (onCommandLine : Bool) (convention : Convention) (env : Environment) :
    Except Rejection (Fields Float) := do
  let selection ← sectionOf onCommandLine .selection convention env
  let mutation ← sectionOf onCommandLine .mutation convention env
  let campaign ← sectionOf onCommandLine .campaign convention env
  let logging ← sectionOf onCommandLine .logging convention env
  pure (fieldOf convention env "app_name" ++ fieldOf convention env "app_version" ++ selection ++ mutation ++
    campaign ++ logging)

/-- Reads all settings from fields, with the environment for sections and fields that are missing. -/
def readAll (env : Environment) (given : Fields Float) : Reading (Settings Float) :=
  let standard : Settings Float := .standard
  Settings.mk <$> field given "app_name" asText standard.appName
    <*> field given "app_version" asText standard.appVersion
    <*> Chapter.selection.buildWithin env given
    <*> Chapter.mutation.buildWithin env given
    <*> Chapter.campaign.buildWithin env given
    <*> Chapter.logging.buildWithin env given

/-- All settings with their standing values. -/
def standing : Fields Float := (Settings.standard : Settings Float).fields

def names : List String := namesOf standing

/-- Puts fields over others, sections field by field. -/
def layered (base top : Fields Float) : Fields Float := Environment.overlay Environment.deepest base top

/-- Builds the settings from keywords, a command line among them, and the environment. -/
def build (env : Environment) (keywords : Fields Float) : Except Rejection (Settings Float) := do
  match ← sourcesOf convention standing keywords with
  | none => (readAll env []).toExcept
  | some s =>
    let foremost ← ofVariables true s.spoken s.commandLine
    if s.convention.start.isNone then .error (.unnamed (names.headD "")) else pure ()
    let ambient ← ofVariables false s.convention env
    s.settle
    let given := Environment.firstSpelled names (Convention.otherFields keywords)
    (readAll env (layered (layered ambient given) foremost)).toExcept

/-- The settings in use: those built before, unless none were or new ones are asked for. -/
def current (before : Option (Settings Float)) (again : Bool) (env : Environment) :
    Except Rejection (Settings Float) :=
  match before, again with
  | some s, false => .ok s
  | _, _ => build env []

end Fuzzing.Settings
