import Fuzzing.Document.Argument
import Fuzzing.Document.Reader

/-!
Environment variables as a source of settings. Names mostly count without regard to case. A section
can be given as the JSON text of one variable, or field by field: a delimiter leads into the section.
The fields given one by one come over those of the JSON text. A convention for names is standing, but keywords of
their own can change it for one reading.
-/
namespace Fuzzing.Settings

/-- How often the name of a variable is split at most. -/
inductive Splits where
  | unlimited
  | atMost (n : Nat)
  /-- A limit that is no whole number. -/
  | unusable (form : String)
  /-- A limit beyond what can be counted up to. -/
  | uncountable

/-- How variables are read. -/
structure Convention where
  /-- What names begin with; none where names cannot be formed. -/
  start : Option String
  /-- Whether case counts. -/
  exact : Bool
  /-- Whether empty variables are passed over. -/
  skipsEmpty : Bool
  /-- What leads into a section; empty where nothing does. -/
  delimiter : List Char
  /-- The form of the delimiter, where it is no text that names can be split at. -/
  undividing : Option String
  splits : Splits
  /-- The text that stands for a missing value. -/
  missing : Option String
  /-- Whether files are looked for. -/
  findsFiles : Bool
  /-- What fails once all variables are read: files have to begin their names with no text, or further places
      of values are none. -/
  trailing : Option (Failure Float)

namespace Convention

/-- Names begin in a certain way and count without regard to case. -/
def startingWith (start : String) : Convention :=
  { start := some start, exact := false, skipsEmpty := false, delimiter := [], undividing := none
    splits := .unlimited, missing := none, findsFiles := false, trailing := none }

/-- The keywords that change how variables are read. -/
def keywords : List String :=
  ["_case_sensitive","_nested_model_default_partial_update","_env_prefix","_env_prefix_target","_env_file",
   "_env_file_encoding","_env_file_depth","_env_ignore_empty","_env_nested_delimiter","_env_nested_max_split",
   "_env_parse_none_str","_env_parse_enums","_cli_prog_name","_cli_parse_args","_cli_settings_source",
   "_cli_parse_none_str","_cli_hide_none_type","_cli_avoid_json","_cli_enforce_required",
   "_cli_use_class_docs_for_groups","_cli_exit_on_error","_cli_prefix","_cli_flag_prefix_char","_cli_implicit_flags",
   "_cli_ignore_unknown_args","_cli_kebab_case","_cli_shortcuts","_cli_show_env_vars","_secrets_dir","_build_sources"]

/-- The name under which a reader knows itself, so that no keyword can have it. -/
private def ownName : String := "__pydantic_self__"

/-- The bound of what can be counted up to, `2 ^ 63`. -/
private def countLimit : Int := 0x8000000000000000

/-- A limit of splits. One split less than asked for is made, and none asked for is no limit. -/
private def splitsOf : Document Float → Except (Failure Float) Splits
  | .bool b => .ok (if b then .atMost 0 else .unlimited)
  | .whole n =>
    if n = 0 then .ok .unlimited
    else
      let most := n - 1
      if most < -countLimit || countLimit ≤ most then .ok .uncountable
      else .ok (if most < 0 then .unlimited else .atMost most.toNat)
  | .real x => .ok (if x == 0.0 then .unlimited else .unusable (Document.real x).form)
  | d => if d.isTruthy (· == 0.0) then .error (.noOperation "-" d.form "int") else .ok .unlimited

/-- What names begin with. A value without a length is refused, and other values that are no texts form no
    names. -/
private def startOf : Document Float → Except (Failure Float) (Option String)
  | .text s => .ok (some s)
  | .list _ | .record _ => .ok none
  | d => .error (.noLength d.form)

/-- What fails where a value has to begin the names in files: what is no text has no small letters. -/
private def trailingOf : Document Float → Option (Failure Float)
  | .text _ => none
  | d => some (.noAttribute d.form "lower")

/-- Whether the names of fields begin with what all names begin with, by what it is put in front of. -/
private def startsFields (d : Document Float) : Bool :=
  match d with
  | .text target => target == "variable" || target == "all"
  | _ => false

/-- Whether a place is told from the root of all places. -/
private def isRooted (place : String) : Bool := place.toList.head?.any fun c => c = '/' || c = '~'

/-- A place of files, where there are none to be read. How far up they are looked for has to be a number; where it
    is above zero and the place is not told from the root, a whole one that can be counted up to. -/
private def ensureFile (depth : Option (Document Float)) : Document Float → Except (Failure Float) Unit
  | .text place =>
    match depth with
    | none => .ok ()
    | some d => do
      let isNear ← d.isAtMostZero?
      if isNear || isRooted place || d.integer?.any (· < countLimit) then pure () else .error .notADepth
  | part => .error (.notAPath part.form)

/-- Files with further variables: one place, or several. -/
private def ensureFiles (depth : Option (Document Float)) : Document Float → Except (Failure Float) Unit
  | .text s => ensureFile depth (.text s)
  | d => do (← d.parts?).forM (ensureFile depth)

/-- What fails where places of further values are none. -/
private def strayOf (d : Document Float) : Option (Failure Float) :=
  match ensureFiles none d with
  | .ok () => none
  | .error why => some why

/-- What leads into a section, written out. -/
private def delimiterOf (d : Document Float) : List Char := if d.isTruthy (· == 0.0) then d.plain.toList else []

/-- The form of what leads into a section, where it is no text. -/
private def undividingOf : Document Float → Option String
  | .text _ => none
  | d => some d.form

/-- The text that stands for a missing value. -/
private def missingOf : Document Float → Option String
  | .text s => some s
  | _ => none

/-- The value of a keyword that is not null. -/
def given? (fields : Fields Float) (name : String) : Option (Document Float) :=
  match Table.get? name fields with
  | some .null => none
  | value => value

def ensureNames (fields : Fields Float) : Except (Failure Float) Unit :=
  if (Table.get? ownName fields).isSome then .error (.reservedName "BaseSettings.__init__" ownName) else .ok ()

/-- The files that are looked for: those that a keyword names, or those of old. -/
private def filesOf (fields : Fields Float) (c : Convention) : Document Float :=
  match Table.get? "_env_file" fields with
  | some d => d
  | none => if c.findsFiles then .text ".env" else .null

/-- A convention as keywords change it. -/
def changedBy (fields : Fields Float) (c : Convention) : Except (Failure Float) Convention := do
  let given := given? fields
  let truth (name : String) (standing : Bool) : Bool := ((given name).map (·.isTruthy (· == 0.0))).getD standing
  let splits ← (given "_env_nested_max_split").elim (pure c.splits) splitsOf
  let start ← (given "_env_prefix").elim (pure c.start) startOf
  let files := filesOf fields c
  if !(files matches .null) then ensureFiles (given "_env_file_depth") files else pure ()
  let exact := truth "_case_sensitive" c.exact
  pure
    { c with
      start := if ((given "_env_prefix_target").map startsFields).getD true then start else some ""
      exact, splits, skipsEmpty := truth "_env_ignore_empty" c.skipsEmpty
      delimiter := ((given "_env_nested_delimiter").map delimiterOf).getD c.delimiter
      undividing := ((given "_env_nested_delimiter").map undividingOf).getD c.undividing
      missing := ((given "_env_parse_none_str").map missingOf).getD c.missing
      trailing :=
        (if exact then none else (given "_env_prefix").bind trailingOf) <|> (given "_secrets_dir").bind strayOf }

/-- The fields that are not about how variables are read. -/
def otherFields (fields : Fields Float) : Fields Float := fields.filter fun e => !keywords.contains e.1

end Convention

end Fuzzing.Settings

namespace Fuzzing

/-- The variables of an environment. Their values are texts; those of a command line can be others. -/
abbrev Environment := Fields Float

namespace Environment

open Settings (Convention Splits)

/-- A text for the names and values of variables, which are kept as bytes: a half of a character can be kept if
    it stands for a byte, and bytes that make up a character come back as that. -/
private def ensureText : Document Float → Except (Failure Float) String
  | .text s =>
    let kept (code : Nat) : Bool := !Text.isHalf code || (Text.octet? code).isSome
    let codes := Text.codes s
    let lost := codes.dropWhile kept
    let start := codes.length - lost.length
    match lost.takeWhile Text.isHalf with
    | [] => .ok (Text.ofCodes (Text.rejoined 0 codes))
    | run => .error (.notEncodable run start)
  | d => .error (.notAText d.form)

/-- A variable. Its name has to be there and may not hold the sign between name and value, and neither of them
    the character that ends texts. -/
private def ensureVariable (e : String × Document Float) : Except (Failure Float) (String × Document Float) := do
  let name ← ensureText (.text e.1)
  let value ← ensureText e.2
  if name.contains '\x00' || value.contains '\x00' then .error .embeddedEnd
  else if name.contains '=' then .error .unusableName
  else if name = "" then .error .emptyName
  else pure (name,.text value)

/-- The variables that a record gives. All names are looked at before any value is. -/
def ofFields? (fields : Fields Float) : Except (Failure Float) Environment := do
  fields.forM fun e => do
    let _ ← ensureText (.text e.1)
  fields.mapM ensureVariable

private def folded (name : String) : String := Text.smalls name

/-- A name as a convention compares it. -/
def key (c : Convention) (name : String) : String := if c.exact then name else folded name

/-- The value of a variable. -/
private def valueOf (c : Convention) : Document Float → Document Float
  | .text s => if c.missing = some s then .null else .text s
  | d => d

/-- The variables by the names that a convention compares. -/
private def normalized (c : Convention) (env : Environment) : Fields Float :=
  Table.ofEntries ((env.filter fun e => !(c.skipsEmpty && e.2 matches .text "")).map fun e => (key c e.1,valueOf c e.2))

def get? (c : Convention) (env : Environment) (name : String) : Option (Document Float) :=
  c.start.bind fun start => Table.get? (key c (start ++ name)) (normalized c env)

/-- What follows the given start of a name. -/
private def behind? (start name : List Char) : Option (List Char) :=
  if start.isPrefixOf name then some (name.drop start.length) else none

/-- Splits at a delimiter, so many times at most. The first argument counts the characters of a delimiter that
    are still to be passed over. -/
private def path (delimiter : List Char) : Nat → Option Nat → List Char → List Char → List String
  | _, _, seen, [] => [String.ofList seen.reverse]
  | skipped + 1, left, seen, _ :: rest => path delimiter skipped left seen rest
  | 0, left, seen, c :: rest =>
    if left != some 0 && delimiter.isPrefixOf (c :: rest) then
      String.ofList seen.reverse :: path delimiter (delimiter.length - 1) (left.map (· - 1)) [] rest
    else path delimiter 0 left (c :: seen) rest

/-- Puts a value under a name. A missing one does not replace another. -/
private def putLast (value : Document Float) (name : String) (fields : Fields Float) : Fields Float :=
  match value, Table.get? name fields with
  | .null, some _ => fields
  | _, _ => Table.put name value fields

/-- Puts a value at the end of a path through nested records. A path that leads through a value of
    another form changes nothing. -/
private def putAt (value : Document Float) : List String → Fields Float → Fields Float
  | [], fields => fields
  | [name], fields => putLast value name fields
  | name :: rest, fields =>
    match (Table.get? name fields).getD (.record []) with
    | .record inner => Table.put name (.record (putAt value rest inner)) fields
    | _ => fields

/-- Puts the values of the second record over the first, nested records field by field. The first
    argument bounds the depth. -/
def overlay : Nat → Fields Float → Fields Float → Fields Float
  | 0, base, top => Table.putAll base top
  | depth + 1, base, top =>
    top.foldl
      (fun fields e =>
        match Table.get? e.1 fields, e.2 with
        | some (.record old), .record new => Table.put e.1 (.record (overlay depth old new)) fields
        | _, value => Table.put e.1 value fields)
      base

/-- Nesting deeper than this is replaced as a whole. -/
def deepest : Nat := 64

/-- The most splits of a name, if there is a limit. -/
private def limitOf : Splits → Except (Failure Float) (Option Nat)
  | .unlimited => .ok none
  | .atMost n => .ok (some n)
  | .unusable form => .error (.notAnIndex form)
  | .uncountable => .error .countTooLarge

/-- The fields of a section that are given one by one. -/
private def nested (c : Convention) (env : Environment) (name : String) : Except (Failure Float) (Fields Float) :=
  match c.start with
  | none => .ok []
  | some start =>
    let opening := (key c (start ++ name)).toList ++ c.delimiter
    let found := (normalized c env).filterMap fun e => (behind? opening e.1.toList).map fun rest => (rest,e.2)
    if c.delimiter.isEmpty || found.isEmpty then .ok []
    else do
      let limit ← limitOf c.splits
      if let some form := c.undividing then .error (.notASeparator form)
      pure (found.foldl (fun fields e => putAt e.2 (path c.delimiter 0 limit [] e.1) fields) [])

/-- The known name that a name equals without regard to case. -/
private def known? (known : List String) (name : String) : Option String := known.find? fun n => folded n = folded name

/-- Gives every field of a record the spelling of the known name that it equals without regard to
    case. -/
private def respelled (known : List String) (fields : Fields Float) : Fields Float :=
  Table.ofEntries (fields.map fun e => ((known? known e.1).getD e.1,e.2))

/-- The fields of a record under the known names that they equal without regard to case; of several
    spellings of one name the first one counts. -/
def firstSpelled (known : List String) (fields : Fields Float) : Fields Float :=
  fields.foldl
    (fun kept e =>
      match known? known e.1 with
      | none => Table.put e.1 e.2 kept
      | some name => if (Table.get? name kept).isSome then kept else Table.put name e.2 kept)
    []

/-- Why the environment says nothing about a section that could be used. -/
inductive Unusable where
  /-- Its JSON text cannot be read. -/
  | text (why : Document.Unreadable)
  /-- The names of its fields cannot be split, or it is no text at all. -/
  | failed (why : Failure Float)

/-- A section as the environment gives it, none where it says nothing. -/
def sectionOf (c : Convention) (env : Environment) (name : String) (known : List String) :
    Except Unusable (Option (Document Float)) := do
  let parts := (nested c env name).mapError .failed
  let spelled (fields : Fields Float) : Document Float := .record (if c.exact then fields else respelled known fields)
  match get? c env name with
  | none => do
    let parts ← parts
    pure (if parts.isEmpty then none else some (spelled parts))
  | some (.text json) =>
    match Document.read json with
    | .error why => .error (.text why)
    | .ok .null => pure none
    | .ok (.record fields) => do
      let parts ← parts
      pure (some (spelled (overlay deepest fields parts)))
    | .ok other => pure (some other)
  | some .null => pure (some .null)
  | some other => .error (.failed (.notAJsonText other.form))

end Environment

end Fuzzing
