import Typescribe.Json.Reader
import Typescribe.Json.Writer
import Typescribe.Value.Display

/-!
This module contains what can go wrong, as causes, and the wording of every cause. Faults of the
program's own say what it could not do; a cause from outside is shown by its kind.
-/

namespace Typescribe

/-- Why a member of a typed model is refused. -/
inductive Refusal where
  | missing
  | notText
  | notUnicode
  | notBool
  | unreadableBool
  | notList
  | notMapping
  | notModel
  | unreadableNumber
  | notInChoice
deriving DecidableEq, Repr

def Refusal.code : Refusal → String
  | missing => "missing"
  | notText => "string_type"
  | notUnicode => "string_unicode"
  | notBool => "bool_type"
  | unreadableBool => "bool_parsing"
  | notList => "list_type"
  | notMapping => "dict_type"
  | notModel => "model_type"
  | unreadableNumber => "float_parsing"
  | notInChoice => "literal_error"

structure Issue where
  path : List String
  refusal : Refusal
deriving DecidableEq, Repr

def Issue.text (issue : Issue) : String :=
  String.intercalate "." issue.path ++ " " ++ issue.refusal.code

/-- What the file system answers instead of doing what it is asked for. -/
inductive FileFault where
  | notFound
  | isDirectory
  | notDirectory
  | alreadyExists
  | linkLoop
  | other
deriving DecidableEq, Repr

def FileFault.kind : FileFault → String
  | notFound => "FileNotFoundError"
  | isDirectory => "IsADirectoryError"
  | notDirectory => "NotADirectoryError"
  | alreadyExists => "FileExistsError"
  | linkLoop => "OSError"
  | other => "OSError"

/-- A cause from outside the rules of the data model. -/
inductive Cause where
  | invalid (model : String) (issues : List Issue)
  | httpStatus (code : Nat)
  | transport (kind : String)
  | invalidUrl
  | badHostName
  | malformedYaml
  | malformedJson
  | undecodableText
  | unencodableText
  | missingKey (key : Value)
  | wrongKind
  | noMembers
  | file (fault : FileFault)
  | database
  | badDatabaseUrl
  | badValue (text : String)
  | notImplemented
  | overflow
  | memory
  | other (kind : String)
deriving Repr

namespace Cause

def kind : Cause → String
  | invalid _ _ => "ValidationError"
  | httpStatus _ => "HTTPStatusError"
  | transport kind => kind
  | invalidUrl => "InvalidURL"
  | badHostName => "IDNAError"
  | malformedYaml => "YAMLError"
  | malformedJson => "JSONDecodeError"
  | undecodableText => "UnicodeDecodeError"
  | unencodableText => "UnicodeEncodeError"
  | missingKey _ => "KeyError"
  | wrongKind => "TypeError"
  | noMembers => "AttributeError"
  | file fault => fault.kind
  | database => "OperationalError"
  | badDatabaseUrl => "ArgumentError"
  | badValue _ => "ValueError"
  | notImplemented => "NotImplementedError"
  | overflow => "OverflowError"
  | memory => "MemoryError"
  | other kind => kind

def label : Cause → String
  | invalid model issues =>
    "ValidationError " ++ model ++ " [" ++ String.intercalate ", " (issues.map Issue.text) ++ "]"
  | httpStatus code => "HTTPStatusError " ++ toString code
  | badValue text => "ValueError " ++ text
  | missingKey key => "KeyError " ++ key.nested
  | cause => cause.kind

def isExchange : Cause → Bool
  | httpStatus _ | transport _ => true
  | _ => false

def isBadValue : Cause → Bool
  | invalid _ _ | malformedJson | undecodableText | unencodableText | badHostName | badValue _ =>
    true
  | _ => false

end Cause

def readJson (text : String) : Except Cause Value :=
  match Json.read text with
  | .ok value => .ok value
  | .error .malformed => .error .malformedJson
  | .error (.tooManyDigits count) => .error (.badValue (Decimal.tooLongText count))

def shownLength : Nat := 200

def readInteger (base : Nat) (cs : List Char) : Except Cause Int :=
  match Decimal.readWhole base cs with
  | .number n => .ok n
  | .none =>
    .error (.badValue ("invalid literal for int() with base " ++ toString base ++ ": "
      ++ String.ofList ((Text.display cs).take shownLength)))
  | .tooLong count => .error (.badValue (Decimal.tooLongText count))

inductive SourceProblem where
  | noMapping
  | malformed (cause : Cause)
  | unreadable (path : String) (cause : Cause)
  | unparsable (path : String) (cause : Cause)
  | unreachable (url : String) (cause : Cause)
  | introspection (cause : Cause)
  | notConfigured
deriving Repr

def SourceProblem.message : SourceProblem → String
  | noMapping => "Schema snapshot must be a mapping"
  | malformed cause => "Malformed schema snapshot: " ++ cause.label
  | unreadable path cause => "Cannot read schema snapshot " ++ path ++ ": " ++ cause.label
  | unparsable path cause => "Cannot parse schema snapshot " ++ path ++ ": " ++ cause.label
  | unreachable url cause => "Cannot fetch schema snapshot from " ++ url ++ ": " ++ cause.label
  | introspection cause => "Database introspection failed: " ++ cause.label
  | notConfigured =>
    "No schema source configured. Pass --from-snapshot, --from-api or --from-database, "
      ++ "or set DIRECTUS_TYPEGEN_SNAPSHOT_PATH, DIRECTUS_TYPEGEN_DIRECTUS_URL or "
      ++ "DIRECTUS_TYPEGEN_DATABASE_URL."

inductive LookupProblem where
  | request (path : String) (cause : Cause)
  | tableLookup (collection field : String) (cause : Cause)
  | tablePrefetch (cause : Cause)
  | stated (message : String)
deriving Repr

def LookupProblem.message : LookupProblem → String
  | request path cause => "GET " ++ path ++ " failed: " ++ cause.label
  | tableLookup collection field cause =>
    "directus_fields lookup failed for " ++ collection ++ "." ++ field ++ ": " ++ cause.label
  | tablePrefetch cause => "directus_fields prefetch failed: " ++ cause.label
  | stated message => message

inductive FieldProblem where
  | unsupportedType (tag : String)
  | danglingRelation (target : Option String)
  | unwritableChoice (unwritable : Json.Unwritable)
deriving DecidableEq, Repr

def FieldProblem.reason : FieldProblem → String
  | unsupportedType tag => "unsupported type '" ++ tag ++ "'"
  | danglingRelation target =>
    "relation points at unknown collection '" ++ target.getD "None" ++ "'"
  | unwritableChoice unwritable => unwritable.kind ++ ": " ++ unwritable.message

def FieldProblem.kind : FieldProblem → String
  | unsupportedType _ => "UnsupportedFieldTypeError"
  | danglingRelation _ => "DanglingRelationError"
  | unwritableChoice _ => "FieldResolutionError"

structure FieldFault where
  collection : String
  field : String
  problem : FieldProblem
deriving DecidableEq, Repr

def FieldFault.message (fault : FieldFault) : String :=
  fault.collection ++ "." ++ fault.field ++ ": " ++ fault.problem.reason

/-- Names that several collections share, each with the collections in alphabetical order. -/
abbrev Collisions := List (String × List String)

def Collisions.message (collisions : Collisions) : String :=
  "Collections resolve to the same type name: "
    ++ String.intercalate "; "
      (collisions.map fun (name, ids) => name ++ " <- " ++ String.intercalate ", " ids)

inductive Fault where
  | source (problem : SourceProblem)
  | lookup (problem : LookupProblem)
  | output (path : String) (cause : FileFault)
  | collision (collisions : Collisions)
  | field (fault : FieldFault)
  | foreign (cause : Cause)
deriving Repr

namespace Fault

def kind : Fault → String
  | source _ => "SchemaSourceError"
  | lookup _ => "ChoiceLookupError"
  | output _ _ => "OutputWriteError"
  | collision _ => "NameCollisionError"
  | field fault => fault.problem.kind
  | foreign cause => cause.kind

def message : Fault → String
  | source problem => problem.message
  | lookup problem => problem.message
  | output path cause => "Failed to write " ++ path ++ ": " ++ cause.kind
  | collision collisions => collisions.message
  | field fault => fault.message
  | foreign cause => cause.label

end Fault

end Typescribe
