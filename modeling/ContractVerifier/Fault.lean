import ContractVerifier.Charset.Unreadable
import ContractVerifier.Compression.Flaw
import ContractVerifier.Files.Tree
import ContractVerifier.Json.Reader
import ContractVerifier.Json.Display
import ContractVerifier.Json.Writer
import ContractVerifier.Url.Problem

set_option autoImplicit false

/-! # Faults

Everything that can go wrong, by cause. A fault has a **kind**, the name under which errors
are counted and reported, and a **message**. Three families of faults are told apart
elsewhere: those of a request that was not answered (`isTransport`), those of a value that
cannot be used (`isValue`), and those of a program that could not be run (`isNotRun`).
-/

namespace ContractVerifier

/-! ## The service's own errors -/

/-- How a member of a submitted object is not what it should be. -/
inductive FieldProblem where
  /-- The member is neither a text nor null. -/
  | notText
  /-- The value as a whole is no object. -/
  | notObject
  deriving DecidableEq, Repr

/-- What is said beyond the message of an error. -/
inductive Details where
  | text (t : Text)
  /-- Which members of a submitted object are at fault. -/
  | fields (problems : List (Text × FieldProblem))
  deriving DecidableEq, Repr

/-- The codes under which errors are reported to a client. -/
inductive ErrorCode where
  | badRequest
  | validation
  | internal
  | flatten
  deriving DecidableEq, Repr

/-- The spelling of a code. -/
def ErrorCode.text : ErrorCode → String
  | badRequest => "BAD_REQUEST"
  | validation => "VALIDATION_ERROR"
  | internal => "INTERNAL_ERROR"
  | flatten => "FLATTEN_ERROR"

/-- The errors the service answers with. -/
inductive ServiceError where
  /-- An error of no particular sort. -/
  | general (message : Text) (details : Option Details)
  /-- The input lacks something. -/
  | validation (message : Text) (details : Option Details)
  /-- The request could not be processed. -/
  | processing (details : Option Details)
  /-- No single source could be made. -/
  | flatten (message : Text) (details : Option Details)
  deriving DecidableEq, Repr

namespace ServiceError

/-- The name under which the error is counted. -/
def kind : ServiceError → String
  | general .. => "ChainupError"
  | validation .. => "ValidationError"
  | processing .. => "RequestProcessingError"
  | flatten .. => "FlattenError"

/-- The message of an error. -/
def message : ServiceError → Text
  | general m _ => m
  | validation m _ => m
  | processing _ => "Error processing request".toList
  | flatten m _ => m

/-- What is said beyond the message. -/
def details : ServiceError → Option Details
  | general _ d => d
  | validation _ d => d
  | processing d => d
  | flatten _ d => d

/-- The code of an error. -/
def code : ServiceError → ErrorCode
  | general .. => .internal
  | validation .. => .validation
  | processing .. => .internal
  | flatten .. => .flatten

/-- The status an error is answered with. -/
def status : ServiceError → Nat
  | validation .. => 400
  | _ => 500

end ServiceError

/-! ## All faults -/

/-- Everything that can go wrong. -/
inductive Fault where
  | file (e : FileFault)
  | encoding (e : DecodeError)
  | json (e : Json.ReadError)
  | number (e : Number.IntError)
  /-- A text is no decimal fraction. -/
  | fraction (t : Text)
  /-- A value of this kind has no members. -/
  | noMembers (kind : String)
  /-- A registry file lacks its entries. -/
  | noEntries (path : Text)
  /-- A registered statement is empty. -/
  | emptyStatement
  /-- A value of this kind has no content to look into. -/
  | noContent (kind : String)
  /-- A value of this kind cannot be looked up. -/
  | notLookedUp (kind : String)
  /-- A value of this kind cannot be cut in two. -/
  | notCuttable (kind : String)
  /-- A value of this kind cannot be searched for imports. -/
  | notSearchable (kind : String)
  /-- The items of a value of this kind have no names. -/
  | noNamedItems (kind : String)
  | unknownBackend (name : Text)
  | unknownMethod (name : Text)
  /-- Every name tried for a scratch directory is taken. -/
  | namesTaken
  /-- Imports are nested more deeply than calls can be. -/
  | deepImports
  /-- The explorer did not answer within so many seconds. -/
  | noAnswer (timeout : Json)
  /-- A value of this kind is no limit of time. -/
  | noLimit (kind : String)
  | address (e : UrlError)
  /-- The explorer redirects to a text that is no address. -/
  | redirect (e : UrlError)
  /-- A request went to an address without a scheme. -/
  | noScheme (url : Text)
  /-- The numbered and the unnumbered parts of a value cannot be ordered; the part that came
  later `isNumbered`, or the other. -/
  | unorderedParts (isNumbered : Bool)
  /-- A zero character stands in the label of an encoding. -/
  | zeroInLabel
  /-- Bytes cannot be read in the encoding that is named for them. -/
  | unreadable (e : Unreadable)
  /-- A text that has to be encoded holds a character that has no bytes. -/
  | unencodable (u : Unencodable)
  /-- A value to be sent holds a number that is not finite. -/
  | notFinite
  /-- A response cannot be uncompressed. -/
  | compressed (flaw : Compression.Flaw)
  /-- A command took more than so many seconds. -/
  | overdue (command timeout : Json)
  | service (e : ServiceError)
  /-- An answer of the web framework. -/
  | web (status : Int) (detail : Text)
  /-- A fault of another program, by its own name. -/
  | foreign (kind : String) (message : Text)

namespace Fault

/-- The kind of a file error. -/
def fileKind : FileFault → String
  | .refused .notFound _ => "FileNotFoundError"
  | .refused .alreadyThere _ => "FileExistsError"
  | .refused .notDirectory _ => "NotADirectoryError"
  | .refused .isDirectory _ => "IsADirectoryError"
  | .refused .nameTooLong _ => "OSError"
  | .refused .linkLoop _ => "OSError"
  | .zeroCharacter => "ValueError"
  | .endlessLinks _ => "RuntimeError"

/-- The name under which a fault is counted and reported. -/
def kind : Fault → String
  | file e => fileKind e
  | encoding _ => "UnicodeDecodeError"
  | json (.syntaxError _) => "JSONDecodeError"
  | json (.number _) => "ValueError"
  | json (.depth _) => "RecursionError"
  | json (.encoding _) => "UnicodeDecodeError"
  | number _ => "ValueError"
  | fraction _ => "ValueError"
  | noMembers _ => "AttributeError"
  | noEntries _ => "ValueError"
  | emptyStatement => "ValueError"
  | noContent _ => "TypeError"
  | notLookedUp _ => "TypeError"
  | notCuttable _ => "AttributeError"
  | notSearchable _ => "TypeError"
  | noNamedItems _ => "TypeError"
  | unknownBackend _ => "ValueError"
  | unknownMethod _ => "ValueError"
  | namesTaken => "FileExistsError"
  | deepImports => "RecursionError"
  | noAnswer _ => "TimeoutException"
  | noLimit _ => "TypeError"
  | address e => e.kind
  | redirect _ => "RemoteProtocolError"
  | noScheme _ => "ValueError"
  | unorderedParts _ => "TypeError"
  | zeroInLabel => "ValueError"
  | unreadable e => e.kind
  | unencodable _ => "UnicodeEncodeError"
  | notFinite => "ValueError"
  | compressed _ => "DecodingError"
  | overdue .. => "TimeoutExpired"
  | service e => e.kind
  | web .. => "HTTPException"
  | foreign kind _ => kind

/-- The message of a fault. -/
def message : Fault → Text
  | file e => e.message
  | encoding e => e.message.toList
  | json e => e.message.toList
  | number e => e.message.toList
  | fraction t => "could not convert string to float: ".toList ++ Text.quoted t
  | noMembers kind => ("'" ++ kind ++ "' object has no attribute 'get'").toList
  | noEntries path => "Registry file ".toList ++ path ++ " has no 'entries' object".toList
  | emptyStatement => "empty separator".toList
  | noContent kind => ("argument of type '" ++ kind ++ "' is not iterable").toList
  | notLookedUp kind => ("unhashable type: '" ++ kind ++ "'").toList
  | notCuttable kind => ("'" ++ kind ++ "' object has no attribute 'partition'").toList
  | notSearchable kind => ("expected string or bytes-like object, got '" ++ kind ++ "'").toList
  | noNamedItems kind =>
    if kind = "str" then "string indices must be integers, not 'str'".toList
    else (kind ++ " indices must be integers or slices, not str").toList
  | unknownBackend name => "Unknown flatten backend: ".toList ++ Text.quoted name
  | unknownMethod name =>
    Text.quoted name ++ " is not a valid VerificationMethod".toList
  | namesTaken => "[Errno 17] No usable temporary directory name found".toList
  | deepImports => "maximum recursion depth exceeded".toList
  | noAnswer timeout =>
    "No response from explorer within ".toList ++ timeout.display ++ ['s']
  | noLimit kind =>
    ("'<=' not supported between instances of '" ++ kind ++ "' and 'int'").toList
  | address e => e.message
  | redirect e => "Invalid URL in location header: ".toList ++ e.message ++ ['.']
  | noScheme url => "unknown url type: ".toList ++ Text.quoted url
  | unorderedParts isNumbered =>
    let (later, earlier) := if isNumbered then ("int", "NoneType") else ("NoneType", "int")
    ("'<' not supported between instances of '" ++ later ++ "' and '" ++ earlier ++ "'").toList
  | zeroInLabel => "embedded null character".toList
  | unreadable e => e.message.toList
  | unencodable u => u.message
  | notFinite => "Out of range float values are not JSON compliant".toList
  | compressed flaw => flaw.message.toList
  | overdue command timeout =>
    "Command '".toList ++ command.display ++ "' timed out after ".toList ++ timeout.display ++
      " seconds".toList
  | service e => e.message
  | web status detail => Text.ofInt status ++ ": ".toList ++ detail
  | foreign _ m => m

/-- The fault of a value that cannot be sent. -/
def ofWriteError : Json.WriteError → Fault
  | .notFinite => .notFinite
  | .unencodable u => .unencodable u

/-- The message of a fault, or its kind where the message is empty. -/
def describe (f : Fault) : Text :=
  if f.message = [] then f.kind.toList else f.message

/-! ## Families -/

/-- The kinds of a request that could not be sent or was not answered. -/
def transportKinds : List String :=
  ["HTTPError", "RequestError", "TransportError", "TimeoutException", "ConnectTimeout",
   "ReadTimeout", "WriteTimeout", "PoolTimeout", "NetworkError", "ConnectError", "ReadError",
   "WriteError", "CloseError", "ProxyError", "UnsupportedProtocol", "ProtocolError",
   "LocalProtocolError", "RemoteProtocolError", "DecodingError", "TooManyRedirects",
   "HTTPStatusError", "InvalidURL"]

/-- The kinds of a value that cannot be used. -/
def valueKinds : List String :=
  ["ValueError", "UnicodeError", "UnicodeDecodeError", "UnicodeEncodeError",
   "UnicodeTranslateError", "JSONDecodeError", "IDNAError", "IDNABidiError", "InvalidCodepoint",
   "InvalidCodepointContext"]

/-- The kinds of a refusal by the system, and of a program that took too long. -/
def notRunKinds : List String :=
  ["OSError", "FileNotFoundError", "FileExistsError", "NotADirectoryError",
   "IsADirectoryError", "PermissionError", "BlockingIOError", "ChildProcessError",
   "ConnectionError", "BrokenPipeError", "ConnectionAbortedError", "ConnectionRefusedError",
   "ConnectionResetError", "InterruptedError", "ProcessLookupError", "TimeoutError",
   "TimeoutExpired"]

/-- Whether the fault is that of a request that could not be sent or was not answered. -/
def isTransport (f : Fault) : Bool := transportKinds.contains f.kind

/-- Whether the fault is that of a value that cannot be used. -/
def isValue (f : Fault) : Bool := valueKinds.contains f.kind

/-- Whether the fault is that of a program that could not be run to its end. -/
def isNotRun (f : Fault) : Bool := notRunKinds.contains f.kind

/-- Whether the fault says that time is up. -/
def isDeadline (f : Fault) : Bool := f.kind = "TimeoutError"

/-- The kinds of a program text that cannot be read. Where they say nothing, they say so. -/
def syntaxKinds : List String := ["SyntaxError", "IndentationError", "TabError"]

/-- The fault another program raises with a message, if any. A missing key is reported as
the quoted key. -/
def ofKind (kind : String) (m : Option Text) : Fault :=
  match m with
  | some (c :: t) =>
    .foreign kind (if kind = "KeyError" then Text.quoted (c :: t) else c :: t)
  | _ => .foreign kind (if syntaxKinds.contains kind then "None".toList else [])

theorem describe_ne_nil (f : Fault) (h : f.kind ≠ "") : f.describe ≠ [] := by
  unfold describe
  split
  · intro hn
    apply h
    rw [← String.ofList_toList (s := f.kind), hn]
  · assumption

end Fault

end ContractVerifier
