import PyrePersistent.Containers

namespace PyrePersistent.Protocol

open PyrePersistent.Containers

structure Path where
  raw : String
  deriving DecidableEq, Repr

/-- A JSON value as `json.loads` returns it. -/
inductive Json where
  | null
  | bool (b : Bool)
  | num (n : Int)
  | str (s : String)
  | arr (items : List Json)
  | obj (fields : List (String × Json))

instance Json.decEqStr (j : Json) (s : String) : Decidable (j = .str s) :=
  match j with
  | .str t => decidable_of_iff (t = s) ⟨congrArg Json.str, Json.str.inj⟩
  | .null => isFalse Json.noConfusion
  | .bool _ => isFalse Json.noConfusion
  | .num _ => isFalse Json.noConfusion
  | .arr _ => isFalse Json.noConfusion
  | .obj _ => isFalse Json.noConfusion

def Json.get (fields : List (String × Json)) (key : String) : Option Json :=
  match fields.reverse.lookup key with
  | some .null => none
  | value => value

inductive RequestId where
  | int (n : Int)
  | str (s : String)
  deriving DecidableEq, Repr

/-- `json_rpc.Request`; a request without `id` is a notification. -/
structure Request where
  method : String
  id : Option RequestId
  parameters : Option Json

/-- The subclasses of `json_rpc.JSONRPCException`; each fixes the `error_code()` of its
instances. -/
inductive ErrorKind where
  | parseError
  | invalidRequest
  | methodNotFound
  | invalidParameter
  | internalError
  | serverNotInitialized
  | requestCancelled
  deriving DecidableEq, Repr

structure JSONRPCException where
  kind : ErrorKind
  message : String

/-- What `lsp.read_json_rpc` makes of the next frame on the editor's channel. -/
inductive Frame where
  | message (request : Request)
  | malformed (error : JSONRPCException)

structure Position where
  line : Int
  character : Int
  deriving DecidableEq, Repr

structure Range where
  start : Position
  «end» : Position
  deriving DecidableEq, Repr

inductive DiagnosticSeverity where
  | error
  | warning
  | information
  | hint
  deriving DecidableEq, Repr

structure Diagnostic where
  range : Range
  message : String
  severity : Option DiagnosticSeverity
  code : Option Int
  source : Option String
  deriving DecidableEq, Repr

inductive TextDocumentSyncKind where
  | none
  | full
  | incremental
  deriving DecidableEq, Repr

structure SaveOptions where
  includeText : Bool
  deriving DecidableEq, Repr

structure TextDocumentSyncOptions where
  openClose : Bool
  change : TextDocumentSyncKind
  save : SaveOptions
  deriving DecidableEq, Repr

structure ServerCapabilities where
  textDocumentSync : TextDocumentSyncOptions
  deriving DecidableEq, Repr

structure Info where
  name : String
  version : String
  deriving DecidableEq, Repr

structure InitializeResult where
  capabilities : ServerCapabilities
  serverInfo : Info
  deriving DecidableEq, Repr

structure InitializeParameters where
  capabilities : Json

structure TextDocumentItem where
  uri : String

structure TextDocumentIdentifier where
  uri : String

structure DidOpenTextDocumentParameters where
  textDocument : TextDocumentItem

structure DidCloseTextDocumentParameters where
  textDocument : TextDocumentIdentifier

inductive MessageType where
  | error
  | warning
  | info
  | log
  deriving DecidableEq, Repr

/-- The JSON-RPC messages the client writes to the editor. `publishDiagnostics` and
`showMessage` are the notifications `_publish_diagnostics` and `show_message_to_client` build. -/
inductive Message where
  | successResponse (id : Option RequestId) (result : Option InitializeResult)
  | errorResponse (id : Option RequestId) (code : ErrorKind) (message : String)
      (data : Option Json)
  | publishDiagnostics (path : Path) (diagnostics : List Diagnostic)
  | showMessage (type : MessageType) (message : String)

def Message.responseId : Message → Option (Option RequestId)
  | .successResponse id _ | .errorResponse id _ _ _ => some id
  | .publishDiagnostics _ _ | .showMessage _ _ => none

structure Error where
  path : Path
  line : Int
  column : Int
  stopLine : Int
  stopColumn : Int
  description : String

structure JSONDecodeError where
  message : String

/-- Why an `incremental.InvalidServerResponse` was raised; the exception's text is formatted
from this data and only logged. -/
inductive InvalidServerResponse where
  | cannotParseJson (error : JSONDecodeError)
  | unexpectedJson (response : Json)
  | malformedBody (message : String)

/-- The Python exceptions a coroutine of the client can raise. -/
inductive PyExc where
  | jsonRpc (error : JSONRPCException)
  | invalidServerResponse (error : InvalidServerResponse)
  | unboundLocal (name : String)
  | runtimeError (message : String)
  | osError

/-- The `asyncio.create_subprocess_exec` call of `_start_pyre_server`: the program and its
arguments, the environment of the child, where its output goes, and whether it gets a session of
its own. -/
structure SpawnRequest where
  program : String
  arguments : List String
  environment : PyDict String String
  stdoutPiped : Bool
  stderrLog : String
  startNewSession : Bool

/-- What the module takes from the modules it imports: decoders of `language_server_protocol`,
`incremental` and `json`, the values of `version.__version__`, `commands.ExitCode.FAILURE`,
`os.getpid()`, `os.environ` and `tempfile.gettempdir()`, the paths `start.server_argument_file`
and `start.background_server_log_file` give, and whether a daemon spawned by a request reports
that it is initialized (`False` for every exception on the way, which `_start_pyre_server`
logs). -/
structure Env where
  initializeParameters : Json → Except JSONRPCException InitializeParameters
  didOpenParameters : Json → Except JSONRPCException DidOpenTextDocumentParameters
  didCloseParameters : Json → Except JSONRPCException DidCloseTextDocumentParameters
  version : String
  failure : Int
  jsonLoads : String → Except JSONDecodeError Json
  parseTypeErrorResponse : String → Except InvalidServerResponse (List Error)
  parseTypeErrorResponseJson : Json → Except InvalidServerResponse (List Error)
  pid : Nat
  environ : PyDict String String
  tempDir : String
  serverArgumentFile : String
  backgroundServerLogFile : String → String
  startServer : SpawnRequest → Bool

/-- Modelled from the spec: `DocumentUri.parse(uri).to_file_path()` of
`language_server_protocol`, the path of a `file://` URI and `None` for any other scheme. -/
def toFilePath (uri : String) : Option Path :=
  if "file://".data.isPrefixOf uri.data then some ⟨String.mk (uri.data.drop 7)⟩ else none

end PyrePersistent.Protocol
