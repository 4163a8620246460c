import ReplayProxy.Admin.Server
import ReplayProxy.Certificate.KeyAlgorithm

/-!
# Options

How the proxy is started: where it listens, where it keeps its records, in which mode it
begins and with which transform, and what its root certificate is to be. Everything has a
default. Options that make no sense together are found out here, before anything starts.
-/

namespace ReplayProxy

/-- Where records are kept. -/
inductive StorageKind where
  /-- In a database file. -/
  | database
  /-- In memory, until the program ends. -/
  | memory
  deriving DecidableEq, Repr

/-- How the proxy is started. -/
structure Options where
  proxyPort : UInt16 := 8500
  adminPort : UInt16 := 8888
  host : String := "127.0.0.1"
  storage : StorageKind := .database
  databasePath : String := "requests.db"
  transform : Option String := none
  /-- The seconds that a transform may take. -/
  transformTimeout : Option Nat := none
  /-- The modes that were asked for. -/
  modes : List Mode := []
  destination : String := "."
  /-- The locations of archives to import. -/
  imports : List String := []
  certificateDirectory : Option String := none
  certificateName : String := "understudy.proxy"
  organization : String := "Understudy Authority"
  keyAlgorithm : KeyAlgorithm := .rsa2048
  /-- Whether the root certificate is made anew even if there is one. -/
  renewRoot : Bool := false
  /-- Whether the servers of destinations must prove who they are. -/
  verify : Bool := true
  /-- The seconds that a forwarded exchange may take. -/
  timeout : Nat := 30
  metrics : Bool := false
  verbose : Bool := false
  logLevel : String := "info"
  logDirectory : Option String := none
  deriving DecidableEq, Repr

/-- Why options make no sense together. -/
inductive OptionsError where
  | conflictingModes (modes : List Mode)
  | missingTransform (mode : Mode)
  | transform (cause : TransformError)
  | address (text : String)
  deriving DecidableEq, Repr

/-- The sentence on an options error. -/
def OptionsError.message : OptionsError → String
  | .conflictingModes modes =>
    "only one of --capture, --simulate, --modify, --synthesize may be given (got " ++
      String.intercalate ", " (modes.map Mode.name) ++ ")"
  | .missingTransform mode => mode.name ++ " mode chosen although middleware not supplied"
  | .transform e => "invalid middleware: " ++ e.message
  | .address text => "invalid listen address " ++ text

namespace Options

/-- The modes that can be asked for, in the order in which they are listed. -/
def choices : List Mode := [.capture, .simulate, .modify, .synthesize]

/-- The mode to begin in: the one that was asked for, or `virtualize`. -/
def mode (o : Options) : Except OptionsError Mode :=
  match choices.filter o.modes.contains with
  | [] => .ok .virtualize
  | [m] => .ok m
  | ms => .error (.conflictingModes ms)

/-- The level at which events are logged. -/
def effectiveLogLevel (o : Options) : String := if o.verbose then "debug" else o.logLevel

/-- The transform to begin with. A blank definition is none. -/
def startTransform (o : Options) : Except OptionsError (Option Transform) :=
  match o.transform with
  | none => .ok none
  | some text =>
    if (Blank.trim text).isEmpty then .ok none
    else
      match TransformDefinition.parse text with
      | .ok definition => .ok (some { definition, limit := o.transformTimeout.map (· * 1000) })
      | .error e => .error (.transform e)

/-- How the engine starts. -/
def engineSettings (o : Options) : Except OptionsError EngineSettings := do
  let mode ← o.mode
  let transform ← o.startTransform
  if mode.requiresTransform && transform.isNone then throw (.missingTransform mode)
  return { mode, destination := o.destination, transform
           forwarding := { timeout := o.timeout, verify := o.verify } }

/-- The socket address of the host and a port. -/
def address (o : Options) (port : UInt16) : Except OptionsError SocketAddress :=
  match SocketAddress.ofHostPort? o.host port with
  | some a => .ok a
  | none => .error (.address (o.host ++ ":" ++ toString port.toNat))

/-- Where the proxy listens. -/
def proxyAddress (o : Options) : Except OptionsError SocketAddress := o.address o.proxyPort

/-- Where the administration is to listen. -/
def adminSettings (o : Options) : Admin.ServerSettings := { host := o.host, port := o.adminPort }

end Options

/-- The two caches of the program. -/
structure Caches where
  requests : Cache
  metadata : Cache

namespace Caches

/-- Opens the caches that the options ask for, and the files after it. Those of a database
lie in two of its buckets. -/
def create (o : Options) (files : FileTree) : Except StorageError Caches × FileTree :=
  match o.storage with
  | .memory => (.ok ⟨.inMemory, .inMemory⟩, files)
  | .database =>
    match files.openDatabase o.databasePath with
    | (.error e, files) => (.error e, files)
    | (.ok db, files) =>
      match db.openBucket requestsBucket with
      | .error e => (.error e, files)
      | .ok db =>
        match db.openBucket metadataBucket with
        | .error e => (.error e, files.saveDatabase o.databasePath db)
        | .ok db =>
          (.ok ⟨db.cache requestsBucket, db.cache metadataBucket⟩,
            files.saveDatabase o.databasePath db)

/-- Writes caches back to where they were opened from. -/
def save (c : Caches) (o : Options) (files : FileTree) : FileTree :=
  match o.storage, files.openDatabase o.databasePath with
  | .database, (.ok db, files) =>
    files.saveDatabase o.databasePath
      ((db.store requestsBucket c.requests).store metadataBucket c.metadata)
  | _, _ => files

end Caches

end ReplayProxy
