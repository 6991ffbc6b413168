import FunnelDispenser.Device.Switch

/-!
# The web server of the access point

The provisioning page posts the credentials to `/`, the setup page posts the
connection string to `/siotcs`.  Both handlers copy their arguments into
`DeviceConfig` with `strcpy` and save it.
-/

namespace FunnelDispenser.Provisioning

open CMemory Config Device

variable {F : Type}

structure HttpRequest where
  uri : Bytes
  args : List (Bytes × Bytes)
deriving DecidableEq, Repr

namespace HttpRequest

def hasArg (request : HttpRequest) (name : Bytes) : Bool :=
  request.args.any fun arg => arg.1 = name

/-- The first argument of the name, or the empty string. -/
def arg (request : HttpRequest) (name : Bytes) : Bytes :=
  match request.args.find? fun arg => arg.1 = name with
  | some found => found.2
  | none => []

end HttpRequest

/-- What is sent back: a file of the file system, or a text. -/
inductive Response where
  | file (path contentType : Bytes)
  | text (status : Nat) (body : Bytes)
  | notFound
deriving DecidableEq, Repr

abbrev ssidArg : Bytes := bytesOf "SSID"
abbrev ssidPassArg : Bytes := bytesOf "SSIDPass"
abbrev deviceInfoArg : Bytes := bytesOf "DI"

def returnFail (message : Bytes) : Response :=
  .text 500 (message ++ [13, 10])

def thankYouPage : Response :=
  .file (bytesOf "/wwwroot/thanku.html") (bytesOf "text/html")

def setupDonePage : Response :=
  .file (bytesOf "/wwwroot/csconf.html") (bytesOf "text/html")

/-- `DeviceConfig` after the two copies of `handleSubmit`. -/
def submitConfig (request : HttpRequest) (config : Memory) : Memory :=
  strcpy
    (strcpy config ssidNameAddress (cStr (request.arg ssidArg)))
    ssidPassAddress (cStr (request.arg ssidPassArg))

def handleSubmit (write : WriteOutcome) (request : HttpRequest)
    (board : Board F) : Board F × Response :=
  if request.hasArg ssidArg then
    ({ board with
        storage := (saveConfig write
          { board.storage with
            config := submitConfig request board.storage.config }).1
        resetDevice := true },
      thankYouPage)
  else
    (board, returnFail (bytesOf "BAD ARGS"))

/-- `DeviceConfig` after the copy of `handleSetupSubmit`. -/
def setupSubmitConfig (request : HttpRequest) (config : Memory) : Memory :=
  strcpy config connectionStringAddress (cStr (request.arg deviceInfoArg))

def handleSetupSubmit (write : WriteOutcome) (request : HttpRequest)
    (board : Board F) : Board F × Response :=
  if request.hasArg deviceInfoArg then
    ({ board with
        storage := (saveConfig write
          { board.storage with
            config := setupSubmitConfig request board.storage.config }).1
        resetDevice := true },
      setupDonePage)
  else
    (board, returnFail (bytesOf "BAD ARGS"))

def handleRoot (write : WriteOutcome) (request : HttpRequest)
    (board : Board F) : Board F × Response :=
  if request.hasArg ssidArg then
    handleSubmit write request board
  else
    (board, .file (bytesOf "/wwwroot/index.html") (bytesOf "text/html"))

def handleSetup (write : WriteOutcome) (request : HttpRequest)
    (board : Board F) : Board F × Response :=
  if request.hasArg deviceInfoArg then
    handleSetupSubmit write request board
  else
    (board, .file (bytesOf "/wwwroot/device.html") (bytesOf "text/html"))

def handleImage (board : Board F) : Board F × Response :=
  (board,
    .file (bytesOf "/wwwroot/images/characters.png") (bytesOf "image/png"))

/-- `server.handleClient()` with the routes of `InitWebServer`. -/
def handleClient (write : WriteOutcome) (request : HttpRequest)
    (board : Board F) : Board F × Response :=
  if request.uri = bytesOf "/" then
    handleRoot write request board
  else if request.uri = bytesOf "/siotcs" then
    handleSetup write request board
  else if request.uri = bytesOf "/images/characters.png" then
    handleImage board
  else
    (board, .notFound)

end FunnelDispenser.Provisioning
