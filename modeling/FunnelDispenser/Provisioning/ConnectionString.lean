import FunnelDispenser.Library.KeyValues
import FunnelDispenser.Provisioning.SavedConfig

/-!
# The connection string

`IoTHubClient_LL_CreateFromConnectionString` reads the fields of the
connection string one after the other with a tokenizer.  What it accepts names
a hub, a device and one way to log in; the fields may come in any order, and
the device is the one whose name `GetDeviceId` gives to the access point.
-/

namespace FunnelDispenser.Provisioning

open CMemory Config Device StepRuns KeyValues

/-- `STRING_TOKENIZER_get_next_token`: the token and the new position.  The
end of a token is the first occurrence of the first delimiter that occurs at
all. -/
def getNextToken (delimiters currentPos : Bytes) : Option Bytes × Bytes :=
  if currentPos = [] ∨ delimiters = [] then
    (none, currentPos)
  else
    let start := currentPos.dropWhile (· ∈ delimiters)
    if start = [] then
      (none, start)
    else
      match delimiters.findSome? fun delimiter => start.idxOf? delimiter with
      | some amount => (some (start.take amount), start.drop (amount + 1))
      | none => (some start, [])

theorem cut_at_idxOf (delimiter : UInt8) (start : Bytes) :
    (match start.idxOf? delimiter with
      | some amount => (some (start.take amount), start.drop (amount + 1))
      | none => (some start, [])) =
      (some (start.takeWhile (· ≠ delimiter)),
        (start.dropWhile (· ≠ delimiter)).tail) := by
  induction start with
  | nil => rfl
  | cons byte rest inductionHypothesis =>
      by_cases same : byte = delimiter
      · simp [List.idxOf?_cons, same]
      · rw [List.takeWhile_cons_of_pos (by simpa using same),
          List.dropWhile_cons_of_pos (by simpa using same),
          List.idxOf?_cons, if_neg (by simpa using same)]
        cases found : rest.idxOf? delimiter with
        | none =>
            rw [found] at inductionHypothesis
            obtain ⟨taken, dropped⟩ := Prod.mk.inj inductionHypothesis
            rw [← Option.some.inj taken, ← dropped]
            rfl
        | some amount =>
            rw [found] at inductionHypothesis
            obtain ⟨taken, dropped⟩ := Prod.mk.inj inductionHypothesis
            rw [← Option.some.inj taken, ← dropped]
            rfl

/-- With a single delimiter the tokenizer takes the next token. -/
theorem getNextToken_singleton (delimiter : UInt8) (currentPos : Bytes) :
    getNextToken [delimiter] currentPos =
      match nextToken delimiter currentPos with
      | some (token, behind) => (some token, behind)
      | none => (none, []) := by
  have skipped : currentPos.dropWhile (· ∈ [delimiter]) =
      currentPos.dropWhile (· = delimiter) := by
    simp only [List.mem_singleton]
  have searched : ∀ start : Bytes,
      [delimiter].findSome? (fun tested => start.idxOf? tested) =
        start.idxOf? delimiter := by
    intro start
    rw [List.findSome?_cons]
    cases start.idxOf? delimiter <;> rfl
  unfold getNextToken nextToken
  rw [skipped]
  cases currentPos with
  | nil => rfl
  | cons byte rest =>
      rw [if_neg (by simp)]
      dsimp only
      cases start : (byte :: rest).dropWhile (· = delimiter) with
      | nil => rfl
      | cons first others =>
          rw [if_neg (List.cons_ne_nil _ _), searched, cut_at_idxOf]

theorem getNextToken_eq_some {delimiter : UInt8}
    {currentPos token behind : Bytes} :
    getNextToken [delimiter] currentPos = (some token, behind) ↔
      nextToken delimiter currentPos = some (token, behind) := by
  rw [getNextToken_singleton]
  cases nextToken delimiter currentPos with
  | none => simp
  | some found => simp [Prod.ext_iff]

theorem nextToken_of_getNextToken_none {delimiter : UInt8}
    {currentPos behind : Bytes}
    (missing : getNextToken [delimiter] currentPos = (none, behind)) :
    nextToken delimiter currentPos = none := by
  rw [getNextToken_singleton] at missing
  cases found : nextToken delimiter currentPos with
  | none => rfl
  | some token =>
      rw [found] at missing
      cases missing

abbrev equalsSign : UInt8 := 61
abbrev fullStop : UInt8 := 46

abbrev hostnameToken : Bytes := bytesOf "HostName"
abbrev deviceidToken : Bytes := bytesOf "DeviceId"
abbrev x509Token : Bytes := bytesOf "x509"
abbrev x509TokenOnlyAcceptableValue : Bytes := bytesOf "true"
abbrev devicekeyToken : Bytes := bytesOf "SharedAccessKey"
abbrev devicesasToken : Bytes := bytesOf "SharedAccessSignature"
abbrev protocolGatewayHost : Bytes := bytesOf "GatewayHostName"
abbrev provisioningToken : Bytes := bytesOf "UseProvisioning"
abbrev provisioningAcceptableValue : Bytes := bytesOf "true"

abbrev knownTokens : List Bytes :=
  [hostnameToken, deviceidToken, devicekeyToken, devicesasToken, x509Token,
    provisioningToken, protocolGatewayHost]

/-- `config` while it is filled, and the two flags beside it. -/
structure ConnectionFields where
  iotHubName : Option Bytes
  iotHubSuffix : Option Bytes
  deviceId : Option Bytes
  deviceKey : Option Bytes
  deviceSasToken : Option Bytes
  protocolGatewayHostName : Option Bytes
  isx509found : Bool
  useProvisioning : Bool
deriving DecidableEq, Repr

def ConnectionFields.empty : ConnectionFields :=
  ⟨none, none, none, none, none, none, false, false⟩

/-- `break` is the halt. -/
abbrev Reading := Outcome ConnectionFields ConnectionFields

/-- The value up to its first dot names the hub, the rest is the suffix.  The
name stays when there is no suffix. -/
def readHostName (value : Bytes) (fields : ConnectionFields) : Reading :=
  match getNextToken [fullStop] value with
  | (none, _) => .halted fields
  | (some hostName, behind) =>
      let named := { fields with iotHubName := some hostName }
      match getNextToken [semicolon] behind with
      | (none, _) => .halted named
      | (some hostSuffix, _) =>
          .again { named with iotHubSuffix := some hostSuffix }

def readField (field : Bytes × Bytes) (fields : ConnectionFields) :
    Reading :=
  let (token, value) := field
  if token = hostnameToken then
    readHostName value fields
  else if token = deviceidToken then
    .again { fields with deviceId := some value }
  else if token = devicekeyToken then
    .again { fields with deviceKey := some value }
  else if token = devicesasToken then
    .again { fields with deviceSasToken := some value }
  else if token = x509Token then
    if value ≠ x509TokenOnlyAcceptableValue then .halted fields
    else .again { fields with isx509found := true }
  else if token = provisioningToken then
    if value ≠ provisioningAcceptableValue then .halted fields
    else .again { fields with useProvisioning := true }
  else if token = protocolGatewayHost then
    .again { fields with protocolGatewayHostName := some value }
  else
    .again fields

/-- The loop of `IoTHubClient_LL_CreateFromConnectionString`. -/
def readConnectionFields (currentPos : Bytes) (fields : ConnectionFields) :
    ConnectionFields :=
  match _ : getNextToken [equalsSign] currentPos with
  | (none, _) => fields
  | (some token, behind) =>
      match _ : getNextToken [semicolon] behind with
      | (none, _) => fields
      | (some value, rest) =>
          match readField (token, value) fields with
          | .again next => readConnectionFields rest next
          | .halted final => final
termination_by currentPos.length
decreasing_by
  rename_i tokenFound valueFound
  exact Nat.lt_trans
    (isToken_of_nextToken (getNextToken_eq_some.mp valueFound)).shorter
    (isToken_of_nextToken (getNextToken_eq_some.mp tokenFound)).shorter

/-- What is handed to `initialize_iothub_client`. -/
structure HubConfig where
  iotHubName : Bytes
  iotHubSuffix : Bytes
  deviceId : Bytes
  deviceKey : Option Bytes
  deviceSasToken : Option Bytes
  protocolGatewayHostName : Option Bytes
  useProvisioning : Bool
deriving DecidableEq, Repr

/-- One way to log in and no other. -/
def ConnectionFields.combination (fields : ConnectionFields) : Bool :=
  ((!fields.useProvisioning && !fields.isx509found) &&
      (fields.deviceSasToken.isNone ^^ fields.deviceKey.isNone)) ||
    ((fields.useProvisioning || fields.isx509found) &&
      fields.deviceSasToken.isNone && fields.deviceKey.isNone)

/-- The checks behind the loop. -/
def ConnectionFields.config (fields : ConnectionFields) : Option HubConfig :=
  match fields.iotHubName, fields.iotHubSuffix, fields.deviceId with
  | some iotHubName, some iotHubSuffix, some deviceId =>
      if fields.combination then
        some
          { iotHubName := iotHubName
            iotHubSuffix := iotHubSuffix
            deviceId := deviceId
            deviceKey := fields.deviceKey
            deviceSasToken := fields.deviceSasToken
            protocolGatewayHostName := fields.protocolGatewayHostName
            useProvisioning := fields.useProvisioning }
      else none
  | _, _, _ => none

/-- `IOTHUB_CREDENTIAL_TYPE`; a certificate is not known at this point. -/
inductive CredentialType where
  | deviceKey
  | sasToken
  | unknown
deriving DecidableEq, Repr

structure Authorization where
  deviceId : Bytes
  deviceKey : Option Bytes
  deviceSasToken : Option Bytes
  credType : CredentialType
deriving DecidableEq, Repr

def authCreate (deviceKey : Option Bytes) (deviceId : Bytes)
    (deviceSasToken : Option Bytes) : Authorization :=
  match deviceKey, deviceSasToken with
  | some key, _ => ⟨deviceId, some key, none, .deviceKey⟩
  | none, some token => ⟨deviceId, none, some token, .sasToken⟩
  | none, none => ⟨deviceId, none, none, .unknown⟩

/-- `IoTHubClient_Auth_CreateFromDeviceAuth`, built without
`USE_PROV_MODULE`. -/
def authCreateFromDeviceAuth (_deviceId : Bytes) : Option Authorization :=
  none

def createHostName (config : HubConfig) : Bytes :=
  match config.protocolGatewayHostName with
  | some gateway => gateway
  | none => config.iotHubName ++ fullStop :: config.iotHubSuffix

/-- A client, its authorization module and the host of its transport. -/
structure ClientHandle where
  config : HubConfig
  authorization : Authorization
  hostName : Bytes
deriving DecidableEq, Repr

def initializeIothubClient (config : HubConfig) : Option ClientHandle :=
  let authorization :=
    if config.useProvisioning then
      authCreateFromDeviceAuth config.deviceId
    else
      some (authCreate config.deviceKey config.deviceId config.deviceSasToken)
  authorization.bind fun created =>
    -- `IoTHubTransportHttp_Register` takes a key or a token, not both.
    if config.deviceKey.isSome && config.deviceSasToken.isSome then
      none
    else
      some ⟨config, created, createHostName config⟩

def createFromConnectionString (connectionString : Option Bytes) :
    Option ClientHandle :=
  connectionString.bind fun text =>
    (readConnectionFields text .empty).config.bind initializeIothubClient

def Reading.fields : Reading → ConnectionFields
  | .again fields => fields
  | .halted fields => fields

theorem readConnectionFields_eq (text : Bytes) (fields : ConnectionFields) :
    readConnectionFields text fields =
      Reading.fields
        (run readField (readPairs equalsSign semicolon text) fields) := by
  fun_induction readConnectionFields text fields with
  | case1 text fields behind missing =>
      rw [readPairs_of_no_key (nextToken_of_getNextToken_none missing)]
      rfl
  | case2 text fields token behind found stopped missing =>
      rw [readPairs_of_no_value (getNextToken_eq_some.mp found)
        (nextToken_of_getNextToken_none missing)]
      rfl
  | case3 text fields token behind found value rest valueFound next read
      inductionHypothesis =>
      rw [readPairs_cons (getNextToken_eq_some.mp found)
        (getNextToken_eq_some.mp valueFound), run_cons_again read]
      exact inductionHypothesis
  | case4 text fields token behind found value rest valueFound final read =>
      rw [readPairs_cons (getNextToken_eq_some.mp found)
        (getNextToken_eq_some.mp valueFound), run_cons_halted read]
      rfl

def hostName (host : Bytes) : Bytes :=
  host.takeWhile (· ≠ fullStop)

def hostSuffix (host : Bytes) : Bytes :=
  (host.dropWhile (· ≠ fullStop)).tail

structure SplitsHost (host : Bytes) : Prop where
  starts : ∃ first rest, host = first :: rest ∧ first ≠ fullStop
  suffix_nonempty : hostSuffix host ≠ []
  plain : semicolon ∉ host

/-- No check of the loop stops at this field. -/
structure Acceptable (field : Bytes × Bytes) : Prop where
  host : field.1 = hostnameToken → SplitsHost field.2
  certificate : field.1 = x509Token →
    field.2 = x509TokenOnlyAcceptableValue
  provisioning : field.1 = provisioningToken →
    field.2 = provisioningAcceptableValue

/-- What is known behind these fields. -/
def ConnectionFields.collect (fields : List (Bytes × Bytes))
    (known : ConnectionFields) : ConnectionFields where
  iotHubName := latest hostnameToken hostName known.iotHubName fields
  iotHubSuffix := latest hostnameToken hostSuffix known.iotHubSuffix fields
  deviceId := latest deviceidToken id known.deviceId fields
  deviceKey := latest devicekeyToken id known.deviceKey fields
  deviceSasToken := latest devicesasToken id known.deviceSasToken fields
  protocolGatewayHostName :=
    latest protocolGatewayHost id known.protocolGatewayHostName fields
  isx509found := !(fieldsOf x509Token fields).isEmpty || known.isx509found
  useProvisioning :=
    !(fieldsOf provisioningToken fields).isEmpty || known.useProvisioning

theorem readHostName_of_splits {host : Bytes} (splits : SplitsHost host)
    (fields : ConnectionFields) :
    readHostName host fields =
      .again
        { fields with
          iotHubName := some (hostName host)
          iotHubSuffix := some (hostSuffix host) } := by
  have named : getNextToken [fullStop] host =
      (some (hostName host), hostSuffix host) := by
    obtain ⟨first, rest, rfl, starts⟩ := splits.starts
    rw [getNextToken_eq_some, nextToken,
      List.dropWhile_cons_of_neg (by simpa using starts)]
    rfl
  have suffixPlain : semicolon ∉ hostSuffix host := fun member =>
    splits.plain <| (List.dropWhile_suffix _).subset <|
      List.mem_of_mem_tail member
  have suffixed : getNextToken [semicolon] (hostSuffix host) =
      (some (hostSuffix host), []) :=
    getNextToken_eq_some.mpr
      (nextToken_last splits.suffix_nonempty suffixPlain)
  rw [readHostName, named]
  dsimp only
  rw [suffixed]

theorem collect_cons (field : Bytes × Bytes) (rest : List (Bytes × Bytes))
    (known : ConnectionFields) :
    known.collect (field :: rest) =
      (known.collect [field]).collect rest := by
  have occurs : ∀ (key : Bytes) (before : Bool),
      (!(fieldsOf key (field :: rest)).isEmpty || before) =
        (!(fieldsOf key rest).isEmpty ||
          (!(fieldsOf key [field]).isEmpty || before)) := by
    intro key before
    by_cases same : field.1 = key <;> simp [fieldsOf, same]
  simp only [ConnectionFields.collect, occurs]
  rfl

theorem readField_of_acceptable {field : Bytes × Bytes}
    (acceptable : Acceptable field) (known : ConnectionFields) :
    readField field known = .again (known.collect [field]) := by
  obtain ⟨token, value⟩ := field
  by_cases host : token = hostnameToken
  · subst host
    rw [readField, if_pos rfl, readHostName_of_splits (acceptable.host rfl)]
    rfl
  by_cases device : token = deviceidToken
  · subst device
    rfl
  by_cases deviceKey : token = devicekeyToken
  · subst deviceKey
    rfl
  by_cases sas : token = devicesasToken
  · subst sas
    rfl
  by_cases certificate : token = x509Token
  · subst certificate
    rw [show value = x509TokenOnlyAcceptableValue from
      acceptable.certificate rfl]
    rfl
  by_cases provisioning : token = provisioningToken
  · subst provisioning
    rw [show value = provisioningAcceptableValue from
      acceptable.provisioning rfl]
    rfl
  by_cases gateway : token = protocolGatewayHost
  · subst gateway
    rfl
  simp [readField, ConnectionFields.collect, latest, fieldsOf, host, device,
    deviceKey, sas, certificate, provisioning, gateway]

theorem run_readField_of_acceptable {fields : List (Bytes × Bytes)}
    (acceptable : ∀ field ∈ fields, Acceptable field)
    (known : ConnectionFields) :
    run readField fields known = .again (known.collect fields) := by
  induction fields generalizing known with
  | nil => simp [run, ConnectionFields.collect, latest, fieldsOf]
  | cons field rest inductionHypothesis =>
      rw [run_cons_again (readField_of_acceptable
          (acceptable field List.mem_cons_self) known),
        inductionHypothesis fun other member =>
          acceptable other (List.mem_cons_of_mem _ member),
        ← collect_cons]

/-- Only the fields with a known token matter, and for each token their
order. -/
theorem collect_congr {left right : List (Bytes × Bytes)}
    (same : ∀ token ∈ knownTokens, fieldsOf token left = fieldsOf token right)
    (known : ConnectionFields) : known.collect left = known.collect right := by
  have values : ∀ token ∈ knownTokens, ∀ (view : Bytes → Bytes) before,
      latest token view before left = latest token view before right := by
    intro token member view before
    rw [← latest_fieldsOf, same token member, latest_fieldsOf]
  simp only [knownTokens, List.forall_mem_cons] at same values
  obtain ⟨host, device, deviceKey, sas, _, _, gateway, _⟩ := values
  obtain ⟨_, _, _, _, certificate, provisioning, _, _⟩ := same
  simp only [ConnectionFields.collect, host, device, deviceKey, sas, gateway,
    certificate, provisioning]

/-- A value that ends with its field. -/
structure FieldValue where
  text : Bytes
  nonempty : text ≠ []
  plain : semicolon ∉ text

/-- The part of a host name in front of its first dot. -/
structure HubName extends FieldValue where
  undotted : fullStop ∉ text

/-- How a device logs in. -/
inductive Credential where
  | sharedAccessKey (value : FieldValue)
  | sharedAccessSignature (value : FieldValue)
  | x509
  | provisioning

/-- What a connection string is for. -/
structure HubIdentity where
  iotHubName : HubName
  iotHubSuffix : FieldValue
  deviceId : FieldValue
  credential : Credential
  gateway : Option FieldValue

def Credential.field : Credential → Bytes × Bytes
  | .sharedAccessKey value => (devicekeyToken, value.text)
  | .sharedAccessSignature value => (devicesasToken, value.text)
  | .x509 => (x509Token, x509TokenOnlyAcceptableValue)
  | .provisioning => (provisioningToken, provisioningAcceptableValue)

def Credential.deviceKey : Credential → Option Bytes
  | .sharedAccessKey value => some value.text
  | _ => none

def Credential.deviceSasToken : Credential → Option Bytes
  | .sharedAccessSignature value => some value.text
  | _ => none

def Credential.useProvisioning : Credential → Bool
  | .provisioning => true
  | _ => false

/-- How a client logs in with it; there is no provisioning module. -/
def Credential.authorization (deviceId : Bytes) :
    Credential → Option Authorization
  | .sharedAccessKey value =>
      some ⟨deviceId, some value.text, none, .deviceKey⟩
  | .sharedAccessSignature value =>
      some ⟨deviceId, none, some value.text, .sasToken⟩
  | .x509 => some ⟨deviceId, none, none, .unknown⟩
  | .provisioning => none

namespace HubIdentity

variable (identity : HubIdentity)

def host : Bytes :=
  identity.iotHubName.text ++ fullStop :: identity.iotHubSuffix.text

def fields : List (Bytes × Bytes) :=
  [(hostnameToken, identity.host), (deviceidToken, identity.deviceId.text),
    identity.credential.field] ++
    (identity.gateway.map fun value =>
      (protocolGatewayHost, value.text)).toList

def config : HubConfig where
  iotHubName := identity.iotHubName.text
  iotHubSuffix := identity.iotHubSuffix.text
  deviceId := identity.deviceId.text
  deviceKey := identity.credential.deviceKey
  deviceSasToken := identity.credential.deviceSasToken
  protocolGatewayHostName := identity.gateway.map fun value => value.text
  useProvisioning := identity.credential.useProvisioning

def endpoint : Bytes :=
  match identity.gateway with
  | some gateway => gateway.text
  | none => identity.host

def client : Option ClientHandle :=
  (identity.credential.authorization identity.deviceId.text).map
    fun authorization =>
      ⟨identity.config, authorization, identity.endpoint⟩

theorem initializeIothubClient_config :
    initializeIothubClient identity.config = identity.client := by
  obtain ⟨_, _, _, credential, gateway⟩ := identity
  cases credential <;> cases gateway <;> rfl

theorem hostName_host :
    hostName identity.host = identity.iotHubName.text := by
  rw [hostName, host,
    (takeWhile_of_not_mem identity.iotHubName.undotted _).1,
    List.takeWhile_cons_of_neg (by simp), List.append_nil]

theorem hostSuffix_host :
    hostSuffix identity.host = identity.iotHubSuffix.text := by
  rw [hostSuffix, host,
    (takeWhile_of_not_mem identity.iotHubName.undotted _).2,
    List.dropWhile_cons_of_neg (by simp), List.tail_cons]

theorem splitsHost : SplitsHost identity.host where
  starts := by
    obtain ⟨first, rest, name⟩ :=
      List.exists_cons_of_ne_nil identity.iotHubName.nonempty
    refine ⟨first, rest ++ fullStop :: identity.iotHubSuffix.text,
      by rw [host, name, List.cons_append], ?_⟩
    rintro rfl
    exact identity.iotHubName.undotted (name ▸ List.mem_cons_self)
  suffix_nonempty := by
    rw [hostSuffix_host]
    exact identity.iotHubSuffix.nonempty
  plain := by
    rw [host, List.mem_append, List.mem_cons]
    rintro (inName | dot | inSuffix)
    · exact identity.iotHubName.plain inName
    · exact absurd dot (by decide)
    · exact identity.iotHubSuffix.plain inSuffix

theorem acceptable {field : Bytes × Bytes}
    (member : field ∈ identity.fields) : Acceptable field := by
  have splits := identity.splitsHost
  obtain ⟨name, suffix, device, credential, gateway⟩ := identity
  rcases List.mem_append.mp member with first | last
  · simp only [List.mem_cons, List.not_mem_nil, or_false] at first
    rcases first with rfl | rfl | rfl
    · exact ⟨fun _ => splits, by rintro ⟨⟩, by rintro ⟨⟩⟩
    · exact ⟨by rintro ⟨⟩, by rintro ⟨⟩, by rintro ⟨⟩⟩
    · cases credential with
      | sharedAccessKey value =>
          exact ⟨by rintro ⟨⟩, by rintro ⟨⟩, by rintro ⟨⟩⟩
      | sharedAccessSignature value =>
          exact ⟨by rintro ⟨⟩, by rintro ⟨⟩, by rintro ⟨⟩⟩
      | x509 => exact ⟨by rintro ⟨⟩, fun _ => rfl, by rintro ⟨⟩⟩
      | provisioning => exact ⟨by rintro ⟨⟩, by rintro ⟨⟩, fun _ => rfl⟩
  · cases gateway with
    | none => cases last
    | some value =>
        rw [Option.map_some, Option.toList_some, List.mem_singleton] at last
        subst last
        exact ⟨by rintro ⟨⟩, by rintro ⟨⟩, by rintro ⟨⟩⟩

theorem collect_config :
    (ConnectionFields.empty.collect identity.fields).config =
      some identity.config := by
  have name := identity.hostName_host
  have suffix := identity.hostSuffix_host
  have collected : (ConnectionFields.empty.collect identity.fields).config =
      some
        { identity.config with
          iotHubName := hostName identity.host
          iotHubSuffix := hostSuffix identity.host } := by
    obtain ⟨_, _, _, credential, gateway⟩ := identity
    cases credential <;> cases gateway <;> rfl
  rw [collected, name, suffix]
  rfl

theorem tokens_distinct : (identity.fields.map Prod.fst).Nodup := by
  obtain ⟨_, _, _, credential, gateway⟩ := identity
  cases credential <;> cases gateway <;>
    simp only [fields, Credential.field, Option.map_none, Option.map_some,
      Option.toList_none, Option.toList_some, List.map_cons, List.map_nil,
      List.cons_append, List.nil_append, List.append_nil] <;>
    decide

end HubIdentity

/-- These fields, and others that the client does not know, in any order. -/
structure Describes (fields : List (Bytes × Bytes))
    (identity : HubIdentity) : Prop where
  readable : ∀ field ∈ fields, Readable equalsSign semicolon field
  rearranged : (fields.filter fun field => field.1 ∈ knownTokens).Perm
    identity.fields

namespace Describes

variable {fields : List (Bytes × Bytes)} {identity : HubIdentity}
variable (describes : Describes fields identity)
include describes

theorem fieldsOf_eq {token : Bytes} (known : token ∈ knownTokens) :
    fieldsOf token fields = fieldsOf token identity.fields := by
  have filtered : fieldsOf token
      (fields.filter fun field => field.1 ∈ knownTokens) =
        fieldsOf token fields := by
    rw [fieldsOf, fieldsOf, List.filter_filter]
    refine List.filter_congr fun field _ => ?_
    by_cases same : field.1 = token
    · simpa [same] using known
    · simp [same]
  rw [← filtered]
  exact fieldsOf_eq_of_perm token describes.rearranged
    identity.tokens_distinct

theorem acceptable {field : Bytes × Bytes} (member : field ∈ fields) :
    Acceptable field := by
  by_cases known : field.1 ∈ knownTokens
  · exact identity.acceptable (describes.rearranged.mem_iff.mp
      (List.mem_filter.mpr ⟨member, by simpa using known⟩))
  · refine ⟨fun same => ?_, fun same => ?_, fun same => ?_⟩ <;>
      exact absurd (by rw [same]; decide) known

end Describes

theorem config_of_describes {fields : List (Bytes × Bytes)}
    {identity : HubIdentity} (describes : Describes fields identity) :
    (readConnectionFields (writePairs equalsSign semicolon fields)
        .empty).config =
      some identity.config := by
  have collected := collect_congr
    (fun token known => describes.fieldsOf_eq known) .empty
  rw [readConnectionFields_eq, readPairs_writePairs describes.readable,
    run_readField_of_acceptable fun field member =>
      describes.acceptable member, Reading.fields, collected,
    identity.collect_config]

theorem client_of_describes {fields : List (Bytes × Bytes)}
    {identity : HubIdentity} (describes : Describes fields identity) :
    createFromConnectionString
        (some (writePairs equalsSign semicolon fields)) =
      identity.client := by
  rw [createFromConnectionString, Option.bind_some,
    config_of_describes describes, Option.bind_some,
    identity.initializeIothubClient_config]

/-- In whatever order and between whatever other fields an identity is
written, the client is the one of this identity. -/
theorem createFromConnectionString_describes {fields : List (Bytes × Bytes)}
    {identity : HubIdentity} (describes : Describes fields identity) :
    createFromConnectionString
        (some (writePairs equalsSign semicolon fields)) =
      identity.client :=
  client_of_describes describes

/-! The fields of a device in an unusual order, with one the client does not
know. -/

def deskIdentity : HubIdentity where
  iotHubName := ⟨⟨bytesOf "hub", by decide, by decide⟩, by decide⟩
  iotHubSuffix := ⟨bytesOf "azure-devices.net", by decide, by decide⟩
  deviceId := ⟨bytesOf "desk", by decide, by decide⟩
  credential := .sharedAccessKey ⟨bytesOf "a2V5Cg==", by decide, by decide⟩
  gateway := none

def deskFields : List (Bytes × Bytes) :=
  [(deviceidToken, bytesOf "desk"), (bytesOf "Site", bytesOf "floor=2"),
    (devicekeyToken, bytesOf "a2V5Cg=="),
    (hostnameToken, bytesOf "hub.azure-devices.net")]

theorem describes_desk : Describes deskFields deskIdentity where
  readable := by
    simp only [deskFields, List.forall_mem_cons]
    refine ⟨?_, ?_, ?_, ?_, by rintro _ ⟨⟩⟩ <;>
      exact ⟨by decide, by decide, by decide, by decide⟩
  rearranged := by decide +kernel

def deskClient : ClientHandle where
  config := deskIdentity.config
  authorization :=
    ⟨bytesOf "desk", some (bytesOf "a2V5Cg=="), none, .deviceKey⟩
  hostName := bytesOf "hub.azure-devices.net"

theorem deskIdentity_client : deskIdentity.client = some deskClient := by
  decide

theorem deskFields_configure :
    createFromConnectionString
        (some (writePairs equalsSign semicolon deskFields)) =
      some deskClient :=
  (createFromConnectionString_describes describes_desk).trans
    deskIdentity_client

/-- The key of `GetDeviceId` begins the field of the device and no other. -/
theorem isPrefixOf_writePair {field : Bytes × Bytes}
    (plain : equalsSign ∉ field.1) :
    deviceIdKey.isPrefixOf (writePair equalsSign field) =
      decide (field.1 = deviceidToken) := by
  have key : deviceIdKey = deviceidToken ++ [equalsSign] := rfl
  have cut : ∀ token behind : Bytes, equalsSign ∉ token →
      (token ++ equalsSign :: behind).takeWhile (· ≠ equalsSign) =
        token := by
    intro token behind absent
    rw [(takeWhile_of_not_mem absent _).1,
      List.takeWhile_cons_of_neg (by simp), List.append_nil]
  rw [Bool.eq_iff_iff, List.isPrefixOf_iff_prefix, decide_eq_true_eq]
  refine ⟨fun ⟨behind, whole⟩ => ?_, fun same => ⟨field.2, ?_⟩⟩
  · rw [key, writePair, List.append_assoc, List.cons_append,
      List.nil_append] at whole
    rw [← cut field.1 field.2 plain, ← whole]
    exact cut deviceidToken behind (by decide)
  · rw [key, writePair, same, List.append_assoc]
    rfl

namespace Describes

variable {fields : List (Bytes × Bytes)} {identity : HubIdentity}
variable (describes : Describes fields identity)
include describes

theorem fields_nonempty : fields ≠ [] := by
  rintro rfl
  have empty := describes.rearranged.symm.eq_nil
  exact absurd empty (List.cons_ne_nil _ _)

/-- `GetDeviceId` finds the device the client is configured with. -/
theorem referenceDeviceId_eq (plain : ∀ field ∈ fields, semicolon ∉ field.1) :
    referenceDeviceId (writePairs equalsSign semicolon fields) =
      some identity.deviceId.text := by
  have whole : ∀ field ∈ fields,
      semicolon ∉ writePair equalsSign field := by
    intro field member inField
    rw [writePair, List.mem_append, List.mem_cons] at inField
    rcases inField with inKey | same | inValue
    · exact plain field member inKey
    · exact absurd same (by decide)
    · exact (describes.readable field member).value_plain inValue
  have found : fields.find?
      (deviceIdKey.isPrefixOf ∘ writePair equalsSign) =
        some (deviceidToken, identity.deviceId.text) := by
    have tested : ∀ field ∈ fields,
        (deviceIdKey.isPrefixOf ∘ writePair equalsSign) field =
          decide (field.1 = deviceidToken) := fun field member =>
      isPrefixOf_writePair (describes.readable field member).key_plain
    rw [List.find?_congr tested, ← List.head?_filter]
    change (fieldsOf deviceidToken fields).head? = _
    rw [describes.fieldsOf_eq (by decide)]
    rfl
  rw [referenceDeviceId, splitOn_writePairs describes.fields_nonempty whole,
    List.find?_map, found]
  rfl

end Describes

/-- A value that was read out of the text. -/
structure StoodIn (text value : Bytes) : Prop where
  nonempty : value ≠ []
  plain : semicolon ∉ value
  inside : value <:+: text

/-- Whatever the loop has collected stood in the text. -/
structure DrawnFrom (text : Bytes) (fields : ConnectionFields) : Prop where
  iotHubName : ∀ name ∈ fields.iotHubName,
    StoodIn text name ∧ fullStop ∉ name
  iotHubSuffix : ∀ suffix ∈ fields.iotHubSuffix, StoodIn text suffix
  deviceId : ∀ device ∈ fields.deviceId, StoodIn text device
  deviceKey : ∀ key ∈ fields.deviceKey, StoodIn text key
  deviceSasToken : ∀ token ∈ fields.deviceSasToken, StoodIn text token
  protocolGatewayHostName :
    ∀ gateway ∈ fields.protocolGatewayHostName, StoodIn text gateway

variable {text : Bytes}

theorem drawnFrom_empty : DrawnFrom text .empty := by
  constructor <;> rintro value ⟨⟩

theorem DrawnFrom.readHostName {host : Bytes} {fields : ConnectionFields}
    (drawn : DrawnFrom text fields) (stood : StoodIn text host) :
    DrawnFrom text (readHostName host fields).fields := by
  unfold Provisioning.readHostName
  split
  · exact drawn
  · rename_i name behind found
    have token := isToken_of_nextToken (getNextToken_eq_some.mp found)
    have named : StoodIn text name ∧ fullStop ∉ name :=
      ⟨⟨token.nonempty, fun member => stood.plain
        (token.inside.subset member), token.inside.trans stood.inside⟩,
        token.plain⟩
    dsimp only
    split
    · exact ⟨by rintro _ ⟨⟩; exact named, drawn.iotHubSuffix,
        drawn.deviceId, drawn.deviceKey, drawn.deviceSasToken,
        drawn.protocolGatewayHostName⟩
    · rename_i suffix rest suffixFound
      have suffixToken :=
        isToken_of_nextToken (getNextToken_eq_some.mp suffixFound)
      have inside := suffixToken.inside.trans token.remains.isInfix
      have suffixed : StoodIn text suffix :=
        ⟨suffixToken.nonempty, suffixToken.plain,
          inside.trans stood.inside⟩
      exact ⟨by rintro _ ⟨⟩; exact named, by rintro _ ⟨⟩; exact suffixed,
        drawn.deviceId, drawn.deviceKey, drawn.deviceSasToken,
        drawn.protocolGatewayHostName⟩

theorem DrawnFrom.readField {field : Bytes × Bytes}
    {fields : ConnectionFields} (drawn : DrawnFrom text fields)
    (stood : StoodIn text field.2) :
    DrawnFrom text (readField field fields).fields := by
  obtain ⟨name, suffix, device, deviceKey, sas, gateway⟩ := drawn
  obtain ⟨token, value⟩ := field
  unfold Provisioning.readField
  dsimp only
  split_ifs
  · exact DrawnFrom.readHostName
      ⟨name, suffix, device, deviceKey, sas, gateway⟩ stood
  · exact ⟨name, suffix, by rintro _ ⟨⟩; exact stood, deviceKey, sas, gateway⟩
  · exact ⟨name, suffix, device, by rintro _ ⟨⟩; exact stood, sas, gateway⟩
  · exact ⟨name, suffix, device, deviceKey, by rintro _ ⟨⟩; exact stood,
      gateway⟩
  · exact ⟨name, suffix, device, deviceKey, sas, gateway⟩
  · exact ⟨name, suffix, device, deviceKey, sas, gateway⟩
  · exact ⟨name, suffix, device, deviceKey, sas, gateway⟩
  · exact ⟨name, suffix, device, deviceKey, sas, gateway⟩
  · exact ⟨name, suffix, device, deviceKey, sas, by rintro _ ⟨⟩; exact stood⟩
  · exact ⟨name, suffix, device, deviceKey, sas, gateway⟩

theorem satisfies_iff (invariant : ConnectionFields → Prop)
    (reading : Reading) :
    reading.Satisfies invariant invariant ↔ invariant reading.fields := by
  cases reading <;> exact Iff.rfl

theorem drawnFrom_readConnectionFields (text : Bytes) :
    DrawnFrom text (readConnectionFields text .empty) := by
  have stood : ∀ field ∈ readPairs equalsSign semicolon text,
      StoodIn text field.2 := by
    intro field member
    obtain ⟨readable, _, inside⟩ := readable_of_mem_readPairs member
    exact ⟨readable.value_nonempty, readable.value_plain, inside⟩
  rw [readConnectionFields_eq, ← satisfies_iff (DrawnFrom text)]
  refine run_satisfies _ _ (fun fields field member drawn => ?_)
    drawnFrom_empty
  exact (satisfies_iff _ _).mpr (drawn.readField (stood field member))

def StoodIn.fieldValue {value : Bytes} (stood : StoodIn text value) :
    FieldValue :=
  ⟨value, stood.nonempty, stood.plain⟩

/-- The checked combination is one credential. -/
theorem exists_credential {fields : ConnectionFields}
    (drawn : DrawnFrom text fields) (combined : fields.combination = true) :
    ∃ credential : Credential, fields.deviceKey = credential.deviceKey ∧
      fields.deviceSasToken = credential.deviceSasToken ∧
      fields.useProvisioning = credential.useProvisioning := by
  obtain ⟨_, _, _, deviceKey, deviceSasToken, _, isx509found,
    useProvisioning⟩ := fields
  have keyStood := drawn.deviceKey
  have sasStood := drawn.deviceSasToken
  cases deviceKey with
  | some key =>
      cases deviceSasToken with
      | some sas => simp [ConnectionFields.combination] at combined
      | none =>
          simp only [ConnectionFields.combination] at combined
          cases useProvisioning with
          | true => simp at combined
          | false =>
              exact ⟨.sharedAccessKey (keyStood key rfl).fieldValue, rfl,
                rfl, rfl⟩
  | none =>
      cases deviceSasToken with
      | some sas =>
          simp only [ConnectionFields.combination] at combined
          cases useProvisioning with
          | true => simp at combined
          | false =>
              exact ⟨.sharedAccessSignature (sasStood sas rfl).fieldValue,
                rfl, rfl, rfl⟩
      | none =>
          cases useProvisioning with
          | true => exact ⟨.provisioning, rfl, rfl, rfl⟩
          | false => exact ⟨.x509, rfl, rfl, rfl⟩

theorem exists_gateway {found : Option Bytes}
    (stood : ∀ gateway ∈ found, StoodIn text gateway) :
    ∃ gateway : Option FieldValue,
      found = gateway.map fun value => value.text := by
  cases found with
  | none => exact ⟨none, rfl⟩
  | some gateway => exact ⟨some (stood gateway rfl).fieldValue, rfl⟩

def HubConfig.texts (config : HubConfig) : List Bytes :=
  [config.iotHubName, config.iotHubSuffix, config.deviceId] ++
    config.deviceKey.toList ++ config.deviceSasToken.toList ++
    config.protocolGatewayHostName.toList

theorem sound_of_config {config : HubConfig}
    (accepted : (readConnectionFields text .empty).config = some config) :
    (∃ identity : HubIdentity, config = identity.config) ∧
      ∀ part ∈ config.texts, part <:+: text := by
  have drawn := drawnFrom_readConnectionFields text
  generalize readConnectionFields text .empty = fields at accepted drawn
  unfold ConnectionFields.config at accepted
  split at accepted
  · rename_i name suffix device nameFound suffixFound deviceFound
    split at accepted
    · rename_i combined
      cases accepted
      obtain ⟨credential, deviceKey, sas, provisioning⟩ :=
        exists_credential drawn combined
      obtain ⟨nameStood, undotted⟩ := drawn.iotHubName name nameFound
      have suffixStood := drawn.iotHubSuffix suffix suffixFound
      have deviceStood := drawn.deviceId device deviceFound
      refine ⟨?_, ?_⟩
      · obtain ⟨gateway, same⟩ :=
          exists_gateway drawn.protocolGatewayHostName
        refine ⟨⟨⟨nameStood.fieldValue, undotted⟩, suffixStood.fieldValue,
          deviceStood.fieldValue, credential, gateway⟩, ?_⟩
        rw [deviceKey, sas, provisioning, same]
        rfl
      · intro part member
        simp only [HubConfig.texts, List.mem_append, List.mem_cons,
          List.not_mem_nil, or_false, Option.mem_toList] at member
        rcases member with
          (((rfl | rfl | rfl) | keyPart) | sasPart) | gatewayPart
        · exact nameStood.inside
        · exact suffixStood.inside
        · exact deviceStood.inside
        · exact (drawn.deviceKey part keyPart).inside
        · exact (drawn.deviceSasToken part sasPart).inside
        · exact (drawn.protocolGatewayHostName part gatewayPart).inside
    · cases accepted
  · cases accepted

/-- What is accepted says which hub, which device and one way to log in, all
of it read out of the text. -/
theorem createFromConnectionString_sound {client : ClientHandle}
    (accepted : createFromConnectionString (some text) = some client) :
    (∃ identity : HubIdentity, client.config = identity.config ∧
      identity.client = some client) ∧
      ∀ part ∈ client.config.texts, part <:+: text := by
  rw [createFromConnectionString, Option.bind_some,
    Option.bind_eq_some_iff] at accepted
  obtain ⟨config, checked, initialized⟩ := accepted
  obtain ⟨⟨identity, rfl⟩, drawn⟩ := sound_of_config checked
  rw [identity.initializeIothubClient_config] at initialized
  have same : client.config = identity.config := by
    obtain ⟨authorization, -, rfl⟩ := Option.map_eq_some_iff.mp initialized
    rfl
  rw [same]
  exact ⟨⟨identity, rfl, initialized⟩, drawn⟩

theorem deskFields_sound :
    (∃ identity : HubIdentity, deskClient.config = identity.config ∧
      identity.client = some deskClient) ∧
      ∀ part ∈ deskClient.config.texts,
        part <:+: writePairs equalsSign semicolon deskFields :=
  createFromConnectionString_sound
    ((client_of_describes describes_desk).trans deskIdentity_client)

/-- The form carries an identity that fits its array. -/
structure SubmitsIdentity (request : HttpRequest)
    (fields : List (Bytes × Bytes)) (identity : HubIdentity) : Prop where
  present : request.hasArg deviceInfoArg = true
  written : request.arg deviceInfoArg =
    writePairs equalsSign semicolon fields
  describes : Describes fields identity
  plain : ∀ field ∈ fields, semicolon ∉ field.1
  nonzero : ∀ byte ∈ request.arg deviceInfoArg, byte ≠ 0
  fits : (request.arg deviceInfoArg).length ≤ 179

theorem SubmitsIdentity.submitted {request : HttpRequest}
    {fields : List (Bytes × Bytes)} {identity : HubIdentity}
    (submits : SubmitsIdentity request fields identity) :
    cStr (request.arg deviceInfoArg) =
      writePairs equalsSign semicolon fields :=
  (cStr_eq_self submits.nonzero).trans submits.written

/-- Once an identity was submitted and saved, every boot logs in to its hub
as its device, and an access point bears the name of the same device. -/
theorem submittedIdentity_configures {F : Type} {board : Board F}
    {settings : Settings} {request : HttpRequest}
    {fields : List (Bytes × Bytes)} {identity : HubIdentity}
    (coherent : Coherent board.storage settings)
    (submits : SubmitsIdentity request fields identity) (heap : HeapView) :
    ∃ config,
      bootConfig heap
          (handleSetupSubmit .complete request board).1.storage.configFile =
        some config ∧
      createFromConnectionString
          (some (fieldText config connectionStringAddress)) =
        identity.client ∧
      ∀ ssid memory, ∃ after,
        initAccessPoint (fieldText config connectionStringAddress) ssid
            memory =
          some ⟨after, [idPart identity.deviceId.text ++ apSuffix]⟩ := by
  have text := submits.submitted
  have fits : (cStr (request.arg deviceInfoArg)).length ≤ 179 := by
    rw [cStr_eq_self submits.nonzero]
    exact submits.fits
  have saved := coherent_handleSetupSubmit submits.present fits coherent
  obtain ⟨config, booted, represents⟩ := saved.bootsWith heap
  have stored : fieldText config connectionStringAddress =
      writePairs equalsSign semicolon fields := by
    rw [represents.connectionString_eq (by decide)]
    exact text
  have reference := submits.describes.referenceDeviceId_eq submits.plain
  have nonempty : writePairs equalsSign semicolon fields ≠ [] := by
    intro empty
    rw [empty] at reference
    cases reference
  have nonzero : ∀ byte ∈ writePairs equalsSign semicolon fields,
      byte ≠ 0 := by
    rw [← submits.written]
    exact submits.nonzero
  refine ⟨config, booted, ?_, fun ssid memory => ?_⟩
  · rw [stored]
    exact client_of_describes submits.describes
  · have named := List.length_pos_of_ne_nil identity.deviceId.nonempty
    rw [stored, initAccessPoint_found nonzero nonempty ssid memory reference,
      if_pos named]
    exact ⟨_, rfl⟩

def deskRequest : HttpRequest where
  uri := bytesOf "/siotcs"
  args := [(deviceInfoArg, writePairs equalsSign semicolon deskFields)]

theorem submitsIdentity_desk :
    SubmitsIdentity deskRequest deskFields deskIdentity where
  present := by decide
  written := by decide +kernel
  describes := describes_desk
  plain := by decide +kernel
  nonzero := nonzero_of_all (by decide +kernel)
  fits := by decide +kernel

theorem deskIdentity_configures :
    ∃ config,
      bootConfig ⟨[], 0⟩
          (handleSetupSubmit .complete deskRequest
            (Board.powerUp none : Board ℚ)).1.storage.configFile =
        some config ∧
      createFromConnectionString
          (some (fieldText config connectionStringAddress)) =
        some deskClient := by
  have coherent : Coherent (Board.powerUp none : Board ℚ).storage
      factorySettings := coherent_factory
  obtain ⟨config, booted, configures, _⟩ :=
    submittedIdentity_configures coherent submitsIdentity_desk ⟨[], 0⟩
  exact ⟨config, booted, configures.trans deskIdentity_client⟩

end FunnelDispenser.Provisioning
