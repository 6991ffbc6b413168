import FunnelDispenser.Library.Numerals
import FunnelDispenser.Transport.HttpHeaders
import FunnelDispenser.Transport.UrlEncoding

/-!
# Tokens

Every request carries a token in its `Authorization` header: the resource of
the device, a signature made with its key, and the second the token expires.
The token is made anew for each request, if the clock can be read.
-/

namespace FunnelDispenser.Transport

open CMemory Decimal Numerals

/-- `HMACSHA256_ComputeHash`. -/
def computeHash (hmac : Bytes → Bytes → Bytes) (key payload : Bytes) :
    Option Bytes :=
  if key.isEmpty || payload.isEmpty then none else some (hmac key payload)

def toBeHashed (scope tokenExpirationTime : Bytes) : Bytes :=
  scope ++ 10 :: tokenExpirationTime

/-- The text `construct_sas_token` puts together. -/
def sasTokenText (scope signature tokenExpirationTime : Bytes)
    (keyname : Option Bytes) : Bytes :=
  bytesOf "SharedAccessSignature sr=" ++ scope ++ bytesOf "&sig=" ++
    signature ++ bytesOf "&se=" ++ tokenExpirationTime ++
      match keyname with
      | some name => bytesOf "&skn=" ++ name
      | none => []

def constructSasToken (hmac : Bytes → Bytes → Bytes) (stale : Nat → UInt8)
    (key scope : Bytes) (keyname : Option Bytes) (expiry : BitVec 32) :
    Option Bytes :=
  match base64Decoder stale key with
  | .decoded decodedKey =>
      let tokenExpirationTime := printNat expiry.toNat
      (computeHash hmac decodedKey
          (toBeHashed scope tokenExpirationTime)).map
        fun hash => sasTokenText scope (urlEncode (base64Encode hash))
          tokenExpirationTime keyname
  | _ => none

structure SasState where
  key : Bytes
  uriResource : Bytes
  keyName : Option Bytes
deriving DecidableEq, Repr

def createDeviceSasObject (hostName deviceId deviceKey : Bytes) :
    SasState where
  key := deviceKey
  uriResource := hostName ++ bytesOf "/devices/" ++ urlEncode deviceId
  keyName := some []

/-- `HTTPHeaders_ReplaceHeaderNameValuePair`; an invalid name changes
nothing. -/
def replaceHeaderNameValuePair (name value : Bytes) (headers : PropertyMap) :
    PropertyMap :=
  if name.all nameByte then
    addOrUpdate name (value.dropWhile isLws) headers
  else
    headers

def authorizationName : Bytes := bytesOf "Authorization"

/-- The part of `HTTPAPIEX_SAS_ExecuteRequest` in front of the request.
`currentTime` is `none` without a clock. -/
def refreshAuthorization (hmac : Bytes → Bytes → Bytes) (stale : Nat → UInt8)
    (sas : SasState) (currentTime : Option Nat) (headers : PropertyMap) :
    PropertyMap :=
  match getValueFromKey authorizationName headers, currentTime with
  | some _, some time =>
      match constructSasToken hmac stale sas.key sas.uriResource sas.keyName
          (BitVec.ofNat 32 (time + 3600)) with
      | some token => replaceHeaderNameValuePair authorizationName token headers
      | none => headers
  | _, _ => headers

/-- `buildRequestHttpHeadersHandle` for headers that are given. -/
def buildRequestHeaders (hostName : Bytes) (contentLength : Nat)
    (headers : PropertyMap) : PropertyMap :=
  replaceHeaderNameValuePair (bytesOf "Content-Length")
    (printNat contentLength)
    (replaceHeaderNameValuePair (bytesOf "Host") hostName headers)

/-- `create_messageHTTPrequestHeaders`. -/
def createMessageHeaders (userAgent : Bytes) : PropertyMap :=
  addHeaderNameValuePair authorizationName [32]
    (addHeaderNameValuePair (bytesOf "User-Agent") userAgent [])

/-- One request: the reading of the clock, and what the heap holds where the
key is decoded to. -/
structure SasRequest where
  currentTime : Option Nat
  stale : Nat → UInt8

/-- The headers that stay from request to request, behind each of them. -/
def headersRun (hmac : Bytes → Bytes → Bytes) (sas : SasState)
    (hostName : Bytes) : List SasRequest → PropertyMap → List PropertyMap
  | [], _ => []
  | request :: rest, headers =>
      let sent := buildRequestHeaders hostName 0
        (refreshAuthorization hmac request.stale sas request.currentTime
          headers)
      sent :: headersRun hmac sas hostName rest sent

theorem ascii_base64Encode (bytes : Bytes) :
    ∀ byte ∈ base64Encode bytes, byte < 0x80 := by
  have known : ∀ byte : UInt8, isBase64 byte = true → byte < 0x80 :=
    forall_byte (by decide +kernel)
  obtain ⟨front, count, shape, plain, -, -⟩ := base64Encode_shape bytes
  intro byte member
  rw [shape] at member
  rcases List.mem_append.mp member with inside | padding
  · exact known byte (List.all_eq_true.mp plain byte inside)
  · rw [List.eq_of_mem_replicate padding]
    decide

theorem getValueFromKey_addOrUpdate (key name value : Bytes)
    (map : PropertyMap) :
    getValueFromKey key (addOrUpdate name value map) =
      if name = key then some value else getValueFromKey key map := by
  induction map with
  | nil =>
      rw [addOrUpdate]
      by_cases same : name = key
      · simp [getValueFromKey, same]
      · simp [getValueFromKey, same]
  | cons entry rest inductionHypothesis =>
      simp only [getValueFromKey] at inductionHypothesis ⊢
      rw [addOrUpdate]
      by_cases here : entry.1 = name
      · rw [if_pos here]
        by_cases same : name = key
        · simp [same]
        · have other : entry.1 ≠ key := here ▸ same
          simp [same, other]
      · rw [if_neg here]
        by_cases asked : entry.1 = key
        · have other : name ≠ key := fun same => here (asked.trans same.symm)
          simp [asked, other]
        · rw [List.find?_cons_of_neg (by simpa using asked),
            List.find?_cons_of_neg (by simpa using asked)]
          exact inductionHypothesis

theorem authorization_buildRequestHeaders (hostName : Bytes)
    (contentLength : Nat) (headers : PropertyMap) :
    getValueFromKey authorizationName
        (buildRequestHeaders hostName contentLength headers) =
      getValueFromKey authorizationName headers := by
  have host : bytesOf "Host" ≠ authorizationName := by decide
  have length : bytesOf "Content-Length" ≠ authorizationName := by decide
  have hostValid : (bytesOf "Host").all nameByte = true := by decide
  have lengthValid : (bytesOf "Content-Length").all nameByte = true := by
    decide
  rw [buildRequestHeaders, replaceHeaderNameValuePair, if_pos lengthValid,
    getValueFromKey_addOrUpdate, if_neg length, replaceHeaderNameValuePair,
    if_pos hostValid, getValueFromKey_addOrUpdate, if_neg host]

/-- A key that is the same whatever the heap holds. -/
def DecodesTo (keyText key : Bytes) : Prop :=
  key ≠ [] ∧ ∀ stale, base64Decoder stale keyText = .decoded key

def tokenAt (hmac : Bytes → Bytes → Bytes) (scope key : Bytes) (time : Nat) :
    Bytes :=
  sasTokenText scope
    (urlEncode (base64Encode
      (hmac key (toBeHashed scope (printNat (time + 3600))))))
    (printNat (time + 3600)) (some [])

theorem constructSasToken_eq (hmac : Bytes → Bytes → Bytes)
    (stale : Nat → UInt8) {keyText key : Bytes}
    (decodes : DecodesTo keyText key) (scope : Bytes) {time : Nat}
    (bound : time + 3600 < 2 ^ 32) :
    constructSasToken hmac stale keyText scope (some [])
        (BitVec.ofNat 32 (time + 3600)) =
      some (tokenAt hmac scope key time) := by
  obtain ⟨nonempty, decoded⟩ := decodes
  have expiry : (BitVec.ofNat 32 (time + 3600)).toNat = time + 3600 := by
    rw [BitVec.toNat_ofNat, Nat.mod_eq_of_lt bound]
  have payload : (toBeHashed scope (printNat (time + 3600))).isEmpty =
      false := by
    simp [toBeHashed]
  have keyPresent : key.isEmpty = false := by
    rw [List.isEmpty_eq_false_iff]
    exact nonempty
  simp only [constructSasToken, decoded stale, expiry, computeHash, payload,
    keyPresent, Bool.or_self, Bool.false_eq_true, if_false, Option.map_some]
  rfl

def latestReading (known : Option Nat) (request : SasRequest) : Option Nat :=
  request.currentTime.or known

def readingsRun : Option Nat → List SasRequest → List (Option Nat)
  | _, [] => []
  | known, request :: rest =>
      latestReading known request ::
        readingsRun (latestReading known request) rest

/-- What the `Authorization` header holds. -/
def authorizationAt (hmac : Bytes → Bytes → Bytes) (scope key : Bytes) :
    Option Nat → Bytes
  | none => []
  | some time => tokenAt hmac scope key time

/-- A request without a clock repeats the token before. -/
theorem authorization_refresh (hmac : Bytes → Bytes → Bytes)
    {sas : SasState} {key : Bytes} (decodes : DecodesTo sas.key key)
    (unnamed : sas.keyName = some []) {request : SasRequest}
    (inRange : ∀ time, request.currentTime = some time →
      time + 3600 < 2 ^ 32)
    {known : Option Nat} {headers : PropertyMap}
    (holds : getValueFromKey authorizationName headers =
      some (authorizationAt hmac sas.uriResource key known)) :
    getValueFromKey authorizationName
        (refreshAuthorization hmac request.stale sas request.currentTime
          headers) =
      some (authorizationAt hmac sas.uriResource key
        (latestReading known request)) := by
  rw [latestReading]
  cases clock : request.currentTime with
  | none =>
      simp only [refreshAuthorization, holds, Option.none_or]
  | some time =>
      have token := constructSasToken_eq hmac request.stale decodes
        sas.uriResource (inRange time clock)
      have valid : authorizationName.all nameByte = true := by decide
      have solid : (tokenAt hmac sas.uriResource key time).dropWhile isLws =
          tokenAt hmac sas.uriResource key time :=
        rfl
      simp only [refreshAuthorization, holds, unnamed, token,
        replaceHeaderNameValuePair, if_pos valid, solid,
        getValueFromKey_addOrUpdate, if_true, Option.some_or]
      rfl

/-- The header says `Authorization` with an empty value at first. -/
theorem authorization_createMessageHeaders (userAgent : Bytes) :
    getValueFromKey authorizationName (createMessageHeaders userAgent) =
      some [] := by
  have valid : authorizationName.all nameByte = true := by decide
  have agentValid : (bytesOf "User-Agent").all nameByte = true := by decide
  have agent : bytesOf "User-Agent" ≠ authorizationName := by decide
  have missing : getValueFromKey authorizationName
      (addHeaderNameValuePair (bytesOf "User-Agent") userAgent []) =
        none := by
    rw [addHeaderNameValuePair, if_pos agentValid]
    exact (getValueFromKey_addOrUpdate _ _ _ []).trans (if_neg agent)
  rw [createMessageHeaders, addHeaderNameValuePair, if_pos valid]
  simp only [missing]
  rw [getValueFromKey_addOrUpdate, if_pos rfl]
  rfl

/-- Each request carries the token of the last reading known. -/
theorem authorization_headersRun (hmac : Bytes → Bytes → Bytes)
    {sas : SasState} {key : Bytes} (decodes : DecodesTo sas.key key)
    (unnamed : sas.keyName = some []) (hostName : Bytes)
    (requests : List SasRequest)
    (inRange : ∀ request ∈ requests, ∀ time,
      request.currentTime = some time → time + 3600 < 2 ^ 32)
    {known : Option Nat} {headers : PropertyMap}
    (holds : getValueFromKey authorizationName headers =
      some (authorizationAt hmac sas.uriResource key known)) :
    (headersRun hmac sas hostName requests headers).map
        (getValueFromKey authorizationName) =
      (readingsRun known requests).map
        fun reading => some (authorizationAt hmac sas.uriResource key
          reading) := by
  induction requests generalizing known headers with
  | nil => rfl
  | cons request rest inductionHypothesis =>
      have refreshed := authorization_refresh hmac decodes unnamed
        (inRange request List.mem_cons_self) holds
      rw [← authorization_buildRequestHeaders hostName 0] at refreshed
      have later := inductionHypothesis
        (fun other member => inRange other (List.mem_cons_of_mem _ member))
        refreshed
      rw [headersRun, readingsRun, List.map_cons, List.map_cons, later,
        refreshed]

/-- The value signs this resource and expiry with this key. -/
def Signs (hmac : Bytes → Bytes → Bytes) (key resource expiry : Bytes)
    (signature : Bytes) : Prop :=
  ∃ text, urlDecode signature = .decoded text ∧
    ∀ stale, base64Decoder stale text =
      .decoded (hmac key (resource ++ 10 :: expiry))

/-- The `Authorization` header is empty before the clock was read, then it
expires an hour behind its last reading. -/
def CarriesToken (hmac : Bytes → Bytes → Bytes) (key resource : Bytes)
    (headers : PropertyMap) : Option Nat → Prop
  | none => getValueFromKey authorizationName headers = some []
  | some time =>
      ∃ signature,
        getValueFromKey authorizationName headers =
            some (bytesOf "SharedAccessSignature sr=" ++ resource ++
              bytesOf "&sig=" ++ signature ++ bytesOf "&se=" ++
              printNat (time + 3600) ++ bytesOf "&skn=") ∧
          (38 : UInt8) ∉ signature ∧
          Signs hmac key resource (printNat (time + 3600)) signature

theorem carriesToken_of_authorization (hmac : Bytes → Bytes → Bytes)
    {key resource : Bytes} {headers : PropertyMap} {reading : Option Nat}
    (holds : getValueFromKey authorizationName headers =
      some (authorizationAt hmac resource key reading)) :
    CarriesToken hmac key resource headers reading := by
  cases reading with
  | none => exact holds
  | some time =>
      refine ⟨urlEncode (base64Encode (hmac key
        (toBeHashed resource (printNat (time + 3600))))), ?_,
        fun member => (plain_urlEncode _ 38 member).1 rfl,
        _, urlDecode_urlEncode (ascii_base64Encode _),
        fun stale => decoded_base64Encode stale _⟩
      rw [holds, authorizationAt, tokenAt, sasTokenText]
      simp

/-- From the registration on, every request of a device carries its resource,
the expiry and their signature. -/
theorem requests_carryToken (hmac : Bytes → Bytes → Bytes)
    {deviceKey key : Bytes} (decodes : DecodesTo deviceKey key)
    (hostName deviceId userAgent : Bytes) (requests : List SasRequest)
    (inRange : ∀ request ∈ requests, ∀ time,
      request.currentTime = some time → time + 3600 < 2 ^ 32) :
    List.Forall₂
      (CarriesToken hmac key
        (hostName ++ bytesOf "/devices/" ++ urlEncode deviceId))
      (headersRun hmac (createDeviceSasObject hostName deviceId deviceKey)
        hostName requests (createMessageHeaders userAgent))
      (readingsRun none requests) := by
  have decodesHere : DecodesTo
      (createDeviceSasObject hostName deviceId deviceKey).key key := decodes
  have start : getValueFromKey authorizationName
      (createMessageHeaders userAgent) =
        some (authorizationAt hmac
          (createDeviceSasObject hostName deviceId deviceKey).uriResource key
          none) :=
    authorization_createMessageHeaders userAgent
  have carried := authorization_headersRun hmac decodesHere rfl hostName
    requests inRange start
  have pairs : List.Forall₂
      (fun headers reading => getValueFromKey authorizationName headers =
        some (authorizationAt hmac
          (hostName ++ bytesOf "/devices/" ++ urlEncode deviceId) key
          reading)) _ _ :=
    List.forall₂_map_left_iff.mp
      (List.forall₂_map_right_iff.mp (List.forall₂_eq_eq_eq ▸ carried))
  exact pairs.imp fun headers reading sent =>
    carriesToken_of_authorization hmac sent

/-! The first request comes before the clock is set, the third one when it
fails again. -/

def deskKeyText : Bytes := bytesOf "a2V5Cg=="

def deskHost : Bytes := bytesOf "hub.azure-devices.net"

/-- The signature at the one time that is asked for. -/
def deskHmac (key payload : Bytes) : Bytes :=
  if key = bytesOf "key\n" ∧
      payload = bytesOf "hub.azure-devices.net/devices/desk\n1559394000" then
    [191, 122, 141, 118, 14, 175, 63, 230, 41, 230, 182, 249, 123, 73,
    177, 150, 192, 184, 87, 4, 34, 155, 20, 41, 19, 249, 37, 118, 165,
    54, 170, 130]
  else
    []

def deskRequests : List SasRequest :=
  [⟨none, fun _ => 7⟩, ⟨some 1559390400, fun _ => 8⟩, ⟨none, fun _ => 9⟩]

theorem deskRequests_carryToken :
    List.Forall₂
      (CarriesToken deskHmac (bytesOf "key\n")
        (deskHost ++ bytesOf "/devices/" ++ urlEncode (bytesOf "desk")))
      (headersRun deskHmac
        (createDeviceSasObject deskHost (bytesOf "desk") deskKeyText) deskHost
        deskRequests (createMessageHeaders (bytesOf "agent")))
      [none, some 1559390400, some 1559390400] := by
  have decodes : DecodesTo deskKeyText (bytesOf "key\n") :=
    ⟨by decide, fun stale => rfl⟩
  have inRange : ∀ request ∈ deskRequests, ∀ time,
      request.currentTime = some time → time + 3600 < 2 ^ 32 := by
    simp [deskRequests]
  exact requests_carryToken deskHmac decodes deskHost (bytesOf "desk")
    (bytesOf "agent") deskRequests inRange

end FunnelDispenser.Transport
