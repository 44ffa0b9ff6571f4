import Typescribe.Json.Encoding
import Typescribe.Rest.Address
import Typescribe.Rest.Transport
import Typescribe.Snapshot.Loading
import Typescribe.Text.Base64

/-!
This module contains the reading of resources from the REST interface of a server.
-/

namespace Typescribe.Rest

variable {σ : Type}

/-- A server, and the token with which it is asked. -/
structure Client (σ : Type) where
  baseUrl : String
  token : Option String := none
  transport : Transport σ

namespace Client

def address (client : Client σ) : Except Cause Address :=
  let trimmed := (client.baseUrl.toList.reverse.dropWhile (· = '/')).reverse
  match Address.server? (String.ofList trimmed) with
  | some address => .ok address
  | none => .error .invalidUrl

/-- What the token is sent as; an empty token counts as none. -/
def bearer (client : Client σ) : Except Cause (Option String) :=
  match client.token with
  | none => .ok none
  | some token =>
    if token.isEmpty then .ok none
    else if token.toList.any (0x80 ≤ ·.toNat) then .error .unencodableText
    else .ok (some ("Bearer " ++ token))

def basic (name password : List Char) : String :=
  "Basic " ++ String.ofList (Text.base64Encode (Text.encodeUtf8 (name ++ ':' :: password)))

/-- What a request is authorized with: name and password of its address win over the token. -/
def authorization (address : Address) (bearer : Option String) : Option String :=
  let (name, password) := Address.splitMarked ':' address.userInfo
  let name := Text.percentReplace name
  let password := Text.percentReplace (password.getD [])
  if name.isEmpty && password.isEmpty then bearer else some (basic name password)

def target (client : Client σ) (path : String) : Except Cause (Address × Option String) := do
  let server ← client.address
  let bearer ← client.bearer
  match server.resolve? path with
  | none => .error .invalidUrl
  | some address =>
    address.checkHost
    return (address, authorization address bearer)

def requestFor (address : Address) (authorization : Option String) : Request where
  url := address.text
  rawPath := String.ofList address.rawPath
  accept := "application/json"
  authorization := authorization

/-- The data in the body of a reply: a mapping that holds them, or not, under `data`. -/
def dataOf (path : String) (body : String) : Except Cause Value := do
  match Json.decodeBytes? (Text.encodeUtf8 body.toList) with
  | none => .error .undecodableText
  | some cs =>
    match ← readJson (String.ofList cs) with
    | .mapping pairs => return (Value.lookup "data" pairs).getD .null
    | value =>
      .error (.badValue ("GET " ++ path ++ " returned " ++ value.kindName
        ++ ", expected an object"))

def replyData (path : String) (reply : Reply) : Except Cause Value :=
  if reply.isSuccess then dataOf path reply.body else .error (.httpStatus reply.status)

/-- The data of the resource at a path. A reply to an address without a scheme is not accepted. -/
def get (client : Client σ) (path : String) : Step σ Value := do
  let (address, authorization) ← Snapshot.orFail (client.target path)
  let reply ← client.transport (requestFor address authorization)
  if address.hasType then
    Snapshot.orFail (replyData path reply)
  else
    Step.failWith (.badValue address.unknownTypeText)

def isFailedExchange : Fault → Option Cause
  | .foreign cause => if cause.isExchange || cause.isBadValue then some cause else none
  | _ => none

def reportExchange {α : Type} (report : Cause → Fault) (step : Step σ α) : Step σ α := do
  match ← step.attempt with
  | .ok a => return a
  | .error fault =>
    match isFailedExchange fault with
    | some cause => Step.fail (report cause)
    | none => Step.fail fault

def fetchSnapshot (client : Client σ) : Step σ Snapshot.Contents := do
  let document ← reportExchange (fun cause => .source (.unreachable client.baseUrl cause))
    (client.get "/schema/snapshot")
  let contents ← Snapshot.parse document
  Step.write {
    level := .info
    origin := .restClient
    message := Snapshot.loadedMessage "Fetched" contents.schema client.baseUrl }
  return contents

end Client

end Typescribe.Rest
