import StatusPage.Config
import StatusPage.Http.Server
import StatusPage.Notification.Dispatch
import StatusPage.Store.Memory

/-!
The whole service over a store in memory. The world holds the store, the time, what has been given
out so far, and the notices that wait for delivery. Store calls can be made to fail.
-/

set_option autoImplicit false

namespace StatusPage

open Time (Instant)

/-- How a call goes wrong: it fails, never answers, or ends the program. -/
inductive Fault where
  | fails (e : StoreError)
  | hangs
  | aborts (reason : String)
  deriving DecidableEq, Repr

structure World where
  memory : Store.Memory
  faults : List (String × Fault)
  now : Instant
  identifiers : Nat
  secrets : Nat
  notices : List Notice

namespace World

def start (now : Instant) : World := ⟨.empty, [], now, 0, 0, []⟩

/-- Identifiers that are given out later are larger: a time in
milliseconds and the mark of version 7. -/
def identifier (count : Nat) : Uuid :=
  .ofNat ((0x019400000000 + count) <<< 80 + 7 <<< 76 + 2 <<< 62)

def randomIdentifier (count : Nat) : Uuid :=
  let n := Crypto.numberOfBytes ((Crypto.sha256 (Crypto.bigEndian 8 count)).take 16)
  .ofNat (n >>> 80 <<< 80 + 4 <<< 76 + (n >>> 64 % 4096) <<< 64 + 2 <<< 62 + n % 1 <<< 62)

def secretBytes (count size : Nat) : Text.Bytes :=
  (Crypto.sha256 (Crypto.bigEndian 8 count ++ [0x73])).take size

def refreshToken (count : Nat) : String :=
  String.ofList (Text.Base64Alphabet.urlSafe.encode (secretBytes count 32))

def setFault (world : World) (method : String) (fault : Option Fault) : World :=
  let others := world.faults.filter fun (m, _) => m != method
  { world with faults := match fault with
      | some fault => (method, fault) :: others
      | none => others }

def perform (world : World) (call : Store.Call) : Reply (Except StoreError call.Result) × World :=
  match world.faults.lookup call.method with
  | some (.fails e) => (.value (.error e), world)
  | some .hangs => (.never, world)
  | some (.aborts reason) => (.aborted reason, world)
  | none =>
      let (answer, memory) :=
        world.memory.perform ⟨world.now, identifier world.identifiers⟩ call
      (.value answer, { world with memory := memory, identifiers := world.identifiers + 1 })

end World

/-- Everything that stays the same while the service runs. -/
structure Application where
  keyring : Auth.Keyring
  costs : Auth.PasswordCosts
  settings : Http.Settings
  cors : Http.Cors

namespace Application

/-- An application from its configuration; `notices` tells whether notices are sent at all. -/
def build (jwt : Config.Jwt) (costs : Auth.PasswordCosts) (origins : List String) (notices : Bool) :
    Except String Application := do
  let dummyHash := Auth.hashPassword costs (World.secretBytes 0 16) "dummy-password-for-timing"
  let auth ← Auth.Settings.ofDays jwt.refreshDays dummyHash
  let cors ← Http.Cors.ofOrigins origins
  return { keyring := jwt.keyring, costs := costs, settings := ⟨auth, notices⟩, cors := cors }

def interpreter (app : Application) : Interpreter World where
  answer
    | .store call, world => world.perform call
    | .now, world => (.value world.now, world)
    | .newRefreshToken, world =>
        (.value (World.refreshToken world.secrets), { world with secrets := world.secrets + 1 })
    | .hashPassword password, world =>
        (.value (.ok (Auth.hashPassword app.costs (World.secretBytes world.secrets 16) password)),
          { world with secrets := world.secrets + 1 })
    | .verifyPassword password hash, world =>
        (.value ((Auth.verifyPassword password hash).mapError Auth.PasswordError.message), world)
    | .sign identity, world =>
        (.value (.ok (app.keyring.sign world.now.seconds
            (World.randomIdentifier world.secrets).toText identity)),
          { world with secrets := world.secrets + 1 })
    | .verify token, world => (.value (app.keyring.verify world.now.seconds token), world)
    | .notify notice, world => (.value (), { world with notices := world.notices ++ [notice] })
    | .abort reason, world => (.aborted reason, world)

def run {α : Type} (app : Application) (program : Program α) (world : World) :
    Reply α × World :=
  program.run app.interpreter world

/-- Answers a request; `freshId` identifies it unless it brings an identifier of its own. -/
def serve (app : Application) (freshId : String) (request : Http.Request) (world : World) :
    Http.Response × World :=
  Http.serve app.interpreter app.settings app.cors freshId request world

/-- Delivers the notices that wait; the messages with their outcomes. -/
def deliver (app : Application) (senders : List ChannelKind)
    (succeeds : Notification.Delivery → Bool) (world : World) :
    List (Notification.Delivery × Bool) × World :=
  world.notices.foldl (fun (sent, world) notice =>
    match app.run (Notification.dispatch senders (fun _ => succeeds) notice) world with
    | (.value (.ok (results, _)), world) => (sent ++ results, world)
    | (_, world) => (sent, world)) ([], { world with notices := [] })

end Application

end StatusPage
