import StatusPage.Config
import StatusPage.Json.Basic

/-!
The JSON forms of configurations.
-/

set_option autoImplicit false

namespace StatusPage

def Auth.PasswordCosts.toJson (costs : Auth.PasswordCosts) : Json :=
  .object
    [("memory_kib", .int costs.memoryKib), ("iterations", .int costs.iterations),
      ("parallelism", .int costs.parallelism)]

namespace Config

def Jwt.toJson (jwt : Jwt) : Json :=
  .object
    [("key_id", .str jwt.keyId), ("secret", .str jwt.secret),
      ("previous_keys",
        .listOf (fun (id, secret) => .list [.str id, .str secret]) jwt.previousKeys),
      ("access_token_expiry_mins", .int jwt.accessMinutes),
      ("refresh_token_expiry_days", .int jwt.refreshDays)]

def LogFormat.name : LogFormat → String
  | .pretty => "pretty"
  | .json => "json"

def Server.toJson (server : Server) : Json :=
  .object
    [("host", .str server.host), ("port", .int server.port),
      ("cors_origins", .listOf .str server.corsOrigins),
      ("request_timeout_secs", .int server.requestTimeoutSeconds),
      ("log_format", .str server.logFormat.name),
      ("token_cleanup_interval_secs", .int server.cleanupIntervalSeconds),
      ("jwt", server.jwt.toJson), ("password", server.password.toJson)]

def Database.toJson (database : Database) : Json :=
  .object [("url", .str database.url), ("max_connections", .int database.maxConnections)]

def Email.toJson (email : Email) : Json :=
  .object
    [("smtp_host", .str email.host), ("smtp_port", .int email.port),
      ("from_address", .str email.sender),
      ("smtp_user", .orNull .str email.user), ("smtp_password", .orNull .str email.password)]

def Telegram.toJson (telegram : Telegram) : Json :=
  .object [("bot_token", .str telegram.botToken), ("api_base", .str telegram.apiBase)]

end Config

end StatusPage
