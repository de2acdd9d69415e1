import StatusPage.Role
import StatusPage.Uuid
import StatusPage.Time.Instant

/-!
User accounts and the tokens that stand for them.
-/

set_option autoImplicit false

namespace StatusPage

open Time (Instant)

/-- The role is kept as text: one that names no role loads, and is then denied everything. -/
structure User where
  id : Uuid
  email : String
  passwordHash : String
  firstName : Option String
  lastName : Option String
  role : String
  createdAt : Instant
  updatedAt : Instant
  deriving DecidableEq, Repr

structure NewUser where
  email : String
  passwordHash : String
  firstName : Option String
  lastName : Option String
  role : Role
  deriving DecidableEq, Repr

/-- What others may see of a user: everything but the password hash. -/
structure Profile where
  id : Uuid
  email : String
  firstName : Option String
  lastName : Option String
  role : String
  createdAt : Instant
  updatedAt : Instant
  deriving DecidableEq, Repr

def User.profile (user : User) : Profile :=
  { id := user.id, email := user.email, firstName := user.firstName, lastName := user.lastName,
    role := user.role, createdAt := user.createdAt, updatedAt := user.updatedAt }

/-- A refresh token is stored by the digest of its text only. -/
structure RefreshToken where
  id : Uuid
  userId : Uuid
  digest : String
  expiresAt : Instant
  createdAt : Instant
  deriving DecidableEq, Repr

def RefreshToken.isExpired (token : RefreshToken) (now : Instant) : Bool := token.expiresAt ≤ now

structure NewRefreshToken where
  userId : Uuid
  digest : String
  expiresAt : Instant
  deriving DecidableEq, Repr

/-- What a client gets for its credentials; the lifetime of the access token is in seconds. -/
structure TokenPair where
  accessToken : String
  refreshToken : String
  expiresIn : Int
  deriving DecidableEq, Repr

/-- What an access token says; times are whole seconds since 1970. -/
structure Claims where
  subject : Uuid
  role : String
  expires : Int
  issued : Int
  tokenId : String
  deriving DecidableEq, Repr

structure Identity where
  userId : Uuid
  role : String
  deriving DecidableEq, Repr

end StatusPage
