import StatusPage.Account
import StatusPage.Database.Exchange

/-!
Users and refresh tokens in the database.
-/

set_option autoImplicit false

namespace StatusPage.Database

/-! ### Users -/

def readUser (row : Row) : Except Error User := do
  return {
    id := ← row.get "id" .uuid
    email := ← row.get "email" .text
    passwordHash := ← row.get "password_hash" .text
    firstName := ← row.get "first_name" (.orNull .text)
    lastName := ← row.get "last_name" (.orNull .text)
    role := ← row.get "role" .text
    createdAt := ← row.get "created_at" .instant
    updatedAt := ← row.get "updated_at" .instant }

def userColumns : String :=
  "id, email, password_hash, first_name, last_name, role, created_at, updated_at"

def insertUser (new : NewUser) : Statement :=
  .insert "users"
    [("email", .text new.email), ("password_hash", .text new.passwordHash),
      ("first_name", .orNull .text new.firstName), ("last_name", .orNull .text new.lastName),
      ("role", .ofName new.role)]
    ("RETURNING " ++ userColumns)

def selectUserById (id : Uuid) : Statement :=
  ⟨"SELECT " ++ userColumns ++ " FROM users WHERE id = $1", [.uuid id]⟩

def selectUserByEmail (email : String) : Statement :=
  ⟨"SELECT " ++ userColumns ++ " FROM users WHERE email = $1", [.text email]⟩

def createUser (new : NewUser) : Work User := Work.firstRow (insertUser new) readUser

def findUserById (id : Uuid) : Work User := Work.firstRow (selectUserById id) readUser

def findUserByEmail (email : String) : Work User := Work.firstRow (selectUserByEmail email) readUser

/-! ### Refresh tokens -/

def readRefreshToken (row : Row) : Except Error RefreshToken := do
  return {
    id := ← row.get "id" .uuid
    userId := ← row.get "user_id" .uuid
    digest := ← row.get "token_hash" .text
    expiresAt := ← row.get "expires_at" .instant
    createdAt := ← row.get "created_at" .instant }

def refreshTokenColumns : String := "id, user_id, token_hash, expires_at, created_at"

def insertRefreshToken (new : NewRefreshToken) : Statement :=
  .insert "refresh_tokens"
    [("user_id", .uuid new.userId), ("token_hash", .text new.digest),
      ("expires_at", .ofInstant new.expiresAt)]
    ("RETURNING " ++ refreshTokenColumns)

def takeRefreshTokenRow (digest : String) : Statement :=
  ⟨"DELETE FROM refresh_tokens WHERE token_hash = $1 RETURNING " ++ refreshTokenColumns,
    [.text digest]⟩

def deleteRefreshTokenRow (digest : String) : Statement :=
  ⟨"DELETE FROM refresh_tokens WHERE token_hash = $1", [.text digest]⟩

def deleteRefreshTokenRowsOf (userId : Uuid) : Statement :=
  ⟨"DELETE FROM refresh_tokens WHERE user_id = $1", [.uuid userId]⟩

def deleteExpiredRefreshTokenRows : Statement :=
  ⟨"DELETE FROM refresh_tokens WHERE expires_at <= NOW()", []⟩

def createRefreshToken (new : NewRefreshToken) : Work RefreshToken :=
  Work.firstRow (insertRefreshToken new) readRefreshToken

/-- Removes a token and hands it over in one statement, so that nobody else can get it. -/
def takeRefreshToken (digest : String) : Work RefreshToken :=
  Work.firstRow (takeRefreshTokenRow digest) readRefreshToken

def deleteRefreshToken (digest : String) : Work Bool := do
  return 0 < (← Work.affected (deleteRefreshTokenRow digest))

def deleteUserRefreshTokens (userId : Uuid) : Work Nat :=
  Work.affected (deleteRefreshTokenRowsOf userId)

def deleteExpiredRefreshTokens : Work Nat := Work.affected deleteExpiredRefreshTokenRows

end StatusPage.Database
