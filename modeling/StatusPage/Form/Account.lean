import StatusPage.Account
import StatusPage.Form.Scalar

/-!
The JSON forms of profiles, token pairs and claims, and of users and refresh tokens with all that is
stored.
-/

set_option autoImplicit false

namespace StatusPage

open Json (Fields Reader)
open Form

def Profile.toJson (profile : Profile) : Json :=
  .object
    [("id", uuid profile.id), ("email", .str profile.email),
      ("first_name", .orNull .str profile.firstName), ("last_name", .orNull .str profile.lastName),
      ("role", .str profile.role), ("created_at", instant profile.createdAt),
      ("updated_at", instant profile.updatedAt)]

def Profile.fields : Fields Profile :=
  Profile.mk <$> .required "id" readUuid <*> .required "email" Reader.text
    <*> .nullable "first_name" Reader.text <*> .nullable "last_name" Reader.text
    <*> .required "role" Reader.text <*> .required "created_at" readInstant
    <*> .required "updated_at" readInstant

def User.toJson (user : User) : Json :=
  .object
    [("id", uuid user.id), ("email", .str user.email), ("password_hash", .str user.passwordHash),
      ("first_name", .orNull .str user.firstName), ("last_name", .orNull .str user.lastName),
      ("role", .str user.role), ("created_at", instant user.createdAt),
      ("updated_at", instant user.updatedAt)]

def RefreshToken.toJson (token : RefreshToken) : Json :=
  .object
    [("id", uuid token.id), ("user_id", uuid token.userId), ("token_hash", .str token.digest),
      ("expires_at", instant token.expiresAt), ("created_at", instant token.createdAt)]

def TokenPair.toJson (pair : TokenPair) : Json :=
  .object
    [("access_token", .str pair.accessToken), ("refresh_token", .str pair.refreshToken),
      ("expires_in", .int pair.expiresIn)]

def TokenPair.fields : Fields TokenPair :=
  TokenPair.mk <$> .required "access_token" Reader.text <*> .required "refresh_token" Reader.text
    <*> .required "expires_in" Reader.int64

def loginJson (login : User × TokenPair) : Json :=
  .object [("user", login.1.profile.toJson), ("tokens", login.2.toJson)]

def Identity.toJson (identity : Identity) : Json :=
  .object [("user_id", uuid identity.userId), ("role", .str identity.role)]

def Claims.toJson (claims : Claims) : Json :=
  .object
    [("sub", uuid claims.subject), ("role", .str claims.role), ("exp", .int claims.expires),
      ("iat", .int claims.issued), ("jti", .str claims.tokenId)]

def Claims.fields : Fields Claims :=
  Claims.mk <$> .required "sub" readUuid <*> .required "role" Reader.text
    <*> .required "exp" Reader.int64 <*> .required "iat" Reader.int64
    <*> .required "jti" Reader.text

end StatusPage
