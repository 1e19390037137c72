import Mathlib.Tactic

/-!
# Errors and their HTTP components

The error types of the library, with the status code, the machine-readable
identifier and the structured context that each of them reports.
-/

namespace Servir

/-- The status codes that the error types use. -/
inductive StatusCode where
  | ok
  | badRequest
  | unauthorized
  | notFound
  | conflict
  | internalServerError
deriving DecidableEq

def StatusCode.asU16 : StatusCode → ℕ
  | .ok => 200
  | .badRequest => 400
  | .unauthorized => 401
  | .notFound => 404
  | .conflict => 409
  | .internalServerError => 500

/-- Which resource an error is about. -/
@[ext] structure Identifier where
  kind : String
  value : String
deriving DecidableEq

structure ErrorContext where
  error : Option String
  identifier : Option Identifier
deriving DecidableEq

namespace ErrorContext

def new (error : Option String) (kind value : String) : ErrorContext := ⟨error, some ⟨kind, value⟩⟩

def errorOnly (error : String) : ErrorContext := ⟨some error, none⟩

def empty : ErrorContext := ⟨none, none⟩

end ErrorContext

inductive DbError where
  | connection (url error : String)
  | migration (error : String)
  | userCreate (username error : String)
  | userFindByUsername (username error : String)
  | userFindById (userId error : String)
  | storeRefreshToken (username error : String)
  | deleteRefreshTokensForUser (username error : String)
  | consumeRefreshToken (error : String)
  | unknown (operation error : String)
deriving DecidableEq

namespace DbError

def statusCode : DbError → StatusCode := fun _ => .internalServerError

def errorId : DbError → String
  | .connection .. => "DB_CONNECTION_FAILED"
  | .migration .. => "DB_MIGRATION_FAILED"
  | .userCreate .. => "DB_USER_CREATE_FAILED"
  | .userFindByUsername .. => "DB_USER_FIND_BY_USERNAME_FAILED"
  | .userFindById .. => "DB_USER_FIND_BY_ID_FAILED"
  | .storeRefreshToken .. => "DB_STORE_REFRESH_TOKEN_FAILED"
  | .deleteRefreshTokensForUser .. => "DB_DELETE_REFRESH_TOKENS_FOR_USER_FAILED"
  | .consumeRefreshToken .. => "DB_CONSUME_REFRESH_TOKEN_FAILED"
  | .unknown .. => "DB_UNKNOWN"

def context : DbError → ErrorContext
  | .connection url error => .new (some error) "url" url
  | .migration error => .errorOnly error
  | .userCreate username error => .new (some error) "username" username
  | .userFindByUsername username error => .new (some error) "username" username
  | .userFindById userId error => .new (some error) "user_id" userId
  | .storeRefreshToken username error => .new (some error) "username" username
  | .deleteRefreshTokensForUser username error => .new (some error) "username" username
  | .consumeRefreshToken error => .errorOnly error
  | .unknown operation error => .new (some error) "operation" operation

end DbError

inductive AuthUserError where
  | emptyUsername
  | weakPassword
  | alreadyExists (username error : String)
  | invalidCredentials (username : String)
  | passwordHashFailed (error : String)
deriving DecidableEq

namespace AuthUserError

def statusCode : AuthUserError → StatusCode
  | .emptyUsername | .weakPassword => .badRequest
  | .alreadyExists .. => .conflict
  | .invalidCredentials .. => .unauthorized
  | .passwordHashFailed .. => .internalServerError

def errorId : AuthUserError → String
  | .emptyUsername => "EMPTY_USERNAME"
  | .weakPassword => "WEAK_PASSWORD"
  | .alreadyExists .. => "ALREADY_EXISTS"
  | .invalidCredentials .. => "INVALID_CREDENTIALS"
  | .passwordHashFailed .. => "PASSWORD_HASH_FAILED"

def context : AuthUserError → ErrorContext
  | .alreadyExists username error => .new (some error) "username" username
  | .invalidCredentials username => .new none "username" username
  | .passwordHashFailed error => .errorOnly error
  | _ => .empty

end AuthUserError

inductive AuthTokenError where
  | expired
  | invalid (error : String)
  | missingHeader
  | wrongKind
  | invalidRefreshToken
  | userNotFound (userId : String)
  | missingLayer
  | encodeFailed (error : String)
deriving DecidableEq

namespace AuthTokenError

def statusCode : AuthTokenError → StatusCode
  | .missingLayer | .encodeFailed .. => .internalServerError
  | _ => .unauthorized

def errorId : AuthTokenError → String
  | .expired => "TOKEN_EXPIRED"
  | .invalid .. => "TOKEN_INVALID"
  | .missingHeader => "MISSING_AUTHORIZATION_HEADER"
  | .wrongKind => "WRONG_TOKEN_KIND"
  | .invalidRefreshToken => "INVALID_REFRESH_TOKEN"
  | .userNotFound .. => "USER_NOT_FOUND"
  | .missingLayer => "AUTH_LAYER_MISSING"
  | .encodeFailed .. => "TOKEN_ENCODE_FAILED"

def context : AuthTokenError → ErrorContext
  | .invalid error => .errorOnly error
  | .userNotFound userId => .new none "user_id" userId
  | .encodeFailed error => .errorOnly error
  | _ => .empty

end AuthTokenError

/-- An `std::io::Error` is kept as its display text, the only part a response shows. -/
inductive ServirError where
  | db (e : DbError)
  | authUser (e : AuthUserError)
  | authToken (e : AuthTokenError)
  | badRequest (message : String)
  | notFound
  | io (display : String)
deriving DecidableEq

namespace ServirError

def statusCode : ServirError → StatusCode
  | .db e => e.statusCode
  | .authUser e => e.statusCode
  | .authToken e => e.statusCode
  | .badRequest _ => .badRequest
  | .notFound => .notFound
  | .io _ => .internalServerError

def errorId : ServirError → String
  | .db e => e.errorId
  | .authUser e => e.errorId
  | .authToken e => e.errorId
  | .badRequest _ => "BAD_REQUEST"
  | .notFound => "NOT_FOUND"
  | .io _ => "IO_ERROR"

def context : ServirError → ErrorContext
  | .db e => e.context
  | .authUser e => e.context
  | .authToken e => e.context
  | .badRequest message => .errorOnly message
  | .notFound => .empty
  | .io display => .errorOnly display

end ServirError
end Servir
