import Servir.Http.Response

/-!
# What a response says about its error

The encoding of an error loses nothing: a client finds the variant by the error
identifier and its fields under their own keys of the context. All ways from an
error to a response write the same one.
-/

namespace Servir

/-- What a serializer for a map was told: the announced number of entries, and the entries. -/
structure MapSerializer where
  len : Option ℕ
  entries : List (String × Json)

namespace MapSerializer

def serializeMap (len : Option ℕ) : MapSerializer := ⟨len, []⟩

def serializeEntry (map : MapSerializer) (key : String) (value : Json) : MapSerializer :=
  { map with entries := map.entries ++ [(key, value)] }

end MapSerializer

namespace ErrorContext

/-- `impl Serialize for ErrorContext`, one call after the other. -/
def serialize (c : ErrorContext) : MapSerializer :=
  let len := 1 + if c.identifier.isSome then 1 else 0
  let map := MapSerializer.serializeMap (some len)
  let map := map.serializeEntry "error" (toJson c.error)
  match c.identifier with
  | some id => map.serializeEntry id.kind (.string id.value)
  | none => map

theorem serialize_entries (c : ErrorContext) : c.serialize.entries = c.fields := by
  cases c with
  | mk error identifier => cases identifier <;> rfl

theorem serialize_len (c : ErrorContext) : c.serialize.len = some c.serialize.entries.length := by
  cases c with
  | mk error identifier => cases identifier <;> rfl

end ErrorContext

namespace ApiResponse
variable {α : Type}

/-- `impl From<ServirError> for ApiResponse<T>` -/
def fromServirError (err : ServirError) : ApiResponse α := ofError err

/-- `impl From<Result<T, ServirError>> for ApiResponse<T>` -/
def fromResult : Except ServirError α → ApiResponse α
  | .ok data => .ok data
  | .error err => ofError err

theorem ofError_intoResponse [Serialize α] (e : ServirError) :
    (ofError e : ApiResponse α).intoResponse = e.intoResponse := rfl

end ApiResponse

def Json.field (key : String) : Json → Option Json
  | .object fields => fields.lookup key
  | _ => none

def Json.text : Json → Option String
  | .string s => some s
  | _ => none

def HttpResponse.errorObject (r : HttpResponse) : Option Json :=
  match r.body with
  | .json value => value.field "error"
  | .empty => none

/-- The text that the context of an envelope has under a key. -/
def HttpResponse.entry (r : HttpResponse) (key : String) : Option String :=
  r.errorObject.bind (fun err => (err.field "context").bind (fun c => (c.field key).bind Json.text))

/-- The error that a client reads off a response. -/
def ServirError.ofResponse (r : HttpResponse) : Option ServirError := do
  let error := r.entry "error"
  match ← r.errorObject.bind (fun err => (err.field "error_id").bind Json.text) with
  | "DB_CONNECTION_FAILED" => return .db (.connection (← r.entry "url") (← error))
  | "DB_MIGRATION_FAILED" => return .db (.migration (← error))
  | "DB_USER_CREATE_FAILED" => return .db (.userCreate (← r.entry "username") (← error))
  | "DB_USER_FIND_BY_USERNAME_FAILED" =>
    return .db (.userFindByUsername (← r.entry "username") (← error))
  | "DB_USER_FIND_BY_ID_FAILED" => return .db (.userFindById (← r.entry "user_id") (← error))
  | "DB_STORE_REFRESH_TOKEN_FAILED" =>
    return .db (.storeRefreshToken (← r.entry "username") (← error))
  | "DB_DELETE_REFRESH_TOKENS_FOR_USER_FAILED" =>
    return .db (.deleteRefreshTokensForUser (← r.entry "username") (← error))
  | "DB_CONSUME_REFRESH_TOKEN_FAILED" => return .db (.consumeRefreshToken (← error))
  | "DB_UNKNOWN" => return .db (.unknown (← r.entry "operation") (← error))
  | "EMPTY_USERNAME" => return .authUser .emptyUsername
  | "WEAK_PASSWORD" => return .authUser .weakPassword
  | "ALREADY_EXISTS" => return .authUser (.alreadyExists (← r.entry "username") (← error))
  | "INVALID_CREDENTIALS" => return .authUser (.invalidCredentials (← r.entry "username"))
  | "PASSWORD_HASH_FAILED" => return .authUser (.passwordHashFailed (← error))
  | "TOKEN_EXPIRED" => return .authToken .expired
  | "TOKEN_INVALID" => return .authToken (.invalid (← error))
  | "MISSING_AUTHORIZATION_HEADER" => return .authToken .missingHeader
  | "WRONG_TOKEN_KIND" => return .authToken .wrongKind
  | "INVALID_REFRESH_TOKEN" => return .authToken .invalidRefreshToken
  | "USER_NOT_FOUND" => return .authToken (.userNotFound (← r.entry "user_id"))
  | "AUTH_LAYER_MISSING" => return .authToken .missingLayer
  | "TOKEN_ENCODE_FAILED" => return .authToken (.encodeFailed (← error))
  | "BAD_REQUEST" => return .badRequest (← error)
  | "NOT_FOUND" => return .notFound
  | "IO_ERROR" => return .io (← error)
  | _ => none

theorem ServirError.ofResponse_intoResponse (e : ServirError) :
    ServirError.ofResponse e.intoResponse = some e := by
  cases e with
  | db e => cases e <;> rfl
  | authUser e => cases e <;> rfl
  | authToken e => cases e <;> rfl
  | _ => rfl

/-- Under every key but `error`, a response has the identifier of its error. -/
theorem ServirError.entry_intoResponse (e : ServirError) {key v : String} (hkey : key ≠ "error") :
    e.intoResponse.entry key = some v ↔ e.context.identifier = some ⟨key, v⟩ := by
  change ((e.context.fields.lookup key).bind Json.text) = some v ↔ _
  have hne : (key == "error") = false := beq_false_of_ne hkey
  cases hid : e.context.identifier with
  | none => simp [ErrorContext.fields, hid, List.lookup_cons, hne]
  | some i =>
    by_cases hkind : key = i.kind
    · subst hkind
      simp [ErrorContext.fields, hid, List.lookup_cons, hne, Json.text, Identifier.ext_iff]
    · have hother : (key == i.kind) = false := beq_false_of_ne hkind
      simp [ErrorContext.fields, hid, List.lookup_cons, hne, hother, Identifier.ext_iff,
        Ne.symm hkind]

theorem Outcome.response_entry {o : Outcome} {r : HttpResponse} {key v : String}
    (h : o.response = some r) (hentry : r.entry key = some v) :
    ∃ e, o.error = some e ∧ r = e.intoResponse := by
  cases o with
  | built _ | accepted _ => cases h
  | tokens x | loggedOut x | identity x =>
    cases x with
    | error e => exact ⟨e, rfl, (Option.some.inj h).symm⟩
    | ok data =>
      obtain rfl := Option.some.inj h
      cases hentry

theorem ServirError.intoResponse_body (e : ServirError) : e.intoResponse.body =
    .json (.object [("status", .string "error"), ("error", .object
      [("error_id", .string e.errorId), ("context", .object e.context.serialize.entries)])]) := by
  rw [e.context.serialize_entries]
  rfl

/-- An error can be recovered from its response, its context is written as announced and without a
key twice, and every way to a response is the same. -/
theorem error_encoding_lossless :
    (∀ e e' : ServirError, e.intoResponse.status = e'.intoResponse.status →
      e.intoResponse.body = e'.intoResponse.body → e = e') ∧
    (∀ e : ServirError, ServirError.ofResponse e.intoResponse = some e) ∧
    (∀ e : ServirError, e.intoResponse.body = .json (.object [("status", .string "error"),
        ("error", .object [("error_id", .string e.errorId),
          ("context", .object e.context.serialize.entries)])]) ∧
      ("error", toJson e.context.error) ∈ e.context.serialize.entries ∧
      (e.context.serialize.entries.map Prod.fst).Nodup ∧
      e.context.serialize.len = some e.context.serialize.entries.length) ∧
    ∀ (α : Type) [Serialize α] (e : ServirError),
      (ApiResponse.ofError e : ApiResponse α).intoResponse = e.intoResponse ∧
      (ApiResponse.fromServirError e : ApiResponse α).intoResponse = e.intoResponse ∧
      (ApiResponse.fromResult (.error e) : ApiResponse α).intoResponse = e.intoResponse := by
  refine ⟨?_, ServirError.ofResponse_intoResponse, ?_, ?_⟩
  · intro e e' hstatus hbody
    have hresp : e.intoResponse = e'.intoResponse := by
      change HttpResponse.mk e.intoResponse.status e.intoResponse.body = e'.intoResponse
      rw [hstatus, hbody]
    have hsome := congrArg ServirError.ofResponse hresp
    rw [ServirError.ofResponse_intoResponse, ServirError.ofResponse_intoResponse] at hsome
    exact Option.some.inj hsome
  · intro e
    refine ⟨e.intoResponse_body, ?_, ?_, e.context.serialize_len⟩
    · rw [e.context.serialize_entries]
      exact List.mem_cons_self
    · rw [e.context.serialize_entries]
      exact e.context_keys
  · intro α _ e
    have hway : (ApiResponse.ofError e : ApiResponse α).intoResponse = e.intoResponse :=
      ApiResponse.ofError_intoResponse e
    exact ⟨hway, hway, hway⟩

/-- Two failed statements on the row of one user are told apart, with the display of the fault. -/
theorem error_encoding_lossless_apart :
    ServirError.ofResponse (ServirError.db (.storeRefreshToken "ann" "busy")).intoResponse =
      some (.db (.storeRefreshToken "ann" "busy")) ∧
    (ServirError.db (.storeRefreshToken "ann" "busy")).intoResponse.body ≠
      (ServirError.db (.userCreate "ann" "busy")).intoResponse.body := by
  refine ⟨error_encoding_lossless.2.1 _, fun hbody => ?_⟩
  have heq := error_encoding_lossless.1 (.db (.storeRefreshToken "ann" "busy"))
    (.db (.userCreate "ann" "busy")) rfl hbody
  exact absurd heq (by decide)

end Servir
