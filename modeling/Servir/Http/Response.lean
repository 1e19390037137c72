import Servir.Server

/-!
# The response envelope

`ApiResponse` and its serialization. A response is either an empty body or a
JSON value, and `HttpResponse.Enveloped` is the shape that the clients of a
server are promised.
-/

namespace Servir

/-- A JSON value, with a number as its text. -/
inductive Json where
  | null
  | bool (b : Bool)
  | number (text : String)
  | string (s : String)
  | array (elems : List Json)
  | object (fields : List (String × Json))

inductive Body where
  | empty
  | json (value : Json)

structure HttpResponse where
  status : ℕ
  body : Body

/-- `serde::Serialize`, as far as JSON is concerned. -/
class Serialize (α : Type) where
  toJson : α → Json

export Serialize (toJson)

instance : Serialize Unit := ⟨fun _ => .null⟩

instance : Serialize (Option String) := ⟨fun
  | some s => .string s
  | none => .null⟩

instance : Serialize TokenResponse := ⟨fun r => .object [("access_token", .string r.accessToken),
  ("refresh_token", .string r.refreshToken), ("token_type", .string r.tokenType)]⟩

instance : Serialize MeResponse := ⟨fun r => .object [("user_id", .string r.userId),
  ("username", .string r.username)]⟩

structure HealthResponse where
  status : String

instance : Serialize HealthResponse := ⟨fun r => .object [("status", .string r.status)]⟩

/-- Always an `error`, then the identifier under its own kind. -/
def ErrorContext.fields (c : ErrorContext) : List (String × Json) :=
  ("error", toJson c.error) :: c.identifier.toList.map (fun i => (i.kind, .string i.value))

instance : Serialize ErrorContext := ⟨fun c => .object c.fields⟩

structure ErrorBody where
  statusCode : StatusCode
  errorId : String
  context : ErrorContext

/-- The status code goes to the status line only. -/
instance : Serialize ErrorBody := ⟨fun b => .object [("error_id", .string b.errorId),
  ("context", toJson b.context)]⟩

inductive ApiResponse (α : Type) where
  | ok (data : α)
  | error (body : ErrorBody)

namespace ApiResponse
variable {α : Type} [Serialize α]

def ofError (err : ServirError) : ApiResponse α := .error ⟨err.statusCode, err.errorId, err.context⟩

instance : Serialize (ApiResponse α) := ⟨fun
  | .ok data => .object [("status", .string "ok"), ("data", toJson data)]
  | .error body => .object [("status", .string "error"), ("error", toJson body)]⟩

def intoResponse (r : ApiResponse α) : HttpResponse :=
  let httpStatus : StatusCode := match r with
    | .ok _ => .ok
    | .error body => body.statusCode
  ⟨httpStatus.asU16, .json (toJson r)⟩

end ApiResponse

def ServirError.intoResponse (e : ServirError) : HttpResponse :=
  (ApiResponse.error (α := Unit) ⟨e.statusCode, e.errorId, e.context⟩).intoResponse

/-- The response to the result of a handler. -/
def intoResponse {α : Type} [Serialize α] : Except ServirError α → HttpResponse
  | .ok data => (ApiResponse.ok data).intoResponse
  | .error e => e.intoResponse

/-- The response that an outcome of one of servir's own routes is sent as. -/
def Outcome.response : Outcome → Option HttpResponse
  | .built _ | .accepted _ => none
  | .tokens r => some (intoResponse r)
  | .loggedOut r => some (intoResponse r)
  | .identity r => some (intoResponse r)

/-- The body is `{"status":"ok","data":..}` under status 200, or
`{"status":"error","error":{"error_id":..,"context":{..}}}` under a 4xx or 5xx status. -/
def HttpResponse.Enveloped (r : HttpResponse) : Prop :=
  (r.status = 200 ∧ ∃ data, r.body = .json (.object [("status", .string "ok"), ("data", data)])) ∨
  (400 ≤ r.status ∧ r.status < 600 ∧ ∃ errorId context,
    r.body = .json (.object [("status", .string "error"),
      ("error", .object [("error_id", .string errorId), ("context", .object context)])]))

theorem ServirError.statusCode_ne_ok (e : ServirError) : e.statusCode ≠ .ok := by
  cases e with
  | authUser e => cases e <;> nofun
  | authToken e => cases e <;> nofun
  | _ => nofun

theorem ServirError.statusCode_range (e : ServirError) :
    400 ≤ e.statusCode.asU16 ∧ e.statusCode.asU16 < 600 := by
  have hne := e.statusCode_ne_ok
  revert hne
  cases e.statusCode <;> decide

/-- No key of a serialized context is written twice. -/
theorem ServirError.context_keys (e : ServirError) : (e.context.fields.map Prod.fst).Nodup := by
  cases e with
  | db e => cases e <;> simp [context, DbError.context, ErrorContext.fields, ErrorContext.new,
      ErrorContext.errorOnly]
  | authUser e => cases e <;> simp [context, AuthUserError.context, ErrorContext.fields,
      ErrorContext.new, ErrorContext.errorOnly, ErrorContext.empty]
  | authToken e => cases e <;> simp [context, AuthTokenError.context, ErrorContext.fields,
      ErrorContext.new, ErrorContext.errorOnly, ErrorContext.empty]
  | _ => simp [context, ErrorContext.fields, ErrorContext.errorOnly, ErrorContext.empty]

theorem ServirError.intoResponse_enveloped (e : ServirError) : e.intoResponse.Enveloped :=
  .inr ⟨e.statusCode_range.1, e.statusCode_range.2, e.errorId, e.context.fields, rfl⟩

theorem intoResponse_enveloped {α : Type} [Serialize α] (r : Except ServirError α) :
    (intoResponse r).Enveloped := by
  cases r with
  | error e => exact e.intoResponse_enveloped
  | ok data => exact .inl ⟨rfl, toJson data, rfl⟩

end Servir
