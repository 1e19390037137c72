import Servir.Interleaving.Pool
import Servir.Auth.Types
import Servir.Db.Schema
import Servir.Error

/-!
# The effects of the server code

Everything a handler does besides computing: it reads the clock, draws random
values, signs a token, and sends a statement to the database. Each of these is
one step of an interleaved run. The release build is modelled, where integer
overflow wraps; the panic of a debug build is a task dropped at that point.
-/

namespace Servir
open Interleaving

inductive Effect where
  | nowSecs
  /-- `Uuid::new_v4().to_string()` -/
  | newV4
  | generateSalt
  /-- `getrandom::fill` of a 32-byte buffer -/
  | fillBytes
  | encode (secret : String) (claims : Claims)
  | sql (q : Stmt)
deriving DecidableEq

@[reducible] def Effect.Answer : Effect → Type
  | .nowSecs => UInt64
  | .newV4 => String
  | .generateSalt => String
  | .fillBytes => Vector UInt8 32
  | .encode _ _ => Except String String
  | .sql q => Except SqlxError q.Answer

instance : (e : Effect) → DecidableEq e.Answer
  | .nowSecs => inferInstanceAs (DecidableEq UInt64)
  | .newV4 => inferInstanceAs (DecidableEq String)
  | .generateSalt => inferInstanceAs (DecidableEq String)
  | .fillBytes => inferInstanceAs (DecidableEq (Vector UInt8 32))
  | .encode _ _ => inferInstanceAs (DecidableEq (Except String String))
  | .sql q => inferInstanceAs (DecidableEq (Except SqlxError q.Answer))

@[reducible] def signature : Signature := ⟨Effect, Effect.Answer⟩

/-- An async function of the source that returns `Result<α, ServirError>`. -/
abbrev Action (α : Type) := Fallible signature ServirError α

def nowSecs : Action UInt64 := Fallible.effect (S := signature) .nowSecs

def newV4 : Action String := Fallible.effect (S := signature) .newV4

def generateSalt : Action String := Fallible.effect (S := signature) .generateSalt

def fillBytes : Action (Vector UInt8 32) := Fallible.effect (S := signature) .fillBytes

def encode (secret : String) (claims : Claims) : Action (Except String String) :=
  Fallible.effect (S := signature) (.encode secret claims)

def query (q : Stmt) : Action (Except SqlxError q.Answer) :=
  Fallible.effect (S := signature) (.sql q)

/-- `Result::map_err` followed by `?`. -/
def mapErr {ε α : Type} (r : Except ε α) (f : ε → ServirError) : Action α :=
  match r with
  | .ok a => pure a
  | .error e => throw (f e)

section Meets
open Program
variable {G : History signature → Effect → Prop} {α : Type} {h : History signature}

@[simp] theorem meets_nowSecs {Q : History signature → Except ServirError UInt64 → Prop} :
    Meets G Q h nowSecs.run ↔ G h .nowSecs ∧ ∀ n, Q (⟨.nowSecs, n⟩ :: h) (.ok n) := Iff.rfl

@[simp] theorem meets_newV4 {Q : History signature → Except ServirError String → Prop} :
    Meets G Q h newV4.run ↔ G h .newV4 ∧ ∀ s, Q (⟨.newV4, s⟩ :: h) (.ok s) := Iff.rfl

@[simp] theorem meets_generateSalt {Q : History signature → Except ServirError String → Prop} :
    Meets G Q h generateSalt.run ↔
      G h .generateSalt ∧ ∀ s, Q (⟨.generateSalt, s⟩ :: h) (.ok s) := Iff.rfl

@[simp] theorem meets_fillBytes
    {Q : History signature → Except ServirError (Vector UInt8 32) → Prop} :
    Meets G Q h fillBytes.run ↔
      G h .fillBytes ∧ ∀ b, Q (⟨.fillBytes, b⟩ :: h) (.ok b) := Iff.rfl

@[simp] theorem meets_encode (secret : String) (claims : Claims)
    {Q : History signature → Except ServirError (Except String String) → Prop} :
    Meets G Q h (encode secret claims).run ↔ G h (.encode secret claims) ∧
      ∀ r, Q (⟨.encode secret claims, r⟩ :: h) (.ok r) := Iff.rfl

@[simp] theorem meets_query (q : Stmt)
    {Q : History signature → Except ServirError (Except SqlxError q.Answer) → Prop} :
    Meets G Q h (query q).run ↔ G h (.sql q) ∧ ∀ r, Q (⟨.sql q, r⟩ :: h) (.ok r) := Iff.rfl

@[simp] theorem meets_mapErr {ε : Type} (r : Except ε α) (f : ε → ServirError)
    {Q : History signature → Except ServirError α → Prop} :
    Meets G Q h (mapErr r f).run ↔ Q h (match r with
      | .ok a => .ok a
      | .error e => .error (f e)) := by
  cases r <;> rfl

end Meets

/-- What the handlers of all servers on one database share. `drawn` are the UUIDs drawn so
far and `clock` is the last clock reading; neither is visible to the handlers. -/
structure Shared where
  db : Db
  drawn : List String
  clock : UInt64

def Shared.init : Shared := ⟨.migrated, [], 0⟩

/-- How an effect is answered, where the state does not decide it. -/
inductive Choice where
  | reading (now : UInt64)
  | uuid (s : String)
  | salt (s : String)
  | bytes (b : Vector UInt8 32)
  | compute
  | execute
  | fault (display : String)

/-- A v4 UUID is fresh, and a statement that meets a fault changes nothing. -/
def respond (K : Crypto) (sh : Shared) : (e : Effect) → Choice → Option (e.Answer × Shared)
  | .nowSecs, .reading now => some (now, { sh with clock := now })
  | .newV4, .uuid s => if s ∈ sh.drawn then none else some (s, { sh with drawn := s :: sh.drawn })
  | .generateSalt, .salt s => some (s, sh)
  | .fillBytes, .bytes b => some (b, sh)
  | .encode secret claims, .compute => some (K.encode secret claims, sh)
  | .sql q, .execute => some ((q.exec sh.db).1, { sh with db := (q.exec sh.db).2 })
  | .sql _, .fault display => some (.error (.fault display), sh)
  | _, _ => none

/-- The answers that an effect may get, with the state that they leave. -/
inductive Responds (K : Crypto) (sh : Shared) : (e : Effect) → e.Answer → Shared → Prop where
  | nowSecs (now : UInt64) : Responds K sh .nowSecs now { sh with clock := now }
  | newV4 {s : String} : s ∉ sh.drawn → Responds K sh .newV4 s { sh with drawn := s :: sh.drawn }
  | generateSalt (s : String) : Responds K sh .generateSalt s sh
  | fillBytes (b : Vector UInt8 32) : Responds K sh .fillBytes b sh
  | encode (secret : String) (c : Claims) :
      Responds K sh (.encode secret c) (K.encode secret c) sh
  | sql (q : Stmt) :
      Responds K sh (.sql q) (q.exec sh.db).1 { sh with db := (q.exec sh.db).2 }
  | fault (q : Stmt) (display : String) : Responds K sh (.sql q) (.error (.fault display)) sh

theorem respond_iff {K : Crypto} {sh sh' : Shared} {e : Effect} {a : e.Answer} :
    (∃ c, respond K sh e c = some (a, sh')) ↔ Responds K sh e a sh' := by
  constructor
  · rintro ⟨c, hc⟩
    cases e <;> cases c <;> simp only [respond, reduceCtorEq, Option.some.injEq, Prod.mk.injEq,
      ite_eq_iff, and_false, false_or] at hc
    case nowSecs.reading =>
      obtain ⟨rfl, rfl⟩ := hc
      exact .nowSecs _
    case newV4.uuid =>
      obtain ⟨hfresh, rfl, rfl⟩ := hc
      exact .newV4 hfresh
    case generateSalt.salt =>
      obtain ⟨rfl, rfl⟩ := hc
      exact .generateSalt _
    case fillBytes.bytes =>
      obtain ⟨rfl, rfl⟩ := hc
      exact .fillBytes _
    case encode.compute =>
      obtain ⟨rfl, rfl⟩ := hc
      exact .encode _ _
    case sql.execute =>
      obtain ⟨rfl, rfl⟩ := hc
      exact .sql _
    case sql.fault =>
      obtain ⟨rfl, rfl⟩ := hc
      exact .fault _ _
  · intro h
    cases h with
    | nowSecs now => exact ⟨.reading now, rfl⟩
    | newV4 hfresh => exact ⟨.uuid _, if_neg hfresh⟩
    | generateSalt s => exact ⟨.salt s, rfl⟩
    | fillBytes b => exact ⟨.bytes b, rfl⟩
    | encode secret c => exact ⟨.compute, rfl⟩
    | sql q => exact ⟨.execute, rfl⟩
    | fault q display => exact ⟨.fault display, rfl⟩

/-- A choice leads to the same answer from another state, if there the UUID is fresh too and the
database answers alike. -/
theorem respond_congr {K : Crypto} {sh sh₁ sh' : Shared} {e : Effect} {c : Choice} {a : e.Answer}
    (h : respond K sh e c = some (a, sh₁))
    (hdrawn : ∀ s, (⟨e, a⟩ : Entry signature) = ⟨.newV4, s⟩ → s ∉ sh'.drawn)
    (hdb : ∀ q, e = .sql q → (q.exec sh'.db).1 = (q.exec sh.db).1) :
    ∃ sh₁', respond K sh' e c = some (a, sh₁') := by
  cases e <;> cases c <;> simp only [respond, reduceCtorEq, Option.some.injEq, Prod.mk.injEq,
    ite_eq_iff, and_false, false_or] at h
  case nowSecs.reading => exact ⟨_, by rw [respond, h.1]⟩
  case newV4.uuid =>
    obtain ⟨-, rfl, -⟩ := h
    exact ⟨_, if_neg (hdrawn _ rfl)⟩
  case generateSalt.salt => exact ⟨_, by rw [respond, h.1]⟩
  case fillBytes.bytes => exact ⟨_, by rw [respond, h.1]⟩
  case encode.compute => exact ⟨_, by rw [respond, h.1]⟩
  case sql.execute q => exact ⟨_, by rw [respond, hdb q rfl, h.1]⟩
  case sql.fault => exact ⟨_, by rw [respond, h.1]⟩

end Servir
