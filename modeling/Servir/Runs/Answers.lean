import Servir.Runs.Tables

/-!
# The answers of the environment

What the log before an effect says about its answer: a statement sees the rows of
the log, a UUID was never drawn before, and a signature is the one of the library.
-/

namespace Servir
open Interleaving Store

variable {K : Crypto} {A : Assumption (service K)} {sh : Shared} {log later earlier : Trail}

namespace Traces

theorem registered_id (h : Traces K A sh log) {r r' : UserRow} (hr : Registered log r)
    (hr' : Registered log r') (hid : r.id = r'.id) : r = r' :=
  Table.eq_of_key UserColumn.id ((recorded h).users r |>.2 hr) ((recorded h).users r' |>.2 hr') hid

theorem registered_username (h : Traces K A sh log) {r r' : UserRow} (hr : Registered log r)
    (hr' : Registered log r') (hname : r.username = r'.username) : r = r' :=
  Table.eq_of_key UserColumn.username ((recorded h).users r |>.2 hr) ((recorded h).users r' |>.2 hr') hname

theorem stored_jti (h : Traces K A sh log) {r r' : RefreshTokenRow} (hr : Stored log r)
    (hr' : Stored log r') (hjti : r.jti = r'.jti) : r = r' :=
  Table.eq_of_key () ((recorded h).tokens r |>.2 hr) ((recorded h).tokens r' |>.2 hr') hjti

theorem configured_unique (h : Traces K A sh log) {v v' : String} (hv : Configured log v)
    (hv' : Configured log v') : v = v' := by
  have hrow : (⟨signingSecretKey, v⟩ : ConfigRow) = ⟨signingSecretKey, v'⟩ :=
    Table.eq_of_key () ((recorded h).config _ |>.2 ⟨rfl, hv⟩)
      ((recorded h).config _ |>.2 ⟨rfl, hv'⟩) rfl
  exact congrArg ConfigRow.value hrow

theorem responds {t : ℕ} {e : Effect} {a : e.Answer}
    (h : Traces K A sh (later ++ .performed t e a :: earlier)) :
    ∃ sh₀ sh₁, Traces K A sh₀ earlier ∧ Responds K sh₀ e a sh₁ := by
  obtain ⟨sh₀, c, sh₁, h₀, hr⟩ := Traced.answered h
  exact ⟨sh₀, sh₁, h₀, respond_iff.1 ⟨c, hr⟩⟩

/-- A statement was executed on the rows of the log before it, or met a fault. -/
theorem executed {t : ℕ} {q : Stmt} {a : Except SqlxError q.Answer}
    (h : Traces K A sh (later ++ ran t q a :: earlier)) :
    (∃ display, a = .error (.fault display)) ∨
      ∃ db, Recorded db earlier ∧ a = (q.exec db).1 := by
  obtain ⟨sh₀, sh₁, h₀, hr⟩ := responds h
  cases hr with
  | sql q => exact .inr ⟨sh₀.db, recorded h₀, rfl⟩
  | fault q display => exact .inl ⟨display, rfl⟩

/-- An insert into `users` that meets no fault fails on a taken key, as a unique violation. -/
theorem create_failed {t : ℕ} {id username hash : String} {created : Int64} {e : SqlxError}
    (h : Traces K A sh (later ++ ran t (.insertUser id username hash created) (.error e) ::
      earlier)) (he : ∀ display, e ≠ .fault display) :
    e.isUniqueViolation = true ∧
      ∃ r, Registered earlier r ∧ (r.id = id ∨ r.username = username) := by
  obtain ⟨display, hd⟩ | ⟨db, hdb, ha⟩ := executed h
  · cases hd
    exact absurd rfl (he display)
  · obtain ⟨⟨code, column, hv⟩, -, htaken⟩ | ⟨hok, -⟩ :=
      db.insertUser_cases ⟨id, username, hash, created⟩
    · simp only [Stmt.exec, hv, Except.error.injEq] at ha
      subst e
      refine ⟨rfl, ?_⟩
      rcases htaken with ⟨r, hr, hkey⟩ | ⟨r, hr, hkey⟩
      · exact ⟨r, (hdb.users r).1 hr, .inl hkey⟩
      · exact ⟨r, (hdb.users r).1 hr, .inr hkey⟩
    · simp [Stmt.exec, hok] at ha

/-- An insert into `refresh_tokens` that meets no fault fails on a taken `jti` or an unknown
user. -/
theorem insert_failed {t : ℕ} {jti userId : String} {expires created : Int64} {e : SqlxError}
    (h : Traces K A sh (later ++ ran t (.insertRefreshToken jti userId expires created) (.error e) ::
      earlier)) (he : ∀ display, e ≠ .fault display) :
    (∃ r, Stored earlier r ∧ r.jti = jti) ∨ ∀ u, Registered earlier u → u.id ≠ userId := by
  obtain ⟨display, hd⟩ | ⟨db, hdb, ha⟩ := executed h
  · cases hd
    exact absurd rfl (he display)
  · obtain ⟨-, -, r, hr, hkey⟩ | ⟨-, -, huser⟩ | ⟨hok, -⟩ :=
      db.insertRefreshToken_cases ⟨jti, userId, expires, created⟩
    · exact .inl ⟨r, (hdb.tokens r).1 hr, hkey⟩
    · exact .inr (fun u hu heq => huser ⟨u, (hdb.users u).2 hu, heq⟩)
    · simp [Stmt.exec, hok] at ha

theorem consumed_iff {t rows : ℕ} {jti : String} {now : Int64}
    (h : Traces K A sh (later ++ ran t (.deleteRefreshToken jti now) (.ok rows) :: earlier)) :
    0 < rows ↔ ∃ r, Stored earlier r ∧ r.jti = jti ∧ now < r.expiresAt := by
  obtain ⟨display, hd⟩ | ⟨db, hdb, ha⟩ := executed h
  · cases hd
  · cases ha
    rw [Db.deleteRefreshTokens, Table.count_pos]
    simp [← hdb.tokens]

theorem found_username {t : ℕ} {username : String} {found : Option User}
    (h : Traces K A sh (later ++ ran t (.selectUserByUsername username) (.ok found) :: earlier))
    (user : User) :
    found = some user ↔ ∃ r, Registered earlier r ∧ r.username = username ∧ r.toUser = user := by
  obtain ⟨display, hd⟩ | ⟨db, hdb, ha⟩ := executed h
  · cases hd
  · cases ha
    simp [Table.find_eq_some, hdb.users, and_assoc]

theorem found_id {t : ℕ} {id : String} {found : Option User}
    (h : Traces K A sh (later ++ ran t (.selectUserById id) (.ok found) :: earlier)) (user : User) :
    found = some user ↔ ∃ r, Registered earlier r ∧ r.id = id ∧ r.toUser = user := by
  obtain ⟨display, hd⟩ | ⟨db, hdb, ha⟩ := executed h
  · cases hd
  · cases ha
    simp [Table.find_eq_some, hdb.users, and_assoc]

theorem found_secret {t : ℕ} {found : Option String}
    (h : Traces K A sh (later ++ ran t .selectSigningSecret (.ok found) :: earlier))
    (value : String) : found = some value ↔ Configured earlier value := by
  obtain ⟨display, hd⟩ | ⟨db, hdb, ha⟩ := executed h
  · cases hd
  · cases ha
    simp only [Option.map_eq_some_iff, Table.find_eq_some, hdb.config]
    constructor
    · rintro ⟨r, ⟨⟨-, hr⟩, -⟩, rfl⟩
      exact hr
    · exact fun hv => ⟨⟨signingSecretKey, value⟩, ⟨⟨rfl, hv⟩, rfl⟩, rfl⟩

theorem failed {t : ℕ} {q : Stmt} {e : SqlxError}
    (h : Traces K A sh (later ++ ran t q (.error e) :: earlier)) (he : ∀ display, e ≠ .fault display) :
    (∃ id username hash created, q = .insertUser id username hash created) ∨
      (∃ jti userId expires created, q = .insertRefreshToken jti userId expires created) ∨
      ∃ value, q = .insertSigningSecret value := by
  obtain ⟨display, hd⟩ | ⟨db, hdb, ha⟩ := executed h
  · cases hd
    exact absurd rfl (he display)
  · cases q <;> simp [Stmt.exec] at ha ⊢

theorem encode_eq (h : Traces K A sh log) {t : ℕ} {secret : String} {c : Claims}
    {r : Except String String} (hr : encoded t secret c r ∈ log) : r = K.encode secret c := by
  obtain ⟨later, earlier, rfl⟩ := List.append_of_mem hr
  obtain ⟨sh₀, sh₁, -, hresp⟩ := responds h
  cases hresp
  rfl

theorem not_unsigned (hK : K.TokenSound) (h : Traces K A sh log) {t : ℕ} {secret e : String}
    {c : Claims} : encoded t secret c (.error e) ∉ log := by
  intro hmem
  obtain ⟨tok, htok⟩ := hK.encode_ok secret c
  have heq := encode_eq h hmem
  rw [htok] at heq
  cases heq

theorem drawn_iff (h : Traces K A sh log) (s : String) : s ∈ sh.drawn ↔ ∃ t, drew t s ∈ log := by
  refine Traces.along_effects (P := fun sh log => s ∈ sh.drawn ↔ ∃ t, drew t s ∈ log) h ?_ ?_ ?_
  · simp [Shared.init]
  · intro sh log ev hev ih
    simp [ih, (hev _ _ _).symm]
  · intro sh log t e a sh' _ hr ih
    cases hr <;> simp [ih, exists_or]

theorem draw_fresh {t t' : ℕ} {s : String} (h : Traces K A sh (later ++ drew t s :: earlier)) :
    drew t' s ∉ earlier := by
  obtain ⟨sh₀, sh₁, h₀, hr⟩ := responds h
  cases hr with
  | newV4 hfresh => exact fun hmem => hfresh ((drawn_iff h₀ s).2 ⟨t', hmem⟩)

theorem draw_unique (h : Traces K A sh log) {t t' : ℕ} {s : String} (ht : drew t s ∈ log)
    (ht' : drew t' s ∈ log) : t = t' := by
  obtain he | ⟨later, earlier, rfl, hmem⟩ | ⟨later, earlier, rfl, hmem⟩ := ordered_of_mem ht ht'
  · cases he
    rfl
  · exact absurd hmem (draw_fresh h)
  · exact absurd hmem (draw_fresh h)

end Traces
end Servir
