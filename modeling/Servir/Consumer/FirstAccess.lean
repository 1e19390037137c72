import Servir.Consumer.Profiles

/-!
# First access to a profile

The primary key of `user_profiles` keeps one row for each user id, and no
statement changes a row. A call that finds no row and whose insert comes second
returns an error: it does not read the row that another call stored.
-/

namespace Servir.Consumer
open Interleaving Store

/-- The runs of any number of calls on one database, from an empty migrated one. -/
abbrev Reachable (A : Assumption service) (σ : Pool service) : Prop := Reach A Db.migrated σ

abbrev Traces (A : Assumption service) (db : Db) (log : Trail) : Prop :=
  Traced service protocol A Db.migrated db log

abbrev ran (t : ℕ) (q : Stmt) (r : Except SqlxError q.Answer) : Event signature Job Outcome :=
  .performed t (.sql q) r

/-- No statement fails for a reason of the database itself. -/
def NoFaults : Assumption service := fun _ _ ev =>
  ∀ t q display, ev ≠ ran t q (.error (.fault display))

/-- A call stored this row. -/
def Created (log : Trail) (p : UserProfile) : Prop :=
  ∃ t, ran t (.insertProfile p.id p.username p.createdAt) (.ok ()) ∈ log

/-- The call of task `t` sent its insert when a row for its user id was stored already. -/
def InsertedLate (log : Trail) (t : ℕ) : Prop :=
  ∃ later earlier userId username createdAt r p,
    log = later ++ ran t (.insertProfile userId username createdAt) r :: earlier ∧
      Created earlier p ∧ p.id = userId

variable {A : Assumption service} {db : Db} {log later earlier : Trail} {t : ℕ} {job : Job}
  {o : Outcome}

theorem Created.mono {p : UserProfile} (h : Created earlier p) (hsub : earlier ⊆ log) :
    Created log p := h.imp (fun _ hmem => hsub hmem)

theorem Created.from_earlier {p : UserProfile} {ev : Event signature Job Outcome} (h : Created earlier p) :
    Created (later ++ ev :: earlier) p :=
  h.mono (fun _ hmem => List.mem_append_right _ (List.mem_cons_of_mem _ hmem))

theorem Reachable.traces {σ : Pool service} (h : Reachable A σ) : Traces A σ.shared σ.log :=
  Reach.traced service_follows h

theorem Db.insertProfile_cases (db : Db) (p : UserProfile) :
    ((∃ code column, (db.insertProfile p).1 = .error (.uniqueViolation code column)) ∧
      (db.insertProfile p).2 = db ∧ db.userProfiles.taken () p.id) ∨
    ((db.insertProfile p).1 = .ok () ∧ ¬ db.userProfiles.taken () p.id ∧
      ∀ r, r ∈ (db.insertProfile p).2.userProfiles ↔ r = p ∨ r ∈ db.userProfiles) := by
  unfold insertProfile
  split_ifs with hid
  · exact .inl ⟨⟨_, _, rfl⟩, rfl, hid⟩
  · exact .inr ⟨rfl, hid, fun r => List.mem_cons⟩

theorem Stmt.exec_ne_fault (q : Stmt) (db : Db) (display : String) :
    (q.exec db).1 ≠ .error (.fault display) := by
  cases q with
  | selectProfile userId => simp [exec]
  | insertProfile userId username createdAt =>
    obtain ⟨⟨code, column, he⟩, -⟩ | ⟨hok, -⟩ :=
      db.insertProfile_cases ⟨userId, username, createdAt⟩
    · simp [exec, he]
    · simp [exec, hok]

theorem respond_rows {db' : Db} {e : Effect} {c : Choice} {a : e.Answer}
    (h : respond db e c = some (a, db')) (p : UserProfile) :
    p ∈ db'.userProfiles ↔ p ∈ db.userProfiles ∨
      (⟨e, a⟩ : Entry signature) = sent (.insertProfile p.id p.username p.createdAt) (.ok ()) := by
  cases e with
  | nowSecs =>
    cases c with
    | reading now =>
      cases h
      simp
    | execute | fault => cases h
  | sql q =>
    cases c with
    | reading now => cases h
    | fault display =>
      cases h
      cases q <;> simp
    | execute =>
      obtain rfl : (q.exec db).1 = a := congrArg Prod.fst (Option.some.inj h)
      obtain rfl : (q.exec db).2 = db' := congrArg Prod.snd (Option.some.inj h)
      cases q with
      | selectProfile userId => simp [Stmt.exec]
      | insertProfile userId username createdAt =>
        obtain ⟨⟨code, column, he⟩, hdb, -⟩ | ⟨hok, -, hrows⟩ :=
          db.insertProfile_cases ⟨userId, username, createdAt⟩
        · simp [Stmt.exec, he, hdb]
        · simp [Stmt.exec, hok, hrows, or_comm, UserProfile.ext_iff, eq_comm]

namespace Traces

theorem recorded (h : Traces A db log) (p : UserProfile) :
    p ∈ db.userProfiles ↔ Created log p := by
  refine Traced.along_effects (V := service)
    (P := fun (db : Db) log => p ∈ db.userProfiles ↔ Created log p) h ?_ ?_ ?_
  · simp [Db.migrated, Created]
  · intro db log ev hev ih
    simp [ih, Created, (hev _ _ _).symm]
  · intro db log t e c a db' _ hr ih
    rw [respond_rows hr p, ih]
    constructor
    · rintro (hc | he)
      · exact hc.mono (List.subset_cons_self _ _)
      · cases he
        exact ⟨t, List.mem_cons_self⟩
    · rintro ⟨t', hmem⟩
      rcases List.mem_cons.1 hmem with he | hmem
      · cases he
        exact .inr rfl
      · exact .inl ⟨t', hmem⟩

theorem created_unique (h : Traces A db log) {p p' : UserProfile} (hp : Created log p)
    (hp' : Created log p') (hid : p.id = p'.id) : p = p' :=
  Table.eq_of_key () ((recorded h p).2 hp) ((recorded h p').2 hp') hid

theorem created_iff (h : Traces A db log) {p : UserProfile} (hp : Created log p)
    (p' : UserProfile) : p' ∈ db.userProfiles ∧ p'.id = p.id ↔ p' = p := by
  rw [recorded h]
  constructor
  · rintro ⟨hp', hid⟩
    exact created_unique h hp' hp hid
  · rintro rfl
    exact ⟨hp, rfl⟩

theorem creating (h : Traces A db log) {p : UserProfile} (hp : Created log p) :
    ∃ t job, .spawned t job ∈ log ∧ p.id = job.userId ∧ p.username = job.username := by
  obtain ⟨t, hmem⟩ := hp
  obtain ⟨later, earlier, rfl⟩ := List.append_of_mem hmem
  obtain ⟨job, hj, ha⟩ := Traced.attempted_at h
  refine ⟨t, job, List.mem_append_right _ (List.mem_cons_of_mem _ hj), ?_⟩
  change Attempts job (history t earlier) _ at ha
  generalize history t earlier = past at ha
  generalize hq : Stmt.insertProfile p.id p.username p.createdAt = q at ha
  cases ha with
  | select => cases hq
  | insert =>
    injection hq with hid hname _
    exact ⟨hid, hname⟩

/-- A statement was executed on the rows of the log before it, or met a fault. -/
theorem executed {q : Stmt} {a : Except SqlxError q.Answer}
    (h : Traces A db (later ++ ran t q a :: earlier)) :
    (∃ display, a = .error (.fault display)) ∨
      ∃ db₀ : Db, (∀ p, p ∈ db₀.userProfiles ↔ Created earlier p) ∧ a = (q.exec db₀).1 := by
  obtain ⟨db₀, c, db₁, h₀, hr⟩ := Traced.answered h
  change respond db₀ (.sql q) c = some (a, db₁) at hr
  cases c with
  | reading now => cases hr
  | fault display =>
    cases hr
    exact .inl ⟨display, rfl⟩
  | execute =>
    exact .inr ⟨db₀, recorded h₀, (congrArg Prod.fst (Option.some.inj hr)).symm⟩

theorem found {userId : String} {p : UserProfile}
    (h : Traces A db (later ++ ran t (.selectProfile userId) (.ok (some p)) :: earlier)) :
    Created earlier p ∧ p.id = userId := by
  obtain ⟨display, hd⟩ | ⟨db₀, hrows, ha⟩ := executed h
  · cases hd
  · obtain ⟨hp, hid⟩ := Table.find_eq_some.1 (Except.ok.inj ha).symm
    exact ⟨(hrows p).1 hp, hid⟩

theorem select_fault {userId : String} {e : SqlxError}
    (h : Traces A db (later ++ ran t (.selectProfile userId) (.error e) :: earlier)) :
    ∃ display, e = .fault display := by
  obtain ⟨display, hd⟩ | ⟨db₀, -, ha⟩ := executed h
  · exact ⟨display, Except.error.inj hd⟩
  · cases ha

theorem inserted_iff {p : UserProfile} {r : Except SqlxError Unit}
    (h : Traces A db (later ++ ran t (.insertProfile p.id p.username p.createdAt) r :: earlier))
    (hr : ∀ display, r ≠ .error (.fault display)) :
    r = .ok () ↔ ∀ p', Created earlier p' → p'.id ≠ p.id := by
  obtain ⟨display, hd⟩ | ⟨db₀, hrows, ha⟩ := executed h
  · exact absurd hd (hr display)
  · change r = (db₀.insertProfile p).1 at ha
    obtain ⟨⟨code, column, he⟩, -, p', hp', hid⟩ | ⟨hok, hfree, -⟩ := db₀.insertProfile_cases p
    · rw [ha, he]
      exact iff_of_false nofun (fun hnone => hnone p' ((hrows p').1 hp') hid)
    · rw [ha, hok]
      exact iff_of_true rfl (fun p' hp' hid => hfree ⟨p', (hrows p').2 hp', hid⟩)

theorem not_fault (h : Traces NoFaults db log) (t : ℕ) (q : Stmt) (display : String) :
    ran t q (.error (.fault display)) ∉ log := by
  intro hmem
  obtain ⟨later, earlier, hlog⟩ := List.append_of_mem hmem
  obtain ⟨db₀, -, hnone⟩ := Traced.assumed h hlog
  exact hnone t q display rfl

end Traces

theorem responsive : Responsive NoFaults where
  answers db log t e := by
    cases e with
    | nowSecs => exact ⟨.reading 0, _, _, rfl, by simp [NoFaults]⟩
    | sql q =>
      refine ⟨.execute, _, _, rfl, ?_⟩
      rintro t' q' display he
      injection he with _ hq ha
      injection hq with hq
      subst q'
      exact Stmt.exec_ne_fault q db display (eq_of_heq ha)
  replies db log t o := by simp [NoFaults]

theorem Job.outcome_error_ne (job : Job) (e : ServirError) (p : UserProfile) :
    job.outcome (.error e) ≠ job.outcome (.ok p) := by
  cases job <;> nofun

/-- The exits of a call that meets no fault. -/
private theorem call_reply (h : Traces NoFaults db log) (hj : .spawned t job ∈ log)
    (ho : .replied t o ∈ log) : ∃ p, Created log p ∧ p.id = job.userId ∧
      ((o = job.outcome (.ok p) ∧ ¬ InsertedLate log t) ∨
        ((∀ p', o ≠ job.outcome (.ok p')) ∧ InsertedLate log t)) := by
  obtain ⟨r, rfl, hfinds⟩ : ∃ r, o = job.outcome r ∧ Finds job (history t log) r :=
    Traced.replied h hj ho
  generalize hpast : history t log = past at hfinds
  have hmem : ∀ {x : Entry signature}, x ∈ past → .performed t x.effect x.answer ∈ log :=
    fun hx => mem_history.1 (hpast ▸ hx)
  cases hfinds with
  | @selectFailed e =>
    have hselect := hmem List.mem_cons_self
    obtain ⟨later, earlier, rfl⟩ := List.append_of_mem hselect
    obtain ⟨display, rfl⟩ := Traces.select_fault h
    exact absurd hselect (Traces.not_fault h t _ display)
  | @found p =>
    obtain ⟨later, earlier, hlog⟩ := List.append_of_mem (hmem List.mem_cons_self)
    obtain ⟨hp, hid⟩ := Traces.found (hlog ▸ h)
    refine ⟨p, hlog ▸ hp.from_earlier, hid, .inl ⟨rfl, ?_⟩⟩
    rintro ⟨later, earlier, userId, username, createdAt, r, p', hlog, -⟩
    have hx : sent (.insertProfile userId username createdAt) r ∈ history t log :=
      mem_history.2 (by simp [hlog])
    simp [hpast] at hx
  | @insertFailed n e =>
    have hinsert := hmem List.mem_cons_self
    obtain ⟨later, earlier, hlog⟩ := List.append_of_mem hinsert
    have hfault : ∀ display, (.error e : Except SqlxError Unit) ≠ .error (.fault display) := by
      rintro display he
      cases he
      exact Traces.not_fault h t _ display hinsert
    have hnot := (Traces.inserted_iff (p := ⟨job.userId, job.username, n.toInt64⟩)
      (hlog ▸ h) hfault).not.1 nofun
    push Not at hnot
    obtain ⟨p, hp, hid⟩ := hnot
    exact ⟨p, hlog ▸ hp.from_earlier, hid, .inr ⟨job.outcome_error_ne _, later, earlier, _, _, _, _, p,
      hlog, hp, hid⟩⟩
  | @created n =>
    have hinsert := hmem List.mem_cons_self
    refine ⟨⟨job.userId, job.username, n.toInt64⟩, ⟨t, hinsert⟩, rfl, .inl ⟨rfl, ?_⟩⟩
    rintro ⟨later, earlier, userId, username, createdAt, r, p, hlog, hp, hid⟩
    have hx : sent (.insertProfile userId username createdAt) r ∈ history t log :=
      mem_history.2 (by simp [hlog])
    have hr : sent (.insertProfile userId username createdAt) r =
        sent (.insertProfile job.userId job.username n.toInt64) (.ok ()) := by simpa [hpast] using hx
    cases hr
    exact (Traces.inserted_iff (p := ⟨job.userId, job.username, n.toInt64⟩) (hlog ▸ h)
      (by simp)).1 rfl p hp hid

/-- Each user id that was asked for has one row, for ever, and a call returns the row of its user id
exactly if no other call stored one between its select and its insert. -/
theorem first_access_iff {σ : Pool service} (h : Reachable NoFaults σ) :
    (∀ t₀ job₀ o₀, .spawned t₀ job₀ ∈ σ.log → .replied t₀ o₀ ∈ σ.log → ∃ p,
      (∀ p', p' ∈ σ.shared.userProfiles ∧ p'.id = job₀.userId ↔ p' = p) ∧
      ∀ t job o, .spawned t job ∈ σ.log → .replied t o ∈ σ.log → job.userId = job₀.userId →
        (o = job.outcome (.ok p) ↔ ¬ InsertedLate σ.log t)) ∧
    (∀ p ∈ σ.shared.userProfiles, ∃ t job, .spawned t job ∈ σ.log ∧ p.id = job.userId ∧
      p.username = job.username) ∧
    (∀ ls σ', Path NoFaults σ ls σ' → ∀ p ∈ σ.shared.userProfiles, ∀ p',
      p' ∈ σ'.shared.userProfiles ∧ p'.id = p.id ↔ p' = p) ∧
    ∀ t job, Open σ.log t job → ∃ ls σ' o, Path NoFaults σ ls σ' ∧ (∀ l ∈ ls, l.task = t) ∧
      .replied t o ∈ σ'.log := by
  have ht := h.traces
  refine ⟨?_, ?_, ?_, fun t job ho => Reach.completes service_follows responsive h ho⟩
  · intro t₀ job₀ o₀ hj₀ ho₀
    obtain ⟨p, hp, hid, -⟩ := call_reply ht hj₀ ho₀
    refine ⟨p, fun p' => hid ▸ Traces.created_iff ht hp p', ?_⟩
    intro t job o hj ho hsame
    obtain ⟨p', hp', hid', ⟨rfl, hin⟩ | ⟨hne, hlate⟩⟩ := call_reply ht hj ho
    · obtain rfl := Traces.created_unique ht hp' hp (by rw [hid', hid, hsame])
      exact iff_of_true rfl hin
    · exact iff_of_false (hne p) (not_not_intro hlate)
  · intro p hp
    exact Traces.creating ht ((Traces.recorded ht p).1 hp)
  · intro ls σ' hpath p hp
    have hp' := ((Traces.recorded ht p).1 hp).mono hpath.log_suffix.subset
    exact Traces.created_iff (Reachable.traces (h.path hpath)) hp'

instance (db : service.Shared) (log : Trail) (ev : Event signature Job Outcome) :
    Decidable (NoFaults db log ev) :=
  match ev with
  | .performed _ (.sql q) (.error (.fault display)) => isFalse (fun hev => hev _ q display rfl)
  | .performed _ (.sql _) (.error (.uniqueViolation ..))
  | .performed _ (.sql _) (.error .foreignKeyViolation) | .performed _ (.sql _) (.ok _)
  | .performed _ .nowSecs _ | .spawned .. | .replied .. | .dropped _ => isTrue (by
    rintro t q display he
    cases he)

abbrev Script := List (Label service)

/-- Task `t` gets these answers one after the other. -/
def answering (t : ℕ) (cs : List Choice) : Script := cs.map (fun c => .perform t c)

theorem reach (script : Script) (P : Pool service → Prop) [DecidablePred P]
    (h : (run NoFaults (.start Db.migrated) script).any (fun σ => decide (P σ)) = true) :
    ∃ σ, Reachable NoFaults σ ∧ P σ := reach_of_run h

/-- A second call, under another username, returns the row of the first. -/
theorem first_access_iff_twice : ∃ σ : Pool service, Reachable NoFaults σ ∧
    (∀ p, p ∈ σ.shared.userProfiles ∧ p.id = "id" ↔ p = ⟨"id", "ann", 105⟩) ∧
    .replied 1 (Job.outcome (.profile "id" "bob") (.ok ⟨"id", "ann", 105⟩)) ∈ σ.log ∧
    ¬ InsertedLate σ.log 1 := by
  obtain ⟨σ, hσ, hj₀, ho₀, hj₁, ho₁, hrow⟩ := reach
    (.spawn 0 (.profile "id" "ann") :: answering 0 [.execute, .reading 105, .execute] ++
      .reply 0 :: .spawn 1 (.profile "id" "bob") :: answering 1 [.execute] ++ [.reply 1])
    (fun σ => .spawned 0 (.profile "id" "ann") ∈ σ.log ∧
      .replied 0 (.profile (.ok ⟨"id", "ann", 105⟩)) ∈ σ.log ∧
      .spawned 1 (.profile "id" "bob") ∈ σ.log ∧
      .replied 1 (.profile (.ok ⟨"id", "ann", 105⟩)) ∈ σ.log ∧
      ⟨"id", "ann", 105⟩ ∈ σ.shared.userProfiles) (by decide +kernel)
  obtain ⟨p, hp, hcalls⟩ := (first_access_iff hσ).1 0 _ _ hj₀ ho₀
  obtain rfl : ⟨"id", "ann", 105⟩ = p := (hp _).1 ⟨hrow, rfl⟩
  exact ⟨σ, hσ, hp, ho₁, (hcalls 1 _ _ hj₁ ho₁ rfl).1 rfl⟩

/-- Two requests for one user find no row; the one that inserts second fails with DB_UNKNOWN. -/
theorem first_access_fails_in_race : ∃ σ : Pool service, Reachable NoFaults σ ∧
    ∃ claims : Claims, .spawned 0 (.user claims) ∈ σ.log ∧ .spawned 1 (.user claims) ∈ σ.log ∧
      .replied 0 (.user (.ok ⟨claims.sub, claims.username⟩)) ∈ σ.log ∧
      ∃ e, .replied 1 (.user (.error e)) ∈ σ.log ∧ e.errorId = "DB_UNKNOWN" ∧
        e.intoResponse.status = 500 := by
  let ann : Claims := ⟨"id", "ann", 109, 105, "a1", .access⟩
  obtain ⟨σ, hσ, hj₀, hj₁, ho₀, ho₁⟩ := reach
    (.spawn 0 (.user ann) :: .spawn 1 (.user ann) :: answering 0 [.execute, .reading 105] ++
      answering 1 [.execute, .reading 105] ++ answering 0 [.execute] ++ [.reply 0] ++
      answering 1 [.execute] ++ [.reply 1])
    (fun σ => .spawned 0 (.user ann) ∈ σ.log ∧ .spawned 1 (.user ann) ∈ σ.log ∧
      .replied 0 (.user (.ok ⟨"id", "ann"⟩)) ∈ σ.log ∧
      .replied 1 (.user (.error (.db (.unknown "insert_user_profile"
        (SqlxError.uniqueViolation 1555 "user_profiles.id").display)))) ∈ σ.log)
    (by decide +kernel)
  exact ⟨σ, hσ, ann, hj₀, hj₁, ho₀, _, ho₁, rfl, rfl⟩

end Servir.Consumer
