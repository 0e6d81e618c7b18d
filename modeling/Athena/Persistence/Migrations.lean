import Mathlib.Algebra.Group.Int.Defs
import Mathlib.Data.List.Nodup
import Athena.Library.Trace
import Athena.Library.Transaction
import Athena.Python.Exception

/-!
# Schema migrations

`apply_migrations` runs every migration of the release that the database has not recorded, inside
one transaction that it opens with `BEGIN IMMEDIATE`. The schema type is a parameter: a migration is
any function on it that may raise, and since it works on the working copy only, it cannot commit by
itself. Each run is given the faults its environment injects, one for every statement that can
raise.

The result of the module is that all the runs on one database file, of old and new releases in any
order, walk along one path: between runs the database is at some release `k`, a run that succeeds
moves to the later of `k` and its own release, and a run that raises changes nothing.
-/

namespace Athena.Persistence

open Library Library.Program Library.Session

abbrev Migration (S : Type) := Int × (S → Except PyException S)

/-- The database file: the application schema, and the `schema_migrations` table once it exists. -/
structure Catalog (S : Type) where
  schema : S
  schemaMigrations : Option (List Int) := none
  deriving DecidableEq

def Catalog.appliedVersions {S : Type} (c : Catalog S) : List Int := c.schemaMigrations.getD []

/-- What the environment makes of one run. A migration that raises may leave any schema behind in
the working copy. -/
structure Faults (S : Type) where
  beginImmediate : Option PyException := none
  createTable : Option PyException := none
  selectVersions : Option PyException := none
  migration : Int → Option (S × PyException) := fun _ => none
  insertVersion : Int → Option PyException := fun _ => none
  commit : Option PyException := none

variable {S : Type}

def createSchemaMigrations (fault : Option PyException) : Program PyException (Catalog S) Unit := do
  mayRaise fault
  modify fun c => { c with schemaMigrations := some c.appliedVersions }

def selectVersions (fault : Option PyException) : Program PyException (Catalog S) (List Int) := do
  mayRaise fault
  let c ← get
  return c.appliedVersions

def runMigration (fault : Option (S × PyException)) (migration : S → Except PyException S) :
    Program PyException (Catalog S) Unit := do
  let c ← get
  match fault, migration c.schema with
  | some (left, e), _ => do set { c with schema := left }; throw e
  | none, .ok schema => set { c with schema := schema }
  | none, .error e => throw e

/-- `version` is an `INTEGER PRIMARY KEY`, so a 64-bit integer that no other row has. -/
def insertVersion (fault : Option PyException) (version : Int) :
    Program PyException (Catalog S) Unit := do
  mayRaise fault
  let c ← get
  if version < -2 ^ 63 ∨ 2 ^ 63 ≤ version then
    throw (.overflowError "Python int too large to convert to SQLite INTEGER")
  else if version ∈ c.appliedVersions then
    throw (.integrityError "UNIQUE constraint failed: schema_migrations.version")
  else
    set { c with schemaMigrations := some (c.appliedVersions ++ [version]) }

def applyUnapplied (faults : Faults S) (applied : List Int) :
    List (Migration S) → Program PyException (Catalog S) Unit
  | [] => pure ()
  | (version, migration) :: rest => do
      if version ∉ applied then
        runMigration (faults.migration version) migration
        insertVersion (faults.insertVersion version) version
      applyUnapplied faults applied rest

def upgrade (MIGRATIONS : List (Migration S)) (faults : Faults S) :
    Program PyException (Catalog S) Unit := do
  createSchemaMigrations faults.createTable
  let applied ← selectVersions faults.selectVersions
  applyUnapplied faults applied MIGRATIONS

def applyMigrations (MIGRATIONS : List (Migration S)) (faults : Faults S) :
    Program PyException (Session (Catalog S)) Unit := do
  begin faults.beginImmediate
  committing (statement (upgrade MIGRATIONS faults)) faults.commit

/-! ### What one run can do -/

def migrateAll (migrations : List (Migration S)) (schema : S) : Except PyException S :=
  migrations.foldlM (fun schema migration => migration.2 schema) schema

theorem migrateAll_cons (m : Migration S) (migrations : List (Migration S)) (schema : S) :
    migrateAll (m :: migrations) schema = m.2 schema >>= migrateAll migrations := rfl

theorem migrateAll_append (old new : List (Migration S)) (schema : S) :
    migrateAll (old ++ new) schema = migrateAll old schema >>= migrateAll new :=
  List.foldlM_append

theorem createSchemaMigrations_ok {fault : Option PyException} {c c' : Catalog S}
    (h : exec (createSchemaMigrations fault) c = (.ok (), c')) :
    c' = { c with schemaMigrations := some c.appliedVersions } := by
  cases fault with
  | none => simpa [createSchemaMigrations, exec_bind] using h.symm
  | some e => simp [createSchemaMigrations, exec_bind] at h

theorem selectVersions_ok {fault : Option PyException} {c c' : Catalog S} {versions : List Int}
    (h : exec (selectVersions fault) c = (.ok versions, c')) :
    versions = c.appliedVersions ∧ c' = c := by
  cases fault with
  | none =>
      simp only [selectVersions, exec_bind, exec_mayRaise_none, exec_get, exec_pure, Prod.mk.injEq,
        Except.ok.injEq] at h
      exact ⟨h.1.symm, h.2.symm⟩
  | some e => simp [selectVersions, exec_bind] at h

theorem runMigration_ok {fault : Option (S × PyException)} {migration : S → Except PyException S}
    {c c' : Catalog S} (h : exec (runMigration fault migration) c = (.ok (), c')) :
    ∃ schema, migration c.schema = .ok schema ∧ c' = { c with schema := schema } := by
  simp only [runMigration, exec_bind, exec_get] at h
  rcases fault with _ | ⟨left, e⟩
  · cases hmigration : migration c.schema with
    | ok schema => exact ⟨schema, rfl, by simpa [hmigration] using h.symm⟩
    | error e => simp [hmigration] at h
  · simp [exec_bind] at h

theorem insertVersion_ok {fault : Option PyException} {version : Int} {c c' : Catalog S}
    (h : exec (insertVersion fault version) c = (.ok (), c')) :
    version ∉ c.appliedVersions ∧
      c' = { c with schemaMigrations := some (c.appliedVersions ++ [version]) } := by
  cases fault with
  | some e => simp [insertVersion, exec_bind] at h
  | none =>
      simp only [insertVersion, exec_bind, exec_mayRaise_none, exec_get] at h
      split at h
      · simp at h
      · split at h
        · simp at h
        · rename_i hnew
          exact ⟨hnew, by simpa using h.symm⟩

theorem applyUnapplied_append_of_recorded (faults : Faults S) {applied : List Int}
    {old : List (Migration S)} (hold : ∀ m ∈ old, m.1 ∈ applied) (new : List (Migration S)) :
    applyUnapplied faults applied (old ++ new) = applyUnapplied faults applied new := by
  induction old with
  | nil => rfl
  | cons m old ih =>
      have hm : m.1 ∈ applied := hold m List.mem_cons_self
      rw [List.cons_append, applyUnapplied, if_neg (not_not_intro hm)]
      exact ih fun m' hm' => hold m' (List.mem_cons_of_mem m hm')

/-- Where nothing is recorded yet, a loop that returns ran every migration in list order. -/
theorem applyUnapplied_ok {faults : Faults S} {applied : List Int} {new : List (Migration S)}
    (hnew : ∀ m ∈ new, m.1 ∉ applied) {c c' : Catalog S}
    (h : exec (applyUnapplied faults applied new) c = (.ok (), c')) :
    migrateAll new c.schema = .ok c'.schema ∧
      c'.appliedVersions = c.appliedVersions ++ new.map Prod.fst := by
  induction new generalizing c with
  | nil =>
      obtain rfl : c = c' := by simpa [applyUnapplied] using h
      exact ⟨rfl, by simp⟩
  | cons m new ih =>
      obtain ⟨version, migration⟩ := m
      have hm : version ∉ applied := hnew _ List.mem_cons_self
      rw [applyUnapplied, if_pos hm] at h
      obtain ⟨_, c₁, hrun, h⟩ := exec_bind_eq_ok h
      obtain ⟨_, c₂, hinsert, hrest⟩ := exec_bind_eq_ok h
      obtain ⟨schema, hmigration, rfl⟩ := runMigration_ok hrun
      obtain ⟨-, rfl⟩ := insertVersion_ok hinsert
      obtain ⟨hschema, hversions⟩ := ih (fun m' hm' => hnew m' (List.mem_cons_of_mem _ hm')) hrest
      constructor
      · rw [migrateAll_cons]
        change migration c.schema >>= _ = _
        rw [hmigration]
        exact hschema
      · rw [hversions]
        simp [Catalog.appliedVersions]

theorem upgrade_ok {old new : List (Migration S)} {faults : Faults S} {c c' : Catalog S}
    (hold : ∀ m ∈ old, m.1 ∈ c.appliedVersions) (hnew : ∀ m ∈ new, m.1 ∉ c.appliedVersions)
    (h : exec (upgrade (old ++ new) faults) c = (.ok (), c')) :
    migrateAll new c.schema = .ok c'.schema ∧
      c'.appliedVersions = c.appliedVersions ++ new.map Prod.fst := by
  obtain ⟨_, c₁, hcreate, hrest⟩ := exec_bind_eq_ok h
  obtain ⟨applied, c₂, hselect, hloop⟩ := exec_bind_eq_ok hrest
  obtain rfl := createSchemaMigrations_ok hcreate
  obtain ⟨rfl, rfl⟩ := selectVersions_ok hselect
  change exec (applyUnapplied faults c.appliedVersions (old ++ new)) _ = _ at hloop
  rw [applyUnapplied_append_of_recorded faults hold] at hloop
  simpa [Catalog.appliedVersions] using applyUnapplied_ok hnew hloop

/-- A run either raises and leaves the file alone, or returns what its transaction built. It never
leaves the connection inside a transaction. -/
theorem applyMigrations_cases (MIGRATIONS : List (Migration S)) (faults : Faults S)
    (c : Catalog S) :
    (∃ c', exec (upgrade MIGRATIONS faults) c = (.ok (), c') ∧
        exec (applyMigrations MIGRATIONS faults) ⟨c, none⟩ = (.ok (), ⟨c', none⟩)) ∨
      ∃ e, exec (applyMigrations MIGRATIONS faults) ⟨c, none⟩ = (.error e, ⟨c, none⟩) := by
  rw [applyMigrations, exec_bind]
  cases faults.beginImmediate with
  | some e => exact .inr ⟨e, rfl⟩
  | none =>
      rw [exec_begin_none]
      rcases committing_statement (upgrade MIGRATIONS faults) faults.commit c c with
        ⟨_, c', hbody, -, hrun⟩ | ⟨e, hrun⟩
      · exact .inl ⟨c', hbody, hrun⟩
      · exact .inr ⟨e, hrun⟩

/-! ### Runs of every release on one file

The releases carry prefixes of one list, so a release is the number of migrations it carries. -/

/-- One run of `apply_migrations`: the release it belongs to, what went wrong, and how it ended. -/
structure MigrationRun (S : Type) where
  release : Nat
  faults : Faults S
  outcome : Except PyException Unit

/-- A run of release `r.release` takes the file from `c` to `c'`, and leaves its connection outside
a transaction. `BEGIN IMMEDIATE` lets one run at a time in, so a run is one step. -/
def MigrationStep (history : List (Migration S)) (c : Catalog S) (r : MigrationRun S)
    (c' : Catalog S) : Prop :=
  r.release ≤ history.length ∧
    exec (applyMigrations (history.take r.release) r.faults) ⟨c, none⟩ = (r.outcome, ⟨c', none⟩)

/-- The file is at release `k`: its schema is what the first `k` migrations build in list order, and
exactly their versions are recorded. -/
structure AtRelease (history : List (Migration S)) (empty : S) (k : Nat) (c : Catalog S) :
    Prop where
  le_length : k ≤ history.length
  schema : migrateAll (history.take k) empty = .ok c.schema
  versions : c.appliedVersions = (history.take k).map Prod.fst

/-- The latest release among the runs that succeeded. -/
def latestRelease (runs : List (MigrationRun S)) : Nat :=
  runs.foldl (fun k r => match r.outcome with | .ok _ => max k r.release | .error _ => k) 0

theorem latestRelease_concat (runs : List (MigrationRun S)) (r : MigrationRun S) :
    latestRelease (runs ++ [r]) =
      match r.outcome with
      | .ok _ => max (latestRelease runs) r.release
      | .error _ => latestRelease runs := by
  simp only [latestRelease, List.foldl_append, List.foldl_cons, List.foldl_nil]

variable {history : List (Migration S)} {empty : S} {k : Nat} {c c' : Catalog S}
  {r : MigrationRun S}

/-- No run ends inside its transaction. -/
theorem exists_migrationStep {release : Nat} (hrelease : release ≤ history.length)
    (faults : Faults S)
    (c : Catalog S) : ∃ outcome c', MigrationStep history c ⟨release, faults, outcome⟩ c' := by
  rcases applyMigrations_cases (history.take release) faults c with ⟨c', -, hok⟩ | ⟨e, herror⟩
  · exact ⟨_, c', hrelease, hok⟩
  · exact ⟨_, c, hrelease, herror⟩

theorem MigrationStep.of_error {e : PyException} (h : MigrationStep history c r c')
    (hraised : r.outcome = .error e) : c' = c := by
  obtain ⟨-, hrun⟩ := h
  rcases applyMigrations_cases (history.take r.release) r.faults c with ⟨_, -, hok⟩ | ⟨_, herror⟩
  · rw [hok, hraised] at hrun
    simp at hrun
  · rw [herror] at hrun
    simpa using (congrArg (fun result => result.2.durable) hrun).symm

/-- The recorded versions are those of the first `k` migrations, so the first `k` are skipped and,
the versions being distinct, none of the later ones is. -/
theorem AtRelease.recorded_iff (h : AtRelease history empty k c)
    (hdistinct : (history.map Prod.fst).Nodup) :
    (∀ m ∈ history.take k, m.1 ∈ c.appliedVersions) ∧
      ∀ m ∈ history.drop k, m.1 ∉ c.appliedVersions := by
  rw [h.versions]
  refine ⟨fun m hm => List.mem_map_of_mem hm, fun m hm hmem => ?_⟩
  rw [← List.take_append_drop k history, List.map_append] at hdistinct
  exact List.disjoint_of_nodup_append hdistinct hmem (List.mem_map_of_mem hm)

/-- A run that succeeds puts exactly the migrations past the first `k` into effect, in list order.
-/
theorem MigrationStep.effect (h : MigrationStep history c r c') (hat : AtRelease history empty k c)
    (hdistinct : (history.map Prod.fst).Nodup) (hreturned : r.outcome = .ok ()) :
    migrateAll ((history.take r.release).drop k) c.schema = .ok c'.schema ∧
      c'.appliedVersions = c.appliedVersions ++ ((history.take r.release).drop k).map Prod.fst := by
  obtain ⟨-, hrun⟩ := h
  obtain ⟨hold, hnew⟩ := hat.recorded_iff hdistinct
  have hupgrade : exec (upgrade (history.take r.release) r.faults) c = (.ok (), c') := by
    rcases applyMigrations_cases (history.take r.release) r.faults c with
      ⟨c'', hbody, hok⟩ | ⟨e, herror⟩
    · obtain rfl : c'' = c' := by
        rw [hok] at hrun
        simpa using congrArg (fun result => result.2.durable) hrun
      exact hbody
    · rw [herror, hreturned] at hrun
      simp at hrun
  rw [← List.take_append_drop k (history.take r.release)] at hupgrade
  apply upgrade_ok _ _ hupgrade
  · intro m hm
    rw [List.take_take] at hm
    exact hold m (List.take_subset_take_left history (Nat.min_le_left _ _) hm)
  · intro m hm
    exact hnew m (((List.take_sublist r.release history).drop k).subset hm)

theorem MigrationStep.of_ok (h : MigrationStep history c r c') (hat : AtRelease history empty k c)
    (hdistinct : (history.map Prod.fst).Nodup) (hreturned : r.outcome = .ok ()) :
    AtRelease history empty (max k r.release) c' := by
  obtain ⟨hschema, hversions⟩ := h.effect hat hdistinct hreturned
  have hsplit :
      history.take (max k r.release) = history.take k ++ (history.take r.release).drop k := by
    rcases Nat.le_total r.release k with hback | hforward
    · -- An older release has nothing past the first `k`.
      have hnone : (history.take r.release).length ≤ k :=
        Nat.le_trans (List.length_take_le _ history) hback
      rw [Nat.max_eq_left hback, List.drop_eq_nil_of_le hnone, List.append_nil]
    · rw [Nat.max_eq_right hforward]
      have hcut := (List.take_append_drop k (history.take r.release)).symm
      rwa [List.take_take, Nat.min_eq_left hforward] at hcut
  refine ⟨Nat.max_le.mpr ⟨hat.le_length, h.1⟩, ?_, ?_⟩
  · rw [hsplit, migrateAll_append, hat.schema]
    exact hschema
  · rw [hsplit, hversions, hat.versions, ← List.map_append]

theorem atRelease_latestRelease (hdistinct : (history.map Prod.fst).Nodup)
    {runs : List (MigrationRun S)} (h : Trace (MigrationStep history) ⟨empty, none⟩ runs c) :
    AtRelease history empty (latestRelease runs) c := by
  apply h.invariant
  · exact ⟨Nat.zero_le _, rfl, rfl⟩
  · intro runs c r c' _ hat hstep
    rw [latestRelease_concat]
    cases hout : r.outcome with
    | ok u => exact hstep.of_ok hat hdistinct hout
    | error e =>
        rw [hstep.of_error hout]
        exact hat

theorem AtRelease.unique (h : AtRelease history empty k c) (h' : AtRelease history empty k c') :
    c'.schema = c.schema ∧ c'.appliedVersions = c.appliedVersions := by
  have hschema := h'.schema.symm.trans h.schema
  exact ⟨by simpa using hschema, h'.versions.trans h.versions.symm⟩

/-- **One upgrade path.** However the runs of old and new releases follow each other and wherever
they raise, the file is between runs at the latest release `k` that succeeded: no migration is
recorded twice; a further run comes to an end outside its transaction; if it succeeds, it moves to
the later of `k` and its own release, by applying just the migrations in between; if it raises, it
leaves the file as it was; and any other sequence of runs that got as far left the same schema. -/
theorem applyMigrations_one_upgrade_path (history : List (Migration S)) (empty : S)
    (hdistinct : (history.map Prod.fst).Nodup) (runs : List (MigrationRun S)) (c : Catalog S)
    (h : Trace (MigrationStep history) ⟨empty, none⟩ runs c) :
    AtRelease history empty (latestRelease runs) c ∧ c.appliedVersions.Nodup ∧
      (∀ release faults, release ≤ history.length →
        ∃ outcome c', MigrationStep history c ⟨release, faults, outcome⟩ c') ∧
      (∀ r c', MigrationStep history c r c' →
        match r.outcome with
        | .ok _ =>
            AtRelease history empty (max (latestRelease runs) r.release) c' ∧
              migrateAll ((history.take r.release).drop (latestRelease runs)) c.schema =
                .ok c'.schema
        | .error _ => c' = c) ∧
      ∀ runs' c', Trace (MigrationStep history) ⟨empty, none⟩ runs' c' →
        latestRelease runs' = latestRelease runs →
          c'.schema = c.schema ∧ c'.appliedVersions = c.appliedVersions := by
  have hat := atRelease_latestRelease hdistinct h
  refine ⟨hat, ?_, fun release faults hrelease => exists_migrationStep hrelease faults c,
    fun r c' hstep => ?_, fun runs' c' h' hsame => ?_⟩
  · rw [hat.versions]
    exact hdistinct.sublist ((List.take_sublist _ history).map Prod.fst)
  · cases hout : r.outcome with
    | ok u => exact ⟨hstep.of_ok hat hdistinct hout, (hstep.effect hat hdistinct hout).1⟩
    | error e => exact hstep.of_error hout
  · exact hat.unique (hsame ▸ atRelease_latestRelease hdistinct h')

/-- A fresh install of release 1, an upgrade to release 2 that fails in its second migration, the
upgrade tried again, and release 1 started once more. -/
theorem applyMigrations_one_upgrade_path_rolling_upgrade :
    let createTable (name : String) : List String → Except PyException (List String) :=
  fun tables => .ok (tables ++ [name])
    AtRelease [(1, createTable "datasets"), (2, createTable "owners")] [] 2
      ⟨["datasets", "owners"], some [1, 2]⟩ := by
  intro createTable
  let history : List (Migration (List String)) :=
    [(1, createTable "datasets"), (2, createTable "owners")]
  let busy : Faults (List String) :=
    { migration := fun _ => some (["half"], .operationalError "disk I/O error") }
  have hfresh : MigrationStep history ⟨[], none⟩ ⟨1, {}, .ok ()⟩ ⟨["datasets"], some [1]⟩ :=
    ⟨by decide, rfl⟩
  have hfail : MigrationStep history ⟨["datasets"], some [1]⟩ ⟨2, busy,
      .error (.operationalError "disk I/O error")⟩ ⟨["datasets"], some [1]⟩ := ⟨by decide, rfl⟩
  have hretry : MigrationStep history ⟨["datasets"], some [1]⟩ ⟨2, {}, .ok ()⟩
      ⟨["datasets", "owners"], some [1, 2]⟩ := ⟨by decide, rfl⟩
  have hback : MigrationStep history ⟨["datasets", "owners"], some [1, 2]⟩ ⟨1, {}, .ok ()⟩
      ⟨["datasets", "owners"], some [1, 2]⟩ := ⟨by decide, rfl⟩
  exact (applyMigrations_one_upgrade_path history [] (by decide) _ _
    ((((Trace.nil.snoc hfresh).snoc hfail).snoc hretry).snoc hback)).1

end Athena.Persistence
