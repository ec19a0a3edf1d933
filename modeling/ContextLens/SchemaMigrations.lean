import ContextLens.Foundations.LabelledSystem
import ContextLens.Foundations.SchemaMigration

/-!
# The database under its migrations

The eight versions of `alembic/versions`, one after the other, and the statements that the
application runs between them.

* `MigratedDatabase.Consistent.step`: the schema is the one of the version, and the rows fit it.
* `migrations_never_fail`: from every state the next upgrade and the next downgrade go through.
* `migrations_round_trip`: upgrades and as many downgrades bring the rows back.

### The three design decisions

**A version is a list of operations, and it runs as a whole.**  PostgreSQL changes a schema
within a transaction, and `env.py` opens one around the versions it runs; a version that fails
leaves nothing behind.  So a step of `migratedSystem` is a whole version, up or down, and what
a failed one would leave is no state.  What an operation does to the schema and to the rows is
`Foundations.SchemaMigration`, for any migration; this module has the lists.

**The rows are any rows that the statements could write.**  Between two versions any statement
is run against the schema of the version at hand, of the application at that version or of
somebody at a prompt: an insert, an update or a delete that the table takes.  A version has no
say in which rows it finds, so "no migration fails" is about all of them.

**The values stay abstract.**  A value is of any type `V`, with the constants that the
migrations name put into it by `stored` and the time given by the event.  No version computes
with a value that it finds.

### What is load-bearing

A column is made `NOT NULL` in the fifth version only, after it has been filled, and added as
`NOT NULL` only with a default.  `ready` is this condition on a list of operations, `decide`
checks it of all eight versions in both directions, and `run_of_ready` is all that
`migrations_never_fail` needs to know of them.

### What is left out

The types of the columns and what is unique: a version makes a column unique only together
with its table, so no row is in its way.  Foreign keys belong to the schema and are compared
with those of the models, but the rows are not checked against them: no version adds one to a
table that has rows.  A statement gives the `id` that the sequence drew.
-/

namespace ContextLens

open Foundations Foundations.Migration

variable {V : Type}

/-! ## The versions -/

/-- A value that a migration names. -/
inductive Constant
  | text (value : String)
  | integer (value : Int)
  | boolean (value : Bool)
deriving DecidableEq

/-- A default: a constant, or the time of the migration or of the statement. -/
inductive Literal
  | constant (value : Constant)
  | now
deriving DecidableEq

def Literal.eval (stored : Constant → V) (now : V) : Literal → V
  | .constant value => stored value
  | .now => now

/-- A file of `alembic/versions`. -/
structure MigrationVersion where
  revision : String
  downRevision : Option String
  upgrade : List (Op Literal)
  downgrade : List (Op Literal)

/-- A column with `nullable=False`. -/
def required (name : String) : Column Literal := ⟨name, true, none⟩

/-- A column with `nullable=True`. -/
def nullable (name : String) : Column Literal := ⟨name, false, none⟩

/-- A column with `nullable=False` and a `server_default`. -/
def defaulted (name : String) (value : Constant) : Column Literal :=
  ⟨name, true, some (.constant value)⟩

def createdAt : Column Literal := ⟨"created_at", true, some .now⟩

def createDocumentsAndChunks : MigrationVersion where
  revision := "0001"
  downRevision := none
  upgrade :=
    [.createTable "documents"
      [required "id", required "title", required "source_type", required "file_path",
        nullable "raw_text", nullable "metadata_json", required "status", createdAt] [],
    .createTable "chunks"
      [required "id", required "document_id", required "content", required "chunk_index",
        required "start_char", required "end_char", nullable "metadata_json"]
      [("document_id", "documents")],
    .createIndex "ix_chunks_document_id" "chunks" ["document_id"],
    .createIndex "idx_chunks_document_index" "chunks" ["document_id", "chunk_index"]]
  downgrade :=
    [.dropIndex "idx_chunks_document_index" "chunks",
    .dropIndex "ix_chunks_document_id" "chunks",
    .dropTable "chunks",
    .dropTable "documents"]

def addEmbeddingToChunks : MigrationVersion where
  revision := "0002"
  downRevision := some "0001"
  upgrade := [.addColumn "chunks" (nullable "embedding")]
  downgrade := [.dropColumn "chunks" "embedding"]

def addHnswIndexOnEmbedding : MigrationVersion where
  revision := "0003"
  downRevision := some "0002"
  upgrade := [.createIndex "idx_chunks_embedding_cosine" "chunks" ["embedding"]]
  downgrade := [.dropIndex "idx_chunks_embedding_cosine" "chunks"]

def metricsSchemaRunsEval : MigrationVersion where
  revision := "0004"
  downRevision := some "0003"
  upgrade :=
    [.createTable "datasets"
      [required "id", required "name", nullable "metadata_json", createdAt] [],
    .createTable "pipeline_configs"
      [required "id", nullable "name", nullable "metadata_json", createdAt] [],
    .createTable "query_cases"
      [required "id", required "dataset_id", required "query", nullable "metadata_json", createdAt]
      [("dataset_id", "datasets")],
    .createIndex "ix_query_cases_dataset_id" "query_cases" ["dataset_id"],
    .createTable "runs"
      [required "id", required "query_case_id", required "pipeline_config_id",
        defaulted "status" (.text "pending"), nullable "retrieval_latency_ms",
        nullable "generation_latency_ms", nullable "evaluation_latency_ms",
        nullable "total_latency_ms", createdAt]
      [("query_case_id", "query_cases"), ("pipeline_config_id", "pipeline_configs")],
    .createIndex "ix_runs_query_case_id" "runs" ["query_case_id"],
    .createIndex "ix_runs_pipeline_config_id" "runs" ["pipeline_config_id"],
    .createTable "retrieval_results"
      [required "id", required "run_id", required "chunk_id", required "rank", required "score"]
      [("chunk_id", "chunks"), ("run_id", "runs")],
    .createIndex "ix_retrieval_results_run_id" "retrieval_results" ["run_id"],
    .createIndex "ix_retrieval_results_chunk_id" "retrieval_results" ["chunk_id"],
    .createTable "evaluation_results"
      [required "id", required "run_id", nullable "faithfulness", nullable "completeness",
        nullable "retrieval_relevance", nullable "context_coverage", nullable "failure_type",
        defaulted "used_llm_judge" (.boolean false), nullable "cost_usd", createdAt]
      [("run_id", "runs")],
    .createIndex "ix_evaluation_results_run_id" "evaluation_results" ["run_id"]]
  downgrade :=
    [.dropIndex "ix_evaluation_results_run_id" "evaluation_results",
    .dropTable "evaluation_results",
    .dropIndex "ix_retrieval_results_chunk_id" "retrieval_results",
    .dropIndex "ix_retrieval_results_run_id" "retrieval_results",
    .dropTable "retrieval_results",
    .dropIndex "ix_runs_pipeline_config_id" "runs",
    .dropIndex "ix_runs_query_case_id" "runs",
    .dropTable "runs",
    .dropIndex "ix_query_cases_dataset_id" "query_cases",
    .dropTable "query_cases",
    .dropTable "pipeline_configs",
    .dropTable "datasets"]

def traceSchemaExpand : MigrationVersion where
  revision := "0005"
  downRevision := some "0004"
  upgrade :=
    [.addColumn "datasets" (nullable "description"),
    .renameColumn "query_cases" "query" "query_text",
    .addColumn "query_cases" (nullable "expected_answer"),
    .addColumn "pipeline_configs" (nullable "embedding_model"),
    .addColumn "pipeline_configs" (nullable "chunk_strategy"),
    .addColumn "pipeline_configs" (nullable "chunk_size"),
    .addColumn "pipeline_configs" (nullable "chunk_overlap"),
    .addColumn "pipeline_configs" (nullable "top_k"),
    .fillNull "pipeline_configs" "name" (.constant (.text "legacy")),
    .fillNull "pipeline_configs" "embedding_model" (.constant (.text "all-MiniLM-L6-v2")),
    .fillNull "pipeline_configs" "chunk_strategy" (.constant (.text "fixed")),
    .fillNull "pipeline_configs" "chunk_size" (.constant (.integer 512)),
    .fillNull "pipeline_configs" "chunk_overlap" (.constant (.integer 0)),
    .fillNull "pipeline_configs" "top_k" (.constant (.integer 5)),
    .setNotNull "pipeline_configs" "name",
    .setNotNull "pipeline_configs" "embedding_model",
    .setNotNull "pipeline_configs" "chunk_strategy",
    .setNotNull "pipeline_configs" "chunk_size",
    .setNotNull "pipeline_configs" "chunk_overlap",
    .setNotNull "pipeline_configs" "top_k",
    .addColumn "retrieval_results" createdAt,
    .createIndex "ix_retrieval_results_run_id_rank" "retrieval_results" ["run_id", "rank"],
    .addColumn "evaluation_results" (nullable "metadata_json")]
  downgrade :=
    [.dropColumn "evaluation_results" "metadata_json",
    .dropIndex "ix_retrieval_results_run_id_rank" "retrieval_results",
    .dropColumn "retrieval_results" "created_at",
    .dropNotNull "pipeline_configs" "top_k",
    .dropNotNull "pipeline_configs" "chunk_overlap",
    .dropNotNull "pipeline_configs" "chunk_size",
    .dropNotNull "pipeline_configs" "chunk_strategy",
    .dropNotNull "pipeline_configs" "embedding_model",
    .dropNotNull "pipeline_configs" "name",
    .dropColumn "pipeline_configs" "top_k",
    .dropColumn "pipeline_configs" "chunk_overlap",
    .dropColumn "pipeline_configs" "chunk_size",
    .dropColumn "pipeline_configs" "chunk_strategy",
    .dropColumn "pipeline_configs" "embedding_model",
    .dropColumn "query_cases" "expected_answer",
    .renameColumn "query_cases" "query_text" "query",
    .dropColumn "datasets" "description"]

def generationResultsGroundedness : MigrationVersion where
  revision := "0006"
  downRevision := some "0005"
  upgrade :=
    [.createTable "generation_results"
      [required "id", required "run_id", required "answer_text", required "model_id",
        nullable "input_tokens", nullable "output_tokens", nullable "metadata_json", createdAt]
      [("run_id", "runs")],
    .createIndex "ix_generation_results_run_id" "generation_results" ["run_id"],
    .addColumn "evaluation_results" (nullable "groundedness")]
  downgrade :=
    [.dropColumn "evaluation_results" "groundedness",
    .dropIndex "ix_generation_results_run_id" "generation_results",
    .dropTable "generation_results"]

def runsMetadataJson : MigrationVersion where
  revision := "0007"
  downRevision := some "0006"
  upgrade := [.addColumn "runs" (nullable "metadata_json")]
  downgrade := [.dropColumn "runs" "metadata_json"]

def traceInstrumentationDiagnosisSessions : MigrationVersion where
  revision := "0008_trace_instr_diag"
  downRevision := some "0007"
  upgrade :=
    [.addColumn "runs" (nullable "trace_instrumentation_json"),
    .createTable "diagnosis_timing_sessions"
      [required "id", required "run_id", required "mode", required "started_at",
        nullable "first_meaningful_insight_at", nullable "completed_at",
        nullable "resolution_label", nullable "notes", nullable "session_key",
        defaulted "synthetic" (.boolean false), createdAt]
      [("run_id", "runs")],
    .createIndex "ix_diagnosis_timing_sessions_run_id" "diagnosis_timing_sessions" ["run_id"]]
  downgrade :=
    [.dropIndex "ix_diagnosis_timing_sessions_run_id" "diagnosis_timing_sessions",
    .dropTable "diagnosis_timing_sessions",
    .dropColumn "runs" "trace_instrumentation_json"]

/-- The versions in the order of their `down_revision`s. -/
def versions : List MigrationVersion :=
  [createDocumentsAndChunks, addEmbeddingToChunks, addHnswIndexOnEmbedding, metricsSchemaRunsEval,
    traceSchemaExpand, generationResultsGroundedness, runsMetadataJson,
    traceInstrumentationDiagnosisSessions]

/-- The tables of `app/models`. -/
def models : Schema Literal :=
  [⟨"documents",
    [required "id", required "title", required "source_type", required "file_path",
      nullable "raw_text", nullable "metadata_json", required "status", createdAt], [], []⟩,
  ⟨"chunks",
    [required "id", required "document_id", required "content", required "chunk_index",
      required "start_char", required "end_char", nullable "metadata_json", nullable "embedding"],
    [("document_id", "documents")],
    [("ix_chunks_document_id", ["document_id"]),
      ("idx_chunks_document_index", ["document_id", "chunk_index"])]⟩,
  ⟨"datasets",
    [required "id", required "name", nullable "description", nullable "metadata_json", createdAt],
    [], []⟩,
  ⟨"pipeline_configs",
    [required "id", required "name", required "embedding_model", required "chunk_strategy",
      required "chunk_size", required "chunk_overlap", required "top_k",
      nullable "metadata_json", createdAt], [], []⟩,
  ⟨"query_cases",
    [required "id", required "dataset_id", required "query_text", nullable "expected_answer",
      nullable "metadata_json", createdAt],
    [("dataset_id", "datasets")], [("ix_query_cases_dataset_id", ["dataset_id"])]⟩,
  ⟨"runs",
    [required "id", required "query_case_id", required "pipeline_config_id", required "status",
      nullable "retrieval_latency_ms", nullable "generation_latency_ms",
      nullable "evaluation_latency_ms", nullable "total_latency_ms", nullable "metadata_json",
      nullable "trace_instrumentation_json", createdAt],
    [("query_case_id", "query_cases"), ("pipeline_config_id", "pipeline_configs")],
    [("ix_runs_query_case_id", ["query_case_id"]),
      ("ix_runs_pipeline_config_id", ["pipeline_config_id"])]⟩,
  ⟨"retrieval_results",
    [required "id", required "run_id", required "chunk_id", required "rank", required "score",
      createdAt],
    [("run_id", "runs"), ("chunk_id", "chunks")],
    [("ix_retrieval_results_run_id", ["run_id"]),
      ("ix_retrieval_results_chunk_id", ["chunk_id"])]⟩,
  ⟨"evaluation_results",
    [required "id", required "run_id", nullable "faithfulness", nullable "completeness",
      nullable "retrieval_relevance", nullable "context_coverage", nullable "groundedness",
      nullable "failure_type", required "used_llm_judge", nullable "cost_usd",
      nullable "metadata_json", createdAt],
    [("run_id", "runs")], [("ix_evaluation_results_run_id", ["run_id"])]⟩,
  ⟨"generation_results",
    [required "id", required "run_id", required "answer_text", required "model_id",
      nullable "input_tokens", nullable "output_tokens", nullable "metadata_json", createdAt],
    [("run_id", "runs")], [("ix_generation_results_run_id", ["run_id"])]⟩,
  ⟨"diagnosis_timing_sessions",
    [required "id", required "run_id", required "mode", required "started_at",
      nullable "first_meaningful_insight_at", nullable "completed_at",
      nullable "resolution_label", nullable "notes", nullable "session_key",
      required "synthetic", createdAt],
    [("run_id", "runs")],
    [("ix_diagnosis_timing_sessions_run_id", ["run_id"])]⟩]

/-! ## The database -/

/-- The schema after the first versions. -/
def schemaAt : Nat → Option (Schema Literal)
  | 0 => some []
  | count + 1 => versions[count]?.bind fun version =>
      (schemaAt count).bind (runSchema version.upgrade)

/-- The database: how many versions are applied, its schema and its rows. -/
structure MigratedDatabase (V : Type) where
  applied : Nat
  schema : Schema Literal
  rows : Rows V

namespace MigratedDatabase

def empty : MigratedDatabase V := ⟨0, [], fun _ => []⟩

/-- `alembic upgrade +1`. -/
def upgrade (stored : Constant → V) (now : V) (db : MigratedDatabase V) :
    Option (MigratedDatabase V) := do
  let version ← versions[db.applied]?
  let schema ← runSchema version.upgrade db.schema
  let rows ← run (Literal.eval stored now) version.upgrade db.rows
  some ⟨db.applied + 1, schema, rows⟩

/-- `alembic downgrade -1`. -/
def downgrade (stored : Constant → V) (now : V) (db : MigratedDatabase V) :
    Option (MigratedDatabase V) :=
  match db.applied with
  | 0 => none
  | applied + 1 => do
      let version ← versions[applied]?
      let schema ← runSchema version.downgrade db.schema
      let rows ← run (Literal.eval stored now) version.downgrade db.rows
      some ⟨applied, schema, rows⟩

/-- A statement of the application. -/
def execute (stored : Constant → V) (now : V) (statement : Statement V) (db : MigratedDatabase V) :
    Option (MigratedDatabase V) :=
  (statement.exec (Literal.eval stored now) db.schema db.rows).map fun rows =>
    { db with rows := rows }

end MigratedDatabase

/-- What happens to the database, with the time of each. -/
inductive DatabaseEvent (V : Type)
  | upgrade (now : V)
  | downgrade (now : V)
  | execute (now : V) (statement : Statement V)

def migratedSystem (stored : Constant → V) :
    LabelledSystem (MigratedDatabase V) (DatabaseEvent V) where
  step db
    | .upgrade now => db.upgrade stored now
    | .downgrade now => db.downgrade stored now
    | .execute now statement => db.execute stored now statement

/-! ## What holds of the versions -/

/-- The versions are a chain. -/
theorem downRevision_eq :
    versions.map MigrationVersion.downRevision =
      none :: (versions.dropLast.map fun version => some version.revision) := rfl

theorem downgrade_eq_undo {version : MigrationVersion} (h : version ∈ versions) :
    version.downgrade = undo version.upgrade := by
  revert version
  decide +kernel

theorem upgrade_undoable {version : MigrationVersion} (h : version ∈ versions) :
    version.upgrade.all Op.undoable = true := by
  revert version
  decide +kernel

theorem upgrade_ready {version : MigrationVersion} (h : version ∈ versions) :
    ready [] version.upgrade = true := by
  revert version
  decide +kernel

theorem downgrade_ready {version : MigrationVersion} (h : version ∈ versions) :
    ready [] version.downgrade = true := by
  revert version
  decide +kernel

/-- A migration that is ready goes through on all rows. -/
theorem run_of_ready (stored : Constant → V) (now : V) (rows : Rows V) {ops : List (Op Literal)}
    (h : ready [] ops = true) : ∃ rows', run (Literal.eval stored now) ops rows = some rows' :=
  run_isSome (fun _ hplace => absurd hplace List.not_mem_nil) h

theorem schemaAt_isSome {count : Nat} (h : count ≤ versions.length) :
    (schemaAt count).isSome = true := by
  revert count
  decide +kernel

/-- A downgrade takes the schema back to the one before. -/
theorem schemaAt_downgrade {count : Nat} {version : MigrationVersion}
    (h : versions[count]? = some version) :
    (schemaAt (count + 1)).bind (runSchema version.downgrade) = schemaAt count := by
  obtain ⟨hcount, rfl⟩ := List.getElem?_eq_some_iff.mp h
  clear h
  revert count
  decide +kernel

/-- The last schema has the tables of the models, with their columns in some order. -/
theorem schemaAt_models :
    ∃ S, schemaAt versions.length = some S ∧
      List.Forall₂ (fun table model => table.Alike model ∧
        table.foreignKeys.Perm model.foreignKeys ∧ model.indexes ⊆ table.indexes) S models := by
  refine ⟨_, rfl, ?_⟩
  decide +kernel

/-! ## Every run -/

namespace MigratedDatabase

/-- The schema is the one of the version, and the rows fit it. -/
structure Consistent (db : MigratedDatabase V) : Prop where
  schema_eq : schemaAt db.applied = some db.schema
  fits : Fits db.schema db.rows

theorem empty_consistent : (empty : MigratedDatabase V).Consistent where
  schema_eq := rfl
  fits := ⟨fun _ _ => rfl, fun _ _ _ row hrow => by cases hrow⟩

section

variable {stored : Constant → V} {now : V} {db next : MigratedDatabase V}
  {version : MigrationVersion}

theorem upgrade_some (h : db.upgrade stored now = some next) :
    ∃ version, versions[db.applied]? = some version ∧ next.applied = db.applied + 1 ∧
      runSchema version.upgrade db.schema = some next.schema ∧
      run (Literal.eval stored now) version.upgrade db.rows = some next.rows := by
  obtain ⟨version, hversion, h⟩ := Option.bind_eq_some_iff.mp h
  obtain ⟨schema, hschema, h⟩ := Option.bind_eq_some_iff.mp h
  obtain ⟨rows, hrows, h⟩ := Option.bind_eq_some_iff.mp h
  obtain rfl := Option.some.inj h
  exact ⟨version, hversion, rfl, hschema, hrows⟩

theorem downgrade_some (h : db.downgrade stored now = some next) :
    ∃ version, versions[next.applied]? = some version ∧ db.applied = next.applied + 1 ∧
      runSchema version.downgrade db.schema = some next.schema ∧
      run (Literal.eval stored now) version.downgrade db.rows = some next.rows := by
  obtain ⟨applied, schema, rows⟩ := db
  cases applied with
  | zero => cases h
  | succ applied =>
      obtain ⟨version, hversion, h⟩ := Option.bind_eq_some_iff.mp h
      obtain ⟨schema, hschema, h⟩ := Option.bind_eq_some_iff.mp h
      obtain ⟨rows, hrows, h⟩ := Option.bind_eq_some_iff.mp h
      obtain rfl := Option.some.inj h
      exact ⟨version, hversion, rfl, hschema, hrows⟩

/-- The schema after an upgrade is the one of the next version. -/
theorem Consistent.upgrade_schema (h : db.Consistent)
    (hversion : versions[db.applied]? = some version) :
    runSchema version.upgrade db.schema = schemaAt (db.applied + 1) := by
  rw [schemaAt, hversion, Option.bind_some, h.schema_eq, Option.bind_some]

/-- The schema after a downgrade is the one of the version before. -/
theorem Consistent.downgrade_schema (h : db.Consistent) {applied : Nat}
    (happlied : db.applied = applied + 1) (hversion : versions[applied]? = some version) :
    runSchema version.downgrade db.schema = schemaAt applied := by
  rw [← schemaAt_downgrade hversion, ← happlied, h.schema_eq, Option.bind_some]

theorem upgrade_of {schema : Schema Literal} {rows : Rows V}
    (hversion : versions[db.applied]? = some version)
    (hschema : runSchema version.upgrade db.schema = some schema)
    (hrows : run (Literal.eval stored now) version.upgrade db.rows = some rows) :
    db.upgrade stored now = some ⟨db.applied + 1, schema, rows⟩ := by
  rw [MigratedDatabase.upgrade, hversion]
  show (runSchema version.upgrade db.schema).bind _ = _
  rw [hschema]
  show (run (Literal.eval stored now) version.upgrade db.rows).bind _ = _
  rw [hrows]
  rfl

theorem downgrade_of {applied : Nat} {schema : Schema Literal} {rows : Rows V}
    (happlied : db.applied = applied + 1) (hversion : versions[applied]? = some version)
    (hschema : runSchema version.downgrade db.schema = some schema)
    (hrows : run (Literal.eval stored now) version.downgrade db.rows = some rows) :
    db.downgrade stored now = some ⟨applied, schema, rows⟩ := by
  rw [MigratedDatabase.downgrade, happlied]
  show versions[applied]?.bind _ = _
  rw [hversion]
  show (runSchema version.downgrade db.schema).bind _ = _
  rw [hschema]
  show (run (Literal.eval stored now) version.downgrade db.rows).bind _ = _
  rw [hrows]
  rfl

/-- An upgrade goes through while there is a version to apply. -/
theorem Consistent.upgrade (h : db.Consistent) (happlied : db.applied < versions.length) (now : V) :
    ∃ next, db.upgrade stored now = some next ∧ next.applied = db.applied + 1 := by
  have hversion := List.getElem?_eq_getElem happlied
  obtain ⟨schema, hschema⟩ := Option.isSome_iff_exists.mp (schemaAt_isSome happlied)
  obtain ⟨rows, hrows⟩ :=
    run_of_ready stored now db.rows (upgrade_ready (List.getElem_mem happlied))
  exact ⟨_, upgrade_of hversion ((h.upgrade_schema hversion).trans hschema) hrows, rfl⟩

theorem Consistent.applied_le (h : db.Consistent) : db.applied ≤ versions.length := by
  have hschema := h.schema_eq
  cases happlied : db.applied with
  | zero => exact Nat.zero_le _
  | succ applied =>
      rw [happlied, schemaAt] at hschema
      obtain ⟨version, hversion, -⟩ := Option.bind_eq_some_iff.mp hschema
      exact (List.getElem?_eq_some_iff.mp hversion).1

/-- A downgrade goes through while there is a version to take back. -/
theorem Consistent.downgrade (h : db.Consistent) (happlied : 0 < db.applied) (now : V) :
    ∃ next, db.downgrade stored now = some next ∧ db.applied = next.applied + 1 := by
  obtain ⟨applied, heq⟩ := Nat.exists_eq_add_one_of_ne_zero (Nat.ne_of_gt happlied)
  have hlt : applied < versions.length := by
    rw [← Nat.add_one_le_iff, ← heq]
    exact h.applied_le
  have hversion := List.getElem?_eq_getElem hlt
  obtain ⟨schema, hschema⟩ := Option.isSome_iff_exists.mp (schemaAt_isSome (Nat.le_of_lt hlt))
  obtain ⟨rows, hrows⟩ :=
    run_of_ready stored now db.rows (downgrade_ready (List.getElem_mem hlt))
  exact ⟨_, downgrade_of heq hversion ((h.downgrade_schema heq hversion).trans hschema) hrows, heq⟩

theorem Consistent.of_upgrade (h : db.Consistent) (hupgrade : db.upgrade stored now = some next) :
    next.Consistent := by
  obtain ⟨version, hversion, happlied, hschema, hrows⟩ := upgrade_some hupgrade
  refine ⟨?_, h.fits.run hschema hrows⟩
  rw [happlied, ← h.upgrade_schema hversion, hschema]

theorem Consistent.of_downgrade (h : db.Consistent)
    (hdowngrade : db.downgrade stored now = some next) : next.Consistent := by
  obtain ⟨version, hversion, happlied, hschema, hrows⟩ := downgrade_some hdowngrade
  refine ⟨?_, h.fits.run hschema hrows⟩
  rw [← h.downgrade_schema happlied hversion, hschema]

/-- **One step**: the schema stays the one of the version, and the rows go on fitting it. -/
theorem Consistent.step {event : DatabaseEvent V} (h : db.Consistent)
    (hstep : (migratedSystem stored).step db event = some next) : next.Consistent := by
  cases event with
  | upgrade now => exact h.of_upgrade hstep
  | downgrade now => exact h.of_downgrade hstep
  | execute now statement =>
      obtain ⟨rows, hexec, rfl⟩ := Option.map_eq_some_iff.mp hstep
      exact ⟨h.schema_eq, h.fits.exec hexec⟩

theorem Consistent.of_reachable
    (h : (migratedSystem stored).Reachable (fun db => db = empty) db) : db.Consistent :=
  LabelledSystem.reachable_invariant (fun _ hinit => hinit ▸ empty_consistent)
    (fun _ _ _ hdb hstep => hdb.step hstep) h

end

end MigratedDatabase

/-- A configuration without a name, from before the fifth version. -/
def unnamedConfig : Statement Nat :=
  .insert "pipeline_configs" [("id", some 1)]

/-- The numbers that stand for the constants. -/
def storedNumbers : Constant → Nat
  | .text value => value.length
  | .integer value => value.toNat
  | .boolean value => if value then 1 else 0

def unnamedDatabase : Option (MigratedDatabase Nat) :=
  (migratedSystem storedNumbers).exec .empty
    [.upgrade 1, .upgrade 2, .upgrade 3, .upgrade 4, .execute 5 unnamedConfig]

theorem unnamedDatabase_some : ∃ db, unnamedDatabase = some db ∧ db.applied = 4 :=
  Option.map_eq_some_iff.mp rfl

/-- **No migration ever fails**: whatever statements and migrations were run on the database
before, the next upgrade and the next downgrade go through, the rows fit the schema of the
version, and after the last version they fit the models. -/
theorem migrations_never_fail {stored : Constant → V} {db : MigratedDatabase V}
    (h : (migratedSystem stored).Reachable (fun db => db = .empty) db) :
    (∀ now, db.applied < versions.length →
        ∃ next, (migratedSystem stored).step db (.upgrade now) = some next ∧
          next.applied = db.applied + 1) ∧
      (∀ now, 0 < db.applied →
        ∃ next, (migratedSystem stored).step db (.downgrade now) = some next ∧
          db.applied = next.applied + 1) ∧
      db.applied ≤ versions.length ∧ schemaAt db.applied = some db.schema ∧
      Fits db.schema db.rows ∧ (db.applied = versions.length → Fits models db.rows) := by
  have hdb := MigratedDatabase.Consistent.of_reachable h
  refine ⟨fun now happlied => hdb.upgrade happlied now,
    fun now happlied => hdb.downgrade happlied now, hdb.applied_le, hdb.schema_eq, hdb.fits, ?_⟩
  intro hlast
  obtain ⟨S, hS, halike⟩ := schemaAt_models
  rw [← hlast, hdb.schema_eq] at hS
  obtain rfl := Option.some.inj hS
  have hmodels : List.Forall₂ Table.Alike db.schema models := halike.imp fun _ _ hboth => hboth.1
  exact hdb.fits.alike hmodels

/-- The configuration without a name does not keep the fifth version from going through. -/
theorem unnamed_config_upgrades :
    ∃ db next, unnamedDatabase = some db ∧
      (migratedSystem storedNumbers).step db (.upgrade 6) = some next ∧ next.applied = 5 := by
  obtain ⟨db, hdb, happlied⟩ := unnamedDatabase_some
  obtain ⟨next, hnext, hfifth⟩ :=
    (migrations_never_fail ⟨.empty, rfl, _, hdb⟩).1 6 (by rw [happlied]; decide)
  exact ⟨db, next, hdb, hnext, by rw [hfifth, happlied]⟩

/-! ## There and back -/

/-- The `NULL` that the fifth version fills on the way between two versions. -/
def legacyNames (stored : Constant → V) (lower upper : Nat) : Fills V := fun table column value =>
  lower ≤ 4 ∧ 4 < upper ∧ table = "pipeline_configs" ∧ column = "name" ∧
    value = stored (.text "legacy")

theorem upgrade_fillsNothing {count : Nat} (hcount : count < versions.length) (hfifth : count ≠ 4) :
    versions[count].upgrade.all Op.fillsNothing = true := by
  revert count
  decide +kernel

theorem filledBy_upgrade {stored : Constant → V} {now : V} {count upper : Nat}
    {version : MigrationVersion} (hversion : versions[count]? = some version)
    (hupper : count < upper) {table column : String} {value : V}
    (h : filledBy (Literal.eval stored now) version.upgrade (legacyNames stored (count + 1) upper)
      table column value) :
    legacyNames stored count upper table column value := by
  by_cases hfifth : count = 4
  · obtain rfl := hfifth
    obtain rfl := Option.some.inj hversion
    simp only [filledBy, traceSchemaExpand, legacyNames, List.foldr_cons, List.foldr_nil, Op.pull,
      nullable, Literal.eval] at h
    obtain ⟨-, ⟨-, hmodel, hstrategy, hsize, hoverlap, htopK, hfilled⟩ | hrenamed⟩ := h
    · -- The columns that the version adds were not there before, so that only the name is left.
      rcases hfilled with hname | hadded | hadded | hadded | hadded | hadded | hrest
      · exact ⟨Nat.le_refl 4, hupper, hname⟩
      · exact absurd ⟨hadded.1, hadded.2.1⟩ hmodel
      · exact absurd ⟨hadded.1, hadded.2.1⟩ hstrategy
      · exact absurd ⟨hadded.1, hadded.2.1⟩ hsize
      · exact absurd ⟨hadded.1, hadded.2.1⟩ hoverlap
      · exact absurd ⟨hadded.1, hadded.2.1⟩ htopK
      · exact absurd hrest.2.2.1 (by decide)
    · -- The renamed column is of another table than what is filled.
      simp at hrenamed
  · obtain ⟨hcount, rfl⟩ := List.getElem?_eq_some_iff.mp hversion
    obtain ⟨hlower, hrest⟩ := filledBy_of_fillsNothing (upgrade_fillsNothing hcount hfifth) h
    exact ⟨by omega, hrest⟩

section

variable {stored : Constant → V} {now : V} {db next : MigratedDatabase V}

/-- **One version taken back**, on rows that have more `NULL`s filled than it left. -/
theorem MigratedDatabase.Consistent.downgrade_upgrade {later : MigratedDatabase V} {upper : Nat}
    (h : db.Consistent) (hupgrade : db.upgrade stored now = some next)
    (happlied : later.applied = next.applied) (hschema : later.schema = next.schema)
    (hupper : next.applied ≤ upper)
    (hrows : Refilled (legacyNames stored next.applied upper) next.rows later.rows) (back : V) :
    ∃ before, later.downgrade stored back = some before ∧ before.applied = db.applied ∧
      before.schema = db.schema ∧
      Refilled (legacyNames stored db.applied upper) db.rows before.rows := by
  obtain ⟨version, hversion, hnext, hschema', hrows'⟩ := upgrade_some hupgrade
  have hmem := List.mem_of_getElem? hversion
  obtain ⟨rows, hback, hrefilled⟩ : ∃ rows,
      run (Literal.eval stored back) version.downgrade later.rows = some rows ∧
        Refilled (filledBy (Literal.eval stored now) version.upgrade
          (legacyNames stored next.applied upper)) db.rows rows := by
    rw [downgrade_eq_undo hmem]
    exact undo_run h.fits hschema' (upgrade_undoable hmem) hrows' hrows
  have hbackSchema : runSchema version.downgrade later.schema = some db.schema := by
    rw [hschema, (h.of_upgrade hupgrade).downgrade_schema hnext hversion, h.schema_eq]
  refine ⟨_, downgrade_of (happlied.trans hnext) hversion hbackSchema hback, rfl, rfl, ?_⟩
  rw [hnext] at hrefilled hupper
  intro table
  refine (hrefilled table).imp fun row row' hrow => hrow.mono fun column value hfilled => ?_
  exact filledBy_upgrade hversion hupper hfilled

/-- Upgrades up to a version and as many downgrades. -/
theorem MigratedDatabase.Consistent.round_trip {ups downs : List V} {upper : Nat}
    (h : db.Consistent) (hlength : ups.length = downs.length)
    (hupper : db.applied + ups.length = upper) (hversions : upper ≤ versions.length) :
    ∃ back, (migratedSystem stored).exec db
        (ups.map DatabaseEvent.upgrade ++ downs.map DatabaseEvent.downgrade) = some back ∧
      back.applied = db.applied ∧ back.schema = db.schema ∧
      Refilled (legacyNames stored db.applied upper) db.rows back.rows := by
  induction ups generalizing db downs with
  | nil =>
      obtain rfl := List.length_eq_zero_iff.mp hlength.symm
      exact ⟨db, rfl, rfl, rfl, Refilled.refl _ _⟩
  | cons now ups ih =>
      -- The first upgrade is taken back by the last downgrade.
      rcases List.eq_nil_or_concat downs with rfl | ⟨downs, last, rfl⟩
      · cases hlength
      rw [List.length_cons] at hupper
      have hinit : ups.length = downs.length := by simpa using hlength
      obtain ⟨next, hnext, happlied⟩ :
          ∃ next, db.upgrade stored now = some next ∧ next.applied = db.applied + 1 :=
        h.upgrade (by omega) now
      obtain ⟨later, hlater, hlaterApplied, hlaterSchema, hrows⟩ :=
        ih (h.of_upgrade hnext) hinit (by omega)
      obtain ⟨before, hbefore, hback⟩ := h.downgrade_upgrade hnext hlaterApplied hlaterSchema
        (by omega) hrows last
      refine ⟨before, ?_, hback⟩
      rw [List.map_cons, List.map_concat, List.concat_eq_append, List.cons_append,
        ← List.append_assoc, LabelledSystem.exec_cons]
      show (db.upgrade stored now).bind _ = _
      rw [hnext, Option.bind_some, LabelledSystem.exec_append, hlater]
      show (later.downgrade stored last).bind _ = _
      rw [hbefore]
      rfl

end

/-- **There and back**: from every state of the database, upgrades followed by as many downgrades
go through, and bring back the version, the schema and every row in its place, with the values it
had in all its columns.  Only where a pipeline configuration had no name before the fifth version
and the upgrades ran that version, its name is `legacy` afterwards. -/
theorem migrations_round_trip {stored : Constant → V} {db : MigratedDatabase V}
    (h : (migratedSystem stored).Reachable (fun db => db = .empty) db) (ups downs : List V)
    (hlength : ups.length = downs.length)
    (hversions : db.applied + ups.length ≤ versions.length) :
    ∃ back, (migratedSystem stored).exec db
        (ups.map DatabaseEvent.upgrade ++ downs.map DatabaseEvent.downgrade) = some back ∧
      back.applied = db.applied ∧ back.schema = db.schema ∧
      ∀ table, List.Forall₂ (fun row row' => ∀ column, row' column = row column ∨
          row column = none ∧ row' column = some (stored (.text "legacy")) ∧
            table = "pipeline_configs" ∧ column = "name" ∧
            db.applied < 5 ∧ 5 ≤ db.applied + ups.length)
        (db.rows table) (back.rows table) := by
  obtain ⟨back, hexec, happlied, hschema, hrows⟩ :=
    (MigratedDatabase.Consistent.of_reachable h).round_trip hlength rfl hversions
  refine ⟨back, hexec, happlied, hschema, fun table => (hrows table).imp fun row row' hrow => ?_⟩
  intro column
  rcases hrow column with hsame | ⟨hnone, value, ⟨hlower, hupper, htable, hname, hvalue⟩, hsome⟩
  · exact Or.inl hsame
  · exact Or.inr ⟨hnone, hvalue ▸ hsome, htable, hname, by omega, by omega⟩

/-- Its name is `legacy` after the fifth version is taken back. -/
theorem unnamed_config_returns_named :
    ∃ db back, unnamedDatabase = some db ∧
      (migratedSystem storedNumbers).exec db [.upgrade 6, .downgrade 7] = some back ∧
      back.schema = db.schema ∧
      (back.rows "pipeline_configs").map (fun row => row "name") =
        [some (storedNumbers (.text "legacy"))] := by
  obtain ⟨db, hdb, happlied⟩ := unnamedDatabase_some
  obtain ⟨back, hback, -, hschema, -⟩ :=
    migrations_round_trip ⟨.empty, rfl, _, hdb⟩ [6] [7] rfl (by rw [happlied]; decide)
  have hname : (unnamedDatabase.bind fun db => (migratedSystem storedNumbers).exec db
      [.upgrade 6, .downgrade 7]).map (fun back => (back.rows "pipeline_configs").map
        fun row => row "name") = some [some (storedNumbers (.text "legacy"))] := rfl
  rw [hdb] at hname
  obtain ⟨same, hsame, hnames⟩ := Option.map_eq_some_iff.mp hname
  obtain rfl := Option.some.inj (hback.symm.trans hsame)
  exact ⟨db, back, hdb, hback, hschema, hnames⟩

end ContextLens
