import CatalogBench.Common.Sanitization
import CatalogBench.Engine.Policy

/-!
# The Spark plan on the wire

The plan of a Spark run reaches the runner in the engine image as one JSON document. Structure
fields keep their order, an enumeration with fields carries its name under `kind`, an enumeration
with one value is that value, and absent options are left out.
-/

set_option linter.all false

namespace CatalogBench.Engine
open Json

/-- `IcebergPrimitiveType` in kebab case. -/
def IcebergPrimitiveType.toJson : IcebergPrimitiveType → Json
  | long => .string "long"
  | string => .string "string"

def CatalogProtocol.toJson : CatalogProtocol → Json
  | icebergRestV1 => .string "iceberg-rest-v1"

def ForbiddenPolicy.toJson : ForbiddenPolicy → Json
  | forbidden => .string "forbidden"

def ConnectorPolicy.toJson : ConnectorPolicy → Json
  | stockProfileComponent => .string "stock-profile-component"

def SyntaxRenderingPolicy.toJson : SyntaxRenderingPolicy → Json
  | engineSpecificButCatalogNeutral => .string "engine-specific-but-catalog-neutral"

def UnsupportedPolicy.toJson : UnsupportedPolicy → Json
  | classifyBeforeMutationWithoutASubstituteRequest =>
    .string "classify-before-mutation-without-a-substitute-request"

def EnginePolicy.toJson (policy : EnginePolicy) : Json :=
  .object [("catalog_specific_branches", policy.catalogSpecificBranches.toJson),
    ("catalog_specific_shims", policy.catalogSpecificShims.toJson),
    ("connector", policy.connector.toJson), ("syntax_rendering", policy.syntaxRendering.toJson),
    ("unsupported", policy.unsupported.toJson)]

def IcebergField.toJson (field : IcebergField) : Json :=
  .object [("id", ofInt field.id), ("name", .string field.name), ("required", .bool field.required),
    ("type", field.fieldType.toJson)]

def IcebergSchema.toJson (schema : IcebergSchema) : Json :=
  .object [("schema-id", ofInt schema.schemaId), ("type", .string "struct"),
    ("fields", .array (schema.fields.map IcebergField.toJson))]

def propertiesToJson (properties : StringMap String) : Json :=
  .object (properties.toList.map fun property => (property.1, .string property.2))

def TablePolicy.toJson (table : TablePolicy) : Json :=
  .object [("file_format", .string "parquet"), ("format_version", ofNat table.formatVersion),
    ("properties", propertiesToJson table.properties), ("schema", table.schema.toJson)]

def EvolutionField.toJson (field : EvolutionField) : Json :=
  .object [("name", .string field.name), ("required", .bool field.required),
    ("type", field.fieldType.toJson)]

def SchemaEvolutionPolicy.toJson (evolution : SchemaEvolutionPolicy) : Json :=
  .object [("field", evolution.field.toJson),
    ("preserve_existing_field_ids", .bool evolution.preserveExistingFieldIds)]

def IntegerGenerator.toJson : IntegerGenerator → Json
  | affine multiplier offset =>
    .object [("kind", .string "affine"), ("multiplier", ofNat multiplier), ("offset", ofNat offset)]

def CategoryGenerator.toJson : CategoryGenerator → Json
  | moduloLabel modulus label =>
    .object [("kind", .string "modulo-label"), ("modulus", ofNat modulus),
      ("prefix", .string label)]

def NoteGenerator.toJson : NoteGenerator → Json
  | idLabel label => .object [("kind", .string "id-label"), ("prefix", .string label)]

def RowGenerator.toJson (generator : RowGenerator) : Json :=
  .object [("amount_cents", generator.amountCents.toJson),
    ("category", generator.category.toJson), ("note", generator.note.toJson)]

def BatchPolicy.toJson (batch : BatchPolicy) : Json :=
  .object [("id_start", ofNat batch.idStart), ("rows", ofNat batch.rows)]

def BatchPolicies.toJson (batches : BatchPolicies) : Json :=
  .object [("initial", batches.initial.toJson), ("evolved", batches.evolved.toJson)]

def CanonicalRead.toJson (read : CanonicalRead) : Json :=
  .object [("bytes", ofNat read.bytes), ("columns", .array (read.columns.map .string)),
    ("rows", ofNat read.rows), ("sha256", .string read.sha256)]

def CanonicalReads.toJson (reads : CanonicalReads) : Json :=
  .object [("encoding", .string "compact-rfc8259-json-array-per-row-utf8-lf"),
    ("initial", reads.initial.toJson), ("order_by", .array (reads.orderBy.map .string)),
    ("after_evolution", reads.afterEvolution.toJson), ("trailing_lf", .bool reads.trailingLf)]

def ObjectAuditPolicy.toJson (audit : ObjectAuditPolicy) : Json :=
  .object [("minimum_metadata_objects", ofNat audit.minimumMetadataObjects),
    ("minimum_parquet_objects", ofNat audit.minimumParquetObjects),
    ("scope", .string "returned-table-root-in-profile-shared-object-store")]

def EngineScenarioParameters.toJson (scenario : EngineScenarioParameters) : Json :=
  .object [("catalog_protocol", scenario.catalogProtocol.toJson),
    ("engine_policy", scenario.enginePolicy.toJson),
    ("fixture_prefix", .string scenario.fixturePrefix), ("table", scenario.table.toJson),
    ("schema_evolution", scenario.schemaEvolution.toJson),
    ("row_generator", scenario.rowGenerator.toJson), ("batches", scenario.batches.toJson),
    ("canonical_reads", scenario.canonicalReads.toJson),
    ("object_audit", scenario.objectAudit.toJson),
    ("transcript_format", .string scenario.transcriptFormat)]

def Fixture.toJson (fixture : Fixture) : Json :=
  .object (present [("namespace", some (.string fixture.namespace)),
    ("table", some (.string fixture.table)),
    ("requested_location", fixture.requestedLocation.map .string)])

def EngineCatalogAuthentication.toJson : EngineCatalogAuthentication → Json
  | anonymous => .object [("kind", .string "anonymous")]
  | oAuth2ClientCredentials oauth2ServerUri scope =>
    .object [("kind", .string "oauth2-client-credentials"),
      ("oauth2_server_uri", .string oauth2ServerUri), ("scope", .string scope)]

def RestCatalogPlan.toJson (catalog : RestCatalogPlan) : Json :=
  .object (present [("name", some (.string catalog.name)), ("uri", some (.string catalog.uri)),
    ("warehouse", catalog.warehouse.map .string), ("prefix", catalog.routePrefix.map .string),
    ("authentication", some catalog.authentication.toJson)])

def S3FileIoPlan.toJson (fileIo : S3FileIoPlan) : Json :=
  .object [("implementation", .string fileIo.implementation),
    ("endpoint", .string fileIo.endpoint), ("bucket", .string fileIo.bucket),
    ("region", .string fileIo.region), ("path_style_access", .bool fileIo.pathStyleAccess)]

def SparkExecutionSettings.toJson (settings : SparkExecutionSettings) : Json :=
  .object [("master", .string settings.master),
    ("shuffle_partitions", ofNat settings.shufflePartitions),
    ("default_parallelism", ofNat settings.defaultParallelism)]

def SparkExecutionPlan.toJson (plan : SparkExecutionPlan) : Json :=
  .object [("format", .string plan.format), ("execution", plan.execution.toJson),
    ("catalog", plan.catalog.toJson), ("file_io", plan.fileIo.toJson),
    ("fixture", plan.fixture.toJson), ("scenario", plan.scenario.toJson)]

end CatalogBench.Engine
