import CatalogBench.ContractTool.ContentionBundle

/-!
# The commit matrix

A bundle of contention results is published as one table: the results that passed by their
throughput, then the others by the name of their catalog.
-/

set_option linter.all false

namespace CatalogBench.ContractTool.Matrix
open CatalogBench.Contract SortBy

-- ════════════════════════════════
-- Metrics
-- ════════════════════════════════

def metric (result : ResultRecord) (phase name : String) : Option Metric := do
  let measurement ← result.measurements.find? (·.name = phase)
  measurement.metrics.find? (·.name = name)

def optionalDistributionMetric (crates : PublisherCrates) (result : ResultRecord)
    (phase name : String) : Loading (Option Contract.Distribution) :=
  match metric result phase name with
  | none => .ok none
  | some metric =>
    match metric.value with
    | .distribution distribution => .ok (some distribution)
    | value =>
      bail ("metric `" ++ phase ++ "." ++ name ++ "` is not a distribution: " ++
        crates.debugMetricValue value)

def distributionMetric (crates : PublisherCrates) (result : ResultRecord) (phase name : String) :
    Loading Contract.Distribution := do
  let distribution ← optionalDistributionMetric crates result phase name
  orBail ("result `" ++ result.id ++ "` has no `" ++ phase ++ "." ++ name ++ "` metric") distribution

def optionalCounterMetric (crates : PublisherCrates) (result : ResultRecord)
    (phase name : String) : Loading (Option ℕ) :=
  match metric result phase name with
  | none => .ok none
  | some metric =>
    match metric.value with
    | .counter value => .ok (some value)
    | value =>
      bail ("metric `" ++ phase ++ "." ++ name ++ "` is not a counter: " ++
        crates.debugMetricValue value)

def throughput (crates : PublisherCrates) (result : ResultRecord) : Loading ℚ := do
  let distribution ← distributionMetric crates result "concurrent" "successful-throughput"
  distributionMedian distribution

def sequentialP50 (crates : PublisherCrates) (result : ResultRecord) : Loading ℚ := do
  let distribution ← distributionMetric crates result "sequential" "p50-latency"
  distributionMedian distribution

-- ════════════════════════════════
-- Cells
-- ════════════════════════════════

def missingMetric (result : ResultRecord) (phase name : String) (required : Bool) :
    Loading String := do
  bailWhen required ("ranked result `" ++ result.id ++ "` has no `" ++ phase ++ "." ++ name ++ "` metric")
  pure "—"

def formatDistributionMetric (crates : PublisherCrates) (result : ResultRecord)
    (phase name suffix : String) (precision : ℕ) (required : Bool) : Loading String := do
  match ← optionalDistributionMetric crates result phase name with
  | none => missingMetric result phase name required
  | some distribution =>
    let median ← distributionMedian distribution
    pure (toFixed precision median ++ suffix ++ " (" ++ toFixed precision distribution.minimum ++
      "–" ++ toFixed precision distribution.maximum ++ ")")

def formatValidRounds (crates : PublisherCrates) (result : ResultRecord) (required : Bool) :
    Loading String := do
  let valid ← optionalCounterMetric crates result "concurrent" "valid-rounds"
  let measured ← optionalCounterMetric crates result "concurrent" "measured-rounds"
  match valid, measured with
  | some valid, some measured => pure (toString valid ++ " / " ++ toString measured)
  | none, none => missingMetric result "concurrent" "valid/measured-rounds" required
  | _, _ =>
    bail ("result `" ++ result.id ++ "` must provide both valid-rounds and measured-rounds")

def formatCounterMetric (crates : PublisherCrates) (result : ResultRecord) (phase name : String)
    (required : Bool) : Loading String := do
  match ← optionalCounterMetric crates result phase name with
  | none => missingMetric result phase name required
  | some value => pure (toString value)

def outcomeLabel : ResultOutcome → String
  | .pass _ => "pass"
  | .fail _ => "fail"
  | .unsupported _ => "unsupported"
  | .notTested _ => "not-tested"

def markdownText (value : String) : String :=
  String.ofList (value.toList.flatMap fun c =>
    if c = '|' then ['\\', '|'] else if c = '\n' then [' '] else [c])

/-- A full commit hash is cut to its first eight digits. -/
def displayVersion (version : String) : String :=
  let bytes := utf8 version
  if bytes.length = 40 && bytes.all isAsciiHexdigit then String.ofList (version.toList.take 8)
  else version

/-- One line of the table. -/
def writeRow (crates : PublisherCrates) (rank : String) (requireMeasurements : Bool)
    (result : ResultRecord) : Loading String := do
  let concurrent ← formatDistributionMetric crates result "concurrent" "successful-throughput" "/s" 1
    requireMeasurements
  let sequential ← formatDistributionMetric crates result "sequential" "successful-throughput" "/s" 1
    requireMeasurements
  let p50 ← formatDistributionMetric crates result "sequential" "p50-latency" " ms" 3
    requireMeasurements
  let p99 ← formatDistributionMetric crates result "sequential" "p99-latency" " ms" 3
    requireMeasurements
  let conflict ← formatDistributionMetric crates result "concurrent" "conflict-rate" "%" 3
    requireMeasurements
  let errorRate ← formatDistributionMetric crates result "concurrent" "error-rate" "%" 3
    requireMeasurements
  let validRounds ← formatValidRounds crates result requireMeasurements
  let errors ← formatCounterMetric crates result "concurrent" "request-errors" requireMeasurements
  let name := markdownText result.catalog.name ++ " " ++
    markdownText (displayVersion result.catalog.version)
  pure ("| " ++ " | ".intercalate [rank, name, "`" ++ outcomeLabel result.outcome ++ "`", validRounds,
    concurrent, sequential, p50, p99, conflict, errorRate, errors] ++ " |\n")

-- ════════════════════════════════
-- Rows
-- ════════════════════════════════

def isPass : ResultOutcome → Bool
  | .pass _ => true
  | .fail _ | .unsupported _ | .notTested _ => false

/-- A result with the two numbers it is sorted by. -/
abbrev PassRow := ResultRecord × ℚ × ℚ

def comparePassRows : PassRow → PassRow → Ordering :=
  compareStanding (·.2.1) (·.2.2) (·.1.catalog.profileComponent)

def passRow (crates : PublisherCrates) (result : ResultRecord) : Loading PassRow := do
  let throughput ← throughput crates result
  let sequentialP50 ← sequentialP50 crates result
  pure (result, throughput, sequentialP50)

/-- The results that passed, in the order of the table. -/
def passRows (crates : PublisherCrates) (results : List ResultRecord) :
    Loading (List ResultRecord) := do
  let rows ← (results.filter (isPass ·.outcome)).mapM (passRow crates)
  pure ((sortBy comparePassRows rows).map (·.1))

/-- The other results, in the order of the table. -/
def nonPassRows (results : List ResultRecord) : List ResultRecord :=
  sortBy (compareOn (·.catalog.name)) (results.filter fun result => !isPass result.outcome)

-- ════════════════════════════════
-- Paths
-- ════════════════════════════════

/-- The named components of `Path::components`. -/
def components (path : String) : List String :=
  (path.splitOn "/").filter fun component => component ≠ "" && component ≠ "."

/-- `Path::with_file_name`. -/
def withFileName (path name : String) : String :=
  let named := (components path).getLast?.any (· ≠ "..")
  join (if named then (parent path).getD path else path) name

/-- The path from its last component `results` on. -/
def publishedPath (path : String) : String :=
  let components := components path
  match components.reverse.idxOf? "results" with
  | none => path
  | some fromEnd => "/".intercalate (components.drop (components.length - 1 - fromEnd))

-- ════════════════════════════════
-- The document
-- ════════════════════════════════

def provenanceText : Provenance → String
  | .historicalImport sourceDate _ explanation =>
    "This is a **historical import** of the " ++ sourceDate ++ " evidence, not a new live run. " ++
      markdownText explanation ++ "\n\n"
  | .liveRun _ _ startedAt completedAt =>
    "Live run from `" ++ startedAt ++ "` through `" ++ completedAt ++ "`.\n\n"
  | .fixture explanation => "Fixture bundle: " ++ markdownText explanation ++ "\n\n"

/-- Everything above the rows. -/
def matrixHead (bundle : ValidatedBundle) (scenario : Scenario) : String :=
  "<!-- Generated by catalog-bench-contract; edit result records, not this file. -->\n\n" ++
    "# " ++ bundle.manifest.title ++ "\n\n" ++
    provenanceText bundle.manifest.provenance ++
    "Scenario: `" ++ scenario.id ++ "` v" ++ toString scenario.version ++ " · profile: `" ++
      bundle.profile.id ++ "` · [manifest](manifest.json).\n\n" ++
    "Numeric ranks include only `pass` outcomes and sort by median accepted concurrent " ++
      "throughput. Failed, unsupported, and not-tested rows retain any available diagnostic " ++
      "measurements but are never ranked.\n\n" ++
    "| Rank | Catalog | Outcome | Valid rounds | Concurrent accepted | Sequential accepted | " ++
      "Sequential p50 | Sequential p99 | Conflict rate | Error rate | Errors |\n" ++
    "|:---:|---|:---:|:---:|---:|---:|---:|---:|---:|---:|---:|\n"

def outcomeText : ResultOutcome → String
  | .fail failure => failure.summary ++ "\n\n" ++ failure.detail ++ "\n\n"
  | .unsupported limitation =>
    "Unsupported capability `" ++ limitation.capability ++ "`: " ++ limitation.explanation ++ "\n\n"
  | .notTested reason => "Not tested: " ++ reason.explanation ++ "\n\n"
  | .pass _ => ""

/-- Everything below the rows. -/
def matrixTail (bundle : ValidatedBundle) (nonPassRows : List ResultRecord) : String :=
  let manifestPath := publishedPath bundle.manifestPath
  (if nonPassRows.isEmpty then ""
    else "\n## Non-pass outcomes\n\n" ++ String.join (nonPassRows.map fun result =>
      "### " ++ markdownText result.catalog.name ++ " " ++
        markdownText (displayVersion result.catalog.version) ++ " — `" ++
        outcomeLabel result.outcome ++ "`\n\n" ++ outcomeText result.outcome)) ++
    "## Evidence\n\n" ++
    "All artifact sizes, SHA-256 hashes, exact source/image identities, environment-capture " ++
      "gaps, assertion outcomes, and round-selection rules are in [the manifest](manifest.json) " ++
      "and its referenced records. The matrix is reproducible with:\n\n" ++
    "```sh\ncargo run -p catalog-bench-contract --locked -- matrix check \\\n" ++
    "  --manifest " ++ manifestPath ++ " \\\n" ++
    "  --output " ++ withFileName manifestPath "MATRIX.md" ++ "\n```\n"

/-- Render a commit matrix exclusively from validated result records. -/
def renderCommitMatrix (crates : PublisherCrates) (bundle : ValidatedBundle) : Loading String :=
  match bundle.scenarios with
  | [scenario] => do
    let results := bundle.results.map (·.result)
    let passRows ← passRows crates results
    let ranked ← passRows.zipIdx.mapM fun (result, index) =>
      writeRow crates (toString (index + 1)) true result
    let unranked ← (nonPassRows results).mapM (writeRow crates "—" false)
    pure (matrixHead bundle scenario.scenario ++ String.join (ranked ++ unranked) ++
      matrixTail bundle (nonPassRows results))
  | scenarios =>
    bail ("commit matrix requires exactly one scenario, found " ++ toString scenarios.length)

end CatalogBench.ContractTool.Matrix
