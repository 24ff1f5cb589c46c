import CatalogBench.Commit.Policy
import CatalogBench.Conformance.Negotiation

/-!
# Transcripts of a sweep

What a sweep records of each round, and what it concludes from the rounds of each catalog.
-/

set_option linter.all false

namespace CatalogBench.Commit
open CatalogBench.Contract

-- ════════════════════════════════
-- Rounds
-- ════════════════════════════════

structure TranscriptAdapter where
  catalog : ComponentId
  name : String
  version : String
  protocol : CatalogProtocol
  requestHandling : AdapterRequestHandling
  deriving DecidableEq

structure CatalogNegotiationEvidence where
  adapter : TranscriptAdapter
  authentication : Conformance.AuthenticationTranscript
  config : Conformance.RoutingConfigTranscript
  redactions : List String
  deriving DecidableEq

inductive CatalogNegotiationFailureStage
  | authentication | config | routing
  deriving DecidableEq

structure CatalogNegotiationFailure where
  stage : CatalogNegotiationFailureStage
  detail : String
  deriving DecidableEq

inductive CatalogRoundOutcome
  | executed (execution : RoundExecution)
  | negotiationFailed (failure : CatalogNegotiationFailure)
  deriving DecidableEq

structure CatalogRoundTranscript where
  repetition : ℕ
  kind : RoundKind
  position : ℕ
  catalog : CatalogRun
  negotiation : CatalogNegotiationEvidence
  outcome : CatalogRoundOutcome
  deriving DecidableEq

namespace CatalogRoundOutcome

def passed : CatalogRoundOutcome → Bool
  | executed execution => execution.passed
  | negotiationFailed _ => false

def execution : CatalogRoundOutcome → Option RoundExecution
  | executed execution => some execution
  | negotiationFailed _ => none

end CatalogRoundOutcome

namespace CatalogRoundTranscript

def passed (round : CatalogRoundTranscript) : Bool := round.outcome.passed

def execution (round : CatalogRoundTranscript) : Option RoundExecution := round.outcome.execution

end CatalogRoundTranscript

-- ════════════════════════════════
-- Catalogs
-- ════════════════════════════════

structure RoundTally where
  scheduled : ℕ
  executed : ℕ
  passed : ℕ
  deriving DecidableEq

structure ContentionMeasurements where
  sequentialLatencyP50Ms : MedianRange
  sequentialLatencyP95Ms : MedianRange
  sequentialLatencyP99Ms : MedianRange
  sequentialAcceptedThroughputPerSecond : MedianRange
  concurrentLatencyP50Ms : MedianRange
  concurrentLatencyP95Ms : MedianRange
  concurrentLatencyP99Ms : MedianRange
  concurrentAttemptedThroughputPerSecond : MedianRange
  concurrentAcceptedThroughputPerSecond : MedianRange
  concurrentConflictRate : MedianRange
  concurrentErrorRate : MedianRange
  concurrentAttempts : MedianRange
  concurrentAccepted : MedianRange
  concurrentConflicts : MedianRange
  metadataObjectGrowth : MedianRange
  deriving DecidableEq

inductive CatalogAggregateClassification
  | pass
  | fail (reasons : List String)
  deriving DecidableEq

structure CatalogAggregate where
  catalog : CatalogRun
  conditioning : RoundTally
  measured : RoundTally
  classification : CatalogAggregateClassification
  measurements : Option ContentionMeasurements
  deriving DecidableEq

def CatalogAggregate.passed (aggregate : CatalogAggregate) : Bool :=
  aggregate.classification = .pass && aggregate.measurements.isSome

inductive RankingBasis
  | concurrentAcceptedThroughputPerSecond
  deriving DecidableEq

inductive RankingTieBreaker
  | sequentialLatencyP50Ascending | catalogIdAscending
  deriving DecidableEq

inductive RankingDisposition
  | ranked (rank : ℕ) (score : MedianRange)
  | notRanked (reasons : List String)
  deriving DecidableEq

structure RankingEntry where
  catalog : CatalogRun
  disposition : RankingDisposition
  deriving DecidableEq

structure ContentionRanking where
  basis : RankingBasis
  tieBreakers : List RankingTieBreaker
  entries : List RankingEntry
  deriving DecidableEq

inductive SweepClassification
  | pass
  | fail (failedCatalogs : List ComponentId)
  deriving DecidableEq

-- ════════════════════════════════
-- The transcript
-- ════════════════════════════════

structure RunnerTranscript where
  component : ComponentId
  profileRuntimeMatches : Bool
  profileSourceMatches : Bool
  deriving DecidableEq

def RunnerTranscript.passed (runner : RunnerTranscript) : Bool :=
  runner.profileRuntimeMatches && runner.profileSourceMatches

structure ContentionSanitization where
  policy : String
  redactions : List String
  rawSecretsPersisted : Bool
  rawResponseBodyPersisted : Bool
  rawRequestIdentitiesPersisted : Bool
  writeMode : String
  deriving DecidableEq

/-- What the publisher reads of a transcript. -/
structure ContentionTranscript where
  format : String
  runner : RunnerTranscript
  fixtureId : String
  rounds : List CatalogRoundTranscript
  aggregates : List CatalogAggregate
  ranking : ContentionRanking
  classification : SweepClassification
  sanitization : ContentionSanitization
  deriving DecidableEq

end CatalogBench.Commit
