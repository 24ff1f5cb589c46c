import CatalogBench.Commit.Stats
import CatalogBench.Library.MachineInt
import CatalogBench.Library.Tally
import Mathlib.Data.Finset.Card

/-!
# Request ledgers

A ledger accounts for the requests of one phase in seven collections at once. Recording and
merging return a result beside the ledger they leave behind, because both can fail half way.
-/

set_option linter.all false

namespace CatalogBench.Commit
open MachineInt

inductive ModelError
  | emptyRequestIdentity
  | duplicateRequestIdentity
  | countOverflow
  | unaccountedRequests
  | statistics (error : StatisticsError)
  deriving DecidableEq

def ModelError.display : ModelError → String
  | .emptyRequestIdentity => "request identity must not be empty"
  | .duplicateRequestIdentity => "request identity was reused within one phase"
  | .countOverflow => "request accounting overflowed u64"
  | .unaccountedRequests => "one or more requests were unaccounted"
  | .statistics error => error.display

structure RequestDigest where
  value : String
  deriving DecidableEq

def RequestDigest.fromBytes (crates : Crates) (value : List UInt8) : RequestDigest :=
  ⟨crates.sha256Hex value⟩

/-- The digest of a text. -/
def textDigest (crates : Crates) (text : String) : RequestDigest := .fromBytes crates (utf8 text)

structure RequestIdentity where
  value : String
  nonempty : value.isEmpty = false
  deriving DecidableEq

namespace RequestIdentity

def new (value : String) : Except ModelError RequestIdentity :=
  if h : value.isEmpty = false then .ok ⟨value, h⟩ else .error .emptyRequestIdentity

def digest (crates : Crates) (identity : RequestIdentity) : RequestDigest :=
  textDigest crates identity.value

end RequestIdentity

structure AcceptedRequests where
  requests : Finset RequestDigest := ∅
  deriving DecidableEq

namespace AcceptedRequests

def insert (crates : Crates) (accepted : AcceptedRequests) (identity : RequestIdentity) :
    AcceptedRequests :=
  ⟨Insert.insert (identity.digest crates) accepted.requests⟩

def tryExtend (accepted other : AcceptedRequests) : Except ModelError AcceptedRequests :=
  if Disjoint accepted.requests other.requests then .ok ⟨accepted.requests ∪ other.requests⟩
  else .error .duplicateRequestIdentity

def containsValue (crates : Crates) (accepted : AcceptedRequests) (value : String) : Bool :=
  textDigest crates value ∈ accepted.requests

end AcceptedRequests

inductive RequestErrorKind
  | transport | timeout | responseTooLarge | unexpectedHttp | malformedResponse | harness
  deriving DecidableEq

structure SanitizedRequestError where
  kind : RequestErrorKind
  httpStatus : Option ℕ
  deriving DecidableEq

/-- The derived order: first the kind, then the status. -/
def SanitizedRequestError.cmp (a b : SanitizedRequestError) : Ordering :=
  compareLex (compareOn fun e => e.kind.ctorIdx) (compareOn (·.httpStatus)) a b

instance : Std.TransCmp SanitizedRequestError.cmp :=
  inferInstanceAs (Std.TransCmp (compareLex (compareOn fun e : SanitizedRequestError => e.kind.ctorIdx)
    (compareOn (·.httpStatus))))

instance : Std.LawfulEqCmp SanitizedRequestError.cmp where
  compare_self := Std.ReflCmp.compare_self
  eq_of_compare {a b} h := by
    obtain ⟨hkind, hstatus⟩ := compareLex_eq_eq.mp h
    have hkind : a.kind.ctorIdx = b.kind.ctorIdx := Std.LawfulEqCmp.eq_of_compare hkind
    have hstatus : a.httpStatus = b.httpStatus := Std.LawfulEqCmp.eq_of_compare hstatus
    obtain ⟨kind, status⟩ := a
    obtain ⟨kind', status'⟩ := b
    cases kind <;> cases kind' <;> simp_all [RequestErrorKind.ctorIdx]

inductive RequestOutcome
  | accepted
  | conflict
  | error (error : SanitizedRequestError)
  deriving DecidableEq

structure RequestCounts where
  attempts : ℕ
  accepted : ℕ
  conflicts : ℕ
  errors : ℕ
  deriving DecidableEq

def RequestCounts.fullyAccounted (counts : RequestCounts) : Bool :=
  (checkedAdd 64 counts.accepted counts.conflicts).bind (checkedAdd 64 · counts.errors) =
    some counts.attempts

structure OutcomeLatencies where
  all : Option Distribution
  accepted : Option Distribution
  conflicts : Option Distribution
  errors : Option Distribution
  deriving DecidableEq

structure ErrorCount where
  error : SanitizedRequestError
  count : ℕ
  deriving DecidableEq

structure PhaseEvidence where
  elapsedMs : ℚ
  counts : RequestCounts
  latencyMs : OutcomeLatencies
  attemptedThroughputPerSecond : ℚ
  acceptedThroughputPerSecond : ℚ
  conflictRate : ℚ
  errorRate : ℚ
  errorCounts : List ErrorCount
  deriving DecidableEq

def PhaseEvidence.madeProgress (phase : PhaseEvidence) : Bool := phase.counts.accepted > 0

structure RequestLedger where
  seenRequests : Finset RequestDigest := ∅
  all : List Duration := []
  accepted : List Duration := []
  conflicts : List Duration := []
  errors : List Duration := []
  errorCounts : Std.ExtTreeMap SanitizedRequestError ℕ SanitizedRequestError.cmp := ∅
  acceptedRequests : AcceptedRequests := {}

/-- `u64::try_from` of the length. -/
def sampleCount (samples : List Duration) : Except ModelError ℕ :=
  if samples.length < 2 ^ 64 then .ok samples.length else .error .countOverflow

def ratio (numerator denominator : ℕ) : ℚ :=
  if denominator = 0 then 0 else numerator / denominator

namespace RequestLedger

def record (crates : Crates) (ledger : RequestLedger) (identity : RequestIdentity)
    (latency : Duration) (outcome : RequestOutcome) : Except ModelError Unit × RequestLedger :=
  if identity.digest crates ∈ ledger.seenRequests then (.error .duplicateRequestIdentity, ledger)
  else
    let ledger := { ledger with
      seenRequests := insert (identity.digest crates) ledger.seenRequests
      all := ledger.all ++ [latency] }
    match outcome with
    | .accepted => (.ok (), { ledger with
        accepted := ledger.accepted ++ [latency]
        acceptedRequests := ledger.acceptedRequests.insert crates identity })
    | .conflict => (.ok (), { ledger with conflicts := ledger.conflicts ++ [latency] })
    | .error error =>
      let ledger := { ledger with errors := ledger.errors ++ [latency] }
      let count := ledger.errorCounts.getD error 0
      match checkedAdd 64 count 1 with
      | some count => (.ok (), { ledger with errorCounts := ledger.errorCounts.insert error count })
      | none => (.error .countOverflow,
          { ledger with errorCounts := ledger.errorCounts.insert error count })

def finish (crates : Crates) (ledger : RequestLedger) (elapsed : Duration) :
    Except ModelError (PhaseEvidence × AcceptedRequests) := do
  let attempts ← sampleCount ledger.all
  let accepted ← sampleCount ledger.accepted
  let conflicts ← sampleCount ledger.conflicts
  let errors ← sampleCount ledger.errors
  let counts : RequestCounts :=
    { attempts := attempts, accepted := accepted, conflicts := conflicts, errors := errors }
  if !counts.fullyAccounted then throw .unaccountedRequests
  else
    let denominator := counts.attempts
    let all ← (optionalDistribution crates ledger.all).mapError ModelError.statistics
    let accepted ← (optionalDistribution crates ledger.accepted).mapError ModelError.statistics
    let conflicts ← (optionalDistribution crates ledger.conflicts).mapError ModelError.statistics
    let errors ← (optionalDistribution crates ledger.errors).mapError ModelError.statistics
    let attempted ← (perSecond counts.attempts elapsed).mapError ModelError.statistics
    let acceptedThroughput ← (perSecond counts.accepted elapsed).mapError ModelError.statistics
    let phase : PhaseEvidence := {
      elapsedMs := asSecs elapsed * 1000
      counts := counts
      latencyMs := { all := all, accepted := accepted, conflicts := conflicts, errors := errors }
      attemptedThroughputPerSecond := attempted
      acceptedThroughputPerSecond := acceptedThroughput
      conflictRate := ratio counts.conflicts denominator
      errorRate := ratio counts.errors denominator
      errorCounts := ledger.errorCounts.toList.map fun (error, count) => ⟨error, count⟩ }
    return (phase, ledger.acceptedRequests)

/-- The sums of the last loop cannot overflow: the second check has tried each of them. -/
def tryMerge (ledger other : RequestLedger) : Except ModelError Unit × RequestLedger :=
  if ¬Disjoint ledger.seenRequests other.seenRequests then
    (.error .duplicateRequestIdentity, ledger)
  else if other.errorCounts.toList.any fun entry =>
      (checkedAdd 64 (ledger.errorCounts.getD entry.1 0) entry.2).isNone then
    (.error .countOverflow, ledger)
  else
    match ledger.acceptedRequests.tryExtend other.acceptedRequests with
    | .error error => (.error error, ledger)
    | .ok acceptedRequests => (.ok (), {
        seenRequests := ledger.seenRequests ∪ other.seenRequests
        all := ledger.all ++ other.all
        accepted := ledger.accepted ++ other.accepted
        conflicts := ledger.conflicts ++ other.conflicts
        errors := ledger.errors ++ other.errors
        errorCounts := Tally.addAll ledger.errorCounts other.errorCounts.toList
        acceptedRequests := acceptedRequests })

end RequestLedger

end CatalogBench.Commit
