import CatalogBench.Crates
import Mathlib.Data.List.Sort
import Mathlib.Tactic.Common

/-!
# The transport of the infrastructure clients

The errors of the shared JSON transport and the helpers of Go's libraries that both clients use.
-/

set_option linter.all false

namespace CatalogBench.Infra

/-- What the clients call of Go's libraries: the verb `%q` and `url.PathEscape`. -/
structure GoText where
  quote : String → String
  pathEscape : String → String

/-- `HTTPStatusError`. -/
structure HttpStatusError where
  method : String
  path : String
  code : ℕ
  deriving DecidableEq

/-- An error by its text and the `HTTPStatusError` that `errors.As` finds in its chain. -/
structure InfraError where
  message : String
  status : Option HttpStatusError
  deriving DecidableEq

namespace InfraError

def ofStatus (error : HttpStatusError) : InfraError :=
  ⟨error.method ++ " " ++ error.path ++ " returned HTTP " ++ toString error.code, some error⟩

def ofMessage (message : String) : InfraError := ⟨message, none⟩

/-- `fmt.Errorf` with `%w` at the end. -/
def wrap (text : String) (error : InfraError) : InfraError :=
  ⟨text ++ ": " ++ error.message, error.status⟩

/-- `errors.As` finds a status error with this code. -/
def hasStatus (error : InfraError) (code : ℕ) : Bool :=
  error.status.any fun status => status.code = code

@[simp] theorem hasStatus_ofStatus (error : HttpStatusError) (code : ℕ) :
    (ofStatus error).hasStatus code = decide (error.code = code) := rfl

end InfraError

/-- `strings.TrimSpace`. -/
def trimSpace (text : String) : String :=
  String.ofList ((text.toList.dropWhile isWhiteSpace).reverse.dropWhile isWhiteSpace).reverse

/-- `strings.TrimRight` of slashes. -/
def trimRightSlashes (text : String) : String :=
  String.ofList (text.toList.reverse.dropWhile (· = '/')).reverse

/-- `strings.TrimSuffix` of one slash. -/
def trimSuffixSlash (text : String) : String :=
  if text.toList.getLast? = some '/' then String.ofList text.toList.dropLast else text

/-- `slices.Sort` of strings. -/
def sortStrings (values : List String) : List String := values.insertionSort (· ≤ ·)

end CatalogBench.Infra
