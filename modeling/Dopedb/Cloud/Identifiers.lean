import Mathlib.Data.List.Basic

/-!
# Identifiers

The patterns over ASCII that the control plane checks identifiers, hashes and codes with.
-/

namespace Dopedb.Cloud

/-- A digit of a hash. -/
def isLowerHex (c : Char) : Bool := c.isDigit || (decide ('a' ≤ c) && decide (c ≤ 'f'))

/-- A hexadecimal digit of either case. -/
def isAnyHex (c : Char) : Bool := isLowerHex c || (decide ('A' ≤ c) && decide (c ≤ 'F'))

/-- Between `low` and `high` characters of one class. -/
def within (allowed : Char → Bool) (low high : Nat) (text : String) : Bool :=
  decide (low ≤ text.length) && decide (text.length ≤ high) && text.toList.all allowed

/-- Each character of a text is in the class at its place. -/
def matchesShape : List (Char → Bool) → List Char → Bool
  | [], [] => true
  | allowed :: shape, c :: text => allowed c && matchesShape shape text
  | _, _ => false

/-- Groups of hexadecimal digits with dashes between them, led by the given classes. -/
def hexGroups : List (List (Char → Bool) × Nat) → List (Char → Bool)
  | [] => []
  | [(lead, count)] => lead ++ List.replicate count isAnyHex
  | (lead, count) :: rest =>
      lead ++ List.replicate count isAnyHex ++ [fun c => c == '-'] ++ hexGroups rest

/-- A UUID with its version and variant digits. -/
def isUuid (text : String) : Bool :=
  matchesShape (hexGroups [
    ([], 8),
    ([], 4),
    ([fun c => decide ('1' ≤ c) && decide (c ≤ '8')], 3),
    ([fun c => decide (c ∈ "89abAB".toList)], 3),
    ([], 12)]) text.toList

/-- `d1DatabaseId`. -/
def isD1DatabaseId (text : String) : Bool :=
  matchesShape (hexGroups [([], 8), ([], 4), ([], 4), ([], 4), ([], 12)]) text.toList

/-- `d1AccountId`. -/
def isD1AccountId (text : String) : Bool := within isAnyHex 32 32 text

/-- A SHA-256 hash in hexadecimal. -/
def isSha256Hex (text : String) : Bool := within isLowerHex 64 64 text

/-- A letter, a digit or a dash of a lower-case name. -/
def isSlugChar (c : Char) : Bool := c.isLower || c.isDigit || c = '-'

/-- The identifiers of a Neon project, branch or endpoint. -/
def isNeonIdentifier (text : String) : Bool :=
  within isSlugChar 1 60 text && text.toList.head?.any fun c => c.isLower || c.isDigit

/-- A failure code. -/
def isFailureCode (text : String) : Bool :=
  within (fun c => c.isUpper || c.isDigit || c = '_') 1 96 text &&
    text.toList.head?.any Char.isUpper

/-- The project that a BigQuery template names as its host. -/
def isBigQueryProject (text : String) : Bool :=
  within isSlugChar 6 30 text && text.toList.head?.any Char.isLower &&
    text.toList.getLast?.any fun c => c.isLower || c.isDigit

/-- The dataset that a BigQuery template names as its database. -/
def isBigQueryDataset (text : String) : Bool :=
  within (fun c => c.isAlphanum || c = '_') 1 1024 text

end Dopedb.Cloud
