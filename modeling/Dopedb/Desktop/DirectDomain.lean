import Dopedb.Cloud.DirectAccessCore
import Dopedb.Library.Base64
import Dopedb.Library.Framing
import Dopedb.Results.CsvText
import Dopedb.Safety.StatementKinds

/-!
# The domain of direct access on the device

The values of `direct_access/domain.rs` that a device reads from a shared record, and the shapes of
the public verifiers in `verifier.rs`. Each parser accepts exactly the texts that may stand in a
statement.
-/

namespace Dopedb.Desktop

open Library Cloud
open Results (splitOnce)
open Safety (toAsciiLowercase)

/-- `strip_prefix`. -/
def stripPrefix (lead text : List Char) : Option (List Char) :=
  if lead.isPrefixOf text then some (text.drop lead.length) else none

/-- `char::is_control`. -/
def isControlChar (c : Char) : Bool :=
  decide (c.toNat ≤ 0x1f) || (decide (0x7f ≤ c.toNat) && decide (c.toNat ≤ 0x9f))

/-! ## The scope -/

/-- The most schemas or databases that one shared record may expose. -/
def MAX_SCOPE_ENTRIES : Nat := 32

/-- A character that may not stand in the name of a namespace, apart from the controls. -/
def isQuoting (c : Char) : Bool := c = '"' || c = '`' || c = '\\' || c = '%' || c = '\''

/-- The name has a length that the engine keeps whole. -/
def namespaceLengthOk (engine : DirectEngine) (name : String) : Bool :=
  match engine with
  | .postgres =>
    decide (1 ≤ byteLength name.toList) && decide (byteLength name.toList ≤ 63)
  | .mysql => decide (1 ≤ name.toList.length) && decide (name.toList.length ≤ 64)

/-- A name that belongs to the engine itself. -/
def systemNamespace (engine : DirectEngine) (lower : String) : Bool :=
  match engine with
  | .postgres => "pg_".toList.isPrefixOf lower.toList || lower = "information_schema"
  | .mysql =>
    decide (lower ∈ ["mysql", "information_schema", "performance_schema", "sys"])

/-- `valid_namespace_name`. -/
def validNamespaceName (engine : DirectEngine) (name : String) : Bool :=
  if !namespaceLengthOk engine name || name.toList ≠ trim name.toList then false
  else if name.toList.any fun c => isControlChar c || isQuoting c then false
  else !systemNamespace engine (toAsciiLowercase name)

/-- The loop of `Scope::new`: every name is valid and none is there twice. -/
def newNames (engine : DirectEngine) : List String → List String → Bool
  | _, [] => true
  | seen, name :: names =>
    if validNamespaceName engine name = false ∨ name ∈ seen then false
    else newNames engine (name :: seen) names

theorem new_names_iff (engine : DirectEngine) (seen names : List String) :
    newNames engine seen names = true ↔
      (∀ name ∈ names, validNamespaceName engine name = true) ∧ names.Nodup ∧
        ∀ name ∈ names, name ∉ seen := by
  induction names generalizing seen with
  | nil => simp [newNames]
  | cons name names ih =>
      rw [List.forall_mem_cons, List.forall_mem_cons, List.nodup_cons]
      unfold newNames
      by_cases hname : validNamespaceName engine name = false ∨ name ∈ seen
      · rw [if_pos hname]
        simp only [Bool.false_eq_true, false_iff]
        rintro ⟨⟨hvalid, -⟩, -, hnew, -⟩
        rcases hname with hinvalid | hseen
        · rw [hvalid] at hinvalid
          cases hinvalid
        · exact hnew hseen
      · rw [if_neg hname, ih]
        obtain ⟨hvalid, hnew⟩ := not_or.mp hname
        simp only [List.mem_cons, not_or]
        constructor
        · rintro ⟨hnames, hnodup, hfresh⟩
          exact ⟨⟨Bool.of_not_eq_false hvalid, hnames⟩,
            ⟨fun h => (hfresh name h).1 rfl, hnodup⟩, hnew, fun other h => (hfresh other h).2⟩
        · rintro ⟨⟨-, hnames⟩, ⟨hown, hnodup⟩, -, hfresh⟩
          exact ⟨hnames, hnodup,
            fun other h => ⟨fun heq => hown (heq ▸ h), hfresh other h⟩⟩

/-- The schemas or databases of a shared record, as they were validated. -/
structure Scope (engine : DirectEngine) where
  names : List String
  nonempty : names ≠ []
  bounded : names.length ≤ MAX_SCOPE_ENTRIES
  valid : ∀ name ∈ names, validNamespaceName engine name = true
  nodup : names.Nodup

/-- `Scope::new`. -/
def Scope.new (engine : DirectEngine) (names : List String) : Option (Scope engine) :=
  if hlength : names = [] ∨ MAX_SCOPE_ENTRIES < names.length then none
  else if hnames : newNames engine [] names = true then
    some {
      names
      nonempty := fun h => hlength (.inl h)
      bounded := Nat.le_of_not_lt fun h => hlength (.inr h)
      valid := ((new_names_iff engine [] names).mp hnames).1
      nodup := ((new_names_iff engine [] names).mp hnames).2.1 }
  else none

/-- The lists that make a scope. -/
theorem scope_new_iff {engine : DirectEngine} {names : List String} :
    (Scope.new engine names).isSome ↔
      names ≠ [] ∧ names.length ≤ MAX_SCOPE_ENTRIES ∧
        (∀ name ∈ names, validNamespaceName engine name = true) ∧ names.Nodup := by
  unfold Scope.new
  have hiff := new_names_iff engine [] names
  simp only [List.not_mem_nil, not_false_eq_true, implies_true, and_true] at hiff
  split
  case isTrue hlength =>
      simp only [Option.isSome_none, Bool.false_eq_true, false_iff]
      rintro ⟨hne, hle, -⟩
      rcases hlength with hempty | hlong
      · exact hne hempty
      · omega
  case isFalse hlength =>
      obtain ⟨hne, hle⟩ := not_or.mp hlength
      rw [← hiff]
      split
      case isTrue hnames => simp [hne, hnames, Nat.le_of_not_lt hle]
      case isFalse hnames => simp [hnames]

/-! ## The principal -/

/-- The digits of a generated name. -/
def isLowerHexDigit (c : Char) : Bool :=
  (decide ('0' ≤ c) && decide (c ≤ '9')) || (decide ('a' ≤ c) && decide (c ≤ 'f'))

/-- A generated principal name. -/
structure PrincipalName where
  value : String
  deriving DecidableEq

/-- `PrincipalName::parse`. -/
def PrincipalName.parse (value : String) : Option PrincipalName :=
  match stripPrefix "dopedb_".toList value.toList with
  | none => none
  | some hex =>
    if byteLength hex = 20 ∧ hex.all isLowerHexDigit then some ⟨value⟩ else none

/-- An ownership marker. -/
structure Marker where
  value : String
  deriving DecidableEq

/-- A character of a marker. -/
def isUrlSafe (c : Char) : Bool := c.isAlphanum || c = '-' || c = '_'

/-- `Marker::parse`. -/
def Marker.parse (value : String) : Option Marker :=
  if 16 ≤ byteLength value.toList ∧ byteLength value.toList ≤ 64 ∧
      value.toList.all isUrlSafe then
    some ⟨value⟩
  else none

/-! ## Verifiers -/

/-- A strict engine for standard base64: it reads exactly what the encoder writes. -/
structure StandardBase64 where
  decode : List Char → Option (List UInt8)
  strict : ∀ text bytes, decode text = some bytes ↔ text = Base64.encode bytes

/-- The reader of the library is such an engine. -/
def StandardBase64.reference : StandardBase64 where
  decode := Base64.decode
  strict := fun _ _ => Base64.decode_iff

/-- `is_base64_of`. -/
def isBase64Of (standard : StandardBase64) (value : List Char) (bytes : Nat) : Bool :=
  decide (byteLength value = (bytes + 2) / 3 * 4) &&
    (standard.decode value).any (fun decoded => decoded.length = bytes) &&
    value.all fun c => c.isAlphanum || c = '+' || c = '/' || c = '='

/-- `is_valid_scram`. -/
def isValidScram (standard : StandardBase64) (value : String) : Bool :=
  match stripPrefix "SCRAM-SHA-256$4096:".toList value.toList with
  | none => false
  | some rest =>
    match splitOnce '$' rest with
    | none => false
    | some (salt, keys) =>
      match splitOnce ':' keys with
      | none => false
      | some (stored, server) =>
        isBase64Of standard salt 16 && isBase64Of standard stored 32 &&
          isBase64Of standard server 32

/-- `CRYPT_ALPHABET`. -/
def CRYPT_ALPHABET : List Char :=
  "./0123456789ABCDEFGHIJKLMNOPQRSTUVWXYZabcdefghijklmnopqrstuvwxyz".toList

/-- `is_valid_caching_sha2`. -/
def isValidCachingSha2 (value : String) : Bool :=
  match stripPrefix "$A$005$".toList value.toList with
  | none => false
  | some rest => decide (byteLength rest = 20 + 43) && rest.all fun c => decide (c ∈ CRYPT_ALPHABET)

/-- `is_valid_verifier`. -/
def isValidVerifier (standard : StandardBase64) (kind : DirectVerifierKind) (value : String) :
    Bool :=
  match kind with
  | .scramSha256 => isValidScram standard value
  | .cachingSha2 => isValidCachingSha2 value

end Dopedb.Desktop
