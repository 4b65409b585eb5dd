import Dopedb.Library.Json
import Mathlib.Data.Set.Function

/-!
# Code outside the repository

The program calls SHA-256, `serde_json` and `chrono` without containing their code. A `Platform`
is one choice of these functions, and the named predicates below are what the program relies on,
each for the inputs that a statement names: `Platform.ReadsBack` and `Platform.Rereads` for
`serde_json` reading what it wrote, `Platform.CollisionFree` for SHA-256, and
`Platform.StampsApart` and `Platform.DefaultStampsApart` for time stamps.
-/

namespace Dopedb

open Library

/-- An instant in nanoseconds. The stored RFC 3339 texts carry nanoseconds and a four-digit year,
so that comparing texts compares instants. -/
abbrev DateTime := Int

/-- A UUID, known by the hyphenated text that `to_string` writes and `parse_uuid` reads back. -/
structure Uuid where
  text : String
  deriving DecidableEq, Repr

/-- A SHA-256 digest. -/
abbrev Digest := Vector UInt8 32

/-- The functions of the libraries the program calls. -/
structure Platform where
  /-- SHA-256 of the UTF-8 bytes of a text. -/
  sha256 : String → Digest
  /-- `serde_json::to_string`. -/
  jsonText : Json → String
  /-- `serde_json::from_str`. -/
  jsonRead : String → Option Json
  /-- `DateTime::to_rfc3339_opts` with nanoseconds. -/
  rfc3339 : DateTime → String
  /-- `DateTime::to_rfc3339`. -/
  toRfc3339 : DateTime → String

namespace Platform

variable (platform : Platform)

/-- `serde_json` reads each of these documents back from the canonical text it wrote for it. -/
def ReadsBack (docs : Set Json) : Prop :=
  ∀ v ∈ docs, platform.jsonRead (platform.jsonText v.canonicalValue) = some v.canonicalValue

/-- `serde_json` reads each of these texts as a document of which it is the canonical text. -/
def Rereads (texts : Set String) : Prop :=
  ∀ text ∈ texts, ∃ v, platform.jsonRead text = some v ∧ platform.jsonText v.canonicalValue = text

/-- No two of these texts share their SHA-256. -/
def CollisionFree (texts : Set String) : Prop := Set.InjOn platform.sha256 texts

/-- Different ones of these instants have different texts. -/
def StampsApart (instants : Set DateTime) : Prop := Set.InjOn platform.rfc3339 instants

/-- Different ones of these instants have different default texts. -/
def DefaultStampsApart (instants : Set DateTime) : Prop := Set.InjOn platform.toRfc3339 instants

/-- Documents that are read back and share their canonical text are the same up to the order of
object members. -/
theorem ReadsBack.canonical_inj {platform : Platform} {docs : Set Json}
    (h : platform.ReadsBack docs) {v v' : Json} (hv : v ∈ docs) (hv' : v' ∈ docs)
    (htext : platform.jsonText v.canonicalValue = platform.jsonText v'.canonicalValue) :
    v.canonicalValue = v'.canonicalValue := by
  have hread := h v hv
  rw [htext, h v' hv'] at hread
  exact (Option.some.inj hread).symm

end Platform

/-- The hexadecimal digits in the order of their values. -/
def HEX : List Char :=
  ['0', '1', '2', '3', '4', '5', '6', '7', '8', '9', 'a', 'b', 'c', 'd', 'e', 'f']

/-- The digit of a value below sixteen. -/
def hexDigit (n : Nat) : Char := HEX.getD n '0'

/-- The two digits of a byte. -/
def hexByte (byte : UInt8) : List Char := [hexDigit (byte.toNat / 16), hexDigit (byte.toNat % 16)]

/-- Lowercase hexadecimal text of a digest. -/
def lowerHex (digest : Digest) : String := String.ofList (digest.toList.flatMap hexByte)

/-- Digits of different values below sixteen differ. -/
theorem hex_digit_inj {m n : Nat} (hm : m < 16) (hn : n < 16) (h : hexDigit m = hexDigit n) :
    m = n := by
  have hall : ∀ a : Fin 16, ∀ b : Fin 16, hexDigit a = hexDigit b → a = b := by decide
  exact Fin.mk.inj_iff.mp (hall ⟨m, hm⟩ ⟨n, hn⟩ h)

/-- A byte is determined by its two digits. -/
theorem hex_byte_inj {a b : UInt8} (h : hexByte a = hexByte b) : a = b := by
  have ha := a.toNat_lt
  have hb := b.toNat_lt
  obtain ⟨hhigh, hlow⟩ : hexDigit (a.toNat / 16) = hexDigit (b.toNat / 16) ∧
      hexDigit (a.toNat % 16) = hexDigit (b.toNat % 16) := by
    simpa [hexByte] using h
  have hdiv := hex_digit_inj (by omega) (by omega) hhigh
  have hmod := hex_digit_inj (by omega) (by omega) hlow
  exact UInt8.toNat_inj.mp (by omega)

/-- Bytes are determined by the concatenation of their digits. -/
theorem flat_map_hex_byte_inj {bytes bytes' : List UInt8}
    (h : bytes.flatMap hexByte = bytes'.flatMap hexByte) : bytes = bytes' := by
  induction bytes generalizing bytes' with
  | nil => cases bytes' <;> simp_all [hexByte]
  | cons b rest ih =>
      cases bytes' with
      | nil => simp [hexByte] at h
      | cons b' rest' =>
          simp only [List.flatMap_cons] at h
          obtain ⟨hhead, htail⟩ := List.append_inj h rfl
          rw [hex_byte_inj hhead, ih htail]

/-- A digest is determined by its hexadecimal text. -/
theorem lower_hex_inj {digest digest' : Digest} (h : lowerHex digest = lowerHex digest') :
    digest = digest' := by
  have hbytes := flat_map_hex_byte_inj (String.ofList_injective h)
  exact Vector.toList_inj.mp hbytes

/-- The characters of a digest's text are hexadecimal digits. -/
theorem mem_lower_hex {digest : Digest} {c : Char} (h : c ∈ (lowerHex digest).toList) :
    c ∈ HEX := by
  have hdigit : ∀ n : Nat, hexDigit n ∈ HEX := by
    intro n
    by_cases hn : n < 16
    · have hall : ∀ a : Fin 16, hexDigit a ∈ HEX := by decide
      exact hall ⟨n, hn⟩
    · rw [hexDigit, List.getD_eq_getElem?_getD, List.getElem?_eq_none (by simpa [HEX] using hn)]
      decide
  rw [lowerHex, String.toList_ofList, List.mem_flatMap] at h
  obtain ⟨byte, -, hc⟩ := h
  rcases List.mem_cons.mp hc with rfl | hc
  · exact hdigit _
  · rw [List.mem_singleton.mp hc]
    exact hdigit _

/-- The text of a digest is not empty. -/
theorem lower_hex_ne_empty (digest : Digest) : lowerHex digest ≠ "" := by
  intro h
  have hlist := congrArg String.toList h
  rw [lowerHex, String.toList_ofList, String.toList_empty, List.flatMap_eq_nil_iff] at hlist
  have hnil : digest.toList = [] := by
    refine List.eq_nil_iff_forall_not_mem.mpr fun byte hbyte => ?_
    have hempty := hlist byte hbyte
    simp [hexByte] at hempty
  have hlength := congrArg List.length hnil
  simp at hlength

end Dopedb
