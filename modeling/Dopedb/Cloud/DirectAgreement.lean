import Dopedb.Cloud.DirectRegistration

/-!
# Agreement of the control plane and the device

When the two sides accept the same inputs of direct access. Verifiers, principal names and generated
markers always agree, and scopes do exactly when no name is refused by one side alone.
-/

namespace Dopedb.Cloud

open Library Library.Base64 Desktop
open Results (splitOnce)

/-! ## Encoded keys -/

set_option maxRecDepth 100000 in
/-- The two spellings of the alphabet agree on ASCII. -/
theorem base64_table : (List.range 128).all (fun n =>
    isBase64 (Char.ofNat n) == decide (Char.ofNat n ∈ alphabet)) = true := by decide

set_option maxRecDepth 100000 in
theorem alphabet_ascii : alphabet.all (fun c => decide (c.toNat < 128)) = true := by decide

set_option maxRecDepth 100000 in
/-- The characters that end a key have no unused bit. -/
theorem ending_table :
    "AQgw".toList = (List.range 4).map (fun n => symbol (n * 16)) ∧
      "AEIMQUYcgkosw048".toList = (List.range 16).map (fun n => symbol (n * 4)) := by decide

/-- A character of ASCII letters and digits is one of ASCII. -/
theorem alphanum_lt {c : Char} (h : c.isAlphanum = true) : c.toNat < 128 := by
  simp only [Char.isAlphanum, Char.isAlpha, Char.isUpper, Char.isLower, Char.isDigit,
    Bool.or_eq_true, Bool.and_eq_true, decide_eq_true_eq] at h
  rcases h with (⟨-, h⟩ | ⟨-, h⟩) | ⟨-, h⟩
  · have hle : c.toNat ≤ 90 := h
    omega
  · have hle : c.toNat ≤ 122 := h
    omega
  · have hle : c.toNat ≤ 57 := h
    omega

theorem base64_lt {c : Char} (h : isBase64 c = true) : c.toNat < 128 := by
  simp only [isBase64, Bool.or_eq_true, decide_eq_true_eq] at h
  rcases h with (h | rfl) | rfl
  · exact alphanum_lt h
  · decide
  · decide

/-- The characters of base64 are those with a value. -/
theorem is_base64_iff (c : Char) : isBase64 c = true ↔ ∃ n, value? c = some n := by
  have hvalue : (∃ n, value? c = some n) ↔ c ∈ alphabet := by
    unfold value?
    split <;> simp [*]
  rw [hvalue]
  constructor
  · intro h
    have htable := List.all_eq_true.mp base64_table c.toNat (List.mem_range.mpr (base64_lt h))
    rw [Char.ofNat_toNat, beq_iff_eq, h] at htable
    exact of_decide_eq_true htable.symm
  · intro h
    have hlt : c.toNat < 128 :=
      of_decide_eq_true (List.all_eq_true.mp alphabet_ascii c h)
    have htable := List.all_eq_true.mp base64_table c.toNat (List.mem_range.mpr hlt)
    rw [Char.ofNat_toNat, beq_iff_eq] at htable
    rw [htable]
    exact decide_eq_true h

theorem is_base64_symbol {n : Nat} (h : n < 64) : isBase64 (symbol n) = true :=
  (is_base64_iff _).mpr ⟨n, value_symbol h⟩

/-- The character before two paddings. -/
theorem ends_four_iff (c : Char) : oneOf "AQgw" c = true ↔ ∃ n < 4, symbol (n * 16) = c := by
  unfold oneOf
  rw [decide_eq_true_eq, ending_table.1, List.mem_map]
  simp only [List.mem_range]

/-- The character before one padding. -/
theorem ends_two_iff (c : Char) :
    oneOf "AEIMQUYcgkosw048" c = true ↔ ∃ n < 16, symbol (n * 4) = c := by
  unfold oneOf
  rw [decide_eq_true_eq, ending_table.2, List.mem_map]
  simp only [List.mem_range]

/-- The padding. -/
def isPadding (c : Char) : Bool := decide (c = '=')

/-- The classes of the characters of some bytes, by their number. -/
def encodedClasses : Nat → List (Char → Bool)
  | 0 => []
  | 1 => [isBase64, oneOf "AQgw", isPadding, isPadding]
  | 2 => [isBase64, isBase64, oneOf "AEIMQUYcgkosw048", isPadding]
  | n + 3 => isBase64 :: isBase64 :: isBase64 :: isBase64 :: encodedClasses n

/-- An encoded text has the classes of its length. -/
theorem matches_encode (bytes : List UInt8) :
    matchesClasses (encodedClasses bytes.length) (encode bytes) = true := by
  induction bytes using encode.induct with
  | case1 => rfl
  | case2 a =>
      have ha := a.toNat_lt
      simp only [List.length_singleton, encodedClasses, encode, matchesClasses, Bool.and_true,
        Bool.and_eq_true]
      exact ⟨is_base64_symbol (by omega), (ends_four_iff _).mpr ⟨_, by omega, rfl⟩, rfl, rfl⟩
  | case3 a b =>
      have ha := a.toNat_lt
      have hb := b.toNat_lt
      simp only [List.length_cons, List.length_nil, encodedClasses, encode, matchesClasses,
        Bool.and_true, Bool.and_eq_true]
      exact ⟨is_base64_symbol (by omega), is_base64_symbol (by omega),
        (ends_two_iff _).mpr ⟨_, by omega, rfl⟩, rfl⟩
  | case4 a b c rest ih =>
      have ha := a.toNat_lt
      have hb := b.toNat_lt
      have hc := c.toNat_lt
      simp only [List.length_cons, encodedClasses, encode, matchesClasses, Bool.and_eq_true]
      exact ⟨is_base64_symbol (by omega), is_base64_symbol (by omega),
        is_base64_symbol (by omega), is_base64_symbol (by omega), ih⟩

/-- A text without classes is empty. -/
@[simp] theorem matches_nil_iff (text : List Char) : matchesClasses [] text = true ↔ text = [] := by
  cases text <;> simp [matchesClasses]

/-- A text of a class and more. -/
theorem matches_cons_iff (allowed : Char → Bool) (classes : List (Char → Bool)) (text : List Char) :
    matchesClasses (allowed :: classes) text = true ↔
      ∃ c rest, text = c :: rest ∧ allowed c = true ∧ matchesClasses classes rest = true := by
  cases text with
  | nil => simp [matchesClasses]
  | cons c rest => simp [matchesClasses]

/-- A text with the classes of a length is read as that many bytes. -/
theorem decode_of_matches {n : Nat} {text : List Char}
    (h : matchesClasses (encodedClasses n) text = true) :
    ∃ bytes, decode text = some bytes ∧ bytes.length = n := by
  induction n using encodedClasses.induct generalizing text with
  | case1 =>
      rw [encodedClasses, matches_nil_iff] at h
      subst h
      exact ⟨[], rfl, rfl⟩
  | case2 =>
      simp only [encodedClasses, matches_cons_iff, matches_nil_iff, isPadding,
        decide_eq_true_eq] at h
      obtain ⟨w, _, rfl, hw, x, _, rfl, hx, _, _, rfl, rfl, _, _, rfl, rfl, rfl⟩ := h
      obtain ⟨a, ha⟩ := (is_base64_iff w).mp hw
      obtain ⟨b, hb, rfl⟩ := (ends_four_iff x).mp hx
      refine ⟨[UInt8.ofNat (a * 4 + b * 16 / 16)], ?_, rfl⟩
      rw [decode, ha, value_symbol (by omega)]
      simp
  | case3 =>
      simp only [encodedClasses, matches_cons_iff, matches_nil_iff, isPadding,
        decide_eq_true_eq] at h
      obtain ⟨w, _, rfl, hw, x, _, rfl, hx, y, _, rfl, hy, _, _, rfl, rfl, rfl⟩ := h
      obtain ⟨a, ha⟩ := (is_base64_iff w).mp hw
      obtain ⟨b, hb⟩ := (is_base64_iff x).mp hx
      obtain ⟨c, hc, rfl⟩ := (ends_two_iff y).mp hy
      refine ⟨[UInt8.ofNat (a * 4 + b / 16), UInt8.ofNat (b % 16 * 16 + c * 4 / 4)], ?_, rfl⟩
      rw [decode, ha, hb, value_symbol (by omega)]
      · simp
      · exact symbol_ne_padding (by omega)
  | case4 n ih =>
      simp only [encodedClasses, matches_cons_iff] at h
      obtain ⟨w, _, rfl, hw, x, _, rfl, hx, y, _, rfl, hy, z, rest, rfl, hz, hrest⟩ := h
      obtain ⟨a, ha⟩ := (is_base64_iff w).mp hw
      obtain ⟨b, hb⟩ := (is_base64_iff x).mp hx
      obtain ⟨c, hc⟩ := (is_base64_iff y).mp hy
      obtain ⟨d, hd⟩ := (is_base64_iff z).mp hz
      obtain ⟨bytes, hbytes, hlength⟩ := ih hrest
      -- a padding has no value, so this group is not the last
      have hpadding : z ≠ '=' := by
        rintro rfl
        rw [value_padding] at hd
        cases hd
      exact ⟨_, by rw [decode_group hpadding, ha, hb, hc, hd, hbytes]; rfl, by simp [hlength]⟩

/-- The texts of a number of bytes. -/
theorem matches_encoded_iff (n : Nat) (text : List Char) :
    matchesClasses (encodedClasses n) text = true ↔
      ∃ bytes : List UInt8, bytes.length = n ∧ text = encode bytes := by
  constructor
  · intro h
    obtain ⟨bytes, hbytes, hlength⟩ := decode_of_matches h
    exact ⟨bytes, hlength, decode_iff.mp hbytes⟩
  · rintro ⟨bytes, rfl, rfl⟩
    exact matches_encode bytes

/-- The encoder writes the alphabet and the padding. -/
theorem mem_encode {bytes : List UInt8} {c : Char} (h : c ∈ encode bytes) :
    isBase64 c = true ∨ c = '=' := by
  induction bytes using encode.induct with
  | case1 => cases h
  | case2 a =>
      have ha := a.toNat_lt
      simp only [encode, List.mem_cons, List.not_mem_nil, or_false] at h
      rcases h with rfl | rfl | rfl | rfl
      · exact .inl (is_base64_symbol (by omega))
      · exact .inl (is_base64_symbol (by omega))
      · exact .inr rfl
      · exact .inr rfl
  | case3 a b =>
      have ha := a.toNat_lt
      have hb := b.toNat_lt
      simp only [encode, List.mem_cons, List.not_mem_nil, or_false] at h
      rcases h with rfl | rfl | rfl | rfl
      · exact .inl (is_base64_symbol (by omega))
      · exact .inl (is_base64_symbol (by omega))
      · exact .inl (is_base64_symbol (by omega))
      · exact .inr rfl
  | case4 a b c rest ih =>
      have ha := a.toNat_lt
      have hb := b.toNat_lt
      have hc := c.toNat_lt
      simp only [encode, List.mem_cons] at h
      rcases h with rfl | rfl | rfl | rfl | hrest
      · exact .inl (is_base64_symbol (by omega))
      · exact .inl (is_base64_symbol (by omega))
      · exact .inl (is_base64_symbol (by omega))
      · exact .inl (is_base64_symbol (by omega))
      · exact ih hrest

/-- A text of ASCII characters has one byte each. -/
theorem byte_length_of_ascii {text : List Char} (h : ∀ c ∈ text, c.toNat < 128) :
    byteLength text = text.length :=
  byte_length_ascii fun c hc => by
    have hle : c.val ≤ 0x7f := UInt32.le_iff_toNat_le.mpr (by
      have := h c hc
      show c.toNat ≤ 127
      omega)
    exact if_pos hle

/-- The device accepts as the text of a number of bytes what has its classes. -/
theorem is_base64_of_eq (standard : StandardBase64) (text : List Char) (n : Nat) :
    isBase64Of standard text n = matchesClasses (encodedClasses n) text := by
  rw [Bool.eq_iff_iff, matches_encoded_iff]
  unfold isBase64Of
  simp only [Bool.and_eq_true, decide_eq_true_eq, Option.any_eq_true, List.all_eq_true]
  constructor
  · rintro ⟨⟨-, bytes, hbytes, hlength⟩, -⟩
    exact ⟨bytes, hlength, (standard.strict _ _).mp hbytes⟩
  · rintro ⟨bytes, rfl, rfl⟩
    have hascii : ∀ c ∈ encode bytes, c.toNat < 128 := by
      intro c hc
      rcases mem_encode hc with h | rfl
      · exact base64_lt h
      · decide
    refine ⟨⟨?_, bytes, (standard.strict _ _).mpr rfl, rfl⟩, ?_⟩
    · rw [byte_length_of_ascii hascii, length_encode]
    · intro c hc
      rcases mem_encode hc with h | rfl
      · unfold isBase64 at h
        simp only [h, Bool.true_or]
      · decide

/-! ## Verifiers -/

/-- A text of two lists of classes. -/
theorem matches_append_iff (first second : List (Char → Bool)) (text : List Char) :
    matchesClasses (first ++ second) text = true ↔
      ∃ lead rest, text = lead ++ rest ∧ matchesClasses first lead = true ∧
        matchesClasses second rest = true := by
  induction first generalizing text with
  | nil => simp
  | cons allowed first ih =>
      rw [List.cons_append, matches_cons_iff]
      constructor
      · rintro ⟨c, more, rfl, hc, hmore⟩
        obtain ⟨lead, rest, rfl, hlead, hrest⟩ := (ih more).mp hmore
        exact ⟨c :: lead, rest, rfl, by simp [matchesClasses, hc, hlead], hrest⟩
      · rintro ⟨lead, rest, rfl, hlead, hrest⟩
        obtain ⟨c, more, rfl, hc, hmore⟩ := (matches_cons_iff _ _ _).mp hlead
        exact ⟨c, more ++ rest, rfl, hc, (ih _).mpr ⟨more, rest, rfl, hmore, hrest⟩⟩

/-- Only a text itself stands for it. -/
theorem matches_literally_iff (word : String) (text : List Char) :
    matchesClasses (literally word) text = true ↔ text = word.toList := by
  unfold literally
  induction word.toList generalizing text with
  | nil => simp
  | cons expected rest ih =>
      rw [List.map_cons, matches_cons_iff]
      simp [ih]

/-- A text of one class. -/
theorem matches_replicate_iff (n : Nat) (allowed : Char → Bool) (text : List Char) :
    matchesClasses (List.replicate n allowed) text = true ↔
      text.length = n ∧ ∀ c ∈ text, allowed c = true := by
  induction n generalizing text with
  | zero => simp +contextual
  | succ n ih =>
      rw [List.replicate_succ, matches_cons_iff]
      simp only [ih]
      constructor
      · rintro ⟨c, rest, rfl, hc, hlength, hrest⟩
        exact ⟨by simp [hlength], List.forall_mem_cons.mpr ⟨hc, hrest⟩⟩
      · rintro ⟨hlength, hall⟩
        obtain ⟨c, rest, rfl⟩ := List.exists_cons_of_length_eq_add_one hlength
        obtain ⟨hc, hrest⟩ := List.forall_mem_cons.mp hall
        exact ⟨c, rest, rfl, hc, by simpa using hlength, hrest⟩

/-- A stripped prefix stands before the rest. -/
theorem strip_prefix_iff {lead text rest : List Char} :
    stripPrefix lead text = some rest ↔ text = lead ++ rest := by
  unfold stripPrefix
  rw [Option.ite_none_right_eq_some, List.isPrefixOf_iff_prefix]
  constructor
  · rintro ⟨⟨more, rfl⟩, hrest⟩
    rw [List.drop_left] at hrest
    rw [Option.some.inj hrest]
  · rintro rfl
    exact ⟨List.prefix_append _ _, by rw [List.drop_left]⟩

/-- The first separator splits a text. -/
theorem split_once_append {separator : Char} {first : List Char} (hfirst : separator ∉ first)
    (second : List Char) :
    splitOnce separator (first ++ separator :: second) = some (first, second) := by
  have hplain : ∀ c ∈ first, decide (c ≠ separator) = true := by
    intro c hc
    rw [decide_eq_true_eq]
    rintro rfl
    exact hfirst hc
  unfold splitOnce
  rw [if_pos (by simp), List.takeWhile_append_of_pos hplain,
    List.takeWhile_cons_of_neg (by simp), List.append_nil, List.dropWhile_append_of_pos hplain,
    List.dropWhile_cons_of_neg (by simp)]
  rfl

/-- A text that is split has the separator between the parts. -/
theorem eq_of_split_once {separator : Char} {text first second : List Char}
    (h : splitOnce separator text = some (first, second)) : text = first ++ separator :: second := by
  by_cases hmem : separator ∈ text
  · obtain ⟨lead, rest, rfl, hlead⟩ := List.eq_append_cons_of_mem hmem
    rw [split_once_append hlead, Option.some.injEq, Prod.mk.injEq] at h
    rw [h.1, h.2]
  · unfold splitOnce at h
    rw [if_neg hmem] at h
    cases h

/-- No separator stands in an encoded text. -/
theorem separator_not_mem {separator : Char} (hbase : isBase64 separator = false)
    (hpad : separator ≠ '=') {n : Nat} {text : List Char}
    (h : matchesClasses (encodedClasses n) text = true) : separator ∉ text := by
  obtain ⟨bytes, -, rfl⟩ := (matches_encoded_iff n text).mp h
  intro hmem
  rcases mem_encode hmem with hown | hown
  · rw [hbase] at hown
    cases hown
  · exact hpad hown

set_option maxRecDepth 100000 in
/-- `SCRAM_SHA_256` by its parts. -/
theorem scram_classes_eq : scramSha256Classes =
    literally "SCRAM-SHA-256$4096:" ++ (encodedClasses 16 ++ (literally "$" ++
      (encodedClasses 32 ++ (literally ":" ++ encodedClasses 32)))) := by
  rfl

/-- The two readings of a SCRAM verifier agree. -/
theorem scram_agrees (standard : StandardBase64) (verifier : String) :
    matchesClasses scramSha256Classes verifier.toList = isValidScram standard verifier := by
  rw [Bool.eq_iff_iff, scram_classes_eq]
  simp only [matches_append_iff, matches_literally_iff]
  unfold isValidScram
  constructor
  · rintro ⟨_, _, htext, rfl, salt, _, rfl, hsalt, _, _, rfl, rfl, stored, _, rfl, hstored, _,
      server, rfl, rfl, hserver⟩
    have hkeys := split_once_append
      (@separator_not_mem ':' (by decide) (by decide) _ _ hstored) server
    have hrest := split_once_append
      (@separator_not_mem '$' (by decide) (by decide) _ _ hsalt)
      (stored ++ ':' :: server)
    have hbehind : stripPrefix "SCRAM-SHA-256$4096:".toList verifier.toList =
        some (salt ++ '$' :: (stored ++ ':' :: server)) := strip_prefix_iff.mpr htext
    simp only [hbehind, hrest, hkeys, is_base64_of_eq, hsalt, hstored, hserver, Bool.and_self]
  · intro h
    cases hstrip : stripPrefix "SCRAM-SHA-256$4096:".toList verifier.toList with
    | none =>
        rw [hstrip] at h
        cases h
    | some rest =>
        rw [hstrip] at h
        cases hrest : splitOnce '$' rest with
        | none =>
            simp only [hrest] at h
            cases h
        | some parts =>
            obtain ⟨salt, keys⟩ := parts
            cases hkeys : splitOnce ':' keys with
            | none =>
                simp only [hrest, hkeys] at h
                cases h
            | some keyParts =>
                obtain ⟨stored, server⟩ := keyParts
                simp only [hrest, hkeys, is_base64_of_eq, Bool.and_eq_true] at h
                obtain ⟨⟨hsalt, hstored⟩, hserver⟩ := h
                have htext := strip_prefix_iff.mp hstrip
                rw [eq_of_split_once hrest, eq_of_split_once hkeys] at htext
                exact ⟨_, _, htext, rfl, salt, _, rfl, hsalt, ['$'], _, rfl, rfl, stored, _, rfl,
                  hstored, [':'], server, rfl, rfl, hserver⟩

set_option maxRecDepth 100000 in
/-- The two spellings of the crypt alphabet agree on ASCII. -/
theorem crypt_table : (List.range 128).all (fun n =>
    isCrypt (Char.ofNat n) == decide (Char.ofNat n ∈ CRYPT_ALPHABET)) = true := by decide

set_option maxRecDepth 100000 in
theorem crypt_ascii : CRYPT_ALPHABET.all (fun c => decide (c.toNat < 128)) = true := by decide

/-- The characters of the crypt alphabet. -/
theorem is_crypt_iff (c : Char) : isCrypt c = true ↔ c ∈ CRYPT_ALPHABET := by
  have htable : c.toNat < 128 → isCrypt c = decide (c ∈ CRYPT_ALPHABET) := by
    intro hc
    have h := List.all_eq_true.mp crypt_table c.toNat (List.mem_range.mpr hc)
    rwa [Char.ofNat_toNat, beq_iff_eq] at h
  constructor
  · intro h
    have hc : c.toNat < 128 := by
      simp only [isCrypt, Bool.or_eq_true, decide_eq_true_eq] at h
      rcases h with (h | rfl) | rfl
      · exact alphanum_lt h
      · decide
      · decide
    rw [htable hc] at h
    exact of_decide_eq_true h
  · intro h
    rw [htable (of_decide_eq_true (List.all_eq_true.mp crypt_ascii c h))]
    exact decide_eq_true h

/-- The two readings of a `caching_sha2` verifier agree. -/
theorem caching_sha2_agrees (verifier : String) :
    matchesClasses cachingSha2Classes verifier.toList = isValidCachingSha2 verifier := by
  rw [Bool.eq_iff_iff]
  unfold cachingSha2Classes isValidCachingSha2
  simp only [matches_append_iff, matches_literally_iff, matches_replicate_iff]
  have hbytes : ∀ rest : List Char, (∀ c ∈ rest, isCrypt c = true) →
      byteLength rest = rest.length := fun rest h => byte_length_of_ascii fun c hc =>
    of_decide_eq_true (List.all_eq_true.mp crypt_ascii c ((is_crypt_iff c).mp (h c hc)))
  constructor
  · rintro ⟨_, rest, htext, rfl, hlength, hall⟩
    rw [strip_prefix_iff.mpr htext]
    simp only [Bool.and_eq_true, decide_eq_true_eq, List.all_eq_true]
    exact ⟨by rw [hbytes rest hall, hlength], fun c hc => (is_crypt_iff c).mp (hall c hc)⟩
  · intro h
    cases hstrip : stripPrefix "$A$005$".toList verifier.toList with
    | none =>
        rw [hstrip] at h
        cases h
    | some rest =>
        rw [hstrip] at h
        simp only [Bool.and_eq_true, decide_eq_true_eq, List.all_eq_true] at h
        have hall : ∀ c ∈ rest, isCrypt c = true := fun c hc => (is_crypt_iff c).mpr (h.2 c hc)
        exact ⟨_, rest, strip_prefix_iff.mp hstrip, rfl, by rw [← hbytes rest hall, h.1], hall⟩

/-- The two sides read every verifier alike. -/
theorem verifier_agrees (standard : StandardBase64) (kind : DirectVerifierKind)
    (verifier : String) :
    isValidDirectVerifier kind verifier = isValidVerifier standard kind verifier := by
  cases kind with
  | scramSha256 => exact scram_agrees standard verifier
  | cachingSha2 => exact caching_sha2_agrees verifier

/-! ## Principals -/

/-- A hexadecimal digit is an ASCII character. -/
theorem lower_hex_lt {c : Char} (h : isLowerHexDigit c = true) : c.toNat < 128 := by
  simp only [isLowerHexDigit, Bool.or_eq_true, Bool.and_eq_true, decide_eq_true_eq] at h
  rcases h with ⟨-, h⟩ | ⟨-, h⟩
  · have hle : c.toNat ≤ 57 := h
    omega
  · have hle : c.toNat ≤ 102 := h
    omega

/-- The two sides read every principal name alike. -/
theorem principal_name_agrees (name : String) :
    isValidPrincipalName name = (PrincipalName.parse name).isSome := by
  rw [Bool.eq_iff_iff]
  unfold isValidPrincipalName principalNameClasses PrincipalName.parse
  simp only [matches_append_iff, matches_literally_iff, matches_replicate_iff]
  have hbytes : ∀ hex : List Char, (∀ c ∈ hex, isLowerHexDigit c = true) →
      byteLength hex = hex.length := fun hex h =>
    byte_length_of_ascii fun c hc => lower_hex_lt (h c hc)
  constructor
  · rintro ⟨_, hex, htext, rfl, hlength, hall⟩
    rw [strip_prefix_iff.mpr htext]
    simp only
    rw [if_pos ⟨by rw [hbytes hex hall, hlength], List.all_eq_true.mpr hall⟩]
    rfl
  · intro h
    cases hstrip : stripPrefix "dopedb_".toList name.toList with
    | none =>
        rw [hstrip] at h
        cases h
    | some hex =>
        rw [hstrip] at h
        simp only at h
        split at h
        case isTrue hshape =>
            have hall := List.all_eq_true.mp hshape.2
            exact ⟨_, hex, strip_prefix_iff.mp hstrip, rfl,
              by rw [← hbytes hex hall, hshape.1], hall⟩
        case isFalse => cases h

/-- Four characters of every three bytes are no padding. -/
theorem length_filter_encode (bytes : List UInt8) :
    4 * (bytes.length / 3) ≤ ((encode bytes).filter (· ≠ '=')).length := by
  induction bytes using encode.induct with
  | case1 => exact Nat.le_refl 0
  | case2 a => simp
  | case3 a b => simp
  | case4 a b c rest ih =>
      have ha := a.toNat_lt
      have hb := b.toNat_lt
      have hc := c.toNat_lt
      have hkeep : ∀ {n : Nat} (more : List Char), n < 64 →
          (symbol n :: more).filter (· ≠ '=') = symbol n :: more.filter (· ≠ '=') :=
        fun _ h => List.filter_cons_of_pos (decide_eq_true (symbol_ne_padding h))
      rw [encode, hkeep _ (by omega), hkeep _ (by omega), hkeep _ (by omega), hkeep _ (by omega)]
      simp only [List.length_cons]
      omega

/-- The character of a marker for one of base64. -/
theorem url_safe_of_base64 {c : Char} (h : isBase64 c = true) :
    isUrlSafe (if c = '+' then '-' else if c = '/' then '_' else c) = true := by
  unfold isBase64 at h
  by_cases hplus : c = '+'
  · rw [if_pos hplus]
    decide
  · rw [if_neg hplus]
    by_cases hslash : c = '/'
    · rw [if_pos hslash]
      decide
    · rw [if_neg hslash]
      simp only [hplus, hslash, decide_false, Bool.or_false] at h
      simp [isUrlSafe, h]

/-- A character of a marker is one of ASCII. -/
theorem url_safe_lt {c : Char} (h : isUrlSafe c = true) : c.toNat < 128 := by
  simp only [isUrlSafe, Bool.or_eq_true, decide_eq_true_eq] at h
  rcases h with (h | rfl) | rfl
  · exact alphanum_lt h
  · decide
  · decide

/-- The device accepts every marker that the control plane generates. -/
theorem marker_accepted {bytes : List UInt8} (hlength : bytes.length = 32) :
    (Marker.parse (generatePrincipalMarker bytes)).isSome = true := by
  set url : Char → Char := fun c => if c = '+' then '-' else if c = '/' then '_' else c with hurl
  have htext : (generatePrincipalMarker bytes).toList =
      ((encode bytes).map url).filter (· ≠ '=') := by
    rw [generatePrincipalMarker, String.toList_ofList]
  have hsafe : ∀ c ∈ ((encode bytes).map url).filter (· ≠ '='), isUrlSafe c = true := by
    intro c hc
    obtain ⟨hmem, hne⟩ := List.mem_filter.mp hc
    obtain ⟨d, hd, rfl⟩ := List.mem_map.mp hmem
    rcases mem_encode hd with hbase | rfl
    · exact url_safe_of_base64 hbase
    · exact absurd rfl (of_decide_eq_true hne)
  have hcount : (((encode bytes).map url).filter (· ≠ '=')).length =
      ((encode bytes).filter (· ≠ '=')).length := by
    rw [List.filter_map, List.length_map]
    congr 1
    apply List.filter_congr
    intro c _
    show decide (url c ≠ '=') = decide (c ≠ '=')
    rw [decide_eq_decide, hurl]
    by_cases hplus : c = '+'
    · subst hplus
      decide
    · by_cases hslash : c = '/'
      · subst hslash
        decide
      · simp [hplus, hslash]
  have hlow := length_filter_encode bytes
  have hhigh := List.length_filter_le (fun c => decide (c ≠ '=')) (encode bytes)
  rw [length_encode, hlength] at hhigh
  rw [hlength] at hlow
  unfold Marker.parse
  rw [htext, byte_length_of_ascii fun c hc => url_safe_lt (hsafe c hc), hcount, if_pos]
  · rfl
  · exact ⟨by omega, by omega, List.all_eq_true.mpr hsafe⟩

/-! ## The inputs of direct access -/

section Inputs

variable (standard : StandardBase64) (casing : LowerCasing)

/-- The two sides accept the same inputs. -/
structure InputsAgree (engine : DirectEngine) (names : List String) : Prop where
  verifier : ∀ kind verifier,
    isValidDirectVerifier kind verifier = isValidVerifier standard kind verifier
  principalName : ∀ name, isValidPrincipalName name = (PrincipalName.parse name).isSome
  marker : ∀ bytes : List UInt8, bytes.length = 32 →
    (Marker.parse (generatePrincipalMarker bytes)).isSome = true
  scope : (∃ accepted, parseDirectScope casing engine names = .ok accepted) ↔
    (Scope.new engine names).isSome = true

/-- Some check of both sides refuses the list, or no name of it is refused by one side alone, or
both sides refuse some name alone. -/
def ScopeAgrees (engine : DirectEngine) (names : List String) : Prop :=
  names ≠ [] → names.length ≤ MAX_SCOPE_ENTRIES → names.Nodup →
    (∀ name ∈ names, passesBoth engine name = true) →
      (names.any (refusedByPlane engine) = names.any refusedByDevice)

/-- The two sides accept the same inputs exactly when no name of the scope that passes the checks of
both is refused by one of them alone. -/
theorem direct_inputs_agree_iff (engine : DirectEngine) (names : List String) :
    InputsAgree standard casing engine names ↔ ScopeAgrees engine names := by
  have hplane : (∀ name ∈ names, refusedEntry casing engine name = false) ↔
      (∀ name ∈ names, passesBoth engine name = true) ∧
        names.any (refusedByPlane engine) = false := by
    rw [List.any_eq_false, ← forall₂_and]
    refine forall₂_congr fun name _ => ?_
    rw [← Bool.not_eq_true', refused_entry_iff, Bool.and_eq_true, Bool.not_eq_true',
      Bool.not_eq_true]
  have hdevice : (∀ name ∈ names, validNamespaceName engine name = true) ↔
      (∀ name ∈ names, passesBoth engine name = true) ∧ names.any refusedByDevice = false := by
    rw [List.any_eq_false, ← forall₂_and]
    refine forall₂_congr fun name _ => ?_
    rw [valid_namespace_name_iff, Bool.and_eq_true, Bool.not_eq_true', Bool.not_eq_true]
  have hscope : ((∃ accepted, parseDirectScope casing engine names = .ok accepted) ↔
      (Scope.new engine names).isSome = true) ↔ ScopeAgrees engine names := by
    rw [parse_direct_scope_iff, scope_new_iff, hplane, hdevice]
    unfold ScopeAgrees
    -- where a check that both sides make fails, both refuse the scope
    by_cases hshared : names ≠ [] ∧ names.length ≤ MAX_SCOPE_ENTRIES ∧ names.Nodup ∧
        ∀ name ∈ names, passesBoth engine name = true
    · obtain ⟨hne, hle, hnodup, hpasses⟩ := hshared
      simp only [hle, hnodup, hne, ne_eq, not_false_eq_true, true_and, and_true, forall_const,
        show (∀ name ∈ names, passesBoth engine name = true) ↔ True from
          iff_true_intro hpasses]
      cases names.any (refusedByPlane engine) <;> cases names.any refusedByDevice <;> simp
    · constructor
      · intro _ hne hle hnodup hpasses
        exact absurd ⟨hne, hle, hnodup, hpasses⟩ hshared
      · intro _
        constructor
        · rintro ⟨hne, hle, ⟨hpasses, -⟩, hnodup⟩
          exact absurd ⟨hne, hle, hnodup, hpasses⟩ hshared
        · rintro ⟨hne, hle, ⟨hpasses, -⟩, hnodup⟩
          exact absurd ⟨hne, hle, hnodup, hpasses⟩ hshared
  constructor
  · intro h
    exact hscope.mp h.scope
  · intro h
    exact {
      verifier := verifier_agrees standard
      principalName := principal_name_agrees
      marker := fun _ => marker_accepted
      scope := hscope.mpr h }

/-- A name with a control of Latin-1 is registered, and no device accepts it. -/
theorem latin_control_registered :
    parseDirectScope LowerCasing.plain .postgres ["a\u0080"] = .ok ["a\u0080"] ∧
      (Scope.new .postgres ["a\u0080"]).isSome = false ∧
      ¬ InputsAgree StandardBase64.reference LowerCasing.plain .postgres ["a\u0080"] := by
  have hscope : parseDirectScope LowerCasing.plain .postgres ["a\u0080"] = .ok ["a\u0080"] := by
    decide
  have hnone : (Scope.new .postgres ["a\u0080"]).isSome = false := by decide
  refine ⟨hscope, hnone, ?_⟩
  intro h
  have := h.scope.mp ⟨_, hscope⟩
  rw [hnone] at this
  cases this

end Inputs

end Dopedb.Cloud
