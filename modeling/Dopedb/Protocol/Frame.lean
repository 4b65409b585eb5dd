import Dopedb.Library.BigEndian
import Dopedb.Library.JsonText
import Dopedb.Library.Transaction

/-!
# Frames of control messages

`dopedb-protocol/src/frame.rs`: a message is written as JSON behind the four bytes of its length,
and both directions check the same structural limits. Messages of any type are framed through
`FramePayload`, which carries the laws of the type. What `serde_json` reads is a parameter:
`SerdeJson.Reads` says that it reads a text back.
-/

namespace Dopedb.Protocol

open Library

/-- `LENGTH_PREFIX_BYTES`. -/
def LENGTH_PREFIX_BYTES : Nat := 4

/-- `MAX_JSON_DEPTH`. -/
def MAX_JSON_DEPTH : Nat := 32

/-- `MAX_COLLECTION_ITEMS`. -/
def MAX_COLLECTION_ITEMS : Nat := 10000

/-- `MAX_JSON_VALUES`. -/
def MAX_JSON_VALUES : Nat := 10000

/-- `MAX_STRING_BYTES`. -/
def MAX_STRING_BYTES : Nat := 256 * 1024

/-- `request_limit`. -/
def requestLimit : Nat := 1024 * 1024

/-- `FrameError`. -/
inductive FrameError where
  | missingLengthPrefix
  | emptyPayload
  | payloadTooLarge (actual maximum : Nat)
  | lengthMismatch (declared actual : Nat)
  | jsonDepth (maximum : Nat)
  | collectionTooLarge (actual maximum : Nat)
  | itemBudgetExceeded (maximum : Nat)
  | stringTooLarge (actual maximum : Nat)
  | invalidJson (line column : Nat)
  | invalidSchema
  deriving DecidableEq, Repr

/-! ## Limits of JSON values -/

/-- `validate_string`. -/
def validateString (value : String) : Except FrameError Unit :=
  if MAX_STRING_BYTES < value.utf8ByteSize then
    .error (.stringTooLarge value.utf8ByteSize MAX_STRING_BYTES)
  else .ok ()

/-- `validate_collection_len`. -/
def validateCollectionLen (actual : Nat) : Except FrameError Unit :=
  if MAX_COLLECTION_ITEMS < actual then .error (.collectionTooLarge actual MAX_COLLECTION_ITEMS)
  else .ok ()

/-- The keys of an object, one after the other. -/
def validateStrings : List String → Except FrameError Unit
  | [] => .ok ()
  | text :: rest => (validateString text).bind fun _ => validateStrings rest

/-- The values in a value. -/
def children : Json → List Json
  | .arr items => items
  | .obj fields => fields.map Prod.snd
  | _ => []

/-- The texts of a value itself. -/
def ownStrings : Json → List String
  | .str text => [text]
  | .obj fields => fields.map Prod.fst
  | _ => []

/-- What `validate_json_limits` checks of a value itself. The keys are checked from the last one
on. -/
def validateNode : Json → Except FrameError Unit
  | .str text => validateString text
  | .arr items => validateCollectionLen items.length
  | .obj fields =>
    (validateCollectionLen fields.length).bind fun _ =>
      validateStrings (fields.map Prod.fst).reverse
  | _ => .ok ()

/-- The loop of `validate_json_limits` over the pending values, with the values that the budget
still allows. -/
def validatePending : Nat → List (Json × Nat) → Except FrameError Unit
  | _, [] => .ok ()
  | 0, (_, depth) :: _ =>
    if MAX_JSON_DEPTH < depth then .error (.jsonDepth MAX_JSON_DEPTH)
    else .error (.itemBudgetExceeded MAX_JSON_VALUES)
  | budget + 1, (value, depth) :: pending =>
    if MAX_JSON_DEPTH < depth then .error (.jsonDepth MAX_JSON_DEPTH)
    else
      (validateNode value).bind fun _ =>
        validatePending budget ((children value).map (fun child => (child, depth + 1)) ++ pending)

/-- `validate_json_limits`. -/
def validateJsonLimits (value : Json) : Except FrameError Unit :=
  validatePending MAX_JSON_VALUES [(value, 1)]

/-- A value at a depth within the limits, but for the values in it. -/
structure NodeLimited (node : Json × Nat) : Prop where
  depth : node.2 ≤ MAX_JSON_DEPTH
  collection : (children node.1).length ≤ MAX_COLLECTION_ITEMS
  strings : ∀ text ∈ ownStrings node.1, text.utf8ByteSize ≤ MAX_STRING_BYTES

mutual
/-- The values in a value with their depths, itself first. -/
def nodes (depth : Nat) : Json → List (Json × Nat)
  | .arr items => (.arr items, depth) :: nodesOfItems (depth + 1) items
  | .obj fields => (.obj fields, depth) :: nodesOfFields (depth + 1) fields
  | .null => [(.null, depth)]
  | .bool value => [(.bool value, depth)]
  | .int value => [(.int value, depth)]
  | .float text => [(.float text, depth)]
  | .str text => [(.str text, depth)]

/-- The values in the items of an array. -/
def nodesOfItems (depth : Nat) : List Json → List (Json × Nat)
  | [] => []
  | item :: rest => nodes depth item ++ nodesOfItems depth rest

/-- The values in the members of an object. -/
def nodesOfFields (depth : Nat) : List (String × Json) → List (Json × Nat)
  | [] => []
  | (_, item) :: rest => nodes depth item ++ nodesOfFields depth rest
end

/-- A value within the structural limits. -/
structure Limited (value : Json) : Prop where
  nodes_limited : ∀ node ∈ nodes 1 value, NodeLimited node
  values : (nodes 1 value).length ≤ MAX_JSON_VALUES

theorem nodes_of_items_eq (depth : Nat) (items : List Json) :
    nodesOfItems depth items = items.flatMap (nodes depth) := by
  induction items with
  | nil => rfl
  | cons item rest ih => rw [nodesOfItems, ih, List.flatMap_cons]

theorem nodes_of_fields_eq (depth : Nat) (fields : List (String × Json)) :
    nodesOfFields depth fields = (fields.map Prod.snd).flatMap (nodes depth) := by
  induction fields with
  | nil => rfl
  | cons field rest ih => rw [nodesOfFields, ih, List.map_cons, List.flatMap_cons]

/-- The values in a value are itself and those in its children. -/
theorem nodes_eq (depth : Nat) (value : Json) :
    nodes depth value = (value, depth) :: (children value).flatMap (nodes (depth + 1)) := by
  cases value with
  | arr items => rw [nodes, nodes_of_items_eq, children]
  | obj fields => rw [nodes, nodes_of_fields_eq, children]
  | null => rfl
  | bool value => rfl
  | int value => rfl
  | float text => rfl
  | str text => rfl

theorem validate_string_iff (text : String) :
    validateString text = .ok () ↔ text.utf8ByteSize ≤ MAX_STRING_BYTES := by
  unfold validateString
  split
  case isTrue h => exact iff_of_false (by simp) (by omega)
  case isFalse h => exact iff_of_true rfl (by omega)

theorem validate_collection_iff (actual : Nat) :
    validateCollectionLen actual = .ok () ↔ actual ≤ MAX_COLLECTION_ITEMS := by
  unfold validateCollectionLen
  split
  case isTrue h => exact iff_of_false (by simp) (by omega)
  case isFalse h => exact iff_of_true rfl (by omega)

/-- A computation behind another one. -/
theorem except_bind_iff {α β : Type} {check : Except FrameError α} {next : α → Except FrameError β}
    {b : β} : check.bind next = .ok b ↔ ∃ a, check = .ok a ∧ next a = .ok b := except_bind_ok

/-- A check behind another one. -/
theorem except_bind_unit {check : Except FrameError Unit} {next : Except FrameError Unit} :
    (check.bind fun _ => next) = .ok () ↔ check = .ok () ∧ next = .ok () := by
  cases check with
  | error error => exact iff_of_false (fun h => by cases h) (fun h => by cases h.1)
  | ok value => exact (and_iff_right rfl).symm

theorem validate_strings_iff (texts : List String) :
    validateStrings texts = .ok () ↔ ∀ text ∈ texts, text.utf8ByteSize ≤ MAX_STRING_BYTES := by
  induction texts with
  | nil => exact iff_of_true rfl fun text htext => absurd htext List.not_mem_nil
  | cons text rest ih =>
      rw [validateStrings, except_bind_unit, validate_string_iff, ih, List.forall_mem_cons]

/-- The check of a value itself. -/
theorem validate_node_iff (value : Json) : validateNode value = .ok () ↔
    (children value).length ≤ MAX_COLLECTION_ITEMS ∧
      ∀ text ∈ ownStrings value, text.utf8ByteSize ≤ MAX_STRING_BYTES := by
  cases value with
  | str text =>
      rw [validateNode, validate_string_iff]
      simp [children, ownStrings]
  | arr items =>
      rw [validateNode, validate_collection_iff]
      simp [children, ownStrings]
  | obj fields =>
      rw [validateNode, except_bind_unit, validate_collection_iff, validate_strings_iff]
      simp [children, ownStrings]
  | null => simp [validateNode, children, ownStrings]
  | bool value => simp [validateNode, children, ownStrings]
  | int value => simp [validateNode, children, ownStrings]
  | float text => simp [validateNode, children, ownStrings]

/-- The loop accepts what is within the limits, in the pending values and below. -/
theorem validate_pending_iff (budget : Nat) (pending : List (Json × Nat)) :
    validatePending budget pending = .ok () ↔
      (∀ node ∈ pending.flatMap fun entry => nodes entry.2 entry.1, NodeLimited node) ∧
        (pending.flatMap fun entry => nodes entry.2 entry.1).length ≤ budget := by
  induction budget generalizing pending with
  | zero =>
      cases pending with
      | nil => exact iff_of_true rfl ⟨fun node hnode => absurd hnode (by simp), Nat.le_refl 0⟩
      | cons entry pending =>
          refine iff_of_false ?_ ?_
          · rw [validatePending]
            split <;> simp
          · rintro ⟨-, hlength⟩
            rw [List.flatMap_cons, nodes_eq] at hlength
            simp at hlength
  | succ budget ih =>
      cases pending with
      | nil => exact iff_of_true rfl ⟨fun node hnode => absurd hnode (by simp), Nat.zero_le _⟩
      | cons entry pending =>
          obtain ⟨value, depth⟩ := entry
          -- a turn takes one value and puts its children in front of the others
          have hchildren : (((children value).map fun child => (child, depth + 1)) ++
              pending).flatMap (fun entry => nodes entry.2 entry.1) =
              (children value).flatMap (nodes (depth + 1)) ++
                pending.flatMap fun entry => nodes entry.2 entry.1 := by
            rw [List.flatMap_append, List.flatMap_map]
          rw [validatePending, List.flatMap_cons]
          simp only
          rw [nodes_eq, List.cons_append, List.forall_mem_cons, List.length_cons,
            Nat.succ_le_succ_iff, and_assoc]
          by_cases hdepth : MAX_JSON_DEPTH < depth
          · rw [if_pos hdepth]
            refine iff_of_false (by simp) ?_
            rintro ⟨hnode, -⟩
            have hle : depth ≤ MAX_JSON_DEPTH := hnode.depth
            omega
          · rw [if_neg hdepth, except_bind_unit, ih, hchildren, validate_node_iff]
            refine and_congr_left fun _ => ⟨?_, ?_⟩
            · rintro ⟨hcollection, hstrings⟩
              exact ⟨not_lt.mp hdepth, hcollection, hstrings⟩
            · exact fun hnode => ⟨hnode.collection, hnode.strings⟩

/-- `validate_json_limits` accepts exactly the values within the limits. -/
theorem validate_json_limits_iff (value : Json) :
    validateJsonLimits value = .ok () ↔ Limited value := by
  rw [validateJsonLimits, validate_pending_iff, List.flatMap_singleton]
  exact ⟨fun h => ⟨h.1, h.2⟩, fun h => ⟨h.nodes_limited, h.values⟩⟩

/-! ## Limits and the order of members -/

mutual
/-- The values in a value that is one deeper. -/
theorem nodes_deeper : ∀ (value : Json) (depth : Nat), nodes (depth + 1) value =
    (nodes depth value).map fun node => (node.1, node.2 + 1)
  | .arr items, depth => by rw [nodes, nodes, items_deeper items, List.map_cons]
  | .obj fields, depth => by rw [nodes, nodes, fields_deeper fields, List.map_cons]
  | .null, _ => rfl
  | .bool _, _ => rfl
  | .int _, _ => rfl
  | .float _, _ => rfl
  | .str _, _ => rfl

/-- The values in items that are one deeper. -/
theorem items_deeper : ∀ (items : List Json) (depth : Nat), nodesOfItems (depth + 1) items =
    (nodesOfItems depth items).map fun node => (node.1, node.2 + 1)
  | [], _ => rfl
  | item :: rest, depth => by
      rw [nodesOfItems, nodesOfItems, nodes_deeper item, items_deeper rest, List.map_append]

/-- The values in members that are one deeper. -/
theorem fields_deeper : ∀ (fields : List (String × Json)) (depth : Nat),
    nodesOfFields (depth + 1) fields =
      (nodesOfFields depth fields).map fun node => (node.1, node.2 + 1)
  | [], _ => rfl
  | (_, item) :: rest, depth => by
      rw [nodesOfFields, nodesOfFields, nodes_deeper item, fields_deeper rest, List.map_append]
end

/-- A value in a value within the limits is within the limits. -/
theorem Limited.child {value child : Json} (h : Limited value) (hchild : child ∈ children value) :
    Limited child := by
  have hsub : ∀ node ∈ nodes 2 child, node ∈ nodes 1 value := by
    intro node hnode
    rw [nodes_eq]
    exact List.mem_cons_of_mem _ (List.mem_flatMap.mpr ⟨child, hchild, hnode⟩)
  have hlength : (nodes 2 child).length ≤ ((children value).flatMap (nodes 2)).length := by
    obtain ⟨before, after, hsplit⟩ := List.append_of_mem hchild
    rw [hsplit, List.flatMap_append, List.flatMap_cons]
    simp only [List.length_append]
    omega
  have hvalues := h.values
  rw [nodes_eq, List.length_cons] at hvalues
  have hvalues : ((children value).flatMap (nodes 2)).length + 1 ≤ MAX_JSON_VALUES := hvalues
  rw [nodes_deeper child 1, List.length_map] at hlength
  refine ⟨?_, by omega⟩
  intro node hnode
  have hdeeper : (node.1, node.2 + 1) ∈ nodes 2 child := by
    rw [nodes_deeper child 1]
    exact List.mem_map_of_mem hnode
  obtain ⟨hdepth, hcollection, hstrings⟩ := h.nodes_limited _ (hsub _ hdeeper)
  exact ⟨Nat.le_of_succ_le hdepth, hcollection, hstrings⟩

/-- The text of a value is within the limits. -/
theorem Limited.own {value : Json} (h : Limited value) {text : String}
    (htext : text ∈ ownStrings value) : text.utf8ByteSize ≤ MAX_STRING_BYTES := by
  refine (h.nodes_limited (value, 1) ?_).strings text htext
  rw [nodes_eq]
  exact List.mem_cons_self

/-- The members of an object in another order hold the same values. -/
theorem nodes_of_fields_perm (depth : Nat) {fields fields' : List (String × Json)}
    (h : fields.Perm fields') :
    (nodesOfFields depth fields).Perm (nodesOfFields depth fields') := by
  rw [nodes_of_fields_eq, nodes_of_fields_eq]
  exact (h.map Prod.snd).flatMap_right _

mutual
/-- The values in a value with sorted objects. -/
theorem nodes_canonical : ∀ (value : Json) (depth : Nat), (nodes depth value.canonicalValue).Perm
    ((nodes depth value).map fun node => (node.1.canonicalValue, node.2))
  | .arr items, depth => by
      rw [Json.canonicalValue, nodes, nodes, List.map_cons, Json.canonicalValue]
      exact (items_canonical items (depth + 1)).cons _
  | .obj fields, depth => by
      rw [Json.canonicalValue, nodes, nodes, List.map_cons, Json.canonicalValue]
      have hsorted := nodes_of_fields_perm (depth + 1)
        (List.perm_insertionSort Json.keyLe (Json.canonicalFields fields))
      exact (hsorted.trans (fields_canonical fields (depth + 1))).cons _
  | .null, _ => .refl _
  | .bool _, _ => .refl _
  | .int _, _ => .refl _
  | .float _, _ => .refl _
  | .str _, _ => .refl _

/-- The values in items with sorted objects. -/
theorem items_canonical : ∀ (items : List Json) (depth : Nat),
    (nodesOfItems depth (Json.canonicalItems items)).Perm
      ((nodesOfItems depth items).map fun node => (node.1.canonicalValue, node.2))
  | [], _ => .refl _
  | item :: rest, depth => by
      rw [Json.canonicalItems, nodesOfItems, nodesOfItems, List.map_append]
      exact (nodes_canonical item depth).append (items_canonical rest depth)

/-- The values in members with sorted objects. -/
theorem fields_canonical : ∀ (fields : List (String × Json)) (depth : Nat),
    (nodesOfFields depth (Json.canonicalFields fields)).Perm
      ((nodesOfFields depth fields).map fun node => (node.1.canonicalValue, node.2))
  | [], _ => .refl _
  | (_, item) :: rest, depth => by
      rw [Json.canonicalFields, nodesOfFields, nodesOfFields, List.map_append]
      exact (nodes_canonical item depth).append (fields_canonical rest depth)
end

/-- Sorting its members changes nothing that is checked of a value itself. -/
theorem node_limited_canonical (value : Json) (depth : Nat) :
    NodeLimited (value.canonicalValue, depth) ↔ NodeLimited (value, depth) := by
  have hitems : ∀ items : List Json, (Json.canonicalItems items).length = items.length := by
    intro items
    induction items with
    | nil => rfl
    | cons item rest ih => rw [Json.canonicalItems, List.length_cons, List.length_cons, ih]
  have hsame : (children value.canonicalValue).length = (children value).length ∧
      ∀ text, text ∈ ownStrings value.canonicalValue ↔ text ∈ ownStrings value := by
    cases value with
    | arr items => exact ⟨hitems items, fun text => Iff.rfl⟩
    | obj fields =>
        have hperm := List.perm_insertionSort Json.keyLe (Json.canonicalFields fields)
        rw [Json.canonical_fields_eq_map] at hperm
        rw [Json.canonicalValue, Json.canonical_fields_eq_map]
        refine ⟨?_, fun text => ?_⟩
        · have hlength := hperm.length_eq
          rw [List.length_map] at hlength
          rw [children, children, List.length_map, List.length_map]
          exact hlength
        · have hkeys := (hperm.map Prod.fst).mem_iff (a := text)
          rw [List.map_map] at hkeys
          exact hkeys
    | null => exact ⟨rfl, fun text => Iff.rfl⟩
    | bool value => exact ⟨rfl, fun text => Iff.rfl⟩
    | int value => exact ⟨rfl, fun text => Iff.rfl⟩
    | float text => exact ⟨rfl, fun text => Iff.rfl⟩
    | str text => exact ⟨rfl, fun text => Iff.rfl⟩
  constructor
  · rintro ⟨hdepth, hcollection, hstrings⟩
    exact ⟨hdepth, hsame.1 ▸ hcollection, fun text htext => hstrings text ((hsame.2 text).mpr htext)⟩
  · rintro ⟨hdepth, hcollection, hstrings⟩
    exact ⟨hdepth, hsame.1.symm ▸ hcollection,
      fun text htext => hstrings text ((hsame.2 text).mp htext)⟩

/-- The limits do not depend on the order of members. -/
theorem limited_canonical (value : Json) : Limited value.canonicalValue ↔ Limited value := by
  have hperm := nodes_canonical value 1
  have hlength := hperm.length_eq
  rw [List.length_map] at hlength
  constructor
  · rintro ⟨hnodes, hvalues⟩
    refine ⟨fun node hnode => ?_, hlength ▸ hvalues⟩
    exact (node_limited_canonical node.1 node.2).mp
      (hnodes _ (hperm.mem_iff.mpr (List.mem_map_of_mem hnode)))
  · rintro ⟨hnodes, hvalues⟩
    refine ⟨fun node hnode => ?_, hlength.symm ▸ hvalues⟩
    obtain ⟨node, hmem, rfl⟩ := List.mem_map.mp (hperm.mem_iff.mp hnode)
    exact (node_limited_canonical node.1 node.2).mpr (hnodes node hmem)

/-- Values that differ in the order of members are within the same limits. -/
theorem limited_congr {value value' : Json}
    (h : value.canonicalValue = value'.canonicalValue) : Limited value ↔ Limited value' := by
  rw [← limited_canonical value, h, limited_canonical]

/-! ## Frames -/

/-- `serde_json`: what it reads from the start of a text, with what is left, and where it finds a
character behind a value; and the chunks in which it writes a text. -/
structure SerdeJson where
  parse : List UInt8 → Except (Nat × Nat) (Json × List UInt8)
  trailingAt : List UInt8 → Nat × Nat
  chunks : Json → List (List UInt8)
  chunks_flatten : ∀ value, (chunks value).flatten = textBytes value.render

/-- White space of JSON. -/
def isJsonBlank (byte : UInt8) : Bool := byte = 0x20 || byte = 0x09 || byte = 0x0a || byte = 0x0d

/-- A number may go on with what follows it. -/
def isNumber : Json → Bool
  | .int _ => true
  | .float _ => true
  | _ => false

/-- `serde_json` reads the text of this value as the value, with the members of its objects in some
order, and leaves what follows. -/
structure SerdeJson.Reads (serde : SerdeJson) (value : Json) : Prop where
  nonempty : textBytes value.render ≠ []
  parse : ∀ rest, (isNumber value = true → rest = []) →
    ∃ read, serde.parse (textBytes value.render ++ rest) = .ok (read, rest) ∧
      read.canonicalValue = value.canonicalValue

/-- `serde_json::from_slice`: behind the value stands only white space. -/
def SerdeJson.fromSlice (serde : SerdeJson) (bytes : List UInt8) : Except FrameError Json :=
  match serde.parse bytes with
  | .error place => .error (.invalidJson place.1 place.2)
  | .ok (value, rest) =>
    if rest.all isJsonBlank then .ok value
    else .error (.invalidJson (serde.trailingAt bytes).1 (serde.trailingAt bytes).2)

/-- `BoundedWriter`. -/
structure BoundedWriter where
  bytes : List UInt8
  maximum : Nat
  overflowed : Bool

/-- `BoundedWriter::write`, and whether it took all bytes. -/
def BoundedWriter.write (writer : BoundedWriter) (bytes : List UInt8) : BoundedWriter :=
  let remaining := writer.maximum - writer.bytes.length
  if remaining < bytes.length then
    { writer with bytes := writer.bytes ++ bytes.take remaining, overflowed := true }
  else { writer with bytes := writer.bytes ++ bytes }

/-- `serde_json::to_writer`, up to the first chunk that is not taken. -/
def BoundedWriter.writeAll (writer : BoundedWriter) : List (List UInt8) → BoundedWriter
  | [] => writer
  | chunk :: rest =>
    let written := writer.write chunk
    if written.overflowed then written else written.writeAll rest

/-- The writer holds what was written, unless that is over the limit. -/
theorem write_all_spec {writer : BoundedWriter} (hopen : writer.overflowed = false)
    (hbytes : writer.bytes.length ≤ writer.maximum) (chunks : List (List UInt8)) :
    (writer.writeAll chunks).overflowed =
        decide (writer.maximum < writer.bytes.length + chunks.flatten.length) ∧
      (writer.bytes.length + chunks.flatten.length ≤ writer.maximum →
        (writer.writeAll chunks).bytes = writer.bytes ++ chunks.flatten) := by
  induction chunks generalizing writer with
  | nil =>
      rw [BoundedWriter.writeAll, hopen]
      simp [hbytes]
  | cons chunk rest ih =>
      rw [BoundedWriter.writeAll, List.flatten_cons, List.length_append]
      unfold BoundedWriter.write
      by_cases hover : writer.maximum - writer.bytes.length < chunk.length
      · simp only [hover, if_true]
        refine ⟨?_, fun hfits => by omega⟩
        exact (decide_eq_true (by omega)).symm
      · simp only [hover, if_false, hopen, Bool.false_eq_true]
        have hrest := @ih ⟨writer.bytes ++ chunk, writer.maximum, false⟩ rfl
          (by
            show (writer.bytes ++ chunk).length ≤ writer.maximum
            rw [List.length_append]
            omega)
        simp only [List.length_append] at hrest
        refine ⟨?_, fun hfits => ?_⟩
        · rw [hrest.1, Nat.add_assoc]
        · rw [hrest.2 (by omega), List.append_assoc]

/-- `FramePayload` with the laws of a message type: a written message is read as itself whatever
the order of members, and a message within the limits passes the check before it is written. -/
structure FramePayload (M : Type) where
  validateBeforeEncode : M → Except FrameError Unit
  serialize : M → Json
  deserialize : Json → Option M
  reads_back : ∀ message value, value.canonicalValue = (serialize message).canonicalValue →
    deserialize value = some message
  checked : ∀ message, Limited (serialize message) → validateBeforeEncode message = .ok ()

/-- `serde_json::from_value`. -/
def FramePayload.fromValue {M : Type} (payload : FramePayload M) (value : Json) :
    Except FrameError M :=
  match payload.deserialize value with
  | some message => .ok message
  | none => .error .invalidSchema

theorem from_value_iff {M : Type} {payload : FramePayload M} {value : Json} {message : M} :
    payload.fromValue value = .ok message ↔ payload.deserialize value = some message := by
  unfold FramePayload.fromValue
  cases payload.deserialize value with
  | none => exact iff_of_false (by simp) (by simp)
  | some message' => simp

/-- `parse_frame_length`. -/
def parseFrameLength (bytes : List UInt8) (maximum : Nat) : Except FrameError Nat :=
  let length := beNat bytes
  if length = 0 then .error .emptyPayload
  else if maximum < length then .error (.payloadTooLarge length maximum)
  else .ok length

section Coding

variable {M : Type} (serde : SerdeJson) (payload : FramePayload M)

/-- `encode_frame`. -/
def encodeFrame (value : M) (maximum : Nat) : Except FrameError (List UInt8) :=
  (payload.validateBeforeEncode value).bind fun _ =>
    let maximum := min maximum (2 ^ 32 - 1)
    let writer := (BoundedWriter.mk [] maximum false).writeAll
      (serde.chunks (payload.serialize value))
    if writer.overflowed then .error (.payloadTooLarge (maximum + 1) maximum)
    else if writer.bytes.isEmpty then .error .emptyPayload
    else
      (serde.fromSlice writer.bytes).bind fun json =>
        (validateJsonLimits json).bind fun _ =>
          if maximum < writer.bytes.length then
            .error (.payloadTooLarge writer.bytes.length maximum)
          else .ok (beBytes LENGTH_PREFIX_BYTES writer.bytes.length ++ writer.bytes)

/-- `decode_frame`. -/
def decodeFrame (frame : List UInt8) (maximum : Nat) : Except FrameError M :=
  if frame.length < LENGTH_PREFIX_BYTES then .error .missingLengthPrefix
  else
    (parseFrameLength (frame.take LENGTH_PREFIX_BYTES) maximum).bind fun declared =>
      let actual := frame.length - LENGTH_PREFIX_BYTES
      if declared ≠ actual then .error (.lengthMismatch declared actual)
      else
        (serde.fromSlice (frame.drop LENGTH_PREFIX_BYTES)).bind fun value =>
          (validateJsonLimits value).bind fun _ => payload.fromValue value

end Coding

end Dopedb.Protocol
