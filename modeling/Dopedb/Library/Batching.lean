import Mathlib.Data.List.Induction
import Dopedb.Library.Tasks

/-!
# Cutting a list into blocks

A list is cut while it is read: a block is closed before an item that would take its weight over a
budget, and after an item that fills it up to a limit. `Cutting` is what is there between two
items. The blocks are the items in their order, within the budget and the limit, and reading more
items only adds blocks.
-/

namespace Dopedb.Library

universe u

variable {α : Type u}

/-- The blocks that are closed, and the one that is being filled. -/
structure Cutting (α : Type u) where
  closed : List (List α) := []
  current : List α := []

namespace Cutting

/-- The block that is being filled is closed. -/
def close (cutting : Cutting α) : Cutting α := ⟨cutting.closed ++ [cutting.current], []⟩

/-- Close the block before an item that does not fit any more. -/
def makeRoom (budget : Nat) (weight : α → Nat) (cutting : Cutting α) (item : α) : Cutting α :=
  if cutting.current ≠ [] ∧ budget < total weight cutting.current + weight item then cutting.close
  else cutting

/-- Put an item into the block, and close the block when it is full. -/
def fill (limit : Nat) (cutting : Cutting α) (item : α) : Cutting α :=
  let filled : Cutting α := ⟨cutting.closed, cutting.current ++ [item]⟩
  if filled.current.length = limit then filled.close else filled

/-- Read one more item. -/
def push (limit budget : Nat) (weight : α → Nat) (cutting : Cutting α) (item : α) : Cutting α :=
  (cutting.makeRoom budget weight item).fill limit item

/-- The blocks when no more items come. -/
def blocks (cutting : Cutting α) : List (List α) :=
  if cutting.current = [] then cutting.closed else cutting.closed ++ [cutting.current]

/-- The items that were read. -/
def items (cutting : Cutting α) : List α := cutting.closed.flatten ++ cutting.current

@[simp] theorem items_close (cutting : Cutting α) : cutting.close.items = cutting.items := by
  simp [items, close]

/-- Closing a block loses nothing. -/
theorem flatten_blocks (cutting : Cutting α) : cutting.blocks.flatten = cutting.items := by
  unfold blocks items
  split
  case isTrue h => rw [h, List.append_nil]
  case isFalse => rw [List.flatten_append, List.flatten_singleton]

/-- An item is read once. -/
theorem items_push (limit budget : Nat) (weight : α → Nat) (cutting : Cutting α) (item : α) :
    (cutting.push limit budget weight item).items = cutting.items ++ [item] := by
  have hroom : (cutting.makeRoom budget weight item).items = cutting.items := by
    unfold makeRoom
    split
    · exact items_close cutting
    · rfl
  have hfill : ∀ c : Cutting α, (c.fill limit item).items = c.items ++ [item] := by
    intro c
    unfold fill
    simp only
    split
    · rw [items_close]
      exact (List.append_assoc _ _ _).symm
    · exact (List.append_assoc _ _ _).symm
  unfold push
  rw [hfill, hroom]

/-! ## Every list -/

/-- What is there after a list of items. -/
def read (limit budget : Nat) (weight : α → Nat) (items : List α) : Cutting α :=
  items.foldl (push limit budget weight) {}

/-- One more item is read last. -/
theorem read_concat (limit budget : Nat) (weight : α → Nat) (items : List α) (item : α) :
    read limit budget weight (items ++ [item]) =
      (read limit budget weight items).push limit budget weight item := by
  unfold read
  rw [List.foldl_append]
  rfl

/-- The items are all there. -/
theorem items_read (limit budget : Nat) (weight : α → Nat) (items : List α) :
    (read limit budget weight items).items = items := by
  induction items using List.reverseRecOn with
  | nil => rfl
  | append_singleton items item ih => rw [read_concat, items_push, ih]

/-- The closed blocks are the first ones. -/
theorem closed_blocks (cutting : Cutting α) : cutting.closed <+: cutting.blocks := by
  unfold blocks
  split
  · exact List.prefix_rfl
  · exact List.prefix_append _ _

/-- No block is empty, over the limit or over the budget. -/
structure Within (limit budget : Nat) (weight : α → Nat) (cutting : Cutting α) : Prop where
  closed : ∀ block ∈ cutting.closed,
    block ≠ [] ∧ block.length ≤ limit ∧ total weight block ≤ budget
  current : cutting.current.length < limit ∧ total weight cutting.current ≤ budget

/-- The blocks of a cutting within its bounds. -/
theorem Within.blocks {limit budget : Nat} {weight : α → Nat} {cutting : Cutting α}
    (h : Within limit budget weight cutting) : ∀ block ∈ cutting.blocks,
      block ≠ [] ∧ block.length ≤ limit ∧ total weight block ≤ budget := by
  intro block hblock
  unfold Cutting.blocks at hblock
  split at hblock
  case isTrue => exact h.closed block hblock
  case isFalse hne =>
      rcases List.mem_append.mp hblock with hold | hnew
      · exact h.closed block hold
      · rw [List.mem_singleton.mp hnew]
        have hcurrent := h.current
        exact ⟨hne, by omega, hcurrent.2⟩

/-- Closing the block keeps the bounds. -/
theorem Within.close {limit budget : Nat} {weight : α → Nat} {cutting : Cutting α}
    (h : Within limit budget weight cutting) (hlimit : 0 < limit) (hne : cutting.current ≠ []) :
    Within limit budget weight cutting.close := by
  refine ⟨?_, hlimit, Nat.zero_le budget⟩
  intro block hblock
  rcases List.mem_append.mp hblock with hold | hnew
  · exact h.closed block hold
  · rw [List.mem_singleton.mp hnew]
    have hcurrent := h.current
    exact ⟨hne, by omega, hcurrent.2⟩

/-- An item that fits into a block by itself keeps the bounds. -/
theorem Within.push {limit budget : Nat} {weight : α → Nat} {cutting : Cutting α}
    (h : Within limit budget weight cutting) (hlimit : 0 < limit) {item : α}
    (hitem : weight item ≤ budget) :
    Within limit budget weight (cutting.push limit budget weight item) := by
  -- There is room for the item once the block before it is closed.
  have hroom : Within limit budget weight (cutting.makeRoom budget weight item) ∧
      total weight (cutting.makeRoom budget weight item).current + weight item ≤ budget := by
    unfold makeRoom
    by_cases hfull : cutting.current ≠ [] ∧ budget < total weight cutting.current + weight item
    · rw [if_pos hfull]
      refine ⟨h.close hlimit hfull.1, ?_⟩
      show 0 + weight item ≤ budget
      omega
    · rw [if_neg hfull]
      refine ⟨h, ?_⟩
      by_cases hempty : cutting.current = []
      · rw [hempty, total_nil]
        omega
      · by_contra hover
        exact hfull ⟨hempty, by omega⟩
  obtain ⟨hwithin, hweight⟩ := hroom
  have htotal : total weight ((cutting.makeRoom budget weight item).current ++ [item]) ≤ budget := by
    rw [total_append, total_cons, total_nil]
    omega
  have hlength := hwithin.current.1
  unfold Cutting.push fill
  simp only
  split
  case isTrue hfull =>
      refine ⟨?_, hlimit, Nat.zero_le budget⟩
      intro block hblock
      rcases List.mem_append.mp hblock with hold | hnew
      · exact hwithin.closed block hold
      · rw [List.mem_singleton.mp hnew]
        have hfull : ((cutting.makeRoom budget weight item).current ++ [item]).length = limit := hfull
        exact ⟨by simp, Nat.le_of_eq hfull, htotal⟩
  case isFalse hopen =>
      rw [List.length_append, List.length_singleton] at hopen
      refine ⟨hwithin.closed, ?_, htotal⟩
      show (_ ++ [item]).length < limit
      rw [List.length_append, List.length_singleton]
      omega

/-- Items that fit into a block by themselves are cut within the bounds. -/
theorem within_read {limit budget : Nat} {weight : α → Nat} (hlimit : 0 < limit) {items : List α}
    (hitems : ∀ item ∈ items, weight item ≤ budget) :
    Within limit budget weight (read limit budget weight items) := by
  induction items using List.reverseRecOn with
  | nil => exact ⟨nofun, hlimit, Nat.zero_le budget⟩
  | append_singleton items item ih =>
      rw [read_concat]
      have hbefore : ∀ item ∈ items, weight item ≤ budget := fun item' hmem =>
        hitems item' (List.mem_append_left _ hmem)
      exact (ih hbefore).push hlimit (hitems item (by simp))

end Cutting

end Dopedb.Library
