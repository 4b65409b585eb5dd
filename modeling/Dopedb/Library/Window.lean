import Dopedb.Library.StreamFold

/-!
# Windows over an array

A list of items that only grows at the end and is dropped at the front: the items behind a start are
visible, a parallel list holds their sizes and a counter their sum. Dropping moves the start, and
compacting cuts the array off there. `Sound` says that the parallel data agree, and `visible_trim`
that trimming keeps the longest suffix that fits.
-/

namespace Dopedb.Library

universe u

variable {α : Type u}

/-- The array, its sizes, the first visible position, and the sum of the visible sizes. -/
structure Window (α : Type u) where
  items : List α := []
  bytes : List Nat := []
  start : Nat := 0
  total : Int := 0

namespace Window

/-- The items that are left. -/
def visible (window : Window α) : List α := window.items.drop window.start

/-- A new item at the end. -/
def push (window : Window α) (item : α) (bytes : Nat) : Window α where
  items := window.items ++ [item]
  bytes := window.bytes ++ [bytes]
  start := window.start
  total := window.total + bytes

/-- Another item at a position. -/
def replace (window : Window α) (index : Nat) (item : α) (bytes : Nat) : Window α where
  items := window.items.set index item
  bytes := window.bytes.set index bytes
  start := window.start
  total := window.total + (bytes - (window.bytes[index]?.getD 0 : Int))

/-- The first visible item is dropped. -/
def dropFront (window : Window α) : Window α :=
  { window with
    start := window.start + 1
    total := window.total - (window.bytes[window.start]?.getD 0 : Int) }

/-- The loop that drops items at the front, for the items that are left. -/
def trimLoop (exceeds : Window α → Bool) : Nat → Window α → Window α
  | 0, window => window
  | left + 1, window => if exceeds window then trimLoop exceeds left window.dropFront else window

/-- Items are dropped while the window exceeds its limits and an item is left. -/
def trim (exceeds : Window α → Bool) (window : Window α) : Window α :=
  trimLoop exceeds (window.items.length - window.start) window

/-- The dropped prefix is worth cutting off. -/
def compactDue (least : Nat) (window : Window α) : Bool :=
  decide (least ≤ window.start) && decide (window.items.length ≤ window.start * 2)

/-- The dropped prefix is cut off. -/
def cut (window : Window α) : Window α where
  items := window.items.drop window.start
  bytes := window.bytes.drop window.start
  start := 0
  total := window.total

/-- The parallel data of a window agree. -/
structure Sound (size : α → Nat) (window : Window α) : Prop where
  bytes_eq : window.bytes = window.items.map size
  start_le : window.start ≤ window.items.length
  total_eq : window.total = ((window.visible.map size).sum : Nat)

variable {size : α → Nat} {window : Window α}

/-- An empty window is sound. -/
theorem sound_empty : Sound size ({} : Window α) := ⟨rfl, Nat.le_refl 0, rfl⟩

/-! ## Pushing and replacing -/

/-- A pushed item is the last visible one. -/
theorem visible_push (h : Sound size window) (item : α) (bytes : Nat) :
    (window.push item bytes).visible = window.visible ++ [item] := by
  unfold visible push
  exact List.drop_append_of_le_length h.start_le

/-- A push with the size of the item keeps a window sound. -/
theorem Sound.push (h : Sound size window) (item : α) :
    Sound size (window.push item (size item)) where
  bytes_eq := by
    show window.bytes ++ [size item] = (window.items ++ [item]).map size
    rw [h.bytes_eq, List.map_append]
    rfl
  start_le := by
    show window.start ≤ (window.items ++ [item]).length
    rw [List.length_append]
    exact Nat.le_add_right_of_le h.start_le
  total_eq := by
    rw [visible_push h, List.map_append, List.sum_append]
    show window.total + (size item : Int) = _
    rw [h.total_eq]
    simp

/-- The number of visible items. -/
theorem length_visible (window : Window α) :
    window.visible.length = window.items.length - window.start := by
  unfold visible
  rw [List.length_drop]

/-- A replaced item is replaced where it is visible. -/
theorem visible_replace {index : Nat} (hvisible : window.start ≤ index) (item : α) (bytes : Nat) :
    (window.replace index item bytes).visible =
      window.visible.set (index - window.start) item := by
  unfold visible replace
  simp only
  rw [List.drop_set, if_neg (not_lt.mpr hvisible)]

theorem sum_set {sizes : List Nat} {index : Nat} (h : index < sizes.length) (bytes : Nat) :
    ((sizes.set index bytes).sum : Int) =
      sizes.sum + (bytes - (sizes[index]?.getD 0 : Int)) := by
  induction sizes generalizing index with
  | nil => exact absurd h (Nat.not_lt_zero _)
  | cons first rest ih =>
      cases index with
      | zero =>
          simp
          omega
      | succ index =>
          have hrest := @ih index (by simpa using h)
          simp only [List.set_cons_succ, List.sum_cons, List.getElem?_cons_succ]
          omega

/-- A replacement with the size of the item keeps a window sound. -/
theorem Sound.replace (h : Sound size window) {index : Nat} (hvisible : window.start ≤ index)
    (hindex : index < window.items.length) (item : α) :
    Sound size (window.replace index item (size item)) where
  bytes_eq := by
    show window.bytes.set index (size item) = (window.items.set index item).map size
    rw [h.bytes_eq, List.map_set]
  start_le := by
    show window.start ≤ (window.items.set index item).length
    rw [List.length_set]
    exact h.start_le
  total_eq := by
    rw [visible_replace hvisible, List.map_set]
    have hlength : index - window.start < (window.visible.map size).length := by
      rw [List.length_map, length_visible]
      omega
    rw [sum_set hlength]
    show window.total + _ = _
    rw [h.total_eq]
    congr 2
    have hbytes : window.bytes[index]? = (window.visible.map size)[index - window.start]? := by
      rw [h.bytes_eq]
      unfold visible
      rw [List.getElem?_map, List.getElem?_map, List.getElem?_drop,
        Nat.add_sub_cancel' hvisible]
    rw [hbytes]

/-! ## Trimming -/

/-- The item that is dropped. -/
theorem visible_drop_front (h : window.start < window.items.length) :
    ∃ item, window.visible = item :: window.dropFront.visible := by
  refine ⟨window.items[window.start], ?_⟩
  unfold visible dropFront
  exact List.drop_eq_getElem_cons h

/-- A drop at the front keeps a window sound. -/
theorem Sound.dropFront (h : Sound size window) (hstart : window.start < window.items.length) :
    Sound size window.dropFront where
  bytes_eq := h.bytes_eq
  start_le := hstart
  total_eq := by
    have hfirst : window.visible =
        window.items[window.start] :: window.dropFront.visible := by
      unfold visible Window.dropFront
      exact List.drop_eq_getElem_cons hstart
    have htotal := h.total_eq
    rw [hfirst, List.map_cons, List.sum_cons] at htotal
    have hbytes : window.bytes[window.start]?.getD 0 = size window.items[window.start] := by
      rw [h.bytes_eq, List.getElem?_map, List.getElem?_eq_getElem hstart]
      rfl
    show window.total - _ = _
    rw [hbytes, htotal]
    push_cast
    omega

/-- What a trim leaves: the longest suffix that fits, in the same array. -/
structure Trimmed (size : α → Nat) (fits : List α → Bool) (window after : Window α) : Prop where
  items_eq : after.items = window.items
  start_le : window.start ≤ after.start
  visible_eq : after.visible = newestFitting fits window.visible
  sound : Sound size after

variable {exceeds : Window α → Bool} {fits : List α → Bool}

/-- The loop keeps the longest suffix that fits. -/
theorem trimmed_loop
    (hover : ∀ window : Window α, Sound size window → window.start < window.items.length →
      exceeds window = !fits window.visible) (h : Sound size window) {left : Nat}
    (hleft : left = window.items.length - window.start) :
    Trimmed size fits window (trimLoop exceeds left window) := by
  induction left generalizing window with
  | zero =>
      have hnil : window.visible = [] := by
        rw [← List.length_eq_zero_iff, length_visible]
        omega
      refine ⟨rfl, Nat.le_refl _, ?_, h⟩
      show window.visible = _
      rw [hnil]
      rfl
  | succ left ih =>
      have hstart : window.start < window.items.length := by omega
      unfold trimLoop
      obtain ⟨first, hfirst⟩ := visible_drop_front hstart
      rw [hover window h hstart]
      by_cases hfits : fits window.visible = true
      · rw [if_neg (by simp [hfits])]
        exact ⟨rfl, Nat.le_refl _, (newest_fitting_of_fits hfits).symm, h⟩
      · rw [if_pos (by simp [hfits])]
        have hloop := ih (h.dropFront hstart) (by
          show left = window.items.length - (window.start + 1)
          omega)
        refine ⟨hloop.items_eq, Nat.le_of_succ_le hloop.start_le, ?_, hloop.sound⟩
        rw [hloop.visible_eq, hfirst, newestFitting, ← hfirst, if_neg hfits]

/-- A trim keeps the longest suffix that fits. -/
theorem trimmed_trim
    (hover : ∀ window : Window α, Sound size window → window.start < window.items.length →
      exceeds window = !fits window.visible) (h : Sound size window) :
    Trimmed size fits window (window.trim exceeds) :=
  trimmed_loop hover h rfl

/-- A window within its limits is not trimmed. -/
theorem trim_of_not_exceeds (h : exceeds window = false) : window.trim exceeds = window := by
  unfold trim
  cases window.items.length - window.start with
  | zero => rfl
  | succ left => exact if_neg (by rw [h]; decide)

/-- How far the start moves. -/
theorem Trimmed.start_eq {after : Window α} (h : Trimmed size fits window after) :
    after.start = window.start + (window.visible.length - after.visible.length) := by
  have hle := h.sound.start_le
  have hstart_le := h.start_le
  have hlength : after.items.length = window.items.length := congrArg List.length h.items_eq
  rw [length_visible, length_visible, hlength]
  omega

/-! ## Cutting -/

@[simp] theorem visible_cut (window : Window α) : window.cut.visible = window.visible := rfl

/-- A cut keeps a window sound. -/
theorem Sound.cut (h : Sound size window) : Sound size window.cut where
  bytes_eq := by
    show window.bytes.drop window.start = (window.items.drop window.start).map size
    rw [h.bytes_eq, List.map_drop]
  start_le := Nat.zero_le _
  total_eq := h.total_eq

end Window

end Dopedb.Library
