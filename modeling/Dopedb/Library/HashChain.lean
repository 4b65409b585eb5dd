import Mathlib.Data.List.Forall2
import Mathlib.Data.List.Induction

/-!
# Hash chains

A chain is a list of links, each with a body, the hash of the link before it and its own hash.
`Linked hash prev links` says that the chain is intact from the hash `prev` on: every link
names its predecessor's hash and stores the hash of its own predecessor and body.
`linked_concat` is the rule for appending, and `tail_determines` is tamper evidence: two
intact chains with one tail hash agree link by link, provided that no two of their links
collide.
-/

namespace Dopedb.Library

universe u v

/-- One link of a hash chain. -/
structure Link (β : Type u) (η : Type v) where
  body : β
  prev : Option η
  hash : η

namespace HashChain

variable {β : Type u} {η : Type v} {hash : Option η → β → η}

/-- The chain is intact after a link whose hash is `prev`, or from the start on `none`. -/
def Linked (hash : Option η → β → η) : Option η → List (Link β η) → Prop
  | _, [] => True
  | prev, link :: rest =>
      link.prev = prev ∧ link.hash = hash link.prev link.body ∧ Linked hash (some link.hash) rest

/-- The hash of the last link, or the hash before the chain when it has no link. -/
def tailHash : Option η → List (Link β η) → Option η
  | prev, [] => prev
  | _, link :: rest => tailHash (some link.hash) rest

@[simp] theorem tailHash_nil (prev : Option η) : tailHash prev ([] : List (Link β η)) = prev := rfl

@[simp] theorem tailHash_cons (prev : Option η) (link : Link β η) (rest : List (Link β η)) :
    tailHash prev (link :: rest) = tailHash (some link.hash) rest := rfl

/-- The last link of a nonempty chain carries its tail hash. -/
theorem tailHash_concat (prev : Option η) (links : List (Link β η)) (link : Link β η) :
    tailHash prev (links ++ [link]) = some link.hash := by
  induction links generalizing prev with
  | nil => rfl
  | cons first rest ih => exact ih _

/-- From the start, the tail hash is the last link's hash. -/
theorem tailHash_none (links : List (Link β η)) :
    tailHash none links = links.getLast?.map Link.hash := by
  rcases List.eq_nil_or_concat links with rfl | ⟨front, last, rfl⟩
  · rfl
  · simp [List.concat_eq_append, tailHash_concat]

/-- Appending a link that names the tail hash keeps the chain intact. -/
theorem linked_concat {prev : Option η} {links : List (Link β η)} {link : Link β η}
    (hlinks : Linked hash prev links) (hprev : link.prev = tailHash prev links)
    (hhash : link.hash = hash link.prev link.body) : Linked hash prev (links ++ [link]) := by
  induction links generalizing prev with
  | nil => exact ⟨hprev, hhash, trivial⟩
  | cons first rest ih => exact ⟨hlinks.1, hlinks.2.1, ih hlinks.2.2 hprev⟩

/-- An intact chain that ends in a link is intact before it, and the link extends the tail. -/
theorem linked_concat_inv {prev : Option η} {links : List (Link β η)} {link : Link β η}
    (h : Linked hash prev (links ++ [link])) :
    Linked hash prev links ∧ link.prev = tailHash prev links ∧
      link.hash = hash link.prev link.body := by
  induction links generalizing prev with
  | nil => exact ⟨trivial, h.1, h.2.1⟩
  | cons first rest ih =>
      obtain ⟨hprev, hhash, hrest⟩ := h
      obtain ⟨hlinked, htail, hlast⟩ := ih hrest
      exact ⟨⟨hprev, hhash, hlinked⟩, htail, hlast⟩

/-- No link of `links` collides with a link of `others`: links of one hash share their
predecessor's hash and have related bodies. -/
def CollisionFree (hash : Option η → β → η) (Same : β → β → Prop)
    (links others : List (Link β η)) : Prop :=
  ∀ link ∈ links, ∀ other ∈ others, hash link.prev link.body = hash other.prev other.body →
    link.prev = other.prev ∧ Same link.body other.body

/-- Two links agree: same predecessor, same hash, related bodies. -/
structure Agrees (Same : β → β → Prop) (link other : Link β η) : Prop where
  prev : link.prev = other.prev
  hash : link.hash = other.hash
  body : Same link.body other.body

/-- Tamper evidence: the tail hash of an intact chain determines the whole chain. The induction
runs from the tail backwards, since each hash fixes the predecessor's hash. -/
theorem tail_determines {Same : β → β → Prop} {links others : List (Link β η)}
    (hfree : CollisionFree hash Same links others) (hlinks : Linked hash none links)
    (hothers : Linked hash none others)
    (htail : tailHash none links = tailHash none others) :
    List.Forall₂ (Agrees Same) links others := by
  induction links using List.reverseRecOn generalizing others with
  | nil =>
      rcases List.eq_nil_or_concat others with rfl | ⟨front, last, rfl⟩
      · exact .nil
      · simp [List.concat_eq_append, tailHash_concat] at htail
  | append_singleton front last ih =>
      rcases List.eq_nil_or_concat others with rfl | ⟨front', last', rfl⟩
      · simp [tailHash_concat] at htail
      · rw [List.concat_eq_append] at hfree hothers htail ⊢
        obtain ⟨hfront, hprev, hhash⟩ := linked_concat_inv hlinks
        obtain ⟨hfront', hprev', hhash'⟩ := linked_concat_inv hothers
        have hlast : last.hash = last'.hash := by
          simpa [tailHash_concat] using htail
        have hsame : last.prev = last'.prev ∧ Same last.body last'.body :=
          hfree last (by simp) last' (by simp) (by rw [← hhash, ← hhash', hlast])
        have hbefore : List.Forall₂ (Agrees Same) front front' := by
          refine ih ?_ hfront hfront' (by rw [← hprev, ← hprev', hsame.1])
          intro link hlink other hother
          exact hfree link (by simp [hlink]) other (by simp [hother])
        exact List.rel_append hbefore (.cons ⟨hsame.1, hlast, hsame.2⟩ .nil)

end HashChain

end Dopedb.Library
