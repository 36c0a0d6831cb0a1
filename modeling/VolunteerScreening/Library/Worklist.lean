import Mathlib.Data.List.Basic

/-!
# Worklists

A worklist's items are opened once and closed once.  What an item says never
changes, and its key is the row it is about.  Posting an item closes whatever is
open under its key, so at most one item is open under each key.
-/

namespace VolunteerScreening

universe u v w

structure Worklist (Item : Type u) (Entry : Type v) (Key : Type w) where
  isOpen : Item → Bool
  entry : Item → Entry
  key : Entry → Key

namespace Worklist

variable {Item : Type u} {Entry : Type v} {Key : Type w} (list : Worklist Item Entry Key)

def isOpenUnder [DecidableEq Key] (key : Key) (item : Item) : Bool :=
  list.isOpen item && decide (list.key (list.entry item) = key)

def SoleOpen (items : List Item) : Prop :=
  ∀ (first second : Nat) (earlier later : Item), items[first]? = some earlier →
    items[second]? = some later → list.isOpen earlier = true → list.isOpen later = true →
    list.key (list.entry earlier) = list.key (list.entry later) → first = second

/-- The same item, which may have been closed since. -/
structure Outlasts (before after : Item) : Prop where
  entry : list.entry after = list.entry before
  closed : list.isOpen before = false → list.isOpen after = false

/-- Every item stays where it is, and a closed one stays closed. -/
def Advances (before after : List Item) : Prop :=
  ∀ (position : Nat) (item : Item), before[position]? = some item →
    ∃ later, after[position]? = some later ∧ list.Outlasts item later

def Freezes (before after : List Item) : Prop :=
  ∀ (position : Nat) (item : Item), before[position]? = some item → list.isOpen item = false →
    after[position]? = some item

/-- A way of closing an item that leaves what it says alone. -/
structure Closes (close : Item → Item) : Prop where
  entry : ∀ item, list.entry (close item) = list.entry item
  closed : ∀ item, list.isOpen (close item) = false

section Posting

variable [DecidableEq Key]

/-- Close whatever is open under a key. -/
def closeUnder (close : Item → Item) (key : Key) (items : List Item) : List Item :=
  items.map fun item => if list.isOpenUnder key item then close item else item

/-- Close whatever is open under a new item's key, and put the item at the end. -/
def post (close : Item → Item) (new : Item) (items : List Item) : List Item :=
  list.closeUnder close (list.key (list.entry new)) items ++ [new]

end Posting

variable {list} {items : List Item} {close : Item → Item}

theorem isOpenUnder_iff [DecidableEq Key] {key : Key} {item : Item} :
    list.isOpenUnder key item = true ↔
      list.isOpen item = true ∧ list.key (list.entry item) = key := by
  simp [isOpenUnder]

theorem Outlasts.refl (item : Item) : list.Outlasts item item := ⟨rfl, id⟩

theorem Advances.refl (items : List Item) : list.Advances items items :=
  fun _ item found => ⟨item, found, .refl item⟩

theorem Freezes.refl (items : List Item) : list.Freezes items items :=
  fun _ _ found _ => found

theorem Freezes.trans {first second third : List Item} (early : list.Freezes first second)
    (late : list.Freezes second third) : list.Freezes first third := by
  intro position item found closed
  exact late position item (early position item found closed) closed

theorem soleOpen_nil : list.SoleOpen [] := by
  intro _ _ _ _ found
  simp at found

/-- Deciding one item closes it and leaves the others alone. -/
theorem set_getElem?_cases {position other : Nat} {after item : Item}
    (found : (items.set position after)[other]? = some item) :
    other = position ∧ item = after ∨ other ≠ position ∧ items[other]? = some item := by
  rw [List.getElem?_set] at found
  by_cases same : position = other
  · rw [if_pos same] at found
    split at found
    · exact .inl ⟨same.symm, (Option.some.inj found).symm⟩
    · cases found
  · rw [if_neg same] at found
    exact .inr ⟨Ne.symm same, found⟩

theorem advances_set {position : Nat} {item after : Item}
    (found : items[position]? = some item) (outlasts : list.Outlasts item after) :
    list.Advances items (items.set position after) := by
  intro other earlier listed
  by_cases same : other = position
  · subst same
    obtain rfl := Option.some.inj (found.symm.trans listed)
    refine ⟨after, ?_, outlasts⟩
    rw [List.getElem?_set_self (List.getElem?_eq_some_iff.mp found).1]
  · refine ⟨earlier, ?_, .refl earlier⟩
    rw [List.getElem?_set_ne (Ne.symm same)]
    exact listed

/-- A decision is taken on an open item, so no closed one moves. -/
theorem freezes_set {position : Nat} {item after : Item} (found : items[position]? = some item)
    (isOpen : list.isOpen item = true) : list.Freezes items (items.set position after) := by
  intro other earlier listed closed
  have apart : position ≠ other := by
    rintro rfl
    obtain rfl := Option.some.inj (found.symm.trans listed)
    rw [isOpen] at closed
    cases closed
  rw [List.getElem?_set_ne apart]
  exact listed

theorem SoleOpen.set (sole : list.SoleOpen items) {position : Nat} {after : Item}
    (closed : list.isOpen after = false) : list.SoleOpen (items.set position after) := by
  intro first second earlier later foundFirst foundSecond openFirst openSecond sameKey
  rcases set_getElem?_cases foundFirst with ⟨_, rfl⟩ | ⟨_, listedFirst⟩
  · rw [closed] at openFirst
    cases openFirst
  · rcases set_getElem?_cases foundSecond with ⟨_, rfl⟩ | ⟨_, listedSecond⟩
    · rw [closed] at openSecond
      cases openSecond
    · exact sole first second earlier later listedFirst listedSecond openFirst openSecond sameKey

section Posting

variable [DecidableEq Key] {key : Key} {new : Item}

@[simp]
theorem closeUnder_length : (list.closeUnder close key items).length = items.length :=
  List.length_map _

theorem closeUnder_getElem? (position : Nat) :
    (list.closeUnder close key items)[position]? =
      items[position]?.map fun item => if list.isOpenUnder key item then close item else item :=
  List.getElem?_map

theorem open_of_closeUnder (closes : list.Closes close) {position : Nat} {item : Item}
    (found : (list.closeUnder close key items)[position]? = some item)
    (isOpen : list.isOpen item = true) :
    items[position]? = some item ∧ list.key (list.entry item) ≠ key := by
  rw [closeUnder_getElem?, Option.map_eq_some_iff] at found
  obtain ⟨before, listed, written⟩ := found
  by_cases under : list.isOpenUnder key before = true
  · rw [if_pos under] at written
    subst written
    rw [closes.closed] at isOpen
    cases isOpen
  · rw [if_neg under] at written
    subst written
    refine ⟨listed, ?_⟩
    intro sameKey
    exact under (isOpenUnder_iff.mpr ⟨isOpen, sameKey⟩)

theorem closeUnder_of_apart {position : Nat} {item : Item} (listed : items[position]? = some item)
    (apart : list.isOpenUnder key item = false) :
    (list.closeUnder close key items)[position]? = some item := by
  rw [closeUnder_getElem?, listed, Option.map_some, apart]
  rfl

theorem freezes_closeUnder : list.Freezes items (list.closeUnder close key items) := by
  intro position item listed closed
  exact closeUnder_of_apart listed (by simp [isOpenUnder, closed])

theorem SoleOpen.closeUnder (sole : list.SoleOpen items) (closes : list.Closes close) :
    list.SoleOpen (list.closeUnder close key items) := by
  intro first second earlier later foundFirst foundSecond openFirst openSecond sameKey
  obtain ⟨keptFirst, _⟩ := open_of_closeUnder closes foundFirst openFirst
  obtain ⟨keptSecond, _⟩ := open_of_closeUnder closes foundSecond openSecond
  exact sole first second earlier later keptFirst keptSecond openFirst openSecond sameKey

theorem advances_closeUnder (closes : list.Closes close) :
    list.Advances items (list.closeUnder close key items) := by
  intro position item found
  refine ⟨if list.isOpenUnder key item then close item else item, ?_, ?_⟩
  · rw [closeUnder_getElem?, found, Option.map_some]
  · by_cases under : list.isOpenUnder key item = true
    · rw [if_pos under]
      exact ⟨closes.entry item, fun _ => closes.closed item⟩
    · rw [if_neg under]
      exact .refl item

theorem post_getElem?_cases {position : Nat} {item : Item}
    (found : (list.post close new items)[position]? = some item) :
    position < items.length ∧
        (list.closeUnder close (list.key (list.entry new)) items)[position]? = some item ∨
      position = items.length ∧ item = new := by
  unfold post at found
  rw [List.getElem?_append, closeUnder_length] at found
  split at found
  · next earlier => exact .inl ⟨earlier, found⟩
  · next late =>
      rw [List.getElem?_singleton] at found
      split at found
      · exact .inr ⟨by omega, (Option.some.inj found).symm⟩
      · cases found

theorem post_getElem?_earlier {position : Nat} (earlier : position < items.length) :
    (list.post close new items)[position]? =
      (list.closeUnder close (list.key (list.entry new)) items)[position]? :=
  List.getElem?_append_left (by simpa using earlier)

theorem post_getElem?_last : (list.post close new items)[items.length]? = some new := by
  unfold post
  rw [List.getElem?_append_right (by simp)]
  simp

theorem advances_post (closes : list.Closes close) :
    list.Advances items (list.post close new items) := by
  intro position item found
  rw [post_getElem?_earlier (List.getElem?_eq_some_iff.mp found).1]
  exact advances_closeUnder closes position item found

theorem freezes_post : list.Freezes items (list.post close new items) := by
  intro position item listed closed
  rw [post_getElem?_earlier (List.getElem?_eq_some_iff.mp listed).1]
  exact freezes_closeUnder position item listed closed

theorem post_getElem?_of_apart {position : Nat} {item : Item}
    (listed : items[position]? = some item)
    (apart : list.isOpenUnder (list.key (list.entry new)) item = false) :
    (list.post close new items)[position]? = some item := by
  rw [post_getElem?_earlier (List.getElem?_eq_some_iff.mp listed).1]
  exact closeUnder_of_apart listed apart

theorem closed_of_post (closes : list.Closes close) {position : Nat} {item later : Item}
    (found : items[position]? = some item)
    (sameKey : list.key (list.entry item) = list.key (list.entry new))
    (listed : (list.post close new items)[position]? = some later) :
    list.isOpen later = false := by
  rw [post_getElem?_earlier (List.getElem?_eq_some_iff.mp found).1] at listed
  by_contra stillOpen
  obtain ⟨unchanged, otherKey⟩ := open_of_closeUnder closes listed (by simpa using stillOpen)
  obtain rfl := Option.some.inj (found.symm.trans unchanged)
  exact otherKey sameKey

theorem SoleOpen.post (sole : list.SoleOpen items) (closes : list.Closes close) :
    list.SoleOpen (list.post close new items) := by
  intro first second earlier later foundFirst foundSecond openFirst openSecond sameKey
  rcases post_getElem?_cases foundFirst with ⟨_, listedFirst⟩ | ⟨lastFirst, rfl⟩
  · obtain ⟨keptFirst, otherFirst⟩ := open_of_closeUnder closes listedFirst openFirst
    rcases post_getElem?_cases foundSecond with ⟨_, listedSecond⟩ | ⟨_, rfl⟩
    · obtain ⟨keptSecond, _⟩ := open_of_closeUnder closes listedSecond openSecond
      exact sole first second earlier later keptFirst keptSecond openFirst openSecond sameKey
    · exact absurd sameKey otherFirst
  · rcases post_getElem?_cases foundSecond with ⟨_, listedSecond⟩ | ⟨lastSecond, _⟩
    · obtain ⟨_, otherSecond⟩ := open_of_closeUnder closes listedSecond openSecond
      exact absurd sameKey.symm otherSecond
    · exact lastFirst.trans lastSecond.symm

end Posting

end Worklist

end VolunteerScreening
