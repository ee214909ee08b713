/-!
# Similar texts

Two texts share their longest common stretch, and what they share before it and after it. They are
similar if they share enough for their length.
-/

namespace ViewModel.Text

/-- The length of the longest common start. -/
def sharedStart : List Char → List Char → Nat
  | a :: first, b :: second => if a = b then sharedStart first second + 1 else 0
  | _, _ => 0

/-- A common stretch: where it starts in either text, and its length. -/
structure Stretch where
  first : Nat := 0
  second : Nat := 0
  length : Nat := 0

/-- The longest common stretch; of several, the one that starts first in the first text, and then in the
second. -/
def longestShared (first second : List Char) : Stretch :=
  (List.range first.length).foldl (fun best i =>
    (List.range second.length).foldl (fun best j =>
      let length := sharedStart (first.drop i) (second.drop j)
      if best.length < length then ⟨i, j, length⟩ else best) best) {}

/-- How many characters two texts share. Each step cuts at least one character off the first text, so as
many steps as it has will do. -/
def sharedWithin : Nat → List Char → List Char → Nat
  | 0, _, _ => 0
  | steps + 1, first, second =>
    let best := longestShared first second
    if best.length = 0 then 0
    else
      best.length + sharedWithin steps (first.take best.first) (second.take best.second) +
        sharedWithin steps (first.drop (best.first + best.length))
          (second.drop (best.second + best.length))

/-- How many characters two texts share. -/
def shared (first second : List Char) : Nat := sharedWithin first.length first second

/-- A text compared with another: what they share, and what they have altogether. -/
structure Likeness where
  text : String
  shared : Nat
  total : Nat

/-- How much a text is like a word. -/
def likeness (word text : String) : Likeness :=
  ⟨text, shared text.toList word.toList, text.length + word.length⟩

/-- Whether the shared characters, which both texts have, are six tenths of all. -/
def Likeness.isEnough (likeness : Likeness) : Bool := 6 * likeness.total ≤ 20 * likeness.shared

/-- Whether one text is at least as much like the word as another; of two that are as much, the later one
in order comes first. -/
def Likeness.atLeast (one other : Likeness) : Bool :=
  let left := one.shared * other.total
  let right := other.shared * one.total
  right < left || (left == right && !decide (one.text < other.text))

/-- The texts that are similar to a word, at most three, in order. -/
def similar (word : String) (texts : List String) : List String :=
  let enough := (texts.map (likeness word)).filter Likeness.isEnough
  let best := ((enough.mergeSort Likeness.atLeast).take 3).map Likeness.text
  best.mergeSort fun a b => !decide (b < a)

end ViewModel.Text
