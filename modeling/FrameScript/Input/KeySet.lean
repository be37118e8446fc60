import FrameScript.Text.Basic

/-!
# Key sets

The keys that a line presses, as a list of different texts in increasing order.  Two sets with the
same members are the same list, so equality of sets is equality of values.
-/

namespace FrameScript

/-- A finite set of texts, listed in increasing order. -/
structure KeySet where
  keys : List Text
  increasing : keys.Pairwise (· < ·) := by simp
  deriving DecidableEq, Repr

namespace KeySet

def empty : KeySet := ⟨[], .nil⟩

instance : EmptyCollection KeySet := ⟨empty⟩

/-- Puts a text at its place in an increasing list, unless it is there already. -/
def place (key : Text) : List Text → List Text
  | [] => [key]
  | first :: rest =>
      if key < first then key :: first :: rest
      else if key = first then first :: rest
      else first :: place key rest

theorem mem_place {key other : Text} {keys : List Text} :
    other ∈ place key keys ↔ other = key ∨ other ∈ keys := by
  induction keys with
  | nil => simp [place]
  | cons first rest ih =>
      rw [place]
      split
      · simp
      · split
        · rename_i same
          subst same
          simp
        · rw [List.mem_cons, ih, List.mem_cons]
          exact or_left_comm

theorem place_increasing (key : Text) {keys : List Text} (increasing : keys.Pairwise (· < ·)) :
    (place key keys).Pairwise (· < ·) := by
  induction keys with
  | nil => simp [place]
  | cons first rest ih =>
      have parts := List.pairwise_cons.1 increasing
      rw [place]
      split
      · rename_i below
        refine List.pairwise_cons.2 ⟨fun other member => ?_, increasing⟩
        rcases List.mem_cons.1 member with rfl | later
        · exact below
        · exact List.lt_trans below (parts.1 other later)
      · rename_i notBelow
        split
        · exact increasing
        · rename_i different
          refine List.pairwise_cons.2 ⟨fun other member => ?_, ih parts.2⟩
          rcases mem_place.1 member with rfl | later
          · rcases List.le_iff_lt_or_eq.1 (List.not_lt.1 notBelow) with above | same
            · exact above
            · exact absurd same.symm different
          · exact parts.1 other later

def insert (set : KeySet) (key : Text) : KeySet :=
  ⟨place key set.keys, place_increasing key set.increasing⟩

def ofList (keys : List Text) : KeySet := keys.foldl insert ∅

instance : Membership Text KeySet := ⟨fun set key => key ∈ set.keys⟩

theorem mem_insert {set : KeySet} {key other : Text} :
    other ∈ set.insert key ↔ other = key ∨ other ∈ set :=
  mem_place

def concat (set : KeySet) : Text := set.keys.flatten

end KeySet

end FrameScript
