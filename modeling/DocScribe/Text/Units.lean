/-! Lengths in UTF-16 code units, the unit that document indices count in. -/

namespace DocScribe.Text

/-- A character beyond U+FFFF takes two units. -/
def charUnits (c : Char) : Nat := if c.toNat < 0x10000 then 1 else 2

/-- The number of UTF-16 code units of a text. -/
def listUnits (text : List Char) : Nat := text.foldr (fun c units => charUnits c + units) 0

def units (text : String) : Nat := listUnits text.toList

@[simp] theorem listUnits_nil : listUnits [] = 0 := rfl

@[simp] theorem listUnits_cons (c : Char) (text : List Char) :
    listUnits (c :: text) = charUnits c + listUnits text := rfl

theorem listUnits_append (a b : List Char) : listUnits (a ++ b) = listUnits a + listUnits b := by
  induction a with
  | nil => simp
  | cons c a ih => rw [List.cons_append, listUnits_cons, listUnits_cons, ih, Nat.add_assoc]

end DocScribe.Text
