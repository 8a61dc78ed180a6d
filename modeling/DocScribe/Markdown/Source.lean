/-! A text with fast access to what follows each position. -/

namespace DocScribe.Markdown

/-- What follows each position of a text, the text itself first. -/
def suffixes : List Char → List (List Char)
  | [] => [[]]
  | c :: rest => (c :: rest) :: suffixes rest

/-- A text by its suffixes, which share their cells. -/
structure Source where
  tails : Array (List Char)

namespace Source

def ofChars (chars : List Char) : Source := ⟨(suffixes chars).toArray⟩

def after (source : Source) (pos : Nat) : List Char := source.tails.getD pos []

def length (source : Source) : Nat := source.tails.size - 1

def at? (source : Source) (pos : Nat) : Option Char := (source.after pos).head?

def slice (source : Source) (start stop : Nat) : List Char :=
  (source.after start).take (stop - start)

end Source
end DocScribe.Markdown
