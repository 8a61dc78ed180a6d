/-! The positions inside a table that was just inserted and is still empty: the table's start, for
each row its start and for each cell its start and a line end, and one unit at the end. -/

namespace DocScribe.Docs.TableLayout

/-- The position of the content of a cell. -/
def cellIndex (tableIndex row column columns : Int) : Int :=
  tableIndex + 3 + row * (2 * columns + 1) + 2 * column

/-- The number of units of an empty table. -/
def emptyLength (rows columns : Int) : Int := 2 + rows * (2 * columns + 1)

end DocScribe.Docs.TableLayout
