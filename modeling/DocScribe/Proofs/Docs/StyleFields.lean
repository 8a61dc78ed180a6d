import DocScribe.Proofs.Docs.LiveBody

/-! What styles ask of a document, field by field, and the changes that ask for it. A change names in its mask the
fields that it sets, and sets no other. -/

namespace DocScribe.Docs
open DocScribe Markdown

/-- A colour by its red, green and blue. -/
def rgb (red green blue : Decimal) : Json :=
  .obj [("color", .obj [("rgbColor", .obj [("red", .decimal red), ("green", .decimal green), ("blue", .decimal blue)])])]

/-- The value that a style asks for in each field of text. Code is in a fixed-width font on light grey. -/
def TextStyle.exactly (style : Style) : TextStyle
  | "bold" => if style.bold then some (.bool true) else Option.none
  | "italic" => if style.italic then some (.bool true) else Option.none
  | "strikethrough" => if style.strikethrough then some (.bool true) else Option.none
  | "weightedFontFamily" =>
    if style.code then some (.obj [("fontFamily", .str "Consolas"), ("weight", .int 400)]) else Option.none
  | "backgroundColor" =>
    if style.code then some (rgb (.finite false 96 (-2)) (.finite false 96 (-2)) (.finite false 96 (-2))) else Option.none
  | "link" => style.link.map fun target => .obj [("url", .str target)]
  | _ => Option.none

/-- A style over another: it sets the fields that it asks for, and leaves the others. -/
def TextStyle.set (style : Style) (below : TextStyle) : TextStyle := fun field => (exactly style field).or (below field)

/-- The fields of text, in the order of a mask. -/
def textFields : List String := ["bold", "italic", "strikethrough", "weightedFontFamily", "backgroundColor", "link"]

/-- The named style of a level, which is the last one for a level that has none. -/
def namedStyle : (level : Int) → String
  | 1 => "HEADING_1"
  | 2 => "HEADING_2"
  | 3 => "HEADING_3"
  | 4 => "HEADING_4"
  | 5 => "HEADING_5"
  | _ => "HEADING_6"

namespace StyleChange

/-- The change that sets what a style asks for, and names just that in its mask. -/
def exactly (style : Style) : StyleChange where
  properties := textFields.filterMap fun field => (TextStyle.exactly style field).map (field, ·)
  mask := ",".intercalate (textFields.filter fun field => (TextStyle.exactly style field).isSome)

/-- The change that sets one field. -/
def single (field : String) (value : Json) : StyleChange := ⟨[(field, value)], field⟩

/-- The change that makes a paragraph a heading. -/
def named (level : Int) : StyleChange := single "namedStyleType" (.str (namedStyle level))

/-- The change that draws a thin grey line under a paragraph. -/
def underlined : StyleChange :=
  single "borderBottom" (.obj [("color", rgb (.finite false 7 (-1)) (.finite false 7 (-1)) (.finite false 7 (-1))),
    ("width", .obj [("magnitude", .decimal (.finite false 1 0)), ("unit", .str "PT")]), ("dashStyle", .str "SOLID"),
    ("padding", .obj [("magnitude", .int 6), ("unit", .str "PT")])])

section Changes

theorem ofStyle_eq (style : Style) : ofStyle style = exactly style := by
  obtain ⟨bold, italic, strikethrough, code, link⟩ := style
  cases bold <;> cases italic <;> cases strikethrough <;> cases code <;> cases link <;> rfl

theorem ofHeading_eq (level : Int) : ofHeading level = named level := by
  by_cases known : 1 ≤ level ∧ level ≤ 6
  · obtain rfl | rfl | rfl | rfl | rfl | rfl : level = 1 ∨ level = 2 ∨ level = 3 ∨ level = 4 ∨ level = 5 ∨ level = 6 := by omega
    all_goals rfl
  · have last : namedStyle level = "HEADING_6" := by
      unfold namedStyle
      split <;> first | rfl | omega
    have clamped : (if (1 ≤ level && level ≤ 6) = true then level else 6) = 6 := if_neg (by simpa using known)
    rw [named, last, ofHeading, clamped]
    rfl

theorem ruleBelow_eq : ruleBelow = underlined := rfl

end Changes
end StyleChange

namespace TextStyle

private theorem exactly_unknown (style : Style) {field : String} (unknown : field ∉ textFields) : exactly style field = Option.none := by
  simp only [textFields, List.mem_cons, List.not_mem_nil, or_false, not_or] at unknown
  unfold exactly
  split <;> first | rfl | simp_all

@[simp] theorem exactly_plain : exactly .plain = TextStyle.none := by
  funext field
  unfold exactly
  split <;> rfl

private theorem exactly_eq_none {style : Style} : exactly style = TextStyle.none ↔ style = .plain := by
  constructor
  · intro none
    have asked (field : String) : exactly style field = Option.none := congrFun none field
    have bold := asked "bold"
    have italic := asked "italic"
    have strikethrough := asked "strikethrough"
    have code := asked "weightedFontFamily"
    have link := asked "link"
    obtain ⟨_, _, _, _, _⟩ := style
    simp_all [exactly, Style.plain]
  · rintro rfl
    exact exactly_plain

@[simp] theorem set_plain (below : TextStyle) : below.set .plain = below := by
  funext field
  rw [set, exactly_plain]
  exact Option.none_or

@[simp] theorem set_none (style : Style) : TextStyle.none.set style = exactly style :=
  funext fun _ => Option.or_none

theorem set_none_eq_none {style : Style} : TextStyle.none.set style = TextStyle.none ↔ style = .plain := by
  rw [set_none, exactly_eq_none]

end TextStyle

private theorem lookup_named (value : String → Option Json) (fields : List String) (field : String) :
    (fields.filterMap fun name => (value name).map (name, ·)).lookup field = if field ∈ fields then value field else none := by
  induction fields with
  | nil => rfl
  | cons name fields ih =>
    by_cases own : field = name
    · subst own
      cases found : value field with
      | none => simp [found, ih]
      | some => simp [found]
    · have other : (field == name) = false := beq_eq_false_iff_ne.mpr own
      cases found : value name with
      | none => simp [found, ih, own]
      | some => simp [found, ih, own, List.lookup_cons, other]

namespace StyleChange

private theorem lookup_exactly (style : Style) (field : String) : (exactly style).properties.lookup field = TextStyle.exactly style field := by
  rw [exactly, lookup_named]
  split
  · rfl
  next unknown => rw [TextStyle.exactly_unknown style unknown]

private theorem keys_exactly (style : Style) :
    (exactly style).properties.map Prod.fst = textFields.filter fun field => (TextStyle.exactly style field).isSome := by
  rw [exactly, List.map_filterMap, ← List.filterMap_eq_filter]
  congr 1
  funext field
  cases found : TextStyle.exactly style field with
  | none => simp [found, Option.guard]
  | some => simp [found, Option.guard]

private theorem fields_exactly {style : Style} (styled : style ≠ .plain) (field : String) :
    field ∈ (exactly style).fields ↔ (TextStyle.exactly style field).isSome = true := by
  have known (asked : (TextStyle.exactly style field).isSome = true) : field ∈ textFields := by
    refine Decidable.byContradiction fun unknown => ?_
    rw [TextStyle.exactly_unknown style unknown] at asked
    cases asked
  have whole : exactly style = ofProperties (exactly style).properties := by
    rw [ofProperties, keys_exactly]
    rfl
  have filled : (exactly style).properties ≠ [] := by
    refine fun none => styled (TextStyle.exactly_eq_none.mp (funext fun field => ?_))
    rw [← lookup_exactly, none]
    rfl
  have free : ∀ property ∈ (exactly style).properties, ',' ∉ property.1.toList := by
    intro property among
    have known := List.mem_map_of_mem (f := Prod.fst) among
    rw [keys_exactly] at known
    have all : ∀ field ∈ textFields, ',' ∉ field.toList := by decide
    exact all _ (List.mem_filter.mp known).1
  rw [whole, fields_ofProperties filled free, keys_exactly, List.mem_filter]
  exact ⟨And.right, fun asked => ⟨known asked, asked⟩⟩

/-- What a style asks for is set, and nothing else is touched. -/
theorem applyTo_ofStyle {style : Style} (styled : style ≠ .plain) (below : TextStyle) :
    (ofStyle style).applyTo below = below.set style := by
  funext field
  rw [applyTo, ofStyle_eq, lookup_exactly, TextStyle.set]
  by_cases asked : (TextStyle.exactly style field).isSome = true
  · rw [if_pos ((fields_exactly styled field).mpr asked), Option.or_of_isSome asked]
  · rw [if_neg (mt (fields_exactly styled field).mp asked), Option.not_isSome_iff_eq_none.mp asked, Option.none_or]

end StyleChange
end DocScribe.Docs
