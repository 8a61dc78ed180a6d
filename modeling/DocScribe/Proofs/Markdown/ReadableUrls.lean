import DocScribe.Markdown.Autolink
import DocScribe.Proofs.Text.NullFree
import DocScribe.Proofs.Text.Separated
import DocScribe.Proofs.Text.Trimming

/-! The readable form of an address holds U+0000 only where the address codes it. All parts of the address
but its host are pieces of it, and its host holds no percent sign. -/

namespace DocScribe.Markdown
open DocScribe Text

/-- A text that neither holds U+0000 nor codes it. -/
def Uncoded (text : List Char) : Prop := null ∉ text ∧ ¬ codedNull <:+: text

namespace Uncoded
variable {text : List Char}

private theorem piece (uncoded : Uncoded text) {part : List Char} (inside : part <:+: text) : Uncoded part :=
  ⟨fun among => uncoded.1 (inside.subset among), fun coded => uncoded.2 (coded.trans inside)⟩

private theorem decode (uncoded : Uncoded text) : null ∉ Percent.decode text := fun holds =>
  (decode_null holds).elim uncoded.1 uncoded.2

private theorem nil : Uncoded [] := by
  constructor
  · simp
  · simp [codedNull]

/-- Nothing is coded across the end of a text without a percent sign. -/
theorem behind (uncoded : Uncoded text) {front : List Char} (free : null ∉ front) (noSign : '%' ∉ front) :
    Uncoded (front ++ text) := by
  induction front with
  | nil => exact uncoded
  | cons c front ih =>
    rw [List.mem_cons, not_or] at free noSign
    obtain ⟨freeRest, uncodedRest⟩ := ih free.2 noSign.2
    constructor
    · rw [List.cons_append, List.mem_cons, not_or]
      exact ⟨free.1, freeRest⟩
    · rw [List.cons_append, List.infix_cons_iff, not_or]
      exact ⟨fun starts => noSign.1 (List.cons_prefix_cons.mp starts).1, uncodedRest⟩

end Uncoded

namespace Url

private theorem infix_splitScheme (text : List Char) :
    (splitScheme text).1 <:+: text ∧ (splitScheme text).2 <:+: text := by
  unfold splitScheme
  dsimp only
  split
  next rest behind =>
    split
    · exact ⟨List.nil_infix, List.infix_refl _⟩
    · have whole := List.takeWhile_append_dropWhile (p := isSchemeChar) (l := text)
      rw [behind] at whole
      refine ⟨⟨[], rest, ?_⟩, ⟨text.takeWhile isSchemeChar ++ [':'], [], ?_⟩⟩
      · simpa using whole
      · simpa using whole
  next => exact ⟨List.nil_infix, List.infix_refl _⟩

private theorem infix_splitUser (text : List Char) : (splitUser text).1 <:+: text ∧ (splitUser text).2 <:+: text := by
  unfold splitUser
  dsimp only
  split
  · exact ⟨(List.take_prefix _ _).isInfix, (List.drop_suffix _ _).isInfix⟩
  · exact ⟨List.nil_infix, List.infix_refl _⟩

private theorem infix_splitPort (host : List Char) : (splitPort host).1 <:+: host ∧ (splitPort host).2 <:+: host := by
  have whole := congrArg List.reverse (List.takeWhile_append_dropWhile (p := Char.isDigit) (l := host.reverse))
  rw [List.reverse_append, List.reverse_reverse] at whole
  unfold splitPort
  dsimp only
  split
  next before found =>
    rw [found, List.reverse_cons] at whole
    refine ⟨⟨[], [':'] ++ (host.reverse.takeWhile Char.isDigit).reverse, ?_⟩,
      ⟨before.reverse ++ [':'], [], ?_⟩⟩
    · simpa using whole
    · simpa using whole
  next => exact ⟨List.infix_refl _, List.nil_infix⟩

/-- A text that holds neither U+0000 nor a percent sign. -/
def IsBare (text : List Char) : Prop := null ∉ text ∧ '%' ∉ text

theorem IsBare.piece {text part : List Char} (bare : IsBare text) (inside : part <:+: text) : IsBare part :=
  ⟨fun among => bare.1 (inside.subset among), fun among => bare.2 (inside.subset among)⟩

theorem IsBare.uncoded {text : List Char} (bare : IsBare text) : Uncoded text := by
  rw [← List.append_nil text]
  exact Uncoded.nil.behind bare.1 bare.2

theorem IsBare.joined {labels : List (List Char)} (bare : ∀ label ∈ labels, IsBare label) :
    IsBare (joinWith ['.'] labels) := by
  constructor
  · intro among
    rcases mem_joinWith among with dot | ⟨label, member, inside⟩
    · exact absurd dot (by decide)
    · exact (bare label member).1 inside
  · intro among
    rcases mem_joinWith among with dot | ⟨label, member, inside⟩
    · exact absurd dot (by decide)
    · exact (bare label member).2 inside

private theorem infix_splitLabels (labels : List (List Char)) :
    (∀ label ∈ (splitLabels labels).1, ∃ whole ∈ labels, label <:+: whole) ∧
      ∀ left, (splitLabels labels).2 = some left → ∀ label ∈ left, ∃ whole ∈ labels, label <:+: whole := by
  induction labels with
  | nil => exact ⟨List.forall_mem_nil _, fun left none => by cases none⟩
  | cons first labels ih =>
    obtain ⟨valid, left⟩ := ih
    have later {label : List Char} (found : ∃ whole ∈ labels, label <:+: whole) :
        ∃ whole ∈ first :: labels, label <:+: whole := by
      obtain ⟨whole, member, inside⟩ := found
      exact ⟨whole, List.mem_cons_of_mem _ member, inside⟩
    unfold splitLabels
    split
    · refine ⟨List.forall_mem_cons.mpr ⟨⟨first, List.mem_cons_self, List.infix_refl _⟩, ?_⟩, ?_⟩
      · exact fun label among => later (valid label among)
      · exact fun rest some label among => later (left rest some label among)
    · refine ⟨List.forall_mem_singleton.mpr ⟨first, List.mem_cons_self, ?_⟩, ?_⟩
      · exact ((List.take_prefix _ _).trans (List.takeWhile_prefix _)).isInfix
      · rintro rest ⟨⟩
        refine List.forall_mem_cons.mpr ⟨⟨first, List.mem_cons_self, (List.drop_suffix _ _).isInfix⟩, ?_⟩
        exact fun label among => ⟨label, List.mem_cons_of_mem _ among, List.infix_refl _⟩

private theorem splitHost_uncoded {text : List Char} (uncoded : Uncoded text) :
    IsBare (splitHost text).1 ∧ null ∉ (splitHost text).2.1 ∧ Uncoded (splitHost text).2.2 := by
  have bare : IsBare (text.takeWhile (!endsHost ·)) := by
    refine ⟨fun among => uncoded.1 ((List.takeWhile_prefix _).subset among), fun among => ?_⟩
    have inside := List.all_eq_true.mp List.all_takeWhile _ among
    exact absurd inside (by decide)
  unfold splitHost
  dsimp only
  generalize cut : (if (text.takeWhile (!endsHost ·)).getLast? == some ':' then _ else _) = whole
  have bareWhole : IsBare whole := by
    rw [← cut]
    split
    · exact bare.piece (List.dropLast_prefix _).isInfix
    · exact bare
  obtain ⟨hostInside, portInside⟩ := infix_splitPort whole
  have bareHost := bareWhole.piece hostInside
  have barePort := (bareWhole.piece portInside).1
  have rest : Uncoded (text.drop whole.length) := uncoded.piece (List.drop_suffix _ _).isInfix
  split
  · refine ⟨?_, barePort, rest⟩
    have limited : IsBare (if maxHost < (splitPort whole).1.length then [] else (splitPort whole).1) := by
      split
      · exact bareHost.piece List.nil_infix
      · exact bareHost
    exact limited.piece ((List.dropLast_prefix _).isInfix.trans (List.drop_suffix _ _).isInfix)
  · have label {labels : List (List Char)}
        (found : ∀ label ∈ labels, ∃ part ∈ splitAt '.' (splitPort whole).1, label <:+: part) :
        IsBare (joinWith ['.'] labels) := by
      refine IsBare.joined fun label among => ?_
      obtain ⟨part, member, inside⟩ := found label among
      exact bareHost.piece (inside.trans (infix_of_mem_splitAt member))
    obtain ⟨valid, left⟩ := infix_splitLabels (splitAt '.' (splitPort whole).1)
    refine ⟨?_, barePort, ?_⟩
    · dsimp only
      split
      · exact bareHost.piece List.nil_infix
      · exact label valid
    · dsimp only
      split
      next labels found => exact rest.behind (label (left labels found)).1 (label (left labels found)).2
      next => exact rest

/-- Every part of an address but its host is a piece of it, or that behind a piece of its host. -/
structure IsUncoded (url : Url) : Prop where
  scheme : Uncoded url.scheme
  user : Uncoded url.user
  host : IsBare url.host
  port : null ∉ url.port
  path : Uncoded url.path
  query : Uncoded url.query
  fragment : Uncoded url.fragment

private theorem parse_uncoded {text : List Char} (uncoded : Uncoded text) : (parse text).IsUncoded := by
  have trimmed := uncoded.piece (infix_trimBy Text.isBlank text)
  obtain ⟨scheme, behind⟩ := infix_splitScheme (trimBy Text.isBlank text)
  -- what stands behind the scheme and the slashes: user, host, port and the rest
  have located {name rest : List Char} (slashes hasHost : Bool) (named : Uncoded name) (left : Uncoded rest)
      (found : List Char × List Char × List Char × List Char)
      (same : found = if hasHost then ((splitUser rest).1, splitHost (splitUser rest).2) else ([], [], [], rest)) :
      IsUncoded ⟨name, slashes, found.1, found.2.1, found.2.2.1,
        (found.2.2.2.takeWhile (· != '#')).takeWhile (· != '?'),
        (found.2.2.2.takeWhile (· != '#')).dropWhile (· != '?'), found.2.2.2.dropWhile (· != '#')⟩ := by
    obtain ⟨user, host, port, last⟩ : Uncoded found.1 ∧ IsBare found.2.1 ∧ null ∉ found.2.2.1 ∧ Uncoded found.2.2.2 := by
      subst same
      split
      · obtain ⟨user, further⟩ := infix_splitUser rest
        exact ⟨left.piece user, splitHost_uncoded (left.piece further)⟩
      · exact ⟨Uncoded.nil, ⟨List.not_mem_nil, List.not_mem_nil⟩, List.not_mem_nil, left⟩
    have short := last.piece (List.takeWhile_prefix (· != '#')).isInfix
    exact ⟨named, user, host, port, short.piece (List.takeWhile_prefix _).isInfix,
      short.piece (List.dropWhile_suffix _).isInfix, last.piece (List.dropWhile_suffix _).isInfix⟩
  unfold parse
  generalize splitScheme (trimBy Text.isBlank text) = front at scheme behind
  obtain ⟨name, rest⟩ := front
  have named := trimmed.piece scheme
  have left := trimmed.piece behind
  dsimp only at named left ⊢
  split
  next more => exact located true _ named (left.piece (List.suffix_append ['/', '/'] more).isInfix) _ rfl
  next => exact located false _ named left _ rfl

private theorem readableLabel_bare {label shown : List Char} (bare : IsBare label) (read : readableLabel label = some shown) :
    IsBare shown := by
  unfold readableLabel at read
  split at read
  next coded found =>
    have low {c : Char} (small : c.toNat < 0x41) (among : c ∈ shown) : c ∈ label := by
      have inside := lowerFrom_letters (punycode_ascii read among (Nat.lt_trans small (by decide))) small
      unfold after? at found
      split at found
      · rw [← Option.some.inj found] at inside
        exact List.mem_of_mem_drop inside
      · cases found
    exact ⟨fun among => bare.1 (low (by decide) among), fun among => bare.2 (low (by decide) among)⟩
  next =>
    cases read
    exact bare

private theorem mem_mapM {change : α → Option β} {values : List α} {results : List β} (mapped : values.mapM change = some results) :
    ∀ result ∈ results, ∃ value ∈ values, change value = some result := by
  induction values generalizing results with
  | nil =>
    cases mapped
    exact List.forall_mem_nil _
  | cons value values ih =>
    simp only [List.mapM_cons, bind, Option.bind_eq_some_iff, pure, Option.some.injEq] at mapped
    obtain ⟨first, here, rest, behind, rfl⟩ := mapped
    refine List.forall_mem_cons.mpr ⟨⟨value, List.mem_cons_self, here⟩, fun result among => ?_⟩
    obtain ⟨other, member, same⟩ := ih behind result among
    exact ⟨other, List.mem_cons_of_mem _ member, same⟩

theorem IsUncoded.mapLabels {url : Url} (uncoded : url.IsUncoded) : (url.mapLabels readableLabel).IsUncoded := by
  unfold Url.mapLabels
  split
  · exact uncoded
  · split
    next labels mapped =>
      refine { uncoded with host := IsBare.joined fun label among => ?_ }
      obtain ⟨part, member, read⟩ := mem_mapM mapped label among
      obtain ⟨first, others, split, ahead, inner⟩ := infix_of_mem_splitBy isLabelDot url.host
      rw [split] at member
      refine readableLabel_bare (uncoded.host.piece ?_) read
      rcases List.mem_cons.mp member with rfl | later
      · exact ahead.isInfix
      · exact inner part later
    next => exact uncoded

theorem IsUncoded.format {url : Url} (uncoded : url.IsUncoded) : null ∉ url.format Percent.decode := by
  have host := uncoded.host.uncoded.decode
  unfold Url.format
  simp only [List.mem_append, not_or]
  refine ⟨⟨⟨⟨⟨⟨⟨uncoded.scheme.decode, ?_⟩, ?_⟩, ?_⟩, ?_⟩, uncoded.path.decode⟩, uncoded.query.decode⟩,
    uncoded.fragment.decode⟩
  · split <;> decide
  · split
    · exact List.not_mem_nil
    · simp [uncoded.user.decode, show null ≠ '@' by decide]
  · split
    · simp [host, show null ≠ '[' by decide, show null ≠ ']' by decide]
    · exact host
  · split
    · exact List.not_mem_nil
    · simp [uncoded.port, show null ≠ ':' by decide]

/-- What is shown of an address holds U+0000 only if the address holds or codes it. -/
theorem readable_null {text : List Char} (uncoded : Uncoded text) : null ∉ readable text :=
  (parse_uncoded uncoded).mapLabels.format

end Url

end DocScribe.Markdown
