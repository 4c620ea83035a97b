import ScriptStats.Proofs.Markup.Pieces

/-!
# Finding the markup of a well-formed line

What each construct finds where a piece of a well-formed line begins. An element is found with what
stands between its tags, if it holds no other element of its kind, and else it is not found.
-/

namespace ScriptStats.Markup

open Text Format

/-! ## Texts between tags -/

/-- A piece of a line comes before a text that is kept. -/
def before (piece : List Char) (found : List Char × List Char) : List Char × List Char :=
  (piece ++ found.1, found.2)

theorem map_before_before (first second : List Char) (found : Option (List Char × List Char)) :
    (found.map (before second)).map (before first) = found.map (before (first ++ second)) := by
  cases found <;> simp [before]

theorem map_before_nil (found : Option (List Char × List Char)) :
    found.map (before []) = found := by
  cases found <;> simp [before]

section Enclosed

variable {close? : List Char → Option (List Char)} {begins : List Char → Bool}

theorem enclosed?_cons {c : Char} {text : List Char}
    (h : close? (c :: text) = none ∧ begins (c :: text) = false) :
    enclosed? close? begins (c :: text) = (enclosed? close? begins text).map (before [c]) := by
  rw [enclosed?, h.1]
  simp only [h.2]
  rfl

theorem enclosed?_eq_none {text : List Char} (h : close? text = none ∧ begins text = true) :
    enclosed? close? begins text = none := by
  cases text with
  | nil => rfl
  | cons c text => rw [enclosed?, h.1, if_pos h.2]

/-- Readers that pass over all pieces of a line but the tags of the elements of a kind. -/
structure PassesOver (close? : List Char → Option (List Char)) (begins : List Char → Bool)
    (kind : Kind) : Prop where
  kind_ne : kind ≠ .lineBreak ∧ kind ≠ .command
  other : ∀ {c} (_ : c ≠ '<') rest, close? (c :: rest) = none ∧ begins (c :: rest) = false
  lineBreak : ∀ (form : BreakForm) rest,
    close? (form.text ++ rest) = none ∧ begins (form.text ++ rest) = false
  opening : ∀ (tag : ElementTag) rest,
    close? (tag.opening ++ rest) = none ∧ begins (tag.opening ++ rest) = decide (tag.kind = kind)
  closing : ∀ (tag : ElementTag), tag.kind ≠ kind → ∀ rest,
    close? (tag.closing ++ rest) = none ∧ begins (tag.closing ++ rest) = false

namespace PassesOver

variable {kind : Kind} (h : PassesOver close? begins kind)
include h

theorem enclosed?_plain {piece : List Char} (hp : ∀ c ∈ piece, c ≠ '<') (rest : List Char) :
    enclosed? close? begins (piece ++ rest) =
      (enclosed? close? begins rest).map (before piece) := by
  induction piece with
  | nil => exact (map_before_nil _).symm
  | cons c piece ih =>
    simp only [List.mem_cons, forall_eq_or_imp] at hp
    rw [List.cons_append, enclosed?_cons (h.other hp.1 _), ih hp.2, map_before_before]
    rfl

/-- A tag that is passed over where it begins is passed over as a whole. -/
theorem enclosed?_tag {piece rest : List Char} (hp : ∀ c ∈ piece.tail, IsNoBracket c)
    (hpass : close? (piece ++ rest) = none ∧ begins (piece ++ rest) = false) :
    enclosed? close? begins (piece ++ rest) =
      (enclosed? close? begins rest).map (before piece) := by
  cases piece with
  | nil => exact (map_before_nil _).symm
  | cons c piece =>
    have hother : ∀ d ∈ piece, d ≠ '<' := fun d hd => (hp d hd).1
    rw [List.cons_append] at hpass ⊢
    rw [enclosed?_cons hpass, h.enclosed?_plain hother, map_before_before]
    rfl

/-- The text goes on behind a line without elements of the kind. -/
theorem enclosed?_render {line : Marked} (hline : line.count kind = 0) (rest : List Char) :
    enclosed? close? begins (line.render ++ rest) =
      (enclosed? close? begins rest).map (before line.render) := by
  induction line generalizing rest with
  | nil => exact (map_before_nil _).symm
  | text leaf isText more ih =>
    rw [Marked.render, List.append_assoc, h.enclosed?_plain fun c hc => (isText c hc).1, ih hline,
      map_before_before]
  | lineBreak form more ih =>
    rw [Marked.count, Nat.add_eq_zero_iff] at hline
    rw [Marked.render, List.append_assoc, h.enclosed?_tag form.isNoBracket (h.lineBreak form _),
      ih hline.2, map_before_before]
  | command body isBody more ih =>
    rw [Marked.count, Nat.add_eq_zero_iff] at hline
    have hplain := h.enclosed?_plain (bracket_ne_of_isBody isBody) (more.render ++ rest)
    rw [ih hline.2, map_before_before] at hplain
    simpa [Marked.render] using hplain
  | element tag inner more ihInner ihMore =>
    simp only [Marked.count, Nat.add_eq_zero_iff] at hline
    obtain ⟨⟨htag, hinner⟩, hmore⟩ := hline
    have hkind : tag.kind ≠ kind := by simpa using htag
    have hopening := h.opening tag
    simp only [decide_eq_false hkind] at hopening
    rw [Marked.render, List.append_assoc, h.enclosed?_tag tag.isNoBracket_opening (hopening _),
      List.append_assoc, ihInner hinner, List.append_assoc,
      h.enclosed?_tag tag.isNoBracket_closing (h.closing tag hkind _), ihMore hmore]
    simp only [map_before_before]

/-- No closing tag is reached behind an element of the kind. -/
theorem enclosed?_render_eq_none {line : Marked} (hline : line.count kind ≠ 0)
    (rest : List Char) : enclosed? close? begins (line.render ++ rest) = none := by
  induction line generalizing rest with
  | nil => exact absurd rfl hline
  | text leaf isText more ih =>
    rw [Marked.render, List.append_assoc, h.enclosed?_plain fun c hc => (isText c hc).1, ih hline]
    rfl
  | lineBreak form more ih =>
    rw [Marked.count, if_neg h.kind_ne.1, Nat.zero_add] at hline
    rw [Marked.render, List.append_assoc, h.enclosed?_tag form.isNoBracket (h.lineBreak form _),
      ih hline]
    rfl
  | command body isBody more ih =>
    rw [Marked.count, if_neg h.kind_ne.2, Nat.zero_add] at hline
    have hplain := h.enclosed?_plain (bracket_ne_of_isBody isBody) (more.render ++ rest)
    rw [ih hline] at hplain
    simpa [Marked.render] using hplain
  | element tag inner more ihInner ihMore =>
    have hopening := h.opening tag
    rw [Marked.render, List.append_assoc]
    by_cases hkind : tag.kind = kind
    · simp only [decide_eq_true hkind] at hopening
      exact enclosed?_eq_none (hopening _)
    simp only [decide_eq_false hkind] at hopening
    rw [Marked.count, if_neg hkind, Nat.zero_add] at hline
    rw [h.enclosed?_tag tag.isNoBracket_opening (hopening _), List.append_assoc]
    by_cases hinner : inner.count kind = 0
    · rw [hinner, Nat.zero_add] at hline
      rw [h.enclosed?_render hinner, List.append_assoc,
        h.enclosed?_tag tag.isNoBracket_closing (h.closing tag hkind _), ihMore hline]
      rfl
    · rw [ihInner hinner]
      rfl

end PassesOver

end Enclosed

/-! ## Elements -/

theorem isLabel_br : IsLabel ['b', 'r'] := by
  unfold IsLabel
  decide

section Labelled

variable {label : List Char} (hl : IsLabel label) (text : List Char)
include hl

theorem Ruby.close?_label : Ruby.close? ('<' :: (label ++ text)) = none := by
  obtain ⟨c, more, rfl, hc⟩ := hl.exists_cons
  simp [Ruby.close?, hc]

theorem Format.close?_label (opened : List Char) :
    Format.close? opened ('<' :: (label ++ text)) = none := by
  obtain ⟨c, more, rfl, hc⟩ := hl.exists_cons
  simp [Format.close?, hc]

end Labelled

theorem ElementTag.closing_append (tag : ElementTag) (rest : List Char) :
    tag.closing ++ rest = '<' :: '/' :: (tag.label ++ '>' :: rest) := by
  simp [closing]

theorem endsLabel_bracket : EndsLabel '>' :=
  .inr (.inl rfl)

theorem passesOver_ruby : PassesOver Ruby.close? Ruby.opens .ruby where
  kind_ne := by decide
  other hc rest := by simp [Ruby.close?, Ruby.opens, hc]
  lineBreak form rest := by
    obtain ⟨e, more, he, htext⟩ := form.exists_text_append_eq rest
    rw [htext]
    exact ⟨Ruby.close?_label isLabel_br _, opens_label isLabel_br he more⟩
  opening tag rest := by
    obtain ⟨e, more, he, htail⟩ := tag.exists_tail_eq rest
    simp only [ElementTag.opening, List.cons_append, List.append_assoc, htail]
    rw [Ruby.close?_label tag.isLabel, opens_label tag.isLabel he more]
    simp [tag.ruby_eq_label_iff]
  closing tag hkind rest := by
    have hname : ¬ Ruby.name = tag.label.map Char.toLower := mt tag.ruby_eq_label_iff.1 hkind
    rw [tag.closing_append]
    refine ⟨?_, rfl⟩
    simp only [Ruby.close?, word?_ruby_label tag.isLabel endsLabel_bracket rest, if_neg hname,
      Option.bind_none]

theorem passesOver_format {name : List Char} (hn : name.map Char.toLower ∈ names) :
    PassesOver (Format.close? name) beginsTag .format where
  kind_ne := by decide
  other hc rest := by simp [Format.close?, beginsTag, hc]
  lineBreak form rest := by
    obtain ⟨e, more, he, htext⟩ := form.exists_text_append_eq rest
    rw [htext]
    exact ⟨Format.close?_label isLabel_br _ name, beginsTag_label isLabel_br he more⟩
  opening tag rest := by
    obtain ⟨e, more, he, htail⟩ := tag.exists_tail_eq rest
    simp only [ElementTag.opening, List.cons_append, List.append_assoc, htail]
    rw [Format.close?_label tag.isLabel, beginsTag_label tag.isLabel he more]
    simp [tag.label_mem_names_iff]
  closing tag hkind rest := by
    have hbegins : beginsTag (tag.closing ++ rest) = false := by
      rw [tag.closing_append]
      change namesTag (tag.label ++ '>' :: rest) = false
      rw [namesTag_label tag.isLabel endsLabel_bracket,
        decide_eq_false (mt tag.label_mem_names_iff.1 hkind)]
    refine ⟨Option.eq_none_iff_forall_ne_some.2 fun left hleft => ?_, hbegins⟩
    -- What closes a pair begins a format tag as well.
    obtain ⟨close, hclose, heq⟩ := Format.close?_eq_some_iff.1 hleft
    have hspells := spells_label (ElementTag.format name hn none).isLabel.isLabelChar
    have htag := beginsTag_eq_true_iff.2 (begins_of_pairClose hn hspells hclose left)
    rw [← heq, hbegins] at htag
    cases htag

theorem Ruby.close?_closing (value : Value) (rest : List Char) :
    Ruby.close? ((ElementTag.ruby value).closing ++ rest) = some rest := by
  have hspells := spells_label (ElementTag.ruby value).isLabel.isLabelChar
  exact Ruby.close?_eq_some_iff.2 ⟨_, ⟨Ruby.name, ['>'], hspells, ⟨[], blanks_nil, rfl⟩, rfl⟩, rfl⟩

theorem Format.close?_closing {name : List Char} (hn : name.map Char.toLower ∈ names)
    (value : Option Value) (rest : List Char) :
    Format.close? name ((ElementTag.format name hn value).closing ++ rest) = some rest :=
  Format.close?_eq_some_iff.2 ⟨_, ⟨name, ['>'], List.forall₂_refl name,
    ⟨[], blanks_nil, rfl⟩, rfl⟩, rfl⟩

/-- The text of an element is what stands between its tags, if no other element of its kind is
there. -/
theorem PassesOver.enclosed?_element {close? : List Char → Option (List Char)}
    {begins : List Char → Bool} {kind : Kind} (h : PassesOver close? begins kind)
    (inner : Marked) {closing rest : List Char} (hne : closing ++ rest ≠ [])
    (hclose : close? (closing ++ rest) = some rest) :
    enclosed? close? begins (inner.render ++ (closing ++ rest)) =
      if inner.count kind = 0 then some (inner.render, rest) else none := by
  split
  next hinner =>
    have hopen : StaysOpen close? begins [] (closing ++ rest) := fun c text hs => by simp at hs
    have hend : enclosed? close? begins (closing ++ rest) = some ([], rest) :=
      enclosed?_append hne hclose hopen
    rw [h.enclosed?_render hinner, hend]
    simp [before]
  next hinner => exact h.enclosed?_render_eq_none hinner _

/-! ## What is found -/

/-- A construct that finds, among the pieces of a line, just the markup of a kind. -/
structure Finds (construct : Construct) (kind : Kind) : Prop where
  kind_ne : kind ≠ .command
  other : ∀ {c} (_ : c ≠ '<') rest, construct.find (c :: rest) = none
  lineBreak : ∀ (form : BreakForm) rest, construct.find (form.text ++ rest) =
    if kind = .lineBreak then some ([], rest) else none
  element : ∀ (tag : ElementTag) (inner : Marked) rest,
    construct.find (tag.opening ++ (inner.render ++ (tag.closing ++ rest))) =
      if tag.kind = kind ∧ inner.count kind = 0 then some (inner.render, rest) else none
  closing : ∀ (tag : ElementTag) rest, construct.find (tag.closing ++ rest) = none

theorem finds_ruby : Finds ruby .ruby where
  kind_ne := by decide
  other hc rest := by simp [ruby, Ruby.find, hc]
  lineBreak form rest := by
    obtain ⟨e, more, he, htext⟩ := form.exists_text_append_eq rest
    rw [htext]
    rfl
  element tag inner rest := by
    obtain ⟨e, more, he, htail⟩ := tag.exists_tail_eq (inner.render ++ (tag.closing ++ rest))
    have hfind : ruby.find (tag.opening ++ (inner.render ++ (tag.closing ++ rest))) =
        (word? Ruby.name (tag.label ++ e :: more)).bind fun text =>
          (assignmentEnds text).findSome? Ruby.body? := by
      rw [ElementTag.opening, List.cons_append, List.append_assoc, htail]
      rfl
    rw [hfind, word?_ruby_label tag.isLabel he, ← htail]
    cases tag with
    | ruby value =>
      have hbody := passesOver_ruby.enclosed?_element inner (by simp [ElementTag.closing])
        (Ruby.close?_closing value rest)
      have hassign := findSome?_assignmentEnds value
        (inner.render ++ ((ElementTag.ruby value).closing ++ rest)) Ruby.body?
      rw [if_pos ((ElementTag.ruby value).ruby_eq_label_iff.2 rfl), Option.bind_some]
      simpa [ElementTag.tail, ElementTag.kind, Ruby.body?, hbody] using hassign
    | format name hn value =>
      rw [if_neg (mt (ElementTag.format name hn value).ruby_eq_label_iff.1 (by simp [ElementTag.kind]))]
      simp [ElementTag.kind]
  closing tag rest := by
    rw [tag.closing_append]
    rfl

theorem findSome?_eq_of_mem {α β : Type} {f : α → Option β} {a : α} {items : List α}
    (ha : a ∈ items) (hf : ∀ b ∈ items, b ≠ a → f b = none) : items.findSome? f = f a := by
  induction items with
  | nil => cases ha
  | cons b items ih =>
    rw [List.findSome?_cons]
    by_cases hb : b = a
    · subst hb
      cases hfound : f b with
      | some found => rfl
      | none =>
        rw [List.findSome?_eq_none_iff.2]
        intro c hc
        by_cases hcb : c = b
        · rw [hcb, hfound]
        · exact hf c (List.mem_cons_of_mem _ hc) hcb
    · rw [hf b (List.mem_cons_self ..) hb]
      refine ih ?_ fun c hc => hf c (List.mem_cons_of_mem _ hc)
      exact (List.mem_cons.1 ha).resolve_left (Ne.symm hb)

/-- Of all names only the one that is written leads on. -/
theorem findSome?_names {label : List Char} (hl : IsLabel label) {e : Char} (he : EndsLabel e)
    (more : List Char) :
    (names.findSome? fun name => (word? name (label ++ e :: more)).bind fun text =>
      (openEnds text).findSome? (Format.body? ((label ++ e :: more).take name.length))) =
      if label.map Char.toLower ∈ names then
        (openEnds (e :: more)).findSome? (Format.body? label)
      else none := by
  have hother : ∀ name ∈ names, name ≠ label.map Char.toLower →
      ((word? name (label ++ e :: more)).bind fun text =>
        (openEnds text).findSome? (Format.body? ((label ++ e :: more).take name.length))) =
          none := by
    intro name hn hne
    rw [word?_label (isNameLetter_of_mem name hn) hl.isLabelChar he]
    split
    next hprefix =>
      rcases drop_label hprefix with ⟨heq, -⟩ | ⟨-, c, hc, left, hdrop⟩
      · exact absurd heq hne
      · rw [Option.bind_some, hdrop, List.cons_append,
          openEnds_of_isLabelChar (hl.isLabelChar c hc)]
        rfl
    next => rfl
  split
  next hn =>
    rw [findSome?_eq_of_mem hn hother, word?_append (spells_label hl.isLabelChar),
      Option.bind_some, List.length_map, List.take_left' rfl]
  next hn =>
    refine List.findSome?_eq_none_iff.2 fun name hname => hother name hname ?_
    rintro rfl
    exact hn hname

theorem finds_format : Finds format .format where
  kind_ne := by decide
  other hc rest := by simp [format, Format.find, hc]
  lineBreak form rest := by
    obtain ⟨e, more, he, htext⟩ := form.exists_text_append_eq rest
    rw [htext]
    exact findSome?_names isLabel_br he more
  element tag inner rest := by
    obtain ⟨e, more, he, htail⟩ := tag.exists_tail_eq (inner.render ++ (tag.closing ++ rest))
    rw [ElementTag.opening, List.cons_append, List.append_assoc, htail]
    refine (findSome?_names tag.isLabel he more).trans ?_
    rw [← htail]
    cases tag with
    | ruby value =>
      rw [if_neg (mt (ElementTag.ruby value).label_mem_names_iff.1 (by simp [ElementTag.kind]))]
      simp [ElementTag.kind]
    | format name hn value =>
      have hbody := (passesOver_format hn).enclosed?_element inner (by simp [ElementTag.closing])
        (Format.close?_closing hn value rest)
      have hends := findSome?_openEnds hn value
        (inner.render ++ ((ElementTag.format name hn value).closing ++ rest)) (Format.body? name)
      rw [if_pos ((ElementTag.format name hn value).label_mem_names_iff.2 rfl)]
      simpa [ElementTag.kind, ElementTag.label, Format.body?, hbody] using hends
  closing tag rest := by
    rw [tag.closing_append]
    refine List.findSome?_eq_none_iff.2 fun name hn => ?_
    cases name with
    | nil => exact absurd hn (by decide)
    | cons letter name =>
      rw [word?, sameLetter_eq_false (isNameLetter_of_mem _ hn _ (by simp)) (.inr rfl)]
      rfl

theorem finds_lineBreak : Finds lineBreak .lineBreak where
  kind_ne := by decide
  other hc rest := by simp [lineBreak, LineBreak.find, hc]
  lineBreak form rest := by cases form <;> rfl
  element tag inner rest := by
    obtain ⟨e, more, he, htail⟩ := tag.exists_tail_eq (inner.render ++ (tag.closing ++ rest))
    have hbr : ¬ ['b', 'r'] = tag.label.map Char.toLower := by
      have hname : ∀ name ∈ Ruby.name :: names, ['b', 'r'] ≠ name := by decide
      cases tag with
      | ruby value => exact hname (Ruby.name.map Char.toLower) (List.mem_cons_self ..)
      | format name hn value => exact hname _ (List.mem_cons_of_mem _ hn)
    have hkind : tag.kind ≠ .lineBreak := by cases tag <;> simp [ElementTag.kind]
    rw [if_neg fun h => hkind h.1, ElementTag.opening, List.cons_append, List.append_assoc, htail]
    simp [lineBreak, LineBreak.find, word?_br_label tag.isLabel he, hbr]
  closing tag rest := by
    rw [tag.closing_append]
    rfl

end ScriptStats.Markup
