import ScriptStats.Proofs.Markup.Finding

/-!
# Well-formed markup is removed

Every kind of markup that is stripped from a well-formed line takes out the markup of that kind, as
`Marked.drop` does. Since something goes as long as there is any, only the texts of the line are
left in the end.
-/

namespace ScriptStats.Markup

open Text Format

/-! ## What is stripped -/

namespace Construct

variable {construct : Construct} {c : Char} {text : List Char}

theorem strip_of_none (h : construct.find (c :: text) = none) :
    construct.strip (c :: text) = c :: construct.strip text := by
  rw [strip]
  split
  next h' => rw [h] at h'; cases h'
  next => rfl

theorem strip_of_some {kept rest : List Char} (h : construct.find text = some (kept, rest)) :
    construct.strip text = kept ++ construct.strip rest := by
  cases text with
  | nil => exact absurd (construct.shorter h) (Nat.not_lt_zero _)
  | cons c text =>
    rw [strip]
    split
    next h' => rw [h] at h'; cases h'; rfl
    next h' => rw [h] at h'; cases h'

end Construct

namespace Finds

variable {construct : Construct} {kind : Kind} (h : Finds construct kind)
include h

theorem strip_plain {piece : List Char} (hp : ∀ c ∈ piece, c ≠ '<') (rest : List Char) :
    construct.strip (piece ++ rest) = piece ++ construct.strip rest := by
  induction piece with
  | nil => rfl
  | cons c piece ih =>
    simp only [List.mem_cons, forall_eq_or_imp] at hp
    rw [List.cons_append, Construct.strip_of_none (h.other hp.1 _), ih hp.2, List.cons_append]

theorem strip_tag {piece rest : List Char} (hp : ∀ c ∈ piece.tail, IsNoBracket c)
    (hfind : construct.find (piece ++ rest) = none) :
    construct.strip (piece ++ rest) = piece ++ construct.strip rest := by
  cases piece with
  | nil => rfl
  | cons c piece =>
    have hother : ∀ d ∈ piece, d ≠ '<' := fun d hd => (hp d hd).1
    rw [List.cons_append] at hfind ⊢
    rw [Construct.strip_of_none hfind, h.strip_plain hother, List.cons_append]

/-- Stripping takes out of a line what `drop` takes out, and goes on behind it. -/
theorem strip_render (line : Marked) (rest : List Char) :
    construct.strip (line.render ++ rest) =
      (line.drop kind).render ++ construct.strip rest := by
  induction line generalizing rest with
  | nil => rfl
  | text leaf isText more ih =>
    rw [Marked.render, List.append_assoc, h.strip_plain fun c hc => (isText c hc).1, ih,
      Marked.drop, Marked.render, List.append_assoc]
  | lineBreak form more ih =>
    have hfind := h.lineBreak form (more.render ++ rest)
    rw [Marked.render, List.append_assoc, Marked.drop]
    split
    next hkind =>
      rw [if_pos hkind] at hfind
      rw [Construct.strip_of_some hfind, List.nil_append, ih]
    next hkind =>
      rw [if_neg hkind] at hfind
      rw [h.strip_tag form.isNoBracket hfind, ih, Marked.render, List.append_assoc]
  | command body isBody more ih =>
    have hplain := h.strip_plain (bracket_ne_of_isBody isBody) (more.render ++ rest)
    rw [ih] at hplain
    rw [Marked.drop, if_neg h.kind_ne]
    simpa [Marked.render] using hplain
  | element tag inner more ihInner ihMore =>
    have hfind := h.element tag inner (more.render ++ rest)
    rw [Marked.drop]
    split
    next hfound =>
      rw [if_pos hfound] at hfind
      simp only [Marked.render, List.append_assoc]
      rw [Construct.strip_of_some hfind, ihMore, Marked.render_append, List.append_assoc]
    next hkept =>
      rw [if_neg hkept] at hfind
      simp only [Marked.render, List.append_assoc]
      rw [h.strip_tag tag.isNoBracket_opening hfind, ihInner,
        h.strip_tag tag.isNoBracket_closing (h.closing tag _), ihMore]

end Finds

namespace Command

theorem stripFrom_of_ne {c : Char} (hc : c ≠ '[') (escaped : Bool) (text : List Char) :
    stripFrom escaped (c :: text) = c :: stripFrom (c = '\\') text := by
  rw [stripFrom, if_neg fun h => hc h.1]

theorem stripFrom_plain {piece : List Char} (hp : ∀ c ∈ piece, c ≠ '[') (escaped : Bool)
    (rest : List Char) :
    stripFrom escaped (piece ++ rest) = piece ++ stripFrom (escapedAfter escaped piece) rest := by
  induction piece generalizing escaped with
  | nil => rfl
  | cons c piece ih =>
    simp only [List.mem_cons, forall_eq_or_imp] at hp
    rw [List.cons_append, stripFrom_of_ne hp.1, ih hp.2, escapedAfter_cons, List.cons_append]

theorem escapedAfter_eq_false {text : List Char} (h : ∀ c ∈ text, c ≠ '\\') :
    escapedAfter false text = false := by
  unfold escapedAfter
  cases hlast : text.getLast? with
  | none => rfl
  | some c => simpa using h c (List.mem_of_getLast? hlast)

theorem escapedAfter_closed (escaped : Bool) (text : List Char) :
    escapedAfter escaped (text ++ ['>']) = false := by
  simp [escapedAfter]

/-- A tag holds no command and lets the next one begin. -/
theorem stripFrom_tag {piece : List Char} (hp : ∀ c ∈ piece.tail, IsNoBracket c)
    (hopen : piece.head? = some '<') (hclosed : ∃ text, piece = text ++ ['>'])
    (rest : List Char) : stripFrom false (piece ++ rest) = piece ++ stripFrom false rest := by
  have hbracket : ∀ c ∈ piece, c ≠ '[' := by
    obtain ⟨more, rfl⟩ := List.head?_eq_some_iff.1 hopen
    simp only [List.mem_cons, forall_eq_or_imp]
    exact ⟨by decide, fun c hc => (hp c hc).2⟩
  obtain ⟨text, htext⟩ := hclosed
  rw [stripFrom_plain hbracket, htext, escapedAfter_closed]

theorem stripFrom_command {body : List Char} (h : ∀ c ∈ body, IsBodyChar c) (rest : List Char) :
    stripFrom false ('[' :: (body ++ ']' :: rest)) = stripFrom false rest := by
  have hclose : close? false (body ++ ']' :: rest) = some rest :=
    close?_eq_some_iff.2 ⟨body, rfl, fun hmem => (h _ hmem).1 rfl, fun hmem => (h _ hmem).2.1 rfl,
      escapedAfter_eq_false fun c hc => (h c hc).2.2.2⟩
  rw [stripFrom, if_pos ⟨rfl, rfl⟩]
  split
  next h' => rw [hclose] at h'; cases h'; rfl
  next h' => rw [hclose] at h'; cases h'

end Command

theorem BreakForm.exists_text_eq (form : BreakForm) : ∃ text, form.text = text ++ ['>'] := by
  cases form
  · exact ⟨['<', 'b', 'r'], rfl⟩
  · exact ⟨['<', 'b', 'r', '/'], rfl⟩
  · exact ⟨['<', 'b', 'r', ' ', '/'], rfl⟩

theorem ElementTag.exists_opening_eq (tag : ElementTag) : ∃ text, tag.opening = text ++ ['>'] := by
  cases tag with
  | ruby value => exact ⟨'<' :: (Ruby.name ++ '=' :: value.text), by simp [opening, label, tail]⟩
  | format name hn value =>
    cases value with
    | none => exact ⟨'<' :: name, rfl⟩
    | some value => exact ⟨'<' :: (name ++ '=' :: value.text), by simp [opening, label, tail]⟩

/-- As for constructs: commands are taken out of a line, and stripping goes on behind it. -/
theorem stripCommands_render (line : Marked) (rest : List Char) :
    Command.stripFrom false (line.render ++ rest) =
      (line.drop .command).render ++ Command.stripFrom false rest := by
  induction line generalizing rest with
  | nil => rfl
  | text leaf isText more ih =>
    rw [Marked.render, List.append_assoc,
      Command.stripFrom_plain fun c hc => (isText c hc).2.1,
      Command.escapedAfter_eq_false fun c hc => (isText c hc).2.2, ih, Marked.drop, Marked.render,
      List.append_assoc]
  | lineBreak form more ih =>
    have hopen : form.text.head? = some '<' := by cases form <;> rfl
    rw [Marked.render, List.append_assoc,
      Command.stripFrom_tag form.isNoBracket hopen form.exists_text_eq, ih, Marked.drop,
      if_neg (by decide), Marked.render, List.append_assoc]
  | command body isBody more ih =>
    have hcommand := Command.stripFrom_command isBody (more.render ++ rest)
    rw [ih] at hcommand
    rw [Marked.drop, if_pos rfl]
    simpa [Marked.render] using hcommand
  | element tag inner more ihInner ihMore =>
    have hkind : ¬ (tag.kind = .command ∧ inner.count .command = 0) := by
      cases tag <;> simp [ElementTag.kind]
    rw [Marked.drop, if_neg hkind]
    simp only [Marked.render, List.append_assoc]
    rw [Command.stripFrom_tag tag.isNoBracket_opening rfl tag.exists_opening_eq, ihInner,
      Command.stripFrom_tag tag.isNoBracket_closing rfl ⟨'<' :: '/' :: tag.label, rfl⟩, ihMore]

/-! ## Until only the texts are left -/

theorem strip_render (kind : Kind) (line : Marked) :
    strip kind line.render = (line.drop kind).render := by
  have hstrip {construct : Construct} (h : Finds construct kind) :
      construct.strip line.render = (line.drop kind).render := by
    have hrender := h.strip_render line []
    rwa [List.append_nil, Construct.strip, List.append_nil] at hrender
  cases kind with
  | ruby => exact hstrip finds_ruby
  | lineBreak => exact hstrip finds_lineBreak
  | command =>
    have hrender := stripCommands_render line []
    rwa [List.append_nil, Command.stripFrom, List.append_nil] at hrender
  | format => exact hstrip finds_format

namespace Marked

/-- What one pass leaves of a line. -/
def next (line : Marked) : Marked :=
  (((line.drop .ruby).drop .lineBreak).drop .command).drop .format

/-- How much markup there is in all. -/
def marks (line : Marked) : Nat :=
  line.count .ruby + line.count .lineBreak + line.count .command + line.count .format

theorem leaves_next (line : Marked) : line.next.leaves = line.leaves := by
  simp only [next, leaves_drop]

theorem marks_drop_le (kind : Kind) (line : Marked) : (line.drop kind).marks ≤ line.marks := by
  have hle (other : Kind) := count_drop_le kind other line
  exact Nat.add_le_add (Nat.add_le_add (Nat.add_le_add (hle _) (hle _)) (hle _)) (hle _)

theorem marks_drop_lt {kind : Kind} {line : Marked} (h : line.count kind ≠ 0) :
    (line.drop kind).marks < line.marks := by
  have hlt := count_drop_lt h
  have hle (other : Kind) := count_drop_le kind other line
  have hruby := hle .ruby
  have hbreak := hle .lineBreak
  have hcommand := hle .command
  have hformat := hle .format
  unfold marks
  cases kind <;> omega

/-- The first kind of which there is any markup makes the difference. -/
theorem marks_next_lt {line : Marked} (h : line.marks ≠ 0) : line.next.marks < line.marks := by
  have hle (line : Marked) (kind : Kind) := marks_drop_le kind line
  unfold next
  by_cases hruby : line.count .ruby = 0
  · rw [drop_eq_self hruby]
    by_cases hbreak : line.count .lineBreak = 0
    · rw [drop_eq_self hbreak]
      by_cases hcommand : line.count .command = 0
      · rw [drop_eq_self hcommand]
        refine marks_drop_lt fun hformat => h ?_
        rw [marks, hruby, hbreak, hcommand, hformat]
      · exact (hle _ _).trans_lt (marks_drop_lt hcommand)
    · exact ((hle _ _).trans (hle _ _)).trans_lt (marks_drop_lt hbreak)
  · exact (((hle _ _).trans (hle _ _)).trans (hle _ _)).trans_lt (marks_drop_lt hruby)

theorem render_of_marks_eq_zero {line : Marked} (h : line.marks = 0) :
    line.render = line.leaves := by
  induction line with
  | nil => rfl
  | text leaf isText rest ih => rw [render, leaves, ih h]
  | lineBreak form rest ih | command body isBody rest ih =>
    simp [marks, count] at h
  | element tag inner rest _ _ =>
    cases tag <;> simp [marks, count, ElementTag.kind] at h

end Marked

theorem pass_render (line : Marked) : pass line.render = line.next.render := by
  simp only [pass, strip_render, Marked.next]

theorem normalize_pass (text : List Char) : normalize (pass text) = normalize text := by
  by_cases hshorter : (pass text).length < text.length
  · rw [normalize.eq_1 text, if_pos hshorter]
  · rw [not_not.1 (mt length_pass_lt_iff.2 hshorter)]

/-- Of a line of well-formed markup the texts are left, one after the other. -/
theorem normalize_render (line : Marked) : normalize line.render = line.leaves := by
  induction hmarks : line.marks using Nat.strong_induction_on generalizing line with
  | _ marks ih =>
    by_cases hzero : line.marks = 0
    · have hnext : line.next = line := by
        simp only [Marked.marks, Nat.add_eq_zero_iff] at hzero
        obtain ⟨⟨⟨hruby, hbreak⟩, hcommand⟩, hformat⟩ := hzero
        rw [Marked.next, Marked.drop_eq_self hruby, Marked.drop_eq_self hbreak,
          Marked.drop_eq_self hcommand, Marked.drop_eq_self hformat]
      rw [normalize_eq_self (by rw [pass_render, hnext]), Marked.render_of_marks_eq_zero hzero]
    · have hlt := Marked.marks_next_lt hzero
      rw [← normalize_pass, pass_render, ih _ (hmarks ▸ hlt) line.next rfl, line.leaves_next]

end ScriptStats.Markup
