import ScriptStats.Markup.Normal

/-!
# Marked lines

Lines of well-formed markup: texts, line breaks, inline commands, and elements that hold such lines
themselves. A line of this kind has a written form, the text that is meant by it, and one thing
after the other can be taken out of it.
-/

namespace ScriptStats.Markup

open Text

/-! ## Parts -/

/-- A character that begins no markup and keeps none from beginning. -/
def IsTextChar (c : Char) : Prop :=
  c ≠ '<' ∧ c ≠ '[' ∧ c ≠ '\\'

/-- A character that may stand in an inline command. -/
def IsBodyChar (c : Char) : Prop :=
  c ≠ '[' ∧ c ≠ ']' ∧ c ≠ '<' ∧ c ≠ '\\'

/-- A character that may stand in the value of a tag. -/
def IsValueChar (c : Char) : Prop :=
  c ≠ '"' ∧ c ≠ '\'' ∧ c ≠ '<' ∧ c ≠ '>' ∧ c ≠ '[' ∧ c ≠ ']'

/-- A value as it is written: between quotes, or without them and then with no blank in it. -/
inductive WrittenValue : List Char → Prop where
  | quoted {quote : Char} {inner : List Char} (hq : quote = '"' ∨ quote = '\'')
      (hi : ∀ c ∈ inner, IsValueChar c) : WrittenValue (quote :: (inner ++ [quote]))
  | bare {value : List Char} (hne : value ≠ [])
      (hv : ∀ c ∈ value, IsValueChar c ∧ isBlank c = false) : WrittenValue value

/-- The value of a tag. -/
structure Value where
  text : List Char
  written : WrittenValue text

/-- The three ways to write a line break. -/
inductive BreakForm where
  | plain
  | slashed
  | spaced
  deriving DecidableEq, Repr

def BreakForm.text : BreakForm → List Char
  | plain => ['<', 'b', 'r', '>']
  | slashed => ['<', 'b', 'r', '/', '>']
  | spaced => ['<', 'b', 'r', ' ', '/', '>']

/-- The tags of an element. A format tag bears any of the names, in small letters and capitals. -/
inductive ElementTag where
  | ruby (value : Value)
  | format (name : List Char) (isName : name.map Char.toLower ∈ Format.names)
      (value : Option Value)

namespace ElementTag

def kind : ElementTag → Kind
  | ruby _ => .ruby
  | format .. => .format

def label : ElementTag → List Char
  | ruby _ => Ruby.name
  | format name .. => name

/-- What follows the name in the opening tag. -/
def tail : ElementTag → List Char
  | ruby value => '=' :: (value.text ++ ['>'])
  | format _ _ (some value) => '=' :: (value.text ++ ['>'])
  | format _ _ none => ['>']

def opening (tag : ElementTag) : List Char :=
  '<' :: (tag.label ++ tag.tail)

def closing (tag : ElementTag) : List Char :=
  '<' :: '/' :: (tag.label ++ ['>'])

end ElementTag

/-! ## Lines -/

/-- A line of well-formed markup: nothing, or a first node and the rest of the line. -/
inductive Marked where
  | nil
  | text (leaf : List Char) (isText : ∀ c ∈ leaf, IsTextChar c) (rest : Marked)
  | lineBreak (form : BreakForm) (rest : Marked)
  | command (body : List Char) (isBody : ∀ c ∈ body, IsBodyChar c) (rest : Marked)
  | element (tag : ElementTag) (inner rest : Marked)

namespace Marked

/-- The line as it is written. -/
def render : Marked → List Char
  | nil => []
  | text leaf _ rest => leaf ++ rest.render
  | lineBreak form rest => form.text ++ rest.render
  | command body _ rest => '[' :: (body ++ ']' :: rest.render)
  | element tag inner rest => tag.opening ++ (inner.render ++ (tag.closing ++ rest.render))

/-- The texts of the line, one after the other. -/
def leaves : Marked → List Char
  | nil => []
  | text leaf _ rest => leaf ++ rest.leaves
  | lineBreak _ rest => rest.leaves
  | command _ _ rest => rest.leaves
  | element _ inner rest => inner.leaves ++ rest.leaves

protected def append : Marked → Marked → Marked
  | nil, other => other
  | text leaf isText rest, other => text leaf isText (rest.append other)
  | lineBreak form rest, other => lineBreak form (rest.append other)
  | command body isBody rest, other => command body isBody (rest.append other)
  | element tag inner rest, other => element tag inner (rest.append other)

instance : Append Marked :=
  ⟨Marked.append⟩

/-- How much markup of a kind there is. -/
def count (kind : Kind) : Marked → Nat
  | nil => 0
  | text _ _ rest => rest.count kind
  | lineBreak _ rest => (if kind = .lineBreak then 1 else 0) + rest.count kind
  | command _ _ rest => (if kind = .command then 1 else 0) + rest.count kind
  | element tag inner rest => (if tag.kind = kind then 1 else 0) + inner.count kind + rest.count kind

/-- Takes out the markup of a kind. Of elements that stand inside one another only those inmost
give way to what they hold. -/
def drop (kind : Kind) : Marked → Marked
  | nil => nil
  | text leaf isText rest => text leaf isText (rest.drop kind)
  | lineBreak form rest =>
    if kind = .lineBreak then rest.drop kind else lineBreak form (rest.drop kind)
  | command body isBody rest =>
    if kind = .command then rest.drop kind else command body isBody (rest.drop kind)
  | element tag inner rest =>
    if tag.kind = kind ∧ inner.count kind = 0 then inner ++ rest.drop kind
    else element tag (inner.drop kind) (rest.drop kind)

/-! ### Lines one after the other -/

section Append

variable (line other : Marked)

theorem render_append : (line ++ other).render = line.render ++ other.render := by
  change (line.append other).render = _
  induction line with
  | nil => rfl
  | _ => simp_all [Marked.append, render]

theorem leaves_append : (line ++ other).leaves = line.leaves ++ other.leaves := by
  change (line.append other).leaves = _
  induction line with
  | nil => rfl
  | _ => simp_all [Marked.append, leaves]

theorem count_append (kind : Kind) :
    (line ++ other).count kind = line.count kind + other.count kind := by
  change (line.append other).count kind = _
  induction line with
  | nil => exact (Nat.zero_add _).symm
  | text leaf isText rest ih => exact ih
  | lineBreak _ rest ih | command _ _ rest ih | element _ _ rest _ ih =>
    simp only [Marked.append, count, ih]
    omega

end Append

/-! ### What is taken out -/

theorem leaves_drop (kind : Kind) (line : Marked) : (line.drop kind).leaves = line.leaves := by
  induction line with
  | nil => rfl
  | text leaf isText rest ih => rw [drop, leaves, leaves, ih]
  | lineBreak _ rest ih | command _ _ rest ih =>
    rw [drop]
    split <;> simpa only [leaves] using ih
  | element tag inner rest ihInner ihRest =>
    rw [drop]
    split
    · rw [leaves_append, leaves, ihRest]
    · rw [leaves, leaves, ihInner, ihRest]

theorem count_drop_le (kind other : Kind) (line : Marked) :
    (line.drop kind).count other ≤ line.count other := by
  induction line with
  | nil => exact Nat.le_refl _
  | text leaf isText rest ih => exact ih
  | lineBreak _ rest ih | command _ _ rest ih =>
    rw [drop]
    split <;> simp only [count] <;> omega
  | element tag inner rest ihInner ihRest =>
    rw [drop]
    split
    · rw [count_append, count]
      omega
    · rw [count, count]
      omega

theorem drop_eq_self {kind : Kind} {line : Marked} (h : line.count kind = 0) :
    line.drop kind = line := by
  induction line with
  | nil => rfl
  | text leaf isText rest ih => rw [drop, ih h]
  | lineBreak _ rest ih | command _ _ rest ih =>
    rw [count, Nat.add_eq_zero_iff] at h
    rw [drop, if_neg (by simpa using h.1), ih h.2]
  | element tag inner rest ihInner ihRest =>
    simp only [count, Nat.add_eq_zero_iff] at h
    obtain ⟨⟨htag, hinner⟩, hrest⟩ := h
    have hkind : tag.kind ≠ kind := by simpa using htag
    rw [drop, if_neg fun hfound => hkind hfound.1, ihInner hinner, ihRest hrest]

/-- Something goes if there is anything of the kind. -/
theorem count_drop_lt {kind : Kind} {line : Marked} (h : line.count kind ≠ 0) :
    (line.drop kind).count kind < line.count kind := by
  induction line with
  | nil => exact absurd rfl h
  | text leaf isText rest ih => exact ih h
  | lineBreak _ rest ih | command _ _ rest ih =>
    have hle := count_drop_le kind kind rest
    rw [drop]
    split
    next hkind =>
      simp only [count, if_pos hkind]
      omega
    next hkind =>
      simp only [count, if_neg hkind, Nat.zero_add] at h ⊢
      exact ih h
  | element tag inner rest ihInner ihRest =>
    have hinner := count_drop_le kind kind inner
    have hrest := count_drop_le kind kind rest
    rw [drop]
    split
    next hfound =>
      rw [count_append, count, if_pos hfound.1]
      omega
    next hkept =>
      -- An element that stays holds another one, or it is of a different kind.
      by_cases hzero : inner.count kind = 0
      · have hkind : ¬ tag.kind = kind := fun hkind => hkept ⟨hkind, hzero⟩
        simp only [count, if_neg hkind, hzero, Nat.zero_add] at h ⊢
        have := ihRest h
        omega
      · have := ihInner hzero
        rw [count, count]
        omega

end Marked

end ScriptStats.Markup
