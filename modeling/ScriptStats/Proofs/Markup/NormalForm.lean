import ScriptStats.Markup.Normal
import ScriptStats.Proofs.Markup.Element
import ScriptStats.Proofs.Markup.Pair
import ScriptStats.Proofs.Markup.Segment

/-!
# The normal form

Every kind of markup that is found makes the text a shorter one of the same characters in the same
order, so no kind can undo another and a pass that finds nothing is the end. What is left then
holds no markup in the sense of the grammar.
-/

namespace ScriptStats.Markup

/-! ## What one construct takes -/

namespace Construct

/-- Something is taken away and nothing is added. -/
def Drops (construct : Construct) : Prop :=
  ∀ text kept rest, construct.find text = some (kept, rest) →
    (kept ++ rest).Sublist text ∧ (kept ++ rest).length < text.length

variable {construct : Construct}

theorem strip_sublist (hdrops : construct.Drops) (text : List Char) :
    (construct.strip text).Sublist text := by
  fun_induction construct.strip text with
  | case1 => exact List.Sublist.slnil
  | case2 c text kept rest hfind ih =>
    exact ((List.Sublist.refl kept).append ih).trans (hdrops _ _ _ hfind).1
  | case3 c text hfind ih => exact ih.cons_cons c

/-- A text is left alone just when the construct is found nowhere in it. -/
theorem strip_eq_self_iff (hdrops : construct.Drops) (text : List Char) :
    construct.strip text = text ↔
      ∀ rest, rest <:+ text → rest ≠ [] → construct.find rest = none := by
  fun_induction construct.strip text with
  | case1 => simp
  | case2 c text kept rest hfind ih =>
    refine iff_of_false (fun h => ?_) (fun h => ?_)
    · have hshorter := (hdrops _ _ _ hfind).2
      have hsub := (strip_sublist hdrops rest).length_le
      have hlength := congrArg List.length h
      simp only [List.length_append] at hshorter hlength
      omega
    · simp [h _ List.suffix_rfl (by simp)] at hfind
  | case3 c text hfind ih =>
    rw [List.cons.injEq, ih]
    constructor
    · rintro ⟨-, h⟩ rest hrest hne
      rcases List.suffix_cons_iff.1 hrest with rfl | hrest
      · exact hfind
      · exact h rest hrest hne
    · exact fun h => ⟨rfl, fun rest hrest => h rest (hrest.trans (List.suffix_cons c text))⟩

end Construct

/-- What stands inside a piece of a text is left when the rest of the piece goes. -/
theorem sublist_and_length_lt {pre : List Char} (h : pre ≠ []) (inner post rest : List Char) :
    (inner ++ rest).Sublist (pre ++ (inner ++ post) ++ rest) ∧
      (inner ++ rest).length < (pre ++ (inner ++ post) ++ rest).length := by
  constructor
  · refine List.Sublist.append ?_ (List.Sublist.refl rest)
    exact (List.sublist_append_left inner post).trans (List.sublist_append_right pre _)
  · have := List.length_pos_of_ne_nil h
    simp only [List.length_append]
    omega

theorem drops_ruby : ruby.Drops := by
  intro text base rest h
  obtain ⟨_, ⟨spelled, assignment, close, -, -, -, -, rfl⟩, rfl⟩ := Ruby.element_of_find h
  simpa using sublist_and_length_lt (List.cons_ne_nil '<' (spelled ++ assignment)) base close rest

theorem drops_lineBreak : lineBreak.Drops := by
  intro text kept rest h
  obtain ⟨rfl, _, ⟨spelled, slash, close, -, -, -, rfl⟩, rfl⟩ := LineBreak.element_of_find h
  simpa using sublist_and_length_lt (List.cons_ne_nil '<' (spelled ++ (slash ++ close))) [] [] rest

theorem drops_format : format.Drops := by
  intro text inner rest h
  obtain ⟨_, ⟨name, -, opened, openEnd, close, -, -, -, -, rfl⟩, rfl⟩ := Format.pair_of_find h
  simpa using sublist_and_length_lt (List.cons_ne_nil '<' (opened ++ openEnd)) inner close rest

/-! ## What one pass takes -/

theorem strip_sublist (kind : Kind) (text : List Char) : (strip kind text).Sublist text := by
  cases kind with
  | ruby => exact Construct.strip_sublist drops_ruby text
  | lineBreak => exact Construct.strip_sublist drops_lineBreak text
  | command => exact Command.stripFrom_sublist false text
  | format => exact Construct.strip_sublist drops_format text

theorem pass_sublist (text : List Char) : (pass text).Sublist text :=
  (strip_sublist .format _).trans <| (strip_sublist .command _).trans <|
    (strip_sublist .lineBreak _).trans (strip_sublist .ruby text)

/-- A pass that changes nothing in the end has changed nothing on the way. -/
theorem pass_eq_self_iff {text : List Char} :
    pass text = text ↔ ∀ kind, strip kind text = text := by
  constructor
  · intro h
    have hruby := strip_sublist .ruby text
    have hbreak := strip_sublist .lineBreak (strip .ruby text)
    have hcommand := strip_sublist .command (strip .lineBreak (strip .ruby text))
    have hformat := strip_sublist .format (strip .command (strip .lineBreak (strip .ruby text)))
    change strip .format _ = text at h
    rw [h] at hformat
    have h₁ : strip .ruby text = text :=
      hruby.antisymm (hformat.trans (hcommand.trans hbreak))
    rw [h₁] at hbreak hcommand hformat h
    have h₂ : strip .lineBreak text = text := hbreak.antisymm (hformat.trans hcommand)
    rw [h₂] at hcommand hformat h
    have h₃ : strip .command text = text := hcommand.antisymm hformat
    rw [h₃] at h
    intro kind
    cases kind with
    | ruby => exact h₁
    | lineBreak => exact h₂
    | command => exact h₃
    | format => exact h
  · intro h
    rw [pass, h .ruby, h .lineBreak, h .command, h .format]

theorem length_pass_lt_iff {text : List Char} :
    (pass text).length < text.length ↔ pass text ≠ text := by
  have hsub := pass_sublist text
  refine ⟨fun hlt heq => by simp [heq] at hlt, fun hne => ?_⟩
  exact lt_of_le_of_ne hsub.length_le fun h => hne (hsub.eq_of_length h)

/-! ## Passes until nothing changes -/

/-- The loop over passes ends with `final` after `passes` of them: it stops at the first pass that
gives back what it was given. -/
inductive Settles : List Char → Nat → List Char → Prop where
  | still {text} : pass text = text → Settles text 1 text
  | again {text passes final} : pass text ≠ text → Settles (pass text) passes final →
      Settles text (passes + 1) final

theorem settles_normalize (text : List Char) :
    ∃ passes ≤ text.length + 1, Settles text passes (normalize text) := by
  fun_induction normalize text with
  | case1 text hlt ih =>
    obtain ⟨passes, hpasses, hsettles⟩ := ih
    exact ⟨passes + 1, by omega, .again (length_pass_lt_iff.1 hlt) hsettles⟩
  | case2 text hle =>
    exact ⟨1, by omega, .still (not_not.1 (mt length_pass_lt_iff.2 hle))⟩

theorem Settles.sublist {text final : List Char} {passes : Nat} (h : Settles text passes final) :
    final.Sublist text := by
  induction h with
  | still => exact List.Sublist.refl _
  | again _ _ ih => exact ih.trans (pass_sublist _)

theorem Settles.pass_eq {text final : List Char} {passes : Nat} (h : Settles text passes final) :
    pass final = final := by
  induction h with
  | still h => exact h
  | again _ _ ih => exact ih

theorem normalize_eq_self {text : List Char} (h : pass text = text) : normalize text = text := by
  rw [normalize, if_neg (by simp [h])]

/-! ## Texts without markup -/

/-- No piece of the text is markup. -/
structure IsPlain (text : List Char) : Prop where
  no_ruby : ∀ piece base, Ruby.Element piece base → ¬ piece <:+: text
  no_lineBreak : ∀ piece, LineBreak.Element piece → ¬ piece <:+: text
  no_command : ¬ Command.HoldsCommand false text
  no_pair : ∀ piece inner, Format.Pair piece inner → ¬ piece <:+: text

/-- Markup that is found just where a piece of a certain form stands is found nowhere if and only if
the text has no such piece. -/
theorem find_eq_none_iff {construct : Construct} (IsPiece : List Char → Prop)
    (hpiece : ∀ text found, construct.find text = some found →
      ∃ piece, IsPiece piece ∧ piece <+: text)
    (hfind : ∀ piece rest, IsPiece piece → (construct.find (piece ++ rest)).isSome = true)
    (hne : ∀ piece, IsPiece piece → piece ≠ []) (text : List Char) :
    (∀ rest, rest <:+ text → rest ≠ [] → construct.find rest = none) ↔
      ∀ piece, IsPiece piece → ¬ piece <:+: text := by
  constructor
  · rintro h piece hp ⟨before, after, rfl⟩
    have hsome := hfind piece after hp
    rw [h (piece ++ after) ⟨before, by simp⟩ (by simp [hne piece hp])] at hsome
    cases hsome
  · intro h rest hrest _
    rw [Option.eq_none_iff_forall_not_mem]
    intro found hfound
    obtain ⟨piece, hp, after, rfl⟩ := hpiece rest found hfound
    obtain ⟨before, rfl⟩ := hrest
    exact h piece hp ⟨before, after, by simp⟩

theorem strip_ruby_eq_self_iff {text : List Char} : strip .ruby text = text ↔
    ∀ piece base, Ruby.Element piece base → ¬ piece <:+: text := by
  refine (Construct.strip_eq_self_iff drops_ruby text).trans <|
    (find_eq_none_iff (fun piece => ∃ base, Ruby.Element piece base) ?_ ?_ ?_ text).trans
      (by simp)
  · rintro text ⟨base, rest⟩ h
    obtain ⟨piece, hp, rfl⟩ := Ruby.element_of_find h
    exact ⟨piece, ⟨base, hp⟩, List.prefix_append _ _⟩
  · rintro piece rest ⟨base, hp⟩
    exact Ruby.find_isSome_of_element hp rest
  · rintro _ ⟨base, spelled, assignment, close, -, -, -, -, rfl⟩
    simp

theorem strip_lineBreak_eq_self_iff {text : List Char} : strip .lineBreak text = text ↔
    ∀ piece, LineBreak.Element piece → ¬ piece <:+: text := by
  refine (Construct.strip_eq_self_iff drops_lineBreak text).trans (find_eq_none_iff _ ?_ ?_ ?_ text)
  · rintro text ⟨kept, rest⟩ h
    obtain ⟨-, piece, hp, rfl⟩ := LineBreak.element_of_find h
    exact ⟨piece, hp, List.prefix_append _ _⟩
  · exact fun piece rest hp => LineBreak.find_isSome_of_element hp rest
  · rintro _ ⟨spelled, slash, close, -, -, -, rfl⟩
    simp

theorem strip_format_eq_self_iff {text : List Char} : strip .format text = text ↔
    ∀ piece inner, Format.Pair piece inner → ¬ piece <:+: text := by
  refine (Construct.strip_eq_self_iff drops_format text).trans <|
    (find_eq_none_iff (fun piece => ∃ inner, Format.Pair piece inner) ?_ ?_ ?_ text).trans
      (by simp)
  · rintro text ⟨inner, rest⟩ h
    obtain ⟨piece, hp, rfl⟩ := Format.pair_of_find h
    exact ⟨piece, ⟨inner, hp⟩, List.prefix_append _ _⟩
  · rintro piece rest ⟨inner, hp⟩
    exact Format.find_isSome_of_pair hp rest
  · rintro _ ⟨inner, name, -, opened, openEnd, close, -, -, -, -, rfl⟩
    simp

theorem isPlain_iff {text : List Char} : IsPlain text ↔ ∀ kind, strip kind text = text := by
  constructor
  · intro h kind
    cases kind with
    | ruby => exact strip_ruby_eq_self_iff.2 h.no_ruby
    | lineBreak => exact strip_lineBreak_eq_self_iff.2 h.no_lineBreak
    | command => exact Command.stripFrom_eq_self_iff.2 h.no_command
    | format => exact strip_format_eq_self_iff.2 h.no_pair
  · intro h
    exact ⟨strip_ruby_eq_self_iff.1 (h .ruby), strip_lineBreak_eq_self_iff.1 (h .lineBreak),
      Command.stripFrom_eq_self_iff.1 (h .command), strip_format_eq_self_iff.1 (h .format)⟩

/-- A text that holds no markup is its own normal form. -/
theorem normalize_eq_self_iff {text : List Char} : normalize text = text ↔ IsPlain text := by
  rw [isPlain_iff, ← pass_eq_self_iff]
  refine ⟨fun h => ?_, normalize_eq_self⟩
  obtain ⟨passes, -, hsettles⟩ := settles_normalize text
  rw [h] at hsettles
  exact hsettles.pass_eq

/-- The loop over passes ends, with what is left of the text when all markup is gone. -/
theorem normalize_is_normal_form (text : List Char) :
    (∃ passes ≤ text.length + 1, Settles text passes (normalize text)) ∧
      (normalize text).Sublist text ∧
      (∀ kind, strip kind (normalize text) = normalize text) ∧
      IsPlain (normalize text) ∧
      normalize (normalize text) = normalize text := by
  obtain ⟨passes, hpasses, hsettles⟩ := settles_normalize text
  have hstrip := pass_eq_self_iff.1 hsettles.pass_eq
  exact ⟨⟨passes, hpasses, hsettles⟩, hsettles.sublist, hstrip, isPlain_iff.2 hstrip,
    normalize_eq_self hsettles.pass_eq⟩

end ScriptStats.Markup
