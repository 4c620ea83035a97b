import ScriptStats.Path
import ScriptStats.Proofs.Text.Pieces

/-!
# Paths and their texts

A path whose names hold no slash is read back from its text, so its text tells which path it is.
-/

namespace ScriptStats

namespace Path

/-- The names are such as are found in the text of a path. -/
def IsSpelt (path : Path) : Prop :=
  ∀ name ∈ path.names, isName name = true ∧ '/' ∉ name.toList

variable {path : Path}

theorem IsSpelt.child (h : path.IsSpelt) {name : String}
    (hname : isName name = true ∧ '/' ∉ name.toList) : (path.child name).IsSpelt :=
  List.forall_mem_append.2 ⟨h, List.forall_mem_singleton.2 hname⟩

theorem IsSpelt.not_slash (h : path.IsSpelt) :
    ∀ part ∈ path.names.map String.toList, ∀ c ∈ part, (c = '/' : Bool) = false := by
  refine List.forall_mem_map.2 fun name hname c hc => decide_eq_false ?_
  rintro rfl
  exact (h name hname).2 hc

theorem namesOf_append (anchor : Anchor) (text : List Char) :
    namesOf (anchor.text.toList ++ text) = namesOf text := by
  have hslash (text : List Char) : namesOf ('/' :: text) = namesOf text := by
    rw [namesOf, namesOf, Text.pieces_mark (· = '/') rfl]
    rfl
  cases anchor with
  | here => rfl
  | root => exact hslash text
  | doubleRoot => exact (hslash ('/' :: text)).trans (hslash text)

theorem anchorOf_append (anchor : Anchor) {text : List Char} {c : Char}
    (h : text.head? = some c) (hslash : c ≠ '/') : anchorOf (anchor.text.toList ++ text) = anchor := by
  obtain ⟨rest, rfl⟩ := List.head?_eq_some_iff.1 h
  have hrest : (c :: rest).takeWhile (· = '/') = [] := by
    rw [List.takeWhile_cons_of_neg (by simpa using hslash)]
  cases anchor with
  | here =>
    change anchorOf (c :: rest) = _
    rw [anchorOf, hrest]
    rfl
  | root =>
    change anchorOf ('/' :: c :: rest) = _
    rw [anchorOf, List.takeWhile_cons_of_pos (by rfl), hrest]
    rfl
  | doubleRoot =>
    change anchorOf ('/' :: '/' :: c :: rest) = _
    rw [anchorOf, List.takeWhile_cons_of_pos (by rfl), List.takeWhile_cons_of_pos (by rfl), hrest]
    rfl

/-- The names of a path, joined. -/
theorem IsSpelt.namesOf_intercalate (h : path.IsSpelt) (hnames : path.names ≠ []) :
    namesOf ("/".intercalate path.names).toList = path.names := by
  have hpieces : Text.pieces (· = '/') ("/".intercalate path.names).toList =
      path.names.map String.toList := by
    rw [String.toList_intercalate]
    exact Text.pieces_intercalate rfl (by simpa using hnames) h.not_slash
  rw [namesOf, hpieces, List.map_map]
  have hback : String.ofList ∘ String.toList = id := funext fun name => String.ofList_toList
  rw [hback, List.map_id]
  exact List.filter_eq_self.2 fun name hname => (h name hname).1

/-- What is written is read back. -/
theorem IsSpelt.ofString_text (h : path.IsSpelt) : ofString path.text = path := by
  obtain ⟨anchor, names⟩ := path
  cases names with
  | nil => cases anchor <;> rfl
  | cons name names =>
    obtain ⟨hname, hslash⟩ := h name (List.mem_cons_self ..)
    have hjoined : ∃ c, ("/".intercalate (name :: names)).toList.head? = some c ∧ c ≠ '/' := by
      obtain ⟨c, rest, hc⟩ := List.exists_cons_of_ne_nil
        (show name.toList ≠ [] by simpa [isName] using (Bool.and_eq_true_iff.1 hname).1)
      refine ⟨c, ?_, fun heq => hslash (hc ▸ heq ▸ List.mem_cons_self ..)⟩
      cases names <;> simp [hc]
    obtain ⟨c, hhead, hc⟩ := hjoined
    have htext : text ⟨anchor, name :: names⟩ = anchor.text ++ "/".intercalate (name :: names) :=
      if_neg fun hempty => List.cons_ne_nil _ _ hempty.2
    rw [htext, ofString, String.toList_append, namesOf_append, anchorOf_append anchor hhead hc,
      h.namesOf_intercalate (List.cons_ne_nil _ _)]

end Path

end ScriptStats
