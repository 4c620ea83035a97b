import Mathlib
import ScriptStats.Settings.Reading

/-!
# Which documents are refused

A document is refused for what it is at its root, for a depth or a number of workers that cannot be, or for
a number that is to be a text and has too many digits. All others give settings that make sense.
-/

namespace ScriptStats

namespace Binary64

theorem toInt?_eq_some_zero_iff {x : Binary64} :
    x.toInt? = some 0 ↔ ∃ negative exponent, x = .finite negative 0 exponent := by
  constructor
  · intro h
    cases x with
    | nan => cases h
    | infinite negative => cases h
    | finite negative m e =>
      have hpos : ∀ k, 0 < twoTo k := fun k => Nat.two_pow_pos k
      obtain ⟨n, hn, hzero⟩ := Option.map_eq_some_iff.1 h
      obtain ⟨magnitude, hmagnitude, hn⟩ := Option.bind_eq_some_iff.1 hn
      obtain rfl : n = 0 := by cases negative <;> simpa using hzero
      obtain rfl : magnitude = 0 := Int.natCast_eq_zero.1 (Option.some_inj.1 hn)
      have hm : m = 0 := by
        -- Neither way of scaling makes nothing out of a mantissa that is not zero.
        split at hmagnitude
        next =>
          obtain ⟨hmod, hdiv⟩ := Option.ite_none_right_eq_some.1 hmagnitude
          rw [← Nat.div_add_mod m (twoTo e.natAbs), Option.some_inj.1 hdiv, hmod, Nat.mul_zero]
        next => exact (Nat.mul_eq_zero.1 (Option.some_inj.1 hmagnitude)).resolve_right (hpos _).ne'
      exact ⟨negative, e, by rw [hm]⟩
  · rintro ⟨negative, e, rfl⟩
    cases negative <;> simp [toInt?]

end Binary64

namespace Settings

open Yaml

/-! ## Computations that fail for one reason -/

/-- The computation fails just if `P` holds, and then with `failure`. -/
def FailsIf {α : Type} (computed : Except SettingsFailure α) (failure : SettingsFailure) (P : Prop) :
    Prop :=
  ∀ e, computed = .error e ↔ e = failure ∧ P

section FailsIf

variable {α β : Type} {computed : Except SettingsFailure α} {failure : SettingsFailure} {P Q : Prop}

theorem failsIf_ok (a : α) (hP : ¬ P) : FailsIf (.ok a) failure P :=
  fun _ => ⟨nofun, fun h => absurd h.2 hP⟩

theorem failsIf_error (hP : P) : FailsIf (.error failure : Except SettingsFailure α) failure P := by
  intro e
  constructor
  · intro h
    exact ⟨(Except.error.inj h).symm, hP⟩
  · rintro ⟨rfl, -⟩
    rfl

theorem FailsIf.congr (h : FailsIf computed failure P) (hiff : P ↔ Q) : FailsIf computed failure Q :=
  fun e => (h e).trans (and_congr_right fun _ => hiff)

/-- What comes after a computation fails only if the computation does not. -/
theorem FailsIf.bind_eq_error_iff {next : α → Except SettingsFailure β} {e : SettingsFailure}
    (h : FailsIf computed failure P) (hnext : ∀ a, next a = .error e ↔ Q) :
    computed >>= next = .error e ↔ (e = failure ∧ P) ∨ (¬ P ∧ Q) := by
  rw [← h e]
  cases computed with
  | error e' =>
    have hP : P := ((h e').1 rfl).2
    change Except.error e' = Except.error e ↔ _
    simp [hP]
  | ok a =>
    have hP : ¬ P := fun hP => by cases (h failure).2 ⟨rfl, hP⟩
    change next a = .error e ↔ _
    simp [hP, hnext a]

theorem FailsIf.bind {next : α → Except SettingsFailure β} (h : FailsIf computed failure P)
    (hnext : ∀ a, FailsIf (next a) failure Q) : FailsIf (computed >>= next) failure (P ∨ Q) := by
  intro e
  rw [h.bind_eq_error_iff fun a => hnext a e]
  by_cases hP : P <;> simp [hP]

theorem FailsIf.map {f : α → β} (h : FailsIf computed failure P) :
    FailsIf (computed.map f) failure P := by
  intro e
  rw [← h e]
  cases computed with
  | error e' =>
    change Except.error e' = Except.error e ↔ Except.error e' = Except.error e
    rw [Except.error.injEq, Except.error.injEq]
  | ok a => exact ⟨nofun, nofun⟩

theorem exists_of_bind_eq_ok {next : α → Except SettingsFailure β} {b : β}
    (h : computed >>= next = .ok b) : ∃ a, computed = .ok a ∧ next a = .ok b := by
  cases computed with
  | error e => cases h
  | ok a => exact ⟨a, rfl, h⟩

/-- The items of a list are computed one by one up to the first that fails. -/
theorem FailsIf.mapM {f : α → Except SettingsFailure β} {R : α → Prop}
    (h : ∀ a, FailsIf (f a) failure (R a)) (items : List α) :
    FailsIf (items.mapM f) failure (∃ a ∈ items, R a) := by
  induction items with
  | nil => exact failsIf_ok _ (by simp)
  | cons a items ih =>
    rw [List.mapM_cons]
    -- What comes after the first item fails for the items that are left, whatever was found so far.
    have hrest : ∀ b, FailsIf (do let bs ← items.mapM f; pure (b :: bs)) failure
        ((∃ a ∈ items, R a) ∨ False) :=
      fun b => ih.bind fun bs => failsIf_ok (b :: bs) id
    exact ((h a).bind hrest).congr (by simp)

theorem mem_of_mapM_eq_ok {f : α → Except SettingsFailure β} {items : List α} {found : List β}
    (h : items.mapM f = .ok found) (b : β) : b ∈ found ↔ ∃ a ∈ items, f a = .ok b := by
  induction items generalizing found with
  | nil =>
    cases h
    simp
  | cons a items ih =>
    rw [List.mapM_cons] at h
    obtain ⟨first, hfirst, h⟩ := exists_of_bind_eq_ok h
    obtain ⟨rest, hrest, h⟩ := exists_of_bind_eq_ok h
    cases h
    simp [ih hrest, hfirst, eq_comm]

end FailsIf

/-! ## Texts and numbers -/

/-- The content is a whole number with more digits than can be written out. -/
def IsLong (content : Content) : Prop :=
  ∃ n, content = .scalar (.int n) ∧ Text.isWritable n = false

theorem failsIf_intText (n : Int) :
    FailsIf (intText n) .longNumber (Text.isWritable n = false) := by
  unfold intText
  cases Text.isWritable n with
  | true => exact failsIf_ok _ nofun
  | false => exact failsIf_error rfl

theorem isLong_int {n : Int} : IsLong (.scalar (.int n)) ↔ Text.isWritable n = false := by
  simp [IsLong]

theorem failsIf_scalarText? (scalar : Scalar) :
    FailsIf (scalarText? scalar) .longNumber (IsLong (.scalar scalar)) := by
  unfold scalarText?
  split
  next => exact failsIf_ok _ nofun
  next n => exact ((failsIf_intText n).map).congr isLong_int.symm
  next => exact failsIf_ok _ nofun
  next hint _ =>
    refine failsIf_ok _ ?_
    rintro ⟨n, hn, -⟩
    exact hint n (Content.scalar.inj hn)

theorem failsIf_itemText? (scalar : Scalar) :
    FailsIf (itemText? scalar) .longNumber (IsLong (.scalar scalar)) := by
  unfold itemText?
  split
  next => exact failsIf_ok _ nofun
  next => exact failsIf_scalarText? _

theorem failsIf_nonEmptyText? (content : Option Content) :
    FailsIf (nonEmptyText? content) .longNumber (∃ found ∈ content, IsLong found) := by
  have htext : FailsIf (contentText? content) .longNumber (∃ found ∈ content, IsLong found) := by
    unfold contentText?
    split
    next scalar => exact (failsIf_scalarText? scalar).congr (by simp)
    next hother =>
      refine failsIf_ok _ ?_
      rintro ⟨_, hfound, n, rfl, -⟩
      exact hother _ hfound
  exact (htext.bind fun text => failsIf_ok (P := False) _ id).congr (or_false _).to_iff

theorem failsIf_checkDepth (depth : Option Int) :
    FailsIf (checkDepth depth) negativeDepth (∃ n ∈ depth, n < 0) := by
  cases depth with
  | none => exact failsIf_ok _ (by simp)
  | some n =>
    unfold checkDepth
    dsimp only
    split
    next h => exact failsIf_error ⟨n, rfl, h⟩
    next h => exact failsIf_ok _ (by simpa using h)

theorem failsIf_checkWorkers (workers : Option Int) :
    FailsIf (checkWorkers workers) noWorkers (∃ n ∈ workers, n < 1) := by
  cases workers with
  | none => exact failsIf_ok _ (by simp)
  | some n =>
    unfold checkWorkers
    dsimp only
    split
    next h => exact failsIf_error ⟨n, rfl, h⟩
    next h => exact failsIf_ok _ (by simpa using h)

theorem checkDepth_eq_ok {depth checked : Option Int} (h : checkDepth depth = .ok checked) :
    checked = depth ∧ ∀ n ∈ checked, 0 ≤ n := by
  unfold checkDepth at h
  split at h
  next n =>
    split at h
    next => cases h
    next hn =>
      cases h
      exact ⟨rfl, by simpa using hn⟩
  next =>
    cases h
    exact ⟨rfl, nofun⟩

theorem checkWorkers_eq_ok {workers : Option Int} {n : Int} (h : checkWorkers workers = .ok n) :
    n = workers.getD 1 ∧ 1 ≤ n := by
  unfold checkWorkers at h
  split at h
  next =>
    split at h
    next => cases h
    next hn =>
      cases h
      exact ⟨rfl, Int.not_lt.1 hn⟩
  next =>
    cases h
    exact ⟨rfl, Int.le_refl 1⟩

/-! ## Collections -/

variable {root : Path} {document : Document} {fields : List (Nat × Nat)}

/-- The field is a mapping with a path that is a long number. -/
def HasLongPath (document : Document) (content : Option Content) : Prop :=
  ∃ fields, content = some (.mapping fields) ∧
    ∃ path ∈ document.field? fields "path", IsLong path

/-- The field is a list with a long number among its items. -/
def HasLongItem (document : Document) (content : Option Content) : Prop :=
  ∃ items, content = some (.list items) ∧ ∃ item ∈ items, IsLong (document.content item)

theorem failsIf_cacheSettings (root : Path) (document : Document) (content : Option Content) :
    FailsIf (cacheSettings root document content) .longNumber (HasLongPath document content) := by
  unfold cacheSettings
  split
  next fields =>
    refine ((failsIf_nonEmptyText? _).bind fun path => failsIf_ok (P := False) _ id).congr ?_
    simp [HasLongPath]
  next hother =>
    refine failsIf_ok _ ?_
    rintro ⟨fields, hfields, -⟩
    exact hother fields hfields

theorem failsIf_texts (document : Document) (content : Option Content) :
    FailsIf (texts document content) .longNumber (HasLongItem document content) := by
  unfold texts
  split
  next => exact failsIf_ok _ nofun
  next => exact failsIf_ok _ nofun
  next items =>
    refine (FailsIf.bind (FailsIf.mapM (R := fun item => IsLong (document.content item))
      (fun item => ?_) items) fun texts => failsIf_ok (P := False) _ id).congr ?_
    · split
      next scalar hscalar =>
        rw [hscalar]
        exact failsIf_itemText? scalar
      next hother =>
        refine failsIf_ok _ ?_
        rintro ⟨n, hn, -⟩
        exact hother _ hn
    · simp [HasLongItem]
  next hlist =>
    refine failsIf_ok _ ?_
    rintro ⟨items, hitems, -⟩
    exact hlist items hitems

/-- The field lists the text: as the only one, as one of its bytes, or as an item that is a text, a number
or a truth value. -/
inductive Lists (document : Document) : Option Content → RawText → Prop where
  | alone (text : RawText) : Lists document (some (.scalar (.text text))) text
  | byte {bytes : Bytes} {b : UInt8} : b ∈ bytes →
      Lists document (some (.scalar (.bytes bytes))) (RawText.ofString (toString b.toNat))
  | item {items : List Nat} {item : Nat} {scalar : Scalar} {text : RawText} : item ∈ items →
      document.content item = .scalar scalar → itemText? scalar = .ok (some text) →
      Lists document (some (.list items)) text

theorem mem_iff_of_texts {content : Option Content} {found : List RawText}
    (h : texts document content = .ok found) (text : RawText) :
    text ∈ found ↔ Lists document content text := by
  unfold texts at h
  split at h
  next s =>
    cases h
    rw [List.mem_singleton]
    constructor
    · rintro rfl
      exact .alone text
    · intro h
      cases h
      rfl
  next bytes =>
    cases h
    rw [List.mem_map]
    constructor
    · rintro ⟨b, hb, rfl⟩
      exact .byte hb
    · intro h
      cases h with
      | byte hb => exact ⟨_, hb, rfl⟩
  next items =>
    obtain ⟨texts, htexts, h⟩ := exists_of_bind_eq_ok h
    cases h
    simp only [List.mem_filterMap, id, exists_eq_right, mem_of_mapM_eq_ok htexts]
    constructor
    · rintro ⟨item, hitem, htext⟩
      split at htext
      next scalar hscalar => exact .item hitem hscalar htext
      next => cases htext
    · intro h
      cases h with
      | item hitem hscalar htext => exact ⟨_, hitem, by rw [hscalar]; exact htext⟩
  next htext hbytes hlist =>
    cases h
    constructor
    · intro h
      cases h
    · intro h
      cases h with
      | alone => exact absurd rfl (htext _)
      | byte => exact absurd rfl (hbytes _)
      | item => exact absurd rfl (hlist _)

/-! ## Roots -/

/-- The contents that stand for no settings at all. -/
inductive IsNothing : Content → Prop where
  | null : IsNothing (.scalar .null)
  | no : IsNothing (.scalar (.bool false))
  | zero : IsNothing (.scalar (.int 0))
  | floatZero (negative : Bool) (exponent : Int) :
      IsNothing (.scalar (.float (.finite negative 0 exponent)))
  | text : IsNothing (.scalar (.text []))
  | bytes : IsNothing (.scalar (.bytes []))
  | list : IsNothing (.list [])
  | pairs : IsNothing (.pairs [])
  | set : IsNothing (.set [])
  | mapping : IsNothing (.mapping [])

theorem isEmptyContent_iff {content : Content} : isEmptyContent content = true ↔ IsNothing content := by
  constructor
  · intro h
    unfold isEmptyContent at h
    split at h
    next => exact .null
    next b =>
      cases b with
      | true => cases h
      | false => exact .no
    next n => rw [of_decide_eq_true h]; exact .zero
    next x =>
      obtain ⟨negative, exponent, rfl⟩ := Binary64.toInt?_eq_some_zero_iff.1 (of_decide_eq_true h)
      exact .floatZero negative exponent
    next => rw [of_decide_eq_true h]; exact .text
    next => rw [of_decide_eq_true h]; exact .bytes
    next => cases h
    next => rw [of_decide_eq_true h]; exact .list
    next => rw [of_decide_eq_true h]; exact .pairs
    next => rw [of_decide_eq_true h]; exact .set
    next => rw [of_decide_eq_true h]; exact .mapping
  · intro h
    cases h with
    | floatZero negative exponent =>
      exact decide_eq_true (Binary64.toInt?_eq_some_zero_iff.2 ⟨negative, exponent, rfl⟩)
    | _ => rfl

/-- A document without fields is neither a mapping nor nothing. -/
theorem fields?_eq_none_iff : fields? document = none ↔
    (∀ fields, document.content document.root ≠ .mapping fields) ∧
      ¬ IsNothing (document.content document.root) := by
  unfold fields?
  split
  next fields hroot => simp [hroot]
  next hroot =>
    rw [← isEmptyContent_iff]
    split
    next hempty => simp [hempty]
    next hempty => simpa [hempty] using hroot

/-- What a document says under a name. -/
def setting (document : Document) (name : String) : Option Content :=
  (fields? document).bind (document.field? · name)

theorem setting_eq_none (h : fields? document = none) (name : String) :
    setting document name = none := by
  rw [setting, h]
  rfl

theorem field?_eq_setting (h : fields? document = some fields) (name : String) :
    document.field? fields name = setting document name := by
  rw [setting, h]
  rfl

/-! ## Documents -/

def HasLongExtension (document : Document) : Prop :=
  ∃ extension ∈ setting document "extension", IsLong extension

def HasNegativeDepth (document : Document) : Prop :=
  ∃ n ∈ int? (setting document "max_depth"), n < 0

def LacksWorkers (document : Document) : Prop :=
  ∃ n ∈ int? (setting document "workers"), n < 1

/-- The documents that give no settings, and why. The fields are looked at in this order. -/
inductive Refused (document : Document) : SettingsFailure → Prop where
  | root : (∀ fields, document.content document.root ≠ .mapping fields) →
      ¬ IsNothing (document.content document.root) → Refused document notMapping
  | extension : HasLongExtension document → Refused document .longNumber
  | maxDepth : ¬ HasLongExtension document → HasNegativeDepth document →
      Refused document negativeDepth
  | workers : ¬ HasLongExtension document → ¬ HasNegativeDepth document → LacksWorkers document →
      Refused document noWorkers
  | texts : ¬ HasLongExtension document → ¬ HasNegativeDepth document → ¬ LacksWorkers document →
      HasLongPath document (setting document "cache") ∨
        HasLongItem document (setting document "exclude_dirs") → Refused document .longNumber

theorem Refused.eq_notMapping {failure : SettingsFailure} (h : Refused document failure)
    (hfields : fields? document = none) : failure = notMapping := by
  -- There is nothing to be said under any name, so only the root is left.
  have hnone := setting_eq_none hfields
  cases h with
  | root => rfl
  | extension h => simp [HasLongExtension, hnone] at h
  | maxDepth _ h => simp [HasNegativeDepth, hnone, int?] at h
  | workers _ _ h => simp [LacksWorkers, hnone, int?] at h
  | texts _ _ _ h => simp [HasLongPath, HasLongItem, hnone] at h

/-- The fields are looked at one after another, each only if those before it are not refused. -/
theorem ofDocument_eq_error_iff_of_fields {failure : SettingsFailure}
    (hfields : fields? document = some fields) : ofDocument root document = .error failure ↔
      (failure = .longNumber ∧ HasLongExtension document) ∨ (¬ HasLongExtension document ∧
      ((failure = negativeDepth ∧ HasNegativeDepth document) ∨ (¬ HasNegativeDepth document ∧
      ((failure = noWorkers ∧ LacksWorkers document) ∨ (¬ LacksWorkers document ∧
      (failure = .longNumber ∧ (HasLongPath document (setting document "cache") ∨
        HasLongItem document (setting document "exclude_dirs")))))))) := by
  rw [ofDocument, hfields]
  simp only [field?_eq_setting hfields]
  refine (failsIf_nonEmptyText? _).bind_eq_error_iff fun extension =>
    (failsIf_checkDepth _).bind_eq_error_iff fun depth =>
    (failsIf_checkWorkers _).bind_eq_error_iff fun workers => ?_
  rw [← or_false (HasLongItem document (setting document "exclude_dirs"))]
  exact (failsIf_cacheSettings root document _).bind (fun cache =>
    (failsIf_texts document _).bind fun names => failsIf_ok _ id) failure

theorem ofDocument_eq_error_iff {failure : SettingsFailure} :
    ofDocument root document = .error failure ↔ Refused document failure := by
  cases hfields : fields? document with
  | none =>
    have hrefuse : ofDocument root document = .error notMapping := by
      rw [ofDocument, hfields]
      rfl
    rw [hrefuse]
    constructor
    · intro h
      rw [← Except.error.inj h]
      obtain ⟨hmapping, hnothing⟩ := fields?_eq_none_iff.1 hfields
      exact .root hmapping hnothing
    · intro h
      rw [h.eq_notMapping hfields]
  | some fields =>
    rw [ofDocument_eq_error_iff_of_fields hfields]
    constructor
    · rintro (⟨rfl, h⟩ | ⟨hextension, ⟨rfl, h⟩ | ⟨hdepth, ⟨rfl, h⟩ | ⟨hworkers, rfl, h⟩⟩⟩)
      · exact .extension h
      · exact .maxDepth hextension h
      · exact .workers hextension hdepth h
      · exact .texts hextension hdepth hworkers h
    · intro h
      cases h with
      | root hmapping hnothing =>
        rw [fields?_eq_none_iff.2 ⟨hmapping, hnothing⟩] at hfields
        cases hfields
      | extension h => exact .inl ⟨rfl, h⟩
      | maxDepth hextension h => exact .inr ⟨hextension, .inl ⟨rfl, h⟩⟩
      | workers hextension hdepth h => exact .inr ⟨hextension, .inr ⟨hdepth, .inl ⟨rfl, h⟩⟩⟩
      | texts hextension hdepth hworkers h =>
        exact .inr ⟨hextension, .inr ⟨hdepth, .inr ⟨hworkers, rfl, h⟩⟩⟩

/-- The settings make sense, and the numbers are those of the document. -/
structure Suits (root : Path) (document : Document) (settings : Settings) : Prop where
  root_eq : settings.root = root
  extension : settings.extension.toList.head? = some '.'
  maxDepth_eq : settings.maxDepth = int? (setting document "max_depth")
  maxDepth_nonneg : ∀ n ∈ settings.maxDepth, 0 ≤ n
  workers_eq : settings.workers = (int? (setting document "workers")).getD 1
  one_le_workers : 1 ≤ settings.workers
  mem_excludeDirs : ∀ name, name ∈ settings.excludeDirs ↔
    ∃ text, Lists document (setting document "exclude_dirs") text ∧ nameText text = name

theorem head?_withDot (extension : String) : (withDot extension).toList.head? = some '.' := by
  unfold withDot
  split
  next h => exact h
  next => simp

theorem suits_of_ofDocument {settings : Settings} (h : ofDocument root document = .ok settings) :
    Suits root document settings := by
  rw [ofDocument] at h
  cases hfields : fields? document with
  | none =>
    rw [hfields] at h
    cases h
  | some fields =>
    rw [hfields] at h
    simp only [field?_eq_setting hfields] at h
    obtain ⟨extension, -, h⟩ := exists_of_bind_eq_ok h
    obtain ⟨depth, hdepth, h⟩ := exists_of_bind_eq_ok h
    obtain ⟨workers, hworkers, h⟩ := exists_of_bind_eq_ok h
    obtain ⟨cache, -, h⟩ := exists_of_bind_eq_ok h
    obtain ⟨names, hnames, h⟩ := exists_of_bind_eq_ok h
    cases h
    exact
      { root_eq := rfl
        extension := head?_withDot _
        maxDepth_eq := (checkDepth_eq_ok hdepth).1
        maxDepth_nonneg := (checkDepth_eq_ok hdepth).2
        workers_eq := (checkWorkers_eq_ok hworkers).1
        one_le_workers := (checkWorkers_eq_ok hworkers).2
        mem_excludeDirs := fun name => by simp only [List.mem_map, mem_iff_of_texts hnames] }

end Settings

end ScriptStats
