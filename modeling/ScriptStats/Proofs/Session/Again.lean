import ScriptStats.Json.Printer
import ScriptStats.Proofs.Session.Agree
import ScriptStats.Proofs.Session.DiskWorld
import ScriptStats.Proofs.Session.Unseen
import ScriptStats.Report.Text

/-!
# Refreshes on a disk, one after the other

A refresh writes its cache on the disk that the next one walks. If nothing of what it writes counts for
the walk, the next refresh comes to the same tree.
-/

namespace ScriptStats

open Program
open Moment (scriptsOf)

/-! ## A refresh as one on still files -/

namespace Disk

variable {disk left : Disk} {followLinks : Bool} {time : String} {options : WalkOptions} {root : Path}
  {listings : List Listing} {script : Path}

theorem isSpelt_of_mem_scriptsOf (hproper : disk.Proper)
    (hdirectory : disk.isDirectory root = .ok true) (hroot : root.IsSpelt)
    (hwalk : (disk.moment followLinks time).eval (walk options root) = .ok listings)
    (hscript : script ∈ scriptsOf listings) : script.IsSpelt := by
  obtain ⟨henters, -⟩ := enters_of_eval_walk hproper hdirectory hwalk
  obtain ⟨listing, hlisting, hscript⟩ := List.mem_flatMap.1 hscript
  obtain ⟨entry, hentry, rfl⟩ := List.mem_map.1 hscript
  have hreaches := henters.reaches (by simpa using StillFiles.Reaches.root) listing hlisting
  obtain ⟨depth, met, met', hkeeps⟩ := henters.keeps hlisting
  have hmem := hkeeps.sublist.subset (List.mem_filter.1 hentry).1
  exact isSpelt_of_mem hproper (entries_files hproper _ ▸ hmem) (isSpelt_of_reaches hreaches hroot)

/-- The files tell of a script what the disk tells, and so does a disk on which the script is as it
was. -/
theorem agrees_files (hproper : disk.Proper) (hscript : script.IsSpelt) (around : Moment)
    (hsame : left.read script = disk.read script ∧ left.signature script = disk.signature script) :
    (left.moment followLinks time).Agrees ((disk.files followLinks hproper).moment around) script where
  read {reply} h := by
    have h : (Session.possible (disk.read script) : Except Failure _) = .ok reply := hsame.1 ▸ h
    change Session.possible ((refusing (disk.read (.ofString script.text))).mapError Subtype.val) = _
    rw [hscript.ofString_text, mapError_refusing h, ← h, Session.possible_eq_ok h]
  signature {reply} h := by
    have h : (Session.possible (disk.signature script) : Except Failure _) = .ok reply := hsame.2 ▸ h
    change Session.possible
      ((refusing (disk.signature (.ofString script.text))).mapError Subtype.val) = _
    rw [hscript.ofString_text, mapError_refusing h, ← h, Session.possible_eq_ok h]

theorem toOption_refusing {α : Type} (found : Except FileError α) :
    ((refusing found).mapError Subtype.val).toOption = found.toOption := by
  cases found with
  | ok a => rfl
  | error e =>
    obtain ⟨refusal, hrefusing⟩ := @exists_refusing_error α e
    rw [hrefusing]
    rfl

theorem told?_files (hproper : disk.Proper) (hscript : script.IsSpelt) (around : Moment)
    (memory : Option Cache) : ((disk.files followLinks hproper).moment around).told? memory script =
      (disk.moment followLinks time).told? memory script := by
  change (((refusing (disk.signature (.ofString script.text))).mapError Subtype.val).toOption.bind _) =
    (disk.signature script).toOption.bind _
  rw [toOption_refusing, hscript.ofString_text]

theorem stats?_files (hproper : disk.Proper) (hscript : script.IsSpelt) (around : Moment) :
    ((disk.files followLinks hproper).moment around).stats? script =
      (disk.moment followLinks time).stats? script := by
  change (((refusing (disk.read (.ofString script.text))).mapError Subtype.val).toOption.bind _) =
    (disk.read script).toOption.bind _
  rw [toOption_refusing, hscript.ofString_text]

/-- A refresh that returns does the same on the files of a disk on which the workspace is as it is. -/
theorem outcome_refresh_files (hproper : disk.Proper) {desk last : Desk}
    (hroot : desk.session.root.IsSpelt) (hdirectory : disk.isDirectory desk.session.root = .ok true)
    {before : String} (hwalk : (disk.moment followLinks before).eval
      (walk desk.session.options desk.session.root) = .ok listings)
    (hagain : (left.moment followLinks time).eval
      (walk desk.session.options desk.session.root) = .ok listings)
    (hsame : ∀ script ∈ scriptsOf listings,
      left.read script = disk.read script ∧ left.signature script = disk.signature script)
    {depth : Nat} {result : Option Snapshot}
    (h : outcome (Session.refresh ((left.moment followLinks time).host depth)) desk =
      (.ok result, last)) :
    outcome (Session.refresh (((disk.files followLinks hproper).moment
      (disk.moment followLinks time)).host depth)) desk = (.ok result, last) := by
  refine Session.outcome_refresh_of_agrees h hdirectory hagain ?_ rfl fun script hscript => ?_
  · rw [StillFiles.eval_moment, run_walk_files hproper hdirectory hwalk]
  · have hspelt := isSpelt_of_mem_scriptsOf hproper hdirectory hroot hwalk hscript
    exact agrees_files hproper hspelt _ (hsame script hscript)

end Disk

/-! ## The cache with which the next refresh begins -/

/-- Where the cache tells the truth, it makes no difference that there is one. -/
theorem Moment.toldStats_eq_none {moment : Moment} {memory : Option Cache} {script : Path}
    (h : ∀ stats, moment.told? memory script = some stats → moment.stats? script = some stats) :
    moment.toldStats memory script = moment.toldStats none script := by
  have hnone : moment.told? none script = none := by
    unfold Moment.told?
    cases moment.signature script <;> rfl
  rw [toldStats, toldStats, hnone]
  cases htold : moment.told? memory script with
  | none => rfl
  | some stats =>
    rw [freshStats, h stats htold]
    rfl

namespace Session

variable {moment : Moment} {depth : Nat} {desk other last : Desk} {first second : Snapshot}

/-- The cache with which the session begins tells nothing of the scripts but what their statistics
are. -/
def IsTrusted (moment : Moment) (depth : Nat) (scripts : List Path) (desk : Desk) : Prop :=
  ∀ cache ∈ desk.opened? depth, ∀ script ∈ scripts, ∀ stats,
    moment.told? (some cache) script = some stats → moment.stats? script = some stats

theorem Repeats.tree_eq (h : Repeats moment depth desk first.tree)
    (hsecond : outcome (refresh (moment.host depth)) desk = (.ok (some second), last)) :
    second.tree = first.tree := by
  have hresult := h.publishes.result
  rw [hsecond] at hresult
  rcases hresult with hresult | ⟨failure, hresult, -⟩
  · obtain rfl : second = desk.session.next first.tree := Option.some_inj.1 (Except.ok.inj hresult)
    rfl
  · cases hresult

/-- Of scripts about which caches tell the truth, the same tree is built with any of them. -/
theorem tree_eq_of_isTrusted (files : StillFiles) (around : Moment)
    (hbyText : (files.moment around).ByText) (henabled : desk.session.cacheEnabled = true)
    {listings : List Listing}
    (hwalk : (files.moment around).eval (walk desk.session.options desk.session.root) = .ok listings)
    (htrusted : IsTrusted (files.moment around) depth (scriptsOf listings) desk)
    (hfirst : outcome (refresh ((files.moment around).host depth)) desk = (.ok (some first), last)) :
    first.tree = (Aggregation.root? desk.session.root
      (listings.map ((files.moment around).toldFindings none))).getD
        (Node.ofDirectory desk.session.root []) := by
  obtain ⟨before, after, hopened, -, hlearnt⟩ :=
    exists_learnt files around hbyText henabled (publishes_of_refresh henabled hfirst)
  obtain ⟨found, hfound, -, htree⟩ := hlearnt.exists_listings
  obtain rfl := Except.ok.inj (hwalk.symm.trans hfound)
  rw [htree]
  congr 2
  refine List.map_congr_left fun listing hlisting => congrArg (Findings.mk listing) ?_
  refine List.map_congr_left fun entry hentry => ?_
  have htold := htrusted before hopened _ (Moment.mem_scriptsOf listing hlisting entry hentry)
  exact Moment.toldStats_eq_none htold

end Session

namespace DiskWorld

/-- How a session comes to make the next refresh: it is the same session, or a new one that loads the
cache from the file, in which the first one has left what it knew, or else what both know is true. -/
inductive TakesUp (world left : DiskWorld) (listings : List Listing) (session : Session) : Prop
  | goesOn : session = left.session → TakesUp world left listings session
  | begins : session.ConfiguredLike world.session → session.cache = none →
      world.desk.SoundIn world.session.settings.cachePath 978 →
      (∀ after ∈ left.session.cache,
        after.dirty = false ∧ (Cache.document after.entries).hasWritableNumbers = true) →
      TakesUp world left listings session
  | trusts : session.ConfiguredLike world.session →
      Session.IsTrusted world.moment 980 (scriptsOf listings) world.desk →
      Session.IsTrusted world.moment 980 (scriptsOf listings) ⟨session, left.disk⟩ →
      TakesUp world left listings session

variable {settings : Disk → Path → Except SettingsFailure Settings} {world next left last : DiskWorld}
  {first second : Snapshot} {listings : List Listing}

theorem TakesUp.configuredLike (h : TakesUp world left listings next.session)
    (hleft : left.session.ConfiguredLike world.session) :
    next.session.ConfiguredLike world.session := by
  cases h with
  | goesOn hsame => exact hsame ▸ hleft
  | begins hlike | trusts hlike => exact hlike

/-- On files that nobody writes, the next refresh publishes the same tree. -/
theorem TakesUp.tree_eq (h : TakesUp world left listings next.session) {files : StillFiles}
    {around : Moment} (hbyText : (files.moment around).ByText) (hdisk : next.disk = left.disk)
    (hlike : next.session.ConfiguredLike world.session)
    (hwalk : (files.moment around).eval (walk world.session.options world.session.root) =
      .ok listings)
    (htrusts : ∀ desk, Session.IsTrusted world.moment 980 (scriptsOf listings) desk →
      Session.IsTrusted (files.moment around) 980 (scriptsOf listings) desk)
    (hfirst : outcome (Session.refresh ((files.moment around).host 980)) world.desk =
      (.ok (some first), left.desk)) {time : String}
    (hsecond : outcome (Session.refresh ((files.moment { around with time }).host 980)) next.desk =
      (.ok (some second), last.desk)) : second.tree = first.tree := by
  cases henabled : world.session.cacheEnabled with
  | false =>
    have htree := Session.eval_buildTree_of_refresh henabled hfirst
    have htree' := Session.eval_buildTree_of_refresh (hlike.cacheEnabled_eq.trans henabled) hsecond
    rw [StillFiles.eval_moment] at htree htree'
    change Except.ok (files.run (buildTree next.session.options false next.session.root)) = _ at htree'
    rw [hlike.options_eq, hlike.root_eq] at htree'
    exact Except.ok.inj (htree'.symm.trans htree)
  | true =>
    have hpublished := Session.publishes_of_refresh henabled hfirst
    cases h with
    | goesOn hsame =>
      have hrepeats := Session.repeats_left files around hbyText henabled hpublished time
      have hdesk : next.desk = left.desk := by rw [desk, hsame, hdisk]; rfl
      rw [hfirst, ← hdesk] at hrepeats
      exact hrepeats.tree_eq hsecond
    | begins _ hnone hfile hkept =>
      have hrepeats := Session.repeats_new files around hbyText henabled hpublished (by decide) hfile
        (by rw [hfirst]; exact hkept) hlike hnone time
      have hdesk : next.desk = ⟨next.session, left.disk⟩ := by rw [desk, hdisk]
      rw [hfirst, ← show next.desk = ⟨next.session, left.desk.disk⟩ from hdesk] at hrepeats
      exact hrepeats.tree_eq hsecond
    | trusts _ htrusted htrusted' =>
      have hdesk : next.desk = ⟨next.session, left.disk⟩ := by rw [desk, hdisk]
      have htree := Session.tree_eq_of_isTrusted files around hbyText henabled hwalk
        (htrusts _ htrusted) hfirst
      have hwalk' : (files.moment { around with time }).eval
          (walk next.session.options next.session.root) = .ok listings := by
        rw [hlike.options_eq, hlike.root_eq]
        rw [StillFiles.eval_moment] at hwalk ⊢
        exact hwalk
      have htree' := Session.tree_eq_of_isTrusted files { around with time } hbyText
        (hlike.cacheEnabled_eq.trans henabled) hwalk' (hdesk ▸ htrusts _ htrusted') hsecond
      rw [htree, htree']
      change (Aggregation.root? next.session.root _).getD (Node.ofDirectory next.session.root []) = _
      rw [hlike.root_eq]
      rfl

theorem tree_eq_of_unseen (hproper : world.disk.Proper) (hroot : world.session.root.IsSpelt)
    (hquiet : world.IsQuiet)
    (hfirst : outcome (Session.refresh (host settings)) world = (.ok (some first), left))
    (hwalk : world.moment.eval (walk world.session.options world.session.root) = .ok listings)
    (hunseen : world.disk.Unseen left.disk world.followLinks world.session.options world.session.root
      listings)
    (hdisk : next.disk = left.disk) (hlinks : next.followLinks = world.followLinks)
    (hquiet' : next.IsQuiet) (hsession : TakesUp world left listings next.session)
    (hsecond : outcome (Session.refresh (host settings)) next = (.ok (some second), last)) :
    second.tree = first.tree := by
  have hfirst' := @outcome_refresh world settings hquiet
  have hsecond' := @outcome_refresh next settings hquiet'
  rw [hfirst] at hfirst'
  rw [hsecond] at hsecond'
  have hmoment : next.moment = left.disk.moment world.followLinks next.time := by
    rw [moment, hdisk, hlinks]
  rw [hmoment] at hsecond'
  have hreturns := Session.returns_iff.1 hfirst'
  have hdirectory : world.disk.isDirectory world.session.root = .ok true := hreturns.isDirectory
  have hgrows : world.disk.Grows left.disk := hreturns.disk Disk.keeps_grows_writeText (.refl _)
  have hlike := hsession.configuredLike hreturns.configuredLike
  have hagain := @Disk.eval_walk_of_unseen _ _ _ _ _ _ next.time hproper hgrows hdirectory _ hwalk
    hunseen
  have hfiles := @Disk.outcome_refresh_files world.disk world.disk world.followLinks world.time
    listings hproper world.desk left.desk hroot hdirectory world.time hwalk hwalk
    (fun _ _ => ⟨rfl, rfl⟩) 980 (some first) hfirst'
  have hfiles' := @Disk.outcome_refresh_files world.disk left.disk world.followLinks next.time
    listings hproper next.desk last.desk (hlike.root_eq ▸ hroot) (hlike.root_eq ▸ hdirectory)
    world.time (hlike.root_eq ▸ hlike.options_eq ▸ hwalk) (hlike.root_eq ▸ hlike.options_eq ▸ hagain)
    hunseen.scripts 980 (some second) hsecond'
  refine @TakesUp.tree_eq world next left last first second listings hsession
    (world.disk.files world.followLinks hproper) world.moment (Disk.byText_files hproper _) hdisk
    hlike ?_ (fun desk htrusted cache hopened script hscript stats htold => ?_) hfiles next.time hfiles'
  · rw [StillFiles.eval_moment, Disk.run_walk_files hproper hdirectory hwalk]
  · have hspelt := Disk.isSpelt_of_mem_scriptsOf hproper hdirectory hroot hwalk hscript
    rw [Disk.told?_files hproper hspelt] at htold
    rw [Disk.stats?_files hproper hspelt]
    exact htrusted cache hopened script hscript stats htold

/-- If what a refresh has put on the disk is out of sight of its walk, the next refresh publishes the same
tree, whichever session makes it, and so its reports are the same. -/
theorem refresh_again (hproper : world.disk.Proper) (hroot : world.session.root.IsSpelt)
    (hquiet : world.IsQuiet)
    (hfirst : outcome (Session.refresh (host settings)) world = (.ok (some first), left))
    (hwalk : world.moment.eval (walk world.session.options world.session.root) = .ok listings)
    (hunseen : world.disk.Unseen left.disk world.followLinks world.session.options world.session.root
      listings)
    (hdisk : next.disk = left.disk) (hlinks : next.followLinks = world.followLinks)
    (hquiet' : next.IsQuiet) (hsession : TakesUp world left listings next.session)
    (hsecond : outcome (Session.refresh (host settings)) next = (.ok (some second), last)) :
    second.tree = first.tree ∧
      (∀ label unique showTree, Report.ofTree label second.tree unique showTree =
        Report.ofTree label first.tree unique showTree) ∧
      ∀ unique, (second.tree.toJson unique).pretty = (first.tree.toJson unique).pretty := by
  have htree := tree_eq_of_unseen hproper hroot hquiet hfirst hwalk hunseen hdisk hlinks hquiet' hsession
    hsecond
  rw [htree]
  exact ⟨rfl, fun _ _ _ => rfl, fun _ => rfl⟩

end DiskWorld

end ScriptStats
