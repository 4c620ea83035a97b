import Mathlib.Data.List.Forall2
import ScriptStats.Analysis.Aggregation
import ScriptStats.Proofs.Analysis.Job

/-!
# Contracts of jobs

A contract says what a job may ask and which replies it may count on, as far as what it has been told
so far. A job meets a contract if it asks nothing else as long as all replies are such, and comes to
nothing but what is promised. This is a property of the job alone: whoever gives the replies, and
whatever happens between two of them, may change at any time, as long as the replies are what the
contract says.
-/

namespace ScriptStats

/-- `κ` is what there is to be known of the replies so far. -/
structure Contract (κ : Type) where
  may : κ → Request → Prop
  expects : κ → (request : Request) → request.Reply → Prop
  learns : κ → (request : Request) → request.Reply → κ

/-- A request that is neither about a script nor about what is remembered of one. -/
def Request.IsQuiet : Request → Prop
  | .list _ | .identity _ | .directoryBound | .note _ => True
  | _ => False

/-- Whatever is known, quiet requests may be made. -/
def Contract.AllowsQuiet {κ : Type} (contract : Contract κ) : Prop :=
  ∀ k (request : Request), request.IsQuiet → contract.may k request

namespace Job

variable {α β κ : Type} {contract : Contract κ}

/-- From what is known at first, the job comes to nothing but what `Q` allows. -/
def Meets (contract : Contract κ) (Q : κ → α → Prop) : κ → Job α → Prop
  | k, done a => Q k a
  | k, ask request next => contract.may k request ∧ ∀ reply, contract.expects k request reply →
      Meets contract Q (contract.learns k request reply) (next reply)

section Rules

variable {P Q : κ → α → Prop} {R : κ → β → Prop} {k : κ}

theorem meets_pure {a : α} (h : Q k a) : Meets contract Q k (pure a) :=
  h

theorem Meets.mono {job : Job α} (h : Meets contract P k job) (hle : ∀ k a, P k a → Q k a) :
    Meets contract Q k job := by
  induction job generalizing k with
  | done a => exact hle k a h
  | ask request next ih => exact ⟨h.1, fun reply hreply => ih reply (h.2 reply hreply)⟩

theorem Meets.bind {job : Job α} {next : α → Job β} (h : Meets contract P k job)
    (hnext : ∀ k a, P k a → Meets contract R k (next a)) :
    Meets contract R k (job >>= next) := by
  change Meets contract R k (job.bind next)
  induction job generalizing k with
  | done a => exact hnext k a h
  | ask request rest ih => exact ⟨h.1, fun reply hreply => ih reply (h.2 reply hreply)⟩

/-- A request and all that comes after it. -/
theorem meets_send_bind {request : Request} {next : request.Reply → Job β}
    (hmay : contract.may k request) (hnext : ∀ reply, contract.expects k request reply →
      Meets contract R (contract.learns k request reply) (next reply)) :
    Meets contract R k (send request >>= next) :=
  ⟨hmay, hnext⟩

theorem meets_send {request : Request} {Q : κ → request.Reply → Prop}
    (hmay : contract.may k request)
    (hreply : ∀ reply, contract.expects k request reply → Q (contract.learns k request reply) reply) :
    Meets contract Q k (send request) :=
  ⟨hmay, hreply⟩

/-- Jobs of which each keeps its promise whatever is known, one after the other. -/
theorem meets_mapM {items : List α} {job : α → Job β} {P : α → β → Prop}
    (h : ∀ item ∈ items, ∀ k, Meets contract (fun _ => P item) k (job item)) (k : κ) :
    Meets contract (fun _ => List.Forall₂ P items) k (items.mapM job) := by
  induction items generalizing k with
  | nil => exact .nil
  | cons item items ih =>
    rw [List.forall_mem_cons] at h
    rw [List.mapM_cons]
    refine (h.1 k).bind fun k b hb => (ih h.2 k).bind fun k bs hbs => ?_
    exact List.Forall₂.cons hb hbs

end Rules

/-! ## Walks -/

section Walk

variable (h : contract.AllowsQuiet) (k : κ)
include h

theorem meets_note (source : LogSource) (level : LogLevel) (message : String) :
    Meets contract (fun _ _ => True) k (note source level message) :=
  meets_send (h k _ trivial) fun _ _ => trivial

theorem meets_admits (options : WalkOptions) (level : Nat) (met : Walk.Identities)
    (entry : Entry) :
    Meets contract (fun _ _ => True) k (Walk.admits options level met entry) := by
  unfold Walk.admits
  split
  · exact (meets_note h k _ _ _).bind fun _ _ _ => trivial
  split
  · exact (meets_note h k _ _ _).bind fun _ _ _ => trivial
  refine meets_send_bind (h k _ trivial) fun identity _ => ?_
  split
  · exact (meets_note h _ _ _ _).bind fun _ _ _ => trivial
  · trivial

theorem meets_keep (options : WalkOptions) (level : Nat) (met : Walk.Identities)
    (entries : List Entry) :
    Meets contract (fun _ _ => True) k (Walk.keep options level met entries) := by
  induction entries generalizing met k with
  | nil => trivial
  | cons entry entries ih =>
    unfold Walk.keep
    split
    · exact (meets_admits h k _ _ _ _).bind fun k _ _ => (ih k _).bind fun _ _ _ => trivial
    · exact (ih k met).bind fun _ _ _ => trivial

theorem meets_list (directory : Path) :
    Meets contract (fun _ _ => True) k (Walk.list directory) := by
  refine meets_send_bind (h k _ trivial) fun listed _ => ?_
  cases listed with
  | ok entries => trivial
  | error e => exact (meets_note h _ _ _ _).bind fun _ _ _ => trivial

theorem meets_enter (options : WalkOptions) (fuel : Nat) (met : Walk.Identities)
    (due : List (Path × Nat)) :
    Meets contract (fun _ _ => True) k (Walk.enter options fuel met due) := by
  induction fuel generalizing met due k with
  | zero => trivial
  | succ fuel ih =>
    cases due with
    | nil => trivial
    | cons next due =>
      refine (meets_list h k next.1).bind fun k entries _ => ?_
      exact (meets_keep h k _ _ _ _).bind fun k kept _ => (ih k _ _).bind fun _ _ _ => trivial

theorem meets_walk (options : WalkOptions) (root : Path) :
    Meets contract (fun _ _ => True) k (walk options root) := by
  refine meets_send_bind (h k _ trivial) fun bound _ => ?_
  refine meets_send_bind (h _ _ trivial) fun identity _ => ?_
  refine (meets_enter h _ _ _ _ _).bind fun k listings _ => ?_
  exact (meets_note h k _ _ _).bind fun _ _ _ => trivial

end Walk

end Job

/-! ## Trees -/

namespace Node

/-- The script at that path is in the tree, with these statistics. -/
inductive Shows : Node → String → Stats → Prop
  | itself {node : Node} : node.kind ≠ .directory → Shows node node.path node.stats
  | within {node child : Node} {text : String} {stats : Stats} :
      child ∈ node.children → Shows child text stats → Shows node text stats

/-- The statistics of all scripts of the tree are what `P` allows at their paths. -/
def Tells (P : String → FileStats → Prop) (node : Node) : Prop :=
  ∀ text stats, node.Shows text stats → ∃ found, stats = .file found ∧ P text found

variable {P : String → FileStats → Prop}

theorem tells_ofScript {entry : Entry} {stats : FileStats} (h : P entry.path.text stats) :
    (ofScript entry stats).Tells P := by
  intro text shown hshows
  cases hshows with
  | itself => exact ⟨stats, rfl, h⟩
  | within hchild => exact absurd hchild List.not_mem_nil

theorem tells_ofDirectory {path : Path} {children : List Node}
    (h : ∀ child ∈ children, child.Tells P) : (ofDirectory path children).Tells P := by
  intro text shown hshows
  cases hshows with
  | itself hkind => exact absurd rfl hkind
  | within hchild hshown => exact h _ hchild text shown hshown

/-- Whoever knows `P` of the scripts and goes from children to their parents, knows `Q` of every tree. -/
structure Carries (P : String → FileStats → Prop) (Q : Node → Prop) : Prop where
  script {entry : Entry} {stats : FileStats} : P entry.path.text stats → Q (ofScript entry stats)
  directory {path : Path} {children : List Node} : (∀ child ∈ children, Q child) →
    Q (ofDirectory path children)

theorem carries_tells : Carries P (Tells P) where
  script := tells_ofScript
  directory := tells_ofDirectory

end Node

namespace WaitingNodes

/-- All nodes that wait satisfy `Q`. -/
def Each (Q : Node → Prop) (waiting : WaitingNodes) : Prop :=
  ∀ found ∈ waiting, Q found.2

variable {Q : Node → Prop} {waiting : WaitingNodes} {path : Path} {node : Node}

theorem Each.lookup (h : Each Q waiting) (hlookup : List.lookup path waiting = some node) :
    Q node := by
  obtain ⟨before, after, rfl, -⟩ := List.lookup_eq_some_iff.1 hlookup
  exact h (path, node) (by simp)

theorem Each.take? (h : Each Q waiting) {rest : WaitingNodes}
    (htake : waiting.take? path = some (node, rest)) : Q node ∧ Each Q rest := by
  obtain ⟨found, hlookup, heq⟩ := Option.map_eq_some_iff.1 htake
  obtain ⟨rfl, rfl⟩ := Prod.mk.inj heq
  exact ⟨h.lookup hlookup, fun other hother => h other (List.mem_filter.1 hother).1⟩

theorem Each.put (h : Each Q waiting) (hnode : Q node) : Each Q (waiting.put path node) := by
  intro other hother
  rcases List.mem_cons.1 hother with rfl | hother
  · exact hnode
  · exact h other (List.mem_filter.1 hother).1

end WaitingNodes

namespace Aggregation

variable {P : String → FileStats → Prop}

/-- The statistics of the scripts among some entries are what `P` allows at their paths. -/
abbrev Fit (P : String → FileStats → Prop) (entries : List Entry) (stats : List FileStats) : Prop :=
  List.Forall₂ (fun (entry : Entry) found => P entry.path.text found)
    (entries.filter (!·.isDirectory)) stats

section Carrying

variable {Q : Node → Prop} (hcarries : Node.Carries P Q)
include hcarries

theorem each_children? {entries : List Entry} {stats : List FileStats}
    {waiting rest : WaitingNodes} {nodes : List Node} (hstats : Fit P entries stats)
    (hwaiting : waiting.Each Q)
    (h : children? entries stats waiting = some (nodes, rest)) :
    (∀ node ∈ nodes, Q node) ∧ rest.Each Q := by
  induction entries generalizing stats waiting nodes rest with
  | nil =>
    obtain ⟨rfl, rfl⟩ := Prod.mk.inj (Option.some_inj.1 h)
    exact ⟨fun _ hnode => absurd hnode List.not_mem_nil, hwaiting⟩
  | cons entry entries ih =>
    unfold children? at h
    split at h
    next hdirectory =>
      simp only [Option.bind_eq_bind, Option.bind_eq_some_iff, Option.pure_def,
        Option.some_inj] at h
      obtain ⟨⟨node, left⟩, htake, ⟨more, left'⟩, hmore, heq⟩ := h
      obtain ⟨rfl, rfl⟩ := Prod.mk.inj heq
      obtain ⟨hnode, hleft⟩ := hwaiting.take? htake
      rw [Fit, List.filter_cons_of_neg (by simp [hdirectory])] at hstats
      obtain ⟨hnodes, hrest⟩ := ih hstats hleft hmore
      exact ⟨List.forall_mem_cons.2 ⟨hnode, hnodes⟩, hrest⟩
    next hscript =>
      rw [Fit, List.filter_cons_of_pos (by simp [hscript])] at hstats
      cases hstats with
      | cons hentry hothers =>
        simp only [Option.bind_eq_bind, Option.bind_eq_some_iff, Option.pure_def,
          Option.some_inj] at h
        obtain ⟨⟨more, left⟩, hmore, heq⟩ := h
        obtain ⟨rfl, rfl⟩ := Prod.mk.inj heq
        obtain ⟨hnodes, hrest⟩ := ih hothers hwaiting hmore
        exact ⟨List.forall_mem_cons.2 ⟨hcarries.script hentry, hnodes⟩, hrest⟩

theorem each_assemble? {all : List Findings}
    (hall : ∀ found ∈ all, Fit P found.listing.entries found.stats) {waiting : WaitingNodes}
    (h : assemble? all = some waiting) : waiting.Each Q := by
  induction all generalizing waiting with
  | nil =>
    obtain rfl := Option.some_inj.1 h
    exact fun _ hfound => absurd hfound List.not_mem_nil
  | cons found all ih =>
    simp only [assemble?, Option.bind_eq_bind, Option.bind_eq_some_iff, Option.pure_def,
      Option.some_inj] at h
    obtain ⟨before, hbefore, ⟨nodes, rest⟩, hchildren, rfl⟩ := h
    obtain ⟨hfound, hothers⟩ := List.forall_mem_cons.1 hall
    obtain ⟨hnodes, hrest⟩ := each_children? hcarries hfound (ih hothers hbefore) hchildren
    exact hrest.put (hcarries.directory hnodes)

theorem each_root? {all : List Findings}
    (hall : ∀ found ∈ all, Fit P found.listing.entries found.stats) (root : Path) :
    Q ((root? root all).getD (Node.ofDirectory root [])) := by
  unfold root?
  cases hassemble : assemble? all with
  | none => exact hcarries.directory fun _ hchild => absurd hchild List.not_mem_nil
  | some waiting =>
    rw [Option.bind_some]
    cases hlookup : waiting.lookup root with
    | none => exact hcarries.directory fun _ hchild => absurd hchild List.not_mem_nil
    | some node =>
      exact (each_assemble? hcarries hall hassemble).lookup hlookup

end Carrying

theorem tells_root? {all : List Findings}
    (hall : ∀ found ∈ all, Fit P found.listing.entries found.stats) (root : Path) :
    ((root? root all).getD (Node.ofDirectory root [])).Tells P :=
  each_root? Node.carries_tells hall root

end Aggregation

namespace Job

variable {κ : Type} {contract : Contract κ} {P : String → FileStats → Prop} {withCache : Bool}
  (hscripts : ∀ path k, Meets contract (fun _ => P path.text) k (ScriptFile.stats withCache path))
include hscripts

theorem meets_analyze (listings : List Listing) (k : κ) :
    Meets contract (fun _ all => ∀ found ∈ all, Aggregation.Fit P found.listing.entries found.stats)
      k (Aggregation.analyze withCache listings) := by
  induction listings generalizing k with
  | nil => exact fun _ hfound => absurd hfound List.not_mem_nil
  | cons listing listings ih =>
    refine (ih k).bind fun k all hall => ?_
    have hstats : Meets contract (fun _ => Aggregation.Fit P listing.entries) k
        (listing.scripts.mapM fun entry => ScriptFile.stats withCache entry.path) :=
      meets_mapM (fun (entry : Entry) _ => hscripts entry.path) k
    exact hstats.bind fun k stats hfit => List.forall_mem_cons.2 ⟨hfit, hall⟩

/-- What is known of the statistics of each script, is known of the tree as far as it carries. -/
theorem meets_buildTree_of_carries {Q : Node → Prop} (hcarries : Node.Carries P Q)
    (hquiet : contract.AllowsQuiet) (options : WalkOptions) (root : Path) (k : κ) :
    Meets contract (fun _ tree => Q tree) k (buildTree options withCache root) := by
  refine (meets_walk hquiet k options root).bind fun k listings _ => ?_
  exact (meets_analyze hscripts listings k).bind fun k all hall =>
    Aggregation.each_root? hcarries hall root

/-- What holds of the statistics of each script, holds of all scripts of a tree. -/
theorem meets_buildTree (hquiet : contract.AllowsQuiet) (options : WalkOptions) (root : Path)
    (k : κ) :
    Meets contract (fun _ tree => tree.Tells P) k (buildTree options withCache root) :=
  meets_buildTree_of_carries hscripts Node.carries_tells hquiet options root k

end Job

end ScriptStats
