import TemplateBatch.Proofs.Crew

/-!
Hosts that stage into one directory at the same time do not get in each other's way. What carries
this is that every draft has a place of its own, and that a staged file is missing or complete
whenever anybody looks, however long ago it was looked at last.
-/
namespace TemplateBatch.Staging

open FileTree (Names DirectoryAt KeepsWays)

variable {ι : Type}

namespace Ground

variable {m : Machine} {layout : Layout} (g : Ground m layout) (stock : Stock)

/-- The staged files, the drafts in hand and whatever was there before make up the tree, and no two
hosts have their drafts at one place. -/
structure Sound (t : FileTree) (draft : ι → Option (Path × Node)) : Prop where
  staged : ∀ a, t.node? (g.place a) = none ∨ t.node? (g.place a) = some (stock.file a)
  drafts : ∀ i path n, draft i = some (path, n) → ∃ l, g.Draft path l
  present : ∀ i l n, g.Desk (draft i) l n → t.node? l = some n
  apart : ∀ i j l n n', g.Desk (draft i) l n → g.Desk (draft j) l n' → i = j
  elsewhere : ∀ l, (∀ a, l ≠ g.place a) → (∀ i n, ¬ g.Desk (draft i) l n) →
    t.node? l = g.tree.node? l
  isFile : ∀ i path n, draft i = some (path, n) → ¬ n.IsWay

variable {g stock} {t t' : FileTree} {draft : ι → Option (Path × Node)}

theorem Desk.free {d : Option (Path × Node)} {l : Location} {n : Node} (h : g.Desk d l n) :
    g.tree.node? l = none := by
  obtain ⟨_, _, hdraft⟩ := h
  exact hdraft.free

theorem Desk.apart {d : Option (Path × Node)} {l : Location} {n : Node} (h : g.Desk d l n)
    (a : Artifact) : l ≠ g.place a := by
  obtain ⟨_, _, hdraft⟩ := h
  exact hdraft.apart a

theorem sound_tree : g.Sound stock g.tree fun _ : ι => none where
  staged a := Or.inl (g.free a)
  drafts _ _ _ h := by cases h
  present _ _ _ hdesk := absurd hdesk not_desk_none
  apart _ _ _ _ _ hdesk := absurd hdesk not_desk_none
  elsewhere _ _ _ := rfl
  isFile _ _ _ h := by cases h

theorem Sound.supports (h : g.Sound stock t draft) : g.Supports stock t where
  kept l n hn := by
    rw [h.elsewhere l ?_ ?_, hn]
    · rintro a rfl
      simp [g.free a] at hn
    · intro i n' hdesk
      simp [hdesk.free] at hn
  ways l n hn hway := by
    rw [← h.elsewhere l ?_ ?_, hn]
    · rintro a rfl
      rcases h.staged a with hnone | hsome
      · simp [hnone] at hn
      · rw [hsome] at hn
        cases Option.some.inj hn
        exact hway
    · intro i n' hdesk
      obtain rfl : n' = n := Option.some.inj ((h.present i l n' hdesk).symm.trans hn)
      obtain ⟨path, hd, _⟩ := hdesk
      exact h.isFile i path n' hd hway
  staged := h.staged

theorem Sound.drafted (h : g.Sound stock t draft) {i : ι} {p : Phase}
    (hp : draft i = p.draft? stock) : Drafted g stock p t := by
  intro path n hd
  obtain ⟨l, hdraft⟩ := h.drafts i path n (hp.trans hd)
  exact ⟨l, hdraft, h.present i l n ⟨path, hp.trans hd, hdraft⟩⟩

theorem isFile_draft? {p : Phase} {path : Path} {n : Node}
    (h : p.draft? stock = some (path, n)) : ¬ n.IsWay := by
  cases p <;> cases h <;> exact id

section Change
variable (h : g.Sound stock t draft) {i : ι} {d' : Option (Path × Node)}
  (hchange : Change g stock t (draft i) d' t')
include h

theorem Sound.not_desk_of_ne {j : ι} (hj : j ≠ i) {l : Location} {n : Node}
    (hdesk : g.Desk (draft j) l n) (n' : Node) : ¬ g.Desk (draft i) l n' :=
  fun hdesk' => hj (h.apart j i l n n' hdesk hdesk')

include hchange

theorem Sound.not_desk_change {j : ι} (hj : j ≠ i) {l : Location} {n : Node}
    (hdesk : g.Desk (draft j) l n) (n' : Node) : ¬ g.Desk d' l n' := by
  intro hdesk'
  rcases hchange.fresh l n' hdesk' with ⟨old, hold⟩ | hfree
  · exact h.not_desk_of_ne hj hdesk old hold
  · simp [h.present j l n hdesk] at hfree

variable [DecidableEq ι]

theorem Sound.drafts_change (j : ι) (path : Path) (n : Node)
    (hd : Function.update draft i d' j = some (path, n)) : ∃ l, g.Draft path l := by
  by_cases hj : j = i
  · subst hj
    rw [Function.update_self] at hd
    exact hchange.drafts path n hd
  · rw [Function.update_of_ne hj] at hd
    exact h.drafts j path n hd

theorem Sound.present_change (j : ι) (l : Location) (n : Node)
    (hdesk : g.Desk (Function.update draft i d' j) l n) : t'.node? l = some n := by
  by_cases hj : j = i
  · subst hj
    rw [Function.update_self] at hdesk
    exact hchange.present l n hdesk
  · rw [Function.update_of_ne hj] at hdesk
    rw [hchange.frame l hdesk.apart (h.not_desk_of_ne hj hdesk) (h.not_desk_change hchange hj hdesk)]
    exact h.present j l n hdesk

theorem Sound.apart_change (j k : ι) (l : Location) (n n' : Node)
    (hdesk : g.Desk (Function.update draft i d' j) l n)
    (hdesk' : g.Desk (Function.update draft i d' k) l n') : j = k := by
  by_cases hj : j = i <;> by_cases hk : k = i
  · rw [hj, hk]
  · rw [hj, Function.update_self] at hdesk
    rw [Function.update_of_ne hk] at hdesk'
    exact absurd hdesk (h.not_desk_change hchange hk hdesk' n)
  · rw [Function.update_of_ne hj] at hdesk
    rw [hk, Function.update_self] at hdesk'
    exact absurd hdesk' (h.not_desk_change hchange hj hdesk n')
  · rw [Function.update_of_ne hj] at hdesk
    rw [Function.update_of_ne hk] at hdesk'
    exact h.apart j k l n n' hdesk hdesk'

theorem Sound.elsewhere_change (l : Location) (hplaces : ∀ a, l ≠ g.place a)
    (hdesks : ∀ j n, ¬ g.Desk (Function.update draft i d' j) l n) :
    t'.node? l = g.tree.node? l := by
  have hnew : ∀ n, ¬ g.Desk d' l n := by
    intro n
    have hself := hdesks i n
    rwa [Function.update_self] at hself
  by_cases hold : ∃ n, g.Desk (draft i) l n
  · obtain ⟨n, hdesk⟩ := hold
    rcases hchange.left l n hdesk with ⟨new, hdesk'⟩ | hfree
    · exact absurd hdesk' (hnew new)
    · rw [hfree, hdesk.free]
  · rw [hchange.frame l hplaces (not_exists.mp hold) hnew]
    refine h.elsewhere l hplaces fun j n => ?_
    by_cases hj : j = i
    · exact hj ▸ not_exists.mp hold n
    · have hother := hdesks j n
      rwa [Function.update_of_ne hj] at hother

/-- The step of one host leaves the drafts of all others where they are. -/
theorem Sound.change (hfile : ∀ path n, d' = some (path, n) → ¬ n.IsWay) :
    g.Sound stock t' (Function.update draft i d') where
  staged := hchange.staged
  drafts := h.drafts_change hchange
  present := h.present_change hchange
  apart := h.apart_change hchange
  elsewhere := h.elsewhere_change hchange
  isFile j path n hd := by
    by_cases hj : j = i
    · subst hj
      rw [Function.update_self] at hd
      exact hfile path n hd
    · rw [Function.update_of_ne hj] at hd
      exact h.isFile j path n hd

end Change

end Ground

/-- The staging directory need not be there yet. -/
def Task.isEarly : Task → Bool
  | .passing _ p => p == .opening
  | _ => true

theorem Task.draft?_of_isEarly {stock : Stock} {task : Task} (h : task.isEarly = true) :
    task.draft? stock = none := by
  cases task with
  | passing more p =>
    obtain rfl : p = .opening := by simpa [isEarly] using h
    rfl
  | _ => rfl

namespace Host

/-- All calls of this host have been answered with the staged paths, but for one that a pass is
being made for. -/
structure Fine (layout : Layout) (h : Host) : Prop where
  answers : ∀ r ∈ h.answers, r = .ok layout.paths
  calls : h.answers.length + (if h.task.isPass then 1 else 0) = h.calls
  running : ∀ more p, h.task = .passing more p → p.isFinal = false

variable {layout : Layout} {h : Host}

theorem fine_start : Fine layout {} where
  answers r hr := absurd hr List.not_mem_nil
  calls := rfl
  running _ _ hp := by cases hp

/-- Work of another kind that is neither an answer nor a call. -/
theorem Fine.goOn (hfine : h.Fine layout) {ready : Bool} {task : Task}
    (hpass : task.isPass = h.task.isPass)
    (hrunning : ∀ more p, task = .passing more p → p.isFinal = false) :
    Fine layout { h with ready, task } where
  answers := hfine.answers
  calls := by simpa only [hpass] using hfine.calls
  running := hrunning

theorem Fine.answer (hfine : h.Fine layout) (hpass : h.task.isPass = true) :
    (h.answer (.ok layout.paths)).Fine layout where
  answers r hr := by
    rcases List.mem_append.mp hr with hr | hr
    · exact hfine.answers r hr
    · exact List.mem_singleton.mp hr
  calls := by
    have hcalls := hfine.calls
    rw [hpass] at hcalls
    simpa [Host.answer, Task.isPass] using hcalls
  running _ _ hp := by cases hp

theorem Fine.receive (hfine : h.Fine layout) (hwaits : h.task = .waiting) (call : Call) :
    (h.receive layout call).Fine layout := by
  have hcalls := hfine.calls
  have hpassing : ∀ more, Fine layout
      { h with calls := h.calls + 1, task := .passing more .opening } := by
    intro more
    refine ⟨hfine.answers, ?_, fun more' p hp => ?_⟩
    · simpa [Task.isPass, hwaits] using hcalls
    · cases hp
      rfl
  cases call with
  | stage =>
    rw [Host.receive]
    split
    · exact (hpassing false).answer rfl
    · exact hpassing false
  | restage => exact hpassing _

theorem Fine.pass (hfine : h.Fine layout) (hpass : h.task.isPass = true) {more : Bool} {p : Phase}
    (hp : ∀ e, p ≠ .failed e) : (h.pass layout more p).Fine layout := by
  cases p with
  | done =>
    rw [Host.pass]
    split
    · refine hfine.goOn hpass.symm fun more' p' hp' => ?_
      cases hp'
      rfl
    · exact (hfine.goOn rfl hfine.running).answer hpass
  | failed e => exact absurd rfl (hp e)
  | _ =>
    refine hfine.goOn hpass.symm fun more' p' hp' => ?_
    cases hp'
    rfl

theorem draft?_receive (stock : Stock) (call : Call) :
    (h.receive layout call).task.draft? stock = none := by
  cases call with
  | stage =>
    rw [Host.receive]
    split <;> rfl
  | restage => rfl

theorem draft?_pass (stock : Stock) (more : Bool) (p : Phase) :
    (h.pass layout more p).task.draft? stock = p.draft? stock := by
  cases p with
  | done =>
    rw [Host.pass]
    split <;> rfl
  | _ => rfl

end Host

namespace Site

variable [DecidableEq ι] {c : Crew} {g : Ground c.machine c.layout} {s s' : Site ι} {i : ι}
  {act : Action}

def draft (c : Crew) (s : Site ι) (i : ι) : Option (Path × Node) :=
  (s.host i).task.draft? c.stock

theorem draft_setHost (h : Host) :
    (s.setHost i h).draft c = Function.update (s.draft c) i (h.task.draft? c.stock) := by
  funext j
  by_cases hj : j = i
  · subst hj
    simp [draft]
  · simp [draft, hj, host_setHost_of_ne]

variable (c g s i) in
/-- What a step can come to once the staging directory is there. -/
inductive Took : Action → Site ι → Prop
  | called {call} (htask : (s.host i).task = .waiting) :
      Took (.call call) (s.setHost i ((s.host i).receive c.layout call))
  | cleared {clock a t} (htask : (s.host i).task = .clearing a)
      (ht : ∀ l, t.node? l = if l = g.place a then none else s.tree.node? l) :
      Took (.next clock)
        ({ s with tree := t }.setHost i { s.host i with task := Task.afterClearing a })
  | passed {clock more p p' t} (htask : (s.host i).task = .passing more p)
      (hmoves : g.Moves c.stock s.tree p p' t) :
      Took (.next clock) ({ s with tree := t }.setHost i ((s.host i).pass c.layout more p'))

/-- The invariant of the hosts once the staging directory is there. -/
structure Staged (c : Crew) (g : Ground c.machine c.layout) (s : Site ι) : Prop where
  sound : g.Sound c.stock s.tree (s.draft c)
  fine : ∀ i, (s.host i).Fine c.layout

omit [DecidableEq ι] in
theorem clear_tree (h : g.Supports c.stock s.tree) (a : Artifact) {clock : ℕ}
    (hobstacle : c.machine.obstacle clock = none) (l : Location) :
    (Stager.clear c.machine (c.layout.path a) { tree := s.tree, clock }).tree.node? l =
      if l = g.place a then none else s.tree.node? l := by
  have hnames := h.names (g.names a)
  have hfile := Ground.isFile_path c.layout a
  simp only [Stager.clear, hobstacle, World.trying]
  rcases h.staged a with hnone | hsome
  · obtain ⟨e, he⟩ := FileTree.removeFile_absent (hnames.under?_eq.trans hnone) hfile
    simp only [he]
    split
    case isTrue hl => rw [hl, hnone]
    case isFalse => rfl
  · simp only [FileTree.removeFile_file hnames hfile hsome]
    exact FileTree.node?_erase _ _ _ (g.place_ne_nil a)

theorem Staged.took (h : Staged c g s) (hallows : s.Allows c i act) :
    Took c g s i act (s.after c i act) := by
  cases act with
  | call call => exact Took.called hallows
  | next clock =>
    obtain ⟨hbusy, hobstacle, hcreates⟩ := hallows
    cases htask : (s.host i).task with
    | waiting => exact absurd htask hbusy
    | clearing a =>
      simp only [after, htask]
      exact Took.cleared htask (clear_tree h.sound.supports a hobstacle)
    | passing more p =>
      have hdraft : s.draft c i = p.draft? c.stock := by rw [draft, htask, Task.draft?]
      rw [htask] at hcreates
      simp only [after, htask, hobstacle]
      exact Took.passed htask (Ground.step_moves h.sound.supports (h.sound.drafted hdraft) hcreates
        ((h.fine i).running more p htask))

theorem fine_setHost {h : Host} (hfine : ∀ j, (s.host j).Fine c.layout)
    (hi : h.Fine c.layout) (t : FileTree) (j : ι) :
    (({ s with tree := t }.setHost i h).host j).Fine c.layout := by
  by_cases hj : j = i
  · subst hj
    simpa using hi
  · simpa [host_setHost_of_ne, hj] using hfine j

theorem Took.staged (h : Staged c g s) (htook : Took c g s i act s') : Staged c g s' := by
  cases htook with
  | called htask =>
    have hdraft : s.draft c i = none := by simp [draft, htask, Task.draft?]
    refine ⟨?_, fine_setHost h.fine ((h.fine i).receive htask _) s.tree⟩
    rw [draft_setHost, Host.draft?_receive]
    refine h.sound.change ?_ (by simp)
    rw [hdraft]
    exact Ground.Change.idle h.sound.supports
  | @cleared _ a t htask ht =>
    have hdraft : s.draft c i = none := by simp [draft, htask, Task.draft?]
    have hdraft' : (Task.afterClearing a).draft? c.stock = none := by cases a <;> rfl
    refine ⟨?_, fine_setHost h.fine ((h.fine i).goOn ?_ ?_) t⟩
    · rw [draft_setHost, hdraft']
      refine h.sound.change ?_ (by simp)
      rw [hdraft]
      exact Ground.Change.clear h.sound.supports ht
    · cases a <;> simp [htask, Task.afterClearing, Task.isPass]
    · intro more p hp
      cases a <;> cases hp
  | @passed _ more p p' t htask hmoves =>
    have hdraft : s.draft c i = p.draft? c.stock := by rw [draft, htask, Task.draft?]
    have hpass : (s.host i).task.isPass = true := by rw [htask, Task.isPass]
    refine ⟨?_, fine_setHost h.fine ((h.fine i).pass hpass hmoves.not_failed) t⟩
    rw [draft_setHost, Host.draft?_pass]
    refine h.sound.change ?_ fun _ _ => Ground.isFile_draft?
    rw [hdraft]
    exact hmoves.change h.sound.supports

/-- Nothing but the way to a staging directory: both staged files are absent, and when the directory
is made, whatever that takes, there is a free place for each. -/
structure Vacant (m : Machine) (layout : Layout) (t t₁ : FileTree) : Prop where
  absent : ∀ a, t.under? m.directory (layout.path a) = none
  made : t.makePath m.directory layout.directory = (.ok (), t₁)
  free : ∀ a, ∃ l, t₁.locate m.directory .entry (layout.path a) = .ok ⟨l, none⟩

omit [DecidableEq ι] in
theorem Vacant.exists_ground {m : Machine} {layout : Layout} {t t₁ : FileTree}
    (h : Vacant m layout t t₁) : ∃ g : Ground m layout, g.tree = t₁ := by
  choose place hplace using h.free
  exact ⟨{
    tree := t₁
    place
    names := fun a => (FileTree.names_of_locate (hplace a)).1
    free := fun a => (FileTree.names_of_locate (hplace a)).2.symm
    reached := (FileTree.makePath_made h.made).1 }, rfl⟩

/-- Nobody has made the staging directory yet. -/
structure Early (c : Crew) (t : FileTree) (s : Site ι) : Prop where
  tree : s.tree = t
  tasks : ∀ i, (s.host i).task.isEarly = true
  fine : ∀ i, (s.host i).Fine c.layout

theorem tasks_setHost {h : Host} (htasks : ∀ j, (s.host j).task.isEarly = true)
    (hi : h.task.isEarly = true) (t : FileTree) (j : ι) :
    (({ s with tree := t }.setHost i h).host j).task.isEarly = true := by
  by_cases hj : j = i
  · subst hj
    simpa using hi
  · simpa [host_setHost_of_ne, hj] using htasks j

theorem Early.called {t : FileTree} (h : Early c t s) (htask : (s.host i).task = .waiting)
    (call : Call) : Early c t (s.after c i (.call call)) := by
  obtain ⟨rfl, htasks, hfine⟩ := h
  refine ⟨rfl, tasks_setHost htasks ?_ s.tree,
    fine_setHost hfine ((hfine i).receive htask call) s.tree⟩
  cases call with
  | stage =>
    rw [Host.receive]
    split <;> rfl
  | restage => rfl

/-- There is nothing to remove yet. -/
theorem Early.cleared {t : FileTree} (hvacant : Vacant c.machine c.layout t g.tree)
    (h : Early c t s) {a : Artifact} (htask : (s.host i).task = .clearing a) {clock : ℕ}
    (hobstacle : c.machine.obstacle clock = none) :
    Early c t (s.after c i (.next clock)) := by
  obtain ⟨rfl, htasks, hfine⟩ := h
  obtain ⟨e, he⟩ := FileTree.removeFile_absent (hvacant.absent a) (Ground.isFile_path c.layout a)
  have hcleared : s.after c i (.next clock) =
      s.setHost i { s.host i with task := Task.afterClearing a } := by
    simp only [Site.after, htask, Stager.clear, hobstacle, World.trying, he]
  rw [hcleared]
  refine ⟨rfl, tasks_setHost htasks ?_ s.tree,
    fine_setHost hfine ((hfine i).goOn ?_ ?_) s.tree⟩
  · cases a <;> rfl
  · cases a <;> simp [htask, Task.afterClearing, Task.isPass]
  · intro more p hp
    cases a <;> cases hp

/-- The first pass makes the staging directory. -/
theorem Early.opened {t : FileTree} (hvacant : Vacant c.machine c.layout t g.tree)
    (h : Early c t s) {more : Bool} (htask : (s.host i).task = .passing more .opening) {clock : ℕ}
    (hobstacle : c.machine.obstacle clock = none) :
    Staged c g (s.after c i (.next clock)) ∧ (s.after c i (.next clock)).tree = g.tree := by
  obtain ⟨rfl, htasks, hfine⟩ := h
  have hopened : s.after c i (.next clock) = { s with tree := g.tree }.setHost i
      ((s.host i).pass c.layout more (.checking .executable)) := by
    simp only [Site.after, htask, hobstacle, step_opening, hvacant.made]
  have hpass : (s.host i).task.isPass = true := by rw [htask, Task.isPass]
  have hdrafts : ({ s with tree := g.tree }.setHost i
      ((s.host i).pass c.layout more (.checking .executable))).draft c = fun _ => none := by
    rw [draft_setHost, Host.draft?_pass]
    funext j
    by_cases hj : j = i
    · subst hj
      simp [Phase.draft?]
    · simpa [hj, draft] using Task.draft?_of_isEarly (htasks j)
  rw [hopened]
  refine ⟨⟨?_, fine_setHost hfine ((hfine i).pass hpass ?_) g.tree⟩, rfl⟩
  · rw [hdrafts]
    exact Ground.sound_tree
  · exact fun _ => Phase.noConfusion

theorem Early.after {t : FileTree} (hvacant : Vacant c.machine c.layout t g.tree)
    (h : Early c t s) (hallows : s.Allows c i act) :
    Early c t (s.after c i act) ∨
      Staged c g (s.after c i act) ∧ (s.after c i act).tree = g.tree := by
  cases act with
  | call call => exact Or.inl (h.called hallows call)
  | next clock =>
    obtain ⟨hbusy, hobstacle, -⟩ := hallows
    cases htask : (s.host i).task with
    | waiting => exact absurd htask hbusy
    | clearing a => exact Or.inl (h.cleared hvacant htask hobstacle)
    | passing more p =>
      obtain rfl : p = .opening := by simpa [htask, Task.isEarly] using h.tasks i
      exact Or.inr (h.opened hvacant htask hobstacle)

omit [DecidableEq ι] in
theorem early_start (t : FileTree) : Early c t (start t : Site ι) where
  tree := rfl
  tasks _ := rfl
  fine _ := Host.fine_start

/-- In every state either nothing has happened or everything is in order. -/
theorem Reachable.settled {t : FileTree} {rule : Site ι → ι → Action → Prop}
    (hrule : ∀ s i act, rule s i act → s.Allows c i act)
    (hvacant : Vacant c.machine c.layout t g.tree) (h : Reachable c rule (Site.start t) s) :
    Early c t s ∨ Staged c g s := by
  induction h with
  | start => exact Or.inl (early_start t)
  | step _ hact ih =>
    rcases ih with hearly | hstaged
    · exact (hearly.after hvacant (hrule _ _ _ hact)).imp_right And.left
    · exact Or.inr ((hstaged.took (hrule _ _ _ hact)).staged hstaged)

theorem left_after_lt (c : Crew) (s : Site ι) (i : ι) (clock : ℕ)
    (hbusy : (s.host i).task ≠ .waiting) :
    ((s.after c i (.next clock)).host i).task.left < (s.host i).task.left := by
  cases htask : (s.host i).task with
  | waiting => exact absurd htask hbusy
  | clearing a =>
    simp only [after, htask, host_setHost_self]
    cases a <;> decide
  | passing more p =>
    have hrank : ∀ p', (p'.isFinal = false → p'.rank < p.rank) →
        ((s.host i).pass c.layout more p').task.left < (Task.passing more p).left := by
      intro p' hp'
      cases p' with
      | done => cases more <;> simp [Host.pass, Host.answer, Task.left]
      | failed e =>
        simp only [Host.pass, Host.answer, Task.left]
        omega
      | _ => simpa [Host.pass, Task.left] using hp' rfl
    simp only [after, htask, host_setHost_self]
    refine hrank _ fun hgoes => rank_step _ _ _ _ _ ?_
    cases p with
    | done => exact hgoes
    | failed e => exact hgoes
    | _ => rfl

/-- What hosts that share a staging directory can count on, in one state of theirs and in each step
from there. -/
structure Orderly (c : Crew) (t : FileTree) (s : Site ι) : Prop where
  /-- A staged file is missing or has all its bytes and its final mode. -/
  staged : ∀ a, s.tree.under? c.machine.directory (c.layout.path a) = none ∨
    s.tree.under? c.machine.directory (c.layout.path a) = some (.file (c.stock.content a) a.mode)
  /-- No step changes a staged file that is there; it can only be cleared away. -/
  kept : ∀ i act, s.Allows c i act → ∀ a n,
    s.tree.under? c.machine.directory (c.layout.path a) = some n →
    (s.after c i act).tree.under? c.machine.directory (c.layout.path a) = some n ∨
      (s.host i).task = .clearing a ∧
        (s.after c i act).tree.under? c.machine.directory (c.layout.path a) = none
  /-- Every call is answered with the staged paths, unless a pass for it is under way. -/
  answers : ∀ i, ∀ r ∈ (s.host i).answers, r = .ok c.layout.paths
  calls : ∀ i, (s.host i).answers.length + (if (s.host i).task.isPass then 1 else 0) =
    (s.host i).calls
  /-- A pass comes to its end, and does so in its own steps. -/
  ends : ∀ i clock, s.Allows c i (.next clock) →
    ((s.after c i (.next clock)).host i).task.left < (s.host i).task.left ∧
      ∀ j, j ≠ i → (s.after c i (.next clock)).host j = s.host j
  /-- Whatever was there before the hosts is there as it was. -/
  rest : ∀ l n, t.node? l = some n → s.tree.node? l = some n
  /-- When nobody passes over the files, nothing has been added but staged files and directories. -/
  clean : (∀ i, (s.host i).task.isPass = false) → ∀ l n, s.tree.node? l = some n →
    t.node? l = some n ∨ n.isDirectory = true ∨
      ∃ a, s.tree.Names c.machine.directory (c.layout.path a) l

theorem host_after_of_ne {j : ι} (hj : j ≠ i) : (s.after c i act).host j = s.host j := by
  cases act with
  | call call => exact host_setHost_of_ne _ _ _ _ hj
  | next clock =>
    cases htask : (s.host i).task <;> simp [after, htask, host_setHost_of_ne _ _ _ _ hj]

omit [DecidableEq ι] in
theorem Staged.under?_eq (h : Staged c g s) (a : Artifact) :
    s.tree.under? c.machine.directory (c.layout.path a) = s.tree.node? (g.place a) :=
  (h.sound.supports.names (g.names a)).under?_eq

theorem Took.kept (htook : Took c g s i act s') (a : Artifact)
    {n : Node} (hn : s.tree.node? (g.place a) = some n) :
    s'.tree.node? (g.place a) = some n ∨
      (s.host i).task = .clearing a ∧ s'.tree.node? (g.place a) = none := by
  cases htook with
  | called htask => exact Or.inl hn
  | @cleared _ b t htask ht =>
    by_cases hb : b = a
    · subst hb
      exact Or.inr ⟨htask, by rw [tree_setHost, ht, if_pos rfl]⟩
    · left
      rw [tree_setHost, ht, if_neg fun hplace => hb (g.place_injective hplace).symm, hn]
  | passed htask hmoves => exact Or.inl (hmoves.kept hn)

theorem ends_after (hallows : s.Allows c i act) {clock : ℕ} (hact : act = .next clock) :
    ((s.after c i act).host i).task.left < (s.host i).task.left ∧
      ∀ j, j ≠ i → (s.after c i act).host j = s.host j := by
  subst hact
  exact ⟨left_after_lt c s i clock hallows.1, fun j hj => host_after_of_ne hj⟩

theorem orderly_of_staged {t : FileTree} (hvacant : Vacant c.machine c.layout t g.tree)
    (h : Staged c g s) : s.Orderly c t where
  staged a := by
    rw [h.under?_eq a]
    exact h.sound.staged a
  kept i act hallows a n hn := by
    have htook := h.took hallows
    rw [h.under?_eq a] at hn
    rw [(htook.staged h).under?_eq a]
    exact htook.kept a hn
  answers i := (h.fine i).answers
  calls i := (h.fine i).calls
  ends i clock hallows := ends_after hallows rfl
  rest l n hn := by
    refine h.sound.supports.kept l n ?_
    rcases (FileTree.makePath_made hvacant.made).2 l with hsame | ⟨hnone, _⟩
    · rw [hsame, hn]
    · rw [hn] at hnone
      cases hnone
  clean hidle l n hn := by
    by_cases hplace : ∃ a, l = g.place a
    · obtain ⟨a, rfl⟩ := hplace
      exact Or.inr (Or.inr ⟨a, h.sound.supports.names (g.names a)⟩)
    · have hdesks : ∀ i n, ¬ g.Desk (s.draft c i) l n := by
        intro i n hdesk
        have hdraft : s.draft c i = none := by
          have hi := hidle i
          rw [draft]
          cases htask : (s.host i).task with
          | passing more p =>
            rw [htask] at hi
            cases hi
          | _ => rfl
        exact Ground.not_desk_none (hdraft ▸ hdesk)
      rw [h.sound.elsewhere l (not_exists.mp hplace) hdesks] at hn
      rcases (FileTree.makePath_made hvacant.made).2 l with hsame | ⟨_, ⟨mode, hmode⟩, _⟩
      · exact Or.inl (hsame ▸ hn)
      · rw [hmode] at hn
        obtain rfl := Option.some.inj hn
        exact Or.inr (Or.inl rfl)

theorem orderly_of_early {t : FileTree} (hvacant : Vacant c.machine c.layout t g.tree)
    (h : Early c t s) : s.Orderly c t where
  staged a := Or.inl (h.tree ▸ hvacant.absent a)
  kept i act hallows a n hn := by
    rw [h.tree, hvacant.absent a] at hn
    cases hn
  answers i := (h.fine i).answers
  calls i := (h.fine i).calls
  ends i clock hallows := ends_after hallows rfl
  rest l n hn := by rw [h.tree, hn]
  clean _ l n hn := Or.inl (h.tree ▸ hn)

/-- However many hosts stage into one directory, and in whatever order they take their steps, a
staged file is missing or complete in every state on the way, nobody changes one that is there,
every call is answered with the same two paths, and no temporary file is left in the end. -/
theorem Reachable.orderly {t t₁ : FileTree} (hvacant : Vacant c.machine c.layout t t₁)
    (h : Reachable c (Allows c) (Site.start t) s) : s.Orderly c t := by
  obtain ⟨g, rfl⟩ := hvacant.exists_ground
  rcases h.settled (fun _ _ _ => id) hvacant with hearly | hstaged
  · exact orderly_of_early hvacant hearly
  · exact orderly_of_staged hvacant hstaged

namespace Sample

def machine : Machine where
  directory := []
  executable := ⟨"/host"⟩
  environment := []
  temporary := ⟨"/"⟩
  program _ := .error .badFormat

def crew : Crew where
  machine
  layout := ⟨⟨"/s"⟩⟩
  bundle := (Bundle.empty.insertWorker [1, 2]).insertConfiguration [3]
  stock := ⟨[1, 2], [3]⟩
  complete := by decide +kernel

/-- Two hosts are called to stage and take their steps in turn. -/
def race : List (Fin 2 × Action) :=
  (List.replicate 2 [(0, .next 0), (1, .next 0)]).flatten ++ [(0, .call .stage), (1, .call .stage)]
    ++ (List.replicate 10 [(0, .next 0), (1, .next 0)]).flatten

/-- Nothing is there at first, not even the staging directory. -/
def begun : Site (Fin 2) := start .empty

theorem vacant {m : Machine} (hroot : m.directory = []) : Vacant m ⟨⟨"/s"⟩⟩ .empty
    ⟨[(["s"], .directory FileTree.directoryMode)]⟩ := by
  refine ⟨?_, ?_, ?_⟩
  all_goals rw [hroot]
  · rintro (_ | _) <;> decide +kernel
  · decide +kernel
  · rintro (_ | _)
    · exact ⟨[Bundle.workerFileName, "s"], by decide +kernel⟩
    · exact ⟨[Bundle.configurationFileName, "s"], by decide +kernel⟩

end Sample

/-- Of two hosts at a time the second finds each file published before it is done. -/
theorem Reachable.orderly_race :
    (Sample.begun.run Sample.crew Sample.race).Orderly Sample.crew .empty ∧
      ∀ i, ((Sample.begun.run Sample.crew Sample.race).host i).answers =
        [.ok Sample.crew.layout.paths] := by
  have hfollows : Follows Sample.crew (Allows Sample.crew) Sample.begun Sample.race := by
    decide +kernel
  exact ⟨Reachable.orderly (Sample.vacant rfl) (reachable_run Reachable.start hfollows),
    by decide +kernel⟩

end Site
end TemplateBatch.Staging
