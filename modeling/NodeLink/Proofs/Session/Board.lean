import Mathlib.Data.List.Chain
import Mathlib.Logic.Relation
import NodeLink.Proofs.Session.Roster
import NodeLink.Session.Board
/-!
# What boards make known

Listeners may do as they please with the roster of a board, but they leave its
phases alone.  So an announcement adds one entry to what was announced, and
every listener on the roster notes it once, at a moment at which the board and
its receivers agree on the phase.  A board that only moves along the edges
between phases therefore tells all its listeners the same story.
-/

namespace NodeLink.Session

inductive Phase.Edge : Phase → Phase → Prop
  | begin : Edge .disconnected .connecting
  | retry : Edge .failed .connecting
  | arrive : Edge .connecting .connected
  | fail : Edge .connecting .failed
  | abandon : Edge .connecting .disconnected
  | lose : Edge .connected .failed
  | leave : Edge .connected .disconnected
  | forget : Edge .failed .disconnected

theorem Phase.Edge.ne {former phase : Phase} (hedge : Edge former phase) : former ≠ phase := by
  cases hedge <;> decide

def Event.phaseFor? (id : Nat) : Event → Option Phase
  | .announced listener _ phase _ => if listener = id then some phase else none
  | .removed .. => none

/-- A listener that is called finds the board and its receivers at the phase that
is announced to it. -/
def Event.IsCurrent : Event → Prop
  | .announced _ _ phase view => view.phase = phase ∧ view.latest = phase
  | .removed .. => True

/-- What can be read in a scene of a session that moves to a phase. -/
def Scene.shown (scene : Scene) (phase : Phase) : View :=
  { phase
    latest := phase
    isUp := phase = .connected && scene.isLinkUp
    link := scene.holdings.link
    profile := scene.holdings.profile }

/-- What is noted while a phase is announced in a scene. -/
def Event.Notes (phase : Phase) (scene : Scene) : Event → Prop
  | .announced _ _ found view => found = phase ∧ view = scene.shown phase
  | .removed .. => True

def Event.IsFounded (announcements : List Announcement) : Event → Prop
  | .announced _ _ phase view =>
    ∃ scene, ⟨phase, scene⟩ ∈ announcements ∧ view = scene.shown phase
  | .removed .. => True

theorem Event.IsFounded.isCurrent {announcements : List Announcement} {event : Event}
    (hfounded : event.IsFounded announcements) : event.IsCurrent := by
  cases event with
  | announced id listener phase view =>
      obtain ⟨scene, -, rfl⟩ := hfounded
      exact ⟨rfl, rfl⟩
  | removed listener target wasThere => trivial

theorem Event.IsFounded.append {announcements : List Announcement} {event : Event}
    (hfounded : event.IsFounded announcements) (news : List Announcement) :
    event.IsFounded (announcements ++ news) := by
  cases event with
  | announced id listener phase view =>
      obtain ⟨scene, hmem, hview⟩ := hfounded
      exact ⟨scene, List.mem_append_left news hmem, hview⟩
  | removed listener target wasThere => trivial

theorem Event.Notes.isFounded {phase : Phase} {scene : Scene} {event : Event}
    {announcements : List Announcement} (hnotes : event.Notes phase scene)
    (hmem : ⟨phase, scene⟩ ∈ announcements) : event.IsFounded announcements := by
  cases event with
  | announced id listener found view =>
      obtain ⟨rfl, hview⟩ := hnotes
      exact ⟨scene, hmem, hview⟩
  | removed listener target wasThere => trivial

namespace Board

def heard (board : Board) (id : Nat) : List Phase :=
  board.events.filterMap (Event.phaseFor? id)

/-- The phase that was announced last; before the first announcement this is the
one that boards begin with. -/
def published (board : Board) : Phase :=
  board.announced.getLast?.getD .initial

/-! ## Reactions -/

structure SaysSame (board later : Board) : Prop where
  phase : later.phase = board.phase
  latest : later.latest = board.latest
  announcements : later.announcements = board.announcements
  roster : board.roster.Extends later.roster

namespace SaysSame

variable {board later last : Board}

theorem refl (board : Board) : board.SaysSame board :=
  ⟨rfl, rfl, rfl, .refl _⟩

theorem trans (hfirst : board.SaysSame later) (hsecond : later.SaysSame last) :
    board.SaysSame last where
  phase := hsecond.phase.trans hfirst.phase
  latest := hsecond.latest.trans hfirst.latest
  announcements := hsecond.announcements.trans hfirst.announcements
  roster := hfirst.roster.trans hsecond.roster

end SaysSame

theorem saysSame_react (board : Board) (listener : Listener) :
    board.SaysSame (board.react listener) := by
  unfold react
  cases listener.reaction with
  | observe => exact .refl board
  | add name => exact ⟨rfl, rfl, rfl, board.roster.extends_addUnused name⟩
  | remove name => exact ⟨rfl, rfl, rfl, board.roster.extends_remove name⟩

theorem saysSame_tell (scene : Scene) (phase : Phase) (entry : Nat × Listener) (board : Board) :
    board.SaysSame (tell scene phase entry board) := by
  have hnoted : board.SaysSame (board.note (.announced entry.1 entry.2.name phase
      (board.view scene))) := ⟨rfl, rfl, rfl, .refl _⟩
  exact hnoted.trans (saysSame_react _ entry.2)

theorem saysSame_foldl_tell (scene : Scene) (phase : Phase) (entries : List (Nat × Listener))
    (board : Board) :
    board.SaysSame (entries.foldl (fun board entry => tell scene phase entry board) board) := by
  induction entries generalizing board with
  | nil => exact .refl board
  | cons entry entries ih =>
      rw [List.foldl_cons]
      exact (saysSame_tell scene phase entry board).trans (ih _)

/-! ## Announcements -/

theorem saysSame_announce (board : Board) (scene : Scene) (phase : Phase) :
    SaysSame
      { board with latest := phase, announcements := board.announcements ++ [⟨phase, scene⟩] }
      (board.announce scene phase) :=
  saysSame_foldl_tell scene phase _ _

@[simp] theorem phase_announce (board : Board) (scene : Scene) (phase : Phase) :
    (board.announce scene phase).phase = board.phase :=
  (board.saysSame_announce scene phase).phase

@[simp] theorem latest_announce (board : Board) (scene : Scene) (phase : Phase) :
    (board.announce scene phase).latest = phase :=
  (board.saysSame_announce scene phase).latest

@[simp] theorem announcements_announce (board : Board) (scene : Scene) (phase : Phase) :
    (board.announce scene phase).announcements = board.announcements ++ [⟨phase, scene⟩] :=
  (board.saysSame_announce scene phase).announcements

@[simp] theorem announced_announce (board : Board) (scene : Scene) (phase : Phase) :
    (board.announce scene phase).announced = board.announced ++ [phase] := by
  simp [announced]

@[simp] theorem phase_moveTo (board : Board) (scene : Scene) (phase : Phase) :
    (board.moveTo scene phase).phase = phase := by
  unfold moveTo
  split
  next hsame => exact hsame
  next => rw [phase_announce]

theorem announcements_moveTo (board : Board) (scene : Scene) (phase : Phase) :
    (board.moveTo scene phase).announcements = board.announcements ∨
      (board.moveTo scene phase).announcements = board.announcements ++ [⟨phase, scene⟩] := by
  unfold moveTo
  split
  next => exact .inl rfl
  next => exact .inr (announcements_announce _ scene phase)

theorem announcements_moveTo_of_ne {board : Board} {phase : Phase} (scene : Scene)
    (hother : board.phase ≠ phase) :
    (board.moveTo scene phase).announcements = board.announcements ++ [⟨phase, scene⟩] := by
  unfold moveTo
  rw [if_neg hother]
  exact announcements_announce _ scene phase

/-- One board says what another says, and then only what is of some kind. -/
def Adds (board later : Board) (kind : Announcement → Prop) : Prop :=
  ∃ news, later.announcements = board.announcements ++ news ∧
    ∀ announcement ∈ news, kind announcement

theorem adds_of_eq {board later : Board} (hsame : later.announcements = board.announcements)
    (kind : Announcement → Prop) : board.Adds later kind :=
  ⟨[], by rw [hsame, List.append_nil], by simp⟩

theorem Adds.trans {board later last : Board} {kind : Announcement → Prop}
    (hfirst : board.Adds later kind) (hsecond : later.Adds last kind) : board.Adds last kind := by
  obtain ⟨former, hformer, hkinds⟩ := hfirst
  obtain ⟨latter, hlatter, hkinds'⟩ := hsecond
  refine ⟨former ++ latter, ?_, ?_⟩
  · rw [hlatter, hformer, List.append_assoc]
  · intro announcement hmem
    rcases List.mem_append.mp hmem with hold | hnew
    · exact hkinds announcement hold
    · exact hkinds' announcement hnew

theorem adds_moveTo (board : Board) {scene : Scene} {phase : Phase} {kind : Announcement → Prop}
    (hkind : kind ⟨phase, scene⟩) : board.Adds (board.moveTo scene phase) kind := by
  rcases board.announcements_moveTo scene phase with hsame | hgrown
  · exact adds_of_eq hsame kind
  · refine ⟨[⟨phase, scene⟩], hgrown, ?_⟩
    intro announcement hmem
    obtain rfl := List.mem_singleton.mp hmem
    exact hkind

/-! ## What a listener hears -/

theorem heard_react (board : Board) (listener : Listener) (id : Nat) :
    (board.react listener).heard id = board.heard id := by
  unfold react
  cases listener.reaction with
  | observe => rfl
  | add name => rfl
  | remove name => simp [note, heard, Event.phaseFor?]

theorem heard_tell (scene : Scene) (phase : Phase) (entry : Nat × Listener) (board : Board)
    (id : Nat) :
    (tell scene phase entry board).heard id =
      board.heard id ++ if entry.1 = id then [phase] else [] := by
  unfold tell
  rw [heard_react]
  simp only [note, heard, List.filterMap_append]
  congr 1
  split
  next hself => simp [Event.phaseFor?, hself]
  next hother => simp [Event.phaseFor?, hother]

theorem heard_foldl_tell (scene : Scene) (phase : Phase) (entries : List (Nat × Listener))
    (board : Board) (id : Nat) (hnodup : (entries.map (·.1)).Nodup) :
    (entries.foldl (fun board entry => tell scene phase entry board) board).heard id =
      board.heard id ++ if id ∈ entries.map (·.1) then [phase] else [] := by
  induction entries generalizing board with
  | nil => simp
  | cons entry entries ih =>
      rw [List.map_cons, List.nodup_cons] at hnodup
      rw [List.foldl_cons, ih _ hnodup.2, heard_tell, List.append_assoc]
      congr 1
      by_cases hself : entry.1 = id
      · subst hself
        simp [hnodup.1]
      · simp only [hself, if_false, List.nil_append, List.map_cons, List.mem_cons,
          Ne.symm hself, false_or]

theorem heard_announce (board : Board) (scene : Scene) (phase : Phase) (id : Nat)
    (hformed : board.roster.WellFormed) :
    (board.announce scene phase).heard id =
      board.heard id ++ if id ∈ board.roster.ids then [phase] else [] :=
  heard_foldl_tell scene phase board.roster.registry.entries _ id hformed.nodup

theorem notes_tell {scene : Scene} {phase : Phase} {entry : Nat × Listener} {board : Board}
    (hphase : board.phase = phase) (hlatest : board.latest = phase) :
    ∀ event ∈ (tell scene phase entry board).events,
      event ∈ board.events ∨ event.Notes phase scene := by
  have hview : board.view scene = scene.shown phase := by
    simp only [view, Scene.shown, hphase, hlatest]
  have hnoted : ∀ event ∈ (board.note (.announced entry.1 entry.2.name phase
      (board.view scene))).events, event ∈ board.events ∨ event.Notes phase scene := by
    intro event hevent
    rcases List.mem_append.mp hevent with hold | hnew
    · exact .inl hold
    · rw [List.mem_singleton] at hnew
      subst hnew
      exact .inr ⟨rfl, hview⟩
  unfold tell react
  cases entry.2.reaction with
  | observe => exact hnoted
  | add name => exact hnoted
  | remove name =>
      intro event hevent
      rcases List.mem_append.mp hevent with hold | hnew
      · exact hnoted event hold
      · rw [List.mem_singleton] at hnew
        subst hnew
        exact .inr trivial

theorem notes_foldl_tell {scene : Scene} {phase : Phase}
    (entries : List (Nat × Listener)) {board : Board}
    (hphase : board.phase = phase) (hlatest : board.latest = phase) :
    ∀ event ∈
      (entries.foldl (fun board entry => tell scene phase entry board) board).events,
      event ∈ board.events ∨ event.Notes phase scene := by
  induction entries generalizing board with
  | nil => exact fun event hevent => .inl hevent
  | cons entry entries ih =>
      have hsame := saysSame_tell scene phase entry board
      intro event hevent
      rw [List.foldl_cons] at hevent
      rcases ih (hsame.phase.trans hphase) (hsame.latest.trans hlatest) event hevent with
        hold | hnew
      · exact notes_tell hphase hlatest event hold
      · exact .inr hnew

/-- An announcement leaves only notes of itself, and of listeners that were removed. -/
theorem notes_announce {board : Board} {phase : Phase} (scene : Scene)
    (hphase : board.phase = phase) :
    ∀ event ∈ (board.announce scene phase).events,
      event ∈ board.events ∨ event.Notes phase scene :=
  notes_foldl_tell board.roster.registry.entries hphase rfl

/-! ## Steps -/

/-- What may happen to a board: it moves along an edge and announces that, or its
roster changes. -/
inductive Step : Board → Board → Prop
  | move (board : Board) (scene : Scene) {phase : Phase} (hedge : board.phase.Edge phase) :
      Step board ({ board with phase }.announce scene phase)
  | enrol (board : Board) {roster : Roster} (hextends : board.roster.Extends roster) :
      Step board { board with roster }

abbrev Steps : Board → Board → Prop := Relation.ReflTransGen Step

theorem steps_moveTo (board : Board) (scene : Scene) {phase : Phase}
    (hedge : board.phase ≠ phase → board.phase.Edge phase) :
    board.Steps (board.moveTo scene phase) := by
  unfold moveTo
  split
  next => exact .refl
  next hother => exact .single (.move board scene (hedge hother))

theorem steps_enrol (board : Board) {roster : Roster} (hextends : board.roster.Extends roster) :
    board.Steps { board with roster } :=
  .single (.enrol board hextends)

/-- What a board says is consistent: its phases form a path along the edges that
ends at its phase, which receivers hold as well, and every call to a listener
was made for an announcement and showed its scene. -/
structure Consistent (board : Board) : Prop where
  path : (Phase.initial :: board.announced).IsChain Phase.Edge
  phase_eq : board.phase = board.published
  latest_eq : board.latest = board.published
  founded : ∀ event ∈ board.events, event.IsFounded board.announcements
  wellFormed : board.roster.WellFormed

theorem Consistent.current {board : Board} (hconsistent : board.Consistent) :
    ∀ event ∈ board.events, event.IsCurrent :=
  fun event hevent => (hconsistent.founded event hevent).isCurrent

theorem initial_consistent : Board.initial.Consistent where
  path := .singleton _
  phase_eq := rfl
  latest_eq := rfl
  founded := by simp [initial]
  wellFormed := Roster.wellFormed_empty

theorem Consistent.afterStep {board later : Board} (hconsistent : board.Consistent)
    (hstep : board.Step later) : later.Consistent := by
  cases hstep with
  | move scene hedge =>
      rename_i phase
      have hpublished : ({ board with phase }.announce scene phase).published = phase := by
        simp only [published, announced_announce, List.getLast?_concat, Option.getD_some]
      refine ⟨?_, ?_, ?_, ?_, ?_⟩
      · rw [announced_announce, ← List.cons_append, List.isChain_append]
        refine ⟨hconsistent.path, .singleton _, ?_⟩
        intro former hformer next hnext
        have hlast : former = board.phase := by
          rw [List.getLast?_cons, Option.mem_some_iff] at hformer
          rw [hconsistent.phase_eq, ← hformer]
          rfl
        simp only [List.head?_cons, Option.mem_some_iff] at hnext
        rw [hlast, ← hnext]
        exact hedge
      · rw [hpublished, phase_announce]
      · rw [hpublished, latest_announce]
      · intro event hevent
        rw [announcements_announce]
        rcases notes_announce scene rfl event hevent with hold | hnew
        · exact (hconsistent.founded event hold).append _
        · exact hnew.isFounded List.mem_concat_self
      · exact (saysSame_announce _ scene phase).roster.wellFormed hconsistent.wellFormed
  | enrol hextends =>
      exact ⟨hconsistent.path, hconsistent.phase_eq, hconsistent.latest_eq,
        hconsistent.founded, hextends.wellFormed hconsistent.wellFormed⟩

theorem Consistent.afterSteps {board later : Board} (hconsistent : board.Consistent)
    (hsteps : board.Steps later) : later.Consistent := by
  induction hsteps with
  | refl => exact hconsistent
  | tail _ hstep ih => exact ih.afterStep hstep

theorem Step.extends {board later : Board} (hstep : board.Step later) :
    board.roster.Extends later.roster := by
  cases hstep with
  | move scene hedge =>
      rename_i phase
      exact (saysSame_announce { board with phase } scene phase).roster
  | enrol hextends => exact hextends

theorem Steps.extends {board later : Board} (hsteps : board.Steps later) :
    board.roster.Extends later.roster := by
  induction hsteps with
  | refl => exact .refl _
  | tail _ hstep ih => exact ih.trans hstep.extends

/-- A listener that is on the roster before and after some steps has heard all
that was announced meanwhile, in order and once. -/
theorem heard_of_steps {board later : Board} {id : Nat} (hsteps : board.Steps later)
    (hconsistent : board.Consistent) (hbefore : id ∈ board.roster.ids)
    (hafter : id ∈ later.roster.ids) :
    ∃ phases, later.announced = board.announced ++ phases ∧
      later.heard id = board.heard id ++ phases := by
  induction hsteps with
  | refl => exact ⟨[], by simp, by simp⟩
  | tail hformer hstep ih =>
      rename_i middle last
      have hmiddle := hconsistent.afterSteps hformer
      have hold : id < middle.roster.registry.next :=
        Nat.lt_of_lt_of_le (hconsistent.wellFormed.lt_next id hbefore)
          (Steps.extends hformer).next_le
      have hmem : id ∈ middle.roster.ids := by
        by_contra hgone
        exact hstep.extends.not_mem hold hgone hafter
      obtain ⟨phases, hannounced, hheard⟩ := ih hmem
      cases hstep with
      | move scene hedge =>
          rename_i phase
          refine ⟨phases ++ [phase], ?_, ?_⟩
          · rw [announced_announce, ← List.append_assoc, ← hannounced]
            rfl
          · have hheard' := heard_announce { middle with phase } scene phase id
              hmiddle.wellFormed
            rw [hheard', if_pos hmem, ← List.append_assoc, ← hheard]
            rfl
      | enrol hextends => exact ⟨phases, hannounced, hheard⟩

end Board

end NodeLink.Session
