/-
  Foundation/Transition.lean --- runs of a labelled transition system and the rules
  for proving things about them.

  A system is a partial step function `step : σ → α → Option σ`.  A run carries
  its history, newest transition first, and each transition keeps the states on
  both its sides, so that a property of a run can speak about what held when
  something happened.  The rules are an invariant rule, an invariant rule that may
  look at the history, the cut of a run at one of its transitions, the last
  transition that made a property true, two rules for runs that come to an end (a
  bound on their length, and one that gets there), and a rule for two runs in
  lockstep.
-/
import Mathlib.Data.List.Basic
import Mathlib.Data.List.Forall2

set_option autoImplicit false

namespace FarBus.Foundation

universe u v

/-- One step taken: the state before, the label, the state after. -/
structure Transition (σ : Type u) (α : Type v) where
  pre : σ
  act : α
  post : σ

/-- The histories of a system, newest transition first. -/
abbrev History (σ : Type u) (α : Type v) : Type (max u v) := List (Transition σ α)

section

variable {σ : Type u} {α : Type v}

/-- `Run step start history state`: the system went from `start` to `state` by
exactly the transitions of `history`. -/
inductive Run (step : σ → α → Option σ) (start : σ) : History σ α → σ → Prop where
  | nil : Run step start [] start
  | snoc {history : History σ α} {state next : σ} {act : α}
      (run : Run step start history state) (taken : step state act = some next) :
      Run step start (⟨state, act, next⟩ :: history) next

/-- Takes the labels one after the other, passing over those that are not enabled. -/
def replay (step : σ → α → Option σ) : List α → History σ α × σ → History σ α × σ
  | [], reached => reached
  | act :: acts, (history, state) =>
      match step state act with
      | none => replay step acts (history, state)
      | some next => replay step acts (⟨state, act, next⟩ :: history, next)

theorem replay_append {step : σ → α → Option σ} (acts acts' : List α)
    (reached : History σ α × σ) :
    replay step (acts ++ acts') reached = replay step acts' (replay step acts reached) := by
  induction acts generalizing reached with
  | nil => rfl
  | cons act acts ih =>
      rw [List.cons_append, replay.eq_def step (act :: (acts ++ acts')),
        replay.eq_def step (act :: acts)]
      dsimp only
      split <;> exact ih _

theorem replay_cons {step : σ → α → Option σ} {state next : σ} {act : α}
    (taken : step state act = some next) (acts : List α) (history : History σ α) :
    replay step (act :: acts) (history, state) =
      replay step acts (⟨state, act, next⟩ :: history, next) := by
  rw [replay, taken]

namespace Run

variable {step : σ → α → Option σ} {start state : σ} {history : History σ α}

/-- What holds at the start and is kept by every step holds throughout. -/
theorem invariant (Inv : σ → Prop) (hstart : Inv start)
    (hstep : ∀ pre act post, Inv pre → step pre act = some post → Inv post)
    (run : Run step start history state) : Inv state := by
  induction run with
  | nil => exact hstart
  | snoc _ taken ih => exact hstep _ _ _ ih taken

/-- The same for a property of the history and the state it led to. -/
theorem history_invariant (Inv : History σ α → σ → Prop) (hstart : Inv [] start)
    (hstep : ∀ history pre act post, Run step start history pre → Inv history pre →
      step pre act = some post → Inv (⟨pre, act, post⟩ :: history) post)
    (run : Run step start history state) : Inv history state := by
  induction run with
  | nil => exact hstart
  | snoc run taken ih => exact hstep _ _ _ _ run ih taken

/-- A run goes on by replaying labels. -/
theorem replay (run : Run step start history state) (acts : List α) :
    Run step start (replay step acts (history, state)).1 (replay step acts (history, state)).2 := by
  induction acts generalizing history state with
  | nil => exact run
  | cons act acts ih =>
      unfold Foundation.replay
      split
      · exact ih run
      · rename_i next taken
        exact ih (.snoc run taken)

/-- A run goes on by a label that is enabled. -/
theorem snoc_getD (run : Run step start history state) {act : α} {default : σ}
    (h : (step state act).isSome = true) :
    Run step start (⟨state, act, (step state act).getD default⟩ :: history)
      ((step state act).getD default) := by
  obtain ⟨next, taken⟩ := Option.isSome_iff_exists.mp h
  rw [taken]
  exact .snoc run taken

/-- Two runs in a row. -/
theorem trans {middle : σ} {earlier later : History σ α}
    (run : Run step start earlier middle) (run' : Run step middle later state) :
    Run step start (later ++ earlier) state := by
  induction run' with
  | nil => exact run
  | snoc _ taken ih => exact .snoc ih taken

/-- A run, cut at one of its transitions. -/
theorem cut {later earlier : History σ α} {t : Transition σ α}
    (run : Run step start (later ++ t :: earlier) state) :
    Run step start earlier t.pre ∧ step t.pre t.act = some t.post ∧
      Run step t.post later state := by
  induction later generalizing state with
  | nil =>
      cases run with
      | snoc run taken => exact ⟨run, taken, .nil⟩
  | cons last later ih =>
      cases run with
      | snoc run taken =>
          obtain ⟨hearlier, ht, hlater⟩ := ih run
          exact ⟨hearlier, ht, .snoc hlater taken⟩

/-- A run, cut off anywhere. -/
theorem earlier {later earlier : History σ α} (run : Run step start (later ++ earlier) state) :
    ∃ middle, Run step start earlier middle := by
  induction later generalizing state with
  | nil => exact ⟨state, run⟩
  | cons last later ih =>
      cases run with
      | snoc run taken => exact ih run

/-- A run, with the transition it followed. -/
theorem from_transition {later : History σ α} {t : Transition σ α}
    (run : Run step t.post later state) (taken : step t.pre t.act = some t.post) :
    Run step t.pre (later ++ [t]) state :=
  (Run.snoc .nil taken).trans run

/-- Every transition of a history was enabled. -/
theorem taken_of_mem (run : Run step start history state) {t : Transition σ α}
    (mem : t ∈ history) : step t.pre t.act = some t.post := by
  obtain ⟨later, earlier, rfl⟩ := List.append_of_mem mem
  exact run.cut.2.1

/-- A property that was not there at the start was made true by a step, and from
the last such step on it held. -/
theorem established (Q : σ → Prop) (hstart : ¬ Q start) (run : Run step start history state)
    (hend : Q state) :
    ∃ later t earlier, history = later ++ t :: earlier ∧ ¬ Q t.pre ∧ Q t.post ∧
      ∀ u ∈ later, Q u.pre ∧ Q u.post := by
  induction run with
  | nil => exact absurd hend hstart
  | @snoc history pre post act run taken ih =>
      by_cases hpre : Q pre
      · obtain ⟨later, t, earlier, rfl, hbefore, hafter, hsince⟩ := ih hpre
        refine ⟨⟨pre, act, post⟩ :: later, t, earlier, rfl, hbefore, hafter, ?_⟩
        intro u hu
        rcases List.mem_cons.mp hu with rfl | hu
        · exact ⟨hpre, hend⟩
        · exact hsince u hu
      · exact ⟨[], ⟨pre, act, post⟩, history, rfl, hpre, hend, by simp⟩

/-- What holds after a transition and is kept by every later one holds after each
of them. -/
theorem maintained (Q : σ → Prop) {later : History σ α} (hstart : Q start)
    (run : Run step start later state)
    (hstep : ∀ t ∈ later, step t.pre t.act = some t.post → Q t.pre → Q t.post) :
    Q state ∧ ∀ t ∈ later, Q t.pre ∧ Q t.post := by
  induction run with
  | nil => exact ⟨hstart, by simp⟩
  | @snoc history pre post act run taken ih =>
      obtain ⟨hpre, hsince⟩ := ih fun t ht => hstep t (List.mem_cons_of_mem _ ht)
      have hpost := hstep ⟨pre, act, post⟩ List.mem_cons_self taken hpre
      refine ⟨hpost, ?_⟩
      intro t ht
      rcases List.mem_cons.mp ht with rfl | ht
      · exact ⟨hpre, hpost⟩
      · exact hsince t ht

/-- A run is no longer than what its steps use up. -/
theorem length_le (measure : σ → Nat) {later : History σ α} (run : Run step start later state)
    (hstep : ∀ t ∈ later, step t.pre t.act = some t.post → measure t.post < measure t.pre) :
    later.length + measure state ≤ measure start := by
  induction run with
  | nil => exact Nat.le_of_eq (Nat.zero_add _)
  | @snoc later pre post act run taken ih =>
      have hearlier := ih fun t ht => hstep t (List.mem_cons_of_mem _ ht)
      have hlast := hstep ⟨pre, act, post⟩ List.mem_cons_self taken
      dsimp only at hlast
      rw [List.length_cons]
      omega

/-- As long as there is something left to do, a step is enabled that uses up some of it:
then a run gets to the end. -/
theorem reaches (measure : σ → Nat) {Inv Done : σ → Prop} {Kept : Transition σ α → Prop}
    (hstep : ∀ pre, Inv pre → ¬ Done pre → ∃ act post, step pre act = some post ∧
      Kept ⟨pre, act, post⟩ ∧ Inv post ∧ measure post < measure pre)
    (hstart : Inv start) :
    ∃ later state, Run step start later state ∧ (∀ t ∈ later, Kept t) ∧ Inv state ∧ Done state := by
  induction hmeasure : measure start using Nat.strongRecOn generalizing start with
  | ind bound ih =>
      by_cases hdone : Done start
      · exact ⟨[], start, .nil, by simp, hstart, hdone⟩
      · obtain ⟨act, post, taken, hkept, hpost, hless⟩ := hstep start hstart hdone
        obtain ⟨later, state, run, hlater, hend⟩ := ih (measure post) (hmeasure ▸ hless) hpost rfl
        refine ⟨later ++ [⟨start, act, post⟩], state, (Run.snoc .nil taken).trans run, ?_, hend⟩
        intro t mem
        rcases List.mem_append.mp mem with mem | mem
        · exact hlater t mem
        · rw [List.mem_singleton.mp mem]
          exact hkept

/-- Two runs in lockstep: what one system does from a state, the other does from a state
related to it, by the same label and to a related state. -/
theorem lockstep {step' : σ → α → Option σ} {start' : σ} {R : σ → σ → Prop}
    {Allowed : Transition σ α → Prop}
    (hstep : ∀ {pre act post pre'}, R pre pre' → step pre act = some post →
      Allowed ⟨pre, act, post⟩ → ∃ post', step' pre' act = some post' ∧ R post post')
    (hstart : R start start') (run : Run step start history state)
    (allowed : ∀ t ∈ history, Allowed t) :
    ∃ history' state', Run step' start' history' state' ∧ R state state' ∧
      List.Forall₂ (fun t t' => t'.act = t.act ∧ R t.pre t'.pre ∧ R t.post t'.post)
        history history' := by
  induction run with
  | nil => exact ⟨[], start', .nil, hstart, .nil⟩
  | @snoc history pre post act run taken ih =>
      obtain ⟨history', pre', run', hpre, hpairs⟩ :=
        ih fun t ht => allowed t (List.mem_cons_of_mem _ ht)
      obtain ⟨post', taken', hpost⟩ := hstep hpre taken (allowed _ List.mem_cons_self)
      exact ⟨⟨pre', act, post'⟩ :: history', post', run'.snoc taken', hpost,
        .cons ⟨rfl, hpre, hpost⟩ hpairs⟩

end Run

end

end FarBus.Foundation
