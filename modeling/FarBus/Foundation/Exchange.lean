/-
  Foundation/Exchange.lean --- questions, and what is said to them, in order.

  A party that answers one question after the other leaves a log: each question with
  what it said until it took the next one.  Where every question that matters gets
  exactly one answer that matters, and all others get none, questions and answers are
  matched by their positions.
-/
import Mathlib.Data.List.Basic

set_option autoImplicit false

namespace FarBus.Foundation

universe u v

/-- The questions in order, each with what was said to it. -/
abbrev Exchanges (ρ : Type u) (α : Type v) : Type (max u v) := List (ρ × List α)

namespace Exchanges

variable {ρ : Type u} {α : Type v}

/-- New questions, with nothing said to them. -/
def ask (log : Exchanges ρ α) (questions : List ρ) : Exchanges ρ α :=
  log ++ questions.map fun question => (question, [])

/-- What is said is said to the latest question. -/
def say : Exchanges ρ α → List α → Exchanges ρ α
  | [], _ => []
  | [exchange], answers => [(exchange.1, exchange.2 ++ answers)]
  | exchange :: next :: log, answers => exchange :: say (next :: log) answers

/-- All that was said. -/
def said (log : Exchanges ρ α) : List α := log.flatMap Prod.snd

@[simp] theorem ask_nil (log : Exchanges ρ α) : log.ask [] = log := List.append_nil log

theorem say_concat (log : Exchanges ρ α) (question : ρ) (before answers : List α) :
    say (log ++ [(question, before)]) answers = log ++ [(question, before ++ answers)] := by
  induction log with
  | nil => rfl
  | cons exchange log ih =>
      cases log with
      | nil => rfl
      | cons next log =>
          rw [List.cons_append, List.cons_append, say, ← List.cons_append, ih]
          rfl

@[simp] theorem say_nil (log : Exchanges ρ α) : log.say [] = log := by
  rcases List.eq_nil_or_concat log with rfl | ⟨before, last, rfl⟩
  · rfl
  · rw [List.concat_eq_append, say_concat, List.append_nil]

theorem said_append (log log' : Exchanges ρ α) : said (log ++ log') = said log ++ said log' :=
  List.flatMap_append

@[simp] theorem said_ask (log : Exchanges ρ α) (questions : List ρ) :
    (log.ask questions).said = log.said := by
  rw [ask, said_append]
  have hnone : said (questions.map fun question => ((question, []) : ρ × List α)) = [] := by
    rw [said, List.flatMap_eq_nil_iff]
    intro exchange mem
    obtain ⟨question, -, rfl⟩ := List.mem_map.mp mem
    rfl
  rw [hnone, List.append_nil]

theorem said_say {log : Exchanges ρ α} {answers : List α} (h : log = [] → answers = []) :
    (log.say answers).said = log.said ++ answers := by
  rcases List.eq_nil_or_concat log with rfl | ⟨before, last, rfl⟩
  · rw [h rfl]
    rfl
  · rw [List.concat_eq_append, say_concat, said_append, said_append, List.append_assoc]
    simp [said]

theorem map_fst_ask (log : Exchanges ρ α) (questions : List ρ) :
    (log.ask questions).map Prod.fst = log.map Prod.fst ++ questions := by
  simp [ask, Function.comp_def]

@[simp] theorem map_fst_say (log : Exchanges ρ α) (answers : List α) :
    (log.say answers).map Prod.fst = log.map Prod.fst := by
  rcases List.eq_nil_or_concat log with rfl | ⟨before, last, rfl⟩
  · rfl
  · obtain ⟨question, before'⟩ := last
    simp [List.concat_eq_append, say_concat]

/-- Every exchange is complete but, where there is one, that of the open question, to
which nothing was said yet. -/
inductive InTurn (Complete : ρ → List α → Prop) : Exchanges ρ α → Option ρ → Prop where
  | closed {log : Exchanges ρ α} (complete : ∀ exchange ∈ log, Complete exchange.1 exchange.2) :
      InTurn Complete log none
  | current {log : Exchanges ρ α} (question : ρ)
      (complete : ∀ exchange ∈ log, Complete exchange.1 exchange.2) :
      InTurn Complete (log ++ [(question, [])]) (some question)

section

variable {Complete : ρ → List α → Prop} {log : Exchanges ρ α}

theorem InTurn.ask (h : InTurn Complete log none) (question : ρ) :
    InTurn Complete (log.ask [question]) (some question) := by
  cases h with
  | closed complete => exact .current question complete

theorem InTurn.say {question : ρ} (h : InTurn Complete log (some question)) {answers : List α}
    (hcomplete : Complete question answers) : InTurn Complete (log.say answers) none := by
  cases h with
  | current question complete =>
      rw [say_concat]
      refine .closed ?_
      intro exchange mem
      rcases List.mem_append.mp mem with mem | mem
      · exact complete exchange mem
      · rw [List.mem_singleton.mp mem]
        exact hcomplete

theorem InTurn.ne_nil {question : ρ} (h : InTurn Complete log (some question)) : log ≠ [] := by
  cases h with
  | current question complete => exact List.concat_ne_nil _ _

/-- The complete exchanges, and after them nothing was said. -/
theorem InTurn.split {question : Option ρ} (h : InTurn Complete log question) :
    ∃ done rest, log = done ++ rest ∧ (∀ exchange ∈ done, Complete exchange.1 exchange.2) ∧
      said rest = [] := by
  cases h with
  | closed complete => exact ⟨log, [], (List.append_nil log).symm, complete, rfl⟩
  | current question complete => exact ⟨_, [(question, [])], rfl, complete, rfl⟩

end

/-! ## Matching by position -/

/-- The questions that matter get one answer, which matters; the others get none that
does. -/
structure Matches (Complete : ρ → List α → Prop) (question : ρ → Bool) (answer : α → Bool) :
    Prop where
  one : ∀ asked answers, Complete asked answers → question asked = true →
    ∃ a, answers = [a] ∧ answer a = true
  none : ∀ asked answers, Complete asked answers → question asked = false →
    answers.filter answer = []

section

variable {Complete : ρ → List α → Prop} {question : ρ → Bool} {answer : α → Bool}
  {log : Exchanges ρ α}

theorem Matches.getElem?_of_complete (h : Matches Complete question answer)
    (hlog : ∀ exchange ∈ log, Complete exchange.1 exchange.2) {k : Nat} {a : α}
    (ha : (log.said.filter answer)[k]? = some a) :
    ∃ asked, (log.filter fun exchange => question exchange.1)[k]? = some (asked, [a]) ∧
      Complete asked [a] := by
  induction log generalizing k with
  | nil => cases ha
  | cons exchange log ih =>
      obtain ⟨asked, answers⟩ := exchange
      have hcomplete : Complete asked answers := hlog _ List.mem_cons_self
      have hrest := fun {k : Nat} => @ih (fun exchange mem => hlog exchange (List.mem_cons_of_mem _ mem)) k
      have hfilter : (said ((asked, answers) :: log)).filter answer =
          answers.filter answer ++ (said log).filter answer := by
        rw [said, List.flatMap_cons, List.filter_append]
        rfl
      rw [hfilter] at ha
      rw [List.filter_cons]
      cases hquestion : question asked with
      | true =>
          obtain ⟨first, rfl, hfirst⟩ := h.one asked answers hcomplete hquestion
          rw [if_pos rfl]
          rw [List.filter_cons_of_pos hfirst, List.filter_nil, List.singleton_append] at ha
          cases k with
          | zero =>
              cases ha
              exact ⟨asked, rfl, hcomplete⟩
          | succ k => exact hrest ha
      | false =>
          rw [if_neg Bool.false_ne_true]
          rw [h.none asked answers hcomplete hquestion, List.nil_append] at ha
          exact hrest ha

/-- The answer in place `k` is the one answer to the question in place `k`. -/
theorem Matches.getElem? (h : Matches Complete question answer) {current : Option ρ}
    (hturn : InTurn Complete log current) {k : Nat} {a : α}
    (ha : (log.said.filter answer)[k]? = some a) :
    ∃ asked, (log.filter fun exchange => question exchange.1)[k]? = some (asked, [a]) ∧
      Complete asked [a] := by
  obtain ⟨done, rest, rfl, hdone, hrest⟩ := hturn.split
  rw [said_append, hrest, List.append_nil] at ha
  obtain ⟨asked, hasked, hcomplete⟩ := h.getElem?_of_complete hdone ha
  refine ⟨asked, ?_, hcomplete⟩
  rw [List.filter_append, List.getElem?_append_left (List.getElem?_eq_some_iff.mp hasked).1]
  exact hasked

/-- There are not more answers than questions. -/
theorem Matches.length_le (h : Matches Complete question answer) {current : Option ρ}
    (hturn : InTurn Complete log current) :
    (log.said.filter answer).length ≤ (log.filter fun exchange => question exchange.1).length := by
  apply Nat.le_of_not_lt
  intro hlt
  obtain ⟨asked, hasked, -⟩ := h.getElem? hturn (List.getElem?_eq_getElem hlt)
  exact Nat.lt_irrefl _ (List.getElem?_eq_some_iff.mp hasked).1

end

end Exchanges

end FarBus.Foundation
