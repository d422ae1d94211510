/-!
# Turns that come again and again

Several sides take turns. A turn makes a step or, when the side has to wait, changes nothing. If each step
leaves less to do, and some side can make one as long as the end is not reached, then every schedule that
gives all sides their turns again and again reaches the end.

* `Progress` — what has to be known of single turns; `Progress.of_moves` — it is enough to know it of the
  turns in which something happens;
* `Progress.sound_foldl`, `Progress.work_le` — what a schedule keeps;
* `Progress.done_of_rounds` — the end is reached after as many rounds as there is work.
-/

namespace AqlGateway

variable {σ τ : Type}

/-- Turns of `sides` keep what is `Sound`, and each of them changes nothing or leaves less `work`. Until all
is `Done`, one of the sides can go on. -/
structure Progress (step : σ → τ → σ) (sides : List τ) (Sound Done : σ → Prop) (work : σ → Nat) :
    Prop where
  sound : ∀ s side, Sound s → Sound (step s side)
  done : ∀ s side, Done s → Done (step s side)
  less : ∀ s side, Sound s → step s side = s ∨ work (step s side) < work s
  goes_on : ∀ s, Sound s → ¬ Done s → ∃ side ∈ sides, work (step s side) < work s

namespace Progress

variable {step : σ → τ → σ} {sides : List τ} {Sound Done : σ → Prop} {work : σ → Nat} {s : σ}

/-- It is enough to know what the steps do in which something happens. -/
theorem of_moves {Move : σ → σ → Prop} (cases : ∀ s side, step s side = s ∨ Move s (step s side))
    (sound : ∀ s t, Sound s → Move s t → Sound t) (done : ∀ s t, Done s → Move s t → Done t)
    (less : ∀ s t, Sound s → Move s t → work t < work s)
    (goes_on : ∀ s, Sound s → ¬ Done s → ∃ side ∈ sides, Move s (step s side)) :
    Progress step sides Sound Done work where
  sound s side h := by
    rcases cases s side with heq | hmove
    · rw [heq]
      exact h
    · exact sound s _ h hmove
  done s side h := by
    rcases cases s side with heq | hmove
    · rw [heq]
      exact h
    · exact done s _ h hmove
  less s side h := (cases s side).imp_right (less s _ h)
  goes_on s h hdone := by
    obtain ⟨side, hside, hmove⟩ := goes_on s h hdone
    exact ⟨side, hside, less s _ h hmove⟩

theorem sound_foldl (h : Progress step sides Sound Done work) (hs : Sound s) (schedule : List τ) :
    Sound (schedule.foldl step s) := by
  induction schedule generalizing s with
  | nil => exact hs
  | cons side schedule ih => exact ih (h.sound s side hs)

theorem done_foldl (h : Progress step sides Sound Done work) (hs : Done s) (schedule : List τ) :
    Done (schedule.foldl step s) := by
  induction schedule generalizing s with
  | nil => exact hs
  | cons side schedule ih => exact ih (h.done s side hs)

/-- Nobody's turn brings work back. -/
theorem work_le (h : Progress step sides Sound Done work) (hs : Sound s) (schedule : List τ) :
    work (schedule.foldl step s) ≤ work s := by
  induction schedule generalizing s with
  | nil => exact Nat.le_refl _
  | cons side schedule ih =>
    refine Nat.le_trans (ih (h.sound s side hs)) ?_
    rcases h.less s side hs with heq | hless
    · exact Nat.le_of_eq (congrArg work heq)
    · exact Nat.le_of_lt hless

/-- A side that can make a step makes it, or another side makes one first. -/
theorem work_lt (h : Progress step sides Sound Done work) (hs : Sound s) {side : τ}
    (hside : work (step s side) < work s) {schedule : List τ} (hturn : side ∈ schedule) :
    work (schedule.foldl step s) < work s := by
  induction schedule with
  | nil => exact absurd hturn List.not_mem_nil
  | cons first schedule ih =>
    rw [List.foldl_cons]
    rcases h.less s first hs with heq | hless
    · rw [heq]
      refine ih (List.mem_of_ne_of_mem ?_ hturn)
      rintro rfl
      rw [heq] at hside
      exact Nat.lt_irrefl _ hside
    · exact Nat.lt_of_le_of_lt (h.work_le (h.sound s first hs) schedule) hless

/-- All is done after as many rounds as there is work, when every side has a turn in each of them. -/
theorem done_of_rounds (h : Progress step sides Sound Done work) (hs : Sound s)
    {rounds : List (List τ)} (hrounds : ∀ round ∈ rounds, ∀ side ∈ sides, side ∈ round)
    (hwork : work s ≤ rounds.length) : Done (rounds.flatten.foldl step s) := by
  induction rounds generalizing s with
  | nil =>
    by_cases hdone : Done s
    · exact hdone
    · obtain ⟨side, -, hless⟩ := h.goes_on s hs hdone
      rw [Nat.le_zero.mp hwork] at hless
      exact absurd hless (Nat.not_lt_zero _)
  | cons round rounds ih =>
    rw [List.flatten_cons, List.foldl_append]
    by_cases hdone : Done s
    · exact h.done_foldl (h.done_foldl hdone round) _
    -- The side that can go on has a turn in this round, so the round leaves less to do.
    · obtain ⟨side, hmem, hless⟩ := h.goes_on s hs hdone
      obtain ⟨hround, hlater⟩ := List.forall_mem_cons.mp hrounds
      have hfewer := h.work_lt hs hless (hround side hmem)
      rw [List.length_cons] at hwork
      exact ih (h.sound_foldl hs round) hlater (by omega)

end Progress

end AqlGateway
