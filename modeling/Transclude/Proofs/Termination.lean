import Transclude.Reduction.Run

/-!
# Every reduction ends

A turn of the loop puts lighter lines in the place of a line, or takes lines away from those still
to be read. How much lighter they are depends on nothing but the limit on the depth of includes, so
the loop ends even if the hooks, the files and the answers to conditions are others in every turn.

## Main definitions

* `World`           : what may be different in every turn.
* `Loop.afterTurns` : the loop after a number of turns.
* `Loop.Ends`       : whether a turn is where the loop ends.

## Main statements

* `Loop.wellFounded_next` : there is no infinite sequence of turns.
* `Loop.exists_ends`      : every loop comes to its end.
-/

namespace Transclude

/-- What may be different in every turn: the hooks, how conditions are answered, and the files. -/
structure World where
  registry : Registry := {}
  evaluator : Evaluator := .standard
  files : FileTree := {}

/-- A setting in a world. -/
def Setting.inWorld (setting : Setting) (w : World) : Setting :=
  { setting with registry := w.registry, evaluator := w.evaluator, files := w.files }

namespace Loop

/-- The loop after a number of turns, each under its own setting, provided that none of them is the
last or is interrupted. -/
def afterTurns (settings : Nat → Setting) (l : Loop) : Nat → Option Loop
  | 0 => some l
  | n + 1 =>
    match l.step (settings 0) with
    | .ok (.next m) => afterTurns (fun k => settings (k + 1)) m n
    | _ => none

/-- Whether the loop ends with its next turn: nothing is left to be found, or the reduction cannot
go on. -/
def Ends (setting : Setting) (l : Loop) : Prop :=
  (∃ m, l.step setting = .ok (.last m)) ∨ ∃ i, l.step setting = .error (.interrupted i)

/-- A turn goes on, or the loop ends with it. -/
theorem next_or_ends (setting : Setting) (l : Loop) :
    (∃ m, l.step setting = .ok (.next m)) ∨ l.Ends setting := by
  cases hstep : l.step setting with
  | ok turn =>
    cases turn with
    | last m => exact .inr (.inl ⟨m, hstep⟩)
    | next m => exact .inl ⟨m, rfl⟩
  | error halt =>
    cases halt with
    | interrupted i => exact .inr (.inr ⟨i, hstep⟩)
    | outOfRange e => exact absurd hstep (l.step_inRange setting e)

/-- There is no infinite sequence of turns, whatever the setting of each of them, if all of them
limit the depth of includes alike. -/
theorem wellFounded_next (limit : Nat) : WellFounded fun m l : Loop =>
    ∃ setting : Setting, setting.options.maxIncludeDepth.meaning = limit ∧
      l.step setting = .ok (.next m) := by
  -- the order on the lines still to be read knows of the setting only the limit
  have hpending := InvImage.wf (fun l : Loop => l.state.pending)
    (PendingLt.wellFounded limit).transGen
  refine Subrelation.wf (fun {m l} hturn => ?_) hpending
  obtain ⟨setting, rfl, hstep⟩ := hturn
  exact pendingLt_of_step hstep

/-- A loop whose turns all limit the depth of includes alike comes to its end. -/
theorem exists_ends_of_limit (limit : Nat) (l : Loop) (settings : Nat → Setting)
    (hlimit : ∀ n, (settings n).options.maxIncludeDepth.meaning = limit) :
    ∃ n m, l.afterTurns settings n = some m ∧ m.Ends (settings n) := by
  -- the settings of the turns after the first are those of a loop that starts with them
  induction l using (wellFounded_next limit).induction generalizing settings with
  | _ l ih =>
    rcases l.next_or_ends (settings 0) with ⟨next, hnext⟩ | hends
    · obtain ⟨n, m, hafter, hends⟩ :=
        ih next ⟨settings 0, hlimit 0, hnext⟩ (fun k => settings (k + 1))
          (fun k => hlimit (k + 1))
      refine ⟨n + 1, m, ?_, hends⟩
      rw [afterTurns, hnext]
      exact hafter
    · exact ⟨0, l, rfl, hends⟩

/-- From whatever buffer it starts, the loop ends after finitely many turns, in both modes, whatever
the files hold and the hooks supply, and even if these are others in every turn. -/
theorem exists_ends (setting : Setting) (worlds : Nat → World) (l : Loop) :
    ∃ n m, l.afterTurns (fun k => setting.inWorld (worlds k)) n = some m ∧
      m.Ends (setting.inWorld (worlds n)) :=
  exists_ends_of_limit setting.options.maxIncludeDepth.meaning l _ fun _ => rfl

end Loop

end Transclude
