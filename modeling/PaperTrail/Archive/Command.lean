import PaperTrail.Archive.Basic

/-!
# Commands

The ways to change an archive, as values, and what a series of them makes of it.  Annotating and
removing can fail and then change nothing.  Saving puts a document into the cabinet past the
policy.
-/

namespace PaperTrail

inductive Command
  | annotate (filename : String) (spelled : List String)
  | remove (filename : String)
  | save (document : Document)
  | clear
deriving DecidableEq

namespace Archive

def apply (a : Archive) : Command → Archive
  | .annotate filename spelled => (a.annotate filename spelled).1
  | .remove filename => (a.remove filename).1
  | .save document => { a with cabinet := a.cabinet.save document }
  | .clear => { a with cabinet := .empty }

def applyAll (a : Archive) (commands : List Command) : Archive := commands.foldl apply a

theorem applyAll_append (a : Archive) (first second : List Command) :
    a.applyAll (first ++ second) = (a.applyAll first).applyAll second :=
  List.foldl_append

/-- No command changes the settings or the policy. -/
theorem rules_apply (a : Archive) (command : Command) :
    (a.apply command).settings = a.settings ∧ (a.apply command).policy = a.policy := by
  cases command with
  | annotate filename spelled =>
      simp only [apply, annotate]
      split <;> exact ⟨rfl, rfl⟩
  | remove filename =>
      simp only [apply, remove]
      split <;> exact ⟨rfl, rfl⟩
  | save document => exact ⟨rfl, rfl⟩
  | clear => exact ⟨rfl, rfl⟩

end Archive

end PaperTrail
