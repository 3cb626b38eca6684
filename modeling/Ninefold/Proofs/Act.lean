import Ninefold.Session
import Ninefold.World

/-!
# Performing acts

What an act comes to in a world, act by act: a bind hands on the world and
stops at a failure, a note only lengthens the notes, and a file that the user
named is read as it lies there. On a catalog in memory an operation is
performed by rewriting with these alone.
-/

namespace Ninefold

/-- The text of a file, as far as the world has one at the path. -/
def World.source (w : World) (path : String) : Except FileError Text :=
  Act.decode (w.files.read w.cwd path)

/-- A world with one file in its working directory. -/
def World.ofFile (name : String) (t : Text) : World :=
  ⟨⟨.ofList [([name], .file t.bytes)]⟩, [], default, 0, .empty, [], []⟩

/-- The world with more notes. -/
def World.noted (w : World) (ns : List Note) : World := { w with notes := w.notes ++ ns }

@[simp] theorem World.noted_nil (w : World) : w.noted [] = w := by
  rw [noted, List.append_nil]

@[simp] theorem World.noted_noted (w : World) (ns ns' : List Note) :
    (w.noted ns).noted ns' = w.noted (ns ++ ns') := by
  simp [noted]

namespace Act

variable {α β : Type}

/-- The world after an act. -/
def after (a : Act α) (w : World) : World := (a.perform w).2

/-- An act that comes to something leaves a world. -/
theorem exists_perform_eq {a : Act α} {w : World} {r : Except Failure α}
    (h : (a.perform w).1 = r) : ∃ w', a.perform w = (r, w') := ⟨(a.perform w).2, Prod.ext h rfl⟩

@[simp] theorem perform_pure (a : α) (w : World) : (pure a : Act α).perform w = (.ok a, w) := rfl

@[simp] theorem perform_ofExcept (r : Except Failure α) (w : World) :
    (ofExcept r).perform w = (r, w) := rfl

@[simp] theorem perform_send (r : Request) (w : World) :
    (send r).perform w = (.ok (w.answer r).1, (w.answer r).2) := rfl

/-- An act goes on in the world that the one before it leaves. -/
theorem perform_bind (a : Act α) (f : α → Act β) (w : World) :
    (a >>= f).perform w =
      match (a.perform w).1 with
      | .ok x => (f x).perform (a.perform w).2
      | .error e => (.error e, (a.perform w).2) := by
  show Script.run ((ExceptT.run a).bind (ExceptT.bindCont f)) w = _
  rw [Script.run_bind]
  show _ = match (Script.run (ExceptT.run a) w).1 with
    | .ok x => (f x).perform (Script.run (ExceptT.run a) w).2
    | .error e => (.error e, (Script.run (ExceptT.run a) w).2)
  cases (Script.run (ExceptT.run a) w).1 with
  | ok x => rfl
  | error e => rfl

theorem perform_bind_ok {a : Act α} {w w' : World} {x : α} (h : a.perform w = (.ok x, w'))
    (f : α → Act β) : (a >>= f).perform w = (f x).perform w' := by
  rw [perform_bind, h]

theorem perform_bind_error {a : Act α} {w w' : World} {e : Failure}
    (h : a.perform w = (.error e, w')) (f : α → Act β) :
    (a >>= f).perform w = (.error e, w') := by
  rw [perform_bind, h]

/-- What comes to something comes to something first. -/
theorem perform_of_bind_ok {a : Act α} {f : α → Act β} {w w' : World} {y : β}
    (h : (a >>= f).perform w = (.ok y, w')) : ∃ x w₁, a.perform w = (.ok x, w₁) := by
  cases hfirst : a.perform w with
  | mk r w₁ =>
    cases r with
    | ok x => exact ⟨x, w₁, rfl⟩
    | error e =>
      rw [perform_bind_error hfirst] at h
      cases h

@[simp] theorem perform_notes (ns : List Note) (w : World) :
    (notes ns).perform w = (.ok (), w.noted ns) := by
  induction ns generalizing w with
  | nil => simp [notes, World.noted]
  | cons n rest ih =>
    rw [notes, perform_bind_ok (perform_send (.note n) w), ih]
    simp [World.noted, World.answer]

@[simp] theorem perform_readSource (path : String) (w : World) :
    (readSource path).perform w = ((w.source path).mapError (.unreadable path), w) := by
  show Script.run ((Script.send (.read path)).bind _) w = _
  rw [Script.run_bind]
  cases h : w.source path with
  | ok t =>
    have hdecode : decode ((Script.send (.read path)).run w).1 = .ok t := h
    rw [hdecode]
    rfl
  | error e =>
    have hdecode : decode ((Script.send (.read path)).run w).1 = .error e := h
    rw [hdecode]
    rfl

@[simp] theorem perform_attempt (a : Act α) (w : World) :
    (attempt a).perform w = (.ok (a.perform w).1, (a.perform w).2) :=
  Script.run_bind (ExceptT.run a) _ w

end Act

end Ninefold
