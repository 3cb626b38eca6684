import Mathlib
import Ninefold.Proofs.Reach

/-!
# Operations with another pen

With a pen that differs from the ordinary one at some coordinates operations
come to the same as long as no such coordinate is edited. So that an operation
edits at certain coordinates alone is said by what it comes to with every pen
that is ordinary there.
-/

namespace Ninefold

/-- A pen that edits as the ordinary one does at certain coordinates. -/
structure Pen.OrdinaryAt (pen : Pen) (place : Coordinate → Prop) : Prop where
  replace : ∀ doc {c} t, place c → pen.replace doc c t = doc.replace c t
  append : ∀ doc {c} t, place c → pen.append doc c t = doc.append c t
  remove : ∀ doc {c}, place c → pen.remove doc c = doc.remove c

/-! ## Acts that come to the same -/

namespace Act

variable {α β : Type} {l : Law} {a b : Act α} {f g : α → Act β} {P : α → Prop}

/-- Two acts that come to the same in every world that obeys a law. -/
def SameUnder (l : Law) (a b : Act α) : Prop := ∀ w : World, w.Obeys l → a.perform w = b.perform w

theorem SameUnder.refl (a : Act α) : a.SameUnder l a := fun _ _ => rfl

/-- The same followed by what is the same for what it comes to. -/
theorem SameUnder.bind (h : a.SameUnder l b) (hb : b.Upholds l P)
    (hfg : ∀ x, P x → (f x).SameUnder l (g x)) : (a >>= f).SameUnder l (b >>= g) := by
  intro w hw
  obtain ⟨hafter, hresult⟩ := hb w hw
  have hfirst := h w hw
  cases hrun : b.perform w with
  | mk r w' =>
    rw [hrun] at hafter hresult hfirst
    cases r with
    | error e => rw [perform_bind_error hrun, perform_bind_error hfirst]
    | ok x =>
      rw [perform_bind_ok hrun, perform_bind_ok hfirst]
      exact hfg x (hresult x rfl) w' hafter

theorem Upholds.bind_same (h : a.Upholds l P) (hfg : ∀ x, P x → (f x).SameUnder l (g x)) :
    (a >>= f).SameUnder l (a >>= g) := (SameUnder.refl a).bind h hfg

end Act

/-! ## Where operations edit -/

namespace Rule

variable {r : Rule} {home : Home} {cwd : Place} {pen : Pen} (hpen : pen.OrdinaryAt r.place)

include hpen

theorem same_place {f : Session.Filling} (hf : r.Fills f) (name : String) (t : Text) :
    (f.place pen name t).SameUnder (r.law home cwd) (f.place .ordinary name t) := by
  unfold Session.Filling.place
  cases hfree : f.free with
  | none => exact .refl _
  | some c =>
    simp only [hpen.replace f.document t (hf.free c hfree)]
    exact .refl _

theorem same_takeFile {f : Session.Filling} (hf : r.Fills f) (directory name : String) :
    (f.takeFile pen directory name).SameUnder (r.law home cwd)
      (f.takeFile .ordinary directory name) := by
  refine (Act.upholds_send (.read (Path.child directory name)) trivial).bind_same
    fun content _ => ?_
  cases Act.decode content with
  | error e => exact .refl _
  | ok t =>
    show Act.SameUnder _ (if _ then _ else _) (if _ then _ else _)
    split
    · exact .refl _
    · exact same_place hpen hf name t

/-- File after file goes where it goes with the ordinary pen. -/
theorem same_takeFiles (directory : String) (names : List String) {f : Session.Filling}
    (hf : r.Fills f) :
    (Session.Filling.takeFiles pen directory names f).SameUnder (r.law home cwd)
      (Session.Filling.takeFiles .ordinary directory names f) := by
  induction names generalizing f with
  | nil => exact .refl _
  | cons name rest ih =>
    exact (same_takeFile hpen hf directory name).bind (upholds_takeFile hf directory name)
      fun f' hf' => ih hf'

variable {s : Session} (hs : r.Holds home s)

include hs

theorem same_insert (label address : Option String) (t : Text) :
    (s.insert pen label address t).SameUnder (r.law home cwd)
      (s.insert .ordinary label address t) := by
  refine (upholds_requested address).bind_same fun request hrequest => ?_
  refine (upholds_fetchOrStart hs label).bind_same fun doc hdoc => ?_
  simp only [hpen.append doc.document t (hdoc.target hrequest)]
  exact .refl _

theorem same_update (label address : Option String) (t : Text) :
    (s.update pen label address t).SameUnder (r.law home cwd)
      (s.update .ordinary label address t) := by
  refine (upholds_requested address).bind_same fun request hrequest => ?_
  refine (upholds_fetchOrStart hs label).bind_same fun doc hdoc => ?_
  simp only [hpen.replace doc.document t (hdoc.target hrequest)]
  exact .refl _

theorem same_delete (label address : Option String) :
    (s.delete pen label address).SameUnder (r.law home cwd) (s.delete .ordinary label address) := by
  refine (upholds_requested address).bind_same fun request hrequest => ?_
  refine (upholds_fetch hs label).bind_same fun doc hdoc => ?_
  simp only [hpen.remove doc.document (hdoc.target hrequest)]
  exact .refl _

theorem same_push (label address : Option String) (path : String) :
    (s.push pen label address path).SameUnder (r.law home cwd)
      (s.push .ordinary label address path) := by
  refine (upholds_requested address).bind_same fun request hrequest => ?_
  refine (upholds_readSource path).bind_same fun t _ => ?_
  refine (upholds_fetchOrStart hs label).bind_same fun doc hdoc => ?_
  simp only [hpen.replace doc.document t (hdoc.target hrequest)]
  exact .refl _

theorem same_slurp (label address : Option String) (directory : String) :
    (s.slurp pen label address directory).SameUnder (r.law home cwd)
      (s.slurp .ordinary label address directory) := by
  refine (upholds_requested address).bind_same fun request hrequest => ?_
  refine (Act.upholds_quiet (Session.quiet_namesIn directory)).bind_same fun listed _ => ?_
  refine (Act.upholds_quiet (Session.quiet_filesOf directory listed)).bind_same fun names _ => ?_
  refine (upholds_fetchOrStart hs label).bind_same fun doc hdoc => ?_
  have hstart := fills_start (d := doc.document) rfl hdoc.text (hdoc.target hrequest)
  exact (same_takeFiles hpen directory names hstart).bind
    (upholds_takeFiles directory names hstart) fun _ _ => .refl _

/-- Every operation comes to the same with a pen that is ordinary where the
rule lets documents stand. -/
theorem same_callWith (c : Call) :
    (s.callWith pen c).SameUnder (r.law home cwd) (s.call c) := by
  cases c with
  | insert label address text => exact same_insert hpen hs label address text
  | update label address text => exact same_update hpen hs label address text
  | delete label address => exact same_delete hpen hs label address
  | push label address path => exact same_push hpen hs label address path
  | slurp label address directory => exact same_slurp hpen hs label address directory
  | _ => exact .refl _

end Rule

end Ninefold
