import Mathlib
import Ninefold.Proofs.FileTree

/-!
# Directories that cannot be made

A directory is made behind the one above it, which may have to be made before
it. Where one of them cannot be made, those that were made stay, but the path
does not lead to a directory: nothing that lies behind it has come to light.
-/

namespace Ninefold

/-! ## The path above -/

namespace Path

/-- A text that can stand between slashes. -/
structure Proper (name : String) : Prop where
  some : name.toList ≠ []
  slashFree : '/' ∉ name.toList

theorem proper_of_mem_names {path name : String} (h : name ∈ names path) : Proper name := by
  obtain ⟨piece, hpiece, rfl⟩ := List.mem_map.mp h
  obtain ⟨hmem, hsome⟩ := List.mem_filter.mp hpiece
  have hchars : piece.asString.toList = piece := String.toList_ofList
  constructor
  · rw [hchars]
    simpa using hsome
  · rw [hchars]
    exact Text.not_mem_of_mem_splitOn hmem

/-- Names put between slashes are the names of the path. -/
theorem names_intercalate {ns : List String} (h : ∀ name ∈ ns, Proper name) :
    names ("/".intercalate ns) = ns := by
  by_cases hnone : ns = []
  · subst hnone
    rfl
  have hpieces : ("/".intercalate ns).toList.splitOn '/' = ns.map String.toList := by
    rw [String.toList_intercalate]
    refine List.splitOn_intercalate '/' (fun piece hpiece => ?_) (by simpa using hnone)
    obtain ⟨name, hname, rfl⟩ := List.mem_map.mp hpiece
    exact (h name hname).slashFree
  have hsome : (ns.map String.toList).filter (!·.isEmpty) = ns.map String.toList := by
    refine List.filter_eq_self.mpr fun piece hpiece => ?_
    obtain ⟨name, hname, rfl⟩ := List.mem_map.mp hpiece
    simpa using (h name hname).some
  rw [names_eq, namesOf, hpieces, hsome, List.map_map]
  exact List.map_id'' (fun name => String.ofList_toList) ns

/-- Some of the names of a path, put between slashes, are left of the path when
characters are taken out of it. -/
theorem intercalate_sublist_of_names {t : Text} {ns : List String}
    (h : ns.Sublist (namesOf t)) : ("/".intercalate ns).toList.Sublist t := by
  have hpieces : (ns.map String.toList).Sublist (t.splitOn '/') := by
    have hnames : (namesOf t).map String.toList = (t.splitOn '/').filter (!·.isEmpty) := by
      rw [namesOf, List.map_map]
      exact List.map_id'' (fun piece => String.toList_ofList) _
    exact (hnames ▸ h.map String.toList).trans List.filter_sublist
  have hjoined := Text.intercalate_sublist ['/'] hpieces
  rw [List.intercalate_splitOn] at hjoined
  rw [String.toList_intercalate]
  exact hjoined

/-- Such a path begins at the working directory. -/
theorem isAbsolute_intercalate {ns : List String} (h : ∀ name ∈ ns, Proper name) :
    isAbsolute ("/".intercalate ns) = false := by
  cases ns with
  | nil => rfl
  | cons first rest =>
    obtain ⟨hsome, hfree⟩ := h first List.mem_cons_self
    obtain ⟨c, cs, hfirst⟩ := List.exists_cons_of_ne_nil hsome
    have hc : (some c == some '/') = false := by
      rw [hfirst] at hfree
      exact beq_eq_false_iff_ne.mpr fun heq =>
        List.ne_of_not_mem_cons hfree (Option.some.inj heq).symm
    unfold isAbsolute Text.ofString
    rw [String.toList_intercalate, List.map_cons, hfirst]
    cases rest <;> exact hc

/-- The names of a path that do not stay where they are. -/
def steps (path : String) : List String := (names path).filter (· != ".")

/-- **The path above has the steps of a path but for the last**, begins where
that begins, and is left of it when characters are taken out. -/
theorem parent?_eq_some {path above : String} (h : parent? path = some above) :
    ∃ last, steps path = names above ++ [last] ∧ isAbsolute above = isAbsolute path ∧
      above.toList.Sublist path.toList := by
  have habove : steps path ≠ [] ∧ above =
      if isAbsolute path then "/" ++ "/".intercalate (steps path).dropLast
      else "/".intercalate (steps path).dropLast := by
    unfold parent? at h
    unfold steps
    split at h
    · cases h
    next hsome => exact ⟨hsome, (Option.some.inj h).symm⟩
  obtain ⟨hsome, rfl⟩ := habove
  have hsub : (steps path).dropLast.Sublist (names path) :=
    (List.dropLast_sublist _).trans List.filter_sublist
  have hproper : ∀ name ∈ (steps path).dropLast, Proper name :=
    fun name hname => proper_of_mem_names (hsub.subset hname)
  refine ⟨(steps path).getLast hsome, ?_⟩
  cases habsolute : isAbsolute path with
  | false =>
    rw [if_neg (by decide), names_intercalate hproper, isAbsolute_intercalate hproper]
    exact ⟨(List.dropLast_concat_getLast hsome).symm, rfl, intercalate_sublist_of_names hsub⟩
  | true =>
    obtain ⟨rest, hrest⟩ : ∃ rest, path.toList = '/' :: rest := by
      unfold isAbsolute at habsolute
      exact List.head?_eq_some_iff.mp (beq_iff_eq.mp habsolute)
    have hnames : ∀ t : Text, namesOf ('/' :: t) = namesOf t := fun t => namesOf_append_cons [] t
    have hslash : ∀ ns : String, ("/" ++ ns).toList = '/' :: ns.toList := fun ns => by
      rw [String.toList_append]; rfl
    rw [if_pos rfl, names_eq, hslash, hnames, ← names_eq, names_intercalate hproper]
    refine ⟨(List.dropLast_concat_getLast hsome).symm, ?_, ?_⟩
    · unfold isAbsolute Text.ofString
      rw [hslash]
      rfl
    · rw [names_eq, hrest, hnames] at hsub
      rw [hrest]
      exact (intercalate_sublist_of_names hsub).cons_cons _

theorem length_names_above {path above : String} (h : parent? path = some above) :
    (names above).length < (names path).length := by
  obtain ⟨last, hsteps, -⟩ := parent?_eq_some h
  have hlength := congrArg List.length hsteps
  have hle : (steps path).length ≤ (names path).length := List.length_filter_le _ _
  rw [List.length_append, List.length_singleton] at hlength
  omega

end Path

/-! ## Where nothing is made -/

namespace FileTree

variable {t : FileTree} {cwd p : Place} {path above : String} {e : FileError}

/-- The names that stay where they are can be left out. -/
theorem follow_steps {start : Place} {names : List String} (h : t.follow start names = .ok p) :
    t.follow start (names.filter (· != ".")) = .ok p := by
  induction names generalizing start with
  | nil => exact h
  | cons name names ih =>
    have hdir := hasDirectory_of_follow h
    rw [follow_cons hdir] at h
    by_cases hdot : name = "."
    · subst hdot
      exact ih h
    · rw [List.filter_cons_of_pos (by simpa using hdot), follow_cons hdir]
      cases henter : enter start name with
      | error e =>
        rw [henter] at h
        cases h
      | ok q =>
        rw [henter] at h
        exact ih h

/-- Where a path leads to a directory, so does the path above. -/
theorem isDirectory_above (habove : Path.parent? path = some above) (hsome : above ≠ "")
    (h : t.isDirectory cwd path = true) : t.isDirectory cwd above = true := by
  obtain ⟨last, hsteps, habsolute, hsub⟩ := Path.parent?_eq_some habove
  obtain ⟨p, hloc, -⟩ := isDirectory_iff.mp h
  obtain ⟨hnul, -, hsize, hleads⟩ := locate_eq_ok_iff.mp hloc
  -- the names up to the last are those of the path above
  have hfollow := follow_steps hleads
  change t.follow _ (Path.steps path) = _ at hfollow
  rw [hsteps, follow_append_eq_ok_iff] at hfollow
  obtain ⟨q, hq, hlast⟩ := hfollow
  have hnul' : (Text.ofString above).contains '\x00' = false := by
    rw [← Bool.not_eq_true, List.contains_iff_mem] at hnul ⊢
    exact fun hmem => hnul (hsub.subset hmem)
  have hsize' : above.utf8ByteSize ≤ pathLimit := by
    have hle := String.utf8Len_le_of_sublist hsub
    rw [← String.utf8ByteSize_ofList, ← String.utf8ByteSize_ofList, String.ofList_toList,
      String.ofList_toList] at hle
    omega
  refine isDirectory_iff.mpr ⟨q, ?_, hasDirectory_of_follow hlast⟩
  exact locate_eq_ok_iff.mpr ⟨hnul', hsome, hsize', by rwa [habsolute]⟩

theorem makeDirectory_of_isDirectory (h : t.isDirectory cwd path = true) :
    t.makeDirectory cwd path = .error .present := by
  obtain ⟨p, hloc, hdir⟩ := isDirectory_iff.mp h
  unfold makeDirectory
  rw [hloc]
  exact if_pos (by rw [hasDirectory_iff.mp hdir]; rfl)

theorem makeDirectoriesFrom_empty {fuel : Nat} (h : 0 < fuel) :
    t.makeDirectoriesFrom cwd fuel "" = (.ok (), t) := by
  cases fuel with
  | zero => cases h
  | succ fuel => rfl

/-- **Where a directory cannot be made, the path leads to none afterwards.** -/
theorem isDirectory_of_makeDirectoriesFrom {fuel : Nat} {t' : FileTree}
    (hfuel : (Path.names path).length < fuel)
    (h : t.makeDirectoriesFrom cwd fuel path = (.error e, t')) :
    t'.isDirectory cwd path = false := by
  induction fuel generalizing path e t' with
  | zero => exact absurd hfuel (Nat.not_lt_zero _)
  | succ fuel ih =>
    -- what is not found when the making of it fails is no directory
    have hlook : ∀ {t : FileTree} {e' : FileError},
        (if t.isDirectory cwd path then Except.ok () else .error e', t) = (.error e, t') →
          t'.isDirectory cwd path = false := by
      intro t e' h
      obtain ⟨hr, rfl⟩ := Prod.mk.inj h
      by_contra hdir
      rw [if_pos (by simpa using hdir)] at hr
      cases hr
    unfold makeDirectoriesFrom at h
    split at h
    · cases h
    split at h
    · cases h
    next hmissing =>
      split at h
      next =>
        obtain ⟨-, rfl⟩ := Prod.mk.inj h
        by_contra hdir
        rw [makeDirectory_of_isDirectory (by simpa using hdir)] at hmissing
        cases hmissing
      next above habove =>
        split at h
        next e' t₁ hfrom =>
          obtain ⟨-, rfl⟩ := Prod.mk.inj h
          have hfewer : (Path.names above).length < fuel := by
            have hlength := Path.length_names_above habove
            omega
          have hsome : above ≠ "" := by
            rintro rfl
            rw [makeDirectoriesFrom_empty (by omega)] at hfrom
            cases hfrom
          have hnone := ih hfewer hfrom
          by_contra hdir
          rw [isDirectory_above habove hsome (by simpa using hdir)] at hnone
          cases hnone
        next t₁ hfrom =>
          split at h
          · cases h
          next => exact hlook h
    next => exact hlook h

/-- **Nothing is found in a directory that could not be made.** -/
theorem isThere_of_makeDirectories_error {root name : String} (hn : Path.Plain name)
    (h : (t.makeDirectories cwd root).1 = .error e) :
    (t.makeDirectories cwd root).2.isThere cwd (Path.child root name) = false := by
  have hnone : (t.makeDirectories cwd root).2.isDirectory cwd root = false :=
    isDirectory_of_makeDirectoriesFrom (Nat.lt_succ_self _) (Prod.ext h rfl)
  have hroot : root ≠ "" := by
    rintro rfl
    cases h
  by_contra hthere
  rw [isDirectory_of_isThere_child hn hroot (by simpa using hthere)] at hnone
  cases hnone

end FileTree

end Ninefold
