import EntitySlice.Proofs.FileTree.Way

/-!
# Making directories

* `grown_makeDirectories` — making directories adds directories on the way and changes nothing else
* `makeDirectories_congr` — what it does depends on the places on its way
* `makeDirectories_again` — the second time it does nothing more and fails as before
* `directories_of_makeDirectories` — after success there are directories all along the way
-/

namespace EntitySlice.FileTree

variable {t t' : FileTree} {place : List String} {cs : List PathComponent}

/-! ## One component -/

/-- A component that is no name makes nothing. -/
theorem makeDirectories_cons_of_not_name {c : PathComponent} (hc : ∀ n, c ≠ .name n) (t : FileTree)
    (place : List String) (cs : List PathComponent) :
    t.makeDirectories place (c :: cs) = t.makeDirectories (c.step place) cs := by
  cases c with
  | name n => exact absurd rfl (hc n)
  | _ => rfl

theorem makeDirectories_name_of_exceeded {n : String}
    (h : FileLimits.isExceeded t.limits.name? n = true) :
    t.makeDirectories place (.name n :: cs) = (t, .error .nameTooLong) := by
  rw [makeDirectories, if_pos h]

theorem makeDirectories_name_of_directory {n : String}
    (h : FileLimits.isExceeded t.limits.name? n = false)
    (hd : t.find? (place ++ [n]) = some .directory) :
    t.makeDirectories place (.name n :: cs) = t.makeDirectories (place ++ [n]) cs := by
  rw [makeDirectories, if_neg (by simp [h])]
  simp only [hd]

theorem makeDirectories_name_of_file {n : String} {content : ByteArray}
    (h : FileLimits.isExceeded t.limits.name? n = false)
    (hf : t.find? (place ++ [n]) = some (.file content)) :
    t.makeDirectories place (.name n :: cs) =
      (t, .error (if cs.isEmpty then .alreadyExists else .notDirectory)) := by
  rw [makeDirectories, if_neg (by simp [h])]
  simp only [hf]

theorem makeDirectories_name_of_none {n : String}
    (h : FileLimits.isExceeded t.limits.name? n = false) (hn : t.find? (place ++ [n]) = none) :
    t.makeDirectories place (.name n :: cs) =
      (t.put (place ++ [n]) .directory).makeDirectories (place ++ [n]) cs := by
  rw [makeDirectories, if_neg (by simp [h])]
  simp only [hn]

/--
What making directories does is told by what it does at one component: nothing for one that is no
name, and for a name one of four things.
-/
theorem makeDirectories_induction {motive : FileTree → List String → List PathComponent → Prop}
    (nil : ∀ t place, motive t place [])
    (step : ∀ t place c cs, (∀ n, c ≠ .name n) → motive t (c.step place) cs →
      motive t place (c :: cs))
    (tooLong : ∀ t place n cs, FileLimits.isExceeded t.limits.name? n = true →
      motive t place (.name n :: cs))
    (directory : ∀ t place n cs, FileLimits.isExceeded t.limits.name? n = false →
      t.find? (place ++ [n]) = some .directory → motive t (place ++ [n]) cs →
      motive t place (.name n :: cs))
    (file : ∀ t place n cs content, FileLimits.isExceeded t.limits.name? n = false →
      t.find? (place ++ [n]) = some (.file content) → motive t place (.name n :: cs))
    (none : ∀ t place n cs, FileLimits.isExceeded t.limits.name? n = false →
      t.find? (place ++ [n]) = none →
      motive (t.put (place ++ [n]) .directory) (place ++ [n]) cs → motive t place (.name n :: cs))
    (t : FileTree) (place : List String) (cs : List PathComponent) : motive t place cs := by
  induction cs generalizing t place with
  | nil => exact nil t place
  | cons c cs ih =>
    cases c with
    | name n =>
      cases hl : FileLimits.isExceeded t.limits.name? n with
      | true => exact tooLong t place n cs hl
      | false =>
        cases hf : t.find? (place ++ [n]) with
        | none => exact none t place n cs hl hf (ih _ _)
        | some e =>
          cases e with
          | file content => exact file t place n cs content hl hf
          | directory => exact directory t place n cs hl hf (ih _ _)
    | _ => exact step t place _ cs (by simp) (ih _ _)

/-! ## What is made -/

/-- **Making directories adds directories on the way and changes nothing else.** -/
theorem grown_makeDirectories (t : FileTree) (place : List String) (cs : List PathComponent) :
    Grown (stops place cs) t (t.makeDirectories place cs).1 := by
  induction t, place, cs using makeDirectories_induction with
  | nil t place => exact Grown.refl t
  | step t place c cs hc ih =>
    rw [makeDirectories_cons_of_not_name hc]
    exact ih.mono fun q hq => List.mem_cons_of_mem _ hq
  | tooLong t place n cs hl =>
    rw [makeDirectories_name_of_exceeded hl]
    exact Grown.refl t
  | directory t place n cs hl hd ih =>
    rw [makeDirectories_name_of_directory hl hd]
    exact ih.mono fun q hq => List.mem_cons_of_mem _ hq
  | file t place n cs content hl hf =>
    rw [makeDirectories_name_of_file hl hf]
    exact Grown.refl t
  | none t place n cs hl hn ih =>
    rw [makeDirectories_name_of_none hl hn]
    have hmem : place ++ [n] ∈ stops place (.name n :: cs) :=
      List.mem_cons_of_mem _ (self_mem_stops _ cs)
    exact (Grown.put (by simp) hmem hn).trans (ih.mono fun q hq => List.mem_cons_of_mem _ hq)

/-- What is made depends on the places on the way. -/
theorem makeDirectories_congr {S : List String → Prop} (h : Agree S t t')
    (hs : ∀ q ∈ stops place cs, S q) :
    (t'.makeDirectories place cs).2 = (t.makeDirectories place cs).2 ∧
      Agree S (t.makeDirectories place cs).1 (t'.makeDirectories place cs).1 := by
  induction t, place, cs using makeDirectories_induction generalizing t' with
  | nil t place => exact ⟨rfl, h⟩
  | step t place c cs hc ih =>
    rw [makeDirectories_cons_of_not_name hc, makeDirectories_cons_of_not_name hc]
    exact ih h fun q hq => hs q (List.mem_cons_of_mem _ hq)
  | tooLong t place n cs hl =>
    rw [makeDirectories_name_of_exceeded hl, makeDirectories_name_of_exceeded (h.limits ▸ hl)]
    exact ⟨rfl, h⟩
  | directory t place n cs hl hd ih =>
    have hd' : t'.find? (place ++ [n]) = some .directory :=
      (h.find? _ (hs _ (List.mem_cons_of_mem _ (self_mem_stops _ cs)))).trans hd
    rw [makeDirectories_name_of_directory hl hd,
      makeDirectories_name_of_directory (h.limits ▸ hl) hd']
    exact ih h fun q hq => hs q (List.mem_cons_of_mem _ hq)
  | file t place n cs content hl hf =>
    have hf' : t'.find? (place ++ [n]) = some (.file content) :=
      (h.find? _ (hs _ (List.mem_cons_of_mem _ (self_mem_stops _ cs)))).trans hf
    rw [makeDirectories_name_of_file hl hf, makeDirectories_name_of_file (h.limits ▸ hl) hf']
    exact ⟨rfl, h⟩
  | none t place n cs hl hn ih =>
    have hn' : t'.find? (place ++ [n]) = none :=
      (h.find? _ (hs _ (List.mem_cons_of_mem _ (self_mem_stops _ cs)))).trans hn
    rw [makeDirectories_name_of_none hl hn, makeDirectories_name_of_none (h.limits ▸ hl) hn']
    exact ih (h.put (by simp) _) fun q hq => hs q (List.mem_cons_of_mem _ hq)

/-- Where directories are all along the way there is nothing to make. -/
theorem makeDirectories_of_directories (hd : ∀ q ∈ stops place cs, t.find? q = some .directory)
    (hl : ∀ c ∈ cs, c.fits t.limits = true) : t.makeDirectories place cs = (t, .ok ()) := by
  induction cs generalizing place with
  | nil => rfl
  | cons c cs ih =>
    rw [stops_cons, List.forall_mem_cons] at hd
    rw [List.forall_mem_cons] at hl
    have hrest := ih hd.2 hl.2
    cases c with
    | name n =>
      have hn : FileLimits.isExceeded t.limits.name? n = false := by
        simpa [PathComponent.fits] using hl.1
      rw [makeDirectories_name_of_directory hn (hd.2 _ (self_mem_stops _ cs))]
      exact hrest
    | _ => exact hrest

/-- Where no file is in the way and no name is too long, all directories can be made. -/
theorem makeDirectories_ok (hf : ∀ q ∈ stops place cs, ∀ content, t.find? q ≠ some (.file content))
    (hl : ∀ c ∈ cs, c.fits t.limits = true) : (t.makeDirectories place cs).2 = .ok () := by
  induction t, place, cs using makeDirectories_induction with
  | nil t place => rfl
  | step t place c cs hc ih =>
    rw [stops_cons, List.forall_mem_cons] at hf
    rw [List.forall_mem_cons] at hl
    rw [makeDirectories_cons_of_not_name hc]
    exact ih hf.2 hl.2
  | tooLong t place n cs hn =>
    have hfits := hl (.name n) (by simp)
    simp [PathComponent.fits, hn] at hfits
  | directory t place n cs hn hd ih =>
    rw [stops_cons, List.forall_mem_cons] at hf
    rw [List.forall_mem_cons] at hl
    rw [makeDirectories_name_of_directory hn hd]
    exact ih hf.2 hl.2
  | file t place n cs content hn hfile =>
    rw [stops_cons, List.forall_mem_cons] at hf
    exact absurd hfile (hf.2 _ (self_mem_stops _ cs) content)
  | none t place n cs hn hnone ih =>
    rw [stops_cons, List.forall_mem_cons] at hf
    rw [List.forall_mem_cons] at hl
    rw [makeDirectories_name_of_none hn hnone]
    refine ih ?_ hl.2
    intro q hq content
    rw [find?_put _ (by simp)]
    split
    · simp
    · exact hf.2 q hq content

/-- Components are made one part after the other; a file is no directory for the second part. -/
theorem makeDirectories_append (t : FileTree) (place : List String) (cs : List PathComponent)
    {ds : List PathComponent} (hds : ds ≠ []) :
    t.makeDirectories place (cs ++ ds) =
      match t.makeDirectories place cs with
      | (u, .ok ()) => u.makeDirectories (placeFrom place cs) ds
      | (u, .error e) => (u, .error (if e = .alreadyExists then .notDirectory else e)) := by
  induction t, place, cs using makeDirectories_induction with
  | nil t place => rfl
  | step t place c cs hc ih =>
    rw [List.cons_append, makeDirectories_cons_of_not_name hc, makeDirectories_cons_of_not_name hc,
      placeFrom_cons]
    exact ih
  | tooLong t place n cs hl =>
    rw [List.cons_append, makeDirectories_name_of_exceeded hl, makeDirectories_name_of_exceeded hl]
    rfl
  | directory t place n cs hl hd ih =>
    rw [List.cons_append, makeDirectories_name_of_directory hl hd,
      makeDirectories_name_of_directory hl hd, placeFrom_cons]
    exact ih
  | file t place n cs content hl hf =>
    rw [List.cons_append, makeDirectories_name_of_file hl hf, makeDirectories_name_of_file hl hf]
    -- A file at the end of the first part is in the way of the second.
    cases cs <;> simp [hds]
  | none t place n cs hl hn ih =>
    rw [List.cons_append, makeDirectories_name_of_none hl hn, makeDirectories_name_of_none hl hn,
      placeFrom_cons]
    exact ih

/-- The second time nothing more is made, and the failure is the same. -/
theorem makeDirectories_again (t : FileTree) (place : List String) (cs : List PathComponent) :
    (t.makeDirectories place cs).1.makeDirectories place cs = t.makeDirectories place cs := by
  induction t, place, cs using makeDirectories_induction with
  | nil t place => rfl
  | step t place c cs hc ih =>
    rw [makeDirectories_cons_of_not_name hc, makeDirectories_cons_of_not_name hc]
    exact ih
  | tooLong t place n cs hl =>
    rw [makeDirectories_name_of_exceeded hl, makeDirectories_name_of_exceeded hl]
  | directory t place n cs hl hd ih =>
    have hg := grown_makeDirectories t (place ++ [n]) cs
    rw [makeDirectories_name_of_directory hl hd,
      makeDirectories_name_of_directory (hg.limits ▸ hl) (hg.find?_of_some hd)]
    exact ih
  | file t place n cs content hl hf =>
    rw [makeDirectories_name_of_file hl hf, makeDirectories_name_of_file hl hf]
  | none t place n cs hl hn ih =>
    have hg := grown_makeDirectories (t.put (place ++ [n]) .directory) (place ++ [n]) cs
    -- The second time the directory is there.
    have hd : (t.put (place ++ [n]) .directory).find? (place ++ [n]) = some .directory := by
      rw [find?_put _ (by simp), if_pos rfl]
    rw [makeDirectories_name_of_none hl hn,
      makeDirectories_name_of_directory (hg.limits ▸ hl) (hg.find?_of_some hd)]
    exact ih

/-! ## Trees of files and directories -/

/-- Whether whatever is in the tree is in a directory, the current directory too. -/
structure WellFormed (t : FileTree) : Prop where
  current : t.find? t.current = some .directory
  parent : ∀ place n e, t.find? (place ++ [n]) = some e → t.find? place = some .directory

namespace WellFormed

theorem find?_dropLast (h : WellFormed t) (hd : t.find? place = some .directory) :
    t.find? place.dropLast = some .directory := by
  by_cases hp : place = []
  · rw [hp]
    rfl
  · rw [← List.dropLast_concat_getLast hp] at hd
    exact h.parent _ _ _ hd

/-- From a directory every component that is no name leads to a directory. -/
theorem find?_step (h : WellFormed t) (hd : t.find? place = some .directory) {c : PathComponent}
    (hc : ∀ n, c ≠ .name n) : t.find? (c.step place) = some .directory := by
  cases c with
  | root => rfl
  | here => exact hd
  | up => exact h.find?_dropLast hd
  | name n => exact absurd rfl (hc n)

/-- An entry can be put into a directory, unless a directory is there. -/
theorem put (h : WellFormed t) {n : String} (hd : t.find? place = some .directory)
    (hn : t.find? (place ++ [n]) ≠ some .directory) (e : FileEntry) :
    WellFormed (t.put (place ++ [n]) e) where
  current := by
    rw [find?_put _ (by simp), if_neg]
    · exact h.current
    · intro hc
      exact hn (hc ▸ h.current)
  parent := by
    intro q m e' he'
    rw [find?_put _ (by simp)] at he' ⊢
    -- Nothing is below the place, since there is no directory.
    have hne : q ≠ place ++ [n] := by
      rintro rfl
      rw [if_neg (by simp)] at he'
      exact hn (h.parent _ _ _ he')
    rw [if_neg hne]
    split at he'
    · next hq =>
      rw [(List.append_inj' hq rfl).1]
      exact hd
    · exact h.parent _ _ _ he'

end WellFormed

/-- Making directories from a directory keeps a tree well-formed. -/
theorem wellFormed_makeDirectories (h : WellFormed t) (hd : t.find? place = some .directory) :
    WellFormed (t.makeDirectories place cs).1 := by
  induction t, place, cs using makeDirectories_induction with
  | nil t place => exact h
  | step t place c cs hc ih =>
    rw [makeDirectories_cons_of_not_name hc]
    exact ih h (h.find?_step hd hc)
  | tooLong t place n cs hl =>
    rw [makeDirectories_name_of_exceeded hl]
    exact h
  | directory t place n cs hl hn ih =>
    rw [makeDirectories_name_of_directory hl hn]
    exact ih h hn
  | file t place n cs content hl hf =>
    rw [makeDirectories_name_of_file hl hf]
    exact h
  | none t place n cs hl hn ih =>
    rw [makeDirectories_name_of_none hl hn]
    refine ih (h.put hd (by simp [hn]) _) ?_
    rw [find?_put _ (by simp), if_pos rfl]

/-- **After success there are directories all along the way.** -/
theorem directories_of_makeDirectories (h : WellFormed t) (hd : t.find? place = some .directory)
    (hok : (t.makeDirectories place cs).2 = .ok ()) :
    ∀ q ∈ stops place cs, (t.makeDirectories place cs).1.find? q = some .directory := by
  induction t, place, cs using makeDirectories_induction with
  | nil t place =>
    intro q hq
    rw [stops, way, List.nil_append, List.mem_singleton] at hq
    rw [hq]
    exact hd
  | step t place c cs hc ih =>
    rw [makeDirectories_cons_of_not_name hc] at hok ⊢
    rw [stops_cons, List.forall_mem_cons]
    exact ⟨(grown_makeDirectories t _ cs).find?_of_some hd, ih h (h.find?_step hd hc) hok⟩
  | tooLong t place n cs hl =>
    rw [makeDirectories_name_of_exceeded hl] at hok
    simp at hok
  | directory t place n cs hl hn ih =>
    rw [makeDirectories_name_of_directory hl hn] at hok ⊢
    rw [stops_cons, List.forall_mem_cons]
    exact ⟨(grown_makeDirectories t _ cs).find?_of_some hd, ih h hn hok⟩
  | file t place n cs content hl hf =>
    rw [makeDirectories_name_of_file hl hf] at hok
    simp at hok
  | none t place n cs hl hn ih =>
    rw [makeDirectories_name_of_none hl hn] at hok ⊢
    rw [stops_cons, List.forall_mem_cons]
    have hput : ∀ q, (t.put (place ++ [n]) .directory).find? q =
        if q = place ++ [n] then some .directory else t.find? q :=
      find?_put t (by simp) _
    refine ⟨(grown_makeDirectories _ _ cs).find?_of_some ?_,
      ih (h.put hd (by simp [hn]) _) (by rw [hput, if_pos rfl]) hok⟩
    rw [hput]
    split
    · rfl
    · exact hd

end EntitySlice.FileTree
