import EntitySlice.Proofs.FileTree.Directories
import EntitySlice.Proofs.Path.Parent

/-!
# Writing files

A write to a path first makes the directories on its way and then puts the content at its end.

* `write_cases` — all that a write can do
* `write_of_ready` — a write to a path whose directories are there puts the content and does nothing
  more
* `write_ok` — a write succeeds where no file is in its way
* `write_congr` — what a write does depends on its way and its end
* `find?_write` — a write changes nothing else, and no directory
-/

namespace EntitySlice

/-- Whether `d` is the directory of the path and `n` the name in it. -/
structure Path.LiesIn (p d : Path) (n : String) : Prop where
  parent? : p.parent? = some d
  components : p.components = d.components ++ [.name n]
  /-- The directory is not asked for by a dot. -/
  endsInDot : d.endsInDot = false
  hasZero : FileTree.hasZero p.text = false → FileTree.hasZero d.text = false

/-- A path to a name in a named directory lies in that directory. -/
theorem Path.exists_liesIn {p : Path} {cs : List PathComponent} {m n : String}
    (h : p.components = cs ++ [.name m, .name n]) :
    ∃ d, p.LiesIn d n ∧ d.components = cs ++ [.name m] := by
  have h' : p.components = (cs ++ [.name m]) ++ [.name n] := by rw [h]; simp
  obtain ⟨d, hparent, hcomp, hdot, hmem⟩ := exists_parent? h'
  refine ⟨d, ⟨hparent, by rw [h', hcomp], hdot cs m rfl, ?_⟩, hcomp⟩
  intro hz
  unfold FileTree.hasZero at hz ⊢
  rw [Bool.eq_false_iff, ne_eq, List.contains_iff_mem] at hz ⊢
  intro hc
  rcases hmem _ hc with h0 | h0 | h0
  · exact absurd h0 (by decide)
  · exact absurd h0 (by decide)
  · exact hz h0

namespace FileTree

/-- A zero character in a joined path is in one of its parts. -/
theorem hasZero_join {p q : Path} (hp : hasZero p.text = false) (hq : hasZero q.text = false) :
    hasZero (p.join q).text = false := by
  unfold hasZero at *
  rw [Bool.eq_false_iff, ne_eq, List.contains_iff_mem] at *
  unfold Path.join
  split
  · exact hq
  · split
    · simp [hp, hq]
    · simp [hp, hq]

variable {t t' : FileTree} {p q d : Path} {n : String} {c : ByteArray}

/-! ## The two steps of a write -/

theorem makeDirectory_eq (t : FileTree) (hd : d.endsInDot = false) :
    t.makeDirectory d =
      match checkText t.limits d.text with
      | .error e => (t, .error e)
      | .ok () => t.makeDirectories t.current d.components := by
  unfold makeDirectory
  rw [hd]
  rfl

theorem write_eq (hp : p.LiesIn d n) (t : FileTree) (c : ByteArray) :
    t.write p c =
      match t.makeDirectory d with
      | (u, .error e) => (u, .error e)
      | (u, .ok ()) => u.writeFile p c := by
  unfold write
  exact hp.parent? ▸ rfl

/-- Making the directory of a path adds directories on the way of the path. -/
theorem grown_makeDirectory (hp : p.LiesIn d n) (t : FileTree) :
    Grown (way t.current p.components) t (t.makeDirectory d).1 := by
  rw [makeDirectory_eq t hp.endsInDot, hp.components, way_concat]
  cases checkText t.limits d.text with
  | error e => exact Grown.refl t
  | ok _ => exact grown_makeDirectories t _ _

/-- Whether a file can be written at the path without making directories. -/
structure Ready (t : FileTree) (p : Path) : Prop where
  parentText : ∀ d, p.parent? = some d → checkText t.limits d.text = .ok ()
  text : checkText t.limits p.text = .ok ()
  directories : ∀ q ∈ way t.current p.components, t.find? q = some .directory
  fits : ∀ c ∈ p.components, c.fits t.limits = true
  notDirectory : t.find? (t.placeOf p) ≠ some .directory
  asksForFile : p.asksForDirectory = false

theorem placeOf_ne_nil (hp : p.LiesIn d n) (t : FileTree) : t.placeOf p ≠ [] := by
  rw [placeOf, hp.components, placeFrom_append]
  simp [PathComponent.step]

theorem text_ne_of_liesIn (hp : p.LiesIn d n) : p.text ≠ "" := by
  intro h
  have h0 : p.components = [] := by
    rw [show p = ⟨""⟩ from by cases p; simpa using h]
    rfl
  rw [hp.components] at h0
  simp at h0

theorem locatePath_eq (hp : p.LiesIn d n) (t : FileTree) :
    t.locatePath p =
      match checkText t.limits p.text with
      | .error e => .error e
      | .ok () => t.locate t.current p.components := by
  unfold locatePath
  cases checkText t.limits p.text with
  | error e => rfl
  | ok _ => exact if_neg (text_ne_of_liesIn hp)

theorem Ready.locatePath (h : t.Ready p) (hp : p.LiesIn d n) :
    t.locatePath p = .ok (t.placeOf p) := by
  rw [locatePath_eq hp, h.text]
  exact locate_eq_ok_iff.mpr ⟨rfl, h.directories, h.fits⟩

theorem writeFile_of_ready (hp : p.LiesIn d n) (h : t.Ready p) (c : ByteArray) :
    t.writeFile p c = (t.put (t.placeOf p) (.file c), .ok ()) := by
  unfold writeFile
  rw [h.locatePath hp]
  cases hf : t.find? (t.placeOf p) with
  | none => simp [hf, h.asksForFile]
  | some e =>
    cases e with
    | file content => simp [hf, h.asksForFile]
    | directory => exact absurd hf h.notDirectory

/-- Writing a file without making directories fails and does nothing, or the path was ready. -/
theorem writeFile_cases (hp : p.LiesIn d n) (hd : checkText t.limits d.text = .ok ())
    (c : ByteArray) :
    (∃ e, t.writeFile p c = (t, .error e)) ∨ t.Ready p := by
  unfold writeFile
  rw [locatePath_eq hp]
  cases ht : checkText t.limits p.text with
  | error e => exact Or.inl ⟨e, rfl⟩
  | ok _ =>
    cases hl : t.locate t.current p.components with
    | error e => exact Or.inl ⟨e, rfl⟩
    | ok place =>
      obtain ⟨rfl, hway, hfits⟩ := locate_eq_ok_iff.mp hl
      by_cases hdir : t.find? (placeFrom t.current p.components) = some .directory
      · exact Or.inl ⟨.isDirectory, by simp only [hdir]⟩
      · by_cases hask : p.asksForDirectory = true
        · -- A path that asks for a directory is refused, whatever is at its end.
          refine Or.inl ?_
          cases hf : t.find? (placeFrom t.current p.components) with
          | none => exact ⟨.isDirectory, by simp only [hf, hask, if_true]⟩
          | some e =>
            cases e with
            | file content => exact ⟨.notDirectory, by simp only [hf, hask, if_true]⟩
            | directory => exact absurd hf hdir
        · refine Or.inr ⟨?_, ht, hway, hfits, hdir, by simpa using hask⟩
          intro d' hd'
          rw [hp.parent?, Option.some.injEq] at hd'
          rw [← hd']
          exact hd

/-! ## All that a write can do -/

/--
**A write adds directories on the way of the path.** Then it fails, or puts the content at the end
of the path.
-/
theorem write_cases (hp : p.LiesIn d n) (t : FileTree) (c : ByteArray) :
    ∃ u, Grown (way t.current p.components) t u ∧
      ((∃ e, t.write p c = (u, .error e)) ∨
        u.Ready p ∧ t.write p c = (u.put (t.placeOf p) (.file c), .ok ())) := by
  have hg := grown_makeDirectory hp t
  refine ⟨(t.makeDirectory d).1, hg, ?_⟩
  rw [write_eq hp]
  cases hm : t.makeDirectory d with
  | mk u r =>
    rw [hm] at hg
    cases r with
    | error e => exact Or.inl ⟨e, rfl⟩
    | ok _ =>
      -- The directories have been made, so their text has been let through.
      have hd : checkText u.limits d.text = .ok () := by
        rw [hg.limits]
        rw [makeDirectory_eq t hp.endsInDot] at hm
        cases hc : checkText t.limits d.text with
        | ok _ => rfl
        | error e => simp [hc] at hm
      rcases writeFile_cases hp hd c with he | hr
      · exact Or.inl he
      · have hplace : t.placeOf p = u.placeOf p := by rw [placeOf, placeOf, hg.current]
        exact Or.inr ⟨hr, by rw [hplace]; exact writeFile_of_ready hp hr c⟩

/-- **A write to a path whose directories are there puts the content and does nothing more.** -/
theorem write_of_ready (hp : p.LiesIn d n) (h : t.Ready p) (c : ByteArray) :
    t.write p c = (t.put (t.placeOf p) (.file c), .ok ()) := by
  have hdirs := h.directories
  have hfits := h.fits
  rw [hp.components, way_concat] at hdirs
  rw [hp.components] at hfits
  have hm : t.makeDirectory d = (t, .ok ()) := by
    rw [makeDirectory_eq t hp.endsInDot, h.parentText d hp.parent?]
    exact makeDirectories_of_directories hdirs
      fun x hx => hfits x (List.mem_append_left _ hx)
  rw [write_eq hp, hm]
  exact writeFile_of_ready hp h c

/-- What was written can be read. -/
theorem read_of_ready (hp : p.LiesIn d n) (h : t.Ready p)
    (hf : t.find? (t.placeOf p) = some (.file c)) : t.read p = .ok c := by
  unfold read
  rw [h.locatePath hp]
  simp [bind, Except.bind, hf, h.asksForFile]

/-- A path stays ready as long as the directories stay and its end is no directory. -/
theorem Ready.mono (h : t.Ready p) (hc : t'.current = t.current) (hl : t'.limits = t.limits)
    (hd : ∀ q, t.find? q = some .directory → t'.find? q = some .directory)
    (hn : t'.find? (t.placeOf p) ≠ some .directory) : t'.Ready p where
  parentText := by rw [hl]; exact h.parentText
  text := by rw [hl]; exact h.text
  directories := by rw [hc]; exact fun q hq => hd q (h.directories q hq)
  fits := by rw [hl]; exact h.fits
  notDirectory := by rw [placeOf, hc]; exact hn
  asksForFile := h.asksForFile

/-- A text without a zero character is never too long where there is no limit. -/
theorem checkText_of_unlimited {s : String} (h : hasZero s = false) :
    checkText .unlimited s = .ok () := by
  unfold checkText
  rw [h]
  rfl

/--
**A write succeeds where no file is in its way.** Its end must not be a directory, nor a place that
it goes through itself.
-/
theorem write_ok (hp : p.LiesIn d n) (hwf : WellFormed t) (hl : t.limits = .unlimited)
    (hzero : hasZero p.text = false) (hask : p.asksForDirectory = false)
    (hway : ∀ q ∈ way t.current p.components, ∀ content, t.find? q ≠ some (.file content))
    (hend : t.find? (t.placeOf p) ≠ some .directory)
    (hout : t.placeOf p ∉ way t.current p.components) (c : ByteArray) :
    (t.write p c).2 = .ok () := by
  have hfits : ∀ x : PathComponent, x.fits t.limits = true := by
    rw [hl]
    intro x
    cases x <;> rfl
  have hd : checkText t.limits d.text = .ok () := by
    rw [hl]
    exact checkText_of_unlimited (hp.hasZero hzero)
  rw [hp.components, way_concat] at hway
  have hok : (t.makeDirectories t.current d.components).2 = .ok () :=
    makeDirectories_ok hway fun x _ => hfits x
  have hdirs := directories_of_makeDirectories hwf hwf.current hok
  have hg := grown_makeDirectories t t.current d.components
  rw [write_eq hp, makeDirectory_eq t hp.endsInDot, hd]
  rcases hu : t.makeDirectories t.current d.components with ⟨u, r⟩
  rw [hu] at hok hdirs hg
  subst hok
  have hplace : u.placeOf p = t.placeOf p := by rw [placeOf, placeOf, hg.current]
  have hready : u.Ready p := by
    refine ⟨?_, ?_, ?_, fun x _ => hg.limits ▸ hfits x, ?_, hask⟩
    · intro d' hd'
      rw [hp.parent?, Option.some.injEq] at hd'
      rw [← hd', hg.limits]
      exact hd
    · rw [hg.limits, hl]
      exact checkText_of_unlimited hzero
    · rw [hg.current, hp.components, way_concat]
      exact hdirs
    · rw [hplace]
      rcases hg.find? (t.placeOf p) with he | ⟨hmem, -, -⟩
      · rw [he]
        exact hend
      · rw [hp.components, way_concat] at hout
        exact absurd hmem hout
  simp only [writeFile_of_ready hp hready c]

/-! ## What a write depends on -/

theorem writeFile_congr {S : List String → Prop} (hp : p.LiesIn d n) (h : Agree S t t')
    (hw : ∀ q ∈ stops t.current p.components, S q) (c : ByteArray) :
    (t'.writeFile p c).2 = (t.writeFile p c).2 ∧
      Agree S (t.writeFile p c).1 (t'.writeFile p c).1 := by
  have hplace : t'.locatePath p = t.locatePath p := by
    rw [locatePath_eq hp, locatePath_eq hp, h.limits, h.current,
      locate_congr h fun q hq => hw q (mem_stops_of_mem_way hq)]
  unfold writeFile
  rw [hplace]
  cases hl : t.locatePath p with
  | error e => exact ⟨rfl, h⟩
  | ok place =>
    have hend : place = t.placeOf p := by
      rw [locatePath_eq hp] at hl
      cases ht : checkText t.limits p.text with
      | error e => simp [ht] at hl
      | ok _ =>
        simp only [ht] at hl
        exact (locate_eq_ok_iff.mp hl).1
    have hput : Agree S (t.put place (.file c)) (t'.put place (.file c)) :=
      h.put (hend ▸ placeOf_ne_nil hp t) _
    simp only [h.find? place (hend ▸ hw _ (placeFrom_mem_stops _ _))]
    cases t.find? place with
    | none =>
      cases p.asksForDirectory with
      | true => exact ⟨rfl, h⟩
      | false => exact ⟨rfl, hput⟩
    | some e =>
      cases e with
      | directory => exact ⟨rfl, h⟩
      | file content =>
        cases p.asksForDirectory with
        | true => exact ⟨rfl, h⟩
        | false => exact ⟨rfl, hput⟩

/-- **What a write does depends on its way and its end.** -/
theorem write_congr {S : List String → Prop} (hp : p.LiesIn d n) (h : Agree S t t')
    (hw : ∀ q ∈ stops t.current p.components, S q) (c : ByteArray) :
    (t'.write p c).2 = (t.write p c).2 ∧ Agree S (t.write p c).1 (t'.write p c).1 := by
  rw [write_eq hp, write_eq hp, makeDirectory_eq t hp.endsInDot, makeDirectory_eq t' hp.endsInDot,
    h.limits]
  cases checkText t.limits d.text with
  | error e => exact ⟨rfl, h⟩
  | ok _ =>
    have hway : ∀ q ∈ stops t.current d.components, S q := by
      rw [← way_concat _ _ (.name n), ← hp.components]
      exact fun q hq => hw q (mem_stops_of_mem_way hq)
    have hm := makeDirectories_congr h hway
    have hg := grown_makeDirectories t t.current d.components
    rw [h.current]
    cases hu : t.makeDirectories t.current d.components with
    | mk u r =>
      cases hu' : t'.makeDirectories t.current d.components with
      | mk u' r' =>
        rw [hu, hu'] at hm
        rw [hu] at hg
        obtain ⟨rfl, ha⟩ := hm
        cases r' with
        | error e => exact ⟨rfl, ha⟩
        | ok _ =>
          refine writeFile_congr hp ha ?_ c
          rw [hg.current]
          exact hw

/-- A write changes nothing but its way and its end, and no directory. -/
theorem find?_write (hp : p.LiesIn d n) (t : FileTree) (c : ByteArray) {q : List String}
    (h : q ∈ stops t.current p.components → t.find? q = some .directory) :
    (t.write p c).1.find? q = t.find? q := by
  obtain ⟨u, hg, hw⟩ := write_cases hp t c
  have hu : u.find? q = t.find? q := by
    rcases hg.find? q with he | ⟨hq, hn, -⟩
    · exact he
    · rw [h (mem_stops_of_mem_way hq)] at hn
      simp at hn
  rcases hw with ⟨e, he⟩ | ⟨hr, he⟩
  · rw [he]
    exact hu
  · rw [he]
    -- What has been written is not at `q`, since no directory is at its place.
    have hne : q ≠ t.placeOf p := by
      rintro rfl
      have hplace : u.placeOf p = t.placeOf p := by rw [placeOf, placeOf, hg.current]
      have hdir := h (placeFrom_mem_stops _ _)
      exact hr.notDirectory (by rw [hplace, hu, hdir])
    rw [find?_put _ (placeOf_ne_nil hp t), if_neg hne]
    exact hu

theorem current_write (hp : p.LiesIn d n) (t : FileTree) (c : ByteArray) :
    (t.write p c).1.current = t.current := by
  obtain ⟨u, hg, ⟨e, he⟩ | ⟨-, he⟩⟩ := write_cases hp t c
  · rw [he]
    exact hg.current
  · rw [he]
    exact hg.current

theorem limits_write (hp : p.LiesIn d n) (t : FileTree) (c : ByteArray) :
    (t.write p c).1.limits = t.limits := by
  obtain ⟨u, hg, ⟨e, he⟩ | ⟨-, he⟩⟩ := write_cases hp t c
  · rw [he]
    exact hg.limits
  · rw [he]
    exact hg.limits

/-- A write keeps every directory. -/
theorem find?_write_of_directory (hp : p.LiesIn d n) (c : ByteArray) {q : List String}
    (h : t.find? q = some .directory) : (t.write p c).1.find? q = some .directory := by
  rw [find?_write hp t c fun _ => h, h]

/-- Writing keeps a tree well-formed. -/
theorem wellFormed_write (hp : p.LiesIn d n) (h : WellFormed t) (c : ByteArray) :
    WellFormed (t.write p c).1 := by
  rw [write_eq hp, makeDirectory_eq t hp.endsInDot]
  cases hd : checkText t.limits d.text with
  | error e => exact h
  | ok _ =>
    have hwf : WellFormed (t.makeDirectories t.current d.components).1 :=
      wellFormed_makeDirectories h h.current
    have hg := grown_makeDirectories t t.current d.components
    cases hu : t.makeDirectories t.current d.components with
    | mk u r =>
      rw [hu] at hwf hg
      cases r with
      | error e => exact hwf
      | ok _ =>
        rcases writeFile_cases hp (hg.limits ▸ hd) c with ⟨e, he⟩ | hr
        · simp only [he]
          exact hwf
        · simp only [writeFile_of_ready hp hr c]
          have hplace : u.placeOf p = placeFrom u.current d.components ++ [n] := by
            rw [placeOf, hp.components, placeFrom_append]
            rfl
          have hdir : u.find? (placeFrom u.current d.components) = some .directory := by
            refine hr.directories _ ?_
            rw [hp.components, way_concat]
            exact placeFrom_mem_stops _ _
          have hnot := hr.notDirectory
          rw [hplace] at hnot ⊢
          exact hwf.put hdir hnot _

end FileTree

end EntitySlice
